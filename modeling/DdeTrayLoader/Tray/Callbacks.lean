import DdeTrayLoader.Tray.Ownership

/-!
# Callbacks that outlive their handler

Three callbacks refer to a handler without being cancelled when it goes: the un-shape timer
of a click, the rest of a hover or click after its nested event loop, and the delayed
initialisation of an indicator. None of them runs after its handler is destroyed in a run
that drops only handlers which none of them refers to.
-/

namespace DdeTrayLoader.Tray

open Transition

namespace DDEindicatorProtocol

variable {d d' : DDEindicatorProtocol}

/-- The handlers whose initialisation is delayed exist. -/
structure DelayedAlive (d : DDEindicatorProtocol) : Prop where
  registered : ∀ path ref, d.registedItem.lookup path = some ref → ref < d.next
  lt : ∀ ref ∈ d.delayed, ref < d.next
  alive : ∀ ref ∈ d.delayed, d.alive ref = true

/-- The handlers of files that are gone are initialised. -/
def GoneIdle (indicatorPaths : List String) (d : DDEindicatorProtocol) : Prop :=
  ∀ path ref, path ∉ indicatorPaths → d.registedItem.lookup path = some ref → ref ∉ d.delayed

/-- The state while the files are listed. -/
structure Listing (indicatorPaths : List String) (d : DDEindicatorProtocol) : Prop where
  delayed : d.DelayedAlive
  idle : d.GoneIdle indicatorPaths

theorem Listing.addIndicator {indicatorPaths : List String} (h : Listing indicatorPaths d)
    {path : String} (hpath : path ∈ indicatorPaths) :
    Listing indicatorPaths (d.addIndicator path) := by
  unfold DDEindicatorProtocol.addIndicator
  split_ifs with hmem
  · exact h
  refine ⟨⟨fun other ref hlookup => ?_, fun ref href => ?_, fun ref href => ?_⟩,
    fun other ref hgone hlookup href => ?_⟩
  · by_cases hother : other = path
    · rw [hother, AList.lookup_insert] at hlookup
      exact Option.some.inj hlookup ▸ Nat.lt_succ_self _
    · rw [AList.lookup_insert_ne hother] at hlookup
      exact (h.delayed.registered other ref hlookup).trans (Nat.lt_succ_self _)
  · rcases List.mem_append.mp href with hold | hnew
    · exact (h.delayed.lt ref hold).trans (Nat.lt_succ_self _)
    · exact List.mem_singleton.mp hnew ▸ Nat.lt_succ_self _
  · rcases List.mem_append.mp href with hold | hnew
    · exact (Function.update_of_ne (h.delayed.lt ref hold).ne _ _).trans (h.delayed.alive ref hold)
    · exact List.mem_singleton.mp hnew ▸ Function.update_self _ _ _
  · have hother : other ≠ path := fun hother => hgone (hother ▸ hpath)
    rw [AList.lookup_insert_ne hother] at hlookup
    rcases List.mem_append.mp href with hold | hnew
    · exact h.idle other ref hgone hlookup hold
    · exact (h.delayed.registered other ref hlookup).ne (List.mem_singleton.mp hnew)

theorem Listing.removeIndicator {indicatorPaths : List String} (h : Listing indicatorPaths d)
    (path : String) : Listing indicatorPaths (d.removeIndicator indicatorPaths path) := by
  unfold DDEindicatorProtocol.removeIndicator
  split_ifs with hmem
  · exact h
  cases hlookup : d.registedItem.lookup path with
  | none => exact h
  | some gone =>
    have hidle : gone ∉ d.delayed := h.idle path gone hmem hlookup
    have hold (other : String) (ref : ℕ)
        (hother : (d.registedItem.erase path).lookup other = some ref) :
        d.registedItem.lookup other = some ref := by
      by_cases hsame : other = path
      · rw [hsame, AList.lookup_erase] at hother
        cases hother
      · rwa [AList.lookup_erase_ne hsame] at hother
    refine ⟨⟨fun other ref hother => h.delayed.registered other ref (hold other ref hother),
      h.delayed.lt, fun ref href => ?_⟩, fun other ref hgone hother => ?_⟩
    · have hne : ref ≠ gone := by
        intro hsame
        subst hsame
        exact hidle href
      exact (Function.update_of_ne hne _ _).trans (h.delayed.alive ref href)
    · exact h.idle other ref hgone (hold other ref hother)

theorem Listing.registedItemChanged {indicatorPaths : List String} (h : Listing indicatorPaths d)
    (order : HashOrder String) : (d.registedItemChanged indicatorPaths order).DelayedAlive := by
  have hadded : Listing indicatorPaths (run DDEindicatorProtocol.addIndicator d indicatorPaths) :=
    run_invariant_of_mem (fun path hpath d' h' => h'.addIndicator hpath) h
  have hremoved : Listing indicatorPaths (d.registedItemChanged indicatorPaths order) :=
    run_invariant (fun d' path h' => h'.removeIndicator path) _ hadded
  exact hremoved.delayed

theorem DelayedAlive.initDelayed (hdelayed : d.DelayedAlive) (i : ℕ) :
    (d.initDelayed i).DelayedAlive where
  registered := hdelayed.registered
  alive ref href := hdelayed.alive ref (List.mem_of_mem_eraseIdx href)
  lt ref href := hdelayed.lt ref (List.mem_of_mem_eraseIdx href)

end DDEindicatorProtocol

namespace TraySystem

variable {session : Session} {t : TraySystem} {e : Event}

/-- No handler that this event drops has a nested event loop that is running, an un-shape timer
that is armed, or a delayed initialisation. -/
structure DropsIdle (session : Session) (t : TraySystem) (e : Event) : Prop where
  xembed : ∀ window ref, t.Drops session window e → t.xembed.value window = some ref →
    ¬t.handlers.Outstanding ref
  indicator : ∀ indicatorPaths order, e = .indicatorsChanged indicatorPaths order →
    t.indicator.GoneIdle indicatorPaths

/-- The handler a callback refers to exists when the callback runs. -/
def CallsBackLive (t : TraySystem) : Event → Prop
  | .handler .loopQuits => ∀ frame ∈ t.handlers.frames.head?,
    (t.handlers.handler frame.1).alive = true
  | .handler (.unshape i) => ∀ ref ∈ t.handlers.unshapes[i]?, (t.handlers.handler ref).alive = true
  | .indicatorDelayed i => ∀ ref ∈ t.indicator.delayed[i]?, t.indicator.alive ref = true
  | _ => True

/-- The handlers that callbacks refer to exist, and this step does not drop them. -/
def OutstandingAlive (session : Session) (t : TraySystem) (e : Event) (h : Handlers) : Prop :=
  ∀ ref, h.Outstanding ref → (h.handler ref).alive = true ∧
    ∀ window, t.Drops session window e → t.xembed.value window ≠ some ref

theorem outstandingAlive_keeps (h : t.OutstandingAlive session e t.handlers) :
    Keeps session t e fun h _ => t.OutstandingAlive session e h where
  dock h items window _ howners hkept _ _ ref houtstanding := by
    obtain ⟨halive, hspared⟩ := hkept ref
      ((Handlers.outstanding_congr (h.construct_frame window)).mp houtstanding)
    rw [Handlers.construct_handler, if_neg (howners.alive_lt halive).ne]
    exact ⟨halive, hspared⟩
  suppress h items window howners hkept _ _ ref houtstanding := by
    have hconstructed := (Handlers.outstanding_congr (Handlers.destruct_frame _ _)).mp houtstanding
    obtain ⟨halive, hspared⟩ := hkept ref
      ((Handlers.outstanding_congr (h.construct_frame window)).mp hconstructed)
    rw [Owners.suppress_handler (howners.alive_lt halive).ne]
    exact ⟨halive, hspared⟩
  drop h items window ref howners hkept _ hvalue hdrops ref' houtstanding := by
    have hinvalidated := (Handlers.outstanding_congr (Handlers.destruct_frame _ _)).mp houtstanding
    obtain ⟨halive, hspared⟩ := hkept ref'
      ((Handlers.outstanding_congr (h.invalidate_frame ref)).mp hinvalidated)
    have hne : ref' ≠ ref := by
      intro hsame
      subst hsame
      exact hspared window hdrops hvalue
    rw [Owners.drop_handler hne]
    exact ⟨halive, hspared⟩
  leaveNotify window _ _ ref houtstanding := by
    rw [(t.handlers.leaveNotify_frame _ window).handler]
    exact h ref (Handlers.outstanding_leaveNotify.mp houtstanding)
  destroyNotify window order _ _ _ ref houtstanding := by
    rw [Handlers.destroyNotify_alive]
    exact h ref (Handlers.outstanding_destroyNotify.mp houtstanding)
  handler handlerEvent heq ref houtstanding := by
    subst heq
    refine ⟨?_, fun _ hdrops => hdrops.elim⟩
    rw [(handlerStep_members session t.handlers handlerEvent ref).1]
    exact (outstanding_handlerStep houtstanding).elim (fun hold => (h ref hold).1) And.left

/-- The handlers that callbacks refer to exist. -/
structure CallbacksAlive (session : Session) (t : TraySystem) : Prop where
  owned : t.Owned session
  outstanding : ∀ ref, t.handlers.Outstanding ref → (t.handlers.handler ref).alive = true
  delayed : t.indicator.DelayedAlive

theorem CallbacksAlive.delayed_step (h : t.CallbacksAlive session) (hidle : t.DropsIdle session e) :
    (t.step session e).indicator.DelayedAlive := by
  have hdelayed := h.delayed
  cases e with
  | indicatorsChanged indicatorPaths order =>
    exact DDEindicatorProtocol.Listing.registedItemChanged
      ⟨hdelayed, hidle.indicator indicatorPaths order rfl⟩ order
  | indicatorDelayed i => exact hdelayed.initDelayed i
  | registedItemChanged order =>
    rw [step, (t.registedItemChanged_spec order).1.indicator]
    exact hdelayed
  | handlerCreated item order =>
    rw [step, (t.handlerCreated_frame session item order).2]
    exact hdelayed
  | syncTrayIcons listed order =>
    rw [step, (t.syncTrayIcons_frame session listed order).2]
    exact hdelayed
  | registerIcon window pixmapData =>
    rw [step, registerIcon]
    split <;> exact hdelayed
  | unregisterIcon window =>
    rw [step, unregisterIcon]
    split <;> exact hdelayed
  | onTrayIconsChanged =>
    rw [step, onTrayIconsChanged]
    split <;> exact hdelayed
  | leaveNotify window =>
    rw [step]
    split <;> exact hdelayed
  | destroyNotify window order =>
    rw [step]
    split <;> exact hdelayed
  | _ => exact hdelayed

theorem CallbacksAlive.step (h : t.CallbacksAlive session) (hidle : t.DropsIdle session e) :
    (t.step session e).CallbacksAlive session := by
  have halive : t.OutstandingAlive session e t.handlers := fun ref houtstanding =>
    ⟨h.outstanding ref houtstanding,
      fun window hdrops hvalue => hidle.xembed window ref hdrops hvalue houtstanding⟩
  obtain ⟨howned, hkept⟩ := h.owned.step (outstandingAlive_keeps halive) halive
  exact ⟨howned, fun ref houtstanding => (hkept ref houtstanding).1, h.delayed_step hidle⟩

theorem CallbacksAlive.callsBackLive (h : t.CallbacksAlive session) (e : Event) :
    t.CallsBackLive e := by
  cases e with
  | handler handlerEvent =>
    cases handlerEvent with
    | loopQuits =>
      intro frame hframe
      exact h.outstanding frame.1 (.inr ⟨frame.2, List.mem_of_mem_head? hframe⟩)
    | unshape i =>
      intro ref href
      exact h.outstanding ref (.inl (List.mem_of_getElem? href))
    | _ => trivial
  | indicatorDelayed i =>
    intro ref href
    exact h.delayed.alive ref (List.mem_of_getElem? href)
  | _ => trivial

theorem initial_callbacksAlive (session : Session) :
    (initial session).CallbacksAlive session where
  owned := initial_owned session
  outstanding _ houtstanding :=
    houtstanding.elim (fun hmem => absurd hmem List.not_mem_nil)
      fun ⟨_, hmem⟩ => absurd hmem List.not_mem_nil
  delayed := ⟨fun _ _ hlookup => (nomatch hlookup), fun _ hmem => absurd hmem List.not_mem_nil,
    fun _ hmem => absurd hmem List.not_mem_nil⟩

/-- In a run that drops only idle handlers, every callback finds its handler alive. -/
theorem callsBackLive_of_dropsIdle (session : Session) (es : List Event)
    (hidle : Obeys (step session) (DropsIdle session) (initial session) es) :
    Obeys (step session) CallsBackLive (initial session) es :=
  obeys_of_invariant (I := CallbacksAlive session) (fun _ _ h hidle => h.step hidle)
    (fun _ e h _ => h.callsBackLive e) (initial_callbacksAlive session) hidle

/-- An indicator file that goes after its handler is initialised. -/
theorem callsBackLive_after_initialisation :
    Obeys (step (.empty true (fun _ => 0) fun _ _ => 0)) CallsBackLive
      (initial (.empty true (fun _ => 0) fun _ _ => 0))
      [.indicatorsChanged ["/etc/dde-dock/indicator/a.json"] (.stored _), .indicatorDelayed 0,
        .indicatorsChanged [] (.stored _)] := by
  refine callsBackLive_of_dropsIdle _ _ ⟨⟨fun _ _ hdrops => hdrops.elim, ?_⟩,
    ⟨fun _ _ hdrops => hdrops.elim, ?_⟩, ⟨fun _ _ hdrops => hdrops.elim, ?_⟩, trivial⟩
  · intro _ _ _ _ _ _ hlookup
    cases hlookup
  · intro _ _ heq
    cases heq
  · intro _ _ _ _ ref _ _
    exact List.not_mem_nil

/-- An icon is clicked after TrayManager1 has dropped it and before the sync. -/
theorem not_callsBackLive_after_click :
    ∃ (session : Session) (es : List Event),
      ¬Obeys (step session) CallsBackLive (initial session) es := by
  refine ⟨.empty false (fun _ => 0) fun _ _ => 0,
    [.registerIcon 1 [], .onTrayIconsChanged, .syncTrayIcons (.stored _) (.stored _),
      .handler (.initX11resources 0 0x200000), .handler (.iconCaptured 0 true),
      .unregisterIcon 1, .onTrayIconsChanged, .handler (.sendClick 0 true),
      .syncTrayIcons (.stored _) (.stored _), .handler (.unshape 0)], fun hobeys => ?_⟩
  have halive := hobeys.2.2.2.2.2.2.2.2.2.1 0 (by decide)
  revert halive
  decide

end TraySystem

end DdeTrayLoader.Tray
