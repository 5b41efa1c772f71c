import DdeTrayLoader.Tray.Docking

/-!
# The claim of the selection

`FdoSelectionManager` installs its event filter before it claims the system tray selection. The
claim is answered later and may fail, and only the answer that it succeeded creates
`m_trayManager`, which the filter uses. Here the manager is followed from its construction; once
it has a tray manager, docking is what `Docking` says of it.

A use of the null pointer ends the process, so nothing happens after it.
-/

namespace DdeTrayLoader.Tray

open Transition

/-- How a use of the null `m_trayManager` ends. -/
inductive Fault where
  /-- A member function is called. -/
  | nullDereference
  /-- `Q_CHECK_PTR` finds it. -/
  | badAlloc
  deriving DecidableEq, Repr

/-- The numbers of the X11 events, and the request to dock. -/
def XCB_CLIENT_MESSAGE : ℕ := 33
def XCB_UNMAP_NOTIFY : ℕ := 18
def XCB_DESTROY_NOTIFY : ℕ := 17
def XCB_DAMAGE_NOTIFY : ℕ := 0
def SYSTEM_TRAY_REQUEST_DOCK : ℕ := 0

/-- An event of the window system, with the members that the filter reads of it and what the X
server answers while it is handled. -/
structure NativeEvent where
  eventType : String
  response_type : UInt8
  /-- The type and the data of a client message. -/
  type : ℕ
  data1 : ℕ
  data2 : Window
  /-- The window of a destroy notification. -/
  window : Window
  /-- The drawable of a damage notification. -/
  drawable : Window
  order : HashOrder Window
  replies : DockReplies

/-- `XCB_EVENT_RESPONSE_TYPE`. -/
def NativeEvent.responseType (ev : NativeEvent) : ℕ := (ev.response_type &&& 0x7f).toNat

/-- The members of `FdoSelectionManager` from its construction on. -/
structure SelectionManager where
  /-- `init` has installed the event filter. -/
  filtering : Bool
  damageEventBase : UInt8
  trayManager : Option TrayManager1.Log
  damageWatches : QHash Window ℕ
  generated : ℕ
  requests : List DamageRequest

/-- What the manager is told. -/
inductive SelectionEvent where
  /-- The timer of the constructor; `damage` is the first event of the damage extension. -/
  | init (damage : Option UInt8)
  | native (ev : NativeEvent)
  | claimedOwnership
  | failedToClaimOwnership
  | lostOwnership
  /-- A client of the tray manager has it claim the selection again. -/
  | reclainRequested
  | enableNotification (win : Window) (enabled : Bool)

namespace SelectionManager

/-- The constructor, which leaves `m_damageEventBase` as it finds it. -/
def initial (damageEventBase : UInt8) : SelectionManager where
  filtering := false
  damageEventBase := damageEventBase
  trayManager := none
  damageWatches := ∅
  generated := 0
  requests := []

/-- The manager, if it has a tray manager. -/
def claimed (s : SelectionManager) : Option FdoSelectionManager :=
  s.trayManager.map fun trayManager => ⟨trayManager, s.damageWatches, s.generated, s.requests⟩

/-- The manager after something was done with its tray manager. -/
def withClaimed (s : SelectionManager) (m : FdoSelectionManager) : SelectionManager :=
  { s with
    trayManager := some m.trayManager
    damageWatches := m.damageWatches
    generated := m.generated
    requests := m.requests }

/-- Do something with the tray manager, or end with a fault. -/
def deref (s : SelectionManager) (fault : Fault) (f : FdoSelectionManager → FdoSelectionManager) :
    Except Fault SelectionManager :=
  match s.claimed with
  | none => .error fault
  | some m => .ok (s.withClaimed (f m))

/-- `init`. Without the damage extension it asks the application to quit and goes on. -/
def init (s : SelectionManager) (damage : Option UInt8) : SelectionManager :=
  { s with filtering := true, damageEventBase := damage.getD s.damageEventBase }

variable (connection : XConnection) (trayOpcode : ℕ)

/-- `dock`. -/
def dock (s : SelectionManager) (winId : Window) (order : HashOrder Window)
    (replies : DockReplies) : Except Fault SelectionManager :=
  s.deref .badAlloc fun m => m.dock connection winId order replies

/-- `nativeEventFilter`, with its result; `trayOpcode` is the atom `_NET_SYSTEM_TRAY_OPCODE`. -/
def nativeEventFilter (s : SelectionManager) (ev : NativeEvent) :
    Except Fault (SelectionManager × Bool) :=
  if ev.eventType ≠ "xcb_generic_event_t" then .ok (s, false)
  else if ev.responseType = XCB_CLIENT_MESSAGE then
    if ev.type = trayOpcode ∧ ev.data1 = SYSTEM_TRAY_REQUEST_DOCK then do
      let s ← s.dock connection ev.data2 ev.order ev.replies
      return (s, true)
    else .ok (s, false)
  else if ev.responseType = XCB_UNMAP_NOTIFY then .ok (s, false)
  else if ev.responseType = XCB_DESTROY_NOTIFY then do
    let s ← s.deref .nullDereference fun m =>
      if m.trayManager.manager.haveIcon ev.window then m.undock ev.window else m
    return (s, false)
  else if ev.responseType = s.damageEventBase.toNat + XCB_DAMAGE_NOTIFY then do
    let s ← s.deref .nullDereference fun m => m.damageNotify ev.drawable ev.replies.captured
    return (s, false)
  else .ok (s, false)

/-- `initTrayManager`. -/
def initTrayManager (s : SelectionManager) : SelectionManager :=
  { s with trayManager := some (s.trayManager.getD .initial) }

/-- `onClaimedOwnership`. -/
def onClaimedOwnership (s : SelectionManager) : Except Fault SelectionManager :=
  s.initTrayManager.deref .nullDereference FdoSelectionManager.onClaimedOwnership

/-- What the manager does when it is told something. -/
def handle (s : SelectionManager) : SelectionEvent → Except Fault SelectionManager
  | .init damage => if s.filtering then .ok s else .ok (s.init damage)
  | .native ev => if s.filtering then (s.nativeEventFilter connection trayOpcode ev).map Prod.fst
    else .ok s
  -- `init` has connected the signals of the selection owner
  | .claimedOwnership => if s.filtering then s.onClaimedOwnership else .ok s
  | .failedToClaimOwnership | .lostOwnership | .reclainRequested => .ok s
  | .enableNotification win enabled =>
    -- the object is on the bus once it exists
    if s.trayManager.isSome then
      s.deref .nullDereference fun m => m.call (.enableNotification win enabled)
    else .ok s

/-- The process: it goes on until a fault. -/
def step (process : Except Fault SelectionManager) (e : SelectionEvent) :
    Except Fault SelectionManager :=
  process.bind fun s => s.handle connection trayOpcode e

/-- The event makes the filter use the tray manager. -/
def UsesTrayManager (s : SelectionManager) (ev : NativeEvent) : Prop :=
  ev.eventType = "xcb_generic_event_t" ∧
    (ev.responseType = XCB_CLIENT_MESSAGE ∧ ev.type = trayOpcode ∧
        ev.data1 = SYSTEM_TRAY_REQUEST_DOCK ∨
      ev.responseType = XCB_DESTROY_NOTIFY ∨
      ev.responseType = s.damageEventBase.toNat + XCB_DAMAGE_NOTIFY ∧
        ev.responseType ≠ XCB_CLIENT_MESSAGE ∧ ev.responseType ≠ XCB_UNMAP_NOTIFY)

/-- Nothing was the use of a null pointer. -/
def Safe (process : Except Fault SelectionManager) : Prop := ∃ s, process = .ok s

/-- The filter sees no event that uses the tray manager before the selection is claimed. -/
def ClaimedFirst (process : Except Fault SelectionManager) (e : SelectionEvent) : Prop :=
  ∀ s ev, process = .ok s → e = .native ev → s.filtering = true → s.trayManager = none →
    ¬s.UsesTrayManager trayOpcode ev

/-! ## When the tray manager is used -/

variable {connection trayOpcode}

/-- A manager with a tray manager does what is asked of it. -/
theorem deref_isSome {s : SelectionManager} (h : s.trayManager.isSome) (fault : Fault)
    (f : FdoSelectionManager → FdoSelectionManager) : Safe (s.deref fault f) := by
  obtain ⟨trayManager, htray⟩ := Option.isSome_iff_exists.mp h
  refine ⟨s.withClaimed (f ⟨trayManager, s.damageWatches, s.generated, s.requests⟩), ?_⟩
  unfold deref claimed
  rw [htray]
  rfl

/-- Without a tray manager it ends with a fault. -/
theorem deref_none {s : SelectionManager} (h : s.trayManager = none) (fault : Fault)
    (f : FdoSelectionManager → FdoSelectionManager) : s.deref fault f = .error fault := by
  unfold deref claimed
  rw [h]
  rfl

theorem not_safe_error (fault : Fault) : ¬Safe (.error fault) := by
  intro h
  obtain ⟨s, hs⟩ := h
  cases hs

/-- The use of the tray manager is safe exactly if there is one. -/
theorem safe_deref_iff {s : SelectionManager} {fault : Fault}
    {f : FdoSelectionManager → FdoSelectionManager} :
    Safe (s.deref fault f) ↔ s.trayManager ≠ none := by
  constructor
  · intro hsafe hnone
    rw [deref_none hnone] at hsafe
    exact not_safe_error fault hsafe
  · intro hsome
    exact deref_isSome (Option.isSome_iff_ne_none.mpr hsome) fault f

/-- What is returned beside the manager does not matter. -/
theorem map_fst_bind (process : Except Fault SelectionManager) (consumed : Bool) :
    (process >>= fun s => (pure (s, consumed) : Except Fault _)).map Prod.fst = process := by
  cases process with
  | error fault => rfl
  | ok s => rfl

/-- An event that uses the tray manager uses it, and no other event does anything. -/
theorem nativeEventFilter_cases (connection : XConnection) (trayOpcode : ℕ)
    (s : SelectionManager) (ev : NativeEvent) :
    (s.UsesTrayManager trayOpcode ev ∧ ∃ fault f,
      (s.nativeEventFilter connection trayOpcode ev).map Prod.fst = s.deref fault f ∧
        ∃ event : DockEvent, ∀ m, f m = m.step connection event) ∨
      (¬s.UsesTrayManager trayOpcode ev ∧
        (s.nativeEventFilter connection trayOpcode ev).map Prod.fst = .ok s) := by
  unfold nativeEventFilter UsesTrayManager
  split_ifs with htype hmessage hdock hunmap hdestroy hdamage
  · exact .inr ⟨fun h => htype h.1, rfl⟩
  · left
    rw [not_not] at htype
    refine ⟨⟨htype, .inl ⟨hmessage, hdock⟩⟩, _, _, map_fst_bind _ _, ?_⟩
    exact ⟨.requestDock ev.data2 ev.order ev.replies, fun _ => rfl⟩
  · refine .inr ⟨?_, rfl⟩
    rw [hmessage]
    simp [hdock, XCB_CLIENT_MESSAGE, XCB_DESTROY_NOTIFY]
  · refine .inr ⟨?_, rfl⟩
    rw [hunmap]
    simp [XCB_CLIENT_MESSAGE, XCB_DESTROY_NOTIFY, XCB_UNMAP_NOTIFY]
  · left
    rw [not_not] at htype
    refine ⟨⟨htype, .inr (.inl hdestroy)⟩, _, _, map_fst_bind _ _, ?_⟩
    exact ⟨.destroyNotify ev.window, fun _ => rfl⟩
  · left
    rw [not_not] at htype
    refine ⟨⟨htype, .inr (.inr ⟨hdamage, hmessage, hunmap⟩)⟩, _, _, map_fst_bind _ _, ?_⟩
    exact ⟨.damageNotify ev.drawable ev.replies.captured, fun _ => rfl⟩
  · refine .inr ⟨?_, rfl⟩
    simp [hmessage, hdestroy, hdamage]

/-- A manager without the selection survives an event exactly if it does not use the tray
manager. -/
theorem safe_nativeEventFilter_iff {s : SelectionManager} {ev : NativeEvent} :
    Safe ((s.nativeEventFilter connection trayOpcode ev).map Prod.fst) ↔
      (s.trayManager = none → ¬s.UsesTrayManager trayOpcode ev) := by
  obtain ⟨huses, fault, f, hfilter, -⟩ | ⟨hunused, hfilter⟩ :=
    nativeEventFilter_cases connection trayOpcode s ev
  · rw [hfilter, safe_deref_iff]
    exact forall_congr' fun _ => ⟨fun h => h.elim, fun h => h huses⟩
  · rw [hfilter]
    exact iff_of_true ⟨s, rfl⟩ fun _ => hunused

/-- The tray manager is created before it is told of the claim. -/
theorem safe_onClaimedOwnership (s : SelectionManager) : Safe s.onClaimedOwnership :=
  deref_isSome rfl _ _

theorem safe_step_iff (process : Except Fault SelectionManager) (e : SelectionEvent)
    (h : Safe process) :
    Safe (step connection trayOpcode process e) ↔ ClaimedFirst trayOpcode process e := by
  obtain ⟨s, rfl⟩ := h
  have hother : (∀ ev, e ≠ .native ev) → ClaimedFirst trayOpcode (.ok s) e :=
    fun hne _ ev _ he => absurd he (hne ev)
  change Safe (s.handle connection trayOpcode e) ↔ _
  cases e with
  | native ev =>
    simp only [handle, ClaimedFirst, Except.ok.injEq, SelectionEvent.native.injEq]
    split_ifs with hfiltering
    · rw [safe_nativeEventFilter_iff]
      constructor
      · rintro hsafe s' ev' rfl rfl -
        exact hsafe
      · intro hfirst
        exact hfirst s ev rfl rfl hfiltering
    · refine iff_of_true ⟨s, rfl⟩ ?_
      rintro s' ev' rfl rfl hfiltering'
      exact absurd hfiltering' hfiltering
  | init damage =>
    refine iff_of_true ?_ (hother fun _ => by simp)
    simp only [handle]
    split_ifs
    · exact ⟨_, rfl⟩
    · exact ⟨_, rfl⟩
  | claimedOwnership =>
    refine iff_of_true ?_ (hother fun _ => by simp)
    simp only [handle]
    split_ifs
    · exact safe_onClaimedOwnership s
    · exact ⟨_, rfl⟩
  | enableNotification win enabled =>
    refine iff_of_true ?_ (hother fun _ => by simp)
    simp only [handle]
    split_ifs with hsome
    · exact deref_isSome hsome _ _
    · exact ⟨_, rfl⟩
  | failedToClaimOwnership | lostOwnership | reclainRequested =>
    exact iff_of_true ⟨s, rfl⟩ (hother fun _ => by simp)

/-- No null pointer is used in a run from the construction exactly if no event that uses the tray
manager is seen before the selection is claimed. -/
theorem safe_iff_claimedFirst (connection : XConnection) (trayOpcode : ℕ) (base : UInt8)
    (es : List SelectionEvent) :
    Always (step connection trayOpcode) Safe (.ok (initial base)) es ↔
      Obeys (step connection trayOpcode) (ClaimedFirst trayOpcode) (.ok (initial base)) es :=
  always_iff_obeys (I := fun _ => True) (fun _ _ _ => trivial)
    (fun process e _ h => safe_step_iff process e h) es trivial ⟨_, rfl⟩

/-- Another client has the selection, and a window is destroyed. -/
theorem destroyed_before_claim :
    ¬∀ (connection : XConnection) (trayOpcode : ℕ) (base : UInt8) (es : List SelectionEvent),
      Always (step connection trayOpcode) Safe (.ok (initial base)) es := by
  intro hall
  let connection : XConnection := ⟨Nat.succ, Nat.succ_injective, Nat.succ_ne_zero⟩
  let ev : NativeEvent := ⟨"xcb_generic_event_t", 17, 0, 0, 0, 42, 0, .stored Window,
    ⟨fun _ => true, none, none, none⟩⟩
  have hfirst := (safe_iff_claimedFirst connection 0 0 _).mp
    (hall connection 0 0 [.init (some 91), .failedToClaimOwnership, .native ev])
  exact hfirst.2.2.1 _ ev rfl rfl rfl rfl ⟨rfl, .inr (.inl (by decide))⟩

/-! ## After the claim -/

/-- The manager has done nothing before its tray manager exists, and what it has done since is a
run of the docking. -/
structure Docks (connection : XConnection) (s : SelectionManager) : Prop where
  before : s.trayManager = none → s.damageWatches = ∅ ∧ s.generated = 0 ∧ s.requests = []
  after : ∀ m, s.claimed = some m → ∃ events : List DockEvent,
    m = run (FdoSelectionManager.step connection) .initial events

theorem docks_initial (base : UInt8) : (initial base).Docks connection :=
  ⟨fun _ => ⟨rfl, rfl, rfl⟩, fun _ h => by cases h⟩

/-- What is done with the tray manager is a step of the docking. -/
theorem Docks.deref {s s' : SelectionManager} (h : s.Docks connection) {fault : Fault}
    {f : FdoSelectionManager → FdoSelectionManager} {event : DockEvent}
    (hf : ∀ m, f m = m.step connection event) (hs' : s.deref fault f = .ok s') :
    s'.Docks connection := by
  unfold SelectionManager.deref at hs'
  cases hclaimed : s.claimed with
  | none => rw [hclaimed] at hs'; cases hs'
  | some m =>
    rw [hclaimed] at hs'
    cases hs'
    refine ⟨fun hnone => absurd hnone (Option.some_ne_none _), ?_⟩
    intro m' hm'
    obtain ⟨events, hevents⟩ := h.after m hclaimed
    refine ⟨events ++ [event], ?_⟩
    rw [run_concat, ← hevents, ← hf]
    exact (Option.some.inj hm').symm

/-- The tray manager that a first claim creates is one from which the docking starts. -/
theorem Docks.initTrayManager {s : SelectionManager} (h : s.Docks connection) :
    s.initTrayManager.Docks connection := by
  refine ⟨fun hnone => absurd hnone (Option.some_ne_none _), ?_⟩
  intro m hm
  cases htray : s.trayManager with
  | none =>
    obtain ⟨hwatches, hgenerated, hrequests⟩ := h.before htray
    refine ⟨[], ?_⟩
    rw [run_nil, ← Option.some.inj hm]
    simp only [SelectionManager.initTrayManager, htray, hwatches, hgenerated, hrequests]
    rfl
  | some trayManager =>
    apply h.after m
    rw [← hm]
    simp only [SelectionManager.initTrayManager, claimed, htray]
    rfl

theorem Docks.handle {s s' : SelectionManager} (h : s.Docks connection) {e : SelectionEvent}
    (hs' : s.handle connection trayOpcode e = .ok s') : s'.Docks connection := by
  cases e with
  | init damage =>
    simp only [SelectionManager.handle] at hs'
    split_ifs at hs'
    · exact Except.ok.inj hs' ▸ h
    · exact Except.ok.inj hs' ▸ ⟨h.before, h.after⟩
  | native ev =>
    simp only [SelectionManager.handle] at hs'
    split_ifs at hs'
    · obtain ⟨-, fault, f, hfilter, event, hf⟩ | ⟨-, hfilter⟩ :=
        nativeEventFilter_cases connection trayOpcode s ev
      · exact h.deref hf (hfilter.symm.trans hs')
      · exact Except.ok.inj (hfilter.symm.trans hs') ▸ h
    · exact Except.ok.inj hs' ▸ h
  | claimedOwnership =>
    simp only [SelectionManager.handle] at hs'
    split_ifs at hs'
    · have hf : ∀ m : FdoSelectionManager,
          m.onClaimedOwnership = m.step connection .claimedOwnership := fun _ => rfl
      exact h.initTrayManager.deref hf hs'
    · exact Except.ok.inj hs' ▸ h
  | enableNotification win enabled =>
    simp only [SelectionManager.handle] at hs'
    split_ifs at hs'
    · have hf : ∀ m : FdoSelectionManager, m.call (.enableNotification win enabled) =
          m.step connection (.enableNotification win enabled) := fun _ => rfl
      exact h.deref hf hs'
    · exact Except.ok.inj hs' ▸ h
  | failedToClaimOwnership | lostOwnership | reclainRequested =>
    exact Except.ok.inj hs' ▸ h

/-- In every run, once the selection is claimed the books of the docking are right. -/
theorem ledger_of_claimed {base : UInt8} {es : List SelectionEvent} {s : SelectionManager}
    {m : FdoSelectionManager}
    (hrun : run (step connection trayOpcode) (.ok (initial base)) es = .ok s)
    (hclaimed : s.claimed = some m) : m.Ledger connection := by
  have hdocks : ∀ s', run (step connection trayOpcode) (.ok (initial base)) es = .ok s' →
      s'.Docks connection := by
    refine run_invariant (I := fun process : Except Fault SelectionManager =>
      ∀ s', process = .ok s' → s'.Docks connection) ?_ es ?_
    · intro process e hprocess s' hs'
      cases process with
      | error fault => cases hs'
      | ok s => exact (hprocess s rfl).handle hs'
    · intro s' hs'
      exact Except.ok.inj hs' ▸ docks_initial base
  obtain ⟨events, rfl⟩ := (hdocks s hrun).after m hclaimed
  exact run_invariant (I := FdoSelectionManager.Ledger connection) (fun _ e h => h.step e) events
    (FdoSelectionManager.initial_ledger connection)

end SelectionManager

end DdeTrayLoader.Tray
