import DdeTrayLoader.Power.Provenance
import Mathlib.Data.List.Nodup

/-!
# The request discipline

Four members of the proxy decide which `GetAll` calls are sent: the timer, the pending call,
the coalescing flag and, in the model, the number of calls sent so far. `ControlStep` lists
everything a step can do to them; the invariants and counts below are read off that list.

A call that is counted is one that was put on the bus. Requests and invalidations that find
the service down, or a call pending, send none.
-/

namespace DdeTrayLoader.Power

open Transition

/-- The members of the proxy that decide which calls are sent. -/
structure Control where
  refreshTimer : Option ℕ
  pendingSnapshot : Option ℕ
  refreshPending : Bool
  nextSerial : ℕ

namespace Control

/-- A pending call keeps the timer inactive and is the last one sent, and the flag waits for
its reply. -/
structure Disciplined (c : Control) : Prop where
  timer : c.pendingSnapshot.isSome → c.refreshTimer = none
  flag : c.pendingSnapshot = none → c.refreshPending = false
  last : ∀ serial, c.pendingSnapshot = some serial → serial + 1 = c.nextSerial

/-- Disciplined, with no newer snapshot asked for. -/
def Settled (c : Control) : Prop := c.Disciplined ∧ c.refreshPending = false

/-- While a call is pending, the flag says whether `k` is positive. -/
def Flagged (c : Control) (k : ℕ) : Prop :=
  c.pendingSnapshot.isSome → (c.refreshPending = true ↔ 0 < k)

/-- The number of calls sent, with the one that the armed timer is going to send. -/
def due (c : Control) : ℕ := c.nextSerial + if c.refreshTimer.isSome then 1 else 0

end Control

/-- The serial of the call the message answers. -/
def Message.serial? : Message → Option ℕ
  | .finished serial _ => some serial
  | _ => none

namespace PowerSystem

@[simps]
def control (s : PowerSystem) : Control where
  refreshTimer := s.power.refreshTimer
  pendingSnapshot := s.power.pendingSnapshot
  refreshPending := s.power.refreshPending
  nextSerial := s.nextSerial

/-- The message a delivery would hand to its handler now. -/
def next (s : PowerSystem) : Option Message :=
  if s.lag.isSome then none else s.queue.head?

/-- The event is a request of another component, or brings an invalidation to the proxy. -/
def asks (s : PowerSystem) : Event → Bool
  | .request => true
  | .deliver => match s.next with
    | some (.invalidated _) => true
    | _ => false
  | _ => false

/-- The event brings an owner change to the proxy. -/
def changesOwner (s : PowerSystem) : Event → Bool
  | .deliver => match s.next with
    | some (.ownerChanged _) => true
    | _ => false
  | _ => false

/-- The event brings the reply to the pending call. -/
def finishes (s : PowerSystem) : Event → Bool
  | .deliver => match s.next with
    | some (.finished serial _) => s.power.pendingSnapshot == some serial
    | _ => false
  | _ => false

/-- The event brings the error reply to the pending call while the service is valid. -/
def fails (s : PowerSystem) : Event → Bool
  | .deliver => match s.next with
    | some (.finished serial none) => s.power.pendingSnapshot == some serial && s.isValid
    | _ => false
  | _ => false

/-- What an event can do to the members that decide which calls are sent. -/
inductive ControlStep (s : PowerSystem) (e : Event) : Control → Prop
  | keep (hasks : s.asks e = true → s.power.pendingSnapshot = none ∧ s.isValid = false)
      (howner : s.changesOwner e = false) (hfinishes : s.finishes e = false) :
      ControlStep s e s.control
  | coalesce (hasks : s.asks e = true) (howner : s.changesOwner e = false)
      (hfinishes : s.finishes e = false) (hpending : s.power.pendingSnapshot.isSome) :
      ControlStep s e { s.control with refreshPending := true }
  | send (hcause : s.asks e = true ∨ e = .timeout ∧ s.power.refreshTimer.isSome)
      (howner : s.changesOwner e = false) (hfinishes : s.finishes e = false)
      (hpending : s.power.pendingSnapshot = none) :
      ControlStep s e
        { s.control with
          refreshTimer := none
          pendingSnapshot := some s.nextSerial
          nextSerial := s.nextSerial + 1 }
  | expire (htimeout : e = .timeout) (htimer : s.power.refreshTimer.isSome)
      (hcall : s.power.pendingSnapshot.isSome ∨ s.isValid = false) :
      ControlStep s e
        { s.control with
          refreshTimer := none
          refreshPending := s.power.refreshPending || s.power.pendingSnapshot.isSome }
  | error (serial : ℕ) (hdeliver : e = .deliver) (hnext : s.next = some (.finished serial none))
      (hpending : s.power.pendingSnapshot = some serial) :
      ControlStep s e
        { s.control with
          refreshTimer := if s.isValid then some 1000 else s.power.refreshTimer
          pendingSnapshot := none
          refreshPending := false }
  | success (serial : ℕ) (snapshot : Snapshot) (hdeliver : e = .deliver)
      (hnext : s.next = some (.finished serial (some snapshot)))
      (hpending : s.power.pendingSnapshot = some serial) :
      ControlStep s e
        { s.control with
          refreshTimer := if s.power.refreshPending then some 0 else s.power.refreshTimer
          pendingSnapshot := none
          refreshPending := false }
  | owner (newOwner : Option ℕ) (hdeliver : e = .deliver)
      (hnext : s.next = some (.ownerChanged newOwner)) :
      ControlStep s e
        { s.control with
          refreshTimer := if newOwner.isSome then some 0 else none
          pendingSnapshot := none
          refreshPending := false }

/-- No event both asks for a snapshot and brings an owner change or a reply. -/
theorem asks_excludes {s : PowerSystem} {e : Event} (hasks : s.asks e = true) :
    s.changesOwner e = false ∧ s.finishes e = false := by
  cases e with
  | request => exact ⟨rfl, rfl⟩
  | deliver =>
    simp only [asks, changesOwner, finishes] at hasks ⊢
    split at hasks
    · next hnext => simp [hnext]
    · cases hasks
  | _ => cases hasks

/-- An event that asks for a snapshot coalesces, sends a call, or finds the service down. -/
theorem controlStep_getAllProperties {s t : PowerSystem} {e : Event} (hasks : s.asks e = true)
    (hcontrol : t.control = s.control) (hvalid : t.isValid = s.isValid) :
    ControlStep s e t.getAllProperties.control := by
  have hpower : t.power.pendingSnapshot = s.power.pendingSnapshot :=
    congrArg Control.pendingSnapshot hcontrol
  have hnext : t.nextSerial = s.nextSerial := congrArg Control.nextSerial hcontrol
  obtain ⟨howner, hfinishes⟩ := asks_excludes hasks
  rcases t.getAllProperties_cases with ⟨hpending, heq⟩ | ⟨hpending, hinvalid, heq⟩ |
    ⟨hpending, -, heq⟩ <;> rw [heq]
  · have hstep := ControlStep.coalesce hasks howner hfinishes (hpower ▸ hpending)
    rwa [← hcontrol] at hstep
  · have hstep := ControlStep.keep (fun _ => ⟨hpower ▸ hpending, hvalid ▸ hinvalid⟩) howner
      hfinishes
    rwa [← hcontrol] at hstep
  · have hstep := ControlStep.send (.inl hasks) howner hfinishes (hpower ▸ hpending)
    rwa [← hcontrol, ← hnext] at hstep

theorem control_markLive (s : PowerSystem) (queue : List Message) (name : String) :
    control { s with queue := queue, power := s.power.markLive name } = s.control := by
  unfold control DBusPower.markLive
  dsimp only
  split <;> rfl

/-- A handler changes the deciding members as its message says. -/
theorem controlStep_receive {s : PowerSystem} {message : Message} {rest : List Message}
    (hqueue : s.queue = message :: rest) (hlag : s.lag = none) :
    ControlStep s .deliver ({ s with queue := rest }.receive message).control := by
  have hnext : s.next = some message := by
    rw [next, hlag, hqueue]
    rfl
  cases message with
  | changed name value position =>
    have hcontrol : ({ s with queue := rest }.receive (.changed name value position)).control =
        s.control := control_markLive s rest name
    rw [hcontrol]
    refine .keep ?_ ?_ ?_ <;> simp [asks, changesOwner, finishes, hnext]
  | invalidated name =>
    refine controlStep_getAllProperties (t := { s with
      queue := rest, power := s.power.markLive name }) ?_ (control_markLive s rest name) rfl
    simp [asks, hnext]
  | finished serial reply =>
    simp only [PowerSystem.receive]
    split_ifs with hserial
    · cases reply with
      | none =>
        convert ControlStep.error serial rfl hnext hserial using 1
        unfold control DBusPower.finished
        dsimp only [Option.map_none]
        split <;> rfl
      | some snapshot =>
        convert ControlStep.success serial snapshot rfl hnext hserial using 1
        unfold control DBusPower.finished
        dsimp only [Option.map_some]
        split <;> rfl
    · refine .keep ?_ ?_ ?_ <;> simp [asks, changesOwner, finishes, hnext, hserial]
  | ownerChanged newOwner => exact .owner newOwner rfl hnext

/-- When the timer fires it is over, and asks for a snapshot. -/
theorem controlStep_timeout {s : PowerSystem} (htimer : s.power.refreshTimer.isSome) :
    ControlStep s .timeout
      { s with power := { s.power with refreshTimer := none } }.getAllProperties.control := by
  rcases getAllProperties_cases { s with power := { s.power with refreshTimer := none } } with
    ⟨hpending, heq⟩ | ⟨hpending, hvalid, heq⟩ | ⟨hpending, -, heq⟩ <;> rw [heq]
  · convert ControlStep.expire rfl htimer (.inl hpending) using 1
    dsimp only at hpending
    simp [control, hpending]
  · convert ControlStep.expire rfl htimer (.inr hvalid) using 1
    dsimp only at hpending
    simp [control, hpending]
  · exact .send (.inr ⟨rfl, htimer⟩) rfl rfl hpending

theorem control_changeOne (s : PowerSystem) (update : Update) :
    (s.changeOne update).control = s.control := by
  unfold PowerSystem.changeOne
  split <;> rfl

theorem control_handle (s : PowerSystem) (serial : ℕ) :
    (s.handle serial).control = s.control := by
  unfold PowerSystem.handle
  split <;> rfl

/-- A step that does nothing brings the proxy nothing. -/
theorem controlStep_idle {s : PowerSystem} {e : Event} (hrequest : e ≠ .request)
    (hidle : e = .deliver → s.queue = [] ∨ s.lag.isSome) : ControlStep s e s.control := by
  cases e with
  | request => exact absurd rfl hrequest
  | deliver =>
    have hnext : s.next = none := by
      obtain hqueue | hlag := hidle rfl
      · simp [next, hqueue]
      · simp [next, hlag]
    refine .keep ?_ ?_ ?_ <;> simp [asks, changesOwner, finishes, hnext]
  | _ => exact .keep nofun rfl rfl

/-- Every step changes the deciding members as `ControlStep` says. -/
theorem controlStep (s : PowerSystem) (e : Event) : ControlStep s e (s.step e).control := by
  have hkeep {e : Event} (hasks : s.asks e = false) (howner : s.changesOwner e = false)
      (hfinishes : s.finishes e = false) {t : PowerSystem} (hcontrol : t.control = s.control) :
      ControlStep s e t.control := by
    rw [hcontrol]
    exact .keep (fun h => by rw [hasks] at h; cases h) howner hfinishes
  have hstep := s.stepTo e
  generalize s.step e = t at hstep
  cases hstep with
  | idle hrequest hidle => exact controlStep_idle hrequest hidle
  | request => exact controlStep_getAllProperties rfl rfl rfl
  | timeout htimer => exact controlStep_timeout htimer
  | deliver hqueue hlag => exact controlStep_receive hqueue hlag
  | change updates =>
    apply hkeep rfl rfl rfl
    refine run_invariant (I := fun t : PowerSystem => t.control = s.control) ?_ updates rfl
    intro t update ht
    rwa [control_changeOne]
  | handle serial => exact hkeep rfl rfl rfl (control_handle s serial)
  | _ => exact hkeep rfl rfl rfl rfl

theorem ControlStep.disciplined {s : PowerSystem} {e : Event} {c : Control}
    (hstep : ControlStep s e c) (h : s.control.Disciplined) : c.Disciplined := by
  cases hstep with
  | keep => exact h
  | coalesce _ _ _ hpending =>
    refine { h with flag := fun hnone => ?_ }
    rw [← control_pendingSnapshot, hnone] at hpending
    cases hpending
  | send =>
    exact { timer := fun _ => rfl, flag := nofun, last := fun _ hserial => by cases hserial; rfl }
  | expire =>
    refine { h with timer := fun _ => rfl, flag := fun hnone => ?_ }
    change (s.control.refreshPending || s.control.pendingSnapshot.isSome) = false
    rw [h.flag hnone, show s.control.pendingSnapshot = none from hnone]
    rfl
  | error => exact { timer := nofun, flag := fun _ => rfl, last := nofun }
  | success => exact { timer := nofun, flag := fun _ => rfl, last := nofun }
  | owner => exact { timer := nofun, flag := fun _ => rfl, last := nofun }

theorem initial_disciplined (running : Option (Property → QVariant)) :
    (initial running).control.Disciplined := by
  cases running with
  | none => exact { timer := nofun, flag := fun _ => rfl, last := nofun }
  | some values =>
    exact { timer := fun _ => rfl, flag := nofun, last := fun _ hserial => by cases hserial; rfl }

/-- The serials of the calls that are not answered, or whose reply is still in flight. -/
def outstanding (s : PowerSystem) : List ℕ :=
  s.calls.map (·.serial) ++ s.queue.filterMap Message.serial?

theorem Ordered.outstanding_lt {s : PowerSystem} (h : s.Ordered) :
    ∀ serial ∈ s.outstanding, serial < s.nextSerial := by
  intro serial hmem
  rcases List.mem_append.mp hmem with hcall | hreply
  · obtain ⟨call, hknown, rfl⟩ := List.mem_map.mp hcall
    exact h.calls call hknown
  · obtain ⟨message, hmessage, hserial⟩ := List.mem_filterMap.mp hreply
    cases message with
    | finished serial' reply =>
      obtain rfl := Option.some.inj hserial
      exact h.queue _ reply hmessage
    | _ => cases hserial

/-- A call that is sent is not outstanding yet. -/
theorem nodup_getAllProperties {s : PowerSystem} (h : s.outstanding.Nodup)
    (hlt : ∀ serial ∈ s.outstanding, serial < s.nextSerial) :
    s.getAllProperties.outstanding.Nodup := by
  rcases s.getAllProperties_cases with ⟨-, heq⟩ | ⟨-, -, heq⟩ | ⟨-, -, heq⟩ <;> rw [heq]
  · exact h
  · exact h
  · have hperm : (s.nextSerial :: s.outstanding).Nodup :=
      List.nodup_cons.mpr ⟨fun hmem => Nat.lt_irrefl _ (hlt _ hmem), h⟩
    refine (List.Perm.nodup_iff ?_).mpr hperm
    unfold outstanding
    dsimp only
    rw [List.map_append, List.append_assoc]
    exact List.perm_middle

theorem nodup_reply {s : PowerSystem} (h : s.outstanding.Nodup) {call : Call}
    (hcall : call ∈ s.calls) (reply : Option Snapshot) :
    (s.reply call.serial reply).outstanding.Nodup := by
  obtain ⟨hcalls, hqueue, hdisjoint⟩ := List.nodup_append.mp h
  have hserial : call.serial ∈ s.calls.map (·.serial) := List.mem_map_of_mem hcall
  have hfilter : ((s.calls.filter (·.serial ≠ call.serial)).map (·.serial)).Sublist
      (s.calls.map (·.serial)) := List.filter_sublist.map _
  unfold outstanding PowerSystem.reply
  dsimp only
  rw [List.filterMap_append]
  refine List.nodup_append.mpr ⟨hcalls.sublist hfilter, ?_, ?_⟩
  · refine List.nodup_append.mpr ⟨hqueue, List.nodup_singleton _, fun n hn m hm => ?_⟩
    rw [List.mem_singleton.mp hm]
    exact (hdisjoint _ hserial n hn).symm
  · intro n hn m hm
    rcases List.mem_append.mp hm with hold | hnew
    · exact hdisjoint n (hfilter.subset hn) m hold
    · rw [List.mem_singleton.mp hnew]
      obtain ⟨other, hother, rfl⟩ := List.mem_map.mp hn
      simpa using (List.mem_filter.mp hother).2

theorem nodup_receive {s : PowerSystem} (hordered : s.Ordered) (h : s.outstanding.Nodup)
    {message : Message} {rest : List Message} (hqueue : s.queue = message :: rest) :
    ({ s with queue := rest }.receive message).outstanding.Nodup := by
  have hpop : (outstanding { s with queue := rest }).Sublist s.outstanding := by
    unfold outstanding
    rw [hqueue]
    exact (List.Sublist.refl _).append ((List.sublist_cons_self _ _).filterMap _)
  have hrest := h.sublist hpop
  cases message with
  | changed name value position => exact hrest
  | invalidated name =>
    exact nodup_getAllProperties (s := { s with
      queue := rest, power := s.power.markLive name }) hrest
      fun serial hmem => hordered.outstanding_lt serial (hpop.subset hmem)
  | finished serial reply =>
    simp only [PowerSystem.receive]
    split <;> exact hrest
  | ownerChanged newOwner => exact hrest

theorem outstanding_changeOne (s : PowerSystem) (update : Update) :
    (s.changeOne update).outstanding = s.outstanding := by
  have hnone (position : ℕ) : (update.notification position).serial? = none := by
    unfold Update.notification
    split <;> rfl
  unfold PowerSystem.changeOne outstanding
  split <;> simp [List.filterMap_append, hnone]

theorem outstanding_ownerChanged (s : PowerSystem) (service : PowerService)
    (newOwner : Option ℕ) :
    outstanding { s with service := service, queue := s.queue ++ [.ownerChanged newOwner] } =
      s.outstanding := by
  unfold outstanding
  simp [List.filterMap_append, Message.serial?]

theorem outstanding_handle (s : PowerSystem) (serial : ℕ) :
    (s.handle serial).outstanding = s.outstanding := by
  unfold PowerSystem.handle
  split_ifs
  · have hserials : (s.calls.map fun call =>
        if call.serial = serial ∧ call.captured.isNone then ⟨serial, some s.snapshot⟩
        else call).map (·.serial) = s.calls.map (·.serial) := by
      rw [List.map_map]
      apply List.map_congr_left
      intro call _
      simp only [Function.comp]
      split_ifs with hcall
      · exact hcall.1.symm
      · rfl
    unfold outstanding
    rw [hserials]
  · rfl

theorem nodup_step {s : PowerSystem} (hordered : s.Ordered) (h : s.outstanding.Nodup)
    (e : Event) : (s.step e).outstanding.Nodup := by
  have hstep := s.stepTo e
  generalize s.step e = t at hstep
  cases hstep with
  | idle => exact h
  | request => exact nodup_getAllProperties h hordered.outstanding_lt
  | timeout =>
    exact nodup_getAllProperties (s := { s with
      power := { s.power with refreshTimer := none } }) h hordered.outstanding_lt
  | deliver hqueue => exact nodup_receive hordered h hqueue
  | interfaceUpdate => exact h
  | interfaceFirst => exact h
  | change updates =>
    refine run_invariant (I := fun t : PowerSystem => t.outstanding.Nodup) ?_ updates h
    intro t update ht
    rwa [outstanding_changeOne]
  | handle serial => rwa [outstanding_handle]
  | fail hcall => exact nodup_reply h hcall none
  | succeed hcall => exact nodup_reply h hcall _
  | start owner initial => exact (outstanding_ownerChanged s _ _).symm ▸ h
  | stop => exact (outstanding_ownerChanged s _ _).symm ▸ h

theorem initial_nodup (running : Option (Property → QVariant)) :
    (initial running).outstanding.Nodup := by
  cases running with
  | none => exact List.nodup_nil
  | some values => exact List.nodup_singleton _

/-- The calls whose reply the proxy would still apply. -/
def applicable (s : PowerSystem) : List ℕ :=
  s.outstanding.filter fun serial => s.power.pendingSnapshot = some serial

theorem applicable_length_le_one {s : PowerSystem} (h : s.outstanding.Nodup) :
    s.applicable.length ≤ 1 := by
  unfold applicable
  cases hpending : s.power.pendingSnapshot with
  | none => simp
  | some serial =>
    have hcount := List.nodup_iff_count_le_one.mp h serial
    rw [List.count_eq_length_filter] at hcount
    convert hcount using 4 with n
    rw [Bool.eq_iff_iff, decide_eq_true_iff, beq_iff_eq, Option.some.injEq, eq_comm]

/-- The number of requests and invalidations that reached the proxy since it sent its last
call, when `k` had before these events. -/
def asksSince (s : PowerSystem) (k : ℕ) : List Event → ℕ
  | [] => k
  | e :: es =>
    (s.step e).asksSince
      (if s.nextSerial < (s.step e).nextSerial then 0 else if s.asks e then k + 1 else k) es

theorem ControlStep.flagged {s : PowerSystem} {e : Event} {c : Control}
    (hstep : ControlStep s e c) (hdisciplined : s.control.Disciplined) {k : ℕ}
    (h : s.control.Flagged k) :
    c.Flagged (if s.nextSerial < c.nextSerial then 0 else if s.asks e then k + 1 else k) := by
  cases hstep with
  | keep hasks =>
    intro hsome
    have hquiet : ¬s.asks e = true := fun hyes => by
      rw [control_pendingSnapshot, (hasks hyes).1] at hsome
      cases hsome
    rw [control_nextSerial, if_neg (Nat.lt_irrefl _), if_neg hquiet]
    exact h hsome
  | coalesce hasks =>
    intro _
    simp [hasks]
  | send _ _ _ hpending =>
    intro _
    have hflag := hdisciplined.flag hpending
    dsimp only
    rw [if_pos (Nat.lt_succ_self _), hflag]
    simp
  | expire _ htimer =>
    intro hsome
    rw [← control_refreshTimer, hdisciplined.timer hsome] at htimer
    cases htimer
  | error => nofun
  | success => nofun
  | owner => nofun

/-- Along every run the flag of a pending call says whether anything asked for a newer one. -/
theorem run_disciplined_flagged {s : PowerSystem} {k : ℕ} (hdisciplined : s.control.Disciplined)
    (hflagged : s.control.Flagged k) (es : List Event) :
    (run step s es).control.Disciplined ∧ (run step s es).control.Flagged (s.asksSince k es) := by
  induction es generalizing s k with
  | nil => exact ⟨hdisciplined, hflagged⟩
  | cons e es ih =>
    have hstep := s.controlStep e
    exact ih (hstep.disciplined hdisciplined) (hstep.flagged hdisciplined hflagged)

/-- Neither a request, nor an invalidation, nor an owner change, and the service is valid. -/
def Quiet (s : PowerSystem) (e : Event) : Prop :=
  s.asks e = false ∧ s.changesOwner e = false ∧ s.isValid = true

/-- An error reply is a reply. -/
theorem fails_of_not_finishes {s : PowerSystem} {e : Event} (h : s.finishes e = false) :
    s.fails e = false := by
  cases e with
  | deliver =>
    simp only [finishes, fails] at h ⊢
    split
    · next hnext =>
      simp only [hnext] at h
      rw [h, Bool.false_and]
    · rfl
  | _ => rfl

/-- In quiet, only an error reply makes one more call due. -/
theorem ControlStep.settled {s : PowerSystem} {e : Event} {c : Control}
    (hstep : ControlStep s e c) (hquiet : s.Quiet e) (h : s.control.Settled) :
    c.Settled ∧ c.due = s.control.due + if s.fails e then 1 else 0 := by
  obtain ⟨hdisciplined, hflag⟩ := h
  obtain ⟨hasks, howner, hvalid⟩ := hquiet
  have hnext := hstep.disciplined hdisciplined
  rw [control_refreshPending] at hflag
  cases hstep with
  | keep _ _ hfinishes =>
    exact ⟨⟨hnext, hflag⟩, by rw [fails_of_not_finishes hfinishes]; rfl⟩
  | coalesce hyes =>
    rw [hasks] at hyes
    cases hyes
  | send hcause _ hfinishes =>
    refine ⟨⟨hnext, hflag⟩, ?_⟩
    have hfails := fails_of_not_finishes hfinishes
    have htimer := (hcause.resolve_left (by simp [hasks])).2
    simp [Control.due, hfails, htimer]
  | expire _ htimer hcall =>
    rcases hcall with hsome | hinvalid
    · rw [← control_refreshTimer, hdisciplined.timer hsome] at htimer
      cases htimer
    · rw [hvalid] at hinvalid
      cases hinvalid
  | error serial hdeliver hmessage hpending =>
    refine ⟨⟨hnext, rfl⟩, ?_⟩
    have hnone := hdisciplined.timer (by simp [hpending])
    have hfails : s.fails e = true := by simp [hdeliver, fails, hmessage, hpending, hvalid]
    rw [control_refreshTimer] at hnone
    simp [Control.due, hfails, hnone, hvalid]
  | success serial snapshot hdeliver hmessage =>
    refine ⟨⟨hnext, rfl⟩, ?_⟩
    have hfails : s.fails e = false := by simp [hdeliver, fails, hmessage]
    simp [Control.due, hfails, hflag]
  | owner newOwner hdeliver hmessage =>
    simp [hdeliver, changesOwner, hmessage] at howner

/-- By the time the timer is inactive, every quiet continuation has sent `n` calls, and one
more for each error reply on the way; the first time it is inactive, exactly `n`. -/
def SendsInQuiet (s : PowerSystem) (n : ℕ) : Prop :=
  ∀ es, Obeys step Quiet s es → (run step s es).power.refreshTimer = none →
    (run step s es).nextSerial = s.nextSerial + n + tally step fails s es ∧
    (Obeys step (fun t _ => t.power.refreshTimer.isSome) s es →
      (run step s es).nextSerial = s.nextSerial + n)

/-- An error reply comes when the timer is inactive. -/
theorem fails_eq_false {s : PowerSystem} (h : s.control.Disciplined) {e : Event}
    (htimer : s.power.refreshTimer.isSome) : s.fails e = false := by
  have hnone : s.power.pendingSnapshot = none := by
    by_contra hpending
    rw [← control_refreshTimer, h.timer (Option.isSome_iff_ne_none.mpr hpending)] at htimer
    cases htimer
  cases e with
  | deliver =>
    simp only [fails, hnone]
    split <;> rfl
  | _ => rfl

/-- What is due is what a quiet continuation sends. -/
theorem sendsInQuiet {s : PowerSystem} (h : s.control.Settled) :
    s.SendsInQuiet (if s.power.refreshTimer.isSome then 1 else 0) := by
  intro es hquiet hnone
  have hsettled (t : PowerSystem) (e : Event) (ht : t.control.Settled) (hq : t.Quiet e) :
      (t.step e).control.Settled := ((t.controlStep e).settled hq ht).1
  have hcount : (run step s es).control.due = s.control.due + tally step fails s es :=
    run_tally (I := fun t : PowerSystem => t.control.Settled) (fun t => t.control.due) hsettled
      (fun t e ht hq => ((t.controlStep e).settled hq ht).2) h hquiet
  have hend : (run step s es).control.due = (run step s es).nextSerial := by
    simp [Control.due, hnone]
  have hsent : (run step s es).nextSerial = s.nextSerial +
      (if s.power.refreshTimer.isSome then 1 else 0) + tally step fails s es := by
    rw [← hend, hcount]
    rfl
  refine ⟨hsent, fun harmed => ?_⟩
  have hnever : tally step fails s es = 0 :=
    tally_eq_zero (I := fun t : PowerSystem => t.control.Settled)
      (fun t e ht hq => hsettled t e ht hq.1) (fun t e ht hq => fails_eq_false ht.1 hq.2) h
      (hquiet.and harmed)
  rw [hsent, hnever, Nat.add_zero]

/-- Every call sent so far has been dropped. -/
theorem ControlStep.dropped {s : PowerSystem} {e : Event} {c : Control}
    (hstep : ControlStep s e c) {n : ℕ} (hn : n ≤ s.nextSerial)
    (h : ∀ serial, s.power.pendingSnapshot = some serial → n ≤ serial) :
    n ≤ c.nextSerial ∧ ∀ serial, c.pendingSnapshot = some serial → n ≤ serial := by
  cases hstep with
  | keep => exact ⟨hn, h⟩
  | coalesce => exact ⟨hn, h⟩
  | send =>
    refine ⟨hn.trans (Nat.le_succ _), fun serial hserial => ?_⟩
    obtain rfl := Option.some.inj hserial
    exact hn
  | expire => exact ⟨hn, h⟩
  | error => exact ⟨hn, nofun⟩
  | success => exact ⟨hn, nofun⟩
  | owner => exact ⟨hn, nofun⟩

/-- After an owner change no call sent before it is pending again. -/
theorem pending_after_ownerChanged {s : PowerSystem} {newOwner : Option ℕ}
    (hnext : s.next = some (.ownerChanged newOwner)) (es : List Event) {serial : ℕ}
    (hserial : serial < s.nextSerial) :
    (run step (s.step .deliver) es).power.pendingSnapshot ≠ some serial := by
  have hinvariant := run_invariant
    (I := fun t : PowerSystem => s.nextSerial ≤ t.nextSerial ∧
      ∀ serial, t.power.pendingSnapshot = some serial → s.nextSerial ≤ serial)
    (fun t e ht => (t.controlStep e).dropped ht.1 ht.2) (s := s.step .deliver) es ?_
  · intro hpending
    have := hinvariant.2 serial hpending
    omega
  · have hstep := s.controlStep .deliver
    have hcontrol : (s.step .deliver).nextSerial = s.nextSerial ∧
        (s.step .deliver).power.pendingSnapshot = none := by
      rw [← control_nextSerial, ← control_pendingSnapshot]
      generalize (s.step .deliver).control = c at hstep
      cases hstep <;> simp_all [asks, changesOwner]
    rw [hcontrol.1, hcontrol.2]
    exact ⟨le_refl _, nofun⟩

/-- A finished call leaves the proxy settled: only its outcome and the flag decide what is due. -/
theorem settled_of_finished {s : PowerSystem} (h : s.control.Disciplined) {serial : ℕ}
    {reply : Option Snapshot} (hnext : s.next = some (.finished serial reply))
    (hpending : s.power.pendingSnapshot = some serial) :
    (s.step .deliver).control.Settled ∧ (s.step .deliver).power.refreshTimer =
      match reply with
      | none => if s.isValid then some 1000 else none
      | some _ => if s.power.refreshPending then some 0 else none := by
  have hstep := s.controlStep .deliver
  have hdisciplined := hstep.disciplined h
  have htimer : s.power.refreshTimer = none := h.timer (by simp [hpending])
  unfold Control.Settled
  rw [← control_refreshTimer]
  generalize (s.step .deliver).control = c at hstep hdisciplined
  cases hstep with
  | keep _ _ hfinishes => simp [finishes, hnext, hpending] at hfinishes
  | coalesce hasks => simp [asks, hnext] at hasks
  | send hcause => simp [asks, hnext] at hcause
  | expire htimeout => cases htimeout
  | error serial' _ hnext' =>
    rw [hnext] at hnext'
    cases hnext'
    exact ⟨⟨hdisciplined, rfl⟩, by rw [htimer]⟩
  | success serial' snapshot _ hnext' =>
    rw [hnext] at hnext'
    cases hnext'
    exact ⟨⟨hdisciplined, rfl⟩, by rw [htimer]⟩
  | owner newOwner _ hnext' =>
    rw [hnext] at hnext'
    cases hnext'

theorem initial_flagged (running : Option (Property → QVariant)) :
    (initial running).control.Flagged 0 := by
  cases running with
  | none => nofun
  | some values => exact fun _ => ⟨nofun, fun hpos => absurd hpos (Nat.lt_irrefl 0)⟩

theorem run_nodup (running : Option (Property → QVariant)) (es : List Event) :
    (run step (initial running) es).outstanding.Nodup :=
  (run_invariant (I := fun s : PowerSystem => s.outstanding.Nodup ∧ s.Ordered)
    (fun _ e h => ⟨nodup_step h.2 h.1 e, h.2.step e⟩) es
    ⟨initial_nodup running, (initial_ordered_genuine running).1⟩).1

/-- Along every run: at most one outstanding call can still be applied, and the timer is
inactive while it is pending; its successful reply makes one more call due exactly if
something asked since it was sent, its error reply while the service is valid exactly one;
and no reply to a call sent before an owner change has any effect after it. -/
theorem request_discipline (running : Option (Property → QVariant)) (es : List Event) :
    let s := run step (initial running) es
    let t := s.step .deliver
    (s.applicable.length ≤ 1 ∧
      (s.power.pendingSnapshot.isSome → s.power.refreshTimer = none)) ∧
    (∀ serial snapshot, s.next = some (.finished serial (some snapshot)) →
      s.power.pendingSnapshot = some serial →
        serial + 1 = s.nextSerial ∧
        t.SendsInQuiet (if (initial running).asksSince 0 es = 0 then 0 else 1)) ∧
    (∀ serial, s.next = some (.finished serial none) →
      s.power.pendingSnapshot = some serial → s.isValid →
        t.power.refreshTimer = some 1000 ∧ t.SendsInQuiet 1) ∧
    ∀ newOwner, s.next = some (.ownerChanged newOwner) →
      ∀ es' serial reply, serial < s.nextSerial →
        (run step t es').receive (.finished serial reply) = run step t es' := by
  intro s t
  obtain ⟨hdisciplined, hflagged⟩ :=
    run_disciplined_flagged (initial_disciplined running) (initial_flagged running) es
  change s.control.Disciplined at hdisciplined
  change s.control.Flagged _ at hflagged
  refine ⟨⟨applicable_length_le_one (run_nodup running es), hdisciplined.timer⟩, ?_, ?_, ?_⟩
  · intro serial snapshot hnext hpending
    obtain ⟨hsettled, htimer⟩ := settled_of_finished hdisciplined hnext hpending
    have hflag := hflagged (by simp [hpending])
    rw [control_refreshPending] at hflag
    refine ⟨hdisciplined.last serial hpending, ?_⟩
    have hsends := sendsInQuiet hsettled
    rw [htimer] at hsends
    by_cases hasked : (initial running).asksSince 0 es = 0
    · have hnot : ¬s.power.refreshPending = true := fun hyes => by
        have := hflag.mp hyes
        omega
      simpa [hnot, hasked] using hsends
    · have hyes := hflag.mpr (Nat.pos_of_ne_zero hasked)
      simpa [hyes, hasked] using hsends
  · intro serial hnext hpending hvalid
    obtain ⟨hsettled, htimer⟩ := settled_of_finished hdisciplined hnext hpending
    have hsends := sendsInQuiet hsettled
    simp only [hvalid, if_true] at htimer
    rw [htimer] at hsends
    exact ⟨htimer, hsends⟩
  · intro newOwner hnext es' serial reply hserial
    exact if_neg (pending_after_ownerChanged hnext es' hserial)

/-- Two requests while the first call is pending lead to one more call; a failed call is
retried once; and the reply to a call of a service that stopped is dropped. -/
theorem request_discipline_of_short_runs :
    (run step (initial (some fun _ => .bool false))
      [.request, .request, .handle 0, .answer 0 true, .deliver, .timeout]).nextSerial = 2 ∧
    (run step (initial (some fun _ => .bool false))
      [.answer 0 false, .deliver, .timeout]).nextSerial = 2 ∧
    ((run step (initial (some fun _ => .bool false))
      [.stop, .deliver, .answer 0 false]).receive (.finished 0 none)).power.refreshTimer =
        none := by
  refine ⟨?_, ?_, ?_⟩
  · have hcoalesced := (request_discipline (some fun _ => .bool false)
      [.request, .request, .handle 0, .answer 0 true]).2.1 0 _ rfl rfl
    exact ((hcoalesced.2 [.timeout] ⟨⟨rfl, rfl, rfl⟩, trivial⟩ rfl).2 ⟨rfl, trivial⟩)
  · have hretried := (request_discipline (some fun _ => .bool false)
      [.answer 0 false]).2.2.1 0 rfl rfl rfl
    exact ((hretried.2 [.timeout] ⟨⟨rfl, rfl, rfl⟩, trivial⟩ rfl).2 ⟨rfl, trivial⟩)
  · have hdropped := (request_discipline (some fun _ => .bool false) [.stop]).2.2.2 none rfl
      [.answer 0 false] 0 none (by decide)
    exact congrArg (fun s : PowerSystem => s.power.refreshTimer) hdropped

end PowerSystem

end DdeTrayLoader.Power
