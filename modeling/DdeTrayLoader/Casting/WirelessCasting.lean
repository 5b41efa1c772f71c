import DdeTrayLoader.Tray.Registered
import DdeTrayLoader.Transition.Run

/-!
# Wireless casting

`WirelessCastingModel` has a `Monitor` for each sink that the display service lists, and remembers
the one that is connected. Monitors are deleted when the list no longer has them, and all of them
are deleted when the service comes back. The list is read anew then; when that fails nothing resets
the connected monitor.

What the service answers to a property read is part of the event.
-/

namespace DdeTrayLoader.Casting

open Transition
open Tray (HashOrder)

/-- `Monitor::NdSinkState`, for any number that the service reports. -/
inductive NdSinkState where
  | disconnected
  | ensureFirewall
  | waitP2P
  | waitSocket
  | waitStreaming
  | streaming
  | error
  | other (value : UInt32)
  deriving DecidableEq, Repr

/-- `WirelessCastingModel::CastingState`. -/
inductive CastingState where
  | list
  | connected
  | noMonitor
  | notSupportP2P
  | warningInfo
  | disabledWirelessDevice
  | noWirelessDevice
  deriving DecidableEq, Repr

/-- A `Monitor` object. -/
structure Monitor where
  serial : ℕ
  path : String
  state : NdSinkState
  deriving DecidableEq, Repr

/-- What the service answers when its properties are read; `none` is an invalid reply. -/
structure Replies where
  sinkList : Option (List String)
  missingCapabilities : Option (List String)
  /-- The `Status` of a sink. -/
  status : String → Option NdSinkState

/-- `dbusService`. -/
def dbusService : String := "com.deepin.Cooperation.NetworkDisplay"

/-- The members of `WirelessCastingModel`, with the number of monitors created, of calls of
`checkServiceAvailable` not answered yet, and of connections to `SinkListChanged`. -/
structure WirelessCastingModel where
  created : ℕ
  refreshCalls : ℕ
  connections : ℕ
  /-- `prepareDbus` has run. -/
  prepared : Bool
  monitors : List Monitor
  state : CastingState
  curConnected : Option ℕ
  wirelessDevCheck : Bool
  wirelessEnabled : Bool
  needRefresh : Bool
  connecting : Bool
  serviceAvailable : Bool
  deriving DecidableEq, Repr

/-- What the model is told. -/
inductive CastingEvent where
  /-- The call of `checkServiceAvailable` is answered; the devices are read then. -/
  | serviceChecked (available devCheck enabled : Bool) (replies : Replies)
  | wirelessChanged (devCheck enabled : Bool) (replies : Replies)
  | sinkListChanged (list : List String) (replies : Replies)
  | missingCapabilitiesChanged (replies : Replies)
  | statusChanged (serial : ℕ) (status : NdSinkState) (replies : Replies)
  | nameOwnerChanged (name newOwner : String) (replies : Replies)
  | enableRefresh (enable : Bool) (replies : Replies)

namespace WirelessCastingModel

/-- The constructor, which has called `checkServiceAvailable`. -/
def initial : WirelessCastingModel where
  created := 0
  refreshCalls := 1
  connections := 0
  prepared := false
  monitors := []
  state := .noMonitor
  curConnected := none
  wirelessDevCheck := false
  wirelessEnabled := false
  needRefresh := false
  connecting := false
  serviceAvailable := false

/-- The state that `checkState` finds, if it finds one. -/
def checkedState (s : WirelessCastingModel) (replies : Replies) : Option CastingState :=
  if !s.wirelessDevCheck || !s.serviceAvailable then some .noWirelessDevice
  else
    match replies.missingCapabilities with
    | none => none
    | some [] =>
      if !s.wirelessEnabled then some .disabledWirelessDevice
      else if s.curConnected.isSome then some .connected
      else if s.monitors.isEmpty then some .noMonitor
      else some .list
    | some missing =>
      if missing.any fun capability => capability.toLower == "notsupportp2p" then
        some .notSupportP2P
      else if !s.wirelessEnabled then some .disabledWirelessDevice
      else some .warningInfo

def checkState (s : WirelessCastingModel) (replies : Replies) : WirelessCastingModel :=
  { s with state := (s.checkedState replies).getD s.state }

/-- A monitor for a sink that has none. -/
def addSink (replies : Replies) (s : WirelessCastingModel) (path : String) :
    WirelessCastingModel :=
  if s.monitors.any (fun monitor => monitor.path == path) then s
  else
    { s with
      created := s.created + 1
      monitors := s.monitors ++ [⟨s.created, path, (replies.status path).getD .disconnected⟩] }

/-- The second loop of `updateSinkList`, for one monitor, with `hasConnected`. -/
def visitMonitor (list : List String) (result : WirelessCastingModel × Bool) (monitor : Monitor) :
    WirelessCastingModel × Bool :=
  if monitor.path ∈ list then
    if monitor.state = .streaming then
      ({ result.1 with curConnected := some monitor.serial }, true)
    else result
  else ({ result.1 with monitors := result.1.monitors.erase monitor }, result.2)

/-- `updateSinkList`; the map lists its monitors in this order. -/
def updateSinkList (order : HashOrder Monitor) (s : WirelessCastingModel) (list : List String)
    (replies : Replies) : WirelessCastingModel :=
  let s := run (addSink replies) s list
  let result := (order.list s.monitors).foldl (visitMonitor list) (s, false)
  let s := if result.2 then result.1 else { result.1 with curConnected := none }
  s.checkState replies

/-- `updateWarningInfo`. -/
def updateWarningInfo (s : WirelessCastingModel) (replies : Replies) : WirelessCastingModel :=
  s.checkState replies

def initData (order : HashOrder Monitor) (s : WirelessCastingModel) (replies : Replies) :
    WirelessCastingModel :=
  match replies.sinkList with
  | none => s
  | some list =>
    let s := s.updateSinkList order list replies
    match replies.missingCapabilities with
    | none => s
    | some _ =>
      let s := s.updateWarningInfo replies
      { s with connections := s.connections + 1 }

/-- `checkWirelessDev`, which has found this. -/
def checkWirelessDev (s : WirelessCastingModel) (devCheck enabled : Bool) (replies : Replies) :
    WirelessCastingModel :=
  { s with wirelessDevCheck := devCheck, wirelessEnabled := devCheck && enabled }.checkState replies

def prepareDbus (s : WirelessCastingModel) (devCheck enabled : Bool) (replies : Replies) :
    WirelessCastingModel :=
  { s with prepared := true }.checkWirelessDev devCheck enabled replies

/-- The finished handler of `checkServiceAvailable`, with that of `serviceAvailableChanged`. -/
def serviceChecked (order : HashOrder Monitor) (s : WirelessCastingModel)
    (available devCheck enabled : Bool) (replies : Replies) : WirelessCastingModel :=
  if s.refreshCalls = 0 then s
  else
    let s := { s with refreshCalls := s.refreshCalls - 1 }
    if s.serviceAvailable = available then s
    else
      let s := { s with serviceAvailable := available }
      if !available then s
      else (s.prepareDbus devCheck enabled replies).initData order replies

def resetNetworkDisplayData (order : HashOrder Monitor) (s : WirelessCastingModel)
    (replies : Replies) : WirelessCastingModel :=
  let s := { s with monitors := [] }
  if !s.serviceAvailable then { s with refreshCalls := s.refreshCalls + 1 }
  else s.initData order replies

/-- The handler is told of a new owner of the service. -/
def Returns (s : WirelessCastingModel) (name newOwner : String) : Prop :=
  s.prepared = true ∧ name = dbusService ∧ newOwner ≠ ""

instance (s : WirelessCastingModel) (name newOwner : String) :
    Decidable (s.Returns name newOwner) :=
  inferInstanceAs (Decidable (_ ∧ _ ∧ _))

/-- `onDBusNameOwnerChanged`, which is connected by `prepareDbus`. -/
def onDBusNameOwnerChanged (order : HashOrder Monitor) (s : WirelessCastingModel)
    (name newOwner : String) (replies : Replies) : WirelessCastingModel :=
  if s.Returns name newOwner then (s.resetNetworkDisplayData order replies).checkState replies
  else s

/-- `handleMonitorStateChanged`, for the monitor that sends it. -/
def handleMonitorStateChanged (s : WirelessCastingModel) (sender : ℕ) (state : NdSinkState)
    (replies : Replies) : WirelessCastingModel :=
  let s := { s with connecting := false }
  let s :=
    match state with
    | .disconnected | .error =>
      if s.curConnected = some sender then { s with curConnected := none } else s
    | .waitP2P | .waitSocket | .waitStreaming => { s with connecting := true }
    | .streaming => { s with curConnected := some sender }
    | .ensureFirewall | .other _ => s
  s.checkState replies

/-- `Monitor::checkState` of a monitor, which tells the model of a new state. -/
def statusChanged (s : WirelessCastingModel) (serial : ℕ) (status : NdSinkState)
    (replies : Replies) : WirelessCastingModel :=
  if s.monitors.any (fun monitor => monitor.serial == serial && monitor.state != status) then
    let monitors := s.monitors.map fun monitor =>
      if monitor.serial = serial then { monitor with state := status } else monitor
    { s with monitors := monitors }.handleMonitorStateChanged serial status replies
  else s

def enableRefresh (order : HashOrder Monitor) (s : WirelessCastingModel) (enable : Bool)
    (replies : Replies) : WirelessCastingModel :=
  if !s.serviceAvailable then s
  else
    let s := { s with needRefresh := enable }
    if enable then
      match replies.sinkList with
      | none => s
      | some list => s.updateSinkList order list replies
    else s

def step (order : HashOrder Monitor) (s : WirelessCastingModel) :
    CastingEvent → WirelessCastingModel
  | .serviceChecked available devCheck enabled replies =>
    s.serviceChecked order available devCheck enabled replies
  | .wirelessChanged devCheck enabled replies =>
    if s.prepared then s.checkWirelessDev devCheck enabled replies else s
  | .sinkListChanged list replies =>
    -- each `initData` that gets this far has connected the handler once more
    if s.needRefresh then (fun s => s.updateSinkList order list replies)^[s.connections] s else s
  | .missingCapabilitiesChanged replies =>
    (fun s => s.updateWarningInfo replies)^[s.connections] s
  | .statusChanged serial status replies => s.statusChanged serial status replies
  | .nameOwnerChanged name newOwner replies =>
    s.onDBusNameOwnerChanged order name newOwner replies
  | .enableRefresh enable replies => s.enableRefresh order enable replies

/-- `m_curConnected` is null, or points to a monitor in `m_monitors`. -/
def CurStored (s : WirelessCastingModel) : Prop :=
  ∀ serial ∈ s.curConnected, ∃ monitor ∈ s.monitors, monitor.serial = serial

instance (s : WirelessCastingModel) : Decidable s.CurStored :=
  inferInstanceAs (Decidable (∀ serial ∈ s.curConnected,
    ∃ monitor ∈ s.monitors, monitor.serial = serial))

/-- When the service returns while a monitor is connected, its list of sinks can be read. -/
def ReturnsReadably (s : WirelessCastingModel) : CastingEvent → Prop
  | .nameOwnerChanged name newOwner replies =>
    s.Returns name newOwner → s.curConnected = none ∨ replies.sinkList.isSome
  | _ => True

/-! ## What the operations do to the connected monitor -/

variable {order : HashOrder Monitor} {s : WirelessCastingModel} {replies : Replies}

@[simp] theorem curStored_checkState : (s.checkState replies).CurStored ↔ s.CurStored := Iff.rfl

theorem curStored_of_none (h : s.curConnected = none) : s.CurStored := by
  intro serial hserial
  rw [h] at hserial
  cases hserial

/-- What holds midway through the second loop of `updateSinkList`: the listed monitors are all
there, and a monitor that was found streaming is listed. -/
structure Visited (list : List String) (monitors : List Monitor)
    (result : WirelessCastingModel × Bool) : Prop where
  kept : ∀ monitor ∈ monitors, monitor.path ∈ list → monitor ∈ result.1.monitors
  found : result.2 = true →
    ∃ monitor ∈ monitors, monitor.path ∈ list ∧ result.1.curConnected = some monitor.serial

theorem Visited.visitMonitor {list : List String} {monitors : List Monitor}
    {result : WirelessCastingModel × Bool} (h : Visited list monitors result) {monitor : Monitor}
    (hmonitor : monitor ∈ monitors) :
    Visited list monitors (WirelessCastingModel.visitMonitor list result monitor) := by
  unfold WirelessCastingModel.visitMonitor
  split_ifs with hlisted hstreaming
  · exact ⟨h.kept, fun _ => ⟨monitor, hmonitor, hlisted, rfl⟩⟩
  · exact h
  · refine ⟨?_, h.found⟩
    intro m hm hmlisted
    -- the erased monitor is not listed, so it is another one
    have hne : m ≠ monitor := fun heq => hlisted (heq ▸ hmlisted)
    exact (List.mem_erase_of_ne hne).mpr (h.kept m hm hmlisted)

/-- The second loop of `updateSinkList` gets through the monitors with this. -/
theorem visited_foldl (order : HashOrder Monitor) (s : WirelessCastingModel) (list : List String) :
    Visited list s.monitors ((order.list s.monitors).foldl (visitMonitor list) (s, false)) := by
  have hstart : Visited list s.monitors (s, false) :=
    ⟨fun _ hm _ => hm, fun hfalse => absurd hfalse Bool.false_ne_true⟩
  exact run_invariant_of_mem (I := Visited list s.monitors)
    (fun monitor hmonitor _ h => h.visitMonitor (order.mem_list.mp hmonitor)) hstart

/-- After the list of sinks is read, the connected monitor is stored whatever it was before. -/
theorem curStored_updateSinkList (list : List String) :
    (s.updateSinkList order list replies).CurStored := by
  unfold updateSinkList
  simp only [curStored_checkState]
  have hvisited := visited_foldl order (run (addSink replies) s list) list
  split_ifs with hfound
  · obtain ⟨monitor, hmonitor, hlisted, hcur⟩ := hvisited.found hfound
    intro serial hserial
    rw [hcur, Option.mem_some_iff] at hserial
    exact ⟨monitor, hvisited.kept monitor hmonitor hlisted, hserial⟩
  · exact curStored_of_none rfl

/-- Reading the list again and again is no different. -/
theorem curStored_iterate {f : WirelessCastingModel → WirelessCastingModel}
    (hf : ∀ s, s.CurStored → (f s).CurStored) (n : ℕ) (hs : s.CurStored) : (f^[n] s).CurStored :=
  Function.Iterate.rec CurStored hs hf n

theorem curStored_initData (hs : s.CurStored ∨ replies.sinkList.isSome) :
    (s.initData order replies).CurStored := by
  unfold initData
  cases hlist : replies.sinkList with
  | none =>
    rw [hlist] at hs
    exact hs.resolve_right Bool.false_ne_true
  | some list =>
    have hupdated : (s.updateSinkList order list replies).CurStored := curStored_updateSinkList list
    cases replies.missingCapabilities with
    | none => exact hupdated
    | some _ => exact hupdated

/-- A changed state leaves the serial of every monitor as it was. -/
theorem curStored_statusChanged {serial : ℕ} {status : NdSinkState} (hs : s.CurStored) :
    (s.statusChanged serial status replies).CurStored := by
  unfold statusChanged
  split_ifs with hchanged
  · -- the sender is stored, and so is every monitor that was
    have hstored : ∀ i, (∃ monitor ∈ s.monitors, monitor.serial = i) →
        ∃ monitor ∈ s.monitors.map (fun monitor =>
          if monitor.serial = serial then { monitor with state := status } else monitor),
          monitor.serial = i := by
      intro i hi
      obtain ⟨monitor, hmonitor, hserial⟩ := hi
      refine ⟨_, List.mem_map_of_mem hmonitor, ?_⟩
      rw [apply_ite Monitor.serial]
      simpa using hserial
    have hsender : ∃ monitor ∈ s.monitors, monitor.serial = serial := by
      obtain ⟨monitor, hmonitor, hboth⟩ := List.any_eq_true.mp hchanged
      rw [Bool.and_eq_true, beq_iff_eq] at hboth
      exact ⟨monitor, hmonitor, hboth.1⟩
    unfold handleMonitorStateChanged
    rw [curStored_checkState]
    cases status with
    | disconnected | error =>
      simp only
      split_ifs with hcur
      · exact curStored_of_none rfl
      · exact fun i hi => hstored i (hs i hi)
    | streaming =>
      intro i hi
      rw [Option.mem_some_iff] at hi
      exact hstored i (hi ▸ hsender)
    | waitP2P | waitSocket | waitStreaming | ensureFirewall | other value =>
      exact fun i hi => hstored i (hs i hi)
  · exact hs

/-! ## The service is asked for once -/

/-- What the model knows of the service. -/
def service (s : WirelessCastingModel) : Bool × Bool × ℕ :=
  (s.prepared, s.serviceAvailable, s.refreshCalls)

@[simp] theorem checkState_service : (s.checkState replies).service = s.service := rfl

@[simp] theorem addSink_service {path : String} : (addSink replies s path).service = s.service := by
  unfold addSink
  split_ifs <;> rfl

@[simp] theorem visitMonitor_service {list : List String} {result : WirelessCastingModel × Bool}
    {monitor : Monitor} : (visitMonitor list result monitor).1.service = result.1.service := by
  unfold visitMonitor
  split_ifs <;> rfl

@[simp] theorem updateSinkList_service {list : List String} :
    (s.updateSinkList order list replies).service = s.service := by
  have hadded : (run (addSink replies) s list).service = s.service :=
    run_invariant (I := fun s' : WirelessCastingModel => s'.service = s.service)
      (fun _ _ h => addSink_service.trans h) list rfl
  have hvisited : ∀ (monitors : List Monitor) (result : WirelessCastingModel × Bool),
      (monitors.foldl (visitMonitor list) result).1.service = result.1.service :=
    fun monitors result =>
      run_invariant (I := fun r : WirelessCastingModel × Bool => r.1.service = result.1.service)
        (fun _ _ h => visitMonitor_service.trans h) monitors rfl
  unfold updateSinkList
  rw [checkState_service]
  split_ifs
  · exact (hvisited _ _).trans hadded
  · exact (hvisited _ _).trans hadded

@[simp] theorem initData_service : (s.initData order replies).service = s.service := by
  unfold initData
  cases replies.sinkList with
  | none => rfl
  | some list =>
    cases replies.missingCapabilities with
    | none => exact updateSinkList_service
    | some _ => exact updateSinkList_service

theorem iterate_service {f : WirelessCastingModel → WirelessCastingModel}
    (hf : ∀ s : WirelessCastingModel, (f s).service = s.service) (n : ℕ) :
    (f^[n] s).service = s.service :=
  Function.Iterate.rec (fun s' : WirelessCastingModel => s'.service = s.service) rfl
    (fun s' h => (hf s').trans h) n

@[simp] theorem statusChanged_service {serial : ℕ} {status : NdSinkState} :
    (s.statusChanged serial status replies).service = s.service := by
  unfold statusChanged
  split_ifs
  · unfold handleMonitorStateChanged
    rw [checkState_service]
    cases status with
    | disconnected | error => simp only; split_ifs <;> rfl
    | _ => rfl
  · rfl

@[simp] theorem enableRefresh_service {enable : Bool} :
    (s.enableRefresh order enable replies).service = s.service := by
  unfold enableRefresh
  split_ifs
  · rfl
  · cases replies.sinkList with
    | none => rfl
    | some list => exact updateSinkList_service
  · rfl

/-- A service that has been prepared is available, and one that is available is not asked for
again. -/
structure Settled (s : WirelessCastingModel) : Prop where
  available : s.prepared = true → s.serviceAvailable = true
  answered : s.serviceAvailable = true → s.refreshCalls = 0
  once : s.refreshCalls ≤ 1

theorem Settled.congr {s' : WirelessCastingModel} (h : s.Settled) (hs : s'.service = s.service) :
    s'.Settled := by
  unfold service at hs
  simp only [Prod.mk.injEq] at hs
  obtain ⟨hprepared, havailable, hcalls⟩ := hs
  exact ⟨hprepared ▸ havailable ▸ h.available, havailable ▸ hcalls ▸ h.answered, hcalls ▸ h.once⟩

theorem settled_initial : initial.Settled :=
  ⟨fun h => absurd h Bool.false_ne_true, fun h => absurd h Bool.false_ne_true, le_refl _⟩

theorem Settled.serviceChecked (h : s.Settled) {available devCheck enabled : Bool} :
    (s.serviceChecked order available devCheck enabled replies).Settled := by
  unfold WirelessCastingModel.serviceChecked
  dsimp only
  split_ifs with hnone hsame hoff
  · exact h
  · exact ⟨h.available, fun hs => by rw [h.answered hs], (Nat.sub_le _ _).trans h.once⟩
  · refine ⟨fun hprepared => ?_, fun hs => ?_, (Nat.sub_le _ _).trans h.once⟩
    · -- a prepared service is available, and no call of it is on the way
      exact absurd (h.answered (h.available hprepared)) hnone
    · have havailable : available = true := hs
      rw [havailable] at hoff
      cases hoff
  · have hcalls : s.refreshCalls - 1 = 0 := Nat.sub_eq_zero_of_le h.once
    have havailable : available = true := by simpa using hoff
    refine Settled.congr (s := { s with
      refreshCalls := s.refreshCalls - 1, serviceAvailable := available, prepared := true })
      ⟨fun _ => havailable, fun _ => hcalls, (Nat.sub_le _ _).trans h.once⟩ ?_
    rw [initData_service]
    rfl

/-- The service has returned to a model that knows it to be available. -/
theorem resetNetworkDisplayData_eq (h : s.serviceAvailable = true) :
    s.resetNetworkDisplayData order replies =
      { s with monitors := [] }.initData order replies := by
  unfold resetNetworkDisplayData
  simp [h]

theorem Settled.onDBusNameOwnerChanged (h : s.Settled) {name newOwner : String} :
    (s.onDBusNameOwnerChanged order name newOwner replies).Settled := by
  unfold WirelessCastingModel.onDBusNameOwnerChanged
  split_ifs with hreturns
  · rw [resetNetworkDisplayData_eq (h.available hreturns.1)]
    exact h.congr initData_service
  · exact h

/-- Every step keeps this. -/
theorem Settled.step (h : s.Settled) (e : CastingEvent) :
    (WirelessCastingModel.step order s e).Settled := by
  cases e with
  | serviceChecked available devCheck enabled replies => exact h.serviceChecked
  | wirelessChanged devCheck enabled replies =>
    simp only [WirelessCastingModel.step]
    split_ifs
    · exact h.congr rfl
    · exact h
  | sinkListChanged list replies =>
    simp only [WirelessCastingModel.step]
    split_ifs
    · exact h.congr (iterate_service (fun _ => updateSinkList_service) _)
    · exact h
  | missingCapabilitiesChanged replies =>
    exact h.congr (iterate_service (fun _ => checkState_service) _)
  | statusChanged serial status replies => exact h.congr statusChanged_service
  | nameOwnerChanged name newOwner replies => exact h.onDBusNameOwnerChanged
  | enableRefresh enable replies => exact h.congr enableRefresh_service

/-! ## When the connected monitor stays stored -/

/-- A service that returns leaves the connected monitor stored exactly if there was none or its
list of sinks can be read. -/
theorem curStored_onDBusNameOwnerChanged {name newOwner : String} (h : s.Settled)
    (hs : s.CurStored) :
    (s.onDBusNameOwnerChanged order name newOwner replies).CurStored ↔
      (s.Returns name newOwner → s.curConnected = none ∨ replies.sinkList.isSome) := by
  unfold onDBusNameOwnerChanged
  split_ifs with hreturns
  · rw [curStored_checkState, resetNetworkDisplayData_eq (h.available hreturns.1)]
    constructor
    · intro hstored _
      by_contra hneither
      rw [not_or, ← ne_eq, Option.ne_none_iff_exists', Option.not_isSome_iff_eq_none] at hneither
      obtain ⟨hcur, hinvalid⟩ := hneither
      obtain ⟨serial, hserial⟩ := hcur
      unfold initData at hstored
      rw [hinvalid] at hstored
      obtain ⟨monitor, hmonitor, -⟩ := hstored serial hserial
      cases hmonitor
    · intro hok
      exact curStored_initData ((hok hreturns).imp_left curStored_of_none)
  · exact ⟨fun _ hr => absurd hr hreturns, fun _ => hs⟩

theorem curStored_serviceChecked {available devCheck enabled : Bool} (hs : s.CurStored) :
    (s.serviceChecked order available devCheck enabled replies).CurStored := by
  unfold serviceChecked
  dsimp only
  split_ifs
  · exact hs
  · exact hs
  · exact hs
  · exact curStored_initData (.inl hs)

theorem curStored_enableRefresh {enable : Bool} (hs : s.CurStored) :
    (s.enableRefresh order enable replies).CurStored := by
  unfold enableRefresh
  split_ifs
  · exact hs
  · cases replies.sinkList with
    | none => exact hs
    | some list => exact curStored_updateSinkList list
  · exact hs

/-- A step leaves the connected monitor stored exactly if it is not the return of a service that
cannot be read. -/
theorem curStored_step (h : s.Settled) (hs : s.CurStored) (e : CastingEvent) :
    (step order s e).CurStored ↔ s.ReturnsReadably e := by
  cases e with
  | nameOwnerChanged name newOwner replies => exact curStored_onDBusNameOwnerChanged h hs
  | serviceChecked available devCheck enabled replies =>
    exact iff_of_true (curStored_serviceChecked hs) trivial
  | wirelessChanged devCheck enabled replies =>
    refine iff_of_true ?_ trivial
    simp only [step]
    split_ifs
    · exact hs
    · exact hs
  | sinkListChanged list replies =>
    refine iff_of_true ?_ trivial
    simp only [step]
    split_ifs
    · exact curStored_iterate (fun _ _ => curStored_updateSinkList list) _ hs
    · exact hs
  | missingCapabilitiesChanged replies =>
    exact iff_of_true (curStored_iterate (f := fun s => s.updateWarningInfo replies)
      (fun _ h => h) _ hs) trivial
  | statusChanged serial status replies =>
    exact iff_of_true (curStored_statusChanged hs) trivial
  | enableRefresh enable replies => exact iff_of_true (curStored_enableRefresh hs) trivial

/-- The connected monitor is stored in every state of a run exactly if, each time the service
returns while one is connected, its list of sinks can be read. -/
theorem connected_stored_iff (order : HashOrder Monitor) (es : List CastingEvent) :
    Always (step order) CurStored initial es ↔ Obeys (step order) ReturnsReadably initial es :=
  always_iff_obeys (fun _ e h => h.step e) (fun _ e h hs => curStored_step h hs e) es
    settled_initial (curStored_of_none rfl)

/-- A sink streams, and the service is replaced by one that cannot be read yet. -/
theorem connected_dangles :
    ¬∀ (order : HashOrder Monitor) (es : List CastingEvent),
      Always (step order) CurStored initial es := by
  intro hall
  have hstored := (connected_stored_iff _ _).mp (hall (.stored Monitor)
    [.serviceChecked true true true ⟨some ["/1"], some [], fun _ => some .streaming⟩,
      .nameOwnerChanged dbusService ":1.5" ⟨none, none, fun _ => none⟩])
  have hreturn := hstored.2.1 ⟨rfl, rfl, by decide⟩
  revert hreturn
  decide

end WirelessCastingModel

end DdeTrayLoader.Casting
