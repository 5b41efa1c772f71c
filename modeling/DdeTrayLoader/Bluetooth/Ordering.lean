import DdeTrayLoader.Bluetooth.DeviceRows
import DdeTrayLoader.Lists.Precedence

/-!
# The order of the own devices

A device that gets connected is put on top of the own devices, and one that gets disconnected
behind the connected ones. The row to be moved is looked up in the list that has the device, but
it is taken from the own devices, so topping an unpaired device moves another one.
-/

namespace DdeTrayLoader.Bluetooth

open Transition DdeTrayLoader.Lists

namespace AdapterItem

/-- The device is in the state. -/
def InState (s : AdapterItem) (state : DeviceState) (id : String) : Prop :=
  ∃ device ∈ s.devices.lookup id, device.state = state

instance (s : AdapterItem) (state : DeviceState) : DecidablePred (s.InState state) := fun id =>
  inferInstanceAs (Decidable (∃ device ∈ s.devices.lookup id, device.state = state))

/-- Every connected own device precedes every unavailable one. -/
def Ordered (s : AdapterItem) : Prop :=
  Precedes (s.InState .connected) (s.InState .unavailable) s.myDeviceModel

/-- A call that can top a device or put it back, with the states before and after it. -/
structure Repositioning where
  id : String
  before : AdapterItem
  after : AdapterItem

/-- The calls of `updateDeviceState` that an event causes: for a new state, and for the name. -/
def repositionings (s : AdapterItem) : DeviceEvent → List Repositioning
  | .updateDevice id new =>
    if new.name = "" ∧ new.aliasName = "" then []
    else
      match s.devices.lookup id with
      | none => []
      | some old =>
        let paired := s.setPaired id old new
        let updated := paired.setState id old new
        (if (old.update new).state ≠ old.state ∧ id ∈ s.deviceItems then
          [⟨id, paired.setDevice id (old.update new), updated⟩]
        else []) ++
          if new.aliasName ≠ "" ∧ id ∈ s.deviceItems then
            [⟨id, updated, updated.onDeviceNameUpdated id⟩]
          else []
  | _ => []

/-- The call moves its device only: both lists keep their devices, and the others their order. -/
structure MovesOnly (id : String) (s s' : AdapterItem) : Prop where
  my : s'.myDeviceModel.Perm s.myDeviceModel
  other : s'.otherDeviceModel.Perm s.otherDeviceModel
  restMy : s'.myDeviceModel.erase id = s.myDeviceModel.erase id
  restOther : s'.otherDeviceModel.erase id = s.otherDeviceModel.erase id

/-- All calls that an event causes move their devices only. -/
def MovesOwn (s : AdapterItem) (e : DeviceEvent) : Prop :=
  ∀ call ∈ s.repositionings e, MovesOnly call.id call.before call.after

/-- The row in the list of the others of a device that is not paired any more. -/
def otherRow (s : AdapterItem) (id : String) (old : Device) : ℕ :=
  if old.paired then s.otherDeviceModel.length else s.otherDeviceModel.idxOf id

/-- The number of own devices without the one. -/
def ownRows (s : AdapterItem) (id : String) : ℕ := (s.myDeviceModel.erase id).length

/-- The update shows the state of its device. -/
def Called (old new : Device) : Prop := (old.update new).state ≠ old.state ∨ new.aliasName ≠ ""

instance (old new : Device) : Decidable (Called old new) :=
  inferInstanceAs (Decidable (_ ∨ _))

/-- A connected device that is topped is paired, or its row is the first one or none of the own
devices. It is topped when it is paired, unless no own device is unavailable. An unavailable one is
put back where the connected own devices are the first ones. -/
def Places (s : AdapterItem) : DeviceEvent → Prop
  | .updateDevice id new => ¬(new.name = "" ∧ new.aliasName = "") → id ∈ s.deviceItems →
      ∀ old ∈ s.devices.lookup id,
        ((old.update new).state = .connected → Called old new → new.paired = false →
          s.otherRow id old = 0 ∨ s.ownRows id ≤ s.otherRow id old) ∧
        ((old.update new).state = .connected → ¬Called old new → old.paired = false →
          new.paired = true → ∀ own ∈ s.myDeviceModel, ¬s.InState .unavailable own) ∧
        ((old.update new).state = .unavailable → Called old new → new.paired = true →
          (s.myDeviceModel.erase id).Pairwise fun a b =>
            s.InState .connected b → s.InState .connected a)
  | _ => True

/-- The rows are sound, and all items have one. -/
structure Full (s : AdapterItem) : Prop extends s.Sound where
  listed : ∀ id ∈ s.deviceItems, s.Listed id

/-- A paired device is among the own rows. -/
theorem Full.mem_my {s : AdapterItem} (h : s.Full) {id : String} {device : Device}
    (hitem : id ∈ s.deviceItems) (hdevice : s.devices.lookup id = some device)
    (hpaired : device.paired = true) : id ∈ s.myDeviceModel ∧ id ∉ s.otherDeviceModel := by
  have hnot : id ∉ s.otherDeviceModel := by
    intro hmem
    have hunpaired := h.others id hmem device hdevice
    rw [hpaired] at hunpaired
    exact Bool.noConfusion hunpaired
  exact ⟨(List.mem_append.mp (h.listed id hitem)).resolve_right hnot, hnot⟩

/-- An unpaired device is among the rows of the others. -/
theorem Full.mem_other {s : AdapterItem} (h : s.Full) {id : String} {device : Device}
    (hitem : id ∈ s.deviceItems) (hdevice : s.devices.lookup id = some device)
    (hpaired : device.paired = false) : id ∈ s.otherDeviceModel ∧ id ∉ s.myDeviceModel := by
  have hnot : id ∉ s.myDeviceModel := by
    intro hmem
    have hpaired' := h.mine id hmem device hdevice
    rw [hpaired] at hpaired'
    exact Bool.noConfusion hpaired'
  exact ⟨(List.mem_append.mp (h.listed id hitem)).resolve_left hnot, hnot⟩

/-- Devices that count as connected own ones are among the own rows. -/
theorem Full.counts {s : AdapterItem} (h : s.Full) (id : String) : s.Counts id := by
  intro id' hitem _ device hdevice hcounts
  have hpaired : device.paired = true := by
    rw [Device.countsAsConnected, Bool.and_eq_true] at hcounts
    exact hcounts.1
  exact (h.mem_my hitem hdevice hpaired).1

/-- Topping an own device puts it before all others. -/
theorem onTopDeviceItem_my {s : AdapterItem} {id : String} (hmem : id ∈ s.myDeviceModel) :
    s.onTopDeviceItem id =
      { s with myDeviceModel := id :: s.myDeviceModel.erase id } := by
  have hrow : s.row id = some (s.myDeviceModel.idxOf id) := by
    rw [row, model, if_pos hmem]
    rfl
  have hlt := List.idxOf_lt_length_of_mem hmem
  have hitem : s.myDeviceModel[s.myDeviceModel.idxOf id]? = some id := by
    rw [List.getElem?_eq_getElem hlt, List.getElem_idxOf hlt]
  rw [onTopDeviceItem, hrow]
  dsimp only
  split_ifs with hfirst
  · cases hmy : s.myDeviceModel with
    | nil =>
      rw [hmy] at hmem
      exact absurd hmem List.not_mem_nil
    | cons own rest =>
      rw [hfirst, hmy] at hitem
      obtain rfl := Option.some.inj hitem
      rw [List.erase_cons_head, ← hmy]
  · rw [hitem, List.erase_eq_eraseIdx_of_idxOf rfl]

/-- A call that changes nothing moves no device. -/
theorem MovesOnly.refl (id : String) (s : AdapterItem) : MovesOnly id s s :=
  ⟨.refl _, .refl _, rfl, rfl⟩

/-- Where the row of an unpaired device is none below the first of the own devices, topping it has
no effect. -/
theorem onTopDeviceItem_stays {s : AdapterItem} {id : String} (hmem : id ∈ s.otherDeviceModel)
    (hnot : id ∉ s.myDeviceModel)
    (hrow : s.otherDeviceModel.idxOf id = 0 ∨
      s.myDeviceModel.length ≤ s.otherDeviceModel.idxOf id) : s.onTopDeviceItem id = s := by
  unfold onTopDeviceItem row model
  rw [if_neg hnot, if_pos hmem]
  simp only [Option.map_some, rows]
  split_ifs with hfirst
  · rfl
  · rw [List.getElem?_eq_none (hrow.resolve_left hfirst)]

/-- Topping an unpaired device moves it only exactly when it moves nothing. -/
theorem movesOnly_onTopDeviceItem_iff {s : AdapterItem} {id : String}
    (hmem : id ∈ s.otherDeviceModel) (hnot : id ∉ s.myDeviceModel)
    (hnodup : s.myDeviceModel.Nodup) :
    MovesOnly id s (s.onTopDeviceItem id) ↔ s.otherDeviceModel.idxOf id = 0 ∨
      s.myDeviceModel.length ≤ s.otherDeviceModel.idxOf id := by
  constructor
  · intro hmoves
    by_contra hboth
    obtain ⟨hfirst, hlt⟩ := not_or.mp hboth
    have hlt := Nat.lt_of_not_le hlt
    have hrest := hmoves.restMy
    have htop : (s.onTopDeviceItem id).myDeviceModel =
        s.myDeviceModel[s.otherDeviceModel.idxOf id] ::
          s.myDeviceModel.eraseIdx (s.otherDeviceModel.idxOf id) := by
      unfold onTopDeviceItem row model
      rw [if_neg hnot, if_pos hmem]
      simp only [Option.map_some, rows, if_neg hfirst, List.getElem?_eq_getElem hlt]
    have hnot' : id ∉ (s.onTopDeviceItem id).myDeviceModel :=
      fun hmem' => hnot (hmoves.my.mem_iff.mp hmem')
    rw [List.erase_of_not_mem hnot, List.erase_of_not_mem hnot', htop] at hrest
    have hpos : 0 < s.myDeviceModel.length := Nat.lt_of_le_of_lt (Nat.zero_le _) hlt
    have hhead : s.myDeviceModel[s.otherDeviceModel.idxOf id] = s.myDeviceModel[0] := by
      have hsame := congrArg List.head? hrest
      rw [List.head?_cons, List.head?_eq_getElem?, List.getElem?_eq_getElem hpos] at hsame
      exact Option.some.inj hsame
    exact hfirst ((hnodup.getElem_inj_iff).mp hhead)
  · intro hrow
    rw [onTopDeviceItem_stays hmem hnot hrow]
    exact .refl id s

/-- A connected own device that shows its state is put before all others. -/
theorem updateDeviceState_connected {s : AdapterItem} {id : String} {device : Device}
    (hdevice : s.devices.lookup id = some device) (hstate : device.state = .connected) :
    s.updateDeviceState id = s.onTopDeviceItem id := by
  simp [updateDeviceState, hdevice, hstate, deviceStateChanged]

/-- A device that shows another state is put back behind the connected ones if it is an
unavailable own device, and else stays where it is. -/
theorem updateDeviceState_of_ne {s : AdapterItem} {id : String} {device : Device}
    (hdevice : s.devices.lookup id = some device) (hstate : device.state ≠ .connected) :
    s.updateDeviceState id = s.deviceStateChanged id device := by
  simp [updateDeviceState, hdevice, hstate]

/-- The number of rows that an unavailable own device is put behind. -/
theorem Full.connectCount_eq {s : AdapterItem} (h : s.Full) {id : String} {device : Device}
    (hdevice : s.devices.lookup id = some device) (hstate : device.state = .unavailable) :
    s.connectCount = (s.myDeviceModel.erase id).countP fun id' => s.InState .connected id' := by
  have hmy := (List.nodup_append.mp h.nodup).1
  unfold connectCount
  rw [List.countP_eq_length_filter, List.countP_eq_length_filter]
  apply List.Perm.length_eq
  rw [List.perm_ext_iff_of_nodup (h.items.filter _) ((hmy.erase id).filter _)]
  intro id'
  rw [List.mem_filter, List.mem_filter, Option.any_eq_true, decide_eq_true_iff]
  constructor
  · rintro ⟨hitem, device', hdevice', hcounts⟩
    have hcounted := hcounts
    rw [Device.countsAsConnected, Device.connecting, Bool.or_false, Bool.and_eq_true,
      beq_iff_eq] at hcounted
    have hne : id' ≠ id := by
      rintro rfl
      obtain rfl := Option.some.inj (hdevice.symm.trans hdevice')
      rw [hstate] at hcounted
      exact DeviceState.noConfusion hcounted.2
    refine ⟨(List.mem_erase_of_ne hne).mpr (h.mem_my hitem hdevice' hcounted.1).1, ?_⟩
    exact ⟨device', hdevice', hcounted.2⟩
  · rintro ⟨hmem, device', hdevice', hconnected⟩
    have hrow := List.mem_of_mem_erase hmem
    refine ⟨h.item id' (List.mem_append_left _ hrow), device', hdevice', ?_⟩
    simp [Device.countsAsConnected, h.mine id' hrow device' hdevice', hconnected]

/-- Where the own devices are once the device has shown its state. -/
def placed (s : AdapterItem) (id : String) (device : Device) : List String :=
  if device.paired = true ∧ device.state = .connected then id :: s.myDeviceModel.erase id
  else if device.paired = true ∧ device.state = .unavailable then
    (s.myDeviceModel.erase id).insertIdx s.connectCount id
  else s.myDeviceModel

/-- Topping the device does not move another one. -/
def Quiet (s : AdapterItem) (id : String) (device : Device) : Prop :=
  device.state = .connected → device.paired = false →
    s.otherDeviceModel.idxOf id = 0 ∨ s.myDeviceModel.length ≤ s.otherDeviceModel.idxOf id

/-- What a device that shows its state does to the own devices. -/
theorem Full.updateDeviceState_eq {s : AdapterItem} (h : s.Full) {id : String} {device : Device}
    (hitem : id ∈ s.deviceItems) (hdevice : s.devices.lookup id = some device)
    (hquiet : s.Quiet id device) :
    s.updateDeviceState id = { s with myDeviceModel := s.placed id device } := by
  unfold placed
  by_cases hconnected : device.state = .connected
  · rw [updateDeviceState_connected hdevice hconnected]
    cases hpaired : device.paired with
    | true =>
      rw [if_pos ⟨rfl, hconnected⟩]
      exact onTopDeviceItem_my (h.mem_my hitem hdevice hpaired).1
    | false =>
      obtain ⟨hmem, hnot⟩ := h.mem_other hitem hdevice hpaired
      rw [if_neg (by simp), if_neg (by simp)]
      exact onTopDeviceItem_stays hmem hnot (hquiet hconnected hpaired)
  · rw [updateDeviceState_of_ne hdevice hconnected, if_neg fun hboth => hconnected hboth.2,
      deviceStateChanged]
    by_cases hmoves : device.paired = true ∧ device.state = .unavailable
    · have hmem := (h.mem_my hitem hdevice hmoves.1).1
      rw [if_pos hmoves, if_pos ⟨hmoves.2, hmoves.1, hmem⟩]
    · rw [if_neg hmoves, if_neg fun hall => hmoves ⟨hall.2.1, hall.1⟩]

/-- The rows of the other own devices, once the device has shown its state. -/
theorem Full.placed_perm {s : AdapterItem} (h : s.Full) {id : String} {device : Device}
    (hitem : id ∈ s.deviceItems) (hdevice : s.devices.lookup id = some device) :
    (s.placed id device).Perm s.myDeviceModel ∧
      (s.placed id device).erase id = s.myDeviceModel.erase id := by
  have hmy := (List.nodup_append.mp h.nodup).1
  unfold placed
  split_ifs with htops hback
  · have hmem := (h.mem_my hitem hdevice htops.1).1
    exact ⟨(List.perm_cons_erase hmem).symm, List.erase_cons_head _ _⟩
  · have hmem := (h.mem_my hitem hdevice hback.1).1
    have hle := (h.counts id).connectCount_le h.items hdevice hback.2
    exact ⟨(List.perm_insertIdx _ _ hle).trans (List.perm_cons_erase hmem).symm,
      erase_insertIdx hle hmy.not_mem_erase⟩
  · exact ⟨.refl _, rfl⟩

/-- A device that shows its state moves only itself exactly when topping it moves no other. -/
theorem Full.movesOnly_iff {s : AdapterItem} (h : s.Full) {id : String} {device : Device}
    (hitem : id ∈ s.deviceItems) (hdevice : s.devices.lookup id = some device) :
    MovesOnly id s (s.updateDeviceState id) ↔ s.Quiet id device := by
  constructor
  · intro hmoves hconnected hpaired
    obtain ⟨hmem, hnot⟩ := h.mem_other hitem hdevice hpaired
    rw [updateDeviceState_connected hdevice hconnected] at hmoves
    exact (movesOnly_onTopDeviceItem_iff hmem hnot (List.nodup_append.mp h.nodup).1).mp hmoves
  · intro hquiet
    obtain ⟨hperm, hrest⟩ := h.placed_perm hitem hdevice
    rw [h.updateDeviceState_eq hitem hdevice hquiet]
    exact ⟨hperm, .refl _, hrest, rfl⟩

/-- A device that shows its state once more stays where it is. -/
theorem Full.placed_placed {s : AdapterItem} (h : s.Full) {id : String} {device : Device}
    (hitem : id ∈ s.deviceItems) (hdevice : s.devices.lookup id = some device) :
    { s with myDeviceModel := s.placed id device }.placed id device = s.placed id device := by
  have hrest := (h.placed_perm hitem hdevice).2
  have hcount : { s with myDeviceModel := s.placed id device }.connectCount = s.connectCount := rfl
  rw [placed, hrest, hcount]
  unfold placed
  split_ifs <;> rfl

/-- Moving own devices keeps the rows full. -/
theorem Full.of_perm {s : AdapterItem} (h : s.Full) {rows : List String}
    (hperm : rows.Perm s.myDeviceModel) : { s with myDeviceModel := rows }.Full := by
  refine { h.toSound.of_subperm hperm.subperm with listed := ?_ }
  intro id hmem
  exact ((hperm.append_right _).mem_iff).mpr (h.listed id hmem)

/-- A device that shows its state a second time changes nothing. -/
theorem Full.updateDeviceState_again {s : AdapterItem} (h : s.Full) {id : String}
    {device : Device} (hitem : id ∈ s.deviceItems) (hdevice : s.devices.lookup id = some device)
    (hquiet : s.Quiet id device) :
    { s with myDeviceModel := s.placed id device }.updateDeviceState id =
      { s with myDeviceModel := s.placed id device } := by
  have hplaced := h.of_perm (h.placed_perm hitem hdevice).1
  have hquiet' : { s with myDeviceModel := s.placed id device }.Quiet id device := by
    intro hconnected hunpaired
    have hstays : s.placed id device = s.myDeviceModel := by
      rw [placed, if_neg (by simp [hunpaired]), if_neg (by simp [hunpaired])]
    rw [hstays]
    exact hquiet hconnected hunpaired
  rw [hplaced.updateDeviceState_eq hitem hdevice hquiet', h.placed_placed hitem hdevice]

/-- A device of the adapter that is updated, before its item shows the state. -/
def updated (s : AdapterItem) (id : String) (old new : Device) : AdapterItem :=
  (s.setPaired id old new).setDevice id (old.update new)

@[simp] theorem updated_deviceItems (s : AdapterItem) (id : String) (old new : Device) :
    (s.updated id old new).deviceItems = s.deviceItems := by
  rw [updated, setPaired_eq]
  rfl

theorem lookup_updated_device (s : AdapterItem) (id id' : String) (old new : Device) :
    (s.updated id old new).devices.lookup id' =
      if id' = id then some (old.update new) else s.devices.lookup id' := by
  rw [updated, lookup_setDevice, lookup_setPaired]
  split_ifs <;> rfl

/-- An update keeps the rows full until its device shows the state. -/
theorem Full.updated {s : AdapterItem} (h : s.Full) {id : String} {old : Device}
    (hold : s.devices.lookup id = some old) (new : Device) : (s.updated id old new).Full := by
  have hpaired : (s.setPaired id old new).Sound := h.toSound.setPaired hold
  have hdevice : (s.setPaired id old new).devices.lookup id =
      some { new with state := old.state } := by
    rw [lookup_setPaired, if_pos rfl]
  have hsound : (s.updated id old new).Sound := by
    apply hpaired.setDevice
    · intro hmem
      have hmine := hpaired.mine id hmem _ hdevice
      exact hmine
    · intro hmem
      have hothers := hpaired.others id hmem _ hdevice
      exact hothers
  refine { hsound with listed := ?_ }
  intro id' hitem
  rw [updated_deviceItems] at hitem
  exact (setPaired_perm s id old new).mem_iff.mpr (h.listed id' hitem)

/-- The own devices and the row of the device itself, once its pairing is set. -/
theorem Full.updated_rows {s : AdapterItem} (h : s.Full) {id : String} {old : Device}
    (hitem : id ∈ s.deviceItems) (hold : s.devices.lookup id = some old) (new : Device) :
    (new.paired = false → (s.updated id old new).myDeviceModel = s.myDeviceModel.erase id ∧
      (s.updated id old new).otherDeviceModel.idxOf id = s.otherRow id old) ∧
    (new.paired = true → old.paired = true →
      (s.updated id old new).myDeviceModel = s.myDeviceModel) ∧
    (new.paired = true → old.paired = false →
      (s.updated id old new).myDeviceModel = s.myDeviceModel ++ [id]) := by
  unfold AdapterItem.updated setPaired otherRow
  cases hpaired : old.paired with
  | true =>
    obtain ⟨hmem, hnot⟩ := h.mem_my hitem hold hpaired
    cases hnew : new.paired with
    | true => simp [setDevice]
    | false => simp [setDevice, hitem, pairedChanged, hmem, List.idxOf_append_of_notMem hnot]
  | false =>
    obtain ⟨hmem, hnot⟩ := h.mem_other hitem hold hpaired
    cases hnew : new.paired with
    | true => simp [setDevice, hitem, pairedChanged, hmem]
    | false => simp [setDevice, List.erase_of_not_mem hnot]

/-- The other own devices stay in their order when the pairing of one is set. -/
theorem Full.updated_erase {s : AdapterItem} (h : s.Full) {id : String} {old : Device}
    (hitem : id ∈ s.deviceItems) (hold : s.devices.lookup id = some old) (new : Device) :
    (s.updated id old new).myDeviceModel.erase id = s.myDeviceModel.erase id := by
  have hmy := (List.nodup_append.mp h.nodup).1
  obtain ⟨hunpaired, hsame, hpaired⟩ := h.updated_rows hitem hold new
  cases hnew : new.paired with
  | false => rw [(hunpaired hnew).1, List.erase_of_not_mem hmy.not_mem_erase]
  | true =>
    cases hbefore : old.paired with
    | true => rw [hsame hnew hbefore]
    | false =>
      have hnot := (h.mem_other hitem hold hbefore).2
      rw [hpaired hnew hbefore, List.erase_append_right _ hnot, List.erase_cons_head,
        List.append_nil, List.erase_of_not_mem hnot]

/-- The item of a device whose state has changed shows it. -/
theorem setState_steps {s : AdapterItem} {id : String} (hitem : id ∈ s.deviceItems)
    (old new : Device) :
    (s.setPaired id old new).setState id old new =
      if (old.update new).state ≠ old.state then (s.updated id old new).updateDeviceState id
      else s.updated id old new := by
  have hitem' : id ∈ ((s.setPaired id old new).setDevice id (old.update new)).deviceItems := by
    rw [setPaired_eq]
    exact hitem
  simp only [setState, updated, hitem', and_true]

/-- The item of a device that has an alias shows the state once more. -/
theorem onDeviceNameUpdated_steps {s : AdapterItem} {id : String} {device : Device}
    (hitem : id ∈ s.deviceItems) (hdevice : s.devices.lookup id = some device) :
    s.onDeviceNameUpdated id =
      if device.aliasName ≠ "" then s.updateDeviceState id else s := by
  simp [onDeviceNameUpdated, hitem, hdevice]

/-- The update, in two steps: the device is updated, and its item shows the state if it is told
to, once or twice. -/
theorem Full.update_steps {s : AdapterItem} (h : s.Full) {id : String} {old new : Device}
    (hitem : id ∈ s.deviceItems) (hold : s.devices.lookup id = some old)
    (hquiet : Called old new → (s.updated id old new).Quiet id (old.update new)) :
    ((s.setPaired id old new).setState id old new).onDeviceNameUpdated id =
      { s.updated id old new with
        myDeviceModel :=
          if Called old new then (s.updated id old new).placed id (old.update new)
          else (s.updated id old new).myDeviceModel } := by
  have hfull := h.updated hold new
  have hitem' : id ∈ (s.updated id old new).deviceItems := by rwa [updated_deviceItems]
  have hdevice : (s.updated id old new).devices.lookup id = some (old.update new) := by
    rw [lookup_updated_device, if_pos rfl]
  have hshows := fun hcalled => hfull.updateDeviceState_eq hitem' hdevice (hquiet hcalled)
  rw [setState_steps hitem]
  split_ifs with hstate hcalled hcalled
  · -- the state has changed, and the name may be shown once more
    rw [hshows hcalled]
    refine Eq.trans (onDeviceNameUpdated_steps hitem' hdevice) ?_
    rw [hfull.updateDeviceState_again hitem' hdevice (hquiet hcalled), ite_self]
  · exact absurd (.inl hstate) hcalled
  · rw [onDeviceNameUpdated_steps hitem' hdevice]
    have halias : (old.update new).aliasName ≠ "" := hcalled.resolve_left hstate
    rw [if_pos halias, hshows hcalled]
  · rw [onDeviceNameUpdated_steps hitem' hdevice]
    have halias : ¬(old.update new).aliasName ≠ "" := fun halias => hcalled (.inr halias)
    rw [if_neg halias]

/-- The repositionings of an update: for another state, and for an alias. -/
theorem repositionings_updateDevice {s : AdapterItem} {id : String} {old new : Device}
    (hitem : id ∈ s.deviceItems) (hold : s.devices.lookup id = some old)
    (hnamed : ¬(new.name = "" ∧ new.aliasName = "")) :
    s.repositionings (.updateDevice id new) =
      (if (old.update new).state ≠ old.state then
        [⟨id, s.updated id old new, (s.setPaired id old new).setState id old new⟩] else []) ++
      if new.aliasName ≠ "" then
        [⟨id, (s.setPaired id old new).setState id old new,
          ((s.setPaired id old new).setState id old new).onDeviceNameUpdated id⟩] else [] := by
  simp only [repositionings, if_neg hnamed, hold, hitem, and_true]
  rfl

/-- A device that has been placed once stays there when its name is shown. -/
theorem Full.movesOnly_again {s : AdapterItem} (h : s.Full) {id : String} {device : Device}
    (hitem : id ∈ s.deviceItems) (hdevice : s.devices.lookup id = some device)
    (hquiet : s.Quiet id device) :
    MovesOnly id (s.updateDeviceState id) ((s.updateDeviceState id).onDeviceNameUpdated id) := by
  rw [h.updateDeviceState_eq hitem hdevice hquiet]
  have hagain := h.updateDeviceState_again hitem hdevice hquiet
  have hname := onDeviceNameUpdated_steps
    (s := { s with myDeviceModel := s.placed id device }) hitem hdevice
  rw [hname, hagain, ite_self]
  exact .refl id _

/-- An update moves only its device exactly when its item is not told to show the state or topping
it moves no other. -/
theorem Full.movesOwn_iff {s : AdapterItem} (h : s.Full) {id : String} {old new : Device}
    (hitem : id ∈ s.deviceItems) (hold : s.devices.lookup id = some old)
    (hnamed : ¬(new.name = "" ∧ new.aliasName = "")) :
    s.MovesOwn (.updateDevice id new) ↔
      (Called old new → (s.updated id old new).Quiet id (old.update new)) := by
  have hfull := h.updated hold new
  have hitem' : id ∈ (s.updated id old new).deviceItems := by rwa [updated_deviceItems]
  have hdevice : (s.updated id old new).devices.lookup id = some (old.update new) := by
    rw [lookup_updated_device, if_pos rfl]
  have hfirst := hfull.movesOnly_iff hitem' hdevice
  unfold MovesOwn
  rw [repositionings_updateDevice hitem hold hnamed, setState_steps hitem old new]
  by_cases hstate : (old.update new).state ≠ old.state
  · -- the first call places the device, and a second one leaves it there
    simp only [if_pos hstate, List.mem_append, List.mem_singleton]
    constructor
    · intro hmoves _
      exact hfirst.mp (hmoves _ (.inl rfl))
    · intro hquiet call hmem
      have hquiet := hquiet (.inl hstate)
      obtain rfl | hmem := hmem
      · exact hfirst.mpr hquiet
      · split_ifs at hmem with halias
        · rw [List.mem_singleton.mp hmem]
          exact hfull.movesOnly_again hitem' hdevice hquiet
        · exact absurd hmem List.not_mem_nil
  · simp only [if_neg hstate, List.nil_append]
    by_cases halias : new.aliasName ≠ ""
    · have halias' : (old.update new).aliasName ≠ "" := halias
      rw [if_pos halias, onDeviceNameUpdated_steps hitem' hdevice, if_pos halias']
      constructor
      · intro hmoves _
        exact hfirst.mp (hmoves _ List.mem_cons_self)
      · intro hquiet call hmem
        rw [List.mem_singleton.mp hmem]
        exact hfirst.mpr (hquiet (.inr halias))
    · rw [if_neg halias]
      exact iff_of_true (fun call hmem => absurd hmem List.not_mem_nil)
        fun hcalled => absurd hcalled (not_or.mpr ⟨hstate, halias⟩)

/-- The states of the devices once one is updated. -/
theorem inState_updated {s : AdapterItem} {id id' : String} {old new : Device}
    {state : DeviceState} :
    (s.updated id old new).InState state id' ↔
      if id' = id then (old.update new).state = state else s.InState state id' := by
  unfold InState
  rw [lookup_updated_device]
  split_ifs <;> simp

/-- The other own devices stay in order when one is updated. -/
theorem Ordered.updated_rest {s : AdapterItem} (h : s.Ordered) (hnodup : s.myDeviceModel.Nodup)
    (id : String) (old new : Device) :
    Precedes ((s.updated id old new).InState .connected)
      ((s.updated id old new).InState .unavailable) (s.myDeviceModel.erase id) := by
  have hne : ∀ own ∈ s.myDeviceModel.erase id, own ≠ id := fun own hmem =>
    (hnodup.mem_erase_iff.mp hmem).1
  apply (h.sublist List.erase_sublist).imp
  · intro own hmem hstate
    rwa [inState_updated, if_neg (hne own hmem)] at hstate
  · intro own hmem hstate
    rwa [inState_updated, if_neg (hne own hmem)] at hstate

/-- Own devices that stay where they are stay in order when the one that is updated becomes no
more connected and no more unavailable than it was. -/
theorem Ordered.updated_same {s : AdapterItem} (h : s.Ordered) {id : String} {old new : Device}
    (hold : s.devices.lookup id = some old)
    (hstate : (old.update new).state = .available ∨ (old.update new).state = old.state) :
    Precedes ((s.updated id old new).InState .connected)
      ((s.updated id old new).InState .unavailable) s.myDeviceModel := by
  have hno : ∀ state, state ≠ .available → ∀ own, (s.updated id old new).InState state own →
      s.InState state own := by
    intro state hne own hown
    rw [inState_updated] at hown
    split_ifs at hown with hsame
    · obtain havailable | hkept := hstate
      · exact absurd (hown.symm.trans havailable) hne
      · rw [hsame]
        exact ⟨old, hold, hkept.symm.trans hown⟩
    · exact hown
  exact h.imp (fun own _ => hno .connected (by decide) own)
    (fun own _ => hno .unavailable (by decide) own)

/-- Where the own devices stay where they are or get a new one at the end, they stay in order
exactly when the new one is not connected or none of the others is unavailable. -/
theorem Full.ordered_stays_iff {s : AdapterItem} (h : s.Full) (hord : s.Ordered) {id : String}
    {old new : Device} (hitem : id ∈ s.deviceItems) (hold : s.devices.lookup id = some old)
    (hpaired : new.paired = true)
    (hstate : (old.update new).state = .available ∨ (old.update new).state = old.state) :
    (s.updated id old new).Ordered ↔
      ((old.update new).state = .connected → old.paired = false →
        ∀ own ∈ s.myDeviceModel, ¬s.InState .unavailable own) := by
  have hmy := (List.nodup_append.mp h.nodup).1
  obtain ⟨-, hsame, hnew⟩ := h.updated_rows hitem hold new
  unfold Ordered
  cases hbefore : old.paired with
  | true =>
    rw [hsame hpaired hbefore]
    exact iff_of_true (hord.updated_same hold hstate) fun _ hfalse => Bool.noConfusion hfalse
  | false =>
    have hnot := (h.mem_other hitem hold hbefore).2
    have hrest := hord.updated_rest hmy id old new
    rw [List.erase_of_not_mem hnot] at hrest
    have hconnected : (s.updated id old new).InState .connected id ↔
        (old.update new).state = .connected := by
      rw [inState_updated, if_pos rfl]
    have hothers : ∀ own ∈ s.myDeviceModel, (s.updated id old new).InState .unavailable own ↔
        s.InState .unavailable own := by
      intro own hmem
      have hne : own ≠ id := fun hsame => hnot (hsame ▸ hmem)
      rw [inState_updated, if_neg hne]
    rw [hnew hpaired hbefore, precedes_concat, hconnected, and_iff_right hrest]
    constructor
    · intro hnone hconnected _ own hmem hunavailable
      exact hnone hconnected own hmem ((hothers own hmem).mpr hunavailable)
    · intro hnone hconnected own hmem hunavailable
      exact hnone hconnected rfl own hmem ((hothers own hmem).mp hunavailable)

/-- What is left of `Places` when topping moves no other device. -/
def Settles (s : AdapterItem) (id : String) (old new : Device) : Prop :=
  ((old.update new).state = .connected → ¬Called old new → old.paired = false →
    new.paired = true → ∀ own ∈ s.myDeviceModel, ¬s.InState .unavailable own) ∧
  ((old.update new).state = .unavailable → Called old new → new.paired = true →
    (s.myDeviceModel.erase id).Pairwise fun a b =>
      s.InState .connected b → s.InState .connected a)

/-- Where an unavailable own device is put back, the own devices stay in order exactly when the
connected ones are the first of the others. -/
theorem Full.ordered_back_iff {s : AdapterItem} (h : s.Full) (hord : s.Ordered) {id : String}
    {old new : Device} (hitem : id ∈ s.deviceItems) (hold : s.devices.lookup id = some old)
    (hpaired : new.paired = true) (hcalled : Called old new)
    (hstate : (old.update new).state = .unavailable) :
    { s.updated id old new with
      myDeviceModel := (s.myDeviceModel.erase id).insertIdx (s.updated id old new).connectCount
        id }.Ordered ↔ s.Settles id old new := by
  have hmy := (List.nodup_append.mp h.nodup).1
  have hfull := h.updated hold new
  have hdevice : (s.updated id old new).devices.lookup id = some (old.update new) := by
    rw [lookup_updated_device, if_pos rfl]
  have hrest := hord.updated_rest hmy id old new
  have hcount := hfull.connectCount_eq hdevice hstate
  have hle := (hfull.counts id).connectCount_le hfull.items hdevice hstate
  rw [h.updated_erase hitem hold new] at hcount hle
  have hnot : ¬(s.updated id old new).InState .connected id := by
    rw [inState_updated, if_pos rfl, hstate]
    exact DeviceState.noConfusion
  have hback : (s.updated id old new).InState .unavailable id := by
    rw [inState_updated, if_pos rfl, hstate]
  have hfirst : ((s.myDeviceModel.erase id).Pairwise fun a b =>
      (s.updated id old new).InState .connected b → (s.updated id old new).InState .connected a) ↔
        (s.myDeviceModel.erase id).Pairwise fun a b =>
          s.InState .connected b → s.InState .connected a := by
    apply List.Pairwise.iff_of_mem
    intro a b ha hb
    have hne := (hmy.mem_erase_iff.mp ha).1
    have hne' := (hmy.mem_erase_iff.mp hb).1
    rw [inState_updated, inState_updated, if_neg hne, if_neg hne']
  refine (precedes_insertIdx hle hnot hback).trans ?_
  rw [hcount, and_iff_right hrest]
  refine forall_drop_countP.trans (hfirst.trans ?_)
  constructor
  · intro hleads
    exact ⟨fun hconnected => by simp [hstate] at hconnected, fun _ _ _ => hleads⟩
  · intro hsettles
    exact hsettles.2 hstate hcalled hpaired

/-- Where a device is not paired any more, the other own devices stay in order. -/
theorem Full.ordered_unpaired_iff {s : AdapterItem} (h : s.Full) (hord : s.Ordered) {id : String}
    {old new : Device} (hitem : id ∈ s.deviceItems) (hold : s.devices.lookup id = some old)
    (hpaired : new.paired = false) :
    { s.updated id old new with
      myDeviceModel :=
        if Called old new then (s.updated id old new).placed id (old.update new)
        else (s.updated id old new).myDeviceModel }.Ordered ↔ s.Settles id old new := by
  have hpaired' : (old.update new).paired = false := hpaired
  have hplaced : (s.updated id old new).placed id (old.update new) =
      (s.updated id old new).myDeviceModel := by
    rw [placed, if_neg (by simp [hpaired']), if_neg (by simp [hpaired'])]
  rw [hplaced, ite_self, ((h.updated_rows hitem hold new).1 hpaired).1]
  apply iff_of_true (hord.updated_rest (List.nodup_append.mp h.nodup).1 id old new)
  exact ⟨fun _ _ _ htrue => absurd htrue (by simp [hpaired]),
    fun _ _ htrue => absurd htrue (by simp [hpaired])⟩

/-- Where a connected own device is topped, the own devices are in order. -/
theorem Full.ordered_topped_iff {s : AdapterItem} (h : s.Full) (hord : s.Ordered) {id : String}
    {old new : Device} (hcalled : Called old new) (hstate : (old.update new).state = .connected) :
    { s.updated id old new with myDeviceModel := id :: s.myDeviceModel.erase id }.Ordered ↔
      s.Settles id old new := by
  apply iff_of_true
  · apply Precedes.cons (hord.updated_rest (List.nodup_append.mp h.nodup).1 id old new)
    intro hunavailable
    have hunavailable : (s.updated id old new).InState .unavailable id := hunavailable
    rw [inState_updated, if_pos rfl, hstate] at hunavailable
    exact DeviceState.noConfusion hunavailable
  · exact ⟨fun _ hnot => absurd hcalled hnot, fun hfalse => by simp [hstate] at hfalse⟩

/-- Where the item of a paired device is not told to show the state, the state is the same and the
device stays where it is. -/
theorem Full.ordered_uncalled_iff {s : AdapterItem} (h : s.Full) (hord : s.Ordered) {id : String}
    {old new : Device} (hitem : id ∈ s.deviceItems) (hold : s.devices.lookup id = some old)
    (hpaired : new.paired = true) (hcalled : ¬Called old new) :
    (s.updated id old new).Ordered ↔ s.Settles id old new := by
  have hstate : (old.update new).state = old.state := by
    by_contra hstate
    exact hcalled (.inl hstate)
  refine (h.ordered_stays_iff hord hitem hold hpaired (.inr hstate)).trans ?_
  constructor
  · intro hnone
    exact ⟨fun hconnected _ hbefore _ => hnone hconnected hbefore,
      fun _ hcall => absurd hcall hcalled⟩
  · intro hsettles hconnected hbefore
    exact hsettles.1 hconnected hcalled hbefore hpaired

/-- The own devices once an update has been handled are in order exactly when it settles them. -/
theorem Full.ordered_update_iff {s : AdapterItem} (h : s.Full) (hord : s.Ordered) {id : String}
    {old new : Device} (hitem : id ∈ s.deviceItems) (hold : s.devices.lookup id = some old) :
    { s.updated id old new with
      myDeviceModel :=
        if Called old new then (s.updated id old new).placed id (old.update new)
        else (s.updated id old new).myDeviceModel }.Ordered ↔ s.Settles id old new := by
  have herase := h.updated_erase hitem hold new
  cases hpaired : new.paired with
  | false => exact h.ordered_unpaired_iff hord hitem hold hpaired
  | true =>
    have hpaired' : (old.update new).paired = true := hpaired
    by_cases hcalled : Called old new
    · rw [if_pos hcalled]
      unfold placed
      cases hstate : (old.update new).state with
      | connected =>
        rw [if_pos ⟨hpaired', rfl⟩, herase]
        exact h.ordered_topped_iff hord hcalled hstate
      | unavailable =>
        rw [if_neg (by simp), if_pos ⟨hpaired', rfl⟩, herase]
        exact h.ordered_back_iff hord hitem hold hpaired hcalled hstate
      | available =>
        rw [if_neg (by simp), if_neg (by simp)]
        apply iff_of_true
        · apply (h.ordered_stays_iff hord hitem hold hpaired (.inl hstate)).mpr
          intro hconnected
          simp [hstate] at hconnected
        · exact ⟨fun hconnected => by simp [hstate] at hconnected,
            fun hunavailable => by simp [hstate] at hunavailable⟩
    · rw [if_neg hcalled]
      exact h.ordered_uncalled_iff hord hitem hold hpaired hcalled

/-- The row that a topped unpaired device is looked up with, in terms of the lists before. -/
theorem Full.quiet_iff {s : AdapterItem} (h : s.Full) {id : String} {old : Device}
    (hitem : id ∈ s.deviceItems) (hold : s.devices.lookup id = some old) (new : Device) :
    (s.updated id old new).Quiet id (old.update new) ↔
      ((old.update new).state = .connected → new.paired = false →
        s.otherRow id old = 0 ∨ s.ownRows id ≤ s.otherRow id old) := by
  have hrows := (h.updated_rows hitem hold new).1
  unfold Quiet
  apply forall_congr'
  intro _
  apply forall_congr'
  intro hunpaired
  obtain ⟨hmy, hother⟩ := hrows hunpaired
  rw [hmy, hother, ownRows]

/-- An update of a device with an item keeps the order and moves the device only exactly when it
is one that `Places` allows. -/
theorem Full.update_iff {s : AdapterItem} (h : s.Full) (hord : s.Ordered) {id : String}
    {old new : Device} (hitem : id ∈ s.deviceItems) (hold : s.devices.lookup id = some old)
    (hnamed : ¬(new.name = "" ∧ new.aliasName = "")) :
    (((s.setPaired id old new).setState id old new).onDeviceNameUpdated id).Ordered ∧
        s.MovesOwn (.updateDevice id new) ↔
      s.Places (.updateDevice id new) := by
  have hplaces : s.Places (.updateDevice id new) ↔
      (Called old new → (s.updated id old new).Quiet id (old.update new)) ∧
        s.Settles id old new := by
    have hall : ∀ p : Device → Prop, (∀ old ∈ s.devices.lookup id, p old) ↔ p old := by
      intro p
      rw [hold]
      exact ⟨fun hp => hp old rfl, fun hp old' hold' => Option.some.inj hold' ▸ hp⟩
    simp only [Places, hall, Settles, h.quiet_iff hitem hold new]
    rw [imp_iff_right hnamed, imp_iff_right hitem]
    apply and_congr_left
    intro _
    exact forall_comm
  rw [h.movesOwn_iff hitem hold hnamed, hplaces, and_comm]
  apply and_congr_right
  intro hquiet
  rw [h.update_steps hitem hold hquiet]
  exact h.ordered_update_iff hord hitem hold

/-- An update of a device without an item moves nothing. -/
theorem updateDevice_no_item {s : AdapterItem} {id : String} (hitem : id ∉ s.deviceItems)
    (old new : Device) :
    ((s.setPaired id old new).setState id old new).onDeviceNameUpdated id =
      s.updated id old new ∧
        (s.updated id old new).myDeviceModel = s.myDeviceModel := by
  simp [onDeviceNameUpdated, setState, setPaired, updated, hitem, setDevice]

/-- A new device that is not skipped has its item and its row. -/
theorem Full.onDeviceAdded {s : AdapterItem} (h : s.Full) {id : String} {device : Device}
    (hdevice : s.devices.lookup id = some device) (hnew : id ∉ s.deviceItems) :
    (s.onDeviceAdded id device).Full := by
  refine { h.toSound.onDeviceAdded hdevice hnew with listed := ?_ }
  intro id' hitem
  by_cases hskips : s.Skips device
  · rw [onDeviceAdded_of_skips hskips] at hitem ⊢
    exact h.listed id' hitem
  · obtain ⟨hitems, -⟩ := onDeviceAdded_rows h.powered hskips id
    rw [hitems, List.mem_insert_iff] at hitem
    rw [listed_onDeviceAdded h.powered]
    obtain rfl | hitem := hitem
    · exact .inr ⟨rfl, hskips⟩
    · exact .inl (h.listed id' hitem)

/-- A new device goes to the top if it is connected, and else to the end. -/
theorem Ordered.onDeviceAdded {s : AdapterItem} (h : s.Ordered) {id : String} {device : Device}
    (hdevice : s.devices.lookup id = some device) : (s.onDeviceAdded id device).Ordered := by
  have hstate : ∀ state, s.InState state id → device.state = state := by
    rintro state ⟨device', hdevice', hstate⟩
    rwa [Option.some.inj (hdevice.symm.trans hdevice')]
  unfold AdapterItem.onDeviceAdded
  dsimp only
  split_ifs with _ _ _ hconnected
  · exact h
  · exact h
  · exact precedes_concat.mpr ⟨h, fun hfirst => absurd (hstate _ hfirst) hconnected⟩
  · apply Precedes.cons h
    intro hlast
    rw [hstate _ hlast] at hconnected
    exact hconnected DeviceState.noConfusion
  · exact h

/-- What is skipped, added or removed of the devices keeps the others in order. -/
theorem Ordered.of_states {s s' : AdapterItem} (h : s.Ordered)
    (hsub : s'.myDeviceModel.Sublist s.myDeviceModel)
    (hstates : ∀ own ∈ s'.myDeviceModel, s'.devices.lookup own = s.devices.lookup own) :
    s'.Ordered := by
  apply (h.sublist hsub).imp
  · intro own hmem hstate
    rwa [InState, hstates own hmem] at hstate
  · intro own hmem hstate
    rwa [InState, hstates own hmem] at hstate

/-- A device of which nothing is shown yet can be given any data. -/
theorem Ordered.setDevice {s : AdapterItem} (h : s.Ordered) {id : String}
    (hnot : id ∉ s.myDeviceModel) (device : Device) : (s.setDevice id device).Ordered := by
  have hsub : (s.setDevice id device).myDeviceModel.Sublist s.myDeviceModel := .refl _
  apply h.of_states hsub
  intro own hmem
  have hne : own ≠ id := fun hsame => hnot (hsame ▸ hmem)
  rw [lookup_setDevice, if_neg hne]

/-- A new device of a full item. -/
theorem Full.onAddDevice {s : AdapterItem} (h : s.Full) (id : String) (device : Device) :
    (s.onAddDevice id device).Full ∧ (s.Ordered → (s.onAddDevice id device).Ordered) := by
  unfold AdapterItem.onAddDevice
  split_ifs with hknown
  · exact ⟨h, fun hord => hord⟩
  · have hnew : id ∉ s.deviceItems := fun hmem => hknown (h.known id hmem)
    have hnot : id ∉ s.myDeviceModel := fun hmem => hnew (h.item id (List.mem_append_left _ hmem))
    have hset : (s.setDevice id device).Full := by
      refine { h.toSound.setDevice ?_ ?_ with listed := h.listed }
      · exact fun hmem => absurd hmem hnot
      · exact fun hmem => absurd (h.item id (List.mem_append_right _ hmem)) hnew
    have hdevice : (s.setDevice id device).devices.lookup id = some device := by
      rw [lookup_setDevice, if_pos rfl]
    rw [removeDevice_of_not_mem hknown]
    exact ⟨hset.onDeviceAdded hdevice hnew,
      fun hord => (hord.setDevice hnot device).onDeviceAdded hdevice⟩

/-- A device that is removed from a full item. -/
theorem Full.removeDevice {s : AdapterItem} (h : s.Full) (id : String) :
    (s.removeDevice id).Full ∧ (s.Ordered → (s.removeDevice id).Ordered) := by
  have hsound := h.toSound.removeDevice id
  have hlisted := listed_removeDevice h.toSound id
  have hlookup := lookup_removeDevice h.toSound id
  by_cases hknown : id ∈ s.devices
  · have heq := h.toSound.removeDevice_eq hknown
    constructor
    · refine { hsound with listed := ?_ }
      intro id' hitem
      rw [heq] at hitem
      obtain ⟨hne, hitem⟩ := h.items.mem_erase_iff.mp hitem
      exact (hlisted id').mpr ⟨h.listed id' hitem, hne⟩
    · intro hord
      apply hord.of_states
      · rw [heq]
        exact (s.takeRow_eq id).2.1
      · intro own hmem
        have hne := ((hlisted own).mp (List.mem_append_left _ hmem)).2
        rw [hlookup, if_neg hne]
  · rw [removeDevice_of_not_mem hknown]
    exact ⟨h, fun hord => hord⟩

/-- A step of the devices keeps the rows full. -/
theorem Full.deviceStep {s : AdapterItem} (h : s.Full) (e : DeviceEvent) :
    (s.deviceStep e).Full := by
  cases e with
  | onAddDevice id device => exact (h.onAddDevice id device).1
  | removeDevice id => exact (h.removeDevice id).1
  | updateDevice id new =>
    refine { h.toSound.updateDevice id new with listed := ?_ }
    intro id' hitem
    simp only [AdapterItem.deviceStep] at hitem ⊢
    obtain ⟨heq, -⟩ | ⟨-, old, -, heq⟩ := s.updateDevice_cases id new
    · rw [heq] at hitem ⊢
      exact h.listed id' hitem
    · rw [heq, onDeviceNameUpdated_eq, setState_eq, setPaired_eq] at hitem
      rw [heq, listed_updated (h.counts id) h.items]
      exact h.listed id' hitem

/-- An event keeps the own devices in order and moves its device only exactly when it is one that
`Places` allows. -/
theorem Full.deviceStep_iff {s : AdapterItem} (h : s.Full) (hord : s.Ordered) (e : DeviceEvent) :
    (s.deviceStep e).Ordered ∧ s.MovesOwn e ↔ s.Places e := by
  cases e with
  | onAddDevice id device =>
    apply iff_of_true _ trivial
    exact ⟨(h.onAddDevice id device).2 hord, fun _ hnil => absurd hnil List.not_mem_nil⟩
  | removeDevice id =>
    apply iff_of_true _ trivial
    exact ⟨(h.removeDevice id).2 hord, fun _ hnil => absurd hnil List.not_mem_nil⟩
  | updateDevice id new =>
    have hmy := (List.nodup_append.mp h.nodup).1
    simp only [AdapterItem.deviceStep]
    obtain ⟨heq, hignored⟩ | ⟨hnamed, old, hold, heq⟩ := s.updateDevice_cases id new
    · have hnone : s.repositionings (.updateDevice id new) = [] := by
        obtain hblank | hunknown := hignored
        · rw [repositionings, if_pos hblank]
        · simp only [repositionings, hunknown, ite_self]
      rw [heq, MovesOwn, hnone]
      apply iff_of_true
      · exact ⟨hord, fun _ hnil => absurd hnil List.not_mem_nil⟩
      · intro hnamed _ old hold
        obtain hblank | hunknown := hignored
        · exact absurd hblank hnamed
        · exact absurd (hunknown.symm.trans hold) (Option.some_ne_none old).symm
    · rw [heq]
      by_cases hitem : id ∈ s.deviceItems
      · exact h.update_iff hord hitem hold hnamed
      · obtain ⟨hstays, hrows⟩ := updateDevice_no_item hitem old new
        have hnot : id ∉ s.myDeviceModel :=
          fun hmem => hitem (h.item id (List.mem_append_left _ hmem))
        have hnone : s.repositionings (.updateDevice id new) = [] := by
          simp [repositionings, hold, hitem]
        rw [hstays, MovesOwn, hnone]
        apply iff_of_true
        · refine ⟨?_, fun _ hnil => absurd hnil List.not_mem_nil⟩
          have hrest := hord.updated_rest hmy id old new
          rw [List.erase_of_not_mem hnot] at hrest
          rw [Ordered, hrows]
          exact hrest
        · exact fun _ hmem => absurd hmem hitem

/-- Once powered on, the own devices are in order. -/
theorem ordered_construct (devices : AList fun _ : String => Device) (displaySwitch : Bool) :
    (construct true devices displaySwitch).Full ∧
      (construct true devices displaySwitch).Ordered := by
  obtain ⟨heq, hsound, -, -, hitems, -⟩ := Sound.construct devices displaySwitch
  refine ⟨{ hsound with listed := fun id hmem => (hitems id).mp hmem }, ?_⟩
  rw [heq]
  have hloop : ∀ (entries : List (Sigma fun _ : String => Device)) (s : AdapterItem), s.Ordered →
      (∀ entry ∈ entries, s.devices.lookup entry.1 = some entry.2) →
        (entries.foldl addEntry s).Ordered := by
    intro entries
    induction entries with
    | nil => exact fun _ hord _ => hord
    | cons entry entries ih =>
      intro s hord hentries
      rw [List.foldl_cons]
      have hdevices : (s.addEntry entry).devices = s.devices := by
        rw [addEntry]
        split_ifs
        · rfl
        · exact (s.onDeviceAdded_eq entry.1 entry.2).2.1
      apply ih
      · rw [addEntry]
        split_ifs
        · exact hord
        · exact hord.onDeviceAdded (hentries entry List.mem_cons_self)
      · intro entry' hmem
        rw [hdevices]
        exact hentries entry' (List.mem_cons_of_mem _ hmem)
  apply hloop
  · exact precedes_nil
  · exact fun entry hmem => AList.mem_lookup_iff.mpr (mem_inIdOrder.mp hmem)

/-- On a powered adapter, every connected own device precedes every unavailable one throughout,
and every repositioning moves its device only, exactly when the updates are ones that `Places`
allows. -/
theorem always_ordered_iff (devices : AList fun _ : String => Device) (displaySwitch : Bool)
    (es : List DeviceEvent) :
    Always deviceStep Ordered (construct true devices displaySwitch) es ∧
        Obeys deviceStep MovesOwn (construct true devices displaySwitch) es ↔
      Obeys deviceStep Places (construct true devices displaySwitch) es := by
  obtain ⟨hfull, hord⟩ := ordered_construct devices displaySwitch
  exact always_and_obeys_iff (I := Full) (fun s e h => h.deviceStep e)
    (fun s e h hord => h.deviceStep_iff hord e) es hfull hord

/-- Two devices are paired and two are not, and the second of the latter gets connected. -/
def secondConnects : List DeviceEvent :=
  [.onAddDevice "/mouse" ⟨"mouse", "mouse", true, .unavailable⟩,
    .onAddDevice "/keyboard" ⟨"keyboard", "keyboard", true, .unavailable⟩,
    .onAddDevice "/phone" ⟨"phone", "phone", false, .unavailable⟩,
    .onAddDevice "/speaker" ⟨"speaker", "speaker", false, .unavailable⟩,
    .updateDevice "/speaker" ⟨"speaker", "speaker", false, .connected⟩]

/-- Topping an unpaired device moves the own device in the same row. -/
theorem not_movesOwn_topped :
    ¬(Always deviceStep Ordered (construct true ∅ true) secondConnects ∧
      Obeys deviceStep MovesOwn (construct true ∅ true) secondConnects) := by
  intro hboth
  obtain ⟨-, -, -, -, -, hlast, -⟩ := hboth
  have hrest := (hlast _ List.mem_cons_self).restMy
  revert hrest
  decide

end AdapterItem

end DdeTrayLoader.Bluetooth
