import DdeTrayLoader.Bluetooth.AdapterItem
import Mathlib.Data.List.Nodup
import Mathlib.Data.List.Perm.Subperm

/-!
# The rows of the device lists

The rows are distinct devices of the adapter, each in the list for its pairing. Every event keeps
this; what it says of each function is which devices have rows afterwards.
-/

namespace DdeTrayLoader.Bluetooth

open Transition

namespace AdapterItem

/-- The rows are distinct devices that have an item, in the list for their pairing. -/
structure Sound (s : AdapterItem) : Prop where
  powered : s.powered = true
  nodup : (s.myDeviceModel ++ s.otherDeviceModel).Nodup
  items : s.deviceItems.Nodup
  known : ∀ id ∈ s.deviceItems, id ∈ s.devices
  item : ∀ id ∈ s.myDeviceModel ++ s.otherDeviceModel, id ∈ s.deviceItems
  mine : ∀ id ∈ s.myDeviceModel, ∀ device ∈ s.devices.lookup id, device.paired = true
  others : ∀ id ∈ s.otherDeviceModel, ∀ device ∈ s.devices.lookup id, device.paired = false

/-- The device has a row. -/
def Listed (s : AdapterItem) (id : String) : Prop :=
  id ∈ s.myDeviceModel ++ s.otherDeviceModel

/-- Rows of the own devices can be moved and lost. -/
theorem Sound.of_subperm {s : AdapterItem} (h : s.Sound) {rows : List String}
    (hrows : rows.Subperm s.myDeviceModel) : { s with myDeviceModel := rows }.Sound := by
  have hboth : (rows ++ s.otherDeviceModel).Subperm (s.myDeviceModel ++ s.otherDeviceModel) :=
    (List.subperm_append_right _).mpr hrows
  obtain ⟨rows', hperm, hsublist⟩ := id hboth
  constructor
  · exact h.powered
  · exact hperm.nodup_iff.mp (h.nodup.sublist hsublist)
  · exact h.items
  · exact h.known
  · exact fun id hmem => h.item id (hboth.subset hmem)
  · exact fun id hmem => h.mine id (hrows.subset hmem)
  · exact h.others

/-- Topping a device moves a row of the own devices, if any. -/
theorem onTopDeviceItem_perm (s : AdapterItem) (id : String) :
    (s.onTopDeviceItem id).myDeviceModel.Perm s.myDeviceModel := by
  unfold onTopDeviceItem
  split
  · rfl
  · rename_i row hrow
    split_ifs
    · rfl
    · split
      · rfl
      · rename_i item hitem
        obtain ⟨hlt, rfl⟩ := List.getElem?_eq_some_iff.mp hitem
        exact List.getElem_cons_eraseIdx_perm hlt

/-- Topping a device changes nothing but the own devices. -/
theorem onTopDeviceItem_eq (s : AdapterItem) (id : String) :
    s.onTopDeviceItem id = { s with myDeviceModel := (s.onTopDeviceItem id).myDeviceModel } := by
  unfold onTopDeviceItem
  split
  · rfl
  · split_ifs
    · rfl
    · split <;> rfl

/-- Devices but this one that count as connected own devices are among the own rows. -/
def Counts (s : AdapterItem) (id : String) : Prop :=
  ∀ id' ∈ s.deviceItems, id' ≠ id → ∀ device ∈ s.devices.lookup id',
    device.countsAsConnected = true → id' ∈ s.myDeviceModel

/-- The rows before which a device is put back are there. -/
theorem Counts.connectCount_le {s : AdapterItem} {id : String} (h : s.Counts id)
    (hitems : s.deviceItems.Nodup) {device : Device} (hdevice : s.devices.lookup id = some device)
    (hstate : device.state = .unavailable) :
    s.connectCount ≤ (s.myDeviceModel.erase id).length := by
  unfold connectCount
  rw [List.countP_eq_length_filter]
  apply List.Subperm.length_le
  apply (hitems.filter _).subperm
  intro id' hmem
  obtain ⟨hitem, hcounts⟩ := List.mem_filter.mp hmem
  obtain ⟨device', hdevice', hcounts⟩ := (Option.any_eq_true _ _).mp hcounts
  have hne : id' ≠ id := by
    rintro rfl
    obtain rfl := Option.some.inj (hdevice.symm.trans hdevice')
    simp [Device.countsAsConnected, Device.connecting, hstate] at hcounts
  exact (List.mem_erase_of_ne hne).mpr (h id' hitem hne device' hdevice' hcounts)

/-- A reaction to the state changes nothing but the own devices. -/
theorem deviceStateChanged_eq (s : AdapterItem) (id : String) (device : Device) :
    s.deviceStateChanged id device =
      { s with myDeviceModel := (s.deviceStateChanged id device).myDeviceModel } := by
  unfold deviceStateChanged
  split_ifs <;> rfl

/-- A reaction to the state can lose the row of the device, but no other. -/
theorem deviceStateChanged_subperm (s : AdapterItem) (id : String) (device : Device) :
    (s.deviceStateChanged id device).myDeviceModel.Subperm s.myDeviceModel := by
  unfold deviceStateChanged
  split_ifs with hmoves
  · obtain ⟨-, -, hmem⟩ := hmoves
    dsimp only
    by_cases hle : s.connectCount ≤ (s.myDeviceModel.erase id).length
    · exact ((List.perm_insertIdx _ _ hle).trans (List.perm_cons_erase hmem).symm).subperm
    · rw [List.insertIdx_of_length_lt (Nat.lt_of_not_le hle)]
      exact List.erase_sublist.subperm
  · exact List.Subperm.refl _

/-- Where the connected devices have their rows, a reaction to the state loses none. -/
theorem deviceStateChanged_perm {s : AdapterItem} {id : String} {device : Device}
    (h : s.Counts id) (hitems : s.deviceItems.Nodup)
    (hdevice : s.devices.lookup id = some device) :
    (s.deviceStateChanged id device).myDeviceModel.Perm s.myDeviceModel := by
  unfold deviceStateChanged
  split_ifs with hmoves
  · obtain ⟨hstate, -, hmem⟩ := hmoves
    have hle := h.connectCount_le hitems hdevice hstate
    exact (List.perm_insertIdx _ _ hle).trans (List.perm_cons_erase hmem).symm
  · rfl

/-- A device that shows its state changes nothing but the own devices. -/
theorem updateDeviceState_eq (s : AdapterItem) (id : String) :
    s.updateDeviceState id =
      { s with myDeviceModel := (s.updateDeviceState id).myDeviceModel } := by
  unfold updateDeviceState
  split
  · rfl
  · dsimp only
    split_ifs
    · rw [deviceStateChanged_eq, onTopDeviceItem_eq]
    · rw [deviceStateChanged_eq]

theorem updateDeviceState_subperm (s : AdapterItem) (id : String) :
    (s.updateDeviceState id).myDeviceModel.Subperm s.myDeviceModel := by
  unfold updateDeviceState
  split
  · exact List.Subperm.refl _
  · dsimp only
    split_ifs
    · exact (deviceStateChanged_subperm _ _ _).trans (onTopDeviceItem_perm s id).subperm
    · exact deviceStateChanged_subperm _ _ _

/-- Where the connected devices have their rows, a device that shows its state loses none. -/
theorem updateDeviceState_perm {s : AdapterItem} {id : String} (h : s.Counts id)
    (hitems : s.deviceItems.Nodup) :
    (s.updateDeviceState id).myDeviceModel.Perm s.myDeviceModel := by
  unfold updateDeviceState
  split
  · rfl
  · rename_i device hdevice
    dsimp only
    split_ifs
    · have htop := onTopDeviceItem_perm s id
      have hcounts : (s.onTopDeviceItem id).Counts id := by
        rw [onTopDeviceItem_eq]
        intro id' hitem hne device' hdevice' hcounts
        exact htop.mem_iff.mpr (h id' hitem hne device' hdevice' hcounts)
      rw [onTopDeviceItem_eq] at hcounts
      have hreact := deviceStateChanged_perm hcounts hitems hdevice
      rw [← onTopDeviceItem_eq] at hreact
      exact hreact.trans htop
    · exact deviceStateChanged_perm h hitems hdevice

/-- A device that shows its state keeps the rows sound. -/
theorem Sound.updateDeviceState {s : AdapterItem} (h : s.Sound) (id : String) :
    (s.updateDeviceState id).Sound := by
  rw [updateDeviceState_eq]
  exact h.of_subperm (updateDeviceState_subperm s id)

theorem lookup_setDevice (s : AdapterItem) (id id' : String) (device : Device) :
    (s.setDevice id device).devices.lookup id' =
      if id' = id then some device else s.devices.lookup id' := by
  unfold setDevice
  split_ifs with hsame
  · rw [hsame, AList.lookup_insert]
  · rw [AList.lookup_insert_ne hsame]

/-- A device that stays in the list for its pairing keeps the rows sound. -/
theorem Sound.setDevice {s : AdapterItem} (h : s.Sound) {id : String} {device : Device}
    (hmine : id ∈ s.myDeviceModel → device.paired = true)
    (hothers : id ∈ s.otherDeviceModel → device.paired = false) :
    (s.setDevice id device).Sound := by
  constructor
  · exact h.powered
  · exact h.nodup
  · exact h.items
  · exact fun id' hmem => (AList.mem_insert _).mpr (.inr (h.known id' hmem))
  · exact h.item
  · intro id' hmem device' hdevice'
    rw [lookup_setDevice] at hdevice'
    split_ifs at hdevice' with hsame
    · obtain rfl := Option.some.inj hdevice'
      rw [hsame] at hmem
      exact hmine hmem
    · exact h.mine id' hmem device' hdevice'
  · intro id' hmem device' hdevice'
    rw [lookup_setDevice] at hdevice'
    split_ifs at hdevice' with hsame
    · obtain rfl := Option.some.inj hdevice'
      rw [hsame] at hmem
      exact hothers hmem
    · exact h.others id' hmem device' hdevice'

/-- A device that is paired or unpaired takes its row with it. -/
theorem pairedChanged_perm (s : AdapterItem) (id : String) (paired : Bool) :
    ((s.pairedChanged id paired).myDeviceModel ++ (s.pairedChanged id paired).otherDeviceModel).Perm
      (s.myDeviceModel ++ s.otherDeviceModel) := by
  unfold pairedChanged
  split_ifs with hpaired hmem hmem
  · dsimp only
    rw [List.append_assoc]
    exact (List.perm_cons_erase hmem).symm.append_left s.myDeviceModel
  · rfl
  · dsimp only
    have hfront : (s.otherDeviceModel ++ [id]).Perm (id :: s.otherDeviceModel) :=
      List.perm_append_singleton _ _
    exact ((hfront.append_left _).trans List.perm_middle).trans
      ((List.perm_cons_erase hmem).symm.append_right _)
  · rfl

/-- A device that is paired or unpaired changes nothing but the rows. -/
theorem pairedChanged_eq (s : AdapterItem) (id : String) (paired : Bool) :
    s.pairedChanged id paired =
      { s with
        myDeviceModel := (s.pairedChanged id paired).myDeviceModel
        otherDeviceModel := (s.pairedChanged id paired).otherDeviceModel } := by
  unfold pairedChanged
  split_ifs <;> rfl

/-- The rows of the other devices stay in their lists. -/
theorem mem_pairedChanged {s : AdapterItem} {id id' : String} (hne : id' ≠ id) (paired : Bool) :
    (id' ∈ (s.pairedChanged id paired).myDeviceModel ↔ id' ∈ s.myDeviceModel) ∧
      (id' ∈ (s.pairedChanged id paired).otherDeviceModel ↔ id' ∈ s.otherDeviceModel) := by
  unfold pairedChanged
  split_ifs
  · simp [List.mem_erase_of_ne hne, hne]
  · exact ⟨Iff.rfl, Iff.rfl⟩
  · simp [List.mem_erase_of_ne hne, hne]
  · exact ⟨Iff.rfl, Iff.rfl⟩

/-- The row of the device itself is not left in the wrong list. -/
theorem pairedChanged_not_mem {s : AdapterItem} {id : String}
    (h : (s.myDeviceModel ++ s.otherDeviceModel).Nodup) :
    id ∉ (s.pairedChanged id true).otherDeviceModel ∧
      id ∉ (s.pairedChanged id false).myDeviceModel := by
  obtain ⟨hmy, hother, -⟩ := List.nodup_append.mp h
  unfold pairedChanged
  simp only [if_true, Bool.false_eq_true, if_false]
  constructor
  · split_ifs with hmem
    · exact hother.not_mem_erase
    · exact hmem
  · split_ifs with hmem
    · exact hmy.not_mem_erase
    · exact hmem

/-- A device that is told of its new pairing keeps the rows sound. -/
theorem Sound.pairedChanged {s : AdapterItem} (h : s.Sound) (id : String) (device : Device) :
    ((s.setDevice id device).pairedChanged id device.paired).Sound := by
  have hperm := (s.setDevice id device).pairedChanged_perm id device.paired
  have hstays := fun id' (hne : id' ≠ id) =>
    mem_pairedChanged (s := s.setDevice id device) hne device.paired
  have hnot : id ∉ ((s.setDevice id device).pairedChanged id true).otherDeviceModel ∧
      id ∉ ((s.setDevice id device).pairedChanged id false).myDeviceModel :=
    pairedChanged_not_mem h.nodup
  rw [pairedChanged_eq]
  constructor
  · exact h.powered
  · exact hperm.nodup_iff.mpr h.nodup
  · exact h.items
  · intro id' hmem
    exact (AList.mem_insert _).mpr (.inr (h.known id' hmem))
  · exact fun id' hmem => h.item id' (hperm.mem_iff.mp hmem)
  · intro id' hmem device' hdevice'
    have hdevice' := (lookup_setDevice s id id' device).symm.trans hdevice'
    split_ifs at hdevice' with hsame
    · obtain rfl := Option.some.inj hdevice'
      rw [hsame] at hmem
      by_contra hunpaired
      rw [Bool.not_eq_true] at hunpaired
      rw [hunpaired] at hmem
      exact hnot.2 hmem
    · exact h.mine id' ((hstays id' hsame).1.mp hmem) device' hdevice'
  · intro id' hmem device' hdevice'
    have hdevice' := (lookup_setDevice s id id' device).symm.trans hdevice'
    split_ifs at hdevice' with hsame
    · obtain rfl := Option.some.inj hdevice'
      rw [hsame] at hmem
      by_contra hpaired
      rw [Bool.not_eq_false] at hpaired
      rw [hpaired] at hmem
      exact hnot.1 hmem
    · exact h.others id' ((hstays id' hsame).2.mp hmem) device' hdevice'

/-- A device whose pairing is set keeps the rows sound. -/
theorem Sound.setPaired {s : AdapterItem} (h : s.Sound) {id : String} {old new : Device}
    (hold : s.devices.lookup id = some old) : (s.setPaired id old new).Sound := by
  unfold AdapterItem.setPaired
  dsimp only
  split_ifs with hmoves
  · exact h.pairedChanged id { new with state := old.state }
  · have hsame : id ∈ s.deviceItems → new.paired = old.paired := by
      intro hitem
      by_contra hne
      exact hmoves ⟨hne, hitem⟩
    apply h.setDevice
    · intro hmem
      exact (hsame (h.item id (List.mem_append_left _ hmem))).trans (h.mine id hmem old hold)
    · intro hmem
      exact (hsame (h.item id (List.mem_append_right _ hmem))).trans (h.others id hmem old hold)

/-- A device whose pairing is set has a row if it had one, as all others. -/
theorem setPaired_perm (s : AdapterItem) (id : String) (old new : Device) :
    ((s.setPaired id old new).myDeviceModel ++ (s.setPaired id old new).otherDeviceModel).Perm
      (s.myDeviceModel ++ s.otherDeviceModel) := by
  unfold AdapterItem.setPaired
  dsimp only
  split_ifs
  · exact (s.setDevice id { new with state := old.state }).pairedChanged_perm id new.paired
  · rfl

/-- What setting the pairing changes, apart from the rows. -/
theorem setPaired_eq (s : AdapterItem) (id : String) (old new : Device) :
    s.setPaired id old new =
      { s.setDevice id { new with state := old.state } with
        myDeviceModel := (s.setPaired id old new).myDeviceModel
        otherDeviceModel := (s.setPaired id old new).otherDeviceModel } := by
  unfold setPaired
  dsimp only
  split_ifs
  · exact pairedChanged_eq _ id new.paired
  · rfl

/-- The other devices stay in their lists when the pairing of one is set. -/
theorem mem_setPaired {s : AdapterItem} {id id' : String} (hne : id' ≠ id) (old new : Device) :
    id' ∈ (s.setPaired id old new).myDeviceModel ↔ id' ∈ s.myDeviceModel := by
  unfold setPaired
  dsimp only
  split_ifs
  · exact (mem_pairedChanged (s := s.setDevice id { new with state := old.state }) hne
      new.paired).1
  · exact Iff.rfl

/-- Setting the pairing of a device leaves the rows of the others where they count. -/
theorem Counts.setPaired {s : AdapterItem} {id : String} (h : s.Counts id) (old new : Device) :
    (s.setPaired id old new).Counts id := by
  intro id' hitem hne device hdevice hcounts
  rw [setPaired_eq] at hitem hdevice
  have hdevice := (lookup_setDevice s id id' _).symm.trans hdevice
  rw [if_neg hne] at hdevice
  exact (mem_setPaired hne old new).mpr (h id' hitem hne device hdevice hcounts)

/-- Setting the state changes the device and the order of the own devices. -/
theorem setState_eq (s : AdapterItem) (id : String) (old new : Device) :
    s.setState id old new =
      { s.setDevice id (old.update new) with
        myDeviceModel := (s.setState id old new).myDeviceModel } := by
  unfold AdapterItem.setState
  dsimp only
  split_ifs
  · exact updateDeviceState_eq _ id
  · rfl

/-- A device whose state is set keeps the rows sound. -/
theorem Sound.setState {s : AdapterItem} (h : s.Sound) {id : String} {device : Device}
    (hdevice : s.devices.lookup id = some device) (old : Device) {new : Device}
    (hpaired : device.paired = new.paired) : (s.setState id old new).Sound := by
  have hset : (s.setDevice id (old.update new)).Sound := by
    apply h.setDevice
    · intro hmem
      exact hpaired.symm.trans (h.mine id hmem device hdevice)
    · intro hmem
      exact hpaired.symm.trans (h.others id hmem device hdevice)
  unfold AdapterItem.setState
  dsimp only
  split_ifs
  · exact hset.updateDeviceState id
  · exact hset

/-- Setting the data of a device leaves the rows of the others where they count. -/
theorem Counts.setDevice {s : AdapterItem} {id : String} (h : s.Counts id) (device : Device) :
    (s.setDevice id device).Counts id := by
  intro id' hitem hne device' hdevice' hcounts
  rw [lookup_setDevice, if_neg hne] at hdevice'
  exact h id' hitem hne device' hdevice' hcounts

/-- Moving own devices leaves them where they count. -/
theorem Counts.of_perm {s : AdapterItem} {id : String} (h : s.Counts id) {rows : List String}
    (hperm : rows.Perm s.myDeviceModel) : { s with myDeviceModel := rows }.Counts id := by
  intro id' hitem hne device hdevice hcounts
  exact hperm.mem_iff.mpr (h id' hitem hne device hdevice hcounts)

/-- Where the connected devices have their rows, a device whose state is set loses none. -/
theorem setState_perm {s : AdapterItem} {id : String} (h : s.Counts id)
    (hitems : s.deviceItems.Nodup) (old new : Device) :
    (s.setState id old new).myDeviceModel.Perm s.myDeviceModel := by
  unfold setState
  dsimp only
  split_ifs
  · exact updateDeviceState_perm (h.setDevice (old.update new)) hitems
  · rfl

theorem Sound.onDeviceNameUpdated {s : AdapterItem} (h : s.Sound) (id : String) :
    (s.onDeviceNameUpdated id).Sound := by
  unfold AdapterItem.onDeviceNameUpdated
  split_ifs
  · exact h.updateDeviceState id
  · exact h

/-- A device whose name is updated changes nothing but the own devices. -/
theorem onDeviceNameUpdated_eq (s : AdapterItem) (id : String) :
    s.onDeviceNameUpdated id =
      { s with myDeviceModel := (s.onDeviceNameUpdated id).myDeviceModel } := by
  unfold onDeviceNameUpdated
  split_ifs
  · exact updateDeviceState_eq s id
  · rfl

/-- Where the connected devices have their rows, a device whose name is updated loses none. -/
theorem onDeviceNameUpdated_perm {s : AdapterItem} {id : String} (h : s.Counts id)
    (hitems : s.deviceItems.Nodup) :
    (s.onDeviceNameUpdated id).myDeviceModel.Perm s.myDeviceModel := by
  unfold onDeviceNameUpdated
  split_ifs
  · exact updateDeviceState_perm h hitems
  · rfl

/-- An update is ignored, or goes to a device of the adapter. -/
theorem updateDevice_cases (s : AdapterItem) (id : String) (new : Device) :
    s.updateDevice id new = s ∧
        (new.name = "" ∧ new.aliasName = "" ∨ s.devices.lookup id = none) ∨
      ¬(new.name = "" ∧ new.aliasName = "") ∧ ∃ old, s.devices.lookup id = some old ∧
        s.updateDevice id new =
          ((s.setPaired id old new).setState id old new).onDeviceNameUpdated id := by
  unfold updateDevice
  split_ifs with hblank
  · exact .inl ⟨rfl, .inl hblank⟩
  · cases hold : s.devices.lookup id with
    | none => exact .inl ⟨rfl, .inr rfl⟩
    | some old => exact .inr ⟨hblank, old, rfl, rfl⟩

/-- What a device is once its pairing is set. -/
theorem lookup_setPaired (s : AdapterItem) (id id' : String) (old new : Device) :
    (s.setPaired id old new).devices.lookup id' =
      if id' = id then some { new with state := old.state } else s.devices.lookup id' := by
  rw [setPaired_eq]
  exact lookup_setDevice s id id' _

/-- What the devices are after an update. -/
theorem lookup_updated (s : AdapterItem) (id id' : String) (old new : Device) :
    (((s.setPaired id old new).setState id old new).onDeviceNameUpdated id).devices.lookup id' =
      if id' = id then some (old.update new) else s.devices.lookup id' := by
  rw [onDeviceNameUpdated_eq, setState_eq]
  refine (lookup_setDevice (s.setPaired id old new) id id' _).trans ?_
  rw [lookup_setPaired]
  split_ifs <;> rfl

theorem Sound.updateDevice {s : AdapterItem} (h : s.Sound) (id : String) (new : Device) :
    (s.updateDevice id new).Sound := by
  obtain ⟨heq, -⟩ | ⟨-, old, hold, heq⟩ := s.updateDevice_cases id new
  · rw [heq]
    exact h
  · have hpaired : (s.setPaired id old new).devices.lookup id =
        some { new with state := old.state } := by
      rw [lookup_setPaired, if_pos rfl]
    have hset : ((s.setPaired id old new).setState id old new).Sound :=
      (h.setPaired hold).setState hpaired old rfl
    rw [heq]
    exact hset.onDeviceNameUpdated id

/-- Where the connected devices have their rows, an update leaves the same devices with rows. -/
theorem listed_updated {s : AdapterItem} {id : String} (h : s.Counts id)
    (hitems : s.deviceItems.Nodup) (old new : Device) (id' : String) :
    (((s.setPaired id old new).setState id old new).onDeviceNameUpdated id).Listed id' ↔
      s.Listed id' := by
  have hcounts := h.setPaired old new
  have hpairedItems : (s.setPaired id old new).deviceItems.Nodup := by
    rw [setPaired_eq]
    exact hitems
  have hstate := setState_perm hcounts hpairedItems old new
  have hcountsState : ((s.setPaired id old new).setState id old new).Counts id := by
    rw [setState_eq]
    exact (hcounts.setDevice (old.update new)).of_perm hstate
  have hstateItems : ((s.setPaired id old new).setState id old new).deviceItems.Nodup := by
    rw [setState_eq]
    exact hpairedItems
  have hname := onDeviceNameUpdated_perm hcountsState hstateItems
  have hother : (((s.setPaired id old new).setState id old new).onDeviceNameUpdated
      id).otherDeviceModel = (s.setPaired id old new).otherDeviceModel := by
    rw [onDeviceNameUpdated_eq, setState_eq]
    rfl
  unfold Listed
  rw [hother, ((hname.trans hstate).append_right _).mem_iff, (setPaired_perm s id old new).mem_iff]

/-- The devices that have rows, once one row is taken out. -/
theorem listed_takeRow {s : AdapterItem}
    (h : (s.myDeviceModel ++ s.otherDeviceModel).Nodup) (id id' : String) :
    (s.takeRow id).Listed id' ↔ s.Listed id' ∧ id' ≠ id := by
  obtain ⟨hmy, hother, hdisjoint⟩ := List.nodup_append.mp h
  unfold takeRow model Listed
  split_ifs with hmem hmem'
  · have hnot : id ∉ s.otherDeviceModel := fun hmem' => hdisjoint id hmem id hmem' rfl
    simp only [setRows, rows, List.mem_append, hmy.mem_erase_iff]
    constructor
    · rintro (hboth | hmem')
      · exact ⟨.inl hboth.2, hboth.1⟩
      · exact ⟨.inr hmem', fun hsame => hnot (hsame ▸ hmem')⟩
    · intro hboth
      exact hboth.1.imp_left fun hrow => ⟨hboth.2, hrow⟩
  · simp only [setRows, rows, List.mem_append, hother.mem_erase_iff]
    constructor
    · rintro (hmem'' | hboth)
      · exact ⟨.inl hmem'', fun hsame => hmem (hsame ▸ hmem'')⟩
      · exact ⟨.inr hboth.2, hboth.1⟩
    · intro hboth
      exact hboth.1.imp_right fun hrow => ⟨hboth.2, hrow⟩
  · simp only [List.mem_append]
    constructor
    · intro hrow
      refine ⟨hrow, ?_⟩
      rintro rfl
      exact hrow.elim hmem hmem'
    · exact And.left

/-- Taking a row out changes nothing but the rows, of which it keeps the others in order. -/
theorem takeRow_eq (s : AdapterItem) (id : String) :
    s.takeRow id =
        { s with
          myDeviceModel := (s.takeRow id).myDeviceModel
          otherDeviceModel := (s.takeRow id).otherDeviceModel } ∧
      (s.takeRow id).myDeviceModel.Sublist s.myDeviceModel ∧
      (s.takeRow id).otherDeviceModel.Sublist s.otherDeviceModel := by
  unfold takeRow model
  split_ifs
  · exact ⟨rfl, List.erase_sublist, .refl _⟩
  · exact ⟨rfl, .refl _, List.erase_sublist⟩
  · exact ⟨rfl, .refl _, .refl _⟩

/-- Rows can be taken out. -/
theorem Sound.takeRow {s : AdapterItem} (h : s.Sound) (id : String) : (s.takeRow id).Sound := by
  obtain ⟨heq, hmy, hother⟩ := s.takeRow_eq id
  have hboth := hmy.append hother
  rw [heq]
  constructor
  · exact h.powered
  · exact h.nodup.sublist hboth
  · exact h.items
  · exact h.known
  · exact fun id' hmem => h.item id' (hboth.subset hmem)
  · exact fun id' hmem => h.mine id' (hmy.subset hmem)
  · exact fun id' hmem => h.others id' (hother.subset hmem)

/-- A row has a position in its model, within the number of items. -/
theorem row_le {s : AdapterItem} (hnodup : (s.myDeviceModel ++ s.otherDeviceModel).Nodup)
    (hitem : s.myDeviceModel ++ s.otherDeviceModel ⊆ s.deviceItems) {id : String} {row : ℕ}
    (hrow : s.row id = some row) : row ≤ s.deviceItems.length - 1 := by
  have hlength : (s.myDeviceModel ++ s.otherDeviceModel).length ≤ s.deviceItems.length :=
    (hnodup.subperm hitem).length_le
  rw [List.length_append] at hlength
  unfold AdapterItem.row model at hrow
  split_ifs at hrow with hmem hmem
  · have hlt := List.idxOf_lt_length_of_mem hmem
    simp only [Option.map_some, rows, Option.some.injEq] at hrow
    omega
  · have hlt := List.idxOf_lt_length_of_mem hmem
    simp only [Option.map_some, rows, Option.some.injEq] at hrow
    omega
  · simp at hrow

/-- A device that has no row is in no model. -/
theorem listed_of_row {s : AdapterItem} {id : String} :
    s.row id = none ↔ ¬s.Listed id := by
  unfold row model Listed
  rw [List.mem_append]
  split_ifs with hmem hmem' <;> simp [*]

/-- A device that is removed loses its item, and its row if it has one. -/
theorem onDeviceRemoved_eq {s : AdapterItem}
    (hnodup : (s.myDeviceModel ++ s.otherDeviceModel).Nodup)
    (hitem : s.myDeviceModel ++ s.otherDeviceModel ⊆ s.deviceItems) (id : String) :
    s.onDeviceRemoved id = { s.takeRow id with deviceItems := s.deviceItems.erase id } := by
  have hstays : ¬s.Listed id → s.takeRow id = s := by
    intro hnot
    unfold Listed at hnot
    rw [List.mem_append, not_or] at hnot
    simp only [AdapterItem.takeRow, model, if_neg hnot.1, if_neg hnot.2]
  unfold onDeviceRemoved
  split_ifs with hmem
  · dsimp only
    split
    · rename_i hrow
      rw [hstays (listed_of_row.mp hrow)]
    · rename_i row hrow
      rw [if_neg (Nat.not_lt.mpr (row_le hnodup hitem hrow))]
  · have hnot : ¬s.Listed id := fun hrow => hmem (hitem hrow)
    rw [hstays hnot, List.erase_of_not_mem hmem]

/-- Which row is taken out does not depend on the devices. -/
theorem takeRow_devices (s : AdapterItem) (devices : AList fun _ : String => Device)
    (id : String) :
    { s with devices := devices }.takeRow id = { s.takeRow id with devices := devices } := by
  simp only [takeRow, model]
  split_ifs <;> rfl

theorem removeDevice_of_not_mem {s : AdapterItem} {id : String} (h : id ∉ s.devices) :
    s.removeDevice id = s := by
  rw [removeDevice, if_neg h]

/-- A device that is removed goes with its item and its row. -/
theorem Sound.removeDevice_eq {s : AdapterItem} (h : s.Sound) {id : String}
    (hknown : id ∈ s.devices) :
    s.removeDevice id =
      { s.takeRow id with
        devices := s.devices.erase id
        deviceItems := s.deviceItems.erase id } := by
  rw [AdapterItem.removeDevice, if_pos hknown]
  have hremoved := onDeviceRemoved_eq (s := { s with devices := s.devices.erase id })
    h.nodup h.item id
  rw [hremoved, takeRow_devices]

theorem lookup_removeDevice {s : AdapterItem} (h : s.Sound) (id id' : String) :
    (s.removeDevice id).devices.lookup id' =
      if id' = id then none else s.devices.lookup id' := by
  by_cases hknown : id ∈ s.devices
  · rw [h.removeDevice_eq hknown]
    split_ifs with hsame
    · rw [hsame, AList.lookup_erase]
    · rw [AList.lookup_erase_ne hsame]
  · rw [removeDevice_of_not_mem hknown]
    split_ifs with hsame
    · rw [hsame, AList.lookup_eq_none.mpr hknown]
    · rfl

/-- The devices that have rows, once one is removed. -/
theorem listed_removeDevice {s : AdapterItem} (h : s.Sound) (id id' : String) :
    (s.removeDevice id).Listed id' ↔ s.Listed id' ∧ id' ≠ id := by
  by_cases hknown : id ∈ s.devices
  · rw [h.removeDevice_eq hknown]
    exact listed_takeRow h.nodup id id'
  · rw [removeDevice_of_not_mem hknown, iff_self_and]
    rintro hmem rfl
    exact hknown (h.known id' (h.item id' hmem))

theorem Sound.removeDevice {s : AdapterItem} (h : s.Sound) (id : String) :
    (s.removeDevice id).Sound := by
  have hlookup := lookup_removeDevice h id
  have hlisted := listed_removeDevice h id
  by_cases hknown : id ∈ s.devices
  · have htaken := h.takeRow id
    obtain ⟨heq, -, -⟩ := s.takeRow_eq id
    rw [h.removeDevice_eq hknown] at hlookup hlisted ⊢
    constructor
    · exact htaken.powered
    · exact htaken.nodup
    · exact h.items.erase id
    · intro id' hmem
      obtain ⟨hne, hitem⟩ := h.items.mem_erase_iff.mp hmem
      exact AList.mem_erase.mpr ⟨hne, h.known id' hitem⟩
    · intro id' hmem
      obtain ⟨hrow, hne⟩ := (hlisted id').mp hmem
      exact h.items.mem_erase_iff.mpr ⟨hne, h.item id' hrow⟩
    · intro id' hmem device hdevice
      have hdevice := (hlookup id').symm.trans hdevice
      split_ifs at hdevice
      rw [heq] at htaken
      exact htaken.mine id' hmem device hdevice
    · intro id' hmem device hdevice
      have hdevice := (hlookup id').symm.trans hdevice
      split_ifs at hdevice
      rw [heq] at htaken
      exact htaken.others id' hmem device hdevice
  · rw [removeDevice_of_not_mem hknown]
    exact h

/-- The device is skipped when it is added. -/
def Skips (s : AdapterItem) (device : Device) : Prop :=
  s.showUnnamedDevices = false ∧ device.name = ""

instance (s : AdapterItem) (device : Device) : Decidable (s.Skips device) :=
  inferInstanceAs (Decidable (_ ∧ _))

theorem onDeviceAdded_of_skips {s : AdapterItem} {device : Device} (hskips : s.Skips device)
    (id : String) : s.onDeviceAdded id device = s := by
  have hunnamed : s.showUnnamedDevices = false ∧ device.name = "" := hskips
  rw [onDeviceAdded, if_pos hunnamed, ite_self]

/-- A device that is not skipped gets an item and a row, in the list for its pairing. -/
theorem onDeviceAdded_rows {s : AdapterItem} (hpowered : s.powered = true) {device : Device}
    (hshown : ¬s.Skips device) (id : String) :
    (s.onDeviceAdded id device).deviceItems = s.deviceItems.insert id ∧
      ((s.onDeviceAdded id device).myDeviceModel ++
        (s.onDeviceAdded id device).otherDeviceModel).Perm
          (id :: (s.myDeviceModel ++ s.otherDeviceModel)) ∧
      (∀ id', id' ∈ (s.onDeviceAdded id device).myDeviceModel ↔
        id' ∈ s.myDeviceModel ∨ id' = id ∧ device.paired = true) ∧
      ∀ id', id' ∈ (s.onDeviceAdded id device).otherDeviceModel ↔
        id' ∈ s.otherDeviceModel ∨ id' = id ∧ device.paired = false := by
  have hunskipped : ¬(s.showUnnamedDevices = false ∧ device.name = "") := hshown
  unfold onDeviceAdded
  rw [if_neg (by simp [hpowered]), if_neg hunskipped]
  dsimp only
  split_ifs with hpaired hstate
  · refine ⟨rfl, ?_, ?_, ?_⟩
    · dsimp only
      rw [List.append_assoc, List.singleton_append]
      exact List.perm_middle
    · simp [hpaired]
    · simp [hpaired]
  · refine ⟨rfl, .refl _, ?_, ?_⟩
    · simp [hpaired, or_comm]
    · simp [hpaired]
  · refine ⟨rfl, ?_, ?_, ?_⟩
    · dsimp only
      rw [← List.append_assoc]
      exact List.perm_append_singleton _ _
    · simp [hpaired]
    · simp [hpaired]

/-- A new device changes neither the devices nor the switch. -/
theorem onDeviceAdded_eq (s : AdapterItem) (id : String) (device : Device) :
    (s.onDeviceAdded id device).powered = s.powered ∧
      (s.onDeviceAdded id device).devices = s.devices ∧
      (s.onDeviceAdded id device).showUnnamedDevices = s.showUnnamedDevices := by
  unfold onDeviceAdded
  dsimp only
  split_ifs <;> exact ⟨rfl, rfl, rfl⟩

/-- The devices that have rows, once one is added. -/
theorem listed_onDeviceAdded {s : AdapterItem} (hpowered : s.powered = true) (id : String)
    (device : Device) (id' : String) :
    (s.onDeviceAdded id device).Listed id' ↔ s.Listed id' ∨ id' = id ∧ ¬s.Skips device := by
  by_cases hskips : s.Skips device
  · rw [onDeviceAdded_of_skips hskips]
    simp [hskips]
  · obtain ⟨-, hperm, -⟩ := onDeviceAdded_rows hpowered hskips id
    unfold Listed
    rw [hperm.mem_iff, List.mem_cons]
    simp [hskips, or_comm]

/-- A device of the adapter that has no item yet can be added. -/
theorem Sound.onDeviceAdded {s : AdapterItem} (h : s.Sound) {id : String} {device : Device}
    (hdevice : s.devices.lookup id = some device) (hnew : id ∉ s.deviceItems) :
    (s.onDeviceAdded id device).Sound := by
  by_cases hskips : s.Skips device
  · rw [onDeviceAdded_of_skips hskips]
    exact h
  · obtain ⟨hitems, hperm, hmy, hother⟩ := onDeviceAdded_rows h.powered hskips id
    obtain ⟨hpowered, hdevices, -⟩ := s.onDeviceAdded_eq id device
    have hfree : id ∉ s.myDeviceModel ++ s.otherDeviceModel := fun hmem => hnew (h.item id hmem)
    constructor
    · exact hpowered.trans h.powered
    · exact hperm.nodup_iff.mpr (List.nodup_cons.mpr ⟨hfree, h.nodup⟩)
    · rw [hitems]
      exact h.items.insert
    · intro id' hmem
      rw [hitems, List.mem_insert_iff] at hmem
      rw [hdevices]
      obtain rfl | hmem := hmem
      · exact AList.lookup_isSome.mp (Option.isSome_iff_exists.mpr ⟨device, hdevice⟩)
      · exact h.known id' hmem
    · intro id' hmem
      rw [hitems, List.mem_insert_iff]
      exact (List.mem_cons.mp (hperm.mem_iff.mp hmem)).imp_right (h.item id')
    · intro id' hmem device' hdevice'
      rw [hdevices] at hdevice'
      obtain hmem | ⟨rfl, hpaired⟩ := (hmy id').mp hmem
      · exact h.mine id' hmem device' hdevice'
      · rwa [Option.some.inj (hdevice'.symm.trans hdevice)]
    · intro id' hmem device' hdevice'
      rw [hdevices] at hdevice'
      obtain hmem | ⟨rfl, hpaired⟩ := (hother id').mp hmem
      · exact h.others id' hmem device' hdevice'
      · rwa [Option.some.inj (hdevice'.symm.trans hdevice)]

/-- An added device of the adapter is new, or known already. -/
theorem Sound.onAddDevice {s : AdapterItem} (h : s.Sound) (id : String) (device : Device) :
    (s.onAddDevice id device).Sound := by
  unfold AdapterItem.onAddDevice
  split_ifs with hknown
  · exact h
  · have hnew : id ∉ s.deviceItems := fun hmem => hknown (h.known id hmem)
    have hset : (s.setDevice id device).Sound := by
      apply h.setDevice
      · exact fun hmem => absurd (h.item id (List.mem_append_left _ hmem)) hnew
      · exact fun hmem => absurd (h.item id (List.mem_append_right _ hmem)) hnew
    rw [removeDevice_of_not_mem hknown]
    exact hset.onDeviceAdded (by rw [lookup_setDevice, if_pos rfl]) hnew

/-- The device has no name. -/
def Nameless (s : AdapterItem) (id : String) : Prop :=
  ∃ device ∈ s.devices.lookup id, device.name = ""

/-- The loop that hides unnamed devices takes them out whatever their states are. -/
theorem hideItem_cases (s : AdapterItem) (id : String) :
    s.Nameless id ∧ s.hideItem id = s.takeRow id ∨ ¬s.Nameless id ∧ s.hideItem id = s := by
  have hnameless : (s.devices.lookup id).any (fun device =>
      device.name = "" ∧ (device.state ≠ .connected ∨ device.connecting = false)) = true ↔
        s.Nameless id := by
    simp [Nameless, Device.connecting, Option.any_eq_true]
  unfold hideItem
  split_ifs with htaken
  · exact .inl ⟨hnameless.mp htaken, rfl⟩
  · exact .inr ⟨fun hunnamed => htaken (hnameless.mpr hunnamed), rfl⟩

/-- No item whose device has a row is put into a model once more. -/
theorem showItem_eq (connectCount : ℕ) (s : AdapterItem) (id : String) :
    s.showItem connectCount id = s := by
  unfold showItem model
  split_ifs <;> simp [rows, *]

/-- Showing unnamed devices changes no row. -/
theorem setUnnamedDevicesVisible_true (s : AdapterItem) : s.setUnnamedDevicesVisible true = s := by
  have hfold : ∀ items : List String, items.foldl (showItem s.connectCount) s = s := by
    intro items
    induction items with
    | nil => rfl
    | cons id items ih => rw [List.foldl_cons, showItem_eq, ih]
  exact hfold s.deviceItems

/-- Hiding unnamed devices takes out the rows of all of them that have an item. -/
theorem Sound.foldl_hideItem {s : AdapterItem} (h : s.Sound) (items : List String) :
    (items.foldl hideItem s).Sound ∧ (items.foldl hideItem s).devices = s.devices ∧
      (items.foldl hideItem s).showUnnamedDevices = s.showUnnamedDevices ∧
      ∀ id, (items.foldl hideItem s).Listed id ↔
        s.Listed id ∧ ¬(id ∈ items ∧ s.Nameless id) := by
  induction items generalizing s with
  | nil => simp [h]
  | cons id items ih =>
    obtain ⟨heq, -, -⟩ := s.takeRow_eq id
    have hstep : (s.hideItem id).Sound ∧ (s.hideItem id).devices = s.devices ∧
        (s.hideItem id).showUnnamedDevices = s.showUnnamedDevices ∧
        ∀ id', (s.hideItem id).Listed id' ↔ s.Listed id' ∧ ¬(id' = id ∧ s.Nameless id') := by
      obtain ⟨hunnamed, hhide⟩ | ⟨hnamed, hhide⟩ := s.hideItem_cases id
      · rw [hhide]
        refine ⟨h.takeRow id, by rw [heq], by rw [heq], ?_⟩
        intro id'
        rw [listed_takeRow h.nodup]
        apply and_congr_right
        intro _
        apply not_congr
        rw [iff_self_and]
        rintro rfl
        exact hunnamed
      · rw [hhide]
        refine ⟨h, rfl, rfl, ?_⟩
        intro id'
        rw [iff_self_and]
        rintro _ ⟨rfl, hunnamed⟩
        exact hnamed hunnamed
    obtain ⟨hsound, hdevices, hshow, hlisted⟩ := hstep
    obtain ⟨hsound', hdevices', hshow', hlisted'⟩ := ih hsound
    have hsame : ∀ id', (s.hideItem id).Nameless id' ↔ s.Nameless id' := by
      intro id'
      rw [Nameless, Nameless, hdevices]
    rw [List.foldl_cons]
    refine ⟨hsound', hdevices'.trans hdevices, hshow'.trans hshow, ?_⟩
    intro id'
    rw [hlisted' id', hlisted id', hsame, List.mem_cons, or_and_right, not_or, and_assoc]

/-- Nothing is taken out where all items have a named device. -/
theorem foldl_hideItem_eq {s : AdapterItem} {items : List String}
    (h : ∀ id ∈ items, ¬s.Nameless id) : items.foldl hideItem s = s := by
  induction items with
  | nil => rfl
  | cons id items ih =>
    obtain ⟨hunnamed, -⟩ | ⟨-, hhide⟩ := s.hideItem_cases id
    · exact absurd hunnamed (h id List.mem_cons_self)
    · rw [List.foldl_cons, hhide]
      exact ih fun id' hmem => h id' (List.mem_cons_of_mem _ hmem)

/-- The loop of `initData` adds a device that is not skipped. -/
theorem Sound.addEntry {s : AdapterItem} (h : s.Sound)
    (hrows : ∀ id, id ∈ s.deviceItems ↔ s.Listed id) {entry : Sigma fun _ => Device}
    (hentry : s.devices.lookup entry.1 = some entry.2) :
    (s.addEntry entry).Sound ∧ (s.addEntry entry).devices = s.devices ∧
      (s.addEntry entry).showUnnamedDevices = s.showUnnamedDevices ∧
      (∀ id, id ∈ (s.addEntry entry).deviceItems ↔ (s.addEntry entry).Listed id) ∧
      ∀ id, (s.addEntry entry).Listed id ↔ s.Listed id ∨ entry.1 = id ∧ ¬s.Skips entry.2 := by
  unfold AdapterItem.addEntry
  split_ifs with hitem
  · refine ⟨h, rfl, rfl, hrows, ?_⟩
    intro id
    rw [iff_self_or]
    rintro ⟨rfl, -⟩
    exact (hrows entry.1).mp hitem
  · obtain ⟨-, hdevices, hshow⟩ := s.onDeviceAdded_eq entry.1 entry.2
    have hlisted : ∀ id, (s.onDeviceAdded entry.1 entry.2).Listed id ↔
        s.Listed id ∨ entry.1 = id ∧ ¬s.Skips entry.2 := by
      intro id
      rw [listed_onDeviceAdded h.powered, eq_comm]
    refine ⟨h.onDeviceAdded hentry hitem, hdevices, hshow, ?_, hlisted⟩
    intro id
    rw [hlisted]
    by_cases hskips : s.Skips entry.2
    · rw [onDeviceAdded_of_skips hskips, hrows]
      simp [hskips]
    · obtain ⟨hitems, -⟩ := onDeviceAdded_rows h.powered hskips entry.1
      rw [hitems, List.mem_insert_iff, hrows, eq_comm]
      simp [hskips, or_comm]

/-- The loop of `initData` adds the devices that are not skipped. -/
theorem Sound.foldl_addEntry {s : AdapterItem} (h : s.Sound)
    (hrows : ∀ id, id ∈ s.deviceItems ↔ s.Listed id) {entries : List (Sigma fun _ => Device)}
    (hentries : ∀ entry ∈ entries, s.devices.lookup entry.1 = some entry.2) :
    (entries.foldl AdapterItem.addEntry s).Sound ∧
      (entries.foldl AdapterItem.addEntry s).devices = s.devices ∧
      (entries.foldl AdapterItem.addEntry s).showUnnamedDevices = s.showUnnamedDevices ∧
      (∀ id, id ∈ (entries.foldl AdapterItem.addEntry s).deviceItems ↔
        (entries.foldl AdapterItem.addEntry s).Listed id) ∧
      ∀ id, (entries.foldl AdapterItem.addEntry s).Listed id ↔
        s.Listed id ∨ ∃ entry ∈ entries, entry.1 = id ∧ ¬s.Skips entry.2 := by
  induction entries generalizing s with
  | nil => simp [h, hrows]
  | cons entry entries ih =>
    obtain ⟨hsound, hdevices, hshow, hitems, hlisted⟩ :=
      h.addEntry hrows (hentries entry List.mem_cons_self)
    have hrest : ∀ entry' ∈ entries, (s.addEntry entry).devices.lookup entry'.1 =
        some entry'.2 := by
      intro entry' hmem
      rw [hdevices]
      exact hentries entry' (List.mem_cons_of_mem _ hmem)
    obtain ⟨hsound', hdevices', hshow', hitems', hlisted'⟩ := ih hsound hitems hrest
    rw [List.foldl_cons]
    refine ⟨hsound', hdevices'.trans hdevices, hshow'.trans hshow, hitems', ?_⟩
    intro id
    rw [hlisted', hlisted]
    simp only [Skips, hshow, List.mem_cons, exists_eq_or_imp, or_assoc]

/-- The item of an adapter that has just been powered on, before the loop of `initData`. -/
def bare (devices : AList fun _ : String => Device) (displaySwitch : Bool) : AdapterItem :=
  ⟨true, devices, displaySwitch, [], [], []⟩

theorem sound_bare (devices : AList fun _ : String => Device) (displaySwitch : Bool) :
    (bare devices displaySwitch).Sound := by
  constructor <;> simp [bare]

/-- The loop of `initData` over all devices. -/
theorem sound_added (devices : AList fun _ : String => Device) (displaySwitch : Bool) :
    let added := (inIdOrder devices).foldl addEntry (bare devices displaySwitch)
    added.Sound ∧ added.devices = devices ∧ added.showUnnamedDevices = displaySwitch ∧
      (∀ id, id ∈ added.deviceItems ↔ added.Listed id) ∧
      ∀ id, added.Listed id ↔
        ∃ device ∈ devices.lookup id, ¬(displaySwitch = false ∧ device.name = "") := by
  have hentries : ∀ entry ∈ inIdOrder devices,
      (bare devices displaySwitch).devices.lookup entry.1 = some entry.2 := by
    intro entry hmem
    exact AList.mem_lookup_iff.mpr (mem_inIdOrder.mp hmem)
  obtain ⟨hsound, hdevices, hshow, hitems, hlisted⟩ :=
    (sound_bare devices displaySwitch).foldl_addEntry (by simp [bare, Listed]) hentries
  refine ⟨hsound, hdevices, hshow, hitems, ?_⟩
  intro id
  rw [hlisted]
  constructor
  · rintro (hmem | ⟨⟨_, device⟩, hmem, rfl, hshown⟩)
    · simp [bare, Listed] at hmem
    · exact ⟨device, AList.mem_lookup_iff.mpr (mem_inIdOrder.mp hmem), hshown⟩
  · rintro ⟨device, hdevice, hshown⟩
    exact .inr ⟨⟨id, device⟩, mem_inIdOrder.mpr (AList.mem_lookup_iff.mp hdevice), rfl, hshown⟩

/-- The devices that `initData` hides in the end have not been added. -/
theorem construct_eq (devices : AList fun _ : String => Device) (displaySwitch : Bool) :
    construct true devices displaySwitch =
      (inIdOrder devices).foldl addEntry (bare devices displaySwitch) := by
  obtain ⟨-, hdevices, hshow, hitems, hlisted⟩ := sound_added devices displaySwitch
  have hinit : construct true devices displaySwitch =
      ((inIdOrder devices).foldl addEntry (bare devices displaySwitch)).setUnnamedDevicesVisible
        ((inIdOrder devices).foldl addEntry (bare devices displaySwitch)).showUnnamedDevices := rfl
  rw [hinit, hshow]
  cases displaySwitch with
  | true => exact setUnnamedDevicesVisible_true _
  | false =>
    apply foldl_hideItem_eq
    intro id hmem hunnamed
    obtain ⟨device', hdevice', hname⟩ := hunnamed
    rw [hdevices] at hdevice'
    obtain ⟨device, hdevice, hshown⟩ := (hlisted id).mp ((hitems id).mp hmem)
    obtain rfl := Option.some.inj (hdevice'.symm.trans hdevice)
    exact hshown ⟨rfl, hname⟩

/-- What `initData` makes of the devices. -/
theorem Sound.construct (devices : AList fun _ : String => Device) (displaySwitch : Bool) :
    construct true devices displaySwitch =
        (inIdOrder devices).foldl AdapterItem.addEntry (bare devices displaySwitch) ∧
      (construct true devices displaySwitch).Sound ∧
      (construct true devices displaySwitch).devices = devices ∧
      (construct true devices displaySwitch).showUnnamedDevices = displaySwitch ∧
      (∀ id, id ∈ (construct true devices displaySwitch).deviceItems ↔
        (construct true devices displaySwitch).Listed id) ∧
      ∀ id, (construct true devices displaySwitch).Listed id ↔
        ∃ device ∈ devices.lookup id, ¬(displaySwitch = false ∧ device.name = "") := by
  rw [construct_eq]
  exact ⟨rfl, sound_added devices displaySwitch⟩

theorem Sound.displaySwitchChanged {s : AdapterItem} (h : s.Sound) (value : Bool) :
    (s.listStep (.displaySwitchChanged value)).Sound ∧
      (s.listStep (.displaySwitchChanged value)).devices = s.devices ∧
      (s.listStep (.displaySwitchChanged value)).showUnnamedDevices = value ∧
      ∀ id, (s.listStep (.displaySwitchChanged value)).Listed id ↔
        s.Listed id ∧ ¬(value = false ∧ s.Nameless id) := by
  have hswitch : { s with showUnnamedDevices := value }.Sound :=
    ⟨h.powered, h.nodup, h.items, h.known, h.item, h.mine, h.others⟩
  cases value with
  | true =>
    rw [listStep, setUnnamedDevicesVisible_true]
    exact ⟨hswitch, rfl, rfl, by simp [Listed]⟩
  | false =>
    obtain ⟨hsound, hdevices, hshow, hlisted⟩ := hswitch.foldl_hideItem s.deviceItems
    refine ⟨hsound, hdevices, hshow, ?_⟩
    intro id
    refine (hlisted id).trans ?_
    constructor
    · intro hboth
      refine ⟨hboth.1, ?_⟩
      intro hunnamed
      exact hboth.2 ⟨h.item id hboth.1, hunnamed.2⟩
    · intro hboth
      refine ⟨hboth.1, ?_⟩
      intro hunnamed
      exact hboth.2 ⟨rfl, hunnamed.2⟩

/-- Every event keeps the rows sound. -/
theorem Sound.listStep {s : AdapterItem} (h : s.Sound) (e : ListEvent) : (s.listStep e).Sound := by
  cases e with
  | device e =>
    cases e with
    | onAddDevice id device => exact h.onAddDevice id device
    | removeDevice id => exact h.removeDevice id
    | updateDevice id new => exact h.updateDevice id new
  | displaySwitchChanged value => exact (h.displaySwitchChanged value).1

end AdapterItem

end DdeTrayLoader.Bluetooth
