import DdeTrayLoader.Bluetooth.DeviceRows

/-!
# Which devices the lists show

A device can be left without a row: an unnamed one that is hidden is taken out for good, and one
that is skipped when it is added gets no item later. An unnamed device is taken out even while it
is connected.
-/

namespace DdeTrayLoader.Bluetooth

open Transition

namespace AdapterItem

/-- While the switch hides unnamed devices, the device is one. -/
def Hides (s : AdapterItem) (device : Device) : Prop :=
  s.showUnnamedDevices = false ∧ device.Unnamed

instance (s : AdapterItem) (device : Device) : Decidable (s.Hides device) :=
  inferInstanceAs (Decidable (_ ∧ _))

/-- Every device has one row, in the list for its pairing, except that a hidden one has none. -/
def Shown (s : AdapterItem) : Prop :=
  ∀ id, ∀ device ∈ s.devices.lookup id,
    if s.Hides device then id ∉ s.myDeviceModel ∧ id ∉ s.otherDeviceModel
    else s.myDeviceModel.count id = (if device.paired then 1 else 0) ∧
      s.otherDeviceModel.count id = if device.paired then 0 else 1

/-- With sound rows, the lists show what they should when the devices with rows are those that
are not hidden. -/
theorem Sound.shown_iff {s : AdapterItem} (h : s.Sound) :
    s.Shown ↔ ∀ id, ∀ device ∈ s.devices.lookup id, s.Listed id ↔ ¬s.Hides device := by
  apply forall_congr'
  intro id
  apply forall_congr'
  intro device
  apply forall_congr'
  intro hdevice
  have hmy := (List.nodup_append.mp h.nodup).1
  have hother := (List.nodup_append.mp h.nodup).2.1
  split_ifs with hhides hpaired
  · simp [Listed, hhides]
  · have hnot : id ∉ s.otherDeviceModel := by
      intro hmem
      have hunpaired := h.others id hmem device hdevice
      rw [hpaired] at hunpaired
      exact Bool.noConfusion hunpaired
    rw [List.count_eq_zero.mpr hnot, hmy.count]
    simp [Listed, hhides, hnot]
  · have hnot : id ∉ s.myDeviceModel := fun hmem => hpaired (h.mine id hmem device hdevice)
    rw [List.count_eq_zero.mpr hnot, hother.count]
    simp [Listed, hhides, hnot]

/-- The events leave what `Shown` speaks of as it should be. -/
def Keeps (s : AdapterItem) : ListEvent → Prop
  | .device (.onAddDevice id device) =>
    id ∉ s.devices → s.Skips device → device.state = .unavailable
  | .device (.removeDevice _) => True
  | .device (.updateDevice id new) => ¬(new.name = "" ∧ new.aliasName = "") →
      ∀ old ∈ s.devices.lookup id, s.Hides old ↔ s.Hides (old.update new)
  | .displaySwitchChanged true => ∀ id, ∀ device ∈ s.devices.lookup id, ¬s.Hides device
  | .displaySwitchChanged false => ∀ id, ∀ device ∈ s.devices.lookup id,
      device.name = "" → device.state = .unavailable

/-- With a switch that hides unnamed devices, those of the adapter are neither connected nor about
to be. -/
def Starts (devices : AList fun _ : String => Device) (displaySwitch : Bool) : Prop :=
  displaySwitch = false → ∀ id, ∀ device ∈ devices.lookup id,
    device.name = "" → device.state = .unavailable

/-- Where all devices are shown as they should be, connected ones have their rows. -/
theorem Shown.counts {s : AdapterItem} (h : s.Shown) (hs : s.Sound) (id : String) :
    s.Counts id := by
  intro id' _ _ device hdevice hcounts
  simp only [Device.countsAsConnected, Device.connecting, Bool.or_false, Bool.and_eq_true,
    beq_iff_eq] at hcounts
  obtain ⟨hpaired, hconnected⟩ := hcounts
  have hrow : s.Listed id' := by
    apply (hs.shown_iff.mp h id' device hdevice).mpr
    rintro ⟨-, -, hunavailable⟩
    rw [hconnected] at hunavailable
    exact DeviceState.noConfusion hunavailable
  obtain hmem | hmem := List.mem_append.mp hrow
  · exact hmem
  · have hunpaired := hs.others id' hmem device hdevice
    rw [hpaired] at hunpaired
    exact Bool.noConfusion hunpaired

/-- What a new device of the adapter changes. -/
theorem onAddDevice_new {s : AdapterItem} {id : String} (hnew : id ∉ s.devices)
    (hs : s.Sound) (device : Device) :
    (s.onAddDevice id device).showUnnamedDevices = s.showUnnamedDevices ∧
      (∀ id', (s.onAddDevice id device).devices.lookup id' =
        if id' = id then some device else s.devices.lookup id') ∧
      ∀ id', (s.onAddDevice id device).Listed id' ↔ s.Listed id' ∨ id' = id ∧ ¬s.Skips device := by
  rw [onAddDevice, if_neg hnew]
  dsimp only
  rw [removeDevice_of_not_mem hnew]
  obtain ⟨-, hdevices, hshow⟩ := (s.setDevice id device).onDeviceAdded_eq id device
  refine ⟨hshow, ?_, listed_onDeviceAdded (s := s.setDevice id device) hs.powered id device⟩
  intro id'
  exact (congrArg (AList.lookup id') hdevices).trans (lookup_setDevice s id id' device)

/-- A new device is shown as it should be unless it is skipped while it is connected. -/
theorem Shown.onAddDevice_iff {s : AdapterItem} (h : s.Shown) (hs : s.Sound) (id : String)
    (device : Device) :
    (s.onAddDevice id device).Shown ↔
      s.Keeps (.device (.onAddDevice id device)) := by
  by_cases hknown : id ∈ s.devices
  · have hsame : s.onAddDevice id device = s := by rw [onAddDevice, if_pos hknown]
    rw [hsame]
    exact iff_of_true h fun hnew => absurd hknown hnew
  · obtain ⟨hshow, hdevices, hlisted⟩ := onAddDevice_new hknown hs device
    have hunlisted : ¬s.Listed id := fun hmem => hknown (hs.known id (hs.item id hmem))
    have hhides : ∀ device', (s.onAddDevice id device).Hides device' ↔ s.Hides device' := by
      intro device'
      rw [Hides, Hides, hshow]
    rw [(hs.onAddDevice id device).shown_iff]
    constructor
    · intro hshown _ hskips
      have hnew := hshown id device (by rw [hdevices, if_pos rfl]; rfl)
      rw [hlisted, hhides] at hnew
      by_contra hstate
      have hrow := hnew.mpr fun hhidden => hstate hhidden.2.2
      obtain hrow | ⟨-, hnot⟩ := hrow
      · exact hunlisted hrow
      · exact hnot hskips
    · intro hkeeps id' device' hdevice'
      have hdevice' := (hdevices id').symm.trans hdevice'
      rw [hlisted, hhides]
      split_ifs at hdevice' with hsame
      · obtain rfl := Option.some.inj hdevice'
        rw [hsame]
        constructor
        · rintro (hrow | ⟨-, hnot⟩) hhidden
          · exact hunlisted hrow
          · exact hnot ⟨hhidden.1, hhidden.2.1⟩
        · intro hhidden
          refine .inr ⟨rfl, ?_⟩
          intro hskips
          exact hhidden ⟨hskips.1, hskips.2, hkeeps hknown hskips⟩
      · rw [hs.shown_iff.mp h id' device' hdevice' |>.symm]
        simp [hsame]

/-- The other devices stay as they are when one is removed. -/
theorem Shown.removeDevice {s : AdapterItem} (h : s.Shown) (hs : s.Sound) (id : String) :
    (s.removeDevice id).Shown := by
  have hshow : (s.removeDevice id).showUnnamedDevices = s.showUnnamedDevices := by
    by_cases hknown : id ∈ s.devices
    · obtain ⟨heq, -, -⟩ := s.takeRow_eq id
      rw [hs.removeDevice_eq hknown, heq]
    · rw [removeDevice_of_not_mem hknown]
  rw [(hs.removeDevice id).shown_iff]
  intro id' device' hdevice'
  have hdevice' := (lookup_removeDevice hs id id').symm.trans hdevice'
  split_ifs at hdevice' with hsame
  rw [listed_removeDevice hs, hs.shown_iff.mp h id' device' hdevice', Hides, Hides, hshow]
  simp [hsame]

/-- An update shows its device as it should be exactly when it hides or shows it no more than
before. -/
theorem Shown.updateDevice_iff {s : AdapterItem} (h : s.Shown) (hs : s.Sound) (id : String)
    (new : Device) :
    (s.updateDevice id new).Shown ↔ s.Keeps (.device (.updateDevice id new)) := by
  have hsound := hs.updateDevice id new
  obtain ⟨heq, hblank | hnone⟩ | ⟨hnamed, old, hold, heq⟩ := s.updateDevice_cases id new
  · rw [heq]
    exact iff_of_true h fun hnamed => absurd hblank hnamed
  · rw [heq]
    apply iff_of_true h
    intro _ old hold
    exact absurd (hnone.symm.trans hold) (Option.some_ne_none old).symm
  · have hlisted := listed_updated (h.counts hs id) hs.items old new
    have hdevices := fun id' => lookup_updated s id id' old new
    have hshow : (((s.setPaired id old new).setState id old new).onDeviceNameUpdated
        id).showUnnamedDevices = s.showUnnamedDevices := by
      rw [onDeviceNameUpdated_eq, setState_eq, setPaired_eq]
      rfl
    rw [heq] at hsound ⊢
    rw [hsound.shown_iff]
    have hrow := hs.shown_iff.mp h id old hold
    constructor
    · intro hshown _ old' hold'
      obtain rfl := Option.some.inj (hold.symm.trans hold')
      have hnew := hshown id (old.update new) (by rw [hdevices, if_pos rfl]; rfl)
      rw [hlisted, Hides, hshow] at hnew
      exact not_iff_not.mp (hrow.symm.trans hnew)
    · intro hkeeps id' device' hdevice'
      have hdevice' := (hdevices id').symm.trans hdevice'
      rw [hlisted, Hides, hshow]
      split_ifs at hdevice' with hsame
      · obtain rfl := Option.some.inj hdevice'
        rw [hsame]
        exact hrow.trans (not_congr (hkeeps hnamed old hold))
      · exact hs.shown_iff.mp h id' device' hdevice'

/-- The switch hides and shows what it should exactly when it hides only what is unnamed and
unconnected, and shows when nothing is hidden. -/
theorem Shown.displaySwitchChanged_iff {s : AdapterItem} (h : s.Shown) (hs : s.Sound)
    (value : Bool) :
    (s.listStep (.displaySwitchChanged value)).Shown ↔
      s.Keeps (.displaySwitchChanged value) := by
  obtain ⟨hsound, hdevices, hshow, hlisted⟩ := hs.displaySwitchChanged value
  rw [hsound.shown_iff, hdevices]
  cases value with
  | true =>
    apply forall₃_congr
    intro id device hdevice
    rw [hlisted, Hides, hshow, hs.shown_iff.mp h id device hdevice]
    simp
  | false =>
    apply forall₃_congr
    intro id device hdevice
    have hunnamed : s.Nameless id ↔ device.name = "" := by
      constructor
      · rintro ⟨device', hdevice', hname⟩
        rwa [Option.some.inj (hdevice.symm.trans hdevice')]
      · intro hname
        exact ⟨device, hdevice, hname⟩
    have hrow := hs.shown_iff.mp h id device hdevice
    rw [hlisted, Hides, hshow, hrow, hunnamed]
    simp only [Hides, Device.Unnamed]
    tauto

/-- From a state where the devices are shown as they should be, an event keeps them so exactly
when it is one that `Keeps` allows. -/
theorem Shown.listStep_iff {s : AdapterItem} (h : s.Shown) (hs : s.Sound) (e : ListEvent) :
    (s.listStep e).Shown ↔ s.Keeps e := by
  cases e with
  | device e =>
    cases e with
    | onAddDevice id device => exact h.onAddDevice_iff hs id device
    | removeDevice id => exact iff_of_true (h.removeDevice hs id) trivial
    | updateDevice id new => exact h.updateDevice_iff hs id new
  | displaySwitchChanged value => exact h.displaySwitchChanged_iff hs value

/-- Once powered on, the devices are shown as they should be unless a connected one is hidden. -/
theorem shown_construct_iff (devices : AList fun _ : String => Device) (displaySwitch : Bool) :
    (construct true devices displaySwitch).Shown ↔ Starts devices displaySwitch := by
  obtain ⟨-, hsound, hdevices, hshow, -, hlisted⟩ := Sound.construct devices displaySwitch
  have hrow : ∀ id, ∀ device ∈ devices.lookup id,
      (construct true devices displaySwitch).Listed id ↔
        ¬(displaySwitch = false ∧ device.name = "") := by
    intro id device hdevice
    rw [hlisted]
    constructor
    · rintro ⟨device', hdevice', hshown⟩
      rwa [Option.some.inj (hdevice.symm.trans hdevice')]
    · intro hshown
      exact ⟨device, hdevice, hshown⟩
  rw [hsound.shown_iff, hdevices]
  constructor
  · intro hshown hswitch id device hdevice hname
    have hboth := (hrow id device hdevice).symm.trans (hshown id device hdevice)
    rw [Hides, hshow] at hboth
    by_contra hstate
    exact hboth.mpr (fun hhidden => hstate hhidden.2.2) ⟨hswitch, hname⟩
  · intro hstarts id device hdevice
    rw [hrow id device hdevice, Hides, hshow]
    apply not_congr
    constructor
    · intro hboth
      exact ⟨hboth.1, hboth.2, hstarts hboth.1 id device hdevice hboth.2⟩
    · intro hhidden
      exact ⟨hhidden.1, hhidden.2.1⟩

/-- From when the adapter is powered on, every device is in the list that it should be in, or in
none while it is hidden, exactly when no device is hidden or shown by any of the events, and only
unconnected ones by powering on. -/
theorem always_shown_iff (devices : AList fun _ : String => Device) (displaySwitch : Bool)
    (es : List ListEvent) :
    Always listStep Shown (construct true devices displaySwitch) es ↔
      Starts devices displaySwitch ∧
        Obeys listStep Keeps (construct true devices displaySwitch) es := by
  obtain ⟨-, hsound, -⟩ := Sound.construct devices displaySwitch
  rw [← shown_construct_iff]
  constructor
  · intro hshown
    refine ⟨hshown.head, ?_⟩
    exact (always_iff_obeys (fun s e h => h.listStep e) (fun s e hs h => h.listStep_iff hs e) es
      hsound hshown.head).mp hshown
  · intro hboth
    exact (always_iff_obeys (fun s e h => h.listStep e) (fun s e hs h => h.listStep_iff hs e) es
      hsound hboth.1).mpr hboth.2

/-- A headset that has no name yet. -/
def headset : Device := ⟨"", "headset", false, .unavailable⟩

/-- A device that is hidden is not shown again. -/
theorem not_always_shown :
    ¬Always listStep Shown (construct true ∅ true)
      [.device (.onAddDevice "/dev" headset), .displaySwitchChanged false,
        .displaySwitchChanged true] := by
  intro hshown
  have hlast := hshown.2.2.2 "/dev" headset rfl
  revert hlast
  decide

@[simp] theorem takeRow_powered (s : AdapterItem) (id : String) :
    (s.takeRow id).powered = s.powered := by
  rw [(s.takeRow_eq id).1]

@[simp] theorem removeDevice_powered (s : AdapterItem) (id : String) :
    (s.removeDevice id).powered = s.powered := by
  unfold removeDevice onDeviceRemoved
  split_ifs
  · dsimp only
    split
    · rfl
    · split_ifs
      · rfl
      · exact takeRow_powered _ id
  · rfl
  · rfl

@[simp] theorem onAddDevice_powered (s : AdapterItem) (id : String) (device : Device) :
    (s.onAddDevice id device).powered = s.powered := by
  unfold onAddDevice
  split_ifs
  · rfl
  · exact (onDeviceAdded_eq _ id device).1.trans (s.removeDevice_powered id)

@[simp] theorem updateDevice_powered (s : AdapterItem) (id : String) (new : Device) :
    (s.updateDevice id new).powered = s.powered := by
  obtain ⟨heq, -⟩ | ⟨-, old, -, heq⟩ := s.updateDevice_cases id new
  · rw [heq]
  · rw [heq, onDeviceNameUpdated_eq, setState_eq, setPaired_eq]
    rfl

theorem foldl_hideItem_powered (s : AdapterItem) (items : List String) :
    (items.foldl hideItem s).powered = s.powered := by
  induction items generalizing s with
  | nil => rfl
  | cons id items ih =>
    rw [List.foldl_cons, ih]
    obtain ⟨-, hhide⟩ | ⟨-, hhide⟩ := s.hideItem_cases id
    · rw [hhide, takeRow_powered]
    · rw [hhide]

/-- No event of the devices or the switch changes the power. -/
theorem listStep_powered (s : AdapterItem) (e : ListEvent) :
    (s.listStep e).powered = s.powered := by
  cases e with
  | device e =>
    cases e with
    | onAddDevice id device => exact s.onAddDevice_powered id device
    | removeDevice id => exact s.removeDevice_powered id
    | updateDevice id new => exact s.updateDevice_powered id new
  | displaySwitchChanged value =>
    cases value with
    | true => rw [listStep, setUnnamedDevicesVisible_true]
    | false => exact foldl_hideItem_powered _ _

/-- There are no items. -/
def Empty (s : AdapterItem) : Prop :=
  s.deviceItems = [] ∧ s.myDeviceModel = [] ∧ s.otherDeviceModel = []

/-- While the adapter is not powered, no event gives a device an item. -/
theorem Empty.listStep {s : AdapterItem} (h : s.Empty) (hpowered : s.powered = false)
    (e : ListEvent) : (s.listStep e).Empty := by
  obtain ⟨hitems, hmy, hother⟩ := h
  cases e with
  | device e =>
    cases e with
    | onAddDevice id device =>
      simp only [AdapterItem.listStep, deviceStep, onAddDevice]
      split_ifs with hknown
      · exact ⟨hitems, hmy, hother⟩
      · rw [removeDevice_of_not_mem hknown, onDeviceAdded, if_pos hpowered]
        exact ⟨hitems, hmy, hother⟩
    | removeDevice id =>
      simp only [AdapterItem.listStep, deviceStep, AdapterItem.removeDevice, onDeviceRemoved,
        hitems, List.not_mem_nil, if_false]
      split_ifs
      · exact ⟨rfl, hmy, hother⟩
      · exact ⟨hitems, hmy, hother⟩
    | updateDevice id new =>
      simp only [AdapterItem.listStep, deviceStep]
      obtain ⟨heq, -⟩ | ⟨-, old, -, heq⟩ := s.updateDevice_cases id new
      · rw [heq]
        exact ⟨hitems, hmy, hother⟩
      · rw [heq]
        simp [onDeviceNameUpdated, AdapterItem.setState, AdapterItem.setPaired,
          AdapterItem.setDevice, hitems, Empty, hmy, hother]
  | displaySwitchChanged value =>
    cases value with
    | true =>
      rw [AdapterItem.listStep, setUnnamedDevicesVisible_true]
      exact ⟨hitems, hmy, hother⟩
    | false =>
      simp only [AdapterItem.listStep, setUnnamedDevicesVisible, hitems, List.foldl_nil, ite_self]
      exact ⟨rfl, hmy, hother⟩

theorem foldl_addEntry_powered (s : AdapterItem)
    (entries : List (Sigma fun _ : String => Device)) :
    (entries.foldl addEntry s).powered = s.powered := by
  induction entries generalizing s with
  | nil => rfl
  | cons entry entries ih =>
    rw [List.foldl_cons, ih, addEntry]
    split_ifs
    · rfl
    · exact (s.onDeviceAdded_eq entry.1 entry.2).1

theorem initData_powered (s : AdapterItem) (displaySwitch : Bool) :
    (s.initData displaySwitch).powered = s.powered := by
  unfold initData
  dsimp only
  split_ifs
  · rfl
  · refine (listStep_powered _ (.displaySwitchChanged _)).trans ?_
    exact foldl_addEntry_powered _ _

/-- An adapter that is not powered has no items. -/
def Idle (s : AdapterItem) : Prop := s.powered = false → s.Empty

/-- What is not powered is initialised without items. -/
theorem idle_construct (powered : Bool) (devices : AList fun _ : String => Device)
    (displaySwitch : Bool) : (construct powered devices displaySwitch).Idle := by
  intro hoff
  rw [construct, initData_powered] at hoff
  have hoff : powered = false := hoff
  rw [hoff]
  exact ⟨rfl, rfl, rfl⟩

theorem Idle.step {s : AdapterItem} (h : s.Idle) (e : ItemEvent) : (s.step e).Idle := by
  cases e with
  | list e =>
    intro hoff
    have hbefore : s.powered = false := (s.listStep_powered e).symm.trans hoff
    exact (h hbefore).listStep hbefore e
  | setPowered powered displaySwitch =>
    simp only [AdapterItem.step, setPowered]
    split_ifs with hchange hon
    · intro hoff
      rw [initData_powered] at hoff
      exact absurd hon (Bool.not_eq_true _ |>.mpr hoff)
    · exact fun _ => ⟨rfl, rfl, rfl⟩
    · exact h
  | clicked => exact fun _ => ⟨rfl, rfl, rfl⟩

/-- Whatever has happened to an item, powering its adapter on starts it anew with the devices that
the adapter has. -/
theorem setPowered_eq_construct (powered : Bool) (devices : AList fun _ : String => Device)
    (displaySwitch : Bool) (es : List ItemEvent) (s : AdapterItem)
    (hs : s = run step (construct powered devices displaySwitch) es) (hoff : s.powered = false)
    (switch : Bool) : s.setPowered true switch = construct true s.devices switch := by
  have hidle : s.Idle := by
    rw [hs]
    exact run_invariant (I := Idle) (fun s e h => h.step e) es
      (idle_construct powered devices displaySwitch)
  obtain ⟨hitems, hmy, hother⟩ := hidle hoff
  rw [setPowered, if_pos (by simp [hoff])]
  simp only [if_true, initData, hitems, hmy, hother, construct]

end AdapterItem

end DdeTrayLoader.Bluetooth
