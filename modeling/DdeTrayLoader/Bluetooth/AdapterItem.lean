import DdeTrayLoader.Transition.Run
import Mathlib.Data.List.AList
import Mathlib.Data.List.Basic
import Mathlib.Data.List.Sort

/-!
# The device lists of a Bluetooth adapter

`BluetoothAdapterItem` shows the devices of its adapter in two models, the paired ones under
"My Devices" and the others below. A device has an item from when it is first shown; its row is in
one of the models, or it has been taken out of them.

A device is named here by its id. A row is the device that it shows.
-/

namespace DdeTrayLoader.Bluetooth

open Transition

/-- `Device::State`. -/
inductive DeviceState where
  | unavailable
  | available
  | connected
  deriving DecidableEq, Repr

/-- What the lists read of a `Device`. -/
structure Device where
  name : String
  aliasName : String
  paired : Bool
  state : DeviceState
  deriving DecidableEq, Repr

namespace Device

/-- `connecting()`: nothing ever sets `m_connecting`. -/
def connecting (_ : Device) : Bool := false

/-- `Device::setState`: a device that is connected does not go back to connecting. -/
def setState (device : Device) (state : DeviceState) : Device :=
  if device.state = .connected ∧ state = .available then device else { device with state := state }

/-- What the device becomes by an update. -/
def update (device new : Device) : Device := { new with state := (device.setState new.state).state }

/-- The device counts as a connected one of the own devices. -/
def countsAsConnected (device : Device) : Bool :=
  device.paired && (device.state == .connected || device.connecting)

/-- The device has no name and is neither connected nor about to be. -/
def Unnamed (device : Device) : Prop := device.name = "" ∧ device.state = .unavailable

instance (device : Device) : Decidable device.Unnamed :=
  inferInstanceAs (Decidable (_ ∧ _))

end Device

/-- `QStandardItem::model`, for the items of devices. -/
inductive DeviceModel where
  | my
  | other
  deriving DecidableEq, Repr

/-- `BluetoothAdapterItem` and its adapter. -/
structure AdapterItem where
  powered : Bool
  /-- The devices of the adapter, by their ids. -/
  devices : AList fun _ : String => Device
  showUnnamedDevices : Bool
  /-- The devices that have an item. -/
  deviceItems : List String
  myDeviceModel : List String
  otherDeviceModel : List String
  deriving DecidableEq

namespace AdapterItem

/-- The model that has the row of the device. -/
def model (s : AdapterItem) (id : String) : Option DeviceModel :=
  if id ∈ s.myDeviceModel then some .my
  else if id ∈ s.otherDeviceModel then some .other
  else none

def rows (s : AdapterItem) : DeviceModel → List String
  | .my => s.myDeviceModel
  | .other => s.otherDeviceModel

def setRows (s : AdapterItem) (model : DeviceModel) (rows : List String) : AdapterItem :=
  match model with
  | .my => { s with myDeviceModel := rows }
  | .other => { s with otherDeviceModel := rows }

/-- `standardItem()->row()`, where `none` is `-1`. -/
def row (s : AdapterItem) (id : String) : Option ℕ :=
  (s.model id).map fun model => (s.rows model).idxOf id

/-- The row of the device is taken out of the model that has it. -/
def takeRow (s : AdapterItem) (id : String) : AdapterItem :=
  match s.model id with
  | none => s
  | some model => s.setRows model ((s.rows model).erase id)

/-- `onTopDeviceItem`: the row is the one in the model of the item, and is taken from the own
devices. -/
def onTopDeviceItem (s : AdapterItem) (id : String) : AdapterItem :=
  match s.row id with
  | none => s
  | some row =>
    if row = 0 then s
    else
      match s.myDeviceModel[row]? with
      | none => s
      | some item => { s with myDeviceModel := item :: s.myDeviceModel.eraseIdx row }

/-- The number of connected own devices that have an item. -/
def connectCount (s : AdapterItem) : ℕ :=
  s.deviceItems.countP fun id => (s.devices.lookup id).any Device.countsAsConnected

/-- The handler of `BluetoothDeviceItem::deviceStateChanged`. -/
def deviceStateChanged (s : AdapterItem) (id : String) (device : Device) : AdapterItem :=
  if device.state = .unavailable ∧ device.paired = true ∧ id ∈ s.myDeviceModel then
    { s with myDeviceModel := (s.myDeviceModel.erase id).insertIdx s.connectCount id }
  else s

/-- `BluetoothDeviceItem::updateDeviceState` with the state that the device has, for a device that
has an item. -/
def updateDeviceState (s : AdapterItem) (id : String) : AdapterItem :=
  match s.devices.lookup id with
  | none => s
  | some device =>
    let s := if device.state = .connected then s.onTopDeviceItem id else s
    s.deviceStateChanged id device

/-- The handler of `Device::pairedChanged`. -/
def pairedChanged (s : AdapterItem) (id : String) (paired : Bool) : AdapterItem :=
  if paired then
    if id ∈ s.otherDeviceModel then
      { s with
        otherDeviceModel := s.otherDeviceModel.erase id
        myDeviceModel := s.myDeviceModel ++ [id] }
    else s
  else if id ∈ s.myDeviceModel then
    { s with
      myDeviceModel := s.myDeviceModel.erase id
      otherDeviceModel := s.otherDeviceModel ++ [id] }
  else s

def onDeviceAdded (s : AdapterItem) (id : String) (device : Device) : AdapterItem :=
  if s.powered = false then s
  else if s.showUnnamedDevices = false ∧ device.name = "" then s
  else
    let s := { s with deviceItems := s.deviceItems.insert id }
    if device.paired then
      if device.state ≠ .connected then { s with myDeviceModel := s.myDeviceModel ++ [id] }
      else { s with myDeviceModel := id :: s.myDeviceModel }
    else { s with otherDeviceModel := s.otherDeviceModel ++ [id] }

def onDeviceRemoved (s : AdapterItem) (id : String) : AdapterItem :=
  if id ∈ s.deviceItems then
    let items := s.deviceItems.erase id
    match s.row id with
    | none => { s with deviceItems := items }
    | some row =>
      if s.deviceItems.length - 1 < row then { s with deviceItems := items }
      else { s.takeRow id with deviceItems := items }
  else s

def onDeviceNameUpdated (s : AdapterItem) (id : String) : AdapterItem :=
  if id ∈ s.deviceItems ∧ (s.devices.lookup id).any (fun device => device.aliasName ≠ "") then
    s.updateDeviceState id
  else s

/-- The second loop of `setUnnamedDevicesVisible(true)`, for one item. -/
def showItem (connectCount : ℕ) (s : AdapterItem) (id : String) : AdapterItem :=
  if (s.devices.lookup id).any (fun device => device.name = "") then
    match s.model id with
    | none => s
    | some model =>
      if id ∈ s.rows model then s
      else
        let row := if connectCount < s.deviceItems.length then connectCount else 0
        s.setRows model ((s.rows model).insertIdx row id)
  else s

/-- The loop of `setUnnamedDevicesVisible(false)`, for one item. -/
def hideItem (s : AdapterItem) (id : String) : AdapterItem :=
  if (s.devices.lookup id).any (fun device =>
      device.name = "" ∧ (device.state ≠ .connected ∨ device.connecting = false)) then
    s.takeRow id
  else s

def setUnnamedDevicesVisible (s : AdapterItem) (isShow : Bool) : AdapterItem :=
  if isShow then s.deviceItems.foldl (showItem s.connectCount) s
  else s.deviceItems.foldl hideItem s

/-- The loop of `initData`, for one device. -/
def addEntry (s : AdapterItem) (entry : Sigma fun _ : String => Device) : AdapterItem :=
  if entry.1 ∈ s.deviceItems then s else s.onDeviceAdded entry.1 entry.2

/-- The entries of the `QMap` of the devices, in the order of the ids. -/
def inIdOrder (devices : AList fun _ : String => Device) : List (Sigma fun _ : String => Device) :=
  devices.entries.insertionSort fun entry entry' => entry.1 ≤ entry'.1

@[simp] theorem mem_inIdOrder {devices : AList fun _ : String => Device}
    {entry : Sigma fun _ : String => Device} :
    entry ∈ inIdOrder devices ↔ entry ∈ devices.entries := List.mem_insertionSort _

/-- `initData`, with the value of the switch. -/
def initData (s : AdapterItem) (displaySwitch : Bool) : AdapterItem :=
  let s := { s with showUnnamedDevices := displaySwitch }
  if s.powered = false then s
  else
    let s := (inIdOrder s.devices).foldl addEntry s
    s.setUnnamedDevicesVisible s.showUnnamedDevices

def clearDeviceList (s : AdapterItem) : AdapterItem :=
  { s with deviceItems := [], myDeviceModel := [], otherDeviceModel := [] }

/-- `Adapter::removeDevice`. -/
def removeDevice (s : AdapterItem) (id : String) : AdapterItem :=
  if id ∈ s.devices then { s with devices := s.devices.erase id }.onDeviceRemoved id else s

/-- `AdaptersManager::onAddDevice` with `Adapter::addDevice`. -/
def onAddDevice (s : AdapterItem) (id : String) (device : Device) : AdapterItem :=
  if id ∈ s.devices then s
  else
    let s := s.removeDevice id
    { s with devices := s.devices.insert id device }.onDeviceAdded id device

/-- What a device becomes, before its item is told. -/
def setDevice (s : AdapterItem) (id : String) (device : Device) : AdapterItem :=
  { s with devices := s.devices.insert id device }

/-- `Device::setPaired` on a device, when its name and alias are set. -/
def setPaired (s : AdapterItem) (id : String) (old new : Device) : AdapterItem :=
  let s := s.setDevice id { new with state := old.state }
  if new.paired ≠ old.paired ∧ id ∈ s.deviceItems then s.pairedChanged id new.paired else s

/-- `Device::setState` on a device that has `old.state`, with what its item does. -/
def setState (s : AdapterItem) (id : String) (old new : Device) : AdapterItem :=
  let device := old.update new
  let s := s.setDevice id device
  if device.state ≠ old.state ∧ id ∈ s.deviceItems then s.updateDeviceState id else s

/-- `Adapter::updateDevice`. -/
def updateDevice (s : AdapterItem) (id : String) (new : Device) : AdapterItem :=
  if new.name = "" ∧ new.aliasName = "" then s
  else
    match s.devices.lookup id with
    | none => s
    | some old => ((s.setPaired id old new).setState id old new).onDeviceNameUpdated id

end AdapterItem

/-- What the Bluetooth service says of the devices of an adapter. -/
inductive DeviceEvent where
  | onAddDevice (id : String) (device : Device)
  | removeDevice (id : String)
  | updateDevice (id : String) (new : Device)
  deriving DecidableEq, Repr

/-- What happens between two changes of the power. -/
inductive ListEvent where
  | device (e : DeviceEvent)
  | displaySwitchChanged (value : Bool)
  deriving DecidableEq, Repr

/-- What happens to an adapter and its item. -/
inductive ItemEvent where
  | list (e : ListEvent)
  /-- The adapter is powered on or off, with the value that the switch has. -/
  | setPowered (powered displaySwitch : Bool)
  /-- A click on the adapter's switch. -/
  | clicked
  deriving DecidableEq, Repr

namespace AdapterItem

/-- An item for an adapter with these devices. -/
def construct (powered : Bool) (devices : AList fun _ : String => Device) (displaySwitch : Bool) :
    AdapterItem :=
  initData ⟨powered, devices, false, [], [], []⟩ displaySwitch

def deviceStep (s : AdapterItem) : DeviceEvent → AdapterItem
  | .onAddDevice id device => s.onAddDevice id device
  | .removeDevice id => s.removeDevice id
  | .updateDevice id new => s.updateDevice id new

def listStep (s : AdapterItem) : ListEvent → AdapterItem
  | .device e => s.deviceStep e
  | .displaySwitchChanged value =>
    { s with showUnnamedDevices := value }.setUnnamedDevicesVisible value

/-- `Adapter::setPowered`, with what the item does. -/
def setPowered (s : AdapterItem) (powered displaySwitch : Bool) : AdapterItem :=
  if powered ≠ s.powered then
    let s := { s with powered := powered }
    if powered then s.initData displaySwitch else s.clearDeviceList
  else s

def step (s : AdapterItem) : ItemEvent → AdapterItem
  | .list e => s.listStep e
  | .setPowered powered displaySwitch => s.setPowered powered displaySwitch
  | .clicked => s.clearDeviceList

end AdapterItem

end DdeTrayLoader.Bluetooth
