import Mathlib.Data.List.Basic

/-!
# The power proxy's cache

A functional model of `DBusPower`: the three cached battery properties, the single
`GetAll` that may be pending, the set of properties that changed while it is, the
coalescing flag and the single-shot refresh timer. Each handler of the source is a
function on this state; whether a handler put a `GetAll` on the bus is part of its
result. `isValid()` belongs to the base class and is a parameter.
-/

namespace DdeTrayLoader.Power

/-- An IEEE double, as its 64 bits. -/
structure Double where
  bits : BitVec 64
  deriving DecidableEq, Repr

/-- All exponent bits set and a nonzero fraction. -/
def Double.isNaN (x : Double) : Bool :=
  x.bits.extractLsb' 52 11 == 0x7FF#11 && x.bits.extractLsb' 0 52 != 0#52

/-- The comparison of doubles: no NaN equals anything, and the two zeros are equal. -/
def Double.eq (x y : Double) : Bool :=
  !x.isNaN && !y.isNaN && (x.bits == y.bits || (x.bits <<< 1 == 0#64 && y.bits <<< 1 == 0#64))

/-- The entries of a `QMap` with string keys, in key order. -/
abbrev QMap (α : Type) := List (String × α)

/-- `QMap::operator==`: the same keys with equal values, entry by entry. -/
def QMap.eq {α : Type} (eq : α → α → Bool) : QMap α → QMap α → Bool
  | [], [] => true
  | (key, a) :: rest, (key', b) :: rest' => key == key' && eq a b && QMap.eq eq rest rest'
  | _, _ => false

abbrev BatteryPercentageMap := QMap Double

abbrev BatteryStateMap := QMap (BitVec 32)

/-- A property value as it travels on the bus: one of the interface's three signatures, or
a value that converts to none of them. -/
inductive QVariant where
  | bool (b : Bool)
  | percentages (m : BatteryPercentageMap)
  | states (m : BatteryStateMap)
  | other
  deriving DecidableEq, Repr

def QVariant.toBool : QVariant → Bool
  | .bool b => b
  | _ => false

/-- `qdbus_cast<BatteryPercentageMap>`. -/
def QVariant.toPercentages : QVariant → BatteryPercentageMap
  | .percentages m => m
  | _ => []

/-- `qdbus_cast<BatteryStateMap>`. -/
def QVariant.toStates : QVariant → BatteryStateMap
  | .states m => m
  | _ => []

/-- A `QVariantMap`, by its lookup. -/
abbrev QVariantMap := String → Option QVariant

def QVariantMap.contains (m : QVariantMap) (name : String) : Bool := (m name).isSome

def QVariantMap.value (m : QVariantMap) (name : String) : QVariant := (m name).getD .other

def QVariantMap.remove (m : QVariantMap) (name : String) : QVariantMap :=
  fun n => if n = name then none else m n

/-- The map `{{name, value}}`. -/
def QVariantMap.single (name : String) (value : QVariant) : QVariantMap :=
  fun n => if n = name then some value else none

/-- The notify signals of the three properties. -/
inductive NotifySignal where
  | OnBatteryChanged
  | BatteryPercentageChanged
  | BatteryStateChanged
  deriving DecidableEq, Repr

/-- The members of `DBusPower`. `refreshTimer` is the interval of the armed timer,
`pendingSnapshot` the serial of the `GetAll` whose watcher is connected, and `notified` logs
the signals emitted so far. -/
structure DBusPower where
  refreshTimer : Option ℕ := none
  pendingSnapshot : Option ℕ := none
  liveProperties : List String := []
  refreshPending : Bool := false
  onBattery : Bool := false
  batteryPercentage : BatteryPercentageMap := []
  batteryState : BatteryStateMap := []
  notified : List NotifySignal := []
  deriving DecidableEq, Repr

namespace DBusPower

/-- Publish the properties the map contains, then notify those that changed. -/
def updateProperties (power : DBusPower) (properties : QVariantMap) : DBusPower :=
  let onBattery :=
    if properties.contains "OnBattery" then (properties.value "OnBattery").toBool
    else power.onBattery
  let percentage :=
    if properties.contains "BatteryPercentage" then
      (properties.value "BatteryPercentage").toPercentages
    else power.batteryPercentage
  let state :=
    if properties.contains "BatteryState" then (properties.value "BatteryState").toStates
    else power.batteryState
  let onBatteryChanged := power.onBattery != onBattery
  let percentageChanged := !QMap.eq Double.eq power.batteryPercentage percentage
  let stateChanged := !QMap.eq (· == ·) power.batteryState state
  { power with
    onBattery := onBattery
    batteryPercentage := percentage
    batteryState := state
    notified := power.notified
      ++ (if onBatteryChanged then [.OnBatteryChanged] else [])
      ++ (if percentageChanged then [.BatteryPercentageChanged] else [])
      ++ (if stateChanged then [.BatteryStateChanged] else []) }

/-- Ask for a snapshot, or remember to when one is pending. The flag of the result says
whether a `GetAll` with this serial was sent. -/
def getAllProperties (power : DBusPower) (isValid : Bool) (serial : ℕ) : DBusPower × Bool :=
  if power.pendingSnapshot.isSome then ({ power with refreshPending := true }, false)
  else if !isValid then (power, false)
  else ({ power with
      refreshTimer := none
      liveProperties := []
      pendingSnapshot := some serial }, true)

/-- The lines both notification handlers start with. -/
def markLive (power : DBusPower) (name : String) : DBusPower :=
  if power.pendingSnapshot.isSome then
    { power with liveProperties := power.liveProperties.insert name }
  else power

/-- The handler of `propertyChanged`. -/
def propertyChanged (power : DBusPower) (name : String) (value : QVariant) : DBusPower :=
  (power.markLive name).updateProperties (.single name value)

/-- The handler of `propertyInvalidated`. -/
def propertyInvalidated (power : DBusPower) (isValid : Bool) (serial : ℕ) (name : String) :
    DBusPower × Bool :=
  (power.markLive name).getAllProperties isValid serial

/-- A snapshot without the properties that changed while it was pending. -/
def withoutLive (power : DBusPower) (snapshot : QVariantMap) : QVariantMap :=
  power.liveProperties.foldl QVariantMap.remove snapshot

/-- The handler of the watcher's `finished`, for an error reply (`none`) or a snapshot. -/
def finished (power : DBusPower) (isValid : Bool) (reply : Option QVariantMap) : DBusPower :=
  let refresh := power.refreshPending
  let power := { power with pendingSnapshot := none, refreshPending := false }
  match reply with
  | none => if isValid then { power with refreshTimer := some 1000 } else power
  | some snapshot =>
    -- an invalidation or request during the GetAll needs a newer snapshot
    let power := if refresh then { power with refreshTimer := some 0 } else power
    power.updateProperties (power.withoutLive snapshot)

/-- The handler of `serviceOwnerChanged`; the disconnected watcher never reports. -/
def serviceOwnerChanged (power : DBusPower) (newOwner : Option ℕ) : DBusPower :=
  { power with
    refreshTimer := if newOwner.isSome then some 0 else none
    pendingSnapshot := none
    refreshPending := false
    liveProperties := [] }

end DBusPower

/-- The three cached properties of the interface. -/
inductive Property where
  | onBattery
  | batteryPercentage
  | batteryState
  deriving DecidableEq, Repr

namespace Property

/-- The property's name on the bus. -/
def name : Property → String
  | onBattery => "OnBattery"
  | batteryPercentage => "BatteryPercentage"
  | batteryState => "BatteryState"

/-- The type the property has in the cache. -/
abbrev Value : Property → Type
  | onBattery => Bool
  | batteryPercentage => BatteryPercentageMap
  | batteryState => BatteryStateMap

/-- The conversion the cache applies to a value from the bus. -/
def decode : (p : Property) → QVariant → p.Value
  | onBattery => QVariant.toBool
  | batteryPercentage => QVariant.toPercentages
  | batteryState => QVariant.toStates

/-- The property with this name, if it is one of the three. -/
def ofName? (name : String) : Option Property :=
  if name = "OnBattery" then some onBattery
  else if name = "BatteryPercentage" then some batteryPercentage
  else if name = "BatteryState" then some batteryState
  else none

@[simp] theorem ofName?_name (p : Property) : ofName? p.name = some p := by
  cases p <;> decide

theorem name_injective : Function.Injective name := by
  intro p q h
  have h' := congrArg ofName? h
  simpa using h'

theorem ofName?_eq_some {name : String} {p : Property} : ofName? name = some p ↔ p.name = name := by
  constructor
  · unfold ofName?
    split_ifs with h₁ h₂ h₃ <;> rintro ⟨⟩ <;> simp [Property.name, *]
  · intro hsame
    subst hsame
    exact ofName?_name p

end Property

namespace DBusPower

/-- The cached value a reader of the property gets. -/
def read (power : DBusPower) : (p : Property) → p.Value
  | .onBattery => power.onBattery
  | .batteryPercentage => power.batteryPercentage
  | .batteryState => power.batteryState

/-- An update writes the properties its map contains. -/
theorem updateProperties_read_of_some (power : DBusPower) {properties : QVariantMap}
    {p : Property} {value : QVariant} (h : properties p.name = some value) :
    (power.updateProperties properties).read p = p.decode value := by
  cases p <;> simp only [Property.name] at h <;>
    simp [read, updateProperties, Property.decode, QVariantMap.contains, QVariantMap.value, h]

/-- An update leaves the properties its map does not contain. -/
theorem updateProperties_read_of_none (power : DBusPower) {properties : QVariantMap}
    {p : Property} (h : properties p.name = none) :
    (power.updateProperties properties).read p = power.read p := by
  cases p <;> simp only [Property.name] at h <;>
    simp [read, updateProperties, QVariantMap.contains, h]

@[simp] theorem updateProperties_refreshTimer (power : DBusPower) (properties : QVariantMap) :
    (power.updateProperties properties).refreshTimer = power.refreshTimer := rfl

@[simp] theorem updateProperties_pendingSnapshot (power : DBusPower) (properties : QVariantMap) :
    (power.updateProperties properties).pendingSnapshot = power.pendingSnapshot := rfl

@[simp] theorem updateProperties_liveProperties (power : DBusPower) (properties : QVariantMap) :
    (power.updateProperties properties).liveProperties = power.liveProperties := rfl

@[simp] theorem updateProperties_refreshPending (power : DBusPower) (properties : QVariantMap) :
    (power.updateProperties properties).refreshPending = power.refreshPending := rfl

/-- Removing names one after another leaves the entries of all other names. -/
theorem foldl_remove (names : List String) (m : QVariantMap) (name : String) :
    names.foldl QVariantMap.remove m name = if name ∈ names then none else m name := by
  induction names generalizing m with
  | nil => simp
  | cons n rest ih =>
    simp only [List.foldl_cons, ih, QVariantMap.remove, List.mem_cons]
    split_ifs <;> simp_all

/-- What is left of a snapshot is what it says about the names that did not change. -/
theorem withoutLive_apply (power : DBusPower) (snapshot : QVariantMap) (name : String) :
    power.withoutLive snapshot name =
      if name ∈ power.liveProperties then none else snapshot name :=
  foldl_remove power.liveProperties snapshot name

/-- Marking a name as live reads as before. -/
theorem read_markLive (power : DBusPower) (name : String) (p : Property) :
    (power.markLive name).read p = power.read p := by
  unfold markLive
  split
  · cases p <;> rfl
  · rfl

/-- A notification leaves the properties of other names. -/
theorem propertyChanged_read_of_ne (power : DBusPower) {name : String} (value : QVariant)
    {p : Property} (hname : p.name ≠ name) :
    (power.propertyChanged name value).read p = power.read p := by
  unfold propertyChanged
  rw [updateProperties_read_of_none _ (by simp [QVariantMap.single, hname]), read_markLive]

/-- A call that fails leaves all properties. -/
theorem finished_none_read (power : DBusPower) (isValid : Bool) (p : Property) :
    (power.finished isValid none).read p = power.read p := by
  simp only [finished]
  split <;> cases p <;> rfl

/-- A reply leaves the properties that changed while the call was pending. -/
theorem finished_read_of_live (power : DBusPower) (isValid : Bool) (snapshot : QVariantMap)
    {p : Property} (hlive : p.name ∈ power.liveProperties) :
    (power.finished isValid (some snapshot)).read p = power.read p := by
  unfold finished
  dsimp only
  rw [updateProperties_read_of_none]
  · split <;> cases p <;> rfl
  · split <;> simp [withoutLive_apply, hlive]

/-- A reply writes what it has for the properties that did not change. -/
theorem finished_read_of_not_live (power : DBusPower) (isValid : Bool) {snapshot : QVariantMap}
    {p : Property} {value : QVariant} (hlive : p.name ∉ power.liveProperties)
    (hvalue : snapshot p.name = some value) :
    (power.finished isValid (some snapshot)).read p = p.decode value := by
  unfold finished
  dsimp only
  apply updateProperties_read_of_some
  split <;> simp [withoutLive_apply, hlive, hvalue]

end DBusPower

end DdeTrayLoader.Power
