import DdeTrayLoader.DBusMenu.Mnemonics
import DdeTrayLoader.DBusMenu.Shortcuts
import Mathlib.Data.List.AList

/-!
# Properties of menu items

An item comes with a map of properties, and an action shows what the importer read from it.
`QVariant`, the icons and the key sequences are Qt's, and are a parameter here.
-/

namespace DdeTrayLoader.DBusMenu

/-- The themes that `DGuiApplicationHelper` knows. -/
inductive ThemeType
  | light
  | dark
  deriving DecidableEq

/-- What the importer uses of Qt: values and how they convert, and icons. -/
structure Toolkit where
  Variant : Type
  Icon : Type
  KeySequence : Type
  /-- `QVariant()` -/
  invalid : Variant
  isValid : Variant → Bool
  toString : Variant → String
  toBool : Variant → Bool
  toInt : Variant → ℤ
  toByteArray : Variant → List UInt8
  /-- `>>` from the `QDBusArgument` in a value. -/
  toShortcut : Variant → DBusMenuShortcut
  /-- `QKeySequence::fromString` -/
  keySequence : List Char → KeySequence
  /-- `QIcon()` -/
  nullIcon : Icon
  isNull : Icon → Bool
  /-- `QIcon::fromTheme` -/
  fromTheme : String → Icon
  /-- `QPixmap::loadFromData` -/
  loadFromData : List UInt8 → Option Icon
  qHash : List UInt8 → UInt32
  isValid_invalid : isValid invalid = false
  toString_invalid : toString invalid = ""
  toShortcut_invalid : toShortcut invalid = []

/-- A toolkit whose values are texts, and whose icons are their names. -/
def textKit : Toolkit where
  Variant := Option String
  Icon := String
  KeySequence := List Char
  invalid := none
  isValid := Option.isSome
  toString text := text.getD ""
  toBool text := text = some "true"
  toInt text := if text = some "1" then 1 else 0
  toByteArray _ := []
  toShortcut _ := []
  keySequence := id
  nullIcon := ""
  isNull icon := icon = ""
  fromTheme := id
  loadFromData _ := none
  qHash _ := 0
  isValid_invalid := rfl
  toString_invalid := rfl
  toShortcut_invalid := rfl

/-- `QVariantMap`. Its keys are listed in ascending order. -/
structure VariantMap (kit : Toolkit) where
  entries : List (String × kit.Variant)
  ascending : (entries.map Prod.fst).Pairwise (· < ·)

namespace VariantMap

variable {kit : Toolkit}

def empty : VariantMap kit := ⟨[], .nil⟩

def keys (map : VariantMap kit) : List String := map.entries.map Prod.fst

/-- `map.value(key)`, an invalid value when there is none. -/
def value (map : VariantMap kit) (key : String) : kit.Variant :=
  (map.entries.lookup key).getD kit.invalid

/-- The map without the entry that `map.take(key)` takes. -/
def without (map : VariantMap kit) (key : String) : VariantMap kit where
  entries := map.entries.filter (·.1 ≠ key)
  ascending := map.ascending.sublist (List.filter_sublist.map _)

end VariantMap

/-- What an action shows. -/
structure Look (kit : Toolkit) where
  text : List Char
  enabled : Bool
  visible : Bool
  separator : Bool
  checkable : Bool
  /-- It is alone in an exclusive `QActionGroup`. -/
  radio : Bool
  checked : Bool
  /-- `_dbusmenu_icon_name` -/
  iconName : String
  /-- `_dbusmenu_icon_data_hash` -/
  iconDataHash : UInt32
  icon : kit.Icon
  shortcut : kit.KeySequence

/-- A new `QAction`. -/
def Look.new (kit : Toolkit) : Look kit where
  text := []
  enabled := true
  visible := true
  separator := false
  checkable := false
  radio := false
  checked := false
  iconName := ""
  iconDataHash := 0
  icon := kit.nullIcon
  shortcut := kit.keySequence []

variable {kit : Toolkit}

/-- `iconForName` of the tray: a theme of light windows prefers the dark variant of an icon. -/
def iconForName (theme : ThemeType) (name : String) : kit.Icon :=
  let darkIcon := kit.fromTheme (name ++ "-dark")
  if theme = .light ∧ kit.isNull darkIcon = false then darkIcon else kit.fromTheme name

def updateActionLabel (action : Look kit) (value : kit.Variant) : Look kit :=
  { action with text := swapMnemonicChar (kit.toString value).toList '_' '&' }

/-- A value that says whether, and is `true` when invalid. -/
def toBoolOrTrue (value : kit.Variant) : Bool :=
  if kit.isValid value then kit.toBool value else true

def updateActionEnabled (action : Look kit) (value : kit.Variant) : Look kit :=
  { action with enabled := toBoolOrTrue value }

def updateActionChecked (action : Look kit) (value : kit.Variant) : Look kit :=
  if action.checkable && kit.isValid value then
    { action with checked := kit.toInt value = 1 }
  else action

def updateActionIconByName (theme : ThemeType) (forceRefresh : Bool) (action : Look kit)
    (value : kit.Variant) : Look kit :=
  let iconName := kit.toString value
  if !forceRefresh && action.iconName = iconName then action
  else if iconName = "" then { action with iconName := iconName, icon := kit.nullIcon }
  else { action with iconName := iconName, icon := iconForName theme iconName }

def updateActionIconByData (action : Look kit) (value : kit.Variant) : Look kit :=
  let data := kit.toByteArray value
  let dataHash := kit.qHash data
  if action.iconDataHash = dataHash then action
  else { action with
    iconDataHash := dataHash
    icon := (kit.loadFromData data).getD kit.nullIcon }

def updateActionVisible (action : Look kit) (value : kit.Variant) : Look kit :=
  { action with visible := toBoolOrTrue value }

def updateActionShortcut (action : Look kit) (value : kit.Variant) : Look kit :=
  { action with shortcut := kit.keySequence (kit.toShortcut value).toText }

def updateActionProperty (theme : ThemeType) (forceRefresh : Bool) (action : Look kit)
    (key : String) (value : kit.Variant) : Look kit :=
  if key = "label" then updateActionLabel action value
  else if key = "enabled" then updateActionEnabled action value
  else if key = "toggle-state" then updateActionChecked action value
  else if key = "icon-name" then updateActionIconByName theme forceRefresh action value
  else if key = "icon-data" then updateActionIconByData action value
  else if key = "visible" then updateActionVisible action value
  else if key = "shortcut" then updateActionShortcut action value
  else action

/-- The updates of an action that `updateAction` makes, each a key and its value. -/
def requestedUpdates (map : VariantMap kit) (requestedProperties : List String) :
    List (String × kit.Variant) :=
  requestedProperties.map fun key => (key, map.value key)

/-- Update several properties of an action in order. -/
def updateProperties (theme : ThemeType) (forceRefresh : Bool) (action : Look kit)
    (updates : List (String × kit.Variant)) : Look kit :=
  updates.foldl (fun action update =>
    updateActionProperty theme forceRefresh action update.1 update.2) action

end DdeTrayLoader.DBusMenu
