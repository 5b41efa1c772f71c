import DdeTrayLoader.DBusMenu.Properties

/-!
# What the menu service sends

The items of a layout form a tree; a reply to `GetLayout` holds the part of it that was asked for.
-/

namespace DdeTrayLoader.DBusMenu

/-- `DBusMenuItem`: properties that changed. -/
structure DBusMenuItem (kit : Toolkit) where
  id : ℤ
  properties : VariantMap kit

/-- `DBusMenuItemKeys`: properties that are gone. -/
structure DBusMenuItemKeys where
  id : ℤ
  properties : List String

/-- `DBusMenuLayoutItem` -/
inductive DBusMenuLayoutItem (kit : Toolkit)
  | item (id : ℤ) (properties : VariantMap kit) (children : List (DBusMenuLayoutItem kit))

namespace DBusMenuLayoutItem

variable {kit : Toolkit}

def id : DBusMenuLayoutItem kit → ℤ
  | item id _ _ => id

def properties : DBusMenuLayoutItem kit → VariantMap kit
  | item _ properties _ => properties

def children : DBusMenuLayoutItem kit → List (DBusMenuLayoutItem kit)
  | item _ _ children => children

/-- The ids of the children, in order. -/
def childIds (layout : DBusMenuLayoutItem kit) : List ℤ := layout.children.map id

end DBusMenuLayoutItem

end DdeTrayLoader.DBusMenu
