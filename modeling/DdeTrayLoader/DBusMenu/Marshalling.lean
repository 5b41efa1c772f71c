import DdeTrayLoader.DBusMenu.DBusTypes

/-!
# Marshalling of menu items

The operators `<<` and `>>` write a value into a `QDBusArgument` and read one back. An argument is
kept as the calls made on it; the child of a layout item is an argument of its own, in a variant.

Reading into an object that is there already replaces what a `DBusMenuItem` or a shortcut holds,
and adds to the children of a layout item.
-/

namespace DdeTrayLoader.DBusMenu

/-- A part of a `QDBusArgument`. -/
inductive Token (kit : Toolkit)
  | beginStructure
  | endStructure
  | beginArray
  | endArray
  | int (value : ℤ)
  | map (value : VariantMap kit)
  | stringList (value : List String)
  | keyList (value : List (List Char))
  | variant (argument : List (Token kit))

variable {kit : Toolkit}

namespace DBusMenuItem

/-- `<<` -/
def write (obj : DBusMenuItem kit) : List (Token kit) :=
  [.beginStructure, .int obj.id, .map obj.properties, .endStructure]

/-- `>>`, which leaves nothing of the object read into. -/
def read : List (Token kit) → Option (DBusMenuItem kit × List (Token kit))
  | .beginStructure :: .int id :: .map properties :: .endStructure :: rest =>
    some (⟨id, properties⟩, rest)
  | _ => none

theorem read_write (obj : DBusMenuItem kit) (rest : List (Token kit)) :
    read (obj.write ++ rest) = some (obj, rest) := rfl

end DBusMenuItem

namespace DBusMenuItemKeys

def write (obj : DBusMenuItemKeys) : List (Token kit) :=
  [.beginStructure, .int obj.id, .stringList obj.properties, .endStructure]

def read : List (Token kit) → Option (DBusMenuItemKeys × List (Token kit))
  | .beginStructure :: .int id :: .stringList properties :: .endStructure :: rest =>
    some (⟨id, properties⟩, rest)
  | _ => none

theorem read_write (obj : DBusMenuItemKeys) (rest : List (Token kit)) :
    read (obj.write ++ rest) = some (obj, rest) := rfl

end DBusMenuItemKeys

namespace DBusMenuShortcut

def write (obj : DBusMenuShortcut) : List (Token kit) :=
  .beginArray :: (obj.map fun item => .keyList item) ++ [.endArray]

/-- The loop of `>>`. -/
def readItems (obj : DBusMenuShortcut) :
    List (Token kit) → Option (DBusMenuShortcut × List (Token kit))
  | .endArray :: rest => some (obj, rest)
  | .keyList item :: rest => readItems (obj ++ [item]) rest
  | _ => none

/-- `>>`, which clears the object first. -/
def read : List (Token kit) → Option (DBusMenuShortcut × List (Token kit))
  | .beginArray :: rest => readItems [] rest
  | _ => none

theorem readItems_append (before obj : DBusMenuShortcut) (rest : List (Token kit)) :
    readItems before ((obj.map fun item => .keyList item) ++ .endArray :: rest) =
      some (before ++ obj, rest) := by
  induction obj generalizing before with
  | nil => rw [List.append_nil]; rfl
  | cons item obj ih =>
    rw [List.map_cons, List.cons_append, readItems, ih, List.append_assoc, List.singleton_append]

theorem read_write (obj : DBusMenuShortcut) (rest : List (Token kit)) :
    read (obj.write ++ rest) = some (obj, rest) := by
  change readItems [] (((obj.map fun item => .keyList item) ++ [.endArray]) ++ rest) = _
  rw [List.append_assoc, List.singleton_append, readItems_append, List.nil_append]

end DBusMenuShortcut

namespace DBusMenuLayoutItem

/-- `<<` -/
def write : DBusMenuLayoutItem kit → List (Token kit)
  | item id properties children =>
    [.beginStructure, .int id, .map properties, .beginArray] ++
      (children.map fun child => .variant child.write) ++ [.endArray, .endStructure]

mutual

/-- `>>`, into an object that has children already. -/
def read (before : List (DBusMenuLayoutItem kit)) :
    List (Token kit) → Option (DBusMenuLayoutItem kit × List (Token kit))
  | .beginStructure :: .int id :: .map properties :: .beginArray :: rest =>
    match readChildren before rest with
    | some (children, .endStructure :: rest) => some (item id properties children, rest)
    | _ => none
  | _ => none

/-- The loop of `>>`. -/
def readChildren (before : List (DBusMenuLayoutItem kit)) :
    List (Token kit) → Option (List (DBusMenuLayoutItem kit) × List (Token kit))
  | .endArray :: rest => some (before, rest)
  | .variant argument :: rest =>
    match read [] argument with
    | some (child, _) => readChildren (before ++ [child]) rest
    | none => none
  | _ => none

end

/-- The loop of `>>` reads the children that `<<` wrote, when each of them is read as it was. -/
theorem readChildren_append {children : List (DBusMenuLayoutItem kit)}
    (hread : ∀ child ∈ children, read [] child.write = some (child, []))
    (before : List (DBusMenuLayoutItem kit)) (rest : List (Token kit)) :
    readChildren before ((children.map fun child => .variant child.write) ++ .endArray :: rest) =
      some (before ++ children, rest) := by
  induction children generalizing before with
  | nil => rw [List.append_nil, List.map_nil, List.nil_append, readChildren]
  | cons child children ih =>
    rw [List.map_cons, List.cons_append, readChildren, hread child List.mem_cons_self]
    dsimp only
    rw [ih (fun child' h => hread child' (List.mem_cons_of_mem child h)), List.append_assoc,
      List.singleton_append]

/-- What is written of an item, and of the items below it, is read back, behind the children that
the object read into has already. -/
theorem read_write_tree (before : List (DBusMenuLayoutItem kit)) (layout : DBusMenuLayoutItem kit)
    (rest : List (Token kit)) :
    read before (layout.write ++ rest) =
      some (item layout.id layout.properties (before ++ layout.children), rest) := by
  match layout with
  | item id properties children =>
    have hread : ∀ child ∈ children, read [] child.write = some (child, []) := by
      intro child hmem
      have hchild := read_write_tree [] child []
      rw [List.append_nil] at hchild
      rw [hchild]
      cases child
      rfl
    have hchildren := readChildren_append hread before (.endStructure :: rest)
    rw [write, List.append_assoc, List.append_assoc]
    change read before (.beginStructure :: .int id :: .map properties :: .beginArray ::
      ((children.map fun child => .variant child.write) ++ .endArray :: .endStructure :: rest)) = _
    rw [read, hchildren]
    rfl

end DBusMenuLayoutItem

end DdeTrayLoader.DBusMenu
