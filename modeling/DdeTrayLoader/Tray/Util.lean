import DdeTrayLoader.Tray.Registered

/-!
# Input shapes

`Util` sends the requests that give a window an input shape and remembers the last size it
asked for, so that it can skip a request that changes nothing. The requests are values
here; what the X server does with them is defined where it matters.
-/

namespace DdeTrayLoader.Tray

/-- An X11 window id. -/
abbrev Window : Type := ℕ

/-- A `QSize`; `QSize()` is the invalid size. -/
structure QSize where
  width : ℤ := -1
  height : ℤ := -1
  deriving DecidableEq, Repr

/-- The requests of `setX11WindowInputShape`. The sides of a rectangle have 16 bits. -/
inductive XRequest where
  | shapeRectangles (window : Window) (x y : ℤ) (width height : BitVec 16)
  | shapeMaskNone (window : Window)
  | configureStackMode (window : Window) (above : Bool)
  deriving DecidableEq, Repr

structure Util where
  inputShapes : QHash Window QSize

namespace Util

/-- The input shape the cache has recorded for the window. -/
def inputShape (util : Util) (window : Window) : Option QSize := util.inputShapes.lookup window

/-- Set the input shape and record its size, unless the same size is recorded already. -/
def setX11WindowInputShape (util : Util) (window : Window) (size : QSize) :
    Util × List XRequest :=
  if util.inputShape window = some size then (util, [])
  else
    (⟨util.inputShapes.insert window size⟩,
      [ .shapeRectangles window 0 0 (BitVec.ofInt 16 size.width) (BitVec.ofInt 16 size.height),
        .shapeMaskNone window,
        .configureStackMode window (0 < size.width ∧ 0 < size.height) ])

def removeX11WindowInputShapeRecord (util : Util) (window : Window) : Util :=
  ⟨util.inputShapes.erase window⟩

@[simp] theorem inputShape_set (util : Util) (window window' : Window) (size : QSize) :
    (util.setX11WindowInputShape window size).1.inputShape window' =
      if window' = window then some size else util.inputShape window' := by
  unfold setX11WindowInputShape
  split_ifs with hsame hwindow hwindow
  · rw [hwindow, hsame]
  · rfl
  · exact hwindow ▸ AList.lookup_insert _
  · exact AList.lookup_insert_ne hwindow

@[simp] theorem inputShape_remove (util : Util) (window window' : Window) :
    (util.removeX11WindowInputShapeRecord window).inputShape window' =
      if window' = window then none else util.inputShape window' := by
  unfold removeX11WindowInputShapeRecord inputShape
  split_ifs with hwindow
  · exact hwindow ▸ AList.lookup_erase _ _
  · exact AList.lookup_erase_ne hwindow

end Util

end DdeTrayLoader.Tray
