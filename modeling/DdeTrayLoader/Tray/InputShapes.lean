import DdeTrayLoader.Tray.Util
import DdeTrayLoader.Transition.Run
import Mathlib.Data.Int.ConditionallyCompleteOrder
import Mathlib.Order.ConditionallyCompleteLattice.Basic
import Mathlib.Data.Set.Prod
import Mathlib.Order.Interval.Set.LinearOrder

/-!
# Recorded shapes and the X server

The cache of input shapes is put next to the part of the X server it speaks about: the
windows that exist, with their extents, and their client input regions. Setting a shape by
rectangles replaces the client region, setting it by a mask of `None` removes it, and a
window without one receives input on its extents.

Since every request for a rectangle is followed by a request for no mask, no client region
survives, and a record is right only when it happens to be the window's own size.
-/

namespace DdeTrayLoader.Tray

open Transition

/-- A rectangle relative to a window's origin. -/
structure Rectangle where
  x : ℤ
  y : ℤ
  width : ℕ
  height : ℕ
  deriving DecidableEq, Repr

/-- The points of the rectangle. -/
def Rectangle.region (r : Rectangle) : Set (ℤ × ℤ) :=
  Set.Ico r.x (r.x + r.width) ×ˢ Set.Ico r.y (r.y + r.height)

/-- The points of the rectangle a size asks for; none when a side is not positive. -/
def QSize.region (size : QSize) : Set (ℤ × ℤ) := Set.Ico 0 size.width ×ˢ Set.Ico 0 size.height

/-- The extents of a window, which are not empty. -/
structure Extents extends Rectangle where
  width_pos : 0 < width
  height_pos : 0 < height

/-- The size is that of the window, whose origin is its corner. -/
def Extents.HasSize (extents : Extents) (size : QSize) : Prop :=
  extents.x = 0 ∧ extents.y = 0 ∧ extents.width = size.width ∧ extents.height = size.height

/-- A size asks for a window's extents exactly if it is the window's own. -/
theorem Extents.region_eq_iff (extents : Extents) (size : QSize) :
    extents.region = size.region ↔ extents.HasSize size := by
  have hwidth := extents.width_pos
  have hheight := extents.height_pos
  have hx : extents.x < extents.x + extents.width := by omega
  have hy : extents.y < extents.y + extents.height := by omega
  have hnonempty : extents.region.Nonempty :=
    (Set.nonempty_Ico.mpr hx).prod (Set.nonempty_Ico.mpr hy)
  unfold Rectangle.region QSize.region
  rw [Set.prod_eq_prod_iff_of_nonempty hnonempty, Set.Ico_eq_Ico_iff (.inl hx),
    Set.Ico_eq_Ico_iff (.inl hy)]
  unfold Extents.HasSize
  constructor
  · intro hboth
    obtain ⟨⟨hx0, hw⟩, hy0, hh⟩ := hboth
    exact ⟨hx0, hy0, by omega, by omega⟩
  · intro hboth
    obtain ⟨hx0, hy0, hw, hh⟩ := hboth
    exact ⟨⟨hx0, by omega⟩, hy0, by omega⟩

/-- The windows of the X server and the client input regions they have been given. -/
structure XServer where
  windows : Window → Option Extents
  clientInput : Window → Option Rectangle

namespace XServer

/-- Execute a request. Requests for windows that do not exist fail. -/
def execute (server : XServer) : XRequest → XServer
  | .shapeRectangles window x y width height =>
    if (server.windows window).isSome then
      { server with
        clientInput :=
          Function.update server.clientInput window (some ⟨x, y, width.toNat, height.toNat⟩) }
    else server
  | .shapeMaskNone window =>
    if (server.windows window).isSome then
      { server with clientInput := Function.update server.clientInput window none }
    else server
  | .configureStackMode _ _ => server

/-- The points of a window that receive input. -/
def inputRegion (server : XServer) (window : Window) : Set (ℤ × ℤ) :=
  match server.clientInput window, server.windows window with
  | some rectangle, _ => rectangle.region
  | none, some extents => extents.region
  | none, none => ∅

end XServer

/-- The cache and the server. -/
structure Shapes where
  util : Util
  server : XServer

inductive ShapeEvent where
  /-- `setX11WindowInputShape`, with its requests executed. -/
  | set (window : Window) (size : QSize)
  /-- `removeX11WindowInputShapeRecord`. -/
  | remove (window : Window)
  /-- A window is created, perhaps with an id that was used before. -/
  | create (window : Window) (extents : Extents)
  | resize (window : Window) (extents : Extents)
  /-- A window is destroyed and its owner drops the record. -/
  | destroy (window : Window)

namespace Shapes

def step (s : Shapes) : ShapeEvent → Shapes
  | .set window size =>
    let result := s.util.setX11WindowInputShape window size
    ⟨result.1, run XServer.execute s.server result.2⟩
  | .remove window => { s with util := s.util.removeX11WindowInputShapeRecord window }
  | .create window extents =>
    if (s.server.windows window).isSome then s
    else { s with server :=
      { windows := Function.update s.server.windows window (some extents)
        clientInput := Function.update s.server.clientInput window none } }
  | .resize window extents =>
    if (s.server.windows window).isSome then
      { s with server :=
        { s.server with windows := Function.update s.server.windows window (some extents) } }
    else s
  | .destroy window =>
    { util := s.util.removeX11WindowInputShapeRecord window
      server :=
        { windows := Function.update s.server.windows window none
          clientInput := Function.update s.server.clientInput window none } }

/-- A server with these windows, none of which has a client input region. -/
def initial (windows : Window → Option Extents) : Shapes := ⟨⟨∅⟩, ⟨windows, fun _ => none⟩⟩

/-- The size the record of a window must have after one more event. -/
def requestedStep (window : Window) (requested : Option QSize) : ShapeEvent → Option QSize
  | .set window' size => if window = window' then some size else requested
  | .remove window' => if window = window' then none else requested
  | .destroy window' => if window = window' then none else requested
  | _ => requested

/-- The size last requested for a window since its record was dropped. -/
def lastRequested (es : List ShapeEvent) (window : Window) : Option QSize :=
  run (requestedStep window) none es

/-- Every record of a window that exists is the window's input region. -/
def Agrees (s : Shapes) : Prop :=
  ∀ window size extents, s.util.inputShape window = some size →
    s.server.windows window = some extents → s.server.inputRegion window = size.region

/-- The records follow the requests. -/
theorem inputShape_step (s : Shapes) (e : ShapeEvent) (window : Window) :
    (s.step e).util.inputShape window = requestedStep window (s.util.inputShape window) e := by
  cases e with
  | set window' size => exact Util.inputShape_set s.util window' window size
  | remove window' => exact Util.inputShape_remove s.util window' window
  | create window' extents =>
    unfold step
    dsimp only
    split <;> rfl
  | resize window' extents =>
    unfold step
    dsimp only
    split <;> rfl
  | destroy window' => exact Util.inputShape_remove s.util window' window

theorem inputShape_run (s : Shapes) (es : List ShapeEvent) (window : Window) :
    (run step s es).util.inputShape window =
      run (requestedStep window) (s.util.inputShape window) es := by
  induction es generalizing s with
  | nil => rfl
  | cons e es ih => rw [run_cons, ih, inputShape_step, run_cons]

/-- Setting a shape leaves no client input region behind. -/
theorem clientInput_execute {server : XServer} (h : ∀ window, server.clientInput window = none)
    (util : Util) (window : Window) (size : QSize) (window' : Window) :
    (run XServer.execute server (util.setX11WindowInputShape window size).2).clientInput
      window' = none := by
  unfold Util.setX11WindowInputShape
  split_ifs
  · exact h window'
  · simp only [run_cons, run_nil, XServer.execute]
    split_ifs
    · simp only [Function.update_apply]
      split_ifs
      · rfl
      · exact h window'
    · exact h window'

/-- No step leaves a client input region behind. -/
theorem clientInput_step {s : Shapes} (h : ∀ window, s.server.clientInput window = none)
    (e : ShapeEvent) (window : Window) : (s.step e).server.clientInput window = none := by
  cases e with
  | set window' size => exact clientInput_execute h s.util window' size window
  | remove window' => exact h window
  | create window' extents =>
    unfold step
    dsimp only
    split_ifs
    · exact h window
    · simp only [Function.update_apply]
      split_ifs
      · rfl
      · exact h window
  | resize window' extents =>
    unfold step
    dsimp only
    split_ifs
    · exact h window
    · exact h window
  | destroy window' =>
    simp only [step, Function.update_apply]
    split_ifs
    · rfl
    · exact h window

/-- After every run, the records agree with the server exactly if each window that exists has
the size that was last requested for it since its record was dropped. -/
theorem agrees_iff_own_size (windows : Window → Option Extents) (es : List ShapeEvent) :
    Agrees (run step (initial windows) es) ↔
      ∀ window size extents, lastRequested es window = some size →
        (run step (initial windows) es).server.windows window = some extents →
          extents.HasSize size := by
  have hnone : ∀ window, (run step (initial windows) es).server.clientInput window = none :=
    run_invariant (I := fun s : Shapes => ∀ window, s.server.clientInput window = none)
      (fun _ e h => clientInput_step h e) es fun _ => rfl
  unfold Agrees
  apply forall₃_congr
  intro window size extents
  rw [inputShape_run]
  apply imp_congr_right
  intro _
  apply imp_congr_right
  intro hlive
  rw [← Extents.region_eq_iff, XServer.inputRegion, hnone, hlive]

/-- A container that was made input transparent still receives input. -/
theorem not_agrees_after_transparent :
    ¬Agrees (run step (initial fun _ => none)
      [.create 1 ⟨⟨0, 0, 1, 1⟩, by decide, by decide⟩, .set 1 ⟨0, 0⟩]) := by
  intro h
  have hregion := h 1 ⟨0, 0⟩ ⟨⟨0, 0, 1, 1⟩, by decide, by decide⟩ rfl rfl
  have hpoint : ((0, 0) : ℤ × ℤ) ∈ QSize.region ⟨0, 0⟩ := by
    rw [← hregion]
    change ((0, 0) : ℤ × ℤ) ∈ Rectangle.region ⟨0, 0, 1, 1⟩
    simp [Rectangle.region]
  simp [QSize.region] at hpoint

end Shapes

end DdeTrayLoader.Tray
