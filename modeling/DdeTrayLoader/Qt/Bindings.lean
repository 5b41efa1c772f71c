import DdeTrayLoader.Transition.Run
import Mathlib.Data.List.AList

/-!
# Objects bound to windows

A registry binds windows to child objects, which it makes for them on demand. A child whose
window is hidden unbinds itself and is scheduled for deletion, at some later event. A child that
is destroyed while its window lives unbinds itself, too. A window that is destroyed is hidden
first, and then its children die with it: callbacks that would run in the window are lost.

How a child unbinds itself is a parameter of the registry.
-/

namespace DdeTrayLoader.Qt

open Transition

/-- The children that are bound to windows, both by number. -/
abbrev Bindings := AList fun _ : ℕ => ℕ

/-- What the callbacks of a child do to the bindings. They only remove, and only the binding of
its window, which they do remove when it is to the child. -/
structure Unbinding where
  unbind : Bindings → ℕ → ℕ → Bindings
  lookup_ne : ∀ map p {w w'}, w' ≠ w → (unbind map w p).lookup w' = map.lookup w'
  lookup_self : ∀ {map w p}, map.lookup w = some p → (unbind map w p).lookup w = none
  of_lookup : ∀ {map w p q}, (unbind map w p).lookup w = some q → map.lookup w = some q

/-- A window, which its number names. -/
structure Window where
  alive : Bool := false
  visible : Bool := false
  deriving DecidableEq, Repr

/-- A child object of a window, with its data. -/
structure Child (δ : Type) where
  alive : Bool := false
  parentWindow : ℕ := 0
  /-- Its deletion is scheduled. -/
  deleteLater : Bool := false
  data : δ
  deriving DecidableEq, Repr

/-- The windows and the children by the order of their construction, and the bindings. -/
structure Registry (δ : Type) where
  window : ℕ → Window
  windows : ℕ
  child : ℕ → Child δ
  children : ℕ
  map : Bindings

/-- What happens to windows and their children. -/
inductive WindowEvent where
  | createWindow
  | showWindow (w : ℕ)
  | hideWindow (w : ℕ)
  | destroyWindow (w : ℕ)
  | get (w : ℕ)
  /-- The deletion of a child that was scheduled takes place. -/
  | deferredDelete (p : ℕ)
  deriving DecidableEq, Repr

namespace Registry

variable {δ : Type} (u : Unbinding) (d : δ)

/-- No windows yet. -/
def initial : Registry δ := ⟨fun _ => {}, 0, fun _ => { data := d }, 0, ∅⟩

/-- Change the members of a child. -/
def modify (r : Registry δ) (p : ℕ) (f : Child δ → Child δ) : Registry δ :=
  { r with child := Function.update r.child p (f (r.child p)) }

/-- Change the data of a child. -/
def setData (r : Registry δ) (p : ℕ) (data : δ) : Registry δ :=
  r.modify p fun child => { child with data := data }

/-- A new window, which is hidden. -/
def createWindow (r : Registry δ) : Registry δ :=
  { r with
    window := Function.update r.window r.windows { alive := true }
    windows := r.windows + 1 }

/-- The child bound to the window, a new one with data `d` when there is none. -/
def get (r : Registry δ) (w : ℕ) : Registry δ × ℕ :=
  match r.map.lookup w with
  | some p => (r, p)
  | none =>
    ({ r with
        child := Function.update r.child r.children { alive := true, parentWindow := w, data := d }
        children := r.children + 1
        map := r.map.insert w r.children },
      r.children)

/-- The live children of a window. -/
def childrenOf (r : Registry δ) (w : ℕ) : List ℕ :=
  (List.range r.children).filter fun p =>
    (r.child p).alive && decide ((r.child p).parentWindow = w)

/-- Change the visibility of a window, without its signal. -/
def setVisible (r : Registry δ) (w : ℕ) (visible : Bool) : Registry δ :=
  { r with window := Function.update r.window w { r.window w with visible := visible } }

/-- Show a window. -/
def showWindow (r : Registry δ) (w : ℕ) : Registry δ :=
  if (r.window w).alive then r.setVisible w true else r

/-- A child's callback when its window is hidden. -/
def onHidden (w : ℕ) (r : Registry δ) (p : ℕ) : Registry δ :=
  { r with map := u.unbind r.map w p }.modify p fun child => { child with deleteLater := true }

/-- Hide a window. When it was visible, this is signalled to its children. -/
def hideWindow (r : Registry δ) (w : ℕ) : Registry δ :=
  if (r.window w).visible then
    (r.childrenOf w).foldl (onHidden u w) (r.setVisible w false)
  else r

/-- A window's destructor hides it and deletes its children. -/
def destroyWindow (r : Registry δ) (w : ℕ) : Registry δ :=
  let r := r.hideWindow u w
  { r with
    window := Function.update r.window w {}
    child := fun p =>
      if (r.child p).parentWindow = w then { r.child p with alive := false } else r.child p }

/-- A child's destructor, while its window lives. -/
def destroyChild (r : Registry δ) (p : ℕ) : Registry δ :=
  { r with map := u.unbind r.map (r.child p).parentWindow p }.modify p
    fun child => { child with alive := false }

/-- The deletion takes place if it was scheduled and the child is still there. -/
def deferredDelete (r : Registry δ) (p : ℕ) : Registry δ :=
  if (r.child p).alive && (r.child p).deleteLater then r.destroyChild u p else r

def step (r : Registry δ) : WindowEvent → Registry δ
  | .createWindow => r.createWindow
  | .showWindow w => r.showWindow w
  | .hideWindow w => r.hideWindow u w
  | .destroyWindow w => if (r.window w).alive then r.destroyWindow u w else r
  | .get w => if (r.window w).alive then (r.get d w).1 else r
  | .deferredDelete p => r.deferredDelete u p

/-- The child bound to the window after `get`. -/
theorem get_lookup (r : Registry δ) (w : ℕ) : (r.get d w).1.map.lookup w = some (r.get d w).2 := by
  unfold get
  cases hlookup : r.map.lookup w with
  | some p => exact hlookup
  | none => exact AList.lookup_insert _

/-- A window that is bound has its child already. -/
theorem get_of_lookup {r : Registry δ} {w p : ℕ} (hlookup : r.map.lookup w = some p) :
    r.get d w = (r, p) := by
  rw [get, hlookup]

/-- Other windows are bound as before. -/
theorem get_lookup_ne (r : Registry δ) {w w' : ℕ} (hne : w' ≠ w) :
    (r.get d w).1.map.lookup w' = r.map.lookup w' := by
  unfold get
  split
  · rfl
  · exact AList.lookup_insert_ne hne

@[simp] theorem get_window (r : Registry δ) (w : ℕ) : (r.get d w).1.window = r.window := by
  unfold get
  split <;> rfl

@[simp] theorem get_windows (r : Registry δ) (w : ℕ) : (r.get d w).1.windows = r.windows := by
  unfold get
  split <;> rfl

/-- The children that exist stay as they are. -/
theorem get_child (r : Registry δ) (w : ℕ) {p : ℕ} (hlt : p < r.children) :
    (r.get d w).1.child p = r.child p := by
  unfold get
  split
  · rfl
  · exact Function.update_of_ne (Nat.ne_of_lt hlt) _ _

/-- A live window that is shown is visible. -/
@[simp] theorem showWindow_window (r : Registry δ) (w : ℕ) :
    (r.showWindow w).window = Function.update r.window w
      { r.window w with visible := (r.window w).alive || (r.window w).visible } := by
  unfold showWindow
  split
  · rename_i halive
    simp [setVisible, halive]
  · rename_i hdead
    rw [Bool.not_eq_true] at hdead
    rw [hdead, Bool.false_or]
    exact (Function.update_eq_self w r.window).symm

@[simp] theorem showWindow_windows (r : Registry δ) (w : ℕ) :
    (r.showWindow w).windows = r.windows := by
  unfold showWindow
  split <;> rfl

@[simp] theorem showWindow_child (r : Registry δ) (w : ℕ) :
    (r.showWindow w).child = r.child := by
  unfold showWindow
  split <;> rfl

@[simp] theorem showWindow_children (r : Registry δ) (w : ℕ) :
    (r.showWindow w).children = r.children := by
  unfold showWindow
  split <;> rfl

@[simp] theorem showWindow_map (r : Registry δ) (w : ℕ) : (r.showWindow w).map = r.map := by
  unfold showWindow
  split <;> rfl

/-- No window dies or comes to life when one is shown. -/
theorem showWindow_alive (r : Registry δ) (w w' : ℕ) :
    ((r.showWindow w).window w').alive = (r.window w').alive := by
  by_cases hw : w' = w
  · simp [hw]
  · simp [hw]

/-- The callbacks change no windows. -/
@[simp] theorem foldl_onHidden_window (r : Registry δ) (w : ℕ) (ps : List ℕ) :
    (ps.foldl (onHidden u w) r).window = r.window := by
  induction ps generalizing r with
  | nil => rfl
  | cons p ps ih => rw [List.foldl_cons, ih, onHidden, modify]

@[simp] theorem foldl_onHidden_windows (r : Registry δ) (w : ℕ) (ps : List ℕ) :
    (ps.foldl (onHidden u w) r).windows = r.windows := by
  induction ps generalizing r with
  | nil => rfl
  | cons p ps ih => rw [List.foldl_cons, ih, onHidden, modify]

@[simp] theorem foldl_onHidden_children (r : Registry δ) (w : ℕ) (ps : List ℕ) :
    (ps.foldl (onHidden u w) r).children = r.children := by
  induction ps generalizing r with
  | nil => rfl
  | cons p ps ih => rw [List.foldl_cons, ih, onHidden, modify]

/-- The callbacks schedule the deletion of the children they belong to. -/
theorem foldl_onHidden_child (r : Registry δ) (w : ℕ) (ps : List ℕ) (p : ℕ) :
    (ps.foldl (onHidden u w) r).child p =
      if p ∈ ps then { r.child p with deleteLater := true } else r.child p := by
  induction ps generalizing r with
  | nil => rfl
  | cons q ps ih =>
    rw [List.foldl_cons, ih]
    by_cases hpq : p = q
    · simp [onHidden, modify, hpq]
    · simp [onHidden, modify, hpq]

/-- The callbacks leave the bindings of other windows alone. -/
theorem foldl_onHidden_lookup_ne (r : Registry δ) {w w' : ℕ} (hne : w' ≠ w) (ps : List ℕ) :
    (ps.foldl (onHidden u w) r).map.lookup w' = r.map.lookup w' := by
  induction ps generalizing r with
  | nil => rfl
  | cons p ps ih =>
    rw [List.foldl_cons, ih]
    exact u.lookup_ne _ _ hne

/-- The callbacks bind nothing. -/
theorem of_foldl_onHidden_lookup {r : Registry δ} {w q : ℕ} {ps : List ℕ}
    (hlookup : (ps.foldl (onHidden u w) r).map.lookup w = some q) :
    r.map.lookup w = some q := by
  induction ps generalizing r with
  | nil => exact hlookup
  | cons p ps ih => exact u.of_lookup (ih hlookup)

/-- The callback of the child that is bound unbinds it. -/
theorem foldl_onHidden_lookup_self {r : Registry δ} {w p : ℕ} (hbound : r.map.lookup w = some p)
    {ps : List ℕ} (hmem : p ∈ ps) : (ps.foldl (onHidden u w) r).map.lookup w = none := by
  induction ps generalizing r with
  | nil => simp at hmem
  | cons q ps ih =>
    rw [List.foldl_cons]
    cases hlookup : (onHidden u w r q).map.lookup w with
    | none =>
      by_contra hsome
      obtain ⟨p', hp'⟩ := Option.ne_none_iff_exists'.mp hsome
      rw [of_foldl_onHidden_lookup u hp'] at hlookup
      simp at hlookup
    | some p' =>
      have hsame : p' = p := by
        rw [u.of_lookup hlookup] at hbound
        exact Option.some.inj hbound
      rw [hsame] at hlookup
      apply ih hlookup
      obtain rfl | hrest := List.mem_cons.mp hmem
      · have hnone := u.lookup_self hbound
        change (u.unbind r.map w p).lookup w = some p at hlookup
        rw [hnone] at hlookup
        simp at hlookup
      · exact hrest

/-- A window that is hidden is no longer visible, whether or not it was. -/
@[simp] theorem hideWindow_window (r : Registry δ) (w : ℕ) :
    (r.hideWindow u w).window =
      Function.update r.window w { r.window w with visible := false } := by
  unfold hideWindow
  split
  · exact foldl_onHidden_window u _ w _
  · rename_i hhidden
    rw [Bool.not_eq_true] at hhidden
    rw [← hhidden, Function.update_eq_self]

@[simp] theorem hideWindow_windows (r : Registry δ) (w : ℕ) :
    (r.hideWindow u w).windows = r.windows := by
  unfold hideWindow
  split
  · exact foldl_onHidden_windows u _ w _
  · rfl

@[simp] theorem hideWindow_children (r : Registry δ) (w : ℕ) :
    (r.hideWindow u w).children = r.children := by
  unfold hideWindow
  split
  · exact foldl_onHidden_children u _ w _
  · rfl

/-- No window dies or comes to life when one is hidden. -/
theorem hideWindow_window_alive (r : Registry δ) (w w' : ℕ) :
    ((r.hideWindow u w).window w').alive = (r.window w').alive := by
  by_cases hw : w' = w
  · simp [hw]
  · simp [hw]

/-- Hiding a window touches its live children only, and these only schedule their deletion. -/
theorem hideWindow_child (r : Registry δ) (w p : ℕ) :
    (r.hideWindow u w).child p =
      if (r.window w).visible ∧ p ∈ r.childrenOf w then { r.child p with deleteLater := true }
      else r.child p := by
  unfold hideWindow
  split
  · rename_i hvisible
    rw [foldl_onHidden_child]
    simp [hvisible, setVisible]
  · rename_i hhidden
    simp [hhidden]

@[simp] theorem hideWindow_alive (r : Registry δ) (w p : ℕ) :
    ((r.hideWindow u w).child p).alive = (r.child p).alive := by
  rw [hideWindow_child]
  split <;> rfl

@[simp] theorem hideWindow_parentWindow (r : Registry δ) (w p : ℕ) :
    ((r.hideWindow u w).child p).parentWindow = (r.child p).parentWindow := by
  rw [hideWindow_child]
  split <;> rfl

@[simp] theorem hideWindow_data (r : Registry δ) (w p : ℕ) :
    ((r.hideWindow u w).child p).data = (r.child p).data := by
  rw [hideWindow_child]
  split <;> rfl

theorem hideWindow_lookup_ne (r : Registry δ) {w w' : ℕ} (hne : w' ≠ w) :
    (r.hideWindow u w).map.lookup w' = r.map.lookup w' := by
  unfold hideWindow
  split
  · exact foldl_onHidden_lookup_ne u _ hne _
  · rfl

/-- Hiding a window binds nothing. -/
theorem of_hideWindow_lookup {r : Registry δ} {w w' p : ℕ}
    (hlookup : (r.hideWindow u w).map.lookup w' = some p) : r.map.lookup w' = some p := by
  by_cases hne : w' = w
  · subst hne
    unfold hideWindow at hlookup
    split at hlookup
    · exact of_foldl_onHidden_lookup (r := r.setVisible w' false) u hlookup
    · exact hlookup
  · rwa [hideWindow_lookup_ne u r hne] at hlookup

/-- Other windows stay as they are when one is destroyed. -/
@[simp] theorem destroyWindow_window (r : Registry δ) (w : ℕ) :
    (r.destroyWindow u w).window = Function.update r.window w {} := by
  simp [destroyWindow]

@[simp] theorem destroyWindow_windows (r : Registry δ) (w : ℕ) :
    (r.destroyWindow u w).windows = r.windows := hideWindow_windows u r w

@[simp] theorem destroyWindow_children (r : Registry δ) (w : ℕ) :
    (r.destroyWindow u w).children = r.children := hideWindow_children u r w

/-- The children of a window that is destroyed die with it. -/
theorem destroyWindow_alive {r : Registry δ} {w p : ℕ} :
    ((r.destroyWindow u w).child p).alive = true ↔
      (r.child p).parentWindow ≠ w ∧ (r.child p).alive = true := by
  by_cases hparent : (r.child p).parentWindow = w
  · simp [destroyWindow, hparent]
  · simp [destroyWindow, hparent]

@[simp] theorem destroyWindow_parentWindow (r : Registry δ) (w p : ℕ) :
    ((r.destroyWindow u w).child p).parentWindow = (r.child p).parentWindow := by
  dsimp only [destroyWindow]
  split <;> simp

@[simp] theorem destroyWindow_data (r : Registry δ) (w p : ℕ) :
    ((r.destroyWindow u w).child p).data = (r.child p).data := by
  dsimp only [destroyWindow]
  split <;> simp

/-- Other children stay as they are when one is destroyed. -/
theorem destroyChild_child (r : Registry δ) (p q : ℕ) :
    (r.destroyChild u p).child q =
      if q = p then { r.child p with alive := false } else r.child q :=
  Function.update_apply _ _ _ _

@[simp] theorem destroyChild_parentWindow (r : Registry δ) (p q : ℕ) :
    ((r.destroyChild u p).child q).parentWindow = (r.child q).parentWindow := by
  rw [destroyChild_child]
  split <;> simp [*]

@[simp] theorem destroyChild_data (r : Registry δ) (p q : ℕ) :
    ((r.destroyChild u p).child q).data = (r.child q).data := by
  rw [destroyChild_child]
  split <;> simp [*]

/-- The destruction of a child binds nothing. -/
theorem of_destroyChild_lookup {r : Registry δ} {w p q : ℕ}
    (hlookup : (r.destroyChild u p).map.lookup w = some q) : r.map.lookup w = some q := by
  by_cases hw : w = (r.child p).parentWindow
  · subst hw
    exact u.of_lookup hlookup
  · exact (u.lookup_ne r.map p hw).symm.trans hlookup

/-- The deletion of a child touches no window. -/
@[simp] theorem deferredDelete_window (r : Registry δ) (p : ℕ) :
    (r.deferredDelete u p).window = r.window := by
  unfold deferredDelete
  split <;> rfl

@[simp] theorem deferredDelete_windows (r : Registry δ) (p : ℕ) :
    (r.deferredDelete u p).windows = r.windows := by
  unfold deferredDelete
  split <;> rfl

/-- What holds of every registry. A live window is only bound to a live child of its own that is
not going to be deleted; a window that was destroyed may still be bound to a child it had. -/
structure Consistent (r : Registry δ) : Prop where
  alive_of_visible : ∀ w, (r.window w).visible = true → (r.window w).alive = true
  window_lt : ∀ w, (r.window w).alive = true → w < r.windows
  child_lt : ∀ p, (r.child p).alive = true → p < r.children
  parent_alive : ∀ p, (r.child p).alive = true → (r.window (r.child p).parentWindow).alive = true
  bound_lt : ∀ w p, r.map.lookup w = some p → w < r.windows ∧ p < r.children
  parentWindow : ∀ w p, r.map.lookup w = some p → (r.child p).parentWindow = w
  bound_alive : ∀ w p, r.map.lookup w = some p → (r.window w).alive = true →
    (r.child p).alive = true ∧ (r.child p).deleteLater = false

/-- Every binding is of a live window to a live child of its own. -/
def Sound (r : Registry δ) : Prop :=
  ∀ w p, r.map.lookup w = some p →
    (r.window w).alive = true ∧ (r.child p).alive = true ∧ (r.child p).parentWindow = w

/-- A window that is destroyed is visible, or it is not bound. -/
def UnboundWhenDestroyed (r : Registry δ) : WindowEvent → Prop
  | .destroyWindow w =>
    (r.window w).alive = true → (r.window w).visible = true ∨ r.map.lookup w = none
  | _ => True

/-- The event hides the window or destroys it. -/
def Closes (r : Registry δ) (w : ℕ) : WindowEvent → Prop
  | .hideWindow w' => w' = w ∧ (r.window w).visible = true
  | .destroyWindow w' => w' = w
  | _ => False

/-- A live child of a window is one of its children. -/
theorem Consistent.mem_childrenOf {r : Registry δ} (h : r.Consistent) {w p : ℕ} :
    p ∈ r.childrenOf w ↔ (r.child p).alive = true ∧ (r.child p).parentWindow = w := by
  have hlt := h.child_lt p
  simp only [childrenOf, List.mem_filter, List.mem_range, Bool.and_eq_true, decide_eq_true_eq]
  tauto

/-- A visible window that is hidden loses its binding. -/
theorem Consistent.hideWindow_lookup_self {r : Registry δ} (h : r.Consistent) {w : ℕ}
    (hvisible : (r.window w).visible = true) : (r.hideWindow u w).map.lookup w = none := by
  by_contra hsome
  obtain ⟨p, hp⟩ := Option.ne_none_iff_exists'.mp hsome
  have hbound := of_hideWindow_lookup u hp
  have hmem : p ∈ r.childrenOf w :=
    h.mem_childrenOf.mpr
      ⟨(h.bound_alive w p hbound (h.alive_of_visible w hvisible)).1, h.parentWindow w p hbound⟩
  have hnone := foldl_onHidden_lookup_self (r := r.setVisible w false) u hbound hmem
  rw [hideWindow, if_pos hvisible, hnone] at hp
  simp at hp

theorem initial_consistent : (initial d).Consistent where
  alive_of_visible _ hvisible := by simp [initial] at hvisible
  window_lt _ halive := by simp [initial] at halive
  child_lt _ halive := by simp [initial] at halive
  parent_alive _ halive := by simp [initial] at halive
  bound_lt _ _ hlookup := by simp [initial] at hlookup
  parentWindow _ _ hlookup := by simp [initial] at hlookup
  bound_alive _ _ hlookup := by simp [initial] at hlookup

theorem Consistent.createWindow {r : Registry δ} (h : r.Consistent) :
    r.createWindow.Consistent := by
  have hdead : (r.window r.windows).alive = false := by
    by_contra halive
    exact Nat.lt_irrefl _ (h.window_lt _ (Bool.not_eq_false _ ▸ halive))
  have hne {w p : ℕ} (hlookup : r.map.lookup w = some p) : w ≠ r.windows :=
    Nat.ne_of_lt (h.bound_lt w p hlookup).1
  constructor
  · intro w
    by_cases hw : w = r.windows
    · simp [Registry.createWindow, hw]
    · simpa [Registry.createWindow, hw] using h.alive_of_visible w
  · intro w halive
    by_cases hw : w = r.windows
    · simp [Registry.createWindow, hw]
    · simp only [Registry.createWindow, Function.update_of_ne hw] at halive
      exact Nat.lt_succ_of_lt (h.window_lt w halive)
  · exact h.child_lt
  · intro p halive
    have hparent := h.parent_alive p halive
    by_cases hw : (r.child p).parentWindow = r.windows
    · simp [Registry.createWindow, hw]
    · simpa [Registry.createWindow, hw] using hparent
  · intro w p hlookup
    obtain ⟨hw, hp⟩ := h.bound_lt w p hlookup
    exact ⟨Nat.lt_succ_of_lt hw, hp⟩
  · exact h.parentWindow
  · intro w p hlookup halive
    simp only [Registry.createWindow, Function.update_of_ne (hne hlookup)] at halive
    exact h.bound_alive w p hlookup halive

theorem Consistent.showWindow {r : Registry δ} (h : r.Consistent) (w : ℕ) :
    (r.showWindow w).Consistent := by
  constructor
  · intro w' hvisible
    rw [showWindow_alive]
    by_cases hw : w' = w
    · subst hw
      simp only [showWindow_window, Function.update_self, Bool.or_eq_true] at hvisible
      exact hvisible.elim id (h.alive_of_visible w')
    · simp only [showWindow_window, Function.update_of_ne hw] at hvisible
      exact h.alive_of_visible w' hvisible
  · intro w' halive
    rw [showWindow_windows]
    exact h.window_lt w' (showWindow_alive r w w' ▸ halive)
  · intro p halive
    rw [showWindow_children]
    exact h.child_lt p (by simpa using halive)
  · intro p halive
    rw [showWindow_alive, showWindow_child]
    exact h.parent_alive p (by simpa using halive)
  · intro w' p hlookup
    rw [showWindow_windows, showWindow_children]
    exact h.bound_lt w' p (by simpa using hlookup)
  · intro w' p hlookup
    rw [showWindow_child]
    exact h.parentWindow w' p (by simpa using hlookup)
  · intro w' p hlookup halive
    rw [showWindow_child]
    exact h.bound_alive w' p (by simpa using hlookup) (showWindow_alive r w w' ▸ halive)

theorem Consistent.get {r : Registry δ} (h : r.Consistent) {w : ℕ}
    (halive : (r.window w).alive = true) : (r.get d w).1.Consistent := by
  unfold Registry.get
  split
  · exact h
  · rename_i hnone
    constructor
    · exact h.alive_of_visible
    · exact h.window_lt
    · intro p halive'
      by_cases hp : p = r.children
      · simp [hp]
      · simp only [Function.update_of_ne hp] at halive'
        exact Nat.lt_succ_of_lt (h.child_lt p halive')
    · intro p halive'
      by_cases hp : p = r.children
      · simpa [hp] using halive
      · simp only [Function.update_of_ne hp] at halive' ⊢
        exact h.parent_alive p halive'
    · intro w' p hlookup
      by_cases hw : w' = w
      · subst hw
        rw [AList.lookup_insert] at hlookup
        cases hlookup
        exact ⟨h.window_lt w' halive, Nat.lt_succ_self _⟩
      · rw [AList.lookup_insert_ne hw] at hlookup
        obtain ⟨hlt, hlt'⟩ := h.bound_lt w' p hlookup
        exact ⟨hlt, Nat.lt_succ_of_lt hlt'⟩
    · intro w' p hlookup
      by_cases hw : w' = w
      · subst hw
        rw [AList.lookup_insert] at hlookup
        cases hlookup
        simp
      · rw [AList.lookup_insert_ne hw] at hlookup
        have hp := Nat.ne_of_lt (h.bound_lt w' p hlookup).2
        simpa [hp] using h.parentWindow w' p hlookup
    · intro w' p hlookup halive'
      by_cases hw : w' = w
      · subst hw
        rw [AList.lookup_insert] at hlookup
        cases hlookup
        simp
      · rw [AList.lookup_insert_ne hw] at hlookup
        have hp := Nat.ne_of_lt (h.bound_lt w' p hlookup).2
        simpa [hp] using h.bound_alive w' p hlookup halive'

theorem Consistent.hideWindow {r : Registry δ} (h : r.Consistent) (w : ℕ) :
    (r.hideWindow u w).Consistent := by
  have hsame := r.hideWindow_window_alive u w
  constructor
  · intro w' hvisible
    rw [hsame]
    by_cases hw : w' = w
    · simp [hw] at hvisible
    · simp only [hideWindow_window, Function.update_of_ne hw] at hvisible
      exact h.alive_of_visible w' hvisible
  · intro w' halive
    rw [hideWindow_windows]
    exact h.window_lt w' (hsame w' ▸ halive)
  · intro p halive
    rw [hideWindow_children]
    exact h.child_lt p (by simpa using halive)
  · intro p halive
    rw [hsame, hideWindow_parentWindow]
    exact h.parent_alive p (by simpa using halive)
  · intro w' p hlookup
    rw [hideWindow_windows, hideWindow_children]
    exact h.bound_lt w' p (of_hideWindow_lookup u hlookup)
  · intro w' p hlookup
    rw [hideWindow_parentWindow]
    exact h.parentWindow w' p (of_hideWindow_lookup u hlookup)
  · intro w' p hlookup halive
    have hbound := of_hideWindow_lookup u hlookup
    obtain ⟨hlive, hkept⟩ := h.bound_alive w' p hbound (hsame w' ▸ halive)
    have huntouched : ¬((r.window w).visible = true ∧ p ∈ r.childrenOf w) := by
      intro hboth
      obtain ⟨hvisible, hmem⟩ := hboth
      have hparent := (h.mem_childrenOf.mp hmem).2
      rw [h.parentWindow w' p hbound] at hparent
      rw [hparent, h.hideWindow_lookup_self u hvisible] at hlookup
      simp at hlookup
    rw [hideWindow_child, if_neg huntouched]
    exact ⟨hlive, hkept⟩

theorem Consistent.destroyWindow {r : Registry δ} (h : r.Consistent) (w : ℕ) :
    (r.destroyWindow u w).Consistent := by
  have hhidden := h.hideWindow u w
  constructor
  · intro w' hvisible
    rw [destroyWindow_window] at hvisible ⊢
    by_cases hw : w' = w
    · simp [hw] at hvisible
    · rw [Function.update_of_ne hw] at hvisible ⊢
      exact h.alive_of_visible w' hvisible
  · intro w' halive
    rw [destroyWindow_window] at halive
    rw [destroyWindow_windows]
    by_cases hw : w' = w
    · simp [hw] at halive
    · rw [Function.update_of_ne hw] at halive
      exact h.window_lt w' halive
  · intro p halive
    rw [destroyWindow_children]
    exact h.child_lt p ((destroyWindow_alive u).mp halive).2
  · intro p halive
    obtain ⟨hne, hlive⟩ := (destroyWindow_alive u).mp halive
    rw [destroyWindow_parentWindow, destroyWindow_window, Function.update_of_ne hne]
    exact h.parent_alive p hlive
  · exact hhidden.bound_lt
  · intro w' p hlookup
    rw [destroyWindow_parentWindow]
    exact h.parentWindow w' p (of_hideWindow_lookup u hlookup)
  · intro w' p hlookup halive
    rw [destroyWindow_window] at halive
    by_cases hw : w' = w
    · simp [hw] at halive
    · rw [Function.update_of_ne hw] at halive
      have hne : ((r.hideWindow u w).child p).parentWindow ≠ w := by
        rwa [hhidden.parentWindow w' p hlookup]
      dsimp only [Registry.destroyWindow]
      rw [if_neg hne]
      exact hhidden.bound_alive w' p hlookup ((hideWindow_window_alive u r w w').trans halive)

/-- A child that is destroyed has lost its window's binding, if that was to the child. -/
theorem Consistent.destroyChild {r : Registry δ} (h : r.Consistent) {p : ℕ} :
    (r.destroyChild u p).Consistent := by
  have halive {q : ℕ} (hlive : ((r.destroyChild u p).child q).alive = true) :
      (r.child q).alive = true := by
    rw [destroyChild_child] at hlive
    split at hlive
    · simp at hlive
    · exact hlive
  constructor
  · exact h.alive_of_visible
  · exact h.window_lt
  · intro q hlive
    exact h.child_lt q (halive hlive)
  · intro q hlive
    rw [destroyChild_parentWindow]
    exact h.parent_alive q (halive hlive)
  · intro w q hlookup
    exact h.bound_lt w q (of_destroyChild_lookup u hlookup)
  · intro w q hlookup
    rw [destroyChild_parentWindow]
    exact h.parentWindow w q (of_destroyChild_lookup u hlookup)
  · intro w q hlookup hlive
    have hbound := of_destroyChild_lookup u hlookup
    have hne : q ≠ p := by
      intro hsame
      subst hsame
      have hw := h.parentWindow w q hbound
      subst hw
      have hnone : (r.destroyChild u q).map.lookup (r.child q).parentWindow = none :=
        u.lookup_self hbound
      rw [hnone] at hlookup
      simp at hlookup
    rw [destroyChild_child, if_neg hne]
    exact h.bound_alive w q hbound hlive

/-- Bindings that are removed are not missed. -/
theorem Consistent.unbind {r : Registry δ} (h : r.Consistent) {map : Bindings}
    (hsub : ∀ w p, map.lookup w = some p → r.map.lookup w = some p) :
    ({ r with map := map } : Registry δ).Consistent where
  alive_of_visible := h.alive_of_visible
  window_lt := h.window_lt
  child_lt := h.child_lt
  parent_alive := h.parent_alive
  bound_lt w p hlookup := h.bound_lt w p (hsub w p hlookup)
  parentWindow w p hlookup := h.parentWindow w p (hsub w p hlookup)
  bound_alive w p hlookup := h.bound_alive w p (hsub w p hlookup)

theorem Consistent.deferredDelete {r : Registry δ} (h : r.Consistent) (p : ℕ) :
    (r.deferredDelete u p).Consistent := by
  unfold Registry.deferredDelete
  split
  · exact h.destroyChild u
  · exact h

/-- Every event keeps the registry consistent. -/
theorem Consistent.step {r : Registry δ} (h : r.Consistent) (e : WindowEvent) :
    (r.step u d e).Consistent := by
  cases e with
  | createWindow => exact h.createWindow
  | showWindow w => exact h.showWindow w
  | hideWindow w => exact h.hideWindow u w
  | destroyWindow w =>
    change (if _ then _ else _ : Registry δ).Consistent
    split
    · exact h.destroyWindow u w
    · exact h
  | get w =>
    change (if _ then _ else _ : Registry δ).Consistent
    split
    · rename_i halive
      exact h.get d halive
    · exact h
  | deferredDelete p => exact h.deferredDelete u p

/-- A registry is sound when no window that was destroyed is bound. -/
theorem Consistent.sound_iff {r : Registry δ} (h : r.Consistent) :
    r.Sound ↔ ∀ w p, r.map.lookup w = some p → (r.window w).alive = true := by
  constructor
  · intro hsound w p hlookup
    exact (hsound w p hlookup).1
  · intro halive w p hlookup
    exact ⟨halive w p hlookup, (h.bound_alive w p hlookup (halive w p hlookup)).1,
      h.parentWindow w p hlookup⟩

/-- Only its destruction ends the life of a window. -/
theorem Consistent.window_alive_step {r : Registry δ} (h : r.Consistent) {e : WindowEvent} {w : ℕ}
    (halive : (r.window w).alive = true) (hkept : e ≠ .destroyWindow w) :
    ((r.step u d e).window w).alive = true := by
  cases e with
  | createWindow =>
    have hne : w ≠ r.windows := Nat.ne_of_lt (h.window_lt w halive)
    simpa [Registry.step, Registry.createWindow, hne] using halive
  | showWindow w' => exact (showWindow_alive r w' w).trans halive
  | hideWindow w' => exact (hideWindow_window_alive u r w' w).trans halive
  | destroyWindow w' =>
    have hne : w ≠ w' := by
      intro hw
      exact hkept (by rw [hw])
    simp only [Registry.step]
    split
    · simpa [hne] using halive
    · exact halive
  | get w' =>
    simp only [Registry.step]
    split
    · simpa using halive
    · exact halive
  | deferredDelete p =>
    simp only [Registry.step, Registry.deferredDelete]
    split <;> exact halive

/-- The binding of a live window survives every event that does not close the window, unless
a child that is deleted takes it along. -/
theorem Consistent.lookup_step {r : Registry δ} (h : r.Consistent) {e : WindowEvent} {w p : ℕ}
    (hbound : r.map.lookup w = some p) (halive : (r.window w).alive = true)
    (hopen : ¬r.Closes w e)
    (hkept : ∀ q, e = .deferredDelete q → (r.child q).alive = true →
      (r.child q).deleteLater = true → (r.child q).parentWindow = w → q ≠ p →
      (u.unbind r.map w q).lookup w = some p) :
    (r.step u d e).map.lookup w = some p := by
  cases e with
  | createWindow => exact hbound
  | showWindow w' => simpa [Registry.step] using hbound
  | hideWindow w' =>
    by_cases hw : w = w'
    · subst hw
      have hhidden : ¬(r.window w).visible = true := fun hvisible => hopen ⟨rfl, hvisible⟩
      simpa [Registry.step, Registry.hideWindow, hhidden] using hbound
    · exact (hideWindow_lookup_ne u r hw).trans hbound
  | destroyWindow w' =>
    have hne : w ≠ w' := fun hw => hopen hw.symm
    simp only [Registry.step]
    split
    · exact (hideWindow_lookup_ne u r hne).trans hbound
    · exact hbound
  | get w' =>
    simp only [Registry.step]
    split
    · by_cases hw : w = w'
      · subst hw
        rw [get_of_lookup d hbound]
        exact hbound
      · exact (get_lookup_ne d r hw).trans hbound
    · exact hbound
  | deferredDelete q =>
    simp only [Registry.step, Registry.deferredDelete]
    split
    · rename_i hpending
      rw [Bool.and_eq_true] at hpending
      obtain ⟨hlive, hlater⟩ := hpending
      by_cases hparent : (r.child q).parentWindow = w
      · have hne : q ≠ p := by
          intro hsame
          have hnever := (h.bound_alive w p hbound halive).2
          rw [hsame, hnever] at hlater
          simp at hlater
        subst hparent
        exact hkept q rfl hlive hlater rfl hne
      · exact (u.lookup_ne _ _ (Ne.symm hparent)).trans hbound
    · exact hbound

/-- No event makes children fewer. -/
theorem children_le_step (r : Registry δ) (e : WindowEvent) :
    r.children ≤ (r.step u d e).children := by
  cases e with
  | createWindow => exact le_rfl
  | showWindow w => simp [step]
  | hideWindow w => simp [step]
  | destroyWindow w =>
    simp only [step]
    split <;> simp
  | get w =>
    simp only [step]
    split
    · unfold get
      split <;> simp
    · exact le_rfl
  | deferredDelete p =>
    simp only [step, deferredDelete]
    split <;> exact le_rfl

/-- A child stays with its window, and its data are its own. -/
theorem child_step (r : Registry δ) (e : WindowEvent) {p : ℕ} (hlt : p < r.children) :
    ((r.step u d e).child p).parentWindow = (r.child p).parentWindow ∧
      ((r.step u d e).child p).data = (r.child p).data := by
  cases e with
  | createWindow => exact ⟨rfl, rfl⟩
  | showWindow w => simp [step]
  | hideWindow w => simp [step]
  | destroyWindow w =>
    simp only [step]
    split <;> simp
  | get w =>
    simp only [step]
    split
    · rw [get_child d r w hlt]
      exact ⟨rfl, rfl⟩
    · exact ⟨rfl, rfl⟩
  | deferredDelete q =>
    simp only [step, deferredDelete]
    split <;> simp

theorem setData_child (r : Registry δ) (p q : ℕ) (data : δ) :
    (r.setData p data).child q = if q = p then { r.child p with data := data } else r.child q :=
  Function.update_apply _ _ _ _

@[simp] theorem setData_alive (r : Registry δ) (p q : ℕ) (data : δ) :
    ((r.setData p data).child q).alive = (r.child q).alive := by
  rw [setData_child]
  split <;> simp [*]

@[simp] theorem setData_parentWindow (r : Registry δ) (p q : ℕ) (data : δ) :
    ((r.setData p data).child q).parentWindow = (r.child q).parentWindow := by
  rw [setData_child]
  split <;> simp [*]

@[simp] theorem setData_deleteLater (r : Registry δ) (p q : ℕ) (data : δ) :
    ((r.setData p data).child q).deleteLater = (r.child q).deleteLater := by
  rw [setData_child]
  split <;> simp [*]

/-- The data of a child do not matter to the registry. -/
theorem Consistent.setData {r : Registry δ} (h : r.Consistent) (p : ℕ) (data : δ) :
    (r.setData p data).Consistent where
  alive_of_visible := h.alive_of_visible
  window_lt := h.window_lt
  child_lt q halive := h.child_lt q (by simpa using halive)
  parent_alive q halive := by
    rw [setData_parentWindow]
    exact h.parent_alive q (by simpa using halive)
  bound_lt := h.bound_lt
  parentWindow w q hlookup := by simpa using h.parentWindow w q hlookup
  bound_alive w q hlookup halive := by simpa using h.bound_alive w q hlookup halive

/-- Only `get` binds a window. -/
theorem of_step_lookup {r : Registry δ} {e : WindowEvent} {w p : ℕ}
    (hlookup : (r.step u d e).map.lookup w = some p) :
    r.map.lookup w = some p ∨ e = .get w ∧ (r.window w).alive = true := by
  cases e with
  | createWindow => exact .inl hlookup
  | showWindow w' => exact .inl (by simpa [step] using hlookup)
  | hideWindow w' => exact .inl (of_hideWindow_lookup u hlookup)
  | destroyWindow w' =>
    left
    simp only [step] at hlookup
    split at hlookup
    · exact of_hideWindow_lookup u hlookup
    · exact hlookup
  | get w' =>
    simp only [step] at hlookup
    split at hlookup
    · rename_i halive
      by_cases hw : w = w'
      · exact .inr ⟨by rw [hw], by rw [hw, halive]⟩
      · exact .inl ((get_lookup_ne d r hw).symm.trans hlookup)
    · exact .inl hlookup
  | deferredDelete q =>
    left
    simp only [step, deferredDelete] at hlookup
    split at hlookup
    · exact of_destroyChild_lookup u hlookup
    · exact hlookup

/-- A sound registry stays sound exactly when a window that is destroyed is visible or unbound. -/
theorem Consistent.sound_step_iff {r : Registry δ} (h : r.Consistent) (hsound : r.Sound)
    (e : WindowEvent) : (r.step u d e).Sound ↔ r.UnboundWhenDestroyed e := by
  rw [(h.step u d e).sound_iff]
  constructor
  · intro hlive
    cases e with
    | destroyWindow w =>
      intro halive
      by_contra hnot
      rw [not_or] at hnot
      obtain ⟨hhidden, hbound⟩ := hnot
      obtain ⟨p, hp⟩ := Option.ne_none_iff_exists'.mp hbound
      have hstale : (r.step u d (.destroyWindow w)).map.lookup w = some p := by
        simpa [Registry.step, Registry.destroyWindow, Registry.hideWindow, halive, hhidden] using hp
      have hdead := hlive w p hstale
      simp [Registry.step, Registry.destroyWindow, halive] at hdead
    | _ => trivial
  · intro hunbound w p hlookup
    obtain hbound | ⟨rfl, halive⟩ := of_step_lookup u d hlookup
    · have halive := (hsound w p hbound).1
      apply h.window_alive_step u d halive
      intro hdestroy
      subst hdestroy
      simp only [Registry.step, if_pos halive] at hlookup
      obtain hvisible | hnone := hunbound halive
      · have hnone : (r.destroyWindow u w).map.lookup w = none :=
          h.hideWindow_lookup_self u hvisible
        rw [hnone] at hlookup
        simp at hlookup
      · rw [hnone] at hbound
        simp at hbound
    · exact h.window_alive_step u d halive (by simp)

end Registry

end DdeTrayLoader.Qt
