import DdeTrayLoader.Qt.Bindings

/-!
# The registry of `PluginPopup`

`PluginPopup` binds windows as `EmbedPlugin` does, and `PluginPopup::remove` takes a binding back.
Its callbacks remove whatever the window is bound to, though. A popup that is deleted late,
when a newer one is bound to its window, takes the newer one's binding with it.
-/

namespace DdeTrayLoader.Plugin

open Transition Qt

namespace PluginPopup

/-- `s_popupMap`, with the windows and the popups, whose data no callback reads. -/
abbrev SPopupMap := Registry Unit

/-- The callbacks of a `PluginPopup`, for its window's `visibleChanged` and its own `destroyed`. -/
def callbacks : Unbinding where
  unbind map window _ := map.erase window
  lookup_ne _ _ _ _ hne := AList.lookup_erase_ne hne
  lookup_self _ := AList.lookup_erase _ _
  of_lookup hlookup := by simp at hlookup

/-- What happens to windows and popups. -/
inductive PopupEvent where
  | window (e : WindowEvent)
  | remove (w : ℕ)
  deriving DecidableEq, Repr

/-- `PluginPopup::remove`. -/
def remove (r : SPopupMap) (w : ℕ) : SPopupMap :=
  match r.map.lookup w with
  | some popup =>
    let r := { r with map := r.map.erase w }
    let r := r.hideWindow callbacks w
    r.destroyChild callbacks popup
  | none => r

def initial : SPopupMap := Registry.initial ()

def step (r : SPopupMap) : PopupEvent → SPopupMap
  | .window e => r.step callbacks () e
  | .remove w => if (r.window w).alive then remove r w else r

/-- The event hides the window, removes its binding or destroys the popup. -/
def Ends (r : SPopupMap) (w p : ℕ) : PopupEvent → Prop
  | .window (.hideWindow w') => w' = w ∧ (r.window w).visible = true
  | .window (.destroyWindow w') => w' = w
  | .window (.deferredDelete p') => p' = p
  | .remove w' => w' = w
  | _ => False

/-- Windows stay bound to their live popups, except where the event ends that. -/
def KeepsBindings (r : SPopupMap) (e : PopupEvent) : Prop :=
  ∀ w p, r.map.lookup w = some p → (r.child p).alive = true → ¬Ends r w p e →
    (step r e).map.lookup w = some p

/-- No deferred deletion takes place while the window of the popup is bound to another one. -/
def DiesUnreplaced (r : SPopupMap) : PopupEvent → Prop
  | .window (.deferredDelete p) => (r.child p).alive = true → (r.child p).deleteLater = true →
      ∀ q, r.map.lookup (r.child p).parentWindow = some q → q = p
  | _ => True

/-- Every event keeps the registry consistent. -/
theorem step_consistent {r : SPopupMap} (h : r.Consistent) (e : PopupEvent) :
    (step r e).Consistent := by
  cases e with
  | window e => exact h.step callbacks () e
  | remove w =>
    simp only [step, remove]
    split
    · split
      · have herased : ({ r with map := r.map.erase w } : SPopupMap).Consistent := by
          apply h.unbind
          intro w' p hlookup
          by_cases hw : w' = w
          · subst hw
            simp at hlookup
          · rwa [AList.lookup_erase_ne hw] at hlookup
        exact (herased.hideWindow callbacks w).destroyChild callbacks
      · exact h
    · exact h

/-- The binding of a window survives every event that does not end it, unless it is the late
deletion of another popup of the window. -/
theorem lookup_step {r : SPopupMap} (h : r.Consistent) {e : PopupEvent} {w p : ℕ}
    (hbound : r.map.lookup w = some p) (halive : (r.child p).alive = true)
    (hends : ¬Ends r w p e) (hdies : DiesUnreplaced r e) :
    (step r e).map.lookup w = some p := by
  have hparent := h.parentWindow w p hbound
  cases e with
  | window e =>
    have hwindow : (r.window w).alive = true := hparent ▸ h.parent_alive p halive
    apply h.lookup_step callbacks () hbound hwindow
    · intro hcloses
      cases e with
      | hideWindow w' => exact hends hcloses
      | destroyWindow w' => exact hends hcloses
      | _ => exact hcloses
    · intro q he hlive hlater hchild hne
      subst he
      rw [← hchild] at hbound
      exact absurd (hdies hlive hlater p hbound).symm hne
  | remove w' =>
    have hne : w ≠ w' := fun hw => hends hw.symm
    simp only [step, remove]
    split
    · split
      · rename_i popup hpopup
        have hother : w ≠ (r.child popup).parentWindow := by
          rwa [h.parentWindow w' popup hpopup]
        have herase : (r.map.erase w').lookup w = some p :=
          (AList.lookup_erase_ne hne).trans hbound
        simp only [Registry.destroyChild, Registry.modify, Registry.hideWindow_parentWindow]
        rw [callbacks.lookup_ne _ _ hother, Registry.hideWindow_lookup_ne _ _ hne]
        exact herase
      · exact hbound
    · exact hbound

/-- A step keeps the bindings exactly when it is no late deletion of a popup that was replaced. -/
theorem keepsBindings_iff {r : SPopupMap} (h : r.Consistent) (e : PopupEvent) :
    KeepsBindings r e ↔ DiesUnreplaced r e := by
  constructor
  · intro hkeeps
    cases e with
    | remove w => trivial
    | window e =>
      cases e with
      | deferredDelete p =>
        intro halive hlater q hbound
        by_contra hne
        have hlive := (h.bound_alive _ q hbound (h.parent_alive p halive)).1
        have hkept := hkeeps _ q hbound hlive (Ne.symm hne)
        simp [step, Registry.step, Registry.deferredDelete, halive, hlater, Registry.destroyChild,
          Registry.modify, callbacks] at hkept
      | _ => trivial
  · intro hdies w p hbound halive hends
    exact lookup_step h hbound halive hends hdies

/-- Throughout a run, windows stay bound to their live popups until they are hidden or removed,
exactly when no popup is deleted late while its window is bound to another one. -/
theorem keepsBindings_iff_diesUnreplaced (es : List PopupEvent) :
    Obeys step KeepsBindings initial es ↔ Obeys step DiesUnreplaced initial es :=
  obeys_congr (fun _ e h => step_consistent h e) (fun _ e h => keepsBindings_iff h e) es
    (Registry.initial_consistent ())

/-- A window is hidden, bound anew and shown again before its first popup is deleted. -/
theorem not_keepsBindings :
    ¬Obeys step KeepsBindings initial [.window .createWindow, .window (.get 0),
      .window (.showWindow 0), .window (.hideWindow 0), .window (.get 0),
      .window (.showWindow 0), .window (.deferredDelete 0)] := by
  intro hkeeps
  obtain ⟨-, -, -, -, -, -, hlast, -⟩ := hkeeps
  have hkept := hlast 0 1 (by decide) (by decide) (by simp [Ends])
  exact absurd hkept (by decide)

end PluginPopup

end DdeTrayLoader.Plugin
