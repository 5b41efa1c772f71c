import Mathlib.Data.List.Perm.Basic
import Mathlib.Data.List.Nodup

/-!
# The classes of a list

Every element of a list belongs to one class. The members of the classes, each class in the order
of the list, are together the elements of the list.
-/

namespace DdeTrayLoader.Lists

variable {α β : Type*} [DecidableEq β]

/-- The members of the classes are the elements of the list. -/
theorem flatMap_filter_perm (f : α → β) {classes : List β} (hclasses : classes.Nodup) {l : List α}
    (hl : ∀ a ∈ l, f a ∈ classes) :
    (classes.flatMap fun b => l.filter fun a => b = f a).Perm l := by
  induction classes generalizing l with
  | nil =>
    cases l with
    | nil => exact .refl []
    | cons a l => exact absurd (hl a List.mem_cons_self) List.not_mem_nil
  | cons b classes ih =>
    obtain ⟨hb, hrest⟩ := List.nodup_cons.mp hclasses
    have hothers : (classes.flatMap fun b' => l.filter fun a => b' = f a) =
        classes.flatMap fun b' =>
          (l.filter fun a => !decide (b = f a)).filter fun a => b' = f a := by
      refine List.flatMap_congr fun b' hb' => ?_
      rw [List.filter_filter]
      refine List.filter_congr fun a _ => ?_
      by_cases hclass : b' = f a
      · have hne : b ≠ f a := fun heq => hb (heq.trans hclass.symm ▸ hb')
        rw [decide_eq_true hclass, decide_eq_false hne]
        rfl
      · rw [decide_eq_false hclass]
        rfl
    have hperm := ih hrest (l := l.filter fun a => !decide (b = f a)) (by
      intro a ha
      obtain ⟨hmem, hne⟩ := List.mem_filter.mp ha
      rcases List.mem_cons.mp (hl a hmem) with heq | hin
      · rw [decide_eq_true heq.symm] at hne
        contradiction
      · exact hin)
    rw [List.flatMap_cons, hothers]
    exact (hperm.append_left _).trans (List.filter_append_perm (fun a => decide (b = f a)) l)

end DdeTrayLoader.Lists
