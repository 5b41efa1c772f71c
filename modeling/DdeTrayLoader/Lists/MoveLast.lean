import Mathlib.Data.List.Nodup

/-!
# Moving entries to the end

Each entry of a list of distinct entries is moved to the end of another list, one after the
other. They end up last, in their own order, after what is in the way of none of them.
-/

namespace DdeTrayLoader.Lists

variable {α β : Type*} [DecidableEq α] [DecidableEq β]

/-- The entry becomes the last one. -/
def moveLast (l : List α) (x : α) : List α := l.filter (· ≠ x) ++ [x]

theorem mem_moveLast {l : List α} {x y : α} : y ∈ moveLast l x ↔ y = x ∨ y ∈ l := by
  unfold moveLast
  rw [List.mem_append, List.mem_filter, List.mem_singleton, decide_eq_true_iff, or_comm]
  constructor
  · exact Or.imp_right And.left
  · intro hcase
    by_cases hy : y = x
    · exact .inl hy
    · exact .inr ⟨hcase.resolve_left hy, hy⟩

theorem nodup_moveLast {l : List α} (h : l.Nodup) (x : α) : (moveLast l x).Nodup := by
  refine List.Nodup.append (h.filter _) (List.nodup_singleton x) ?_
  intro y hy hx
  rw [List.mem_filter, decide_eq_true_iff] at hy
  exact hy.2 (List.mem_singleton.mp hx)

/-- What is left of the list, followed by the entries that were moved. -/
theorem foldl_moveLast (l : List α) {xs : List α} (hxs : xs.Nodup) :
    xs.foldl moveLast l = l.filter (· ∉ xs) ++ xs := by
  induction xs generalizing l with
  | nil => simp
  | cons x xs ih =>
    obtain ⟨hx, hxs⟩ := List.nodup_cons.mp hxs
    rw [List.foldl_cons, ih _ hxs, moveLast, List.filter_append, List.filter_filter]
    have hlast : [x].filter (· ∉ xs) = [x] := by
      rw [List.filter_cons_of_pos (by simpa using hx), List.filter_nil]
    rw [hlast, List.append_assoc, List.singleton_append]
    congr 1
    refine List.filter_congr fun y _ => ?_
    simp only [List.mem_cons, not_or, Bool.decide_and]
    exact Bool.and_comm _ _

/-- Entries that are all moved leave nothing before them. -/
theorem foldl_moveLast_of_subset {l xs : List α} (hxs : xs.Nodup) (hl : ∀ x ∈ l, x ∈ xs) :
    xs.foldl moveLast l = xs := by
  rw [foldl_moveLast l hxs, List.filter_eq_nil_iff.mpr, List.nil_append]
  intro x hx
  simpa using hl x hx

/-- Moving an entry moves its image, when nothing else has that image. -/
theorem filterMap_moveLast {f : α → Option β} {l : List α} {x : α} {y : β} (hx : f x = some y)
    (hinj : ∀ x' ∈ l, f x' = some y → x' = x) :
    (moveLast l x).filterMap f = moveLast (l.filterMap f) y := by
  unfold moveLast
  rw [List.filterMap_append, List.filterMap_cons_some hx, List.filterMap_nil]
  congr 1
  induction l with
  | nil => rfl
  | cons x' l ih =>
    have hrest := ih fun x'' hx'' => hinj x'' (List.mem_cons_of_mem _ hx'')
    by_cases heq : x' = x
    · subst heq
      rw [List.filter_cons_of_neg (by simp), List.filterMap_cons_some hx,
        List.filter_cons_of_neg (by simp), hrest]
    · rw [List.filter_cons_of_pos (by simpa using heq)]
      cases hx' : f x' with
      | none => rw [List.filterMap_cons_none hx', List.filterMap_cons_none hx', hrest]
      | some y' =>
        have hne : y' ≠ y := by
          rintro rfl
          exact heq (hinj x' List.mem_cons_self hx')
        rw [List.filterMap_cons_some hx', List.filterMap_cons_some hx',
          List.filter_cons_of_pos (by simpa using hne), hrest]

end DdeTrayLoader.Lists
