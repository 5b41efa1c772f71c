import Mathlib.Data.List.InsertIdx
import Mathlib.Data.List.Nodup
import Mathlib.Data.List.Perm.Basic

/-!
# Lists in which some elements come before others

`Precedes p q l` says that every element of `l` with `p` comes before every element with `q`. The
rules below say what keeps it, for the ways in which an element gets into a list and out of it.
-/

namespace DdeTrayLoader.Lists

variable {α : Type*} {p q p' q' : α → Prop} {l l' : List α} {a : α}

/-- Every element with `p` comes before every element with `q`. -/
def Precedes (p q : α → Prop) (l : List α) : Prop := l.Pairwise fun a b => p b → ¬q a

@[simp] theorem precedes_nil : Precedes p q [] := List.Pairwise.nil

theorem Precedes.sublist (h : Precedes p q l') (hsub : l.Sublist l') : Precedes p q l :=
  List.Pairwise.sublist hsub h

/-- Fewer elements that have to come first or last are easier to order. -/
theorem Precedes.imp (h : Precedes p q l) (hp : ∀ a ∈ l, p' a → p a) (hq : ∀ a ∈ l, q' a → q a) :
    Precedes p' q' l := by
  apply List.Pairwise.imp_of_mem _ h
  intro a b ha hb hbefore hlate hearly
  exact hbefore (hp b hb hlate) (hq a ha hearly)

/-- In front goes what does not have to come last. -/
theorem Precedes.cons (h : Precedes p q l) (ha : ¬q a) : Precedes p q (a :: l) :=
  List.pairwise_cons.mpr ⟨fun _ _ _ => ha, h⟩

/-- At the end goes what does not have to come first, or what nothing has to come after. -/
theorem precedes_concat :
    Precedes p q (l ++ [a]) ↔ Precedes p q l ∧ (p a → ∀ b ∈ l, ¬q b) := by
  unfold Precedes
  rw [List.pairwise_append]
  simp only [List.pairwise_singleton, List.mem_singleton, true_and, forall_eq]
  constructor
  · intro hboth
    exact ⟨hboth.1, fun ha b hb => hboth.2 b hb ha⟩
  · intro hboth
    exact ⟨hboth.1, fun b hb ha => hboth.2 ha b hb⟩

/-- An element within the list has what is before it and what is after it. -/
theorem insertIdx_eq_take_drop {n : ℕ} (hn : n ≤ l.length) (a : α) :
    l.insertIdx n a = l.take n ++ a :: l.drop n := by
  induction n generalizing l with
  | zero => simp
  | succ n ih =>
    cases l with
    | nil => simp at hn
    | cons b l => simp [List.insertIdx_succ_cons, ih (Nat.le_of_succ_le_succ hn)]

/-- An element that has to come last goes where no element after it has to come first. -/
theorem precedes_insertIdx {n : ℕ} (hn : n ≤ l.length) (hp : ¬p a) (hq : q a) :
    Precedes p q (l.insertIdx n a) ↔ Precedes p q l ∧ ∀ b ∈ l.drop n, ¬p b := by
  have hsplit : Precedes p q l ↔ Precedes p q (l.take n ++ l.drop n) := by
    rw [List.take_append_drop]
  rw [hsplit, insertIdx_eq_take_drop hn]
  unfold Precedes
  rw [List.pairwise_append, List.pairwise_append, List.pairwise_cons]
  simp only [List.mem_cons, forall_eq_or_imp, hp, hq, not_true, false_imp_iff, true_and,
    imp_false]
  tauto

/-- The elements with `p` are the first ones when, from their number on, there are none. -/
theorem forall_drop_countP [DecidablePred p] :
    (∀ b ∈ l.drop (l.countP fun b => p b), ¬p b) ↔ l.Pairwise fun a b => p b → p a := by
  induction l with
  | nil => simp
  | cons a l ih =>
    rw [List.pairwise_cons]
    by_cases ha : p a
    · rw [List.countP_cons_of_pos (by simpa using ha), List.drop_succ_cons, ih]
      simp [ha]
    · rw [List.countP_cons_of_neg (by simpa using ha)]
      constructor
      · intro hdrop
        have hzero : l.countP (fun b => p b) = 0 := by
          by_contra hcount
          obtain ⟨n, hn⟩ := Nat.exists_eq_succ_of_ne_zero hcount
          rw [hn, List.drop_succ_cons] at hdrop
          have hrest : (l.drop n).countP (fun b => p b) = 0 :=
            List.countP_eq_zero.mpr fun b hb => by simpa using hdrop b hb
          have hfirst := List.countP_le_length (p := fun b => decide (p b)) (l := l.take n)
          have hsplit : (l.take n ++ l.drop n).countP (fun b => p b) =
              l.countP fun b => p b := by rw [List.take_append_drop]
          rw [List.countP_append] at hsplit
          rw [List.length_take] at hfirst
          omega
        have hnone : ∀ b ∈ l, ¬p b := fun b hb => by simpa using List.countP_eq_zero.mp hzero b hb
        refine ⟨fun b hb hpb => absurd hpb (hnone b hb), ?_⟩
        exact List.pairwise_of_forall_mem_list fun b _ c hc hpc => absurd hpc (hnone c hc)
      · intro hboth b hb hpb
        obtain rfl | hmem := List.mem_cons.mp (List.mem_of_mem_drop hb)
        · exact ha hpb
        · exact ha (hboth.1 b hmem hpb)

/-- A list without the element is what is left when it is taken out again. -/
theorem erase_insertIdx [DecidableEq α] {n : ℕ} (hn : n ≤ l.length) (ha : a ∉ l) :
    (l.insertIdx n a).erase a = l := by
  have hnot : a ∉ l.take n := fun hmem => ha (List.mem_of_mem_take hmem)
  rw [insertIdx_eq_take_drop hn, List.erase_append_right _ hnot, List.erase_cons_head,
    List.take_append_drop]

end DdeTrayLoader.Lists
