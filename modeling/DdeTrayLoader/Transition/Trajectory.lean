import DdeTrayLoader.Transition.Run
import Mathlib.Algebra.BigOperators.Group.Finset.Basic
import Mathlib.Algebra.Order.BigOperators.Group.Finset
import Mathlib.Data.Set.Finite.Lattice
import Mathlib.Order.Interval.Finset.Nat

/-!
# Endless runs

An endless run is given by its start and a sequence of events. What happens in it only
finitely often is found by a measure that never grows from some step on, and that goes down
wherever it happens.
-/

namespace DdeTrayLoader.Transition

variable {σ ε : Type*} {step : σ → ε → σ}

/-- The state before the `n`-th event of an endless run. -/
def trajectory (step : σ → ε → σ) (s : σ) (es : ℕ → ε) : ℕ → σ
  | 0 => s
  | n + 1 => step (trajectory step s es n) (es n)

@[simp] theorem trajectory_succ (s : σ) (es : ℕ → ε) (n : ℕ) :
    trajectory step s es (n + 1) = step (trajectory step s es n) (es n) := rfl

/-- An endless run passes through the states its finite parts reach. -/
theorem trajectory_eq_run (s : σ) (es : ℕ → ε) (n : ℕ) :
    trajectory step s es n = run step s ((List.range n).map es) := by
  induction n with
  | zero => rfl
  | succ n ih => rw [trajectory_succ, ih, List.range_succ, List.map_append, List.map_singleton,
      run_concat]

/-- What a measure pays for, from some step on, happens only finitely often. -/
theorem finite_of_descent {p : ℕ → Prop} (m : ℕ → ℕ) (start : ℕ)
    (hkeeps : ∀ n, start ≤ n → m (n + 1) ≤ m n) (hpays : ∀ n, start ≤ n → p n → m (n + 1) < m n) :
    {n | p n}.Finite := by
  have hmono (start' : ℕ) (hstart : start ≤ start') (n : ℕ) (hle : start' ≤ n) :
      m n ≤ m start' := by
    induction hle with
    | refl => exact le_refl _
    | step hle ih => exact (hkeeps _ (hstart.trans hle)).trans ih
  have hfrom (k : ℕ) : ∀ start', start ≤ start' → m start' = k → {n | p n}.Finite := by
    induction k using Nat.strong_induction_on with
    | _ k ih =>
      intro start' hstart hk
      by_cases hlater : ∃ n, start' ≤ n ∧ p n
      · obtain ⟨n, hle, hn⟩ := hlater
        have hdown : m (n + 1) < k :=
          hk ▸ (hpays n (hstart.trans hle) hn).trans_le (hmono start' hstart n hle)
        exact ih _ hdown (n + 1) (hstart.trans (Nat.le_succ_of_le hle)) rfl
      · apply (Set.finite_Iio start').subset
        intro n hn
        by_contra hnot
        exact hlater ⟨n, Nat.le_of_not_lt hnot, hn⟩
  exact hfrom (m start) start le_rfl rfl

/-- What is counted against weights, finitely many of which are not zero, happens only finitely
often. -/
theorem finite_of_card_le_sum {p : ℕ → Prop} [DecidablePred p] (weight : ℕ → ℕ)
    (hweight : {n | weight n ≠ 0}.Finite)
    (hbound : ∀ n, ((Finset.range n).filter p).card ≤ ∑ i ∈ Finset.range n, weight i) :
    {n | p n}.Finite := by
  by_contra hinfinite
  obtain ⟨picked, hpicked, hcard⟩ := Set.Infinite.exists_subset_card_eq hinfinite
    ((∑ i ∈ hweight.toFinset, weight i) + 1)
  have hbelow : picked ⊆ (Finset.range (picked.sup id + 1)).filter p := by
    intro n hn
    rw [Finset.mem_filter, Finset.mem_range]
    exact ⟨Nat.lt_succ_of_le (Finset.le_sup (f := id) hn), hpicked hn⟩
  have hsum : ∑ i ∈ Finset.range (picked.sup id + 1), weight i ≤
      ∑ i ∈ hweight.toFinset, weight i := by
    rw [← Finset.sum_filter_ne_zero]
    apply Finset.sum_le_sum_of_subset
    intro i hi
    exact hweight.mem_toFinset.mpr (Finset.mem_filter.mp hi).2
  have hcount := (Finset.card_le_card hbelow).trans ((hbound _).trans hsum)
  omega

end DdeTrayLoader.Transition
