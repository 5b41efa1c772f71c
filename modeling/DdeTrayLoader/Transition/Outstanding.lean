import DdeTrayLoader.Transition.Run
import Mathlib.Data.List.Perm.Basic

/-!
# Requests that are answered in any order

Each request is answered at once or stays outstanding, and outstanding ones are answered one by
one, in any order. The answers are kept with their requests, in the order in which they came.

Every request is then answered once, or is still outstanding.
-/

namespace DdeTrayLoader.Transition

variable {σ ε κ α : Type*}

/-- The requests that are outstanding, oldest first, and those that were answered, with their
answers, in the order of the answers. -/
structure Outstanding (κ α : Type*) where
  pending : List κ
  answered : List (κ × α)

namespace Outstanding

def none : Outstanding κ α := ⟨[], []⟩

/-- A request that waits for its answer. -/
def wait (s : Outstanding κ α) (k : κ) : Outstanding κ α := { s with pending := s.pending ++ [k] }

/-- A request that is answered at once. -/
def answerNow (s : Outstanding κ α) (k : κ) (a : α) : Outstanding κ α :=
  { s with answered := s.answered ++ [(k, a)] }

/-- The answer of the `i`-th outstanding request. -/
def answer (s : Outstanding κ α) (i : ℕ) (a : α) : Outstanding κ α :=
  match s.pending[i]? with
  | .none => s
  | some k => { pending := s.pending.eraseIdx i, answered := s.answered ++ [(k, a)] }

theorem answer_of_get {s : Outstanding κ α} {i : ℕ} {k : κ} (h : s.pending[i]? = some k) (a : α) :
    s.answer i a = { pending := s.pending.eraseIdx i, answered := s.answered ++ [(k, a)] } := by
  unfold answer
  rw [h]

theorem answer_of_none {s : Outstanding κ α} {i : ℕ} (h : s.pending[i]? = .none) (a : α) :
    s.answer i a = s := by
  unfold answer
  rw [h]

/-- The requests made so far are those that were answered and those that are outstanding. -/
def Accounts (requested : List κ) (s : Outstanding κ α) : Prop :=
  (s.answered.map Prod.fst ++ s.pending).Perm requested

section
variable {requested : List κ} {s : Outstanding κ α}

theorem accounts_none : Accounts [] (none : Outstanding κ α) := .refl []

theorem Accounts.wait (h : Accounts requested s) (k : κ) :
    Accounts (requested ++ [k]) (s.wait k) := by
  change (s.answered.map Prod.fst ++ (s.pending ++ [k])).Perm _
  rw [← List.append_assoc]
  exact List.Perm.append_right [k] h

theorem Accounts.answerNow (h : Accounts requested s) (k : κ) (a : α) :
    Accounts (requested ++ [k]) (s.answerNow k a) := by
  change ((s.answered ++ [(k, a)]).map Prod.fst ++ s.pending).Perm _
  rw [List.map_append, List.append_assoc]
  have hswap : ([k] ++ s.pending).Perm (s.pending ++ [k]) := List.perm_append_comm
  refine (hswap.append_left _).trans ?_
  rw [← List.append_assoc]
  exact List.Perm.append_right [k] h

theorem Accounts.answer (h : Accounts requested s) (i : ℕ) (a : α) :
    Accounts requested (s.answer i a) := by
  cases hget : s.pending[i]? with
  | none =>
    rw [answer_of_none hget]
    exact h
  | some k =>
    obtain ⟨hlt, hk⟩ := List.getElem?_eq_some_iff.mp hget
    have htaken : (k :: s.pending.eraseIdx i).Perm s.pending :=
      hk ▸ List.getElem_cons_eraseIdx_perm hlt
    rw [answer_of_get hget]
    change ((s.answered ++ [(k, a)]).map Prod.fst ++ s.pending.eraseIdx i).Perm requested
    rw [List.map_append, List.append_assoc]
    exact (htaken.append_left _).trans h

end

end Outstanding

/-! ## The requests of a run -/

/-- What the steps of a run ask for, in order. -/
def asked (step : σ → ε → σ) (request : σ → ε → Option κ) : σ → List ε → List κ
  | _, [] => []
  | s, e :: es => (request s e).toList ++ asked step request (step s e) es

/-- When each step accounts for what it asks for, a run accounts for all that its steps ask for. -/
theorem run_asked {step : σ → ε → σ} {request : σ → ε → Option κ} {I : List κ → σ → Prop}
    (hstep : ∀ requested s e, I requested s → I (requested ++ (request s e).toList) (step s e))
    {requested : List κ} {s : σ} (es : List ε) (hs : I requested s) :
    I (requested ++ asked step request s es) (run step s es) := by
  induction es generalizing requested s with
  | nil => exact (List.append_nil requested).symm ▸ hs
  | cons e es ih =>
    have hrest := ih (hstep requested s e hs)
    rw [List.append_assoc] at hrest
    exact hrest

end DdeTrayLoader.Transition
