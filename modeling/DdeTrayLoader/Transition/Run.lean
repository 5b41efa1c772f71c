import Mathlib.Order.Monotone.Basic
import Mathlib.Data.List.Basic

/-!
# Runs of a machine driven by events

A machine is a step function `σ → ε → σ`. Every choice its environment can make is part
of the event, so a run is determined by its start and its list of events; an event that
cannot occur in a state leaves that state unchanged.

`Always` says what holds in every state a run visits, and `Obeys` what holds at each of
its steps. The rules below pass from one step to the whole run.
-/

namespace DdeTrayLoader.Transition

variable {σ ε α : Type*}

/-- The state reached from `s` by handling the events in order. -/
def run (step : σ → ε → σ) (s : σ) (es : List ε) : σ :=
  es.foldl step s

/-- `P` holds in every state of the run, its first and its last included. -/
def Always (step : σ → ε → σ) (P : σ → Prop) : σ → List ε → Prop
  | s, [] => P s
  | s, e :: es => P s ∧ Always step P (step s e) es

/-- Every step of the run meets `C`, a condition on the state before it and its event. -/
def Obeys (step : σ → ε → σ) (C : σ → ε → Prop) : σ → List ε → Prop
  | _, [] => True
  | s, e :: es => C s e ∧ Obeys step C (step s e) es

/-- The number of steps of the run that `f` picks. -/
def tally (step : σ → ε → σ) (f : σ → ε → Bool) : σ → List ε → ℕ
  | _, [] => 0
  | s, e :: es => (if f s e then 1 else 0) + tally step f (step s e) es

variable {step : σ → ε → σ} {I P : σ → Prop} {C : σ → ε → Prop}

/-- The empty run stays where it is. -/
@[simp] theorem run_nil (s : σ) : run step s [] = s := rfl

/-- A run takes its first event and continues from there. -/
@[simp] theorem run_cons (s : σ) (e : ε) (es : List ε) :
    run step s (e :: es) = run step (step s e) es := rfl

/-- Two runs in a row are one run over both lists of events. -/
theorem run_append (s : σ) (es es' : List ε) :
    run step s (es ++ es') = run step (run step s es) es' := List.foldl_append

/-- The last event of a run is a step from the state the others reach. -/
theorem run_concat (s : σ) (es : List ε) (e : ε) :
    run step s (es ++ [e]) = step (run step s es) e := by
  rw [run_append, run_cons, run_nil]

/-- What holds throughout a run holds where it starts. -/
theorem Always.head {s : σ} {es : List ε} (h : Always step P s es) : P s := by
  cases es with
  | nil => exact h
  | cons e es => exact h.1

/-- What holds throughout a run holds where it ends. -/
theorem Always.last {s : σ} {es : List ε} (h : Always step P s es) : P (run step s es) := by
  induction es generalizing s with
  | nil => exact h
  | cons e es ih => exact ih h.2

/-- One more event adds one more state. -/
theorem Always.concat {s : σ} {es : List ε} (h : Always step P s es) {e : ε}
    (he : P (step (run step s es) e)) : Always step P s (es ++ [e]) := by
  induction es generalizing s with
  | nil => exact ⟨h, he⟩
  | cons e' es ih => exact ⟨h.1, ih h.2 he⟩

/-- Two conditions met at every step are met together. -/
theorem Obeys.and {C' : σ → ε → Prop} {s : σ} {es : List ε} (h : Obeys step C s es)
    (h' : Obeys step C' s es) : Obeys step (fun s e => C s e ∧ C' s e) s es := by
  induction es generalizing s with
  | nil => trivial
  | cons e es ih => exact ⟨⟨h.1, h'.1⟩, ih h.2 h'.2⟩

theorem Obeys.append {s : σ} {es es' : List ε} (h : Obeys step C s es)
    (h' : Obeys step C (run step s es) es') : Obeys step C s (es ++ es') := by
  induction es generalizing s with
  | nil => exact h'
  | cons e es ih => exact ⟨h.1, ih h.2 h'⟩

/-- An invariant of every step that meets `C` survives every run whose steps meet `C`. -/
theorem run_invariant_of_obeys (hstep : ∀ s e, I s → C s e → I (step s e))
    {s : σ} {es : List ε} (hs : I s) (hes : Obeys step C s es) : I (run step s es) := by
  induction es generalizing s with
  | nil => exact hs
  | cons e es ih => exact ih (hstep s e hs hes.1) hes.2

/-- An invariant of the steps over the events of a list survives the run over it. -/
theorem run_invariant_of_mem {s : σ} {es : List ε} (hstep : ∀ e ∈ es, ∀ s, I s → I (step s e))
    (hs : I s) : I (run step s es) := by
  induction es generalizing s with
  | nil => exact hs
  | cons e es ih =>
    exact ih (fun e' he' => hstep e' (List.mem_cons_of_mem _ he'))
      (hstep e List.mem_cons_self s hs)

/-- An invariant of every step survives every run. -/
theorem run_invariant (hstep : ∀ s e, I s → I (step s e)) {s : σ} (es : List ε) (hs : I s) :
    I (run step s es) :=
  run_invariant_of_mem (fun e _ s => hstep s e) hs

/-- A measure that no step from an invariant state lowers is not lowered by a run. -/
theorem run_monotone [Preorder α] (f : σ → α) (hI : ∀ s e, I s → I (step s e))
    (hf : ∀ s e, I s → f s ≤ f (step s e)) {s : σ} (es : List ε) (hs : I s) :
    f s ≤ f (run step s es) := by
  induction es generalizing s with
  | nil => exact le_refl _
  | cons e es ih => exact (hf s e hs).trans (ih (hI s e hs))

/-- A measure that grows by one at the steps `f` picks, and at no others, counts them. -/
theorem run_tally {f : σ → ε → Bool} (m : σ → ℕ) (hI : ∀ s e, I s → C s e → I (step s e))
    (hm : ∀ s e, I s → C s e → m (step s e) = m s + if f s e then 1 else 0)
    {s : σ} {es : List ε} (hs : I s) (hes : Obeys step C s es) :
    m (run step s es) = m s + tally step f s es := by
  induction es generalizing s with
  | nil => rfl
  | cons e es ih =>
    rw [run_cons, ih (hI s e hs hes.1) hes.2, hm s e hs hes.1, tally, Nat.add_assoc]

/-- A run whose steps are never picked has picked none. -/
theorem tally_eq_zero {f : σ → ε → Bool} (hI : ∀ s e, I s → C s e → I (step s e))
    (hf : ∀ s e, I s → C s e → f s e = false) {s : σ} {es : List ε} (hs : I s)
    (hes : Obeys step C s es) : tally step f s es = 0 := by
  induction es generalizing s with
  | nil => rfl
  | cons e es ih =>
    rw [tally, hf s e hs hes.1, ih (hI s e hs hes.1) hes.2]
    rfl

/-- When, from invariant states where `P` holds, a step keeps `P` exactly if it meets `C`,
a run keeps `P` throughout exactly if all its steps meet `C`. -/
theorem always_iff_obeys (hI : ∀ s e, I s → I (step s e))
    (hP : ∀ s e, I s → P s → (P (step s e) ↔ C s e)) {s : σ} (es : List ε)
    (hs : I s) (hPs : P s) : Always step P s es ↔ Obeys step C s es := by
  induction es generalizing s with
  | nil => exact ⟨fun _ => trivial, fun _ => hPs⟩
  | cons e es ih =>
    simp only [Always, Obeys]
    constructor
    · intro hboth
      obtain ⟨-, htail⟩ := hboth
      have hnext : P (step s e) := htail.head
      exact ⟨(hP s e hs hPs).mp hnext, (ih (hI s e hs) hnext).mp htail⟩
    · intro hboth
      obtain ⟨hC, hes⟩ := hboth
      have hnext := (hP s e hs hPs).mpr hC
      exact ⟨hPs, (ih (hI s e hs) hnext).mpr hes⟩

/-- When, from invariant states where `P` holds, a step keeps `P` and meets `Q` exactly if it
meets `C`, a run keeps `P` and meets `Q` throughout exactly if all its steps meet `C`. -/
theorem always_and_obeys_iff {Q : σ → ε → Prop} (hI : ∀ s e, I s → I (step s e))
    (hP : ∀ s e, I s → P s → (P (step s e) ∧ Q s e ↔ C s e)) {s : σ} (es : List ε)
    (hs : I s) (hPs : P s) :
    Always step P s es ∧ Obeys step Q s es ↔ Obeys step C s es := by
  induction es generalizing s with
  | nil => exact ⟨fun _ => trivial, fun _ => ⟨hPs, trivial⟩⟩
  | cons e es ih =>
    simp only [Always, Obeys]
    constructor
    · intro hboth
      obtain ⟨⟨-, htail⟩, hQ, hrest⟩ := hboth
      have hnext : P (step s e) := htail.head
      exact ⟨(hP s e hs hPs).mp ⟨hnext, hQ⟩, (ih (hI s e hs) hnext).mp ⟨htail, hrest⟩⟩
    · intro hboth
      obtain ⟨hC, hes⟩ := hboth
      obtain ⟨hnext, hQ⟩ := (hP s e hs hPs).mpr hC
      obtain ⟨htail, hrest⟩ := (ih (hI s e hs) hnext).mpr hes
      exact ⟨⟨hPs, htail⟩, hQ, hrest⟩

/-- When the steps that meet `C` keep an invariant that implies `P`, a run all of whose steps
meet `C` keeps `P` throughout. -/
theorem always_of_obeys (hI : ∀ s e, I s → C s e → I (step s e)) (hP : ∀ s, I s → P s)
    {s : σ} {es : List ε} (hs : I s) (hes : Obeys step C s es) : Always step P s es := by
  induction es generalizing s with
  | nil => exact hP s hs
  | cons e es ih => exact ⟨hP s hs, ih (hI s e hs hes.1) hes.2⟩

/-- Properties that agree in the states of an invariant hold throughout the same runs. -/
theorem always_congr {Q : σ → Prop} (hI : ∀ s e, I s → I (step s e))
    (hP : ∀ s, I s → (P s ↔ Q s)) {s : σ} (es : List ε) (hs : I s) :
    Always step P s es ↔ Always step Q s es := by
  induction es generalizing s with
  | nil => exact hP s hs
  | cons e es ih => exact and_congr (hP s hs) (ih (hI s e hs))

/-- What a state that is visited implies for its step holds of every step of the run. -/
theorem obeys_of_always (hC : ∀ s e, P s → C s e) {s : σ} {es : List ε}
    (hes : Always step P s es) : Obeys step C s es := by
  induction es generalizing s with
  | nil => trivial
  | cons e es ih => exact ⟨hC s e hes.1, ih hes.2⟩

/-- A condition that the events of a list meet in every state is met throughout the run over it. -/
theorem obeys_of_mem {s : σ} {es : List ε} (hC : ∀ e ∈ es, ∀ s, C s e) : Obeys step C s es := by
  induction es generalizing s with
  | nil => trivial
  | cons e es ih =>
    exact ⟨hC e List.mem_cons_self s, ih fun e' he' => hC e' (List.mem_cons_of_mem _ he')⟩

/-- Conditions that agree on the steps from invariant states are met by the same runs. -/
theorem obeys_congr {C' : σ → ε → Prop} (hI : ∀ s e, I s → I (step s e))
    (hC : ∀ s e, I s → (C s e ↔ C' s e)) {s : σ} (es : List ε) (hs : I s) :
    Obeys step C s es ↔ Obeys step C' s es := by
  induction es generalizing s with
  | nil => exact Iff.rfl
  | cons e es ih => exact and_congr (hC s e hs) (ih (hI s e hs))

/-- When the steps that meet `C` keep an invariant under which they also meet `C'`, a run all
of whose steps meet `C` meets `C'` throughout. -/
theorem obeys_of_invariant {C' : σ → ε → Prop} (hI : ∀ s e, I s → C s e → I (step s e))
    (hC : ∀ s e, I s → C s e → C' s e) {s : σ} {es : List ε} (hs : I s)
    (hes : Obeys step C s es) : Obeys step C' s es := by
  induction es generalizing s with
  | nil => trivial
  | cons e es ih => exact ⟨hC s e hs hes.1, ih (hI s e hs hes.1) hes.2⟩

end DdeTrayLoader.Transition
