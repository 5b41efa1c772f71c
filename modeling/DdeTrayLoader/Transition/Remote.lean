import Mathlib.Data.List.Basic

/-!
# A value of another process

A client keeps a copy of a value that another process owns, and asks the owner to set it. The
owner announces every new value, and the announcements arrive in order: when none is on its way,
the copy is the value.

A client that already shows what it asked for is right again once the requests are granted and
nothing is on its way, because as long as it is wrong something is coming.
-/

namespace DdeTrayLoader.Transition

variable {α : Type*}

/-- A value of another process, what this process knows of it, and what is on its way. -/
structure Remote (α : Type*) where
  /-- The values asked for, oldest first. -/
  requests : List α
  value : α
  /-- The values announced, oldest first. -/
  signals : List α
  copy : α

namespace Remote

/-- A value that is known. -/
def known (a : α) : Remote α := ⟨[], a, [], a⟩

/-- Ask the owner to set the value. -/
def ask (s : Remote α) (a : α) : Remote α := { s with requests := s.requests ++ [a] }

/-- The owner sets the value. It announces a new value, and an old one when it announces `again`. -/
def assign [DecidableEq α] (s : Remote α) (a : α) (again : Bool) : Remote α :=
  if a = s.value ∧ again = false then s else { s with value := a, signals := s.signals ++ [a] }

/-- The owner takes the next request, and grants it or not. -/
def serve [DecidableEq α] (s : Remote α) (granted again : Bool) : Remote α :=
  match s.requests with
  | [] => s
  | a :: rest =>
    if granted then { s with requests := rest }.assign a again else { s with requests := rest }

/-- The next announcement arrives. -/
def deliver (s : Remote α) : Remote α :=
  match s.signals with
  | [] => s
  | a :: rest => { s with signals := rest, copy := a }

@[simp] theorem copy_assign [DecidableEq α] (s : Remote α) (a : α) (again : Bool) :
    (s.assign a again).copy = s.copy := by
  unfold assign
  split_ifs
  · rfl
  · rfl

@[simp] theorem copy_serve [DecidableEq α] (s : Remote α) (granted again : Bool) :
    (s.serve granted again).copy = s.copy := by
  unfold serve
  split
  · rfl
  · split_ifs
    · exact copy_assign _ _ again
    · rfl

/-- Serving takes requests and makes none. -/
theorem mem_requests_serve [DecidableEq α] {s : Remote α} {granted again : Bool} {a : α}
    (h : a ∈ (s.serve granted again).requests) : a ∈ s.requests := by
  unfold serve at h
  split at h
  · exact h
  · next b rest hrequests =>
    rw [hrequests]
    refine List.mem_cons_of_mem b ?_
    split_ifs at h
    · unfold assign at h
      split_ifs at h
      · exact h
      · exact h
    · exact h

/-- Nothing is on its way. -/
structure Quiet (s : Remote α) : Prop where
  requests : s.requests = []
  signals : s.signals = []

/-- Nothing is served when nothing is asked for. -/
theorem Quiet.serve [DecidableEq α] {s : Remote α} (h : s.Quiet) (granted again : Bool) :
    s.serve granted again = s := by
  unfold Remote.serve
  rw [h.requests]

/-- A request that is refused leaves nothing. -/
theorem Quiet.serve_ask [DecidableEq α] {s : Remote α} (h : s.Quiet) (a : α) (again : Bool) :
    (s.ask a).serve false again = s := by
  obtain ⟨requests, value, signals, copy⟩ := s
  obtain rfl : requests = [] := h.requests
  rfl

/-! ## The copy -/

/-- The last announcement on its way, or else the copy, is the value. -/
def Follows (s : Remote α) : Prop := s.signals.getLast?.getD s.copy = s.value

/-- A copy is right when no announcement is on its way. -/
theorem Follows.copy_eq {s : Remote α} (h : s.Follows) (hs : s.signals = []) :
    s.copy = s.value := by
  unfold Follows at h
  rw [hs] at h
  exact h

theorem follows_known (a : α) : (known a).Follows := rfl

theorem Follows.ask {s : Remote α} (h : s.Follows) (a : α) : (s.ask a).Follows := h

theorem Follows.assign [DecidableEq α] {s : Remote α} (h : s.Follows) (a : α) (again : Bool) :
    (s.assign a again).Follows := by
  unfold Remote.assign
  split_ifs
  · exact h
  · change (s.signals ++ [a]).getLast?.getD s.copy = a
    rw [List.getLast?_concat, Option.getD_some]

theorem Follows.serve [DecidableEq α] {s : Remote α} (h : s.Follows) (granted again : Bool) :
    (s.serve granted again).Follows := by
  unfold Remote.serve
  split
  · exact h
  · next a rest hrequests =>
    have hrest : ({ s with requests := rest } : Remote α).Follows := h
    split_ifs
    · exact hrest.assign a again
    · exact hrest

theorem Follows.deliver {s : Remote α} (h : s.Follows) : s.deliver.Follows := by
  unfold Remote.deliver
  split
  · exact h
  · next a rest hsignals =>
    unfold Follows at h
    rw [hsignals, List.getLast?_cons, Option.getD_some] at h
    exact h

/-! ## What is coming -/

/-- Every value that the owner has, has announced, or is asked for. -/
structure Each (p : α → Prop) (s : Remote α) : Prop where
  requests : ∀ a ∈ s.requests, p a
  value : p s.value
  signals : ∀ a ∈ s.signals, p a
  copy : p s.copy

section
variable {p : α → Prop} {s : Remote α}

theorem Each.ask (h : s.Each p) {a : α} (ha : p a) : (s.ask a).Each p := by
  refine ⟨fun b hb => ?_, h.value, h.signals, h.copy⟩
  rcases List.mem_append.mp hb with hb | hb
  · exact h.requests b hb
  · rw [List.mem_singleton.mp hb]
    exact ha

theorem Each.assign [DecidableEq α] (h : s.Each p) {a : α} (ha : p a) (again : Bool) :
    (s.assign a again).Each p := by
  unfold Remote.assign
  split_ifs
  · exact h
  · refine ⟨h.requests, ha, fun b hb => ?_, h.copy⟩
    rcases List.mem_append.mp hb with hb | hb
    · exact h.signals b hb
    · rw [List.mem_singleton.mp hb]
      exact ha

theorem Each.serve [DecidableEq α] (h : s.Each p) (granted again : Bool) :
    (s.serve granted again).Each p := by
  unfold Remote.serve
  split
  · exact h
  · next a rest hrequests =>
    have hmem : a ∈ s.requests := by
      rw [hrequests]
      exact List.mem_cons_self
    have hrest : ({ s with requests := rest } : Remote α).Each p := by
      refine ⟨fun b hb => h.requests b ?_, h.value, h.signals, h.copy⟩
      rw [hrequests]
      exact List.mem_cons_of_mem a hb
    split_ifs
    · exact hrest.assign (h.requests a hmem) again
    · exact hrest

theorem Each.deliver (h : s.Each p) : s.deliver.Each p := by
  unfold Remote.deliver
  split
  · exact h
  · next a rest hsignals =>
    have hsub (b : α) (hb : b ∈ a :: rest) : p b := h.signals b (by rw [hsignals]; exact hb)
    exact ⟨h.requests, h.value, fun b hb => hsub b (List.mem_cons_of_mem a hb),
      hsub a List.mem_cons_self⟩

/-- A value with the property is asked for or announced. -/
def Coming (p : α → Prop) (s : Remote α) : Prop := ∃ a, (a ∈ s.requests ∨ a ∈ s.signals) ∧ p a

theorem Quiet.not_coming (h : s.Quiet) : ¬s.Coming p := by
  rintro ⟨a, ha | ha, -⟩
  · rw [h.requests] at ha
    exact List.not_mem_nil ha
  · rw [h.signals] at ha
    exact List.not_mem_nil ha

/-- When the value has the property and the copy does not, it is coming. -/
theorem Follows.coming (h : s.Follows) (hvalue : p s.value) (hcopy : ¬p s.copy) : s.Coming p := by
  unfold Follows at h
  cases hlast : s.signals.getLast? with
  | none =>
    rw [hlast, Option.getD_none] at h
    exact absurd (h ▸ hvalue) hcopy
  | some a =>
    rw [hlast, Option.getD_some] at h
    exact ⟨a, .inr (List.mem_of_getLast? hlast), h ▸ hvalue⟩

theorem coming_ask {a : α} (ha : p a) : (s.ask a).Coming p :=
  ⟨a, .inl (List.mem_append_right _ (List.mem_singleton_self a)), ha⟩

theorem Coming.assign [DecidableEq α] (h : s.Coming p) (a : α) (again : Bool) :
    (s.assign a again).Coming p := by
  unfold Remote.assign
  split_ifs
  · exact h
  · obtain ⟨b, hb, hp⟩ := h
    exact ⟨b, hb.imp_right (List.mem_append_left _), hp⟩

/-- What is coming still comes when the next request is granted. -/
theorem Coming.serve [DecidableEq α] (h : s.Coming p) (hfollows : s.Follows) (hcopy : ¬p s.copy)
    (again : Bool) : (s.serve true again).Coming p := by
  unfold Remote.serve
  split
  · exact h
  · next a rest hrequests =>
    rw [if_pos rfl]
    obtain ⟨b, hb, hp⟩ := h
    rw [hrequests] at hb
    by_cases hrest : b ∈ rest ∨ b ∈ s.signals
    · exact Coming.assign ⟨b, hrest, hp⟩ a again
    · have heq : b = a := by
        rcases hb with hb | hb
        · exact (List.mem_cons.mp hb).resolve_right fun hmem => hrest (.inl hmem)
        · exact absurd (.inr hb) hrest
      subst heq
      unfold Remote.assign
      split_ifs with hsame
      · exact Follows.coming hfollows (hsame.1 ▸ hp) hcopy
      · exact ⟨b, .inr (List.mem_append_right _ (List.mem_singleton_self b)), hp⟩

/-- What is coming still comes when something else arrives. -/
theorem Coming.deliver (h : s.Coming p) (hcopy : ¬p s.deliver.copy) : s.deliver.Coming p := by
  unfold Remote.deliver at hcopy ⊢
  split at hcopy
  · exact h
  · next a rest hsignals =>
    obtain ⟨b, hb, hp⟩ := h
    rw [hsignals] at hb
    refine ⟨b, hb.imp_right fun hmem => ?_, hp⟩
    exact (List.mem_cons.mp hmem).resolve_left fun heq => hcopy (heq ▸ hp)

end

/-! ## Requests for one value -/

/-- Every request is for one value, which is asked for already or is the value. -/
structure Turning (a : α) (s : Remote α) : Prop where
  requests : ∀ b ∈ s.requests, b = a
  turned : s.requests ≠ [] ∨ s.value = a

section
variable {a : α} {s : Remote α}

/-- When nothing is on its way any more, the value is the one that was asked for. -/
theorem Turning.value_eq (h : s.Turning a) (hs : s.Quiet) : s.value = a :=
  h.turned.resolve_left fun hne => hne hs.requests

theorem turning_ask (h : ∀ b ∈ s.requests, b = a) : (s.ask a).Turning a := by
  refine ⟨fun b hb => ?_, .inl (List.append_ne_nil_of_right_ne_nil _ (List.cons_ne_nil _ _))⟩
  rcases List.mem_append.mp hb with hb | hb
  · exact h b hb
  · exact List.mem_singleton.mp hb

theorem Turning.serve [DecidableEq α] (h : s.Turning a) (again : Bool) :
    (s.serve true again).Turning a := by
  unfold Remote.serve
  split
  · exact h
  · next b rest hrequests =>
    have hall := h.requests
    rw [hrequests] at hall
    obtain rfl : b = a := hall b List.mem_cons_self
    rw [if_pos rfl]
    unfold assign
    split_ifs with hsame
    · exact ⟨fun c hc => hall c (List.mem_cons_of_mem b hc), .inr hsame.1.symm⟩
    · exact ⟨fun c hc => hall c (List.mem_cons_of_mem b hc), .inr rfl⟩

theorem Turning.deliver (h : s.Turning a) : s.deliver.Turning a := by
  unfold Remote.deliver
  split
  · exact h
  · exact ⟨h.requests, h.turned⟩

end

end Remote

end DdeTrayLoader.Transition
