import Mathlib.Data.List.Basic

/-!
# Stripping the ends of a list

One element is taken from each end of a list unless it is kept. Of a single element that is not
kept nothing is left to look at for the second end.
-/

namespace DdeTrayLoader.Lists

variable {α : Type*} (keep : α → Bool)

/-- Take the first element unless it is kept; an empty list has none. -/
def stripFirst : List α → Option (List α)
  | [] => none
  | a :: l => some (if keep a then a :: l else l)

/-- Take the last element unless it is kept; an empty list has none. -/
def stripLast (l : List α) : Option (List α) :=
  l.getLast?.map fun a => if keep a then l else l.dropLast

/-- Take the first element and then the last one, unless they are kept. -/
def stripEnds (l : List α) : Option (List α) := (stripFirst keep l).bind (stripLast keep)

/-- An element that is kept, or nothing. -/
def kept (a : α) : List α := if keep a then [a] else []

/-- What is left between two lists without kept elements, each of at most one element, one at each
end that is not kept. -/
def Stripped (l l' : List α) : Prop :=
  ∃ before after, l = before ++ l' ++ after ∧ before.length ≤ 1 ∧ after.length ≤ 1 ∧
    (∀ a ∈ before ++ after, keep a = false) ∧
    (before = [] → ∀ a ∈ l.head?, keep a = true) ∧ (after = [] → ∀ a ∈ l.getLast?, keep a = true)

/-- The first two elements contain a kept one, and so do the last two. -/
def KeptNearEnds (l : List α) : Prop :=
  (∃ a ∈ l.take 2, keep a = true) ∧ ∃ a ∈ l.drop (l.length - 2), keep a = true

/-- The list begins and ends with a kept element. -/
def KeptEnds (l : List α) : Prop :=
  (∃ a ∈ l.head?, keep a = true) ∧ ∃ a ∈ l.getLast?, keep a = true

variable {keep}

theorem stripFirst_cons (a : α) (l : List α) :
    stripFirst keep (a :: l) = some (kept keep a ++ l) := by
  cases ha : keep a <;> simp [stripFirst, kept, ha]

theorem stripLast_concat (l : List α) (b : α) :
    stripLast keep (l ++ [b]) = some (l ++ kept keep b) := by
  unfold stripLast kept
  rw [List.getLast?_concat, Option.map_some]
  split_ifs
  · rfl
  · rw [List.dropLast_concat, List.append_nil]

/-- The only element is looked at twice, unless it is taken. -/
theorem stripEnds_singleton (a : α) : stripEnds keep [a] = if keep a then some [a] else none := by
  unfold stripEnds
  rw [stripFirst_cons, Option.bind_some, List.append_nil, kept]
  split_ifs with ha
  · rw [← List.nil_append [a], stripLast_concat, kept, if_pos ha]
  · rfl

/-- Both ends of a list of two elements or more are looked at. -/
theorem stripEnds_cons_concat (a b : α) (l : List α) :
    stripEnds keep (a :: (l ++ [b])) = some (kept keep a ++ l ++ kept keep b) := by
  unfold stripEnds
  rw [stripFirst_cons, Option.bind_some, ← List.append_assoc, stripLast_concat]

/-- A list is empty, has one element, or has a first one and a last one. -/
theorem ends_cases (l : List α) : l = [] ∨ (∃ a, l = [a]) ∨ ∃ a m b, l = a :: (m ++ [b]) := by
  cases l with
  | nil => exact .inl rfl
  | cons a l =>
    rcases List.eq_nil_or_concat l with rfl | ⟨m, b, rfl⟩
    · exact .inr (.inl ⟨a, rfl⟩)
    · exact .inr (.inr ⟨a, m, b, by rw [List.concat_eq_append]⟩)

/-- What is taken from an end is no kept element, and nothing is taken if the end is kept. -/
theorem exists_taken (keep : α → Bool) (a : α) :
    ∃ taken : List α, [a] = taken ++ kept keep a ∧ [a] = kept keep a ++ taken ∧
      taken.length ≤ 1 ∧ (∀ b ∈ taken, keep b = false) ∧ (taken = [] → keep a = true) := by
  unfold kept
  split_ifs with ha
  · exact ⟨[], rfl, rfl, Nat.zero_le 1, by simp, fun _ => ha⟩
  · exact ⟨[a], rfl, rfl, Nat.le_refl 1, by simpa using ha, by simp⟩

/-- An element is kept, or else it is the one that is taken. -/
theorem eq_taken {a : α} {taken : List α} (hshort : taken.length ≤ 1) (hmem : ∀ b ∈ taken, b = a)
    (hnot : ∀ b ∈ taken, keep b = false) (hkeep : taken = [] → keep a = true) :
    [a] = taken ++ kept keep a ∧ [a] = kept keep a ++ taken := by
  unfold kept
  match taken, hshort with
  | [], _ => simp [hkeep rfl]
  | [b], _ =>
    have hb := hmem b (List.mem_singleton_self b)
    have hfalse := hnot b (List.mem_singleton_self b)
    simp [← hb, hfalse]

/-- Stripping the ends leaves what is left between them. -/
theorem stripped_of_stripEnds {l l' : List α} (h : stripEnds keep l = some l') :
    Stripped keep l l' := by
  rcases ends_cases l with rfl | ⟨a, rfl⟩ | ⟨a, m, b, rfl⟩
  · cases h
  · rw [stripEnds_singleton] at h
    split_ifs at h with ha
    cases h
    exact ⟨[], [], by simp, by simp, by simp, by simp, by simpa using ha, by simpa using ha⟩
  · rw [stripEnds_cons_concat, Option.some_inj] at h
    obtain ⟨before, hbefore, -, hshort, hnot, hkeep⟩ := exists_taken keep a
    obtain ⟨after, -, hafter, hshort', hnot', hkeep'⟩ := exists_taken keep b
    refine ⟨before, after, ?_, hshort, hshort', ?_, ?_, ?_⟩
    · rw [← h, ← List.singleton_append, hbefore, hafter]
      simp only [List.append_assoc]
    · intro c hc
      rcases List.mem_append.mp hc with hc | hc
      · exact hnot c hc
      · exact hnot' c hc
    · simpa using hkeep
    · rw [← List.cons_append, List.getLast?_concat]
      simpa using hkeep'

/-- What is left between the ends is what stripping them leaves, if there is an end. -/
theorem stripEnds_of_stripped {l l' : List α} (hne : l ≠ []) (h : Stripped keep l l') :
    stripEnds keep l = some l' := by
  obtain ⟨before, after, heq, hshort, hshort', hnot, hkeep, hkeep'⟩ := h
  have hnotBefore (c : α) (hc : c ∈ before) := hnot c (List.mem_append_left _ hc)
  have hnotAfter (c : α) (hc : c ∈ after) := hnot c (List.mem_append_right _ hc)
  -- Each end of the list is that of `before`, or of `after`, if there is one.
  have hfirst (a : α) (m : List α) (ha : l = a :: m) :
      [a] = before ++ kept keep a ∧ [a] = kept keep a ++ before := by
    refine eq_taken hshort (fun c hc => ?_) hnotBefore fun hnil => hkeep hnil a (by simp [ha])
    obtain ⟨rest, hrest⟩ : ∃ rest, before = c :: rest := by
      match before, hshort with
      | [c'], _ => exact ⟨[], by rw [List.mem_singleton.mp hc]⟩
    rw [ha, hrest, List.append_assoc, List.cons_append] at heq
    exact (List.cons.inj heq).1.symm
  have hlast (b : α) (m : List α) (hb : l = m ++ [b]) :
      [b] = after ++ kept keep b ∧ [b] = kept keep b ++ after := by
    refine eq_taken hshort' (fun c hc => ?_) hnotAfter fun hnil => hkeep' hnil b (by simp [hb])
    have hafter : after = [c] := by
      match after, hshort' with
      | [c'], _ => rw [List.mem_singleton.mp hc]
    rw [hb, hafter] at heq
    exact (List.singleton_inj.mp (List.append_inj' heq rfl).2).symm
  rcases ends_cases l with hnil | ⟨a, ha⟩ | ⟨a, m, b, hab⟩
  · exact absurd hnil hne
  · obtain ⟨-, hbefore⟩ := hfirst a [] ha
    obtain ⟨hafter, -⟩ := hlast a [] ha
    rw [ha, stripEnds_singleton]
    unfold kept at hbefore hafter
    split_ifs at hbefore hafter ⊢
    · have hnone : before = [] := by simpa using hbefore
      have hnone' : after = [] := by simpa using hafter
      rw [ha, hnone, hnone', List.nil_append, List.append_nil] at heq
      rw [heq]
    · rw [List.nil_append] at hbefore
      rw [List.append_nil] at hafter
      have hlength := congrArg List.length heq
      simp [ha, ← hbefore, ← hafter] at hlength
  · have hbefore := (hfirst a (m ++ [b]) hab).1
    have hafter := (hlast b (a :: m) (by rw [hab, List.cons_append])).2
    have hsplit : l = before ++ (kept keep a ++ m ++ kept keep b) ++ after := by
      rw [hab, ← List.singleton_append, hbefore, hafter]
      simp only [List.append_assoc]
    rw [hab, stripEnds_cons_concat]
    rw [heq, List.append_left_inj, List.append_right_inj] at hsplit
    rw [hsplit]

/-- Exactly what is left between the ends is what stripping them leaves. -/
theorem stripEnds_eq_some_iff {l l' : List α} (hne : l ≠ []) :
    stripEnds keep l = some l' ↔ Stripped keep l l' :=
  ⟨stripped_of_stripEnds, stripEnds_of_stripped hne⟩

/-- There is something to look at twice, unless the list has one element that is not kept. -/
theorem stripEnds_eq_none_iff {l : List α} :
    stripEnds keep l = none ↔ l = [] ∨ ∃ a, l = [a] ∧ keep a = false := by
  rcases ends_cases l with rfl | ⟨a, rfl⟩ | ⟨a, m, b, rfl⟩
  · exact ⟨fun _ => .inl rfl, fun _ => rfl⟩
  · rw [stripEnds_singleton]
    cases ha : keep a <;> simp [ha]
  · rw [stripEnds_cons_concat]
    simp

/-- What is left begins with a kept element exactly if the first two contain one. -/
theorem head_kept_iff (a b : α) (m : List α) :
    (∃ c ∈ (kept keep a ++ m ++ kept keep b).head?, keep c = true) ↔
      ∃ c ∈ (a :: (m ++ [b])).take 2, keep c = true := by
  cases ha : keep a with
  | true => simp [kept, ha]
  | false =>
    cases m with
    | nil => cases hb : keep b <;> simp [kept, ha, hb]
    | cons d m => simp [kept, ha]

/-- It ends with one exactly if the last two do. -/
theorem getLast_kept_iff (a b : α) (m : List α) :
    (∃ c ∈ (kept keep a ++ m ++ kept keep b).getLast?, keep c = true) ↔
      ∃ c ∈ (a :: (m ++ [b])).drop ((a :: (m ++ [b])).length - 2), keep c = true := by
  have hkept (c : α) : (kept keep c).reverse = kept keep c := by
    unfold kept
    split_ifs <;> rfl
  have hreverse : (kept keep a ++ m ++ kept keep b).reverse =
      kept keep b ++ m.reverse ++ kept keep a := by
    rw [List.reverse_append, List.reverse_append, hkept, hkept, List.append_assoc]
  have hlist : (a :: (m ++ [b])).reverse = b :: (m.reverse ++ [a]) := by simp
  rw [← List.head?_reverse, hreverse, head_kept_iff b a m.reverse, ← hlist]
  simp only [List.take_reverse, List.mem_reverse]

/-- The ends that are left are kept exactly if there was a kept element near each end. -/
theorem keptEnds_iff {l l' : List α} (h : stripEnds keep l = some l') :
    KeptEnds keep l' ↔ KeptNearEnds keep l := by
  rcases ends_cases l with rfl | ⟨a, rfl⟩ | ⟨a, m, b, rfl⟩
  · cases h
  · rw [stripEnds_singleton] at h
    split_ifs at h with ha
    cases h
    simp [KeptEnds, KeptNearEnds, ha]
  · rw [stripEnds_cons_concat, Option.some_inj] at h
    rw [← h]
    exact and_congr (head_kept_iff a b m) (getLast_kept_iff a b m)

end DdeTrayLoader.Lists
