import Mathlib.Data.List.Range
import Mathlib.Data.Option.Basic

/-!
# Objects found by reference

A store gives each object it takes in a reference that no object had before. The object is found
by it until it is removed; a reference whose object is gone finds nothing.
-/

namespace DdeTrayLoader.Objects

variable {α : Type*}

/-- Objects by reference, and the references not given out yet. -/
structure Store (α : Type*) where
  next : ℕ
  find : ℕ → Option α
  fresh : ∀ r, next ≤ r → find r = none

namespace Store

/-- No objects. -/
def empty : Store α := ⟨0, fun _ => none, fun _ _ => rfl⟩

/-- Take in an object, under the reference `s.next`. -/
def add (s : Store α) (x : α) : Store α where
  next := s.next + 1
  find r := if r = s.next then some x else s.find r
  fresh r hr := by rw [if_neg (by omega), s.fresh r (by omega)]

/-- Change every object, by its reference. -/
def map (s : Store α) (f : ℕ → α → α) : Store α where
  next := s.next
  find r := (s.find r).map (f r)
  fresh r hr := by rw [s.fresh r hr, Option.map_none]

/-- Change one object. -/
def modify (s : Store α) (r : ℕ) (f : α → α) : Store α :=
  s.map fun r' x => if r' = r then f x else x

/-- Remove the objects that fail a test. -/
def keep (s : Store α) (p : ℕ → α → Bool) : Store α where
  next := s.next
  find r := (s.find r).filter (p r)
  fresh r hr := by rw [s.fresh r hr, Option.filter_none]

/-- Some object passes a test. -/
def any (s : Store α) (p : ℕ → α → Bool) : Bool :=
  (List.range s.next).any fun r => (s.find r).any (p r)

variable (s : Store α)

/-- A reference that finds an object was given out. -/
theorem lt_of_find {s : Store α} {r : ℕ} {x : α} (h : s.find r = some x) : r < s.next := by
  by_contra hge
  rw [s.fresh r (Nat.le_of_not_lt hge)] at h
  contradiction

@[simp] theorem find_next : s.find s.next = none := s.fresh _ le_rfl

theorem find_add (x : α) (r : ℕ) : (s.add x).find r = if r = s.next then some x else s.find r := rfl

@[simp] theorem find_add_next (x : α) : (s.add x).find s.next = some x := if_pos rfl

/-- An object that is there is still found when another is taken in. -/
theorem find_add_of_find {s : Store α} {r : ℕ} {x y : α} (h : s.find r = some x) :
    (s.add y).find r = some x := by
  rw [find_add, if_neg (lt_of_find h).ne, h]

/-- What is found after taking in an object is that object or one found before. -/
theorem find_add_cases {s : Store α} {r : ℕ} {x y : α} (h : (s.add y).find r = some x) :
    r = s.next ∧ x = y ∨ r ≠ s.next ∧ s.find r = some x := by
  rw [find_add] at h
  split_ifs at h with hr
  · exact .inl ⟨hr, (Option.some.inj h).symm⟩
  · exact .inr ⟨hr, h⟩

@[simp] theorem find_map (f : ℕ → α → α) (r : ℕ) : (s.map f).find r = (s.find r).map (f r) := rfl

/-- Two stores with the same objects, and references, are the same. -/
theorem ext_find {s s' : Store α} (hnext : s.next = s'.next) (hfind : ∀ r, s.find r = s'.find r) :
    s = s' := by
  cases s
  cases s'
  simp only [mk.injEq]
  exact ⟨hnext, funext hfind⟩

theorem map_id : (s.map fun _ x => x) = s :=
  ext_find rfl fun r => by rw [find_map]; cases s.find r <;> rfl

theorem map_map (f g : ℕ → α → α) : (s.map f).map g = s.map fun r x => g r (f r x) :=
  ext_find rfl fun r => by rw [find_map, find_map, find_map, Option.map_map]; rfl

theorem find_modify (r : ℕ) (f : α → α) (r' : ℕ) :
    (s.modify r f).find r' = (s.find r').map fun x => if r' = r then f x else x := rfl

/-- What is found after one object is changed was there. -/
theorem find_modify_eq_some {s : Store α} {r r' : ℕ} {f : α → α} {y : α} :
    (s.modify r f).find r' = some y ↔ ∃ x, s.find r' = some x ∧ y = if r' = r then f x else x := by
  rw [find_modify, Option.map_eq_some_iff]
  exact exists_congr fun x => and_congr_right fun _ => eq_comm

/-- The other objects stay as they are. -/
theorem find_modify_of_ne {r r' : ℕ} (h : r' ≠ r) (f : α → α) :
    (s.modify r f).find r' = s.find r' := by
  rw [find_modify]
  cases s.find r' with
  | none => rfl
  | some x => rw [Option.map_some, if_neg h]

theorem find_keep (p : ℕ → α → Bool) (r : ℕ) : (s.keep p).find r = (s.find r).filter (p r) := rfl

/-- What is found after a removal was there and passed the test. -/
theorem find_keep_iff {s : Store α} {p : ℕ → α → Bool} {r : ℕ} {x : α} :
    (s.keep p).find r = some x ↔ s.find r = some x ∧ p r x := by
  rw [find_keep, Option.filter_eq_some_iff]

theorem any_iff {s : Store α} {p : ℕ → α → Bool} :
    s.any p = true ↔ ∃ r x, s.find r = some x ∧ p r x = true := by
  simp only [any, List.any_eq_true, List.mem_range, Option.any_eq_true]
  constructor
  · rintro ⟨r, -, x, hx, hp⟩
    exact ⟨r, x, hx, hp⟩
  · rintro ⟨r, x, hx, hp⟩
    exact ⟨r, lt_of_find hx, x, hx, hp⟩

theorem any_eq_false_iff {s : Store α} {p : ℕ → α → Bool} :
    s.any p = false ↔ ∀ r x, s.find r = some x → p r x = false := by
  rw [← Bool.not_eq_true, any_iff]
  push Not
  simp only [ne_eq, Bool.not_eq_true]

end Store

end DdeTrayLoader.Objects
