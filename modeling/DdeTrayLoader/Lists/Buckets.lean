import Mathlib.Data.List.Basic
import Mathlib.Order.Lattice

/-!
# Buckets between the keys of a table

A table with ascending keys assigns a value to every bucket between two neighbouring keys. A loop
over the neighbours finds the bucket of a key, which is that of the last key that is not above; but
nothing is found from the last key on.
-/

namespace DdeTrayLoader.Lists

variable {K V : Type*} [LinearOrder K]

/-- The value of the bucket between two neighbouring keys in which `k` is. -/
def findBucket (k : K) : List (K × V) → Option V
  | a :: b :: table => if a.1 ≤ k ∧ k < b.1 then some a.2 else findBucket k (b :: table)
  | _ => none

/-- The value of the last key that is not above `k`. -/
def lastBelow (k : K) (table : List (K × V)) : Option V :=
  ((table.filter fun entry => entry.1 ≤ k).getLast?).map Prod.snd

/-- From a key on that is above, all keys are. -/
theorem filter_eq_nil_of_lt {k : K} {a : K × V} {table : List (K × V)}
    (hsorted : (a :: table).Pairwise fun a b => a.1 < b.1) (hk : k < a.1) :
    (a :: table).filter (fun entry => entry.1 ≤ k) = [] := by
  rw [List.filter_eq_nil_iff]
  intro b hb
  have hle : a.1 ≤ b.1 := by
    rcases List.mem_cons.mp hb with rfl | hmem
    · exact le_refl _
    · exact (List.rel_of_pairwise_cons hsorted hmem).le
  simpa using hk.trans_le hle

/-- Below the last key, the bucket that is found is that of the last key that is not above. -/
theorem findBucket_eq_lastBelow {k : K} {table : List (K × V)}
    (hsorted : table.Pairwise fun a b => a.1 < b.1) (hk : ∃ entry ∈ table, k < entry.1) :
    findBucket k table = lastBelow k table := by
  induction table with
  | nil => rfl
  | cons a table ih =>
    cases table with
    | nil =>
      obtain ⟨entry, hentry, hlt⟩ := hk
      rw [List.mem_singleton.mp hentry] at hlt
      rw [lastBelow, filter_eq_nil_of_lt hsorted hlt]
      rfl
    | cons b table =>
      rw [findBucket]
      have htail : (b :: table).Pairwise fun a b => a.1 < b.1 := hsorted.of_cons
      split_ifs with hbucket
      · rw [lastBelow, List.filter_cons_of_pos (by simpa using hbucket.1),
          filter_eq_nil_of_lt htail hbucket.2]
        rfl
      · by_cases ha : a.1 ≤ k
        · -- The key is not below the next one, so that one is not the last either.
          have hb : b.1 ≤ k := not_lt.mp fun hlt => hbucket ⟨ha, hlt⟩
          have hexists : ∃ entry ∈ b :: table, k < entry.1 := by
            obtain ⟨entry, hentry, hlt⟩ := hk
            rcases List.mem_cons.mp hentry with rfl | hmem
            · exact absurd hlt (not_lt.mpr ha)
            · exact ⟨entry, hmem, hlt⟩
          have hfilter : (b :: table).filter (fun entry => entry.1 ≤ k) =
              b :: table.filter fun entry => entry.1 ≤ k := by
            simp [hb]
          have hfilter' : (a :: b :: table).filter (fun entry => entry.1 ≤ k) =
              a :: b :: table.filter fun entry => entry.1 ≤ k := by
            simp [ha, hb]
          rw [ih htail hexists, lastBelow, lastBelow, hfilter, hfilter', List.getLast?_cons_cons]
        · have hlt : k < a.1 := not_le.mp ha
          have hlt' : k < b.1 := hlt.trans (List.rel_of_pairwise_cons hsorted List.mem_cons_self)
          rw [ih htail ⟨b, List.mem_cons_self, hlt'⟩, lastBelow, lastBelow,
            filter_eq_nil_of_lt hsorted hlt, filter_eq_nil_of_lt htail hlt']

/-- Nothing is found where no key is above. -/
theorem findBucket_eq_none {k : K} {table : List (K × V)} (hk : ∀ entry ∈ table, entry.1 ≤ k) :
    findBucket k table = none := by
  induction table with
  | nil => rfl
  | cons a table ih =>
    cases table with
    | nil => rfl
    | cons b table =>
      have hb : b.1 ≤ k := hk b (List.mem_cons_of_mem _ List.mem_cons_self)
      rw [findBucket, if_neg fun hbucket => absurd hbucket.2 (not_lt.mpr hb)]
      exact ih fun entry hentry => hk entry (List.mem_cons_of_mem _ hentry)

/-- Where a key is not above, there is a last such one. -/
theorem lastBelow_ne_none {k : K} {table : List (K × V)} (hk : ∃ entry ∈ table, entry.1 ≤ k) :
    lastBelow k table ≠ none := by
  obtain ⟨entry, hentry, hle⟩ := hk
  have hmem : entry ∈ table.filter fun entry => entry.1 ≤ k :=
    List.mem_filter.mpr ⟨hentry, decide_eq_true hle⟩
  rw [lastBelow, Ne, Option.map_eq_none_iff, List.getLast?_eq_none_iff]
  exact List.ne_nil_of_mem hmem

end DdeTrayLoader.Lists
