import Mathlib.Data.List.AList

/-!
# Registered tray items

A tray protocol keeps its items in two hashes with the same keys, `m_registedItem` and
`m_item2Pid`. Here they are one value that carries this, with the three operations the
protocols perform on it.

Qt does not say in which order a hash lists its keys. Wherever the source lists them, the
order is part of the event and may be any permutation.
-/

namespace DdeTrayLoader.Tray

/-- A `QHash`, by its entries in some order. -/
abbrev QHash (κ ν : Type) : Type := AList fun _ : κ => ν

/-- An order in which a hash may list its keys. -/
structure HashOrder (κ : Type) where
  list : List κ → List κ
  perm : ∀ keys, (list keys).Perm keys

/-- The order of insertion, newest first. -/
def HashOrder.stored (κ : Type) : HashOrder κ := ⟨id, fun _ => .refl _⟩

@[simp] theorem HashOrder.mem_list {κ : Type} (order : HashOrder κ) {keys : List κ} {k : κ} :
    k ∈ order.list keys ↔ k ∈ keys := (order.perm keys).mem_iff

/-- `m_registedItem` and `m_item2Pid` of a protocol. -/
structure Registered (κ ν : Type) where
  registedItem : QHash κ ν
  item2Pid : QHash κ ℕ
  tracked : ∀ k, k ∈ item2Pid ↔ k ∈ registedItem

namespace Registered

variable {κ ν : Type}

/-- No items. -/
def empty : Registered κ ν := ⟨∅, ∅, fun _ => Iff.rfl⟩

/-- `m_registedItem.keys()`. -/
def keys (items : Registered κ ν) : List κ := items.registedItem.keys

@[simp] theorem not_mem_keys_empty (k : κ) : k ∉ (empty : Registered κ ν).keys :=
  List.not_mem_nil

variable [DecidableEq κ]

/-- `m_registedItem.value(k)`. -/
def value (items : Registered κ ν) (k : κ) : Option ν := items.registedItem.lookup k

/-- `m_item2Pid[k]`. -/
def pid (items : Registered κ ν) (k : κ) : ℕ := (items.item2Pid.lookup k).getD 0

def insert (items : Registered κ ν) (k : κ) (v : ν) (pid : ℕ) : Registered κ ν where
  registedItem := items.registedItem.insert k v
  item2Pid := items.item2Pid.insert k pid
  tracked k' := by rw [AList.mem_insert, AList.mem_insert, items.tracked]

def remove (items : Registered κ ν) (k : κ) : Registered κ ν where
  registedItem := items.registedItem.erase k
  item2Pid := items.item2Pid.erase k
  tracked k' := by rw [AList.mem_erase, AList.mem_erase, items.tracked]

/-- Some item of the process is registered. -/
def Serves (items : Registered κ ν) (pid : ℕ) : Prop := ∃ k ∈ items.keys, items.pid k = pid

instance (items : Registered κ ν) (pid : ℕ) : Decidable (items.Serves pid) :=
  inferInstanceAs (Decidable (∃ k ∈ items.keys, items.pid k = pid))

@[simp] theorem mem_keys_insert (items : Registered κ ν) {k k' : κ} {v : ν} {pid : ℕ} :
    k' ∈ (items.insert k v pid).keys ↔ k' = k ∨ k' ∈ items.keys := AList.mem_insert _

@[simp] theorem mem_keys_remove (items : Registered κ ν) {k k' : κ} :
    k' ∈ (items.remove k).keys ↔ k' ≠ k ∧ k' ∈ items.keys := AList.mem_erase

omit [DecidableEq κ] in
/-- A listed key is not gone, and neither is one that was not registered. -/
theorem mem_keys_of_kept {items : Registered κ ν} {current : List κ} {k k' : κ}
    (hkept : k ∈ current ∨ k ∉ items.keys) :
    k' ∈ items.keys ↔ k' ∈ items.keys ∧ ¬(k' = k ∧ k' ∉ current) := by
  refine ⟨fun hmem => ⟨hmem, ?_⟩, And.left⟩
  intro hboth
  obtain ⟨rfl, hgone⟩ := hboth
  exact hkept.elim hgone (absurd hmem)

/-- A key that is gone is removed, and no other. -/
theorem mem_keys_remove_gone {items : Registered κ ν} {current : List κ} {k k' : κ}
    (hgone : k ∉ current) :
    k' ∈ (items.remove k).keys ↔ k' ∈ items.keys ∧ ¬(k' = k ∧ k' ∉ current) := by
  rw [mem_keys_remove, and_comm]
  refine and_congr_right fun _ => not_congr ⟨?_, And.left⟩
  intro hsame
  subst hsame
  exact ⟨rfl, hgone⟩

/-- A key is registered exactly if it has a value. -/
theorem mem_keys_iff (items : Registered κ ν) {k : κ} :
    k ∈ items.keys ↔ ∃ v, items.value k = some v := by
  rw [← Option.isSome_iff_exists]
  exact AList.lookup_isSome.symm

theorem value_insert (items : Registered κ ν) (k k' : κ) (v : ν) (pid : ℕ) :
    (items.insert k v pid).value k' = if k' = k then some v else items.value k' := by
  unfold value insert
  split_ifs with h
  · rw [h, AList.lookup_insert]
  · rw [AList.lookup_insert_ne h]

theorem value_remove (items : Registered κ ν) (k k' : κ) :
    (items.remove k).value k' = if k' = k then none else items.value k' := by
  unfold value remove
  split_ifs with h
  · rw [h, AList.lookup_erase]
  · rw [AList.lookup_erase_ne h]

theorem pid_insert (items : Registered κ ν) (k k' : κ) (v : ν) (pid : ℕ) :
    (items.insert k v pid).pid k' = if k' = k then pid else items.pid k' := by
  unfold Registered.pid insert
  split_ifs with h
  · rw [h, AList.lookup_insert, Option.getD_some]
  · rw [AList.lookup_insert_ne h]

theorem pid_remove_of_ne (items : Registered κ ν) {k k' : κ} (h : k' ≠ k) :
    (items.remove k).pid k' = items.pid k' := by
  unfold Registered.pid remove
  rw [AList.lookup_erase_ne h]

@[simp] theorem not_serves_empty (pid : ℕ) : ¬(empty : Registered κ ν).Serves pid :=
  fun ⟨k, h, _⟩ => not_mem_keys_empty k h

/-- A new key adds its process. -/
theorem serves_insert (items : Registered κ ν) {k : κ} (hk : k ∉ items.keys) {v : ν}
    {pid pid' : ℕ} : (items.insert k v pid).Serves pid' ↔ pid' = pid ∨ items.Serves pid' := by
  constructor
  · intro hboth
    obtain ⟨k', hmem, hpid⟩ := hboth
    rw [mem_keys_insert] at hmem
    rw [pid_insert] at hpid
    split_ifs at hpid with hk'
    · exact .inl hpid.symm
    · exact .inr ⟨k', hmem.resolve_left hk', hpid⟩
  · intro hcase
    rcases hcase with rfl | ⟨k', hmem, hpid⟩
    · exact ⟨k, (mem_keys_insert _).mpr (.inl rfl), by rw [pid_insert, if_pos rfl]⟩
    · refine ⟨k', (mem_keys_insert _).mpr (.inr hmem), ?_⟩
      rwa [pid_insert, if_neg]
      intro hsame
      subst hsame
      exact hk hmem

/-- What is served without a key is what the other keys serve. -/
theorem serves_remove (items : Registered κ ν) {k : κ} {pid : ℕ} :
    (items.remove k).Serves pid ↔ ∃ k' ∈ items.keys, k' ≠ k ∧ items.pid k' = pid := by
  constructor
  · intro hboth
    obtain ⟨k', hmem, hpid⟩ := hboth
    rw [mem_keys_remove] at hmem
    rw [pid_remove_of_ne _ hmem.1] at hpid
    exact ⟨k', hmem.2, hmem.1, hpid⟩
  · intro hboth
    obtain ⟨k', hmem, hne, hpid⟩ := hboth
    exact ⟨k', (mem_keys_remove _).mpr ⟨hne, hmem⟩, by rwa [pid_remove_of_ne _ hne]⟩

end Registered

end DdeTrayLoader.Tray
