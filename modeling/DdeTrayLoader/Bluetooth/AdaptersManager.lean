import DdeTrayLoader.Transition.Run
import Mathlib.Data.Finset.Basic
import Mathlib.Data.List.AList
import Mathlib.Data.List.Nodup

/-!
# Bluetooth adapters and their items

`AdaptersManager` registers an adapter at once when it is added, and asks for its devices.
`BluetoothApplet` has an item for it from when they arrive until it is removed.

An adapter can be removed, or added once more, before its devices have arrived, and the call that
asks for them can fail.
-/

namespace DdeTrayLoader.Bluetooth

open Transition

/-- A pointer to an `Adapter`, with the id that the object keeps for all its life. -/
structure Adapter where
  serial : ℕ
  id : String
  deriving DecidableEq, Repr

/-- `AdaptersManager` and the items of `BluetoothApplet`. -/
structure AdaptersManager where
  /-- The number of adapters that have been created. -/
  created : ℕ
  adapters : AList fun _ : String => Adapter
  adapterIds : List String
  /-- The adapters whose `GetDevices` call is outstanding. -/
  calls : List Adapter
  /-- `m_adapterItems`, each by the adapter that it shows. -/
  adapterItems : AList fun _ : String => Adapter
  /-- The adapters whose devices have arrived. -/
  arrived : Finset Adapter
  /-- The adapters that were registered and have been removed. -/
  removed : Finset Adapter
  deriving DecidableEq

/-- What the Bluetooth service does. -/
inductive AdapterEvent where
  | onAddAdapter (id : String)
  | onRemoveAdapter (id : String)
  /-- The reply to an outstanding call, which is an error unless `ok`. -/
  | finished (n : ℕ) (ok : Bool)
  deriving DecidableEq, Repr

namespace AdaptersManager

def initial : AdaptersManager := ⟨0, ∅, [], [], ∅, ∅, ∅⟩

/-- `adapterAdd` of a new adapter, up to the reply. -/
def onAddAdapter (s : AdaptersManager) (id : String) : AdaptersManager :=
  let adapter : Adapter := ⟨s.created, id⟩
  let s := { s with created := s.created + 1, calls := s.calls ++ [adapter] }
  if id ≠ "" ∧ id ∉ s.adapters then
    { s with adapters := s.adapters.insert id adapter, adapterIds := s.adapterIds ++ [id] }
  else s

/-- `BluetoothApplet::onAdapterRemoved`. -/
def onAdapterRemoved (s : AdaptersManager) (adapter : Adapter) : AdaptersManager :=
  { s with adapterItems := s.adapterItems.erase adapter.id }

def onRemoveAdapter (s : AdaptersManager) (id : String) : AdaptersManager :=
  match s.adapters.lookup id with
  | none => s
  | some adapter =>
    { s with
      adapters := s.adapters.erase id
      adapterIds := s.adapterIds.erase id
      removed := insert adapter s.removed }.onAdapterRemoved adapter

/-- `BluetoothApplet::onAdapterAdded`. -/
def onAdapterAdded (s : AdaptersManager) (adapter : Adapter) : AdaptersManager :=
  let s :=
    match s.adapterItems.lookup adapter.id with
    | some old => s.onAdapterRemoved old
    | none => s
  { s with adapterItems := s.adapterItems.insert adapter.id adapter }

/-- The `finished` handler of a `GetDevices` call. -/
def finished (s : AdaptersManager) (n : ℕ) (ok : Bool) : AdaptersManager :=
  match s.calls[n]? with
  | none => s
  | some adapter =>
    let s := { s with calls := s.calls.eraseIdx n }
    if ok then { s with arrived := insert adapter s.arrived }.onAdapterAdded adapter else s

def step (s : AdaptersManager) : AdapterEvent → AdaptersManager
  | .onAddAdapter id => s.onAddAdapter id
  | .onRemoveAdapter id => s.onRemoveAdapter id
  | .finished n ok => s.finished n ok

/-- The adapters that `adapterIncreased` is emitted for. -/
def increased (s : AdaptersManager) : AdapterEvent → List Adapter
  | .finished n true => s.calls[n]?.toList
  | _ => []

/-- The adapters that `onAdapterRemoved` is called for, by the manager or by the applet itself. -/
def decreased (s : AdaptersManager) : AdapterEvent → List Adapter
  | .onRemoveAdapter id => (s.adapters.lookup id).toList
  | .finished n true =>
    (s.calls[n]?.bind fun adapter => s.adapterItems.lookup adapter.id).toList
  | _ => []

/-- The items are the registered adapters whose devices have arrived. -/
def Agrees (s : AdaptersManager) : Prop :=
  ∀ id adapter, s.adapterItems.lookup id = some adapter ↔
    s.adapters.lookup id = some adapter ∧ adapter ∈ s.arrived

/-- `adapterIncreased` is for no removed adapter, and `onAdapterRemoved` finds the item. -/
def Meets (s : AdaptersManager) (e : AdapterEvent) : Prop :=
  (∀ adapter ∈ s.increased e, adapter ∉ s.removed) ∧
    ∀ adapter ∈ s.decreased e, adapter.id ∈ s.adapterItems

/-- Devices arrive for an adapter that is registered, and an adapter that is removed has got its
devices. -/
def InOrder (s : AdaptersManager) : AdapterEvent → Prop
  | .onAddAdapter _ => True
  | .onRemoveAdapter id => ∀ adapter ∈ s.adapters.lookup id, adapter ∈ s.arrived
  | .finished n ok => ok = true → ∀ adapter ∈ s.calls[n]?,
      s.adapters.lookup adapter.id = some adapter

/-- What holds in every state. -/
structure Sound (s : AdaptersManager) : Prop where
  registered : ∀ {id adapter}, s.adapters.lookup id = some adapter →
    adapter.id = id ∧ adapter.serial < s.created ∧ adapter ∉ s.removed
  item : ∀ {id adapter}, s.adapterItems.lookup id = some adapter → adapter.id = id
  called : ∀ adapter ∈ s.calls, adapter.serial < s.created
  arrived : ∀ adapter ∈ s.arrived, adapter.serial < s.created
  removed : ∀ adapter ∈ s.removed, adapter.serial < s.created

theorem sound_initial : initial.Sound := by
  constructor <;> simp [initial]

/-- A new adapter is registered under an id that had none. -/
theorem lookup_onAddAdapter {s : AdaptersManager} {id id' : String} {adapter : Adapter} :
    (s.onAddAdapter id).adapters.lookup id' = some adapter ↔
      s.adapters.lookup id' = some adapter ∨
        id ≠ "" ∧ id ∉ s.adapters ∧ id' = id ∧ adapter = ⟨s.created, id⟩ := by
  unfold onAddAdapter
  dsimp only
  split_ifs with hnew
  · obtain ⟨hne, hfree⟩ := hnew
    by_cases hsame : id' = id
    · have hnone := AList.lookup_eq_none.mpr hfree
      rw [hsame, AList.lookup_insert, hnone]
      simp [hne, hfree, eq_comm]
    · rw [AList.lookup_insert_ne hsame]
      simp [hsame]
  · rw [iff_self_or]
    intro hother
    exact absurd ⟨hother.1, hother.2.1⟩ hnew

/-- What else a new adapter changes, and what it leaves. -/
theorem onAddAdapter_eq (s : AdaptersManager) (id : String) :
    (s.onAddAdapter id).created = s.created + 1 ∧
      (s.onAddAdapter id).calls = s.calls ++ [⟨s.created, id⟩] ∧
      (s.onAddAdapter id).adapterItems = s.adapterItems ∧
      (s.onAddAdapter id).arrived = s.arrived ∧ (s.onAddAdapter id).removed = s.removed := by
  unfold onAddAdapter
  dsimp only
  split_ifs <;> exact ⟨rfl, rfl, rfl, rfl, rfl⟩

/-- Where the item of a removed adapter is looked up. -/
theorem lookup_onAdapterRemoved {s : AdaptersManager} {old : Adapter} {id : String} :
    (s.onAdapterRemoved old).adapterItems.lookup id =
      if id = old.id then none else s.adapterItems.lookup id := by
  unfold onAdapterRemoved
  split_ifs with hsame
  · rw [hsame, AList.lookup_erase]
  · rw [AList.lookup_erase_ne hsame]

/-- A new item replaces the one with the id of its adapter. -/
theorem lookup_onAdapterAdded {s : AdaptersManager} (hs : s.Sound) {adapter : Adapter}
    {id : String} :
    (s.onAdapterAdded adapter).adapterItems.lookup id =
      if id = adapter.id then some adapter else s.adapterItems.lookup id := by
  unfold onAdapterAdded
  dsimp only
  split_ifs with hsame
  · rw [hsame, AList.lookup_insert]
  · rw [AList.lookup_insert_ne hsame]
    split
    · rename_i old hold
      rw [lookup_onAdapterRemoved, hs.item hold, if_neg hsame]
    · rfl

/-- A new item is all that changes when an adapter has its devices. -/
theorem onAdapterAdded_eq (s : AdaptersManager) (adapter : Adapter) :
    s.onAdapterAdded adapter =
      { s with adapterItems := (s.onAdapterAdded adapter).adapterItems } := by
  unfold onAdapterAdded
  dsimp only
  split <;> rfl

theorem onRemoveAdapter_of_none {s : AdaptersManager} {id : String}
    (h : s.adapters.lookup id = none) : s.onRemoveAdapter id = s := by
  simp only [onRemoveAdapter, h]

theorem onRemoveAdapter_of_some {s : AdaptersManager} {id : String} {adapter : Adapter}
    (h : s.adapters.lookup id = some adapter) :
    s.onRemoveAdapter id =
      { s with
        adapters := s.adapters.erase id
        adapterIds := s.adapterIds.erase id
        removed := insert adapter s.removed }.onAdapterRemoved adapter := by
  simp only [onRemoveAdapter, h]

/-- The registered adapters, once one is removed. -/
theorem lookup_onRemoveAdapter {s : AdaptersManager} {id id' : String} :
    (s.onRemoveAdapter id).adapters.lookup id' =
      if id' = id then none else s.adapters.lookup id' := by
  cases hold : s.adapters.lookup id with
  | none =>
    rw [onRemoveAdapter_of_none hold]
    split_ifs with hsame
    · rw [hsame, hold]
    · rfl
  | some old =>
    rw [onRemoveAdapter_of_some hold]
    simp only [onAdapterRemoved]
    split_ifs with hsame
    · rw [hsame, AList.lookup_erase]
    · rw [AList.lookup_erase_ne hsame]

theorem Sound.onAddAdapter {s : AdaptersManager} (h : s.Sound) (id : String) :
    (s.onAddAdapter id).Sound := by
  obtain ⟨hcreated, hcalls, hitems, harrived, hremoved⟩ := s.onAddAdapter_eq id
  constructor
  · intro id' adapter hlookup
    rw [hcreated, hremoved]
    obtain hlookup | ⟨-, -, rfl, rfl⟩ := lookup_onAddAdapter.mp hlookup
    · obtain ⟨hid, hlt, hnot⟩ := h.registered hlookup
      exact ⟨hid, Nat.lt_succ_of_lt hlt, hnot⟩
    · refine ⟨rfl, Nat.lt_succ_self _, ?_⟩
      intro hmem
      exact absurd (h.removed _ hmem) (Nat.lt_irrefl _)
  · intro id' adapter hlookup
    rw [hitems] at hlookup
    exact h.item hlookup
  · intro adapter hmem
    rw [hcreated]
    rw [hcalls] at hmem
    obtain hmem | hmem := List.mem_append.mp hmem
    · exact Nat.lt_succ_of_lt (h.called adapter hmem)
    · rw [List.mem_singleton.mp hmem]
      exact Nat.lt_succ_self _
  · intro adapter hmem
    rw [hcreated]
    rw [harrived] at hmem
    exact Nat.lt_succ_of_lt (h.arrived adapter hmem)
  · intro adapter hmem
    rw [hcreated]
    rw [hremoved] at hmem
    exact Nat.lt_succ_of_lt (h.removed adapter hmem)

theorem Sound.onRemoveAdapter {s : AdaptersManager} (h : s.Sound) (id : String) :
    (s.onRemoveAdapter id).Sound := by
  cases hold : s.adapters.lookup id with
  | none =>
    rw [onRemoveAdapter_of_none hold]
    exact h
  | some old =>
    obtain ⟨-, hlt, -⟩ := h.registered hold
    have hother : ∀ id', (s.onRemoveAdapter id).adapters.lookup id' =
        if id' = id then none else s.adapters.lookup id' := fun _ => lookup_onRemoveAdapter
    rw [onRemoveAdapter_of_some hold] at hother ⊢
    constructor
    · intro id' adapter hlookup
      rw [hother] at hlookup
      split_ifs at hlookup with hsame
      obtain ⟨hid, hlt, hnot⟩ := h.registered hlookup
      refine ⟨hid, hlt, ?_⟩
      intro hmem
      obtain rfl | hmem := Finset.mem_insert.mp hmem
      · exact hsame (hid.symm.trans (h.registered hold).1)
      · exact hnot hmem
    · intro id' adapter hlookup
      rw [lookup_onAdapterRemoved] at hlookup
      split_ifs at hlookup
      exact h.item hlookup
    · exact h.called
    · exact h.arrived
    · intro adapter hmem
      obtain rfl | hmem := Finset.mem_insert.mp hmem
      · exact hlt
      · exact h.removed adapter hmem

/-- A call that is replied to leaves the others. -/
theorem Sound.reply {s : AdaptersManager} (h : s.Sound) (n : ℕ) :
    { s with calls := s.calls.eraseIdx n }.Sound := by
  refine { h with called := ?_ }
  intro adapter hmem
  exact h.called adapter (List.mem_of_mem_eraseIdx hmem)

/-- The devices that arrive are of an adapter that has been created. -/
theorem Sound.arrive {s : AdaptersManager} (h : s.Sound) {n : ℕ} {adapter : Adapter}
    (hcall : s.calls[n]? = some adapter) :
    { s with
      calls := s.calls.eraseIdx n
      arrived := insert adapter s.arrived }.Sound := by
  refine { h.reply n with arrived := ?_ }
  intro adapter' hmem
  obtain rfl | hmem := Finset.mem_insert.mp hmem
  · exact h.called adapter' (List.mem_of_getElem? hcall)
  · exact h.arrived adapter' hmem

theorem Sound.onAdapterAdded {s : AdaptersManager} (h : s.Sound) (adapter : Adapter) :
    (s.onAdapterAdded adapter).Sound := by
  have hitem : ∀ {id adapter'},
      (s.onAdapterAdded adapter).adapterItems.lookup id = some adapter' → adapter'.id = id := by
    intro id adapter' hlookup
    rw [lookup_onAdapterAdded h] at hlookup
    split_ifs at hlookup with hsame
    · rw [← Option.some.inj hlookup, hsame]
    · exact h.item hlookup
  rw [onAdapterAdded_eq]
  exact { h with item := hitem }

theorem Sound.finished {s : AdaptersManager} (h : s.Sound) (n : ℕ) (ok : Bool) :
    (s.finished n ok).Sound := by
  unfold AdaptersManager.finished
  split
  · exact h
  · rename_i adapter hcall
    dsimp only
    split_ifs
    · exact (h.arrive hcall).onAdapterAdded adapter
    · exact h.reply n

/-- Every event keeps the manager sound. -/
theorem Sound.step {s : AdaptersManager} (h : s.Sound) (e : AdapterEvent) : (s.step e).Sound := by
  cases e with
  | onAddAdapter id => exact h.onAddAdapter id
  | onRemoveAdapter id => exact h.onRemoveAdapter id
  | finished n ok => exact h.finished n ok

/-- A new adapter waits for its devices without an item. -/
theorem Agrees.onAddAdapter {s : AdaptersManager} (h : s.Agrees) (hs : s.Sound) (id : String) :
    (s.onAddAdapter id).Agrees := by
  obtain ⟨-, -, hitems, harrived, -⟩ := s.onAddAdapter_eq id
  intro id' adapter
  rw [hitems, harrived, lookup_onAddAdapter, h id' adapter]
  constructor
  · intro hboth
    exact ⟨.inl hboth.1, hboth.2⟩
  · intro hboth
    obtain ⟨hlookup | ⟨-, -, -, rfl⟩, hmem⟩ := hboth
    · exact ⟨hlookup, hmem⟩
    · exact absurd (hs.arrived _ hmem) (Nat.lt_irrefl _)

/-- The item goes with its adapter exactly when the adapter has got one. -/
theorem Agrees.onRemoveAdapter_iff {s : AdaptersManager} (h : s.Agrees) (hs : s.Sound)
    (id : String) : (s.step (.onRemoveAdapter id)).Agrees ∧ s.Meets (.onRemoveAdapter id) ↔
      s.InOrder (.onRemoveAdapter id) := by
  have hagrees : (s.onRemoveAdapter id).Agrees := by
    cases hold : s.adapters.lookup id with
    | none =>
      rw [onRemoveAdapter_of_none hold]
      exact h
    | some old =>
      intro id' adapter
      rw [lookup_onRemoveAdapter, onRemoveAdapter_of_some hold, lookup_onAdapterRemoved,
        (hs.registered hold).1]
      split_ifs
      · simp
      · exact h id' adapter
  have hfinds : ∀ adapter ∈ s.adapters.lookup id,
      adapter.id ∈ s.adapterItems ↔ adapter ∈ s.arrived := by
    intro adapter hlookup
    have hid := (hs.registered hlookup).1
    rw [hid, ← AList.lookup_isSome, Option.isSome_iff_exists]
    constructor
    · intro hitem
      obtain ⟨old, hold⟩ := hitem
      obtain ⟨hlookup', hmem⟩ := (h id old).mp hold
      rwa [Option.some.inj (hlookup.symm.trans hlookup')]
    · intro hmem
      exact ⟨adapter, (h id adapter).mpr ⟨hlookup, hmem⟩⟩
  constructor
  · intro hboth adapter hlookup
    exact (hfinds adapter hlookup).mp (hboth.2.2 adapter (Option.mem_toList.mpr hlookup))
  · intro horder
    refine ⟨hagrees, fun _ hnil => absurd hnil List.not_mem_nil, ?_⟩
    intro adapter hmem
    have hlookup := Option.mem_toList.mp hmem
    exact (hfinds adapter hlookup).mpr (horder adapter hlookup)

/-- The items once the devices of an adapter have arrived. -/
theorem lookup_finished {s : AdaptersManager} (hs : s.Sound) {n : ℕ} {adapter : Adapter}
    (hcall : s.calls[n]? = some adapter) {id : String} :
    (s.finished n true).adapterItems.lookup id =
      if id = adapter.id then some adapter else s.adapterItems.lookup id := by
  simp only [AdaptersManager.finished, hcall, if_true]
  exact lookup_onAdapterAdded (hs.arrive hcall)

/-- What the arrival of devices leaves, and that they have arrived. -/
theorem finished_eq {s : AdaptersManager} {n : ℕ} {adapter : Adapter}
    (hcall : s.calls[n]? = some adapter) :
    (s.finished n true).adapters = s.adapters ∧
      (s.finished n true).arrived = insert adapter s.arrived := by
  simp only [AdaptersManager.finished, hcall, if_true]
  rw [onAdapterAdded_eq]
  exact ⟨rfl, rfl⟩

/-- The item of an adapter whose devices arrive is right exactly when the adapter is the one that
is registered. -/
theorem Agrees.finished_iff {s : AdaptersManager} (h : s.Agrees) (hs : s.Sound) {n : ℕ}
    {adapter : Adapter} (hcall : s.calls[n]? = some adapter) :
    (s.finished n true).Agrees ↔ s.adapters.lookup adapter.id = some adapter := by
  obtain ⟨hadapters, harrived⟩ := finished_eq hcall
  constructor
  · intro hagrees
    have hitem : (s.finished n true).adapterItems.lookup adapter.id = some adapter := by
      rw [lookup_finished hs hcall, if_pos rfl]
    have hboth := (hagrees adapter.id adapter).mp hitem
    rw [hadapters] at hboth
    exact hboth.1
  · intro hregistered id adapter'
    rw [lookup_finished hs hcall, hadapters, harrived, Finset.mem_insert]
    split_ifs with hsame
    · rw [hsame, hregistered]
      constructor
      · intro heq
        exact ⟨heq, .inl (Option.some.inj heq).symm⟩
      · intro hboth
        exact hboth.1
    · rw [h id adapter']
      constructor
      · intro hboth
        exact ⟨hboth.1, .inr hboth.2⟩
      · intro hboth
        obtain ⟨hlookup, rfl | hmem⟩ := hboth
        · exact absurd (hs.registered hlookup).1.symm hsame
        · exact ⟨hlookup, hmem⟩

/-- A step keeps the items in agreement, and calls the applet as it expects, exactly when it is
in order. -/
theorem Agrees.step_iff {s : AdaptersManager} (h : s.Agrees) (hs : s.Sound) (e : AdapterEvent) :
    (s.step e).Agrees ∧ s.Meets e ↔ s.InOrder e := by
  cases e with
  | onAddAdapter id =>
    apply iff_of_true _ trivial
    refine ⟨h.onAddAdapter hs id, ?_, ?_⟩
    · exact fun _ hnil => absurd hnil List.not_mem_nil
    · exact fun _ hnil => absurd hnil List.not_mem_nil
  | onRemoveAdapter id => exact h.onRemoveAdapter_iff hs id
  | finished n ok =>
    cases ok with
    | false =>
      have hagrees : (s.finished n false).Agrees := by
        unfold AdaptersManager.finished
        split
        · exact h
        · exact h
      apply iff_of_true _ (fun hfalse => Bool.noConfusion hfalse)
      refine ⟨hagrees, ?_, ?_⟩
      · exact fun _ hnil => absurd hnil List.not_mem_nil
      · exact fun _ hnil => absurd hnil List.not_mem_nil
    | true =>
      cases hcall : s.calls[n]? with
      | none =>
        have hstays : s.finished n true = s := by simp only [AdaptersManager.finished, hcall]
        simp [AdaptersManager.step, hstays, h, Meets, increased, decreased, InOrder, hcall]
      | some adapter =>
        have horder : s.InOrder (.finished n true) ↔
            s.adapters.lookup adapter.id = some adapter := by
          simp [InOrder, hcall]
        rw [horder, AdaptersManager.step, h.finished_iff hs hcall, and_iff_left_iff_imp]
        intro hregistered
        constructor
        · intro adapter' hmem
          simp only [increased, hcall, Option.toList_some, List.mem_singleton] at hmem
          rw [hmem]
          exact (hs.registered hregistered).2.2
        · intro old hmem
          simp only [decreased, hcall, Option.bind_some, Option.mem_toList] at hmem
          rw [hs.item hmem, ← AList.lookup_isSome, hmem]
          rfl

/-- Throughout a run, the items are the registered adapters whose devices have arrived, no removed
adapter is announced and no removal misses its item, exactly when devices arrive for registered
adapters only and no adapter is removed before its devices have arrived. -/
theorem always_agrees_iff (es : List AdapterEvent) :
    Always step Agrees initial es ∧ Obeys step Meets initial es ↔
      Obeys step InOrder initial es := by
  apply always_and_obeys_iff (I := Sound) (fun s e h => h.step e) _ es sound_initial
  · intro id adapter
    simp [initial]
  · intro s e hs h
    exact h.step_iff hs e

/-- An adapter is removed before its devices have arrived. -/
theorem not_always_agrees :
    ¬(Always step Agrees initial
        [.onAddAdapter "/adapter", .onRemoveAdapter "/adapter"] ∧
      Obeys step Meets initial
        [.onAddAdapter "/adapter", .onRemoveAdapter "/adapter"]) := by
  intro hboth
  have hlast := hboth.2.2.1.2
  revert hlast
  decide

end AdaptersManager

end DdeTrayLoader.Bluetooth
