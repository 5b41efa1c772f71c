import DdeTrayLoader.Transition.Run
import DdeTrayLoader.Tray.Registered
import Mathlib.Data.Finset.Erase
import Mathlib.Data.Finset.Image
import Mathlib.Data.Finset.Range
import Mathlib.Data.Nat.Find

/-!
# Ids of tray items

A handler names its item after its program, with the first suffix from 0 to 99 that no other
handler has, and `TrayPlugin` keeps the widgets of the items by these names. When all
suffixes are taken, `generateUniqueId` warns and returns the name without a suffix, which
it does not record: from the second such handler on, handlers share a name.
-/

namespace DdeTrayLoader.Tray

open Transition

/-- The `i`-th id that is tried. -/
def suffixed (id : String) (i : ℕ) : String := id ++ "-" ++ toString i

/-- `generateUniqueId` on the ids in use, with its result. -/
def generateUniqueId (currentIds : Finset String) (id : String) : Finset String × String :=
  match ((List.range 100).map (suffixed id)).find? (· ∉ currentIds) with
  | some newId => (insert newId currentIds, newId)
  | none => (currentIds, id)

/-- `removeUniqueId`. -/
def removeUniqueId (currentIds : Finset String) (id : String) : Finset String :=
  currentIds.erase id

/-- A handler with its id. `shown` says that `trayCreated` was emitted for it. -/
structure TrayHandler where
  alive : Bool := false
  id : String := ""
  shown : Bool := false
  deriving DecidableEq, Repr

/-- The handlers by the order of their construction, `m_currentIds` of `Util`, and `m_widget`
of `TrayPlugin` with the handler that each widget shows. -/
structure TrayItems where
  currentIds : Finset String
  handler : ℕ → TrayHandler
  next : ℕ
  widget : QHash String ℕ

/-- What happens to handlers. -/
inductive ItemEvent where
  /-- A handler is constructed, and names itself after `id`. -/
  | create (id : String)
  | trayCreated (ref : ℕ)
  | destroy (ref : ℕ)
  deriving DecidableEq, Repr

namespace TrayItems

/-- No handlers yet. -/
def initial : TrayItems := ⟨∅, fun _ => {}, 0, ∅⟩

/-- Change the members of a handler. -/
def modify (items : TrayItems) (ref : ℕ) (f : TrayHandler → TrayHandler) : TrayItems :=
  { items with handler := Function.update items.handler ref (f (items.handler ref)) }

/-- `generateId` of a new handler. -/
def create (items : TrayItems) (id : String) : TrayItems :=
  let (currentIds, newId) := generateUniqueId items.currentIds id
  { items with
    currentIds := currentIds
    handler := Function.update items.handler items.next { alive := true, id := newId }
    next := items.next + 1 }

/-- `onTrayhandlerCreatd`. -/
def onTrayhandlerCreatd (items : TrayItems) (ref : ℕ) : TrayItems :=
  { items with widget := items.widget.insert (items.handler ref).id ref }.modify ref
    fun handler => { handler with shown := true }

/-- A handler's destructor, and what `TrayPlugin` does when it is destroyed. -/
def destroy (items : TrayItems) (ref : ℕ) : TrayItems :=
  let handler := items.handler ref
  let items := { items with currentIds := removeUniqueId items.currentIds handler.id }
  let items :=
    if handler.shown then { items with widget := items.widget.erase handler.id } else items
  items.modify ref fun handler => { handler with alive := false }

def step (items : TrayItems) : ItemEvent → TrayItems
  | .create id => items.create id
  | .trayCreated ref =>
    if (items.handler ref).alive && !(items.handler ref).shown then items.onTrayhandlerCreatd ref
    else items
  | .destroy ref => if (items.handler ref).alive then items.destroy ref else items

/-- The live handlers have different ids, and each that is shown has its own widget. -/
structure Distinct (items : TrayItems) : Prop where
  injective : ∀ ref ref', (items.handler ref).alive = true → (items.handler ref').alive = true →
    (items.handler ref).id = (items.handler ref').id → ref = ref'
  widget : ∀ ref, (items.handler ref).alive = true → (items.handler ref).shown = true →
    items.widget.lookup (items.handler ref).id = some ref

/-- A handler that is created finds one of its hundred suffixes free. -/
def FindsSuffix (items : TrayItems) : ItemEvent → Prop
  | .create id => ∃ i < 100, suffixed id i ∉ items.currentIds
  | _ => True

end TrayItems

/-- Different suffixes give different ids. -/
theorem suffixed_injective (id : String) : Function.Injective (suffixed id) := by
  intro i j hsame
  have hrepr : Nat.repr i = Nat.repr j := (String.append_right_inj (id ++ "-")).mp hsame
  have hdigits : Nat.toDigits 10 i = Nat.toDigits 10 j := String.ofList_injective hrepr
  rw [← Nat.ofDigitChars_ten_toDigits (n := i), hdigits, Nat.ofDigitChars_ten_toDigits]

/-- The generated id is the first suffixed one that is not in use, and it is recorded. -/
theorem generateUniqueId_eq {currentIds : Finset String} {id : String} {i : ℕ} (hlt : i < 100)
    (hfree : suffixed id i ∉ currentIds) (htaken : ∀ j < i, suffixed id j ∈ currentIds) :
    generateUniqueId currentIds id = (insert (suffixed id i) currentIds, suffixed id i) := by
  have hfound : (List.range 100).find? ((decide <| · ∉ currentIds) ∘ suffixed id) = some i := by
    rw [List.find?_range_eq_some]
    exact ⟨decide_eq_true hfree, List.mem_range.mpr hlt, by simpa using htaken⟩
  rw [generateUniqueId, List.find?_map, hfound]
  rfl

/-- When a suffix is free, the generated id is one that was not in use. -/
theorem generateUniqueId_fresh {currentIds : Finset String} {id : String}
    (hfree : ∃ i < 100, suffixed id i ∉ currentIds) :
    ∃ newId, newId ∉ currentIds ∧
      generateUniqueId currentIds id = (insert newId currentIds, newId) := by
  obtain ⟨hlt, hfirst⟩ := Nat.find_spec hfree
  refine ⟨suffixed id (Nat.find hfree), hfirst, generateUniqueId_eq hlt hfirst ?_⟩
  intro j hj
  by_contra hnot
  exact Nat.find_min hfree hj ⟨hj.trans hlt, hnot⟩

/-- When no suffix is free, the id is returned as it is, and not recorded. -/
theorem generateUniqueId_full {currentIds : Finset String} {id : String}
    (hfull : ∀ i < 100, suffixed id i ∈ currentIds) :
    generateUniqueId currentIds id = (currentIds, id) := by
  have hnone : ((List.range 100).map (suffixed id)).find? (· ∉ currentIds) = none := by
    rw [List.find?_eq_none]
    intro newId hmem
    obtain ⟨i, hi, rfl⟩ := List.mem_map.mp hmem
    simp [hfull i (List.mem_range.mp hi)]
  rw [generateUniqueId, hnone]

namespace TrayItems

/-- The ids in use are those of the live handlers, which differ, and every widget that is kept
shows a live handler. -/
structure Consistent (items : TrayItems) : Prop where
  distinct : items.Distinct
  fresh : ∀ ref, items.next ≤ ref → (items.handler ref).alive = false
  recorded : ∀ id, id ∈ items.currentIds ↔
    ∃ ref, (items.handler ref).alive = true ∧ (items.handler ref).id = id

/-- The handler that is created has the id that was generated. -/
theorem create_eq {items : TrayItems} {id newId : String} {currentIds : Finset String}
    (heq : generateUniqueId items.currentIds id = (currentIds, newId)) :
    items.create id = { items with
      currentIds := currentIds
      handler := Function.update items.handler items.next { alive := true, id := newId }
      next := items.next + 1 } := by
  rw [create, heq]

theorem Consistent.create {items : TrayItems} (h : items.Consistent) {id : String}
    (hfree : ∃ i < 100, suffixed id i ∉ items.currentIds) : (items.create id).Consistent := by
  obtain ⟨newId, hnew, heq⟩ := generateUniqueId_fresh hfree
  have hunused {ref : ℕ} (halive : (items.handler ref).alive = true) :
      (items.handler ref).id ≠ newId :=
    fun hsame => hnew ((h.recorded newId).mpr ⟨ref, halive, hsame⟩)
  have hdead : (items.handler items.next).alive = false := h.fresh _ le_rfl
  rw [create_eq heq]
  constructor
  · constructor
    · intro ref ref'
      simp only [Function.update_apply]
      split_ifs with href href' href'
      · intro _ _ _
        rw [href, href']
      · intro _ halive' hsame
        exact absurd hsame.symm (hunused halive')
      · intro halive _ hsame
        exact absurd hsame (hunused halive)
      · exact h.distinct.injective ref ref'
    · intro ref
      by_cases hne : ref = items.next
      · simp [hne]
      · dsimp only
        rw [Function.update_of_ne hne]
        exact h.distinct.widget ref
  · intro ref hle
    have hne : ref ≠ items.next := Nat.ne_of_gt hle
    simpa [hne] using h.fresh ref (Nat.le_of_succ_le hle)
  · intro id'
    simp only [Finset.mem_insert, h.recorded]
    constructor
    · intro hcase
      obtain rfl | ⟨ref, halive, hid⟩ := hcase
      · exact ⟨items.next, by simp⟩
      · have hne : ref ≠ items.next := by
          intro hnext
          rw [hnext, hdead] at halive
          exact absurd halive (by decide)
        exact ⟨ref, by simpa [hne] using ⟨halive, hid⟩⟩
    · intro hcase
      obtain ⟨ref, halive, hid⟩ := hcase
      simp only [Function.update_apply] at halive hid
      split_ifs at halive hid
      · exact .inl hid.symm
      · exact .inr ⟨ref, halive, hid⟩

theorem Consistent.onTrayhandlerCreatd {items : TrayItems} (h : items.Consistent) {ref : ℕ}
    (halive : (items.handler ref).alive = true) : (items.onTrayhandlerCreatd ref).Consistent := by
  have hhandler (ref' : ℕ) : (items.onTrayhandlerCreatd ref).handler ref' =
      if ref' = ref then { items.handler ref with shown := true } else items.handler ref' :=
    Function.update_apply _ _ _ _
  have hids (ref' : ℕ) :
      ((items.onTrayhandlerCreatd ref).handler ref').id = (items.handler ref').id := by
    rw [hhandler]
    split_ifs with href
    · rw [href]
    · rfl
  have halives (ref' : ℕ) :
      ((items.onTrayhandlerCreatd ref).handler ref').alive = (items.handler ref').alive := by
    rw [hhandler]
    split_ifs with href
    · rw [href]
    · rfl
  constructor
  · constructor
    · intro ref₁ ref₂
      rw [halives, halives, hids, hids]
      exact h.distinct.injective ref₁ ref₂
    · intro ref' halive' hshown
      rw [halives] at halive'
      rw [hids]
      change (items.widget.insert (items.handler ref).id ref).lookup _ = _
      by_cases href : ref' = ref
      · rw [href, AList.lookup_insert]
      · have hne : (items.handler ref').id ≠ (items.handler ref).id :=
          fun hsame => href (h.distinct.injective _ _ halive' halive hsame)
        rw [hhandler, if_neg href] at hshown
        rw [AList.lookup_insert_ne hne]
        exact h.distinct.widget ref' halive' hshown
  · intro ref' hle
    rw [halives]
    exact h.fresh ref' hle
  · intro id
    simp only [halives, hids]
    exact h.recorded id

/-- The handler that is destroyed is the only one that dies. -/
theorem destroy_handler (items : TrayItems) (ref ref' : ℕ) : (items.destroy ref).handler ref' =
    if ref' = ref then { items.handler ref with alive := false } else items.handler ref' := by
  unfold destroy
  dsimp only
  split <;> exact Function.update_apply _ _ _ _

/-- A handler that is alive still is another one, and as it was. -/
theorem of_destroy_alive {items : TrayItems} {ref ref' : ℕ}
    (halive : ((items.destroy ref).handler ref').alive = true) :
    ref' ≠ ref ∧ (items.destroy ref).handler ref' = items.handler ref' := by
  rw [destroy_handler] at halive ⊢
  split_ifs at halive ⊢ with href
  exact ⟨href, rfl⟩

theorem destroy_currentIds (items : TrayItems) (ref : ℕ) :
    (items.destroy ref).currentIds = items.currentIds.erase (items.handler ref).id := by
  unfold destroy
  dsimp only
  split <;> rfl

theorem destroy_next (items : TrayItems) (ref : ℕ) : (items.destroy ref).next = items.next := by
  unfold destroy
  dsimp only
  split <;> rfl

theorem destroy_widget_of_ne (items : TrayItems) {ref : ℕ} {id : String}
    (hne : id ≠ (items.handler ref).id) :
    (items.destroy ref).widget.lookup id = items.widget.lookup id := by
  unfold destroy
  dsimp only
  split
  · exact AList.lookup_erase_ne hne
  · rfl

theorem Consistent.destroy {items : TrayItems} (h : items.Consistent) {ref : ℕ}
    (halive : (items.handler ref).alive = true) : (items.destroy ref).Consistent := by
  have hids {ref' : ℕ} (hne : ref' ≠ ref) (halive' : (items.handler ref').alive = true) :
      (items.handler ref').id ≠ (items.handler ref).id :=
    fun hsame => hne (h.distinct.injective _ _ halive' halive hsame)
  constructor
  · constructor
    · intro ref₁ ref₂ halive₁ halive₂
      obtain ⟨-, heq₁⟩ := of_destroy_alive halive₁
      obtain ⟨-, heq₂⟩ := of_destroy_alive halive₂
      rw [heq₁] at halive₁ ⊢
      rw [heq₂] at halive₂ ⊢
      exact h.distinct.injective ref₁ ref₂ halive₁ halive₂
    · intro ref' halive' hshown
      obtain ⟨hne, heq⟩ := of_destroy_alive halive'
      rw [heq] at halive' hshown ⊢
      rw [destroy_widget_of_ne items (hids hne halive')]
      exact h.distinct.widget ref' halive' hshown
  · intro ref' hle
    rw [destroy_next] at hle
    rw [destroy_handler]
    split_ifs
    · rfl
    · exact h.fresh ref' hle
  · intro id
    rw [destroy_currentIds, Finset.mem_erase, h.recorded]
    constructor
    · intro hboth
      obtain ⟨hne, ref', halive', rfl⟩ := hboth
      have href : ref' ≠ ref := by
        intro hsame
        exact hne (by rw [hsame])
      refine ⟨ref', ?_⟩
      rw [destroy_handler, if_neg href]
      exact ⟨halive', rfl⟩
    · intro hsome
      obtain ⟨ref', halive', rfl⟩ := hsome
      obtain ⟨hne, heq⟩ := of_destroy_alive halive'
      rw [heq] at halive' ⊢
      exact ⟨hids hne halive', ref', halive', rfl⟩

/-- A step in which a new handler finds a free suffix. -/
theorem Consistent.step {items : TrayItems} (h : items.Consistent) {e : ItemEvent}
    (hfree : items.FindsSuffix e) : (items.step e).Consistent := by
  cases e with
  | create id => exact h.create hfree
  | trayCreated ref =>
    change (if _ then _ else _ : TrayItems).Consistent
    split
    · rename_i hshows
      exact h.onTrayhandlerCreatd (Bool.and_elim_left hshows)
    · exact h
  | destroy ref =>
    change (if _ then _ else _ : TrayItems).Consistent
    split
    · rename_i halive
      exact h.destroy halive
    · exact h

theorem initial_consistent : initial.Consistent where
  distinct :=
    { injective := by simp [initial]
      widget := by simp [initial] }
  fresh _ _ := rfl
  recorded id := by simp [initial]

/-- The first hundred handlers of a program get its suffixes in order. -/
theorem run_create (id : String) {n : ℕ} (hle : n ≤ 100) :
    (run step initial (List.replicate n (.create id))).currentIds =
        (Finset.range n).image (suffixed id) ∧
      (run step initial (List.replicate n (.create id))).next = n := by
  induction n with
  | zero => exact ⟨rfl, rfl⟩
  | succ n ih =>
    obtain ⟨hids, hnext⟩ := ih (Nat.le_of_succ_le hle)
    have hfree : suffixed id n ∉ (Finset.range n).image (suffixed id) := by
      simp [(suffixed_injective id).eq_iff]
    have htaken : ∀ j < n, suffixed id j ∈ (Finset.range n).image (suffixed id) :=
      fun j hj => Finset.mem_image_of_mem _ (Finset.mem_range.mpr hj)
    have heq := generateUniqueId_eq hle hfree htaken
    rw [List.replicate_succ', run_concat]
    simp only [step, create, hids, heq, hnext, Finset.range_add_one, Finset.image_insert]
    trivial

/-- In a run in which every handler that is created finds a free suffix, the live handlers
have different ids at all times, and none shares its entry of `m_widget` with another. -/
theorem live_ids_distinct (es : List ItemEvent) (hfree : Obeys step FindsSuffix initial es) :
    (run step initial es).Distinct :=
  (run_invariant_of_obeys (I := Consistent) (fun _ _ h hfree => h.step hfree) initial_consistent
    hfree).distinct

/-- `trayCreated` changes no ids. -/
theorem currentIds_trayCreated (items : TrayItems) (ref : ℕ) :
    (items.step (.trayCreated ref)).currentIds = items.currentIds := by
  rw [step]
  split <;> rfl

/-- The first handler of a program gets the first suffix. -/
theorem currentIds_create_initial (id : String) :
    (initial.step (.create id)).currentIds = {suffixed id 0} :=
  (run_create id (Nat.le_add_left 1 99)).1

/-- Two items of one program, the first of which goes again. -/
theorem live_ids_distinct_two :
    (run step initial [.create "SNI:app", .trayCreated 0, .create "SNI:app", .trayCreated 1,
      .destroy 0]).Distinct := by
  apply live_ids_distinct
  refine ⟨⟨0, by decide, Finset.notMem_empty _⟩, trivial, ⟨1, by decide, ?_⟩, trivial, trivial,
    trivial⟩
  rw [currentIds_trayCreated, currentIds_create_initial]
  simp [(suffixed_injective "SNI:app").eq_iff]

/-- Two handlers that find all suffixes taken have the same id. -/
theorem not_distinct_of_full {items : TrayItems} {id : String}
    (hfull : ∀ i < 100, suffixed id i ∈ items.currentIds) :
    ¬(run step items (List.replicate 2 (.create id))).Distinct := by
  change ¬((items.create id).create id).Distinct
  intro hdistinct
  rw [create_eq (generateUniqueId_full hfull)] at hdistinct
  rw [create_eq (generateUniqueId_full (by exact hfull))] at hdistinct
  have hsame := hdistinct.injective items.next (items.next + 1)
  simp at hsame

/-- The next handlers of the program all get its name without a suffix. -/
theorem not_live_ids_distinct :
    ¬(run step initial (List.replicate 102 (.create "SNI:app"))).Distinct := by
  obtain ⟨hids, -⟩ := run_create "SNI:app" (le_refl 100)
  have hlast : List.replicate 102 (ItemEvent.create "SNI:app") =
      List.replicate 100 (.create "SNI:app") ++ List.replicate 2 (.create "SNI:app") := by
    rw [List.replicate_append_replicate]
  rw [hlast, run_append]
  apply not_distinct_of_full
  intro i hi
  rw [hids]
  exact Finset.mem_image_of_mem _ (Finset.mem_range.mpr hi)

end TrayItems

end DdeTrayLoader.Tray
