import DdeTrayLoader.Tray.Steps

/-!
# Creations of SNI handlers

`SniTrayProtocol` creates the handler of an item in the thread pool and marks the item as pending.
An item that leaves the watcher's list loses its mark, but its creation goes on, and another may be
started when the item comes back; whichever is done first while the item is marked registers it.

Here every creation has a number, which its handler keeps, and the two hashes of the protocol are
kept apart. `TraySystem` has the protocol among the others.
-/

namespace DdeTrayLoader.Tray

open Transition

/-- The members of `SniTrayProtocol` and its creations: the number of those that were started, and
those that are not done, by number and item. `trayCreated` and `removeXEmbedItemByPid` are
bookkeeping: the signals emitted so far, oldest first. -/
structure SniCreations where
  registedItem : QHash String ℕ
  item2Pid : QHash String ℕ
  pendingItems : Finset String
  registeredMap : ℕ → Protocol
  started : ℕ
  creations : List (ℕ × String)
  trayCreated : List (String × ℕ)
  removeXEmbedItemByPid : List ℕ

/-- What happens to the protocol. -/
inductive CreationEvent where
  /-- The watcher's list is read. -/
  | registedItemChanged (currentRegistedItems : List String) (order : HashOrder String)
  /-- The queued call at the end of a creation, which has found this process. -/
  | completed (creation : ℕ × String) (pid : ℕ)
  /-- Another protocol changes the map they share. -/
  | registeredMapChanged (pid : ℕ) (protocol : Protocol)

namespace SniCreations

/-- No items yet. -/
def initial : SniCreations where
  registedItem := ∅
  item2Pid := ∅
  pendingItems := ∅
  registeredMap _ := .UNKNOWN
  started := 0
  creations := []
  trayCreated := []
  removeXEmbedItemByPid := []

/-- Start the creation of a handler for an item that has none. -/
def startCreation (s : SniCreations) (item : String) : SniCreations :=
  if item ∉ s.registedItem ∧ item ∉ s.pendingItems then
    { s with
      pendingItems := insert item s.pendingItems
      started := s.started + 1
      creations := s.creations ++ [(s.started, item)] }
  else s

/-- Remove an item that the watcher no longer lists. -/
def removeItem (currentRegistedItems : List String) (s : SniCreations) (item : String) :
    SniCreations :=
  if item ∈ currentRegistedItems then s
  else
    match s.registedItem.lookup item with
    | none => s
    | some _ =>
      let pid := (s.item2Pid.lookup item).getD 0
      { s with
        item2Pid := s.item2Pid.erase item
        registeredMap := Function.update s.registeredMap pid .UNKNOWN
        registedItem := s.registedItem.erase item }

/-- Cancel the creations for items that the watcher no longer lists. -/
def cancel (currentRegistedItems : List String) (s : SniCreations) : SniCreations :=
  { s with pendingItems := s.pendingItems.filter (· ∈ currentRegistedItems) }

/-- `registedItemChanged`, which lists its items in this order. -/
def registedItemChanged (s : SniCreations) (currentRegistedItems : List String)
    (order : HashOrder String) : SniCreations :=
  if currentRegistedItems = order.list s.registedItem.keys then s
  else
    let s := run startCreation s currentRegistedItems
    let s := run (removeItem currentRegistedItems) s (order.list s.registedItem.keys)
    s.cancel currentRegistedItems

/-- Register an item whose handler is done. -/
def register (s : SniCreations) (item : String) (handler pid : ℕ) : SniCreations :=
  { s with
    pendingItems := s.pendingItems.erase item
    item2Pid := s.item2Pid.insert item pid
    removeXEmbedItemByPid := if s.registeredMap pid ≠ .SNI then s.removeXEmbedItemByPid ++ [pid]
      else s.removeXEmbedItemByPid
    registeredMap := Function.update s.registeredMap pid .SNI
    registedItem := s.registedItem.insert item handler
    trayCreated := s.trayCreated ++ [(item, handler)] }

/-- The queued call at the end of a creation. -/
def completed (s : SniCreations) (creation : ℕ × String) (pid : ℕ) : SniCreations :=
  if creation ∉ s.creations then s
  else
    let s := { s with creations := s.creations.erase creation }
    if creation.2 ∉ s.pendingItems then s else s.register creation.2 creation.1 pid

def step (s : SniCreations) : CreationEvent → SniCreations
  | .registedItemChanged currentRegistedItems order =>
    s.registedItemChanged currentRegistedItems order
  | .completed creation pid => s.completed creation pid
  | .registeredMapChanged pid protocol =>
    { s with registeredMap := Function.update s.registeredMap pid protocol }

/-- The handler of an item, if it is registered. -/
def handler (s : SniCreations) (item : String) : Option ℕ := s.registedItem.lookup item

/-- The handlers with which `trayCreated` was emitted for an item. -/
def emitted (s : SniCreations) (item : String) : List ℕ :=
  (s.trayCreated.filter fun signal => signal.1 = item).map Prod.snd

/-! ## What the operations keep -/

variable {s s' : SniCreations} {item : String}

/-- The marks and the keys of the two hashes. -/
structure Booked (s : SniCreations) : Prop where
  disjoint : ∀ item ∈ s.pendingItems, item ∉ s.registedItem
  tracked : ∀ item, item ∈ s.item2Pid ↔ item ∈ s.registedItem

theorem booked_initial : initial.Booked :=
  ⟨fun _ h => absurd h (Finset.notMem_empty _), fun _ => Iff.rfl⟩

theorem Booked.startCreation (h : s.Booked) (item : String) : (s.startCreation item).Booked := by
  unfold SniCreations.startCreation
  split_ifs with hnew
  · refine ⟨?_, h.tracked⟩
    intro item' hitem'
    obtain rfl | hold := Finset.mem_insert.mp hitem'
    · exact hnew.1
    · exact h.disjoint item' hold
  · exact h

theorem Booked.removeItem (h : s.Booked) (currentRegistedItems : List String) (item : String) :
    (s.removeItem currentRegistedItems item).Booked := by
  unfold SniCreations.removeItem
  split_ifs with hlisted
  · exact h
  · cases s.registedItem.lookup item with
    | none => exact h
    | some handler =>
      refine ⟨?_, ?_⟩
      · intro item' hitem' hmem
        exact h.disjoint item' hitem' (AList.mem_erase.mp hmem).2
      · intro item'
        simp only [AList.mem_erase, h.tracked]

theorem Booked.cancel (h : s.Booked) (currentRegistedItems : List String) :
    (s.cancel currentRegistedItems).Booked :=
  ⟨fun item hitem => h.disjoint item (Finset.mem_filter.mp hitem).1, h.tracked⟩

theorem Booked.register (h : s.Booked) (item : String) (handler pid : ℕ) :
    (s.register item handler pid).Booked := by
  refine ⟨?_, ?_⟩
  · intro item' hitem' hmem
    obtain ⟨hne, hpending⟩ := Finset.mem_erase.mp hitem'
    obtain heq | hold := (AList.mem_insert _).mp hmem
    · exact hne heq
    · exact h.disjoint item' hpending hold
  · intro item'
    simp only [SniCreations.register, AList.mem_insert, h.tracked]

/-- Every step keeps the books. -/
theorem Booked.step (h : s.Booked) (e : CreationEvent) : (SniCreations.step s e).Booked := by
  cases e with
  | registedItemChanged currentRegistedItems order =>
    simp only [SniCreations.step, SniCreations.registedItemChanged]
    split_ifs
    · exact h
    · have hstarted := run_invariant (I := Booked) (fun _ item h => h.startCreation item)
        currentRegistedItems h
      exact (run_invariant (I := Booked)
        (fun _ item h => h.removeItem currentRegistedItems item) _ hstarted).cancel _
  | completed creation pid =>
    simp only [SniCreations.step, SniCreations.completed]
    split_ifs with hcreation hpending
    · exact Booked.register (s := { s with creations := s.creations.erase creation })
        ⟨h.disjoint, h.tracked⟩ _ _ _
    · exact ⟨h.disjoint, h.tracked⟩
    · exact h
  | registeredMapChanged pid protocol => exact ⟨h.disjoint, h.tracked⟩

/-! ## From registration to removal -/

/-- What a step does to an item: nothing, register it and emit its handler, or remove it. -/
inductive ItemStep (item : String) (s s' : SniCreations) : Prop
  | kept (hhandler : s'.handler item = s.handler item) (hemitted : s'.emitted item = s.emitted item)
  | entered (new : ℕ) (habsent : s.handler item = none) (hhandler : s'.handler item = some new)
      (hemitted : s'.emitted item = s.emitted item ++ [new])
  | left (hhandler : s'.handler item = none) (hemitted : s'.emitted item = s.emitted item)

/-- Marking items registers none of them. -/
theorem startCreation_items (item item' : String) :
    (s.startCreation item').handler item = s.handler item ∧
      (s.startCreation item').emitted item = s.emitted item := by
  unfold startCreation
  split_ifs
  · exact ⟨rfl, rfl⟩
  · exact ⟨rfl, rfl⟩

theorem removeItem_items (currentRegistedItems : List String) (item item' : String) :
    ((s.removeItem currentRegistedItems item').handler item = s.handler item ∨
        (s.removeItem currentRegistedItems item').handler item = none) ∧
      (s.removeItem currentRegistedItems item').emitted item = s.emitted item := by
  unfold removeItem
  split_ifs
  · exact ⟨.inl rfl, rfl⟩
  · cases s.registedItem.lookup item' with
    | none => exact ⟨.inl rfl, rfl⟩
    | some old =>
      refine ⟨?_, rfl⟩
      by_cases hitem : item = item'
      · rw [hitem]
        exact .inr (AList.lookup_erase _ _)
      · exact .inl (AList.lookup_erase_ne hitem)

/-- `registedItemChanged` registers no item. -/
theorem itemStep_registedItemChanged (currentRegistedItems : List String)
    (order : HashOrder String) :
    ItemStep item s (s.registedItemChanged currentRegistedItems order) := by
  unfold registedItemChanged
  split_ifs
  · exact .kept rfl rfl
  · have hstarted : (run startCreation s currentRegistedItems).handler item = s.handler item ∧
        (run startCreation s currentRegistedItems).emitted item = s.emitted item := by
      refine run_invariant (I := fun s' : SniCreations =>
        s'.handler item = s.handler item ∧ s'.emitted item = s.emitted item) ?_ _ ⟨rfl, rfl⟩
      intro s' item' h
      obtain ⟨hhandler, hemitted⟩ := startCreation_items (s := s') item item'
      exact ⟨hhandler.trans h.1, hemitted.trans h.2⟩
    generalize run startCreation s currentRegistedItems = marked at hstarted ⊢
    have hremoved : ∀ items : List String,
        ((run (removeItem currentRegistedItems) marked items).handler item = s.handler item ∨
          (run (removeItem currentRegistedItems) marked items).handler item = none) ∧
        (run (removeItem currentRegistedItems) marked items).emitted item = s.emitted item := by
      intro items
      refine run_invariant (I := fun s' : SniCreations =>
        (s'.handler item = s.handler item ∨ s'.handler item = none) ∧
          s'.emitted item = s.emitted item) ?_ items ⟨.inl hstarted.1, hstarted.2⟩
      intro s' item' h
      obtain ⟨hhandler, hemitted⟩ := removeItem_items (s := s') currentRegistedItems item item'
      refine ⟨?_, hemitted.trans h.2⟩
      obtain hsame | hgone := hhandler
      · rw [hsame]
        exact h.1
      · exact .inr hgone
    obtain ⟨hkept | hgone, hemitted⟩ := hremoved (order.list marked.registedItem.keys)
    · exact .kept hkept hemitted
    · exact .left hgone hemitted

theorem emitted_register (item item' : String) (new pid : ℕ) :
    (s.register item' new pid).emitted item =
      if item = item' then s.emitted item ++ [new] else s.emitted item := by
  unfold register emitted
  rw [List.filter_append, List.map_append]
  split_ifs with hitem
  · simp [hitem]
  · simp [Ne.symm hitem]

/-- A creation that finds its item marked registers it, and any other does nothing to the items. -/
theorem Booked.itemStep_completed (h : s.Booked) (creation : ℕ × String) (pid : ℕ) :
    ItemStep item s (s.completed creation pid) := by
  unfold completed
  dsimp only
  split_ifs with hcreation hpending
  · by_cases hitem : item = creation.2
    · have habsent : s.handler item = none := by
        rw [hitem]
        exact AList.lookup_eq_none.mpr (h.disjoint creation.2 hpending)
      refine .entered creation.1 habsent ?_ ?_
      · rw [hitem]
        exact AList.lookup_insert _
      · exact (emitted_register item creation.2 creation.1 pid).trans (if_pos hitem)
    · refine .kept (AList.lookup_insert_ne hitem) ?_
      exact (emitted_register item creation.2 creation.1 pid).trans (if_neg hitem)
  · exact .kept rfl rfl
  · exact .kept rfl rfl

theorem Booked.itemStep (h : s.Booked) (item : String) (e : CreationEvent) :
    ItemStep item s (SniCreations.step s e) := by
  cases e with
  | registedItemChanged currentRegistedItems order =>
    exact itemStep_registedItemChanged currentRegistedItems order
  | completed creation pid => exact h.itemStep_completed creation pid
  | registeredMapChanged pid protocol => exact .kept rfl rfl

theorem booked_run (es : List CreationEvent) : (run step initial es).Booked :=
  run_invariant (I := Booked) (fun _ e h => h.step e) es booked_initial

/-- Since the step at which a registered item entered, its handler is the same, and that step
emitted `trayCreated` with it and no step since did. -/
theorem registered_since (es : List CreationEvent) {item : String} {handler : ℕ}
    (h : (run step initial es).handler item = some handler) :
    ∃ es₁ e es₂, es = es₁ ++ e :: es₂ ∧ (run step initial es₁).handler item = none ∧
      Always step (fun s => s.handler item = some handler ∧
        s.emitted item = (run step initial es₁).emitted item ++ [handler])
        (step (run step initial es₁) e) es₂ := by
  induction es using List.reverseRecOn with
  | nil => cases h
  | append_singleton es e ih =>
    rw [run_concat] at h
    cases (booked_run es).itemStep item e with
    | kept hhandler hemitted =>
      obtain ⟨es₁, e₁, es₂, rfl, habsent, hsince⟩ := ih (hhandler.symm.trans h)
      refine ⟨es₁, e₁, es₂ ++ [e], by simp, habsent, hsince.concat ?_⟩
      rw [run_append, run_cons] at h hemitted
      exact ⟨h, hemitted.trans hsince.last.2⟩
    | entered new habsent hhandler hemitted =>
      obtain rfl : new = handler := Option.some.inj (hhandler.symm.trans h)
      exact ⟨es, e, [], rfl, habsent, hhandler, hemitted⟩
    | left hhandler hemitted =>
      rw [h] at hhandler
      cases hhandler

/-- After any events the marked items are not registered, the items with a process are the
registered ones, and of each registered item `trayCreated` was emitted once since it entered, with
the handler it has had since. -/
theorem creation_bookkeeping (es : List CreationEvent) :
    let s := run step initial es
    (∀ item ∈ s.pendingItems, item ∉ s.registedItem) ∧
    (∀ item, item ∈ s.item2Pid ↔ item ∈ s.registedItem) ∧
    (∀ item ∈ s.registedItem, ∃ handler es₁ e es₂, es = es₁ ++ e :: es₂ ∧
      item ∉ (run step initial es₁).registedItem ∧
      Always step (fun s => s.registedItem.lookup item = some handler ∧
        s.emitted item = (run step initial es₁).emitted item ++ [handler])
        (step (run step initial es₁) e) es₂) := by
  intro s
  have h : s.Booked := booked_run es
  refine ⟨h.disjoint, h.tracked, ?_⟩
  intro item hitem
  obtain ⟨handler, hhandler⟩ := Option.isSome_iff_exists.mp (AList.lookup_isSome.mpr hitem)
  obtain ⟨es₁, e, es₂, hes, habsent, hsince⟩ := registered_since es hhandler
  exact ⟨handler, es₁, e, es₂, hes, AList.lookup_eq_none.mp habsent, hsince⟩

/-! ## The protocol among the others -/

/-- The tray has its SNI protocol in this state. -/
structure Projects (t : TraySystem) (s : SniCreations) : Prop where
  keys : t.sni.items.keys = s.registedItem.keys
  item2Pid : t.sni.items.item2Pid = s.item2Pid
  pendingItems : t.sni.pendingItems = s.pendingItems
  creations : t.creations.Perm (s.creations.map Prod.snd)

theorem Projects.mem_iff {t : TraySystem} (h : Projects t s) (item : String) :
    item ∈ t.sni.items.keys ↔ item ∈ s.registedItem := by
  rw [h.keys]
  exact AList.mem_keys.symm

theorem Projects.startCreation {t : TraySystem} (h : Projects t s) (item : String) :
    Projects (t.startCreation item) (s.startCreation item) := by
  unfold TraySystem.startCreation SniCreations.startCreation
  by_cases hnew : item ∉ s.registedItem ∧ item ∉ s.pendingItems
  · rw [if_pos hnew, if_pos (by rwa [h.mem_iff, h.pendingItems])]
    refine ⟨h.keys, h.item2Pid, congrArg (insert item) h.pendingItems, ?_⟩
    rw [List.map_append]
    exact h.creations.append_right [item]
  · rw [if_neg hnew, if_neg (by rwa [h.mem_iff, h.pendingItems])]
    exact h

theorem Projects.removeItem {t : TraySystem} (h : Projects t s) (current : List String)
    (item : String) : Projects (t.removeSniItem current item) (s.removeItem current item) := by
  obtain ⟨hkept, heq⟩ | ⟨hgone, hmem, heq⟩ := t.removeSniItem_cases current item
  · rw [heq]
    unfold SniCreations.removeItem
    split_ifs with hlisted
    · exact h
    · have hnot : item ∉ s.registedItem := by
        rw [← h.mem_iff]
        exact hkept.resolve_left hlisted
      rw [AList.lookup_eq_none.mpr hnot]
      exact h
  · obtain ⟨handler, hhandler⟩ := Option.isSome_iff_exists.mp
      (AList.lookup_isSome.mpr ((h.mem_iff item).mp hmem))
    rw [heq]
    unfold SniCreations.removeItem
    rw [if_neg hgone, hhandler]
    refine ⟨?_, congrArg (AList.erase item) h.item2Pid, h.pendingItems, h.creations⟩
    have hkeys : (t.sni.items.remove item).keys = t.sni.items.keys.erase item :=
      AList.keys_erase _ _
    exact hkeys.trans ((congrArg (List.erase · item) h.keys).trans (AList.keys_erase _ _).symm)

/-- A loop over the same items keeps the projection. -/
theorem Projects.run {step : SniCreations → String → SniCreations}
    {step' : TraySystem → String → TraySystem}
    (hstep : ∀ t s item, Projects t s → Projects (step' t item) (step s item))
    {t : TraySystem} (h : Projects t s) (items : List String) :
    Projects (Transition.run step' t items) (Transition.run step s items) := by
  induction items generalizing t s with
  | nil => exact h
  | cons item items ih => exact ih (hstep t s item h)

theorem Projects.registedItemChanged {t : TraySystem} (h : Projects t s)
    (order : HashOrder String) :
    Projects (t.registedItemChanged order) (s.registedItemChanged t.watcher order) := by
  unfold TraySystem.registedItemChanged SniCreations.registedItemChanged
  dsimp only
  rw [h.keys]
  split_ifs
  · exact ⟨h.keys, h.item2Pid, h.pendingItems, h.creations⟩
  · have hread : Projects { t with read := true } s :=
      ⟨h.keys, h.item2Pid, h.pendingItems, h.creations⟩
    have hstarted := hread.run (fun _ _ item h => h.startCreation item) t.watcher
    have hremoved := hstarted.run (fun _ _ item h => h.removeItem t.watcher item)
      (order.list (Transition.run SniCreations.startCreation s t.watcher).registedItem.keys)
    rw [hstarted.keys]
    exact ⟨hremoved.keys, hremoved.item2Pid,
      congrArg (Finset.filter (· ∈ t.watcher)) hremoved.pendingItems, hremoved.creations⟩

/-- A creation of the item ends in both. -/
theorem Projects.handlerCreated {t : TraySystem} (session : Session) (h : Projects t s)
    (item : String) (order : HashOrder Window) :
    Projects (t.handlerCreated session item order) s ∨ ∃ creation,
      Projects (t.handlerCreated session item order)
        (s.completed creation (session.itemPid item)) := by
  -- of the creations of the item any will do
  have hcreation : item ∈ t.creations → ∃ creation ∈ s.creations, creation.2 = item := by
    intro hmem
    exact List.mem_map.mp (h.creations.mem_iff.mp hmem)
  have herase : ∀ creation ∈ s.creations, creation.2 = item →
      (t.creations.erase item).Perm ((s.creations.erase creation).map Prod.snd) := by
    intro creation hmem hitem
    have hperm := (List.perm_cons_erase hmem).map Prod.snd
    rw [List.map_cons, hitem] at hperm
    have herased := (h.creations.trans hperm).erase item
    rwa [List.erase_cons_head] at herased
  obtain ⟨-, heq⟩ | ⟨hmem, hcancelled, heq⟩ | ⟨hcompletes, heq⟩ :=
    t.handlerCreated_cases session item order
  · rw [heq]
    exact .inl h
  · obtain ⟨creation, hin, rfl⟩ := hcreation hmem
    refine .inr ⟨creation, ?_⟩
    rw [heq]
    unfold completed
    dsimp only
    rw [if_neg (not_not_intro hin), if_pos (by rwa [← h.pendingItems])]
    exact ⟨h.keys, h.item2Pid, h.pendingItems, herase creation hin rfl⟩
  · obtain ⟨creation, hin, rfl⟩ := hcreation hcompletes.1
    refine .inr ⟨creation, ?_⟩
    rw [heq]
    unfold completed
    dsimp only
    rw [if_neg (not_not_intro hin), if_neg (not_not_intro (h.pendingItems ▸ hcompletes.2))]
    refine ⟨?_, ?_, ?_, herase creation hin rfl⟩
    · have hkeys : (t.sni.items.insert creation.2 ⟨creation.2⟩
          (session.itemPid creation.2)).keys =
            creation.2 :: t.sni.items.keys.erase creation.2 := AList.keys_insert _
      exact hkeys.trans ((congrArg (fun keys => creation.2 :: keys.erase creation.2) h.keys).trans
        (AList.keys_insert _).symm)
    · exact congrArg (AList.insert creation.2 (session.itemPid creation.2)) h.item2Pid
    · exact congrArg (Finset.erase · creation.2) h.pendingItems

/-- Every run of the tray is, for its SNI protocol, a run of the protocol alone. -/
theorem projects_run (session : Session) (es : List Event) :
    ∃ es', Projects (run (TraySystem.step session) (.initial session) es)
      (run step initial es') := by
  induction es using List.reverseRecOn with
  | nil => exact ⟨[], rfl, rfl, rfl, .refl _⟩
  | append_singleton es e ih =>
    obtain ⟨es', h⟩ := ih
    rw [run_concat]
    generalize run (TraySystem.step session) (.initial session) es = t at h ⊢
    have hkeep : ∀ t' : TraySystem, t'.sni = t.sni → t'.creations = t.creations →
        ∃ es', Projects t' (run step initial es') := by
      intro t' hsni hcreations
      exact ⟨es', by rw [hsni]; exact h.keys, by rw [hsni]; exact h.item2Pid,
        by rw [hsni]; exact h.pendingItems, by rw [hcreations]; exact h.creations⟩
    cases hregisters : TraySystem.registers e with
    | false =>
      have hframe := TraySystem.step_of_not_registers session hregisters t
      exact hkeep _ hframe.2.1 hframe.2.2.2
    | true =>
      cases e with
      | registedItemChanged order =>
        refine ⟨es' ++ [.registedItemChanged t.watcher order], ?_⟩
        rw [run_concat]
        exact h.registedItemChanged order
      | handlerCreated item order =>
        obtain hsame | ⟨creation, hnext⟩ := h.handlerCreated session item order
        · exact ⟨es', hsame⟩
        · refine ⟨es' ++ [.completed creation (session.itemPid item)], ?_⟩
          rw [run_concat]
          exact hnext
      | syncTrayIcons listed order =>
        by_cases htimers : t.timers = 0
        · have hsame : t.syncTrayIcons session listed order = t := if_pos htimers
          refine ⟨es', ?_⟩
          change Projects (t.syncTrayIcons session listed order) _
          rwa [hsame]
        · have hframe := (t.syncTrayIcons_spec session listed order
            (Nat.pos_of_ne_zero htimers)).1
          exact hkeep _ hframe.sni hframe.creations
      | _ => cases hregisters

end SniCreations

end DdeTrayLoader.Tray
