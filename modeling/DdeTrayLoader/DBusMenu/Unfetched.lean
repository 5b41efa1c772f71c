import DdeTrayLoader.DBusMenu.MenuFreshness

/-!
# A change that is not fetched

While an announcement of an item is to be ignored, the next change of the item is not fetched, and
nothing makes up for it later: the menu of the item shows what it showed until the item changes once
more, or until a menu is opened for which the service is asked about the item.
-/

namespace DdeTrayLoader.DBusMenu

open DdeTrayLoader.Objects DdeTrayLoader.Transition DdeTrayLoader.Lists

variable {kit : Toolkit}

/-- The item whose layout, or whose need of a refresh, a call asks for. -/
def Request.about : Request → Option ℤ
  | .getLayout id => some id
  | .aboutToShow id => some id
  | .event _ _ => none

/-- The item of the call that a message answers. -/
def Message.about : Message kit → Option ℤ
  | .layoutReply id _ => some id
  | .aboutToShowReply id _ => some id
  | _ => none

/-- The item whose layout a message announces. -/
def Message.announced : Message kit → Option ℤ
  | .layoutUpdated _ id => some id
  | _ => none

/-- The menu that is opened at an event, for which the service is asked. -/
def LocalEvent.opened : LocalEvent → Option MenuRef
  | .rightClick => some rootMenu
  | .themeTypeChanged _ => some rootMenu
  | .aboutToShow m => if m = rootMenu then none else some m
  | _ => none

namespace Importer

variable {s : Importer kit}

/-! ## The calls of the importer -/

theorem requests_deleteLater (s : Importer kit) (object : Deferred) :
    (s.deleteLater object).requests = s.requests := by
  unfold deleteLater
  split_ifs
  · rfl
  · rfl

theorem requests_removeOutdated (ids : List ℤ) (s : Importer kit) (r : ActionRef) :
    (s.removeOutdated ids r).requests = s.requests := by
  unfold removeOutdated
  cases s.actions.find r with
  | none => rfl
  | some action =>
    dsimp only
    split_ifs
    · rfl
    · cases (s.deleteLater (.action r)).menuOf action with
      | none => exact requests_deleteLater s _
      | some m => exact (requests_deleteLater _ _).trans (requests_deleteLater s _)

theorem requests_insertOrUpdate (m : MenuRef) (s : Importer kit) (item : DBusMenuLayoutItem kit) :
    (insertOrUpdate m s item).requests = s.requests := by
  rcases insertOrUpdate_cases m s item with ⟨-, heq⟩ | ⟨r, -, heq⟩
  · rw [heq]
    rfl
  · rw [heq]
    rfl

/-- A layout makes no calls. -/
theorem requests_slotGetLayoutFinished (s : Importer kit) (parentId : ℤ)
    (reply : Option (ℕ × DBusMenuLayoutItem kit)) :
    (s.slotGetLayoutFinished parentId reply).requests = s.requests := by
  unfold slotGetLayoutFinished
  cases s.menuForId parentId with
  | none => rfl
  | some m =>
    cases reply with
    | none => rfl
    | some reply =>
      change (s.replaceLayout m reply.2).requests = s.requests
      exact run_invariant (I := fun s' : Importer kit => s'.requests = s.requests)
        (fun s' item hs' => (requests_insertOrUpdate m s' item).trans hs') reply.2.children
        (run_invariant (I := fun s' : Importer kit => s'.requests = s.requests)
          (fun s' r hs' => (requests_removeOutdated reply.2.childIds s' r).trans hs')
          (s.actionsOf m) rfl)

theorem requests_updateItem (s : Importer kit) (id : ℤ) (updates : List (String × kit.Variant)) :
    (s.updateItem id updates).requests = s.requests := by
  unfold updateItem
  cases s.actionForId id with
  | none => rfl
  | some r => rfl

theorem requests_slotItemsPropertiesUpdated (s : Importer kit)
    (updatedList : List (DBusMenuItem kit)) (removedList : List DBusMenuItemKeys) :
    (s.slotItemsPropertiesUpdated updatedList removedList).requests = s.requests :=
  run_invariant (I := fun s' : Importer kit => s'.requests = s.requests)
    (fun s' _ hs' => (requests_updateItem s' _ _).trans hs') removedList
    (run_invariant (I := fun s' : Importer kit => s'.requests = s.requests)
      (fun s' _ hs' => (requests_updateItem s' _ _).trans hs') updatedList rfl)

/-- A message makes the importer call for the item that it is about only. -/
theorem requests_message {message : Message kit} {request : Request}
    (h : request ∈ (s.step message.event).requests) :
    request ∈ s.requests ∨ request.about = message.about := by
  cases message with
  | layoutUpdated revision parentId =>
    have hsame : (s.slotLayoutUpdated parentId).requests = s.requests := by
      unfold slotLayoutUpdated
      split_ifs
      · rfl
      · rfl
    exact .inl (hsame ▸ h)
  | itemsPropertiesUpdated updatedList removedList =>
    exact .inl (requests_slotItemsPropertiesUpdated s updatedList removedList ▸ h)
  | itemActivationRequested id timestamp =>
    have hsame : (s.slotItemActivationRequested id).requests = s.requests := by
      unfold slotItemActivationRequested
      cases s.actionForId id with
      | none => rfl
      | some r => rfl
    exact .inl (hsame ▸ h)
  | layoutReply parentId reply =>
    exact .inl (requests_slotGetLayoutFinished s parentId reply ▸ h)
  | aboutToShowReply id reply =>
    change request ∈ (s.slotAboutToShowDBusCallFinished id reply).requests at h
    unfold slotAboutToShowDBusCallFinished at h
    cases hm : s.menuForId id with
    | none =>
      rw [hm] at h
      exact .inl h
    | some m =>
      rw [hm] at h
      cases reply with
      | none => exact .inl h
      | some needRefresh =>
        dsimp only at h
        split_ifs at h
        · refine (List.mem_append.mp h).imp_right fun hnew => ?_
          rw [List.mem_singleton.mp hnew]
          rfl
        · exact .inl h

theorem requests_updateMenuOf {menu : Menu} {request : Request}
    (h : request ∈ (s.updateMenuOf menu).requests) :
    request ∈ s.requests ∨ request.about = none ∨ request.about = some (s.menuId menu) := by
  rcases List.mem_append.mp h with h | hevent
  · rcases List.mem_append.mp h with h | hcall
    · exact .inl h
    · rw [List.mem_singleton.mp hcall]
      exact .inr (.inr rfl)
  · rw [List.mem_singleton.mp hevent]
    exact .inr (.inl rfl)

/-- A root menu that is opened makes the importer call for its item. -/
theorem requests_updateRootMenu {request : Request} (h : request ∈ s.updateRootMenu.requests) :
    request ∈ s.requests ∨ request.about = none ∨
      ∃ menu, s.menus.find rootMenu = some menu ∧ request.about = some (s.menuId menu) := by
  unfold updateRootMenu at h
  cases hfind : s.menus.find rootMenu with
  | none =>
    rw [hfind] at h
    exact .inl h
  | some menu =>
    rw [hfind] at h
    exact (requests_updateMenuOf h).imp_right fun h => h.imp_right fun h => ⟨menu, rfl, h⟩

/-- The importer calls for the items of the layouts it waits for, and for the item of a menu that
is opened. -/
theorem requests_local {e : LocalEvent} {request : Request}
    (h : request ∈ (s.step e.event).requests) :
    request ∈ s.requests ∨ request.about = none ∨
      (∃ id ∈ s.pendingLayoutUpdates, request.about = some id) ∨
      ∃ m menu, e.opened = some m ∧ s.menus.find m = some menu ∧
        request.about = some (s.menuId menu) := by
  have hsent {s' : Importer kit} {id : ℤ} {eventId : String} (hs' : s'.requests = s.requests)
      (h : request ∈ (s'.sendEvent id eventId).requests) :
      request ∈ s.requests ∨ request.about = none := by
    refine (List.mem_append.mp h).imp (fun h => hs' ▸ h) fun hevent => ?_
    rw [List.mem_singleton.mp hevent]
    rfl
  cases e with
  | timeout order =>
    change request ∈ (s.timeout order).requests at h
    unfold timeout processPendingLayoutUpdates at h
    split_ifs at h
    · rw [MenuSystem.foldl_refresh] at h
      refine (List.mem_append.mp h).imp_right fun hnew => .inr (.inl ?_)
      obtain ⟨id, hid, rfl⟩ := List.mem_map.mp hnew
      exact ⟨id, order.mem_list.mp hid, rfl⟩
    · exact .inl h
  | deferredDelete =>
    have hsame : s.deferredDelete.requests = s.requests := by
      unfold deferredDelete
      split
      · rfl
      · rfl
      · rfl
    exact .inl (hsame ▸ h)
  | rightClick =>
    rcases requests_updateRootMenu h with h | h | ⟨menu, hfind, h⟩
    · exact .inl h
    · exact .inr (.inl h)
    · exact .inr (.inr (.inr ⟨rootMenu, menu, rfl, hfind, h⟩))
  | aboutToShow m =>
    change request ∈ (s.slotMenuAboutToShow m).requests at h
    unfold slotMenuAboutToShow at h
    cases hfind : s.menus.find m with
    | none =>
      rw [hfind] at h
      exact .inl h
    | some menu =>
      rw [hfind] at h
      dsimp only at h
      split_ifs at h with hroot
      · exact .inl h
      · exact (requests_updateMenuOf h).imp_right fun h => h.imp_right fun h =>
          .inr ⟨m, menu, if_neg hroot, hfind, h⟩
  | aboutToHide m =>
    change request ∈ (s.slotMenuAboutToHide m).requests at h
    unfold slotMenuAboutToHide at h
    cases hfind : s.menus.find m with
    | none =>
      rw [hfind] at h
      exact .inl h
    | some menu =>
      rw [hfind] at h
      dsimp only at h
      split_ifs at h
      · exact (hsent rfl h).imp_right .inl
      · exact .inl h
  | activate r =>
    change request ∈ (s.activate r).requests at h
    unfold activate at h
    cases hfind : s.actions.find r with
    | none =>
      rw [hfind] at h
      exact .inl h
    | some action =>
      rw [hfind] at h
      dsimp only at h
      split_ifs at h
      · exact (hsent rfl h).imp_right .inl
      · exact .inl h
  | themeTypeChanged themeType =>
    -- The theme is read by no call.
    rcases requests_updateRootMenu h with h | h | ⟨menu, hfind, h⟩
    · exact .inl h
    · exact .inr (.inl h)
    · exact .inr (.inr (.inr ⟨rootMenu, menu, rfl, hfind, h⟩))

theorem sameWaits_slotItemActivationRequested (s : Importer kit) (id : ℤ) :
    SameWaits s (s.slotItemActivationRequested id) := by
  unfold slotItemActivationRequested
  cases s.actionForId id with
  | none => exact .refl s
  | some r => exact ⟨rfl, rfl, rfl, List.Subset.refl _⟩

/-- The importer waits for the layout of another item only when it is announced and the
announcement is not ignored. -/
theorem pending_message {message : Message kit} {id : ℤ}
    (h : id ∈ (s.step message.event).pendingLayoutUpdates) :
    id ∈ s.pendingLayoutUpdates ∨
      message.announced = some id ∧ id ∉ s.idsRefreshedByAboutToShow := by
  cases message with
  | layoutUpdated revision parentId =>
    change id ∈ (s.slotLayoutUpdated parentId).pendingLayoutUpdates at h
    unfold slotLayoutUpdated at h
    split_ifs at h with hmarked
    · exact .inl h
    · rcases List.mem_insert_iff.mp h with rfl | h
      · exact .inr ⟨rfl, hmarked⟩
      · exact .inl h
  | itemsPropertiesUpdated updatedList removedList =>
    exact .inl ((sameWaits_slotItemsPropertiesUpdated s updatedList removedList).pending ▸ h)
  | itemActivationRequested id' timestamp =>
    exact .inl ((sameWaits_slotItemActivationRequested s id').pending ▸ h)
  | layoutReply parentId reply =>
    exact .inl ((sameWaits_slotGetLayoutFinished s parentId reply).pending ▸ h)
  | aboutToShowReply id' reply =>
    rcases MenuSystem.slotAboutToShow_cases s id' reply with hwaits | heq
    · exact .inl (hwaits.pending ▸ h)
    · change id ∈ (s.slotAboutToShowDBusCallFinished id' reply).pendingLayoutUpdates at h
      rw [heq] at h
      exact .inl h

/-- Whether an announcement of an item is to be ignored is up to the messages that announce the item
or are about it. -/
theorem refreshed_message {message : Message kit} {id : ℤ}
    (hannounced : message.announced ≠ some id) (habout : message.about ≠ some id) :
    id ∈ (s.step message.event).idsRefreshedByAboutToShow ↔ id ∈ s.idsRefreshedByAboutToShow := by
  cases message with
  | layoutUpdated revision parentId =>
    change id ∈ (s.slotLayoutUpdated parentId).idsRefreshedByAboutToShow ↔ _
    unfold slotLayoutUpdated
    split_ifs
    · rw [List.mem_filter, decide_eq_true_iff, and_iff_left]
      rintro rfl
      exact hannounced rfl
    · rfl
  | itemsPropertiesUpdated updatedList removedList =>
    exact (sameWaits_slotItemsPropertiesUpdated s updatedList removedList).refreshed ▸ Iff.rfl
  | itemActivationRequested id' timestamp =>
    exact (sameWaits_slotItemActivationRequested s id').refreshed ▸ Iff.rfl
  | layoutReply parentId reply =>
    exact (sameWaits_slotGetLayoutFinished s parentId reply).refreshed ▸ Iff.rfl
  | aboutToShowReply id' reply =>
    change id ∈ (s.slotAboutToShowDBusCallFinished id' reply).idsRefreshedByAboutToShow ↔ _
    rcases MenuSystem.slotAboutToShow_cases s id' reply with hwaits | heq
    · rw [hwaits.refreshed]
    · rw [heq]
      refine List.mem_insert_iff.trans (or_iff_right ?_)
      rintro rfl
      exact habout rfl

end Importer

namespace MenuSystem

variable {s : MenuSystem kit} {id : ℤ}

/-! ## Nothing is asked about the item -/

/-- The item changes, or a menu is opened for which the service is asked about the item. -/
def Concerns (id : ℤ) (s : MenuSystem kit) : SystemEvent kit → Prop
  | .change id' _ => id' = id
  | .atImporter e => ∃ m menu, e.opened = some m ∧ s.importer.menus.find m = some menu ∧
      s.importer.menuId menu = id
  | _ => False

/-- Nothing about the item is on its way but at most one announcement, which is ignored. -/
structure Unasked (id : ℤ) (s : MenuSystem kit) : Prop where
  pending : id ∉ s.importer.pendingLayoutUpdates
  requests : ∀ request ∈ s.importer.requests, request.about ≠ some id
  replies : ∀ message ∈ s.messages, message.about ≠ some id
  ignored : s.messages.countP (fun message => message.announced = some id) + s.slack id ≤ 1

theorem slack_le_one (s : MenuSystem kit) (id : ℤ) : s.slack id ≤ 1 := by
  unfold slack
  split_ifs
  · exact Nat.zero_le 1
  · exact le_rfl

theorem Unasked.send (hs : Unasked id s) {s' : MenuSystem kit}
    (himporter : s'.importer = s.importer) {messages : List (Message kit)}
    (hmessages : s'.messages = s.messages ++ messages)
    (habout : ∀ message ∈ messages, message.about ≠ some id ∧ message.announced ≠ some id) :
    Unasked id s' := by
  refine ⟨himporter ▸ hs.pending, himporter ▸ hs.requests, ?_, ?_⟩
  · rw [hmessages]
    intro message hmessage
    rcases List.mem_append.mp hmessage with h | h
    · exact hs.replies message h
    · exact (habout message h).1
  · have hnone : messages.countP (fun message => message.announced = some id) = 0 := by
      rw [List.countP_eq_zero]
      intro message h
      rw [decide_eq_true_iff]
      exact (habout message h).2
    have hslack : s'.slack id = s.slack id := by
      unfold slack
      rw [himporter]
    rw [hmessages, List.countP_append, hnone, hslack]
    exact hs.ignored

/-- A message that arrives leaves nothing about the item on its way. -/
theorem Unasked.received (hs : Unasked id s) {message : Message kit} {rest : List (Message kit)}
    (hmessages : s.messages = message :: rest) : Unasked id (s.received message rest) := by
  have habout : message.about ≠ some id :=
    hs.replies message (hmessages ▸ List.mem_cons_self)
  have hcount := hs.ignored
  rw [hmessages, List.countP_cons] at hcount
  refine ⟨?_, ?_, ?_, ?_⟩
  · intro hpending
    rcases Importer.pending_message hpending with h | ⟨hannounced, hmarked⟩
    · exact hs.pending h
    · have hslack : s.slack id = 1 := if_neg hmarked
      rw [if_pos (decide_eq_true hannounced), hslack] at hcount
      omega
  · intro request hrequest
    rcases Importer.requests_message hrequest with h | h
    · exact hs.requests request h
    · exact h ▸ habout
  · exact fun message' h => hs.replies message' (hmessages ▸ List.mem_cons_of_mem message h)
  · change rest.countP _ + _ ≤ 1
    by_cases hannounced : message.announced = some id
    · rw [if_pos (decide_eq_true hannounced)] at hcount
      have hle := slack_le_one (s.received message rest) id
      omega
    · have hslack : (s.received message rest).slack id = s.slack id :=
        if_congr (Importer.refreshed_message hannounced habout) rfl rfl
      rw [if_neg (by rw [decide_eq_true_iff]; exact hannounced)] at hcount
      rw [hslack]
      exact hcount

theorem Unasked.atImporter (hs : Unasked id s) {e : LocalEvent}
    (he : ¬Concerns id s (.atImporter e)) : Unasked id (s.step (.atImporter e)) := by
  have hwaits : (s.step (.atImporter e)).importer.idsRefreshedByAboutToShow =
      s.importer.idsRefreshedByAboutToShow ∧
        (s.step (.atImporter e)).importer.pendingLayoutUpdates ⊆
          s.importer.pendingLayoutUpdates := by
    by_cases htimeout : ∃ order, e = .timeout order
    · obtain ⟨order, rfl⟩ := htimeout
      change (s.importer.timeout order).idsRefreshedByAboutToShow = _ ∧
        (s.importer.timeout order).pendingLayoutUpdates ⊆ _
      unfold Importer.timeout Importer.processPendingLayoutUpdates
      split_ifs
      · rw [foldl_refresh]
        exact ⟨rfl, List.nil_subset _⟩
      · exact ⟨rfl, List.Subset.refl _⟩
    · have hsame : s.importer.SameWaits (s.importer.step e.event) :=
        Importer.sameWaits_local fun order heq => htimeout ⟨order, heq⟩
      exact ⟨hsame.refreshed, hsame.pending ▸ List.Subset.refl _⟩
  refine ⟨fun h => hs.pending (hwaits.2 h), fun request hrequest => ?_, hs.replies, ?_⟩
  · rcases Importer.requests_local hrequest with h | h | ⟨id', hid', h⟩ | ⟨m, menu, hm, hfind, h⟩
    · exact hs.requests request h
    · exact h ▸ nofun
    · rw [h]
      rintro heq
      exact hs.pending (Option.some.inj heq ▸ hid')
    · rw [h]
      exact fun heq => he ⟨m, menu, hm, hfind, Option.some.inj heq⟩
  · rw [slack_of_refreshed hwaits.1 id]
    exact hs.ignored

theorem Unasked.step (hs : Unasked id s) {e : SystemEvent kit} (he : ¬Concerns id s e) :
    Unasked id (s.step e) := by
  cases e with
  | change id' layout =>
    refine hs.send rfl rfl fun message h => ?_
    rw [List.mem_singleton.mp h]
    exact ⟨nofun, fun heq => he (Option.some.inj heq)⟩
  | announce updatedList removedList =>
    refine hs.send rfl rfl fun message h => ?_
    rw [List.mem_singleton.mp h]
    exact ⟨nofun, nofun⟩
  | requestActivation id' timestamp =>
    refine hs.send rfl rfl fun message h => ?_
    rw [List.mem_singleton.mp h]
    exact ⟨nofun, nofun⟩
  | serve answer =>
    cases hrequests : s.importer.requests with
    | nil =>
      unfold MenuSystem.step
      dsimp only
      rw [hrequests]
      exact hs
    | cons request rest =>
      have hrequest : request.about ≠ some id :=
        hs.requests request (hrequests ▸ List.mem_cons_self)
      have htaken : Unasked id { s with importer := { s.importer with requests := rest } } :=
        ⟨hs.pending, fun request' h => hs.requests request' (hrequests ▸ List.mem_cons_of_mem _ h),
          hs.replies, hs.ignored⟩
      unfold MenuSystem.step
      dsimp only
      rw [hrequests]
      refine htaken.send rfl rfl fun message h => ?_
      cases request with
      | event id' eventId => exact nomatch h
      | getLayout id' =>
        rw [List.mem_singleton.mp h]
        exact ⟨hrequest, nofun⟩
      | aboutToShow id' =>
        rw [List.mem_singleton.mp h]
        exact ⟨hrequest, nofun⟩
  | deliver =>
    cases hmessages : s.messages with
    | nil =>
      unfold MenuSystem.step
      rw [hmessages]
      exact hs
    | cons message rest =>
      rw [step_deliver hmessages]
      exact hs.received hmessages
  | atImporter e => exact hs.atImporter he

/-! ## The menu of the item -/

/-- The service has the last layout of an item until the item changes. -/
theorem layoutAt_step {e : SystemEvent kit} (he : ¬Concerns id s e) :
    (s.step e).service.layoutAt (s.step e).service.revision id =
      s.service.layoutAt s.service.revision id := by
  cases e with
  | change id' layout =>
    have hne : id' ≠ id := he
    change (s.service.change id' layout).layoutAt (s.service.change id' layout).revision id = _
    rw [MenuService.revision_change, MenuService.layoutAt_change_of_lt _ (Nat.lt_succ_self _),
      if_neg hne]
  | announce | requestActivation | atImporter => rfl
  | serve answer =>
    unfold MenuSystem.step
    dsimp only
    split
    · rfl
    · rfl
  | deliver =>
    cases hmessages : s.messages with
    | nil =>
      unfold MenuSystem.step
      rw [hmessages]
    | cons message rest =>
      have hservice : (s.record message).service = s.service := by
        unfold record
        split
        · rfl
        · rfl
      rw [step_deliver hmessages]
      unfold MenuSystem.received
      dsimp only
      rw [hservice]

/-- A menu shows the same after an event, when nothing is asked about its item. -/
theorem Unasked.same_step (hs : Unasked id s) {home : ℤ → ℤ} (htidy : Importer.Tidy home s.importer)
    {m : MenuRef} (hlt : m < s.importer.menus.next)
    (honly : ∀ id', s.importer.menuForId id' = some m → id' = id) (e : SystemEvent kit) :
    Importer.Aged s.importer (s.step e).importer ∧
      ∀ menu, (s.step e).importer.menus.find m = some menu →
        (s.step e).importer.shownIds m = s.importer.shownIds m := by
  have himporter {e' : Event kit} (hanswers : ¬Importer.Answers m s.importer e') :
      Importer.Aged s.importer (s.importer.step e') ∧
        ∀ menu, (s.importer.step e').menus.find m = some menu →
          (s.importer.step e').shownIds m = s.importer.shownIds m := by
    have haged := Importer.aged_step s.importer e'
    refine ⟨haged, fun menu' hm' => ?_⟩
    obtain ⟨menu, hm⟩ := haged.there hlt hm'
    exact htidy.shownIds_step hm hm' hanswers
  have hnothing : Importer.Aged s.importer s.importer ∧
      ∀ menu, s.importer.menus.find m = some menu →
        s.importer.shownIds m = s.importer.shownIds m := ⟨.refl _, fun _ _ => rfl⟩
  cases e with
  | change | announce | requestActivation => exact hnothing
  | serve answer =>
    unfold MenuSystem.step
    dsimp only
    split
    · exact hnothing
    · next request rest _ =>
      have hkept : s.importer.Kept { s.importer with requests := rest } := .of_eq rfl rfl rfl rfl
      exact ⟨hkept.aged, fun _ _ => hkept.shownIds m⟩
  | deliver =>
    cases hmessages : s.messages with
    | nil =>
      unfold MenuSystem.step
      rw [hmessages]
      exact hnothing
    | cons message rest =>
      rw [step_deliver hmessages]
      refine himporter fun hanswers => ?_
      have habout := hs.replies message (hmessages ▸ List.mem_cons_self)
      cases message with
      | layoutUpdated | itemsPropertiesUpdated | itemActivationRequested | aboutToShowReply =>
        exact hanswers
      | layoutReply parentId reply =>
        cases reply with
        | none => exact hanswers
        | some reply => exact habout (congrArg some (honly parentId hanswers))
  | atImporter e =>
    refine himporter fun hanswers => ?_
    cases e
    all_goals exact hanswers

/-- A layout of the item that its menu does not show, and that nothing will bring there. -/
structure Overlooked (home : ℤ → ℤ) (id : ℤ) (m : MenuRef) (shown : List ℤ)
    (layout : DBusMenuLayoutItem kit) (s : MenuSystem kit) : Prop where
  tracks : s.Tracks
  mirrors : Mirrors home s
  unasked : Unasked id s
  made : m < s.importer.menus.next
  only : ∀ id', s.importer.menuForId id' = some m → id' = id
  shows : ∀ menu, s.importer.menus.find m = some menu → s.importer.shownIds m = shown
  current : s.service.layoutAt s.service.revision id = layout

theorem Overlooked.step {home : ℤ → ℤ} {m : MenuRef} {shown : List ℤ}
    {layout : DBusMenuLayoutItem kit} (hs : Overlooked home id m shown layout s)
    {e : SystemEvent kit} (he : s.Orderly home e ∧ ¬Concerns id s e) :
    Overlooked home id m shown layout (s.step e) := by
  obtain ⟨haged, hsame⟩ := hs.unasked.same_step hs.mirrors.tidy hs.made hs.only e
  refine ⟨hs.tracks.step (orderly_answers he.1), hs.mirrors.step hs.tracks he.1,
    hs.unasked.step he.2, hs.made.trans_le haged.next, ?_, ?_, ?_⟩
  · exact fun id' hm => hs.only id' (haged.menuForId hs.made hm)
  · intro menu' hm'
    obtain ⟨menu, hm⟩ := haged.there hs.made hm'
    exact (hsame menu' hm').trans (hs.shows menu hm)
  · exact (layoutAt_step he.2).trans hs.current

end MenuSystem

end DdeTrayLoader.DBusMenu
