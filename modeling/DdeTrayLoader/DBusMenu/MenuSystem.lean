import DdeTrayLoader.DBusMenu.Mirror

/-!
# The importer and the menu service

The service holds a layout for every item and changes it; it announces each change with
`LayoutUpdated`, and answers a call with what holds when it takes the call. Calls reach the
service, and its messages reach the importer, in the order they were sent.

A revision is the number of changes so far. `handled` and `fetched` are bookkeeping of the model:
the revision of the last layout of an item that reached the importer, and the last layout that
went into a menu.
-/

namespace DdeTrayLoader.DBusMenu

open DdeTrayLoader.Objects DdeTrayLoader.Transition DdeTrayLoader.Lists DdeTrayLoader.Tray

/-- The layouts that a service had: those it started with, and every change, oldest first. -/
structure MenuService (kit : Toolkit) where
  initial : ℤ → DBusMenuLayoutItem kit
  changes : List (ℤ × DBusMenuLayoutItem kit)

namespace MenuService

variable {kit : Toolkit}

def revision (service : MenuService kit) : ℕ := service.changes.length

/-- The layout of an item after the first changes. -/
def layoutAt (service : MenuService kit) (revision : ℕ) (id : ℤ) : DBusMenuLayoutItem kit :=
  (service.changes.take revision).foldl
    (fun layout change => if change.1 = id then change.2 else layout) (service.initial id)

/-- The number of changes of an item since a revision. -/
def changesSince (service : MenuService kit) (revision : ℕ) (id : ℤ) : ℕ :=
  (service.changes.drop revision).countP fun change => change.1 = id

def change (service : MenuService kit) (id : ℤ) (layout : DBusMenuLayoutItem kit) :
    MenuService kit :=
  { service with changes := service.changes ++ [(id, layout)] }

end MenuService

/-- A message of the service. -/
inductive Message (kit : Toolkit)
  | layoutUpdated (revision : ℕ) (parentId : ℤ)
  | itemsPropertiesUpdated (updatedList : List (DBusMenuItem kit))
      (removedList : List DBusMenuItemKeys)
  | itemActivationRequested (id : ℤ) (timestamp : ℕ)
  | layoutReply (parentId : ℤ) (reply : Option (ℕ × DBusMenuLayoutItem kit))
  | aboutToShowReply (id : ℤ) (reply : Option Bool)

/-- What the importer sees of a message. -/
def Message.event {kit : Toolkit} : Message kit → Event kit
  | .layoutUpdated revision parentId => .layoutUpdated revision parentId
  | .itemsPropertiesUpdated updatedList removedList =>
    .itemsPropertiesUpdated updatedList removedList
  | .itemActivationRequested id timestamp => .itemActivationRequested id timestamp
  | .layoutReply parentId reply => .getLayoutFinished parentId reply
  | .aboutToShowReply id reply => .aboutToShowFinished id reply

/-- An event of the importer that is not a message. -/
inductive LocalEvent
  | timeout (order : HashOrder ℤ)
  | deferredDelete
  | rightClick
  | aboutToShow (menu : MenuRef)
  | aboutToHide (menu : MenuRef)
  | activate (action : ActionRef)
  | themeTypeChanged (themeType : ThemeType)

def LocalEvent.event {kit : Toolkit} : LocalEvent → Event kit
  | .timeout order => .timeout order
  | .deferredDelete => .deferredDelete
  | .rightClick => .rightClick
  | .aboutToShow m => .aboutToShow m
  | .aboutToHide m => .aboutToHide m
  | .activate r => .activate r
  | .themeTypeChanged themeType => .themeTypeChanged themeType

/-- The importer, the service, and the messages on their way to the importer, oldest first. -/
structure MenuSystem (kit : Toolkit) where
  importer : Importer kit
  service : MenuService kit
  messages : List (Message kit)
  handled : ℤ → Option ℕ
  fetched : MenuRef → Option (ℤ × ℕ)

inductive SystemEvent (kit : Toolkit)
  /-- The service changes the layout of an item. -/
  | change (id : ℤ) (layout : DBusMenuLayoutItem kit)
  /-- The service announces properties that changed. -/
  | announce (updatedList : List (DBusMenuItem kit)) (removedList : List DBusMenuItemKeys)
  /-- The service asks to activate an item. -/
  | requestActivation (id : ℤ) (timestamp : ℕ)
  /-- The service takes the oldest call, and answers with an error or not. The answer to
  `AboutToShow` is whether the menu needs a refresh. -/
  | serve (answer : Option Bool)
  /-- The oldest message reaches the importer. -/
  | deliver
  | atImporter (e : LocalEvent)

namespace MenuSystem

variable {kit : Toolkit}

/-- The importer is created. -/
def create (themeType : ThemeType) (initial : ℤ → DBusMenuLayoutItem kit) : MenuSystem kit where
  importer := Importer.create kit themeType
  service := ⟨initial, []⟩
  messages := []
  handled _ := none
  fetched _ := none

def send (s : MenuSystem kit) (message : Message kit) : MenuSystem kit :=
  { s with messages := s.messages ++ [message] }

/-- The answer to a call. -/
def reply (s : MenuSystem kit) (answer : Option Bool) : Request → List (Message kit)
  | .getLayout id => [.layoutReply id (answer.map fun _ =>
      (s.service.revision, s.service.layoutAt s.service.revision id))]
  | .aboutToShow id => [.aboutToShowReply id answer]
  | .event _ _ => []

/-- The bookkeeping of a message that is delivered. -/
def record (s : MenuSystem kit) : Message kit → MenuSystem kit
  | .layoutReply parentId (some (revision, _)) =>
    { s with
      handled := Function.update s.handled parentId (some revision)
      fetched := match s.importer.menuForId parentId with
        | none => s.fetched
        | some m => Function.update s.fetched m (some (parentId, revision)) }
  | _ => s

def step (s : MenuSystem kit) : SystemEvent kit → MenuSystem kit
  | .change id layout =>
    { s with service := s.service.change id layout }.send
      (.layoutUpdated (s.service.revision + 1) id)
  | .announce updatedList removedList => s.send (.itemsPropertiesUpdated updatedList removedList)
  | .requestActivation id timestamp => s.send (.itemActivationRequested id timestamp)
  | .serve answer =>
    match s.importer.requests with
    | [] => s
    | request :: rest =>
      { s with
        importer := { s.importer with requests := rest }
        messages := s.messages ++ s.reply answer request }
  | .deliver =>
    match s.messages with
    | [] => s
    | message :: rest =>
      { s.record message with
        importer := s.importer.step message.event
        messages := rest }
  | .atImporter e => { s with importer := s.importer.step e.event }

/-- A call of `GetLayout` is not answered with an error. -/
def Answers (s : MenuSystem kit) : SystemEvent kit → Prop
  | .serve answer => ∀ id, s.importer.requests.head? = some (.getLayout id) → answer ≠ none
  | _ => True

end MenuSystem

/-! ## What the importer waits for -/

namespace Importer

variable {kit : Toolkit} {s s' : Importer kit}

/-- The importer waits for the same updates, and has sent no less. -/
structure SameWaits (s s' : Importer kit) : Prop where
  refreshed : s'.idsRefreshedByAboutToShow = s.idsRefreshedByAboutToShow
  pending : s'.pendingLayoutUpdates = s.pendingLayoutUpdates
  timer : s'.pendingLayoutUpdateTimer = s.pendingLayoutUpdateTimer
  requests : s.requests ⊆ s'.requests

theorem SameWaits.refl (s : Importer kit) : SameWaits s s := ⟨rfl, rfl, rfl, List.Subset.refl _⟩

theorem SameWaits.trans {s'' : Importer kit} (h : SameWaits s s') (h' : SameWaits s' s'') :
    SameWaits s s'' :=
  ⟨h'.refreshed.trans h.refreshed, h'.pending.trans h.pending, h'.timer.trans h.timer,
    List.Subset.trans h.requests h'.requests⟩

theorem sameWaits_request (s : Importer kit) (request : Request) :
    SameWaits s (s.request request) := ⟨rfl, rfl, rfl, List.subset_append_left _ _⟩

theorem sameWaits_foldl {β : Type} (f : Importer kit → β → Importer kit)
    (hf : ∀ s x, SameWaits s (f s x)) (s : Importer kit) (xs : List β) :
    SameWaits s (xs.foldl f s) := by
  induction xs generalizing s with
  | nil => exact .refl s
  | cons x xs ih => exact (hf s x).trans (ih _)

theorem sameWaits_deleteLater (s : Importer kit) (object : Deferred) :
    SameWaits s (s.deleteLater object) := by
  unfold deleteLater
  split_ifs
  · exact .refl s
  · exact ⟨rfl, rfl, rfl, List.Subset.refl _⟩

theorem sameWaits_removeOutdated (ids : List ℤ) (s : Importer kit) (r : ActionRef) :
    SameWaits s (s.removeOutdated ids r) := by
  unfold removeOutdated
  cases s.actions.find r with
  | none => exact .refl s
  | some action =>
    dsimp only
    split_ifs
    · exact .refl s
    · have hfirst := sameWaits_deleteLater s (.action r)
      cases (s.deleteLater (.action r)).menuOf action with
      | none => exact hfirst.trans ⟨rfl, rfl, rfl, List.Subset.refl _⟩
      | some m =>
        exact (hfirst.trans (sameWaits_deleteLater _ (.menu m))).trans
          ⟨rfl, rfl, rfl, List.Subset.refl _⟩

theorem sameWaits_insertOrUpdate (m : MenuRef) (s : Importer kit)
    (item : DBusMenuLayoutItem kit) : SameWaits s (insertOrUpdate m s item) := by
  rcases insertOrUpdate_cases m s item with ⟨-, heq⟩ | ⟨r, -, heq⟩
  · rw [heq]
    exact ⟨rfl, rfl, rfl, List.Subset.refl _⟩
  · rw [heq]
    exact ⟨rfl, rfl, rfl, List.Subset.refl _⟩

theorem sameWaits_slotGetLayoutFinished (s : Importer kit) (parentId : ℤ)
    (reply : Option (ℕ × DBusMenuLayoutItem kit)) :
    SameWaits s (s.slotGetLayoutFinished parentId reply) := by
  unfold slotGetLayoutFinished
  cases s.menuForId parentId with
  | none => exact .refl s
  | some m =>
    cases reply with
    | none => exact ⟨rfl, rfl, rfl, List.Subset.refl _⟩
    | some reply =>
      exact ((sameWaits_foldl _ (sameWaits_removeOutdated _) s _).trans
        (sameWaits_foldl _ (sameWaits_insertOrUpdate m) _ _)).trans
          ⟨rfl, rfl, rfl, List.Subset.refl _⟩

theorem sameWaits_slotItemsPropertiesUpdated (s : Importer kit)
    (updatedList : List (DBusMenuItem kit)) (removedList : List DBusMenuItemKeys) :
    SameWaits s (s.slotItemsPropertiesUpdated updatedList removedList) := by
  have hone (s : Importer kit) (id : ℤ) (updates : List (String × kit.Variant)) :
      SameWaits s (s.updateItem id updates) := by
    unfold updateItem
    cases s.actionForId id with
    | none => exact .refl s
    | some r => exact ⟨rfl, rfl, rfl, List.Subset.refl _⟩
  exact (sameWaits_foldl _ (fun s _ => hone s _ _) s updatedList).trans
    (sameWaits_foldl _ (fun s _ => hone s _ _) _ removedList)

theorem sameWaits_updateMenuOf (s : Importer kit) (menu : Menu) :
    SameWaits s (s.updateMenuOf menu) :=
  (sameWaits_request s _).trans (sameWaits_request _ _)

theorem sameWaits_updateRootMenu (s : Importer kit) : SameWaits s s.updateRootMenu := by
  unfold updateRootMenu
  cases s.menus.find rootMenu with
  | none => exact .refl s
  | some menu => exact sameWaits_updateMenuOf s menu

theorem sameWaits_deferredDelete (s : Importer kit) : SameWaits s s.deferredDelete := by
  unfold deferredDelete
  split
  · exact .refl s
  · exact ⟨rfl, rfl, rfl, List.Subset.refl _⟩
  · exact ⟨rfl, rfl, rfl, List.Subset.refl _⟩

theorem sameWaits_slotMenuAboutToShow (s : Importer kit) (m : MenuRef) :
    SameWaits s (s.slotMenuAboutToShow m) := by
  unfold slotMenuAboutToShow
  cases s.menus.find m with
  | none => exact .refl s
  | some menu =>
    dsimp only
    split_ifs
    · exact .refl s
    · exact sameWaits_updateMenuOf s menu

theorem sameWaits_slotMenuAboutToHide (s : Importer kit) (m : MenuRef) :
    SameWaits s (s.slotMenuAboutToHide m) := by
  unfold slotMenuAboutToHide
  cases s.menus.find m with
  | none => exact .refl s
  | some menu =>
    dsimp only
    split_ifs
    · exact sameWaits_request s _
    · exact .refl s

theorem sameWaits_activate (s : Importer kit) (r : ActionRef) : SameWaits s (s.activate r) := by
  unfold activate
  cases s.actions.find r with
  | none => exact .refl s
  | some action =>
    dsimp only
    split_ifs
    · exact ⟨rfl, rfl, rfl, List.subset_append_left _ _⟩
    · exact .refl s

/-- A turn of the importer that is not a timeout waits for the same updates. -/
theorem sameWaits_local {e : LocalEvent} (he : ∀ order, e ≠ .timeout order) :
    SameWaits s (s.step e.event) := by
  cases e with
  | timeout order => exact absurd rfl (he order)
  | deferredDelete => exact sameWaits_deferredDelete s
  | rightClick => exact sameWaits_updateRootMenu s
  | aboutToShow m => exact sameWaits_slotMenuAboutToShow s m
  | aboutToHide m => exact sameWaits_slotMenuAboutToHide s m
  | activate r => exact sameWaits_activate s r
  | themeTypeChanged themeType =>
    have hforced : SameWaits s { s with themeType := themeType, forceRefresh := true } :=
      ⟨rfl, rfl, rfl, List.Subset.refl _⟩
    exact hforced.trans (sameWaits_updateRootMenu _)

end Importer

end DdeTrayLoader.DBusMenu
