import DdeTrayLoader.DBusMenu.DBusMenuImporter
import DdeTrayLoader.Transition.Run

/-!
# The objects of the importer over a run

`m_actionForId` and the menus hold plain pointers. Every one of them is to an object that exists,
whatever the service sends and in whatever order the event loop deletes: an action that is
deleted takes the entry of its id along, and no entry is ever to an action made for another id.
-/

namespace DdeTrayLoader.DBusMenu

open DdeTrayLoader.Objects DdeTrayLoader.Transition DdeTrayLoader.Lists

/-- The events at which objects come and go. -/
def Event.ChangesObjects {kit : Toolkit} : Event kit → Prop
  | .getLayoutFinished _ (some _) => True
  | .deferredDelete => True
  | _ => False

instance {kit : Toolkit} : DecidablePred (@Event.ChangesObjects kit)
  | .getLayoutFinished _ (some _) => .isTrue trivial
  | .deferredDelete => .isTrue trivial
  | .layoutUpdated _ _ | .itemsPropertiesUpdated _ _ | .itemActivationRequested _ _
  | .getLayoutFinished _ none | .aboutToShowFinished _ _ | .timeout _ | .rightClick
  | .aboutToShow _ | .aboutToHide _ | .activate _ | .themeTypeChanged _ => .isFalse id

namespace Importer

variable {kit : Toolkit} {s s' : Importer kit}

/-! ## Events that change no more than what actions show -/

/-- The objects are the same, except for what the actions show. -/
structure Kept (s s' : Importer kit) : Prop where
  actions : ∃ f : ActionRef → Look kit → Look kit,
    s'.actions = s.actions.map fun r action => { action with look := f r action.look }
  menus : s'.menus = s.menus
  actionForId : s'.actionForId = s.actionForId
  deferred : s'.deferred = s.deferred

/-- The four fields that hold objects are the same. -/
theorem Kept.of_eq (hactions : s'.actions = s.actions) (hmenus : s'.menus = s.menus)
    (hindex : s'.actionForId = s.actionForId) (hdeferred : s'.deferred = s.deferred) :
    Kept s s' :=
  ⟨⟨fun _ look => look, by rw [hactions, Store.map_id]⟩, hmenus, hindex, hdeferred⟩

theorem Kept.refl (s : Importer kit) : Kept s s := .of_eq rfl rfl rfl rfl

theorem Kept.trans {s'' : Importer kit} (h : Kept s s') (h' : Kept s' s'') : Kept s s'' := by
  obtain ⟨f, hf⟩ := h.actions
  obtain ⟨g, hg⟩ := h'.actions
  exact ⟨⟨fun r look => g r (f r look), by rw [hg, hf, Store.map_map]⟩,
    h'.menus.trans h.menus, h'.actionForId.trans h.actionForId, h'.deferred.trans h.deferred⟩

/-- An action that is found is the one found before, with another look. -/
theorem Kept.find (h : Kept s s') {r : ActionRef} {a : Action kit}
    (ha : s'.actions.find r = some a) :
    ∃ a₀ look, s.actions.find r = some a₀ ∧ a = { a₀ with look := look } := by
  obtain ⟨f, hf⟩ := h.actions
  rw [hf, Store.find_map, Option.map_eq_some_iff] at ha
  obtain ⟨a₀, ha₀, rfl⟩ := ha
  exact ⟨a₀, _, ha₀, rfl⟩

/-- An action found before is still found, with another look. -/
theorem Kept.find_of_find (h : Kept s s') {r : ActionRef} {a : Action kit}
    (ha : s.actions.find r = some a) :
    ∃ look, s'.actions.find r = some { a with look := look } := by
  obtain ⟨f, hf⟩ := h.actions
  exact ⟨f r a.look, by rw [hf, Store.find_map, ha, Option.map_some]⟩

theorem kept_modifyLook (s : Importer kit) (r : ActionRef) (f : Look kit → Look kit) :
    Kept s { s with actions := s.actions.modify r fun action =>
      { action with look := f action.look } } := by
  refine ⟨⟨fun r' look => if r' = r then f look else look, ?_⟩, rfl, rfl, rfl⟩
  refine Store.ext_find rfl fun r' => ?_
  rw [Store.find_modify, Store.find_map]
  congr 1
  funext action
  dsimp only
  split_ifs
  · rfl
  · rfl

theorem kept_request (s : Importer kit) (request : Request) : Kept s (s.request request) :=
  .of_eq rfl rfl rfl rfl

theorem kept_emit (s : Importer kit) (emission : Emission) : Kept s (s.emit emission) :=
  .of_eq rfl rfl rfl rfl

theorem kept_foldl_refresh (s : Importer kit) (ids : List ℤ) : Kept s (ids.foldl refresh s) := by
  induction ids generalizing s with
  | nil => exact .refl s
  | cons id ids ih => exact (kept_request s _).trans (ih _)

theorem kept_updateItem (s : Importer kit) (id : ℤ) (updates : List (String × kit.Variant)) :
    Kept s (s.updateItem id updates) := by
  unfold updateItem
  cases s.actionForId id with
  | none => exact .refl s
  | some r =>
    exact kept_modifyLook s r fun look => updateProperties s.themeType s.forceRefresh look updates

theorem kept_foldl {β : Type} (f : Importer kit → β → Importer kit) (hf : ∀ s x, Kept s (f s x))
    (s : Importer kit) (xs : List β) : Kept s (xs.foldl f s) := by
  induction xs generalizing s with
  | nil => exact .refl s
  | cons x xs ih => exact (hf s x).trans (ih _)

theorem kept_slotItemsPropertiesUpdated (s : Importer kit) (updatedList : List (DBusMenuItem kit))
    (removedList : List DBusMenuItemKeys) :
    Kept s (s.slotItemsPropertiesUpdated updatedList removedList) :=
  (kept_foldl _ (fun s _ => kept_updateItem s _ _) s updatedList).trans
    (kept_foldl _ (fun s _ => kept_updateItem s _ _) _ removedList)

theorem kept_updateMenuOf (s : Importer kit) (menu : Menu) : Kept s (s.updateMenuOf menu) :=
  (kept_request s _).trans (kept_request _ _)

theorem kept_updateRootMenu (s : Importer kit) : Kept s s.updateRootMenu := by
  unfold updateRootMenu
  cases s.menus.find rootMenu with
  | none => exact .refl s
  | some menu => exact kept_updateMenuOf s menu

/-- At the other events the objects stay. -/
theorem kept_step {e : Event kit} (he : ¬e.ChangesObjects) : Kept s (s.step e) := by
  cases e with
  | layoutUpdated revision parentId =>
    change Kept s (s.slotLayoutUpdated parentId)
    unfold slotLayoutUpdated
    split_ifs
    · exact .of_eq rfl rfl rfl rfl
    · exact .of_eq rfl rfl rfl rfl
  | itemsPropertiesUpdated updatedList removedList =>
    exact kept_slotItemsPropertiesUpdated s updatedList removedList
  | itemActivationRequested id timestamp =>
    change Kept s (s.slotItemActivationRequested id)
    unfold slotItemActivationRequested
    cases s.actionForId id with
    | none => exact .refl s
    | some r => exact kept_emit s _
  | getLayoutFinished parentId reply =>
    cases reply with
    | some reply => exact absurd trivial he
    | none =>
      change Kept s (s.slotGetLayoutFinished parentId none)
      unfold slotGetLayoutFinished
      cases s.menuForId parentId with
      | none => exact .refl s
      | some m => exact kept_emit s _
  | aboutToShowFinished id reply =>
    change Kept s (s.slotAboutToShowDBusCallFinished id reply)
    unfold slotAboutToShowDBusCallFinished
    cases s.menuForId id with
    | none => exact .refl s
    | some m =>
      cases reply with
      | none => exact kept_emit s _
      | some needRefresh =>
        dsimp only
        split_ifs
        · exact .of_eq rfl rfl rfl rfl
        · exact kept_emit s _
  | timeout order =>
    change Kept s (s.timeout order)
    unfold timeout processPendingLayoutUpdates
    split_ifs
    · have hcleared : Kept s
          { s with pendingLayoutUpdateTimer := false, pendingLayoutUpdates := [] } :=
        .of_eq rfl rfl rfl rfl
      exact hcleared.trans (kept_foldl_refresh _ _)
    · exact .refl s
  | deferredDelete => exact absurd trivial he
  | rightClick => exact kept_updateRootMenu s
  | aboutToShow m =>
    change Kept s (s.slotMenuAboutToShow m)
    unfold slotMenuAboutToShow
    cases s.menus.find m with
    | none => exact .refl s
    | some menu =>
      dsimp only
      split_ifs
      · exact .refl s
      · exact kept_updateMenuOf s menu
  | aboutToHide m =>
    change Kept s (s.slotMenuAboutToHide m)
    unfold slotMenuAboutToHide
    cases s.menus.find m with
    | none => exact .refl s
    | some menu =>
      dsimp only
      split_ifs
      · exact kept_request s _
      · exact .refl s
  | activate r =>
    change Kept s (s.activate r)
    unfold activate
    cases s.actions.find r with
    | none => exact .refl s
    | some action =>
      dsimp only
      split_ifs
      · exact (kept_modifyLook s r triggered).trans (kept_request _ _)
      · exact .refl s
  | themeTypeChanged themeType =>
    have hforced : Kept s { s with themeType := themeType, forceRefresh := true } :=
      .of_eq rfl rfl rfl rfl
    exact hforced.trans (kept_updateRootMenu _)

/-! ## Deletion -/

/-- An action is there after a deletion if it was there and is not deleted. -/
theorem find_sweep_action {deadAction : ActionRef → Action kit → Bool}
    {deadMenu : MenuRef → Menu → Bool} {r : ActionRef} {a : Action kit} :
    (s.sweep deadAction deadMenu).actions.find r = some a ↔
      s.actions.find r = some a ∧ deadAction r a = false := by
  change (s.actions.keep _).find r = some a ↔ _
  rw [Store.find_keep_iff, Bool.not_eq_true']

/-- A menu that is there after a deletion was there, and lists the actions that are left. -/
theorem find_sweep_menu {deadAction : ActionRef → Action kit → Bool}
    {deadMenu : MenuRef → Menu → Bool} {m : MenuRef} {menu : Menu} :
    (s.sweep deadAction deadMenu).menus.find m = some menu ↔
      ∃ menu₀, s.menus.find m = some menu₀ ∧ deadMenu m menu₀ = false ∧
        menu = { menu₀ with
          menuAction := menu₀.menuAction.filter fun r =>
            !(s.actions.find r).any (deadAction r)
          actions := menu₀.actions.filter fun r => !(s.actions.find r).any (deadAction r) } := by
  change ((s.menus.keep _).map _).find m = some menu ↔ _
  rw [Store.find_map, Option.map_eq_some_iff]
  constructor
  · rintro ⟨menu₀, hfind, rfl⟩
    rw [Store.find_keep_iff, Bool.not_eq_true'] at hfind
    exact ⟨menu₀, hfind.1, hfind.2, rfl⟩
  · rintro ⟨menu₀, hfind, halive, rfl⟩
    refine ⟨menu₀, ?_, rfl⟩
    rw [Store.find_keep_iff, Bool.not_eq_true']
    exact ⟨hfind, halive⟩

/-- An entry is there after a deletion if it was there and no deleted action was made for its
id. -/
theorem sweep_actionForId {deadAction : ActionRef → Action kit → Bool}
    {deadMenu : MenuRef → Menu → Bool} {id : ℤ} {r : ActionRef} :
    (s.sweep deadAction deadMenu).actionForId id = some r ↔
      s.actionForId id = some r ∧
        ∀ r' a, s.actions.find r' = some a → deadAction r' a = true → a.entry ≠ id := by
  change (if s.actions.any _ then none else s.actionForId id) = some r ↔ _
  by_cases hany : s.actions.any fun r action => deadAction r action && action.entry = id
  · rw [if_pos hany]
    obtain ⟨r', a, hfind, hdead⟩ := Store.any_iff.mp hany
    rw [Bool.and_eq_true, decide_eq_true_iff] at hdead
    refine iff_of_false (by simp) ?_
    intro hboth
    exact hboth.2 r' a hfind hdead.1 hdead.2
  · rw [if_neg hany]
    rw [Bool.not_eq_true, Store.any_eq_false_iff] at hany
    refine (and_iff_left ?_).symm
    intro r' a hfind hdead hentry
    have hfalse := hany r' a hfind
    rw [hdead, decide_eq_true hentry] at hfalse
    contradiction

/-! ## Every reference is to an object -/

/-- The references are to objects that exist, an entry is to the action made for its id, and the
owners of an object are its parent and the owners of that. -/
structure Sound (s : Importer kit) : Prop where
  indexed : ∀ {id r}, s.actionForId id = some r →
    ∃ a, s.actions.find r = some a ∧ a.entry = id
  listed : ∀ {m menu r}, s.menus.find m = some menu → r ∈ menu.actions →
    ∃ a, s.actions.find r = some a
  actionOwners : ∀ {r a}, s.actions.find r = some a →
    ∃ p menu, s.menus.find p = some menu ∧ a.owners = p :: menu.owners
  menuOwners : ∀ {m menu}, s.menus.find m = some menu → m ≠ rootMenu →
    ∃ p parent, s.menus.find p = some parent ∧ menu.owners = p :: parent.owners
  root : ∃ menu, s.menus.find rootMenu = some menu ∧ menu.owners = []
  submenu : ∀ {r a}, s.actions.find r = some a → a.menu ≠ some rootMenu
  condemned : Deferred.menu rootMenu ∉ s.deferred

theorem sound_create (kit : Toolkit) (themeType : ThemeType) : Sound (create kit themeType) where
  indexed h := nomatch h
  listed {m menu r} h hr := by
    rcases Store.find_add_cases h with ⟨-, rfl⟩ | ⟨-, h⟩
    · exact absurd hr List.not_mem_nil
    · exact nomatch h
  actionOwners h := nomatch h
  menuOwners {m menu} h hm := by
    rcases Store.find_add_cases h with ⟨hnext, -⟩ | ⟨-, h⟩
    · exact absurd hnext hm
    · exact nomatch h
  root := ⟨⟨[], none, [], false⟩, Store.find_add_next _ _, rfl⟩
  submenu h := nomatch h
  condemned := List.not_mem_nil

theorem Sound.kept (hs : Sound s) (h : Kept s s') : Sound s' where
  indexed {id r} hid := by
    rw [h.actionForId] at hid
    obtain ⟨a, ha, hentry⟩ := hs.indexed hid
    obtain ⟨look, ha'⟩ := h.find_of_find ha
    exact ⟨_, ha', hentry⟩
  listed {m menu r} hm hr := by
    rw [h.menus] at hm
    obtain ⟨a, ha⟩ := hs.listed hm hr
    obtain ⟨look, ha'⟩ := h.find_of_find ha
    exact ⟨_, ha'⟩
  actionOwners {r a} ha := by
    obtain ⟨a₀, look, ha₀, rfl⟩ := h.find ha
    rw [h.menus]
    exact hs.actionOwners (a := a₀) ha₀
  menuOwners := by
    rw [h.menus]
    exact hs.menuOwners
  root := by
    rw [h.menus]
    exact hs.root
  submenu {r a} ha := by
    obtain ⟨a₀, look, ha₀, rfl⟩ := h.find ha
    exact hs.submenu (a := a₀) ha₀
  condemned := by
    rw [h.deferred]
    exact hs.condemned

/-- A deletion that spares the importer's own menu, and takes what a deleted menu owns, leaves no
reference to what it deletes. -/
theorem Sound.sweep (hs : Sound s) {deadAction : ActionRef → Action kit → Bool}
    {deadMenu : MenuRef → Menu → Bool}
    (hroot : ∀ menu, s.menus.find rootMenu = some menu → deadMenu rootMenu menu = false)
    (hactions : ∀ r a p menu, s.actions.find r = some a → s.menus.find p = some menu →
      a.owners = p :: menu.owners → deadMenu p menu = true → deadAction r a = true)
    (hmenus : ∀ m menu p parent, s.menus.find m = some menu → s.menus.find p = some parent →
      menu.owners = p :: parent.owners → deadMenu p parent = true → deadMenu m menu = true) :
    Sound (s.sweep deadAction deadMenu) where
  indexed {id r} hid := by
    obtain ⟨hid, halive⟩ := sweep_actionForId.mp hid
    obtain ⟨a, ha, hentry⟩ := hs.indexed hid
    refine ⟨a, find_sweep_action.mpr ⟨ha, ?_⟩, hentry⟩
    rw [← Bool.not_eq_true]
    exact fun hdead => halive r a ha hdead hentry
  listed {m menu r} hm hr := by
    obtain ⟨menu₀, hm₀, -, rfl⟩ := find_sweep_menu.mp hm
    obtain ⟨hr, halive⟩ := List.mem_filter.mp hr
    obtain ⟨a, ha⟩ := hs.listed hm₀ hr
    rw [ha, Option.any_some, Bool.not_eq_true'] at halive
    exact ⟨a, find_sweep_action.mpr ⟨ha, halive⟩⟩
  actionOwners {r a} ha := by
    obtain ⟨ha, halive⟩ := find_sweep_action.mp ha
    obtain ⟨p, menu, hp, howners⟩ := hs.actionOwners ha
    have hparent : deadMenu p menu = false := by
      rw [← Bool.not_eq_true]
      intro hdead
      rw [hactions r a p menu ha hp howners hdead] at halive
      contradiction
    exact ⟨p, _, find_sweep_menu.mpr ⟨menu, hp, hparent, rfl⟩, howners⟩
  menuOwners {m menu} hm hne := by
    obtain ⟨menu₀, hm₀, halive, rfl⟩ := find_sweep_menu.mp hm
    obtain ⟨p, parent, hp, howners⟩ := hs.menuOwners hm₀ hne
    have hparent : deadMenu p parent = false := by
      rw [← Bool.not_eq_true]
      intro hdead
      rw [hmenus m menu₀ p parent hm₀ hp howners hdead] at halive
      contradiction
    exact ⟨p, _, find_sweep_menu.mpr ⟨parent, hp, hparent, rfl⟩, howners⟩
  root := by
    obtain ⟨menu, hfind, howners⟩ := hs.root
    exact ⟨_, find_sweep_menu.mpr ⟨menu, hfind, hroot menu hfind, rfl⟩, howners⟩
  submenu ha := hs.submenu (find_sweep_action.mp ha).1
  condemned hmem := hs.condemned (List.mem_filter.mp hmem).1

/-- The importer's own menu is owned by no menu. -/
theorem Sound.root_not_below (hs : Sound s) {m : MenuRef} (hm : m ≠ rootMenu) (menu : Menu)
    (hfind : s.menus.find rootMenu = some menu) :
    (decide (rootMenu = m) || decide (m ∈ menu.owners)) = false := by
  obtain ⟨menu', hfind', howners⟩ := hs.root
  obtain rfl := Option.some.inj (hfind.symm.trans hfind')
  rw [howners, decide_eq_false hm.symm, decide_eq_false List.not_mem_nil]
  rfl

/-- An object in a menu is owned by what is this menu or owns it. -/
theorem mem_owners_of_parent {m p : MenuRef} {parent : Menu} {owners : List MenuRef}
    (howners : owners = p :: parent.owners)
    (hbelow : (decide (p = m) || decide (m ∈ parent.owners)) = true) : m ∈ owners := by
  rw [Bool.or_eq_true, decide_eq_true_iff, decide_eq_true_iff] at hbelow
  rw [howners, List.mem_cons]
  exact hbelow.imp_left Eq.symm

theorem Sound.deferredDelete (hs : Sound s) : Sound s.deferredDelete := by
  unfold Importer.deferredDelete
  split
  · exact hs
  · next r rest hdeferred =>
    have hrest : Sound { s with deferred := rest } :=
      { hs with condemned := fun hmem => hs.condemned (hdeferred ▸ List.mem_cons_of_mem _ hmem) }
    exact hrest.sweep (fun _ _ => rfl) (fun _ _ _ _ _ _ _ h => nomatch h)
      (fun _ _ _ _ _ _ _ h => h)
  · next m rest hdeferred =>
    have hrest : Sound { s with deferred := rest } :=
      { hs with condemned := fun hmem => hs.condemned (hdeferred ▸ List.mem_cons_of_mem _ hmem) }
    have hm : m ≠ rootMenu := by
      rintro rfl
      exact hs.condemned (hdeferred ▸ List.mem_cons_self)
    refine hrest.sweep (hs.root_not_below hm) ?_ ?_
    · intro r a p menu _ _ howners hdead
      exact decide_eq_true (mem_owners_of_parent howners hdead)
    · intro m' menu p parent _ _ howners hdead
      rw [decide_eq_true (mem_owners_of_parent howners hdead), Bool.or_true]

/-! ## A layout -/

@[simp] theorem deleteLater_actions (s : Importer kit) (object : Deferred) :
    (s.deleteLater object).actions = s.actions := by
  unfold deleteLater
  split_ifs
  · rfl
  · rfl

@[simp] theorem deleteLater_menus (s : Importer kit) (object : Deferred) :
    (s.deleteLater object).menus = s.menus := by
  unfold deleteLater
  split_ifs
  · rfl
  · rfl

@[simp] theorem deleteLater_actionForId (s : Importer kit) (object : Deferred) :
    (s.deleteLater object).actionForId = s.actionForId := by
  unfold deleteLater
  split_ifs
  · rfl
  · rfl

@[simp] theorem mem_deleteLater (s : Importer kit) (object object' : Deferred) :
    object' ∈ (s.deleteLater object).deferred ↔ object' = object ∨ object' ∈ s.deferred := by
  unfold deleteLater
  split_ifs with hmem
  · refine (or_iff_right_of_imp ?_).symm
    rintro rfl
    exact hmem
  · rw [List.mem_append, List.mem_singleton, or_comm]

/-- The menu of an action is one that exists. -/
theorem menuOf_eq_some {a : Action kit} {m : MenuRef} :
    s.menuOf a = some m ↔ a.menu = some m ∧ ∃ menu, s.menus.find m = some menu := by
  unfold menuOf
  rw [Option.filter_eq_some_iff, Option.isSome_iff_exists]

/-- What the first loop does with one action of the menu. -/
theorem removeOutdated_cases (newIds : List ℤ) (s : Importer kit) (r : ActionRef) :
    (s.removeOutdated newIds r = s ∧
        ∀ a, s.actions.find r = some a → a.id ∈ newIds) ∨
      ∃ a, s.actions.find r = some a ∧ a.id ∉ newIds ∧
        (s.removeOutdated newIds r).actions = s.actions ∧
        (s.removeOutdated newIds r).menus = s.menus ∧
        (s.removeOutdated newIds r).actionForId = Function.update s.actionForId a.id none ∧
        ∀ object, object ∈ (s.removeOutdated newIds r).deferred ↔
          object = .action r ∨ (∃ m, object = .menu m ∧ s.menuOf a = some m) ∨
            object ∈ s.deferred := by
  unfold removeOutdated
  cases hfind : s.actions.find r with
  | none => exact .inl ⟨rfl, fun a ha => nomatch ha⟩
  | some a =>
    dsimp only
    by_cases hid : a.id ∈ newIds
    · rw [if_pos hid]
      refine .inl ⟨rfl, ?_⟩
      rintro a' ⟨⟩
      exact hid
    · rw [if_neg hid]
      refine .inr ⟨a, rfl, hid, ?_⟩
      have hmenu : (s.deleteLater (.action r)).menuOf a = s.menuOf a := by
        unfold menuOf
        rw [deleteLater_menus]
      rw [hmenu]
      cases hof : s.menuOf a with
      | none =>
        refine ⟨deleteLater_actions _ _, deleteLater_menus _ _, ?_, fun object => ?_⟩
        · rw [deleteLater_actionForId]
        · simp
      | some m =>
        refine ⟨?_, ?_, ?_, fun object => ?_⟩
        · rw [deleteLater_actions, deleteLater_actions]
        · rw [deleteLater_menus, deleteLater_menus]
        · rw [deleteLater_actionForId, deleteLater_actionForId]
        · simp only [mem_deleteLater, Option.some.injEq, exists_eq_right']
          exact or_left_comm

/-- The first loop posts the deletions of the actions that are not listed, and no others. -/
theorem foldl_removeOutdated_spec (ids : List ℤ) (rs : List ActionRef) (s : Importer kit) :
    (rs.foldl (removeOutdated ids) s).actions = s.actions ∧
      (rs.foldl (removeOutdated ids) s).menus = s.menus ∧
      ∀ r, Deferred.action r ∈ (rs.foldl (removeOutdated ids) s).deferred ↔
        Deferred.action r ∈ s.deferred ∨
          r ∈ rs ∧ ∃ a, s.actions.find r = some a ∧ a.id ∉ ids := by
  induction rs generalizing s with
  | nil => exact ⟨rfl, rfl, fun r => by simp⟩
  | cons r₀ rs ih =>
    obtain ⟨hactions, hmenus, hdef⟩ := ih (s.removeOutdated ids r₀)
    rw [List.foldl_cons]
    rcases removeOutdated_cases ids s r₀ with ⟨heq, hlisted⟩ | ⟨a, ha, hid, hsame, hsame', -, hone⟩
    · rw [heq] at hactions hmenus hdef ⊢
      refine ⟨hactions, hmenus, fun r => (hdef r).trans (or_congr_right ?_)⟩
      rw [List.mem_cons]
      constructor
      · exact fun hboth => ⟨.inr hboth.1, hboth.2⟩
      · rintro ⟨rfl | hr, a, ha, hid⟩
        · exact absurd (hlisted a ha) hid
        · exact ⟨hr, a, ha, hid⟩
    · refine ⟨hactions.trans hsame, hmenus.trans hsame', fun r => ?_⟩
      rw [hdef, hone, hsame, List.mem_cons]
      constructor
      · rintro ((heq | ⟨m, heq, -⟩ | hold) | ⟨hr, hrest⟩)
        · exact .inr ⟨.inl (Deferred.action.inj heq), a, Deferred.action.inj heq ▸ ha, hid⟩
        · exact nomatch heq
        · exact .inl hold
        · exact .inr ⟨.inr hr, hrest⟩
      · rintro (hold | ⟨rfl | hr, hrest⟩)
        · exact .inl (.inr (.inr hold))
        · exact .inl (.inl rfl)
        · exact .inr ⟨hr, hrest⟩

/-- The entry of a listed id stays through the first loop. -/
theorem actionForId_foldl_removeOutdated {ids : List ℤ} {id : ℤ} (hid : id ∈ ids)
    (rs : List ActionRef) (s : Importer kit) :
    (rs.foldl (removeOutdated ids) s).actionForId id = s.actionForId id := by
  induction rs generalizing s with
  | nil => rfl
  | cons r rs ih =>
    rw [List.foldl_cons, ih]
    rcases removeOutdated_cases ids s r with ⟨heq, -⟩ | ⟨a, -, hnot, -, -, hindex, -⟩
    · rw [heq]
    · rw [hindex, Function.update_of_ne (ne_of_mem_of_not_mem hid hnot)]

/-- The owners of what is created for a menu that exists. -/
theorem ownersIn_of_find {m : MenuRef} {menu : Menu} (hm : s.menus.find m = some menu) :
    s.ownersIn m = m :: menu.owners := by
  unfold ownersIn
  rw [hm]
  rfl

theorem Sound.removeOutdated (hs : Sound s) (newIds : List ℤ) (r : ActionRef) :
    Sound (s.removeOutdated newIds r) := by
  rcases removeOutdated_cases newIds s r with ⟨heq, -⟩ | ⟨a, ha, -, hactions, hmenus, hindex, hdef⟩
  · rw [heq]
    exact hs
  · constructor
    case indexed =>
      intro id r' hid
      rw [hindex, Function.update_apply] at hid
      rw [hactions]
      split_ifs at hid
      exact hs.indexed hid
    case condemned =>
      rw [hdef]
      rintro (h | ⟨m, h, hof⟩ | h)
      · exact nomatch h
      · obtain rfl := Deferred.menu.inj h
        exact hs.submenu ha (menuOf_eq_some.mp hof).1
      · exact hs.condemned h
    case listed => rw [hactions, hmenus]; exact hs.listed
    case actionOwners => rw [hactions, hmenus]; exact hs.actionOwners
    case menuOwners => rw [hmenus]; exact hs.menuOwners
    case root => rw [hmenus]; exact hs.root
    case submenu => rw [hactions]; exact hs.submenu

/-- The action that is made for an item. -/
theorem newAction_spec (s : Importer kit) (m : MenuRef) (id : ℤ) (properties : VariantMap kit) :
    (s.newAction m id properties).entry = id ∧
      (s.newAction m id properties).owners = s.ownersIn m ∧
      ((s.newAction m id properties).menu = none ∨
        (s.newAction m id properties).menu = some s.menus.next) := by
  unfold newAction
  dsimp only
  split_ifs
  · exact ⟨rfl, rfl, .inl rfl⟩
  · exact ⟨rfl, rfl, .inr rfl⟩
  · exact ⟨rfl, rfl, .inl rfl⟩

/-- The menus after an action is inserted: those before, where `m` lists one more action, and the
menu of the action. -/
theorem find_insertAction_menu {m m' : MenuRef} {id : ℤ} {properties : VariantMap kit}
    {menu : Menu} (hm' : (s.insertAction m id properties).menus.find m' = some menu) :
    (∃ menu₀, s.menus.find m' = some menu₀ ∧
      menu = if m' = m then { addLast menu₀ s.actions.next with watched := true } else menu₀) ∨
    (m' = s.menus.next ∧ (s.newAction m id properties).menu = some m' ∧
      menu.owners = s.ownersIn m ∧ menu.menuAction = some s.actions.next ∧
      (m' ≠ m → menu.actions = [])) := by
  unfold insertAction at hm'
  dsimp only at hm'
  obtain ⟨menu₀, hfind, rfl⟩ := Store.find_modify_eq_some.mp hm'
  split_ifs at hfind with hnone
  · exact .inl ⟨menu₀, hfind, rfl⟩
  · rcases Store.find_add_cases hfind with ⟨hnext, rfl⟩ | ⟨-, hfind⟩
    · obtain ⟨-, -, hmenu⟩ := newAction_spec s m id properties
      refine .inr ⟨hnext, hnext ▸ hmenu.resolve_left hnone, ?_⟩
      split_ifs with heq
      · exact ⟨rfl, rfl, fun hne => absurd heq hne⟩
      · exact ⟨rfl, rfl, fun _ => rfl⟩
    · exact .inl ⟨menu₀, hfind, rfl⟩

/-- A menu that is there stays when an action is inserted. -/
theorem find_insertAction_of_find {m m' : MenuRef} {id : ℤ} {properties : VariantMap kit}
    {menu : Menu} (hm' : s.menus.find m' = some menu) :
    (s.insertAction m id properties).menus.find m' =
      some (if m' = m then { addLast menu s.actions.next with watched := true } else menu) := by
  unfold insertAction
  refine Store.find_modify_eq_some.mpr ⟨menu, ?_, rfl⟩
  split_ifs with hnone
  · exact hm'
  · exact Store.find_add_of_find hm'

theorem Sound.insertAction (hs : Sound s) {m : MenuRef} {menu : Menu}
    (hm : s.menus.find m = some menu) (id : ℤ) (properties : VariantMap kit) :
    Sound (s.insertAction m id properties) := by
  obtain ⟨hentry, howners, hmenu⟩ := newAction_spec s m id properties
  have hactions : (s.insertAction m id properties).actions =
      s.actions.add (s.newAction m id properties) := rfl
  have hnew : s.menus.next ≠ rootMenu := by
    obtain ⟨root, hroot, -⟩ := hs.root
    exact (Store.lt_of_find hroot).ne'
  -- A menu keeps its owners, whether or not it lists one more action.
  have hkeeps {m' : MenuRef} {menu' : Menu} (hm' : s.menus.find m' = some menu') :
      ∃ menu'', (s.insertAction m id properties).menus.find m' = some menu'' ∧
        menu''.owners = menu'.owners := by
    refine ⟨_, find_insertAction_of_find hm', ?_⟩
    split_ifs
    · rfl
    · rfl
  have hbelow : ∃ p parent, (s.insertAction m id properties).menus.find p = some parent ∧
      s.ownersIn m = p :: parent.owners := by
    obtain ⟨menu', hm', hsame⟩ := hkeeps hm
    exact ⟨m, menu', hm', by rw [hsame, ownersIn_of_find hm]⟩
  constructor
  case indexed =>
    intro id' r hid
    change Function.update s.actionForId id (some s.actions.next) id' = some r at hid
    rw [hactions]
    rw [Function.update_apply] at hid
    split_ifs at hid with heq
    · obtain rfl := Option.some.inj hid
      exact ⟨_, Store.find_add_next _ _, hentry.trans heq.symm⟩
    · obtain ⟨a, ha, hentry'⟩ := hs.indexed hid
      exact ⟨a, Store.find_add_of_find ha, hentry'⟩
  case listed =>
    intro m' menu' r hm' hr
    rw [hactions]
    have hold {menu₀ : Menu} (hm₀ : s.menus.find m' = some menu₀) (hr : r ∈ menu₀.actions) :
        ∃ a, (s.actions.add (s.newAction m id properties)).find r = some a := by
      obtain ⟨a, ha⟩ := hs.listed hm₀ hr
      exact ⟨a, Store.find_add_of_find ha⟩
    rcases find_insertAction_menu hm' with ⟨menu₀, hm₀, rfl⟩ | ⟨hnext, -, -, -, hempty⟩
    · split_ifs at hr
      · rcases mem_moveLast.mp hr with rfl | hr
        · exact ⟨_, Store.find_add_next _ _⟩
        · exact hold hm₀ hr
      · exact hold hm₀ hr
    · have hne : m' ≠ m := by
        rintro rfl
        rw [hnext, Store.find_next] at hm
        exact nomatch hm
      rw [hempty hne] at hr
      exact absurd hr List.not_mem_nil
  case actionOwners =>
    intro r a ha
    rcases Store.find_add_cases ha with ⟨-, rfl⟩ | ⟨-, ha⟩
    · rw [howners]
      exact hbelow
    · obtain ⟨p, parent, hp, howners'⟩ := hs.actionOwners ha
      obtain ⟨parent', hp', hsame⟩ := hkeeps hp
      exact ⟨p, parent', hp', by rw [hsame, howners']⟩
  case menuOwners =>
    intro m' menu' hm' hne
    rcases find_insertAction_menu hm' with ⟨menu₀, hm₀, rfl⟩ | ⟨-, -, howners', -, -⟩
    · obtain ⟨p, parent, hp, howners'⟩ := hs.menuOwners hm₀ hne
      obtain ⟨parent', hp', hsame⟩ := hkeeps hp
      refine ⟨p, parent', hp', ?_⟩
      rw [hsame, ← howners']
      split_ifs
      · rfl
      · rfl
    · rw [howners']
      exact hbelow
  case root =>
    obtain ⟨root, hroot, hnone⟩ := hs.root
    obtain ⟨root', hroot', hsame⟩ := hkeeps hroot
    exact ⟨root', hroot', hsame.trans hnone⟩
  case submenu =>
    intro r a ha
    rcases Store.find_add_cases ha with ⟨-, rfl⟩ | ⟨-, ha⟩
    · rcases hmenu with hmenu | hmenu
      · rw [hmenu]
        exact nofun
      · rw [hmenu]
        exact fun heq => hnew (Option.some.inj heq)
    · exact hs.submenu ha
  case condemned => exact hs.condemned

/-- Making an action the last of a menu keeps the references sound. -/
theorem Sound.addLast (hs : Sound s) (m : MenuRef) {r : ActionRef} {a : Action kit}
    (ha : s.actions.find r = some a) :
    Sound { s with menus := s.menus.modify m fun menu => addLast menu r } := by
  have hkeeps {m' : MenuRef} {menu' : Menu} (hm' : s.menus.find m' = some menu') :
      ∃ menu'', (s.menus.modify m fun menu => Importer.addLast menu r).find m' = some menu'' ∧
        menu''.owners = menu'.owners := by
    refine ⟨_, Store.find_modify_eq_some.mpr ⟨menu', hm', rfl⟩, ?_⟩
    split_ifs
    · rfl
    · rfl
  constructor
  case indexed => exact hs.indexed
  case listed =>
    intro m' menu' r' hm' hr'
    obtain ⟨menu₀, hm₀, rfl⟩ := Store.find_modify_eq_some.mp hm'
    split_ifs at hr'
    · rcases mem_moveLast.mp hr' with rfl | hr'
      · exact ⟨a, ha⟩
      · exact hs.listed hm₀ hr'
    · exact hs.listed hm₀ hr'
  case actionOwners =>
    intro r' a' ha'
    obtain ⟨p, parent, hp, howners⟩ := hs.actionOwners ha'
    obtain ⟨parent', hp', hsame⟩ := hkeeps hp
    exact ⟨p, parent', hp', by rw [hsame, howners]⟩
  case menuOwners =>
    intro m' menu' hm' hne
    obtain ⟨menu₀, hm₀, rfl⟩ := Store.find_modify_eq_some.mp hm'
    obtain ⟨p, parent, hp, howners⟩ := hs.menuOwners hm₀ hne
    obtain ⟨parent', hp', hsame⟩ := hkeeps hp
    refine ⟨p, parent', hp', ?_⟩
    rw [hsame, ← howners]
    split_ifs
    · rfl
    · rfl
  case root =>
    obtain ⟨root, hroot, hnone⟩ := hs.root
    obtain ⟨root', hroot', hsame⟩ := hkeeps hroot
    exact ⟨root', hroot', hsame.trans hnone⟩
  case submenu => exact hs.submenu
  case condemned => exact hs.condemned

/-- The two branches of the second loop. -/
theorem insertOrUpdate_cases (m : MenuRef) (s : Importer kit) (item : DBusMenuLayoutItem kit) :
    (s.actionForId item.id = none ∧
        insertOrUpdate m s item = s.insertAction m item.id item.properties) ∨
      ∃ r, s.actionForId item.id = some r ∧
        insertOrUpdate m s item = s.moveAction m r item.properties := by
  unfold insertOrUpdate
  cases s.actionForId item.id with
  | none => exact .inl ⟨rfl, rfl⟩
  | some r => exact .inr ⟨r, rfl, rfl⟩

theorem kept_updateAction (s : Importer kit) (r : ActionRef)
    (updates : List (String × kit.Variant)) : Kept s (s.updateAction r updates) :=
  (kept_modifyLook s r fun look => updateProperties s.themeType s.forceRefresh look updates).trans
    (.of_eq rfl rfl rfl rfl)

/-- The menu is there, and every reference is to an object. -/
def SoundIn (m : MenuRef) (s : Importer kit) : Prop :=
  Sound s ∧ ∃ menu, s.menus.find m = some menu

theorem SoundIn.insertOrUpdate {m : MenuRef} (h : SoundIn m s) (item : DBusMenuLayoutItem kit) :
    SoundIn m (insertOrUpdate m s item) := by
  obtain ⟨hs, menu, hm⟩ := h
  rcases insertOrUpdate_cases m s item with ⟨-, heq⟩ | ⟨r, hindex, heq⟩
  · rw [heq]
    exact ⟨hs.insertAction hm _ _, _, find_insertAction_of_find hm⟩
  · rw [heq]
    have hkept := kept_updateAction s r
      (requestedUpdates item.properties (filteredKeys item.properties))
    obtain ⟨a, ha, -⟩ := hs.indexed hindex
    obtain ⟨look, ha'⟩ := hkept.find_of_find ha
    refine ⟨(hs.kept hkept).addLast m ha', _, Store.find_modify_eq_some.mpr ⟨menu, ?_, rfl⟩⟩
    rw [hkept.menus]
    exact hm

theorem SoundIn.removeOutdated {m : MenuRef} (h : SoundIn m s) (newIds : List ℤ)
    (r : ActionRef) : SoundIn m (s.removeOutdated newIds r) := by
  refine ⟨h.1.removeOutdated newIds r, ?_⟩
  rcases removeOutdated_cases newIds s r with ⟨heq, -⟩ | ⟨a, -, -, -, hmenus, -⟩
  · rw [heq]
    exact h.2
  · rw [hmenus]
    exact h.2

theorem SoundIn.replaceLayout {m : MenuRef} (h : SoundIn m s)
    (rootItem : DBusMenuLayoutItem kit) : SoundIn m (s.replaceLayout m rootItem) :=
  run_invariant (fun _ item hs => hs.insertOrUpdate item) rootItem.children
    (run_invariant (fun _ r hs => hs.removeOutdated rootItem.childIds r) (s.actionsOf m) h)

/-- The menu of an id is one that exists. -/
theorem Sound.menuForId (hs : Sound s) {id : ℤ} {m : MenuRef} (hm : s.menuForId id = some m) :
    ∃ menu, s.menus.find m = some menu := by
  unfold Importer.menuForId at hm
  split_ifs at hm
  · obtain rfl := Option.some.inj hm
    obtain ⟨menu, hroot, -⟩ := hs.root
    exact ⟨menu, hroot⟩
  · obtain ⟨r, -, hr⟩ := Option.bind_eq_some_iff.mp hm
    obtain ⟨a, -, ha⟩ := Option.bind_eq_some_iff.mp hr
    exact (menuOf_eq_some.mp ha).2

/-- A layout changes the objects as `replaceLayout` does. -/
theorem slotGetLayoutFinished_cases (s : Importer kit) (parentId : ℤ)
    (reply : Option (ℕ × DBusMenuLayoutItem kit)) :
    Kept s (s.slotGetLayoutFinished parentId reply) ∨
      ∃ m revision rootItem, s.menuForId parentId = some m ∧ reply = some (revision, rootItem) ∧
        s.slotGetLayoutFinished parentId reply =
          (s.replaceLayout m rootItem).emit (.menuUpdated m) := by
  unfold slotGetLayoutFinished
  cases s.menuForId parentId with
  | none => exact .inl (.refl s)
  | some m =>
    cases reply with
    | none => exact .inl (kept_emit s _)
    | some reply => exact .inr ⟨m, reply.1, reply.2, rfl, rfl, rfl⟩

theorem Sound.step (hs : Sound s) (e : Event kit) : Sound (s.step e) := by
  by_cases he : e.ChangesObjects
  · cases e with
    | getLayoutFinished parentId reply =>
      change Sound (s.slotGetLayoutFinished parentId reply)
      rcases slotGetLayoutFinished_cases s parentId reply with hkept | ⟨m, -, rootItem, hm, -, heq⟩
      · exact hs.kept hkept
      · rw [heq]
        have hreplaced : SoundIn m (s.replaceLayout m rootItem) :=
          SoundIn.replaceLayout ⟨hs, hs.menuForId hm⟩ rootItem
        exact hreplaced.1.kept (kept_emit _ _)
    | deferredDelete => exact hs.deferredDelete
    | layoutUpdated | itemsPropertiesUpdated | itemActivationRequested | aboutToShowFinished
    | timeout | rightClick | aboutToShow | aboutToHide | activate | themeTypeChanged =>
      exact absurd he id
  · exact hs.kept (kept_step he)

/-- Whatever happens, the entry of an id is an action that was made for the id and exists, and
every action that a menu lists exists. -/
theorem references_valid (themeType : ThemeType) (es : List (Event kit)) :
    let s := run step (create kit themeType) es
    (∀ id r, s.actionForId id = some r → ∃ a, s.actions.find r = some a ∧ a.entry = id) ∧
      ∀ m menu, s.menus.find m = some menu → ∀ r ∈ menu.actions,
        ∃ a, s.actions.find r = some a := by
  have hs : Sound (run step (create kit themeType) es) :=
    run_invariant (fun _ e hs => hs.step e) es (sound_create kit themeType)
  exact ⟨fun _ _ => hs.indexed, fun _ _ hm _ => hs.listed hm⟩

/-! ## References are not used again -/

/-- The menu of an item that is not the whole menu. -/
theorem menuForId_eq_some {id : ℤ} {m : MenuRef} (hid : id ≠ 0) :
    s.menuForId id = some m ↔ ∃ r a, s.actionForId id = some r ∧ s.actions.find r = some a ∧
      a.menu = some m ∧ ∃ menu, s.menus.find m = some menu := by
  unfold menuForId
  rw [if_neg hid]
  simp only [Option.bind_eq_some_iff, menuOf_eq_some]
  constructor
  · rintro ⟨r, hr, a, ha, hrest⟩
    exact ⟨r, a, hr, ha, hrest⟩
  · rintro ⟨r, a, hr, ha, hrest⟩
    exact ⟨r, hr, a, ha, hrest⟩

/-- A menu that is there later, and is not new, was there, and an item that has it later had it. -/
structure Aged (s s' : Importer kit) : Prop where
  next : s.menus.next ≤ s'.menus.next
  there : ∀ {m menu'}, m < s.menus.next → s'.menus.find m = some menu' →
    ∃ menu, s.menus.find m = some menu
  menuForId : ∀ {id m}, m < s.menus.next → s'.menuForId id = some m → s.menuForId id = some m

theorem Aged.refl (s : Importer kit) : Aged s s := ⟨le_rfl, fun _ hm => ⟨_, hm⟩, fun _ hm => hm⟩

theorem Aged.trans {s'' : Importer kit} (h : Aged s s') (h' : Aged s' s'') : Aged s s'' := by
  refine ⟨h.next.trans h'.next, fun hlt hm => ?_, fun hlt hm => ?_⟩
  · obtain ⟨menu', hm'⟩ := h'.there (hlt.trans_le h.next) hm
    exact h.there hlt hm'
  · exact h.menuForId hlt (h'.menuForId (hlt.trans_le h.next) hm)

/-- When entries, actions and menus only come new or go, the importer ages. -/
theorem Aged.of_objects (hnext : s.menus.next ≤ s'.menus.next)
    (hmenus : ∀ {m menu'}, m < s.menus.next → s'.menus.find m = some menu' →
      ∃ menu, s.menus.find m = some menu)
    (hindex : ∀ {id r a m}, s'.actionForId id = some r → s'.actions.find r = some a →
      a.menu = some m → m < s.menus.next →
        ∃ a₀, s.actionForId id = some r ∧ s.actions.find r = some a₀ ∧ a₀.menu = some m) :
    Aged s s' := by
  refine ⟨hnext, hmenus, fun {id m} hlt hm => ?_⟩
  by_cases hid : id = 0
  · unfold Importer.menuForId at hm ⊢
    rw [if_pos hid] at hm ⊢
    exact hm
  · obtain ⟨r, a, hr, ha, hmenu, menu', hm'⟩ := (menuForId_eq_some hid).mp hm
    obtain ⟨a₀, hr₀, ha₀, hmenu₀⟩ := hindex hr ha hmenu hlt
    exact (menuForId_eq_some hid).mpr ⟨r, a₀, hr₀, ha₀, hmenu₀, hmenus hlt hm'⟩

theorem Kept.aged (h : Kept s s') : Aged s s' := by
  refine .of_objects (by rw [h.menus]) (fun _ hm => ⟨_, h.menus ▸ hm⟩) ?_
  intro id r a m hr ha hmenu _
  obtain ⟨a₀, look, ha₀, rfl⟩ := h.find ha
  exact ⟨a₀, h.actionForId ▸ hr, ha₀, hmenu⟩

theorem aged_sweep (s : Importer kit) (deadAction : ActionRef → Action kit → Bool)
    (deadMenu : MenuRef → Menu → Bool) : Aged s (s.sweep deadAction deadMenu) := by
  refine .of_objects le_rfl (fun _ hm => ?_) ?_
  · obtain ⟨menu, hmenu, -⟩ := find_sweep_menu.mp hm
    exact ⟨menu, hmenu⟩
  · intro id r a m hr ha hmenu _
    exact ⟨a, (sweep_actionForId.mp hr).1, (find_sweep_action.mp ha).1, hmenu⟩

theorem aged_deferredDelete (s : Importer kit) : Aged s s.deferredDelete := by
  have hrest (rest : List Deferred) : Aged s { s with deferred := rest } :=
    .of_objects le_rfl (fun _ hm => ⟨_, hm⟩) fun hr ha hmenu _ => ⟨_, hr, ha, hmenu⟩
  unfold deferredDelete
  split
  · exact .refl s
  · exact (hrest _).trans (aged_sweep _ _ _)
  · exact (hrest _).trans (aged_sweep _ _ _)

theorem aged_removeOutdated (ids : List ℤ) (s : Importer kit) (r : ActionRef) :
    Aged s (s.removeOutdated ids r) := by
  rcases removeOutdated_cases ids s r with ⟨heq, -⟩ | ⟨a, -, -, hactions, hmenus, hindex, -⟩
  · rw [heq]
    exact .refl s
  · refine .of_objects (by rw [hmenus]) (fun _ hm => ⟨_, hmenus ▸ hm⟩) ?_
    intro id r' a' m hr' ha' hmenu _
    rw [hindex, Function.update_apply] at hr'
    split_ifs at hr'
    exact ⟨a', hr', hactions ▸ ha', hmenu⟩

theorem aged_insertAction (s : Importer kit) (m : MenuRef) (id : ℤ)
    (properties : VariantMap kit) : Aged s (s.insertAction m id properties) := by
  obtain ⟨-, -, hnew⟩ := newAction_spec s m id properties
  refine .of_objects ?_ (fun hlt hm' => ?_) ?_
  · change s.menus.next ≤ (if _ then s.menus else s.menus.add _).next
    split_ifs
    · exact le_rfl
    · exact Nat.le_succ _
  · rcases find_insertAction_menu hm' with ⟨menu₀, hm₀, -⟩ | ⟨hnext, -⟩
    · exact ⟨menu₀, hm₀⟩
    · exact absurd hnext hlt.ne
  · intro id' r a m' hr ha hmenu hlt
    rcases Store.find_add_cases ha with ⟨-, rfl⟩ | ⟨hne, ha⟩
    · rcases hnew with hnew | hnew
      · exact nomatch hnew.symm.trans hmenu
      · exact absurd (Option.some.inj (hmenu.symm.trans hnew)) hlt.ne
    · change Function.update s.actionForId id (some s.actions.next) id' = some r at hr
      rw [Function.update_apply] at hr
      split_ifs at hr
      · exact absurd (Option.some.inj hr).symm hne
      · exact ⟨a, hr, ha, hmenu⟩

theorem aged_insertOrUpdate (m : MenuRef) (s : Importer kit) (item : DBusMenuLayoutItem kit) :
    Aged s (insertOrUpdate m s item) := by
  rcases insertOrUpdate_cases m s item with ⟨-, heq⟩ | ⟨r, -, heq⟩
  · rw [heq]
    exact aged_insertAction s m item.id item.properties
  · rw [heq]
    refine (kept_updateAction s r
      (requestedUpdates item.properties (filteredKeys item.properties))).aged.trans ?_
    refine .of_objects le_rfl (fun _ hm => ?_) fun hr ha hmenu _ => ⟨_, hr, ha, hmenu⟩
    obtain ⟨menu₀, hm₀, -⟩ := Store.find_modify_eq_some.mp hm
    exact ⟨menu₀, hm₀⟩

theorem aged_foldl {β : Type} (f : Importer kit → β → Importer kit) (hf : ∀ s x, Aged s (f s x))
    (s : Importer kit) (xs : List β) : Aged s (xs.foldl f s) := by
  induction xs generalizing s with
  | nil => exact .refl s
  | cons x xs ih => exact (hf s x).trans (ih _)

theorem aged_step (s : Importer kit) (e : Event kit) : Aged s (s.step e) := by
  by_cases he : e.ChangesObjects
  · cases e with
    | getLayoutFinished parentId reply =>
      change Aged s (s.slotGetLayoutFinished parentId reply)
      rcases slotGetLayoutFinished_cases s parentId reply with hkept | ⟨m, -, layout, -, -, heq⟩
      · exact hkept.aged
      · rw [heq]
        exact ((aged_foldl _ (aged_removeOutdated _) s _).trans
          (aged_foldl _ (aged_insertOrUpdate m) _ _)).trans (kept_emit _ _).aged
    | deferredDelete => exact aged_deferredDelete s
    | layoutUpdated | itemsPropertiesUpdated | itemActivationRequested | aboutToShowFinished
    | timeout | rightClick | aboutToShow | aboutToHide | activate | themeTypeChanged =>
      exact absurd he id
  · exact (kept_step he).aged

end Importer

end DdeTrayLoader.DBusMenu
