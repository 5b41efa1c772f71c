import DdeTrayLoader.DBusMenu.Objects

/-!
# What a menu shows

A menu shows the children that the last layout lists, in their order. An action that the layout no
longer lists stays in the menu until it is deleted, and is not counted here.

The service must list an item below one item only, not twice in a layout, and without a title of
KDE, which gets no id. And when it lists an id again, the action that had the id must be deleted
by then: its deletion takes away the entry of the id, also when that is the entry of a new action.
-/

namespace DdeTrayLoader.DBusMenu

open DdeTrayLoader.Objects DdeTrayLoader.Transition DdeTrayLoader.Lists

namespace Importer

variable {kit : Toolkit} {s s' : Importer kit}

/-- The id of an action, unless the action is about to be deleted. -/
def shownId (s : Importer kit) (r : ActionRef) : Option ℤ :=
  if Deferred.action r ∈ s.deferred then none else (s.actions.find r).map Action.id

/-- The ids of the actions of a menu that are not about to be deleted, in order. -/
def shownIds (s : Importer kit) (m : MenuRef) : List ℤ := (s.actionsOf m).filterMap s.shownId

/-- A layout lists an id once, below the item that is its home, and without a title of KDE. -/
structure Proper (home : ℤ → ℤ) (parentId : ℤ) (layout : DBusMenuLayoutItem kit) : Prop where
  nodup : layout.childIds.Nodup
  placed : ∀ child ∈ layout.children,
    child.id ≠ 0 ∧ home child.id = parentId ∧ isKdeTitle child.properties = false

/-- No action with one of the ids is about to be deleted, alone or with a menu that owns it. -/
def Free (ids : List ℤ) (s : Importer kit) : Prop :=
  ∀ r a, s.actions.find r = some a → a.id ∈ ids →
    Deferred.action r ∉ s.deferred ∧ ∀ m ∈ a.owners, Deferred.menu m ∉ s.deferred

/-- Every id is free when nothing is about to be deleted. -/
theorem free_of_deferred (h : s.deferred = []) (ids : List ℤ) : Free ids s := by
  unfold Free
  rw [h]
  exact fun _ _ _ _ => ⟨List.not_mem_nil, fun _ _ => List.not_mem_nil⟩

/-- A layout that arrives is proper, and the ids that it lists are free. -/
def Orderly (home : ℤ → ℤ) (s : Importer kit) : Event kit → Prop
  | .getLayoutFinished parentId (some (_, layout)) =>
    Proper home parentId layout ∧ Free layout.childIds s
  | _ => True

/-- What holds between the objects when the layouts are orderly: an id belongs to one action at
most, which is found by it until its deletion is posted, and an action is listed in its parent
and nowhere else. -/
structure Tidy (home : ℤ → ℤ) (s : Importer kit) : Prop where
  sound : Sound s
  ids : ∀ {r a}, s.actions.find r = some a → a.entry = a.id ∧ a.id ≠ 0
  unique : ∀ {r r' a a'}, s.actions.find r = some a → s.actions.find r' = some a' →
    a.id = a'.id → r = r'
  mapped : ∀ {r a}, s.actions.find r = some a → Deferred.action r ∉ s.deferred →
    s.actionForId a.id = some r
  condemned : ∀ {r}, Deferred.action r ∈ s.deferred → ∃ a, s.actions.find r = some a
  condemnedMenu : ∀ {m}, Deferred.menu m ∈ s.deferred → ∃ menu, s.menus.find m = some menu
  placed : ∀ {r a p menu}, s.actions.find r = some a → a.owners.head? = some p →
    s.menus.find p = some menu → r ∈ menu.actions
  listed : ∀ {m menu r a}, s.menus.find m = some menu → r ∈ menu.actions →
    s.actions.find r = some a → a.owners.head? = some m
  nodup : ∀ {m menu}, s.menus.find m = some menu → menu.actions.Nodup
  homes : ∀ {r a p}, s.actions.find r = some a → a.owners.head? = some p →
    (p = rootMenu ∧ home a.id = 0) ∨ Deferred.menu p ∈ s.deferred ∨
      ∃ b ob, s.actions.find b = some ob ∧ ob.menu = some p ∧ ob.id = home a.id
  own : ∀ {r r' a a' p}, s.actions.find r = some a → s.actions.find r' = some a' →
    a.menu = some p → a'.menu = some p → r = r'
  submenus : ∀ {r a p}, s.actions.find r = some a → a.menu = some p →
    p < s.menus.next ∧ (∀ menu, s.menus.find p = some menu → menu.owners = a.owners) ∧
      (Deferred.action r ∈ s.deferred → Deferred.menu p ∈ s.deferred ∨ s.menus.find p = none)

theorem tidy_create (home : ℤ → ℤ) (kit : Toolkit) (themeType : ThemeType) :
    Tidy home (create kit themeType) where
  sound := sound_create kit themeType
  ids h := nomatch h
  unique h := nomatch h
  mapped h := nomatch h
  condemned h := nomatch h
  condemnedMenu h := nomatch h
  placed h := nomatch h
  listed _ _ h := nomatch h
  nodup {m menu} h := by
    rcases Store.find_add_cases h with ⟨-, rfl⟩ | ⟨-, h⟩
    · exact List.nodup_nil
    · exact nomatch h
  homes h := nomatch h
  own h := nomatch h
  submenus h := nomatch h

theorem Tidy.kept {home : ℤ → ℤ} (hs : Tidy home s) (h : Kept s s') : Tidy home s' where
  sound := hs.sound.kept h
  ids {r a} ha := by
    obtain ⟨a₀, look, ha₀, rfl⟩ := h.find ha
    exact hs.ids (a := a₀) ha₀
  unique {r r' a a'} ha ha' heq := by
    obtain ⟨a₀, look, ha₀, rfl⟩ := h.find ha
    obtain ⟨a₀', look', ha₀', rfl⟩ := h.find ha'
    exact hs.unique ha₀ ha₀' heq
  mapped {r a} ha hdef := by
    obtain ⟨a₀, look, ha₀, rfl⟩ := h.find ha
    rw [h.deferred] at hdef
    rw [h.actionForId]
    exact hs.mapped (a := a₀) ha₀ hdef
  condemned {r} hdef := by
    rw [h.deferred] at hdef
    obtain ⟨a, ha⟩ := hs.condemned hdef
    obtain ⟨look, ha'⟩ := h.find_of_find ha
    exact ⟨_, ha'⟩
  condemnedMenu {m} hdef := by
    rw [h.deferred] at hdef
    rw [h.menus]
    exact hs.condemnedMenu hdef
  placed {r a p menu} ha hp hmenu := by
    obtain ⟨a₀, look, ha₀, rfl⟩ := h.find ha
    rw [h.menus] at hmenu
    exact hs.placed (a := a₀) ha₀ hp hmenu
  listed {m menu r a} hmenu hr ha := by
    obtain ⟨a₀, look, ha₀, rfl⟩ := h.find ha
    rw [h.menus] at hmenu
    exact hs.listed (a := a₀) hmenu hr ha₀
  nodup {m menu} hmenu := by
    rw [h.menus] at hmenu
    exact hs.nodup hmenu
  homes {r a p} ha hp := by
    obtain ⟨a₀, look, ha₀, rfl⟩ := h.find ha
    rw [h.deferred]
    refine (hs.homes (a := a₀) ha₀ hp).imp_right (Or.imp_right ?_)
    rintro ⟨b, ob, hb, hmenu, hid⟩
    obtain ⟨look', hb'⟩ := h.find_of_find hb
    exact ⟨b, _, hb', hmenu, hid⟩
  own {r r' a a' p} ha ha' hp hp' := by
    obtain ⟨a₀, look, ha₀, rfl⟩ := h.find ha
    obtain ⟨a₀', look', ha₀', rfl⟩ := h.find ha'
    exact hs.own ha₀ ha₀' hp hp'
  submenus {r a p} ha hmenu := by
    obtain ⟨a₀, look, ha₀, rfl⟩ := h.find ha
    rw [h.menus, h.deferred]
    exact hs.submenus (a := a₀) ha₀ hmenu

/-! ## Deletion -/

section
variable {deadAction : ActionRef → Action kit → Bool} {deadMenu : MenuRef → Menu → Bool}

/-- The posted deletions after a deletion are those of the objects that are left. -/
theorem mem_sweep_action {r : ActionRef} :
    Deferred.action r ∈ (s.sweep deadAction deadMenu).deferred ↔
      Deferred.action r ∈ s.deferred ∧ (s.actions.find r).any (deadAction r) = false := by
  change _ ∈ s.deferred.filter _ ↔ _
  rw [List.mem_filter, Bool.not_eq_true']

theorem mem_sweep_menu {m : MenuRef} :
    Deferred.menu m ∈ (s.sweep deadAction deadMenu).deferred ↔
      Deferred.menu m ∈ s.deferred ∧ (s.menus.find m).any (deadMenu m) = false := by
  change _ ∈ s.deferred.filter _ ↔ _
  rw [List.mem_filter, Bool.not_eq_true']

/-- A deletion leaves a tidy importer tidy, when it takes what a deleted menu owns, and the menu
of a deleted action with it or later. -/
theorem Tidy.sweep {home : ℤ → ℤ} (hs : Tidy home s)
    (hroot : ∀ menu, s.menus.find rootMenu = some menu → deadMenu rootMenu menu = false)
    (hactions : ∀ r a p menu, s.actions.find r = some a → s.menus.find p = some menu →
      a.owners = p :: menu.owners → deadMenu p menu = true → deadAction r a = true)
    (hmenus : ∀ m menu p parent, s.menus.find m = some menu → s.menus.find p = some parent →
      menu.owners = p :: parent.owners → deadMenu p parent = true → deadMenu m menu = true)
    (hsubmenus : ∀ r a p menu, s.actions.find r = some a → a.menu = some p →
      s.menus.find p = some menu → deadAction r a = true →
      Deferred.menu p ∈ s.deferred ∨ deadMenu p menu = true) :
    Tidy home (s.sweep deadAction deadMenu) where
  sound := hs.sound.sweep hroot hactions hmenus
  ids ha := hs.ids (find_sweep_action.mp ha).1
  unique ha ha' heq := hs.unique (find_sweep_action.mp ha).1 (find_sweep_action.mp ha').1 heq
  mapped {r a} ha hdef := by
    obtain ⟨ha, halive⟩ := find_sweep_action.mp ha
    have hold : Deferred.action r ∉ s.deferred := by
      intro hmem
      refine hdef (mem_sweep_action.mpr ⟨hmem, ?_⟩)
      rw [ha, Option.any_some, halive]
    refine sweep_actionForId.mpr ⟨hs.mapped ha hold, ?_⟩
    intro r' a' ha' hdead hentry
    have hsame : a'.id = a.id := (hs.ids ha').1.symm.trans hentry
    obtain rfl := hs.unique ha' ha hsame
    obtain rfl := Option.some.inj (ha'.symm.trans ha)
    rw [hdead] at halive
    contradiction
  condemned {r} hdef := by
    obtain ⟨hdef, halive⟩ := mem_sweep_action.mp hdef
    obtain ⟨a, ha⟩ := hs.condemned hdef
    rw [ha, Option.any_some] at halive
    exact ⟨a, find_sweep_action.mpr ⟨ha, halive⟩⟩
  condemnedMenu {m} hdef := by
    obtain ⟨hdef, halive⟩ := mem_sweep_menu.mp hdef
    obtain ⟨menu, hm⟩ := hs.condemnedMenu hdef
    rw [hm, Option.any_some] at halive
    exact ⟨_, find_sweep_menu.mpr ⟨menu, hm, halive, rfl⟩⟩
  placed {r a p menu} ha hp hmenu := by
    obtain ⟨ha, halive⟩ := find_sweep_action.mp ha
    obtain ⟨menu₀, hmenu₀, -, rfl⟩ := find_sweep_menu.mp hmenu
    refine List.mem_filter.mpr ⟨hs.placed ha hp hmenu₀, ?_⟩
    rw [ha, Option.any_some, halive]
    rfl
  listed {m menu r a} hmenu hr ha := by
    obtain ⟨menu₀, hmenu₀, -, rfl⟩ := find_sweep_menu.mp hmenu
    exact hs.listed hmenu₀ (List.mem_of_mem_filter hr) (find_sweep_action.mp ha).1
  nodup {m menu} hmenu := by
    obtain ⟨menu₀, hmenu₀, -, rfl⟩ := find_sweep_menu.mp hmenu
    exact (hs.nodup hmenu₀).filter _
  homes {r a p} ha hp := by
    obtain ⟨ha, halive⟩ := find_sweep_action.mp ha
    obtain ⟨p', parent, hparent, howners⟩ := hs.sound.actionOwners ha
    rw [howners, List.head?_cons] at hp
    obtain rfl := Option.some.inj hp
    have hspared : deadMenu p' parent = false := by
      rw [← Bool.not_eq_true]
      intro hdead
      rw [hactions r a p' parent ha hparent howners hdead] at halive
      contradiction
    have hstays (hdef : Deferred.menu p' ∈ s.deferred) :
        Deferred.menu p' ∈ (s.sweep deadAction deadMenu).deferred := by
      refine mem_sweep_menu.mpr ⟨hdef, ?_⟩
      rw [hparent, Option.any_some, hspared]
    rcases hs.homes ha (by rw [howners, List.head?_cons]) with h | h | ⟨b, ob, hb, hmenu, hid⟩
    · exact .inl h
    · exact .inr (.inl (hstays h))
    · cases hdead : deadAction b ob with
      | false => exact .inr (.inr ⟨b, ob, find_sweep_action.mpr ⟨hb, hdead⟩, hmenu, hid⟩)
      | true =>
        rcases hsubmenus b ob p' parent hb hmenu hparent hdead with h | h
        · exact .inr (.inl (hstays h))
        · rw [hspared] at h
          contradiction
  own ha ha' := hs.own (find_sweep_action.mp ha).1 (find_sweep_action.mp ha').1
  submenus {r a p} ha hmenu := by
    obtain ⟨ha, -⟩ := find_sweep_action.mp ha
    obtain ⟨hlt, howners, hdef⟩ := hs.submenus ha hmenu
    refine ⟨hlt, ?_, ?_⟩
    · intro menu hp
      obtain ⟨menu₀, hp₀, -, rfl⟩ := find_sweep_menu.mp hp
      exact howners menu₀ hp₀
    · intro hmem
      cases hfind : (s.sweep deadAction deadMenu).menus.find p with
      | none => exact .inr rfl
      | some menu =>
        obtain ⟨menu₀, hp, halive, -⟩ := find_sweep_menu.mp hfind
        refine .inl (mem_sweep_menu.mpr ⟨?_, ?_⟩)
        · refine (hdef (mem_sweep_action.mp hmem).1).resolve_right ?_
          rw [hp]
          exact nofun
        · rw [hp, Option.any_some, halive]

end

/-- A deletion that was posted and is done now is not posted any more. -/
theorem sweep_rest {object : Deferred} {rest : List Deferred} (hdef : s.deferred = object :: rest)
    {deadAction : ActionRef → Action kit → Bool} {deadMenu : MenuRef → Menu → Bool}
    (hgone : object ∉ (s.sweep deadAction deadMenu).deferred) :
    { s with deferred := rest }.sweep deadAction deadMenu = s.sweep deadAction deadMenu := by
  unfold Importer.sweep at hgone ⊢
  dsimp only at hgone ⊢
  rw [hdef] at hgone ⊢
  rw [List.filter_cons] at hgone ⊢
  split_ifs at hgone ⊢
  · exact absurd List.mem_cons_self hgone
  · rfl

/-- The deletion of the next object, by what is deleted. -/
theorem Tidy.deferredDelete_cases {home : ℤ → ℤ} (hs : Tidy home s) :
    s.deferredDelete = s ∨
      (∃ r, Deferred.action r ∈ s.deferred ∧
        s.deferredDelete = s.sweep (fun r' _ => r' = r) fun _ _ => false) ∨
      ∃ m, Deferred.menu m ∈ s.deferred ∧
        s.deferredDelete = s.sweep (fun _ action => m ∈ action.owners)
          fun m' menu => m' = m || m ∈ menu.owners := by
  unfold Importer.deferredDelete
  split
  · exact .inl rfl
  · next r rest hdef =>
    have hmem : Deferred.action r ∈ s.deferred := hdef ▸ List.mem_cons_self
    refine .inr (.inl ⟨r, hmem, sweep_rest hdef ?_⟩)
    obtain ⟨a, ha⟩ := hs.condemned hmem
    rw [mem_sweep_action, ha, Option.any_some, decide_eq_true rfl]
    exact fun hboth => nomatch hboth.2
  · next m rest hdef =>
    have hmem : Deferred.menu m ∈ s.deferred := hdef ▸ List.mem_cons_self
    refine .inr (.inr ⟨m, hmem, sweep_rest hdef ?_⟩)
    obtain ⟨menu, hm⟩ := hs.condemnedMenu hmem
    rw [mem_sweep_menu, hm, Option.any_some, decide_eq_true rfl, Bool.true_or]
    exact fun hboth => nomatch hboth.2

theorem Tidy.deferredDelete {home : ℤ → ℤ} (hs : Tidy home s) : Tidy home s.deferredDelete := by
  rcases hs.deferredDelete_cases with heq | ⟨r, hdef, heq⟩ | ⟨m, hdef, heq⟩
  · rw [heq]
    exact hs
  · rw [heq]
    refine hs.sweep (fun _ _ => rfl) (fun _ _ _ _ _ _ _ h => nomatch h)
      (fun _ _ _ _ _ _ _ h => h) ?_
    intro r' a p menu ha hmenu hp hdead
    obtain rfl := of_decide_eq_true hdead
    refine .inl (((hs.submenus ha hmenu).2.2 hdef).resolve_right ?_)
    rw [hp]
    exact nofun
  · rw [heq]
    have hm : m ≠ rootMenu := by
      rintro rfl
      exact hs.sound.condemned hdef
    refine hs.sweep (hs.sound.root_not_below hm) ?_ ?_ ?_
    · intro r a p menu _ _ howners hdead
      exact decide_eq_true (mem_owners_of_parent howners hdead)
    · intro m' menu p parent _ _ howners hdead
      rw [decide_eq_true (mem_owners_of_parent howners hdead), Bool.or_true]
    · intro r a p menu ha hmenu hp hdead
      rw [(hs.submenus ha hmenu).2.1 menu hp, hdead, Bool.or_true]
      exact .inr rfl

/-! ## A layout -/

/-- What holds while a layout for the item `parentId`, with the menu `m`, is handled: the actions
that have a listed id are in the menu and stay. -/
structure Ready (home : ℤ → ℤ) (parentId : ℤ) (m : MenuRef) (ids : List ℤ) (s : Importer kit) :
    Prop where
  tidy : Tidy home s
  there : ∃ menu, s.menus.find m = some menu
  serves : (m = rootMenu ∧ parentId = 0) ∨
    ∃ b ob, s.actions.find b = some ob ∧ ob.menu = some m ∧ ob.id = parentId
  known : ∀ {r a}, s.actions.find r = some a → a.id ∈ ids →
    a.owners.head? = some m ∧ Deferred.action r ∉ s.deferred

/-- The menu of an item is its action's, or the importer's own. -/
theorem menuForId_cases {parentId : ℤ} {m : MenuRef} (hm : s.menuForId parentId = some m) :
    (m = rootMenu ∧ parentId = 0) ∨
      ∃ b ob, s.actionForId parentId = some b ∧ s.actions.find b = some ob ∧ ob.menu = some m := by
  unfold menuForId at hm
  split_ifs at hm with hroot
  · exact .inl ⟨(Option.some.inj hm).symm, hroot⟩
  · obtain ⟨b, hb, hrest⟩ := Option.bind_eq_some_iff.mp hm
    obtain ⟨ob, hob, hmenu⟩ := Option.bind_eq_some_iff.mp hrest
    exact .inr ⟨b, ob, hb, hob, (menuOf_eq_some.mp hmenu).1⟩

/-- When a layout arrives whose ids are free, it can be handled. -/
theorem Tidy.ready {home : ℤ → ℤ} (hs : Tidy home s) {parentId : ℤ} {m : MenuRef}
    (hm : s.menuForId parentId = some m) {layout : DBusMenuLayoutItem kit}
    (hproper : Proper home parentId layout) (hfree : Free layout.childIds s) :
    Ready home parentId m layout.childIds s := by
  have hserves : (m = rootMenu ∧ parentId = 0) ∨
      ∃ b ob, s.actions.find b = some ob ∧ ob.menu = some m ∧ ob.id = parentId := by
    refine (menuForId_cases hm).imp_right ?_
    rintro ⟨b, ob, hindex, hob, hmenu⟩
    obtain ⟨ob', hob', hentry⟩ := hs.sound.indexed hindex
    obtain rfl := Option.some.inj (hob.symm.trans hob')
    exact ⟨b, ob, hob, hmenu, (hs.ids hob).1 ▸ hentry⟩
  refine ⟨hs, hs.sound.menuForId hm, hserves, ?_⟩
  intro r a ha hid
  obtain ⟨hstays, howned⟩ := hfree r a ha hid
  refine ⟨?_, hstays⟩
  have hhome : home a.id = parentId := by
    obtain ⟨child, hchild, hsame⟩ := List.mem_map.mp hid
    rw [← hsame]
    exact (hproper.placed child hchild).2.1
  -- The parent of the action is the menu of the same item.
  obtain ⟨p, parent, hparent, howners⟩ := hs.sound.actionOwners ha
  rw [howners, List.head?_cons]
  rcases hs.homes ha (by rw [howners, List.head?_cons]) with ⟨rfl, hzero⟩ | hdef | hb
  · rcases hserves with ⟨rfl, -⟩ | ⟨b, ob, hob, -, hid'⟩
    · rfl
    · exact absurd (hid'.trans (hhome.symm.trans hzero)) (hs.ids hob).2
  · exact absurd hdef (howned p (howners ▸ List.mem_cons_self))
  · obtain ⟨b, ob, hob, hmenu, hid'⟩ := hb
    rcases hserves with ⟨-, hzero⟩ | ⟨b', ob', hob', hmenu', hid''⟩
    · exact absurd (hid'.trans (hhome.trans hzero)) (hs.ids hob).2
    · obtain rfl := hs.unique hob hob' (hid'.trans (hhome.trans hid''.symm))
      obtain rfl := Option.some.inj (hob.symm.trans hob')
      exact hmenu.symm.trans hmenu'

/-- The first loop keeps an importer tidy. -/
theorem Tidy.removeOutdated {home : ℤ → ℤ} (hs : Tidy home s) (newIds : List ℤ)
    (r : ActionRef) : Tidy home (s.removeOutdated newIds r) := by
  rcases removeOutdated_cases newIds s r with ⟨heq, -⟩ | ⟨a, ha, -, hactions, hmenus, hindex, hdef⟩
  · rw [heq]
    exact hs
  · have hstays {object : Deferred} (h : object ∈ s.deferred) :
        object ∈ (s.removeOutdated newIds r).deferred := (hdef object).mpr (.inr (.inr h))
    constructor
    case sound => exact hs.sound.removeOutdated newIds r
    case ids => rw [hactions]; exact hs.ids
    case unique => rw [hactions]; exact hs.unique
    case mapped =>
      rw [hactions, hindex]
      intro r' a' ha' hmem
      have hne : a'.id ≠ a.id := by
        intro heq
        obtain rfl := hs.unique ha' ha heq
        exact hmem ((hdef _).mpr (.inl rfl))
      rw [Function.update_of_ne hne]
      exact hs.mapped ha' fun h => hmem (hstays h)
    case condemned =>
      rw [hactions]
      intro r' hmem
      rcases (hdef _).mp hmem with h | ⟨m, h, -⟩ | h
      · exact ⟨a, Deferred.action.inj h ▸ ha⟩
      · exact nomatch h
      · exact hs.condemned h
    case condemnedMenu =>
      rw [hmenus]
      intro m hmem
      rcases (hdef _).mp hmem with h | ⟨m', h, hof⟩ | h
      · exact nomatch h
      · exact Deferred.menu.inj h ▸ (menuOf_eq_some.mp hof).2
      · exact hs.condemnedMenu h
    case placed => rw [hactions, hmenus]; exact hs.placed
    case listed => rw [hactions, hmenus]; exact hs.listed
    case nodup => rw [hmenus]; exact hs.nodup
    case homes =>
      rw [hactions]
      intro r' a' p ha' hp
      exact (hs.homes ha' hp).imp_right (Or.imp_left hstays)
    case own => rw [hactions]; exact hs.own
    case submenus =>
      rw [hactions, hmenus]
      intro r' a' p ha' hmenu
      obtain ⟨hlt, howners, htogether⟩ := hs.submenus ha' hmenu
      refine ⟨hlt, howners, fun hmem => ?_⟩
      rcases (hdef _).mp hmem with h | ⟨m, h, -⟩ | h
      · obtain rfl := Deferred.action.inj h
        obtain rfl := Option.some.inj (ha'.symm.trans ha)
        cases hfind : s.menus.find p with
        | none => exact .inr rfl
        | some menu =>
          exact .inl ((hdef _).mpr
            (.inr (.inl ⟨p, rfl, menuOf_eq_some.mpr ⟨hmenu, menu, hfind⟩⟩)))
      · exact nomatch h
      · exact (htogether h).imp_left hstays

/-- The first loop posts no deletion of an action with a listed id. -/
theorem Ready.removeOutdated {home : ℤ → ℤ} {parentId : ℤ} {m : MenuRef} {ids : List ℤ}
    (h : Ready home parentId m ids s) (r : ActionRef) :
    Ready home parentId m ids (s.removeOutdated ids r) := by
  have htidy := h.tidy.removeOutdated ids r
  rcases removeOutdated_cases ids s r with ⟨heq, -⟩ | ⟨a, ha, hid, hactions, hmenus, -, hdef⟩
  · rw [heq]
    exact h
  · refine ⟨htidy, ?_, ?_, ?_⟩
    · rw [hmenus]
      exact h.there
    · rw [hactions]
      exact h.serves
    · rw [hactions]
      intro r' a' ha' hid'
      refine ⟨(h.known ha' hid').1, fun hmem => ?_⟩
      rcases (hdef _).mp hmem with heq | ⟨m', heq, -⟩ | hold
      · obtain rfl := Deferred.action.inj heq
        obtain rfl := Option.some.inj (ha'.symm.trans ha)
        exact hid hid'
      · exact nomatch heq
      · exact (h.known ha' hid').2 hold

/-- An item that is not a title gets an action with its id. -/
theorem newAction_id (s : Importer kit) (m : MenuRef) (id : ℤ) {properties : VariantMap kit}
    (htitle : isKdeTitle properties = false) : (s.newAction m id properties).id = id := by
  unfold newAction
  rw [htitle]
  rfl

/-- A new action gets an id that no other action has, and is found by it. -/
theorem Ready.insertAction {home : ℤ → ℤ} {parentId : ℤ} {m : MenuRef} {ids : List ℤ}
    (h : Ready home parentId m ids s) {id : ℤ} {properties : VariantMap kit} (hid : id ∈ ids)
    (hzero : id ≠ 0) (hhome : home id = parentId) (htitle : isKdeTitle properties = false)
    (hnone : s.actionForId id = none) :
    Ready home parentId m ids (s.insertAction m id properties) := by
  obtain ⟨menu, hm⟩ := h.there
  have hs := h.tidy
  have hnewId := newAction_id s m id htitle
  obtain ⟨hentry, howners, hmenu⟩ := newAction_spec s m id properties
  rw [ownersIn_of_find hm] at howners
  have hactions : (s.insertAction m id properties).actions =
      s.actions.add (s.newAction m id properties) := rfl
  have hdeferred : (s.insertAction m id properties).deferred = s.deferred := rfl
  have hnext : s.menus.next ≤ (s.insertAction m id properties).menus.next := by
    change s.menus.next ≤ (if _ then s.menus else s.menus.add _).next
    split_ifs
    · exact le_rfl
    · exact Nat.le_succ _
  have hfresh : Deferred.action s.actions.next ∉ s.deferred := by
    intro hmem
    obtain ⟨a, ha⟩ := hs.condemned hmem
    rw [Store.find_next] at ha
    exact nomatch ha
  have hother {r : ActionRef} {a : Action kit} (ha : s.actions.find r = some a) : a.id ≠ id := by
    intro heq
    have hmapped := hs.mapped ha (h.known ha (heq ▸ hid)).2
    rw [heq, hnone] at hmapped
    exact nomatch hmapped
  have hserves : (m = rootMenu ∧ parentId = 0) ∨ ∃ b ob,
      (s.actions.add (s.newAction m id properties)).find b = some ob ∧
        ob.menu = some m ∧ ob.id = parentId := by
    refine h.serves.imp_right ?_
    rintro ⟨b, ob, hob, hrest⟩
    exact ⟨b, ob, Store.find_add_of_find hob, hrest⟩
  -- No menu that was there lists the new reference.
  have hunlisted {m' : MenuRef} {menu' : Menu} (hm' : s.menus.find m' = some menu') :
      s.actions.next ∉ menu'.actions := by
    intro hmem
    obtain ⟨a, ha⟩ := hs.sound.listed hm' hmem
    rw [Store.find_next] at ha
    exact nomatch ha
  have hnewMenu {p : MenuRef} (hp : (s.newAction m id properties).menu = some p) :
      p = s.menus.next := by
    rcases hmenu with hmenu | hmenu
    · exact nomatch hmenu.symm.trans hp
    · exact Option.some.inj (hp.symm.trans hmenu)
  have hsubmenu {m' : MenuRef} (hm' : m' = s.menus.next) : m' ≠ m := by
    rintro rfl
    rw [hm', Store.find_next] at hm
    exact nomatch hm
  refine ⟨?_, ⟨_, find_insertAction_of_find hm⟩, hserves, ?_⟩
  · constructor
    case sound => exact hs.sound.insertAction hm id properties
    case ids =>
      intro r a ha
      rcases Store.find_add_cases ha with ⟨-, rfl⟩ | ⟨-, ha⟩
      · exact ⟨hentry.trans hnewId.symm, by rw [hnewId]; exact hzero⟩
      · exact hs.ids ha
    case unique =>
      intro r r' a a' ha ha' heq
      rcases Store.find_add_cases ha with ⟨hr, rfl⟩ | ⟨-, ha⟩
      · rcases Store.find_add_cases ha' with ⟨hr', -⟩ | ⟨-, ha'⟩
        · exact hr.trans hr'.symm
        · exact absurd (heq.symm.trans hnewId) (hother ha')
      · rcases Store.find_add_cases ha' with ⟨-, rfl⟩ | ⟨-, ha'⟩
        · exact absurd (heq.trans hnewId) (hother ha)
        · exact hs.unique ha ha' heq
    case mapped =>
      intro r a ha hdef
      change Function.update s.actionForId id (some s.actions.next) a.id = some r
      rcases Store.find_add_cases ha with ⟨rfl, rfl⟩ | ⟨-, ha⟩
      · rw [hnewId, Function.update_self]
      · rw [Function.update_of_ne (hother ha)]
        exact hs.mapped ha hdef
    case condemned =>
      intro r hdef
      obtain ⟨a, ha⟩ := hs.condemned hdef
      exact ⟨a, Store.find_add_of_find ha⟩
    case condemnedMenu =>
      intro m' hdef
      obtain ⟨menu', hm'⟩ := hs.condemnedMenu hdef
      exact ⟨_, find_insertAction_of_find hm'⟩
    case placed =>
      intro r a p menu' ha hp hmenu'
      rcases Store.find_add_cases ha with ⟨rfl, rfl⟩ | ⟨-, ha⟩
      · rw [howners, List.head?_cons] at hp
        obtain rfl := Option.some.inj hp
        rw [find_insertAction_of_find hm, if_pos rfl] at hmenu'
        rw [← Option.some.inj hmenu']
        exact mem_moveLast.mpr (.inl rfl)
      · rcases find_insertAction_menu hmenu' with ⟨menu₀, hmenu₀, rfl⟩ | ⟨hnew, -⟩
        · have hmem := hs.placed ha hp hmenu₀
          split_ifs
          · exact mem_moveLast.mpr (.inr hmem)
          · exact hmem
        · obtain ⟨p', parent, hparent, howners'⟩ := hs.sound.actionOwners ha
          rw [howners', List.head?_cons, hnew] at hp
          rw [Option.some.inj hp, Store.find_next] at hparent
          exact nomatch hparent
    case listed =>
      intro m' menu' r a hm' hr ha
      rcases find_insertAction_menu hm' with ⟨menu₀, hm₀, rfl⟩ | ⟨hnew, -, -, -, hempty⟩
      · rcases Store.find_add_cases ha with ⟨rfl, rfl⟩ | ⟨hne, ha⟩
        · split_ifs at hr with heq
          · rw [howners, List.head?_cons, heq]
          · exact absurd hr (hunlisted hm₀)
        · refine hs.listed hm₀ ?_ ha
          split_ifs at hr
          · exact (mem_moveLast.mp hr).resolve_left hne
          · exact hr
      · rw [hempty (hsubmenu hnew)] at hr
        exact absurd hr List.not_mem_nil
    case nodup =>
      intro m' menu' hm'
      rcases find_insertAction_menu hm' with ⟨menu₀, hm₀, rfl⟩ | ⟨hnew, -, -, -, hempty⟩
      · split_ifs
        · exact nodup_moveLast (hs.nodup hm₀) _
        · exact hs.nodup hm₀
      · rw [hempty (hsubmenu hnew)]
        exact List.nodup_nil
    case homes =>
      intro r a p ha hp
      rcases Store.find_add_cases ha with ⟨-, rfl⟩ | ⟨-, ha⟩
      · rw [howners, List.head?_cons] at hp
        obtain rfl := Option.some.inj hp
        rw [hnewId, hhome]
        exact hserves.imp_right .inr
      · refine (hs.homes ha hp).imp_right (Or.imp_right ?_)
        rintro ⟨b, ob, hob, hrest⟩
        exact ⟨b, ob, Store.find_add_of_find hob, hrest⟩
    case own =>
      intro r r' a a' p ha ha' hp hp'
      rcases Store.find_add_cases ha with ⟨hr, rfl⟩ | ⟨-, ha⟩
      · rcases Store.find_add_cases ha' with ⟨hr', -⟩ | ⟨-, ha'⟩
        · exact hr.trans hr'.symm
        · exact absurd (hnewMenu hp) (hs.submenus ha' hp').1.ne
      · rcases Store.find_add_cases ha' with ⟨-, rfl⟩ | ⟨-, ha'⟩
        · exact absurd (hnewMenu hp') (hs.submenus ha hp).1.ne
        · exact hs.own ha ha' hp hp'
    case submenus =>
      intro r a p ha hp
      rcases Store.find_add_cases ha with ⟨rfl, rfl⟩ | ⟨-, ha⟩
      · have hpnext : p = s.menus.next := hnewMenu hp
        refine ⟨?_, ?_, fun hdef => absurd hdef hfresh⟩
        · change p < (if _ then s.menus else s.menus.add _).next
          rw [if_neg (by rw [hp]; exact nofun), hpnext]
          exact Nat.lt_succ_self _
        · intro menu' hm'
          rcases find_insertAction_menu hm' with ⟨menu₀, hm₀, -⟩ | ⟨-, -, hsame, -, -⟩
          · rw [hpnext, Store.find_next] at hm₀
            exact nomatch hm₀
          · rw [hsame, howners, ownersIn_of_find hm]
      · obtain ⟨hlt, hsame, htogether⟩ := hs.submenus ha hp
        refine ⟨hlt.trans_le hnext, ?_, ?_⟩
        · intro menu' hm'
          rcases find_insertAction_menu hm' with ⟨menu₀, hm₀, rfl⟩ | ⟨hnew, -⟩
          · rw [← hsame menu₀ hm₀]
            split_ifs
            · rfl
            · rfl
          · exact absurd hnew hlt.ne
        · intro hdef
          refine (htogether hdef).imp_right fun hgone => ?_
          cases hfind : (s.insertAction m id properties).menus.find p with
          | none => rfl
          | some menu' =>
            rcases find_insertAction_menu hfind with ⟨menu₀, hm₀, -⟩ | ⟨hnew, -⟩
            · exact nomatch hgone.symm.trans hm₀
            · exact absurd hnew hlt.ne
  · intro r a ha hid'
    rcases Store.find_add_cases ha with ⟨rfl, rfl⟩ | ⟨-, ha⟩
    · exact ⟨by rw [howners, List.head?_cons], hfresh⟩
    · exact h.known ha hid'

/-- An action that is in the menu already becomes its last one. -/
theorem Ready.addLast {home : ℤ → ℤ} {parentId : ℤ} {m : MenuRef} {ids : List ℤ}
    (h : Ready home parentId m ids s) {r : ActionRef} {a : Action kit}
    (ha : s.actions.find r = some a) (hid : a.id ∈ ids) :
    Ready home parentId m ids
      { s with menus := s.menus.modify m fun menu => addLast menu r } := by
  obtain ⟨menu, hm⟩ := h.there
  have hs := h.tidy
  have hmem {m' : MenuRef} {menu₀ : Menu} (hm₀ : s.menus.find m' = some menu₀) (r' : ActionRef) :
      r' ∈ (if m' = m then Importer.addLast menu₀ r else menu₀).actions ↔ r' ∈ menu₀.actions := by
    split_ifs with heq
    · refine mem_moveLast.trans (or_iff_right_of_imp ?_)
      rintro rfl
      exact hs.placed ha (h.known ha hid).1 (heq ▸ hm₀)
    · exact Iff.rfl
  refine ⟨?_, ⟨_, Store.find_modify_eq_some.mpr ⟨menu, hm, rfl⟩⟩, h.serves, h.known⟩
  constructor
  case sound => exact hs.sound.addLast m ha
  case ids => exact hs.ids
  case unique => exact hs.unique
  case mapped => exact hs.mapped
  case condemned => exact hs.condemned
  case condemnedMenu =>
    intro m' hdef
    obtain ⟨menu', hm'⟩ := hs.condemnedMenu hdef
    exact ⟨_, Store.find_modify_eq_some.mpr ⟨menu', hm', rfl⟩⟩
  case placed =>
    intro r' a' p menu' ha' hp hmenu'
    obtain ⟨menu₀, hm₀, rfl⟩ := Store.find_modify_eq_some.mp hmenu'
    exact (hmem hm₀ r').mpr (hs.placed ha' hp hm₀)
  case listed =>
    intro m' menu' r' a' hm' hr' ha'
    obtain ⟨menu₀, hm₀, rfl⟩ := Store.find_modify_eq_some.mp hm'
    exact hs.listed hm₀ ((hmem hm₀ r').mp hr') ha'
  case nodup =>
    intro m' menu' hm'
    obtain ⟨menu₀, hm₀, rfl⟩ := Store.find_modify_eq_some.mp hm'
    split_ifs
    · exact nodup_moveLast (hs.nodup hm₀) _
    · exact hs.nodup hm₀
  case homes => exact hs.homes
  case own => exact hs.own
  case submenus =>
    intro r' a' p ha' hp
    obtain ⟨hlt, hsame, htogether⟩ := hs.submenus ha' hp
    refine ⟨hlt, ?_, ?_⟩
    · intro menu' hm'
      obtain ⟨menu₀, hm₀, rfl⟩ := Store.find_modify_eq_some.mp hm'
      rw [← hsame menu₀ hm₀]
      split_ifs
      · rfl
      · rfl
    · intro hdef
      refine (htogether hdef).imp_right fun hgone => ?_
      change (s.menus.modify m _).find p = none
      rw [Store.find_modify, hgone, Option.map_none]

theorem Ready.kept {home : ℤ → ℤ} {parentId : ℤ} {m : MenuRef} {ids : List ℤ}
    (h : Ready home parentId m ids s) (hkept : Kept s s') : Ready home parentId m ids s' := by
  refine ⟨h.tidy.kept hkept, ?_, ?_, ?_⟩
  · rw [hkept.menus]
    exact h.there
  · refine h.serves.imp_right ?_
    rintro ⟨b, ob, hob, hrest⟩
    obtain ⟨look, hob'⟩ := hkept.find_of_find hob
    exact ⟨b, _, hob', hrest⟩
  · intro r a ha hid
    obtain ⟨a₀, look, ha₀, rfl⟩ := hkept.find ha
    rw [hkept.deferred]
    exact h.known (a := a₀) ha₀ hid

/-! ## What is shown -/

theorem shownId_eq_some {r : ActionRef} {id : ℤ} :
    s.shownId r = some id ↔
      Deferred.action r ∉ s.deferred ∧ ∃ a, s.actions.find r = some a ∧ a.id = id := by
  unfold shownId
  split_ifs with hdef
  · exact iff_of_false nofun fun hboth => hboth.1 hdef
  · rw [Option.map_eq_some_iff, and_iff_right hdef]

theorem shownIds_of_find {m : MenuRef} {menu : Menu} (hm : s.menus.find m = some menu) :
    s.shownIds m = menu.actions.filterMap s.shownId := by
  unfold shownIds actionsOf
  rw [hm]
  rfl

theorem Kept.shownId (h : Kept s s') (r : ActionRef) : s'.shownId r = s.shownId r := by
  obtain ⟨f, hf⟩ := h.actions
  unfold Importer.shownId
  rw [h.deferred, hf, Store.find_map, Option.map_map]
  rfl

theorem Kept.shownIds (h : Kept s s') (m : MenuRef) : s'.shownIds m = s.shownIds m := by
  unfold Importer.shownIds actionsOf
  rw [h.menus]
  exact List.filterMap_congr fun r _ => h.shownId r

/-- A listed id becomes the last one that its menu shows. -/
theorem Ready.shownIds_insertOrUpdate {home : ℤ → ℤ} {parentId : ℤ} {m : MenuRef} {ids : List ℤ}
    (h : Ready home parentId m ids s) {item : DBusMenuLayoutItem kit} (hid : item.id ∈ ids)
    (hplaced : item.id ≠ 0 ∧ home item.id = parentId ∧ isKdeTitle item.properties = false) :
    Ready home parentId m ids (insertOrUpdate m s item) ∧
      (insertOrUpdate m s item).shownIds m = moveLast (s.shownIds m) item.id := by
  obtain ⟨menu, hm⟩ := h.there
  have hs := h.tidy
  obtain ⟨hzero, hhome, htitle⟩ := hplaced
  rcases insertOrUpdate_cases m s item with ⟨hnone, heq⟩ | ⟨r, hindex, heq⟩
  · have hready := h.insertAction hid hzero hhome htitle hnone
    rw [heq]
    refine ⟨hready, ?_⟩
    have hnew : (s.insertAction m item.id item.properties).shownId s.actions.next =
        some item.id :=
      shownId_eq_some.mpr ⟨(hready.known (Store.find_add_next _ _)
          (by rw [newAction_id s m item.id htitle]; exact hid)).2,
        _, Store.find_add_next _ _, newAction_id s m item.id htitle⟩
    have hold (r : ActionRef) (hr : r ∈ menu.actions) :
        (s.insertAction m item.id item.properties).shownId r = s.shownId r := by
      obtain ⟨a, ha⟩ := hs.sound.listed hm hr
      have ha' : (s.insertAction m item.id item.properties).actions.find r = some a :=
        Store.find_add_of_find ha
      unfold shownId
      rw [ha, ha']
      rfl
    have hinj : ∀ r ∈ menu.actions,
        (s.insertAction m item.id item.properties).shownId r = some item.id →
          r = s.actions.next := by
      intro r hr hsome
      obtain ⟨-, a, ha, hsame⟩ := shownId_eq_some.mp hsome
      exact hready.tidy.unique ha (Store.find_add_next _ _)
        (hsame.trans (newAction_id s m item.id htitle).symm)
    rw [shownIds_of_find (find_insertAction_of_find hm), if_pos rfl, shownIds_of_find hm]
    change (moveLast menu.actions s.actions.next).filterMap _ = _
    rw [filterMap_moveLast hnew hinj, List.filterMap_congr hold]
  · obtain ⟨a, ha, hentry⟩ := hs.sound.indexed hindex
    have hsame : a.id = item.id := (hs.ids ha).1.symm.trans hentry
    have hkept := kept_updateAction s r
      (requestedUpdates item.properties (filteredKeys item.properties))
    obtain ⟨look, ha'⟩ := hkept.find_of_find ha
    rw [heq]
    refine ⟨(h.kept hkept).addLast ha' (hsame ▸ hid), ?_⟩
    have hshown : s.shownId r = some item.id :=
      shownId_eq_some.mpr ⟨(h.known ha (hsame ▸ hid)).2, a, ha, hsame⟩
    have hinj : ∀ r' ∈ menu.actions, s.shownId r' = some item.id → r' = r := by
      intro r' _ hsome
      obtain ⟨-, a', ha', hsame'⟩ := shownId_eq_some.mp hsome
      exact hs.unique ha' ha (hsame'.trans hsame.symm)
    have hmoved : (s.moveAction m r item.properties).menus.find m =
        some (Importer.addLast menu r) := by
      refine Store.find_modify_eq_some.mpr ⟨menu, ?_, (if_pos rfl).symm⟩
      rw [hkept.menus]
      exact hm
    rw [shownIds_of_find hmoved, shownIds_of_find hm, ← filterMap_moveLast hshown hinj]
    exact List.filterMap_congr fun r' _ => hkept.shownId r'

/-- After the first loop a menu shows listed ids only. -/
theorem mem_of_shown_removeOutdated {m : MenuRef} {ids : List ℤ} {id : ℤ}
    (hid : id ∈ ((s.actionsOf m).foldl (removeOutdated ids) s).shownIds m) : id ∈ ids := by
  obtain ⟨hactions, hmenus, hdef⟩ := foldl_removeOutdated_spec ids (s.actionsOf m) s
  obtain ⟨r, hr, hsome⟩ := List.mem_filterMap.mp hid
  obtain ⟨hstays, a, ha, rfl⟩ := shownId_eq_some.mp hsome
  have hsame : ((s.actionsOf m).foldl (removeOutdated ids) s).actionsOf m = s.actionsOf m := by
    conv_lhs => rw [actionsOf, hmenus]
    rfl
  rw [hsame] at hr
  rw [hactions] at ha
  by_contra hnot
  exact hstays ((hdef r).mpr (.inr ⟨hr, a, ha, hnot⟩))

/-- A layout leaves its menu with the actions of its items, in their order. -/
theorem Ready.replaceLayout {home : ℤ → ℤ} {parentId : ℤ} {m : MenuRef}
    {layout : DBusMenuLayoutItem kit} (h : Ready home parentId m layout.childIds s)
    (hproper : Proper home parentId layout) :
    Tidy home (s.replaceLayout m layout) ∧
      (s.replaceLayout m layout).shownIds m = layout.childIds := by
  have hfirst : Ready home parentId m layout.childIds
      ((s.actionsOf m).foldl (Importer.removeOutdated layout.childIds) s) :=
    run_invariant (fun _ r hr => hr.removeOutdated r) (s.actionsOf m) h
  have hloop (s : Importer kit) (hs : Ready home parentId m layout.childIds s)
      (items : List (DBusMenuLayoutItem kit)) (hitems : ∀ item ∈ items, item ∈ layout.children) :
      Ready home parentId m layout.childIds (items.foldl (insertOrUpdate m) s) ∧
        (items.foldl (insertOrUpdate m) s).shownIds m =
          (items.map DBusMenuLayoutItem.id).foldl moveLast (s.shownIds m) := by
    induction items generalizing s with
    | nil => exact ⟨hs, rfl⟩
    | cons item items ih =>
      have hitem := hitems item List.mem_cons_self
      obtain ⟨hnext, hshown⟩ := hs.shownIds_insertOrUpdate (List.mem_map_of_mem hitem)
        (hproper.placed item hitem)
      obtain ⟨hlast, heq⟩ := ih _ hnext fun item' h => hitems item' (List.mem_cons_of_mem _ h)
      refine ⟨hlast, ?_⟩
      rw [List.foldl_cons, heq, hshown]
      rfl
  obtain ⟨hlast, hshown⟩ := hloop _ hfirst layout.children fun _ h => h
  refine ⟨hlast.tidy, ?_⟩
  unfold Importer.replaceLayout
  rw [hshown]
  exact foldl_moveLast_of_subset hproper.nodup fun id hid => mem_of_shown_removeOutdated hid

/-- An orderly event keeps an importer tidy. -/
theorem Tidy.step {home : ℤ → ℤ} (hs : Tidy home s) {e : Event kit} (he : Orderly home s e) :
    Tidy home (s.step e) := by
  by_cases hchanges : e.ChangesObjects
  · cases e with
    | getLayoutFinished parentId reply =>
      change Tidy home (s.slotGetLayoutFinished parentId reply)
      rcases slotGetLayoutFinished_cases s parentId reply with
        hkept | ⟨m, revision, layout, hm, rfl, heq⟩
      · exact hs.kept hkept
      · rw [heq]
        exact ((hs.ready hm he.1 he.2).replaceLayout he.1).1.kept (kept_emit _ _)
    | deferredDelete => exact hs.deferredDelete
    | layoutUpdated | itemsPropertiesUpdated | itemActivationRequested | aboutToShowFinished
    | timeout | rightClick | aboutToShow | aboutToHide | activate | themeTypeChanged =>
      exact absurd hchanges id
  · exact hs.kept (kept_step hchanges)

/-! ## The other menus -/

/-- The event is a layout for the item with this menu. -/
def Answers (m : MenuRef) (s : Importer kit) : Event kit → Prop
  | .getLayoutFinished parentId (some _) => s.menuForId parentId = some m
  | _ => False

/-- A menu lists the same actions, and shows the same of them. -/
structure SameMenu (m : MenuRef) (s s' : Importer kit) : Prop where
  there : ∀ {menu}, s.menus.find m = some menu →
    ∃ menu', s'.menus.find m = some menu' ∧ menu'.actions = menu.actions
  shown : ∀ {menu r}, s.menus.find m = some menu → r ∈ menu.actions → s'.shownId r = s.shownId r

theorem SameMenu.refl (m : MenuRef) (s : Importer kit) : SameMenu m s s :=
  ⟨fun hm => ⟨_, hm, rfl⟩, fun _ _ => rfl⟩

theorem SameMenu.trans {s'' : Importer kit} {m : MenuRef} (h : SameMenu m s s')
    (h' : SameMenu m s' s'') : SameMenu m s s'' := by
  constructor
  · intro menu hm
    obtain ⟨menu', hm', heq⟩ := h.there hm
    obtain ⟨menu'', hm'', heq'⟩ := h'.there hm'
    exact ⟨menu'', hm'', heq'.trans heq⟩
  · intro menu r hm hr
    obtain ⟨menu', hm', heq⟩ := h.there hm
    exact (h'.shown hm' (heq ▸ hr)).trans (h.shown hm hr)

theorem SameMenu.shownIds {m : MenuRef} (h : SameMenu m s s') {menu : Menu}
    (hm : s.menus.find m = some menu) : s'.shownIds m = s.shownIds m := by
  obtain ⟨menu', hm', heq⟩ := h.there hm
  rw [shownIds_of_find hm, shownIds_of_find hm', heq]
  exact List.filterMap_congr fun r hr => h.shown hm hr

theorem Kept.sameMenu (h : Kept s s') (m : MenuRef) : SameMenu m s s' :=
  ⟨fun hm => ⟨_, h.menus ▸ hm, rfl⟩, fun _ _ => h.shownId _⟩

/-- The first loop leaves the other menus as they are. -/
theorem Tidy.sameMenu_removeOutdated {home : ℤ → ℤ} (hs : Tidy home s) {m m' : MenuRef}
    (hne : m ≠ m') (ids : List ℤ) :
    SameMenu m s ((s.actionsOf m').foldl (Importer.removeOutdated ids) s) := by
  obtain ⟨hactions, hmenus, hdef⟩ := foldl_removeOutdated_spec ids (s.actionsOf m') s
  refine ⟨fun hm => ⟨_, by rw [hmenus]; exact hm, rfl⟩, fun {menu r} hm hr => ?_⟩
  have hsame : Deferred.action r ∈ ((s.actionsOf m').foldl
      (Importer.removeOutdated ids) s).deferred ↔ Deferred.action r ∈ s.deferred := by
    refine (hdef r).trans (or_iff_left ?_)
    rintro ⟨hr', -⟩
    obtain ⟨a, ha⟩ := hs.sound.listed hm hr
    unfold actionsOf at hr'
    cases hm' : s.menus.find m' with
    | none => rw [hm'] at hr'; exact absurd hr' List.not_mem_nil
    | some menu' =>
      rw [hm'] at hr'
      have hhead := (hs.listed hm hr ha).symm.trans (hs.listed hm' hr' ha)
      exact hne (Option.some.inj hhead)
  unfold shownId
  rw [hactions, if_congr hsame rfl rfl]

/-- The second loop leaves the other menus as they are. -/
theorem SoundIn.sameMenu_insertOrUpdate {m m' : MenuRef} (h : SoundIn m' s) (hne : m ≠ m')
    (item : DBusMenuLayoutItem kit) : SameMenu m s (Importer.insertOrUpdate m' s item) := by
  rcases insertOrUpdate_cases m' s item with ⟨-, heq⟩ | ⟨r, -, heq⟩
  · rw [heq]
    refine ⟨fun hm => ⟨_, find_insertAction_of_find hm, by rw [if_neg hne]⟩,
      fun {menu r} hm hr => ?_⟩
    obtain ⟨a, ha⟩ := h.1.listed hm hr
    have ha' : (s.insertAction m' item.id item.properties).actions.find r = some a :=
      Store.find_add_of_find ha
    unfold shownId
    rw [ha, ha']
    rfl
  · rw [heq]
    have hkept := kept_updateAction s r
      (requestedUpdates item.properties (filteredKeys item.properties))
    refine (hkept.sameMenu m).trans ⟨fun hm => ⟨_, ?_, rfl⟩, fun _ _ => rfl⟩
    rw [← hm]
    exact Store.find_modify_of_ne _ hne _

theorem Tidy.sameMenu_replaceLayout {home : ℤ → ℤ} (hs : Tidy home s) {m m' : MenuRef}
    (hne : m ≠ m') (hm' : ∃ menu, s.menus.find m' = some menu)
    (layout : DBusMenuLayoutItem kit) : SameMenu m s (s.replaceLayout m' layout) := by
  have hfirst : SoundIn m' ((s.actionsOf m').foldl (Importer.removeOutdated layout.childIds) s) :=
    run_invariant (fun _ r h => h.removeOutdated layout.childIds r) (s.actionsOf m')
      ⟨hs.sound, hm'⟩
  refine (hs.sameMenu_removeOutdated hne layout.childIds).trans ?_
  have hloop (items : List (DBusMenuLayoutItem kit)) (s : Importer kit) (h : SoundIn m' s) :
      SameMenu m s (items.foldl (Importer.insertOrUpdate m') s) := by
    induction items generalizing s with
    | nil => exact .refl m s
    | cons item items ih =>
      exact (h.sameMenu_insertOrUpdate hne item).trans (ih _ (h.insertOrUpdate item))
  exact hloop layout.children _ hfirst

/-- A deletion takes from what a menu shows only what was about to be deleted. -/
theorem shownIds_sweep {deadAction : ActionRef → Action kit → Bool}
    {deadMenu : MenuRef → Menu → Bool} {m : MenuRef} {menu : Menu}
    (hm : s.menus.find m = some menu) (hspared : deadMenu m menu = false)
    (hdead : ∀ r ∈ menu.actions, ∀ a, s.actions.find r = some a → deadAction r a = true →
      Deferred.action r ∈ s.deferred) :
    (s.sweep deadAction deadMenu).shownIds m = s.shownIds m := by
  rw [shownIds_of_find (find_sweep_menu.mpr ⟨menu, hm, hspared, rfl⟩), shownIds_of_find hm]
  change (menu.actions.filter _).filterMap _ = _
  rw [List.filterMap_filter]
  refine List.filterMap_congr fun r hr => ?_
  cases ha : s.actions.find r with
  | none =>
    have hgone : (s.sweep deadAction deadMenu).actions.find r = none := by
      change (s.actions.keep _).find r = none
      rw [Store.find_keep, ha, Option.filter_none]
    unfold shownId
    rw [hgone, ha]
    split_ifs <;> rfl
  | some a =>
    rw [Option.any_some]
    cases hcase : deadAction r a with
    | true =>
      exact (if_pos (hdead r hr a ha hcase)).symm
    | false =>
      have hstays : (s.sweep deadAction deadMenu).actions.find r = some a :=
        find_sweep_action.mpr ⟨ha, hcase⟩
      have hsame : Deferred.action r ∈ (s.sweep deadAction deadMenu).deferred ↔
          Deferred.action r ∈ s.deferred := by
        rw [mem_sweep_action, ha, Option.any_some, hcase]
        exact and_iff_left rfl
      unfold shownId
      rw [hstays, ha, if_congr hsame rfl rfl]
      rfl

/-- The deletion of the next object changes nothing that a menu shows, unless it is deleted. -/
theorem Tidy.shownIds_deferredDelete {home : ℤ → ℤ} (hs : Tidy home s) {m : MenuRef}
    {menu menu' : Menu} (hm : s.menus.find m = some menu)
    (hm' : s.deferredDelete.menus.find m = some menu') :
    s.deferredDelete.shownIds m = s.shownIds m := by
  rcases hs.deferredDelete_cases with heq | ⟨r, hdef, heq⟩ | ⟨m₀, hdef, heq⟩
  · rw [heq]
  · rw [heq]
    refine shownIds_sweep hm rfl fun r' _ a _ hdead => ?_
    rw [of_decide_eq_true hdead]
    exact hdef
  · rw [heq] at hm' ⊢
    obtain ⟨menu₀, hm₀, hspared, -⟩ := find_sweep_menu.mp hm'
    obtain rfl := Option.some.inj (hm.symm.trans hm₀)
    refine shownIds_sweep hm hspared fun r hr a ha hdead => ?_
    -- An action of a menu that is spared is owned by what is spared too.
    obtain ⟨p, parent, hparent, howners⟩ := hs.sound.actionOwners ha
    have hp := hs.listed hm hr ha
    rw [howners, List.head?_cons] at hp
    obtain rfl := Option.some.inj hp
    obtain rfl := Option.some.inj (hm.symm.trans hparent)
    rw [howners, decide_eq_true_iff, List.mem_cons] at hdead
    rw [Bool.or_eq_false_iff, decide_eq_false_iff_not, decide_eq_false_iff_not] at hspared
    exact absurd hdead (not_or.mpr ⟨Ne.symm hspared.1, hspared.2⟩)

/-! ## Over a run -/

/-- An event that is not a layout for a menu changes nothing that the menu shows, while the menu
is there. -/
theorem Tidy.shownIds_step {home : ℤ → ℤ} (hs : Tidy home s) {e : Event kit} {m : MenuRef}
    {menu menu' : Menu} (hm : s.menus.find m = some menu)
    (hm' : (s.step e).menus.find m = some menu') (hanswers : ¬Answers m s e) :
    (s.step e).shownIds m = s.shownIds m := by
  by_cases hchanges : e.ChangesObjects
  · cases e with
    | getLayoutFinished parentId reply =>
      change (s.slotGetLayoutFinished parentId reply).shownIds m = _
      rcases slotGetLayoutFinished_cases s parentId reply with
        hkept | ⟨m', revision, layout, hfor, rfl, heq⟩
      · exact hkept.shownIds m
      · have hne : m ≠ m' := by
          rintro rfl
          exact hanswers hfor
        rw [heq, (kept_emit _ _).shownIds]
        exact (hs.sameMenu_replaceLayout hne (hs.sound.menuForId hfor) layout).shownIds hm
    | deferredDelete => exact hs.shownIds_deferredDelete hm hm'
    | layoutUpdated | itemsPropertiesUpdated | itemActivationRequested | aboutToShowFinished
    | timeout | rightClick | aboutToShow | aboutToHide | activate | themeTypeChanged =>
      exact absurd hchanges id
  · exact (kept_step hchanges).shownIds m

/-- A run without a layout for a menu changes nothing that the menu shows, while it is there. -/
theorem Tidy.shownIds_run {home : ℤ → ℤ} (hs : Tidy home s) {es : List (Event kit)}
    {m : MenuRef} {menu menu' : Menu} (hm : s.menus.find m = some menu)
    (hm' : (run Importer.step s es).menus.find m = some menu')
    (hes : Obeys Importer.step (fun s e => Orderly home s e ∧ ¬Answers m s e) s es) :
    (run Importer.step s es).shownIds m = s.shownIds m := by
  induction es generalizing s menu with
  | nil => rfl
  | cons e es ih =>
    have haged : ∀ (es : List (Event kit)) (s : Importer kit), Aged s (run Importer.step s es) :=
      fun es s => aged_foldl _ aged_step s es
    have hlt := (Store.lt_of_find hm).trans_le (aged_step s e).next
    obtain ⟨menu₁, hm₁⟩ := (haged es (s.step e)).there hlt hm'
    rw [run_cons, ih (hs.step hes.1.1) hm₁ hm' hes.2]
    exact hs.shownIds_step hm hm₁ hes.1.2

/-- In every orderly run, from the layout of an item on, the item's menu shows the children that
the layout lists, in their order, until the next layout for it or until the menu is deleted. -/
theorem shows_last_layout (home : ℤ → ℤ) (themeType : ThemeType) {es es' : List (Event kit)}
    {parentId : ℤ} {revision : ℕ} {layout : DBusMenuLayoutItem kit} {m : MenuRef} {menu : Menu}
    (hes : Obeys step (Orderly home) (create kit themeType) es)
    (hfor : (run step (create kit themeType) es).menuForId parentId = some m)
    (hlayout : Orderly home (run step (create kit themeType) es)
      (.getLayoutFinished parentId (some (revision, layout))))
    (hes' : Obeys step (fun s e => Orderly home s e ∧ ¬Answers m s e)
      (run step (create kit themeType)
        (es ++ [.getLayoutFinished parentId (some (revision, layout))])) es')
    (hm : (run step (create kit themeType)
      (es ++ [.getLayoutFinished parentId (some (revision, layout))] ++ es')).menus.find m =
        some menu) :
    (run step (create kit themeType)
      (es ++ [.getLayoutFinished parentId (some (revision, layout))] ++ es')).shownIds m =
        layout.childIds := by
  have hs : Tidy home (run step (create kit themeType) es) :=
    run_invariant_of_obeys (fun _ _ hs he => hs.step he) (tidy_create home kit themeType) hes
  have hready := hs.ready hfor hlayout.1 hlayout.2
  have hnext := hs.step hlayout
  have heq : (run step (create kit themeType) es).step
      (.getLayoutFinished parentId (some (revision, layout))) =
        ((run step (create kit themeType) es).replaceLayout m layout).emit (.menuUpdated m) := by
    change slotGetLayoutFinished _ _ _ = _
    unfold slotGetLayoutFinished
    rw [hfor]
  obtain ⟨menu', hm'⟩ := hs.sound.menuForId hfor
  obtain ⟨-, menu₁, hm₁⟩ := SoundIn.replaceLayout ⟨hs.sound, menu', hm'⟩ layout
  rw [run_concat, heq] at hes'
  rw [run_append, run_concat, heq] at hm ⊢
  rw [heq] at hnext
  rw [hnext.shownIds_run hm₁ hm hes', (kept_emit _ _).shownIds]
  exact (hready.replaceLayout hlayout.1).2

def submenuProperties : VariantMap textKit :=
  ⟨[("children-display", some "submenu")], List.pairwise_singleton _ _⟩

/-- A layout that lists items, of which the item 3 alone is a submenu. -/
def listing (id : ℤ) (childIds : List ℤ) : DBusMenuLayoutItem textKit :=
  .item id .empty (childIds.map fun child =>
    .item child (if child = 3 then submenuProperties else .empty) [])

theorem proper_listing {home : ℤ → ℤ} {id : ℤ} {childIds : List ℤ} (hnodup : childIds.Nodup)
    (hplaced : ∀ child ∈ childIds, child ≠ 0 ∧ home child = id) :
    Proper home id (listing id childIds) where
  nodup := by
    have hids : (listing id childIds).childIds = childIds := by
      unfold listing DBusMenuLayoutItem.childIds DBusMenuLayoutItem.children
      rw [List.map_map]
      exact List.map_id childIds
    rw [hids]
    exact hnodup
  placed child h := by
    obtain ⟨childId, hmem, rfl⟩ := List.mem_map.mp h
    obtain ⟨hne, hhome⟩ := hplaced childId hmem
    refine ⟨hne, hhome, ?_⟩
    change isKdeTitle (if childId = 3 then submenuProperties else .empty) = false
    split_ifs
    · rfl
    · rfl

/-- The home of the items of two layouts: the item 3 is the parent of those after it. -/
def twoMenus (id : ℤ) : ℤ := if id ≤ 3 then 0 else 3

theorem shows_last_layout_second :
    (run step (create textKit .light) ([.getLayoutFinished 0 (some (1, listing 0 [1, 2]))] ++
      [.getLayoutFinished 0 (some (2, listing 0 [2, 3]))] ++
      [.itemsPropertiesUpdated [⟨2, [("label", some "_Quit")], List.pairwise_singleton _ _⟩] [],
        .deferredDelete, .getLayoutFinished 3 (some (3, listing 3 [4, 5]))])).shownIds rootMenu =
      [2, 3] := by
  have hother (s : Importer textKit) (hs : s.menuForId 3 = some 1) :
      ¬Answers rootMenu s (.getLayoutFinished 3 (some (3, listing 3 [4, 5]))) := by
    intro h
    exact absurd (Option.some.inj (hs.symm.trans h)) (by decide)
  have hsubmenu : Proper twoMenus 3 (listing 3 [4, 5]) := proper_listing (by decide) (by decide)
  exact @shows_last_layout textKit twoMenus .light
    [.getLayoutFinished 0 (some (1, listing 0 [1, 2]))]
    [.itemsPropertiesUpdated [⟨2, [("label", some "_Quit")], List.pairwise_singleton _ _⟩] [],
      .deferredDelete, .getLayoutFinished 3 (some (3, listing 3 [4, 5]))]
    0 2 (listing 0 [2, 3]) rootMenu _
    ⟨⟨proper_listing (by decide) (by decide), free_of_deferred rfl _⟩, trivial⟩ rfl
    ⟨proper_listing (by decide) (by decide), free_of_deferred rfl _⟩
    ⟨⟨trivial, id⟩, ⟨trivial, id⟩, ⟨⟨hsubmenu, free_of_deferred rfl _⟩, hother _ rfl⟩, trivial⟩ rfl

end Importer

end DdeTrayLoader.DBusMenu
