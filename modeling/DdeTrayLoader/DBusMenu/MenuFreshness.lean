import DdeTrayLoader.DBusMenu.Staleness

/-!
# What a menu shows when nothing is on its way

What a menu shows of the last layout that went into it, and how old that layout can be, together
say what a menu shows of the service.
-/

namespace DdeTrayLoader.DBusMenu

open DdeTrayLoader.Objects DdeTrayLoader.Transition

variable {kit : Toolkit}

namespace Importer

variable {home : ℤ → ℤ} {s : Importer kit}

/-- A menu is the menu of one item. -/
theorem Tidy.menuForId_inj (hs : Tidy home s) {id id' : ℤ} {m : MenuRef}
    (hm : s.menuForId id = some m) (hm' : s.menuForId id' = some m) : id = id' := by
  rcases menuForId_cases hm with ⟨rfl, rfl⟩ | ⟨b, ob, hb, hob, hmenu⟩
  · rcases menuForId_cases hm' with ⟨-, rfl⟩ | ⟨b', ob', -, hob', hmenu'⟩
    · rfl
    · exact absurd hmenu' (hs.sound.submenu hob')
  · rcases menuForId_cases hm' with ⟨rfl, -⟩ | ⟨b', ob', hb', hob', hmenu'⟩
    · exact absurd hmenu (hs.sound.submenu hob)
    · obtain rfl := hs.own hob hob' hmenu hmenu'
      obtain ⟨a, ha, hentry⟩ := hs.sound.indexed hb
      obtain ⟨a', ha', hentry'⟩ := hs.sound.indexed hb'
      obtain rfl := Option.some.inj (ha.symm.trans ha')
      exact hentry.symm.trans hentry'

/-- A layout goes into the menu of its item. -/
theorem step_layout {parentId : ℤ} {m : MenuRef} (hm : s.menuForId parentId = some m)
    (reply : ℕ × DBusMenuLayoutItem kit) :
    s.step (.getLayoutFinished parentId (some reply)) =
      (s.replaceLayout m reply.2).emit (.menuUpdated m) := by
  change s.slotGetLayoutFinished parentId (some reply) = _
  unfold slotGetLayoutFinished
  rw [hm]

end Importer

namespace MenuSystem

variable {home : ℤ → ℤ} {s : MenuSystem kit}

/-- The service answers `GetLayout`, its layouts are proper, and when one is delivered the ids
that it lists are free. -/
def Orderly (home : ℤ → ℤ) (s : MenuSystem kit) : SystemEvent kit → Prop
  | .change id layout => Importer.Proper home id layout
  | .serve answer => s.Answers (.serve answer)
  | .deliver => ∀ id revision layout rest,
      s.messages = .layoutReply id (some (revision, layout)) :: rest →
        Importer.Free layout.childIds s.importer
  | _ => True

/-- A menu shows what the last layout that went into it lists, and that layout was the last one of
its item. -/
structure Mirrors (home : ℤ → ℤ) (s : MenuSystem kit) : Prop where
  tidy : Importer.Tidy home s.importer
  proper : ∀ revision id, Importer.Proper home id (s.service.layoutAt revision id)
  shows : ∀ {m menu id revision}, s.importer.menus.find m = some menu →
    s.fetched m = some (id, revision) → revision ≤ s.service.revision ∧
      s.importer.shownIds m = (s.service.layoutAt revision id).childIds
  last : ∀ {id m id' revision}, s.importer.menuForId id = some m →
    s.fetched m = some (id', revision) → id' = id ∧ s.handled id = some revision
  used : ∀ {m fetch}, s.fetched m = some fetch → m < s.importer.menus.next

/-- The layouts stay proper at a change to a proper one. -/
theorem proper_change (hs : Mirrors home s) {id : ℤ} {layout : DBusMenuLayoutItem kit}
    (hlayout : Importer.Proper home id layout) (revision : ℕ) (id' : ℤ) :
    Importer.Proper home id' ((s.service.change id layout).layoutAt revision id') := by
  by_cases hle : revision ≤ s.service.revision
  · rw [MenuService.layoutAt_change _ hle]
    exact hs.proper revision id'
  · rw [MenuService.layoutAt_change_of_lt _ (Nat.lt_of_not_le hle)]
    split_ifs with hid
    · exact hid ▸ hlayout
    · exact hs.proper s.service.revision id'

/-- An event of the importer that is no layout keeps what the menus show. -/
theorem Mirrors.importerStep (hs : Mirrors home s) {e : Event kit}
    (he : ∀ id reply, e ≠ .getLayoutFinished id (some reply)) (messages : List (Message kit)) :
    Mirrors home { s with importer := s.importer.step e, messages := messages } := by
  have horderly : Importer.Orderly home s.importer e := by
    unfold Importer.Orderly
    split
    · exact absurd rfl (he _ _)
    · trivial
  have hanswers (m : MenuRef) : ¬Importer.Answers m s.importer e := by
    unfold Importer.Answers
    split
    · exact absurd rfl (he _ _)
    · exact id
  have haged := Importer.aged_step s.importer e
  refine ⟨hs.tidy.step horderly, hs.proper, ?_, ?_, ?_⟩
  · intro m menu' id revision hm' hfetched
    obtain ⟨menu, hm⟩ := haged.there (hs.used hfetched) hm'
    rw [hs.tidy.shownIds_step hm hm' (hanswers m)]
    exact hs.shows hm hfetched
  · intro id m id' revision hm hfetched
    exact hs.last (haged.menuForId (hs.used hfetched) hm) hfetched
  · exact fun hfetched => (hs.used hfetched).trans_le haged.next

/-- A layout goes into the menu of its item, if it has one. -/
theorem Mirrors.layout (hs : Mirrors home s) (htracks : s.Tracks) {parentId : ℤ} {revision : ℕ}
    {layout : DBusMenuLayoutItem kit} {rest : List (Message kit)}
    (hmessages : s.messages = .layoutReply parentId (some (revision, layout)) :: rest)
    (hfree : Importer.Free layout.childIds s.importer) :
    Mirrors home (s.received (.layoutReply parentId (some (revision, layout))) rest) := by
  obtain ⟨hle, hlayout⟩ := htracks.inFlight (hmessages ▸ List.mem_cons_self)
  have hproper : Importer.Proper home parentId layout := hlayout ▸ hs.proper revision parentId
  have horderly : Importer.Orderly home s.importer
      (.getLayoutFinished parentId (some (revision, layout))) := ⟨hproper, hfree⟩
  have haged := Importer.aged_step s.importer
    (.getLayoutFinished parentId (some (revision, layout)))
  have hhandled (id : ℤ) : (s.received (.layoutReply parentId (some (revision, layout)))
      rest).handled id = if id = parentId then some revision else s.handled id :=
    Function.update_apply _ _ _ _
  cases hfor : s.importer.menuForId parentId with
  | none =>
    have hfetched : (s.received (.layoutReply parentId (some (revision, layout))) rest).fetched =
        s.fetched := by
      unfold received record
      dsimp only
      rw [hfor]
    have hsame : (s.received (.layoutReply parentId (some (revision, layout))) rest).importer =
        s.importer := by
      change s.importer.slotGetLayoutFinished parentId (some (revision, layout)) = s.importer
      unfold Importer.slotGetLayoutFinished
      rw [hfor]
    refine ⟨by rw [hsame]; exact hs.tidy, hs.proper, ?_, ?_, ?_⟩
    · rw [hsame, hfetched]
      exact hs.shows
    · rw [hsame, hfetched]
      intro id m id' revision' hm hsome
      obtain ⟨heq, hlast⟩ := hs.last hm hsome
      refine ⟨heq, ?_⟩
      rw [hhandled, if_neg, hlast]
      rintro rfl
      exact nomatch hfor.symm.trans hm
    · rw [hsame, hfetched]
      exact hs.used
  | some m =>
    have hfetched : (s.received (.layoutReply parentId (some (revision, layout))) rest).fetched =
        Function.update s.fetched m (some (parentId, revision)) := by
      unfold received record
      dsimp only
      rw [hfor]
    obtain ⟨menu, hm⟩ := hs.tidy.sound.menuForId hfor
    have hlt := Store.lt_of_find hm
    refine ⟨hs.tidy.step horderly, hs.proper, ?_, ?_, ?_⟩
    · intro m' menu' id' revision' hm' hsome
      rw [hfetched, Function.update_apply] at hsome
      split_ifs at hsome with hm₀
      · obtain ⟨rfl, rfl⟩ := Prod.mk.inj (Option.some.inj hsome)
        refine ⟨hle, ?_⟩
        change (s.importer.step _).shownIds m' = (s.service.layoutAt revision parentId).childIds
        rw [hm₀, ← hlayout, Message.event, Importer.step_layout hfor,
          (Importer.kept_emit _ _).shownIds]
        exact ((hs.tidy.ready hfor hproper hfree).replaceLayout hproper).2
      · obtain ⟨menu₀, hmenu₀⟩ := haged.there (hs.used hsome) hm'
        have hother : ¬Importer.Answers m' s.importer
            (.getLayoutFinished parentId (some (revision, layout))) := by
          intro heq
          exact hm₀ (Option.some.inj (heq.symm.trans hfor))
        change revision' ≤ s.service.revision ∧ (s.importer.step _).shownIds m' = _
        have hsame := hs.tidy.shownIds_step hmenu₀ hm' hother
        exact (hs.shows hmenu₀ hsome).imp_right fun hshown => hsame.trans hshown
    · intro id m' id' revision' hm' hsome
      rw [hfetched, Function.update_apply] at hsome
      split_ifs at hsome with hm₀
      · obtain ⟨rfl, rfl⟩ := Prod.mk.inj (Option.some.inj hsome)
        have hsameItem : id = parentId :=
          hs.tidy.menuForId_inj (haged.menuForId (hm₀ ▸ hlt) hm') (hm₀ ▸ hfor)
        refine ⟨hsameItem.symm, ?_⟩
        rw [hhandled, if_pos hsameItem]
      · have hold := haged.menuForId (hs.used hsome) hm'
        obtain ⟨heq, hlast⟩ := hs.last hold hsome
        refine ⟨heq, ?_⟩
        rw [hhandled, if_neg, hlast]
        rintro rfl
        exact hm₀ (Option.some.inj (hold.symm.trans hfor))
    · intro m' fetch hsome
      rw [hfetched, Function.update_apply] at hsome
      split_ifs at hsome with hm₀
      · exact (hm₀ ▸ hlt).trans_le haged.next
      · exact (hs.used hsome).trans_le haged.next

theorem Mirrors.step (hs : Mirrors home s) (htracks : s.Tracks) {e : SystemEvent kit}
    (he : s.Orderly home e) : Mirrors home (s.step e) := by
  cases e with
  | change id layout =>
    refine ⟨hs.tidy, proper_change hs he, ?_, hs.last, hs.used⟩
    intro m menu id' revision hm hfetched
    obtain ⟨hle, hshown⟩ := hs.shows hm hfetched
    change revision ≤ (s.service.change id layout).revision ∧
      s.importer.shownIds m = ((s.service.change id layout).layoutAt revision id').childIds
    rw [MenuService.revision_change, MenuService.layoutAt_change _ hle]
    exact ⟨Nat.le_succ_of_le hle, hshown⟩
  | announce updatedList removedList => exact ⟨hs.tidy, hs.proper, hs.shows, hs.last, hs.used⟩
  | requestActivation id timestamp => exact ⟨hs.tidy, hs.proper, hs.shows, hs.last, hs.used⟩
  | serve answer =>
    unfold MenuSystem.step
    dsimp only
    split
    · exact hs
    · next request rest _ =>
      have hkept : s.importer.Kept { s.importer with requests := rest } := .of_eq rfl rfl rfl rfl
      refine ⟨hs.tidy.kept hkept, hs.proper, ?_, hs.last, hs.used⟩
      intro m menu id revision hm hfetched
      rw [hkept.shownIds]
      exact hs.shows hm hfetched
  | deliver =>
    cases hmessages : s.messages with
    | nil =>
      unfold MenuSystem.step
      rw [hmessages]
      exact hs
    | cons message rest =>
      rw [step_deliver hmessages]
      cases message with
      | layoutReply parentId reply =>
        cases reply with
        | none => exact hs.importerStep (e := .getLayoutFinished parentId none) nofun rest
        | some reply => exact hs.layout htracks hmessages (he parentId _ _ rest hmessages)
      | layoutUpdated revision parentId =>
        exact hs.importerStep (e := .layoutUpdated revision parentId) nofun rest
      | itemsPropertiesUpdated updatedList removedList =>
        exact hs.importerStep (e := .itemsPropertiesUpdated updatedList removedList) nofun rest
      | itemActivationRequested id timestamp =>
        exact hs.importerStep (e := .itemActivationRequested id timestamp) nofun rest
      | aboutToShowReply id reply =>
        exact hs.importerStep (e := .aboutToShowFinished id reply) nofun rest
  | atImporter e =>
    refine hs.importerStep ?_ s.messages
    intro id reply
    cases e
    all_goals exact nofun

theorem orderly_answers {e : SystemEvent kit} (he : s.Orderly home e) : s.Answers e := by
  cases e with
  | serve answer => exact he
  | change | announce | requestActivation | deliver | atImporter => trivial

end MenuSystem

end DdeTrayLoader.DBusMenu
