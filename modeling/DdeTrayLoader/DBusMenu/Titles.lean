import DdeTrayLoader.DBusMenu.Objects

/-!
# Titles of KDE

An item with `x-kde-title` gets the action of a widget in place of its own, and that action is not
given the id of the item. The next layout of the menu does not find the id of the action among
the ids it lists, and has the action deleted, while the entry of the item still leads to it and
keeps a new action from being made.
-/

namespace DdeTrayLoader.DBusMenu

open DdeTrayLoader.Objects DdeTrayLoader.Transition

namespace Importer

variable {kit : Toolkit} {s s' : Importer kit}

/-! ## What holds of every action -/

/-- Every action has the property. -/
def Each (P : Action kit → Prop) (s : Importer kit) : Prop :=
  ∀ r a, s.actions.find r = some a → P a

section
variable {P : Action kit → Prop} (hlook : ∀ a look, P a → P { a with look := look })
  (hnew : ∀ (s : Importer kit) (m : MenuRef) (id : ℤ) (properties : VariantMap kit),
    P (s.newAction m id properties))
include hlook

theorem Each.kept (hs : Each P s) (h : Kept s s') : Each P s' := by
  intro r a ha
  obtain ⟨a₀, look, ha₀, rfl⟩ := h.find ha
  exact hlook a₀ look (hs r a₀ ha₀)

include hnew

theorem Each.insertOrUpdate (hs : Each P s) (m : MenuRef) (item : DBusMenuLayoutItem kit) :
    Each P (insertOrUpdate m s item) := by
  rcases insertOrUpdate_cases m s item with ⟨-, heq⟩ | ⟨r, -, heq⟩
  · rw [heq]
    intro r a ha
    rcases Store.find_add_cases ha with ⟨-, rfl⟩ | ⟨-, ha⟩
    · exact hnew s m item.id item.properties
    · exact hs r a ha
  · rw [heq]
    have hupdated : Each P (s.updateAction r
        (requestedUpdates item.properties (filteredKeys item.properties))) :=
      hs.kept hlook (kept_updateAction s r _)
    exact fun r a ha => hupdated r a ha

/-- A property that new actions have, and that does not depend on what an action shows, is one of
every action after an event. -/
theorem Each.step (hs : Each P s) (e : Event kit) : Each P (s.step e) := by
  by_cases he : e.ChangesObjects
  · cases e with
    | getLayoutFinished parentId reply =>
      change Each P (s.slotGetLayoutFinished parentId reply)
      rcases slotGetLayoutFinished_cases s parentId reply with hsame | ⟨m, -, layout, -, -, heq⟩
      · exact hs.kept hlook hsame
      · rw [heq]
        have hfirst : Each P ((s.actionsOf m).foldl (removeOutdated layout.childIds) s) := by
          unfold Each
          rw [(foldl_removeOutdated_spec layout.childIds (s.actionsOf m) s).1]
          exact hs
        exact run_invariant (fun _ item h => h.insertOrUpdate hlook hnew m item)
          layout.children hfirst
    | deferredDelete =>
      change Each P s.deferredDelete
      unfold Importer.deferredDelete
      split
      · exact hs
      · exact fun r a ha => hs r a (find_sweep_action.mp ha).1
      · exact fun r a ha => hs r a (find_sweep_action.mp ha).1
    | layoutUpdated | itemsPropertiesUpdated | itemActivationRequested | aboutToShowFinished
    | timeout | rightClick | aboutToShow | aboutToHide | activate | themeTypeChanged =>
      exact absurd he id
  · exact hs.kept hlook (kept_step he)

end

/-- The action of a title has no id. -/
theorem id_of_title (themeType : ThemeType) (es : List (Event kit)) :
    Each (fun a => a.title ≠ none → a.id = 0) (run step (create kit themeType) es) := by
  refine run_invariant (fun s e hs => hs.step (fun _ _ h => h) ?_ e) es fun _ _ ha => nomatch ha
  intro s m id properties
  unfold newAction
  dsimp only
  split_ifs
  · exact fun _ => rfl
  · exact fun h => absurd rfl h
  · exact fun h => absurd rfl h

/-! ## A layout -/

/-- The second loop posts no deletion and keeps the entries it finds. -/
theorem foldl_insertOrUpdate_spec (m : MenuRef) (items : List (DBusMenuLayoutItem kit))
    (s : Importer kit) :
    (items.foldl (insertOrUpdate m) s).deferred = s.deferred ∧
      ∀ id r, s.actionForId id = some r →
        (items.foldl (insertOrUpdate m) s).actionForId id = some r := by
  induction items generalizing s with
  | nil => exact ⟨rfl, fun _ _ h => h⟩
  | cons item items ih =>
    obtain ⟨hdef, hindex⟩ := ih (insertOrUpdate m s item)
    rw [List.foldl_cons]
    rcases insertOrUpdate_cases m s item with ⟨hnone, heq⟩ | ⟨r', -, heq⟩
    · rw [heq] at hdef hindex ⊢
      refine ⟨hdef, fun id r hr => hindex id r ?_⟩
      have hne : id ≠ item.id := by
        rintro rfl
        exact nomatch hnone.symm.trans hr
      exact (Function.update_of_ne hne _ _).trans hr
    · rw [heq] at hdef hindex ⊢
      exact ⟨hdef, hindex⟩

/-! ## A title and the next layout -/

/-- The object of an entry waits for its deletion, or is gone already. -/
structure Dying (r : ActionRef) (entry : ℤ) (s : Importer kit) : Prop where
  sound : Sound s
  deferred : ∀ a, s.actions.find r = some a → Deferred.action r ∈ s.deferred
  entry : s.actionForId entry = none ∨ s.actionForId entry = some r

/-- What waits for its deletion waits for fewer deletions after the next. -/
theorem Dying.deferredDelete {r : ActionRef} {entry : ℤ} (h : Dying r entry s) :
    Dying r entry s.deferredDelete ∧ s.deferredDelete.deferred.length ≤ s.deferred.length - 1 := by
  have hsweep (rest : List Deferred) (object : Deferred) (hdef : s.deferred = object :: rest)
      (deadAction : ActionRef → Action kit → Bool) (deadMenu : MenuRef → Menu → Bool)
      (hsound : Sound ({ s with deferred := rest }.sweep deadAction deadMenu))
      (hobject : object = .action r → ∀ a, deadAction r a = true) :
      Dying r entry ({ s with deferred := rest }.sweep deadAction deadMenu) ∧
        ({ s with deferred := rest }.sweep deadAction deadMenu).deferred.length ≤
          s.deferred.length - 1 := by
    refine ⟨⟨hsound, fun a ha => ?_, ?_⟩, ?_⟩
    · obtain ⟨ha, halive⟩ := find_sweep_action.mp ha
      change _ ∈ rest.filter _
      have hmem := h.deferred a ha
      rw [hdef] at hmem
      rcases List.mem_cons.mp hmem with heq | hrest
      · rw [hobject heq.symm] at halive
        contradiction
      · refine List.mem_filter.mpr ⟨hrest, ?_⟩
        change (!(s.actions.find r).any (deadAction r)) = true
        rw [show s.actions.find r = some a from ha, Option.any_some, halive]
        rfl
    · cases hafter : ({ s with deferred := rest }.sweep deadAction deadMenu).actionForId entry with
      | none => exact .inl rfl
      | some r' =>
        have hbefore := (sweep_actionForId.mp hafter).1
        exact .inr (hbefore ▸ h.entry.resolve_left (by rw [hbefore]; exact nofun))
    · rw [hdef, List.length_cons, Nat.add_sub_cancel]
      exact List.length_filter_le _ _
  have hsound := h.sound.deferredDelete
  unfold Importer.deferredDelete at hsound ⊢
  split at hsound
  · next hdef =>
    rw [hdef]
    exact ⟨h, Nat.zero_le _⟩
  · next r' rest hdef =>
    refine hsweep rest _ hdef _ _ hsound ?_
    intro heq a
    exact decide_eq_true (Deferred.action.inj heq).symm
  · next m rest hdef => exact hsweep rest _ hdef _ _ hsound nofun

/-- Once the posted deletions are done, the object is gone and so is its entry. -/
theorem Dying.gone {r : ActionRef} {entry : ℤ} (h : Dying r entry s) {n : ℕ}
    (hn : s.deferred.length ≤ n) :
    (run step s (List.replicate n .deferredDelete)).actions.find r = none ∧
      (run step s (List.replicate n .deferredDelete)).actionForId entry = none := by
  induction n generalizing s with
  | zero =>
    have hdead : s.actions.find r = none := by
      cases ha : s.actions.find r with
      | none => rfl
      | some a =>
        have hmem := h.deferred a ha
        rw [List.length_eq_zero_iff.mp (Nat.le_zero.mp hn)] at hmem
        exact absurd hmem List.not_mem_nil
    refine ⟨hdead, h.entry.resolve_right fun hsome => ?_⟩
    obtain ⟨a, ha, -⟩ := h.sound.indexed hsome
    exact nomatch hdead.symm.trans ha
  | succ n ih =>
    obtain ⟨hnext, hlen⟩ := h.deferredDelete
    rw [List.replicate_succ, run_cons]
    refine ih hnext ?_
    change s.deferredDelete.deferred.length ≤ n
    omega

/-- In every run, the next layout of its menu that lists the item of a title has the title deleted
and makes no new action: once the posted deletions are done, nothing is left of the item. -/
theorem title_lost (themeType : ThemeType) (es : List (Event kit)) {parentId : ℤ} {m : MenuRef}
    {revision : ℕ} {layout : DBusMenuLayoutItem kit} {r : ActionRef} {title : Action kit}
    (hm : (run step (create kit themeType) es).menuForId parentId = some m)
    (hr : r ∈ (run step (create kit themeType) es).actionsOf m)
    (hfind : (run step (create kit themeType) es).actions.find r = some title)
    (htitle : title.title ≠ none)
    (hindex : (run step (create kit themeType) es).actionForId title.entry = some r)
    (hlisted : title.entry ∈ layout.childIds) (hzero : 0 ∉ layout.childIds) :
    let s' := (run step (create kit themeType) es).step
      (.getLayoutFinished parentId (some (revision, layout)))
    s'.actionForId title.entry = some r ∧ ∀ n, s'.deferred.length ≤ n →
      (run step s' (List.replicate n .deferredDelete)).actions.find r = none ∧
        (run step s' (List.replicate n .deferredDelete)).actionForId title.entry = none := by
  have hsound : Sound (run step (create kit themeType) es) :=
    run_invariant (fun _ e hs => hs.step e) es (sound_create kit themeType)
  have hid := id_of_title themeType es r title hfind htitle
  generalize run step (create kit themeType) es = s at *
  intro s'
  have hstep : s' = (s.replaceLayout m layout).emit (.menuUpdated m) := by
    change s.slotGetLayoutFinished parentId (some (revision, layout)) = _
    unfold slotGetLayoutFinished
    rw [hm]
  obtain ⟨-, -, hposted⟩ := foldl_removeOutdated_spec layout.childIds (s.actionsOf m) s
  obtain ⟨hdef, hkeeps⟩ := foldl_insertOrUpdate_spec m layout.children
    ((s.actionsOf m).foldl (removeOutdated layout.childIds) s)
  have hentry : s'.actionForId title.entry = some r := by
    rw [hstep]
    refine hkeeps title.entry r ?_
    rw [actionForId_foldl_removeOutdated hlisted]
    exact hindex
  have hdying : Dying r title.entry s' := by
    refine ⟨hsound.step _, fun a ha => ?_, .inr hentry⟩
    rw [hstep]
    change _ ∈ (s.replaceLayout m layout).deferred
    unfold replaceLayout
    dsimp only
    rw [hdef, hposted]
    exact .inr ⟨hr, title, hfind, by rw [hid]; exact hzero⟩
  exact ⟨hentry, fun n hn => hdying.gone hn⟩

/-- A layout with one item, which is a title. -/
def titleLayout : DBusMenuLayoutItem textKit :=
  .item 0 .empty [.item 1 ⟨[("x-kde-title", some "true")], List.pairwise_singleton _ _⟩ []]

/-- A menu with the title of `titleLayout`. -/
def withTitle : Importer textKit :=
  run step (create textKit .light) [.getLayoutFinished 0 (some (1, titleLayout))]

theorem title_lost_second_layout :
    let s' := withTitle.step (.getLayoutFinished 0 (some (2, titleLayout)))
    s'.actionForId 1 = some 0 ∧ (s'.step .deferredDelete).actionForId 1 = none := by
  intro s'
  have hfound : (withTitle.actions.find 0).map Action.entry = some 1 := rfl
  have htitle : (withTitle.actions.find 0).any (fun a => a.title.isSome) = true := rfl
  obtain ⟨title, hfind, hentry⟩ := Option.map_eq_some_iff.mp hfound
  rw [hfind, Option.any_some] at htitle
  have hlost := @title_lost textKit .light [.getLayoutFinished 0 (some (1, titleLayout))] 0
    rootMenu 2 titleLayout 0 title rfl (List.mem_singleton_self 0) hfind
    (Option.isSome_iff_ne_none.mp htitle) (by rw [hentry]; rfl) (by rw [hentry]; decide) (by decide)
  rw [hentry] at hlost
  exact ⟨hlost.1, (hlost.2 1 (Nat.le_refl 1)).2⟩

end Importer

end DdeTrayLoader.DBusMenu
