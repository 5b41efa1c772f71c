import DdeTrayLoader.DBusMenu.Objects

/-!
# What an action shows of what the service said

The service says in layouts and in `ItemsPropertiesUpdated` what the properties of an item are.
An action shows the last value that its item was given for each of its properties, in whatever
message that came. A property that a layout leaves out keeps its value.

Icons are loaded when their names change, or when a change of the theme forces it; but the first
action that a layout updates takes the force away, and the others keep icons of the old theme.
-/

namespace DdeTrayLoader.DBusMenu

open DdeTrayLoader.Objects DdeTrayLoader.Transition

variable {kit : Toolkit}

/-! ## Updates in a row -/

/-- Updates, made under themes and forces that are allowed. -/
def Updated (allowed : ThemeType → Bool → Prop) :
    List (String × kit.Variant) → Look kit → Look kit → Prop
  | [], look, look' => look' = look
  | update :: updates, look, look' => ∃ theme force, allowed theme force ∧
      Updated allowed updates (updateActionProperty theme force look update.1 update.2) look'

theorem Updated.append {allowed : ThemeType → Bool → Prop} {us us' : List (String × kit.Variant)}
    {look look₁ look₂ : Look kit} (h : Updated allowed us look look₁)
    (h' : Updated allowed us' look₁ look₂) : Updated allowed (us ++ us') look look₂ := by
  induction us generalizing look with
  | nil =>
    obtain rfl : look₁ = look := h
    exact h'
  | cons u us ih =>
    obtain ⟨theme, force, hallowed, hrest⟩ := h
    exact ⟨theme, force, hallowed, ih hrest⟩

theorem Updated.mono {allowed allowed' : ThemeType → Bool → Prop}
    (hmono : ∀ theme force, allowed theme force → allowed' theme force)
    {us : List (String × kit.Variant)} {look look' : Look kit} (h : Updated allowed us look look') :
    Updated allowed' us look look' := by
  induction us generalizing look with
  | nil => exact h
  | cons u us ih =>
    obtain ⟨theme, force, hallowed, hrest⟩ := h
    exact ⟨theme, force, hmono theme force hallowed, ih hrest⟩

theorem Updated.keeps {allowed : ThemeType → Bool → Prop} {P : Look kit → Prop}
    {us : List (String × kit.Variant)}
    (hP : ∀ u ∈ us, ∀ theme force look, allowed theme force → P look →
      P (updateActionProperty theme force look u.1 u.2))
    {look look' : Look kit} (h : Updated allowed us look look') (hlook : P look) : P look' := by
  induction us generalizing look with
  | nil =>
    obtain rfl : look' = look := h
    exact hlook
  | cons u us ih =>
    obtain ⟨theme, force, hallowed, hrest⟩ := h
    exact ih (fun u hu => hP u (List.mem_cons_of_mem _ hu)) hrest
      (hP u List.mem_cons_self theme force look hallowed hlook)

theorem updated_updateProperties {allowed : ThemeType → Bool → Prop} {theme : ThemeType}
    {force : Bool} (hallowed : allowed theme force) (us : List (String × kit.Variant))
    (look : Look kit) : Updated allowed us look (updateProperties theme force look us) := by
  induction us generalizing look with
  | nil => rfl
  | cons u us ih => exact ⟨theme, force, hallowed, ih _⟩

/-- The last value for a key. -/
def lastTold (key : String) (us : List (String × kit.Variant)) : Option kit.Variant :=
  ((us.filter (·.1 = key)).getLast?).map Prod.snd

theorem lastTold_cons (key : String) (u : String × kit.Variant)
    (us : List (String × kit.Variant)) :
    lastTold key (u :: us) = (lastTold key us).or (if u.1 = key then some u.2 else none) := by
  unfold lastTold
  rw [List.filter_cons]
  by_cases hkey : u.1 = key
  · rw [if_pos (decide_eq_true hkey), if_pos hkey, List.getLast?_cons]
    cases (us.filter (·.1 = key)).getLast? with
    | none => rfl
    | some last => rfl
  · rw [if_neg (by rwa [decide_eq_true_iff]), if_neg hkey, Option.or_none]

theorem lastTold_append (key : String) (us us' : List (String × kit.Variant)) :
    lastTold key (us ++ us') = (lastTold key us').or (lastTold key us) := by
  unfold lastTold
  rw [List.filter_append, List.getLast?_append, Option.map_or]

/-- What is set by one property only is what the last value of that property sets. -/
theorem Updated.last {allowed : ThemeType → Bool → Prop} {β : Type} {get : Look kit → β}
    {key : String} {set : kit.Variant → β}
    (hset : ∀ theme force look key' value,
      get (updateActionProperty theme force look key' value) =
        if key' = key then set value else get look)
    {us : List (String × kit.Variant)} {look look' : Look kit} (h : Updated allowed us look look') :
    get look' = ((lastTold key us).map set).getD (get look) := by
  induction us generalizing look with
  | nil =>
    obtain rfl : look' = look := h
    rfl
  | cons u us ih =>
    obtain ⟨theme, force, -, hrest⟩ := h
    rw [ih hrest, lastTold_cons, hset]
    cases lastTold key us with
    | some value => rfl
    | none =>
      by_cases hkey : u.1 = key
      · rw [if_pos hkey, if_pos hkey]
        rfl
      · rw [if_neg hkey, if_neg hkey]
        rfl

/-! ## What an event tells an action -/

namespace Importer

variable {s s' : Importer kit}

/-- The updates of the listed items that belong to an action. -/
def toldBy {β : Type} (s : Importer kit) (r : ActionRef) (id : β → ℤ)
    (updates : β → List (String × kit.Variant)) (items : List β) : List (String × kit.Variant) :=
  (items.filter fun item => s.actionForId (id item) = some r).flatMap updates

/-- The updates that an event makes of an action that is there. -/
def told (s : Importer kit) (r : ActionRef) : Event kit → List (String × kit.Variant)
  | .itemsPropertiesUpdated updatedList removedList =>
    s.toldBy r DBusMenuItem.id (fun item => item.properties.entries) updatedList ++
      s.toldBy r DBusMenuItemKeys.id (fun item => item.properties.map fun key => (key, kit.invalid))
        removedList
  | .getLayoutFinished parentId (some (_, rootItem)) =>
    if s.menuForId parentId = none then []
    else s.toldBy r DBusMenuLayoutItem.id
      (fun item => requestedUpdates item.properties (filteredKeys item.properties))
      rootItem.children
  | _ => []

/-- The updates of an action over a run. -/
def toldThrough (s : Importer kit) (r : ActionRef) : List (Event kit) → List (String × kit.Variant)
  | [] => []
  | e :: es => s.told r e ++ (s.step e).toldThrough r es

/-- Unless the importer is to load icons anew, no update is forced. -/
def Unforced (s : Importer kit) (_ : ThemeType) (force : Bool) : Prop :=
  s.forceRefresh = false → force = false

/-- An action that is there later was there, and has been told the updates in between. -/
def Tells (s s' : Importer kit) (r : ActionRef) (us : List (String × kit.Variant)) : Prop :=
  ∀ a', s'.actions.find r = some a' →
    ∃ a, s.actions.find r = some a ∧ Updated s.Unforced us a.look a'.look

theorem tells_nil_of_actions (h : s'.actions = s.actions) (r : ActionRef) : Tells s s' r [] := by
  intro a' ha'
  rw [h] at ha'
  exact ⟨a', ha', rfl⟩

theorem Tells.trans {s'' : Importer kit} {r : ActionRef} {us us' : List (String × kit.Variant)}
    (h : Tells s s' r us) (h' : Tells s' s'' r us')
    (hforce : s.forceRefresh = false → s'.forceRefresh = false) : Tells s s'' r (us ++ us') := by
  intro a'' ha''
  obtain ⟨a', ha', hupdated'⟩ := h' a'' ha''
  obtain ⟨a, ha, hupdated⟩ := h a' ha'
  exact ⟨a, ha, hupdated.append (hupdated'.mono fun _ _ hallowed hs => hallowed (hforce hs))⟩

/-- An action that was there already is told the updates, and no other entry becomes its own. -/
structure Telling (r : ActionRef) (us : List (String × kit.Variant)) (s s' : Importer kit) :
    Prop where
  tells : Tells s s' r us
  next : s.actions.next ≤ s'.actions.next
  entries : ∀ id, s'.actionForId id = some r ↔ s.actionForId id = some r
  force : s.forceRefresh = false → s'.forceRefresh = false

theorem Telling.trans {s'' : Importer kit} {r : ActionRef} {us us' : List (String × kit.Variant)}
    (h : Telling r us s s') (h' : Telling r us' s' s'') : Telling r (us ++ us') s s'' where
  tells := h.tells.trans h'.tells h.force
  next := h.next.trans h'.next
  entries id := (h'.entries id).trans (h.entries id)
  force hs := h'.force (h.force hs)

/-- What the listed items tell depends on their entries only. -/
theorem toldBy_congr {β : Type} {r : ActionRef} {id : β → ℤ}
    {updates : β → List (String × kit.Variant)} {items : List β}
    (h : ∀ item ∈ items, s'.actionForId (id item) = some r ↔ s.actionForId (id item) = some r) :
    s'.toldBy r id updates items = s.toldBy r id updates items := by
  unfold toldBy
  rw [List.filter_congr fun item hitem => decide_eq_decide.mpr (h item hitem)]

/-- A loop over items tells the action what the items that are its own say, when each of its
steps does. -/
theorem telling_foldl {β : Type} {f : Importer kit → β → Importer kit} {id : β → ℤ}
    {updates : β → List (String × kit.Variant)} {r : ActionRef}
    (hf : ∀ s x, r < s.actions.next →
      Telling r (if s.actionForId (id x) = some r then updates x else []) s (f s x))
    {s : Importer kit} (hr : r < s.actions.next) (items : List β) :
    Telling r (s.toldBy r id updates items) s (items.foldl f s) := by
  induction items generalizing s with
  | nil => exact ⟨tells_nil_of_actions rfl r, le_rfl, fun _ => Iff.rfl, fun hs => hs⟩
  | cons item items ih =>
    have hone := hf s item hr
    have hrest := hone.trans (ih (hr.trans_le hone.next))
    rw [toldBy_congr fun item' _ => hone.entries (id item')] at hrest
    have hsplit : s.toldBy r id updates (item :: items) =
        (if s.actionForId (id item) = some r then updates item else []) ++
          s.toldBy r id updates items := by
      unfold toldBy
      rw [List.filter_cons]
      by_cases hitem : s.actionForId (id item) = some r
      · rw [if_pos (decide_eq_true hitem), if_pos hitem, List.flatMap_cons]
      · rw [if_neg (by rwa [decide_eq_true_iff]), if_neg hitem, List.nil_append]
    rw [hsplit]
    exact hrest

/-- Updating the properties of one action tells it the updates, and tells no other action. -/
theorem tells_modify {r r' : ActionRef} {us : List (String × kit.Variant)}
    (h : s'.actions = s.actions.modify r' fun action =>
      { action with look := updateProperties s.themeType s.forceRefresh action.look us }) :
    Tells s s' r (if some r' = some r then us else []) := by
  intro a' ha'
  rw [h] at ha'
  obtain ⟨a, ha, rfl⟩ := Store.find_modify_eq_some.mp ha'
  refine ⟨a, ha, ?_⟩
  by_cases hr : r = r'
  · rw [if_pos hr, if_pos (congrArg some hr.symm)]
    exact updated_updateProperties (fun hs => hs) us a.look
  · rw [if_neg hr, if_neg fun heq => hr (Option.some.inj heq).symm]
    rfl

theorem telling_updateItem (s : Importer kit) (r : ActionRef) (id : ℤ)
    (us : List (String × kit.Variant)) :
    Telling r (if s.actionForId id = some r then us else []) s (s.updateItem id us) := by
  unfold updateItem
  cases s.actionForId id with
  | none => exact ⟨tells_nil_of_actions rfl r, le_rfl, fun _ => Iff.rfl, fun hs => hs⟩
  | some r' => exact ⟨tells_modify rfl, le_rfl, fun _ => Iff.rfl, fun hs => hs⟩

theorem telling_slotItemsPropertiesUpdated {r : ActionRef} (hr : r < s.actions.next)
    (updatedList : List (DBusMenuItem kit)) (removedList : List DBusMenuItemKeys) :
    Telling r (s.told r (.itemsPropertiesUpdated updatedList removedList)) s
      (s.slotItemsPropertiesUpdated updatedList removedList) := by
  have hupdated := telling_foldl (fun s (item : DBusMenuItem kit) _ =>
    telling_updateItem s r item.id item.properties.entries) hr updatedList
  have hremoved := telling_foldl (fun s (item : DBusMenuItemKeys) _ =>
    telling_updateItem s r item.id (item.properties.map fun key => (key, kit.invalid)))
    (hr.trans_le hupdated.next) removedList
  rw [toldBy_congr fun item _ => hupdated.entries item.id] at hremoved
  exact hupdated.trans hremoved

theorem telling_insertOrUpdate (m : MenuRef) {r : ActionRef} (s : Importer kit)
    (item : DBusMenuLayoutItem kit) (hr : r < s.actions.next) :
    Telling r (if s.actionForId item.id = some r then
      requestedUpdates item.properties (filteredKeys item.properties) else [])
      s (insertOrUpdate m s item) := by
  rcases insertOrUpdate_cases m s item with ⟨hnone, heq⟩ | ⟨r', hindex, heq⟩
  · rw [heq, hnone, if_neg nofun]
    refine ⟨fun a' ha' => ?_, Nat.le_succ _, fun id => ?_, fun _ => rfl⟩
    · obtain ⟨-, ha⟩ := (Store.find_add_cases ha').resolve_left fun hnew => hr.ne hnew.1
      exact ⟨a', ha, rfl⟩
    · change Function.update s.actionForId item.id (some s.actions.next) id = some r ↔ _
      rw [Function.update_apply]
      split_ifs with hid
      · rw [hid, hnone]
        exact iff_of_false (fun hnew => hr.ne (Option.some.inj hnew).symm) nofun
      · rfl
  · rw [heq, hindex]
    exact ⟨tells_modify rfl, le_rfl, fun _ => Iff.rfl, fun _ => rfl⟩

theorem forceRefresh_foldl_removeOutdated (ids : List ℤ) (rs : List ActionRef)
    (s : Importer kit) : (rs.foldl (removeOutdated ids) s).forceRefresh = s.forceRefresh := by
  have hdeleteLater (s : Importer kit) (object : Deferred) :
      (s.deleteLater object).forceRefresh = s.forceRefresh := by
    unfold deleteLater
    split_ifs
    · rfl
    · rfl
  induction rs generalizing s with
  | nil => rfl
  | cons r rs ih =>
    rw [List.foldl_cons, ih]
    unfold removeOutdated
    cases s.actions.find r with
    | none => rfl
    | some action =>
      dsimp only
      split_ifs
      · rfl
      · cases (s.deleteLater (.action r)).menuOf action with
        | none => exact hdeleteLater s _
        | some m => exact (hdeleteLater _ _).trans (hdeleteLater s _)

/-- A layout tells the actions of its items, and forces no update any more if it forced none. -/
theorem tells_replaceLayout {r : ActionRef} (hr : r < s.actions.next) (m : MenuRef)
    (layout : DBusMenuLayoutItem kit) :
    Tells s (s.replaceLayout m layout) r (s.toldBy r DBusMenuLayoutItem.id
        (fun item => requestedUpdates item.properties (filteredKeys item.properties))
        layout.children) ∧
      s.actions.next ≤ (s.replaceLayout m layout).actions.next ∧
      (s.forceRefresh = false → (s.replaceLayout m layout).forceRefresh = false) := by
  obtain ⟨hactions, -, -⟩ := foldl_removeOutdated_spec layout.childIds (s.actionsOf m) s
  have hforce := forceRefresh_foldl_removeOutdated layout.childIds (s.actionsOf m) s
  have hsecond := telling_foldl (fun s item hr => telling_insertOrUpdate m s item hr)
    (hr.trans_eq (congrArg Store.next hactions.symm)) layout.children
  have hentries (item : DBusMenuLayoutItem kit) (hitem : item ∈ layout.children) :
      ((s.actionsOf m).foldl (removeOutdated layout.childIds) s).actionForId item.id = some r ↔
        s.actionForId item.id = some r := by
    have hlisted : item.id ∈ layout.childIds := List.mem_map_of_mem hitem
    rw [actionForId_foldl_removeOutdated hlisted]
  rw [toldBy_congr hentries] at hsecond
  refine ⟨?_, (congrArg Store.next hactions.symm).trans_le hsecond.next,
    fun hs => hsecond.force (hforce.trans hs)⟩
  exact (tells_nil_of_actions hactions r).trans hsecond.tells hforce.trans

/-! ## One event -/

/-- The other events leave the actions, and of them only a change of the theme forces updates. -/
theorem actions_step {e : Event kit} (hobjects : ¬e.ChangesObjects)
    (hitems : ∀ updatedList removedList, e ≠ .itemsPropertiesUpdated updatedList removedList)
    (hactivate : ∀ r, e ≠ .activate r) :
    (s.step e).actions = s.actions ∧
      ((∀ themeType, e ≠ .themeTypeChanged themeType) →
        (s.step e).forceRefresh = s.forceRefresh) := by
  have hroot (s : Importer kit) : s.updateRootMenu.actions = s.actions ∧
      s.updateRootMenu.forceRefresh = s.forceRefresh := by
    unfold updateRootMenu
    cases s.menus.find rootMenu with
    | none => exact ⟨rfl, rfl⟩
    | some menu => exact ⟨rfl, rfl⟩
  cases e with
  | itemsPropertiesUpdated updatedList removedList => exact absurd rfl (hitems _ _)
  | deferredDelete => exact absurd trivial hobjects
  | activate r => exact absurd rfl (hactivate r)
  | layoutUpdated revision parentId =>
    change (s.slotLayoutUpdated parentId).actions = _ ∧
      (_ → (s.slotLayoutUpdated parentId).forceRefresh = _)
    unfold slotLayoutUpdated
    split_ifs
    · exact ⟨rfl, fun _ => rfl⟩
    · exact ⟨rfl, fun _ => rfl⟩
  | itemActivationRequested id timestamp =>
    change (s.slotItemActivationRequested id).actions = _ ∧
      (_ → (s.slotItemActivationRequested id).forceRefresh = _)
    unfold slotItemActivationRequested
    cases s.actionForId id with
    | none => exact ⟨rfl, fun _ => rfl⟩
    | some r => exact ⟨rfl, fun _ => rfl⟩
  | getLayoutFinished parentId reply =>
    cases reply with
    | some reply => exact absurd trivial hobjects
    | none =>
      change (s.slotGetLayoutFinished parentId none).actions = _ ∧
        (_ → (s.slotGetLayoutFinished parentId none).forceRefresh = _)
      unfold slotGetLayoutFinished
      cases s.menuForId parentId with
      | none => exact ⟨rfl, fun _ => rfl⟩
      | some m => exact ⟨rfl, fun _ => rfl⟩
  | aboutToShowFinished id reply =>
    change (s.slotAboutToShowDBusCallFinished id reply).actions = _ ∧
      (_ → (s.slotAboutToShowDBusCallFinished id reply).forceRefresh = _)
    unfold slotAboutToShowDBusCallFinished
    cases s.menuForId id with
    | none => exact ⟨rfl, fun _ => rfl⟩
    | some m =>
      cases reply with
      | none => exact ⟨rfl, fun _ => rfl⟩
      | some needRefresh =>
        dsimp only
        split_ifs
        · exact ⟨rfl, fun _ => rfl⟩
        · exact ⟨rfl, fun _ => rfl⟩
  | timeout order =>
    have hrefresh (ids : List ℤ) (s : Importer kit) :
        (ids.foldl refresh s).actions = s.actions ∧
          (ids.foldl refresh s).forceRefresh = s.forceRefresh := by
      induction ids generalizing s with
      | nil => exact ⟨rfl, rfl⟩
      | cons id ids ih => exact ih (s.refresh id)
    change (s.timeout order).actions = _ ∧ (_ → (s.timeout order).forceRefresh = _)
    unfold timeout processPendingLayoutUpdates
    split_ifs
    · exact ⟨(hrefresh _ _).1, fun _ => (hrefresh _ _).2⟩
    · exact ⟨rfl, fun _ => rfl⟩
  | rightClick => exact ⟨(hroot s).1, fun _ => (hroot s).2⟩
  | aboutToShow m =>
    change (s.slotMenuAboutToShow m).actions = _ ∧
      (_ → (s.slotMenuAboutToShow m).forceRefresh = _)
    unfold slotMenuAboutToShow
    cases s.menus.find m with
    | none => exact ⟨rfl, fun _ => rfl⟩
    | some menu =>
      dsimp only
      split_ifs
      · exact ⟨rfl, fun _ => rfl⟩
      · exact ⟨rfl, fun _ => rfl⟩
  | aboutToHide m =>
    change (s.slotMenuAboutToHide m).actions = _ ∧
      (_ → (s.slotMenuAboutToHide m).forceRefresh = _)
    unfold slotMenuAboutToHide
    cases s.menus.find m with
    | none => exact ⟨rfl, fun _ => rfl⟩
    | some menu =>
      dsimp only
      split_ifs
      · exact ⟨rfl, fun _ => rfl⟩
      · exact ⟨rfl, fun _ => rfl⟩
  | themeTypeChanged themeType => exact ⟨(hroot _).1, fun h => absurd rfl (h themeType)⟩

/-- What an event does to the actions that stay: they are told their updates, or the user
activates one of them. -/
structure Retells (r : ActionRef) (us : List (String × kit.Variant)) (s s' : Importer kit) :
    Prop where
  look : ∀ a', s'.actions.find r = some a' → ∃ a look, s.actions.find r = some a ∧
    Updated s.Unforced us a.look look ∧ (a'.look = look ∨ a'.look = triggered look)
  next : s.actions.next ≤ s'.actions.next

theorem Tells.retells {r : ActionRef} {us : List (String × kit.Variant)} (h : Tells s s' r us)
    (hnext : s.actions.next ≤ s'.actions.next) : Retells r us s s' := by
  refine ⟨fun a' ha' => ?_, hnext⟩
  obtain ⟨a, ha, hupdated⟩ := h a' ha'
  exact ⟨a, a'.look, ha, hupdated, .inl rfl⟩

/-- Deleting objects tells nothing. -/
theorem tells_deferredDelete (s : Importer kit) (r : ActionRef) :
    Tells s s.deferredDelete r [] ∧ s.deferredDelete.actions.next = s.actions.next ∧
      s.deferredDelete.forceRefresh = s.forceRefresh := by
  have hsweep (rest : List Deferred) (deadAction : ActionRef → Action kit → Bool)
      (deadMenu : MenuRef → Menu → Bool) :
      Tells s ({ s with deferred := rest }.sweep deadAction deadMenu) r [] :=
    fun a' ha' => ⟨a', (find_sweep_action.mp ha').1, rfl⟩
  unfold deferredDelete
  split
  · exact ⟨tells_nil_of_actions rfl r, rfl, rfl⟩
  · exact ⟨hsweep _ _ _, rfl, rfl⟩
  · exact ⟨hsweep _ _ _, rfl, rfl⟩

theorem retells_activate (s : Importer kit) (r r' : ActionRef) :
    Retells r [] s (s.activate r') ∧ (s.activate r').forceRefresh = s.forceRefresh := by
  unfold activate
  cases s.actions.find r' with
  | none => exact ⟨(tells_nil_of_actions rfl r).retells le_rfl, rfl⟩
  | some action =>
    dsimp only
    split_ifs
    · refine ⟨⟨fun a' ha' => ?_, le_rfl⟩, rfl⟩
      obtain ⟨a, ha, rfl⟩ := Store.find_modify_eq_some.mp ha'
      refine ⟨a, a.look, ha, rfl, ?_⟩
      split_ifs
      · exact .inr rfl
      · exact .inl rfl
    · exact ⟨(tells_nil_of_actions rfl r).retells le_rfl, rfl⟩

/-- An event tells an action what `told` says, and only a change of the theme forces updates. -/
theorem retells_step {r : ActionRef} (hr : r < s.actions.next) (e : Event kit) :
    Retells r (s.told r e) s (s.step e) ∧ ((∀ themeType, e ≠ .themeTypeChanged themeType) →
      s.forceRefresh = false → (s.step e).forceRefresh = false) := by
  have hquiet {e : Event kit} (hobjects : ¬e.ChangesObjects)
      (hitems : ∀ updatedList removedList, e ≠ .itemsPropertiesUpdated updatedList removedList)
      (hactivate : ∀ r, e ≠ .activate r) :
      Retells r [] s (s.step e) ∧ ((∀ themeType, e ≠ .themeTypeChanged themeType) →
        s.forceRefresh = false → (s.step e).forceRefresh = false) := by
    obtain ⟨hactions, hforce⟩ := actions_step (s := s) hobjects hitems hactivate
    exact ⟨(tells_nil_of_actions hactions r).retells (congrArg Store.next hactions).ge,
      fun h => (hforce h).trans⟩
  cases e with
  | itemsPropertiesUpdated updatedList removedList =>
    have htelling := telling_slotItemsPropertiesUpdated hr updatedList removedList
    exact ⟨htelling.tells.retells htelling.next, fun _ => htelling.force⟩
  | activate r' =>
    obtain ⟨hretells, hforce⟩ := retells_activate s r r'
    exact ⟨hretells, fun _ => hforce.trans⟩
  | deferredDelete =>
    obtain ⟨htells, hnext, hforce⟩ := tells_deferredDelete s r
    exact ⟨htells.retells hnext.ge, fun _ => hforce.trans⟩
  | getLayoutFinished parentId reply =>
    cases reply with
    | none => exact hquiet id nofun nofun
    | some reply =>
      obtain ⟨revision, layout⟩ := reply
      change Retells r (if s.menuForId parentId = none then [] else _) s
        (s.slotGetLayoutFinished parentId _) ∧
          (_ → _ → (s.slotGetLayoutFinished parentId _).forceRefresh = _)
      unfold slotGetLayoutFinished
      cases s.menuForId parentId with
      | none => exact ⟨(tells_nil_of_actions rfl r).retells le_rfl, fun _ hs => hs⟩
      | some m =>
        rw [if_neg nofun]
        obtain ⟨htells, hnext, hforce⟩ := tells_replaceLayout hr m layout
        exact ⟨Tells.retells htells hnext, fun _ => hforce⟩
  | layoutUpdated | itemActivationRequested | aboutToShowFinished | timeout | rightClick
  | aboutToShow | aboutToHide | themeTypeChanged => exact hquiet id nofun nofun

/-! ## A run -/

/-- A field of what an action shows that one property sets, and that activating keeps. -/
structure SetBy (kit : Toolkit) {β : Type} (key : String) (set : kit.Variant → β)
    (get : Look kit → β) : Prop where
  update : ∀ theme force look key' value,
    get (updateActionProperty theme force look key' value) =
      if key' = key then set value else get look
  triggered : ∀ look, get (triggered look) = get look

/-- What one property sets is, after a run, what the last value told sets. -/
theorem SetBy.shows {β : Type} {key : String} {set : kit.Variant → β} {get : Look kit → β}
    (h : SetBy kit key set get) {r : ActionRef} {a a' : Action kit} {s : Importer kit}
    (ha : s.actions.find r = some a) (es : List (Event kit))
    (ha' : (run step s es).actions.find r = some a') :
    get a'.look = ((lastTold key (s.toldThrough r es)).map set).getD (get a.look) := by
  have hstay {s : Importer kit} (hr : r < s.actions.next) (es : List (Event kit))
      (ha' : (run step s es).actions.find r = some a') :
      ∃ a, s.actions.find r = some a ∧
        get a'.look = ((lastTold key (s.toldThrough r es)).map set).getD (get a.look) := by
    induction es generalizing s with
    | nil => exact ⟨a', ha', rfl⟩
    | cons e es ih =>
      obtain ⟨hretells, -⟩ := retells_step hr e
      obtain ⟨a₁, ha₁, hget⟩ := ih (hr.trans_le hretells.next) ha'
      obtain ⟨a, look, ha, hupdated, hlook⟩ := hretells.look a₁ ha₁
      have hone : get a₁.look =
          ((lastTold key (s.told r e)).map set).getD (get a.look) := by
        rw [← hupdated.last h.update]
        rcases hlook with hlook | hlook
        · rw [hlook]
        · rw [hlook, h.triggered]
      refine ⟨a, ha, ?_⟩
      rw [hget, hone, toldThrough, lastTold_append]
      cases lastTold key ((s.step e).toldThrough r es) with
      | none => rfl
      | some value => rfl
  obtain ⟨a₀, ha₀, hget⟩ := hstay (Store.lt_of_find ha) es ha'
  rw [hget, Option.some.inj (ha.symm.trans ha₀)]

/-- Each update sets one of these four fields at most. -/
theorem updateActionProperty_fields (theme : ThemeType) (force : Bool) (look : Look kit)
    (key : String) (value : kit.Variant) :
    let look' := updateActionProperty theme force look key value
    look'.text = (if key = "label" then
        swapMnemonicChar (kit.toString value).toList '_' '&' else look.text) ∧
      look'.enabled = (if key = "enabled" then toBoolOrTrue value else look.enabled) ∧
      look'.visible = (if key = "visible" then toBoolOrTrue value else look.visible) ∧
      look'.shortcut = (if key = "shortcut" then
        kit.keySequence (kit.toShortcut value).toText else look.shortcut) := by
  by_cases hlabel : key = "label"
  · subst hlabel
    exact ⟨rfl, rfl, rfl, rfl⟩
  by_cases henabled : key = "enabled"
  · subst henabled
    exact ⟨rfl, rfl, rfl, rfl⟩
  by_cases hvisible : key = "visible"
  · subst hvisible
    exact ⟨rfl, rfl, rfl, rfl⟩
  by_cases hshortcut : key = "shortcut"
  · subst hshortcut
    exact ⟨rfl, rfl, rfl, rfl⟩
  rw [if_neg hlabel, if_neg henabled, if_neg hvisible, if_neg hshortcut]
  unfold updateActionProperty updateActionChecked updateActionIconByName updateActionIconByData
  dsimp only
  split_ifs <;> exact ⟨rfl, rfl, rfl, rfl⟩

/-- Activating changes no more than whether an action is checked. -/
theorem triggered_eq (look : Look kit) :
    ∃ checked, triggered look = { look with checked := checked } := by
  unfold triggered
  split_ifs
  · exact ⟨_, rfl⟩
  · exact ⟨look.checked, rfl⟩

/-- In every run, an action that was there shows the last text and shortcut that its item was told
in between, and is enabled and visible as last told; what was not told stays as it was. -/
theorem shows_last_told (s : Importer kit) (es : List (Event kit)) {r : ActionRef}
    {a a' : Action kit} (ha : s.actions.find r = some a)
    (ha' : (run step s es).actions.find r = some a') :
    let last (key : String) : Option kit.Variant := lastTold key (s.toldThrough r es)
    a'.look.text = ((last "label").map fun value =>
        swapMnemonicChar (kit.toString value).toList '_' '&').getD a.look.text ∧
      a'.look.enabled = ((last "enabled").map toBoolOrTrue).getD a.look.enabled ∧
      a'.look.visible = ((last "visible").map toBoolOrTrue).getD a.look.visible ∧
      a'.look.shortcut = ((last "shortcut").map fun value =>
        kit.keySequence (kit.toShortcut value).toText).getD a.look.shortcut := by
  have htriggered {β : Type} {get : Look kit → β}
      (hget : ∀ look checked, get { look with checked := checked } = get look) (look : Look kit) :
      get (triggered look) = get look := by
    obtain ⟨checked, heq⟩ := triggered_eq look
    rw [heq, hget]
  have htext : SetBy kit "label"
      (fun value => swapMnemonicChar (kit.toString value).toList '_' '&') Look.text :=
    ⟨fun _ _ _ _ _ => (updateActionProperty_fields ..).1, htriggered fun _ _ => rfl⟩
  have henabled : SetBy kit "enabled" toBoolOrTrue Look.enabled :=
    ⟨fun _ _ _ _ _ => (updateActionProperty_fields ..).2.1, htriggered fun _ _ => rfl⟩
  have hvisible : SetBy kit "visible" toBoolOrTrue Look.visible :=
    ⟨fun _ _ _ _ _ => (updateActionProperty_fields ..).2.2.1, htriggered fun _ _ => rfl⟩
  have hshortcut : SetBy kit "shortcut"
      (fun value => kit.keySequence (kit.toShortcut value).toText) Look.shortcut :=
    ⟨fun _ _ _ _ _ => (updateActionProperty_fields ..).2.2.2, htriggered fun _ _ => rfl⟩
  exact ⟨htext.shows ha es ha', henabled.shows ha es ha', hvisible.shows ha es ha',
    hshortcut.shows ha es ha'⟩

/-- A layout with two items that have icons. -/
def iconLayout : DBusMenuLayoutItem textKit :=
  .item 0 .empty [.item 1 ⟨[("icon-name", some "quit")], List.pairwise_singleton _ _⟩ [],
    .item 2 ⟨[("icon-name", some "help")], List.pairwise_singleton _ _⟩ []]

/-- A menu with the two items of `iconLayout`. -/
def withIcons : Importer textKit :=
  (create textKit .light).step (.getLayoutFinished 0 (some (1, iconLayout)))

theorem shows_last_told_label :
    let s := run step withIcons
      [.itemsPropertiesUpdated [⟨1, [("label", some "_Quit")], List.pairwise_singleton _ _⟩] []]
    (s.actions.find 0).map (fun a => a.look.text) = some "&Quit".toList := by
  intro s
  obtain ⟨htext, -⟩ := @shows_last_told textKit withIcons
    [.itemsPropertiesUpdated [⟨1, [("label", some "_Quit")], List.pairwise_singleton _ _⟩] []]
    0 _ _ rfl rfl
  refine (congrArg some htext).trans ?_
  decide

/-! ## Icons of another theme -/

/-- What updates and activations keep is kept over a run; unless updates are forced at its start
or the theme changes in it, only unforced updates have to keep it. -/
theorem keeps_run {P : Look kit → Prop} (htriggered : ∀ look, P look → P (triggered look))
    (unforced : Prop) {r : ActionRef} {a' : Action kit} {es : List (Event kit)}
    (hr : r < s.actions.next)
    (hunforced : unforced → s.forceRefresh = false ∧
      ∀ e ∈ es, ∀ themeType, e ≠ .themeTypeChanged themeType)
    (hP : ∀ u ∈ s.toldThrough r es, ∀ theme force look, (unforced → force = false) → P look →
      P (updateActionProperty theme force look u.1 u.2))
    (ha' : (run step s es).actions.find r = some a') :
    ∃ a, s.actions.find r = some a ∧ (P a.look → P a'.look) := by
  induction es generalizing s with
  | nil => exact ⟨a', ha', id⟩
  | cons e es ih =>
    obtain ⟨hretells, hforce⟩ := retells_step hr e
    obtain ⟨a₁, ha₁, hrest⟩ := ih (hr.trans_le hretells.next)
      (fun h => ⟨hforce ((hunforced h).2 e List.mem_cons_self) (hunforced h).1,
        fun e' he' => (hunforced h).2 e' (List.mem_cons_of_mem _ he')⟩)
      (fun u hu => hP u (List.mem_append_right _ hu)) ha'
    obtain ⟨a, look, ha, hupdated, hlook⟩ := hretells.look a₁ ha₁
    refine ⟨a, ha, fun hbefore => hrest ?_⟩
    have hafter : P look := hupdated.keeps (fun u hu theme force look hallowed =>
      hP u (List.mem_append_left _ hu) theme force look fun h => hallowed (hunforced h).1) hbefore
    rcases hlook with hlook | hlook
    · rw [hlook]
      exact hafter
    · rw [hlook]
      exact htriggered look hafter

/-- A layout that lists the item of another action first forces no update of an action. -/
theorem replaceLayout_unforced {r : ActionRef} (hr : r < s.actions.next) (m : MenuRef)
    {layout first : DBusMenuLayoutItem kit} {rest : List (DBusMenuLayoutItem kit)}
    (hchildren : layout.children = first :: rest) (hfirst : s.actionForId first.id ≠ some r) :
    (∀ a', (s.replaceLayout m layout).actions.find r = some a' →
      ∃ a, s.actions.find r = some a ∧
        Updated (fun _ force => force = false) (s.toldBy r DBusMenuLayoutItem.id
          (fun item => requestedUpdates item.properties (filteredKeys item.properties))
          layout.children) a.look a'.look) ∧
      (s.replaceLayout m layout).forceRefresh = false := by
  obtain ⟨hactions, -, -⟩ := foldl_removeOutdated_spec layout.childIds (s.actionsOf m) s
  unfold replaceLayout
  dsimp only
  set s₁ := (s.actionsOf m).foldl (removeOutdated layout.childIds) s with hs₁
  have hentries (item : DBusMenuLayoutItem kit) (hitem : item ∈ layout.children) :
      s₁.actionForId item.id = some r ↔ s.actionForId item.id = some r := by
    have hlisted : item.id ∈ layout.childIds := List.mem_map_of_mem hitem
    rw [hs₁, actionForId_foldl_removeOutdated hlisted]
  have hr₁ : r < s₁.actions.next := hr.trans_eq (congrArg Store.next hactions.symm)
  rw [← toldBy_congr hentries, hchildren, List.foldl_cons]
  have hother : s₁.actionForId first.id ≠ some r := fun heq =>
    hfirst ((hentries first (hchildren ▸ List.mem_cons_self)).mp heq)
  have hone := telling_insertOrUpdate m s₁ first hr₁
  rw [if_neg hother] at hone
  have hcleared : (insertOrUpdate m s₁ first).forceRefresh = false := by
    rcases insertOrUpdate_cases m s₁ first with ⟨-, heq⟩ | ⟨r', -, heq⟩
    · rw [heq]
      rfl
    · rw [heq]
      rfl
  have hrest := telling_foldl (fun s item hr => telling_insertOrUpdate m s item hr)
    (hr₁.trans_le hone.next) rest
  refine ⟨fun a' ha' => ?_, hrest.force hcleared⟩
  obtain ⟨a₂, ha₂, hupdated⟩ := hrest.tells a' ha'
  obtain ⟨a, ha, hsame⟩ := hone.tells a₂ ha₂
  refine ⟨a, hactions ▸ ha, ?_⟩
  have hdropped : s₁.toldBy r DBusMenuLayoutItem.id
      (fun item => requestedUpdates item.properties (filteredKeys item.properties))
      (first :: rest) = s₁.toldBy r DBusMenuLayoutItem.id
      (fun item => requestedUpdates item.properties (filteredKeys item.properties)) rest := by
    unfold toldBy
    rw [List.filter_cons, if_neg (by rwa [decide_eq_true_iff])]
  rw [hdropped, ← toldBy_congr fun item _ => hone.entries item.id]
  have heq : a₂.look = a.look := hsame
  rw [← heq]
  exact hupdated.mono fun _ _ hallowed => hallowed hcleared

theorem next_run {r : ActionRef} (hr : r < s.actions.next) (es : List (Event kit)) :
    r < (run step s es).actions.next :=
  run_invariant (I := fun s : Importer kit => r < s.actions.next)
    (fun _ e hr => hr.trans_le (retells_step hr e).1.next) es hr

/-- An update that is not forced keeps the icon, if it is not of the data and keeps the name. -/
theorem updateActionProperty_icon (theme : ThemeType) (look : Look kit) (key : String)
    (value : kit.Variant) (hdata : key ≠ "icon-data")
    (hname : key = "icon-name" → kit.toString value = look.iconName) :
    (updateActionProperty theme false look key value).icon = look.icon ∧
      (updateActionProperty theme false look key value).iconName = look.iconName := by
  by_cases hkey : key = "icon-name"
  · subst hkey
    change (updateActionIconByName theme false look value).icon = _ ∧
      (updateActionIconByName theme false look value).iconName = _
    unfold updateActionIconByName
    rw [hname rfl]
    dsimp only
    rw [if_pos (by rw [decide_eq_true rfl]; rfl)]
    exact ⟨rfl, rfl⟩
  · unfold updateActionProperty updateActionChecked
    split_ifs <;> exact ⟨rfl, rfl⟩

/-- A layout that lists another item first uses up the refresh that a change of the theme forces:
as long as the theme does not change again and its item has the same icon name, the icon of an
action stays the one of the old theme. -/
theorem icon_not_reloaded (s : Importer kit) {r : ActionRef} {a a' : Action kit}
    (ha : s.actions.find r = some a) {before after : List (Event kit)} {parentId : ℤ}
    {revision : ℕ} {layout first : DBusMenuLayoutItem kit} {rest : List (DBusMenuLayoutItem kit)}
    (hbefore : s.toldThrough r before = [])
    (hm : (run step s before).menuForId parentId ≠ none)
    (hchildren : layout.children = first :: rest)
    (hfirst : (run step s before).actionForId first.id ≠ some r)
    (hafter : ∀ e ∈ after, ∀ themeType, e ≠ .themeTypeChanged themeType)
    (hsame : ∀ u ∈ (run step s before).toldThrough r
      (.getLayoutFinished parentId (some (revision, layout)) :: after),
        u.1 ≠ "icon-data" ∧ (u.1 = "icon-name" → kit.toString u.2 = a.look.iconName))
    (ha' : (run step s (before ++
      .getLayoutFinished parentId (some (revision, layout)) :: after)).actions.find r = some a') :
    a'.look.icon = a.look.icon := by
  let P (look : Look kit) : Prop := look.icon = a.look.icon ∧ look.iconName = a.look.iconName
  have htriggered (look : Look kit) (h : P look) : P (triggered look) := by
    obtain ⟨checked, heq⟩ := triggered_eq look
    rw [heq]
    exact h
  have hupdate (u : String × kit.Variant)
      (hu : u.1 ≠ "icon-data" ∧ (u.1 = "icon-name" → kit.toString u.2 = a.look.iconName))
      (theme : ThemeType) (force : Bool) (look : Look kit) (hforce : force = false)
      (h : P look) : P (updateActionProperty theme force look u.1 u.2) := by
    obtain ⟨hicon, hname⟩ := updateActionProperty_icon theme look u.1 u.2 hu.1
      fun hkey => (hu.2 hkey).trans h.2.symm
    rw [hforce]
    exact ⟨hicon.trans h.1, hname.trans h.2⟩
  rw [run_append, run_cons] at ha'
  have hr := Store.lt_of_find ha
  have hr₁ := next_run hr before
  -- Nothing is told before the layout, so that it does not matter what is forced.
  have hfirstPart {a₁ : Action kit} (ha₁ : (run step s before).actions.find r = some a₁) :
      P a₁.look := by
    obtain ⟨a₀, ha₀, hkeeps⟩ := keeps_run (P := P) htriggered False hr False.elim
      (by rw [hbefore]; exact nofun) ha₁
    obtain rfl : a = a₀ := Option.some.inj (ha.symm.trans ha₀)
    exact hkeeps ⟨rfl, rfl⟩
  obtain ⟨m, hm⟩ := Option.ne_none_iff_exists'.mp hm
  obtain ⟨hlayout, hunforced⟩ := replaceLayout_unforced hr₁ m hchildren hfirst
  have hstep : (run step s before).step (.getLayoutFinished parentId (some (revision, layout))) =
      ((run step s before).replaceLayout m layout).emit (.menuUpdated m) := by
    change slotGetLayoutFinished _ parentId _ = _
    unfold slotGetLayoutFinished
    rw [hm]
  have htold : (run step s before).told r (.getLayoutFinished parentId (some (revision, layout))) =
      (run step s before).toldBy r DBusMenuLayoutItem.id
        (fun item => requestedUpdates item.properties (filteredKeys item.properties))
        layout.children := if_neg (by rw [hm]; exact nofun)
  obtain ⟨a₂, ha₂, hlast⟩ := keeps_run (P := P) htriggered True
    (hr₁.trans_le (retells_step hr₁ _).1.next) (fun _ => ⟨by rw [hstep]; exact hunforced, hafter⟩)
    (fun u hu theme force look hforce =>
      hupdate u (hsame u (List.mem_append_right _ hu)) theme force look (hforce trivial)) ha'
  rw [hstep] at ha₂
  obtain ⟨a₁, ha₁, hupdated⟩ := hlayout a₂ ha₂
  have hmiddle : P a₂.look := hupdated.keeps (fun u hu => hupdate u
    (hsame u (List.mem_append_left _ (htold ▸ hu)))) (hfirstPart ha₁)
  exact (hlast hmiddle).1

theorem icon_not_reloaded_second :
    let s := run step withIcons
      [.themeTypeChanged .dark, .getLayoutFinished 0 (some (1, iconLayout))]
    (s.actions.find 1).map (fun a => a.look.icon) = some "help-dark" := by
  intro s
  have hicon := @icon_not_reloaded textKit withIcons 1 _ _ rfl [.themeTypeChanged .dark] [] 0 1
    iconLayout _ _ rfl nofun rfl (by decide) nofun ?_ rfl
  · exact congrArg some hicon
  · intro u hu
    obtain rfl : u = ("icon-name", some "help") := List.mem_singleton.mp hu
    exact ⟨by decide, fun _ => rfl⟩

end Importer

end DdeTrayLoader.DBusMenu
