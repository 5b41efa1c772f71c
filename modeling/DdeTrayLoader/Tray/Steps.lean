import DdeTrayLoader.Tray.TraySystem

/-!
# What the steps of the tray do

One lemma for each function of the protocols: which items are registered after it, for which
processes, and what it leaves alone. The loops over lists of items are described by what
they do to all items at once.
-/

namespace DdeTrayLoader.Tray

open Transition

namespace TraySystem

variable (session : Session)

/-- The process of the window that has the id now. -/
def pidNow (session : Session) (t : TraySystem) (window : Window) : ℕ :=
  session.windowPid window (t.handlers.destroyed window)

/-- The icon's process is not marked as shown by an SNI item. -/
def Takes (session : Session) (t : TraySystem) (window : Window) : Prop :=
  t.registeredMap (t.pidNow session window) ≠ .SNI

/-- An icon is registered already, or is suppressed, or becomes registered. -/
theorem addXembedItem_cases (t : TraySystem) (window : Window) :
    (window ∈ t.xembed.keys ∧ t.addXembedItem session window = t) ∨
    (window ∉ t.xembed.keys ∧ ¬t.Takes session window ∧
      t.addXembedItem session window =
        { t with handlers := (t.handlers.construct window).destruct t.handlers.next }) ∨
    (window ∉ t.xembed.keys ∧ t.Takes session window ∧
      t.addXembedItem session window =
        { t with
          handlers := t.handlers.construct window
          registeredMap := Function.update t.registeredMap (t.pidNow session window) .XEMBED
          xembed := t.xembed.insert window t.handlers.next (t.pidNow session window) }) := by
  unfold addXembedItem
  by_cases hmem : window ∈ t.xembed.keys
  · exact .inl ⟨hmem, if_pos hmem⟩
  rw [if_neg hmem]
  by_cases hmarked : t.registeredMap (t.pidNow session window) = .SNI
  · exact .inr (.inl ⟨hmem, not_not_intro hmarked, if_pos hmarked⟩)
  · exact .inr (.inr ⟨hmem, hmarked, if_neg hmarked⟩)

/-- A gone icon loses its handler. -/
theorem removeGoneItem_cases (current : List Window) (t : TraySystem) (window : Window) :
    ((window ∈ current ∨ window ∉ t.xembed.keys) ∧ t.removeGoneItem current window = t) ∨
    ∃ ref, window ∉ current ∧ t.xembed.value window = some ref ∧
      t.removeGoneItem current window =
        { t with
          xembed := t.xembed.remove window
          handlers := (t.handlers.invalidate ref).destruct ref
          registeredMap := Function.update t.registeredMap (t.xembed.pid window) .UNKNOWN } := by
  unfold removeGoneItem
  split_ifs with hmem
  · exact .inl ⟨.inl hmem, rfl⟩
  · cases hvalue : t.xembed.value window with
    | none =>
      refine .inl ⟨.inr fun hkey => ?_, rfl⟩
      obtain ⟨ref, href⟩ := (t.xembed.mem_keys_iff).mp hkey
      rw [hvalue] at href
      cases href
    | some ref => exact .inr ⟨ref, hmem, rfl, rfl⟩

/-- What a sync and its parts leave alone. -/
structure SyncFrame (t t' : TraySystem) : Prop where
  watcher : t'.watcher = t.watcher
  read : t'.read = t.read
  sni : t'.sni = t.sni
  creations : t'.creations = t.creations
  icons : t'.icons = t.icons
  signals : t'.signals = t.signals
  timers : t'.timers = t.timers
  destroyed : t'.handlers.destroyed = t.handlers.destroyed
  indicator : t'.indicator = t.indicator

theorem SyncFrame.refl (t : TraySystem) : SyncFrame t t :=
  ⟨rfl, rfl, rfl, rfl, rfl, rfl, rfl, rfl, rfl⟩

theorem SyncFrame.trans {t t' t'' : TraySystem} (h : SyncFrame t t') (h' : SyncFrame t' t'') :
    SyncFrame t t'' where
  watcher := h'.watcher.trans h.watcher
  read := h'.read.trans h.read
  sni := h'.sni.trans h.sni
  creations := h'.creations.trans h.creations
  icons := h'.icons.trans h.icons
  signals := h'.signals.trans h.signals
  timers := h'.timers.trans h.timers
  destroyed := h'.destroyed.trans h.destroyed
  indicator := h'.indicator.trans h.indicator

theorem addXembedItem_frame (t : TraySystem) (window : Window) :
    SyncFrame t (t.addXembedItem session window) := by
  rcases t.addXembedItem_cases session window with
    ⟨-, heq⟩ | ⟨-, -, heq⟩ | ⟨-, -, heq⟩ <;> rw [heq]
  · exact .refl t
  · exact ⟨rfl, rfl, rfl, rfl, rfl, rfl, rfl, (Handlers.destruct_frame _ _).destroyed, rfl⟩
  · exact ⟨rfl, rfl, rfl, rfl, rfl, rfl, rfl, rfl, rfl⟩

theorem removeGoneItem_frame (current : List Window) (t : TraySystem) (window : Window) :
    SyncFrame t (t.removeGoneItem current window) := by
  rcases t.removeGoneItem_cases current window with ⟨-, heq⟩ | ⟨ref, -, -, heq⟩ <;> rw [heq]
  · exact .refl t
  · have hinvalidate := t.handlers.invalidate_frame ref
    have hdestruct := (t.handlers.invalidate ref).destruct_frame ref
    exact ⟨rfl, rfl, rfl, rfl, rfl, rfl, rfl,
      hdestruct.destroyed.trans hinvalidate.destroyed, rfl⟩

/-- Registering icons marks no process as shown by an SNI item, and unmarks none. -/
theorem addXembedItem_marked (t : TraySystem) (window : Window) (pid : ℕ) :
    (t.addXembedItem session window).registeredMap pid = .SNI ↔ t.registeredMap pid = .SNI := by
  rcases t.addXembedItem_cases session window with
    ⟨-, heq⟩ | ⟨-, -, heq⟩ | ⟨-, htakes, heq⟩ <;> rw [heq]
  dsimp only
  rw [Function.update_apply]
  split_ifs with hpid
  · rw [hpid]
    exact ⟨nofun, fun hmarked => absurd hmarked htakes⟩
  · rfl

theorem addXembedItem_takes (t : TraySystem) (window window' : Window) :
    (t.addXembedItem session window).Takes session window' ↔ t.Takes session window' := by
  unfold Takes pidNow
  rw [(addXembedItem_frame session t window).destroyed, not_iff_not]
  exact addXembedItem_marked session t window _

theorem addXembedItem_keys (t : TraySystem) (window window' : Window) :
    window' ∈ (t.addXembedItem session window).xembed.keys ↔
      window' ∈ t.xembed.keys ∨ window' = window ∧ t.Takes session window' := by
  rcases t.addXembedItem_cases session window with
    ⟨hmem, heq⟩ | ⟨-, hsuppressed, heq⟩ | ⟨-, htakes, heq⟩ <;> rw [heq]
  · refine ⟨.inl, fun h => h.elim id ?_⟩
    intro hboth
    obtain ⟨rfl, -⟩ := hboth
    exact hmem
  · refine ⟨.inl, fun h => h.elim id ?_⟩
    intro hboth
    obtain ⟨rfl, htakes⟩ := hboth
    exact absurd htakes hsuppressed
  · rw [Registered.mem_keys_insert]
    constructor
    · intro hcase
      rcases hcase with rfl | hmem
      · exact .inr ⟨rfl, htakes⟩
      · exact .inl hmem
    · intro hcase
      rcases hcase with hmem | ⟨rfl, -⟩
      · exact .inr hmem
      · exact .inl rfl

/-- A registered icon keeps its process, and a new one gets that of the window. -/
theorem addXembedItem_pid (t : TraySystem) (window window' : Window)
    (hmem : window' ∈ (t.addXembedItem session window).xembed.keys) :
    (t.addXembedItem session window).xembed.pid window' =
      if window' ∈ t.xembed.keys then t.xembed.pid window' else t.pidNow session window' := by
  rcases t.addXembedItem_cases session window with
    ⟨-, heq⟩ | ⟨-, -, heq⟩ | ⟨hnew, -, heq⟩ <;> rw [heq] at hmem ⊢
  · rw [if_pos hmem]
  · rw [if_pos hmem]
  · rw [Registered.pid_insert]
    by_cases hwindow : window' = window
    · rw [hwindow, if_pos rfl, if_neg hnew]
    · rw [if_neg hwindow, if_pos (((Registered.mem_keys_insert _).mp hmem).resolve_left hwindow)]

/-- The icons of a list become registered, unless they are suppressed. -/
theorem run_addXembedItem (t : TraySystem) (icons : List Window) :
    SyncFrame t (run (addXembedItem session) t icons) ∧
    (∀ pid, (run (addXembedItem session) t icons).registeredMap pid = .SNI ↔
      t.registeredMap pid = .SNI) ∧
    (∀ window, window ∈ (run (addXembedItem session) t icons).xembed.keys ↔
      window ∈ t.xembed.keys ∨ window ∈ icons ∧ t.Takes session window) ∧
    ∀ window ∈ (run (addXembedItem session) t icons).xembed.keys,
      (run (addXembedItem session) t icons).xembed.pid window =
        if window ∈ t.xembed.keys then t.xembed.pid window else t.pidNow session window := by
  induction icons generalizing t with
  | nil =>
    rw [run_nil]
    exact ⟨.refl t, fun _ => Iff.rfl, fun window => by simp, fun window hmem => (if_pos hmem).symm⟩
  | cons icon icons ih =>
    obtain ⟨hframe, hmarked, hkeys, hpid⟩ := ih (t.addXembedItem session icon)
    have hstep := addXembedItem_frame session t icon
    rw [run_cons]
    refine ⟨hstep.trans hframe, fun pid => ?_, fun window => ?_, fun window hmem => ?_⟩
    · rw [hmarked, addXembedItem_marked]
    · rw [hkeys, addXembedItem_keys, addXembedItem_takes, List.mem_cons, or_assoc, ← or_and_right]
    · rw [hpid window hmem]
      have hnow : (t.addXembedItem session icon).pidNow session window =
          t.pidNow session window := by
        unfold pidNow
        rw [hstep.destroyed]
      rw [hnow]
      by_cases hold : window ∈ (t.addXembedItem session icon).xembed.keys
      · rw [if_pos hold, addXembedItem_pid session t icon window hold]
      · rw [if_neg hold, if_neg]
        exact fun hmem => hold ((addXembedItem_keys session t icon window).mpr (.inl hmem))

theorem removeGoneItem_keys (current : List Window) (t : TraySystem) (window window' : Window) :
    window' ∈ (t.removeGoneItem current window).xembed.keys ↔
      window' ∈ t.xembed.keys ∧ ¬(window' = window ∧ window' ∉ current) := by
  rcases t.removeGoneItem_cases current window with ⟨hkept, heq⟩ | ⟨ref, hgone, -, heq⟩ <;> rw [heq]
  · exact Registered.mem_keys_of_kept hkept
  · exact Registered.mem_keys_remove_gone hgone

theorem removeGoneItem_pid (current : List Window) (t : TraySystem) (window window' : Window)
    (hmem : window' ∈ (t.removeGoneItem current window).xembed.keys) :
    (t.removeGoneItem current window).xembed.pid window' = t.xembed.pid window' := by
  rcases t.removeGoneItem_cases current window with ⟨-, heq⟩ | ⟨ref, -, -, heq⟩ <;>
    rw [heq] at hmem ⊢
  exact Registered.pid_remove_of_ne _ ((Registered.mem_keys_remove _).mp hmem).1

theorem removeGoneItem_marked (current : List Window) (t : TraySystem) (window : Window)
    (pid : ℕ) (hmarked : (t.removeGoneItem current window).registeredMap pid = .SNI) :
    t.registeredMap pid = .SNI := by
  rcases t.removeGoneItem_cases current window with ⟨-, heq⟩ | ⟨ref, -, -, heq⟩ <;>
    rw [heq] at hmarked
  · exact hmarked
  · dsimp only at hmarked
    rw [Function.update_apply] at hmarked
    split_ifs at hmarked
    exact hmarked

/-- The items of a list that are gone are no longer registered, and the others are as before. -/
theorem run_removeGoneItem (current : List Window) (t : TraySystem) (items : List Window) :
    SyncFrame t (run (removeGoneItem current) t items) ∧
    (∀ pid, (run (removeGoneItem current) t items).registeredMap pid = .SNI →
      t.registeredMap pid = .SNI) ∧
    (∀ window, window ∈ (run (removeGoneItem current) t items).xembed.keys ↔
      window ∈ t.xembed.keys ∧ ¬(window ∈ items ∧ window ∉ current)) ∧
    ∀ window ∈ (run (removeGoneItem current) t items).xembed.keys,
      (run (removeGoneItem current) t items).xembed.pid window = t.xembed.pid window := by
  induction items generalizing t with
  | nil => exact ⟨.refl t, fun _ => id, fun window => by simp, fun _ _ => rfl⟩
  | cons item items ih =>
    obtain ⟨hframe, hmarked, hkeys, hpid⟩ := ih (t.removeGoneItem current item)
    rw [run_cons]
    refine ⟨(removeGoneItem_frame current t item).trans hframe, fun pid h => ?_,
      fun window => ?_, fun window hmem => ?_⟩
    · exact removeGoneItem_marked current t item pid (hmarked pid h)
    · rw [hkeys, removeGoneItem_keys, List.mem_cons]
      tauto
    · rw [hpid window hmem]
      exact removeGoneItem_pid current t item window ((hkeys window).mp hmem).1

/-- After a sync the registered icons are those TrayManager1 lists, except that an icon that
was not registered before is suppressed when its process is marked as shown by an SNI item. -/
theorem syncTrayIcons_spec (t : TraySystem) (listed order : HashOrder Window)
    (htimers : 0 < t.timers) :
    SyncFrame { t with timers := t.timers - 1 } (t.syncTrayIcons session listed order) ∧
    (∀ pid, (t.syncTrayIcons session listed order).registeredMap pid = .SNI →
      t.registeredMap pid = .SNI) ∧
    (∀ window, window ∈ (t.syncTrayIcons session listed order).xembed.keys ↔
      window ∈ t.icons ∧ (window ∈ t.xembed.keys ∨ t.Takes session window)) ∧
    ∀ window ∈ (t.syncTrayIcons session listed order).xembed.keys,
      (t.syncTrayIcons session listed order).xembed.pid window =
        if window ∈ t.xembed.keys then t.xembed.pid window else t.pidNow session window := by
  have hicons (window : Window) : window ∈ listed.list t.icons.keys ↔ window ∈ t.icons := by
    rw [listed.mem_list, AList.mem_keys]
  unfold syncTrayIcons
  rw [if_neg htimers.ne']
  dsimp only
  split_ifs with hsame
  · have hmem (window : Window) : window ∈ t.icons ↔ window ∈ t.xembed.keys := by
      rw [← hicons, hsame, order.mem_list]
    refine ⟨.refl _, fun _ => id, fun window => ?_, fun window hkey => (if_pos hkey).symm⟩
    rw [hmem]
    exact ⟨fun hkey => ⟨hkey, .inl hkey⟩, And.left⟩
  · obtain ⟨hframe, hmarked, hkeys, hpid⟩ := run_addXembedItem session
      { t with timers := t.timers - 1 } (listed.list t.icons.keys)
    generalize run (addXembedItem session) _ _ = added at *
    obtain ⟨hframe', hmarked', hkeys', hpid'⟩ := run_removeGoneItem
      (listed.list t.icons.keys) added (order.list added.xembed.keys)
    refine ⟨hframe.trans hframe', fun pid h => (hmarked pid).mp (hmarked' pid h),
      fun window => ?_, fun window hmem => ?_⟩
    · rw [hkeys', order.mem_list, hkeys, hicons]
      change _ ↔ _ ∧ (_ ∨ Takes session { t with timers := t.timers - 1 } window)
      tauto
    · rw [hpid' window hmem, hpid window ((hkeys' window).mp hmem).1]
      rfl

/-- What `registedItemChanged` and its parts leave alone. -/
structure ListFrame (t t' : TraySystem) : Prop where
  watcher : t'.watcher = t.watcher
  read : t'.read = t.read
  icons : t'.icons = t.icons
  signals : t'.signals = t.signals
  timers : t'.timers = t.timers
  xembed : t'.xembed = t.xembed
  handlers : t'.handlers = t.handlers
  indicator : t'.indicator = t.indicator

theorem ListFrame.refl (t : TraySystem) : ListFrame t t :=
  ⟨rfl, rfl, rfl, rfl, rfl, rfl, rfl, rfl⟩

theorem ListFrame.trans {t t' t'' : TraySystem} (h : ListFrame t t') (h' : ListFrame t' t'') :
    ListFrame t t'' where
  watcher := h'.watcher.trans h.watcher
  read := h'.read.trans h.read
  icons := h'.icons.trans h.icons
  signals := h'.signals.trans h.signals
  timers := h'.timers.trans h.timers
  xembed := h'.xembed.trans h.xembed
  handlers := h'.handlers.trans h.handlers
  indicator := h'.indicator.trans h.indicator

/-- The items of a list that have no handler are pending, with a creation in flight. -/
theorem run_startCreation (t : TraySystem) (items : List String) :
    ListFrame t (run startCreation t items) ∧
    (run startCreation t items).registeredMap = t.registeredMap ∧
    (run startCreation t items).sni.items = t.sni.items ∧
    (∀ item, item ∈ (run startCreation t items).sni.pendingItems ↔
      item ∈ t.sni.pendingItems ∨ item ∈ items ∧ item ∉ t.sni.items.keys) ∧
    ∀ item, item ∈ t.creations ∨ item ∉ t.sni.pendingItems ∧
        item ∈ (run startCreation t items).sni.pendingItems →
      item ∈ (run startCreation t items).creations := by
  induction items generalizing t with
  | nil =>
    refine ⟨.refl t, rfl, rfl, fun item => by simp, fun item h => h.elim id ?_⟩
    exact fun hnew => absurd hnew.2 hnew.1
  | cons first items ih =>
    have hrest := ih (t.startCreation first)
    rw [run_cons]
    by_cases hnew : first ∉ t.sni.items.keys ∧ first ∉ t.sni.pendingItems
    · have hstart : t.startCreation first = { t with
          sni := { t.sni with pendingItems := insert first t.sni.pendingItems }
          creations := t.creations ++ [first] } := if_pos hnew
      rw [hstart] at hrest ⊢
      obtain ⟨hframe, hmap, hitems, hpending, hcreations⟩ := hrest
      refine ⟨{ hframe with }, hmap, hitems, fun item => ?_,
        fun item h => hcreations item ?_⟩
      · rw [hpending, Finset.mem_insert, List.mem_cons]
        by_cases hfirst : item = first
        · simp [hfirst, hnew.1]
        · simp [hfirst]
      · rw [Finset.mem_insert, List.mem_append, List.mem_singleton]
        by_cases hfirst : item = first
        · exact .inl (.inr hfirst)
        · exact h.imp .inl fun ⟨hold, hlater⟩ => ⟨fun h => h.elim hfirst hold, hlater⟩
    · rw [show t.startCreation first = t from if_neg hnew] at hrest ⊢
      obtain ⟨hframe, hmap, hitems, hpending, hcreations⟩ := hrest
      refine ⟨hframe, hmap, hitems, fun item => ?_, hcreations⟩
      rw [hpending, List.mem_cons]
      by_cases hfirst : item = first
      · subst hfirst
        simp only [not_and_or, not_not] at hnew
        tauto
      · simp [hfirst]

/-- A gone SNI item loses its handler, and its process the mark. -/
theorem removeSniItem_cases (current : List String) (t : TraySystem) (item : String) :
    ((item ∈ current ∨ item ∉ t.sni.items.keys) ∧ t.removeSniItem current item = t) ∨
    (item ∉ current ∧ item ∈ t.sni.items.keys ∧
      t.removeSniItem current item =
        { t with
          sni := { t.sni with items := t.sni.items.remove item }
          registeredMap := Function.update t.registeredMap (t.sni.items.pid item) .UNKNOWN }) := by
  unfold removeSniItem
  split_ifs with hmem
  · exact .inl ⟨.inl hmem, rfl⟩
  · cases hvalue : t.sni.items.value item with
    | none =>
      refine .inl ⟨.inr fun hkey => ?_, rfl⟩
      obtain ⟨handler, hhandler⟩ := (t.sni.items.mem_keys_iff).mp hkey
      rw [hvalue] at hhandler
      cases hhandler
    | some handler => exact .inr ⟨hmem, (t.sni.items.mem_keys_iff).mpr ⟨handler, hvalue⟩, rfl⟩

theorem removeSniItem_frame (current : List String) (t : TraySystem) (item : String) :
    ListFrame t (t.removeSniItem current item) ∧
    (t.removeSniItem current item).creations = t.creations ∧
    (t.removeSniItem current item).sni.pendingItems = t.sni.pendingItems := by
  rcases t.removeSniItem_cases current item with ⟨-, heq⟩ | ⟨-, -, heq⟩ <;> rw [heq]
  · exact ⟨.refl t, rfl, rfl⟩
  · exact ⟨⟨rfl, rfl, rfl, rfl, rfl, rfl, rfl, rfl⟩, rfl, rfl⟩

theorem removeSniItem_keys (current : List String) (t : TraySystem) (item item' : String) :
    item' ∈ (t.removeSniItem current item).sni.items.keys ↔
      item' ∈ t.sni.items.keys ∧ ¬(item' = item ∧ item' ∉ current) := by
  rcases t.removeSniItem_cases current item with ⟨hkept, heq⟩ | ⟨hgone, -, heq⟩ <;> rw [heq]
  · exact Registered.mem_keys_of_kept hkept
  · exact Registered.mem_keys_remove_gone hgone

theorem removeSniItem_pid (current : List String) (t : TraySystem) (item item' : String)
    (hmem : item' ∈ (t.removeSniItem current item).sni.items.keys) :
    (t.removeSniItem current item).sni.items.pid item' = t.sni.items.pid item' := by
  rcases t.removeSniItem_cases current item with ⟨-, heq⟩ | ⟨-, -, heq⟩ <;> rw [heq] at hmem ⊢
  exact Registered.pid_remove_of_ne _ ((Registered.mem_keys_remove _).mp hmem).1

theorem removeSniItem_marked (current : List String) (t : TraySystem) (item : String) (pid : ℕ) :
    (t.removeSniItem current item).registeredMap pid = .SNI ↔ t.registeredMap pid = .SNI ∧
      (item ∈ t.sni.items.keys → item ∉ current → t.sni.items.pid item ≠ pid) := by
  rcases t.removeSniItem_cases current item with ⟨hkept, heq⟩ | ⟨hgone, hkey, heq⟩ <;> rw [heq]
  · refine (and_iff_left ?_).symm
    intro hkey hgone
    exact hkept.elim (absurd · hgone) (absurd hkey)
  · dsimp only
    rw [Function.update_apply]
    split_ifs with hpid
    · refine ⟨fun hmark => ?_, fun h => absurd hpid.symm (h.2 hkey hgone)⟩
      cases hmark
    · exact (and_iff_left fun _ _ => Ne.symm hpid).symm

/-- The items of a list that are gone are no longer registered, and neither is the mark of
their processes. -/
theorem run_removeSniItem (current : List String) (t : TraySystem) (items : List String) :
    ListFrame t (run (removeSniItem current) t items) ∧
    (run (removeSniItem current) t items).creations = t.creations ∧
    (run (removeSniItem current) t items).sni.pendingItems = t.sni.pendingItems ∧
    (∀ item, item ∈ (run (removeSniItem current) t items).sni.items.keys ↔
      item ∈ t.sni.items.keys ∧ ¬(item ∈ items ∧ item ∉ current)) ∧
    (∀ item ∈ (run (removeSniItem current) t items).sni.items.keys,
      (run (removeSniItem current) t items).sni.items.pid item = t.sni.items.pid item) ∧
    ∀ pid, (run (removeSniItem current) t items).registeredMap pid = .SNI ↔
      t.registeredMap pid = .SNI ∧
        ∀ item ∈ t.sni.items.keys, item ∈ items → item ∉ current → t.sni.items.pid item ≠ pid := by
  induction items generalizing t with
  | nil => exact ⟨.refl t, rfl, rfl, fun item => by simp, fun _ _ => rfl, fun pid => by simp⟩
  | cons first items ih =>
    obtain ⟨hframe, hcreations, hpending, hkeys, hpid, hmarked⟩ :=
      ih (t.removeSniItem current first)
    obtain ⟨hframe', hcreations', hpending'⟩ := removeSniItem_frame current t first
    rw [run_cons]
    refine ⟨hframe'.trans hframe, hcreations.trans hcreations', hpending.trans hpending',
      fun item => ?_, fun item hmem => ?_, fun pid => ?_⟩
    · rw [hkeys, removeSniItem_keys, List.mem_cons]
      tauto
    · rw [hpid item hmem]
      exact removeSniItem_pid current t first item ((hkeys item).mp hmem).1
    · rw [hmarked, removeSniItem_marked, and_assoc]
      apply and_congr_right
      intro _
      constructor
      · intro h item hkey hmem hgone
        by_cases hfirst : item = first
        · subst hfirst
          exact h.1 hkey hgone
        · have hkept := (removeSniItem_keys current t first item).mpr ⟨hkey, fun h => hfirst h.1⟩
          rw [← removeSniItem_pid current t first item hkept]
          exact h.2 item hkept ((List.mem_cons.mp hmem).resolve_left hfirst) hgone
      · intro h
        refine ⟨fun hkey => h first hkey List.mem_cons_self, fun item hkept hmem hgone => ?_⟩
        rw [removeSniItem_pid current t first item hkept]
        exact h item ((removeSniItem_keys current t first item).mp hkept).1
          (List.mem_cons_of_mem _ hmem) hgone

/-- After `registedItemChanged` only items of the watcher's list are registered, and a process
that lost an item is not marked; what is pending is the rest of the list, unless the list was
the same as the registered items. -/
theorem registedItemChanged_spec (t : TraySystem) (order : HashOrder String) :
    ListFrame { t with read := true } (t.registedItemChanged order) ∧
    (∀ item, item ∈ (t.registedItemChanged order).sni.items.keys ↔
      item ∈ t.sni.items.keys ∧ item ∈ t.watcher) ∧
    (∀ item ∈ (t.registedItemChanged order).sni.items.keys,
      (t.registedItemChanged order).sni.items.pid item = t.sni.items.pid item) ∧
    (∀ pid, (t.registedItemChanged order).registeredMap pid = .SNI ↔
      t.registeredMap pid = .SNI ∧
        ∀ item ∈ t.sni.items.keys, item ∉ t.watcher → t.sni.items.pid item ≠ pid) ∧
    (∀ item, item ∈ (t.registedItemChanged order).sni.pendingItems ↔
      if t.watcher = order.list t.sni.items.keys then item ∈ t.sni.pendingItems
      else item ∈ t.watcher ∧ (item ∈ t.sni.pendingItems ∨ item ∉ t.sni.items.keys)) ∧
    ∀ item, item ∈ t.creations ∨ item ∉ t.sni.pendingItems ∧
        item ∈ (t.registedItemChanged order).sni.pendingItems →
      item ∈ (t.registedItemChanged order).creations := by
  unfold registedItemChanged
  dsimp only
  split_ifs with hsame
  · have hmem (item : String) : item ∈ t.watcher ↔ item ∈ t.sni.items.keys := by
      rw [hsame, order.mem_list]
    refine ⟨.refl _, fun item => ?_, fun _ _ => rfl, fun pid => ?_, fun _ => Iff.rfl,
      fun item h => h.elim id fun hnew => absurd hnew.2 hnew.1⟩
    · rw [hmem]
      exact (and_self_iff).symm
    · refine (and_iff_left fun item hkey hgone => ?_).symm
      exact absurd ((hmem item).mpr hkey) hgone
  · obtain ⟨hframe, hmap, hitems, hpending, hcreations⟩ :=
      run_startCreation { t with read := true } t.watcher
    generalize run startCreation _ _ = started at *
    obtain ⟨hframe', hcreations', hpending', hkeys, hpid, hmarked⟩ :=
      run_removeSniItem t.watcher started (order.list started.sni.items.keys)
    have hlist (item : String) :
        item ∈ order.list started.sni.items.keys ↔ item ∈ t.sni.items.keys := by
      rw [order.mem_list, hitems]
    refine ⟨{ hframe.trans hframe' with }, fun item => ?_,
      fun item hmem => ?_, fun pid => ?_, fun item => ?_, fun item h => ?_⟩
    · rw [hkeys, hlist, hitems]
      tauto
    · rw [hpid item hmem, hitems]
    · rw [hmarked, hmap, hitems]
      apply and_congr_right
      intro _
      apply forall₂_congr
      intro item hitem
      rw [order.mem_list]
      exact ⟨fun h => h hitem, fun h _ => h⟩
    · rw [Finset.mem_filter, hpending', hpending]
      tauto
    · rw [hcreations']
      refine hcreations item (h.imp id fun hnew => ⟨hnew.1, ?_⟩)
      rw [← hpending']
      exact (Finset.mem_filter.mp hnew.2).1

/-- The creation of this item completes: its handler is done and it is still pending. -/
def Completes (t : TraySystem) (item : String) : Prop :=
  item ∈ t.creations ∧ item ∈ t.sni.pendingItems

/-- The icon that loses its handler, and this handler, when an SNI item of the process is
registered. -/
def evicted (t : TraySystem) (order : HashOrder Window) (pid : ℕ) : Option (Window × ℕ) :=
  if t.registeredMap pid = .SNI then none
  else (t.firstOfPid order pid).bind fun window => (t.xembed.value window).map (window, ·)

/-- The state after the icon, if there is one, has lost its handler. -/
def withoutEvicted (t : TraySystem) : Option (Window × ℕ) → TraySystem
  | none => t
  | some (window, ref) => t.removeXembedItem window ref

/-- Unless the process is marked, `onRemoveItemByPid` drops the icon that is found. -/
theorem withoutEvicted_evicted (t : TraySystem) (order : HashOrder Window) (pid : ℕ) :
    (if t.registeredMap pid ≠ .SNI then t.onRemoveItemByPid order pid else t) =
      t.withoutEvicted (t.evicted order pid) := by
  unfold onRemoveItemByPid evicted
  by_cases hmarked : t.registeredMap pid = .SNI
  · rw [if_neg (not_not_intro hmarked), if_pos hmarked]
    rfl
  · rw [if_pos hmarked, if_neg hmarked]
    cases t.firstOfPid order pid with
    | none => rfl
    | some window =>
      rw [Option.bind_some]
      dsimp only
      cases t.xembed.value window with
      | none => rfl
      | some ref => rfl

/-- The icon found for a process is a registered one of it. -/
theorem evicted_eq_some {t : TraySystem} {order : HashOrder Window} {pid : ℕ} {window : Window}
    {ref : ℕ} (h : t.evicted order pid = some (window, ref)) :
    t.registeredMap pid ≠ .SNI ∧ window ∈ t.xembed.keys ∧ t.xembed.pid window = pid ∧
      t.xembed.value window = some ref := by
  unfold evicted at h
  split_ifs at h with hmarked
  obtain ⟨found, hfirst, hfound⟩ := Option.bind_eq_some_iff.mp h
  obtain ⟨_, hvalue, heq⟩ := Option.map_eq_some_iff.mp hfound
  obtain ⟨rfl, rfl⟩ := Prod.mk.inj heq
  have hmem := (order.mem_list).mp (List.mem_of_find?_eq_some hfirst)
  exact ⟨hmarked, hmem, by simpa using List.find?_some hfirst, hvalue⟩

/-- No icon is found only if the process has none, or is shown by an SNI item already. -/
theorem evicted_eq_none {t : TraySystem} {order : HashOrder Window} {pid : ℕ}
    (h : t.evicted order pid = none) :
    t.registeredMap pid = .SNI ∨ ∀ window ∈ t.xembed.keys, t.xembed.pid window ≠ pid := by
  unfold evicted at h
  split_ifs at h with hmarked
  · exact .inl hmarked
  right
  intro window hmem hpid
  cases hfound : t.firstOfPid order pid with
  | none =>
    have hnot := List.find?_eq_none.mp hfound window ((order.mem_list).mpr hmem)
    simp [hpid] at hnot
  | some found =>
    have hkey := (order.mem_list).mp (List.mem_of_find?_eq_some hfound)
    obtain ⟨ref, hvalue⟩ := (t.xembed.mem_keys_iff).mp hkey
    rw [hfound, Option.bind_some, hvalue] at h
    cases h

/-- Registering an SNI item marks its process, and drops the icon that is found for it. -/
theorem registerSniItem_eq (t : TraySystem) (item : String) (order : HashOrder Window) :
    t.registerSniItem session item order =
      { t.withoutEvicted (t.evicted order (session.itemPid item)) with
        registeredMap := Function.update t.registeredMap (session.itemPid item) .SNI
        sni := { t.sni with items := t.sni.items.insert item ⟨item⟩ (session.itemPid item) } } := by
  unfold registerSniItem
  dsimp only
  rw [withoutEvicted_evicted]
  cases t.evicted order (session.itemPid item) with
  | none => rfl
  | some found => rfl

/-- The end of a creation does nothing, finds its item cancelled, or registers it. -/
theorem handlerCreated_cases (t : TraySystem) (item : String) (order : HashOrder Window) :
    (item ∉ t.creations ∧ t.handlerCreated session item order = t) ∨
    (item ∈ t.creations ∧ item ∉ t.sni.pendingItems ∧
      t.handlerCreated session item order = { t with creations := t.creations.erase item }) ∨
    (t.Completes item ∧
      t.handlerCreated session item order =
        { t.withoutEvicted (t.evicted order (session.itemPid item)) with
          creations := t.creations.erase item
          registeredMap := Function.update t.registeredMap (session.itemPid item) .SNI
          sni :=
            { items := t.sni.items.insert item ⟨item⟩ (session.itemPid item)
              pendingItems := t.sni.pendingItems.erase item } }) := by
  unfold handlerCreated
  by_cases hcreation : item ∉ t.creations
  · exact .inl ⟨hcreation, if_pos hcreation⟩
  rw [if_neg hcreation]
  by_cases hpending : item ∉ t.sni.pendingItems
  · exact .inr (.inl ⟨not_not.mp hcreation, hpending, if_pos hpending⟩)
  refine .inr (.inr ⟨⟨not_not.mp hcreation, not_not.mp hpending⟩, (if_neg hpending).trans ?_⟩)
  obtain ⟨popped, hpopped⟩ : ∃ popped : TraySystem, popped = { t with
    creations := t.creations.erase item
    sni := { t.sni with pendingItems := t.sni.pendingItems.erase item } } := ⟨_, rfl⟩
  have hsame : popped.evicted order (session.itemPid item) =
      t.evicted order (session.itemPid item) := by
    rw [hpopped]
    rfl
  change registerSniItem session { t with
    creations := t.creations.erase item
    sni := { t.sni with pendingItems := t.sni.pendingItems.erase item } } item order = _
  rw [← hpopped, registerSniItem_eq, hsame, hpopped]
  cases t.evicted order (session.itemPid item) with
  | none => rfl
  | some found => rfl

/-- The end of a creation leaves TrayManager1's icons and the indicators alone. -/
theorem handlerCreated_frame (t : TraySystem) (item : String) (order : HashOrder Window) :
    (t.handlerCreated session item order).icons = t.icons ∧
    (t.handlerCreated session item order).indicator = t.indicator := by
  rcases t.handlerCreated_cases session item order with
    ⟨-, heq⟩ | ⟨-, -, heq⟩ | ⟨-, heq⟩ <;> rw [heq]
  · exact ⟨rfl, rfl⟩
  · exact ⟨rfl, rfl⟩
  · cases t.evicted order (session.itemPid item) <;> exact ⟨rfl, rfl⟩

/-- A sync leaves TrayManager1's icons and the indicators alone. -/
theorem syncTrayIcons_frame (t : TraySystem) (listed order : HashOrder Window) :
    (t.syncTrayIcons session listed order).icons = t.icons ∧
    (t.syncTrayIcons session listed order).indicator = t.indicator := by
  by_cases htimers : t.timers = 0
  · rw [syncTrayIcons, if_pos htimers]
    exact ⟨rfl, rfl⟩
  · have hframe := (t.syncTrayIcons_spec session listed order (Nat.pos_of_ne_zero htimers)).1
    exact ⟨hframe.icons, hframe.indicator⟩

/-- The event can change what the protocols have registered. -/
def registers : Event → Bool
  | .registedItemChanged _ => true
  | .handlerCreated _ _ => true
  | .syncTrayIcons _ _ => true
  | _ => false

/-- All other events leave the registrations alone. -/
theorem step_of_not_registers {e : Event} (h : registers e = false) (t : TraySystem) :
    (t.step session e).registeredMap = t.registeredMap ∧ (t.step session e).sni = t.sni ∧
      (t.step session e).xembed = t.xembed ∧ (t.step session e).creations = t.creations := by
  cases e with
  | registedItemChanged order => cases h
  | handlerCreated item order => cases h
  | syncTrayIcons listed order => cases h
  | registerIcon window pixmapData =>
    simp only [step, registerIcon]
    split <;> exact ⟨rfl, rfl, rfl, rfl⟩
  | unregisterIcon window =>
    simp only [step, unregisterIcon]
    split <;> exact ⟨rfl, rfl, rfl, rfl⟩
  | onTrayIconsChanged =>
    simp only [step, onTrayIconsChanged]
    split <;> exact ⟨rfl, rfl, rfl, rfl⟩
  | leaveNotify window =>
    simp only [step]
    split <;> exact ⟨rfl, rfl, rfl, rfl⟩
  | destroyNotify window order =>
    simp only [step]
    split <;> exact ⟨rfl, rfl, rfl, rfl⟩
  | _ => exact ⟨rfl, rfl, rfl, rfl⟩

end TraySystem

end DdeTrayLoader.Tray
