import DdeTrayLoader.Plugin.WidgetPlugin

/-!
# Items in the tray

However often a plugin adds and removes an item, and whatever the dock closes in between, one
`EmbedPlugin` at most stands for the item in the tray, and one does when the item was just added,
in a window that is visible.

The widget of the item is in that window, unless another window of the plugin takes the same
widget: the one of a tool, which is made for the item as well, or the one of the quick panel.
-/

namespace DdeTrayLoader.Plugin

open Transition Qt EmbedPlugin

/-- Every item key has a widget of its own. -/
def PluginsItemInterface.OwnWidgets (inter : PluginsItemInterface) : Prop :=
  ∀ key, ∃ widget, inter.itemWidget key = some widget ∧
    ∀ key', inter.itemWidget key' = some widget → key' = key

/-- Only the tray takes the widget of the key. -/
def PluginsItemInterface.Undisputed (inter : PluginsItemInterface) (key : String) : Prop :=
  hasFlag inter.getPluginFlags typeTool = false ∧
    (hasFlag inter.getPluginFlags typeQuick = true → key ≠ quickItemKey)

namespace WidgetPlugin

variable {inter : PluginsItemInterface}

/-- The window is bound to an `EmbedPlugin` with the id of the plugin, type `Tray` and the key. -/
def IsTrayItem (inter : PluginsItemInterface) (s : WidgetPlugin) (key : String) (w : ℕ) : Prop :=
  ∃ plugin, dataAt s.plugins w = some plugin ∧ plugin.pluginId = inter.pluginName ∧
    plugin.itemKey = key ∧ plugin.pluginType = some .tray

/-- One `EmbedPlugin` stands for the item in the tray, and its window, which is `w`, is visible. -/
def IsShown (inter : PluginsItemInterface) (s : WidgetPlugin) (key : String) (w : ℕ) : Prop :=
  IsTrayItem inter s key w ∧ (∀ w', IsTrayItem inter s key w' → w' = w) ∧
    (s.plugins.window w).visible = true

/-- What holds of every state. Windows are only bound while they are visible, and an item of
the tray has one window, with its widget in it. -/
structure Orderly (inter : PluginsItemInterface) (s : WidgetPlugin) : Prop where
  plugins : s.plugins.Consistent
  visible : ∀ w plugin, dataAt s.plugins w = some plugin → (s.plugins.window w).visible = true
  unique : ∀ key ≠ "", ∀ w w', IsTrayItem inter s key w → IsTrayItem inter s key w' → w = w'
  hosted : ∀ key ≠ "", inter.Undisputed key → ∀ w, IsTrayItem inter s key w →
    s.itemWindow inter key = some w

/-- A change of the registry that adds no item of the tray keeps the items in order. -/
theorem Orderly.setPlugins {s : WidgetPlugin} (h : Orderly inter s) {r : SMap}
    (hconsistent : r.Consistent)
    (hdata : ∀ w plugin, dataAt r w = some plugin → (r.window w).visible = true ∧
      (dataAt s.plugins w = some plugin ∨
        ¬(plugin.pluginId = inter.pluginName ∧ plugin.pluginType = some .tray))) :
    Orderly inter { s with plugins := r } := by
  have hitem {key : String} {w : ℕ} (hitem : IsTrayItem inter { s with plugins := r } key w) :
      IsTrayItem inter s key w := by
    obtain ⟨plugin, hplugin, hid, hkey, htype⟩ := hitem
    obtain hold | hother := (hdata w plugin hplugin).2
    · exact ⟨plugin, hold, hid, hkey, htype⟩
    · exact absurd ⟨hid, htype⟩ hother
  constructor
  · exact hconsistent
  · intro w plugin hplugin
    exact (hdata w plugin hplugin).1
  · intro key hkey w w' hw hw'
    exact h.unique key hkey w w' (hitem hw) (hitem hw')
  · intro key hkey hundisputed w hw
    exact h.hosted key hkey hundisputed w (hitem hw)

theorem Orderly.showWindow {s : WidgetPlugin} (h : Orderly inter s) (w : ℕ) :
    Orderly inter { s with plugins := s.plugins.showWindow w } := by
  apply h.setPlugins (h.plugins.showWindow w)
  intro w' plugin hplugin
  rw [dataAt_showWindow] at hplugin
  have hvisible := h.visible w' plugin hplugin
  refine ⟨?_, .inl hplugin⟩
  rw [Registry.showWindow_window]
  by_cases hw : w' = w
  · subst hw
    simp [hvisible]
  · simpa [hw] using hvisible

theorem Orderly.hideWindow {s : WidgetPlugin} (h : Orderly inter s) (w : ℕ) :
    Orderly inter { s with plugins := s.plugins.hideWindow callbacks w } := by
  apply h.setPlugins (h.plugins.hideWindow callbacks w)
  intro w' plugin hplugin
  rw [dataAt_hideWindow h.plugins] at hplugin
  split at hplugin
  · simp at hplugin
  · rename_i hopen
    have hvisible := h.visible w' plugin hplugin
    refine ⟨?_, .inl hplugin⟩
    by_cases hw : w' = w
    · exact absurd ⟨hw, hw ▸ hvisible⟩ hopen
    · simpa [hw] using hvisible

theorem Orderly.deferredDelete {s : WidgetPlugin} (h : Orderly inter s) (p : ℕ) :
    Orderly inter { s with plugins := s.plugins.deferredDelete callbacks p } := by
  apply h.setPlugins (h.plugins.deferredDelete callbacks p)
  intro w plugin hplugin
  rw [dataAt_deferredDelete h.plugins] at hplugin
  rw [Registry.deferredDelete_window]
  exact ⟨h.visible w plugin hplugin, .inl hplugin⟩

theorem Orderly.createWindow {s : WidgetPlugin} (h : Orderly inter s) :
    Orderly inter { s with plugins := s.plugins.createWindow } := by
  apply h.setPlugins h.plugins.createWindow
  intro w plugin hplugin
  have hvisible := h.visible w plugin hplugin
  refine ⟨?_, .inl hplugin⟩
  have hne : w ≠ s.plugins.windows :=
    Nat.ne_of_lt (h.plugins.window_lt w (h.plugins.alive_of_visible w hvisible))
  simpa [Registry.createWindow, hne] using hvisible

/-- A window of another type is bound and shown. -/
theorem Orderly.bind {s : WidgetPlugin} (h : Orderly inter s) {w : ℕ}
    (halive : (s.plugins.window w).alive = true) {set : EmbedPluginPrivate → EmbedPluginPrivate}
    (htype : ∀ plugin, (set plugin).pluginType ≠ some .tray) :
    Orderly inter { s with plugins := (EmbedPlugin.bind s.plugins w set).showWindow w } := by
  apply h.setPlugins ((bind_consistent h.plugins halive set).showWindow w)
  intro w' plugin hplugin
  rw [dataAt_showWindow, dataAt_bind h.plugins halive] at hplugin
  have hwindow : ((EmbedPlugin.bind s.plugins w set).showWindow w).window =
      Function.update s.plugins.window w { s.plugins.window w with visible := true } := by
    simp [halive]
  rw [hwindow]
  by_cases hw : w' = w
  · rw [if_pos hw, Option.some.injEq] at hplugin
    subst hplugin
    exact ⟨by simp [hw], .inr fun hboth => htype _ hboth.2⟩
  · rw [if_neg hw] at hplugin
    exact ⟨by simpa [hw] using h.visible w' plugin hplugin, .inl hplugin⟩

/-- A hidden window is destroyed. -/
theorem Orderly.destroyWindow {s : WidgetPlugin} (h : Orderly inter s) {w : ℕ}
    (hhidden : ¬(s.plugins.window w).visible = true) :
    Orderly inter { s with plugins := s.plugins.destroyWindow callbacks w } := by
  apply h.setPlugins (h.plugins.destroyWindow callbacks w)
  intro w' plugin hplugin
  rw [dataAt_destroyWindow hhidden] at hplugin
  have hvisible := h.visible w' plugin hplugin
  have hne : w' ≠ w := by
    intro hw
    rw [hw] at hvisible
    exact hhidden hvisible
  exact ⟨by simpa [hne] using hvisible, .inl hplugin⟩

/-- A new window that is no item of the tray. -/
theorem Orderly.addWindow {s : WidgetPlugin} (h : Orderly inter s)
    {set : EmbedPluginPrivate → EmbedPluginPrivate}
    (hother : ¬((set {}).pluginId = inter.pluginName ∧ (set {}).pluginType = some .tray)) :
    Orderly inter { s with plugins := WidgetPlugin.addWindow s.plugins set } := by
  apply h.setPlugins (addWindow_consistent h.plugins set)
  intro w plugin hplugin
  rw [dataAt_addWindow h.plugins] at hplugin
  rw [addWindow_window]
  by_cases hw : w = s.plugins.windows
  · rw [if_pos hw, Option.some.injEq] at hplugin
    subst hplugin
    exact ⟨by simp [hw], .inr hother⟩
  · rw [if_neg hw] at hplugin
    exact ⟨by simpa [hw] using h.visible w plugin hplugin, .inl hplugin⟩

/-- The widgets of the keys that only the tray takes stay where they are. -/
theorem Orderly.setHost {s : WidgetPlugin} (h : Orderly inter s) (host : QWidget → Option ℕ)
    (hhost : ∀ key ≠ "", inter.Undisputed key →
      ({ s with host := host } : WidgetPlugin).itemWindow inter key = s.itemWindow inter key) :
    Orderly inter { s with host := host } where
  plugins := h.plugins
  visible := h.visible
  unique := h.unique
  hosted key hkey hundisputed w hw := by
    rw [hhost key hkey hundisputed]
    exact h.hosted key hkey hundisputed w hw

/-- Only the registry and the widgets matter to the items. -/
theorem Orderly.congr {s s' : WidgetPlugin} (h : Orderly inter s)
    (hplugins : s'.plugins = s.plugins) (hhost : s'.host = s.host) : Orderly inter s' := by
  cases s'
  cases hplugins
  cases hhost
  exact ⟨h.plugins, h.visible, h.unique, h.hosted⟩

theorem Orderly.showItem {s : WidgetPlugin} (h : Orderly inter s) (key : String) :
    Orderly inter (s.showItem inter key) := by
  unfold WidgetPlugin.showItem
  split
  · exact h.showWindow _
  · exact h

theorem Orderly.hideItem {s : WidgetPlugin} (h : Orderly inter s) (key : String) :
    Orderly inter (s.hideItem inter key) := by
  unfold WidgetPlugin.hideItem
  split
  · exact h.hideWindow _
  · exact h

theorem Orderly.hideCardItem {s : WidgetPlugin} (h : Orderly inter s) :
    Orderly inter s.hideCardItem := by
  unfold WidgetPlugin.hideCardItem
  split
  · exact h.hideWindow _
  · exact h

theorem Orderly.createCardItem {s s' : WidgetPlugin} (h : Orderly inter s) {card : CardInterface}
    (hcreated : s.createCardItem card = some s') : Orderly inter s' := by
  unfold WidgetPlugin.createCardItem at hcreated
  split at hcreated
  · exact Option.some.inj hcreated ▸ h
  · split at hcreated
    · simp at hcreated
    · unfold getCardWindow at hcreated
      cases hwindow : s.cardWindow with
      | some w =>
        simp only [hwindow, Option.some.injEq] at hcreated
        subst hcreated
        exact h.congr rfl rfl
      | none =>
        simp only [hwindow] at hcreated
        split at hcreated
        · rename_i hsome
          split at hsome
          · obtain ⟨rfl, -⟩ := Prod.mk.inj hsome
            obtain rfl := Option.some.inj hcreated
            exact h.createWindow.congr rfl rfl
          · simp at hsome
        · simp at hcreated

theorem Orderly.presentCardItem {s : WidgetPlugin} (h : Orderly inter s) :
    Orderly inter (s.presentCardItem inter) := by
  cases hwindow : s.cardItemWindow with
  | none => rwa [presentCardItem_of_none inter hwindow]
  | some w =>
    obtain ⟨item, hitem, halive, rfl⟩ := cardItemWindow_eq_some.mp hwindow
    rw [presentCardItem_eq inter hitem halive]
    exact h.bind halive (by simp [PluginsItemInterface.setProperties])

theorem Orderly.createCardItemIfNeeded {s : WidgetPlugin} (h : Orderly inter s) :
    Orderly inter (s.createCardItemIfNeeded inter) := by
  unfold WidgetPlugin.createCardItemIfNeeded
  split
  · exact h
  · split
    · rename_i hcreated
      exact (h.createCardItem hcreated).presentCardItem
    · exact h.congr rfl rfl

theorem Orderly.setFashionMode {s : WidgetPlugin} (h : Orderly inter s) (fashionMode : Bool) :
    Orderly inter (s.setFashionMode inter fashionMode) := by
  have hset : Orderly inter { s with m_fashionMode := fashionMode } := h.congr rfl rfl
  unfold WidgetPlugin.setFashionMode
  split
  · exact h
  · dsimp only
    split
    · exact hset
    · split
      · exact hset.hideCardItem
      · split
        · exact hset.createCardItemIfNeeded
        · exact hset

/-- An item that is no item of the tray takes a widget that the tray leaves to it. -/
theorem Orderly.addItem {s : WidgetPlugin} (h : Orderly inter s) {widgetKey : String}
    {set : EmbedPluginPrivate → EmbedPluginPrivate} (htype : (set {}).pluginType ≠ some .tray)
    (hleft : ∀ key ≠ "", inter.Undisputed key →
      ∀ widget, inter.itemWidget key = some widget → inter.itemWidget widgetKey ≠ some widget) :
    Orderly inter (s.addItem inter widgetKey set) := by
  have hadded := h.addWindow fun hboth => htype hboth.2
  refine (hadded.setHost (s.addItem inter widgetKey set).host ?_).congr rfl rfl
  intro key hkey hundisputed
  unfold itemWindow
  cases hwidget : inter.itemWidget key with
  | none => rfl
  | some widget => simp [WidgetPlugin.addItem, hleft key hkey hundisputed widget hwidget]

theorem Orderly.addQuickItem {s : WidgetPlugin} (h : Orderly inter s) (hwidgets : inter.OwnWidgets)
    (hquick : hasFlag inter.getPluginFlags typeQuick = true) :
    Orderly inter (s.addQuickItem inter) := by
  unfold WidgetPlugin.addQuickItem
  split
  · apply h.addItem (by simp [PluginsItemInterface.setProperties])
    intro key _ hundisputed widget hwidget hsame
    obtain ⟨widget', hwidget', hown⟩ := hwidgets key
    obtain rfl : widget' = widget := Option.some.inj (hwidget'.symm.trans hwidget)
    exact hundisputed.2 hquick (hown _ hsame).symm
  · exact h.showItem _

theorem Orderly.addFixedItem {s : WidgetPlugin} (h : Orderly inter s)
    (htool : hasFlag inter.getPluginFlags typeTool = true) (key : String) :
    Orderly inter (s.addFixedItem inter key) := by
  unfold WidgetPlugin.addFixedItem
  split
  · apply h.addItem
    · simp only [Function.comp_apply, PluginsItemInterface.setDccIcon,
        PluginsItemInterface.setProperties]
      split <;> simp
    · intro key' _ hundisputed
      rw [hundisputed.1] at htool
      simp at htool
  · exact h

/-- An item in the tray is one that the registry contains. -/
theorem contains_iff_isTrayItem {s : WidgetPlugin} {key : String} (hkey : key ≠ "") :
    EmbedPlugin.contains s.plugins inter.pluginName .tray key = true ↔
      ∃ w, IsTrayItem inter s key w := by
  simp [contains_iff, hkey, IsTrayItem]

/-- The items of the tray after a new one is added. -/
theorem isTrayItem_addItem {s : WidgetPlugin} (h : s.plugins.Consistent) {widgetKey key : String}
    {set : EmbedPluginPrivate → EmbedPluginPrivate} {w : ℕ} :
    IsTrayItem inter (s.addItem inter widgetKey set) key w ↔
      if w = s.plugins.windows then
        (set {}).pluginId = inter.pluginName ∧ (set {}).itemKey = key ∧
          (set {}).pluginType = some .tray
      else IsTrayItem inter s key w := by
  unfold IsTrayItem
  simp only [WidgetPlugin.addItem, dataAt_addWindow h]
  split <;> simp

/-- The properties of a new item of the tray. -/
theorem trayProperties (inter : PluginsItemInterface) (key key' : String) :
    (((inter.setDccIcon ∘ inter.setProperties .tray key) {}).pluginId = inter.pluginName ∧
      ((inter.setDccIcon ∘ inter.setProperties .tray key) {}).itemKey = key' ∧
      ((inter.setDccIcon ∘ inter.setProperties .tray key) {}).pluginType = some .tray) ↔
    key = key' := by
  simp only [Function.comp_apply, PluginsItemInterface.setDccIcon,
    PluginsItemInterface.setProperties]
  split <;> simp

/-- A bound window is an old one. -/
theorem IsTrayItem.ne_windows {s : WidgetPlugin} (h : s.plugins.Consistent) {key : String} {w : ℕ}
    (hitem : IsTrayItem inter s key w) : w ≠ s.plugins.windows := by
  obtain ⟨plugin, hplugin, -⟩ := hitem
  obtain ⟨p, hbound, -⟩ := Option.map_eq_some_iff.mp hplugin
  exact Nat.ne_of_lt (h.bound_lt w p hbound).1

theorem Orderly.addTrayItem {s : WidgetPlugin} (h : Orderly inter s) (hwidgets : inter.OwnWidgets)
    (key : String) : Orderly inter (s.addTrayItem inter key) := by
  unfold WidgetPlugin.addTrayItem
  split
  · rename_i hnew
    simp only [Bool.and_eq_true, Bool.not_eq_true', Option.isSome_iff_exists] at hnew
    obtain ⟨habsent, widget, hwidget⟩ := hnew
    have hnone (hkey : key ≠ "") (w : ℕ) : ¬IsTrayItem inter s key w := by
      intro hitem
      rw [(contains_iff_isTrayItem hkey).mpr ⟨w, hitem⟩] at habsent
      simp at habsent
    constructor
    · exact addWindow_consistent h.plugins _
    · intro w plugin hplugin
      simp only [WidgetPlugin.addItem, dataAt_addWindow h.plugins] at hplugin
      simp only [WidgetPlugin.addItem, addWindow_window]
      by_cases hw : w = s.plugins.windows
      · simp [hw]
      · rw [if_neg hw] at hplugin
        simpa [hw] using h.visible w plugin hplugin
    · intro key' hkey' w w' hw hw'
      rw [isTrayItem_addItem h.plugins, trayProperties] at hw hw'
      split_ifs at hw hw' with hnew hnew' hnew'
      · rw [hnew, hnew']
      · subst hw
        exact absurd hw' (hnone hkey' w')
      · subst hw'
        exact absurd hw (hnone hkey' w)
      · exact h.unique key' hkey' w w' hw hw'
    · intro key' hkey' hundisputed w hw
      rw [isTrayItem_addItem h.plugins, trayProperties] at hw
      split_ifs at hw with hnew
      · subst hw
        simp [itemWindow, WidgetPlugin.addItem, hwidget, hnew]
      · have hkept := h.hosted key' hkey' hundisputed w hw
        obtain ⟨widget', hwidget', hown⟩ := hwidgets key'
        have hother : widget ≠ widget' := by
          intro hsame
          rw [hsame] at hwidget
          rw [hown key hwidget] at hnone
          exact hnone hkey' w hw
        simpa [itemWindow, WidgetPlugin.addItem, hwidget, hwidget', hother] using hkept
  · exact h.showItem _

theorem isTrayItem_showItem {s : WidgetPlugin} {shown key : String} {w : ℕ} :
    IsTrayItem inter (s.showItem inter shown) key w ↔ IsTrayItem inter s key w := by
  unfold WidgetPlugin.showItem IsTrayItem
  split
  · simp only [dataAt_showWindow]
  · rfl

/-- An item that is added to the tray is there. -/
theorem exists_addTrayItem {s : WidgetPlugin} (h : s.plugins.Consistent)
    (hwidgets : inter.OwnWidgets) {key : String} (hkey : key ≠ "") :
    ∃ w, IsTrayItem inter (s.addTrayItem inter key) key w := by
  unfold WidgetPlugin.addTrayItem
  split
  · refine ⟨s.plugins.windows, ?_⟩
    rw [isTrayItem_addItem h, if_pos rfl, trayProperties]
  · rename_i hpresent
    obtain ⟨widget, hwidget, -⟩ := hwidgets key
    have hcontains : EmbedPlugin.contains s.plugins inter.pluginName .tray key = true := by
      simpa [hwidget] using hpresent
    obtain ⟨w, hitem⟩ := (contains_iff_isTrayItem hkey).mp hcontains
    exact ⟨w, isTrayItem_showItem.mpr hitem⟩

/-- The items of the tray stay when a tool's item is added. -/
theorem IsTrayItem.addFixedItem {s : WidgetPlugin} (h : s.plugins.Consistent) {key : String}
    {w : ℕ} (hitem : IsTrayItem inter s key w) (fixed : String) :
    IsTrayItem inter (s.addFixedItem inter fixed) key w := by
  unfold WidgetPlugin.addFixedItem
  split
  · rw [isTrayItem_addItem h, if_neg (hitem.ne_windows h)]
    exact hitem
  · exact hitem

theorem Orderly.addPanelItems {s : WidgetPlugin} (h : Orderly inter s)
    (hwidgets : inter.OwnWidgets) : Orderly inter (s.addPanelItems inter) := by
  have hcard : Orderly inter (if hasFlag inter.getPluginFlags attributeHasCard && s.m_fashionMode
      then s.createCardItemIfNeeded inter else s) := by
    split
    · exact h.createCardItemIfNeeded
    · exact h
  unfold WidgetPlugin.addPanelItems
  dsimp only
  split
  · rename_i hquick
    exact hcard.addQuickItem hwidgets hquick
  · exact hcard

theorem Orderly.addDockItems {s : WidgetPlugin} (h : Orderly inter s)
    (hwidgets : inter.OwnWidgets) (key : String) : Orderly inter (s.addDockItems inter key) := by
  have htray : Orderly inter (if hasFlag inter.getPluginFlags typeQuick ||
      hasFlag inter.getPluginFlags typeSystem || hasFlag inter.getPluginFlags typeTray
      then s.addTrayItem inter key else s) := by
    split
    · exact h.addTrayItem hwidgets key
    · exact h
  unfold WidgetPlugin.addDockItems
  dsimp only
  split
  · exact h
  · split
    · rename_i htool
      exact htray.addFixedItem htool key
    · exact htray

theorem Orderly.itemAdded {s : WidgetPlugin} (h : Orderly inter s) (hwidgets : inter.OwnWidgets)
    (key : String) : Orderly inter (s.itemAdded inter key) := by
  have hadded : Orderly inter { s with m_itemAdded := true } := h.congr rfl rfl
  exact (hadded.addPanelItems hwidgets).addDockItems hwidgets key

theorem Orderly.itemRemoved {s : WidgetPlugin} (h : Orderly inter s) (key : String) :
    Orderly inter (s.itemRemoved inter key) := by
  have hremoved : Orderly inter { s with m_itemAdded := false } := h.congr rfl rfl
  exact (hremoved.hideCardItem.hideItem key).hideItem quickItemKey

theorem Orderly.dropCardWindow {s : WidgetPlugin} (h : Orderly inter s) :
    Orderly inter s.dropCardWindow := by
  unfold WidgetPlugin.dropCardWindow
  split
  · split
    · exact h
    · rename_i hhidden
      exact (h.destroyWindow hhidden).congr rfl rfl
  · exact h

/-- Whatever happens keeps the items in order. -/
theorem Orderly.step {s : WidgetPlugin} (h : Orderly inter s) (hwidgets : inter.OwnWidgets)
    (e : PluginEvent) : Orderly inter (s.step inter e) := by
  cases e with
  | itemAdded key => exact h.itemAdded hwidgets key
  | itemRemoved key => exact h.itemRemoved key
  | onDockEventMessageArrived msgType msgData =>
    simp only [WidgetPlugin.step, WidgetPlugin.onDockEventMessageArrived]
    split
    · exact h.setFashionMode msgData
    · exact h
  | deferredDelete p => exact h.deferredDelete p
  | plugin_close w => exact h.hideWindow w
  | dropCardWindow => exact h.dropCardWindow
  | otherItem plugin =>
    simp only [WidgetPlugin.step]
    split
    · exact h
    · rename_i hother
      exact h.addWindow fun hboth => hother hboth.1

theorem initial_orderly (inter : PluginsItemInterface) : Orderly inter initial := by
  have hempty (w : ℕ) : dataAt initial.plugins w = none := rfl
  constructor
  · exact Registry.initial_consistent _
  · intro w plugin hplugin
    rw [hempty] at hplugin
    simp at hplugin
  · intro key _ w w' hw
    obtain ⟨plugin, hplugin, -⟩ := hw
    rw [hempty] at hplugin
    simp at hplugin
  · intro key _ _ w hw
    obtain ⟨plugin, hplugin, -⟩ := hw
    rw [hempty] at hplugin
    simp at hplugin

/-- An item that was added is shown in the tray. -/
theorem Orderly.isShown_itemAdded {s : WidgetPlugin} (h : Orderly inter s)
    (hwidgets : inter.OwnWidgets) (htray : hasFlag inter.getPluginFlags typeTray = true)
    (hdocked : isForceUndock inter.getPluginFlags = false) {key : String} (hkey : key ≠ "") :
    ∃ w, IsShown inter (s.itemAdded inter key) key w ∧
      (inter.Undisputed key → (s.itemAdded inter key).itemWindow inter key = some w) := by
  have hnext := h.itemAdded hwidgets key
  have hadded : Orderly inter { s with m_itemAdded := true } := h.congr rfl rfl
  have hpanels := hadded.addPanelItems hwidgets
  have hsome : ∃ w, IsTrayItem inter (s.itemAdded inter key) key w := by
    obtain ⟨w, hitem⟩ := exists_addTrayItem hpanels.plugins hwidgets hkey
    refine ⟨w, ?_⟩
    simp only [WidgetPlugin.itemAdded, WidgetPlugin.addDockItems, htray, hdocked, Bool.or_true,
      Bool.and_false, Bool.false_eq_true, if_false, if_true]
    split
    · exact hitem.addFixedItem (hpanels.addTrayItem hwidgets key).plugins key
    · exact hitem
  obtain ⟨w, hitem⟩ := hsome
  obtain ⟨plugin, hplugin, -⟩ := id hitem
  exact ⟨w, ⟨hitem, fun w' hw' => hnext.unique key hkey w' w hw' hitem,
    hnext.visible w plugin hplugin⟩, fun hundisputed => hnext.hosted key hkey hundisputed w hitem⟩

/-- However a plugin adds and removes its items, and whatever else happens, one `EmbedPlugin` at
most stands for an item in the tray. When the item was just added, one does, and its window is
visible, with the widget of the item in it if only the tray takes that. -/
theorem tray_items (es : List PluginEvent) (hwidgets : inter.OwnWidgets)
    (htray : hasFlag inter.getPluginFlags typeTray = true)
    (hdocked : isForceUndock inter.getPluginFlags = false) {key : String} (hkey : key ≠ "") :
    (∀ w w', IsTrayItem inter (run (step inter) initial es) key w →
      IsTrayItem inter (run (step inter) initial es) key w' → w = w') ∧
    ∃ w, IsShown inter (run (step inter) initial (es ++ [.itemAdded key])) key w ∧
      (inter.Undisputed key →
        (run (step inter) initial (es ++ [.itemAdded key])).itemWindow inter key = some w) := by
  have horderly : Orderly inter (run (step inter) initial es) :=
    run_invariant (fun _ e h => h.step hwidgets e) es (initial_orderly inter)
  rw [run_concat]
  exact ⟨horderly.unique key hkey, horderly.isShown_itemAdded hwidgets htray hdocked hkey⟩

/-- A plugin with one widget for each key. -/
def demo (flags : ℕ) : PluginsItemInterface where
  pluginName := "demo"
  pluginDisplayName := "Demo"
  pluginSizePolicy := 0
  isV2 := true
  flags := flags
  itemWidget := some
  cardInterface := none

/-- The widgets of the plugin are the keys. -/
theorem demo_ownWidgets (flags : ℕ) : (demo flags).OwnWidgets :=
  fun key => ⟨key, rfl, fun _ hsame => Option.some.inj hsame⟩

/-- An item of the tray is closed by the dock, and added again. -/
theorem tray_items_closed :
    let inter := demo typeTray
    let es := [PluginEvent.itemAdded "item", .plugin_close 0]
    (∀ w w', IsTrayItem inter (run (step inter) initial es) "item" w →
      IsTrayItem inter (run (step inter) initial es) "item" w' → w = w') ∧
    ∃ w, IsShown inter (run (step inter) initial (es ++ [.itemAdded "item"])) "item" w ∧
      (inter.Undisputed "item" →
        (run (step inter) initial (es ++ [.itemAdded "item"])).itemWindow inter "item" = some w) :=
  tray_items [.itemAdded "item", .plugin_close 0] (demo_ownWidgets typeTray) (by decide)
    (by decide) (by decide)

/-- The item of a plugin that is a tool as well loses its widget to the window of the tool. -/
theorem not_tray_items :
    let inter := demo (typeTray ||| typeTool)
    (inter.OwnWidgets ∧ hasFlag inter.getPluginFlags typeTray = true ∧
      isForceUndock inter.getPluginFlags = false) ∧
    ¬∃ w, IsShown inter (run (step inter) initial [.itemAdded "item"]) "item" w ∧
      (run (step inter) initial [.itemAdded "item"]).itemWindow inter "item" = some w := by
  refine ⟨⟨demo_ownWidgets _, by decide, by decide⟩, ?_⟩
  intro hshown
  obtain ⟨w, hshown, hwindow⟩ := hshown
  have htool : (run (step (demo (typeTray ||| typeTool))) initial [.itemAdded "item"]).itemWindow
      (demo (typeTray ||| typeTool)) "item" = some 1 := by decide
  have hw : w = 1 := Option.some.inj (hwindow.symm.trans htool)
  obtain ⟨plugin, hplugin, -, -, htype⟩ := hshown.1
  have hfixed : dataAt (run (step (demo (typeTray ||| typeTool))) initial
      [.itemAdded "item"]).plugins 1 = some ((demo (typeTray ||| typeTool)).setDccIcon
        ((demo (typeTray ||| typeTool)).setProperties .fixed "item" {})) := by decide
  rw [hw, hfixed] at hplugin
  obtain rfl := Option.some.inj hplugin
  exact absurd htype (by decide)

end WidgetPlugin

end DdeTrayLoader.Plugin
