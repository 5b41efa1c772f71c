import DdeTrayLoader.Plugin.EmbedPlugin

/-!
# `WidgetPlugin`

The proxy between a plugin and the dock. For each item that the plugin adds it makes a
`PluginItem`, a window of its own around the plugin's widget for the item, and binds it; an item
that is there already is only shown. The card of a plugin is a window that the plugin makes, and
that is bound and shown in fashion mode only.

The registry is shared: other plugins of the process bind windows with ids of their own.
-/

namespace DdeTrayLoader.Plugin

open Transition Qt EmbedPlugin

/-- `Dock::Type_Quick`. -/
def typeQuick : ℕ := 0x02

/-- `Dock::Type_Tool`. -/
def typeTool : ℕ := 0x04

/-- `Dock::Type_System`. -/
def typeSystem : ℕ := 0x08

/-- `Dock::Type_Tray`. -/
def typeTray : ℕ := 0x10

/-- `Dock::Attribute_CanSetting`. -/
def attributeCanSetting : ℕ := 0x800

/-- `Dock::Attribute_HasCard`. -/
def attributeHasCard : ℕ := 0x2000

/-- `Attribute_ForceUnDock`. -/
def attributeForceUnDock : ℕ := 0x800000

/-- `Dock::QUICK_ITEM_KEY`. -/
def quickItemKey : String := "quick_item_key"

/-- `Dock::MSG_DOCK_FASHION_MODE`. -/
def msgDockFashionMode : String := "dockFashionMode"

/-- `DCCIconPath`, for an installation under `/usr`. -/
def dccIconPath : String := "/usr/share/dde-dock/icons/dcc-setting/"

/-- The flags have a bit of `flag`. -/
def hasFlag (flags flag : ℕ) : Bool := flags &&& flag != 0

/-- `PluginItem::isForceUndock`. -/
def isForceUndock (pluginFlag : ℕ) : Bool := hasFlag pluginFlag attributeForceUnDock

/-- A widget of a plugin; its name tells it from the others. -/
abbrev QWidget : Type := String

/-- What a plugin tells of its card. -/
structure CardInterface where
  cardItemKey : String
  /-- `cardWindow` can make a window. -/
  hasWindow : Bool
  deriving DecidableEq, Repr

/-- A plugin, whose answers do not change. -/
structure PluginsItemInterface where
  pluginName : String
  pluginDisplayName : String
  pluginSizePolicy : ℕ
  /-- It is a `PluginsItemInterfaceV2`. -/
  isV2 : Bool
  /-- What `flags` returns, or the property of an older plugin. -/
  flags : ℕ
  itemWidget : String → Option QWidget
  /-- It is a `PluginsItemInterfaceV3`. -/
  cardInterface : Option CardInterface

/-- `getPluginFlags`. -/
def PluginsItemInterface.getPluginFlags (inter : PluginsItemInterface) : ℕ :=
  if inter.isV2 && inter.pluginName = "grand-search" then inter.flags ||| attributeForceUnDock
  else inter.flags

/-- The setters that every item is given. -/
def PluginsItemInterface.setProperties (inter : PluginsItemInterface) (type : PluginType)
    (itemKey : String) (plugin : EmbedPluginPrivate) : EmbedPluginPrivate :=
  { plugin with
    pluginFlags := some inter.getPluginFlags
    pluginId := inter.pluginName
    displayName := inter.pluginDisplayName
    itemKey := itemKey
    pluginType := some type
    sizePolicy := some inter.pluginSizePolicy }

/-- The icon that items on the dock are given. -/
def PluginsItemInterface.setDccIcon (inter : PluginsItemInterface) (plugin : EmbedPluginPrivate) :
    EmbedPluginPrivate :=
  if hasFlag inter.getPluginFlags attributeCanSetting then
    { plugin with dccIcon := dccIconPath ++ inter.pluginName ++ ".svg" }
  else plugin

/-- A `CardPluginItem`, whose window may be gone. -/
structure CardPluginItem where
  window : ℕ
  itemKey : String
  deriving DecidableEq, Repr

/-- The members of a `WidgetPlugin`, the registry, and what the plugin does with its widgets and
its card window. -/
structure WidgetPlugin where
  plugins : SMap
  /-- The window that a widget was put into. -/
  host : QWidget → Option ℕ
  m_cardItem : Option CardPluginItem
  m_fashionMode : Bool
  m_itemAdded : Bool
  /-- The card window of the plugin, while there is one. -/
  cardWindow : Option ℕ

/-- What happens to a plugin. -/
inductive PluginEvent where
  | itemAdded (itemKey : String)
  | itemRemoved (itemKey : String)
  /-- A message of the dock, with its type and its data. -/
  | onDockEventMessageArrived (msgType : String) (msgData : Bool)
  | deferredDelete (p : ℕ)
  /-- The dock closes the surface of a window. -/
  | plugin_close (w : ℕ)
  /-- The plugin deletes its card window, while that is hidden. -/
  | dropCardWindow
  /-- Another plugin adds an item. -/
  | otherItem (plugin : EmbedPluginPrivate)
  deriving DecidableEq, Repr

namespace WidgetPlugin

variable (inter : PluginsItemInterface)

def initial : WidgetPlugin := ⟨EmbedPlugin.initial, fun _ => none, none, false, false, none⟩

/-- A new item window is bound and shown. -/
def addWindow (r : SMap) (set : EmbedPluginPrivate → EmbedPluginPrivate) :
    SMap :=
  let window := r.windows
  let r := EmbedPlugin.bind r.createWindow window set
  (r.hideWindow callbacks window).showWindow window

/-- A new `PluginItem` takes the widget of the key into its window. -/
def addItem (s : WidgetPlugin) (widgetKey : String)
    (set : EmbedPluginPrivate → EmbedPluginPrivate) : WidgetPlugin :=
  { s with
    plugins := addWindow s.plugins set
    host := fun widget =>
      if inter.itemWidget widgetKey = some widget then some s.plugins.windows else s.host widget }

/-- `itemWidget(itemKey)->window()->windowHandle()`. -/
def itemWindow (s : WidgetPlugin) (itemKey : String) : Option ℕ :=
  (inter.itemWidget itemKey).bind s.host

def showItem (s : WidgetPlugin) (itemKey : String) : WidgetPlugin :=
  match s.itemWindow inter itemKey with
  | some w => { s with plugins := s.plugins.showWindow w }
  | none => s

def hideItem (s : WidgetPlugin) (itemKey : String) : WidgetPlugin :=
  match s.itemWindow inter itemKey with
  | some w => { s with plugins := s.plugins.hideWindow callbacks w }
  | none => s

/-- The window of `m_cardItem`. -/
def cardItemWindow (s : WidgetPlugin) : Option ℕ :=
  s.m_cardItem.bind fun item =>
    if (s.plugins.window item.window).alive then some item.window else none

/-- `m_cardItem->show()`. -/
def showCardItem (s : WidgetPlugin) : WidgetPlugin :=
  match s.cardItemWindow with
  | some w => { s with plugins := s.plugins.showWindow w }
  | none => s

/-- `m_cardItem->hide()`. -/
def hideCardItem (s : WidgetPlugin) : WidgetPlugin :=
  match s.cardItemWindow with
  | some w => { s with plugins := s.plugins.hideWindow callbacks w }
  | none => s

/-- `bindCardPluginSurface`, which fails without a card window. -/
def bindCardPluginSurface (s : WidgetPlugin) : Option WidgetPlugin :=
  match s.m_cardItem, s.cardItemWindow with
  | some item, some w =>
    let plugins := EmbedPlugin.bind s.plugins w (inter.setProperties .card item.itemKey)
    some { s with plugins := plugins }
  | _, _ => none

/-- The plugin's `cardWindow`, which makes a window when there is none. -/
def getCardWindow (s : WidgetPlugin) (card : CardInterface) : WidgetPlugin × Option ℕ :=
  match s.cardWindow with
  | some w => (s, some w)
  | none =>
    if card.hasWindow then
      let window := s.plugins.windows
      ({ s with plugins := s.plugins.createWindow, cardWindow := some window }, some window)
    else (s, none)

/-- The part of `createCardItemIfNeeded` that finds or makes `m_cardItem`. -/
def createCardItem (s : WidgetPlugin) (card : CardInterface) : Option WidgetPlugin :=
  match s.cardItemWindow with
  | some _ => some s
  | none =>
    if card.cardItemKey = "" then none
    else
      match s.getCardWindow card with
      | (s, some w) => some { s with m_cardItem := some ⟨w, card.cardItemKey⟩ }
      | (_, none) => none

/-- The part of `createCardItemIfNeeded` that binds and shows `m_cardItem`. -/
def presentCardItem (s : WidgetPlugin) : WidgetPlugin :=
  match s.bindCardPluginSurface inter with
  | some s => s.showCardItem
  | none => s

/-- `createCardItemIfNeeded`. -/
def createCardItemIfNeeded (s : WidgetPlugin) : WidgetPlugin :=
  match inter.cardInterface with
  | none => s
  | some card =>
    match s.createCardItem card with
    | some s => s.presentCardItem inter
    | none => { s with m_cardItem := none }

/-- The items on the quick panel. -/
def addQuickItem (s : WidgetPlugin) : WidgetPlugin :=
  if !contains s.plugins inter.pluginName .quick "" then
    s.addItem inter quickItemKey (inter.setProperties .quick quickItemKey)
  else s.showItem inter quickItemKey

/-- The items in the tray. -/
def addTrayItem (s : WidgetPlugin) (itemKey : String) : WidgetPlugin :=
  if !contains s.plugins inter.pluginName .tray itemKey &&
      (inter.itemWidget itemKey).isSome then
    s.addItem inter itemKey (inter.setDccIcon ∘ inter.setProperties .tray itemKey)
  else s.showItem inter itemKey

/-- The items of tools. -/
def addFixedItem (s : WidgetPlugin) (itemKey : String) : WidgetPlugin :=
  if !contains s.plugins inter.pluginName .fixed itemKey then
    s.addItem inter itemKey (inter.setDccIcon ∘ inter.setProperties .fixed itemKey)
  else s

/-- The first part of `itemAdded`, for the card and the quick panel. -/
def addPanelItems (s : WidgetPlugin) : WidgetPlugin :=
  let flag := inter.getPluginFlags
  let s :=
    if hasFlag flag attributeHasCard && s.m_fashionMode then s.createCardItemIfNeeded inter else s
  if hasFlag flag typeQuick then s.addQuickItem inter else s

/-- The rest of `itemAdded`, for the dock; it returns early for a plugin that is undocked. -/
def addDockItems (s : WidgetPlugin) (itemKey : String) : WidgetPlugin :=
  let flag := inter.getPluginFlags
  let inTray := hasFlag flag typeQuick || hasFlag flag typeSystem || hasFlag flag typeTray
  if inTray && isForceUndock flag then s
  else
    let s := if inTray then s.addTrayItem inter itemKey else s
    if hasFlag flag typeTool then s.addFixedItem inter itemKey else s

/-- `itemAdded`. -/
def itemAdded (s : WidgetPlugin) (itemKey : String) : WidgetPlugin :=
  let s := { s with m_itemAdded := true }
  (s.addPanelItems inter).addDockItems inter itemKey

/-- `itemRemoved`; popups and tooltips are left out. -/
def itemRemoved (s : WidgetPlugin) (itemKey : String) : WidgetPlugin :=
  let s := { s with m_itemAdded := false }
  let s := s.hideCardItem
  let s := s.hideItem inter itemKey
  s.hideItem inter quickItemKey

/-- `setFashionMode`. -/
def setFashionMode (s : WidgetPlugin) (fashionMode : Bool) : WidgetPlugin :=
  if s.m_fashionMode = fashionMode then s
  else
    let s := { s with m_fashionMode := fashionMode }
    if !hasFlag inter.getPluginFlags attributeHasCard then s
    else if !s.m_fashionMode then s.hideCardItem
    else if s.m_itemAdded then s.createCardItemIfNeeded inter
    else s

/-- The part of `onDockEventMessageArrived` that is not passed on to the plugin. -/
def onDockEventMessageArrived (s : WidgetPlugin) (msgType : String) (msgData : Bool) :
    WidgetPlugin :=
  if msgType = msgDockFashionMode then s.setFashionMode inter msgData else s

/-- The plugin deletes its card window, unless that is visible. -/
def dropCardWindow (s : WidgetPlugin) : WidgetPlugin :=
  match s.cardWindow with
  | some w =>
    if (s.plugins.window w).visible then s
    else { s with plugins := s.plugins.destroyWindow callbacks w, cardWindow := none }
  | none => s

def step (s : WidgetPlugin) : PluginEvent → WidgetPlugin
  | .itemAdded itemKey => s.itemAdded inter itemKey
  | .itemRemoved itemKey => s.itemRemoved inter itemKey
  | .onDockEventMessageArrived msgType msgData =>
    s.onDockEventMessageArrived inter msgType msgData
  | .deferredDelete p => { s with plugins := s.plugins.deferredDelete callbacks p }
  | .plugin_close w => { s with plugins := s.plugins.hideWindow callbacks w }
  | .dropCardWindow => s.dropCardWindow
  | .otherItem plugin =>
    if plugin.pluginId = inter.pluginName then s
    else { s with plugins := addWindow s.plugins fun _ => plugin }

/-- The window of a card item is that of `m_cardItem`, as long as it lives. -/
theorem cardItemWindow_eq_some {s : WidgetPlugin} {w : ℕ} : s.cardItemWindow = some w ↔
    ∃ item, s.m_cardItem = some item ∧ (s.plugins.window w).alive = true ∧ item.window = w := by
  unfold cardItemWindow
  cases hitem : s.m_cardItem with
  | none => simp
  | some item =>
    simp only [Option.bind_some, Option.some.injEq]
    constructor
    · intro hwindow
      split at hwindow
      · rename_i halive
        obtain rfl := Option.some.inj hwindow
        exact ⟨item, rfl, halive, rfl⟩
      · simp at hwindow
    · intro hsome
      obtain ⟨item', rfl, halive, rfl⟩ := hsome
      rw [if_pos halive]

/-- A card with a window is bound and shown. -/
theorem presentCardItem_eq {s : WidgetPlugin} {item : CardPluginItem}
    (hitem : s.m_cardItem = some item) (halive : (s.plugins.window item.window).alive = true) :
    s.presentCardItem inter =
      { s with
        plugins := (EmbedPlugin.bind s.plugins item.window
          (inter.setProperties .card item.itemKey)).showWindow item.window } := by
  have hwindow : s.cardItemWindow = some item.window :=
    cardItemWindow_eq_some.mpr ⟨item, hitem, halive, rfl⟩
  simp only [presentCardItem, bindCardPluginSurface, hitem, hwindow]
  simp [showCardItem, cardItemWindow, halive]

/-- A card without a window stays as it is. -/
theorem presentCardItem_of_none {s : WidgetPlugin} (hnone : s.cardItemWindow = none) :
    s.presentCardItem inter = s := by
  cases hitem : s.m_cardItem with
  | none => simp [presentCardItem, bindCardPluginSurface, hitem]
  | some item => simp [presentCardItem, bindCardPluginSurface, hitem, hnone]

/-- A new window is the next one, and it gets the properties that are set. -/
theorem dataAt_addWindow {r : SMap} (h : r.Consistent)
    (set : EmbedPluginPrivate → EmbedPluginPrivate) (w : ℕ) :
    dataAt (addWindow r set) w = if w = r.windows then some (set {}) else dataAt r w := by
  have hcreated := h.createWindow
  have halive : (r.createWindow.window r.windows).alive = true := by
    simp [Registry.createWindow]
  have hunbound : dataAt r.createWindow r.windows = none := by
    rw [dataAt, Option.map_eq_none_iff, Option.eq_none_iff_forall_ne_some]
    intro p hbound
    exact Nat.lt_irrefl _ (h.bound_lt _ p hbound).1
  have hhidden : (r.createWindow.window r.windows).visible = false := by
    simp [Registry.createWindow]
  rw [addWindow, dataAt_showWindow, dataAt_hideWindow (bind_consistent hcreated halive set),
    bind_window, hhidden, dataAt_bind hcreated halive, hunbound]
  simp only [Bool.false_eq_true, and_false, if_false, Option.getD_none]
  rfl

theorem addWindow_consistent {r : SMap} (h : r.Consistent)
    (set : EmbedPluginPrivate → EmbedPluginPrivate) : (addWindow r set).Consistent := by
  have halive : (r.createWindow.window r.windows).alive = true := by
    simp [Registry.createWindow]
  exact ((bind_consistent h.createWindow halive set).hideWindow callbacks _).showWindow _

/-- The new window is visible, and the others stay as they are. -/
theorem addWindow_window (r : SMap) (set : EmbedPluginPrivate → EmbedPluginPrivate) :
    (addWindow r set).window =
      Function.update r.window r.windows { alive := true, visible := true } := by
  simp [addWindow, Registry.createWindow]

theorem addWindow_windows (r : SMap) (set : EmbedPluginPrivate → EmbedPluginPrivate) :
    (addWindow r set).windows = r.windows + 1 := by
  simp [addWindow, Registry.createWindow]

end WidgetPlugin

end DdeTrayLoader.Plugin
