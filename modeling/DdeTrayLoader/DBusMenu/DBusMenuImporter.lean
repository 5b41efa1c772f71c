import DdeTrayLoader.DBusMenu.DBusTypes
import DdeTrayLoader.Lists.MoveLast
import DdeTrayLoader.Objects.Store
import DdeTrayLoader.Tray.Registered

/-!
# The importer of a menu

`DBusMenuImporter` keeps Qt menus like the menu that another process exports. It fetches the
children of one item at a time with `GetLayout`, and finds the action of an item by its id in
`m_actionForId`.

An action or a menu that is no longer wanted is deleted later, from the event loop: until then it
is still listed. A menu owns the actions and the menus created for it and deletes them with
itself, and an action that is deleted takes the entry of its id out of `m_actionForId`.

Objects are found by reference. Ownership is kept as the list of the menus that own an object, its
parent first. What the service sends and what the user does are the events.
-/

namespace DdeTrayLoader.DBusMenu

open DdeTrayLoader.Objects DdeTrayLoader.Tray DdeTrayLoader.Lists

abbrev ActionRef : Type := ℕ

abbrev MenuRef : Type := ℕ

/-- `m_menu` -/
def rootMenu : MenuRef := 0

/-- A `QAction` of the importer. -/
structure Action (kit : Toolkit) where
  /-- The id its handlers were connected for. -/
  entry : ℤ
  /-- `_dbusmenu_id`, `0` when it is not set. -/
  id : ℤ
  /-- `action->menu()`, while that menu exists. -/
  menu : Option MenuRef
  owners : List MenuRef
  /-- The text and the icon of the widget that `createKdeTitle` makes. -/
  title : Option (List Char × kit.Icon)
  look : Look kit

/-- A `QMenu` of the importer. -/
structure Menu where
  owners : List MenuRef
  /-- The action that it is the menu of. -/
  menuAction : Option ActionRef
  /-- `menu->actions()` -/
  actions : List ActionRef
  /-- `aboutToHide` is connected. -/
  watched : Bool

/-- An object with a deferred deletion. -/
inductive Deferred
  | action (action : ActionRef)
  | menu (menu : MenuRef)
  deriving DecidableEq

/-- A call to the service. -/
inductive Request
  | getLayout (id : ℤ)
  | aboutToShow (id : ℤ)
  | event (id : ℤ) (eventId : String)
  deriving DecidableEq

/-- A signal of the importer. -/
inductive Emission
  | menuUpdated (menu : MenuRef)
  | actionActivationRequested (action : ActionRef)
  deriving DecidableEq

/-- The importer, with the calls that the service has not taken yet, oldest first. -/
structure Importer (kit : Toolkit) where
  actions : Store (Action kit)
  menus : Store Menu
  actionForId : ℤ → Option ActionRef
  /-- The deletions posted to the event loop, oldest first. -/
  deferred : List Deferred
  idsRefreshedByAboutToShow : List ℤ
  pendingLayoutUpdates : List ℤ
  /-- `m_pendingLayoutUpdateTimer.isActive()` -/
  pendingLayoutUpdateTimer : Bool
  forceRefresh : Bool
  themeType : ThemeType
  requests : List Request
  emitted : List Emission

/-- An event of the importer: a message of the service, an action of the user, or a turn of the
event loop. -/
inductive Event (kit : Toolkit)
  | layoutUpdated (revision : ℕ) (parentId : ℤ)
  | itemsPropertiesUpdated (updatedList : List (DBusMenuItem kit))
      (removedList : List DBusMenuItemKeys)
  | itemActivationRequested (id : ℤ) (timestamp : ℕ)
  | getLayoutFinished (parentId : ℤ) (reply : Option (ℕ × DBusMenuLayoutItem kit))
  | aboutToShowFinished (id : ℤ) (reply : Option Bool)
  | timeout (order : HashOrder ℤ)
  | deferredDelete
  | rightClick
  | aboutToShow (menu : MenuRef)
  | aboutToHide (menu : MenuRef)
  | activate (action : ActionRef)
  | themeTypeChanged (themeType : ThemeType)

namespace Importer

variable {kit : Toolkit}

/-- The constructor of `DBusMenuImporter`. -/
def create (kit : Toolkit) (themeType : ThemeType) : Importer kit where
  actions := Store.empty
  menus := Store.empty.add ⟨[], none, [], false⟩
  actionForId _ := none
  deferred := []
  idsRefreshedByAboutToShow := []
  pendingLayoutUpdates := []
  pendingLayoutUpdateTimer := false
  forceRefresh := false
  themeType := themeType
  requests := [.getLayout 0]
  emitted := []

def request (s : Importer kit) (request : Request) : Importer kit :=
  { s with requests := s.requests ++ [request] }

def refresh (s : Importer kit) (id : ℤ) : Importer kit := s.request (.getLayout id)

def sendEvent (s : Importer kit) (id : ℤ) (eventId : String) : Importer kit :=
  s.request (.event id eventId)

def emit (s : Importer kit) (emission : Emission) : Importer kit :=
  { s with emitted := s.emitted ++ [emission] }

/-- `action->menu()`, null once the menu is gone. -/
def menuOf (s : Importer kit) (action : Action kit) : Option MenuRef :=
  action.menu.filter fun m => (s.menus.find m).isSome

def menuForId (s : Importer kit) (id : ℤ) : Option MenuRef :=
  if id = 0 then some rootMenu
  else (s.actionForId id).bind fun r => (s.actions.find r).bind s.menuOf

/-- `menu->menuAction()->property("_dbusmenu_id").toInt()` -/
def menuId (s : Importer kit) (menu : Menu) : ℤ :=
  ((menu.menuAction.bind s.actions.find).map Action.id).getD 0

/-! ## Deletion -/

/-- `QObject::deleteLater` -/
def deleteLater (s : Importer kit) (object : Deferred) : Importer kit :=
  if object ∈ s.deferred then s else { s with deferred := s.deferred ++ [object] }

/-- The destructors of some actions and menus, with the `destroyed` handlers of the actions. -/
def sweep (s : Importer kit) (deadAction : ActionRef → Action kit → Bool)
    (deadMenu : MenuRef → Menu → Bool) : Importer kit :=
  let alive (r : ActionRef) : Bool := !(s.actions.find r).any (deadAction r)
  { s with
    actions := s.actions.keep fun r action => !deadAction r action
    menus := (s.menus.keep fun m menu => !deadMenu m menu).map fun _ menu =>
      { menu with menuAction := menu.menuAction.filter alive, actions := menu.actions.filter alive }
    actionForId := fun id =>
      if s.actions.any fun r action => deadAction r action && action.entry = id then none
      else s.actionForId id
    deferred := s.deferred.filter fun object =>
      match object with
      | .action r => alive r
      | .menu m => !(s.menus.find m).any (deadMenu m) }

/-- The event loop deletes the next object. -/
def deferredDelete (s : Importer kit) : Importer kit :=
  match s.deferred with
  | [] => s
  | .action r :: rest =>
    { s with deferred := rest }.sweep (fun r' _ => r' = r) fun _ _ => false
  | .menu m :: rest =>
    { s with deferred := rest }.sweep (fun _ action => m ∈ action.owners)
      fun m' menu => m' = m || m ∈ menu.owners

/-! ## Actions -/

/-- `updateAction`, by the updates it makes. -/
def updateAction (s : Importer kit) (r : ActionRef) (updates : List (String × kit.Variant)) :
    Importer kit :=
  { s with
    actions := s.actions.modify r fun action =>
      { action with look := updateProperties s.themeType s.forceRefresh action.look updates }
    forceRefresh := false }

/-- The action that `createAction` makes before its other properties are read. -/
def bareLook (properties : VariantMap kit) : Look kit :=
  let toggleType := kit.toString (properties.value "toggle-type")
  { Look.new kit with
    separator := kit.toString (properties.value "type") = "separator"
    checkable := toggleType ≠ ""
    radio := toggleType = "radio" }

/-- The properties that `createAction` leaves for `updateAction`. -/
def mutableProperties (properties : VariantMap kit) : VariantMap kit :=
  (((properties.without "type").without "children-display").without "toggle-type").without
    "x-kde-title"

def isKdeTitle (properties : VariantMap kit) : Bool := kit.toBool (properties.value "x-kde-title")

def hasSubmenu (properties : VariantMap kit) : Bool :=
  kit.toString (properties.value "children-display") = "submenu"

/-- What a new action shows. -/
def createdLook (s : Importer kit) (properties : VariantMap kit) : Look kit :=
  let map := mutableProperties properties
  updateProperties s.themeType s.forceRefresh (bareLook properties)
    (requestedUpdates map map.keys)

/-- The menus that own what is created for a menu. -/
def ownersIn (s : Importer kit) (m : MenuRef) : List MenuRef :=
  m :: ((s.menus.find m).map Menu.owners).getD []

/-- `createAction`, for an action that goes into the menu `m`. -/
def newAction (s : Importer kit) (m : MenuRef) (id : ℤ) (properties : VariantMap kit) :
    Action kit :=
  let look := s.createdLook properties
  if isKdeTitle properties then
    { entry := id, id := 0, menu := none, owners := s.ownersIn m,
      title := some (look.text, look.icon), look := Look.new kit }
  else
    { entry := id, id := id,
      menu := if hasSubmenu properties then some s.menus.next else none,
      owners := s.ownersIn m, title := none, look := look }

/-- `menu->addAction(action)`: the action becomes the last one. -/
def addLast (menu : Menu) (r : ActionRef) : Menu :=
  { menu with actions := moveLast menu.actions r }

/-- The branch of `slotGetLayoutFinished` for an id without an action. -/
def insertAction (s : Importer kit) (m : MenuRef) (id : ℤ) (properties : VariantMap kit) :
    Importer kit :=
  let action := s.newAction m id properties
  let r := s.actions.next
  let menus :=
    if action.menu = none then s.menus
    else s.menus.add ⟨s.ownersIn m, some r, [], false⟩
  { s with
    actions := s.actions.add action
    menus := menus.modify m fun menu => { addLast menu r with watched := true }
    actionForId := Function.update s.actionForId id (some r)
    forceRefresh := false }

/-- The properties of a listed item that are read again. -/
def filteredKeys (properties : VariantMap kit) : List String :=
  ((properties.keys.erase "type").erase "toggle-type").erase "children-display"

/-- The branch of `slotGetLayoutFinished` for an id with an action. -/
def moveAction (s : Importer kit) (m : MenuRef) (r : ActionRef) (properties : VariantMap kit) :
    Importer kit :=
  let s := s.updateAction r (requestedUpdates properties (filteredKeys properties))
  { s with menus := s.menus.modify m fun menu => addLast menu r }

/-- The second loop of `slotGetLayoutFinished`. -/
def insertOrUpdate (m : MenuRef) (s : Importer kit) (dbusMenuItem : DBusMenuLayoutItem kit) :
    Importer kit :=
  match s.actionForId dbusMenuItem.id with
  | none => s.insertAction m dbusMenuItem.id dbusMenuItem.properties
  | some r => s.moveAction m r dbusMenuItem.properties

/-- The first loop of `slotGetLayoutFinished`. -/
def removeOutdated (newDBusMenuItemIds : List ℤ) (s : Importer kit) (r : ActionRef) :
    Importer kit :=
  match s.actions.find r with
  | none => s
  | some action =>
    if action.id ∈ newDBusMenuItemIds then s
    else
      let s := s.deleteLater (.action r)
      let s := match s.menuOf action with
        | none => s
        | some m => s.deleteLater (.menu m)
      { s with actionForId := Function.update s.actionForId action.id none }

/-- The actions listed in a menu. -/
def actionsOf (s : Importer kit) (m : MenuRef) : List ActionRef :=
  ((s.menus.find m).map Menu.actions).getD []

/-- What a layout does to a menu. -/
def replaceLayout (s : Importer kit) (m : MenuRef) (rootItem : DBusMenuLayoutItem kit) :
    Importer kit :=
  let s := (s.actionsOf m).foldl (removeOutdated rootItem.childIds) s
  rootItem.children.foldl (insertOrUpdate m) s

/-! ## Slots -/

def slotLayoutUpdated (s : Importer kit) (parentId : ℤ) : Importer kit :=
  if parentId ∈ s.idsRefreshedByAboutToShow then
    { s with idsRefreshedByAboutToShow := s.idsRefreshedByAboutToShow.filter (· ≠ parentId) }
  else
    { s with
      pendingLayoutUpdates := s.pendingLayoutUpdates.insert parentId
      pendingLayoutUpdateTimer := true }

def processPendingLayoutUpdates (s : Importer kit) (order : HashOrder ℤ) : Importer kit :=
  (order.list s.pendingLayoutUpdates).foldl refresh { s with pendingLayoutUpdates := [] }

/-- The single-shot timer runs out. -/
def timeout (s : Importer kit) (order : HashOrder ℤ) : Importer kit :=
  if s.pendingLayoutUpdateTimer then
    { s with pendingLayoutUpdateTimer := false }.processPendingLayoutUpdates order
  else s

/-- The update of the properties of one item, when its action is known. -/
def updateItem (s : Importer kit) (id : ℤ) (updates : List (String × kit.Variant)) :
    Importer kit :=
  match s.actionForId id with
  | none => s
  | some r => { s with
      actions := s.actions.modify r fun action =>
        { action with look := updateProperties s.themeType s.forceRefresh action.look updates } }

def slotItemsPropertiesUpdated (s : Importer kit) (updatedList : List (DBusMenuItem kit))
    (removedList : List DBusMenuItemKeys) : Importer kit :=
  let s := updatedList.foldl (fun s item => s.updateItem item.id item.properties.entries) s
  removedList.foldl
    (fun s item => s.updateItem item.id (item.properties.map fun key => (key, kit.invalid))) s

def slotItemActivationRequested (s : Importer kit) (id : ℤ) : Importer kit :=
  match s.actionForId id with
  | none => s
  | some r => s.emit (.actionActivationRequested r)

def slotGetLayoutFinished (s : Importer kit) (parentId : ℤ)
    (reply : Option (ℕ × DBusMenuLayoutItem kit)) : Importer kit :=
  match s.menuForId parentId, reply with
  | none, _ => s
  | some m, none => s.emit (.menuUpdated m)
  | some m, some (_, rootItem) => (s.replaceLayout m rootItem).emit (.menuUpdated m)

/-- `updateMenu(menu)` -/
def updateMenuOf (s : Importer kit) (menu : Menu) : Importer kit :=
  (s.request (.aboutToShow (s.menuId menu))).sendEvent (s.menuId menu) "opened"

/-- `updateMenu(menu)` with the menu of the whole importer. -/
def updateRootMenu (s : Importer kit) : Importer kit :=
  match s.menus.find rootMenu with
  | none => s
  | some menu => s.updateMenuOf menu

/-- `updateMenu(force)` -/
def updateMenu (s : Importer kit) (force : Bool) : Importer kit :=
  { s with forceRefresh := force }.updateRootMenu

def slotAboutToShowDBusCallFinished (s : Importer kit) (id : ℤ) (reply : Option Bool) :
    Importer kit :=
  match s.menuForId id, reply with
  | none, _ => s
  | some m, none => s.emit (.menuUpdated m)
  | some m, some needRefresh =>
    if needRefresh || s.actionsOf m = [] then
      { s with idsRefreshedByAboutToShow := s.idsRefreshedByAboutToShow.insert id }.refresh id
    else s.emit (.menuUpdated m)

/-- The user opens a submenu. -/
def slotMenuAboutToShow (s : Importer kit) (m : MenuRef) : Importer kit :=
  match s.menus.find m with
  | none => s
  | some menu => if m = rootMenu then s else s.updateMenuOf menu

/-- A menu closes. -/
def slotMenuAboutToHide (s : Importer kit) (m : MenuRef) : Importer kit :=
  match s.menus.find m with
  | none => s
  | some menu => if menu.watched then s.sendEvent (s.menuId menu) "closed" else s

/-- `QAction::activate`, which checks or unchecks the action before `triggered`. -/
def triggered (look : Look kit) : Look kit :=
  if look.checkable then { look with checked := look.radio || !look.checked } else look

/-- The user activates an action, and `triggered` calls `sendClickedEvent`. -/
def activate (s : Importer kit) (r : ActionRef) : Importer kit :=
  match s.actions.find r with
  | none => s
  | some action =>
    if action.look.enabled then
      { s with
        actions := s.actions.modify r fun action =>
          { action with look := triggered action.look } }.sendEvent action.entry "clicked"
    else s

/-- What the importer does at an event. -/
def step (s : Importer kit) : Event kit → Importer kit
  | .layoutUpdated _ parentId => s.slotLayoutUpdated parentId
  | .itemsPropertiesUpdated updatedList removedList =>
    s.slotItemsPropertiesUpdated updatedList removedList
  | .itemActivationRequested id _ => s.slotItemActivationRequested id
  | .getLayoutFinished parentId reply => s.slotGetLayoutFinished parentId reply
  | .aboutToShowFinished id reply => s.slotAboutToShowDBusCallFinished id reply
  | .timeout order => s.timeout order
  | .deferredDelete => s.deferredDelete
  | .rightClick => s.updateRootMenu
  | .aboutToShow m => s.slotMenuAboutToShow m
  | .aboutToHide m => s.slotMenuAboutToHide m
  | .activate r => s.activate r
  | .themeTypeChanged themeType => { s with themeType := themeType }.updateMenu true

end Importer

end DdeTrayLoader.DBusMenu
