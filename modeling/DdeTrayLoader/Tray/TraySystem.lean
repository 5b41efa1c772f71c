import DdeTrayLoader.Tray.Handlers
import DdeTrayLoader.Tray.Indicators
import DdeTrayLoader.Transition.Run
import Mathlib.Data.Finset.Basic

/-!
# The application tray

The three protocols of the tray with everything that acts on them: the StatusNotifierWatcher
and its list, the creations of SNI handlers that run in the thread pool, TrayManager1 with
its icons and signals, the 200 ms timers, and the X11 events and timers of the XEmbed
handlers. A step is one callback of the tray's event loop, or one action of a process
outside it; an event that cannot happen leaves the state as it is.

A nested event loop of an XEmbed handler adds nothing to this but its frame: while it waits,
every other event can happen.
-/

namespace DdeTrayLoader.Tray

open Transition

/-- `enum Protocol`. -/
inductive Protocol where
  | UNKNOWN
  | XEMBED
  | SNI
  deriving DecidableEq, Repr

/-- What TrayManager1 keeps of an icon. -/
structure IconState where
  enableNotify : Bool := true
  pixmapData : List UInt8
  deriving DecidableEq, Repr

structure SniTrayProtocolHandler where
  sniServicePath : String
  deriving DecidableEq, Repr

/-- The parts of an item up to its first slash and from there on. -/
def SniTrayProtocolHandler.serviceAndPath (servicePath : String) : String × String :=
  (String.ofList (servicePath.toList.takeWhile (· ≠ '/')),
    String.ofList (servicePath.toList.dropWhile (· ≠ '/')))

/-- The members of `SniTrayProtocol`. -/
structure SniTrayProtocol where
  items : Registered String SniTrayProtocolHandler
  pendingItems : Finset String

/-- The desktop session the tray runs in: what the bus and the X server answer about the
processes of services and windows, the windows they start with, and which ids the X server
gave this client for its own windows. A window that takes over the id of destroyed ones may
belong to another process. -/
structure Session where
  servicePid : String → ℕ
  windowPid : Window → ℕ → ℕ
  wayland : Bool
  ownId : Window → Bool
  watcher : List String
  icons : QHash Window IconState
  icons_foreign : ∀ window ∈ icons, ownId window = false

/-- The process of an SNI item. -/
def Session.itemPid (session : Session) (item : String) : ℕ :=
  session.servicePid (SniTrayProtocolHandler.serviceAndPath item).1

/-- A session that starts without items and icons, in which the ids from `0x200000` on belong
to this client. -/
def Session.empty (wayland : Bool) (servicePid : String → ℕ) (windowPid : Window → ℕ → ℕ) :
    Session where
  servicePid := servicePid
  windowPid := windowPid
  wayland := wayland
  ownId window := decide (0x200000 ≤ window)
  watcher := []
  icons := ∅
  icons_foreign _ hmem := absurd hmem (AList.notMem_empty _)

/-- The state of the tray. `read` is bookkeeping: whether `registedItemChanged` has run since
the watcher's list changed. -/
structure TraySystem where
  registeredMap : ℕ → Protocol
  watcher : List String
  read : Bool
  sni : SniTrayProtocol
  creations : List String
  icons : QHash Window IconState
  signals : ℕ
  timers : ℕ
  xembed : Registered Window ℕ
  handlers : Handlers
  indicator : DDEindicatorProtocol

/-- The events of XEmbed handlers. -/
inductive HandlerEvent where
  | initX11resources (ref : ℕ) (container : Window)
  | iconCaptured (ref : ℕ) (enable : Bool)
  /-- The hover timer fires. -/
  | sendHover (ref : ℕ)
  /-- A mouse button is released; `geometry` says whether the icon window answered. -/
  | sendClick (ref : ℕ) (geometry : Bool)
  | loopQuits
  | unshape (i : ℕ)

inductive Event where
  /-- The watcher's list of items changes. -/
  | watcherChanged (items : List String)
  | registedItemChanged (order : HashOrder String)
  /-- The queued call at the end of a creation. -/
  | handlerCreated (item : String) (order : HashOrder Window)
  | registerIcon (window : Window) (pixmapData : List UInt8)
  | unregisterIcon (window : Window)
  /-- A signal of TrayManager1 arrives, and arms a timer. -/
  | onTrayIconsChanged
  /-- A 200 ms timer fires; `listed` is the order of the icons, `order` that of the items. -/
  | syncTrayIcons (listed order : HashOrder Window)
  | leaveNotify (window : Window)
  | destroyNotify (window : Window) (order : HashOrder Window)
  | handler (e : HandlerEvent)
  | indicatorsChanged (indicatorPaths : List String) (order : HashOrder String)
  | indicatorDelayed (i : ℕ)

namespace TraySystem

/-- `registeredMap[pid] = protocol`. -/
def setRegistered (t : TraySystem) (pid : ℕ) (protocol : Protocol) : TraySystem :=
  { t with registeredMap := Function.update t.registeredMap pid protocol }

/-- Queue the creation of a handler for an item that has none. -/
def startCreation (t : TraySystem) (item : String) : TraySystem :=
  if item ∉ t.sni.items.keys ∧ item ∉ t.sni.pendingItems then
    { t with
      sni := { t.sni with pendingItems := insert item t.sni.pendingItems }
      creations := t.creations ++ [item] }
  else t

/-- Drop an SNI item that the watcher no longer lists. -/
def removeSniItem (currentRegistedItems : List String) (t : TraySystem) (item : String) :
    TraySystem :=
  if item ∈ currentRegistedItems then t
  else
    match t.sni.items.value item with
    | none => t
    | some _ =>
      { t with sni := { t.sni with items := t.sni.items.remove item } }.setRegistered
        (t.sni.items.pid item) .UNKNOWN

/-- `SniTrayProtocol::registedItemChanged`, which lists its items in this order. -/
def registedItemChanged (t : TraySystem) (order : HashOrder String) : TraySystem :=
  let currentRegistedItems := t.watcher
  let t := { t with read := true }
  if currentRegistedItems = order.list t.sni.items.keys then t
  else
    let t := run startCreation t currentRegistedItems
    let t := run (removeSniItem currentRegistedItems) t (order.list t.sni.items.keys)
    -- creations that were started for items that are gone are cancelled
    { t with sni :=
      { t.sni with pendingItems := t.sni.pendingItems.filter (· ∈ currentRegistedItems) } }

/-- Drop a registered icon: its handler is invalidated and destroyed. -/
def removeXembedItem (t : TraySystem) (window : Window) (ref : ℕ) : TraySystem :=
  { t with
    xembed := t.xembed.remove window
    handlers := (t.handlers.invalidate ref).destruct ref }

/-- The icon `onRemoveItemByPid` finds when it lists the items in this order. -/
def firstOfPid (t : TraySystem) (order : HashOrder Window) (pid : ℕ) : Option Window :=
  (order.list t.xembed.keys).find? fun id => t.xembed.pid id = pid

/-- `XembedProtocol::onRemoveItemByPid`. -/
def onRemoveItemByPid (t : TraySystem) (order : HashOrder Window) (pid : ℕ) : TraySystem :=
  match t.firstOfPid order pid with
  | none => t
  | some window =>
    match t.xembed.value window with
    | none => t
    | some ref => t.removeXembedItem window ref

/-- Register an SNI item whose handler is done. The signal `removeXEmbedItemByPid` is delivered
at once. -/
def registerSniItem (session : Session) (t : TraySystem) (item : String)
    (order : HashOrder Window) : TraySystem :=
  let pid := session.itemPid item
  let t := if t.registeredMap pid ≠ .SNI then t.onRemoveItemByPid order pid else t
  let t := t.setRegistered pid .SNI
  { t with sni := { t.sni with items := t.sni.items.insert item ⟨item⟩ pid } }

/-- The queued call at the end of a creation. -/
def handlerCreated (session : Session) (t : TraySystem) (item : String)
    (order : HashOrder Window) : TraySystem :=
  if item ∉ t.creations then t
  else
    let t := { t with creations := t.creations.erase item }
    if item ∉ t.sni.pendingItems then t
    else
      let t := { t with sni := { t.sni with pendingItems := t.sni.pendingItems.erase item } }
      t.registerSniItem session item order

/-- `TrayManager1::registerIcon`, which emits `Added`. Icon windows are other clients'. -/
def registerIcon (session : Session) (t : TraySystem) (window : Window)
    (pixmapData : List UInt8) : TraySystem :=
  if session.ownId window || window ∈ t.icons then t
  else
    { t with
      icons := t.icons.insert window { pixmapData := pixmapData }
      signals := t.signals + 1 }

/-- `TrayManager1::unregisterIcon`, which emits `Removed`. -/
def unregisterIcon (t : TraySystem) (window : Window) : TraySystem :=
  if window ∉ t.icons then t
  else { t with icons := t.icons.erase window, signals := t.signals + 1 }

/-- `XembedProtocol::onTrayIconsChanged`. -/
def onTrayIconsChanged (t : TraySystem) : TraySystem :=
  if t.signals = 0 then t else { t with signals := t.signals - 1, timers := t.timers + 1 }

/-- Construct a handler for an icon that has none, and drop it again when the icon's process
is shown as an SNI item. -/
def addXembedItem (session : Session) (t : TraySystem) (window : Window) : TraySystem :=
  if window ∈ t.xembed.keys then t
  else
    let ref := t.handlers.next
    let pid := session.windowPid window (t.handlers.destroyed window)
    let t := { t with handlers := t.handlers.construct window }
    if t.registeredMap pid = .SNI then { t with handlers := t.handlers.destruct ref }
    else
      let t := t.setRegistered pid .XEMBED
      { t with xembed := t.xembed.insert window ref pid }

/-- Drop a registered icon that TrayManager1 no longer lists. -/
def removeGoneItem (currentRegistedItems : List Window) (t : TraySystem) (window : Window) :
    TraySystem :=
  if window ∈ currentRegistedItems then t
  else
    match t.xembed.value window with
    | none => t
    | some ref =>
      (t.removeXembedItem window ref).setRegistered (t.xembed.pid window) .UNKNOWN

/-- The callback of the 200 ms timer. -/
def syncTrayIcons (session : Session) (t : TraySystem) (listed order : HashOrder Window) :
    TraySystem :=
  if t.timers = 0 then t
  else
    let t := { t with timers := t.timers - 1 }
    let currentRegistedItems := listed.list t.icons.keys
    if currentRegistedItems = order.list t.xembed.keys then t
    else
      let t := run (addXembedItem session) t currentRegistedItems
      run (removeGoneItem currentRegistedItems) t (order.list t.xembed.keys)

/-- The registered handlers in this order. -/
def registeredRefs (t : TraySystem) (order : HashOrder Window) : List ℕ :=
  (order.list t.xembed.keys).filterMap t.xembed.value

/-- The callbacks of XEmbed handlers. Only objects that are alive start one, an icon that can
be hovered or clicked is enabled, and `xcb_generate_id` returns ids of this client. -/
def handlerStep (session : Session) (h : Handlers) : HandlerEvent → Handlers
  | .initX11resources ref container =>
    if (h.handler ref).initQueued && session.ownId container && container ≠ 0 then
      h.initX11resources ref container
    else h
  | .iconCaptured ref enable =>
    if (h.handler ref).iconTimer then h.iconCaptured ref enable else h
  | .sendHover ref =>
    if (h.handler ref).alive && (h.handler ref).enabled then
      h.wait session.wayland ref .sendHover
    else h
  | .sendClick ref geometry =>
    if (h.handler ref).alive && (h.handler ref).enabled && geometry then
      h.wait session.wayland ref .sendClick
    else h
  | .loopQuits => h.loopQuits
  | .unshape i => h.unshape i

def step (session : Session) (t : TraySystem) : Event → TraySystem
  | .watcherChanged items => { t with watcher := items, read := false }
  | .registedItemChanged order => t.registedItemChanged order
  | .handlerCreated item order => t.handlerCreated session item order
  | .registerIcon window pixmapData => t.registerIcon session window pixmapData
  | .unregisterIcon window => t.unregisterIcon window
  | .onTrayIconsChanged => t.onTrayIconsChanged
  | .syncTrayIcons listed order => t.syncTrayIcons session listed order
  | .leaveNotify window =>
    if window = 0 then t
    else { t with handlers := t.handlers.leaveNotify (t.registeredRefs (.stored _)) window }
  | .destroyNotify window order =>
    -- a container is destroyed by its handler's destructor only, when nothing owns it any more
    if window = 0 || session.ownId window then t
    else { t with handlers := t.handlers.destroyNotify (t.registeredRefs order) window }
  | .handler e => { t with handlers := handlerStep session t.handlers e }
  | .indicatorsChanged indicatorPaths order =>
    { t with indicator := t.indicator.registedItemChanged indicatorPaths order }
  | .indicatorDelayed i => { t with indicator := t.indicator.initDelayed i }

/-- The tray after its protocols are constructed; both have queued a first look at their
lists. -/
def initial (session : Session) : TraySystem where
  registeredMap _ := .UNKNOWN
  watcher := session.watcher
  read := false
  sni := ⟨.empty, ∅⟩
  creations := []
  icons := session.icons
  signals := 1
  timers := 0
  xembed := .empty
  handlers := .initial
  indicator := .initial

end TraySystem

end DdeTrayLoader.Tray
