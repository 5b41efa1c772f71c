import DdeTrayLoader.Plugin.XdgActivation
import DdeTrayLoader.Tray.Icons
import Mathlib.Logic.Function.Basic

/-!
# The handler of a StatusNotifierItem

The handler of an item reads the item's properties when it needs them, except for the pixmaps of
its three icons, which it caches, and the path of its menu. It renews these when the item announces
a change. A left click is passed on with an activation token.

A read blocks and returns what the item has at that time; a callback is not interrupted. `heard`
counts the announcements of an icon that have arrived, and is bookkeeping of the model.
-/

namespace DdeTrayLoader.Tray.Sni

open DdeTrayLoader.Transition DdeTrayLoader.Plugin

/-- The icons of an item: `Icon`, `OverlayIcon` and `AttentionIcon`. -/
inductive IconRole
  | icon
  | overlay
  | attention
  deriving DecidableEq

/-- The properties of the item. -/
structure StatusNotifierItem where
  iconName : IconRole → String
  iconPixmap : IconRole → List DBusImage
  iconThemePath : String
  menu : String

/-- `NewIcon`, `NewOverlayIcon`, `NewAttentionIcon` and `NewMenu`. -/
inductive ItemSignal
  | newIcon (role : IconRole)
  | newMenu
  deriving DecidableEq

/-- What the handler asks of the item and of the importer of its menu, which is given by its
path. -/
inductive HandlerCall
  | ProvideXdgActivationToken (token : String)
  | Activate (x y : ℤ)
  | ContextMenu (x y : ℤ)
  | updateMenu (path : String)
  | forceUpdate (path : String)
  | showMenu (path : String)
  deriving DecidableEq

/-- The members of `SniTrayProtocolHandler`. -/
structure SniTrayProtocolHandler where
  cachedIcon : IconRole → QIcon
  ignoreFirstAttention : Bool
  menuPath : String
  /-- The path of the importer. -/
  dbusMenuImporter : Option String
  activation : XdgActivation Unit

structure SniSystem where
  item : StatusNotifierItem
  /-- The signals on their way, oldest first. -/
  signals : List ItemSignal
  handler : SniTrayProtocolHandler
  calls : List HandlerCall
  heard : IconRole → ℕ

inductive SniEvent
  | setIcon (role : IconRole) (iconName : String) (iconPixmap : List DBusImage) (announced : Bool)
  | setIconThemePath (iconThemePath : String)
  | setMenu (menu : String) (announced : Bool)
  | deliver
  /-- The window of the handler may have no handle. -/
  | leftReleased (handle : Bool)
  | rightReleased (handle : Bool)
  | tokenDone (i : ℕ) (token : String)
  | themeTypeChanged
  | setActive (active : Bool)

/-- Qt, where any image with a size is accepted. -/
def sizedBuild : QtBuild where
  littleEndian := true
  accepts width height := decide (0 < width.toInt ∧ 0 < height.toInt)
  accepts_pos := of_decide_eq_true
  accepts_of_small := fun hwidth hheight _ => decide_eq_true ⟨hwidth, hheight⟩

/-- Icons by the names of the theme and of files, null when there is none. -/
structure IconTheme where
  fromTheme : String → QIcon
  fromFile : String → QIcon

/-- The path of an item that has no menu on the bus. -/
def NO_DBUSMENU : String := "/NO_DBUSMENU"

/-! ## What the getters return -/

namespace StatusNotifierItem

variable (item : StatusNotifierItem) (theme : IconTheme)

/-- `overlayIcon` and `attentionIcon`, given what is cached. -/
def named (role : IconRole) (cached : QIcon) : QIcon :=
  if item.iconName role ≠ "" then theme.fromTheme (item.iconName role) else cached

/-- `icon`, given what is cached. -/
def icon (cached : QIcon) : QIcon :=
  let iconName := item.iconName .icon
  let themed := if iconName ≠ "" then theme.fromTheme iconName else []
  if themed ≠ [] then themed
  else
    let file := if item.iconThemePath ≠ "" then
      theme.fromFile (item.iconThemePath ++ "/" ++ iconName) else []
    if file ≠ [] then file else cached

/-- The icon of a role, given what is cached for it. -/
def render (role : IconRole) (cached : QIcon) : QIcon :=
  match role with
  | .icon => item.icon theme cached
  | .overlay => item.named theme .overlay cached
  | .attention => item.named theme .attention cached

end StatusNotifierItem

/-! ## The handler -/

namespace SniSystem

/-- The constructor of the handler, with `init`. -/
def create (qt : QtBuild) (item : StatusNotifierItem) (active : Bool) : SniSystem where
  item := item
  signals := []
  handler :=
    { cachedIcon := fun role => dbusImageList2QIcon qt (item.iconPixmap role)
      ignoreFirstAttention := true
      menuPath := ""
      dbusMenuImporter := none
      activation := .create active }
  calls := []
  heard := fun _ => 0

variable (qt : QtBuild) (s : SniSystem)

def call (c : HandlerCall) : SniSystem := { s with calls := s.calls ++ [c] }

/-- What the handlers of the three signals share: pixmaps are read when there is no name. -/
def renew (role : IconRole) : SniSystem :=
  if s.item.iconName role = "" then
    let icon := dbusImageList2QIcon qt (s.item.iconPixmap role)
    let cachedIcon := Function.update s.handler.cachedIcon role icon
    { s with handler := { s.handler with cachedIcon := cachedIcon } }
  else s

/-- The handler of `NewAttentionIcon`. -/
def newAttentionIcon : SniSystem :=
  if s.handler.ignoreFirstAttention then
    { s with handler := { s.handler with ignoreFirstAttention := false } }
  else s.renew qt .attention

/-- The handler of the signal for an icon. -/
def newIcon (role : IconRole) : SniSystem :=
  match role with
  | .icon => s.renew qt .icon
  | .overlay => s.renew qt .overlay
  | .attention => s.newAttentionIcon qt

/-- The handler of `NewMenu`. -/
def newMenu : SniSystem :=
  { s with handler := { s.handler with menuPath := s.item.menu, dbusMenuImporter := none } }

/-- `menuImporter`, with the state after it. -/
def menuImporter : SniSystem × Option String :=
  match s.handler.dbusMenuImporter with
  | some path => (s, some path)
  | none =>
    let path := if s.handler.menuPath = "" then s.item.menu else s.handler.menuPath
    if path = "" ∨ path = NO_DBUSMENU then
      ({ s with handler := { s.handler with menuPath := path } }, none)
    else
      ({ s with handler := { s.handler with menuPath := path, dbusMenuImporter := some path } },
        some path)

/-- The callback of `tokenReady`. -/
def tokenReady (token : String) : SniSystem :=
  let s := if token ≠ "" then s.call (.ProvideXdgActivationToken token) else s
  s.call (.Activate 0 0)

/-- A left click in `eventFilter`. A click that needs no token is kept as one that got an empty
token. -/
def leftReleased (handle : Bool) : SniSystem :=
  if s.handler.activation.active then
    if handle then
      let (activation, token) := s.handler.activation.requestToken ()
      let s := { s with handler := { s.handler with activation := activation } }
      match token with
      | none => s
      | some token => s.tokenReady token
    else s
  else
    let activation := { s.handler.activation with
      tokens := s.handler.activation.tokens.answerNow () "" }
    { s with handler := { s.handler with activation := activation } }.call (.Activate 0 0)

/-- A right click in `eventFilter`. -/
def rightReleased (handle : Bool) : SniSystem :=
  let (s, importer) := s.menuImporter
  match importer with
  | none => s.call (.ContextMenu 0 0)
  | some path =>
    let s := s.call (.updateMenu path)
    if handle then s.call (.showMenu path) else s

/-- The compositor's answer to the `i`-th request, with the callback. -/
def tokenDone (i : ℕ) (token : String) : SniSystem :=
  let (activation, purpose) := s.handler.activation.done i token
  let s := { s with handler := { s.handler with activation := activation } }
  match purpose with
  | none => s
  | some () => s.tokenReady token

/-- The handler of `themeTypeChanged`. -/
def themeTypeChanged : SniSystem :=
  let (s, importer) := s.menuImporter
  match importer with
  | none => s
  | some path => s.call (.forceUpdate path)

/-- The item announces a change. -/
def announce (signal : ItemSignal) (announced : Bool) : SniSystem :=
  if announced then { s with signals := s.signals ++ [signal] } else s

/-- The next signal arrives. -/
def deliver : SniSystem :=
  match s.signals with
  | [] => s
  | .newIcon role :: rest =>
    let heard := Function.update s.heard role (s.heard role + 1)
    { s with signals := rest, heard := heard }.newIcon qt role
  | .newMenu :: rest => { s with signals := rest }.newMenu

def step : SniEvent → SniSystem
  | .setIcon role iconName iconPixmap announced =>
    let item := { s.item with
      iconName := Function.update s.item.iconName role iconName
      iconPixmap := Function.update s.item.iconPixmap role iconPixmap }
    { s with item := item }.announce (.newIcon role) announced
  | .setIconThemePath iconThemePath =>
    { s with item := { s.item with iconThemePath := iconThemePath } }
  | .setMenu menu announced =>
    { s with item := { s.item with menu := menu } }.announce .newMenu announced
  | .deliver => s.deliver qt
  | .leftReleased handle => s.leftReleased handle
  | .rightReleased handle => s.rightReleased handle
  | .tokenDone i token => s.tokenDone i token
  | .themeTypeChanged => s.themeTypeChanged
  | .setActive active =>
    { s with handler := { s.handler with
      activation := { s.handler.activation with active := active } } }

/-- The icon that the handler returns for a role. -/
def shownIcon (theme : IconTheme) (role : IconRole) : QIcon :=
  s.item.render theme role (s.handler.cachedIcon role)

/-! ## What a click leaves as it is -/

variable {qt} {s}

/-- What the icons depend on is the same. -/
structure SameIcons (s s' : SniSystem) : Prop where
  item : s'.item = s.item
  signals : s'.signals = s.signals
  heard : s'.heard = s.heard
  cachedIcon : s'.handler.cachedIcon = s.handler.cachedIcon
  ignoreFirstAttention : s'.handler.ignoreFirstAttention = s.handler.ignoreFirstAttention

/-- What the menu depends on is the same. -/
structure SameMenu (s s' : SniSystem) : Prop where
  item : s'.item = s.item
  signals : s'.signals = s.signals
  menuPath : s'.handler.menuPath = s.handler.menuPath
  dbusMenuImporter : s'.handler.dbusMenuImporter = s.handler.dbusMenuImporter

theorem SameIcons.refl (s : SniSystem) : SameIcons s s := ⟨rfl, rfl, rfl, rfl, rfl⟩

theorem SameIcons.trans {s' s'' : SniSystem} (h : SameIcons s s') (h' : SameIcons s' s'') :
    SameIcons s s'' :=
  ⟨h'.item.trans h.item, h'.signals.trans h.signals, h'.heard.trans h.heard,
    h'.cachedIcon.trans h.cachedIcon, h'.ignoreFirstAttention.trans h.ignoreFirstAttention⟩

theorem SameMenu.refl (s : SniSystem) : SameMenu s s := ⟨rfl, rfl, rfl, rfl⟩

theorem sameIcons_call (s : SniSystem) (c : HandlerCall) : SameIcons s (s.call c) :=
  ⟨rfl, rfl, rfl, rfl, rfl⟩

theorem same_tokenReady (s : SniSystem) (token : String) :
    SameIcons s (s.tokenReady token) ∧ SameMenu s (s.tokenReady token) := by
  unfold tokenReady
  split_ifs
  · exact ⟨⟨rfl, rfl, rfl, rfl, rfl⟩, ⟨rfl, rfl, rfl, rfl⟩⟩
  · exact ⟨⟨rfl, rfl, rfl, rfl, rfl⟩, ⟨rfl, rfl, rfl, rfl⟩⟩

/-- A left click asks for a token, or it is passed on at once, or there is no handle. -/
theorem leftReleased_cases (s : SniSystem) (handle : Bool) :
    (s.handler.activation.active = true ∧ handle = false ∧ s.leftReleased handle = s) ∨
      (s.handler.activation.active = true ∧ handle = true ∧
        s.leftReleased handle = { s with handler := { s.handler with
          activation := { s.handler.activation with
            tokens := s.handler.activation.tokens.wait () } } }) ∨
      (s.handler.activation.active = false ∧
        s.leftReleased handle = { s with handler := { s.handler with
          activation := { s.handler.activation with
            tokens := s.handler.activation.tokens.answerNow () "" } } }.call (.Activate 0 0)) := by
  unfold leftReleased XdgActivation.requestToken
  by_cases hactive : s.handler.activation.active = true
  · rw [if_pos hactive, if_pos hactive]
    cases handle with
    | false => exact .inl ⟨hactive, rfl, rfl⟩
    | true => exact .inr (.inl ⟨hactive, rfl, rfl⟩)
  · rw [if_neg hactive]
    exact .inr (.inr ⟨Bool.eq_false_iff.mpr hactive, rfl⟩)

theorem same_leftReleased (s : SniSystem) (handle : Bool) :
    SameIcons s (s.leftReleased handle) ∧ SameMenu s (s.leftReleased handle) := by
  obtain ⟨-, -, heq⟩ | ⟨-, -, heq⟩ | ⟨-, heq⟩ := leftReleased_cases s handle
  · rw [heq]
    exact ⟨.refl s, .refl s⟩
  · rw [heq]
    exact ⟨⟨rfl, rfl, rfl, rfl, rfl⟩, ⟨rfl, rfl, rfl, rfl⟩⟩
  · rw [heq]
    exact ⟨⟨rfl, rfl, rfl, rfl, rfl⟩, ⟨rfl, rfl, rfl, rfl⟩⟩

theorem same_tokenDone (s : SniSystem) (i : ℕ) (token : String) :
    SameIcons s (s.tokenDone i token) ∧ SameMenu s (s.tokenDone i token) := by
  unfold tokenDone
  dsimp only
  split
  · exact ⟨⟨rfl, rfl, rfl, rfl, rfl⟩, ⟨rfl, rfl, rfl, rfl⟩⟩
  · obtain ⟨hicons, hmenu⟩ := same_tokenReady { s with handler := { s.handler with
      activation := (s.handler.activation.done i token).1 } } token
    exact ⟨⟨hicons.item, hicons.signals, hicons.heard, hicons.cachedIcon,
      hicons.ignoreFirstAttention⟩, ⟨hmenu.item, hmenu.signals, hmenu.menuPath,
      hmenu.dbusMenuImporter⟩⟩

/-- The path of the menu as far as the handler knows it, or else as the item says. -/
def knownPath (s : SniSystem) : String :=
  if s.handler.menuPath = "" then s.item.menu else s.handler.menuPath

/-- There is no menu at a path. -/
def NoMenu (path : String) : Prop := path = "" ∨ path = NO_DBUSMENU

instance : DecidablePred NoMenu := fun path =>
  inferInstanceAs (Decidable (path = "" ∨ path = NO_DBUSMENU))

/-- The importer is there, or there is none to be made, or it is made. -/
theorem menuImporter_cases (s : SniSystem) :
    (∃ path, s.handler.dbusMenuImporter = some path ∧ s.menuImporter = (s, some path)) ∨
      (s.handler.dbusMenuImporter = none ∧ NoMenu s.knownPath ∧ s.menuImporter =
        ({ s with handler := { s.handler with menuPath := s.knownPath } }, none)) ∨
      (s.handler.dbusMenuImporter = none ∧ ¬NoMenu s.knownPath ∧ s.menuImporter =
        ({ s with handler := { s.handler with
          menuPath := s.knownPath, dbusMenuImporter := some s.knownPath } },
          some s.knownPath)) := by
  unfold menuImporter
  cases himporter : s.handler.dbusMenuImporter with
  | some path => exact .inl ⟨path, rfl, rfl⟩
  | none =>
    by_cases hnone : NoMenu s.knownPath
    · exact .inr (.inl ⟨rfl, hnone, if_pos hnone⟩)
    · exact .inr (.inr ⟨rfl, hnone, if_neg hnone⟩)

theorem sameIcons_menuImporter (s : SniSystem) : SameIcons s s.menuImporter.1 := by
  obtain ⟨path, -, heq⟩ | ⟨-, -, heq⟩ | ⟨-, -, heq⟩ := menuImporter_cases s
  · rw [heq]
    exact .refl s
  · rw [heq]
    exact ⟨rfl, rfl, rfl, rfl, rfl⟩
  · rw [heq]
    exact ⟨rfl, rfl, rfl, rfl, rfl⟩

theorem sameIcons_rightReleased (s : SniSystem) (handle : Bool) :
    SameIcons s (s.rightReleased handle) := by
  have himporter := sameIcons_menuImporter s
  unfold rightReleased
  dsimp only
  split
  · exact himporter.trans (sameIcons_call _ _)
  · split_ifs
    · exact himporter.trans ((sameIcons_call _ _).trans (sameIcons_call _ _))
    · exact himporter.trans (sameIcons_call _ _)

theorem sameIcons_themeTypeChanged (s : SniSystem) : SameIcons s s.themeTypeChanged := by
  have himporter := sameIcons_menuImporter s
  unfold themeTypeChanged
  dsimp only
  split
  · exact himporter
  · exact himporter.trans (sameIcons_call _ _)

/-! ## What an arrival changes -/

/-- The first announcement of the icon for attention is dropped. -/
theorem newIcon_cases (s : SniSystem) (role : IconRole) :
    (role = .attention ∧ s.handler.ignoreFirstAttention = true ∧ s.newIcon qt role =
        { s with handler := { s.handler with ignoreFirstAttention := false } }) ∨
      ((role = .attention → s.handler.ignoreFirstAttention = false) ∧
        s.newIcon qt role = s.renew qt role) := by
  cases role with
  | icon => exact .inr ⟨nofun, rfl⟩
  | overlay => exact .inr ⟨nofun, rfl⟩
  | attention =>
    unfold newIcon newAttentionIcon
    cases hfirst : s.handler.ignoreFirstAttention with
    | false => exact .inr ⟨fun _ => rfl, rfl⟩
    | true => exact .inl ⟨rfl, rfl, rfl⟩

/-- The announcement of an icon has arrived: pixmaps are read unless there is a name or the
announcement is dropped. -/
structure Arrived (qt : QtBuild) (role : IconRole) (rest : List ItemSignal) (s s' : SniSystem) :
    Prop where
  item : s'.item = s.item
  signals : s'.signals = rest
  heard : s'.heard = Function.update s.heard role (s.heard role + 1)
  ignoreFirstAttention : s'.handler.ignoreFirstAttention =
    if role = .attention then false else s.handler.ignoreFirstAttention
  cachedIcon : s'.handler.cachedIcon = Function.update s.handler.cachedIcon role
    (if (role = .attention → s.handler.ignoreFirstAttention = false) ∧
        s.item.iconName role = "" then
      dbusImageList2QIcon qt (s.item.iconPixmap role)
    else s.handler.cachedIcon role)
  menuPath : s'.handler.menuPath = s.handler.menuPath
  dbusMenuImporter : s'.handler.dbusMenuImporter = s.handler.dbusMenuImporter
  activation : s'.handler.activation = s.handler.activation
  calls : s'.calls = s.calls

/-- An announcement that is not dropped. -/
theorem arrived_renew {role : IconRole} {rest : List ItemSignal}
    (hkept : role = .attention → s.handler.ignoreFirstAttention = false) :
    Arrived qt role rest s ({ s with
      signals := rest
      heard := Function.update s.heard role (s.heard role + 1) }.renew qt role) := by
  have hfirst : s.handler.ignoreFirstAttention =
      if role = .attention then false else s.handler.ignoreFirstAttention := by
    split_ifs with hrole
    · exact hkept hrole
    · rfl
  unfold renew
  by_cases hname : s.item.iconName role = ""
  · rw [if_pos hname]
    refine ⟨rfl, rfl, rfl, hfirst, ?_, rfl, rfl, rfl, rfl⟩
    rw [if_pos ⟨hkept, hname⟩]
  · rw [if_neg hname]
    refine ⟨rfl, rfl, rfl, hfirst, ?_, rfl, rfl, rfl, rfl⟩
    rw [if_neg fun h => hname h.2]
    exact (Function.update_eq_self role _).symm

theorem arrived_newIcon (s : SniSystem) (role : IconRole) (rest : List ItemSignal) :
    Arrived qt role rest s ({ s with
      signals := rest
      heard := Function.update s.heard role (s.heard role + 1) }.newIcon qt role) := by
  obtain ⟨hrole, hignored, heq⟩ | ⟨hkept, heq⟩ := @newIcon_cases qt { s with
    signals := rest
    heard := Function.update s.heard role (s.heard role + 1) } role
  · rw [heq]
    refine ⟨rfl, rfl, rfl, (if_pos hrole).symm, ?_, rfl, rfl, rfl, rfl⟩
    rw [if_neg fun h => Bool.false_ne_true ((h.1 hrole).symm.trans hignored)]
    exact (Function.update_eq_self role _).symm
  · rw [heq]
    exact arrived_renew hkept

/-- Nothing is on its way, or an announcement of an icon or of the menu arrives. -/
theorem deliver_cases (qt : QtBuild) (s : SniSystem) :
    s.deliver qt = s ∨
      (∃ role rest, s.signals = .newIcon role :: rest ∧ Arrived qt role rest s (s.deliver qt)) ∨
      ∃ rest, s.signals = .newMenu :: rest ∧
        s.deliver qt = { s with signals := rest }.newMenu := by
  unfold deliver
  cases hsignals : s.signals with
  | nil => exact .inl rfl
  | cons signal rest =>
    cases signal with
    | newIcon role => exact .inr (.inl ⟨role, rest, rfl, arrived_newIcon s role rest⟩)
    | newMenu => exact .inr (.inr ⟨rest, rfl, rfl⟩)

theorem announce_eq (s : SniSystem) (signal : ItemSignal) (announced : Bool) :
    s.announce signal announced =
      { s with signals := s.signals ++ if announced then [signal] else [] } := by
  unfold announce
  split_ifs
  · rfl
  · rw [List.append_nil]

end SniSystem

end DdeTrayLoader.Tray.Sni
