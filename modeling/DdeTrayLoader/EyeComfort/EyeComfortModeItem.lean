import DdeTrayLoader.Power.PowerModes
import DdeTrayLoader.Transition.Remote

/-!
# The item of the eye comfort mode

The item has a switch for the mode and a list of three themes, and says in its quick panel, its
tips and its icon which mode or which theme is on. The theme is a name with a suffix: `x.light`,
`x.dark`, or `x` for the theme that follows the time of day.

The display service owns whether the mode is on and whether it is supported, the appearance
service owns the theme. What they own, what the controller knows of it, and the calls and signals
on their way are `Remote` values. A signal `PropertiesChanged` with both properties of the display
is the arrival of the one and then of the other.
-/

namespace DdeTrayLoader.EyeComfort

open DdeTrayLoader.Transition DdeTrayLoader.Power

/-! ## Names of themes -/

/-- `EyeComfortModeItem::ThemeType`, and the names `THEME_LIGHT`, `THEME_DARK` and `THEME_AUTO`. -/
inductive ThemeType
  | light
  | dark
  | auto
  deriving DecidableEq

def THEME_LIGHT : List Char := ['l', 'i', 'g', 'h', 't']

def THEME_DARK : List Char := ['d', 'a', 'r', 'k']

/-- `getThemeType`, and the tests of `onGlobalThemeChanged`. -/
def getThemeType (globalTheme : List Char) : ThemeType :=
  if THEME_LIGHT <:+ globalTheme then .light
  else if THEME_DARK <:+ globalTheme then .dark
  else .auto

/-- `QString::indexOf` -/
def indexOf (text : List Char) (c : Char) : ℤ := if c ∈ text then text.idxOf c else -1

/-- `QString::left` -/
def left (text : List Char) (n : ℤ) : List Char := if n < 0 then text else text.take n.toNat

/-- `curGlobalTheme.left(curGlobalTheme.indexOf("."))` -/
def family (globalTheme : List Char) : List Char := left globalTheme (indexOf globalTheme '.')

/-- `newGlobalTheme` in `switchTheme`. -/
def newGlobalTheme (curGlobalTheme : List Char) : ThemeType → List Char
  | .light => family curGlobalTheme ++ '.' :: THEME_LIGHT
  | .dark => family curGlobalTheme ++ '.' :: THEME_DARK
  | .auto => family curGlobalTheme

/-! ## The button -/

/-- What an icon is set from: a name alone, or a name and one that stands in for it. -/
inductive IconSource
  | fromTheme (name : String)
  | named (icon fallback : String)
  deriving DecidableEq

/-- `CommonIconButton::State` -/
inductive ButtonState
  | Default
  | On
  | Off
  deriving DecidableEq

structure CommonIconButton where
  state : ButtonState
  /-- `m_fileMapping` -/
  fileMapping : ButtonState → Option (String × String)
  /-- What `m_icon` was set from last, whichever file the theme then has for it. -/
  icon : Option IconSource

namespace CommonIconButton

def create : CommonIconButton := ⟨.Default, fun _ => none, none⟩

def setStateIconMapping (button : CommonIconButton)
    (mapping : ButtonState → Option (String × String)) : CommonIconButton :=
  { button with fileMapping := mapping }

/-- `setIcon` of a name and the one that stands in for it. -/
def setNamedIcon (button : CommonIconButton) (icon fallback : String) : CommonIconButton :=
  { button with
    fileMapping :=
      if (button.fileMapping .Default).isSome then button.fileMapping
      else Function.update button.fileMapping .Default (some (icon, fallback))
    icon := some (.named icon fallback) }

/-- `setIcon` of a `QIcon`. -/
def setIcon (button : CommonIconButton) (icon : IconSource) : CommonIconButton :=
  { button with icon := some icon }

def setState (button : CommonIconButton) (state : ButtonState) : CommonIconButton :=
  match button.fileMapping state with
  | some (icon, fallback) => { button with state := state }.setNamedIcon icon fallback
  | none => { button with state := state }

/-- The handler of `themeTypeChanged`, the palette having become light or dark. -/
def refreshIcon (button : CommonIconButton) : CommonIconButton := button.setState button.state

/-- A state changes the icon of `Default` at most. -/
theorem fileMapping_setState (button : CommonIconButton) (state : ButtonState) {other : ButtonState}
    (hother : other ≠ .Default) :
    (button.setState state).fileMapping other = button.fileMapping other := by
  unfold setState
  split
  · unfold setNamedIcon
    dsimp only
    split_ifs
    · rfl
    · exact Function.update_of_ne hother _ _
  · rfl

/-- A state with an icon sets it. -/
theorem icon_setState {button : CommonIconButton} {state : ButtonState} {icon fallback : String}
    (hmapping : button.fileMapping state = some (icon, fallback)) :
    (button.setState state).icon = some (.named icon fallback) := by
  unfold setState
  rw [hmapping]
  rfl

end CommonIconButton

/-! ## The parts of the item -/

structure EyeComfortmodeApplet where
  /-- `m_switchBtn->isChecked()` -/
  checked : Bool
  /-- Whether the title, the switch and the button of the settings are visible. -/
  eyeComfortVisible : Bool
  /-- The states of `m_lightTheme`, `m_darkTheme` and `m_autoTheme`. -/
  state : ThemeType → PluginItemState
  themeTypeName : ThemeType

inductive ButtonMode
  | clickButton
  | displayButton
  deriving DecidableEq

structure QuickPanelWidget where
  text : String
  description : String
  icon : String
  active : Bool
  buttonMode : ButtonMode

structure EyeComfortModeItem where
  supportColorTemperature : Bool
  themeType : ThemeType
  applet : EyeComfortmodeApplet
  quickPanel : QuickPanelWidget
  icon : CommonIconButton
  tips : String

namespace EyeComfortmodeApplet

def onGlobalThemeChanged (applet : EyeComfortmodeApplet) (value : List Char) :
    EyeComfortmodeApplet :=
  let themeType := getThemeType value
  { applet with
    themeTypeName := themeType
    state := fun t => if t = themeType then .ConnectedOnlyPrompt else .NoState }

/-- `switchTheme`, with the name that it emits. -/
def switchTheme (applet : EyeComfortmodeApplet) (curGlobalTheme : List Char)
    (themeTypeName : ThemeType) : EyeComfortmodeApplet × Option (List Char) :=
  if applet.themeTypeName = themeTypeName then (applet, none)
  else
    ({ applet with themeTypeName := themeTypeName },
      some (newGlobalTheme curGlobalTheme themeTypeName))

def onThemeListClicked (applet : EyeComfortmodeApplet) (curGlobalTheme : List Char)
    (themeType : ThemeType) : EyeComfortmodeApplet × Option (List Char) :=
  if applet.state themeType = .NoState then applet.switchTheme curGlobalTheme themeType
  else (applet, none)

/-- A click does nothing, or it is on a theme that is neither marked nor asked for last. -/
theorem onThemeListClicked_cases (applet : EyeComfortmodeApplet) (curGlobalTheme : List Char)
    (themeType : ThemeType) :
    applet.onThemeListClicked curGlobalTheme themeType = (applet, none) ∧
        (applet.state themeType = .NoState → applet.themeTypeName = themeType) ∨
      applet.state themeType = .NoState ∧ applet.themeTypeName ≠ themeType ∧
        applet.onThemeListClicked curGlobalTheme themeType =
          ({ applet with themeTypeName := themeType },
            some (newGlobalTheme curGlobalTheme themeType)) := by
  unfold onThemeListClicked switchTheme
  by_cases hstate : applet.state themeType = .NoState
  · rw [if_pos hstate]
    by_cases hname : applet.themeTypeName = themeType
    · rw [if_pos hname]
      exact .inl ⟨rfl, fun _ => hname⟩
    · rw [if_neg hname]
      exact .inr ⟨hstate, hname, rfl⟩
  · rw [if_neg hstate]
    exact .inl ⟨rfl, fun h => absurd h hstate⟩

end EyeComfortmodeApplet

/-! ## What the item says -/

/-- The description of the quick panel. -/
def describe (support enabled : Bool) (themeType : ThemeType) : String :=
  match support, enabled, themeType with
  | true, true, _ => "On"
  | true, false, _ => "Off"
  | false, _, .light => "Light"
  | false, _, .dark => "Dark"
  | false, _, .auto => "Auto"

/-- The tips. -/
def tipsText (support enabled : Bool) (themeType : ThemeType) : String :=
  match support, enabled, themeType with
  | true, true, _ => "Eye comfort enabled"
  | true, false, _ => "Eye comfort disabled"
  | false, _, .light => "Theme: Light"
  | false, _, .dark => "Theme: Dark"
  | false, _, .auto => "Theme: Auto"

/-- The icon of a theme. -/
def themeIcon : ThemeType → String
  | .light => "theme-light"
  | .dark => "theme-dark"
  | .auto => "theme-auto"

/-- The icons of the two states of the mode. -/
def eyeshield : ButtonState → Option (String × String)
  | .On => some ("eyeshield-on", ":/eyeshield-on.svg")
  | .Off => some ("eyeshield-off", ":/eyeshield-off.svg")
  | .Default => none

/-- The two states of the mode have their icons. -/
structure CommonIconButton.Mapped (button : CommonIconButton) : Prop where
  on : button.fileMapping .On = eyeshield .On
  off : button.fileMapping .Off = eyeshield .Off

theorem CommonIconButton.Mapped.setState {button : CommonIconButton} (h : button.Mapped)
    (state : ButtonState) : (button.setState state).Mapped := by
  have hon : ButtonState.On ≠ .Default := nofun
  have hoff : ButtonState.Off ≠ .Default := nofun
  exact ⟨(button.fileMapping_setState state hon).trans h.on,
    (button.fileMapping_setState state hoff).trans h.off⟩

namespace EyeComfortModeItem

def updateDescription (item : EyeComfortModeItem) (enabled : Bool) : EyeComfortModeItem :=
  { item with quickPanel := { item.quickPanel with
      description := describe item.supportColorTemperature enabled item.themeType } }

def updateTips (item : EyeComfortModeItem) (enabled : Bool) : EyeComfortModeItem :=
  { item with tips := tipsText item.supportColorTemperature enabled item.themeType }

def refreshIcon (item : EyeComfortModeItem) (enabled : Bool) : EyeComfortModeItem :=
  if item.supportColorTemperature then
    { item with icon := item.icon.setState (if enabled then .On else .Off) }
  else
    { item with
      quickPanel := { item.quickPanel with icon := themeIcon item.themeType }
      icon := item.icon.setIcon (.fromTheme (themeIcon item.themeType)) }

/-- The three in a row. -/
def refresh (item : EyeComfortModeItem) (enabled : Bool) : EyeComfortModeItem :=
  ((item.updateDescription enabled).refreshIcon enabled).updateTips enabled

/-- `updateEyeComfortQuickPanel` -/
def updateEyeComfortQuickPanel (item : EyeComfortModeItem) : EyeComfortModeItem :=
  { item with
    quickPanel := { item.quickPanel with
      text := "Eye comfort", icon := "eyeshield-on", buttonMode := .clickButton }
    icon := item.icon.setStateIconMapping eyeshield }

/-- The handler of `globalThemeChanged`. -/
def globalThemeChanged (item : EyeComfortModeItem) (enabled : Bool) (value : List Char) :
    EyeComfortModeItem :=
  let themeType := getThemeType value
  if item.themeType = themeType then item
  else
    { item with themeType := themeType, applet := item.applet.onGlobalThemeChanged value }.refresh
      enabled

/-- The handler of `supportColorTemperatureChanged`. -/
def supportColorTemperatureChanged (item : EyeComfortModeItem) (support : Bool) :
    EyeComfortModeItem :=
  if item.supportColorTemperature = support then item
  else
    let item := { item with
      supportColorTemperature := support
      applet := { item.applet with eyeComfortVisible := support } }
    if support then item.updateEyeComfortQuickPanel else item

/-- The handlers of `eyeComfortModeChanged`. -/
def eyeComfortModeChanged (item : EyeComfortModeItem) (enable : Bool) : EyeComfortModeItem :=
  { item with
    quickPanel := { item.quickPanel with active := enable }
    applet := { item.applet with checked := enable } }.refresh enable

/-- The constructor with `init` up to its refresh, when the controller knows the mode, its support
and the theme. -/
def constructed (enabled support : Bool) (globalTheme : List Char) : EyeComfortModeItem :=
  let applet : EyeComfortmodeApplet := EyeComfortmodeApplet.onGlobalThemeChanged
    { checked := enabled
      eyeComfortVisible := support
      state := fun _ => .NoState
      themeTypeName := .auto } globalTheme
  let item : EyeComfortModeItem :=
    { supportColorTemperature := support
      themeType := getThemeType globalTheme
      applet := applet
      quickPanel := ⟨"Theme", "", "", enabled, .displayButton⟩
      icon := .create
      tips := "" }
  if support then item.updateEyeComfortQuickPanel else item

def create (enabled support : Bool) (globalTheme : List Char) : EyeComfortModeItem :=
  (constructed enabled support globalTheme).refresh enabled

theorem constructed_spec (enabled support : Bool) (globalTheme : List Char) :
    (constructed enabled support globalTheme).applet.checked = enabled ∧
      (constructed enabled support globalTheme).applet.state =
        (fun t => if t = getThemeType globalTheme then .ConnectedOnlyPrompt else .NoState) ∧
      (constructed enabled support globalTheme).applet.themeTypeName = getThemeType globalTheme ∧
      (constructed enabled support globalTheme).themeType = getThemeType globalTheme ∧
      (constructed enabled support globalTheme).supportColorTemperature = support ∧
      (support = true → (constructed enabled support globalTheme).icon.Mapped) := by
  cases support with
  | false => exact ⟨rfl, rfl, rfl, rfl, rfl, nofun⟩
  | true => exact ⟨rfl, rfl, rfl, rfl, rfl, fun _ => ⟨rfl, rfl⟩⟩

/-- What a refresh of the icon leaves as it is. -/
theorem refreshIcon_spec (item : EyeComfortModeItem) (enabled : Bool) :
    (item.refreshIcon enabled).applet = item.applet ∧
      (item.refreshIcon enabled).themeType = item.themeType ∧
      (item.refreshIcon enabled).supportColorTemperature = item.supportColorTemperature ∧
      (item.refreshIcon enabled).quickPanel.description = item.quickPanel.description ∧
      (item.refreshIcon enabled).tips = item.tips := by
  unfold refreshIcon
  split_ifs <;> exact ⟨rfl, rfl, rfl, rfl, rfl⟩

theorem mapped_refreshIcon {item : EyeComfortModeItem} (h : item.icon.Mapped) (enabled : Bool) :
    (item.refreshIcon enabled).icon.Mapped := by
  unfold refreshIcon
  split_ifs
  · exact h.setState _
  · exact h.setState _
  · exact ⟨h.on, h.off⟩

/-- A refresh sets the icon of the mode or of the theme, when the icons of the states are set for a
mode that is supported. -/
theorem icon_refreshIcon (item : EyeComfortModeItem) (enabled : Bool)
    (hmapped : item.supportColorTemperature = true → item.icon.Mapped) :
    (item.refreshIcon enabled).icon.icon = some (if item.supportColorTemperature then
        if enabled then .named "eyeshield-on" ":/eyeshield-on.svg"
        else .named "eyeshield-off" ":/eyeshield-off.svg"
      else .fromTheme (themeIcon item.themeType)) := by
  unfold refreshIcon
  by_cases hsupport : item.supportColorTemperature
  · rw [if_pos hsupport, if_pos hsupport]
    cases enabled with
    | true => exact CommonIconButton.icon_setState (hmapped hsupport).on
    | false => exact CommonIconButton.icon_setState (hmapped hsupport).off
  · rw [if_neg hsupport, if_neg hsupport]
    rfl

/-- What a refresh leaves as it is. -/
theorem refresh_spec (item : EyeComfortModeItem) (enabled : Bool) :
    (item.refresh enabled).applet = item.applet ∧
      (item.refresh enabled).themeType = item.themeType ∧
      (item.refresh enabled).supportColorTemperature = item.supportColorTemperature := by
  obtain ⟨happlet, htype, hsupport, -, -⟩ :=
    (item.updateDescription enabled).refreshIcon_spec enabled
  exact ⟨happlet, htype, hsupport⟩

/-- The texts that a refresh makes anew. -/
theorem refresh_texts (item : EyeComfortModeItem) (enabled : Bool) :
    (item.refresh enabled).quickPanel.description =
        describe item.supportColorTemperature enabled item.themeType ∧
      (item.refresh enabled).tips =
        tipsText item.supportColorTemperature enabled item.themeType := by
  obtain ⟨-, htype, hsupport, hdescription, -⟩ :=
    (item.updateDescription enabled).refreshIcon_spec enabled
  refine ⟨hdescription, ?_⟩
  change tipsText ((item.updateDescription enabled).refreshIcon enabled).supportColorTemperature
    enabled ((item.updateDescription enabled).refreshIcon enabled).themeType = _
  rw [htype, hsupport]
  rfl

end EyeComfortModeItem

/-! ## The item and the services -/

/-- The item, with the services and what its controller knows of them. -/
structure EyeComfortSystem where
  item : EyeComfortModeItem
  /-- `ColorTemperatureEnabled`; its copy is `m_eyeComfortModeEnabled`. -/
  enabled : Remote Bool
  /-- `SupportColorTemperature`; its copy is `m_supportColorTemperature` of the controller. -/
  support : Remote Bool
  /-- `GlobalTheme`; its copy is the last one announced. -/
  theme : Remote (List Char)

/-- What the user does, the services do, and what arrives. -/
inductive Event
  | switchClicked
  | iconClicked
  | shiftInvoked
  /-- A click on a theme. The name of the theme is read from the copy, or asked for. -/
  | themeClicked (themeType : ThemeType) (fromCopy : Bool)
  | serveEnabled (granted again : Bool)
  | serveTheme (granted again : Bool)
  | setEnabled (value again : Bool)
  | setSupport (value again : Bool)
  | setTheme (value : List Char) (again : Bool)
  | deliverEnabled
  | deliverSupport
  | deliverTheme
  /-- The item is given another size: `EyeComfortModeItem::resizeEvent`. -/
  | resized
  /-- The palette becomes light or dark. -/
  | themeTypeChanged

namespace EyeComfortSystem

variable (s : EyeComfortSystem)

def create (enabled support : Bool) (globalTheme : List Char) : EyeComfortSystem where
  item := .create enabled support globalTheme
  enabled := .known enabled
  support := .known support
  theme := .known globalTheme

/-- `enable`, which does not use its argument. -/
def enable (_enable : Bool) : EyeComfortSystem :=
  { s with enabled := s.enabled.ask !s.enabled.copy }

def toggle : EyeComfortSystem := s.enable !s.enabled.copy

/-- The user clicks the switch: it changes and emits `checkedChanged`. -/
def switchClicked : EyeComfortSystem :=
  { s with item := { s.item with
      applet := { s.item.applet with checked := !s.item.applet.checked } } }.enable
    !s.item.applet.checked

/-- `iconClicked` of the quick panel; the applet that it may open instead is not modelled. -/
def iconClicked : EyeComfortSystem := if s.item.supportColorTemperature then s.toggle else s

/-- `globalTheme()`. -/
def globalTheme (fromCopy : Bool) : List Char := if fromCopy then s.theme.copy else s.theme.value

def setGlobalTheme (fromCopy : Bool) (value : List Char) : EyeComfortSystem :=
  if s.globalTheme fromCopy = value then s else { s with theme := s.theme.ask value }

def themeClicked (themeType : ThemeType) (fromCopy : Bool) : EyeComfortSystem :=
  match s.item.applet.onThemeListClicked (s.globalTheme fromCopy) themeType with
  | (applet, none) => { s with item := { s.item with applet := applet } }
  | (applet, some value) =>
    { s with item := { s.item with applet := applet } }.setGlobalTheme fromCopy value

/-- A new value of `ColorTemperatureEnabled` arrives. -/
def deliverEnabled : EyeComfortSystem :=
  match s.enabled.signals with
  | [] => s
  | enable :: _ =>
    { s with enabled := s.enabled.deliver, item := s.item.eyeComfortModeChanged enable }

/-- A new value of `SupportColorTemperature` arrives. -/
def deliverSupport : EyeComfortSystem :=
  match s.support.signals with
  | [] => s
  | support :: _ =>
    { s with support := s.support.deliver, item := s.item.supportColorTemperatureChanged support }

/-- A new `GlobalTheme` arrives. -/
def deliverTheme : EyeComfortSystem :=
  match s.theme.signals with
  | [] => s
  | value :: _ =>
    { s with theme := s.theme.deliver, item := s.item.globalThemeChanged s.enabled.copy value }

/-- What happens at an event. -/
def step (s : EyeComfortSystem) : Event → EyeComfortSystem
  | .switchClicked => s.switchClicked
  | .iconClicked => s.iconClicked
  | .shiftInvoked => s.toggle
  | .themeClicked themeType fromCopy => s.themeClicked themeType fromCopy
  | .serveEnabled granted again => { s with enabled := s.enabled.serve granted again }
  | .serveTheme granted again => { s with theme := s.theme.serve granted again }
  | .setEnabled value again => { s with enabled := s.enabled.assign value again }
  | .setSupport value again => { s with support := s.support.assign value again }
  | .setTheme value again => { s with theme := s.theme.assign value again }
  | .deliverEnabled => s.deliverEnabled
  | .deliverSupport => s.deliverSupport
  | .deliverTheme => s.deliverTheme
  | .resized => { s with item := s.item.refreshIcon s.enabled.copy }
  | .themeTypeChanged => { s with item := { s.item with icon := s.item.icon.refreshIcon } }

/-- A click on a theme does nothing, or it is on a theme that is neither marked nor asked for last,
which is asked for unless it is the theme that was read. -/
theorem themeClicked_cases (themeType : ThemeType) (fromCopy : Bool) :
    s.themeClicked themeType fromCopy = s ∧ (s.item.applet.state themeType = .NoState →
        s.item.applet.themeTypeName = themeType) ∨
      s.item.applet.state themeType = .NoState ∧ s.item.applet.themeTypeName ≠ themeType ∧
        s.themeClicked themeType fromCopy = { s with
          item := { s.item with applet := { s.item.applet with themeTypeName := themeType } }
          theme :=
            if s.globalTheme fromCopy = newGlobalTheme (s.globalTheme fromCopy) themeType then
              s.theme
            else s.theme.ask (newGlobalTheme (s.globalTheme fromCopy) themeType) } := by
  unfold themeClicked
  rcases s.item.applet.onThemeListClicked_cases (s.globalTheme fromCopy) themeType with
    ⟨heq, hname⟩ | ⟨hstate, hname, heq⟩
  · rw [heq]
    exact .inl ⟨rfl, hname⟩
  · rw [heq]
    refine .inr ⟨hstate, hname, ?_⟩
    by_cases hread :
        s.globalTheme fromCopy = newGlobalTheme (s.globalTheme fromCopy) themeType
    · rw [if_pos hread]
      exact if_pos hread
    · rw [if_neg hread]
      exact if_neg hread

end EyeComfortSystem

end DdeTrayLoader.EyeComfort
