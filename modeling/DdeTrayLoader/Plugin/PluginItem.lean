import DdeTrayLoader.Plugin.XdgActivation
import DdeTrayLoader.Transition.Run
import Mathlib.Logic.Function.Iterate

/-!
# The item of a plugin

A `PluginItem` shows the widget of a plugin in the tray. A click on it runs the command of the
plugin, or opens its applet; the other button opens its menu, and the pointer over it a tooltip.

The administrator's configuration has three switches, for these three. Its descriptions say which
callbacks of the plugin each of them allows.

What the plugin answers is part of the event. The log has the calls, each with the switches at its
time. A callback is not interrupted, and what is scheduled for deletion is gone before the next
event.
-/

namespace DdeTrayLoader.Plugin

open DdeTrayLoader.Transition

/-- `PluginInteractionConfig` -/
structure PluginInteractionConfig where
  itemActivationEnabled : Bool
  itemContextMenuEnabled : Bool
  itemTooltipEnabled : Bool

/-- What the plugin has for the item: its command, and whether it has an applet, a tooltip and
items of a menu. -/
structure ItemAnswers where
  itemCommand : String
  itemPopupApplet : Bool
  itemTipsWidget : Bool
  itemContextMenu : Bool
  /-- `Attribute_CanSetting` is among the flags. -/
  canSetting : Bool

/-- The types of a `PluginPopup` that the applet's window may have. -/
inductive AppletPopup
  | panel
  | embed
  deriving DecidableEq

/-- What a token is for. -/
inductive TokenPurpose
  | menuItem (menuId : String) (checked : Bool)
  | command (command : String)
  deriving DecidableEq

/-- What the item asks of the plugin and of others. The environment is given by its
`XDG_ACTIVATION_TOKEN`. -/
inductive ItemCall
  | itemCommand
  | itemPopupApplet
  | itemContextMenu
  | itemTipsWidget
  | invokedMenuItem (menuId : String) (checked : Bool) (environment : Option String)
  | startDetached (command : String) (environment : Option String)
  | requestShutdown (type : String)
  | setItemOnDock (onDock : Bool)
  deriving DecidableEq

structure PluginItem where
  interactionConfig : PluginInteractionConfig
  /-- The `PluginPopup` that the applet's window is bound to. -/
  appletPopup : Option AppletPopup
  appletVisible : Bool
  /-- `m_tipsWidget` has been made. -/
  tipsWidget : Bool
  tipsVisible : Bool
  tooltipTimer : Bool
  menuVisible : Bool
  activation : XdgActivation TokenPurpose
  /-- `XDG_ACTIVATION_TOKEN` of the process. -/
  environment : Option String
  calls : List (PluginInteractionConfig × ItemCall)

inductive ItemEvent
  | enter (p : ItemAnswers)
  | leave
  | press
  | leftReleased (p : ItemAnswers)
  | rightReleased (p : ItemAnswers)
  | move
  /-- `eventGeometry` of the applet's popup. -/
  | popupGeometry
  | tooltipTimeout
  /-- An action of the menu is chosen. -/
  | triggered (actionStr : String) (checked : Bool)
  | tokenDone (i : ℕ) (token : String)
  | setConfig (config : PluginInteractionConfig)
  | setActive (active : Bool)
  /-- The dock hides a popup. -/
  | appletHidden
  | menuHidden
  | tipsHidden
  /-- What the plugin asks of its `WidgetPlugin`. -/
  | itemUpdate
  | itemRemoved (p : ItemAnswers)
  | requestSetAppletVisible (visible : Bool) (p : ItemAnswers)

/-- `SHUTDOWN_MENU_FLAG`, `dockMenuItemId`, `unDockMenuItemId` and `REQUEST_SHUTDOWN`. -/
def SHUTDOWN_MENU_FLAG : String := "Shutdown_"

def dockMenuItemId : String := "dock-item-id"

def unDockMenuItemId : String := "undock-item-id"

def REQUEST_SHUTDOWN : String := "requestShutdown"

namespace PluginItem

def create (config : PluginInteractionConfig) (active : Bool) (environment : Option String) :
    PluginItem where
  interactionConfig := config
  appletPopup := none
  appletVisible := false
  tipsWidget := false
  tipsVisible := false
  tooltipTimer := false
  menuVisible := false
  activation := .create active
  environment := environment
  calls := []

variable (s : PluginItem)

def call (c : ItemCall) : PluginItem := { s with calls := s.calls ++ [(s.interactionConfig, c)] }

def closeToolTip : PluginItem := { s with tooltipTimer := false, tipsVisible := false }

/-- The applet's window is hidden, which unbinds it. -/
def hideApplet : PluginItem := { s with appletVisible := false, appletPopup := none }

/-- `panelPopupExisted`, with the state after it. -/
def panelPopupExisted (p : ItemAnswers) : PluginItem × Bool :=
  (s.call .itemPopupApplet, p.itemPopupApplet && s.appletPopup.isSome)

/-- `embedPanelPopupExisted`, with the state after it. -/
def embedPanelPopupExisted (p : ItemAnswers) : PluginItem × Bool :=
  (s.call .itemPopupApplet, p.itemPopupApplet && s.appletPopup == some .embed)

/-- The callback of `tokenReady`. `startDetached` is the static one of `QProcess`, which starts the
command in the environment of this process, whatever the environment of the object. -/
def tokenReady (token : String) : TokenPurpose → PluginItem
  | .menuItem menuId checked =>
    let s := if token ≠ "" then { s with environment := some token } else s
    let s := s.call (.invokedMenuItem menuId checked s.environment)
    if token ≠ "" then { s with environment := none } else s
  | .command command => s.call (.startDetached command s.environment)

/-- `requestToken`, with the callback if the token comes at once. -/
def requestToken (purpose : TokenPurpose) : PluginItem :=
  let (activation, token) := s.activation.requestToken purpose
  let s := { s with activation := activation }
  match token with
  | none => s
  | some token => s.tokenReady token purpose

/-- The compositor's answer to the `i`-th request, with the callback. -/
def tokenDone (i : ℕ) (token : String) : PluginItem :=
  let (activation, purpose) := s.activation.done i token
  let s := { s with activation := activation }
  match purpose with
  | none => s
  | some purpose => s.tokenReady token purpose

/-- `executeCommand`, with the state after it. -/
def executeCommand (p : ItemAnswers) : PluginItem × Bool :=
  if s.interactionConfig.itemActivationEnabled then
    let s := s.call .itemCommand
    if p.itemCommand ≠ "" then
      if p.itemCommand = REQUEST_SHUTDOWN then (s.call (.requestShutdown ""), true)
      else (s.requestToken (.command p.itemCommand), true)
    else (s, false)
  else (s, false)

/-- `itemPopupApplet`, and the applet is shown if there is one. -/
def itemPopupApplet (p : ItemAnswers) : PluginItem :=
  if s.interactionConfig.itemActivationEnabled then
    let s := s.call .itemPopupApplet
    if p.itemPopupApplet then
      let (s, existed) := s.panelPopupExisted p
      let (s, embed) := s.embedPanelPopupExisted p
      let s := if existed then s.hideApplet else s
      if existed && !embed then s
      else { s with appletPopup := some .panel, appletVisible := true }
    else s
  else s

/-- `pluginContextMenu`, and the menu is shown if it has an item. -/
def pluginContextMenu (p : ItemAnswers) : PluginItem :=
  if s.interactionConfig.itemContextMenuEnabled then
    let s := s.call .itemContextMenu
    if p.itemContextMenu || p.canSetting then { s with menuVisible := true } else s
  else s

/-- `pluginTooltip`, and the timer is started if there is a tooltip. -/
def pluginTooltip (p : ItemAnswers) : PluginItem :=
  if s.interactionConfig.itemTooltipEnabled then
    let s := s.call .itemPopupApplet
    let s := if p.itemPopupApplet && s.appletVisible then s.hideApplet else s
    let s := s.call .itemTipsWidget
    if s.tipsWidget || p.itemTipsWidget then { s with tipsWidget := true, tooltipTimer := true }
    else s
  else s

def enterEvent (p : ItemAnswers) : PluginItem :=
  let (s, existed) := s.panelPopupExisted p
  if existed then s else s.pluginTooltip p

def mouseReleaseLeft (p : ItemAnswers) : PluginItem :=
  let (s, executed) := s.executeCommand p
  if executed then s else s.itemPopupApplet p

/-- The handler of `triggered`. -/
def triggered (actionStr : String) (checked : Bool) : PluginItem :=
  if SHUTDOWN_MENU_FLAG.isPrefixOf actionStr then
    if actionStr.length ≤ SHUTDOWN_MENU_FLAG.length then s
    else s.call (.requestShutdown (actionStr.drop SHUTDOWN_MENU_FLAG.length).toString)
  else if actionStr = dockMenuItemId ∨ actionStr = unDockMenuItemId then
    s.call (.setItemOnDock (actionStr = dockMenuItemId))
  else s.requestToken (.menuItem actionStr checked)

/-- The values of the configuration change. Those that do are signalled. -/
def setConfig (config : PluginInteractionConfig) : PluginItem :=
  let old := s.interactionConfig
  let s := { s with interactionConfig := config }
  let s :=
    if old.itemContextMenuEnabled ≠ config.itemContextMenuEnabled ∧
        config.itemContextMenuEnabled = false then { s with menuVisible := false }
    else s
  if old.itemTooltipEnabled ≠ config.itemTooltipEnabled ∧ config.itemTooltipEnabled = false then
    s.closeToolTip
  else s

/-- `WidgetPlugin::requestSetAppletVisible`; the message to the quick panel is left out. -/
def requestSetAppletVisible (visible : Bool) (p : ItemAnswers) : PluginItem :=
  let s := s.call .itemPopupApplet
  if visible && p.itemPopupApplet then
    { s with appletPopup := some .embed, appletVisible := true }
  else s

def step : ItemEvent → PluginItem
  | .enter p => s.enterEvent p
  | .leave => s.closeToolTip
  | .press => s.closeToolTip
  | .leftReleased p => s.mouseReleaseLeft p
  | .rightReleased p => s.pluginContextMenu p
  | .move => s.call .itemPopupApplet
  | .popupGeometry => if s.appletPopup = some .panel then s.call .itemPopupApplet else s
  | .tooltipTimeout =>
    if s.tooltipTimer then { s with tooltipTimer := false, tipsVisible := true } else s
  | .triggered actionStr checked => s.triggered actionStr checked
  | .tokenDone i token => s.tokenDone i token
  | .setConfig config => s.setConfig config
  | .setActive active => { s with activation := { s.activation with active := active } }
  | .appletHidden => s.hideApplet
  | .menuHidden => { s with menuVisible := false }
  | .tipsHidden => { s with tipsVisible := false }
  | .itemUpdate => (s.call .itemPopupApplet).call .itemTipsWidget
  | .itemRemoved p =>
    let s := (s.call .itemPopupApplet).call .itemTipsWidget
    if p.itemPopupApplet then s.hideApplet else s
  | .requestSetAppletVisible visible p => s.requestSetAppletVisible visible p

/-! ## What the switches say -/

end PluginItem

/-- What the descriptions of the configuration let the loader call. -/
def ItemCall.Allowed (config : PluginInteractionConfig) : ItemCall → Prop
  | .itemCommand => config.itemActivationEnabled = true
  | .itemPopupApplet => config.itemActivationEnabled = true
  | .itemContextMenu => config.itemContextMenuEnabled = true
  | .itemTipsWidget => config.itemTooltipEnabled = true
  | _ => True

/-- Each call of a log was allowed when it was made. -/
def AllAllowed (calls : List (PluginInteractionConfig × ItemCall)) : Prop :=
  ∀ c ∈ calls, c.2.Allowed c.1

@[simp] theorem allAllowed_nil : AllAllowed [] := List.forall_mem_nil _

@[simp] theorem allAllowed_cons (c : PluginInteractionConfig × ItemCall)
    (calls : List (PluginInteractionConfig × ItemCall)) :
    AllAllowed (c :: calls) ↔ c.2.Allowed c.1 ∧ AllAllowed calls := List.forall_mem_cons

@[simp] theorem allAllowed_append (calls calls' : List (PluginInteractionConfig × ItemCall)) :
    AllAllowed (calls ++ calls') ↔ AllAllowed calls ∧ AllAllowed calls' := List.forall_mem_append

namespace PluginItem

/-- The calls that an event makes without a look at their switches are allowed. -/
def Within (s : PluginItem) : ItemEvent → Prop
  | .enter _ => s.interactionConfig.itemActivationEnabled = true
  | .move => s.interactionConfig.itemActivationEnabled = true
  | .popupGeometry =>
    s.appletPopup = some .panel → s.interactionConfig.itemActivationEnabled = true
  | .requestSetAppletVisible _ _ => s.interactionConfig.itemActivationEnabled = true
  | .itemUpdate => s.interactionConfig.itemActivationEnabled = true ∧
      s.interactionConfig.itemTooltipEnabled = true
  | .itemRemoved _ => s.interactionConfig.itemActivationEnabled = true ∧
      s.interactionConfig.itemTooltipEnabled = true
  | _ => True

variable {s : PluginItem}

@[simp] theorem calls_call (c : ItemCall) :
    (s.call c).calls = s.calls ++ [(s.interactionConfig, c)] := rfl

@[simp] theorem interactionConfig_call (c : ItemCall) :
    (s.call c).interactionConfig = s.interactionConfig := rfl

@[simp] theorem calls_hideApplet : s.hideApplet.calls = s.calls := rfl

@[simp] theorem interactionConfig_hideApplet :
    s.hideApplet.interactionConfig = s.interactionConfig := rfl

/-- The callback of a token calls nothing that has a switch. -/
theorem clean_tokenReady (token : String) (purpose : TokenPurpose) :
    AllAllowed (s.tokenReady token purpose).calls ↔ AllAllowed s.calls := by
  cases purpose with
  | menuItem menuId checked =>
    unfold tokenReady
    split_ifs
    · simp [ItemCall.Allowed]
    · simp [ItemCall.Allowed]
  | command command => simp [tokenReady, ItemCall.Allowed]

theorem clean_requestToken (purpose : TokenPurpose) :
    AllAllowed (s.requestToken purpose).calls ↔ AllAllowed s.calls := by
  unfold requestToken
  rcases s.activation.requestToken_cases purpose with heq | heq
  · rw [heq]
  · rw [heq]
    exact clean_tokenReady "" purpose

theorem clean_executeCommand (p : ItemAnswers) :
    AllAllowed (s.executeCommand p).1.calls ↔ AllAllowed s.calls := by
  unfold executeCommand
  by_cases henabled : s.interactionConfig.itemActivationEnabled = true
  · have hcall : AllAllowed (s.call .itemCommand).calls ↔ AllAllowed s.calls := by
      simp [ItemCall.Allowed, henabled]
    rw [if_pos henabled]
    dsimp only
    split_ifs
    · rw [← hcall]
      simp [ItemCall.Allowed]
    · exact (clean_requestToken _).trans hcall
    · exact hcall
  · rw [if_neg henabled]

/-- Calls are made, and the switches, the tokens and the environment stay. -/
structure Logs (called : List ItemCall) (s s' : PluginItem) : Prop where
  calls : s'.calls = s.calls ++ called.map (s.interactionConfig, ·)
  interactionConfig : s'.interactionConfig = s.interactionConfig
  activation : s'.activation = s.activation
  environment : s'.environment = s.environment

/-- Only allowed calls are made. -/
theorem Logs.clean {called : List ItemCall} {s' : PluginItem} (h : Logs called s s')
    (hcalled : ∀ c ∈ called, c.Allowed s.interactionConfig) :
    AllAllowed s'.calls ↔ AllAllowed s.calls := by
  rw [h.calls, allAllowed_append]
  apply and_iff_left
  intro c hc
  obtain ⟨c', hc', rfl⟩ := List.mem_map.mp hc
  exact hcalled c' hc'

theorem itemPopupApplet_logs (s : PluginItem) (p : ItemAnswers) :
    ∃ called, Logs called s (s.itemPopupApplet p) ∧ ∀ c ∈ called,
      c = .itemPopupApplet ∧ s.interactionConfig.itemActivationEnabled = true := by
  unfold itemPopupApplet panelPopupExisted embedPanelPopupExisted
  dsimp only
  split_ifs with henabled
  · exact ⟨List.replicate 3 .itemPopupApplet, ⟨by simp, rfl, rfl, rfl⟩, by simp [henabled]⟩
  · exact ⟨List.replicate 3 .itemPopupApplet, ⟨by simp, rfl, rfl, rfl⟩, by simp [henabled]⟩
  · exact ⟨List.replicate 3 .itemPopupApplet, ⟨by simp, rfl, rfl, rfl⟩, by simp [henabled]⟩
  · exact ⟨List.replicate 3 .itemPopupApplet, ⟨by simp, rfl, rfl, rfl⟩, by simp [henabled]⟩
  · exact ⟨[.itemPopupApplet], ⟨rfl, rfl, rfl, rfl⟩, by simp [henabled]⟩
  · exact ⟨[], ⟨(List.append_nil _).symm, rfl, rfl, rfl⟩, nofun⟩

theorem pluginContextMenu_logs (s : PluginItem) (p : ItemAnswers) :
    ∃ called, Logs called s (s.pluginContextMenu p) ∧ ∀ c ∈ called,
      c = .itemContextMenu ∧ s.interactionConfig.itemContextMenuEnabled = true := by
  unfold pluginContextMenu
  dsimp only
  split_ifs with henabled
  · exact ⟨[.itemContextMenu], ⟨rfl, rfl, rfl, rfl⟩, by simp [henabled]⟩
  · exact ⟨[.itemContextMenu], ⟨rfl, rfl, rfl, rfl⟩, by simp [henabled]⟩
  · exact ⟨[], ⟨(List.append_nil _).symm, rfl, rfl, rfl⟩, nofun⟩

/-- The tooltip asks for the applet, too. -/
theorem pluginTooltip_logs (s : PluginItem) (p : ItemAnswers) :
    ∃ called, Logs called s (s.pluginTooltip p) ∧ ∀ c ∈ called,
      (c = .itemPopupApplet ∨ c = .itemTipsWidget) ∧
        s.interactionConfig.itemTooltipEnabled = true := by
  unfold pluginTooltip
  dsimp only
  split_ifs with henabled
  · exact ⟨[.itemPopupApplet, .itemTipsWidget], ⟨by simp, rfl, rfl, rfl⟩, by simp [henabled]⟩
  · exact ⟨[.itemPopupApplet, .itemTipsWidget], ⟨by simp, rfl, rfl, rfl⟩, by simp [henabled]⟩
  · exact ⟨[.itemPopupApplet, .itemTipsWidget], ⟨by simp, rfl, rfl, rfl⟩, by simp [henabled]⟩
  · exact ⟨[.itemPopupApplet, .itemTipsWidget], ⟨by simp, rfl, rfl, rfl⟩, by simp [henabled]⟩
  · exact ⟨[], ⟨(List.append_nil _).symm, rfl, rfl, rfl⟩, nofun⟩

theorem clean_itemPopupApplet (p : ItemAnswers) :
    AllAllowed (s.itemPopupApplet p).calls ↔ AllAllowed s.calls := by
  obtain ⟨called, hlogs, hcalled⟩ := itemPopupApplet_logs s p
  apply hlogs.clean
  intro c hc
  obtain ⟨rfl, henabled⟩ := hcalled c hc
  exact henabled

theorem clean_pluginContextMenu (p : ItemAnswers) :
    AllAllowed (s.pluginContextMenu p).calls ↔ AllAllowed s.calls := by
  obtain ⟨called, hlogs, hcalled⟩ := pluginContextMenu_logs s p
  apply hlogs.clean
  intro c hc
  obtain ⟨rfl, henabled⟩ := hcalled c hc
  exact henabled

theorem clean_pluginTooltip (p : ItemAnswers)
    (h : s.interactionConfig.itemActivationEnabled = true) :
    AllAllowed (s.pluginTooltip p).calls ↔ AllAllowed s.calls := by
  obtain ⟨called, hlogs, hcalled⟩ := pluginTooltip_logs s p
  apply hlogs.clean
  intro c hc
  obtain ⟨rfl | rfl, henabled⟩ := hcalled c hc
  · exact h
  · exact henabled

/-- The first question of a pointer that enters is for the applet. -/
theorem clean_enterEvent (p : ItemAnswers) :
    AllAllowed (s.enterEvent p).calls ↔
      AllAllowed s.calls ∧ s.interactionConfig.itemActivationEnabled = true := by
  have hcall : AllAllowed (s.call .itemPopupApplet).calls ↔
      AllAllowed s.calls ∧ s.interactionConfig.itemActivationEnabled = true := by
    simp [ItemCall.Allowed]
  unfold enterEvent panelPopupExisted
  dsimp only
  split_ifs
  · exact hcall
  · by_cases henabled : s.interactionConfig.itemActivationEnabled = true
    · exact (@clean_pluginTooltip (s.call .itemPopupApplet) p henabled).trans hcall
    · obtain ⟨called, hlogs, -⟩ := pluginTooltip_logs (s.call .itemPopupApplet) p
      refine iff_of_false (fun hall => henabled (hcall.mp ?_).2) fun h => henabled h.2
      rw [hlogs.calls, allAllowed_append] at hall
      exact hall.1

/-- One event: all calls are allowed if they were so far and the event is within its bounds. -/
theorem clean_step (e : ItemEvent) :
    AllAllowed (s.step e).calls ↔ AllAllowed s.calls ∧ s.Within e := by
  have hsame {P Q : Prop} (h : P ↔ Q) : P ↔ Q ∧ True := h.trans (iff_of_eq (and_true Q)).symm
  cases e with
  | enter p => exact clean_enterEvent p
  | leave => exact hsame Iff.rfl
  | press => exact hsame Iff.rfl
  | leftReleased p =>
    apply hsame
    change AllAllowed (s.mouseReleaseLeft p).calls ↔ _
    unfold mouseReleaseLeft
    dsimp only
    split_ifs
    · exact clean_executeCommand p
    · exact (clean_itemPopupApplet p).trans (clean_executeCommand p)
  | rightReleased p => exact hsame (clean_pluginContextMenu p)
  | move => simp [step, Within, ItemCall.Allowed]
  | popupGeometry =>
    unfold step Within
    dsimp only
    split_ifs with hpanel
    · simp [ItemCall.Allowed, hpanel]
    · simp [hpanel]
  | tooltipTimeout =>
    apply hsame
    unfold step
    dsimp only
    split_ifs
    · exact Iff.rfl
    · exact Iff.rfl
  | triggered actionStr checked =>
    apply hsame
    change AllAllowed (s.triggered actionStr checked).calls ↔ _
    unfold triggered
    split_ifs
    · exact Iff.rfl
    · simp [ItemCall.Allowed]
    · simp [ItemCall.Allowed]
    · exact clean_requestToken _
  | tokenDone i token =>
    apply hsame
    change AllAllowed (s.tokenDone i token).calls ↔ _
    unfold tokenDone
    dsimp only
    split
    · exact Iff.rfl
    · exact clean_tokenReady token _
  | setConfig config =>
    apply hsame
    change AllAllowed (s.setConfig config).calls ↔ _
    unfold setConfig
    dsimp only
    split_ifs
    all_goals exact Iff.rfl
  | setActive active => exact hsame Iff.rfl
  | appletHidden => exact hsame Iff.rfl
  | menuHidden => exact hsame Iff.rfl
  | tipsHidden => exact hsame Iff.rfl
  | itemUpdate => simp [step, Within, ItemCall.Allowed]
  | itemRemoved p =>
    unfold step Within
    dsimp only
    split_ifs
    all_goals simp [ItemCall.Allowed]
  | requestSetAppletVisible visible p =>
    change AllAllowed (s.requestSetAppletVisible visible p).calls ↔ _
    unfold requestSetAppletVisible Within
    dsimp only
    split_ifs
    all_goals simp [ItemCall.Allowed]

/-- The calls of a run are all allowed exactly when none of its events oversteps: the switch for
commands and applets does not keep the item from asking for the applet when the pointer enters it,
when it moves or when the geometry of its popup changes, and no switch keeps the plugin's own
requests from asking. -/
theorem calls_allowed_iff (config : PluginInteractionConfig) (active : Bool)
    (environment : Option String) (es : List ItemEvent) :
    AllAllowed (run step (create config active environment) es).calls ↔
      Obeys step Within (create config active environment) es := by
  have hrun (s : PluginItem) : AllAllowed (run step s es).calls ↔
      AllAllowed s.calls ∧ Obeys step Within s es := by
    induction es generalizing s with
    | nil => exact (iff_of_eq (and_true _)).symm
    | cons e es ih =>
      rw [run_cons, ih, clean_step, and_assoc]
      rfl
  exact (hrun _).trans (and_iff_right allAllowed_nil)

/-! ## What is shown -/

/-- The switches and what is shown are the same. -/
structure SameWindows (s s' : PluginItem) : Prop where
  interactionConfig : s'.interactionConfig = s.interactionConfig
  appletPopup : s'.appletPopup = s.appletPopup
  appletVisible : s'.appletVisible = s.appletVisible
  tipsVisible : s'.tipsVisible = s.tipsVisible
  tooltipTimer : s'.tooltipTimer = s.tooltipTimer
  menuVisible : s'.menuVisible = s.menuVisible

theorem SameWindows.trans {s' s'' : PluginItem} (h : SameWindows s s') (h' : SameWindows s' s'') :
    SameWindows s s'' :=
  ⟨h'.interactionConfig.trans h.interactionConfig, h'.appletPopup.trans h.appletPopup,
    h'.appletVisible.trans h.appletVisible, h'.tipsVisible.trans h.tipsVisible,
    h'.tooltipTimer.trans h.tooltipTimer, h'.menuVisible.trans h.menuVisible⟩

theorem sameWindows_call (s : PluginItem) (c : ItemCall) : SameWindows s (s.call c) :=
  ⟨rfl, rfl, rfl, rfl, rfl, rfl⟩

theorem sameWindows_tokenReady (s : PluginItem) (token : String) (purpose : TokenPurpose) :
    SameWindows s (s.tokenReady token purpose) := by
  cases purpose with
  | menuItem menuId checked =>
    unfold tokenReady
    split_ifs
    · exact ⟨rfl, rfl, rfl, rfl, rfl, rfl⟩
    · exact ⟨rfl, rfl, rfl, rfl, rfl, rfl⟩
  | command command => exact sameWindows_call s _

theorem sameWindows_requestToken (s : PluginItem) (purpose : TokenPurpose) :
    SameWindows s (s.requestToken purpose) := by
  unfold requestToken
  rcases s.activation.requestToken_cases purpose with heq | heq
  · rw [heq]
    exact ⟨rfl, rfl, rfl, rfl, rfl, rfl⟩
  · rw [heq]
    obtain ⟨hconfig, hpopup, happlet, htips, htimer, hmenu⟩ := sameWindows_tokenReady
      { s with activation := { s.activation with
        tokens := s.activation.tokens.answerNow purpose "" } } "" purpose
    exact ⟨hconfig, hpopup, happlet, htips, htimer, hmenu⟩

theorem sameWindows_executeCommand (s : PluginItem) (p : ItemAnswers) :
    SameWindows s (s.executeCommand p).1 := by
  unfold executeCommand
  split_ifs
  · exact (sameWindows_call s _).trans (sameWindows_call _ _)
  · exact (sameWindows_call s _).trans (sameWindows_requestToken _ _)
  · exact sameWindows_call s _
  · exact ⟨rfl, rfl, rfl, rfl, rfl, rfl⟩

theorem sameWindows_triggered (s : PluginItem) (actionStr : String) (checked : Bool) :
    SameWindows s (s.triggered actionStr checked) := by
  unfold triggered
  split_ifs
  · exact ⟨rfl, rfl, rfl, rfl, rfl, rfl⟩
  · exact sameWindows_call s _
  · exact sameWindows_call s _
  · exact sameWindows_requestToken s _

/-- What is shown, or about to be, is enabled, and the applet is bound while it is visible. -/
structure Sound (s : PluginItem) : Prop where
  tooltip : s.tooltipTimer = true ∨ s.tipsVisible = true →
    s.interactionConfig.itemTooltipEnabled = true
  menu : s.menuVisible = true → s.interactionConfig.itemContextMenuEnabled = true
  bound : s.appletPopup.isSome = s.appletVisible

theorem Sound.of_same {s' : PluginItem} (hs : s.Sound) (h : SameWindows s s') : s'.Sound := by
  refine ⟨?_, ?_, ?_⟩
  · rw [h.tooltipTimer, h.tipsVisible, h.interactionConfig]
    exact hs.tooltip
  · rw [h.menuVisible, h.interactionConfig]
    exact hs.menu
  · rw [h.appletPopup, h.appletVisible]
    exact hs.bound

theorem Sound.call (hs : s.Sound) (c : ItemCall) : (s.call c).Sound :=
  hs.of_same (sameWindows_call s c)

theorem Sound.closeToolTip (hs : s.Sound) : s.closeToolTip.Sound := by
  refine ⟨fun hshown => ?_, hs.menu, hs.bound⟩
  rcases hshown with h | h
  · exact absurd h Bool.false_ne_true
  · exact absurd h Bool.false_ne_true

theorem Sound.hideApplet (hs : s.Sound) : s.hideApplet.Sound := ⟨hs.tooltip, hs.menu, rfl⟩

/-- The applet is bound and shown. -/
theorem Sound.showApplet (hs : s.Sound) (popup : AppletPopup) :
    ({ s with appletPopup := some popup, appletVisible := true } : PluginItem).Sound :=
  ⟨hs.tooltip, hs.menu, rfl⟩

theorem Sound.itemPopupApplet (hs : s.Sound) (p : ItemAnswers) : (s.itemPopupApplet p).Sound := by
  unfold PluginItem.itemPopupApplet panelPopupExisted embedPanelPopupExisted
  have hcalls : (((s.call .itemPopupApplet).call .itemPopupApplet).call .itemPopupApplet).Sound :=
    ((hs.call _).call _).call _
  dsimp only
  split_ifs
  · exact hcalls.hideApplet
  · exact hcalls
  · exact hcalls.hideApplet.showApplet .panel
  · exact hcalls.showApplet .panel
  · exact hs.call _
  · exact hs

theorem Sound.pluginContextMenu (hs : s.Sound) (p : ItemAnswers) :
    (s.pluginContextMenu p).Sound := by
  unfold PluginItem.pluginContextMenu
  dsimp only
  split_ifs with henabled
  · exact ⟨hs.tooltip, fun _ => henabled, hs.bound⟩
  · exact hs.call _
  · exact hs

theorem Sound.pluginTooltip (hs : s.Sound) (p : ItemAnswers) : (s.pluginTooltip p).Sound := by
  unfold PluginItem.pluginTooltip
  dsimp only
  split_ifs with henabled
  · exact ⟨fun _ => henabled, hs.menu, rfl⟩
  · exact (hs.call .itemPopupApplet).hideApplet.call _
  · exact ⟨fun _ => henabled, hs.menu, hs.bound⟩
  · exact (hs.call .itemPopupApplet).call _
  · exact hs

/-- A switch that is turned off closes what it is for. -/
theorem Sound.setConfig (hs : s.Sound) (config : PluginInteractionConfig) :
    (s.setConfig config).Sound := by
  have htooltip (h : ¬(s.interactionConfig.itemTooltipEnabled ≠ config.itemTooltipEnabled ∧
      config.itemTooltipEnabled = false)) :
      s.tooltipTimer = true ∨ s.tipsVisible = true → config.itemTooltipEnabled = true := by
    intro hshown
    by_contra hoff
    exact h ⟨fun heq => hoff (heq ▸ hs.tooltip hshown), Bool.eq_false_iff.mpr hoff⟩
  have hmenu (h : ¬(s.interactionConfig.itemContextMenuEnabled ≠ config.itemContextMenuEnabled ∧
      config.itemContextMenuEnabled = false)) :
      s.menuVisible = true → config.itemContextMenuEnabled = true := by
    intro hshown
    by_contra hoff
    exact h ⟨fun heq => hoff (heq ▸ hs.menu hshown), Bool.eq_false_iff.mpr hoff⟩
  unfold PluginItem.setConfig PluginItem.closeToolTip
  dsimp only
  split_ifs with htips hmenus hmenus
  · exact ⟨fun h => h.elim nofun nofun, nofun, hs.bound⟩
  · exact ⟨fun h => h.elim nofun nofun, hmenu hmenus, hs.bound⟩
  · exact ⟨htooltip htips, nofun, hs.bound⟩
  · exact ⟨htooltip htips, hmenu hmenus, hs.bound⟩

theorem Sound.step (hs : s.Sound) (e : ItemEvent) : (s.step e).Sound := by
  cases e with
  | enter p =>
    change (s.enterEvent p).Sound
    unfold enterEvent panelPopupExisted
    dsimp only
    split_ifs
    · exact hs.call _
    · exact (hs.call _).pluginTooltip p
  | leave => exact hs.closeToolTip
  | press => exact hs.closeToolTip
  | leftReleased p =>
    have hexecuted : (s.executeCommand p).1.Sound := hs.of_same (sameWindows_executeCommand s p)
    change (s.mouseReleaseLeft p).Sound
    unfold mouseReleaseLeft
    dsimp only
    split_ifs
    · exact hexecuted
    · exact hexecuted.itemPopupApplet p
  | rightReleased p => exact hs.pluginContextMenu p
  | move => exact hs.call _
  | popupGeometry =>
    unfold PluginItem.step
    dsimp only
    split_ifs
    · exact hs.call _
    · exact hs
  | tooltipTimeout =>
    unfold PluginItem.step
    dsimp only
    split_ifs with htimer
    · exact ⟨fun _ => hs.tooltip (.inl htimer), hs.menu, hs.bound⟩
    · exact hs
  | triggered actionStr checked => exact hs.of_same (sameWindows_triggered s actionStr checked)
  | tokenDone i token =>
    have hdone : ({ s with activation := (s.activation.done i token).1 } : PluginItem).Sound :=
      ⟨hs.tooltip, hs.menu, hs.bound⟩
    change (s.tokenDone i token).Sound
    unfold tokenDone
    dsimp only
    split
    · exact hdone
    · exact hdone.of_same (sameWindows_tokenReady _ _ _)
  | setConfig config => exact hs.setConfig config
  | setActive active => exact ⟨hs.tooltip, hs.menu, hs.bound⟩
  | appletHidden => exact hs.hideApplet
  | menuHidden => exact ⟨hs.tooltip, nofun, hs.bound⟩
  | tipsHidden => exact ⟨fun h => hs.tooltip (h.imp_right nofun), hs.menu, hs.bound⟩
  | itemUpdate => exact (hs.call _).call _
  | itemRemoved p =>
    unfold PluginItem.step
    dsimp only
    split_ifs
    · exact ((hs.call _).call _).hideApplet
    · exact (hs.call _).call _
  | requestSetAppletVisible visible p =>
    change (s.requestSetAppletVisible visible p).Sound
    unfold requestSetAppletVisible
    dsimp only
    split_ifs
    · exact (hs.call _).showApplet .embed
    · exact hs.call _

theorem sound_run (config : PluginInteractionConfig) (active : Bool) (environment : Option String)
    (es : List ItemEvent) : (run step (create config active environment) es).Sound :=
  run_invariant (I := Sound) (fun _ e hs => hs.step e) es
    ⟨fun h => h.elim nofun nofun, nofun, rfl⟩

/-- In every state that a run reaches, a tooltip is shown, or its timer runs, only while the switch
for tooltips is on, and a menu is shown only while the one for menus is on. -/
theorem shown_enabled (config : PluginInteractionConfig) (active : Bool)
    (environment : Option String) (es : List ItemEvent) :
    let s := run step (create config active environment) es
    (s.tooltipTimer = true ∨ s.tipsVisible = true →
        s.interactionConfig.itemTooltipEnabled = true) ∧
      (s.menuVisible = true → s.interactionConfig.itemContextMenuEnabled = true) :=
  ⟨(sound_run config active environment es).tooltip, (sound_run config active environment es).menu⟩

/-- The applet that a click has opened is closed, and it is opened otherwise. -/
theorem itemPopupApplet_spec (henabled : s.interactionConfig.itemActivationEnabled = true)
    {p : ItemAnswers} (happlet : p.itemPopupApplet = true) :
    (s.itemPopupApplet p).interactionConfig = s.interactionConfig ∧
      (s.itemPopupApplet p).appletPopup =
        if s.appletPopup = some .panel then none else some .panel := by
  unfold itemPopupApplet panelPopupExisted embedPanelPopupExisted
  dsimp only
  rw [if_pos henabled, if_pos happlet, happlet]
  cases hpopup : s.appletPopup with
  | none => simp [call, hpopup]
  | some popup =>
    cases popup with
    | panel => simp [call, hideApplet, hpopup]
    | embed => simp [call, hideApplet, hpopup]

/-- A click on an item without a command is a click for its applet. -/
theorem step_leftReleased (henabled : s.interactionConfig.itemActivationEnabled = true)
    {p : ItemAnswers} (hcommand : p.itemCommand = "") :
    s.step (.leftReleased p) = (s.call .itemCommand).itemPopupApplet p := by
  have hexecuted : s.executeCommand p = (s.call .itemCommand, false) := by
    unfold executeCommand
    rw [if_pos henabled]
    dsimp only
    rw [if_neg (not_not.mpr hcommand)]
  change s.mouseReleaseLeft p = _
  unfold mouseReleaseLeft
  rw [hexecuted]
  exact if_neg Bool.false_ne_true

/-- A click on an item without a command opens or closes its applet, unless it is in the quick
panel, and the next click finds the same conditions. -/
theorem Sound.leftReleased (hs : s.Sound) {p : ItemAnswers} (hcommand : p.itemCommand = "")
    (happlet : p.itemPopupApplet = true)
    (henabled : s.interactionConfig.itemActivationEnabled = true)
    (hembed : s.appletPopup ≠ some .embed) :
    (s.step (.leftReleased p)).appletVisible = !s.appletVisible ∧
      (s.step (.leftReleased p)).interactionConfig.itemActivationEnabled = true ∧
      (s.step (.leftReleased p)).appletPopup ≠ some .embed := by
  obtain ⟨hconfig, hpopup⟩ := @itemPopupApplet_spec (s.call .itemCommand) henabled p happlet
  rw [← step_leftReleased henabled hcommand] at hconfig hpopup
  rw [← (hs.step (.leftReleased p)).bound, ← hs.bound, hpopup, hconfig]
  change (if s.appletPopup = some .panel then none else some .panel : Option AppletPopup).isSome
      = !s.appletPopup.isSome ∧ _ ∧
    (if s.appletPopup = some .panel then none else some .panel) ≠ some AppletPopup.embed
  cases hbound : s.appletPopup with
  | none => exact ⟨rfl, henabled, nofun⟩
  | some popup =>
    cases popup with
    | panel => exact ⟨rfl, henabled, nofun⟩
    | embed => exact absurd hbound hembed

end PluginItem

end DdeTrayLoader.Plugin
