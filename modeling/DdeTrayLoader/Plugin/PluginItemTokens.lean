import DdeTrayLoader.Plugin.PluginItem

/-!
# The tokens of a plugin's item

A click that runs a command and a choice in the menu first ask for an activation token. Each is
then carried out once, when its token comes, or its token is outstanding.

The choice of the menu finds its token in the environment, from which it is removed afterwards. A
command starts without it.
-/

namespace DdeTrayLoader.Plugin

open DdeTrayLoader.Transition

/-- What a call carries out, with the environment that it finds. -/
def ItemCall.carriesOut : ItemCall → Option (TokenPurpose × Option String)
  | .invokedMenuItem menuId checked environment => some (.menuItem menuId checked, environment)
  | .startDetached command environment => some (.command command, environment)
  | _ => none

/-- The variable is unset, or it has the value that it had at the start. -/
def Untouched (environment : Option String) (e : Option String) : Prop :=
  e = none ∨ e = environment

/-- The environment for what a token was asked for: a choice in the menu finds a token that is not
empty. -/
def EnvironmentFor (environment : Option String) : TokenPurpose × String → Option String → Prop
  | (.menuItem _ _, token), e =>
    (token ≠ "" ∧ e = some token) ∨ (token = "" ∧ Untouched environment e)
  | (.command _, _), e => Untouched environment e

/-- An answer, and what is carried out at it. -/
def Serves (environment : Option String) (answer : TokenPurpose × String)
    (carried : TokenPurpose × Option String) : Prop :=
  carried.1 = answer.1 ∧ EnvironmentFor environment answer carried.2

namespace PluginItem

/-- What the calls of the log carried out. -/
def carriedOut (s : PluginItem) : List (TokenPurpose × Option String) :=
  s.calls.filterMap fun c => c.2.carriesOut

/-- What an event asks for a token for. -/
def request (s : PluginItem) : ItemEvent → Option TokenPurpose
  | .leftReleased p =>
    if s.interactionConfig.itemActivationEnabled ∧ p.itemCommand ≠ "" ∧
        p.itemCommand ≠ REQUEST_SHUTDOWN then some (.command p.itemCommand)
    else none
  | .triggered actionStr checked =>
    if SHUTDOWN_MENU_FLAG.isPrefixOf actionStr ∨ actionStr = dockMenuItemId ∨
        actionStr = unDockMenuItemId then none
    else some (.menuItem actionStr checked)
  | _ => none

variable {s : PluginItem}

/-- The tokens, the environment and what was carried out are the same. -/
structure SameTokens (s s' : PluginItem) : Prop where
  tokens : s'.activation.tokens = s.activation.tokens
  environment : s'.environment = s.environment
  carriedOut : s'.carriedOut = s.carriedOut

theorem SameTokens.refl (s : PluginItem) : SameTokens s s := ⟨rfl, rfl, rfl⟩

theorem SameTokens.trans {s' s'' : PluginItem} (h : SameTokens s s') (h' : SameTokens s' s'') :
    SameTokens s s'' :=
  ⟨h'.tokens.trans h.tokens, h'.environment.trans h.environment, h'.carriedOut.trans h.carriedOut⟩

theorem carriedOut_call (s : PluginItem) (c : ItemCall) :
    (s.call c).carriedOut = s.carriedOut ++ c.carriesOut.toList := by
  unfold carriedOut call
  rw [List.filterMap_append, List.filterMap_cons, List.filterMap_nil]
  cases c.carriesOut with
  | none => rfl
  | some carried => rfl

theorem sameTokens_call (s : PluginItem) {c : ItemCall} (h : c.carriesOut = none) :
    SameTokens s (s.call c) := by
  refine ⟨rfl, rfl, ?_⟩
  rw [carriedOut_call, h]
  exact List.append_nil _

/-- Calls that carry nothing out. -/
theorem Logs.sameTokens {called : List ItemCall} {s' : PluginItem} (h : Logs called s s')
    (hcalled : ∀ c ∈ called, c.carriesOut = none) : SameTokens s s' := by
  refine ⟨congrArg (·.tokens) h.activation, h.environment, ?_⟩
  have hnone : (called.map (s.interactionConfig, ·)).filterMap (fun c => c.2.carriesOut) = [] := by
    rw [List.filterMap_map]
    exact List.filterMap_eq_nil_iff.mpr hcalled
  unfold carriedOut
  rw [h.calls, List.filterMap_append, hnone, List.append_nil]

theorem sameTokens_itemPopupApplet (s : PluginItem) (p : ItemAnswers) :
    SameTokens s (s.itemPopupApplet p) := by
  obtain ⟨called, hlogs, hcalled⟩ := itemPopupApplet_logs s p
  apply hlogs.sameTokens
  intro c hc
  rw [(hcalled c hc).1]
  rfl

theorem sameTokens_pluginContextMenu (s : PluginItem) (p : ItemAnswers) :
    SameTokens s (s.pluginContextMenu p) := by
  obtain ⟨called, hlogs, hcalled⟩ := pluginContextMenu_logs s p
  apply hlogs.sameTokens
  intro c hc
  rw [(hcalled c hc).1]
  rfl

theorem sameTokens_pluginTooltip (s : PluginItem) (p : ItemAnswers) :
    SameTokens s (s.pluginTooltip p) := by
  obtain ⟨called, hlogs, hcalled⟩ := pluginTooltip_logs s p
  apply hlogs.sameTokens
  intro c hc
  obtain ⟨rfl | rfl, -⟩ := hcalled c hc
  · rfl
  · rfl

/-! ## What is carried out -/

/-- What was asked for was carried out, with its environment, or is outstanding. -/
structure Serving (environment : Option String) (requested : List TokenPurpose) (s : PluginItem) :
    Prop where
  accounts : s.activation.tokens.Accounts requested
  served : List.Forall₂ (Serves environment) s.activation.tokens.answered s.carriedOut
  untouched : Untouched environment s.environment

section
variable {environment : Option String} {requested : List TokenPurpose}

theorem Serving.of_same {s' : PluginItem} (hs : s.Serving environment requested)
    (h : SameTokens s s') : s'.Serving environment requested := by
  refine ⟨?_, ?_, ?_⟩
  · rw [h.tokens]
    exact hs.accounts
  · rw [h.tokens, h.carriedOut]
    exact hs.served
  · rw [h.environment]
    exact hs.untouched

/-- One more answer, and what is carried out at it. -/
theorem forall₂_concat {answered : List (TokenPurpose × String)}
    {carried : List (TokenPurpose × Option String)} {a : TokenPurpose × String}
    {c : TokenPurpose × Option String} (h : List.Forall₂ (Serves environment) answered carried)
    (hlast : Serves environment a c) :
    List.Forall₂ (Serves environment) (answered ++ [a]) (carried ++ [c]) :=
  List.rel_append h (.cons hlast .nil)

/-- The callback of a token carries out what the token was asked for. -/
theorem tokenReady_spec (huntouched : Untouched environment s.environment) (token : String)
    (purpose : TokenPurpose) :
    (s.tokenReady token purpose).activation = s.activation ∧
      Untouched environment (s.tokenReady token purpose).environment ∧
      ∃ e, EnvironmentFor environment (purpose, token) e ∧
        (s.tokenReady token purpose).carriedOut = s.carriedOut ++ [(purpose, e)] := by
  cases purpose with
  | menuItem menuId checked =>
    unfold tokenReady
    dsimp only
    split_ifs with htoken
    · exact ⟨rfl, .inl rfl, some token, .inl ⟨htoken, rfl⟩, carriedOut_call _ _⟩
    · exact ⟨rfl, huntouched, s.environment, .inr ⟨not_not.mp htoken, huntouched⟩,
        carriedOut_call _ _⟩
  | command command =>
    exact ⟨rfl, huntouched, s.environment, huntouched, carriedOut_call _ _⟩

/-- The callback of a token that has been accounted for. -/
theorem Serving.tokenReady {token : String} {purpose : TokenPurpose}
    {answered : List (TokenPurpose × String)}
    (haccounts : s.activation.tokens.Accounts requested)
    (hanswered : s.activation.tokens.answered = answered ++ [(purpose, token)])
    (hserved : List.Forall₂ (Serves environment) answered s.carriedOut)
    (huntouched : Untouched environment s.environment) :
    (s.tokenReady token purpose).Serving environment requested := by
  obtain ⟨hactivation, hkept, e, henvironment, hcarried⟩ :=
    tokenReady_spec huntouched token purpose
  refine ⟨?_, ?_, hkept⟩
  · rw [hactivation]
    exact haccounts
  · rw [hactivation, hanswered, hcarried]
    exact forall₂_concat hserved ⟨rfl, henvironment⟩

theorem Serving.requestToken (hs : s.Serving environment requested) (purpose : TokenPurpose) :
    (s.requestToken purpose).Serving environment (requested ++ [purpose]) := by
  unfold PluginItem.requestToken
  rcases s.activation.requestToken_cases purpose with heq | heq
  · rw [heq]
    exact ⟨hs.accounts.wait purpose, hs.served, hs.untouched⟩
  · rw [heq]
    exact Serving.tokenReady (hs.accounts.answerNow purpose "") rfl hs.served hs.untouched

theorem Serving.tokenDone (hs : s.Serving environment requested) (i : ℕ) (token : String) :
    (s.tokenDone i token).Serving environment requested := by
  have haccounts := hs.accounts.answer i token
  unfold PluginItem.tokenDone XdgActivation.done
  dsimp only
  cases hget : s.activation.tokens.pending[i]? with
  | none =>
    rw [Outstanding.answer_of_none hget]
    exact hs
  | some purpose =>
    rw [Outstanding.answer_of_get hget] at haccounts ⊢
    exact Serving.tokenReady haccounts rfl hs.served hs.untouched

/-- A click asks for a token when it runs a command. -/
theorem Serving.mouseReleaseLeft (hs : s.Serving environment requested) (p : ItemAnswers) :
    (s.mouseReleaseLeft p).Serving environment
      (requested ++ (s.request (.leftReleased p)).toList) := by
  have hcall : SameTokens s (s.call .itemCommand) := sameTokens_call s rfl
  unfold PluginItem.mouseReleaseLeft executeCommand
  by_cases henabled : s.interactionConfig.itemActivationEnabled = true
  · rw [if_pos henabled]
    dsimp only
    by_cases hcommand : p.itemCommand = ""
    · have hrequest : s.request (.leftReleased p) = none := if_neg fun h => h.2.1 hcommand
      rw [hrequest, if_neg (not_not.mpr hcommand), Option.toList_none, List.append_nil]
      exact hs.of_same (hcall.trans (sameTokens_itemPopupApplet _ p))
    · rw [if_pos hcommand]
      by_cases hshutdown : p.itemCommand = REQUEST_SHUTDOWN
      · have hrequest : s.request (.leftReleased p) = none := if_neg fun h => h.2.2 hshutdown
        rw [hrequest, if_pos hshutdown, Option.toList_none, List.append_nil]
        exact hs.of_same (hcall.trans (sameTokens_call _ rfl))
      · have hrequest : s.request (.leftReleased p) = some (.command p.itemCommand) :=
          if_pos ⟨henabled, hcommand, hshutdown⟩
        rw [hrequest, if_neg hshutdown, Option.toList_some]
        exact (hs.of_same hcall).requestToken (.command p.itemCommand)
  · have hrequest : s.request (.leftReleased p) = none := if_neg fun h => henabled h.1
    rw [hrequest, if_neg henabled, Option.toList_none, List.append_nil]
    exact hs.of_same (sameTokens_itemPopupApplet s p)

/-- A choice in the menu asks for a token when it is for the plugin. -/
theorem Serving.triggered (hs : s.Serving environment requested) (actionStr : String)
    (checked : Bool) : (s.triggered actionStr checked).Serving environment
      (requested ++ (s.request (.triggered actionStr checked)).toList) := by
  unfold PluginItem.triggered
  by_cases hshutdown : SHUTDOWN_MENU_FLAG.isPrefixOf actionStr = true
  · have hrequest : s.request (.triggered actionStr checked) = none := if_pos (.inl hshutdown)
    rw [hrequest, if_pos hshutdown, Option.toList_none, List.append_nil]
    split_ifs
    · exact hs
    · exact hs.of_same (sameTokens_call s rfl)
  · rw [if_neg hshutdown]
    by_cases hdock : actionStr = dockMenuItemId ∨ actionStr = unDockMenuItemId
    · have hrequest : s.request (.triggered actionStr checked) = none := if_pos (.inr hdock)
      rw [hrequest, if_pos hdock, Option.toList_none, List.append_nil]
      exact hs.of_same (sameTokens_call s rfl)
    · have hrequest : s.request (.triggered actionStr checked) =
          some (.menuItem actionStr checked) := if_neg fun h => h.elim hshutdown hdock
      rw [hrequest, if_neg hdock, Option.toList_some]
      exact hs.requestToken (.menuItem actionStr checked)

/-- A step carries out what it asks for, or its token is outstanding. -/
theorem Serving.step (hs : s.Serving environment requested) (e : ItemEvent) :
    (s.step e).Serving environment (requested ++ (s.request e).toList) := by
  have hsame {s' : PluginItem} (hnone : s.request e = none) (h : SameTokens s s') :
      s'.Serving environment (requested ++ (s.request e).toList) := by
    rw [hnone]
    exact (List.append_nil requested).symm ▸ hs.of_same h
  cases e with
  | enter p =>
    apply hsame rfl
    change SameTokens s (s.enterEvent p)
    unfold enterEvent panelPopupExisted
    have hcall : SameTokens s (s.call .itemPopupApplet) := sameTokens_call s rfl
    dsimp only
    split_ifs
    · exact hcall
    · exact hcall.trans (sameTokens_pluginTooltip _ p)
  | leave => exact hsame rfl ⟨rfl, rfl, rfl⟩
  | press => exact hsame rfl ⟨rfl, rfl, rfl⟩
  | leftReleased p => exact hs.mouseReleaseLeft p
  | rightReleased p => exact hsame rfl (sameTokens_pluginContextMenu s p)
  | move => exact hsame rfl (sameTokens_call s rfl)
  | popupGeometry =>
    apply hsame rfl
    unfold PluginItem.step
    dsimp only
    split_ifs
    · exact sameTokens_call s rfl
    · exact .refl s
  | tooltipTimeout =>
    apply hsame rfl
    unfold PluginItem.step
    dsimp only
    split_ifs
    · exact ⟨rfl, rfl, rfl⟩
    · exact .refl s
  | triggered actionStr checked => exact hs.triggered actionStr checked
  | tokenDone i token => exact (List.append_nil requested).symm ▸ hs.tokenDone i token
  | setConfig config =>
    apply hsame rfl
    change SameTokens s (s.setConfig config)
    unfold setConfig
    dsimp only
    split_ifs
    all_goals exact ⟨rfl, rfl, rfl⟩
  | setActive active => exact hsame rfl ⟨rfl, rfl, rfl⟩
  | appletHidden => exact hsame rfl ⟨rfl, rfl, rfl⟩
  | menuHidden => exact hsame rfl ⟨rfl, rfl, rfl⟩
  | tipsHidden => exact hsame rfl ⟨rfl, rfl, rfl⟩
  | itemUpdate => exact hsame rfl ((sameTokens_call s rfl).trans (sameTokens_call _ rfl))
  | itemRemoved p =>
    apply hsame rfl
    have hcalls : SameTokens s ((s.call .itemPopupApplet).call .itemTipsWidget) :=
      (sameTokens_call s rfl).trans (sameTokens_call _ rfl)
    unfold PluginItem.step
    dsimp only
    split_ifs
    · exact hcalls.trans ⟨rfl, rfl, rfl⟩
    · exact hcalls
  | requestSetAppletVisible visible p =>
    apply hsame rfl
    change SameTokens s (s.requestSetAppletVisible visible p)
    unfold requestSetAppletVisible
    have hcall : SameTokens s (s.call .itemPopupApplet) := sameTokens_call s rfl
    dsimp only
    split_ifs
    · exact hcall.trans ⟨rfl, rfl, rfl⟩
    · exact hcall

end

/-- In every run, each choice in the menu and each command that a token was asked for is carried
out once, in the order of the answers, or its token is outstanding. A choice finds its token in the
environment, a command does not, and the variable is never left with a token. -/
theorem tokens_served (config : PluginInteractionConfig) (active : Bool)
    (environment : Option String) (es : List ItemEvent) :
    let s := run step (create config active environment) es
    s.activation.tokens.Accounts (asked step request (create config active environment) es) ∧
      List.Forall₂ (Serves environment) s.activation.tokens.answered s.carriedOut ∧
      Untouched environment s.environment := by
  have hstart : (create config active environment).Serving environment [] :=
    ⟨Outstanding.accounts_none, .nil, .inr rfl⟩
  have hstep (requested : List TokenPurpose) (s : PluginItem) (e : ItemEvent)
      (hs : s.Serving environment requested) :
      (s.step e).Serving environment (requested ++ (s.request e).toList) := hs.step e
  have hserving := run_asked hstep es hstart
  exact ⟨hserving.accounts, hserving.served, hserving.untouched⟩

end PluginItem

end DdeTrayLoader.Plugin
