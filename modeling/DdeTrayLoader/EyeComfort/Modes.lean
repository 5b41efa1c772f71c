import DdeTrayLoader.EyeComfort.EyeComfortModeItem
import DdeTrayLoader.Transition.Run
import Mathlib.Data.Bool.Basic

/-!
# The switch of the mode and what the item says

`enable` asks for the opposite of what the controller knows, whatever the switch says. The switch
is right again when everything is answered; but clicks that come before an answer all ask for the
same, so that the second of two quick clicks does not take the first one back.

The description and the tips are made anew when the mode or the theme changes. When the support of
the mode changes, they are not, and a resize makes only the icon anew.
-/

namespace DdeTrayLoader.EyeComfort

open DdeTrayLoader.Transition DdeTrayLoader.Power

/-- The services grant what they are asked for. -/
def Event.Granted : Event → Prop
  | .serveEnabled granted _ => granted = true
  | .serveTheme granted _ => granted = true
  | _ => True

instance : DecidablePred Event.Granted := fun e => by
  cases e <;> unfold Event.Granted <;> infer_instance

/-- The display service grants what it is asked for. -/
def Event.EnabledGranted : Event → Prop
  | .serveEnabled granted _ => granted = true
  | _ => True

instance : DecidablePred Event.EnabledGranted := fun e => by
  cases e <;> unfold Event.EnabledGranted <;> infer_instance

namespace EyeComfortSystem

variable {s : EyeComfortSystem}

/-! ## The mode -/

/-- `m_switchBtn->isChecked()` -/
def checked (s : EyeComfortSystem) : Bool := s.item.applet.checked

/-- What an event does to the mode and the switch. -/
theorem enabled_cases (s : EyeComfortSystem) (e : Event) :
    (s.step e).enabled = s.enabled ∧ (s.step e).checked = s.checked ∨
      (e = .switchClicked ∨ e = .iconClicked ∨ e = .shiftInvoked) ∧
        (s.step e).enabled = s.enabled.ask (!s.enabled.copy) ∨
      (∃ granted again, e = .serveEnabled granted again ∧
        (s.step e).enabled = s.enabled.serve granted again ∧ (s.step e).checked = s.checked) ∨
      (∃ value again, e = .setEnabled value again ∧
        (s.step e).enabled = s.enabled.assign value again ∧ (s.step e).checked = s.checked) ∨
      e = .deliverEnabled ∧ (s.step e).enabled = s.enabled.deliver ∧
        (s.step e).checked = s.enabled.deliver.copy := by
  cases e with
  | switchClicked => exact .inr (.inl ⟨.inl rfl, rfl⟩)
  | iconClicked =>
    by_cases hsupport : s.item.supportColorTemperature
    · refine .inr (.inl ⟨.inr (.inl rfl), ?_⟩)
      change s.iconClicked.enabled = _
      unfold iconClicked
      rw [if_pos hsupport]
      rfl
    · refine .inl ?_
      change s.iconClicked.enabled = _ ∧ s.iconClicked.checked = _
      unfold iconClicked
      rw [if_neg hsupport]
      exact ⟨rfl, rfl⟩
  | shiftInvoked => exact .inr (.inl ⟨.inr (.inr rfl), rfl⟩)
  | themeClicked themeType fromCopy =>
    refine .inl ?_
    change (s.themeClicked themeType fromCopy).enabled = _ ∧
      (s.themeClicked themeType fromCopy).checked = _
    rcases s.themeClicked_cases themeType fromCopy with ⟨heq, -⟩ | ⟨-, -, heq⟩
    · rw [heq]
      exact ⟨rfl, rfl⟩
    · rw [heq]
      exact ⟨rfl, rfl⟩
  | serveEnabled granted again => exact .inr (.inr (.inl ⟨granted, again, rfl, rfl, rfl⟩))
  | setEnabled value again => exact .inr (.inr (.inr (.inl ⟨value, again, rfl, rfl, rfl⟩)))
  | serveTheme | setSupport | setTheme | themeTypeChanged => exact .inl ⟨rfl, rfl⟩
  | resized =>
    refine .inl ⟨rfl, ?_⟩
    exact congrArg (·.checked) (s.item.refreshIcon_spec s.enabled.copy).1
  | deliverEnabled =>
    have hstep : s.step .deliverEnabled = s.deliverEnabled := rfl
    rw [hstep]
    unfold deliverEnabled
    cases hsignals : s.enabled.signals with
    | nil => exact .inl ⟨rfl, rfl⟩
    | cons enable rest =>
      refine .inr (.inr (.inr (.inr ⟨rfl, rfl, ?_⟩)))
      have hcopy : s.enabled.deliver.copy = enable := by
        unfold Remote.deliver
        rw [hsignals]
      rw [hcopy]
      change (s.item.eyeComfortModeChanged enable).applet.checked = enable
      unfold EyeComfortModeItem.eyeComfortModeChanged
      rw [(EyeComfortModeItem.refresh_spec _ _).1]
  | deliverSupport =>
    refine .inl ?_
    change s.deliverSupport.enabled = _ ∧ s.deliverSupport.checked = _
    unfold deliverSupport
    cases s.support.signals with
    | nil => exact ⟨rfl, rfl⟩
    | cons support rest =>
      refine ⟨rfl, ?_⟩
      change (s.item.supportColorTemperatureChanged support).applet.checked = _
      unfold EyeComfortModeItem.supportColorTemperatureChanged
      split_ifs
      · rfl
      · rfl
      · rfl
  | deliverTheme =>
    refine .inl ?_
    change s.deliverTheme.enabled = _ ∧ s.deliverTheme.checked = _
    unfold deliverTheme
    cases s.theme.signals with
    | nil => exact ⟨rfl, rfl⟩
    | cons value rest =>
      refine ⟨rfl, ?_⟩
      change (s.item.globalThemeChanged s.enabled.copy value).applet.checked = _
      unfold EyeComfortModeItem.globalThemeChanged
      dsimp only
      split_ifs
      · rfl
      · rw [(EyeComfortModeItem.refresh_spec _ _).1]
        rfl

/-- The switch says what the controller knows, unless the opposite is coming. -/
structure Answered (s : EyeComfortSystem) : Prop where
  follows : s.enabled.Follows
  coming : s.checked ≠ s.enabled.copy → s.enabled.Coming (· ≠ s.enabled.copy)

theorem Answered.step (hs : s.Answered) {e : Event} (he : e.EnabledGranted) :
    (s.step e).Answered := by
  have hkeep {enabled : Remote Bool} (henabled : (s.step e).enabled = enabled)
      (hchecked : (s.step e).checked = s.checked) (hfollows : enabled.Follows)
      (hcopy : enabled.copy = s.enabled.copy)
      (hcoming : s.enabled.Coming (· ≠ s.enabled.copy) → enabled.Coming (· ≠ s.enabled.copy)) :
      (s.step e).Answered := by
    refine ⟨henabled ▸ hfollows, ?_⟩
    rw [henabled, hchecked, hcopy]
    exact fun hne => hcoming (hs.coming hne)
  rcases s.enabled_cases e with ⟨henabled, hchecked⟩ | ⟨-, henabled⟩ |
    ⟨granted, again, rfl, henabled, hchecked⟩ | ⟨value, again, rfl, henabled, hchecked⟩ |
    ⟨-, henabled, hchecked⟩
  · exact hkeep henabled hchecked hs.follows rfl id
  · refine ⟨henabled ▸ hs.follows.ask _, fun _ => ?_⟩
    rw [henabled]
    exact Remote.coming_ask (Bool.not_ne_self _)
  · obtain rfl : granted = true := he
    refine hkeep henabled hchecked (hs.follows.serve true again) (Remote.copy_serve ..) ?_
    exact fun hcoming => hcoming.serve hs.follows (fun h => h rfl) again
  · refine hkeep henabled hchecked (hs.follows.assign value again) (Remote.copy_assign ..) ?_
    exact fun hcoming => hcoming.assign value again
  · refine ⟨henabled ▸ hs.follows.deliver, fun hne => ?_⟩
    rw [henabled, hchecked] at hne
    exact absurd rfl hne

/-- In every run in which the display service grants what it is asked for, the switch says whether
the mode is on when no request and no signal of the mode is on its way, whatever the user clicks and
whoever else changes the mode. -/
theorem switch_shows_mode (enabled support : Bool) (globalTheme : List Char) {es : List Event}
    (hes : ∀ e ∈ es, e.EnabledGranted)
    (hq : (run step (create enabled support globalTheme) es).enabled.Quiet) :
    (run step (create enabled support globalTheme) es).checked =
      (run step (create enabled support globalTheme) es).enabled.value := by
  have hcreate : (create enabled support globalTheme).Answered := by
    refine ⟨Remote.follows_known enabled, fun hne => absurd ?_ hne⟩
    change ((EyeComfortModeItem.refresh _ _).applet).checked = enabled
    rw [(EyeComfortModeItem.refresh_spec _ _).1]
    exact (EyeComfortModeItem.constructed_spec enabled support globalTheme).1
  have hs : (run step (create enabled support globalTheme) es).Answered :=
    run_invariant_of_mem (I := Answered) (fun e he s hs => hs.step (hes e he)) hcreate
  rw [← hs.follows.copy_eq hq.signals]
  by_contra hne
  exact hq.not_coming (hs.coming hne)

theorem switch_shows_mode_on :
    let s := run step (create false true THEME_LIGHT)
      [.switchClicked, .themeClicked .dark true, .serveEnabled true false, .resized,
        .serveTheme false false, .deliverEnabled]
    s.checked = s.enabled.value :=
  switch_shows_mode false true THEME_LIGHT (by decide) ⟨rfl, rfl⟩

/-! ## Clicks before an answer -/

/-- The service grants what it is asked for, and nobody else changes the mode. -/
def Undisturbed : Event → Prop
  | .serveEnabled granted _ => granted = true
  | .setEnabled _ _ => False
  | _ => True

/-- The user asks for the mode to be changed. -/
def Toggles (e : Event) : Prop := e = .switchClicked ∨ e = .iconClicked ∨ e = .shiftInvoked

/-- The mode is asked to be changed: the quick panel's icon does so only while the item knows that
the mode is supported. -/
def Asks (s : EyeComfortSystem) (e : Event) : Prop :=
  e = .switchClicked ∨ e = .shiftInvoked ∨
    e = .iconClicked ∧ s.item.supportColorTemperature = true

theorem enabled_step_of_asks {e : Event} (h : s.Asks e) :
    (s.step e).enabled = s.enabled.ask !s.enabled.copy := by
  rcases h with rfl | rfl | ⟨rfl, hsupport⟩
  · rfl
  · rfl
  · change s.iconClicked.enabled = _
    unfold iconClicked
    rw [if_pos hsupport]
    rfl

theorem turning_step {value : Bool} (hs : s.enabled.Turning value) {e : Event}
    (he : Undisturbed e) (hcopy : Toggles e → s.enabled.copy = !value) :
    (s.step e).enabled.Turning value := by
  rcases s.enabled_cases e with ⟨henabled, -⟩ | ⟨htoggles, henabled⟩ |
    ⟨granted, again, rfl, henabled, -⟩ | ⟨_, _, rfl, -⟩ | ⟨-, henabled, -⟩
  · rw [henabled]
    exact hs
  · rw [henabled, hcopy htoggles, Bool.not_not]
    exact Remote.turning_ask hs.requests
  · obtain rfl : granted = true := he
    rw [henabled]
    exact hs.serve again
  · exact absurd he id
  · rw [henabled]
    exact hs.deliver

/-- Before an answer arrives, the controller knows what it knew, and asks for the opposite only. -/
theorem waiting_step {value : Bool}
    (hs : s.enabled.copy = (!value) ∧ ∀ a ∈ s.enabled.requests, a = value) {e : Event}
    (he : Undisturbed e) (hdeliver : e ≠ .deliverEnabled) :
    (s.step e).enabled.copy = (!value) ∧ ∀ a ∈ (s.step e).enabled.requests, a = value := by
  obtain ⟨hcopy, hrequests⟩ := hs
  rcases s.enabled_cases e with ⟨henabled, -⟩ | ⟨-, henabled⟩ |
    ⟨granted, again, rfl, henabled, -⟩ | ⟨_, _, rfl, -⟩ | ⟨rfl, -, -⟩
  · rw [henabled]
    exact ⟨hcopy, hrequests⟩
  · rw [henabled, hcopy, Bool.not_not]
    exact ⟨hcopy, (Remote.turning_ask hrequests).requests⟩
  · rw [henabled, Remote.copy_serve]
    exact ⟨hcopy, fun a ha => hrequests a (Remote.mem_requests_serve ha)⟩
  · exact absurd he id
  · exact absurd rfl hdeliver

/-- When the mode is quiet, the user asks for it to be changed, once or more and at least once to
effect, before an answer arrives, the service grants what it is asked for and nobody else sets the
mode, it is changed once: also a second click, which should take the first one back, leaves it
changed. -/
theorem clicks_before_answer (s : EyeComfortSystem) (hq : s.enabled.Quiet)
    (hcopy : s.enabled.copy = s.enabled.value) {es es' : List Event}
    (hsome : ∃ before e after, es = before ++ e :: after ∧ (run step s before).Asks e)
    (hes : ∀ e ∈ es, Undisturbed e ∧ e ≠ .deliverEnabled)
    (hes' : ∀ e ∈ es', Undisturbed e ∧ ¬Toggles e)
    (hq' : (run step s (es ++ es')).enabled.Quiet) :
    (run step s (es ++ es')).enabled.value = !s.enabled.value := by
  obtain ⟨before, e, after, rfl, hasks⟩ := hsome
  -- Up to this click nothing else is asked for.
  have hbefore : (run step s before).enabled.copy = (!!s.enabled.value) ∧
      ∀ a ∈ (run step s before).enabled.requests, a = !s.enabled.value := by
    refine run_invariant_of_mem (I := fun s' : EyeComfortSystem => s'.enabled.copy =
      (!!s.enabled.value) ∧ ∀ a ∈ s'.enabled.requests, a = !s.enabled.value)
      (fun e' he' s' hs' => ?_) ⟨by rw [Bool.not_not, hcopy], by rw [hq.requests]; exact nofun⟩
    obtain ⟨hundisturbed, hdeliver⟩ := hes e' (List.mem_append_left _ he')
    exact waiting_step hs' hundisturbed hdeliver
  have hfirst : ((run step s before).step e).enabled =
      (run step s before).enabled.ask !s.enabled.value := by
    rw [enabled_step_of_asks hasks, hbefore.1, Bool.not_not]
  have hafter : (run step s (before ++ e :: after)).enabled.Turning (!s.enabled.value) := by
    rw [run_append, run_cons]
    refine (run_invariant_of_mem (I := fun s' : EyeComfortSystem => s'.enabled.Turning
      (!s.enabled.value) ∧ s'.enabled.copy = !!s.enabled.value)
      (fun e' he' s' hs' => ?_) ⟨?_, ?_⟩).1
    · obtain ⟨hundisturbed, hdeliver⟩ :=
        hes e' (List.mem_append_right _ (List.mem_cons_of_mem e he'))
      exact ⟨turning_step hs'.1 hundisturbed fun _ => hs'.2,
        (waiting_step ⟨hs'.2, hs'.1.requests⟩ hundisturbed hdeliver).1⟩
    · rw [hfirst]
      exact Remote.turning_ask hbefore.2
    · rw [hfirst]
      exact hbefore.1
  rw [run_append] at hq' ⊢
  have hlast : (run step (run step s (before ++ e :: after)) es').enabled.Turning
      (!s.enabled.value) :=
    run_invariant_of_mem (I := fun s' : EyeComfortSystem => s'.enabled.Turning (!s.enabled.value))
      (fun e' he' s' hs' => turning_step hs' (hes' e' he').1 fun h => absurd h (hes' e' he').2)
      hafter
  exact hlast.value_eq hq'

theorem clicks_before_answer_twice :
    let s := run step (create false false THEME_LIGHT)
      ([.setSupport true false, .deliverSupport, .iconClicked, .iconClicked] ++
        [.serveEnabled true false, .serveEnabled true false, .deliverEnabled])
    s.enabled.value = true := by
  refine clicks_before_answer (create false false THEME_LIGHT) ⟨rfl, rfl⟩ rfl
    ⟨[.setSupport true false, .deliverSupport], .iconClicked, [.iconClicked], rfl,
      .inr (.inr ⟨rfl, rfl⟩)⟩ (fun e he => ?_) (fun e he => ?_) ⟨rfl, rfl⟩
  · simp only [List.mem_cons, List.not_mem_nil, or_false, or_self] at he
    rcases he with rfl | rfl | rfl
    · exact ⟨trivial, by simp⟩
    · exact ⟨trivial, by simp⟩
    · exact ⟨trivial, by simp⟩
  · simp only [List.mem_cons, List.not_mem_nil, or_false] at he
    rcases he with rfl | rfl | rfl
    · exact ⟨rfl, by unfold Toggles; simp⟩
    · exact ⟨rfl, by unfold Toggles; simp⟩
    · exact ⟨trivial, by unfold Toggles; simp⟩

/-! ## What the item says -/

/-- The description and the tips are those of a mode with this support. -/
structure Texts (support : Bool) (s : EyeComfortSystem) : Prop where
  description : s.item.quickPanel.description = describe support s.enabled.copy s.item.themeType
  tips : s.item.tips = tipsText support s.enabled.copy s.item.themeType

/-- At this event the two are made anew. -/
def refreshes (s : EyeComfortSystem) : Event → Bool
  | .deliverEnabled => !s.enabled.signals.isEmpty
  | .deliverTheme => s.theme.signals.head?.any fun value => s.item.themeType ≠ getThemeType value
  | _ => false

/-- The support of the mode when the two were made last. -/
def refreshedFor (s : EyeComfortSystem) (support : Bool) : List Event → Bool
  | [] => support
  | e :: es =>
    (s.step e).refreshedFor (if s.refreshes e then s.item.supportColorTemperature else support) es

/-- What is said is for the support at the last refresh, and the icons of the states are set for a
mode that is supported. -/
structure Spoken (support : Bool) (s : EyeComfortSystem) : Prop where
  texts : s.Texts support
  mapping : s.item.supportColorTemperature = true → s.item.icon.Mapped

/-- An event that makes neither anew. -/
theorem Spoken.of_same {support : Bool} {s' : EyeComfortSystem} (hs : s.Spoken support)
    (hdescription : s'.item.quickPanel.description = s.item.quickPanel.description)
    (htips : s'.item.tips = s.item.tips) (htype : s'.item.themeType = s.item.themeType)
    (hcopy : s'.enabled.copy = s.enabled.copy)
    (hmapping : s'.item.supportColorTemperature = true → s'.item.icon.Mapped) : s'.Spoken support :=
  ⟨⟨by rw [hdescription, htype, hcopy, hs.texts.description],
    by rw [htips, htype, hcopy, hs.texts.tips]⟩, hmapping⟩

/-- After a refresh, what is said is for the support that the item knows. -/
theorem spoken_refresh {item : EyeComfortModeItem} (hitem : s.item = item.refresh s.enabled.copy)
    (hmapping : item.supportColorTemperature = true → item.icon.Mapped) :
    s.Spoken item.supportColorTemperature := by
  obtain ⟨hdescription, htips⟩ := item.refresh_texts s.enabled.copy
  obtain ⟨-, htype, hsupport⟩ := item.refresh_spec s.enabled.copy
  refine ⟨⟨?_, ?_⟩, ?_⟩
  · rw [hitem, hdescription, htype]
  · rw [hitem, htips, htype]
  · rw [hitem, hsupport]
    intro h
    have hmapped : (item.updateDescription s.enabled.copy).icon.Mapped := hmapping h
    exact EyeComfortModeItem.mapped_refreshIcon hmapped s.enabled.copy

theorem Spoken.step {support : Bool} (hs : s.Spoken support) (e : Event) :
    (s.step e).Spoken (if s.refreshes e then s.item.supportColorTemperature else support) := by
  cases e with
  | switchClicked | shiftInvoked | serveTheme | setSupport | setTheme =>
    exact hs.of_same rfl rfl rfl rfl hs.mapping
  | serveEnabled granted again =>
    exact hs.of_same rfl rfl rfl (Remote.copy_serve ..) hs.mapping
  | setEnabled value again => exact hs.of_same rfl rfl rfl (Remote.copy_assign ..) hs.mapping
  | resized =>
    obtain ⟨-, htype, hsupport, hdescription, htips⟩ := s.item.refreshIcon_spec s.enabled.copy
    refine hs.of_same hdescription htips htype rfl fun h => ?_
    exact EyeComfortModeItem.mapped_refreshIcon (hs.mapping (hsupport.symm.trans h)) _
  | themeTypeChanged =>
    exact hs.of_same rfl rfl rfl rfl fun h => (hs.mapping h).setState _
  | iconClicked =>
    change s.iconClicked.Spoken support
    unfold iconClicked
    split_ifs
    · exact hs.of_same rfl rfl rfl rfl hs.mapping
    · exact hs
  | themeClicked themeType fromCopy =>
    change (s.themeClicked themeType fromCopy).Spoken support
    rcases s.themeClicked_cases themeType fromCopy with ⟨heq, -⟩ | ⟨-, -, heq⟩
    · rw [heq]
      exact hs
    · rw [heq]
      exact hs.of_same rfl rfl rfl rfl hs.mapping
  | deliverEnabled =>
    have hstep : s.step .deliverEnabled = s.deliverEnabled := rfl
    rw [hstep]
    unfold refreshes deliverEnabled
    cases hsignals : s.enabled.signals with
    | nil => exact hs
    | cons enable rest =>
      have hcopy : s.enabled.deliver.copy = enable := by
        unfold Remote.deliver
        rw [hsignals]
      refine @spoken_refresh _ { s.item with
        quickPanel := { s.item.quickPanel with active := enable }
        applet := { s.item.applet with checked := enable } } ?_ hs.mapping
      dsimp only
      rw [hcopy]
      rfl
  | deliverSupport =>
    change s.deliverSupport.Spoken support
    unfold deliverSupport
    cases s.support.signals with
    | nil => exact hs
    | cons support' rest =>
      dsimp only
      unfold EyeComfortModeItem.supportColorTemperatureChanged
      split_ifs with hsame hsupport
      · exact hs.of_same rfl rfl rfl rfl hs.mapping
      · exact hs.of_same rfl rfl rfl rfl fun _ => ⟨rfl, rfl⟩
      · exact hs.of_same rfl rfl rfl rfl fun h => absurd h hsupport
  | deliverTheme =>
    have hstep : s.step .deliverTheme = s.deliverTheme := rfl
    rw [hstep]
    unfold deliverTheme
    cases hsignals : s.theme.signals with
    | nil =>
      have hnothing : s.refreshes .deliverTheme = false := by
        unfold refreshes
        rw [hsignals]
        rfl
      rw [hnothing]
      exact hs
    | cons value rest =>
      have hrefreshes : s.refreshes .deliverTheme =
          decide (s.item.themeType ≠ getThemeType value) := by
        unfold refreshes
        rw [hsignals]
        rfl
      rw [hrefreshes]
      dsimp only
      unfold EyeComfortModeItem.globalThemeChanged
      by_cases hsame : s.item.themeType = getThemeType value
      · rw [if_pos hsame, if_neg (by rw [decide_eq_true_iff]; exact not_not.mpr hsame)]
        exact hs.of_same rfl rfl rfl rfl hs.mapping
      · rw [if_neg hsame, if_pos (decide_eq_true hsame)]
        exact @spoken_refresh _ { s.item with
          themeType := getThemeType value
          applet := s.item.applet.onGlobalThemeChanged value } rfl hs.mapping

theorem spoken_run {support : Bool} (hs : s.Spoken support) (es : List Event) :
    (run step s es).Spoken (s.refreshedFor support es) := by
  induction es generalizing s support with
  | nil => exact hs
  | cons e es ih => exact ih (hs.step e)

theorem describe_inj {support support' enabled : Bool} {themeType : ThemeType}
    (h : describe support enabled themeType = describe support' enabled themeType) :
    support = support' := by
  revert h
  cases support <;> cases support' <;> cases enabled <;> cases themeType <;> decide

theorem spoken_create (enabled support : Bool) (globalTheme : List Char) :
    (create enabled support globalTheme).Spoken support := by
  obtain ⟨-, -, -, -, hsupport, hmapping⟩ :=
    EyeComfortModeItem.constructed_spec enabled support globalTheme
  have hspoken := @spoken_refresh (create enabled support globalTheme) _ rfl fun h =>
    hmapping (hsupport.symm.trans h)
  rwa [hsupport] at hspoken

/-- In every run, the description and the tips are right exactly when the support of the mode is
what it was when the mode or the theme changed last: a change of the support alone leaves them
wrong, and no resize makes them right. -/
theorem texts_right_iff (enabled support : Bool) (globalTheme : List Char) (es : List Event) :
    let s := run step (create enabled support globalTheme) es
    s.Texts s.item.supportColorTemperature ↔
      (create enabled support globalTheme).refreshedFor support es =
        s.item.supportColorTemperature := by
  intro s
  have hs := spoken_run (spoken_create enabled support globalTheme) es
  constructor
  · intro htexts
    exact describe_inj (hs.texts.description.symm.trans htexts.description)
  · intro heq
    rw [← heq]
    exact hs.texts

/-- In every run, a resize makes the icon that of the mode or of the theme. -/
theorem icon_resized (enabled support : Bool) (globalTheme : List Char) (es : List Event) :
    let s := (run step (create enabled support globalTheme) es).step .resized
    s.item.icon.icon = some (if s.item.supportColorTemperature then
        if s.enabled.copy then .named "eyeshield-on" ":/eyeshield-on.svg"
        else .named "eyeshield-off" ":/eyeshield-off.svg"
      else .fromTheme (themeIcon s.item.themeType)) := by
  intro s
  have hs := spoken_run (spoken_create enabled support globalTheme) es
  obtain ⟨-, htype, hsupport, -, -⟩ := EyeComfortModeItem.refreshIcon_spec
    (run step (create enabled support globalTheme) es).item
    (run step (create enabled support globalTheme) es).enabled.copy
  change ((run step (create enabled support globalTheme) es).item.refreshIcon
    (run step (create enabled support globalTheme) es).enabled.copy).icon.icon = _
  rw [EyeComfortModeItem.icon_refreshIcon _ _ hs.mapping, ← htype, ← hsupport]
  rfl

end EyeComfortSystem

end DdeTrayLoader.EyeComfort
