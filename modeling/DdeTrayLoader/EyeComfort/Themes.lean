import DdeTrayLoader.EyeComfort.Modes
import Mathlib.Data.List.TakeWhile

/-!
# The list of themes

A click on a theme asks for it under the name of the current family, and the list takes note of
what it asked for at once. When every request is granted, the mark is on the theme that the service
has as soon as nothing is on its way, and a click on any other theme asks for one of its kind. A
request that is refused is taken note of all the same, and cannot be made again.

This needs families whose own names do not end in `light` or `dark`.
-/

namespace DdeTrayLoader.EyeComfort

open DdeTrayLoader.Transition DdeTrayLoader.Power

/-! ## Names -/

/-- The family is what stands before the first dot. -/
theorem family_eq_takeWhile (globalTheme : List Char) :
    family globalTheme = globalTheme.takeWhile (· ≠ '.') := by
  unfold family indexOf left
  by_cases hmem : '.' ∈ globalTheme
  · have hnonneg : ¬((globalTheme.idxOf '.' : ℕ) : ℤ) < 0 := by omega
    have hdot : (fun c : Char => !decide (c ≠ '.')) = (· == '.') := by
      funext c
      rw [Bool.beq_eq_decide_eq, decide_not, Bool.not_not]
    rw [if_pos hmem, if_neg hnonneg, Int.toNat_natCast, List.takeWhile_eq_take_findIdx_not, hdot]
    rfl
  · rw [if_neg hmem, if_pos (by decide)]
    refine (List.takeWhile_eq_self_iff.mpr fun c hc => ?_).symm
    rw [decide_eq_true_iff]
    exact ne_of_mem_of_not_mem hc hmem

/-- A suffix after a dot does not change the family. -/
theorem family_append (globalTheme themeName : List Char) :
    family (family globalTheme ++ '.' :: themeName) = family globalTheme := by
  have hbefore : ∀ c ∈ globalTheme.takeWhile (· ≠ '.'), decide (c ≠ '.') = true :=
    fun _ hc => List.mem_takeWhile_imp (p := fun c => decide (c ≠ '.')) hc
  rw [family_eq_takeWhile, family_eq_takeWhile globalTheme, List.takeWhile_append_of_pos hbefore]
  exact List.append_nil _

theorem family_newGlobalTheme (globalTheme : List Char) (themeType : ThemeType) :
    family (newGlobalTheme globalTheme themeType) = family globalTheme := by
  cases themeType with
  | light => exact family_append globalTheme THEME_LIGHT
  | dark => exact family_append globalTheme THEME_DARK
  | auto =>
    change family (family globalTheme) = family globalTheme
    rw [family_eq_takeWhile, family_eq_takeWhile globalTheme, List.takeWhile_idem]

/-- The name of the family itself is not that of a light or a dark theme. -/
def Plain (globalTheme : List Char) : Prop := getThemeType (family globalTheme) = .auto

instance : DecidablePred Plain :=
  fun globalTheme => inferInstanceAs (Decidable (getThemeType (family globalTheme) = .auto))

theorem not_light_of_dark {globalTheme : List Char} (hdark : THEME_DARK <:+ globalTheme) :
    ¬THEME_LIGHT <:+ globalTheme := by
  rintro ⟨before, rfl⟩
  obtain ⟨before', heq⟩ := hdark
  have hlast := congrArg List.getLast? heq
  rw [List.getLast?_append, List.getLast?_append] at hlast
  have hchar : some 'k' = some 't' := hlast
  exact absurd hchar (by decide)

/-- A theme that is asked for is of the kind that was clicked. -/
theorem getThemeType_newGlobalTheme {globalTheme : List Char} (hplain : Plain globalTheme)
    (themeType : ThemeType) : getThemeType (newGlobalTheme globalTheme themeType) = themeType := by
  cases themeType with
  | light => exact if_pos ⟨family globalTheme ++ ['.'], by simp [newGlobalTheme]⟩
  | dark =>
    have hdark : THEME_DARK <:+ newGlobalTheme globalTheme .dark :=
      ⟨family globalTheme ++ ['.'], by simp [newGlobalTheme]⟩
    unfold getThemeType
    rw [if_neg (not_light_of_dark hdark), if_pos hdark]
  | auto => exact hplain

namespace EyeComfortSystem

variable {s s' : EyeComfortSystem}

/-! ## The list and the theme -/

/-- The marks and the name that the list took note of. -/
structure SameList (s s' : EyeComfortSystem) : Prop where
  themeType : s'.item.themeType = s.item.themeType
  state : s'.item.applet.state = s.item.applet.state
  themeTypeName : s'.item.applet.themeTypeName = s.item.applet.themeTypeName

/-- The states of the items when one theme alone is marked. -/
def marks (marked t : ThemeType) : PluginItemState :=
  if t = marked then .ConnectedOnlyPrompt else .NoState

/-- One theme alone is marked, and taken note of. -/
structure Marked (marked : ThemeType) (s : EyeComfortSystem) : Prop where
  themeType : s.item.themeType = marked
  state : s.item.applet.state = marks marked
  themeTypeName : s.item.applet.themeTypeName = marked

theorem sameList_refl (s : EyeComfortSystem) : SameList s s := ⟨rfl, rfl, rfl⟩

/-- What an event does to the theme and the list. -/
theorem theme_cases (s : EyeComfortSystem) (e : Event) :
    (s.step e).theme = s.theme ∧ SameList s (s.step e) ∨
      (∃ themeType fromCopy, e = .themeClicked themeType fromCopy) ∨
      (∃ granted again, e = .serveTheme granted again ∧
        (s.step e).theme = s.theme.serve granted again ∧ SameList s (s.step e)) ∨
      (∃ value again, e = .setTheme value again ∧
        (s.step e).theme = s.theme.assign value again ∧ SameList s (s.step e)) ∨
      s.theme.signals ≠ [] ∧ (s.step e).theme = s.theme.deliver ∧
        (s.item.themeType = getThemeType s.theme.deliver.copy ∧ SameList s (s.step e) ∨
          s.item.themeType ≠ getThemeType s.theme.deliver.copy ∧
            Marked (getThemeType s.theme.deliver.copy) (s.step e)) := by
  cases e with
  | themeClicked themeType fromCopy => exact .inr (.inl ⟨themeType, fromCopy, rfl⟩)
  | serveTheme granted again =>
    exact .inr (.inr (.inl ⟨granted, again, rfl, rfl, rfl, rfl, rfl⟩))
  | setTheme value again =>
    exact .inr (.inr (.inr (.inl ⟨value, again, rfl, rfl, rfl, rfl, rfl⟩)))
  | switchClicked | shiftInvoked | serveEnabled | setEnabled | setSupport | themeTypeChanged =>
    exact .inl ⟨rfl, rfl, rfl, rfl⟩
  | resized =>
    obtain ⟨happlet, htype, -, -, -⟩ := s.item.refreshIcon_spec s.enabled.copy
    exact .inl ⟨rfl, htype, congrArg (·.state) happlet, congrArg (·.themeTypeName) happlet⟩
  | iconClicked =>
    change s.iconClicked.theme = _ ∧ SameList s s.iconClicked ∨ _
    unfold iconClicked
    split_ifs
    · exact .inl ⟨rfl, rfl, rfl, rfl⟩
    · exact .inl ⟨rfl, sameList_refl s⟩
  | deliverEnabled =>
    change s.deliverEnabled.theme = _ ∧ SameList s s.deliverEnabled ∨ _
    unfold deliverEnabled
    cases s.enabled.signals with
    | nil => exact .inl ⟨rfl, sameList_refl s⟩
    | cons enable rest =>
      obtain ⟨happlet, htype, -⟩ := EyeComfortModeItem.refresh_spec { s.item with
        quickPanel := { s.item.quickPanel with active := enable }
        applet := { s.item.applet with checked := enable } } enable
      refine .inl ⟨rfl, htype, ?_, ?_⟩
      · exact congrArg (·.state) happlet
      · exact congrArg (·.themeTypeName) happlet
  | deliverSupport =>
    change s.deliverSupport.theme = _ ∧ SameList s s.deliverSupport ∨ _
    unfold deliverSupport
    cases s.support.signals with
    | nil => exact .inl ⟨rfl, sameList_refl s⟩
    | cons support rest =>
      unfold EyeComfortModeItem.supportColorTemperatureChanged
      dsimp only
      split_ifs
      · exact .inl ⟨rfl, rfl, rfl, rfl⟩
      · exact .inl ⟨rfl, rfl, rfl, rfl⟩
      · exact .inl ⟨rfl, rfl, rfl, rfl⟩
  | deliverTheme =>
    have hstep : s.step .deliverTheme = s.deliverTheme := rfl
    rw [hstep]
    unfold deliverTheme
    cases hsignals : s.theme.signals with
    | nil => exact .inl ⟨rfl, sameList_refl s⟩
    | cons value rest =>
      have hcopy : s.theme.deliver.copy = value := by
        unfold Remote.deliver
        rw [hsignals]
      refine .inr (.inr (.inr (.inr ⟨List.cons_ne_nil _ _, rfl, ?_⟩)))
      rw [hcopy]
      unfold EyeComfortModeItem.globalThemeChanged
      dsimp only
      by_cases hsame : s.item.themeType = getThemeType value
      · rw [if_pos hsame]
        exact .inl ⟨hsame, rfl, rfl, rfl⟩
      · rw [if_neg hsame]
        obtain ⟨happlet, htype, -⟩ := EyeComfortModeItem.refresh_spec { s.item with
          themeType := getThemeType value
          applet := s.item.applet.onGlobalThemeChanged value } s.enabled.copy
        refine .inr ⟨hsame, htype, ?_, ?_⟩
        · exact congrArg (·.state) happlet
        · exact congrArg (·.themeTypeName) happlet

/-- The theme that a click reads. -/
theorem each_globalTheme {p : List Char → Prop} (h : s.theme.Each p) (fromCopy : Bool) :
    p (s.globalTheme fromCopy) := by
  cases fromCopy with
  | false => exact h.value
  | true => exact h.copy

/-- What holds of the themes that the services set, and of the families of themes for which it
holds, holds of every theme. -/
theorem each_step {p : List Char → Prop} (hnew : ∀ g t, p g → p (newGlobalTheme g t))
    (hs : s.theme.Each p) {e : Event} (he : ∀ value again, e = .setTheme value again → p value) :
    (s.step e).theme.Each p := by
  rcases s.theme_cases e with ⟨htheme, -⟩ | ⟨t, fromCopy, rfl⟩ | ⟨granted, again, rfl, htheme, -⟩ |
    ⟨value, again, rfl, htheme, -⟩ | ⟨-, htheme, -⟩
  · rw [htheme]
    exact hs
  · change (s.themeClicked t fromCopy).theme.Each p
    rcases s.themeClicked_cases t fromCopy with ⟨heq, -⟩ | ⟨-, -, heq⟩
    · rw [heq]
      exact hs
    · rw [heq]
      dsimp only
      split_ifs
      · exact hs
      · exact hs.ask (hnew _ t (each_globalTheme hs fromCopy))
  · rw [htheme]
    exact hs.serve granted again
  · rw [htheme]
    exact hs.assign (he value again rfl) again
  · rw [htheme]
    exact hs.deliver

/-- The mark is on the theme that was announced last, and what the list took note of is marked,
unless another theme is coming. -/
structure Chosen (s : EyeComfortSystem) : Prop where
  follows : s.theme.Follows
  plain : s.theme.Each Plain
  themeType : s.item.themeType = getThemeType s.theme.copy
  state : s.item.applet.state = marks s.item.themeType
  coming : s.item.applet.themeTypeName ≠ s.item.themeType →
    s.theme.Coming fun globalTheme => getThemeType globalTheme ≠ s.item.themeType

/-- The list stays, and what was coming still comes. -/
theorem Chosen.of_same (hs : s.Chosen) (hsame : SameList s s') (hfollows : s'.theme.Follows)
    (hplain : s'.theme.Each Plain) (htype : s.item.themeType = getThemeType s'.theme.copy)
    (hcoming : s.theme.Coming (fun globalTheme => getThemeType globalTheme ≠ s.item.themeType) →
      s'.theme.Coming fun globalTheme => getThemeType globalTheme ≠ s.item.themeType) :
    s'.Chosen := by
  refine ⟨hfollows, hplain, hsame.themeType.trans htype, ?_, fun hne => ?_⟩
  · rw [hsame.state, hsame.themeType, hs.state]
  · rw [hsame.themeTypeName, hsame.themeType] at hne
    rw [hsame.themeType]
    exact hcoming (hs.coming hne)

/-- What a click asks for is of another kind than the mark. -/
theorem Chosen.themeClicked (hs : s.Chosen) (t : ThemeType) (fromCopy : Bool)
    (hplain : (s.themeClicked t fromCopy).theme.Each Plain) :
    (s.themeClicked t fromCopy).Chosen := by
  rcases s.themeClicked_cases t fromCopy with ⟨heq, -⟩ | ⟨hstate, -, heq⟩
  · rw [heq]
    exact hs
  rw [heq] at hplain ⊢
  have hkind : getThemeType (newGlobalTheme (s.globalTheme fromCopy) t) = t :=
    getThemeType_newGlobalTheme (each_globalTheme hs.plain fromCopy) t
  have hother : t ≠ s.item.themeType := by
    rintro rfl
    rw [hs.state] at hstate
    exact nomatch hstate.symm.trans (if_pos rfl)
  refine ⟨?_, hplain, ?_, hs.state, fun _ => ?_⟩
  · dsimp only
    split_ifs
    · exact hs.follows
    · exact hs.follows.ask _
  · dsimp only
    split_ifs
    · exact hs.themeType
    · exact hs.themeType
  · dsimp only
    split_ifs with hread
    · cases fromCopy with
      | true =>
        have hcopy : getThemeType s.theme.copy = t := (congrArg getThemeType hread).trans hkind
        exact absurd (hcopy.symm.trans hs.themeType.symm) hother
      | false =>
        have hvalue : getThemeType s.theme.value = t := (congrArg getThemeType hread).trans hkind
        exact hs.follows.coming (by rw [hvalue]; exact hother) (not_not.mpr hs.themeType.symm)
    · exact Remote.coming_ask (by rw [hkind]; exact hother)

theorem Chosen.step (hs : s.Chosen) {e : Event} (hgranted : e.Granted)
    (he : ∀ value again, e = .setTheme value again → Plain value) : (s.step e).Chosen := by
  have hplain : (s.step e).theme.Each Plain := by
    refine each_step (fun g t hg => ?_) hs.plain he
    unfold Plain
    rw [family_newGlobalTheme]
    exact hg
  have hcopy : ¬getThemeType s.theme.copy ≠ s.item.themeType := not_not.mpr hs.themeType.symm
  rcases s.theme_cases e with ⟨htheme, hsame⟩ | ⟨t, fromCopy, rfl⟩ |
    ⟨granted, again, rfl, htheme, hsame⟩ | ⟨value, again, rfl, htheme, hsame⟩ |
    ⟨-, htheme, ⟨htype, hsame⟩ | ⟨-, hmarked⟩⟩
  · refine hs.of_same hsame (htheme ▸ hs.follows) hplain (htheme ▸ hs.themeType) ?_
    rw [htheme]
    exact id
  · exact hs.themeClicked t fromCopy hplain
  · obtain rfl : granted = true := hgranted
    refine hs.of_same hsame (htheme ▸ hs.follows.serve true again) hplain ?_ ?_
    · rw [htheme, Remote.copy_serve]
      exact hs.themeType
    · rw [htheme]
      exact fun hcoming => hcoming.serve hs.follows hcopy again
  · refine hs.of_same hsame (htheme ▸ hs.follows.assign value again) hplain ?_ ?_
    · rw [htheme, Remote.copy_assign]
      exact hs.themeType
    · rw [htheme]
      exact fun hcoming => hcoming.assign value again
  · refine hs.of_same hsame (htheme ▸ hs.follows.deliver) hplain (htheme ▸ htype) ?_
    rw [htheme]
    exact fun hcoming => hcoming.deliver (not_not.mpr htype.symm)
  · refine ⟨htheme ▸ hs.follows.deliver, hplain, ?_, ?_, fun hne => ?_⟩
    · rw [htheme]
      exact hmarked.themeType
    · rw [hmarked.state, hmarked.themeType]
    · exact absurd (hmarked.themeTypeName.trans hmarked.themeType.symm) hne

theorem chosen_create (enabled support : Bool) {globalTheme : List Char}
    (hplain : Plain globalTheme) : (create enabled support globalTheme).Chosen := by
  obtain ⟨-, hstate, hname, htype, -, -⟩ :=
    EyeComfortModeItem.constructed_spec enabled support globalTheme
  obtain ⟨happlet, hsame, -⟩ := EyeComfortModeItem.refresh_spec
    (EyeComfortModeItem.constructed enabled support globalTheme) enabled
  have hcreated : (create enabled support globalTheme).item.themeType =
      getThemeType globalTheme := hsame.trans htype
  refine ⟨Remote.follows_known _, ⟨nofun, hplain, nofun, hplain⟩, hcreated, ?_, fun hne => ?_⟩
  · rw [hcreated]
    exact (congrArg (·.state) happlet).trans hstate
  · have hnamed : (create enabled support globalTheme).item.applet.themeTypeName =
        getThemeType globalTheme := (congrArg (·.themeTypeName) happlet).trans hname
    exact absurd (hnamed.trans hcreated.symm) hne

/-- In every run in which the requests are granted and the families' own names are neither of a
light nor of a dark theme: when nothing is on its way, the one mark is on the theme that the
service has, and a click on any other item asks for a theme of its kind and of the same family. -/
theorem theme_shown (enabled support : Bool) {globalTheme : List Char}
    (hplain : Plain globalTheme) {es : List Event}
    (hes : ∀ e ∈ es, e.Granted ∧ ∀ value again, e = .setTheme value again → Plain value)
    (hq : (run step (create enabled support globalTheme) es).theme.Quiet) :
    let s := run step (create enabled support globalTheme) es
    (∀ t, s.item.applet.state t = .ConnectedOnlyPrompt ↔ t = getThemeType s.theme.value) ∧
      ∀ t fromCopy, t ≠ getThemeType s.theme.value →
        ∃ value, (s.step (.themeClicked t fromCopy)).theme.requests = [value] ∧
          getThemeType value = t ∧ family value = family s.theme.value := by
  intro s
  have hs : s.Chosen := run_invariant_of_mem (I := Chosen)
    (fun e he s hs => hs.step (hes e he).1 (hes e he).2) (chosen_create enabled support hplain)
  have hcopy : s.theme.copy = s.theme.value := hs.follows.copy_eq hq.signals
  have htype : s.item.themeType = getThemeType s.theme.value := hcopy ▸ hs.themeType
  have hname : s.item.applet.themeTypeName = s.item.themeType := by
    by_contra hne
    exact hq.not_coming (hs.coming hne)
  refine ⟨fun t => ?_, fun t fromCopy hother => ?_⟩
  · rw [hs.state, htype]
    unfold marks
    split_ifs with ht
    · exact iff_of_true rfl ht
    · exact iff_of_false nofun ht
  · have hread : s.globalTheme fromCopy = s.theme.value := by
      cases fromCopy with
      | true => exact hcopy
      | false => rfl
    have hkind : getThemeType (newGlobalTheme s.theme.value t) = t :=
      getThemeType_newGlobalTheme hs.plain.value t
    refine ⟨newGlobalTheme s.theme.value t, ?_, hkind, family_newGlobalTheme _ t⟩
    change (s.themeClicked t fromCopy).theme.requests = _
    rcases s.themeClicked_cases t fromCopy with ⟨-, hblocked⟩ | ⟨-, -, heq⟩
    · have hstate : s.item.applet.state t = .NoState := by
        rw [hs.state, htype]
        exact if_neg hother
      exact absurd ((hblocked hstate).symm.trans (hname.trans htype)) hother
    · rw [heq, hread]
      dsimp only
      rw [if_neg fun hsame => hother (hkind.symm.trans (congrArg getThemeType hsame.symm))]
      change s.theme.requests ++ _ = _
      rw [hq.requests, List.nil_append]

theorem theme_shown_dark :
    let s := run step (create false true ('x' :: '.' :: THEME_LIGHT))
      [.themeClicked .dark true, .serveTheme true false, .deliverTheme]
    s.item.applet.state .dark = .ConnectedOnlyPrompt := by
  intro s
  have hshown := @theme_shown false true ('x' :: '.' :: THEME_LIGHT) (by decide)
    [.themeClicked .dark true, .serveTheme true false, .deliverTheme] ?_ ⟨rfl, rfl⟩
  · exact (hshown.1 .dark).mpr (by decide)
  · intro e he
    refine ⟨?_, ?_⟩
    · revert e
      decide
    · rintro value again rfl
      simp at he

/-- Nothing has the theme changed: it is quiet, and a click on the theme that the list took note of
is not made. -/
structure Stuck (s₀ : EyeComfortSystem) (t : ThemeType) (s : EyeComfortSystem) : Prop where
  theme : s.theme = s₀.theme
  state : s.item.applet.state = s₀.item.applet.state
  blocked : s.item.applet.state t = .NoState → s.item.applet.themeTypeName = t

theorem Stuck.step {s₀ : EyeComfortSystem} {t : ThemeType} (hs : Stuck s₀ t s)
    (hq : s₀.theme.Quiet) {e : Event} (hset : ∀ value again, e ≠ .setTheme value again)
    (hclick : ∀ t' fromCopy, e = .themeClicked t' fromCopy →
      t' = t ∨ s₀.item.applet.state t' ≠ .NoState) : Stuck s₀ t (s.step e) := by
  have hsame (htheme : (s.step e).theme = s.theme) (hlist : SameList s (s.step e)) :
      Stuck s₀ t (s.step e) := by
    refine ⟨htheme.trans hs.theme, hlist.state.trans hs.state, ?_⟩
    rw [hlist.state, hlist.themeTypeName]
    exact hs.blocked
  have hquiet : s.theme.Quiet := hs.theme ▸ hq
  rcases s.theme_cases e with ⟨htheme, hlist⟩ | ⟨t', fromCopy, rfl⟩ |
    ⟨granted, again, -, htheme, hlist⟩ | ⟨value, again, rfl, -⟩ | ⟨hsignals, -⟩
  · exact hsame htheme hlist
  · change Stuck s₀ t (s.themeClicked t' fromCopy)
    rcases s.themeClicked_cases t' fromCopy with ⟨heq, -⟩ | ⟨hstate, hname, -⟩
    · rw [heq]
      exact hs
    · rcases hclick t' fromCopy rfl with rfl | hmarked
      · exact absurd (hs.blocked hstate) hname
      · exact absurd (hs.state ▸ hstate) hmarked
  · exact hsame (htheme.trans (hquiet.serve granted again)) hlist
  · exact absurd rfl (hset value again)
  · exact absurd hquiet.signals hsignals

/-- A request for a theme that is refused cannot be made again: when nothing is on its way, a click
on a theme is refused, and afterwards nobody else sets the theme and the user clicks no third
theme, the theme stays as it was, however often the theme is clicked. -/
theorem refused_theme (s : EyeComfortSystem) (hq : s.theme.Quiet) (t : ThemeType)
    (fromCopy again : Bool) {es : List Event}
    (hset : ∀ value again, .setTheme value again ∉ es)
    (hclick : ∀ t' fromCopy, .themeClicked t' fromCopy ∈ es →
      t' = t ∨ s.item.applet.state t' ≠ .NoState) :
    (run step s (.themeClicked t fromCopy :: .serveTheme false again :: es)).theme = s.theme := by
  have hrefused : Stuck s t
      ((s.step (.themeClicked t fromCopy)).step (.serveTheme false again)) := by
    change Stuck s t { s.themeClicked t fromCopy with
      theme := (s.themeClicked t fromCopy).theme.serve false again }
    rcases s.themeClicked_cases t fromCopy with ⟨heq, hblocked⟩ | ⟨-, -, heq⟩
    · rw [heq]
      exact ⟨hq.serve false again, rfl, hblocked⟩
    · rw [heq]
      refine ⟨?_, rfl, fun _ => rfl⟩
      dsimp only
      split_ifs
      · exact hq.serve false again
      · exact hq.serve_ask _ again
  have hstuck : Stuck s t (run step
      ((s.step (.themeClicked t fromCopy)).step (.serveTheme false again)) es) :=
    run_invariant_of_mem (fun e he s' hs' => hs'.step hq
      (fun value again heq => hset value again (heq ▸ he))
      fun t' fromCopy heq => hclick t' fromCopy (heq ▸ he)) hrefused
  exact hstuck.theme

theorem refused_theme_again :
    let s := create false true ('x' :: '.' :: THEME_LIGHT)
    (run step s [.themeClicked .dark true, .serveTheme false false,
      .themeClicked .dark true, .serveTheme true false]).theme.value = s.theme.value := by
  intro s
  have hsame : ∀ t' fromCopy, .themeClicked t' fromCopy ∈
      [Event.themeClicked .dark true, .serveTheme true false] →
      t' = .dark ∨ s.item.applet.state t' ≠ .NoState := by
    intro t' fromCopy he
    simp only [List.mem_cons, Event.themeClicked.injEq, reduceCtorEq, List.not_mem_nil,
      or_false] at he
    exact .inl he.1
  have htheme := @refused_theme s ⟨rfl, rfl⟩ .dark true false
    [.themeClicked .dark true, .serveTheme true false] (by simp) hsame
  exact congrArg Remote.value htheme

end EyeComfortSystem

end DdeTrayLoader.EyeComfort
