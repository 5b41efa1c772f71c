import DdeTrayLoader.Calendar.SidebarCalendarWidget

/-!
# The lunar labels

Every displayed date is asked for, and the answers come in any order. An answer does not say for
which date it is: valid data replaces the texts of the labels, and anything else leaves them. So the
labels show the date of the valid answer that came last.
-/

namespace DdeTrayLoader.Calendar

open Transition

variable (L : Locale) (huangLi : QDate → CaHuangLiDayInfo)

/-- The date of the valid answer that came last, the newest answer being first. -/
def lastValid : List (QDate × HuangLiReply) → Option QDate
  | [] => none
  | (date, .valid) :: _ => some date
  | (_, .error) :: answered => lastValid answered
  | (_, .unparsable) :: answered => lastValid answered

/-- What the labels show after these answers. -/
def lunarShown (answered : List (QDate × HuangLiReply)) : LunarLabels :=
  match lastValid answered with
  | none => .blank
  | some date => lunarTexts L (huangLi date)

/-- The texts of a date are not empty. -/
theorem lunarTexts_ne_blank (info : CaHuangLiDayInfo) : lunarTexts L info ≠ .blank := by
  intro hblank
  have hdetail := congrArg LunarLabels.detail hblank
  simp [lunarTexts, LunarLabels.blank] at hdetail

/-- The labels show nothing or a given date exactly if the last valid answer, if any, reads like
that date. -/
theorem lunarShown_iff (answered : List (QDate × HuangLiReply)) (displayed : QDate) :
    lunarShown L huangLi answered = .blank ∨
        lunarShown L huangLi answered = lunarTexts L (huangLi displayed) ↔
      ∀ date ∈ lastValid answered,
        lunarTexts L (huangLi date) = lunarTexts L (huangLi displayed) := by
  unfold lunarShown
  cases lastValid answered with
  | none => simp
  | some date => simp [lunarTexts_ne_blank]

namespace SidebarCalendarWidget

/-- When no call is outstanding, the labels show the data of the displayed date, or nothing. -/
def LunarFollows (s : SidebarCalendarWidget) : Prop :=
  s.lunarManager.outstanding = [] →
    s.lunarLabels = .blank ∨ s.lunarLabels = lunarTexts L (huangLi s.m_displayedMonth)

/-- The labels show the valid answer that came last. -/
def ShowsLast (s : SidebarCalendarWidget) : Prop :=
  s.lunarLabels = lunarShown L huangLi s.lunarManager.answered

/-- If the last outstanding call is answered, then the valid answer that came last, be it this one
or an earlier one, is for a date that reads like the displayed one. -/
def LastForDisplayed (s : SidebarCalendarWidget) : QDate × CalendarEvent → Prop
  | (_, .lunarReply index reply) =>
    ∀ asked, s.lunarManager.outstanding = [asked] → index = 0 →
      ∀ date ∈ lastValid ((asked, reply) :: s.lunarManager.answered),
        lunarTexts L (huangLi date) = lunarTexts L (huangLi s.m_displayedMonth)
  | _ => True

/-- Nothing is answered, and the displayed date stays or is asked for. -/
structure Asks (s s' : SidebarCalendarWidget) : Prop where
  answered : s'.lunarManager.answered = s.lunarManager.answered
  lunarLabels : s'.lunarLabels = s.lunarLabels
  asked : (s'.lunarManager.outstanding = s.lunarManager.outstanding ∧
      s'.m_displayedMonth = s.m_displayedMonth) ∨
    s'.lunarManager.outstanding.getLast? = some s'.m_displayedMonth

variable {L} {huangLi}

theorem Asks.trans {s s' s'' : SidebarCalendarWidget} (h : Asks s s') (h' : Asks s' s'') :
    Asks s s'' := by
  refine ⟨h'.answered.trans h.answered, h'.lunarLabels.trans h.lunarLabels, ?_⟩
  rcases h'.asked with ⟨houtstanding, hdate⟩ | hasked
  · rw [houtstanding, hdate]
    exact h.asked
  · exact .inr hasked

theorem Asks.showsLast {s s' : SidebarCalendarWidget} (h : Asks s s')
    (hs : s.ShowsLast L huangLi) : s'.ShowsLast L huangLi := by
  unfold ShowsLast
  rw [h.answered, h.lunarLabels]
  exact hs

theorem Asks.lunarFollows {s s' : SidebarCalendarWidget} (h : Asks s s')
    (hs : s.LunarFollows L huangLi) : s'.LunarFollows L huangLi := by
  intro hnone
  rcases h.asked with ⟨houtstanding, hdate⟩ | hasked
  · rw [h.lunarLabels, hdate]
    exact hs (houtstanding.symm.trans hnone)
  · rw [hnone] at hasked
    cases hasked

theorem asks_setDate (today : QDate) (s : SidebarCalendarWidget) (date : QDate) :
    Asks s (setDate L today s date) := by
  unfold setDate
  split_ifs
  · exact ⟨rfl, rfl, .inr List.getLast?_concat⟩
  · exact ⟨rfl, rfl, .inl ⟨rfl, rfl⟩⟩

theorem Unseen.asks {s s' : SidebarCalendarWidget} (h : Unseen s s') : Asks s s' := by
  refine ⟨?_, h.lunarLabels, .inl ⟨?_, h.displayedMonth⟩⟩ <;> rw [h.lunarManager]

theorem asks_rule : DisplayRule L Asks := ⟨Asks.trans, Unseen.asks, asks_setDate⟩

theorem asks_weekdayFormatChanged (today : QDate) (s : SidebarCalendarWidget)
    (value : WeekDayFormat) : Asks s (s.weekdayFormatChanged L today value) := by
  unfold weekdayFormatChanged CalendarManager.setWeekDayFormat onWeekDayFormatChanged
  split_ifs
  · exact ⟨rfl, rfl, .inl ⟨rfl, rfl⟩⟩
  · dsimp only
    split_ifs <;> exact ⟨rfl, rfl, .inl ⟨rfl, rfl⟩⟩

theorem asks_setRegionFormat (today : QDate) (s : SidebarCalendarWidget)
    (format : RegionFormat × Bool) : Asks s (s.setRegionFormat L today format) := by
  unfold setRegionFormat
  split_ifs <;> exact ⟨rfl, rfl, .inl ⟨rfl, rfl⟩⟩

/-- Only an answer of the service answers a call. -/
theorem asks_step (s : SidebarCalendarWidget) (today : QDate) {event : CalendarEvent}
    (hevent : ∀ index reply, event ≠ .lunarReply index reply) :
    Asks s (s.step L huangLi (today, event)) := by
  cases event with
  | weekdayFormatChanged value => exact asks_weekdayFormatChanged today s value
  | shortDateFormatChanged value isDefaultValue => exact asks_setRegionFormat today s _
  | dockPositionChanged position =>
    have hposition : Asks s { s with position := position } := ⟨rfl, rfl, .inl ⟨rfl, rfl⟩⟩
    exact hposition.trans (asks_setRegionFormat today _ _)
  | lunarReply index reply => exact absurd rfl (hevent index reply)
  | _ => exact asks_rule.step s (today, _) (by rfl)

/-! ## Answers -/

/-- Removing the element at an index leaves nothing exactly if it is the only one. -/
theorem eraseIdx_eq_nil {α : Type*} {l : List α} {i : ℕ} {a : α} (h : l[i]? = some a) :
    l.eraseIdx i = [] ↔ l = [a] ∧ i = 0 := by
  constructor
  · intro hnil
    rcases List.eraseIdx_eq_nil_iff.mp hnil with hl | ⟨hlength, hi⟩
    · simp [hl] at h
    · obtain ⟨b, hl⟩ := List.length_eq_one_iff.mp hlength
      rw [hl, hi] at h
      rw [hl, show b = a by simpa using h]
      exact ⟨rfl, hi⟩
  · rintro ⟨hl, hi⟩
    rw [hl, hi]
    rfl

/-- There is no such call. -/
theorem lunarReply_of_none {s : SidebarCalendarWidget} {index : ℕ} {reply : HuangLiReply}
    (hindex : s.lunarManager.outstanding[index]? = none) :
    s.lunarReply L huangLi index reply = s := by
  simp only [lunarReply, LunarManager.finished, hindex]

/-- One call is answered. -/
theorem lunarReply_of_some {s : SidebarCalendarWidget} {index : ℕ} {reply : HuangLiReply}
    {asked : QDate} (hindex : s.lunarManager.outstanding[index]? = some asked)
    (hs : s.ShowsLast L huangLi) :
    s.lunarReply L huangLi index reply =
      { s with
        lunarManager :=
          { outstanding := s.lunarManager.outstanding.eraseIdx index
            answered := (asked, reply) :: s.lunarManager.answered }
        lunarLabels := lunarShown L huangLi ((asked, reply) :: s.lunarManager.answered) } := by
  cases reply with
  | valid => simp only [lunarReply, LunarManager.finished, hindex, lunarShown, lastValid]
  | error | unparsable =>
    simp only [lunarReply, LunarManager.finished, hindex]
    rw [show s.lunarLabels = _ from hs]
    rfl

/-- The labels show the valid answer that came last, after every event. -/
theorem step_showsLast (s : SidebarCalendarWidget) (e : QDate × CalendarEvent)
    (hs : s.ShowsLast L huangLi) : (s.step L huangLi e).ShowsLast L huangLi := by
  obtain ⟨today, event⟩ := e
  cases event with
  | lunarReply index reply =>
    change (s.lunarReply L huangLi index reply).ShowsLast L huangLi
    cases hindex : s.lunarManager.outstanding[index]? with
    | none =>
      rw [lunarReply_of_none hindex]
      exact hs
    | some asked =>
      rw [lunarReply_of_some hindex hs]
      rfl
  | _ => exact (asks_step s today (by simp)).showsLast hs

/-- When an answer comes, the labels follow exactly if the last outstanding answer allows it. -/
theorem lunarReply_lunarFollows {s : SidebarCalendarWidget} (hs : s.ShowsLast L huangLi)
    (hfollows : s.LunarFollows L huangLi) (today : QDate) (index : ℕ) (reply : HuangLiReply) :
    (s.lunarReply L huangLi index reply).LunarFollows L huangLi ↔
      s.LastForDisplayed L huangLi (today, .lunarReply index reply) := by
  cases hindex : s.lunarManager.outstanding[index]? with
  | none =>
    rw [lunarReply_of_none hindex]
    refine ⟨fun _ asked hasked hzero => ?_, fun _ => hfollows⟩
    simp [hasked, hzero] at hindex
  | some asked =>
    rw [lunarReply_of_some hindex hs]
    unfold LunarFollows LastForDisplayed
    dsimp only
    rw [lunarShown_iff, eraseIdx_eq_nil hindex]
    constructor
    · intro h asked' hasked' hzero
      have heq : asked' = asked := by
        rw [hasked', hzero] at hindex
        simpa using hindex
      rw [heq] at hasked' ⊢
      exact h ⟨hasked', hzero⟩
    · intro h hone
      exact h asked hone.1 hone.2

/-- One event keeps the labels following exactly if the last answer is for the displayed date. -/
theorem step_lunarFollows (s : SidebarCalendarWidget) (e : QDate × CalendarEvent)
    (hs : s.ShowsLast L huangLi) (hfollows : s.LunarFollows L huangLi) :
    (s.step L huangLi e).LunarFollows L huangLi ↔ s.LastForDisplayed L huangLi e := by
  obtain ⟨today, event⟩ := e
  cases event with
  | lunarReply index reply => exact lunarReply_lunarFollows hs hfollows today index reply
  | _ =>
    refine ⟨fun _ => trivial, fun _ => ?_⟩
    exact (asks_step s today (by simp)).lunarFollows hfollows

/-! ## Whole runs -/

variable (L) (huangLi)

/-- In every run the lunar labels show the displayed date, or nothing, whenever no call is
outstanding, exactly if at each such time the last valid answer is for a date that reads like the
displayed one. -/
theorem lunarFollows_iff (position : UInt32) (manager : CalendarManager)
    (regionFormat : RegionFormat) (today : QDate) (events : List (QDate × CalendarEvent)) :
    Always (step L huangLi) (LunarFollows L huangLi) (create L position manager regionFormat today)
        events ↔
      Obeys (step L huangLi) (LastForDisplayed L huangLi)
        (create L position manager regionFormat today) events := by
  have hshows : (constructed position manager regionFormat).ShowsLast L huangLi := rfl
  have hfollows : (constructed position manager regionFormat).LunarFollows L huangLi :=
    fun _ => .inl rfl
  have hcreate : Asks _ (create L position manager regionFormat today) :=
    asks_rule.setSelectedDate today (constructed position manager regionFormat) today
  exact always_iff_obeys (fun s e hs => step_showsLast s e hs)
    (fun s e hs hfollows => step_lunarFollows s e hs hfollows) events
    (hcreate.showsLast hshows) (hcreate.lunarFollows hfollows)

/-! ## Two answers in the other order -/

/-- The data of 15 January and of 15 February 2024. -/
def huangLi2024 (date : QDate) : CaHuangLiDayInfo :=
  if date = .ofParts 2024 1 15 then ⟨"癸卯", "乙丑", "戊寅", "腊月", "初五", "兔"⟩
  else if date = .ofParts 2024 2 15 then ⟨"甲辰", "丙寅", "己酉", "正月", "初六", "龙"⟩
  else ⟨"", "", "", "", "", ""⟩

/-- The next page is turned to, and its date is answered before the current one. -/
def laterAnswerFirst : List (QDate × CalendarEvent) :=
  [(.ofParts 2024 1 15, .nextPageClicked), (.ofParts 2024 1 15, .lunarReply 1 .valid),
    (.ofParts 2024 1 15, .lunarReply 0 .valid)]

/-- Both calls are answered with valid data, and 15 February is displayed, but the labels show
15 January. -/
theorem not_lunarFollows_laterAnswerFirst :
    ¬Always (step plainLocale huangLi2024) (LunarFollows plainLocale huangLi2024)
      (create plainLocale 2 (.create 0 0) (.create plainLocale 2 ⟨true, [], true⟩)
        (.ofParts 2024 1 15)) laterAnswerFirst := by
  intro halways
  have hfollows := halways.last (by decide +kernel)
  revert hfollows
  decide +kernel

/-! ## Answers in the order of the calls -/

/-- The answers are valid, and each is that of the oldest call. -/
def InOrder : QDate × CalendarEvent → Prop
  | (_, .lunarReply index reply) => index = 0 ∧ reply = .valid
  | _ => True

/-- The call made last, if it is outstanding, is for the displayed date. -/
def NewestDisplayed (s : SidebarCalendarWidget) : Prop :=
  ∀ date ∈ s.lunarManager.outstanding.getLast?, date = s.m_displayedMonth

theorem Asks.newestDisplayed {s s' : SidebarCalendarWidget} (h : Asks s s')
    (hs : s.NewestDisplayed) : s'.NewestDisplayed := by
  intro date hdate
  rcases h.asked with ⟨houtstanding, hdisplayed⟩ | hasked
  · rw [houtstanding] at hdate
    rw [hdisplayed]
    exact hs date hdate
  · rw [hasked] at hdate
    exact (Option.mem_some_iff.mp hdate).symm

variable {L} {huangLi}

/-- The oldest call is answered, and the newest stays unless it is the same. -/
theorem step_newestDisplayed (s : SidebarCalendarWidget) (e : QDate × CalendarEvent)
    (hshows : s.ShowsLast L huangLi) (hs : s.NewestDisplayed) (he : InOrder e) :
    (s.step L huangLi e).NewestDisplayed := by
  obtain ⟨today, event⟩ := e
  cases event with
  | lunarReply index reply =>
    obtain ⟨rfl, rfl⟩ := he
    change (s.lunarReply L huangLi 0 .valid).NewestDisplayed
    cases hindex : s.lunarManager.outstanding[0]? with
    | none =>
      rw [lunarReply_of_none hindex]
      exact hs
    | some asked =>
      rw [lunarReply_of_some hindex hshows]
      intro date hdate
      obtain ⟨rest, hrest⟩ := List.head?_eq_some_iff.mp (List.head?_eq_getElem?.trans hindex)
      dsimp only at hdate
      rw [hrest, List.eraseIdx_cons_zero] at hdate
      apply hs date
      rw [hrest, List.getLast?_cons, Option.mem_def.mp hdate]
      rfl
  | _ => exact (asks_step s today (by simp)).newestDisplayed hs

/-- Such an answer, if it is the last one, is for the displayed date. -/
theorem lastForDisplayed_of_inOrder (s : SidebarCalendarWidget) (e : QDate × CalendarEvent)
    (hs : s.NewestDisplayed) (he : InOrder e) : s.LastForDisplayed L huangLi e := by
  obtain ⟨today, event⟩ := e
  cases event with
  | lunarReply index reply =>
    obtain ⟨rfl, rfl⟩ := he
    intro asked hasked _ date hdate
    have hdisplayed : asked = s.m_displayedMonth := hs asked (by rw [hasked]; rfl)
    rw [← Option.some.inj hdate, hdisplayed]
  | _ => trivial

/-- The lunar labels follow throughout every run in which the answers are valid and come in the
order of the calls. -/
theorem lunarFollows_of_inOrder {position : UInt32} {manager : CalendarManager}
    {regionFormat : RegionFormat} {today : QDate} {events : List (QDate × CalendarEvent)}
    (hevents : ∀ e ∈ events, InOrder e) :
    Always (step L huangLi) (LunarFollows L huangLi) (create L position manager regionFormat today)
      events := by
  have hobeys : Obeys (step L huangLi) (fun _ e => InOrder e)
      (create L position manager regionFormat today) events :=
    obeys_of_mem fun e he _ => hevents e he
  have hcreate : Asks _ (create L position manager regionFormat today) :=
    asks_rule.setSelectedDate today (constructed position manager regionFormat) today
  have hshows : (create L position manager regionFormat today).ShowsLast L huangLi :=
    hcreate.showsLast rfl
  have hnewest : (create L position manager regionFormat today).NewestDisplayed :=
    hcreate.newestDisplayed fun _ hdate => by cases hdate
  have hfollows : (create L position manager regionFormat today).LunarFollows L huangLi :=
    hcreate.lunarFollows fun _ => .inl rfl
  refine always_of_obeys (I := fun s : SidebarCalendarWidget =>
    s.ShowsLast L huangLi ∧ s.NewestDisplayed ∧ s.LunarFollows L huangLi) (fun s e h he => ?_)
    (fun _ h => h.2.2) ⟨hshows, hnewest, hfollows⟩ hobeys
  obtain ⟨hs, hdisplayed, hlabels⟩ := h
  exact ⟨step_showsLast s e hs, step_newestDisplayed s e hs hdisplayed he,
    (step_lunarFollows s e hs hlabels).mpr (lastForDisplayed_of_inOrder s e hdisplayed he)⟩

end SidebarCalendarWidget

end DdeTrayLoader.Calendar
