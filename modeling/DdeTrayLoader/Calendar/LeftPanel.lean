import DdeTrayLoader.Calendar.SidebarCalendarWidget

/-!
# The left panel

The title, the month, the weekday and the date are labels of their own. `setDate` writes all of
them from the date it displays. When a format changes, only the label in that format is written
anew, and from the current date; and a short date format that the dock shows as before is not
announced, so the label stays in the old one.
-/

namespace DdeTrayLoader.Calendar

open Transition Qt

variable (L : Locale)

/-- What the labels read for a date in these formats; they read nothing for the null date. -/
def DateLabels.describing (weekDayFormat : WeekDayFormat) (shortDateFormat : QString)
    (date : QDate) : DateLabels :=
  if date.isValid then
    { dayofMonth := toString date.day
      titleMonth := "/ " ++ formatedMonth L date.month
      week := formatedWeekDay L date.dayOfWeek weekDayFormat
      leftdate := L.toString date shortDateFormat
      month := formatedMonth L date.month }
  else .blank

/-- There is no weekday 0. -/
theorem formatedWeekDay_zero (format : WeekDayFormat) : formatedWeekDay L 0 format = "" := by
  simp [formatedWeekDay]

namespace DateLabels

variable (weekDayFormat weekDayFormat' : WeekDayFormat) (shortDateFormat shortDateFormat' : QString)
  (date : QDate)

/-- The label of the weekday reads the weekday of the date, or nothing. -/
theorem describing_week :
    (describing L weekDayFormat shortDateFormat date).week =
      formatedWeekDay L date.dayOfWeek weekDayFormat := by
  cases hvalid : date.isValid with
  | true => simp [describing, hvalid]
  | false =>
    rw [QDate.eq_null_of_not_isValid hvalid, QDate.dayOfWeek_null, formatedWeekDay_zero]
    rfl

/-- The label of the date reads the date, or nothing. -/
theorem describing_leftdate :
    (describing L weekDayFormat shortDateFormat date).leftdate =
      L.toString date shortDateFormat := by
  cases hvalid : date.isValid with
  | true => simp [describing, hvalid]
  | false =>
    rw [QDate.eq_null_of_not_isValid hvalid, L.toString_null]
    rfl

/-- Another weekday format is shown once the label of the weekday is in it. -/
theorem week_eq_describing (text : String) :
    { describing L weekDayFormat shortDateFormat date with week := text } =
        describing L weekDayFormat' shortDateFormat date ↔
      text = formatedWeekDay L date.dayOfWeek weekDayFormat' := by
  rw [← describing_week L weekDayFormat' shortDateFormat date]
  unfold describing
  split_ifs <;> simp [blank]

/-- Another short date format is shown once the label of the date is in it. -/
theorem leftdate_eq_describing (text : QString) :
    { describing L weekDayFormat shortDateFormat date with leftdate := text } =
        describing L weekDayFormat shortDateFormat' date ↔
      text = L.toString date shortDateFormat' := by
  rw [← describing_leftdate L weekDayFormat shortDateFormat' date]
  unfold describing
  split_ifs <;> simp [blank]

/-- Another short date format is shown already if the date reads the same in both. -/
theorem describing_eq_describing :
    describing L weekDayFormat shortDateFormat date =
        describing L weekDayFormat shortDateFormat' date ↔
      L.toString date shortDateFormat = L.toString date shortDateFormat' := by
  rw [← leftdate_eq_describing L weekDayFormat shortDateFormat shortDateFormat' date,
    ← describing_leftdate L weekDayFormat shortDateFormat date]

end DateLabels

namespace SidebarCalendarWidget

/-- All labels describe the displayed date, in the configured formats. -/
def Described (s : SidebarCalendarWidget) : Prop :=
  s.labels =
    .describing L s.m_manager.m_weekDayFormat s.m_regionFormat.m_originShortDateFormat
      s.m_displayedMonth

/-- The widget knows the configured weekday format. -/
def Synced (s : SidebarCalendarWidget) : Prop :=
  s.m_weekdayFormat = s.m_manager.m_weekDayFormat

/-- The label of the date fits the displayed date in the new format: where the format is announced,
the current date reads the same, and elsewhere the old format reads the same. -/
def FitsFormat (s : SidebarCalendarWidget) (today : QDate) (position : UInt32)
    (format : QString) : Prop :=
  if s.m_regionFormat.announces L position format then
    L.toString today format = L.toString s.m_displayedMonth format
  else
    L.toString s.m_displayedMonth s.m_regionFormat.m_originShortDateFormat =
      L.toString s.m_displayedMonth format

/-- The event lets a label be read for the displayed date: a new weekday format names the current
weekday as it names the displayed one, and a new short date format fits. -/
def FitsDisplayed (s : SidebarCalendarWidget) : QDate × CalendarEvent → Prop
  | (today, .weekdayFormatChanged value) =>
    s.m_manager.m_weekDayFormat = value ∨
      formatedWeekDay L today.dayOfWeek value =
        formatedWeekDay L s.m_displayedMonth.dayOfWeek value
  | (today, .shortDateFormatChanged value _) => s.FitsFormat L today s.position value
  | (today, .dockPositionChanged position) =>
    s.FitsFormat L today position (s.m_regionFormat.configured L)
  | _ => True

/-! ## Displaying a date -/

/-- The formats stay, and the labels stay with the displayed date or describe the new one. -/
structure Displays (s s' : SidebarCalendarWidget) : Prop where
  weekDayFormat : s'.m_manager.m_weekDayFormat = s.m_manager.m_weekDayFormat
  regionFormat : s'.m_regionFormat = s.m_regionFormat
  weekdayFormat : s'.m_weekdayFormat = s.m_weekdayFormat
  labels : (s'.labels = s.labels ∧ s'.m_displayedMonth = s.m_displayedMonth) ∨
    s'.labels = .describing L s.m_weekdayFormat s.m_regionFormat.m_originShortDateFormat
      s'.m_displayedMonth

variable {L}

theorem Displays.trans {s s' s'' : SidebarCalendarWidget} (h : Displays L s s')
    (h' : Displays L s' s'') : Displays L s s'' := by
  refine ⟨h'.weekDayFormat.trans h.weekDayFormat, h'.regionFormat.trans h.regionFormat,
    h'.weekdayFormat.trans h.weekdayFormat, ?_⟩
  rcases h'.labels with ⟨hlabels, hdate⟩ | hlabels
  · rw [hlabels, hdate]
    exact h.labels
  · rw [hlabels, h.weekdayFormat, h.regionFormat]
    exact .inr rfl

/-- A widget that knows the configured format still knows it. -/
theorem Displays.synced {s s' : SidebarCalendarWidget} (h : Displays L s s') (hs : s.Synced) :
    s'.Synced := by
  unfold Synced
  rw [h.weekdayFormat, h.weekDayFormat]
  exact hs

/-- Displaying a date leaves all labels describing the displayed one. -/
theorem Displays.described {s s' : SidebarCalendarWidget} (h : Displays L s s') (hs : s.Synced)
    (hdescribed : s.Described L) : s'.Described L := by
  unfold Described
  rw [h.weekDayFormat, h.regionFormat]
  rcases h.labels with ⟨hlabels, hdate⟩ | hlabels
  · rw [hlabels, hdate]
    exact hdescribed
  · rw [hlabels, hs]

/-- A date outside the time frame changes nothing. -/
theorem displays_setDate (today : QDate) (s : SidebarCalendarWidget) (date : QDate) :
    Displays L s (setDate L today s date) := by
  unfold setDate
  split_ifs with hframe
  · refine ⟨rfl, rfl, rfl, .inr ?_⟩
    have hvalid : date.isValid = true := by
      unfold withinTimeFrame at hframe
      simp only [Bool.and_eq_true] at hframe
      exact hframe.1
    simp only [DateLabels.describing, hvalid, if_true]
  · exact ⟨rfl, rfl, rfl, .inl ⟨rfl, rfl⟩⟩

theorem Unseen.displays {s s' : SidebarCalendarWidget} (h : Unseen s s') : Displays L s s' :=
  ⟨h.weekDayFormat, h.regionFormat, h.weekdayFormat, .inl ⟨h.labels, h.displayedMonth⟩⟩

theorem displays_rule : DisplayRule L (Displays L) :=
  ⟨Displays.trans, Unseen.displays, displays_setDate⟩

variable (L) (today : QDate) (s : SidebarCalendarWidget)

/-! ## Changing a format -/

/-- The configured format is not changed. -/
theorem weekdayFormatChanged_of_eq {value : WeekDayFormat}
    (hvalue : s.m_manager.m_weekDayFormat = value) : s.weekdayFormatChanged L today value = s := by
  simp only [weekdayFormatChanged, CalendarManager.setWeekDayFormat, if_pos hvalue]

/-- Another format reaches the widget, and its label reads the current weekday in it. -/
theorem weekdayFormatChanged_of_ne (hs : s.Synced) {value : WeekDayFormat}
    (hvalue : s.m_manager.m_weekDayFormat ≠ value) :
    s.weekdayFormatChanged L today value =
      { s with
        m_manager := { s.m_manager with m_weekDayFormat := value }
        m_weekdayFormat := value
        labels := { s.labels with week := formatedWeekDay L today.dayOfWeek value } } := by
  have hnew : s.m_weekdayFormat ≠ value := by rw [hs]; exact hvalue
  simp only [weekdayFormatChanged, CalendarManager.setWeekDayFormat, if_neg hvalue,
    onWeekDayFormatChanged, if_neg hnew]

theorem weekdayFormatChanged_synced (hs : s.Synced) (value : WeekDayFormat) :
    (s.weekdayFormatChanged L today value).Synced := by
  by_cases hvalue : s.m_manager.m_weekDayFormat = value
  · rw [weekdayFormatChanged_of_eq L today s hvalue]
    exact hs
  · rw [weekdayFormatChanged_of_ne L today s hs hvalue]
    rfl

theorem weekdayFormatChanged_described (hs : s.Synced) (hdescribed : s.Described L)
    (value : WeekDayFormat) :
    (s.weekdayFormatChanged L today value).Described L ↔
      s.FitsDisplayed L (today, .weekdayFormatChanged value) := by
  by_cases hvalue : s.m_manager.m_weekDayFormat = value
  · rw [weekdayFormatChanged_of_eq L today s hvalue]
    exact ⟨fun _ => .inl hvalue, fun _ => hdescribed⟩
  · rw [weekdayFormatChanged_of_ne L today s hs hvalue]
    unfold Described FitsDisplayed
    dsimp only
    rw [hdescribed, or_iff_right hvalue]
    exact DateLabels.week_eq_describing ..

/-- Changed formats leave the displayed date alone; they are announced or not. -/
theorem setRegionFormat_described (hdescribed : s.Described L) (format : RegionFormat × Bool) :
    (setRegionFormat L today s format).Described L ↔
      if format.2 then
        L.toString today format.1.m_originShortDateFormat =
          L.toString s.m_displayedMonth format.1.m_originShortDateFormat
      else
        L.toString s.m_displayedMonth s.m_regionFormat.m_originShortDateFormat =
          L.toString s.m_displayedMonth format.1.m_originShortDateFormat := by
  unfold setRegionFormat onShortDateFormatChanged Described
  rw [hdescribed]
  cases format.2 with
  | true => exact DateLabels.leftdate_eq_describing ..
  | false => exact DateLabels.describing_eq_describing ..

theorem setRegionFormat_synced (hs : s.Synced) (format : RegionFormat × Bool) :
    (setRegionFormat L today s format).Synced := by
  unfold setRegionFormat
  split_ifs <;> exact hs

/-! ## Whole runs -/

variable (huangLi : QDate → CaHuangLiDayInfo)

/-- The lunar data has labels of its own. -/
theorem displays_lunarReply (index : ℕ) (reply : HuangLiReply) :
    Displays L s (s.lunarReply L huangLi index reply) := by
  unfold lunarReply
  dsimp only
  split <;> exact ⟨rfl, rfl, rfl, .inl ⟨rfl, rfl⟩⟩

/-- The widget always knows the configured weekday format. -/
theorem step_synced (hs : s.Synced) (e : QDate × CalendarEvent) :
    (s.step L huangLi e).Synced := by
  obtain ⟨today, event⟩ := e
  cases event with
  | weekdayFormatChanged value => exact weekdayFormatChanged_synced L today s hs value
  | shortDateFormatChanged _ _ => exact setRegionFormat_synced L today s hs _
  | dockPositionChanged position =>
    exact setRegionFormat_synced L today { s with position := position } hs _
  | lunarReply index reply => exact (displays_lunarReply L s huangLi index reply).synced hs
  | _ => exact (displays_rule.step s _ (by rfl)).synced hs

/-- One event leaves the labels describing the displayed date exactly if it fits that date. -/
theorem step_described (hs : s.Synced) (hdescribed : s.Described L) (e : QDate × CalendarEvent) :
    (s.step L huangLi e).Described L ↔ s.FitsDisplayed L e := by
  obtain ⟨today, event⟩ := e
  cases event with
  | weekdayFormatChanged value => exact weekdayFormatChanged_described L today s hs hdescribed value
  | shortDateFormatChanged value isDefaultValue =>
    have hset := setRegionFormat_described L today s hdescribed
      (s.m_regionFormat.valueChanged L s.position value isDefaultValue)
    simp only [RegionFormat.valueChanged, RegionFormat.setShortDateFormat_emits,
      RegionFormat.setShortDateFormat_origin, RegionFormat.announces_setConfig] at hset
    exact hset
  | dockPositionChanged position =>
    have hset := setRegionFormat_described L today { s with position := position } hdescribed
      (s.m_regionFormat.onDockPositionChanged L position)
    simp only [RegionFormat.onDockPositionChanged, RegionFormat.setShortDateFormat_emits,
      RegionFormat.setShortDateFormat_origin] at hset
    exact hset
  | lunarReply index reply =>
    have hdisplays := displays_lunarReply L s huangLi index reply
    exact ⟨fun _ => trivial, fun _ => hdisplays.described hs hdescribed⟩
  | _ =>
    refine ⟨fun _ => trivial, fun _ => ?_⟩
    exact (displays_rule.step s _ (by rfl)).described hs hdescribed

variable (position : UInt32) (manager : CalendarManager) (regionFormat : RegionFormat)

/-- In every run all labels describe the displayed date in the configured formats exactly if each
change of a format fits that date. -/
theorem described_iff (events : List (QDate × CalendarEvent)) :
    Always (step L huangLi) (Described L) (create L position manager regionFormat today) events ↔
      Obeys (step L huangLi) (FitsDisplayed L) (create L position manager regionFormat today)
        events := by
  have hsynced : (constructed position manager regionFormat).Synced := rfl
  have hblank : (constructed position manager regionFormat).Described L := rfl
  have hcreate : Displays L _ (create L position manager regionFormat today) :=
    displays_rule.setSelectedDate today (constructed position manager regionFormat) today
  exact always_iff_obeys (fun s e hs => step_synced L s huangLi hs e)
    (fun s e hs hdescribed => step_described L s huangLi hs hdescribed e) events
    (hcreate.synced hsynced) (hcreate.described hsynced hblank)

/-! ## A new weekday format on another page -/

/-- A calendar made on 15 January 2024, a Monday. -/
def onMonday : SidebarCalendarWidget :=
  create plainLocale 2 (.create 0 0) (.create plainLocale 2 ⟨true, [], true⟩) (.ofParts 2024 1 15)

/-- The next page is turned to, and then the short names of the weekdays are configured. -/
def pageThenFormat : List (QDate × CalendarEvent) :=
  [(.ofParts 2024 1 15, .nextPageClicked), (.ofParts 2024 1 15, .weekdayFormatChanged 1)]

/-- The panel shows 15 February, a Thursday, but its weekday is the Monday of the current date. -/
theorem not_described_pageThenFormat :
    ¬Always (step plainLocale fun _ => ⟨"", "", "", "", "", ""⟩) (Described plainLocale) onMonday
      pageThenFormat := by
  intro halways
  have hweek := congrArg DateLabels.week halways.last
  rw [DateLabels.describing_week] at hweek
  revert hweek
  decide +kernel

end SidebarCalendarWidget

end DdeTrayLoader.Calendar
