import DdeTrayLoader.Calendar.SidebarCalendarWidget

/-!
# The month page

The right of the calendar shows a month: its members are the selected and the displayed date, the
first day of the week and the buttons. An event asks the page for a date or sets the first day of
the week, and all that the page does depends on this request alone.
-/

namespace DdeTrayLoader.Calendar

variable (L : Locale)

/-- A service without lunar data. -/
def noHuangLi (_ : QDate) : CaHuangLiDayInfo := ⟨"", "", "", "", "", ""⟩

/-- The members of the calendar behind the month that it shows. -/
structure MonthPage where
  /-- That of `CalendarManager`. -/
  firstDayOfWeek : ℤ
  m_firstday : ℤ
  m_selectedData : QDate
  m_displayedMonth : QDate
  m_keyButtonList : List SidebarCalendarKeyButton
  deriving DecidableEq

/-- What an event asks of the page. -/
inductive PageRequest where
  /-- The button of this date is clicked. -/
  | click (date : QDate)
  /-- The date is selected, which does nothing if it is already. -/
  | select (date : QDate)
  /-- The page of this date is turned to. -/
  | turn (date : QDate)
  /-- The service reports how weeks begin. -/
  | weekBegins (value : ℤ)

/-- The date that is asked for, if one is. -/
def PageRequest.date : PageRequest → Option QDate
  | .click date | .select date | .turn date => some date
  | .weekBegins _ => none

/-- The date that the first button shows. -/
def gridStart (firstday : ℤ) (date : QDate) : QDate :=
  let firstDateInMonth := QDate.ofParts date.year date.month 1
  firstDateInMonth.addDays
    ((-(firstDateInMonth.dayOfWeek - firstday + DAYS_INWEEK)).tmod DAYS_INWEEK)

namespace MonthPage

/-- `setDate`. -/
def display (today : QDate) (p : MonthPage) (date : QDate) : MonthPage :=
  if withinTimeFrame date then
    { p with
      m_displayedMonth := date
      m_keyButtonList := keyButtons today date p.m_selectedData MONTH_METRIC_NUM
        (gridStart p.m_firstday date) }
  else p

/-- The selection is written, and then the date is displayed. -/
def turn (today : QDate) (p : MonthPage) (date : QDate) : MonthPage :=
  display today { p with m_selectedData := date } date

/-- `setSelectedDate`. -/
def select (today : QDate) (p : MonthPage) (date : QDate) : MonthPage :=
  if p.m_selectedData = date then p else p.turn today date

/-- The first day of the week is changed. -/
def setFirstDay (today : QDate) (p : MonthPage) (day : ℤ) : MonthPage :=
  display today { p with firstDayOfWeek := day, m_firstday := day } p.m_selectedData

def handle (today : QDate) (p : MonthPage) : PageRequest → MonthPage
  | .click date => if withinTimeFrame date then p.select today date else p
  | .select date => p.select today date
  | .turn date => p.turn today date
  | .weekBegins value =>
    if p.firstDayOfWeek = value + 1 then p else p.setFirstDay today (value + 1)

variable (today : QDate) (p : MonthPage) (date : QDate)

theorem display_of_withinTimeFrame (hdate : withinTimeFrame date = true) :
    p.display today date =
      { p with
        m_displayedMonth := date
        m_keyButtonList := keyButtons today date p.m_selectedData MONTH_METRIC_NUM
          (gridStart p.m_firstday date) } := if_pos hdate

theorem display_of_not_withinTimeFrame (hdate : ¬withinTimeFrame date = true) :
    p.display today date = p := if_neg hdate

@[simp] theorem display_firstDayOfWeek :
    (p.display today date).firstDayOfWeek = p.firstDayOfWeek := by
  unfold display
  split_ifs <;> rfl

@[simp] theorem display_firstday : (p.display today date).m_firstday = p.m_firstday := by
  unfold display
  split_ifs <;> rfl

@[simp] theorem display_selectedData :
    (p.display today date).m_selectedData = p.m_selectedData := by
  unfold display
  split_ifs <;> rfl

/-- The first day of the week is changed by its request only. -/
theorem handle_firstDay (request : PageRequest) (hrequest : ∀ value, request ≠ .weekBegins value) :
    (p.handle today request).firstDayOfWeek = p.firstDayOfWeek ∧
      (p.handle today request).m_firstday = p.m_firstday := by
  have hselect (date : QDate) : (p.select today date).firstDayOfWeek = p.firstDayOfWeek ∧
      (p.select today date).m_firstday = p.m_firstday := by
    unfold select turn
    split_ifs <;> simp
  cases request with
  | click date =>
    change (if withinTimeFrame date then p.select today date else p).firstDayOfWeek = _ ∧
      (if withinTimeFrame date then p.select today date else p).m_firstday = _
    split_ifs
    · exact hselect date
    · exact ⟨rfl, rfl⟩
  | select date => exact hselect date
  | turn date => simp [handle, turn]
  | weekBegins value => exact absurd rfl (hrequest value)

/-- The date that is written is selected. -/
@[simp] theorem turn_selectedData : (p.turn today date).m_selectedData = date := by
  simp [turn]

@[simp] theorem select_selectedData : (p.select today date).m_selectedData = date := by
  unfold select
  split_ifs with hselected
  · exact hselected
  · exact turn_selectedData today p date

/-- Selecting a date again does nothing. -/
theorem select_select : (p.select today date).select today date = p.select today date := by
  rw [select, if_pos (select_selectedData today p date)]

end MonthPage

namespace SidebarCalendarWidget

/-- The page of the calendar. -/
def page (s : SidebarCalendarWidget) : MonthPage where
  firstDayOfWeek := s.m_manager.m_firstDayOfWeek
  m_firstday := s.m_firstday
  m_selectedData := s.m_selectedData
  m_displayedMonth := s.m_displayedMonth
  m_keyButtonList := s.m_keyButtonList

/-- What an event asks of the page. -/
def request (s : SidebarCalendarWidget) : QDate × CalendarEvent → Option PageRequest
  | (_, .keyButtonClicked date) => some (.click date)
  | (_, .setSelectedDate date) => some (.select date)
  | (_, .nextPageClicked) => some (.turn (s.m_displayedMonth.addMonths 1))
  | (_, .previousPageClicked) => some (.turn (s.m_displayedMonth.addMonths (-1)))
  | (_, .wheel delta) =>
    if TURNPAGE_DELTA ≤ s.m_deltaSum + delta then
      some (.turn (s.m_displayedMonth.addMonths (-1)))
    else if s.m_deltaSum + delta ≤ -TURNPAGE_DELTA then
      some (.turn (s.m_displayedMonth.addMonths 1))
    else none
  | (today, .backToday) => some (.select today)
  | (_, .weekBeginsChanged value) => some (.weekBegins value)
  | _ => none

variable (today : QDate) (s : SidebarCalendarWidget)

theorem page_setDate (date : QDate) :
    (setDate L today s date).page = s.page.display today date := by
  unfold setDate MonthPage.display
  split_ifs <;> rfl

theorem page_setSelectedDate (date : QDate) :
    (s.setSelectedDate L today date).page = s.page.select today date := by
  unfold setSelectedDate
  change _ = if s.m_selectedData = date then s.page else s.page.turn today date
  split_ifs
  · rfl
  · exact page_setDate L today _ date

theorem page_turnPage (nmonths : ℤ) :
    (s.turnPage L today nmonths).page =
      s.page.turn today (s.m_displayedMonth.addMonths nmonths) := by
  unfold turnPage
  rw [page_setDate]
  rfl

theorem page_onKeyButtonClicked (date : QDate) :
    (s.onKeyButtonClicked L today date).page = s.page.handle today (.click date) := by
  unfold onKeyButtonClicked MonthPage.handle
  dsimp only
  split_ifs
  · exact page_setSelectedDate L today s date
  · rw [page_setSelectedDate, page_setSelectedDate, MonthPage.select_select]
  · rfl

theorem page_wheelEvent (delta : ℤ) :
    (s.wheelEvent L today delta).page =
      ((s.request (today, .wheel delta)).map (s.page.handle today)).getD s.page := by
  unfold wheelEvent request
  dsimp only
  split_ifs
  · exact page_turnPage L today _ (-1)
  · exact page_turnPage L today _ 1
  · rfl

theorem page_weekBeginsChanged (value : ℤ) :
    (s.weekBeginsChanged L today value).page = s.page.handle today (.weekBegins value) := by
  unfold weekBeginsChanged CalendarManager.onWeekBeginsChanged CalendarManager.setFirstDayOfWeek
  change _ = if s.m_manager.m_firstDayOfWeek = value + 1 then s.page
    else s.page.setFirstDay today (value + 1)
  split_ifs
  · rfl
  · exact page_setDate L today _ _

variable (huangLi : QDate → CaHuangLiDayInfo)

/-- The page after an event is what it makes of the request. -/
theorem page_step (event : CalendarEvent) :
    (s.step L huangLi (today, event)).page =
      ((s.request (today, event)).map (s.page.handle today)).getD s.page := by
  cases event with
  | keyButtonClicked date => exact page_onKeyButtonClicked L today s date
  | setSelectedDate date => exact page_setSelectedDate L today s date
  | nextPageClicked => exact page_turnPage L today s 1
  | previousPageClicked => exact page_turnPage L today s (-1)
  | wheel delta => exact page_wheelEvent L today s delta
  | backToday => exact page_setSelectedDate L today s today
  | weekBeginsChanged value => exact page_weekBeginsChanged L today s value
  | weekdayFormatChanged value =>
    change (s.weekdayFormatChanged L today value).page = s.page
    unfold weekdayFormatChanged CalendarManager.setWeekDayFormat onWeekDayFormatChanged
    split_ifs
    · rfl
    · dsimp only
      split_ifs <;> rfl
  | shortDateFormatChanged value isDefaultValue =>
    change (s.setRegionFormat L today _).page = s.page
    unfold setRegionFormat
    split_ifs <;> rfl
  | dockPositionChanged position =>
    change (setRegionFormat L today { s with position := position } _).page = s.page
    unfold setRegionFormat
    split_ifs <;> rfl
  | lunarReply index reply =>
    change (s.lunarReply L huangLi index reply).page = s.page
    unfold lunarReply
    dsimp only
    split <;> rfl

/-- What holds of the page and of what it makes of every request holds after every event. -/
theorem page_step_induction {P : MonthPage → Prop} {L : Locale}
    {huangLi : QDate → CaHuangLiDayInfo} (s : SidebarCalendarWidget) (e : QDate × CalendarEvent)
    (hs : P s.page) (hhandle : ∀ request ∈ s.request e, P (s.page.handle e.1 request)) :
    P (s.step L huangLi e).page := by
  obtain ⟨today, event⟩ := e
  rw [page_step]
  cases hrequest : s.request (today, event) with
  | none => exact hs
  | some request => exact hhandle request hrequest

/-- Every date that the event asks for is of the time frame. -/
def AcceptedDates (s : SidebarCalendarWidget) (e : QDate × CalendarEvent) : Prop :=
  ∀ request ∈ s.request e, ∀ date ∈ request.date, withinTimeFrame date = true

end SidebarCalendarWidget

end DdeTrayLoader.Calendar
