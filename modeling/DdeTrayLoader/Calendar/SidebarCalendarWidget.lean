import DdeTrayLoader.Calendar.RegionFormat
import DdeTrayLoader.Transition.Run

/-!
# The calendar

`SidebarCalendarWidget` displays one date: a panel of labels on its left, and the month of the date
on its right. The first day of the week and the format of the weekdays come from `CalendarManager`,
the format of the date from `RegionFormat`, and the lunar data from a service that answers later.

Every event comes with the current date.
-/

namespace DdeTrayLoader.Calendar

open Transition Qt

/-! ## The formats of the time and date service -/

/-- `CalendarManager::WeekDayFormat`; the service may report any number. -/
abbrev WeekDayFormat := ℤ

/-- `WeekDayFormat_1`, the long names. -/
def WeekDayFormat_1 : WeekDayFormat := 0

/-- `Qt::Sunday`. -/
def Sunday : ℤ := 7

/-- The members of `CalendarManager` that the calendar reads. -/
structure CalendarManager where
  m_firstDayOfWeek : ℤ
  m_weekDayFormat : WeekDayFormat
  deriving DecidableEq, Repr

namespace CalendarManager

/-- The second component is the value of `sidebarFirstDayChanged`, if it is emitted. -/
def setFirstDayOfWeek (s : CalendarManager) (day : ℤ) : CalendarManager × Option ℤ :=
  if s.m_firstDayOfWeek = day then (s, none)
  else ({ s with m_firstDayOfWeek := day }, some day)

/-- The service counts from Monday as 0. -/
def onWeekBeginsChanged (s : CalendarManager) (value : ℤ) : CalendarManager × Option ℤ :=
  s.setFirstDayOfWeek (value + 1)

/-- The second component is the value of `weekDayFormatChanged`, if it is emitted. -/
def setWeekDayFormat (s : CalendarManager) (format : WeekDayFormat) :
    CalendarManager × Option WeekDayFormat :=
  if s.m_weekDayFormat = format then (s, none)
  else ({ s with m_weekDayFormat := format }, some format)

/-- The constructor, with what the service reports. -/
def create (weekdayFormat weekBegins : ℤ) : CalendarManager :=
  let s : CalendarManager := ⟨Sunday, WeekDayFormat_1⟩
  ((s.setWeekDayFormat weekdayFormat).1.onWeekBeginsChanged weekBegins).1

end CalendarManager

/-! ## The lunar data -/

/-- The fields of `CaHuangLiDayInfo` that the calendar shows. -/
structure CaHuangLiDayInfo where
  mGanZhiYear : String
  mGanZhiMonth : String
  mGanZhiDay : String
  mLunarMonthName : String
  mLunarDayName : String
  mZodiac : String
  deriving DecidableEq, Repr

/-- How `getHuangLiDay` is answered. -/
inductive HuangLiReply where
  | error
  /-- The text of the reply is no JSON. -/
  | unparsable
  /-- The data of the date asked for. -/
  | valid
  deriving DecidableEq, Repr

/-- The calls of `getHuangLiDay` that are not answered yet, oldest first, and those that are,
newest first. -/
structure LunarManager where
  outstanding : List QDate
  answered : List (QDate × HuangLiReply)
  deriving DecidableEq, Repr

namespace LunarManager

def asyncRequestLunar (s : LunarManager) (date : QDate) : LunarManager :=
  { s with outstanding := s.outstanding ++ [date] }

/-- One call is answered; the second component is the data of `lunarInfoReady`, if emitted. -/
def finished (huangLi : QDate → CaHuangLiDayInfo) (s : LunarManager) (index : ℕ)
    (reply : HuangLiReply) : LunarManager × Option CaHuangLiDayInfo :=
  match s.outstanding[index]? with
  | none => (s, none)
  | some date =>
    ({ outstanding := s.outstanding.eraseIdx index
       answered := (date, reply) :: s.answered },
      match reply with
      | .valid => some (huangLi date)
      | .error | .unparsable => none)

end LunarManager

/-! ## The widget -/

/-- A `SidebarCalendarKeyButton`. -/
structure SidebarCalendarKeyButton where
  m_date : QDate
  m_isToday : Bool
  m_isThisMonth : Bool
  m_isSelected : Bool
  deriving DecidableEq, Repr

/-- The texts of the labels that show the displayed date. -/
structure DateLabels where
  /-- `m_dayofMonthLabel` of the title. -/
  dayofMonth : String
  /-- `m_monthLabel` of the title. -/
  titleMonth : String
  /-- `m_weekLabel`. -/
  week : String
  /-- `m_leftdateLabel`. -/
  leftdate : QString
  /-- `m_dateLabel`. -/
  month : String
  deriving DecidableEq, Repr

/-- Labels without a text. -/
def DateLabels.blank : DateLabels := ⟨"", "", "", [], ""⟩

/-- The texts of `m_lunarLabel` and `m_lunarDetailLabel`. -/
structure LunarLabels where
  lunar : String
  detail : String
  deriving DecidableEq, Repr

/-- Labels without a text. -/
def LunarLabels.blank : LunarLabels := ⟨"", ""⟩

/-- The members of `SidebarCalendarWidget`, with the objects it reads and the position of the
dock. -/
structure SidebarCalendarWidget where
  position : UInt32
  m_manager : CalendarManager
  m_regionFormat : RegionFormat
  lunarManager : LunarManager
  m_firstday : ℤ
  m_weekdayFormat : WeekDayFormat
  m_selectedData : QDate
  m_displayedMonth : QDate
  m_deltaSum : ℤ
  bakTodayVisible : Bool
  labels : DateLabels
  lunarLabels : LunarLabels
  m_keyButtonList : List SidebarCalendarKeyButton
  deriving DecidableEq, Repr

/-- What happens to the calendar. -/
inductive CalendarEvent where
  | keyButtonClicked (date : QDate)
  | setSelectedDate (date : QDate)
  | nextPageClicked
  | previousPageClicked
  | wheel (delta : ℤ)
  /-- The button is clicked, the calendar is shown, or it is midnight. -/
  | backToday
  | weekBeginsChanged (value : ℤ)
  | weekdayFormatChanged (value : WeekDayFormat)
  /-- The entry of the configuration is changed. -/
  | shortDateFormatChanged (value : QString) (isDefaultValue : Bool)
  | dockPositionChanged (position : UInt32)
  /-- One of the outstanding calls of `getHuangLiDay` is answered. -/
  | lunarReply (index : ℕ) (reply : HuangLiReply)

/-- The event only turns to dates: it changes no format and brings no lunar data. -/
def CalendarEvent.turnsToDates : CalendarEvent → Bool
  | .weekdayFormatChanged _ | .shortDateFormatChanged _ _ | .dockPositionChanged _
  | .lunarReply _ _ => false
  | _ => true

/-- `DAYS_INWEEK`. -/
def DAYS_INWEEK : ℤ := 7

/-- `MONTH_METRIC_NUM`. -/
def MONTH_METRIC_NUM : ℕ := 42

/-- `TURNPAGE_DELTA`. -/
def TURNPAGE_DELTA : ℤ := 120

variable (L : Locale)

def formatedWeekDay (weekDay : ℤ) (format : WeekDayFormat) : String :=
  let format := if L.english then WeekDayFormat_1 else format
  if format = WeekDayFormat_1 then
    if weekDay = 1 then L.tr "Monday"
    else if weekDay = 2 then L.tr "Tuesday"
    else if weekDay = 3 then L.tr "Wednesday"
    else if weekDay = 4 then L.tr "Thursday"
    else if weekDay = 5 then L.tr "Friday"
    else if weekDay = 6 then L.tr "Saturday"
    else if weekDay = 7 then L.tr "Sunday"
    else ""
  else
    if weekDay = 1 then L.tr "monday"
    else if weekDay = 2 then L.tr "tuesday"
    else if weekDay = 3 then L.tr "wednesday"
    else if weekDay = 4 then L.tr "thursday"
    else if weekDay = 5 then L.tr "friday"
    else if weekDay = 6 then L.tr "saturday"
    else if weekDay = 7 then L.tr "sunday"
    else ""

def formatedMonth (month : ℤ) : String :=
  if month = 1 then L.tr "Jan"
  else if month = 2 then L.tr "Feb"
  else if month = 3 then L.tr "Mar"
  else if month = 4 then L.tr "Apr"
  else if month = 5 then L.tr "May"
  else if month = 6 then L.tr "Jun"
  else if month = 7 then L.tr "Jul"
  else if month = 8 then L.tr "Aug"
  else if month = 9 then L.tr "Sept"
  else if month = 10 then L.tr "Oct"
  else if month = 11 then L.tr "Nov"
  else if month = 12 then L.tr "Dec"
  else ""

/-- What the handler of `lunarInfoReady` writes. -/
def lunarTexts (info : CaHuangLiDayInfo) : LunarLabels where
  lunar := L.tr "Lunar" ++ info.mLunarMonthName ++ info.mLunarDayName
  detail := info.mGanZhiYear ++ L.tr "y" ++ "【" ++ info.mZodiac ++ L.tr "y" ++ "】" ++
    info.mGanZhiMonth ++ L.tr "m" ++ " " ++ info.mGanZhiDay ++ L.tr "d"

/-- The loop over the buttons, from the one that shows `dateInMonth`. -/
def keyButtons (today displayed selected : QDate) : ℕ → QDate → List SidebarCalendarKeyButton
  | 0, _ => []
  | n + 1, dateInMonth =>
    { m_date := dateInMonth
      m_isToday := dateInMonth = today
      m_isThisMonth := dateInMonth.month = displayed.month
      m_isSelected := dateInMonth = selected } ::
      keyButtons today displayed selected n (dateInMonth.addDays 1)

namespace SidebarCalendarWidget

def setDate (today : QDate) (s : SidebarCalendarWidget) (date : QDate) : SidebarCalendarWidget :=
  if withinTimeFrame date then
    let firstDateInMonth := QDate.ofParts date.year date.month 1
    let day := firstDateInMonth.dayOfWeek
    -- The minus sign binds before the remainder, which is rounded towards zero.
    let dateInMonth :=
      firstDateInMonth.addDays ((-(day - s.m_firstday + DAYS_INWEEK)).tmod DAYS_INWEEK)
    { s with
      bakTodayVisible := date.month ≠ today.month ∨ date.year ≠ today.year
      labels :=
        { dayofMonth := toString date.day
          titleMonth := "/ " ++ formatedMonth L date.month
          week := formatedWeekDay L date.dayOfWeek s.m_weekdayFormat
          leftdate := L.toString date s.m_regionFormat.m_originShortDateFormat
          month := formatedMonth L date.month }
      lunarManager := s.lunarManager.asyncRequestLunar date
      m_displayedMonth := date
      m_keyButtonList := keyButtons today date s.m_selectedData MONTH_METRIC_NUM dateInMonth }
  else s

def setSelectedDate (today : QDate) (s : SidebarCalendarWidget) (date : QDate) :
    SidebarCalendarWidget :=
  if s.m_selectedData = date then s
  else setDate L today { s with m_selectedData := date } date

def onKeyButtonClicked (today : QDate) (s : SidebarCalendarWidget) (date : QDate) :
    SidebarCalendarWidget :=
  if withinTimeFrame date then
    let s := s.setSelectedDate L today date
    if date.year = s.m_displayedMonth.year ∧ date.month = s.m_displayedMonth.month then s
    else s.setSelectedDate L today date
  else s

/-- The selection is written before the date is checked. -/
def turnPage (today : QDate) (s : SidebarCalendarWidget) (nmonths : ℤ) : SidebarCalendarWidget :=
  let date := s.m_displayedMonth.addMonths nmonths
  setDate L today { s with m_selectedData := date } date

def onNextPageClicked (today : QDate) (s : SidebarCalendarWidget) : SidebarCalendarWidget :=
  s.turnPage L today 1

def onPreviousPageClicked (today : QDate) (s : SidebarCalendarWidget) : SidebarCalendarWidget :=
  s.turnPage L today (-1)

def wheelEvent (today : QDate) (s : SidebarCalendarWidget) (delta : ℤ) : SidebarCalendarWidget :=
  let s := { s with m_deltaSum := s.m_deltaSum + delta }
  if TURNPAGE_DELTA ≤ s.m_deltaSum then { s.onPreviousPageClicked L today with m_deltaSum := 0 }
  else if s.m_deltaSum ≤ -TURNPAGE_DELTA then
    { s.onNextPageClicked L today with m_deltaSum := 0 }
  else s

def onFirstDayChanged (today : QDate) (s : SidebarCalendarWidget) (value : ℤ) :
    SidebarCalendarWidget :=
  setDate L today { s with m_firstday := value } s.m_selectedData

def onWeekDayFormatChanged (today : QDate) (s : SidebarCalendarWidget) (format : WeekDayFormat) :
    SidebarCalendarWidget :=
  if s.m_weekdayFormat = format then s
  else
    { s with
      m_weekdayFormat := format
      labels := { s.labels with week := formatedWeekDay L today.dayOfWeek format } }

def onShortDateFormatChanged (today : QDate) (s : SidebarCalendarWidget) : SidebarCalendarWidget :=
  { s with
    labels :=
      { s.labels with
        leftdate := L.toString today s.m_regionFormat.m_originShortDateFormat } }

/-- The formats are changed, and the change may be announced. -/
def setRegionFormat (today : QDate) (s : SidebarCalendarWidget) (format : RegionFormat × Bool) :
    SidebarCalendarWidget :=
  let s := { s with m_regionFormat := format.1 }
  if format.2 then s.onShortDateFormatChanged L today else s

/-- `WeekBeginsChanged` of the service. -/
def weekBeginsChanged (today : QDate) (s : SidebarCalendarWidget) (value : ℤ) :
    SidebarCalendarWidget :=
  let s' := { s with m_manager := (s.m_manager.onWeekBeginsChanged value).1 }
  match (s.m_manager.onWeekBeginsChanged value).2 with
  | none => s'
  | some day => s'.onFirstDayChanged L today day

/-- `WeekdayFormatChanged` of the service. -/
def weekdayFormatChanged (today : QDate) (s : SidebarCalendarWidget) (value : WeekDayFormat) :
    SidebarCalendarWidget :=
  let s' := { s with m_manager := (s.m_manager.setWeekDayFormat value).1 }
  match (s.m_manager.setWeekDayFormat value).2 with
  | none => s'
  | some format => s'.onWeekDayFormatChanged L today format

/-- The position is a property of the application, written before the plugin is told. -/
def dockPositionChanged (today : QDate) (s : SidebarCalendarWidget) (position : UInt32) :
    SidebarCalendarWidget :=
  setRegionFormat L today { s with position := position }
    (s.m_regionFormat.onDockPositionChanged L position)

variable (huangLi : QDate → CaHuangLiDayInfo)

/-- A call is answered, and `lunarInfoReady` may be emitted. -/
def lunarReply (s : SidebarCalendarWidget) (index : ℕ) (reply : HuangLiReply) :
    SidebarCalendarWidget :=
  let s' := { s with lunarManager := (s.lunarManager.finished huangLi index reply).1 }
  match (s.lunarManager.finished huangLi index reply).2 with
  | none => s'
  | some info => { s' with lunarLabels := lunarTexts L info }

/-- Handle one event on the current date. -/
def step (s : SidebarCalendarWidget) : QDate × CalendarEvent → SidebarCalendarWidget
  | (today, .keyButtonClicked date) => s.onKeyButtonClicked L today date
  | (today, .setSelectedDate date) => s.setSelectedDate L today date
  | (today, .nextPageClicked) => s.onNextPageClicked L today
  | (today, .previousPageClicked) => s.onPreviousPageClicked L today
  | (today, .wheel delta) => s.wheelEvent L today delta
  | (today, .backToday) => s.setSelectedDate L today today
  | (today, .weekBeginsChanged value) => s.weekBeginsChanged L today value
  | (today, .weekdayFormatChanged value) => s.weekdayFormatChanged L today value
  | (today, .shortDateFormatChanged value isDefaultValue) =>
    s.setRegionFormat L today (s.m_regionFormat.valueChanged L s.position value isDefaultValue)
  | (today, .dockPositionChanged position) => s.dockPositionChanged L today position
  | (_, .lunarReply index reply) => s.lunarReply L huangLi index reply

/-- The widget before it has displayed a date. -/
def constructed (position : UInt32) (manager : CalendarManager) (regionFormat : RegionFormat) :
    SidebarCalendarWidget where
  position := position
  m_manager := manager
  m_regionFormat := regionFormat
  lunarManager := ⟨[], []⟩
  m_firstday := manager.m_firstDayOfWeek
  m_weekdayFormat := manager.m_weekDayFormat
  m_selectedData := .null
  m_displayedMonth := .null
  m_deltaSum := 0
  bakTodayVisible := true
  labels := .blank
  lunarLabels := .blank
  m_keyButtonList := List.replicate MONTH_METRIC_NUM ⟨.null, false, false, false⟩

/-- The constructor, with `initData`. -/
def create (position : UInt32) (manager : CalendarManager) (regionFormat : RegionFormat)
    (today : QDate) : SidebarCalendarWidget :=
  (constructed position manager regionFormat).setSelectedDate L today today

/-! ## What a handler is made of -/

/-- The members behind the labels stay. -/
structure Unseen (s s' : SidebarCalendarWidget) : Prop where
  weekDayFormat : s'.m_manager.m_weekDayFormat = s.m_manager.m_weekDayFormat
  regionFormat : s'.m_regionFormat = s.m_regionFormat
  lunarManager : s'.lunarManager = s.lunarManager
  weekdayFormat : s'.m_weekdayFormat = s.m_weekdayFormat
  displayedMonth : s'.m_displayedMonth = s.m_displayedMonth
  labels : s'.labels = s.labels
  lunarLabels : s'.lunarLabels = s.lunarLabels

/-- A transitive relation that holds across unseen changes and across displaying a date. -/
structure DisplayRule (R : SidebarCalendarWidget → SidebarCalendarWidget → Prop) : Prop where
  trans : ∀ {s s' s''}, R s s' → R s' s'' → R s s''
  unseen : ∀ {s s'}, Unseen s s' → R s s'
  setDate : ∀ today s date, R s (setDate L today s date)

namespace DisplayRule

variable {L} {huangLi} {R : SidebarCalendarWidget → SidebarCalendarWidget → Prop}
  (hR : DisplayRule L R) (today : QDate) (s : SidebarCalendarWidget)

include hR

theorem setSelectedDate (date : QDate) : R s (s.setSelectedDate L today date) := by
  unfold SidebarCalendarWidget.setSelectedDate
  split_ifs
  · exact hR.unseen ⟨rfl, rfl, rfl, rfl, rfl, rfl, rfl⟩
  · have hselect : R s { s with m_selectedData := date } :=
      hR.unseen ⟨rfl, rfl, rfl, rfl, rfl, rfl, rfl⟩
    exact hR.trans hselect (hR.setDate today _ date)

theorem turnPage (nmonths : ℤ) : R s (s.turnPage L today nmonths) := by
  have hselect : R s { s with m_selectedData := s.m_displayedMonth.addMonths nmonths } :=
    hR.unseen ⟨rfl, rfl, rfl, rfl, rfl, rfl, rfl⟩
  exact hR.trans hselect (hR.setDate today _ _)

theorem wheelEvent (delta : ℤ) : R s (s.wheelEvent L today delta) := by
  have hdelta (s : SidebarCalendarWidget) (deltaSum : ℤ) : R s { s with m_deltaSum := deltaSum } :=
    hR.unseen ⟨rfl, rfl, rfl, rfl, rfl, rfl, rfl⟩
  have hpage := hR.turnPage today
  unfold SidebarCalendarWidget.wheelEvent
  dsimp only
  split_ifs
  · exact hR.trans (hR.trans (hdelta s _) (hpage _ (-1))) (hdelta _ 0)
  · exact hR.trans (hR.trans (hdelta s _) (hpage _ 1)) (hdelta _ 0)
  · exact hdelta s _

theorem onKeyButtonClicked (date : QDate) : R s (s.onKeyButtonClicked L today date) := by
  have hselected := hR.setSelectedDate today
  unfold SidebarCalendarWidget.onKeyButtonClicked
  dsimp only
  split_ifs
  · exact hselected s date
  · exact hR.trans (hselected s date) (hselected _ date)
  · exact hR.unseen ⟨rfl, rfl, rfl, rfl, rfl, rfl, rfl⟩

theorem weekBeginsChanged (value : ℤ) : R s (s.weekBeginsChanged L today value) := by
  unfold SidebarCalendarWidget.weekBeginsChanged CalendarManager.onWeekBeginsChanged
    CalendarManager.setFirstDayOfWeek
  split_ifs
  · exact hR.unseen ⟨rfl, rfl, rfl, rfl, rfl, rfl, rfl⟩
  · have hfirst : R s
        { s with
          m_manager := { s.m_manager with m_firstDayOfWeek := value + 1 }
          m_firstday := value + 1 } := hR.unseen ⟨rfl, rfl, rfl, rfl, rfl, rfl, rfl⟩
    exact hR.trans hfirst (hR.setDate today _ _)

/-- It holds across every event that only turns to dates. -/
theorem step (e : QDate × CalendarEvent) (he : e.2.turnsToDates = true) :
    R s (s.step L huangLi e) := by
  obtain ⟨today, event⟩ := e
  cases event with
  | keyButtonClicked date => exact hR.onKeyButtonClicked today s date
  | setSelectedDate date => exact hR.setSelectedDate today s date
  | nextPageClicked => exact hR.turnPage today s 1
  | previousPageClicked => exact hR.turnPage today s (-1)
  | wheel delta => exact hR.wheelEvent today s delta
  | backToday => exact hR.setSelectedDate today s today
  | weekBeginsChanged value => exact hR.weekBeginsChanged today s value
  | weekdayFormatChanged _ | shortDateFormatChanged _ _ | dockPositionChanged _
  | lunarReply _ _ => cases he

end DisplayRule

end SidebarCalendarWidget

end DdeTrayLoader.Calendar
