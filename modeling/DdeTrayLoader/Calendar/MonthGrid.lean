import DdeTrayLoader.Calendar.Gregorian
import DdeTrayLoader.Calendar.MonthPage

/-!
# The grid of days

The buttons show six weeks that begin with the week of the first day of the month, and
`CWeekWidget` writes the names of the weekdays above them. Where a week begins is read from
`CalendarManager` by both, but the buttons count the days from Monday as 1, and the names begin with
Sunday.
-/

namespace DdeTrayLoader.Calendar

open Transition

variable (L : Locale)

/-! ## The names of the weekdays -/

/-- `weekStr`, of which only the first seven entries are read. -/
def weekStr : List String :=
  [L.tr "Sun", L.tr "Mon", L.tr "Tue", L.tr "Wed", L.tr "Thu", L.tr "Fri", L.tr "Sat"]

/-- `Qt::Monday`. -/
def Monday : ℤ := 1

/-- The members of `CWeekWidget` that say where a week begins. -/
structure CWeekWidget where
  m_autoFirstDay : Bool
  m_firstDay : ℤ
  deriving DecidableEq

namespace CWeekWidget

def setAutoFirstDay (s : CWeekWidget) (is : Bool) : CWeekWidget :=
  if s.m_autoFirstDay = is then s else { s with m_autoFirstDay := is }

def setFirstDay (s : CWeekWidget) (first : ℤ) : CWeekWidget :=
  if s.m_firstDay = first then s else setAutoFirstDay { s with m_firstDay := first } true

/-- The widget that the calendar makes, and how `initView` leaves it. -/
def create (firstDayOfWeek : ℤ) : CWeekWidget :=
  setFirstDay ⟨true, firstDayOfWeek⟩ Sunday

/-- The text that `paintEvent` draws in a column, from `Monday` to `Sunday`; `none` is an index
beyond the list. -/
def columnText (s : CWeekWidget) (firstDayOfWeek : ℤ) (i : ℤ) : Option String :=
  let firstDay := if s.m_autoFirstDay then firstDayOfWeek else s.m_firstDay
  let index := (firstDay + i - Monday).tmod Sunday
  if index < 0 then none else (weekStr L)[index.toNat]?

/-- The week begins where `CalendarManager` says. -/
theorem create_autoFirstDay (firstDayOfWeek : ℤ) :
    (create firstDayOfWeek).m_autoFirstDay = true := by
  unfold create setFirstDay setAutoFirstDay
  split_ifs <;> rfl

end CWeekWidget

/-- The name of a weekday, where Monday is 1. -/
def weekdayName (dayOfWeek : ℤ) : String :=
  if dayOfWeek = 1 then "Mon"
  else if dayOfWeek = 2 then "Tue"
  else if dayOfWeek = 3 then "Wed"
  else if dayOfWeek = 4 then "Thu"
  else if dayOfWeek = 5 then "Fri"
  else if dayOfWeek = 6 then "Sat"
  else "Sun"

/-- The names begin with Sunday, which is the last weekday. -/
theorem weekStr_getElem? {dayOfWeek : ℤ} (h : 1 ≤ dayOfWeek) (h' : dayOfWeek ≤ 7) :
    (weekStr L)[(dayOfWeek % 7).toNat]? = some (L.tr (weekdayName dayOfWeek)) := by
  interval_cases dayOfWeek <;> rfl

/-- The text above a column names the weekday that is as many days after the first one. -/
theorem columnText_eq {week : CWeekWidget} (hauto : week.m_autoFirstDay = true) {firstDay : ℤ}
    (h : 1 ≤ firstDay) (h' : firstDay ≤ 7) {column : ℕ} (hcolumn : column < 7) :
    week.columnText L firstDay (column + 1) =
      some (L.tr (weekdayName ((firstDay - 1 + column) % 7 + 1))) := by
  have hname := weekStr_getElem? L (show 1 ≤ (firstDay - 1 + column) % 7 + 1 by omega) (by omega)
  have hindex : (firstDay + (column + 1) - Monday).tmod Sunday =
      ((firstDay - 1 + column) % 7 + 1) % 7 := by
    change (firstDay + (column + 1) - 1).tmod 7 = _
    rw [Int.tmod_eq_emod_of_nonneg (by omega)]
    omega
  unfold CWeekWidget.columnText
  rw [if_pos hauto]
  dsimp only
  rw [hindex, if_neg (by omega), hname]

/-! ## The buttons -/

/-- What the loop writes into the button of a date. -/
def keyButton (today displayed selected date : QDate) : SidebarCalendarKeyButton where
  m_date := date
  m_isToday := date = today
  m_isThisMonth := date.month = displayed.month
  m_isSelected := date = selected

/-- The buttons of six weeks. -/
def sixWeeks (today displayed selected : QDate) (start : ℤ) : List SidebarCalendarKeyButton :=
  (List.range MONTH_METRIC_NUM).map fun i : ℕ =>
    keyButton today displayed selected ⟨some (start + i)⟩

/-- The buttons show one day after the other. -/
theorem keyButtons_eq (today displayed selected : QDate) (n : ℕ) (start : ℤ) :
    keyButtons today displayed selected n ⟨some start⟩ =
      (List.range n).map fun i : ℕ => keyButton today displayed selected ⟨some (start + i)⟩ := by
  induction n generalizing start with
  | zero => rfl
  | succ n ih =>
    rw [List.range_succ_eq_map, List.map_cons, List.map_map, keyButtons]
    congr 1
    · rw [Int.natCast_zero, add_zero]
      rfl
    · change keyButtons today displayed selected n ⟨some (start + 1)⟩ = _
      rw [ih]
      refine List.map_congr_left fun i _ => ?_
      rw [Function.comp_apply, Nat.succ_eq_add_one, Int.natCast_succ, add_assoc, add_comm 1]

section

variable {today displayed selected : QDate} {start : ℤ}

theorem mem_sixWeeks {button : SidebarCalendarKeyButton} :
    button ∈ sixWeeks today displayed selected start ↔
      ∃ i : ℕ, i < 42 ∧ keyButton today displayed selected ⟨some (start + i)⟩ = button := by
  simp [sixWeeks, MONTH_METRIC_NUM]

/-- A day of the six weeks has a button. -/
theorem exists_sixWeeks {jd : ℤ} (hle : start ≤ jd) (hlt : jd < start + 42) :
    ∃ button ∈ sixWeeks today displayed selected start, button.m_date = ⟨some jd⟩ := by
  refine ⟨_, mem_sixWeeks.mpr ⟨(jd - start).toNat, by omega, rfl⟩, ?_⟩
  change QDate.mk (some (start + ((jd - start).toNat : ℤ))) = _
  rw [Int.toNat_of_nonneg (by omega), add_sub_cancel]

/-- A day of the first week has a button in the top row. -/
theorem exists_topRow {jd : ℤ} (hle : start ≤ jd) (hle' : jd ≤ start + 6) :
    ∃ button ∈ (sixWeeks today displayed selected start).take 7, button.m_date = ⟨some jd⟩ := by
  refine ⟨keyButton today displayed selected ⟨some jd⟩, ?_, rfl⟩
  rw [sixWeeks, ← List.map_take, List.take_range, List.mem_map]
  refine ⟨(jd - start).toNat, List.mem_range.mpr (by simp [MONTH_METRIC_NUM]; omega), ?_⟩
  rw [Int.toNat_of_nonneg (by omega), add_sub_cancel]

end

/-- The grid begins with the first day of a week, at most six days before the month. -/
theorem gridStart_eq {firstDay : ℤ} (h : 1 ≤ firstDay) (h' : firstDay ≤ 7) {date : QDate}
    (hvalid : date.isValid = true) :
    ∃ start : ℤ, gridStart firstDay date = ⟨some start⟩ ∧
      start ≤ QDate.firstOfMonth date.monthIndex ∧
      QDate.firstOfMonth date.monthIndex ≤ start + 6 ∧ start % 7 = firstDay - 1 := by
  have hfirst := QDate.ofParts_first hvalid
  generalize QDate.firstOfMonth date.monthIndex = first at hfirst ⊢
  refine ⟨first - (first % 7 + 1 - firstDay + 7) % 7, ?_, by omega, by omega, by omega⟩
  unfold gridStart
  rw [hfirst]
  change QDate.mk (some (first + (-(first % 7 + 1 - firstDay + 7)).tmod 7)) = _
  rw [Int.neg_tmod, Int.tmod_eq_emod_of_nonneg (by omega)]
  rfl

/-! ## The grid -/

/-- The buttons show the month of a date: six weeks in their order, below the names of their
weekdays, of which the first contains the first day of the month and all contain the others. -/
structure MonthPage.GridRight (week : CWeekWidget) (p : MonthPage) (date : QDate) : Prop where
  consecutive : ∃ start : QDate, start.isValid = true ∧
    p.m_keyButtonList.map (·.m_date) =
      (List.range MONTH_METRIC_NUM).map fun i : ℕ => start.addDays i
  weekday : ∀ (i : ℕ) (button : SidebarCalendarKeyButton), p.m_keyButtonList[i]? = some button →
    week.columnText L p.firstDayOfWeek ((i % 7 : ℕ) + 1) =
      some (L.tr (weekdayName button.m_date.dayOfWeek))
  topRow : ∃ button ∈ p.m_keyButtonList.take 7,
    button.m_date = .ofParts date.year date.month 1
  wholeMonth : ∀ day : QDate, day.isValid = true → day.year = date.year → day.month = date.month →
    ∃ button ∈ p.m_keyButtonList, button.m_date = day
  thisMonth : ∀ button ∈ p.m_keyButtonList, button.m_isThisMonth = true ↔
    button.m_date.year = date.year ∧ button.m_date.month = date.month
  selected : ∀ button ∈ p.m_keyButtonList, button.m_isSelected = true ↔
    button.m_date = p.m_selectedData

namespace QDate

/-- The weekday of a day is as many days after that of another. -/
theorem dayOfWeek_addDays (jd n : ℤ) : (addDays ⟨some jd⟩ n).dayOfWeek = (jd + n) % 7 + 1 := rfl

/-- Of the days around the first of a month, those with its number are those of its year too. -/
theorem month_eq_iff_near (jd : ℤ) {date : QDate} (hvalid : date.isValid = true)
    (hbefore : firstOfMonth date.monthIndex - 6 ≤ jd)
    (hafter : jd ≤ firstOfMonth date.monthIndex + 41) :
    month ⟨some jd⟩ = date.month ↔
      year ⟨some jd⟩ = date.year ∧ month ⟨some jd⟩ = date.month := by
  rw [sameMonth_iff rfl hvalid, month_eq_iff rfl hvalid]
  refine ⟨fun hmod => ?_, fun heq => by rw [heq]⟩
  obtain ⟨hfirst, hlast⟩ := partsOfJulianDay_mem jd
  change firstOfMonth (monthIndex ⟨some jd⟩) ≤ jd at hfirst
  change jd < firstOfMonth (monthIndex ⟨some jd⟩ + 1) at hlast
  generalize monthIndex ⟨some jd⟩ = index at *
  rcases lt_trichotomy index date.monthIndex with hlt | heq | hgt
  · -- The same month of an earlier year is over eleven months before.
    have hle := firstOfMonth_le_of_le (show index + 1 ≤ date.monthIndex by omega)
    omega
  · exact heq
  · have hle := firstOfMonth_le_of_le hgt.le
    omega

end QDate

namespace MonthPage

variable {L}

theorem isValid_of_withinTimeFrame {date : QDate} (hdate : withinTimeFrame date = true) :
    date.isValid = true := by
  unfold withinTimeFrame at hdate
  exact (Bool.and_eq_true_iff.mp hdate).1

/-- The calendar and `CalendarManager` agree on the first day of the week. -/
structure Aligned (p : MonthPage) : Prop where
  firstday : p.m_firstday = p.firstDayOfWeek
  monday_le : 1 ≤ p.firstDayOfWeek
  le_sunday : p.firstDayOfWeek ≤ 7

/-- Displaying a date shows its month. -/
theorem Aligned.gridRight {p : MonthPage} (h : p.Aligned) {week : CWeekWidget}
    (hauto : week.m_autoFirstDay = true) (today : QDate) {date : QDate}
    (hdate : withinTimeFrame date = true) : (p.display today date).GridRight L week date := by
  have hvalid := isValid_of_withinTimeFrame hdate
  obtain ⟨start, hstart, hle, hge, hweek⟩ := gridStart_eq h.monday_le h.le_sunday hvalid
  have hfirst := QDate.ofParts_first hvalid
  have hlast : QDate.firstOfMonth (date.monthIndex + 1) ≤
      QDate.firstOfMonth date.monthIndex + 31 := by
    rw [QDate.firstOfMonth_succ]
    exact Int.add_le_add_left (QDate.daysInMonth_bounds _ _).2 _
  rw [display_of_withinTimeFrame today p date hdate, h.firstday, hstart, keyButtons_eq]
  change GridRight L week
    { p with
      m_firstday := p.firstDayOfWeek
      m_displayedMonth := date
      m_keyButtonList := sixWeeks today date p.m_selectedData start } date
  constructor
  case consecutive => exact ⟨⟨some start⟩, rfl, List.map_map⟩
  case weekday =>
    intro i button hbutton
    obtain ⟨-, rfl⟩ : i < 42 ∧ keyButton today date p.m_selectedData ⟨some (start + i)⟩ =
        button := by
      simpa [sixWeeks, MONTH_METRIC_NUM, List.getElem?_eq_some_iff] using hbutton
    change week.columnText L p.firstDayOfWeek ((i % 7 : ℕ) + 1) =
      some (L.tr (weekdayName ((start + i) % 7 + 1)))
    rw [columnText_eq L hauto h.monday_le h.le_sunday (Nat.mod_lt i (by omega))]
    congr 4
    omega
  case topRow =>
    rw [hfirst]
    exact exists_topRow hle hge
  case wholeMonth =>
    intro day hday hyear hmonth
    obtain ⟨_ | jd⟩ := day
    · cases hday
    · have hindex := (QDate.sameMonth_iff rfl hvalid).mp ⟨hyear, hmonth⟩
      obtain ⟨hfrom, hto⟩ := (QDate.monthIndex_eq_iff jd date.monthIndex).mp hindex
      exact exists_sixWeeks (by omega) (by omega)
  case thisMonth =>
    intro button hbutton
    obtain ⟨i, hi, rfl⟩ := mem_sixWeeks.mp hbutton
    have hnear := QDate.month_eq_iff_near (start + i) hvalid (by omega) (by omega)
    exact decide_eq_true_iff.trans hnear
  case selected =>
    intro button hbutton
    obtain ⟨i, -, rfl⟩ := mem_sixWeeks.mp hbutton
    exact decide_eq_true_iff

/-- The selected date is displayed, and the buttons show its month. -/
structure Shown (L : Locale) (week : CWeekWidget) (p : MonthPage) : Prop where
  displayed : p.m_displayedMonth = p.m_selectedData
  inTimeFrame : withinTimeFrame p.m_selectedData = true
  gridRight : p.GridRight L week p.m_displayedMonth

end MonthPage

/-- The service reports one of the seven days. -/
def PageRequest.WeekValid : PageRequest → Prop
  | .weekBegins value => 0 ≤ value ∧ value ≤ 6
  | _ => True

namespace MonthPage

variable {L}

theorem Aligned.congr {p p' : MonthPage} (h : p.Aligned)
    (hweek : p'.firstDayOfWeek = p.firstDayOfWeek) (hfirstday : p'.m_firstday = p.m_firstday) :
    p'.Aligned := by
  obtain ⟨heq, hmonday, hsunday⟩ := h
  exact ⟨by rw [hfirstday, hweek, heq], by rwa [hweek], by rwa [hweek]⟩

/-- They agree after every request. -/
theorem Aligned.handle {p : MonthPage} (h : p.Aligned) (today : QDate) {request : PageRequest}
    (hrequest : request.WeekValid) : (p.handle today request).Aligned := by
  cases request with
  | weekBegins value =>
    change (if p.firstDayOfWeek = value + 1 then p else p.setFirstDay today (value + 1)).Aligned
    split_ifs
    · exact h
    · obtain ⟨hvalue, hvalue'⟩ := hrequest
      have hset : Aligned { p with firstDayOfWeek := value + 1, m_firstday := value + 1 } :=
        ⟨rfl, by dsimp only; omega, by dsimp only; omega⟩
      exact hset.congr (display_firstDayOfWeek ..) (display_firstday ..)
  | click date | select date | turn date =>
    refine h.congr (handle_firstDay today p _ ?_).1 (handle_firstDay today p _ ?_).2 <;>
      exact fun _ => PageRequest.noConfusion

/-- Turning to a date of the time frame shows its month. -/
theorem Aligned.turn_shown {p : MonthPage} (h : p.Aligned) {week : CWeekWidget}
    (hauto : week.m_autoFirstDay = true) (today : QDate) {date : QDate}
    (hdate : withinTimeFrame date = true) : (p.turn today date).Shown L week := by
  have hselected : Aligned { p with m_selectedData := date } := h.congr rfl rfl
  have hgrid := hselected.gridRight (L := L) hauto today hdate
  have hdisplayed : (p.turn today date).m_displayedMonth = date := by
    rw [turn, display_of_withinTimeFrame _ _ _ hdate]
  refine ⟨?_, ?_, ?_⟩
  · rw [hdisplayed, turn_selectedData]
  · rw [turn_selectedData]
    exact hdate
  · rw [hdisplayed]
    exact hgrid

/-- A page that shows its month does so after every request for a date of the time frame. -/
theorem Shown.handle {week : CWeekWidget} {p : MonthPage} (h : p.Shown L week) (hp : p.Aligned)
    (hauto : week.m_autoFirstDay = true) (today : QDate) {request : PageRequest}
    (hrequest : request.WeekValid) (hdate : ∀ date ∈ request.date, withinTimeFrame date = true) :
    (p.handle today request).Shown L week := by
  have hselect (date : QDate) (hdate : withinTimeFrame date = true) :
      (p.select today date).Shown L week := by
    unfold select
    split_ifs
    · exact h
    · exact hp.turn_shown hauto today hdate
  cases request with
  | click date =>
    have hframe := hdate date rfl
    change (if withinTimeFrame date then p.select today date else p).Shown L week
    rw [if_pos hframe]
    exact hselect date hframe
  | select date => exact hselect date (hdate date rfl)
  | turn date => exact hp.turn_shown hauto today (hdate date rfl)
  | weekBegins value =>
    change (if p.firstDayOfWeek = value + 1 then p
      else p.setFirstDay today (value + 1)).Shown L week
    split_ifs
    · exact h
    · -- The date displayed is the selected one.
      obtain ⟨hvalue, hvalue'⟩ := hrequest
      have hset : Aligned { p with firstDayOfWeek := value + 1, m_firstday := value + 1 } :=
        ⟨rfl, by dsimp only; omega, by dsimp only; omega⟩
      exact hset.turn_shown hauto today h.inTimeFrame

end MonthPage

/-- If the event reports how weeks begin, it names one of the seven days. -/
def CalendarEvent.WeekValid : CalendarEvent → Prop
  | .weekBeginsChanged value => 0 ≤ value ∧ value ≤ 6
  | _ => True

namespace SidebarCalendarWidget

open MonthPage

theorem request_weekValid (s : SidebarCalendarWidget) (e : QDate × CalendarEvent)
    (he : e.2.WeekValid) : ∀ request ∈ s.request e, request.WeekValid := by
  obtain ⟨today, event⟩ := e
  intro request hrequest
  cases event with
  | weekBeginsChanged value =>
    cases hrequest
    exact he
  | wheel delta =>
    simp only [SidebarCalendarWidget.request] at hrequest
    split_ifs at hrequest <;> cases hrequest <;> trivial
  | _ => cases hrequest <;> trivial

/-! ## Whole runs -/

variable {L} {huangLi : QDate → CaHuangLiDayInfo}

theorem step_aligned (s : SidebarCalendarWidget) (e : QDate × CalendarEvent)
    (hs : s.page.Aligned) (he : e.2.WeekValid) : (s.step L huangLi e).page.Aligned :=
  page_step_induction s e hs fun request hrequest =>
    hs.handle e.1 (s.request_weekValid e he request hrequest)

theorem step_shown {week : CWeekWidget} (hauto : week.m_autoFirstDay = true)
    (s : SidebarCalendarWidget) (e : QDate × CalendarEvent) (hs : s.page.Shown L week)
    (haligned : s.page.Aligned) (he : e.2.WeekValid) (hdates : s.AcceptedDates e) :
    (s.step L huangLi e).page.Shown L week :=
  page_step_induction s e hs fun request hrequest =>
    hs.handle haligned hauto e.1 (s.request_weekValid e he request hrequest)
      (hdates request hrequest)

/-- The calendar is made with one of the seven days. -/
theorem aligned_constructed (position : UInt32) (weekdayFormat : ℤ) {weekBegins : ℤ}
    (hweekBegins : 0 ≤ weekBegins) (hweekBegins' : weekBegins ≤ 6) (regionFormat : RegionFormat) :
    (constructed position (.create weekdayFormat weekBegins) regionFormat).page.Aligned := by
  have hfirst : (CalendarManager.create weekdayFormat weekBegins).m_firstDayOfWeek =
      weekBegins + 1 := by
    unfold CalendarManager.create CalendarManager.onWeekBeginsChanged
      CalendarManager.setFirstDayOfWeek CalendarManager.setWeekDayFormat
    dsimp only
    split_ifs with hformat hfirst hfirst <;> first | rfl | exact hfirst
  refine ⟨rfl, ?_, ?_⟩
  · change 1 ≤ (CalendarManager.create weekdayFormat weekBegins).m_firstDayOfWeek
    omega
  · change (CalendarManager.create weekdayFormat weekBegins).m_firstDayOfWeek ≤ 7
    omega

variable (L) (huangLi)

/-- Whatever has happened, displaying a date of the time frame shows its month below the names of
the weekdays; and while all dates asked for are of the time frame, the month of the displayed date
is shown after every event. -/
theorem grid_right (position : UInt32) (weekdayFormat weekBegins : ℤ) (regionFormat : RegionFormat)
    (today : QDate) (events : List (QDate × CalendarEvent)) (hweekBegins : 0 ≤ weekBegins)
    (hweekBegins' : weekBegins ≤ 6) (hevents : ∀ e ∈ events, e.2.WeekValid) :
    (∀ (today' selected date : QDate), withinTimeFrame date = true →
      (setDate L today'
        { run (step L huangLi)
            (create L position (.create weekdayFormat weekBegins) regionFormat today) events with
          m_selectedData := selected } date).page.GridRight L
        (.create (CalendarManager.create weekdayFormat weekBegins).m_firstDayOfWeek) date) ∧
    (withinTimeFrame today = true →
      Obeys (step L huangLi) AcceptedDates
        (create L position (.create weekdayFormat weekBegins) regionFormat today) events →
      Always (step L huangLi)
        (fun s => s.page.GridRight L
          (.create (CalendarManager.create weekdayFormat weekBegins).m_firstDayOfWeek)
          s.m_displayedMonth)
        (create L position (.create weekdayFormat weekBegins) regionFormat today) events) := by
  set manager := CalendarManager.create weekdayFormat weekBegins
  set start := create L position manager regionFormat today with hstart
  have hauto := CWeekWidget.create_autoFirstDay manager.m_firstDayOfWeek
  have hconstructed := aligned_constructed position weekdayFormat hweekBegins hweekBegins'
    regionFormat
  have hpage : start.page =
      (constructed position manager regionFormat).page.select today today :=
    page_setSelectedDate L today _ today
  have haligned : start.page.Aligned := by
    rw [hpage]
    exact hconstructed.handle today (show (PageRequest.select today).WeekValid from trivial)
  have hweek : Obeys (step L huangLi) (fun _ e => e.2.WeekValid) start events :=
    obeys_of_mem fun e he _ => hevents e he
  constructor
  · intro today' selected date hdate
    have hend : (run (step L huangLi) start events).page.Aligned :=
      run_invariant_of_obeys (I := fun s : SidebarCalendarWidget => s.page.Aligned)
        (fun s e hs he => step_aligned s e hs he) haligned hweek
    have hselected : Aligned (page { run (step L huangLi) start events with
        m_selectedData := selected }) := hend.congr rfl rfl
    rw [page_setDate]
    exact hselected.gridRight hauto today' hdate
  · intro htoday hdates
    have hshown : start.page.Shown L (.create manager.m_firstDayOfWeek) := by
      have hnull : ¬(constructed position manager regionFormat).page.m_selectedData = today := by
        rintro rfl
        cases htoday
      rw [hpage, MonthPage.select, if_neg hnull]
      exact hconstructed.turn_shown hauto today htoday
    refine always_of_obeys (I := fun s : SidebarCalendarWidget =>
      s.page.Aligned ∧ s.page.Shown L (.create manager.m_firstDayOfWeek)) (fun s e h he => ?_)
      (fun s h => h.2.gridRight) ⟨haligned, hshown⟩ (hweek.and hdates)
    exact ⟨step_aligned s e h.1 he.1, step_shown hauto s e h.2 h.1 he.1 he.2⟩

/-- Weeks begin on Monday from now on, and the next page is turned to. -/
def mondayThenPage : List (QDate × CalendarEvent) :=
  [(.ofParts 2024 1 15, .weekBeginsChanged 0), (.ofParts 2024 1 15, .nextPageClicked)]

/-- The grid is right throughout this run, and where February 2024 is displayed after it. -/
theorem grid_right_mondayThenPage :
    ((setDate plainLocale (.ofParts 2024 1 15)
      { run (step plainLocale noHuangLi)
          (create plainLocale 2 (.create 0 6) (.create plainLocale 2 ⟨true, [], true⟩)
            (.ofParts 2024 1 15)) mondayThenPage with
        m_selectedData := .ofParts 2024 2 29 } (.ofParts 2024 2 29)).page.GridRight plainLocale
      (.create (CalendarManager.create 0 6).m_firstDayOfWeek) (.ofParts 2024 2 29)) ∧
    Always (step plainLocale noHuangLi)
      (fun s => s.page.GridRight plainLocale
        (.create (CalendarManager.create 0 6).m_firstDayOfWeek) s.m_displayedMonth)
      (create plainLocale 2 (.create 0 6) (.create plainLocale 2 ⟨true, [], true⟩)
        (.ofParts 2024 1 15)) mondayThenPage := by
  have hevents : ∀ e ∈ mondayThenPage, e.2.WeekValid := by
    intro e he
    rcases List.mem_pair.mp he with rfl | rfl
    · exact ⟨by decide, by decide⟩
    · trivial
  have hright := grid_right plainLocale noHuangLi 2 0 6
    (.create plainLocale 2 ⟨true, [], true⟩) (.ofParts 2024 1 15) mondayThenPage (by decide)
    (by decide) hevents
  refine ⟨hright.1 _ _ _ (by decide +kernel), hright.2 (by decide +kernel) ⟨?_, ?_, trivial⟩⟩
  · intro request hrequest date hdate
    cases hrequest
    cases hdate
  · intro request hrequest date hdate
    cases hrequest
    cases hdate
    decide +kernel

end SidebarCalendarWidget

end DdeTrayLoader.Calendar
