import DdeTrayLoader.Calendar.MonthPage

/-!
# Navigation at the edges

A date outside the years 1900 to 2100 is not displayed. A click on such a date is dismissed at once,
but when a page is turned to or a date is selected, the selection has been written by then.
-/

namespace DdeTrayLoader.Calendar

open Transition

variable (L : Locale) (huangLi : QDate → CaHuangLiDayInfo)

/-- The selected date is of the time frame, and of the month that is displayed. -/
structure MonthPage.Settled (p : MonthPage) : Prop where
  inTimeFrame : withinTimeFrame p.m_selectedData = true
  year : p.m_selectedData.year = p.m_displayedMonth.year
  month : p.m_selectedData.month = p.m_displayedMonth.month

/-- The selection, the displayed date and the buttons stay. -/
structure MonthPage.Kept (p p' : MonthPage) : Prop where
  selectedData : p'.m_selectedData = p.m_selectedData
  displayedMonth : p'.m_displayedMonth = p.m_displayedMonth
  keyButtonList : p'.m_keyButtonList = p.m_keyButtonList

/-- A request that leaves the selection to the check of the date is for one of the time frame; a
click is checked before. -/
def PageRequest.InTimeFrame : PageRequest → Prop
  | .select date | .turn date => withinTimeFrame date = true
  | .click _ | .weekBegins _ => True

namespace MonthPage

variable {p : MonthPage} (today : QDate)

theorem Kept.refl (p : MonthPage) : p.Kept p := ⟨rfl, rfl, rfl⟩

/-- Displaying the selected date settles the page exactly if the date is of the time frame. -/
theorem settled_display (p : MonthPage) :
    (p.display today p.m_selectedData).Settled ↔ withinTimeFrame p.m_selectedData = true := by
  constructor
  · intro h
    have hframe := h.inTimeFrame
    rwa [display_selectedData] at hframe
  · intro hframe
    rw [display_of_withinTimeFrame _ _ _ hframe]
    exact ⟨hframe, rfl, rfl⟩

theorem settled_turn (p : MonthPage) (date : QDate) :
    (p.turn today date).Settled ↔ withinTimeFrame date = true :=
  settled_display today { p with m_selectedData := date }

/-- From a settled page, selecting a date settles it exactly if the date is of the time frame. -/
theorem Settled.select_iff (h : p.Settled) (date : QDate) :
    (p.select today date).Settled ↔ withinTimeFrame date = true := by
  unfold select
  split_ifs with hselected
  · rw [← hselected]
    exact ⟨fun _ => h.inTimeFrame, fun _ => h⟩
  · exact settled_turn today p date

/-- A request keeps a settled page settled, and a request for a date beyond the time frame changes
nothing, exactly if no such date is selected or turned to. -/
theorem Settled.handle_iff (h : p.Settled) (request : PageRequest) :
    (p.handle today request).Settled ∧
        (∀ date ∈ request.date, ¬withinTimeFrame date = true →
          p.Kept (p.handle today request)) ↔
      request.InTimeFrame := by
  cases request with
  | click date =>
    refine ⟨fun _ => trivial, fun _ => ?_⟩
    change (if withinTimeFrame date then p.select today date else p).Settled ∧ ∀ date' ∈ some date,
      ¬withinTimeFrame date' = true →
        p.Kept (if withinTimeFrame date then p.select today date else p)
    split_ifs with hframe
    · refine ⟨(h.select_iff today date).mpr hframe, fun date' hdate' hnot => ?_⟩
      cases hdate'
      exact absurd hframe hnot
    · exact ⟨h, fun _ _ _ => Kept.refl p⟩
  | select date =>
    change (p.select today date).Settled ∧ _ ↔ withinTimeFrame date = true
    rw [h.select_iff today date]
    refine ⟨And.left, fun hframe => ⟨hframe, fun date' hdate' hnot => ?_⟩⟩
    cases hdate'
    exact absurd hframe hnot
  | turn date =>
    change (p.turn today date).Settled ∧ _ ↔ withinTimeFrame date = true
    rw [settled_turn]
    refine ⟨And.left, fun hframe => ⟨hframe, fun date' hdate' hnot => ?_⟩⟩
    cases hdate'
    exact absurd hframe hnot
  | weekBegins value =>
    refine ⟨fun _ => trivial, fun _ => ⟨?_, fun _ hdate => by cases hdate⟩⟩
    change (if p.firstDayOfWeek = value + 1 then p
      else p.setFirstDay today (value + 1)).Settled
    split_ifs
    · exact h
    · exact (settled_display today
        { p with firstDayOfWeek := value + 1, m_firstday := value + 1 }).mpr h.inTimeFrame

end MonthPage

namespace SidebarCalendarWidget

/-- If the event asks for a date beyond the time frame, nothing of the page changes. -/
def RejectsUnchanged (s : SidebarCalendarWidget) (e : QDate × CalendarEvent) : Prop :=
  ∀ request ∈ s.request e, ∀ date ∈ request.date, ¬withinTimeFrame date = true →
    s.page.Kept (s.step L huangLi e).page

/-- No date beyond the time frame is selected or turned to. -/
def AsksInTimeFrame (s : SidebarCalendarWidget) (e : QDate × CalendarEvent) : Prop :=
  ∀ request ∈ s.request e, request.InTimeFrame

/-- One event keeps the page settled and rejects other dates unchanged exactly if none is selected
or turned to. -/
theorem step_settled_iff (s : SidebarCalendarWidget) (e : QDate × CalendarEvent)
    (hs : s.page.Settled) :
    (s.step L huangLi e).page.Settled ∧ s.RejectsUnchanged L huangLi e ↔ s.AsksInTimeFrame e := by
  obtain ⟨today, event⟩ := e
  unfold RejectsUnchanged AsksInTimeFrame
  rw [page_step]
  cases hrequest : s.request (today, event) with
  | none =>
    constructor
    · rintro - _ hnone
      cases hnone
    · exact fun _ => ⟨hs, fun _ hnone => by cases hnone⟩
  | some request =>
    have hiff := hs.handle_iff today request
    constructor
    · rintro ⟨hsettled, hreject⟩ _ hsome
      cases hsome
      exact hiff.mp ⟨hsettled, hreject request rfl⟩
    · intro hframe
      obtain ⟨hsettled, hreject⟩ := hiff.mpr (hframe request rfl)
      refine ⟨hsettled, fun _ hsome => ?_⟩
      cases hsome
      exact hreject

/-- Throughout a run the page is settled and dates beyond the time frame change nothing, exactly if
the calendar is made in the time frame and no date beyond it is selected or turned to. -/
theorem navigation_atomic_iff (position : UInt32) (manager : CalendarManager)
    (regionFormat : RegionFormat) (today : QDate) (events : List (QDate × CalendarEvent)) :
    Always (step L huangLi) (fun s => s.page.Settled)
          (create L position manager regionFormat today) events ∧
        Obeys (step L huangLi) (RejectsUnchanged L huangLi)
          (create L position manager regionFormat today) events ↔
      withinTimeFrame today = true ∧
        Obeys (step L huangLi) AsksInTimeFrame
          (create L position manager regionFormat today) events := by
  have hcreate : (create L position manager regionFormat today).page.Settled ↔
      withinTimeFrame today = true := by
    have hpage := page_setSelectedDate L today (constructed position manager regionFormat) today
    change (setSelectedDate L today _ today).page.Settled ↔ _
    rw [hpage, MonthPage.select]
    split_ifs with hselected
    · -- Only the null date is selected already.
      rw [← hselected]
      exact ⟨fun h => h.inTimeFrame, fun h => by cases h⟩
    · exact MonthPage.settled_turn today _ today
  have hrun (hstart : (create L position manager regionFormat today).page.Settled) :=
    always_and_obeys_iff (I := fun _ : SidebarCalendarWidget => True) (fun _ _ _ => trivial)
      (fun s e _ hs => step_settled_iff L huangLi s e hs) events trivial hstart
  constructor
  · rintro ⟨halways, hobeys⟩
    exact ⟨hcreate.mp halways.head, (hrun halways.head).mp ⟨halways, hobeys⟩⟩
  · rintro ⟨htoday, hobeys⟩
    exact (hrun (hcreate.mpr htoday)).mpr hobeys

/-- On 15 December 2100 the next page is turned to: January 2101 is not displayed, but its day is
selected. -/
theorem not_navigation_atomic_december2100 :
    ¬(Always (step plainLocale noHuangLi) (fun s => s.page.Settled)
          (create plainLocale 2 (.create 0 6) (.create plainLocale 2 ⟨true, [], true⟩)
            (.ofParts 2100 12 15)) [(.ofParts 2100 12 15, .nextPageClicked)] ∧
        Obeys (step plainLocale noHuangLi)
          (RejectsUnchanged plainLocale noHuangLi)
          (create plainLocale 2 (.create 0 6) (.create plainLocale 2 ⟨true, [], true⟩)
            (.ofParts 2100 12 15)) [(.ofParts 2100 12 15, .nextPageClicked)]) := by
  rintro ⟨halways, -⟩
  have hframe := halways.last.inTimeFrame
  revert hframe
  decide +kernel

end SidebarCalendarWidget

end DdeTrayLoader.Calendar
