import DdeTrayLoader.Calendar.QDate
import Mathlib.Tactic.IntervalCases
import Mathlib.Tactic.NormNum

/-!
# The days of a month

The months are counted in one sequence, from January of the Gregorian year 0. The days of a month
are the Julian days from its first day up to the first day of the next, and the parts of a Julian
day say in which of these it lies.
-/

namespace DdeTrayLoader.Calendar

namespace QDate

@[simp] theorem yearToGregorian_yearFromGregorian (year : ℤ) :
    yearToGregorian (yearFromGregorian year) = year := by
  unfold yearToGregorian yearFromGregorian
  split_ifs <;> omega

theorem yearFromGregorian_yearToGregorian {year : ℤ} (hyear : year ≠ 0) :
    yearFromGregorian (yearToGregorian year) = year := by
  unfold yearToGregorian yearFromGregorian
  split_ifs <;> omega

theorem yearFromGregorian_ne_zero (year : ℤ) : yearFromGregorian year ≠ 0 := by
  unfold yearFromGregorian
  split_ifs <;> omega

/-! ## The parts of a Julian day -/

/-- A day of a year of a century, where the years begin in March. -/
structure CenturyDay where
  century : ℤ
  year : ℤ
  day : ℤ

namespace CenturyDay

/-- The days are those of the year, and the last one is that of a leap year. -/
structure IsValid (date : CenturyDay) : Prop where
  year_nonneg : 0 ≤ date.year
  year_le : date.year ≤ 99
  day_nonneg : 0 ≤ date.day
  day_le : date.day ≤ 365
  leap : date.day = 365 → date.year % 4 = 3 ∧ (date.year = 99 → date.century % 4 = 3)

/-- The month in the year, where March is 0. -/
def month (date : CenturyDay) : ℤ := (5 * date.day + 2) / 153

def julianDay (date : CenturyDay) : ℤ :=
  36524 * date.century + date.century / 4 + 365 * date.year + date.year / 4 + date.day - 32044

def parts (date : CenturyDay) : YearMonthDay where
  year := yearFromGregorian (100 * date.century + date.year - 4800 + date.month / 10)
  month := date.month + 3 - 12 * (date.month / 10)
  day := date.day - (153 * date.month + 2) / 5 + 1

/-- The steps of `partsOfJulianDay` that find the century, the year and the day. -/
def ofJulianDay (jd : ℤ) : CenturyDay :=
  let a := jd + 32044
  let b := (4 * a + 3) / 146097
  let c := a - 146097 * b / 4
  let d := (4 * c + 3) / 1461
  ⟨b, d, c - 1461 * d / 4⟩

theorem parts_ofJulianDay (jd : ℤ) : (ofJulianDay jd).parts = partsOfJulianDay jd := rfl

theorem month_bounds {date : CenturyDay} (h : date.IsValid) : 0 ≤ date.month ∧ date.month < 12 := by
  have hnonneg := h.day_nonneg
  have hle := h.day_le
  unfold month
  omega

/-- The days of a century are split into years of 365 or 366 days. -/
theorem isValid_ofJulianDay (jd : ℤ) :
    (ofJulianDay jd).IsValid ∧ (ofJulianDay jd).julianDay = jd := by
  unfold ofJulianDay julianDay
  dsimp only
  set a := jd + 32044 with ha
  set b := (4 * a + 3) / 146097 with hb
  have hcentury : 146097 * b / 4 = 36524 * b + b / 4 := by omega
  rw [hcentury]
  set c := a - (36524 * b + b / 4) with hc
  have hc0 : 0 ≤ c := by omega
  have hcle : c ≤ 36523 ∨ c = 36524 ∧ b % 4 = 3 := by omega
  clear_value b
  set d := (4 * c + 3) / 1461 with hd
  have hfour : 1461 * d / 4 = 365 * d + d / 4 := by omega
  rw [hfour]
  constructor
  · constructor <;> dsimp only <;> omega
  · omega

/-- The month and the day are those of the Gregorian calendar. -/
theorem isValidParts {date : CenturyDay} (h : date.IsValid) : IsValidParts date.parts := by
  obtain ⟨hmonth, hmonth'⟩ := month_bounds h
  have hdef : date.month = (5 * date.day + 2) / 153 := rfl
  have htens : date.month / 10 = if date.month < 10 then 0 else 1 := by split_ifs <;> omega
  refine ⟨yearFromGregorian_ne_zero _, ?_, ?_, ?_, ?_⟩
  · change 1 ≤ date.month + 3 - 12 * (date.month / 10)
    omega
  · change date.month + 3 - 12 * (date.month / 10) ≤ 12
    omega
  · change 1 ≤ date.day - (153 * date.month + 2) / 5 + 1
    omega
  · have hyear := h.year_nonneg
    have hyear' := h.year_le
    have hday := h.day_nonneg
    have hday' := h.day_le
    have hleap := h.leap
    unfold parts daysInMonth isLeapYear
    simp only [yearToGregorian_yearFromGregorian, Bool.and_eq_true, Bool.or_eq_true, beq_iff_eq,
      bne_iff_ne]
    clear htens
    generalize date.month = month at *
    interval_cases month <;> norm_num <;> (try split_ifs) <;> omega

end CenturyDay

/-- The parts of a Julian day are those of a date. -/
theorem isValidParts_partsOfJulianDay (jd : ℤ) : IsValidParts (partsOfJulianDay jd) := by
  rw [← CenturyDay.parts_ofJulianDay]
  exact CenturyDay.isValidParts (CenturyDay.isValid_ofJulianDay jd).1

/-! ## The sequence of the months -/

/-- The number of a month in the sequence. -/
def YearMonthDay.monthIndex (date : YearMonthDay) : ℤ :=
  12 * yearToGregorian date.year + (date.month - 1)

/-- The Julian day of the first day of a month. -/
def firstOfMonth (index : ℤ) : ℤ :=
  let march := index - 2 + 12 * 4800
  let year := march / 12
  (153 * (march % 12) + 2) / 5 + 365 * year + year / 4 - year / 100 + year / 400 - 32044

/-- The number of days of a month. -/
def monthDays (index : ℤ) : ℤ := daysInMonth (yearFromGregorian (index / 12)) (index % 12 + 1)

/-- Counted from March of the year -4800, a month begins after the whole years and the whole months
before it. -/
theorem firstOfMonth_march (year : ℤ) {month : ℤ} (h0 : 0 ≤ month) (h12 : month < 12) :
    firstOfMonth (12 * (year - 4800) + month + 2) =
      (153 * month + 2) / 5 + 365 * year + year / 4 - year / 100 + year / 400 - 32044 := by
  have hyear : (12 * (year - 4800) + month + 2 - 2 + 12 * 4800) / 12 = year := by omega
  have hmonth : (12 * (year - 4800) + month + 2 - 2 + 12 * 4800) % 12 = month := by omega
  unfold firstOfMonth
  dsimp only
  rw [hyear, hmonth]

/-- The months other than February have the same days in every year. -/
theorem monthDays_march (year : ℤ) {month : ℤ} (h0 : 0 ≤ month) (h11 : month < 11) :
    monthDays (12 * (year - 4800) + month + 2) =
      (153 * (month + 1) + 2) / 5 - (153 * month + 2) / 5 := by
  have hmonth : (12 * (year - 4800) + month + 2) % 12 + 1 = (month + 2) % 12 + 1 := by omega
  unfold monthDays daysInMonth
  rw [hmonth]
  generalize isLeapYear _ = leap
  interval_cases month <;> rfl

/-- The year that begins in March ends with February of the next one. -/
theorem monthDays_february (year : ℤ) :
    monthDays (12 * (year - 4800) + 11 + 2) =
      if (year + 1) % 4 = 0 ∧ ((year + 1) % 100 ≠ 0 ∨ (year + 1) % 400 = 0) then 29 else 28 := by
  have hyear : (12 * (year - 4800) + 11 + 2) / 12 = year + 1 - 4800 := by omega
  have hmonth : (12 * (year - 4800) + 11 + 2) % 12 + 1 = 2 := by omega
  unfold monthDays daysInMonth isLeapYear
  rw [hyear, hmonth, yearToGregorian_yearFromGregorian, if_pos rfl]
  simp only [Bool.and_eq_true, Bool.or_eq_true, beq_iff_eq, bne_iff_ne]
  split_ifs <;> omega

/-- The next month begins after the last day of this one. -/
theorem firstOfMonth_succ (index : ℤ) :
    firstOfMonth (index + 1) = firstOfMonth index + monthDays index := by
  obtain ⟨year, month, h0, h12, rfl⟩ : ∃ year month, 0 ≤ month ∧ month < 12 ∧
      index = 12 * (year - 4800) + month + 2 :=
    ⟨(index - 2) / 12 + 4800, (index - 2) % 12, by omega, by omega, by omega⟩
  rw [firstOfMonth_march year h0 h12]
  by_cases h11 : month < 11
  · have hnext := firstOfMonth_march year (show 0 ≤ month + 1 by omega) (by omega)
    rw [monthDays_march year h0 h11, add_right_comm, add_assoc _ month, hnext]
    omega
  · -- After February a year begins, and a leap year has had a day more.
    obtain rfl : month = 11 := by omega
    have hnext := firstOfMonth_march (year + 1) le_rfl (by omega)
    have hindex : 12 * (year - 4800) + 11 + 2 + 1 = 12 * (year + 1 - 4800) + 0 + 2 := by omega
    rw [monthDays_february, hindex, hnext]
    split_ifs <;> omega

theorem daysInMonth_bounds (year month : ℤ) :
    28 ≤ daysInMonth year month ∧ daysInMonth year month ≤ 31 := by
  unfold daysInMonth
  split_ifs <;> omega

/-- Every month has at least 28 days. -/
theorem firstOfMonth_add_le (index : ℤ) (n : ℕ) :
    firstOfMonth index + 28 * n ≤ firstOfMonth (index + n) := by
  induction n with
  | zero => simp
  | succ n ih =>
    have hsucc := firstOfMonth_succ (index + n)
    have hdays := (daysInMonth_bounds (yearFromGregorian ((index + n) / 12))
      ((index + n) % 12 + 1)).1
    rw [← monthDays] at hdays
    push_cast
    rw [← add_assoc, hsucc]
    omega

/-- A later month begins later. -/
theorem firstOfMonth_le_of_le {index index' : ℤ} (h : index ≤ index') :
    firstOfMonth index + 28 * (index' - index) ≤ firstOfMonth index' := by
  obtain ⟨n, rfl⟩ := Int.le.dest h
  have hn := firstOfMonth_add_le index n
  omega

/-- The Julian day of a date is that of the first day of its month and the days since. -/
theorem julianDay_eq {date : YearMonthDay} (hmonth : 1 ≤ date.month) (hmonth' : date.month ≤ 12) :
    julianDay date = firstOfMonth date.monthIndex + (date.day - 1) := by
  obtain ⟨year, month, day⟩ := date
  unfold julianDay firstOfMonth YearMonthDay.monthIndex
  dsimp only at *
  generalize yearToGregorian year = year
  have hyear : (12 * year + (month - 1) - 2 + 12 * 4800) / 12 =
      year + 4800 - (14 - month) / 12 := by omega
  have hmarch : (12 * year + (month - 1) - 2 + 12 * 4800) % 12 =
      month + 12 * ((14 - month) / 12) - 3 := by omega
  rw [hyear, hmarch]
  omega

theorem CenturyDay.julianDay_parts {date : CenturyDay} (h : date.IsValid) :
    QDate.julianDay date.parts = date.julianDay := by
  obtain ⟨hmonth, hmonth'⟩ := month_bounds h
  have hyear := h.year_nonneg
  have hyear' := h.year_le
  unfold QDate.julianDay CenturyDay.julianDay parts
  dsimp only
  rw [yearToGregorian_yearFromGregorian]
  have hshift : (14 - (date.month + 3 - 12 * (date.month / 10))) / 12 = date.month / 10 := by omega
  rw [hshift]
  have hsum : 100 * date.century + date.year - 4800 + date.month / 10 + 4800 - date.month / 10 =
      100 * date.century + date.year := by omega
  rw [hsum]
  have hfour : (100 * date.century + date.year) / 4 = 25 * date.century + date.year / 4 := by omega
  have hhundred : (100 * date.century + date.year) / 100 = date.century := by omega
  have hfourHundred : (100 * date.century + date.year) / 400 = date.century / 4 := by omega
  rw [hfour, hhundred, hfourHundred]
  omega

/-- The parts of a Julian day are those of this day. -/
theorem julianDay_partsOfJulianDay (jd : ℤ) : julianDay (partsOfJulianDay jd) = jd := by
  obtain ⟨hvalid, hjd⟩ := CenturyDay.isValid_ofJulianDay jd
  rw [← CenturyDay.parts_ofJulianDay, CenturyDay.julianDay_parts hvalid, hjd]

/-- The days of the month of a date. -/
theorem monthDays_monthIndex {date : YearMonthDay} (h : IsValidParts date) :
    monthDays date.monthIndex = daysInMonth date.year date.month := by
  obtain ⟨hyear, hmonth, hmonth', -, -⟩ := h
  unfold monthDays YearMonthDay.monthIndex
  have hdiv : (12 * yearToGregorian date.year + (date.month - 1)) / 12 =
      yearToGregorian date.year := by omega
  have hmod : (12 * yearToGregorian date.year + (date.month - 1)) % 12 + 1 = date.month := by omega
  rw [hdiv, hmod, yearFromGregorian_yearToGregorian hyear]

/-- A Julian day lies in the month that its parts say. -/
theorem partsOfJulianDay_mem (jd : ℤ) :
    firstOfMonth (partsOfJulianDay jd).monthIndex ≤ jd ∧
      jd < firstOfMonth ((partsOfJulianDay jd).monthIndex + 1) := by
  have hvalid := isValidParts_partsOfJulianDay jd
  have hsucc := firstOfMonth_succ (partsOfJulianDay jd).monthIndex
  rw [monthDays_monthIndex hvalid] at hsucc
  obtain ⟨-, hmonth, hmonth', hday, hday'⟩ := hvalid
  have heq := julianDay_eq hmonth hmonth'
  rw [julianDay_partsOfJulianDay] at heq
  omega

/-- The days of a month are those that lie in it. -/
theorem monthIndex_eq_iff (jd index : ℤ) :
    (partsOfJulianDay jd).monthIndex = index ↔
      firstOfMonth index ≤ jd ∧ jd < firstOfMonth (index + 1) := by
  obtain ⟨hfirst, hlast⟩ := partsOfJulianDay_mem jd
  constructor
  · rintro rfl
    exact ⟨hfirst, hlast⟩
  · rintro ⟨hfirst', hlast'⟩
    rcases lt_trichotomy (partsOfJulianDay jd).monthIndex index with hlt | heq | hgt
    · have hle := firstOfMonth_le_of_le (Int.add_one_le_of_lt hlt)
      omega
    · exact heq
    · have hle := firstOfMonth_le_of_le (Int.add_one_le_of_lt hgt)
      omega

/-! ## The month of a date -/

/-- The number of the month of a date in the sequence. -/
def monthIndex (date : QDate) : ℤ := date.parts.monthIndex

theorem isValidParts_parts {date : QDate} (h : date.isValid = true) : IsValidParts date.parts := by
  obtain ⟨_ | jd⟩ := date
  · cases h
  · exact isValidParts_partsOfJulianDay jd

/-- Two dates are of the same year and month exactly if the months are the same of the sequence. -/
theorem sameMonth_iff {date date' : QDate} (h : date.isValid = true) (h' : date'.isValid = true) :
    date.year = date'.year ∧ date.month = date'.month ↔ date.monthIndex = date'.monthIndex := by
  obtain ⟨hyear, hmonth, hmonth12, -, -⟩ := isValidParts_parts h
  obtain ⟨hyear', hmonth', hmonth12', -, -⟩ := isValidParts_parts h'
  unfold monthIndex YearMonthDay.monthIndex year month
  constructor
  · rintro ⟨hyears, hmonths⟩
    rw [hyears, hmonths]
  · intro hindex
    have hgregorian : yearToGregorian date.parts.year = yearToGregorian date'.parts.year := by omega
    have hyears := congrArg yearFromGregorian hgregorian
    rw [yearFromGregorian_yearToGregorian hyear, yearFromGregorian_yearToGregorian hyear'] at hyears
    exact ⟨hyears, by omega⟩

/-- The months of one number are those of one remainder. -/
theorem month_eq_iff {date date' : QDate} (h : date.isValid = true) (h' : date'.isValid = true) :
    date.month = date'.month ↔ date.monthIndex % 12 = date'.monthIndex % 12 := by
  obtain ⟨-, hmonth, hmonth12, -, -⟩ := isValidParts_parts h
  obtain ⟨-, hmonth', hmonth12', -, -⟩ := isValidParts_parts h'
  unfold monthIndex YearMonthDay.monthIndex month
  omega

/-- The first day of the month of a date. -/
theorem ofParts_first {date : QDate} (h : date.isValid = true) :
    ofParts date.year date.month 1 = ⟨some (firstOfMonth date.monthIndex)⟩ := by
  obtain ⟨hyear, hmonth, hmonth', -, -⟩ := isValidParts_parts h
  have hdays := (daysInMonth_bounds date.year date.month).1
  have hvalid : IsValidParts ⟨date.year, date.month, 1⟩ :=
    ⟨hyear, hmonth, hmonth', le_refl 1, by dsimp only; omega⟩
  have heq := julianDay_eq hvalid.2.1 hvalid.2.2.1
  rw [ofParts, if_pos hvalid, heq, sub_self, add_zero]
  rfl

end QDate

end DdeTrayLoader.Calendar
