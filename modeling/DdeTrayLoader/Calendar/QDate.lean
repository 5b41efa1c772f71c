import Mathlib.Algebra.Order.Ring.Int

/-!
# Dates

A `QDate` is a Julian day, or no date. Its year, month and day are those of the proleptic Gregorian
calendar, which has no year 0.
-/

namespace DdeTrayLoader.Calendar

/-- A date; `none` is the null date. -/
structure QDate where
  jd : Option ℤ
  deriving DecidableEq, Repr

namespace QDate

/-- Year, month and day. -/
structure YearMonthDay where
  year : ℤ
  month : ℤ
  day : ℤ
  deriving DecidableEq, Repr

/-- The parts of the null date. -/
def YearMonthDay.null : YearMonthDay := ⟨0, 0, 0⟩

/-- Years are counted without a year 0; the Gregorian rules count with one. -/
def yearToGregorian (year : ℤ) : ℤ := if year < 0 then year + 1 else year

def yearFromGregorian (year : ℤ) : ℤ := if year ≤ 0 then year - 1 else year

def isLeapYear (year : ℤ) : Bool :=
  yearToGregorian year % 4 == 0 &&
    (yearToGregorian year % 100 != 0 || yearToGregorian year % 400 == 0)

/-- The number of days of a month of a year. -/
def daysInMonth (year month : ℤ) : ℤ :=
  if month = 2 then if isLeapYear year then 29 else 28
  else if month = 4 ∨ month = 6 ∨ month = 9 ∨ month = 11 then 30 else 31

/-- `julianDayFromDate`. -/
def julianDay (date : YearMonthDay) : ℤ :=
  let a := (14 - date.month) / 12
  let y := yearToGregorian date.year + 4800 - a
  let m := date.month + 12 * a - 3
  date.day + (153 * m + 2) / 5 + 365 * y + y / 4 - y / 100 + y / 400 - 32045

/-- `getDateFromJulianDay`. -/
def partsOfJulianDay (jd : ℤ) : YearMonthDay :=
  let a := jd + 32044
  let b := (4 * a + 3) / 146097
  let c := a - 146097 * b / 4
  let d := (4 * c + 3) / 1461
  let e := c - 1461 * d / 4
  let m := (5 * e + 2) / 153
  { year := yearFromGregorian (100 * b + d - 4800 + m / 10)
    month := m + 3 - 12 * (m / 10)
    day := e - (153 * m + 2) / 5 + 1 }

/-- `QDate::isValid` of a year, a month and a day. -/
def IsValidParts (date : YearMonthDay) : Prop :=
  date.year ≠ 0 ∧ 1 ≤ date.month ∧ date.month ≤ 12 ∧ 1 ≤ date.day ∧
    date.day ≤ daysInMonth date.year date.month

instance (date : YearMonthDay) : Decidable (IsValidParts date) :=
  inferInstanceAs (Decidable (_ ∧ _))

/-- `QDate()`. -/
def null : QDate := ⟨none⟩

/-- `QDate(year, month, day)`. -/
def ofParts (year month day : ℤ) : QDate :=
  if IsValidParts ⟨year, month, day⟩ then ⟨some (julianDay ⟨year, month, day⟩)⟩ else null

def isValid (date : QDate) : Bool := date.jd.isSome

/-- `getDate`. -/
def parts (date : QDate) : YearMonthDay :=
  match date.jd with
  | some jd => partsOfJulianDay jd
  | none => .null

def year (date : QDate) : ℤ := date.parts.year

def month (date : QDate) : ℤ := date.parts.month

def day (date : QDate) : ℤ := date.parts.day

/-- Monday is 1 and Sunday is 7; the null date has none. -/
def dayOfWeek (date : QDate) : ℤ :=
  match date.jd with
  | some jd => jd % 7 + 1
  | none => 0

def addDays (date : QDate) (ndays : ℤ) : QDate := ⟨date.jd.map (· + ndays)⟩

/-- The same day of another month, or that month's last day. -/
def addMonths (date : QDate) (nmonths : ℤ) : QDate :=
  if date.isValid then
    let months := 12 * yearToGregorian date.year + (date.month - 1) + nmonths
    let year := yearFromGregorian (months / 12)
    let month := months % 12 + 1
    ofParts year month (min date.day (daysInMonth year month))
  else null

@[simp] theorem dayOfWeek_null : null.dayOfWeek = 0 := rfl

/-- A date that is not valid is the null date. -/
theorem eq_null_of_not_isValid {date : QDate} (h : date.isValid = false) : date = null := by
  cases date with
  | mk jd =>
    cases jd with
    | none => rfl
    | some jd => simp [isValid] at h

end QDate

/-- `withinTimeFrame`. -/
def withinTimeFrame (date : QDate) : Bool :=
  date.isValid && (1900 ≤ date.year && date.year ≤ 2100)

end DdeTrayLoader.Calendar
