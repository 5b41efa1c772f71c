import Mathlib.Algebra.Order.Ring.Int
import Mathlib.Data.Rat.Floor

/-!
# The remaining battery time

`PowerPlugin` reads the seconds until the battery is empty or full as a moment after 1970-01-01 in
UTC, and takes the hour and the minute of that moment, rounded up. So a duration is shown without
its whole days, and one that is nothing but whole days is not shown at all.
-/

namespace DdeTrayLoader.Power

/-! ## Texts -/

/-- The number after a percent sign and how many digits it has, at most two. -/
def readEscape : List Char → Option (ℕ × ℕ)
  | [] => none
  | [c] => if c.isDigit then some (c.toNat - 48, 1) else none
  | c :: d :: _ =>
    if c.isDigit then
      if d.isDigit then some (10 * (c.toNat - 48) + (d.toNat - 48), 2) else some (c.toNat - 48, 1)
    else none

/-- The lowest number after a percent sign. -/
def lowestEscape : List Char → Option ℕ
  | [] => none
  | c :: text =>
    if c = '%' then
      match readEscape text, lowestEscape text with
      | none, lowest => lowest
      | some (n, _), none => some n
      | some (n, _), some lowest => some (min n lowest)
    else lowestEscape text

/-- Write a value in place of a number, after skipping some characters. -/
def replaceEscape (n : ℕ) (value : List Char) : ℕ → List Char → List Char
  | _, [] => []
  | skip + 1, _ :: text => replaceEscape n value skip text
  | 0, c :: text =>
    if c = '%' then
      match readEscape text with
      | some (number, digits) =>
        if number = n then value ++ replaceEscape n value digits text
        else c :: replaceEscape n value 0 text
      | none => c :: replaceEscape n value 0 text
    else c :: replaceEscape n value 0 text

/-- `QString::arg`, for texts without the markers `%L1` of localized numbers. -/
def arg (text value : String) : String :=
  match lowestEscape text.toList with
  | none => text
  | some n => String.ofList (replaceEscape n value.toList 0 text.toList)

example :
    arg (arg "Capacity %1, %2 min remaining" "50%") "5" = "Capacity 50%, 5 min remaining" := by
  decide +kernel

/-! ## Durations as moments -/

/-- `QDateTime::fromSecsSinceEpoch`, in UTC. -/
structure Clock where
  /-- The second of the day of this second since 1970-01-01, if that is a moment. -/
  secondOfDay : ℤ → Option ℕ
  /-- The first day is one of moments. -/
  firstDay : ∀ secs : ℕ, secs < 86400 → secondOfDay secs = some secs
  /-- Every day has 86400 seconds. -/
  mod : ∀ secs second, secondOfDay secs = some second → (second : ℤ) = secs % 86400

variable (clock : Clock)

/-- The hour and the minute that are displayed. No text of a moment that is none is a number, so
its parts are 0. -/
def batteryTimeToDisplayData (time : UInt64) : ℕ × ℕ :=
  let timeTmp := (clock.secondOfDay time.toInt64.toInt).getD 0
  let hour := timeTmp / 3600
  let minute := timeTmp / 60 % 60
  let sencond := timeTmp % 60
  let minute := if 0 < sencond then minute + 1 else minute
  if minute = 60 then (hour + 1, 0) else (hour, minute)

/-- The minutes are less than an hour, and both parts are the seconds in minutes, rounded up. -/
def RoundsUp (time : UInt64) : Prop :=
  (batteryTimeToDisplayData clock time).2 < 60 ∧
    (batteryTimeToDisplayData clock time).1 * 60 + (batteryTimeToDisplayData clock time).2 =
      (time.toNat + 59) / 60

/-! ## The tips -/

/-- `BatteryState`; the service may report any number. -/
abbrev BatteryState := UInt32

namespace BatteryState

def UNKNOWN : BatteryState := 0
def CHARGING : BatteryState := 1
def DIS_CHARGING : BatteryState := 2
def NOT_CHARGED : BatteryState := 3
def FULLY_CHARGED : BatteryState := 4

end BatteryState

/-- `CHARGING_PROTECT_THRESHOLD_MAX`. -/
def CHARGING_PROTECT_THRESHOLD_MAX : ℤ := 100

/-- The members of `PowerPlugin` that the tips are made from, and the properties of the service. -/
structure PowerPlugin where
  m_showTimeToFull : Bool
  m_chargingProtectThreshold : ℤ
  /-- `m_batteryStateChangedTimer` is active. -/
  calculating : Bool
  batteryPercentage : ℚ
  batteryStatus : BatteryState
  batteryTimeToEmpty : UInt64
  batteryTimeToFull : UInt64

/-- The text of `m_tipsLabel`, and the percentage and the tips of the applet. -/
structure TipsData where
  tips : String
  value : String
  appletTips : String
  deriving DecidableEq, Repr

namespace PowerPlugin

variable (s : PowerPlugin)

/-- The percentage, as an unsigned number. -/
def percentage : ℕ := (min 100 (max 0 s.batteryPercentage)).floor.toNat

/-- The text of the percentage. -/
def value : String := arg "%1%" (toString s.percentage)

open BatteryState in
/-- What is shown, in the words of a translation. -/
def refreshTipsData (tr : String → String) : TipsData :=
  if s.calculating ∧ s.m_showTimeToFull ∧
      (s.batteryStatus = CHARGING ∨ s.batteryStatus = DIS_CHARGING) then
    ⟨arg (tr "Capacity %1 ...") s.value, s.value,
      if s.batteryStatus = CHARGING ∧ s.m_showTimeToFull then
        tr "Charging, calculating estimated charging time"
      else tr "Calculating remaining usage time"⟩
  else if s.batteryStatus = DIS_CHARGING ∨ s.batteryStatus = UNKNOWN then
    let hour := (batteryTimeToDisplayData clock s.batteryTimeToEmpty).1
    let min := (batteryTimeToDisplayData clock s.batteryTimeToEmpty).2
    if ¬s.m_showTimeToFull ∨ s.batteryTimeToEmpty = 0 ∨ (hour = 0 ∧ min = 0) then
      ⟨arg (tr "Capacity %1") s.value, s.value, ""⟩
    else if hour = 0 ∧ min ≠ 0 then
      ⟨arg (arg (tr "Capacity %1, %2 min remaining") s.value) (toString min), s.value,
        arg (tr "%1 min remaining") (toString min)⟩
    else if hour ≠ 0 ∧ min = 0 then
      ⟨arg (arg (tr "Capacity %1, %2 hr remaining") s.value) (toString hour), s.value,
        arg (tr "%1 hr remaining") (toString hour)⟩
    else
      ⟨arg (arg (arg (tr "Capacity %1, %2 hr %3 min remaining") s.value) (toString hour))
        (toString min), s.value,
        arg (arg (tr "%1 hr %2 min remaining") (toString hour)) (toString min)⟩
  else if s.batteryStatus = NOT_CHARGED then
    if (s.percentage : ℤ) < CHARGING_PROTECT_THRESHOLD_MAX ∧
        s.m_chargingProtectThreshold ≤ s.percentage then
      ⟨arg (tr "Capacity %1, charging protection active") s.value, s.value,
        tr "Charging protection active"⟩
    else ⟨arg (tr "Capacity %1, not charging") s.value, s.value, tr "Not charging"⟩
  else if s.batteryStatus = FULLY_CHARGED ∨ s.percentage = 100 then
    ⟨arg (tr "Capacity %1, fully charged") s.value, s.value, tr "Fully charged"⟩
  else
    let hour := (batteryTimeToDisplayData clock s.batteryTimeToFull).1
    let min := (batteryTimeToDisplayData clock s.batteryTimeToFull).2
    if ¬s.m_showTimeToFull then ⟨arg (tr "Charging %1") s.value, s.value, ""⟩
    else if s.batteryTimeToFull = 0 ∨ (hour = 0 ∧ min = 0) then
      ⟨arg (tr "Capacity %1 ...") s.value, s.value,
        tr "Charging, calculating estimated charging time"⟩
    else if hour = 0 ∧ min ≠ 0 then
      ⟨arg (arg (tr "Charging %1, %2 min until full") s.value) (toString min), s.value,
        arg (tr "Charging, %1 min until full") (toString min)⟩
    else if hour ≠ 0 ∧ min = 0 then
      ⟨arg (arg (tr "Charging %1, %2 hr until full") s.value) (toString hour), s.value,
        arg (tr "Charging, %1 hr until full") (toString hour)⟩
    else
      ⟨arg (arg (arg (tr "Charging %1, %2 hr %3 min until full") s.value) (toString hour))
        (toString min), s.value,
        arg (arg (tr "Charging, %1 hr %2 min until full") (toString hour)) (toString min)⟩

end PowerPlugin

/-! ## Which durations are displayed -/

/-- A day has its moments, which begin with its first second. -/
theorem Clock.secondOfDay_lt {secs : ℤ} {second : ℕ}
    (hsecond : clock.secondOfDay secs = some second) : second < 86400 := by
  have hmod := clock.mod secs second hsecond
  omega

theorem toInt_toInt64 {time : UInt64} (htime : time.toNat < 2 ^ 63) :
    time.toInt64.toInt = time.toNat := by
  rw [← Int64.toInt_toBitVec, UInt64.toBitVec_toInt64, BitVec.toInt_eq_toNat_of_lt]
  · rfl
  · change 2 * time.toNat < 2 ^ 64
    omega

/-- The second of the day that the display is made from. -/
def displayedSecond (time : UInt64) : ℕ := (clock.secondOfDay time.toInt64.toInt).getD 0

/-- The display is the second of the day, in minutes rounded up. -/
theorem batteryTimeToDisplayData_spec (time : UInt64) :
    (batteryTimeToDisplayData clock time).2 < 60 ∧
      (batteryTimeToDisplayData clock time).1 * 60 + (batteryTimeToDisplayData clock time).2 =
        (displayedSecond clock time + 59) / 60 := by
  unfold batteryTimeToDisplayData displayedSecond
  generalize (clock.secondOfDay time.toInt64.toInt).getD 0 = second
  dsimp only
  -- The seconds are carried to the minutes, and the minutes to the hours.
  split_ifs <;> constructor <;> dsimp only <;> omega

/-- Nothing is displayed exactly at the beginning of a day. -/
theorem batteryTimeToDisplayData_eq_zero_iff (time : UInt64) :
    (batteryTimeToDisplayData clock time).1 = 0 ∧ (batteryTimeToDisplayData clock time).2 = 0 ↔
      displayedSecond clock time = 0 := by
  obtain ⟨hlt, hsum⟩ := batteryTimeToDisplayData_spec clock time
  omega

/-- Within a day the display is made from the duration itself. -/
theorem displayedSecond_of_lt {time : UInt64} (htime : time.toNat < 86400) :
    displayedSecond clock time = time.toNat := by
  rw [displayedSecond, toInt_toInt64 (by omega), clock.firstDay _ htime, Option.getD_some]

/-- Whole days are left out. -/
theorem displayedSecond_cases (time : UInt64) :
    displayedSecond clock time = 0 ∨
      displayedSecond clock time < 86400 ∧
        (time.toNat < 2 ^ 63 → displayedSecond clock time = time.toNat % 86400) := by
  unfold displayedSecond
  cases hsecond : clock.secondOfDay time.toInt64.toInt with
  | none => exact .inl rfl
  | some second =>
    refine .inr ⟨clock.secondOfDay_lt hsecond, fun htime => ?_⟩
    have hmod := clock.mod _ second hsecond
    rw [toInt_toInt64 htime] at hmod
    change second = time.toNat % 86400
    omega

/-- The display is the duration rounded up exactly if the duration is less than a day. -/
theorem roundsUp_iff (time : UInt64) : RoundsUp clock time ↔ time.toNat < 86400 := by
  obtain ⟨hlt, hsum⟩ := batteryTimeToDisplayData_spec clock time
  unfold RoundsUp
  rw [hsum, and_iff_right hlt]
  constructor
  · intro heq
    by_contra hday
    rcases displayedSecond_cases clock time with hzero | ⟨hsecond, hmod⟩
    · omega
    · by_cases htime : time.toNat < 2 ^ 63
      · have hmod := hmod htime
        omega
      · omega
  · intro hday
    rw [displayedSecond_of_lt clock hday]

/-- The duration is none, or a moment that does not begin a day. -/
def Displayable (time : UInt64) : Prop :=
  time = 0 ∨ ∃ second ≠ 0, clock.secondOfDay time.toInt64.toInt = some second

/-- Of a duration something is displayed exactly if there is one, for those that are displayable. -/
theorem displayable_iff (time : UInt64) :
    (¬(time = 0 ∨ (batteryTimeToDisplayData clock time).1 = 0 ∧
        (batteryTimeToDisplayData clock time).2 = 0) ↔ 0 < time) ↔ Displayable clock time := by
  rw [batteryTimeToDisplayData_eq_zero_iff]
  unfold Displayable displayedSecond
  have hpos : 0 < time ↔ time ≠ 0 := by
    rw [UInt64.lt_iff_toNat_lt, Ne, ← UInt64.toNat_inj]
    exact Nat.pos_iff_ne_zero
  rw [hpos]
  by_cases hzero : time = 0
  · simp [hzero]
  · cases hsecond : clock.secondOfDay time.toInt64.toInt with
    | none => simp [hzero]
    | some second => simp [hzero]

/-! ## Which durations the tips show -/

/-- The texts of a time, which are one for minutes, one for hours and one for both. -/
def timeTexts (minutes hours both : TipsData) (hour min : ℕ) : TipsData :=
  if hour = 0 then minutes else if min = 0 then hours else both

/-- Of a time that is not nothing, the tests of `refreshTipsData` find the texts. -/
theorem timeTexts_of_ne {minutes hours both : TipsData} {hour min : ℕ}
    (htime : hour ≠ 0 ∨ min ≠ 0) :
    (if hour = 0 ∧ min ≠ 0 then minutes else if hour ≠ 0 ∧ min = 0 then hours else both) =
      timeTexts minutes hours both hour min := by
  unfold timeTexts
  by_cases hhour : hour = 0
  · have hmin : min ≠ 0 := htime.resolve_left (not_not.mpr hhour)
    rw [if_pos ⟨hhour, hmin⟩, if_pos hhour]
  · rw [if_neg fun h => hhour h.1, if_neg hhour]
    by_cases hmin : min = 0
    · rw [if_pos ⟨hhour, hmin⟩, if_pos hmin]
    · rw [if_neg fun h => hmin h.2, if_neg hmin]

/-- What is shown of a remaining time. -/
def remainingTexts (tr : String → String) (value : String) (hour min : ℕ) : TipsData :=
  timeTexts
    ⟨arg (arg (tr "Capacity %1, %2 min remaining") value) (toString min), value,
      arg (tr "%1 min remaining") (toString min)⟩
    ⟨arg (arg (tr "Capacity %1, %2 hr remaining") value) (toString hour), value,
      arg (tr "%1 hr remaining") (toString hour)⟩
    ⟨arg (arg (arg (tr "Capacity %1, %2 hr %3 min remaining") value) (toString hour))
      (toString min), value,
      arg (arg (tr "%1 hr %2 min remaining") (toString hour)) (toString min)⟩
    hour min

/-- What is shown of a time until the battery is full. -/
def untilFullTexts (tr : String → String) (value : String) (hour min : ℕ) : TipsData :=
  timeTexts
    ⟨arg (arg (tr "Charging %1, %2 min until full") value) (toString min), value,
      arg (tr "Charging, %1 min until full") (toString min)⟩
    ⟨arg (arg (tr "Charging %1, %2 hr until full") value) (toString hour), value,
      arg (tr "Charging, %1 hr until full") (toString hour)⟩
    ⟨arg (arg (arg (tr "Charging %1, %2 hr %3 min until full") value) (toString hour))
      (toString min), value,
      arg (arg (tr "Charging, %1 hr %2 min until full") (toString hour)) (toString min)⟩
    hour min

/-- If there is a time, it is shown as what it is converted to, which is not nothing; if there is
none, what is shown is without one. -/
def ShowsTime (shown : TipsData) (time : UInt64) (texts : ℕ → ℕ → TipsData)
    (without : TipsData) : Prop :=
  if 0 < time then
    ((batteryTimeToDisplayData clock time).1 ≠ 0 ∨ (batteryTimeToDisplayData clock time).2 ≠ 0) ∧
      shown = texts (batteryTimeToDisplayData clock time).1 (batteryTimeToDisplayData clock time).2
  else shown = without

/-- What shows a time unless it is nothing shows the times that are displayable. -/
theorem showsTime_iff {shown : TipsData} {time : UInt64} {texts : ℕ → ℕ → TipsData}
    {without : TipsData}
    (hnone : time = 0 → shown = without)
    (htime : time ≠ 0 →
      (batteryTimeToDisplayData clock time).1 ≠ 0 ∨ (batteryTimeToDisplayData clock time).2 ≠ 0 →
      shown =
        texts (batteryTimeToDisplayData clock time).1 (batteryTimeToDisplayData clock time).2) :
    ShowsTime clock shown time texts without ↔ Displayable clock time := by
  rw [← displayable_iff]
  unfold ShowsTime
  by_cases hzero : time = 0
  · have hpos : ¬0 < time := by
      rw [hzero]
      decide
    rw [if_neg hpos]
    exact iff_of_true (hnone hzero) (by simp [hzero])
  · have hpos : 0 < time := by
      rw [UInt64.lt_iff_toNat_lt]
      exact Nat.pos_of_ne_zero fun hnat => hzero (UInt64.toNat_inj.mp hnat)
    rw [if_pos hpos, iff_true_right hpos, not_or, not_and_or, and_iff_right hzero]
    exact and_iff_left_of_imp (htime hzero)

namespace PowerPlugin

variable (s : PowerPlugin) (tr : String → String)

open BatteryState

/-- With the display of times enabled and no delay, a remaining time is shown while discharging,
and a time to full while charging below full, exactly if the service reports one. -/
def ShowsTimes : Prop :=
  s.m_showTimeToFull = true → s.calculating = false →
    (s.batteryStatus = DIS_CHARGING →
      ShowsTime clock (s.refreshTipsData clock tr) s.batteryTimeToEmpty
        (remainingTexts tr s.value) ⟨arg (tr "Capacity %1") s.value, s.value, ""⟩) ∧
    (s.batteryStatus = CHARGING → s.percentage < 100 →
      ShowsTime clock (s.refreshTipsData clock tr) s.batteryTimeToFull
        (untilFullTexts tr s.value)
        ⟨arg (tr "Capacity %1 ...") s.value, s.value,
          tr "Charging, calculating estimated charging time"⟩)

/-- The times that would be shown are displayable. -/
def TimesDisplayable : Prop :=
  s.m_showTimeToFull = true → s.calculating = false →
    (s.batteryStatus = DIS_CHARGING → Displayable clock s.batteryTimeToEmpty) ∧
    (s.batteryStatus = CHARGING → s.percentage < 100 → Displayable clock s.batteryTimeToFull)

variable {s}

/-- While discharging, a remaining time is shown if it is displayable. -/
theorem showsTime_discharging (hshow : s.m_showTimeToFull = true)
    (hcalculating : s.calculating = false) (hstatus : s.batteryStatus = DIS_CHARGING) :
    ShowsTime clock (s.refreshTipsData clock tr) s.batteryTimeToEmpty (remainingTexts tr s.value)
        ⟨arg (tr "Capacity %1") s.value, s.value, ""⟩ ↔
      Displayable clock s.batteryTimeToEmpty := by
  unfold refreshTipsData
  rw [if_neg (by simp [hcalculating]), if_pos (.inl hstatus)]
  dsimp only
  refine showsTime_iff clock (fun hzero => ?_) fun hzero htime => ?_
  · rw [if_pos (.inr (.inl hzero))]
  · rw [if_neg (by simp only [hshow, hzero]; tauto)]
    exact timeTexts_of_ne htime

/-- While charging below full, a time to full is shown if it is displayable. -/
theorem showsTime_charging (hshow : s.m_showTimeToFull = true)
    (hcalculating : s.calculating = false) (hstatus : s.batteryStatus = CHARGING)
    (hpercentage : s.percentage < 100) :
    ShowsTime clock (s.refreshTipsData clock tr) s.batteryTimeToFull (untilFullTexts tr s.value)
        ⟨arg (tr "Capacity %1 ...") s.value, s.value,
          tr "Charging, calculating estimated charging time"⟩ ↔
      Displayable clock s.batteryTimeToFull := by
  have hnotDischarging : ¬(s.batteryStatus = DIS_CHARGING ∨ s.batteryStatus = UNKNOWN) := by
    rw [hstatus]
    decide
  have hnotNotCharged : ¬s.batteryStatus = NOT_CHARGED := by
    rw [hstatus]
    decide
  have hnotFull : ¬(s.batteryStatus = FULLY_CHARGED ∨ s.percentage = 100) := by
    rw [hstatus]
    rintro (hfull | hfull)
    · exact absurd hfull (by decide)
    · omega
  unfold refreshTipsData
  rw [if_neg (by simp [hcalculating]), if_neg hnotDischarging, if_neg hnotNotCharged,
    if_neg hnotFull]
  dsimp only
  rw [if_neg (by simp [hshow])]
  refine showsTime_iff clock (fun hzero => ?_) fun hzero htime => ?_
  · rw [if_pos (.inl hzero)]
  · rw [if_neg (by simp only [hzero]; tauto)]
    exact timeTexts_of_ne htime

variable (s)

/-- The display of a duration is right exactly for less than a day, and the tips show the times
that the service reports exactly if those are displayable. -/
theorem batteryTime_iff (time : UInt64) :
    (RoundsUp clock time ↔ time.toNat < 86400) ∧
      (s.ShowsTimes clock tr ↔ s.TimesDisplayable clock) := by
  refine ⟨roundsUp_iff clock time, ?_⟩
  unfold ShowsTimes TimesDisplayable
  refine imp_congr_right fun hshow => imp_congr_right fun hcalculating =>
    and_congr (imp_congr_right fun hstatus => ?_)
      (imp_congr_right fun hstatus => imp_congr_right fun hpercentage => ?_)
  · exact showsTime_discharging clock tr hshow hcalculating hstatus
  · exact showsTime_charging clock tr hshow hcalculating hstatus hpercentage

end PowerPlugin

/-- A clock of which every second is a moment. -/
def endlessClock : Clock where
  secondOfDay secs := some (secs % 86400).toNat
  firstDay secs hsecs := by
    rw [Int.emod_eq_of_lt (Int.natCast_nonneg secs) (by omega), Int.toNat_natCast]
  mod secs second hsecond := by
    rw [← Option.some.inj hsecond, Int.toNat_of_nonneg (Int.emod_nonneg secs (by decide))]

/-- A battery that lasts one day is shown without a remaining time, and the day as no minute. -/
theorem not_batteryTime_oneDay :
    ¬RoundsUp endlessClock 86400 ∧
      ¬PowerPlugin.ShowsTimes endlessClock
        ⟨true, 80, false, 50, BatteryState.DIS_CHARGING, 86400, 0⟩ id := by
  constructor
  · rintro ⟨-, hsum⟩
    revert hsum
    decide +kernel
  · intro hshows
    have htime := (hshows rfl rfl).1 rfl
    unfold ShowsTime at htime
    rw [if_pos (by decide)] at htime
    revert htime
    decide +kernel

end DdeTrayLoader.Power
