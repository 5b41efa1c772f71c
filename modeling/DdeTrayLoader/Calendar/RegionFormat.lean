import DdeTrayLoader.Calendar.QDate
import DdeTrayLoader.Qt.QString

/-!
# The short date format

`RegionFormat` keeps the configured short date format, and with it the format that the dock shows:
without the year where the dock is vertical, and without a separator at either end. It announces a
change of the latter only. A format is read and cut by its UTF-16 units.
-/

namespace DdeTrayLoader.Calendar

open Qt

/-- What the translations and the system's locale make of dates and texts. -/
structure Locale where
  /-- The language is English. -/
  english : Bool
  tr : String → String
  /-- `QChar::isLetter`. -/
  isLetter : QChar → Bool
  /-- A surrogate is half a character, and no letter. -/
  isLetter_surrogate : ∀ c : QChar, 0xD800 ≤ c → c ≤ 0xDFFF → isLetter c = false
  /-- `QDate::toString`. -/
  toString : QDate → QString → QString
  toString_null : ∀ format, toString .null format = []
  /-- The short date format of the locale. -/
  shortFormat : QString

/-- The letters of ASCII. -/
def isAsciiLetter (c : QChar) : Bool :=
  (latin1 'A' ≤ c && c ≤ latin1 'Z') || (latin1 'a' ≤ c && c ≤ latin1 'z')

theorem isAsciiLetter_surrogate (c : QChar) (hle : 0xD800 ≤ c) (_ : c ≤ 0xDFFF) :
    isAsciiLetter c = false := by
  have habove {d : QChar} (hd : d < 0xD800) : ¬c ≤ d := by
    intro hcd
    rw [UInt16.le_iff_toNat_le] at hle hcd
    rw [UInt16.lt_iff_toNat_lt] at hd
    omega
  simp [isAsciiLetter, habove (show latin1 'Z' < 0xD800 by decide),
    habove (show latin1 'z' < 0xD800 by decide)]

/-- A locale without translations, whose dates are written as year, month and day. -/
def plainLocale : Locale where
  english := false
  tr := id
  isLetter := isAsciiLetter
  isLetter_surrogate := isAsciiLetter_surrogate
  toString date format :=
    if date.isValid && format == utf16 "yyyy/M/d" then
      utf16 s!"{date.year}/{date.month}/{date.day}"
    else []
  toString_null _ := rfl
  shortFormat := utf16 "yyyy/M/d"

/-- The entry `shortDateFormat` of the configuration `org.deepin.region-format`. -/
structure ShortDateEntry where
  /-- The configuration itself is valid. -/
  isValid : Bool
  value : QString
  isDefaultValue : Bool
  deriving DecidableEq, Repr

/-- The members of `RegionFormat` for the short date format. -/
structure RegionFormat where
  shortDateFormat : QString
  m_originShortDateFormat : QString
  m_config : ShortDateEntry
  deriving DecidableEq, Repr

namespace RegionFormat

variable (L : Locale)

/-- A dock on the left or on the right shows no year; `Dock::Top` is 0 and `Dock::Bottom` is 2. -/
def removeYear (position : UInt32) (format : QString) : QString :=
  if position = 0 ∨ position = 2 then format
  else format.filter fun c => c != latin1 'y' && c != latin1 'Y'

/-- Remove the first unit if it is not a letter. -/
def removeFirst (isLetter : QChar → Bool) : QString → QString
  | [] => []
  | c :: format => if isLetter c then c :: format else format

/-- Chop the last unit if it is not a letter; nothing can be chopped from an empty format. -/
def chopLast (isLetter : QChar → Bool) (format : QString) : QString :=
  match format.getLast? with
  | none => format
  | some c => if isLetter c then format else format.dropLast

/-- The format that the dock shows, if anything is left of the configured one. -/
def shownFormat (position : UInt32) (newShortDateFormat : QString) : Option (QString) :=
  match removeYear position newShortDateFormat with
  | [] => none
  | format => some (chopLast L.isLetter (removeFirst L.isLetter format))

/-- `setShortDateFormat` announces this format. -/
def announces (s : RegionFormat) (position : UInt32) (newShortDateFormat : QString) : Bool :=
  match shownFormat L position newShortDateFormat with
  | none => false
  | some format => s.shortDateFormat != format

/-- The second component says whether `shortDateFormatChanged` is emitted. -/
def setShortDateFormat (s : RegionFormat) (position : UInt32) (newShortDateFormat : QString) :
    RegionFormat × Bool :=
  let s := { s with m_originShortDateFormat := newShortDateFormat }
  match shownFormat L position newShortDateFormat with
  | none => (s, false)
  | some format =>
    if s.shortDateFormat = format then (s, false)
    else ({ s with shortDateFormat := format }, true)

/-- The configured format, or that of the locale. -/
def configured (s : RegionFormat) : QString :=
  if s.m_config.isDefaultValue then L.shortFormat else s.m_config.value

/-- The constructor, with `initData`. -/
def create (position : UInt32) (config : ShortDateEntry) : RegionFormat :=
  let s : RegionFormat := ⟨[], [], config⟩
  if config.isValid then (s.setShortDateFormat L position (s.configured L)).1 else s

/-- The entry of the configuration is changed. -/
def setConfig (s : RegionFormat) (value : QString) (isDefaultValue : Bool) : RegionFormat :=
  { s with m_config := { s.m_config with value := value, isDefaultValue := isDefaultValue } }

/-- `DConfig::valueChanged` of the entry. -/
def valueChanged (s : RegionFormat) (position : UInt32) (value : QString)
    (isDefaultValue : Bool) : RegionFormat × Bool :=
  (s.setConfig value isDefaultValue).setShortDateFormat L position value

def onDockPositionChanged (s : RegionFormat) (position : UInt32) : RegionFormat × Bool :=
  s.setShortDateFormat L position (s.configured L)

/-- The configured format is stored in any case. -/
@[simp] theorem setShortDateFormat_origin (s : RegionFormat) (position : UInt32)
    (format : QString) :
    (s.setShortDateFormat L position format).1.m_originShortDateFormat = format := by
  unfold setShortDateFormat
  dsimp only
  split
  · rfl
  · split_ifs <;> rfl

/-- The signal is emitted when the format that the dock shows changes. -/
@[simp] theorem setShortDateFormat_emits (s : RegionFormat) (position : UInt32)
    (format : QString) :
    (s.setShortDateFormat L position format).2 = s.announces L position format := by
  unfold setShortDateFormat announces
  dsimp only
  split
  · rfl
  · rename_i shown hshown
    by_cases heq : s.shortDateFormat = shown <;> simp [heq]

/-- Changing the entry does not change what is announced. -/
@[simp] theorem announces_setConfig (s : RegionFormat) (value : QString) (isDefaultValue : Bool)
    (position : UInt32) (format : QString) :
    (s.setConfig value isDefaultValue).announces L position format =
      s.announces L position format := rfl

end RegionFormat

end DdeTrayLoader.Calendar
