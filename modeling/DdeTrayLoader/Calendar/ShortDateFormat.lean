import DdeTrayLoader.Calendar.RegionFormat
import DdeTrayLoader.Lists.Ends

/-!
# Trimming the short date format

The format is checked to be not empty once, and then a UTF-16 unit is looked at on its left and one
on its right, and removed if it is no letter. A format of one unit that is no letter is empty when
the second one is looked at, and of a longer separator all but one unit stays.
-/

namespace DdeTrayLoader.Calendar

open Qt DdeTrayLoader.Lists

namespace RegionFormat

variable (L : Locale)

/-- `setShortDateFormat`, where `none` is a run that indexes an empty string: `at(0)` and
`remove(0, 1)` are `stripFirst`, and `at(length() - 1)` and `chop(1)` are `stripLast`. -/
def setShortDateFormat? (s : RegionFormat) (position : UInt32) (newShortDateFormat : QString) :
    Option (RegionFormat × Bool) :=
  let s := { s with m_originShortDateFormat := newShortDateFormat }
  let format := removeYear position newShortDateFormat
  if format.isEmpty then some (s, false)
  else do
    let format ← stripFirst L.isLetter format
    let format ← stripLast L.isLetter format
    if s.shortDateFormat = format then some (s, false)
    else some ({ s with shortDateFormat := format }, true)

/-- What a new format that the dock shows should be: it begins and ends with a letter, it shows no
year where the dock is vertical, and the configured format has, besides, only years there and other
units than letters around it. -/
structure ShownRight (position : UInt32) (newShortDateFormat shown : QString) : Prop where
  ne_nil : shown ≠ []
  ends : KeptEnds L.isLetter shown
  noYear : position = 1 ∨ position = 3 → latin1 'y' ∉ shown ∧ latin1 'Y' ∉ shown
  between : ∃ before after, removeYear position newShortDateFormat = before ++ shown ++ after ∧
    ∀ c ∈ before ++ after, L.isLetter c = false

/-- No empty string is indexed, and a new format that the dock shows is as it should be. -/
def TrimsRight (s : RegionFormat) (position : UInt32) (newShortDateFormat : QString) : Prop :=
  ∃ result, s.setShortDateFormat? L position newShortDateFormat = some result ∧
    (result.1.shortDateFormat ≠ s.shortDateFormat →
      ShownRight L position newShortDateFormat result.1.shortDateFormat)

/-- Nothing is left without the years, or a letter is among the first two units left and among the
last two, or the format that the dock shows already is what is left between the ends. -/
def Trimmable (s : RegionFormat) (position : UInt32) (newShortDateFormat : QString) : Prop :=
  removeYear position newShortDateFormat = [] ∨
    KeptNearEnds L.isLetter (removeYear position newShortDateFormat) ∨
    Stripped L.isLetter (removeYear position newShortDateFormat) s.shortDateFormat

/-- A vertical dock shows no year. -/
theorem not_mem_removeYear {position : UInt32} (hposition : position = 1 ∨ position = 3)
    (format : QString) :
    latin1 'y' ∉ removeYear position format ∧ latin1 'Y' ∉ removeYear position format := by
  rcases hposition with rfl | rfl <;> simp [removeYear]

variable {L}

theorem setShortDateFormat?_of_nil (s : RegionFormat) {position : UInt32} {format : QString}
    (hnil : removeYear position format = []) :
    s.setShortDateFormat? L position format =
      some ({ s with m_originShortDateFormat := format }, false) := by
  simp [setShortDateFormat?, hnil]

/-- What is left of the format is stripped at its ends. -/
theorem setShortDateFormat?_of_ne_nil (s : RegionFormat) {position : UInt32} {format : QString}
    (hne : removeYear position format ≠ []) :
    s.setShortDateFormat? L position format =
      (stripEnds L.isLetter (removeYear position format)).map fun shown =>
        if s.shortDateFormat = shown then ({ s with m_originShortDateFormat := format }, false)
        else ({ s with m_originShortDateFormat := format, shortDateFormat := shown }, true) := by
  have hempty : (removeYear position format).isEmpty = false := by simpa using hne
  unfold setShortDateFormat? stripEnds
  simp only [hempty]
  cases stripFirst L.isLetter (removeYear position format) with
  | none => rfl
  | some first =>
    cases hlast : stripLast L.isLetter first with
    | none => simp [hlast]
    | some shown =>
      by_cases heq : s.shortDateFormat = shown <;> simp [hlast, heq]

/-- Where there are units to look at, the helpers of `setShortDateFormat` strip the ends. -/
theorem chopLast_removeFirst {format shown : QString}
    (hshown : stripEnds L.isLetter format = some shown) :
    chopLast L.isLetter (removeFirst L.isLetter format) = shown := by
  cases format with
  | nil => cases hshown
  | cons c format =>
    change stripLast L.isLetter (removeFirst L.isLetter (c :: format)) = some shown at hshown
    unfold stripLast at hshown
    unfold chopLast
    cases hlast : (removeFirst L.isLetter (c :: format)).getLast? with
    | none => simp [hlast] at hshown
    | some d => simpa [hlast] using hshown

/-- Where no empty string is indexed, the run is that of `setShortDateFormat`. -/
theorem setShortDateFormat_of_some (s : RegionFormat) {position : UInt32} {format : QString}
    {result : RegionFormat × Bool}
    (hresult : s.setShortDateFormat? L position format = some result) :
    s.setShortDateFormat L position format = result := by
  unfold setShortDateFormat shownFormat
  cases hyear : removeYear position format with
  | nil =>
    rw [setShortDateFormat?_of_nil s hyear] at hresult
    exact Option.some.inj hresult
  | cons c rest =>
    rw [setShortDateFormat?_of_ne_nil s (by simp [hyear]), hyear] at hresult
    obtain ⟨shown, hshown, heq⟩ := Option.map_eq_some_iff.mp hresult
    dsimp only
    rw [chopLast_removeFirst hshown]
    exact heq

/-- What stripping the ends leaves is as it should be exactly if there is a letter near each end. -/
theorem shownRight_iff {position : UInt32} {format shown : QString}
    (hshown : stripEnds L.isLetter (removeYear position format) = some shown) :
    ShownRight L position format shown ↔ KeptNearEnds L.isLetter (removeYear position format) := by
  rw [← keptEnds_iff hshown]
  obtain ⟨before, after, heq, -, -, hnot, -, -⟩ := stripped_of_stripEnds hshown
  constructor
  · exact ShownRight.ends
  · intro hends
    refine ⟨?_, hends, fun hposition => ?_, before, after, heq, hnot⟩
    · rintro rfl
      obtain ⟨c, hc, -⟩ := hends.1
      cases hc
    · obtain ⟨hy, hY⟩ := not_mem_removeYear hposition format
      rw [heq] at hy hY
      exact ⟨fun h => hy (by simp [h]), fun h => hY (by simp [h])⟩

variable (L)

/-- The trimming is right exactly for the formats that are trimmable. -/
theorem trimsRight_iff (s : RegionFormat) (position : UInt32) (format : QString) :
    s.TrimsRight L position format ↔ s.Trimmable L position format := by
  unfold TrimsRight Trimmable
  by_cases hnil : removeYear position format = []
  · rw [setShortDateFormat?_of_nil s hnil]
    exact ⟨fun _ => .inl hnil, fun _ => ⟨_, rfl, fun hne => absurd rfl hne⟩⟩
  · rw [setShortDateFormat?_of_ne_nil s hnil, ← stripEnds_eq_some_iff hnil]
    cases hstrip : stripEnds L.isLetter (removeYear position format) with
    | none =>
      obtain hempty | ⟨c, hc, hletter⟩ := stripEnds_eq_none_iff.mp hstrip
      · exact absurd hempty hnil
      · simp [hc, hletter, KeptNearEnds]
    | some shown =>
      rw [Option.map_some]
      by_cases heq : s.shortDateFormat = shown
      · rw [if_pos heq, heq]
        exact ⟨fun _ => .inr (.inr rfl), fun _ => ⟨_, rfl, fun hne => absurd rfl hne⟩⟩
      · rw [if_neg heq, ← shownRight_iff hstrip]
        constructor
        · rintro ⟨result, hresult, hright⟩
          cases hresult
          exact .inr (.inl (hright (Ne.symm heq)))
        · rintro (hempty | hright | hsame)
          · exact absurd hempty hnil
          · exact ⟨_, rfl, fun _ => hright⟩
          · exact absurd (Option.some.inj hsame).symm heq

/-- A format that begins with a character of two units keeps half of it, which is no letter. -/
theorem not_keptNearEnds_of_pair {c : Char} (hc : 0x10000 ≤ c.toNat) (rest : QString) :
    ¬KeptNearEnds L.isLetter (charUnits c ++ rest) := by
  rintro ⟨⟨unit, hunit, hletter⟩, -⟩
  have hvalid := toNat_valid c
  have hsurrogate (n : ℕ) (hle : 0xD800 ≤ n) (hlt : n ≤ 0xDFFF) :
      L.isLetter (UInt16.ofNat n) = false := by
    have hnat : (UInt16.ofNat n).toNat = n := UInt16.toNat_ofNat_of_lt' (show n < 65536 by omega)
    refine L.isLetter_surrogate _ ?_ ?_
    · rw [UInt16.le_iff_toNat_le, hnat]
      exact hle
    · rw [UInt16.le_iff_toNat_le, hnat]
      exact hlt
  unfold charUnits at hunit
  rw [if_neg (by omega)] at hunit
  simp only [List.cons_append, List.nil_append, List.take_succ_cons, List.take_zero,
    List.mem_cons, List.not_mem_nil, or_false] at hunit
  rcases hunit with rfl | rfl
  · rw [hsurrogate _ (by omega) (by omega)] at hletter
    cases hletter
  · rw [hsurrogate _ (by omega) (by omega)] at hletter
    cases hletter

/-- The Korean short date format. -/
def koreanFormat : QString := utf16 "yy. M. d."

/-- On the left, the Korean format is shown with a space in front of the month. -/
theorem not_trimsRight_korean :
    ¬TrimsRight plainLocale ⟨[], [], ⟨true, koreanFormat, false⟩⟩ 3 koreanFormat := by
  rintro ⟨result, hresult, hright⟩
  have hshown : setShortDateFormat? plainLocale ⟨[], [], ⟨true, koreanFormat, false⟩⟩ 3
      koreanFormat =
        some (⟨utf16 " M. d", koreanFormat, ⟨true, koreanFormat, false⟩⟩, true) := by
    decide +kernel
  cases hshown.symm.trans hresult
  obtain ⟨c, hc, hletter⟩ := (hright (by decide)).ends.1
  cases hc
  revert hletter
  decide

end RegionFormat

end DdeTrayLoader.Calendar
