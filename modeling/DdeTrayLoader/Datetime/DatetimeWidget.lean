import DdeTrayLoader.Lists.Buckets
import DdeTrayLoader.Numbers.Double
import DdeTrayLoader.Transition.Run
import Mathlib.Algebra.Order.Ring.Int

/-!
# The clock of the dock

`DatetimeWidget` shows the time and the date in two lines, or in one where the dock is thin. The
fonts and the arrangement are made from the dock's size, its position, its mode and the ratio of
its pixels, but a change of the ratio renews the fonts alone. The size is divided by the ratio as a
double is.
-/

namespace DdeTrayLoader.Datetime

open Transition DdeTrayLoader.Lists DdeTrayLoader.Numbers

/-! ## The widget -/

/-- A size of the dock; a smaller one is that of an animation. -/
structure PanelSize where
  width : ℤ
  height : ℤ
  width_ge : 37 ≤ width
  height_ge : 37 ≤ height
  deriving DecidableEq

/-- Device pixels to one of the dock's, which is a double. -/
structure PixelRatio where
  ratio : ℚ
  ratio_pos : 0 < ratio
  isDouble : IsDouble ratio
  deriving DecidableEq

/-- A ratio of so many pixels. -/
def PixelRatio.ofNat (n : ℕ) (hpos : 0 < n) (hlt : n < 2 ^ 53) : PixelRatio :=
  ⟨n, Nat.cast_pos.mpr hpos, n, 0, hlt, by decide, by decide, by rw [zpow_zero, mul_one]⟩

/-- `QBoxLayout::Direction`. -/
inductive Direction where
  | LeftToRight
  | TopToBottom
  deriving DecidableEq, Repr

/-- The pixel sizes of the fonts of the two labels; the label of AM and PM has that of the time. -/
structure Fonts where
  time : ℤ
  date : ℤ
  deriving DecidableEq, Repr

/-- The members of `DatetimeWidget` for its layout, and the properties it reads. -/
structure DatetimeWidget where
  /-- The application's property `Position`. -/
  position : UInt32
  devicePixelRatioF : PixelRatio
  /-- `RegionFormat::is24HourFormat`. -/
  is24HourFormat : Bool
  m_24HourFormat : Bool
  m_singleLineLayout : Bool
  m_fashionMode : Bool
  m_weekdayFormatType : ℤ
  m_dockSize : PanelSize
  /-- The spacer and the label of AM and PM are visible. -/
  apVisible : Bool
  direction : Direction
  spacing : ℤ
  fonts : Fonts
  /-- The top margin of the label of the time. -/
  timeMargin : ℤ
  /-- The top margin of the label of the date. -/
  dateMargin : ℤ
  /-- The callbacks of `dockPositionChanged` that are delayed. -/
  delayedCallbacks : ℕ
  deriving DecidableEq

namespace DatetimeWidget

variable (s : DatetimeWidget)

/-- The dock is on the left or on the right; `Dock::Right` is 1 and `Dock::Left` is 3. -/
def isVertical : Bool := s.position == 3 || s.position == 1

/-- The dock's width if it is vertical, else its height. -/
def dockLength : ℤ := if s.isVertical then s.m_dockSize.width else s.m_dockSize.height

/-- The dock's length in its own pixels. -/
def thickness : ℚ := s.dockLength / s.devicePixelRatioF.ratio

/-- The dock's length in its own pixels as a double, cut to an integer. -/
def validDistance : ℤ := ⌊roundDouble s.thickness⌋

/-- `DOCK_ITEM_VERTICAL_MARGIN`. -/
def DOCK_ITEM_VERTICAL_MARGIN : ℤ := 2

/-- `SINGLE_LINE_MAX_AVAILABLE_HEIGHT`. -/
def SINGLE_LINE_MAX_AVAILABLE_HEIGHT : ℤ := 36

/-- `SINGLE_LINE_SPACING`. -/
def SINGLE_LINE_SPACING : ℤ := 4

/-- `qRound` of a double that is not negative. -/
def qRound (d : ℚ) : ℤ := ⌊roundDouble (d + 1 / 2)⌋

/-- The dock's length in its own pixels, rounded, without the margins. -/
def availableHeight : ℤ :=
  max 0 (qRound (roundDouble s.thickness) - DOCK_ITEM_VERTICAL_MARGIN * 2)

/-- `Dock::Top` is 0 and `Dock::Bottom` is 2. -/
def shouldUseSingleLine : Bool :=
  s.m_fashionMode && (s.position == 0 || s.position == 2) &&
    s.availableHeight ≤ SINGLE_LINE_MAX_AVAILABLE_HEIGHT

/-! ## Fonts and layout -/

/-- `MAX_DISTANCE`. -/
def MAX_DISTANCE : ℤ := 999

/-- The fonts from a distance on. -/
def fontSizeMap : List (ℤ × Fonts) :=
  [(0, ⟨13, 10⟩), (37, ⟨13, 10⟩), (40, ⟨14, 10⟩), (43, ⟨14, 10⟩), (46, ⟨15, 11⟩), (49, ⟨16, 11⟩),
    (52, ⟨17, 12⟩), (55, ⟨18, 12⟩), (58, ⟨19, 13⟩), (61, ⟨20, 14⟩), (MAX_DISTANCE, ⟨20, 14⟩)]

section Metrics

-- How far a font of some pixel size goes above its baseline, less how far below.
variable (metrics : ℤ → ℤ)

/-- In one line, the label with the smaller font is lowered to the baseline of the other. -/
def alignSingleLineBaseline : DatetimeWidget :=
  let delta := metrics s.fonts.time - metrics s.fonts.date
  { s with
    timeMargin := if s.m_singleLineLayout ∧ delta < 0 then -delta else 0
    dateMargin := if s.m_singleLineLayout ∧ 0 < delta then delta else 0 }

/-- The fonts of the bucket that is found. Where none is, the assertion is not compiled in, and a
font refuses the pixel size 0. -/
def adjustFontSize : DatetimeWidget :=
  if MAX_DISTANCE < s.validDistance then s
  else
    match findBucket s.validDistance fontSizeMap with
    | some fonts => alignSingleLineBaseline { s with fonts := fonts } metrics
    | none => alignSingleLineBaseline s metrics

/-- Change between one line and two, if it is time to. -/
def adjustLayout : DatetimeWidget :=
  let singleLine := s.shouldUseSingleLine
  if s.m_singleLineLayout = singleLine then s
  else
    alignSingleLineBaseline
      { s with
        m_singleLineLayout := singleLine
        direction := if singleLine then .LeftToRight else .TopToBottom
        spacing := if singleLine then SINGLE_LINE_SPACING else 0 }
      metrics

/-- A vertical dock shows AM and PM apart. -/
def adjustUI : DatetimeWidget := { s with apVisible := s.isVertical && !s.m_24HourFormat }

/-! ## Events -/

def updateDateTime : DatetimeWidget :=
  adjustLayout (adjustUI { s with m_24HourFormat := s.is24HourFormat }) metrics

/-- A size of the dock is ignored while it is an animation's. -/
def setDockPanelSize (width height : ℤ) : DatetimeWidget :=
  if h : 37 ≤ width ∧ 37 ≤ height then
    let dockSize : PanelSize := ⟨width, height, h.1, h.2⟩
    if s.m_dockSize ≠ dockSize then
      adjustLayout (adjustFontSize { s with m_dockSize := dockSize } metrics) metrics
    else s
  else s

def setFashionMode (fashionMode : Bool) : DatetimeWidget :=
  if s.m_fashionMode = fashionMode then s
  else adjustLayout { s with m_fashionMode := fashionMode } metrics

/-- The update is repeated once the change of the position is complete. -/
def dockPositionChanged : DatetimeWidget :=
  adjustLayout (adjustUI { s with delayedCallbacks := s.delayedCallbacks + 1 }) metrics

/-- What `dockPositionChanged` delays. -/
def delayedCallback : DatetimeWidget :=
  match s.delayedCallbacks with
  | 0 => s
  | n + 1 => adjustFontSize (updateDateTime { s with delayedCallbacks := n } metrics) metrics

/-- What the widget is told. -/
inductive Event where
  | dockPanelSize (width height : ℤ)
  | dockFashionMode (fashionMode : Bool)
  /-- The dock's position changes; the format of dates may change with it, which is announced. -/
  | dockPosition (position : UInt32) (announced : Bool)
  | devicePixelRatioChange (ratio : PixelRatio)
  /-- A format of dates or times changes. -/
  | regionFormat (is24HourFormat : Bool)
  /-- The entry of the menu; the change of the format follows. -/
  | set24HourFormat (value : Bool)
  | weekdayFormat (type : ℤ)
  | delayedCallback

/-- The widget after an event. -/
def step (s : DatetimeWidget) : Event → DatetimeWidget
  | .dockPanelSize width height => s.setDockPanelSize metrics width height
  | .dockFashionMode fashionMode => s.setFashionMode metrics fashionMode
  | .dockPosition position announced =>
    let s := { s with position := position }
    dockPositionChanged (if announced then s.updateDateTime metrics else s) metrics
  | .devicePixelRatioChange ratio => adjustFontSize { s with devicePixelRatioF := ratio } metrics
  | .regionFormat is24HourFormat =>
    updateDateTime { s with is24HourFormat := is24HourFormat } metrics
  | .set24HourFormat value => { s with m_24HourFormat := value }
  | .weekdayFormat type => { s with m_weekdayFormatType := type }
  | .delayedCallback => s.delayedCallback metrics

/-- The widget at the beginning of its constructor, with the fonts that labels begin with. -/
def initial (position : UInt32) (ratio : PixelRatio) (is24HourFormat : Bool) (fonts : Fonts) :
    DatetimeWidget where
  position := position
  devicePixelRatioF := ratio
  is24HourFormat := is24HourFormat
  m_24HourFormat := false
  m_singleLineLayout := false
  m_fashionMode := false
  m_weekdayFormatType := 0
  m_dockSize := ⟨1920, 37, by decide, by decide⟩
  apVisible := true
  direction := .TopToBottom
  spacing := 0
  fonts := fonts
  timeMargin := 0
  dateMargin := 0
  delayedCallbacks := 0

/-- The widget after its constructor. -/
def create (position : UInt32) (ratio : PixelRatio) (is24HourFormat : Bool) (type : ℤ)
    (fonts : Fonts) : DatetimeWidget :=
  let s := (initial position ratio is24HourFormat fonts).adjustUI.adjustLayout metrics
  adjustFontSize { s with m_weekdayFormatType := type, m_24HourFormat := is24HourFormat } metrics

end Metrics

/-! ## What is laid out -/

/-- The fonts are those of the bucket in which the distance is. -/
def FontsFit : Prop :=
  s.validDistance ≤ MAX_DISTANCE → lastBelow s.validDistance fontSizeMap = some s.fonts

/-- At the last distance, of which no bucket is found, the fonts are the largest already. -/
def FitsAtMax : Prop := s.validDistance = MAX_DISTANCE → s.fonts = ⟨20, 14⟩

/-- The layout is the one that the dock calls for. -/
structure LaidOut : Prop where
  singleLine : s.m_singleLineLayout = s.shouldUseSingleLine
  direction : s.direction = if s.shouldUseSingleLine then .LeftToRight else .TopToBottom
  spacing : s.spacing = if s.shouldUseSingleLine then SINGLE_LINE_SPACING else 0
  fonts : s.FontsFit

/-- The box and the margins are arranged for the number of lines, whichever it is. -/
structure Arranged (metrics : ℤ → ℤ) (s : DatetimeWidget) : Prop where
  direction : s.direction = if s.m_singleLineLayout then .LeftToRight else .TopToBottom
  spacing : s.spacing = if s.m_singleLineLayout then SINGLE_LINE_SPACING else 0
  timeMargin : s.timeMargin = (s.alignSingleLineBaseline metrics).timeMargin
  dateMargin : s.dateMargin = (s.alignSingleLineBaseline metrics).dateMargin

variable {s} {metrics : ℤ → ℤ}

/-- An arranged widget is laid out if the number of lines and the fonts are. -/
theorem Arranged.laidOut_iff (h : Arranged metrics s) :
    s.LaidOut ↔ s.m_singleLineLayout = s.shouldUseSingleLine ∧ s.FontsFit := by
  constructor
  · intro hout
    exact ⟨hout.singleLine, hout.fonts⟩
  · rintro ⟨hsingle, hfonts⟩
    exact ⟨hsingle, hsingle ▸ h.direction, hsingle ▸ h.spacing, hfonts⟩

/-- The arrangement does not depend on the properties, the mode, the size and the callbacks. -/
theorem Arranged.inputs (h : Arranged metrics s) {position : UInt32} {ratio : PixelRatio}
    {is24HourFormat m24HourFormat fashionMode apVisible : Bool} {type : ℤ} {dockSize : PanelSize}
    {delayedCallbacks : ℕ} :
    Arranged metrics
      { s with
        position := position
        devicePixelRatioF := ratio
        is24HourFormat := is24HourFormat
        m_24HourFormat := m24HourFormat
        m_fashionMode := fashionMode
        m_weekdayFormatType := type
        m_dockSize := dockSize
        apVisible := apVisible
        delayedCallbacks := delayedCallbacks } :=
  ⟨h.direction, h.spacing, h.timeMargin, h.dateMargin⟩

/-- The layout does not depend on the formats. -/
theorem LaidOut.formats (h : s.LaidOut) {value : Bool} {type : ℤ} :
    LaidOut { s with m_24HourFormat := value, m_weekdayFormatType := type } :=
  ⟨h.singleLine, h.direction, h.spacing, h.fonts⟩

/-- What an adjustment of the layout reads, and the callbacks that are delayed, stay. -/
structure SameInputs (s s' : DatetimeWidget) : Prop where
  shouldUseSingleLine : s'.shouldUseSingleLine = s.shouldUseSingleLine
  validDistance : s'.validDistance = s.validDistance
  delayedCallbacks : s'.delayedCallbacks = s.delayedCallbacks

theorem SameInputs.fitsAtMax_iff {s' : DatetimeWidget} (h : s.SameInputs s')
    (hfonts : s'.fonts = s.fonts) : s'.FitsAtMax ↔ s.FitsAtMax := by
  rw [FitsAtMax, FitsAtMax, h.validDistance, hfonts]

theorem SameInputs.fontsFit_iff {s' : DatetimeWidget} (h : s.SameInputs s')
    (hfonts : s'.fonts = s.fonts) : s'.FontsFit ↔ s.FontsFit := by
  rw [FontsFit, FontsFit, h.validDistance, hfonts]

/-! ## The fonts -/

/-- An adjustment of the fonts touches the fonts and the margins only. -/
theorem adjustFontSize_frame (metrics : ℤ → ℤ) (s : DatetimeWidget) :
    s.SameInputs (s.adjustFontSize metrics) ∧
      (s.adjustFontSize metrics).m_singleLineLayout = s.m_singleLineLayout := by
  unfold adjustFontSize
  split_ifs
  · exact ⟨⟨rfl, rfl, rfl⟩, rfl⟩
  · cases findBucket s.validDistance fontSizeMap with
    | none => exact ⟨⟨rfl, rfl, rfl⟩, rfl⟩
    | some fonts => exact ⟨⟨rfl, rfl, rfl⟩, rfl⟩

theorem Arranged.adjustFontSize (h : Arranged metrics s) :
    Arranged metrics (s.adjustFontSize metrics) := by
  unfold DatetimeWidget.adjustFontSize
  split_ifs
  · exact h
  · cases findBucket s.validDistance fontSizeMap with
    | none => exact ⟨h.direction, h.spacing, rfl, rfl⟩
    | some fonts => exact ⟨h.direction, h.spacing, rfl, rfl⟩

/-- The dock has a length. -/
theorem thickness_pos (s : DatetimeWidget) : 0 < s.thickness := by
  have hlength : 0 < s.dockLength := by
    unfold dockLength
    split_ifs
    · exact lt_of_lt_of_le (by decide) s.m_dockSize.width_ge
    · exact lt_of_lt_of_le (by decide) s.m_dockSize.height_ge
  exact div_pos (Int.cast_pos.mpr hlength) s.devicePixelRatioF.ratio_pos

theorem validDistance_nonneg (s : DatetimeWidget) : 0 ≤ s.validDistance :=
  Int.floor_nonneg.mpr (roundDouble_nonneg s.thickness_pos)

/-- The distance is the exact quotient cut to an integer, or the next integer if the quotient is
rounded to it. -/
theorem validDistance_cases (s : DatetimeWidget) (hlt : s.thickness < 2 ^ 53) :
    s.validDistance = ⌊s.thickness⌋ ∨ roundDouble s.thickness = ⌊s.thickness⌋ + 1 :=
  floor_roundDouble s.thickness_pos hlt

/-- At the ratio 1 it is the dock's length. -/
theorem validDistance_of_one {s : DatetimeWidget} (hratio : s.devicePixelRatioF.ratio = 1)
    (hlt : s.dockLength < 2 ^ 53) : s.validDistance = s.dockLength := by
  have hthickness : s.thickness = s.dockLength := by
    rw [thickness, hratio, div_one]
  have hpos : 0 < s.dockLength := by
    have h := s.thickness_pos
    rw [hthickness] at h
    exact Int.cast_pos.mp h
  rw [validDistance, hthickness, roundDouble_intCast hpos hlt, Int.floor_intCast]

/-- Below the last distance, the bucket of the distance is found. -/
theorem findBucket_fontSizeMap {distance : ℤ} (hnonneg : 0 ≤ distance)
    (hlt : distance < MAX_DISTANCE) :
    ∃ fonts, findBucket distance fontSizeMap = some fonts ∧
      lastBelow distance fontSizeMap = some fonts := by
  have hsorted : fontSizeMap.Pairwise fun a b => a.1 < b.1 := by decide
  have hfound : findBucket distance fontSizeMap = lastBelow distance fontSizeMap :=
    findBucket_eq_lastBelow hsorted ⟨(MAX_DISTANCE, ⟨20, 14⟩), by decide, hlt⟩
  have hsome : lastBelow distance fontSizeMap ≠ none :=
    lastBelow_ne_none ⟨(0, ⟨13, 10⟩), by decide, hnonneg⟩
  obtain ⟨fonts, hfonts⟩ := Option.ne_none_iff_exists'.mp hsome
  exact ⟨fonts, hfound.trans hfonts, hfonts⟩

/-- The fonts fit after an adjustment exactly if they need not be changed at the last distance. -/
theorem fontsFit_adjustFontSize (s : DatetimeWidget) :
    (s.adjustFontSize metrics).FontsFit ↔ s.FitsAtMax := by
  rw [FontsFit, (adjustFontSize_frame metrics s).1.validDistance, FitsAtMax]
  rcases lt_trichotomy s.validDistance MAX_DISTANCE with hlt | heq | hgt
  · obtain ⟨fonts, hfound, hlast⟩ := findBucket_fontSizeMap s.validDistance_nonneg hlt
    have hfonts : (s.adjustFontSize metrics).fonts = fonts := by
      rw [adjustFontSize, if_neg hlt.not_gt, hfound]
      rfl
    rw [hfonts, hlast]
    exact iff_of_true (fun _ => rfl) fun heq => absurd heq hlt.ne
  · -- No bucket begins at the last distance, so the fonts stay.
    have hnone : findBucket s.validDistance fontSizeMap = none := by
      rw [heq]
      exact findBucket_eq_none (by decide)
    have hfonts : (s.adjustFontSize metrics).fonts = s.fonts := by
      rw [adjustFontSize, if_neg heq.not_gt, hnone]
      rfl
    have hlast : lastBelow s.validDistance fontSizeMap = some ⟨20, 14⟩ := by
      rw [heq]
      rfl
    rw [hfonts, hlast, Option.some.injEq, eq_comm (a := s.fonts)]
    exact ⟨fun h _ => h heq.le, fun h _ => h heq⟩
  · exact iff_of_true (fun hle => absurd hle hgt.not_ge) fun heq => absurd heq hgt.ne'

/-! ## The layout -/

/-- An adjustment of the layout sets the number of lines, and leaves the fonts. -/
theorem adjustLayout_frame (metrics : ℤ → ℤ) (s : DatetimeWidget) :
    s.SameInputs (s.adjustLayout metrics) ∧
      (s.adjustLayout metrics).m_singleLineLayout = s.shouldUseSingleLine ∧
      (s.adjustLayout metrics).fonts = s.fonts := by
  unfold adjustLayout
  dsimp only
  by_cases h : s.m_singleLineLayout = s.shouldUseSingleLine
  · rw [if_pos h]
    exact ⟨⟨rfl, rfl, rfl⟩, h, rfl⟩
  · rw [if_neg h]
    exact ⟨⟨rfl, rfl, rfl⟩, rfl, rfl⟩

theorem Arranged.adjustLayout (h : Arranged metrics s) :
    Arranged metrics (s.adjustLayout metrics) := by
  unfold DatetimeWidget.adjustLayout
  dsimp only
  by_cases hsame : s.m_singleLineLayout = s.shouldUseSingleLine
  · rwa [if_pos hsame]
  · rw [if_neg hsame]
    exact ⟨rfl, rfl, rfl, rfl⟩

/-- After an adjustment of the layout, the widget is laid out exactly if the fonts fit. -/
theorem laidOut_adjustLayout (h : Arranged metrics s) :
    (s.adjustLayout metrics).LaidOut ↔ s.FontsFit := by
  obtain ⟨hinputs, hsingle, hfonts⟩ := adjustLayout_frame metrics s
  rw [h.adjustLayout.laidOut_iff, hsingle, hinputs.shouldUseSingleLine, hinputs.fontsFit_iff hfonts]
  exact and_iff_right rfl

/-- After an adjustment of the fonts, the widget is laid out exactly if its lines are, and if the
fonts need not be changed at the last distance. -/
theorem laidOut_adjustFontSize (h : Arranged metrics s) :
    (s.adjustFontSize metrics).LaidOut ↔
      s.m_singleLineLayout = s.shouldUseSingleLine ∧ s.FitsAtMax := by
  obtain ⟨hinputs, hsingle⟩ := adjustFontSize_frame metrics s
  rw [h.adjustFontSize.laidOut_iff, hsingle, hinputs.shouldUseSingleLine,
    fontsFit_adjustFontSize]

/-! ## Events -/

/-- An update sets the number of lines, and leaves the fonts. -/
theorem updateDateTime_frame (metrics : ℤ → ℤ) (s : DatetimeWidget) :
    s.SameInputs (s.updateDateTime metrics) ∧
      (s.updateDateTime metrics).m_singleLineLayout = s.shouldUseSingleLine ∧
      (s.updateDateTime metrics).fonts = s.fonts := by
  obtain ⟨hinputs, hsingle, hfonts⟩ := adjustLayout_frame metrics
    (adjustUI { s with m_24HourFormat := s.is24HourFormat })
  exact ⟨⟨hinputs.shouldUseSingleLine, hinputs.validDistance, hinputs.delayedCallbacks⟩, hsingle,
    hfonts⟩

theorem Arranged.updateDateTime (h : Arranged metrics s) :
    Arranged metrics (s.updateDateTime metrics) :=
  h.inputs.adjustLayout

/-- Every event keeps the box and the margins arranged. -/
theorem Arranged.step (h : Arranged metrics s) (e : Event) :
    Arranged metrics (s.step metrics e) := by
  cases e with
  | dockPanelSize width height =>
    change Arranged metrics (s.setDockPanelSize metrics width height)
    unfold setDockPanelSize
    dsimp only
    split_ifs
    · exact h.inputs.adjustFontSize.adjustLayout
    · exact h
    · exact h
  | dockFashionMode fashionMode =>
    change Arranged metrics (s.setFashionMode metrics fashionMode)
    unfold setFashionMode
    split_ifs
    · exact h
    · exact h.inputs.adjustLayout
  | dockPosition position announced =>
    have hposition : Arranged metrics { s with position := position } := h.inputs
    cases announced with
    | false => exact hposition.inputs.adjustLayout
    | true => exact hposition.updateDateTime.inputs.adjustLayout
  | devicePixelRatioChange ratio => exact h.inputs.adjustFontSize
  | regionFormat is24HourFormat => exact h.inputs.updateDateTime
  | set24HourFormat value => exact h.inputs
  | weekdayFormat type => exact h.inputs
  | delayedCallback =>
    change Arranged metrics (s.delayedCallback metrics)
    unfold delayedCallback
    split
    · exact h
    · exact h.inputs.updateDateTime.adjustFontSize

/-- A change of the ratio does not change the number of lines that is called for; and where fonts
are renewed for the last distance, they are the largest already. While a callback is delayed, there
is no such demand. -/
def KeepsLayout (s : DatetimeWidget) : Event → Prop
  | .devicePixelRatioChange ratio =>
    s.delayedCallbacks = 0 →
      { s with devicePixelRatioF := ratio }.shouldUseSingleLine = s.shouldUseSingleLine ∧
        { s with devicePixelRatioF := ratio }.FitsAtMax
  | .dockPanelSize width height =>
    s.delayedCallbacks = 0 → ∀ h : 37 ≤ width ∧ 37 ≤ height,
      s.m_dockSize ≠ ⟨width, height, h.1, h.2⟩ →
        { s with m_dockSize := ⟨width, height, h.1, h.2⟩ }.FitsAtMax
  | .delayedCallback => s.delayedCallbacks = 1 → s.FitsAtMax
  | _ => True

/-- With no callback delayed, the widget is laid out. -/
def Current (s : DatetimeWidget) : Prop := s.delayedCallbacks = 0 → s.LaidOut

/-- The widget stays laid out at the sizes of the dock exactly if the fonts need not be changed at
the last distance. -/
theorem Current.dockPanelSize_iff (h : Arranged metrics s) (hs : s.Current) (width height : ℤ) :
    (s.setDockPanelSize metrics width height).Current ↔
      KeepsLayout s (.dockPanelSize width height) := by
  unfold setDockPanelSize KeepsLayout
  dsimp only
  split_ifs with hsize hdiff
  · have hnew : Arranged metrics { s with m_dockSize := ⟨width, height, hsize.1, hsize.2⟩ } :=
      h.inputs
    obtain ⟨hinputs, -⟩ := adjustFontSize_frame metrics
      { s with m_dockSize := ⟨width, height, hsize.1, hsize.2⟩ }
    obtain ⟨hinputs', -⟩ := adjustLayout_frame metrics
      (adjustFontSize { s with m_dockSize := ⟨width, height, hsize.1, hsize.2⟩ } metrics)
    rw [Current, hinputs'.delayedCallbacks, hinputs.delayedCallbacks,
      laidOut_adjustLayout hnew.adjustFontSize, fontsFit_adjustFontSize]
    exact imp_congr_right fun _ => ⟨fun hfit _ _ => hfit, fun hfit => hfit hsize hdiff⟩
  · exact iff_of_true hs fun _ _ hnew => absurd hnew hdiff
  · exact iff_of_true hs fun _ hlarge => absurd hlarge hsize

/-- The widget stays laid out at the ratio exactly if the same number of lines is called for, and
the fonts need not be changed at the last distance. -/
theorem Current.devicePixelRatioChange_iff (h : Arranged metrics s) (hs : s.Current)
    (ratio : PixelRatio) :
    (adjustFontSize { s with devicePixelRatioF := ratio } metrics).Current ↔
      KeepsLayout s (.devicePixelRatioChange ratio) := by
  have hnew : Arranged metrics { s with devicePixelRatioF := ratio } := h.inputs
  obtain ⟨hinputs, -⟩ := adjustFontSize_frame metrics
    { s with devicePixelRatioF := ratio }
  rw [Current, hinputs.delayedCallbacks, laidOut_adjustFontSize hnew]
  refine imp_congr_right fun hnone => and_congr_left fun _ => ?_
  change s.m_singleLineLayout = _ ↔ _
  rw [(hs hnone).singleLine]
  exact eq_comm

/-- The last callback leaves the widget laid out exactly if the fonts need not be changed at the
last distance. -/
theorem Current.delayedCallback_iff (h : Arranged metrics s) (hs : s.Current) :
    (s.delayedCallback metrics).Current ↔ KeepsLayout s .delayedCallback := by
  unfold delayedCallback KeepsLayout
  split
  next hnone => exact iff_of_true hs fun hone => absurd (hnone.symm.trans hone) Nat.zero_ne_one
  next n hpending =>
    have hnew : Arranged metrics { s with delayedCallbacks := n } := h.inputs
    obtain ⟨hinputs, hsingle, hfonts⟩ := updateDateTime_frame metrics
      { s with delayedCallbacks := n }
    obtain ⟨hinputs', -⟩ := adjustFontSize_frame metrics
      (updateDateTime { s with delayedCallbacks := n } metrics)
    rw [Current, hinputs'.delayedCallbacks, hinputs.delayedCallbacks,
      laidOut_adjustFontSize hnew.updateDateTime, hsingle, hinputs.shouldUseSingleLine,
      hinputs.fitsAtMax_iff hfonts, hpending]
    exact imp_congr Nat.succ_inj.symm (and_iff_right rfl)

/-- An event keeps the widget laid out exactly if it meets the demands. -/
theorem current_step_iff (h : Arranged metrics s) (hs : s.Current) (e : Event) :
    (s.step metrics e).Current ↔ KeepsLayout s e := by
  cases e with
  | dockPanelSize width height => exact hs.dockPanelSize_iff h width height
  | dockFashionMode fashionMode =>
    refine iff_of_true ?_ trivial
    change (s.setFashionMode metrics fashionMode).Current
    unfold setFashionMode
    split_ifs
    · exact hs
    · have hnew : Arranged metrics { s with m_fashionMode := fashionMode } := h.inputs
      rw [Current, (adjustLayout_frame metrics _).1.delayedCallbacks, laidOut_adjustLayout hnew]
      exact fun hnone => (hs hnone).fonts
  | dockPosition position announced =>
    refine iff_of_true (fun hnone => absurd hnone ?_) trivial
    change (dockPositionChanged _ metrics).delayedCallbacks ≠ 0
    unfold dockPositionChanged
    rw [(adjustLayout_frame metrics _).1.delayedCallbacks]
    exact Nat.succ_ne_zero _
  | devicePixelRatioChange ratio => exact hs.devicePixelRatioChange_iff h ratio
  | regionFormat is24HourFormat =>
    refine iff_of_true ?_ trivial
    change (updateDateTime { s with is24HourFormat := is24HourFormat } metrics).Current
    obtain ⟨hinputs, -⟩ := updateDateTime_frame metrics
      { s with is24HourFormat := is24HourFormat }
    have hnew : Arranged metrics
        (adjustUI { s with m_24HourFormat := is24HourFormat, is24HourFormat := is24HourFormat }) :=
      h.inputs
    rw [Current, hinputs.delayedCallbacks, updateDateTime, laidOut_adjustLayout hnew]
    exact fun hnone => (hs hnone).fonts
  | set24HourFormat value => exact iff_of_true (fun hnone => (hs hnone).formats) trivial
  | weekdayFormat type => exact iff_of_true (fun hnone => (hs hnone).formats) trivial
  | delayedCallback => exact hs.delayedCallback_iff h

/-- Where the ratio stays and the distance is not the last one, the demands are met. -/
theorem keepsLayout_of_ne_max {e : Event} (hratio : ∀ ratio, e ≠ .devicePixelRatioChange ratio)
    (hmax : (s.step metrics e).validDistance ≠ MAX_DISTANCE) : KeepsLayout s e := by
  cases e with
  | devicePixelRatioChange ratio => exact absurd rfl (hratio ratio)
  | dockPanelSize width height =>
    intro _ hsize hdiff heq
    refine absurd ?_ hmax
    change (s.setDockPanelSize metrics width height).validDistance = MAX_DISTANCE
    rw [setDockPanelSize, dif_pos hsize, if_pos hdiff]
    rw [(adjustLayout_frame metrics _).1.validDistance,
      (adjustFontSize_frame metrics _).1.validDistance]
    exact heq
  | delayedCallback =>
    intro hone heq
    refine absurd ?_ hmax
    change (s.delayedCallback metrics).validDistance = MAX_DISTANCE
    unfold delayedCallback
    rw [hone]
    dsimp only
    rw [(adjustFontSize_frame metrics _).1.validDistance,
      (updateDateTime_frame metrics _).1.validDistance]
    exact heq
  | dockFashionMode _ | dockPosition _ _ | regionFormat _ | set24HourFormat _ | weekdayFormat _ =>
    trivial

section Runs

variable (metrics) (position : UInt32) (ratio : PixelRatio) (is24HourFormat : Bool) (type : ℤ)
  (fonts : Fonts)

/-- A widget is made arranged, and laid out if the fonts that labels begin with need not be changed
at the last distance. -/
theorem create_current_iff :
    Arranged metrics (create metrics position ratio is24HourFormat type fonts) ∧
      ((create metrics position ratio is24HourFormat type fonts).Current ↔
        (initial position ratio is24HourFormat fonts).FitsAtMax) := by
  have hinitial : Arranged metrics (initial position ratio is24HourFormat fonts).adjustUI :=
    ⟨rfl, rfl, rfl, rfl⟩
  have hlayout := hinitial.adjustLayout
  obtain ⟨hinputs, hsingle, hfonts⟩ := adjustLayout_frame metrics
    (initial position ratio is24HourFormat fonts).adjustUI
  unfold create
  dsimp only
  generalize adjustLayout (initial position ratio is24HourFormat fonts).adjustUI metrics = s at *
  have hs : Arranged metrics
      { s with m_weekdayFormatType := type, m_24HourFormat := is24HourFormat } := hlayout.inputs
  obtain ⟨hinputs', -⟩ := adjustFontSize_frame metrics
    { s with m_weekdayFormatType := type, m_24HourFormat := is24HourFormat }
  refine ⟨hs.adjustFontSize, ?_⟩
  rw [Current, hinputs'.delayedCallbacks, laidOut_adjustFontSize hs]
  have hfits : s.FitsAtMax ↔ (initial position ratio is24HourFormat fonts).FitsAtMax :=
    hinputs.fitsAtMax_iff hfonts
  have hlines : s.m_singleLineLayout = s.shouldUseSingleLine :=
    hsingle.trans hinputs.shouldUseSingleLine.symm
  exact ⟨fun hnone => hfits.mp (hnone hinputs.delayedCallbacks).2,
    fun hstart _ => ⟨hlines, hfits.mpr hstart⟩⟩

/-- While the ratio stays, and no distance is the last one, the layout is that of the current state
whenever no callback is delayed. -/
theorem current_of_sameRatio {es : List Event}
    (hstart : (initial position ratio is24HourFormat fonts).validDistance ≠ MAX_DISTANCE)
    (hes : Obeys (step metrics)
      (fun s e => (∀ ratio, e ≠ .devicePixelRatioChange ratio) ∧
        (s.step metrics e).validDistance ≠ MAX_DISTANCE)
      (create metrics position ratio is24HourFormat type fonts) es) :
    Always (step metrics) Current (create metrics position ratio is24HourFormat type fonts) es := by
  obtain ⟨harranged, hcurrent⟩ :=
    create_current_iff metrics position ratio is24HourFormat type fonts
  refine always_of_obeys (I := fun s => Arranged metrics s ∧ s.Current) (fun s e hs he => ?_)
    (fun _ hs => hs.2) ⟨harranged, hcurrent.mpr fun heq => absurd heq hstart⟩ hes
  exact ⟨hs.1.step e, (current_step_iff hs.1 hs.2 e).mpr (keepsLayout_of_ne_max he.1 he.2)⟩

/-- The layout is that of the current state, whenever no callback is delayed, exactly in the runs
in which no change of the ratio changes the number of lines, and in which fonts renewed for the
last distance are the largest already. -/
theorem clockLayout_iff (es : List Event) :
    Always (step metrics) Current (create metrics position ratio is24HourFormat type fonts) es ↔
      (initial position ratio is24HourFormat fonts).FitsAtMax ∧
        Obeys (step metrics) KeepsLayout (create metrics position ratio is24HourFormat type fonts)
          es := by
  obtain ⟨harranged, hcurrent⟩ :=
    create_current_iff metrics position ratio is24HourFormat type fonts
  have hrun (hstart : (create metrics position ratio is24HourFormat type fonts).Current) :=
    always_iff_obeys (I := Arranged metrics) (fun _ e h => h.step e)
      (fun _ e h hs => current_step_iff h hs e) es harranged hstart
  constructor
  · intro halways
    exact ⟨hcurrent.mp halways.head, (hrun halways.head).mp halways⟩
  · rintro ⟨hstart, hes⟩
    exact (hrun (hcurrent.mpr hstart)).mpr hes

end Runs

/-- A dock of height 80 at the bottom, in the fashion mode: at twice the ratio one line would be
right, but two stay. -/
theorem not_clockLayout_ratio :
    ¬Always (step fun size => size / 2) Current
      (create (fun size => size / 2) 2 (.ofNat 1 (by decide) (by decide)) true 0 ⟨14, 14⟩)
      [.dockPanelSize 1920 80, .dockFashionMode true,
        .devicePixelRatioChange (.ofNat 2 (by decide) (by decide))] := by
  intro halways
  have hsingle := (halways.last (by decide +kernel)).singleLine
  revert hsingle
  decide +kernel

end DatetimeWidget

end DdeTrayLoader.Datetime
