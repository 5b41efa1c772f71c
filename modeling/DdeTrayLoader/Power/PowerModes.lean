import DdeTrayLoader.Transition.Run

/-!
# The list of power modes

`PowerApplet` lists the modes that the power service supports, with the current one marked. The
list is made once; afterwards the row of the performance mode alone is removed and put in again, as
its support is reported. A removal asks for the first of the other modes, depending on the row
under the pointer rather than on the current mode, and a row that is put in is not marked.
-/

namespace DdeTrayLoader.Power

open Transition

/-! ## The modes -/

def PERFORMANCE : String := "performance"
def BALANCE : String := "balance"
def POWERSAVE : String := "powersave"
def BALANCEPERFORMANCE : String := "balance_performance"

/-- The modes and their names. -/
def powerModeList (tr : String → String) : List (String × String) :=
  [(PERFORMANCE, tr "High Performance"), (BALANCEPERFORMANCE, tr "Balance Performance"),
    (BALANCE, tr "Balanced"), (POWERSAVE, tr "Power Saver")]

/-- How an item of a list is prompted. -/
inductive PluginItemState where
  | NoState
  | Connecting
  | Connected
  | ConnectedOnlyPrompt
  deriving DecidableEq, Repr

/-- A row of the list, with its `MODE_DATA_ROLE`. -/
structure PluginStandardItem where
  /-- The icon's name in the theme, if there is an icon. -/
  icon : Option String
  name : String
  mode : String
  state : PluginItemState
  deriving DecidableEq, Repr

/-- The icon of a mode; one that has none takes that of the row before. -/
def modeIcon (icon : Option String) (mode : String) : Option String :=
  if mode = PERFORMANCE then some "status-efficient-mode"
  else if mode = BALANCE then some "status-balanced-mode"
  else if mode = POWERSAVE then some "status-energy-saving-mode"
  else if mode = BALANCEPERFORMANCE then some "status-performance-mode"
  else icon

/-- The rows of the modes, of which none is marked. -/
def initItems : Option String → List (String × String) → List PluginStandardItem
  | _, [] => []
  | icon, (mode, name) :: modeList =>
    ⟨modeIcon icon mode, name, mode, .NoState⟩ :: initItems (modeIcon icon mode) modeList

/-! ## The applet -/

/-- The members of `PerformanceModeController`, the rows of `PowerApplet` and its view. -/
structure PowerApplet where
  m_highPerformanceSupported : Bool
  /-- The modes that were supported at the start. -/
  m_modeList : List (String × String)
  m_currentMode : String
  /-- The calls of `SetMode`. -/
  setModeCalls : List String
  m_model : List PluginStandardItem
  /-- The row of the view's current index. -/
  currentIndex : Option ℕ
  deriving DecidableEq, Repr

namespace PowerApplet

variable (s : PowerApplet)

/-- The current index is kept while a row is removed; in the place of the row itself it is that of
the row above, or of the first one. -/
def removeRow (i : ℕ) : PowerApplet :=
  { s with
    m_model := s.m_model.eraseIdx i
    currentIndex :=
      match s.currentIndex with
      | none => none
      | some c =>
        if c = i then
          if 0 < i then some (i - 1) else if i + 1 < s.m_model.length then some i else none
        else if i < c then some (c - 1)
        else some c }

/-- Put a row in front of the others. -/
def insertFirst (item : PluginStandardItem) : PowerApplet :=
  { s with m_model := item :: s.m_model, currentIndex := s.currentIndex.map (· + 1) }

/-- The first row of the performance mode. -/
def performanceRow : Option ℕ := s.m_model.findIdx? fun item => item.mode == PERFORMANCE

/-- The mode of the row is asked for, if there is such a row. -/
def onModeChanged (row : ℕ) : PowerApplet :=
  match s.m_model[row]? with
  | none => s
  | some item => { s with setModeCalls := s.setModeCalls ++ [item.mode] }

/-- Mark the row of the current mode only. -/
def onCurPowerModeChanged (curPowerMode : String) : PowerApplet :=
  { s with
    m_model := s.m_model.map fun item =>
      { item with
        state := if item.mode = curPowerMode then .ConnectedOnlyPrompt else .NoState } }

/-- Remove the row of the performance mode, or put it in. -/
def onHighPerformanceSupportChanged (isSupport : Bool) : PowerApplet :=
  match isSupport, s.performanceRow with
  | false, none => s
  | false, some i =>
    if s.currentIndex = some i ∨ s.currentIndex = none then (s.removeRow i).onModeChanged 0
    else s.removeRow i
  | true, some _ => s
  | true, none =>
    match s.m_modeList.find? fun pair => pair.1 == PERFORMANCE with
    | none => s
    | some pair => s.insertFirst ⟨some "performance", pair.2, PERFORMANCE, .NoState⟩

/-- A new applet, made from the modes that are supported and the current one. -/
def create (tr : String → String) (supported : String → Bool) (mode : String) : PowerApplet :=
  let modeList := (powerModeList tr).filter fun pair => supported pair.1
  let s : PowerApplet :=
    { m_highPerformanceSupported := supported PERFORMANCE
      m_modeList := modeList
      m_currentMode := mode
      setModeCalls := []
      m_model := initItems none modeList
      currentIndex := none }
  (s.onHighPerformanceSupportChanged s.m_highPerformanceSupported).onCurPowerModeChanged
    s.m_currentMode

/-- What the service reports and the user does. -/
inductive Event where
  | highPerformanceSupport (value : Bool)
  | modeChanged (mode : String)
  | click (row : ℕ)
  /-- The pointer moves to a row, or away from all. -/
  | hover (row : Option ℕ)
  deriving DecidableEq, Repr

/-- The applet after an event. -/
def step (s : PowerApplet) : Event → PowerApplet
  | .highPerformanceSupport value =>
    onHighPerformanceSupportChanged { s with m_highPerformanceSupported := value } value
  | .modeChanged mode => onCurPowerModeChanged { s with m_currentMode := mode } mode
  | .click row =>
    if row < s.m_model.length then onModeChanged { s with currentIndex := some row } row else s
  | .hover row => { s with currentIndex := row.filter (· < s.m_model.length) }

/-! ## What is right -/

/-- The performance mode is listed. -/
def ListsPerformance : Prop := ∃ item ∈ s.m_model, item.mode = PERFORMANCE

/-- The list is that of the last reports. -/
structure Right : Prop where
  /-- The performance mode is listed exactly if its support is reported. -/
  listed : s.ListsPerformance ↔ s.m_highPerformanceSupported = true
  /-- If there is a row of the current mode, it is the one that is marked. -/
  marked : (∃ item ∈ s.m_model, item.mode = s.m_currentMode) →
    ∀ item ∈ s.m_model, item.state = .ConnectedOnlyPrompt ↔ item.mode = s.m_currentMode

/-- A mode is asked for only by a click, or as the support of the current one is withdrawn. -/
def CallsAsTold (s : PowerApplet) (e : Event) : Prop :=
  (s.step e).setModeCalls = s.setModeCalls ∨ (∃ row, e = .click row) ∨
    e = .highPerformanceSupport false ∧ s.m_highPerformanceSupported = true ∧
      s.m_currentMode = PERFORMANCE

/-- Support comes back for a mode that was supported at the start and is not the current one; and
support is withdrawn from the current mode, or with the pointer on another row, or from the last
mode. -/
def KeepsModes (s : PowerApplet) : Event → Prop
  | .highPerformanceSupport true =>
    s.m_highPerformanceSupported = false →
      (∃ pair ∈ s.m_modeList, pair.1 = PERFORMANCE) ∧ s.m_currentMode ≠ PERFORMANCE
  | .highPerformanceSupport false =>
    s.m_highPerformanceSupported = true →
      s.m_currentMode = PERFORMANCE ∨ (∃ row, s.currentIndex = some (row + 1)) ∨
        s.m_model.length = 1
  | .modeChanged _ | .click _ | .hover _ => True

/-- Only the first row may be of the performance mode, and the marks of the others are right. -/
structure Kept : Prop where
  tail : ∀ item ∈ s.m_model.tail, item.mode ≠ PERFORMANCE
  marks : ∀ item ∈ s.m_model, item.mode ≠ PERFORMANCE →
    (item.state = .ConnectedOnlyPrompt ↔ item.mode = s.m_currentMode)

variable {s}

/-! ## Rows -/

theorem performanceRow_eq_none_iff : s.performanceRow = none ↔ ¬s.ListsPerformance := by
  simp [performanceRow, ListsPerformance, List.findIdx?_eq_none_iff]

/-- Where only the first row may be of the performance mode, that one is found. -/
theorem Kept.performanceRow_eq_some (h : s.Kept) {i : ℕ} (hi : s.performanceRow = some i) :
    i = 0 ∧ ∃ item rest, s.m_model = item :: rest ∧ item.mode = PERFORMANCE := by
  obtain ⟨hlt, hmode, -⟩ := List.findIdx?_eq_some_iff_getElem.mp hi
  have htail := h.tail
  cases hmodel : s.m_model with
  | nil => simp [hmodel] at hlt
  | cons item rest =>
    rw [hmodel] at htail
    cases i with
    | zero => exact ⟨rfl, item, rest, rfl, by simpa [hmodel] using hmode⟩
    | succ i =>
      -- A later row is not of that mode.
      have hrow : s.m_model[i + 1].mode = PERFORMANCE := by simpa using hmode
      simp only [hmodel, List.getElem_cons_succ] at hrow
      exact absurd hrow (htail _ (List.getElem_mem _))

/-- Asking for a mode changes nothing else. -/
theorem onModeChanged_frame (s : PowerApplet) (row : ℕ) :
    ∃ calls, s.onModeChanged row = { s with setModeCalls := calls } := by
  unfold onModeChanged
  cases s.m_model[row]? with
  | none => exact ⟨s.setModeCalls, rfl⟩
  | some item => exact ⟨_, rfl⟩

/-- A mode is asked for exactly if there is such a row. -/
theorem onModeChanged_setModeCalls (s : PowerApplet) (row : ℕ) :
    (s.onModeChanged row).setModeCalls = s.setModeCalls ↔ s.m_model.length ≤ row := by
  rw [← List.getElem?_eq_none_iff, onModeChanged]
  cases s.m_model[row]? with
  | none => exact iff_of_true rfl rfl
  | some item => simp

/-- Other members than the calls and the current index do not tell what is right. -/
theorem Right.congr (h : s.Right) {calls : List String} {index : Option ℕ} :
    Right { s with setModeCalls := calls, currentIndex := index } :=
  ⟨h.listed, h.marked⟩

theorem Kept.congr (h : s.Kept) {calls : List String} {index : Option ℕ} :
    Kept { s with setModeCalls := calls, currentIndex := index } :=
  ⟨h.tail, h.marks⟩

/-! ## The current mode -/

/-- The rows of the current mode are marked, and no others. -/
theorem onCurPowerModeChanged_marks (s : PowerApplet) (mode : String) :
    ∀ item ∈ (s.onCurPowerModeChanged mode).m_model,
      item.state = .ConnectedOnlyPrompt ↔ item.mode = mode := by
  intro item hitem
  obtain ⟨old, -, rfl⟩ := List.mem_map.mp hitem
  by_cases hmode : old.mode = mode
  · simp [hmode]
  · simp [hmode]

/-- Marks do not change what is listed. -/
theorem onCurPowerModeChanged_listsPerformance (s : PowerApplet) (mode : String) :
    (s.onCurPowerModeChanged mode).ListsPerformance ↔ s.ListsPerformance := by
  simp [ListsPerformance, onCurPowerModeChanged]

/-- After a report of the current mode only the first row may be of the performance mode, if so
before. -/
theorem kept_onCurPowerModeChanged (htail : ∀ item ∈ s.m_model.tail, item.mode ≠ PERFORMANCE) :
    (s.onCurPowerModeChanged s.m_currentMode).Kept := by
  constructor
  · intro item hitem
    change item ∈ (s.m_model.map _).tail at hitem
    rw [← List.map_tail] at hitem
    obtain ⟨old, hold, rfl⟩ := List.mem_map.mp hitem
    exact htail old hold
  · intro item hitem _
    exact onCurPowerModeChanged_marks s s.m_currentMode item hitem

theorem right_onCurPowerModeChanged
    (hlisted : s.ListsPerformance ↔ s.m_highPerformanceSupported = true) :
    (s.onCurPowerModeChanged s.m_currentMode).Right :=
  ⟨(onCurPowerModeChanged_listsPerformance s s.m_currentMode).trans hlisted,
    fun _ => onCurPowerModeChanged_marks s s.m_currentMode⟩

/-! ## Support of the performance mode -/

/-- Withdrawn support of a mode that is listed removes its row, and asks for the next mode unless
the pointer is on another row. -/
theorem Kept.withdraw (h : s.Kept) (hlists : s.ListsPerformance) :
    ∃ item rest, s.m_model = item :: rest ∧ item.mode = PERFORMANCE ∧
      ∃ calls index, s.onHighPerformanceSupportChanged false =
          { s with m_model := rest, setModeCalls := calls, currentIndex := index } ∧
        (calls = s.setModeCalls ↔ (∃ row, s.currentIndex = some (row + 1)) ∨ rest = []) := by
  cases hrow : s.performanceRow with
  | none => exact absurd hlists (performanceRow_eq_none_iff.mp hrow)
  | some i =>
    obtain ⟨rfl, item, rest, hmodel, hmode⟩ := h.performanceRow_eq_some hrow
    refine ⟨item, rest, hmodel, hmode, ?_⟩
    have hremoved : (s.removeRow 0).m_model = rest := by
      change s.m_model.eraseIdx 0 = rest
      rw [hmodel]
      rfl
    unfold onHighPerformanceSupportChanged
    rw [hrow]
    dsimp only
    split_ifs with hplace
    · obtain ⟨calls, hcalls⟩ := onModeChanged_frame (s.removeRow 0) 0
      have hcount := onModeChanged_setModeCalls (s.removeRow 0) 0
      rw [hcalls, hremoved] at hcount
      refine ⟨calls, (s.removeRow 0).currentIndex, ?_, ?_⟩
      · rw [hcalls, ← hremoved]
        rfl
      · have hnone : ¬∃ row, s.currentIndex = some (row + 1) := by
          rintro ⟨row, hother⟩
          rw [hother] at hplace
          simp at hplace
        rw [or_iff_right hnone]
        exact hcount.trans (by simp)
    · refine ⟨s.setModeCalls, (s.removeRow 0).currentIndex, ?_, iff_of_true rfl (.inl ?_)⟩
      · rw [← hremoved]
        rfl
      · cases hindex : s.currentIndex with
        | none => exact absurd (.inr hindex) hplace
        | some c =>
          cases c with
          | zero => exact absurd (.inl hindex) hplace
          | succ row => exact ⟨row, rfl⟩

/-- Without its first row the list is kept, and the performance mode is not listed. -/
theorem Kept.removed (h : s.Kept) {item : PluginStandardItem} {rest : List PluginStandardItem}
    (hmodel : s.m_model = item :: rest) {calls : List String} {index : Option ℕ} :
    Kept { s with m_model := rest, setModeCalls := calls, currentIndex := index } ∧
      ¬ListsPerformance
        { s with m_model := rest, setModeCalls := calls, currentIndex := index } := by
  have htail := h.tail
  have hmarks := h.marks
  rw [hmodel] at htail hmarks
  refine ⟨⟨fun other hother => htail other (List.mem_of_mem_tail hother),
    fun other hother => hmarks other (List.mem_cons_of_mem _ hother)⟩, ?_⟩
  rintro ⟨other, hother, hmode⟩
  exact htail other hother hmode

/-- A list without the performance mode is right if its support is not reported. -/
theorem Kept.right_of_not_lists (h : s.Kept) (hnone : ¬s.ListsPerformance)
    (hsupported : s.m_highPerformanceSupported = false) : s.Right := by
  constructor
  · exact iff_of_false hnone (by simp [hsupported])
  · exact fun _ item hitem => h.marks item hitem fun hmode => hnone ⟨item, hitem, hmode⟩

/-- Nothing is removed where nothing is listed. -/
theorem withdraw_of_not_lists (hnone : ¬s.ListsPerformance) :
    s.onHighPerformanceSupportChanged false = s := by
  unfold onHighPerformanceSupportChanged
  rw [performanceRow_eq_none_iff.mpr hnone]

/-- Nothing is put in where it is listed. -/
theorem support_of_lists (hlists : s.ListsPerformance) :
    s.onHighPerformanceSupportChanged true = s := by
  unfold onHighPerformanceSupportChanged
  cases hrow : s.performanceRow with
  | none => exact absurd hlists (performanceRow_eq_none_iff.mp hrow)
  | some i => rfl

/-- A row that is put in is not marked. -/
theorem support_of_not_lists (hnone : ¬s.ListsPerformance)
    (hmode : ∃ pair ∈ s.m_modeList, pair.1 = PERFORMANCE) :
    ∃ item : PluginStandardItem, item.mode = PERFORMANCE ∧ item.state = .NoState ∧
      s.onHighPerformanceSupportChanged true = s.insertFirst item := by
  cases hpair : s.m_modeList.find? fun pair => pair.1 == PERFORMANCE with
  | none =>
    obtain ⟨pair, hmem, hperformance⟩ := hmode
    exact absurd (beq_iff_eq.mpr hperformance) (List.find?_eq_none.mp hpair pair hmem)
  | some pair =>
    refine ⟨⟨some "performance", pair.2, PERFORMANCE, .NoState⟩, rfl, rfl, ?_⟩
    unfold onHighPerformanceSupportChanged
    rw [performanceRow_eq_none_iff.mpr hnone]
    dsimp only
    rw [hpair]

/-- A mode that was not supported at the start is not put in. -/
theorem support_of_not_mem (hnone : ¬s.ListsPerformance)
    (hmode : ¬∃ pair ∈ s.m_modeList, pair.1 = PERFORMANCE) :
    s.onHighPerformanceSupportChanged true = s := by
  have hpair : (s.m_modeList.find? fun pair => pair.1 == PERFORMANCE) = none :=
    List.find?_eq_none.mpr fun pair hmem hperformance =>
      hmode ⟨pair, hmem, beq_iff_eq.mp hperformance⟩
  unfold onHighPerformanceSupportChanged
  rw [performanceRow_eq_none_iff.mpr hnone]
  dsimp only
  rw [hpair]

/-- A row that is put in where none is listed is the first, and the others keep their marks. -/
theorem Kept.insertFirst (h : s.Kept) (hnone : ¬s.ListsPerformance) {item : PluginStandardItem}
    (hmode : item.mode = PERFORMANCE) : (s.insertFirst item).Kept := by
  constructor
  · exact fun other hother hperformance => hnone ⟨other, hother, hperformance⟩
  · intro other hother hperformance
    rcases List.mem_cons.mp hother with rfl | hmem
    · exact absurd hmode hperformance
    · exact h.marks other hmem hperformance

/-- With a row that is not marked in front of them, the rows are right exactly if the performance
mode is not the current one. -/
theorem Kept.right_insertFirst_iff (h : s.Kept) (hnone : ¬s.ListsPerformance)
    (hsupported : s.m_highPerformanceSupported = true) {item : PluginStandardItem}
    (hmode : item.mode = PERFORMANCE) (hstate : item.state = .NoState) :
    (s.insertFirst item).Right ↔ s.m_currentMode ≠ PERFORMANCE := by
  constructor
  · intro hright hcurrent
    have hmem : item ∈ (s.insertFirst item).m_model := List.mem_cons_self
    have hsame : item.mode = s.m_currentMode := hmode.trans hcurrent.symm
    have hmarked := (hright.marked ⟨item, hmem, hsame⟩ item hmem).mpr hsame
    rw [hstate] at hmarked
    exact absurd hmarked (by decide)
  · intro hcurrent
    refine ⟨iff_of_true ⟨item, List.mem_cons_self, hmode⟩ hsupported, fun _ other hother => ?_⟩
    rcases List.mem_cons.mp hother with rfl | hmem
    · rw [hstate, hmode]
      exact iff_of_false (by decide) (Ne.symm hcurrent)
    · exact h.marks other hmem fun hperformance => hnone ⟨other, hmem, hperformance⟩

/-! ## Events -/

/-- A report of what is supported keeps what the marks and the list are made of. -/
theorem Kept.support (h : s.Kept) (value : Bool) :
    (s.onHighPerformanceSupportChanged value).Kept := by
  by_cases hlists : s.ListsPerformance
  · cases value with
    | false =>
      obtain ⟨item, rest, hmodel, -, calls, index, hstep, -⟩ := h.withdraw hlists
      rw [hstep]
      exact (h.removed hmodel).1
    | true => rwa [support_of_lists hlists]
  · cases value with
    | false => rwa [withdraw_of_not_lists hlists]
    | true =>
      by_cases hmode : ∃ pair ∈ s.m_modeList, pair.1 = PERFORMANCE
      · obtain ⟨item, hperformance, -, hstep⟩ := support_of_not_lists hlists hmode
        rw [hstep]
        exact h.insertFirst hlists hperformance
      · rwa [support_of_not_mem hlists hmode]

/-- Every event keeps what the marks and the list are made of. -/
theorem Kept.step (h : s.Kept) (e : Event) : (s.step e).Kept := by
  cases e with
  | highPerformanceSupport value =>
    exact Kept.support (s := { s with m_highPerformanceSupported := value }) ⟨h.tail, h.marks⟩ value
  | modeChanged mode =>
    exact kept_onCurPowerModeChanged (s := { s with m_currentMode := mode }) h.tail
  | click row =>
    change Kept (if _ then _ else _)
    split_ifs
    · obtain ⟨calls, hcalls⟩ := onModeChanged_frame { s with currentIndex := some row } row
      rw [hcalls]
      exact h.congr
    · exact h
  | hover row => exact h.congr

/-- Withdrawn support keeps the list right, and asks for no mode that it should not, exactly if the
current mode loses its support, or the pointer is on another row, or there is none. -/
theorem Right.withdraw_iff (hs : s.Right) (h : s.Kept) :
    (s.step (.highPerformanceSupport false)).Right ∧
        s.CallsAsTold (.highPerformanceSupport false) ↔
      s.KeepsModes (.highPerformanceSupport false) := by
  have h' : Kept { s with m_highPerformanceSupported := false } := ⟨h.tail, h.marks⟩
  unfold CallsAsTold KeepsModes step
  dsimp only
  cases hsupported : s.m_highPerformanceSupported with
  | false =>
    have hnone : ¬s.ListsPerformance := fun hlists =>
      absurd (hs.listed.mp hlists) (by simp [hsupported])
    rw [withdraw_of_not_lists (s := { s with m_highPerformanceSupported := false }) hnone]
    exact iff_of_true ⟨h'.right_of_not_lists hnone rfl, .inl rfl⟩
      fun hfalse => absurd hfalse Bool.false_ne_true
  | true =>
    obtain ⟨item, rest, hmodel, -, calls, index, hstep, hcalls⟩ :=
      h'.withdraw (hs.listed.mpr hsupported)
    have hright : (onHighPerformanceSupportChanged { s with m_highPerformanceSupported := false }
        false).Right := by
      rw [hstep]
      obtain ⟨hkept, hrest⟩ := h'.removed hmodel
      exact hkept.right_of_not_lists hrest rfl
    have hlength : s.m_model.length = 1 ↔ rest = [] := by
      rw [hmodel]
      simp
    rw [and_iff_right hright, hstep]
    dsimp only at hcalls ⊢
    rw [hcalls, hlength]
    constructor
    · rintro (hkept | ⟨row, hclick⟩ | ⟨-, -, hcurrent⟩) -
      · exact .inr hkept
      · cases hclick
      · exact .inl hcurrent
    · intro hkept
      rcases hkept rfl with hcurrent | hkept
      · exact .inr (.inr ⟨rfl, rfl, hcurrent⟩)
      · exact .inl hkept

/-- Support that is reported keeps the list right exactly if the mode is listed, or was supported at
the start and is not the current one. -/
theorem Right.support_iff (hs : s.Right) (h : s.Kept) :
    (s.step (.highPerformanceSupport true)).Right ∧ s.CallsAsTold (.highPerformanceSupport true) ↔
      s.KeepsModes (.highPerformanceSupport true) := by
  have h' : Kept { s with m_highPerformanceSupported := true } := ⟨h.tail, h.marks⟩
  unfold CallsAsTold KeepsModes step
  dsimp only
  cases hsupported : s.m_highPerformanceSupported with
  | true =>
    have hlists : s.ListsPerformance := hs.listed.mpr hsupported
    rw [support_of_lists (s := { s with m_highPerformanceSupported := true }) hlists]
    exact iff_of_true ⟨⟨iff_of_true hlists rfl, hs.marked⟩, .inl rfl⟩
      fun htrue => absurd htrue.symm Bool.false_ne_true
  | false =>
    have hnone : ¬s.ListsPerformance := fun hlists =>
      absurd (hs.listed.mp hlists) (by simp [hsupported])
    rw [imp_iff_right rfl]
    by_cases hmode : ∃ pair ∈ s.m_modeList, pair.1 = PERFORMANCE
    · obtain ⟨item, hperformance, hstate, hstep⟩ :=
        support_of_not_lists (s := { s with m_highPerformanceSupported := true }) hnone hmode
      rw [hstep, h'.right_insertFirst_iff hnone rfl hperformance hstate, and_iff_right hmode]
      exact and_iff_left (.inl rfl)
    · rw [support_of_not_mem (s := { s with m_highPerformanceSupported := true }) hnone hmode]
      exact iff_of_false (fun hboth => hnone (hboth.1.listed.mpr rfl)) fun hboth => hmode hboth.1

/-- An event keeps the list right and asks for no mode that it should not exactly if it is one that
keeps the modes. -/
theorem right_step_iff (h : s.Kept) (hs : s.Right) (e : Event) :
    (s.step e).Right ∧ s.CallsAsTold e ↔ s.KeepsModes e := by
  cases e with
  | highPerformanceSupport value =>
    cases value with
    | false => exact hs.withdraw_iff h
    | true => exact hs.support_iff h
  | modeChanged mode =>
    exact iff_of_true
      ⟨right_onCurPowerModeChanged (s := { s with m_currentMode := mode }) hs.listed, .inl rfl⟩
      trivial
  | click row =>
    refine iff_of_true ⟨?_, .inr (.inl ⟨row, rfl⟩)⟩ trivial
    change Right (if _ then _ else _)
    split_ifs
    · obtain ⟨calls, hcalls⟩ := onModeChanged_frame { s with currentIndex := some row } row
      rw [hcalls]
      exact hs.congr
    · exact hs
  | hover row => exact iff_of_true ⟨hs.congr, .inl rfl⟩ trivial

/-! ## Runs -/

section Runs

variable (tr : String → String) (supported : String → Bool) (mode : String)

/-- The rows have the modes that they are made from, in their order. -/
theorem map_mode_initItems (icon : Option String) (modeList : List (String × String)) :
    (initItems icon modeList).map PluginStandardItem.mode = modeList.map Prod.fst := by
  induction modeList generalizing icon with
  | nil => rfl
  | cons pair modeList ih => simp [initItems, ih]

/-- The modes that are supported are in the order of the table. -/
theorem powerModeList_filter :
    ((powerModeList tr).filter fun pair => supported pair.1).map Prod.fst =
      [PERFORMANCE, BALANCEPERFORMANCE, BALANCE, POWERSAVE].filter supported := by
  rw [← Function.comp_def, ← List.filter_map]
  rfl

/-- A new applet is right, and has asked for no mode. -/
theorem create_right :
    (create tr supported mode).Kept ∧ (create tr supported mode).Right ∧
      (create tr supported mode).setModeCalls = [] := by
  let s : PowerApplet :=
    { m_highPerformanceSupported := supported PERFORMANCE
      m_modeList := (powerModeList tr).filter fun pair => supported pair.1
      m_currentMode := mode
      setModeCalls := []
      m_model := initItems none ((powerModeList tr).filter fun pair => supported pair.1)
      currentIndex := none }
  have hmodes : s.m_model.map PluginStandardItem.mode =
      [PERFORMANCE, BALANCEPERFORMANCE, BALANCE, POWERSAVE].filter supported :=
    (map_mode_initItems none _).trans (powerModeList_filter tr supported)
  have hlisted : s.ListsPerformance ↔ s.m_highPerformanceSupported = true := by
    have hmem : s.ListsPerformance ↔ PERFORMANCE ∈ s.m_model.map PluginStandardItem.mode :=
      List.mem_map.symm
    rw [hmem, hmodes, List.mem_filter]
    exact and_iff_right (by decide)
  have htail : ∀ item ∈ s.m_model.tail, item.mode ≠ PERFORMANCE := by
    intro item hitem
    have hmem : item.mode ∈ (s.m_model.map PluginStandardItem.mode).tail := by
      rw [← List.map_tail]
      exact List.mem_map_of_mem hitem
    rw [hmodes] at hmem
    have hother : item.mode ∈ [BALANCEPERFORMANCE, BALANCE, POWERSAVE] :=
      List.filter_sublist.tail.subset hmem
    intro hperformance
    rw [hperformance] at hother
    exact absurd hother (by decide)
  have hsame : s.onHighPerformanceSupportChanged s.m_highPerformanceSupported = s := by
    cases hsupported : s.m_highPerformanceSupported with
    | false => exact withdraw_of_not_lists fun hlists => by simp [hlisted.mp hlists] at hsupported
    | true => exact support_of_lists (hlisted.mpr hsupported)
  have hcreate : create tr supported mode = s.onCurPowerModeChanged s.m_currentMode :=
    congrArg (fun s : PowerApplet => s.onCurPowerModeChanged mode) hsame
  rw [hcreate]
  exact ⟨kept_onCurPowerModeChanged htail, right_onCurPowerModeChanged hlisted, rfl⟩

/-- In every run the performance mode is listed in the first row at most, and the marks of the
other modes are right. -/
theorem kept_run (es : List Event) : (run step (create tr supported mode) es).Kept :=
  run_invariant (fun _ e h => h.step e) es (create_right tr supported mode).1

/-- The list is right after every event, and no mode is asked for that should not be, exactly in the
runs whose reports of support keep the modes. -/
theorem powerModes_iff (es : List Event) :
    (create tr supported mode).setModeCalls = [] ∧
        Always step Right (create tr supported mode) es ∧
        Obeys step CallsAsTold (create tr supported mode) es ↔
      Obeys step KeepsModes (create tr supported mode) es := by
  obtain ⟨hkept, hright, hcalls⟩ := create_right tr supported mode
  rw [and_iff_right hcalls]
  exact always_and_obeys_iff (I := Kept) (fun _ e h => h.step e)
    (fun _ e h hs => right_step_iff h hs e) es hkept hright

end Runs

/-- Support is withdrawn while the mode is another one, and the pointer is elsewhere: the mode of
the first row is asked for. -/
theorem not_powerModes_withdrawn :
    ¬((create id (fun _ => true) BALANCE).setModeCalls = [] ∧
      Always step Right (create id (fun _ => true) BALANCE) [.highPerformanceSupport false] ∧
      Obeys step CallsAsTold (create id (fun _ => true) BALANCE)
        [.highPerformanceSupport false]) := by
  rintro ⟨-, -, hcalls, -⟩
  rcases hcalls with hcalls | ⟨row, hclick⟩ | ⟨-, -, hcurrent⟩
  · revert hcalls
    decide +kernel
  · cases hclick
  · revert hcurrent
    decide +kernel

end PowerApplet

end DdeTrayLoader.Power
