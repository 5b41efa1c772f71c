import DdeTrayLoader.Qt.QString
import DdeTrayLoader.Transition.Run

/-!
# The menu of keyboard layouts

`DBusAdaptors` shows the user's layouts in a menu, the current one checked. The menu is built anew
from every successful reply of `LayoutList`, its marks are set anew at every signal that the current
layout has changed, and a click toggles the mark of its action before the service is asked for that
layout.

The service and the messages in both directions are part of the state. Signals arrive in order, and
replies at any time.
-/

namespace DdeTrayLoader.Keyboard

open Transition Qt

/-! ## The menu -/

/-- A `QAction` of the menu. -/
structure QAction where
  objectName : String
  text : QString
  checkable : Bool
  checked : Bool
  isSeparator : Bool
  deriving DecidableEq, Repr

/-- A click toggles a checkable action. -/
def QAction.activate (action : QAction) : QAction :=
  if action.checkable then { action with checked := !action.checked } else action

@[simp] theorem QAction.activate_checkable (action : QAction) :
    action.activate.checkable = action.checkable := by
  unfold activate
  split_ifs <;> rfl

@[simp] theorem QAction.activate_objectName (action : QAction) :
    action.activate.objectName = action.objectName := by
  unfold activate
  split_ifs <;> rfl

/-- `QMenu::addSeparator`. -/
def separator : QAction := ⟨"", [], false, false, true⟩

/-- `KeyboardLayoutList`: the names of the layouts, as a user reads them. -/
abbrev KeyboardLayoutList := List (String × String)

/-- What precedes the first semicolon. -/
def firstPart (value : String) : String :=
  String.ofList (value.toList.takeWhile fun c => c != ';')

/-- `QStringList::indexOf`, from 1 on; it is 0 for a text that is not listed. -/
def indexFromOne (list : List String) (text : String) : ℕ :=
  if text ∈ list then list.idxOf text + 1 else 0

/-- A short name, numbered among the user's layouts that have the same first part. It may end in
half a character. -/
def duplicateCheck (userLayoutList : List String) (kb : String) : QString :=
  let list := userLayoutList.filter fun data => firstPart data == firstPart kb
  let kblayout := (utf16 (firstPart kb)).take 2
  kblayout ++ if 1 < list.length then utf16 (toString (indexFromOne list kb)) else []

/-! ## The system -/

/-- The signals of the service. -/
inductive Signal where
  | currentLayoutChanged (value : String)
  | userLayoutListChanged (value : List String)
  deriving DecidableEq, Repr

/-- What the adaptor has handled. -/
inductive Handled where
  | currentLayout (value : String)
  | userLayoutList (value : List String)
  /-- A reply of `LayoutList`, successful or not. -/
  | layoutList (success : Bool)
  /-- The action at this index was clicked. -/
  | click (index : ℕ)
  deriving DecidableEq, Repr

/-- The service, the messages on their way, and the members of `DBusAdaptors`. -/
structure KeyboardSystem where
  currentLayout : String
  userLayoutList : List String
  signals : List Signal
  /-- Calls of `setCurrentLayout`. -/
  requests : List String
  /-- The number of calls of `LayoutList` that are not answered yet. -/
  layoutListCalls : ℕ
  m_currentLayoutRaw : String
  m_currentLayout : String
  m_userLayoutList : List String
  m_allLayoutList : KeyboardLayoutList
  m_menu : List QAction
  /-- The index of the action in the menu. -/
  m_addLayoutAction : Option ℕ
  /-- The number of times the control center was started. -/
  addLayoutStarts : ℕ
  /-- The values of `layoutChanged`. -/
  layoutChanged : List String
  /-- What the adaptor has handled, newest first. -/
  history : List Handled
  deriving DecidableEq, Repr

/-- What happens next. -/
inductive KeyboardEvent where
  /-- Another client sets the layout. -/
  | currentLayout (value : String)
  /-- The user's layouts are changed. -/
  | userLayoutList (value : List String)
  /-- The service handles the oldest request of the adaptor. -/
  | serve
  /-- The oldest signal arrives. -/
  | deliver
  /-- A call of `LayoutList` is answered; `none` is an error. -/
  | reply (layouts : Option KeyboardLayoutList)
  /-- The action at this index is clicked. -/
  | click (index : ℕ)

namespace KeyboardSystem

def layout (s : KeyboardSystem) : String :=
  if s.m_userLayoutList.length < 2 then "" else s.m_currentLayout

/-- The action of one layout. -/
def layoutAction (s : KeyboardSystem) (layoutRawName : String) : QAction where
  objectName := layoutRawName
  text := utf16 ((s.m_allLayoutList.lookup layoutRawName).getD "") ++ utf16 " (" ++
    duplicateCheck s.m_userLayoutList layoutRawName ++ utf16 ")"
  checkable := true
  checked := layoutRawName == s.m_currentLayoutRaw
  isSeparator := false

/-- The last action, whose text is translated. -/
def addLayoutAction : QAction :=
  ⟨"AddLayoutAction", utf16 "Add keyboard layout", false, false, false⟩

def refreshMenu (s : KeyboardSystem) : KeyboardSystem :=
  if s.m_userLayoutList.length < 2 then s
  else
    { s with
      m_menu := s.m_userLayoutList.map s.layoutAction ++ [separator, addLayoutAction]
      m_addLayoutAction := some (s.m_userLayoutList.length + 1) }

def refreshMenuSelection (s : KeyboardSystem) : KeyboardSystem :=
  { s with
    m_menu := s.m_menu.map fun action =>
      { action with checked := action.objectName == s.m_currentLayoutRaw } }

def initAllLayoutList (s : KeyboardSystem) : KeyboardSystem :=
  { s with layoutListCalls := s.layoutListCalls + 1 }

def emitLayoutChanged (s : KeyboardSystem) : KeyboardSystem :=
  { s with layoutChanged := s.layoutChanged ++ [s.layout] }

def onCurrentLayoutChanged (s : KeyboardSystem) (value : String) : KeyboardSystem :=
  emitLayoutChanged <| refreshMenuSelection
    { s with
      m_currentLayoutRaw := value
      m_currentLayout := firstPart value
      history := .currentLayout value :: s.history }

def onUserLayoutListChanged (s : KeyboardSystem) (value : List String) : KeyboardSystem :=
  emitLayoutChanged <| initAllLayoutList
    { s with
      m_userLayoutList := value
      history := .userLayoutList value :: s.history }

/-- A call of `LayoutList` is finished. -/
def layoutListFinished (s : KeyboardSystem) (layouts : Option KeyboardLayoutList) :
    KeyboardSystem :=
  let s := { s with
    layoutListCalls := s.layoutListCalls - 1
    history := .layoutList layouts.isSome :: s.history }
  match layouts with
  | none => s
  | some layouts => refreshMenu { s with m_allLayoutList := layouts }

def handleActionTriggered (s : KeyboardSystem) (index : ℕ) (action : QAction) : KeyboardSystem :=
  let s :=
    if s.m_addLayoutAction = some index then { s with addLayoutStarts := s.addLayoutStarts + 1 }
    else s
  if action.objectName ∈ s.m_userLayoutList then
    { s with requests := s.requests ++ [action.objectName] }
  else s

/-- Activate the action at this index, and tell the adaptor which one it is. -/
def click (s : KeyboardSystem) (index : ℕ) : KeyboardSystem :=
  match s.m_menu[index]? with
  | none => s
  | some action =>
    if action.isSeparator then s
    else
      handleActionTriggered
        { s with
          m_menu := s.m_menu.mapIdx fun i action => if i = index then action.activate else action
          history := .click index :: s.history } index action.activate

/-- The service reports the layout only if it differs. -/
def setCurrentLayout (s : KeyboardSystem) (value : String) : KeyboardSystem :=
  if s.currentLayout = value then s
  else { s with currentLayout := value, signals := s.signals ++ [.currentLayoutChanged value] }

/-- The service reports the layouts only if they differ. -/
def setUserLayoutList (s : KeyboardSystem) (value : List String) : KeyboardSystem :=
  if s.userLayoutList = value then s
  else { s with userLayoutList := value, signals := s.signals ++ [.userLayoutListChanged value] }

/-- The adaptor handles one signal. -/
def receive (s : KeyboardSystem) : Signal → KeyboardSystem
  | .currentLayoutChanged value => s.onCurrentLayoutChanged value
  | .userLayoutListChanged value => s.onUserLayoutListChanged value

def step (s : KeyboardSystem) : KeyboardEvent → KeyboardSystem
  | .currentLayout value => s.setCurrentLayout value
  | .userLayoutList value => s.setUserLayoutList value
  | .serve =>
    match s.requests with
    | [] => s
    | value :: requests => setCurrentLayout { s with requests := requests } value
  | .deliver =>
    match s.signals with
    | [] => s
    | signal :: signals => receive { s with signals := signals } signal
  | .reply layouts => if s.layoutListCalls = 0 then s else s.layoutListFinished layouts
  | .click index => s.click index

/-- The constructor. The properties read there are what the interface knows by then. -/
def constructed (knownLayout : String) (knownList : List String) : KeyboardSystem :=
  let s : KeyboardSystem :=
    { currentLayout := knownLayout
      userLayoutList := knownList
      signals := []
      requests := []
      layoutListCalls := 0
      m_currentLayoutRaw := ""
      m_currentLayout := ""
      m_userLayoutList := []
      m_allLayoutList := []
      m_menu := []
      m_addLayoutAction := none
      addLayoutStarts := 0
      layoutChanged := []
      history := [] }
  (s.initAllLayoutList.onCurrentLayoutChanged knownLayout).onUserLayoutListChanged knownList

/-- The adaptor is constructed, and the service reports what the interface did not know. -/
def create (currentLayout : String) (userLayoutList : List String) (knownLayout : String)
    (knownList : List String) : KeyboardSystem :=
  ((constructed knownLayout knownList).setCurrentLayout currentLayout).setUserLayoutList
    userLayoutList

/-! ## What the menu should show -/

/-- The names of the checkable actions, and which of them are checked. -/
def marks (menu : List QAction) : List (String × Bool) :=
  (menu.filter QAction.checkable).map fun action => (action.objectName, action.checked)

/-- No reply, signal or request is outstanding. -/
structure Quiet (s : KeyboardSystem) : Prop where
  signals : s.signals = []
  requests : s.requests = []
  layoutListCalls : s.layoutListCalls = 0

/-- When nothing is outstanding and there are two layouts or more, the menu shows the user's
layouts in their order, and marks the current one. -/
def MenuRight (s : KeyboardSystem) : Prop :=
  s.Quiet → 2 ≤ s.userLayoutList.length →
    marks s.m_menu = s.userLayoutList.map fun layout => (layout, layout == s.currentLayout)

/-! ## What the history says -/

end KeyboardSystem

/-- The current layout that was reported last. -/
def reportedLayout : List Handled → String
  | [] => ""
  | .currentLayout value :: _ => value
  | .userLayoutList _ :: history | .layoutList _ :: history | .click _ :: history =>
    reportedLayout history

/-- The list of the user's layouts that was reported last. -/
def reportedList : List Handled → List String
  | [] => []
  | .userLayoutList value :: _ => value
  | .currentLayout _ :: history | .layoutList _ :: history | .click _ :: history =>
    reportedList history

/-- The list in force at the last successful reply, where it had two layouts or more. -/
def builtList : List Handled → Option (List String)
  | [] => none
  | .layoutList true :: history =>
    if (reportedList history).length < 2 then builtList history else some (reportedList history)
  | .layoutList false :: history | .currentLayout _ :: history | .userLayoutList _ :: history
  | .click _ :: history => builtList history

/-- The number of clicks on an action since the menu was built or the current layout reported. -/
def clicksSince (index : ℕ) : List Handled → ℕ
  | [] => 0
  | .click i :: history => clicksSince index history + if index = i then 1 else 0
  | .currentLayout _ :: _ => 0
  | .layoutList true :: history =>
    if (reportedList history).length < 2 then clicksSince index history else 0
  | .layoutList false :: history | .userLayoutList _ :: history => clicksSince index history

/-- No mark is toggled: each action of the menu was clicked an even number of times since. -/
def Untoggled (history : List Handled) : Prop :=
  ∀ index < ((builtList history).getD []).length, clicksSince index history % 2 = 0

/-- The marks of the last building or report, each toggled by every click since. -/
def expectedMarks (history : List Handled) : List (String × Bool) :=
  ((builtList history).getD []).mapIdx fun index layout =>
    (layout, (layout == reportedLayout history) ^^ (clicksSince index history % 2 == 1))

namespace KeyboardSystem

/-- When nothing is outstanding and there are two layouts or more, the last successful reply found
the user's list, and since the menu was built or the current layout reported, each layout has been
clicked an even number of times. -/
def HistoryFits (s : KeyboardSystem) : Prop :=
  s.Quiet → 2 ≤ s.userLayoutList.length →
    builtList s.history = some s.userLayoutList ∧
      ∀ index < s.userLayoutList.length, clicksSince index s.history % 2 = 0

/-- The menu begins with actions of these names and marks, and nothing else in it is checkable. -/
def Shows (menu : List QAction) (expected : List (String × Bool)) : Prop :=
  ∃ layouts rest, menu = layouts ++ rest ∧
    layouts.map (fun action => (action.objectName, action.checked)) = expected ∧
    (∀ action ∈ layouts, action.checkable = true) ∧ ∀ action ∈ rest, action.checkable = false

/-- The layout that the adaptor will know when these signals have arrived. -/
def layoutAfter (layout : String) : List Signal → String
  | [] => layout
  | .currentLayoutChanged value :: signals => layoutAfter value signals
  | .userLayoutListChanged _ :: signals => layoutAfter layout signals

/-- The list that the adaptor will know when these signals have arrived. -/
def listAfter (list : List String) : List Signal → List String
  | [] => list
  | .userLayoutListChanged value :: signals => listAfter value signals
  | .currentLayoutChanged _ :: signals => listAfter list signals

/-- What holds between the service, the signals, the members and the history. -/
structure Invariant (s : KeyboardSystem) : Prop where
  currentLayout : layoutAfter s.m_currentLayoutRaw s.signals = s.currentLayout
  userLayoutList : listAfter s.m_userLayoutList s.signals = s.userLayoutList
  reportedLayout : reportedLayout s.history = s.m_currentLayoutRaw
  reportedList : reportedList s.history = s.m_userLayoutList
  shows : Shows s.m_menu (expectedMarks s.history)

/-! ## The menu shows what the history says -/

theorem Shows.marks {menu : List QAction} {expected : List (String × Bool)}
    (h : Shows menu expected) : marks menu = expected := by
  obtain ⟨layouts, rest, hmenu, hexpected, hlayouts, hrest⟩ := h
  have hnone : rest.filter QAction.checkable = [] := by
    rw [List.filter_eq_nil_iff]
    intro action haction
    simp [hrest action haction]
  unfold KeyboardSystem.marks
  rw [hmenu, List.filter_append, List.filter_eq_self.mpr hlayouts, hnone, List.append_nil,
    hexpected]

/-- Every mark is set anew for one layout. -/
theorem Shows.refresh {menu : List QAction} {expected : List (String × Bool)}
    (h : Shows menu expected) (layout : String) :
    Shows (menu.map fun action => { action with checked := action.objectName == layout })
      (expected.map fun mark => (mark.1, mark.1 == layout)) := by
  obtain ⟨layouts, rest, hmenu, hexpected, hlayouts, hrest⟩ := h
  refine ⟨layouts.map fun action => { action with checked := action.objectName == layout },
    rest.map fun action => { action with checked := action.objectName == layout }, ?_, ?_, ?_, ?_⟩
  · rw [hmenu, List.map_append]
  · rw [← hexpected, List.map_map, List.map_map]
    rfl
  · intro action haction
    obtain ⟨action', haction', rfl⟩ := List.mem_map.mp haction
    exact hlayouts action' haction'
  · intro action haction
    obtain ⟨action', haction', rfl⟩ := List.mem_map.mp haction
    exact hrest action' haction'

/-- A click toggles the mark at its index. -/
theorem Shows.click {menu : List QAction} {expected : List (String × Bool)}
    (h : Shows menu expected) (index : ℕ) :
    Shows (menu.mapIdx fun i action => if i = index then action.activate else action)
      (expected.mapIdx fun i mark => if i = index then (mark.1, !mark.2) else mark) := by
  obtain ⟨layouts, rest, hmenu, hexpected, hlayouts, hrest⟩ := h
  refine ⟨layouts.mapIdx fun i action => if i = index then action.activate else action,
    rest.mapIdx fun i action => if i + layouts.length = index then action.activate else action,
    ?_, ?_, ?_, ?_⟩
  · rw [hmenu, List.mapIdx_append]
  · rw [← hexpected]
    apply List.ext_getElem?
    intro i
    simp only [List.getElem?_map, List.getElem?_mapIdx, Option.map_map]
    cases hlayout : layouts[i]? with
    | none => rfl
    | some action =>
      have hcheckable := hlayouts action (List.mem_of_getElem? hlayout)
      by_cases hi : i = index <;> simp [hi, QAction.activate, hcheckable]
  · intro action haction
    obtain ⟨i, hi, rfl⟩ := List.mem_mapIdx.mp haction
    have hcheckable := hlayouts _ (List.getElem_mem hi)
    split_ifs
    · rw [QAction.activate_checkable, hcheckable]
    · exact hcheckable
  · intro action haction
    obtain ⟨i, hi, rfl⟩ := List.mem_mapIdx.mp haction
    have hcheckable := hrest _ (List.getElem_mem hi)
    split_ifs
    · rw [QAction.activate_checkable, hcheckable]
    · exact hcheckable

/-- A menu built from a list shows that list, with the current layout marked. -/
theorem shows_refreshMenu (s : KeyboardSystem) :
    Shows (s.m_userLayoutList.map s.layoutAction ++ [separator, addLayoutAction])
      (s.m_userLayoutList.map fun layout => (layout, layout == s.m_currentLayoutRaw)) := by
  refine ⟨_, _, rfl, ?_, ?_, ?_⟩
  · rw [List.map_map]
    rfl
  · intro action haction
    obtain ⟨layout, -, rfl⟩ := List.mem_map.mp haction
    rfl
  · simp [separator, addLayoutAction]

end KeyboardSystem

/-! ## What is expected after each entry -/

theorem expectedMarks_getElem? (history : List Handled) (i : ℕ) :
    (expectedMarks history)[i]? = ((builtList history).getD [])[i]?.map fun layout =>
      (layout, (layout == reportedLayout history) ^^ (clicksSince i history % 2 == 1)) := by
  rw [expectedMarks, List.getElem?_mapIdx]

theorem expectedMarks_names (history : List Handled) :
    (expectedMarks history).map Prod.fst = (builtList history).getD [] := by
  apply List.ext_getElem?
  intro i
  rw [List.getElem?_map, expectedMarks_getElem?, Option.map_map]
  exact Option.map_id_apply

theorem expectedMarks_currentLayout (value : String) (history : List Handled) :
    expectedMarks (.currentLayout value :: history) =
      (expectedMarks history).map fun mark => (mark.1, mark.1 == value) := by
  apply List.ext_getElem?
  intro i
  rw [List.getElem?_map, expectedMarks_getElem?, expectedMarks_getElem?, Option.map_map]
  simp [builtList, reportedLayout, clicksSince, Function.comp_def]

theorem expectedMarks_success (history : List Handled) :
    expectedMarks (.layoutList true :: history) =
      if (reportedList history).length < 2 then expectedMarks history
      else (reportedList history).map fun layout => (layout, layout == reportedLayout history) := by
  apply List.ext_getElem?
  intro i
  rw [expectedMarks_getElem?]
  split_ifs with hlength
  · rw [expectedMarks_getElem?]
    simp [builtList, reportedLayout, clicksSince, hlength]
  · rw [List.getElem?_map]
    simp [builtList, reportedLayout, clicksSince, hlength]

theorem expectedMarks_click (index : ℕ) (history : List Handled) :
    expectedMarks (.click index :: history) =
      (expectedMarks history).mapIdx fun i mark =>
        if i = index then (mark.1, !mark.2) else mark := by
  apply List.ext_getElem?
  intro i
  rw [List.getElem?_mapIdx, expectedMarks_getElem?, expectedMarks_getElem?, Option.map_map]
  have hparity (n : ℕ) : ((n + 1) % 2 == 1) = !(n % 2 == 1) := by
    rcases Nat.mod_two_eq_zero_or_one n with hn | hn <;> simp [Nat.add_mod, hn]
  by_cases hi : i = index
  · simp [builtList, reportedLayout, clicksSince, hi, hparity, Function.comp_def]
  · simp [builtList, reportedLayout, clicksSince, hi, Function.comp_def]

/-- The reported layout alone is marked in a list exactly if the menu was built from that list and
no mark is toggled. -/
theorem expectedMarks_eq_iff (history : List Handled) (list : List String) :
    expectedMarks history = list.map (fun layout => (layout, layout == reportedLayout history)) ↔
      (builtList history).getD [] = list ∧
        ∀ index < list.length, clicksSince index history % 2 = 0 := by
  constructor
  · intro heq
    have hlist : (builtList history).getD [] = list := by
      have hnames := congrArg (List.map Prod.fst) heq
      rw [expectedMarks_names, List.map_map] at hnames
      exact hnames.trans (List.map_id list)
    refine ⟨hlist, fun index hindex => ?_⟩
    have hmark := congrArg (fun marks => marks[index]?) heq
    simp only [expectedMarks_getElem?, hlist, List.getElem?_map, List.getElem?_eq_getElem hindex,
      Option.map_some] at hmark
    have htoggled := (Prod.mk.inj (Option.some.inj hmark)).2
    have heven := Bool.xor_right_inj.mp (htoggled.trans (Bool.xor_false _).symm)
    simpa using heven
  · rintro ⟨hlist, hclicks⟩
    apply List.ext_getElem?
    intro index
    rw [expectedMarks_getElem?, hlist, List.getElem?_map]
    cases hlayout : list[index]? with
    | none => rfl
    | some layout =>
      obtain ⟨hindex, -⟩ := List.getElem?_eq_some_iff.mp hlayout
      simp [hclicks index hindex]

namespace KeyboardSystem

/-! ## The invariant -/

variable {s : KeyboardSystem}

theorem layoutAfter_append (layout : String) (signals signals' : List Signal) :
    layoutAfter layout (signals ++ signals') =
      layoutAfter (layoutAfter layout signals) signals' := by
  induction signals generalizing layout with
  | nil => rfl
  | cons signal signals ih => cases signal <;> exact ih _

theorem listAfter_append (list : List String) (signals signals' : List Signal) :
    listAfter list (signals ++ signals') = listAfter (listAfter list signals) signals' := by
  induction signals generalizing list with
  | nil => rfl
  | cons signal signals ih => cases signal <;> exact ih _

theorem Invariant.setCurrentLayout (h : s.Invariant) (value : String) :
    (s.setCurrentLayout value).Invariant := by
  unfold KeyboardSystem.setCurrentLayout
  split_ifs
  · exact h
  · refine ⟨?_, ?_, h.reportedLayout, h.reportedList, h.shows⟩
    · exact layoutAfter_append ..
    · exact (listAfter_append ..).trans h.userLayoutList

theorem Invariant.setUserLayoutList (h : s.Invariant) (value : List String) :
    (s.setUserLayoutList value).Invariant := by
  unfold KeyboardSystem.setUserLayoutList
  split_ifs
  · exact h
  · refine ⟨?_, ?_, h.reportedLayout, h.reportedList, h.shows⟩
    · exact (layoutAfter_append ..).trans h.currentLayout
    · exact listAfter_append ..

/-- The adaptor handles the oldest signal. -/
theorem Invariant.receive (h : s.Invariant) {signal : Signal} {signals : List Signal}
    (hsignals : s.signals = signal :: signals) :
    (KeyboardSystem.receive { s with signals := signals } signal).Invariant := by
  have hlayout := h.currentLayout
  have hlist := h.userLayoutList
  rw [hsignals] at hlayout hlist
  cases signal with
  | currentLayoutChanged value =>
    refine ⟨hlayout, hlist, rfl, h.reportedList, ?_⟩
    have hshows := h.shows.refresh value
    rw [← expectedMarks_currentLayout] at hshows
    exact hshows
  | userLayoutListChanged value => exact ⟨hlayout, hlist, h.reportedLayout, rfl, h.shows⟩

/-- A successful reply builds no menu for fewer than two layouts. -/
theorem layoutListFinished_of_lt (hlength : s.m_userLayoutList.length < 2)
    (layouts : KeyboardLayoutList) :
    s.layoutListFinished (some layouts) = { s with
      layoutListCalls := s.layoutListCalls - 1
      m_allLayoutList := layouts
      history := .layoutList true :: s.history } := by
  unfold layoutListFinished refreshMenu
  exact if_pos hlength

/-- It builds the menu of the layouts that are known. -/
theorem layoutListFinished_of_not_lt (hlength : ¬s.m_userLayoutList.length < 2)
    (layouts : KeyboardLayoutList) :
    s.layoutListFinished (some layouts) = { s with
      layoutListCalls := s.layoutListCalls - 1
      m_allLayoutList := layouts
      m_menu := s.m_userLayoutList.map (layoutAction { s with m_allLayoutList := layouts }) ++
        [separator, addLayoutAction]
      m_addLayoutAction := some (s.m_userLayoutList.length + 1)
      history := .layoutList true :: s.history } := by
  unfold layoutListFinished refreshMenu
  exact if_neg hlength

theorem Invariant.layoutListFinished (h : s.Invariant) (layouts : Option KeyboardLayoutList) :
    (s.layoutListFinished layouts).Invariant := by
  cases layouts with
  | none =>
    exact ⟨h.currentLayout, h.userLayoutList, h.reportedLayout, h.reportedList, h.shows⟩
  | some layouts =>
    have hexpected := expectedMarks_success s.history
    rw [h.reportedList, h.reportedLayout] at hexpected
    by_cases hlength : s.m_userLayoutList.length < 2
    · rw [if_pos hlength] at hexpected
      rw [layoutListFinished_of_lt hlength]
      refine ⟨h.currentLayout, h.userLayoutList, h.reportedLayout, h.reportedList, ?_⟩
      exact hexpected ▸ h.shows
    · rw [if_neg hlength] at hexpected
      rw [layoutListFinished_of_not_lt hlength]
      refine ⟨h.currentLayout, h.userLayoutList, h.reportedLayout, h.reportedList, ?_⟩
      exact hexpected ▸ shows_refreshMenu { s with m_allLayoutList := layouts }

/-- Only the requests and the control center are concerned. -/
theorem handleActionTriggered_eq (s : KeyboardSystem) (index : ℕ) (action : QAction) :
    s.handleActionTriggered index action = { s with
      addLayoutStarts := (s.handleActionTriggered index action).addLayoutStarts
      requests := s.requests ++
        if action.objectName ∈ s.m_userLayoutList then [action.objectName] else [] } := by
  unfold handleActionTriggered
  dsimp only
  split_ifs <;> simp

theorem Invariant.click (h : s.Invariant) (index : ℕ) : (s.click index).Invariant := by
  unfold KeyboardSystem.click
  cases s.m_menu[index]? with
  | none => exact h
  | some action =>
    dsimp only
    split_ifs
    · exact h
    · rw [handleActionTriggered_eq]
      refine ⟨h.currentLayout, h.userLayoutList, h.reportedLayout, h.reportedList, ?_⟩
      have hshows := h.shows.click index
      rw [← expectedMarks_click] at hshows
      exact hshows

theorem Invariant.step (h : s.Invariant) (e : KeyboardEvent) : (s.step e).Invariant := by
  cases e with
  | currentLayout value => exact h.setCurrentLayout value
  | userLayoutList value => exact h.setUserLayoutList value
  | serve =>
    unfold KeyboardSystem.step
    cases hrequests : s.requests with
    | nil => exact h
    | cons value requests =>
      have hserved : ({ s with requests := requests } : KeyboardSystem).Invariant :=
        ⟨h.currentLayout, h.userLayoutList, h.reportedLayout, h.reportedList, h.shows⟩
      exact hserved.setCurrentLayout value
  | deliver =>
    unfold KeyboardSystem.step
    cases hsignals : s.signals with
    | nil => exact h
    | cons signal signals => exact h.receive hsignals
  | reply layouts =>
    unfold KeyboardSystem.step
    dsimp only
    split_ifs
    · exact h
    · exact h.layoutListFinished layouts
  | click index => exact h.click index

theorem invariant_constructed (knownLayout : String) (knownList : List String) :
    (constructed knownLayout knownList).Invariant :=
  ⟨rfl, rfl, rfl, rfl, [], [], rfl, rfl, by simp, by simp⟩

theorem invariant_create (currentLayout : String) (userLayoutList : List String)
    (knownLayout : String) (knownList : List String) :
    (create currentLayout userLayoutList knownLayout knownList).Invariant :=
  ((invariant_constructed knownLayout knownList).setCurrentLayout _).setUserLayoutList _

/-! ## Whole runs -/

/-- The menu is right exactly if the history fits. -/
theorem Invariant.menuRight_iff (h : s.Invariant) : s.MenuRight ↔ s.HistoryFits := by
  unfold MenuRight HistoryFits
  refine forall_congr' fun hquiet => forall_congr' fun htwo => ?_
  have hlayout := h.currentLayout
  rw [hquiet.signals] at hlayout
  rw [h.shows.marks, show s.currentLayout = _ from hlayout.symm.trans h.reportedLayout.symm,
    expectedMarks_eq_iff]
  refine and_congr_left fun _ => ?_
  cases builtList s.history with
  | none =>
    constructor
    · intro hnil
      rw [← show [] = s.userLayoutList from hnil] at htwo
      cases htwo
    · intro hnone
      cases hnone
  | some list => simp

/-- In every run the menu is right in every state exactly if the history fits in every state. -/
theorem menuRight_iff_historyFits (currentLayout : String) (userLayoutList : List String)
    (knownLayout : String) (knownList : List String) (events : List KeyboardEvent) :
    Always KeyboardSystem.step MenuRight
        (create currentLayout userLayoutList knownLayout knownList) events ↔
      Always KeyboardSystem.step HistoryFits
        (create currentLayout userLayoutList knownLayout knownList) events :=
  always_congr (fun _ e h => h.step e) (fun _ h => h.menuRight_iff) events
    (invariant_create currentLayout userLayoutList knownLayout knownList)

/-! ## A click on the current layout -/

/-- The menu is built, and its first layout, which is the current one, is clicked. -/
def currentClicked : List KeyboardEvent :=
  [.reply (some [("us;", "English (US)"), ("de;", "German")]),
    .reply (some [("us;", "English (US)"), ("de;", "German")]), .click 0, .serve]

/-- The click leaves the current layout unmarked, and the service has nothing to report. -/
theorem not_menuRight_currentClicked :
    ¬Always KeyboardSystem.step MenuRight
      (create "us;" ["us;", "de;"] "us;" ["us;", "de;"]) currentClicked := by
  intro halways
  have hmarks := halways.last ⟨by decide, by decide, by decide⟩ (by decide)
  revert hmarks
  decide

/-! ## Runs without errors -/

/-- No call of `LayoutList` fails, and no action of the current layout is clicked. -/
def Undisturbed (s : KeyboardSystem) : KeyboardEvent → Prop
  | .reply layouts => layouts.isSome = true
  | .click index => ∀ action ∈ s.m_menu[index]?,
    action.checkable = true → action.objectName ≠ s.currentLayout
  | _ => True

/-- The menu will be built anew, if it has to be, or is not shown. -/
def Rebuilds (s : KeyboardSystem) : Prop :=
  0 < s.layoutListCalls ∨ s.m_userLayoutList.length < 2

/-- The marks will be set anew. -/
def Reselects (s : KeyboardSystem) : Prop :=
  s.signals ≠ [] ∨ ∃ request ∈ s.requests, request ≠ s.currentLayout

/-- A menu that is not right is on its way to be. -/
structure Settling (s : KeyboardSystem) : Prop where
  built : builtList s.history = some s.m_userLayoutList ∨ s.Rebuilds
  marked : Untoggled s.history ∨ s.Rebuilds ∨ s.Reselects

theorem settling_constructed (knownLayout : String) (knownList : List String) :
    (constructed knownLayout knownList).Settling :=
  ⟨.inr (.inl (Nat.succ_pos 1)), .inr (.inl (.inl (Nat.succ_pos 1)))⟩

/-- With nothing on its way, the menu is right. -/
theorem Settling.menuRight (h : s.Settling) (hinvariant : s.Invariant) : s.MenuRight := by
  rw [hinvariant.menuRight_iff]
  intro hquiet htwo
  have hlist := hinvariant.userLayoutList
  rw [hquiet.signals, listAfter] at hlist
  have hnot : ¬s.Rebuilds := by
    rintro (hcalls | hshort)
    · exact hcalls.ne' hquiet.layoutListCalls
    · rw [hlist] at hshort
      exact Nat.not_lt.mpr htwo hshort
  have hbuilt := h.built.resolve_right hnot
  rw [hlist] at hbuilt
  refine ⟨hbuilt, ?_⟩
  rcases h.marked with huntoggled | hrebuilds | hsignals | ⟨request, hrequest, -⟩
  · unfold Untoggled at huntoggled
    rw [hbuilt] at huntoggled
    exact huntoggled
  · exact absurd hrebuilds hnot
  · exact absurd hquiet.signals hsignals
  · rw [hquiet.requests] at hrequest
    cases hrequest

theorem Settling.setCurrentLayout (h : s.Settling) (value : String) :
    (s.setCurrentLayout value).Settling := by
  unfold KeyboardSystem.setCurrentLayout
  split_ifs
  · exact h
  · refine ⟨h.built, .inr (.inr (.inl ?_))⟩
    exact List.append_ne_nil_of_right_ne_nil _ (List.cons_ne_nil _ _)

theorem Settling.setUserLayoutList (h : s.Settling) (value : List String) :
    (s.setUserLayoutList value).Settling := by
  unfold KeyboardSystem.setUserLayoutList
  split_ifs
  · exact h
  · refine ⟨h.built, .inr (.inr (.inl ?_))⟩
    exact List.append_ne_nil_of_right_ne_nil _ (List.cons_ne_nil _ _)

/-- A request that changes nothing leaves the requests that do. -/
theorem Settling.serve (h : s.Settling) {value : String} {requests : List String}
    (hrequests : s.requests = value :: requests) :
    (KeyboardSystem.setCurrentLayout { s with requests := requests } value).Settling := by
  unfold KeyboardSystem.setCurrentLayout
  dsimp only
  split_ifs with hsame
  · refine ⟨h.built, h.marked.imp_right (Or.imp_right ?_)⟩
    rintro (hsignals | ⟨request, hrequest, hdiffers⟩)
    · exact .inl hsignals
    · rw [hrequests, List.mem_cons] at hrequest
      have hothers := hrequest.resolve_left fun heq => hdiffers (heq.trans hsame.symm)
      exact .inr ⟨request, hothers, hdiffers⟩
  · refine ⟨h.built, .inr (.inr (.inl ?_))⟩
    exact List.append_ne_nil_of_right_ne_nil _ (List.cons_ne_nil _ _)

/-- A signal sets the marks anew, or has the menu built anew. -/
theorem Settling.receive (h : s.Settling) (signal : Signal) (signals : List Signal) :
    (KeyboardSystem.receive { s with signals := signals } signal).Settling := by
  cases signal with
  | currentLayoutChanged value => exact ⟨h.built, .inl fun _ _ => rfl⟩
  | userLayoutListChanged value =>
    exact ⟨.inr (.inl (Nat.succ_pos _)), .inr (.inl (.inl (Nat.succ_pos _)))⟩

/-- A successful reply builds the menu of the known list, unless it is not shown. -/
theorem settling_layoutListFinished (h : s.Invariant) (layouts : KeyboardLayoutList) :
    (s.layoutListFinished (some layouts)).Settling := by
  by_cases hlength : s.m_userLayoutList.length < 2
  · rw [layoutListFinished_of_lt hlength]
    exact ⟨.inr (.inr hlength), .inr (.inl (.inr hlength))⟩
  · have hknown : ¬(reportedList s.history).length < 2 := by
      rw [h.reportedList]
      exact hlength
    rw [layoutListFinished_of_not_lt hlength]
    refine ⟨.inl ?_, .inl fun _ _ => ?_⟩
    · simp only [builtList, h.reportedList, if_neg hlength]
    · simp only [clicksSince, if_neg hknown]

/-- The action at the index of a layout is that layout's. -/
theorem Invariant.action_at (h : s.Invariant) {list : List String}
    (hbuilt : builtList s.history = some list) {index : ℕ} (hindex : index < list.length)
    {action : QAction} (haction : s.m_menu[index]? = some action) :
    action.checkable = true ∧ action.objectName ∈ list := by
  obtain ⟨layouts, rest, hmenu, hexpected, hlayouts, -⟩ := h.shows
  have hnames : layouts.map QAction.objectName = list := by
    have hfirst := congrArg (List.map Prod.fst) hexpected
    rw [List.map_map, expectedMarks_names, hbuilt] at hfirst
    exact hfirst
  have hlength : index < layouts.length := by
    rw [← hnames, List.length_map] at hindex
    exact hindex
  rw [hmenu, List.getElem?_append_left hlength] at haction
  have hmem := List.mem_of_getElem? haction
  refine ⟨hlayouts action hmem, ?_⟩
  rw [← hnames]
  exact List.mem_map_of_mem hmem

/-- A click on an action that is no layout's toggles no mark. -/
theorem Untoggled.click {history : List Handled} (h : Untoggled history) {index : ℕ}
    (hindex : ¬index < ((builtList history).getD []).length) :
    Untoggled (.click index :: history) := by
  intro i hi
  have hne : i ≠ index := fun heq => hindex (heq ▸ hi)
  rw [clicksSince, if_neg hne]
  exact h i hi

/-- A click on another layout than the current one asks for that layout. -/
theorem Settling.click (h : s.Settling) (hinvariant : s.Invariant) {index : ℕ}
    (hother : s.Undisturbed (.click index)) : (s.click index).Settling := by
  unfold KeyboardSystem.click
  cases haction : s.m_menu[index]? with
  | none => exact h
  | some action =>
    dsimp only
    split_ifs
    · exact h
    · rw [handleActionTriggered_eq]
      refine ⟨h.built, ?_⟩
      by_cases hrebuilds : s.Rebuilds
      · exact .inr (.inl hrebuilds)
      by_cases hindex : index < ((builtList s.history).getD []).length
      · have hbuilt := h.built.resolve_right hrebuilds
        rw [hbuilt] at hindex
        obtain ⟨hcheckable, hmem⟩ := hinvariant.action_at hbuilt hindex haction
        have hdiffers := hother action haction hcheckable
        refine .inr (.inr (.inr ⟨action.objectName, List.mem_append_right _ ?_, hdiffers⟩))
        rw [QAction.activate_objectName, if_pos hmem]
        exact List.mem_cons_self
      · rcases h.marked with huntoggled | hmarked | hsignals | ⟨request, hrequest, hdiffers⟩
        · exact .inl (Untoggled.click huntoggled hindex)
        · exact absurd hmarked hrebuilds
        · exact .inr (.inr (.inl hsignals))
        · exact .inr (.inr (.inr ⟨request, List.mem_append_left _ hrequest, hdiffers⟩))

/-- Every undisturbed step leaves the menu right, or on its way to be. -/
theorem Settling.step (h : s.Settling) (hinvariant : s.Invariant) {e : KeyboardEvent}
    (he : s.Undisturbed e) : (s.step e).Settling := by
  cases e with
  | currentLayout value => exact h.setCurrentLayout value
  | userLayoutList value => exact h.setUserLayoutList value
  | serve =>
    unfold KeyboardSystem.step
    cases hrequests : s.requests with
    | nil => exact h
    | cons value requests => exact h.serve hrequests
  | deliver =>
    unfold KeyboardSystem.step
    cases s.signals with
    | nil => exact h
    | cons signal signals => exact h.receive signal signals
  | reply layouts =>
    unfold KeyboardSystem.step
    dsimp only
    split_ifs
    · exact h
    · obtain ⟨layouts, rfl⟩ := Option.isSome_iff_exists.mp he
      exact settling_layoutListFinished hinvariant layouts
  | click index => exact h.click hinvariant he

/-- The menu is right throughout every run in which no call fails and the current layout is not
clicked. -/
theorem menuRight_of_undisturbed {currentLayout knownLayout : String}
    {userLayoutList knownList : List String} {events : List KeyboardEvent}
    (hevents : Obeys KeyboardSystem.step Undisturbed
      (create currentLayout userLayoutList knownLayout knownList) events) :
    Always KeyboardSystem.step MenuRight
      (create currentLayout userLayoutList knownLayout knownList) events := by
  have hinvariant := invariant_create currentLayout userLayoutList knownLayout knownList
  have hsettling := ((settling_constructed knownLayout knownList).setCurrentLayout
    currentLayout).setUserLayoutList userLayoutList
  exact always_of_obeys (I := fun s : KeyboardSystem => s.Invariant ∧ s.Settling)
    (fun _ e h he => ⟨h.1.step e, h.2.step h.1 he⟩) (fun _ h => h.2.menuRight h.1)
    ⟨hinvariant, hsettling⟩ hevents

end KeyboardSystem

end DdeTrayLoader.Keyboard
