import DdeTrayLoader.Tray.Registered
import Mathlib.Data.List.Sort
import Mathlib.Data.String.Basic

/-!
# Monitors of the display service

`BrightnessController` has a `Monitor` for each path that the service lists, and `BrightnessModel`
keeps them sorted by their names. `enabledMonitors` is what is to be shown: the monitors whose
brightness can be set come first, and before them the built-in ones and, in extended mode, the
primary one.
-/

namespace DdeTrayLoader.Brightness

open Tray (HashOrder)

/-- A `Monitor` object. -/
structure Monitor where
  serial : ℕ
  path : String
  name : String
  /-- `m_primary`, the name of the primary monitor. -/
  primary : String
  enable : Bool
  canBrightness : Bool
  buildin : Bool
  deriving DecidableEq, Repr

/-- `isPrimary`. -/
def Monitor.isPrimary (monitor : Monitor) : Bool := monitor.primary == monitor.name

/-- What the display service says of the monitor at a path, and of its primary monitor then. -/
structure MonitorInfo where
  path : String
  name : String
  canSetBrightness : Bool
  enabled : Bool
  primary : String
  deriving DecidableEq, Repr

/-- How names compare, and how `std::sort` sorts monitors by them: those with one name can come in
any order. -/
structure NameOrder where
  le : String → String → Prop
  sort : List Monitor → List Monitor
  perm : ∀ monitors, (sort monitors).Perm monitors
  sorted : ∀ monitors, (sort monitors).Pairwise fun a b => le a.name b.name

/-- The ascending order of the names, sorted by insertion. -/
def NameOrder.ascending : NameOrder where
  le a b := a ≤ b
  sort monitors := monitors.insertionSort fun a b => a.name ≤ b.name
  perm monitors := List.perm_insertionSort _ monitors
  sorted monitors :=
    have : Std.Total fun a b : Monitor => a.name ≤ b.name := ⟨fun a b => le_total a.name b.name⟩
    have : IsTrans Monitor fun a b => a.name ≤ b.name := ⟨fun _ _ _ => le_trans⟩
    List.pairwise_insertionSort _ monitors

/-- `DisplayMode_Mirror`. -/
def displayModeMirror : ℤ := 1

/-- `DisplayMode_Externd`. -/
def displayModeExternd : ℤ := 2

/-- `BrightnessModel`, with the number of monitors that have been created. -/
structure BrightnessModel where
  created : ℕ
  displayMode : ℤ
  primaryMonitorName : String
  buildinMonitorName : String
  monitors : List Monitor
  deriving DecidableEq, Repr

namespace BrightnessModel

/-- Nothing is known but the name of the built-in monitor. -/
def initial (buildinMonitorName : String) : BrightnessModel :=
  ⟨0, displayModeMirror, "", buildinMonitorName, []⟩

/-- The monitor comes first among those whose brightness can be set. -/
def leads (s : BrightnessModel) (monitor : Monitor) : Bool :=
  displayModeExternd == s.displayMode && monitor.isPrimary ||
    displayModeMirror != 0 && monitor.buildin

/-- The loop of `enabledMonitors`, for one monitor. -/
def collect (s : BrightnessModel) (lists : List Monitor × List Monitor) (monitor : Monitor) :
    List Monitor × List Monitor :=
  if monitor.enable then
    if monitor.canBrightness then
      if s.leads monitor then (monitor :: lists.1, lists.2) else (lists.1 ++ [monitor], lists.2)
    else (lists.1, lists.2 ++ [monitor])
  else lists

def enabledMonitors (s : BrightnessModel) : List Monitor :=
  let lists := s.monitors.foldl s.collect ([], [])
  lists.1 ++ lists.2

/-- The monitor that `BrightnessController::monitorAdded` creates. -/
def newMonitor (s : BrightnessModel) (info : MonitorInfo) : Monitor where
  serial := s.created
  path := info.path
  name := info.name
  primary := info.primary
  enable := info.enabled
  canBrightness := info.canSetBrightness
  buildin := s.buildinMonitorName == info.name

def monitorAdded (order : NameOrder) (s : BrightnessModel) (info : MonitorInfo) :
    BrightnessModel :=
  { s with
    created := s.created + 1
    monitors := order.sort (s.monitors ++ [s.newMonitor info]) }

def monitorRemoved (s : BrightnessModel) (monitor : Monitor) : BrightnessModel :=
  { s with monitors := s.monitors.erase monitor }

/-- The monitor that `BrightnessController::monitorRemoved` finds for the path. -/
def findPath (keys : HashOrder Monitor) (s : BrightnessModel) (path : String) : Option Monitor :=
  (keys.list s.monitors).find? fun monitor => monitor.path = path

/-- `Monitor::setMonitorEnable` of one monitor. -/
def setMonitorEnable (s : BrightnessModel) (serial : ℕ) (enable : Bool) : BrightnessModel :=
  { s with
    monitors := s.monitors.map fun monitor =>
      if monitor.serial = serial then { monitor with enable := enable } else monitor }

def setPrimary (s : BrightnessModel) (primary : String) : BrightnessModel :=
  { s with
    primaryMonitorName := primary
    monitors := s.monitors.map fun monitor => { monitor with primary := primary } }

/-- The monitors that are enabled, in the order of the model. -/
def enabled (s : BrightnessModel) : List Monitor := s.monitors.filter Monitor.enable

/-- The loop of `enabledMonitors` collects the enabled monitors. -/
theorem foldl_collect_perm (s : BrightnessModel) (monitors : List Monitor)
    (lists : List Monitor × List Monitor) :
    ((monitors.foldl s.collect lists).1 ++ (monitors.foldl s.collect lists).2).Perm
      (lists.1 ++ lists.2 ++ monitors.filter Monitor.enable) := by
  induction monitors generalizing lists with
  | nil => simp
  | cons monitor monitors ih =>
    rw [List.foldl_cons]
    refine (ih _).trans ?_
    unfold collect
    by_cases henable : monitor.enable = true
    · rw [if_pos henable, List.filter_cons_of_pos henable]
      split_ifs
      · exact List.perm_middle.symm
      · rw [List.append_assoc, List.append_assoc, List.append_assoc, List.singleton_append]
        exact List.perm_middle.symm.append_left lists.1
      · rw [List.append_assoc, List.append_assoc, List.append_assoc, List.singleton_append]
    · rw [if_neg henable, List.filter_cons_of_neg henable]

/-- What is to be shown are the enabled monitors. -/
theorem enabledMonitors_perm (s : BrightnessModel) : s.enabledMonitors.Perm s.enabled :=
  s.foldl_collect_perm s.monitors ([], [])

end BrightnessModel

end DdeTrayLoader.Brightness
