import DdeTrayLoader.Brightness.Monitors
import DdeTrayLoader.Transition.Run
import Mathlib.Data.List.Nodup
import Mathlib.Data.List.Pairwise

/-!
# The order of the monitors

The comment on `enabledMonitors` says which monitor comes first: the built-in one in mirror mode,
and the primary one in extended mode. All others come by their names, and those whose brightness
cannot be set come last. The loop puts a monitor first when it finds it, so a later one comes
before an earlier one; and its test of mirror mode tests the constant, so it puts the built-in
monitor first in every mode.
-/

namespace DdeTrayLoader.Brightness

open Transition

/-- Names are in a linear order. -/
structure LinearNameOrder extends NameOrder where
  trans : ∀ {a b c}, le a b → le b c → le a c
  antisymm : ∀ {a b}, le a b → le b a → a = b
  total : ∀ a b, le a b ∨ le b a

/-- The ascending order of the names is linear. -/
def LinearNameOrder.ascending : LinearNameOrder where
  toNameOrder := .ascending
  trans hab hbc := le_trans hab hbc
  antisymm hab hba := le_antisymm hab hba
  total a b := le_total a b

/-- What happens to the model and its monitors. -/
inductive ModelEvent where
  | monitorAdded (info : MonitorInfo)
  | monitorRemoved (serial : ℕ)
  | setMonitorEnable (serial : ℕ) (enable : Bool)
  | setCanBrightness (serial : ℕ) (canBrightness : Bool)
  /-- `Monitor::setPrimary` of one monitor. -/
  | setMonitorPrimary (serial : ℕ) (primaryName : String)
  | setPrimary (primary : String)
  /-- `Monitor::setBuildin` of one monitor. -/
  | setBuildin (serial : ℕ) (buildin : Bool)
  | setBuildinMonitorName (monitorName : String)
  | setDisplayMode (mode : ℤ)

namespace BrightnessModel

/-- Change one monitor. -/
def setMonitor (s : BrightnessModel) (serial : ℕ) (f : Monitor → Monitor) : BrightnessModel :=
  { s with
    monitors := s.monitors.map fun monitor =>
      if monitor.serial = serial then f monitor else monitor }

def setBuildinMonitorName (s : BrightnessModel) (monitorName : String) : BrightnessModel :=
  { s with
    buildinMonitorName := monitorName
    monitors := s.monitors.map fun monitor =>
      { monitor with buildin := monitor.name == monitorName } }

def setDisplayMode (s : BrightnessModel) (mode : ℤ) : BrightnessModel :=
  if s.displayMode ≠ mode ∧ 0 ≤ mode ∧ mode < 5 then { s with displayMode := mode } else s

/-- Remove the monitor with this number. -/
def removeSerial (s : BrightnessModel) (serial : ℕ) : BrightnessModel :=
  match s.monitors.find? fun monitor => monitor.serial = serial with
  | none => s
  | some monitor => s.monitorRemoved monitor

def step (order : NameOrder) (s : BrightnessModel) : ModelEvent → BrightnessModel
  | .monitorAdded info => s.monitorAdded order info
  | .monitorRemoved serial => s.removeSerial serial
  | .setMonitorEnable serial enable => s.setMonitorEnable serial enable
  | .setCanBrightness serial canBrightness =>
    s.setMonitor serial fun monitor => { monitor with canBrightness := canBrightness }
  | .setMonitorPrimary serial primaryName =>
    s.setMonitor serial fun monitor => { monitor with primary := primaryName }
  | .setPrimary primary => s.setPrimary primary
  | .setBuildin serial buildin =>
    s.setMonitor serial fun monitor => { monitor with buildin := buildin }
  | .setBuildinMonitorName monitorName => s.setBuildinMonitorName monitorName
  | .setDisplayMode mode => s.setDisplayMode mode

/-- A monitor is added with a name that no other has. -/
def NewName (s : BrightnessModel) : ModelEvent → Prop
  | .monitorAdded info => ∀ monitor ∈ s.monitors, monitor.name ≠ info.name
  | _ => True

instance (s : BrightnessModel) : DecidablePred s.NewName
  | .monitorAdded info =>
    inferInstanceAs (Decidable (∀ monitor ∈ s.monitors, monitor.name ≠ info.name))
  | .monitorRemoved _ | .setMonitorEnable _ _ | .setCanBrightness _ _ | .setMonitorPrimary _ _
  | .setPrimary _ | .setBuildin _ _ | .setBuildinMonitorName _ | .setDisplayMode _ =>
    inferInstanceAs (Decidable True)

/-! ## The documented order -/

/-- The mode puts the monitor first. -/
def preferred (s : BrightnessModel) (monitor : Monitor) : Bool :=
  displayModeMirror == s.displayMode && monitor.buildin ||
    displayModeExternd == s.displayMode && monitor.isPrimary

/-- Where the monitor belongs: first, among the others, or last. -/
def rank (s : BrightnessModel) (monitor : Monitor) : ℕ :=
  if !monitor.canBrightness then 2 else if s.preferred monitor then 0 else 1

/-- The first monitor may come before the second. -/
def Precedes (order : NameOrder) (s : BrightnessModel) (first second : Monitor) : Prop :=
  s.rank first < s.rank second ∨ s.rank first = s.rank second ∧ order.le first.name second.name

/-- The enabled monitors are shown in the documented order. -/
structure Documented (order : NameOrder) (s : BrightnessModel) : Prop where
  perm : s.enabledMonitors.Perm s.enabled
  ordered : s.enabledMonitors.Pairwise (s.Precedes order)

/-- At most one monitor is primary, and at most one is built in. -/
structure Single (s : BrightnessModel) : Prop where
  primary : ∀ a ∈ s.monitors, ∀ b ∈ s.monitors, a.isPrimary → b.isPrimary → a = b
  buildin : ∀ a ∈ s.monitors, ∀ b ∈ s.monitors, a.buildin → b.buildin → a = b

/-- The enabled monitors whose brightness can be set, in the order of the model. -/
def adjustable (s : BrightnessModel) : List Monitor :=
  s.monitors.filter fun monitor => monitor.enable && monitor.canBrightness

/-- The enabled monitors whose brightness cannot be set. -/
def fixed (s : BrightnessModel) : List Monitor :=
  s.monitors.filter fun monitor => monitor.enable && !monitor.canBrightness

/-- Each adjustable built-in monitor is put first by the mode, or is the first by name anyway. -/
def BuildinFirst (order : NameOrder) (s : BrightnessModel) : Prop :=
  ∀ buildin ∈ s.adjustable, buildin.buildin = true →
    s.preferred buildin = true ∨
      ∀ monitor ∈ s.adjustable, order.le buildin.name monitor.name

/-! ## What the loop does -/

theorem foldl_collect_eq (s : BrightnessModel) (monitors : List Monitor)
    (lists : List Monitor × List Monitor) :
    monitors.foldl s.collect lists =
      ((monitors.filter fun m => m.enable && m.canBrightness && s.leads m).reverse ++ lists.1 ++
          monitors.filter (fun m => m.enable && m.canBrightness && !s.leads m),
        lists.2 ++ monitors.filter fun m => m.enable && !m.canBrightness) := by
  induction monitors generalizing lists with
  | nil => simp
  | cons monitor monitors ih =>
    rw [List.foldl_cons, ih]
    unfold collect
    cases henable : monitor.enable with
    | false => simp [henable]
    | true =>
      cases hcan : monitor.canBrightness with
      | false => simp [henable, hcan]
      | true =>
        cases hleads : s.leads monitor with
        | false => simp [henable, hcan, hleads]
        | true => simp [henable, hcan, hleads]

/-- The monitors that the loop puts first, the last one found in front; then the others in their
order, and those whose brightness cannot be set. -/
theorem enabledMonitors_eq (s : BrightnessModel) :
    s.enabledMonitors = (s.adjustable.filter s.leads).reverse ++
      (s.adjustable.filter (fun monitor => !s.leads monitor) ++ s.fixed) := by
  unfold enabledMonitors adjustable fixed
  rw [foldl_collect_eq]
  simp [List.filter_filter, Bool.and_comm]

theorem mem_adjustable {s : BrightnessModel} {monitor : Monitor} :
    monitor ∈ s.adjustable ↔
      monitor ∈ s.monitors ∧ monitor.enable = true ∧ monitor.canBrightness = true := by
  unfold adjustable
  rw [List.mem_filter, Bool.and_eq_true]

/-! ## The monitors stay sorted -/

/-- The monitors are sorted by their names, and no two have the same. -/
structure Sorted (order : NameOrder) (s : BrightnessModel) : Prop where
  names : (s.monitors.map Monitor.name).Nodup
  sorted : s.monitors.Pairwise fun a b => order.le a.name b.name

variable {s : BrightnessModel}

theorem sorted_initial (order : NameOrder) (buildinMonitorName : String) :
    (initial buildinMonitorName).Sorted order :=
  ⟨List.nodup_nil, .nil⟩

/-- A change that keeps the names. -/
theorem Sorted.map {order : NameOrder} (h : s.Sorted order) {s' : BrightnessModel}
    {f : Monitor → Monitor} (hmonitors : s'.monitors = s.monitors.map f)
    (hf : ∀ monitor, (f monitor).name = monitor.name) : s'.Sorted order := by
  refine ⟨?_, ?_⟩
  · rw [hmonitors, List.map_map]
    have hname : Monitor.name ∘ f = Monitor.name := funext hf
    rw [hname]
    exact h.names
  · rw [hmonitors, List.pairwise_map]
    simpa only [hf] using h.sorted

theorem Sorted.setMonitor {order : NameOrder} (h : s.Sorted order) (serial : ℕ)
    {f : Monitor → Monitor} (hf : ∀ monitor, (f monitor).name = monitor.name) :
    (s.setMonitor serial f).Sorted order := by
  refine h.map rfl ?_
  intro monitor
  split_ifs
  · exact hf monitor
  · rfl

theorem Sorted.monitorAdded {order : NameOrder} (h : s.Sorted order) {info : MonitorInfo}
    (hnew : ∀ monitor ∈ s.monitors, monitor.name ≠ info.name) :
    (s.monitorAdded order info).Sorted order := by
  have hperm : (s.monitorAdded order info).monitors.Perm (s.monitors ++ [s.newMonitor info]) :=
    order.perm _
  refine ⟨?_, order.sorted _⟩
  rw [(hperm.map Monitor.name).nodup_iff, List.map_append, List.nodup_append]
  refine ⟨h.names, List.nodup_singleton _, ?_⟩
  intro name hname other hother
  obtain ⟨monitor, hmonitor, rfl⟩ := List.mem_map.mp hname
  rw [List.mem_singleton.mp hother]
  exact hnew monitor hmonitor

theorem Sorted.removeSerial {order : NameOrder} (h : s.Sorted order) (serial : ℕ) :
    (s.removeSerial serial).Sorted order := by
  unfold BrightnessModel.removeSerial
  cases s.monitors.find? fun monitor => monitor.serial = serial with
  | none => exact h
  | some monitor =>
    have hsublist : (s.monitors.erase monitor).Sublist s.monitors := List.erase_sublist
    exact ⟨h.names.sublist (hsublist.map _), h.sorted.sublist hsublist⟩

/-- Every step keeps the monitors sorted, if a new one has a new name. -/
theorem Sorted.step {order : NameOrder} (h : s.Sorted order) (e : ModelEvent)
    (hnew : s.NewName e) : (BrightnessModel.step order s e).Sorted order := by
  cases e with
  | monitorAdded info => exact h.monitorAdded hnew
  | monitorRemoved serial => exact h.removeSerial serial
  | setMonitorEnable serial enable =>
    refine h.map rfl ?_
    intro monitor
    split_ifs <;> rfl
  | setCanBrightness serial canBrightness => exact h.setMonitor serial fun _ => rfl
  | setMonitorPrimary serial primaryName => exact h.setMonitor serial fun _ => rfl
  | setPrimary primary => exact h.map rfl fun _ => rfl
  | setBuildin serial buildin => exact h.setMonitor serial fun _ => rfl
  | setBuildinMonitorName monitorName => exact h.map rfl fun _ => rfl
  | setDisplayMode mode =>
    simp only [BrightnessModel.step, setDisplayMode]
    split_ifs
    · exact ⟨h.names, h.sorted⟩
    · exact h

/-! ## When the order is the documented one -/

variable {order : LinearNameOrder}

/-- Monitors with the same name are the same. -/
theorem Sorted.eq_of_name (h : s.Sorted order.toNameOrder) {a b : Monitor} (ha : a ∈ s.monitors)
    (hb : b ∈ s.monitors) (hname : a.name = b.name) : a = b :=
  List.inj_on_of_nodup_map h.names ha hb hname

/-- The mode puts at most one monitor first. -/
theorem Single.preferred (h : s.Single) {a b : Monitor} (ha : a ∈ s.monitors)
    (hb : b ∈ s.monitors) (hpa : s.preferred a = true) (hpb : s.preferred b = true) : a = b := by
  unfold BrightnessModel.preferred at hpa hpb
  simp only [Bool.or_eq_true, Bool.and_eq_true, beq_iff_eq] at hpa hpb
  obtain ⟨hmirror, hba⟩ | ⟨hextend, hpra⟩ := hpa
  · obtain ⟨-, hbb⟩ | ⟨hextend, -⟩ := hpb
    · exact h.buildin a ha b hb hba hbb
    · exact absurd (hmirror.trans hextend.symm) (by decide)
  · obtain ⟨hmirror, -⟩ | ⟨-, hprb⟩ := hpb
    · exact absurd (hmirror.trans hextend.symm) (by decide)
    · exact h.primary a ha b hb hpra hprb

/-- The loop puts the preferred monitor first, and the built-in one. -/
theorem leads_iff (monitor : Monitor) :
    s.leads monitor = true ↔ s.preferred monitor = true ∨ monitor.buildin = true := by
  unfold leads preferred
  have hmirror : (displayModeMirror != 0) = true := rfl
  rw [hmirror, Bool.true_and]
  simp only [Bool.or_eq_true, Bool.and_eq_true]
  tauto

theorem rank_of_preferred {monitor : Monitor} (hcan : monitor.canBrightness = true)
    (h : s.preferred monitor = true) : s.rank monitor = 0 := by
  simp [rank, hcan, h]

theorem rank_of_not_preferred {monitor : Monitor} (hcan : monitor.canBrightness = true)
    (h : s.preferred monitor = false) : s.rank monitor = 1 := by
  simp [rank, hcan, h]

theorem rank_of_fixed {monitor : Monitor} (h : monitor ∈ s.fixed) : s.rank monitor = 2 := by
  unfold fixed at h
  have hboth := (List.mem_filter.mp h).2
  rw [Bool.and_eq_true] at hboth
  simp [rank, hboth.2]

theorem rank_of_adjustable {monitor : Monitor} (h : monitor ∈ s.adjustable) :
    s.rank monitor < 2 := by
  have hcan := (mem_adjustable.mp h).2.2
  cases hpreferred : s.preferred monitor with
  | true => rw [rank_of_preferred hcan hpreferred]; decide
  | false => rw [rank_of_not_preferred hcan hpreferred]; decide

/-- What is left to show: the monitors that the loop puts first are in order from the last one found
back to the first, and may come before the other adjustable ones. -/
theorem Sorted.ordered_iff (h : s.Sorted order.toNameOrder) :
    s.enabledMonitors.Pairwise (s.Precedes order.toNameOrder) ↔
      (s.adjustable.filter s.leads).Pairwise (fun a b => s.Precedes order.toNameOrder b a) ∧
      ∀ a ∈ s.adjustable, s.leads a = true → ∀ b ∈ s.adjustable, s.leads b = false →
        s.Precedes order.toNameOrder a b := by
  have hadjustable : s.adjustable.Pairwise fun a b => order.le a.name b.name :=
    h.sorted.sublist List.filter_sublist
  have hfixed : s.fixed.Pairwise (s.Precedes order.toNameOrder) := by
    have hsorted : s.fixed.Pairwise fun a b => order.le a.name b.name :=
      h.sorted.sublist List.filter_sublist
    refine hsorted.imp_of_mem ?_
    intro a b ha hb hle
    exact .inr ⟨by rw [rank_of_fixed ha, rank_of_fixed hb], hle⟩
  have hrest : (s.adjustable.filter fun monitor => !s.leads monitor).Pairwise
      (s.Precedes order.toNameOrder) := by
    have hsorted : (s.adjustable.filter fun monitor => !s.leads monitor).Pairwise
        fun a b => order.le a.name b.name := hadjustable.sublist List.filter_sublist
    -- none of these is preferred
    have hrank : ∀ a ∈ s.adjustable.filter (fun monitor => !s.leads monitor), s.rank a = 1 := by
      intro a ha
      obtain ⟨hmem, hnot⟩ := List.mem_filter.mp ha
      rw [Bool.not_eq_true', Bool.eq_false_iff, ne_eq, leads_iff, not_or] at hnot
      exact rank_of_not_preferred (mem_adjustable.mp hmem).2.2 (Bool.eq_false_iff.mpr hnot.1)
    refine hsorted.imp_of_mem ?_
    intro a b ha hb hle
    exact .inr ⟨by rw [hrank a ha, hrank b hb], hle⟩
  have hlast : ∀ a ∈ s.adjustable, ∀ b ∈ s.fixed, s.Precedes order.toNameOrder a b := by
    intro a ha b hb
    exact .inl (by rw [rank_of_fixed hb]; exact rank_of_adjustable ha)
  rw [enabledMonitors_eq, List.pairwise_append, List.pairwise_reverse, List.pairwise_append]
  constructor
  · intro hall
    obtain ⟨hleads, -, hcross⟩ := hall
    refine ⟨hleads, ?_⟩
    intro a ha hleada b hb hleadb
    refine hcross a ?_ b ?_
    · exact List.mem_reverse.mpr (List.mem_filter.mpr ⟨ha, hleada⟩)
    · exact List.mem_append_left _ (List.mem_filter.mpr ⟨hb, by rw [hleadb]; rfl⟩)
  · intro hboth
    obtain ⟨hleads, hcross⟩ := hboth
    refine ⟨hleads, ⟨hrest, hfixed, fun a ha b hb => hlast a (List.mem_filter.mp ha).1 b hb⟩, ?_⟩
    intro a ha b hb
    obtain ⟨hmem, hleada⟩ := List.mem_filter.mp (List.mem_reverse.mp ha)
    obtain hb | hb := List.mem_append.mp hb
    · obtain ⟨hmemb, hleadb⟩ := List.mem_filter.mp hb
      exact hcross a hmem hleada b hmemb (by simpa using hleadb)
    · exact hlast a hmem b hb

/-- Two monitors that the loop puts first, in the order of the model: the second one is put before
the first, which is right exactly if the mode prefers it and not the first. -/
theorem Sorted.precedes_back_iff (h : s.Sorted order.toNameOrder) {a b : Monitor}
    (ha : a ∈ s.adjustable) (hb : b ∈ s.adjustable) (hne : a ≠ b)
    (hle : order.le a.name b.name) :
    s.Precedes order.toNameOrder b a ↔ s.preferred b = true ∧ s.preferred a = false := by
  have hcana := (mem_adjustable.mp ha).2.2
  have hcanb := (mem_adjustable.mp hb).2.2
  have hnot : ¬order.le b.name a.name := by
    intro hback
    exact hne (h.eq_of_name (mem_adjustable.mp ha).1 (mem_adjustable.mp hb).1
      (order.antisymm hle hback))
  unfold Precedes
  cases hpa : s.preferred a with
  | true =>
    cases hpb : s.preferred b with
    | true => simp [rank_of_preferred hcana hpa, rank_of_preferred hcanb hpb, hnot]
    | false => simp [rank_of_preferred hcana hpa, rank_of_not_preferred hcanb hpb]
  | false =>
    cases hpb : s.preferred b with
    | true => simp [rank_of_not_preferred hcana hpa, rank_of_preferred hcanb hpb]
    | false => simp [rank_of_not_preferred hcana hpa, rank_of_not_preferred hcanb hpb, hnot]

/-- The order is the documented one if each built-in monitor is preferred or first by name. -/
theorem Sorted.ordered_of_buildinFirst (h : s.Sorted order.toNameOrder) (hsingle : s.Single)
    (hfirst : s.BuildinFirst order.toNameOrder) :
    s.enabledMonitors.Pairwise (s.Precedes order.toNameOrder) := by
  rw [h.ordered_iff]
  constructor
  · have hsorted : (s.adjustable.filter s.leads).Pairwise fun a b =>
        order.le a.name b.name ∧ a ≠ b := by
      have hnodup : s.monitors.Nodup := h.names.of_map _
      exact (h.sorted.and hnodup).sublist (List.filter_sublist.trans List.filter_sublist)
    refine hsorted.imp_of_mem ?_
    intro a b ha hb hboth
    obtain ⟨hle, hne⟩ := hboth
    obtain ⟨hmema, hleada⟩ := List.mem_filter.mp ha
    obtain ⟨hmemb, hleadb⟩ := List.mem_filter.mp hb
    have hina := (mem_adjustable.mp hmema).1
    have hinb := (mem_adjustable.mp hmemb).1
    rw [h.precedes_back_iff hmema hmemb hne hle]
    have hpb : s.preferred b = true := by
      obtain hpb | hbb := (leads_iff b).mp hleadb
      · exact hpb
      · refine (hfirst b hmemb hbb).resolve_right ?_
        intro hleast
        exact hne (h.eq_of_name hina hinb (order.antisymm hle (hleast a hmema)))
    refine ⟨hpb, Bool.eq_false_iff.mpr ?_⟩
    intro hpa
    exact hne (hsingle.preferred hina hinb hpa hpb)
  · intro a ha hleada b hb hleadb
    have hnotb : s.preferred b = false := by
      rw [Bool.eq_false_iff, ne_eq, leads_iff, not_or] at hleadb
      exact Bool.eq_false_iff.mpr hleadb.1
    have hrankb := rank_of_not_preferred (mem_adjustable.mp hb).2.2 hnotb
    have hcana := (mem_adjustable.mp ha).2.2
    cases hpa : s.preferred a with
    | true => exact .inl (by rw [rank_of_preferred hcana hpa, hrankb]; decide)
    | false =>
      have hba := ((leads_iff a).mp hleada).resolve_left (by rw [hpa]; decide)
      have hleast := (hfirst a ha hba).resolve_left (by rw [hpa]; decide)
      exact .inr ⟨by rw [rank_of_not_preferred hcana hpa, hrankb], hleast b hb⟩

/-- And only then. -/
theorem Sorted.buildinFirst_of_ordered (h : s.Sorted order.toNameOrder)
    (hordered : s.enabledMonitors.Pairwise (s.Precedes order.toNameOrder)) :
    s.BuildinFirst order.toNameOrder := by
  obtain ⟨hleads, hcross⟩ := h.ordered_iff.mp hordered
  intro buildin hmem hbuildin
  by_cases hpreferred : s.preferred buildin = true
  · exact .inl hpreferred
  refine .inr ?_
  intro monitor hmonitor
  rw [Bool.not_eq_true] at hpreferred
  have hleadb : s.leads buildin = true := (leads_iff buildin).mpr (.inr hbuildin)
  have hrankb := rank_of_not_preferred (mem_adjustable.mp hmem).2.2 hpreferred
  by_cases hsame : monitor = buildin
  · rw [hsame]
    exact (order.total _ _).elim id id
  · cases hleadm : s.leads monitor with
    | false =>
      have hnotm : s.preferred monitor = false := by
        rw [Bool.eq_false_iff, ne_eq, leads_iff, not_or] at hleadm
        exact Bool.eq_false_iff.mpr hleadm.1
      have hrankm := rank_of_not_preferred (mem_adjustable.mp hmonitor).2.2 hnotm
      obtain hlt | ⟨-, hle⟩ := hcross buildin hmem hleadb monitor hmonitor hleadm
      · rw [hrankb, hrankm] at hlt
        exact absurd hlt (lt_irrefl 1)
      · exact hle
    | true =>
      have hsorted : (s.adjustable.filter s.leads).Pairwise fun a b => order.le a.name b.name :=
        h.sorted.sublist (List.filter_sublist.trans List.filter_sublist)
      have heither : (s.adjustable.filter s.leads).Pairwise fun a b =>
          (s.Precedes order.toNameOrder b a ∧ order.le a.name b.name) ∨
            (s.Precedes order.toNameOrder a b ∧ order.le b.name a.name) :=
        (hleads.and hsorted).imp Or.inl
      have hsymm : Std.Symm fun a b : Monitor =>
          (s.Precedes order.toNameOrder b a ∧ order.le a.name b.name) ∨
            (s.Precedes order.toNameOrder a b ∧ order.le b.name a.name) := ⟨fun _ _ => Or.symm⟩
      have hpair := heither.forall (List.mem_filter.mpr ⟨hmonitor, hleadm⟩)
        (List.mem_filter.mpr ⟨hmem, hleadb⟩) hsame
      obtain ⟨hback, hle⟩ | ⟨-, hle⟩ := hpair
      · -- the built-in monitor was found later and is not preferred
        have hboth := (h.precedes_back_iff hmonitor hmem hsame hle).mp hback
        rw [hpreferred] at hboth
        cases hboth.1
      · exact hle

/-- After any history of monitors with different names, of which at most one is primary and at most
one is built in, the enabled ones are shown in the documented order exactly if an adjustable
built-in monitor is preferred by the mode or is the first by name. -/
theorem documented_iff (order : LinearNameOrder) (buildinMonitorName : String)
    (es : List ModelEvent)
    (hnames : Obeys (step order.toNameOrder) NewName (initial buildinMonitorName) es)
    (hsingle : (run (step order.toNameOrder) (initial buildinMonitorName) es).Single) :
    (run (step order.toNameOrder) (initial buildinMonitorName) es).Documented order.toNameOrder ↔
      (run (step order.toNameOrder) (initial buildinMonitorName) es).BuildinFirst
        order.toNameOrder := by
  have hsorted := run_invariant_of_obeys (I := Sorted order.toNameOrder)
    (fun _ e h hnew => h.step e hnew) (sorted_initial order.toNameOrder buildinMonitorName) hnames
  constructor
  · intro hdocumented
    exact hsorted.buildinFirst_of_ordered hdocumented.ordered
  · intro hfirst
    exact ⟨enabledMonitors_perm _, hsorted.ordered_of_buildinFirst hsingle hfirst⟩

/-- A primary monitor "DP-1" and the built-in monitor "eDP-1", in extended mode. -/
def extendedPair : List ModelEvent :=
  [.setDisplayMode displayModeExternd, .monitorAdded ⟨"/1", "DP-1", true, true, "DP-1"⟩,
    .monitorAdded ⟨"/2", "eDP-1", true, true, "DP-1"⟩]

theorem extendedPair_newNames :
    Obeys (step LinearNameOrder.ascending.toNameOrder) NewName (initial "eDP-1") extendedPair := by
  refine ⟨trivial, ?_, ?_, trivial⟩
  · decide
  · decide

theorem extendedPair_single :
    (run (step LinearNameOrder.ascending.toNameOrder) (initial "eDP-1") extendedPair).Single := by
  refine ⟨?_, ?_⟩
  · decide
  · decide

/-- The documented order of these two is that of the condition. -/
theorem documented_iff_extendedPair :
    (run (step LinearNameOrder.ascending.toNameOrder) (initial "eDP-1") extendedPair).Documented
        LinearNameOrder.ascending.toNameOrder ↔
      (run (step LinearNameOrder.ascending.toNameOrder) (initial "eDP-1") extendedPair).BuildinFirst
        LinearNameOrder.ascending.toNameOrder :=
  documented_iff .ascending "eDP-1" extendedPair extendedPair_newNames extendedPair_single

/-- They are shown with the built-in monitor first. -/
theorem not_documented_extendedPair :
    ¬∀ (order : LinearNameOrder) (buildinMonitorName : String) (es : List ModelEvent),
      Obeys (step order.toNameOrder) NewName (initial buildinMonitorName) es →
      (run (step order.toNameOrder) (initial buildinMonitorName) es).Single →
      (run (step order.toNameOrder) (initial buildinMonitorName) es).Documented
        order.toNameOrder := by
  intro hall
  have hdocumented := hall .ascending "eDP-1" extendedPair extendedPair_newNames
    extendedPair_single
  have hordered := hdocumented.ordered
  have hshown : (run (step LinearNameOrder.ascending.toNameOrder) (initial "eDP-1")
      extendedPair).enabledMonitors =
        [⟨1, "/2", "eDP-1", "DP-1", true, true, true⟩,
          ⟨0, "/1", "DP-1", "DP-1", true, true, false⟩] := by decide
  rw [hshown, List.pairwise_pair] at hordered
  obtain hlt | ⟨heq, -⟩ := hordered
  · revert hlt
    decide
  · revert heq
    decide

end BrightnessModel

end DdeTrayLoader.Brightness
