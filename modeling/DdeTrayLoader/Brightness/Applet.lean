import DdeTrayLoader.Brightness.Monitors
import DdeTrayLoader.Transition.Run
import Mathlib.Data.List.Nodup

/-!
# The brightness applet

`BrightnessApplet` has a slider container for each monitor that is to be shown. `updateMonitors`
takes the containers out of the layout and puts them back in the order of the model, each for the
monitor that has the container's name.

A container stays connected to the `Monitor` object that it was made for. `onMonitorListChanged`
adds before it removes, so a monitor that comes back under another path is there twice for a while,
and the container of the old object is then taken for the new one.
-/

namespace DdeTrayLoader.Brightness

open Tray (HashOrder)
open Transition

/-- A `SliderContainer`, with the monitor whose `brightnessChanged` it is connected to. -/
structure SliderContainer where
  serial : ℕ
  /-- Its property `MonitorName`, and its left tip. -/
  monitorName : String
  monitor : ℕ
  deriving DecidableEq, Repr

/-- What a container shows. -/
def SliderContainer.shown (container : SliderContainer) : String × ℕ :=
  (container.monitorName, container.monitor)

/-- What a container of the monitor is to show. -/
def Monitor.shown (monitor : Monitor) : String × ℕ := (monitor.name, monitor.serial)

/-- `BrightnessApplet`, with the number of containers that have been created. -/
structure BrightnessApplet where
  created : ℕ
  /-- The containers of `m_monitorsLayout`. -/
  monitorsLayout : List SliderContainer
  deriving DecidableEq, Repr

namespace BrightnessApplet

/-- The map of the containers by their names: of those with one name it has the last. -/
def sliderContainers (layout : List SliderContainer) : List SliderContainer :=
  layout.foldl (fun map slider => slider :: map.filter (·.monitorName ≠ slider.monitorName)) []

def addMonitor (applet : BrightnessApplet) (monitor : Monitor) : BrightnessApplet where
  created := applet.created + 1
  monitorsLayout := applet.monitorsLayout ++ [⟨applet.created, monitor.name, monitor.serial⟩]

/-- `m_monitorsLayout->removeWidget` of some containers. -/
def removeWidgets (applet : BrightnessApplet) (sliders : List SliderContainer) :
    BrightnessApplet :=
  { applet with monitorsLayout := applet.monitorsLayout.filter (· ∉ sliders) }

/-- The loop of `updateMonitors` over the monitors, for one of them. -/
def place (s : BrightnessApplet × List SliderContainer) (monitor : Monitor) :
    BrightnessApplet × List SliderContainer :=
  match s.2.find? (·.monitorName = monitor.name) with
  | none => (s.1.addMonitor monitor, s.2)
  | some slider =>
    ({ s.1 with monitorsLayout := s.1.monitorsLayout ++ [slider] },
      s.2.filter (·.monitorName ≠ monitor.name))

def updateMonitors (applet : BrightnessApplet) (monitors : List Monitor) : BrightnessApplet :=
  let sliders := sliderContainers applet.monitorsLayout
  let placed := monitors.foldl place (applet.removeWidgets sliders, sliders)
  placed.1.removeWidgets placed.2

/-- Containers with different names are all in the map. -/
theorem sliderContainers_of_nodup {layout : List SliderContainer}
    (hlayout : (layout.map SliderContainer.monitorName).Nodup) :
    sliderContainers layout = layout.reverse := by
  -- A container finds none of its name among those that the map has so far.
  have hfold : ∀ map : List SliderContainer,
      ((layout ++ map).map SliderContainer.monitorName).Nodup →
      layout.foldl (fun map slider => slider :: map.filter (·.monitorName ≠ slider.monitorName)) map
        = layout.reverse ++ map := by
    clear hlayout
    induction layout with
    | nil => intro map _; rfl
    | cons slider layout ih =>
      intro map hnames
      rw [List.cons_append, List.map_cons, List.nodup_cons] at hnames
      obtain ⟨hnew, hrest⟩ := hnames
      have hkeep : map.filter (·.monitorName ≠ slider.monitorName) = map := by
        rw [List.filter_eq_self]
        intro other hother
        rw [decide_eq_true_eq]
        intro hname
        exact hnew (hname ▸ List.mem_map_of_mem (List.mem_append_right layout hother))
      rw [List.foldl_cons, hkeep, ih (slider :: map), List.reverse_cons, List.append_assoc,
        List.singleton_append]
      rw [List.map_append, List.map_cons, List.nodup_middle, List.nodup_cons, ← List.map_append]
      exact ⟨hnew, hrest⟩
  rw [sliderContainers, hfold [] (by rwa [List.append_nil]), List.append_nil]

/-- Monitors with different names are placed one by one, each with the container of its name if
that one is connected to it. -/
theorem foldl_place {monitors : List Monitor} (s : BrightnessApplet × List SliderContainer)
    (hmonitors : (monitors.map Monitor.name).Nodup)
    (hfit : ∀ slider ∈ s.2, ∀ monitor ∈ monitors,
      slider.monitorName = monitor.name → slider.monitor = monitor.serial) :
    (monitors.foldl place s).1.monitorsLayout.map SliderContainer.shown =
        s.1.monitorsLayout.map SliderContainer.shown ++ monitors.map Monitor.shown ∧
      (monitors.foldl place s).2 =
        s.2.filter (·.monitorName ∉ monitors.map Monitor.name) := by
  induction monitors generalizing s with
  | nil => simp
  | cons monitor monitors ih =>
    rw [List.map_cons, List.nodup_cons] at hmonitors
    obtain ⟨hnew, hrest⟩ := hmonitors
    have hfilter : s.2.filter (·.monitorName ∉ (monitor :: monitors).map Monitor.name) =
        (s.2.filter (·.monitorName ≠ monitor.name)).filter
          (·.monitorName ∉ monitors.map Monitor.name) := by
      rw [List.filter_filter]
      refine List.filter_congr fun slider _ => ?_
      rw [← Bool.decide_and, decide_eq_decide, List.map_cons, List.mem_cons, not_or, and_comm]
    cases hfind : s.2.find? (·.monitorName = monitor.name) with
    | none =>
      have hplace : place s monitor = (s.1.addMonitor monitor, s.2) := by rw [place, hfind]
      have hkeep : s.2.filter (·.monitorName ≠ monitor.name) = s.2 := by
        rw [List.filter_eq_self]
        intro slider hslider
        simpa using List.find?_eq_none.mp hfind slider hslider
      obtain ⟨hshown, hleft⟩ := ih (place s monitor) hrest (by
        rw [hplace]
        exact fun slider hslider other hother =>
          hfit slider hslider other (List.mem_cons_of_mem _ hother))
      rw [List.foldl_cons, hshown, hleft, hplace, hfilter, hkeep]
      exact ⟨by simp [addMonitor, SliderContainer.shown, Monitor.shown], rfl⟩
    | some slider =>
      have hplace : place s monitor =
          ({ s.1 with monitorsLayout := s.1.monitorsLayout ++ [slider] },
            s.2.filter (·.monitorName ≠ monitor.name)) := by rw [place, hfind]
      have hname : slider.monitorName = monitor.name := by
        simpa using List.find?_some hfind
      have hmonitor : slider.monitor = monitor.serial :=
        hfit slider (List.mem_of_find?_eq_some hfind) monitor List.mem_cons_self hname
      obtain ⟨hshown, hleft⟩ := ih (place s monitor) hrest (by
        rw [hplace]
        exact fun other hother next hnext =>
          hfit other (List.mem_of_mem_filter hother) next (List.mem_cons_of_mem _ hnext))
      rw [List.foldl_cons, hshown, hleft, hplace, hfilter]
      exact ⟨by simp [SliderContainer.shown, Monitor.shown, hname, hmonitor], rfl⟩

/-- Monitors with different names are all shown, if the containers have different names and each
is connected to the monitor of its name. -/
theorem updateMonitors_shown (applet : BrightnessApplet) {monitors : List Monitor}
    (hlayout : (applet.monitorsLayout.map SliderContainer.monitorName).Nodup)
    (hmonitors : (monitors.map Monitor.name).Nodup)
    (hfit : ∀ slider ∈ applet.monitorsLayout, ∀ monitor ∈ monitors,
      slider.monitorName = monitor.name → slider.monitor = monitor.serial) :
    (applet.updateMonitors monitors).monitorsLayout.map SliderContainer.shown =
      monitors.map Monitor.shown := by
  have hempty : (applet.removeWidgets applet.monitorsLayout.reverse).monitorsLayout = [] := by
    rw [removeWidgets, List.filter_eq_nil_iff]
    intro slider hslider
    simpa using hslider
  obtain ⟨hshown, hleft⟩ := foldl_place
    (applet.removeWidgets applet.monitorsLayout.reverse, applet.monitorsLayout.reverse) hmonitors
    fun slider hslider => hfit slider (List.mem_reverse.mp hslider)
  rw [hempty, List.map_nil, List.nil_append] at hshown
  unfold updateMonitors
  rw [sliderContainers_of_nodup hlayout, removeWidgets]
  rw [List.filter_eq_self.mpr, hshown]
  -- What is in the layout has the name of a monitor, and what is left over has not.
  intro slider hslider
  have hname : slider.monitorName ∈ monitors.map Monitor.name := by
    have hpair := List.mem_map_of_mem (f := SliderContainer.shown) hslider
    rw [hshown, List.mem_map] at hpair
    obtain ⟨monitor, hmonitor, heq⟩ := hpair
    exact List.mem_map.mpr ⟨monitor, hmonitor, congrArg Prod.fst heq⟩
  rw [decide_eq_true_eq, hleft, List.mem_filter]
  intro hboth
  simp only [decide_eq_true_eq] at hboth
  exact hboth.2 hname

end BrightnessApplet

/-- The model and, once it has been created, the applet. -/
structure AppletSystem where
  model : BrightnessModel
  applet : Option BrightnessApplet
  deriving DecidableEq, Repr

/-- What happens to the monitors. -/
inductive AppletEvent where
  /-- The applet is created. -/
  | created
  /-- `MonitorsChanged`, with what the service says of the paths; `keys` is how the map of the
  monitors lists its keys. -/
  | monitorsChanged (mons : List MonitorInfo) (keys : HashOrder Monitor)
  | enabledChanged (serial : ℕ) (enable : Bool)
  | primaryChanged (primary : String)
  | displayModeChanged (mode : ℤ)

namespace AppletSystem

def initial (buildinMonitorName : String) : AppletSystem := ⟨.initial buildinMonitorName, none⟩

/-- A new state of the model, of which the applet is told. -/
def notify (s : AppletSystem) (model : BrightnessModel) : AppletSystem :=
  ⟨model, s.applet.map fun applet => applet.updateMonitors model.enabledMonitors⟩

/-- The applet is created for what the model has. -/
def createApplet (s : AppletSystem) : AppletSystem :=
  match s.applet with
  | none => { s with applet := some (.updateMonitors ⟨0, []⟩ s.model.enabledMonitors) }
  | some _ => s

/-- `BrightnessController::monitorAdded`. -/
def monitorAdded (order : NameOrder) (s : AppletSystem) (info : MonitorInfo) : AppletSystem :=
  s.notify (s.model.monitorAdded order info)

/-- `BrightnessController::monitorRemoved`. -/
def monitorRemoved (keys : HashOrder Monitor) (s : AppletSystem) (path : String) : AppletSystem :=
  match s.model.findPath keys path with
  | none => s
  | some monitor => s.notify (s.model.monitorRemoved monitor)

/-- The monitors of the list whose paths are not known. -/
def newcomers (s : AppletSystem) (mons : List MonitorInfo) : List MonitorInfo :=
  mons.filter fun info => info.path ∉ s.model.monitors.map Monitor.path

/-- The known paths that are not in the list, as `keys` orders them. -/
def leavers (keys : HashOrder Monitor) (s : AppletSystem) (mons : List MonitorInfo) :
    List String :=
  ((keys.list s.model.monitors).map Monitor.path).filter (· ∉ mons.map MonitorInfo.path)

def onMonitorListChanged (order : NameOrder) (keys : HashOrder Monitor) (s : AppletSystem)
    (mons : List MonitorInfo) : AppletSystem :=
  (s.leavers keys mons).foldl (monitorRemoved keys)
    ((s.newcomers mons).foldl (monitorAdded order) s)

/-- `Monitor::setMonitorEnable` of a live monitor. -/
def setMonitorEnable (s : AppletSystem) (serial : ℕ) (enable : Bool) : AppletSystem :=
  if ∃ monitor ∈ s.model.monitors, monitor.serial = serial ∧ monitor.enable ≠ enable then
    s.notify (s.model.setMonitorEnable serial enable)
  else s

def setPrimary (s : AppletSystem) (primary : String) : AppletSystem :=
  if s.model.primaryMonitorName ≠ primary then s.notify (s.model.setPrimary primary) else s

def setDisplayMode (s : AppletSystem) (mode : ℤ) : AppletSystem :=
  if s.model.displayMode ≠ mode ∧ 0 ≤ mode ∧ mode < 5 then
    s.notify { s.model with displayMode := mode }
  else s

def step (order : NameOrder) (s : AppletSystem) : AppletEvent → AppletSystem
  | .created => s.createApplet
  | .monitorsChanged mons keys => s.onMonitorListChanged order keys mons
  | .enabledChanged serial enable => s.setMonitorEnable serial enable
  | .primaryChanged primary => s.setPrimary primary
  | .displayModeChanged mode => s.setDisplayMode mode

/-- The layout shows the monitors that are to be shown, in their order, each with its name and
connected to the monitor itself. -/
def Shows (s : AppletSystem) : Prop :=
  ∀ applet ∈ s.applet,
    applet.monitorsLayout.map SliderContainer.shown = s.model.enabledMonitors.map Monitor.shown

/-- At no time of the event do two enabled monitors have one name while there is an applet. -/
def NamesDistinct (s : AppletSystem) : AppletEvent → Prop
  | .created => (s.model.enabled.map Monitor.name).Nodup
  | .monitorsChanged mons _ =>
    s.applet.isSome → (s.model.enabled.map Monitor.name ++
      ((s.newcomers mons).filter MonitorInfo.enabled).map MonitorInfo.name).Nodup
  | .enabledChanged serial enable =>
    s.applet.isSome → ((s.model.setMonitorEnable serial enable).enabled.map Monitor.name).Nodup
  | .primaryChanged _ => True
  | .displayModeChanged _ => True

/-- The layout shows what it is to show, and no two enabled monitors have one name. -/
structure Faithful (s : AppletSystem) : Prop where
  shows : s.Shows
  distinct : s.applet.isSome → (s.model.enabled.map Monitor.name).Nodup

/-- Two lists with different names each, one of which has all that the other shows, agree on what
they show under a name. -/
theorem serial_eq_of_subset {monitors others : List Monitor} {a b : Monitor}
    (hdistinct : (others.map Monitor.name).Nodup)
    (hsubset : monitors.map Monitor.shown ⊆ others.map Monitor.shown)
    (ha : a ∈ monitors) (hb : b ∈ others) (hname : a.name = b.name) : a.serial = b.serial := by
  obtain ⟨c, hc, hshown⟩ := List.mem_map.mp (hsubset (List.mem_map_of_mem ha))
  have hname' : c.name = a.name := congrArg Prod.fst hshown
  have hserial : c.serial = a.serial := congrArg Prod.snd hshown
  have hbc : c = b := List.inj_on_of_nodup_map hdistinct hc hb (hname'.trans hname)
  rw [← hserial, hbc]

/-- The applet follows a model that shows more than the one before, or less. -/
theorem Faithful.notify {s : AppletSystem} (hs : s.Faithful) {model : BrightnessModel}
    (hdistinct : s.applet.isSome → (model.enabled.map Monitor.name).Nodup)
    (hsubset : s.model.enabled.map Monitor.shown ⊆ model.enabled.map Monitor.shown ∨
      model.enabled.map Monitor.shown ⊆ s.model.enabled.map Monitor.shown) :
    (s.notify model).Faithful := by
  constructor
  · intro applet happlet
    obtain ⟨old, hold, rfl⟩ := Option.mem_map.mp happlet
    have hsome : s.applet.isSome := Option.isSome_of_mem hold
    have hshown := hs.shows old hold
    have hnames : old.monitorsLayout.map SliderContainer.monitorName =
        s.model.enabledMonitors.map Monitor.name := by
      have hfst := congrArg (List.map Prod.fst) hshown
      rwa [List.map_map, List.map_map] at hfst
    refine BrightnessApplet.updateMonitors_shown old ?_ ?_ ?_
    · rw [hnames]
      exact (s.model.enabledMonitors_perm.map Monitor.name).nodup_iff.mpr (hs.distinct hsome)
    · exact (model.enabledMonitors_perm.map Monitor.name).nodup_iff.mpr (hdistinct hsome)
    · intro slider hslider monitor hmonitor hname
      have hpair := List.mem_map_of_mem (f := SliderContainer.shown) hslider
      rw [hshown, List.mem_map] at hpair
      obtain ⟨before, hbefore, heq⟩ := hpair
      have hname' : before.name = slider.monitorName := congrArg Prod.fst heq
      have hserial : before.serial = slider.monitor := congrArg Prod.snd heq
      rw [s.model.enabledMonitors_perm.mem_iff] at hbefore
      rw [model.enabledMonitors_perm.mem_iff] at hmonitor
      rw [← hserial]
      cases hsubset with
      | inl hmore =>
        exact serial_eq_of_subset (hdistinct hsome) hmore hbefore hmonitor (hname'.trans hname)
      | inr hless =>
        exact (serial_eq_of_subset (hs.distinct hsome) hless hmonitor hbefore
          (hname'.trans hname).symm).symm
  · intro hsome
    exact hdistinct (by rwa [AppletSystem.notify, Option.isSome_map] at hsome)

@[simp] theorem isSome_notify (s : AppletSystem) (model : BrightnessModel) :
    (s.notify model).applet.isSome = s.applet.isSome := Option.isSome_map

/-- The enabled monitors after one was added. -/
theorem enabled_monitorAdded (order : NameOrder) (model : BrightnessModel) (info : MonitorInfo) :
    (model.monitorAdded order info).enabled.Perm
      (model.enabled ++ if info.enabled then [model.newMonitor info] else []) := by
  refine ((order.perm _).filter _).trans ?_
  rw [List.filter_append]
  cases henabled : info.enabled with
  | true => simp [BrightnessModel.enabled, BrightnessModel.newMonitor, henabled]
  | false => simp [BrightnessModel.enabled, BrightnessModel.newMonitor, henabled]

/-- The enabled monitors after one was removed are among those before. -/
theorem enabled_monitorRemoved (model : BrightnessModel) (monitor : Monitor) :
    (model.monitorRemoved monitor).enabled.Sublist model.enabled :=
  List.erase_sublist.filter _

/-- A monitor is added under a name that no enabled monitor has. -/
theorem Faithful.monitorAdded {s : AppletSystem} (hs : s.Faithful) (order : NameOrder)
    {info : MonitorInfo} {names : List String}
    (hdistinct : s.applet.isSome → (s.model.enabled.map Monitor.name ++
      (([info].filter MonitorInfo.enabled).map MonitorInfo.name ++ names)).Nodup) :
    (s.monitorAdded order info).Faithful ∧
      ((s.monitorAdded order info).applet.isSome →
        ((s.monitorAdded order info).model.enabled.map Monitor.name ++ names).Nodup) := by
  have hperm := enabled_monitorAdded order s.model info
  have hnames : s.applet.isSome →
      ((s.model.monitorAdded order info).enabled.map Monitor.name ++ names).Nodup := by
    intro hsome
    refine ((hperm.map Monitor.name).append_right names).nodup_iff.mpr ?_
    rw [List.map_append, List.append_assoc]
    have hdistinct := hdistinct hsome
    cases henabled : info.enabled with
    | true => simpa [henabled, BrightnessModel.newMonitor] using hdistinct
    | false => simpa [henabled] using hdistinct
  constructor
  · refine hs.notify (fun hsome => (hnames hsome).of_append_left) (.inl ?_)
    intro shown hshown
    rw [(hperm.map Monitor.shown).mem_iff, List.map_append]
    exact List.mem_append_left _ hshown
  · intro hsome
    exact hnames (by rwa [AppletSystem.monitorAdded, isSome_notify] at hsome)

/-- All the monitors that are new are added. -/
theorem Faithful.foldl_monitorAdded (order : NameOrder) {infos : List MonitorInfo}
    {s : AppletSystem} (hs : s.Faithful)
    (hdistinct : s.applet.isSome → (s.model.enabled.map Monitor.name ++
      (infos.filter MonitorInfo.enabled).map MonitorInfo.name).Nodup) :
    (infos.foldl (AppletSystem.monitorAdded order) s).Faithful := by
  induction infos generalizing s with
  | nil => exact hs
  | cons info infos ih =>
    rw [← List.singleton_append, List.filter_append, List.map_append] at hdistinct
    obtain ⟨hnext, hrest⟩ := hs.monitorAdded order hdistinct
    rw [List.foldl_cons]
    exact ih hnext hrest

/-- A monitor is removed. -/
theorem Faithful.monitorRemoved {s : AppletSystem} (hs : s.Faithful) (keys : HashOrder Monitor)
    (path : String) : (s.monitorRemoved keys path).Faithful := by
  unfold AppletSystem.monitorRemoved
  split
  · exact hs
  · next monitor _ =>
    have hsublist := enabled_monitorRemoved s.model monitor
    exact hs.notify (fun hsome => (hs.distinct hsome).sublist (hsublist.map _))
      (.inr (hsublist.map _).subset)

/-- All the monitors that are gone are removed. -/
theorem Faithful.foldl_monitorRemoved (keys : HashOrder Monitor) {paths : List String}
    {s : AppletSystem} (hs : s.Faithful) :
    (paths.foldl (AppletSystem.monitorRemoved keys) s).Faithful := by
  induction paths generalizing s with
  | nil => exact hs
  | cons path paths ih => exact ih (hs.monitorRemoved keys path)

/-- Enabling a monitor shows more, and disabling it shows less. -/
theorem enabled_setMonitorEnable (model : BrightnessModel) (serial : ℕ) (enable : Bool) :
    model.enabled.map Monitor.shown ⊆
        (model.setMonitorEnable serial enable).enabled.map Monitor.shown ∨
      (model.setMonitorEnable serial enable).enabled.map Monitor.shown ⊆
        model.enabled.map Monitor.shown := by
  cases enable with
  | true =>
    left
    intro shown hshown
    obtain ⟨monitor, hmonitor, rfl⟩ := List.mem_map.mp hshown
    obtain ⟨hmem, henable⟩ := List.mem_filter.mp hmonitor
    refine List.mem_map.mpr ⟨if monitor.serial = serial then { monitor with enable := true }
      else monitor, List.mem_filter.mpr ⟨List.mem_map_of_mem hmem, ?_⟩, ?_⟩
    · split_ifs
      · rfl
      · exact henable
    · split_ifs
      · rfl
      · rfl
  | false =>
    right
    intro shown hshown
    obtain ⟨monitor, hmonitor, rfl⟩ := List.mem_map.mp hshown
    obtain ⟨hmem, henable⟩ := List.mem_filter.mp hmonitor
    obtain ⟨before, hbefore, rfl⟩ := List.mem_map.mp hmem
    by_cases hserial : before.serial = serial
    · rw [if_pos hserial] at henable
      exact absurd henable Bool.false_ne_true
    · rw [if_neg hserial] at henable ⊢
      exact List.mem_map_of_mem (List.mem_filter.mpr ⟨hbefore, henable⟩)

/-- A new name of the primary monitor changes nothing that is shown. -/
theorem enabled_setPrimary (model : BrightnessModel) (primary : String) :
    (model.setPrimary primary).enabled =
      model.enabled.map fun monitor => { monitor with primary := primary } := by
  rw [BrightnessModel.enabled, BrightnessModel.setPrimary, List.filter_map]
  rfl

/-- A model that shows the same monitors in some order. -/
theorem Faithful.notify_same {s : AppletSystem} (hs : s.Faithful) {model : BrightnessModel}
    (hsame : model.enabled.map Monitor.shown = s.model.enabled.map Monitor.shown) :
    (s.notify model).Faithful := by
  have hnames : model.enabled.map Monitor.name = s.model.enabled.map Monitor.name := by
    have hfst := congrArg (List.map Prod.fst) hsame
    rwa [List.map_map, List.map_map] at hfst
  exact hs.notify (fun hsome => hnames ▸ hs.distinct hsome) (.inl (hsame ▸ List.Subset.refl _))

/-- The applet shows what there is when it is created. -/
theorem Faithful.createApplet {s : AppletSystem} (hs : s.Faithful)
    (hdistinct : (s.model.enabled.map Monitor.name).Nodup) : s.createApplet.Faithful := by
  unfold AppletSystem.createApplet
  split
  · constructor
    · intro applet happlet
      obtain rfl := Option.mem_some.mp happlet
      exact BrightnessApplet.updateMonitors_shown ⟨0, []⟩ List.nodup_nil
        ((s.model.enabledMonitors_perm.map Monitor.name).nodup_iff.mpr hdistinct)
        fun slider hslider => absurd hslider List.not_mem_nil
    · intro _
      exact hdistinct
  · exact hs

/-- A monitor is enabled or disabled. -/
theorem Faithful.setMonitorEnable {s : AppletSystem} (hs : s.Faithful) (serial : ℕ) (enable : Bool)
    (hdistinct : s.applet.isSome →
      ((s.model.setMonitorEnable serial enable).enabled.map Monitor.name).Nodup) :
    (s.setMonitorEnable serial enable).Faithful := by
  unfold AppletSystem.setMonitorEnable
  split_ifs
  · exact hs.notify hdistinct (enabled_setMonitorEnable s.model serial enable)
  · exact hs

/-- The primary monitor has another name. -/
theorem Faithful.setPrimary {s : AppletSystem} (hs : s.Faithful) (primary : String) :
    (s.setPrimary primary).Faithful := by
  unfold AppletSystem.setPrimary
  split_ifs
  · refine hs.notify_same ?_
    rw [enabled_setPrimary, List.map_map]
    rfl
  · exact hs

/-- The display mode is another one. -/
theorem Faithful.setDisplayMode {s : AppletSystem} (hs : s.Faithful) (mode : ℤ) :
    (s.setDisplayMode mode).Faithful := by
  unfold AppletSystem.setDisplayMode
  split_ifs
  · exact hs.notify_same rfl
  · exact hs

/-- What one event preserves. -/
theorem Faithful.step (order : NameOrder) {s : AppletSystem} (hs : s.Faithful) (e : AppletEvent)
    (hdistinct : s.NamesDistinct e) : (AppletSystem.step order s e).Faithful := by
  cases e with
  | created => exact hs.createApplet hdistinct
  | monitorsChanged mons keys =>
    exact (hs.foldl_monitorAdded order hdistinct).foldl_monitorRemoved keys
  | enabledChanged serial enable => exact hs.setMonitorEnable serial enable hdistinct
  | primaryChanged primary => exact hs.setPrimary primary
  | displayModeChanged mode => exact hs.setDisplayMode mode

/-- As long as no two enabled monitors have one name, the applet shows the model. -/
theorem shows_of_namesDistinct (order : NameOrder) (buildinMonitorName : String)
    (es : List AppletEvent)
    (hes : Obeys (AppletSystem.step order) NamesDistinct (initial buildinMonitorName) es) :
    Always (AppletSystem.step order) Shows (initial buildinMonitorName) es := by
  have hinitial : (initial buildinMonitorName).Faithful := by
    constructor
    · intro applet happlet
      exact absurd happlet (Option.not_mem_none applet)
    · intro hsome
      exact absurd hsome Bool.false_ne_true
  exact always_of_obeys (I := Faithful) (fun s e hs hC => hs.step order e hC)
    (fun s hs => hs.shows) hinitial hes

/-- Two monitors, of which one is disabled and enabled again, and then goes. -/
def plugAndUnplug : List AppletEvent :=
  [.created, .monitorsChanged [⟨"/1", "eDP-1", true, true, "eDP-1"⟩,
      ⟨"/2", "HDMI-1", true, true, "eDP-1"⟩] (.stored Monitor),
    .displayModeChanged 2, .primaryChanged "eDP-1", .enabledChanged 0 false,
    .enabledChanged 0 true, .monitorsChanged [⟨"/1", "eDP-1", true, true, "eDP-1"⟩]
      (.stored Monitor)]

theorem shows_plugAndUnplug :
    Always (AppletSystem.step .ascending) Shows (initial "eDP-1") plugAndUnplug := by
  apply shows_of_namesDistinct
  simp only [plugAndUnplug, Obeys, NamesDistinct]
  decide

/-- The monitor comes back under another path, and its container stays with the old object. -/
theorem not_shows_anotherPath :
    ¬Always (AppletSystem.step .ascending) Shows (initial "eDP-1")
      [.created, .monitorsChanged [⟨"/1", "HDMI-1", true, true, ""⟩] (.stored Monitor),
        .monitorsChanged [⟨"/2", "HDMI-1", true, true, ""⟩] (.stored Monitor)] := by
  intro hshows
  have hlast := hshows.2.2.2
  revert hlast
  simp only [Always, Shows]
  decide

end AppletSystem

end DdeTrayLoader.Brightness
