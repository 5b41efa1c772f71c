import DdeTrayLoader.Loader.PluginManager
import DdeTrayLoader.Lists.Classes
import DdeTrayLoader.Transition.Run

/-!
# The loader process

A process loads the plugins of one group, or those of given paths. It starts inside the private
compositor of the dock, with an environment for that; between two plugins the callbacks of those
that are loaded run with the environment of the session. Plugins and callbacks may change the
environment, which they share.

`loads`, `observed` and `finished` are bookkeeping of the model: the plugins so far with the
environment in which each was loaded, the environments in which callbacks ran, and the
`loadingFinished` signals.
-/

namespace DdeTrayLoader.Loader

open DdeTrayLoader.Lists DdeTrayLoader.Transition

/-- What a process finds when it starts. -/
structure Installation where
  fileSystem : FileSystem
  plugins : Plugins
  /-- The configuration of the groups, when it is valid. -/
  config : Option GroupConfig
  /-- What the construction of `LoaderApplication` does to the environment. -/
  construct : Env → Env

/-- The options that are set. -/
structure Options where
  /-- `-p` -/
  pluginPaths : Option (List Char)
  /-- `-g` -/
  pluginGroupName : Option String
  /-- `--group` -/
  pluginGroupLoad : Option String

/-- The process, from the call of `loadPlugins` on. -/
structure Process where
  manager : PluginManager
  env : Env
  oldEnvs : List (String × String)
  pluginEnvs : List (String × String)
  displayGroupName : String
  applicationName : String
  /-- The argument of `app.exit`. -/
  exitCode : Option ℤ
  /-- How many single shots of `loadNextPlugin` are posted. -/
  timers : ℕ
  loads : List (Path × Env)
  observed : List Env
  finished : List Bool

/-- A turn of the event loop: a single shot, or a callback of a plugin with what it does to the
environment. -/
inductive Event
  | timeout
  | callback (change : Env → Env)

namespace Event

def isTimeout : Event → Bool
  | timeout => true
  | callback _ => false

/-- The event does not change the variable, unless it loads a plugin. -/
def Leaves (name : String) : Event → Prop
  | timeout => True
  | callback change => ∀ env, change env name = env name

end Event

/-- How `main` goes on. -/
inductive Outcome
  | exit (code : ℤ)
  | exec (process : Process)

/-! ## The environments -/

/-- The variables that are switched between plugins and callbacks, in ascending order. -/
def envNames : List String :=
  ["DSG_APP_ID", "QT_IM_MODULE", "QT_SCALE_FACTOR", "QT_WAYLAND_RECONNECT",
    "QT_WAYLAND_SHELL_INTEGRATION", "WAYLAND_DISPLAY"]

/-- What `main` puts into the environment before the application is constructed. -/
def compositorEnvs : List (String × String) :=
  [("DSG_APP_ID", "org.deepin.dde.tray-loader"), ("WAYLAND_DISPLAY", "dockplugin"),
    ("QT_WAYLAND_SHELL_INTEGRATION", "plugin-shell"), ("QT_WAYLAND_RECONNECT", "1"),
    ("QT_IM_MODULE", "wayland")]

/-- The environment in which the application is running. -/
def Installation.startEnv (installation : Installation) (env : Env) : Env :=
  installation.construct (applyEnvs compositorEnvs env)

/-- The values of the session, where the scale factor is empty. -/
def oldEnvs (env : Env) : List (String × String) :=
  envNames.map fun name => (name, if name = "QT_SCALE_FACTOR" then "" else qgetenv env name)

def pluginEnvs (env : Env) : List (String × String) :=
  envNames.map fun name => (name, qgetenv env name)

/-! ## The program -/

/-- The end of `main`, which hands the paths to the manager. -/
def start (installation : Installation) (env : Env) (pluginPaths : List Path)
    (displayGroupName : String) : Process where
  manager := loadPlugins installation.fileSystem pluginPaths
  env := applyEnvs (oldEnvs env) (installation.startEnv env)
  oldEnvs := oldEnvs env
  pluginEnvs := pluginEnvs (installation.startEnv env)
  displayGroupName := displayGroupName
  applicationName := "org.deepin.dde.tray-loader"
  exitCode := none
  timers := 1
  loads := []
  observed := []
  finished := []

/-- The plugin paths that the process finds for a group. -/
def Installation.pathsForGroup (installation : Installation) (env : Env) (groupName : String) :
    Option (List Path) :=
  pluginPathsForGroup installation.config
    (allPluginPaths installation.fileSystem (qgetenv env "TRAY_DEBUG_PLUGIN_PATH").toList) groupName

/-- The name to show: that of `-g`, or the group. -/
def displayName (options : Options) (pluginGroupName : String) : String :=
  if options.pluginGroupName.getD "" = "" then pluginGroupName
  else options.pluginGroupName.getD ""

def main (installation : Installation) (env : Env) (options : Options) : Outcome :=
  match options.pluginPaths, options.pluginGroupLoad with
  | none, none | some _, some _ => .exit 1
  | none, some groupName =>
    if isValidGroup groupName then
      match installation.pathsForGroup (installation.startEnv env) groupName with
      | none => .exit 2
      | some [] => .exit 0
      | some paths => .exec (start installation env paths (displayName options groupName))
    else .exit 1
  | some paths, none =>
    .exec (start installation env ((split [';'] paths).filter (· ≠ [])) (displayName options ""))

/-- `main` with `--check-group` and what comes after it. -/
def checkGroup (installation : Installation) (env : Env) (arguments : List String) : ℤ :=
  match arguments with
  | [groupName] =>
    if isValidGroup groupName then
      match installation.pathsForGroup env groupName with
      | none => 255
      | some paths => if paths = [] then 1 else 0
    else 255
  | _ => 255

/-! ## The event loop -/

namespace Process

/-- The handler of `loadingFinished`. -/
def loadingFinished (s : Process) (success : Bool) : Process :=
  let s := { s with finished := s.finished ++ [success] }
  if success then
    let name :=
      if s.displayGroupName = "" then s.manager.loadedPlugins.headD "" else s.displayGroupName
    { s with displayGroupName := name, applicationName := name }
  else { s with exitCode := some (-1) }

/-- `loadNextPlugin`, when there is a plugin to load, with the handlers of `pluginLoadStarted` and
`pluginLoadFinished`. -/
def loadNext (plugins : Plugins) (s : Process) (path : Path) (rest : List Path) : Process :=
  let env := applyEnvs s.pluginEnvs s.env
  let after := loadPlugin plugins { s.manager with pendingPluginPaths := rest } env path
  { s with
    manager := after.1
    env := applyEnvs s.oldEnvs after.2
    timers := s.timers + 1
    loads := s.loads ++ [(path, env)] }

def loadNextPlugin (plugins : Plugins) (s : Process) : Process :=
  match s.manager.pendingPluginPaths with
  | [] => s.loadingFinished (s.manager.loadedPlugins ≠ [])
  | path :: rest => s.loadNext plugins path rest

theorem loadNextPlugin_of_nil {plugins : Plugins} {s : Process}
    (h : s.manager.pendingPluginPaths = []) :
    s.loadNextPlugin plugins = s.loadingFinished (s.manager.loadedPlugins ≠ []) := by
  unfold loadNextPlugin
  rw [h]

theorem loadNextPlugin_of_cons {plugins : Plugins} {s : Process} {path : Path} {rest : List Path}
    (h : s.manager.pendingPluginPaths = path :: rest) :
    s.loadNextPlugin plugins = s.loadNext plugins path rest := by
  unfold loadNextPlugin
  rw [h]

/-- One turn of the event loop, which ends when the application exits. -/
def step (plugins : Plugins) (s : Process) : Event → Process
  | .timeout =>
    if s.exitCode = none ∧ s.timers ≠ 0 then
      { s with timers := s.timers - 1 }.loadNextPlugin plugins
    else s
  | .callback change =>
    if s.exitCode = none then { s with observed := s.observed ++ [s.env], env := change s.env }
    else s

end Process

/-- The options to load a group. -/
def groupOptions (groupName : String) : Options := ⟨none, none, some groupName⟩

/-- `--check-group` tells apart a group that has plugins, one that has none, and an error, as
`--group` does. -/
theorem checkGroup_eq (installation : Installation) {env : Env}
    (hpath : qgetenv (installation.startEnv env) "TRAY_DEBUG_PLUGIN_PATH" =
      qgetenv env "TRAY_DEBUG_PLUGIN_PATH") (groupName : String) :
    checkGroup installation env [groupName] =
      match main installation env (groupOptions groupName) with
      | .exec _ => 0
      | .exit code => if code = 0 then 1 else 255 := by
  have hsame : installation.pathsForGroup (installation.startEnv env) groupName =
      installation.pathsForGroup env groupName := by
    unfold Installation.pathsForGroup
    rw [hpath]
  unfold checkGroup main groupOptions
  dsimp only
  rw [hsame]
  cases isValidGroup groupName with
  | false => rfl
  | true =>
    cases installation.pathsForGroup env groupName with
    | none => rfl
    | some paths =>
      cases paths with
      | nil => rfl
      | cons path paths => rfl

/-! ## What holds throughout a run -/

/-- The environment has the values: what is empty is not set. -/
def Has (envs : List (String × String)) (env : Env) : Prop :=
  ∀ entry ∈ envs, env entry.1 = if entry.2 = "" then none else some entry.2

/-- A variable that is not listed stays. -/
theorem applyEnvs_of_notMem {envs : List (String × String)} {name : String}
    (h : name ∉ envs.map Prod.fst) (env : Env) : applyEnvs envs env name = env name := by
  induction envs generalizing env with
  | nil => rfl
  | cons entry envs ih =>
    rw [List.map_cons, List.mem_cons, not_or] at h
    change applyEnvs envs (applyEnv env entry) name = _
    rw [ih h.2, applyEnv, Function.update_of_ne h.1]

theorem has_applyEnvs {envs : List (String × String)} (h : (envs.map Prod.fst).Nodup) (env : Env) :
    Has envs (applyEnvs envs env) := by
  induction envs generalizing env with
  | nil => exact fun _ h => absurd h List.not_mem_nil
  | cons entry envs ih =>
    obtain ⟨hentry, hrest⟩ := List.nodup_cons.mp h
    intro entry' hmem
    change applyEnvs envs (applyEnv env entry) entry'.1 = _
    rcases List.mem_cons.mp hmem with rfl | hmem
    · rw [applyEnvs_of_notMem hentry, applyEnv, Function.update_self]
    · exact ih hrest _ entry' hmem

theorem names_oldEnvs (env : Env) : ((oldEnvs env).map Prod.fst).Nodup := by
  rw [oldEnvs, List.map_map]
  exact (by decide : envNames.Nodup)

theorem names_pluginEnvs (env : Env) : ((pluginEnvs env).map Prod.fst).Nodup := by
  rw [pluginEnvs, List.map_map]
  exact (by decide : envNames.Nodup)

/-- What holds while the plugins of `paths` are loaded between the values of the session and those
of the compositor. -/
structure Loading (plugins : Plugins) (paths : List Path) (old new : List (String × String))
    (s : Process) : Prop where
  oldEnvs : s.oldEnvs = old
  pluginEnvs : s.pluginEnvs = new
  order : s.loads.map Prod.fst ++ s.manager.pendingPluginPaths = paths
  loaded : s.manager.loadedPlugins =
    s.loads.flatMap fun load => (loadable plugins load.2 load.1).toList
  loads : ∀ load ∈ s.loads, Has new load.2
  progress : s.exitCode = none ∧ s.timers = 1 ∧ s.finished = [] ∨
    s.timers = 0 ∧ s.manager.pendingPluginPaths = [] ∧
      s.finished = [decide (s.manager.loadedPlugins ≠ [])]

section
variable {plugins : Plugins} {paths : List Path} {old new : List (String × String)} {s : Process}

/-- A plugin is loaded with the environment of the compositor. -/
theorem Loading.load (hs : Loading plugins paths old new s) (hnew : (new.map Prod.fst).Nodup)
    (hexit : s.exitCode = none) (htimers : s.timers = 1)
    (hfinished : s.finished = []) {path : Path} {rest : List Path}
    (hpending : s.manager.pendingPluginPaths = path :: rest) :
    Loading plugins paths old new ({ s with timers := s.timers - 1 }.loadNextPlugin plugins) := by
  have htimer : ({ s with timers := s.timers - 1 } : Process).manager.pendingPluginPaths =
    path :: rest := hpending
  rw [Process.loadNextPlugin_of_cons htimer]
  constructor
  case oldEnvs => exact hs.oldEnvs
  case pluginEnvs => exact hs.pluginEnvs
  case order =>
    change (s.loads ++ [_]).map Prod.fst ++ rest = paths
    rw [← hs.order, hpending, List.map_append, List.append_assoc]
    rfl
  case loaded =>
    change s.manager.loadedPlugins ++ _ = (s.loads ++ [_]).flatMap _
    rw [hs.loaded, List.flatMap_append, List.flatMap_singleton]
  case loads =>
    intro load hload
    rcases List.mem_append.mp hload with hbefore | hnow
    · exact hs.loads load hbefore
    · rw [List.mem_singleton.mp hnow, hs.pluginEnvs]
      exact has_applyEnvs hnew _
  case progress => exact .inl ⟨hexit, congrArg (· - 1 + 1) htimers, hfinished⟩

/-- With nothing left to load, the end is announced. -/
theorem Loading.finish (hs : Loading plugins paths old new s) (htimers : s.timers = 1)
    (hfinished : s.finished = []) (hpending : s.manager.pendingPluginPaths = []) :
    Loading plugins paths old new ({ s with timers := s.timers - 1 }.loadNextPlugin plugins) := by
  have htimer : ({ s with timers := s.timers - 1 } : Process).manager.pendingPluginPaths = [] :=
    hpending
  rw [Process.loadNextPlugin_of_nil htimer]
  have hend : s.finished ++ [decide (s.manager.loadedPlugins ≠ [])] =
      [decide (s.manager.loadedPlugins ≠ [])] := by rw [hfinished, List.nil_append]
  have hzero : s.timers - 1 = 0 := by rw [htimers]
  unfold Process.loadingFinished
  dsimp only
  split
  · exact { hs with progress := .inr ⟨hzero, hpending, hend⟩ }
  · exact { hs with progress := .inr ⟨hzero, hpending, hend⟩ }

theorem Loading.step (hs : Loading plugins paths old new s) (hnew : (new.map Prod.fst).Nodup)
    (e : Event) :
    Loading plugins paths old new (s.step plugins e) := by
  cases e with
  | timeout =>
    change Loading plugins paths old new (if _ then _ else s)
    split_ifs with hready
    · rcases hs.progress with ⟨hexit, htimers, hfinished⟩ | ⟨htimers, -⟩
      · cases hpending : s.manager.pendingPluginPaths with
        | nil => exact hs.finish htimers hfinished hpending
        | cons path rest => exact hs.load hnew hexit htimers hfinished hpending
      · exact absurd htimers hready.2
    · exact hs
  | callback change =>
    change Loading plugins paths old new (if _ then _ else s)
    split_ifs
    · exact { hs with }
    · exact hs

/-- A load leaves the environment of the session. -/
theorem Loading.has_old (hs : Loading plugins paths old new s) (hold : (old.map Prod.fst).Nodup)
    (hpending : s.manager.pendingPluginPaths ≠ []) : Has old (s.step plugins .timeout).env := by
  obtain ⟨path, rest, hcons⟩ := List.exists_cons_of_ne_nil hpending
  rcases hs.progress with ⟨hexit, htimers, -⟩ | ⟨-, hnil, -⟩
  · have hready : s.exitCode = none ∧ s.timers ≠ 0 :=
      ⟨hexit, by rw [htimers]; exact Nat.one_ne_zero⟩
    have htimer : ({ s with timers := s.timers - 1 } : Process).manager.pendingPluginPaths =
      path :: rest := hcons
    change Has old (if _ then _ else s).env
    rw [if_pos hready, Process.loadNextPlugin_of_cons htimer]
    change Has old (applyEnvs s.oldEnvs _)
    rw [hs.oldEnvs]
    exact has_applyEnvs hold _
  · exact absurd hnil hpending

/-- A variable has its value of the session, and had it in every callback. -/
structure InSession (entry : String × String) (s : Process) : Prop where
  now : s.env entry.1 = if entry.2 = "" then none else some entry.2
  observed : ∀ env ∈ s.observed, env entry.1 = if entry.2 = "" then none else some entry.2

/-- It keeps it unless a callback changes it. -/
theorem InSession.step {entry : String × String} (h : InSession entry s)
    (hs : Loading plugins paths old new s) (hold : (old.map Prod.fst).Nodup) (hentry : entry ∈ old)
    {e : Event} (he : e.Leaves entry.1) : InSession entry (s.step plugins e) := by
  cases e with
  | callback change =>
    change InSession entry (if _ then _ else s)
    split_ifs
    · refine ⟨(he s.env).trans h.now, fun env henv => ?_⟩
      rcases List.mem_append.mp henv with hbefore | hnow
      · exact h.observed env hbefore
      · rw [List.mem_singleton.mp hnow]
        exact h.now
    · exact h
  | timeout =>
    have hobserved : (s.step plugins .timeout).observed = s.observed := by
      change (if _ then _ else s).observed = _
      split_ifs
      · unfold Process.loadNextPlugin
        split
        · unfold Process.loadingFinished
          dsimp only
          split <;> rfl
        · rfl
      · rfl
    refine ⟨?_, by rw [hobserved]; exact h.observed⟩
    by_cases hpending : s.manager.pendingPluginPaths = []
    · have henv : (s.step plugins .timeout).env = s.env := by
        have htimer : ({ s with timers := s.timers - 1 } : Process).manager.pendingPluginPaths =
          [] := hpending
        change (if _ then _ else s).env = _
        rw [Process.loadNextPlugin_of_nil htimer]
        unfold Process.loadingFinished
        dsimp only
        split_ifs <;> rfl
      rw [henv]
      exact h.now
    · exact hs.has_old hold hpending entry hentry

end

theorem loading_start (installation : Installation) (env : Env) (paths : List Path)
    (displayGroupName : String) :
    Loading installation.plugins (paths.flatMap (found installation.fileSystem)) (oldEnvs env)
      (pluginEnvs (installation.startEnv env)) (start installation env paths displayGroupName) where
  oldEnvs := rfl
  pluginEnvs := rfl
  order := foldl_collect_eq installation.fileSystem [] paths
  loaded := rfl
  loads := nofun
  progress := .inl ⟨rfl, rfl, rfl⟩

theorem loading_run (installation : Installation) (env : Env) (paths : List Path)
    (displayGroupName : String) (es : List Event) :
    Loading installation.plugins (paths.flatMap (found installation.fileSystem)) (oldEnvs env)
      (pluginEnvs (installation.startEnv env))
      (run (Process.step installation.plugins) (start installation env paths displayGroupName)
        es) :=
  run_invariant (fun _ e hs => hs.step (names_pluginEnvs _) e) es
    (loading_start installation env paths displayGroupName)

/-- In every run, whatever plugins and callbacks do to the environment, each plugin is loaded with
the values that the compositor's variables had at the start, and leaves the values of the session;
and a callback finds the value of the session in every variable that no callback changes. -/
theorem environments (installation : Installation) (env : Env) (paths : List Path)
    (displayGroupName : String) (es : List Event) :
    let s := run (Process.step installation.plugins)
      (start installation env paths displayGroupName) es
    (∀ load ∈ s.loads, Has (pluginEnvs (installation.startEnv env)) load.2) ∧
      (s.manager.pendingPluginPaths ≠ [] →
        Has (oldEnvs env) (s.step installation.plugins .timeout).env) ∧
      ∀ entry ∈ oldEnvs env, (∀ e ∈ es, e.Leaves entry.1) →
        ∀ observed ∈ s.observed,
          observed entry.1 = if entry.2 = "" then none else some entry.2 := by
  intro s
  have hs := loading_run installation env paths displayGroupName es
  refine ⟨hs.loads, hs.has_old (names_oldEnvs env), fun entry hentry hleaves => ?_⟩
  have hstart : InSession entry (start installation env paths displayGroupName) :=
    ⟨has_applyEnvs (names_oldEnvs env) _ entry hentry, nofun⟩
  have hboth := run_invariant_of_mem
    (I := fun s => Loading installation.plugins (paths.flatMap (found installation.fileSystem))
      (oldEnvs env) (pluginEnvs (installation.startEnv env)) s ∧ InSession entry s)
    (fun e he s hs => ⟨hs.1.step (names_pluginEnvs _) e,
      hs.2.step hs.1 (names_oldEnvs env) hentry (hleaves e he)⟩)
    ⟨loading_start installation env paths displayGroupName, hstart⟩
  exact hboth.2.observed

/-! ## Every plugin once -/

/-- How many single shots it takes until the end is announced. -/
def remaining (s : Process) : ℕ :=
  if s.finished = [] then s.manager.pendingPluginPaths.length + 1 else 0

/-- A single shot takes one step towards the end. -/
theorem Loading.remaining_step {plugins : Plugins} {paths : List Path}
    {old new : List (String × String)} {s : Process} (hs : Loading plugins paths old new s)
    (e : Event) :
    remaining (s.step plugins e) = remaining s - if e.isTimeout then 1 else 0 := by
  cases e with
  | callback change =>
    change remaining (if _ then _ else s) = remaining s
    split_ifs
    · rfl
    · rfl
  | timeout =>
    change remaining (if _ then _ else s) = remaining s - 1
    rcases hs.progress with ⟨hexit, htimers, hfinished⟩ | ⟨htimers, -, hfinished⟩
    · have htimersne : s.timers ≠ 0 := by
        rw [htimers]
        exact Nat.one_ne_zero
      have hbefore : remaining s = s.manager.pendingPluginPaths.length + 1 := if_pos hfinished
      rw [if_pos ⟨hexit, htimersne⟩, hbefore, Nat.add_sub_cancel]
      cases hpending : s.manager.pendingPluginPaths with
      | nil =>
        have htimer : ({ s with timers := s.timers - 1 } : Process).manager.pendingPluginPaths =
          [] := hpending
        rw [Process.loadNextPlugin_of_nil htimer]
        refine if_neg ?_
        unfold Process.loadingFinished
        dsimp only
        split
        · exact List.append_ne_nil_of_right_ne_nil _ (List.cons_ne_nil _ _)
        · exact List.append_ne_nil_of_right_ne_nil _ (List.cons_ne_nil _ _)
      | cons path rest =>
        have htimer : ({ s with timers := s.timers - 1 } : Process).manager.pendingPluginPaths =
          path :: rest := hpending
        rw [Process.loadNextPlugin_of_cons htimer]
        exact if_pos hfinished
    · have hafter : remaining s = 0 := by
        refine if_neg ?_
        rw [hfinished]
        exact List.cons_ne_nil _ _
      rw [if_neg fun hready => hready.2 htimers, hafter]

theorem Loading.remaining_run {plugins : Plugins} {paths : List Path}
    {old new : List (String × String)} {s : Process} (hs : Loading plugins paths old new s)
    (hnew : (new.map Prod.fst).Nodup) (es : List Event) :
    remaining (run (Process.step plugins) s es) = remaining s - es.countP Event.isTimeout := by
  induction es generalizing s with
  | nil => rfl
  | cons e es ih =>
    rw [run_cons, ih (hs.step hnew e), hs.remaining_step, List.countP_cons, Nat.sub_sub,
      Nat.add_comm]

/-- In every run `loadPlugin` is called for the plugins in the order in which they are found, for
each as often as it is found. After one single shot for each of them and one more, it has been for
all, and `loadingFinished` has been emitted once, with success when one of them had an interface. -/
theorem loads_in_order (installation : Installation) (env : Env) (paths : List Path)
    (displayGroupName : String) (es : List Event) :
    let all := paths.flatMap (found installation.fileSystem)
    let s := run (Process.step installation.plugins)
      (start installation env paths displayGroupName) es
    s.loads.map Prod.fst <+: all ∧ (all.length < es.countP Event.isTimeout →
      s.loads.map Prod.fst = all ∧ s.finished = [decide (s.manager.loadedPlugins ≠ [])] ∧
        s.manager.loadedPlugins =
          s.loads.flatMap fun load => (loadable installation.plugins load.2 load.1).toList) := by
  intro all s
  have hs := loading_run installation env paths displayGroupName es
  refine ⟨⟨_, hs.order⟩, fun hcount => ?_⟩
  have hstart := loading_start installation env paths displayGroupName
  have hremaining : remaining s = 0 := by
    have hrun := hstart.remaining_run (names_pluginEnvs _) es
    have hlength : remaining (start installation env paths displayGroupName) = all.length + 1 := by
      change (paths.foldl (collect installation.fileSystem) []).length + 1 = _
      rw [foldl_collect_eq]
      rfl
    rw [hrun, hlength]
    omega
  rcases hs.progress with ⟨-, -, hfinished⟩ | ⟨-, hpending, hfinished⟩
  · rw [remaining, if_pos hfinished] at hremaining
    contradiction
  · have horder := hs.order
    rw [hpending, List.append_nil] at horder
    exact ⟨horder, hfinished, hs.loaded⟩

/-! ## The processes of the groups -/

/-- The plugins that the process of a group has tried to load after some turns. -/
def attempted (installation : Installation) (env : Env) (groupName : String) (es : List Event) :
    List Path :=
  match main installation env (groupOptions groupName) with
  | .exit _ => []
  | .exec process => (run (Process.step installation.plugins) process es).loads.map Prod.fst

/-- The plugins that the processes find. -/
def Installation.allPaths (installation : Installation) (env : Env) : List Path :=
  allPluginPaths installation.fileSystem
    (qgetenv (installation.startEnv env) "TRAY_DEBUG_PLUGIN_PATH").toList

/-- The files that are found in the plugin directories are what the manager collects of them. -/
theorem flatMap_found {installation : Installation} {env : Env} {paths : List Path}
    (hpaths : paths ⊆ installation.allPaths env) :
    paths.flatMap (found installation.fileSystem) = paths := by
  have hone : ∀ path ∈ paths, found installation.fileSystem path = [path] := by
    intro path hmem
    obtain ⟨dir, -, hdir⟩ := List.mem_flatMap.mp (hpaths hmem)
    unfold found
    rw [find_of_mem_pluginsIn hdir]
  rw [List.flatMap_congr hone]
  exact List.flatMap_singleton' paths

/-- The process of a group tries to load the plugins of the group. -/
theorem attempted_eq {installation : Installation} {config : GroupConfig}
    (hconfig : installation.config = some config) (env : Env) {groupName : String}
    (hgroup : groupName ∈ groups) {es : List Event}
    (hes : (installation.allPaths env).length < es.countP Event.isTimeout) :
    attempted installation env groupName es =
      (installation.allPaths env).filter fun path =>
        groupName = assignedGroup config (fileName path) := by
  unfold attempted main groupOptions
  dsimp only
  rw [if_pos (isValidGroup_iff.mpr hgroup)]
  have hpaths : installation.pathsForGroup (installation.startEnv env) groupName =
      some ((installation.allPaths env).filter fun path =>
        groupName = assignedGroup config (fileName path)) := by
    unfold Installation.pathsForGroup pluginPathsForGroup
    rw [hconfig]
    rfl
  rw [hpaths]
  cases hfilter : (installation.allPaths env).filter fun path =>
      groupName = assignedGroup config (fileName path) with
  | nil => rfl
  | cons path rest =>
    have hfound : (path :: rest).flatMap (found installation.fileSystem) = path :: rest := by
      rw [← hfilter]
      exact flatMap_found List.filter_sublist.subset
    obtain ⟨-, hall⟩ := loads_in_order installation env (path :: rest)
      (displayName ⟨none, none, some groupName⟩ groupName) es
    rw [hfound] at hall
    refine (hall ?_).1
    rw [← hfilter]
    exact (List.length_filter_le _ _).trans_lt hes

/-- For every plugin that is found, the process of exactly one group calls `loadPlugin`, and once,
if each process has single shots enough. -/
theorem groups_load_each_once (installation : Installation) (env : Env)
    (hconfig : installation.config ≠ none) (es : String → List Event)
    (hes : ∀ groupName,
      (installation.allPaths env).length < (es groupName).countP Event.isTimeout) :
    (groups.flatMap fun groupName => attempted installation env groupName (es groupName)).Perm
      (installation.allPaths env) := by
  obtain ⟨config, hsome⟩ := Option.ne_none_iff_exists'.mp hconfig
  have heach : ∀ groupName ∈ groups, attempted installation env groupName (es groupName) =
      (installation.allPaths env).filter fun path =>
        groupName = assignedGroup config (fileName path) :=
    fun groupName hgroup => attempted_eq hsome env hgroup (hes groupName)
  rw [List.flatMap_congr heach]
  exact flatMap_filter_perm (fun path => assignedGroup config (fileName path)) (by decide)
    fun path _ => assignedGroup_mem config (fileName path)

/-- The directory `d` with the files `a.so`, `b.so` and `c.so`. -/
def smallFind (path : Path) : Option Node :=
  if path = ['d'] then
    some (.dir ['d'] [.file "a.so".toList, .file "b.so".toList, .file "c.so".toList])
  else if path = "a.so".toList ∨ path = "b.so".toList ∨ path = "c.so".toList then some (.file path)
  else none

theorem smallFind_listed {path dirPath : Path} {entries : List Node} {node : Node}
    (hfind : smallFind path = some (.dir dirPath entries)) (hnode : node ∈ entries) :
    smallFind node.path = some node := by
  unfold smallFind at hfind
  split_ifs at hfind
  · obtain ⟨rfl, rfl⟩ := Node.dir.inj (Option.some.inj hfind)
    simp only [List.mem_cons, List.not_mem_nil, or_false] at hnode
    rcases hnode with rfl | rfl | rfl
    · rfl
    · rfl
    · rfl
  · exact nomatch Option.some.inj hfind

/-- Of the plugins in the directory, the first two have an interface, and each is in another
group. -/
def smallInstallation : Installation where
  fileSystem := ⟨smallFind, smallFind_listed⟩
  plugins :=
    { interface := fun path =>
        if path = "a.so".toList then some "a" else if path = "b.so".toList then some "b" else none
      init := fun _ env => Function.update env "QT_IM_MODULE" none }
  config := some ⟨["b.so".toList], ["c.so".toList], []⟩
  construct := id

theorem groups_load_each_once_small :
    (groups.flatMap fun groupName => attempted smallInstallation
      (fun name => if name = "TRAY_DEBUG_PLUGIN_PATH" then some "d" else none) groupName
        [.timeout, .callback fun env => Function.update env "WAYLAND_DISPLAY" (some "wayland-0"),
          .timeout, .timeout, .callback id, .timeout]).Perm
      ["a.so".toList, "b.so".toList, "c.so".toList] :=
  groups_load_each_once smallInstallation _ nofun (fun _ => [.timeout,
    .callback fun env => Function.update env "WAYLAND_DISPLAY" (some "wayland-0"), .timeout,
    .timeout, .callback id, .timeout]) fun _ => by decide

end DdeTrayLoader.Loader
