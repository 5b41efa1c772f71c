import DdeTrayLoader.Loader.TrayPluginGroups

/-!
# The plugin manager

`PluginManager` collects the plugins of some paths, going down into directories, and loads them one
after the other, one in every turn of the event loop. Which plugins have a usable interface, and
what their initialization does to the environment, is up to the plugins.
-/

namespace DdeTrayLoader.Loader

/-! ## The environment -/

/-- The environment of the process. -/
abbrev Env : Type := String → Option String

/-- `qgetenv`, empty for what is not set. -/
def qgetenv (env : Env) (name : String) : String := (env name).getD ""

/-- One round of the loop of `applyEnvs`. -/
def applyEnv (env : Env) (entry : String × String) : Env :=
  Function.update env entry.1 (if entry.2 = "" then none else some entry.2)

/-- `applyEnvs` of `main` -/
def applyEnvs (envs : List (String × String)) (env : Env) : Env := envs.foldl applyEnv env

/-- The plugins that can be loaded. -/
structure Plugins where
  /-- The name of the plugin, when it loads and has an interface. -/
  interface : Path → Option String
  /-- What loading it and creating its widget does to the environment. -/
  init : Path → Env → Env

/-! ## Collecting -/

/-- `loadPluginsFromDir`, for the entries of a directory. -/
def loadPluginsFromDir (pending : List Path) : List Node → List Path
  | [] => pending
  | .dir _ entries :: rest => loadPluginsFromDir (loadPluginsFromDir pending entries) rest
  | .file path :: rest =>
    loadPluginsFromDir (if suffix path = ['s', 'o'] then pending ++ [path] else pending) rest
  | .special _ :: rest => loadPluginsFromDir pending rest

/-- The loop of `loadPlugins`. -/
def collect (fs : FileSystem) (pending : List Path) (path : Path) : List Path :=
  match fs.find path with
  | none => pending
  | some (.dir _ entries) => loadPluginsFromDir pending entries
  | some (.file _) => pending ++ [path]
  | some (.special _) => pending

/-- The files of a directory and of the directories below it. -/
def files : List Node → List Path
  | [] => []
  | .dir _ entries :: rest => files entries ++ files rest
  | .file path :: rest => path :: files rest
  | .special _ :: rest => files rest

/-- The plugins that a path given to the manager stands for. -/
def found (fs : FileSystem) (path : Path) : List Path :=
  match fs.find path with
  | none | some (.special _) => []
  | some (.dir _ entries) => (files entries).filter fun file => suffix file = ['s', 'o']
  | some (.file _) => [path]

/-- The plugins of a directory come after those that were collected. -/
theorem loadPluginsFromDir_eq (pending : List Path) (nodes : List Node) :
    loadPluginsFromDir pending nodes =
      pending ++ (files nodes).filter fun file => suffix file = ['s', 'o'] := by
  match nodes with
  | [] => rw [loadPluginsFromDir, files, List.filter_nil, List.append_nil]
  | .dir _ entries :: rest =>
    rw [loadPluginsFromDir, files, loadPluginsFromDir_eq pending entries,
      loadPluginsFromDir_eq _ rest, List.filter_append, List.append_assoc]
  | .file path :: rest =>
    rw [loadPluginsFromDir, files, loadPluginsFromDir_eq _ rest]
    by_cases hsuffix : suffix path = ['s', 'o']
    · rw [if_pos hsuffix, List.filter_cons, if_pos (decide_eq_true hsuffix), List.append_assoc,
        List.singleton_append]
    · rw [if_neg hsuffix, List.filter_cons, if_neg (by rwa [decide_eq_true_iff])]
  | .special _ :: rest => rw [loadPluginsFromDir, files, loadPluginsFromDir_eq pending rest]

theorem collect_eq (fs : FileSystem) (pending : List Path) (path : Path) :
    collect fs pending path = pending ++ found fs path := by
  unfold collect found
  cases fs.find path with
  | none => exact (List.append_nil pending).symm
  | some node =>
    cases node with
    | file => rfl
    | dir _ entries => exact loadPluginsFromDir_eq pending entries
    | special => exact (List.append_nil pending).symm

theorem foldl_collect_eq (fs : FileSystem) (pending paths : List Path) :
    paths.foldl (collect fs) pending = pending ++ paths.flatMap (found fs) := by
  induction paths generalizing pending with
  | nil => rw [List.flatMap_nil, List.append_nil]; rfl
  | cons path paths ih =>
    rw [List.foldl_cons, ih, collect_eq, List.flatMap_cons, List.append_assoc]

/-! ## Loading -/

structure PluginManager where
  pluginPaths : List Path
  pendingPluginPaths : List Path
  /-- The names of the plugins whose interfaces are in `m_loadedPlugins`. -/
  loadedPlugins : List String

/-- `setPluginPaths` and `loadPlugins` -/
def loadPlugins (fs : FileSystem) (paths : List Path) : PluginManager where
  pluginPaths := paths
  pendingPluginPaths := paths.foldl (collect fs) []
  loadedPlugins := []

def blacklist : List (List Char) :=
  ["libshot-start-record-plugin.so".toList, "libdeepin-screen-recorder-plugin.so".toList,
    "libeye-comfort-mode.so".toList]

/-- The plugins that are not loaded under Wayland. -/
def isBlacklisted (env : Env) (pluginFilePath : Path) : Bool :=
  qgetenv env "XDG_SESSION_TYPE" = "wayland" && blacklist.any (·.isSuffixOf pluginFilePath)

/-- The plugin that `loadPlugin` loads. -/
def loadable (plugins : Plugins) (env : Env) (pluginFilePath : Path) : Option String :=
  if isBlacklisted env pluginFilePath then none else plugins.interface pluginFilePath

/-- `loadPlugin`, with the environment that it leaves. -/
def loadPlugin (plugins : Plugins) (manager : PluginManager) (env : Env) (pluginFilePath : Path) :
    PluginManager × Env :=
  ({ manager with
      loadedPlugins := manager.loadedPlugins ++ (loadable plugins env pluginFilePath).toList },
    if isBlacklisted env pluginFilePath then env else plugins.init pluginFilePath env)

end DdeTrayLoader.Loader
