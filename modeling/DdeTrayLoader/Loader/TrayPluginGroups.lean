import DdeTrayLoader.Lists.Replace

/-!
# The groups of plugins

Every plugin that is found in the plugin directories is loaded by the process of one group. The
configuration lists the names of the plugins of three groups, and the rest is the fourth.
-/

namespace DdeTrayLoader.Loader

open DdeTrayLoader.Lists

abbrev Path : Type := List Char

/-- What a path leads to. The entries of a directory are those that are not hidden, in the order
that `QDir` lists them, with their absolute paths. -/
inductive Node
  | file (path : Path)
  | dir (path : Path) (entries : List Node)
  | special (path : Path)

def Node.path : Node → Path
  | file path | dir path _ | special path => path

/-- What `QFileInfo` and `QDir` find. What a directory lists is found by its absolute path. -/
structure FileSystem where
  find : Path → Option Node
  listed : ∀ {path dirPath entries node}, find path = some (.dir dirPath entries) →
    node ∈ entries → find node.path = some node

/-- `path.section("/", -1)` -/
def fileName (path : Path) : List Char := (split ['/'] path).getLast (split_ne_nil _ _)

/-- `QFileInfo::suffix`, what comes after the last dot of the name. -/
def suffix (path : Path) : List Char :=
  match split ['.'] (fileName path) with
  | [] | [_] => []
  | _ :: part :: parts => (part :: parts).getLast (List.cons_ne_nil _ _)

/-- The name filter `*.so`, which does not tell upper case from lower case. -/
def matchesFilter (path : Path) : Bool :=
  ['.', 's', 'o'].isSuffixOf ((fileName path).map Char.toLower)

def pluginDirs : List Path :=
  ["/usr/lib/dde-dock/plugins/".toList, "/usr/lib/dde-dock/plugins/quick-trays/".toList,
    "/usr/lib/dde-dock/plugins/system-trays/".toList]

/-- The plugins of a directory. -/
def pluginsIn (fs : FileSystem) (pluginDir : Path) : List Path :=
  match fs.find pluginDir with
  | some (.dir _ entries) => entries.filterMap fun
    | .file path => if matchesFilter path then some path else none
    | _ => none
  | _ => []

/-- `allPluginPaths`, with the value of `TRAY_DEBUG_PLUGIN_PATH`, which is empty when unset. -/
def allPluginPaths (fs : FileSystem) (debugPaths : List Char) : List Path :=
  let dirs := if debugPaths = [] then pluginDirs else split [':'] debugPaths
  dirs.flatMap (pluginsIn fs)

/-! ## Groups -/

def SelfMaintenanceGroup : String := "selfMaintenanceTrayPlugins"

def SubprojectGroup : String := "subprojectTrayPlugins"

def CrashProneGroup : String := "crashProneTrayPlugins"

def OtherGroup : String := "otherTrayPlugins"

/-- The values of `org.deepin.dde.dock.plugin.groups`, lists of plugin names. -/
structure GroupConfig where
  crashPronePlugins : List (List Char)
  selfMaintenancePlugins : List (List Char)
  subprojectPlugins : List (List Char)

/-- The groups that there are. -/
def groups : List String := [SelfMaintenanceGroup, SubprojectGroup, CrashProneGroup, OtherGroup]

def isValidGroup (groupName : String) : Bool :=
  groupName = SelfMaintenanceGroup || groupName = SubprojectGroup ||
    groupName = CrashProneGroup || groupName = OtherGroup

/-- The group of a plugin. -/
def assignedGroup (config : GroupConfig) (pluginName : List Char) : String :=
  if pluginName ∈ config.crashPronePlugins then CrashProneGroup
  else if pluginName ∈ config.selfMaintenancePlugins then SelfMaintenanceGroup
  else if pluginName ∈ config.subprojectPlugins then SubprojectGroup
  else OtherGroup

/-- `pluginPathsForGroup`, of the paths that `allPluginPaths` returns; `none` when the
configuration is not valid. -/
def pluginPathsForGroup (config : Option GroupConfig) (paths : List Path) (groupName : String) :
    Option (List Path) :=
  config.map fun config =>
    paths.filter fun filePath => groupName = assignedGroup config (fileName filePath)

theorem isValidGroup_iff {groupName : String} :
    isValidGroup groupName = true ↔ groupName ∈ groups := by
  simp [isValidGroup, groups, or_assoc]

theorem assignedGroup_mem (config : GroupConfig) (pluginName : List Char) :
    assignedGroup config pluginName ∈ groups := by
  unfold assignedGroup
  split_ifs
  · decide
  · decide
  · decide
  · decide

/-- What is found in a directory is a file. -/
theorem find_of_mem_pluginsIn {fs : FileSystem} {pluginDir path : Path}
    (h : path ∈ pluginsIn fs pluginDir) : fs.find path = some (.file path) := by
  unfold pluginsIn at h
  split at h
  · next dirPath entries hdir =>
    obtain ⟨node, hnode, hpath⟩ := List.mem_filterMap.mp h
    cases node with
    | file path' =>
      dsimp only at hpath
      split_ifs at hpath
      obtain rfl := Option.some.inj hpath
      exact fs.listed hdir hnode
    | dir | special => exact nomatch hpath
  · exact absurd h List.not_mem_nil

end DdeTrayLoader.Loader
