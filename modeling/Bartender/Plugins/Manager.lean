import Bartender.Plugins.StartLoop
import Bartender.Plugins.World

/-!
# The plugins manager

`LocalPluginsManager` and the part of `LocalPluginLoader` that it calls. An
operation takes what it does not decide itself: whether a subprocess can be
spawned, how a plugin answers a stop message, what lies in a plugin directory.

Of the documents of `bg_utils` it is assumed that `find_unique` finds a stored
system by its name and version, that `delete_instances` deletes the documents of a
system's instances, and that `deep_save` stores a system under its id, with new
documents for its instances. Where one of them raises it has changed nothing.
-/

namespace Bartender

inductive StartError
  | pluginStartupError (status : Status)
  | runtimeError
  | attributeError
  deriving DecidableEq, Repr

/-- The runner that `start_plugin` builds, field by field, from a plugin. -/
def rebuild (plugin : LocalPluginRunner) (address : ℕ) : LocalPluginRunner :=
  .init address plugin.entryPoint plugin.system plugin.instanceName plugin.pathToPlugin
    plugin.webHost plugin.webPort plugin.sslEnabled
    { pluginArgs := some plugin.pluginArgs
      environment := some plugin.environment
      requirements := some plugin.requirements
      pluginLogDirectory := plugin.pluginLogDirectory
      urlPrefix := plugin.urlPrefix
      caVerify := plugin.caVerify
      caCert := plugin.caCert
      username := plugin.username
      password := plugin.password }

@[simp] theorem rebuild_address (plugin : LocalPluginRunner) (address : ℕ) :
    (rebuild plugin address).address = address := rfl

/-- The statuses from which `start_plugin` builds a new runner. -/
def Status.IsDown (status : Status) : Prop := status = .stopped ∨ status = .dead

instance (status : Status) : Decidable status.IsDown :=
  inferInstanceAs (Decidable (status = .stopped ∨ status = .dead))

section Start

variable (popen : ℕ → Bool)

/-- The end of `start_plugin`: the status is written before `start()`, which
raises on every call but the first. -/
def launch (plugin : LocalPluginRunner) (w : World) : Except StartError Bool × World :=
  let starting := w.setStatus plugin .starting
  let started := starting.start plugin (popen plugin.address)
  if (starting.runtime plugin.address).starts = 0 then (.ok true, started)
  else (.error .runtimeError, started)

def startPlugin (plugin : LocalPluginRunner) (w : World) : Except StartError Bool × World :=
  match w.status plugin with
  | .running => (.ok true, w)
  | .starting => (.ok true, w)
  | .initializing => launch popen plugin w
  | .dead | .stopped =>
    let (w, newPlugin) := w.addRunner (rebuild plugin)
    launch popen newPlugin (w.replaceInRegistry plugin newPlugin)
  | status => (.error (.pluginStartupError status), w)

variable {popen}

@[simp] theorem launch_registry {plugin : LocalPluginRunner} {w : World} :
    (launch popen plugin w).2.registry = w.registry := by
  unfold launch
  dsimp only
  split_ifs <;> simp [World.start, World.setRuntime]

theorem startPlugin_cases (popen : ℕ → Bool) (plugin : LocalPluginRunner) (w : World) :
    (∃ result, startPlugin popen plugin w = (result, w)) ∨
      (w.status plugin = .initializing ∧ startPlugin popen plugin w = launch popen plugin w) ∨
      ((w.status plugin).IsDown ∧ startPlugin popen plugin w =
        launch popen (rebuild plugin w.next)
          ((w.addRunner (rebuild plugin)).1.replaceInRegistry plugin (rebuild plugin w.next))) := by
  unfold startPlugin
  cases hstatus : w.status plugin with
  | initializing => exact .inr (.inl ⟨rfl, rfl⟩)
  | dead => exact .inr (.inr ⟨.inr rfl, rfl⟩)
  | stopped => exact .inr (.inr ⟨.inl rfl, rfl⟩)
  | _ => exact .inl ⟨_, rfl⟩

end Start

/-- How a plugin's shutdown goes: which of the three calls return, whether the
plugin reports `STOPPED` once the status has been set to `STOPPING`, and whether
its thread is still alive when that is tested. -/
structure Shutdown where
  stopReturns : Bool
  publishReturns : Bool
  joinReturns : Bool
  reportsStopped : Bool
  threadAlive : Bool
  deriving DecidableEq, Repr

namespace Shutdown

variable (shutdown : Shutdown)

/-- The `try` block ends without an exception. -/
def tryReturns : Bool :=
  shutdown.stopReturns && shutdown.publishReturns && shutdown.joinReturns

/-- `clean_shutdown` at the end. -/
def clean : Bool := shutdown.tryReturns && !shutdown.threadAlive

end Shutdown

/-- The `finally` block. A running subprocess keeps its thread alive, so either
the subprocess has ended by itself or it is killed here. -/
def stopFinally (plugin : LocalPluginRunner) (w : World) : World := w.endProcess plugin

/-- `stop_plugin` never raises: whatever the `try` block raises is caught. -/
def stopPlugin (shutdown : Shutdown) (plugin : LocalPluginRunner) (w : World) : World :=
  match w.status plugin with
  | .dead | .stopped | .stopping => stopFinally plugin w
  | status =>
    let w := if status = .unknown then w else w.setStatus plugin .stopping
    let w := if shutdown.stopReturns then w.stop plugin else w
    let w := if shutdown.reportsStopped then w.setStatus plugin .stopped else w
    let w := stopFinally plugin w
    if shutdown.clean then w else w.setStatus plugin .dead

/-- `stop_all_plugins`, with a shutdown for each runner. -/
def stopAllPlugins (shutdown : ℕ → Shutdown) (w : World) : World :=
  w.registry.getAllPlugins.foldl (fun w p => stopPlugin (shutdown p.address) p w) w

def restartPlugin (popen : ℕ → Bool) (shutdown : Shutdown) (plugin : LocalPluginRunner)
    (w : World) : Except StartError Bool × World :=
  startPlugin popen plugin (stopPlugin shutdown plugin w)

/-- A configuration as `_load_plugin_config` returns it. -/
structure PluginConfig where
  name : String
  version : String
  pluginEntry : String
  instances : List String
  pluginArgs : List (String × Option (List String))
  environment : List (String × String)
  requires : List String
  logLevel : ℤ

/-- The settings that every local plugin is built with. -/
structure SiteConfig where
  webHost : String
  webPort : ℤ
  sslEnabled : Bool
  urlPrefix : Option String
  caVerify : Bool
  caCert : Option String
  username : Option String
  password : Option String
  pluginLogDirectory : Option String

/-- Where `load_plugin` raises once the configuration is loaded. -/
inductive LoadFault
  | findUnique
  | deleteInstances
  | deepSave
  | constructor (built : ℕ)
  deriving DecidableEq, Repr

/-- What a plugin directory holds: a configuration the validator refuses, one
that cannot be loaded, or one that is loaded, up to a fault. -/
inductive PluginSource
  | invalid
  | unloadable
  | config (config : PluginConfig) (fault : Option LoadFault)

inductive LoadResult
  | refused
  | raised
  | loaded (plugins : List LocalPluginRunner)

namespace World

variable (w : World)

def findUnique (name version : String) : Option System :=
  w.systems.find? fun s => s.name == name && s.version == version

def deleteInstances (system : System) : World :=
  { w with instances := fun id =>
      if id ∈ system.instances.map (·.id) then none else w.instances id }

/-- The system to save: under the id of the one it replaces, if any, and with
a new instance document for every name. -/
def newSystem (config : PluginConfig) : System where
  id := (w.findUnique config.name config.version).elim w.next (·.id)
  name := config.name
  version := config.version
  instances := config.instances.mapIdx fun i name => ⟨w.next + 1 + i, name⟩

def deepSave (system : System) : World :=
  { w with
    systems := w.systems.filter (fun s => s.id != system.id) ++ [system]
    instances := fun id =>
      if id ∈ system.instances.map (·.id) then some .fresh else w.instances id
    next := w.next + 1 + system.instances.length }

end World

/-- The runner for one instance of a loaded system. The paths that are scanned
are absolute. -/
def configuredRunner (site : SiteConfig) (path : String) (config : PluginConfig)
    (system : System) (instanceName : String) (address : ℕ) : LocalPluginRunner :=
  .init address config.pluginEntry system instanceName path site.webHost site.webPort
    site.sslEnabled
    { pluginArgs := (config.pluginArgs.lookup instanceName).join
      environment := some config.environment
      requirements := some config.requires
      pluginLogDirectory := site.pluginLogDirectory
      urlPrefix := site.urlPrefix
      caVerify := site.caVerify
      caCert := site.caCert
      username := site.username
      password := site.password
      logLevel := config.logLevel }

/-- Builds and registers one runner per instance name. The runner is returned
even where its unique name is taken and the registry ignores it. -/
def registerInstances (site : SiteConfig) (path : String) (config : PluginConfig)
    (system : System) : List String → World → List LocalPluginRunner × World
  | [], w => ([], w)
  | instanceName :: rest, w =>
    let (w, plugin) := w.addRunner (configuredRunner site path config system instanceName)
    let (plugins, w) := registerInstances site path config system rest
      { w with registry := w.registry.registerPlugin plugin }
    (plugin :: plugins, w)

/-- The part of `load_plugin` after the configuration is loaded. -/
def loadConfig (site : SiteConfig) (path : String) (config : PluginConfig)
    (fault : Option LoadFault) (w : World) : LoadResult × World :=
  if fault = some .findUnique then (.raised, w)
  else
    let existing := w.findUnique config.name config.version
    if fault = some .deleteInstances then (.raised, w)
    else
      let w := existing.elim w w.deleteInstances
      let system := w.newSystem config
      if fault = some .deepSave then (.raised, w)
      else
        let w := w.deepSave system
        match fault with
        | some (.constructor built) =>
          (.raised, (registerInstances site path config system (config.instances.take built) w).2)
        | _ =>
          let (plugins, w) := registerInstances site path config system config.instances w
          (.loaded plugins, w)

def loadPlugin (site : SiteConfig) (path : String) (source : PluginSource) (w : World) :
    LoadResult × World :=
  match source with
  | .invalid => (.refused, w)
  | .unloadable => (.raised, w)
  | .config config fault => loadConfig site path config fault w

inductive ReloadError
  | notFound
  | notValid
  | runningInstances
  | loadRaised
  deriving DecidableEq, Repr

/-- `reload_system`; whether `load_plugin` refuses the directory is not looked at. -/
def reloadSystem (site : SiteConfig) (systemName systemVersion : String) (source : PluginSource)
    (w : World) : Except ReloadError Unit × World :=
  let plugins := w.registry.getPluginsBySystem systemName systemVersion
  match plugins with
  | [] => (.error .notFound, w)
  | first :: _ =>
    match source with
    | .invalid => (.error .notValid, w)
    | _ =>
      if plugins.any fun p => w.status p = .running then (.error .runningInstances, w)
      else
        let names := plugins.map (·.uniqueName)
        let w := { w with registry := names.foldl Registry.remove w.registry }
        match loadPlugin site first.pathToPlugin source w with
        | (.raised, w) => (.error .loadRaised, w)
        | (_, w) => (.ok (), w)

/-- `System.objects()`. -/
def World.storedSystems (w : World) : List StoredSystem :=
  w.systems.map fun s => ⟨s.name, s.version, s.instances.map fun i =>
    (i.name, (w.instances i.id).elim .unknown (·.status))⟩

/-- `_mark_as_failed`, which raises when the system is gone. -/
def markAsFailed (plugin : LocalPluginRunner) (w : World) : Except StartError Unit × World :=
  match w.findUnique plugin.system.name plugin.system.version with
  | none => (.error .attributeError, w)
  | some system =>
    (.ok (), (system.instances.filter fun i => i.name == plugin.instanceName).foldl
      (fun w i => w.setInstanceStatus i.id .dead) w)

def worldEffects (popen : ℕ → Bool) : Effects World StartError where
  startPlugin := startPlugin popen
  markAsFailed := markAsFailed

/-- Loads the directories one after the other; failures are logged. -/
def loadNewPlugins (site : SiteConfig) :
    List (String × PluginSource) → World → List LocalPluginRunner × World
  | [], w => ([], w)
  | (path, source) :: rest, w =>
    match loadPlugin site path source w with
    | (.loaded plugins, w) =>
      let (others, w) := loadNewPlugins site rest w
      (plugins ++ others, w)
    | (_, w) => loadNewPlugins site rest w

def newDirectories (directories : List (String × PluginSource)) (w : World) :
    List (String × PluginSource) :=
  directories.filter fun d => d.1 ∉ w.registry.getAllPlugins.map (·.pathToPlugin)

/-- `scan_plugin_path`, on the directories found and in the order in which the
set of new ones yields them; the start loop gets a number of rounds. -/
def scanPluginPath (popen : ℕ → Bool) (site : SiteConfig) (fuel : ℕ)
    (directories : List (String × PluginSource)) (w : World) :
    Option (RotatingQueue.Ending (Progress World) StartError) :=
  let (newPlugins, w) := loadNewPlugins site (newDirectories directories w) w
  let systems := w.storedSystems
  startMultiplePlugins (worldEffects popen) (.read systems systems systems) fuel newPlugins w

end Bartender
