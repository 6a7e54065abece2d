import Bartender.Plugins.Logging
import Bartender.Plugins.Reload
import Bartender.Plugins.Validation

/-!
# From the configuration to the registry

`_load_plugin_config` gives every instance its arguments, whichever way the two
were written down, and `load_plugin` builds from that the stored system and the
registered runners. What the validator has passed comes out as the same list of
instance names in all three places, if the runners can be built: their constructor
also sets up two loggers, after the system is stored.
-/

namespace Bartender

variable {Obj : Type}

/-- What `_load_plugin_config` returns. -/
structure LoadedConfig (Obj : Type) where
  name : ConfValue Obj
  version : ConfValue Obj
  instances : ConfValue Obj
  pluginEntry : ConfValue Obj
  pluginArgs : ConfValue Obj
  description : ConfValue Obj
  iconName : ConfValue Obj
  displayName : ConfValue Obj
  requires : ConfValue Obj
  environment : ConfValue Obj
  metadata : ConfValue Obj
  logLevel : LoggingAttribute

namespace LocalPluginLoader

variable (py : Interpreter Obj)

/-- An `AttributeError` is caught, whether `logging` or `str` raises it. -/
def convertLogLevel (levelName : ConfValue Obj) : Checked Obj LoggingAttribute :=
  if py.prints levelName || py.strLacksAttribute levelName then
    .ok (py.loggingAttribute levelName)
  else .error .methodError

/-- `plugin_args[instance_name] = value` for one instance name after the other. -/
def assignEach (value : ConfValue Obj) :
    List (ConfValue Obj) → List (ConfValue Obj × ConfValue Obj) →
      Checked Obj (List (ConfValue Obj × ConfValue Obj))
  | [], pluginArgs => .ok pluginArgs
  | instanceName :: rest, pluginArgs => do
    let pluginArgs ← LocalPluginValidator.methodOf (py.assign instanceName value pluginArgs)
    assignEach value rest pluginArgs

def argsForEach (instances value : ConfValue Obj) : Checked Obj (ConfValue Obj) :=
  match py.iterate instances with
  | none => .error .typeError
  | some names => do
    let pluginArgs ← assignEach py value names []
    pure (.dict pluginArgs)

/-- The branches on which of the two are given. -/
def instancesAndArgs : ConfValue Obj → ConfValue Obj → Checked Obj (ConfValue Obj × ConfValue Obj)
  | .none, .none => .ok (.list [.str "default"], .dict [(.str "default", .none)])
  | instances, .none => do
    let pluginArgs ← argsForEach py instances .none
    pure (instances, pluginArgs)
  | .none, .list values => .ok (.list [.str "default"], .dict [(.str "default", .list values)])
  | .none, .dict entries => .ok (.list (entries.map (·.1)), .dict entries)
  | .none, pluginArgs =>
    LocalPluginValidator.raiseShowing py .valueError "Unknown plugin args type: %s" pluginArgs
  | instances, .list values => do
    let pluginArgs ← argsForEach py instances (.list values)
    pure (instances, pluginArgs)
  | instances, pluginArgs => .ok (instances, pluginArgs)

/-- `config_module.name`. -/
def attributeOf (config : ConfigModule Obj) (name : String) : Checked Obj (ConfValue Obj) :=
  match config name with
  | some value => .ok value
  | none => .error .attributeError

/-- `_load_plugin_config`, after the file is executed. -/
def loadPluginConfig (config : ConfigModule Obj) : Checked Obj (LoadedConfig Obj) := do
  let logLevel ← convertLogLevel py (config.getattr "LOG_LEVEL" (.str "INFO"))
  let (instances, pluginArgs) ← instancesAndArgs py (config.getattr "INSTANCES" .none)
    (config.getattr "PLUGIN_ARGS" .none)
  let name ← attributeOf config "NAME"
  let version ← attributeOf config "VERSION"
  let pluginEntry ← attributeOf config "PLUGIN_ENTRY"
  pure
    { name, version, instances, pluginEntry, pluginArgs
      description := config.getattr "DESCRIPTION" (.str "")
      iconName := config.getattr "ICON_NAME" .none
      displayName := config.getattr "DISPLAY_NAME" .none
      requires := config.getattr "REQUIRES" (.list [])
      environment := config.getattr "ENVIRONMENT" (.dict [])
      metadata := config.getattr "METADATA" (.dict [])
      logLevel }

/-- The names of the instances, wherever they are given. -/
def instanceNames (config : ConfigModule Obj) : List (ConfValue Obj) :=
  match config.getattr "INSTANCES" .none, config.getattr "PLUGIN_ARGS" .none with
  | .list names, _ => names
  | _, .dict entries => entries.map (·.1)
  | _, _ => [.str "default"]

/-- An argument map with exactly these names as keys. -/
structure Keyed (names : List String) (entries : List (ConfValue Obj × ConfValue Obj)) :
    Prop where
  keys : ∀ entry ∈ entries, ∃ name ∈ names, py.same entry.1 (.str name) = some true
  found : ∀ name ∈ names, ∃ value, py.get? entries (.str name) = some (some value) ∧
    (value = .none ∨ LocalPluginValidator.ListOfStrings value)

section Loaded

variable {py} {names : List String} {value : ConfValue Obj}

theorem assignEach_str (hnodup : names.Nodup) {others : List String}
    (hfree : ∀ name ∈ names, name ∉ others) :
    assignEach py value (names.map .str) (others.map fun name => (.str name, value)) =
      .ok ((others ++ names).map fun name => (.str name, value)) := by
  induction names generalizing others with
  | nil => simp [assignEach]
  | cons name names ih =>
    obtain ⟨hname, hnodup⟩ := List.nodup_cons.mp hnodup
    obtain ⟨hfirst, hrest⟩ := List.forall_mem_cons.mp hfree
    have hput : py.put (.str name) value (others.map fun name => (.str name, value)) =
        (others ++ [name]).map fun name => (.str name, value) := by
      rw [py.put_of_not_mem, List.map_append, List.map_singleton]
      rintro entry hentry
      obtain ⟨other, hother, rfl⟩ := List.mem_map.mp hentry
      rw [py.sameKey_str, beq_eq_false_iff_ne]
      exact fun h => hfirst (h ▸ hother)
    have hassign : py.assign (.str name) value (others.map fun name => (.str name, value)) =
        some ((others ++ [name]).map fun name => (.str name, value)) := by
      rw [Interpreter.assign, List.map_map]
      exact (congrArg _ (py.keyIn_map_str name others)).trans (congrArg some hput)
    have hrest' : ∀ other ∈ names, other ∉ others ++ [name] := by
      intro other hother hmem
      rcases List.mem_append.mp hmem with hmem | hmem
      · exact hrest other hother hmem
      · exact hname (List.mem_singleton.mp hmem ▸ hother)
    rw [List.map_cons, assignEach, hassign]
    exact (ih hnodup hrest').trans (by rw [List.append_assoc, List.singleton_append])

theorem keyed_of_keys {entries : List (ConfValue Obj × ConfValue Obj)}
    (hkeys : ∀ entry ∈ entries, ∃ name ∈ names, py.same entry.1 (.str name) = some true)
    (hnames : ∀ name ∈ names, py.keyIn (.str name) (entries.map (·.1)) = some true)
    (hvalues : ∀ entry ∈ entries,
      entry.2 = .none ∨ LocalPluginValidator.ListOfStrings entry.2) :
    Keyed py names entries where
  keys := hkeys
  found name hname := by
    obtain ⟨entry, hentry, hget⟩ := py.exists_get?_of_keyIn (hnames name hname)
    exact ⟨entry.2, hget, hvalues entry hentry⟩

theorem keyed_of_map_eq {entries : List (ConfValue Obj × ConfValue Obj)}
    (hkeys : entries.map (·.1) = names.map .str)
    (hvalues : ∀ entry ∈ entries,
      entry.2 = .none ∨ LocalPluginValidator.ListOfStrings entry.2) :
    Keyed py names entries := by
  refine keyed_of_keys (fun entry hentry => ?_) (fun name hname => ?_) hvalues
  · obtain ⟨name, hname, heq⟩ := List.mem_map.mp (hkeys ▸ List.mem_map_of_mem hentry)
    exact ⟨name, hname, heq ▸ py.same_self_str name⟩
  · rw [hkeys, py.keyIn_map_str, decide_eq_true hname]

theorem keyed_map (hvalue : value = .none ∨ LocalPluginValidator.ListOfStrings value) :
    Keyed py names (names.map fun name => (.str name, value)) := by
  refine keyed_of_map_eq (by rw [List.map_map]; rfl) fun entry hentry => ?_
  obtain ⟨_, -, rfl⟩ := List.mem_map.mp hentry
  exact hvalue

theorem names_of_default
    (h : ([.str "default"] : List (ConfValue Obj)) = names.map ConfValue.str) :
    names = ["default"] := by
  obtain ⟨name, rfl, hname⟩ := List.map_eq_singleton_iff.mp h.symm
  cases hname
  rfl

theorem argsForEach_str (hnodup : names.Nodup) :
    argsForEach py (.list (names.map .str)) value =
      .ok (.dict (names.map fun name => (.str name, value))) := by
  have hassign : assignEach py value (names.map .str) [] =
      .ok (names.map fun name => (.str name, value)) :=
    @assignEach_str Obj py names value hnodup [] fun _ _ => List.not_mem_nil
  simp [argsForEach, Interpreter.iterate, hassign, bind, Except.bind, pure, Except.pure]

/-- What the validator passes is loaded, with the names it was written with. -/
theorem instancesAndArgs_of_validated {config : ConfigModule Obj}
    (haccepted : LocalPluginValidator.validateInstancesAndArgs py config = .ok ())
    (hnames : instanceNames config = names.map .str) (hnodup : names.Nodup) :
    ∃ entries, instancesAndArgs py (config.getattr "INSTANCES" .none)
        (config.getattr "PLUGIN_ARGS" .none) = .ok (.list (names.map .str), .dict entries) ∧
      Keyed py names entries := by
  have hfollows := @LocalPluginValidator.follows_instancesAndArgs Obj py config
  rw [haccepted] at hfollows
  obtain ⟨hinstances, hflaws⟩ := List.append_eq_nil_iff.mp hfollows.eq_nil
  have hinstances := LocalPluginValidator.instancesFlaws_eq_nil.mp hinstances
  have hargs := LocalPluginValidator.argsAcceptable_of_flaws_eq_nil hflaws
  unfold instanceNames at hnames
  generalize config.getattr "INSTANCES" .none = instances at *
  generalize config.getattr "PLUGIN_ARGS" .none = pluginArgs at *
  rcases hinstances with rfl | ⟨given, rfl⟩
  · rcases hargs with rfl | ⟨values, rfl, hvalues⟩ | ⟨entries, rfl, hentries, -⟩
    · obtain rfl := names_of_default hnames
      exact ⟨_, rfl, @keyed_map Obj py ["default"] _ (.inl rfl)⟩
    · obtain rfl := names_of_default hnames
      exact ⟨_, rfl, @keyed_map Obj py ["default"] _ (.inr ⟨values, rfl, hvalues⟩)⟩
    · have hkeys : entries.map (·.1) = names.map .str := hnames
      exact ⟨entries, by rw [instancesAndArgs, hkeys], keyed_of_map_eq hkeys hentries⟩
  · obtain rfl : given = names.map .str := hnames
    rcases hargs with rfl | ⟨values, rfl, hvalues⟩ | ⟨entries, rfl, hentries, hgiven⟩
    · refine ⟨_, ?_, keyed_map (.inl rfl)⟩
      simp only [instancesAndArgs, argsForEach_str hnodup]
      rfl
    · refine ⟨_, ?_, keyed_map (.inr ⟨values, rfl, hvalues⟩)⟩
      simp only [instancesAndArgs, argsForEach_str hnodup]
      rfl
    · have hkeys : ∀ entry ∈ entries, ∃ name ∈ names, py.same entry.1 (.str name) = some true :=
        fun entry hentry => by simpa using (hgiven _ rfl).1 entry hentry
      have hfound := LocalPluginValidator.keyIn_of_flaws_eq_nil hflaws
      refine ⟨entries, rfl, keyed_of_keys hkeys (fun name hname => ?_) hentries⟩
      exact hfound (.str name) (List.mem_map_of_mem hname)

end Loaded

end LocalPluginLoader

/-- A runner's `plugin_args` argument as a value. -/
def argumentsValue : Option (List String) → ConfValue Obj
  | none => .none
  | some args => .list (args.map .str)

/-- The other settings are of the types that a system and a runner can hold. -/
structure LoadedConfig.Typed (loaded : LoadedConfig Obj) : Prop where
  name : loaded.name.isStr = true
  version : loaded.version.isStr = true
  pluginEntry : loaded.pluginEntry.isStr = true
  environment : ∃ environment : List (String × String), loaded.environment =
    .dict (environment.map fun entry => (.str entry.1, .str entry.2))
  requires : LocalPluginValidator.ListOfStrings loaded.requires

/-- The configuration as `load_plugin` reads it. What is no level is read as any. -/
structure LoadedConfig.Reads (py : Interpreter Obj) (loaded : LoadedConfig Obj)
    (config : PluginConfig) : Prop where
  name : loaded.name = .str config.name
  version : loaded.version = .str config.version
  pluginEntry : loaded.pluginEntry = .str config.pluginEntry
  instances : loaded.instances = .list (config.instances.map .str)
  pluginArgs : ∃ entries, loaded.pluginArgs = .dict entries ∧
    ∀ instanceName ∈ config.instances,
      (py.get? entries (.str instanceName)).map (·.getD .none) =
        some (argumentsValue (config.pluginArgs.lookup instanceName).join)
  environment : loaded.environment =
    .dict (config.environment.map fun entry => (.str entry.1, .str entry.2))
  requires : loaded.requires = .list (config.requires.map .str)
  logLevel : ∀ level, loaded.logLevel = .level level → config.logLevel = level

/-- What the constructors of runners find: the loggers, the effective level of the
module's own logger, and whether a log file can be opened for the two handlers of a
unique name. -/
structure LoggingPlace where
  loggers : Loggers
  moduleLevel : ℤ
  opens : String → Bool
  opensUnformatted : String → Bool

namespace LoggingPlace

variable (place : LoggingPlace) (logLevel : LoggingAttribute)

def runner (plugin : LocalPluginRunner) : RunnerLoggers :=
  ⟨plugin, place.moduleLevel, place.opens plugin.uniqueName,
    place.opensUnformatted plugin.uniqueName⟩

/-- Whether a constructor returns, and the loggers after it. What is no level is
refused by `setLevel`, which a logger with a handler does not come to. -/
def construct (plugin : LocalPluginRunner) (loggers : Loggers) : Bool × Loggers :=
  let runner := place.runner plugin
  match runner.formatted.getPluginLogger loggers with
  | (none, loggers) => (false, loggers)
  | (some _, loggers) =>
    match logLevel with
    | .level _ =>
      let (log, loggers) := runner.unformatted.getPluginLogger loggers
      (log.isSome, loggers)
    | .noLevel =>
      let name := runner.unformatted.call.name
      ((loggers name).handlers.length > 0,
        Function.update loggers name { loggers name with propagate := false })

/-- The first of the constructors that raises, with the number of those before it. -/
def constructorFault (build : String → LocalPluginRunner) :
    List String → Loggers → ℕ → Option LoadFault
  | [], _, _ => none
  | instanceName :: rest, loggers, built =>
    let (returns, loggers) := place.construct logLevel (build instanceName) loggers
    if returns then constructorFault build rest loggers (built + 1)
    else some (.constructor built)

/-- What goes wrong in `load_plugin` if all calls of the database return. -/
def fault (site : SiteConfig) (path : String) (settings : PluginConfig) (w : World) :
    Option LoadFault :=
  let system := (w.cleared settings).newSystem settings
  place.constructorFault logLevel
    (fun instanceName => configuredRunner site path settings system instanceName w.next)
    settings.instances place.loggers 0

/-- `load_plugin`, once the configuration is loaded. -/
def loadSettings (site : SiteConfig) (path : String) (settings : PluginConfig) (w : World) :
    LoadResult × World :=
  loadPlugin site path (.config settings (place.fault logLevel site path settings w)) w

variable {place logLevel}

theorem construct_of_makes (level : ℤ) {plugin : LocalPluginRunner}
    (hformatted : (place.runner plugin).formatted.Makes)
    (hunformatted : (place.runner plugin).unformatted.Makes) (loggers : Loggers) :
    (place.construct (.level level) plugin loggers).1 = true := by
  have hsome := (place.runner plugin).formatted.isSome_getPluginLogger loggers hformatted
  unfold construct
  dsimp only
  generalize (place.runner plugin).formatted.getPluginLogger loggers = called at hsome ⊢
  rcases called with ⟨_ | log, loggers⟩
  · cases hsome
  · exact (place.runner plugin).unformatted.isSome_getPluginLogger loggers hunformatted

theorem constructorFault_of_makes (level : ℤ) {build : String → LocalPluginRunner}
    {names : List String}
    (h : ∀ name ∈ names, (place.runner (build name)).formatted.Makes ∧
      (place.runner (build name)).unformatted.Makes) (loggers : Loggers) (built : ℕ) :
    place.constructorFault (.level level) build names loggers built = none := by
  induction names generalizing loggers built with
  | nil => rfl
  | cons name names ih =>
    obtain ⟨⟨hformatted, hunformatted⟩, hrest⟩ := List.forall_mem_cons.mp h
    have hreturns := construct_of_makes level hformatted hunformatted loggers
    unfold constructorFault
    generalize place.construct (.level level) (build name) loggers = constructed at hreturns ⊢
    rcases constructed with ⟨returns, loggers⟩
    obtain rfl : returns = true := hreturns
    exact ih hrest loggers (built + 1)

end LoggingPlace

section Installed

variable {py : Interpreter Obj} {names : List String}

theorem exists_map_str {values : List (ConfValue Obj)} (h : ∀ v ∈ values, v.isStr = true) :
    ∃ texts : List String, values = texts.map .str := by
  induction values with
  | nil => exact ⟨[], rfl⟩
  | cons value values ih =>
    obtain ⟨hvalue, hvalues⟩ := List.forall_mem_cons.mp h
    obtain ⟨text, rfl⟩ := ConfValue.isStr_iff.mp hvalue
    obtain ⟨texts, rfl⟩ := ih hvalues
    exact ⟨text :: texts, rfl⟩

theorem exists_argumentsValue {value : ConfValue Obj}
    (h : value = .none ∨ LocalPluginValidator.ListOfStrings value) :
    ∃ args, value = argumentsValue args := by
  rcases h with rfl | ⟨values, rfl, hvalues⟩
  · exact ⟨none, rfl⟩
  · obtain ⟨texts, rfl⟩ := exists_map_str hvalues
    exact ⟨some texts, rfl⟩

theorem lookup_map_self {α : Type} (f : String → α) {name : String} (h : name ∈ names) :
    (names.map fun name => (name, f name)).lookup name = some (f name) := by
  induction names with
  | nil => exact absurd h List.not_mem_nil
  | cons first names ih =>
    rw [List.map_cons, List.lookup_cons]
    by_cases hname : name = first
    · rw [hname, beq_self_eq_true]
    · rw [beq_eq_false_iff_ne.mpr hname]
      exact ih ((List.mem_cons.mp h).resolve_left hname)

/-- Loaded instances and arguments can be read. -/
theorem LoadedConfig.Typed.exists_reads {loaded : LoadedConfig Obj} (h : loaded.Typed)
    {entries : List (ConfValue Obj × ConfValue Obj)}
    (hinstances : loaded.instances = .list (names.map .str))
    (hargs : loaded.pluginArgs = .dict entries)
    (hkeyed : LocalPluginLoader.Keyed py names entries) : ∃ config, loaded.Reads py config := by
  obtain ⟨name, hname⟩ := ConfValue.isStr_iff.mp h.name
  obtain ⟨version, hversion⟩ := ConfValue.isStr_iff.mp h.version
  obtain ⟨pluginEntry, hpluginEntry⟩ := ConfValue.isStr_iff.mp h.pluginEntry
  obtain ⟨environment, henvironment⟩ := h.environment
  obtain ⟨values, hvalues, hstrings⟩ := h.requires
  obtain ⟨requires, rfl⟩ := exists_map_str hstrings
  have hvalue : ∀ name, ∃ args, name ∈ names →
      (py.get? entries (.str name)).map (·.getD .none) = some (argumentsValue args) := by
    intro name
    by_cases hmem : name ∈ names
    · obtain ⟨value, hget, hkind⟩ := hkeyed.found name hmem
      obtain ⟨args, rfl⟩ := exists_argumentsValue hkind
      exact ⟨args, fun _ => by rw [hget]; rfl⟩
    · exact ⟨none, fun h => absurd h hmem⟩
  choose args hread using hvalue
  have hlevel : ∃ logLevel, ∀ level, loaded.logLevel = .level level → logLevel = level := by
    cases loaded.logLevel with
    | level n => exact ⟨n, fun level h => LoggingAttribute.level.inj h⟩
    | noLevel => exact ⟨0, fun level h => nomatch h⟩
  obtain ⟨logLevel, hlevel⟩ := hlevel
  refine ⟨⟨name, version, pluginEntry, names, names.map fun name => (name, args name),
    environment, requires, logLevel⟩, hname, hversion, hpluginEntry, hinstances,
    ⟨entries, hargs, fun instanceName hmem => ?_⟩, henvironment, hvalues, hlevel⟩
  rw [lookup_map_self args hmem]
  exact hread instanceName hmem

variable {site : SiteConfig} {path : String} {settings : PluginConfig} {system : System}
  {w : World}

/-- Under free names every runner that is built is registered, in order. -/
theorem registerInstances_of_free (hnodup : names.Nodup)
    (hfree : ∀ name ∈ names,
      w.registry.getPlugin (getUniqueName system.name system.version name) = none) :
    (registerInstances site path settings system names w).2.registry =
        w.registry ++ (registerInstances site path settings system names w).1 ∧
      List.Forall₂ (fun name p =>
          ∃ address, p = configuredRunner site path settings system name address)
        names (registerInstances site path settings system names w).1 := by
  induction names generalizing w with
  | nil => exact ⟨(List.append_nil _).symm, .nil⟩
  | cons first rest ih =>
    obtain ⟨hfirst, hrest⟩ := List.nodup_cons.mp hnodup
    obtain ⟨hnone, hothers⟩ := List.forall_mem_cons.mp hfree
    let build := configuredRunner site path settings system first
    have hregistered : (w.buildAndRegister build).registry = w.registry ++ [build w.next] :=
      Registry.registerPlugin_of_none (p := build w.next) hnone
    -- the name just taken is none of the others
    have hfree' : ∀ name ∈ rest, (w.buildAndRegister build).registry.getPlugin
        (getUniqueName system.name system.version name) = none := by
      intro name hname
      have hne : getUniqueName system.name system.version name ≠ (build w.next).uniqueName :=
        fun h => hfirst ((getUniqueName_injective _ _ h : name = first) ▸ hname)
      exact (Registry.getPlugin_registerPlugin_of_ne hne).trans (hothers name hname)
    obtain ⟨hregistry, hplugins⟩ := ih hrest hfree'
    rw [registerInstances_cons]
    refine ⟨?_, .cons ⟨_, rfl⟩ hplugins⟩
    rw [hregistry, hregistered, List.append_assoc, List.singleton_append]

theorem newSystem_names (w : World) (settings : PluginConfig) :
    (w.newSystem settings).instances.map (·.name) = settings.instances :=
  List.ext_getElem (by simp [World.newSystem]) (by simp [World.newSystem])

/-- A runner for one of the names, with the map's arguments and the saved
system's instance. -/
structure BuiltFor (py : Interpreter Obj) (entries : List (ConfValue Obj × ConfValue Obj))
    (system : System) (name : String) (p : LocalPluginRunner) : Prop where
  instanceName : p.instanceName = name
  saved : p.system = system
  pluginArgs : ∃ value, py.get? entries (.str name) = some (some value) ∧
    (value = .none ∧ p.pluginArgs = [] ∨ value = .list (p.pluginArgs.map .str))
  instance? : ∃ i ∈ system.instances, i.name = name ∧ p.instance? = some i

theorem builtFor_configuredRunner {loaded : LoadedConfig Obj}
    {entries : List (ConfValue Obj × ConfValue Obj)} (hreads : loaded.Reads py settings)
    (hargs : loaded.pluginArgs = .dict entries) (hkeyed : LocalPluginLoader.Keyed py names entries)
    (hnames : settings.instances = names) (hsystem : system.instances.map (·.name) = names)
    {name : String} (hname : name ∈ names) (address : ℕ) :
    BuiltFor py entries system name (configuredRunner site path settings system name address) where
  instanceName := rfl
  saved := rfl
  pluginArgs := by
    obtain ⟨value, hget, -⟩ := hkeyed.found name hname
    obtain ⟨entries', hargs', hread⟩ := hreads.pluginArgs
    obtain rfl : entries = entries' := ConfValue.dict.inj (hargs.symm.trans hargs')
    have hvalue : value = argumentsValue (settings.pluginArgs.lookup name).join := by
      have hvalue := hread name (hnames ▸ hname)
      rw [hget] at hvalue
      exact Option.some.inj hvalue
    refine ⟨value, hget, ?_⟩
    show value = .none ∧ (settings.pluginArgs.lookup name).join.getD [] = [] ∨
      value = .list (((settings.pluginArgs.lookup name).join.getD []).map .str)
    rw [hvalue]
    cases (settings.pluginArgs.lookup name).join with
    | none => exact .inl ⟨rfl, rfl⟩
    | some args => exact .inr rfl
  instance? := by
    obtain ⟨i, hi, hinstance⟩ := List.mem_map.mp (hsystem ▸ hname : name ∈ system.instances.map _)
    have hsome : (system.instances.find? fun i => i.name == name).isSome = true :=
      List.find?_isSome.mpr ⟨i, hi, beq_iff_eq.mpr hinstance⟩
    obtain ⟨found, hfound⟩ := Option.isSome_iff_exists.mp hsome
    have hfoundName : (found.name == name) = true :=
      List.find?_some (p := fun i : Instance => i.name == name) hfound
    exact ⟨found, List.mem_of_find?_eq_some hfound, beq_iff_eq.mp hfoundName, hfound⟩

theorem loadPluginConfig_of_validated {config : ConfigModule Obj}
    (haccepted : LocalPluginValidator.validateInstancesAndArgs py config = .ok ())
    (hnames : LocalPluginLoader.instanceNames config = names.map .str) (hnodup : names.Nodup)
    (hrequired : ∀ key ∈ LocalPluginValidator.requiredKeys, (config key).isSome = true)
    (hlevel : py.prints (config.getattr "LOG_LEVEL" (.str "INFO")) = true ∨
      py.strLacksAttribute (config.getattr "LOG_LEVEL" (.str "INFO")) = true) :
    ∃ loaded entries, LocalPluginLoader.loadPluginConfig py config = .ok loaded ∧
      loaded.instances = .list (names.map .str) ∧ loaded.pluginArgs = .dict entries ∧
      LocalPluginLoader.Keyed py names entries := by
  obtain ⟨entries, hboth, hkeyed⟩ :=
    LocalPluginLoader.instancesAndArgs_of_validated haccepted hnames hnodup
  obtain ⟨name, hname⟩ := Option.isSome_iff_exists.mp (hrequired "NAME" (by decide))
  obtain ⟨version, hversion⟩ := Option.isSome_iff_exists.mp (hrequired "VERSION" (by decide))
  obtain ⟨entry, hentry⟩ := Option.isSome_iff_exists.mp (hrequired "PLUGIN_ENTRY" (by decide))
  unfold LocalPluginLoader.loadPluginConfig LocalPluginLoader.convertLogLevel
    LocalPluginLoader.attributeOf
  rw [if_pos (Bool.or_eq_true_iff.mpr hlevel), hboth, hname, hversion, hentry]
  exact ⟨_, entries, rfl, rfl, rfl, hkeyed⟩

/-- Under free names one system is saved, and its runners are registered last. -/
theorem loadPlugin_builds {loaded : LoadedConfig Obj}
    {entries : List (ConfValue Obj × ConfValue Obj)}
    (hinstances : loaded.instances = .list (names.map .str))
    (hargs : loaded.pluginArgs = .dict entries) (hkeyed : LocalPluginLoader.Keyed py names entries)
    (hnodup : names.Nodup) (hreads : loaded.Reads py settings)
    (hfree : ∀ name ∈ names,
      w.registry.getPlugin (getUniqueName settings.name settings.version name) = none) :
    ∃ plugins w' system,
      loadPlugin site path (.config settings none) w = (.loaded plugins, w') ∧
      system ∈ w'.systems ∧ system.name = settings.name ∧
      system.version = settings.version ∧ system.instances.map (·.name) = names ∧
      w'.registry = w.registry ++ plugins ∧
      List.Forall₂ (BuiltFor py entries system) names plugins := by
  have hsettings : settings.instances = names := by
    have hmap := ConfValue.list.inj (hreads.instances.symm.trans hinstances)
    exact List.map_injective_iff.mpr (fun _ _ h => ConfValue.str.inj h) hmap
  let system := (w.cleared settings).newSystem settings
  have hnames : system.instances.map (·.name) = names :=
    (newSystem_names (w.cleared settings) settings).trans hsettings
  have hsaved := (quiet_saved w settings).registry
  have hfree' : ∀ name ∈ names, (w.saved settings).registry.getPlugin
      (getUniqueName system.name system.version name) = none :=
    fun name hname => hsaved ▸ hfree name hname
  obtain ⟨hregistry, hplugins⟩ :=
    @registerInstances_of_free names site path settings system (w.saved settings) hnodup hfree'
  refine ⟨_, _, system, ?_, ?_, rfl, rfl, hnames, hsaved ▸ hregistry, ?_⟩
  · rw [← hsettings]
    rfl
  · rw [(registerInstances_documents site path settings system names (w.saved settings)).1]
    exact List.mem_append_right _ (List.mem_singleton.mpr rfl)
  · have hmem := (List.forall₂_and_left _ _).mpr
      ⟨fun name (hname : name ∈ names) => hname, hplugins⟩
    refine hmem.imp ?_
    rintro name p ⟨hname, address, rfl⟩
    exact builtFor_configuredRunner hreads hargs hkeyed hsettings hnames hname address

/-- Instances and arguments that the validator accepts are loaded, and what was
loaded becomes one saved system with these instances and, at the end of the
registry, one runner for each of them, if their constructors return. -/
theorem loadPluginConfig_installs (py : Interpreter Obj) {config : ConfigModule Obj}
    {names : List String}
    (haccepted : LocalPluginValidator.validateInstancesAndArgs py config = .ok ())
    (hnames : LocalPluginLoader.instanceNames config = names.map .str) (hnodup : names.Nodup)
    (hrequired : ∀ key ∈ LocalPluginValidator.requiredKeys, (config key).isSome = true)
    (hlevel : py.prints (config.getattr "LOG_LEVEL" (.str "INFO")) = true ∨
      py.strLacksAttribute (config.getattr "LOG_LEVEL" (.str "INFO")) = true) :
    ∃ loaded entries, LocalPluginLoader.loadPluginConfig py config = .ok loaded ∧
      loaded.instances = .list (names.map .str) ∧ loaded.pluginArgs = .dict entries ∧
      LocalPluginLoader.Keyed py names entries ∧
      (loaded.Typed → ∃ settings, loaded.Reads py settings) ∧
      ∀ settings, loaded.Reads py settings → ∀ place site path w,
        (∀ name ∈ names,
          w.registry.getPlugin (getUniqueName settings.name settings.version name) = none) →
        LoggingPlace.fault place loaded.logLevel site path settings w = none →
        ∃ plugins w' system,
          place.loadSettings loaded.logLevel site path settings w = (.loaded plugins, w') ∧
          system ∈ w'.systems ∧ system.name = settings.name ∧
          system.version = settings.version ∧ system.instances.map (·.name) = names ∧
          w'.registry = w.registry ++ plugins ∧
          List.Forall₂ (BuiltFor py entries system) names plugins := by
  obtain ⟨loaded, entries, hloaded, hinstances, hargs, hkeyed⟩ :=
    loadPluginConfig_of_validated haccepted hnames hnodup hrequired hlevel
  refine ⟨loaded, entries, hloaded, hinstances, hargs, hkeyed,
    fun htyped => htyped.exists_reads hinstances hargs hkeyed, ?_⟩
  intro settings hreads place site path w hfree hfault
  rw [LoggingPlace.loadSettings, hfault]
  exact loadPlugin_builds hinstances hargs hkeyed hnodup hreads hfree

theorem loadSettings_raises {place : LoggingPlace} {logLevel : LoggingAttribute} {built : ℕ}
    (h : place.fault logLevel site path settings w = some (.constructor built)) :
    place.loadSettings logLevel site path settings w =
      (.raised, (registerInstances site path settings ((w.cleared settings).newSystem settings)
        (settings.instances.take built) (w.saved settings)).2) := by
  rw [LoggingPlace.loadSettings, h]
  rfl

end Installed

/-- Two instances, one of them with an argument. -/
def twoInstances (levelName : String) : ConfigModule Empty := fun name =>
  if name = "NAME" then some (.str "foo")
  else if name = "VERSION" then some (.str "1.0")
  else if name = "PLUGIN_ENTRY" then some (.str "main.py")
  else if name = "INSTANCES" then some (.list [.str "a", .str "b"])
  else if name = "PLUGIN_ARGS" then
    some (.dict [(.str "b", .none), (.str "a", .list [.str "--verbose"])])
  else if name = "LOG_LEVEL" then some (.str levelName)
  else none

def twoLoaded (logLevel : LoggingAttribute) : LoadedConfig Empty where
  name := .str "foo"
  version := .str "1.0"
  instances := .list [.str "a", .str "b"]
  pluginEntry := .str "main.py"
  pluginArgs := .dict [(.str "b", .none), (.str "a", .list [.str "--verbose"])]
  description := .str ""
  iconName := .none
  displayName := .none
  requires := .list []
  environment := .dict []
  metadata := .dict []
  logLevel := logLevel

def twoSettings : PluginConfig :=
  ⟨"foo", "1.0", "main.py", ["a", "b"], [("a", some ["--verbose"]), ("b", none)], [], [], logInfo⟩

theorem reads_twoLoaded {logLevel : LoggingAttribute}
    (h : ∀ level, logLevel = .level level → logInfo = level) :
    (twoLoaded logLevel).Reads plainInterpreter twoSettings where
  name := rfl
  version := rfl
  pluginEntry := rfl
  instances := rfl
  pluginArgs := ⟨_, rfl, List.forall_mem_cons.mpr ⟨rfl, List.forall_mem_cons.mpr
    ⟨rfl, List.forall_mem_nil _⟩⟩⟩
  environment := rfl
  requires := rfl
  logLevel := h

def freshPlace (opens : Bool) : LoggingPlace := ⟨.fresh, 30, fun _ => opens, fun _ => opens⟩

theorem fault_freshPlace (w : World) :
    (freshPlace true).fault (.level logInfo) localSite "/plugins/foo" twoSettings w = none :=
  LoggingPlace.constructorFault_of_makes logInfo (fun _ _ => ⟨.inr rfl, .inr rfl⟩) _ _

theorem loadPluginConfig_installs_two :
    ∃ entries, ∃ plugins w' system,
      LocalPluginLoader.Keyed plainInterpreter ["a", "b"] entries ∧
      (freshPlace true).loadSettings (.level logInfo) localSite "/plugins/foo" twoSettings .empty =
        (.loaded plugins, w') ∧
      system ∈ w'.systems ∧ system.name = "foo" ∧ system.version = "1.0" ∧
      system.instances.map (·.name) = ["a", "b"] ∧ w'.registry = [] ++ plugins ∧
      List.Forall₂ (BuiltFor plainInterpreter entries system) ["a", "b"] plugins := by
  have hvalid : LocalPluginValidator.validateInstancesAndArgs plainInterpreter
      (twoInstances "INFO") = .ok () := rfl
  have hnames : LocalPluginLoader.instanceNames (twoInstances "INFO") = ["a", "b"].map .str := rfl
  have hbound : ∀ key ∈ LocalPluginValidator.requiredKeys, (twoInstances "INFO" key).isSome := by
    decide
  obtain ⟨loaded, entries, hloaded, -, -, hkeyed, -, hinstalls⟩ :=
    loadPluginConfig_installs plainInterpreter hvalid hnames (by decide) hbound (.inl rfl)
  obtain rfl : twoLoaded (.level logInfo) = loaded := Except.ok.inj hloaded
  obtain ⟨plugins, w', system, hbuilt⟩ := hinstalls twoSettings
    (reads_twoLoaded fun level h => LoggingAttribute.level.inj h) (freshPlace true) localSite
    "/plugins/foo" .empty (fun _ _ => rfl) (fault_freshPlace .empty)
  exact ⟨entries, plugins, w', system, hkeyed, hbuilt⟩

def fooFiles : FileSystem where
  isdir path := path == "/plugins/foo"
  isfile path := ["/plugins/foo/beer.conf", "/plugins/foo/main.py"].contains path

/-- The load has raised with the system stored, and nothing is registered. -/
def StoredOnly (name : String) (load : LoadResult × World) : Prop :=
  load.1 = .raised ∧ load.2.systems.map (·.name) = [name] ∧ load.2.registry = []

/-- `validate_instances_and_args` accepts the configuration, and loading it raises. -/
def Unloaded {Obj : Type} (py : Interpreter Obj) (config : ConfigModule Obj) : Prop :=
  LocalPluginValidator.validateInstancesAndArgs py config = .ok () ∧
    ∃ error, LocalPluginLoader.loadPluginConfig py config = .error error

/-- Plugins that the validator accepts are stored and not registered: their level is
no level, or their log files cannot be opened. And a configuration is not loaded
without a name, or where `str()` of its level raises. -/
theorem loadPluginConfig_unbuilt :
    (∀ levelName ∈ ["BASIC_FORMAT", "INFO"],
      LocalPluginValidator.validatePlugin plainInterpreter fooFiles (some "/plugins/foo")
        (.ok (twoInstances levelName)) = .ok true) ∧
      LocalPluginLoader.loadPluginConfig plainInterpreter (twoInstances "BASIC_FORMAT") =
        .ok (twoLoaded .noLevel) ∧
      LocalPluginLoader.loadPluginConfig plainInterpreter (twoInstances "INFO") =
        .ok (twoLoaded (.level logInfo)) ∧
      (twoLoaded .noLevel).Reads plainInterpreter twoSettings ∧
      (twoLoaded (.level logInfo)).Reads plainInterpreter twoSettings ∧
      StoredOnly "foo" ((freshPlace true).loadSettings .noLevel localSite "/plugins/foo"
        twoSettings .empty) ∧
      StoredOnly "foo" ((freshPlace false).loadSettings (.level logInfo)
        { localSite with pluginLogDirectory := some "/logs" } "/plugins/foo" twoSettings
        .empty) ∧
      Unloaded plainInterpreter (fun _ => none) ∧
      Unloaded (objectInterpreter fun _ : Unit => false) fun name =>
        if name = "LOG_LEVEL" then some (.other ()) else none := by
  have hlevel : (freshPlace true).fault .noLevel localSite "/plugins/foo" twoSettings .empty =
      some (.constructor 0) := rfl
  have hopens : (freshPlace false).fault (.level logInfo)
      { localSite with pluginLogDirectory := some "/logs" } "/plugins/foo" twoSettings .empty =
      some (.constructor 0) := rfl
  refine ⟨?_, rfl, rfl, reads_twoLoaded (fun level h => nomatch h),
    reads_twoLoaded fun level h => LoggingAttribute.level.inj h, ?_, ?_, ?_, ?_⟩
  · exact List.forall_mem_cons.mpr ⟨rfl, List.forall_mem_cons.mpr ⟨rfl, List.forall_mem_nil _⟩⟩
  · rw [loadSettings_raises hlevel]
    exact ⟨rfl, rfl, rfl⟩
  · rw [loadSettings_raises hopens]
    exact ⟨rfl, rfl, rfl⟩
  · exact ⟨rfl, _, rfl⟩
  · exact ⟨rfl, _, rfl⟩

end Bartender
