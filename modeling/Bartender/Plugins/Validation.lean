import Bartender.Plugins.ConfigModule

/-!
# The plugin validator

`LocalPluginValidator`, check by check, against what it is to accept. A check
refuses a plugin by a `PluginValidationError` whose text shows the offending
value. The code gets there only if that value can be shown: the format operator
takes a tuple apart, and some tests raise by themselves.
-/

namespace Bartender

variable {Obj : Type}

structure ConfMessage (Obj : Type) where
  format : String
  arguments : List (ConfValue Obj)

/-- What leaves a check. `methodError` is whatever a method of an object raises, such
as its `__str__`, `__eq__` or `__hash__`; this is no `PluginValidationError`. -/
inductive ConfError (Obj : Type)
  | pluginValidationError (message : ConfMessage Obj)
  | valueError (message : ConfMessage Obj)
  | typeError
  | attributeError
  | methodError

abbrev Checked (Obj : Type) (α : Type) := Except (ConfError Obj) α

namespace LocalPluginValidator

variable (py : Interpreter Obj) (fs : FileSystem)

/-- `raise error(format % arguments)`. -/
def raiseWith {α : Type} (error : ConfMessage Obj → ConfError Obj) (format : String)
    (arguments : List (ConfValue Obj)) : Checked Obj α :=
  if arguments.all py.prints then .error (error ⟨format, arguments⟩) else .error .methodError

/-- `raise error(format % value)`, where the format has one place. -/
def raiseShowing {α : Type} (error : ConfMessage Obj → ConfError Obj) (format : String) :
    ConfValue Obj → Checked Obj α
  | .tuple [value] => raiseWith py error format [value]
  | .tuple _ => .error .typeError
  | value => raiseWith py error format [value]

def refuse (format : String) (arguments : List (ConfValue Obj)) : Checked Obj Unit :=
  raiseWith py .pluginValidationError format arguments

def refuseValue (format : String) (value : ConfValue Obj) : Checked Obj Unit :=
  raiseShowing py .pluginValidationError format value

def validatePluginPath (pathToPlugin : Option String) : Checked Obj Unit :=
  match pathToPlugin with
  | none => refuse py "Plugin path \"%s\" is not a directory" [.none]
  | some path =>
    if fs.isdir path then .ok ()
    else refuse py "Plugin path \"%s\" is not a directory" [.str path]

def requiredKeys : List String := ["NAME", "VERSION", "PLUGIN_ENTRY"]

def validateRequiredConfigKeys (config : ConfigModule Obj) : Checked Obj Unit :=
  requiredKeys.forM fun key =>
    if (config key).isSome then .ok ()
    else refuse py "Required key '%s' is not present. This is not allowed." [.str key]

/-- What a method of an object gives. -/
def methodOf {α : Type} : Option α → Checked Obj α
  | some a => .ok a
  | none => .error .methodError

/-- The path that `join` takes an entry point for. -/
def entryPath : ConfValue Obj → Checked Obj String
  | .str s => .ok s
  | .other object =>
    match py.fspath object with
    | some path => .ok path
    | none => .error .typeError
  | _ => .error .typeError

/-- `entry_point.startswith("-m ")`. -/
def startsWithModule : ConfValue Obj → Checked Obj Bool
  | .str s => .ok (startsWith s "-m ")
  | .other object => methodOf (py.startsWithModule object)
  | _ => .error .attributeError

/-- The path that `join` takes `entry_point[3:]` for. -/
def moduleName : ConfValue Obj → Checked Obj String
  | .str s => .ok (String.ofList (s.toList.drop 3))
  | .other object => methodOf (py.moduleName object)
  | _ => .error .typeError

def isPackage (path : String) : Bool :=
  fs.isdir path && fs.isfile (join path "__init__.py") && fs.isfile (join path "__main__.py")

/-- The branches on the entry point. A package that cannot be run is passed over as
well: only the last one raises. -/
def checkEntryPoint (pathToPlugin : String) (entryPoint : ConfValue Obj) : Checked Obj Unit := do
  let path ← entryPath py entryPoint
  if fs.isfile (join pathToPlugin path) then pure ()
  else if ← startsWithModule py entryPoint then
    let name ← moduleName py entryPoint
    if isPackage fs (join pathToPlugin name) then pure ()
  else
    refuse py "The %s must be a Python script or a runnable Python package: %s"
      [.str "PLUGIN_ENTRY", entryPoint]

def validateEntryPoint (config : ConfigModule Obj) (pathToPlugin : String) :
    Checked Obj Unit :=
  match config "PLUGIN_ENTRY" with
  | none => refuse py "No %s defined in the plugin configuration." [.str "PLUGIN_ENTRY"]
  | some entryPoint => checkEntryPoint py fs pathToPlugin entryPoint

def validateIndividualPluginArguments : ConfValue Obj → Checked Obj Unit
  | .none => .ok ()
  | .list values =>
    values.forM fun value =>
      if value.isStr then .ok ()
      else refuseValue py "Invalid plugin argument: %s - this argument must be a string." value
  | value =>
    refuseValue py
      ("Invalid Plugin Argument Specified: %s. It was not a " ++
        "list or None. This is not allowed.") value

/-- A key of `PLUGIN_ARGS`, where instances are given. -/
def validateArgsKey (instances instanceName : ConfValue Obj) : Checked Obj Unit :=
  match instances with
  | .list names => do
    if !(← methodOf (py.isIn instanceName names)) then
      refuse py
        ("'%s' contains key '%s' but that instance is not specified in the '%s'" ++ "entry.")
        [.str "PLUGIN_ARGS", instanceName, .str "INSTANCES"]
  | _ => pure ()

/-- The first loop over a `PLUGIN_ARGS` dictionary. -/
def validateArgsEntry (instances : ConfValue Obj) (entry : ConfValue Obj × ConfValue Obj) :
    Checked Obj Unit := do
  validateArgsKey py instances entry.1
  validateIndividualPluginArguments py entry.2

/-- The second loop, over `INSTANCES`. -/
def validateInstanceHasArgs (entries : List (ConfValue Obj × ConfValue Obj))
    (instanceName : ConfValue Obj) : Checked Obj Unit := do
  if !(← methodOf (py.keyIn instanceName (entries.map (·.1)))) then
    refuse py
      ("'%s' contains key '%s' but that instance is not specified in the " ++ "'%s' entry.")
      [.str "INSTANCES", instanceName, .str "PLUGIN_ARGS"]

def validateInstances : ConfValue Obj → Checked Obj Unit
  | .none | .list _ => .ok ()
  | instances =>
    refuse py ("'%s' entry was not None or a list. This is invalid. " ++ "Got: %s")
      [.str "INSTANCES", instances]

def validatePluginArgs (instances : ConfValue Obj) : ConfValue Obj → Checked Obj Unit
  | .none => .ok ()
  | .list values => validateIndividualPluginArguments py (.list values)
  | .dict entries => do
    entries.forM (validateArgsEntry py instances)
    match instances with
    | .list names => names.forM (validateInstanceHasArgs py entries)
    | _ => pure ()
  | pluginArgs =>
    refuse py ("'%s' entry was not a list or dictionary. This is invalid. " ++ "Got: %s")
      [.str "PLUGIN_ARGS", pluginArgs]

def validateInstancesAndArgs (config : ConfigModule Obj) : Checked Obj Unit := do
  let instances := config.getattr "INSTANCES" .none
  validateInstances py instances
  validatePluginArgs py instances (config.getattr "PLUGIN_ARGS" .none)

def validateEnvironmentEntry (entry : ConfValue Obj × ConfValue Obj) : Checked Obj Unit :=
  match entry.1 with
  | .str key =>
    if startsWith key "BG_" then
      refuseValue py
        ("Invalid key: %s specified for plugin environment. The 'BG_' prefix " ++
          "is a special case for beer-garden only environment variables. You will " ++
          "have to pick another name. Sorry for the inconvenience.") (.str key)
    else if entry.2.isStr then .ok ()
    else
      refuseValue py
        ("Invalid Value: %s specified for plugin environment. This must be a " ++ "String.")
        entry.2
  | key =>
    refuseValue py
      ("Invalid Key: %s specified for plugin " ++ "environment. This must be a String.") key

def validatePluginEnvironment (config : ConfigModule Obj) : Checked Obj Unit :=
  match config "ENVIRONMENT" with
  | none => .ok ()
  | some (.dict env) => env.forM (validateEnvironmentEntry py)
  | some env =>
    refuseValue py ("Invalid ENVIRONMENT specified: %s. This argument " ++ "must be a dictionary.")
      env

/-- `loaded` is what executing the file gives. -/
def validatePluginConfig (pathToPlugin : Option String)
    (loaded : Checked Obj (ConfigModule Obj)) : Checked Obj Unit :=
  match pathToPlugin with
  | none => refuse py ("Attempted to validate plugin config, " ++ "but the plugin_path is None.") []
  | some path =>
    if fs.isfile (join path "beer.conf") then do
      let config ← loaded
      validateRequiredConfigKeys py config
      validateEntryPoint py fs config path
      validateInstancesAndArgs py config
      validatePluginEnvironment py config
    else refuse py "Could not validate config file. It does not exist." []

/-- The verdict; anything but a `PluginValidationError` escapes. -/
def validatePlugin (pathToPlugin : Option String) (loaded : Checked Obj (ConfigModule Obj)) :
    Checked Obj Bool :=
  let checks := do
    validatePluginPath py fs pathToPlugin
    validatePluginConfig py fs pathToPlugin loaded
  match checks with
  | .ok () => .ok true
  | .error (.pluginValidationError _) => .ok false
  | .error e => .error e

/-- Something wrong with a plugin, by what the validator does with it. -/
inductive Flaw (Obj : Type)
  | plain
  | listed (value : ConfValue Obj)
  | shown (value : ConfValue Obj)
  | joined (value : ConfValue Obj)
  | compared (value : ConfValue Obj)

def Showable : ConfValue Obj → Prop
  | .tuple [value] => py.prints value = true
  | .tuple _ => False
  | value => py.prints value = true

/-- The flaw ends in a `PluginValidationError`. A value shown among others only
needs to be printed, one shown alone must not be taken apart, and a value joined
to a path, hashed or compared raises by itself. -/
def Flaw.Reported : Flaw Obj → Prop
  | plain => True
  | listed value => py.prints value = true
  | shown value => Showable py value
  | joined _ => False
  | compared _ => False

def requiredFlaws (config : ConfigModule Obj) : List (Flaw Obj) :=
  requiredKeys.flatMap fun key => if (config key).isSome then [] else [.plain]

/-- An object is tried as a path, and then by the methods of a string. -/
def objectEntryFlaws (path : String) (object : Obj) : List (Flaw Obj) :=
  match py.fspath object with
  | none => [.joined (.other object)]
  | some p =>
    if fs.isfile (join path p) then []
    else
      match py.startsWithModule object with
      | none => [.joined (.other object)]
      | some true => if (py.moduleName object).isSome then [] else [.joined (.other object)]
      | some false => [.listed (.other object)]

/-- A package that cannot be run and a path-like object for a file are not noticed. -/
def entryFlaws (config : ConfigModule Obj) (path : String) : List (Flaw Obj) :=
  match config "PLUGIN_ENTRY" with
  | none => [.plain]
  | some (.str s) =>
    if fs.isfile (join path s) || startsWith s "-m " then [] else [.plain]
  | some (.other object) => objectEntryFlaws py fs path object
  | some value => [.joined value]

def argumentFlaws (values : List (ConfValue Obj)) : List (Flaw Obj) :=
  values.flatMap fun value => if value.isStr then [] else [.shown value]

def individualFlaws : ConfValue Obj → List (Flaw Obj)
  | .none => []
  | .list values => argumentFlaws values
  | value => [.shown value]

def lookupFlaws (value : ConfValue Obj) : Option Bool → List (Flaw Obj)
  | some true => []
  | some false => [.listed value]
  | none => [.compared value]

def keyFlaws (instances key : ConfValue Obj) : List (Flaw Obj) :=
  match instances with
  | .list names => lookupFlaws key (py.isIn key names)
  | _ => []

def argsEntryFlaws (instances : ConfValue Obj) (entry : ConfValue Obj × ConfValue Obj) :
    List (Flaw Obj) :=
  keyFlaws py instances entry.1 ++ individualFlaws entry.2

def instanceFlaws (entries : List (ConfValue Obj × ConfValue Obj)) (name : ConfValue Obj) :
    List (Flaw Obj) :=
  lookupFlaws name (py.keyIn name (entries.map (·.1)))

def instancesFlaws : ConfValue Obj → List (Flaw Obj)
  | .none | .list _ => []
  | instances => [.listed instances]

def pluginArgsFlaws (instances : ConfValue Obj) : ConfValue Obj → List (Flaw Obj)
  | .none => []
  | .list values => argumentFlaws values
  | .dict entries =>
    entries.flatMap (argsEntryFlaws py instances) ++
      match instances with
      | .list names => names.flatMap (instanceFlaws py entries)
      | _ => []
  | pluginArgs => [.listed pluginArgs]

def instancesAndArgsFlaws (config : ConfigModule Obj) : List (Flaw Obj) :=
  instancesFlaws (config.getattr "INSTANCES" .none) ++
    pluginArgsFlaws py (config.getattr "INSTANCES" .none) (config.getattr "PLUGIN_ARGS" .none)

def environmentEntryFlaws (entry : ConfValue Obj × ConfValue Obj) : List (Flaw Obj) :=
  match entry.1 with
  | .str key =>
    if startsWith key "BG_" then [.plain]
    else if entry.2.isStr then [] else [.shown entry.2]
  | key => [.shown key]

def environmentFlaws (config : ConfigModule Obj) : List (Flaw Obj) :=
  match config "ENVIRONMENT" with
  | none => []
  | some (.dict env) => env.flatMap environmentEntryFlaws
  | some env => [.shown env]

def pathFlaws (pathToPlugin : Option String) : List (Flaw Obj) :=
  if pathToPlugin.any fs.isdir then [] else [.plain]

def configFlaws (pathToPlugin : Option String) (config : ConfigModule Obj) : List (Flaw Obj) :=
  match pathToPlugin with
  | none => [.plain]
  | some path =>
    if fs.isfile (join path "beer.conf") then
      requiredFlaws config ++ (entryFlaws py fs config path ++
        (instancesAndArgsFlaws py config ++ environmentFlaws config))
    else [.plain]

/-- What is wrong with a plugin directory, in the order in which the validator
comes to it. -/
def pluginFlaws (pathToPlugin : Option String) (config : ConfigModule Obj) : List (Flaw Obj) :=
  pathFlaws fs pathToPlugin ++ configFlaws py fs pathToPlugin config

/-- The entry point names a file, or a package below the path that can be run. -/
def Runnable (path s : String) : Prop :=
  fs.isfile (join path s) = true ∨
    ∃ name, s.toList = "-m ".toList ++ name ∧ Under path (join path (String.ofList name)) ∧
      isPackage fs (join path (String.ofList name)) = true

def ListOfStrings (value : ConfValue Obj) : Prop :=
  ∃ values, value = .list values ∧ ∀ v ∈ values, v.isStr = true

/-- The arguments are for all instances, or for exactly the given ones. -/
def ArgsAcceptable (instances pluginArgs : ConfValue Obj) : Prop :=
  pluginArgs = .none ∨ ListOfStrings pluginArgs ∨
    ∃ entries, pluginArgs = .dict entries ∧
      (∀ entry ∈ entries, entry.2 = .none ∨ ListOfStrings entry.2) ∧
      ∀ names, instances = .list names →
        (∀ entry ∈ entries, ∃ name ∈ names, py.same entry.1 name = some true) ∧
          ∀ name ∈ names, ∃ entry ∈ entries, py.sameKey name entry.1 = true

def EnvironmentAcceptable (env : ConfValue Obj) : Prop :=
  ∃ entries, env = .dict entries ∧ ∀ entry ∈ entries,
    (∃ key, entry.1 = .str key ∧ startsWith key "BG_" = false) ∧ entry.2.isStr = true

/-- A plugin directory as it is to be. -/
structure Acceptable (path : String) (config : ConfigModule Obj) : Prop where
  directory : fs.isdir path = true
  beerConf : fs.isfile (join path "beer.conf") = true
  required : ∀ key ∈ requiredKeys, (config key).isSome = true
  entryPoint : ∃ s, config "PLUGIN_ENTRY" = some (.str s) ∧ Runnable fs path s
  instances : config.getattr "INSTANCES" .none = .none ∨
    ∃ names, config.getattr "INSTANCES" .none = .list names
  args : ArgsAcceptable py (config.getattr "INSTANCES" .none) (config.getattr "PLUGIN_ARGS" .none)
  environment : ∀ env, config "ENVIRONMENT" = some env → EnvironmentAcceptable env

/-- The entry point passes although it is not to be accepted: a package that
cannot be run or is not below the path, or a path-like object for a file or a module. -/
def EntryOverlooked (path : String) (config : ConfigModule Obj) : Prop :=
  (∃ s, config "PLUGIN_ENTRY" = some (.str s) ∧ startsWith s "-m " = true ∧
      ¬ Runnable fs path s) ∨
    ∃ object p, config "PLUGIN_ENTRY" = some (.other object) ∧ py.fspath object = some p ∧
      (fs.isfile (join path p) = true ∨
        py.startsWithModule object = some true ∧ (py.moduleName object).isSome = true)

section Accepted

variable {py fs}

theorem argumentFlaws_eq_nil {values : List (ConfValue Obj)} :
    argumentFlaws values = [] ↔ ∀ v ∈ values, v.isStr = true := by
  simp [argumentFlaws]

theorem individualFlaws_eq_nil {value : ConfValue Obj} :
    individualFlaws value = [] ↔ value = .none ∨ ListOfStrings value := by
  cases value <;> simp [individualFlaws, ListOfStrings, argumentFlaws_eq_nil]

theorem startsWith_of_runnable {path s : String} (h : Runnable fs path s) :
    (fs.isfile (join path s) || startsWith s "-m ") = true := by
  rcases h with hfile | ⟨name, hs, -, -⟩
  · rw [hfile, Bool.true_or]
  · rw [startsWith, hs, Bool.or_eq_true]
    exact .inr (List.isPrefixOf_iff_prefix.mpr (List.prefix_append _ _))

theorem entryFlaws_eq_nil {config : ConfigModule Obj} {path : String} :
    entryFlaws py fs config path = [] ↔
      (∃ s, config "PLUGIN_ENTRY" = some (.str s) ∧ Runnable fs path s) ∨
        EntryOverlooked py fs path config := by
  unfold entryFlaws EntryOverlooked
  cases config "PLUGIN_ENTRY" with
  | none => simp
  | some entryPoint =>
    cases entryPoint with
    | str s =>
      by_cases hrun : Runnable fs path s
      · have hnotice := startsWith_of_runnable hrun
        simp [hrun, hnotice]
      · have hfile : fs.isfile (join path s) = false := by simpa using mt Or.inl hrun
        simp [hrun, hfile]
    | other object =>
      unfold objectEntryFlaws
      cases hpath : py.fspath object with
      | none => simp [hpath]
      | some p =>
        cases hmodule : py.startsWithModule object with
        | none => simp [hpath, hmodule]
        | some starts =>
          cases starts <;> simp [hpath, hmodule, Option.isSome_iff_ne_none, or_iff_not_imp_left]
    | _ => simp

theorem not_entryOverlooked_of_runnable {config : ConfigModule Obj} {path s : String}
    (hentry : config "PLUGIN_ENTRY" = some (.str s)) (h : Runnable fs path s) :
    ¬ EntryOverlooked py fs path config := by
  rintro (⟨s', hentry', -, hnot⟩ | ⟨_, _, hentry', -⟩)
  · rw [hentry] at hentry'
    cases hentry'
    exact hnot h
  · rw [hentry] at hentry'
    cases hentry'

theorem requiredFlaws_eq_nil {config : ConfigModule Obj} :
    requiredFlaws config = [] ↔ ∀ key ∈ requiredKeys, (config key).isSome = true := by
  rw [requiredFlaws, List.flatMap_eq_nil_iff]
  exact forall₂_congr fun key _ => by cases config key <;> simp

theorem instancesFlaws_eq_nil {instances : ConfValue Obj} :
    instancesFlaws instances = [] ↔ instances = .none ∨ ∃ names, instances = .list names := by
  cases instances <;> simp [instancesFlaws]

theorem environmentEntryFlaws_eq_nil {entry : ConfValue Obj × ConfValue Obj} :
    environmentEntryFlaws entry = [] ↔
      (∃ key, entry.1 = .str key ∧ startsWith key "BG_" = false) ∧ entry.2.isStr = true := by
  unfold environmentEntryFlaws
  split
  · next key hkey => split_ifs <;> simp_all
  · next key hne => simpa using fun key hkey => absurd hkey (hne key)

theorem environmentFlaws_eq_nil {config : ConfigModule Obj} :
    environmentFlaws config = [] ↔
      ∀ env, config "ENVIRONMENT" = some env → EnvironmentAcceptable env := by
  unfold environmentFlaws
  cases config "ENVIRONMENT" with
  | none => simp
  | some env =>
    cases env <;> simp [EnvironmentAcceptable, environmentEntryFlaws_eq_nil]

theorem lookupFlaws_eq_nil {value : ConfValue Obj} {answer : Option Bool} :
    lookupFlaws value answer = [] ↔ answer = some true := by
  rcases answer with _ | _ | _ <;> simp [lookupFlaws]

theorem flaw_of_lookup {value : ConfValue Obj} {answer : Option Bool} (h : answer ≠ some false) :
    ∀ flaw ∈ lookupFlaws value answer, flaw = .compared value := by
  rcases answer with _ | _ | _
  · simp [lookupFlaws]
  · exact absurd rfl h
  · simp [lookupFlaws]

theorem keyIn_iff_exists {entries : List (ConfValue Obj × ConfValue Obj)} {name : ConfValue Obj}
    {found : Bool} (h : py.keyIn name (entries.map (·.1)) = some found) :
    found = true ↔ ∃ entry ∈ entries, py.sameKey name entry.1 = true := by
  simpa using py.keyIn_iff h

theorem keyIn_of_flaws_eq_nil {names : List (ConfValue Obj)}
    {entries : List (ConfValue Obj × ConfValue Obj)}
    (h : pluginArgsFlaws py (.list names) (.dict entries) = []) :
    ∀ name ∈ names, py.keyIn name (entries.map (·.1)) = some true := by
  have hnames : ∀ name ∈ names, instanceFlaws py entries name = [] := by
    simpa using (List.append_eq_nil_iff.mp h).2
  exact fun name hname => lookupFlaws_eq_nil.mp (hnames name hname)

theorem argsAcceptable_of_flaws_eq_nil {instances pluginArgs : ConfValue Obj}
    (h : pluginArgsFlaws py instances pluginArgs = []) :
    ArgsAcceptable py instances pluginArgs := by
  cases pluginArgs with
  | none => exact .inl rfl
  | list values => exact .inr (.inl ⟨values, rfl, argumentFlaws_eq_nil.mp h⟩)
  | dict entries =>
    have hentry : ∀ entry ∈ entries, argsEntryFlaws py instances entry = [] := by
      simpa using (List.append_eq_nil_iff.mp h).1
    refine .inr (.inr ⟨entries, rfl, fun entry hmem => ?_, fun names hlist => ?_⟩)
    · exact individualFlaws_eq_nil.mp (List.append_eq_nil_iff.mp (hentry entry hmem)).2
    · subst hlist
      refine ⟨fun entry hmem => ?_, fun name hmem => ?_⟩
      · have hin : lookupFlaws entry.1 (py.isIn entry.1 names) = [] :=
          (List.append_eq_nil_iff.mp (hentry entry hmem)).1
        exact py.exists_of_isIn (lookupFlaws_eq_nil.mp hin)
      · exact (keyIn_iff_exists (keyIn_of_flaws_eq_nil h name hmem)).mp rfl
  | _ => cases h

theorem flaw_of_keyFlaws {instances key : ConfValue Obj}
    (h : ∀ names, instances = .list names → ∃ name ∈ names, py.same key name = some true) :
    ∀ flaw ∈ keyFlaws py instances key, flaw = .compared key := by
  cases instances with
  | list names => exact flaw_of_lookup (py.isIn_ne_false (h names rfl))
  | _ => exact fun flaw hflaw => absurd hflaw List.not_mem_nil

theorem flaw_of_instanceFlaws {entries : List (ConfValue Obj × ConfValue Obj)}
    {name : ConfValue Obj} (h : ∃ entry ∈ entries, py.sameKey name entry.1 = true) :
    ∀ flaw ∈ instanceFlaws py entries name, flaw = .compared name :=
  flaw_of_lookup fun hanswer => Bool.false_ne_true ((keyIn_iff_exists hanswer).mpr h)

/-- Acceptable arguments are at most tripped over at a name that cannot be compared. -/
theorem flaw_of_argsAcceptable {instances pluginArgs : ConfValue Obj}
    (h : ArgsAcceptable py instances pluginArgs) :
    ∀ flaw ∈ pluginArgsFlaws py instances pluginArgs, ∃ name, flaw = .compared name := by
  rcases h with rfl | ⟨values, rfl, hvalues⟩ | ⟨entries, rfl, hargs, hnames⟩
  · exact fun flaw hflaw => absurd hflaw List.not_mem_nil
  · rw [pluginArgsFlaws, argumentFlaws_eq_nil.mpr hvalues]
    exact fun flaw hflaw => absurd hflaw List.not_mem_nil
  · intro flaw hflaw
    rcases List.mem_append.mp hflaw with hflaw | hflaw
    · obtain ⟨entry, hentry, hflaw⟩ := List.mem_flatMap.mp hflaw
      rw [argsEntryFlaws, individualFlaws_eq_nil.mpr (hargs entry hentry),
        List.append_nil] at hflaw
      exact ⟨entry.1, flaw_of_keyFlaws (fun names hlist => (hnames names hlist).1 entry hentry)
        flaw hflaw⟩
    · cases instances with
      | list names =>
        obtain ⟨name, hname, hmem⟩ := List.mem_flatMap.mp hflaw
        exact ⟨name, flaw_of_instanceFlaws ((hnames names rfl).2 name hname) flaw hmem⟩
      | _ => exact absurd hflaw List.not_mem_nil

end Accepted

section Follows

def Follows (x : Checked Obj Unit) : List (Flaw Obj) → Prop
  | [] => x = .ok ()
  | flaw :: _ =>
    (flaw.Reported py ∧ ∃ message, x = .error (.pluginValidationError message)) ∨
      (¬ flaw.Reported py ∧ ∃ e, x = .error e ∧ ∀ message, e ≠ .pluginValidationError message)

variable {py fs}

theorem follows_ok : Follows py (.ok ()) [] := rfl

theorem Follows.bind {x y : Checked Obj Unit} {flaws others : List (Flaw Obj)}
    (hx : Follows py x flaws) (hy : Follows py y others) :
    Follows py (x >>= fun _ => y) (flaws ++ others) := by
  cases flaws with
  | nil =>
    obtain rfl : x = .ok () := hx
    exact hy
  | cons flaw flaws =>
    rcases hx with ⟨hreported, message, rfl⟩ | ⟨hnot, e, rfl, hother⟩
    · exact .inl ⟨hreported, message, rfl⟩
    · exact .inr ⟨hnot, e, rfl, hother⟩

theorem Follows.eq_nil {flaws : List (Flaw Obj)} (h : Follows py (.ok ()) flaws) : flaws = [] := by
  cases flaws with
  | nil => rfl
  | cons flaw flaws => rcases h with ⟨-, _, h⟩ | ⟨-, _, h, -⟩ <;> cases h

theorem Follows.eq_ok_iff {x : Checked Obj Unit} {flaws : List (Flaw Obj)}
    (h : Follows py x flaws) : x = .ok () ↔ flaws = [] := by
  constructor
  · rintro rfl
    exact h.eq_nil
  · rintro rfl
    exact h

theorem follows_forM {α : Type} {f : α → Checked Obj Unit} {flaws : α → List (Flaw Obj)}
    (h : ∀ a, Follows py (f a) (flaws a)) (xs : List α) :
    Follows py (xs.forM f) (xs.flatMap flaws) := by
  induction xs with
  | nil => rfl
  | cons a xs ih => exact (h a).bind ih

theorem follows_refuse {flaw : Flaw Obj} {format : String} {arguments : List (ConfValue Obj)}
    (h : arguments.all py.prints = true ↔ flaw.Reported py) :
    Follows py (refuse py format arguments) [flaw] := by
  unfold refuse raiseWith
  split_ifs with hprints
  · exact .inl ⟨h.mp hprints, _, rfl⟩
  · exact .inr ⟨mt h.mpr hprints, _, rfl, fun _ => nofun⟩

theorem follows_escape {flaw : Flaw Obj} {e : ConfError Obj} (hflaw : ¬ flaw.Reported py)
    (he : ∀ message, e ≠ .pluginValidationError message) : Follows py (.error e) [flaw] :=
  .inr ⟨hflaw, e, rfl, he⟩

theorem follows_refuseValue (format : String) (value : ConfValue Obj) :
    Follows py (refuseValue py format value) [.shown value] := by
  cases value with
  | tuple values =>
    rcases values with _ | ⟨value, _ | ⟨_, _⟩⟩
    · exact follows_escape id fun _ => nofun
    · exact follows_refuse (by simp [Flaw.Reported, Showable])
    · exact follows_escape id fun _ => nofun
  | _ => exact follows_refuse (by simp [Flaw.Reported, Showable])

theorem follows_required (config : ConfigModule Obj) :
    Follows py (validateRequiredConfigKeys py config) (requiredFlaws config) := by
  refine follows_forM (fun key => ?_) requiredKeys
  split_ifs
  · exact follows_ok
  · exact follows_refuse (by simp [Flaw.Reported, py.prints_str])

theorem follows_objectEntry (path : String) (object : Obj) :
    Follows py (checkEntryPoint py fs path (.other object))
      (objectEntryFlaws py fs path object) := by
  unfold checkEntryPoint objectEntryFlaws
  cases hpath : py.fspath object with
  | none =>
    simp only [entryPath, hpath, bind, Except.bind]
    exact follows_escape id fun _ => nofun
  | some p =>
    cases hfile : fs.isfile (join path p) with
    | true => simp [entryPath, hpath, hfile, bind, Except.bind, pure, Except.pure, Follows]
    | false =>
      simp only [entryPath, startsWithModule, moduleName, hpath, hfile, bind, Except.bind,
        Bool.false_eq_true, if_false]
      rcases py.startsWithModule object with _ | _ | _
      · exact follows_escape id fun _ => nofun
      · exact follows_refuse (by simp [Flaw.Reported, py.prints_str])
      · cases py.moduleName object with
        | none => exact follows_escape id fun _ => nofun
        | some name => simp [methodOf, pure, Except.pure, Follows]

theorem follows_entryPoint (config : ConfigModule Obj) (path : String) :
    Follows py (validateEntryPoint py fs config path) (entryFlaws py fs config path) := by
  unfold validateEntryPoint entryFlaws
  cases config "PLUGIN_ENTRY" with
  | none => exact follows_refuse (by simp [Flaw.Reported, py.prints_str])
  | some entryPoint =>
    cases entryPoint with
    | str s =>
      cases hfile : fs.isfile (join path s) with
      | true =>
        simp [checkEntryPoint, entryPath, hfile, bind, Except.bind, pure, Except.pure, Follows]
      | false =>
        cases hmodule : startsWith s "-m " with
        | true =>
          simp [checkEntryPoint, entryPath, startsWithModule, moduleName, hfile, hmodule, bind,
            Except.bind, pure, Except.pure, Follows]
        | false =>
          simp only [checkEntryPoint, entryPath, startsWithModule, hfile, hmodule, bind,
            Except.bind, Bool.or_self, Bool.false_eq_true, if_false]
          exact follows_refuse (by simp [Flaw.Reported, py.prints_str])
    | other object => exact follows_objectEntry path object
    | _ => exact follows_escape id fun _ => nofun

theorem follows_individual (value : ConfValue Obj) :
    Follows py (validateIndividualPluginArguments py value) (individualFlaws value) := by
  cases value with
  | none => exact follows_ok
  | list values =>
    refine follows_forM (fun value => ?_) values
    split_ifs
    · exact follows_ok
    · exact follows_refuseValue _ value
  | _ => exact follows_refuseValue _ _

theorem follows_lookup {value : ConfValue Obj} {answer : Option Bool} {x : Checked Obj Unit}
    (hx : Follows py x [.listed value]) :
    Follows py (do if !(← methodOf answer) then x) (lookupFlaws value answer) := by
  rcases answer with _ | _ | _
  · exact follows_escape id fun _ => nofun
  · exact hx
  · exact follows_ok

theorem follows_argsKey (instances key : ConfValue Obj) :
    Follows py (validateArgsKey py instances key) (keyFlaws py instances key) := by
  cases instances with
  | list names => exact follows_lookup (follows_refuse (by simp [Flaw.Reported, py.prints_str]))
  | _ => exact follows_ok

theorem follows_argsEntry (instances : ConfValue Obj) (entry : ConfValue Obj × ConfValue Obj) :
    Follows py (validateArgsEntry py instances entry) (argsEntryFlaws py instances entry) :=
  (follows_argsKey instances entry.1).bind (follows_individual entry.2)

theorem follows_instanceHasArgs (entries : List (ConfValue Obj × ConfValue Obj))
    (name : ConfValue Obj) :
    Follows py (validateInstanceHasArgs py entries name) (instanceFlaws py entries name) :=
  follows_lookup (follows_refuse (by simp [Flaw.Reported, py.prints_str]))

theorem follows_environmentEntry (entry : ConfValue Obj × ConfValue Obj) :
    Follows py (validateEnvironmentEntry py entry) (environmentEntryFlaws entry) := by
  unfold validateEnvironmentEntry environmentEntryFlaws
  split
  · split_ifs
    · exact follows_refuse (by simp [Flaw.Reported, py.prints_str])
    · exact follows_ok
    · exact follows_refuseValue _ _
  · exact follows_refuseValue _ _

theorem follows_environment (config : ConfigModule Obj) :
    Follows py (validatePluginEnvironment py config) (environmentFlaws config) := by
  unfold validatePluginEnvironment environmentFlaws
  split
  · exact follows_ok
  · exact follows_forM follows_environmentEntry _
  · exact follows_refuseValue _ _

theorem follows_instances (instances : ConfValue Obj) :
    Follows py (validateInstances py instances) (instancesFlaws instances) := by
  cases instances with
  | none => exact follows_ok
  | list names => exact follows_ok
  | _ => exact follows_refuse (by simp [Flaw.Reported, py.prints_str])

theorem follows_pluginArgs (instances pluginArgs : ConfValue Obj) :
    Follows py (validatePluginArgs py instances pluginArgs)
      (pluginArgsFlaws py instances pluginArgs) := by
  cases pluginArgs with
  | none => exact follows_ok
  | list values => exact follows_individual (.list values)
  | dict entries =>
    refine (follows_forM (follows_argsEntry instances) entries).bind ?_
    cases instances with
    | list names => exact follows_forM (follows_instanceHasArgs entries) names
    | _ => exact follows_ok
  | _ => exact follows_refuse (by simp [Flaw.Reported, py.prints_str])

theorem follows_instancesAndArgs (config : ConfigModule Obj) :
    Follows py (validateInstancesAndArgs py config) (instancesAndArgsFlaws py config) :=
  (follows_instances _).bind (follows_pluginArgs _ _)

theorem follows_path (pathToPlugin : Option String) :
    Follows py (validatePluginPath py fs pathToPlugin) (pathFlaws fs pathToPlugin) := by
  unfold validatePluginPath pathFlaws
  cases pathToPlugin with
  | none => exact follows_refuse (by simp [Flaw.Reported, py.prints_none])
  | some path =>
    dsimp only [Option.any_some]
    split_ifs
    · exact follows_ok
    · exact follows_refuse (by simp [Flaw.Reported, py.prints_str])

theorem follows_config (pathToPlugin : Option String) (config : ConfigModule Obj) :
    Follows py (validatePluginConfig py fs pathToPlugin (.ok config))
      (configFlaws py fs pathToPlugin config) := by
  unfold validatePluginConfig configFlaws
  cases pathToPlugin with
  | none => exact follows_refuse (by simp [Flaw.Reported])
  | some path =>
    dsimp only
    split_ifs
    · exact (follows_required config).bind ((follows_entryPoint config path).bind
        ((follows_instancesAndArgs config).bind (follows_environment config)))
    · exact follows_refuse (by simp [Flaw.Reported])

theorem follows_plugin (pathToPlugin : Option String) (config : ConfigModule Obj) :
    Follows py (do
      validatePluginPath py fs pathToPlugin
      validatePluginConfig py fs pathToPlugin (.ok config))
      (pluginFlaws py fs pathToPlugin config) :=
  (follows_path pathToPlugin).bind (follows_config pathToPlugin config)

end Follows

section Verdict

variable {py fs}

theorem acceptable_iff_of_flaws_eq_nil {path : String} {config : ConfigModule Obj}
    (h : pluginFlaws py fs (some path) config = []) :
    Acceptable py fs path config ↔ ¬ EntryOverlooked py fs path config := by
  obtain ⟨hpath, hconfig⟩ := List.append_eq_nil_iff.mp h
  have hdir : fs.isdir path = true := by simpa [pathFlaws] using hpath
  have hconf : fs.isfile (join path "beer.conf") = true := by
    by_contra hno
    simp [configFlaws, hno] at hconfig
  simp only [configFlaws, hconf, if_true, List.append_eq_nil_iff, instancesAndArgsFlaws] at hconfig
  obtain ⟨hrequired, hentry, ⟨hinstances, hargs⟩, henvironment⟩ := hconfig
  constructor
  · intro haccept
    obtain ⟨s, hs, hrun⟩ := haccept.entryPoint
    exact not_entryOverlooked_of_runnable hs hrun
  · intro hnot
    exact ⟨hdir, hconf, requiredFlaws_eq_nil.mp hrequired,
      (entryFlaws_eq_nil.mp hentry).resolve_right hnot, instancesFlaws_eq_nil.mp hinstances,
      argsAcceptable_of_flaws_eq_nil hargs, environmentFlaws_eq_nil.mp henvironment⟩

theorem flaw_of_acceptable {path : String} {config : ConfigModule Obj}
    (h : Acceptable py fs path config) :
    ∀ flaw ∈ pluginFlaws py fs (some path) config, ∃ name, flaw = .compared name := by
  have hpath : (pathFlaws fs (some path) : List (Flaw Obj)) = [] := by simp [pathFlaws, h.directory]
  have hargs := flaw_of_argsAcceptable h.args
  rw [pluginFlaws, hpath, configFlaws, if_pos h.beerConf, requiredFlaws_eq_nil.mpr h.required,
    entryFlaws_eq_nil.mpr (.inl h.entryPoint), instancesAndArgsFlaws,
    instancesFlaws_eq_nil.mpr h.instances, environmentFlaws_eq_nil.mpr h.environment]
  simpa using hargs

theorem validatePlugin_accepts_iff {pathToPlugin : Option String}
    {loaded : Checked Obj (ConfigModule Obj)} :
    validatePlugin py fs pathToPlugin loaded = .ok true ↔
      (do
        validatePluginPath py fs pathToPlugin
        validatePluginConfig py fs pathToPlugin loaded) = .ok () := by
  unfold validatePlugin
  generalize (do
    validatePluginPath py fs pathToPlugin
    validatePluginConfig py fs pathToPlugin loaded) = checks
  rcases checks with e | ⟨⟩
  · cases e <;> exact iff_of_false nofun nofun
  · exact iff_of_true rfl rfl

theorem validatePlugin_accepts_iff_flaws {pathToPlugin : Option String}
    {config : ConfigModule Obj} :
    validatePlugin py fs pathToPlugin (.ok config) = .ok true ↔
      pluginFlaws py fs pathToPlugin config = [] := by
  rw [validatePlugin_accepts_iff]
  exact (follows_plugin pathToPlugin config).eq_ok_iff

theorem validatePlugin_of_raised {pathToPlugin : Option String} {e : ConfError Obj} :
    validatePlugin py fs pathToPlugin (.error e) ≠ .ok true := by
  rw [ne_eq, validatePlugin_accepts_iff]
  intro hchecks
  cases hpath : validatePluginPath py fs pathToPlugin with
  | error e' =>
    rw [hpath] at hchecks
    cases hchecks
  | ok _ =>
    rw [hpath] at hchecks
    have hconfig : validatePluginConfig py fs pathToPlugin (.error e) =
      .ok () := hchecks
    unfold validatePluginConfig refuse
      raiseWith at hconfig
    split at hconfig
    · split_ifs at hconfig
    · split_ifs at hconfig
      cases hconfig

theorem flaws_of_pluginFlaws_eq_nil {path : String} {config : ConfigModule Obj}
    (h : pluginFlaws py fs (some path) config = []) :
    requiredFlaws config = [] ∧ instancesAndArgsFlaws py config = [] ∧
      environmentFlaws config = [] := by
  obtain ⟨-, hconfig⟩ := List.append_eq_nil_iff.mp h
  unfold configFlaws at hconfig
  dsimp only at hconfig
  split_ifs at hconfig
  obtain ⟨hrequired, hrest⟩ := List.append_eq_nil_iff.mp hconfig
  obtain ⟨-, hrest⟩ := List.append_eq_nil_iff.mp hrest
  exact ⟨hrequired, List.append_eq_nil_iff.mp hrest⟩

/-- The validator does not raise and accepts exactly what is to be accepted, unless
the first thing wrong is one that it cannot report, or nothing is wrong that it
notices and it has overlooked the entry point. -/
theorem validatePlugin_decides_iff (py : Interpreter Obj) (fs : FileSystem)
    (pathToPlugin : Option String) (config : ConfigModule Obj) :
    (∃ verdict, validatePlugin py fs pathToPlugin (.ok config) = .ok verdict ∧
        (verdict = true ↔ ∃ path, pathToPlugin = some path ∧ Acceptable py fs path config)) ↔
      (∀ flaw ∈ (pluginFlaws py fs pathToPlugin config).head?, flaw.Reported py) ∧
        (pluginFlaws py fs pathToPlugin config = [] →
          ∀ path, pathToPlugin = some path → ¬ EntryOverlooked py fs path config) := by
  have hfollows := @follows_plugin Obj py fs pathToPlugin config
  unfold validatePlugin
  generalize (do
    validatePluginPath py fs pathToPlugin
    validatePluginConfig py fs pathToPlugin (.ok config)) = checks at hfollows ⊢
  cases hflaws : pluginFlaws py fs pathToPlugin config with
  | nil =>
    rw [hflaws] at hfollows
    obtain rfl : checks = .ok () := hfollows
    obtain ⟨path, rfl⟩ : ∃ path, pathToPlugin = some path := by
      cases pathToPlugin with
      | none => simp [pluginFlaws, pathFlaws] at hflaws
      | some path => exact ⟨path, rfl⟩
    simp [acceptable_iff_of_flaws_eq_nil hflaws]
  | cons flaw flaws =>
    have hnot : flaw.Reported py → ¬ ∃ path, pathToPlugin = some path ∧
        Acceptable py fs path config := by
      rintro hreported ⟨path, rfl, haccept⟩
      obtain ⟨name, rfl⟩ := flaw_of_acceptable haccept flaw (by simp [hflaws])
      exact hreported
    rw [hflaws] at hfollows
    rcases hfollows with ⟨hreported, message, rfl⟩ | ⟨hescapes, e, rfl, hother⟩
    · simp only [List.head?_cons, Option.mem_some_iff, forall_eq', hreported, reduceCtorEq,
        false_imp_iff, and_self, iff_true]
      exact ⟨false, rfl, by simpa using hnot hreported⟩
    · simp only [List.head?_cons, Option.mem_some_iff, forall_eq', hescapes, false_and, iff_false]
      rintro ⟨verdict, hverdict, -⟩
      cases hverdict

/-- A plugin directory that holds nothing but its configuration, and a package
elsewhere. -/
def bareFileSystem : FileSystem where
  isdir path := ["/plugins/echo", "/opt/pkg"].contains path
  isfile path := ["/plugins/echo/beer.conf", "/opt/pkg/__init__.py",
    "/opt/pkg/__main__.py"].contains path

def entryConfig (entryPoint : ConfValue Empty) : ConfigModule Empty := fun name =>
  if name = "NAME" then some (.str "echo")
  else if name = "VERSION" then some (.str "1.0")
  else if name = "PLUGIN_ENTRY" then some entryPoint
  else none

theorem not_acceptable_module (name : String)
    (hfile : bareFileSystem.isfile (join "/plugins/echo" ("-m " ++ name)) = false)
    (hname : isPackage bareFileSystem (join "/plugins/echo" name) = true →
      ¬ Under "/plugins/echo" (join "/plugins/echo" name)) :
    ¬ Acceptable plainInterpreter bareFileSystem "/plugins/echo"
      (entryConfig (.str ("-m " ++ name))) := by
  intro haccept
  obtain ⟨s, hs, hrun⟩ := haccept.entryPoint
  obtain rfl : "-m " ++ name = s := ConfValue.str.inj (Option.some.inj hs)
  rcases hrun with hrun | ⟨rest, hrest, hunder, hpackage⟩
  · exact Bool.false_ne_true (hfile.symm.trans hrun)
  · rw [String.toList_append] at hrest
    obtain rfl : name.toList = rest := List.append_cancel_left hrest
    rw [String.ofList_toList] at hunder hpackage
    exact hname hpackage hunder

/-- A package that does not exist is accepted, one that is elsewhere is accepted,
and no entry point at all is not refused. -/
theorem validatePlugin_overlooks :
    validatePlugin plainInterpreter bareFileSystem (some "/plugins/echo")
        (.ok (entryConfig (.str "-m echo"))) = .ok true ∧
      ¬ Acceptable plainInterpreter bareFileSystem "/plugins/echo" (entryConfig (.str "-m echo")) ∧
      validatePlugin plainInterpreter bareFileSystem (some "/plugins/echo")
        (.ok (entryConfig (.str "-m /opt/pkg"))) = .ok true ∧
      ¬ Acceptable plainInterpreter bareFileSystem "/plugins/echo"
        (entryConfig (.str "-m /opt/pkg")) ∧
      validatePlugin plainInterpreter bareFileSystem (some "/plugins/echo")
        (.ok (entryConfig .none)) = .error .typeError := by
  refine ⟨rfl, ?_, rfl, ?_, rfl⟩
  · exact not_acceptable_module "echo" (by decide) fun hpackage =>
      absurd hpackage (by decide)
  · refine not_acceptable_module "/opt/pkg" (by decide) fun _ => ?_
    rintro ⟨-, rest, hrest, -⟩
    have hparts : components (join "/plugins/echo" "/opt/pkg") = ["opt".toList, "pkg".toList] := by
      decide
    have hpath : components "/plugins/echo" = ["plugins".toList, "echo".toList] := by decide
    rw [hparts, hpath] at hrest
    cases (List.cons.inj hrest).1

end Verdict

end LocalPluginValidator

end Bartender
