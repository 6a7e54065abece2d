import Bartender.Plugins.EnvHelp
import Bartender.Plugins.Runner

/-!
# The environment of a plugin

`_generate_plugin_environment`: the reserved names with the runner's own
values, then the allowed host variables, then the plugin's `ENVIRONMENT`, each
value expanded with what is there so far.
-/

namespace Bartender

/-- `str(value)` of a boolean and of a string that may be missing. -/
def strBool (b : Bool) : String := if b then "True" else "False"

def strOption (s : Option String) : String := s.getD "None"

/-- `logging.getLevelName`, for a level given as a number. -/
def getLevelName (level : ℤ) : String :=
  if level = 50 then "CRITICAL"
  else if level = 40 then "ERROR"
  else if level = 30 then "WARNING"
  else if level = 20 then "INFO"
  else if level = 10 then "DEBUG"
  else if level = 0 then "NOTSET"
  else "Level " ++ toString level

namespace LocalPluginRunner

variable (plugin : LocalPluginRunner)

def reservedEnvironment : List (String × String) :=
  [("BG_NAME", plugin.system.name),
    ("BG_VERSION", plugin.system.version),
    ("BG_INSTANCE_NAME", plugin.instanceName),
    ("BG_PLUGIN_PATH", plugin.pathToPlugin),
    ("BG_WEB_HOST", plugin.webHost),
    ("BG_WEB_PORT", toString plugin.webPort),
    ("BG_SSL_ENABLED", strBool plugin.sslEnabled),
    ("BG_URL_PREFIX", strOption plugin.urlPrefix),
    ("BG_CA_VERIFY", strBool plugin.caVerify),
    ("BG_CA_CERT", strOption plugin.caCert),
    ("BG_USERNAME", strOption plugin.username),
    ("BG_PASSWORD", strOption plugin.password),
    ("BG_LOG_LEVEL", getLevelName plugin.pluginDefaultLogLevel)]

end LocalPluginRunner

def addHostVar (osEnviron env : List (String × String)) (envVar : String) :
    List (String × String) :=
  if InsertionDict.contains env envVar then env
  else InsertionDict.set env envVar ((InsertionDict.get? osEnviron envVar).getD "")

def addVariable (chars : CharClass) (env : List (String × String)) (entry : String × String) :
    List (String × String) :=
  InsertionDict.set env entry.1 (EnvHelp.expandStringWithEnvironmentVar chars entry.2 env)

def generatePluginEnvironment (chars : CharClass) (hostEnvVars : List String)
    (osEnviron : List (String × String)) (plugin : LocalPluginRunner) : List (String × String) :=
  plugin.environment.foldl (addVariable chars)
    (hostEnvVars.foldl (addHostVar osEnviron) plugin.reservedEnvironment)

/-- No name of `ENVIRONMENT` starts with the reserved prefix, as validated. -/
def ValidEnvironment (environment : List (String × String)) : Prop :=
  ∀ entry ∈ environment, "BG_".toList.isPrefixOf entry.1.toList = false

variable {chars : CharClass} {plugin : LocalPluginRunner}

theorem get?_addHostVar {osEnviron env : List (String × String)} {name value : String}
    (h : InsertionDict.get? env name = some value) (envVar : String) :
    InsertionDict.get? (addHostVar osEnviron env envVar) name = some value := by
  unfold addHostVar
  split_ifs with htaken
  · exact h
  · have hne : (envVar == name) = false := by
      rw [beq_eq_false_iff_ne]
      rintro rfl
      rw [InsertionDict.contains_eq_isSome, h] at htaken
      exact htaken rfl
    rw [InsertionDict.get?_set_of_ne _ _ hne, h]

theorem get?_foldl_addHostVar {osEnviron env : List (String × String)} {name value : String}
    (h : InsertionDict.get? env name = some value) (hostEnvVars : List String) :
    InsertionDict.get? (hostEnvVars.foldl (addHostVar osEnviron) env) name = some value := by
  induction hostEnvVars generalizing env with
  | nil => exact h
  | cons envVar rest ih => exact ih (get?_addHostVar h envVar)

theorem get?_foldl_addVariable {env : List (String × String)} {name : String}
    {environment : List (String × String)} (hne : ∀ entry ∈ environment, entry.1 ≠ name) :
    InsertionDict.get? (environment.foldl (addVariable chars) env) name =
      InsertionDict.get? env name := by
  induction environment generalizing env with
  | nil => rfl
  | cons entry rest ih =>
    rw [List.foldl_cons, ih fun e he => hne e (List.mem_cons_of_mem _ he)]
    exact InsertionDict.get?_set_of_ne _ _ (beq_eq_false_iff_ne.mpr (hne entry List.mem_cons_self))

theorem get?_generatePluginEnvironment {name value : String}
    (hvalid : ValidEnvironment plugin.environment)
    (hreserved : "BG_".toList.isPrefixOf name.toList = true)
    (h : InsertionDict.get? plugin.reservedEnvironment name = some value)
    (hostEnvVars : List String) (osEnviron : List (String × String)) :
    InsertionDict.get? (generatePluginEnvironment chars hostEnvVars osEnviron plugin) name =
      some value := by
  unfold generatePluginEnvironment
  rw [get?_foldl_addVariable]
  · exact get?_foldl_addHostVar h hostEnvVars
  · rintro entry hentry rfl
    rw [hvalid entry hentry] at hreserved
    cases hreserved

end Bartender
