import Mathlib.Data.Nat.Notation
import Mathlib.Data.Int.Notation

/-!
# System documents and local plugin runners

A `LocalPluginRunner` is a thread object. Two runners built from the same
configuration are different objects, so each carries the address it was
allocated at; everything else in the record is what `__init__` stores and
nothing assigns later. The attributes that `__init__` computes from the others
are definitions here, so that a runner whose unique name or executable does
not match its configuration cannot be written down.
-/

namespace Bartender

/-- The values of an instance's `status` field. -/
inductive Status
  | running
  | paused
  | stopped
  | dead
  | unresponsive
  | starting
  | stopping
  | unknown
  | initializing
  deriving DecidableEq, Repr

/-- An instance document as the objects in memory refer to it. -/
structure Instance where
  id : ℕ
  name : String
  deriving DecidableEq, Repr

structure System where
  id : ℕ
  name : String
  version : String
  instances : List Instance
  deriving DecidableEq, Repr

/-- `logging.INFO`, the level used when the constructor gets no `log_level`. -/
def logInfo : ℤ := 20

structure LocalPluginRunner where
  address : ℕ
  entryPoint : String
  system : System
  instanceName : String
  pathToPlugin : String
  webHost : String
  webPort : ℤ
  sslEnabled : Bool
  pluginArgs : List String
  environment : List (String × String)
  requirements : List String
  pluginLogDirectory : Option String
  urlPrefix : Option String
  caVerify : Bool
  caCert : Option String
  username : Option String
  password : Option String
  pluginDefaultLogLevel : ℤ
  deriving DecidableEq, Repr

/-- The keyword arguments of the constructor, with their defaults. -/
structure RunnerOptions where
  pluginArgs : Option (List String) := none
  environment : Option (List (String × String)) := none
  requirements : Option (List String) := none
  pluginLogDirectory : Option String := none
  urlPrefix : Option String := none
  caVerify : Bool := true
  caCert : Option String := none
  username : Option String := none
  password : Option String := none
  logLevel : ℤ := logInfo

/-- `LocalPluginRunner.__init__`, for the object allocated at an address. -/
def LocalPluginRunner.init (address : ℕ) (entryPoint : String) (system : System)
    (instanceName pathToPlugin webHost : String) (webPort : ℤ) (sslEnabled : Bool)
    (options : RunnerOptions) : LocalPluginRunner where
  address := address
  entryPoint := entryPoint
  system := system
  instanceName := instanceName
  pathToPlugin := pathToPlugin
  webHost := webHost
  webPort := webPort
  sslEnabled := sslEnabled
  pluginArgs := options.pluginArgs.getD []
  environment := options.environment.getD []
  requirements := options.requirements.getD []
  pluginLogDirectory := options.pluginLogDirectory
  urlPrefix := options.urlPrefix
  caVerify := options.caVerify
  caCert := options.caCert
  username := options.username
  password := options.password
  pluginDefaultLogLevel := options.logLevel

/-- `"%s[%s]-%s" % (plugin_name, instance_name, plugin_version)`. -/
def getUniqueName (pluginName pluginVersion instanceName : String) : String :=
  pluginName ++ "[" ++ instanceName ++ "]-" ++ pluginVersion

namespace LocalPluginRunner

variable (plugin : LocalPluginRunner)

def uniqueName : String :=
  getUniqueName plugin.system.name plugin.system.version plugin.instanceName

/-- The first instance of the system with the plugin's instance name. Without
one the attribute is never set, and reading the status raises. -/
def instance? : Option Instance :=
  plugin.system.instances.find? fun i => i.name == plugin.instanceName

/-- The command line of the subprocess, after the interpreter `sys.executable`. -/
def executable (sysExecutable : String) : List String :=
  let entry :=
    if "-m ".toList.isPrefixOf plugin.entryPoint.toList then
      ["-m", String.ofList (plugin.entryPoint.toList.drop 3)]
    else [plugin.entryPoint]
  sysExecutable :: entry ++ plugin.pluginArgs

end LocalPluginRunner

/-- A plugin with one instance, whose `REQUIRES` is the given list. -/
def singlePlugin (name : String) (requirements : List String) : LocalPluginRunner where
  address := 0
  entryPoint := "main.py"
  system := ⟨0, name, "1.0", [⟨0, "default"⟩]⟩
  instanceName := "default"
  pathToPlugin := "/plugins/" ++ name
  webHost := "localhost"
  webPort := 2337
  sslEnabled := false
  pluginArgs := []
  environment := []
  requirements := requirements
  pluginLogDirectory := none
  urlPrefix := none
  caVerify := true
  caCert := none
  username := none
  password := none
  pluginDefaultLogLevel := logInfo

end Bartender
