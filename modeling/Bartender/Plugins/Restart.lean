import Bartender.Plugins.Environment
import Bartender.Plugins.StopOutcome

/-!
# What a restarted plugin runs

`start_plugin` builds the new runner from the old one field by field. All
fields are copied except the log level, for which the constructor's default
takes its place; the environment shows it.
-/

namespace Bartender

/-- The new runner runs the plugin as the old one did. -/
structure RunsLike (chars : CharClass) (sysExecutable : String) (hostEnvVars : List String)
    (osEnviron : List (String × String)) (old new : LocalPluginRunner) : Prop where
  uniqueName : new.uniqueName = old.uniqueName
  system : new.system = old.system
  instance_eq : new.instance? = old.instance?
  requirements : new.requirements = old.requirements
  pathToPlugin : new.pathToPlugin = old.pathToPlugin
  executable : new.executable sysExecutable = old.executable sysExecutable
  environment : generatePluginEnvironment chars hostEnvVars osEnviron new =
    generatePluginEnvironment chars hostEnvVars osEnviron old

theorem rebuild_eq (plugin : LocalPluginRunner) (address : ℕ) :
    rebuild plugin address =
      { plugin with address := address, pluginDefaultLogLevel := logInfo } := rfl

theorem getLevelName_eq_info {level : ℤ} : getLevelName level = getLevelName logInfo ↔
    level = logInfo := by
  constructor
  · intro h
    by_contra hne
    have hinfo : getLevelName logInfo = "INFO" := by decide
    rw [hinfo] at h
    unfold getLevelName at h
    split_ifs at h with h50 h40 h30 h20 h10 h0
    · exact absurd h (by decide)
    · exact absurd h (by decide)
    · exact absurd h (by decide)
    · exact hne h20
    · exact absurd h (by decide)
    · exact absurd h (by decide)
    · have := congrArg (fun s => s.toList.head?) h
      simp at this
  · rintro rfl
    rfl

theorem generatePluginEnvironment_rebuild_iff {chars : CharClass} {hostEnvVars : List String}
    {osEnviron : List (String × String)} {plugin : LocalPluginRunner} (address : ℕ)
    (hvalid : ValidEnvironment plugin.environment) :
    generatePluginEnvironment chars hostEnvVars osEnviron (rebuild plugin address) =
      generatePluginEnvironment chars hostEnvVars osEnviron plugin ↔
      plugin.pluginDefaultLogLevel = logInfo := by
  constructor
  · intro h
    have hlevel : ∀ p : LocalPluginRunner, ValidEnvironment p.environment →
        InsertionDict.get? (generatePluginEnvironment chars hostEnvVars osEnviron p)
          "BG_LOG_LEVEL" = some (getLevelName p.pluginDefaultLogLevel) := fun p hp =>
      get?_generatePluginEnvironment hp (by decide) rfl hostEnvVars osEnviron
    have hold := hlevel plugin hvalid
    rw [← h, hlevel (rebuild plugin address) hvalid, Option.some.injEq] at hold
    exact getLevelName_eq_info.mp hold.symm
  · intro h
    rw [rebuild_eq, ← h]
    rfl

theorem rebuild_runsLike_iff {chars : CharClass} {sysExecutable : String}
    {hostEnvVars : List String} {osEnviron : List (String × String)} {plugin : LocalPluginRunner}
    (address : ℕ) (hvalid : ValidEnvironment plugin.environment) :
    RunsLike chars sysExecutable hostEnvVars osEnviron plugin (rebuild plugin address) ↔
      plugin.pluginDefaultLogLevel = logInfo := by
  rw [← generatePluginEnvironment_rebuild_iff address hvalid]
  exact ⟨fun h => h.environment, fun h => ⟨rfl, rfl, rfl, rfl, rfl, rfl, h⟩⟩

theorem getPlugin_startPlugin {popen : ℕ → Bool} {w : World} {plugin : LocalPluginRunner}
    (hdistinct : w.registry.Distinct) (hdown : (w.status plugin).IsDown) :
    (startPlugin popen plugin w).2.registry.getPlugin plugin.uniqueName =
      some (rebuild plugin w.next) := by
  have hstart : startPlugin popen plugin w = launch popen (rebuild plugin w.next)
      ((w.addRunner (rebuild plugin)).1.replaceInRegistry plugin (rebuild plugin w.next)) := by
    unfold startPlugin
    rcases hdown with hstatus | hstatus <;> rw [hstatus] <;> rfl
  rw [hstart, launch_registry]
  exact World.getPlugin_replaceInRegistry hdistinct rfl

/-- A plugin that is down is restarted as it first ran exactly when its log
level is the constructor's default. -/
theorem startPlugin_runsLike_iff (chars : CharClass) (sysExecutable : String)
    (hostEnvVars : List String) (osEnviron : List (String × String)) (popen : ℕ → Bool)
    (w : World) (plugin : LocalPluginRunner) (hdistinct : w.registry.Distinct)
    (hdown : (w.status plugin).IsDown) (hvalid : ValidEnvironment plugin.environment) :
    (∃ new, (startPlugin popen plugin w).2.registry.getPlugin plugin.uniqueName = some new ∧
      RunsLike chars sysExecutable hostEnvVars osEnviron plugin new) ↔
      plugin.pluginDefaultLogLevel = logInfo := by
  rw [getPlugin_startPlugin hdistinct hdown]
  simp only [Option.some.injEq, exists_eq_left']
  exact rebuild_runsLike_iff w.next hvalid

def debugPlugin : LocalPluginRunner :=
  { singlePlugin "foo" [] with pluginDefaultLogLevel := 10 }

theorem startPlugin_runsLike_plain :
    (∃ new, (startPlugin (fun _ => true) (singlePlugin "foo" [])
        (.single (singlePlugin "foo" []) .dead ⟨1, false, .exited⟩)).2.registry.getPlugin
          "foo[default]-1.0" = some new ∧
      RunsLike .ascii "python" [] [] (singlePlugin "foo" []) new) ↔
      (singlePlugin "foo" []).pluginDefaultLogLevel = logInfo :=
  startPlugin_runsLike_iff .ascii "python" [] [] (fun _ => true)
    (.single (singlePlugin "foo" []) .dead ⟨1, false, .exited⟩) (singlePlugin "foo" [])
    (by decide) (.inr (by decide)) nofun

/-- The restarted plugin is told to log at `INFO`, and the first one was told
`DEBUG`. -/
theorem startPlugin_debug :
    ∃ new, (startPlugin (fun _ => true) debugPlugin
        (.single debugPlugin .dead ⟨1, false, .exited⟩)).2.registry.getPlugin
          debugPlugin.uniqueName = some new ∧
      InsertionDict.get? (generatePluginEnvironment .ascii [] [] new) "BG_LOG_LEVEL" =
        some "INFO" ∧
      InsertionDict.get? (generatePluginEnvironment .ascii [] [] debugPlugin) "BG_LOG_LEVEL" =
        some "DEBUG" :=
  ⟨rebuild debugPlugin 1, by decide, by decide, by decide⟩

end Bartender
