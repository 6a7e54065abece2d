import Bartender.Library.Runs
import Bartender.Plugins.ConfigModule
import Bartender.Plugins.Runner

/-!
# Plugin loggers

`logging` keeps one logger for every name. `getPluginLogger` gives a logger its
handler and its level the first time it is asked for it, and from then on it
returns the logger as it is: the loggers of a runner are those of the first
runner with its unique name.
-/

namespace Bartender

inductive LogTarget
  | rotatingFile (filename : String) (maxBytes backupCount : ℕ)
  | stdout
  deriving DecidableEq

/-- A handler, with the format string of its formatter. -/
structure LogHandler where
  target : LogTarget
  level : ℤ
  formatString : Option String
  deriving DecidableEq

structure Logger where
  level : ℤ
  propagate : Bool
  handlers : List LogHandler
  deriving DecidableEq

/-- The logger that `logging.getLogger` makes. -/
def Logger.fresh : Logger := ⟨0, true, []⟩

/-- `getEffectiveLevel`, with the effective level of the logger's parent. -/
def Logger.effectiveLevel (logger : Logger) (parent : ℤ) : ℤ :=
  if logger.level ≠ 0 then logger.level else parent

abbrev Loggers := String → Logger

/-- The arguments of `getPluginLogger`. -/
structure LoggerCall where
  name : String
  formatString : Option String
  logDirectory : Option String
  logName : Option String
  logLevel : Option ℤ

/-- A call, with the effective level of the module's own logger at that moment and
whether the log file can be opened. -/
structure LoggerEvent where
  call : LoggerCall
  moduleLevel : ℤ
  opens : Bool

namespace LoggerEvent

variable (event : LoggerEvent)

/-- `log_level`, after its default. -/
def level : ℤ := event.call.logLevel.getD event.moduleLevel

/-- The `PluginHandler` with its `RotatingFileHandler`, or the `StreamHandler`. -/
def target : LogTarget :=
  let logName := event.call.logName.getD ""
  let fileName := if logName = "" then event.call.name else logName
  let directory := event.call.logDirectory.getD ""
  if directory = "" then .stdout
  else .rotatingFile (join directory (fileName ++ ".log")) 10485760 5

def handler : LogHandler := ⟨event.target, event.level, event.call.formatString⟩

def Makes : Prop := event.target = .stdout ∨ event.opens = true

instance : Decidable event.Makes := inferInstanceAs (Decidable (_ ∨ _))

/-- What the call makes of the logger with its name. Without a handler it raises. -/
def configure (log : Logger) : Logger :=
  if log.handlers.length > 0 then { log with propagate := false }
  else if event.Makes then ⟨event.level, false, log.handlers ++ [event.handler]⟩
  else { log with propagate := false }

/-- `getPluginLogger`: the logger, unless it raises, and the loggers after it. -/
def getPluginLogger (loggers : Loggers) : Option Logger × Loggers :=
  let log := event.configure (loggers event.call.name)
  (if log.handlers.length > 0 then some log else none,
    Function.update loggers event.call.name log)

def configured : Logger := ⟨event.level, false, [event.handler]⟩

theorem configure_of_handlers {log : Logger} (h : 0 < log.handlers.length) :
    event.configure log = { log with propagate := false } := if_pos h

theorem configure_of_makes {log : Logger} (h : log.handlers = []) (hmakes : event.Makes) :
    event.configure log = event.configured := by
  unfold configure
  rw [h, if_neg (by simp), if_pos hmakes]
  rfl

theorem configure_configured (first : LoggerEvent) :
    event.configure first.configured = first.configured :=
  @configure_of_handlers event first.configured Nat.one_pos

theorem isSome_getPluginLogger (loggers : Loggers) (hmakes : event.Makes) :
    (event.getPluginLogger loggers).1.isSome = true := by
  have hhandlers : 0 < (event.configure (loggers event.call.name)).handlers.length := by
    unfold configure
    split_ifs with hsome
    · exact hsome
    · exact List.length_pos_of_mem (List.mem_append_right _ List.mem_cons_self)
  exact congrArg Option.isSome (if_pos hhandlers)

theorem handlers_configure {log : Logger} (h : log.handlers.length ≤ 1) :
    (event.configure log).handlers.length ≤ 1 := by
  unfold configure
  split_ifs with hsome hmakes
  · exact h
  · have hnone : log.handlers = [] := List.eq_nil_of_length_eq_zero (by omega)
    rw [hnone]
    exact Nat.le_refl 1
  · exact h

end LoggerEvent

/-- The construction of a runner, with what its two calls of `getPluginLogger` find. -/
structure RunnerLoggers where
  plugin : LocalPluginRunner
  moduleLevel : ℤ
  opens : Bool
  opensUnformatted : Bool

namespace RunnerLoggers

variable (runner : RunnerLoggers)

/-- The call for the logger that is used for bartender purposes. -/
def formatted : LoggerEvent where
  call := {
    name := runner.plugin.uniqueName
    formatString := some "%(asctime)s - %(name)s - %(levelname)s - %(message)s"
    logDirectory := runner.plugin.pluginLogDirectory
    logName := some runner.plugin.uniqueName
    logLevel := none }
  moduleLevel := runner.moduleLevel
  opens := runner.opens

def unformatted : LoggerEvent where
  call := {
    name := runner.plugin.uniqueName ++ "-uf"
    formatString := none
    logDirectory := runner.plugin.pluginLogDirectory
    logName := some runner.plugin.uniqueName
    logLevel := some runner.plugin.pluginDefaultLogLevel }
  moduleLevel := runner.moduleLevel
  opens := runner.opensUnformatted

/-- What `__init__` does to the loggers: it ends where a call raises. -/
def init (loggers : Loggers) : Loggers :=
  let (log, loggers) := runner.formatted.getPluginLogger loggers
  if log.isSome then (runner.unformatted.getPluginLogger loggers).2 else loggers

def names : List String := [runner.plugin.uniqueName, runner.plugin.uniqueName ++ "-uf"]

theorem init_cases (loggers : Loggers) :
    runner.init loggers = (runner.formatted.getPluginLogger loggers).2 ∨
      runner.init loggers =
        (runner.unformatted.getPluginLogger (runner.formatted.getPluginLogger loggers).2).2 := by
  unfold init
  dsimp only
  split_ifs
  · exact .inr rfl
  · exact .inl rfl

theorem init_keeps {P : Loggers → Prop} {loggers : Loggers} (h : P loggers)
    (hcall : ∀ (event : LoggerEvent) (loggers : Loggers),
      P loggers → P (event.getPluginLogger loggers).2) : P (runner.init loggers) := by
  rcases runner.init_cases loggers with hinit | hinit
  · rw [hinit]
    exact hcall _ _ h
  · rw [hinit]
    exact hcall _ _ (hcall _ _ h)

end RunnerLoggers

namespace Loggers

/-- Every logger as `logging.getLogger` makes it. -/
def fresh : Loggers := fun _ => Logger.fresh

variable {loggers : Loggers} {name : String}

theorem getPluginLogger_of_ne (event : LoggerEvent) (h : name ≠ event.call.name) :
    (event.getPluginLogger loggers).2 name = loggers name := Function.update_of_ne h ..

theorem getPluginLogger_self (event : LoggerEvent) :
    (event.getPluginLogger loggers).2 event.call.name =
      event.configure (loggers event.call.name) := Function.update_self ..

theorem getPluginLogger_configured {first : LoggerEvent} (h : loggers name = first.configured)
    (event : LoggerEvent) : (event.getPluginLogger loggers).2 name = first.configured := by
  by_cases hname : name = event.call.name
  · rw [hname, getPluginLogger_self, ← hname, h, event.configure_configured]
  · rw [getPluginLogger_of_ne event hname, h]

theorem init_configured {first : LoggerEvent} (h : loggers name = first.configured)
    (runner : RunnerLoggers) : runner.init loggers name = first.configured :=
  runner.init_keeps (P := fun loggers => loggers name = first.configured) h
    fun event _ hconfigured => getPluginLogger_configured hconfigured event

/-- What is logged there is written at most once. -/
def AtMostOneHandler (name : String) (loggers : Loggers) : Prop :=
  (loggers name).handlers.length ≤ 1

theorem getPluginLogger_atMostOneHandler (event : LoggerEvent)
    (h : AtMostOneHandler name loggers) :
    AtMostOneHandler name (event.getPluginLogger loggers).2 := by
  unfold AtMostOneHandler at h ⊢
  by_cases hname : name = event.call.name
  · rw [hname, getPluginLogger_self, ← hname]
    exact event.handlers_configure h
  · rwa [getPluginLogger_of_ne event hname]

theorem uniqueName_ne_uf (name : String) : name ≠ name ++ "-uf" := by
  intro h
  have hlength := congrArg String.length h
  rw [String.length_append, show "-uf".length = 3 from rfl] at hlength
  omega

/-- The first runner with its name, whose handlers can be made, configures both loggers. -/
theorem init_first (runner : RunnerLoggers) (hopens : runner.formatted.Makes)
    (hopensUnformatted : runner.unformatted.Makes)
    (h : ∀ name ∈ runner.names, (loggers name).handlers = []) :
    runner.init loggers runner.plugin.uniqueName = runner.formatted.configured ∧
      runner.init loggers (runner.plugin.uniqueName ++ "-uf") = runner.unformatted.configured := by
  have hne := uniqueName_ne_uf runner.plugin.uniqueName
  have hformatted := runner.formatted.configure_of_makes
    (h runner.plugin.uniqueName (by simp [RunnerLoggers.names])) hopens
  have hunformatted := runner.unformatted.configure_of_makes
    (h (runner.plugin.uniqueName ++ "-uf") (by simp [RunnerLoggers.names])) hopensUnformatted
  -- The first call returns, so that the second one is made.
  have hinit : runner.init loggers = (runner.unformatted.getPluginLogger
      (runner.formatted.getPluginLogger loggers).2).2 := by
    unfold RunnerLoggers.init LoggerEvent.getPluginLogger
    change (if (if (runner.formatted.configure (loggers runner.plugin.uniqueName)).handlers.length
      > 0 then _ else none).isSome then _ else _) = _
    rw [hformatted]
    rfl
  rw [hinit]
  constructor
  · rw [getPluginLogger_of_ne runner.unformatted hne]
    exact (getPluginLogger_self runner.formatted).trans hformatted
  · refine (getPluginLogger_self runner.unformatted).trans ?_
    exact (congrArg _ (getPluginLogger_of_ne runner.formatted (Ne.symm hne))).trans hunformatted

/-- Once a runner has made the loggers of its name, they keep its level, its
format and its file, whatever runners are built later: a plugin that is loaded
again with another level still logs at the old one. -/
theorem init_kept (before after : List RunnerLoggers) (first : RunnerLoggers)
    (hopens : first.formatted.Makes) (hopensUnformatted : first.unformatted.Makes)
    (hnew : ∀ name ∈ first.names,
      (Runs.final RunnerLoggers.init before fresh name).handlers = []) :
    let loggers := Runs.final RunnerLoggers.init (before ++ first :: after) fresh
    loggers first.plugin.uniqueName = first.formatted.configured ∧
      loggers (first.plugin.uniqueName ++ "-uf") = first.unformatted.configured ∧
      ∀ name, (loggers name).handlers.length ≤ 1 := by
  intro loggers
  have hfirst := init_first first hopens hopensUnformatted hnew
  have hkept : ∀ {event : LoggerEvent} {name : String},
      first.init (Runs.final RunnerLoggers.init before fresh) name = event.configured →
      loggers name = event.configured := by
    intro event name hconfigured
    change Runs.final RunnerLoggers.init (before ++ first :: after) fresh name = _
    rw [Runs.final_append]
    exact (Runs.throughout_of_step (I := fun loggers : Loggers => loggers name = event.configured)
      (fun runner _ h => init_configured h runner) hconfigured after).final
  refine ⟨hkept hfirst.1, hkept hfirst.2, fun name => ?_⟩
  exact (Runs.throughout_of_step (I := AtMostOneHandler name)
    (fun runner _ h => runner.init_keeps h fun event _ => getPluginLogger_atMostOneHandler event)
    (show AtMostOneHandler name fresh from Nat.zero_le 1) _).final

/-- A plugin whose log file could not be opened at first is loaded at the level
`INFO`, and again at `DEBUG` with another log directory. -/
theorem init_kept_reload :
    let plugin : LocalPluginRunner :=
      { singlePlugin "foo" [] with pluginLogDirectory := some "/logs" }
    let failed : RunnerLoggers := ⟨plugin, 30, false, false⟩
    let first : RunnerLoggers := ⟨plugin, 30, true, true⟩
    let again : RunnerLoggers := ⟨{ plugin with
      pluginLogDirectory := some "/other", pluginDefaultLogLevel := 10 }, 30, true, true⟩
    let loggers := Runs.final RunnerLoggers.init ([failed] ++ first :: [again]) fresh
    loggers plugin.uniqueName = first.formatted.configured ∧
      loggers (plugin.uniqueName ++ "-uf") = first.unformatted.configured ∧
      ∀ name, (loggers name).handlers.length ≤ 1 :=
  init_kept [_] _ _ (.inr rfl) (.inr rfl) (List.forall_mem_cons.mpr ⟨rfl,
    List.forall_mem_cons.mpr ⟨rfl, List.forall_mem_nil _⟩⟩)

end Loggers

end Bartender
