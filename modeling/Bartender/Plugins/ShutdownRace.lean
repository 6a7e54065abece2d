import Bartender.Library.Interleaving
import Bartender.Library.Runs
import Bartender.Plugins.ManagerOperations
import Bartender.Plugins.MonitorSteps
import Bartender.Plugins.RescanSteps

/-!
# Shutting down

`BartenderApp._shutdown` stops the plugins that a copy of the registry has, one
after the other, and then the helper threads. Until these stop, and where they
take longer than is waited for, requests and the monitor start plugins. The
subprocess of a plugin is spawned by its thread, some time after `start()`, and
the thread can end before it.
-/

namespace Bartender

open Interleaving

inductive Helper
  | thriftServer
  | localPluginMonitor
  | pluginStatusMonitor
  | mongoPruner
  deriving DecidableEq

/-- In the order in which they are started. The pruner is there if it would do anything. -/
def helperThreads (pruning : Bool) : List Helper :=
  [.thriftServer, .localPluginMonitor, .pluginStatusMonitor] ++
    if pruning then [.mongoPruner] else []

inductive ThriftRequest
  | startInstance (id : ℕ)
  | rescanSystemDirectory (directories : List (String × PluginSource))

/-- The monitor, or a worker of the thrift server with what it serves. -/
inductive Worker
  | idle
  | starting (request : StartRequest)
  | rescanning (rescan : Rescan)
  | monitoring (pass : MonitorPass)

/-- What a step of a call of `stop_plugin` finds, with `is_alive()` as it is. -/
def Machine.found (m : Machine) (plugin : LocalPluginRunner) (around : Surroundings) :
    Surroundings :=
  { around with alive := decide (m.ThreadAlive plugin) }

/-- The next step of the call. `kill()` also ends the subprocess of a thread that has
died since it was tested. -/
def StopCall.stepOn (around : Surroundings) (call : StopCall) (m : Machine) : StopCall × Machine :=
  let m :=
    match call.point with
    | .kill _ =>
      if m.point call.plugin.address = ThreadPoint.died then ThreadEvent.exit.apply call.plugin m
      else m
    | _ => m
  let next := call.step (m.found call.plugin around) m.world
  (next.1, { m with world := next.2 })

/-- The call does not find a thread that has ended before its subprocess, and does not
come to `kill()` while `Popen` has yet to return. -/
def StopCall.Sees (call : StopCall) (m : Machine) : Prop :=
  (∀ returning, call.point = .testAlive returning →
    ¬ m.ThreadAlive call.plugin → ¬ m.Live call.plugin) ∧
  ∀ returning, call.point = .kill returning → m.point call.plugin.address ≠ .constructing true

instance (call : StopCall) (m : Machine) : Decidable (call.Sees m) :=
  inferInstanceAs (Decidable ((∀ returning, call.point = .testAlive returning →
    ¬ m.ThreadAlive call.plugin → ¬ m.Live call.plugin) ∧
  ∀ returning, call.point = .kill returning → m.point call.plugin.address ≠ .constructing true))

/-- The next step of the pass. Starting a plugin's thread does not spawn its
subprocess yet. -/
def MonitorPass.stepOn (around : Surroundings) (stopped : Bool) (pass : MonitorPass)
    (m : Machine) : MonitorPass × Machine :=
  match pass.point with
  | .stop call =>
    let next := call.stepOn around m
    ({ pass with point := afterStop next.1 }, next.2)
  | _ =>
    let next := pass.step false around stopped m.world
    (next.1, { m with world := next.2 })

namespace Worker

/-- An idle worker takes a request, until the server is stopped. -/
def accept (request : ThriftRequest) (stopped : Bool) (worker : Worker) (m : Machine) :
    Worker × Machine :=
  match worker with
  | .idle =>
    if stopped then (.idle, m)
    else
      match request with
      | .startInstance id => (.starting (.lookUp id), m)
      | .rescanSystemDirectory directories => (.rescanning (.begin directories), m)
  | _ => (worker, m)

/-- The next step of what the worker does. -/
def step (site : SiteConfig) (around : Surroundings) (stopped : Bool) (worker : Worker)
    (m : Machine) : Worker × Machine :=
  match worker with
  | .idle => (.idle, m)
  | .starting .finished => (.idle, m)
  | .starting request =>
    let next := request.step false m.world
    (.starting next.1, { m with world := next.2 })
  | .rescanning rescan =>
    match rescan.point with
    | .finished => (.idle, m)
    | _ =>
      let next := rescan.step site false m.world
      (.rescanning next.1, { m with world := next.2 })
  | .monitoring pass =>
    if pass.point = .finished then (.monitoring (if stopped then pass else .begin), m)
    else
      let next := pass.stepOn around stopped m
      (.monitoring next.1, next.2)

end Worker

inductive ShutdownPoint
  /-- `self.registry.get_all_plugins()` in `stop_all_plugins` -/
  | copy
  | nextPlugin (rest : List LocalPluginRunner)
  | stop (rest : List LocalPluginRunner) (call : StopCall)
  /-- The helper threads, with those that are yet to be stopped. -/
  | stopHelpers (helpers : List Helper)
  | returned
  deriving DecidableEq

/-- The call of `stop_plugin` that the shutdown is in. -/
def ShutdownPoint.call? : ShutdownPoint → Option StopCall
  | .stop _ call => some call
  | _ => none

/-- The plugin at an address has yet to be stopped by the shutdown, or its call
of `stop_plugin` still sees to the end of the subprocess. -/
def ShutdownPoint.Covers (point : ShutdownPoint) (address : ℕ) : Prop :=
  match point with
  | .copy => True
  | .nextPlugin rest => ∃ p ∈ rest, p.address = address
  | .stop rest call =>
    (∃ p ∈ rest, p.address = address) ∨
      call.plugin.address = address ∧ call.point ≠ .markDead ∧ call.point ≠ .finished
  | .stopHelpers _ => False
  | .returned => False

inductive ShutdownEvent (ι : Type)
  | request (i : ι) (request : ThriftRequest)
  | step (i : ι) (around : Surroundings)
  /-- The next step of `_shutdown`, which may find a helper thread alive or not. -/
  | shutdown (around : Surroundings) (isAlive : Bool)
  /-- What the thread and the subprocess of a plugin do. -/
  | thread (event : ThreadEvent) (plugin : LocalPluginRunner)
  /-- The plugins and the status monitor write documents. -/
  | write (instances : ℕ → Option InstanceDocument)

structure ShutdownRace (ι : Type) where
  workers : Pool ι Worker Machine
  point : ShutdownPoint
  /-- The helper threads whose `stop()` was called. -/
  stopped : Helper → Bool

namespace ShutdownRace

variable {ι : Type} [DecidableEq ι]

def machine (race : ShutdownRace ι) : Machine := race.workers.shared

def world (race : ShutdownRace ι) : World := race.machine.world

/-- The next step of `_shutdown`. A helper thread that takes too long is not
waited for any longer. -/
def shutdown (pruning : Bool) (around : Surroundings) (isAlive : Bool) (race : ShutdownRace ι) :
    ShutdownRace ι :=
  match race.point with
  | .copy => { race with point := .nextPlugin race.world.registry.getAllPlugins }
  | .nextPlugin [] => { race with point := .stopHelpers (helperThreads pruning).reverse }
  | .nextPlugin (plugin :: rest) => { race with point := .stop rest (.begin plugin) }
  | .stop rest call =>
    let next := call.stepOn around race.machine
    { race with
      workers := race.workers.outside fun _ => next.2
      point := if next.1.point = .finished then .nextPlugin rest else .stop rest next.1 }
  | .stopHelpers [] => { race with point := .returned }
  | .stopHelpers (helper :: helpers) =>
    { race with
      point := .stopHelpers helpers
      stopped := if isAlive then Function.update race.stopped helper true else race.stopped }
  | .returned => race

def apply (site : SiteConfig) (pruning : Bool) (event : ShutdownEvent ι) (race : ShutdownRace ι) :
    ShutdownRace ι :=
  match event with
  | .request i request =>
    { race with
      workers := race.workers.step (Worker.accept request (race.stopped .thriftServer)) i }
  | .step i around =>
    { race with
      workers := race.workers.step (Worker.step site around (race.stopped .localPluginMonitor)) i }
  | .shutdown around isAlive => race.shutdown pruning around isAlive
  | .thread event plugin => { race with workers := race.workers.outside (event.apply plugin) }
  | .write instances =>
    { race with
      workers := race.workers.outside fun m =>
        { m with world := { m.world with instances := instances } } }

/-- Once the shutdown has returned, no subprocess is left. -/
def NoneLeft (race : ShutdownRace ι) : Prop :=
  race.point = .returned → ∀ plugin, ¬ race.machine.Live plugin

/-- When the shutdown takes its copy, every subprocess belongs to a plugin in the
registry; afterwards only those plugins' threads call `Popen` that the shutdown has
yet to deal with, and its calls of `stop_plugin` miss none. -/
def Timely (event : ShutdownEvent ι) (race : ShutdownRace ι) : Prop :=
  match event with
  | .shutdown _ _ =>
    (race.point = .copy → ∀ plugin, race.machine.Live plugin →
      ∃ q ∈ race.world.registry, q.address = plugin.address) ∧
    ∀ call ∈ race.point.call?, call.Sees race.machine
  | .thread .fork plugin => 0 < race.world.starts plugin.address →
    race.machine.point plugin.address = .waiting → race.point.Covers plugin.address
  | _ => True

end ShutdownRace

/-- Between the two states no subprocess is spawned: what `process` shows is the same
or has exited, or belongs to a runner that was built. -/
structure SpawnsNone (w w' : World) : Prop where
  next : w.next ≤ w'.next
  process : ∀ address, (w'.runtime address).process = (w.runtime address).process ∨
    (w'.runtime address).process = .exited ∨
    w.next ≤ address ∧ (w'.runtime address).process = .absent

section SpawnsNone

variable {w : World}

theorem spawnsNone_of_runtime {w' : World} (hnext : w.next ≤ w'.next)
    (h : w'.runtime = w.runtime) : SpawnsNone w w' :=
  ⟨hnext, fun _ => .inl (by rw [h])⟩

theorem spawnsNone_refl (w : World) : SpawnsNone w w := spawnsNone_of_runtime le_rfl rfl

theorem Quiet.spawnsNone {w' : World} (h : Quiet w w') : SpawnsNone w w' :=
  ⟨h.next, fun address => (h.runtime address).2.imp_right .inl⟩

theorem spawnsNone_setStatus (plugin : LocalPluginRunner) (status : Status) :
    SpawnsNone w (w.setStatus plugin status) := (quiet_setStatus plugin status w).spawnsNone

theorem spawnsNone_addRunner (build : ℕ → LocalPluginRunner) :
    SpawnsNone w (w.addRunner build).1 where
  next := Nat.le_succ w.next
  process address := by
    by_cases hnew : address = w.next
    · exact .inr (.inr ⟨hnew.ge, by simp [World.addRunner, hnew, Runtime.fresh]⟩)
    · exact .inl (by rw [addRunner_runtime build hnew])

theorem spawnsNone_start (plugin : LocalPluginRunner) : SpawnsNone w (w.start plugin false) where
  next := le_rfl
  process address := by
    refine .inl ?_
    by_cases hsame : address = plugin.address <;> simp [World.start, World.setRuntime, hsame]

theorem StartCall.spawnsNone_step (call : StartCall) : SpawnsNone w (call.step false w).2 := by
  obtain ⟨plugin, point⟩ := call
  cases point with
  | testRunning =>
    simp only [step]
    split <;> exact spawnsNone_refl w
  | testInitializing =>
    simp only [step]
    split <;> exact spawnsNone_refl w
  | testDown =>
    simp only [step]
    split
    · exact spawnsNone_addRunner _
    · exact spawnsNone_refl w
  | markStarting newPlugin => exact spawnsNone_setStatus newPlugin .starting
  | start newPlugin => exact spawnsNone_start newPlugin
  | _ => exact spawnsNone_of_runtime le_rfl rfl

theorem StopCall.spawnsNone_step (around : Surroundings) (call : StopCall) :
    SpawnsNone w (call.step around w).2 := by
  obtain ⟨plugin, point, cleanShutdown, published, waited, raised, killed⟩ := call
  cases point with
  | markStopping => exact spawnsNone_setStatus plugin .stopping
  | markDead => exact spawnsNone_setStatus plugin .dead
  | kill => exact (quiet_endProcess plugin w).spawnsNone
  | callStop =>
    simp only [step]
    split
    · exact spawnsNone_refl w
    · exact (quiet_stop plugin w).spawnsNone
  | join =>
    simp only [step]
    split
    · exact spawnsNone_refl w
    · split <;> exact spawnsNone_refl w
  | beginJoin => exact spawnsNone_refl w
  | finished => exact spawnsNone_refl w
  | _ =>
    simp only [step]
    split <;> exact spawnsNone_refl w

theorem MonitorPass.spawnsNone_step (around : Surroundings) (stopped : Bool) (pass : MonitorPass) :
    SpawnsNone w (pass.step false around stopped w).2 := by
  obtain ⟨rest, point⟩ := pass
  cases point with
  | copy => exact spawnsNone_refl w
  | next =>
    simp only [step]
    split
    · exact spawnsNone_refl w
    · split <;> exact spawnsNone_refl w
  | markDead plugin => exact spawnsNone_setStatus plugin .dead
  | markFailed plugin => exact spawnsNone_setStatus plugin .dead
  | stop call => exact StopCall.spawnsNone_step around call
  | start call => exact StartCall.spawnsNone_step call
  | finished => exact spawnsNone_refl w
  | _ =>
    simp only [step]
    split <;> exact spawnsNone_refl w

theorem StartRequest.spawnsNone_step (request : StartRequest) :
    SpawnsNone w (request.step false w).2 := by
  cases request with
  | start call => exact StartCall.spawnsNone_step call
  | finished => exact spawnsNone_refl w
  | _ =>
    simp only [step]
    split <;> exact spawnsNone_refl w

theorem Rescan.spawnsNone_step (site : SiteConfig) (rescan : Rescan) :
    SpawnsNone w (rescan.step site false w).2 := by
  obtain ⟨directories, newPlugins, names, point⟩ := rescan
  cases point with
  | nextDirectory =>
    simp only [step]
    split <;> exact spawnsNone_refl w
  | findUnique path config fault =>
    simp only [step]
    split <;> exact spawnsNone_refl w
  | deleteInstances path config fault existing =>
    simp only [step]
    split
    · exact spawnsNone_refl w
    · cases existing <;> exact spawnsNone_of_runtime le_rfl rfl
  | deepSave path config fault existing =>
    simp only [step]
    split
    · exact spawnsNone_refl w
    · split <;> exact (quiet_deepSave _ w).spawnsNone
  | register path config system instances built returns =>
    cases instances with
    | nil => exact spawnsNone_refl w
    | cons instanceName instances =>
      obtain ⟨hnext, hprocess⟩ := spawnsNone_addRunner (w := w)
        (configuredRunner site path config system instanceName)
      exact ⟨hnext, hprocess⟩
  | nextPlugin =>
    simp only [step]
    split
    · exact spawnsNone_refl w
    · split <;> exact spawnsNone_refl w
  | start call => exact StartCall.spawnsNone_step call
  | markFailed plugin =>
    have hquiet := (quiet_markAsFailed plugin w).spawnsNone
    simp only [step]
    generalize markAsFailed plugin w = outcome at hquiet ⊢
    obtain ⟨result, w'⟩ := outcome
    cases result <;> exact hquiet
  | _ => exact spawnsNone_refl w

end SpawnsNone

/-- Only what was built can have a subprocess that `process` does not show. -/
def Machine.Unbuilt (m : Machine) : Prop :=
  ∀ address, m.world.next ≤ address → ¬ (m.point address).Hides

structure NoneNew (m m' : Machine) : Prop where
  unbuilt : m'.Unbuilt
  live : ∀ plugin, m'.Live plugin → m.Live plugin

section NoneNew

variable {m m' : Machine}

theorem NoneNew.refl (h : m.Unbuilt) : NoneNew m m := ⟨h, fun _ hlive => hlive⟩

theorem NoneNew.trans {m'' : Machine} (h : NoneNew m m') (h' : NoneNew m' m'') : NoneNew m m'' :=
  ⟨h'.unbuilt, fun plugin hlive => h.live plugin (h'.live plugin hlive)⟩

theorem SpawnsNone.noneNew {w : World} (hspawns : SpawnsNone m.world w) (h : m.Unbuilt) :
    NoneNew m { m with world := w } where
  unbuilt address hnext := h address (hspawns.next.trans hnext)
  live plugin hlive := by
    unfold Machine.Live Runtime.Live at hlive ⊢
    rcases hspawns.process plugin.address with hsame | hexited | ⟨hnew, habsent⟩
    · rwa [hsame] at hlive
    · simp [hexited] at hlive
    · simp [habsent, h plugin.address hnew] at hlive

theorem Machine.Unbuilt.thread (h : m.Unbuilt) (event : ThreadEvent)
    (plugin : LocalPluginRunner) : (event.apply plugin m).Unbuilt := by
  intro address hnext
  rw [(event.apply_world plugin m).2.2] at hnext
  by_cases hsame : address = plugin.address
  · rw [event.apply_of_unbuilt (hsame ▸ hnext)]
    exact h address hnext
  · rw [(event.apply_of_ne plugin m hsame).2]
    exact h address hnext

theorem noneNew_thread (h : m.Unbuilt) (event : ThreadEvent) (hevent : event ≠ .fork)
    (plugin : LocalPluginRunner) : NoneNew m (event.apply plugin m) where
  unbuilt := h.thread event plugin
  live p hlive := by
    unfold Machine.Live at hlive ⊢
    by_cases hsame : p.address = plugin.address
    · rw [hsame] at hlive ⊢
      rcases event.apply_self plugin m with heq | ⟨hruntime, hpoint⟩
      · rwa [heq] at hlive
      · rw [hruntime, hpoint] at hlive
        exact ThreadEvent.live_of_act hevent hlive
    · obtain ⟨hruntime, hpoint⟩ := event.apply_of_ne plugin m hsame
      rwa [hruntime, hpoint] at hlive

theorem StopCall.noneNew_stepOn (h : m.Unbuilt) (around : Surroundings) (call : StopCall) :
    NoneNew m (call.stepOn around m).2 := by
  have hstep : ∀ m : Machine, m.Unbuilt →
      NoneNew m { m with world := (call.step (m.found call.plugin around) m.world).2 } :=
    fun m hm => (spawnsNone_step _ call).noneNew hm
  unfold stepOn
  dsimp only
  split
  · split
    · have hended := noneNew_thread h .exit nofun call.plugin
      exact hended.trans (hstep _ hended.unbuilt)
    · exact hstep m h
  · exact hstep m h

theorem MonitorPass.noneNew_stepOn (h : m.Unbuilt) (around : Surroundings) (stopped : Bool)
    (pass : MonitorPass) : NoneNew m (pass.stepOn around stopped m).2 := by
  unfold stepOn
  split
  · exact StopCall.noneNew_stepOn h around _
  · exact (spawnsNone_step around stopped pass).noneNew h

theorem Worker.noneNew_step (h : m.Unbuilt) (site : SiteConfig) (around : Surroundings)
    (stopped : Bool) (worker : Worker) : NoneNew m (worker.step site around stopped m).2 := by
  cases worker with
  | idle => exact .refl h
  | starting request =>
    cases request with
    | finished => exact .refl h
    | _ => exact (StartRequest.spawnsNone_step _).noneNew h
  | rescanning rescan =>
    simp only [step]
    split
    · exact .refl h
    · exact (Rescan.spawnsNone_step site rescan).noneNew h
  | monitoring pass =>
    simp only [step]
    split
    · exact .refl h
    · exact MonitorPass.noneNew_stepOn h around stopped pass

theorem Worker.noneNew_accept (h : m.Unbuilt) (request : ThriftRequest) (stopped : Bool)
    (worker : Worker) : NoneNew m (worker.accept request stopped m).2 := by
  unfold accept
  split
  · split
    · exact .refl h
    · split <;> exact .refl h
  · exact .refl h

end NoneNew

theorem StopCall.stepOn_plugin (around : Surroundings) (call : StopCall) (m : Machine) :
    (call.stepOn around m).1.plugin = call.plugin := step_plugin _ call _

/-- `kill()` misses a subprocess only while `Popen` has yet to return. -/
theorem StopCall.not_live_of_kill {m : Machine} {around : Surroundings} {call : StopCall}
    {returning : Bool} (hunbuilt : m.Unbuilt) (hpoint : call.point = .kill returning)
    (hkill : m.point call.plugin.address ≠ .constructing true) :
    ¬ (call.stepOn around m).2.Live call.plugin := by
  have hended : ∀ m : Machine, ¬ (m.point call.plugin.address).Hides →
      ¬ Machine.Live ⟨m.world.endProcess call.plugin, m.point⟩ call.plugin := by
    intro m hhides hlive
    rcases hlive with halive | ⟨-, hhidden⟩
    · exact not_alive_endProcess call.plugin m.world halive
    · exact hhides hhidden
  have hstep : ∀ m, (call.step (Machine.found m call.plugin around) m.world).2 =
      m.world.endProcess call.plugin := fun m => by rw [step, hpoint]
  unfold stepOn
  rw [hpoint]
  dsimp only
  split
  · rename_i hdied
    rw [hstep]
    refine hended (ThreadEvent.exit.apply call.plugin m) ?_
    have hbuilt : call.plugin.address < m.world.next := by
      by_contra hnot
      exact hunbuilt call.plugin.address (Nat.le_of_not_lt hnot) (.inr hdied)
    rw [(ThreadEvent.exit.apply_built hbuilt).2, hdied]
    show ¬ ThreadPoint.ended.Hides
    decide
  · rename_i hnot
    rw [hstep]
    exact hended m fun hhides => hhides.elim hkill hnot

/-- A call of `stop_plugin` that meets the condition does not get past its `finally`
block while the subprocess is running. -/
theorem StopCall.not_live_of_past {m : Machine} {around : Surroundings} {call : StopCall}
    (hunbuilt : m.Unbuilt)
    (hsees : call.Sees m)
    (hbefore : call.point ≠ .markDead ∧ call.point ≠ .finished)
    (hafter : (call.stepOn around m).1.point = .markDead ∨
      (call.stepOn around m).1.point = .finished) :
    ¬ (call.stepOn around m).2.Live call.plugin := by
  obtain ⟨plugin, point, cleanShutdown, published, waited, raised, killed⟩ := call
  cases point with
  | markDead => exact absurd rfl hbefore.1
  | finished => exact absurd rfl hbefore.2
  | kill returning =>
    exact not_live_of_kill hunbuilt rfl (hsees.2 returning rfl)
  | testAlive returning =>
    simp only [stepOn, step, Machine.found, decide_eq_true_eq] at hafter ⊢
    split at hafter
    · rcases hafter with h | h <;> cases h
    · rename_i hended
      rw [if_neg hended]
      exact hsees.1 returning rfl hended
  | join since =>
    simp only [stepOn, step, StopCall.except] at hafter
    split at hafter
    · rcases hafter with h | h <;> cases h
    · split at hafter <;> rcases hafter with h | h <;> cases h
  | markStopping => rcases hafter with h | h <;> cases h
  | beginJoin => rcases hafter with h | h <;> cases h
  | _ =>
    simp only [stepOn, step, StopCall.except] at hafter
    split at hafter <;> rcases hafter with h | h <;> cases h

namespace ShutdownRace

variable {ι : Type}

/-- Whatever runs is still seen to. -/
structure Covered (race : ShutdownRace ι) : Prop where
  unbuilt : race.machine.Unbuilt
  live : ∀ plugin, race.machine.Live plugin → race.point.Covers plugin.address

variable {race race' : ShutdownRace ι}

theorem Covered.of_noneNew (h : Covered race) (hpoint : race'.point = race.point)
    (hnew : NoneNew race.machine race'.machine) : Covered race' where
  unbuilt := hnew.unbuilt
  live plugin hlive := by
    rw [hpoint]
    exact h.live plugin (hnew.live plugin hlive)

theorem Covered.thread (h : Covered race) (event : ThreadEvent) (plugin : LocalPluginRunner)
    (htimely : Timely (.thread event plugin) race) :
    Covered { race with workers := race.workers.outside (event.apply plugin) } := by
  by_cases hevent : event = .fork
  · subst hevent
    refine ⟨h.unbuilt.thread .fork plugin, fun other hlive => ?_⟩
    have hafter : (ThreadEvent.fork.apply plugin race.machine).Live other := hlive
    show race.point.Covers other.address
    unfold Machine.Live at hafter
    by_cases hsame : other.address = plugin.address
    · rw [hsame] at hafter ⊢
      rcases ThreadEvent.fork.apply_self plugin race.machine with heq | ⟨hruntime, hpoint⟩
      · rw [heq] at hafter
        exact h.live plugin hafter
      · rw [hruntime, hpoint] at hafter
        by_cases hpopen : race.machine.point plugin.address = .waiting ∧
            0 < race.world.starts plugin.address
        · exact htimely hpopen.2 hpopen.1
        · exact h.live plugin (ThreadEvent.live_of_act_fork hpopen hafter)
    · obtain ⟨hruntime, hpoint⟩ := ThreadEvent.fork.apply_of_ne plugin race.machine hsame
      rw [hruntime, hpoint] at hafter
      exact h.live other hafter
  · exact h.of_noneNew rfl (noneNew_thread h.unbuilt event hevent plugin)

/-- The step of the shutdown's call of `stop_plugin`. -/
theorem Covered.stop {workers : Pool ι Worker Machine} {rest : List LocalPluginRunner}
    {call : StopCall} {stopped : Helper → Bool}
    (h : Covered ⟨workers, .stop rest call, stopped⟩) (around : Surroundings)
    (hsees : call.Sees workers.shared) :
    let next := call.stepOn around workers.shared
    Covered ⟨workers.outside fun _ => next.2,
      if next.1.point = .finished then .nextPlugin rest else .stop rest next.1, stopped⟩ := by
  intro next
  have hnew : NoneNew workers.shared next.2 := StopCall.noneNew_stepOn h.unbuilt around call
  refine ⟨hnew.unbuilt, fun plugin hlive => ?_⟩
  have hplugin : next.1.plugin = call.plugin := StopCall.stepOn_plugin around call _
  have hnext : next.2.Live plugin := hlive
  dsimp only
  rcases h.live plugin (hnew.live plugin hnext) with hrest | ⟨hsame, hbefore⟩
  · split
    · exact hrest
    · exact .inl hrest
  · have hpast : ¬ (next.1.point = .markDead ∨ next.1.point = .finished) := by
      intro hafter
      refine StopCall.not_live_of_past h.unbuilt hsees hbefore hafter ?_
      unfold Machine.Live at hnext ⊢
      rwa [hsame]
    rw [not_or] at hpast
    rw [if_neg hpast.2]
    refine .inr ⟨?_, hpast⟩
    rw [hplugin]
    exact hsame

theorem Covered.shutdown (h : Covered race) (pruning : Bool) (around : Surroundings)
    (isAlive : Bool) (htimely : Timely (.shutdown around isAlive) race) :
    Covered (race.shutdown pruning around isAlive) := by
  obtain ⟨workers, point, stopped⟩ := race
  cases point with
  | copy => exact ⟨h.unbuilt, htimely.1 rfl⟩
  | nextPlugin rest =>
    cases rest with
    | nil =>
      refine ⟨h.unbuilt, fun plugin hlive => ?_⟩
      obtain ⟨q, hq, -⟩ := h.live plugin hlive
      exact absurd hq List.not_mem_nil
    | cons next rest =>
      refine ⟨h.unbuilt, fun plugin hlive => ?_⟩
      obtain ⟨q, hq, hsame⟩ := h.live plugin hlive
      rcases List.mem_cons.mp hq with rfl | hrest
      · exact .inr ⟨hsame, by simp [StopCall.begin], by simp [StopCall.begin]⟩
      · exact .inl ⟨q, hrest, hsame⟩
  | stop rest call => exact h.stop around (htimely.2 call rfl)
  | stopHelpers helpers => cases helpers <;> exact ⟨h.unbuilt, h.live⟩
  | returned => exact h

variable [DecidableEq ι]

theorem Covered.apply (h : Covered race) (site : SiteConfig) (pruning : Bool)
    (event : ShutdownEvent ι) (htimely : Timely event race) :
    Covered (race.apply site pruning event) := by
  cases event with
  | request i request =>
    exact h.of_noneNew rfl
      (Worker.noneNew_accept h.unbuilt request _ (race.workers.threads i))
  | step i around =>
    exact h.of_noneNew rfl
      (Worker.noneNew_step h.unbuilt site around _ (race.workers.threads i))
  | shutdown around isAlive => exact h.shutdown pruning around isAlive htimely
  | thread event plugin => exact h.thread event plugin htimely
  | write instances =>
    have hspawns : SpawnsNone race.world { race.world with instances := instances } :=
      spawnsNone_of_runtime le_rfl rfl
    exact h.of_noneNew rfl (hspawns.noneNew h.unbuilt)

/-- Before `_shutdown` is called. -/
def initial (workers : ι → Worker) (m : Machine) : ShutdownRace ι :=
  ⟨⟨workers, m⟩, .copy, fun _ => false⟩

/-- In a run in which subprocesses are spawned in time, none is left once the
shutdown has returned. -/
theorem shutdownRace_noneLeft (site : SiteConfig) (pruning : Bool) (workers : ι → Worker)
    (m : Machine) (hunbuilt : m.Unbuilt) (events : List (ShutdownEvent ι))
    (hmeets : Runs.Meets (apply site pruning) Timely events (initial workers m)) :
    Runs.Throughout (apply site pruning) NoneLeft events (initial workers m) := by
  have hcovered : Covered (initial workers m) := ⟨hunbuilt, fun plugin _ => trivial⟩
  have hall : Runs.Throughout (apply site pruning) Covered events (initial workers m) :=
    Runs.throughout_of_meets
      (fun event race h htimely => h.apply site pruning event htimely) hcovered hmeets
  refine hall.imp fun race h hreturned plugin hlive => ?_
  have hseen := h.live plugin hlive
  rw [hreturned] at hseen
  exact hseen

/-- One plugin has reported that it has stopped, goes on running and is killed. -/
theorem shutdownRace_noneLeft_killed :
    let machine : Machine :=
      { world := { World.single (singlePlugin "foo" []) .stopped ⟨1, true, .alive⟩ with
          runtime := fun address => if address = 0 then ⟨1, true, .alive⟩ else .fresh }
        point := fun address => if address = 0 then .watching else .waiting }
    let events := List.replicate 10 (ShutdownEvent.shutdown ⟨false, true, true⟩ true)
    Runs.Throughout (apply localSite false) NoneLeft events
      (initial (fun _ => .monitoring .begin) machine : ShutdownRace Unit) := by
  intro machine
  have hunbuilt : machine.Unbuilt := by
    intro address hnext
    have hne : address ≠ 0 := Nat.ne_of_gt hnext
    simp [machine, hne, ThreadPoint.Hides]
  let race : ShutdownRace Unit := initial (fun _ => .monitoring .begin) machine
  let event : ShutdownEvent Unit := .shutdown ⟨false, true, true⟩ true
  have hcopy : Timely event race := by
    refine ⟨fun _ plugin hlive => ?_, fun call hcall => absurd hcall (Option.not_mem_none call)⟩
    have haddress : plugin.address = 0 := by
      by_contra hne
      simp [Machine.Live, Runtime.Live, race, initial, ShutdownRace.machine, machine, hne,
        Runtime.fresh, ThreadPoint.Hides] at hlive
    exact ⟨singlePlugin "foo" [], List.mem_singleton.mpr rfl, haddress.symm⟩
  have hlater : Runs.Meets (apply localSite false) Timely (List.replicate 9 event)
      (apply localSite false event race) := by
    have hsees : Runs.Throughout (apply localSite false)
        (fun race => race.point ≠ .copy ∧ ∀ call ∈ race.point.call?, call.Sees race.machine)
        (List.replicate 9 event) (apply localSite false event race) := by
      decide +kernel
    have htimely : ∀ event' ∈ List.replicate 9 event, ∀ race : ShutdownRace Unit,
        (race.point ≠ .copy ∧ ∀ call ∈ race.point.call?, call.Sees race.machine) →
        Timely event' race := by
      intro event' hevent race hrace
      obtain rfl := List.eq_of_mem_replicate hevent
      exact ⟨fun hcopy => absurd hcopy hrace.1, hrace.2⟩
    exact Runs.meets_of_throughout hsees htimely
  exact shutdownRace_noneLeft localSite false _ _ hunbuilt _ ⟨hcopy, hlater⟩

/-- The plugin is down when the shutdown comes to it. A request that is served
before the thrift server is stopped then starts it. -/
theorem shutdownRace_survivor :
    let shutdown := ShutdownEvent.shutdown ⟨false, false, false⟩ true
    let step := ShutdownEvent.step () ⟨false, false, false⟩
    let newPlugin := rebuild (singlePlugin "foo" []) 1
    let events := List.replicate 4 shutdown ++ [.request () (.startInstance 0)] ++
      List.replicate 9 step ++ [.thread .fork newPlugin, .thread .assign newPlugin] ++
      List.replicate 5 shutdown
    let machine : Machine :=
      ⟨.single (singlePlugin "foo" []) .dead ⟨1, false, .exited⟩,
        fun address => if address = 0 then .ended else .waiting⟩
    let race := Runs.final (apply localSite false) events
      (initial (fun _ => .idle) machine : ShutdownRace Unit)
    ¬ NoneLeft race ∧ race.world.registry = [newPlugin] := by
  refine ⟨fun h => ?_, by decide⟩
  exact h rfl (rebuild (singlePlugin "foo" []) 1) (by decide)

end ShutdownRace
end Bartender
