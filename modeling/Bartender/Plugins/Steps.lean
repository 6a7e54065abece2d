import Bartender.Plugins.Manager
import Mathlib.Logic.Relation

/-!
# The steps of `start_plugin` and `stop_plugin`

Another thread can act between any two accesses to what the threads share, so
here a call is a point in the source together with its local variables, and
one step goes from one access to the next. A call that nothing interrupts does
what the manager's function does; the steps are what interleavings are made of.
-/

namespace Bartender

/-- Where a call of `start_plugin` is, and its `new_plugin` from where it has one. -/
inductive StartPoint
  /-- `plugin.status in ["RUNNING", "STARTING"]` -/
  | testRunning
  /-- `plugin.status == "INITIALIZING"` -/
  | testInitializing
  /-- `plugin.status in ["DEAD", "STOPPED"]` -/
  | testDown
  /-- The status is read once more, for the message. -/
  | refuse
  | remove (newPlugin : LocalPluginRunner)
  | register (newPlugin : LocalPluginRunner)
  /-- `new_plugin.status = "STARTING"` -/
  | markStarting (newPlugin : LocalPluginRunner)
  | start (newPlugin : LocalPluginRunner)
  | finished (newPlugin : Option LocalPluginRunner) (result : Except StartError Bool)
  deriving DecidableEq

structure StartCall where
  plugin : LocalPluginRunner
  point : StartPoint
  deriving DecidableEq

namespace StartCall

def begin (plugin : LocalPluginRunner) : StartCall := ⟨plugin, .testRunning⟩

/-- The next step of the call, where `popen` tells whether the subprocess of a
runner that is started can be spawned. -/
def step (popen : Bool) (call : StartCall) (w : World) : StartCall × World :=
  let goto point : StartCall := { call with point := point }
  match call.point with
  | .testRunning =>
    if w.status call.plugin = .running ∨ w.status call.plugin = .starting then
      (goto (.finished none (.ok true)), w)
    else (goto .testInitializing, w)
  | .testInitializing =>
    if w.status call.plugin = .initializing then (goto (.markStarting call.plugin), w)
    else (goto .testDown, w)
  | .testDown =>
    if (w.status call.plugin).IsDown then
      let (w, newPlugin) := w.addRunner (rebuild call.plugin)
      (goto (.remove newPlugin), w)
    else (goto .refuse, w)
  | .refuse =>
    (goto (.finished none (.error (.pluginStartupError (w.status call.plugin)))), w)
  | .remove newPlugin =>
    (goto (.register newPlugin),
      { w with registry := w.registry.remove call.plugin.uniqueName })
  | .register newPlugin =>
    (goto (.markStarting newPlugin), { w with registry := w.registry.registerPlugin newPlugin })
  | .markStarting newPlugin => (goto (.start newPlugin), w.setStatus newPlugin .starting)
  | .start newPlugin =>
    let result := if w.starts newPlugin.address = 0 then .ok true else .error .runtimeError
    (goto (.finished (some newPlugin) result), w.start newPlugin popen)
  | .finished _ _ => (call, w)

theorem step_plugin (popen : Bool) (call : StartCall) (w : World) :
    (call.step popen w).1.plugin = call.plugin := by
  obtain ⟨plugin, point⟩ := call
  cases point with
  | testRunning =>
    simp only [step]
    split <;> rfl
  | testInitializing =>
    simp only [step]
    split <;> rfl
  | testDown =>
    simp only [step]
    split <;> rfl
  | _ => rfl

def alone (popen : Bool) : ℕ → StartCall → World → StartCall × World
  | 0, call, w => (call, w)
  | n + 1, call, w =>
    let (call, w) := call.step popen w
    alone popen n call w

theorem alone_finished (popen : Bool) (n : ℕ) (plugin : LocalPluginRunner)
    (newPlugin : Option LocalPluginRunner) (result : Except StartError Bool) (w : World) :
    alone popen n ⟨plugin, .finished newPlugin result⟩ w =
      (⟨plugin, .finished newPlugin result⟩, w) := by
  induction n with
  | zero => rfl
  | succ n ih => exact ih

/-- A thread that makes the call, and goes on from it as `after` says, gets as far
as the call does. -/
theorem reaches_of_alone {σ : Type} {R : σ × World → σ × World → Prop} {popen : Bool}
    (after : StartCall → σ)
    (hstep : ∀ (call : StartCall) (w : World),
      (∀ newPlugin result, call.point ≠ .finished newPlugin result) →
        R (after call, w) (after (call.step popen w).1, (call.step popen w).2))
    {n : ℕ} {call call' : StartCall} {w w' : World} (halone : alone popen n call w = (call', w')) :
    Relation.ReflTransGen R (after call, w) (after call', w') := by
  induction n generalizing call w with
  | zero =>
    cases halone
    exact .refl
  | succ n ih =>
    obtain ⟨plugin, point⟩ := call
    cases point with
    | finished newPlugin result =>
      rw [alone_finished] at halone
      cases halone
      exact .refl
    | _ => exact .head (hstep _ w (by simp)) (ih halone)

theorem alone_markStarting (popen : Bool) (n : ℕ) (plugin newPlugin : LocalPluginRunner)
    (w : World) :
    alone popen (n + 2) ⟨plugin, .markStarting newPlugin⟩ w =
      (⟨plugin, .finished (some newPlugin) (launch (fun _ => popen) newPlugin w).1⟩,
        (launch (fun _ => popen) newPlugin w).2) := by
  have hlaunch : launch (fun _ => popen) newPlugin w =
      (if w.starts newPlugin.address = 0 then .ok true else .error .runtimeError,
        (w.setStatus newPlugin .starting).start newPlugin popen) := by
    unfold launch World.starts
    simp only [World.setStatus_runtime]
    split_ifs <;> rfl
  rw [hlaunch]
  simp only [alone, step, alone_finished, World.starts_setStatus]

/-- Without interruption the steps are `start_plugin`. -/
theorem alone_begin (popen : Bool) (plugin : LocalPluginRunner) (w : World) :
    ∃ newPlugin, alone popen 7 (begin plugin) w =
      (⟨plugin, .finished newPlugin (startPlugin (fun _ => popen) plugin w).1⟩,
        (startPlugin (fun _ => popen) plugin w).2) := by
  have hdown : ∀ status, w.status plugin = status → status.IsDown →
      alone popen 7 (begin plugin) w =
        alone popen 2 ⟨plugin, .markStarting (rebuild plugin w.next)⟩
          ((w.addRunner (rebuild plugin)).1.replaceInRegistry plugin (rebuild plugin w.next)) := by
    rintro status hstatus (rfl | rfl) <;>
      simp [alone, step, begin, hstatus, Status.IsDown, World.replaceInRegistry, World.addRunner]
  unfold startPlugin
  cases hstatus : w.status plugin with
  | running => exact ⟨none, by simp [alone, step, begin, hstatus]⟩
  | starting => exact ⟨none, by simp [alone, step, begin, hstatus]⟩
  | initializing =>
    refine ⟨some plugin, ?_⟩
    rw [← alone_markStarting popen 3]
    simp [alone, step, begin, hstatus]
  | stopped =>
    refine ⟨some (rebuild plugin w.next), ?_⟩
    rw [hdown _ hstatus (.inl rfl), alone_markStarting popen 0]
    rfl
  | dead =>
    refine ⟨some (rebuild plugin w.next), ?_⟩
    rw [hdown _ hstatus (.inr rfl), alone_markStarting popen 0]
    rfl
  | _ => exact ⟨none, by simp [alone, step, begin, hstatus, Status.IsDown]⟩

end StartCall

/-- Where a call of `stop_plugin` is. -/
inductive StopPoint
  /-- `plugin.status in ["DEAD", "STOPPED", "STOPPING"]` -/
  | testStopped
  /-- `plugin.status == "UNKNOWN"` -/
  | testUnknown
  /-- `plugin.status = "STOPPING"` -/
  | markStopping
  | callStop
  | publish
  | beginJoin
  | join (since : ℕ)
  /-- The `finally` block, with a `return` pending or not. -/
  | testAlive (returning : Bool)
  | kill (returning : Bool)
  /-- `plugin.status = "DEAD"` -/
  | markDead
  | finished
  deriving DecidableEq, Repr

/-- A call of `stop_plugin`, with its `clean_shutdown` and what it has done. -/
structure StopCall where
  plugin : LocalPluginRunner
  point : StopPoint
  cleanShutdown : Bool
  published : Bool
  /-- The join ended after the whole shutdown timeout. -/
  waited : Bool
  /-- The `except` block was entered. -/
  raised : Bool
  killed : Bool
  deriving DecidableEq

/-- What a step finds: whether its call raises, whether the plugin's thread is
alive, and whether the shutdown timeout has run out since the join began. -/
structure Surroundings where
  raises : Bool
  alive : Bool
  expired : Bool

namespace StopCall

def begin (plugin : LocalPluginRunner) : StopCall :=
  ⟨plugin, .testStopped, true, false, false, false, false⟩

/-- The `except` block, from where the `finally` block is next. -/
def except (call : StopCall) : StopCall :=
  { call with point := .testAlive false, cleanShutdown := false, raised := true }

/-- What comes after the `finally` block. -/
def afterFinally (call : StopCall) (returning : Bool) : StopCall :=
  { call with
    point := if returning ∨ call.cleanShutdown = true then .finished else .markDead }

/-- The next step of the call. A join does not end before its time while the
thread is alive. -/
def step (around : Surroundings) (call : StopCall) (w : World) : StopCall × World :=
  match call.point with
  | .testStopped =>
    if w.status call.plugin ∈ [Status.dead, .stopped, .stopping] then
      ({ call with point := .testAlive true }, w)
    else ({ call with point := .testUnknown }, w)
  | .testUnknown =>
    if w.status call.plugin = .unknown then ({ call with point := .callStop }, w)
    else ({ call with point := .markStopping }, w)
  | .markStopping => ({ call with point := .callStop }, w.setStatus call.plugin .stopping)
  | .callStop =>
    if around.raises then (call.except, w)
    else ({ call with point := .publish }, w.stop call.plugin)
  | .publish =>
    if around.raises then (call.except, w)
    else ({ call with point := .beginJoin, published := true }, w)
  | .beginJoin => ({ call with point := .join w.now }, w)
  | .join _ =>
    if around.raises then (call.except, w)
    else if around.alive ∧ around.expired = false then (call, w)
    else ({ call with point := .testAlive false, waited := around.expired }, w)
  | .testAlive returning =>
    if around.alive then ({ call with point := .kill returning }, w)
    else (call.afterFinally returning, w)
  | .kill returning =>
    (afterFinally { call with killed := true, cleanShutdown := false } returning,
      w.endProcess call.plugin)
  | .markDead => ({ call with point := .finished }, w.setStatus call.plugin .dead)
  | .finished => (call, w)

/-- The instance whose status the next step of the call writes. -/
def written (call : StopCall) : Option ℕ :=
  match call.point with
  | .markStopping => call.plugin.instance?.map (·.id)
  | .markDead => call.plugin.instance?.map (·.id)
  | _ => none

/-- Two of the steps write a status; the others leave the documents alone. -/
theorem step_world (around : Surroundings) (call : StopCall) (w : World) :
    (call.point = .markStopping ∧ (call.step around w).2 = w.setStatus call.plugin .stopping) ∨
    (call.point = .markDead ∧ (call.step around w).2 = w.setStatus call.plugin .dead) ∨
    call.point ≠ .markStopping ∧ call.point ≠ .markDead ∧
      (call.step around w).2.instances = w.instances := by
  obtain ⟨plugin, point, cleanShutdown, published, waited, raised, killed⟩ := call
  cases point with
  | markStopping => exact .inl ⟨rfl, rfl⟩
  | markDead => exact .inr (.inl ⟨rfl, rfl⟩)
  | join =>
    refine .inr (.inr ⟨by simp, by simp, ?_⟩)
    simp only [step]
    split
    · rfl
    · split <;> rfl
  | beginJoin => exact .inr (.inr ⟨by simp, by simp, rfl⟩)
  | kill => exact .inr (.inr ⟨by simp, by simp, rfl⟩)
  | finished => exact .inr (.inr ⟨by simp, by simp, rfl⟩)
  | _ =>
    refine .inr (.inr ⟨by simp, by simp, ?_⟩)
    simp only [step]
    split <;> rfl

theorem step_instances (around : Surroundings) (call : StopCall) (w : World) :
    (call.written = none ∧ (call.step around w).2.instances = w.instances) ∨
    ∃ id, call.written = some id ∧ ∃ status ∈ [Status.stopping, .dead],
      (call.step around w).2.instances = (w.setInstanceStatus id status).instances := by
  have hset : ∀ status ∈ [Status.stopping, .dead],
      (call.plugin.instance?.map (·.id) = none ∧
        (w.setStatus call.plugin status).instances = w.instances) ∨
      ∃ id, call.plugin.instance?.map (·.id) = some id ∧ ∃ status' ∈ [Status.stopping, .dead],
        (w.setStatus call.plugin status).instances =
          (w.setInstanceStatus id status').instances := by
    intro status hstatus
    unfold World.setStatus
    cases call.plugin.instance? with
    | none => exact .inl ⟨rfl, rfl⟩
    | some i => exact .inr ⟨i.id, rfl, status, hstatus, rfl⟩
  unfold written
  rcases step_world around call w with ⟨hpoint, hworld⟩ | ⟨hpoint, hworld⟩ | ⟨hstop, hdead, hworld⟩
  · rw [hpoint, hworld]
    exact hset .stopping (by decide)
  · rw [hpoint, hworld]
    exact hset .dead (by decide)
  · left
    split <;> simp_all

theorem step_plugin (around : Surroundings) (call : StopCall) (w : World) :
    (call.step around w).1.plugin = call.plugin := by
  obtain ⟨plugin, point, cleanShutdown, published, waited, raised, killed⟩ := call
  cases point with
  | markStopping => rfl
  | beginJoin => rfl
  | kill => rfl
  | markDead => rfl
  | finished => rfl
  | join =>
    simp only [step]
    split
    · rfl
    · split <;> rfl
  | _ =>
    simp only [step]
    split <;> rfl

end StopCall

namespace Shutdown

variable (shutdown : Shutdown)

/-- What the steps of a call find when the shutdown goes this way. -/
def surroundings (point : StopPoint) : Surroundings where
  raises := match point with
    | .callStop => !shutdown.stopReturns
    | .publish => !shutdown.publishReturns
    | .join _ => !shutdown.joinReturns
    | _ => false
  alive := shutdown.threadAlive
  expired := shutdown.threadAlive

/-- What happens by itself before a step: until the thread is tested, the plugin
reports and its subprocess ends, where it does. -/
def meanwhile (call : StopCall) (w : World) : World :=
  match call.point with
  | .testAlive returning =>
    let w := if !returning && shutdown.reportsStopped then w.setStatus call.plugin .stopped else w
    if shutdown.threadAlive then w else w.endProcess call.plugin
  | _ => w

def alone : ℕ → StopCall → World → StopCall × World
  | 0, call, w => (call, w)
  | n + 1, call, w =>
    let (call, w) := call.step (shutdown.surroundings call.point) (shutdown.meanwhile call w)
    alone n call w

/-- `stop_plugin` by itself, with what the call did. -/
def run (plugin : LocalPluginRunner) (w : World) : StopCall × World :=
  shutdown.alone 10 (.begin plugin) w

variable {shutdown} {call : StopCall} {w : World}

/-- Within that many steps the call is over, with this state; it has killed the
plugin where the thread was alive. -/
def Finishes (shutdown : Shutdown) (n : ℕ) (call : StopCall) (w w' : World) : Prop :=
  ∃ call', shutdown.alone n call w = (call', w') ∧ call'.plugin = call.plugin ∧
    call'.point = .finished ∧ call'.killed = shutdown.threadAlive

theorem Finishes.of_step {n : ℕ} {call' : StopCall} {w' w'' : World}
    (hstep : call.step (shutdown.surroundings call.point) (shutdown.meanwhile call w) = (call', w'))
    (hplugin : call'.plugin = call.plugin) (h : shutdown.Finishes n call' w' w'') :
    shutdown.Finishes (n + 1) call w w'' := by
  obtain ⟨last, halone, hlast, hover⟩ := h
  refine ⟨last, ?_, hlast.trans hplugin, hover⟩
  rw [alone, hstep]
  exact halone

theorem alone_finished (n : ℕ) (w : World) (hpoint : call.point = .finished) :
    shutdown.alone n call w = (call, w) := by
  induction n with
  | zero => rfl
  | succ n ih =>
    have hstep : call.step (shutdown.surroundings call.point) (shutdown.meanwhile call w) =
        (call, w) := by
      simp [StopCall.step, meanwhile, hpoint]
    rw [alone, hstep]
    exact ih

theorem finishes_finished (n : ℕ) (w : World) (hpoint : call.point = .finished)
    (hkilled : call.killed = shutdown.threadAlive) : shutdown.Finishes n call w w :=
  ⟨call, alone_finished n w hpoint, rfl, hpoint, hkilled⟩

theorem finishes_testAlive (n : ℕ) {w' : World} {returning : Bool}
    (hpoint : call.point = .testAlive returning) (hkilled : call.killed = false)
    (hafter : w' =
      let reported :=
        if !returning && shutdown.reportsStopped then w.setStatus call.plugin .stopped else w
      let ended := stopFinally call.plugin reported
      if returning || (call.cleanShutdown && !shutdown.threadAlive) then ended
      else ended.setStatus call.plugin .dead) :
    shutdown.Finishes (n + 3) call w w' := by
  obtain ⟨plugin, point, cleanShutdown, published, waited, raised, killed⟩ := call
  obtain ⟨stopReturns, publishReturns, joinReturns, reportsStopped, threadAlive⟩ := shutdown
  subst hpoint hkilled hafter
  cases threadAlive
  · cases returning
    · cases cleanShutdown
      · exact .of_step rfl rfl (.of_step rfl rfl (finishes_finished _ _ rfl rfl))
      · exact .of_step rfl rfl (finishes_finished _ _ rfl rfl)
    · exact .of_step rfl rfl (finishes_finished _ _ rfl rfl)
  · cases returning
    · cases cleanShutdown <;>
        exact .of_step rfl rfl
          (.of_step rfl rfl (.of_step rfl rfl (finishes_finished _ _ rfl rfl)))
    · exact .of_step rfl rfl (.of_step rfl rfl (finishes_finished _ _ rfl rfl))

/-- From the call of `stop()` on, with a `try` block that has not raised. -/
theorem finishes_callStop (n : ℕ) {w' : World} (hpoint : call.point = .callStop)
    (hclean : call.cleanShutdown = true) (hkilled : call.killed = false)
    (hafter : w' =
      let stopped := if shutdown.stopReturns then w.stop call.plugin else w
      let reported :=
        if shutdown.reportsStopped then stopped.setStatus call.plugin .stopped else stopped
      let ended := stopFinally call.plugin reported
      if shutdown.clean then ended else ended.setStatus call.plugin .dead) :
    shutdown.Finishes (n + 7) call w w' := by
  obtain ⟨plugin, point, cleanShutdown, published, waited, raised, killed⟩ := call
  obtain ⟨stopReturns, publishReturns, joinReturns, reportsStopped, threadAlive⟩ := shutdown
  subst hpoint hclean hkilled hafter
  cases stopReturns
  · exact .of_step rfl rfl (finishes_testAlive (n + 3) rfl rfl rfl)
  · refine .of_step rfl rfl ?_
    cases publishReturns
    · exact .of_step rfl rfl (finishes_testAlive (n + 2) rfl rfl rfl)
    · refine .of_step rfl rfl (.of_step rfl rfl ?_)
      cases joinReturns
      · exact .of_step rfl rfl (finishes_testAlive n rfl rfl rfl)
      · cases threadAlive <;> exact .of_step rfl rfl (finishes_testAlive n rfl rfl rfl)

/-- Without interruption the steps are `stop_plugin`. -/
theorem finishes_begin (shutdown : Shutdown) (plugin : LocalPluginRunner) (w : World) :
    shutdown.Finishes 10 (.begin plugin) w (stopPlugin shutdown plugin w) := by
  have hdown : w.status plugin ∈ [Status.dead, .stopped, .stopping] →
      shutdown.Finishes 10 (.begin plugin) w (stopFinally plugin w) := by
    intro hstatus
    have hstep : (StopCall.begin plugin).step (shutdown.surroundings .testStopped) w =
        ({ StopCall.begin plugin with point := .testAlive true }, w) := if_pos hstatus
    exact .of_step hstep rfl (finishes_testAlive 6 rfl rfl rfl)
  have hup : w.status plugin ∉ [Status.dead, .stopped, .stopping] →
      shutdown.Finishes 10 (.begin plugin) w
        (let marked := if w.status plugin = .unknown then w else w.setStatus plugin .stopping
          let stopped := if shutdown.stopReturns then marked.stop plugin else marked
          let reported :=
            if shutdown.reportsStopped then stopped.setStatus plugin .stopped else stopped
          let ended := stopFinally plugin reported
          if shutdown.clean then ended else ended.setStatus plugin .dead) := by
    intro hstatus
    have hstep : (StopCall.begin plugin).step (shutdown.surroundings .testStopped) w =
        ({ StopCall.begin plugin with point := .testUnknown }, w) := if_neg hstatus
    refine .of_step hstep rfl ?_
    by_cases hunknown : w.status plugin = .unknown
    · rw [if_pos hunknown]
      exact .of_step (if_pos hunknown) rfl (finishes_callStop 1 rfl rfl rfl rfl)
    · rw [if_neg hunknown]
      exact .of_step (if_neg hunknown) rfl
        (.of_step rfl rfl (finishes_callStop 0 rfl rfl rfl rfl))
  unfold stopPlugin
  cases hstatus : w.status plugin with
  | dead => exact hdown (by simp [hstatus])
  | stopped => exact hdown (by simp [hstatus])
  | stopping => exact hdown (by simp [hstatus])
  | _ => simpa [hstatus] using hup (by simp [hstatus])

end Shutdown
end Bartender
