import Bartender.Plugins.Monitors
import Bartender.Plugins.Steps
import Mathlib.Logic.Relation

/-!
# The steps of `monitor`

`LocalPluginMonitor.monitor` goes over a copy of the registry. As for a call of
the manager, one step goes from one access to what the threads share to the
next; a restart is made of the steps of its two calls.
-/

namespace Bartender

inductive MonitorPoint
  /-- `self.registry.get_all_plugins()` -/
  | copy
  /-- The head of the loop, with `self.stopped()`. -/
  | next
  /-- `plugin.process and plugin.process.poll() is not None` -/
  | testExited (plugin : LocalPluginRunner)
  | testNotStopped (plugin : LocalPluginRunner)
  /-- `plugin.status == "RUNNING"` -/
  | testRunning (plugin : LocalPluginRunner)
  /-- `plugin.status == "STARTING"` -/
  | testStarting (plugin : LocalPluginRunner)
  /-- `plugin.status = "DEAD"`, before the restart. -/
  | markDead (plugin : LocalPluginRunner)
  | stop (call : StopCall)
  | start (call : StartCall)
  /-- `plugin.status = "DEAD"`, for a plugin that has failed to start. -/
  | markFailed (plugin : LocalPluginRunner)
  | finished
  deriving DecidableEq

structure MonitorPass where
  /-- What the loop has yet to look at. -/
  rest : List LocalPluginRunner
  point : MonitorPoint
  deriving DecidableEq

namespace MonitorPass

def begin : MonitorPass := ⟨[], .copy⟩

/-- Where the pass is once a call of `stop_plugin` has come to a point. -/
def afterStop (call : StopCall) : MonitorPoint :=
  if call.point = .finished then .start (.begin call.plugin) else .stop call

def afterResult {α : Type} : Except StartError α → MonitorPoint
  | .ok _ => .next
  | .error _ => .finished

/-- Where the pass is once a call of `start_plugin` has come to a point. -/
def afterStart (call : StartCall) : MonitorPoint :=
  match call.point with
  | .finished _ result => afterResult result
  | _ => .start call

/-- The next step of the pass, where `stopped` tells whether the monitor finds
itself stopped. -/
def step (popen : Bool) (around : Surroundings) (stopped : Bool) (pass : MonitorPass)
    (w : World) : MonitorPass × World :=
  let goto point : MonitorPass := { pass with point := point }
  match pass.point with
  | .copy => (⟨w.registry.getAllPlugins, .next⟩, w)
  | .next =>
    match pass.rest with
    | [] => (goto .finished, w)
    | plugin :: rest => if stopped then (goto .finished, w) else (⟨rest, .testExited plugin⟩, w)
  | .testExited plugin =>
    if (w.runtime plugin.address).process = .exited then (goto (.testNotStopped plugin), w)
    else (goto .next, w)
  | .testNotStopped plugin =>
    if (w.runtime plugin.address).stopped then (goto .next, w) else (goto (.testRunning plugin), w)
  | .testRunning plugin =>
    if w.status plugin = .running then (goto (.markDead plugin), w)
    else (goto (.testStarting plugin), w)
  | .testStarting plugin =>
    if w.status plugin = .starting then (goto (.markFailed plugin), w) else (goto .next, w)
  | .markDead plugin => (goto (.stop (.begin plugin)), w.setStatus plugin .dead)
  | .stop call => (goto (afterStop (call.step around w).1), (call.step around w).2)
  | .start call => (goto (afterStart (call.step popen w).1), (call.step popen w).2)
  | .markFailed plugin => (goto .next, w.setStatus plugin .dead)
  | .finished => (pass, w)

section Alone

variable (popen : Bool) (shutdown : ℕ → Shutdown)

/-- A step of a pass that nothing interrupts and nobody stops. -/
def alone : MonitorPass × World → MonitorPass × World
  | (⟨rest, .stop call⟩, w) =>
    let shutdown := shutdown call.plugin.address
    step popen (shutdown.surroundings call.point) false ⟨rest, .stop call⟩
      (shutdown.meanwhile call w)
  | (pass, w) => step popen ⟨false, false, false⟩ false pass w

abbrev Reaches : MonitorPass × World → MonitorPass × World → Prop :=
  Relation.ReflTransGen fun s s' => alone popen shutdown s = s'

variable {popen shutdown} {rest : List LocalPluginRunner} {w w' : World}

theorem reaches_stop {n : ℕ} {call call' : StopCall}
    (halone : (shutdown call.plugin.address).alone n call w = (call', w'))
    (hover : call'.point = .finished) (hpoint : call.point ≠ .finished) :
    Reaches popen shutdown (⟨rest, .stop call⟩, w) (⟨rest, .start (.begin call.plugin)⟩, w') := by
  induction n generalizing call w with
  | zero =>
    cases halone
    exact absurd hover hpoint
  | succ n ih =>
    let around := (shutdown call.plugin.address).surroundings call.point
    let before := (shutdown call.plugin.address).meanwhile call w
    have hplugin : (call.step around before).1.plugin = call.plugin :=
      StopCall.step_plugin around call before
    have hstep : Reaches popen shutdown (⟨rest, .stop call⟩, w)
        (⟨rest, afterStop (call.step around before).1⟩, (call.step around before).2) :=
      .single rfl
    have hrest : (shutdown call.plugin.address).alone n (call.step around before).1
        (call.step around before).2 = (call', w') := halone
    refine hstep.trans ?_
    unfold afterStop
    split
    · rename_i hfinished
      rw [Shutdown.alone_finished n _ hfinished] at hrest
      cases hrest
      rw [hplugin]
    · rename_i hnot
      rw [← hplugin] at hrest ⊢
      exact ih hrest hnot

theorem reaches_start {n : ℕ} {call call' : StartCall}
    (halone : call.alone popen n w = (call', w')) (hpoint : afterStart call = .start call) :
    Reaches popen shutdown (⟨rest, .start call⟩, w) (⟨rest, afterStart call'⟩, w') := by
  rw [← hpoint]
  refine StartCall.reaches_of_alone (fun call => MonitorPass.mk rest (afterStart call)) ?_ halone
  rintro ⟨plugin, point⟩ w hrunning
  cases point with
  | finished newPlugin result => exact absurd rfl (hrunning newPlugin result)
  | _ => rfl

theorem reaches_restart (plugin : LocalPluginRunner) :
    Reaches popen shutdown (⟨rest, .markDead plugin⟩, w)
      (⟨rest, afterResult (restartPlugin (fun _ => popen) (shutdown plugin.address) plugin
          (w.setStatus plugin .dead)).1⟩,
        (restartPlugin (fun _ => popen) (shutdown plugin.address) plugin
          (w.setStatus plugin .dead)).2) := by
  have hmark : Reaches popen shutdown (⟨rest, .markDead plugin⟩, w)
      (⟨rest, .stop (.begin plugin)⟩, w.setStatus plugin .dead) := .single rfl
  obtain ⟨call, hstop, -, hover, -⟩ :=
    Shutdown.finishes_begin (shutdown plugin.address) plugin (w.setStatus plugin .dead)
  have hstopped : Reaches popen shutdown (⟨rest, .stop (.begin plugin)⟩, w.setStatus plugin .dead)
      (⟨rest, .start (.begin plugin)⟩,
        stopPlugin (shutdown plugin.address) plugin (w.setStatus plugin .dead)) :=
    reaches_stop hstop hover (by simp [StopCall.begin])
  obtain ⟨newPlugin, hstart⟩ := StartCall.alone_begin popen plugin
    (stopPlugin (shutdown plugin.address) plugin (w.setStatus plugin .dead))
  exact (hmark.trans hstopped).trans (reaches_start hstart rfl)

/-- Uninterrupted, one round of the loop is `monitorPlugin`. -/
theorem reaches_monitorPlugin (rest : List LocalPluginRunner) (plugin : LocalPluginRunner)
    (w : World) :
    Reaches popen shutdown (⟨rest, .testExited plugin⟩, w)
      (⟨rest, afterResult (monitorPlugin (fun _ => popen) shutdown plugin w).1⟩,
        (monitorPlugin (fun _ => popen) shutdown plugin w).2) := by
  have hstep : ∀ {s s' s'' : MonitorPass × World}, alone popen shutdown s = s' →
      Reaches popen shutdown s' s'' → Reaches popen shutdown s s'' :=
    fun hfirst hrest => .head hfirst hrest
  have hskips : Reaches popen shutdown (⟨rest, .next⟩, w) (⟨rest, afterResult (.ok ())⟩, w) := .refl
  unfold monitorPlugin
  by_cases hexited : (w.runtime plugin.address).process = .exited
  · refine hstep (if_pos hexited) ?_
    by_cases hstopped : (w.runtime plugin.address).stopped = true
    · refine hstep (if_pos hstopped) ?_
      simpa [hstopped] using hskips
    · refine hstep (if_neg hstopped) ?_
      rw [Bool.not_eq_true] at hstopped
      simp only [hexited, hstopped, and_self, if_true]
      cases hstatus : w.status plugin with
      | running =>
        refine hstep (if_pos hstatus) ?_
        have hrestart : Reaches popen shutdown (⟨rest, .markDead plugin⟩, w) _ :=
          reaches_restart plugin
        generalize restartPlugin (fun _ => popen) (shutdown plugin.address) plugin
          (w.setStatus plugin .dead) = outcome at hrestart ⊢
        obtain ⟨result, w'⟩ := outcome
        cases result <;> exact hrestart
      | starting =>
        refine hstep (if_neg (by simp [hstatus])) (hstep (if_pos hstatus) ?_)
        exact .single rfl
      | _ =>
        refine hstep (if_neg (by simp [hstatus])) (hstep (if_neg (by simp [hstatus])) ?_)
        exact hskips
  · refine hstep (if_neg hexited) ?_
    simpa [hexited] using hskips

theorem reaches_monitor :
    ∃ rest, Reaches popen shutdown (begin, w)
      (⟨rest, .finished⟩,
        (monitorPlugins (fun _ => popen) shutdown w.registry.getAllPlugins w).2) := by
  have hloop : ∀ (plugins : List LocalPluginRunner) (w : World), ∃ rest,
      Reaches popen shutdown (⟨plugins, .next⟩, w)
        (⟨rest, .finished⟩, (monitorPlugins (fun _ => popen) shutdown plugins w).2) := by
    intro plugins
    induction plugins with
    | nil => exact fun w => ⟨[], .single rfl⟩
    | cons plugin plugins ih =>
      intro w
      have hround : Reaches popen shutdown (⟨plugins, .testExited plugin⟩, w) _ :=
        reaches_monitorPlugin plugins plugin w
      unfold monitorPlugins
      cases hresult : monitorPlugin (fun _ => popen) shutdown plugin w with
      | mk result w' =>
        rw [hresult] at hround
        cases result with
        | ok =>
          obtain ⟨rest, hrest⟩ := ih w'
          exact ⟨rest, .head rfl (hround.trans hrest)⟩
        | error e => exact ⟨plugins, .head rfl hround⟩
  obtain ⟨rest, hrest⟩ := hloop w.registry.getAllPlugins w
  exact ⟨rest, .head rfl hrest⟩

end Alone

end MonitorPass
end Bartender
