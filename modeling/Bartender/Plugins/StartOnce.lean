import Bartender.Library.Runs
import Bartender.Plugins.Monitors
import Bartender.Plugins.StopOutcome

/-!
# Runner objects are started once

`start_plugin` takes a runner whose stored status is `INITIALIZING` for a fresh
one. The status is also written by `initializeInstance`, on behalf of a plugin
whose runner was started before; until the status monitor has seen a heartbeat
the test is wrong about it. Nothing else starts a runner a second time.
-/

namespace Bartender

/-- No runner object was started more than once. -/
def StartedOnce (w : World) : Prop := ∀ address, w.starts address ≤ 1

theorem startedOnce_single (plugin : LocalPluginRunner) (status : Status) {runtime : Runtime}
    (h : runtime.starts ≤ 1) : StartedOnce (.single plugin status runtime) := fun _ => h

section Steps

variable {popen : ℕ → Bool} {plugin : LocalPluginRunner} {w : World}

theorem starts_stopPlugin (shutdown : Shutdown) (address : ℕ) :
    (stopPlugin shutdown plugin w).starts address = w.starts address := by
  unfold stopPlugin stopFinally
  split
  · simp
  · simp
  · simp
  · dsimp only
    split_ifs <;> simp

theorem starts_launch_self :
    (launch popen plugin w).2.starts plugin.address = w.starts plugin.address + 1 := by
  unfold launch
  dsimp only
  split_ifs <;> simp [World.starts_start_self]

theorem starts_launch_of_ne {address : ℕ} (hne : address ≠ plugin.address) :
    (launch popen plugin w).2.starts address = w.starts address := by
  unfold launch
  dsimp only
  split_ifs <;> simp [World.starts_start_of_ne _ hne]

theorem StartedOnce.launch (h : StartedOnce w) (hfresh : w.starts plugin.address = 0) :
    StartedOnce (launch popen plugin w).2 := by
  intro address
  by_cases hne : address = plugin.address
  · rw [hne, starts_launch_self, hfresh]
  · rw [starts_launch_of_ne hne]
    exact h address

/-- `start_plugin` keeps to one start, unless it takes a started runner for a
fresh one. -/
theorem StartedOnce.startPlugin (h : StartedOnce w)
    (hfresh : w.status plugin = .initializing → w.starts plugin.address = 0) :
    StartedOnce (startPlugin popen plugin w).2 := by
  rcases startPlugin_cases popen plugin w with
    ⟨result, heq⟩ | ⟨hstatus, heq⟩ | ⟨-, heq⟩
  · rw [heq]
    exact h
  · rw [heq]
    exact h.launch (hfresh hstatus)
  · rw [heq]
    apply StartedOnce.launch
    · intro address
      by_cases hne : address = w.next
      · simp [hne, World.starts, World.replaceInRegistry, World.addRunner, Runtime.fresh]
      · simpa [World.starts, World.replaceInRegistry, World.addRunner, hne] using h address
    · simp [World.starts, World.replaceInRegistry, World.addRunner, Runtime.fresh, rebuild_address]

theorem StartedOnce.stopPlugin (h : StartedOnce w) (shutdown : Shutdown) :
    StartedOnce (stopPlugin shutdown plugin w) := by
  intro address
  rw [starts_stopPlugin]
  exact h address

/-- The monitor marks the plugin as dead before it restarts it. -/
theorem StartedOnce.monitorPlugin (h : StartedOnce w) (shutdown : ℕ → Shutdown) :
    StartedOnce (monitorPlugin popen shutdown plugin w).2 := by
  unfold Bartender.monitorPlugin
  dsimp only
  split_ifs with hexited
  · cases hstatus : w.status plugin with
    | running =>
      have hstored := (World.stored_of_status_ne hstatus (by decide)).setStatus .dead
      have hdead := hstored.stopPlugin (shutdown plugin.address)
      have hstart : StartedOnce (restartPlugin popen (shutdown plugin.address) plugin
          (w.setStatus plugin .dead)).2 := by
        apply StartedOnce.startPlugin
        · apply StartedOnce.stopPlugin
          intro address
          rw [World.starts_setStatus]
          exact h address
        · rw [hdead.status_eq]
          exact nofun
      dsimp only
      generalize restartPlugin popen (shutdown plugin.address) plugin
        (w.setStatus plugin .dead) = outcome at hstart ⊢
      rcases outcome with ⟨_ | _, w'⟩ <;> exact hstart
    | starting =>
      intro address
      simpa using h address
    | _ => exact h
  · exact h

theorem StartedOnce.monitorPlugins (h : StartedOnce w) (shutdown : ℕ → Shutdown)
    (plugins : List LocalPluginRunner) :
    StartedOnce (monitorPlugins popen shutdown plugins w).2 := by
  induction plugins generalizing w with
  | nil => exact h
  | cons plugin rest ih =>
    have hround : StartedOnce (Bartender.monitorPlugin popen shutdown plugin w).2 :=
      h.monitorPlugin shutdown
    unfold Bartender.monitorPlugins
    generalize Bartender.monitorPlugin popen shutdown plugin w = outcome at hround ⊢
    rcases outcome with ⟨_ | _, w'⟩
    · exact hround
    · exact ih hround

end Steps

/-- The operation does not start an instance whose status is `INITIALIZING`
although its runner was started. -/
def InstanceOperation.Proper : InstanceOperation → World → Prop
  | .startInstance id _, w => ∀ plugin, getPluginFromInstanceId id w = some plugin →
      w.status plugin = .initializing → w.starts plugin.address = 0
  | _, _ => True

/-- `startInstance` starts a runner twice exactly when its status is
`INITIALIZING` although it was started. -/
theorem startedOnce_startPlugin_iff {popen : ℕ → Bool} {plugin : LocalPluginRunner} {w : World}
    (h : StartedOnce w) : StartedOnce (startPlugin popen plugin w).2 ↔
      (w.status plugin = .initializing → w.starts plugin.address = 0) := by
  constructor
  · intro hafter hstatus
    have hstart : startPlugin popen plugin w = launch popen plugin w := by
      unfold startPlugin
      rw [hstatus]
    have hstarts := hafter plugin.address
    rw [hstart, starts_launch_self] at hstarts
    omega
  · exact h.startPlugin

/-- One operation keeps to one start exactly when it is proper. -/
theorem startedOnce_apply_iff {w : World} (h : StartedOnce w) (op : InstanceOperation) :
    StartedOnce (op.apply w) ↔ op.Proper w := by
  cases op with
  | startInstance id spawns =>
    unfold InstanceOperation.Proper
    cases hplugin : getPluginFromInstanceId id w with
    | none => simpa [InstanceOperation.apply, hplugin] using h
    | some plugin =>
      have happly : InstanceOperation.apply (.startInstance id spawns) w =
          (startPlugin (fun _ => spawns) plugin w).2 := by
        simp [InstanceOperation.apply, hplugin]
      rw [happly, startedOnce_startPlugin_iff h]
      simp [hplugin]
  | stopInstance id shutdown =>
    refine ⟨fun _ => trivial, fun _ => ?_⟩
    cases hplugin : getPluginFromInstanceId id w with
    | none => simpa [InstanceOperation.apply, hplugin] using h
    | some plugin => simpa [InstanceOperation.apply, hplugin] using h.stopPlugin shutdown
  | monitor visits popen shutdown =>
    exact ⟨fun _ => trivial, fun _ => h.monitorPlugins shutdown _⟩
  | exit plugin =>
    refine ⟨fun _ => trivial, fun _ address => ?_⟩
    show (w.endProcess plugin).starts address ≤ 1
    rw [World.starts_endProcess]
    exact h address
  | _ => exact ⟨fun _ => trivial, fun _ => h⟩

/-- In a run from a state where every runner was started at most once, this
stays so exactly when every operation is proper. -/
theorem startedOnce_throughout_iff {w : World} (h : StartedOnce w)
    (operations : List InstanceOperation) :
    Runs.Throughout InstanceOperation.apply StartedOnce operations w ↔
      Runs.Meets InstanceOperation.apply InstanceOperation.Proper operations w :=
  Runs.throughout_iff_meets (P := StartedOnce) (fun op _ hw => startedOnce_apply_iff hw op) h
    operations

/-- A plugin that is loaded, started, seen by both monitors and started again. -/
theorem startedOnce_throughout_watched :
    Runs.Throughout InstanceOperation.apply StartedOnce
        [.startInstance 0 true, .initializeInstance 0, .checkStatus 30 fun _ => true,
          .monitor 1 (fun _ => true) fun _ => ⟨true, true, true, true, false⟩,
          .startInstance 0 true]
        (.single (singlePlugin "foo" []) .initializing .fresh) ↔
      Runs.Meets InstanceOperation.apply InstanceOperation.Proper
        [.startInstance 0 true, .initializeInstance 0, .checkStatus 30 fun _ => true,
          .monitor 1 (fun _ => true) fun _ => ⟨true, true, true, true, false⟩,
          .startInstance 0 true]
        (.single (singlePlugin "foo" []) .initializing .fresh) :=
  startedOnce_throughout_iff (startedOnce_single _ _ (by decide)) _

/-- The instance is started again before a heartbeat was checked. -/
theorem startedOnce_twice :
    StartedOnce (.single (singlePlugin "foo" []) .initializing .fresh) ∧
      ¬ Runs.Throughout InstanceOperation.apply StartedOnce
        [.startInstance 0 true, .initializeInstance 0, .startInstance 0 true]
        (.single (singlePlugin "foo" []) .initializing .fresh) := by
  refine ⟨startedOnce_single _ _ (by decide), fun h => ?_⟩
  have hstarts := h.2.2.2 0
  revert hstarts
  decide

end Bartender
