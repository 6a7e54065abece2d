import Bartender.Plugins.World

/-!
# The threads of the runners

`start()` only starts the thread of a runner: `run()` calls `Popen` later, and
assigns `self.process` later still, when the subprocess has been running for a
while. Until then `process` is absent, which is all that `kill()` and the
monitor look at. Here a state also knows how far each `run()` has got.
-/

namespace Bartender

/-- How far the `run()` of a runner has got. -/
inductive ThreadPoint
  /-- `Popen` is still to be called, also before `start()`. -/
  | waiting
  /-- `Popen` has forked, and `self.process` is still to be assigned. -/
  | constructing (alive : Bool)
  /-- `self.process` tells about the subprocess. -/
  | watching
  /-- The `except` block was entered while the subprocess was running. -/
  | died
  | ended
  deriving DecidableEq, Repr

/-- A subprocess runs that `process` does not show. -/
def ThreadPoint.Hides (point : ThreadPoint) : Prop := point = .constructing true ∨ point = .died

instance (point : ThreadPoint) : Decidable point.Hides :=
  inferInstanceAs (Decidable (point = .constructing true ∨ point = .died))

/-- The subprocess is running. -/
def Runtime.Live (runtime : Runtime) (point : ThreadPoint) : Prop :=
  runtime.process = .alive ∨ runtime.process = .absent ∧ point.Hides

instance (runtime : Runtime) (point : ThreadPoint) : Decidable (runtime.Live point) :=
  inferInstanceAs (Decidable (runtime.process = .alive ∨
    runtime.process = .absent ∧ point.Hides))

/-- The subprocess is running, or will be when `Popen` is called. -/
def Runtime.Active (runtime : Runtime) (point : ThreadPoint) : Prop :=
  runtime.Live point ∨ runtime.process = .absent ∧ point = .waiting ∧ 0 < runtime.starts

instance (runtime : Runtime) (point : ThreadPoint) : Decidable (runtime.Active point) :=
  inferInstanceAs (Decidable (runtime.Live point ∨
    runtime.process = .absent ∧ point = .waiting ∧ 0 < runtime.starts))

/-- The shared state and the threads. The subprocess of a thread that has died is
no longer shown by `process`: `stop_plugin` does nothing about it, and the monitor
only when it has exited. -/
structure Machine where
  world : World
  /-- By address. -/
  point : ℕ → ThreadPoint

/-- What the thread and the subprocess of a runner do by themselves. -/
inductive ThreadEvent
  | fork
  /-- `Popen` raises, or what comes before it does. -/
  | popenFails
  | assign
  | exit
  /-- `run()` returns, having caught an exception or not. -/
  | leave
  deriving DecidableEq, Repr

namespace Machine

variable (m : Machine) (plugin : LocalPluginRunner)

def Live : Prop := (m.world.runtime plugin.address).Live (m.point plugin.address)

instance : Decidable (m.Live plugin) :=
  inferInstanceAs (Decidable ((m.world.runtime plugin.address).Live (m.point plugin.address)))

def Active : Prop := (m.world.runtime plugin.address).Active (m.point plugin.address)

instance : Decidable (m.Active plugin) :=
  inferInstanceAs (Decidable ((m.world.runtime plugin.address).Active (m.point plugin.address)))

/-- `is_alive()` -/
def ThreadAlive : Prop :=
  0 < m.world.starts plugin.address ∧ m.point plugin.address ≠ .died ∧
    m.point plugin.address ≠ .ended

instance : Decidable (m.ThreadAlive plugin) :=
  inferInstanceAs (Decidable (0 < m.world.starts plugin.address ∧
    m.point plugin.address ≠ .died ∧ m.point plugin.address ≠ .ended))

end Machine

/-- What the event makes of the runner, where it can happen. -/
def ThreadEvent.act : ThreadEvent → Runtime → ThreadPoint → Runtime × ThreadPoint
  | .fork, runtime, .waiting =>
    if 0 < runtime.starts then (runtime, .constructing true) else (runtime, .waiting)
  | .popenFails, runtime, .waiting =>
    if 0 < runtime.starts then (runtime, .ended) else (runtime, .waiting)
  -- the program could not be executed
  | .popenFails, runtime, .constructing false => (runtime, .ended)
  | .assign, runtime, .constructing alive =>
    if runtime.process = .absent then
      ({ runtime with process := if alive then .alive else .exited }, .watching)
    else (runtime, .constructing alive)
  | .exit, runtime, .constructing true => (runtime, .constructing false)
  | .exit, runtime, .died => ({ runtime with process := .exited }, .ended)
  | .exit, runtime, point =>
    if runtime.process = .alive then ({ runtime with process := .exited }, point)
    else (runtime, point)
  | .leave, runtime, .watching =>
    if runtime.process = .alive then ({ runtime with process := .absent }, .died)
    else (runtime, .ended)
  | _, runtime, point => (runtime, point)

def ThreadEvent.apply (event : ThreadEvent) (plugin : LocalPluginRunner) (m : Machine) : Machine :=
  if plugin.address < m.world.next then
    let next := event.act (m.world.runtime plugin.address) (m.point plugin.address)
    ⟨m.world.setRuntime plugin next.1, Function.update m.point plugin.address next.2⟩
  else m

theorem Runtime.not_active_of_exited {runtime : Runtime} {point : ThreadPoint}
    (h : runtime.process = .exited) : ¬ runtime.Active point := by
  simp [Active, Live, h]

theorem ThreadEvent.live_of_act {event : ThreadEvent} {runtime : Runtime} {point : ThreadPoint}
    (hevent : event ≠ .fork)
    (h : (event.act runtime point).1.Live (event.act runtime point).2) : runtime.Live point := by
  revert h
  fun_cases act event runtime point
  case case1 => exact absurd rfl hevent
  all_goals simp_all [Runtime.Live, ThreadPoint.Hides]

theorem ThreadEvent.live_of_act_fork {runtime : Runtime} {point : ThreadPoint}
    (hnot : ¬ (point = .waiting ∧ 0 < runtime.starts))
    (h : (fork.act runtime point).1.Live (fork.act runtime point).2) : runtime.Live point := by
  cases point with
  | waiting =>
    have hstarts : ¬ 0 < runtime.starts := fun hstarts => hnot ⟨rfl, hstarts⟩
    simpa only [act, if_neg hstarts] using h
  | _ => exact h

theorem ThreadEvent.active_of_act {event : ThreadEvent} {runtime : Runtime} {point : ThreadPoint}
    (h : (event.act runtime point).1.Active (event.act runtime point).2) :
    runtime.Active point := by
  revert h
  fun_cases act event runtime point
  all_goals simp_all [Runtime.Active, Runtime.Live, ThreadPoint.Hides]

section Events

variable (event : ThreadEvent) (plugin : LocalPluginRunner) (m : Machine)

theorem ThreadEvent.apply_world :
    (event.apply plugin m).world.registry = m.world.registry ∧
      (event.apply plugin m).world.runners = m.world.runners ∧
      (event.apply plugin m).world.next = m.world.next := by
  unfold apply
  split <;> exact ⟨rfl, rfl, rfl⟩

theorem ThreadEvent.apply_of_unbuilt {plugin : LocalPluginRunner} {m : Machine}
    (hnext : m.world.next ≤ plugin.address) (event : ThreadEvent) : event.apply plugin m = m :=
  if_neg (Nat.not_lt.mpr hnext)

theorem ThreadEvent.apply_of_ne {address : ℕ} (hne : address ≠ plugin.address) :
    (event.apply plugin m).world.runtime address = m.world.runtime address ∧
      (event.apply plugin m).point address = m.point address := by
  unfold apply
  split
  · exact ⟨Function.update_of_ne hne .., Function.update_of_ne hne ..⟩
  · exact ⟨rfl, rfl⟩

theorem ThreadEvent.apply_built {event : ThreadEvent} {plugin : LocalPluginRunner} {m : Machine}
    (h : plugin.address < m.world.next) :
    (event.apply plugin m).world.runtime plugin.address =
        (event.act (m.world.runtime plugin.address) (m.point plugin.address)).1 ∧
      (event.apply plugin m).point plugin.address =
        (event.act (m.world.runtime plugin.address) (m.point plugin.address)).2 := by
  unfold apply
  rw [if_pos h]
  exact ⟨Function.update_self .., Function.update_self ..⟩

theorem ThreadEvent.apply_self :
    event.apply plugin m = m ∨
      (event.apply plugin m).world.runtime plugin.address =
          (event.act (m.world.runtime plugin.address) (m.point plugin.address)).1 ∧
        (event.apply plugin m).point plugin.address =
          (event.act (m.world.runtime plugin.address) (m.point plugin.address)).2 := by
  by_cases h : plugin.address < m.world.next
  · exact .inr (apply_built h)
  · exact .inl (if_neg h)

end Events

end Bartender
