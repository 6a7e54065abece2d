import Bartender.Plugins.Registry
import Mathlib.Logic.Function.Basic

/-!
# The state the plugin operations share

The registry, the runner objects with their threads and subprocesses, and the
documents of the database. Every operation of the manager, of the two monitors
and of the handler is a function on this state; what the operating system and
the plugins decide is an argument of the operation. The threads of the runners
have steps of their own in `Threads`.
-/

namespace Bartender

/-- A runner's subprocess, as `process` and `process.poll()` show it. -/
inductive Process
  | absent
  | alive
  | exited
  deriving DecidableEq, Repr

/-- What changes about a runner object: the calls of `start()`, the stop flag
of its thread and its subprocess. -/
structure Runtime where
  starts : ℕ
  stopped : Bool
  process : Process
  deriving DecidableEq, Repr

/-- The fields of an instance document that the operations write. -/
structure InstanceDocument where
  status : Status
  heartbeat : Option ℕ
  deriving DecidableEq, Repr

structure World where
  registry : Registry
  /-- Every runner object built so far. -/
  runners : List LocalPluginRunner
  /-- By address. -/
  runtime : ℕ → Runtime
  systems : List System
  /-- By id. -/
  instances : ℕ → Option InstanceDocument
  /-- The next address and document id. -/
  next : ℕ
  now : ℕ

def Runtime.fresh : Runtime := ⟨0, false, .absent⟩

/-- The document that `Instance(name=...)` saves. -/
def InstanceDocument.fresh : InstanceDocument := ⟨.initializing, none⟩

namespace World

def empty : World := ⟨[], [], fun _ => .fresh, [], fun _ => none, 0, 0⟩

variable (w : World) (plugin : LocalPluginRunner)

/-- The `status` property. A runner whose instance is not among its system's,
for which reading the status raises, is never built by the loader. -/
def status : Status :=
  match plugin.instance? with
  | some i => (w.instances i.id).elim .unknown (·.status)
  | none => .unknown

def document : Option InstanceDocument := plugin.instance?.bind fun i => w.instances i.id

def setInstanceStatus (id : ℕ) (status : Status) : World :=
  match w.instances id with
  | some document =>
    { w with instances := Function.update w.instances id (some { document with status := status }) }
  | none => w

/-- The `status` setter, which only logs when the document is gone. -/
def setStatus (status : Status) : World :=
  match plugin.instance? with
  | some i => w.setInstanceStatus i.id status
  | none => w

def setRuntime (runtime : Runtime) : World :=
  { w with runtime := Function.update w.runtime plugin.address runtime }

def Alive : Prop := (w.runtime plugin.address).process = .alive

instance : Decidable (w.Alive plugin) :=
  inferInstanceAs (Decidable ((w.runtime plugin.address).process = .alive))

/-- `start()` and, on the first call, what `run` does up to `Popen`, which spawns
the subprocess unless it fails. -/
def start (spawns : Bool) : World :=
  let runtime := w.runtime plugin.address
  w.setRuntime plugin
    { runtime with
      starts := runtime.starts + 1
      process := if runtime.starts = 0 ∧ spawns then .alive else runtime.process }

/-- `stop()`, which sets the stop flag. -/
def stop : World :=
  w.setRuntime plugin { w.runtime plugin.address with stopped := true }

def endProcess : World :=
  let runtime := w.runtime plugin.address
  w.setRuntime plugin
    { runtime with process := if runtime.process = .alive then .exited else runtime.process }

def addRunner (build : ℕ → LocalPluginRunner) : World × LocalPluginRunner :=
  let plugin := build w.next
  ({ w with
      runners := w.runners ++ [plugin]
      runtime := Function.update w.runtime w.next .fresh
      next := w.next + 1 }, plugin)

/-- `registry.remove(...)` and `registry.register_plugin(...)`. -/
def replaceInRegistry (newPlugin : LocalPluginRunner) : World :=
  { w with registry := (w.registry.remove plugin.uniqueName).registerPlugin newPlugin }

variable {w plugin}

theorem status_eq_document : w.status plugin = (w.document plugin).elim .unknown (·.status) := by
  unfold status document
  cases plugin.instance? <;> rfl

theorem getPlugin_replaceInRegistry (h : w.registry.Distinct) {newPlugin : LocalPluginRunner}
    (hname : newPlugin.uniqueName = plugin.uniqueName) :
    (w.replaceInRegistry plugin newPlugin).registry.getPlugin plugin.uniqueName =
      some newPlugin := by
  have hfree := h.getPlugin_remove_self plugin.uniqueName
  unfold replaceInRegistry
  rw [← hname] at hfree ⊢
  rw [Registry.registerPlugin_of_none hfree]
  exact Registry.getPlugin_append_of_none hfree

@[simp] theorem setInstanceStatus_registry (id : ℕ) (status : Status) :
    (w.setInstanceStatus id status).registry = w.registry := by
  unfold setInstanceStatus
  split <;> rfl

@[simp] theorem setInstanceStatus_runners (id : ℕ) (status : Status) :
    (w.setInstanceStatus id status).runners = w.runners := by
  unfold setInstanceStatus
  split <;> rfl

@[simp] theorem setInstanceStatus_runtime (id : ℕ) (status : Status) :
    (w.setInstanceStatus id status).runtime = w.runtime := by
  unfold setInstanceStatus
  split <;> rfl

@[simp] theorem setInstanceStatus_next (id : ℕ) (status : Status) :
    (w.setInstanceStatus id status).next = w.next := by
  unfold setInstanceStatus
  split <;> rfl

@[simp] theorem setStatus_registry (status : Status) :
    (w.setStatus plugin status).registry = w.registry := by
  unfold setStatus
  split <;> simp

@[simp] theorem setStatus_runners (status : Status) :
    (w.setStatus plugin status).runners = w.runners := by
  unfold setStatus
  split <;> simp

@[simp] theorem setStatus_runtime (status : Status) :
    (w.setStatus plugin status).runtime = w.runtime := by
  unfold setStatus
  split <;> simp

@[simp] theorem setStatus_next (status : Status) :
    (w.setStatus plugin status).next = w.next := by
  unfold setStatus
  split <;> simp

theorem setRuntime_runtime_self (runtime : Runtime) :
    (w.setRuntime plugin runtime).runtime plugin.address = runtime := by
  simp [setRuntime]

theorem setRuntime_runtime_of_ne {other : LocalPluginRunner} (runtime : Runtime)
    (hne : other.address ≠ plugin.address) :
    (w.setRuntime plugin runtime).runtime other.address = w.runtime other.address := by
  simp [setRuntime, hne]

/-- How often `start()` was called on the object at an address. -/
def starts (w : World) (address : ℕ) : ℕ := (w.runtime address).starts

@[simp] theorem starts_setStatus (status : Status) (address : ℕ) :
    (w.setStatus plugin status).starts address = w.starts address := by
  simp [starts]

@[simp] theorem starts_stop (address : ℕ) : (w.stop plugin).starts address = w.starts address := by
  by_cases h : address = plugin.address <;> simp [starts, stop, setRuntime, h]

@[simp] theorem starts_endProcess (address : ℕ) :
    (w.endProcess plugin).starts address = w.starts address := by
  by_cases h : address = plugin.address <;> simp [starts, endProcess, setRuntime, h]

theorem starts_start_self (spawns : Bool) :
    (w.start plugin spawns).starts plugin.address = w.starts plugin.address + 1 := by
  simp [starts, start, setRuntime]

theorem starts_start_of_ne (spawns : Bool) {address : ℕ} (hne : address ≠ plugin.address) :
    (w.start plugin spawns).starts address = w.starts address := by
  simp [starts, start, setRuntime, hne]

/-- The plugin's instance document exists and holds this status. -/
def Stored (w : World) (plugin : LocalPluginRunner) (status : Status) : Prop :=
  ∃ i document, plugin.instance? = some i ∧ w.instances i.id = some document ∧
    document.status = status

theorem Stored.status_eq {status : Status} (h : Stored w plugin status) :
    w.status plugin = status := by
  obtain ⟨i, document, hinstance, hdocument, rfl⟩ := h
  simp [World.status, hinstance, hdocument]

theorem stored_of_status_ne {status : Status} (h : w.status plugin = status)
    (hne : status ≠ .unknown) : Stored w plugin status := by
  unfold World.status at h
  cases hinstance : plugin.instance? with
  | none =>
    rw [hinstance] at h
    exact absurd h.symm hne
  | some i =>
    cases hdocument : w.instances i.id with
    | none =>
      rw [hinstance] at h
      simp only [hdocument, Option.elim_none] at h
      exact absurd h.symm hne
    | some document =>
      rw [hinstance] at h
      simp only [hdocument, Option.elim_some] at h
      exact ⟨i, document, hinstance, hdocument, h⟩

theorem Stored.setStatus {status : Status} (h : Stored w plugin status) (status' : Status) :
    Stored (w.setStatus plugin status') plugin status' := by
  obtain ⟨i, document, hinstance, hdocument, rfl⟩ := h
  refine ⟨i, { document with status := status' }, hinstance, ?_, rfl⟩
  simp [World.setStatus, World.setInstanceStatus, hinstance, hdocument]

theorem Stored.stop {status : Status} (h : Stored w plugin status) :
    Stored (w.stop plugin) plugin status := h

/-- One registered plugin, whose instance has id zero. -/
def single (plugin : LocalPluginRunner) (status : Status) (runtime : Runtime) : World where
  registry := [plugin]
  runners := [plugin]
  runtime := fun _ => runtime
  systems := [plugin.system]
  instances := fun id => if id = 0 then some ⟨status, none⟩ else none
  next := 1
  now := 0

end World
end Bartender
