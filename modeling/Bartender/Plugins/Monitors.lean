import Bartender.Plugins.Manager

/-!
# The monitors and the handler's instance operations

`LocalPluginMonitor` looks at the registered runners, `PluginStatusMonitor` at
the instance documents; the handler finds the plugin of an instance through the
database and the registry. Each is one function on the shared state.
-/

namespace Bartender

section Monitor

variable (popen : ℕ → Bool) (shutdown : ℕ → Shutdown)

/-- One round of `LocalPluginMonitor.monitor`. -/
def monitorPlugin (plugin : LocalPluginRunner) (w : World) : Except StartError Unit × World :=
  let runtime := w.runtime plugin.address
  if runtime.process = .exited ∧ runtime.stopped = false then
    match w.status plugin with
    | .running =>
      match restartPlugin popen (shutdown plugin.address) plugin (w.setStatus plugin .dead) with
      | (.ok _, w) => (.ok (), w)
      | (.error e, w) => (.error e, w)
    | .starting => (.ok (), w.setStatus plugin .dead)
    | _ => (.ok (), w)
  else (.ok (), w)

/-- The loop over a copy of the registry; an exception ends it. -/
def monitorPlugins : List LocalPluginRunner → World → Except StartError Unit × World
  | [], w => (.ok (), w)
  | plugin :: rest, w =>
    match monitorPlugin popen shutdown plugin w with
    | (.ok (), w) => monitorPlugins rest w
    | (.error e, w) => (.error e, w)

/-- `monitor`, which looks at that many plugins before it finds itself stopped. -/
def monitor (visits : ℕ) (w : World) : Except StartError Unit × World :=
  monitorPlugins popen shutdown (w.registry.getAllPlugins.take visits) w

end Monitor

/-- What `check_status` does with one instance, at a time and with a timeout. -/
def checkInstance (timeout now : ℕ) (document : InstanceDocument) : InstanceDocument :=
  match document.heartbeat with
  | none => document
  | some lastHeartbeat =>
    if document.status = .running ∧ lastHeartbeat + timeout ≤ now then
      { document with status := .unresponsive }
    else if document.status ∈ [Status.unresponsive, .starting, .initializing, .unknown] ∧
        now < lastHeartbeat + timeout then
      { document with status := .running }
    else document

/-- `PluginStatusMonitor.check_status`, on the instances visited before it
finds itself stopped. -/
def checkStatus (timeout : ℕ) (visited : ℕ → Bool) (w : World) : World :=
  { w with instances := fun id =>
      if visited id then (w.instances id).map (checkInstance timeout w.now) else w.instances id }

/-- `_get_plugin_from_instance_id`. -/
def getPluginFromInstanceId (id : ℕ) (w : World) : Option LocalPluginRunner := do
  let _ ← w.instances id
  let system ← w.systems.find? fun s => s.instances.any fun i => i.id == id
  let i ← system.instances.find? fun i => i.id == id
  w.registry.getPlugin (getUniqueName system.name system.version i.name)

/-- What is done to the shared state as a whole: the handler's operations, the
monitors' passes, and what the plugins and time do. -/
inductive InstanceOperation
  | startInstance (id : ℕ) (spawns : Bool)
  | stopInstance (id : ℕ) (shutdown : Shutdown)
  | initializeInstance (id : ℕ)
  | monitor (visits : ℕ) (popen : ℕ → Bool) (shutdown : ℕ → Shutdown)
  | checkStatus (timeout : ℕ) (visited : ℕ → Bool)
  | exit (plugin : LocalPluginRunner)
  | heartbeat (id : ℕ)
  | reportStopped (id : ℕ)
  | wait (time : ℕ)

/-- The document is overwritten, and a plugin that is gone raises before. -/
def World.updateInstance (w : World) (id : ℕ) (update : InstanceDocument → InstanceDocument) :
    World :=
  { w with instances := Function.update w.instances id ((w.instances id).map update) }

namespace InstanceOperation

/-- The state afterwards. Exceptions end the operation and nothing else. -/
def apply : InstanceOperation → World → World
  | .startInstance id spawns, w =>
    match getPluginFromInstanceId id w with
    | some plugin => (startPlugin (fun _ => spawns) plugin w).2
    | none => w
  | .stopInstance id shutdown, w =>
    match getPluginFromInstanceId id w with
    | some plugin => stopPlugin shutdown plugin w
    | none => w
  | .initializeInstance id, w =>
    w.updateInstance id fun _ => ⟨.initializing, some w.now⟩
  | .monitor visits popen shutdown, w => (Bartender.monitor popen shutdown visits w).2
  | .checkStatus timeout visited, w => Bartender.checkStatus timeout visited w
  | .exit plugin, w => w.endProcess plugin
  | .heartbeat id, w =>
    w.updateInstance id fun document => { document with heartbeat := some w.now }
  | .reportStopped id, w =>
    w.updateInstance id fun document => { document with status := .stopped }
  | .wait time, w => { w with now := w.now + time }

end InstanceOperation

end Bartender
