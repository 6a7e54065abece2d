import Bartender.Broker.Pyrabbit
import Bartender.Plugins.Monitors
import Bartender.Plugins.Steps
import Bartender.Plugins.Tracking

/-!
# Removing a system

`BartenderHandler.removeSystem` stops the local plugins of a system, or asks a
remote one to stop, then destroys the queues of its instances and deletes it.
What goes wrong on the way may not keep it from the rest.

Of `deep_delete` of `bg_utils` it is assumed that it deletes the documents of the
system's instances and of the system, and nothing else; it may raise in between.
-/

namespace Bartender

open Attempts

/-- An entry of `queue_info`. -/
structure QueueEntry where
  name : Option String
  deriving DecidableEq, Repr

/-- `queue_info`, whose entries are missing until the instance is initialized. -/
structure QueueInfo where
  request : Option QueueEntry
  admin : Option QueueEntry
  deriving DecidableEq, Repr

namespace QueueInfo

/-- `queue_info.get("request", {}).get("name")`. -/
def requestQueue (info : QueueInfo) : Option String := info.request.bind (·.name)

def adminQueue (info : QueueInfo) : Option String := info.admin.bind (·.name)

end QueueInfo

/-- What the handler works on, with the calls it has made. -/
structure Backend (β : Type) where
  world : World
  /-- By instance id. -/
  queueInfo : ℕ → QueueInfo
  session : Session β
  /-- The calls of `stop_plugin`. -/
  stops : List StopCall
  /-- The calls of `deep_delete`. -/
  deleted : List System

def Backend.initial {β : Type} (w : World) (queueInfo : ℕ → QueueInfo) (broker : β) :
    Backend β :=
  ⟨w, queueInfo, ⟨broker, []⟩, [], []⟩

inductive HandlerError
  | invalidSystem
  /-- Reloading a system that is gone. -/
  | doesNotExist
  /-- The reference to an instance that is gone has no status. -/
  | attributeError
  | publish
  | management (error : ApiError)
  | database
  deriving DecidableEq, Repr

/-- How `deep_delete` ends: an exception may come after some of the instances, or
the system, were deleted. -/
inductive Deletion
  | returns
  | raises (instances : ℕ → Bool) (system : Bool)

/-- What the plugins and the broker do meanwhile. -/
structure Circumstances where
  /-- By the runner's address. -/
  shutdown : ℕ → Shutdown
  remoteStopPublished : Bool
  /-- `plugin.local.timeout.shutdown`, in seconds. -/
  timeout : ℕ
  /-- The instances that report `STOPPED` in each second of waiting. -/
  reports : ℕ → List ℕ

namespace World

variable (w : World)

/-- The instances of a system with their documents; none if one is gone. -/
def loadInstances (system : System) : Option (List (Instance × InstanceDocument)) :=
  system.instances.mapM fun i => (w.instances i.id).map fun document => (i, document)

def deleteSystem (system : System) : World :=
  { w with systems := w.systems.filter fun s => s.id != system.id }

/-- What `deep_delete` has deleted when it ends. -/
def deepDelete (system : System) : Deletion → World
  | .returns => (w.deleteInstances system).deleteSystem system
  | .raises instances gone =>
    let w := w.deleteInstances
      { system with instances := system.instances.filter fun i => instances i.id }
    if gone then w.deleteSystem system else w

def reportStopped (id : ℕ) : World :=
  w.updateInstance id fun document => { document with status := .stopped }

end World

namespace BartenderHandler

variable {β : Type} (api : ManagementApi β) (circumstances : Circumstances)

def onSession (x : Program (Session β) ApiError Unit) :
    Program (Backend β) HandlerError Unit := fun b =>
  let (result, session) := exec x b.session
  (result.mapError .management, { b with session := session })

/-- `System.objects.get`, or `reload()`, with what it raises. -/
def getSystem (id : ℕ) (error : HandlerError) : Program (Backend β) HandlerError System := do
  match (← get).world.systems.find? fun s => s.id == id with
  | some system => pure system
  | none => throw error

def getInstances (system : System) :
    Program (Backend β) HandlerError (List (Instance × InstanceDocument)) := do
  match (← get).world.loadInstances system with
  | some instances => pure instances
  | none => throw .attributeError

def stopPlugin (plugin : LocalPluginRunner) : Program (Backend β) HandlerError Unit :=
  modify fun b =>
    let (call, world) := (circumstances.shutdown plugin.address).run plugin b.world
    { b with world := world, stops := b.stops ++ [call] }

def removePlugin (plugin : LocalPluginRunner) : Program (Backend β) HandlerError Unit :=
  modify fun b =>
    { b with world := { b.world with registry := b.world.registry.remove plugin.uniqueName } }

/-- `sleep(1)`, for one of the seconds of waiting. -/
def sleep (count : ℕ) : Program (Backend β) HandlerError Unit :=
  modify fun b =>
    let world := (circumstances.reports count).foldl World.reportStopped b.world
    { b with world := { world with now := world.now + 1 } }

/-- The `while` loop of `removeSystem`, with the seconds that are left. The
statuses are looked at before the seconds are. -/
def awaitStopped : ℕ → System → Program (Backend β) HandlerError Unit
  | 0, system => do
    let _ ← getInstances system
    pure ()
  | left + 1, system => do
    let instances ← getInstances system
    if instances.any fun i => i.2.status != .stopped then do
      sleep circumstances (circumstances.timeout - (left + 1))
      let system ← getSystem system.id .doesNotExist
      awaitStopped left system
    else pure ()

def destroyQueues (entry : Instance × InstanceDocument) :
    Program (Backend β) HandlerError Unit := do
  let info := (← get).queueInfo entry.1.id
  let forceDisconnect := entry.2.status != .stopped
  onSession (PyrabbitClient.destroyQueue api info.requestQueue forceDisconnect)
  onSession (PyrabbitClient.destroyQueue api info.adminQueue forceDisconnect)

def deepDelete (deletion : Deletion) (system : System) :
    Program (Backend β) HandlerError Unit := do
  modify fun b =>
    { b with world := b.world.deepDelete system deletion, deleted := b.deleted ++ [system] }
  match deletion with
  | .returns => pure ()
  | .raises _ _ => throw .database

/-- The part of `removeSystem` before the queues. -/
def stopSystem (system : System) : Program (Backend β) HandlerError Unit := do
  match (← get).world.registry.getPluginsBySystem system.name system.version with
  | [] => do
    (if circumstances.remoteStopPublished then pure () else throw .publish)
    awaitStopped circumstances circumstances.timeout system
  | registered => registered.forM fun plugin => do
    stopPlugin circumstances plugin
    removePlugin plugin

def removeSystem (deletion : Deletion) (systemId : ℕ) :
    Program (Backend β) HandlerError Unit := do
  let system ← getSystem systemId .invalidSystem
  stopSystem circumstances system
  let system ← getSystem systemId .doesNotExist
  let instances ← getInstances system
  instances.forM (destroyQueues api)
  deepDelete deletion system

end BartenderHandler

structure SameDocuments (w w' : World) : Prop where
  systems : w'.systems = w.systems
  instances : ∀ id, (w'.instances id).isSome = (w.instances id).isSome

section SameDocuments

variable {w w' w'' : World} {plugin : LocalPluginRunner}

theorem SameDocuments.refl (w : World) : SameDocuments w w := ⟨rfl, fun _ => rfl⟩

theorem SameDocuments.trans (h : SameDocuments w w') (h' : SameDocuments w' w'') :
    SameDocuments w w'' where
  systems := h'.systems.trans h.systems
  instances id := (h'.instances id).trans (h.instances id)

theorem sameDocuments_setStatus (plugin : LocalPluginRunner) (status : Status) (w : World) :
    SameDocuments w (w.setStatus plugin status) := by
  unfold World.setStatus World.setInstanceStatus
  split
  · split
    · rename_i i _ _ _ hdocument
      refine ⟨rfl, fun id => ?_⟩
      by_cases hid : id = i.id
      · subst hid
        simp [hdocument]
      · simp [hid]
    · exact .refl w
  · exact .refl w

theorem sameDocuments_reportStopped (id : ℕ) (w : World) :
    SameDocuments w (w.reportStopped id) := by
  refine ⟨rfl, fun other => ?_⟩
  by_cases hid : other = id <;> simp [World.reportStopped, World.updateInstance, hid]

theorem reportStopped_keeps (ids : List ℕ) (w : World) :
    SameDocuments w (ids.foldl World.reportStopped w) ∧
      (ids.foldl World.reportStopped w).registry = w.registry := by
  induction ids generalizing w with
  | nil => exact ⟨.refl w, rfl⟩
  | cons id ids ih =>
    obtain ⟨hdocuments, hregistry⟩ := ih (w.reportStopped id)
    exact ⟨(sameDocuments_reportStopped id w).trans hdocuments, hregistry⟩

theorem sameDocuments_stopPlugin (shutdown : Shutdown) (plugin : LocalPluginRunner) (w : World) :
    SameDocuments w (stopPlugin shutdown plugin w) := by
  have hif : ∀ (c : Prop) [Decidable c] (a b : World), SameDocuments w a → SameDocuments w b →
      SameDocuments w (if c then a else b) := by
    intro c _ a b ha hb
    split
    · exact ha
    · exact hb
  have hset : ∀ (a : World) (status : Status), SameDocuments w a →
      SameDocuments w (a.setStatus plugin status) :=
    fun a status ha => ha.trans (sameDocuments_setStatus plugin status a)
  have hstop : ∀ a : World, SameDocuments w a → SameDocuments w (a.stop plugin) :=
    fun a ha => ⟨ha.systems, ha.instances⟩
  have hend : ∀ a : World, SameDocuments w a → SameDocuments w (a.endProcess plugin) :=
    fun a ha => ⟨ha.systems, ha.instances⟩
  unfold stopPlugin stopFinally
  split
  · exact hend w (.refl w)
  · exact hend w (.refl w)
  · exact hend w (.refl w)
  · have hmarked := hif (w.status plugin = .unknown) w (w.setStatus plugin .stopping) (.refl w)
      (hset w .stopping (.refl w))
    have hstopped := hif (shutdown.stopReturns = true) _ _ (hstop _ hmarked) hmarked
    have hreported := hif (shutdown.reportsStopped = true) _ _ (hset _ .stopped hstopped) hstopped
    have hended := hend _ hreported
    exact hif (shutdown.clean = true) _ _ hended (hset _ .dead hended)

theorem SameDocuments.getSystem {id : ℕ} {system : System} (h : SameDocuments w w')
    (hsystem : w.systems.find? (fun s => s.id == id) = some system) :
    w'.systems.find? (fun s => s.id == id) = some system := by
  rw [h.systems]
  exact hsystem

theorem loadInstances_eq_some_iff {system : System}
    {entries : List (Instance × InstanceDocument)} :
    w.loadInstances system = some entries ↔ entries.map Prod.fst = system.instances ∧
      ∀ entry ∈ entries, w.instances entry.1.id = some entry.2 := by
  unfold World.loadInstances
  induction system.instances generalizing entries with
  | nil => cases entries <;> simp
  | cons i is ih =>
    simp only [List.mapM_cons, Option.bind_eq_bind, Option.bind_eq_some_iff,
      Option.map_eq_some_iff, Option.pure_def, Option.some.injEq]
    constructor
    · rintro ⟨_, ⟨document, hdocument, rfl⟩, rest, hrest, rfl⟩
      obtain ⟨hfst, hentries⟩ := ih.mp hrest
      exact ⟨by rw [List.map_cons, hfst], List.forall_mem_cons.mpr ⟨hdocument, hentries⟩⟩
    · rintro ⟨hfst, hentries⟩
      obtain ⟨⟨_, document⟩, rest, rfl, rfl, hrest⟩ := List.map_eq_cons_iff.mp hfst
      obtain ⟨hdocument, hentries⟩ := List.forall_mem_cons.mp hentries
      exact ⟨_, ⟨document, hdocument, rfl⟩, rest, ih.mpr ⟨hrest, hentries⟩, rfl⟩

theorem exists_loadInstances {system : System}
    (hinstances : ∀ i ∈ system.instances, (w.instances i.id).isSome) :
    ∃ entries, w.loadInstances system = some entries ∧
      entries.map Prod.fst = system.instances := by
  let entries := system.instances.map fun i => (i, (w.instances i.id).getD .fresh)
  have hfst : entries.map Prod.fst = system.instances := by
    rw [List.map_map]
    exact List.map_id _
  refine ⟨entries, loadInstances_eq_some_iff.mpr ⟨hfst, fun entry hentry => ?_⟩, hfst⟩
  obtain ⟨i, hi, rfl⟩ := List.mem_map.mp hentry
  obtain ⟨document, hdocument⟩ := Option.isSome_iff_exists.mp (hinstances i hi)
  simp [hdocument]

end SameDocuments

namespace BartenderHandler

variable {β : Type} {api : ManagementApi β} {circumstances : Circumstances} {b b' b'' : Backend β}

structure OnlyPlugins (b b' : Backend β) : Prop where
  documents : SameDocuments b.world b'.world
  queueInfo : b'.queueInfo = b.queueInfo
  session : b'.session = b.session
  deleted : b'.deleted = b.deleted

theorem OnlyPlugins.refl (b : Backend β) : OnlyPlugins b b := ⟨.refl _, rfl, rfl, rfl⟩

theorem OnlyPlugins.trans (h : OnlyPlugins b b') (h' : OnlyPlugins b' b'') :
    OnlyPlugins b b'' where
  documents := h.documents.trans h'.documents
  queueInfo := h'.queueInfo.trans h.queueInfo
  session := h'.session.trans h.session
  deleted := h'.deleted.trans h.deleted

/-- The call is over; it has killed the plugin if its thread was alive then. -/
def Stopped (circumstances : Circumstances) (plugin : LocalPluginRunner) (call : StopCall) : Prop :=
  call.plugin = plugin ∧ call.point = .finished ∧
    call.killed = (circumstances.shutdown plugin.address).threadAlive

theorem returns_getSystem {id : ℕ} {system : System} (error : HandlerError)
    (h : b.world.systems.find? (fun s => s.id == id) = some system) :
    Returns (getSystem id error) b fun s b' => s = system ∧ b' = b := by
  refine ⟨system, b, ?_, rfl, rfl⟩
  unfold getSystem
  rw [exec_bind, exec_get]
  simp only [h]
  rfl

theorem returns_getInstances {system : System}
    (h : ∀ i ∈ system.instances, (b.world.instances i.id).isSome) :
    Returns (getInstances system) b fun entries b' =>
      entries.map Prod.fst = system.instances ∧ b' = b := by
  obtain ⟨entries, hload, hfst⟩ := exists_loadInstances h
  refine ⟨entries, b, ?_, hfst, rfl⟩
  unfold getInstances
  rw [exec_bind, exec_get]
  simp only [hload]
  rfl

/-- The loop over the registered plugins. -/
theorem returns_stopRegistered (plugins : List LocalPluginRunner) (hstops : b.stops = []) :
    Returns (plugins.forM fun plugin => do
        stopPlugin circumstances plugin
        removePlugin plugin) b fun _ b' =>
      OnlyPlugins b b' ∧ List.Forall₂ (Stopped circumstances) plugins b'.stops ∧
        b'.world.registry =
          (plugins.map (·.uniqueName)).foldl Registry.remove b.world.registry := by
  refine returns_forM (I := fun done b' => OnlyPlugins b b' ∧
    List.Forall₂ (Stopped circumstances) done b'.stops ∧
      b'.world.registry = (done.map (·.uniqueName)).foldl Registry.remove b.world.registry) ?_ ?_
  · rintro done plugin b₁ - ⟨honly, hcalls, hregistry⟩
    refine (returns_modify _ b₁).bind fun _ b₂ h₂ => ?_
    refine (returns_modify _ b₂).imp fun _ b₃ h₃ => ?_
    obtain ⟨call, hrun, hstopped⟩ :=
      Shutdown.finishes_begin (circumstances.shutdown plugin.address) plugin b₁.world
    have hdocuments :=
      sameDocuments_stopPlugin (circumstances.shutdown plugin.address) plugin b₁.world
    have hquiet := quiet_stopPlugin (circumstances.shutdown plugin.address) plugin b₁.world
    have hcall : b₂ = { b₁ with
        world := Bartender.stopPlugin (circumstances.shutdown plugin.address) plugin b₁.world
        stops := b₁.stops ++ [call] } := by
      rw [h₂]
      simp only [Shutdown.run, hrun]
    rw [h₃, hcall]
    refine ⟨⟨honly.documents.trans ⟨hdocuments.systems, hdocuments.instances⟩, honly.queueInfo,
      honly.session, honly.deleted⟩, ?_, ?_⟩
    · exact List.rel_append hcalls (.cons hstopped .nil)
    · simp only [List.map_append, List.foldl_append, ← hregistry]
      rw [hquiet.registry]
      rfl
  · exact ⟨.refl b, by rw [hstops]; exact .nil, rfl⟩

theorem returns_awaitStopped (left : ℕ) {system : System}
    (hsystem : b.world.systems.find? (fun s => s.id == system.id) = some system)
    (hinstances : ∀ i ∈ system.instances, (b.world.instances i.id).isSome) :
    Returns (awaitStopped circumstances left system) b fun _ b' =>
      OnlyPlugins b b' ∧ b'.stops = b.stops ∧ b'.world.registry = b.world.registry := by
  induction left generalizing b with
  | zero =>
    refine (returns_getInstances hinstances).bind fun entries b₁ h₁ => ?_
    exact returns_pure ⟨h₁.2 ▸ .refl b₁, by rw [h₁.2], by rw [h₁.2]⟩
  | succ left ih =>
    refine (returns_getInstances hinstances).bind fun entries b₁ h₁ => ?_
    obtain ⟨-, rfl⟩ := h₁
    split
    · refine (returns_modify _ b₁).bind fun _ b₂ h₂ => ?_
      obtain ⟨hdocuments, hregistry⟩ := reportStopped_keeps
        (circumstances.reports (circumstances.timeout - (left + 1))) b₁.world
      have hslept : OnlyPlugins b₁ b₂ := by
        rw [h₂]
        exact ⟨⟨hdocuments.systems, hdocuments.instances⟩, rfl, rfl, rfl⟩
      have hfound := hslept.documents.getSystem hsystem
      refine (returns_getSystem .doesNotExist hfound).bind fun s b₃ h₃ => ?_
      obtain ⟨rfl, rfl⟩ := h₃
      have hloaded : ∀ i ∈ s.instances, (b₃.world.instances i.id).isSome :=
        fun i hi => (hslept.documents.instances i.id).trans (hinstances i hi)
      refine (ih hfound hloaded).imp fun _ b₄ h₄ => ?_
      obtain ⟨honly, hstops, hsame⟩ := h₄
      refine ⟨hslept.trans honly, hstops.trans (by rw [h₂]), hsame.trans ?_⟩
      rw [h₂]
      exact hregistry
    · exact returns_pure ⟨.refl b₁, rfl, rfl⟩

/-- The plugins of the system are stopped and gone from the registry, or there
were none and the remote ones were asked. -/
theorem returns_stopSystem {system : System} (hstops : b.stops = [])
    (hdistinct : b.world.registry.Distinct)
    (hsystem : b.world.systems.find? (fun s => s.id == system.id) = some system)
    (hinstances : ∀ i ∈ system.instances, (b.world.instances i.id).isSome)
    (hremote : b.world.registry.getPluginsBySystem system.name system.version = [] →
      circumstances.remoteStopPublished = true) :
    Returns (stopSystem circumstances system) b fun _ b' =>
      OnlyPlugins b b' ∧
        List.Forall₂ (Stopped circumstances)
          (b.world.registry.getPluginsBySystem system.name system.version) b'.stops ∧
        b'.world.registry = b.world.registry.filter fun p =>
          !(p.system.name == system.name && p.system.version == system.version) := by
  have hread : exec (stopSystem circumstances system) b = exec
      (match b.world.registry.getPluginsBySystem system.name system.version with
        | [] => do
          (if circumstances.remoteStopPublished then pure () else throw .publish)
          awaitStopped circumstances circumstances.timeout system
        | registered => registered.forM fun plugin => do
          stopPlugin circumstances plugin
          removePlugin plugin) b := by
    unfold stopSystem
    rw [exec_bind, exec_get]
  unfold Returns
  rw [hread, ← hdistinct.remove_getPluginsBySystem]
  cases hregistered : b.world.registry.getPluginsBySystem system.name system.version with
  | nil =>
    simp only [hremote hregistered, if_true]
    refine (returns_awaitStopped circumstances.timeout hsystem hinstances).imp fun _ b' h => ?_
    exact ⟨h.1, by rw [h.2.1, hstops]; exact .nil, h.2.2⟩
  | cons plugin plugins => exact returns_stopRegistered (plugin :: plugins) hstops

/-- Only calls to the management API were made, and they are on record. -/
structure OnlyBroker (b b' : Backend β) : Prop where
  world : b'.world = b.world
  queueInfo : b'.queueInfo = b.queueInfo
  appends : PyrabbitClient.Appends b.session b'.session
  stops : b'.stops = b.stops
  deleted : b'.deleted = b.deleted

theorem OnlyBroker.refl (b : Backend β) : OnlyBroker b b :=
  ⟨rfl, rfl, List.prefix_refl _, rfl, rfl⟩

theorem OnlyBroker.trans (h : OnlyBroker b b') (h' : OnlyBroker b' b'') : OnlyBroker b b'' where
  world := h'.world.trans h.world
  queueInfo := h'.queueInfo.trans h.queueInfo
  appends := h.appends.trans h'.appends
  stops := h'.stops.trans h.stops
  deleted := h'.deleted.trans h.deleted

/-- The deletion of the queues that the instance names was asked for. -/
def Attempted (b : Backend β) (i : Instance) : Prop :=
  ∀ name, ((b.queueInfo i.id).requestQueue = some name ∨
    (b.queueInfo i.id).adminQueue = some name) → ApiCall.deleteQueue name ∈ b.session.calls

theorem Attempted.mono {i : Instance} (h : Attempted b i) (hbroker : OnlyBroker b b') :
    Attempted b' i := by
  intro name hname
  rw [hbroker.queueInfo] at hname
  exact hbroker.appends.mem (h name hname)

theorem returns_onSession {x : Program (Session β) ApiError Unit} {Q : Session β → Prop}
    (h : Returns x b.session fun _ session => Q session) :
    Returns (onSession x) b fun _ b' => b' = { b with session := b'.session } ∧ Q b'.session := by
  obtain ⟨_, session, hexec, hpost⟩ := h
  refine ⟨(), { b with session := session }, ?_, rfl, hpost⟩
  unfold exec onSession
  show ((exec x b.session).1.mapError _, { b with session := (exec x b.session).2 }) = _
  rw [hexec]
  rfl

theorem returns_destroyQueue (queueName : Option String) (forceDisconnect : Bool)
    (b : Backend β) :
    Returns (onSession (PyrabbitClient.destroyQueue api queueName forceDisconnect)) b fun _ b' =>
      OnlyBroker b b' ∧
        ∀ name, queueName = some name → ApiCall.deleteQueue name ∈ b'.session.calls := by
  refine (returns_onSession
    (PyrabbitClient.returns_destroyQueue queueName forceDisconnect b.session)).imp fun _ b' h => ?_
  obtain ⟨hb', happends, hcalls⟩ := h
  refine ⟨?_, hcalls⟩
  rw [hb']
  exact ⟨rfl, rfl, happends, rfl, rfl⟩

theorem returns_destroyQueues (entry : Instance × InstanceDocument) (b : Backend β) :
    Returns (destroyQueues api entry) b fun _ b' => OnlyBroker b b' ∧ Attempted b' entry.1 := by
  have hread : exec (destroyQueues api entry) b = exec (do
      onSession (PyrabbitClient.destroyQueue api (b.queueInfo entry.1.id).requestQueue
        (entry.2.status != .stopped))
      onSession (PyrabbitClient.destroyQueue api (b.queueInfo entry.1.id).adminQueue
        (entry.2.status != .stopped))) b := by
    unfold destroyQueues
    rw [exec_bind, exec_get]
  unfold Returns
  rw [hread]
  refine (returns_destroyQueue _ _ b).bind fun _ b₁ h₁ => ?_
  refine (returns_destroyQueue _ _ b₁).imp fun _ b₂ h₂ => ?_
  refine ⟨h₁.1.trans h₂.1, ?_⟩
  rintro name (hrequest | hadmin)
  · rw [h₂.1.queueInfo, h₁.1.queueInfo] at hrequest
    exact h₂.1.appends.mem (h₁.2 name hrequest)
  · rw [h₂.1.queueInfo, h₁.1.queueInfo] at hadmin
    exact h₂.2 name hadmin

theorem returns_forM_destroyQueues (entries : List (Instance × InstanceDocument))
    (b : Backend β) :
    Returns (entries.forM (destroyQueues api)) b fun _ b' =>
      OnlyBroker b b' ∧ ∀ entry ∈ entries, Attempted b' entry.1 := by
  refine returns_forM
    (I := fun (done : List (Instance × InstanceDocument)) b' =>
      OnlyBroker b b' ∧ ∀ entry ∈ done, Attempted b' entry.1) ?_ ?_
  · rintro done entry b' - ⟨hbroker, hattempted⟩
    refine (returns_destroyQueues entry b').imp fun _ b'' h => ?_
    refine ⟨hbroker.trans h.1, ?_⟩
    intro other hother
    rcases List.mem_append.mp hother with hdone | hself
    · exact (hattempted other hdone).mono h.1
    · rw [List.mem_singleton.mp hself]
      exact h.2
  · exact ⟨.refl b, fun entry hentry => absurd hentry List.not_mem_nil⟩

/-- What `removeSystem` leaves behind. -/
structure Removed (circumstances : Circumstances) (system : System) (b b' : Backend β) : Prop where
  registry : b'.world.registry = b.world.registry.filter fun p =>
    !(p.system.name == system.name && p.system.version == system.version)
  attempted : ∀ i ∈ system.instances, Attempted b' i
  stops : List.Forall₂ (Stopped circumstances)
    (b.world.registry.getPluginsBySystem system.name system.version) b'.stops
  deleted : b'.deleted = [system]

/-- Whatever goes wrong while its plugins are stopped and its queues destroyed,
a stored system is removed: `removeSystem` returns, the registry keeps exactly
the plugins of other systems, every queue was attempted, every live thread
killed, and the system deleted once. -/
theorem removeSystem_returns (api : ManagementApi β) (circumstances : Circumstances) (w : World)
    (queueInfo : ℕ → QueueInfo) (broker : β) {systemId : ℕ} {system : System}
    (hsystem : w.systems.find? (fun s => s.id == systemId) = some system)
    (hinstances : ∀ i ∈ system.instances, (w.instances i.id).isSome)
    (hdistinct : w.registry.Distinct)
    (hremote : w.registry.getPluginsBySystem system.name system.version = [] →
      circumstances.remoteStopPublished = true) :
    Returns (removeSystem api circumstances .returns systemId) (.initial w queueInfo broker)
        fun _ b' =>
      Removed circumstances system (.initial w queueInfo broker) b' := by
  have hid : system.id = systemId := by simpa using List.find?_some hsystem
  subst hid
  refine (returns_getSystem .invalidSystem hsystem).bind fun s b₁ h₁ => ?_
  obtain ⟨rfl, rfl⟩ := h₁
  refine (returns_stopSystem rfl hdistinct hsystem hinstances hremote).bind fun _ b₂ h₂ => ?_
  obtain ⟨honly, hstops, hregistry⟩ := h₂
  refine (returns_getSystem .doesNotExist (honly.documents.getSystem hsystem)).bind
    fun s' b₃ h₃ => ?_
  obtain ⟨rfl, rfl⟩ := h₃
  have hloaded : ∀ i ∈ s'.instances, (b₃.world.instances i.id).isSome :=
    fun i hi => (honly.documents.instances i.id).trans (hinstances i hi)
  refine (returns_getInstances hloaded).bind fun entries b₄ h₄ => ?_
  obtain ⟨hentries, rfl⟩ := h₄
  refine (returns_forM_destroyQueues entries b₄).bind fun _ b₅ h₅ => ?_
  obtain ⟨hbroker, hattempted⟩ := h₅
  refine (returns_modify _ b₅).bind fun _ b₆ h₆ => returns_pure ?_
  rw [h₆]
  refine ⟨?_, ?_, ?_, ?_⟩
  · show b₅.world.registry = _
    rw [hbroker.world, hregistry]
  · intro i hi
    rw [← hentries] at hi
    obtain ⟨entry, hentry, rfl⟩ := List.mem_map.mp hi
    exact hattempted entry hentry
  · show List.Forall₂ _ _ b₅.stops
    rw [hbroker.stops]
    exact hstops
  · show b₅.deleted ++ [s'] = [s']
    rw [hbroker.deleted, honly.deleted]
    rfl

/-- A broker whose management API always raises. -/
def failingApi : ManagementApi Unit where
  getChannels _ := (.error .other, ())
  getChannel _ _ := (.error .other, ())
  deleteConnection _ _ := (.error .other, ())
  getQueue _ _ := (.error (.http 404), ())
  getMessages _ _ := (.error .other, ())
  deleteQueue _ _ := (.error (.http 404), ())
  parseRequest _ := .error .other
  cancelRequest _ _ := (.error .other, ())

/-- A running plugin that cannot be stopped, only killed. -/
theorem removeSystem_returns_failing :
    Returns (removeSystem failingApi
        ⟨fun _ => ⟨false, true, true, false, true⟩, true, 3, fun _ => []⟩ .returns 0)
      (.initial (.single (singlePlugin "foo" []) .running ⟨1, false, .alive⟩)
        (fun _ => ⟨some ⟨some "foo.1-0.default"⟩, none⟩) ()) fun _ b' =>
      Removed ⟨fun _ => ⟨false, true, true, false, true⟩, true, 3, fun _ => []⟩
        ⟨0, "foo", "1.0", [⟨0, "default"⟩]⟩
        (.initial (.single (singlePlugin "foo" []) .running ⟨1, false, .alive⟩)
          (fun _ => ⟨some ⟨some "foo.1-0.default"⟩, none⟩) ()) b' :=
  removeSystem_returns failingApi _ _ _ () rfl (by decide) (by decide) (by decide)

end BartenderHandler
end Bartender
