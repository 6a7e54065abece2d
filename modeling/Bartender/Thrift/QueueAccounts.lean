import Bartender.Library.Runs
import Bartender.Thrift.RemoveSystem

/-!
# The queues of the instances

`initializeInstance` sets up a request queue and an admin queue and writes their
names into the instance's document; `removeSystem` destroys the queues that the
documents name. The admin queue gets a new name every time, and the name in the
document is overwritten. Here it is accounted for every queue that was set up.
-/

namespace Bartender

open Attempts

/-- `get_routing_key` and `get_routing_keys`, of a system's name and version, the
name of an instance and, for the latter, a random word. -/
structure Routing where
  requestKey : String → String → String → String
  adminKeys : String → String → String → String → List String

/-- The message client. Setting up a queue returns its entry, or raises; a
publication returns or raises. -/
structure MessageClient (β : Type) where
  setupQueue : String → List String → β → Option QueueEntry × β
  start : String → String → String → β → Bool × β

/-- An initialization that has written the document, with the number of calls
that had been made to the management API before. -/
structure Initialization where
  instanceId : ℕ
  queues : QueueInfo
  calls : ℕ

/-- The documents and the broker, and what was done to them. -/
structure QueueHistory (β : Type) where
  world : World
  /-- By instance id. -/
  queueInfo : ℕ → QueueInfo
  broker : β
  /-- The calls to the management API. -/
  calls : List ApiCall
  initialized : List Initialization

inductive InitializeError
  | invalidSystem
  | setup
  /-- `admin_keys[-1]` of no keys. -/
  | indexError
  | save
  | publish

/-- How `instance.save()` ends: an exception may come after the document was written. -/
inductive SaveEnding
  | returns
  | raises (written : Bool)

/-- The instance with an id and the system it is in. -/
def World.instanceById (w : World) (id : ℕ) : Option (System × Instance) := do
  let _ ← w.instances id
  let system ← w.systems.find? fun s => s.instances.any fun i => i.id == id
  let i ← system.instances.find? fun i => i.id == id
  pure (system, i)

namespace QueueHistory

variable {β : Type} (routing : Routing) (client : MessageClient β) (api : ManagementApi β)

/-- `_get_instance` and `_get_system`. -/
def getInstance (id : ℕ) : Program (QueueHistory β) InitializeError (System × Instance) := do
  match (← get).world.instanceById id with
  | some found => pure found
  | none => throw .invalidSystem

def setupQueue (name : String) (keys : List String) :
    Program (QueueHistory β) InitializeError QueueEntry := fun h =>
  let (entry, broker) := client.setupQueue name keys h.broker
  (match entry with
    | some entry => .ok entry
    | none => .error .setup, { h with broker := broker })

/-- The new status, heartbeat and queues are written together. -/
def writeDocument (id : ℕ) (queues : QueueInfo) (h : QueueHistory β) : QueueHistory β :=
  { h with
    world := h.world.updateInstance id fun _ => ⟨.initializing, some h.world.now⟩
    queueInfo := Function.update h.queueInfo id queues
    initialized := h.initialized ++ [⟨id, queues, h.calls.length⟩] }

def save (ending : SaveEnding) (id : ℕ) (queues : QueueInfo) :
    Program (QueueHistory β) InitializeError Unit :=
  match ending with
  | .returns => modify (writeDocument id queues)
  | .raises true => do
    modify (writeDocument id queues)
    throw .save
  | .raises false => throw .save

def start (system : System) (i : Instance) : Program (QueueHistory β) InitializeError Unit :=
  fun h =>
    let (published, broker) := client.start system.name system.version i.name h.broker
    (if published then .ok () else .error .publish, { h with broker := broker })

/-- `initializeInstance`, which adds the random word to the routing words. -/
def initializeInstance (ending : SaveEnding) (word : String) (id : ℕ) :
    Program (QueueHistory β) InitializeError Unit := do
  let (system, i) ← getInstance id
  let requestName := routing.requestKey system.name system.version i.name
  let requestQueue ← setupQueue client requestName [requestName]
  let adminKeys := routing.adminKeys system.name system.version i.name word
  let adminQueue ← match adminKeys.getLast? with
    | some adminName => setupQueue client adminName adminKeys
    | none => throw .indexError
  save ending id ⟨some requestQueue, some adminQueue⟩
  start client system i

/-- `removeSystem`, whose session is a new one. -/
def removeSystem (circumstances : Circumstances) (deletion : Deletion) (systemId : ℕ)
    (h : QueueHistory β) : QueueHistory β :=
  let b := (exec (BartenderHandler.removeSystem api circumstances deletion systemId)
    (.initial h.world h.queueInfo h.broker)).2
  { h with
    world := b.world
    queueInfo := b.queueInfo
    broker := b.session.broker
    calls := h.calls ++ b.session.calls }

end QueueHistory

/-- An initialization and a removal, whatever becomes of them, and whatever else
changes the documents or the broker and calls the management API. -/
inductive QueueOperation (β : Type)
  | initializeInstance (ending : SaveEnding) (word : String) (id : ℕ)
  | removeSystem (circumstances : Circumstances) (deletion : Deletion) (systemId : ℕ)
  | other (world : World) (broker : β) (calls : List ApiCall)

namespace QueueHistory

variable {β : Type} (routing : Routing) (client : MessageClient β) (api : ManagementApi β)

def apply : QueueOperation β → QueueHistory β → QueueHistory β
  | .initializeInstance ending word id, h =>
    (exec (initializeInstance routing client ending word id) h).2
  | .removeSystem circumstances deletion systemId, h =>
    removeSystem api circumstances deletion systemId h
  | .other world broker calls, h =>
    { h with world := world, broker := broker, calls := h.calls ++ calls }

def initial (w : World) (queueInfo : ℕ → QueueInfo) (broker : β) : QueueHistory β :=
  ⟨w, queueInfo, broker, [], []⟩

/-- An id always belongs to one instance of one system, and apart from
`removeSystem` nothing deletes an instance. -/
def Allowed (words : ℕ → String × String × String) :
    QueueOperation β → QueueHistory β → Prop
  | .initializeInstance _ _ id, h => ∀ system i, h.world.instanceById id = some (system, i) →
      words id = (system.name, system.version, i.name)
  | .removeSystem _ _ _, _ => True
  | .other world _ _, h => ∀ id, (h.world.instances id).isSome → (world.instances id).isSome

end QueueHistory

namespace BartenderHandler

variable {β : Type} {api : ManagementApi β} {circumstances : Circumstances}

/-- An instance that is gone has named no queue but those whose deletion was asked for. -/
structure Accounts (b b' : Backend β) : Prop where
  queueInfo : b'.queueInfo = b.queueInfo
  appends : PyrabbitClient.Appends b.session b'.session
  kept : ∀ i : Instance, (b.world.instances i.id).isSome →
    (b'.world.instances i.id).isSome ∨ Attempted b' i

instance : Std.Refl (Accounts (β := β)) := ⟨fun _ => ⟨rfl, List.prefix_refl _, fun _ h => .inl h⟩⟩

instance : IsTrans (Backend β) Accounts where
  trans b b' b'' h h' := by
    refine ⟨h'.queueInfo.trans h.queueInfo, h.appends.trans h'.appends, fun i hi => ?_⟩
    rcases h.kept i hi with hstored | hattempted
    · exact h'.kept i hstored
    · refine .inr fun name hname => ?_
      rw [h'.queueInfo] at hname
      exact h'.appends.mem (hattempted name hname)

theorem OnlyPlugins.accounts {b b' : Backend β} (h : OnlyPlugins b b') : Accounts b b' where
  queueInfo := h.queueInfo
  appends := by rw [h.session]; exact List.prefix_refl _
  kept i hi := .inl (by rw [h.documents.instances]; exact hi)

theorem moves_get : Moves Accounts (get : Program (Backend β) HandlerError (Backend β)) :=
  fun b => Std.Refl.refl b

theorem moves_throw {α : Type} (error : HandlerError) :
    Moves Accounts (throw error : Program (Backend β) HandlerError α) := fun b => Std.Refl.refl b

theorem moves_getSystem (id : ℕ) (error : HandlerError) :
    Moves Accounts (getSystem id error : Program (Backend β) HandlerError System) := by
  refine moves_get.bind fun b => ?_
  split
  · exact .pure _
  · exact moves_throw error

theorem moves_getInstances (system : System) :
    Moves Accounts (getInstances system : Program (Backend β) HandlerError _) := by
  refine moves_get.bind fun b => ?_
  split
  · exact .pure _
  · exact moves_throw _

theorem moves_sleep (count : ℕ) :
    Moves Accounts (sleep circumstances count : Program (Backend β) HandlerError Unit) := by
  intro b
  obtain ⟨hdocuments, -⟩ := reportStopped_keeps (circumstances.reports count) b.world
  exact OnlyPlugins.accounts ⟨⟨hdocuments.systems, hdocuments.instances⟩, rfl, rfl, rfl⟩

theorem moves_awaitStopped (left : ℕ) (system : System) :
    Moves Accounts (awaitStopped circumstances left system : Program (Backend β) _ Unit) := by
  induction left generalizing system with
  | zero => exact (moves_getInstances system).bind fun _ => .pure ()
  | succ left ih =>
    refine (moves_getInstances system).bind fun instances => ?_
    split
    · refine (moves_sleep _).bind fun _ => ?_
      exact (moves_getSystem _ _).bind fun system => ih system
    · exact .pure ()

theorem moves_stopRegistered (plugin : LocalPluginRunner) :
    Moves Accounts (do
      stopPlugin circumstances plugin
      removePlugin plugin : Program (Backend β) HandlerError Unit) := by
  intro b
  obtain ⟨call, hrun, -⟩ :=
    Shutdown.finishes_begin (circumstances.shutdown plugin.address) plugin b.world
  have hdocuments :=
    sameDocuments_stopPlugin (circumstances.shutdown plugin.address) plugin b.world
  have hworld : ((circumstances.shutdown plugin.address).run plugin b.world).2 =
      Bartender.stopPlugin (circumstances.shutdown plugin.address) plugin b.world := by
    simp only [Shutdown.run, hrun]
  rw [← hworld] at hdocuments
  exact OnlyPlugins.accounts ⟨⟨hdocuments.systems, hdocuments.instances⟩, rfl, rfl, rfl⟩

theorem moves_stopSystem (system : System) :
    Moves Accounts (stopSystem circumstances system : Program (Backend β) _ Unit) := by
  refine moves_get.bind fun b => ?_
  split
  · refine Moves.bind (x := if circumstances.remoteStopPublished then pure () else throw .publish)
      ?_ fun _ => moves_awaitStopped _ _
    split
    · exact .pure ()
    · exact moves_throw _
  · exact Moves.forM fun plugin _ => moves_stopRegistered plugin

theorem deepDelete_instances_of_not_mem {system : System} {i : Instance} (deletion : Deletion)
    (w : World) (h : i.id ∉ system.instances.map (·.id)) :
    (w.deepDelete system deletion).instances i.id = w.instances i.id := by
  cases deletion with
  | returns => exact if_neg h
  | raises instances gone =>
    have hfilter : i.id ∉ (system.instances.filter fun i => instances i.id).map (·.id) :=
      fun hmem => h ((List.filter_sublist.map _).subset hmem)
    cases gone <;> exact if_neg hfilter

theorem exec_deepDelete (deletion : Deletion) (system : System) (b : Backend β) :
    (exec (deepDelete deletion system) b).2 =
      { b with world := b.world.deepDelete system deletion, deleted := b.deleted ++ [system] } := by
  cases deletion <;> rfl

/-- Every queue that a document names is asked to be deleted before the documents are. -/
theorem moves_destroy (deletion : Deletion) (system : System) :
    Moves Accounts (do
      let instances ← getInstances system
      instances.forM (destroyQueues api)
      deepDelete deletion system : Program (Backend β) HandlerError Unit) := by
  intro b
  have hread : exec (getInstances system) b = (b.world.loadInstances system).elim
      (.error .attributeError, b) fun instances => (.ok instances, b) := by
    unfold getInstances
    rw [exec_bind, exec_get]
    dsimp only
    cases b.world.loadInstances system <;> rfl
  rw [exec_bind, hread]
  cases hload : b.world.loadInstances system with
  | none => exact Std.Refl.refl b
  | some entries =>
    have hdestroyed : Returns (entries.forM (destroyQueues api)) b _ :=
      returns_forM_destroyQueues entries b
    obtain ⟨_, b', hexec, hbroker, hattempted⟩ := hdestroyed
    rw [Option.elim_some]
    dsimp only
    rw [exec_bind, hexec]
    dsimp only
    rw [exec_deepDelete]
    refine ⟨hbroker.queueInfo, hbroker.appends, fun i hi => ?_⟩
    by_cases hmem : i.id ∈ system.instances.map (·.id)
    · right
      obtain ⟨j, hj, hid⟩ := List.mem_map.mp hmem
      rw [← (loadInstances_eq_some_iff.mp hload).1] at hj
      obtain ⟨entry, hentry, rfl⟩ := List.mem_map.mp hj
      intro name hname
      refine hattempted entry hentry name ?_
      rw [hid]
      exact hname
    · left
      show ((b'.world.deepDelete system deletion).instances i.id).isSome
      rw [deepDelete_instances_of_not_mem deletion b'.world hmem, hbroker.world]
      exact hi

theorem moves_removeSystem (deletion : Deletion) (systemId : ℕ) :
    Moves Accounts (removeSystem api circumstances deletion systemId) := by
  refine (moves_getSystem _ _).bind fun system => ?_
  refine (moves_stopSystem system).bind fun _ => ?_
  exact (moves_getSystem _ _).bind fun system => moves_destroy deletion system

end BartenderHandler

namespace QueueHistory

variable {β : Type} {routing : Routing} {client : MessageClient β} {api : ManagementApi β}
  {words : ℕ → String × String × String} {h : QueueHistory β}

/-- `setup_queue` returns an entry with the name it was given. -/
def NamesQueues (client : MessageClient β) : Prop :=
  ∀ name keys broker entry broker', client.setupQueue name keys broker = (some entry, broker') →
    entry.name = some name

def Names (h : QueueHistory β) (id : ℕ) (entry : QueueInfo → Option String) (name : String) :
    Prop :=
  (h.world.instances id).isSome ∧ entry (h.queueInfo id) = some name

def Deleted (h : QueueHistory β) (e : Initialization) (name : String) : Prop :=
  ApiCall.deleteQueue name ∈ h.calls.drop e.calls

/-- What has become of the queues of an initialization, by the later ones. -/
structure Accounted (h : QueueHistory β) (e : Initialization) (later : List Initialization) :
    Prop where
  request : ∀ name, e.queues.requestQueue = some name →
    h.Names e.instanceId QueueInfo.requestQueue name ∨ h.Deleted e name
  admin : ∀ name, e.queues.adminQueue = some name →
    h.Names e.instanceId QueueInfo.adminQueue name ∨ h.Deleted e name ∨
      ∃ e' ∈ later, e'.instanceId = e.instanceId

/-- Every initialization is accounted for. -/
def AllAccounted (h : QueueHistory β) : Prop :=
  ∀ before e later, h.initialized = before ++ e :: later → h.Accounted e later

structure Sound (routing : Routing) (words : ℕ → String × String × String)
    (h : QueueHistory β) : Prop where
  calls : ∀ e ∈ h.initialized, e.calls ≤ h.calls.length
  request : ∀ e ∈ h.initialized, e.queues.requestQueue = some (routing.requestKey
    (words e.instanceId).1 (words e.instanceId).2.1 (words e.instanceId).2.2)
  accounted : h.AllAccounted

theorem exec_getInstance (id : ℕ) (h : QueueHistory β) :
    exec (getInstance id) h = match h.world.instanceById id with
      | some found => (.ok found, h)
      | none => (.error .invalidSystem, h) := by
  unfold getInstance
  rw [exec_bind, exec_get]
  dsimp only
  cases h.world.instanceById id <;> rfl

theorem setupQueue_cases (name : String) (keys : List String) (h : QueueHistory β) :
    ∃ broker, exec (setupQueue client name keys) h = (.error .setup, { h with broker := broker }) ∨
      ∃ entry, client.setupQueue name keys h.broker = (some entry, broker) ∧
        exec (setupQueue client name keys) h = (.ok entry, { h with broker := broker }) := by
  have hexec : exec (setupQueue client name keys) h =
      (match (client.setupQueue name keys h.broker).1 with
        | some entry => .ok entry
        | none => .error .setup,
        { h with broker := (client.setupQueue name keys h.broker).2 }) := rfl
  rw [hexec]
  rcases client.setupQueue name keys h.broker with ⟨_ | entry, broker⟩
  · exact ⟨broker, .inl rfl⟩
  · exact ⟨broker, .inr ⟨entry, rfl, rfl⟩⟩

theorem save_cases (ending : SaveEnding) (id : ℕ) (queues : QueueInfo) (system : System)
    (i : Instance) (h : QueueHistory β) :
    (exec (do save ending id queues; start client system i) h).2 = h ∨
      ∃ broker, (exec (do save ending id queues; start client system i) h).2 =
        { writeDocument id queues h with broker := broker } := by
  cases ending with
  | returns => exact .inr ⟨(client.start system.name system.version i.name h.broker).2, rfl⟩
  | raises written =>
    cases written with
    | true => exact .inr ⟨h.broker, rfl⟩
    | false => exact .inl rfl

/-- An initialization changes nothing but the broker, or writes the document of
an instance it has found, with the queues it has set up. -/
theorem initializeInstance_cases (hnamed : NamesQueues client) (ending : SaveEnding)
    (word : String) (id : ℕ) (h : QueueHistory β) :
    (∃ broker, (exec (initializeInstance routing client ending word id) h).2 =
      { h with broker := broker }) ∨
    ∃ system i request admin broker, h.world.instanceById id = some (system, i) ∧
      request.name = some (routing.requestKey system.name system.version i.name) ∧
      (exec (initializeInstance routing client ending word id) h).2 =
        { writeDocument id ⟨some request, some admin⟩ h with broker := broker } := by
  unfold initializeInstance
  rw [exec_bind, exec_getInstance]
  cases hfound : h.world.instanceById id with
  | none => exact .inl ⟨h.broker, rfl⟩
  | some found =>
    obtain ⟨system, i⟩ := found
    dsimp only
    rw [exec_bind]
    obtain ⟨broker, hsetup | ⟨request, hrequest, hsetup⟩⟩ :=
        @setupQueue_cases β client (routing.requestKey system.name system.version i.name)
          [routing.requestKey system.name system.version i.name] h
    · rw [hsetup]
      exact .inl ⟨broker, rfl⟩
    · rw [hsetup]
      dsimp only
      cases (routing.adminKeys system.name system.version i.name word).getLast? with
      | none => exact .inl ⟨broker, rfl⟩
      | some adminName =>
        dsimp only
        rw [exec_bind]
        obtain ⟨broker', hsetup' | ⟨admin, -, hsetup'⟩⟩ :=
          @setupQueue_cases β client adminName
            (routing.adminKeys system.name system.version i.name word)
            { h with broker := broker }
        · rw [hsetup']
          exact .inl ⟨broker', rfl⟩
        · rw [hsetup']
          rcases @save_cases β client ending id ⟨some request, some admin⟩ system i
            { h with broker := broker' } with hsame | ⟨broker'', hwritten⟩
          · exact .inl ⟨broker', hsame⟩
          · exact .inr ⟨system, i, request, admin, broker'', rfl,
              hnamed _ _ _ _ _ hrequest, hwritten⟩

theorem isSome_of_instanceById {w : World} {id : ℕ} {found : System × Instance}
    (h : w.instanceById id = some found) : (w.instances id).isSome := by
  unfold World.instanceById at h
  obtain ⟨document, hdocument, -⟩ := Option.bind_eq_some_iff.mp h
  rw [hdocument]
  rfl

/-- What has become of a queue stays so, or its deletion is asked for meanwhile,
or a later initialization supersedes it. -/
theorem Accounted.step {h' : QueueHistory β} {e : Initialization}
    {later later' : List Initialization} {more : List ApiCall} (haccounted : h.Accounted e later)
    (hle : e.calls ≤ h.calls.length) (hcalls : h'.calls = h.calls ++ more)
    (hlater : later ⊆ later')
    (hrequest : ∀ name, h.Names e.instanceId QueueInfo.requestQueue name →
      e.queues.requestQueue = some name →
      h'.Names e.instanceId QueueInfo.requestQueue name ∨ ApiCall.deleteQueue name ∈ more)
    (hadmin : ∀ name, h.Names e.instanceId QueueInfo.adminQueue name →
      h'.Names e.instanceId QueueInfo.adminQueue name ∨ ApiCall.deleteQueue name ∈ more ∨
        ∃ e' ∈ later', e'.instanceId = e.instanceId) : h'.Accounted e later' := by
  have hmem : ∀ name, h'.Deleted e name ↔ h.Deleted e name ∨ ApiCall.deleteQueue name ∈ more := by
    intro name
    unfold Deleted
    rw [hcalls, List.drop_append_of_le_length hle, List.mem_append]
  constructor
  · intro name hname
    rw [hmem]
    rcases haccounted.request name hname with hnames | hdeleted
    · exact (hrequest name hnames hname).imp_right .inr
    · exact .inr (.inl hdeleted)
  · intro name hname
    rw [hmem]
    rcases haccounted.admin name hname with hnames | hdeleted | ⟨e', he', hid⟩
    · rcases hadmin name hnames with hnames' | hdeleted | hlater'
      · exact .inl hnames'
      · exact .inr (.inl (.inr hdeleted))
      · exact .inr (.inr hlater')
    · exact .inr (.inl (.inl hdeleted))
    · exact .inr (.inr ⟨e', hlater he', hid⟩)

/-- An operation that initializes nothing keeps the names or asks for the deletions. -/
theorem Sound.keep {h' : QueueHistory β} {more : List ApiCall} (hsound : Sound routing words h)
    (hinitialized : h'.initialized = h.initialized) (hcalls : h'.calls = h.calls ++ more)
    (hnames : ∀ id name, ∀ entry ∈ [QueueInfo.requestQueue, QueueInfo.adminQueue],
      h.Names id entry name → h'.Names id entry name ∨ ApiCall.deleteQueue name ∈ more) :
    Sound routing words h' := by
  constructor
  · intro e he
    rw [hinitialized] at he
    rw [hcalls, List.length_append]
    exact (hsound.calls e he).trans (Nat.le_add_right _ _)
  · intro e he
    rw [hinitialized] at he
    exact hsound.request e he
  · intro before e later hsplit
    rw [hinitialized] at hsplit
    have he : e ∈ h.initialized := by simp [hsplit]
    refine (hsound.accounted before e later hsplit).step (hsound.calls e he) hcalls
      (List.Subset.refl _) ?_ ?_
    · exact fun name hname _ => hnames _ name _ List.mem_cons_self hname
    · intro name hname
      exact (hnames _ name _ (List.mem_cons_of_mem _ List.mem_cons_self) hname).imp_right .inl

theorem Sound.removeSystem (hsound : Sound routing words h) (circumstances : Circumstances)
    (deletion : Deletion) (systemId : ℕ) :
    Sound routing words (removeSystem api circumstances deletion systemId h) := by
  have haccounts := @BartenderHandler.moves_removeSystem β api circumstances deletion systemId
    (.initial h.world h.queueInfo h.broker)
  refine hsound.keep rfl rfl fun id name entry hentry hnames => ?_
  have hname := (congrArg entry (congrFun haccounts.queueInfo id)).trans hnames.2
  rcases haccounts.kept ⟨id, ""⟩ hnames.1 with hstored | hattempted
  · exact .inl ⟨hstored, hname⟩
  · right
    rcases List.mem_pair.mp hentry with rfl | rfl
    · exact hattempted name (.inl hname)
    · exact hattempted name (.inr hname)

theorem names_writeDocument {id other : ℕ} (hid : other ≠ id) {queues : QueueInfo} (broker : β)
    {entry : QueueInfo → Option String} {name : String} :
    ({ writeDocument id queues h with broker := broker } : QueueHistory β).Names other entry name ↔
      h.Names other entry name := by
  simp [Names, writeDocument, World.updateInstance, Function.update_of_ne hid]

/-- A later initialization writes the same request queue and another admin queue. -/
theorem Sound.initializeInstance (hnamed : NamesQueues client) (hsound : Sound routing words h)
    (ending : SaveEnding) (word : String) (id : ℕ)
    (hallowed : h.Allowed words (.initializeInstance ending word id)) :
    Sound routing words (exec (initializeInstance routing client ending word id) h).2 := by
  rcases @initializeInstance_cases β routing client hnamed ending word id h with
    ⟨broker, hsame⟩ | ⟨system, i, request, admin, broker, hfound, hname, hwritten⟩
  · rw [hsame]
    exact hsound.keep rfl (List.append_nil _).symm fun _ _ _ _ hnames => .inl hnames
  · rw [hwritten]
    have hwords := hallowed system i hfound
    have hrequest : request.name = some (routing.requestKey (words id).1 (words id).2.1
        (words id).2.2) := by
      rw [hwords]
      exact hname
    have hstored : ((h.world.updateInstance id fun _ => ⟨.initializing, some h.world.now⟩).instances
        id).isSome := by
      simp [World.updateInstance, isSome_of_instanceById hfound]
    constructor
    · intro e he
      rcases List.mem_append.mp he with hold | hnew
      · exact hsound.calls e hold
      · rw [List.mem_singleton.mp hnew]
        exact le_rfl
    · intro e he
      rcases List.mem_append.mp he with hold | hnew
      · exact hsound.request e hold
      · rw [List.mem_singleton.mp hnew]
        exact hrequest
    · intro before e later hsplit
      rcases List.eq_nil_or_concat later with rfl | ⟨later, last, rfl⟩
      · -- the new initialization is the last one
        obtain ⟨-, hnew⟩ := List.append_inj' hsplit rfl
        cases hnew
        exact ⟨fun name h => .inl ⟨hstored, by simpa [writeDocument] using h⟩,
          fun name h => .inl ⟨hstored, by simpa [writeDocument] using h⟩⟩
      · rw [List.concat_eq_append] at hsplit ⊢
        have hassoc := hsplit.trans (List.append_assoc before (e :: later) [last]).symm
        obtain ⟨hold, hlast⟩ := List.append_inj' hassoc rfl
        have he : e ∈ h.initialized := by simp [hold]
        refine (hsound.accounted before e later hold).step (hsound.calls e he)
          (List.append_nil _).symm (List.subset_append_left _ _) ?_ ?_
        · intro name hnames hwas
          left
          by_cases hid : e.instanceId = id
          · have hsame := (hsound.request e he).symm.trans hwas
            rw [hid] at hsame ⊢
            have hwritten := hrequest.trans hsame
            exact ⟨hstored, by simpa [writeDocument, QueueInfo.requestQueue] using hwritten⟩
          · exact (names_writeDocument hid broker).mpr hnames
        · intro name hnames
          by_cases hid : e.instanceId = id
          · refine .inr (.inr ⟨last, List.mem_append_right _ List.mem_cons_self, ?_⟩)
            rw [← List.singleton_inj.mp hlast, hid]
          · exact .inl ((names_writeDocument hid broker).mpr hnames)

theorem Sound.apply (hnamed : NamesQueues client) (operation : QueueOperation β)
    (h : QueueHistory β) (hsound : Sound routing words h) (hallowed : h.Allowed words operation) :
    Sound routing words (h.apply routing client api operation) := by
  cases operation with
  | initializeInstance ending word id =>
    exact hsound.initializeInstance hnamed ending word id hallowed
  | removeSystem circumstances deletion systemId =>
    exact hsound.removeSystem circumstances deletion systemId
  | other world broker calls =>
    exact hsound.keep rfl rfl fun id _ _ _ hnames => .inl ⟨hallowed id hnames.1, hnames.2⟩

/-- Whatever is initialized and removed, and whatever fails: the request queue of
an initialization is named by the instance's document or its deletion was asked
for since, and the admin queue likewise, unless a later initialization of the
instance has superseded it. -/
theorem queues_accounted (hnamed : NamesQueues client) (w : World) (queueInfo : ℕ → QueueInfo)
    (broker : β) {operations : List (QueueOperation β)}
    (hallowed : Runs.Meets (apply routing client api) (fun operation h => h.Allowed words operation)
      operations (initial w queueInfo broker)) :
    Runs.Throughout (apply routing client api) AllAccounted operations
      (initial w queueInfo broker) := by
  have hinitial : Sound routing words (initial w queueInfo broker) := by
    refine ⟨nofun, nofun, fun before e later h => ?_⟩
    exact absurd h.symm (List.append_ne_nil_of_right_ne_nil _ (List.cons_ne_nil _ _))
  exact (Runs.throughout_of_meets (Sound.apply hnamed) hinitial hallowed).imp
    fun h hsound => hsound.accounted

def sampleRouting : Routing where
  requestKey system _ instanceName := system ++ ".1-0." ++ instanceName
  adminKeys system _ instanceName word :=
    ["admin", "admin." ++ system, "admin." ++ system ++ ".1-0",
      "admin." ++ system ++ ".1-0." ++ instanceName,
      "admin." ++ system ++ ".1-0." ++ instanceName ++ "." ++ word]

def sampleClient : MessageClient Unit where
  setupQueue name _ _ := (some ⟨some name⟩, ())
  start _ _ _ _ := (true, ())

/-- An instance is initialized twice, and then its system is removed, but for the
system's own document. -/
theorem queues_accounted_twice :
    Runs.Throughout (apply sampleRouting sampleClient BartenderHandler.failingApi) AllAccounted
      [.initializeInstance .returns "x" 0, .initializeInstance (.raises true) "y" 0,
        .removeSystem ⟨fun _ => ⟨false, true, true, false, true⟩, true, 3, fun _ => []⟩
          (.raises (fun _ => true) false) 0]
      (initial (.single (singlePlugin "foo" []) .initializing .fresh) (fun _ => ⟨none, none⟩)
        ()) := by
  refine @queues_accounted Unit sampleRouting sampleClient BartenderHandler.failingApi
    (fun _ => ("foo", "1.0", "default")) ?_ _ _ _ _ ⟨?_, ?_, trivial, trivial⟩
  · rintro name keys broker entry broker' ⟨⟩
    rfl
  · rintro system i ⟨⟩
    rfl
  · rintro system i ⟨⟩
    rfl

end QueueHistory

end Bartender
