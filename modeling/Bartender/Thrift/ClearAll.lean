import Bartender.Thrift.RemoveSystem

/-!
# Clearing all queues

`clearAllQueues` goes over the request queues of all systems. The queue of an
instance that was never initialized is missing from the broker, and the loop
does not go on after it.
-/

namespace Bartender

open Attempts

abbrev Queues := String → Option (List String)

namespace Queues

def set (queues : Queues) (name : String) (payloads : List String) : Queues :=
  Function.update queues name (some payloads)

def cleared (queues : Queues) (names : List String) : Queues := fun name =>
  if name ∈ names then (queues name).map fun _ => [] else queues name

/-- First-in first-out queues. A missing one is answered with 404; nothing else
fails. -/
def api (parse : String → Except ApiError String) : ManagementApi Queues where
  getChannels queues := (.ok none, queues)
  getChannel _ queues := (.ok none, queues)
  deleteConnection _ queues := (.ok (), queues)
  getQueue name queues :=
    match queues name with
    | some payloads => (.ok (some payloads.length), queues)
    | none => (.error (.http 404), queues)
  getMessages name queues :=
    match queues name with
    | some (payload :: payloads) => (.ok (some payload), queues.set name payloads)
    | some [] => (.ok none, queues)
    | none => (.error (.http 404), queues)
  deleteQueue name queues :=
    match queues name with
    | some _ => (.ok (), Function.update queues name none)
    | none => (.error (.http 404), queues)
  parseRequest := parse
  cancelRequest _ queues := (.ok (), queues)

end Queues

namespace BartenderHandler

section Source

variable {β : Type} (api : ManagementApi β)

def clearQueue (queueName : String) : Program (Backend β) HandlerError Unit :=
  tryCatch (onSession (PyrabbitClient.clearQueue api queueName)) fun error =>
    throw (if error = .management (.http 404) then .invalidSystem else error)

/-- How `get_routing_key` joins its arguments is not known here. -/
def clearAllQueues (routingKey : String → String → String → String) :
    Program (Backend β) HandlerError Unit := do
  let w := (← get).world
  w.systems.forM fun system =>
    system.instances.forM fun i =>
      match w.instances i.id with
      | some _ => clearQueue api (routingKey system.name system.version i.name)
      | none => throw .attributeError

end Source

section Clearing

open PyrabbitClient

variable {parse : String → Except ApiError String}

/-- The queues of these names were emptied, and the cancelation of every request
in them was asked for. -/
structure Clears (parse : String → Except ApiError String) (names : List String)
    (session session' : Session Queues) : Prop where
  broker : session'.broker = session.broker.cleared names
  canceled : ∀ name ∈ names, ∀ payloads, session.broker name = some payloads →
    ∀ payload ∈ payloads, ∀ id, parse payload = .ok id →
      ApiCall.cancelRequest id ∈ session'.calls
  appends : Appends session session'

theorem cleared_nil (queues : Queues) : queues.cleared [] = queues := by
  funext name
  simp [Queues.cleared]

theorem cleared_cleared (queues : Queues) (names names' : List String) :
    (queues.cleared names).cleared names' = queues.cleared (names ++ names') := by
  funext name
  by_cases h : name ∈ names <;> by_cases h' : name ∈ names' <;>
    simp [Queues.cleared, h, h', Function.comp_def]

theorem isSome_cleared (queues : Queues) (names : List String) (name : String) :
    (queues.cleared names name).isSome = (queues name).isSome := by
  unfold Queues.cleared
  split
  · rw [Option.isSome_map]
  · rfl

theorem Clears.nil {session session' : Session Queues} (hbroker : session'.broker = session.broker)
    (happends : Appends session session') : Clears parse [] session session' where
  broker := by rw [cleared_nil, hbroker]
  canceled name hname := absurd hname List.not_mem_nil
  appends := happends

theorem Clears.append {names names' : List String} {s s' s'' : Session Queues}
    (h : Clears parse names s s') (h' : Clears parse names' s' s'') :
    Clears parse (names ++ names') s s'' where
  broker := by rw [h'.broker, h.broker, cleared_cleared]
  appends := h.appends.trans h'.appends
  canceled name hname payloads hpayloads payload hpayload id hid := by
    by_cases hfirst : name ∈ names
    · exact h'.appends.mem (h.canceled name hfirst payloads hpayloads payload hpayload id hid)
    · have hname' : name ∈ names' := (List.mem_append.mp hname).resolve_left hfirst
      have hkept : s'.broker name = some payloads := by
        rw [h.broker, Queues.cleared, if_neg hfirst, hpayloads]
      exact h'.canceled name hname' payloads hkept payload hpayload id hid

theorem cleared_set {queues : Queues} {name : String} {payloads : List String}
    (h : queues name = some payloads) (rest : List String) :
    (queues.set name rest).cleared [name] = queues.cleared [name] := by
  funext other
  by_cases hother : other = name
  · simp [Queues.cleared, Queues.set, hother, h]
  · simp [Queues.cleared, Queues.set, hother]

theorem returns_cancelMessage (payload : String) (session : Session Queues) :
    Returns (cancelMessage (Queues.api parse) payload) session fun _ session' =>
      session'.broker = session.broker ∧ Appends session session' ∧
        ∀ id, parse payload = .ok id → ApiCall.cancelRequest id ∈ session'.calls := by
  refine cancelMessage_rule _ (fun e hparse => ?_) fun id hparse => ?_
  · refine ⟨rfl, List.prefix_refl _, fun id hid => ?_⟩
    cases hid.symm.trans hparse
  · refine ⟨rfl, List.prefix_append _ _, fun other hother => ?_⟩
    obtain rfl : other = id := Except.ok.inj (hother.symm.trans hparse)
    exact List.mem_append_right _ List.mem_cons_self

/-- The loop of `clear_queue` takes what was ready, by induction on it. -/
theorem returns_clearMessages {name : String} {payloads : List String} {session : Session Queues}
    (h : session.broker name = some payloads) :
    Returns (clearMessages (Queues.api parse) name payloads.length) session fun _ session' =>
      Clears parse [name] session session' := by
  induction payloads generalizing session with
  | nil =>
    refine returns_pure ⟨?_, ?_, List.prefix_refl _⟩
    · funext other
      by_cases hother : other = name <;> simp [Queues.cleared, hother, h]
    · intro name' hname' payloads hpayloads payload hpayload
      rw [List.mem_singleton.mp hname', h, Option.some.injEq] at hpayloads
      rw [← hpayloads] at hpayload
      exact absurd hpayload List.not_mem_nil
  | cons payload payloads ih =>
    have hget : Returns
        (call (.getMessages name) ((Queues.api parse).getMessages name)) session
        fun message session₁ => message = some payload ∧
          session₁.broker = session.broker.set name payloads ∧ Appends session session₁ := by
      refine ⟨some payload, ⟨session.broker.set name payloads, _⟩, ?_, rfl, rfl,
        List.prefix_append _ [.getMessages name]⟩
      rw [exec_call]
      simp only [Queues.api, h]
    refine hget.bind fun message s₁ h₁ => ?_
    obtain ⟨rfl, hbroker₁, happends₁⟩ := h₁
    refine (returns_cancelMessage payload s₁).bind fun _ s₂ h₂ => ?_
    obtain ⟨hbroker₂, happends₂, hcanceled⟩ := h₂
    have hrest : s₂.broker name = some payloads := by
      rw [hbroker₂, hbroker₁, Queues.set, Function.update_self]
    refine (ih hrest).imp fun _ s' h' => ?_
    refine ⟨?_, ?_, (happends₁.trans happends₂).trans h'.appends⟩
    · rw [h'.broker, hbroker₂, hbroker₁, cleared_set h]
    · intro name' hname' taken htaken other hother id hid
      rw [List.mem_singleton.mp hname', h, Option.some.injEq] at htaken
      rw [← htaken] at hother
      rcases List.mem_cons.mp hother with rfl | hother
      · exact h'.appends.mem (hcanceled id hid)
      · exact h'.canceled name List.mem_cons_self payloads hrest other hother id hid

theorem returns_clearQueue {name : String} {payloads : List String} {session : Session Queues}
    (h : session.broker name = some payloads) :
    Returns (PyrabbitClient.clearQueue (Queues.api parse) name) session fun _ session' =>
      Clears parse [name] session session' := by
  have hread : Returns (call (.getQueue name) ((Queues.api parse).getQueue name)) session
      fun ready session₁ => ready = some (payloads.length : ℤ) ∧
        session₁.broker = session.broker ∧ Appends session session₁ := by
    refine ⟨some (payloads.length : ℤ), ⟨session.broker, session.calls ++ [.getQueue name]⟩, ?_,
      rfl, rfl, List.prefix_append _ _⟩
    rw [exec_call]
    simp only [Queues.api, h]
  refine hread.bind fun ready s₁ h₁ => ?_
  obtain ⟨rfl, hbroker, happends⟩ := h₁
  have hmessages : s₁.broker name = some payloads := by rw [hbroker, h]
  refine (returns_clearMessages hmessages).imp fun _ s' h' => ?_
  exact Clears.append (Clears.nil hbroker happends) h'

theorem returns_clearQueueHandler {b : Backend Queues} {name : String} {payloads : List String}
    (h : b.session.broker name = some payloads) :
    Returns (clearQueue (Queues.api parse) name) b fun _ b' =>
      Clears parse [name] b.session b'.session := by
  obtain ⟨_, b', hexec, -, hclears⟩ := returns_onSession (returns_clearQueue h)
  refine ⟨(), b', ?_, hclears⟩
  unfold clearQueue
  rw [exec_tryCatch, hexec]

/-- The 404 of a missing queue leaves the handler as another exception. -/
theorem clearQueue_missing {b : Backend Queues} {name : String}
    (h : b.session.broker name = none) :
    exec (clearQueue (Queues.api parse) name) b = (.error .invalidSystem,
      { b with session := ⟨b.session.broker, b.session.calls ++ [.getQueue name]⟩ }) := by
  have hread : exec (PyrabbitClient.clearQueue (Queues.api parse) name) b.session =
      (.error (.http 404), ⟨b.session.broker, b.session.calls ++ [.getQueue name]⟩) := by
    unfold PyrabbitClient.clearQueue
    rw [exec_bind, exec_call]
    simp only [Queues.api, h]
  have hsession : exec (onSession (PyrabbitClient.clearQueue (Queues.api parse) name)) b =
      (.error (.management (.http 404)),
        { b with session := ⟨b.session.broker, b.session.calls ++ [.getQueue name]⟩ }) := by
    unfold exec onSession
    show ((exec (PyrabbitClient.clearQueue (Queues.api parse) name) b.session).1.mapError _,
      { b with
        session := (exec (PyrabbitClient.clearQueue (Queues.api parse) name) b.session).2 }) =
        _
    rw [hread]
    rfl
  unfold clearQueue
  rw [exec_tryCatch, hsession]
  rfl

/-- The loop gets as far as the first queue that is missing. -/
theorem clears_forM (names : List String) (b : Backend Queues) :
    Clears parse (names.takeWhile fun name => (b.session.broker name).isSome) b.session
      (exec (names.forM (clearQueue (Queues.api parse))) b).2.session := by
  induction names generalizing b with
  | nil => exact Clears.nil rfl (List.prefix_refl _)
  | cons name names ih =>
    rw [List.forM_eq_forM, List.forM_cons, exec_bind]
    cases h : b.session.broker name with
    | none =>
      rw [clearQueue_missing h]
      simp only [List.takeWhile_cons, h, Option.isSome_none, Bool.false_eq_true, if_false]
      exact Clears.nil rfl (List.prefix_append _ _)
    | some payloads =>
      obtain ⟨_, b₁, hexec, hclears⟩ := @returns_clearQueueHandler parse b name payloads h
      rw [hexec]
      simp only [List.takeWhile_cons, h, Option.isSome_some, if_true]
      have hsame : (fun name => (b₁.session.broker name).isSome) =
          fun name => (b.session.broker name).isSome := by
        funext other
        rw [hclears.broker, isSome_cleared]
      have hrest := ih b₁
      rw [hsame] at hrest
      exact hclears.append hrest

/-- The request queues of the systems, in the order of the loops. -/
def requestQueues (routingKey : String → String → String → String) (systems : List System) :
    List String :=
  systems.flatMap fun system =>
    system.instances.map fun i => routingKey system.name system.version i.name

theorem clearAllQueues_eq {b : Backend Queues} (routingKey : String → String → String → String)
    (hinstances : ∀ system ∈ b.world.systems, ∀ i ∈ system.instances,
      (b.world.instances i.id).isSome) :
    exec (clearAllQueues (Queues.api parse) routingKey) b =
      exec ((requestQueues routingKey b.world.systems).forM (clearQueue (Queues.api parse))) b := by
  unfold clearAllQueues requestQueues
  rw [exec_bind, exec_get, forM_flatMap]
  refine congrArg (exec · b) (forM_congr fun system hsystem => ?_)
  simp only [List.forM_eq_forM, List.forM_map]
  refine forM_congr fun i hi => ?_
  obtain ⟨document, hdocument⟩ := Option.isSome_iff_exists.mp (hinstances system hsystem i hi)
  simp only [hdocument]

/-- Every queue of these names that exists was emptied, and the cancelation of
every request in it was asked for. -/
def AllCleared (parse : String → Except ApiError String) (names : List String)
    (session session' : Session Queues) : Prop :=
  ∀ name ∈ names, ∀ payloads, session.broker name = some payloads →
    session'.broker name = some [] ∧ ∀ payload ∈ payloads, ∀ id, parse payload = .ok id →
      ApiCall.cancelRequest id ∈ session'.calls

theorem Clears.allCleared_iff {names reached : List String} {session session' : Session Queues}
    (h : Clears parse reached session session') :
    AllCleared parse names session session' ↔
      ∀ name ∈ names, ∀ payload payloads, session.broker name = some (payload :: payloads) →
        name ∈ reached := by
  constructor
  · intro hall name hname payload payloads hpayloads
    by_contra hreached
    have hcleared := (hall name hname _ hpayloads).1
    rw [h.broker, Queues.cleared, if_neg hreached, hpayloads] at hcleared
    cases hcleared
  · intro hnames name hname payloads hpayloads
    cases payloads with
    | nil =>
      refine ⟨?_, fun payload hpayload => absurd hpayload List.not_mem_nil⟩
      rw [h.broker, Queues.cleared, hpayloads]
      split <;> rfl
    | cons payload payloads =>
      have hreached := hnames name hname payload payloads hpayloads
      refine ⟨?_, h.canceled name hreached _ hpayloads⟩
      rw [h.broker, Queues.cleared, if_pos hreached, hpayloads]
      rfl

/-- `clearAllQueues` clears every queue that exists if and only if each one with
a message in it comes before the first one that is missing. -/
theorem clearAllQueues_allCleared_iff (parse : String → Except ApiError String)
    (routingKey : String → String → String → String) (w : World) (queueInfo : ℕ → QueueInfo)
    (queues : Queues)
    (hinstances : ∀ system ∈ w.systems, ∀ i ∈ system.instances, (w.instances i.id).isSome) :
    AllCleared parse (requestQueues routingKey w.systems) ⟨queues, []⟩
        (exec (clearAllQueues (Queues.api parse) routingKey)
          (.initial w queueInfo queues)).2.session ↔
      ∀ name ∈ requestQueues routingKey w.systems, ∀ payload payloads,
        queues name = some (payload :: payloads) →
          name ∈ (requestQueues routingKey w.systems).takeWhile
            fun name => (queues name).isSome := by
  rw [@clearAllQueues_eq parse (.initial w queueInfo queues) routingKey hinstances]
  exact (clears_forM (requestQueues routingKey w.systems) (.initial w queueInfo queues)
    ).allCleared_iff

/-- One system with two instances. -/
def twoInstances : World where
  registry := []
  runners := []
  runtime := fun _ => .fresh
  systems := [⟨0, "foo", "1.0", [⟨0, "a"⟩, ⟨1, "b"⟩]⟩]
  instances := fun _ => some ⟨.running, none⟩
  next := 0
  now := 0

def dottedKey (systemName _systemVersion instanceName : String) : String :=
  systemName ++ ".1-0." ++ instanceName

def oneQueue (name : String) : Queues := fun other => if other = name then some ["{}"] else none

/-- With the missing queue last, the other one is cleared. -/
theorem clearAllQueues_allCleared_last :
    AllCleared .ok (requestQueues dottedKey twoInstances.systems) ⟨oneQueue "foo.1-0.a", []⟩
      (exec (clearAllQueues (Queues.api .ok) dottedKey)
        (.initial twoInstances (fun _ => ⟨none, none⟩) (oneQueue "foo.1-0.a"))).2.session :=
  (clearAllQueues_allCleared_iff .ok dottedKey twoInstances (fun _ => ⟨none, none⟩)
    (oneQueue "foo.1-0.a") (by decide)).mpr (by
      intro name hname payload payloads hpayloads
      have hexists : name = "foo.1-0.a" := by
        by_contra hother
        rw [oneQueue, if_neg hother] at hpayloads
        cases hpayloads
      subst hexists
      decide)

/-- With the missing queue first, the other one keeps its request. -/
theorem clearAllQueues_keeps_later :
    ¬ AllCleared .ok (requestQueues dottedKey twoInstances.systems) ⟨oneQueue "foo.1-0.b", []⟩
      (exec (clearAllQueues (Queues.api .ok) dottedKey)
        (.initial twoInstances (fun _ => ⟨none, none⟩) (oneQueue "foo.1-0.b"))).2.session := by
  intro hall
  rw [@clearAllQueues_eq .ok (.initial twoInstances _ _) dottedKey (by decide)] at hall
  have hclears := @clears_forM .ok (requestQueues dottedKey twoInstances.systems)
    (.initial twoInstances (fun _ => ⟨none, none⟩) (oneQueue "foo.1-0.b"))
  have hreached := hclears.allCleared_iff.mp hall
  exact absurd (hreached "foo.1-0.b" (by decide) "{}" [] rfl) (by decide)

end Clearing

end BartenderHandler
end Bartender
