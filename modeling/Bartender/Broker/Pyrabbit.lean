import Bartender.Library.Attempts
import Mathlib.Data.Int.Notation
import Mathlib.Data.Nat.Notation

/-!
# The management client of the broker

`PyrabbitClient` over a management API that is given: what a call answers, when
it raises and what it does to the broker is not known here. Every call that is
made is recorded, so that what was attempted can be told from what succeeded.
-/

namespace Bartender

open Attempts

/-- An `HTTPError` with its status, or any other exception. -/
inductive ApiError
  | http (status : ℤ)
  | other
  deriving DecidableEq, Repr

structure ConsumerDetails where
  queueName : String
  connectionName : String
  deriving DecidableEq, Repr

/-- The calls of the management API and of the web API that the client makes.
Where Python's `or` replaces an answer, `none` is the one that is replaced. -/
structure ManagementApi (β : Type) where
  getChannels : β → Except ApiError (Option (List String)) × β
  getChannel : String → β → Except ApiError (Option (List ConsumerDetails)) × β
  deleteConnection : String → β → Except ApiError Unit × β
  /-- The queue's `messages_ready`, where it has one. -/
  getQueue : String → β → Except ApiError (Option ℤ) × β
  /-- At most one message, by its payload. -/
  getMessages : String → β → Except ApiError (Option String) × β
  deleteQueue : String → β → Except ApiError Unit × β
  /-- The id of the request in a payload. -/
  parseRequest : String → Except ApiError String
  /-- `bv_client.update_request(id, status="CANCELED")`. -/
  cancelRequest : String → β → Except ApiError Unit × β

/-- The calls that were made. -/
inductive ApiCall
  | getChannels
  | getChannel (name : String)
  | deleteConnection (name : String)
  | getQueue (queueName : String)
  | getMessages (queueName : String)
  | deleteQueue (queueName : String)
  | cancelRequest (id : String)
  deriving DecidableEq, Repr

structure Session (β : Type) where
  broker : β
  calls : List ApiCall

namespace PyrabbitClient

variable {β : Type} (api : ManagementApi β)

def call {α : Type} (record : ApiCall) (operation : β → Except ApiError α × β) :
    Program (Session β) ApiError α := fun session =>
  let (result, broker) := operation session.broker
  (result, ⟨broker, session.calls ++ [record]⟩)

def disconnectConsumers (queueName : String) : Program (Session β) ApiError Unit := do
  let channels ← call .getChannels api.getChannels
  (channels.getD []).forM fun channel => do
    let details ← call (.getChannel channel) (api.getChannel channel)
    (details.getD []).forM fun consumer =>
      if queueName = consumer.queueName then
        call (.deleteConnection consumer.connectionName)
          (api.deleteConnection consumer.connectionName)
      else pure ()

/-- A message that cannot be parsed or canceled is only logged. -/
def cancelMessage (payload : String) : Program (Session β) ApiError Unit :=
  swallow do
    let id ← liftM (api.parseRequest payload)
    call (.cancelRequest id) (api.cancelRequest id)

/-- The `while` loop of `clear_queue`, which gets that many messages at most. -/
def clearMessages (queueName : String) : ℕ → Program (Session β) ApiError Unit
  | 0 => pure ()
  | numberOfMessages + 1 => do
    let message ← call (.getMessages queueName) (api.getMessages queueName)
    match message with
    | some payload => do
      cancelMessage api payload
      clearMessages queueName numberOfMessages
    | none => pure ()

def clearQueue (queueName : String) : Program (Session β) ApiError Unit := do
  let ready ← call (.getQueue queueName) (api.getQueue queueName)
  clearMessages api queueName (ready.getD 0).toNat

def deleteQueue (queueName : String) : Program (Session β) ApiError Unit :=
  call (.deleteQueue queueName) (api.deleteQueue queueName)

/-- `destroy_queue`. The handlers of an `HTTPError` and of other exceptions only
differ in what they log. -/
def destroyQueue (queueName : Option String) (forceDisconnect : Bool) :
    Program (Session β) ApiError Unit :=
  match queueName with
  | none => pure ()
  | some queueName => do
    (if forceDisconnect then swallow (disconnectConsumers api queueName) else pure ())
    swallow (clearQueue api queueName)
    swallow (deleteQueue api queueName)

theorem exec_call {α : Type} (record : ApiCall) (operation : β → Except ApiError α × β)
    (session : Session β) :
    exec (call record operation) session =
      ((operation session.broker).1,
        ⟨(operation session.broker).2, session.calls ++ [record]⟩) := rfl

theorem cancelMessage_rule {payload : String} {session : Session β} {Q : Session β → Prop}
    (herror : ∀ e, api.parseRequest payload = .error e → Q session)
    (hok : ∀ id, api.parseRequest payload = .ok id →
      Q ⟨(api.cancelRequest id session.broker).2, session.calls ++ [.cancelRequest id]⟩) :
    Returns (cancelMessage api payload) session fun _ session' => Q session' := by
  refine ⟨(), _, exec_swallow _ _, ?_⟩
  rw [exec_bind, exec_liftM]
  cases hparse : api.parseRequest payload with
  | error e => exact herror e hparse
  | ok id => exact hok id hparse

def Appends (session session' : Session β) : Prop := session.calls <+: session'.calls

instance : Std.Refl (Appends (β := β)) := ⟨fun _ => List.prefix_refl _⟩

instance : IsTrans (Session β) Appends := ⟨fun _ _ _ h h' => h.trans h'⟩

variable {api}

theorem Appends.mem {session session' : Session β} (h : Appends session session') {record : ApiCall}
    (hmem : record ∈ session.calls) : record ∈ session'.calls := h.subset hmem

theorem moves_call {α : Type} (record : ApiCall) (operation : β → Except ApiError α × β) :
    Moves Appends (call record operation) :=
  fun session => List.prefix_append session.calls [record]

theorem moves_disconnectConsumers (queueName : String) :
    Moves Appends (disconnectConsumers api queueName) := by
  refine (moves_call _ _).bind fun channels => .forM fun channel _ => ?_
  refine (moves_call _ _).bind fun details => .forM fun consumer _ => ?_
  split
  · exact moves_call _ _
  · exact .pure ()

section Moves

variable {R : Session β → Session β → Prop} [Std.Refl R]

theorem moves_cancelMessage
    (hcancel : ∀ id, Moves R (call (.cancelRequest id) (api.cancelRequest id)))
    (payload : String) : Moves R (cancelMessage api payload) := by
  intro session
  obtain ⟨_, _, hexec, hmoves⟩ := @cancelMessage_rule β api payload session (R session)
    (fun _ _ => Std.Refl.refl session) fun id _ => hcancel id session
  rw [hexec]
  exact hmoves

theorem moves_clearQueue [IsTrans (Session β) R] {queueName : String}
    (hqueue : Moves R (call (.getQueue queueName) (api.getQueue queueName)))
    (hmessages : Moves R (call (.getMessages queueName) (api.getMessages queueName)))
    (hcancel : ∀ id, Moves R (call (.cancelRequest id) (api.cancelRequest id))) :
    Moves R (clearQueue api queueName) := by
  have hloop : ∀ numberOfMessages, Moves R (clearMessages api queueName numberOfMessages) := by
    intro numberOfMessages
    induction numberOfMessages with
    | zero => exact .pure ()
    | succ n ih =>
      refine hmessages.bind fun message => ?_
      cases message with
      | none => exact .pure ()
      | some payload => exact (moves_cancelMessage hcancel payload).bind fun _ => ih
  exact hqueue.bind fun _ => hloop _

end Moves

/-- `destroy_queue` returns whatever the management API does, and has asked for
the deletion of the queue. -/
theorem returns_destroyQueue (queueName : Option String) (forceDisconnect : Bool)
    (session : Session β) :
    Returns (destroyQueue api queueName forceDisconnect) session fun _ session' =>
      Appends session session' ∧
        ∀ name, queueName = some name → ApiCall.deleteQueue name ∈ session'.calls := by
  cases queueName with
  | none =>
    refine returns_pure ⟨List.prefix_refl _, fun name hname => ?_⟩
    cases hname
  | some queueName =>
    have hdisconnect : Returns
        (if forceDisconnect then swallow (disconnectConsumers api queueName) else pure ())
        session fun _ session' => Appends session session' := by
      split
      · exact returns_swallow (moves_disconnectConsumers queueName) session
      · exact returns_pure (List.prefix_refl _)
    refine hdisconnect.bind fun _ s₁ h₁ => ?_
    have hclear : Moves Appends (clearQueue api queueName) :=
      moves_clearQueue (moves_call _ _) (moves_call _ _) fun _ => moves_call _ _
    refine (returns_swallow hclear s₁).bind fun _ s₂ h₂ => ?_
    refine ⟨(), _, exec_swallow _ _, ?_, ?_⟩
    · exact (h₁.trans h₂).trans (List.prefix_append _ _)
    · intro name hname
      cases hname
      exact List.mem_append_right _ List.mem_cons_self

end PyrabbitClient
end Bartender
