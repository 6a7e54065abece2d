import Bartender.Library.StatefulExcept
import Bartender.Requests.Validator

/-!
# Processing a request

`BartenderHandler.processRequest`: the request is fetched, validated, saved and
published. A rejected request is reported as invalid; whatever else goes wrong
before the publication leaves the handler as it is.
-/

namespace Bartender

open StatefulExcept

/-- What `processRequest` uses besides the validator's services. -/
structure RequestHandler (σ : Type) extends Services σ where
  findOrNone : String → Validation σ (Option Request)
  save : Request → Validation σ Unit
  publishRequest : Request → Validation σ Unit

inductive ProcessError
  | invalidRequest (requestId : String) (cause : PyError)
  | publishException (message : Message)
  | escaped (error : PyError)

/-- `mongoengine.ValidationError`, `ModelValidationError` and `RestError`. -/
def reportError (requestId : String) : PyError → ProcessError
  | .modelValidationError message => .invalidRequest requestId (.modelValidationError message)
  | .other "ValidationError" => .invalidRequest requestId (.other "ValidationError")
  | .other "RestError" => .invalidRequest requestId (.other "RestError")
  | e => .escaped e

def publishException (request : Request) : ProcessError :=
  .publishException
    ⟨"Error while publishing request to queue (%s[%s]-%s %s)",
      [.str request.system, .str request.systemVersion, .str request.instanceName,
        request.command.elim .none .str]⟩

variable {σ : Type} (handler : RequestHandler σ)

def fetchRequest (requestId : String) : Validation σ Request := do
  match ← handler.findOrNone requestId with
  | some request => pure request
  | none => invalid "Could not find request with ID '%s'" [.str requestId]

def prepareRequest (requestId : String) : Validation σ Request := do
  let request ← fetchRequest handler requestId
  let request ← validateRequest handler.toServices request
  handler.save request
  pure request

def processRequest (requestId : String) : StateT σ (Except ProcessError) Unit := fun s =>
  match prepareRequest handler requestId s with
  | .error e => .error (reportError requestId e)
  | .ok (request, s) =>
    match handler.publishRequest request s with
    | .ok ((), s) => .ok ((), s)
    | .error _ => .error (publishException request)

variable {handler}

theorem processRequest_rejected {requestId : String} {request : Request} {s s₁ : σ} {e : PyError}
    (hfind : handler.findOrNone requestId s = .ok (some request, s₁))
    (h : validateRequest handler.toServices request s₁ = .error e) :
    processRequest handler requestId s = .error (reportError requestId e) := by
  have hfetch : fetchRequest handler requestId s = .ok (request, s₁) :=
    bind_eq_ok.mpr ⟨some request, s₁, hfind, rfl⟩
  have hprepare : prepareRequest handler requestId s = .error e :=
    bind_eq_error.mpr (.inr ⟨request, s₁, hfetch, bind_eq_error.mpr (.inl h)⟩)
  unfold processRequest
  rw [hprepare]

end Bartender
