import Bartender.Library.Interleaving
import Bartender.Library.Runs
import Bartender.Requests.Handler
import Bartender.Requests.Idempotence

/-!
# Calls of processRequest beside each other

A request can be processed by several calls: a call that could not publish it is
made again, and the server answers calls in parallel. Each of the four steps of
`processRequest` is one access to the database or to the broker, which may raise,
before or after it took effect. The systems do not change meanwhile.
-/

namespace Bartender

open Interleaving (Pool)
open Interleaving.Pool (Outline)
open StatefulExcept

/-- The request documents and what was handed to the broker. -/
structure RequestStore where
  /-- By id, as they were first saved. -/
  submitted : String → Option Request
  documents : String → Option Request
  messages : List (String × Request)

inductive ProcessPoint
  | idle
  | finding
  | validating (request : Request)
  | saving (request : Request)
  | publishing (request : Request)
  | returned
  | failed (error : ProcessError)

structure ProcessCall where
  requestId : String
  point : ProcessPoint
  /-- The messages that the call handed to the broker. -/
  sent : List Request

/-- What an access to the database or to the broker raises, and whether it took
effect although it raised. -/
structure AccessFault where
  error : PyError
  applied : Bool

namespace ProcessCall

variable (services : Services Unit) (fault : Option AccessFault) (call : ProcessCall)
  (store : RequestStore)

/-- `except (mongoengine.ValidationError, ModelValidationError, RestError)`. -/
def raise (error : PyError) : ProcessCall :=
  { call with point := .failed (reportError call.requestId error) }

def goTo (point : ProcessPoint) : ProcessCall := { call with point := point }

def find : ProcessCall :=
  match fault with
  | some fault => call.raise fault.error
  | none =>
    match store.documents call.requestId with
    | some request => call.goTo (.validating request)
    | none => call.raise (.modelValidationError
        ⟨"Could not find request with ID '%s'", [.str call.requestId]⟩)

def validate (request : Request) : ProcessCall :=
  match fault with
  | some fault => call.raise fault.error
  | none =>
    match validateRequest services request () with
    | .ok (request, ()) => call.goTo (.saving request)
    | .error e => call.raise e

def save (request : Request) : ProcessCall × RequestStore :=
  let saved := { store with
    documents := Function.update store.documents call.requestId (some request) }
  match fault with
  | some fault => (call.raise fault.error, if fault.applied then saved else store)
  | none => (call.goTo (.publishing request), saved)

def publish (request : Request) : ProcessCall × RequestStore :=
  let sent := { call with sent := call.sent ++ [request] }
  let published := { store with messages := store.messages ++ [(call.requestId, request)] }
  match fault with
  | some fault =>
    if fault.applied then (sent.goTo (.failed (publishException request)), published)
    else (call.goTo (.failed (publishException request)), store)
  | none => (sent.goTo .returned, published)

/-- `processRequest`. -/
def step : ProcessCall × RequestStore :=
  match call.point with
  | .finding => (call.find fault store, store)
  | .validating request => (call.validate services fault request, store)
  | .saving request => call.save fault store request
  | .publishing request => call.publish fault store request
  | .idle | .returned | .failed _ => (call, store)

def start (requestId : String) (call : ProcessCall) (store : RequestStore) :
    ProcessCall × RequestStore :=
  match call.point with
  | .idle => (⟨requestId, .finding, []⟩, store)
  | _ => (call, store)

end ProcessCall

/-- Brew-view saves a new request, a call is made, or one takes its next step. -/
inductive RequestEvent (ι : Type)
  | submit (requestId : String) (request : Request)
  | call (i : ι) (requestId : String)
  | step (i : ι) (fault : Option AccessFault)

namespace RequestStore

variable (store : RequestStore)

def submit (requestId : String) (request : Request) : RequestStore :=
  if store.submitted requestId = none then
    { store with
      submitted := Function.update store.submitted requestId (some request)
      documents := Function.update store.documents requestId (some request) }
  else store

end RequestStore

/-- The handler over the documents of a store, with what its save and its
publication raise. -/
def handlerAt (services : Services Unit) (store : RequestStore)
    (saveRaises publishRaises : Option PyError) : RequestHandler Unit where
  toServices := services
  findOrNone requestId := pure (store.documents requestId)
  save _ := saveRaises.elim (pure ()) throw
  publishRequest _ := publishRaises.elim (pure ()) throw

def endPoint : Except ProcessError (Unit × Unit) → ProcessPoint
  | .ok _ => .returned
  | .error e => .failed e

def runAlone (services : Services Unit) :
    List (Option AccessFault) → ProcessCall × RequestStore → ProcessCall × RequestStore
  | [], s => s
  | fault :: faults, (call, store) => runAlone services faults (call.step services fault store)

theorem runAlone_of_ended {services : Services Unit} {call : ProcessCall} {store : RequestStore}
    (h : call.point = .returned ∨ ∃ e, call.point = .failed e)
    (faults : List (Option AccessFault)) :
    runAlone services faults (call, store) = (call, store) := by
  have hstep : ∀ fault, call.step services fault store = (call, store) := fun fault => by
    unfold ProcessCall.step
    rcases h with h | ⟨e, h⟩
    · rw [h]
    · rw [h]
  induction faults with
  | nil => rfl
  | cons fault faults ih => rw [runAlone, hstep, ih]

/-- What `prepareRequest` does with a stored request. -/
def prepareStored (services : Services Unit) (saveRaises : Option PyError) (request : Request) :
    Except PyError (Request × Unit) :=
  match validateRequest services request () with
  | .error e => .error e
  | .ok (validated, ()) => saveRaises.elim (.ok (validated, ())) .error

section Alone

variable {services : Services Unit} {store : RequestStore} {requestId : String}
  {saveRaises publishRaises : Option PyError}

theorem findOrNone_handlerAt {found : Option Request} (h : store.documents requestId = found) :
    (handlerAt services store saveRaises publishRaises).findOrNone requestId () =
      .ok (found, ()) := by
  rw [← h]
  rfl

theorem prepareRequest_of_none (h : store.documents requestId = none) :
    prepareRequest (handlerAt services store saveRaises publishRaises) requestId () =
      .error (.modelValidationError
        ⟨"Could not find request with ID '%s'", [.str requestId]⟩) :=
  bind_eq_error.mpr (.inl (bind_eq_error.mpr (.inr ⟨none, (), findOrNone_handlerAt h, rfl⟩)))

theorem prepareRequest_of_some {request : Request} (h : store.documents requestId = some request) :
    prepareRequest (handlerAt services store saveRaises publishRaises) requestId () =
      prepareStored services saveRaises request := by
  have hfetch : fetchRequest (handlerAt services store saveRaises publishRaises) requestId () =
      .ok (request, ()) :=
    bind_eq_ok.mpr ⟨some request, (), findOrNone_handlerAt h, rfl⟩
  unfold prepareStored
  cases hvalidate : validateRequest services request () with
  | error e =>
    exact bind_eq_error.mpr (.inr ⟨request, (), hfetch, bind_eq_error.mpr (.inl hvalidate)⟩)
  | ok result =>
    obtain ⟨validated, ⟨⟩⟩ := result
    cases saveRaises with
    | none =>
      exact bind_eq_ok.mpr ⟨request, (), hfetch, bind_eq_ok.mpr ⟨validated, (), hvalidate,
        bind_eq_ok.mpr ⟨(), (), rfl, rfl⟩⟩⟩
    | some e =>
      exact bind_eq_error.mpr (.inr ⟨request, (), hfetch, bind_eq_error.mpr (.inr ⟨validated, (),
        hvalidate, bind_eq_error.mpr (.inl rfl)⟩)⟩)

def foundPoint (requestId : String) : Option Request → ProcessPoint
  | some request => .validating request
  | none => .failed (reportError requestId (.modelValidationError
      ⟨"Could not find request with ID '%s'", [.str requestId]⟩))

theorem step_finding :
    ProcessCall.step services none ⟨requestId, .finding, []⟩ store =
      (⟨requestId, foundPoint requestId (store.documents requestId), []⟩, store) := by
  unfold ProcessCall.step
  dsimp only
  unfold ProcessCall.find
  cases store.documents requestId with
  | none => rfl
  | some request => rfl

theorem step_validating_ok {request validated : Request}
    (h : validateRequest services request () = .ok (validated, ())) :
    ProcessCall.step services none ⟨requestId, .validating request, []⟩ store =
      (⟨requestId, .saving validated, []⟩, store) := by
  unfold ProcessCall.step
  dsimp only
  unfold ProcessCall.validate
  rw [h]
  rfl

theorem step_validating_error {request : Request} {e : PyError}
    (h : validateRequest services request () = .error e) :
    ProcessCall.step services none ⟨requestId, .validating request, []⟩ store =
      (⟨requestId, .failed (reportError requestId e), []⟩, store) := by
  unfold ProcessCall.step
  dsimp only
  unfold ProcessCall.validate
  rw [h]
  rfl

end Alone

/-- A call that no other call is made beside is the one of the handler. -/
theorem runAlone_point (services : Services Unit) (store : RequestStore) (requestId : String)
    (saveFault publishFault : Option AccessFault) :
    (runAlone services [none, none, saveFault, publishFault]
      (⟨requestId, .finding, []⟩, store)).1.point =
      endPoint (processRequest (handlerAt services store (saveFault.map (·.error))
        (publishFault.map (·.error))) requestId ()) := by
  unfold processRequest
  rw [runAlone, step_finding]
  cases hdocument : store.documents requestId with
  | none =>
    rw [prepareRequest_of_none hdocument, runAlone_of_ended (.inr ⟨_, rfl⟩)]
    rfl
  | some request =>
    rw [prepareRequest_of_some hdocument]
    unfold prepareStored
    change (runAlone services [none, saveFault, publishFault]
      (⟨requestId, .validating request, []⟩, store)).1.point = _
    rw [runAlone]
    cases hvalidate : validateRequest services request () with
    | error e =>
      rw [step_validating_error hvalidate, runAlone_of_ended (.inr ⟨_, rfl⟩)]
      rfl
    | ok result =>
      obtain ⟨validated, ⟨⟩⟩ := result
      rw [step_validating_ok hvalidate]
      cases saveFault with
      | some fault =>
        exact congrArg (·.1.point) (@runAlone_of_ended services
          ⟨requestId, .failed (reportError requestId fault.error), []⟩ _ (.inr ⟨_, rfl⟩)
          [publishFault])
      | none =>
        cases publishFault with
        | none => rfl
        | some fault =>
          obtain ⟨error, applied⟩ := fault
          cases applied <;> rfl

def Validates (services : Services Unit) (request validated : Request) : Prop :=
  validateRequest services request () = .ok (validated, ())

def StaticServices (services : Services Unit) : Prop :=
  ∀ name version system, services.findUnique name version () = .ok (some system, ()) →
    ∀ c ∈ system.commands, SiblingKeysDistinct c.parameters ∧
      Parameter.AllEverywhere StaticStrictChoices c.parameters

section Validates

variable {services : Services Unit} {request validated : Request}

theorem Validates.unique (h : Validates services request validated) {other : Request}
    (hother : Validates services request other) : other = validated := by
  have heq := hother.symm.trans h
  cases heq
  rfl

theorem Validates.again (hstatic : StaticServices services)
    (h : Validates services request validated) : Validates services validated validated := by
  have hvalidate := h
  unfold Validates validateRequest at hvalidate
  obtain ⟨system, _, hsystem, -⟩ := bind_eq_ok.mp hvalidate
  have hfind := (getAndValidateSystem_eq_ok.mp hsystem).1
  exact validateRequest_idempotent hfind hfind
    (fun c hc => (hstatic _ _ _ hfind c hc).1) (fun c hc => (hstatic _ _ _ hfind c hc).2) h

end Validates

namespace RequestRace

variable {ι : Type} [DecidableEq ι] (services : Services Unit)

def apply : RequestEvent ι → Pool ι ProcessCall RequestStore → Pool ι ProcessCall RequestStore
  | .submit requestId request, pool => pool.outside (·.submit requestId request)
  | .call i requestId, pool => pool.step (ProcessCall.start requestId) i
  | .step i fault, pool => pool.step (ProcessCall.step services fault) i

def initial : Pool ι ProcessCall RequestStore where
  threads := fun _ => ⟨"", .idle, []⟩
  shared := ⟨fun _ => none, fun _ => none, []⟩

/-- A document is the request as it was submitted or as it was validated, and a
message is the validated request that is stored. -/
structure StoreSound (store : RequestStore) : Prop where
  unsubmitted : ∀ requestId, store.submitted requestId = none → store.documents requestId = none
  document : ∀ requestId first, store.submitted requestId = some first →
    ∃ request, store.documents requestId = some request ∧
      (request = first ∨ Validates services first request)
  message : ∀ message ∈ store.messages, ∃ first, store.submitted message.1 = some first ∧
    Validates services first message.2 ∧ store.documents message.1 = some message.2

def Prepared (store : RequestStore) (requestId : String) (request : Request) : Prop :=
  ∃ first, store.submitted requestId = some first ∧ Validates services first request

/-- What the call has in hand. -/
def CallSound (call : ProcessCall) (store : RequestStore) : Prop :=
  match call.point with
  | .idle | .finding => call.sent = []
  | .validating request => call.sent = [] ∧ ∃ first,
      store.submitted call.requestId = some first ∧
        (request = first ∨ Validates services first request)
  | .saving request => call.sent = [] ∧ Prepared services store call.requestId request
  | .publishing request => call.sent = [] ∧ Prepared services store call.requestId request ∧
      store.documents call.requestId = some request
  | .returned => call.sent.length = 1
  | .failed (.publishException _) => call.sent.length ≤ 1
  | .failed _ => call.sent = []

/-- What no step takes back: a request that was submitted, and a document that
is validated. -/
structure Kept (store store' : RequestStore) : Prop where
  submitted : ∀ requestId first, store.submitted requestId = some first →
    store'.submitted requestId = some first
  document : ∀ requestId request, Prepared services store requestId request →
    store.documents requestId = some request → store'.documents requestId = some request

/-- What a step of a call brings about, for the store, the others and itself. -/
structure Progresses (store : RequestStore) (result : ProcessCall × RequestStore) : Prop where
  sound : StoreSound services result.2
  kept : Kept services store result.2
  own : CallSound services result.1 result.2

variable {services} {call : ProcessCall} {store store' : RequestStore}

theorem Kept.refl (store : RequestStore) : Kept services store store :=
  ⟨fun _ _ h => h, fun _ _ _ h => h⟩

theorem Prepared.kept {requestId : String} {request : Request}
    (h : Prepared services store requestId request) (hkept : Kept services store store') :
    Prepared services store' requestId request := by
  obtain ⟨first, hfirst, hvalidates⟩ := h
  exact ⟨first, hkept.submitted _ _ hfirst, hvalidates⟩

theorem Prepared.unique {requestId : String} {request other : Request}
    (h : Prepared services store requestId request)
    (hother : Prepared services store requestId other) : other = request := by
  obtain ⟨first, hfirst, hvalidates⟩ := h
  obtain ⟨first', hfirst', hvalidates'⟩ := hother
  cases hfirst.symm.trans hfirst'
  exact hvalidates.unique hvalidates'

theorem CallSound.kept (h : CallSound services call store) (hkept : Kept services store store') :
    CallSound services call store' := by
  unfold CallSound at h ⊢
  cases hpoint : call.point with
  | idle => rwa [hpoint] at h
  | finding => rwa [hpoint] at h
  | validating request =>
    rw [hpoint] at h
    obtain ⟨hsent, first, hfirst, hrequest⟩ := h
    exact ⟨hsent, first, hkept.submitted _ _ hfirst, hrequest⟩
  | saving request =>
    rw [hpoint] at h
    exact ⟨h.1, h.2.kept hkept⟩
  | publishing request =>
    rw [hpoint] at h
    exact ⟨h.1, h.2.1.kept hkept, hkept.document _ _ h.2.1 h.2.2⟩
  | returned => rwa [hpoint] at h
  | failed e =>
    rw [hpoint] at h
    cases e <;> exact h

theorem callSound_failed (hsent : call.sent = []) (e : ProcessError) :
    CallSound services (call.goTo (.failed e)) store := by
  cases e with
  | invalidRequest requestId cause => exact hsent
  | publishException message => exact (congrArg List.length hsent).le.trans (Nat.zero_le 1)
  | escaped error => exact hsent

theorem callSound_find (h : StoreSound services store) (hpoint : call.point = .finding)
    (hcall : CallSound services call store) (fault : Option AccessFault) :
    CallSound services (call.find fault store) store := by
  have hsent : call.sent = [] := by
    unfold CallSound at hcall
    rwa [hpoint] at hcall
  unfold ProcessCall.find
  cases fault with
  | some fault => exact callSound_failed hsent _
  | none =>
    cases hdocument : store.documents call.requestId with
    | none => exact callSound_failed hsent _
    | some request =>
      cases hsubmitted : store.submitted call.requestId with
      | none =>
        rw [h.unsubmitted _ hsubmitted] at hdocument
        cases hdocument
      | some first =>
        obtain ⟨found, hfound, hrequest⟩ := h.document _ _ hsubmitted
        cases hdocument.symm.trans hfound
        exact ⟨hsent, first, hsubmitted, hrequest⟩

theorem callSound_validate (hstatic : StaticServices services) {request : Request}
    (hpoint : call.point = .validating request) (hcall : CallSound services call store)
    (fault : Option AccessFault) :
    CallSound services (call.validate services fault request) store := by
  unfold CallSound at hcall
  rw [hpoint] at hcall
  obtain ⟨hsent, first, hfirst, hrequest⟩ := hcall
  unfold ProcessCall.validate
  cases fault with
  | some fault => exact callSound_failed hsent _
  | none =>
    cases hvalidate : validateRequest services request () with
    | error e => exact callSound_failed hsent _
    | ok result =>
      obtain ⟨validated, ⟨⟩⟩ := result
      refine ⟨hsent, first, hfirst, ?_⟩
      rcases hrequest with rfl | hrequest
      · exact hvalidate
      · rwa [(hrequest.again hstatic).unique hvalidate]

theorem kept_save {requestId : String} {request : Request}
    (h : Prepared services store requestId request) :
    Kept services store
      { store with documents := Function.update store.documents requestId (some request) } where
  submitted _ _ hfirst := hfirst
  document requestId' request' hprepared hdocument := by
    change Function.update store.documents requestId (some request) requestId' = some request'
    by_cases hid : requestId' = requestId
    · subst hid
      rw [Function.update_self, h.unique hprepared]
    · rwa [Function.update_of_ne hid]

theorem StoreSound.save (h : StoreSound services store) {requestId : String} {request : Request}
    (hprepared : Prepared services store requestId request) :
    StoreSound services
      { store with documents := Function.update store.documents requestId (some request) } where
  unsubmitted requestId' hnone := by
    obtain ⟨first, hfirst, -⟩ := hprepared
    have hid : requestId' ≠ requestId := by
      rintro rfl
      cases hfirst.symm.trans hnone
    exact (Function.update_of_ne hid ..).trans (h.unsubmitted _ hnone)
  document requestId' first hfirst := by
    by_cases hid : requestId' = requestId
    · subst hid
      obtain ⟨first', hfirst', hvalidates⟩ := hprepared
      cases hfirst.symm.trans hfirst'
      exact ⟨request, Function.update_self .., .inr hvalidates⟩
    · obtain ⟨found, hfound, hrequest⟩ := h.document _ _ hfirst
      exact ⟨found, (Function.update_of_ne hid ..).trans hfound, hrequest⟩
  message message hmem := by
    obtain ⟨first, hfirst, hvalidates, hdocument⟩ := h.message message hmem
    exact ⟨first, hfirst, hvalidates,
      (kept_save hprepared).document _ _ ⟨first, hfirst, hvalidates⟩ hdocument⟩

theorem StoreSound.publish (h : StoreSound services store) {requestId : String} {request : Request}
    (hprepared : Prepared services store requestId request)
    (hdocument : store.documents requestId = some request) :
    StoreSound services
      { store with messages := store.messages ++ [(requestId, request)] } where
  unsubmitted := h.unsubmitted
  document := h.document
  message message hmem := by
    rcases List.mem_append.mp hmem with hold | hnew
    · exact h.message message hold
    · cases List.mem_singleton.mp hnew
      obtain ⟨first, hfirst, hvalidates⟩ := hprepared
      exact ⟨first, hfirst, hvalidates, hdocument⟩

theorem progresses_of_same {call' : ProcessCall} (h : StoreSound services store)
    (hown : CallSound services call' store) : Progresses services store (call', store) :=
  ⟨h, Kept.refl store, hown⟩

theorem progresses_save (h : StoreSound services store) {request : Request}
    (hpoint : call.point = .saving request) (hcall : CallSound services call store)
    (fault : Option AccessFault) :
    Progresses services store (call.save fault store request) := by
  unfold CallSound at hcall
  rw [hpoint] at hcall
  obtain ⟨hsent, hprepared⟩ := hcall
  unfold ProcessCall.save
  cases fault with
  | none =>
    exact ⟨h.save hprepared, kept_save hprepared, hsent, hprepared.kept (kept_save hprepared),
      Function.update_self ..⟩
  | some fault =>
    obtain ⟨error, applied⟩ := fault
    cases applied with
    | true => exact ⟨h.save hprepared, kept_save hprepared, callSound_failed hsent _⟩
    | false => exact progresses_of_same h (callSound_failed hsent _)

theorem progresses_publish (h : StoreSound services store) {request : Request}
    (hpoint : call.point = .publishing request) (hcall : CallSound services call store)
    (fault : Option AccessFault) :
    Progresses services store (call.publish fault store request) := by
  unfold CallSound at hcall
  rw [hpoint] at hcall
  obtain ⟨hsent, hprepared, hdocument⟩ := hcall
  have hone : (call.sent ++ [request]).length = 1 := by
    rw [hsent]
    rfl
  unfold ProcessCall.publish
  cases fault with
  | none =>
    exact ⟨h.publish hprepared hdocument, ⟨fun _ _ h => h, fun _ _ _ h => h⟩, hone⟩
  | some fault =>
    obtain ⟨error, applied⟩ := fault
    cases applied with
    | true => exact ⟨h.publish hprepared hdocument, ⟨fun _ _ h => h, fun _ _ _ h => h⟩, hone.le⟩
    | false => exact progresses_of_same h (callSound_failed hsent _)

theorem progresses_step (hstatic : StaticServices services) (h : StoreSound services store)
    (hcall : CallSound services call store) (fault : Option AccessFault) :
    Progresses services store (call.step services fault store) := by
  unfold ProcessCall.step
  cases hpoint : call.point with
  | idle => exact progresses_of_same h hcall
  | finding => exact progresses_of_same h (callSound_find h hpoint hcall fault)
  | validating request =>
    exact progresses_of_same h (callSound_validate hstatic hpoint hcall fault)
  | saving request => exact progresses_save h hpoint hcall fault
  | publishing request => exact progresses_publish h hpoint hcall fault
  | returned => exact progresses_of_same h hcall
  | failed e => exact progresses_of_same h hcall

theorem progresses_start (h : StoreSound services store) (hcall : CallSound services call store)
    (requestId : String) :
    Progresses services store (ProcessCall.start requestId call store) := by
  unfold ProcessCall.start
  cases call.point with
  | idle => exact progresses_of_same h rfl
  | _ => exact progresses_of_same h hcall

theorem kept_submit (requestId : String) (request : Request) :
    Kept services store (store.submit requestId request) := by
  unfold RequestStore.submit
  split_ifs with hnone
  · have hid : ∀ {requestId' first}, store.submitted requestId' = some first →
        requestId' ≠ requestId := by
      rintro requestId' first hfirst rfl
      cases hfirst.symm.trans hnone
    refine ⟨fun requestId' first hfirst => ?_, fun requestId' request' hprepared hdocument => ?_⟩
    · exact (Function.update_of_ne (hid hfirst) ..).trans hfirst
    · obtain ⟨first, hfirst, -⟩ := hprepared
      exact (Function.update_of_ne (hid hfirst) ..).trans hdocument
  · exact Kept.refl store

theorem StoreSound.submit (h : StoreSound services store) (requestId : String)
    (request : Request) : StoreSound services (store.submit requestId request) := by
  have hkept : Kept services store (store.submit requestId request) := kept_submit requestId request
  have hmessage : ∀ message ∈ store.messages, ∃ first,
      (store.submit requestId request).submitted message.1 = some first ∧
        Validates services first message.2 ∧
          (store.submit requestId request).documents message.1 = some message.2 := by
    intro message hmem
    obtain ⟨first, hfirst, hvalidates, hdocument⟩ := h.message message hmem
    exact ⟨first, hkept.submitted _ _ hfirst, hvalidates,
      hkept.document _ _ ⟨first, hfirst, hvalidates⟩ hdocument⟩
  unfold RequestStore.submit at hmessage ⊢
  split_ifs at hmessage ⊢ with hnone
  · refine ⟨fun requestId' hunsubmitted => ?_, fun requestId' first hfirst => ?_, hmessage⟩
    · change Function.update store.submitted requestId (some request) requestId' = none
        at hunsubmitted
      have hid : requestId' ≠ requestId := by
        rintro rfl
        rw [Function.update_self] at hunsubmitted
        cases hunsubmitted
      rw [Function.update_of_ne hid] at hunsubmitted
      exact (Function.update_of_ne hid ..).trans (h.unsubmitted _ hunsubmitted)
    · change Function.update store.submitted requestId (some request) requestId' = some first
        at hfirst
      by_cases hid : requestId' = requestId
      · subst hid
        rw [Function.update_self, Option.some_inj] at hfirst
        exact ⟨request, Function.update_self .., .inl hfirst⟩
      · rw [Function.update_of_ne hid] at hfirst
        obtain ⟨found, hfound, hrequest⟩ := h.document _ _ hfirst
        exact ⟨found, (Function.update_of_ne hid ..).trans hfound, hrequest⟩
  · exact h

omit [DecidableEq ι] in
theorem outline_initial : Outline (StoreSound services) (CallSound services)
    (initial : Pool ι ProcessCall RequestStore) where
  shared := {
    unsubmitted := fun _ _ => rfl
    document := fun _ _ h => by cases h
    message := fun _ h => absurd h List.not_mem_nil }
  threads _ := rfl

theorem outline (hstatic : StaticServices services) (events : List (RequestEvent ι)) :
    Outline (StoreSound services) (CallSound services)
      (Runs.final (apply services) events (initial : Pool ι ProcessCall RequestStore)) := by
  refine (Runs.throughout_of_step (I := Outline (StoreSound services) (CallSound services))
    (fun event pool h => ?_) outline_initial events).final
  have hstep : ∀ {next : ProcessCall → RequestStore → ProcessCall × RequestStore} {i : ι},
      Progresses services pool.shared (next (pool.threads i) pool.shared) →
      Outline (StoreSound services) (CallSound services) (pool.step next i) := fun hprogress =>
    h.step hprogress.sound hprogress.own fun _ hcall => hcall.kept hprogress.kept
  cases event with
  | submit requestId request =>
    exact h.outside (h.shared.submit requestId request)
      fun _ hcall => hcall.kept (kept_submit requestId request)
  | call i requestId => exact hstep (progresses_start h.shared (h.threads i) requestId)
  | step i fault => exact hstep (progresses_step hstatic h.shared (h.threads i) fault)

/-- Any number of calls for the same requests, one after the other or at once,
each of which may fail anywhere: what is published under an id is the validated
request, the same one every time, it is what the database holds, and a request
that the validator rejects is never published. A call that returns published
its request once, and one that fails otherwise than by its publication did not
publish it. -/
theorem requests_published (hstatic : StaticServices services) (events : List (RequestEvent ι)) :
    let race := Runs.final (apply services) events
      (initial : Pool ι ProcessCall RequestStore)
    (∀ message ∈ race.shared.messages, ∃ first, race.shared.submitted message.1 = some first ∧
        Validates services first message.2 ∧
          race.shared.documents message.1 = some message.2) ∧
      (∀ requestId first, race.shared.submitted requestId = some first →
        ∃ request, race.shared.documents requestId = some request ∧
          (request = first ∨ Validates services first request)) ∧
      (∀ i, (race.threads i).point = .returned → (race.threads i).sent.length = 1) ∧
      ∀ i error, (race.threads i).point = .failed error →
        (race.threads i).sent.length ≤ 1 ∧
          ((∀ message, error ≠ .publishException message) → (race.threads i).sent = []) := by
  intro race
  have h : Outline (StoreSound services) (CallSound services) race := outline hstatic events
  refine ⟨h.shared.message, h.shared.document, fun i hpoint => ?_, fun i error hpoint => ?_⟩
  · have hcall := h.threads i
    unfold CallSound at hcall
    rwa [hpoint] at hcall
  · have hcall := h.threads i
    unfold CallSound at hcall
    rw [hpoint] at hcall
    cases error with
    | publishException message => exact ⟨hcall, fun hother => absurd rfl (hother message)⟩
    | invalidRequest requestId cause =>
      exact ⟨(congrArg List.length hcall).le.trans (Nat.zero_le 1), fun _ => hcall⟩
    | escaped error =>
      exact ⟨(congrArg List.length hcall).le.trans (Nat.zero_le 1), fun _ => hcall⟩

def echoServices : Services Unit :=
  { quietServices with
    findUnique := fun _ _ => pure (some
      ⟨⟨0, "echo", "1.0", [⟨0, "default"⟩]⟩,
        [sampleCommand [⟨plainParameter "message" .string, []⟩]]⟩) }

/-- The broker has the first call's message although it does not confirm it; the
second call reads the request while the first one validates it. -/
def retriedRun : List (RequestEvent ℕ) :=
  [.submit "a" (sampleRequest [(.str "message", .str "hello")]), .call 0 "a", .step 0 none,
    .call 1 "a", .step 1 none, .step 0 none, .step 0 none, .step 0 (some ⟨.other "Timeout", true⟩),
    .step 1 none, .step 1 none, .step 1 none]

theorem requests_published_retried :
    let race := Runs.final (apply echoServices) retriedRun initial
    ∀ message ∈ race.shared.messages, ∃ first, race.shared.submitted message.1 = some first ∧
      Validates echoServices first message.2 ∧
        race.shared.documents message.1 = some message.2 := by
  have hstatic : StaticServices echoServices := by
    intro name version system hsystem c hc
    have hfound : (some ⟨⟨0, "echo", "1.0", [⟨0, "default"⟩]⟩,
        [sampleCommand [⟨plainParameter "message" .string, []⟩]]⟩ : Option SystemDocument) =
        some system := congrArg Prod.fst (Except.ok.inj hsystem)
    cases hfound
    cases List.mem_singleton.mp hc
    refine ⟨⟨List.nodup_singleton _, ⟨List.nodup_nil, trivial⟩, trivial⟩, ⟨?_, trivial⟩, trivial⟩
    intro choices hchoices
    cases hchoices
  exact (requests_published hstatic retriedRun).1

example : (Runs.final (apply echoServices) retriedRun initial).shared.messages.length = 2 := by
  decide +kernel

end RequestRace

end Bartender
