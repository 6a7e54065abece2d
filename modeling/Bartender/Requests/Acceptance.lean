import Bartender.Requests.DictionaryChoices
import Bartender.Requests.Handler
import Bartender.Requests.Idempotence

/-!
# Which requests are accepted

A declarative account of a whole request: the system and the command it names,
the types it may state, its parameters and their constraints. The only choices
left out are those that come from somewhere else, from a URL or from another
command. The handler publishes the accepted requests, with their types filled
in and the saved parameters in the place of the supplied ones, and no others.
-/

namespace Bartender

open StatefulExcept

/-- Strict choices are static: a list, or a dictionary that refers to another parameter. -/
def StaticChoices (info : ParameterInfo) : Prop :=
  ∀ choices, info.choices = some choices → choices.strict = true → choices.type = .static

/-- The key of a dictionary's choices: the instance name, or what the request
supplies for the parameter that is referred to. -/
inductive ReferredTo (request : Request) (details : PyDict) : PyValue → Prop
  | instanceName
      (h : InsertionDict.get? details (.str "key_reference") = some (.str "instance_name")) :
      ReferredTo request details (.str request.instanceName)
  | parameter {reference : PyValue} {key : PyKey}
      (h : InsertionDict.get? details (.str "key_reference") = some reference)
      (hnone : reference ≠ .none) (hname : reference ≠ .str "instance_name")
      (hkey : reference.toKey = .ok key) :
      ReferredTo request details
        (if ((InsertionDict.get? request.parameters key).getD .none).truth then
          (InsertionDict.get? request.parameters key).getD .none
        else .str "null")

/-- What a parameter's choices offer to a request. -/
inductive Offers (request : Request) (choices : Choices) : PyValue → Prop
  | list {values : List PyValue} (h : choices.value = .list values) :
      Offers request choices (.list values)
  | entry {entries : PyDict} {reference offered : PyValue} {key : PyKey}
      (h : choices.value = .dict entries)
      (hreference : ReferredTo request choices.details reference)
      (hkey : reference.toKey = .ok key)
      (hentry : InsertionDict.get? entries key = some offered) (hnone : offered ≠ .none) :
      Offers request choices offered

/-- The value is offered, element by element for a multi parameter. -/
def OfferedIn (info : ParameterInfo) (value offered : PyValue) : Prop :=
  ∃ elements allowed, offered.iter = .ok elements ∧ elements.mapM collapseChoice = .ok allowed ∧
    if info.multi then
      ∃ singles, value.iter = .ok singles ∧ ∀ single ∈ singles, single.isIn allowed = true
    else value.isIn allowed = true

/-- The value, or its length, does not cross the bound, if there is one other than zero. -/
def BoundCheck.Kept (check : BoundCheck) (info : ParameterInfo) (value : PyValue) : Prop :=
  ∀ bound, check.bound info = some bound → bound ≠ 0 →
    ∃ size, (value.len?.map .ofInt).or value.number? = some size ∧
      check.crosses (.ofInt bound) size = false

section Constraints

variable {σ : Type} (services : Services σ) (request : Request)

/-- The value is a string and matches the pattern, if there is one. -/
def Matches (info : ParameterInfo) (value : PyValue) : Prop :=
  ∀ regex, info.regex = some regex → regex ≠ "" →
    ∃ s pattern, value = .str s ∧ services.compile regex = .ok pattern ∧ pattern s = true

/-- The constraints on a converted value; null and the values of optional
parameters are free. -/
structure MeetsConstraints (info : ParameterInfo) (value : PyValue) : Prop where
  choices : ∀ choices, info.choices = some choices → choices.strict = true →
    ∃ offered, Offers request choices offered ∧ OfferedIn info value offered
  maximum : BoundCheck.maximum.Kept info value
  minimum : BoundCheck.minimum.Kept info value
  regex : Matches services info value

def Constrained (info : ParameterInfo) (value : PyValue) : Prop :=
  value.isNone = true ∨ info.optional = true ∨ MeetsConstraints services request info value

end Constraints

section Checks

variable {σ : Type} {services : Services σ} {request : Request} {info : ParameterInfo}
  {value : PyValue}

/-- What is read under the key of a dictionary's choices. -/
theorem entry_iff {entries : PyDict} {reference offered : PyValue} :
    (do
      let key ← reference.toKey
      match (InsertionDict.get? entries key).getD .none with
      | .none =>
        invalid
          ("Unable to validate choices for parameter '%s' - Choices" ++
            " dictionary doesn't contain an entry with key '%s'") [.str info.key, reference]
      | rawAllowed => pure rawAllowed) = (.ok offered : Except PyError PyValue) ↔
    ∃ key, reference.toKey = .ok key ∧ InsertionDict.get? entries key = some offered ∧
      offered ≠ .none := by
  rw [except_bind_eq_ok]
  refine exists_congr fun key => and_congr_right fun _ => ?_
  cases InsertionDict.get? entries key with
  | none => simp [invalid]
  | some found =>
    rw [Option.getD_some, Option.some.injEq]
    split
    · constructor
      · intro h
        cases h
      · rintro ⟨rfl, hnone⟩
        exact absurd rfl hnone
    · next hnone =>
      constructor
      · rintro ⟨⟩
        exact ⟨rfl, hnone⟩
      · rintro ⟨rfl, -⟩
        rfl

theorem eq_some_of_getD {found : Option PyValue} (h : found.getD .none = value)
    (hsome : value ≠ .none) : found = some value := by
  cases found with
  | none => exact absurd h.symm hsome
  | some _ => exact congrArg some h

theorem dictionaryChoices_iff {details entries : PyDict} {offered : PyValue} :
    dictionaryChoices request info details entries = .ok offered ↔
      ∃ reference key, ReferredTo request details reference ∧ reference.toKey = .ok key ∧
        InsertionDict.get? entries key = some offered ∧ offered ≠ .none := by
  unfold dictionaryChoices
  dsimp only
  split
  · next hlookup =>
    constructor
    · intro h
      cases h
    · rintro ⟨_, key, h | ⟨h, hsome⟩, -⟩
      · rw [h] at hlookup
        cases hlookup
      · rw [h] at hlookup
        exact absurd hlookup hsome
  · next hlookup =>
    rw [pure_bind]
    refine entry_iff.trans ?_
    constructor
    · rintro ⟨key, h⟩
      exact ⟨_, key, .instanceName (eq_some_of_getD hlookup nofun), h⟩
    · rintro ⟨_, key, h | ⟨h, -, hname⟩, hkey⟩
      · exact ⟨key, hkey⟩
      · rw [h] at hlookup
        exact absurd hlookup hname
  · next hsome hname =>
    simp only [pure_bind, except_bind_eq_ok]
    constructor
    · rintro ⟨k, hk, h⟩
      obtain ⟨key, h⟩ := entry_iff.mp (except_bind_eq_ok.mpr h)
      exact ⟨_, key, .parameter (eq_some_of_getD rfl hsome) hsome hname hk, h⟩
    · rintro ⟨_, key, h | ⟨h, -, -, hk⟩, hkey⟩
      · rw [h] at hname
        exact absurd rfl hname
      · rw [h]
        exact ⟨_, hk, except_bind_eq_ok.mp (entry_iff.mpr ⟨key, hkey⟩)⟩

theorem staticChoices_iff {choices : Choices} {offered : PyValue} :
    staticChoices request info choices = .ok offered ↔ Offers request choices offered := by
  unfold staticChoices
  cases hvalue : choices.value with
  | list values =>
    constructor
    · rintro ⟨⟩
      exact .list hvalue
    · rintro (h | h)
      · rw [hvalue] at h
        cases h
        rfl
      · rw [hvalue] at h
        cases h
  | dict entries =>
    dsimp only
    rw [dictionaryChoices_iff]
    constructor
    · rintro ⟨reference, key, hreference, hkey, hentry, hnone⟩
      exact .entry hvalue hreference hkey hentry hnone
    · rintro (h | ⟨h, hreference, hkey, hentry, hnone⟩)
      · rw [hvalue] at h
        cases h
      · rw [hvalue] at h
        cases h
        exact ⟨_, _, hreference, hkey, hentry, hnone⟩
  | _ =>
    constructor
    · intro h
      cases h
    · rintro (h | h)
      all_goals
        rw [hvalue] at h
        cases h

theorem checkChoice_iff {allowed : List PyValue} :
    checkChoice info allowed value = .ok () ↔ value.isIn allowed = true := by
  unfold checkChoice invalid
  split_ifs with h <;> simp [h]

theorem forM_eq_ok {α ε : Type} {f : α → Except ε Unit} {xs : List α}
    (h : ∀ x ∈ xs, f x = .ok ()) : xs.forM f = .ok () := by
  induction xs with
  | nil => rfl
  | cons x xs ih =>
    obtain ⟨hx, hrest⟩ := List.forall_mem_cons.mp h
    exact List.forM_cons.trans (except_bind_eq_ok.mpr ⟨(), hx, ih hrest⟩)

theorem checkChoices_iff {offered : PyValue} :
    checkChoices info value offered = .ok () ↔ OfferedIn info value offered := by
  unfold checkChoices OfferedIn
  simp only [except_bind_eq_ok]
  constructor
  · rintro ⟨elements, helements, allowed, hallowed, h⟩
    refine ⟨elements, allowed, helements, hallowed, ?_⟩
    split_ifs at h ⊢
    · obtain ⟨singles, hsingles, h⟩ := except_bind_eq_ok.mp h
      exact ⟨singles, hsingles, fun x hx => checkChoice_iff.mp (of_forM_eq_ok h x hx)⟩
    · exact checkChoice_iff.mp h
  · rintro ⟨elements, allowed, helements, hallowed, h⟩
    refine ⟨elements, helements, allowed, hallowed, ?_⟩
    split_ifs at h ⊢
    · obtain ⟨singles, hsingles, h⟩ := h
      exact except_bind_eq_ok.mpr
        ⟨singles, hsingles, forM_eq_ok fun x hx => checkChoice_iff.mpr (h x hx)⟩
    · exact checkChoice_iff.mpr h

theorem BoundCheck.run_iff {check : BoundCheck} (hskip : (value.isNone || info.optional) = false) :
    check.run value info = .ok () ↔ check.Kept info value := by
  unfold BoundCheck.run BoundCheck.Kept
  simp only [hskip, Bool.false_eq_true, if_false]
  cases check.bound info with
  | none => simp
  | some bound =>
    simp only [Option.some.injEq, forall_eq']
    by_cases hzero : bound = 0
    · simp [hzero]
    · cases hlen : value.len? with
      | some length => simp [hzero, invalid]
      | none => 
        cases hnumber : value.number? with
        | some number => simp [hzero, invalid]
        | none => simp [hzero]

theorem validateRegex_iff (hskip : (value.isNone || info.optional) = false) :
    validateRegex services value info = .ok () ↔ Matches services info value := by
  unfold validateRegex Matches
  simp only [hskip, Bool.false_eq_true, if_false]
  cases info.regex with
  | none => simp
  | some regex =>
    simp only [Option.some.injEq, forall_eq']
    by_cases hempty : regex = ""
    · simp [hempty]
    · simp only [hempty, if_false, except_bind_eq_ok, ne_eq, not_false_eq_true, forall_true_left]
      constructor
      · rintro ⟨pattern, hcompile, h⟩
        cases value with
        | str s =>
          dsimp only at h
          split_ifs at h with hmatch
          · exact ⟨s, pattern, rfl, hcompile, hmatch⟩
          · cases h
        | _ => cases h
      · rintro ⟨s, pattern, rfl, hcompile, hmatch⟩
        exact ⟨pattern, hcompile, by simp [hmatch]⟩

theorem pure_eq_ok {s s' : σ} :
    (pure () : Validation σ Unit) s = .ok ((), s') ↔ s' = s := by
  rw [pure_apply]
  exact ⟨fun h => by cases h; rfl, fun h => by rw [h]⟩

theorem validateValueInChoices_iff (hstatic : StaticChoices info)
    (hskip : (value.isNone || info.optional) = false) {s s' : σ} :
    validateValueInChoices services request value info s = .ok ((), s') ↔
      (∀ choices, info.choices = some choices → choices.strict = true →
        ∃ offered, Offers request choices offered ∧ OfferedIn info value offered) ∧ s' = s := by
  unfold validateValueInChoices
  simp only [hskip, Bool.false_eq_true, if_false]
  cases hchoices : info.choices with
  | none => exact pure_eq_ok.trans (by simp)
  | some choices =>
    simp only [Option.some.injEq, forall_eq']
    split_ifs with hstrict
    · have hraw : rawChoices services request info choices =
          liftM (staticChoices request info choices) := by
        rw [rawChoices, hstatic choices hchoices hstrict]
      simp only [hraw, hstrict, bind_eq_ok, lift_eq_ok, staticChoices_iff, checkChoices_iff,
        forall_true_left]
      constructor
      · rintro ⟨offered, _, ⟨hoffers, rfl⟩, hin, rfl⟩
        exact ⟨⟨offered, hoffers, hin⟩, rfl⟩
      · rintro ⟨⟨offered, hoffers, hin⟩, rfl⟩
        exact ⟨offered, s', ⟨hoffers, rfl⟩, hin, rfl⟩
    · exact pure_eq_ok.trans (by simp [hstrict])

/-- With static choices, what the checks of a converted value come down to. -/
theorem validateConstraints_iff (hstatic : StaticChoices info) {s s' : σ} :
    validateConstraints services request value info s = .ok ((), s') ↔
      Constrained services request info value ∧ s' = s := by
  cases hskip : value.isNone || info.optional with
  | true =>
    have hfree : Constrained services request info value :=
      (Bool.or_eq_true _ _ ▸ hskip).imp_right .inl
    unfold validateConstraints validateValueInChoices validateMaximum validateMinimum validateRegex
    simp only [hskip, if_true, hfree, true_and]
    exact pure_eq_ok
  | false =>
    have hmeets : Constrained services request info value ↔
        MeetsConstraints services request info value := by
      rw [Bool.or_eq_false_iff] at hskip
      simp [Constrained, hskip]
    unfold validateConstraints
    simp only [hmeets, bind_eq_ok, lift_eq_ok, validateMaximum_eq_run, validateMinimum_eq_run,
      BoundCheck.run_iff hskip, validateRegex_iff hskip, validateValueInChoices_iff hstatic hskip]
    constructor
    · rintro ⟨_, _, ⟨hchoices, rfl⟩, _, _, ⟨hmaximum, rfl⟩, _, _, ⟨hminimum, rfl⟩, hregex, rfl⟩
      exact ⟨⟨hchoices, hmaximum, hminimum, hregex⟩, rfl⟩
    · rintro ⟨⟨hchoices, hmaximum, hminimum, hregex⟩, rfl⟩
      exact ⟨(), s', ⟨hchoices, rfl⟩, (), s', ⟨hmaximum, rfl⟩, (), s', ⟨hminimum, rfl⟩, hregex, rfl⟩

end Checks

section Requests

variable {σ : Type} (services : Services σ)

/-- A request that a system's command accepts, with the values that are saved for
the command's parameters. -/
structure Accepts (request : Request) (system : SystemDocument) (command : Command)
    (values : List PyValue) : Prop where
  instanceName : request.instanceName ∈ system.instanceNames
  named : ∃ name, request.command = some name ∧
    system.commands.find? (fun c => c.name == name) = some command
  commandType : ∀ type, request.commandType = some type → type = command.commandType
  outputType : ∀ type, request.outputType = some type → type = command.outputType
  keys : OnlyDeclaredKeys command.parameters request.parameters
  values : AdmitsEach (Constrained services request) command.parameters request.parameters values

def Request.accepted (request : Request) (command : Command) (values : List PyValue) : Request :=
  { request with
    commandType := some command.commandType
    outputType := some command.outputType
    parameters := savedDict command.parameters values }

/-- The systems' commands have static choices only. -/
def OnlyStaticChoices : Prop :=
  ∀ name version s system s', services.findUnique name version s = .ok (some system, s') →
    ∀ command ∈ system.commands, Parameter.AllEverywhere StaticChoices command.parameters

variable {services} {request : Request}

theorem matchCommandType_iff {command : Command} {request' : Request} :
    matchCommandType request command = .ok request' ↔
      (∀ type, request.commandType = some type → type = command.commandType) ∧
        request' = { request with commandType := some command.commandType } := by
  constructor
  · intro h
    refine ⟨fun type htype => ?_, eq_of_matchCommandType h⟩
    simp only [matchCommandType, htype, invalid] at h
    split_ifs at h with heq
    exact (not_not.mp (bne_iff_ne.not.mp heq)).symm
  · rintro ⟨htype, rfl⟩
    cases hrequest : request.commandType with
    | none => simp [matchCommandType, hrequest]
    | some type =>
      rw [htype type hrequest] at hrequest
      rw [matchCommandType_of_eq hrequest, ← hrequest]

theorem matchOutputType_iff {command : Command} {request' : Request} :
    matchOutputType request command = .ok request' ↔
      (∀ type, request.outputType = some type → type = command.outputType) ∧
        request' = { request with outputType := some command.outputType } := by
  constructor
  · intro h
    refine ⟨fun type htype => ?_, eq_of_matchOutputType h⟩
    simp only [matchOutputType, htype, invalid] at h
    split_ifs at h with heq
    exact (not_not.mp (bne_iff_ne.not.mp heq)).symm
  · rintro ⟨htype, rfl⟩
    cases hrequest : request.outputType with
    | none => simp [matchOutputType, hrequest]
    | some type =>
      rw [htype type hrequest] at hrequest
      rw [matchOutputType_of_eq hrequest, ← hrequest]

theorem findCommand_iff {system : SystemDocument} {command : Command} :
    findCommand request system = .ok command ↔
      ∃ name, request.command = some name ∧
        system.commands.find? (fun c => c.name == name) = some command := by
  unfold findCommand
  cases request.command with
  | none => simp [invalid]
  | some name =>
    cases hfind : system.commands.find? fun c => c.name == name <;> simp [invalid, hfind]

/-- The parameters that are returned are those the constraints leave. -/
theorem validateParameters_iff {parameters : List Parameter}
    (hstatic : Parameter.AllEverywhere StaticChoices parameters) {d saved : PyDict} {s s' : σ} :
    validateParameters services request parameters d s = .ok (saved, s') ↔
      OnlyDeclaredKeys parameters d ∧
        (∃ values, AdmitsEach (Constrained services request) parameters d values ∧
          saved = savedDict parameters values) ∧ s' = s := by
  have hcomplete : ∀ values, OnlyDeclaredKeys parameters d →
      AdmitsEach (Constrained services request) parameters d values →
      validateParameters services request parameters d s = .ok (savedDict parameters values, s) :=
    fun values hkeys hvalues => validate_eq_ok_of_admitted
      (fun info hinfo v hv s => (validateConstraints_iff hinfo).mpr ⟨hv, rfl⟩) hstatic hkeys
      hvalues s
  constructor
  · intro h
    obtain ⟨hkeys, values, hvalues, rfl⟩ := admitted_of_validate_eq_ok
      (fun info hinfo v s s' h => ((validateConstraints_iff hinfo).mp h).1) hstatic h
    rw [hcomplete values hkeys hvalues] at h
    cases h
    exact ⟨hkeys, ⟨values, hvalues, rfl⟩, rfl⟩
  · rintro ⟨hkeys, ⟨values, hvalues, rfl⟩, rfl⟩
    exact hcomplete values hkeys hvalues

theorem constrained_typed {commandType outputType : Option String} {info : ParameterInfo}
    {value : PyValue} :
    Constrained services { request with commandType := commandType, outputType := outputType }
      info value ↔ Constrained services request info value := by
  have hoffers : ∀ choices offered,
      Offers { request with commandType := commandType, outputType := outputType } choices
        offered ↔ Offers request choices offered := by
    intro choices offered
    rw [← @staticChoices_iff _ info, ← @staticChoices_iff request info]
    rfl
  unfold Constrained
  refine or_congr_right (or_congr_right ⟨fun h => ?_, fun h => ?_⟩)
  · refine ⟨fun choices hchoices hstrict => ?_, h.maximum, h.minimum, h.regex⟩
    simpa only [hoffers] using h.choices choices hchoices hstrict
  · refine ⟨fun choices hchoices hstrict => ?_, h.maximum, h.minimum, h.regex⟩
    simpa only [hoffers] using h.choices choices hchoices hstrict

theorem getAndValidateCommandForSystem_iff {system : SystemDocument} {command : Command}
    {request' : Request} {s s' : σ} :
    getAndValidateCommandForSystem services request (some system) s =
        .ok ((command, request'), s') ↔
      (∃ name, request.command = some name ∧
        system.commands.find? (fun c => c.name == name) = some command) ∧
      (∀ type, request.commandType = some type → type = command.commandType) ∧
      (∀ type, request.outputType = some type → type = command.outputType) ∧
      request' = { request with
        commandType := some command.commandType, outputType := some command.outputType } ∧
      s' = s := by
  unfold getAndValidateCommandForSystem
  simp only [bind_eq_ok, lift_eq_ok, findCommand_iff, matchCommandType_iff, matchOutputType_iff]
  constructor
  · rintro ⟨document, _, hdocument, found, _, ⟨hfind, rfl⟩, request₁, _, ⟨⟨hcommand, rfl⟩, rfl⟩,
      request₂, _, ⟨⟨houtput, rfl⟩, rfl⟩, h⟩
    cases hdocument
    cases h
    exact ⟨hfind, hcommand, houtput, rfl, rfl⟩
  · rintro ⟨hfind, hcommand, houtput, rfl, rfl⟩
    exact ⟨system, s', rfl, command, s', ⟨hfind, rfl⟩, _, s', ⟨⟨hcommand, rfl⟩, rfl⟩, _, s',
      ⟨⟨houtput, rfl⟩, rfl⟩, rfl⟩

/-- The validator accepts exactly the requests that a command of the system accepts. -/
theorem validateRequest_iff (hstatic : OnlyStaticChoices services) {request' : Request}
    {s s' : σ} :
    validateRequest services request s = .ok (request', s') ↔
      ∃ system command values,
        services.findUnique request.system request.systemVersion s = .ok (some system, s') ∧
        Accepts services request system command values ∧
        request' = request.accepted command values := by
  have htyped : ∀ command : Command, Constrained services { request with
      commandType := some command.commandType, outputType := some command.outputType } =
      Constrained services request := fun _ =>
    funext fun _ => funext fun _ => propext constrained_typed
  unfold validateRequest getAndValidateParameters commandFor
  simp only [bind_eq_ok, getAndValidateSystem_eq_ok, Prod.exists,
    getAndValidateCommandForSystem_iff]
  constructor
  · rintro ⟨system, s₁, ⟨hfind, hname⟩, command, _, _, ⟨hcommand, htype, houtput, rfl, rfl⟩, _, _,
      _, ⟨_, _, _, h, saved, _, hsaved, h'⟩, h''⟩
    cases h
    cases h'
    cases h''
    have hmem : command ∈ system.commands := by
      obtain ⟨_, _, hfound⟩ := hcommand
      exact List.mem_of_find?_eq_some hfound
    obtain ⟨hkeys, ⟨values, hvalues, rfl⟩, rfl⟩ :=
      (validateParameters_iff (hstatic _ _ _ _ _ hfind command hmem)).mp hsaved
    rw [htyped] at hvalues
    exact ⟨system, command, values, hfind, ⟨hname, hcommand, htype, houtput, hkeys, hvalues⟩, rfl⟩
  · rintro ⟨system, command, values, hfind, haccepts, rfl⟩
    have hmem : command ∈ system.commands := by
      obtain ⟨_, _, hfound⟩ := haccepts.named
      exact List.mem_of_find?_eq_some hfound
    have hvalues := haccepts.values
    rw [← htyped command] at hvalues
    have hsaved := (validateParameters_iff (hstatic _ _ _ _ _ hfind command hmem)).mpr
      ⟨haccepts.keys, ⟨values, hvalues, rfl⟩, @rfl _ s'⟩
    exact ⟨system, s', ⟨hfind, haccepts.instanceName⟩, command, _, s', ⟨haccepts.named,
      haccepts.commandType, haccepts.outputType, rfl, rfl⟩, _, _, s', ⟨_, _, s', rfl, _, s', hsaved,
      rfl⟩, rfl⟩

end Requests

section Processing

variable {σ : Type}

/-- The request stored under the identifier is accepted, and saved as it was accepted. -/
def SavedAccepted (handler : RequestHandler σ) (requestId : String) (s : σ) (saved : Request)
    (s' : σ) : Prop :=
  ∃ request s₁ system s₂ command values,
    handler.findOrNone requestId s = .ok (some request, s₁) ∧
    handler.findUnique request.system request.systemVersion s₁ = .ok (some system, s₂) ∧
    Accepts handler.toServices request system command values ∧
    saved = request.accepted command values ∧ handler.save saved s₂ = .ok ((), s')

variable {handler : RequestHandler σ} {requestId : String} {s : σ}

theorem fetchRequest_iff {request : Request} {s' : σ} :
    fetchRequest handler requestId s = .ok (request, s') ↔
      handler.findOrNone requestId s = .ok (some request, s') := by
  unfold fetchRequest
  rw [bind_eq_ok]
  constructor
  · rintro ⟨found, s₁, hfound, h⟩
    cases found with
    | none => simp [invalid] at h
    | some found =>
      cases h
      exact hfound
  · exact fun h => ⟨some request, s', h, rfl⟩

theorem prepareRequest_iff (hstatic : OnlyStaticChoices handler.toServices) {saved : Request}
    {s' : σ} :
    prepareRequest handler requestId s = .ok (saved, s') ↔
      SavedAccepted handler requestId s saved s' := by
  unfold prepareRequest SavedAccepted
  simp only [bind_eq_ok, fetchRequest_iff, validateRequest_iff hstatic]
  constructor
  · rintro ⟨request, s₁, hrequest, _, s₂, ⟨system, command, values, hfind, haccepts, rfl⟩, _, _,
      hsave, h⟩
    cases h
    exact ⟨request, s₁, system, s₂, command, values, hrequest, hfind, haccepts, rfl, hsave⟩
  · rintro ⟨request, s₁, system, s₂, command, values, hrequest, hfind, haccepts, rfl, hsave⟩
    exact ⟨request, s₁, hrequest, _, s₂, ⟨system, command, values, hfind, haccepts, rfl⟩, (), s',
      hsave, rfl⟩

/-- What is published is the accepted request, and only when it is accepted and
saved is there a publication that may fail. -/
theorem processRequest_publishes_iff (hstatic : OnlyStaticChoices handler.toServices) :
    (∀ s', processRequest handler requestId s = .ok ((), s') ↔
      ∃ saved s₁, SavedAccepted handler requestId s saved s₁ ∧
        handler.publishRequest saved s₁ = .ok ((), s')) ∧
    ((∃ message, processRequest handler requestId s = .error (.publishException message)) ↔
      ∃ saved s₁ e, SavedAccepted handler requestId s saved s₁ ∧
        handler.publishRequest saved s₁ = .error e) := by
  simp only [← prepareRequest_iff hstatic]
  unfold processRequest
  cases hprepare : prepareRequest handler requestId s with
  | error e =>
    have hreport : ∀ message, reportError requestId e ≠ .publishException message := by
      intro message
      unfold reportError
      split <;> nofun
    simp [hreport]
  | ok result =>
    obtain ⟨saved, s₁⟩ := result
    simp only [Except.ok.injEq, Prod.mk.injEq, exists_and_left, exists_eq_left', and_assoc]
    cases handler.publishRequest saved s₁ with
    | error e => simp [publishException]
    | ok result =>
      obtain ⟨⟨⟩, s₂⟩ := result
      simp

def sampleConstrained : List Parameter :=
  [sampleReference, sampleDependent, ⟨{ plainParameter "n" .string with maximum := some 9 }, []⟩]

/-- One system and one request, and publications that are received. -/
def sampleHandler (request : Request) : RequestHandler Unit where
  toServices := { quietServices with
    findUnique := fun _ _ => pure (some (sampleSystem sampleConstrained)) }
  findOrNone _ := pure (some request)
  save _ := pure ()
  publishRequest _ := pure ()

theorem processRequest_publishes_sample :
    ∃ saved s₁, SavedAccepted (sampleHandler { sampleRequest [(.str "n", .str "7"),
        (.str "p1", .str "a"), (.str "p2", .str "1")] with outputType := none }) "r" () saved s₁ ∧
      (sampleHandler (sampleRequest [])).publishRequest saved s₁ = .ok ((), ()) := by
  refine ((processRequest_publishes_iff ?_).1 ()).mp rfl
  intro name version s system s' h command hcommand
  cases h
  obtain rfl := List.mem_singleton.mp hcommand
  refine ⟨⟨nofun, trivial⟩, ⟨?_, trivial⟩, ⟨nofun, trivial⟩, trivial⟩
  rintro choices h -
  cases h
  rfl

end Processing

end Bartender
