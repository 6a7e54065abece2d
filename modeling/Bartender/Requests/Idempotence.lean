import Bartender.Requests.Saved

/-!
# Validating twice

The saved parameters are accepted again and saved unchanged, as long as every
strict choice is one of a static list: each conversion leaves its own results
alone, and the constraint checks look at nothing but the converted value.
-/

namespace Bartender

open StatefulExcept
open Binary64 (Double)

def StaticStrictChoices (info : ParameterInfo) : Prop :=
  ∀ choices, info.choices = some choices → choices.strict = true →
    choices.type = .static ∧ ∃ values, choices.value = .list values

section Constraints

variable {σ : Type} (services : Services σ) (request : Request)

def checkStaticChoices (value : PyValue) (info : ParameterInfo) : Except PyError Unit :=
  if value.isNone || info.optional then .ok ()
  else
    match info.choices with
    | none => .ok ()
    | some choices => if choices.strict then checkChoices info value choices.value else .ok ()

def ConstraintsHold (info : ParameterInfo) (value : PyValue) : Prop :=
  checkStaticChoices value info = .ok () ∧ validateMaximum value info = .ok () ∧
    validateMinimum value info = .ok () ∧ validateRegex services value info = .ok ()

variable {services request}

/-- With static lists the choices check involves neither services nor request. -/
theorem validateValueInChoices_static {info : ParameterInfo} (hstatic : StaticStrictChoices info)
    (value : PyValue) :
    validateValueInChoices services request value info = liftM (checkStaticChoices value info) := by
  unfold validateValueInChoices checkStaticChoices
  split_ifs
  · rfl
  · cases hchoices : info.choices with
    | none => rfl
    | some choices =>
      dsimp only
      split_ifs with hstrict
      · obtain ⟨htype, values, hvalue⟩ := hstatic choices hchoices hstrict
        rw [rawChoices, htype]
        dsimp only
        rw [staticChoices, hvalue]
        rfl
      · rfl

theorem validateConstraints_eq_ok {info : ParameterInfo} (hstatic : StaticStrictChoices info)
    {value : PyValue} {s s' : σ} :
    validateConstraints services request value info s = .ok ((), s') ↔
      ConstraintsHold services info value ∧ s' = s := by
  unfold validateConstraints ConstraintsHold
  simp only [bind_eq_ok, lift_eq_ok, validateValueInChoices_static hstatic]
  constructor
  · rintro ⟨_, _, ⟨hchoice, rfl⟩, _, _, ⟨hmax, rfl⟩, _, _, ⟨hmin, rfl⟩, hregex, rfl⟩
    exact ⟨⟨hchoice, hmax, hmin, hregex⟩, rfl⟩
  · rintro ⟨⟨hchoice, hmax, hmin, hregex⟩, rfl⟩
    exact ⟨(), s', ⟨hchoice, rfl⟩, (), s', ⟨hmax, rfl⟩, (), s', ⟨hmin, rfl⟩, hregex, rfl⟩

end Constraints

theorem convertPlain_integer {n : ℤ} {x : Double} (h : x.EqInt n) :
    convertPlain .integer (.int n) = .ok (.int n) := by
  obtain ⟨y, hy, heq⟩ := Double.exists_ofInt?_of_eqInt h
  have hfloat : pyFloat (.int n) = .ok y := by simp [pyFloat, hy]
  refine except_bind_eq_ok.mpr ⟨n, rfl, except_bind_eq_ok.mpr ⟨y, hfloat, ?_⟩⟩
  rw [if_pos (eq_ofInt_ofDouble_iff.mpr heq)]
  rfl

/-- A plain conversion leaves its own results alone. -/
theorem convertPlain_idem {type : ParameterType} {raw value : PyValue}
    (h : convertPlain type raw = .ok value) : convertPlain type value = .ok value := by
  cases type with
  | string =>
    cases raw with
    | str s =>
      cases h
      rfl
    | _ => cases h
  | integer =>
    obtain ⟨n, -, h⟩ := except_bind_eq_ok.mp h
    obtain ⟨x, -, h⟩ := except_bind_eq_ok.mp h
    split_ifs at h with heq
    cases h
    exact convertPlain_integer (eq_ofInt_ofDouble_iff.mp heq)
  | float =>
    obtain ⟨x, -, h⟩ := except_bind_eq_ok.mp h
    cases h
    rfl
  | any =>
    cases h
    rfl
  | boolean =>
    have hraw := h
    rw [convertPlain] at h
    split_ifs at h
    cases h
    exact hraw
  | dictionary =>
    obtain ⟨d, -, h⟩ := except_bind_eq_ok.mp h
    cases h
    rfl
  | date =>
    obtain ⟨n, -, h⟩ := except_bind_eq_ok.mp h
    cases h
    rfl
  | dateTime =>
    obtain ⟨n, -, h⟩ := except_bind_eq_ok.mp h
    cases h
    rfl
  | other name => cases h

theorem Taken.idem {info : ParameterInfo} {Single : PyValue → PyValue → Prop}
    (hidem : ∀ raw v, Single raw v → Single v v) {raw value : PyValue}
    (h : Taken info Single raw value) : Taken info Single value value := by
  unfold Taken at h ⊢
  split_ifs at h with hnull hmulti
  · have hnullable := (Bool.and_eq_true_iff.mp hnull).2
    rw [h, if_pos (by simpa [PyValue.isNone] using hnullable)]
  · obtain ⟨raws, values, -, rfl, hall⟩ := h
    rw [if_neg (by simp [PyValue.isNone]), if_pos hmulti]
    refine ⟨values, values, rfl, rfl, ?_⟩
    clear * - hall hidem
    induction hall with
    | nil => exact .nil
    | cons hv _ ih => exact .cons (hidem _ _ hv) ih
  · split_ifs with hnull'
    · simp only [Bool.and_eq_true, PyValue.isNone_iff] at hnull'
      exact hnull'.1
    · exact hidem _ _ h

section Twice

variable {Allowed : ParameterInfo → PyValue → Prop}

mutual

theorem converts_idem (p : Parameter) (hp : p.KeysDistinct) (raw value : PyValue)
    (h : Converts Allowed p raw value) : Converts Allowed p value value := by
  obtain ⟨info, parameters⟩ := p
  rw [Converts] at h ⊢
  refine ⟨h.1, ?_⟩
  have h := h.2
  split_ifs at h ⊢
  · obtain ⟨d, values, hd, hkeys, hvalues, rfl⟩ := h
    refine ⟨savedDict parameters values, values, rfl, ?_, ?_, rfl⟩
    · exact onlyDeclaredKeys_savedDict hvalues.length_eq hp.1
    · exact admitsEach_saved parameters hp.2 d values _
        (get?_savedDict hvalues.length_eq hp.1) hvalues
  · exact convertPlain_idem h

/-- Looking the values up in what was saved admits them again. -/
theorem admitsEach_saved (parameters : List Parameter)
    (hp : Parameter.AllKeysDistinct parameters) (d : PyDict) (values : List PyValue)
    (saved : PyDict)
    (hlookup : List.Forall₂ (fun (p : Parameter) v =>
      InsertionDict.get? saved (.str p.info.key) = some v) parameters values)
    (h : AdmitsEach Allowed parameters d values) :
    AdmitsEach Allowed parameters saved values := by
  match parameters, values, hp, hlookup, h with
  | [], _, _, _, h =>
    rw [admitsEach_nil] at h ⊢
    exact h
  | p :: rest, value :: values, hp, .cons hvalue hrest, h =>
    obtain ⟨⟨-, htaken, hallowed⟩, h⟩ := admitsEach_cons.mp h
    have hprovided : Provided p.info saved := by
      right
      left
      rw [InsertionDict.contains_eq_isSome, hvalue]
      rfl
    have hsupplied : suppliedValue p.info saved = value := by
      rw [suppliedValue, hvalue]
      rfl
    have hadmits : Admits Allowed p saved value :=
      ⟨hprovided, hsupplied.symm ▸ htaken.idem (converts_idem p hp.1), hallowed⟩
    exact admitsEach_cons.mpr
      ⟨hadmits, admitsEach_saved rest hp.2 d values saved hrest h⟩

end

end Twice

section Retry

variable {σ : Type} {services : Services σ} {request : Request}

theorem validateParameters_idem {parameters : List Parameter}
    (hdistinct : SiblingKeysDistinct parameters)
    (hstatic : Parameter.AllEverywhere StaticStrictChoices parameters) {d saved : PyDict}
    {s s' : σ} (h : validateParameters services request parameters d s = .ok (saved, s'))
    (again : Request) (s₂ : σ) :
    validateParameters services again parameters saved s₂ = .ok (saved, s₂) := by
  obtain ⟨-, values, hvalues, rfl⟩ :=
    admitted_of_validate_eq_ok (fun info hinfo v s s' h =>
      ((validateConstraints_eq_ok hinfo).mp h).1) hstatic h
  apply validate_eq_ok_of_admitted (fun info hinfo v hv s =>
    (validateConstraints_eq_ok hinfo).mpr ⟨hv, rfl⟩) hstatic
  · exact onlyDeclaredKeys_savedDict hvalues.length_eq hdistinct.1
  · exact admitsEach_saved parameters hdistinct.2 d values _
      (get?_savedDict hvalues.length_eq hdistinct.1) hvalues

/-- Validating a request again with the parameters that were returned for it
returns them again. -/
theorem getAndValidateParameters_idempotent {command : Option Command} {s s₁ s' : σ}
    {found : Command} {request₁ request' : Request} {saved : PyDict}
    (hfound : commandFor services request command s = .ok ((found, request₁), s₁))
    (hdistinct : SiblingKeysDistinct found.parameters)
    (hstatic : Parameter.AllEverywhere StaticStrictChoices found.parameters)
    (h : getAndValidateParameters services request command s = .ok ((saved, request'), s'))
    {s₂ s₃ : σ} {request₂ : Request}
    (hagain : commandFor services { request' with parameters := saved } command s₂ =
      .ok ((found, request₂), s₃)) :
    getAndValidateParameters services { request' with parameters := saved } command s₂ =
      .ok ((saved, request₂), s₃) := by
  obtain ⟨rfl, hvalidate⟩ := (getAndValidateParameters_eq_ok hfound).mp h
  refine (getAndValidateParameters_eq_ok hagain).mpr ⟨rfl, ?_⟩
  exact validateParameters_idem hdistinct hstatic hvalidate request₂ s₃

/-- A nested parameter with strict choices, and one with a default. -/
def fileParameters : List Parameter :=
  [⟨plainParameter "file" .dictionary,
    [⟨{ plainParameter "path" .string with
        choices := some ⟨.static, .list [.str "a", .str "b"], true, []⟩ }, []⟩,
      ⟨{ plainParameter "mode" .any with default := .str "r" }, []⟩]⟩]

/-- A dictionary that was first given as a list of pairs. -/
theorem getAndValidateParameters_idempotent_file :
    getAndValidateParameters quietServices
        (sampleRequest [(.str "file", .dict [(.str "path", .str "a"), (.str "mode", .str "r")])])
        (some (sampleCommand fileParameters)) () =
      .ok (([(.str "file", .dict [(.str "path", .str "a"), (.str "mode", .str "r")])],
        sampleRequest [(.str "file", .dict [(.str "path", .str "a"), (.str "mode", .str "r")])]),
        ()) := by
  have hchoices : Parameter.AllEverywhere StaticStrictChoices fileParameters := by
    refine ⟨⟨nofun, ⟨⟨?_, trivial⟩, ⟨nofun, trivial⟩, trivial⟩⟩, trivial⟩
    intro choices h _
    cases h
    exact ⟨rfl, _, rfl⟩
  exact @getAndValidateParameters_idempotent Unit quietServices
    (sampleRequest [(.str "file", .list [.list [.str "path", .str "a"]])])
    (some (sampleCommand fileParameters)) () () () _ _ _ _ rfl
    ⟨by decide, ⟨by decide, by trivial⟩, trivial⟩ hchoices rfl () () _ rfl

theorem matchCommandType_of_eq {command : Command}
    (h : request.commandType = some command.commandType) :
    matchCommandType request command = .ok request := by
  simp [matchCommandType, h]

theorem matchOutputType_of_eq {command : Command}
    (h : request.outputType = some command.outputType) :
    matchOutputType request command = .ok request := by
  simp [matchOutputType, h]

theorem mem_of_findCommand {system : SystemDocument} {command : Command}
    (h : findCommand request system = .ok command) : command ∈ system.commands := by
  unfold findCommand at h
  cases hname : request.command with
  | none => simp [hname, invalid] at h
  | some name =>
    simp only [hname] at h
    cases hfind : system.commands.find? fun command => command.name == name with
    | none => simp [hfind, invalid] at h
    | some found =>
      simp only [hfind, Except.ok.injEq] at h
      exact h ▸ List.mem_of_find?_eq_some hfind

/-- The command is found again for the request with its types filled in. -/
theorem getAndValidateCommandForSystem_again {system : SystemDocument} {s s' : σ}
    {command : Command} {request₁ : Request}
    (h : getAndValidateCommandForSystem services request (some system) s =
      .ok ((command, request₁), s')) :
    command ∈ system.commands ∧ request₁.system = request.system ∧
      request₁.systemVersion = request.systemVersion ∧
      request₁.instanceName = request.instanceName ∧
      ∀ saved s₂, getAndValidateCommandForSystem services { request₁ with parameters := saved }
        (some system) s₂ = .ok ((command, { request₁ with parameters := saved }), s₂) := by
  unfold getAndValidateCommandForSystem at h
  simp only [bind_eq_ok, lift_eq_ok] at h
  obtain ⟨document, _, hdocument, found, _, ⟨hfind, rfl⟩, request₂, _, ⟨h₂, rfl⟩, request₃, _,
    ⟨h₃, rfl⟩, h⟩ := h
  cases hdocument
  cases h
  rw [eq_of_matchOutputType h₃, eq_of_matchCommandType h₂]
  refine ⟨mem_of_findCommand hfind, rfl, rfl, rfl, fun saved s₂ => ?_⟩
  let again : Request := { request with
    commandType := some command.commandType
    outputType := some command.outputType
    parameters := saved }
  have hcommandType : matchCommandType again command = .ok again := matchCommandType_of_eq rfl
  have houtputType : matchOutputType again command = .ok again := matchOutputType_of_eq rfl
  unfold getAndValidateCommandForSystem
  simp only [bind_eq_ok, lift_eq_ok]
  exact ⟨system, s₂, rfl, command, s₂, ⟨hfind, rfl⟩, _, s₂, ⟨hcommandType, rfl⟩, _, s₂,
    ⟨houtputType, rfl⟩, rfl⟩

/-- Which system is found depends on the request's system, version and instance. -/
theorem getAndValidateSystem_eq_ok {s s' : σ} {system : SystemDocument} :
    getAndValidateSystem services request s = .ok (system, s') ↔
      services.findUnique request.system request.systemVersion s = .ok (some system, s') ∧
        request.instanceName ∈ system.instanceNames := by
  unfold getAndValidateSystem
  rw [bind_eq_ok]
  constructor
  · rintro ⟨found, s₁, hfound, h⟩
    cases found with
    | none => simp [invalid] at h
    | some found =>
      dsimp only at h
      split_ifs at h with hinstance
      · cases h
        exact ⟨hfound, hinstance⟩
      · simp [invalid] at h
  · rintro ⟨hfound, hinstance⟩
    exact ⟨some system, s', hfound, by simp [hinstance]⟩

/-- The validation of a request that was saved and read back changes nothing,
as long as the system is still the one found the first time. -/
theorem validateRequest_idempotent {s s' s₁ s₂ s₃ : σ} {request' : Request}
    {system : SystemDocument}
    (hfirst : services.findUnique request.system request.systemVersion s = .ok (some system, s₁))
    (hsecond : services.findUnique request.system request.systemVersion s₂ =
      .ok (some system, s₃))
    (hdistinct : ∀ c ∈ system.commands, SiblingKeysDistinct c.parameters)
    (hstatic : ∀ c ∈ system.commands,
      Parameter.AllEverywhere StaticStrictChoices c.parameters)
    (h : validateRequest services request s = .ok (request', s')) :
    validateRequest services request' s₂ = .ok (request', s₃) := by
  unfold validateRequest getAndValidateParameters at h ⊢
  simp only [bind_eq_ok] at h ⊢
  obtain ⟨found, _, hfound, ⟨command, request₁⟩, _, hcommand, _, _,
    ⟨_, _, hcommand', saved, _, hsaved, h'⟩, h⟩ := h
  cases hcommand'
  cases h'
  cases h
  obtain ⟨hfind, hinstance⟩ := getAndValidateSystem_eq_ok.mp hfound
  rw [hfirst] at hfind
  cases hfind
  obtain ⟨hmem, hsystem, hversion, hname, hagain⟩ := getAndValidateCommandForSystem_again hcommand
  refine ⟨system, s₃, ?_, _, s₃, hagain saved s₃, _, s₃, ⟨_, s₃, rfl, saved, s₃, ?_, rfl⟩, rfl⟩
  · rw [getAndValidateSystem_eq_ok]
    dsimp only
    rw [hsystem, hversion, hname]
    exact ⟨hsecond, hinstance⟩
  · exact validateParameters_idem (hdistinct command hmem) (hstatic command hmem) hsaved _ s₃

end Retry

end Bartender
