import Bartender.Requests.Admission

/-!
# The saved parameters

What a request's validated parameters look like, level by level, in terms of
lookups in the supplied and in the saved dictionary.
-/

namespace Bartender

open StatefulExcept

mutual

/-- The value is the conversion of a single supplied value. -/
def ConvertedAs : Parameter → PyValue → PyValue → Prop
  | ⟨info, parameters⟩, raw, value =>
    (value.isNone = true → info.nullable = true) ∧
      if info.type = .dictionary ∧ parameters ≠ [] then
        ∃ supplied saved, raw.toDict = .ok supplied ∧ value = .dict saved ∧
          OnlyDeclaredKeys parameters supplied ∧
          InsertionDict.keys saved = declaredKeys parameters ∧
          SavedEach parameters supplied saved
      else convertPlain info.type raw = .ok value

/-- Every parameter's saved value is taken from what was supplied under its key. -/
def SavedEach : List Parameter → PyDict → PyDict → Prop
  | [], _, _ => True
  | p :: rest, supplied, saved =>
    (∃ value, InsertionDict.get? saved (.str p.info.key) = some value ∧
      (value.isNone = true → p.info.nullable = true) ∧
      Taken p.info (fun raw v => ConvertedAs p raw v) (suppliedValue p.info supplied) value) ∧
    SavedEach rest supplied saved

end

/-- Exactly the declared keys are saved, nothing undeclared was supplied, and
every saved value is taken from the request. -/
def SavedFrom (parameters : List Parameter) (supplied saved : PyDict) : Prop :=
  OnlyDeclaredKeys parameters supplied ∧ InsertionDict.keys saved = declaredKeys parameters ∧
    SavedEach parameters supplied saved

theorem Taken.mono {info : ParameterInfo} {Single Single' : PyValue → PyValue → Prop}
    (himp : ∀ raw v, Single raw v → Single' raw v) {raw value : PyValue}
    (h : Taken info Single raw value) : Taken info Single' raw value := by
  unfold Taken at h ⊢
  split_ifs at h ⊢ with hnull hmulti
  · exact h
  · obtain ⟨raws, values, hraw, hvalue, hall⟩ := h
    exact ⟨raws, values, hraw, hvalue, hall.imp (himp · ·)⟩
  · exact himp _ _ h

section Distinct

variable {Allowed : ParameterInfo → PyValue → Prop}

mutual

theorem convertedAs_of_converts (p : Parameter) (hp : p.KeysDistinct) (raw value : PyValue)
    (h : Converts Allowed p raw value) : ConvertedAs p raw value := by
  obtain ⟨info, parameters⟩ := p
  rw [Converts] at h
  rw [ConvertedAs]
  refine ⟨h.1, ?_⟩
  have h := h.2
  split_ifs at h ⊢
  · obtain ⟨d, values, hd, hkeys, hvalues, rfl⟩ := h
    have hlookup := get?_savedDict hvalues.length_eq hp.1
    exact ⟨d, _, hd, rfl, hkeys, keys_savedDict hvalues.length_eq hp.1,
      savedEach_of_admitsEach parameters hp.2 d values _ hlookup hvalues⟩
  · exact h

theorem savedEach_of_admitsEach (parameters : List Parameter)
    (hp : Parameter.AllKeysDistinct parameters) (supplied : PyDict) (values : List PyValue)
    (saved : PyDict)
    (hlookup : List.Forall₂ (fun (p : Parameter) v =>
      InsertionDict.get? saved (.str p.info.key) = some v) parameters values)
    (h : AdmitsEach Allowed parameters supplied values) :
    SavedEach parameters supplied saved := by
  match parameters, values, hp, hlookup, h with
  | [], _, _, _, _ => trivial
  | p :: rest, value :: values, hp, .cons hvalue hrest, h =>
    obtain ⟨hadmits, h⟩ := admitsEach_cons.mp h
    rw [SavedEach]
    exact ⟨⟨value, hvalue, hadmits.nullable,
      hadmits.2.1.mono (convertedAs_of_converts p hp.1)⟩,
      savedEach_of_admitsEach rest hp.2 supplied values saved hrest h⟩

end

end Distinct

section Results

variable {σ : Type} {services : Services σ} {request : Request}

theorem eq_of_matchCommandType {command : Command} {request' : Request}
    (h : matchCommandType request command = .ok request') :
    request' = { request with commandType := some command.commandType } := by
  unfold matchCommandType at h
  cases hc : request.commandType with
  | none =>
    rw [hc] at h
    cases h
    rfl
  | some commandType =>
    simp only [hc, invalid] at h
    split_ifs at h with heq
    cases h
    rw [bne_iff_ne, not_not] at heq
    rw [heq, ← hc]

theorem eq_of_matchOutputType {command : Command} {request' : Request}
    (h : matchOutputType request command = .ok request') :
    request' = { request with outputType := some command.outputType } := by
  unfold matchOutputType at h
  cases hc : request.outputType with
  | none =>
    rw [hc] at h
    cases h
    rfl
  | some outputType =>
    simp only [hc, invalid] at h
    split_ifs at h with heq
    cases h
    rw [bne_iff_ne, not_not] at heq
    rw [heq, ← hc]

theorem getAndValidateCommandForSystem_request {system : Option SystemDocument} {s s' : σ}
    {found : Command} {request' : Request}
    (h : getAndValidateCommandForSystem services request system s = .ok ((found, request'), s')) :
    ∃ commandType outputType, request' =
      { request with commandType := commandType, outputType := outputType } := by
  unfold getAndValidateCommandForSystem at h
  simp only [bind_eq_ok, lift_eq_ok] at h
  obtain ⟨document, s₁, -, command, _, ⟨-, rfl⟩, request₁, _, ⟨h₁, rfl⟩, request₂, _,
    ⟨h₂, rfl⟩, h⟩ := h
  cases h
  rw [eq_of_matchOutputType h₂, eq_of_matchCommandType h₁]
  exact ⟨_, _, rfl⟩

theorem commandFor_request {command : Option Command} {s s' : σ} {found : Command}
    {request' : Request}
    (h : commandFor services request command s = .ok ((found, request'), s')) :
    ∃ commandType outputType, request' =
      { request with commandType := commandType, outputType := outputType } := by
  cases command with
  | none => exact getAndValidateCommandForSystem_request h
  | some command =>
    cases h
    exact ⟨_, _, rfl⟩

theorem commandFor_parameters {command : Option Command} {s s' : σ} {found : Command}
    {request' : Request}
    (h : commandFor services request command s = .ok ((found, request'), s')) :
    request'.parameters = request.parameters := by
  obtain ⟨commandType, outputType, rfl⟩ := commandFor_request h
  rfl

/-- Once the command is known, the validation of the parameters is what is left. -/
theorem getAndValidateParameters_eq_ok {command : Option Command} {s s₁ s' : σ}
    {found : Command} {request₁ request' : Request} {saved : PyDict}
    (hfound : commandFor services request command s = .ok ((found, request₁), s₁)) :
    getAndValidateParameters services request command s = .ok ((saved, request'), s') ↔
      request' = request₁ ∧
        validateParameters services request₁ found.parameters request.parameters s₁ =
          .ok (saved, s') := by
  have hparameters := commandFor_parameters hfound
  unfold getAndValidateParameters
  simp only [bind_eq_ok, hfound]
  constructor
  · rintro ⟨_, _, hcommand, result, s₂, hvalidate, hresult⟩
    cases hcommand
    cases hresult
    rw [hparameters] at hvalidate
    exact ⟨rfl, hvalidate⟩
  · rintro ⟨rfl, hvalidate⟩
    rw [← hparameters] at hvalidate
    exact ⟨_, _, rfl, saved, s', hvalidate, rfl⟩

theorem admitted_of_getAndValidate {Allowed : ParameterInfo → PyValue → Prop}
    {command : Option Command} {s s₁ s' : σ} {found : Command} {request₁ request' : Request}
    {saved : PyDict}
    (hsound : ∀ info v s s', validateConstraints services request₁ v info s = .ok ((), s') →
      Allowed info v)
    (hfound : commandFor services request command s = .ok ((found, request₁), s₁))
    (h : getAndValidateParameters services request command s = .ok ((saved, request'), s')) :
    OnlyDeclaredKeys found.parameters request.parameters ∧
      ∃ values, AdmitsEach Allowed found.parameters request.parameters values ∧
        saved = savedDict found.parameters values := by
  obtain ⟨-, hvalidate⟩ := (getAndValidateParameters_eq_ok hfound).mp h
  exact @admitted_of_validate_eq_ok σ services request₁ (fun _ => True) Allowed
    (fun info _ => hsound info) found.parameters
    (Parameter.allEverywhere_of_forall (fun _ => trivial) _) _ _ _ _ hvalidate

/-- Whatever `get_and_validate_parameters` returns is saved from the request's
parameters, which are left as they were. -/
theorem getAndValidateParameters_savedFrom {command : Option Command} {s s₁ s' : σ}
    {found : Command} {request₁ request' : Request} {saved : PyDict}
    (hfound : commandFor services request command s = .ok ((found, request₁), s₁))
    (hdistinct : SiblingKeysDistinct found.parameters)
    (h : getAndValidateParameters services request command s = .ok ((saved, request'), s')) :
    SavedFrom found.parameters request.parameters saved ∧
      request'.parameters = request.parameters := by
  obtain ⟨hkeys, values, hvalues, rfl⟩ :=
    @admitted_of_getAndValidate σ services request (fun _ _ => True) command s s₁ s' found request₁
      request' saved (fun _ _ _ _ _ => trivial) hfound h
  obtain ⟨rfl, -⟩ := (getAndValidateParameters_eq_ok hfound).mp h
  refine ⟨⟨hkeys, keys_savedDict hvalues.length_eq hdistinct.1, ?_⟩, commandFor_parameters hfound⟩
  exact savedEach_of_admitsEach _ hdistinct.2 _ _ _
    (get?_savedDict hvalues.length_eq hdistinct.1) hvalues

/-- A multi dictionary with a nullable and a defaulted parameter. -/
theorem getAndValidateParameters_savedFrom_nested :
    SavedFrom
      [⟨{ plainParameter "files" .dictionary with multi := true },
        [⟨plainParameter "path" .string, []⟩,
          ⟨{ plainParameter "mode" .any with default := .str "r", nullable := true }, []⟩]⟩]
      [(.str "files", .list [.dict [(.str "mode", .none), (.str "path", .str "a")],
        .list [.list [.str "path", .str "b"]]])]
      [(.str "files", .list [.dict [(.str "path", .str "a"), (.str "mode", .none)],
        .dict [(.str "path", .str "b"), (.str "mode", .str "r")]])] :=
  (@getAndValidateParameters_savedFrom Unit quietServices
    (sampleRequest [(.str "files", .list [.dict [(.str "mode", .none), (.str "path", .str "a")],
      .list [.list [.str "path", .str "b"]]])])
    (some (sampleCommand [⟨{ plainParameter "files" .dictionary with multi := true },
      [⟨plainParameter "path" .string, []⟩,
        ⟨{ plainParameter "mode" .any with default := .str "r", nullable := true }, []⟩]⟩]))
    () () () _ _ _ _ rfl ⟨by decide, ⟨by decide, by trivial⟩, trivial⟩ rfl).1

end Results

end Bartender
