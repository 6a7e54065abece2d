import Bartender.Library.StatefulExcept
import Bartender.Requests.Admission

/-!
# The order of the supplied parameters

A request's parameters are a dictionary, and the order in which they are listed
does not matter: the services are asked the same, and the same request comes out
or an error with the same text, whose arguments may show the order.
-/

namespace Bartender

open StatefulExcept

def SameEntries (d d' : PyDict) : Prop :=
  ∀ key, InsertionDict.get? d key = InsertionDict.get? d' key

/-- The same error, or a rejection with the same text. -/
inductive SameReport : PyError → PyError → Prop
  | same (e : PyError) : SameReport e e
  | rejected (format : String) (arguments arguments' : List PyValue) :
      SameReport (.modelValidationError ⟨format, arguments⟩)
        (.modelValidationError ⟨format, arguments'⟩)

section Validation

variable {σ : Type} (services : Services σ) {request : Request} {parameters : PyDict}

abbrev Alike {α : Type} (x y : Validation σ α) : Prop := Related SameReport Eq x y

theorem mapParamValues_congr (h : SameEntries request.parameters parameters)
    (args : List (String × String)) (paramMap : PyDict) :
    mapParamValues { request with parameters := parameters } args paramMap =
      mapParamValues request args paramMap := by
  induction args generalizing paramMap with
  | nil => rfl
  | cons arg rest ih =>
    obtain ⟨name, ref⟩ := arg
    unfold mapParamValues
    rw [h (.str ref)]
    split_ifs
    · exact ih _
    · cases InsertionDict.get? parameters (.str ref) with
      | none => rfl
      | some value => exact ih _

theorem staticChoices_congr (h : SameEntries request.parameters parameters)
    (info : ParameterInfo) (choices : Choices) :
    staticChoices { request with parameters := parameters } info choices =
      staticChoices request info choices := by
  have hlookup : ∀ key, InsertionDict.get? request.parameters key =
      InsertionDict.get? parameters key := h
  unfold staticChoices
  cases choices.value with
  | dict entries =>
    dsimp only [dictionaryChoices]
    simp only [hlookup]
  | _ => rfl

theorem choicesRequest_congr (h : SameEntries request.parameters parameters)
    (info : ParameterInfo) (choices : Choices) :
    choicesRequest services { request with parameters := parameters } info choices =
      choicesRequest services request info choices := by
  unfold choicesRequest
  simp only [mapParamValues_congr h]

theorem validateValueInChoices_congr (h : SameEntries request.parameters parameters)
    (value : PyValue) (info : ParameterInfo) :
    validateValueInChoices services { request with parameters := parameters } value info =
      validateValueInChoices services request value info := by
  unfold validateValueInChoices rawChoices urlChoices commandChoices
  simp only [staticChoices_congr h, mapParamValues_congr h, choicesRequest_congr services h]

theorem validateConstraints_congr (h : SameEntries request.parameters parameters)
    (value : PyValue) (info : ParameterInfo) :
    validateConstraints services { request with parameters := parameters } value info =
      validateConstraints services request value info := by
  unfold validateConstraints
  rw [validateValueInChoices_congr services h]

theorem onlyDeclaredKeys_iff {parameters : List Parameter} {d : PyDict} :
    OnlyDeclaredKeys parameters d ↔ ∀ key, (InsertionDict.get? d key).isSome = true →
      (declaredKeys parameters).contains key = true := by
  unfold OnlyDeclaredKeys
  simp only [← InsertionDict.contains_eq_isSome, InsertionDict.contains, InsertionDict.keys,
    List.any_eq_true, List.mem_map]
  constructor
  · rintro h key ⟨entry, hentry, hkey⟩
    rw [← List.contains_congr hkey]
    exact h entry.1 ⟨entry, hentry, rfl⟩
  · rintro h _ ⟨entry, hentry, rfl⟩
    exact h entry.1 ⟨entry, hentry, BEq.rfl⟩

theorem validateNoExtra_alike {d d' : PyDict} (h : SameEntries d d')
    (parameters : List Parameter) :
    Alike (liftM (validateNoExtraRequestParameterKeys d parameters) : Validation σ Unit)
      (liftM (validateNoExtraRequestParameterKeys d' parameters)) := by
  have hcases : ∀ d, validateNoExtraRequestParameterKeys d parameters = .ok () ∨
      ∃ arguments, validateNoExtraRequestParameterKeys d parameters =
        .error (.modelValidationError
          ⟨"Unknown key '%s' provided in the parameters. Valid Keys are: %s", arguments⟩) := by
    intro d
    unfold validateNoExtraRequestParameterKeys invalid
    dsimp only
    split
    · exact .inl rfl
    · exact .inr ⟨_, rfl⟩
  have hkeys : OnlyDeclaredKeys parameters d ↔ OnlyDeclaredKeys parameters d' := by
    have hlookup : ∀ key, InsertionDict.get? d key = InsertionDict.get? d' key := h
    simp only [onlyDeclaredKeys_iff, hlookup]
  rw [← validateNoExtra_eq_ok, ← validateNoExtra_eq_ok] at hkeys
  rcases hcases d with hd | ⟨arguments, hd⟩
  · rw [hd, hkeys.mp hd]
    exact .pure rfl
  · rcases hcases d' with hd' | ⟨arguments', hd'⟩
    · rw [hkeys.mpr hd'] at hd
      cases hd
    · rw [hd, hd']
      exact .lift_error (.rejected _ _ _)

theorem validateRequired_alike {d d' : PyDict} (h : SameEntries d d') (info : ParameterInfo)
    (other : Request) :
    Alike (liftM (validateRequiredParameterIsIncludedInRequest request info d) : Validation σ Unit)
      (liftM (validateRequiredParameterIsIncludedInRequest other info d')) := by
  unfold validateRequiredParameterIsIncludedInRequest
  rw [InsertionDict.contains_eq_isSome, InsertionDict.contains_eq_isSome, h]
  split_ifs
  · exact .lift_error (.rejected _ _ _)
  · exact .pure rfl

theorem catchConversion_alike {α : Type} {x y : Validation σ α} (h : Alike x y)
    (info : ParameterInfo) : Alike (catchConversion info x) (catchConversion info y) := by
  intro s
  have hs := h s
  unfold catchConversion
  revert hs
  generalize x s = result, y s = result'
  rintro (rfl | @⟨e, e', he⟩)
  · exact .ok rfl
  · cases he with
    | same => cases e <;> exact .error (.same _)
    | rejected format arguments arguments' => exact .error (.rejected _ _ _)

theorem extract_alike {convert convert' : PyValue → Validation σ PyValue}
    (hconvert : ∀ raw, Alike (convert raw) (convert' raw)) {d d' : PyDict}
    (h : SameEntries d d') (info : ParameterInfo) :
    Alike (extractParameterValueFromRequest convert info d)
      (extractParameterValueFromRequest convert' info d') := by
  have hsupplied : suppliedValue info d = suppliedValue info d' := by
    unfold suppliedValue
    rw [h]
  unfold extractParameterValueFromRequest
  rw [hsupplied]
  split_ifs
  · exact .pure rfl
  · cases suppliedValue info d' with
    | list raws =>
      refine (Related.mapM hconvert raws).bind ?_
      rintro values _ rfl
      exact .pure rfl
    | _ => exact .lift_error (.same _)
  · exact hconvert _

mutual

/-- A single value is validated alike, whatever the order of the request's parameters. -/
theorem validateParameterBasedOnType_alike (h : SameEntries request.parameters parameters)
    (p : Parameter) (raw : PyValue) :
    Alike (validateParameterBasedOnType services request p raw)
      (validateParameterBasedOnType services { request with parameters := parameters } p raw) := by
  obtain ⟨info, nested⟩ := p
  unfold validateParameterBasedOnType
  refine catchConversion_alike ?_ info
  split_ifs
  · exact .lift_error (.same _)
  · refine (Related.refl .same _).bind ?_
    rintro d _ rfl
    refine (Related.refl .same _).bind ?_
    rintro _ _ rfl
    refine (saveParameters_alike h nested d d (fun _ => rfl) []).bind ?_
    rintro saved _ rfl
    exact .pure rfl
  · exact .refl .same _

theorem saveParameters_alike (h : SameEntries request.parameters parameters)
    (declared : List Parameter) (d d' : PyDict) (hd : SameEntries d d') (saved : PyDict) :
    Alike (saveParameters services request declared d saved)
      (saveParameters services { request with parameters := parameters } declared d' saved) := by
  match declared with
  | [] => exact .pure rfl
  | p :: rest =>
    rw [saveParameters_cons, saveParameters_cons]
    refine (validateRequired_alike hd p.info _).bind ?_
    rintro _ _ rfl
    refine (extract_alike (fun raw => validateParameterBasedOnType_alike h p raw) hd p.info).bind ?_
    rintro value _ rfl
    rw [validateConstraints_congr services h]
    refine (Related.refl .same _).bind ?_
    rintro _ _ rfl
    exact saveParameters_alike h rest d d' hd _

end

def Reordered (first second : PyDict) (typed typed' : Request) : Prop :=
  typed.parameters = first ∧ typed' = { typed with parameters := second }

theorem matchCommandType_alike {typed typed' : Request} {first second : PyDict}
    (h : Reordered first second typed typed') (command : Command) :
    Related SameReport (Reordered first second)
      (liftM (matchCommandType typed command) : Validation σ Request)
      (liftM (matchCommandType typed' command)) := by
  obtain ⟨rfl, rfl⟩ := h
  unfold matchCommandType
  dsimp only
  cases htype : typed.commandType with
  | none => exact .pure ⟨rfl, rfl⟩
  | some commandType =>
    dsimp only
    split_ifs
    · exact .lift_error (.same _)
    · exact .pure ⟨rfl, by rw [htype]⟩

theorem matchOutputType_alike {typed typed' : Request} {first second : PyDict}
    (h : Reordered first second typed typed') (command : Command) :
    Related SameReport (Reordered first second)
      (liftM (matchOutputType typed command) : Validation σ Request)
      (liftM (matchOutputType typed' command)) := by
  obtain ⟨rfl, rfl⟩ := h
  unfold matchOutputType
  dsimp only
  cases htype : typed.outputType with
  | none => exact .pure ⟨rfl, rfl⟩
  | some outputType =>
    dsimp only
    split_ifs
    · exact .lift_error (.same _)
    · exact .pure ⟨rfl, by rw [htype]⟩

/-- The commands found are the same, and the requests with their types filled in
differ in their parameters only. -/
theorem getAndValidateCommandForSystem_alike (system : SystemDocument) :
    Related SameReport
      (fun found found' => found.1 = found'.1 ∧
        Reordered request.parameters parameters found.2 found'.2)
      (getAndValidateCommandForSystem services request (some system))
      (getAndValidateCommandForSystem services { request with parameters := parameters }
        (some system)) := by
  have hfind : findCommand { request with parameters := parameters } system =
      findCommand request system := rfl
  unfold getAndValidateCommandForSystem systemFor
  simp only [pure_bind, hfind]
  refine (Related.refl .same _).bind ?_
  rintro command _ rfl
  refine (matchCommandType_alike ⟨rfl, rfl⟩ command).bind fun typed typed' htyped => ?_
  refine (matchOutputType_alike htyped command).bind fun typed typed' htyped => ?_
  exact .pure ⟨rfl, htyped⟩

/-- Listing the parameters in another order changes neither the request that
comes out nor what the services are asked; at most the arguments of a rejection. -/
theorem validateRequest_perm (hdistinct : InsertionDict.DistinctKeys request.parameters)
    (hperm : request.parameters.Perm parameters) (s : σ) :
    SameOutcome SameReport Eq (validateRequest services request s)
      (validateRequest services { request with parameters := parameters } s) := by
  have hentries : SameEntries request.parameters parameters := hdistinct.get?_perm hperm
  have hsystem : getAndValidateSystem services { request with parameters := parameters } =
      getAndValidateSystem services request := rfl
  suffices halike : Alike (validateRequest services request)
      (validateRequest services { request with parameters := parameters }) from halike s
  unfold validateRequest
  rw [hsystem]
  refine (Related.refl .same _).bind ?_
  rintro system _ rfl
  refine (getAndValidateCommandForSystem_alike services system).bind ?_
  rintro ⟨command, typed⟩ ⟨command', typed'⟩ ⟨hcommand, htyped, htyped'⟩
  dsimp only at hcommand htyped htyped' ⊢
  subst hcommand htyped'
  rw [← htyped] at hentries
  unfold getAndValidateParameters commandFor validateParameters
  simp only [pure_bind, bind_assoc]
  refine (validateNoExtra_alike hentries command.parameters).bind ?_
  rintro _ _ rfl
  refine (saveParameters_alike services hentries command.parameters _ _ hentries []).bind ?_
  rintro saved _ rfl
  exact .pure rfl

/-- Two parameters, given the other way round the second time. -/
theorem validateRequest_perm_sample :
    SameOutcome SameReport Eq
      (validateRequest { quietServices with findUnique := fun _ _ => pure (some (sampleSystem
          [⟨plainParameter "a" .string, []⟩, ⟨plainParameter "b" .string, []⟩])) }
        (sampleRequest [(.str "a", .str "1"), (.str "b", .str "2")]) ())
      (validateRequest { quietServices with findUnique := fun _ _ => pure (some (sampleSystem
          [⟨plainParameter "a" .string, []⟩, ⟨plainParameter "b" .string, []⟩])) }
        (sampleRequest [(.str "b", .str "2"), (.str "a", .str "1")]) ()) :=
  @validateRequest_perm Unit _ (sampleRequest [(.str "a", .str "1"), (.str "b", .str "2")]) _
    (by simp [InsertionDict.DistinctKeys, InsertionDict.keys, sampleRequest])
    (List.Perm.swap _ _ _) ()

end Validation

end Bartender
