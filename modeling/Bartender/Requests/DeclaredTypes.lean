import Bartender.Requests.Bounds

/-!
# Declared types

What is saved for a parameter has its declared type, at every level, with one
exception: `value in [True, False]` is a comparison, which a number passes as
well, and the number itself is what is saved.
-/

namespace Bartender

open StatefulExcept

/-- A single value of the type; nested parameters are not looked at. -/
def ParameterType.Holds : ParameterType → PyValue → Prop
  | .string, .str _ => True
  | .integer, .int _ => True
  | .date, .int _ => True
  | .dateTime, .int _ => True
  | .float, .float _ => True
  | .boolean, .bool _ => True
  | .dictionary, .dict _ => True
  | .any, _ => True
  | _, _ => False

def PyValue.IsNumber : PyValue → Prop
  | .int _ => True
  | .float _ => True
  | _ => False

mutual

/-- A single value of the parameter's type, and everything saved inside of it. -/
def Parameter.HasType : Parameter → PyValue → Prop
  | ⟨info, parameters⟩, value =>
    info.type.Holds value ∧
      ∀ saved, info.type = .dictionary → value = .dict saved →
        Parameter.EachHasType parameters saved

/-- Of several parameters with one key the last one's value is saved. -/
def Parameter.EachHasType : List Parameter → PyDict → Prop
  | [], _ => True
  | p :: rest, saved =>
    (p.info.key ∉ rest.map (·.info.key) →
      ∀ value ∈ InsertionDict.get? saved (.str p.info.key), value.isNone = false →
        if p.info.multi then ∃ values, value = .list values ∧ ∀ v ∈ values, p.HasType v
        else p.HasType value) ∧
    Parameter.EachHasType rest saved

end

mutual

/-- No number is supplied for a Boolean parameter, in the value or inside of it. -/
def Parameter.NoNumberForBoolean : Parameter → PyValue → Prop
  | ⟨info, parameters⟩, raw =>
    (info.type = .boolean → ¬ raw.IsNumber) ∧
      ∀ supplied, info.type = .dictionary → raw.toDict = .ok supplied →
        Parameter.EachNoNumberForBoolean parameters supplied

def Parameter.EachNoNumberForBoolean : List Parameter → PyDict → Prop
  | [], _ => True
  | p :: rest, supplied =>
    (p.info.key ∉ rest.map (·.info.key) →
      if p.info.multi then
        ∀ raws, suppliedValue p.info supplied = .list raws → ∀ raw ∈ raws, p.NoNumberForBoolean raw
      else p.NoNumberForBoolean (suppliedValue p.info supplied)) ∧
    Parameter.EachNoNumberForBoolean rest supplied

end

section Single

variable {Allowed : ParameterInfo → PyValue → Prop}

theorem holds_boolean_iff {raw : PyValue} (h : raw.isIn [.bool true, .bool false] = true) :
    ParameterType.boolean.Holds raw ↔ ¬ raw.IsNumber := by
  cases raw with
  | bool b => simp [ParameterType.Holds, PyValue.IsNumber]
  | int n => simp [ParameterType.Holds, PyValue.IsNumber]
  | float x => simp [ParameterType.Holds, PyValue.IsNumber]
  | _ => simp [PyValue.isIn, PyValue.eq, PyValue.isNone, PyValue.number?] at h

/-- The plain conversions return a value of their type, a Boolean's aside. -/
theorem holds_iff_of_convertPlain {type : ParameterType} {raw value : PyValue}
    (h : convertPlain type raw = .ok value) :
    type.Holds value ↔ (type = .boolean → ¬ raw.IsNumber) := by
  cases type with
  | string =>
    cases raw <;> cases h
    simp [ParameterType.Holds]
  | any => simp [ParameterType.Holds]
  | boolean =>
    rw [convertPlain] at h
    split_ifs at h with hin
    cases h
    simpa using holds_boolean_iff hin
  | integer =>
    obtain ⟨n, -, h⟩ := except_bind_eq_ok.mp h
    obtain ⟨x, -, h⟩ := except_bind_eq_ok.mp h
    split_ifs at h
    cases h
    simp [ParameterType.Holds]
  | other name => cases h
  | _ =>
    obtain ⟨_, -, h⟩ := except_bind_eq_ok.mp h
    cases h
    simp [ParameterType.Holds]

theorem noNumberForBoolean_none (p : Parameter) : p.NoNumberForBoolean .none := by
  obtain ⟨info, parameters⟩ := p
  rw [Parameter.NoNumberForBoolean]
  refine ⟨fun _ h => h, fun supplied _ hsupplied => ?_⟩
  cases hsupplied

theorem Converts.eq_none {p : Parameter} {raw : PyValue} (h : Converts Allowed p raw .none) :
    raw = .none := by
  obtain ⟨info, parameters⟩ := p
  rw [Converts] at h
  have h := h.2
  split_ifs at h
  · obtain ⟨_, _, -, -, -, hvalue⟩ := h
    cases hvalue
  · exact convertPlain_eq_none h

/-- What holds of the single values of a parameter holds of its value, null aside. -/
theorem Taken.hasType_iff {p : Parameter}
    (hsingle : ∀ raw v, Converts Allowed p raw v → (p.HasType v ↔ p.NoNumberForBoolean raw))
    {raw value : PyValue} (h : Taken p.info (Converts Allowed p) raw value) :
    (value.isNone = false →
        if p.info.multi then ∃ values, value = .list values ∧ ∀ v ∈ values, p.HasType v
        else p.HasType value) ↔
      if p.info.multi then ∀ raws, raw = .list raws → ∀ raw ∈ raws, p.NoNumberForBoolean raw
      else p.NoNumberForBoolean raw := by
  unfold Taken at h
  split_ifs at h with hnull hmulti
  · obtain rfl := PyValue.isNone_iff.mp (Bool.and_eq_true_iff.mp hnull).1
    subst h
    simp [PyValue.isNone, noNumberForBoolean_none]
  · obtain ⟨raws, values, rfl, rfl, hall⟩ := h
    have hiff := forall_mem_iff_of_forall₂ (fun a b hab => (hsingle a b hab).symm) hall
    simp [hmulti, PyValue.isNone, hiff]
  · rw [if_neg hmulti, if_neg hmulti]
    cases hnone : value.isNone with
    | true =>
      obtain rfl := PyValue.isNone_iff.mp hnone
      obtain rfl := h.eq_none
      simp [noNumberForBoolean_none]
    | false => simpa using hsingle raw value h

end Single

section Trees

variable {Allowed : ParameterInfo → PyValue → Prop}

mutual

/-- A converted value has its type if and only if no number was supplied for a
Boolean. -/
theorem hasType_iff (p : Parameter) (raw value : PyValue) (h : Converts Allowed p raw value) :
    p.HasType value ↔ p.NoNumberForBoolean raw := by
  obtain ⟨info, parameters⟩ := p
  rw [Converts] at h
  rw [Parameter.HasType, Parameter.NoNumberForBoolean]
  have h := h.2
  split_ifs at h with htype
  · obtain ⟨d, values, hd, -, hvalues, rfl⟩ := h
    have hrest : Parameter.EachHasType parameters (savedDict parameters values) ↔
        Parameter.EachNoNumberForBoolean parameters d :=
      eachHasType_iff parameters d values _ (findsLast_update hvalues.length_eq []) hvalues
    simpa [htype.1, ParameterType.Holds, hd] using hrest
  · rw [holds_iff_of_convertPlain h]
    refine and_congr_right fun _ => ?_
    have hparameters : info.type = .dictionary → parameters = [] := by
      intro hdictionary
      by_contra hne
      exact htype ⟨hdictionary, hne⟩
    constructor
    · intro _ supplied hdictionary _
      rw [hparameters hdictionary]
      trivial
    · intro _ saved hdictionary _
      rw [hparameters hdictionary]
      trivial

theorem eachHasType_iff (parameters : List Parameter) (supplied : PyDict) (values : List PyValue)
    (saved : PyDict) (hfinds : FindsLast parameters values saved)
    (h : AdmitsEach Allowed parameters supplied values) :
    Parameter.EachHasType parameters saved ↔
      Parameter.EachNoNumberForBoolean parameters supplied := by
  match parameters, values, hfinds, h with
  | [], _, _, _ => exact Iff.rfl
  | p :: rest, value :: values, hfinds, h =>
    obtain ⟨⟨-, htaken, -⟩, hrest⟩ := admitsEach_cons.mp h
    rw [Parameter.EachHasType, Parameter.EachNoNumberForBoolean]
    refine and_congr (imp_congr_right fun hlast => ?_)
      (eachHasType_iff rest supplied values saved hfinds.2 hrest)
    rw [hfinds.1 hlast]
    simp only [Option.mem_some_iff, forall_eq']
    exact htaken.hasType_iff (hasType_iff p)

end

end Trees

section Results

variable {σ : Type} {services : Services σ} {request : Request}

/-- The saved values have their declared types, at every level, exactly when no
Boolean parameter was given a number. -/
theorem getAndValidateParameters_eachHasType_iff {command : Option Command} {s s₁ s' : σ}
    {found : Command} {request₁ request' : Request} {saved : PyDict}
    (hfound : commandFor services request command s = .ok ((found, request₁), s₁))
    (h : getAndValidateParameters services request command s = .ok ((saved, request'), s')) :
    Parameter.EachHasType found.parameters saved ↔
      Parameter.EachNoNumberForBoolean found.parameters request.parameters := by
  obtain ⟨-, values, hvalues, rfl⟩ :=
    @admitted_of_getAndValidate σ services request (fun _ _ => True) command s s₁ s' found request₁
      request' saved (fun _ _ _ _ _ => trivial) hfound h
  exact eachHasType_iff _ _ values _ (findsLast_update hvalues.length_eq []) hvalues

def sampleFlag : Parameter := ⟨plainParameter "flag" .boolean, []⟩

/-- What equals a boolean is accepted and saved for it. -/
theorem getAndValidateParameters_flag {value : PyValue}
    (h : value.isIn [.bool true, .bool false] = true) :
    getAndValidateParameters quietServices (sampleRequest [(.str "flag", value)])
        (some (sampleCommand [sampleFlag])) () =
      .ok (([(.str "flag", value)], sampleRequest [(.str "flag", value)]), ()) := by
  have hplain : Unconstrained sampleFlag.info := ⟨rfl, rfl, rfl, rfl⟩
  have hconverts : Converts (fun _ _ => True) sampleFlag value value := by
    rw [sampleFlag, Converts]
    refine ⟨fun hnone => ?_, if_pos h⟩
    rw [PyValue.isNone_iff.mp hnone] at h
    cases h
  have htaken : Taken sampleFlag.info (Converts (fun _ _ => True) sampleFlag) value value := by
    unfold Taken
    rw [if_neg (by simp [sampleFlag, plainParameter]),
      if_neg (by simp [sampleFlag, plainParameter])]
    exact hconverts
  have hadmits : AdmitsEach (fun _ _ => True) [sampleFlag] [(.str "flag", value)] [value] :=
    ⟨⟨.inr (.inl rfl), htaken, trivial⟩, trivial⟩
  have hvalidate := @validate_eq_ok_of_admitted Unit quietServices
    (sampleRequest [(.str "flag", value)]) (fun info => info = sampleFlag.info) (fun _ _ => True)
    (fun info hinfo v _ s => by
      rw [hinfo]
      exact hplain.validateConstraints_eq_ok _ _ v s)
    [sampleFlag] ⟨⟨rfl, trivial⟩, trivial⟩ [(.str "flag", value)]
    (by simp [OnlyDeclaredKeys, InsertionDict.keys, declaredKeys, sampleFlag, plainParameter])
    [value] hadmits ()
  exact (getAndValidateParameters_eq_ok rfl).mpr ⟨rfl, hvalidate⟩

theorem isIn_booleans_true : (PyValue.bool true).isIn [.bool true, .bool false] = true := by
  simp [PyValue.isIn, PyValue.eq, PyValue.number?, Number.ofBool, Number.ofInt, Number.eq]

theorem isIn_booleans_one : (PyValue.int 1).isIn [.bool true, .bool false] = true := by
  simp [PyValue.isIn, PyValue.eq, PyValue.number?, Number.ofBool, Number.ofInt, Number.eq]

/-- A boolean is saved as it was sent. -/
theorem getAndValidateParameters_eachHasType_true :
    Parameter.EachHasType [sampleFlag] [(.str "flag", .bool true)] :=
  (@getAndValidateParameters_eachHasType_iff Unit quietServices
    (sampleRequest [(.str "flag", .bool true)]) (some (sampleCommand [sampleFlag])) () () () _ _ _ _
    rfl (getAndValidateParameters_flag isIn_booleans_true)).mpr
      ⟨fun _ => ⟨fun _ h => h, nofun⟩, trivial⟩

/-- `1` is saved for a Boolean parameter, where the plugin expects `True`. -/
theorem getAndValidateParameters_one :
    getAndValidateParameters quietServices (sampleRequest [(.str "flag", .int 1)])
        (some (sampleCommand [sampleFlag])) () =
      .ok (([(.str "flag", .int 1)], sampleRequest [(.str "flag", .int 1)]), ()) ∧
    ¬ Parameter.EachHasType [sampleFlag] [(.str "flag", .int 1)] := by
  refine ⟨getAndValidateParameters_flag isIn_booleans_one, fun h => ?_⟩
  exact (h.1 List.not_mem_nil (.int 1) rfl rfl).1

end Results

end Bartender
