import Bartender.Library.StatefulExcept
import Bartender.Requests.Validator

/-!
# What the validator accepts

A declarative account of the parameters that are accepted and of what is saved
for them, with the constraint checks left open as a predicate on a parameter
and its converted value. Whatever the validator returns is admitted; when the
constraint checks leave the services alone, everything admitted is returned.
-/

namespace Bartender

open StatefulExcept

/-- A value taken from the request, whose single values are related by `Single`. -/
def Taken (info : ParameterInfo) (Single : PyValue → PyValue → Prop) (raw value : PyValue) :
    Prop :=
  if raw.isNone && info.nullable then value = .none
  else if info.multi then
    ∃ raws values, raw = .list raws ∧ value = .list values ∧ List.Forall₂ Single raws values
  else Single raw value

def Provided (info : ParameterInfo) (requestParameters : PyDict) : Prop :=
  info.optional = true ∨ InsertionDict.contains requestParameters (.str info.key) = true ∨
    info.default.isNone = false

def OnlyDeclaredKeys (parameters : List Parameter) (requestParameters : PyDict) : Prop :=
  ∀ key ∈ InsertionDict.keys requestParameters, (declaredKeys parameters).contains key = true

def savedDict (parameters : List Parameter) (values : List PyValue) : PyDict :=
  InsertionDict.update [] ((declaredKeys parameters).zip values)

section Relations

variable (Allowed : ParameterInfo → PyValue → Prop)

mutual

/-- The second value is saved for the first as a single value of the parameter. -/
def Converts : Parameter → PyValue → PyValue → Prop
  | ⟨info, parameters⟩, raw, value =>
    (value.isNone = true → info.nullable = true) ∧
      if info.type = .dictionary ∧ parameters ≠ [] then
        ∃ d values, raw.toDict = .ok d ∧ OnlyDeclaredKeys parameters d ∧
          AdmitsEach parameters d values ∧ value = .dict (savedDict parameters values)
      else convertPlain info.type raw = .ok value

/-- The values are saved for the parameters, in order. -/
def AdmitsEach : List Parameter → PyDict → List PyValue → Prop
  | [], _, [] => True
  | p :: rest, d, value :: values =>
    (Provided p.info d ∧
      Taken p.info (fun raw v => Converts p raw v) (suppliedValue p.info d) value ∧
      Allowed p.info value) ∧ AdmitsEach rest d values
  | _, _, _ => False

end

/-- One parameter's part of `AdmitsEach`. -/
def Admits (p : Parameter) (d : PyDict) (value : PyValue) : Prop :=
  Provided p.info d ∧ Taken p.info (Converts Allowed p) (suppliedValue p.info d) value ∧
    Allowed p.info value

variable {Allowed}

theorem admitsEach_nil {d : PyDict} {values : List PyValue} :
    AdmitsEach Allowed [] d values ↔ values = [] := by
  cases values <;> simp [AdmitsEach]

theorem admitsEach_cons {p : Parameter} {rest : List Parameter} {d : PyDict} {value : PyValue}
    {values : List PyValue} :
    AdmitsEach Allowed (p :: rest) d (value :: values) ↔
      Admits Allowed p d value ∧ AdmitsEach Allowed rest d values := by
  simp only [AdmitsEach, Admits]

theorem AdmitsEach.length_eq {parameters : List Parameter} {d : PyDict} {values : List PyValue}
    (h : AdmitsEach Allowed parameters d values) : values.length = parameters.length := by
  induction parameters generalizing values with
  | nil => rw [admitsEach_nil.mp h]; rfl
  | cons p rest ih =>
    cases values with
    | nil => exact h.elim
    | cons value values =>
      rw [List.length_cons, List.length_cons, ih (admitsEach_cons.mp h).2]

theorem Taken.nullable {info : ParameterInfo} {Single : PyValue → PyValue → Prop}
    {raw value : PyValue}
    (hsingle : ∀ raw v, Single raw v → v.isNone = true → info.nullable = true)
    (h : Taken info Single raw value) (hnone : value.isNone = true) : info.nullable = true := by
  unfold Taken at h
  split_ifs at h with hnull hmulti
  · exact (Bool.and_eq_true _ _ ▸ hnull).2
  · obtain ⟨_, _, -, rfl, -⟩ := h
    cases hnone
  · exact hsingle _ _ h hnone

theorem Converts.nullable {p : Parameter} {raw value : PyValue} (h : Converts Allowed p raw value)
    (hnone : value.isNone = true) : p.info.nullable = true := by
  obtain ⟨info, parameters⟩ := p
  rw [Converts] at h
  exact h.1 hnone

theorem Admits.nullable {p : Parameter} {d : PyDict} {value : PyValue}
    (h : Admits Allowed p d value) (hnone : value.isNone = true) : p.info.nullable = true :=
  h.2.1.nullable (fun _ _ => Converts.nullable) hnone

section Unique

variable {Allowed' : ParameterInfo → PyValue → Prop}

theorem eq_of_forall₂ {α β : Type*} {R R' : α → β → Prop}
    (hunique : ∀ a b b', R a b → R' a b' → b = b') {as : List α} {bs bs' : List β}
    (h : List.Forall₂ R as bs) (h' : List.Forall₂ R' as bs') : bs = bs' := by
  induction h generalizing bs' with
  | nil =>
    cases h'
    rfl
  | cons hfirst _ ih =>
    cases h' with
    | cons hfirst' hrest' => rw [hunique _ _ _ hfirst hfirst', ih hrest']

theorem Taken.unique {info : ParameterInfo} {Single Single' : PyValue → PyValue → Prop}
    (hunique : ∀ raw v v', Single raw v → Single' raw v' → v = v') {raw value value' : PyValue}
    (h : Taken info Single raw value) (h' : Taken info Single' raw value') : value = value' := by
  unfold Taken at h h'
  split_ifs at h h' with hnull hmulti
  · rw [h, h']
  · obtain ⟨raws, values, rfl, rfl, hall⟩ := h
    obtain ⟨raws', values', hraws, rfl, hall'⟩ := h'
    cases hraws
    rw [eq_of_forall₂ hunique hall hall']
  · exact hunique _ _ _ h h'

mutual

theorem Converts.unique (p : Parameter) (raw value value' : PyValue)
    (h : Converts Allowed p raw value) (h' : Converts Allowed' p raw value') : value = value' := by
  obtain ⟨info, parameters⟩ := p
  rw [Converts] at h h'
  have h := h.2
  have h' := h'.2
  split_ifs at h h'
  · obtain ⟨d, values, hd, -, hvalues, rfl⟩ := h
    obtain ⟨d', values', hd', -, hvalues', rfl⟩ := h'
    obtain rfl : d = d' := Except.ok.inj (hd.symm.trans hd')
    rw [AdmitsEach.unique parameters d values values' hvalues hvalues']
  · exact Except.ok.inj (h.symm.trans h')

theorem AdmitsEach.unique (parameters : List Parameter) (d : PyDict) (values values' : List PyValue)
    (h : AdmitsEach Allowed parameters d values) (h' : AdmitsEach Allowed' parameters d values') :
    values = values' := by
  match parameters, values, values', h, h' with
  | [], _, _, h, h' => rw [admitsEach_nil.mp h, admitsEach_nil.mp h']
  | p :: rest, value :: values, value' :: values', h, h' =>
    obtain ⟨⟨-, htaken, -⟩, hrest⟩ := admitsEach_cons.mp h
    obtain ⟨⟨-, htaken', -⟩, hrest'⟩ := admitsEach_cons.mp h'
    rw [htaken.unique (Converts.unique p) htaken',
      AdmitsEach.unique rest d values values' hrest hrest']

end

end Unique

end Relations

section SavedDict

variable {parameters : List Parameter} {values : List PyValue}

theorem keys_zip (hlen : values.length = parameters.length) :
    InsertionDict.keys ((declaredKeys parameters).zip values) = declaredKeys parameters := by
  apply List.map_fst_zip
  simp [declaredKeys, hlen]

theorem get?_update_zip (hlen : values.length = parameters.length) (dict : PyDict) {key : String}
    (hkey : key ∉ parameters.map (·.info.key)) :
    InsertionDict.get? (InsertionDict.update dict ((declaredKeys parameters).zip values))
      (.str key) = InsertionDict.get? dict (.str key) := by
  refine InsertionDict.get?_update_of_ne _ fun other hother => ?_
  rw [keys_zip hlen] at hother
  obtain ⟨q, hq, rfl⟩ := List.mem_map.mp hother
  rw [PyKey.str_beq_str, beq_eq_false_iff_ne]
  exact fun he => hkey (he ▸ List.mem_map_of_mem hq)

theorem distinctKeys_zip (hlen : values.length = parameters.length)
    (hnodup : (declaredKeys parameters).Nodup) :
    InsertionDict.DistinctKeys ((declaredKeys parameters).zip values) := by
  unfold InsertionDict.DistinctKeys
  rw [keys_zip hlen]
  refine List.Pairwise.imp_of_mem ?_ hnodup
  intro a b ha hb hne
  obtain ⟨p, -, rfl⟩ := List.mem_map.mp ha
  obtain ⟨q, -, rfl⟩ := List.mem_map.mp hb
  rw [PyKey.str_beq_str, beq_eq_false_iff_ne]
  exact fun he => hne (he ▸ rfl)

theorem savedDict_eq (hlen : values.length = parameters.length)
    (hnodup : (declaredKeys parameters).Nodup) :
    savedDict parameters values = (declaredKeys parameters).zip values :=
  InsertionDict.update_eq_append (distinctKeys_zip hlen hnodup) fun _ _ => rfl

theorem keys_savedDict (hlen : values.length = parameters.length)
    (hnodup : (declaredKeys parameters).Nodup) :
    InsertionDict.keys (savedDict parameters values) = declaredKeys parameters := by
  rw [savedDict_eq hlen hnodup, keys_zip hlen]

theorem onlyDeclaredKeys_savedDict (hlen : values.length = parameters.length)
    (hnodup : (declaredKeys parameters).Nodup) :
    OnlyDeclaredKeys parameters (savedDict parameters values) := by
  intro key hkey
  rw [keys_savedDict hlen hnodup] at hkey
  exact List.contains_iff_exists_mem_beq.mpr ⟨key, hkey, BEq.rfl⟩

theorem get?_savedDict (hlen : values.length = parameters.length)
    (hnodup : (declaredKeys parameters).Nodup) :
    List.Forall₂ (fun (p : Parameter) v =>
      InsertionDict.get? (savedDict parameters values) (.str p.info.key) = some v)
      parameters values := by
  rw [List.forall₂_iff_zip, savedDict_eq hlen hnodup]
  refine ⟨hlen.symm, fun {p v} hmem => (distinctKeys_zip hlen hnodup).get?_eq ?_⟩
  rw [declaredKeys, List.zip_map_left]
  exact List.mem_map.mpr ⟨(p, v), hmem, rfl⟩

end SavedDict

section BoundChecks

/-- What tells the checks of the two bounds apart: which bound is read, when a
length or a number crosses it, and what is said then. -/
structure BoundCheck where
  bound : ParameterInfo → Option ℤ
  crosses : Number → Number → Bool
  lengthFormat : String
  valueFormat : String

namespace BoundCheck

def maximum : BoundCheck where
  bound := ParameterInfo.maximum
  crosses bound number := bound.lt number
  lengthFormat := "Length %s is greater than the maximum allowed length (%s) " ++ "for parameter %s"
  valueFormat := "Value %s is greater than the maximum allowed value (%s) " ++ "for parameter %s"

def minimum : BoundCheck where
  bound := ParameterInfo.minimum
  crosses bound number := number.lt bound
  lengthFormat := "Length %s is less than the minimum allowed length (%s) " ++ "for parameter %s"
  valueFormat := "Value %s is less than the minimum allowed value (%s) " ++ "for parameter %s"

variable (check : BoundCheck) {value : PyValue} {info : ParameterInfo}

def run (value : PyValue) (info : ParameterInfo) : Except PyError Unit :=
  if value.isNone || info.optional then .ok ()
  else
    match check.bound info with
    | none => .ok ()
    | some bound =>
      if bound = 0 then .ok ()
      else
        match value.len?, value.number? with
        | some length, _ =>
          if check.crosses (.ofInt bound) (.ofInt length) then
            invalid check.lengthFormat [.int length, .int bound, .str info.key]
          else .ok ()
        | none, some number =>
          if check.crosses (.ofInt bound) number then
            invalid check.valueFormat [value, .int bound, .str info.key]
          else .ok ()
        | none, none => .error .typeError

variable {check}

theorem run_of_no_bound (h : ¬∃ m, check.bound info = some m ∧ m ≠ 0) :
    check.run value info = .ok () := by
  unfold run
  cases hbound : check.bound info with
  | none => simp
  | some m =>
    have hzero : m = 0 := by
      by_contra hzero
      exact h ⟨m, hbound, hzero⟩
    simp [hzero]

theorem run_dict {d : PyDict} {m : ℤ} (hoptional : info.optional = false)
    (hbound : check.bound info = some m) (hzero : m ≠ 0) :
    check.run (.dict d) info = .error .typeError := by
  unfold run
  simp [hoptional, hbound, hzero, PyValue.isNone, PyValue.len?, PyValue.number?]

end BoundCheck

theorem validateMaximum_eq_run (value : PyValue) (info : ParameterInfo) :
    validateMaximum value info = BoundCheck.maximum.run value info := by
  have hcrosses : ∀ bound length : ℤ,
      BoundCheck.maximum.crosses (.ofInt bound) (.ofInt length) = decide (bound < length) :=
    Number.lt_ofInt
  unfold validateMaximum BoundCheck.run
  simp only [hcrosses, decide_eq_true_eq]
  rfl

theorem validateMinimum_eq_run (value : PyValue) (info : ParameterInfo) :
    validateMinimum value info = BoundCheck.minimum.run value info := by
  have hcrosses : ∀ bound length : ℤ,
      BoundCheck.minimum.crosses (.ofInt bound) (.ofInt length) = decide (length < bound) :=
    fun bound length => Number.lt_ofInt length bound
  unfold validateMinimum BoundCheck.run
  simp only [hcrosses, decide_eq_true_eq]
  rfl

end BoundChecks

section Checks

variable {σ : Type} (services : Services σ) (request : Request)

theorem validateNoExtra_eq_ok {parameters : List Parameter} {d : PyDict} :
    validateNoExtraRequestParameterKeys d parameters = .ok () ↔ OnlyDeclaredKeys parameters d := by
  unfold validateNoExtraRequestParameterKeys OnlyDeclaredKeys
  dsimp only
  cases h : (InsertionDict.keys d).find? fun key => !(declaredKeys parameters).contains key with
  | none =>
    rw [List.find?_eq_none] at h
    simpa using h
  | some key =>
    have hmem := List.mem_of_find?_eq_some h
    have hkey := List.find?_some h
    simp only [invalid, reduceCtorEq, false_iff, not_forall]
    exact ⟨key, hmem, by simpa using hkey⟩

theorem validateRequired_eq_ok {info : ParameterInfo} {d : PyDict} :
    validateRequiredParameterIsIncludedInRequest request info d = .ok () ↔ Provided info d := by
  unfold validateRequiredParameterIsIncludedInRequest Provided
  cases info.optional <;> cases InsertionDict.contains d (.str info.key) <;>
    cases info.default.isNone <;> simp [invalid]

/-- The checks made on a converted value, one after the other. -/
def validateConstraints (value : PyValue) (info : ParameterInfo) : Validation σ Unit := do
  validateValueInChoices services request value info
  validateMaximum value info
  validateMinimum value info
  validateRegex services value info

/-- Neither choices nor a bound nor a pattern is declared. -/
structure Unconstrained (info : ParameterInfo) : Prop where
  choices : info.choices = none
  maximum : info.maximum = none
  minimum : info.minimum = none
  regex : info.regex = none

theorem Unconstrained.validateConstraints_eq_ok {info : ParameterInfo} (h : Unconstrained info)
    (value : PyValue) (s : σ) :
    validateConstraints services request value info s = .ok ((), s) := by
  unfold validateConstraints validateValueInChoices validateMaximum validateMinimum validateRegex
  rw [h.choices, h.maximum, h.minimum, h.regex]
  simp only [ite_self]
  rfl

theorem saveParameters_cons (p : Parameter) (rest : List Parameter) (d saved : PyDict) :
    saveParameters services request (p :: rest) d saved = (do
      validateRequiredParameterIsIncludedInRequest request p.info d
      let value ← extractParameterValueFromRequest
        (validateParameterBasedOnType services request p) p.info d
      validateConstraints services request value p.info
      saveParameters services request rest d
        (InsertionDict.set saved (.str p.info.key) value)) := by
  simp only [saveParameters, validateConstraints, bind_assoc]

theorem catchConversion_eq_ok {α : Type} {info : ParameterInfo} {x : Validation σ α} {s : σ}
    {result : α × σ} : catchConversion info x s = .ok result ↔ x s = .ok result := by
  unfold catchConversion
  rcases h : x s with e | r
  · cases e <;> simp [invalid]
  · rfl

end Checks

section Exactness

variable {σ : Type} {services : Services σ} {request : Request} {P : ParameterInfo → Prop}
  {Allowed : ParameterInfo → PyValue → Prop}

/-- What is extracted is taken from the request, if single conversions are. -/
theorem taken_of_extract_eq_ok {convert : PyValue → Validation σ PyValue}
    {Single : PyValue → PyValue → Prop}
    (hconvert : ∀ raw s v s', convert raw s = .ok (v, s') → Single raw v)
    {info : ParameterInfo} {d : PyDict} {s : σ} {value : PyValue} {s' : σ}
    (h : extractParameterValueFromRequest convert info d s = .ok (value, s')) :
    Taken info Single (suppliedValue info d) value := by
  unfold extractParameterValueFromRequest at h
  unfold Taken
  split_ifs at h ⊢ with hnull hmulti
  · cases h
    rfl
  · cases hraw : suppliedValue info d with
    | list raws =>
      rw [hraw] at h
      simp only [bind_eq_ok] at h
      obtain ⟨values, s₁, hloop, h⟩ := h
      cases h
      exact ⟨raws, values, rfl, rfl, forall₂_of_mapM_eq_ok hconvert hloop⟩
    | _ =>
      rw [hraw] at h
      simp [invalid] at h
  · exact hconvert _ _ _ _ h

theorem extract_eq_ok_of_taken {convert : PyValue → Validation σ PyValue}
    {Single : PyValue → PyValue → Prop}
    (hconvert : ∀ raw v, Single raw v → ∀ s, convert raw s = .ok (v, s))
    {info : ParameterInfo} {d : PyDict} {value : PyValue}
    (h : Taken info Single (suppliedValue info d) value) (s : σ) :
    extractParameterValueFromRequest convert info d s = .ok (value, s) := by
  unfold extractParameterValueFromRequest
  unfold Taken at h
  split_ifs at h ⊢ with hnull hmulti
  · rw [h]
    rfl
  · obtain ⟨raws, values, hraw, rfl, hall⟩ := h
    rw [hraw]
    simp only [bind_eq_ok]
    exact ⟨values, s, mapM_eq_ok_of_forall₂ hconvert hall s, rfl⟩
  · exact hconvert _ _ h s

theorem convertPlain_eq_none {type : ParameterType} {raw : PyValue}
    (h : convertPlain type raw = .ok .none) : raw = .none := by
  cases type with
  | any =>
    cases h
    rfl
  | boolean =>
    rw [convertPlain] at h
    split_ifs at h
    cases h
    rfl
  | string => cases raw <;> cases h
  | integer =>
    obtain ⟨n, -, h⟩ := except_bind_eq_ok.mp h
    obtain ⟨x, -, h⟩ := except_bind_eq_ok.mp h
    split_ifs at h
    cases h
  | other name => cases h
  | _ =>
    obtain ⟨_, -, h⟩ := except_bind_eq_ok.mp h
    cases h

theorem convertPlain_none {type : ParameterType} {value : PyValue}
    (h : convertPlain type .none = .ok value) : value = .none := by
  cases type with
  | any =>
    cases h
    rfl
  | boolean =>
    have hfalse : PyValue.none.isIn [.bool true, .bool false] = false := by decide
    rw [convertPlain, hfalse] at h
    cases h
  | _ => cases h

mutual

/-- Whatever the type check returns for a value is a conversion of it. -/
theorem converts_of_validate_eq_ok
    (hsound : ∀ info, P info → ∀ v s s',
      validateConstraints services request v info s = .ok ((), s') → Allowed info v)
    (p : Parameter) (hp : p.Everywhere P) (raw : PyValue) (s : σ) (value : PyValue) (s' : σ)
    (h : validateParameterBasedOnType services request p raw s = .ok (value, s')) :
    Converts Allowed p raw value := by
  obtain ⟨info, parameters⟩ := p
  rw [validateParameterBasedOnType, catchConversion_eq_ok] at h
  rw [Converts]
  split_ifs at h with hnull htype
  · simp [invalid] at h
  · simp only [bind_eq_ok, lift_eq_ok] at h
    obtain ⟨d, _, ⟨hd, rfl⟩, _, _, ⟨hkeys, rfl⟩, saved, _, hsaved, h⟩ := h
    cases h
    obtain ⟨values, hvalues, rfl⟩ :=
      admitsEach_of_save_eq_ok hsound parameters hp.2 d [] _ _ _ hsaved
    rw [if_pos htype]
    exact ⟨nofun, d, values, hd, validateNoExtra_eq_ok.mp hkeys, hvalues, rfl⟩
  · rw [lift_eq_ok] at h
    rw [if_neg htype]
    refine ⟨fun hnone => ?_, h.1⟩
    by_contra hnullable
    have hraw := convertPlain_eq_none (PyValue.isNone_iff.mp hnone ▸ h.1)
    simp [hraw, hnullable, PyValue.isNone] at hnull

/-- Whatever the loop returns is admitted, parameter by parameter. -/
theorem admitsEach_of_save_eq_ok
    (hsound : ∀ info, P info → ∀ v s s',
      validateConstraints services request v info s = .ok ((), s') → Allowed info v)
    (parameters : List Parameter) (hp : Parameter.AllEverywhere P parameters) (d saved : PyDict)
    (s : σ) (result : PyDict) (s' : σ)
    (h : saveParameters services request parameters d saved s = .ok (result, s')) :
    ∃ values, AdmitsEach Allowed parameters d values ∧
      result = InsertionDict.update saved ((declaredKeys parameters).zip values) := by
  match parameters, hp with
  | [], _ =>
    rw [saveParameters] at h
    cases h
    exact ⟨[], admitsEach_nil.mpr rfl, rfl⟩
  | p :: rest, hp =>
    rw [saveParameters_cons] at h
    simp only [bind_eq_ok, lift_eq_ok] at h
    obtain ⟨_, _, ⟨hprovided, rfl⟩, value, s₁, hvalue, _, s₂, hchecks, h⟩ := h
    obtain ⟨values, hvalues, rfl⟩ := admitsEach_of_save_eq_ok hsound rest hp.2 d _ _ _ _ h
    have hadmits : Admits Allowed p d value :=
      ⟨(validateRequired_eq_ok request).mp hprovided,
        taken_of_extract_eq_ok (converts_of_validate_eq_ok hsound p hp.1) hvalue,
        hsound _ hp.1.here _ _ _ hchecks⟩
    exact ⟨value :: values, admitsEach_cons.mpr ⟨hadmits, hvalues⟩, rfl⟩

end

mutual

/-- A conversion of a value is what the type check returns for it. -/
theorem validate_eq_ok_of_converts
    (hcomplete : ∀ info, P info → ∀ v, Allowed info v → ∀ s,
      validateConstraints services request v info s = .ok ((), s))
    (p : Parameter) (hp : p.Everywhere P) (raw value : PyValue) (h : Converts Allowed p raw value)
    (s : σ) : validateParameterBasedOnType services request p raw s = .ok (value, s) := by
  obtain ⟨info, parameters⟩ := p
  rw [validateParameterBasedOnType, catchConversion_eq_ok]
  rw [Converts] at h
  obtain ⟨hnullable, h⟩ := h
  have hnull : ¬(raw.isNone && !info.nullable) = true := by
    intro hnull
    simp only [Bool.and_eq_true, PyValue.isNone_iff, Bool.not_eq_true'] at hnull
    obtain ⟨rfl, hnot⟩ := hnull
    split_ifs at h
    · obtain ⟨d, _, hd, -⟩ := h
      cases hd
    · rw [hnullable (PyValue.isNone_iff.mpr (convertPlain_none h))] at hnot
      cases hnot
  rw [if_neg hnull]
  split_ifs at h ⊢ with htype
  · obtain ⟨d, values, hd, hkeys, hvalues, rfl⟩ := h
    have hsave := save_eq_ok_of_admitsEach hcomplete parameters hp.2 d [] values hvalues s
    simp only [bind_eq_ok, lift_eq_ok]
    exact ⟨d, s, ⟨hd, rfl⟩, (), s, ⟨validateNoExtra_eq_ok.mpr hkeys, rfl⟩, _, s, hsave, rfl⟩
  · exact lift_eq_ok.mpr ⟨h, rfl⟩

theorem save_eq_ok_of_admitsEach
    (hcomplete : ∀ info, P info → ∀ v, Allowed info v → ∀ s,
      validateConstraints services request v info s = .ok ((), s))
    (parameters : List Parameter) (hp : Parameter.AllEverywhere P parameters) (d saved : PyDict)
    (values : List PyValue) (h : AdmitsEach Allowed parameters d values) (s : σ) :
    saveParameters services request parameters d saved s =
      .ok (InsertionDict.update saved ((declaredKeys parameters).zip values), s) := by
  match parameters, values, hp, h with
  | [], _, _, h =>
    rw [admitsEach_nil.mp h]
    rfl
  | p :: rest, value :: values, hp, h =>
    obtain ⟨⟨hprovided, htaken, hallowed⟩, hvalues⟩ := admitsEach_cons.mp h
    have hextract := extract_eq_ok_of_taken
      (fun raw v => validate_eq_ok_of_converts hcomplete p hp.1 raw v) htaken s
    have hrest := save_eq_ok_of_admitsEach hcomplete rest hp.2 d
      (InsertionDict.set saved (.str p.info.key) value) values hvalues s
    rw [saveParameters_cons]
    simp only [bind_eq_ok, lift_eq_ok]
    exact ⟨(), s, ⟨(validateRequired_eq_ok request).mpr hprovided, rfl⟩, value, s, hextract, (), s,
      hcomplete _ hp.1.here _ hallowed s, hrest⟩

end

theorem admitted_of_validate_eq_ok
    (hsound : ∀ info, P info → ∀ v s s',
      validateConstraints services request v info s = .ok ((), s') → Allowed info v)
    {parameters : List Parameter} (hp : Parameter.AllEverywhere P parameters) {d : PyDict} {s : σ}
    {result : PyDict} {s' : σ}
    (h : validateParameters services request parameters d s = .ok (result, s')) :
    OnlyDeclaredKeys parameters d ∧
      ∃ values, AdmitsEach Allowed parameters d values ∧ result = savedDict parameters values := by
  unfold validateParameters at h
  simp only [bind_eq_ok, lift_eq_ok] at h
  obtain ⟨_, _, ⟨hkeys, rfl⟩, hsave⟩ := h
  exact ⟨validateNoExtra_eq_ok.mp hkeys,
    admitsEach_of_save_eq_ok hsound parameters hp d [] _ _ _ hsave⟩

theorem validate_eq_ok_of_admitted
    (hcomplete : ∀ info, P info → ∀ v, Allowed info v → ∀ s,
      validateConstraints services request v info s = .ok ((), s))
    {parameters : List Parameter} (hp : Parameter.AllEverywhere P parameters) {d : PyDict}
    (hkeys : OnlyDeclaredKeys parameters d) {values : List PyValue}
    (h : AdmitsEach Allowed parameters d values) (s : σ) :
    validateParameters services request parameters d s = .ok (savedDict parameters values, s) := by
  unfold validateParameters
  simp only [bind_eq_ok, lift_eq_ok]
  exact ⟨(), s, ⟨validateNoExtra_eq_ok.mpr hkeys, rfl⟩,
    save_eq_ok_of_admitsEach hcomplete parameters hp d [] values h s⟩

end Exactness

end Bartender
