import Bartender.Requests.Handler
import Bartender.Requests.Idempotence

/-!
# Exceptions that escape the validator

The type check turns `TypeError` and `ValueError` into a validation error, but
not `OverflowError`, and the constraint checks of the top level run outside of
it. For commands without choices this is all that can escape: an overflow at
any level, or a constraint that does not suit the value at the top level, each
met before anything else has rejected the request.
-/

namespace Bartender

open StatefulExcept
open Binary64 (Double)

/-- The error is a `ModelValidationError`. -/
def PyError.IsInvalid (e : PyError) : Prop := ∃ message, e = .modelValidationError message

theorem PyError.not_isInvalid_typeError : ¬ PyError.typeError.IsInvalid := by
  rintro ⟨message, h⟩
  cases h

@[simp] theorem invalid_eq_error {α : Type} {format : String} {arguments : List PyValue}
    {e : PyError} : (invalid format arguments : Except PyError α) = .error e ↔
      e = .modelValidationError ⟨format, arguments⟩ := by
  rw [invalid, Except.error.injEq]
  exact eq_comm

theorem PyError.isInvalid_of_invalid {α : Type} {format : String} {arguments : List PyValue}
    {e : PyError} (h : (invalid format arguments : Except PyError α) = .error e) :
    e.IsInvalid :=
  ⟨_, invalid_eq_error.mp h⟩

/-- The integer is nearer to `2 ^ 1024` than to the largest double, in magnitude. -/
def BeyondDouble (n : ℤ) : Prop := 2 ^ 1024 - 2 ^ 970 ≤ n.natAbs

/-- The conversion of a value without nested parameters overflows: an infinity
read as an integer, or an integer too large for the double it is compared with
or converted to. -/
def PlainOverflows (type : ParameterType) (raw : PyValue) : Prop :=
  match type with
  | .integer =>
    (∃ negative, raw = .float (.infinity negative)) ∨ ∃ n, raw = .int n ∧ BeyondDouble n
  | .float => ∃ n, raw = .int n ∧ BeyondDouble n
  | .date | .dateTime => ∃ negative, raw = .float (.infinity negative)
  | _ => False

theorem plainOverflows_none {type : ParameterType} : ¬ PlainOverflows type .none := by
  cases type <;> simp [PlainOverflows]

theorem pyFloat_overflow {value : PyValue} :
    pyFloat value = .error .overflowError ↔ ∃ n, value = .int n ∧ BeyondDouble n := by
  simp only [pyFloat_eq_overflowError, Binary64.ofInt?_eq_none_iff, BeyondDouble]

/-- The errors of a plain conversion. -/
theorem convertPlain_error {type : ParameterType} {raw : PyValue} {e : PyError}
    (h : convertPlain type raw = .error e) :
    e.IsInvalid ∨ e.IsConversion ∨ e = .overflowError := by
  cases type with
  | string =>
    cases raw with
    | str s => cases h
    | _ =>
      cases h
      exact .inr (.inl trivial)
  | integer =>
    rcases except_bind_eq_error.mp h with h | ⟨n, -, h⟩
    · exact .inr (pyInt_error h)
    · rcases except_bind_eq_error.mp h with h | ⟨x, -, h⟩
      · exact .inr (pyFloat_error h)
      · split_ifs at h
        · cases h
        · cases h
          exact .inr (.inl trivial)
  | float =>
    rcases except_bind_eq_error.mp h with h | ⟨x, -, h⟩
    · exact .inr (pyFloat_error h)
    · cases h
  | any => cases h
  | boolean =>
    rw [convertPlain] at h
    split_ifs at h
    cases h
    exact .inr (.inl trivial)
  | dictionary =>
    rcases except_bind_eq_error.mp h with h | ⟨d, -, h⟩
    · exact .inr (.inl (PyValue.toDict_error h))
    · cases h
  | date =>
    rcases except_bind_eq_error.mp h with h | ⟨n, -, h⟩
    · exact .inr (pyInt_error h)
    · cases h
  | dateTime =>
    rcases except_bind_eq_error.mp h with h | ⟨n, -, h⟩
    · exact .inr (pyInt_error h)
    · cases h
  | other name => exact .inl (PyError.isInvalid_of_invalid h)

theorem convertPlain_integer_overflow {raw : PyValue} :
    convertPlain .integer raw = .error .overflowError ↔ PlainOverflows .integer raw := by
  constructor
  · intro h
    rcases except_bind_eq_error.mp h with h | ⟨n, -, h⟩
    · exact .inl (pyInt_eq_overflowError.mp h)
    · rcases except_bind_eq_error.mp h with h | ⟨x, -, h⟩
      · exact .inr (pyFloat_overflow.mp h)
      · split_ifs at h
        · cases h
        · cases h
  · rintro (hinf | hbig)
    · exact except_bind_eq_error.mpr (.inl (pyInt_eq_overflowError.mpr hinf))
    · have hfloat := pyFloat_overflow.mpr hbig
      obtain ⟨n, rfl, -⟩ := hbig
      exact except_bind_eq_error.mpr (.inr ⟨n, rfl, except_bind_eq_error.mpr (.inl hfloat)⟩)

theorem convertPlain_overflow {type : ParameterType} {raw : PyValue} :
    convertPlain type raw = .error .overflowError ↔ PlainOverflows type raw := by
  have hbind : ∀ {α : Type} (x : Except PyError α) (f : α → PyValue),
      (do let a ← x; pure (f a)) = .error .overflowError ↔ x = .error .overflowError := by
    intro α x f
    cases x <;> simp [bind, Except.bind, pure, Except.pure]
  cases type with
  | integer => exact convertPlain_integer_overflow
  | float => exact (hbind _ _).trans pyFloat_overflow
  | date => exact (hbind _ _).trans pyInt_eq_overflowError
  | dateTime => exact (hbind _ _).trans pyInt_eq_overflowError
  | dictionary =>
    refine (hbind _ _).trans ⟨fun h => ?_, False.elim⟩
    exact PyValue.toDict_error h
  | string => cases raw <;> simp [convertPlain, PlainOverflows]
  | any => simp [convertPlain, PlainOverflows]
  | boolean =>
    rw [convertPlain]
    split_ifs <;> simp [PlainOverflows]
  | other name => simp [convertPlain, PlainOverflows]

def ComparesDict (info : ParameterInfo) (value : PyValue) : Prop :=
  (∃ d, value = .dict d) ∧
    ((∃ m, info.maximum = some m ∧ m ≠ 0) ∨ ∃ m, info.minimum = some m ∧ m ≠ 0)

/-- A value that is within the bounds but not a string is matched with a pattern. -/
def MatchesNonString (info : ParameterInfo) (value : PyValue) : Prop :=
  (∃ regex, info.regex = some regex ∧ regex ≠ "") ∧ (∀ s, value ≠ .str s) ∧
    validateMaximum value info = .ok () ∧ validateMinimum value info = .ok ()

def Unsuited (info : ParameterInfo) (value : PyValue) : Prop :=
  value.isNone = false ∧ info.optional = false ∧
    (ComparesDict info value ∨ MatchesNonString info value)

theorem exists_dict_of_no_order {value : PyValue} (hnone : value.isNone = false)
    (hlen : value.len? = none) (hnumber : value.number? = none) : ∃ d, value = .dict d := by
  cases value with
  | dict d => exact ⟨d, rfl⟩
  | none => cases hnone
  | str s => cases hlen
  | list values => cases hlen
  | bool b => cases hnumber
  | int n => cases hnumber
  | float x => cases hnumber

/-- What a check of a bound raises besides a validation error, and for what. -/
theorem BoundCheck.run_error {check : BoundCheck} {value : PyValue} {info : ParameterInfo}
    {e : PyError} (h : check.run value info = .error e) :
    e.IsInvalid ∨ e = .typeError ∧ value.isNone = false ∧ info.optional = false ∧
      (∃ d, value = .dict d) ∧ ∃ m, check.bound info = some m ∧ m ≠ 0 := by
  unfold BoundCheck.run at h
  split at h
  · cases h
  · next hskip =>
    simp only [Bool.or_eq_true, not_or, Bool.not_eq_true] at hskip
    split at h
    · cases h
    · next m hm =>
      split_ifs at h with hzero
      split at h
      · split_ifs at h
        exact .inl (PyError.isInvalid_of_invalid h)
      · split_ifs at h
        exact .inl (PyError.isInvalid_of_invalid h)
      · next hlen hnumber =>
        cases h
        exact .inr ⟨rfl, hskip.1, hskip.2,
          exists_dict_of_no_order hskip.1 hlen hnumber, m, hm, hzero⟩

section

variable {σ : Type} {services : Services σ} {request : Request}

/-- No choices, and a pattern that compiles. -/
def PlainConstraints (services : Services σ) (info : ParameterInfo) : Prop :=
  info.choices = none ∧
    ∀ regex, info.regex = some regex → regex ≠ "" → ∃ pattern, services.compile regex = .ok pattern

theorem validateRegex_error {info : ParameterInfo} (hplain : PlainConstraints services info)
    {value : PyValue} {e : PyError} (h : validateRegex services value info = .error e) :
    e.IsInvalid ∨ e = .typeError ∧ value.isNone = false ∧ info.optional = false ∧
      (∃ regex, info.regex = some regex ∧ regex ≠ "") ∧ ∀ s, value ≠ .str s := by
  unfold validateRegex at h
  split at h
  · cases h
  · next hskip =>
    simp only [Bool.or_eq_true, not_or, Bool.not_eq_true] at hskip
    split at h
    · cases h
    · next regex hregex =>
      split_ifs at h with hempty
      obtain ⟨pattern, hcompile⟩ := hplain.2 regex hregex hempty
      rcases except_bind_eq_error.mp h with h | ⟨_, -, h⟩
      · rw [hcompile] at h
        cases h
      · split at h
        · split_ifs at h
          exact .inl (PyError.isInvalid_of_invalid h)
        · next hstr =>
          cases h
          exact .inr ⟨rfl, hskip.1, hskip.2, ⟨regex, hregex, hempty⟩, hstr⟩

theorem validateRegex_of_not_str {info : ParameterInfo} (hplain : PlainConstraints services info)
    {value : PyValue} {regex : String} (hnone : value.isNone = false)
    (hoptional : info.optional = false) (hregex : info.regex = some regex) (hempty : regex ≠ "")
    (hstr : ∀ s, value ≠ .str s) : validateRegex services value info = .error .typeError := by
  obtain ⟨pattern, hcompile⟩ := hplain.2 regex hregex hempty
  unfold validateRegex
  simp only [hnone, hoptional, hregex, hempty, hcompile, Bool.or_self, Bool.false_eq_true,
    if_false]
  cases value with
  | str s => exact absurd rfl (hstr s)
  | _ => rfl

/-- The constraint checks raise something else exactly on values they do not suit. -/
theorem validateConstraints_error {info : ParameterInfo} (hplain : PlainConstraints services info)
    {value : PyValue} {s : σ} {e : PyError} :
    (validateConstraints services request value info s = .error e ∧ ¬ e.IsInvalid) ↔
      e = .typeError ∧ Unsuited info value := by
  have hchoices : validateValueInChoices services request value info = pure () := by
    unfold validateValueInChoices
    rw [hplain.1]
    simp
  unfold validateConstraints
  rw [hchoices, pure_bind]
  simp only [bind_eq_error, lift_eq_error, lift_eq_ok]
  constructor
  · rintro ⟨hmax | ⟨_, _, ⟨hmax, rfl⟩, hmin | ⟨_, _, ⟨hmin, rfl⟩, hregex⟩⟩, hvalid⟩
    · rw [validateMaximum_eq_run] at hmax
      obtain ⟨he, hnone, hoptional, hdict, hbound⟩ :=
        (BoundCheck.run_error hmax).resolve_left hvalid
      exact ⟨he, hnone, hoptional, .inl ⟨hdict, .inl hbound⟩⟩
    · rw [validateMinimum_eq_run] at hmin
      obtain ⟨he, hnone, hoptional, hdict, hbound⟩ :=
        (BoundCheck.run_error hmin).resolve_left hvalid
      exact ⟨he, hnone, hoptional, .inl ⟨hdict, .inr hbound⟩⟩
    · obtain ⟨he, hnone, hoptional, hregex, hstr⟩ :=
        (validateRegex_error hplain hregex).resolve_left hvalid
      exact ⟨he, hnone, hoptional, .inr ⟨hregex, hstr, hmax, hmin⟩⟩
  · rintro ⟨rfl, hnone, hoptional, ⟨⟨d, rfl⟩, hbound⟩ | ⟨⟨regex, hregex, hempty⟩, hstr, hmax, hmin⟩⟩
    · refine ⟨?_, PyError.not_isInvalid_typeError⟩
      rw [validateMaximum_eq_run, validateMinimum_eq_run]
      by_cases hmaximum : ∃ m, info.maximum = some m ∧ m ≠ 0
      · obtain ⟨m, hm, hzero⟩ := hmaximum
        exact .inl (BoundCheck.run_dict hoptional hm hzero)
      · obtain ⟨m, hm, hzero⟩ := hbound.resolve_left hmaximum
        exact .inr ⟨(), s, ⟨BoundCheck.run_of_no_bound hmaximum, rfl⟩,
          .inl (BoundCheck.run_dict hoptional hm hzero)⟩
    · refine ⟨.inr ⟨(), s, ⟨hmax, rfl⟩, .inr ⟨(), s, ⟨hmin, rfl⟩, ?_⟩⟩,
        PyError.not_isInvalid_typeError⟩
      exact validateRegex_of_not_str hplain hnone hoptional hregex hempty hstr

end

/-- Taking a value from the request overflows at one of the single values. -/
def TakenOverflows (info : ParameterInfo) (Single : PyValue → PyValue → Prop)
    (Raises : PyValue → Prop) (raw : PyValue) : Prop :=
  ¬(raw.isNone && info.nullable) = true ∧
    if info.multi then
      ∃ before x after values, raw = .list (before ++ x :: after) ∧
        List.Forall₂ Single before values ∧ Raises x
    else Raises raw

section Escapes

variable {σ : Type} (services : Services σ)

mutual

def Overflows : Parameter → PyValue → Prop
  | ⟨info, parameters⟩, raw =>
    if info.type = .dictionary ∧ parameters ≠ [] then
      ∃ d, raw.toDict = .ok d ∧ OnlyDeclaredKeys parameters d ∧ OverflowsWithin parameters d
    else PlainOverflows info.type raw

/-- The loop reaches an overflow: every parameter before it is admitted. -/
def OverflowsWithin : List Parameter → PyDict → Prop
  | [], _ => False
  | p :: rest, d =>
    (Provided p.info d ∧
      TakenOverflows p.info (Converts (ConstraintsHold services) p) (fun raw => Overflows p raw)
        (suppliedValue p.info d)) ∨
    ((∃ value, Admits (ConstraintsHold services) p d value) ∧ OverflowsWithin rest d)

end

/-- The loop reaches a value that a constraint does not suit. -/
def UnsuitedWithin : List Parameter → PyDict → Prop
  | [], _ => False
  | p :: rest, d =>
    (Provided p.info d ∧
      ∃ value, Taken p.info (Converts (ConstraintsHold services) p) (suppliedValue p.info d) value ∧
        Unsuited p.info value) ∨
    ((∃ value, Admits (ConstraintsHold services) p d value) ∧ UnsuitedWithin rest d)

/-- The request reaches an exception that is not a validation error. -/
def Escapes (parameters : List Parameter) (d : PyDict) : Prop :=
  OnlyDeclaredKeys parameters d ∧
    (OverflowsWithin services parameters d ∨ UnsuitedWithin services parameters d)

variable {services} {request : Request}

theorem PlainConstraints.staticStrict {info : ParameterInfo}
    (h : PlainConstraints services info) : StaticStrictChoices info := by
  intro choices hchoices
  rw [h.1] at hchoices
  cases hchoices

theorem validateNoExtra_error {parameters : List Parameter} {d : PyDict} {e : PyError}
    (h : validateNoExtraRequestParameterKeys d parameters = .error e) : e.IsInvalid := by
  unfold validateNoExtraRequestParameterKeys at h
  dsimp only at h
  split at h
  · cases h
  · exact PyError.isInvalid_of_invalid h

theorem validateRequired_error {info : ParameterInfo} {d : PyDict} {e : PyError}
    (h : validateRequiredParameterIsIncludedInRequest request info d = .error e) :
    e.IsInvalid := by
  unfold validateRequiredParameterIsIncludedInRequest at h
  split_ifs at h
  exact PyError.isInvalid_of_invalid h

/-- What the extraction lets through is an overflow of a single value. -/
theorem extract_error {convert : PyValue → Validation σ PyValue} {Single : PyValue → PyValue → Prop}
    {Raises : PyValue → Prop}
    (hok : ∀ raw s v s', convert raw s = .ok (v, s') ↔ Single raw v ∧ s' = s)
    (herror : ∀ raw s e, (convert raw s = .error e ∧ ¬ e.IsInvalid) ↔
      e = .overflowError ∧ Raises raw)
    {info : ParameterInfo} {d : PyDict} {s : σ} {e : PyError} :
    (extractParameterValueFromRequest convert info d s = .error e ∧ ¬ e.IsInvalid) ↔
      e = .overflowError ∧ TakenOverflows info Single Raises (suppliedValue info d) := by
  unfold extractParameterValueFromRequest TakenOverflows
  by_cases hnull : ((suppliedValue info d).isNone && info.nullable) = true
  · simp [hnull]
  · rw [if_neg hnull, and_iff_right hnull]
    by_cases hmulti : info.multi = true
    · rw [if_pos hmulti, if_pos hmulti]
      cases suppliedValue info d with
      | list raws =>
        constructor
        · rintro ⟨h, hvalid⟩
          rcases bind_eq_error.mp h with h | ⟨_, _, -, h⟩
          · obtain ⟨before, x, after, ys, s', rfl, hbefore, hx⟩ := mapM_eq_error h
            obtain ⟨rfl, hraises⟩ := (herror x s' e).mp ⟨hx, hvalid⟩
            have hsingle :=
              forall₂_of_mapM_eq_ok (fun a s b s' h => ((hok a s b s').mp h).1) hbefore
            exact ⟨rfl, before, x, after, ys, rfl, hsingle, hraises⟩
          · cases h
        · rintro ⟨rfl, before, x, after, values, hraws, hsingle, hraises⟩
          cases hraws
          have hbefore := mapM_eq_ok_of_forall₂
            (fun a b h s => (hok a s b s).mpr ⟨h, rfl⟩) hsingle s
          have hx := (herror x s _).mpr ⟨rfl, hraises⟩
          exact ⟨bind_eq_error.mpr (.inl (mapM_append_eq_error after hbefore hx.1)), hx.2⟩
      | _ =>
        constructor
        · rintro ⟨h, hvalid⟩
          exact absurd (PyError.isInvalid_of_invalid (lift_eq_error.mp h)) hvalid
        · rintro ⟨-, _, _, _, _, h, -⟩
          cases h
    · rw [if_neg hmulti, if_neg hmulti]
      exact herror _ _ _

/-- The handlers turn conversion errors into validation errors and nothing else. -/
theorem catchConversion_error {α : Type} {info : ParameterInfo} {x : Validation σ α} {s : σ}
    {e : PyError} : (catchConversion info x s = .error e ∧ ¬ e.IsInvalid) ↔
      (x s = .error e ∧ ¬ e.IsInvalid ∧ ¬ e.IsConversion) := by
  unfold catchConversion
  cases hx : x s with
  | ok result => simp
  | error e' =>
    cases e' with
    | typeError =>
      constructor
      · rintro ⟨h, hvalid⟩
        exact absurd (PyError.isInvalid_of_invalid h) hvalid
      · rintro ⟨h, -, hconversion⟩
        cases h
        exact absurd trivial hconversion
    | valueError =>
      constructor
      · rintro ⟨h, hvalid⟩
        exact absurd (PyError.isInvalid_of_invalid h) hvalid
      · rintro ⟨h, -, hconversion⟩
        cases h
        exact absurd trivial hconversion
    | _ =>
      constructor
      · rintro ⟨h, hvalid⟩
        cases h
        exact ⟨rfl, hvalid, id⟩
      · exact fun ⟨h, hvalid, _⟩ => ⟨h, hvalid⟩

theorem validate_eq_ok_iff (p : Parameter) (hp : p.Everywhere (PlainConstraints services))
    (raw : PyValue) (s : σ) (value : PyValue) (s' : σ) :
    validateParameterBasedOnType services request p raw s = .ok (value, s') ↔
      Converts (ConstraintsHold services) p raw value ∧ s' = s := by
  have hcomplete : Converts (ConstraintsHold services) p raw value →
      validateParameterBasedOnType services request p raw s = .ok (value, s) := fun h =>
    validate_eq_ok_of_converts (fun info hinfo v hv s =>
      (validateConstraints_eq_ok hinfo.staticStrict).mpr ⟨hv, rfl⟩) p hp raw value h s
  constructor
  · intro h
    have hconverts : Converts (ConstraintsHold services) p raw value :=
      converts_of_validate_eq_ok (fun info hinfo v s s' h =>
        ((validateConstraints_eq_ok hinfo.staticStrict).mp h).1) p hp raw s value s' h
    rw [hcomplete hconverts] at h
    cases h
    exact ⟨hconverts, rfl⟩
  · rintro ⟨hconverts, rfl⟩
    exact hcomplete hconverts

/-- One round of the loop: it overflows, finds a value that a constraint does
not suit, or leaves the exception to the parameters that follow. -/
theorem save_cons_error {p : Parameter} {rest : List Parameter} {d saved : PyDict} {s : σ}
    {e : PyError} {Raises : PyValue → Prop} (hplain : PlainConstraints services p.info)
    (hok : ∀ raw s v s', validateParameterBasedOnType services request p raw s = .ok (v, s') ↔
      Converts (ConstraintsHold services) p raw v ∧ s' = s)
    (herror : ∀ raw s e,
      (validateParameterBasedOnType services request p raw s = .error e ∧ ¬ e.IsInvalid) ↔
        e = .overflowError ∧ Raises raw) :
    (saveParameters services request (p :: rest) d saved s = .error e ∧ ¬ e.IsInvalid) ↔
      Provided p.info d ∧
        ((e = .overflowError ∧ TakenOverflows p.info (Converts (ConstraintsHold services) p) Raises
          (suppliedValue p.info d)) ∨
        ∃ value, Taken p.info (Converts (ConstraintsHold services) p)
            (suppliedValue p.info d) value ∧
          ((e = .typeError ∧ Unsuited p.info value) ∨
            (ConstraintsHold services p.info value ∧
              saveParameters services request rest d
                (InsertionDict.set saved (.str p.info.key) value) s = .error e ∧
              ¬ e.IsInvalid))) := by
  have hextract := @extract_error σ (validateParameterBasedOnType services request p) _ _ hok herror
  have hconstraints : ∀ {value s s'},
      validateConstraints services request value p.info s = .ok ((), s') ↔
        ConstraintsHold services p.info value ∧ s' = s :=
    validateConstraints_eq_ok hplain.staticStrict
  rw [saveParameters_cons]
  simp only [bind_eq_error, lift_eq_error, lift_eq_ok]
  constructor
  · rintro ⟨hrequired | ⟨_, _, ⟨hprovided, rfl⟩, h⟩, hvalid⟩
    · exact absurd (validateRequired_error hrequired) hvalid
    · refine ⟨(validateRequired_eq_ok request).mp hprovided, ?_⟩
      rcases h with hvalue | ⟨value, s₁, hvalue, h⟩
      · exact .inl (hextract.mp ⟨hvalue, hvalid⟩)
      · have htaken := taken_of_extract_eq_ok (fun raw s v s' h => ((hok raw s v s').mp h).1) hvalue
        rw [extract_eq_ok_of_taken (fun raw v h s => (hok raw s v s).mpr ⟨h, rfl⟩) htaken]
          at hvalue
        cases hvalue
        refine .inr ⟨value, htaken, ?_⟩
        rcases h with hchecks | ⟨_, s₂, hchecks, hrest⟩
        · exact .inl ((validateConstraints_error hplain).mp ⟨hchecks, hvalid⟩)
        · obtain ⟨hhold, rfl⟩ := hconstraints.mp hchecks
          exact .inr ⟨hhold, hrest, hvalid⟩
  · rintro ⟨hprovided, h⟩
    have hrequired := (validateRequired_eq_ok request).mpr hprovided
    rcases h with hoverflow | ⟨value, htaken, h⟩
    · obtain ⟨hvalue, hvalid⟩ := hextract.mpr hoverflow
      exact ⟨.inr ⟨(), s, ⟨hrequired, rfl⟩, .inl hvalue⟩, hvalid⟩
    · have hvalue := extract_eq_ok_of_taken
        (fun raw v h s => (hok raw s v s).mpr ⟨h, rfl⟩) htaken s
      rcases h with hunsuited | ⟨hhold, hrest, hvalid⟩
      · have hraises : validateConstraints services request value p.info s = .error e ∧
            ¬ e.IsInvalid := (validateConstraints_error hplain).mpr hunsuited
        obtain ⟨hchecks, hvalid⟩ := hraises
        exact ⟨.inr ⟨(), s, ⟨hrequired, rfl⟩, .inr ⟨value, s, hvalue, .inl hchecks⟩⟩, hvalid⟩
      · exact ⟨.inr ⟨(), s, ⟨hrequired, rfl⟩, .inr ⟨value, s, hvalue,
          .inr ⟨(), s, hconstraints.mpr ⟨hhold, rfl⟩, hrest⟩⟩⟩, hvalid⟩

mutual

/-- Out of the type check come overflows only. -/
theorem validate_error (p : Parameter) (hp : p.Everywhere (PlainConstraints services))
    (raw : PyValue) (s : σ) (e : PyError) :
    (validateParameterBasedOnType services request p raw s = .error e ∧ ¬ e.IsInvalid) ↔
      e = .overflowError ∧ Overflows services p raw := by
  obtain ⟨info, parameters⟩ := p
  rw [validateParameterBasedOnType, catchConversion_error, Overflows]
  by_cases hnull : (raw.isNone && !info.nullable) = true
  · rw [if_pos hnull, lift_eq_error]
    obtain ⟨hnone, -⟩ := Bool.and_eq_true_iff.mp hnull
    rw [PyValue.isNone_iff] at hnone
    constructor
    · rintro ⟨h, hvalid, -⟩
      exact absurd (PyError.isInvalid_of_invalid h) hvalid
    · rintro ⟨rfl, h⟩
      subst hnone
      split_ifs at h
      · obtain ⟨d, hd, -⟩ := h
        cases hd
      · exact absurd h plainOverflows_none
  · rw [if_neg hnull]
    split_ifs with htype
    · simp only [bind_eq_error, lift_eq_error, lift_eq_ok]
      constructor
      · rintro ⟨hdict | ⟨d, _, ⟨hd, rfl⟩, hkeys | ⟨_, _, ⟨hkeys, rfl⟩, hsave | ⟨_, _, -, h⟩⟩⟩,
          hvalid, hconversion⟩
        · exact absurd (PyValue.toDict_error hdict) hconversion
        · exact absurd (validateNoExtra_error hkeys) hvalid
        · rcases (save_error parameters hp.2 d [] _ e).mp ⟨hsave, hvalid⟩ with
            ⟨he, hoverflow⟩ | ⟨rfl, -⟩
          · exact ⟨he, d, hd, validateNoExtra_eq_ok.mp hkeys, hoverflow⟩
          · exact absurd trivial hconversion
        · cases h
      · rintro ⟨rfl, d, hd, hkeys, hoverflow⟩
        have hsave := (save_error parameters hp.2 d [] s .overflowError).mpr (.inl ⟨rfl, hoverflow⟩)
        exact ⟨.inr ⟨d, s, ⟨hd, rfl⟩, .inr ⟨(), s, ⟨validateNoExtra_eq_ok.mpr hkeys, rfl⟩,
          .inl hsave.1⟩⟩, hsave.2, id⟩
    · rw [lift_eq_error]
      constructor
      · rintro ⟨h, hvalid, hconversion⟩
        have he := ((convertPlain_error h).resolve_left hvalid).resolve_left hconversion
        subst he
        exact ⟨rfl, convertPlain_overflow.mp h⟩
      · rintro ⟨rfl, h⟩
        exact ⟨convertPlain_overflow.mpr h, nofun, id⟩

/-- Out of the loop come overflows, and type errors of the constraint checks. -/
theorem save_error (parameters : List Parameter)
    (hp : Parameter.AllEverywhere (PlainConstraints services) parameters) (d saved : PyDict)
    (s : σ) (e : PyError) :
    (saveParameters services request parameters d saved s = .error e ∧ ¬ e.IsInvalid) ↔
      (e = .overflowError ∧ OverflowsWithin services parameters d) ∨
        (e = .typeError ∧ UnsuitedWithin services parameters d) := by
  match parameters, hp with
  | [], _ => simp [saveParameters, OverflowsWithin, UnsuitedWithin]
  | p :: rest, hp =>
    rw [save_cons_error hp.1.here (validate_eq_ok_iff p hp.1) (validate_error p hp.1)]
    have hrest := fun saved => save_error rest hp.2 d saved s e
    simp only [hrest, OverflowsWithin, UnsuitedWithin, Admits]
    constructor
    · rintro ⟨hprovided, ⟨he, h⟩ | ⟨value, htaken, ⟨he, h⟩ | ⟨hhold, ⟨he, h⟩ | ⟨he, h⟩⟩⟩⟩
      · exact .inl ⟨he, .inl ⟨hprovided, h⟩⟩
      · exact .inr ⟨he, .inl ⟨hprovided, value, htaken, h⟩⟩
      · exact .inl ⟨he, .inr ⟨⟨value, hprovided, htaken, hhold⟩, h⟩⟩
      · exact .inr ⟨he, .inr ⟨⟨value, hprovided, htaken, hhold⟩, h⟩⟩
    · rintro (⟨he, ⟨hprovided, h⟩ | ⟨⟨value, hprovided, htaken, hhold⟩, h⟩⟩ |
        ⟨he, ⟨hprovided, value, htaken, h⟩ | ⟨⟨value, hprovided, htaken, hhold⟩, h⟩⟩)
      · exact ⟨hprovided, .inl ⟨he, h⟩⟩
      · exact ⟨hprovided, .inr ⟨value, htaken, .inr ⟨hhold, .inl ⟨he, h⟩⟩⟩⟩
      · exact ⟨hprovided, .inr ⟨value, htaken, .inl ⟨he, h⟩⟩⟩
      · exact ⟨hprovided, .inr ⟨value, htaken, .inr ⟨hhold, .inr ⟨he, h⟩⟩⟩⟩

end

theorem validateParameters_error {parameters : List Parameter}
    (hplain : Parameter.AllEverywhere (PlainConstraints services) parameters) {d : PyDict} {s : σ}
    {e : PyError} :
    (validateParameters services request parameters d s = .error e ∧ ¬ e.IsInvalid) ↔
      OnlyDeclaredKeys parameters d ∧
        ((e = .overflowError ∧ OverflowsWithin services parameters d) ∨
          (e = .typeError ∧ UnsuitedWithin services parameters d)) := by
  unfold validateParameters
  simp only [bind_eq_error, lift_eq_error, lift_eq_ok]
  have hloop : (saveParameters services request parameters d [] s = .error e ∧ ¬ e.IsInvalid) ↔ _ :=
    save_error parameters hplain d [] s e
  rw [← hloop]
  constructor
  · rintro ⟨hkeys | ⟨_, _, ⟨hkeys, rfl⟩, hsave⟩, hvalid⟩
    · exact absurd (validateNoExtra_error hkeys) hvalid
    · exact ⟨validateNoExtra_eq_ok.mp hkeys, hsave, hvalid⟩
  · rintro ⟨hkeys, hsave, hvalid⟩
    exact ⟨.inr ⟨(), s, ⟨validateNoExtra_eq_ok.mpr hkeys, rfl⟩, hsave⟩, hvalid⟩

variable (request) in
theorem escapes_iff {parameters : List Parameter}
    (hplain : Parameter.AllEverywhere (PlainConstraints services) parameters) {d : PyDict}
    (s : σ) :
    Escapes services parameters d ↔
      ∃ e, validateParameters services request parameters d s = .error e ∧ ¬ e.IsInvalid := by
  simp only [validateParameters_error hplain]
  constructor
  · rintro ⟨hkeys, hoverflow | hunsuited⟩
    · exact ⟨.overflowError, hkeys, .inl ⟨rfl, hoverflow⟩⟩
    · exact ⟨.typeError, hkeys, .inr ⟨rfl, hunsuited⟩⟩
  · rintro ⟨e, hkeys, ⟨-, h⟩ | ⟨-, h⟩⟩
    · exact ⟨hkeys, .inl h⟩
    · exact ⟨hkeys, .inr h⟩

theorem getAndValidateParameters_eq_error {command : Command} {s : σ} {e : PyError} :
    getAndValidateParameters services request (some command) s = .error e ↔
      validateParameters services request command.parameters request.parameters s = .error e := by
  unfold getAndValidateParameters
  rw [bind_eq_error]
  constructor
  · rintro (h | ⟨_, _, hfound, h⟩)
    · cases h
    · cases hfound
      rcases bind_eq_error.mp h with h | ⟨_, _, -, h⟩
      · exact h
      · cases h
  · intro h
    exact .inr ⟨_, s, rfl, bind_eq_error.mpr (.inl h)⟩

/-- For a command without choices the validator returns or rejects the request,
except for the requests that reach an overflow, or at the top level a
constraint that does not suit the value. -/
theorem getAndValidateParameters_rejects_iff {command : Command}
    (hplain : Parameter.AllEverywhere (PlainConstraints services) command.parameters) (s : σ) :
    ((∃ result, getAndValidateParameters services request (some command) s = .ok result) ∨
      ∃ message, getAndValidateParameters services request (some command) s =
        .error (.modelValidationError message)) ↔
      ¬ Escapes services command.parameters request.parameters := by
  rw [escapes_iff request hplain s]
  simp only [← getAndValidateParameters_eq_error]
  cases h : getAndValidateParameters services request (some command) s with
  | ok result => simp
  | error e =>
    constructor
    · rintro (⟨_, h⟩ | ⟨message, h⟩)
      · cases h
      · rintro ⟨e', h', hvalid⟩
        cases h
        cases h'
        exact hvalid ⟨message, rfl⟩
    · intro hnot
      right
      by_contra hvalid
      refine hnot ⟨e, rfl, fun ⟨message, he⟩ => hvalid ⟨message, ?_⟩⟩
      rw [he]

/-- A dictionary with nested parameters, and a word. -/
def sampleTree : List Parameter :=
  [⟨plainParameter "options" .dictionary,
      [⟨{ plainParameter "count" .integer with nullable := true }, []⟩,
        ⟨{ plainParameter "names" .string with multi := true, optional := true }, []⟩]⟩,
    ⟨{ plainParameter "mode" .string with regex := some "r", maximum := some 3 }, []⟩]

def sampleTreeRequest (count : PyValue) : Request :=
  sampleRequest [(.str "options", .dict [(.str "count", count), (.str "names", .list [.str "a"])]),
    (.str "mode", .str "r")]

theorem getAndValidateParameters_rejects_tree :
    ¬ Escapes quietServices sampleTree (sampleTreeRequest .none).parameters ∧
      ¬ Escapes quietServices sampleTree (sampleTreeRequest (.str "many")).parameters ∧
        Escapes quietServices sampleTree
          (sampleTreeRequest (.float (.infinity false))).parameters := by
  have hplain : Parameter.AllEverywhere (PlainConstraints quietServices)
      (sampleCommand sampleTree).parameters := by
    simp [sampleCommand, sampleTree, Parameter.AllEverywhere, Parameter.Everywhere,
      PlainConstraints, plainParameter, quietServices]
  refine ⟨?_, ?_, ?_⟩
  · exact (getAndValidateParameters_rejects_iff hplain ()).mp (.inl ⟨_, rfl⟩)
  · exact (getAndValidateParameters_rejects_iff hplain ()).mp (.inr ⟨_, rfl⟩)
  · by_contra hnot
    rcases (getAndValidateParameters_rejects_iff hplain ()).mpr hnot with ⟨_, h⟩ | ⟨_, h⟩ <;>
      cases h

/-- An infinity for an integer, and a dictionary compared with a maximum: the
first raises an overflow, the second a type error. -/
theorem getAndValidateParameters_escapes :
    getAndValidateParameters quietServices
        (sampleRequest [(.str "n", .float (.infinity false))])
        (some (sampleCommand [⟨plainParameter "n" .integer, []⟩])) () = .error .overflowError ∧
      getAndValidateParameters quietServices (sampleRequest [(.str "d", .dict [])])
        (some (sampleCommand [⟨{ plainParameter "d" .dictionary with maximum := some 3 }, []⟩]))
        () = .error .typeError :=
  ⟨rfl, rfl⟩

/-- A request rejected while its parameters are validated is reported as invalid
unless it reaches one of the escapes. -/
theorem processRequest_reports_iff {handler : RequestHandler σ} {requestId : String}
    {request : Request} {s s₁ s₂ s₃ : σ} {system : SystemDocument} {command : Command}
    {request₁ : Request} {e : PyError}
    (hplain : Parameter.AllEverywhere (PlainConstraints handler.toServices) command.parameters)
    (hfind : handler.findOrNone requestId s = .ok (some request, s₁))
    (hsystem : getAndValidateSystem handler.toServices request s₁ = .ok (system, s₂))
    (hcommand : getAndValidateCommandForSystem handler.toServices request (some system) s₂ =
      .ok ((command, request₁), s₃))
    (h : validateRequest handler.toServices request s₁ = .error e) :
    (∃ cause, processRequest handler requestId s = .error (.invalidRequest requestId cause)) ↔
      ¬ Escapes handler.toServices command.parameters request.parameters := by
  have hparameters : request₁.parameters = request.parameters := by
    obtain ⟨commandType, outputType, rfl⟩ := getAndValidateCommandForSystem_request hcommand
    rfl
  have hrejected : validateParameters handler.toServices request₁ command.parameters
      request₁.parameters s₃ = .error e := by
    unfold validateRequest at h
    rcases bind_eq_error.mp h with h | ⟨_, _, hsystem', h⟩
    · rw [hsystem] at h
      cases h
    · rw [hsystem] at hsystem'
      cases hsystem'
      rcases bind_eq_error.mp h with h | ⟨_, _, hcommand', h⟩
      · rw [hcommand] at h
        cases h
      · rw [hcommand] at hcommand'
        cases hcommand'
        rcases bind_eq_error.mp h with h | ⟨_, _, -, h⟩
        · exact getAndValidateParameters_eq_error.mp h
        · cases h
  have hreport := processRequest_rejected hfind h
  rw [hparameters] at hrejected
  rw [escapes_iff request₁ hplain s₃, hreport]
  constructor
  · rintro ⟨cause, hcause⟩ ⟨e', he', hvalid⟩
    rw [hrejected] at he'
    cases he'
    rcases (validateParameters_error hplain).mp ⟨hrejected, hvalid⟩ with
      ⟨-, ⟨rfl, -⟩ | ⟨rfl, -⟩⟩
    · cases hcause
    · cases hcause
  · intro hnot
    by_cases hvalid : e.IsInvalid
    · obtain ⟨message, rfl⟩ := hvalid
      exact ⟨_, rfl⟩
    · exact absurd ⟨e, hrejected, hvalid⟩ hnot

end Escapes

end Bartender
