import Bartender.Requests.Saved

/-!
# Declared bounds

The maximum and the minimum of a required parameter bound an integer itself, and
the length of a string or of the list of a multi parameter. The checks take a
bound of zero for an absent one, so a request that is accepted keeps all the
others, and keeps a zero only where the values supplied for it do.
-/

namespace Bartender

open StatefulExcept

/-- What the bounds of a parameter are about in a value. -/
def measure? (info : ParameterInfo) : PyValue → Option ℤ
  | .int n => some n
  | .bool b => some (if b then 1 else 0)
  | .str s => some s.toList.length
  | .list values => if info.multi then some values.length else none
  | _ => none

/-- A saved value keeps to the bounds that its parameter declares. -/
def WithinBounds (info : ParameterInfo) (value : PyValue) : Prop :=
  info.optional = false → ∀ n ∈ measure? info value,
    (∀ maximum ∈ info.maximum, n ≤ maximum) ∧ (∀ minimum ∈ info.minimum, minimum ≤ n)

/-- The same quantity, as `int()` and the length of what is supplied give it. A
float or a dictionary is saved for what is supplied for one. -/
def suppliedMeasure? (info : ParameterInfo) (raw : PyValue) : Option ℤ :=
  if info.multi then measure? info raw
  else
    match info.type with
    | .integer | .date | .dateTime => (pyInt raw).toOption
    | .float | .dictionary => none
    | _ => measure? info raw

def KeepsZeroBounds (info : ParameterInfo) (raw : PyValue) : Prop :=
  info.optional = false → ∀ n ∈ suppliedMeasure? info raw,
    (info.maximum = some 0 → n ≤ 0) ∧ (info.minimum = some 0 → 0 ≤ n)

/-- The dictionaries in a parameter's value, which is a list of them for a
multi parameter. -/
def nestedDicts (info : ParameterInfo) (value : PyValue) : List PyDict :=
  let singles :=
    if info.multi then
      match value with
      | .list values => values
      | _ => []
    else [value]
  singles.filterMap fun single => single.toDict.toOption

mutual

/-- The value saved for a parameter and everything saved inside of it. Only a
dictionary's nested parameters are ever looked at. -/
def Parameter.SavedWithin : Parameter → PyValue → Prop
  | ⟨info, parameters⟩, value =>
    WithinBounds info value ∧
      (info.type = .dictionary →
        ∀ saved ∈ nestedDicts info value, Parameter.EachSavedWithin parameters saved)

/-- Of several parameters with one key the last one's value is saved. -/
def Parameter.EachSavedWithin : List Parameter → PyDict → Prop
  | [], _ => True
  | p :: rest, saved =>
    (p.info.key ∉ rest.map (·.info.key) →
      ∀ value ∈ InsertionDict.get? saved (.str p.info.key), p.SavedWithin value) ∧
    Parameter.EachSavedWithin rest saved

end

mutual

/-- The value supplied for a parameter and everything supplied inside of it. -/
def Parameter.ZeroBoundsKept : Parameter → PyValue → Prop
  | ⟨info, parameters⟩, raw =>
    KeepsZeroBounds info raw ∧
      (info.type = .dictionary →
        ∀ supplied ∈ nestedDicts info raw, Parameter.EachZeroBoundsKept parameters supplied)

def Parameter.EachZeroBoundsKept : List Parameter → PyDict → Prop
  | [], _ => True
  | p :: rest, supplied =>
    (p.info.key ∉ rest.map (·.info.key) →
      p.ZeroBoundsKept (suppliedValue p.info supplied)) ∧
    Parameter.EachZeroBoundsKept rest supplied

end

section Decidable

instance (info : ParameterInfo) (value : PyValue) : Decidable (WithinBounds info value) := by
  unfold WithinBounds
  infer_instance

instance (info : ParameterInfo) (raw : PyValue) : Decidable (KeepsZeroBounds info raw) := by
  unfold KeepsZeroBounds
  infer_instance

mutual

instance Parameter.decidableSavedWithin : (p : Parameter) → (value : PyValue) →
    Decidable (p.SavedWithin value)
  | ⟨info, parameters⟩, value =>
    have := Parameter.decidableEachSavedWithin parameters
    inferInstanceAs (Decidable (WithinBounds info value ∧ (info.type = .dictionary →
      ∀ saved ∈ nestedDicts info value, Parameter.EachSavedWithin parameters saved)))

instance Parameter.decidableEachSavedWithin : (parameters : List Parameter) → (saved : PyDict) →
    Decidable (Parameter.EachSavedWithin parameters saved)
  | [], _ => .isTrue trivial
  | p :: rest, saved =>
    have := Parameter.decidableSavedWithin p
    have := Parameter.decidableEachSavedWithin rest saved
    inferInstanceAs (Decidable ((p.info.key ∉ rest.map (·.info.key) →
      ∀ value ∈ InsertionDict.get? saved (.str p.info.key), p.SavedWithin value) ∧
        Parameter.EachSavedWithin rest saved))

end

mutual

instance Parameter.decidableZeroBoundsKept : (p : Parameter) → (raw : PyValue) →
    Decidable (p.ZeroBoundsKept raw)
  | ⟨info, parameters⟩, raw =>
    have := Parameter.decidableEachZeroBoundsKept parameters
    inferInstanceAs (Decidable (KeepsZeroBounds info raw ∧ (info.type = .dictionary →
      ∀ supplied ∈ nestedDicts info raw, Parameter.EachZeroBoundsKept parameters supplied)))

instance Parameter.decidableEachZeroBoundsKept : (parameters : List Parameter) →
    (supplied : PyDict) → Decidable (Parameter.EachZeroBoundsKept parameters supplied)
  | [], _ => .isTrue trivial
  | p :: rest, supplied =>
    have := Parameter.decidableZeroBoundsKept p
    have := Parameter.decidableEachZeroBoundsKept rest supplied
    inferInstanceAs (Decidable ((p.info.key ∉ rest.map (·.info.key) →
      p.ZeroBoundsKept (suppliedValue p.info supplied)) ∧
        Parameter.EachZeroBoundsKept rest supplied))

end

end Decidable

mutual

theorem Parameter.zeroBoundsKept_of_ne (p : Parameter)
    (hp : p.Everywhere fun info => info.maximum ≠ some 0 ∧ info.minimum ≠ some 0)
    (raw : PyValue) : p.ZeroBoundsKept raw := by
  obtain ⟨info, parameters⟩ := p
  rw [Parameter.ZeroBoundsKept]
  obtain ⟨⟨hmaximum, hminimum⟩, hparameters⟩ := hp
  constructor
  · intro _ n _
    exact ⟨fun hzero => absurd hzero hmaximum, fun hzero => absurd hzero hminimum⟩
  · exact fun _ supplied _ =>
      Parameter.eachZeroBoundsKept_of_ne parameters hparameters supplied

theorem Parameter.eachZeroBoundsKept_of_ne (parameters : List Parameter)
    (hp : Parameter.AllEverywhere (fun info => info.maximum ≠ some 0 ∧ info.minimum ≠ some 0)
      parameters) (supplied : PyDict) : Parameter.EachZeroBoundsKept parameters supplied := by
  match parameters, hp with
  | [], _ => trivial
  | p :: rest, hp =>
    rw [Parameter.EachZeroBoundsKept]
    exact ⟨fun _ => Parameter.zeroBoundsKept_of_ne p hp.1 _,
      Parameter.eachZeroBoundsKept_of_ne rest hp.2 supplied⟩

end

def BoundsChecked (info : ParameterInfo) (value : PyValue) : Prop :=
  validateMaximum value info = .ok () ∧ validateMinimum value info = .ok ()

section Checks

variable {info : ParameterInfo} {value : PyValue} {n : ℤ}

theorem isNone_of_measure? (h : measure? info value = some n) : value.isNone = false := by
  cases value <;> first | rfl | cases h

theorem len?_or_number?_of_measure? (h : measure? info value = some n) :
    value.len? = some n ∨ value.len? = none ∧ value.number? = some (.ofInt n) := by
  cases value with
  | int m =>
    cases h
    exact .inr ⟨rfl, rfl⟩
  | bool b =>
    cases h
    exact .inr ⟨rfl, rfl⟩
  | str s => exact .inl h
  | list values =>
    unfold measure? at h
    split_ifs at h
    exact .inl h
  | _ => cases h

theorem BoundCheck.not_crosses_of_run {check : BoundCheck} (h : check.run value info = .ok ())
    (hrequired : info.optional = false) (hmeasure : measure? info value = some n) {bound : ℤ}
    (hbound : check.bound info = some bound) (hne : bound ≠ 0) :
    check.crosses (.ofInt bound) (.ofInt n) = false := by
  unfold BoundCheck.run at h
  simp only [isNone_of_measure? hmeasure, hrequired, Bool.or_self, Bool.false_eq_true, if_false,
    hbound, hne] at h
  rcases len?_or_number?_of_measure? hmeasure with hlen | ⟨hlen, hnumber⟩
  · simp only [hlen, invalid] at h
    split_ifs at h with hcrosses
    exact Bool.eq_false_of_not_eq_true hcrosses
  · simp only [hlen, hnumber, invalid] at h
    split_ifs at h with hcrosses
    exact Bool.eq_false_of_not_eq_true hcrosses

theorem le_of_validateMaximum (h : validateMaximum value info = .ok ())
    (hrequired : info.optional = false) (hmeasure : measure? info value = some n) {maximum : ℤ}
    (hmaximum : info.maximum = some maximum) (hne : maximum ≠ 0) : n ≤ maximum := by
  rw [validateMaximum_eq_run] at h
  have hcrosses := BoundCheck.not_crosses_of_run h hrequired hmeasure hmaximum hne
  exact not_lt.mp (of_decide_eq_false ((Number.lt_ofInt maximum n).symm.trans hcrosses))

theorem le_of_validateMinimum (h : validateMinimum value info = .ok ())
    (hrequired : info.optional = false) (hmeasure : measure? info value = some n) {minimum : ℤ}
    (hminimum : info.minimum = some minimum) (hne : minimum ≠ 0) : minimum ≤ n := by
  rw [validateMinimum_eq_run] at h
  have hcrosses := BoundCheck.not_crosses_of_run h hrequired hmeasure hminimum hne
  exact not_lt.mp (of_decide_eq_false ((Number.lt_ofInt n minimum).symm.trans hcrosses))

end Checks

section Exactness

variable {Allowed : ParameterInfo → PyValue → Prop}

/-- The conversion keeps the quantity, or takes it from `int()`. -/
theorem measure?_of_convertPlain {info : ParameterInfo} (hmulti : info.multi = false)
    {raw value : PyValue} (h : convertPlain info.type raw = .ok value) :
    measure? info value = suppliedMeasure? info raw := by
  unfold suppliedMeasure?
  rw [hmulti, if_neg Bool.false_ne_true]
  generalize info.type = type at h ⊢
  cases type with
  | string =>
    cases raw <;> cases h
    rfl
  | any =>
    cases h
    rfl
  | boolean =>
    rw [convertPlain] at h
    split_ifs at h
    cases h
    rfl
  | integer =>
    obtain ⟨n, hn, h⟩ := except_bind_eq_ok.mp h
    obtain ⟨x, -, h⟩ := except_bind_eq_ok.mp h
    split_ifs at h
    cases h
    simp [hn, measure?, Except.toOption]
  | date =>
    obtain ⟨n, hn, h⟩ := except_bind_eq_ok.mp h
    cases h
    simp [hn, measure?, Except.toOption]
  | dateTime =>
    obtain ⟨n, hn, h⟩ := except_bind_eq_ok.mp h
    cases h
    simp [hn, measure?, Except.toOption]
  | float =>
    obtain ⟨x, -, h⟩ := except_bind_eq_ok.mp h
    cases h
    rfl
  | dictionary =>
    obtain ⟨d, -, h⟩ := except_bind_eq_ok.mp h
    cases h
    rfl
  | other name => cases h

/-- The quantity of a saved value can be told from what was supplied. -/
theorem measure?_of_taken {p : Parameter} {raw value : PyValue}
    (h : Taken p.info (Converts Allowed p) raw value) :
    measure? p.info value = suppliedMeasure? p.info raw := by
  unfold Taken at h
  split_ifs at h with hnull hmulti
  · obtain rfl := PyValue.isNone_iff.mp (Bool.and_eq_true_iff.mp hnull).1
    rw [h]
    unfold suppliedMeasure?
    split
    · rfl
    · split <;> rfl
  · obtain ⟨raws, values, rfl, rfl, hall⟩ := h
    simp [suppliedMeasure?, measure?, hmulti, hall.length_eq]
  · obtain ⟨info, parameters⟩ := p
    rw [Converts] at h
    have h := h.2
    have hmulti : info.multi = false := by simpa using hmulti
    split_ifs at h with htype
    · obtain ⟨d, values, -, -, -, rfl⟩ := h
      simp [suppliedMeasure?, measure?, hmulti, htype.1]
    · exact measure?_of_convertPlain hmulti h

theorem withinBounds_iff {p : Parameter} {raw value : PyValue}
    (h : Taken p.info (Converts Allowed p) raw value) (hchecked : BoundsChecked p.info value) :
    WithinBounds p.info value ↔ KeepsZeroBounds p.info raw := by
  have hmeasure := measure?_of_taken h
  unfold WithinBounds KeepsZeroBounds
  rw [← hmeasure]
  constructor
  · intro hwithin hrequired n hn
    obtain ⟨hmaximum, hminimum⟩ := hwithin hrequired n hn
    exact ⟨hmaximum 0, hminimum 0⟩
  · intro hkept hrequired n hn
    obtain ⟨hmaximum, hminimum⟩ := hkept hrequired n hn
    constructor
    · intro maximum hdeclared
      by_cases hzero : maximum = 0
      · rw [hzero] at hdeclared ⊢
        exact hmaximum hdeclared
      · exact le_of_validateMaximum hchecked.1 hrequired hn hdeclared hzero
    · intro minimum hdeclared
      by_cases hzero : minimum = 0
      · rw [hzero] at hdeclared ⊢
        exact hminimum hdeclared
      · exact le_of_validateMinimum hchecked.2 hrequired hn hdeclared hzero

theorem forall₂_filterMap {α β γ δ : Type*} {R : α → β → Prop} {S : γ → δ → Prop}
    {f : α → Option γ} {g : β → Option δ}
    (hfg : ∀ a b, R a b → ∃ c d, f a = some c ∧ g b = some d ∧ S c d) {xs : List α} {ys : List β}
    (h : List.Forall₂ R xs ys) : List.Forall₂ S (xs.filterMap f) (ys.filterMap g) := by
  induction h with
  | nil => exact .nil
  | cons hab _ ih =>
    obtain ⟨c, d, hc, hd, hcd⟩ := hfg _ _ hab
    rw [List.filterMap_cons_some hc, List.filterMap_cons_some hd]
    exact .cons hcd ih

theorem forall_mem_iff_of_forall₂ {α β : Type*} {R : α → β → Prop} {P : α → Prop} {Q : β → Prop}
    (hPQ : ∀ a b, R a b → (P a ↔ Q b)) {xs : List α} {ys : List β} (h : List.Forall₂ R xs ys) :
    (∀ a ∈ xs, P a) ↔ ∀ b ∈ ys, Q b := by
  induction h with
  | nil => simp
  | cons hab _ ih => rw [List.forall_mem_cons, List.forall_mem_cons, hPQ _ _ hab, ih]

theorem nestedDicts_of_taken {info : ParameterInfo} {parameters : List Parameter}
    (htype : info.type = .dictionary ∧ parameters ≠ []) {raw value : PyValue}
    (h : Taken info (Converts Allowed ⟨info, parameters⟩) raw value) :
    List.Forall₂ (fun supplied saved => ∃ values, AdmitsEach Allowed parameters supplied values ∧
      saved = savedDict parameters values) (nestedDicts info raw) (nestedDicts info value) := by
  have hsingle : ∀ raw value, Converts Allowed ⟨info, parameters⟩ raw value →
      ∃ supplied saved, raw.toDict.toOption = some supplied ∧ value.toDict.toOption = some saved ∧
        ∃ values, AdmitsEach Allowed parameters supplied values ∧
          saved = savedDict parameters values := by
    intro raw value hconverts
    rw [Converts, if_pos htype] at hconverts
    obtain ⟨-, d, values, hd, -, hvalues, rfl⟩ := hconverts
    exact ⟨d, _, by rw [hd]; rfl, rfl, values, hvalues, rfl⟩
  unfold Taken at h
  unfold nestedDicts
  split_ifs at h with hnull hmulti
  · obtain rfl := PyValue.isNone_iff.mp (Bool.and_eq_true_iff.mp hnull).1
    rw [h]
    split_ifs <;> exact .nil
  · obtain ⟨raws, values, rfl, rfl, hall⟩ := h
    simp only [hmulti, if_true]
    exact forall₂_filterMap hsingle hall
  · simp only [hmulti]
    exact forall₂_filterMap hsingle (.cons h .nil)

/-- The value of every parameter that is the last of its key is found. -/
def FindsLast : List Parameter → List PyValue → PyDict → Prop
  | p :: rest, value :: values, saved =>
    (p.info.key ∉ rest.map (·.info.key) →
      InsertionDict.get? saved (.str p.info.key) = some value) ∧ FindsLast rest values saved
  | _, _, _ => True

theorem findsLast_update {parameters : List Parameter} {values : List PyValue}
    (hlen : values.length = parameters.length) (dict : PyDict) :
    FindsLast parameters values
      (InsertionDict.update dict ((declaredKeys parameters).zip values)) := by
  induction parameters generalizing values dict with
  | nil => trivial
  | cons p rest ih =>
    cases values with
    | nil => trivial
    | cons value values =>
      have hlen : values.length = rest.length := by simpa using hlen
      refine ⟨fun hlast => ?_, ih hlen (InsertionDict.set dict (.str p.info.key) value)⟩
      exact (get?_update_zip hlen _ hlast).trans (InsertionDict.get?_set_self _ _ _)

mutual

/-- A checked value keeps all bounds if what was supplied keeps those that are zero. -/
theorem savedWithin_iff (p : Parameter) (raw value : PyValue)
    (h : Taken p.info (Converts BoundsChecked p) raw value)
    (hchecked : BoundsChecked p.info value) : p.SavedWithin value ↔ p.ZeroBoundsKept raw := by
  obtain ⟨info, parameters⟩ := p
  rw [Parameter.SavedWithin, Parameter.ZeroBoundsKept]
  refine and_congr (withinBounds_iff h hchecked) (imp_congr_right fun htype => ?_)
  cases hparameters : parameters with
  | nil => simp [Parameter.EachSavedWithin, Parameter.EachZeroBoundsKept]
  | cons q rest =>
    rw [← hparameters]
    have hnested := nestedDicts_of_taken ⟨htype, by simp [hparameters]⟩ h
    refine (forall_mem_iff_of_forall₂ ?_ hnested).symm
    rintro supplied saved ⟨values, hvalues, rfl⟩
    exact (eachSavedWithin_iff parameters supplied values _
      (findsLast_update hvalues.length_eq []) hvalues).symm

theorem eachSavedWithin_iff (parameters : List Parameter) (supplied : PyDict)
    (values : List PyValue) (saved : PyDict) (hfinds : FindsLast parameters values saved)
    (h : AdmitsEach BoundsChecked parameters supplied values) :
    Parameter.EachSavedWithin parameters saved ↔
      Parameter.EachZeroBoundsKept parameters supplied := by
  match parameters, values, hfinds, h with
  | [], _, _, _ => exact Iff.rfl
  | p :: rest, value :: values, hfinds, h =>
    obtain ⟨⟨-, htaken, hchecked⟩, hrest⟩ := admitsEach_cons.mp h
    rw [Parameter.EachSavedWithin, Parameter.EachZeroBoundsKept]
    refine and_congr (imp_congr_right fun hlast => ?_)
      (eachSavedWithin_iff rest supplied values saved hfinds.2 hrest)
    rw [hfinds.1 hlast]
    simp only [Option.mem_some_iff, forall_eq']
    exact savedWithin_iff p _ value htaken hchecked

end

end Exactness

section Results

variable {σ : Type} {services : Services σ} {request : Request}

theorem boundsChecked_of_validateConstraints {info : ParameterInfo} {value : PyValue} {s s' : σ}
    (h : validateConstraints services request value info s = .ok ((), s')) :
    BoundsChecked info value := by
  unfold validateConstraints at h
  simp only [bind_eq_ok, lift_eq_ok] at h
  obtain ⟨_, _, -, _, _, ⟨hmaximum, -⟩, _, _, ⟨hminimum, -⟩, -⟩ := h
  exact ⟨hmaximum, hminimum⟩

/-- The saved values keep to the declared bounds exactly when what was supplied
keeps to those that are zero. -/
theorem getAndValidateParameters_savedWithin_iff {command : Option Command} {s s₁ s' : σ}
    {found : Command} {request₁ request' : Request} {saved : PyDict}
    (hfound : commandFor services request command s = .ok ((found, request₁), s₁))
    (h : getAndValidateParameters services request command s = .ok ((saved, request'), s')) :
    Parameter.EachSavedWithin found.parameters saved ↔
      Parameter.EachZeroBoundsKept found.parameters request.parameters := by
  obtain ⟨-, values, hvalues, rfl⟩ :=
    admitted_of_getAndValidate (fun _ _ _ _ => boundsChecked_of_validateConstraints) hfound h
  exact eachSavedWithin_iff _ _ values _ (findsLast_update hvalues.length_eq []) hvalues

/-- A list of dictionaries, in which an empty list keeps to a maximum of zero. -/
theorem getAndValidateParameters_savedWithin_nested :
    Parameter.EachSavedWithin
      [⟨{ plainParameter "files" .dictionary with multi := true, maximum := some 2 },
        [⟨{ plainParameter "path" .string with maximum := some 3 }, []⟩,
          ⟨{ plainParameter "flags" .any with multi := true, maximum := some 0 }, []⟩]⟩]
      [(.str "files", .list [.dict [(.str "path", .str "abc"), (.str "flags", .list [])]])] :=
  (@getAndValidateParameters_savedWithin_iff Unit quietServices
    (sampleRequest [(.str "files", .list [.dict [(.str "path", .str "abc"),
      (.str "flags", .list [])]])])
    (some (sampleCommand
      [⟨{ plainParameter "files" .dictionary with multi := true, maximum := some 2 },
        [⟨{ plainParameter "path" .string with maximum := some 3 }, []⟩,
          ⟨{ plainParameter "flags" .any with multi := true, maximum := some 0 }, []⟩]⟩]))
    () () () _ _ _ _ rfl rfl).mpr (by decide)

/-- A date before the epoch is accepted and saved under a minimum of zero. -/
theorem getAndValidateParameters_negative :
    getAndValidateParameters quietServices (sampleRequest [(.str "since", .int (-1))])
        (some (sampleCommand
          [⟨{ plainParameter "since" .date with minimum := some 0 }, []⟩])) () =
      .ok (([(.str "since", .int (-1))], sampleRequest [(.str "since", .int (-1))]), ()) ∧
    ¬ Parameter.EachSavedWithin [⟨{ plainParameter "since" .date with minimum := some 0 }, []⟩]
      [(.str "since", .int (-1))] :=
  ⟨rfl, by decide⟩

end Results

end Bartender
