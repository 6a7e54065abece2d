import Bartender.Python.Decimals
import Bartender.Requests.Bounds

/-!
# Integers of any size

Whether something is an integer is tested by comparing `int(value)` with
`float(value)`. The comparison is exact and the float is not, so an integer
passes only if it is the value of a double.
-/

namespace Bartender

open StatefulExcept
open Binary64 (Double OnGrid)

/-- The integer is the value of a double: it is in range and has no more than 53
significant bits. -/
def Representable (n : ℤ) : Prop :=
  n.natAbs < 2 ^ 1024 ∧ 2 ^ (n.natAbs.log2 - 52) ∣ n.natAbs

theorem representable_of_lt {n : ℤ} (h : n.natAbs < 2 ^ 53) : Representable n := by
  have hlog : n.natAbs.log2 - 52 = 0 := by
    by_cases hzero : n.natAbs = 0
    · rw [hzero, Nat.log2_zero]
    · have := (Nat.log2_lt hzero).mpr h
      omega
  refine ⟨h.trans_le (pow_le_pow_right₀ one_le_two (by omega)), ?_⟩
  rw [hlog, pow_zero]
  exact one_dvd _

def Denotes (raw : PyValue) (n : ℤ) : Prop := raw = .int n ∨ raw = .str (toString n)

section Conversion

variable {raw value : PyValue} {n : ℤ}

theorem Denotes.isNone (h : Denotes raw n) : raw.isNone = false := by
  rcases h with rfl | rfl <;> rfl

theorem Denotes.pyInt (h : Denotes raw n) : pyInt raw = .ok n := by
  rcases h with rfl | rfl
  · rfl
  · rw [Bartender.pyInt, parseInt_toString]
    rfl

theorem Denotes.exists_pyFloat_iff (h : Denotes raw n) :
    (∃ x, pyFloat raw = .ok x ∧ x.EqInt n) ↔ Representable n := by
  unfold Representable
  rw [← Binary64.onGrid_mul_one_iff]
  rcases h with rfl | rfl
  · rw [← Double.exists_ofInt?_eqInt_iff]
    simp only [pyFloat]
    cases Binary64.ofInt? n <;> simp
  · rw [← Double.eqInt_ofRatio_iff, pyFloat, parseFloat_toString]
    simp

theorem Denotes.convertPlain_eq_ok (h : Denotes raw n) :
    convertPlain .integer raw = .ok value ↔ value = .int n ∧ Representable n := by
  rw [← h.exists_pyFloat_iff, convertPlain]
  simp only [except_bind_eq_ok, h.pyInt]
  constructor
  · rintro ⟨_, hn, x, hx, hvalue⟩
    cases hn
    split_ifs at hvalue with heq
    cases hvalue
    exact ⟨rfl, x, hx, eq_ofInt_ofDouble_iff.mp heq⟩
  · rintro ⟨rfl, x, hx, heq⟩
    refine ⟨n, rfl, x, hx, ?_⟩
    rw [if_pos (eq_ofInt_ofDouble_iff.mpr heq)]
    rfl

end Conversion

section Calls

variable {σ : Type} {services : Services σ} {request : Request}

theorem validateParameterBasedOnType_integer {p : Parameter} (htype : p.info.type = .integer)
    {raw value : PyValue} {n : ℤ} (hdenotes : Denotes raw n) {s s' : σ} :
    validateParameterBasedOnType services request p raw s = .ok (value, s') ↔
      (value = .int n ∧ Representable n) ∧ s' = s := by
  obtain ⟨info, parameters⟩ := p
  have hplain : ¬(info.type = .dictionary ∧ parameters ≠ []) := by
    rintro ⟨hdictionary, -⟩
    cases hdictionary.symm.trans htype
  rw [validateParameterBasedOnType, catchConversion_eq_ok, hdenotes.isNone, Bool.false_and,
    if_neg Bool.false_ne_true, if_neg hplain, lift_eq_ok, htype, hdenotes.convertPlain_eq_ok]

theorem saveParameters_append (before after : List Parameter) (d saved : PyDict) :
    saveParameters services request (before ++ after) d saved = (do
      saveParameters services request after d
        (← saveParameters services request before d saved)) := by
  induction before generalizing saved with
  | nil => simp only [List.nil_append, saveParameters, pure_bind]
  | cons p rest ih => simp only [List.cons_append, saveParameters_cons, ih, bind_assoc]

theorem get?_of_saveParameters {parameters : List Parameter} {d saved result : PyDict} {s s' : σ}
    {key : String} (hkey : key ∉ parameters.map (·.info.key))
    (h : saveParameters services request parameters d saved s = .ok (result, s')) :
    InsertionDict.get? result (.str key) = InsertionDict.get? saved (.str key) := by
  obtain ⟨values, hvalues, rfl⟩ :=
    @admitsEach_of_save_eq_ok σ services request (fun _ => True) (fun _ _ => True)
      (fun _ _ _ _ _ _ => trivial) parameters
      (Parameter.allEverywhere_of_forall (fun _ => trivial) _) _ _ _ _ _ h
  exact get?_update_zip hvalues.length_eq saved hkey

/-- A call of `get_and_validate_parameters` that supplies the integer for a plain
Integer parameter and is in order otherwise. -/
structure SuppliesInteger (services : Services σ) (request : Request) (before : List Parameter)
    (p : Parameter) (after : List Parameter) (d : PyDict) (s : σ) (n : ℤ) : Prop where
  type : p.info.type = .integer
  multi : p.info.multi = false
  unconstrained : Unconstrained p.info
  /-- Of several parameters with one key the last one's value is saved. -/
  last : p.info.key ∉ after.map (·.info.key)
  supplied : ∃ raw, Denotes raw n ∧ InsertionDict.get? d (.str p.info.key) = some raw
  declared : OnlyDeclaredKeys (before ++ p :: after) d
  others : ∃ saved s₁ result,
    saveParameters services request before d [] s = .ok (saved, s₁) ∧
      saveParameters services request after d
        (InsertionDict.set saved (.str p.info.key) (.int n)) s₁ = .ok result

namespace SuppliesInteger

variable {before after : List Parameter} {p : Parameter} {d : PyDict} {s : σ} {n : ℤ}

theorem validateRequired (h : SuppliesInteger services request before p after d s n) :
    validateRequiredParameterIsIncludedInRequest request p.info d = .ok () := by
  obtain ⟨raw, -, hraw⟩ := h.supplied
  refine (validateRequired_eq_ok request).mpr (.inr (.inl ?_))
  rw [InsertionDict.contains_eq_isSome, hraw]
  rfl

theorem extract_eq_ok_iff (h : SuppliesInteger services request before p after d s n)
    {s₁ s₂ : σ} {value : PyValue} :
    extractParameterValueFromRequest (validateParameterBasedOnType services request p) p.info d
        s₁ = .ok (value, s₂) ↔ (value = .int n ∧ Representable n) ∧ s₂ = s₁ := by
  obtain ⟨raw, hdenotes, hraw⟩ := h.supplied
  have hsupplied : suppliedValue p.info d = raw := by rw [suppliedValue, hraw, Option.getD_some]
  unfold extractParameterValueFromRequest
  rw [hsupplied, hdenotes.isNone, Bool.false_and, if_neg Bool.false_ne_true, h.multi,
    if_neg Bool.false_ne_true, validateParameterBasedOnType_integer h.type hdenotes]

/-- The call returns with the integer saved exactly when it is the value of a double. -/
theorem validateParameters_iff (h : SuppliesInteger services request before p after d s n) :
    (∃ saved s', validateParameters services request (before ++ p :: after) d s =
        .ok (saved, s') ∧ InsertionDict.get? saved (.str p.info.key) = some (.int n)) ↔
      Representable n := by
  obtain ⟨saved, s₁, ⟨result, s₂⟩, hbefore, hafter⟩ := h.others
  unfold validateParameters
  simp only [bind_eq_ok, lift_eq_ok, saveParameters_append, saveParameters_cons]
  constructor
  · rintro ⟨_, _, ⟨_, _, -, _, _, -, _, _, -, _, _, hextract, -⟩, -⟩
    exact (h.extract_eq_ok_iff.mp hextract).1.2
  · intro hn
    have hextract := h.extract_eq_ok_iff.mpr ⟨⟨rfl, hn⟩, (rfl : s₁ = s₁)⟩
    have hchecks := h.unconstrained.validateConstraints_eq_ok services request (.int n) s₁
    refine ⟨result, s₂, ⟨(), s, ⟨validateNoExtra_eq_ok.mpr h.declared, rfl⟩, saved, s₁, hbefore,
      (), s₁, ⟨h.validateRequired, rfl⟩, .int n, s₁, hextract, (), s₁, hchecks, hafter⟩, ?_⟩
    rw [get?_of_saveParameters h.last hafter]
    exact InsertionDict.get?_set_self _ _ _

theorem getAndValidateParameters_iff {sent : Request} {command : Option Command} {found : Command}
    {s₀ : σ} (h : SuppliesInteger services request before p after d s n)
    (hfound : commandFor services sent command s₀ = .ok ((found, request), s))
    (hparameters : found.parameters = before ++ p :: after) (hsent : sent.parameters = d) :
    (∃ saved request' s', getAndValidateParameters services sent command s₀ =
        .ok ((saved, request'), s') ∧
        InsertionDict.get? saved (.str p.info.key) = some (.int n)) ↔ Representable n := by
  rw [← h.validateParameters_iff]
  simp only [getAndValidateParameters_eq_ok hfound, hparameters, hsent]
  constructor
  · rintro ⟨saved, _, s', ⟨-, hvalidate⟩, hget⟩
    exact ⟨saved, s', hvalidate, hget⟩
  · rintro ⟨saved, s', hvalidate, hget⟩
    exact ⟨saved, request, s', ⟨rfl, hvalidate⟩, hget⟩

end SuppliesInteger

/-- An integer is accepted and saved exactly when it is the value of a double, for
nested parameters as for those of the command. -/
theorem getAndValidateParameters_integer_iff {before after : List Parameter} {p : Parameter}
    {d : PyDict} {s : σ} {n : ℤ} (h : SuppliesInteger services request before p after d s n) :
    ((∃ saved s', validateParameters services request (before ++ p :: after) d s =
        .ok (saved, s') ∧ InsertionDict.get? saved (.str p.info.key) = some (.int n)) ↔
      Representable n) ∧
    ∀ sent command found s₀, commandFor services sent command s₀ = .ok ((found, request), s) →
      found.parameters = before ++ p :: after → sent.parameters = d →
      ((∃ saved request' s', getAndValidateParameters services sent command s₀ =
          .ok ((saved, request'), s') ∧
          InsertionDict.get? saved (.str p.info.key) = some (.int n)) ↔ Representable n) :=
  ⟨h.validateParameters_iff, fun _ _ _ _ => h.getAndValidateParameters_iff⟩

end Calls

section Samples

def sampleSize : Parameter := ⟨plainParameter "size" .integer, []⟩

theorem suppliesInteger_sampleSize {raw : PyValue} {n : ℤ} (hdenotes : Denotes raw n) :
    SuppliesInteger quietServices (sampleRequest [(.str "size", raw)]) [] sampleSize []
      [(.str "size", raw)] () n where
  type := rfl
  multi := rfl
  unconstrained := ⟨rfl, rfl, rfl, rfl⟩
  last := List.not_mem_nil
  supplied := ⟨raw, hdenotes, rfl⟩
  declared := by
    simp [OnlyDeclaredKeys, InsertionDict.keys, declaredKeys, sampleSize, plainParameter]
  others := ⟨[], (), _, rfl, rfl⟩

/-- A small number is sent as a string and saved. -/
theorem getAndValidateParameters_integer_seven :
    ∃ saved request' s', getAndValidateParameters quietServices
        (sampleRequest [(.str "size", .str "7")]) (some (sampleCommand [sampleSize])) () =
          .ok ((saved, request'), s') ∧
      InsertionDict.get? saved (.str "size") = some (.int 7) := by
  have hdenotes : Denotes (.str "7") 7 := .inr rfl
  have hiff := (getAndValidateParameters_integer_iff (suppliesInteger_sampleSize hdenotes)).2
    (sampleRequest [(.str "size", .str "7")]) (some (sampleCommand [sampleSize]))
    (sampleCommand [sampleSize]) () rfl rfl rfl
  exact hiff.mpr (representable_of_lt (by decide))

theorem not_representable_two_pow_53_add_one : ¬ Representable (2 ^ 53 + 1) := by
  rintro ⟨-, hdvd⟩
  revert hdvd
  decide

/-- One more than `2 ^ 53` is refused. -/
theorem getAndValidateParameters_two_pow_53_add_one :
    SuppliesInteger quietServices (sampleRequest [(.str "size", .int (2 ^ 53 + 1))]) [] sampleSize
        [] [(.str "size", .int (2 ^ 53 + 1))] () (2 ^ 53 + 1) ∧
      ¬ ∃ saved request' s', getAndValidateParameters quietServices
          (sampleRequest [(.str "size", .int (2 ^ 53 + 1))]) (some (sampleCommand [sampleSize]))
            () = .ok ((saved, request'), s') ∧
        InsertionDict.get? saved (.str "size") = some (.int (2 ^ 53 + 1)) := by
  have hdenotes : Denotes (.int (2 ^ 53 + 1)) (2 ^ 53 + 1) := .inl rfl
  have hsupplies := suppliesInteger_sampleSize hdenotes
  have hfound : commandFor quietServices (sampleRequest [(.str "size", .int (2 ^ 53 + 1))])
      (some (sampleCommand [sampleSize])) () = .ok ((sampleCommand [sampleSize],
        sampleRequest [(.str "size", .int (2 ^ 53 + 1))]), ()) := rfl
  refine ⟨hsupplies, fun haccepted => not_representable_two_pow_53_add_one ?_⟩
  exact (hsupplies.getAndValidateParameters_iff hfound rfl rfl).mp haccepted

end Samples

end Bartender
