import Bartender.Requests.Bounds

/-!
# Choices that depend on another parameter

The choices of a required parameter may be a dictionary whose entry is picked by
another parameter or by the instance name. The entry is looked up by the request
as it was sent, where a default is not filled in yet and an empty string counts
as null, while the value that is saved comes after both. The saved values are
among the choices under the saved reference exactly when the two keys agree or
the other entry happens to list the values as well.
-/

namespace Bartender

open StatefulExcept

def LastOf (parameters : List Parameter) (p : Parameter) : Prop :=
  ∃ before after, parameters = before ++ p :: after ∧ p.info.key ∉ after.map (·.info.key)

inductive Reference
  | instanceName
  | parameter (k : Parameter)

namespace Reference

/-- The `key_reference`. -/
def key : Reference → String
  | instanceName => "instance_name"
  | parameter k => k.info.key

def Declared (parameters : List Parameter) (q : Parameter) : Reference → Prop
  | instanceName => True
  | parameter k =>
    LastOf parameters k ∧ k.info.type = .string ∧ k.info.key ≠ q.info.key ∧
      k.info.key ≠ "instance_name"

def orNull : PyValue → PyValue
  | .none => .str "null"
  | value => value

variable (request : Request)

def lookedUp : Reference → PyValue
  | instanceName => .str request.instanceName
  | parameter k =>
    let value := (InsertionDict.get? request.parameters (.str k.info.key)).getD .none
    if value.truth then value else .str "null"

def supplied : Reference → PyValue
  | instanceName => .str request.instanceName
  | parameter k => orNull (suppliedValue k.info request.parameters)

def saved (parametersToSave : PyDict) : Reference → PyValue
  | instanceName => .str request.instanceName
  | parameter k =>
    orNull ((InsertionDict.get? parametersToSave (.str k.info.key)).getD .none)

end Reference

/-- Strict choices in a static dictionary, for a parameter that must be given. -/
structure DictionaryChoices (info : ParameterInfo) (entries : PyDict) (reference : Reference) :
    Prop where
  required : info.optional = false
  strict : ∃ details, info.choices = some ⟨.static, .dict entries, true, details⟩ ∧
    InsertionDict.get? details (.str "key_reference") = some (.str reference.key)

def Listed (entries : PyDict) (key value : PyValue) : Prop :=
  ∃ k raw elements allowed, key.toKey = .ok k ∧ InsertionDict.get? entries k = some raw ∧
    raw.iter = .ok elements ∧ elements.mapM collapseChoice = .ok allowed ∧
    value.isIn allowed = true

def singleValues (info : ParameterInfo) (value : PyValue) : List PyValue :=
  if info.multi then
    match value with
    | .list values => values
    | _ => []
  else [value]

def EachListed (info : ParameterInfo) (entries : PyDict) (key value : PyValue) : Prop :=
  ∀ single ∈ singleValues info value, Listed entries key single

section Checks

variable {request : Request} {info : ParameterInfo} {entries : PyDict} {reference : Reference}

/-- The entry that the check reads is the one under the key it looks up. -/
theorem dictionaryChoices_eq_ok {details : PyDict} {raw : PyValue}
    (hreference : InsertionDict.get? details (.str "key_reference") = some (.str reference.key))
    (hdeclared : ∀ k, reference = .parameter k → k.info.key ≠ "instance_name")
    (h : dictionaryChoices request info details entries = .ok raw) :
    ∃ k, (reference.lookedUp request).toKey = .ok k ∧ InsertionDict.get? entries k = some raw := by
  have hkey : ∃ k, (reference.lookedUp request).toKey = .ok k ∧
      (match (InsertionDict.get? entries k).getD .none with
        | .none =>
          invalid
            ("Unable to validate choices for parameter '%s' - Choices" ++
              " dictionary doesn't contain an entry with key '%s'")
            [.str info.key, reference.lookedUp request]
        | rawAllowed => pure rawAllowed) = (.ok raw : Except PyError PyValue) := by
    unfold dictionaryChoices at h
    simp only [hreference, Option.getD_some] at h
    cases reference with
    | instanceName => exact ⟨.str request.instanceName, rfl, h⟩
    | parameter k =>
      split at h
      · next hnone => cases hnone
      · next heq => exact absurd (PyValue.str.inj heq) (hdeclared k rfl)
      · exact except_bind_eq_ok.mp h
  obtain ⟨k, hk, h⟩ := hkey
  refine ⟨k, hk, ?_⟩
  cases hget : InsertionDict.get? entries k with
  | none =>
    rw [hget] at h
    cases h
  | some found =>
    rw [hget, Option.getD_some] at h
    split at h
    · cases h
    · cases h
      rfl

theorem isIn_of_checkChoice {allowed : List PyValue} {value : PyValue}
    (h : checkChoice info allowed value = .ok ()) : value.isIn allowed = true := by
  unfold checkChoice invalid at h
  split_ifs at h with hin
  exact hin

theorem of_forM_eq_ok {α ε : Type} {f : α → Except ε Unit} {xs : List α}
    (h : xs.forM f = .ok ()) : ∀ x ∈ xs, f x = .ok () := by
  induction xs with
  | nil => simp
  | cons x xs ih =>
    obtain ⟨⟨⟩, hx, hrest⟩ := except_bind_eq_ok.mp (List.forM_cons.symm.trans h)
    exact List.forall_mem_cons.mpr ⟨hx, ih hrest⟩

/-- A value that passed the check is listed, each element of a multi parameter. -/
theorem eachListed_of_checkChoices {k : PyKey} {key value raw : PyValue} (hk : key.toKey = .ok k)
    (hraw : InsertionDict.get? entries k = some raw)
    (h : checkChoices info value raw = .ok ()) : EachListed info entries key value := by
  unfold checkChoices at h
  obtain ⟨elements, helements, h⟩ := except_bind_eq_ok.mp h
  obtain ⟨allowed, hallowed, h⟩ := except_bind_eq_ok.mp h
  have hlisted : ∀ single, checkChoice info allowed single = .ok () →
      Listed entries key single := fun single hsingle =>
    ⟨k, raw, elements, allowed, hk, hraw, helements, hallowed, isIn_of_checkChoice hsingle⟩
  intro single hsingle
  unfold singleValues at hsingle
  split_ifs at h hsingle with hmulti
  · obtain ⟨values, hvalues, h⟩ := except_bind_eq_ok.mp h
    cases value with
    | list values =>
      cases hvalues
      exact hlisted single (of_forM_eq_ok h single hsingle)
    | _ => exact absurd hsingle List.not_mem_nil
  · obtain rfl := List.mem_singleton.mp hsingle
    exact hlisted _ h

/-- What the check of the choices leaves to be known about a value. -/
def ChoicesChecked (request : Request) (info : ParameterInfo) (value : PyValue) : Prop :=
  ∀ entries reference, DictionaryChoices info entries reference →
    (∀ k, reference = .parameter k → k.info.key ≠ "instance_name") → value.isNone = false →
    EachListed info entries (reference.lookedUp request) value

theorem choicesChecked_of_validateConstraints {σ : Type} {services : Services σ} {value : PyValue}
    {s s' : σ} (h : validateConstraints services request value info s = .ok ((), s')) :
    ChoicesChecked request info value := by
  unfold validateConstraints at h
  rw [bind_eq_ok] at h
  obtain ⟨_, _, h, -⟩ := h
  rintro entries reference ⟨hrequired, details, hchoices, hreference⟩ hdeclared hvalue
  simp only [validateValueInChoices, hvalue, hrequired, hchoices, rawChoices, staticChoices,
    Bool.or_self, Bool.false_eq_true, if_false, if_true, bind_eq_ok, lift_eq_ok] at h
  obtain ⟨raw, _, ⟨hraw, -⟩, h, -⟩ := h
  obtain ⟨k, hk, hget⟩ := dictionaryChoices_eq_ok hreference hdeclared hraw
  exact eachListed_of_checkChoices hk hget h

end Checks

section Saved

variable {Allowed : ParameterInfo → PyValue → Prop}

theorem exists_admits_of_lastOf {parameters : List Parameter} {p : Parameter} {d saved : PyDict}
    {values : List PyValue} (hlast : LastOf parameters p)
    (hvalues : AdmitsEach Allowed parameters d values)
    (hfinds : FindsLast parameters values saved) :
    ∃ value, InsertionDict.get? saved (.str p.info.key) = some value ∧
      Admits Allowed p d value := by
  obtain ⟨before, after, rfl, hafter⟩ := hlast
  induction before generalizing values with
  | nil =>
    cases values with
    | nil => exact hvalues.elim
    | cons value values => exact ⟨value, hfinds.1 hafter, (admitsEach_cons.mp hvalues).1⟩
  | cons _ before ih =>
    cases values with
    | nil => exact hvalues.elim
    | cons value values => exact ih (admitsEach_cons.mp hvalues).2 hfinds.2

theorem converts_string {p : Parameter} (htype : p.info.type = .string) {raw value : PyValue}
    (h : Converts Allowed p raw value) : value = raw := by
  obtain ⟨info, parameters⟩ := p
  have htype : info.type = .string := htype
  rw [Converts, if_neg (by simp [htype]), htype] at h
  cases raw <;> cases h.2
  rfl

theorem eq_of_taken_string {p : Parameter} (htype : p.info.type = .string) {raw value : PyValue}
    (h : Taken p.info (Converts Allowed p) raw value) : value = raw := by
  unfold Taken at h
  split_ifs at h with hnull
  · rw [h, PyValue.isNone_iff.mp (Bool.and_eq_true_iff.mp hnull).1]
  · obtain ⟨raws, values, rfl, rfl, hall⟩ := h
    have heq : ∀ a b b', Converts Allowed p a b → a = b' → b = b' := by
      rintro a b _ hconverts rfl
      exact converts_string htype hconverts
    rw [eq_of_forall₂ heq hall (List.forall₂_same.mpr fun _ _ => rfl)]
  · exact converts_string htype h

theorem saved_eq_supplied {parameters : List Parameter} {q : Parameter} {reference : Reference}
    {request : Request} {saved : PyDict} {values : List PyValue}
    (hdeclared : reference.Declared parameters q)
    (hvalues : AdmitsEach Allowed parameters request.parameters values)
    (hfinds : FindsLast parameters values saved) :
    reference.saved request saved = reference.supplied request := by
  cases reference with
  | instanceName => rfl
  | parameter k =>
    obtain ⟨hlast, htype, -⟩ := hdeclared
    obtain ⟨value, hget, -, htaken, -⟩ := exists_admits_of_lastOf hlast hvalues hfinds
    rw [Reference.saved, hget, Option.getD_some, eq_of_taken_string htype htaken]
    rfl

end Saved

section Results

variable {σ : Type} {services : Services σ} {request : Request}

mutual

theorem converts_mono {Allowed Allowed' : ParameterInfo → PyValue → Prop}
    (himp : ∀ info v, Allowed info v → Allowed' info v) (p : Parameter) (raw value : PyValue)
    (h : Converts Allowed p raw value) : Converts Allowed' p raw value := by
  obtain ⟨info, parameters⟩ := p
  rw [Converts] at h ⊢
  refine ⟨h.1, ?_⟩
  have h := h.2
  split_ifs at h ⊢
  · obtain ⟨d, values, hd, hkeys, hvalues, rfl⟩ := h
    exact ⟨d, values, hd, hkeys, admitsEach_mono himp parameters d values hvalues, rfl⟩
  · exact h

theorem admitsEach_mono {Allowed Allowed' : ParameterInfo → PyValue → Prop}
    (himp : ∀ info v, Allowed info v → Allowed' info v) (parameters : List Parameter) (d : PyDict)
    (values : List PyValue) (h : AdmitsEach Allowed parameters d values) :
    AdmitsEach Allowed' parameters d values := by
  match parameters, values, h with
  | [], _, h => exact admitsEach_nil.mpr (admitsEach_nil.mp h)
  | p :: rest, value :: values, h =>
    obtain ⟨⟨hprovided, htaken, hallowed⟩, hrest⟩ := admitsEach_cons.mp h
    exact admitsEach_cons.mpr ⟨⟨hprovided, htaken.mono (converts_mono himp p),
      himp _ _ hallowed⟩, admitsEach_mono himp rest d values hrest⟩

end

/-- The value is what `_extract_parameter_value_from_request` makes of the request. -/
def Extracted (p : Parameter) (requestParameters : PyDict) (value : PyValue) : Prop :=
  Taken p.info (Converts (fun _ _ => True) p) (suppliedValue p.info requestParameters) value

/-- A saved value is among the choices listed under the saved reference exactly
when the check looked up the key for what is supplied, or that key's entry lists
what is supplied as well. -/
theorem getAndValidateParameters_eachListed_iff {command : Option Command} {s s₁ s' : σ}
    {found : Command} {request₁ request' : Request} {saved : PyDict}
    (hfound : commandFor services request command s = .ok ((found, request₁), s₁))
    (h : getAndValidateParameters services request command s = .ok ((saved, request'), s'))
    {q : Parameter} (hq : LastOf found.parameters q) {entries : PyDict} {reference : Reference}
    (hchoices : DictionaryChoices q.info entries reference)
    (hdeclared : reference.Declared found.parameters q) {value : PyValue}
    (hvalue : InsertionDict.get? saved (.str q.info.key) = some value)
    (hnonnull : value.isNone = false) :
    EachListed q.info entries (reference.saved request saved) value ↔
      reference.lookedUp request = reference.supplied request ∨
        ∀ extracted, Extracted q request.parameters extracted →
          EachListed q.info entries (reference.supplied request) extracted := by
  have hlooked : reference.lookedUp request₁ = reference.lookedUp request := by
    obtain ⟨commandType, outputType, rfl⟩ := commandFor_request hfound
    cases reference <;> rfl
  obtain ⟨-, values, hvalues, rfl⟩ :=
    admitted_of_getAndValidate (fun _ _ _ _ => choicesChecked_of_validateConstraints) hfound h
  have hfinds : FindsLast found.parameters values (savedDict found.parameters values) :=
    findsLast_update hvalues.length_eq []
  obtain ⟨value', hvalue', -, htaken, hchecked⟩ := exists_admits_of_lastOf hq hvalues hfinds
  obtain rfl : value = value' := Option.some.inj (hvalue.symm.trans hvalue')
  have hlisted := hchecked entries reference hchoices
    (fun k hk => by subst hk; exact hdeclared.2.2.2) hnonnull
  rw [hlooked] at hlisted
  have hextracted : Extracted q request.parameters value :=
    htaken.mono (converts_mono (fun _ _ _ => trivial) q)
  rw [saved_eq_supplied hdeclared hvalues hfinds]
  constructor
  · intro hsupplied
    refine .inr fun extracted h => ?_
    rw [h.unique (Converts.unique q) hextracted]
    exact hsupplied
  · rintro (hkey | hsupplied)
    · rw [← hkey]
      exact hlisted
    · exact hsupplied value hextracted

/-- The choices in the examples: one entry for `a` and one for null. -/
def sampleEntries : PyDict := [(.str "a", .list [.str "1"]), (.str "null", .list [.str "7"])]

/-- A String parameter with a default, and one whose choices depend on it. -/
def sampleReference : Parameter :=
  ⟨{ plainParameter "p1" .string with nullable := true, default := .str "a" }, []⟩

def sampleDependent : Parameter :=
  ⟨{ plainParameter "p2" .string with
    choices := some ⟨.static, .dict sampleEntries, true, [(.str "key_reference", .str "p1")]⟩ },
    []⟩

theorem sampleDependent_choices :
    DictionaryChoices sampleDependent.info sampleEntries (.parameter sampleReference) :=
  ⟨rfl, _, rfl, rfl⟩

theorem sampleReference_declared :
    Reference.Declared [sampleReference, sampleDependent] sampleDependent
      (.parameter sampleReference) :=
  ⟨⟨[], [sampleDependent], rfl, by decide⟩, rfl, by decide, by decide⟩

/-- The reference is supplied, so its own entry was looked up. -/
theorem getAndValidateParameters_eachListed_supplied :
    EachListed sampleDependent.info sampleEntries
      (Reference.saved (sampleRequest [(.str "p1", .str "a"), (.str "p2", .str "1")])
        [(.str "p1", .str "a"), (.str "p2", .str "1")] (.parameter sampleReference)) (.str "1") :=
  (@getAndValidateParameters_eachListed_iff Unit quietServices
    (sampleRequest [(.str "p1", .str "a"), (.str "p2", .str "1")])
    (some (sampleCommand [sampleReference, sampleDependent])) () () () _ _ _ _ rfl rfl
    sampleDependent ⟨[sampleReference], [], rfl, by decide⟩ _ _ sampleDependent_choices
    sampleReference_declared _ rfl rfl).mpr (.inl rfl)

/-- The default is saved for the reference, and a choice for null next to it. -/
theorem getAndValidateParameters_default :
    getAndValidateParameters quietServices (sampleRequest [(.str "p2", .str "7")])
        (some (sampleCommand [sampleReference, sampleDependent])) () =
      .ok (([(.str "p1", .str "a"), (.str "p2", .str "7")],
        sampleRequest [(.str "p2", .str "7")]), ()) ∧
    ¬ EachListed sampleDependent.info sampleEntries
      (Reference.saved (sampleRequest [(.str "p2", .str "7")])
        [(.str "p1", .str "a"), (.str "p2", .str "7")] (.parameter sampleReference))
        (.str "7") := by
  refine ⟨rfl, fun h => ?_⟩
  obtain ⟨k, raw, elements, allowed, hk, hraw, helements, hallowed, hin⟩ :=
    h (.str "7") (List.mem_singleton_self _)
  cases hk
  cases hraw
  cases helements
  cases hallowed
  cases hin

end Results

end Bartender
