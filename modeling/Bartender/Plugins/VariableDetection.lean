import Bartender.Plugins.Expansion

/-!
# Detection of variables

`string_contains_environment_var` tells an escaped dollar sign by the part before
it, `expand_string_with_environment_var` by the text expanded so far. Up to the
first reference these end alike, whatever the variables stand for, so the two
agree on the parts after the first. The text before the first dollar sign, where
no reference can be, is taken for one by the detection.
-/

namespace Bartender

namespace EnvHelp

variable (chars : CharClass) (env : List (String × String))

/-- The names that the loop of the expansion replaces, in order. -/
def replacedNames : List Char → List (List Char) → List (List Char)
  | _, [] => []
  | expandedValue, part :: rest =>
    let more := replacedNames (expandedValue ++ expandPart chars env expandedValue part) rest
    if isStringEnvironmentVariable chars part && !endsWithBackslash expandedValue then
      getEnvironmentVarNameFromString chars part :: more
    else more

/-- The variables that are substituted when a string is expanded. -/
def substitutedNames (s : String) : List (List Char) :=
  match s.toList.splitOn '$' with
  | [] => []
  | first :: rest => replacedNames chars env first rest

/-- Some dollar sign stands before a letter and not after a backslash. -/
def HasReference (s : List Char) : Prop :=
  ∃ before after, s = before ++ '$' :: after ∧ endsWithBackslash before = false ∧
    isStringEnvironmentVariable chars after = true

/-- The text before the first dollar sign starts with a letter and does not escape it. -/
def StartsWithWord (s : List Char) : Prop :=
  ∃ before after, s = before ++ '$' :: after ∧ '$' ∉ before ∧
    isStringEnvironmentVariable chars before = true ∧ endsWithBackslash before = false

section Parts

variable {chars env}

theorem containsFrom_cons (previous part : List Char) (rest : List (List Char)) :
    containsFrom chars previous (part :: rest) =
      ((isStringEnvironmentVariable chars part && !endsWithBackslash previous) ||
        containsFrom chars part rest) := by
  rw [containsFrom]
  cases part with
  | nil => rfl
  | cons c part =>
    cases hc : chars.isAlpha c <;> cases hprevious : endsWithBackslash previous <;>
      simp [isStringEnvironmentVariable, hc]

theorem stringContainsEnvironmentVar_of_splitOn {s first : List Char} {rest : List (List Char)}
    (h : s.splitOn '$' = first :: rest) :
    stringContainsEnvironmentVar chars s =
      ((!rest.isEmpty && isStringEnvironmentVariable chars first && !endsWithBackslash first) ||
        containsFrom chars first rest) := by
  unfold stringContainsEnvironmentVar
  rw [h]
  cases rest with
  | nil => rfl
  | cons part rest =>
    cases first with
    | nil => rfl
    | cons c first =>
      cases hc : chars.isAlpha c <;> cases hfirst : endsWithBackslash (c :: first) <;>
        simp [isStringEnvironmentVariable, hc, hfirst]

theorem append_eq_append_dollar {text t before after : List Char} (htext : '$' ∉ text)
    (h : text ++ t = before ++ '$' :: after) :
    ∃ between, before = text ++ between ∧ t = between ++ '$' :: after := by
  rcases List.append_eq_append_iff.mp h with ⟨between, hbefore, ht⟩ | ⟨between, rfl, hafter⟩
  · exact ⟨between, hbefore, ht⟩
  · cases between with
    | nil => exact ⟨[], by simp, hafter.symm⟩
    | cons c between =>
      cases hafter
      exact absurd (by simp) htext

theorem endsWithBackslash_append_dollar (text part : List Char) :
    endsWithBackslash (text ++ '$' :: part) = endsWithBackslash part := by
  rw [endsWithBackslash_append (List.cons_ne_nil _ _), endsWithBackslash_dollar]

/-- The parts are tested for what the text that they make up says. -/
theorem containsFrom_iff (hchars : Separates chars) {parts : List (List Char)}
    (hparts : ∀ part ∈ parts, '$' ∉ part) {text previous : List Char}
    (hends : endsWithBackslash text = endsWithBackslash previous) :
    containsFrom chars previous parts = true ↔
      ∃ before after, withDollars parts = before ++ '$' :: after ∧
        endsWithBackslash (text ++ before) = false ∧
        isStringEnvironmentVariable chars after = true := by
  induction parts generalizing text previous with
  | nil => simp [containsFrom, withDollars]
  | cons part rest ih =>
    obtain ⟨hpart, hrest⟩ := List.forall_mem_cons.mp hparts
    have hcons : withDollars (part :: rest) = '$' :: (part ++ withDollars rest) := rfl
    rw [containsFrom_cons, Bool.or_eq_true, hcons, ← hends,
      ih hrest (endsWithBackslash_append_dollar text part)]
    constructor
    · rintro (hfirst | ⟨before, after, hjoin, hbefore, hafter⟩)
      · obtain ⟨hstring, hescaped⟩ := Bool.and_eq_true_iff.mp hfirst
        refine ⟨[], part ++ withDollars rest, rfl, ?_, ?_⟩
        · rw [List.append_nil]
          simpa using hescaped
        · rwa [isStringEnvironmentVariable_append hchars]
      · refine ⟨'$' :: (part ++ before), after, ?_, ?_, hafter⟩
        · rw [hjoin, List.cons_append, List.append_assoc]
        · rwa [← List.cons_append, ← List.append_assoc]
    · rintro ⟨before, after, hjoin, hbefore, hafter⟩
      cases before with
      | nil =>
        cases hjoin
        rw [isStringEnvironmentVariable_append hchars] at hafter
        rw [List.append_nil] at hbefore
        exact .inl (by rw [hafter, hbefore]; rfl)
      | cons c before =>
        obtain ⟨rfl, htail⟩ := List.cons.inj hjoin
        obtain ⟨between, rfl, hbetween⟩ := append_eq_append_dollar hpart htail
        refine .inr ⟨between, after, hbetween, ?_, hafter⟩
        rwa [List.append_assoc, List.cons_append]

theorem hasReference_iff (hchars : Separates chars) {s first : List Char}
    {rest : List (List Char)} (h : s.splitOn '$' = first :: rest) :
    HasReference chars s ↔ containsFrom chars first rest = true := by
  obtain ⟨rfl, hparts⟩ := splitOn_eq_cons h
  obtain ⟨hfirst, hrest⟩ := List.forall_mem_cons.mp hparts
  rw [containsFrom_iff hchars hrest rfl]
  constructor
  · rintro ⟨before, after, hjoin, hbefore, hafter⟩
    obtain ⟨between, rfl, hbetween⟩ := append_eq_append_dollar hfirst hjoin
    exact ⟨between, after, hbetween, hbefore, hafter⟩
  · rintro ⟨before, after, hjoin, hbefore, hafter⟩
    exact ⟨first ++ before, after, by rw [hjoin, List.append_assoc], hbefore, hafter⟩

theorem startsWithWord_iff {s first : List Char} {rest : List (List Char)}
    (h : s.splitOn '$' = first :: rest) :
    StartsWithWord chars s ↔ (!rest.isEmpty && isStringEnvironmentVariable chars first &&
      !endsWithBackslash first) = true := by
  obtain ⟨rfl, hparts⟩ := splitOn_eq_cons h
  obtain ⟨hfirst, -⟩ := List.forall_mem_cons.mp hparts
  constructor
  · rintro ⟨before, after, hjoin, hdollar, hstring, hends⟩
    obtain ⟨between, rfl, hbetween⟩ := append_eq_append_dollar hfirst hjoin
    cases rest with
    | nil => simp [withDollars] at hbetween
    | cons part rest =>
      cases between with
      | nil =>
        rw [List.append_nil] at hstring hends
        simp [hstring, hends]
      | cons c between =>
        obtain ⟨rfl, -⟩ := List.cons.inj hbetween
        exact absurd (by simp) hdollar
  · intro hstarts
    cases rest with
    | nil => cases hstarts
    | cons part rest =>
      simp only [List.isEmpty_cons, Bool.not_false, Bool.true_and, Bool.and_eq_true,
        Bool.not_eq_true'] at hstarts
      exact ⟨first, part ++ withDollars rest, rfl, hfirst, hstarts⟩

theorem expandPart_of_not_reference {text part : List Char}
    (h : (isStringEnvironmentVariable chars part && !endsWithBackslash text) = false) :
    expandPart chars env text part = '$' :: part := by
  unfold expandPart
  split_ifs with hescaped hstring
  · rfl
  · rw [hstring, Bool.true_and, Bool.not_eq_false'] at h
    exact absurd h hescaped
  · rfl

theorem expandParts_of_not_contains {parts : List (List Char)} {text previous : List Char}
    (hends : endsWithBackslash text = endsWithBackslash previous)
    (h : containsFrom chars previous parts = false) :
    replacedNames chars env text parts = [] ∧
      expandParts chars env text parts = text ++ withDollars parts := by
  induction parts generalizing text previous with
  | nil => simp [replacedNames, expandParts, withDollars]
  | cons part rest ih =>
    rw [containsFrom_cons, Bool.or_eq_false_iff, ← hends] at h
    obtain ⟨hpart, hrest⟩ := h
    obtain ⟨hnames, hparts⟩ := ih (endsWithBackslash_append_dollar text part) hrest
    rw [replacedNames, expandParts_cons, expandPart_of_not_reference hpart, hnames, hparts, hpart]
    simp [withDollars]

/-- Where something is detected something is replaced, whatever the variables stand for. -/
theorem replacedNames_ne_nil {parts : List (List Char)} {text previous : List Char}
    (hends : endsWithBackslash text = endsWithBackslash previous)
    (h : containsFrom chars previous parts = true) : replacedNames chars env text parts ≠ [] := by
  induction parts generalizing text previous with
  | nil => cases h
  | cons part rest ih =>
    rw [containsFrom_cons, ← hends] at h
    rw [replacedNames]
    cases hpart : isStringEnvironmentVariable chars part && !endsWithBackslash text with
    | true => exact List.cons_ne_nil _ _
    | false =>
      rw [hpart, Bool.false_or] at h
      rw [expandPart_of_not_reference hpart]
      exact ih (endsWithBackslash_append_dollar text part) h

end Parts

section Strings

variable {chars}

theorem substitutedNames_of_splitOn {s : String} {first : List Char} {rest : List (List Char)}
    (h : s.toList.splitOn '$' = first :: rest) :
    substitutedNames chars env s = replacedNames chars env first rest := by
  rw [substitutedNames, h]

theorem substitutedNames_ne_nil_iff (hchars : Separates chars) (s : String) :
    substitutedNames chars env s ≠ [] ↔ HasReference chars s.toList := by
  obtain ⟨first, rest, hs⟩ := List.exists_cons_of_ne_nil (List.splitOn_ne_nil '$' s.toList)
  rw [substitutedNames_of_splitOn env hs, hasReference_iff hchars hs]
  constructor
  · intro h
    by_contra hcontains
    exact h (expandParts_of_not_contains rfl (Bool.eq_false_of_not_eq_true hcontains)).1
  · exact replacedNames_ne_nil rfl

theorem expandString_eq_self (hchars : Separates chars) {s : String}
    (h : ¬ HasReference chars s.toList) : expandStringWithEnvironmentVar chars s env = s := by
  obtain ⟨first, rest, hs⟩ := List.exists_cons_of_ne_nil (List.splitOn_ne_nil '$' s.toList)
  rw [hasReference_iff hchars hs, Bool.not_eq_true] at h
  rw [expandStringWithEnvironmentVar, hs]
  dsimp only
  rw [(expandParts_of_not_contains rfl h).2, ← (splitOn_eq_cons hs).1, String.ofList_toList]

theorem stringContainsEnvironmentVar_eq_true (hchars : Separates chars) {s : List Char} :
    stringContainsEnvironmentVar chars s = true ↔
      StartsWithWord chars s ∨ HasReference chars s := by
  obtain ⟨first, rest, hs⟩ := List.exists_cons_of_ne_nil (List.splitOn_ne_nil '$' s)
  rw [stringContainsEnvironmentVar_of_splitOn hs, Bool.or_eq_true, ← startsWithWord_iff hs,
    ← hasReference_iff hchars hs]

/-- The detection tells whether a variable is substituted exactly for the strings that
do not start with a word before a dollar sign, or have a reference as well. -/
theorem stringContainsEnvironmentVar_iff (hchars : Separates chars) (s : String) :
    ((stringContainsEnvironmentVar chars s.toList = true ↔
          ∀ env, substitutedNames chars env s ≠ []) ∧
        (stringContainsEnvironmentVar chars s.toList = false →
          ∀ env, expandStringWithEnvironmentVar chars s env = s)) ↔
      (StartsWithWord chars s.toList → HasReference chars s.toList) := by
  have hsubstituted : (∀ env, substitutedNames chars env s ≠ []) ↔ HasReference chars s.toList :=
    ⟨fun h => (substitutedNames_ne_nil_iff [] hchars s).mp (h []),
      fun h env => (substitutedNames_ne_nil_iff env hchars s).mpr h⟩
  rw [hsubstituted, stringContainsEnvironmentVar_eq_true hchars]
  constructor
  · rintro ⟨hiff, -⟩ hstarts
    exact hiff.mp (.inl hstarts)
  · intro h
    refine ⟨⟨fun hcontains => hcontains.elim h id, .inr⟩, fun hfalse env => ?_⟩
    refine expandString_eq_self env hchars fun hreference => ?_
    rw [(stringContainsEnvironmentVar_eq_true hchars).mpr (.inr hreference)] at hfalse
    cases hfalse

/-- A reference after a word is detected and substituted. -/
theorem stringContainsEnvironmentVar_embedded :
    (stringContainsEnvironmentVar .ascii "foo:$BAR".toList = true ↔
        ∀ env, substitutedNames .ascii env "foo:$BAR" ≠ []) ∧
      (stringContainsEnvironmentVar .ascii "foo:$BAR".toList = false →
        ∀ env, expandStringWithEnvironmentVar .ascii "foo:$BAR" env = "foo:$BAR") :=
  (stringContainsEnvironmentVar_iff separates_ascii "foo:$BAR").mpr fun _ =>
    ⟨"foo:".toList, "BAR".toList, by decide, by decide, by decide⟩

/-- A word before a dollar sign is detected, though nothing is substituted. -/
theorem stringContainsEnvironmentVar_word :
    stringContainsEnvironmentVar .ascii "Myp@$.word".toList = true ∧
      substitutedNames .ascii [] "Myp@$.word" = [] ∧
      expandStringWithEnvironmentVar .ascii "Myp@$.word" [] = "Myp@$.word" := by
  decide

end Strings

end EnvHelp

end Bartender
