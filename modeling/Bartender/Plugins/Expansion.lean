import Mathlib.Data.List.Infix
import Mathlib.Data.List.TakeWhile
import Bartender.Plugins.EnvHelp

/-!
# Expansion of variables, read from left to right

What a string with variables stands for, character by character, against
`expand_string_with_environment_var`. That function tells an escaped dollar sign
by the text expanded so far, and puts a value in the place of every occurrence
of the name in the text up to the next dollar sign. The two readings agree on a
string and on its beginnings exactly when no reference falls under either.
-/

namespace Bartender

namespace EnvHelp

variable (chars : CharClass) (env : List (String × String))

/-- The signs that the functions look for are neither letters nor digits. -/
structure Separates (chars : CharClass) : Prop where
  dollar : (chars.isAlpha '$' || chars.isDigit '$') = false
  backslash : (chars.isAlpha backslash || chars.isDigit backslash) = false

def valueOf (name : List Char) : List Char :=
  ((InsertionDict.get? env (String.ofList name)).getD "").toList

/-- The expansion of what follows a character. A reference is replaced by its
value, its name is skipped, and every other character is copied. -/
def readFrom : Option Char → ℕ → List Char → List Char
  | _, _, [] => []
  | _, skip + 1, c :: rest => readFrom (some c) skip rest
  | previous, 0, c :: rest =>
    if c = '$' ∧ isStringEnvironmentVariable chars rest = true ∧ previous ≠ some backslash then
      let name := getEnvironmentVarNameFromString chars rest
      valueOf env name ++ readFrom (some c) name.length rest
    else c :: readFrom (some c) 0 rest

def readString (s : String) : String := String.ofList (readFrom chars env none 0 s.toList)

def afterName (part : List Char) : List Char :=
  part.drop (getEnvironmentVarNameFromString chars part).length

/-- A part after a dollar sign is expanded as it reads. Nothing can go wrong where
there is no reference. `escaped` tells whether a backslash stands before the
dollar sign and `trailing` whether a value does that ends in one. -/
def PartAsRead (escaped trailing : Bool) (part : List Char) : Prop :=
  let name := getEnvironmentVarNameFromString chars part
  (isStringEnvironmentVariable chars part = true ∧ escaped = false) →
    if trailing then valueOf env name = '$' :: name
    else valueOf env name = name ∨ ¬ name <:+: afterName chars part

/-- A value that ends in a backslash, with nothing before the next dollar sign. -/
def trailsBackslash (escaped : Bool) (part : List Char) : Bool :=
  isStringEnvironmentVariable chars part && !escaped && (afterName chars part).isEmpty &&
    endsWithBackslash (valueOf env (getEnvironmentVarNameFromString chars part))

def PartsAsRead : Bool → Bool → List (List Char) → Prop
  | _, _, [] => True
  | escaped, trailing, part :: rest =>
    PartAsRead chars env escaped trailing part ∧
      PartsAsRead (endsWithBackslash part) (trailsBackslash chars env escaped part) rest

def AsRead (s : String) : Prop :=
  match s.toList.splitOn '$' with
  | [] => True
  | first :: rest => PartsAsRead chars env (endsWithBackslash first) false rest

section Decidable

instance (escaped trailing : Bool) (part : List Char) :
    Decidable (PartAsRead chars env escaped trailing part) := by
  unfold PartAsRead
  infer_instance

instance decidablePartsAsRead : (escaped trailing : Bool) → (parts : List (List Char)) →
    Decidable (PartsAsRead chars env escaped trailing parts)
  | _, _, [] => .isTrue trivial
  | escaped, trailing, part :: rest =>
    have := decidablePartsAsRead (endsWithBackslash part) (trailsBackslash chars env escaped part)
      rest
    inferInstanceAs (Decidable (PartAsRead chars env escaped trailing part ∧
      PartsAsRead chars env (endsWithBackslash part) (trailsBackslash chars env escaped part) rest))

instance (s : String) : Decidable (AsRead chars env s) := by
  unfold AsRead
  split <;> infer_instance

end Decidable

section Replace

variable {old new : List Char}

theorem replaceFrom_skip (n : ℕ) (s : List Char) :
    replaceFrom old new n s = replaceFrom old new 0 (s.drop n) := by
  induction n generalizing s with
  | zero => rfl
  | succ n ih =>
    cases s with
    | nil => rfl
    | cons c s => exact ih s

theorem replaceFrom_append (hold : old ≠ []) (s : List Char) :
    replaceFrom old new 0 (old ++ s) = new ++ replaceFrom old new 0 s := by
  obtain ⟨c, old, rfl⟩ := List.exists_cons_of_ne_nil hold
  rw [List.cons_append, replaceFrom, if_pos (by simp), replaceFrom_skip]
  simp

theorem length_replaceFrom (hold : old ≠ []) (s : List Char) :
    ∃ k, (replaceFrom old new 0 s).length + k * old.length = s.length + k * new.length := by
  induction hn : s.length using Nat.strong_induction_on generalizing s with
  | _ n ih =>
    cases s with
    | nil => exact ⟨0, by simp [replaceFrom, ← hn]⟩
    | cons c rest =>
      by_cases hmatch : old <+: c :: rest
      · obtain ⟨tail, htail⟩ := hmatch
        have hlen : old.length + tail.length = n := by rw [← hn, ← htail, List.length_append]
        have hpos := List.length_pos_of_ne_nil hold
        obtain ⟨k, hk⟩ := ih tail.length (by omega) tail rfl
        refine ⟨k + 1, ?_⟩
        rw [← htail, replaceFrom_append hold, List.length_append, Nat.succ_mul, Nat.succ_mul]
        omega
      · have hlen : rest.length + 1 = n := hn
        obtain ⟨k, hk⟩ := ih rest.length (by omega) rest rfl
        refine ⟨k, ?_⟩
        rw [replaceFrom, if_neg (by simpa using hmatch), List.length_cons]
        omega

/-- Nothing changes exactly when a name is replaced by itself or does not occur. -/
theorem replaceFrom_eq_self_iff (hold : old ≠ []) (s : List Char) :
    replaceFrom old new 0 s = s ↔ new = old ∨ ¬ old <:+: s := by
  induction hn : s.length using Nat.strong_induction_on generalizing s with
  | _ n ih =>
    cases s with
    | nil => simp [replaceFrom, List.infix_nil, hold]
    | cons c rest =>
      by_cases hmatch : old <+: c :: rest
      · obtain ⟨tail, htail⟩ := hmatch
        have hlen : old.length + tail.length = n := by rw [← hn, ← htail, List.length_append]
        have hpos := List.length_pos_of_ne_nil hold
        rw [← htail, replaceFrom_append hold]
        constructor
        · intro heq
          obtain ⟨k, hk⟩ := @length_replaceFrom old new hold tail
          have hlength := congrArg List.length heq
          rw [List.length_append, List.length_append] at hlength
          have hsame : new.length = old.length := by
            have : (k + 1) * new.length = (k + 1) * old.length := by
              rw [Nat.succ_mul, Nat.succ_mul]
              omega
            exact Nat.eq_of_mul_eq_mul_left k.succ_pos this
          exact .inl (List.append_inj heq hsame).1
        · rintro (rfl | hnot)
          · rw [(ih tail.length (by omega) tail rfl).mpr (.inl rfl)]
          · exact absurd (List.prefix_append old tail).isInfix hnot
      · rw [replaceFrom, if_neg (by simpa using hmatch), List.cons_inj_right,
          ih rest.length (by rw [← hn]; exact Nat.lt_succ_self _) rest rfl, List.infix_cons_iff]
        simp [hmatch]

end Replace

def readPart (escaped : Bool) (part : List Char) : List Char :=
  if isStringEnvironmentVariable chars part && !escaped then
    valueOf env (getEnvironmentVarNameFromString chars part) ++ afterName chars part
  else '$' :: part

def readParts : Bool → List (List Char) → List Char
  | _, [] => []
  | escaped, part :: rest => readPart chars env escaped part ++
      readParts (endsWithBackslash part) rest

/-- What `expand_string_with_environment_var` appends for a part. -/
def expandPart (expandedValue part : List Char) : List Char :=
  if endsWithBackslash expandedValue then '$' :: part
  else if isStringEnvironmentVariable chars part then
    let name := getEnvironmentVarNameFromString chars part
    replaceFrom name (valueOf env name) 0 part
  else '$' :: part

def withDollars (parts : List (List Char)) : List Char := parts.flatMap ('$' :: ·)

section Parts

variable {chars env}

theorem expandParts_cons (expandedValue part : List Char) (rest : List (List Char)) :
    expandParts chars env expandedValue (part :: rest) =
      expandParts chars env (expandedValue ++ expandPart chars env expandedValue part) rest := by
  rw [expandParts, expandPart]
  split_ifs <;> rfl

theorem splitOn_eq_cons {s first : List Char} {rest : List (List Char)}
    (h : s.splitOn '$' = first :: rest) :
    s = first ++ withDollars rest ∧ ∀ part ∈ first :: rest, '$' ∉ part := by
  induction s generalizing first rest with
  | nil =>
    rw [List.splitOn_nil] at h
    cases h
    simp [withDollars]
  | cons c s ih =>
    obtain ⟨first', rest', hsplit⟩ := List.exists_cons_of_ne_nil (List.splitOn_ne_nil '$' s)
    obtain ⟨hs, hparts⟩ := ih hsplit
    rw [List.splitOn_cons_eq_if_modifyHead, hsplit] at h
    split_ifs at h with hc
    · cases h
      obtain rfl := beq_iff_eq.mp hc
      exact ⟨by simp [withDollars, hs], List.forall_mem_cons.mpr ⟨List.not_mem_nil, hparts⟩⟩
    · cases h
      obtain ⟨hfirst, hrest⟩ := List.forall_mem_cons.mp hparts
      refine ⟨by rw [hs, List.cons_append], List.forall_mem_cons.mpr ⟨?_, hrest⟩⟩
      rw [List.mem_cons, not_or]
      exact ⟨fun hdollar => hc (by simp [← hdollar]), hfirst⟩

theorem name_append_afterName (part : List Char) :
    getEnvironmentVarNameFromString chars part ++ afterName chars part = part := by
  exact List.prefix_iff_eq_append.mp (List.takeWhile_prefix _)

theorem name_ne_nil {part : List Char} (h : isStringEnvironmentVariable chars part = true) :
    getEnvironmentVarNameFromString chars part ≠ [] := by
  cases part with
  | nil => cases h
  | cons c part =>
    have hc : chars.isAlpha c = true := h
    simp [getEnvironmentVarNameFromString, hc]

theorem mem_name {part : List Char} {c : Char}
    (h : c ∈ getEnvironmentVarNameFromString chars part) :
    (chars.isAlpha c || chars.isDigit c || c == '_') = true :=
  List.mem_takeWhile_imp (p := fun c => chars.isAlpha c || chars.isDigit c || c == '_') h

theorem readFrom_append {text : List Char} (htext : '$' ∉ text) (previous : Option Char)
    (rest : List Char) : readFrom chars env previous 0 (text ++ rest) =
      text ++ readFrom chars env (text.getLast?.or previous) 0 rest := by
  induction text generalizing previous with
  | nil => rfl
  | cons c text ih =>
    obtain ⟨hc, htext⟩ := not_or.mp (mt List.mem_cons.mpr htext)
    rw [List.cons_append, readFrom, if_neg fun h => hc h.1.symm, ih htext, List.getLast?_cons,
      List.cons_append]
    cases text.getLast? <;> rfl

theorem readFrom_skip (text : List Char) (previous : Option Char) (rest : List Char) :
    readFrom chars env previous text.length (text ++ rest) =
      readFrom chars env (text.getLast?.or previous) 0 rest := by
  induction text generalizing previous with
  | nil => rfl
  | cons c text ih =>
    rw [List.length_cons, List.cons_append, readFrom, ih, List.getLast?_cons]
    cases text.getLast? <;> rfl

theorem getLast?_or_dollar (part : List Char) :
    (part.getLast?.or (some '$') == some backslash) = endsWithBackslash part := by
  unfold endsWithBackslash
  cases part.getLast? with
  | none => decide
  | some c => rfl

variable (hchars : Separates chars)
include hchars

theorem isStringEnvironmentVariable_append (part : List Char) (rest : List (List Char)) :
    isStringEnvironmentVariable chars (part ++ withDollars rest) =
      isStringEnvironmentVariable chars part := by
  cases part with
  | cons c part => rfl
  | nil =>
    cases rest with
    | nil => rfl
    | cons next rest => exact (Bool.or_eq_false_iff.mp hchars.dollar).1

theorem name_append (part : List Char) (rest : List (List Char)) :
    getEnvironmentVarNameFromString chars (part ++ withDollars rest) =
      getEnvironmentVarNameFromString chars part := by
  induction part with
  | cons c part ih =>
    unfold getEnvironmentVarNameFromString at ih ⊢
    rw [List.cons_append, List.takeWhile_cons, List.takeWhile_cons, ih]
  | nil =>
    cases rest with
    | nil => rfl
    | cons next rest =>
      exact List.takeWhile_cons_of_neg (by simpa [withDollars] using hchars.dollar)

theorem backslash_not_mem_name (part : List Char) :
    backslash ∉ getEnvironmentVarNameFromString chars part := by
  intro h
  have hname := mem_name h
  rw [hchars.backslash] at hname
  exact absurd hname (by decide)

theorem readFrom_withDollars {parts : List (List Char)} (hparts : ∀ part ∈ parts, '$' ∉ part)
    (previous : Option Char) : readFrom chars env previous 0 (withDollars parts) =
      readParts chars env (previous == some backslash) parts := by
  induction parts generalizing previous with
  | nil => rfl
  | cons part rest ih =>
    obtain ⟨hpart, hrest⟩ := List.forall_mem_cons.mp hparts
    have hcons : withDollars (part :: rest) = '$' :: (part ++ withDollars rest) := rfl
    rw [hcons, readFrom, isStringEnvironmentVariable_append hchars, name_append hchars,
      readParts, readPart]
    by_cases href : isStringEnvironmentVariable chars part = true ∧ previous ≠ some backslash
    · have hafter : '$' ∉ afterName chars part := fun h => hpart (List.mem_of_mem_drop h)
      have hskip : readFrom chars env (some '$')
          (getEnvironmentVarNameFromString chars part).length (part ++ withDollars rest) =
            afterName chars part ++ readParts chars env (endsWithBackslash part) rest := by
        nth_rewrite 2 [← @name_append_afterName chars part]
        rw [List.append_assoc, readFrom_skip, readFrom_append hafter, ih hrest, ← Option.or_assoc,
          ← List.getLast?_append, name_append_afterName, getLast?_or_dollar]
      rw [if_pos ⟨rfl, href⟩, if_pos (by simp [href]), List.append_assoc, ← hskip]
    · rw [if_neg fun h => href h.2, if_neg (by simpa using href), readFrom_append hpart, ih hrest,
        getLast?_or_dollar, List.cons_append]

theorem readFrom_of_splitOn {s first : List Char} {rest : List (List Char)}
    (h : s.splitOn '$' = first :: rest) :
    readFrom chars env none 0 s =
      first ++ readParts chars env (endsWithBackslash first) rest := by
  obtain ⟨rfl, hparts⟩ := splitOn_eq_cons h
  obtain ⟨hfirst, hrest⟩ := List.forall_mem_cons.mp hparts
  rw [readFrom_append hfirst, readFrom_withDollars hchars hrest, Option.or_none]
  rfl

end Parts

section Agreement

variable {chars env}

theorem replaceFrom_name {part : List Char} (h : isStringEnvironmentVariable chars part = true)
    (new : List Char) :
    replaceFrom (getEnvironmentVarNameFromString chars part) new 0 part =
      new ++ replaceFrom (getEnvironmentVarNameFromString chars part) new 0
        (afterName chars part) := by
  nth_rewrite 2 [← @name_append_afterName chars part]
  exact replaceFrom_append (name_ne_nil h) _

/-- One part is expanded as it reads exactly when nothing goes wrong in it. -/
theorem expandPart_eq_readPart_iff {escaped trailing : Bool} {expandedValue part : List Char}
    (hends : endsWithBackslash expandedValue = (escaped || trailing)) :
    expandPart chars env expandedValue part = readPart chars env escaped part ↔
      PartAsRead chars env escaped trailing part := by
  unfold expandPart readPart PartAsRead
  rw [hends]
  by_cases href : isStringEnvironmentVariable chars part = true ∧ escaped = false
  · obtain ⟨hstring, rfl⟩ := href
    cases trailing with
    | false =>
      simp only [hstring, Bool.or_self, Bool.false_eq_true, if_false, if_true, Bool.not_false,
        Bool.and_self, and_self, forall_const, replaceFrom_name hstring, List.append_cancel_left_eq]
      exact replaceFrom_eq_self_iff (name_ne_nil hstring) _
    | true =>
      simp only [hstring, Bool.or_true, if_true, Bool.not_false, Bool.and_self, and_self,
        forall_const]
      nth_rewrite 1 [← @name_append_afterName chars part]
      rw [← List.cons_append, List.append_cancel_right_eq, eq_comm]
  · refine ⟨fun _ h => absurd h href, fun _ => ?_⟩
    cases hstring : isStringEnvironmentVariable chars part with
    | false => simp
    | true =>
      obtain rfl : escaped = true := by simpa [hstring] using href
      simp

theorem endsWithBackslash_append {s t : List Char} (ht : t ≠ []) :
    endsWithBackslash (s ++ t) = endsWithBackslash t := by
  unfold endsWithBackslash
  rw [List.getLast?_append_of_ne_nil s ht]

theorem endsWithBackslash_dollar (part : List Char) :
    endsWithBackslash ('$' :: part) = endsWithBackslash part := by
  rw [← getLast?_or_dollar part, endsWithBackslash, List.getLast?_cons]
  cases part.getLast? <;> rfl

/-- What the expansion ends in afterwards. -/
theorem endsWithBackslash_readPart (hchars : Separates chars) {escaped trailing : Bool}
    {expandedValue part : List Char}
    (hends : endsWithBackslash expandedValue = (escaped || trailing))
    (hread : PartAsRead chars env escaped trailing part) :
    endsWithBackslash (expandedValue ++ readPart chars env escaped part) =
      (endsWithBackslash part || trailsBackslash chars env escaped part) := by
  unfold readPart trailsBackslash
  by_cases href : (isStringEnvironmentVariable chars part && !escaped) = true
  · rw [if_pos href, href, Bool.true_and]
    by_cases hafter : afterName chars part = []
    · have hname : getEnvironmentVarNameFromString chars part = part := by
        simpa [hafter] using @name_append_afterName chars part
      have hpart : endsWithBackslash part = false := by
        refine Bool.eq_false_of_not_eq_true fun h => backslash_not_mem_name hchars part ?_
        rw [hname]
        exact List.mem_of_getLast? (beq_iff_eq.mp h)
      rw [hafter, hpart, List.append_nil, List.isEmpty_nil, Bool.false_or, Bool.true_and]
      by_cases hvalue : valueOf env (getEnvironmentVarNameFromString chars part) = []
      · have htrailing : trailing = false := by
          refine Bool.eq_false_of_not_eq_true fun h => ?_
          have hdollar := hread (by simpa using href)
          rw [if_pos h, hvalue] at hdollar
          cases hdollar
        have hescaped : escaped = false := by simpa using (Bool.and_eq_true_iff.mp href).2
        rw [hvalue, List.append_nil, hends, htrailing, hescaped]
        rfl
      · exact endsWithBackslash_append hvalue
    · rw [← List.append_assoc, endsWithBackslash_append hafter,
        List.isEmpty_eq_false_iff.mpr hafter, Bool.false_and, Bool.or_false]
      nth_rewrite 2 [← @name_append_afterName chars part]
      exact (endsWithBackslash_append hafter).symm
  · rw [if_neg href, Bool.eq_false_of_not_eq_true href,
      endsWithBackslash_append (List.cons_ne_nil _ _), endsWithBackslash_dollar]
    simp

/-- The expansion of all beginnings, part by part. -/
theorem expandParts_eq_iff (hchars : Separates chars) (parts : List (List Char))
    {escaped trailing : Bool} {expandedValue : List Char}
    (hends : endsWithBackslash expandedValue = (escaped || trailing)) :
    (∀ beginning, beginning <+: parts → expandParts chars env expandedValue beginning =
        expandedValue ++ readParts chars env escaped beginning) ↔
      PartsAsRead chars env escaped trailing parts := by
  induction parts generalizing escaped trailing expandedValue with
  | nil =>
    refine ⟨fun _ => trivial, fun _ beginning h => ?_⟩
    rw [List.prefix_nil.mp h]
    exact (List.append_nil _).symm
  | cons part rest ih =>
    have hone := @expandPart_eq_readPart_iff chars env escaped trailing expandedValue part hends
    rw [PartsAsRead]
    by_cases hread : PartAsRead chars env escaped trailing part
    · have hnext := endsWithBackslash_readPart hchars hends hread
      rw [← ih hnext, and_iff_right hread]
      have hstep : ∀ beginning, expandParts chars env expandedValue (part :: beginning) =
          expandedValue ++ readParts chars env escaped (part :: beginning) ↔
            expandParts chars env (expandedValue ++ readPart chars env escaped part) beginning =
              (expandedValue ++ readPart chars env escaped part) ++
                readParts chars env (endsWithBackslash part) beginning := by
        intro beginning
        rw [expandParts_cons, hone.mpr hread, readParts, List.append_assoc]
      constructor
      · intro h beginning hbeginning
        exact (hstep beginning).mp (h _ (List.cons_prefix_cons.mpr ⟨rfl, hbeginning⟩))
      · intro h beginning hbeginning
        cases beginning with
        | nil => exact (List.append_nil _).symm
        | cons first beginning =>
          obtain ⟨rfl, htail⟩ := List.cons_prefix_cons.mp hbeginning
          exact (hstep beginning).mpr (h beginning htail)
    · refine ⟨fun h => absurd (hone.mp ?_) hread, fun h => absurd h.1 hread⟩
      have hfirst := h [part] (List.cons_prefix_cons.mpr ⟨rfl, List.nil_prefix⟩)
      rw [expandParts_cons, readParts] at hfirst
      simpa [expandParts, readParts] using hfirst

end Agreement

section Strings

theorem splitOn_append_dollar (t u : List Char) :
    (t ++ '$' :: u).splitOn '$' = t.splitOn '$' ++ u.splitOn '$' :=
  List.splitOnP_append_cons t u (by decide)

theorem splitOn_withDollars {first : List Char} {rest : List (List Char)}
    (hparts : ∀ part ∈ first :: rest, '$' ∉ part) :
    (first ++ withDollars rest).splitOn '$' = first :: rest := by
  obtain ⟨hfirst, hrest⟩ := List.forall_mem_cons.mp hparts
  have hno : ∀ c ∈ first, (c == '$') = false := by
    intro c hc
    exact beq_eq_false_iff_ne.mpr fun h => hfirst (h ▸ hc)
  induction rest generalizing first with
  | nil => rw [withDollars, List.flatMap_nil, List.append_nil, List.splitOn_eq_splitOnP,
      List.splitOnP_eq_singleton hno]
  | cons part rest ih =>
    obtain ⟨hpart, htail⟩ := List.forall_mem_cons.mp hrest
    have hcons : withDollars (part :: rest) = '$' :: (part ++ withDollars rest) := rfl
    rw [hcons, List.splitOn_eq_splitOnP,
      List.splitOnP_append_cons_of_forall_mem hno _ (by decide), ← List.splitOn_eq_splitOnP,
      ih hrest hpart htail fun c hc => beq_eq_false_iff_ne.mpr fun h => hpart (h ▸ hc)]

theorem splitOn_of_prefix {s t first : List Char} {rest : List (List Char)}
    (hs : s.splitOn '$' = first :: rest) (h : t ++ ['$'] <+: s ++ ['$']) :
    ∃ beginning, beginning <+: rest ∧ t.splitOn '$' = first :: beginning := by
  obtain ⟨u, hu⟩ := h
  have hsplit : t.splitOn '$' ++ u.splitOn '$' = s.splitOn '$' ++ [[]] := by
    rw [← splitOn_append_dollar, List.append_cons, hu, splitOn_append_dollar, List.splitOn_nil]
  obtain ⟨more, last, hlast⟩ :=
    (List.eq_nil_or_concat' (u.splitOn '$')).resolve_left (List.splitOn_ne_nil '$' u)
  rw [hlast, ← List.append_assoc, hs] at hsplit
  obtain ⟨hsplit, -⟩ := List.append_inj' hsplit rfl
  obtain ⟨first', beginning, ht⟩ := List.exists_cons_of_ne_nil (List.splitOn_ne_nil '$' t)
  rw [ht, List.cons_append] at hsplit
  cases hsplit
  exact ⟨beginning, List.prefix_append _ _, ht⟩

theorem prefix_of_beginning {first : List Char} {rest beginning : List (List Char)}
    (h : beginning <+: rest) :
    (first ++ withDollars beginning) ++ ['$'] <+: (first ++ withDollars rest) ++ ['$'] := by
  obtain ⟨more, rfl⟩ := h
  have hmore : ['$'] <+: withDollars more ++ ['$'] := by
    cases more with
    | nil => exact List.prefix_refl _
    | cons part more => exact ⟨_, rfl⟩
  have happend : withDollars (beginning ++ more) = withDollars beginning ++ withDollars more :=
    List.flatMap_append
  rw [happend, ← List.append_assoc, List.append_assoc (first ++ _)]
  exact (List.prefix_append_right_inj _).mpr hmore

/-- A string and its beginnings up to a dollar sign are expanded as they read
exactly when every reference in it is. -/
theorem expandStringWithEnvironmentVar_eq_readString_iff {chars : CharClass}
    (hchars : Separates chars) (env : List (String × String)) (s : String) :
    (∀ t : String, t.toList ++ ['$'] <+: s.toList ++ ['$'] →
        expandStringWithEnvironmentVar chars t env = readString chars env t) ↔
      AsRead chars env s := by
  obtain ⟨first, rest, hs⟩ := List.exists_cons_of_ne_nil (List.splitOn_ne_nil '$' s.toList)
  have hexpand : ∀ (t : String) beginning, t.toList.splitOn '$' = first :: beginning →
      (expandStringWithEnvironmentVar chars t env = readString chars env t ↔
        expandParts chars env first beginning =
          first ++ readParts chars env (endsWithBackslash first) beginning) := by
    intro t beginning ht
    rw [expandStringWithEnvironmentVar, readString, ht, readFrom_of_splitOn hchars ht,
      String.ofList_inj]
  have hiff := @expandParts_eq_iff chars env hchars rest (endsWithBackslash first) false first
    (Bool.or_false _).symm
  rw [AsRead, hs]
  refine Iff.trans ?_ hiff
  constructor
  · intro h beginning hbeginning
    obtain ⟨hjoin, hparts⟩ := splitOn_eq_cons hs
    have hsplit : (first ++ withDollars beginning).splitOn '$' = first :: beginning := by
      apply splitOn_withDollars
      intro part hpart
      exact hparts part (List.cons_subset_cons _ hbeginning.subset hpart)
    refine (hexpand (String.ofList (first ++ withDollars beginning)) beginning ?_).mp (h _ ?_)
    · rw [String.toList_ofList, hsplit]
    · rw [String.toList_ofList, hjoin]
      exact prefix_of_beginning hbeginning
  · intro h t ht
    obtain ⟨beginning, hbeginning, hsplit⟩ := splitOn_of_prefix hs ht
    exact (hexpand t beginning hsplit).mpr (h beginning hbeginning)

theorem separates_ascii : Separates CharClass.ascii :=
  ⟨by decide, by decide⟩

/-- Two references with text between them, and an escaped dollar sign. -/
theorem expandStringWithEnvironmentVar_plain :
    expandStringWithEnvironmentVar .ascii "$HOME/bin:\\$x:$PATH"
        [("HOME", "/root"), ("PATH", "/")] =
      readString .ascii [("HOME", "/root"), ("PATH", "/")] "$HOME/bin:\\$x:$PATH" :=
  (expandStringWithEnvironmentVar_eq_readString_iff separates_ascii
    [("HOME", "/root"), ("PATH", "/")] "$HOME/bin:\\$x:$PATH").mpr (by decide) _
    (List.prefix_refl _)

/-- A name that occurs again is replaced again, and a value may escape a reference. -/
theorem expandStringWithEnvironmentVar_differs :
    expandStringWithEnvironmentVar .ascii "$A/A" [("A", "x")] = "x/x" ∧
      readString .ascii [("A", "x")] "$A/A" = "x/A" ∧
      expandStringWithEnvironmentVar .ascii "$A$B" [("A", "\\"), ("B", "y")] = "\\$B" ∧
      readString .ascii [("A", "\\"), ("B", "y")] "$A$B" = "\\y" := by
  decide

/-- Two differences may cancel each other. -/
example : expandStringWithEnvironmentVar .ascii "$A.A$B" [("A", "A\\"), ("B", "\\$B")] =
    readString .ascii [("A", "A\\"), ("B", "\\$B")] "$A.A$B" ∧
    ¬ AsRead .ascii [("A", "A\\"), ("B", "\\$B")] "$A.A$B" := by
  decide

end Strings

end EnvHelp

end Bartender
