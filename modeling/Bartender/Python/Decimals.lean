import Bartender.Python.Conversions
import Mathlib.Data.List.DropRight

/-!
# The decimal string of an integer

`int` reads the integer back from it, and `float` the double nearest to it. A
sign and digits are all there is in such a string, so nothing of the numerals'
grammar but the sign comes into play.
-/

namespace Bartender

open Binary64 (Double)

theorem isDigit_iff {c : Char} : c.isDigit = true ↔ 48 ≤ c.toNat ∧ c.toNat ≤ 57 := by
  simp only [Char.isDigit, Bool.and_eq_true, decide_eq_true_eq, ge_iff_le, UInt32.le_iff_toNat_le]
  exact Iff.rfl

structure IsDigits (digits : List Char) : Prop where
  isDigit : ∀ c ∈ digits, c.isDigit = true
  ne_nil : digits ≠ []

namespace IsDigits

variable {digits : List Char}

theorem range (h : IsDigits digits) {c : Char} (hc : c ∈ digits) : 48 ≤ c.toNat ∧ c.toNat ≤ 57 :=
  isDigit_iff.mp (h.isDigit c hc)

theorem ne_of_mem (h : IsDigits digits) {c other : Char} (hc : c ∈ digits)
    (hother : other.isDigit = false) : c ≠ other := by
  rintro rfl
  rw [h.isDigit c hc] at hother
  cases hother

theorem isAsciiSpace_eq_false (h : IsDigits digits) {c : Char} (hc : c ∈ digits) :
    isAsciiSpace c = false := by
  have hrange := h.range hc
  have hspace : c ≠ ' ' := h.ne_of_mem hc (by decide)
  simp only [isAsciiSpace, Bool.or_eq_false_iff, beq_eq_false_iff_ne, Bool.and_eq_false_iff,
    decide_eq_false_iff_not]
  exact ⟨hspace, .inr (by omega)⟩

end IsDigits

def signed (negative : Bool) (digits : List Char) : List Char :=
  if negative then '-' :: digits else digits

section Reading

variable {negative : Bool} {digits : List Char}

theorem readSign_signed (h : IsDigits digits) :
    readSign (signed negative digits) = (negative, digits) := by
  cases negative with
  | true => rfl
  | false =>
    obtain ⟨c, rest, rfl⟩ := List.exists_cons_of_ne_nil h.ne_nil
    have hminus : c ≠ '-' := h.ne_of_mem List.mem_cons_self (by decide)
    have hplus : c ≠ '+' := h.ne_of_mem List.mem_cons_self (by decide)
    unfold signed readSign
    split
    · simp_all
    · simp_all
    · rfl

theorem numeral_signed (h : IsDigits digits) {s : String} (hs : s.toList = signed negative digits) :
    numeral s = signed negative digits := by
  have hascii : ∀ c ∈ signed negative digits, c.toNat < 128 := by
    intro c hc
    have hdigit : c ∈ digits → c.toNat < 128 := by
      intro hc
      have := h.range hc
      omega
    cases negative with
    | true =>
      rcases List.mem_cons.mp hc with rfl | hc
      · decide
      · exact hdigit hc
    | false => exact hdigit hc
  unfold numeral
  rw [hs, if_pos]
  simpa using hascii

theorem not_isAsciiSpace_of_mem_signed (h : IsDigits digits) {c : Char}
    (hc : c ∈ signed negative digits) : isAsciiSpace c = false := by
  cases negative with
  | true =>
    rcases List.mem_cons.mp hc with rfl | hc
    · decide
    · exact h.isAsciiSpace_eq_false hc
  | false => exact h.isAsciiSpace_eq_false hc

theorem dropWhile_signed (h : IsDigits digits) :
    (signed negative digits).dropWhile isAsciiSpace = signed negative digits := by
  rw [List.dropWhile_eq_self_iff]
  intro hlen hspace
  rw [not_isAsciiSpace_of_mem_signed h (List.getElem_mem hlen)] at hspace
  cases hspace

theorem rdropWhile_signed (h : IsDigits digits) :
    (signed negative digits).rdropWhile isAsciiSpace = signed negative digits := by
  rw [List.rdropWhile_eq_self_iff]
  intro hne hspace
  rw [not_isAsciiSpace_of_mem_signed h (List.getLast_mem hne)] at hspace
  cases hspace

theorem isGroupedDigits_of_isDigits (h : IsDigits digits) : isGroupedDigits digits = true := by
  obtain ⟨hdigits, hne⟩ := h
  fun_induction isGroupedDigits digits with
  | case1 => exact absurd rfl hne
  | case2 c => exact hdigits c List.mem_cons_self
  | case3 c rest ih =>
    have := hdigits '_' (List.mem_cons_of_mem _ List.mem_cons_self)
    cases this
  | case4 c rest hrest _ ih =>
    rw [hdigits c List.mem_cons_self, Bool.true_and]
    refine ih (fun d hd => hdigits d (List.mem_cons_of_mem _ hd)) ?_
    rintro rfl
    exact hrest rfl

theorem parseInt_signed (h : IsDigits digits) {s : String}
    (hs : s.toList = signed negative digits) :
    parseInt s = some (if negative then -(digitsValue digits : ℤ) else digitsValue digits) := by
  have hall : ∀ c ∈ digits, (c.isDigit || c == '_') = true := by
    intro c hc
    rw [h.isDigit c hc, Bool.true_or]
  have htake : (digits.takeWhile fun c => c.isDigit || c == '_') = digits :=
    List.takeWhile_eq_self_iff.mpr hall
  have hdrop : (digits.dropWhile fun c => c.isDigit || c == '_') = [] :=
    List.dropWhile_eq_nil_iff.mpr hall
  have hfilter : digits.filter Char.isDigit = digits := List.filter_eq_self.mpr h.isDigit
  unfold parseInt
  rw [numeral_signed h hs, dropWhile_signed h, readSign_signed h]
  simp only [htake, hdrop, hfilter, isGroupedDigits_of_isDigits h, List.all_nil, Bool.and_self,
    if_true]

theorem dropUnderscores_eq_self {previous : Char} {chars : List Char} (hprevious : previous ≠ '_')
    (hchars : '_' ∉ chars) : dropUnderscores previous chars = some chars := by
  induction chars generalizing previous with
  | nil => simp [dropUnderscores, hprevious]
  | cons c chars ih =>
    have hc : c ≠ '_' := fun he => hchars (he ▸ List.mem_cons_self)
    have hrest : '_' ∉ chars := fun hmem => hchars (List.mem_cons_of_mem _ hmem)
    simp [dropUnderscores, hprevious, hc, ih hc hrest]

theorem toLower_of_isDigit {c : Char} (hc : c.isDigit = true) : c.toLower = c := by
  have hrange := isDigit_iff.mp hc
  unfold Char.toLower
  rw [dif_neg]
  rintro ⟨hupper, -⟩
  have : 65 ≤ c.toNat := UInt32.le_iff_toNat_le.mp hupper
  omega

theorem readDecimal_of_isDigits (h : IsDigits digits) :
    readDecimal negative digits =
      some (Binary64.ofRatio negative (digitsValue digits * Binary64.one) 1) := by
  have htake : digits.takeWhile Char.isDigit = digits := List.takeWhile_eq_self_iff.mpr h.isDigit
  have hdrop : digits.dropWhile Char.isDigit = [] := List.dropWhile_eq_nil_iff.mpr h.isDigit
  have hne : digits.isEmpty = false := by simpa using h.ne_nil
  unfold readDecimal
  simp [htake, hdrop, hne, readExponent, decimalToDouble]

theorem parseFloat_signed (h : IsDigits digits) {s : String}
    (hs : s.toList = signed negative digits) :
    parseFloat s = some (Binary64.ofRatio negative (digitsValue digits * Binary64.one) 1) := by
  have hunderscore : '_' ∉ signed negative digits := by
    intro hmem
    have hdigits : '_' ∉ digits := fun hc => h.ne_of_mem hc (by decide) rfl
    cases negative with
    | true => exact hdigits ((List.mem_cons.mp hmem).resolve_left (by decide))
    | false => exact hdigits hmem
  have hlower : digits.map Char.toLower = digits := by
    refine (List.map_congr_left fun c hc => ?_).trans (List.map_id digits)
    exact toLower_of_isDigit (h.isDigit c hc)
  have hname : ∀ name : List Char, name.any Char.isDigit = false → (digits == name) = false := by
    intro name hletters
    rw [beq_eq_false_iff_ne]
    rintro rfl
    obtain ⟨c, hc⟩ := List.exists_mem_of_ne_nil _ h.ne_nil
    exact List.any_eq_false.mp hletters c hc (h.isDigit c hc)
  unfold parseFloat
  simp only [numeral_signed h hs, dropWhile_signed h, rdropWhile_signed h,
    dropUnderscores_eq_self (by decide : ' ' ≠ '_') hunderscore, Option.bind_some,
    readSign_signed h, hlower, hname "inf".toList rfl, hname "infinity".toList rfl,
    hname "nan".toList rfl, Bool.or_self, Bool.false_eq_true, if_false, readDecimal_of_isDigits h]

end Reading

theorem isDigits_toDigits (m : ℕ) : IsDigits (Nat.toDigits 10 m) where
  isDigit _ hc := Nat.isDigit_of_mem_toDigits (by decide) (by decide) hc
  ne_nil := Nat.toDigits_ne_nil

theorem digitsValue_toDigits (m : ℕ) : digitsValue (Nat.toDigits 10 m) = m :=
  Nat.ofDigitChars_ten_toDigits

theorem toList_toString (n : ℤ) :
    (toString n).toList = signed (decide (n < 0)) (Nat.toDigits 10 n.natAbs) := by
  rw [Int.toString_eq_repr, Int.repr_eq_if]
  by_cases hn : n < 0
  · have habs : (-n).toNat = n.natAbs := by omega
    rw [if_neg (not_le.mpr hn), habs]
    simp [hn, signed]
  · have habs : n.toNat = n.natAbs := by omega
    rw [if_pos (not_lt.mp hn), habs]
    simp [hn, signed]

theorem parseInt_toString (n : ℤ) : parseInt (toString n) = some n := by
  rw [parseInt_signed (isDigits_toDigits n.natAbs) (toList_toString n), digitsValue_toDigits]
  by_cases hn : n < 0
  · simp [hn, abs_of_neg hn]
  · simp [hn, abs_of_nonneg (not_lt.mp hn)]

theorem parseFloat_toString (n : ℤ) :
    parseFloat (toString n) =
      some (Binary64.ofRatio (decide (n < 0)) (n.natAbs * Binary64.one) 1) := by
  rw [parseFloat_signed (isDigits_toDigits n.natAbs) (toList_toString n), digitsValue_toDigits]

end Bartender
