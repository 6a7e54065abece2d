import Mathlib.Data.Nat.Log
import Mathlib.Tactic

/-!
# Double precision numbers on an integer grid

Every finite double is an integer multiple of `2^-1074`, so its magnitude is
stored as that natural number of units, with the proof that no more than 53
significant bits are used. Comparisons with integers are then exact integer
comparisons, and rounding a quotient to the nearest double, ties to even, is
integer division.
-/

namespace Binary64

/-- The magnitudes of the finite doubles, in units of `2^-1074`. -/
def OnGrid (u : ℕ) : Prop := u < 2 ^ 2098 ∧ 2 ^ (u.log2 - 52) ∣ u

instance : DecidablePred OnGrid := fun u =>
  inferInstanceAs (Decidable (u < 2 ^ 2098 ∧ 2 ^ (u.log2 - 52) ∣ u))

@[irreducible] def one : ℕ := 2 ^ 1074

theorem one_pos : 0 < one := by
  unfold one
  positivity

inductive Double
  | nan
  | infinity (negative : Bool)
  | finite (negative : Bool) (magnitude : {u : ℕ // OnGrid u})
  deriving DecidableEq

/-- `num / den` units rounded to 53 significant bits, ties to even, without
regard to the largest double. -/
def roundUnits (num den : ℕ) : ℕ :=
  let e := (num / den).log2 - 52
  let d := den * 2 ^ e
  let k := num / d
  let r := num % d
  (if d < 2 * r ∨ (d = 2 * r ∧ k % 2 = 1) then k + 1 else k) * 2 ^ e

theorem significand_lt (num den : ℕ) :
    num / (den * 2 ^ ((num / den).log2 - 52)) < 2 ^ 53 := by
  rw [← Nat.div_div_eq_div_mul]
  apply Nat.div_lt_of_lt_mul
  rw [← pow_add]
  exact Nat.lt_log2_self.trans_le (Nat.pow_le_pow_right (by omega) (by omega))

theorem log2_mul_pow_le {k e : ℕ} (hk : k < 2 ^ 53) : (k * 2 ^ e).log2 - 52 ≤ e := by
  by_cases h0 : k * 2 ^ e = 0
  · simp [h0]
  · have hlt : k * 2 ^ e < 2 ^ (53 + e) := by
      rw [pow_add]
      exact Nat.mul_lt_mul_of_pos_right hk (by positivity)
    have := (Nat.log2_lt h0).mpr hlt
    omega

theorem roundUnits_onGrid {num den : ℕ} (h : roundUnits num den < 2 ^ 2098) :
    OnGrid (roundUnits num den) := by
  refine ⟨h, ?_⟩
  have hk := significand_lt num den
  unfold roundUnits
  dsimp only
  generalize (num / den).log2 - 52 = e at hk ⊢
  split_ifs with hup
  · by_cases hcarry : num / (den * 2 ^ e) + 1 < 2 ^ 53
    · exact (pow_dvd_pow 2 (log2_mul_pow_le hcarry)).trans (dvd_mul_left _ _)
    · have hpow : num / (den * 2 ^ e) + 1 = 2 ^ 53 := by omega
      rw [hpow, ← pow_add, Nat.log2_two_pow]
      exact pow_dvd_pow 2 (by omega)
  · exact (pow_dvd_pow 2 (log2_mul_pow_le hk)).trans (dvd_mul_left _ _)

theorem OnGrid.roundUnits_eq {u : ℕ} (h : OnGrid u) : roundUnits u 1 = u := by
  have hdvd := h.2
  unfold roundUnits
  simp only [Nat.div_one, one_mul, Nat.mod_eq_zero_of_dvd hdvd, mul_zero, Nat.not_lt_zero,
    pow_eq_zero_iff', false_and, or_false, if_false, OfNat.ofNat_ne_zero]
  exact Nat.div_mul_cancel hdvd

/-- The double nearest to `± num / den` units; beyond the largest one, infinity. -/
def ofRatio (negative : Bool) (num den : ℕ) : Double :=
  if h : roundUnits num den < 2 ^ 2098 then .finite negative ⟨_, roundUnits_onGrid h⟩
  else .infinity negative

def ofInt? (n : ℤ) : Option Double :=
  if h : roundUnits (n.natAbs * one) 1 < 2 ^ 2098 then
    some (.finite (decide (n < 0)) ⟨_, roundUnits_onGrid h⟩)
  else none

namespace Double

def signedUnits (negative : Bool) (magnitude : ℕ) : ℤ :=
  if negative then -magnitude else magnitude

def EqInt (n : ℤ) : Double → Prop
  | .nan => False
  | .infinity _ => False
  | .finite negative magnitude => signedUnits negative magnitude.val = n * one

instance (n : ℤ) : DecidablePred (EqInt n)
  | .nan => .isFalse id
  | .infinity _ => .isFalse id
  | .finite _ _ => inferInstanceAs (Decidable (_ = _))

def truncate (negative : Bool) (magnitude : ℕ) : ℤ :=
  signedUnits negative (magnitude / one)

theorem natAbs_signedUnits (negative : Bool) (u : ℕ) : (signedUnits negative u).natAbs = u := by
  cases negative <;> simp [signedUnits]

theorem eq_of_signedUnits_eq {negative : Bool} {u : ℕ} {n : ℤ}
    (h : signedUnits negative u = n * one) :
    u = n.natAbs * one ∧ signedUnits negative n.natAbs = n := by
  have hone : (0 : ℤ) < one := by exact_mod_cast one_pos
  have habs : u = n.natAbs * one := by
    rw [← natAbs_signedUnits negative u, h, Int.natAbs_mul, Int.natAbs_natCast]
  refine ⟨habs, ?_⟩
  cases negative with
  | false =>
    have hn : 0 ≤ n * one := by
      rw [← h]
      simp [signedUnits]
    have hn : 0 ≤ n := nonneg_of_mul_nonneg_left hn hone
    simp [signedUnits, abs_of_nonneg hn]
  | true =>
    have hn : 0 ≤ -n * one := by
      rw [neg_mul, ← h]
      simp [signedUnits]
    have hn : 0 ≤ -n := nonneg_of_mul_nonneg_left hn hone
    simp [signedUnits, abs_of_nonpos (neg_nonneg.mp hn)]

/-- Rounding an integer gives a double equal to it just when it is on the grid. -/
theorem eqInt_ofRatio_iff {n : ℤ} :
    EqInt n (ofRatio (decide (n < 0)) (n.natAbs * one) 1) ↔ OnGrid (n.natAbs * one) := by
  unfold ofRatio
  by_cases hlt : roundUnits (n.natAbs * one) 1 < 2 ^ 2098
  · rw [dif_pos hlt]
    constructor
    · intro h
      rw [← (eq_of_signedUnits_eq h).1]
      exact roundUnits_onGrid hlt
    · intro hgrid
      show signedUnits (decide (n < 0)) (roundUnits (n.natAbs * one) 1) = n * one
      rw [hgrid.roundUnits_eq]
      by_cases hn : n < 0
      · simp [signedUnits, hn, abs_of_neg hn]
      · simp [signedUnits, hn, abs_of_nonneg (not_lt.mp hn)]
  · rw [dif_neg hlt]
    exact iff_of_false id fun hgrid => hlt (hgrid.roundUnits_eq.symm ▸ hgrid.1)

theorem exists_ofInt?_eqInt_iff {n : ℤ} :
    (∃ x, ofInt? n = some x ∧ EqInt n x) ↔ OnGrid (n.natAbs * one) := by
  rw [← eqInt_ofRatio_iff]
  unfold ofInt? ofRatio
  by_cases hlt : roundUnits (n.natAbs * one) 1 < 2 ^ 2098
  · rw [dif_pos hlt, dif_pos hlt]
    simp only [Option.some.injEq, exists_eq_left']
  · rw [dif_neg hlt, dif_neg hlt]
    simp only [reduceCtorEq, false_and, exists_false, EqInt]

theorem exists_ofInt?_of_eqInt {x : Double} {n : ℤ} (h : EqInt n x) :
    ∃ y, ofInt? n = some y ∧ EqInt n y := by
  rw [exists_ofInt?_eqInt_iff]
  cases x with
  | nan => exact h.elim
  | infinity negative => exact h.elim
  | finite negative magnitude =>
    rw [← (eq_of_signedUnits_eq h).1]
    exact magnitude.2

end Double

theorem log2_mul_two_pow {a : ℕ} (h : a ≠ 0) (k : ℕ) : (a * 2 ^ k).log2 = a.log2 + k := by
  induction k with
  | zero => simp
  | succ k ih =>
    rw [pow_succ', mul_left_comm, Nat.log2_two_mul (by positivity), ih]
    rfl

/-- The integers that are doubles: at most 53 significant bits, and in range. -/
theorem onGrid_mul_one_iff {a : ℕ} :
    OnGrid (a * one) ↔ a < 2 ^ 1024 ∧ 2 ^ (a.log2 - 52) ∣ a := by
  unfold OnGrid one
  by_cases hzero : a = 0
  · simp [hzero]
  have hrange : a * 2 ^ 1074 < 2 ^ 2098 ↔ a < 2 ^ 1024 := by
    have hsplit : (2 : ℕ) ^ 2098 = 2 ^ 1024 * 2 ^ 1074 := by rw [← pow_add]
    rw [hsplit]
    exact Nat.mul_lt_mul_right (Nat.two_pow_pos 1074)
  rw [hrange, log2_mul_two_pow hzero]
  refine and_congr_right fun _ => ?_
  by_cases hbits : 52 ≤ a.log2
  · have hexp : a.log2 + 1074 - 52 = (a.log2 - 52) + 1074 := by omega
    rw [hexp, pow_add]
    exact Nat.mul_dvd_mul_iff_right (Nat.two_pow_pos 1074)
  · have hnone : a.log2 - 52 = 0 := by omega
    have hdvd : 2 ^ (a.log2 + 1074 - 52) ∣ 2 ^ 1074 := pow_dvd_pow 2 (by omega)
    rw [hnone, pow_zero]
    exact iff_of_true (hdvd.mul_left a) (one_dvd a)

theorem two_pow_2098 : (2 : ℕ) ^ 2098 = 2 ^ 53 * (2 * 2 ^ 2044) := by
  rw [← mul_assoc, ← pow_succ, ← pow_add]

/-- Below the last binade a number is in range, and so is what it rounds to. -/
theorem roundUnits_lt_of_log2_lt {num : ℕ} (hlow : num.log2 < 2097) :
    roundUnits num 1 < 2 ^ 2098 ∧ num < 2 ^ 2098 - 2 ^ 2044 := by
  have hk := significand_lt num 1
  have hnum := Nat.div_add_mod num (2 ^ (num.log2 - 52))
  have hmod := Nat.mod_lt num (Nat.two_pow_pos (num.log2 - 52))
  have hpos : 0 < (2 : ℕ) ^ 2044 := by positivity
  have hd : 2 ^ (num.log2 - 52) ≤ (2 : ℕ) ^ 2044 := pow_le_pow_right₀ one_le_two (by omega)
  unfold roundUnits
  simp only [Nat.div_one, one_mul] at hk ⊢
  rw [two_pow_2098]
  generalize (2 : ℕ) ^ (num.log2 - 52) = d at *
  generalize (2 : ℕ) ^ 2044 = h at *
  generalize num / d = k at *
  have hle : (k + 1) * d ≤ 2 ^ 53 * h := Nat.mul_le_mul (by omega) hd
  have hcomm : d * k + d = (k + 1) * d := by ring
  constructor
  · split_ifs
    · omega
    · have : k * d ≤ (k + 1) * d := Nat.mul_le_mul_right d (by omega)
      omega
  · omega

/-- In the last binade a number is rounded out of range from the middle of the
last step on, where the largest significand, which is odd, gives way. -/
theorem roundUnits_lt_iff_of_log2_eq {num : ℕ} (heq : num.log2 = 2097) :
    roundUnits num 1 < 2 ^ 2098 ↔ num < 2 ^ 2098 - 2 ^ 2044 := by
  have hk := significand_lt num 1
  have hnum := Nat.div_add_mod num (2 ^ (num.log2 - 52))
  have hmod := Nat.mod_lt num (Nat.two_pow_pos (num.log2 - 52))
  have hd : (2 : ℕ) ^ (2097 - 52) = 2 * 2 ^ 2044 := by rw [← pow_succ']
  have hpos : 0 < (2 : ℕ) ^ 2044 := by positivity
  unfold roundUnits
  simp only [Nat.div_one, one_mul, heq, hd] at hk hnum hmod ⊢
  rw [two_pow_2098]
  generalize (2 : ℕ) ^ 2044 = h at *
  generalize num / (2 * h) = k at *
  have hup : (k + 1) * (2 * h) < 2 ^ 53 * (2 * h) ↔ k + 1 < 2 ^ 53 :=
    Nat.mul_lt_mul_right (by omega)
  have hdown : k * (2 * h) < 2 ^ 53 * (2 * h) := Nat.mul_lt_mul_of_pos_right hk (by omega)
  by_cases hlast : k + 1 < 2 ^ 53
  · have hnext : 2 * h * k + 2 * h ≤ 2 ^ 53 * (2 * h) - 2 * h := by
      have := Nat.mul_le_mul_right (2 * h) (show k + 2 ≤ 2 ^ 53 by omega)
      have hexp : (k + 2) * (2 * h) = 2 * h * k + 2 * h + 2 * h := by ring
      omega
    constructor
    · intro _
      omega
    · intro _
      split_ifs
      · exact hup.mpr hlast
      · exact hdown
  · have hk' : k = 2 ^ 53 - 1 := by omega
    have hodd : k % 2 = 1 := by omega
    have hprod : 2 * h * k + 2 * h = 2 ^ 53 * (2 * h) := by
      rw [hk']
      ring
    split_ifs with hround
    · have hout : ¬(k + 1) * (2 * h) < 2 ^ 53 * (2 * h) := fun hlt => hlast (hup.mp hlt)
      simp only [hout, false_iff]
      omega
    · simp only [hdown, true_iff]
      omega

theorem le_roundUnits_of_log2_lt {num : ℕ} (hhigh : 2097 < num.log2) :
    2 ^ 2098 ≤ roundUnits num 1 := by
  have hne : num ≠ 0 := by
    rintro rfl
    simp at hhigh
  have hk : 2 ^ 52 ≤ num / 2 ^ (num.log2 - 52) := by
    rw [Nat.le_div_iff_mul_le (Nat.two_pow_pos _), ← pow_add]
    exact (Nat.le_log2 hne).mp (by omega)
  have hfloor : 2 ^ 2098 ≤ num / 2 ^ (num.log2 - 52) * 2 ^ (num.log2 - 52) :=
    calc 2 ^ 2098 ≤ 2 ^ (52 + (num.log2 - 52)) := pow_le_pow_right₀ one_le_two (by omega)
      _ = 2 ^ 52 * 2 ^ (num.log2 - 52) := pow_add _ _ _
      _ ≤ _ := Nat.mul_le_mul_right _ hk
  unfold roundUnits
  simp only [Nat.div_one, one_mul]
  split_ifs
  · exact hfloor.trans (Nat.mul_le_mul_right _ (Nat.le_succ _))
  · exact hfloor

theorem roundUnits_lt_iff (num : ℕ) :
    roundUnits num 1 < 2 ^ 2098 ↔ num < 2 ^ 2098 - 2 ^ 2044 := by
  rcases Nat.lt_trichotomy num.log2 2097 with hlow | heq | hhigh
  · have hboth := roundUnits_lt_of_log2_lt hlow
    exact ⟨fun _ => hboth.2, fun _ => hboth.1⟩
  · exact roundUnits_lt_iff_of_log2_eq heq
  · have hne : num ≠ 0 := by
      rintro rfl
      simp at hhigh
    have hbig : 2098 ≤ num.log2 := hhigh
    rw [Nat.le_log2 hne] at hbig
    constructor
    · intro hlt
      exact absurd hlt (not_lt.mpr (le_roundUnits_of_log2_lt hhigh))
    · intro hlt
      exact absurd (hlt.trans_le (Nat.sub_le _ _)) (not_lt.mpr hbig)

/-- The integers out of range are those nearer to `2 ^ 1024` than to the
largest double, in magnitude. -/
theorem ofInt?_eq_none_iff {n : ℤ} : ofInt? n = none ↔ 2 ^ 1024 - 2 ^ 970 ≤ n.natAbs := by
  have hpow : (2 : ℕ) ^ 2098 - 2 ^ 2044 = (2 ^ 1024 - 2 ^ 970) * one := by
    unfold one
    rw [Nat.sub_mul, ← pow_add, ← pow_add]
  have hiff : roundUnits (n.natAbs * one) 1 < 2 ^ 2098 ↔ n.natAbs < 2 ^ 1024 - 2 ^ 970 := by
    rw [roundUnits_lt_iff, hpow, Nat.mul_lt_mul_right one_pos]
  unfold ofInt?
  generalize (2 : ℕ) ^ 1024 - 2 ^ 970 = bound at hiff ⊢
  by_cases hlt : n.natAbs < bound
  · rw [dif_pos (hiff.mpr hlt)]
    simpa using hlt
  · rw [dif_neg (fun h => hlt (hiff.mp h))]
    simpa using hlt

end Binary64
