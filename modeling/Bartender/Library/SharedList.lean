import Mathlib.Data.List.Basic
import Mathlib.Data.List.Nodup
import Mathlib.Tactic

/-!
# Positions in a list that others edit

A thread goes through a list by index, or remembers an index, while other
threads append at the end and erase by index. What it knows about the part it
has read stays true as long as nothing in that part is erased; a position whose
entry moved never gets it back.
-/

namespace SharedList

variable {α : Type*}

inductive Edit (α : Type*)
  | append (a : α)
  | erase (index : ℕ)
  deriving DecidableEq

namespace Edit

def apply : Edit α → List α → List α
  | append a, l => l ++ [a]
  | erase i, l => l.eraseIdx i

def Spares (n : ℕ) : Edit α → Prop
  | append _ => True
  | erase i => n ≤ i

instance (n : ℕ) : DecidablePred (Spares n : Edit α → Prop)
  | append _ => .isTrue trivial
  | erase i => inferInstanceAs (Decidable (n ≤ i))

variable {e : Edit α} {l : List α} {n i : ℕ} {a : α}

theorem Spares.mono (h : e.Spares n) (hi : i ≤ n) : e.Spares i := by
  cases e with
  | append b => trivial
  | erase j => exact hi.trans h

theorem take_apply (h : e.Spares n) (hn : n ≤ l.length) : (e.apply l).take n = l.take n := by
  cases e with
  | append b => exact List.take_append_of_le_length hn
  | erase j => exact List.take_eraseIdx_eq_take_of_le l n j h

theorem getElem?_apply (h : e.Spares (i + 1)) (hi : l[i]? = some a) :
    (e.apply l)[i]? = some a := by
  have hlt : i < l.length := (List.getElem?_eq_some_iff.mp hi).1
  cases e with
  | append b =>
    change (l ++ [b])[i]? = some a
    rw [List.getElem?_append_left hlt, hi]
  | erase j =>
    change (l.eraseIdx j)[i]? = some a
    rw [List.getElem?_eraseIdx_of_lt h, hi]

theorem length_apply (h : e.Spares n) (hn : n ≤ l.length) : n ≤ (e.apply l).length := by
  have htake := congrArg List.length (take_apply h hn)
  rw [List.length_take, List.length_take] at htake
  omega

theorem not_mem_drop_apply (h : a ∉ l.drop n) (he : e ≠ append a) : a ∉ (e.apply l).drop n := by
  cases e with
  | append b =>
    change a ∉ (l ++ [b]).drop n
    rw [List.drop_append, List.mem_append]
    rintro (hmem | hmem)
    · exact h hmem
    · exact he (by rw [List.mem_singleton.mp (List.mem_of_mem_drop hmem)])
  | erase j => exact fun hmem => h (((List.eraseIdx_sublist l j).drop n).mem hmem)

/-- An entry that moved, and did not occur later, is nowhere from its old
position on. -/
theorem not_mem_drop_of_not_spares (hi : l[i]? = some a) (hlater : a ∉ l.drop (i + 1))
    (h : ¬ e.Spares (i + 1)) : a ∉ (e.apply l).drop i := by
  have hlt := (List.getElem?_eq_some_iff.mp hi).1
  cases e with
  | append b => exact absurd trivial h
  | erase j =>
    have hj : j ≤ i := Nat.le_of_lt_succ (Nat.lt_of_not_le h)
    have hdrop : (l.eraseIdx j).drop i = l.drop (i + 1) := by
      rw [List.eraseIdx_eq_take_drop_succ, List.drop_append, List.length_take,
        min_eq_left (hj.trans hlt.le), List.drop_take, Nat.sub_eq_zero_of_le hj, List.take_zero,
        List.nil_append, List.drop_drop]
      congr 1
      omega
    change a ∉ (l.eraseIdx j).drop i
    rwa [hdrop]

end Edit

variable {p : α → Bool} {l : List α} {n : ℕ} {a : α}

def Passed (p : α → Bool) (n : ℕ) (l : List α) : Prop :=
  n ≤ l.length ∧ ∀ a ∈ l.take n, p a = false

theorem Passed.apply {e : Edit α} (h : Passed p n l) (he : e.Spares n) :
    Passed p n (e.apply l) :=
  ⟨e.length_apply he h.1, by rw [e.take_apply he h.1]; exact h.2⟩

theorem Passed.split (h : Passed p n l) (ha : l[n]? = some a) :
    l = l.take n ++ a :: l.drop (n + 1) ∧ ∀ b ∈ l.take n, p b = false := by
  obtain ⟨hlt, rfl⟩ := List.getElem?_eq_some_iff.mp ha
  exact ⟨by rw [← List.drop_eq_getElem_cons hlt, List.take_append_drop], h.2⟩

theorem Passed.find?_eq (h : Passed p n l) (ha : l[n]? = some a) (hp : p a = true) :
    l.find? p = some a := by
  obtain ⟨hl, hbefore⟩ := h.split ha
  rw [hl, List.find?_append, List.find?_eq_none.mpr fun b hb => by simp [hbefore b hb]]
  simp [hp]

theorem Passed.eraseP_eq (h : Passed p n l) (ha : l[n]? = some a) (hp : p a = true) :
    l.eraseP p = l.eraseIdx n := by
  obtain ⟨hl, hbefore⟩ := h.split ha
  rw [List.eraseIdx_eq_take_drop_succ]
  conv_lhs => rw [hl, List.eraseP_append_right _ (fun b hb => by simp [hbefore b hb]),
    List.eraseP_cons_of_pos hp]

theorem Passed.forall_mem (h : Passed p n l) (hend : l[n]? = none) : ∀ a ∈ l, p a = false := by
  have hlength := List.getElem?_eq_none_iff.mp hend
  rw [← List.take_of_length_le hlength]
  exact h.2

end SharedList
