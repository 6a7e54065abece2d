import Mathlib.Logic.Function.Basic
import Mathlib.Tactic.TypeStar

/-!
# Interleaved threads

Threads with local states share a state. A step is taken by one of them, or by
the surroundings. Invariants are proved in the manner of Owicki and Gries: every
thread has an assertion where it is, which its own steps establish and the steps
of the others respect.
-/

namespace Interleaving

variable {ι L σ : Type*}

structure Pool (ι L σ : Type*) where
  threads : ι → L
  shared : σ

namespace Pool

section Step

variable [DecidableEq ι] (next : L → σ → L × σ) (i : ι) (p : Pool ι L σ)

def step : Pool ι L σ where
  threads := Function.update p.threads i (next (p.threads i) p.shared).1
  shared := (next (p.threads i) p.shared).2

@[simp] theorem step_shared : (p.step next i).shared = (next (p.threads i) p.shared).2 := rfl

@[simp] theorem step_threads_self :
    (p.step next i).threads i = (next (p.threads i) p.shared).1 :=
  Function.update_self ..

variable {i}

@[simp] theorem step_threads_of_ne {j : ι} (h : j ≠ i) :
    (p.step next i).threads j = p.threads j :=
  Function.update_of_ne h ..

theorem forall_threads_step {P : ι → L → Prop} (hown : P i (next (p.threads i) p.shared).1)
    (hothers : ∀ j, j ≠ i → P j (p.threads j)) (j : ι) : P j ((p.step next i).threads j) := by
  by_cases hj : j = i
  · rw [hj, step_threads_self]
    exact hown
  · rw [step_threads_of_ne next p hj]
    exact hothers j hj

end Step

def outside (f : σ → σ) (p : Pool ι L σ) : Pool ι L σ := { p with shared := f p.shared }

structure Outline (J : σ → Prop) (A : L → σ → Prop) (p : Pool ι L σ) : Prop where
  shared : J p.shared
  threads : ∀ i, A (p.threads i) p.shared

variable {J : σ → Prop} {A : L → σ → Prop} {p : Pool ι L σ}

/-- The rule for a thread: it keeps the invariant and its own assertion, and
does not interfere with that of any other thread. -/
theorem Outline.step [DecidableEq ι] (h : Outline J A p) {next : L → σ → L × σ} {i : ι}
    (hkeeps : J (next (p.threads i) p.shared).2)
    (hown : A (next (p.threads i) p.shared).1 (next (p.threads i) p.shared).2)
    (hfree : ∀ l, A l p.shared → A l (next (p.threads i) p.shared).2) :
    Outline J A (p.step next i) where
  shared := hkeeps
  threads := forall_threads_step next p (P := fun _ l => A l (next (p.threads i) p.shared).2) hown
    fun j _ => hfree _ (h.threads j)

theorem Outline.outside (h : Outline J A p) {f : σ → σ} (hkeeps : J (f p.shared))
    (hfree : ∀ l, A l p.shared → A l (f p.shared)) : Outline J A (p.outside f) where
  shared := hkeeps
  threads i := hfree _ (h.threads i)

end Pool

end Interleaving
