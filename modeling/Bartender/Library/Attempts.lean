import Mathlib.Data.List.Basic
import Mathlib.Tactic.TypeStar

/-!
# Programs that keep what they did when they raise

A program reads and writes a state and may raise, and an exception does not
undo what was done before it. There are two kinds of rules: for what happens to
the state whether the program returns or raises, and for programs that return.
-/

namespace Attempts

variable {σ ε : Type} {α β : Type}

abbrev Program (σ ε α : Type) := ExceptT ε (StateM σ) α

def exec (x : Program σ ε α) (s : σ) : Except ε α × σ := x.run s

def swallow (x : Program σ ε Unit) : Program σ ε Unit := tryCatch x fun _ => pure ()

theorem exec_pure (a : α) (s : σ) : exec (pure a : Program σ ε α) s = (.ok a, s) := rfl

theorem exec_get (s : σ) : exec (get : Program σ ε σ) s = (.ok s, s) := rfl

theorem exec_modify (f : σ → σ) (s : σ) :
    exec (modify f : Program σ ε Unit) s = (.ok (), f s) := rfl

theorem stateM_bind (x : StateM σ α) (f : α → StateM σ β) (s : σ) :
    (x >>= f) s = f (x s).1 (x s).2 := rfl

theorem exec_bind (x : Program σ ε α) (f : α → Program σ ε β) (s : σ) :
    exec (x >>= f) s = match exec x s with
      | (.ok a, s') => exec (f a) s'
      | (.error e, s') => (.error e, s') := by
  unfold exec
  rw [ExceptT.run_bind, stateM_bind]
  cases h : x.run s with
  | mk result s' => cases result <;> rfl

theorem exec_liftM (result : Except ε α) (s : σ) :
    exec (liftM result : Program σ ε α) s = (result, s) := by
  cases result <;> rfl

theorem exec_tryCatch (x : Program σ ε α) (f : ε → Program σ ε α) (s : σ) :
    exec (tryCatch x f) s = match exec x s with
      | (.ok a, s') => (.ok a, s')
      | (.error e, s') => exec (f e) s' := by
  unfold exec
  rw [ExceptT.run_tryCatch, stateM_bind]
  cases h : x.run s with
  | mk result s' => cases result <;> rfl

theorem exec_swallow (x : Program σ ε Unit) (s : σ) :
    exec (swallow x) s = (.ok (), (exec x s).2) := by
  unfold exec swallow
  rw [ExceptT.run_tryCatch, stateM_bind]
  cases h : x.run s with
  | mk result s' => cases result <;> rfl

theorem forM_congr {f g : α → Program σ ε Unit} {xs : List α} (h : ∀ a ∈ xs, f a = g a) :
    xs.forM f = xs.forM g := by
  induction xs with
  | nil => rfl
  | cons x xs ih =>
    simp only [List.forM_eq_forM, List.forM_cons] at ih ⊢
    rw [h x List.mem_cons_self, ih fun a ha => h a (List.mem_cons_of_mem _ ha)]

theorem forM_flatMap (f : β → Program σ ε Unit) (g : α → List β) (xs : List α) :
    (xs.flatMap g).forM f = xs.forM fun x => (g x).forM f := by
  induction xs with
  | nil => rfl
  | cons x xs ih =>
    simp only [List.forM_eq_forM, List.flatMap_cons, List.forM_append, List.forM_cons] at ih ⊢
    rw [ih]

section Moves

/-- The relation holds between the states before and after, also when the
program raises. -/
def Moves (R : σ → σ → Prop) (x : Program σ ε α) : Prop := ∀ s, R s (exec x s).2

variable {R : σ → σ → Prop}

theorem Moves.pure [Std.Refl R] (a : α) : Moves R (pure a : Program σ ε α) :=
  fun s => Std.Refl.refl s

theorem Moves.bind [IsTrans σ R] {x : Program σ ε α} {f : α → Program σ ε β} (hx : Moves R x)
    (hf : ∀ a, Moves R (f a)) : Moves R (x >>= f) := by
  intro s
  have hfirst := hx s
  rw [exec_bind]
  cases h : exec x s with
  | mk result s' =>
    rw [h] at hfirst
    cases result with
    | error e => exact hfirst
    | ok a => exact IsTrans.trans _ _ _ hfirst (hf a s')

theorem Moves.swallow {x : Program σ ε Unit} (hx : Moves R x) : Moves R (swallow x) := by
  intro s
  rw [exec_swallow]
  exact hx s

theorem Moves.forM [Std.Refl R] [IsTrans σ R] {f : α → Program σ ε Unit} {xs : List α}
    (hf : ∀ a ∈ xs, Moves R (f a)) : Moves R (xs.forM f) := by
  induction xs with
  | nil => exact Moves.pure ()
  | cons x xs ih =>
    exact Moves.bind (hf x List.mem_cons_self)
      fun _ => ih fun a ha => hf a (List.mem_cons_of_mem _ ha)

end Moves

def Returns (x : Program σ ε α) (s : σ) (Q : α → σ → Prop) : Prop :=
  ∃ a s', exec x s = (.ok a, s') ∧ Q a s'

section Returns

variable {s : σ} {Q Q' : α → σ → Prop}

theorem Returns.imp {x : Program σ ε α} (h : Returns x s Q) (hQ : ∀ a s', Q a s' → Q' a s') :
    Returns x s Q' := by
  obtain ⟨a, s', hx, hpost⟩ := h
  exact ⟨a, s', hx, hQ a s' hpost⟩

theorem returns_pure {a : α} (h : Q a s) : Returns (pure a : Program σ ε α) s Q :=
  ⟨a, s, exec_pure a s, h⟩

theorem Returns.bind {x : Program σ ε α} {f : α → Program σ ε β} {Q' : β → σ → Prop}
    (hx : Returns x s Q) (hf : ∀ a s', Q a s' → Returns (f a) s' Q') :
    Returns (x >>= f) s Q' := by
  obtain ⟨a, s', hfirst, hpost⟩ := hx
  obtain ⟨b, s'', hsecond, hpost'⟩ := hf a s' hpost
  refine ⟨b, s'', ?_, hpost'⟩
  rw [exec_bind, hfirst]
  exact hsecond

theorem returns_modify (f : σ → σ) (s : σ) :
    Returns (modify f : Program σ ε Unit) s fun _ s' => s' = f s :=
  ⟨(), f s, exec_modify f s, rfl⟩

theorem returns_swallow {x : Program σ ε Unit} {R : σ → σ → Prop} (hx : Moves R x) (s : σ) :
    Returns (swallow x) s fun _ s' => R s s' :=
  ⟨(), _, exec_swallow x s, hx s⟩

theorem returns_forM {f : α → Program σ ε Unit} {xs : List α} {I : List α → σ → Prop}
    (hstep : ∀ done a s, a ∈ xs → I done s → Returns (f a) s fun _ s' => I (done ++ [a]) s')
    (h : I [] s) : Returns (xs.forM f) s fun _ s' => I xs s' := by
  have hloop : ∀ done rest s, xs = done ++ rest → I done s →
      Returns (rest.forM f) s fun _ s' => I xs s' := by
    intro done rest
    induction rest generalizing done with
    | nil =>
      intro s hxs hdone
      rw [List.append_nil] at hxs
      exact returns_pure (hxs ▸ hdone)
    | cons a rest ih =>
      intro s hxs hdone
      have hmem : a ∈ xs := by simp [hxs]
      refine (hstep done a s hmem hdone).bind fun _ s' hnext => ?_
      exact ih (done ++ [a]) s' (by simp [hxs]) hnext
  exact hloop [] xs s rfl h

end Returns

end Attempts
