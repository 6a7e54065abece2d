import Mathlib.Data.List.Forall2
import Mathlib.Tactic

/-!
# Programs that keep a state and may raise

Inversion lemmas for `StateT σ (Except ε)`: what it takes for a sequence of
steps, a lifted pure step or a loop over a list to return, and which step is
to blame when one of them raises. Two such programs are related when they end
alike from every state, which sequences and loops inherit from their steps.
-/

namespace StatefulExcept

variable {σ ε : Type} {α β : Type}

@[simp] theorem pure_apply (a : α) (s : σ) :
    (pure a : StateT σ (Except ε) α) s = .ok (a, s) := rfl

theorem bind_apply (x : StateT σ (Except ε) α) (f : α → StateT σ (Except ε) β) (s : σ) :
    (x >>= f) s = match x s with
      | .error e => .error e
      | .ok (a, s') => f a s' := by
  show (x s >>= fun p => f p.1 p.2) = _
  cases x s <;> rfl

theorem bind_eq_ok {x : StateT σ (Except ε) α} {f : α → StateT σ (Except ε) β} {s : σ}
    {result : β × σ} :
    (x >>= f) s = .ok result ↔ ∃ a s', x s = .ok (a, s') ∧ f a s' = .ok result := by
  rw [bind_apply]
  cases h : x s with
  | error e => simp
  | ok p => exact ⟨fun h' => ⟨p.1, p.2, rfl, h'⟩, fun ⟨_, _, h₁, h₂⟩ => by cases h₁; exact h₂⟩

theorem bind_eq_error {x : StateT σ (Except ε) α} {f : α → StateT σ (Except ε) β} {s : σ}
    {e : ε} :
    (x >>= f) s = .error e ↔
      x s = .error e ∨ ∃ a s', x s = .ok (a, s') ∧ f a s' = .error e := by
  rw [bind_apply]
  cases h : x s with
  | error e' => simp
  | ok p =>
    constructor
    · exact fun h' => .inr ⟨p.1, p.2, rfl, h'⟩
    · rintro (h' | ⟨_, _, h₁, h₂⟩)
      · cases h'
      · cases h₁
        exact h₂

@[simp] theorem lift_eq_ok {x : Except ε α} {s : σ} {a : α} {s' : σ} :
    (liftM x : StateT σ (Except ε) α) s = .ok (a, s') ↔ x = .ok a ∧ s' = s := by
  show (x >>= fun a => Except.ok (a, s)) = _ ↔ _
  cases x with
  | error e => simp [bind, Except.bind]
  | ok b => simp [bind, Except.bind, eq_comm]

@[simp] theorem lift_eq_error {x : Except ε α} {s : σ} {e : ε} :
    (liftM x : StateT σ (Except ε) α) s = .error e ↔ x = .error e := by
  show (x >>= fun a => Except.ok (a, s)) = _ ↔ _
  cases x <;> simp [bind, Except.bind]

theorem except_bind_eq_ok {x : Except ε α} {f : α → Except ε β} {b : β} :
    (x >>= f) = .ok b ↔ ∃ a, x = .ok a ∧ f a = .ok b := by
  cases x <;> simp [bind, Except.bind]

theorem except_bind_eq_error {x : Except ε α} {f : α → Except ε β} {e : ε} :
    (x >>= f) = .error e ↔ x = .error e ∨ ∃ a, x = .ok a ∧ f a = .error e := by
  cases x <;> simp [bind, Except.bind]

section Loops

variable {f : α → StateT σ (Except ε) β} {R : α → β → Prop}

theorem forall₂_of_mapM_eq_ok (hf : ∀ a s b s', f a s = .ok (b, s') → R a b) {xs : List α}
    {s : σ} {ys : List β} {s' : σ} (h : xs.mapM f s = .ok (ys, s')) : List.Forall₂ R xs ys := by
  induction xs generalizing s ys s' with
  | nil =>
    rw [List.mapM_nil, pure_apply] at h
    cases h
    exact .nil
  | cons x xs ih =>
    rw [List.mapM_cons, bind_eq_ok] at h
    obtain ⟨b, s₁, hx, h⟩ := h
    rw [bind_eq_ok] at h
    obtain ⟨bs, s₂, hxs, h⟩ := h
    cases h
    exact .cons (hf _ _ _ _ hx) (ih hxs)

theorem mapM_eq_ok_of_forall₂ (hf : ∀ a b, R a b → ∀ s, f a s = .ok (b, s)) {xs : List α}
    {ys : List β} (h : List.Forall₂ R xs ys) (s : σ) : xs.mapM f s = .ok (ys, s) := by
  induction h with
  | nil => rfl
  | cons hx _ ih =>
    rw [List.mapM_cons, bind_eq_ok]
    refine ⟨_, s, hf _ _ hx s, ?_⟩
    rw [bind_eq_ok]
    exact ⟨_, s, ih, rfl⟩

theorem mapM_eq_error {xs : List α} {s : σ} {e : ε} (h : xs.mapM f s = .error e) :
    ∃ before x after ys s', xs = before ++ x :: after ∧ before.mapM f s = .ok (ys, s') ∧
      f x s' = .error e := by
  induction xs generalizing s with
  | nil => cases h
  | cons x xs ih =>
    rw [List.mapM_cons, bind_eq_error] at h
    rcases h with hx | ⟨b, s₁, hx, h⟩
    · exact ⟨[], x, xs, [], s, rfl, rfl, hx⟩
    · rw [bind_eq_error] at h
      rcases h with hxs | ⟨bs, s₂, _, h⟩
      · obtain ⟨before, y, after, ys, s', rfl, hbefore, hy⟩ := ih hxs
        refine ⟨x :: before, y, after, b :: ys, s', rfl, ?_, hy⟩
        rw [List.mapM_cons, bind_eq_ok]
        refine ⟨b, s₁, hx, ?_⟩
        rw [bind_eq_ok]
        exact ⟨ys, s', hbefore, rfl⟩
      · cases h

theorem mapM_append_eq_error {before : List α} {x : α} (after : List α) {s s' : σ} {ys : List β}
    {e : ε} (hbefore : before.mapM f s = .ok (ys, s')) (hx : f x s' = .error e) :
    (before ++ x :: after).mapM f s = .error e := by
  rw [List.mapM_append, bind_eq_error]
  refine .inr ⟨ys, s', hbefore, ?_⟩
  rw [bind_eq_error]
  left
  rw [List.mapM_cons, bind_eq_error]
  exact .inl hx

end Loops

section Related

variable {α' β' : Type} {E : ε → ε → Prop} {R : α → α' → Prop} {R' : β → β' → Prop}

/-- Both return related results in one state, or both raise related errors. -/
inductive SameOutcome (E : ε → ε → Prop) (R : α → α' → Prop) :
    Except ε (α × σ) → Except ε (α' × σ) → Prop
  | ok {a : α} {b : α'} {s : σ} (h : R a b) : SameOutcome E R (.ok (a, s)) (.ok (b, s))
  | error {e e' : ε} (h : E e e') : SameOutcome E R (.error e) (.error e')

def Related (E : ε → ε → Prop) (R : α → α' → Prop) (x : StateT σ (Except ε) α)
    (y : StateT σ (Except ε) α') : Prop :=
  ∀ s, SameOutcome E R (x s) (y s)

theorem Related.refl (hE : ∀ e, E e e) (x : StateT σ (Except ε) α) : Related E Eq x x := by
  intro s
  cases x s with
  | error e => exact .error (hE e)
  | ok result => exact .ok rfl

theorem Related.pure {a : α} {b : α'} (h : R a b) :
    Related E R (pure a : StateT σ (Except ε) α) (pure b) := fun _ => .ok h

theorem Related.lift_error {e e' : ε} (h : E e e') :
    Related E R (liftM (Except.error e) : StateT σ (Except ε) α) (liftM (Except.error e')) :=
  fun _ => .error h

theorem Related.bind {x : StateT σ (Except ε) α} {y : StateT σ (Except ε) α'}
    {f : α → StateT σ (Except ε) β} {g : α' → StateT σ (Except ε) β'} (h : Related E R x y)
    (hnext : ∀ a b, R a b → Related E R' (f a) (g b)) : Related E R' (x >>= f) (y >>= g) := by
  intro s
  rw [bind_apply, bind_apply]
  have hs := h s
  revert hs
  generalize x s = result, y s = result'
  rintro (hab | he)
  · exact hnext _ _ hab _
  · exact .error he

theorem Related.mapM {f g : α → StateT σ (Except ε) β} (h : ∀ a, Related E Eq (f a) (g a))
    (xs : List α) : Related E Eq (xs.mapM f) (xs.mapM g) := by
  induction xs with
  | nil => exact .pure rfl
  | cons x xs ih =>
    rw [List.mapM_cons, List.mapM_cons]
    refine (h x).bind ?_
    rintro b _ rfl
    refine ih.bind ?_
    rintro bs _ rfl
    exact .pure rfl

end Related

end StatefulExcept
