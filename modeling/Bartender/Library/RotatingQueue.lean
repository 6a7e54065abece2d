import Mathlib.Data.List.Basic
import Mathlib.Tactic

/-!
# Work queues that put deferred items back

A loop visits the item at the head of a queue. The visit either settles the
item, which then leaves the queue and updates the state, or defers it, which
puts it back at the end and leaves the state alone, or aborts the whole loop.
Nothing bounds the number of deferrals, so whether the loop ends is a property
of the visits: it runs for ever exactly when it reaches a nonempty queue of
items that are all deferred.
-/

namespace RotatingQueue

variable {α σ ε : Type*}

/-- What one visit decides about the item at the head of the queue. -/
inductive Verdict (σ ε : Type*)
  | settle (s : σ)
  | defer
  | abort (e : ε) (s : σ)

/-- How a loop that ends has ended, with the state it leaves behind. -/
inductive Ending (σ ε : Type*)
  | finished (s : σ)
  | aborted (e : ε) (s : σ)

def Ending.state : Ending σ ε → σ
  | .finished s => s
  | .aborted _ s => s

section Map

variable {τ : Type*} (f : σ → τ)

def Verdict.map : Verdict σ ε → Verdict τ ε
  | .settle s => .settle (f s)
  | .defer => .defer
  | .abort e s => .abort e (f s)

def Ending.map : Ending σ ε → Ending τ ε
  | .finished s => .finished (f s)
  | .aborted e s => .aborted e (f s)

end Map

variable (visit : σ → α → Verdict σ ε)

/-- At most `fuel` visits; `none` when they do not bring the loop to its end. -/
def run : ℕ → List α → σ → Option (Ending σ ε)
  | _, [], s => some (.finished s)
  | 0, _ :: _, _ => none
  | fuel + 1, a :: q, s =>
    match visit s a with
    | .settle s' => run fuel q s'
    | .defer => run fuel (q ++ [a]) s
    | .abort e s' => some (.aborted e s')

/-- The configurations met by the loop that starts on `q₀` in state `s₀`. -/
inductive Reaches (q₀ : List α) (s₀ : σ) : List α → σ → Prop
  | start : Reaches q₀ s₀ q₀ s₀
  | settle {a q s s'} : Reaches q₀ s₀ (a :: q) s → visit s a = .settle s' → Reaches q₀ s₀ q s'
  | defer {a q s} : Reaches q₀ s₀ (a :: q) s → visit s a = .defer → Reaches q₀ s₀ (q ++ [a]) s

/-- One visit to each of the items, unless one of them aborts. -/
def sweep : List α → σ → Option σ
  | [], s => some s
  | a :: q, s =>
    match visit s a with
    | .settle s' => sweep q s'
    | .defer => sweep q s
    | .abort _ _ => none

/-- Work is left and every remaining item would be put back. -/
def Deadlocked (q : List α) (s : σ) : Prop :=
  q ≠ [] ∧ ∀ a ∈ q, visit s a = .defer

variable {visit}

theorem run_succ_settle {fuel : ℕ} {a : α} {q : List α} {s s' : σ}
    (h : visit s a = .settle s') : run visit (fuel + 1) (a :: q) s = run visit fuel q s' := by
  simp [run, h]

theorem run_succ_defer {fuel : ℕ} {a : α} {q : List α} {s : σ}
    (h : visit s a = .defer) :
    run visit (fuel + 1) (a :: q) s = run visit fuel (q ++ [a]) s := by
  simp [run, h]

theorem run_succ_abort {fuel : ℕ} {a : α} {q : List α} {s s' : σ} {e : ε}
    (h : visit s a = .abort e s') :
    run visit (fuel + 1) (a :: q) s = some (.aborted e s') := by
  simp [run, h]

theorem Reaches.trans {q₀ q₁ q₂ : List α} {s₀ s₁ s₂ : σ}
    (h₁ : Reaches visit q₀ s₀ q₁ s₁) (h₂ : Reaches visit q₁ s₁ q₂ s₂) :
    Reaches visit q₀ s₀ q₂ s₂ := by
  induction h₂ with
  | start => exact h₁
  | settle _ hv ih => exact ih.settle hv
  | defer _ hv ih => exact ih.defer hv

/-- The invariant rule: what every settling and every deferring visit preserves
holds in each configuration the loop meets. -/
theorem Reaches.invariant {I : List α → σ → Prop} {q₀ q : List α} {s₀ s : σ}
    (h : Reaches visit q₀ s₀ q s) (h₀ : I q₀ s₀)
    (hsettle : ∀ a q s s', I (a :: q) s → visit s a = .settle s' → I q s')
    (hdefer : ∀ a q s, I (a :: q) s → visit s a = .defer → I (q ++ [a]) s) : I q s := by
  induction h with
  | start => exact h₀
  | settle _ hv ih => exact hsettle _ _ _ _ ih hv
  | defer _ hv ih => exact hdefer _ _ _ ih hv

theorem reaches_of_sweep {todo rest : List α} {s s' : σ} (h : sweep visit todo s = some s') :
    ∃ deferred, Reaches visit (todo ++ rest) s (rest ++ deferred) s' := by
  induction todo generalizing rest s with
  | nil =>
    obtain rfl := Option.some.inj h
    exact ⟨[], by simpa using .start⟩
  | cons a todo ih =>
    unfold sweep at h
    split at h
    · next s₁ hv =>
      obtain ⟨deferred, hreach⟩ := ih h
      exact ⟨deferred, (Reaches.start.settle hv).trans hreach⟩
    · next hv =>
      obtain ⟨deferred, hreach⟩ := @ih (rest ++ [a]) s h
      have hfirst : Reaches visit (a :: (todo ++ rest)) s (a :: (todo ++ rest)) s := .start
      have hnext : Reaches visit (a :: todo ++ rest) s (todo ++ (rest ++ [a])) s := by
        simpa using hfirst.defer hv
      exact ⟨a :: deferred, by simpa using hnext.trans hreach⟩
    · cases h

/-- A loop whose sweep aborts never comes to the items behind, and until then
only visits items of the sweep. -/
theorem Reaches.during_sweep {I : σ → Prop} {todo rest q : List α} {s₀ s : σ}
    (h : Reaches visit (todo ++ rest) s₀ q s) (hnone : sweep visit todo s₀ = none) (h₀ : I s₀)
    (hsettle : ∀ a ∈ todo, ∀ s s', I s → visit s a = .settle s' → I s') :
    I s ∧ ∃ a left deferred, q = a :: left ++ (rest ++ deferred) ∧ a :: left ⊆ todo ∧
      sweep visit (a :: left) s = none := by
  have hsome : ∀ left s, sweep visit left s = none → ∃ a left', left = a :: left' := by
    intro left s hleft
    cases left with
    | nil => cases hleft
    | cons a left => exact ⟨a, left, rfl⟩
  refine h.invariant (I := fun q s => I s ∧ ∃ a left deferred,
    q = a :: left ++ (rest ++ deferred) ∧ a :: left ⊆ todo ∧ sweep visit (a :: left) s = none)
    ?_ ?_ ?_
  · obtain ⟨a, left, rfl⟩ := hsome todo s₀ hnone
    exact ⟨h₀, a, left, [], by simp, fun _ hb => hb, hnone⟩
  · rintro b q s s' ⟨hI, a, left, deferred, hq, hsub, hleft⟩ hv
    obtain ⟨rfl, rfl⟩ := List.cons.inj hq
    have hnext : sweep visit left s' = none := by simpa [sweep, hv] using hleft
    obtain ⟨a', left', rfl⟩ := hsome left s' hnext
    exact ⟨hsettle b (hsub List.mem_cons_self) s s' hI hv, a', left', deferred, rfl,
      fun c hc => hsub (List.mem_cons_of_mem _ hc), hnext⟩
  · rintro b q s ⟨hI, a, left, deferred, hq, hsub, hleft⟩ hv
    obtain ⟨rfl, rfl⟩ := List.cons.inj hq
    have hnext : sweep visit left s = none := by simpa [sweep, hv] using hleft
    obtain ⟨a', left', rfl⟩ := hsome left s hnext
    exact ⟨hI, a', left', deferred ++ [b], by simp,
      fun c hc => hsub (List.mem_cons_of_mem _ hc), hnext⟩

theorem Reaches.run_eq {q₀ q : List α} {s₀ s : σ} (h : Reaches visit q₀ s₀ q s)
    {fuel : ℕ} {r : Ending σ ε} (hr : run visit fuel q s = some r) :
    ∃ fuel', run visit fuel' q₀ s₀ = some r := by
  induction h generalizing fuel with
  | start => exact ⟨fuel, hr⟩
  | settle _ hv ih => exact ih (by rwa [run_succ_settle hv])
  | defer _ hv ih => exact ih (by rwa [run_succ_defer hv])

theorem Reaches.run_rest {q₀ q : List α} {s₀ s : σ} (h : Reaches visit q₀ s₀ q s)
    {fuel : ℕ} {r : Ending σ ε} (hr : run visit fuel q₀ s₀ = some r) :
    ∃ fuel', run visit fuel' q s = some r := by
  induction h with
  | start => exact ⟨fuel, hr⟩
  | settle _ hv ih =>
    obtain ⟨_ | fuel', hr'⟩ := ih
    · simp [run] at hr'
    · exact ⟨fuel', by rwa [run_succ_settle hv] at hr'⟩
  | defer _ hv ih =>
    obtain ⟨_ | fuel', hr'⟩ := ih
    · simp [run] at hr'
    · exact ⟨fuel', by rwa [run_succ_defer hv] at hr'⟩

theorem run_comap {β : Type*} (item : β → α) (fuel : ℕ) (q : List β) (s : σ) :
    run visit fuel (q.map item) s = run (fun s b => visit s (item b)) fuel q s := by
  induction fuel generalizing q s with
  | zero => cases q <;> rfl
  | succ fuel ih =>
    cases q with
    | nil => rfl
    | cons b q =>
      rw [List.map_cons, run, run]
      cases visit s (item b) with
      | settle s' => exact ih q s'
      | defer =>
        have hput : q.map item ++ [item b] = (q ++ [b]).map item := by simp
        exact hput ▸ ih (q ++ [b]) s
      | abort e s' => rfl

theorem run_map {τ : Type*} {f : σ → τ} {visit' : τ → α → Verdict τ ε}
    (hvisit : ∀ s a, visit' (f s) a = (visit s a).map f) (fuel : ℕ) (q : List α) (s : σ) :
    run visit' fuel q (f s) = (run visit fuel q s).map (Ending.map f) := by
  induction fuel generalizing q s with
  | zero => cases q <;> rfl
  | succ fuel ih =>
    cases q with
    | nil => rfl
    | cons a q =>
      rw [run, run, hvisit]
      cases visit s a with
      | settle s' => exact ih q s'
      | defer => exact ih _ s
      | abort e s' => rfl

/-- It is enough that the visits forget what they should in the configurations
that the loop can meet. -/
theorem run_map_of_invariant {τ : Type*} {f : σ → τ} {visit' : τ → α → Verdict τ ε}
    {I : List α → σ → Prop}
    (hvisit : ∀ a q s, I (a :: q) s → visit' (f s) a = (visit s a).map f)
    (hsettle : ∀ a q s s', I (a :: q) s → visit s a = .settle s' → I q s')
    (hdefer : ∀ a q s, I (a :: q) s → visit s a = .defer → I (q ++ [a]) s)
    (fuel : ℕ) {q : List α} {s : σ} (h : I q s) :
    run visit' fuel q (f s) = (run visit fuel q s).map (Ending.map f) := by
  induction fuel generalizing q s with
  | zero => cases q <;> rfl
  | succ fuel ih =>
    cases q with
    | nil => rfl
    | cons a q =>
      rw [run, run, hvisit a q s h]
      cases hv : visit s a with
      | settle s' => exact ih (hsettle a q s s' h hv)
      | defer => exact ih (hdefer a q s h hv)
      | abort e s' => rfl

theorem finished_of_never_aborts (hvisit : ∀ s a e s', visit s a ≠ .abort e s')
    {fuel : ℕ} {q : List α} {s : σ} {r : Ending σ ε} (h : run visit fuel q s = some r) :
    ∃ s', r = .finished s' := by
  induction fuel generalizing q s with
  | zero =>
    cases q with
    | nil => exact ⟨s, by simpa [run] using h.symm⟩
    | cons a q => simp [run] at h
  | succ fuel ih =>
    cases q with
    | nil => exact ⟨s, by simpa [run] using h.symm⟩
    | cons a q =>
      cases hv : visit s a with
      | settle s' => exact ih (run_succ_settle hv ▸ h)
      | defer => exact ih (run_succ_defer hv ▸ h)
      | abort e s' => exact absurd hv (hvisit s a e s')

theorem reaches_of_finished {fuel : ℕ} {q : List α} {s s' : σ}
    (h : run visit fuel q s = some (.finished s')) : Reaches visit q s [] s' := by
  induction fuel generalizing q s with
  | zero =>
    cases q with
    | nil =>
      simp only [run, Option.some.injEq, Ending.finished.injEq] at h
      exact h ▸ .start
    | cons a q => simp [run] at h
  | succ fuel ih =>
    cases q with
    | nil =>
      simp only [run, Option.some.injEq, Ending.finished.injEq] at h
      exact h ▸ .start
    | cons a q =>
      cases hv : visit s a with
      | settle s'' => exact (Reaches.start.settle hv).trans (ih (run_succ_settle hv ▸ h))
      | defer => exact (Reaches.start.defer hv).trans (ih (run_succ_defer hv ▸ h))
      | abort e s'' => simp [run_succ_abort hv] at h

theorem reaches_of_aborted {fuel : ℕ} {q : List α} {s s' : σ} {e : ε}
    (h : run visit fuel q s = some (.aborted e s')) :
    ∃ a q' s'', Reaches visit q s (a :: q') s'' ∧ visit s'' a = .abort e s' := by
  induction fuel generalizing q s with
  | zero => cases q <;> simp [run] at h
  | succ fuel ih =>
    cases q with
    | nil => simp [run] at h
    | cons a q =>
      cases hv : visit s a with
      | settle s'' =>
        obtain ⟨b, q', s₁, hreach, habort⟩ := ih (run_succ_settle hv ▸ h)
        exact ⟨b, q', s₁, (Reaches.start.settle hv).trans hreach, habort⟩
      | defer =>
        obtain ⟨b, q', s₁, hreach, habort⟩ := ih (run_succ_defer hv ▸ h)
        exact ⟨b, q', s₁, (Reaches.start.defer hv).trans hreach, habort⟩
      | abort e' s'' =>
        rw [run_succ_abort hv] at h
        cases h
        exact ⟨a, q, s, .start, hv⟩

/-- The invariant rule for a loop that has ended, where the visit that aborts it
preserves the invariant as well. -/
theorem invariant_of_run {I : List α → σ → Prop} {fuel : ℕ} {q : List α} {s : σ}
    {ending : Ending σ ε} (h : run visit fuel q s = some ending) (h₀ : I q s)
    (hvisit : ∀ a q s s', I (a :: q) s →
      (visit s a = .settle s' ∨ ∃ e, visit s a = .abort e s') → I q s')
    (hdefer : ∀ a q s, I (a :: q) s → visit s a = .defer → I (q ++ [a]) s) :
    ∃ q', I q' ending.state := by
  have hsettle : ∀ a q s s', I (a :: q) s → visit s a = .settle s' → I q s' :=
    fun a q s s' hI hv => hvisit a q s s' hI (.inl hv)
  cases ending with
  | finished s' => exact ⟨[], (reaches_of_finished h).invariant h₀ hsettle hdefer⟩
  | aborted e s' =>
    obtain ⟨a, q', s'', hreach, habort⟩ := reaches_of_aborted h
    exact ⟨q', hvisit a q' s'' s' (hreach.invariant h₀ hsettle hdefer) (.inr ⟨e, habort⟩)⟩

variable (visit) in
/-- One pass over the items not yet looked at: the loop ends, or it settles one
of them, or all of them are deferred as the ones behind them were. -/
theorem pass (todo seen : List α) (s : σ) (hseen : ∀ a ∈ seen, visit s a = .defer) :
    (∃ fuel r, run visit fuel (todo ++ seen) s = some r) ∨
      (∃ q s', Reaches visit (todo ++ seen) s q s' ∧ q.length < (todo ++ seen).length) ∨
      Deadlocked visit (seen ++ todo) s := by
  induction todo generalizing seen with
  | nil =>
    by_cases hne : seen = []
    · subst hne
      exact .inl ⟨0, .finished s, rfl⟩
    · exact .inr (.inr ⟨by simpa using hne, by simpa using hseen⟩)
  | cons a todo ih =>
    cases hv : visit s a with
    | settle s' =>
      exact .inr (.inl ⟨todo ++ seen, s', Reaches.start.settle hv, by simp⟩)
    | abort e s' => exact .inl ⟨1, .aborted e s', run_succ_abort hv⟩
    | defer =>
      have hseen' : ∀ b ∈ seen ++ [a], visit s b = .defer := by
        intro b hb
        rcases List.mem_append.mp hb with hb | hb
        · exact hseen b hb
        · exact List.mem_singleton.mp hb ▸ hv
      have hfirst : Reaches visit (a :: (todo ++ seen)) s (a :: (todo ++ seen)) s := .start
      have hnext : Reaches visit (a :: todo ++ seen) s (todo ++ (seen ++ [a])) s := by
        simpa using hfirst.defer hv
      rcases ih (seen ++ [a]) hseen' with ⟨fuel, r, hr⟩ | ⟨q, s', hq, hlen⟩ | hdead
      · obtain ⟨fuel', hr'⟩ := hnext.run_eq hr
        exact .inl ⟨fuel', r, hr'⟩
      · have hlen' : (todo ++ (seen ++ [a])).length = (a :: todo ++ seen).length := by
          simp only [List.length_append, List.length_cons, List.length_nil]
          omega
        exact .inr (.inl ⟨q, s', hnext.trans hq, hlen' ▸ hlen⟩)
      · exact .inr (.inr (by simpa using hdead))

theorem ends_of_never_deadlocked {q : List α} {s : σ}
    (h : ∀ q' s', Reaches visit q s q' s' → ¬ Deadlocked visit q' s') :
    ∃ fuel r, run visit fuel q s = some r := by
  generalize hn : q.length = n
  induction n using Nat.strongRecOn generalizing q s with
  | ind n ih =>
    have hpass := pass visit q [] s (by simp)
    simp only [List.append_nil, List.nil_append] at hpass
    rcases hpass with hend | ⟨q', s', hreach, hlen⟩ | hdead
    · exact hend
    · obtain ⟨fuel, r, hr⟩ :=
        ih q'.length (hn ▸ hlen) (fun q'' s'' h' => h q'' s'' (hreach.trans h')) rfl
      obtain ⟨fuel', hr'⟩ := hreach.run_eq hr
      exact ⟨fuel', r, hr'⟩
    · exact absurd hdead (h q s .start)

/-- A loop never ends while an invariant of its visits keeps work in the queue. -/
theorem never_ends_of_invariant {I : List α → σ → Prop}
    (hstep : ∀ a q s, I (a :: q) s →
      (∃ s', visit s a = .settle s' ∧ I q s') ∨ (visit s a = .defer ∧ I (q ++ [a]) s))
    (hwork : ∀ s, ¬ I [] s) {q : List α} {s : σ} (h : I q s) (fuel : ℕ) :
    run visit fuel q s = none := by
  induction fuel generalizing q s with
  | zero =>
    cases q with
    | nil => exact absurd h (hwork s)
    | cons a q => rfl
  | succ fuel ih =>
    cases q with
    | nil => exact absurd h (hwork s)
    | cons a q =>
      rcases hstep a q s h with ⟨s', hv, hI⟩ | ⟨hv, hI⟩
      · rw [run_succ_settle hv, ih hI]
      · rw [run_succ_defer hv, ih hI]

theorem never_ends_of_deadlocked {q : List α} {s : σ} (h : Deadlocked visit q s) (fuel : ℕ) :
    run visit fuel q s = none := by
  refine never_ends_of_invariant (I := fun q' s' => s' = s ∧ Deadlocked visit q' s') ?_ ?_
    ⟨rfl, h⟩ fuel
  · rintro a q' s' ⟨rfl, hne, hall⟩
    refine .inr ⟨hall a (by simp), rfl, by simp, ?_⟩
    intro b hb
    exact hall b (by simpa [or_comm] using hb)
  · rintro s' ⟨_, hne, _⟩
    exact hne rfl

end RotatingQueue
