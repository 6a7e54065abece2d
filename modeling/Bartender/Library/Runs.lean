import Mathlib.Tactic.TypeStar

/-!
# Runs of operations

A state changes by operations, executed one after the other in any order. A
condition on operations restricts a run: each one has to meet it in the state
in which it is executed. Operations are functions where they always end, and
relations where they need not; the latter can be seen while they run.
-/

namespace Runs

variable {σ ι : Type*}

section Functions

variable (apply : ι → σ → σ)

def Throughout (P : σ → Prop) : List ι → σ → Prop
  | [], s => P s
  | op :: ops, s => P s ∧ Throughout P ops (apply op s)

instance Throughout.decidable {P : σ → Prop} [DecidablePred P] :
    (ops : List ι) → (s : σ) → Decidable (Throughout apply P ops s)
  | [], s => inferInstanceAs (Decidable (P s))
  | op :: ops, s =>
    have : Decidable (Throughout apply P ops (apply op s)) := Throughout.decidable ops _
    inferInstanceAs (Decidable (P s ∧ Throughout apply P ops (apply op s)))

/-- Every operation of the run meets the condition where it is executed. -/
def Meets (Condition : ι → σ → Prop) : List ι → σ → Prop
  | [], _ => True
  | op :: ops, s => Condition op s ∧ Meets Condition ops (apply op s)

instance Meets.decidable {Condition : ι → σ → Prop} [∀ op s, Decidable (Condition op s)] :
    (ops : List ι) → (s : σ) → Decidable (Meets apply Condition ops s)
  | [], _ => .isTrue trivial
  | op :: ops, s =>
    have : Decidable (Meets apply Condition ops (apply op s)) := Meets.decidable ops _
    inferInstanceAs (Decidable (Condition op s ∧ Meets apply Condition ops (apply op s)))

def final : List ι → σ → σ
  | [], s => s
  | op :: ops, s => final ops (apply op s)

variable {apply}

theorem Throughout.start {P : σ → Prop} {ops : List ι} {s : σ} (h : Throughout apply P ops s) :
    P s := by
  cases ops with
  | nil => exact h
  | cons op ops => exact h.1

theorem Throughout.imp {P Q : σ → Prop} (hPQ : ∀ s, P s → Q s) {ops : List ι} {s : σ}
    (h : Throughout apply P ops s) : Throughout apply Q ops s := by
  induction ops generalizing s with
  | nil => exact hPQ s h
  | cons op ops ih => exact ⟨hPQ s h.1, ih h.2⟩

theorem Throughout.final {P : σ → Prop} {ops : List ι} {s : σ} (h : Throughout apply P ops s) :
    P (final apply ops s) := by
  induction ops generalizing s with
  | nil => exact h
  | cons op ops ih => exact ih h.2

theorem Meets.and_throughout {Condition : ι → σ → Prop} {P : σ → Prop} {ops : List ι} {s : σ}
    (h : Meets apply Condition ops s) (hP : Throughout apply P ops s) :
    Meets apply (fun op s => Condition op s ∧ P s) ops s := by
  induction ops generalizing s with
  | nil => trivial
  | cons op ops ih => exact ⟨⟨h.1, hP.1⟩, ih h.2 hP.2⟩

theorem meets_of_throughout {P : σ → Prop} {Condition : ι → σ → Prop} {ops : List ι} {s : σ}
    (hP : Throughout apply P ops s) (h : ∀ op ∈ ops, ∀ s, P s → Condition op s) :
    Meets apply Condition ops s := by
  induction ops generalizing s with
  | nil => trivial
  | cons op ops ih =>
    rw [List.forall_mem_cons] at h
    exact ⟨h.1 s hP.1, ih hP.2 h.2⟩

theorem throughout_of_meets {I : σ → Prop} {Condition : ι → σ → Prop}
    (hstep : ∀ op s, I s → Condition op s → I (apply op s)) {s : σ} (h : I s) {ops : List ι}
    (hmeets : Meets apply Condition ops s) : Throughout apply I ops s := by
  induction ops generalizing s with
  | nil => exact h
  | cons op ops ih => exact ⟨h, ih (hstep op s h hmeets.1) hmeets.2⟩

theorem throughout_of_step {I : σ → Prop} (hstep : ∀ op s, I s → I (apply op s)) {s : σ} (h : I s)
    (ops : List ι) : Throughout apply I ops s := by
  induction ops generalizing s with
  | nil => exact h
  | cons op ops ih => exact ⟨h, ih (hstep op s h)⟩

theorem final_append (before after : List ι) (s : σ) :
    final apply (before ++ after) s = final apply after (final apply before s) := by
  induction before generalizing s with
  | nil => rfl
  | cons op ops ih => exact ih (apply op s)

/-- What an operation that fails the condition brings about, and nothing undoes,
is there at the end of every run that fails it. -/
theorem final_of_not_meets {I Q : σ → Prop} {Condition : ι → σ → Prop}
    (hstep : ∀ op s, I s → I (apply op s)) (hkept : ∀ op s, I s → Q s → Q (apply op s))
    (hfails : ∀ op s, I s → ¬ Condition op s → Q (apply op s)) {s : σ} (h : I s) {ops : List ι}
    (hnot : ¬ Meets apply Condition ops s) : Q (Runs.final apply ops s) := by
  have hstays : ∀ (ops : List ι) (s : σ), I s → Q s → Q (Runs.final apply ops s) := by
    intro ops
    induction ops with
    | nil => exact fun s _ hQ => hQ
    | cons op ops ih => exact fun s hI hQ => ih _ (hstep op s hI) (hkept op s hI hQ)
  induction ops generalizing s with
  | nil => exact absurd trivial hnot
  | cons op ops ih =>
    by_cases hcondition : Condition op s
    · exact ih (hstep op s h) fun hmeets => hnot ⟨hcondition, hmeets⟩
    · exact hstays ops _ (hstep op s h) (hfails op s h hcondition)

/-- A condition that is exact for one operation is exact for runs. An invariant
that every operation keeps may be used. -/
theorem throughout_iff_meets_of_invariant {I P : σ → Prop} {Condition : ι → σ → Prop}
    (hkeeps : ∀ op s, I s → I (apply op s))
    (hstep : ∀ op s, I s → P s → (P (apply op s) ↔ Condition op s)) {s : σ} (hI : I s) (h : P s)
    (ops : List ι) : Throughout apply P ops s ↔ Meets apply Condition ops s := by
  induction ops generalizing s with
  | nil => exact ⟨fun _ => trivial, fun _ => h⟩
  | cons op ops ih =>
    unfold Throughout Meets
    constructor
    · rintro ⟨-, hrest⟩
      exact ⟨(hstep op s hI h).mp hrest.start, (ih (hkeeps op s hI) hrest.start).mp hrest⟩
    · rintro ⟨hcondition, hrest⟩
      have hafter := (hstep op s hI h).mpr hcondition
      exact ⟨h, (ih (hkeeps op s hI) hafter).mpr hrest⟩

theorem throughout_iff_meets {P : σ → Prop} {Condition : ι → σ → Prop}
    (hstep : ∀ op s, P s → (P (apply op s) ↔ Condition op s)) {s : σ} (h : P s) (ops : List ι) :
    Throughout apply P ops s ↔ Meets apply Condition ops s :=
  throughout_iff_meets_of_invariant (I := fun _ => True) (fun _ _ _ => trivial)
    (fun op s _ hP => hstep op s hP) trivial h ops

end Functions

section Relations

variable (Ends Passes : ι → σ → σ → Prop) (Allowed : ι → σ → Prop) (s₀ : σ)

/-- The states between the operations of a run whose operations are all allowed
where they are executed. -/
inductive Reachable : σ → Prop
  | start : Reachable s₀
  | next {s s'} (op : ι) : Reachable s → Allowed op s → Ends op s s' → Reachable s'

/-- The states in which a run can be seen: between its operations and in the
middle of one. -/
inductive Seen : σ → Prop
  | between {s} : Reachable Ends Allowed s₀ s → Seen s
  | during {s s'} (op : ι) : Reachable Ends Allowed s₀ s → Allowed op s → Passes op s s' → Seen s'

variable {Ends Passes Allowed s₀} {I : σ → Prop} {s : σ}

theorem Reachable.invariant (h : Reachable Ends Allowed s₀ s) (h₀ : I s₀)
    (hends : ∀ op s s', I s → Allowed op s → Ends op s s' → I s') : I s := by
  induction h with
  | start => exact h₀
  | next op _ hallowed hnext ih => exact hends op _ _ ih hallowed hnext

theorem Seen.invariant (h : Seen Ends Passes Allowed s₀ s) (h₀ : I s₀)
    (hends : ∀ op s s', I s → Allowed op s → Ends op s s' → I s')
    (hpasses : ∀ op s s', I s → Allowed op s → Passes op s s' → I s') : I s := by
  cases h with
  | between hreach => exact hreach.invariant h₀ hends
  | during op hreach hallowed hduring =>
    exact hpasses op _ _ (hreach.invariant h₀ hends) hallowed hduring

end Relations

end Runs
