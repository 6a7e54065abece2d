import Bartender.Library.Dependencies
import Bartender.Library.RotatingQueue
import Mathlib.Order.Fin.Basic

/-!
# Timetables of a rotating queue

Items that wait for each other by name are visited pass after pass, in the order
of a list. A timetable says in which pass each item is settled, and how, so that
at each of its turns the item finds the names that were settled before. The loop
ends exactly when there is a timetable, and then it takes no more passes than
there are items.
-/

namespace Dependencies

open RotatingQueue

variable {α κ : Type*}

structure Names (κ : Type*) where
  failed : κ → Prop
  up : κ → Prop

def Names.settle (names : Names κ) (name : κ) (comesUp : Bool) : Names κ where
  failed r := names.failed r ∨ comesUp = false ∧ name = r
  up r := names.up r ∨ comesUp = true ∧ name = r

namespace Problem

variable (P : Problem α κ) (names : Names κ)

def initialNames : Names κ := ⟨P.failed, P.running⟩

def Passes (r : κ) : Prop := P.known r ∧ ¬ names.failed r ∧ names.up r

def StopsAt (a : α) (kind : κ → Prop) : Prop :=
  ∃ pre r post, P.requires a = pre ++ r :: post ∧ (∀ x ∈ pre, P.Passes names x) ∧ kind r

/-- The item is settled: it comes up when the scan passes over all of its
requirements, and fails when it stops at a missing or a failed one. -/
def Settles (a : α) : Bool → Prop
  | true => ∀ r ∈ P.requires a, P.Passes names r
  | false => P.StopsAt names a fun r => ¬ P.known r ∨ names.failed r

def Waits (a : α) : Prop :=
  P.StopsAt names a fun r => P.known r ∧ ¬ names.failed r ∧ ¬ names.up r

variable {P names} {a : α}

theorem StopsAt.and {kind kind' : κ → Prop} (h : P.StopsAt names a kind)
    (h' : P.StopsAt names a kind') (hkind : ∀ r, kind r → ¬ P.Passes names r)
    (hkind' : ∀ r, kind' r → ¬ P.Passes names r) : ∃ r, kind r ∧ kind' r := by
  obtain ⟨pre, r, post, hreq, hpre, hr⟩ := h
  obtain ⟨pre', r', post', hreq', hpre', hr'⟩ := h'
  rcases List.append_eq_append_iff.mp (hreq.symm.trans hreq') with
    ⟨mid, rfl, hmid⟩ | ⟨mid, rfl, hmid⟩
  · cases mid with
    | nil =>
      obtain ⟨rfl, -⟩ := List.cons.inj hmid
      exact ⟨r, hr, hr'⟩
    | cons x mid =>
      obtain ⟨rfl, -⟩ := List.cons.inj hmid
      exact absurd (hpre' r (by simp)) (hkind r hr)
  · cases mid with
    | nil =>
      obtain ⟨rfl, -⟩ := List.cons.inj hmid
      exact ⟨r', hr, hr'⟩
    | cons x mid =>
      obtain ⟨rfl, -⟩ := List.cons.inj hmid
      exact absurd (hpre r' (by simp)) (hkind' r' hr')

theorem StopsAt.not_settles_true {kind : κ → Prop} (h : P.StopsAt names a kind)
    (hkind : ∀ r, kind r → ¬ P.Passes names r) : ¬ P.Settles names a true := by
  obtain ⟨pre, r, post, hreq, -, hr⟩ := h
  intro hall
  exact hkind r hr (hall r (by simp [hreq]))

theorem not_passes_of_bad (r : κ) (h : ¬ P.known r ∨ names.failed r) : ¬ P.Passes names r :=
  fun hpasses => h.elim (· hpasses.1) hpasses.2.1

theorem not_passes_of_pending (r : κ) (h : P.known r ∧ ¬ names.failed r ∧ ¬ names.up r) :
    ¬ P.Passes names r := fun hpasses => h.2.2 hpasses.2.2

theorem Settles.not_waits {comesUp : Bool} (h : P.Settles names a comesUp) :
    ¬ P.Waits names a := by
  intro hwaits
  cases comesUp with
  | true => exact StopsAt.not_settles_true hwaits not_passes_of_pending h
  | false =>
    obtain ⟨r, hbad, hknown, hfailed, -⟩ :=
      StopsAt.and h hwaits not_passes_of_bad not_passes_of_pending
    exact hbad.elim (· hknown) hfailed

theorem Settles.unique {comesUp comesUp' : Bool} (h : P.Settles names a comesUp)
    (h' : P.Settles names a comesUp') : comesUp = comesUp' := by
  cases comesUp <;> cases comesUp'
  · rfl
  · exact absurd h' (StopsAt.not_settles_true h not_passes_of_bad)
  · exact absurd h (StopsAt.not_settles_true h' not_passes_of_bad)
  · rfl

end Problem

/-- What a visit makes of the names: an item is settled at its turn, or waits. -/
def Follows {σ ε β : Type*} (P : Problem α κ) (item : β → α) (names : σ → Names κ)
    (visit : σ → β → Verdict σ ε) : Prop :=
  ∀ s i,
    (∃ comesUp s', P.Settles (names s) (item i) comesUp ∧ visit s i = .settle s' ∧
      names s' = (names s).settle (P.name (item i)) comesUp) ∨
    P.Waits (names s) (item i) ∧ visit s i = .defer

structure Plan (ι : Type*) where
  pass : ι → ℕ
  comesUp : ι → Bool

section Plans

variable {ι : Type*} [LinearOrder ι] (P : Problem α κ) (item : ι → α)

def Plan.Before (plan : Plan ι) (k : ℕ) (i j : ι) : Prop :=
  plan.pass j < k ∨ plan.pass j = k ∧ j < i

/-- What an item finds at its turn in a pass, when the items of a queue keep to
the plan. -/
def Plan.namesAt (plan : Plan ι) (queue : List ι) (names : Names κ) (k : ℕ) (i : ι) :
    Names κ where
  failed r := names.failed r ∨
    ∃ j ∈ queue, plan.Before k i j ∧ plan.comesUp j = false ∧ P.name (item j) = r
  up r := names.up r ∨
    ∃ j ∈ queue, plan.Before k i j ∧ plan.comesUp j = true ∧ P.name (item j) = r

/-- From this pass on, the item waits at its turns until it is settled. -/
structure Plan.Keeps (plan : Plan ι) (queue : List ι) (names : Names κ) (k : ℕ) (i : ι) :
    Prop where
  due : k ≤ plan.pass i
  waits : ∀ l, k ≤ l → l < plan.pass i → P.Waits (plan.namesAt P item queue names l i) (item i)
  settles : P.Settles (plan.namesAt P item queue names (plan.pass i) i) (item i) (plan.comesUp i)

/-- In the middle of a pass: what is yet to be visited, and what was put back. -/
structure Plan.Serves (plan : Plan ι) (k : ℕ) (todo seen : List ι) (names : Names κ) : Prop where
  ahead : ∀ i ∈ todo, plan.Keeps P item (todo ++ seen) names k i
  behind : ∀ i ∈ seen, plan.Keeps P item (todo ++ seen) names (k + 1) i

/-- Every item of the list is given one of as many passes as there are items, and
keeps to it. -/
def HasTimetable (order : List α) : Prop :=
  ∃ plan : Plan (Fin order.length), (∀ i, plan.pass i < order.length) ∧
    ∀ i, plan.Keeps P order.get (List.finRange order.length) P.initialNames 0 i

variable {P item} {plan : Plan ι} {queue todo seen : List ι} {names : Names κ} {k : ℕ} {a i : ι}

namespace Plan

theorem namesAt_of_none (h : ∀ j ∈ queue, ¬ plan.Before k i j) :
    plan.namesAt P item queue names k i = names := by
  have hnone : ∀ (q : ι → Prop), ¬ ∃ j ∈ queue, plan.Before k i j ∧ q j :=
    fun q ⟨j, hj, hbefore, _⟩ => h j hj hbefore
  unfold namesAt
  simp [hnone]

theorem namesAt_congr {plan' : Plan ι} {queue' : List ι} (hqueue : ∀ j, j ∈ queue ↔ j ∈ queue')
    (hplan : ∀ j ∈ queue, plan.pass j = plan'.pass j ∧ plan.comesUp j = plan'.comesUp j) :
    plan.namesAt P item queue names k i = plan'.namesAt P item queue' names k i := by
  have hexists : ∀ (up : Bool) (r : κ),
      (∃ j ∈ queue, plan.Before k i j ∧ plan.comesUp j = up ∧ P.name (item j) = r) ↔
        ∃ j ∈ queue', plan'.Before k i j ∧ plan'.comesUp j = up ∧ P.name (item j) = r := by
    intro up r
    refine exists_congr fun j => ?_
    rw [← hqueue j]
    refine and_congr_right fun hj => ?_
    obtain ⟨hpass, hup⟩ := hplan j hj
    unfold Before
    rw [hpass, hup]
  unfold namesAt
  simp only [hexists]

theorem namesAt_cons (h : plan.Before k i a) :
    plan.namesAt P item (a :: queue) names k i =
      plan.namesAt P item queue (names.settle (P.name (item a)) (plan.comesUp a)) k i := by
  unfold namesAt Names.settle
  simp [h, or_assoc]

theorem Keeps.congr {plan' : Plan ι} {queue' : List ι} (h : plan.Keeps P item queue names k i)
    (hqueue : ∀ j, j ∈ queue ↔ j ∈ queue') (hi : i ∈ queue)
    (hplan : ∀ j ∈ queue, plan.pass j = plan'.pass j ∧ plan.comesUp j = plan'.comesUp j) :
    plan'.Keeps P item queue' names k i := by
  have hnames : ∀ l, plan.namesAt P item queue names l i =
      plan'.namesAt P item queue' names l i := fun l => namesAt_congr hqueue hplan
  obtain ⟨hpass, hup⟩ := hplan i hi
  refine ⟨hpass ▸ h.due, fun l hl hlt => ?_, ?_⟩
  · exact hnames l ▸ h.waits l hl (hpass ▸ hlt)
  · exact hnames _ ▸ hpass ▸ hup ▸ h.settles

theorem keeps_cons_iff (hbefore : ∀ l, k ≤ l → plan.Before l i a) :
    plan.Keeps P item (a :: queue) names k i ↔
      plan.Keeps P item queue (names.settle (P.name (item a)) (plan.comesUp a)) k i := by
  have hnames : ∀ l, k ≤ l → plan.namesAt P item (a :: queue) names l i =
      plan.namesAt P item queue (names.settle (P.name (item a)) (plan.comesUp a)) l i :=
    fun l hl => namesAt_cons (hbefore l hl)
  constructor
  · rintro ⟨hdue, hwaits, hsettles⟩
    refine ⟨hdue, fun l hl hlt => ?_, ?_⟩
    · exact hnames l hl ▸ hwaits l hl hlt
    · exact hnames _ hdue ▸ hsettles
  · rintro ⟨hdue, hwaits, hsettles⟩
    refine ⟨hdue, fun l hl hlt => ?_, ?_⟩
    · exact (hnames l hl).symm ▸ hwaits l hl hlt
    · exact (hnames _ hdue).symm ▸ hsettles

theorem serves_nil_iff : plan.Serves P item k [] seen names ↔
    plan.Serves P item (k + 1) seen [] names := by
  constructor
  · rintro ⟨-, hseen⟩
    exact ⟨by simpa using hseen, by simp⟩
  · rintro ⟨htodo, -⟩
    exact ⟨by simp, by simpa using htodo⟩

theorem namesAt_head (hfirst : ∀ j ∈ todo, a < j) (hhead : k ≤ plan.pass a)
    (hahead : ∀ j ∈ todo, k ≤ plan.pass j) (hbehind : ∀ j ∈ seen, k + 1 ≤ plan.pass j) :
    plan.namesAt P item (a :: todo ++ seen) names k a = names := by
  refine namesAt_of_none fun j hj hbefore => ?_
  rcases List.mem_append.mp hj with hj | hj
  · rcases List.mem_cons.mp hj with rfl | hj
    · rcases hbefore with hlt | ⟨-, hlt⟩
      · exact absurd hhead hlt.not_ge
      · exact lt_irrefl _ hlt
    · rcases hbefore with hlt | ⟨-, hlt⟩
      · exact absurd (hahead j hj) hlt.not_ge
      · exact lt_asymm hlt (hfirst j hj)
  · have hdue := hbehind j hj
    rcases hbefore with hlt | ⟨heq, -⟩ <;> omega

theorem Serves.namesAt_head (h : plan.Serves P item k (a :: todo) seen names)
    (hfirst : ∀ j ∈ todo, a < j) :
    plan.namesAt P item (a :: todo ++ seen) names k a = names :=
  Plan.namesAt_head hfirst (h.ahead a List.mem_cons_self).due
    (fun j hj => (h.ahead j (List.mem_cons_of_mem _ hj)).due) fun j hj => (h.behind j hj).due

/-- The head is settled at this turn, and the plan goes on without it. -/
theorem serves_cons_settled_iff (hfirst : ∀ j ∈ todo, a < j) (hpass : plan.pass a = k) :
    plan.Serves P item k (a :: todo) seen names ↔
      P.Settles names (item a) (plan.comesUp a) ∧
        plan.Serves P item k todo seen (names.settle (P.name (item a)) (plan.comesUp a)) := by
  have hahead : ∀ i ∈ todo, ∀ l, k ≤ l → plan.Before l i a := by
    intro i hi l hl
    rcases hl.lt_or_eq with hlt | rfl
    · exact .inl (hpass.trans_lt hlt)
    · exact .inr ⟨hpass, hfirst i hi⟩
  have hbehind : ∀ i, ∀ l, k + 1 ≤ l → plan.Before l i a := fun _ l hl =>
    .inl (hpass.trans_lt hl)
  constructor
  · intro h
    refine ⟨?_, fun i hi => ?_, fun i hi => ?_⟩
    · have hsettles := (h.ahead a List.mem_cons_self).settles
      rwa [hpass, h.namesAt_head hfirst] at hsettles
    · exact (keeps_cons_iff (hahead i hi)).mp (h.ahead i (List.mem_cons_of_mem _ hi))
    · exact (keeps_cons_iff (hbehind i)).mp (h.behind i hi)
  · rintro ⟨hsettles, h⟩
    have hothers : ∀ i ∈ todo, plan.Keeps P item (a :: (todo ++ seen)) names k i := fun i hi =>
      (keeps_cons_iff (hahead i hi)).mpr (h.ahead i hi)
    have hput : ∀ i ∈ seen, plan.Keeps P item (a :: (todo ++ seen)) names (k + 1) i := fun i hi =>
      (keeps_cons_iff (hbehind i)).mpr (h.behind i hi)
    have hnames : plan.namesAt P item (a :: todo ++ seen) names k a = names :=
      namesAt_head hfirst hpass.ge (fun i hi => (hothers i hi).due) fun i hi => (hput i hi).due
    refine ⟨List.forall_mem_cons.mpr ⟨⟨hpass.ge, fun l hl hlt => ?_, ?_⟩, hothers⟩, hput⟩
    · omega
    · rwa [hpass, hnames]

/-- The head waits at this turn and is put back. -/
theorem serves_cons_waiting_iff (hfirst : ∀ j ∈ todo, a < j) (hpass : k < plan.pass a) :
    plan.Serves P item k (a :: todo) seen names ↔
      P.Waits names (item a) ∧ plan.Serves P item k todo (seen ++ [a]) names := by
  have hqueue : ∀ j, j ∈ a :: todo ++ seen ↔ j ∈ todo ++ (seen ++ [a]) := by
    intro j
    simp only [List.cons_append, List.mem_cons, List.mem_append, List.not_mem_nil, or_false]
    tauto
  have hsame : ∀ queue : List ι, ∀ j ∈ queue,
      plan.pass j = plan.pass j ∧ plan.comesUp j = plan.comesUp j := fun _ _ _ => ⟨rfl, rfl⟩
  constructor
  · intro h
    have hhead := h.ahead a List.mem_cons_self
    refine ⟨?_, fun i hi => ?_, fun i hi => ?_⟩
    · have hwaits := hhead.waits k le_rfl hpass
      rwa [h.namesAt_head hfirst] at hwaits
    · exact (h.ahead i (List.mem_cons_of_mem _ hi)).congr hqueue
        (List.mem_append_left _ (List.mem_cons_of_mem _ hi)) (hsame _)
    · rcases List.mem_append.mp hi with hi | hi
      · exact (h.behind i hi).congr hqueue (List.mem_append_right _ hi) (hsame _)
      · obtain rfl := List.mem_singleton.mp hi
        refine Keeps.congr ⟨hpass, fun l hl hlt => ?_, hhead.settles⟩ hqueue
          (List.mem_append_left _ List.mem_cons_self) (hsame _)
        exact hhead.waits l (Nat.le_of_succ_le hl) hlt
  · rintro ⟨hwaits, h⟩
    have hothers : ∀ i ∈ todo, plan.Keeps P item (a :: todo ++ seen) names k i := fun i hi =>
      (h.ahead i hi).congr (fun j => (hqueue j).symm) (List.mem_append_left _ hi) (hsame _)
    have hput : ∀ i ∈ seen ++ [a], plan.Keeps P item (a :: todo ++ seen) names (k + 1) i :=
      fun i hi => (h.behind i hi).congr (fun j => (hqueue j).symm) (List.mem_append_right _ hi)
        (hsame _)
    have hhead := hput a (List.mem_append_right _ (List.mem_singleton_self a))
    have hnames : plan.namesAt P item (a :: todo ++ seen) names k a = names :=
      namesAt_head hfirst hpass.le (fun i hi => (hothers i hi).due)
        fun i hi => (hput i (List.mem_append_left _ hi)).due
    refine ⟨List.forall_mem_cons.mpr ⟨⟨hpass.le, fun l hl hlt => ?_, hhead.settles⟩, hothers⟩,
      fun i hi => hput i (List.mem_append_left _ hi)⟩
    rcases hl.lt_or_eq with hl | rfl
    · exact hhead.waits l hl hlt
    · rwa [hnames]

end Plan

theorem Plan.Serves.congr {plan' : Plan ι} (h : plan.Serves P item k todo seen names)
    (hplan : ∀ j ∈ todo ++ seen, plan.pass j = plan'.pass j ∧ plan.comesUp j = plan'.comesUp j) :
    plan'.Serves P item k todo seen names where
  ahead i hi := (h.ahead i hi).congr (fun _ => Iff.rfl) (List.mem_append_left _ hi) hplan
  behind i hi := (h.behind i hi).congr (fun _ => Iff.rfl) (List.mem_append_right _ hi) hplan

def Plan.put (plan : Plan ι) (a : ι) (k : ℕ) (comesUp : Bool) : Plan ι where
  pass := Function.update plan.pass a k
  comesUp := Function.update plan.comesUp a comesUp

section Put

variable {comesUp : Bool} {j : ι}

@[simp]
theorem Plan.pass_put_self : (plan.put a k comesUp).pass a = k := Function.update_self ..

@[simp]
theorem Plan.comesUp_put_self : (plan.put a k comesUp).comesUp a = comesUp :=
  Function.update_self ..

theorem Plan.pass_put_of_ne (h : j ≠ a) : (plan.put a k comesUp).pass j = plan.pass j :=
  Function.update_of_ne h ..

theorem Plan.comesUp_put_of_ne (h : j ≠ a) : (plan.put a k comesUp).comesUp j = plan.comesUp j :=
  Function.update_of_ne h ..

theorem Plan.pass_put_lt {queue : List ι} {n : ℕ} (hk : k < n)
    (hqueue : ∀ i ∈ queue, plan.pass i < n) :
    ∀ i ∈ a :: queue, (plan.put a k comesUp).pass i < n := by
  intro i hi
  by_cases heq : i = a
  · rw [heq, pass_put_self]
    exact hk
  · rw [pass_put_of_ne heq]
    exact hqueue i (List.mem_of_ne_of_mem heq hi)

end Put

variable {σ ε : Type*}

/-- In the order of the list: what was put back comes before what is yet to be visited. -/
def Sorted (todo seen : List ι) : Prop := (seen ++ todo).Pairwise (· < ·)

section Loop

variable {namesOf : σ → Names κ} {visit : σ → ι → Verdict σ ε} {s s' : σ}

theorem Sorted.first (h : Sorted (a :: todo) seen) : ∀ j ∈ todo, a < j :=
  fun _ hj => List.rel_of_pairwise_cons (List.pairwise_append.mp h).2.1 hj

theorem Sorted.tail (h : Sorted (a :: todo) seen) : Sorted todo seen :=
  h.sublist ((List.sublist_cons_self a todo).append_left seen)

theorem Sorted.put (h : Sorted (a :: todo) seen) : Sorted todo (seen ++ [a]) := by
  unfold Sorted at h ⊢
  rwa [List.append_assoc]

theorem Sorted.not_mem (h : Sorted (a :: todo) seen) : a ∉ todo ++ seen := by
  intro hmem
  rcases List.mem_append.mp hmem with hmem | hmem
  · exact lt_irrefl a (h.first a hmem)
  · exact lt_irrefl a ((List.pairwise_append.mp h).2.2 a hmem a List.mem_cons_self)

theorem Sorted.next (h : Sorted [] seen) : Sorted seen [] := by
  unfold Sorted at h ⊢
  rwa [List.append_nil] at h

/-- A plan for what is left serves with the head put before it, to be settled at this turn. -/
theorem Plan.Serves.put {comesUp : Bool} (hsorted : Sorted (a :: todo) seen)
    (hsettles : P.Settles names (item a) comesUp)
    (h : plan.Serves P item k todo seen (names.settle (P.name (item a)) comesUp)) :
    (plan.put a k comesUp).Serves P item k (a :: todo) seen names := by
  have hne : ∀ j ∈ todo ++ seen, j ≠ a := fun j hj heq => hsorted.not_mem (heq ▸ hj)
  refine (serves_cons_settled_iff hsorted.first pass_put_self).mpr ⟨?_, ?_⟩
  · rwa [comesUp_put_self]
  · rw [comesUp_put_self]
    exact h.congr fun j hj =>
      ⟨(pass_put_of_ne (hne j hj)).symm, (comesUp_put_of_ne (hne j hj)).symm⟩

/-- A loop whose items keep to a plan comes to its end. -/
theorem Plan.Serves.ends (hvisit : Follows P item namesOf visit) (left : ℕ)
    (hbound : ∀ i ∈ todo ++ seen, plan.pass i < k + left) (hsorted : Sorted todo seen)
    (h : plan.Serves P item k todo seen (namesOf s)) :
    ∃ fuel s', run visit fuel (todo ++ seen) s = some (.finished s') := by
  induction left generalizing k todo seen s with
  | zero =>
    have hempty : todo ++ seen = [] := by
      rw [List.eq_nil_iff_forall_not_mem]
      intro i hi
      have hlt := hbound i hi
      rcases List.mem_append.mp hi with hmem | hmem
      · have := (h.ahead i hmem).due
        omega
      · have := (h.behind i hmem).due
        omega
    exact ⟨0, s, by rw [hempty]; rfl⟩
  | succ left ih =>
    induction todo generalizing seen s with
    | nil =>
      have hnext : ∃ fuel s', run visit fuel (seen ++ []) s = some (.finished s') := by
        refine ih (fun i hi => ?_) hsorted.next (serves_nil_iff.mp h)
        have := hbound i (by simpa using hi)
        omega
      simpa using hnext
    | cons a todo ihtodo =>
      have hbound' : ∀ i ∈ todo ++ seen, plan.pass i < k + (left + 1) :=
        fun i hi => hbound i (List.mem_cons_of_mem _ hi)
      rcases (h.ahead a List.mem_cons_self).due.eq_or_lt with hpass | hpass
      · obtain ⟨hsettles, hrest⟩ := (serves_cons_settled_iff hsorted.first hpass.symm).mp h
        rcases hvisit s a with ⟨comesUp, s', hsettles', hv, hnames⟩ | ⟨hwaits, -⟩
        · obtain rfl := hsettles.unique hsettles'
          obtain ⟨fuel, s'', hend⟩ := ihtodo hbound' hsorted.tail (hnames ▸ hrest)
          exact ⟨fuel + 1, s'', by rw [List.cons_append, run_succ_settle hv, hend]⟩
        · exact absurd hwaits hsettles.not_waits
      · obtain ⟨hwaits, hrest⟩ := (serves_cons_waiting_iff hsorted.first hpass).mp h
        rcases hvisit s a with ⟨comesUp, s', hsettles, -⟩ | ⟨-, hv⟩
        · exact absurd hwaits hsettles.not_waits
        · have hlater : ∀ i ∈ todo ++ (seen ++ [a]), plan.pass i < k + (left + 1) := by
            intro i hi
            refine hbound i ?_
            simp only [List.mem_append, List.mem_cons, List.not_mem_nil, or_false] at hi ⊢
            tauto
          obtain ⟨fuel, s'', hend⟩ := ihtodo hlater hsorted.put hrest
          refine ⟨fuel + 1, s'', ?_⟩
          rw [List.cons_append, run_succ_defer hv, List.append_assoc, hend]

/-- A loop that ends has kept to a plan. If the items that were put back in this
pass would wait again, and nothing was settled in it, the plan needs no more passes
than there are items, and otherwise one more. -/
theorem exists_serves (hvisit : Follows P item namesOf visit) (k : ℕ) (settled : Bool) {fuel : ℕ}
    (hend : run visit fuel (todo ++ seen) s = some (.finished s')) (hsorted : Sorted todo seen)
    (hput : settled = false → ∀ i ∈ seen, visit s i = .defer) :
    ∃ plan : Plan ι, plan.Serves P item k todo seen (namesOf s) ∧
      ∀ i ∈ todo ++ seen, plan.pass i < k + (todo ++ seen).length + settled.toNat := by
  induction fuel generalizing k todo seen s settled with
  | zero =>
    have hempty : todo ++ seen = [] := by
      cases hqueue : todo ++ seen with
      | nil => rfl
      | cons i queue => simp [hqueue, run] at hend
    obtain ⟨rfl, rfl⟩ := List.append_eq_nil_iff.mp hempty
    exact ⟨⟨fun _ => 0, fun _ => true⟩, ⟨by simp, by simp⟩, by simp⟩
  | succ fuel ih =>
    have hcons : ∀ (k : ℕ) (settled : Bool) {a : ι} {todo seen : List ι},
        run visit (fuel + 1) (a :: todo ++ seen) s = some (.finished s') →
        Sorted (a :: todo) seen → (settled = false → ∀ i ∈ seen, visit s i = .defer) →
        ∃ plan : Plan ι, plan.Serves P item k (a :: todo) seen (namesOf s) ∧
          ∀ i ∈ a :: todo ++ seen,
            plan.pass i < k + (a :: todo ++ seen).length + settled.toNat := by
      intro k settled a todo seen hend hsorted hput
      rw [List.cons_append] at hend
      rcases hvisit s a with ⟨comesUp, s₁, hsettles, hv, hnames⟩ | ⟨hwaits, hv⟩
      · rw [run_succ_settle hv] at hend
        obtain ⟨plan, hserves, hbound⟩ := ih k true hend hsorted.tail
          fun hnone => Bool.noConfusion hnone
        refine ⟨plan.put a k comesUp, (hnames ▸ hserves).put hsorted hsettles,
          Plan.pass_put_lt ?_ fun i hi => ?_⟩
        · rw [List.cons_append, List.length_cons]
          omega
        · have := hbound i hi
          rw [List.cons_append, List.length_cons]
          simp only [Bool.toNat_true] at this
          omega
      · rw [run_succ_defer hv, List.append_assoc] at hend
        obtain ⟨plan, hserves, hbound⟩ := ih k settled hend hsorted.put
          fun hnone i hi => by
            rcases List.mem_append.mp hi with hi | hi
            · exact hput hnone i hi
            · exact List.mem_singleton.mp hi ▸ hv
        have hdue := (hserves.behind a (List.mem_append_right _ (List.mem_singleton_self a))).due
        refine ⟨plan, (Plan.serves_cons_waiting_iff hsorted.first hdue).mpr ⟨hwaits, hserves⟩,
          fun i hi => ?_⟩
        have hlt := hbound i (by
          simp only [List.cons_append, List.mem_cons, List.mem_append, List.not_mem_nil,
            or_false] at hi ⊢
          tauto)
        simp only [List.length_append, List.length_cons, List.length_nil] at hlt ⊢
        omega
    cases todo with
    | cons a todo => exact hcons k settled hend hsorted hput
    | nil =>
      cases seen with
      | nil => exact ⟨⟨fun _ => 0, fun _ => true⟩, ⟨by simp, by simp⟩, by simp⟩
      | cons a seen =>
        -- the next pass begins
        cases settled with
        | false =>
          have hdead : Deadlocked visit (a :: seen) s := ⟨by simp, hput rfl⟩
          rw [List.nil_append, never_ends_of_deadlocked hdead] at hend
          cases hend
        | true =>
          obtain ⟨plan, hserves, hbound⟩ :=
            hcons (k + 1) false (by simpa using hend) hsorted.next fun _ => by simp
          refine ⟨plan, Plan.serves_nil_iff.mpr hserves, fun i hi => ?_⟩
          have hlt := hbound i (by simpa using hi)
          simp only [List.append_nil, List.nil_append, Bool.toNat_false, Bool.toNat_true] at hlt ⊢
          omega

end Loop

end Plans

/-- The loop comes to its end on a list exactly if there is a timetable for it. -/
theorem ends_iff_hasTimetable {σ ε : Type*} {P : Problem α κ} {namesOf : σ → Names κ}
    {visit : σ → α → Verdict σ ε} (hvisit : Follows P id namesOf visit) (order : List α) {s : σ}
    (hnames : namesOf s = P.initialNames) :
    (∃ fuel s', run visit fuel order s = some (.finished s')) ↔ HasTimetable P order := by
  have hitems : Follows P order.get namesOf fun s i => visit s (order.get i) :=
    fun s i => hvisit s (order.get i)
  have hrun : ∀ fuel, run (fun s i => visit s (order.get i)) fuel (List.finRange order.length) s =
      run visit fuel order s := by
    intro fuel
    rw [← run_comap, List.map_get_finRange]
  have hqueue : List.finRange order.length ++ [] = List.finRange order.length := List.append_nil _
  have hsorted : Sorted (List.finRange order.length) [] := List.pairwise_lt_finRange _
  constructor
  · rintro ⟨fuel, s', hend⟩
    rw [← hrun, ← hqueue] at hend
    obtain ⟨plan, hserves, hbound⟩ :=
      exists_serves hitems 0 false hend hsorted fun _ => by simp
    refine ⟨plan, fun i => ?_, fun i => ?_⟩
    · simpa using hbound i (by simp)
    · have hkeeps := hserves.ahead i (List.mem_finRange i)
      rwa [hqueue, hnames] at hkeeps
  · rintro ⟨plan, hbound, hkeeps⟩
    have hserves : plan.Serves P order.get 0 (List.finRange order.length) [] (namesOf s) := by
      refine ⟨fun i _ => ?_, by simp⟩
      rw [hqueue, hnames]
      exact hkeeps i
    obtain ⟨fuel, s', hend⟩ :=
      hserves.ends hitems order.length (fun i _ => by simpa using hbound i) hsorted
    rw [hqueue, hrun] at hend
    exact ⟨fuel, s', hend⟩

end Dependencies
