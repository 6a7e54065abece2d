import Mathlib.Data.List.Perm.Basic
import Mathlib.Data.Set.Finite.List
import Mathlib.Logic.Relation
import Mathlib.Order.WellFounded
import Mathlib.Tactic

/-!
# Items that wait for each other by name

Each item carries a name and an ordered list of required names. Several items
may share a name. Some names are known, some of them have failed and some are
running from the outset; the others come up when an item of that name starts.

An item can start when its requirements come up one after the other without
any failure; it is doomed when it cannot start and the scan of its requirements
gets as far as a failing one. An item that is neither waits for ever.
-/

namespace Dependencies

variable {α κ : Type*}

structure Problem (α κ : Type*) where
  items : List α
  name : α → κ
  requires : α → List κ
  known : κ → Prop
  failed : κ → Prop
  running : κ → Prop

variable (P : Problem α κ)

/-- The provider of a name is only consulted when the name is not running. -/
inductive CanStart : α → Prop
  | intro {a : α} (provider : κ → α)
      (sound : ∀ r ∈ P.requires a, P.known r ∧ ¬ P.failed r)
      (provides : ∀ r ∈ P.requires a, ¬ P.running r →
        provider r ∈ P.items ∧ P.name (provider r) = r)
      (starts : ∀ r ∈ P.requires a, ¬ P.running r → CanStart (provider r)) : CanStart a

def Up (r : κ) : Prop :=
  P.running r ∨ ∃ b ∈ P.items, P.name b = r ∧ CanStart P b

inductive Doomed : α → Prop
  | snapshot {a pre r post} : P.requires a = pre ++ r :: post → (∀ x ∈ pre, Up P x) →
      ¬ P.known r ∨ P.failed r → Doomed a
  | cascade {a b pre post} : P.requires a = pre ++ P.name b :: post → (∀ x ∈ pre, Up P x) →
      b ∈ P.items → Doomed b → ¬ CanStart P a → Doomed a

def Decided (a : α) : Prop := CanStart P a ∨ Doomed P a

/-- Failure as a least fixed point, whatever the order of the requirements. -/
inductive Fails : α → Prop
  | snapshot {a r} : r ∈ P.requires a → ¬ P.known r ∨ P.failed r → Fails a
  | cascade {a b} : P.name b ∈ P.requires a → b ∈ P.items → Fails b → Fails a

variable {P}

theorem canStart_iff {a : α} :
    CanStart P a ↔ ∀ r ∈ P.requires a, P.known r ∧ ¬ P.failed r ∧ Up P r := by
  constructor
  · rintro ⟨provider, sound, provides, starts⟩ r hr
    refine ⟨(sound r hr).1, (sound r hr).2, ?_⟩
    by_cases hrun : P.running r
    · exact .inl hrun
    · exact .inr ⟨provider r, (provides r hr hrun).1, (provides r hr hrun).2, starts r hr hrun⟩
  · intro h
    have hprov : ∀ r, ∃ b, r ∈ P.requires a → ¬ P.running r →
        b ∈ P.items ∧ P.name b = r ∧ CanStart P b := by
      intro r
      by_cases hr : r ∈ P.requires a
      · rcases (h r hr).2.2 with hrun | ⟨b, hb⟩
        · exact ⟨a, fun _ hnot => absurd hrun hnot⟩
        · exact ⟨b, fun _ _ => hb⟩
      · exact ⟨a, fun hr' => absurd hr' hr⟩
    choose provider hprovider using hprov
    exact .intro provider (fun r hr => ⟨(h r hr).1, (h r hr).2.1⟩)
      (fun r hr hrun => ⟨(hprovider r hr hrun).1, (hprovider r hr hrun).2.1⟩)
      (fun r hr hrun => (hprovider r hr hrun).2.2)

theorem Doomed.not_canStart {a : α} (h : Doomed P a) : ¬ CanStart P a := by
  intro hstart
  cases h with
  | @snapshot a pre r post hreq _ hbad =>
    obtain ⟨hknown, hfailed, _⟩ := canStart_iff.mp hstart r (by simp [hreq])
    exact hbad.elim (· hknown) hfailed
  | cascade _ _ _ _ hno => exact hno hstart

section StartOrder

variable (P)

/-- The items of `started` bring up everything that `a` waits for. -/
def Startable (started : List α) (a : α) : Prop :=
  ∀ r ∈ P.requires a,
    P.known r ∧ ¬ P.failed r ∧ (P.running r ∨ ∃ b ∈ started, P.name b = r)

def StartOrder (started : List α) : List α → Prop
  | [] => True
  | a :: rest => Startable P started a ∧ StartOrder (started ++ [a]) rest

variable {P}

theorem exists_startable {started rest : List α}
    (hall : ∀ b ∈ P.items, CanStart P b → b ∈ started ∨ b ∈ rest)
    {b : α} (hb : CanStart P b) (hrest : b ∈ rest) : ∃ a ∈ rest, Startable P started a := by
  induction hb with
  | @intro b provider sound provides starts ih =>
    by_cases hdone : ∀ r ∈ P.requires b, ¬ P.running r → provider r ∈ started
    · refine ⟨b, hrest, fun r hr => ⟨(sound r hr).1, (sound r hr).2, ?_⟩⟩
      by_cases hrun : P.running r
      · exact .inl hrun
      · exact .inr ⟨provider r, hdone r hr hrun, (provides r hr hrun).2⟩
    · push Not at hdone
      obtain ⟨r, hr, hrun, hnot⟩ := hdone
      exact ih r hr hrun ((hall _ (provides r hr hrun).1 (starts r hr hrun)).resolve_left hnot)

/-- The items that can start can be put in an order in which each is startable
when its turn comes. -/
theorem exists_startOrder (started rest : List α)
    (hall : ∀ b ∈ P.items, CanStart P b → b ∈ started ∨ b ∈ rest)
    (hstart : ∀ b ∈ rest, CanStart P b) :
    ∃ order, order.Perm rest ∧ StartOrder P started order := by
  classical
  generalize hn : rest.length = n
  induction n generalizing started rest with
  | zero => exact ⟨[], by simp [List.eq_nil_of_length_eq_zero hn], trivial⟩
  | succ n ih =>
    obtain ⟨b, hb⟩ : ∃ b, b ∈ rest := List.exists_mem_of_length_pos (by omega)
    obtain ⟨a, ha, hready⟩ := exists_startable hall (hstart b hb) hb
    have hlen : (rest.erase a).length = n := by rw [List.length_erase_of_mem ha, hn]; rfl
    have hall' : ∀ b ∈ P.items, CanStart P b → b ∈ started ++ [a] ∨ b ∈ rest.erase a := by
      intro b hb hc
      by_cases hba : b = a
      · simp [hba]
      · rcases hall b hb hc with h | h
        · simp [h]
        · exact .inr ((List.mem_erase_of_ne hba).mpr h)
    obtain ⟨order, hperm, horder⟩ := ih (started ++ [a]) (rest.erase a) hall'
      (fun b hb => hstart b (List.mem_of_mem_erase hb)) hlen
    exact ⟨a :: order, (hperm.cons a).trans (List.perm_cons_erase ha).symm, hready, horder⟩

end StartOrder

section Acyclic

variable (P)

def Uniform : Prop :=
  ∀ a ∈ P.items, ∀ b ∈ P.items, P.name a = P.name b → P.requires a = P.requires b

def NameRequires (x y : κ) : Prop :=
  (∃ a ∈ P.items, P.name a = x ∧ y ∈ P.requires a) ∧ ∃ b ∈ P.items, P.name b = y

def Acyclic : Prop := ∀ x, ¬ Relation.TransGen (NameRequires P) x x

def Closed : Prop :=
  ∀ a ∈ P.items, ∀ r ∈ P.requires a,
    ¬ P.known r ∨ P.running r ∨ P.failed r ∨ ∃ b ∈ P.items, P.name b = r

def Fresh : Prop := ∀ a ∈ P.items, ¬ P.running (P.name a)

variable {P}

/-- Over finitely many items an acyclic requirement relation is well founded. -/
theorem Acyclic.induction (hacyclic : Acyclic P) {motive : κ → Prop}
    (step : ∀ x, (∀ y, NameRequires P x y → motive y) → motive x) (x : κ) : motive x := by
  let names := {x : κ // x ∈ P.items.map P.name}
  have : Finite names := List.finite_toSet _
  let below : names → names → Prop := fun y x => Relation.TransGen (NameRequires P) x.1 y.1
  have : IsTrans names below := ⟨fun _ _ _ h h' => h'.trans h⟩
  have : Std.Irrefl below := ⟨fun x h => hacyclic x.1 h⟩
  have hwf : WellFounded below := Finite.wellFounded_of_trans_of_irrefl below
  have hmem : ∀ x : names, motive x.1 := by
    intro x
    induction x using hwf.induction with
    | _ x ih =>
      apply step
      intro y hy
      obtain ⟨b, hb, hname⟩ := hy.2
      exact ih ⟨y, List.mem_map.mpr ⟨b, hb, hname⟩⟩ (.single hy)
  apply step
  intro y hy
  obtain ⟨b, hb, hname⟩ := hy.2
  exact hmem ⟨y, List.mem_map.mpr ⟨b, hb, hname⟩⟩

theorem acyclic_of_rank (rank : κ → ℕ) (h : ∀ x y, NameRequires P x y → rank y < rank x) :
    Acyclic P := by
  have hfalls : ∀ x y, Relation.TransGen (NameRequires P) x y → rank y < rank x := by
    intro x y hxy
    induction hxy with
    | single hstep => exact h _ _ hstep
    | tail _ hstep ih => exact (h _ _ hstep).trans ih
  intro x hx
  exact lt_irrefl _ (hfalls x x hx)

theorem fails_congr {a b : α} (h : P.requires a = P.requires b) (ha : Fails P a) :
    Fails P b := by
  cases ha with
  | snapshot hr hbad => exact .snapshot (h ▸ hr) hbad
  | cascade hr hb hf => exact .cascade (h ▸ hr) hb hf

theorem exists_first_not {good : κ → Prop} {rs : List κ} (h : ¬ ∀ r ∈ rs, good r) :
    ∃ pre r post, rs = pre ++ r :: post ∧ (∀ x ∈ pre, good x) ∧ ¬ good r := by
  induction rs with
  | nil => simp at h
  | cons r rs ih =>
    by_cases hr : good r
    · obtain ⟨pre, r', post, rfl, hpre, hbad⟩ := ih (fun hall => h (by simpa [hr] using hall))
      exact ⟨r :: pre, r', post, rfl, by simpa [hr] using hpre, hbad⟩
    · exact ⟨[], r, rs, rfl, by simp, hr⟩

theorem decided_of_acyclic (hacyclic : Acyclic P) (hclosed : Closed P) :
    ∀ a ∈ P.items, Decided P a := by
  suffices h : ∀ x, ∀ a ∈ P.items, P.name a = x → Decided P a from
    fun a ha => h _ a ha rfl
  refine hacyclic.induction fun x ih a ha hname => ?_
  by_cases hgood : ∀ r ∈ P.requires a, P.known r ∧ ¬ P.failed r ∧ Up P r
  · exact .inl (canStart_iff.mpr hgood)
  · have hno : ¬ CanStart P a := fun h => hgood (canStart_iff.mp h)
    obtain ⟨pre, r, post, hreq, hpre, hbad⟩ := exists_first_not hgood
    have hup : ∀ x ∈ pre, Up P x := fun x hx => (hpre x hx).2.2
    have hr : r ∈ P.requires a := by simp [hreq]
    by_cases hsnap : ¬ P.known r ∨ P.failed r
    · exact .inr (.snapshot hreq hup hsnap)
    · push Not at hsnap
      have hnotup : ¬ Up P r := fun h => hbad ⟨hsnap.1, hsnap.2, h⟩
      -- `r` is neither missing, failed nor running, so an item of the list provides it
      obtain ⟨b, hb, rfl⟩ : ∃ b ∈ P.items, P.name b = r := by
        rcases hclosed a ha r hr with h | h | h | h
        · exact absurd hsnap.1 h
        · exact absurd (.inl h) hnotup
        · exact absurd h hsnap.2
        · exact h
      have hdoomed : Doomed P b :=
        (ih _ ⟨⟨a, ha, hname, hr⟩, b, hb, rfl⟩ b hb rfl).resolve_left
          fun h => hnotup (.inr ⟨b, hb, rfl, h⟩)
      exact .inr (.cascade hreq hup hb hdoomed hno)

theorem CanStart.not_fails (huniform : Uniform P) (hfresh : Fresh P) {a : α}
    (h : CanStart P a) : ¬ Fails P a := by
  induction h with
  | @intro a provider sound provides starts ih =>
    intro hf
    cases hf with
    | @snapshot _ r hr hbad => exact hbad.elim (· (sound r hr).1) (sound r hr).2
    | @cascade _ b hr hb hf =>
      have hrun := hfresh b hb
      obtain ⟨hmem, hname⟩ := provides _ hr hrun
      exact ih _ hr hrun (fails_congr (huniform b hb _ hmem hname.symm) hf)

end Acyclic

section SelfSufficient

variable (name : α → κ) (requires : α → List κ)

def SelfSufficient (members : Set α) : Prop :=
  ∀ a ∈ members, ∀ r ∈ requires a, ∃ b ∈ members, name b = r

/-- The members of `items` whose requirements are all names of `items`. -/
def onePass (items : Set α) : Set α :=
  {a | a ∈ items ∧ ∀ r ∈ requires a, ∃ b ∈ items, name b = r}

variable {name requires}

theorem SelfSufficient.subset_onePass {items members : Set α} (hsub : members ⊆ items)
    (h : SelfSufficient name requires members) : members ⊆ onePass name requires items := by
  intro a ha
  refine ⟨hsub ha, fun r hr => ?_⟩
  obtain ⟨b, hb, hname⟩ := h a ha r hr
  exact ⟨b, hsub hb, hname⟩

/-- One pass finds the greatest self-sufficient subset exactly when what it
keeps is self-sufficient. -/
theorem isGreatest_onePass_iff {items : Set α} :
    IsGreatest {members | members ⊆ items ∧ SelfSufficient name requires members}
        (onePass name requires items) ↔
      SelfSufficient name requires (onePass name requires items) := by
  constructor
  · intro h
    exact h.1.2
  · intro h
    exact ⟨⟨fun a ha => ha.1, h⟩, fun members hm => hm.2.subset_onePass hm.1⟩

end SelfSufficient

end Dependencies
