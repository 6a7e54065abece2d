import Bartender.Library.Runs
import Bartender.Pruning.Selection

/-!
# How long documents are kept

Passes are `run_every` apart, and `run_every` is half of the smallest active TTL.
A document that passes its own TTL is found by a pass before another `run_every`
and a millisecond are over, whenever it was created.
-/

namespace Bartender

open Attempts

/-- What the pruner runs on: the longest time that `Event.wait` can wait, and `delete()`. -/
structure PrunerHost where
  timeoutMax : ℤ
  delete : Delete

/-- The clock and the database while the pruner runs. -/
structure PrunerState where
  now : ℤ
  /-- None once an exception has ended the thread. -/
  nextPass : Option ℤ
  documents : List Document
  /-- The number of the next document. -/
  created : ℕ
  /-- What the passes deleted, and when. -/
  deleted : List (Document × ℤ)

/-- The pruner's passes, and what the others do and time does between them. -/
inductive PrunerStep
  | create (collection : Collection) (fields : List (String × FieldValue))
  | update (id : ℕ) (fields : List (String × FieldValue))
  | wait (microseconds : ℕ)
  | pass

/-- The end of the next wait. One that is too long raises. -/
def MongoPruner.nextPass (pruner : MongoPruner) (host : PrunerHost) (now : ℤ) : Option ℤ :=
  if pruner.runEvery ≤ host.timeoutMax then some (now + pruner.runEvery) else none

namespace PrunerStep

def apply (host : PrunerHost) (pruner : MongoPruner) : PrunerStep → PrunerState → PrunerState
  | .create collection fields, s =>
    { s with
      documents := s.documents ++ [⟨s.created, collection, s.now, fields⟩]
      created := s.created + 1 }
  | .update id fields, s =>
    { s with
      documents := s.documents.map fun d => if d.id = id then { d with fields := fields } else d }
  | .wait microseconds, s => { s with now := s.now + microseconds }
  | .pass, s =>
    let (result, documents) := exec (prune host.delete pruner.tasks s.now) s.documents
    { s with
      nextPass :=
        match result with
        | .ok () => pruner.nextPass host s.now
        | .error _ => none
      documents := documents
      deleted := s.deleted ++ (s.documents.filter fun d => d ∉ documents).map fun d => (d, s.now) }

/-- Passes are exactly on time, and the time of a pass is a date. -/
def Allowed : PrunerStep → PrunerState → Prop
  | .wait microseconds, s => ∀ time ∈ s.nextPass, s.now + microseconds ≤ time
  | .pass, s => s.nextPass = some s.now ∧ IsDatetime s.now
  | _, _ => True

instance : (step : PrunerStep) → (s : PrunerState) → Decidable (step.Allowed s)
  | .wait microseconds, s =>
    inferInstanceAs (Decidable (∀ time ∈ s.nextPass, s.now + microseconds ≤ time))
  | .pass, s => inferInstanceAs (Decidable (s.nextPass = some s.now ∧ IsDatetime s.now))
  | .create _ _, _ => .isTrue trivial
  | .update _ _, _ => .isTrue trivial

end PrunerStep

/-- The thread waits before its first pass. -/
def MongoPruner.start (pruner : MongoPruner) (host : PrunerHost) (time : ℤ)
    (documents : List Document) : PrunerState where
  now := time
  nextPass := pruner.nextPass host time
  documents := documents
  created := documents.foldr (fun d n => max n (d.id + 1)) 0
  deleted := []

/-- The document has passed its own TTL, which is active, and can be deleted. -/
def Ttls.Due (ttl : Ttls) (now : ℤ) (document : Document) : Prop :=
  ∃ n, ttl.of document = some n ∧ 0 < n ∧ document.IsExpendable ∧
    document.date + minutes n < now

/-- The document with this number, created at this time, has no other TTL and refers
to no parent, and from that age on it has the TTL and is expendable. -/
def Awaits (ttl : Ttls) (id : ℕ) (date n : ℤ) (s : PrunerState) : Prop :=
  ∀ d ∈ s.documents, d.id = id → (∀ m ∈ ttl.of d, m = n) ∧ d.parent? = none ∧
    (date + minutes n ≤ s.now → ttl.of d = some n ∧ d.IsExpendable)

theorem Ttls.Found.due {ttl : Ttls} {now : ℤ} {document : Document}
    (h : ttl.Found now document) : ttl.Due now document := by
  obtain ⟨n, hof, hpos, hexpendable, hstored⟩ := h
  exact ⟨n, hof, hpos, hexpendable, lt_sub_iff_add_lt.mp (lt_of_storedDate_lt hstored)⟩

namespace PrunerState

/-- A pass deleted the document at this time, which was due then or descends from
one that was, by requests that the pass deleted. -/
def Accounted (ttl : Ttls) (s : PrunerState) (d : Document) (t : ℤ) : Prop :=
  ∃ a, (a, t) ∈ s.deleted ∧ ttl.Due t a ∧
    Relation.ReflTransGen (fun b c => (c, t) ∈ s.deleted ∧ c.ChildOf b) a d

theorem Accounted.mono {ttl : Ttls} {s s' : PrunerState} {d : Document} {t : ℤ}
    (h : s.Accounted ttl d t) (hdeleted : ∀ entry ∈ s.deleted, entry ∈ s'.deleted) :
    s'.Accounted ttl d t := by
  obtain ⟨a, ha, hdue, hchain⟩ := h
  exact ⟨a, hdeleted _ ha, hdue,
    Relation.ReflTransGen.mono (fun _ _ hc => ⟨hdeleted _ hc.1, hc.2⟩) _ _ hchain⟩

section Passes

variable {host : PrunerHost} {ttl : Ttls} {runEvery first : ℤ} {s s' : PrunerState}

/-- What a pass does whose cut-off times exist. -/
structure Passes (ttl : Ttls) (runEvery : ℤ) (s s' : PrunerState) : Prop where
  now : s'.now = s.now
  nextPass : s'.nextPass = some (s.now + runEvery)
  created : s'.created = s.created
  kept : ∀ d ∈ s'.documents, d ∈ s.documents ∧ ¬ ttl.Found s.now d
  removed : ∀ d ∈ s.documents, d ∉ s'.documents → ∃ a ∈ s.documents, ttl.Found s.now a ∧
    Relation.ReflTransGen (fun b c => (c ∈ s.documents ∧ c ∉ s'.documents) ∧ c.ChildOf b) a d
  mem_deleted : ∀ d t, (d, t) ∈ s'.deleted ↔
    (d, t) ∈ s.deleted ∨ (d ∈ s.documents ∧ d ∉ s'.documents) ∧ t = s.now

theorem Passes.found_of_removed (h : Passes ttl runEvery s s') {d : Document}
    (hd : d ∈ s.documents) (hgone : d ∉ s'.documents) (hparent : d.parent? = none) :
    ttl.Found s.now d := by
  obtain ⟨a, -, hfound, hchain⟩ := h.removed d hd hgone
  rcases hchain.cases_tail with rfl | ⟨b, -, -, hchild⟩
  · exact hfound
  · cases hparent.symm.trans hchild.2

theorem Passes.accounted (h : Passes ttl runEvery s s') {d : Document} (hd : d ∈ s.documents)
    (hgone : d ∉ s'.documents) : s'.Accounted ttl d s.now := by
  obtain ⟨a, ha, hfound, hchain⟩ := h.removed d hd hgone
  have hdeleted : ∀ c, c ∈ s.documents → c ∉ s'.documents → (c, s.now) ∈ s'.deleted :=
    fun c hc hnot => (h.mem_deleted c s.now).mpr (.inr ⟨⟨hc, hnot⟩, rfl⟩)
  refine ⟨a, hdeleted a ha fun hmem => (h.kept a hmem).2 hfound, hfound.due, ?_⟩
  exact Relation.ReflTransGen.mono (fun b c hc => ⟨hdeleted c hc.1.1 hc.1.2, hc.2⟩) _ _ hchain

theorem exists_of_mem_tasks {task : PruneTask} (h : task ∈ ttl.tasks) :
    ∃ n ∈ ttl.values, 0 < n ∧ task.deleteAfter = minutes n := by
  have hex : ∃ other ∈ ttl.tasks, other = task := ⟨task, h, rfl⟩
  rw [exists_mem_tasks_iff] at hex
  rcases hex with ⟨hpos, rfl⟩ | ⟨hpos, rfl⟩ | ⟨hpos, rfl⟩
  · exact ⟨ttl.info, by simp [Ttls.values], hpos, rfl⟩
  · exact ⟨ttl.action, by simp [Ttls.values], hpos, rfl⟩
  · exact ⟨ttl.event, by simp [Ttls.values], hpos, rfl⟩

theorem passes_of_isDatetime (hdelete : host.delete.Cascades) (hwait : runEvery ≤ host.timeoutMax)
    (hnow : IsDatetime s.now) (hdates : ∀ n ∈ ttl.values, 0 < n → minutes n ≤ s.now) :
    Passes ttl runEvery s (PrunerStep.pass.apply host ⟨ttl.tasks, runEvery⟩ s) := by
  have hcutoffs : ∀ task ∈ ttl.tasks, IsDatetime (s.now - task.deleteAfter) := by
    intro task htask
    obtain ⟨n, hmem, hpos, hafter⟩ := exists_of_mem_tasks htask
    have hle := hdates n hmem hpos
    have hlt : 0 < minutes n := by unfold minutes; omega
    obtain ⟨_, hbound⟩ := hnow
    rw [hafter]
    constructor <;> omega
  unfold PrunerStep.apply
  simp only [exec_prune hcutoffs]
  refine ⟨rfl, if_pos hwait, rfl, fun d hd => ?_, fun d hd hgone => ?_, fun d t => ?_⟩
  · obtain ⟨hmem, hnone⟩ := hdelete.of_mem_pruned hd
    refine ⟨hmem, fun hfound => ?_⟩
    obtain ⟨task, htask, hselects⟩ := exists_selects_iff.mpr hfound
    exact hnone task htask hselects
  · obtain ⟨a, ha, hselects, hchain⟩ := hdelete.of_not_mem_pruned hd hgone
    exact ⟨a, ha, exists_selects_iff.mp hselects, hchain⟩
  · simp [eq_comm (a := s.now)]

end Passes

section Invariants

variable {host : PrunerHost} {ttl : Ttls} {runEvery first : ℤ} {s : PrunerState}

/-- The next pass is at most `runEvery` away, and all that was deleted was due or
descends from what was. -/
structure Sound (ttl : Ttls) (runEvery first : ℤ) (s : PrunerState) : Prop where
  clock : ∃ next, s.nextPass = some next ∧ s.now ≤ next ∧ next ≤ s.now + runEvery ∧ first ≤ next
  fresh : ∀ d ∈ s.documents, d.id < s.created
  deleted : ∀ d t, (d, t) ∈ s.deleted → s.Accounted ttl d t

theorem Sound.passes (h : Sound ttl runEvery first s) (hdelete : host.delete.Cascades)
    (hwait : runEvery ≤ host.timeoutMax) (hdates : ∀ n ∈ ttl.values, 0 < n → minutes n ≤ first)
    (hallowed : PrunerStep.pass.Allowed s) :
    Passes ttl runEvery s (PrunerStep.pass.apply host ⟨ttl.tasks, runEvery⟩ s) := by
  obtain ⟨hnext, hnow⟩ := hallowed
  obtain ⟨next, hclock, -, -, hfirst⟩ := h.clock
  obtain rfl : s.now = next := Option.some.inj (hnext.symm.trans hclock)
  exact passes_of_isDatetime hdelete hwait hnow fun n hmem hpos =>
    (hdates n hmem hpos).trans hfirst

theorem Sound.apply (hdelete : host.delete.Cascades) (hwait : runEvery ≤ host.timeoutMax)
    (hdates : ∀ n ∈ ttl.values, 0 < n → minutes n ≤ first) (step : PrunerStep)
    (h : Sound ttl runEvery first s) (hallowed : step.Allowed s) :
    Sound ttl runEvery first (step.apply host ⟨ttl.tasks, runEvery⟩ s) := by
  obtain ⟨next, hclock, hnow, hnext, hfirst⟩ := h.clock
  cases step with
  | create collection fields =>
    refine ⟨⟨next, hclock, hnow, hnext, hfirst⟩, fun d hd => ?_, h.deleted⟩
    rcases List.mem_append.mp hd with hd | hd
    · exact (h.fresh d hd).trans (Nat.lt_succ_self _)
    · rw [List.mem_singleton.mp hd]
      exact Nat.lt_succ_self _
  | update id fields =>
    refine ⟨⟨next, hclock, hnow, hnext, hfirst⟩, fun d hd => ?_, h.deleted⟩
    obtain ⟨old, hold, rfl⟩ := List.mem_map.mp hd
    have hid := h.fresh old hold
    split_ifs <;> exact hid
  | wait microseconds =>
    have hle : s.now + microseconds ≤ next := hallowed next hclock
    refine ⟨⟨next, hclock, hle, ?_, hfirst⟩, h.fresh, h.deleted⟩
    show next ≤ s.now + microseconds + runEvery
    omega
  | pass =>
    have hpasses := h.passes hdelete hwait hdates hallowed
    obtain rfl : s.now = next := Option.some.inj (hallowed.1.symm.trans hclock)
    refine ⟨⟨s.now + runEvery, hpasses.nextPass, ?_, ?_, hfirst.trans hnext⟩, fun d hd => ?_,
      fun d t hd => ?_⟩
    · rw [hpasses.now]
      exact hnext
    · rw [hpasses.now]
    · rw [hpasses.created]
      exact h.fresh d (hpasses.kept d hd).1
    · rcases (hpasses.mem_deleted d t).mp hd with hold | ⟨⟨hmem, hgone⟩, rfl⟩
      · exact (h.deleted d t hold).mono fun entry hentry =>
          (hpasses.mem_deleted entry.1 entry.2).mpr (.inl hentry)
      · exact hpasses.accounted hmem hgone

theorem sound_start {time : ℤ} (hevery : 0 ≤ runEvery) (hwait : runEvery ≤ host.timeoutMax)
    (documents : List Document) :
    Sound ttl runEvery (time + runEvery)
      (MongoPruner.start ⟨ttl.tasks, runEvery⟩ host time documents) where
  clock := ⟨time + runEvery, if_pos hwait, le_add_of_nonneg_right hevery, le_rfl, le_rfl⟩
  fresh := by
    show ∀ d ∈ documents, d.id < documents.foldr (fun d n => max n (d.id + 1)) 0
    induction documents with
    | nil => simp
    | cons d rest ih =>
      rw [List.forall_mem_cons, List.foldr_cons]
      refine ⟨?_, fun other hother => ?_⟩
      · omega
      · have := ih other hother
        omega
  deleted := nofun

/-- Where a document is that was created during the run: among the others, with a
pass to come in time, or deleted in its window. -/
structure KeptInTime (id : ℕ) (date n runEvery : ℤ) (s : PrunerState) : Prop where
  numbered : id < s.created
  dated : ∀ d ∈ s.documents, d.id = id → d.date = date
  kept : ((∃ d ∈ s.documents, d.id = id) ∧
      ∀ next ∈ s.nextPass, next < date + minutes n + runEvery + 1000) ∨
    (∀ d ∈ s.documents, d.id ≠ id) ∧ ∃ d t, (d, t) ∈ s.deleted ∧ d.id = id ∧
      date + minutes n < t ∧ t < date + minutes n + runEvery + 1000

variable {id : ℕ} {date n : ℤ}

theorem keptInTime_create (h : Sound ttl runEvery first s) (hn : 0 < n) (collection : Collection)
    (fields : List (String × FieldValue)) :
    KeptInTime s.created s.now n runEvery
      ((PrunerStep.create collection fields).apply host ⟨ttl.tasks, runEvery⟩ s) := by
  obtain ⟨next, hclock, -, hnext, -⟩ := h.clock
  refine ⟨Nat.lt_succ_self _, fun d hd hid => ?_, .inl ⟨?_, fun time htime => ?_⟩⟩
  · rcases List.mem_append.mp hd with hd | hd
    · exact absurd hid (h.fresh d hd).ne
    · rw [List.mem_singleton.mp hd]
  · exact ⟨_, List.mem_append_right _ (List.mem_singleton_self _), rfl⟩
  · obtain rfl : next = time := Option.some.inj (hclock.symm.trans htime)
    unfold minutes
    omega

theorem KeptInTime.pass (h : KeptInTime id date n runEvery s) (hn : 0 < n)
    (hnext : s.nextPass = some s.now) (hawaits : Awaits ttl id date n s) {s' : PrunerState}
    (hpasses : Passes ttl runEvery s s') : KeptInTime id date n runEvery s' := by
  refine ⟨hpasses.created ▸ h.numbered, fun d hd => h.dated d (hpasses.kept d hd).1, ?_⟩
  rcases h.kept with ⟨⟨d, hd, hid⟩, hlast⟩ | ⟨hgone, d, t, hd, hwindow⟩
  · have hnow : s.now < date + minutes n + runEvery + 1000 := hlast _ hnext
    by_cases hold : storedDate date < storedDate (s.now - minutes n)
    · have hage : date + minutes n < s.now := lt_sub_iff_add_lt.mp (lt_of_storedDate_lt hold)
      -- every document with the number is found
      have hfound : ∀ d ∈ s.documents, d.id = id → ttl.Found s.now d := by
        intro d hd hid
        obtain ⟨hof, hexpendable⟩ := (hawaits d hd hid).2.2 hage.le
        exact ⟨n, hof, hn, hexpendable, (h.dated d hd hid).symm ▸ hold⟩
      have hgone : d ∉ s'.documents := fun hmem => (hpasses.kept d hmem).2 (hfound d hd hid)
      refine .inr ⟨fun d hmem hid => ?_, d, s.now, ?_, hid, hage, hnow⟩
      · obtain ⟨hd, hnot⟩ := hpasses.kept d hmem
        exact hnot (hfound d hd hid)
      · exact (hpasses.mem_deleted d s.now).mpr (.inr ⟨⟨hd, hgone⟩, rfl⟩)
    · refine .inl ⟨⟨d, ?_, hid⟩, fun next hmem => ?_⟩
      · by_contra hgone
        obtain ⟨hown, hparent, -⟩ := hawaits d hd hid
        obtain ⟨m, hof, -, -, hstored⟩ := hpasses.found_of_removed hd hgone hparent
        rw [hown m hof, h.dated d hd hid] at hstored
        exact hold hstored
      · have hyoung : s.now - minutes n < date + 1000 :=
          lt_of_not_ge fun hle => hold (storedDate_lt hle)
        rw [hpasses.nextPass] at hmem
        cases hmem
        omega
  · refine .inr ⟨fun d hd => hgone d (hpasses.kept d hd).1, d, t, ?_, hwindow⟩
    exact (hpasses.mem_deleted d t).mpr (.inl hd)

theorem KeptInTime.apply (h : KeptInTime id date n runEvery s) (hn : 0 < n)
    (hsound : Sound ttl runEvery first s) (hdelete : host.delete.Cascades)
    (hwait : runEvery ≤ host.timeoutMax)
    (hdates : ∀ n ∈ ttl.values, 0 < n → minutes n ≤ first) (step : PrunerStep)
    (hallowed : step.Allowed s) (hawaits : Awaits ttl id date n s) :
    KeptInTime id date n runEvery (step.apply host ⟨ttl.tasks, runEvery⟩ s) := by
  cases step with
  | create collection fields =>
    have hother : ∀ d ∈ s.documents ++ [(⟨s.created, collection, s.now, fields⟩ : Document)],
        d.id = id → d ∈ s.documents := by
      intro d hd hid
      rcases List.mem_append.mp hd with hd | hd
      · exact hd
      · rw [List.mem_singleton.mp hd] at hid
        exact absurd hid h.numbered.ne'
    refine ⟨h.numbered.trans (Nat.lt_succ_self _), fun d hd hid => h.dated d (hother d hd hid) hid,
      ?_⟩
    rcases h.kept with ⟨⟨d, hd, hid⟩, hlast⟩ | ⟨hgone, hdeleted⟩
    · exact .inl ⟨⟨d, List.mem_append_left _ hd, hid⟩, hlast⟩
    · exact .inr ⟨fun d hd hid => hgone d (hother d hd hid) hid, hdeleted⟩
  | update other fields =>
    let change (d : Document) : Document := if d.id = other then { d with fields := fields } else d
    have hchange : ∀ d, (change d).id = d.id ∧ (change d).date = d.date := by
      intro d
      unfold change
      split_ifs <;> exact ⟨rfl, rfl⟩
    refine ⟨h.numbered, fun d hd hid => ?_, ?_⟩
    · obtain ⟨old, hold, rfl⟩ := List.mem_map.mp hd
      exact (hchange old).2.trans (h.dated old hold ((hchange old).1.symm.trans hid))
    rcases h.kept with ⟨⟨d, hd, hid⟩, hlast⟩ | ⟨hgone, hdeleted⟩
    · exact .inl ⟨⟨change d, List.mem_map_of_mem hd, (hchange d).1.trans hid⟩, hlast⟩
    · refine .inr ⟨fun d hd hid => ?_, hdeleted⟩
      obtain ⟨old, hold, rfl⟩ := List.mem_map.mp hd
      exact hgone old hold ((hchange old).1.symm.trans hid)
  | wait microseconds => exact ⟨h.numbered, h.dated, h.kept⟩
  | pass => exact h.pass hn hallowed.1 hawaits (hsound.passes hdelete hwait hdates hallowed)

end Invariants

section Runs

variable {host : PrunerHost} {ttl : Ttls} {runEvery first : ℤ} {s : PrunerState}
  {steps : List PrunerStep}

theorem Sound.final (h : Sound ttl runEvery first s) (hdelete : host.delete.Cascades)
    (hwait : runEvery ≤ host.timeoutMax)
    (hdates : ∀ n ∈ ttl.values, 0 < n → minutes n ≤ first)
    (hmeets : Runs.Meets (PrunerStep.apply host ⟨ttl.tasks, runEvery⟩) PrunerStep.Allowed steps s) :
    Sound ttl runEvery first (Runs.final (PrunerStep.apply host ⟨ttl.tasks, runEvery⟩) steps s) :=
  (Runs.throughout_of_meets (fun step _ hsound => hsound.apply hdelete hwait hdates step) h
    hmeets).final

/-- A run that goes on for longer than the TTL and the interval deletes the document. -/
theorem KeptInTime.deleted {id : ℕ} {date n : ℤ} (h : KeptInTime id date n runEvery s) (hn : 0 < n)
    (hsound : Sound ttl runEvery first s) (hdelete : host.delete.Cascades)
    (hwait : runEvery ≤ host.timeoutMax)
    (hdates : ∀ n ∈ ttl.values, 0 < n → minutes n ≤ first)
    (hmeets : Runs.Meets (PrunerStep.apply host ⟨ttl.tasks, runEvery⟩) PrunerStep.Allowed steps s)
    (hawaits : Runs.Throughout (PrunerStep.apply host ⟨ttl.tasks, runEvery⟩) (Awaits ttl id date n)
      steps s)
    (hlong : date + minutes n + runEvery + 1000 ≤
      (Runs.final (PrunerStep.apply host ⟨ttl.tasks, runEvery⟩) steps s).now) :
    (∀ d ∈ (Runs.final (PrunerStep.apply host ⟨ttl.tasks, runEvery⟩) steps s).documents,
      d.id ≠ id) ∧
      ∃ d t, (d, t) ∈ (Runs.final (PrunerStep.apply host ⟨ttl.tasks, runEvery⟩) steps s).deleted ∧
        d.id = id ∧ date + minutes n < t ∧ t < date + minutes n + runEvery + 1000 := by
  have hrun : Runs.Throughout (PrunerStep.apply host ⟨ttl.tasks, runEvery⟩)
      (fun s => Sound ttl runEvery first s ∧ KeptInTime id date n runEvery s) steps s :=
    Runs.throughout_of_meets (fun step s hs hcondition =>
      ⟨hs.1.apply hdelete hwait hdates step hcondition.1,
        hs.2.apply hn hs.1 hdelete hwait hdates step hcondition.1 hcondition.2⟩)
      ⟨hsound, h⟩ (hmeets.and_throughout hawaits)
  obtain ⟨⟨⟨next, hclock, hnow, -, -⟩, -, -⟩, hkept⟩ := hrun.final
  rcases hkept.kept with ⟨-, hlast⟩ | hgone
  · have := hlast next hclock
    omega
  · exact hgone

end Runs

end PrunerState

section Results

variable {ttl : Ttls}

/-- For every run of the pruner that the TTLs bring about: a document is deleted soon
after it has passed its TTL, and only what is due and what descends from it is. -/
theorem pruner_retention (host : PrunerHost) (hdelete : host.delete.Cascades) (h : ttl.InRange) :
    ∃ created, createPruner ttl = .ok created ∧
      (created.isSome = true ↔ ∃ n ∈ ttl.values, 0 < n) ∧
      ∀ pruner ∈ created,
        (∀ n ∈ ttl.values, 0 < n → 2 * pruner.runEvery ≤ minutes n) ∧
        (pruner.runEvery ≤ host.timeoutMax → ∀ time documents before,
          (∀ n ∈ ttl.values, 0 < n → minutes n ≤ time + pruner.runEvery) →
          Runs.Meets (PrunerStep.apply host pruner) PrunerStep.Allowed before
            (pruner.start host time documents) →
          let s := Runs.final (PrunerStep.apply host pruner) before
            (pruner.start host time documents)
          (∀ d t, (d, t) ∈ s.deleted → s.Accounted ttl d t) ∧
          ∀ collection fields after n, 0 < n →
            let s₀ := (PrunerStep.create collection fields).apply host pruner s
            let s₁ := Runs.final (PrunerStep.apply host pruner) after s₀
            Runs.Meets (PrunerStep.apply host pruner) PrunerStep.Allowed after s₀ →
            Runs.Throughout (PrunerStep.apply host pruner) (Awaits ttl s.created s.now n)
              after s₀ →
            s.now + minutes n + pruner.runEvery + 1000 ≤ s₁.now →
            (∀ d ∈ s₁.documents, d.id ≠ s.created) ∧
              ∃ d t, (d, t) ∈ s₁.deleted ∧ d.id = s.created ∧
                s.now + minutes n < t ∧ t < s.now + minutes n + pruner.runEvery + 1000) := by
  refine ⟨_, createPruner_eq_ok h, ?_, fun pruner hpruner => ?_⟩
  · rw [Option.isSome_map, Ttls.isSome_least?]
  obtain ⟨least, hleast, rfl⟩ := Option.map_eq_some_iff.mp hpruner
  obtain ⟨⟨-, hpos⟩, hle⟩ := Ttls.least?_eq_some_iff.mp hleast
  refine ⟨fun n hmem hn => ?_, fun hwait time documents before hdates hbefore => ?_⟩
  · have := hle n hmem hn
    unfold minutes
    show 2 * (least * 30000000) ≤ _
    omega
  have hevery : 0 ≤ least * 30000000 := by omega
  have hsound := (PrunerState.sound_start hevery hwait documents).final hdelete hwait hdates hbefore
  refine ⟨hsound.deleted, fun collection fields after n hn hafter hawaits hlong => ?_⟩
  exact (PrunerState.keptInTime_create hsound hn collection fields).deleted hn
    (hsound.apply hdelete hwait hdates (.create collection fields) trivial) hdelete hwait hdates
    hafter hawaits hlong

end Results

section Samples

def sampleHost : PrunerHost := ⟨9223372036000000, cascade⟩

def sampleTime : ℤ := 737424 * microsecondsPerDay

/-- Three passes, half a minute apart, and two milliseconds after them. -/
def sampleSteps : List PrunerStep :=
  [.wait 30000000, .pass, .wait 30000000, .pass, .wait 30000000, .pass, .wait 2000]

theorem awaits_event {ttl : Ttls} {id : ℕ} {date : ℤ} {s : PrunerState}
    (h : ∀ d ∈ s.documents, d.collection = .event) : Awaits ttl id date ttl.event s := by
  intro d hd _
  have hof : ttl.of d = some ttl.event := by
    unfold Ttls.of
    rw [h d hd]
  have hparent : d.parent? = none := by
    unfold Document.parent?
    rw [h d hd]
  refine ⟨fun m hm => ?_, hparent, fun _ => ⟨hof, fun hrequest => ?_⟩⟩
  · rw [hof] at hm
    exact (Option.mem_some_iff.mp hm).symm
  · cases (h d hd).symm.trans hrequest

def samplePruner : MongoPruner := ⟨Ttls.tasks ⟨-1, -1, 1⟩, 30000000⟩

/-- An event is deleted by the third pass after it. -/
theorem pruner_retention_event :
    let s := Runs.final (PrunerStep.apply sampleHost samplePruner)
      (.create .event [] :: sampleSteps) (samplePruner.start sampleHost sampleTime [])
    (∀ d ∈ s.documents, d.id ≠ 0) ∧ ∃ d t, (d, t) ∈ s.deleted ∧ d.id = 0 ∧
      sampleTime + minutes 1 < t ∧ t < sampleTime + minutes 1 + 30000000 + 1000 := by
  have hrange : Ttls.InRange ⟨-1, -1, 1⟩ := by decide
  have hcreated : createPruner ⟨-1, -1, 1⟩ = .ok (some samplePruner) := createPruner_eq_ok hrange
  obtain ⟨created, hok, -, hpruner⟩ := pruner_retention sampleHost cascades_cascade hrange
  obtain rfl : some samplePruner = created := Except.ok.inj (hcreated.symm.trans hok)
  have hevents : Runs.Throughout (PrunerStep.apply sampleHost samplePruner)
      (fun s => ∀ d ∈ s.documents, d.collection = .event) sampleSteps
      ((PrunerStep.create .event []).apply sampleHost samplePruner
        (samplePruner.start sampleHost sampleTime [])) := by
    decide
  exact ((hpruner samplePruner rfl).2 (by decide) sampleTime [] [] (by decide) trivial).2 .event []
    sampleSteps 1 one_pos (by decide) (hevents.imp fun _ => awaits_event) (by decide)

theorem createPruner_overflow : createPruner ⟨1440000000000, -1, 15⟩ = .error .overflowError := by
  have hexact : ((1440000000000 : ℤ) : ℚ) * 60000000 = (86400000000000000000 : ℤ) := by norm_num
  have hoverflow := timedelta_eq_error hexact (by decide)
  unfold createPruner setupPruningTasks requestTask
  rw [if_pos (by decide), hoverflow]
  rfl

/-- The pruner for events, beside information requests that are kept for thousands
of years. -/
def overflowingPruner : MongoPruner := ⟨Ttls.tasks ⟨2000000000, -1, 15⟩, 450000000⟩

def overflowingSteps : List PrunerStep :=
  [.create .event [], .wait 450000000, .pass, .wait 10000000000]

def waitingPruner : MongoPruner := ⟨Ttls.tasks ⟨-1, -1, 400000000⟩, 12000000000000000⟩

def actionPruner : MongoPruner := ⟨Ttls.tasks ⟨-1, 1, -1⟩, 30000000⟩

/-- An action that has succeeded, and a child of it that is still in progress. -/
def familySteps : List PrunerStep :=
  .create .request [("status", .str "SUCCESS"), ("has_parent", .bool false),
    ("command_type", .str "ACTION")] ::
  .create .request [("status", .str "IN_PROGRESS"), ("has_parent", .bool true),
    ("command_type", .str "ACTION"), ("parent", .ref 0)] :: sampleSteps

/-- An event in the last fifth of a millisecond before a pass. -/
def closeSteps : List PrunerStep :=
  [.wait 29999800, .create .event [], .wait 200, .pass, .wait 30000000, .pass, .wait 30000000,
    .pass, .wait 30000000, .pass]

/-- The setup raises, the first pass does before it comes to the events, or the first
wait does; an unfinished request goes with its parent; and a pass that comes a fraction
of a millisecond after the TTL leaves an event to the next one. -/
theorem pruner_overflows :
    createPruner ⟨1440000000000, -1, 15⟩ = .error .overflowError ∧
      createPruner ⟨2000000000, -1, 15⟩ = .ok (some overflowingPruner) ∧
      Runs.Meets (PrunerStep.apply sampleHost overflowingPruner) PrunerStep.Allowed
        overflowingSteps (overflowingPruner.start sampleHost sampleTime []) ∧
      (let s := Runs.final (PrunerStep.apply sampleHost overflowingPruner) overflowingSteps
        (overflowingPruner.start sampleHost sampleTime [])
      s.deleted = [] ∧ s.documents = [⟨0, .event, sampleTime, []⟩] ∧
        sampleTime + minutes 15 + overflowingPruner.runEvery < s.now) ∧
      createPruner ⟨-1, -1, 400000000⟩ = .ok (some waitingPruner) ∧
      (waitingPruner.start sampleHost sampleTime []).nextPass = none ∧
      createPruner ⟨-1, 1, -1⟩ = .ok (some actionPruner) ∧
      Runs.Meets (PrunerStep.apply sampleHost actionPruner) PrunerStep.Allowed familySteps
        (actionPruner.start sampleHost sampleTime []) ∧
      (let s := Runs.final (PrunerStep.apply sampleHost actionPruner) familySteps
        (actionPruner.start sampleHost sampleTime [])
      ∃ entry ∈ s.deleted, entry.1.id = 1 ∧ ¬ entry.1.IsFinished) ∧
      createPruner ⟨-1, -1, 1⟩ = .ok (some samplePruner) ∧
      Runs.Meets (PrunerStep.apply sampleHost samplePruner) PrunerStep.Allowed closeSteps
        (samplePruner.start sampleHost (sampleTime + 500) []) ∧
      (let s := Runs.final (PrunerStep.apply sampleHost samplePruner) closeSteps
        (samplePruner.start sampleHost (sampleTime + 500) [])
      ∃ entry ∈ s.deleted, entry.1.date + minutes 1 + samplePruner.runEvery < entry.2) := by
  refine ⟨createPruner_overflow, createPruner_eq_ok (by decide), by decide,
    ⟨by decide, by decide, by decide⟩, createPruner_eq_ok (by decide), by decide,
    createPruner_eq_ok (by decide), by decide, ?_, createPruner_eq_ok (by decide), by decide,
    by decide⟩
  refine ⟨(⟨1, .request, sampleTime, [("status", .str "IN_PROGRESS"), ("has_parent", .bool true),
    ("command_type", .str "ACTION"), ("parent", .ref 0)]⟩, sampleTime + 90000000), by decide, rfl,
    ?_⟩
  simp [Document.IsFinished, Document.get?, Collection.dateField]

end Samples

end Bartender
