import Bartender.Pruning.MongoPruner

/-!
# What a round finds

The tasks of all three TTLs together select the expendable documents that have
passed their own TTL, as far as the stored dates tell.
-/

namespace Bartender

open Attempts

def minutes (n : ℤ) : ℤ := n * 60000000

/-- `timedelta` holds every one of the TTLs. -/
def Ttls.InRange (ttl : Ttls) : Prop := ∀ n ∈ ttl.values, n < 1440000000000

instance (ttl : Ttls) : Decidable ttl.InRange :=
  inferInstanceAs (Decidable (∀ n ∈ ttl.values, n < 1440000000000))

def Ttls.of (ttl : Ttls) (document : Document) : Option ℤ :=
  match document.collection with
  | .event => some ttl.event
  | .request =>
    match document.get? "command_type" with
    | some (.str "INFO") => some ttl.info
    | some (.str "ACTION") => some ttl.action
    | _ => none

def Document.IsFinished (document : Document) : Prop :=
  ∃ status ∈ ["SUCCESS", "CANCELED", "ERROR"], document.get? "status" = some (.str status)

/-- An event, or a finished request without a parent. -/
def Document.IsExpendable (document : Document) : Prop :=
  document.collection = .request →
    document.IsFinished ∧ document.get? "has_parent" = some (.bool false)

/-- The queries of a pass find the document: it can be deleted, and by the stored
dates it has passed its own TTL, which is active. -/
def Ttls.Found (ttl : Ttls) (now : ℤ) (document : Document) : Prop :=
  ∃ n, ttl.of document = some n ∧ 0 < n ∧ document.IsExpendable ∧
    storedDate document.date < storedDate (now - minutes n)

section Setup

variable {ttl : Ttls} {n : ℤ} {commandType : String}

theorem timedelta_minutes (hpos : 0 < n) (hlt : n < 1440000000000) :
    timedelta n = .ok (minutes n) := by
  refine timedelta_eq_ok ?_ ?_ ?_
  · simp [minutes]
  · unfold minutes
    omega
  · unfold minutes microsecondsPerDay
    omega

theorem timedelta_half (hpos : 0 < n) (hlt : n < 1440000000000) :
    timedelta ((n : ℚ) / 2) = .ok (n * 30000000) := by
  refine timedelta_eq_ok ?_ (by omega) ?_
  · push_cast
    ring
  · unfold microsecondsPerDay
    omega

theorem requestTask_eq_ok (hlt : n < 1440000000000) :
    requestTask n commandType = .ok (if 0 < n then
      [⟨.request, "created_at", minutes n, some (requestQuery commandType)⟩] else []) := by
  unfold requestTask
  split_ifs with hpos
  · rw [timedelta_minutes hpos hlt]
    rfl
  · rfl

theorem eventTask_eq_ok (hlt : n < 1440000000000) :
    eventTask n =
      .ok (if 0 < n then [⟨.event, "timestamp", minutes n, none⟩] else []) := by
  unfold eventTask
  split_ifs with hpos
  · rw [timedelta_minutes hpos hlt]
    rfl
  · rfl

def Ttls.tasks (ttl : Ttls) : List PruneTask :=
  (if 0 < ttl.info then
    [⟨.request, "created_at", minutes ttl.info, some (requestQuery "INFO")⟩] else []) ++
  (if 0 < ttl.action then
    [⟨.request, "created_at", minutes ttl.action, some (requestQuery "ACTION")⟩] else []) ++
  (if 0 < ttl.event then [⟨.event, "timestamp", minutes ttl.event, none⟩] else [])

def Ttls.least? (ttl : Ttls) : Option ℤ := (ttl.values.filter fun n => 0 < n).min?

theorem Ttls.least?_eq_some_iff :
    ttl.least? = some n ↔ (n ∈ ttl.values ∧ 0 < n) ∧ ∀ m ∈ ttl.values, 0 < m → n ≤ m := by
  unfold Ttls.least?
  rw [List.min?_eq_some_iff]
  simp

theorem Ttls.isSome_least? : ttl.least?.isSome = true ↔ ∃ n ∈ ttl.values, 0 < n := by
  unfold Ttls.least?
  rw [List.isSome_min?_iff, ne_eq, List.filter_eq_nil_iff]
  simp

theorem setupPruningTasks_eq_ok (h : ttl.InRange) :
    setupPruningTasks ttl = .ok (ttl.tasks, ttl.least?.map fun n => (n : ℚ) / 2) := by
  unfold setupPruningTasks
  rw [requestTask_eq_ok (h ttl.info (by simp [Ttls.values])),
    requestTask_eq_ok (h ttl.action (by simp [Ttls.values])),
    eventTask_eq_ok (h ttl.event (by simp [Ttls.values]))]
  rfl

theorem createPruner_eq_ok (h : ttl.InRange) :
    createPruner ttl = .ok (ttl.least?.map fun n => ⟨ttl.tasks, n * 30000000⟩) := by
  unfold createPruner
  rw [setupPruningTasks_eq_ok h]
  cases hleast : ttl.least? with
  | none => rfl
  | some n =>
    obtain ⟨⟨hmem, hpos⟩, -⟩ := Ttls.least?_eq_some_iff.mp hleast
    have hne : (n : ℚ) / 2 ≠ 0 := by positivity
    show (if (n : ℚ) / 2 = 0 then _ else _) = _
    rw [if_neg hne, timedelta_half hpos (h n hmem)]
    rfl

end Setup

section Selection

variable {ttl : Ttls} {document : Document} {time now : ℤ}

theorem matches_lt_date {field : String} (h : field = document.collection.dateField) :
    (Q.lt field time).Matches document ↔ storedDate document.date < storedDate time := by
  have hget : document.get? field = some (.date (storedDate document.date)) := if_pos h
  unfold Q.Matches
  rw [hget]

theorem matches_requestQuery {commandType : String} :
    (requestQuery commandType).Matches document ↔ (document.IsFinished ∧
      document.get? "has_parent" = some (.bool false)) ∧
        document.get? "command_type" = some (.str commandType) := by
  simp [requestQuery, finishedQuery, Q.Matches, Document.IsFinished, or_assoc]

theorem selects_request {n : ℤ} {commandType : String} :
    PruneTask.Selects ⟨.request, "created_at", minutes n, some (requestQuery commandType)⟩
        (now - minutes n) document ↔ document.collection = .request ∧
      storedDate document.date < storedDate (now - minutes n) ∧ (document.IsFinished ∧
        document.get? "has_parent" = some (.bool false)) ∧
        document.get? "command_type" = some (.str commandType) := by
  refine and_congr_right fun hcollection => ?_
  have hfield : "created_at" = document.collection.dateField := by rw [hcollection]; rfl
  exact and_congr (matches_lt_date hfield) matches_requestQuery

theorem selects_event {n : ℤ} :
    PruneTask.Selects ⟨.event, "timestamp", minutes n, none⟩ (now - minutes n) document ↔
      document.collection = .event ∧
        storedDate document.date < storedDate (now - minutes n) := by
  refine and_congr_right fun hcollection => ?_
  have hfield : "timestamp" = document.collection.dateField := by rw [hcollection]; rfl
  exact matches_lt_date hfield

theorem exists_mem_ite_singleton {α : Type*} {p : Prop} [Decidable p] {a : α} {P : α → Prop} :
    (∃ x ∈ if p then [a] else [], P x) ↔ p ∧ P a := by
  split_ifs with hp <;> simp [hp]

theorem exists_mem_tasks_iff {P : PruneTask → Prop} :
    (∃ task ∈ ttl.tasks, P task) ↔
      (0 < ttl.info ∧ P ⟨.request, "created_at", minutes ttl.info, some (requestQuery "INFO")⟩) ∨
      (0 < ttl.action ∧
        P ⟨.request, "created_at", minutes ttl.action, some (requestQuery "ACTION")⟩) ∨
      (0 < ttl.event ∧ P ⟨.event, "timestamp", minutes ttl.event, none⟩) := by
  unfold Ttls.tasks
  simp only [List.mem_append, or_and_right, exists_or, exists_mem_ite_singleton, or_assoc]

/-- A round finds the expendable documents that have passed their own TTL. -/
theorem exists_selects_iff :
    (∃ task ∈ ttl.tasks, task.Selects (now - task.deleteAfter) document) ↔
      ttl.Found now document := by
  rw [exists_mem_tasks_iff]
  simp only [selects_request, selects_event]
  unfold Ttls.Found Ttls.of Document.IsExpendable
  cases hcollection : document.collection with
  | event => simp
  | request =>
    constructor
    · rintro (⟨hpos, -, hold, hdone, htype⟩ | ⟨hpos, -, hold, hdone, htype⟩ | ⟨-, hevent, -⟩)
      · exact ⟨ttl.info, by simp [htype], hpos, fun _ => hdone, hold⟩
      · exact ⟨ttl.action, by simp [htype], hpos, fun _ => hdone, hold⟩
      · cases hevent
    · rintro ⟨n, hn, hpos, hdone, hold⟩
      dsimp only at hn
      split at hn
      · cases hn
        exact .inl ⟨hpos, rfl, hold, hdone rfl, ‹_›⟩
      · cases hn
        exact .inr (.inl ⟨hpos, rfl, hold, hdone rfl, ‹_›⟩)
      · cases hn

end Selection

end Bartender
