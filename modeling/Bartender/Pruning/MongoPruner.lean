import Bartender.Library.Attempts
import Bartender.Python.Values
import Mathlib.Data.Rat.Floor
import Mathlib.Logic.Relation
import Mathlib.Tactic

/-!
# The pruner

`BartenderApp._setup_pruning_tasks` turns the three TTLs into tasks and an
interval, and `MongoPruner.run` executes the tasks against the database. Times
and durations are in microseconds, times from the first moment of the year 1. What
`delete()` of the database does is a parameter: it also removes the requests whose
parent it has removed.
-/

namespace Bartender

open Attempts

def microsecondsPerDay : ℤ := 86400000000

def roundHalfEven (q : ℚ) : ℤ :=
  if q - ⌊q⌋ < 1 / 2 then ⌊q⌋
  else if 1 / 2 < q - ⌊q⌋ ∨ ⌊q⌋ % 2 = 1 then ⌊q⌋ + 1
  else ⌊q⌋

theorem roundHalfEven_intCast (n : ℤ) : roundHalfEven n = n := by
  unfold roundHalfEven
  rw [Int.floor_intCast, sub_self, if_pos (by norm_num)]

/-- `timedelta(minutes=minutes)`, which has no more than nine digits for the days. -/
def timedelta (minutes : ℚ) : Except PyError ℤ :=
  let microseconds := roundHalfEven (minutes * 60000000)
  if -999999999 * microsecondsPerDay ≤ microseconds ∧
      microseconds < 1000000000 * microsecondsPerDay then .ok microseconds
  else .error .overflowError

theorem timedelta_eq_ok {minutes : ℚ} {microseconds : ℤ} (h : minutes * 60000000 = microseconds)
    (hpos : 0 < microseconds) (hlt : microseconds < 1000000000 * microsecondsPerDay) :
    timedelta minutes = .ok microseconds := by
  unfold timedelta
  rw [h, roundHalfEven_intCast]
  refine if_pos ⟨?_, hlt⟩
  unfold microsecondsPerDay
  omega

theorem timedelta_eq_error {minutes : ℚ} {microseconds : ℤ}
    (h : minutes * 60000000 = microseconds) (hge : 1000000000 * microsecondsPerDay ≤ microseconds) :
    timedelta minutes = .error .overflowError := by
  unfold timedelta
  rw [h, roundHalfEven_intCast]
  exact if_neg fun hrange => absurd hrange.2 (not_lt.mpr hge)

/-- The times that a `datetime` can be: the years 1 to 9999. -/
def IsDatetime (time : ℤ) : Prop := 0 ≤ time ∧ time < 3652059 * microsecondsPerDay

instance (time : ℤ) : Decidable (IsDatetime time) := inferInstanceAs (Decidable (_ ∧ _))

def subtract (time duration : ℤ) : Except PyError ℤ :=
  if IsDatetime (time - duration) then .ok (time - duration) else .error .overflowError

theorem subtract_eq_ok {time duration : ℤ} (h : IsDatetime (time - duration)) :
    subtract time duration = .ok (time - duration) := if_pos h

/-- The database has whole milliseconds. -/
def storedDate (time : ℤ) : ℤ := time / 1000 * 1000

theorem lt_of_storedDate_lt {time other : ℤ} (h : storedDate time < storedDate other) :
    time < other := by
  unfold storedDate at h
  omega

theorem storedDate_lt {time other : ℤ} (h : time + 1000 ≤ other) :
    storedDate time < storedDate other := by
  unfold storedDate
  omega

inductive FieldValue
  | str (s : String)
  | bool (b : Bool)
  | date (time : ℤ)
  | ref (id : ℕ)
  deriving DecidableEq

inductive Collection
  | request
  | event
  deriving DecidableEq

/-- The field that holds the time at which a document was created. -/
def Collection.dateField : Collection → String
  | request => "created_at"
  | event => "timestamp"

/-- A document, with the time at which it was created; the other fields change. -/
structure Document where
  id : ℕ
  collection : Collection
  date : ℤ
  fields : List (String × FieldValue)
  deriving DecidableEq

def Document.get? (document : Document) (field : String) : Option FieldValue :=
  if field = document.collection.dateField then some (.date (storedDate document.date))
  else document.fields.lookup field

/-- The id of the request that a request refers to as its parent. -/
def Document.parent? (document : Document) : Option ℕ :=
  match document.collection, document.get? "parent" with
  | .request, some (.ref id) => some id
  | _, _ => none

/-- One request has the other one as its parent. -/
def Document.ChildOf (document parent : Document) : Prop :=
  parent.collection = .request ∧ document.parent? = some parent.id

instance (document parent : Document) : Decidable (document.ChildOf parent) :=
  inferInstanceAs (Decidable (_ ∧ _))

inductive Q
  | eq (field : String) (value : FieldValue)
  | lt (field : String) (time : ℤ)
  | and (left right : Q)
  | or (left right : Q)

/-- A field that is absent, or no date, is not before any time. -/
def Q.Matches (document : Document) : Q → Prop
  | .eq field value => document.get? field = some value
  | .lt field time =>
    match document.get? field with
    | some (.date date) => date < storedDate time
    | _ => False
  | .and left right => left.Matches document ∧ right.Matches document
  | .or left right => left.Matches document ∨ right.Matches document

instance Q.decidableMatches (document : Document) : (q : Q) → Decidable (q.Matches document)
  | .eq field value => inferInstanceAs (Decidable (document.get? field = some value))
  | .lt field time => by
    unfold Q.Matches
    split <;> infer_instance
  | .and left right =>
    have := Q.decidableMatches document left
    have := Q.decidableMatches document right
    inferInstanceAs (Decidable (left.Matches document ∧ right.Matches document))
  | .or left right =>
    have := Q.decidableMatches document left
    have := Q.decidableMatches document right
    inferInstanceAs (Decidable (left.Matches document ∨ right.Matches document))

structure PruneTask where
  collection : Collection
  field : String
  deleteAfter : ℤ
  additionalQuery : Option Q

/-- The query of a task, once the time that is old enough is known. -/
def PruneTask.query (task : PruneTask) (deleteOlderThan : ℤ) : Q :=
  match task.additionalQuery with
  | some additional => .and (.lt task.field deleteOlderThan) additional
  | none => .lt task.field deleteOlderThan

/-- The documents that the query of a task finds. -/
def PruneTask.Selects (task : PruneTask) (deleteOlderThan : ℤ) (document : Document) : Prop :=
  document.collection = task.collection ∧ (task.query deleteOlderThan).Matches document

instance (task : PruneTask) (deleteOlderThan : ℤ) (document : Document) :
    Decidable (task.Selects deleteOlderThan document) := inferInstanceAs (Decidable (_ ∧ _))

structure Ttls where
  info : ℤ
  action : ℤ
  event : ℤ

def Ttls.values (ttl : Ttls) : List ℤ := [ttl.event, ttl.action, ttl.info]

def finishedQuery : Q :=
  .or (.or (.eq "status" (.str "SUCCESS")) (.eq "status" (.str "CANCELED")))
    (.eq "status" (.str "ERROR"))

/-- The finished requests of one command type that have no parent. -/
def requestQuery (commandType : String) : Q :=
  .and (.and finishedQuery (.eq "has_parent" (.bool false)))
    (.eq "command_type" (.str commandType))

def requestTask (minutes : ℤ) (commandType : String) : Except PyError (List PruneTask) :=
  if 0 < minutes then do
    let deleteAfter ← timedelta minutes
    pure [⟨.request, "created_at", deleteAfter, some (requestQuery commandType)⟩]
  else pure []

def eventTask (minutes : ℤ) : Except PyError (List PruneTask) :=
  if 0 < minutes then do
    let deleteAfter ← timedelta minutes
    pure [⟨.event, "timestamp", deleteAfter, none⟩]
  else pure []

/-- The interval is in minutes. As a float it is exact: what `timedelta` takes is
far below `2 ^ 53`. -/
def setupPruningTasks (ttl : Ttls) : Except PyError (List PruneTask × Option ℚ) := do
  let info ← requestTask ttl.info "INFO"
  let action ← requestTask ttl.action "ACTION"
  let event ← eventTask ttl.event
  let realTtls := ttl.values.filter fun minutes => 0 < minutes
  pure (info ++ action ++ event, realTtls.min?.map fun minutes => (minutes : ℚ) / 2)

structure MongoPruner where
  tasks : List PruneTask
  runEvery : ℤ

/-- The part of `BartenderApp.__init__` that creates the pruner, or not. -/
def createPruner (ttl : Ttls) : Except PyError (Option MongoPruner) := do
  let (tasks, runEvery) ← setupPruningTasks ttl
  match runEvery with
  | none => pure none
  | some minutes =>
    if minutes = 0 then pure none
    else
      let runEvery ← timedelta minutes
      pure (some ⟨tasks, runEvery⟩)

/-- What `delete()` leaves of a database, by what the query finds. -/
abbrev Delete := List Document → (Document → Bool) → List Document

/-- `delete()` removes what the query finds and, as `Request.parent` is declared,
requests whose parent it has removed, and no other document. -/
structure Delete.Cascades (delete : Delete) : Prop where
  kept : ∀ {documents found d}, d ∈ delete documents found → d ∈ documents ∧ found d = false
  removed : ∀ {documents found d}, d ∈ documents → d ∉ delete documents found →
    ∃ a ∈ documents, found a = true ∧ Relation.ReflTransGen
      (fun b c => (c ∈ documents ∧ c ∉ delete documents found) ∧ c.ChildOf b) a d

/-- One round of the loop in `MongoPruner.run`. An exception ends the round and
keeps what was deleted. -/
def prune (delete : Delete) (tasks : List PruneTask) (currentTime : ℤ) :
    Program (List Document) PyError Unit :=
  tasks.forM fun task => do
    let deleteOlderThan ← liftM (subtract currentTime task.deleteAfter)
    modify fun documents => delete documents fun d => task.Selects deleteOlderThan d

def pruned (delete : Delete) (tasks : List PruneTask) (currentTime : ℤ)
    (documents : List Document) : List Document :=
  tasks.foldl (fun documents task =>
    delete documents fun d => task.Selects (currentTime - task.deleteAfter) d) documents

theorem exec_prune {delete : Delete} {tasks : List PruneTask} {currentTime : ℤ}
    (h : ∀ task ∈ tasks, IsDatetime (currentTime - task.deleteAfter)) (documents : List Document) :
    exec (prune delete tasks currentTime) documents =
      (.ok (), pruned delete tasks currentTime documents) := by
  induction tasks generalizing documents with
  | nil => rfl
  | cons task rest ih =>
    have hrest := ih fun other hother => h other (List.mem_cons_of_mem _ hother)
    unfold prune at hrest ⊢
    rw [List.forM_eq_forM, List.forM_cons, exec_bind, exec_bind, exec_liftM,
      subtract_eq_ok (h task List.mem_cons_self)]
    simp only [exec_modify]
    rw [← List.forM_eq_forM, hrest]
    rfl

section Cascades

variable {delete : Delete} {tasks : List PruneTask} {currentTime : ℤ} {documents : List Document}
  {d : Document}

theorem Delete.Cascades.of_mem_pruned (h : delete.Cascades)
    (hd : d ∈ pruned delete tasks currentTime documents) :
    d ∈ documents ∧ ∀ task ∈ tasks, ¬ task.Selects (currentTime - task.deleteAfter) d := by
  induction tasks generalizing documents with
  | nil => exact ⟨hd, List.forall_mem_nil _⟩
  | cons task rest ih =>
    obtain ⟨hfirst, hrest⟩ := ih hd
    obtain ⟨hmem, hnot⟩ := h.kept hfirst
    exact ⟨hmem, List.forall_mem_cons.mpr ⟨of_decide_eq_false hnot, hrest⟩⟩

/-- What a round removes descends, by what it removes, from what a task selects. -/
theorem Delete.Cascades.of_not_mem_pruned (h : delete.Cascades) (hd : d ∈ documents)
    (hgone : d ∉ pruned delete tasks currentTime documents) :
    ∃ a ∈ documents, (∃ task ∈ tasks, task.Selects (currentTime - task.deleteAfter) a) ∧
      Relation.ReflTransGen (fun b c => (c ∈ documents ∧
        c ∉ pruned delete tasks currentTime documents) ∧ c.ChildOf b) a d := by
  induction tasks generalizing documents with
  | nil => exact absurd hd hgone
  | cons task rest ih =>
    let found (d : Document) : Bool := task.Selects (currentTime - task.deleteAfter) d
    by_cases hfirst : d ∈ delete documents found
    · obtain ⟨a, ha, ⟨other, hother, hselects⟩, hchain⟩ := ih hfirst hgone
      refine ⟨a, (h.kept ha).1, ⟨other, List.mem_cons_of_mem _ hother, hselects⟩, ?_⟩
      exact Relation.ReflTransGen.mono
        (fun b c hc => ⟨⟨(h.kept hc.1.1).1, hc.1.2⟩, hc.2⟩) _ _ hchain
    · obtain ⟨a, ha, hselects, hchain⟩ := h.removed hd hfirst
      have hlater : ∀ c ∉ delete documents found,
          c ∉ pruned delete rest currentTime (delete documents found) :=
        fun c hc hmem => hc (h.of_mem_pruned hmem).1
      refine ⟨a, ha, ⟨task, List.mem_cons_self, of_decide_eq_true hselects⟩, ?_⟩
      exact Relation.ReflTransGen.mono
        (fun b c hc => ⟨⟨hc.1.1, hlater c hc.1.2⟩, hc.2⟩) _ _ hchain

end Cascades

section Cascade

variable (documents : List Document) (found : Document → Bool)

/-- The requests that are removed with what is found, up to a number of generations. -/
def doomed : ℕ → Document → Bool
  | 0, d => found d
  | n + 1, d => doomed n d || documents.any fun b => doomed n b && d.ChildOf b

/-- `delete()`, which goes from the requests it has found to their children. -/
def cascade : Delete := fun documents found =>
  documents.filter fun d => !doomed documents found documents.length d

variable {documents found}

theorem doomed_of_found {d : Document} (h : found d = true) (n : ℕ) :
    doomed documents found n d = true := by
  induction n with
  | zero => exact h
  | succ n ih => rw [doomed, ih, Bool.true_or]

theorem doomed_mono {d : Document} {m n : ℕ} (hmn : m ≤ n) (h : doomed documents found m d = true) :
    doomed documents found n d = true := by
  induction hmn with
  | refl => exact h
  | step _ ih => rw [doomed, ih, Bool.true_or]

theorem exists_of_doomed {n : ℕ} (hn : n ≤ documents.length) {d : Document} (hd : d ∈ documents)
    (h : doomed documents found n d = true) :
    ∃ a ∈ documents, found a = true ∧ Relation.ReflTransGen
      (fun b c => (c ∈ documents ∧ c ∉ cascade documents found) ∧ c.ChildOf b) a d := by
  induction n generalizing d with
  | zero => exact ⟨d, hd, h, .refl⟩
  | succ n ih =>
    have hgone : d ∉ cascade documents found := by
      simp [cascade, doomed_mono hn h]
    rw [doomed, Bool.or_eq_true, List.any_eq_true] at h
    rcases h with h | ⟨b, hb, hchild⟩
    · exact ih (Nat.le_of_succ_le hn) hd h
    · rw [Bool.and_eq_true] at hchild
      obtain ⟨a, ha, hfound, hchain⟩ := ih (Nat.le_of_succ_le hn) hb hchild.1
      exact ⟨a, ha, hfound, hchain.tail ⟨⟨hd, hgone⟩, of_decide_eq_true hchild.2⟩⟩

theorem cascades_cascade : Delete.Cascades cascade where
  kept {documents found d} h := by
    obtain ⟨hd, hnot⟩ := List.mem_filter.mp h
    refine ⟨hd, Bool.eq_false_of_not_eq_true fun hfound => ?_⟩
    rw [doomed_of_found hfound] at hnot
    cases hnot
  removed {documents found d} hd hgone := by
    refine exists_of_doomed le_rfl hd ?_
    by_contra hnot
    exact hgone (List.mem_filter.mpr ⟨hd, by simpa using hnot⟩)

end Cascade

end Bartender
