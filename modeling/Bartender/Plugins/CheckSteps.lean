import Bartender.Plugins.Monitors

/-!
# The steps of `check_status`

`PluginStatusMonitor.check_status` reads instance documents, decides on what it
has read and saves the new status. The query may read documents ahead of the
loop, so readings wait in a queue. A mark is kept beside each of them, for what
is to be known about the time of the reading.
-/

namespace Bartender

structure Reading (γ : Type) where
  id : ℕ
  document : InstanceDocument
  mark : γ

structure CheckPass (γ : Type) where
  /-- The instances that the query has yet to read. -/
  unread : List ℕ
  held : List (Reading γ)
  /-- A changed status before it is saved. -/
  save : Option (Reading γ × Status)

namespace CheckPass

variable {γ : Type}

def begin (ids : List ℕ) : CheckPass γ := ⟨ids, [], none⟩

def outstanding (pass : CheckPass γ) : List (Reading γ) :=
  (pass.save.map Prod.fst).toList ++ pass.held

/-- The query reads the next document. -/
def fetch (mark : ℕ → γ) (w : World) (pass : CheckPass γ) : CheckPass γ :=
  match pass.unread with
  | [] => pass
  | id :: rest =>
    match w.instances id with
    | some document =>
      { pass with unread := rest, held := pass.held ++ [⟨id, document, mark id⟩] }
    | none => { pass with unread := rest }

theorem fetch_of_none {mark : ℕ → γ} {w : World} {id : ℕ} {rest : List ℕ} {held : List (Reading γ)}
    {save : Option (Reading γ × Status)} (h : w.instances id = none) :
    fetch mark w ⟨id :: rest, held, save⟩ = ⟨rest, held, save⟩ := by
  simp [fetch, h]

theorem fetch_of_some {mark : ℕ → γ} {w : World} {id : ℕ} {rest : List ℕ} {held : List (Reading γ)}
    {save : Option (Reading γ × Status)} {document : InstanceDocument}
    (h : w.instances id = some document) :
    fetch mark w ⟨id :: rest, held, save⟩ =
      ⟨rest, held ++ [⟨id, document, mark id⟩], save⟩ := by
  simp [fetch, h]

/-- The body of the loop up to `instance.save()`. -/
def decide (timeout now : ℕ) (pass : CheckPass γ) : CheckPass γ :=
  match pass.save, pass.held with
  | none, reading :: rest =>
    let status := (checkInstance timeout now reading.document).status
    { pass with
      held := rest
      save := if status = reading.document.status then none else some (reading, status) }
  | _, _ => pass

/-- `instance.save()`, which writes the status and nothing else. -/
def saveStatus (pass : CheckPass γ) (w : World) : World :=
  match pass.save with
  | some (reading, status) => w.setInstanceStatus reading.id status
  | none => w

def saved (pass : CheckPass γ) : CheckPass γ := { pass with save := none }

def leave (pass : CheckPass γ) : CheckPass γ := { pass with unread := [], held := [] }

def visit (timeout : ℕ) (id : ℕ) (w : World) : World :=
  (((begin [id] : CheckPass Unit).fetch (fun _ => ()) w).decide timeout w.now).saveStatus w

theorem checkInstance_heartbeat (timeout now : ℕ) (document : InstanceDocument) :
    (checkInstance timeout now document).heartbeat = document.heartbeat := by
  unfold checkInstance
  split
  · rfl
  · split_ifs <;> rfl

theorem checkInstance_status {timeout now : ℕ} {document : InstanceDocument}
    (h : (checkInstance timeout now document).status ≠ document.status) :
    (checkInstance timeout now document).status ∈ [Status.running, .unresponsive] := by
  unfold checkInstance at h ⊢
  split at h
  · exact absurd rfl h
  · split_ifs at h ⊢
    · simp
    · simp
    · exact absurd rfl h

section Outstanding

variable {mark : ℕ → γ} {w : World} {pass : CheckPass γ} {reading : Reading γ}

theorem mem_outstanding_fetch (h : reading ∈ (pass.fetch mark w).outstanding) :
    reading ∈ pass.outstanding ∨
      w.instances reading.id = some reading.document ∧ reading.mark = mark reading.id := by
  obtain ⟨unread, held, save⟩ := pass
  cases unread with
  | nil => exact .inl h
  | cons id rest =>
    cases hdocument : w.instances id with
    | none =>
      rw [fetch_of_none hdocument] at h
      exact .inl h
    | some document =>
      rw [fetch_of_some hdocument] at h
      unfold outstanding at h
      rw [← List.append_assoc] at h
      rcases List.mem_append.mp h with hold | hnew
      · exact .inl hold
      · rw [List.mem_singleton.mp hnew]
        exact .inr ⟨hdocument, rfl⟩

theorem fetch_save : (pass.fetch mark w).save = pass.save := by
  unfold fetch
  split
  · rfl
  · split <;> rfl

theorem mem_outstanding_decide {timeout now : ℕ}
    (h : reading ∈ (pass.decide timeout now).outstanding) : reading ∈ pass.outstanding := by
  obtain ⟨unread, held, save⟩ := pass
  cases save with
  | some entry => exact h
  | none =>
    cases held with
    | nil => exact h
    | cons first rest =>
      unfold decide outstanding at h
      dsimp only at h
      split_ifs at h
      · exact List.mem_cons_of_mem _ h
      · exact h

/-- What is going to be saved was decided on before, or is decided on now. -/
theorem save_decide {timeout now : ℕ} {status : Status}
    (h : (pass.decide timeout now).save = some (reading, status)) :
    pass.save = some (reading, status) ∨
      pass.save = none ∧ pass.held.head? = some reading ∧
        status = (checkInstance timeout now reading.document).status ∧
        status ≠ reading.document.status := by
  obtain ⟨unread, held, save⟩ := pass
  cases save with
  | some entry => exact .inl h
  | none =>
    cases held with
    | nil => exact .inl h
    | cons first rest =>
      unfold decide at h
      dsimp only at h
      split_ifs at h with hsame
      cases h
      exact .inr ⟨rfl, rfl, rfl, hsame⟩

theorem mem_outstanding_saved (h : reading ∈ pass.saved.outstanding) :
    reading ∈ pass.outstanding := by
  have hheld : pass.saved.outstanding = pass.held := rfl
  rw [hheld] at h
  exact List.mem_append_right _ h

theorem mem_outstanding_leave (h : reading ∈ pass.leave.outstanding) :
    reading ∈ pass.outstanding := by
  rcases List.mem_append.mp h with hsave | hheld
  · exact List.mem_append_left _ hsave
  · exact absurd hheld List.not_mem_nil

theorem mem_outstanding_of_save {status : Status} (h : pass.save = some (reading, status)) :
    reading ∈ pass.outstanding := by
  simp [outstanding, h]

end Outstanding

/-- Uninterrupted, the steps are `check_status` on that instance. -/
theorem visit_eq_checkStatus (timeout id : ℕ) (w : World) :
    visit timeout id w = checkStatus timeout (· == id) w := by
  have hinstances : (visit timeout id w).instances =
      (checkStatus timeout (· == id) w).instances := by
    funext other
    cases hdocument : w.instances id with
    | none =>
      by_cases hother : other = id <;>
        simp [visit, begin, fetch, decide, saveStatus, checkStatus, hdocument, hother]
    | some document =>
      have hheartbeat := checkInstance_heartbeat timeout w.now document
      by_cases hother : other = id
      · subst hother
        by_cases hstatus : (checkInstance timeout w.now document).status = document.status
        · have hsame : checkInstance timeout w.now document = document := by
            cases document
            cases hcheck : checkInstance timeout w.now _
            rw [hcheck] at hstatus hheartbeat
            cases hstatus
            cases hheartbeat
            rfl
          simp [visit, begin, fetch, decide, saveStatus, checkStatus, hdocument, hsame]
        · simp [visit, begin, fetch, decide, saveStatus, checkStatus, hdocument, hstatus,
            World.setInstanceStatus, ← hheartbeat]
      · by_cases hstatus : (checkInstance timeout w.now document).status = document.status <;>
          simp [visit, begin, fetch, decide, saveStatus, checkStatus, hdocument, hother, hstatus,
            World.setInstanceStatus]
  have hrest : ∀ pass : CheckPass Unit,
      pass.saveStatus w = { w with instances := (pass.saveStatus w).instances } := by
    intro pass
    unfold saveStatus World.setInstanceStatus
    split
    · split <;> rfl
    · rfl
  calc visit timeout id w = { w with instances := (visit timeout id w).instances } := hrest _
    _ = { w with instances := (checkStatus timeout (· == id) w).instances } := by
      rw [hinstances]
    _ = checkStatus timeout (· == id) w := rfl

end CheckPass
end Bartender
