import Bartender.Library.Interleaving
import Bartender.Library.Runs
import Bartender.Plugins.CheckSteps
import Bartender.Plugins.Steps

/-!
# Status passes beside shutdowns

A pass of `check_status` runs beside calls of `stop_plugin` and plugins that
report `STOPPED`. A save writes the status field without looking at it again, so
what it decided on may be out of date.
-/

namespace Bartender

open Interleaving

def shutdownStatuses : List Status := [.stopping, .stopped, .dead]

inductive StatusEvent (ι : Type)
  | fetch
  | decide
  | save
  | leave
  | stopStep (i : ι) (around : Surroundings)
  | reportStopped (id : ℕ)
  | heartbeat (id : ℕ)
  | wait (time : ℕ)

/-- The calls of `stop_plugin` with the world they share, and the pass. -/
structure StatusRace (ι : Type) where
  calls : Pool ι StopCall World
  pass : CheckPass ℕ
  /-- How often the others have written the status of each instance. -/
  writes : ℕ → ℕ
  /-- What a save has overwritten that was written after its reading, and with what. -/
  overwritten : List (Status × Status)

namespace StatusRace

variable {ι : Type} [DecidableEq ι]

def world (race : StatusRace ι) : World := race.calls.shared

def onWorld (race : StatusRace ι) (f : World → World) : StatusRace ι :=
  { race with calls := race.calls.outside f }

def countWrite (race : StatusRace ι) (id : ℕ) : StatusRace ι :=
  { race with writes := Function.update race.writes id (race.writes id + 1) }

/-- What the save is going to overwrite, if it was written after the reading. -/
def overwriting (race : StatusRace ι) : List (Status × Status) :=
  match race.pass.save with
  | some (reading, status) =>
    match race.world.instances reading.id with
    | some document =>
      if race.writes reading.id = reading.mark then [] else [(document.status, status)]
    | none => []
  | none => []

def apply (timeout : ℕ) (event : StatusEvent ι) (race : StatusRace ι) : StatusRace ι :=
  match event with
  | .fetch => { race with pass := race.pass.fetch race.writes race.world }
  | .decide => { race with pass := race.pass.decide timeout race.world.now }
  | .save =>
    { race.onWorld race.pass.saveStatus with
      pass := race.pass.saved
      overwritten := race.overwritten ++ race.overwriting }
  | .leave => { race with pass := race.pass.leave }
  | .stopStep i around =>
    let race' := { race with calls := race.calls.step (StopCall.step around) i }
    match (race.calls.threads i).written with
    | some id => race'.countWrite id
    | none => race'
  | .reportStopped id => (race.onWorld fun w => w.setInstanceStatus id .stopped).countWrite id
  | .heartbeat id =>
    race.onWorld fun w =>
      w.updateInstance id fun document => { document with heartbeat := some w.now }
  | .wait time => race.onWorld fun w => { w with now := w.now + time }

/-- No `STOPPING`, `STOPPED` or `DEAD` was overwritten on an older reading. -/
def NothingLost (race : StatusRace ι) : Prop :=
  ∀ entry ∈ race.overwritten,
    ¬ (entry.1 ∈ shutdownStatuses ∧ entry.2 ∈ [Status.running, .unresponsive])

/-- A save comes before anybody else writes the status it has read. -/
def UpToDate (event : StatusEvent ι) (race : StatusRace ι) : Prop :=
  match event with
  | .save => ∀ reading status, race.pass.save = some (reading, status) →
    race.writes reading.id = reading.mark
  | _ => True

end StatusRace

namespace StatusRace

variable {ι : Type}

/-- The reading is as old as its mark says: what others have written since is
one of their statuses. -/
def Dated (race : StatusRace ι) (reading : Reading ℕ) : Prop :=
  ∃ document, race.world.instances reading.id = some document ∧
    (race.writes reading.id ≠ reading.mark → document.status ∈ shutdownStatuses)

structure Watched (race : StatusRace ι) : Prop where
  nodup : (race.pass.outstanding.map (·.id) ++ race.pass.unread).Nodup
  marks : ∀ reading ∈ race.pass.outstanding, reading.mark ≤ race.writes reading.id
  dated : ∀ reading ∈ race.pass.outstanding, race.Dated reading
  decided : ∀ reading status, race.pass.save = some (reading, status) →
    status ∈ [Status.running, .unresponsive]

variable {race race' : StatusRace ι}

theorem Watched.quiet (h : Watched race) (hpass : race'.pass = race.pass)
    (hwrites : race'.writes = race.writes)
    (hstatus : ∀ id document, race.world.instances id = some document →
      ∃ document', race'.world.instances id = some document' ∧
        document'.status = document.status) : Watched race' where
  nodup := hpass ▸ h.nodup
  marks := by
    rw [hpass, hwrites]
    exact h.marks
  dated := by
    rw [hpass]
    intro reading hreading
    obtain ⟨document, hdocument, hlater⟩ := h.dated reading hreading
    obtain ⟨document', hdocument', hsame⟩ := hstatus _ _ hdocument
    refine ⟨document', hdocument', ?_⟩
    rw [hwrites, hsame]
    exact hlater
  decided := hpass ▸ h.decided

/-- Somebody else writes one of their statuses. -/
theorem Watched.write (h : Watched race) (hpass : race'.pass = race.pass) {id : ℕ}
    {status : Status} (hstatus : status ∈ shutdownStatuses)
    (hworld : race'.world.instances = (race.world.setInstanceStatus id status).instances)
    (hwrites : race'.writes = Function.update race.writes id (race.writes id + 1)) :
    Watched race' where
  nodup := hpass ▸ h.nodup
  marks := by
    rw [hpass, hwrites]
    intro reading hreading
    have hmark := h.marks reading hreading
    by_cases hid : reading.id = id
    · rw [hid] at hmark ⊢
      rw [Function.update_self]
      omega
    · rwa [Function.update_of_ne hid]
  dated := by
    rw [hpass]
    intro reading hreading
    obtain ⟨document, hdocument, hlater⟩ := h.dated reading hreading
    unfold Dated
    rw [hworld, hwrites]
    by_cases hid : reading.id = id
    · subst hid
      refine ⟨{ document with status := status }, ?_, fun _ => hstatus⟩
      simp [World.setInstanceStatus, hdocument]
    · refine ⟨document, ?_, ?_⟩
      · unfold World.setInstanceStatus
        split
        · rw [← hdocument]
          exact Function.update_of_ne hid _ _
        · exact hdocument
      · rwa [Function.update_of_ne hid]
  decided := hpass ▸ h.decided

theorem Watched.fetch (h : Watched race) :
    Watched { race with pass := race.pass.fetch race.writes race.world } := by
  obtain ⟨calls, ⟨unread, held, save⟩, writes, overwritten⟩ := race
  cases unread with
  | nil => exact h
  | cons id rest =>
    show Watched ⟨calls, CheckPass.fetch writes calls.shared _, writes, overwritten⟩
    cases hdocument : calls.shared.instances id with
    | none =>
      rw [CheckPass.fetch_of_none hdocument]
      refine ⟨?_, h.marks, h.dated, h.decided⟩
      exact h.nodup.sublist ((List.Sublist.refl _).append (List.sublist_cons_self id rest))
    | some document =>
      rw [CheckPass.fetch_of_some hdocument]
      have hnew : ∀ P : Reading ℕ → Prop,
          (∀ reading ∈ (save.map Prod.fst).toList ++ held, P reading) →
          P ⟨id, document, writes id⟩ →
          ∀ reading ∈ (save.map Prod.fst).toList ++ (held ++ [⟨id, document, writes id⟩]),
            P reading := by
        intro P hold hlast reading hreading
        rw [← List.append_assoc] at hreading
        rcases List.mem_append.mp hreading with hmem | hmem
        · exact hold reading hmem
        · rw [List.mem_singleton.mp hmem]
          exact hlast
      refine ⟨?_, hnew _ h.marks le_rfl, hnew _ h.dated ⟨document, hdocument, fun hne => ?_⟩,
        h.decided⟩
      · have hnodup := h.nodup
        simp only [CheckPass.outstanding] at hnodup ⊢
        simpa using hnodup
      · exact absurd rfl hne

theorem Watched.decide (h : Watched race) (timeout : ℕ) :
    Watched { race with pass := race.pass.decide timeout race.world.now } := by
  obtain ⟨calls, ⟨unread, held, save⟩, writes, overwritten⟩ := race
  cases save with
  | some entry => exact h
  | none =>
    cases held with
    | nil => exact h
    | cons reading rest =>
      unfold CheckPass.decide
      dsimp only
      split_ifs with hsame
      · have hsub : ∀ other ∈ rest, other ∈ reading :: rest := fun _ => List.mem_cons_of_mem _
        refine ⟨?_, fun r hr => h.marks r (hsub r hr), fun r hr => h.dated r (hsub r hr), ?_⟩
        · exact (List.nodup_cons.mp h.nodup).2
        · intro _ _ hsave
          cases hsave
      · refine ⟨h.nodup, h.marks, h.dated, ?_⟩
        intro _ _ hsave
        cases hsave
        exact CheckPass.checkInstance_status hsame

theorem Watched.leave (h : Watched race) :
    Watched { race with pass := race.pass.leave } := by
  have hsub : race.pass.leave.outstanding.Sublist race.pass.outstanding :=
    (List.Sublist.refl _).append (List.nil_sublist _)
  refine ⟨?_, fun r hr => h.marks r (hsub.subset hr), fun r hr => h.dated r (hsub.subset hr),
    h.decided⟩
  exact h.nodup.sublist ((hsub.map _).append (List.nil_sublist _))

theorem Watched.save (h : Watched race) (overwritten : List (Status × Status)) :
    Watched { race.onWorld race.pass.saveStatus with
      pass := race.pass.saved, overwritten := overwritten } := by
  obtain ⟨calls, ⟨unread, held, save⟩, writes, overwritten'⟩ := race
  cases save with
  | none => exact ⟨h.nodup, h.marks, h.dated, h.decided⟩
  | some entry =>
    obtain ⟨reading, status⟩ := entry
    obtain ⟨hfirst, hrest⟩ := List.nodup_cons.mp h.nodup
    refine ⟨hrest, fun r hr => h.marks r (List.mem_cons_of_mem _ hr), fun r hr => ?_, ?_⟩
    · obtain ⟨document, hdocument, hlater⟩ := h.dated r (List.mem_cons_of_mem _ hr)
      have hne : r.id ≠ reading.id := by
        intro heq
        have hmem : r.id ∈ held.map (·.id) := List.mem_map_of_mem hr
        rw [heq] at hmem
        exact hfirst (List.mem_append_left _ hmem)
      refine ⟨document, ?_, hlater⟩
      show (calls.shared.setInstanceStatus reading.id status).instances r.id = some document
      unfold World.setInstanceStatus
      split
      · exact (Function.update_of_ne hne _ _).trans hdocument
      · exact hdocument
    · intro _ _ hsave
      cases hsave

variable [DecidableEq ι]

theorem Watched.apply (h : Watched race) (timeout : ℕ) (event : StatusEvent ι) :
    Watched (race.apply timeout event) := by
  have hset : ∀ (id id' : ℕ) (f : InstanceDocument → InstanceDocument)
      (document : InstanceDocument), (∀ document, (f document).status = document.status) →
      race.world.instances id' = some document →
      ∃ document', (race.world.updateInstance id f).instances id' = some document' ∧
        document'.status = document.status := by
    intro id id' f document hf hdocument
    by_cases hid : id' = id
    · subst hid
      exact ⟨f document, by simp [World.updateInstance, hdocument], hf document⟩
    · exact ⟨document, by simp [World.updateInstance, hid, hdocument], rfl⟩
  cases event with
  | fetch => exact h.fetch
  | decide => exact h.decide timeout
  | save => exact h.save _
  | leave => exact h.leave
  | stopStep i around =>
    unfold StatusRace.apply
    rcases StopCall.step_instances around (race.calls.threads i) race.world with
      ⟨hnone, hworld⟩ | ⟨id, hsome, status, hstatus, hworld⟩
    · simp only [hnone]
      refine h.quiet rfl rfl fun id document hdocument => ⟨document, ?_, rfl⟩
      rw [← hdocument]
      exact congrFun hworld id
    · simp only [hsome]
      have hsubset : [Status.stopping, .dead] ⊆ shutdownStatuses := by decide
      exact h.write rfl (hsubset hstatus) hworld rfl
  | reportStopped id => exact h.write rfl (by simp [shutdownStatuses]) rfl rfl
  | heartbeat id =>
    refine h.quiet rfl rfl ?_
    intro id' document hdocument
    exact hset id id' _ document (fun _ => rfl) hdocument
  | wait time =>
    refine h.quiet rfl rfl ?_
    intro id document hdocument
    exact ⟨document, hdocument, rfl⟩

/-- A save overwrites what others have written exactly when it is out of date. -/
theorem Watched.nothingLost_iff (h : Watched race) (hlost : NothingLost race) (timeout : ℕ)
    (event : StatusEvent ι) : NothingLost (race.apply timeout event) ↔ UpToDate event race := by
  cases event with
  | save =>
    have happly : NothingLost (race.apply timeout .save) ↔
        ∀ entry ∈ race.overwriting,
          ¬ (entry.1 ∈ shutdownStatuses ∧ entry.2 ∈ [Status.running, .unresponsive]) := by
      constructor
      · intro hafter entry hentry
        exact hafter entry (List.mem_append_right _ hentry)
      · intro hnew entry hentry
        rcases List.mem_append.mp hentry with hold | hmem
        · exact hlost entry hold
        · exact hnew entry hmem
    rw [happly]
    unfold UpToDate overwriting
    cases hsave : race.pass.save with
    | none => simp
    | some entry =>
      obtain ⟨reading, status⟩ := entry
      have hmem : reading ∈ race.pass.outstanding := by simp [CheckPass.outstanding, hsave]
      obtain ⟨document, hdocument, hlater⟩ := h.dated reading hmem
      have hstatus := h.decided reading status hsave
      simp only [hdocument]
      by_cases hmark : race.writes reading.id = reading.mark
      · simp [hmark]
      · have hdown := hlater hmark
        simp only [if_neg hmark, List.mem_singleton, forall_eq]
        constructor
        · intro hnot
          exact absurd ⟨hdown, hstatus⟩ hnot
        · intro hdate
          exact absurd (hdate reading status rfl) hmark
  | stopStep i around =>
    have hsame : (race.apply timeout (.stopStep i around)).overwritten = race.overwritten := by
      unfold StatusRace.apply
      dsimp only
      split <;> rfl
    unfold NothingLost
    rw [hsame]
    exact ⟨fun _ => trivial, fun _ => hlost⟩
  | _ => exact ⟨fun _ => trivial, fun _ => hlost⟩

def initial (calls : ι → StopCall) (w : World) (ids : List ℕ) (writes : ℕ → ℕ) : StatusRace ι :=
  ⟨⟨calls, w⟩, .begin ids, writes, []⟩

/-- A pass beside any number of shutdowns loses none of the statuses that the
others write, exactly in the runs whose saves all come before anybody else
writes the status that was read. -/
theorem statusRace_nothingLost_iff (timeout : ℕ) (calls : ι → StopCall) (w : World)
    {ids : List ℕ} (hnodup : ids.Nodup) (writes : ℕ → ℕ) (events : List (StatusEvent ι)) :
    Runs.Throughout (apply timeout) NothingLost events (initial calls w ids writes) ↔
      Runs.Meets (apply timeout) UpToDate events (initial calls w ids writes) := by
  have hwatched : Watched (initial calls w ids writes) := by
    refine ⟨hnodup, ?_, ?_, ?_⟩
    · intro reading hreading
      cases hreading
    · intro reading hreading
      cases hreading
    · intro reading status hsave
      cases hsave
  have hlost : NothingLost (initial calls w ids writes) := fun entry hentry => by cases hentry
  exact Runs.throughout_iff_meets_of_invariant (fun event race h => h.apply timeout event)
    (fun event race h hlost => h.nothingLost_iff hlost timeout event) hwatched hlost events

/-- A plugin that was unresponsive and has sent a heartbeat again. -/
def revived : World :=
  { World.single (singlePlugin "foo" []) .unresponsive ⟨1, false, .alive⟩ with
    instances := fun id => if id = 0 then some ⟨.unresponsive, some 0⟩ else none }

/-- The pass is over before the plugin is stopped. -/
theorem statusRace_nothingLost_iff_sequential :
    let stop := StatusEvent.stopStep () ⟨false, true, false⟩
    let events := [.fetch, .decide, .save, stop, stop, stop]
    let race := initial (fun _ => .begin (singlePlugin "foo" [])) revived [0] (fun _ => 0)
    Runs.Throughout (apply 30) NothingLost events race ↔
      Runs.Meets (apply 30) UpToDate events race :=
  statusRace_nothingLost_iff 30 _ revived (by decide) _ _

/-- The plugin is stopped after the pass has decided on `RUNNING`; the save
comes after it has reported `STOPPED`. -/
theorem statusRace_loses_stopped :
    let stop := StatusEvent.stopStep () ⟨false, true, false⟩
    let events := [.fetch, .decide, stop, stop, stop, stop, stop, .reportStopped 0, .save]
    let race := Runs.final (apply 30) events
      (initial (fun _ => .begin (singlePlugin "foo" [])) revived [0] (fun _ => 0))
    ¬ NothingLost race ∧ race.world.status (singlePlugin "foo" []) = .running := by
  intro stop events race
  constructor
  · intro hlost
    exact hlost (.stopped, .running) (by decide) (by decide)
  · decide

end StatusRace
end Bartender
