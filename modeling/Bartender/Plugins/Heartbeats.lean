import Bartender.Library.Interleaving
import Bartender.Library.Runs
import Bartender.Plugins.CheckSteps
import Bartender.Plugins.MonitorSteps

/-!
# Heartbeats and starts

`STARTING` means that a new process has not been heard of. `check_status` takes
an instance from `STARTING` to `RUNNING` when its heartbeat is young, and
`start_plugin` leaves the heartbeat of the process before in the document.
-/

namespace Bartender

open Interleaving

/-- The instance is stored with the status `STARTING`. -/
def World.Starting (w : World) (id : ℕ) : Prop :=
  (w.instances id).map (·.status) = some .starting

instance (w : World) (id : ℕ) : Decidable (w.Starting id) :=
  inferInstanceAs (Decidable ((w.instances id).map (·.status) = some .starting))

inductive Starter
  | caller (call : StartCall)
  | monitor (pass : MonitorPass)

structure StepInput where
  popen : Bool
  around : Surroundings
  stopped : Bool

/-- The instance for which the next step of the call writes `STARTING`. -/
def StartCall.starting (call : StartCall) : Option ℕ :=
  match call.point with
  | .markStarting newPlugin => newPlugin.instance?.map (·.id)
  | _ => none

namespace Starter

/-- The monitor makes one pass after the other. -/
def step (input : StepInput) (starter : Starter) (w : World) : Starter × World :=
  match starter with
  | .caller call => (.caller (call.step input.popen w).1, (call.step input.popen w).2)
  | .monitor pass =>
    if pass.point = .finished then (.monitor .begin, w)
    else
      (.monitor (pass.step input.popen input.around input.stopped w).1,
        (pass.step input.popen input.around input.stopped w).2)

def starting : Starter → Option ℕ
  | .caller call => call.starting
  | .monitor ⟨_, .start call⟩ => call.starting
  | .monitor _ => none

end Starter

/-- What is known of an instance when its document is read. -/
structure StartMark where
  /-- How often `STARTING` was written. -/
  starts : ℕ
  /-- A heartbeat was recorded since. -/
  answered : Bool
  deriving DecidableEq

inductive HeartbeatEvent (ι : Type)
  | openPass (ids : List ℕ)
  | fetch
  | decide
  | save
  | leave
  | step (i : ι) (input : StepInput)
  | initializeInstance (id : ℕ)
  | heartbeat (id : ℕ)
  | reportStopped (id : ℕ)
  | exit (plugin : LocalPluginRunner)
  | wait (time : ℕ)

/-- The starting threads with the world they share, and the status monitor. -/
structure HeartbeatRace (ι : Type) where
  starters : Pool ι Starter World
  pass : CheckPass StartMark
  marks : ℕ → StartMark
  /-- The instances that a save took from `STARTING` to `RUNNING` on a heartbeat
  that was not recorded after this `STARTING`. -/
  misjudged : List ℕ

namespace HeartbeatRace

variable {ι : Type} [DecidableEq ι]

def world (race : HeartbeatRace ι) : World := race.starters.shared

def operate (race : HeartbeatRace ι) (operation : InstanceOperation) : HeartbeatRace ι :=
  { race with starters := race.starters.outside operation.apply }

def markStarting (race : HeartbeatRace ι) (id : ℕ) : HeartbeatRace ι :=
  { race with marks := Function.update race.marks id ⟨(race.marks id).starts + 1, false⟩ }

def markAnswered (race : HeartbeatRace ι) (id : ℕ) : HeartbeatRace ι :=
  { race with marks := Function.update race.marks id ⟨(race.marks id).starts, true⟩ }

/-- The instance that the save is going to take from `STARTING` to `RUNNING`,
unless the decision is on a heartbeat recorded after this `STARTING`. -/
def misjudging (race : HeartbeatRace ι) : List ℕ :=
  match race.pass.save with
  | some (reading, .running) =>
    if race.world.Starting reading.id ∧
        reading.mark ≠ ⟨(race.marks reading.id).starts, true⟩ then [reading.id]
    else []
  | _ => []

def apply (timeout : ℕ) (event : HeartbeatEvent ι) (race : HeartbeatRace ι) : HeartbeatRace ι :=
  match event with
  | .openPass ids =>
    if race.pass.unread = [] ∧ race.pass.outstanding.isEmpty then { race with pass := .begin ids }
    else race
  | .fetch => { race with pass := race.pass.fetch race.marks race.world }
  | .decide => { race with pass := race.pass.decide timeout race.world.now }
  | .save =>
    { race with
      starters := race.starters.outside race.pass.saveStatus
      pass := race.pass.saved
      misjudged := race.misjudged ++ race.misjudging }
  | .leave => { race with pass := race.pass.leave }
  | .step i input =>
    let race' := { race with starters := race.starters.step (Starter.step input) i }
    match (race.starters.threads i).starting with
    | some id => race'.markStarting id
    | none => race'
  | .initializeInstance id => (race.operate (.initializeInstance id)).markAnswered id
  | .heartbeat id => (race.operate (.heartbeat id)).markAnswered id
  | .reportStopped id => race.operate (.reportStopped id)
  | .exit plugin => race.operate (.exit plugin)
  | .wait time => race.operate (.wait time)

/-- No instance became `RUNNING` on a heartbeat of the process before. -/
def NoneMisjudged (race : HeartbeatRace ι) : Prop := race.misjudged = []

instance (race : HeartbeatRace ι) : Decidable (NoneMisjudged race) :=
  inferInstanceAs (Decidable (race.misjudged = []))

/-- A heartbeat from before `STARTING` is old when `check_status` decides on it,
and an instance that it takes for `RUNNING` has not been started since it was
read. -/
def Distinguished (timeout : ℕ) (event : HeartbeatEvent ι) (race : HeartbeatRace ι) : Prop :=
  match event with
  | .decide => ∀ reading, race.pass.save = none → race.pass.held.head? = some reading →
    reading.document.status = .starting → reading.mark.answered = false →
      ∀ lastHeartbeat, reading.document.heartbeat = some lastHeartbeat →
        lastHeartbeat + timeout ≤ race.world.now
  | .save => ∀ reading, race.pass.save = some (reading, .running) →
    race.world.Starting reading.id → (race.marks reading.id).starts = reading.mark.starts
  | _ => True

end HeartbeatRace

section Starting

variable {w : World} {id id' : ℕ}

theorem World.starting_of_setInstanceStatus {status : Status}
    (hother : id' = id → status ≠ .starting) (h : (w.setInstanceStatus id status).Starting id') :
    w.Starting id' := by
  unfold World.Starting World.setInstanceStatus at h
  cases hdocument : w.instances id with
  | none =>
    rw [hdocument] at h
    exact h
  | some document =>
    rw [hdocument] at h
    by_cases hid : id' = id
    · subst hid
      simp only [Function.update_self, Option.map_some, Option.some.injEq] at h
      exact absurd h (hother rfl)
    · simp only [Function.update_of_ne hid] at h
      exact h

theorem World.starting_of_setStatus {plugin : LocalPluginRunner} {status : Status}
    (hother : plugin.instance?.map (·.id) = some id → status ≠ .starting)
    (h : (w.setStatus plugin status).Starting id) : w.Starting id := by
  unfold World.setStatus at h
  split at h
  · rename_i i hinstance
    refine starting_of_setInstanceStatus ?_ h
    rintro rfl
    exact hother (by rw [hinstance]; rfl)
  · exact h

theorem World.starting_of_updateInstance {f : InstanceDocument → InstanceDocument}
    (hf : ∀ document, (f document).status = .starting → document.status = .starting)
    (h : (w.updateInstance id f).Starting id') : w.Starting id' := by
  unfold World.Starting World.updateInstance at h
  by_cases hid : id' = id
  · subst hid
    simp only [Function.update_self, Option.map_map, Option.map_eq_some_iff,
      Function.comp_apply] at h
    obtain ⟨document, hdocument, hstatus⟩ := h
    unfold World.Starting
    rw [hdocument, Option.map_some, hf document hstatus]
  · simp only [Function.update_of_ne hid] at h
    exact h

theorem StopCall.starting_of_step {around : Surroundings} {call : StopCall}
    (h : (call.step around w).2.Starting id) : w.Starting id := by
  unfold World.Starting at h
  rcases StopCall.step_instances around call w with ⟨-, hsame⟩ | ⟨id', -, status, hstatus, hset⟩
  · rw [hsame] at h
    exact h
  · rw [hset] at h
    have hafter : (w.setInstanceStatus id' status).Starting id := h
    refine World.starting_of_setInstanceStatus ?_ hafter
    rintro - rfl
    exact absurd hstatus (by decide)

theorem StartCall.starting_of_step {popen : Bool} {call : StartCall}
    (h : (call.step popen w).2.Starting id) : w.Starting id ∨ call.starting = some id := by
  obtain ⟨plugin, point⟩ := call
  cases point with
  | testRunning =>
    simp only [step] at h
    split at h <;> exact .inl h
  | testInitializing =>
    simp only [step] at h
    split at h <;> exact .inl h
  | testDown =>
    simp only [step] at h
    split at h <;> exact .inl h
  | markStarting newPlugin =>
    by_cases hid : newPlugin.instance?.map (·.id) = some id
    · exact .inr hid
    · exact .inl (World.starting_of_setStatus (fun hsome => absurd hsome hid) h)
  | _ => exact .inl h

theorem MonitorPass.starting_of_step {popen stopped : Bool} {around : Surroundings}
    {pass : MonitorPass} (h : (pass.step popen around stopped w).2.Starting id) :
    w.Starting id ∨ (Starter.monitor pass).starting = some id := by
  obtain ⟨rest, point⟩ := pass
  cases point with
  | copy => exact .inl h
  | next =>
    simp only [step] at h
    split at h
    · exact .inl h
    · split at h <;> exact .inl h
  | markDead plugin => exact .inl (World.starting_of_setStatus (fun _ => by decide) h)
  | markFailed plugin => exact .inl (World.starting_of_setStatus (fun _ => by decide) h)
  | stop call => exact .inl (StopCall.starting_of_step h)
  | start call => exact StartCall.starting_of_step h
  | finished => exact .inl h
  | _ =>
    simp only [step] at h
    split at h <;> exact .inl h

theorem Starter.starting_of_step {input : StepInput} {starter : Starter}
    (h : (starter.step input w).2.Starting id) : w.Starting id ∨ starter.starting = some id := by
  cases starter with
  | caller call => exact StartCall.starting_of_step h
  | monitor pass =>
    simp only [step] at h
    split at h
    · exact .inl h
    · exact MonitorPass.starting_of_step h

end Starting

theorem checkInstance_starting {timeout now : ℕ} {document : InstanceDocument}
    (hstatus : document.status = .starting)
    (hold : ∀ lastHeartbeat, document.heartbeat = some lastHeartbeat →
      lastHeartbeat + timeout ≤ now) :
    (checkInstance timeout now document).status = .starting := by
  unfold checkInstance
  split
  · exact hstatus
  · rename_i lastHeartbeat hheartbeat
    have hlate := hold lastHeartbeat hheartbeat
    have hnot : ¬ now < lastHeartbeat + timeout := by omega
    simp [hstatus, hnot]

namespace HeartbeatRace

variable {ι : Type}

structure Sound (race : HeartbeatRace ι) : Prop where
  starts : ∀ reading ∈ race.pass.outstanding,
    reading.mark.starts ≤ (race.marks reading.id).starts
  /-- While nobody starts an instance, it is `STARTING` only if it was read so. -/
  starting : ∀ reading ∈ race.pass.outstanding,
    reading.mark.starts = (race.marks reading.id).starts → race.world.Starting reading.id →
      reading.document.status = .starting
  decided : ∀ reading status, race.pass.save = some (reading, status) → status ≠ .starting
  answered : ∀ reading, race.pass.save = some (reading, .running) →
    reading.document.status = .starting → reading.mark.answered = true
  noneMisjudged : NoneMisjudged race

variable {race race' : HeartbeatRace ι}

/-- The pass stays where it is, and `STARTING` is only written where that is counted. -/
theorem Sound.frame (h : Sound race) (hpass : race'.pass = race.pass)
    (hmisjudged : race'.misjudged = race.misjudged)
    (hmarks : ∀ id, (race.marks id).starts < (race'.marks id).starts ∨
      (race'.marks id).starts = (race.marks id).starts ∧
        (race'.world.Starting id → race.world.Starting id)) : Sound race' where
  starts := by
    rw [hpass]
    intro reading hreading
    have hstarts := h.starts reading hreading
    rcases hmarks reading.id with hmore | ⟨hsame, -⟩ <;> omega
  starting := by
    rw [hpass]
    intro reading hreading hmark hstarting
    have hstarts := h.starts reading hreading
    rcases hmarks reading.id with hmore | ⟨hsame, hback⟩
    · omega
    · exact h.starting reading hreading (hmark.trans hsame) (hback hstarting)
  decided := by
    rw [hpass]
    exact h.decided
  answered := by
    rw [hpass]
    exact h.answered
  noneMisjudged := hmisjudged.trans h.noneMisjudged

theorem Sound.fetch (h : Sound race) :
    Sound { race with pass := race.pass.fetch race.marks race.world } where
  starts := by
    intro reading hreading
    rcases CheckPass.mem_outstanding_fetch hreading with hold | ⟨-, hmark⟩
    · exact h.starts reading hold
    · rw [hmark]
  starting := by
    intro reading hreading hmark hstarting
    rcases CheckPass.mem_outstanding_fetch hreading with hold | ⟨hdocument, -⟩
    · exact h.starting reading hold hmark hstarting
    · have hstatus : (race.world.instances reading.id).map (·.status) = some .starting := hstarting
      rw [hdocument] at hstatus
      exact Option.some.inj hstatus
  decided := by
    rw [CheckPass.fetch_save]
    exact h.decided
  answered := by
    rw [CheckPass.fetch_save]
    exact h.answered
  noneMisjudged := h.noneMisjudged

theorem Sound.decide (h : Sound race) (timeout : ℕ)
    (hold : ∀ reading, race.pass.save = none → race.pass.held.head? = some reading →
      reading.document.status = .starting → reading.mark.answered = false →
        ∀ lastHeartbeat, reading.document.heartbeat = some lastHeartbeat →
          lastHeartbeat + timeout ≤ race.world.now) :
    Sound { race with pass := race.pass.decide timeout race.world.now } where
  starts := by
    intro reading hreading
    exact h.starts reading (CheckPass.mem_outstanding_decide hreading)
  starting := by
    intro reading hreading
    exact h.starting reading (CheckPass.mem_outstanding_decide hreading)
  decided := by
    intro reading status hsave
    rcases CheckPass.save_decide hsave with hbefore | ⟨-, -, rfl, hchanged⟩
    · exact h.decided reading status hbefore
    · intro hstarting
      have hstatus := CheckPass.checkInstance_status hchanged
      rw [hstarting] at hstatus
      exact absurd hstatus (by decide)
  answered := by
    intro reading hsave hstatus
    rcases CheckPass.save_decide hsave with hbefore | ⟨hnone, hhead, hrunning, -⟩
    · exact h.answered reading hbefore hstatus
    · by_contra hanswered
      rw [Bool.not_eq_true] at hanswered
      have hstays := checkInstance_starting hstatus (hold reading hnone hhead hstatus hanswered)
      rw [← hrunning] at hstays
      cases hstays
  noneMisjudged := h.noneMisjudged

theorem Sound.leave (h : Sound race) : Sound { race with pass := race.pass.leave } where
  starts := fun reading hreading => h.starts reading (CheckPass.mem_outstanding_leave hreading)
  starting := fun reading hreading => h.starting reading (CheckPass.mem_outstanding_leave hreading)
  decided := h.decided
  answered := h.answered
  noneMisjudged := h.noneMisjudged

theorem Sound.misjudging (h : Sound race)
    (hstarts : ∀ reading, race.pass.save = some (reading, .running) →
      race.world.Starting reading.id → (race.marks reading.id).starts = reading.mark.starts) :
    race.misjudging = [] := by
  unfold HeartbeatRace.misjudging
  split
  · rename_i reading hsave
    refine if_neg ?_
    rintro ⟨hstarting, hmark⟩
    have hsame := hstarts reading hsave hstarting
    have hread := h.starting reading (CheckPass.mem_outstanding_of_save hsave) hsame.symm hstarting
    have hanswered := h.answered reading hsave hread
    refine hmark ?_
    rw [hsame, ← hanswered]
  · rfl

theorem Sound.save (h : Sound race)
    (hstarts : ∀ reading, race.pass.save = some (reading, .running) →
      race.world.Starting reading.id → (race.marks reading.id).starts = reading.mark.starts) :
    Sound { race with
      starters := race.starters.outside race.pass.saveStatus
      pass := race.pass.saved
      misjudged := race.misjudged ++ race.misjudging } where
  starts := fun reading hreading => h.starts reading (CheckPass.mem_outstanding_saved hreading)
  starting := by
    intro reading hreading hmark hstarting
    refine h.starting reading (CheckPass.mem_outstanding_saved hreading) hmark ?_
    have hsaved : (race.pass.saveStatus race.world).Starting reading.id := hstarting
    unfold CheckPass.saveStatus at hsaved
    split at hsaved
    · rename_i other status hsave
      exact World.starting_of_setInstanceStatus (fun _ => h.decided other status hsave) hsaved
    · exact hsaved
  decided := by
    intro reading status hsave
    cases hsave
  answered := by
    intro reading hsave
    cases hsave
  noneMisjudged := by
    have hnone : race.misjudged = [] := h.noneMisjudged
    show race.misjudged ++ race.misjudging = []
    rw [hnone, h.misjudging hstarts]
    rfl

theorem Sound.openPass (h : Sound race) (ids : List ℕ) :
    Sound { race with pass := .begin ids } where
  starts := fun reading hreading => absurd hreading List.not_mem_nil
  starting := fun reading hreading => absurd hreading List.not_mem_nil
  decided := by
    intro reading status hsave
    cases hsave
  answered := by
    intro reading hsave
    cases hsave
  noneMisjudged := h.noneMisjudged

theorem Sound.operate (h : Sound race) (operation : InstanceOperation)
    (hstarting : ∀ id, (operation.apply race.world).Starting id → race.world.Starting id) :
    Sound (race.operate operation) :=
  h.frame rfl rfl fun id => .inr ⟨rfl, hstarting id⟩

theorem Sound.markAnswered (h : Sound race) (id : ℕ) : Sound (race.markAnswered id) := by
  refine h.frame rfl rfl fun id' => .inr ⟨?_, fun hstarting => hstarting⟩
  show (Function.update race.marks id _ id').starts = _
  by_cases hid : id' = id
  · subst hid
    rw [Function.update_self]
  · rw [Function.update_of_ne hid]

variable [DecidableEq ι]

theorem Sound.step (h : Sound race) (i : ι) (input : StepInput) (timeout : ℕ) :
    Sound (race.apply timeout (.step i input)) := by
  have hback : ∀ id, ((race.starters.step (Starter.step input) i).shared).Starting id →
      race.world.Starting id ∨ (race.starters.threads i).starting = some id :=
    fun id hstarting => Starter.starting_of_step hstarting
  cases hstarting : (race.starters.threads i).starting with
  | none =>
    simp only [HeartbeatRace.apply, hstarting]
    refine h.frame rfl rfl fun id => .inr ⟨rfl, fun hafter => ?_⟩
    rcases hback id hafter with hbefore | hsome
    · exact hbefore
    · rw [hstarting] at hsome
      cases hsome
  | some id' =>
    simp only [HeartbeatRace.apply, hstarting]
    refine h.frame rfl rfl fun id => ?_
    by_cases hid : id = id'
    · left
      subst hid
      show _ < (Function.update race.marks id _ id).starts
      rw [Function.update_self]
      exact Nat.lt_succ_self _
    · refine .inr ⟨?_, fun hafter => ?_⟩
      · show (Function.update race.marks id' _ id).starts = _
        rw [Function.update_of_ne hid]
      · rcases hback id hafter with hbefore | hsome
        · exact hbefore
        · rw [hstarting] at hsome
          exact absurd (Option.some.inj hsome).symm hid

theorem Sound.apply (h : Sound race) (timeout : ℕ) (event : HeartbeatEvent ι)
    (hevent : Distinguished timeout event race) : Sound (race.apply timeout event) := by
  cases event with
  | openPass ids =>
    simp only [HeartbeatRace.apply]
    split
    · exact h.openPass ids
    · exact h
  | fetch => exact h.fetch
  | decide => exact h.decide timeout hevent
  | save => exact h.save hevent
  | leave => exact h.leave
  | step i input => exact h.step i input timeout
  | initializeInstance id =>
    refine (h.operate _ fun id' hstarting => ?_).markAnswered id
    refine World.starting_of_updateInstance ?_ hstarting
    intro document hstatus
    cases hstatus
  | heartbeat id =>
    refine (h.operate _ fun id' hstarting => ?_).markAnswered id
    refine World.starting_of_updateInstance ?_ hstarting
    intro document hstatus
    exact hstatus
  | reportStopped id =>
    refine h.operate _ fun id' hstarting => ?_
    refine World.starting_of_updateInstance ?_ hstarting
    intro document hstatus
    cases hstatus
  | exit plugin => exact h.operate _ fun id hstarting => hstarting
  | wait time => exact h.operate _ fun id hstarting => hstarting

def initial (starters : ι → Starter) (w : World) (marks : ℕ → StartMark) : HeartbeatRace ι :=
  ⟨⟨starters, w⟩, .begin [], marks, []⟩

/-- In a run that tells old heartbeats from new ones, `check_status` makes a
`STARTING` instance `RUNNING` only on a heartbeat recorded after `STARTING`. -/
theorem heartbeatRace_noneMisjudged (timeout : ℕ) (starters : ι → Starter) (w : World)
    (marks : ℕ → StartMark) (events : List (HeartbeatEvent ι))
    (hmeets : Runs.Meets (apply timeout) (Distinguished timeout) events
      (initial starters w marks)) :
    Runs.Throughout (apply timeout) NoneMisjudged events (initial starters w marks) := by
  have hsound : Sound (initial starters w marks) := by
    refine ⟨?_, ?_, ?_, ?_, rfl⟩
    · intro reading hreading
      exact absurd hreading List.not_mem_nil
    · intro reading hreading
      exact absurd hreading List.not_mem_nil
    · intro reading status hsave
      cases hsave
    · intro reading hsave
      cases hsave
  have hall : Runs.Throughout (apply timeout) Sound events (initial starters w marks) :=
    Runs.throughout_of_meets (fun event race h hevent => h.apply timeout event hevent) hsound hmeets
  exact hall.imp fun race h => h.noneMisjudged

def heard (status : Status) (process : Process) : World :=
  { World.single (singlePlugin "foo" []) status ⟨1, false, process⟩ with
    instances := fun id => if id = 0 then some ⟨status, some 0⟩ else none
    now := 5 }

/-- A plugin is started and answers before the status monitor looks. -/
theorem heartbeatRace_noneMisjudged_answered :
    let start := HeartbeatEvent.step () ⟨true, ⟨false, false, false⟩, false⟩
    let events := List.replicate 7 start ++ [.heartbeat 0, .openPass [0], .fetch, .decide, .save]
    Runs.Throughout (apply 30) NoneMisjudged events
      (initial (fun _ => .caller (.begin (singlePlugin "foo" []))) (heard .dead .exited)
        fun _ => ⟨0, false⟩) := by
  refine heartbeatRace_noneMisjudged 30 _ _ _ _ ?_
  refine ⟨trivial, trivial, trivial, trivial, trivial, trivial, trivial, trivial, trivial, trivial,
    ?_, ?_, trivial⟩
  · intro reading _ hhead _ hanswered
    cases hhead
    cases hanswered
  · intro reading hsave _
    cases hsave
    rfl

/-- The monitor restarts a plugin that has crashed, and the status monitor takes
the last heartbeat of the old process for one of the new process. -/
theorem heartbeatRace_misjudged :
    let monitor := HeartbeatEvent.step () ⟨true, ⟨false, false, false⟩, false⟩
    let events := List.replicate 16 monitor ++ [.openPass [0], .fetch, .decide, .save]
    let race := Runs.final (apply 30) events
      (initial (fun _ => .monitor .begin) (heard .running .exited) fun _ => ⟨0, false⟩)
    ¬ NoneMisjudged race ∧ race.misjudged = [0] ∧
      race.world.status (singlePlugin "foo" []) = .running := by
  decide

end HeartbeatRace
end Bartender
