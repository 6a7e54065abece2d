import Bartender.Library.Interleaving
import Bartender.Library.Runs
import Bartender.Plugins.Steps

/-!
# Several calls of `stop_plugin` for one plugin

A call that finds the plugin stopping returns early, but its `finally` block
still kills a plugin whose thread is alive. The plugin answers a stop message by
reporting `STOPPED` and ending.
-/

namespace Bartender

open Interleaving

/-- What the calls and the plugin share. -/
structure Shutting where
  world : World
  /-- The plugin's thread has not ended. -/
  alive : Bool
  /-- A stop message was published. -/
  asked : Bool
  /-- The plugin has reported `STOPPED`. -/
  answered : Bool
  /-- A call has published the stop message and waited for the whole shutdown
  timeout, or has raised on the way. -/
  excused : Bool

inductive StopEvent (ι : Type)
  /-- The next step of a call, whose own call may raise. -/
  | step (i : ι) (raises : Bool)
  | answer
  | exit
  | endThread
  | wait (time : ℕ)

abbrev StopRace (ι : Type) := Pool ι StopCall Shutting

namespace Shutting

def around (timeout : ℕ) (raises : Bool) (call : StopCall) (s : Shutting) : Surroundings where
  raises := raises
  alive := s.alive
  expired := match call.point with
    | .join since => s.alive && decide (since + timeout ≤ s.world.now)
    | _ => false

def step (timeout : ℕ) (raises : Bool) (call : StopCall) (s : Shutting) : StopCall × Shutting :=
  let (call, w) := call.step (s.around timeout raises call) s.world
  (call, { s with
    world := w
    asked := s.asked || call.published
    excused := s.excused || (call.published && call.waited) || call.raised })

def answer (plugin : LocalPluginRunner) (s : Shutting) : Shutting :=
  if s.asked then { s with world := s.world.setStatus plugin .stopped, answered := true } else s

def endThread (plugin : LocalPluginRunner) (s : Shutting) : Shutting :=
  if s.world.Alive plugin then s else { s with alive := false }

end Shutting

namespace StopRace

variable {ι : Type} [DecidableEq ι]

def apply (plugin : LocalPluginRunner) (timeout : ℕ) (event : StopEvent ι) (race : StopRace ι) :
    StopRace ι :=
  match event with
  | .step i raises => race.step (Shutting.step timeout raises) i
  | .answer => race.outside (Shutting.answer plugin)
  | .exit => race.outside fun s => { s with world := s.world.endProcess plugin }
  | .endThread => race.outside (Shutting.endThread plugin)
  | .wait time =>
    race.outside fun s => { s with world := { s.world with now := s.world.now + time } }

/-- A call that has returned early finds the thread ended when it tests for it,
and a call that goes on to write `STOPPING` does so before the plugin answers,
unless a call is excused by then. -/
def Considerate (event : StopEvent ι) (race : StopRace ι) : Prop :=
  match event with
  | .step i _ =>
    ((race.threads i).point = .testAlive true →
      race.shared.alive = false ∨ race.shared.excused = true) ∧
    ((race.threads i).point = .markStopping →
      race.shared.answered = false ∨ race.shared.excused = true)
  | _ => True

instance (event : StopEvent ι) (race : StopRace ι) : Decidable (Considerate event race) :=
  match event with
  | .step i _ => inferInstanceAs (Decidable
      (((race.threads i).point = .testAlive true →
        race.shared.alive = false ∨ race.shared.excused = true) ∧
      ((race.threads i).point = .markStopping →
        race.shared.answered = false ∨ race.shared.excused = true)))
  | .answer => .isTrue trivial
  | .exit => .isTrue trivial
  | .endThread => .isTrue trivial
  | .wait _ => .isTrue trivial

/-- No call kills the plugin before a call is excused. Once all calls are over,
a plugin that has answered within the timeout was not killed and is `STOPPED`. -/
structure Patient (plugin : LocalPluginRunner) (race : StopRace ι) : Prop where
  killed : ∀ i, (race.threads i).killed = true → race.shared.excused = true
  stopped : (∀ i, (race.threads i).point = .finished) → race.shared.answered = true →
    race.shared.excused = false →
      (∀ i, (race.threads i).killed = false) ∧ race.shared.world.status plugin = .stopped

def initial (plugin : LocalPluginRunner) (w : World) : StopRace ι :=
  ⟨fun _ => .begin plugin, ⟨w, true, false, false, false⟩⟩

end StopRace

/-- What a call relies on where it is. -/
def StopCall.Located (call : StopCall) (s : Shutting) : Prop :=
  match call.point with
  | .beginJoin => call.published = true
  | .join _ => call.published = true
  | .testAlive false => s.alive = false ∨ s.excused = true
  | .kill _ => s.excused = true
  | .markDead => s.excused = true
  | _ => True

structure StopCall.Justified (plugin : LocalPluginRunner) (call : StopCall) (s : Shutting) :
    Prop where
  plugin_eq : call.plugin = plugin
  killed : call.killed = true → s.excused = true
  unclean : call.cleanShutdown = false → s.excused = true
  located : call.Located s

/-- The plugin's document exists, and what the plugin has answered stands. -/
structure Shutting.Stands (plugin : LocalPluginRunner) (s : Shutting) : Prop where
  stored : ∃ status, World.Stored s.world plugin status
  answered : s.answered = true → s.excused = false → s.world.status plugin = .stopped

section Invariant

variable {plugin : LocalPluginRunner} {call : StopCall} {s s' : Shutting} {timeout : ℕ}
  {raises : Bool}

theorem StopCall.Located.mono (h : call.Located s) (hexcused : s.excused = true → s'.excused = true)
    (halive : s.alive = false → s'.alive = false) : call.Located s' := by
  obtain ⟨plugin, point, cleanShutdown, published, waited, raised, killed⟩ := call
  cases point with
  | testAlive returning =>
    cases returning with
    | true => trivial
    | false => exact h.imp halive hexcused
  | kill returning => exact hexcused h
  | markDead => exact hexcused h
  | _ => exact h

theorem StopCall.Justified.mono (h : call.Justified plugin s)
    (hexcused : s.excused = true → s'.excused = true)
    (halive : s.alive = false → s'.alive = false) : call.Justified plugin s' where
  plugin_eq := h.plugin_eq
  killed := fun hkilled => hexcused (h.killed hkilled)
  unclean := fun hunclean => hexcused (h.unclean hunclean)
  located := h.located.mono hexcused halive

theorem StopCall.Justified.goto (h : call.Justified plugin s) {point : StopPoint}
    (hexcused : s.excused = true → s'.excused = true)
    (hlocated : StopCall.Located { call with point := point } s') :
    StopCall.Justified plugin { call with point := point } s' where
  plugin_eq := h.plugin_eq
  killed := fun hkilled => hexcused (h.killed hkilled)
  unclean := fun hunclean => hexcused (h.unclean hunclean)
  located := hlocated

theorem StopCall.Justified.except (h : call.Justified plugin s) (hexcused : s'.excused = true) :
    call.except.Justified plugin s' where
  plugin_eq := h.plugin_eq
  killed := fun _ => hexcused
  unclean := fun _ => hexcused
  located := .inr hexcused

theorem StopCall.Justified.afterFinally (h : call.Justified plugin s)
    (hexcused : s.excused = true → s'.excused = true) (returning : Bool) :
    (call.afterFinally returning).Justified plugin s' := by
  refine h.goto hexcused ?_
  unfold StopCall.Located
  dsimp only
  split_ifs with hdone
  · trivial
  · exact hexcused (h.unclean (Bool.eq_false_of_not_eq_true (not_or.mp hdone).2))

/-- A considerate step of a call keeps what it relies on. -/
theorem StopCall.Justified.step (h : call.Justified plugin s)
    (hpatient : call.point = .testAlive true → s.alive = false ∨ s.excused = true) :
    (s.step timeout raises call).1.Justified plugin (s.step timeout raises call).2 := by
  have hexcused : ∀ b c : Bool, s.excused = true → (s.excused || b || c) = true := by
    intro b c hs
    rw [hs, Bool.true_or, Bool.true_or]
  have hlocated := h.located
  obtain ⟨called, point, cleanShutdown, published, waited, raised, killed⟩ := call
  cases point with
  | testStopped =>
    simp only [Shutting.step, StopCall.step]
    split <;> exact h.goto (hexcused _ _) trivial
  | testUnknown =>
    simp only [Shutting.step, StopCall.step]
    split <;> exact h.goto (hexcused _ _) trivial
  | markStopping => exact h.goto (hexcused _ _) trivial
  | callStop =>
    simp only [Shutting.step, StopCall.step]
    split
    · exact h.except (by simp [StopCall.except])
    · exact h.goto (hexcused _ _) trivial
  | publish =>
    simp only [Shutting.step, StopCall.step]
    split
    · exact h.except (by simp [StopCall.except])
    · exact ⟨h.plugin_eq, fun hkilled => hexcused _ _ (h.killed hkilled),
        fun hunclean => hexcused _ _ (h.unclean hunclean), rfl⟩
  | beginJoin => exact h.goto (hexcused _ _) hlocated
  | join since =>
    simp only [Shutting.step, StopCall.step]
    split
    · exact h.except (by simp [StopCall.except])
    · split
      · exact h.mono (hexcused _ _) id
      · rename_i hended
        refine ⟨h.plugin_eq, fun hkilled => hexcused _ _ (h.killed hkilled),
          fun hunclean => hexcused _ _ (h.unclean hunclean), ?_⟩
        by_cases halive : s.alive = false
        · exact .inl halive
        · obtain rfl : published = true := hlocated
          have hexpired : (s.around timeout raises ⟨called, .join since, cleanShutdown, true,
              waited, raised, killed⟩).expired = true := by
            by_contra hnot
            exact hended ⟨Bool.eq_true_of_not_eq_false halive, Bool.eq_false_of_not_eq_true hnot⟩
          right
          simp [hexpired]
  | testAlive returning =>
    simp only [Shutting.step, StopCall.step]
    split
    · rename_i hafter
      have halive : ¬ s.alive = false := by
        rw [Bool.not_eq_false]
        exact hafter
      refine h.goto (hexcused _ _) (hexcused _ _ ?_)
      cases returning with
      | true => exact (hpatient rfl).resolve_left halive
      | false => exact hlocated.resolve_left halive
    · exact h.afterFinally (hexcused _ _) returning
  | kill returning =>
    have hkilled : StopCall.Justified plugin
        ⟨called, .kill returning, false, published, waited, raised, true⟩ s :=
      ⟨h.plugin_eq, fun _ => hlocated, fun _ => hlocated, hlocated⟩
    exact hkilled.afterFinally (hexcused _ _) returning
  | markDead => exact h.goto (hexcused _ _) trivial
  | finished => exact h.mono (hexcused _ _) id

theorem Shutting.Stands.step (h : s.Stands plugin) (hcall : call.Justified plugin s)
    (hpatient : call.point = .markStopping → s.answered = false ∨ s.excused = true) :
    (s.step timeout raises call).2.Stands plugin := by
  obtain ⟨status, hstored⟩ := h.stored
  have hexcused : (s.step timeout raises call).2.excused = false → s.excused = false := by
    intro hafter
    by_contra hbefore
    rw [Bool.not_eq_false] at hbefore
    simp [Shutting.step, hbefore] at hafter
  rcases StopCall.step_world (s.around timeout raises call) call s.world with
    ⟨hpoint, hworld⟩ | ⟨hpoint, hworld⟩ | ⟨-, -, hworld⟩
  · rw [hcall.plugin_eq] at hworld
    refine ⟨⟨.stopping, ?_⟩, fun hanswered hclean => ?_⟩
    · show World.Stored (call.step _ s.world).2 plugin .stopping
      rw [hworld]
      exact hstored.setStatus .stopping
    · have hnot : s.answered = false := (hpatient hpoint).resolve_right (by simp [hexcused hclean])
      have hyes : s.answered = true := hanswered
      rw [hnot] at hyes
      cases hyes
  · rw [hcall.plugin_eq] at hworld
    have hdirty : s.excused = true := by
      have hlocated := hcall.located
      unfold StopCall.Located at hlocated
      rw [hpoint] at hlocated
      exact hlocated
    refine ⟨⟨.dead, ?_⟩, fun _ hclean => ?_⟩
    · show World.Stored (call.step _ s.world).2 plugin .dead
      rw [hworld]
      exact hstored.setStatus .dead
    · rw [hexcused hclean] at hdirty
      cases hdirty
  · have hstatus : ∀ plugin, (call.step (s.around timeout raises call) s.world).2.status plugin =
        s.world.status plugin := by
      intro plugin
      unfold World.status
      rw [hworld]
    refine ⟨⟨status, ?_⟩, fun hanswered hclean => ?_⟩
    · obtain ⟨i, document, hinstance, hdocument, hsame⟩ := hstored
      refine ⟨i, document, hinstance, ?_, hsame⟩
      show (call.step _ s.world).2.instances i.id = some document
      rw [hworld]
      exact hdocument
    · show (call.step _ s.world).2.status plugin = .stopped
      rw [hstatus]
      exact h.answered hanswered (hexcused hclean)

theorem Shutting.Stands.answer (h : s.Stands plugin) : (s.answer plugin).Stands plugin := by
  obtain ⟨status, hstored⟩ := h.stored
  unfold Shutting.answer
  split
  · have hstopped := hstored.setStatus .stopped
    exact ⟨⟨.stopped, hstopped⟩, fun _ _ => hstopped.status_eq⟩
  · exact h

end Invariant

namespace StopRace

variable {ι : Type} [DecidableEq ι] {plugin : LocalPluginRunner} {race : StopRace ι}

/-- The assertions about the calls and about what they share. -/
abbrev Outlined (plugin : LocalPluginRunner) (race : StopRace ι) : Prop :=
  Pool.Outline (Shutting.Stands plugin) (StopCall.Justified plugin) race

theorem outlined_apply (h : Outlined plugin race) (timeout : ℕ) (event : StopEvent ι)
    (hevent : Considerate event race) : Outlined plugin (apply plugin timeout event race) := by
  cases event with
  | step i raises =>
    refine h.step (h.shared.step (h.threads i) hevent.2) ((h.threads i).step hevent.1) ?_
    intro call hcall
    refine hcall.mono (fun hexcused => ?_) id
    simp [Shutting.step, hexcused]
  | answer =>
    refine h.outside h.shared.answer ?_
    intro call hcall
    unfold Shutting.answer
    split
    · exact hcall.mono id id
    · exact hcall
  | exit =>
    refine h.outside (f := fun s => { s with world := s.world.endProcess plugin }) ?_ ?_
    · exact ⟨h.shared.stored, h.shared.answered⟩
    · intro call hcall
      exact hcall.mono id id
  | endThread =>
    refine h.outside ?_ ?_
    · unfold Shutting.endThread
      split
      · exact h.shared
      · exact ⟨h.shared.stored, h.shared.answered⟩
    · intro call hcall
      unfold Shutting.endThread
      split
      · exact hcall
      · exact hcall.mono id fun _ => rfl
  | wait time =>
    refine h.outside
      (f := fun s => { s with world := { s.world with now := s.world.now + time } }) ?_ ?_
    · exact ⟨h.shared.stored, h.shared.answered⟩
    · intro call hcall
      exact hcall.mono id id

omit [DecidableEq ι] in
theorem Outlined.patient (h : Outlined plugin race) : Patient plugin race where
  killed i hkilled := (h.threads i).killed hkilled
  stopped := by
    intro _ hanswered hexcused
    refine ⟨fun i => ?_, h.shared.answered hanswered hexcused⟩
    by_contra hkilled
    rw [Bool.not_eq_false] at hkilled
    have := (h.threads i).killed hkilled
    rw [hexcused] at this
    cases this

/-- In a run of considerate steps, no call kills the plugin unless a call is
excused, and a plugin that answers in time ends `STOPPED`. -/
theorem stopRace_patient {w : World} (hrunning : World.Stored w plugin .running) (timeout : ℕ)
    (events : List (StopEvent ι))
    (hmeets : Runs.Meets (apply plugin timeout) Considerate events (initial plugin w)) :
    Runs.Throughout (apply plugin timeout) (Patient plugin) events (initial plugin w) := by
  have houtlined : Outlined plugin (initial plugin w : StopRace ι) := by
    refine ⟨⟨⟨.running, hrunning⟩, ?_⟩, fun i => ⟨rfl, ?_, ?_, trivial⟩⟩
    · intro hanswered
      cases hanswered
    · intro hkilled
      cases hkilled
    · intro hunclean
      cases hunclean
  have hall : Runs.Throughout (apply plugin timeout) (Outlined plugin) events
      (initial plugin w) :=
    Runs.throughout_of_meets (I := Outlined plugin)
      (fun event race h hevent => outlined_apply h timeout event hevent) houtlined hmeets
  exact hall.imp fun race h => Outlined.patient h

theorem stopRace_patient_overlapping :
    let first := StopEvent.step false false
    let second := StopEvent.step true false
    let events := [first, second, first, second, first, second, first, first, second, second,
      first, .answer, second, .exit, .endThread, first, first, second, second, first, second]
    let world := World.single (singlePlugin "foo" []) .running ⟨1, false, .alive⟩
    Runs.Throughout (apply (singlePlugin "foo" []) 30) (Patient (singlePlugin "foo" [])) events
      (initial (singlePlugin "foo" []) world : StopRace Bool) := by
  refine stopRace_patient ⟨⟨0, "default"⟩, ⟨.running, none⟩, rfl, rfl, rfl⟩ 30 _ ?_
  decide

/-- The second call reads `STOPPING` and kills the plugin while the first has
yet to publish the stop message. -/
theorem stopRace_killed :
    let events := List.replicate 3 (StopEvent.step false false) ++
      List.replicate 3 (StopEvent.step true false)
    let world := World.single (singlePlugin "foo" []) .running ⟨1, false, .alive⟩
    let race := Runs.final (apply (singlePlugin "foo" []) 30) events
      (initial (singlePlugin "foo" []) world : StopRace Bool)
    ¬ Patient (singlePlugin "foo" []) race ∧ (race.threads true).killed = true ∧
      race.shared.asked = false := by
  refine ⟨fun h => ?_, by decide, by decide⟩
  have hexcused := h.killed true (by decide)
  exact absurd hexcused (by decide)

end StopRace
end Bartender
