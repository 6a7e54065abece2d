import Bartender.Library.Runs
import Mathlib.Data.Finset.Card
import Mathlib.Data.Finset.Range
import Mathlib.Tactic

/-!
# The thrift server

`BartenderThriftServer` accepts connections in one thread and hands each to a
pool of workers. `self.futures` is how `stop`, which a third thread calls, knows
what to wait for: the accepting thread adds every future, and the future's own
callback removes it.
-/

namespace Bartender

/-- Where the server's thread stands, in `serve` and then in `run`. -/
inductive ServePoint
  | listening
  | testing
  | accepting
  | submitting
  | adding (future : ℕ)
  | registering (future : ℕ)
  | waiting
  | ended
  | died
  deriving DecidableEq, Repr

def ServePoint.isAdding : ServePoint → Bool
  | adding _ => true
  | _ => false

/-- Where the thread that stops the server stands. -/
inductive StopServerPoint
  | flagging
  | closing
  | collecting
  | waiting (futures : Finset ℕ)
  | orphaning
  | finishing
  | returned
  deriving DecidableEq

/-- Futures are numbered in the order in which the pool made them. -/
structure BartenderThriftServer where
  serving : ServePoint
  stopping : StopServerPoint
  stopped : Bool
  /-- The socket has not been closed. -/
  isOpen : Bool
  submitted : ℕ
  done : Finset ℕ
  /-- The futures that hold the callback. -/
  callbacks : Finset ℕ
  futures : Finset ℕ
  /-- How often a callback tried to remove a future that was not there. -/
  keyErrors : ℕ
  /-- The references to the workers were removed. -/
  orphaned : Bool
  finished : Bool

/-- A step of the server's thread, where accepting and the like may fail or a
wait may time out; the end of a worker's task; the callback the worker then
runs; a step of the thread that calls `stop`. -/
inductive ServerEvent
  | serve (succeeds : Bool)
  | finish (future : ℕ)
  | runCallback (future : ℕ)
  | stop (timesOut : Bool)
  deriving DecidableEq, Repr

def ServerEvent.isServe : ServerEvent → Bool
  | .serve _ => true
  | _ => false

namespace BartenderThriftServer

variable (server : BartenderThriftServer)

/-- `lambda x: self.futures.remove(x)`. -/
def removeFuture (future : ℕ) : BartenderThriftServer :=
  if future ∈ server.futures then { server with futures := server.futures.erase future }
  else { server with keyErrors := server.keyErrors + 1 }

/-- `serve`, and the rest of `run`. A closed socket accepts nothing. -/
def serveStep (succeeds : Bool) : BartenderThriftServer :=
  match server.serving with
  | .listening => { server with serving := if succeeds then .testing else .died }
  | .testing => { server with serving := if server.stopped then .waiting else .accepting }
  | .accepting =>
    { server with serving := if server.isOpen && succeeds then .submitting else .testing }
  | .submitting =>
    if succeeds then
      { server with serving := .adding server.submitted, submitted := server.submitted + 1 }
    else { server with serving := .testing }
  | .adding future =>
    { server with serving := .registering future, futures := insert future server.futures }
  | .registering future =>
    -- a future that is already done runs the callback at once
    if future ∈ server.done then { server.removeFuture future with serving := .testing }
    else { server with serving := .testing, callbacks := insert future server.callbacks }
  | .waiting => { server with serving := if server.finished || !succeeds then .ended else .waiting }
  | .ended => server
  | .died => server

def stopStep (timesOut : Bool) : BartenderThriftServer :=
  match server.stopping with
  | .flagging => { server with stopping := .closing, stopped := true }
  | .closing => { server with stopping := .collecting, isOpen := false }
  | .collecting => { server with stopping := .waiting server.futures }
  | .waiting futures =>
    if futures ⊆ server.done then { server with stopping := .finishing }
    else { server with stopping := if timesOut then .orphaning else .waiting futures }
  | .orphaning => { server with stopping := .finishing, orphaned := true }
  | .finishing => { server with stopping := .returned, finished := true }
  | .returned => server

def finishFuture (future : ℕ) : BartenderThriftServer :=
  if future < server.submitted then { server with done := insert future server.done } else server

/-- The worker runs the callback of the future that it has finished. -/
def invokeCallback (future : ℕ) : BartenderThriftServer :=
  if future ∈ server.done ∧ future ∈ server.callbacks then
    { server with callbacks := server.callbacks.erase future }.removeFuture future
  else server

def apply (event : ServerEvent) (server : BartenderThriftServer) : BartenderThriftServer :=
  match event with
  | .serve succeeds => server.serveStep succeeds
  | .finish future => server.finishFuture future
  | .runCallback future => server.invokeCallback future
  | .stop timesOut => server.stopStep timesOut

/-- A server whose thread was just started. -/
def initial : BartenderThriftServer where
  serving := .listening
  stopping := .flagging
  stopped := false
  isOpen := true
  submitted := 0
  done := ∅
  callbacks := ∅
  futures := ∅
  keyErrors := 0
  orphaned := false
  finished := false

def unfinished : Finset ℕ := Finset.range server.submitted \ server.done

/-- A future is in the set from its addition until its callback ran. -/
structure Accounted (server : BartenderThriftServer) : Prop where
  mem_futures : ∀ f, f ∈ server.futures ↔ f ∈ server.callbacks ∨ server.serving = .registering f
  submitted : ∀ f ∈ server.callbacks, f < server.submitted
  adding : ∀ f, server.serving = .adding f → f + 1 = server.submitted ∧ f ∉ server.callbacks
  registering : ∀ f, server.serving = .registering f → f < server.submitted ∧ f ∉ server.callbacks
  unfinished : ∀ f ∈ server.unfinished,
    f ∈ server.callbacks ∨ server.serving = .registering f ∨ server.serving = .adding f
  noKeyError : server.keyErrors = 0

variable {server} {f : ℕ}

theorem mem_unfinished : f ∈ server.unfinished ↔ f < server.submitted ∧ f ∉ server.done := by
  simp [unfinished]

theorem accounted_initial : Accounted initial := by
  constructor <;> simp [initial, BartenderThriftServer.unfinished]

theorem removeFuture_of_mem (h : f ∈ server.futures) :
    server.removeFuture f = { server with futures := server.futures.erase f } := if_pos h

/-- Steps that leave the futures alone and hold none in hand, before or after. -/
theorem Accounted.move (h : Accounted server) {server' : BartenderThriftServer}
    (hfutures : server'.futures = server.futures)
    (hcallbacks : server'.callbacks = server.callbacks)
    (hsubmitted : server'.submitted = server.submitted) (hdone : server.done ⊆ server'.done)
    (hkey : server'.keyErrors = server.keyErrors)
    (hserving : server'.serving = server.serving ∨
      (∀ f, server.serving ≠ .adding f ∧ server.serving ≠ .registering f) ∧
        ∀ f, server'.serving ≠ .adding f ∧ server'.serving ≠ .registering f) :
    Accounted server' := by
  have hunfinished : ∀ f ∈ server'.unfinished, f ∈ server.unfinished := by
    intro f hf
    rw [mem_unfinished, hsubmitted] at hf
    exact mem_unfinished.mpr ⟨hf.1, fun hmem => hf.2 (hdone hmem)⟩
  obtain ⟨hmem, hlt, hadding, hregistering, hleft, hzero⟩ := h
  rcases hserving with hsame | ⟨hbefore, hafter⟩
  · constructor
    · rw [hfutures, hcallbacks, hsame]
      exact hmem
    · rw [hcallbacks, hsubmitted]
      exact hlt
    · rw [hcallbacks, hsubmitted, hsame]
      exact hadding
    · rw [hcallbacks, hsubmitted, hsame]
      exact hregistering
    · rw [hcallbacks, hsame]
      exact fun f hf => hleft f (hunfinished f hf)
    · rw [hkey, hzero]
  · constructor
    · intro f
      rw [hfutures, hcallbacks, hmem f]
      simp [(hbefore f).2, (hafter f).2]
    · rw [hcallbacks, hsubmitted]
      exact hlt
    · exact fun f hf => absurd hf (hafter f).1
    · exact fun f hf => absurd hf (hafter f).2
    · intro f hf
      rw [hcallbacks]
      rcases hleft f (hunfinished f hf) with hmem | hserving | hserving
      · exact .inl hmem
      · exact absurd hserving (hbefore f).2
      · exact absurd hserving (hbefore f).1
    · rw [hkey, hzero]

theorem Accounted.serveStep (h : Accounted server) (succeeds : Bool) :
    Accounted (server.serveStep succeeds) := by
  unfold BartenderThriftServer.serveStep
  cases hserving : server.serving with
  | listening =>
    refine h.move rfl rfl rfl (Finset.Subset.refl _) rfl (.inr ⟨by simp [hserving], ?_⟩)
    cases succeeds <;> simp
  | testing =>
    refine h.move rfl rfl rfl (Finset.Subset.refl _) rfl (.inr ⟨by simp [hserving], ?_⟩)
    cases server.stopped <;> simp
  | accepting =>
    refine h.move rfl rfl rfl (Finset.Subset.refl _) rfl (.inr ⟨by simp [hserving], ?_⟩)
    cases server.isOpen <;> cases succeeds <;> simp
  | submitting =>
    cases succeeds with
    | false =>
      exact h.move rfl rfl rfl (Finset.Subset.refl _) rfl (.inr ⟨by simp [hserving], by simp⟩)
    | true =>
      simp only [if_true]
      constructor
      · intro f
        simp [h.mem_futures, hserving]
      · exact fun f hf => Nat.lt_succ_of_lt (h.submitted f hf)
      · intro f hf
        cases hf
        exact ⟨rfl, fun hmem => Nat.lt_irrefl _ (h.submitted _ hmem)⟩
      · intro f hf
        cases hf
      · intro f hf
        obtain ⟨hlt, hdone⟩ := mem_unfinished.mp hf
        rcases Nat.lt_succ_iff_lt_or_eq.mp hlt with hlt | rfl
        · rcases h.unfinished f (mem_unfinished.mpr ⟨hlt, hdone⟩) with hmem | hother | hother
          · exact .inl hmem
          · simp [hserving] at hother
          · simp [hserving] at hother
        · exact .inr (.inr rfl)
      · exact h.noKeyError
  | adding f =>
    obtain ⟨hlast, hnew⟩ := h.adding f hserving
    constructor
    · intro g
      simp only [Finset.mem_insert, h.mem_futures, hserving, reduceCtorEq, or_false,
        ServePoint.registering.injEq]
      exact or_comm.trans (or_congr_right eq_comm)
    · exact h.submitted
    · intro g hg
      cases hg
    · intro g hg
      cases hg
      exact ⟨by simp only; omega, hnew⟩
    · intro g hg
      rcases h.unfinished g hg with hmem | hother | hother
      · exact .inl hmem
      · simp [hserving] at hother
      · rw [hserving] at hother
        cases hother
        exact .inr (.inl rfl)
    · exact h.noKeyError
  | registering f =>
    obtain ⟨hlt, hnew⟩ := h.registering f hserving
    have hmem : f ∈ server.futures := (h.mem_futures f).mpr (.inr hserving)
    by_cases hdone : f ∈ server.done
    · simp only [if_pos hdone, removeFuture_of_mem hmem]
      constructor
      · intro g
        simp only [Finset.mem_erase, h.mem_futures, hserving, ServePoint.registering.injEq,
          reduceCtorEq, or_false]
        grind
      · exact h.submitted
      · intro g hg
        cases hg
      · intro g hg
        cases hg
      · intro g hg
        rcases h.unfinished g hg with hmem | hother | hother
        · exact .inl hmem
        · rw [hserving] at hother
          cases hother
          exact absurd hdone (mem_unfinished.mp hg).2
        · simp [hserving] at hother
      · exact h.noKeyError
    · simp only [if_neg hdone]
      constructor
      · intro g
        simp only [Finset.mem_insert, h.mem_futures, hserving, ServePoint.registering.injEq,
          reduceCtorEq, or_false]
        exact or_comm.trans (or_congr_left eq_comm)
      · intro g hg
        rcases Finset.mem_insert.mp hg with rfl | hg
        · exact hlt
        · exact h.submitted g hg
      · intro g hg
        cases hg
      · intro g hg
        cases hg
      · intro g hg
        rcases h.unfinished g hg with hmem | hother | hother
        · exact .inl (Finset.mem_insert_of_mem hmem)
        · rw [hserving] at hother
          cases hother
          exact .inl (Finset.mem_insert_self _ _)
        · simp [hserving] at hother
      · exact h.noKeyError
  | waiting =>
    refine h.move rfl rfl rfl (Finset.Subset.refl _) rfl (.inr ⟨by simp [hserving], ?_⟩)
    cases server.finished <;> cases succeeds <;> simp
  | ended => exact h
  | died => exact h

theorem Accounted.stopStep (h : Accounted server) (timesOut : Bool) :
    Accounted (server.stopStep timesOut) := by
  unfold BartenderThriftServer.stopStep
  split
  · exact h.move rfl rfl rfl (Finset.Subset.refl _) rfl (.inl rfl)
  · exact h.move rfl rfl rfl (Finset.Subset.refl _) rfl (.inl rfl)
  · exact h.move rfl rfl rfl (Finset.Subset.refl _) rfl (.inl rfl)
  · split <;> exact h.move rfl rfl rfl (Finset.Subset.refl _) rfl (.inl rfl)
  · exact h.move rfl rfl rfl (Finset.Subset.refl _) rfl (.inl rfl)
  · exact h.move rfl rfl rfl (Finset.Subset.refl _) rfl (.inl rfl)
  · exact h

theorem Accounted.finishFuture (h : Accounted server) (f : ℕ) :
    Accounted (server.finishFuture f) := by
  unfold BartenderThriftServer.finishFuture
  split
  · exact h.move rfl rfl rfl (Finset.subset_insert _ _) rfl (.inl rfl)
  · exact h

theorem Accounted.invokeCallback (h : Accounted server) (f : ℕ) :
    Accounted (server.invokeCallback f) := by
  unfold BartenderThriftServer.invokeCallback
  split_ifs with hready
  · obtain ⟨hdone, hcallback⟩ := hready
    have hmem : f ∈ server.futures := (h.mem_futures f).mpr (.inl hcallback)
    have hhand : server.serving ≠ .registering f := fun hserving =>
      (h.registering f hserving).2 hcallback
    unfold removeFuture
    rw [if_pos hmem]
    constructor
    · intro g
      simp only [Finset.mem_erase, h.mem_futures]
      grind
    · exact fun g hg => h.submitted g (Finset.mem_of_mem_erase hg)
    · exact fun g hg =>
        ⟨(h.adding g hg).1, fun hmem => (h.adding g hg).2 (Finset.mem_of_mem_erase hmem)⟩
    · exact fun g hg =>
        ⟨(h.registering g hg).1, fun hmem => (h.registering g hg).2 (Finset.mem_of_mem_erase hmem)⟩
    · intro g hg
      refine (h.unfinished g hg).imp_left fun hmem => Finset.mem_erase.mpr ⟨?_, hmem⟩
      rintro rfl
      exact (mem_unfinished.mp hg).2 hdone
    · exact h.noKeyError
  · exact h

theorem Accounted.apply (h : Accounted server) (event : ServerEvent) :
    Accounted (server.apply event) := by
  cases event with
  | serve succeeds => exact h.serveStep succeeds
  | finish f => exact h.finishFuture f
  | runCallback f => exact h.invokeCallback f
  | stop timesOut => exact h.stopStep timesOut

section Stop

variable (server)

/-- A connection that is served and was not there when `stop` looked can only be
the last one, and no other one is on its way. -/
def Beyond (futures : Finset ℕ) : Prop :=
  (server.serving = .submitting → server.unfinished ⊆ futures) ∧
    ∀ f ∈ server.unfinished, f ∉ futures → f + 1 = server.submitted

/-- Every connection that is served was there when `stop` looked, and no other
one is on its way. -/
def Covered (futures : Finset ℕ) : Prop :=
  server.serving ≠ .submitting ∧ server.unfinished ⊆ futures

/-- `stop` is past its wait, and all that it waited for has ended. -/
def StoppedClean : Prop :=
  (server.stopping = .finishing ∨ server.stopping = .returned) ∧ server.orphaned = false

/-- The accepting thread has a connection that is not in `self.futures`. -/
def InHand : Prop := server.serving = .submitting ∨ ∃ f, server.serving = .adding f

end Stop

variable {futures : Finset ℕ}

@[simp] theorem removeFuture_submitted : (server.removeFuture f).submitted = server.submitted := by
  unfold removeFuture
  split <;> rfl

@[simp] theorem removeFuture_done : (server.removeFuture f).done = server.done := by
  unfold removeFuture
  split <;> rfl

@[simp] theorem removeFuture_serving : (server.removeFuture f).serving = server.serving := by
  unfold removeFuture
  split <;> rfl

@[simp] theorem removeFuture_stopping : (server.removeFuture f).stopping = server.stopping := by
  unfold removeFuture
  split <;> rfl

@[simp] theorem removeFuture_isOpen : (server.removeFuture f).isOpen = server.isOpen := by
  unfold removeFuture
  split <;> rfl

@[simp] theorem removeFuture_stopped : (server.removeFuture f).stopped = server.stopped := by
  unfold removeFuture
  split <;> rfl

@[simp] theorem removeFuture_orphaned : (server.removeFuture f).orphaned = server.orphaned := by
  unfold removeFuture
  split <;> rfl

/-- An event makes a future only where one is submitted, and a connection is
accepted only from an open socket. -/
theorem apply_cases (event : ServerEvent) :
    ((server.apply event).submitted = server.submitted ∧ server.done ⊆ (server.apply event).done ∧
      ((server.apply event).serving = .submitting →
        server.serving = .submitting ∨ server.isOpen = true)) ∨
    (server.serving = .submitting ∧ (server.apply event).submitted = server.submitted + 1 ∧
      (server.apply event).done = server.done ∧
      (server.apply event).serving = .adding server.submitted) := by
  cases event with
  | serve succeeds =>
    simp only [BartenderThriftServer.apply, BartenderThriftServer.serveStep]
    cases hserving : server.serving with
    | submitting => cases succeeds <;> simp
    | accepting => cases server.isOpen <;> cases succeeds <;> simp
    | registering g => by_cases hdone : g ∈ server.done <;> simp [hdone]
    | listening => cases succeeds <;> simp
    | testing => cases server.stopped <;> simp
    | waiting => cases server.finished <;> cases succeeds <;> simp
    | ended => simp [hserving]
    | died => simp [hserving]
    | adding g => simp
  | finish g =>
    left
    simp only [BartenderThriftServer.apply, BartenderThriftServer.finishFuture]
    split_ifs
    · exact ⟨rfl, Finset.subset_insert _ _, .inl⟩
    · exact ⟨rfl, Finset.Subset.refl _, .inl⟩
  | runCallback g =>
    left
    simp only [BartenderThriftServer.apply, BartenderThriftServer.invokeCallback]
    split_ifs
    · simpa using Or.inl
    · exact ⟨rfl, Finset.Subset.refl _, .inl⟩
  | stop timesOut =>
    left
    simp only [BartenderThriftServer.apply, BartenderThriftServer.stopStep]
    split <;> (try split_ifs) <;> exact ⟨rfl, Finset.Subset.refl _, .inl⟩

theorem Beyond.apply (h : server.Beyond futures) (hclosed : server.isOpen = false)
    (event : ServerEvent) : (server.apply event).Beyond futures := by
  rcases server.apply_cases event with
    ⟨hsubmitted, hdone, haccepted⟩ | ⟨hhere, hnext, hdone, hadding⟩
  · have hleft : (server.apply event).unfinished ⊆ server.unfinished := by
      intro f hf
      rw [mem_unfinished, hsubmitted] at hf
      exact mem_unfinished.mpr ⟨hf.1, fun hmem => hf.2 (hdone hmem)⟩
    refine ⟨fun hserving => ?_, fun f hf hnot => ?_⟩
    · exact hleft.trans (h.1 ((haccepted hserving).resolve_right (by simp [hclosed])))
    · rw [hsubmitted]
      exact h.2 f (hleft hf) hnot
  · refine ⟨fun hserving => by simp [hadding] at hserving, fun f hf hnot => ?_⟩
    rw [mem_unfinished, hnext, hdone] at hf
    rw [hnext]
    rcases Nat.lt_succ_iff_lt_or_eq.mp hf.1 with hlt | rfl
    · exact absurd (h.1 hhere (mem_unfinished.mpr ⟨hlt, hf.2⟩)) hnot
    · rfl

theorem Covered.apply (h : server.Covered futures) (hclosed : server.isOpen = false)
    (event : ServerEvent) : (server.apply event).Covered futures := by
  rcases server.apply_cases event with ⟨hsubmitted, hdone, haccepted⟩ | ⟨hhere, -, -, -⟩
  · refine ⟨fun hserving => ?_, fun f hf => h.2 ?_⟩
    · exact h.1 ((haccepted hserving).resolve_right (by simp [hclosed]))
    · rw [mem_unfinished, hsubmitted] at hf
      exact mem_unfinished.mpr ⟨hf.1, fun hmem => hf.2 (hdone hmem)⟩
  · exact absurd hhere h.1

theorem Beyond.of_subset_done (h : server.Beyond futures) (hdone : futures ⊆ server.done) :
    server.Beyond ∅ := by
  have hout : ∀ f ∈ server.unfinished, f ∉ futures :=
    fun f hf hmem => (mem_unfinished.mp hf).2 (hdone hmem)
  exact ⟨fun hserving f hf => absurd (h.1 hserving hf) (hout f hf),
    fun f hf _ => h.2 f hf (hout f hf)⟩

theorem Covered.of_subset_done (h : server.Covered futures) (hdone : futures ⊆ server.done) :
    server.Covered ∅ :=
  ⟨h.1, fun _ hf => absurd (hdone (h.2 hf)) (mem_unfinished.mp hf).2⟩

theorem Accounted.beyond (h : Accounted server) : server.Beyond server.futures := by
  refine ⟨fun hserving f hf => ?_, fun f hf hnot => ?_⟩
  · refine (h.mem_futures f).mpr ?_
    rcases h.unfinished f hf with hmem | hother | hother
    · exact .inl hmem
    · exact .inr hother
    · simp [hserving] at hother
  · rcases h.unfinished f hf with hmem | hother | hother
    · exact absurd ((h.mem_futures f).mpr (.inl hmem)) hnot
    · exact absurd ((h.mem_futures f).mpr (.inr hother)) hnot
    · exact (h.adding f hother).1

theorem Accounted.covered (h : Accounted server) (hhand : ¬ server.InHand) :
    server.Covered server.futures := by
  refine ⟨fun hserving => hhand (.inl hserving), fun f hf => (h.mem_futures f).mpr ?_⟩
  rcases h.unfinished f hf with hmem | hother | hother
  · exact .inl hmem
  · exact .inr hother
  · exact absurd (.inr ⟨f, hother⟩) hhand

/-- The course of `stop`, for a relation between the server and the futures that
it waits for. -/
structure Settles (R : BartenderThriftServer → Finset ℕ → Prop) (server : BartenderThriftServer) :
    Prop where
  closed : server.stopping ≠ .flagging → server.stopping ≠ .closing → server.isOpen = false
  waits : ∀ futures, server.stopping = .waiting futures → R server futures
  settled : server.StoppedClean → R server ∅

theorem apply_stop_fields {event : ServerEvent} (h : ∀ timesOut, event ≠ .stop timesOut) :
    (server.apply event).stopping = server.stopping ∧
      (server.apply event).stopped = server.stopped ∧
      (server.apply event).isOpen = server.isOpen ∧
      (server.apply event).orphaned = server.orphaned := by
  cases event with
  | serve succeeds =>
    simp only [BartenderThriftServer.apply, BartenderThriftServer.serveStep]
    cases server.serving with
    | submitting => cases succeeds <;> simp
    | registering g => by_cases hdone : g ∈ server.done <;> simp [hdone]
    | _ => simp
  | finish g =>
    simp only [BartenderThriftServer.apply, BartenderThriftServer.finishFuture]
    split_ifs <;> simp
  | runCallback g =>
    simp only [BartenderThriftServer.apply, BartenderThriftServer.invokeCallback]
    split_ifs <;> simp
  | stop timesOut => exact absurd rfl (h timesOut)

theorem Settles.apply {R : BartenderThriftServer → Finset ℕ → Prop} (h : Settles R server)
    (hstep : ∀ server futures event, R server futures → server.isOpen = false →
      R (server.apply event) futures)
    (hdone : ∀ futures, R server futures → futures ⊆ server.done → R server ∅) {event : ServerEvent}
    (hlook : ∀ timesOut, event = .stop timesOut → server.stopping = .collecting →
      R server server.futures) :
    Settles R (server.apply event) := by
  by_cases hevent : ∃ timesOut, event = .stop timesOut
  · obtain ⟨timesOut, rfl⟩ := hevent
    have hkeeps : ∀ futures, R server futures → server.isOpen = false →
        R (server.stopStep timesOut) futures := fun futures => hstep server futures (.stop timesOut)
    change Settles R (server.stopStep timesOut)
    have hclosed := h.closed
    have hwaits := h.waits
    have hsettled := h.settled
    unfold StoppedClean at hsettled
    unfold BartenderThriftServer.stopStep at hkeeps ⊢
    cases hstopping : server.stopping with
    | flagging => constructor <;> simp [StoppedClean]
    | closing => constructor <;> simp [StoppedClean]
    | collecting =>
      have hshut : server.isOpen = false := hclosed (by simp [hstopping]) (by simp [hstopping])
      have hlooked := hkeeps _ (hlook timesOut rfl hstopping) hshut
      constructor
      · exact fun _ _ => hshut
      · intro futures hfutures
        cases hfutures
        simpa only [hstopping] using hlooked
      · simp [StoppedClean]
    | waiting futures =>
      have hshut : server.isOpen = false := hclosed (by simp [hstopping]) (by simp [hstopping])
      have hR := hwaits futures hstopping
      rw [hstopping] at hkeeps
      dsimp only at hkeeps ⊢
      split_ifs at hkeeps ⊢ with hall hout
      · constructor
        · exact fun _ _ => hshut
        · simp
        · exact fun _ => hkeeps ∅ (hdone futures hR hall) hshut
      · constructor
        · exact fun _ _ => hshut
        · simp
        · simp [StoppedClean]
      · constructor
        · exact fun _ _ => hshut
        · intro futures' hfutures
          cases hfutures
          exact hkeeps futures hR hshut
        · simp [StoppedClean]
    | orphaning =>
      have hshut : server.isOpen = false := hclosed (by simp [hstopping]) (by simp [hstopping])
      constructor
      · exact fun _ _ => hshut
      · simp
      · simp [StoppedClean]
    | finishing =>
      have hshut : server.isOpen = false := hclosed (by simp [hstopping]) (by simp [hstopping])
      rw [hstopping] at hkeeps
      constructor
      · exact fun _ _ => hshut
      · simp
      · exact fun hclean => hkeeps ∅ (hsettled ⟨.inl hstopping, hclean.2⟩) hshut
    | returned => exact h
  · have hother : ∀ timesOut, event ≠ .stop timesOut := fun timesOut he => hevent ⟨timesOut, he⟩
    obtain ⟨hstopping, -, hopen, horphaned⟩ := server.apply_stop_fields hother
    refine ⟨?_, fun futures hwaits => ?_, fun hclean => ?_⟩
    · rw [hstopping, hopen]
      exact h.closed
    · rw [hstopping] at hwaits
      exact hstep server futures event (h.waits futures hwaits)
        (h.closed (by simp [hwaits]) (by simp [hwaits]))
    · unfold StoppedClean at hclean
      rw [hstopping, horphaned] at hclean
      refine hstep server ∅ event (h.settled hclean) (h.closed ?_ ?_) <;>
        rcases hclean.1 with hs | hs <;> simp [hs]

theorem throughout_accounted (events : List ServerEvent) :
    Runs.Throughout apply Accounted events initial :=
  Runs.throughout_of_step (fun event _ h => h.apply event) accounted_initial events

theorem settles_initial (R : BartenderThriftServer → Finset ℕ → Prop) : Settles R initial := by
  constructor <;> simp [initial, StoppedClean]

/-- Every connection is accounted for in `self.futures`, except one that is being
added; no callback fails to find its future; and once all connections are served
and all callbacks ran, nothing is left in the set. -/
theorem futures_accounted (events : List ServerEvent) :
    Runs.Throughout apply (fun server =>
      server.keyErrors = 0 ∧
      (∀ f ∈ server.unfinished, f ∈ server.futures ∨ server.serving = .adding f) ∧
      (server.unfinished = ∅ → Disjoint server.done server.callbacks →
        (∀ f, server.serving ≠ .registering f) → server.futures = ∅)) events initial := by
  refine (throughout_accounted events).imp fun server h => ⟨h.noKeyError, fun f hf => ?_, ?_⟩
  · rcases h.unfinished f hf with hmem | hserving | hserving
    · exact .inl ((h.mem_futures f).mpr (.inl hmem))
    · exact .inl ((h.mem_futures f).mpr (.inr hserving))
    · exact .inr hserving
  · intro hserved hran hhand
    rw [Finset.eq_empty_iff_forall_notMem]
    intro f hf
    have hcallback := ((h.mem_futures f).mp hf).resolve_right (hhand f)
    refine Finset.disjoint_right.mp hran hcallback ?_
    by_contra hdone
    have hleft := mem_unfinished.mpr ⟨h.submitted f hcallback, hdone⟩
    rw [hserved] at hleft
    simp at hleft

/-- When `stop` is through without having given up, the only connection that may
still be served is the last one that was accepted; and not even that one, if the
accepting thread had none in hand when `stop` looked at the futures. -/
theorem stop_waits (events : List ServerEvent) :
    Runs.Throughout apply (fun server =>
      server.StoppedClean → ∀ f ∈ server.unfinished, f + 1 = server.submitted) events initial ∧
    (Runs.Meets apply (fun event server =>
        (∃ timesOut, event = .stop timesOut) → server.stopping = .collecting → ¬ server.InHand)
        events initial →
      Runs.Throughout apply (fun server => server.StoppedClean → server.unfinished = ∅) events
        initial) := by
  constructor
  · have hsettles : Runs.Throughout apply (fun server => Accounted server ∧ Settles Beyond server)
        events initial := by
      refine Runs.throughout_of_step (fun event server h => ⟨h.1.apply event, h.2.apply
        (fun _ _ event hR hclosed => hR.apply hclosed event)
        (fun _ hR hdone => hR.of_subset_done hdone) fun _ _ _ => h.1.beyond⟩)
        ⟨accounted_initial, settles_initial Beyond⟩ events
    exact hsettles.imp fun server h hclean f hf => (h.2.settled hclean).2 f hf (by simp)
  · intro hmeets
    have hsettles : Runs.Throughout apply (fun server => Accounted server ∧ Settles Covered server)
        events initial := by
      refine Runs.throughout_of_meets (fun event server h hcondition => ⟨h.1.apply event, h.2.apply
        (fun _ _ event hR hclosed => hR.apply hclosed event)
        (fun _ hR hdone => hR.of_subset_done hdone) fun timesOut he hstopping =>
          h.1.covered (hcondition ⟨timesOut, he⟩ hstopping)⟩)
        ⟨accounted_initial, settles_initial Covered⟩ hmeets
    exact hsettles.imp fun server h hclean => Finset.subset_empty.mp (h.2.settled hclean).2

instance (server : BartenderThriftServer) : Decidable server.StoppedClean :=
  inferInstanceAs (Decidable ((_ ∨ _) ∧ _))

instance (server : BartenderThriftServer) : Decidable server.InHand :=
  decidable_of_iff (server.serving = .submitting ∨ server.serving.isAdding = true)
    (or_congr_right (by cases server.serving <;> simp [ServePoint.isAdding]))

/-- A connection that is accepted before `stop` looks at the futures, and served until
after that. -/
def servedConnection : List ServerEvent :=
  List.replicate 6 (.serve true) ++ List.replicate 4 (.stop false) ++ [.finish 0, .runCallback 0] ++
    List.replicate 2 (.stop false)

theorem stop_waits_served :
    let server := Runs.final apply servedConnection initial
    server.StoppedClean ∧ server.submitted = 1 ∧ server.unfinished = ∅ :=
  have hclean : (Runs.final apply servedConnection initial).StoppedClean := by decide
  ⟨hclean, by decide, ((stop_waits servedConnection).2 (by decide)).final hclean⟩

/-- How many steps the server's thread still takes in the loop of `serve`, once
it is asked to leave it. -/
def stepsLeft (server : BartenderThriftServer) : ℕ :=
  match server.serving with
  | .listening => 2
  | .testing => 1
  | .accepting => 2
  | .submitting => 4
  | .adding _ => 3
  | .registering _ => 2
  | .waiting => 0
  | .ended => 0
  | .died => 0

def taken (server : BartenderThriftServer) : ℕ :=
  server.submitted + if server.serving = .submitting then 1 else 0

def AskedToLeave (server : BartenderThriftServer) : Prop :=
  server.stopped = true ∧ server.isOpen = false

theorem AskedToLeave.serveStep (h : server.AskedToLeave) (succeeds : Bool) :
    (server.serveStep succeeds).stepsLeft ≤ server.stepsLeft - 1 ∧
      (server.serveStep succeeds).taken ≤ server.taken := by
  obtain ⟨hstopped, hclosed⟩ := h
  unfold BartenderThriftServer.serveStep
  cases hserving : server.serving with
  | listening => cases succeeds <;> simp [stepsLeft, taken, hserving]
  | testing => simp [stepsLeft, taken, hserving, hstopped]
  | accepting => simp [stepsLeft, taken, hserving, hclosed]
  | submitting => cases succeeds <;> simp [stepsLeft, taken, hserving]
  | adding f => simp [stepsLeft, taken, hserving]
  | registering f =>
    by_cases hdone : f ∈ server.done <;> simp [stepsLeft, taken, hserving, hdone]
  | waiting => cases server.finished <;> cases succeeds <;> simp [stepsLeft, taken, hserving]
  | ended => simp [stepsLeft, taken, hserving]
  | died => simp [stepsLeft, taken, hserving]

theorem AskedToLeave.apply (h : server.AskedToLeave) (event : ServerEvent) :
    (server.apply event).AskedToLeave ∧
      (server.apply event).stepsLeft ≤ server.stepsLeft - [event].countP ServerEvent.isServe ∧
      (server.apply event).taken ≤ server.taken := by
  cases event with
  | serve succeeds =>
    have hother : ∀ timesOut, ServerEvent.serve succeeds ≠ .stop timesOut := by simp
    obtain ⟨-, hstopped, hopen, -⟩ := server.apply_stop_fields hother
    exact ⟨⟨hstopped.trans h.1, hopen.trans h.2⟩, h.serveStep succeeds⟩
  | finish f =>
    simp only [BartenderThriftServer.apply, BartenderThriftServer.finishFuture]
    split_ifs <;> exact ⟨h, le_rfl, le_rfl⟩
  | runCallback f =>
    simp only [BartenderThriftServer.apply, BartenderThriftServer.invokeCallback]
    split_ifs
    · refine ⟨?_, ?_, ?_⟩ <;> simp [AskedToLeave, stepsLeft, taken, h.1, h.2, ServerEvent.isServe]
    · exact ⟨h, le_rfl, le_rfl⟩
  | stop timesOut =>
    obtain ⟨hstopped, hclosed⟩ := h
    simp only [BartenderThriftServer.apply, BartenderThriftServer.stopStep]
    split <;> (try split_ifs) <;>
      (refine ⟨⟨?_, ?_⟩, le_rfl, le_rfl⟩ <;> first | rfl | assumption)

/-- Once the flag is set and the socket is closed, four steps of its own take the
server's thread out of the loop, whatever the other threads do in between; and at
most one more connection is handed to the pool. -/
theorem serve_leaves (h : server.AskedToLeave) {events : List ServerEvent}
    (hsteps : 4 ≤ events.countP ServerEvent.isServe) :
    ((Runs.final apply events server).serving = .waiting ∨
      (Runs.final apply events server).serving = .ended ∨
      (Runs.final apply events server).serving = .died) ∧
    (Runs.final apply events server).submitted ≤ server.submitted + 1 := by
  have hrun : ∀ (events : List ServerEvent) (server : BartenderThriftServer),
      server.AskedToLeave →
      (Runs.final apply events server).stepsLeft ≤
          server.stepsLeft - events.countP ServerEvent.isServe ∧
        (Runs.final apply events server).taken ≤ server.taken := by
    intro events
    induction events with
    | nil => exact fun server _ => ⟨le_rfl, le_rfl⟩
    | cons event events ih =>
      intro server h
      obtain ⟨hasked, hleft, htaken⟩ := h.apply event
      obtain ⟨hleft', htaken'⟩ := ih _ hasked
      refine ⟨?_, htaken'.trans htaken⟩
      have hcount : (event :: events).countP ServerEvent.isServe =
          [event].countP ServerEvent.isServe + events.countP ServerEvent.isServe := by
        rw [← List.countP_append]
        rfl
      rw [hcount]
      unfold Runs.final
      omega
  obtain ⟨hleft, htaken⟩ := hrun events server h
  have hmost : server.stepsLeft ≤ 4 := by
    unfold stepsLeft
    split <;> decide
  constructor
  · have hzero : (Runs.final apply events server).stepsLeft = 0 := by omega
    unfold stepsLeft at hzero
    split at hzero
    case h_7 hserving => exact .inl hserving
    case h_8 hserving => exact .inr (.inl hserving)
    case h_9 hserving => exact .inr (.inr hserving)
    all_goals cases hzero
  · unfold taken at htaken
    split_ifs at htaken <;> omega

/-- A connection is accepted, and then the server is stopped. -/
theorem serve_leaves_accepted :
    let server := Runs.final apply
      [.serve true, .serve true, .serve true, .stop false, .stop false] initial
    let events : List ServerEvent := [.serve true, .serve true, .serve true, .serve true]
    ((Runs.final apply events server).serving = .waiting ∨
      (Runs.final apply events server).serving = .ended ∨
      (Runs.final apply events server).serving = .died) ∧
    (Runs.final apply events server).submitted ≤ server.submitted + 1 :=
  serve_leaves ⟨rfl, rfl⟩ (by decide)

end BartenderThriftServer
end Bartender
