import Bartender.Library.Runs
import Mathlib.Data.List.Nodup
import Mathlib.Data.Rat.Defs
import Mathlib.Tactic

/-!
# Starting the process

`main` waits for its four connections with `progressive_backoff`, checks its
permissions and starts the application. A signal asks the application to stop;
Python runs the handler between any two steps of `main`.
-/

namespace Bartender

/-- The double that `0.1` is. -/
def firstWait : ℚ := 3602879701896397 / 36028797018963968

def backoffDelay (failures : ℕ) : ℚ := min (firstWait * 2 ^ failures) 30

theorem backoffDelay_zero : backoffDelay 0 = firstWait := by
  unfold backoffDelay firstWait
  norm_num

theorem backoffDelay_succ (n : ℕ) : backoffDelay (n + 1) = min (backoffDelay n * 2) 30 := by
  unfold backoffDelay
  rw [pow_succ, ← mul_assoc]
  rcases le_total (firstWait * 2 ^ n) 30 with h | h
  · rw [min_eq_left h]
  · rw [min_eq_right h, min_eq_right (h.trans (le_mul_of_one_le_right (by linarith) one_le_two)),
      min_eq_right (by norm_num)]

/-- What the client's `who_am_i` gives. -/
inductive WhoAmI
  | validationError
  | raised
  | principal (permissions : List String)

inductive MainError
  | configurationError (message : String)
  | raised
  deriving DecidableEq

/-- `ensure_admin`, with the configured `web.username`. -/
def ensureAdmin (username : Option String) : WhoAmI → Except MainError Unit
  | .validationError => .error (.configurationError
      ("Unable to authenticate using provided username and password. " ++
        "This usually indicates an incorrect password - please check the " ++
        "web.username and web.password fields in the configuration."))
  | .raised => .error .raised
  | .principal permissions =>
    if "bg-all" ∈ permissions then .ok ()
    else if username.getD "" ≠ "" then .error (.configurationError
      ("User \"" ++ username.getD "" ++ "\" does not have \"bg-all\" permission. Please check " ++
        "your configuration (specifically web.username and web.password fields)"))
    else .error (.configurationError
      ("It appears that Brew-view is operating with authentication " ++
        "enabled and no username / password was provided. Please check " ++
        "your configuration (specifically web.username and web.password fields)."))

def WhoAmI.permissions : WhoAmI → List String
  | principal permissions => permissions
  | _ => []

theorem mem_permissions_of_ensureAdmin {username : Option String} {whoAmI : WhoAmI}
    (h : ensureAdmin username whoAmI = .ok ()) : "bg-all" ∈ whoAmI.permissions := by
  cases whoAmI with
  | validationError => cases h
  | raised => cases h
  | principal permissions =>
    by_contra hadmin
    change "bg-all" ∉ permissions at hadmin
    rw [ensureAdmin, if_neg hadmin] at h
    split_ifs at h

inductive Connection
  | brewView
  | mongo
  | rabbitmq
  | rabbitmqAdmin
  deriving DecidableEq, Repr

/-- In the order in which `main` waits for them. -/
def connections : List Connection := [.brewView, .mongo, .rabbitmq, .rabbitmqAdmin]

/-- Where `main` stands. In `progressive_backoff`: before `stopped()`, before
`func()` and before `wait(wait_time)`, with the connections after this one. -/
inductive MainPoint
  | testing (connection : Connection) (rest : List Connection) (waitTime : ℚ)
  | calling (connection : Connection) (rest : List Connection) (waitTime : ℚ)
  | waiting (connection : Connection) (rest : List Connection) (waitTime : ℚ)
  | testStopped
  | ensuringAdmin
  | starting
  | started
  | pausing
  | ended
  deriving DecidableEq

/-- The next call of `progressive_backoff`, or what follows the last one. -/
def MainPoint.next : List Connection → MainPoint
  | [] => testStopped
  | connection :: rest => testing connection rest firstWait

structure MainProcess where
  point : MainPoint
  /-- The exception that ended `main`, at that point. -/
  error : Option MainError
  /-- The stop flag of the application. -/
  stopped : Bool
  /-- The calls of the connections' functions so far, with what they returned. -/
  calls : List (Connection × Bool)
  waits : List (Connection × ℚ)
  /-- Those of the user that passed `ensure_admin`. -/
  permissions : List String
  /-- How often `application.start()` was called. -/
  started : ℕ

/-- A step of `main`, with what the connection's function returns, unless it
raises, and what `who_am_i` gives; or a signal. -/
inductive MainEvent
  | step (connects : Option Bool) (whoAmI : WhoAmI)
  | signal

namespace MainProcess

variable (username : Option String) (main : MainProcess)

def goTo (point : MainPoint) : MainProcess := { main with point := point }

def fail (error : MainError) : MainProcess := { main with error := some error }

def step (connects : Option Bool) (whoAmI : WhoAmI) : MainProcess :=
  match main.point with
  | .testing connection rest waitTime =>
    main.goTo (if main.stopped then .next rest else .calling connection rest waitTime)
  | .calling connection rest waitTime =>
    match connects with
    | none => main.fail .raised
    | some connected =>
      { main with
        point := if connected then .next rest else .waiting connection rest waitTime
        calls := main.calls ++ [(connection, connected)] }
  | .waiting connection rest waitTime =>
    { main with
      point := .testing connection rest (min (waitTime * 2) 30)
      waits := main.waits ++ [(connection, waitTime)] }
  | .testStopped => main.goTo (if main.stopped then .ended else .ensuringAdmin)
  | .ensuringAdmin =>
    match ensureAdmin username whoAmI with
    | .ok () => { main with point := .starting, permissions := whoAmI.permissions }
    | .error e => main.fail e
  | .starting => { main with point := .started, started := main.started + 1 }
  | .started => main.goTo .pausing
  | .pausing => main
  | .ended => main

/-- `signal_handler` sets the application's flag; `signal.pause` returns after it. -/
def handleSignal : MainProcess :=
  { main with
    stopped := true
    point := if main.point = .pausing then .ended else main.point }

def apply (event : MainEvent) (main : MainProcess) : MainProcess :=
  if main.error = none then
    match event with
    | .step connects whoAmI => main.step username connects whoAmI
    | .signal => main.handleSignal
  else main

def initial : MainProcess where
  point := .next connections
  error := none
  stopped := false
  calls := []
  waits := []
  permissions := []
  started := 0

def connected : List Connection := (main.calls.filter Prod.snd).map Prod.fst

def failures (connection : Connection) : ℕ :=
  main.calls.countP fun call => call.1 = connection ∧ call.2 = false

def waitsFor (connection : Connection) : List ℚ :=
  (main.waits.filter fun wait => wait.1 = connection).map Prod.snd

end MainProcess

/-- The connections whose function has not returned true. -/
def MainPoint.pending : MainPoint → List Connection
  | testing connection rest _ => connection :: rest
  | calling connection rest _ => connection :: rest
  | waiting connection rest _ => connection :: rest
  | _ => []

/-- Past the last test of `stopped()`, where a stop request is not looked at. -/
def MainPoint.Committed : MainPoint → Prop
  | ensuringAdmin => True
  | starting => True
  | started => True
  | pausing => True
  | _ => False

def MainPoint.HasStarted : MainPoint → Prop
  | started => True
  | pausing => True
  | ended => True
  | _ => False

@[simp] theorem MainPoint.pending_next (rest : List Connection) :
    (MainPoint.next rest).pending = rest := by
  cases rest <;> rfl

namespace MainProcess

/-- Unless a stop was requested, the connections before the one at hand are those
that were made. -/
structure Orderly (main : MainProcess) : Prop where
  split : ∃ done, done ++ main.point.pending = connections ∧
    (main.stopped = false → main.connected = done)
  committed : main.point.Committed → main.connected = connections
  permitted : main.point = .starting → "bg-all" ∈ main.permissions
  started : 0 < main.started → main.connected = connections ∧ main.started = 1 ∧
    "bg-all" ∈ main.permissions ∧ main.point.HasStarted

variable {username : Option String} {main : MainProcess}

theorem orderly_initial : Orderly initial where
  split := ⟨[], rfl, fun _ => rfl⟩
  committed h := h.elim
  permitted h := by cases h
  started h := absurd h (Nat.lt_irrefl 0)

@[simp] theorem committed_next (rest : List Connection) : ¬ (MainPoint.next rest).Committed := by
  cases rest <;> exact id

theorem Orderly.notStarted (h : Orderly main) (hpoint : ¬ main.point.HasStarted) :
    main.started = 0 := by
  by_contra hne
  exact hpoint (h.started (Nat.pos_of_ne_zero hne)).2.2.2

theorem Orderly.backoff (h : Orderly main) (hpoint : ¬ main.point.HasStarted)
    {next : MainProcess} (hsplit : ∃ done, done ++ next.point.pending = connections ∧
      (next.stopped = false → next.connected = done))
    (hcommitted : ¬ next.point.Committed) (hstarted : next.started = main.started) :
    Orderly next where
  split := hsplit
  committed hc := absurd hc hcommitted
  permitted hp := absurd (by rw [hp]; trivial) hcommitted
  started hpos := by rw [hstarted, h.notStarted hpoint] at hpos; exact absurd hpos (Nat.lt_irrefl 0)

theorem Orderly.fail (h : Orderly main) (error : MainError) : Orderly (main.fail error) :=
  { h with }

theorem connected_append (main : MainProcess) (c : Connection) (value : Bool) :
    ({ main with calls := main.calls ++ [(c, value)] } : MainProcess).connected =
      if value then main.connected ++ [c] else main.connected := by
  cases value <;> simp [connected]

theorem Orderly.step (h : Orderly main) (connects : Option Bool) (whoAmI : WhoAmI) :
    Orderly (main.step username connects whoAmI) := by
  obtain ⟨done, hdone, hconnected⟩ := h.split
  unfold MainProcess.step
  cases hpoint : main.point with
  | testing c rest w =>
    rw [hpoint] at hdone
    change done ++ c :: rest = connections at hdone
    dsimp only
    split_ifs with hstopped
    · refine h.backoff (by rw [hpoint]; exact id) ⟨done ++ [c], ?_, ?_⟩ (by simp [goTo]) rfl
      · simpa [goTo] using hdone
      · simp [goTo, hstopped]
    · exact h.backoff (by rw [hpoint]; exact id) ⟨done, hdone, hconnected⟩ id rfl
  | calling c rest w =>
    rw [hpoint] at hdone
    change done ++ c :: rest = connections at hdone
    cases connects with
    | none => exact h.fail _
    | some value =>
      cases value with
      | true =>
        refine h.backoff (by rw [hpoint]; exact id) ⟨done ++ [c], ?_, fun hrunning => ?_⟩
          (by simp) rfl
        · simpa using hdone
        · rw [← hconnected hrunning]
          exact connected_append main c true
      | false =>
        refine h.backoff (by rw [hpoint]; exact id) ⟨done, hdone, fun hrunning => ?_⟩ id rfl
        rw [← hconnected hrunning]
        exact connected_append main c false
  | waiting c rest w =>
    rw [hpoint] at hdone
    exact h.backoff (by rw [hpoint]; exact id) ⟨done, hdone, hconnected⟩ id rfl
  | testStopped =>
    rw [hpoint] at hdone
    have hdone' : done = connections := (List.append_nil done).symm.trans hdone
    have hzero := h.notStarted (by rw [hpoint]; exact id)
    dsimp only
    split_ifs with hstopped
    · exact ⟨⟨done, hdone, hconnected⟩, fun hc => hc.elim,
        fun hp => (by cases hp), fun hpos => absurd hzero hpos.ne'⟩
    · have hall : main.connected = connections := by
        rw [hconnected (by simpa using hstopped), hdone']
      exact ⟨⟨done, hdone, hconnected⟩, fun _ => hall,
        fun hp => (by cases hp), fun hpos => absurd hzero hpos.ne'⟩
  | ensuringAdmin =>
    rw [hpoint] at hdone
    have hzero := h.notStarted (by rw [hpoint]; exact id)
    have hall := h.committed (by rw [hpoint]; trivial)
    dsimp only
    split
    · rename_i hadmin
      exact ⟨⟨done, hdone, hconnected⟩, fun _ => hall,
        fun _ => mem_permissions_of_ensureAdmin hadmin, fun hpos => absurd hzero hpos.ne'⟩
    · exact h.fail _
  | starting =>
    rw [hpoint] at hdone
    have hzero := h.notStarted (by rw [hpoint]; exact id)
    have hall := h.committed (by rw [hpoint]; trivial)
    exact ⟨⟨done, hdone, hconnected⟩, fun _ => hall,
      fun hp => (by cases hp), fun _ => ⟨hall, by simp [hzero], h.permitted hpoint, trivial⟩⟩
  | started =>
    rw [hpoint] at hdone
    have hall := h.committed (by rw [hpoint]; trivial)
    refine ⟨⟨done, hdone, hconnected⟩, fun _ => hall, fun hp => (by cases hp), fun hpos => ?_⟩
    obtain ⟨-, honce, hadmin, -⟩ := h.started hpos
    exact ⟨hall, honce, hadmin, trivial⟩
  | pausing => exact h
  | ended => exact h

theorem Orderly.handleSignal (h : Orderly main) : Orderly main.handleSignal := by
  obtain ⟨done, hdone, -⟩ := h.split
  unfold MainProcess.handleSignal
  by_cases hpausing : main.point = .pausing
  · rw [hpausing] at hdone
    have hall := h.committed (by rw [hpausing]; trivial)
    simp only [hpausing, if_true]
    exact ⟨⟨done, hdone, fun hrunning => (by cases hrunning)⟩, fun hc => hc.elim,
      fun hp => (by cases hp),
      fun hpos => ⟨hall, (h.started hpos).2.1, (h.started hpos).2.2.1, trivial⟩⟩
  · simp only [hpausing, if_false]
    exact ⟨⟨done, hdone, fun hrunning => (by cases hrunning)⟩, h.committed, h.permitted, h.started⟩

theorem Orderly.apply (h : Orderly main) (event : MainEvent) :
    Orderly (main.apply username event) := by
  unfold MainProcess.apply
  split_ifs
  · cases event with
    | step connects whoAmI => exact h.step connects whoAmI
    | signal => exact h.handleSignal
  · exact h

/-- Whatever the functions return and whenever a signal comes: the application is
started at most once, and only after the functions of the four connections have
returned true, each after the one before, and the user has the permission. -/
theorem started_connected (username : Option String) (events : List MainEvent) :
    Runs.Throughout (apply username) (fun main => main.started ≤ 1 ∧
      (0 < main.started → main.connected = connections ∧ "bg-all" ∈ main.permissions)) events
      initial := by
  refine (Runs.throughout_of_step (fun event _ h => h.apply event) orderly_initial events).imp
    fun main (h : Orderly main) => ⟨?_, fun hpos => ⟨(h.started hpos).1, (h.started hpos).2.2.1⟩⟩
  by_cases hpos : 0 < main.started
  · exact (h.started hpos).2.1.le
  · omega

end MainProcess

def MainPoint.attempt : MainPoint → Option (Connection × ℚ)
  | testing connection _ waitTime => some (connection, waitTime)
  | calling connection _ waitTime => some (connection, waitTime)
  | waiting connection _ waitTime => some (connection, waitTime)
  | _ => none

def MainPoint.isWaiting (connection : Connection) : MainPoint → Bool
  | waiting c _ _ => c = connection
  | _ => false

@[simp] theorem MainPoint.isWaiting_next (c : Connection) (rest : List Connection) :
    (MainPoint.next rest).isWaiting c = false := by
  cases rest <;> rfl

namespace MainProcess

structure Paced (main : MainProcess) : Prop where
  waits : ∀ c, main.waitsFor c = (List.range (main.waitsFor c).length).map backoffDelay
  failures : ∀ c, main.failures c =
    (main.waitsFor c).length + if main.point.isWaiting c then 1 else 0
  attempt : ∀ c w, main.point.attempt = some (c, w) → w = backoffDelay (main.waitsFor c).length
  nodup : main.point.pending.Nodup
  fresh : ∀ c ∈ main.point.pending.tail, main.waitsFor c = []

theorem paced_initial : Paced initial where
  waits _ := rfl
  failures _ := rfl
  attempt c w h := by
    cases h
    exact backoffDelay_zero.symm
  nodup := by decide
  fresh _ _ := rfl

/-- The backoff for the next connection begins. -/
theorem Paced.next (h : Paced main) {c : Connection} {rest : List Connection}
    (hpending : main.point.pending = c :: rest) (hwaiting : ∀ c, main.point.isWaiting c = false)
    {after : MainProcess} (hpoint : after.point = .next rest) (hwaits : after.waits = main.waits)
    (hfailures : ∀ c, after.failures c = main.failures c) : Paced after := by
  have hsame : ∀ c, after.waitsFor c = main.waitsFor c := fun c => by
    unfold waitsFor
    rw [hwaits]
  have hfresh := h.fresh
  have hnodup := h.nodup
  rw [hpending] at hfresh hnodup
  constructor
  · intro c
    rw [hsame]
    exact h.waits c
  · intro c
    rw [hsame, hfailures, h.failures, hwaiting, hpoint, MainPoint.isWaiting_next]
  · intro c' w hattempt
    rw [hpoint] at hattempt
    cases rest with
    | nil => cases hattempt
    | cons c'' rest =>
      cases hattempt
      rw [hsame, hfresh c' List.mem_cons_self]
      exact backoffDelay_zero.symm
  · rw [hpoint, MainPoint.pending_next]
    exact (List.nodup_cons.mp hnodup).2
  · intro c' hc'
    rw [hpoint, MainPoint.pending_next] at hc'
    rw [hsame]
    exact hfresh c' (List.mem_of_mem_tail hc')

theorem Paced.goTo (h : Paced main) {point : MainPoint}
    (hpending : point.pending = main.point.pending)
    (hwaiting : ∀ c, point.isWaiting c = main.point.isWaiting c)
    (hattempt : point.attempt = main.point.attempt) : Paced (main.goTo point) where
  waits := h.waits
  failures c := by
    rw [show (main.goTo point).point = point from rfl, hwaiting]
    exact h.failures c
  attempt c w hc := h.attempt c w (by rw [← hattempt]; exact hc)
  nodup := by
    rw [show (main.goTo point).point = point from rfl, hpending]
    exact h.nodup
  fresh := by
    rw [show (main.goTo point).point = point from rfl, hpending]
    exact h.fresh

theorem Paced.fail (h : Paced main) (error : MainError) : Paced (main.fail error) := { h with }

theorem Paced.refused (h : Paced main) {c : Connection} {rest : List Connection} {w : ℚ}
    (hpoint : main.point = .calling c rest w) :
    Paced { main with point := .waiting c rest w, calls := main.calls ++ [(c, false)] } where
  waits := h.waits
  failures c' := by
    have hfailures := h.failures c'
    rw [hpoint] at hfailures
    unfold MainProcess.failures at hfailures ⊢
    rw [List.countP_append, hfailures]
    by_cases hc : c = c'
    · simp [MainPoint.isWaiting, hc, waitsFor]
    · simp [MainPoint.isWaiting, hc, waitsFor]
  attempt c' w' hattempt := h.attempt c' w' (by rw [hpoint]; exact hattempt)
  nodup := by
    have hnodup := h.nodup
    rw [hpoint] at hnodup
    exact hnodup
  fresh := by
    have hfresh := h.fresh
    rw [hpoint] at hfresh
    exact hfresh

/-- The wait is over. -/
theorem Paced.waited (h : Paced main) {c : Connection} {rest : List Connection} {w : ℚ}
    (hpoint : main.point = .waiting c rest w) :
    Paced { main with
      point := .testing c rest (min (w * 2) 30)
      waits := main.waits ++ [(c, w)] } := by
  have hw := h.attempt c w (by rw [hpoint]; rfl)
  have hnodup := h.nodup
  have hfresh := h.fresh
  rw [hpoint] at hnodup hfresh
  let after : MainProcess := { main with
    point := .testing c rest (min (w * 2) 30)
    waits := main.waits ++ [(c, w)] }
  have hown : after.waitsFor c = main.waitsFor c ++ [w] := by simp [after, waitsFor]
  have hother : ∀ c', c ≠ c' → after.waitsFor c' = main.waitsFor c' := by
    intro c' hc
    simp [after, waitsFor, hc]
  change Paced after
  constructor
  · intro c'
    by_cases hc : c = c'
    · subst hc
      rw [hown, List.length_append, List.length_singleton, List.range_succ, List.map_append,
        ← h.waits c, List.map_singleton, ← hw]
    · rw [hother c' hc]
      exact h.waits c'
  · intro c'
    have hfailures := h.failures c'
    rw [hpoint] at hfailures
    change main.failures c' = (after.waitsFor c').length + 0
    rw [hfailures]
    by_cases hc : c = c'
    · subst hc
      rw [hown]
      simp [MainPoint.isWaiting]
    · rw [hother c' hc]
      simp [MainPoint.isWaiting, hc]
  · intro c' w' hattempt
    cases hattempt
    rw [hown, List.length_append, List.length_singleton, backoffDelay_succ, ← hw]
  · exact hnodup
  · intro c' hc'
    have hc : c ≠ c' := by
      rintro rfl
      exact (List.nodup_cons.mp hnodup).1 hc'
    rw [hother c' hc]
    exact hfresh c' hc'

theorem Paced.step (h : Paced main) (connects : Option Bool) (whoAmI : WhoAmI) :
    Paced (main.step username connects whoAmI) := by
  unfold MainProcess.step
  cases hpoint : main.point with
  | testing c rest w =>
    dsimp only
    split_ifs
    · exact h.next (by rw [hpoint]; rfl) (by simp [hpoint, MainPoint.isWaiting]) rfl rfl
        fun _ => rfl
    · exact h.goTo (by rw [hpoint]; rfl) (by simp [hpoint, MainPoint.isWaiting])
        (by rw [hpoint]; rfl)
  | calling c rest w =>
    cases connects with
    | none => exact h.fail _
    | some value =>
      cases value with
      | true =>
        refine h.next (by rw [hpoint]; rfl) (by simp [hpoint, MainPoint.isWaiting]) rfl rfl
          fun c' => ?_
        simp [MainProcess.failures]
      | false => exact h.refused hpoint
  | waiting c rest w => exact h.waited hpoint
  | testStopped =>
    dsimp only
    split_ifs
    · exact h.goTo (by rw [hpoint]; rfl) (by simp [hpoint, MainPoint.isWaiting])
        (by rw [hpoint]; rfl)
    · exact h.goTo (by rw [hpoint]; rfl) (by simp [hpoint, MainPoint.isWaiting])
        (by rw [hpoint]; rfl)
  | ensuringAdmin =>
    dsimp only
    split
    · have hnext : Paced (main.goTo .starting) :=
        h.goTo (by rw [hpoint]; rfl) (by simp [hpoint, MainPoint.isWaiting]) (by rw [hpoint]; rfl)
      exact { hnext with }
    · exact h.fail _
  | starting =>
    have hnext : Paced (main.goTo .started) :=
      h.goTo (by rw [hpoint]; rfl) (by simp [hpoint, MainPoint.isWaiting]) (by rw [hpoint]; rfl)
    exact { hnext with }
  | started =>
    exact h.goTo (by rw [hpoint]; rfl) (by simp [hpoint, MainPoint.isWaiting]) (by rw [hpoint]; rfl)
  | pausing => exact h
  | ended => exact h

theorem Paced.handleSignal (h : Paced main) : Paced main.handleSignal := by
  have hnext : Paced (main.goTo (if main.point = .pausing then .ended else main.point)) := by
    split_ifs with hpausing
    · exact h.goTo (by rw [hpausing]; rfl) (by simp [hpausing, MainPoint.isWaiting])
        (by rw [hpausing]; rfl)
    · exact h.goTo rfl (fun _ => rfl) rfl
  exact { hnext with }

theorem Paced.apply (h : Paced main) (event : MainEvent) : Paced (main.apply username event) := by
  unfold MainProcess.apply
  split_ifs
  · cases event with
    | step connects whoAmI => exact h.step connects whoAmI
    | signal => exact h.handleSignal
  · exact h

/-- At any time there was one wait after every failed attempt, except that the
last one may not have begun; and the waits for a connection are a tenth of a second
doubled from one to the next, up to half a minute. -/
theorem waits_backoff (username : Option String) (events : List MainEvent) :
    Runs.Throughout (apply username) (fun main => ∀ c,
      main.waitsFor c = (List.range (main.waitsFor c).length).map backoffDelay ∧
      (main.waitsFor c).length ≤ main.failures c ∧
      main.failures c ≤ (main.waitsFor c).length + 1) events initial := by
  refine (Runs.throughout_of_step (fun event _ h => h.apply event) paced_initial events).imp
    fun main (h : Paced main) c => ⟨h.waits c, ?_⟩
  rw [h.failures c]
  split_ifs <;> omega

end MainProcess

/-- How many steps `main` takes at most until it ends, once a stop was requested. -/
def MainPoint.stepsLeft : MainPoint → ℕ
  | testing _ rest _ => rest.length + 2
  | calling _ rest _ => rest.length + 4
  | waiting _ rest _ => rest.length + 3
  | testStopped => 1
  | _ => 0

theorem MainPoint.stepsLeft_next (rest : List Connection) :
    (MainPoint.next rest).stepsLeft = rest.length + 1 := by
  cases rest <;> rfl

theorem MainPoint.eq_ended {point : MainPoint} (hcommitted : ¬ point.Committed)
    (h : point.stepsLeft = 0) : point = .ended := by
  cases point <;> simp_all [stepsLeft, Committed]

namespace MainProcess

variable {username : Option String} {main : MainProcess}

/-- `main` heads for its end, unless something raises. -/
theorem stepsLeft_step (username : Option String) (hstopped : main.stopped = true)
    (hcommitted : ¬ main.point.Committed)
    (connects : Option Bool) (whoAmI : WhoAmI) :
    (main.step username connects whoAmI).stopped = true ∧
      ¬ (main.step username connects whoAmI).point.Committed ∧
      ((main.step username connects whoAmI).error = none →
        (main.step username connects whoAmI).point.stepsLeft ≤ main.point.stepsLeft - 1) := by
  unfold MainProcess.step
  cases hpoint : main.point with
  | testing c rest w =>
    simp only [hstopped, if_true]
    refine ⟨hstopped, committed_next rest, fun _ => ?_⟩
    rw [goTo, MainPoint.stepsLeft_next]
    exact le_rfl
  | calling c rest w =>
    cases connects with
    | none =>
      refine ⟨hstopped, hcommitted, fun herror => ?_⟩
      simp [MainProcess.fail] at herror
    | some value =>
      cases value with
      | true =>
        refine ⟨hstopped, committed_next rest, fun _ => ?_⟩
        simp only [if_true]
        rw [MainPoint.stepsLeft_next]
        simp [MainPoint.stepsLeft]
      | false => exact ⟨hstopped, id, fun _ => by simp [MainPoint.stepsLeft]⟩
  | waiting c rest w => exact ⟨hstopped, id, fun _ => by simp [MainPoint.stepsLeft]⟩
  | testStopped =>
    simp only [hstopped, if_true]
    exact ⟨hstopped, id, fun _ => le_rfl⟩
  | ensuringAdmin => exact absurd (by rw [hpoint]; trivial) hcommitted
  | starting => exact absurd (by rw [hpoint]; trivial) hcommitted
  | started => exact absurd (by rw [hpoint]; trivial) hcommitted
  | pausing => exact absurd (by rw [hpoint]; trivial) hcommitted
  | ended => exact ⟨hstopped, hcommitted, fun _ => by simp [hpoint, MainPoint.stepsLeft]⟩

theorem committed_step (hcommitted : main.point.Committed) (connects : Option Bool)
    (whoAmI : WhoAmI) : (main.step username connects whoAmI).point.Committed := by
  unfold MainProcess.step
  cases hpoint : main.point with
  | ensuringAdmin =>
    dsimp only
    split
    · trivial
    · change main.point.Committed
      exact hcommitted
  | starting => trivial
  | started => trivial
  | pausing => exact hcommitted
  | _ =>
    rw [hpoint] at hcommitted
    exact hcommitted.elim

theorem apply_of_error (h : main.error ≠ none) (event : MainEvent) :
    main.apply username event = main := if_neg h

theorem final_of_error (h : main.error ≠ none) (events : List MainEvent) :
    Runs.final (apply username) events main = main := by
  induction events with
  | nil => rfl
  | cons event events ih => rw [Runs.final, apply_of_error h, ih]

/-- The events are steps of `main`. -/
def Unsignalled (events : List MainEvent) : Prop :=
  ∀ event ∈ events, ∃ connects whoAmI, event = .step connects whoAmI

theorem final_ended {events : List MainEvent} (hsteps : Unsignalled events)
    (hstopped : main.stopped = true) (hcommitted : ¬ main.point.Committed)
    (hreturns : (Runs.final (apply username) events main).error = none)
    (hlength : main.point.stepsLeft ≤ events.length) :
    (Runs.final (apply username) events main).point = .ended := by
  induction events generalizing main with
  | nil => exact MainPoint.eq_ended hcommitted (Nat.le_zero.mp hlength)
  | cons event events ih =>
    obtain ⟨connects, whoAmI, rfl⟩ := hsteps event List.mem_cons_self
    have hnone : main.error = none := by
      by_contra herror
      rw [final_of_error herror] at hreturns
      exact herror hreturns
    have hstep : main.apply username (.step connects whoAmI) = main.step username connects whoAmI :=
      if_pos hnone
    rw [Runs.final, hstep] at hreturns ⊢
    obtain ⟨hstopped', hcommitted', hleft⟩ :=
      stepsLeft_step username hstopped hcommitted connects whoAmI
    have hnone' : (main.step username connects whoAmI).error = none := by
      by_contra herror
      rw [final_of_error herror] at hreturns
      exact herror hreturns
    refine ih (fun e he => hsteps e (List.mem_cons_of_mem _ he)) hstopped' hcommitted' hreturns ?_
    have := hleft hnone'
    rw [List.length_cons] at hlength
    omega

theorem final_committed (username : Option String) {events : List MainEvent}
    (hsteps : Unsignalled events)
    (hcommitted : main.point.Committed) :
    (Runs.final (apply username) events main).point.Committed := by
  induction events generalizing main with
  | nil => exact hcommitted
  | cons event events ih =>
    obtain ⟨connects, whoAmI, rfl⟩ := hsteps event List.mem_cons_self
    refine ih (fun e he => hsteps e (List.mem_cons_of_mem _ he)) ?_
    unfold MainProcess.apply
    split_ifs
    · exact committed_step hcommitted connects whoAmI
    · exact hcommitted

/-- A signal comes at some point of `main`, and nothing raises afterwards. Seven
more steps end the process exactly if the signal did not come between the last
test of `stopped()` and `signal.pause()`, where `main` goes on to wait for another. -/
theorem signal_ends_iff {before events : List MainEvent}
    (hmain : Runs.final (apply username) before initial = main) (hsteps : Unsignalled events)
    (hlength : 7 ≤ events.length)
    (hreturns : (Runs.final (apply username) (.signal :: events) main).error = none) :
    (Runs.final (apply username) (.signal :: events) main).point = .ended ↔
      main.point ≠ .ensuringAdmin ∧ main.point ≠ .starting ∧ main.point ≠ .started := by
  have horderly : Orderly main := hmain ▸ (Runs.throughout_of_step
    (fun event _ h => h.apply event) orderly_initial before).final
  obtain ⟨done, hdone, -⟩ := horderly.split
  have hrest : main.point.pending.length ≤ 4 := by
    have hall := congrArg List.length hdone
    rw [List.length_append] at hall
    have : connections.length = 4 := rfl
    omega
  have hnone : main.error = none := by
    by_contra herror
    rw [final_of_error herror] at hreturns
    exact herror hreturns
  have hsignal : main.apply username .signal = main.handleSignal := if_pos hnone
  rw [Runs.final, hsignal] at hreturns ⊢
  have hstays (h : main.point ≠ .pausing) : main.handleSignal.point = main.point := if_neg h
  -- Past the last test the flag is not looked at, and the signal does not end the pause.
  have hmisses {p : Prop} (hcommitted : main.point.Committed) (hpause : main.point ≠ .pausing)
      (hp : ¬ p) : (Runs.final (apply username) events main.handleSignal).point = .ended ↔ p := by
    refine iff_of_false (fun hended => ?_) hp
    have hstill := final_committed username hsteps
      (show main.handleSignal.point.Committed by rwa [hstays hpause])
    rw [hended] at hstill
    exact hstill
  cases hpoint : main.point with
  | ensuringAdmin => exact hmisses (by rw [hpoint]; trivial) (by simp [hpoint]) (by simp)
  | starting => exact hmisses (by rw [hpoint]; trivial) (by simp [hpoint]) (by simp)
  | started => exact hmisses (by rw [hpoint]; trivial) (by simp [hpoint]) (by simp)
  | pausing =>
    have hended : main.handleSignal.point = .ended := if_pos hpoint
    refine iff_of_true (final_ended hsteps rfl (by rw [hended]; exact id) hreturns ?_) (by simp)
    rw [hended]
    exact Nat.zero_le _
  | _ =>
    have hsame := hstays (by simp [hpoint])
    rw [hpoint] at hsame hrest
    refine iff_of_true (final_ended hsteps rfl (by rw [hsame]; exact id) hreturns ?_) (by simp)
    rw [hsame]
    simp only [MainPoint.pending, MainPoint.stepsLeft, List.length_cons] at hrest ⊢
    omega

/-- The signal comes while `main` waits for brew-view. -/
theorem signal_ends_iff_early :
    let steps := List.replicate 7 (MainEvent.step (some false) .raised)
    let main := Runs.final (apply none) (steps.take 1) initial
    (Runs.final (apply none) (.signal :: steps) main).point = .ended ↔
      main.point ≠ .ensuringAdmin ∧ main.point ≠ .starting ∧ main.point ≠ .started :=
  signal_ends_iff rfl (fun event he => ⟨some false, .raised, List.eq_of_mem_replicate he⟩)
    (by decide) rfl

end MainProcess

end Bartender
