import Bartender.Plugins.ShutdownRace

/-!
# The application and its helper threads

`BartenderApp.run` starts the helper threads, replaces those that it finds dead
every tenth of a second, and stops them on its way out. A helper thread may end
at any moment, and the application may be asked to stop at any moment.
-/

namespace Bartender

/-- A thread object that a `HelperThread` made. -/
structure HelperRuntime where
  helper : Helper
  starts : ℕ
  alive : Bool
  /-- The thread's stop flag. -/
  stopped : Bool
  deriving DecidableEq

/-- Something that was called raised, or `helper.thread` was still `None`. -/
inductive AppError
  | raised
  | attributeError
  deriving DecidableEq

/-- Where the application's thread stands. The lists are the helper threads that
the loop at hand still goes through. -/
inductive AppPoint
  | verifyVirtualHost
  | ensureAdminExpiry
  | declareExchange
  | startHelpers (rest : List Helper)
  | loadPlugins
  | startAllPlugins
  | publishStarted
  | testStopped
  | checkHelpers (rest : List Helper)
  | sleeping
  /-- `HelperThread.start`, in `_startup` or in the loop of `run`: before
  `self.loader_func()` and before `self.thread.start()` -/
  | starting (helper : Helper) (rest : List Helper) (supervising : Bool)
  | launching (helper : Helper) (rest : List Helper) (supervising : Bool)
  | stopAllPlugins
  | stopHelpers (rest : List Helper)
  /-- `HelperThread.stop`, before `self.thread.stop()` and in `self.thread.join(2)` -/
  | requestingStop (helper : Helper) (rest : List Helper)
  | joining (helper : Helper) (rest : List Helper)
  | publishStopped
  | returned
  deriving DecidableEq

structure BartenderApp where
  point : AppPoint
  /-- What ended the thread, at that point. -/
  error : Option AppError
  /-- The stop flag of the application's own thread. -/
  stopped : Bool
  /-- `helper.thread`, as the number of a thread object. -/
  current : Helper → Option ℕ
  threads : ℕ → HelperRuntime
  /-- How many thread objects were made. -/
  next : ℕ

/-- A step of the application's thread, where what it calls may raise; the end of
a helper thread; a request to stop. -/
inductive AppEvent
  | app (succeeds : Bool)
  | threadEnds (thread : ℕ)
  | stop
  deriving DecidableEq

namespace BartenderApp

variable (helpers : List Helper) (app : BartenderApp)

def goTo (point : AppPoint) : BartenderApp := { app with point := point }

def crash (error : AppError) : BartenderApp := { app with error := some error }

def proceed (succeeds : Bool) (point : AppPoint) : BartenderApp :=
  if succeeds then app.goTo point else app.crash .raised

/-- `helper.thread.isAlive()`, with what follows in either case. -/
def whetherAlive (helper : Helper) (alive dead : AppPoint) : BartenderApp :=
  match app.current helper with
  | none => app.crash .attributeError
  | some thread => app.goTo (if (app.threads thread).alive then alive else dead)

/-- `self.thread = self.loader_func()`. -/
def makeThread (helper : Helper) : BartenderApp :=
  { app with
    current := Function.update app.current helper (some app.next)
    threads := Function.update app.threads app.next ⟨helper, 0, false, false⟩
    next := app.next + 1 }

/-- `self.thread.start()`, which raises on every call but the first. -/
def launch (helper : Helper) (succeeds : Bool) (point : AppPoint) : BartenderApp :=
  match app.current helper with
  | none => app.crash .attributeError
  | some thread =>
    let runtime := app.threads thread
    if succeeds ∧ runtime.starts = 0 then
      { app with
        point := point
        threads := Function.update app.threads thread
          { runtime with starts := runtime.starts + 1, alive := true } }
    else app.crash .raised

/-- `self.thread.stop()`, which sets the flag first. -/
def requestStop (helper : Helper) (succeeds : Bool) (point : AppPoint) : BartenderApp :=
  match app.current helper with
  | none => app.crash .attributeError
  | some thread =>
    let flagged := { app with
      threads := Function.update app.threads thread { app.threads thread with stopped := true } }
    flagged.proceed succeeds point

/-- `run`, with `_startup` and `_shutdown`, while nothing has ended it. -/
def run (succeeds : Bool) : BartenderApp :=
  match app.point with
  | .verifyVirtualHost => app.proceed succeeds .ensureAdminExpiry
  | .ensureAdminExpiry => app.proceed succeeds .declareExchange
  | .declareExchange => app.proceed succeeds (.startHelpers helpers)
  | .startHelpers [] => app.goTo .loadPlugins
  | .startHelpers (helper :: rest) => app.goTo (.starting helper rest false)
  | .starting helper rest supervising =>
    if succeeds then (app.makeThread helper).goTo (.launching helper rest supervising)
    else app.crash .raised
  | .launching helper rest supervising =>
    app.launch helper succeeds (if supervising then .checkHelpers rest else .startHelpers rest)
  | .loadPlugins => app.proceed succeeds .startAllPlugins
  | .startAllPlugins => app.proceed succeeds .publishStarted
  -- a `RequestException` of the notification is caught
  | .publishStarted => app.proceed succeeds .testStopped
  | .testStopped => app.goTo (if app.stopped then .stopAllPlugins else .checkHelpers helpers)
  | .checkHelpers [] => app.goTo .sleeping
  | .checkHelpers (helper :: rest) =>
    app.whetherAlive helper (.checkHelpers rest) (.starting helper rest true)
  | .sleeping => app.goTo .testStopped
  -- `stop_all_plugins` logs what goes wrong
  | .stopAllPlugins => app.goTo (.stopHelpers helpers.reverse)
  | .stopHelpers [] => app.goTo .publishStopped
  | .stopHelpers (helper :: rest) =>
    app.whetherAlive helper (.requestingStop helper rest) (.stopHelpers rest)
  | .requestingStop helper rest => app.requestStop helper succeeds (.joining helper rest)
  | .joining _ rest => app.goTo (.stopHelpers rest)
  | .publishStopped => app.proceed succeeds .returned
  | .returned => app

def step (succeeds : Bool) : BartenderApp :=
  if app.error = none then app.run helpers succeeds else app

/-- A helper thread ends, by itself, by an exception or because it was asked to. -/
def endThread (thread : ℕ) : BartenderApp :=
  { app with
    threads := Function.update app.threads thread { app.threads thread with alive := false } }

def apply (event : AppEvent) (app : BartenderApp) : BartenderApp :=
  match event with
  | .app succeeds => app.step helpers succeeds
  | .threadEnds thread => app.endThread thread
  | .stop => { app with stopped := true }

/-- The application before `run`. -/
def initial : BartenderApp where
  point := .verifyVirtualHost
  error := none
  stopped := false
  current := fun _ => none
  threads := fun _ => ⟨.thriftServer, 0, false, false⟩
  next := 0

end BartenderApp

namespace AppPoint

variable (helpers : List Helper)

/-- The helper threads that `_startup` has yet to make. -/
def unmade : AppPoint → List Helper
  | verifyVirtualHost => helpers
  | ensureAdminExpiry => helpers
  | declareExchange => helpers
  | startHelpers rest => rest
  | starting helper rest false => helper :: rest
  | launching _ rest false => rest
  | _ => []

/-- The helper threads that `_shutdown` has yet to ask to stop. -/
def unasked : AppPoint → List Helper
  | stopHelpers rest => rest
  | requestingStop helper rest => helper :: rest
  | joining _ rest => rest
  | publishStopped => []
  | returned => []
  | _ => helpers

/-- The helper threads that the loop at hand is about. -/
def mentioned : AppPoint → List Helper
  | startHelpers rest => rest
  | checkHelpers rest => rest
  | starting helper rest _ => helper :: rest
  | launching helper rest _ => helper :: rest
  | stopHelpers rest => rest
  | requestingStop helper rest => helper :: rest
  | joining helper rest => helper :: rest
  | _ => []

end AppPoint

namespace BartenderApp

structure Supervised (helpers : List Helper) (app : BartenderApp) : Prop where
  nodup : (app.point.unmade helpers).Nodup
  unmade : ∀ h ∈ helpers, app.current h = none ↔ h ∈ app.point.unmade helpers
  mentioned : ∀ h ∈ app.point.mentioned, h ∈ helpers
  current : ∀ h t, app.current h = some t → t < app.next ∧ (app.threads t).helper = h
  /-- A thread that is alive is the one that its helper refers to. -/
  alive : ∀ t, (app.threads t).alive = true → (app.threads t).starts = 1 ∧
    (app.threads t).helper ∈ helpers ∧ app.current (app.threads t).helper = some t
  starts : ∀ t, (app.threads t).starts ≤ 1
  starting : ∀ h rest b, app.point = .starting h rest b →
    ∀ t, app.current h = some t → (app.threads t).alive = false
  launching : ∀ h rest b, app.point = .launching h rest b →
    ∃ t, app.current h = some t ∧ (app.threads t).starts = 0
  asked : ∀ h ∈ helpers, h ∉ app.point.unasked helpers → ∀ t, app.current h = some t →
    (app.threads t).alive = true → (app.threads t).stopped = true
  error : app.error ≠ some .attributeError

variable {helpers : List Helper} {app : BartenderApp}

theorem supervised_initial (hnodup : helpers.Nodup) : Supervised helpers initial where
  nodup := hnodup
  unmade h hh := ⟨fun _ => hh, fun _ => rfl⟩
  mentioned _ h := by cases h
  current _ _ h := by cases h
  alive _ h := by cases h
  starts _ := Nat.zero_le _
  starting _ _ _ h := by cases h
  launching _ _ _ h := by cases h
  asked h hh hnot := absurd hh hnot
  error := by simp [initial]

/-- The application's thread goes on without touching a helper thread. -/
theorem Supervised.goTo (h : Supervised helpers app) {point : AppPoint}
    (hunmade : point.unmade helpers = app.point.unmade helpers)
    (hmentioned : ∀ h ∈ point.mentioned, h ∈ helpers)
    (hstarting : ∀ helper rest b, point = .starting helper rest b →
      ∀ t, app.current helper = some t → (app.threads t).alive = false)
    (hlaunching : ∀ helper rest b, point ≠ .launching helper rest b)
    (hasked : ∀ helper ∈ helpers, helper ∉ point.unasked helpers →
      helper ∉ app.point.unasked helpers ∨
        ∀ t, app.current helper = some t → (app.threads t).alive = true →
          (app.threads t).stopped = true) :
    Supervised helpers (app.goTo point) where
  nodup := by
    change (point.unmade helpers).Nodup
    rw [hunmade]
    exact h.nodup
  unmade := by
    change ∀ h ∈ helpers, app.current h = none ↔ h ∈ point.unmade helpers
    rw [hunmade]
    exact h.unmade
  mentioned := hmentioned
  current := h.current
  alive := h.alive
  starts := h.starts
  starting := hstarting
  launching helper rest b hpoint := absurd hpoint (hlaunching helper rest b)
  asked helper hh hnot := (hasked helper hh hnot).elim (h.asked helper hh) id
  error := h.error

theorem Supervised.crash (h : Supervised helpers app) : Supervised helpers (app.crash .raised) :=
  { h with error := by simp [BartenderApp.crash] }

theorem Supervised.proceed (h : Supervised helpers app) (succeeds : Bool) {point : AppPoint}
    (hgoTo : Supervised helpers (app.goTo point)) :
    Supervised helpers (app.proceed succeeds point) := by
  unfold BartenderApp.proceed
  split_ifs
  · exact hgoTo
  · exact h.crash

theorem Supervised.exists_current (h : Supervised helpers app)
    (hmade : app.point.unmade helpers = []) {helper : Helper} (hh : helper ∈ helpers) :
    ∃ t, app.current helper = some t := by
  cases hcurrent : app.current helper with
  | none =>
    have hmem := (h.unmade helper hh).mp hcurrent
    rw [hmade] at hmem
    cases hmem
  | some t => exact ⟨t, rfl⟩

/-- The old thread of the helper, if there is one, is dead. -/
theorem Supervised.makeThread (h : Supervised helpers app) {helper : Helper} {rest : List Helper}
    {b : Bool} (hpoint : app.point = .starting helper rest b) :
    Supervised helpers ((app.makeThread helper).goTo (.launching helper rest b)) := by
  have hdead := h.starting helper rest b hpoint
  have hhelper : helper ∈ helpers := h.mentioned helper (by simp [hpoint, AppPoint.mentioned])
  have hnodup := h.nodup
  have hunmade := h.unmade
  rw [hpoint] at hnodup hunmade
  constructor
  · cases b with
    | false => exact (List.nodup_cons.mp hnodup).2
    | true => exact List.nodup_nil
  · intro other hother
    by_cases hsame : other = helper
    · subst hsame
      cases b with
      | false =>
        simp [BartenderApp.goTo, BartenderApp.makeThread, AppPoint.unmade,
          (List.nodup_cons.mp hnodup).1]
      | true => simp [BartenderApp.goTo, BartenderApp.makeThread, AppPoint.unmade]
    · have hkept := hunmade other hother
      cases b <;>
        simpa [BartenderApp.goTo, BartenderApp.makeThread, AppPoint.unmade,
          Function.update_of_ne hsame, hsame] using hkept
  · intro other hother
    exact h.mentioned other (by rw [hpoint]; exact hother)
  · intro other t ht
    by_cases hsame : other = helper
    · subst hsame
      have hnext : app.next = t := by simpa [BartenderApp.goTo, BartenderApp.makeThread] using ht
      subst hnext
      simp [BartenderApp.goTo, BartenderApp.makeThread]
    · have hold : app.current other = some t := by
        simpa [BartenderApp.goTo, BartenderApp.makeThread, Function.update_of_ne hsame] using ht
      obtain ⟨hlt, howner⟩ := h.current other t hold
      simp only [BartenderApp.goTo, BartenderApp.makeThread,
        Function.update_of_ne (Nat.ne_of_lt hlt)]
      exact ⟨Nat.lt_succ_of_lt hlt, howner⟩
  · intro t ht
    by_cases hnew : t = app.next
    · subst hnew
      simp [BartenderApp.goTo, BartenderApp.makeThread] at ht
    · simp only [BartenderApp.goTo, BartenderApp.makeThread, Function.update_of_ne hnew] at ht ⊢
      obtain ⟨hstarts, howner, hcurrent⟩ := h.alive t ht
      have hother : (app.threads t).helper ≠ helper := by
        rintro rfl
        simp [hdead t hcurrent] at ht
      exact ⟨hstarts, howner, by rw [Function.update_of_ne hother, hcurrent]⟩
  · intro t
    by_cases hnew : t = app.next
    · subst hnew
      simp [BartenderApp.goTo, BartenderApp.makeThread]
    · simp only [BartenderApp.goTo, BartenderApp.makeThread, Function.update_of_ne hnew]
      exact h.starts t
  · intro _ _ _ hother
    cases hother
  · intro other rest' b' hother
    cases hother
    exact ⟨app.next, by simp [BartenderApp.goTo, BartenderApp.makeThread]⟩
  · exact fun other hh hnot => absurd hh hnot
  · exact h.error

theorem Supervised.launch (h : Supervised helpers app) {helper : Helper} {rest : List Helper}
    {b : Bool} (hpoint : app.point = .launching helper rest b) (succeeds : Bool) {point : AppPoint}
    (hunmade : point.unmade helpers = app.point.unmade helpers)
    (hmentioned : ∀ h ∈ point.mentioned, h ∈ helpers)
    (hpoints : ∀ h rest b, point ≠ .starting h rest b ∧ point ≠ .launching h rest b)
    (hunasked : point.unasked helpers = helpers) :
    Supervised helpers (app.launch helper succeeds point) := by
  obtain ⟨t, hcurrent, hstarts⟩ := h.launching helper rest b hpoint
  have hhelper : helper ∈ helpers := h.mentioned helper (by simp [hpoint, AppPoint.mentioned])
  have howner := (h.current helper t hcurrent).2
  unfold BartenderApp.launch
  simp only [hcurrent]
  split_ifs with hlaunches
  · constructor
    · rw [hunmade]
      exact h.nodup
    · rw [hunmade]
      exact h.unmade
    · exact hmentioned
    · intro other t' ht'
      obtain ⟨hlt, hother⟩ := h.current other t' ht'
      by_cases hsame : t' = t
      · subst hsame
        simpa using ⟨hlt, hother⟩
      · simpa [Function.update_of_ne hsame] using ⟨hlt, hother⟩
    · intro t' ht'
      by_cases hsame : t' = t
      · subst hsame
        simp [hstarts, howner, hhelper, hcurrent]
      · simp only [Function.update_of_ne hsame] at ht' ⊢
        exact h.alive t' ht'
    · intro t'
      by_cases hsame : t' = t
      · subst hsame
        simp [hstarts]
      · simp only [Function.update_of_ne hsame]
        exact h.starts t'
    · exact fun other rest b hother => absurd hother (hpoints other rest b).1
    · exact fun other rest b hother => absurd hother (hpoints other rest b).2
    · rw [hunasked]
      exact fun other hh hnot => absurd hh hnot
    · exact h.error
  · exact h.crash

/-- The flag of a thread is set; nothing else about it changes. -/
theorem Supervised.flag (h : Supervised helpers app) (t : ℕ) :
    Supervised helpers { app with
      threads := Function.update app.threads t { app.threads t with stopped := true } } := by
  have hsame : ∀ t', (Function.update app.threads t { app.threads t with stopped := true } t') =
      { app.threads t' with stopped := (app.threads t').stopped || decide (t' = t) } := by
    intro t'
    by_cases ht : t' = t
    · subst ht
      simp
    · simp [ht]
  constructor
  · exact h.nodup
  · exact h.unmade
  · exact h.mentioned
  · simpa only [hsame] using h.current
  · simpa only [hsame] using h.alive
  · simpa only [hsame] using h.starts
  · simpa only [hsame] using h.starting
  · simpa only [hsame] using h.launching
  · intro helper hh hnot t' ht' halive
    simp only [hsame] at halive ⊢
    simp [h.asked helper hh hnot t' ht' halive]
  · exact h.error

theorem Supervised.requestStop (h : Supervised helpers app) {helper : Helper}
    {rest : List Helper} (hpoint : app.point = .requestingStop helper rest) (succeeds : Bool) :
    Supervised helpers (app.requestStop helper succeeds (.joining helper rest)) := by
  have hhelper : helper ∈ helpers := h.mentioned helper (by simp [hpoint, AppPoint.mentioned])
  obtain ⟨t, hcurrent⟩ := h.exists_current (by rw [hpoint]; rfl) hhelper
  unfold BartenderApp.requestStop
  simp only [hcurrent]
  refine (h.flag t).proceed succeeds ((h.flag t).goTo ?_ ?_ (by simp) (by simp) ?_)
  · rw [hpoint]
    rfl
  · intro other hother
    exact h.mentioned other (by rw [hpoint]; exact hother)
  · intro other _ hnot
    by_cases hsame : other = helper
    · subst hsame
      refine .inr fun t' ht' _ => ?_
      have ht : t = t' := Option.some.inj (hcurrent.symm.trans ht')
      subst ht
      simp
    · refine .inl ?_
      rw [hpoint]
      exact fun hmem => (List.mem_cons.mp hmem).elim hsame hnot

theorem Supervised.goOn (h : Supervised helpers app) {point : AppPoint}
    (hunmade : point.unmade helpers = app.point.unmade helpers)
    (hmentioned : ∀ h ∈ point.mentioned, h ∈ helpers)
    (hpoints : ∀ h rest b, point ≠ .starting h rest b ∧ point ≠ .launching h rest b)
    (hunasked : point.unasked helpers = helpers) : Supervised helpers (app.goTo point) := by
  refine h.goTo hunmade hmentioned
    (fun helper rest b hpoint => absurd hpoint (hpoints helper rest b).1)
    (fun helper rest b => (hpoints helper rest b).2) fun helper hh hnot => ?_
  rw [hunasked] at hnot
  exact absurd hh hnot

theorem Supervised.whetherAlive (h : Supervised helpers app) {helper : Helper}
    (hmade : app.point.unmade helpers = []) (hhelper : helper ∈ helpers) {alive dead : AppPoint}
    (halive : Supervised helpers (app.goTo alive))
    (hdead : (∀ t, app.current helper = some t → (app.threads t).alive = false) →
      Supervised helpers (app.goTo dead)) :
    Supervised helpers (app.whetherAlive helper alive dead) := by
  obtain ⟨t, hcurrent⟩ := h.exists_current hmade hhelper
  unfold BartenderApp.whetherAlive
  simp only [hcurrent]
  split_ifs with hthread
  · exact halive
  · refine hdead fun t' ht' => ?_
    rw [hcurrent, Option.some.injEq] at ht'
    subst ht'
    simpa using hthread

theorem Supervised.run (h : Supervised helpers app) (succeeds : Bool) :
    Supervised helpers (app.run helpers succeeds) := by
  have hmentioned := h.mentioned
  unfold BartenderApp.run
  cases hpoint : app.point with
  | verifyVirtualHost =>
    exact h.proceed succeeds
      (h.goOn (by rw [hpoint]; rfl) (by simp [AppPoint.mentioned]) (by simp) rfl)
  | ensureAdminExpiry =>
    exact h.proceed succeeds
      (h.goOn (by rw [hpoint]; rfl) (by simp [AppPoint.mentioned]) (by simp) rfl)
  | declareExchange =>
    exact h.proceed succeeds (h.goOn (by rw [hpoint]; rfl) (fun _ hh => hh) (by simp) rfl)
  | startHelpers rest =>
    rw [hpoint] at hmentioned
    cases rest with
    | nil => exact h.goOn (by rw [hpoint]; rfl) (by simp [AppPoint.mentioned]) (by simp) rfl
    | cons helper rest =>
      refine h.goTo (by rw [hpoint]; rfl) hmentioned ?_ (by simp) fun _ hh hnot => absurd hh hnot
      intro other rest' b hother t ht
      cases hother
      have hnone := (h.unmade helper (hmentioned helper List.mem_cons_self)).mpr
        (by rw [hpoint]; exact List.mem_cons_self)
      rw [hnone] at ht
      cases ht
  | starting helper rest supervising =>
    cases succeeds with
    | true => exact h.makeThread hpoint
    | false => exact h.crash
  | launching helper rest supervising =>
    have hrest : ∀ other ∈ rest, other ∈ helpers := fun other hother =>
      hmentioned other (by rw [hpoint]; exact List.mem_cons_of_mem _ hother)
    cases supervising with
    | true => exact h.launch hpoint succeeds (by rw [hpoint]; rfl) hrest (by simp) rfl
    | false => exact h.launch hpoint succeeds (by rw [hpoint]; rfl) hrest (by simp) rfl
  | loadPlugins =>
    exact h.proceed succeeds
      (h.goOn (by rw [hpoint]; rfl) (by simp [AppPoint.mentioned]) (by simp) rfl)
  | startAllPlugins =>
    exact h.proceed succeeds
      (h.goOn (by rw [hpoint]; rfl) (by simp [AppPoint.mentioned]) (by simp) rfl)
  | publishStarted =>
    exact h.proceed succeeds
      (h.goOn (by rw [hpoint]; rfl) (by simp [AppPoint.mentioned]) (by simp) rfl)
  | testStopped =>
    dsimp only
    split_ifs
    · exact h.goOn (by rw [hpoint]; rfl) (by simp [AppPoint.mentioned]) (by simp) rfl
    · exact h.goOn (by rw [hpoint]; rfl) (fun _ hh => hh) (by simp) rfl
  | checkHelpers rest =>
    rw [hpoint] at hmentioned
    cases rest with
    | nil => exact h.goOn (by rw [hpoint]; rfl) (by simp [AppPoint.mentioned]) (by simp) rfl
    | cons helper rest =>
      have hrest : ∀ other ∈ rest, other ∈ helpers := fun other hother =>
        hmentioned other (List.mem_cons_of_mem _ hother)
      refine h.whetherAlive (by rw [hpoint]; rfl) (hmentioned helper List.mem_cons_self)
        (h.goOn (by rw [hpoint]; rfl) hrest (by simp) rfl) fun hdead => ?_
      refine h.goTo (by rw [hpoint]; rfl) hmentioned ?_ (by simp) fun _ hh hnot => absurd hh hnot
      intro other rest' b hother
      cases hother
      exact hdead
  | sleeping => exact h.goOn (by rw [hpoint]; rfl) (by simp [AppPoint.mentioned]) (by simp) rfl
  | stopAllPlugins =>
    refine h.goTo (by rw [hpoint]; rfl) (fun _ hh => List.mem_reverse.mp hh) (by simp) (by simp)
      fun _ hh hnot => absurd (List.mem_reverse.mpr hh) hnot
  | stopHelpers rest =>
    rw [hpoint] at hmentioned
    cases rest with
    | nil =>
      exact h.goTo (by rw [hpoint]; rfl) (by simp [AppPoint.mentioned]) (by simp) (by simp)
        fun _ _ hnot => .inl (by rw [hpoint]; exact hnot)
    | cons helper rest =>
      refine h.whetherAlive (by rw [hpoint]; rfl) (hmentioned helper List.mem_cons_self) ?_ ?_
      · exact h.goTo (by rw [hpoint]; rfl) hmentioned (by simp) (by simp)
          fun _ _ hnot => .inl (by rw [hpoint]; exact hnot)
      · intro hdead
        refine h.goTo (by rw [hpoint]; rfl)
          (fun other hother => hmentioned other (List.mem_cons_of_mem _ hother)) (by simp) (by simp)
          fun other _ hnot => ?_
        by_cases hsame : other = helper
        · subst hsame
          exact .inr fun t ht halive => by simp [hdead t ht] at halive
        · refine .inl ?_
          rw [hpoint]
          exact fun hmem => (List.mem_cons.mp hmem).elim hsame hnot
  | requestingStop helper rest => exact h.requestStop hpoint succeeds
  | joining helper rest =>
    exact h.goTo (by rw [hpoint]; rfl)
      (fun other hother => hmentioned other (by rw [hpoint]; exact List.mem_cons_of_mem _ hother))
      (by simp) (by simp) fun _ _ hnot => .inl (by rw [hpoint]; exact hnot)
  | publishStopped =>
    exact h.proceed succeeds (h.goTo (by rw [hpoint]; rfl) (by simp [AppPoint.mentioned]) (by simp)
      (by simp) fun _ _ hnot => .inl (by rw [hpoint]; exact hnot))
  | returned => exact h

theorem Supervised.endThread (h : Supervised helpers app) (t : ℕ) :
    Supervised helpers (app.endThread t) := by
  have hsame : ∀ t', (app.endThread t).threads t' =
      { app.threads t' with alive := (app.threads t').alive && !decide (t' = t) } := by
    intro t'
    by_cases ht : t' = t
    · subst ht
      simp [BartenderApp.endThread]
    · simp [BartenderApp.endThread, ht]
  constructor
  · exact h.nodup
  · exact h.unmade
  · exact h.mentioned
  · intro helper t' ht'
    rw [hsame]
    exact h.current helper t' ht'
  · intro t' ht'
    simp only [hsame, Bool.and_eq_true] at ht' ⊢
    exact h.alive t' ht'.1
  · simpa only [hsame] using h.starts
  · intro helper rest b hpoint t' ht'
    simp [hsame, h.starting helper rest b hpoint t' ht']
  · intro helper rest b hpoint
    obtain ⟨t', ht', hstarts⟩ := h.launching helper rest b hpoint
    exact ⟨t', ht', by rw [hsame]; exact hstarts⟩
  · intro helper hh hnot t' ht' halive
    simp only [hsame, Bool.and_eq_true] at halive ⊢
    exact h.asked helper hh hnot t' ht' halive.1
  · exact h.error

theorem Supervised.apply (h : Supervised helpers app) (event : AppEvent) :
    Supervised helpers (app.apply helpers event) := by
  cases event with
  | app succeeds =>
    simp only [BartenderApp.apply, BartenderApp.step]
    split_ifs
    · exact h.run succeeds
    · exact h
  | threadEnds t => exact h.endThread t
  | stop => exact { h with }

theorem helperThreads_nodup (pruning : Bool) : (helperThreads pruning).Nodup := by
  cases pruning <;> decide

theorem throughout_supervised (pruning : Bool) (events : List AppEvent) :
    Runs.Throughout (apply (helperThreads pruning)) (Supervised (helperThreads pruning)) events
      initial :=
  Runs.throughout_of_step (fun event _ h => h.apply event)
    (supervised_initial (helperThreads_nodup pruning)) events

/-- Whenever helper threads end and a stop is requested: no two threads of a
helper are alive at the same time, no thread is started twice, and `helper.thread`
is never `None` where it is used. -/
theorem helpers_exclusive (pruning : Bool) (events : List AppEvent) :
    Runs.Throughout (apply (helperThreads pruning)) (fun app =>
      (∀ t t', (app.threads t).alive = true → (app.threads t').alive = true →
        (app.threads t).helper = (app.threads t').helper → t = t') ∧
      (∀ t, (app.threads t).starts ≤ 1) ∧ app.error ≠ some .attributeError) events initial := by
  refine (throughout_supervised pruning events).imp fun app h => ⟨?_, h.starts, h.error⟩
  intro t t' ht ht' hsame
  have hcurrent := (h.alive t ht).2.2
  rw [hsame, (h.alive t' ht').2.2] at hcurrent
  exact (Option.some.inj hcurrent).symm

/-- When `run` has returned, every helper thread that is still alive was asked to
stop, also those that were started in the place of dead ones. -/
theorem returned_asked (pruning : Bool) (events : List AppEvent) :
    Runs.Throughout (apply (helperThreads pruning)) (fun app =>
      app.point = .returned → ∀ t, (app.threads t).alive = true →
        (app.threads t).stopped = true) events initial := by
  refine (throughout_supervised pruning events).imp fun app h hreturned t ht => ?_
  obtain ⟨-, hhelper, hcurrent⟩ := h.alive t ht
  exact h.asked _ hhelper (by simp [hreturned, AppPoint.unasked]) t hcurrent ht

end BartenderApp

/-- The helper threads that the pass has yet to look at or replace. -/
def AppPoint.unchecked (helpers : List Helper) : AppPoint → List Helper
  | checkHelpers rest => rest
  | starting helper rest true => helper :: rest
  | launching helper rest true => helper :: rest
  | sleeping => []
  | _ => helpers

/-- Those among them that still have the thread they had when the pass began. -/
def AppPoint.unvisited : AppPoint → List Helper
  | checkHelpers rest => rest
  | starting helper rest true => helper :: rest
  | launching _ rest true => rest
  | _ => []

/-- The points of a pass, and the sleep after it. -/
def AppPoint.InPass : AppPoint → Prop
  | checkHelpers _ => True
  | starting _ _ true => True
  | launching _ _ true => True
  | sleeping => True
  | _ => False

namespace BartenderApp

/-- The helper's thread was dead when the pass began, and was replaced. -/
def Renewed (start app : BartenderApp) (helper : Helper) : Prop :=
  ∀ t, start.current helper = some t → (start.threads t).alive = false →
    ∃ t', app.current helper = some t' ∧ start.next ≤ t' ∧ (app.threads t').starts = 1

structure Passing (helpers : List Helper) (start app : BartenderApp) : Prop where
  inPass : app.point.InPass
  next : start.next ≤ app.next
  dead : ∀ t < start.next, (start.threads t).alive = false → (app.threads t).alive = false
  nodup : (app.point.unchecked helpers).Nodup
  unvisited : ∀ h ∈ app.point.unvisited, app.current h = start.current h
  launching : ∀ h rest b, app.point = .launching h rest b →
    ∃ t, app.current h = some t ∧ start.next ≤ t
  renewed : ∀ h ∈ helpers, h ∉ app.point.unchecked helpers → Renewed start app h

variable {start : BartenderApp}

theorem Passing.crash (h : Passing helpers start app) (error : AppError) :
    Passing helpers start (app.crash error) := { h with }

theorem Passing.goTo (h : Passing helpers start app) {point : AppPoint} (hin : point.InPass)
    (hnodup : (point.unchecked helpers).Nodup)
    (hunvisited : ∀ helper ∈ point.unvisited, helper ∈ app.point.unvisited)
    (hlaunching : ∀ helper rest b, point ≠ .launching helper rest b)
    (hrenewed : ∀ helper ∈ helpers, helper ∉ point.unchecked helpers →
      helper ∉ app.point.unchecked helpers ∨ Renewed start app helper) :
    Passing helpers start (app.goTo point) where
  inPass := hin
  next := h.next
  dead := h.dead
  nodup := hnodup
  unvisited helper hh := h.unvisited helper (hunvisited helper hh)
  launching helper rest b hpoint := absurd hpoint (hlaunching helper rest b)
  renewed helper hh hnot := (hrenewed helper hh hnot).elim (h.renewed helper hh) id

theorem Passing.check (h : Passing helpers start app) (hstart : Supervised helpers start)
    (happ : Supervised helpers app) {rest : List Helper} (hpoint : app.point = .checkHelpers rest)
    (succeeds : Bool) : Passing helpers start (app.run helpers succeeds) := by
  have hnodup := h.nodup
  rw [hpoint] at hnodup
  unfold BartenderApp.run
  rw [hpoint]
  cases rest with
  | nil =>
    exact h.goTo trivial List.nodup_nil (by simp [AppPoint.unvisited]) (by simp)
      fun _ _ hnot => .inl (by rw [hpoint]; exact hnot)
  | cons helper rest =>
    have hhelper : helper ∈ helpers := happ.mentioned helper (by simp [hpoint, AppPoint.mentioned])
    obtain ⟨t, hcurrent⟩ := happ.exists_current (by rw [hpoint]; rfl) hhelper
    have hsame := h.unvisited helper (by simp [hpoint, AppPoint.unvisited])
    unfold BartenderApp.whetherAlive
    simp only [hcurrent]
    split_ifs with halive
    · refine h.goTo trivial (List.nodup_cons.mp hnodup).2 ?_ (by simp) fun other _ hnot => ?_
      · intro other hother
        rw [hpoint]
        exact List.mem_cons_of_mem _ hother
      · by_cases heq : other = helper
        · subst heq
          refine .inr fun t' ht' hdead => ?_
          rw [← hsame, hcurrent, Option.some.injEq] at ht'
          subst ht'
          have hlt := (hstart.current other t (by rw [← hsame, hcurrent])).1
          simp [h.dead t hlt hdead] at halive
        · refine .inl ?_
          rw [hpoint]
          exact fun hmem => (List.mem_cons.mp hmem).elim heq hnot
    · refine h.goTo trivial hnodup ?_ (by simp) fun other _ hnot => .inl ?_
      · intro other hother
        rw [hpoint]
        exact hother
      · rw [hpoint]
        exact hnot

theorem Passing.makeThread (h : Passing helpers start app) (happ : Supervised helpers app)
    {helper : Helper} {rest : List Helper} (hpoint : app.point = .starting helper rest true) :
    Passing helpers start ((app.makeThread helper).goTo (.launching helper rest true)) := by
  have hnodup := h.nodup
  rw [hpoint] at hnodup
  constructor
  · trivial
  · exact h.next.trans (Nat.le_succ _)
  · intro t hlt hdead
    have hne : t ≠ app.next := Nat.ne_of_lt (hlt.trans_le h.next)
    simp only [BartenderApp.goTo, BartenderApp.makeThread, Function.update_of_ne hne]
    exact h.dead t hlt hdead
  · exact hnodup
  · intro other hother
    have hne : other ≠ helper := by
      rintro rfl
      exact (List.nodup_cons.mp hnodup).1 hother
    simp only [BartenderApp.goTo, BartenderApp.makeThread, Function.update_of_ne hne]
    exact h.unvisited other (by rw [hpoint]; exact List.mem_cons_of_mem _ hother)
  · intro other rest' b hother
    cases hother
    exact ⟨app.next, by simp [BartenderApp.goTo, BartenderApp.makeThread], h.next⟩
  · intro other hother hnot t ht hdead
    obtain ⟨t', hcurrent, hnew, hstarts⟩ :=
      h.renewed other hother (by rw [hpoint]; exact hnot) t ht hdead
    have hne : other ≠ helper := by
      rintro rfl
      exact hnot List.mem_cons_self
    have hlt := (happ.current other t' hcurrent).1
    refine ⟨t', ?_, hnew, ?_⟩
    · simpa [BartenderApp.goTo, BartenderApp.makeThread, Function.update_of_ne hne] using hcurrent
    · simpa [BartenderApp.goTo, BartenderApp.makeThread,
        Function.update_of_ne (Nat.ne_of_lt hlt)] using hstarts

theorem Passing.launch (h : Passing helpers start app) (happ : Supervised helpers app)
    {helper : Helper} {rest : List Helper} (hpoint : app.point = .launching helper rest true)
    (succeeds : Bool) :
    Passing helpers start (app.launch helper succeeds (.checkHelpers rest)) := by
  obtain ⟨t, hcurrent, hstarts⟩ := happ.launching helper rest true hpoint
  obtain ⟨t₂, hcurrent₂, hnew⟩ := h.launching helper rest true hpoint
  rw [hcurrent, Option.some.injEq] at hcurrent₂
  subst hcurrent₂
  have hnodup := h.nodup
  rw [hpoint] at hnodup
  unfold BartenderApp.launch
  simp only [hcurrent]
  split_ifs with hlaunches
  · constructor
    · trivial
    · exact h.next
    · intro t' hlt hdead
      have hne : t' ≠ t := Nat.ne_of_lt (hlt.trans_le hnew)
      simp only [Function.update_of_ne hne]
      exact h.dead t' hlt hdead
    · exact (List.nodup_cons.mp hnodup).2
    · intro other hother
      exact h.unvisited other (by rw [hpoint]; exact hother)
    · intro _ _ _ hother
      cases hother
    · intro other hother hnot t' ht' hdead
      by_cases heq : other = helper
      · subst heq
        exact ⟨t, hcurrent, hnew, by simp [hstarts]⟩
      · have hmem : other ∉ app.point.unchecked helpers := by
          rw [hpoint]
          exact fun hmem => (List.mem_cons.mp hmem).elim heq hnot
        obtain ⟨t₂, hcurrent₂, hnew₂, hstarts₂⟩ := h.renewed other hother hmem t' ht' hdead
        have hne : t₂ ≠ t := by
          rintro rfl
          rw [hstarts] at hstarts₂
          cases hstarts₂
        exact ⟨t₂, hcurrent₂, hnew₂, by simpa [Function.update_of_ne hne] using hstarts₂⟩
  · exact h.crash _

theorem Passing.endThread (h : Passing helpers start app) (t : ℕ) :
    Passing helpers start (app.endThread t) where
  inPass := h.inPass
  next := h.next
  dead t' hlt hdead := by
    by_cases ht : t' = t
    · simp [BartenderApp.endThread, ht]
    · simpa [BartenderApp.endThread, ht] using h.dead t' hlt hdead
  nodup := h.nodup
  unvisited := h.unvisited
  launching := h.launching
  renewed helper hh hnot t' ht' hdead := by
    obtain ⟨t₂, hcurrent, hnew, hstarts⟩ := h.renewed helper hh hnot t' ht' hdead
    refine ⟨t₂, hcurrent, hnew, ?_⟩
    by_cases ht : t₂ = t
    · subst ht
      simpa [BartenderApp.endThread] using hstarts
    · simpa [BartenderApp.endThread, ht] using hstarts

theorem Passing.apply (h : Passing helpers start app) (hstart : Supervised helpers start)
    (happ : Supervised helpers app) {event : AppEvent}
    (hawake : (∃ succeeds, event = .app succeeds) → app.point ≠ .sleeping) :
    Passing helpers start (app.apply helpers event) := by
  cases event with
  | threadEnds t => exact h.endThread t
  | stop => exact { h with }
  | app succeeds =>
    have hpass := h.inPass
    simp only [BartenderApp.apply, BartenderApp.step]
    split_ifs
    · cases hpoint : app.point with
      | checkHelpers rest => exact h.check hstart happ hpoint succeeds
      | starting helper rest supervising =>
        rw [hpoint] at hpass
        cases supervising with
        | false => exact hpass.elim
        | true =>
          unfold BartenderApp.run
          rw [hpoint]
          cases succeeds with
          | true => exact h.makeThread happ hpoint
          | false => exact h.crash _
      | launching helper rest supervising =>
        rw [hpoint] at hpass
        cases supervising with
        | false => exact hpass.elim
        | true =>
          unfold BartenderApp.run
          rw [hpoint]
          exact h.launch happ hpoint succeeds
      | sleeping => exact absurd hpoint (hawake ⟨succeeds, rfl⟩)
      | _ =>
        rw [hpoint] at hpass
        exact hpass.elim
    · exact h

theorem passing_begin (hnodup : helpers.Nodup) (hpoint : start.point = .checkHelpers helpers) :
    Passing helpers start start where
  inPass := by rw [hpoint]; trivial
  next := le_rfl
  dead _ _ h := h
  nodup := by rw [hpoint]; exact hnodup
  unvisited _ _ := rfl
  launching _ _ _ h := by simp [hpoint] at h
  renewed h hh hnot := absurd hh (by rw [hpoint] at hnot; exact hnot)

/-- A pass begins somewhere in a run, and the application falls asleep after it:
every helper whose thread was dead at the beginning has got a new one, on which
`start()` was called, whatever else ended in the meantime. -/
theorem pass_renews (pruning : Bool) {before events : List AppEvent} {start : BartenderApp}
    (hstart : Runs.final (apply (helperThreads pruning)) before initial = start)
    (hbegin : start.point = .checkHelpers (helperThreads pruning))
    (hawake : Runs.Meets (apply (helperThreads pruning))
      (fun event app => (∃ succeeds, event = .app succeeds) → app.point ≠ .sleeping) events start)
    (hend : (Runs.final (apply (helperThreads pruning)) events start).point = .sleeping)
    {helper : Helper} (hhelper : helper ∈ helperThreads pruning) :
    Renewed start (Runs.final (apply (helperThreads pruning)) events start) helper := by
  have hsupervised : Supervised (helperThreads pruning) start :=
    hstart ▸ (throughout_supervised pruning before).final
  have hpasses := Runs.throughout_of_meets
    (I := fun app => Supervised (helperThreads pruning) app ∧
      Passing (helperThreads pruning) start app)
    (fun event app h hawake => ⟨h.1.apply event, h.2.apply hsupervised h.1 hawake⟩)
    ⟨hsupervised, passing_begin (helperThreads_nodup pruning) hbegin⟩ hawake
  refine hpasses.final.2.renewed helper hhelper ?_
  rw [hend]
  exact List.not_mem_nil

/-- The thrift server's thread ends while the application loads the plugins. -/
theorem pass_renews_server :
    let helpers := helperThreads false
    let start := Runs.final (apply helpers)
      (List.replicate 14 (.app true) ++ [.threadEnds 0] ++ List.replicate 3 (.app true)) initial
    Renewed start (Runs.final (apply helpers) (List.replicate 6 (.app true)) start)
      .thriftServer :=
  pass_renews false rfl (by decide) (by decide) (by decide) (by decide)

end BartenderApp
end Bartender
