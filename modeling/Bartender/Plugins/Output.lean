import Bartender.Library.Runs
import Bartender.Plugins.Logging
import Bartender.Python.TextStreams
import Mathlib.Data.List.DropRight
import Mathlib.Data.List.Infix
import Mathlib.Order.Bounds.Basic
import Mathlib.Tactic

/-!
# The output of a plugin

The thread of a `LocalPluginRunner` starts the subprocess and two threads that
read its pipes line by line into the plugin's log. It waits for the subprocess
to end and then for the two readers. The subprocess and what it started write to
the pipes at any moment, as long as one of them holds the write end. A reader that
comes to what it cannot decode raises, and reads no more.
-/

namespace Bartender

/-- `getLogLevels()`, with the attributes of `logging` that have these names. -/
def logLevels : List (String × ℤ) :=
  [("CRITICAL", 50), ("FATAL", 50), ("ERROR", 40), ("WARN", 30), ("WARNING", 30), ("INFO", 20),
    ("DEBUG", 10), ("NOTSET", 0)]

def namedLevels (line : List Char) : List ℤ :=
  (logLevels.filter fun level => level.1.toList <:+: line).map Prod.snd

/-- The level at which `_check_io` logs a line. -/
def levelToLog (defaultLevel : ℤ) (line : List Char) : ℤ :=
  match logLevels.find? fun level => level.1.toList <:+: line with
  | some level => level.2
  | none => defaultLevel

theorem levelToLog_eq (defaultLevel : ℤ) (line : List Char) :
    levelToLog defaultLevel line = (namedLevels line).head?.getD defaultLevel := by
  unfold levelToLog namedLevels
  rw [List.head?_map, List.head?_filter]
  cases logLevels.find? fun level => level.1.toList <:+: line <;> rfl

theorem namedLevels_sorted (line : List Char) : (namedLevels line).Pairwise (· ≥ ·) := by
  refine List.Pairwise.map Prod.snd (fun _ _ h => h) (List.Pairwise.filter _ ?_)
  decide

theorem levelToLog_isGreatest (defaultLevel : ℤ) {line : List Char} (h : namedLevels line ≠ []) :
    IsGreatest {level | level ∈ namedLevels line} (levelToLog defaultLevel line) := by
  obtain ⟨level, rest, hlevels⟩ := List.exists_cons_of_ne_nil h
  have hsorted := namedLevels_sorted line
  rw [levelToLog_eq, hlevels]
  rw [hlevels, List.pairwise_cons] at hsorted
  refine ⟨List.mem_cons_self, fun other hother => ?_⟩
  rcases List.mem_cons.mp hother with rfl | hrest
  · exact le_rfl
  · exact hsorted.1 other hrest

/-- `str.isspace` of one character. -/
def isSpace (c : Char) : Bool :=
  c.toNat ∈ [9, 10, 11, 12, 13, 28, 29, 30, 31, 32, 133, 160, 5760, 8232, 8233, 8239, 8287,
    12288] ||
    8192 ≤ c.toNat && c.toNat ≤ 8202

/-- `str.rstrip`. -/
def rstrip (line : List Char) : List Char := line.rdropWhile isSpace

/-- The logger is enabled for the level and has a handler that is: nothing is
logged at `NOTSET`, since `logging` is disabled up to that level. -/
def Logger.Emits (logger : Logger) (parent level : ℤ) : Prop :=
  0 < level ∧ logger.effectiveLevel parent ≤ level ∧
    ∃ handler ∈ logger.handlers, handler.level ≤ level

instance (logger : Logger) (parent level : ℤ) : Decidable (logger.Emits parent level) :=
  inferInstanceAs (Decidable (_ ∧ _ ∧ _))

theorem emits_configured (event : LoggerEvent) (parent level : ℤ) :
    event.configured.Emits parent level ↔
      max 1 (event.configured.effectiveLevel parent) ≤ level := by
  rw [max_le_iff]
  constructor
  · exact fun h => ⟨h.1, h.2.1⟩
  · rintro ⟨hpos, hle⟩
    have hhandler : event.level ≤ level := by
      by_cases hlevel : event.level = 0
      · rw [hlevel]
        exact Int.le_of_lt hpos
      · have heffective : event.configured.effectiveLevel parent = event.level := if_pos hlevel
        rwa [← heffective]
    exact ⟨hpos, hle, event.handler, List.mem_cons_self, hhandler⟩

/-- The line names a level from the threshold on, or it names none and the level
of its pipe is from there on. -/
def LinePasses (threshold defaultLevel : ℤ) (line : List Char) : Prop :=
  (∃ level ∈ namedLevels line, threshold ≤ level) ∨
    namedLevels line = [] ∧ threshold ≤ defaultLevel

instance (threshold defaultLevel : ℤ) (line : List Char) :
    Decidable (LinePasses threshold defaultLevel line) := inferInstanceAs (Decidable (_ ∨ _ ∧ _))

theorem le_levelToLog_iff (threshold defaultLevel : ℤ) (line : List Char) :
    threshold ≤ levelToLog defaultLevel line ↔ LinePasses threshold defaultLevel line := by
  unfold LinePasses
  by_cases hnone : namedLevels line = []
  · rw [levelToLog_eq, hnone]
    simp
  · have hgreatest := levelToLog_isGreatest defaultLevel hnone
    rw [or_iff_left fun h => hnone h.1]
    constructor
    · exact fun h => ⟨_, hgreatest.1, h⟩
    · rintro ⟨level, hlevel, hle⟩
      exact hle.trans (hgreatest.2 hlevel)

inductive OutputPipe
  | stdout
  | stderr
  deriving DecidableEq, Repr

instance : Fintype OutputPipe := ⟨{.stdout, .stderr}, fun pipe => by cases pipe <;> decide⟩

def OutputPipe.defaultLevel : OutputPipe → ℤ
  | stdout => logInfo
  | stderr => 40

inductive RunMessage
  | startingSubprocess
  | notQuiteDead (pipe : OutputPipe)
  | finalReads
  | unexpectedlyShutdown
  | officiallyStopped
  | died
  | exception
  deriving DecidableEq, Repr

/-- A call of a logger: the unformatted one for a line of output, else the
plugin's own. -/
inductive LogCall
  | output (pipe : OutputPipe) (level : ℤ) (line : List Char)
  | runner (level : ℤ) (message : RunMessage)
  deriving DecidableEq

def LogCall.from? (pipe : OutputPipe) : LogCall → Option (ℤ × List Char)
  | output source level line => if source = pipe then some (level, line) else none
  | runner _ _ => none

def strippedLine (rawLine : List (Option Char)) : List Char := rstrip rawLine.reduceOption

/-- What `_check_io` makes of a line as it was read. -/
def loggedLine (pipe : OutputPipe) (rawLine : List (Option Char)) : ℤ × List Char :=
  (levelToLog pipe.defaultLevel (strippedLine rawLine), strippedLine rawLine)

/-- Where a reader stands, with the depth of its recursion: before
`stream.readline()`, before it logs a line, after the loop. It dies of the
recursion, or of what it cannot decode. -/
inductive ReaderPoint
  | notStarted
  | reading (depth : ℕ)
  | logging (depth : ℕ) (rawLine : List (Option Char))
  | polling (depth : ℕ)
  | returned
  | died
  | undecoded
  deriving DecidableEq

/-- The thread of the reader has ended. -/
def ReaderPoint.IsOver : ReaderPoint → Prop
  | returned | died | undecoded => True
  | _ => False

instance : (point : ReaderPoint) → Decidable point.IsOver
  | .returned | .died | .undecoded => .isTrue trivial
  | .notStarted | .reading _ | .logging _ _ | .polling _ => .isFalse id

/-- The next thing that `run` does. -/
inductive RunPoint
  | announcing
  | spawning
  | starting (pipe : OutputPipe)
  | spinning
  | announcingReads
  | joining (pipe : OutputPipe)
  | testing
  | complaining
  | finishing
  | announcingDeath
  | announcingException
  | ended (officially : Bool)
  deriving DecidableEq

structure PluginOutput where
  point : RunPoint
  /-- `self.process.poll()` is `None`. -/
  alive : Bool
  /-- The stop flag of the runner. -/
  stopped : Bool
  /-- The stop flag when the subprocess exited. -/
  exitedStopped : Bool
  pipes : OutputPipe → TextPipe
  readers : OutputPipe → ReaderPoint
  calls : List LogCall

/-- A step of `run`, which may find that something raises, a step of a reader, which
may take more than a line to decode, or what happens outside the three threads. -/
inductive OutputEvent
  | run (raises : Bool)
  | read (pipe : OutputPipe) (raises : Bool)
  | write (pipe : OutputPipe) (text : List (Option Char))
  | close (pipe : OutputPipe)
  | exit
  | stop

namespace PluginOutput

variable (limit : ℕ) (output : PluginOutput)

def goTo (point : RunPoint) : PluginOutput := { output with point := point }

def log (call : LogCall) : PluginOutput := { output with calls := output.calls ++ [call] }

def setReader (pipe : OutputPipe) (point : ReaderPoint) : PluginOutput :=
  { output with readers := Function.update output.readers pipe point }

def setPipe (pipe : OutputPipe) (stream : TextPipe) : PluginOutput :=
  { output with pipes := Function.update output.pipes pipe stream }

/-- `Thread.join` returns. -/
def Joins (pipe : OutputPipe) : Prop := (output.readers pipe).IsOver

instance (pipe : OutputPipe) : Decidable (output.Joins pipe) :=
  inferInstanceAs (Decidable (output.readers pipe).IsOver)

def afterStarting : OutputPipe → RunPoint
  | .stdout => .starting .stderr
  | .stderr => .spinning

def afterJoining : OutputPipe → RunPoint
  | .stdout => .joining .stderr
  | .stderr => .testing

/-- `run`. -/
def run (raises : Bool) : PluginOutput :=
  match output.point with
  | .announcing => (output.log (.runner logInfo .startingSubprocess)).goTo .spawning
  | .spawning =>
    if raises then output.goTo .announcingDeath
    else { output with
      alive := true, pipes := fun _ => TextPipe.fresh true, point := .starting .stdout }
  | .starting pipe =>
    if raises then output.goTo .announcingDeath
    else (output.setReader pipe (.reading 0)).goTo (afterStarting pipe)
  | .spinning => if output.alive then output else output.goTo .announcingReads
  | .announcingReads => (output.log (.runner logInfo .finalReads)).goTo (.joining .stdout)
  | .joining pipe => if output.Joins pipe then output.goTo (afterJoining pipe) else output
  | .testing => output.goTo (if output.stopped then .finishing else .complaining)
  | .complaining => (output.log (.runner 40 .unexpectedlyShutdown)).goTo .finishing
  | .finishing => (output.log (.runner logInfo .officiallyStopped)).goTo (.ended true)
  | .announcingDeath => (output.log (.runner 40 .died)).goTo .announcingException
  | .announcingException => (output.log (.runner 40 .exception)).goTo (.ended false)
  | .ended _ => output

/-- `_check_io`. What is decoded at once may reach beyond the line that is read. It
calls itself while the subprocess is alive, up to the recursion limit. -/
def checkIo (pipe : OutputPipe) (raises : Bool) : PluginOutput :=
  match output.readers pipe with
  | .reading depth =>
    if raises then
      if (output.pipes pipe).Undecodable then output.setReader pipe .undecoded else output
    else
      match (output.pipes pipe).readline with
      | none => output
      | some line =>
        (output.setPipe pipe line.2).setReader pipe
          (if line.1 = [] then .polling depth else .logging depth line.1)
  | .logging depth rawLine =>
    (output.log (.output pipe (loggedLine pipe rawLine).1 (loggedLine pipe rawLine).2)).setReader
      pipe (.reading depth)
  | .polling depth =>
    if output.alive then
      (output.log (.runner 10 (.notQuiteDead pipe))).setReader pipe
        (if depth < limit then .reading (depth + 1) else .died)
    else output.setReader pipe .returned
  | .notStarted | .returned | .died | .undecoded => output

def apply : OutputEvent → PluginOutput → PluginOutput
  | .run raises, output => output.run raises
  | .read pipe raises, output => output.checkIo limit pipe raises
  | .write pipe text, output => output.setPipe pipe ((output.pipes pipe).write text)
  | .close pipe, output => output.setPipe pipe (output.pipes pipe).close
  | .exit, output =>
    if output.alive then { output with alive := false, exitedStopped := output.stopped } else output
  | .stop, output => { output with stopped := true }

/-- When `start` was called. -/
def initial : PluginOutput where
  point := .announcing
  alive := false
  stopped := false
  exitedStopped := false
  pipes := fun _ => TextPipe.fresh false
  readers := fun _ => .notStarted
  calls := []

def logged (pipe : OutputPipe) : List (ℤ × List Char) := output.calls.filterMap (LogCall.from? pipe)

def emitted (logger : Logger) (parent : ℤ) (pipe : OutputPipe) : List (ℤ × List Char) :=
  (output.logged pipe).filter fun record => logger.Emits parent record.1

end PluginOutput

/-- The line that is read and not logged yet. -/
def ReaderPoint.pending (pipe : OutputPipe) : ReaderPoint → List (ℤ × List Char)
  | logging _ rawLine => [loggedLine pipe rawLine]
  | _ => []

def ReaderPoint.AtEnd : ReaderPoint → Prop
  | notStarted | undecoded => False
  | reading depth | logging depth _ => 0 < depth
  | polling _ | returned | died => True

namespace RunPoint

def unspawned : RunPoint → Bool
  | announcing | spawning => true
  | _ => false

def unstarted (pipe : OutputPipe) : RunPoint → Bool
  | announcing | spawning | starting .stdout => true
  | starting .stderr => pipe = .stderr
  | _ => false

def exited : RunPoint → Bool
  | announcingReads | joining _ | testing | complaining | finishing | ended true => true
  | _ => false

def joined (pipe : OutputPipe) : RunPoint → Bool
  | joining .stderr => pipe = .stdout
  | testing | complaining | finishing | ended true => true
  | _ => false

def early : RunPoint → Bool
  | complaining | finishing | ended true => false
  | _ => true

/-- What is not started at the new point was not at the old one, and neither is
the proper end. -/
def Moves (old new : RunPoint) : Prop :=
  old ≠ ended true ∧ new ≠ ended true ∧ (new.unspawned → old.unspawned) ∧
    ∀ pipe, new.unstarted pipe → old.unstarted pipe

instance (old new : RunPoint) : Decidable (Moves old new) :=
  inferInstanceAs (Decidable (_ ∧ _ ∧ _ ∧ _))

def Settles (old new : RunPoint) : Prop :=
  (new.exited → old.exited) ∧ ∀ pipe, new.joined pipe → old.joined pipe

instance (old new : RunPoint) : Decidable (Settles old new) :=
  inferInstanceAs (Decidable (_ ∧ _))

end RunPoint

namespace PluginOutput

variable {limit : ℕ} {output : PluginOutput} {pipe : OutputPipe}

/-- The last message of `run`. -/
def official : LogCall := .runner logInfo .officiallyStopped

/-- Each line taken from a pipe is logged or about to be, and nothing is logged
after the last message of `run`. -/
structure Faithful (output : PluginOutput) : Prop where
  wellRead : ∀ pipe, (output.pipes pipe).WellRead
  logged : ∀ pipe, output.logged pipe ++ (output.readers pipe).pending pipe =
    (output.pipes pipe).taken.map (loggedLine pipe)
  drained : ∀ pipe, (output.readers pipe).AtEnd →
    (output.pipes pipe).isOpen = false ∧ (output.pipes pipe).unread = []
  undecoded : ∀ pipe, output.readers pipe = .undecoded → none ∈ (output.pipes pipe).raw
  unspawned : output.point.unspawned → ∀ pipe, (output.pipes pipe).taken = []
  unstarted : ∀ pipe, output.point.unstarted pipe → output.readers pipe = .notStarted
  exited : output.point.exited → output.alive = false
  joined : ∀ pipe, output.point.joined pipe → output.Joins pipe
  official_iff : official ∈ output.calls ↔ output.point = .ended true
  last : output.point = .ended true → output.calls.getLast? = some official

theorem Faithful.initial : Faithful initial where
  wellRead _ := TextPipe.WellRead.fresh false
  logged _ := rfl
  drained _ h := h.elim
  undecoded _ := ReaderPoint.noConfusion
  unspawned _ _ := rfl
  unstarted _ _ := rfl
  exited h := Bool.noConfusion h
  joined _ h := Bool.noConfusion h
  official_iff := ⟨fun h => absurd h List.not_mem_nil, fun h => by cases h⟩
  last h := by cases h

theorem logged_log (call : LogCall) :
    (output.log call).logged pipe = output.logged pipe ++ (call.from? pipe).toList := by
  change List.filterMap _ (output.calls ++ [call]) = _
  rw [List.filterMap_append]
  cases hcall : call.from? pipe with
  | none => rw [List.filterMap_cons_none hcall]; rfl
  | some entry => rw [List.filterMap_cons_some hcall]; rfl

namespace Faithful

variable (h : Faithful output)

include h

theorem not_ended (hjoins : ¬ output.Joins pipe) : output.point ≠ .ended true := fun hpoint =>
  hjoins (h.joined pipe (by rw [hpoint]; trivial))

theorem goTo {old new : RunPoint} (hpoint : output.point = old) (hmoves : old.Moves new)
    (hexited : new.exited → output.alive = false)
    (hjoined : ∀ pipe, new.joined pipe → output.Joins pipe) : Faithful (output.goTo new) where
  wellRead := h.wellRead
  logged := h.logged
  drained := h.drained
  undecoded := h.undecoded
  unspawned hnew := h.unspawned (by rw [hpoint]; exact hmoves.2.2.1 hnew)
  unstarted pipe hnew := h.unstarted pipe (by rw [hpoint]; exact hmoves.2.2.2 pipe hnew)
  exited := hexited
  joined := hjoined
  official_iff := ⟨fun hmem => absurd (hpoint.symm.trans (h.official_iff.mp hmem)) hmoves.1,
    fun hnew => absurd hnew hmoves.2.1⟩
  last hnew := absurd hnew hmoves.2.1

theorem goOn {old new : RunPoint} (hpoint : output.point = old) (hmoves : old.Moves new)
    (hsettles : old.Settles new) : Faithful (output.goTo new) :=
  h.goTo hpoint hmoves (fun hnew => h.exited (by rw [hpoint]; exact hsettles.1 hnew))
    fun pipe hnew => h.joined pipe (by rw [hpoint]; exact hsettles.2 pipe hnew)

theorem logRunner {level : ℤ} {message : RunMessage} (hold : output.point ≠ .ended true)
    (hmessage : message ≠ .officiallyStopped) :
    Faithful (output.log (.runner level message)) where
  wellRead := h.wellRead
  logged pipe := by
    rw [logged_log]
    exact (congrArg (· ++ _) (List.append_nil _)).trans (h.logged pipe)
  drained := h.drained
  undecoded := h.undecoded
  unspawned := h.unspawned
  unstarted := h.unstarted
  exited := h.exited
  joined := h.joined
  official_iff := by
    have hcall : official ≠ .runner level message := fun heq => by
      cases heq
      exact hmessage rfl
    change official ∈ output.calls ++ [_] ↔ _
    rw [List.mem_append, List.mem_singleton, or_iff_left hcall]
    exact h.official_iff
  last hpoint := absurd hpoint hold

/-- The subprocess or its reader, which is not at the end of its work, does
something to the pipe that takes no line. -/
theorem setPipe {stream : TextPipe} (hread : stream.WellRead)
    (htaken : stream.taken = (output.pipes pipe).taken)
    (hraw : none ∈ (output.pipes pipe).raw → none ∈ stream.raw)
    (hdrained : (output.pipes pipe).isOpen = false ∧ (output.pipes pipe).unread = [] →
      stream.isOpen = false ∧ stream.unread = []) : Faithful (output.setPipe pipe stream) where
  wellRead := (Function.forall_update_iff output.pipes
    fun _ stream => stream.WellRead).mpr
    ⟨hread, fun pipe' _ => h.wellRead pipe'⟩
  logged := (Function.forall_update_iff output.pipes fun pipe' stream => output.logged pipe' ++
    (output.readers pipe').pending pipe' = stream.taken.map (loggedLine pipe')).mpr
    ⟨(h.logged pipe).trans (by rw [htaken]), fun pipe' _ => h.logged pipe'⟩
  drained := (Function.forall_update_iff output.pipes fun pipe' stream =>
    (output.readers pipe').AtEnd → stream.isOpen = false ∧ stream.unread = []).mpr
    ⟨fun hend => hdrained (h.drained pipe hend), fun pipe' _ => h.drained pipe'⟩
  undecoded := (Function.forall_update_iff output.pipes fun pipe' stream =>
    output.readers pipe' = .undecoded → none ∈ stream.raw).mpr
    ⟨fun hreader => hraw (h.undecoded pipe hreader), fun pipe' _ => h.undecoded pipe'⟩
  unspawned hpoint := (Function.forall_update_iff output.pipes
    fun _ stream => stream.taken = []).mpr
    ⟨htaken.trans (h.unspawned hpoint pipe), fun pipe' _ => h.unspawned hpoint pipe'⟩
  unstarted := h.unstarted
  exited := h.exited
  joined := h.joined
  official_iff := h.official_iff
  last := h.last

/-- A reader that is started and not joined goes on, with the same line pending. -/
theorem setReader (point : ReaderPoint)
    (hpending : point.pending pipe = (output.readers pipe).pending pipe)
    (hdrained : point.AtEnd →
      (output.pipes pipe).isOpen = false ∧ (output.pipes pipe).unread = [])
    (hundecoded : point = .undecoded → none ∈ (output.pipes pipe).raw)
    (hstarted : ¬ output.point.unstarted pipe) (hjoins : ¬ output.Joins pipe) :
    Faithful (output.setReader pipe point) where
  wellRead := h.wellRead
  logged := (Function.forall_update_iff output.readers fun pipe' point => output.logged pipe' ++
    point.pending pipe' = (output.pipes pipe').taken.map (loggedLine pipe')).mpr
    ⟨(congrArg _ hpending).trans (h.logged pipe), fun pipe' _ => h.logged pipe'⟩
  drained := (Function.forall_update_iff output.readers fun pipe' point => point.AtEnd →
    (output.pipes pipe').isOpen = false ∧ (output.pipes pipe').unread = []).mpr
    ⟨hdrained, fun pipe' _ => h.drained pipe'⟩
  undecoded := (Function.forall_update_iff output.readers fun pipe' point =>
    point = .undecoded → none ∈ (output.pipes pipe').raw).mpr
    ⟨hundecoded, fun pipe' _ => h.undecoded pipe'⟩
  unspawned := h.unspawned
  unstarted := (Function.forall_update_iff output.readers fun pipe' point =>
    output.point.unstarted pipe' → point = .notStarted).mpr
    ⟨fun hunstarted => absurd hunstarted hstarted, fun pipe' _ => h.unstarted pipe'⟩
  exited := h.exited
  joined := (Function.forall_update_iff output.readers fun pipe' point =>
    output.point.joined pipe' → point.IsOver).mpr
    ⟨fun hjoined => absurd (h.joined pipe hjoined) hjoins, fun pipe' _ => h.joined pipe'⟩
  official_iff := h.official_iff
  last := h.last

theorem started {point : ReaderPoint} (hreader : output.readers pipe = point)
    (hpoint : point ≠ .notStarted) : ¬ output.point.unstarted pipe := fun hunstarted =>
  hpoint (hreader.symm.trans (h.unstarted pipe hunstarted))

omit h in
theorem not_joins {point : ReaderPoint} (hreader : output.readers pipe = point)
    (hover : ¬ point.IsOver) : ¬ output.Joins pipe := by
  unfold Joins
  rwa [hreader]

/-- A line is taken from the pipe. -/
theorem takeLine {depth : ℕ} {rawLine : List (Option Char)} {stream : TextPipe}
    (hreader : output.readers pipe = .reading depth)
    (hread : (output.pipes pipe).readline = some (rawLine, stream))
    (hunread : (output.pipes pipe).unread ≠ [])
    (htaken : stream.taken = (output.pipes pipe).taken ++ [rawLine]) :
    Faithful ((output.setPipe pipe stream).setReader pipe (.logging depth rawLine)) where
  wellRead := (Function.forall_update_iff output.pipes
    fun _ stream => stream.WellRead).mpr
    ⟨(h.wellRead pipe).readline hread, fun pipe' _ => h.wellRead pipe'⟩
  logged pipe' := by
    change output.logged pipe' ++ (Function.update output.readers pipe _ pipe').pending pipe' =
      (Function.update output.pipes pipe stream pipe').taken.map _
    by_cases hpipe : pipe' = pipe
    · have hlogged := h.logged pipe
      rw [hreader] at hlogged
      rw [hpipe, Function.update_self, Function.update_self, htaken, List.map_append, ← hlogged]
      exact congrArg (· ++ [loggedLine pipe rawLine]) (List.append_nil _).symm
    · rw [Function.update_of_ne hpipe, Function.update_of_ne hpipe]
      exact h.logged pipe'
  drained pipe' hend := by
    change (Function.update output.readers pipe _ pipe').AtEnd at hend
    change (Function.update output.pipes pipe stream pipe').isOpen = false ∧
      (Function.update output.pipes pipe stream pipe').unread = []
    by_cases hpipe : pipe' = pipe
    · rw [hpipe, Function.update_self] at hend
      exact absurd (h.drained pipe (by rw [hreader]; exact hend)).2 hunread
    · rw [Function.update_of_ne hpipe] at hend ⊢
      exact h.drained pipe' hend
  undecoded pipe' hundecoded := by
    change Function.update output.readers pipe _ pipe' = _ at hundecoded
    change none ∈ (Function.update output.pipes pipe stream pipe').raw
    by_cases hpipe : pipe' = pipe
    · rw [hpipe, Function.update_self] at hundecoded
      cases hundecoded
    · rw [Function.update_of_ne hpipe] at hundecoded ⊢
      exact h.undecoded pipe' hundecoded
  unspawned hpoint := by
    refine absurd (h.unstarted pipe ?_) (by rw [hreader]; exact ReaderPoint.noConfusion)
    change output.point.unspawned at hpoint
    generalize output.point = point at hpoint ⊢
    cases point <;> first | exact hpoint.elim | trivial
  unstarted := (Function.forall_update_iff output.readers fun pipe' point =>
    output.point.unstarted pipe' → point = .notStarted).mpr
    ⟨fun hunstarted => absurd hunstarted (h.started hreader ReaderPoint.noConfusion),
      fun pipe' _ => h.unstarted pipe'⟩
  exited := h.exited
  joined := (Function.forall_update_iff output.readers fun pipe' point =>
    output.point.joined pipe' → point.IsOver).mpr
    ⟨fun hjoined => absurd (h.joined pipe hjoined)
      (not_joins hreader id),
      fun pipe' _ => h.joined pipe'⟩
  official_iff := h.official_iff
  last := h.last

/-- The line that was taken is logged. -/
theorem logLine {depth : ℕ} {rawLine : List (Option Char)}
    (hreader : output.readers pipe = .logging depth rawLine) :
    Faithful ((output.log (.output pipe (loggedLine pipe rawLine).1
      (loggedLine pipe rawLine).2)).setReader pipe (.reading depth)) where
  wellRead := h.wellRead
  logged pipe' := by
    change (output.log _).logged pipe' ++
      (Function.update output.readers pipe _ pipe').pending pipe' = _
    rw [logged_log]
    by_cases hpipe : pipe' = pipe
    · subst hpipe
      have hlogged := h.logged pipe'
      rw [hreader] at hlogged
      rw [Function.update_self, LogCall.from?, if_pos rfl]
      exact (List.append_nil _).trans hlogged
    · rw [Function.update_of_ne hpipe, LogCall.from?, if_neg (Ne.symm hpipe)]
      exact (congrArg (· ++ _) (List.append_nil _)).trans (h.logged pipe')
  drained := (Function.forall_update_iff output.readers fun pipe' point => point.AtEnd →
    (output.pipes pipe').isOpen = false ∧ (output.pipes pipe').unread = []).mpr
    ⟨fun hend => h.drained pipe (by rw [hreader]; exact hend), fun pipe' _ => h.drained pipe'⟩
  undecoded := (Function.forall_update_iff output.readers fun pipe' point =>
    point = .undecoded → none ∈ (output.pipes pipe').raw).mpr
    ⟨ReaderPoint.noConfusion, fun pipe' _ => h.undecoded pipe'⟩
  unspawned := h.unspawned
  unstarted := (Function.forall_update_iff output.readers fun pipe' point =>
    output.point.unstarted pipe' → point = .notStarted).mpr
    ⟨fun hunstarted => absurd hunstarted (h.started hreader ReaderPoint.noConfusion),
      fun pipe' _ => h.unstarted pipe'⟩
  exited := h.exited
  joined := (Function.forall_update_iff output.readers fun pipe' point =>
    output.point.joined pipe' → point.IsOver).mpr
    ⟨fun hjoined => absurd (h.joined pipe hjoined)
      (not_joins hreader id),
      fun pipe' _ => h.joined pipe'⟩
  official_iff := by
    change official ∈ output.calls ++ [_] ↔ _
    rw [List.mem_append, List.mem_singleton, or_iff_left LogCall.noConfusion]
    exact h.official_iff
  last hpoint := absurd hpoint (h.not_ended
    (not_joins hreader id))

theorem readLine {depth : ℕ} {rawLine : List (Option Char)} {stream : TextPipe}
    (hreader : output.readers pipe = .reading depth)
    (hread : (output.pipes pipe).readline = some (rawLine, stream)) :
    Faithful ((output.setPipe pipe stream).setReader pipe
      (if rawLine = [] then .polling depth else .logging depth rawLine)) := by
  rcases TextPipe.readline_cases hread with
    ⟨rfl, rfl, hclosed, hunread⟩ | ⟨hunread, hline, -, htaken⟩
  · have hsame : output.setPipe pipe (output.pipes pipe) = output := by
      unfold PluginOutput.setPipe
      rw [Function.update_eq_self]
    rw [hsame, if_pos rfl]
    exact h.setReader _ (by rw [hreader]; rfl) (fun _ => ⟨hclosed, hunread⟩)
      ReaderPoint.noConfusion (h.started hreader ReaderPoint.noConfusion) (not_joins hreader id)
  · rw [if_neg hline]
    exact h.takeLine hreader hread hunread htaken

theorem checkIo (pipe : OutputPipe) (raises : Bool) :
    Faithful (output.checkIo limit pipe raises) := by
  unfold PluginOutput.checkIo
  cases hreader : output.readers pipe with
  | notStarted => exact h
  | returned => exact h
  | died => exact h
  | undecoded => exact h
  | logging depth rawLine => exact h.logLine hreader
  | reading depth =>
    dsimp only
    split_ifs with hraises hundecoded
    · have hraw := (h.wellRead pipe).none_mem_raw_iff.mpr hundecoded
      exact h.setReader _ (by rw [hreader]; rfl) False.elim (fun _ => hraw)
        (h.started hreader ReaderPoint.noConfusion) (not_joins hreader id)
    · exact h
    · cases hread : (output.pipes pipe).readline with
      | none => exact h
      | some result => exact h.readLine hreader hread
  | polling depth =>
    dsimp only
    have hdrained := h.drained pipe (by rw [hreader]; trivial)
    have hjoins : ¬ output.Joins pipe := not_joins hreader id
    have hstarted := h.started hreader ReaderPoint.noConfusion
    by_cases halive : output.alive = true
    · rw [if_pos halive]
      -- The message does not touch the pipe.
      refine (h.logRunner (h.not_ended hjoins) (by simp)).setReader _ ?_ (fun _ => hdrained) ?_
        hstarted hjoins
      · change _ = (output.readers pipe).pending pipe
        rw [hreader]
        split_ifs <;> rfl
      · split_ifs <;> exact False.elim
    · rw [if_neg halive]
      exact h.setReader _ (by rw [hreader]; rfl) (fun _ => hdrained) ReaderPoint.noConfusion
        hstarted hjoins

/-- `Popen` returns: the subprocess holds two new pipes. -/
theorem spawn (hpoint : output.point = .spawning) :
    Faithful { output with
      alive := true, pipes := fun _ => TextPipe.fresh true, point := .starting .stdout } where
  wellRead _ := TextPipe.WellRead.fresh true
  logged pipe := by
    have hlogged := h.logged pipe
    rw [h.unspawned (by rw [hpoint]; trivial) pipe] at hlogged
    exact hlogged
  drained pipe hend := by
    change (output.readers pipe).AtEnd at hend
    rw [h.unstarted pipe (by rw [hpoint]; trivial)] at hend
    exact hend.elim
  undecoded pipe hundecoded := by
    change output.readers pipe = .undecoded at hundecoded
    rw [h.unstarted pipe (by rw [hpoint]; trivial)] at hundecoded
    cases hundecoded
  unspawned hpoint := Bool.noConfusion hpoint
  unstarted pipe _ := h.unstarted pipe (by rw [hpoint]; trivial)
  exited hpoint := Bool.noConfusion hpoint
  joined _ hpoint := Bool.noConfusion hpoint
  official_iff := by
    refine ⟨fun hmem => ?_, RunPoint.noConfusion⟩
    have hended := h.official_iff.mp hmem
    rw [hpoint] at hended
    cases hended
  last := RunPoint.noConfusion

theorem finish (hpoint : output.point = .finishing) :
    Faithful ((output.log official).goTo (.ended true)) where
  wellRead := h.wellRead
  logged pipe := by
    refine Eq.trans ?_ (h.logged pipe)
    exact congrArg (· ++ _) ((logged_log official).trans (List.append_nil _))
  drained := h.drained
  undecoded := h.undecoded
  unspawned hpoint := Bool.noConfusion hpoint
  unstarted _ hpoint := Bool.noConfusion hpoint
  exited _ := h.exited (by rw [hpoint]; trivial)
  joined pipe _ := h.joined pipe (by rw [hpoint]; trivial)
  official_iff := ⟨fun _ => rfl, fun _ => List.mem_append_right _ List.mem_cons_self⟩
  last _ := List.getLast?_concat

theorem run (raises : Bool) : Faithful (output.run raises) := by
  unfold PluginOutput.run
  cases hpoint : output.point with
  | announcing =>
    exact (h.logRunner (by simp [hpoint]) (by simp)).goOn hpoint (by decide) (by decide)
  | spawning =>
    cases raises with
    | true => exact h.goOn hpoint (by decide) (by decide)
    | false => exact h.spawn hpoint
  | starting pipe =>
    cases raises with
    | true => exact h.goOn hpoint (by cases pipe <;> decide) (by cases pipe <;> decide)
    | false =>
      have hreader : output.readers pipe = .notStarted :=
        h.unstarted pipe (by rw [hpoint]; cases pipe <;> rfl)
      have hgo : Faithful (output.goTo (afterStarting pipe)) :=
        h.goOn hpoint (by cases pipe <;> decide) (by cases pipe <;> decide)
      refine hgo.setReader (.reading 0) ?_ (fun hend => absurd hend (lt_irrefl 0))
        ReaderPoint.noConfusion ?_ ?_
      · change _ = (output.readers pipe).pending pipe
        rw [hreader]
        rfl
      · cases pipe <;> exact Bool.noConfusion
      · exact not_joins hreader id
  | spinning =>
    cases halive : output.alive with
    | true => exact h
    | false => exact h.goTo hpoint (by decide) (fun _ => halive) fun _ => Bool.noConfusion
  | announcingReads =>
    exact (h.logRunner (by simp [hpoint]) (by simp)).goOn hpoint (by decide) (by decide)
  | joining pipe =>
    dsimp only
    split_ifs with hjoins
    · refine h.goTo hpoint (by cases pipe <;> decide)
        (fun _ => h.exited (by rw [hpoint]; rfl)) fun pipe' hnew => ?_
      cases pipe with
      | stdout =>
        have hfirst : pipe' = .stdout := of_decide_eq_true hnew
        rwa [hfirst]
      | stderr =>
        cases pipe' with
        | stdout => exact h.joined .stdout (by rw [hpoint]; rfl)
        | stderr => exact hjoins
    · exact h
  | testing =>
    dsimp only
    split_ifs
    · exact h.goOn hpoint (by decide) (by decide)
    · exact h.goOn hpoint (by decide) (by decide)
  | complaining =>
    exact (h.logRunner (by simp [hpoint]) (by simp)).goOn hpoint (by decide) (by decide)
  | finishing => exact h.finish hpoint
  | announcingDeath =>
    exact (h.logRunner (by simp [hpoint]) (by simp)).goOn hpoint (by decide) (by decide)
  | announcingException =>
    exact (h.logRunner (by simp [hpoint]) (by simp)).goOn hpoint (by decide) (by decide)
  | ended officially => exact h

theorem apply (event : OutputEvent) : Faithful (apply limit event output) := by
  cases event with
  | run raises => exact h.run raises
  | read pipe raises => exact h.checkIo pipe raises
  | write pipe text =>
    refine h.setPipe ((h.wellRead pipe).write text) (TextPipe.write_taken text)
      (fun hraw => TextPipe.mem_raw_write hraw text) fun hdone => ?_
    rwa [TextPipe.write_of_closed hdone.1]
  | close pipe => exact h.setPipe (h.wellRead pipe).close rfl id fun hdone => ⟨rfl, hdone.2⟩
  | exit =>
    dsimp only [PluginOutput.apply]
    split_ifs
    · exact { h with exited := fun _ => rfl }
    · exact h
  | stop => exact { h with }

end Faithful

theorem faithful (events : List OutputEvent) :
    Faithful (Runs.final (apply limit) events initial) :=
  (Runs.throughout_of_step (fun event _ h => h.apply event) Faithful.initial events).final

theorem Faithful.logged_prefix (h : Faithful output) (pipe : OutputPipe) :
    output.logged pipe <+: ((textLines (output.pipes pipe).raw).takeWhile (none ∉ ·)).map
      (loggedLine pipe) := by
  have hdecoded : ∀ line ∈ (output.pipes pipe).taken, decide (none ∉ line) = true :=
    fun line hline => decide_eq_true ((h.wellRead pipe).decoded line hline)
  rw [(h.wellRead pipe).textLines, List.takeWhile_append_of_pos hdecoded, List.map_append,
    ← h.logged pipe, List.append_assoc]
  exact List.prefix_append ..

/-- Both readers were joined, with nothing left in a pipe that could be decoded. -/
theorem Faithful.ended (h : Faithful output) (hofficial : official ∈ output.calls)
    {pipe : OutputPipe} (hdecoded : none ∉ (output.pipes pipe).raw) :
    (output.pipes pipe).isOpen = false ∧
      output.logged pipe = (textLines (output.pipes pipe).raw).map (loggedLine pipe) := by
  have hjoins : output.Joins pipe := h.joined pipe (by rw [h.official_iff.mp hofficial]; rfl)
  have hreader : (output.readers pipe).AtEnd ∧ (output.readers pipe).pending pipe = [] := by
    unfold Joins at hjoins
    cases hpoint : output.readers pipe with
    | returned => exact ⟨trivial, rfl⟩
    | died => exact ⟨trivial, rfl⟩
    | undecoded => exact absurd (h.undecoded pipe hpoint) hdecoded
    | _ =>
      rw [hpoint] at hjoins
      exact hjoins.elim
  have hdrained := h.drained pipe hreader.1
  have hlogged := h.logged pipe
  rw [hreader.2, List.append_nil] at hlogged
  rw [(h.wellRead pipe).textLines, hdrained.2, LineStream.lines_nil, List.append_nil]
  exact ⟨hdrained.1, hlogged⟩

/-- Whatever the subprocess and what it started write, in any pieces: the log
holds the lines of each pipe, one record a line, in order and at their levels,
up to those that are still to be read, and at most up to the first line that
cannot be decoded. When the runner says that the plugin is officially stopped, the
subprocess is dead, no record follows, and nothing is left to be read of a pipe to
which only characters were written. -/
theorem output_complete (limit : ℕ) (events : List OutputEvent) :
    let output := Runs.final (apply limit) events initial
    (∀ pipe, output.logged pipe <+:
        ((textLines (output.pipes pipe).raw).takeWhile (none ∉ ·)).map (loggedLine pipe)) ∧
      (official ∈ output.calls →
        output.calls.getLast? = some official ∧ output.alive = false ∧
          ∀ pipe, none ∉ (output.pipes pipe).raw → (output.pipes pipe).isOpen = false ∧
            output.logged pipe = (textLines (output.pipes pipe).raw).map (loggedLine pipe)) := by
  intro output
  have h : Faithful output := faithful events
  refine ⟨h.logged_prefix, fun hofficial => ?_⟩
  have hpoint := h.official_iff.mp hofficial
  exact ⟨h.last hpoint, h.exited (by rw [hpoint]; rfl), fun pipe => h.ended hofficial⟩

/-- The whole output of a plugin that is officially stopped: the log shows the lines
that name a level from the logger's on, and those that name none unless the level
of their pipe is too low. The logger is the one that the first runner with its name
has made; a line that names `NOTSET` only is dropped. -/
theorem emitted_complete (limit : ℕ) (events : List OutputEvent) (parent : ℤ)
    (first : RunnerLoggers) (hofficial : official ∈ (Runs.final (apply limit) events initial).calls)
    (pipe : OutputPipe)
    (hdecoded : none ∉ ((Runs.final (apply limit) events initial).pipes pipe).raw) :
    let output := Runs.final (apply limit) events initial
    let logger := first.unformatted.configured
    output.emitted logger parent pipe =
      ((textLines (output.pipes pipe).raw).filter fun rawLine =>
        LinePasses (max 1 (logger.effectiveLevel parent)) pipe.defaultLevel
          (strippedLine rawLine)).map (loggedLine pipe) := by
  intro output logger
  unfold emitted
  rw [((faithful events).ended hofficial hdecoded).2, List.filter_map]
  refine congrArg (List.map _) (List.filter_congr fun rawLine _ => ?_)
  refine decide_eq_decide.mpr ?_
  exact (emits_configured first.unformatted parent _).trans (le_levelToLog_iff _ _ _)

/-- A subprocess writes two lines to its standard error, the second without an
end, and exits. -/
def shortOutput : List OutputEvent :=
  List.replicate 4 (.run false) ++
    [.write .stderr ("NOTSET\r\nx".toList.map some), .read .stderr false, .read .stderr false,
      .close .stdout, .close .stderr, .exit] ++
    List.replicate 4 (.read .stderr false) ++ List.replicate 2 (.read .stdout false) ++
    List.replicate 7 (.run false)

theorem emitted_complete_short :
    let first : RunnerLoggers := ⟨singlePlugin "foo" [], 30, true, true⟩
    let output := Runs.final (apply 1000) shortOutput initial
    official ∈ output.calls ∧
      output.emitted first.unformatted.configured 30 .stderr =
        ((textLines (output.pipes .stderr).raw).filter fun rawLine =>
          LinePasses 20 40 (strippedLine rawLine)).map (loggedLine .stderr) :=
  have hofficial : official ∈ (Runs.final (apply 1000) shortOutput initial).calls := by
    decide +kernel
  have hdecoded : none ∉ ((Runs.final (apply 1000) shortOutput initial).pipes .stderr).raw := by
    decide +kernel
  ⟨hofficial, emitted_complete 1000 shortOutput 30 ⟨singlePlugin "foo" [], 30, true, true⟩
    hofficial .stderr hdecoded⟩

example : (Runs.final (apply 1000) shortOutput initial).logged .stderr =
    [(0, "NOTSET".toList), (40, ['x'])] := by decide +kernel

def unexpected : LogCall := .runner 40 .unexpectedlyShutdown

/-- How the message, the stop flag and the end of the subprocess are related. -/
structure Reported (output : PluginOutput) : Prop where
  exited : output.exitedStopped = true → output.stopped = true
  complaining : output.point = .complaining → output.exitedStopped = false
  complained : unexpected ∈ output.calls →
    (output.point = .finishing ∨ output.point = .ended true) ∧ output.exitedStopped = false
  finishing : output.point = .finishing ∨ output.point = .ended true → output.stopped = false →
    unexpected ∈ output.calls

theorem Reported.initial : Reported initial where
  exited := Bool.noConfusion
  complaining := RunPoint.noConfusion
  complained h := absurd h List.not_mem_nil
  finishing h := by rcases h with h | h <;> cases h

namespace Reported

variable (h : Reported output)

include h

theorem early {output' : PluginOutput} (hold : output.point.early) (hnew : output'.point.early)
    (hexited : output'.exitedStopped = output.exitedStopped)
    (hstopped : output'.stopped = output.stopped)
    (hcalls : unexpected ∈ output'.calls → unexpected ∈ output.calls) : Reported output' where
  exited hstop := hstopped.trans (h.exited (hexited.symm.trans hstop))
  complaining hpoint := by
    rw [hpoint] at hnew
    cases hnew
  complained hmem := by
    rcases (h.complained (hcalls hmem)).1 with hpoint | hpoint
    · rw [hpoint] at hold
      cases hold
    · rw [hpoint] at hold
      cases hold
  finishing hpoint := by
    rcases hpoint with hpoint | hpoint
    · rw [hpoint] at hnew
      cases hnew
    · rw [hpoint] at hnew
      cases hnew

theorem not_mem (hold : output.point.early) : unexpected ∉ output.calls := fun hmem => by
  rcases (h.complained hmem).1 with hpoint | hpoint
  · rw [hpoint] at hold
    cases hold
  · rw [hpoint] at hold
    cases hold

theorem run (raises : Bool) : Reported (output.run raises) := by
  have hother : ∀ {call : LogCall}, unexpected ≠ call →
      unexpected ∈ output.calls ++ [call] → unexpected ∈ output.calls := fun hne hmem =>
    (List.mem_append.mp hmem).resolve_right fun hlast => hne (List.mem_singleton.mp hlast)
  unfold PluginOutput.run
  cases hpoint : output.point with
  | announcing => exact h.early (by rw [hpoint]; rfl) rfl rfl rfl (hother (by decide))
  | spawning =>
    cases raises with
    | true => exact h.early (by rw [hpoint]; rfl) rfl rfl rfl id
    | false => exact h.early (by rw [hpoint]; rfl) rfl rfl rfl id
  | starting pipe =>
    cases raises with
    | true => exact h.early (by rw [hpoint]; rfl) rfl rfl rfl id
    | false => exact h.early (by rw [hpoint]; rfl) (by cases pipe <;> rfl) rfl rfl id
  | spinning =>
    dsimp only
    split_ifs
    · exact h
    · exact h.early (by rw [hpoint]; rfl) rfl rfl rfl id
  | announcingReads => exact h.early (by rw [hpoint]; rfl) rfl rfl rfl (hother (by decide))
  | joining pipe =>
    dsimp only
    split_ifs
    · exact h.early (by rw [hpoint]; rfl) (by cases pipe <;> rfl) rfl rfl id
    · exact h
  | testing =>
    have hnot := h.not_mem (by rw [hpoint]; rfl)
    cases hstopped : output.stopped with
    | true =>
      exact {
        exited := fun _ => hstopped
        complaining := RunPoint.noConfusion
        complained := fun hmem => absurd hmem hnot
        finishing := fun _ hunset => absurd (hstopped.symm.trans hunset) Bool.noConfusion }
    | false =>
      exact {
        exited := h.exited
        complaining := fun _ => Bool.eq_false_iff.mpr fun hexited =>
          absurd (hstopped.symm.trans (h.exited hexited)) Bool.noConfusion
        complained := fun hmem => absurd hmem hnot
        finishing := fun hended => by rcases hended with hended | hended <;> cases hended }
  | complaining =>
    exact {
      exited := h.exited
      complaining := RunPoint.noConfusion
      complained := fun _ => ⟨.inl rfl, h.complaining hpoint⟩
      finishing := fun _ _ => List.mem_append_right _ List.mem_cons_self }
  | finishing =>
    exact {
      exited := h.exited
      complaining := RunPoint.noConfusion
      complained := fun hmem => ⟨.inr rfl, (h.complained (hother (by decide) hmem)).2⟩
      finishing := fun _ hunset => List.mem_append_left _ (h.finishing (.inl hpoint) hunset) }
  | announcingDeath => exact h.early (by rw [hpoint]; rfl) rfl rfl rfl (hother (by decide))
  | announcingException => exact h.early (by rw [hpoint]; rfl) rfl rfl rfl (hother (by decide))
  | ended officially => exact h

theorem congr {output' : PluginOutput} (hpoint : output'.point = output.point)
    (hexited : output'.exitedStopped = output.exitedStopped)
    (hstopped : output'.stopped = output.stopped)
    (hcalls : unexpected ∈ output'.calls ↔ unexpected ∈ output.calls) : Reported output' where
  exited hstop := hstopped.trans (h.exited (hexited.symm.trans hstop))
  complaining hcomplaining := hexited.trans (h.complaining (hpoint.symm.trans hcomplaining))
  complained hmem := by
    rw [hpoint, hexited]
    exact h.complained (hcalls.mp hmem)
  finishing hended hunset := by
    rw [hpoint] at hended
    exact hcalls.mpr (h.finishing hended (hstopped.symm.trans hunset))

theorem checkIo (pipe : OutputPipe) (raises : Bool) :
    Reported (output.checkIo limit pipe raises) := by
  have hother : ∀ {call : LogCall}, unexpected ≠ call →
      (unexpected ∈ output.calls ++ [call] ↔ unexpected ∈ output.calls) := fun hne => by
    rw [List.mem_append, List.mem_singleton, or_iff_left hne]
  unfold PluginOutput.checkIo
  cases output.readers pipe with
  | notStarted => exact h
  | returned => exact h
  | died => exact h
  | undecoded => exact h
  | logging depth rawLine => exact h.congr rfl rfl rfl (hother LogCall.noConfusion)
  | reading depth =>
    dsimp only
    split_ifs
    · exact h.congr rfl rfl rfl Iff.rfl
    · exact h
    · cases (output.pipes pipe).readline with
      | none => exact h
      | some result => exact h.congr rfl rfl rfl Iff.rfl
  | polling depth =>
    dsimp only
    split_ifs
    · exact h.congr rfl rfl rfl (hother (by simp [unexpected]))
    · exact h.congr rfl rfl rfl (hother (by simp [unexpected]))
    · exact h.congr rfl rfl rfl Iff.rfl

theorem apply (hfaithful : Faithful output) (event : OutputEvent) :
    Reported (apply limit event output) := by
  cases event with
  | run raises => exact h.run raises
  | read pipe raises => exact h.checkIo pipe raises
  | write pipe text => exact h.congr rfl rfl rfl Iff.rfl
  | close pipe => exact h.congr rfl rfl rfl Iff.rfl
  | exit =>
    dsimp only [PluginOutput.apply]
    split_ifs with halive
    · -- The subprocess was not seen to have ended yet.
      have hrunning : ∀ {point : RunPoint}, point.exited = true → output.point ≠ point :=
        fun hexited hpoint =>
          absurd (halive.symm.trans (hfaithful.exited (hpoint ▸ hexited))) Bool.noConfusion
      exact {
        exited := id
        complaining := fun hpoint => absurd hpoint (hrunning rfl)
        complained := fun hmem => by
          rcases (h.complained hmem).1 with hpoint | hpoint
          · exact absurd hpoint (hrunning rfl)
          · exact absurd hpoint (hrunning rfl)
        finishing := h.finishing }
    · exact h
  | stop =>
    exact { h with exited := fun _ => rfl, finishing := fun _ => Bool.noConfusion }

end Reported

/-- A plugin that was stopped before its subprocess exited is never reported as
unexpectedly shut down; one that the runner ends without the report was stopped. -/
theorem unexpected_unstopped (limit : ℕ) (events : List OutputEvent) :
    let output := Runs.final (apply limit) events initial
    (unexpected ∈ output.calls → output.exitedStopped = false) ∧
      (official ∈ output.calls → unexpected ∉ output.calls → output.stopped = true) := by
  intro output
  have h : Faithful output ∧ Reported output :=
    (Runs.throughout_of_step (I := fun output => Faithful output ∧ Reported output)
      (fun event _ h => ⟨h.1.apply event, h.2.apply h.1 event⟩)
      ⟨Faithful.initial, Reported.initial⟩ events).final
  refine ⟨fun hmem => (h.2.complained hmem).2, fun hofficial hnot => ?_⟩
  by_contra hunset
  exact hnot (h.2.finishing (.inr (h.1.official_iff.mp hofficial)) (Bool.eq_false_iff.mpr hunset))

end PluginOutput

end Bartender
