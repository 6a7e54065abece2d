import Bartender.Library.RotatingQueue
import Bartender.Plugins.Runner

/-!
# Starting several plugins

`_start_multiple_plugins` takes plugins off the end of a list, tests their
requirements against three lists of system names, and either starts the
plugin, marks it as failed, or puts it back at the front of the list. The calls
it makes act on a world the loop does not look at; they are passed in as
`Effects`, and every call is recorded.

The loop is then identified with a rotating work queue, whose items are the
plugins in the order in which they are popped.
-/

namespace Bartender

/-- What the loop calls. A call returns or raises, and changes the world. -/
structure Effects (W ε : Type*) where
  startPlugin : LocalPluginRunner → W → Except ε Bool × W
  markAsFailed : LocalPluginRunner → W → Except ε Unit × W

/-- A system as `System.objects()` returns it, with its instances' statuses. -/
structure StoredSystem where
  name : String
  version : String
  instances : List (String × Status)
  deriving DecidableEq, Repr

def getAllSystemNames (systems : List StoredSystem) : List String :=
  systems.map (·.name)

/-- `all` over no instances is true: such a system counts as running and as failed. -/
def getRunningSystemNames (systems : List StoredSystem) : List String :=
  (systems.filter fun s => s.instances.all fun i => i.2 == .running).map (·.name)

def getFailedSystemNames (systems : List StoredSystem) : List String :=
  (systems.filter fun s => s.instances.all fun i => i.2 == .dead).map (·.name)

/-- The three name lists read before the loop starts. -/
structure Snapshot where
  systemNames : List String
  failedSystemNames : List String
  runningSystemNames : List String
  deriving DecidableEq, Repr

/-- The three reads of `System.objects()`, made one after the other. -/
def Snapshot.read (first second third : List StoredSystem) : Snapshot :=
  ⟨getAllSystemNames first, getFailedSystemNames second, getRunningSystemNames third⟩

inductive Call
  | startPlugin (plugin : LocalPluginRunner)
  | markAsFailed (plugin : LocalPluginRunner)
  deriving DecidableEq, Repr

def Call.plugin : Call → LocalPluginRunner
  | .startPlugin p => p
  | .markAsFailed p => p

/-- How the scan of a plugin's requirements ends; the requirement is the one
that the log message names. -/
inductive Check
  | attemptToStart
  | unavailable (required : String)
  | failedToStart (required : String)
  | yetToBeStarted (required : String)
  deriving DecidableEq, Repr

/-- The local variables of the loop besides the list of plugins left. -/
structure Progress (W : Type*) where
  failedSystemNames : List String
  startedPluginNames : List String
  calls : List Call
  world : W

def checkRequirements (systemNames failedSystemNames startedPluginNames : List String) :
    List String → Check
  | [] => .attemptToStart
  | required :: rest =>
    if required ∉ systemNames then .unavailable required
    else if required ∈ failedSystemNames then .failedToStart required
    else if required ∉ startedPluginNames then .yetToBeStarted required
    else checkRequirements systemNames failedSystemNames startedPluginNames rest

variable {W ε : Type*} (fx : Effects W ε) (systemNames : List String)

namespace Progress

variable (st : Progress W) (plugin : LocalPluginRunner) (world : W)

/-- `start_plugin` returned true. -/
def started : Progress W :=
  { st with
    startedPluginNames := st.startedPluginNames ++ [plugin.system.name]
    calls := st.calls ++ [.startPlugin plugin]
    world := world }

/-- `start_plugin` returned false. -/
def notStarted : Progress W :=
  { st with
    failedSystemNames := st.failedSystemNames ++ [plugin.system.name]
    calls := st.calls ++ [.startPlugin plugin]
    world := world }

/-- `_mark_as_failed` returned. -/
def failed : Progress W :=
  { st with
    failedSystemNames := st.failedSystemNames ++ [plugin.system.name]
    calls := st.calls ++ [.markAsFailed plugin]
    world := world }

end Progress

def attemptToStart (st : Progress W) (plugin : LocalPluginRunner) :
    RotatingQueue.Verdict (Progress W) ε :=
  match fx.startPlugin plugin st.world with
  | (.ok true, world) => .settle (st.started plugin world)
  | (.ok false, world) => .settle (st.notStarted plugin world)
  | (.error e, world) =>
    .abort e { st with calls := st.calls ++ [.startPlugin plugin], world := world }

/-- Both failing branches of the scan: mark, then remember the system's name. -/
def failPlugin (st : Progress W) (plugin : LocalPluginRunner) :
    RotatingQueue.Verdict (Progress W) ε :=
  match fx.markAsFailed plugin st.world with
  | (.ok (), world) => .settle (st.failed plugin world)
  | (.error e, world) =>
    .abort e { st with calls := st.calls ++ [.markAsFailed plugin], world := world }

/-- One round of the loop for the plugin just popped. -/
def visitPlugin (st : Progress W) (plugin : LocalPluginRunner) :
    RotatingQueue.Verdict (Progress W) ε :=
  match checkRequirements systemNames st.failedSystemNames st.startedPluginNames
      plugin.requirements with
  | .attemptToStart => attemptToStart fx st plugin
  | .unavailable _ => failPlugin fx st plugin
  | .failedToStart _ => failPlugin fx st plugin
  | .yetToBeStarted _ => .defer

/-- `while len(start_list) != 0`, for at most `fuel` rounds. -/
def whileLoop (fuel : ℕ) (startList : List LocalPluginRunner) (st : Progress W) :
    Option (RotatingQueue.Ending (Progress W) ε) :=
  match startList.getLast? with
  | none => some (.finished st)
  | some plugin =>
    match fuel with
    | 0 => none
    | fuel + 1 =>
      match visitPlugin fx systemNames st plugin with
      | .settle st' => whileLoop fuel startList.dropLast st'
      | .defer => whileLoop fuel (plugin :: startList.dropLast) st
      | .abort e st' => some (.aborted e st')

def Snapshot.progress (snap : Snapshot) (world : W) : Progress W :=
  ⟨snap.failedSystemNames, snap.runningSystemNames, [], world⟩

def startMultiplePlugins (snap : Snapshot) (fuel : ℕ) (pluginsToStart : List LocalPluginRunner)
    (world : W) : Option (RotatingQueue.Ending (Progress W) ε) :=
  whileLoop fx snap.systemNames fuel pluginsToStart (snap.progress world)

def Met (systemNames failedSystemNames startedPluginNames : List String) (r : String) : Prop :=
  r ∈ systemNames ∧ r ∉ failedSystemNames ∧ r ∈ startedPluginNames

/-- The scan passes over met requirements and stops at the first other one. -/
theorem checkRequirements_cases (failedNames startedNames requirements : List String) :
    (checkRequirements systemNames failedNames startedNames requirements = .attemptToStart ∧
      ∀ r ∈ requirements, Met systemNames failedNames startedNames r) ∨
    ∃ pre r post, requirements = pre ++ r :: post ∧
      (∀ x ∈ pre, Met systemNames failedNames startedNames x) ∧
      ((checkRequirements systemNames failedNames startedNames requirements = .unavailable r ∧
          r ∉ systemNames) ∨
        (checkRequirements systemNames failedNames startedNames requirements =
          .failedToStart r ∧ r ∈ failedNames) ∨
        (checkRequirements systemNames failedNames startedNames requirements =
          .yetToBeStarted r ∧ r ∈ systemNames ∧ r ∉ failedNames ∧ r ∉ startedNames)) := by
  induction requirements with
  | nil => exact .inl ⟨rfl, by simp⟩
  | cons r rest ih =>
    by_cases hknown : r ∈ systemNames
    · by_cases hfailed : r ∈ failedNames
      · exact .inr ⟨[], r, rest, rfl, by simp, by simp [checkRequirements, hknown, hfailed]⟩
      · by_cases hstarted : r ∈ startedNames
        · have hmet : Met systemNames failedNames startedNames r := ⟨hknown, hfailed, hstarted⟩
          have hstep : checkRequirements systemNames failedNames startedNames (r :: rest) =
              checkRequirements systemNames failedNames startedNames rest := by
            simp [checkRequirements, hknown, hfailed, hstarted]
          rw [hstep]
          rcases ih with ⟨hcheck, hall⟩ | ⟨pre, r', post, rfl, hpre, hcheck⟩
          · exact .inl ⟨hcheck, by simpa [hmet] using hall⟩
          · exact .inr ⟨r :: pre, r', post, rfl, by simpa [hmet] using hpre, hcheck⟩
        · exact .inr ⟨[], r, rest, rfl, by simp,
            by simp [checkRequirements, hknown, hfailed, hstarted]⟩
    · exact .inr ⟨[], r, rest, rfl, by simp, by simp [checkRequirements, hknown]⟩

structure Effects.Returns : Prop where
  startPlugin : ∀ plugin world, ∃ result, (fx.startPlugin plugin world).1 = .ok result
  markAsFailed : ∀ plugin world, (fx.markAsFailed plugin world).1 = .ok ()

/-- `start_plugin` returns nothing but true. -/
def Effects.AlwaysStarts : Prop :=
  ∀ plugin world, (fx.startPlugin plugin world).1 = .ok true

namespace Progress

variable (st : Progress W) (plugin : LocalPluginRunner)

def Ready : Prop :=
  ∀ r ∈ plugin.requirements, Met systemNames st.failedSystemNames st.startedPluginNames r

/-- The scan stops at a requirement that is not available or has failed. -/
def Blocked : Prop :=
  ∃ pre r post, plugin.requirements = pre ++ r :: post ∧
    (∀ x ∈ pre, Met systemNames st.failedSystemNames st.startedPluginNames x) ∧
    (r ∉ systemNames ∨ r ∈ st.failedSystemNames)

/-- The scan stops at a requirement that may still come up. -/
def Waits : Prop :=
  ∃ pre r post, plugin.requirements = pre ++ r :: post ∧
    (∀ x ∈ pre, Met systemNames st.failedSystemNames st.startedPluginNames x) ∧
    r ∈ systemNames ∧ r ∉ st.failedSystemNames ∧ r ∉ st.startedPluginNames

end Progress

theorem visitPlugin_branches (st : Progress W) (plugin : LocalPluginRunner) :
    (st.Ready systemNames plugin ∧
        visitPlugin fx systemNames st plugin = attemptToStart fx st plugin) ∨
      (st.Blocked systemNames plugin ∧
        visitPlugin fx systemNames st plugin = failPlugin fx st plugin) ∨
      (st.Waits systemNames plugin ∧ visitPlugin fx systemNames st plugin = .defer) := by
  rcases checkRequirements_cases systemNames st.failedSystemNames st.startedPluginNames
    plugin.requirements with ⟨hcheck, hready⟩ | ⟨pre, r, post, hreq, hpre, hstop⟩
  · exact .inl ⟨hready, by simp only [visitPlugin, hcheck]⟩
  · rcases hstop with ⟨hcheck, hbad⟩ | ⟨hcheck, hbad⟩ | ⟨hcheck, hwait⟩
    · exact .inr (.inl ⟨⟨pre, r, post, hreq, hpre, .inl hbad⟩, by simp only [visitPlugin, hcheck]⟩)
    · exact .inr (.inl ⟨⟨pre, r, post, hreq, hpre, .inr hbad⟩, by simp only [visitPlugin, hcheck]⟩)
    · exact .inr (.inr ⟨⟨pre, r, post, hreq, hpre, hwait⟩, by simp only [visitPlugin, hcheck]⟩)

theorem visitPlugin_eq_settle {st st' : Progress W} {plugin : LocalPluginRunner}
    (h : visitPlugin fx systemNames st plugin = .settle st') :
    (∃ result world, st.Ready systemNames plugin ∧
        fx.startPlugin plugin st.world = (.ok result, world) ∧
        st' = if result then st.started plugin world else st.notStarted plugin world) ∨
      ∃ world, st.Blocked systemNames plugin ∧
        fx.markAsFailed plugin st.world = (.ok (), world) ∧ st' = st.failed plugin world := by
  rcases visitPlugin_branches fx systemNames st plugin with
    ⟨hready, hvisit⟩ | ⟨hblocked, hvisit⟩ | ⟨-, hvisit⟩
  · rw [hvisit, attemptToStart] at h
    split at h <;> cases h
    · next hcall => exact .inl ⟨true, _, hready, hcall, rfl⟩
    · next hcall => exact .inl ⟨false, _, hready, hcall, rfl⟩
  · rw [hvisit, failPlugin] at h
    split at h <;> cases h
    next hcall => exact .inr ⟨_, hblocked, hcall, rfl⟩
  · rw [hvisit] at h
    cases h

theorem visitPlugin_eq_abort {st st' : Progress W} {plugin : LocalPluginRunner} {e : ε}
    (h : visitPlugin fx systemNames st plugin = .abort e st') :
    (∃ world, st.Ready systemNames plugin ∧
        fx.startPlugin plugin st.world = (.error e, world) ∧
        st' = { st with calls := st.calls ++ [.startPlugin plugin], world := world }) ∨
      ∃ world, st.Blocked systemNames plugin ∧
        fx.markAsFailed plugin st.world = (.error e, world) ∧
        st' = { st with calls := st.calls ++ [.markAsFailed plugin], world := world } := by
  rcases visitPlugin_branches fx systemNames st plugin with
    ⟨hready, hvisit⟩ | ⟨hblocked, hvisit⟩ | ⟨-, hvisit⟩
  · rw [hvisit, attemptToStart] at h
    split at h <;> cases h
    next hcall => exact .inl ⟨_, hready, hcall, rfl⟩
  · rw [hvisit, failPlugin] at h
    split at h <;> cases h
    next hcall => exact .inr ⟨_, hblocked, hcall, rfl⟩
  · rw [hvisit] at h
    cases h

theorem waits_of_visitPlugin_eq_defer {st : Progress W} {plugin : LocalPluginRunner}
    (h : visitPlugin fx systemNames st plugin = .defer) : st.Waits systemNames plugin := by
  rcases visitPlugin_branches fx systemNames st plugin with
    ⟨-, hvisit⟩ | ⟨-, hvisit⟩ | ⟨hwaits, -⟩
  · rw [hvisit, attemptToStart] at h
    split at h <;> cases h
  · rw [hvisit, failPlugin] at h
    split at h <;> cases h
  · exact hwaits

/-- Everything one round can do when the calls return. -/
theorem visitPlugin_cases (hret : fx.Returns) (st : Progress W) (plugin : LocalPluginRunner) :
    (visitPlugin fx systemNames st plugin = .defer ∧ st.Waits systemNames plugin) ∨
    (∃ world, visitPlugin fx systemNames st plugin = .settle (st.started plugin world) ∧
      st.Ready systemNames plugin) ∨
    (∃ world, visitPlugin fx systemNames st plugin = .settle (st.notStarted plugin world) ∧
      st.Ready systemNames plugin ∧ (fx.startPlugin plugin st.world).1 = .ok false) ∨
    (∃ world, visitPlugin fx systemNames st plugin = .settle (st.failed plugin world) ∧
      st.Blocked systemNames plugin) := by
  cases hv : visitPlugin fx systemNames st plugin with
  | settle st' =>
    rcases visitPlugin_eq_settle fx systemNames hv with
      ⟨result, world, hready, hcall, rfl⟩ | ⟨world, hblocked, -, rfl⟩
    · cases result with
      | true => exact .inr (.inl ⟨world, rfl, hready⟩)
      | false => exact .inr (.inr (.inl ⟨world, rfl, hready, by rw [hcall]⟩))
    · exact .inr (.inr (.inr ⟨world, rfl, hblocked⟩))
  | defer => exact .inl ⟨rfl, waits_of_visitPlugin_eq_defer fx systemNames hv⟩
  | abort e st' =>
    rcases visitPlugin_eq_abort fx systemNames hv with ⟨world, -, hcall, -⟩ | ⟨world, -, hcall, -⟩
    · obtain ⟨result, hresult⟩ := hret.startPlugin plugin st.world
      rw [hcall] at hresult
      cases hresult
    · have hresult := hret.markAsFailed plugin st.world
      rw [hcall] at hresult
      cases hresult

theorem whileLoop_eq_run (fuel : ℕ) (startList : List LocalPluginRunner) (st : Progress W) :
    whileLoop fx systemNames fuel startList st =
      RotatingQueue.run (visitPlugin fx systemNames) fuel startList.reverse st := by
  induction fuel generalizing startList st with
  | zero =>
    rcases List.eq_nil_or_concat startList with rfl | ⟨rest, plugin, rfl⟩
    · simp [whileLoop, RotatingQueue.run]
    · simp [whileLoop, RotatingQueue.run]
  | succ fuel ih =>
    rcases List.eq_nil_or_concat startList with rfl | ⟨rest, plugin, rfl⟩
    · simp [whileLoop, RotatingQueue.run]
    · rw [whileLoop]
      simp only [List.getLast?_concat, List.dropLast_concat, List.concat_eq_append,
        List.reverse_append, List.reverse_cons, List.reverse_nil, List.nil_append,
        List.singleton_append, RotatingQueue.run]
      cases visitPlugin fx systemNames st plugin with
      | settle st' => exact ih rest st'
      | defer => exact (ih _ st).trans (by rw [List.reverse_cons])
      | abort e st' => rfl

end Bartender
