import Bartender.Plugins.Scanning
import Bartender.Plugins.Steps
import Mathlib.Logic.Relation

/-!
# The steps of the requests

`startInstance` looks a plugin up and starts it. `rescanSystemDirectory` loads
the directories that no registered plugin comes from and then starts what it has
loaded. One step goes from one access to what the threads share to the next.
-/

namespace Bartender

/-- The unique name that `_get_plugin_from_instance_id` asks the registry for. -/
def World.uniqueNameOf (w : World) (id : ℕ) : Option String := do
  let _ ← w.instances id
  let system ← w.systems.find? fun s => s.instances.any fun i => i.id == id
  let i ← system.instances.find? fun i => i.id == id
  pure (getUniqueName system.name system.version i.name)

theorem getPluginFromInstanceId_eq (id : ℕ) (w : World) :
    getPluginFromInstanceId id w = (w.uniqueNameOf id).bind w.registry.getPlugin := by
  unfold getPluginFromInstanceId World.uniqueNameOf
  cases w.instances id with
  | none => rfl
  | some document =>
    cases hsystem : w.systems.find? fun s => s.instances.any fun i => i.id == id with
    | none => rfl
    | some system =>
      cases hinstance : system.instances.find? fun i => i.id == id with
      | none => simp [hinstance]
      | some i => simp [hinstance]

inductive StartRequest
  /-- The instance and its system are looked up in the database. -/
  | lookUp (id : ℕ)
  | getPlugin (uniqueName : String)
  | start (call : StartCall)
  | finished

/-- Where the request is once its call of `start_plugin` has come to a point. -/
def StartRequest.after (call : StartCall) : StartRequest :=
  match call.point with
  | .finished _ _ => .finished
  | _ => .start call

def StartRequest.step (popen : Bool) (request : StartRequest) (w : World) :
    StartRequest × World :=
  match request with
  | .lookUp id =>
    match w.uniqueNameOf id with
    | some uniqueName => (.getPlugin uniqueName, w)
    | none => (.finished, w)
  | .getPlugin uniqueName =>
    match w.registry.getPlugin uniqueName with
    | some plugin => (.start (.begin plugin), w)
    | none => (.finished, w)
  | .start call => (.after (call.step popen w).1, (call.step popen w).2)
  | .finished => (.finished, w)

/-- Uninterrupted, the request does what `startInstance` does. -/
theorem StartRequest.reaches_finished (popen : Bool) (id : ℕ) (w : World) :
    Relation.ReflTransGen (fun s s' => StartRequest.step popen s.1 s.2 = s') (.lookUp id, w)
      (.finished, (InstanceOperation.startInstance id popen).apply w) := by
  cases hname : w.uniqueNameOf id with
  | none =>
    have hmissing : getPluginFromInstanceId id w = none := by
      rw [getPluginFromInstanceId_eq, hname, Option.bind_none]
    refine .single ?_
    simp [StartRequest.step, InstanceOperation.apply, hname, hmissing]
  | some uniqueName =>
    have hlookUp : StartRequest.step popen (.lookUp id) w = (.getPlugin uniqueName, w) := by
      simp only [StartRequest.step, hname]
    refine .head hlookUp ?_
    have hfound : getPluginFromInstanceId id w = w.registry.getPlugin uniqueName := by
      rw [getPluginFromInstanceId_eq, hname, Option.bind_some]
    cases hplugin : w.registry.getPlugin uniqueName with
    | none =>
      refine .single ?_
      simp [StartRequest.step, InstanceOperation.apply, hfound, hplugin]
    | some plugin =>
      have hgetPlugin : StartRequest.step popen (.getPlugin uniqueName) w =
          (.after (.begin plugin), w) := by
        simp only [StartRequest.step, hplugin]
        rfl
      refine .head hgetPlugin ?_
      obtain ⟨newPlugin, halone⟩ := StartCall.alone_begin popen plugin w
      have happly : (InstanceOperation.startInstance id popen).apply w =
          (startPlugin (fun _ => popen) plugin w).2 := by
        simp [InstanceOperation.apply, hfound, hplugin]
      rw [happly]
      refine StartCall.reaches_of_alone StartRequest.after ?_ halone
      rintro ⟨plugin, point⟩ w hrunning
      cases point with
      | finished newPlugin result => exact absurd rfl (hrunning newPlugin result)
      | _ => rfl

/-- The system that `load_plugin` saves in the place of one it has found. -/
def World.systemFor (w : World) (existing : Option System) (config : PluginConfig) : System where
  id := existing.elim w.next (·.id)
  name := config.name
  version := config.version
  instances := config.instances.mapIdx fun i name => ⟨w.next + 1 + i, name⟩

inductive RescanPoint
  /-- `self.registry.get_all_plugins()`, for the paths they come from. -/
  | copy
  | nextDirectory
  /-- `System.find_unique(...)` -/
  | findUnique (path : String) (config : PluginConfig) (fault : Option LoadFault)
  /-- `plugin_system.delete_instances()`, where there is a system. -/
  | deleteInstances (path : String) (config : PluginConfig) (fault : Option LoadFault)
    (existing : Option System)
  /-- `plugin_system.deep_save()` -/
  | deepSave (path : String) (config : PluginConfig) (fault : Option LoadFault)
    (existing : Option System)
  /-- The loop over the instance names, with those that are left. -/
  | register (path : String) (config : PluginConfig) (system : System) (names : List String)
    (built : List LocalPluginRunner) (returns : Bool)
  | readSystems
  | readFailed
  | readRunning
  /-- `while len(start_list) != 0` -/
  | nextPlugin
  | start (call : StartCall)
  | markFailed (plugin : LocalPluginRunner)
  | finished

structure Rescan where
  /-- The directories that were found, then those yet to be loaded. -/
  directories : List (String × PluginSource)
  /-- `new_plugins`, then `start_list`. -/
  newPlugins : List LocalPluginRunner
  names : Snapshot
  point : RescanPoint

namespace Rescan

def begin (directories : List (String × PluginSource)) : Rescan :=
  ⟨directories, [], ⟨[], [], []⟩, .copy⟩

/-- Once a call of `start_plugin` has come to a point; an exception ends the request. -/
def afterStart (rescan : Rescan) (call : StartCall) : Rescan :=
  match call.point with
  | .finished _ (.ok true) =>
    { rescan with
      names.runningSystemNames := rescan.names.runningSystemNames ++ [call.plugin.system.name]
      point := .nextPlugin }
  | .finished _ (.ok false) =>
    { rescan with
      names.failedSystemNames := rescan.names.failedSystemNames ++ [call.plugin.system.name]
      point := .nextPlugin }
  | .finished _ (.error _) => { rescan with point := .finished }
  | _ => { rescan with point := .start call }

def step (site : SiteConfig) (popen : Bool) (rescan : Rescan) (w : World) : Rescan × World :=
  let goto point : Rescan := { rescan with point := point }
  match rescan.point with
  | .copy =>
    ({ rescan with
        directories := newDirectories rescan.directories w
        point := .nextDirectory }, w)
  | .nextDirectory =>
    match rescan.directories with
    | [] => (goto .readSystems, w)
    | (path, .config config fault) :: rest =>
      ({ rescan with directories := rest, point := .findUnique path config fault }, w)
    | _ :: rest => ({ rescan with directories := rest }, w)
  | .findUnique path config fault =>
    if fault = some .findUnique then (goto .nextDirectory, w)
    else
      (goto (.deleteInstances path config fault (w.findUnique config.name config.version)), w)
  | .deleteInstances path config fault existing =>
    if fault = some .deleteInstances then (goto .nextDirectory, w)
    else (goto (.deepSave path config fault existing), existing.elim w w.deleteInstances)
  | .deepSave path config fault existing =>
    if fault = some .deepSave then (goto .nextDirectory, w)
    else
      let system := w.systemFor existing config
      match fault with
      | some (.constructor built) =>
        (goto (.register path config system (config.instances.take built) [] false),
          w.deepSave system)
      | _ => (goto (.register path config system config.instances [] true), w.deepSave system)
  | .register path config system names built returns =>
    match names with
    | [] =>
      ({ rescan with
          newPlugins := if returns then rescan.newPlugins ++ built else rescan.newPlugins
          point := .nextDirectory }, w)
    | instanceName :: names =>
      let build := configuredRunner site path config system instanceName
      (goto (.register path config system names (built ++ [build w.next]) returns),
        w.buildAndRegister build)
  | .readSystems =>
    ({ rescan with
        names.systemNames := getAllSystemNames w.storedSystems, point := .readFailed }, w)
  | .readFailed =>
    ({ rescan with
        names.failedSystemNames := getFailedSystemNames w.storedSystems
        point := .readRunning }, w)
  | .readRunning =>
    ({ rescan with
        names.runningSystemNames := getRunningSystemNames w.storedSystems
        point := .nextPlugin }, w)
  | .nextPlugin =>
    match rescan.newPlugins.getLast? with
    | none => (goto .finished, w)
    | some plugin =>
      let startList := rescan.newPlugins.dropLast
      match checkRequirements rescan.names.systemNames rescan.names.failedSystemNames
          rescan.names.runningSystemNames plugin.requirements with
      | .attemptToStart =>
        ({ rescan with newPlugins := startList, point := .start (.begin plugin) }, w)
      | .unavailable _ => ({ rescan with newPlugins := startList, point := .markFailed plugin }, w)
      | .failedToStart _ =>
        ({ rescan with newPlugins := startList, point := .markFailed plugin }, w)
      | .yetToBeStarted _ => ({ rescan with newPlugins := plugin :: startList }, w)
  | .start call => (rescan.afterStart (call.step popen w).1, (call.step popen w).2)
  | .markFailed plugin =>
    match markAsFailed plugin w with
    | (.ok (), w) =>
      ({ rescan with
          names.failedSystemNames := rescan.names.failedSystemNames ++ [plugin.system.name]
          point := .nextPlugin }, w)
    | (.error _, w) => (goto .finished, w)
  | .finished => (rescan, w)

abbrev Reaches (site : SiteConfig) (popen : Bool) : Rescan × World → Rescan × World → Prop :=
  Relation.ReflTransGen fun s s' => step site popen s.1 s.2 = s'

section Reaches

variable {site : SiteConfig} {popen : Bool} {directories : List (String × PluginSource)}
  {newPlugins : List LocalPluginRunner} {names : Snapshot}

theorem reaches_register (path : String) (config : PluginConfig) (system : System)
    (instances : List String) (built : List LocalPluginRunner) (returns : Bool) (w : World) :
    Reaches site popen
      (⟨directories, newPlugins, names, .register path config system instances built returns⟩, w)
      (⟨directories,
        if returns then
          newPlugins ++ (built ++ (registerInstances site path config system instances w).1)
        else newPlugins, names, .nextDirectory⟩,
        (registerInstances site path config system instances w).2) := by
  induction instances generalizing built w with
  | nil =>
    refine .single ?_
    simp [step, registerInstances]
  | cons instanceName instances ih =>
    have hrest := ih (built ++ [configuredRunner site path config system instanceName w.next])
      (w.buildAndRegister (configuredRunner site path config system instanceName))
    rw [registerInstances_cons]
    rw [List.append_assoc] at hrest
    exact .head rfl hrest

/-- What `scan_plugin_path` takes over from loading a directory. -/
def loadedPlugins : LoadResult → List LocalPluginRunner
  | .loaded plugins => plugins
  | _ => []

theorem newSystem_eq_systemFor (config : PluginConfig) (w : World) :
    let existing := w.findUnique config.name config.version
    (existing.elim w w.deleteInstances).newSystem config =
      (existing.elim w w.deleteInstances).systemFor existing config := by
  intro existing
  have hsame : (existing.elim w w.deleteInstances).findUnique config.name config.version =
      existing := by
    cases hexisting : existing with
    | none => exact hexisting
    | some system => exact hexisting
  unfold World.newSystem World.systemFor
  rw [hsame]

theorem reaches_loadPlugin (path : String) (source : PluginSource) (w : World) :
    Reaches site popen
      (⟨(path, source) :: directories, newPlugins, names, .nextDirectory⟩, w)
      (⟨directories, newPlugins ++ loadedPlugins (loadPlugin site path source w).1, names,
        .nextDirectory⟩, (loadPlugin site path source w).2) := by
  have hraised : ∀ (w' : World) {s : Rescan × World},
      Reaches site popen s (⟨directories, newPlugins, names, .nextDirectory⟩, w') →
      loadPlugin site path source w = (.raised, w') → Reaches site popen s
        (⟨directories, newPlugins ++ loadedPlugins (loadPlugin site path source w).1, names,
          .nextDirectory⟩, (loadPlugin site path source w).2) := by
    intro w' s hreaches hresult
    rw [hresult, loadedPlugins, List.append_nil]
    · exact hreaches
    · simp
  cases source with
  | invalid =>
    refine .single ?_
    simp [step, loadPlugin, loadedPlugins]
  | unloadable => exact hraised w (.single rfl) rfl
  | config config fault =>
    let existing := w.findUnique config.name config.version
    let deleted := existing.elim w w.deleteInstances
    have hsystem : deleted.newSystem config = deleted.systemFor existing config :=
      newSystem_eq_systemFor config w
    have hregister : ∀ instances returns, Reaches site popen
        (⟨directories, newPlugins, names, .register path config (deleted.systemFor existing config)
          instances [] returns⟩, deleted.deepSave (deleted.systemFor existing config)) _ :=
      fun instances returns => reaches_register path config _ instances [] returns _
    cases fault with
    | none =>
      have hloaded : loadPlugin site path (.config config none) w =
          (.loaded (registerInstances site path config (deleted.newSystem config) config.instances
              (deleted.deepSave (deleted.newSystem config))).1,
            (registerInstances site path config (deleted.newSystem config) config.instances
              (deleted.deepSave (deleted.newSystem config))).2) := rfl
      rw [hloaded, hsystem]
      exact .head rfl (.head rfl (.head rfl (.head rfl (hregister config.instances true))))
    | some fault =>
      cases fault with
      | findUnique => exact hraised w (.head rfl (.single rfl)) rfl
      | deleteInstances => exact hraised w (.head rfl (.head rfl (.single rfl))) rfl
      | deepSave =>
        exact hraised deleted (.head rfl (.head rfl (.head rfl (.single rfl)))) rfl
      | constructor built =>
        refine hraised (registerInstances site path config (deleted.systemFor existing config)
          (config.instances.take built)
          (deleted.deepSave (deleted.systemFor existing config))).2 ?_ ?_
        · exact .head rfl (.head rfl (.head rfl (.head rfl
            (hregister (config.instances.take built) false))))
        · rw [← hsystem]
          rfl

theorem reaches_loadNewPlugins (directories : List (String × PluginSource)) (w : World) :
    Reaches site popen
      (⟨directories, newPlugins, names, .nextDirectory⟩, w)
      (⟨[], newPlugins ++ (loadNewPlugins site directories w).1, names, .nextDirectory⟩,
        (loadNewPlugins site directories w).2) := by
  induction directories generalizing newPlugins w with
  | nil =>
    simp [loadNewPlugins, Relation.ReflTransGen.refl]
  | cons directory directories ih =>
    obtain ⟨path, source⟩ := directory
    refine (reaches_loadPlugin path source w).trans ?_
    have hrest : Reaches site popen
        (⟨directories, newPlugins ++ loadedPlugins (loadPlugin site path source w).1, names,
          .nextDirectory⟩, (loadPlugin site path source w).2) _ :=
      ih (loadPlugin site path source w).2
    cases hresult : (loadPlugin site path source w).1 with
    | loaded plugins =>
      rw [loadNewPlugins_loaded hresult]
      rw [hresult] at hrest
      simpa [loadedPlugins] using hrest
    | _ =>
      rw [loadNewPlugins_of_not_loaded (by simp [hresult])]
      rw [hresult] at hrest
      simpa [loadedPlugins] using hrest

theorem reaches_start {rescan : Rescan} {n : ℕ} {call call' : StartCall} {w w' : World}
    (halone : call.alone popen n w = (call', w'))
    (hpoint : rescan.afterStart call = { rescan with point := .start call }) :
    Reaches site popen ({ rescan with point := .start call }, w) (rescan.afterStart call', w') := by
  rw [← hpoint]
  refine StartCall.reaches_of_alone rescan.afterStart ?_ halone
  rintro ⟨plugin, point⟩ w hrunning
  cases point with
  | finished newPlugin result => exact absurd rfl (hrunning newPlugin result)
  | _ => rfl

def looping (directories : List (String × PluginSource)) (systemNames : List String)
    (startList : List LocalPluginRunner) (st : Progress World) : Rescan × World :=
  (⟨directories, startList, ⟨systemNames, st.failedSystemNames, st.startedPluginNames⟩,
    .nextPlugin⟩, st.world)

section Loop

variable {systemNames : List String} {startList : List LocalPluginRunner}
  {plugin : LocalPluginRunner} {st : Progress World}

/-- What the steps of a round come to, by the round's verdict. -/
def Comes (site : SiteConfig) (popen : Bool) (directories : List (String × PluginSource))
    (systemNames : List String) (startList : List LocalPluginRunner) (plugin : LocalPluginRunner)
    (st : Progress World) : RotatingQueue.Verdict (Progress World) StartError → Prop
  | .settle st' => Reaches site popen (looping directories systemNames startList st)
      (looping directories systemNames startList.dropLast st')
  | .defer => Reaches site popen (looping directories systemNames startList st)
      (looping directories systemNames (plugin :: startList.dropLast) st)
  | .abort _ st' => ∃ rescan : Rescan, rescan.point = .finished ∧
      Reaches site popen (looping directories systemNames startList st) (rescan, st'.world)

theorem comes_failPlugin (hcheck : Reaches site popen
      (looping directories systemNames startList st)
      ({ (looping directories systemNames startList.dropLast st).1 with
        point := .markFailed plugin }, st.world)) :
    Comes site popen directories systemNames startList plugin st
      (failPlugin (worldEffects fun _ => popen) st plugin) := by
  have hmark : (worldEffects fun _ => popen).markAsFailed plugin st.world =
      markAsFailed plugin st.world := rfl
  unfold failPlugin
  rw [hmark]
  cases hresult : markAsFailed plugin st.world with
  | mk result w =>
    cases result with
    | ok =>
      refine hcheck.tail ?_
      simp [step, looping, hresult, Progress.failed]
    | error e =>
      refine ⟨{ (looping directories systemNames startList.dropLast st).1 with
        point := .finished }, rfl, hcheck.tail ?_⟩
      simp [step, looping, hresult]

theorem comes_attemptToStart (hcheck : Reaches site popen
      (looping directories systemNames startList st)
      ({ (looping directories systemNames startList.dropLast st).1 with
        point := .start (.begin plugin) }, st.world)) :
    Comes site popen directories systemNames startList plugin st
      (attemptToStart (worldEffects fun _ => popen) st plugin) := by
  obtain ⟨newPlugin, hstart⟩ := StartCall.alone_begin popen plugin st.world
  have hcall := hcheck.trans (reaches_start hstart rfl)
  have heffect : (worldEffects fun _ => popen).startPlugin plugin st.world =
      startPlugin (fun _ => popen) plugin st.world := rfl
  unfold attemptToStart
  rw [heffect]
  generalize startPlugin (fun _ => popen) plugin st.world = outcome at hcall ⊢
  obtain ⟨result, w⟩ := outcome
  cases result with
  | ok started => cases started <;> exact hcall
  | error e => exact ⟨_, rfl, hcall⟩

/-- Uninterrupted, the steps of a round are a visit to the last plugin of the list. -/
theorem comes_visitPlugin (hlast : startList.getLast? = some plugin) :
    Comes site popen directories systemNames startList plugin st
      (visitPlugin (worldEffects fun _ => popen) systemNames st plugin) := by
  unfold visitPlugin
  cases hcheck : checkRequirements systemNames st.failedSystemNames st.startedPluginNames
      plugin.requirements with
  | attemptToStart =>
    refine comes_attemptToStart (.single ?_)
    simp [step, looping, hlast, hcheck]
  | unavailable required =>
    refine comes_failPlugin (.single ?_)
    simp [step, looping, hlast, hcheck]
  | failedToStart required =>
    refine comes_failPlugin (.single ?_)
    simp [step, looping, hlast, hcheck]
  | yetToBeStarted required =>
    refine .single ?_
    simp [step, looping, hlast, hcheck]

theorem reaches_whileLoop {fuel : ℕ} {ending : RotatingQueue.Ending (Progress World) StartError}
    (h : whileLoop (worldEffects fun _ => popen) systemNames fuel startList st = some ending) :
    ∃ rescan : Rescan, rescan.point = .finished ∧
      Reaches site popen (looping directories systemNames startList st)
        (rescan, ending.state.world) := by
  have hempty : ∀ {startList st}, startList.getLast? = none →
      ∃ rescan : Rescan, rescan.point = .finished ∧
        Reaches site popen (looping directories systemNames startList st) (rescan, st.world) := by
    intro startList st hlast
    refine ⟨{ (looping directories systemNames startList st).1 with point := .finished }, rfl,
      .single ?_⟩
    simp [looping, step, hlast]
  induction fuel generalizing startList st with
  | zero =>
    unfold whileLoop at h
    cases hlast : startList.getLast? with
    | none =>
      rw [hlast] at h
      cases h
      exact hempty hlast
    | some plugin =>
      rw [hlast] at h
      cases h
  | succ fuel ih =>
    unfold whileLoop at h
    cases hlast : startList.getLast? with
    | none =>
      rw [hlast] at h
      cases h
      exact hempty hlast
    | some plugin =>
      have hvisit : Comes site popen directories systemNames startList plugin st _ :=
        comes_visitPlugin hlast
      rw [hlast] at h
      dsimp only at h
      cases hverdict : visitPlugin (worldEffects fun _ => popen) systemNames st plugin with
      | settle st' =>
        rw [hverdict] at h hvisit
        obtain ⟨rescan, hover, hrest⟩ := ih h
        exact ⟨rescan, hover, hvisit.trans hrest⟩
      | defer =>
        rw [hverdict] at h hvisit
        obtain ⟨rescan, hover, hrest⟩ := ih h
        exact ⟨rescan, hover, hvisit.trans hrest⟩
      | abort e st' =>
        rw [hverdict] at h hvisit
        cases h
        exact hvisit

end Loop

theorem reaches_scanPluginPath {fuel : ℕ} {w : World}
    {ending : RotatingQueue.Ending (Progress World) StartError}
    (h : scanPluginPath (fun _ => popen) site fuel directories w = some ending) :
    ∃ rescan : Rescan, rescan.point = .finished ∧
      Reaches site popen (begin directories, w) (rescan, ending.state.world) := by
  unfold scanPluginPath startMultiplePlugins at h
  have hload : Reaches site popen
      (⟨newDirectories directories w, [], ⟨[], [], []⟩, .nextDirectory⟩, w) _ :=
    reaches_loadNewPlugins (newDirectories directories w) w
  generalize loadNewPlugins site (newDirectories directories w) w = outcome at h hload
  obtain ⟨newPlugins, w'⟩ := outcome
  obtain ⟨rescan, hover, hloop⟩ : ∃ rescan : Rescan, rescan.point = .finished ∧
      Reaches site popen (looping [] _ newPlugins _) (rescan, ending.state.world) :=
    reaches_whileLoop h
  refine ⟨rescan, hover, .head rfl (hload.trans ?_)⟩
  exact .head rfl (.head rfl (.head rfl (.head rfl hloop)))

end Reaches

end Rescan
end Bartender
