import Bartender.Plugins.ManagerOperations

/-!
# No live subprocess is lost

The operations on the plugins, one at a time and in any order, and between them
what the threads and the subprocesses do. An operation calls `start()`, and the
thread calls `Popen` later. Four operations can leave a subprocess behind whose
runner the registry no longer finds: `start_plugin` replaces a runner on the word
of its stored status, also when `restart_plugin` calls it, `reload_system` refuses
to drop plugins that are `RUNNING` but no others, and `scan_plugin_path` starts
runners that the registry turned away.
-/

namespace Bartender

namespace Machine

/-- Every runner with a live subprocess is registered. -/
def LiveRegistered (m : Machine) : Prop :=
  ∀ p ∈ m.world.runners, m.Live p → m.world.Registered p

instance (m : Machine) : Decidable m.LiveRegistered :=
  inferInstanceAs (Decidable (∀ p ∈ m.world.runners, m.Live p → m.world.Registered p))

/-- A plugin that is down by its status has no subprocess, and will have none. -/
def ReallyDown (m : Machine) (plugin : LocalPluginRunner) : Prop :=
  (m.world.status plugin).IsDown → ¬ m.Active plugin

end Machine

def InstanceOperation.unspawned : InstanceOperation → InstanceOperation
  | .startInstance id _ => .startInstance id false
  | .monitor visits _ shutdown => .monitor visits (fun _ => false) shutdown
  | operation => operation

/-- The operation without the subprocesses, which the threads spawn. -/
def ManagerOperation.unspawned : ManagerOperation → ManagerOperation
  | .onInstance operation => .onInstance operation.unspawned
  | .startPlugin uniqueName _ => .startPlugin uniqueName fun _ => false
  | .restartPlugin uniqueName _ shutdown => .restartPlugin uniqueName (fun _ => false) shutdown
  | .scanPluginPath _ site directories => .scanPluginPath (fun _ => false) site directories
  | operation => operation

/-- What keeps the operation from leaving a subprocess behind. -/
def ManagerOperation.Proper : ManagerOperation → Machine → Prop
  | .onInstance (.startInstance id _), m =>
    ∀ p, getPluginFromInstanceId id m.world = some p → m.ReallyDown p
  | .startPlugin uniqueName _, m =>
    ∀ p, m.world.registry.getPlugin uniqueName = some p → m.ReallyDown p
  | .restartPlugin uniqueName _ shutdown, m =>
    ∀ p, m.world.registry.getPlugin uniqueName = some p →
      { m with world := Bartender.stopPlugin shutdown p m.world }.ReallyDown p
  | .reloadSystem _ systemName systemVersion source, m =>
    source ≠ .invalid →
      (∀ p ∈ m.world.registry.getPluginsBySystem systemName systemVersion,
        m.world.status p ≠ .running) →
      ∀ p ∈ m.world.registry.getPluginsBySystem systemName systemVersion, ¬ m.Active p
  | .scanPluginPath _ _ directories, m =>
    NoClash (m.world.registry.map LocalPluginRunner.uniqueName)
      ((newDirectories directories m.world).map Prod.snd)
  | _, _ => True

inductive MachineOperation
  | manager (operation : ManagerOperation)
  | thread (event : ThreadEvent) (plugin : LocalPluginRunner)

namespace MachineOperation

def Ends : MachineOperation → Machine → Machine → Prop
  | .manager operation, m, m' => operation.unspawned.Ends m.world m'.world ∧ m'.point = m.point
  | .thread event plugin, m, m' => m' = event.apply plugin m

/-- The start loop of a scan looks at neither threads nor subprocesses, so that
what these do meanwhile may as well come last. -/
def Passes : MachineOperation → Machine → Machine → Prop
  | .manager operation, m, m' => ∃ w, ∃ events : List (ThreadEvent × LocalPluginRunner),
      operation.unspawned.Passes m.world w ∧
        m' = events.foldl (fun m event => event.1.apply event.2 m) ⟨w, m.point⟩
  | .thread _ _, _, _ => False

def Proper : MachineOperation → Machine → Prop
  | .manager operation, m => operation.Proper m
  | .thread _ _, _ => True

end MachineOperation

section Threads

variable {m : Machine}

/-- What the threads and the subprocesses do by themselves loses none. -/
theorem Tracked.thread (h : Tracked m.point m.world) (event : ThreadEvent)
    (plugin : LocalPluginRunner) :
    Tracked (event.apply plugin m).point (event.apply plugin m).world := by
  obtain ⟨hregistry, hrunners, hnext⟩ := event.apply_world plugin m
  refine ⟨hregistry ▸ h.distinct, ?_, ?_, hrunners ▸ h.eq_of_address, ?_, ?_⟩
  · rw [hregistry, hrunners]
    exact h.built
  · rw [hrunners, hnext]
    exact h.allocated
  · intro address hle
    rw [hnext] at hle
    by_cases hsame : address = plugin.address
    · have hnot : ¬ plugin.address < m.world.next := by omega
      rw [ThreadEvent.apply, if_neg hnot]
      exact h.unbuilt address hle
    · rw [(event.apply_of_ne plugin m hsame).2]
      exact h.unbuilt address hle
  · intro p hp hactive
    rw [hrunners] at hp
    unfold World.Registered
    rw [hregistry]
    refine h.active p hp ?_
    unfold World.Active at hactive ⊢
    by_cases hsame : p.address = plugin.address
    · rw [hsame] at hactive ⊢
      rcases event.apply_self plugin m with heq | ⟨hruntime, hpoint⟩
      · rwa [heq] at hactive
      · rw [hruntime, hpoint] at hactive
        exact ThreadEvent.active_of_act hactive
    · obtain ⟨hruntime, hpoint⟩ := event.apply_of_ne plugin m hsame
      rwa [hruntime, hpoint] at hactive

theorem Tracked.foldl_thread (h : Tracked m.point m.world)
    (events : List (ThreadEvent × LocalPluginRunner)) :
    Tracked (events.foldl (fun m event => event.1.apply event.2 m) m).point
      (events.foldl (fun m event => event.1.apply event.2 m) m).world := by
  induction events generalizing m with
  | nil => exact h
  | cons event events ih => exact ih (h.thread event.1 event.2)

end Threads

section Operations

variable {m m' : Machine}

theorem Tracked.onInstance (h : Tracked m.point m.world) (operation : InstanceOperation)
    (hproper : (ManagerOperation.onInstance operation).Proper m) :
    Tracked m.point (operation.unspawned.apply m.world) := by
  cases operation with
  | startInstance id spawns =>
    unfold InstanceOperation.unspawned InstanceOperation.apply
    cases hplugin : getPluginFromInstanceId id m.world with
    | none => simpa [hplugin] using h
    | some p =>
      simpa [hplugin] using h.startPlugin (registered_of_instance hplugin) (hproper p hplugin)
  | stopInstance id shutdown =>
    unfold InstanceOperation.unspawned InstanceOperation.apply
    cases hplugin : getPluginFromInstanceId id m.world with
    | none => simpa [hplugin] using h
    | some p => simpa [hplugin] using h.quiet (quiet_stopPlugin shutdown p m.world)
  | initializeInstance id => exact h.quiet (quiet_updateInstance id _ m.world)
  | monitor visits popen shutdown => exact h.monitor _ shutdown visits
  | checkStatus timeout visited => exact h.quiet (quiet_checkStatus timeout visited m.world)
  | exit plugin => exact h.quiet (quiet_endProcess plugin m.world)
  | heartbeat id => exact h.quiet (quiet_updateInstance id _ m.world)
  | reportStopped id => exact h.quiet (quiet_updateInstance id _ m.world)
  | wait time => exact h.quiet (.of_runtime rfl rfl le_rfl rfl)

theorem Tracked.reloadSystem (h : Tracked m.point m.world) (site : SiteConfig)
    (systemName systemVersion : String) (source : PluginSource)
    (hproper : (ManagerOperation.reloadSystem site systemName systemVersion source).Proper m) :
    Tracked m.point (reloadSystem site systemName systemVersion source m.world).2 := by
  rcases reloadSystem_cases site systemName systemVersion source m.world with
    heq | ⟨path, hvalid, hrunning, heq⟩
  · rw [heq]
    exact h
  · rw [heq]
    apply Tracked.loadPlugin
    apply h.foldl_remove
    intro p hp hname
    obtain ⟨q, hq, hsame⟩ := List.mem_map.mp hname
    rw [h.distinct.eq_of_uniqueName_eq hp (List.mem_of_mem_filter hq) hsame.symm]
    exact hproper hvalid hrunning q hq

theorem Tracked.scanPluginPath (h : Tracked m.point m.world) {popen : ℕ → Bool} {site : SiteConfig}
    {directories : List (String × PluginSource)}
    (hproper : (ManagerOperation.scanPluginPath popen site directories).Proper m) :
    Queued m.point (loadNewPlugins site (newDirectories directories m.world) m.world).1
      (loadNewPlugins site (newDirectories directories m.world) m.world).2 := by
  refine (loadNewPlugins_queued h site ?_ hproper).1
  intro name hname
  rw [Registry.getPlugin_eq_none_iff]
  rintro p hp rfl
  exact hname (List.mem_map_of_mem hp)

theorem Tracked.manager (h : Tracked m.point m.world) {operation : ManagerOperation} {w : World}
    (hproper : operation.Proper m) (hends : operation.unspawned.Ends m.world w) :
    Tracked m.point w := by
  cases operation with
  | onInstance operation =>
    obtain rfl := hends
    exact h.onInstance operation hproper
  | startPlugin uniqueName popen =>
    obtain ⟨p, hp, rfl⟩ := hends
    exact h.startPlugin (registered_of_getPlugin hp) (hproper p hp)
  | stopPlugin uniqueName shutdown =>
    obtain ⟨p, -, rfl⟩ := hends
    exact h.quiet (quiet_stopPlugin shutdown p m.world)
  | restartPlugin uniqueName popen shutdown =>
    obtain ⟨p, hp, rfl⟩ := hends
    exact h.restartPlugin (registered_of_getPlugin hp) shutdown (hproper p hp)
  | reloadSystem site systemName systemVersion source =>
    obtain rfl := hends
    exact h.reloadSystem site systemName systemVersion source hproper
  | scanPluginPath popen site directories =>
    obtain ⟨fuel, ending, hends, rfl⟩ := hends
    exact (h.scanPluginPath hproper).startMultiplePlugins hends

theorem Tracked.managerPasses (h : Tracked m.point m.world) {operation : ManagerOperation}
    {w : World} (hproper : operation.Proper m) (hpasses : operation.unspawned.Passes m.world w) :
    Tracked m.point w := by
  cases operation with
  | scanPluginPath popen site directories =>
    obtain ⟨queue, st, hreach, rfl⟩ := hpasses
    exact ((h.scanPluginPath hproper).reverse.reaches hreach).tracked
  | _ => exact hpasses.elim

theorem Tracked.ends (h : Tracked m.point m.world) {operation : MachineOperation}
    (hproper : operation.Proper m) (hends : operation.Ends m m') : Tracked m'.point m'.world := by
  cases operation with
  | manager operation =>
    obtain ⟨hends, hpoint⟩ := hends
    exact hpoint ▸ h.manager hproper hends
  | thread event plugin =>
    obtain rfl := hends
    exact h.thread event plugin

theorem Tracked.passes (h : Tracked m.point m.world) {operation : MachineOperation}
    (hproper : operation.Proper m) (hpasses : operation.Passes m m') :
    Tracked m'.point m'.world := by
  cases operation with
  | manager operation =>
    obtain ⟨w, events, hpasses, rfl⟩ := hpasses
    exact Tracked.foldl_thread (m := ⟨w, m.point⟩) (h.managerPasses hproper hpasses) events
  | thread event plugin => exact hpasses.elim

end Operations

section Runs

open MachineOperation

variable {m₀ m : Machine}

theorem tracked_of_seen (h : Runs.Seen Ends Passes Proper m₀ m)
    (h₀ : Tracked m₀.point m₀.world) : Tracked m.point m.world :=
  h.invariant (I := fun m => Tracked m.point m.world) h₀ (fun _ _ _ hm => hm.ends)
    (fun _ _ _ hm => hm.passes)

/-- In a run of proper operations, whenever it is looked at: every live subprocess
is that of the runner registered under its name, no two have one name, stopping all
plugins comes to each of them, and leaves none that `process` shows. -/
theorem liveRegistered_of_seen (h : Runs.Seen Ends Passes Proper m₀ m)
    (h₀ : Tracked m₀.point m₀.world) :
    m.LiveRegistered ∧
      (∀ p ∈ m.world.runners, ∀ q ∈ m.world.runners, m.Live p → m.Live q →
        p.uniqueName = q.uniqueName → p = q) ∧
      (∀ p ∈ m.world.runners, m.Live p → p ∈ m.world.registry.getAllPlugins) ∧
      ∀ shutdown, ∀ p ∈ m.world.runners, ¬ (stopAllPlugins shutdown m.world).Alive p := by
  have htracked := tracked_of_seen h h₀
  have hlive : m.LiveRegistered := fun p hp hp' => htracked.active p hp (.inl hp')
  refine ⟨hlive, ?_, fun p hp hp' => (hlive p hp hp').mem, ?_⟩
  · intro p hp q hq hplive hqlive hname
    exact htracked.eq_of_uniqueName hp (.inl hplive) (hlive q hq hqlive) hname
  · intro shutdown p hp halive
    have hbefore : m.world.Alive p := (quiet_foldl_stopPlugin shutdown _ m.world).alive p halive
    exact not_alive_foldl_stopPlugin shutdown (hlive p hp (.inl hbefore)).mem m.world halive

end Runs

section Examples

def Machine.single (plugin : LocalPluginRunner) (status : Status) : Machine :=
  ⟨.single plugin status .fresh, fun _ => .waiting⟩

theorem tracked_single {plugin : LocalPluginRunner} (haddress : plugin.address = 0)
    (status : Status) :
    Tracked (Machine.single plugin status).point (Machine.single plugin status).world where
  distinct := List.nodup_singleton _
  built _ hp := hp
  allocated p hp := by
    rw [List.mem_singleton.mp hp, haddress]
    exact Nat.zero_lt_one
  eq_of_address p hp q hq _ := (List.mem_singleton.mp hp).trans (List.mem_singleton.mp hq).symm
  unbuilt _ _ := (by decide : ¬ ThreadPoint.waiting.Hides)
  active p hp _ := by
    rw [List.mem_singleton.mp hp]
    simp [World.Registered, Registry.getPlugin, Machine.single, World.single]

/-- `start_plugin` has returned, and the thread has not come to `Popen`. -/
def fooStarted : Machine :=
  ⟨(startPlugin (fun _ => false) (singlePlugin "foo" [])
    (Machine.single (singlePlugin "foo" []) .initializing).world).2, fun _ => .waiting⟩

/-- `Popen` has returned. -/
def Machine.spawned (plugin : LocalPluginRunner) (m : Machine) : Machine :=
  ThreadEvent.assign.apply plugin (ThreadEvent.fork.apply plugin m)

/-- A plugin is started and its subprocess is spawned, and a directory with another
one is scanned. -/
theorem liveRegistered_of_seen_scanned :
    let m₁ := fooStarted.spawned (singlePlugin "foo" [])
    let m : Machine :=
      ⟨(loadNewPlugins localSite [("/plugins/bar", singleSource "bar")] m₁.world).2, m₁.point⟩
    m.LiveRegistered ∧
      (∀ p ∈ m.world.runners, ∀ q ∈ m.world.runners, m.Live p → m.Live q →
        p.uniqueName = q.uniqueName → p = q) ∧
      (∀ p ∈ m.world.runners, m.Live p → p ∈ m.world.registry.getAllPlugins) ∧
      ∀ shutdown, ∀ p ∈ m.world.runners, ¬ (stopAllPlugins shutdown m.world).Alive p := by
  intro m₁ m
  let m₀ := Machine.single (singlePlugin "foo" []) .initializing
  have hstart : Runs.Reachable MachineOperation.Ends MachineOperation.Proper m₀ fooStarted := by
    refine .next (.manager (.startPlugin "foo[default]-1.0" fun _ => false)) .start ?_ ?_
    · intro p hp hdown
      obtain rfl : singlePlugin "foo" [] = p := Option.some.inj hp
      revert hdown
      decide
    · exact ⟨⟨singlePlugin "foo" [], by decide, rfl⟩, rfl⟩
  have hspawn : Runs.Reachable MachineOperation.Ends MachineOperation.Proper m₀ m₁ :=
    .next (.thread .assign (singlePlugin "foo" []))
      (.next (.thread .fork (singlePlugin "foo" [])) hstart trivial rfl) trivial rfl
  have hscan : (MachineOperation.manager (.scanPluginPath (fun _ => false) localSite
      [("/plugins/bar", singleSource "bar")])).Proper m₁ :=
    ⟨fun _ => ⟨by decide, by decide⟩, trivial⟩
  exact liveRegistered_of_seen (.during _ hspawn hscan ⟨m.world, [], ⟨_, _, .start, rfl⟩, rfl⟩)
    (tracked_single rfl .initializing)

/-- Four ways to lose the subprocess of a plugin: its system is reloaded while it is
`STARTING`, it is started again after it has reported `STOPPED`, a second directory
that names it is scanned, and it is restarted before its thread comes to `Popen`. -/
theorem liveRegistered_lost :
    let Run := Runs.Reachable MachineOperation.Ends fun _ _ => True
    let foo := singlePlugin "foo" []
    let m₀ := Machine.single foo .initializing
    let m₁ := fooStarted.spawned foo
    let m₂ : Machine := ⟨(InstanceOperation.reportStopped 0).apply m₁.world, m₁.point⟩
    let shutdown : Shutdown := ⟨true, true, true, false, true⟩
    Tracked m₀.point m₀.world ∧ Run m₀ fooStarted ∧ Run m₀ m₁ ∧ Run m₀ m₂ ∧
      (∃ m, (MachineOperation.manager
          (.reloadSystem localSite "foo" "1.0" (singleSource "foo"))).Ends m₁ m ∧
        Run m₀ m ∧ ¬ m.LiveRegistered) ∧
      (∃ m, (MachineOperation.manager
          (.startPlugin "foo[default]-1.0" fun _ => false)).Ends m₂ m ∧
        Run m₀ m ∧ ¬ m.LiveRegistered) ∧
      (∃ m copy, (MachineOperation.manager (.scanPluginPath (fun _ => false) localSite
          [("/plugins/copy", singleSource "foo")])).Ends m₁ m ∧
        Run m₀ (m.spawned copy) ∧ ¬ (m.spawned copy).LiveRegistered) ∧
      ∃ m, (MachineOperation.manager
          (.restartPlugin "foo[default]-1.0" (fun _ => false) shutdown)).Ends fooStarted m ∧
        Run m₀ (m.spawned foo) ∧ ¬ (m.spawned foo).LiveRegistered := by
  intro Run foo m₀ m₁ m₂ shutdown
  have hspawn : ∀ m p, Run m₀ m → Run m₀ (m.spawned p) := fun m p h =>
    .next (.thread .assign p) (.next (.thread .fork p) h trivial rfl) trivial rfl
  have hstart : Run m₀ fooStarted :=
    .next (.manager (.startPlugin "foo[default]-1.0" fun _ => false)) .start trivial
      ⟨⟨foo, by decide, rfl⟩, rfl⟩
  have hreport : Run m₀ m₂ :=
    .next (.manager (.onInstance (.reportStopped 0))) (hspawn _ foo hstart) trivial ⟨rfl, rfl⟩
  refine ⟨tracked_single rfl _, hstart, hspawn _ foo hstart, hreport, ?_, ?_, ?_, ?_⟩
  · let operation := MachineOperation.manager
      (.reloadSystem localSite "foo" "1.0" (singleSource "foo"))
    have hends : operation.Ends m₁
        ⟨(reloadSystem localSite "foo" "1.0" (singleSource "foo") m₁.world).2, m₁.point⟩ :=
      ⟨rfl, rfl⟩
    exact ⟨_, hends, .next operation (hspawn _ foo hstart) trivial hends, by decide⟩
  · let operation := MachineOperation.manager (.startPlugin "foo[default]-1.0" fun _ => false)
    have hends : operation.Ends m₂
        ⟨(startPlugin (fun _ => false) foo m₂.world).2, m₂.point⟩ :=
      ⟨⟨foo, by decide, rfl⟩, rfl⟩
    exact ⟨_, hends, .next operation hreport trivial hends, by decide⟩
  · let operation := MachineOperation.manager (.scanPluginPath (fun _ => false) localSite
      [("/plugins/copy", singleSource "foo")])
    have hends : ∃ m, operation.Ends m₁ m ∧
        ∃ copy, ¬ (m.spawned copy).LiveRegistered :=
      ⟨⟨_, m₁.point⟩, ⟨⟨1, _, rfl, rfl⟩, rfl⟩, { foo with address := 3 }, by decide⟩
    obtain ⟨m, hends, copy, hlost⟩ := hends
    exact ⟨m, copy, hends,
      hspawn m copy (.next operation (hspawn _ foo hstart) trivial hends), hlost⟩
  · let operation := MachineOperation.manager
      (.restartPlugin "foo[default]-1.0" (fun _ => false) shutdown)
    have hends : operation.Ends fooStarted
        ⟨(restartPlugin (fun _ => false) shutdown foo fooStarted.world).2, fooStarted.point⟩ :=
      ⟨⟨foo, by decide, rfl⟩, rfl⟩
    exact ⟨_, hends, hspawn _ foo (.next operation hstart trivial hends), by decide⟩

end Examples

end Bartender
