import Bartender.Plugins.Lifecycle
import Bartender.Plugins.Loader
import Bartender.Plugins.ScanIdentity
import Bartender.Plugins.Versions

/-!
# Starting up

`_startup` loads the plugin directories, removes the plugins that require what
was not loaded, and starts the others. The systems are stored before anything is
removed, so a removed plugin is still a known name: a plugin that requires it is
neither started nor marked as failed, and the start loop does not come to its
end. Here loading and starting are put together.
-/

namespace Bartender

open Dependencies RotatingQueue

/-- `load_plugins`, on the directories that are found. -/
def loadPlugins (site : SiteConfig) (directories : List (String × PluginSource)) (w : World) :
    World :=
  let loaded := (loadNewPlugins site directories w).2
  { loaded with registry := validatePluginRequirements loaded.registry }

/-- What `_startup` does to the plugins. -/
def startup (popen : ℕ → Bool) (site : SiteConfig) (fuel : ℕ)
    (directories : List (String × PluginSource)) (w : World) :
    Option (Ending (Progress World) StartError) :=
  startAllPlugins popen fuel (loadPlugins site directories w)

/-- The name and version of the system that loading stores. -/
def PluginSource.stores : PluginSource → Option (String × String)
  | .config c none => some (c.name, c.version)
  | .config c (some (.constructor _)) => some (c.name, c.version)
  | _ => none

/-- The instances of the system have the documents that `deep_save` made. -/
def World.Fresh (w : World) (s : System) : Prop :=
  s.instances ≠ [] ∧ ∀ i ∈ s.instances, w.instances i.id = some .fresh

/-- The state in which these directories are still to be loaded: what is stored
will be replaced or is fresh, and no registered plugin was started. -/
structure Orderly (pending : List (String × PluginSource)) (w : World) : Prop where
  tracked : Tracked (fun _ => .ended) w
  keys : SystemKeys w
  allocated : ∀ s ∈ w.systems, ∀ i ∈ s.instances, i.id < w.next
  documents : ∀ s ∈ w.systems, ∀ t ∈ w.systems, ∀ i ∈ s.instances, ∀ j ∈ t.instances,
    i.id = j.id → s = t ∧ i = j
  systems : ∀ s ∈ w.systems, (∃ d ∈ pending, d.2.stores = some (s.name, s.version)) ∨
    (∀ d ∈ pending, d.2.replaces ≠ some (s.name, s.version)) ∧ w.Fresh s
  plugins : ∀ p ∈ w.registry, p.system ∈ w.systems ∧
    (∀ d ∈ pending, d.2.replaces ≠ some (p.system.name, p.system.version)) ∧
    (∃ i ∈ p.system.instances, p.instance? = some i) ∧ w.runtime p.address = .fresh

/-- No two directories declare the same name and version, and each declares an
instance. -/
structure Separate (directories : List (String × PluginSource)) : Prop where
  keys : directories.Pairwise fun d e => ∀ key, d.2.replaces = some key → e.2.replaces ≠ some key
  instances : ∀ d ∈ directories, ∀ config fault, d.2 = .config config fault →
    config.instances ≠ []

theorem replaces_of_stores {source : PluginSource} {key : String × String}
    (h : source.stores = some key) : source.replaces = some key := by
  unfold PluginSource.stores at h
  split at h
  · exact h
  · exact h
  · cases h

section Orderly

variable {w : World} {directory : String × PluginSource} {pending : List (String × PluginSource)}
  {site : SiteConfig} {path : String} {config : PluginConfig}

theorem Orderly.skip (h : Orderly (directory :: pending) w) (hstores : directory.2.stores = none) :
    Orderly pending w where
  tracked := h.tracked
  keys := h.keys
  allocated := h.allocated
  documents := h.documents
  systems s hs := by
    rcases h.systems s hs with ⟨d, hd, hkey⟩ | ⟨hfree, hfresh⟩
    · rcases List.mem_cons.mp hd with rfl | hd
      · rw [hstores] at hkey
        cases hkey
      · exact .inl ⟨d, hd, hkey⟩
    · exact .inr ⟨fun d hd => hfree d (List.mem_cons_of_mem _ hd), hfresh⟩
  plugins p hp := by
    obtain ⟨hsystem, hfree, hrest⟩ := h.plugins p hp
    exact ⟨hsystem, fun d hd => hfree d (List.mem_cons_of_mem _ hd), hrest⟩

theorem Orderly.cleared_eq (h : Orderly (directory :: pending) w)
    (hreplaces : directory.2.replaces = some (config.name, config.version))
    (hstores : directory.2.stores = none)
    (hpending : ∀ d ∈ pending, d.2.replaces ≠ some (config.name, config.version)) :
    w.cleared config = w := by
  unfold World.cleared
  cases hfind : w.findUnique config.name config.version with
  | none => rfl
  | some s =>
    obtain ⟨hs, hkey⟩ := h.keys.findUnique_eq_some.mp hfind
    rcases h.systems s hs with ⟨d, hd, hd'⟩ | ⟨hfree, -⟩
    · rw [hkey] at hd'
      rcases List.mem_cons.mp hd with rfl | hd
      · rw [hstores] at hd'
        cases hd'
      · exact absurd (replaces_of_stores hd') (hpending d hd)
    · rw [hkey] at hfree
      exact absurd hreplaces (hfree directory List.mem_cons_self)

theorem mem_newSystem_instances {i : Instance} :
    i ∈ ((w.cleared config).newSystem config).instances ↔
      ∃ k, ∃ hk : k < config.instances.length, i = ⟨w.next + 1 + k, config.instances[k]⟩ := by
  simp only [World.newSystem, List.mem_mapIdx, cleared_next]
  constructor
  · rintro ⟨k, hk, rfl⟩
    exact ⟨k, hk, rfl⟩
  · rintro ⟨k, hk, rfl⟩
    exact ⟨k, hk, rfl⟩

theorem saved_next (w : World) (config : PluginConfig) :
    (w.saved config).next = w.next + 1 + config.instances.length := by
  show (w.cleared config).next + 1 + (config.instances.mapIdx _).length = _
  rw [cleared_next, List.length_mapIdx]

theorem fresh_newSystem (w : World) (hinstances : config.instances ≠ []) :
    (w.saved config).Fresh ((w.cleared config).newSystem config) := by
  refine ⟨?_, fun i hi => if_pos (List.mem_map_of_mem hi)⟩
  show config.instances.mapIdx _ ≠ []
  rw [ne_eq, List.mapIdx_eq_nil_iff]
  exact hinstances

theorem Orderly.saved (h : Orderly (directory :: pending) w)
    (hreplaces : directory.2.replaces = some (config.name, config.version))
    (hpending : ∀ d ∈ pending, d.2.replaces ≠ some (config.name, config.version))
    (hinstances : config.instances ≠ []) : Orderly pending (w.saved config) := by
  have hnew : ∀ s ∈ (w.saved config).systems,
      s ∈ w.systems ∧ (s.name, s.version) ≠ (config.name, config.version) ∨
        s = (w.cleared config).newSystem config := by
    intro s hs
    rw [saved_systems] at hs
    rcases List.mem_append.mp hs with hs | hs
    · obtain ⟨hs, hne⟩ := List.mem_filter.mp hs
      refine .inl ⟨hs, mt (h.keys.id_eq_newSystem_iff hs).mpr ?_⟩
      simpa using hne
    · exact .inr (List.mem_singleton.mp hs)
  have hbetween : ∀ i ∈ ((w.cleared config).newSystem config).instances,
      w.next < i.id ∧ i.id < (w.saved config).next := by
    intro i hi
    obtain ⟨k, hk, rfl⟩ := mem_newSystem_instances.mp hi
    rw [saved_next]
    dsimp only
    omega
  have hkept : ∀ s ∈ w.systems, (s.name, s.version) ≠ (config.name, config.version) →
      w.Fresh s → (w.saved config).Fresh s := by
    rintro s hs hne ⟨hnonempty, hfresh⟩
    refine ⟨hnonempty, fun i hi => ?_⟩
    rw [(rewrites_saved h.keys).kept i.id (h.allocated s hs i hi) ?_]
    · exact hfresh i hi
    · rintro t name version hkey hfind hmem
      obtain ⟨ht, htkey⟩ := h.keys.findUnique_eq_some.mp hfind
      obtain ⟨j, hj, hid⟩ := List.mem_map.mp hmem
      obtain ⟨rfl, -⟩ := h.documents s hs t ht i hi j hj hid.symm
      exact hne (htkey.trans (Option.some.inj hkey).symm)
  refine ⟨h.tracked.quiet (quiet_saved w config), systemKeys_saved h.keys, ?_, ?_, ?_, ?_⟩
  · intro s hs i hi
    rcases hnew s hs with ⟨hs, -⟩ | rfl
    · exact (h.allocated s hs i hi).trans (next_lt_saved_next w config)
    · exact (hbetween i hi).2
  · intro s hs t ht i hi j hj hid
    rcases hnew s hs with ⟨hs, -⟩ | rfl <;> rcases hnew t ht with ⟨ht, -⟩ | rfl
    · exact h.documents s hs t ht i hi j hj hid
    · have hlt := (h.allocated s hs i hi).trans (hbetween j hj).1
      exact absurd hid hlt.ne
    · have hlt := (h.allocated t ht j hj).trans (hbetween i hi).1
      exact absurd hid hlt.ne'
    · obtain ⟨k, hk, rfl⟩ := mem_newSystem_instances.mp hi
      obtain ⟨l, hl, rfl⟩ := mem_newSystem_instances.mp hj
      obtain rfl : k = l := by
        dsimp only at hid
        omega
      exact ⟨rfl, rfl⟩
  · intro s hs
    rcases hnew s hs with ⟨hs, hne⟩ | rfl
    · rcases h.systems s hs with ⟨d, hd, hkey⟩ | ⟨hfree, hfresh⟩
      · rcases List.mem_cons.mp hd with rfl | hd
        · have hsame := (replaces_of_stores hkey).symm.trans hreplaces
          exact absurd (Option.some.inj hsame) hne
        · exact .inl ⟨d, hd, hkey⟩
      · exact .inr ⟨fun d hd => hfree d (List.mem_cons_of_mem _ hd), hkept s hs hne hfresh⟩
    · exact .inr ⟨hpending, fresh_newSystem w hinstances⟩
  · intro p hp
    rw [(quiet_saved w config).registry] at hp
    obtain ⟨hsystem, hfree, hinstance, hruntime⟩ := h.plugins p hp
    refine ⟨?_, fun d hd => hfree d (List.mem_cons_of_mem _ hd), hinstance, ?_⟩
    · refine (rewrites_saved h.keys).stored p.system hsystem fun hsame => ?_
      exact hfree directory List.mem_cons_self (hreplaces.trans hsame)
    · unfold World.saved World.cleared
      cases w.findUnique config.name config.version <;> exact hruntime

theorem Orderly.buildAndRegister {system : System} {instanceName : String}
    (h : Orderly pending w) (hsystem : system ∈ w.systems)
    (hpending : ∀ d ∈ pending, d.2.replaces ≠ some (system.name, system.version))
    (hname : ∃ i ∈ system.instances, i.name = instanceName) :
    Orderly pending
      (w.buildAndRegister (configuredRunner site path config system instanceName)) := by
  have hloads := h.tracked.loads_buildAndRegister
    (configuredRunner site path config system instanceName) rfl
  refine ⟨hloads.tracked, ⟨?_, h.keys.ids, h.keys.keys⟩, ?_, h.documents, h.systems, ?_⟩
  · exact fun s hs => (h.keys.allocated s hs).trans (Nat.lt_succ_self _)
  · exact fun s hs i hi => (h.allocated s hs i hi).trans (Nat.lt_succ_self _)
  · intro p hp
    change _ ∧ _ ∧ _ ∧ Function.update w.runtime w.next .fresh p.address = .fresh
    rcases Registry.mem_registerPlugin hp with hp | rfl
    · obtain ⟨hsystem, hfree, hinstance, hruntime⟩ := h.plugins p hp
      have hne : p.address ≠ w.next := (h.tracked.allocated p (h.tracked.built p hp)).ne
      rw [Function.update_of_ne hne]
      exact ⟨hsystem, hfree, hinstance, hruntime⟩
    · refine ⟨hsystem, hpending, ?_, Function.update_self ..⟩
      obtain ⟨i, hi, hi'⟩ := hname
      have hsome : (system.instances.find? fun i => i.name == instanceName).isSome = true :=
        List.find?_isSome.mpr ⟨i, hi, by simpa using hi'⟩
      obtain ⟨j, hj⟩ := Option.isSome_iff_exists.mp hsome
      exact ⟨j, List.mem_of_find?_eq_some hj, hj⟩

theorem Orderly.registerInstances {system : System} {instances : List String}
    (h : Orderly pending w) (hsystem : system ∈ w.systems)
    (hpending : ∀ d ∈ pending, d.2.replaces ≠ some (system.name, system.version))
    (hnames : ∀ name ∈ instances, ∃ i ∈ system.instances, i.name = name) :
    Orderly pending (registerInstances site path config system instances w).2 := by
  induction instances generalizing w with
  | nil => exact h
  | cons instanceName rest ih =>
    rw [registerInstances_cons]
    refine ih (h.buildAndRegister hsystem hpending (hnames instanceName List.mem_cons_self))
      hsystem fun name hname => hnames name (List.mem_cons_of_mem _ hname)

theorem Orderly.install (h : Orderly (directory :: pending) w) {instances : List String}
    (hreplaces : directory.2.replaces = some (config.name, config.version))
    (hpending : ∀ d ∈ pending, d.2.replaces ≠ some (config.name, config.version))
    (hinstances : config.instances ≠ []) (hsub : ∀ name ∈ instances, name ∈ config.instances) :
    Orderly pending (Bartender.registerInstances site path config
      ((w.cleared config).newSystem config) instances (w.saved config)).2 := by
  refine (h.saved hreplaces hpending hinstances).registerInstances ?_ hpending fun name hname => ?_
  · rw [saved_systems]
    exact List.mem_append_right _ (List.mem_singleton.mpr rfl)
  · obtain ⟨k, hk, rfl⟩ := List.getElem_of_mem (hsub name hname)
    exact ⟨⟨w.next + 1 + k, config.instances[k]⟩, mem_newSystem_instances.mpr ⟨k, hk, rfl⟩, rfl⟩

theorem Orderly.loadPlugin {source : PluginSource} (h : Orderly ((path, source) :: pending) w)
    (hseparate : Separate ((path, source) :: pending)) :
    Orderly pending (loadPlugin site path source w).2 := by
  have hkeys := (List.pairwise_cons.mp hseparate.keys).1
  cases source with
  | invalid => exact h.skip rfl
  | unloadable => exact h.skip rfl
  | config config fault =>
    have hinstances : config.instances ≠ [] :=
      hseparate.instances _ List.mem_cons_self config fault rfl
    have hpending : PluginSource.replaces (.config config fault) =
        some (config.name, config.version) →
        ∀ d ∈ pending, d.2.replaces ≠ some (config.name, config.version) :=
      fun hreplaces d hd => hkeys d hd _ hreplaces
    cases fault with
    | none => exact h.install rfl (hpending rfl) hinstances fun name hname => hname
    | some fault =>
      cases fault with
      | findUnique => exact h.skip rfl
      | deleteInstances => exact h.skip rfl
      | deepSave =>
        show Orderly pending (w.cleared config)
        rw [h.cleared_eq rfl rfl (hpending rfl)]
        exact h.skip rfl
      | constructor built =>
        exact h.install rfl (hpending rfl) hinstances fun name hname => List.mem_of_mem_take hname

theorem Separate.tail (h : Separate (directory :: pending)) : Separate pending where
  keys := (List.pairwise_cons.mp h.keys).2
  instances d hd := h.instances d (List.mem_cons_of_mem _ hd)

theorem Orderly.loadNewPlugins (h : Orderly pending w) (hseparate : Separate pending) :
    Orderly [] (loadNewPlugins site pending w).2 := by
  induction pending generalizing w with
  | nil => exact h
  | cons directory rest ih =>
    obtain ⟨path, source⟩ := directory
    rw [loadNewPlugins_cons_world]
    exact ih (h.loadPlugin hseparate) hseparate.tail

def Unstarted (w : World) (p : LocalPluginRunner) : Prop :=
  w.runtime p.address = .fresh ∧ w.Stored p .initializing

/-- The runner was started once, and its subprocess is there unless `Popen` raised. -/
def Launched (popen : ℕ → Bool) (w : World) (p : LocalPluginRunner) : Prop :=
  w.runtime p.address = ⟨1, false, if popen p.address then .alive else .absent⟩ ∧
    w.Stored p .starting

/-- Two runners that have neither the object nor the document in common. -/
def Apart (p q : LocalPluginRunner) : Prop :=
  p.address ≠ q.address ∧ ∀ i ∈ p.instance?, ∀ j ∈ q.instance?, i.id ≠ j.id

theorem Orderly.unstarted (h : Orderly [] w) {p : LocalPluginRunner} (hp : p ∈ w.registry) :
    Unstarted w p := by
  obtain ⟨hsystem, -, ⟨i, hi, hinstance⟩, hruntime⟩ := h.plugins p hp
  have hfresh : w.Fresh p.system := by
    rcases h.systems p.system hsystem with ⟨d, hd, -⟩ | ⟨-, hfresh⟩
    · exact absurd hd List.not_mem_nil
    · exact hfresh
  exact ⟨hruntime, i, .fresh, hinstance, hfresh.2 i hi, rfl⟩

theorem Orderly.apart (h : Orderly [] w) {p q : LocalPluginRunner} (hp : p ∈ w.registry)
    (hq : q ∈ w.registry) (hne : p ≠ q) : Apart p q := by
  refine ⟨fun haddress => hne ?_, fun i hi j hj hid => hne ?_⟩
  · exact h.tracked.eq_of_address p (h.tracked.built p hp) q (h.tracked.built q hq) haddress
  · obtain ⟨hpsystem, -, ⟨i', hi', hpinstance⟩, -⟩ := h.plugins p hp
    obtain ⟨hqsystem, -, ⟨j', hj', hqinstance⟩, -⟩ := h.plugins q hq
    obtain rfl : i' = i := Option.some.inj (hpinstance.symm.trans hi)
    obtain rfl : j' = j := Option.some.inj (hqinstance.symm.trans hj)
    obtain ⟨hsystem, rfl⟩ := h.documents _ hpsystem _ hqsystem i' hi' j' hj' hid
    -- A runner's instance has the instance name of the runner.
    have hpname : i'.name = p.instanceName := by simpa using List.find?_some hpinstance
    have hqname : i'.name = q.instanceName := by simpa using List.find?_some hqinstance
    refine h.tracked.distinct.eq_of_uniqueName_eq hp hq ?_
    unfold LocalPluginRunner.uniqueName
    rw [hsystem, ← hpname, hqname]

theorem Orderly.storedSystems (h : Orderly [] w) {s : StoredSystem} (hs : s ∈ w.storedSystems) :
    s.instances ≠ [] ∧ ∀ i ∈ s.instances, i.2 = .initializing := by
  obtain ⟨system, hsystem, rfl⟩ := List.mem_map.mp hs
  rcases h.systems system hsystem with ⟨d, hd, -⟩ | ⟨-, hnonempty, hfresh⟩
  · exact absurd hd List.not_mem_nil
  · refine ⟨by simpa using hnonempty, fun i hi => ?_⟩
    obtain ⟨j, hj, rfl⟩ := List.mem_map.mp hi
    dsimp only
    rw [hfresh j hj]
    rfl

theorem Orderly.snapshot (h : Orderly [] w) :
    getFailedSystemNames w.storedSystems = [] ∧ getRunningSystemNames w.storedSystems = [] := by
  have hnone : ∀ status : Status, status ≠ .initializing →
      w.storedSystems.filter (fun s => s.instances.all fun i => i.2 == status) = [] := by
    intro status hne
    rw [List.filter_eq_nil_iff]
    intro s hs hall
    obtain ⟨hnonempty, hinitializing⟩ := h.storedSystems hs
    obtain ⟨i, hi⟩ := List.exists_mem_of_ne_nil _ hnonempty
    have hstatus : i.2 = status := by simpa using List.all_eq_true.mp hall i hi
    exact hne (hstatus.symm.trans (hinitializing i hi))
  unfold getFailedSystemNames getRunningSystemNames
  rw [hnone .dead (by decide), hnone .running (by decide)]
  exact ⟨rfl, rfl⟩

theorem Orderly.known (h : Orderly [] w) {p : LocalPluginRunner} (hp : p ∈ w.registry) :
    p.system.name ∈ getAllSystemNames w.storedSystems := by
  unfold getAllSystemNames World.storedSystems
  rw [List.map_map]
  exact List.mem_map_of_mem (f := fun s : System => s.name) (h.plugins p hp).1

end Orderly

def calmEffects : Effects Unit StartError where
  startPlugin _ world := (.ok true, world)
  markAsFailed _ world := (.ok (), world)

def Progress.calm (st : Progress World) : Progress Unit :=
  ⟨st.failedSystemNames, st.startedPluginNames, st.calls, ()⟩

theorem calmEffects_returns : calmEffects.Returns :=
  ⟨fun _ _ => ⟨true, rfl⟩, fun _ _ => rfl⟩

section Starting

variable {popen : ℕ → Bool} {w : World} {p q : LocalPluginRunner}

theorem stored_setStatus_of_apart (hapart : Apart p q) (status : Status) {status' : Status}
    (h : w.Stored q status') : (w.setStatus p status).Stored q status' := by
  obtain ⟨j, document, hj, hdocument, hstatus⟩ := h
  refine ⟨j, document, hj, ?_, hstatus⟩
  unfold World.setStatus
  cases hi : p.instance? with
  | none => exact hdocument
  | some i =>
    have hne : j.id ≠ i.id := (hapart.2 i hi j hj).symm
    dsimp only [World.setInstanceStatus]
    split
    · exact (Function.update_of_ne hne ..).trans hdocument
    · exact hdocument

/-- The call of `start_plugin` for a runner that was not started yet, which
leaves the runners alone that are apart. -/
theorem startPlugin_unstarted (popen : ℕ → Bool) (h : Unstarted w p) :
    ∃ w', startPlugin popen p w = (.ok true, w') ∧ w'.registry = w.registry ∧
      Launched popen w' p ∧ ∀ q, Apart p q →
        w'.runtime q.address = w.runtime q.address ∧
        ∀ status, w.Stored q status → w'.Stored q status := by
  obtain ⟨hruntime, hstored⟩ := h
  let w' := (w.setStatus p .starting).start p (popen p.address)
  have hstart : startPlugin popen p w = (.ok true, w') := by
    unfold startPlugin
    rw [hstored.status_eq]
    refine if_pos ?_
    rw [World.setStatus_runtime, hruntime]
    rfl
  refine ⟨w', hstart, World.setStatus_registry .starting, ⟨?_, ?_⟩, ?_⟩
  · show (World.setRuntime _ p _).runtime p.address = _
    rw [World.setRuntime_runtime_self, World.setStatus_runtime, hruntime]
    simp [Runtime.fresh]
  · exact hstored.setStatus .starting
  · intro q hapart
    refine ⟨?_, fun status hq => stored_setStatus_of_apart hapart .starting hq⟩
    show (World.setRuntime _ p _).runtime q.address = _
    rw [World.setRuntime_runtime_of_ne _ hapart.1.symm, World.setStatus_runtime]

/-- A configuration of the start loop: what left the queue was launched, and
nothing has failed. -/
structure Launching (popen : ℕ → Bool) (registry : Registry) (queue : List LocalPluginRunner)
    (st : Progress World) : Prop where
  kept : st.world.registry = registry
  failed : st.failedSystemNames = []
  listed : ∀ p ∈ queue, p ∈ registry
  nodup : queue.Nodup
  waiting : ∀ p ∈ queue, Unstarted st.world p
  launched : ∀ p ∈ registry, p ∉ queue → Launched popen st.world p

variable {registry : Registry} {queue : List LocalPluginRunner} {st st' : Progress World}
  {systemNames : List String}

theorem Launching.rotate (h : Launching popen registry (p :: queue) st) :
    Launching popen registry (queue ++ [p]) st where
  kept := h.kept
  failed := h.failed
  listed q hq := h.listed q (by simpa [or_comm] using hq)
  nodup := (List.perm_append_singleton p queue).nodup_iff.mpr h.nodup
  waiting q hq := h.waiting q (by simpa [or_comm] using hq)
  launched q hq hnot := h.launched q hq (by simpa [or_comm] using hnot)

theorem Launching.not_blocked (h : Launching popen registry (p :: queue) st)
    (hknown : ∀ p ∈ registry, ∀ r ∈ p.requirements, r ∈ systemNames) :
    ¬ st.Blocked systemNames p := by
  rintro ⟨pre, r, post, hreq, -, hmissing | hfailed⟩
  · exact hmissing (hknown p (h.listed p List.mem_cons_self) r (by simp [hreq]))
  · rw [h.failed] at hfailed
    exact List.not_mem_nil hfailed

theorem Launching.settle (h : Launching popen registry (p :: queue) st)
    (hknown : ∀ p ∈ registry, ∀ r ∈ p.requirements, r ∈ systemNames)
    (hapart : ∀ p ∈ registry, ∀ q ∈ registry, p ≠ q → Apart p q)
    (hvisit : visitPlugin (worldEffects popen) systemNames st p = .settle st') :
    Launching popen registry queue st' := by
  obtain ⟨hnot, hnodup⟩ := List.nodup_cons.mp h.nodup
  have hp : p ∈ registry := h.listed p List.mem_cons_self
  obtain ⟨w', hstart, hregistry, hlaunched, hothers⟩ :=
    startPlugin_unstarted popen (h.waiting p List.mem_cons_self)
  rcases visitPlugin_eq_settle _ _ hvisit with ⟨result, world, -, hcall, rfl⟩ | ⟨-, hblocked, -, -⟩
  · obtain ⟨hresult, rfl⟩ := Prod.mk.inj (hstart.symm.trans hcall)
    obtain rfl := Except.ok.inj hresult
    refine ⟨hregistry.trans h.kept, h.failed, ?_, hnodup, ?_, ?_⟩
    · exact fun q hq => h.listed q (List.mem_cons_of_mem _ hq)
    · intro q hq
      have hne : p ≠ q := fun heq => hnot (heq ▸ hq)
      obtain ⟨hruntime, hstored⟩ :=
        hothers q (hapart p hp q (h.listed q (List.mem_cons_of_mem _ hq)) hne)
      obtain ⟨hruntime', hstored'⟩ := h.waiting q (List.mem_cons_of_mem _ hq)
      exact ⟨hruntime.trans hruntime', hstored _ hstored'⟩
    · intro q hq hout
      by_cases heq : p = q
      · exact heq ▸ hlaunched
      · obtain ⟨hruntime, hstored⟩ := hothers q (hapart p hp q hq heq)
        obtain ⟨hruntime', hstored'⟩ :=
          h.launched q hq (List.not_mem_cons_of_ne_of_not_mem (Ne.symm heq) hout)
        exact ⟨hruntime.trans hruntime', hstored _ hstored'⟩
  · exact absurd hblocked (h.not_blocked hknown)

theorem Launching.visit_calm (h : Launching popen registry (p :: queue) st)
    (hknown : ∀ p ∈ registry, ∀ r ∈ p.requirements, r ∈ systemNames) :
    visitPlugin calmEffects systemNames st.calm p =
      (visitPlugin (worldEffects popen) systemNames st p).map Progress.calm := by
  obtain ⟨w', hstart, -⟩ := startPlugin_unstarted popen (h.waiting p List.mem_cons_self)
  have hattempt : attemptToStart calmEffects st.calm p =
      (attemptToStart (worldEffects popen) st p).map Progress.calm := by
    unfold attemptToStart
    rw [show (worldEffects popen).startPlugin p st.world = _ from hstart]
    rfl
  rcases checkRequirements_cases systemNames st.failedSystemNames st.startedPluginNames
    p.requirements with ⟨hcheck, -⟩ | ⟨pre, r, post, hreq, hpre, hstop⟩
  · have hcheck' : checkRequirements systemNames st.calm.failedSystemNames
        st.calm.startedPluginNames p.requirements = .attemptToStart := hcheck
    simp only [visitPlugin, hcheck, hcheck', hattempt]
  · rcases hstop with ⟨-, hbad⟩ | ⟨-, hbad⟩ | ⟨hcheck, -⟩
    · exact absurd ⟨pre, r, post, hreq, hpre, .inl hbad⟩ (h.not_blocked hknown)
    · exact absurd ⟨pre, r, post, hreq, hpre, .inr hbad⟩ (h.not_blocked hknown)
    · have hcheck' : checkRequirements systemNames st.calm.failedSystemNames
          st.calm.startedPluginNames p.requirements = .yetToBeStarted r := hcheck
      simp only [visitPlugin, hcheck, hcheck', Verdict.map]

end Starting

/-- The problem that the requirements pose where every name is known and none has
failed or is running. -/
def Registry.problem (registry : Registry) : Problem LocalPluginRunner String where
  items := registry
  name p := p.system.name
  requires p := p.requirements
  known _ := True
  failed _ := False
  running _ := False

section Outcome

variable {popen : ℕ → Bool} {site : SiteConfig} {directories : List (String × PluginSource)}
  {w : World} {snap : Snapshot} {registry : Registry}

/-- What the loop finds when nothing has failed or is running and all that the
plugins require is known. -/
structure Clean (snap : Snapshot) (registry : Registry) : Prop where
  failed : snap.failedSystemNames = []
  running : snap.runningSystemNames = []
  known : ∀ p ∈ registry, ∀ r ∈ p.requirements, r ∈ snap.systemNames

theorem Clean.canStart_iff (h : Clean snap registry) {p : LocalPluginRunner} (hp : p ∈ registry) :
    CanStart (snap.problem registry) p ↔ CanStart registry.problem p := by
  have hfailed : ∀ r, r ∉ snap.failedSystemNames := by simp [h.failed]
  have hrunning : ∀ r, r ∉ snap.runningSystemNames := by simp [h.running]
  constructor
  · intro hstart
    induction hstart with
    | intro provider sound provides starts ih =>
      refine .intro provider (fun _ _ => ⟨trivial, id⟩) (fun r hr _ => ?_) fun r hr _ => ?_
      · exact provides r hr (hrunning r)
      · exact ih r hr (hrunning r) (provides r hr (hrunning r)).1
  · intro hstart
    induction hstart with
    | @intro p provider sound provides starts ih =>
      refine .intro provider (fun r hr => ⟨h.known p hp r hr, hfailed r⟩) (fun r hr _ => ?_)
        fun r hr _ => ?_
      · exact provides r hr id
      · exact ih r hr id (provides r hr id).1

theorem Clean.not_doomed (h : Clean snap registry) {p : LocalPluginRunner} (hp : p ∈ registry) :
    ¬ Doomed (snap.problem registry) p := by
  intro hdoomed
  induction hdoomed with
  | @snapshot p pre r post hreq _ hbad =>
    have hr : r ∈ p.requirements := by
      rw [show p.requirements = pre ++ r :: post from hreq]
      simp
    rcases hbad with hmissing | hfailed
    · exact hmissing (h.known p hp r hr)
    · simp [Snapshot.problem, h.failed] at hfailed
  | cascade _ _ hb _ _ ih => exact ih hb

theorem Clean.loopEnds_iff (h : Clean snap registry) :
    LoopEnds calmEffects snap registry () ↔ ∀ p ∈ registry, CanStart registry.problem p := by
  have hunmixed : Unmixed snap registry := fun p hp hdoomed => absurd hdoomed (h.not_doomed hp)
  constructor
  · intro hends p hp
    rw [← h.canStart_iff hp]
    by_contra hnot
    exact not_loopEnds_of_unmixed calmEffects_returns (fun _ _ => rfl) hunmixed hp
      (not_or.mpr ⟨hnot, h.not_doomed hp⟩) () hends
  · intro hall
    exact loopEnds_of_decided calmEffects_returns
      (fun p hp => .inl ((h.canStart_iff hp).mpr (hall p hp))) (.refl registry) ()

/-- `start_all_plugins` is called on this. -/
structure Prepared (w : World) : Prop where
  clean : Clean (.read w.storedSystems w.storedSystems w.storedSystems) w.registry
  nodup : w.registry.Nodup
  apart : ∀ p ∈ w.registry, ∀ q ∈ w.registry, p ≠ q → Apart p q
  unstarted : ∀ p ∈ w.registry, Unstarted w p

theorem validatePluginRequirements_sublist (h : registry.Distinct) :
    (validatePluginRequirements registry).Sublist registry := by
  have hfold : validatePluginRequirements registry =
      ((pluginsToRemove registry).map LocalPluginRunner.uniqueName).foldl Registry.remove
        registry := by
    rw [List.foldl_map]
    rfl
  rw [hfold, h.foldl_remove]
  exact List.filter_sublist

theorem Orderly.prepared (h : Orderly directories w) (hseparate : Separate directories) :
    Prepared (loadPlugins site directories w) := by
  have hloaded : Orderly [] (Bartender.loadNewPlugins site directories w).2 :=
    h.loadNewPlugins hseparate
  have hsub : (loadPlugins site directories w).registry.Sublist
      (Bartender.loadNewPlugins site directories w).2.registry :=
    validatePluginRequirements_sublist hloaded.tracked.distinct
  refine ⟨⟨hloaded.snapshot.1, hloaded.snapshot.2, fun p hp r hr => ?_⟩, ?_, fun p hp q hq => ?_,
    fun p hp => hloaded.unstarted (hsub.subset hp)⟩
  · obtain ⟨-, hall⟩ := (mem_validatePluginRequirements hloaded.tracked.distinct).mp hp
    obtain ⟨q, hq, rfl⟩ := hall r hr
    exact hloaded.known hq
  · exact List.Nodup.of_map _ (hloaded.tracked.distinct.sublist hsub)
  · exact hloaded.apart (hsub.subset hp) (hsub.subset hq)

theorem Prepared.launching (h : Prepared w) (popen : ℕ → Bool) :
    Launching popen w.registry w.registry.reverse
      ((Snapshot.read w.storedSystems w.storedSystems w.storedSystems).progress w) where
  kept := rfl
  failed := h.clean.failed
  listed _ hp := List.mem_reverse.mp hp
  nodup := List.nodup_reverse.mpr h.nodup
  waiting p hp := h.unstarted p (List.mem_reverse.mp hp)
  launched _ hp hnot := absurd (List.mem_reverse.mpr hp) hnot

theorem Prepared.startAllPlugins_calm (h : Prepared w) (popen : ℕ → Bool) (fuel : ℕ) :
    startMultiplePlugins calmEffects
        (.read w.storedSystems w.storedSystems w.storedSystems) fuel w.registry () =
      (startAllPlugins popen fuel w).map (Ending.map Progress.calm) := by
  unfold startAllPlugins
  rw [startMultiplePlugins_eq_run]
  dsimp only
  rw [startMultiplePlugins_eq_run]
  exact run_map_of_invariant (I := Launching popen w.registry)
    (fun p queue st hI => hI.visit_calm h.clean.known)
    (fun p queue st st' hI hv => hI.settle h.clean.known h.apart hv)
    (fun p queue st hI _ => hI.rotate) fuel (h.launching popen)

theorem Prepared.finished (h : Prepared w) {fuel : ℕ} {ending : Ending (Progress World) StartError}
    (hends : startAllPlugins popen fuel w = some ending) :
    ∃ st, ending = .finished st ∧ Launching popen w.registry [] st := by
  have hcalm := h.startAllPlugins_calm popen fuel
  rw [hends, startMultiplePlugins_eq_run] at hcalm
  obtain ⟨st, hst⟩ :=
    finished_of_never_aborts (visitPlugin_ne_abort calmEffects_returns _) hcalm
  cases ending with
  | aborted e st => cases hst
  | finished st =>
    unfold startAllPlugins at hends
    dsimp only at hends
    rw [startMultiplePlugins_eq_run] at hends
    exact ⟨st, rfl, (reaches_of_finished hends).invariant (h.launching popen)
      (fun p queue st st' hI hv => hI.settle h.clean.known h.apart hv)
      fun p queue st hI _ => hI.rotate⟩

theorem Prepared.ends_iff (h : Prepared w) :
    (∃ fuel ending, startAllPlugins popen fuel w = some ending) ↔
      ∀ p ∈ w.registry, CanStart (Registry.problem w.registry) p := by
  rw [← h.clean.loopEnds_iff]
  constructor
  · rintro ⟨fuel, ending, hends⟩
    obtain ⟨st, rfl, -⟩ := h.finished hends
    refine ⟨fuel, st.calm, ?_⟩
    rw [h.startAllPlugins_calm popen, hends]
    rfl
  · rintro ⟨fuel, st, hends⟩
    rw [h.startAllPlugins_calm popen] at hends
    obtain ⟨ending, hending, -⟩ := Option.map_eq_some_iff.mp hends
    exact ⟨fuel, ending, hending⟩

/-- Whatever the directories hold, up to what `Separate` says: starting up comes to
its end exactly when all plugins that the validation has left can start one after
the other. Then none of them is marked as failed, and all of them were started;
nothing but `Popen` itself keeps one from having a subprocess. -/
theorem startup_ends_iff (popen : ℕ → Bool) (site : SiteConfig)
    {directories : List (String × PluginSource)} {w : World} (h : Orderly directories w)
    (hseparate : Separate directories) :
    let registry := (loadPlugins site directories w).registry
    ((∃ fuel ending, startup popen site fuel directories w = some ending) ↔
      ∀ p ∈ registry, CanStart (Registry.problem registry) p) ∧
    ∀ fuel ending, startup popen site fuel directories w = some ending →
      ending.state.world.registry = registry ∧ ending.state.failedSystemNames = [] ∧
        ∀ p ∈ registry, Launched popen ending.state.world p := by
  intro registry
  have hprepared : Prepared (loadPlugins site directories w) := h.prepared hseparate
  refine ⟨hprepared.ends_iff, fun fuel ending hends => ?_⟩
  obtain ⟨st, rfl, hst⟩ := hprepared.finished hends
  exact ⟨hst.kept, hst.failed, fun p hp => hst.launched p hp List.not_mem_nil⟩

theorem orderly_empty (directories : List (String × PluginSource)) :
    Orderly directories .empty where
  tracked := by
    refine ⟨List.nodup_nil, ?_, ?_, ?_, fun _ _ => (by decide : ¬ ThreadPoint.ended.Hides), ?_⟩ <;>
      exact fun _ h => absurd h List.not_mem_nil
  keys := ⟨fun _ h => absurd h List.not_mem_nil, List.nodup_nil, List.nodup_nil⟩
  allocated _ h := absurd h List.not_mem_nil
  documents _ h := absurd h List.not_mem_nil
  systems _ h := absurd h List.not_mem_nil
  plugins _ h := absurd h List.not_mem_nil

/-- `web` requires `db`, and is loaded first. -/
def webAndDb : List (String × PluginSource) :=
  [("/plugins/web", .config ⟨"web", "1.0", "main.py", ["default"], [], [], ["db"], logInfo⟩ none),
    ("/plugins/db", singleSource "db")]

theorem startup_ends_iff_pair :
    ∃ ending, startup (fun _ => true) localSite 2 webAndDb .empty = some ending ∧
      ending.state.world.registry.length = 2 ∧
      ∀ p ∈ (loadPlugins localSite webAndDb .empty).registry,
        Launched (fun _ => true) ending.state.world p := by
  have hseparate : Separate webAndDb := by
    refine ⟨?_, ?_⟩
    · simp [webAndDb, singleSource, PluginSource.replaces]
    · simp [webAndDb, singleSource]
  refine ⟨_, rfl, rfl, ?_⟩
  exact ((startup_ends_iff (fun _ => true) localSite (orderly_empty webAndDb) hseparate).2 2 _
    rfl).2.2

end Outcome

end Bartender
