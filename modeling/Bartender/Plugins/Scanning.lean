import Bartender.Plugins.Tracking

/-!
# Loading directories and starting what they hold

Loading a directory builds runners and registers those whose unique name is
free; the others are returned all the same. A scan starts every runner that it
loaded, so it keeps to registered runners when no name was taken.
-/

namespace Bartender

namespace PluginSource

/-- The unique names of the runners that loading builds. -/
def built : PluginSource → List String
  | .config c none => c.instances.map (getUniqueName c.name c.version)
  | .config c (some (.constructor count)) =>
    (c.instances.take count).map (getUniqueName c.name c.version)
  | _ => []

/-- The name and version of which `load_plugin` deletes the instances. -/
def replaces : PluginSource → Option (String × String)
  | .config c fault =>
    if fault = some .findUnique ∨ fault = some .deleteInstances then none
    else some (c.name, c.version)
  | _ => none

/-- `load_plugin` returns the runners that it builds. -/
def Returns : PluginSource → Prop
  | .config _ none => True
  | _ => False

instance : DecidablePred Returns
  | .config _ none => inferInstanceAs (Decidable True)
  | .config _ (some _) => inferInstanceAs (Decidable False)
  | .invalid => inferInstanceAs (Decidable False)
  | .unloadable => inferInstanceAs (Decidable False)

end PluginSource

variable {point : ℕ → ThreadPoint}

/-- Loading runners of these names: no subprocess is lost, nothing is started, and
no other name is taken. -/
structure Loads (point : ℕ → ThreadPoint) (names : List String) (w w' : World) : Prop where
  tracked : Tracked point w'
  kept : ∀ p, w.Idle point p → w'.Idle point p
  free : ∀ name ∉ names, w.registry.getPlugin name = none → w'.registry.getPlugin name = none

section Loading

variable {w w' w'' : World} {names names' : List String}

theorem Loads.trans (h : Loads point names w w') (h' : Loads point names' w' w'') :
    Loads point (names ++ names') w w'' where
  tracked := h'.tracked
  kept p hp := h'.kept p (h.kept p hp)
  free name hname hfree := by
    rw [List.mem_append, not_or] at hname
    exact h'.free name hname.2 (h.free name hname.1 hfree)

theorem Tracked.loads_of_quiet (h : Tracked point w) (hquiet : Quiet w w') :
    Loads point [] w w' where
  tracked := h.quiet hquiet
  kept _ hp := hp.quiet hquiet
  free _ _ hfree := hquiet.registry ▸ hfree

def World.buildAndRegister (w : World) (build : ℕ → LocalPluginRunner) : World :=
  { (w.addRunner build).1 with registry := w.registry.registerPlugin (build w.next) }

theorem Tracked.loads_buildAndRegister (h : Tracked point w) (build : ℕ → LocalPluginRunner)
    (hbuild : (build w.next).address = w.next) :
    Loads point [(build w.next).uniqueName] w (w.buildAndRegister build) where
  tracked := (h.addRunner build hbuild).registerPlugin
    (List.mem_append_right _ (List.mem_singleton.mpr rfl))
  kept p hp := by
    refine ⟨Registry.getPlugin_registerPlugin_of_some hp.1, fun hactive => hp.2 ?_⟩
    exact (addRunner_active_iff build (h.address_ne_next (h.mem_runners hp.1))).mp hactive
  free name hname hfree := by
    rw [List.mem_singleton] at hname
    exact (Registry.getPlugin_registerPlugin_of_ne hname).trans hfree

theorem Tracked.idle_buildAndRegister (h : Tracked point w) (build : ℕ → LocalPluginRunner)
    (hbuild : (build w.next).address = w.next)
    (hfree : w.registry.getPlugin (build w.next).uniqueName = none) :
    (w.buildAndRegister build).Idle point (build w.next) := by
  refine ⟨?_, h.addRunner_not_active build hbuild⟩
  unfold World.Registered World.buildAndRegister
  rw [Registry.registerPlugin_of_none hfree]
  exact Registry.getPlugin_append_of_none hfree

variable (site : SiteConfig) (path : String) (config : PluginConfig) (system : System)

theorem registerInstances_cons (instanceName : String) (rest : List String) (w : World) :
    registerInstances site path config system (instanceName :: rest) w =
      (configuredRunner site path config system instanceName w.next ::
        (registerInstances site path config system rest
          (w.buildAndRegister (configuredRunner site path config system instanceName))).1,
        (registerInstances site path config system rest
          (w.buildAndRegister (configuredRunner site path config system instanceName))).2) := rfl

theorem registerInstances_uniqueName (instances : List String) (w : World) :
    (registerInstances site path config system instances w).1.map LocalPluginRunner.uniqueName =
      instances.map (getUniqueName system.name system.version) := by
  induction instances generalizing w with
  | nil => rfl
  | cons instanceName rest ih =>
    rw [registerInstances_cons, List.map_cons, List.map_cons, ih]
    rfl

theorem registerInstances_documents (instances : List String) (w : World) :
    (registerInstances site path config system instances w).2.systems = w.systems ∧
      (registerInstances site path config system instances w).2.instances = w.instances := by
  induction instances generalizing w with
  | nil => exact ⟨rfl, rfl⟩
  | cons instanceName rest ih =>
    rw [registerInstances_cons]
    exact ih _

theorem Tracked.registerInstances (h : Tracked point w) (instances : List String) :
    Loads point (instances.map (getUniqueName system.name system.version)) w
      (registerInstances site path config system instances w).2 := by
  induction instances generalizing w with
  | nil => exact h.loads_of_quiet (.refl w)
  | cons instanceName rest ih =>
    rw [registerInstances_cons]
    have hfirst := h.loads_buildAndRegister
      (configuredRunner site path config system instanceName) rfl
    exact hfirst.trans (ih hfirst.tracked)

/-- Runners built under free, distinct names are all registered. -/
theorem registerInstances_idle (h : Tracked point w) (instances : List String)
    (hnodup : (instances.map (getUniqueName system.name system.version)).Nodup)
    (hfree : ∀ name ∈ instances.map (getUniqueName system.name system.version),
      w.registry.getPlugin name = none) :
    ∀ p ∈ (registerInstances site path config system instances w).1,
      (registerInstances site path config system instances w).2.Idle point p := by
  induction instances generalizing w with
  | nil => exact fun p hp => absurd hp List.not_mem_nil
  | cons instanceName rest ih =>
    obtain ⟨hname, hrest⟩ := List.nodup_cons.mp hnodup
    let build := configuredRunner site path config system instanceName
    have hfirst : Loads point [(build w.next).uniqueName] w (w.buildAndRegister build) :=
      h.loads_buildAndRegister build rfl
    rw [registerInstances_cons]
    intro p hp
    rcases List.mem_cons.mp hp with rfl | hp
    · apply (hfirst.tracked.registerInstances site path config system rest).kept
      exact h.idle_buildAndRegister build rfl (hfree _ List.mem_cons_self)
    · refine ih hfirst.tracked hrest ?_ p hp
      intro name hmem
      apply hfirst.free name _ (hfree name (List.mem_cons_of_mem _ hmem))
      rw [List.mem_singleton]
      rintro rfl
      exact hname hmem

theorem quiet_deleteInstances (system : System) (w : World) :
    Quiet w (w.deleteInstances system) := .of_runtime rfl rfl le_rfl rfl

theorem quiet_deepSave (system : System) (w : World) : Quiet w (w.deepSave system) := by
  have hnext : w.next ≤ w.next + 1 + system.instances.length := by omega
  exact .of_runtime rfl rfl hnext rfl

def World.cleared (w : World) (config : PluginConfig) : World :=
  (w.findUnique config.name config.version).elim w w.deleteInstances

def World.saved (w : World) (config : PluginConfig) : World :=
  (w.cleared config).deepSave ((w.cleared config).newSystem config)

theorem quiet_cleared (w : World) (config : PluginConfig) : Quiet w (w.cleared config) := by
  unfold World.cleared
  cases w.findUnique config.name config.version with
  | none => exact .refl w
  | some system => exact quiet_deleteInstances system w

theorem quiet_saved (w : World) (config : PluginConfig) : Quiet w (w.saved config) :=
  (quiet_cleared w config).trans (quiet_deepSave _ _)

end Loading

/-- Everything that loading a directory can do, by what it has declared. -/
theorem loadPlugin_stages (site : SiteConfig) (path : String) (source : PluginSource) (w : World) :
    (source.replaces = none ∧ source.built = [] ∧ ¬ source.Returns ∧
      (loadPlugin site path source w).2 = w) ∨
    ∃ config, source.replaces = some (config.name, config.version) ∧
      ((source.built = [] ∧ ¬ source.Returns ∧
          (loadPlugin site path source w).2 = w.cleared config) ∨
        ∃ instances, source.built = instances.map (getUniqueName config.name config.version) ∧
          (loadPlugin site path source w).2 = (registerInstances site path config
            ((w.cleared config).newSystem config) instances (w.saved config)).2 ∧
          (source.Returns → (loadPlugin site path source w).1 = .loaded (registerInstances site path
            config ((w.cleared config).newSystem config) instances (w.saved config)).1)) := by
  cases source with
  | invalid => exact .inl ⟨rfl, rfl, id, rfl⟩
  | unloadable => exact .inl ⟨rfl, rfl, id, rfl⟩
  | config config fault =>
    cases fault with
    | none => exact .inr ⟨config, rfl, .inr ⟨config.instances, rfl, rfl, fun _ => rfl⟩⟩
    | some fault =>
      cases fault with
      | findUnique => exact .inl ⟨rfl, rfl, id, rfl⟩
      | deleteInstances => exact .inl ⟨rfl, rfl, id, rfl⟩
      | deepSave => exact .inr ⟨config, rfl, .inl ⟨rfl, id, rfl⟩⟩
      | constructor built =>
        exact .inr ⟨config, rfl, .inr ⟨config.instances.take built, rfl, rfl, nofun⟩⟩

theorem returns_of_loaded {site : SiteConfig} {path : String} {source : PluginSource} {w : World}
    {plugins : List LocalPluginRunner}
    (hloaded : (loadPlugin site path source w).1 = .loaded plugins) : source.Returns := by
  cases source with
  | invalid => cases hloaded
  | unloadable => cases hloaded
  | config config fault =>
    cases fault with
    | none => exact trivial
    | some fault => cases fault <;> cases hloaded

/-- Everything `load_plugin` can do: it gives up before a runner is built, or it
builds the runners of the configuration, or it raises in the middle of that. -/
theorem loadPlugin_cases (site : SiteConfig) (path : String) (source : PluginSource) (w : World) :
    (Quiet w (loadPlugin site path source w).2 ∧
      ∀ plugins, (loadPlugin site path source w).1 ≠ .loaded plugins) ∨
    ∃ config system instances before, Quiet w before ∧
      source.built = instances.map (getUniqueName system.name system.version) ∧
      (loadPlugin site path source w).2 =
        (registerInstances site path config system instances before).2 ∧
      ∀ plugins, (loadPlugin site path source w).1 = .loaded plugins →
        source.Returns ∧
        plugins = (registerInstances site path config system instances before).1 := by
  rcases loadPlugin_stages site path source w with
    ⟨-, -, hnot, heq⟩ | ⟨config, -, ⟨-, hnot, heq⟩ | ⟨instances, hbuilt, heq, hresult⟩⟩
  · exact .inl ⟨heq.symm ▸ .refl w, fun _ hloaded => hnot (returns_of_loaded hloaded)⟩
  · exact .inl ⟨heq.symm ▸ quiet_cleared w config,
      fun _ hloaded => hnot (returns_of_loaded hloaded)⟩
  · refine .inr ⟨config, (w.cleared config).newSystem config, instances, w.saved config,
      quiet_saved w config, hbuilt, heq, fun plugins hloaded => ?_⟩
    have hreturns := returns_of_loaded hloaded
    exact ⟨hreturns, LoadResult.loaded.inj (hloaded.symm.trans (hresult hreturns))⟩

/-- No runner that is returned for starting has a unique name that is taken. -/
def NoClash : List String → List PluginSource → Prop
  | _, [] => True
  | taken, source :: rest =>
    (source.Returns → source.built.Nodup ∧ ∀ name ∈ source.built, name ∉ taken) ∧
      NoClash (taken ++ source.built) rest

/-- Plugins waiting to be started, each of them registered. -/
structure Queued (point : ℕ → ThreadPoint) (plugins : List LocalPluginRunner) (w : World) :
    Prop where
  tracked : Tracked point w
  idle : ∀ p ∈ plugins, w.Idle point p
  nodup : (plugins.map LocalPluginRunner.uniqueName).Nodup

theorem Queued.nil {w : World} (h : Tracked point w) : Queued point [] w :=
  ⟨h, fun _ hp => absurd hp List.not_mem_nil, List.nodup_nil⟩

section Scanning

variable {w w' : World} {plugins : List LocalPluginRunner} {plugin : LocalPluginRunner}

theorem Tracked.loadPlugin (h : Tracked point w) (site : SiteConfig) (path : String)
    (source : PluginSource) : Tracked point (loadPlugin site path source w).2 := by
  rcases loadPlugin_cases site path source w with
    ⟨hquiet, -⟩ | ⟨config, system, instances, before, hquiet, -, heq, -⟩
  · exact h.quiet hquiet
  · rw [heq]
    exact ((h.quiet hquiet).registerInstances site path config system instances).tracked

theorem loadPlugin_loads (h : Tracked point w) (site : SiteConfig) (path : String)
    (source : PluginSource) : Loads point source.built w (loadPlugin site path source w).2 := by
  rcases loadPlugin_cases site path source w with
    ⟨hquiet, -⟩ | ⟨config, system, instances, before, hquiet, hbuilt, heq, -⟩
  · exact ⟨h.quiet hquiet, fun _ hp => hp.quiet hquiet, fun _ _ hfree => hquiet.registry ▸ hfree⟩
  · rw [heq, hbuilt]
    exact (h.loads_of_quiet hquiet).trans
      ((h.quiet hquiet).registerInstances site path config system instances)

/-- Loading under free, distinct names makes a queue of registered plugins. -/
theorem loadPlugin_queued (h : Tracked point w) {site : SiteConfig} {path : String}
    {source : PluginSource} (hloaded : (loadPlugin site path source w).1 = .loaded plugins)
    (hnodup : source.built.Nodup)
    (hfree : ∀ name ∈ source.built, w.registry.getPlugin name = none) :
    Queued point plugins (loadPlugin site path source w).2 ∧
      plugins.map LocalPluginRunner.uniqueName = source.built := by
  rcases loadPlugin_cases site path source w with
    ⟨-, hnever⟩ | ⟨config, system, instances, before, hquiet, hbuilt, heq, hresult⟩
  · exact absurd hloaded (hnever plugins)
  · obtain ⟨-, rfl⟩ := hresult plugins hloaded
    rw [← hquiet.registry, hbuilt] at hfree
    rw [heq, registerInstances_uniqueName, ← hbuilt]
    refine ⟨⟨?_, ?_, ?_⟩, rfl⟩
    · exact ((h.quiet hquiet).registerInstances site path config system instances).tracked
    · exact registerInstances_idle site path config system (h.quiet hquiet) instances
        (hbuilt ▸ hnodup) hfree
    · rw [registerInstances_uniqueName, ← hbuilt]
      exact hnodup

theorem loadNewPlugins_loaded {site : SiteConfig} {path : String} {source : PluginSource}
    {rest : List (String × PluginSource)}
    (h : (loadPlugin site path source w).1 = .loaded plugins) :
    loadNewPlugins site ((path, source) :: rest) w =
      (plugins ++ (loadNewPlugins site rest (loadPlugin site path source w).2).1,
        (loadNewPlugins site rest (loadPlugin site path source w).2).2) := by
  conv_lhs => unfold loadNewPlugins
  generalize loadPlugin site path source w = outcome at h ⊢
  obtain ⟨_, w'⟩ := outcome
  subst h
  rfl

theorem loadNewPlugins_of_not_loaded {site : SiteConfig} {path : String} {source : PluginSource}
    {rest : List (String × PluginSource)}
    (h : ∀ plugins, (loadPlugin site path source w).1 ≠ .loaded plugins) :
    loadNewPlugins site ((path, source) :: rest) w =
      loadNewPlugins site rest (loadPlugin site path source w).2 := by
  conv_lhs => unfold loadNewPlugins
  generalize loadPlugin site path source w = outcome at h ⊢
  obtain ⟨_ | _ | plugins, w'⟩ := outcome
  · rfl
  · rfl
  · exact absurd rfl (h plugins)

theorem Queued.append {others : List LocalPluginRunner} (h : Queued point plugins w)
    (h' : Queued point others w') (hkept : ∀ p, w.Idle point p → w'.Idle point p)
    (hdisjoint : ∀ p ∈ others, p.uniqueName ∉ plugins.map LocalPluginRunner.uniqueName) :
    Queued point (plugins ++ others) w' where
  tracked := h'.tracked
  idle p hp := by
    rcases List.mem_append.mp hp with hp | hp
    · exact hkept p (h.idle p hp)
    · exact h'.idle p hp
  nodup := by
    rw [List.map_append]
    refine List.Nodup.append h.nodup h'.nodup ?_
    intro name hname hmem
    obtain ⟨p, hp, rfl⟩ := List.mem_map.mp hmem
    exact hdisjoint p hp hname

/-- What a scan loads without a clash can be started. -/
theorem loadNewPlugins_queued (h : Tracked point w) (site : SiteConfig) {taken : List String}
    (hfree : ∀ name ∉ taken, w.registry.getPlugin name = none)
    {directories : List (String × PluginSource)}
    (hclash : NoClash taken (directories.map Prod.snd)) :
    Queued point (loadNewPlugins site directories w).1 (loadNewPlugins site directories w).2 ∧
      (∀ p, w.Idle point p → (loadNewPlugins site directories w).2.Idle point p) ∧
      ∀ p ∈ (loadNewPlugins site directories w).1, p.uniqueName ∉ taken := by
  induction directories generalizing w taken with
  | nil =>
    unfold loadNewPlugins
    exact ⟨.nil h, fun _ hp => hp, fun _ hp => absurd hp List.not_mem_nil⟩
  | cons directory rest ih =>
    obtain ⟨path, source⟩ := directory
    obtain ⟨hfirst, hrest⟩ := hclash
    have hloads := loadPlugin_loads h site path source
    have hfree' : ∀ name ∉ taken ++ source.built,
        (loadPlugin site path source w).2.registry.getPlugin name = none := by
      intro name hname
      rw [List.mem_append, not_or] at hname
      exact hloads.free name hname.2 (hfree name hname.1)
    obtain ⟨hqueued, hkept, hnew⟩ := ih hloads.tracked hfree' hrest
    have hothers : ∀ p ∈ (loadNewPlugins site rest (loadPlugin site path source w).2).1,
        p.uniqueName ∉ taken ∧ p.uniqueName ∉ source.built := by
      intro p hp
      rw [← not_or, ← List.mem_append]
      exact hnew p hp
    have hkept' : ∀ p, w.Idle point p →
        (loadNewPlugins site rest (loadPlugin site path source w).2).2.Idle point p :=
      fun p hp => hkept p (hloads.kept p hp)
    cases hresult : (loadPlugin site path source w).1 with
    | loaded plugins =>
      obtain ⟨hnodup, huntaken⟩ := hfirst (returns_of_loaded hresult)
      obtain ⟨hqueue, hnames⟩ :=
        loadPlugin_queued h hresult hnodup fun name hname => hfree name (huntaken name hname)
      rw [loadNewPlugins_loaded hresult]
      refine ⟨hqueue.append hqueued hkept ?_, hkept', ?_⟩
      · intro p hp
        rw [hnames]
        exact (hothers p hp).2
      · intro p hp
        rcases List.mem_append.mp hp with hp | hp
        · apply huntaken
          rw [← hnames]
          exact List.mem_map_of_mem hp
        · exact (hothers p hp).1
    | refused =>
      rw [loadNewPlugins_of_not_loaded (by simp [hresult])]
      exact ⟨hqueued, hkept', fun p hp => (hothers p hp).1⟩
    | raised =>
      rw [loadNewPlugins_of_not_loaded (by simp [hresult])]
      exact ⟨hqueued, hkept', fun p hp => (hothers p hp).1⟩

theorem Queued.rotate (h : Queued point (plugin :: plugins) w) :
    Queued point (plugins ++ [plugin]) w where
  tracked := h.tracked
  idle p hp := h.idle p (by simpa [or_comm] using hp)
  nodup := ((List.perm_append_singleton plugin plugins).symm.map _).nodup_iff.mp h.nodup

theorem Queued.reverse (h : Queued point plugins w) : Queued point plugins.reverse w where
  tracked := h.tracked
  idle p hp := h.idle p (List.mem_reverse.mp hp)
  nodup := by
    rw [List.map_reverse, List.nodup_reverse]
    exact h.nodup

theorem visitPlugin_world {popen : ℕ → Bool} {systemNames : List String} {st st' : Progress World}
    (h : visitPlugin (worldEffects popen) systemNames st plugin = .settle st' ∨
      ∃ e, visitPlugin (worldEffects popen) systemNames st plugin = .abort e st') :
    st'.world = (startPlugin popen plugin st.world).2 ∨ Quiet st.world st'.world := by
  have hstart : (attemptToStart (worldEffects popen) st plugin = .settle st' ∨
      ∃ e, attemptToStart (worldEffects popen) st plugin = .abort e st') →
      st'.world = (startPlugin popen plugin st.world).2 := by
    unfold attemptToStart worldEffects
    dsimp only
    generalize startPlugin popen plugin st.world = outcome
    rcases outcome with ⟨_ | _ | _, w'⟩ <;> rintro (h | ⟨e, h⟩) <;> cases h <;> rfl
  have hfail : (failPlugin (worldEffects popen) st plugin = .settle st' ∨
      ∃ e, failPlugin (worldEffects popen) st plugin = .abort e st') →
      Quiet st.world st'.world := by
    have hquiet := quiet_markAsFailed plugin st.world
    revert hquiet
    unfold failPlugin worldEffects
    dsimp only
    generalize markAsFailed plugin st.world = outcome
    rcases outcome with ⟨_ | _, w'⟩ <;> rintro hquiet (h | ⟨e, h⟩) <;> cases h <;> exact hquiet
  unfold visitPlugin at h
  split at h
  · exact .inl (hstart h)
  · exact .inr (hfail h)
  · exact .inr (hfail h)
  · rcases h with h | ⟨e, h⟩ <;> cases h

theorem Queued.visit {popen : ℕ → Bool} {systemNames : List String} {st st' : Progress World}
    (h : Queued point (plugin :: plugins) st.world)
    (hvisit : visitPlugin (worldEffects popen) systemNames st plugin = .settle st' ∨
      ∃ e, visitPlugin (worldEffects popen) systemNames st plugin = .abort e st') :
    Queued point plugins st'.world := by
  obtain ⟨hname, hnodup⟩ := List.nodup_cons.mp h.nodup
  have hidle := h.idle plugin List.mem_cons_self
  rcases visitPlugin_world hvisit with heq | hquiet
  · rw [heq]
    refine ⟨h.tracked.startPlugin hidle.1 fun _ => hidle.2, ?_, hnodup⟩
    intro p hp
    have hne : p.uniqueName ≠ plugin.uniqueName := fun heq => hname (heq ▸ List.mem_map_of_mem hp)
    exact (h.idle p (List.mem_cons_of_mem _ hp)).startPlugin_of_ne h.tracked hidle.1 hne
  · exact ⟨h.tracked.quiet hquiet,
      fun p hp => (h.idle p (List.mem_cons_of_mem _ hp)).quiet hquiet, hnodup⟩

theorem Queued.reaches {popen : ℕ → Bool} {systemNames : List String}
    {queue queue' : List LocalPluginRunner} {st st' : Progress World}
    (h : Queued point queue st.world)
    (hreach : RotatingQueue.Reaches (visitPlugin (worldEffects popen) systemNames)
      queue st queue' st') : Queued point queue' st'.world := by
  refine hreach.invariant (I := fun queue st => Queued point queue st.world) h ?_ ?_
  · intro p rest st st' hqueued hvisit
    exact hqueued.visit (.inl hvisit)
  · intro p rest st hqueued _
    exact hqueued.rotate

theorem Queued.startMultiplePlugins {popen : ℕ → Bool} {snap : Snapshot} {fuel : ℕ}
    {ending : RotatingQueue.Ending (Progress World) StartError} (h : Queued point plugins w)
    (hends : startMultiplePlugins (worldEffects popen) snap fuel plugins w = some ending) :
    Tracked point ending.state.world := by
  unfold Bartender.startMultiplePlugins at hends
  rw [whileLoop_eq_run] at hends
  have hended : ∃ queue, Queued point queue ending.state.world := by
    refine RotatingQueue.invariant_of_run (I := fun queue st => Queued point queue st.world) hends
      h.reverse ?_ ?_
    · intro p rest st st' hqueued hvisit
      exact hqueued.visit hvisit
    · intro p rest st hqueued _
      exact hqueued.rotate
  obtain ⟨queue, hqueued⟩ := hended
  exact hqueued.tracked

end Scanning

end Bartender
