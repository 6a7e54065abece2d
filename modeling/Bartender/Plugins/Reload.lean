import Bartender.Plugins.LiveRunners

/-!
# When a reload keeps the registry

`reload_system` drops the plugins of a system once it has validated the new
configuration, and then has it validated and loaded. The checks come before the
removal; whatever goes wrong after it has already cost the old plugins.
-/

namespace Bartender

/-- `reload_system`, with the verdict of its own validation and with what its
loader then finds in the directory. -/
def reloadDirectory (site : SiteConfig) (systemName systemVersion : String) (valid : Bool)
    (source : PluginSource) (w : World) : Except ReloadError Unit × World :=
  let plugins := w.registry.getPluginsBySystem systemName systemVersion
  match plugins with
  | [] => (.error .notFound, w)
  | first :: _ =>
    if !valid then (.error .notValid, w)
    else if plugins.any fun p => w.status p = .running then (.error .runningInstances, w)
    else
      let names := plugins.map (·.uniqueName)
      let w := { w with registry := names.foldl Registry.remove w.registry }
      match loadPlugin site first.pathToPlugin source w with
      | (.raised, w) => (.error .loadRaised, w)
      | (_, w) => (.ok (), w)

def PluginSource.valid : PluginSource → Bool
  | .invalid => false
  | _ => true

theorem reloadSystem_eq_reloadDirectory (site : SiteConfig) (systemName systemVersion : String)
    (source : PluginSource) (w : World) :
    reloadSystem site systemName systemVersion source w =
      reloadDirectory site systemName systemVersion source.valid source w := by
  unfold reloadSystem reloadDirectory
  cases w.registry.getPluginsBySystem systemName systemVersion with
  | nil => rfl
  | cons first rest => cases source <;> rfl

/-- For every instance of the configuration a runner that was built from it
since is registered. -/
def Installed (site : SiteConfig) (path : String) (config : PluginConfig) (w w' : World) : Prop :=
  ∀ instanceName ∈ config.instances, ∃ system address, w.next ≤ address ∧
    w'.registry.getPlugin (getUniqueName config.name config.version instanceName) =
      some (configuredRunner site path config system instanceName address)

/-- The reload ends with the plugins of the new configuration registered. -/
def Reloads (site : SiteConfig) (systemName systemVersion : String) (valid : Bool)
    (source : PluginSource) (w : World) : Prop :=
  (reloadDirectory site systemName systemVersion valid source w).1 = .ok () ∧
    ∃ path config fault, source = .config config fault ∧
      Installed site path config w
        (reloadDirectory site systemName systemVersion valid source w).2

/-- One of the checks turns the request away. -/
def TurnedAway (systemName systemVersion : String) (valid : Bool) (w : World) : Prop :=
  w.registry.getPluginsBySystem systemName systemVersion = [] ∨ valid = false ∨
    ∃ p ∈ w.registry.getPluginsBySystem systemName systemVersion, w.status p = .running

def othersThan (systemName systemVersion : String) (registry : Registry) : Registry :=
  registry.filter fun p => !(p.system.name == systemName && p.system.version == systemVersion)

def World.withoutSystem (w : World) (systemName systemVersion : String) : World :=
  { w with registry := othersThan systemName systemVersion w.registry }

/-- The loader finds a configuration with which nothing goes wrong, and the
plugins of other systems leave it its unique names. -/
def LoadsCleanly (systemName systemVersion : String) (source : PluginSource) (w : World) : Prop :=
  ∃ config, source = .config config none ∧ ∀ instanceName ∈ config.instances,
    (othersThan systemName systemVersion w.registry).getPlugin
      (getUniqueName config.name config.version instanceName) = none

/-- What building runners of these names does to the registry. -/
structure Registers (names : List String) (w w' : World) : Prop where
  next : w.next ≤ w'.next
  distinct : w.registry.Distinct → w'.registry.Distinct
  kept : ∀ p ∈ w.registry, p ∈ w'.registry
  added : ∀ p ∈ w'.registry, p ∈ w.registry ∨ (w.next ≤ p.address ∧ p.address < w'.next)
  free : ∀ name, w'.registry.getPlugin name = none ↔
    w.registry.getPlugin name = none ∧ name ∉ names

namespace Registers

variable {w w' w'' : World} {names names' : List String}

theorem of_registry_eq (hregistry : w'.registry = w.registry) (hnext : w.next ≤ w'.next) :
    Registers [] w w' where
  next := hnext
  distinct h := hregistry ▸ h
  kept _ hp := hregistry.symm ▸ hp
  added _ hp := .inl (hregistry ▸ hp)
  free _ := by
    rw [hregistry]
    exact (and_iff_left List.not_mem_nil).symm

theorem trans (h : Registers names w w') (h' : Registers names' w' w'') :
    Registers (names ++ names') w w'' where
  next := h.next.trans h'.next
  distinct hdistinct := h'.distinct (h.distinct hdistinct)
  kept p hp := h'.kept p (h.kept p hp)
  added p hp := by
    rcases h'.added p hp with hold | ⟨hlow, hhigh⟩
    · rcases h.added p hold with holder | ⟨hlow, hhigh⟩
      · exact .inl holder
      · exact .inr ⟨hlow, hhigh.trans_le h'.next⟩
    · exact .inr ⟨h.next.trans hlow, hhigh⟩
  free name := by rw [h'.free, h.free, List.mem_append, not_or, and_assoc]

theorem addresses (h : Registers names w w') (haddresses : ∀ p ∈ w.registry, p.address < w.next) :
    ∀ p ∈ w'.registry, p.address < w'.next := by
  intro p hp
  rcases h.added p hp with hold | ⟨-, hhigh⟩
  · exact (haddresses p hold).trans_le h.next
  · exact hhigh

theorem mem_iff (h : Registers names w w') {q : LocalPluginRunner} (hq : q.address < w.next) :
    q ∈ w'.registry ↔ q ∈ w.registry := by
  refine ⟨fun hmem => ?_, h.kept q⟩
  rcases h.added q hmem with hold | ⟨hlow, -⟩
  · exact hold
  · exact absurd hq hlow.not_gt

end Registers

section Loading

variable {site : SiteConfig} {path : String} {config : PluginConfig} {system : System}
  {w : World}

theorem registers_buildAndRegister {build : ℕ → LocalPluginRunner}
    (hbuild : (build w.next).address = w.next) :
    Registers [(build w.next).uniqueName] w (w.buildAndRegister build) where
  next := Nat.le_succ w.next
  distinct h := h.registerPlugin (build w.next)
  kept _ hp := Registry.mem_registerPlugin_of_mem hp
  added p hp := by
    rcases Registry.mem_registerPlugin hp with hold | rfl
    · exact .inl hold
    · rw [hbuild]
      exact .inr ⟨le_rfl, Nat.lt_succ_self w.next⟩
  free name := by
    rw [List.mem_singleton]
    exact Registry.getPlugin_registerPlugin_eq_none_iff

theorem registers_registerInstances (site : SiteConfig) (path : String) (config : PluginConfig)
    (system : System) (instances : List String) (w : World) :
    Registers (instances.map (getUniqueName system.name system.version)) w
      (registerInstances site path config system instances w).2 := by
  induction instances generalizing w with
  | nil => exact .of_registry_eq rfl le_rfl
  | cons first rest ih =>
    rw [registerInstances_cons]
    let build := configuredRunner site path config system first
    have hbuild : Registers [(build w.next).uniqueName] w (w.buildAndRegister build) :=
      registers_buildAndRegister rfl
    exact hbuild.trans (ih _)

theorem registers_loadPlugin (site : SiteConfig) (path : String) (source : PluginSource)
    (w : World) : Registers source.built w (loadPlugin site path source w).2 := by
  rcases loadPlugin_stages site path source w with
    ⟨-, hbuilt, -, heq⟩ | ⟨config, -, ⟨hbuilt, -, heq⟩ | ⟨instances, hbuilt, heq, -⟩⟩
  · rw [hbuilt, heq]
    exact .of_registry_eq rfl le_rfl
  · rw [hbuilt, heq]
    exact .of_registry_eq (quiet_cleared w config).registry (quiet_cleared w config).next
  · rw [hbuilt, heq]
    have hsaved : Registers [] w (w.saved config) :=
      .of_registry_eq (quiet_saved w config).registry (quiet_saved w config).next
    exact hsaved.trans (registers_registerInstances site path config
      ((w.cleared config).newSystem config) instances (w.saved config))

theorem getUniqueName_injective (name version : String) :
    Function.Injective (getUniqueName name version) := by
  intro i j h
  unfold getUniqueName at h
  exact String.append_right_inj _ |>.mp (String.append_left_inj _ |>.mp
    (String.append_left_inj _ |>.mp h))

theorem getPlugin_registerInstances_of_some (instances : List String) {name : String}
    {p : LocalPluginRunner} (h : w.registry.getPlugin name = some p) :
    (registerInstances site path config system instances w).2.registry.getPlugin name = some p := by
  induction instances generalizing w with
  | nil => exact h
  | cons instanceName rest ih =>
    rw [registerInstances_cons]
    exact ih (Registry.getPlugin_registerPlugin_of_some h)

theorem uniqueName_configuredRunner (site : SiteConfig) (path : String) {config : PluginConfig}
    {system : System} (hnames : system.name = config.name ∧ system.version = config.version)
    (instanceName : String) (address : ℕ) :
    (configuredRunner site path config system instanceName address).uniqueName =
      getUniqueName config.name config.version instanceName := by
  rw [← hnames.1, ← hnames.2]
  rfl

/-- A name that is free, or taken by a runner built for the same instance since, is
taken by such a runner afterwards. -/
theorem getPlugin_buildAndRegister (site : SiteConfig) (path : String) {config : PluginConfig}
    {system : System} (hnames : system.name = config.name ∧ system.version = config.version)
    {instanceName : String} {start : ℕ} (hstart : start ≤ w.next)
    (hfree : w.registry.getPlugin (getUniqueName config.name config.version instanceName) = none ∨
      ∃ address, start ≤ address ∧
        w.registry.getPlugin (getUniqueName config.name config.version instanceName) =
          some (configuredRunner site path config system instanceName address)) :
    ∃ address, start ≤ address ∧
      (w.buildAndRegister (configuredRunner site path config system instanceName)
        ).registry.getPlugin (getUniqueName config.name config.version instanceName) =
          some (configuredRunner site path config system instanceName address) := by
  let build := configuredRunner site path config system instanceName
  rcases hfree with hnone | ⟨address, haddress, hsome⟩
  · refine ⟨w.next, hstart, ?_⟩
    rw [← uniqueName_configuredRunner site path hnames instanceName w.next] at hnone ⊢
    show (w.registry.registerPlugin (build w.next)).getPlugin _ = _
    rw [Registry.registerPlugin_of_none hnone]
    exact Registry.getPlugin_append_of_none hnone
  · exact ⟨address, haddress, Registry.getPlugin_registerPlugin_of_some hsome⟩

/-- Names that are free, or taken by a runner built for the same instance since,
are all installed. -/
theorem registerInstances_installed (site : SiteConfig) (path : String) (config : PluginConfig)
    (system : System) (instances : List String) (start : ℕ) (hstart : start ≤ w.next)
    (hnames : system.name = config.name ∧ system.version = config.version)
    (hfree : ∀ instanceName ∈ instances,
      w.registry.getPlugin (getUniqueName config.name config.version instanceName) = none ∨
      ∃ address, start ≤ address ∧
        w.registry.getPlugin (getUniqueName config.name config.version instanceName) =
          some (configuredRunner site path config system instanceName address)) :
    ∀ instanceName ∈ instances, ∃ address, start ≤ address ∧
      (registerInstances site path config system instances w).2.registry.getPlugin
        (getUniqueName config.name config.version instanceName) =
          some (configuredRunner site path config system instanceName address) := by
  induction instances generalizing w with
  | nil => exact fun _ h => absurd h List.not_mem_nil
  | cons first rest ih =>
    let build := configuredRunner site path config system first
    have hfirst := getPlugin_buildAndRegister site path hnames hstart
      (hfree first List.mem_cons_self)
    rw [registerInstances_cons]
    have hrest : ∀ instanceName ∈ rest,
        (w.buildAndRegister build).registry.getPlugin
          (getUniqueName config.name config.version instanceName) = none ∨
        ∃ address, start ≤ address ∧ (w.buildAndRegister build).registry.getPlugin
          (getUniqueName config.name config.version instanceName) =
            some (configuredRunner site path config system instanceName address) := by
      intro instanceName hmem
      by_cases hsame : instanceName = first
      · rw [hsame]
        exact .inr hfirst
      · have hne : getUniqueName config.name config.version instanceName ≠
            (build w.next).uniqueName := by
          rw [uniqueName_configuredRunner site path hnames]
          exact fun h => hsame (getUniqueName_injective _ _ h)
        have hkept : (w.buildAndRegister build).registry.getPlugin
            (getUniqueName config.name config.version instanceName) =
              w.registry.getPlugin (getUniqueName config.name config.version instanceName) :=
          Registry.getPlugin_registerPlugin_of_ne hne
        rw [hkept]
        exact hfree instanceName (List.mem_cons_of_mem _ hmem)
    intro instanceName hmem
    rcases List.mem_cons.mp hmem with rfl | hmem
    · obtain ⟨address, haddress, hfound⟩ := hfirst
      exact ⟨address, haddress, getPlugin_registerInstances_of_some rest hfound⟩
    · have hnext : start ≤ (w.buildAndRegister build).next := by
        show start ≤ w.next + 1
        omega
      exact ih hnext hrest instanceName hmem

theorem getPlugin_loadPlugin_of_some {source : PluginSource} {name : String}
    {p : LocalPluginRunner} (h : w.registry.getPlugin name = some p) :
    (loadPlugin site path source w).2.registry.getPlugin name = some p := by
  rcases loadPlugin_cases site path source w with
    ⟨hquiet, -⟩ | ⟨config, system, instances, before, hquiet, -, heq, -⟩
  · rwa [hquiet.registry]
  · rw [heq]
    exact getPlugin_registerInstances_of_some instances (hquiet.registry ▸ h)

theorem loadPlugin_installed (hfree : ∀ instanceName ∈ config.instances,
    w.registry.getPlugin (getUniqueName config.name config.version instanceName) = none) :
    Installed site path config w (loadPlugin site path (.config config none) w).2 := by
  have hsaved := quiet_saved w config
  intro instanceName hmem
  obtain ⟨address, haddress, hfound⟩ :=
    registerInstances_installed site path config ((w.cleared config).newSystem config)
      config.instances w.next hsaved.next ⟨rfl, rfl⟩
      (fun instanceName hmem => .inl (hsaved.registry ▸ hfree instanceName hmem)) instanceName hmem
  exact ⟨(w.cleared config).newSystem config, address, haddress, hfound⟩

end Loading

section Reload

variable {site : SiteConfig} {systemName systemVersion : String} {valid : Bool}
  {source : PluginSource} {w : World}

theorem reloadDirectory_of_turnedAway (site : SiteConfig) (source : PluginSource)
    (h : TurnedAway systemName systemVersion valid w) :
    ∃ e, reloadDirectory site systemName systemVersion valid source w = (.error e, w) := by
  unfold reloadDirectory
  cases hplugins : w.registry.getPluginsBySystem systemName systemVersion with
  | nil => exact ⟨_, rfl⟩
  | cons first rest =>
    cases valid with
    | false => exact ⟨_, rfl⟩
    | true =>
      rcases h with h | h | ⟨p, hp, hrunning⟩
      · rw [hplugins] at h
        cases h
      · cases h
      · rw [hplugins] at hp
        have hany : ((first :: rest).any fun p => w.status p = .running) = true :=
          List.any_eq_true.mpr ⟨p, hp, decide_eq_true hrunning⟩
        refine ⟨.runningInstances, ?_⟩
        dsimp only
        rw [hany]
        rfl

/-- Past the checks the plugins of the system are removed, and then it loads. -/
theorem reloadDirectory_of_checked (site : SiteConfig) (source : PluginSource)
    (hdistinct : w.registry.Distinct) (h : ¬ TurnedAway systemName systemVersion valid w) :
    ∃ path, reloadDirectory site systemName systemVersion valid source w =
      (match (loadPlugin site path source (w.withoutSystem systemName systemVersion)).1 with
        | .raised => .error .loadRaised
        | _ => .ok (),
        (loadPlugin site path source (w.withoutSystem systemName systemVersion)).2) := by
  unfold TurnedAway at h
  push Not at h
  obtain ⟨hsome, hvalid, hrunning⟩ := h
  have hremoved := hdistinct.remove_getPluginsBySystem systemName systemVersion
  unfold reloadDirectory
  cases hplugins : w.registry.getPluginsBySystem systemName systemVersion with
  | nil => exact absurd hplugins hsome
  | cons first rest =>
    have hany : ((first :: rest).any fun p => w.status p = .running) = false := by
      rw [List.any_eq_false]
      intro p hp
      rw [decide_eq_true_iff]
      exact hrunning p (hplugins ▸ hp)
    rw [hplugins] at hremoved
    refine ⟨first.pathToPlugin, ?_⟩
    dsimp only
    rw [hany, hremoved, Bool.eq_true_of_not_eq_false hvalid]
    have hworld : { w with registry := w.registry.filter fun p =>
        !(p.system.name == systemName && p.system.version == systemVersion) } =
          w.withoutSystem systemName systemVersion := rfl
    rw [hworld]
    cases hload : loadPlugin site first.pathToPlugin source
      (w.withoutSystem systemName systemVersion) with
    | mk result w' => cases result <;> rfl

/-- Past the checks the registry is never what it was: the plugins that were there
are removed, and what is registered is new. -/
theorem registry_reloadDirectory_ne (site : SiteConfig) (source : PluginSource)
    (hdistinct : w.registry.Distinct) (hallocated : ∀ p ∈ w.registry, p.address < w.next)
    (haway : ¬ TurnedAway systemName systemVersion valid w) :
    (reloadDirectory site systemName systemVersion valid source w).2.registry ≠ w.registry := by
  obtain ⟨path, heq⟩ := reloadDirectory_of_checked site source hdistinct haway
  intro hsame
  rw [heq] at hsame
  obtain ⟨p, hp⟩ := List.exists_mem_of_ne_nil _ (fun hnil => haway (.inl hnil))
  obtain ⟨hregistered, hsystem⟩ := List.mem_filter.mp hp
  have hloaded := registers_loadPlugin site path source (w.withoutSystem systemName systemVersion)
  rcases hloaded.added p (hsame.symm ▸ hregistered) with hother | ⟨hnew, -⟩
  · have hnot := (List.mem_filter.mp hother).2
    rw [hsystem] at hnot
    cases hnot
  · exact absurd (hallocated p hregistered) (Nat.not_lt.mpr hnew)

/-- Past the checks the new plugins get in exactly if nothing goes wrong. -/
theorem reloads_iff (site : SiteConfig) (source : PluginSource) (hdistinct : w.registry.Distinct)
    (hallocated : ∀ p ∈ w.registry, p.address < w.next)
    (haway : ¬ TurnedAway systemName systemVersion valid w) :
    Reloads site systemName systemVersion valid source w ↔
      LoadsCleanly systemName systemVersion source w := by
  obtain ⟨path, heq⟩ := reloadDirectory_of_checked site source hdistinct haway
  constructor
  · rintro ⟨hok, _, config, fault, rfl, hinstalled⟩
    rw [heq] at hok hinstalled
    have hfault : fault = none := by
      cases fault with
      | none => rfl
      | some fault => cases fault <;> cases hok
    subst hfault
    refine ⟨config, rfl, fun instanceName hmem => ?_⟩
    obtain ⟨system, address, haddress, hfound⟩ := hinstalled instanceName hmem
    by_contra htaken
    obtain ⟨q, hq⟩ := Option.ne_none_iff_exists'.mp htaken
    have hkept : (loadPlugin site path (.config config none)
        (w.withoutSystem systemName systemVersion)).2.registry.getPlugin
          (getUniqueName config.name config.version instanceName) = some q :=
      getPlugin_loadPlugin_of_some hq
    rw [hkept] at hfound
    cases hfound
    have hold := (List.mem_filter.mp (Registry.mem_of_getPlugin hq).1).1
    exact absurd (hallocated _ hold) (Nat.not_lt.mpr haddress)
  · rintro ⟨config, rfl, hfree⟩
    unfold Reloads
    rw [heq]
    have hinstalled : Installed site path config (w.withoutSystem systemName systemVersion)
        (loadPlugin site path (.config config none)
          (w.withoutSystem systemName systemVersion)).2 := loadPlugin_installed hfree
    exact ⟨rfl, path, config, none, rfl, hinstalled⟩

/-- The registry survives every reload that does not end with the new plugins in
it, exactly when the checks turn the request away or nothing goes wrong after
them: a failure between the removal and the last registration loses the old
plugins. -/
theorem reloadDirectory_keeps_iff (site : SiteConfig) (systemName systemVersion : String)
    (valid : Bool) (source : PluginSource) (hdistinct : w.registry.Distinct)
    (hallocated : ∀ p ∈ w.registry, p.address < w.next) :
    (¬ Reloads site systemName systemVersion valid source w →
      (reloadDirectory site systemName systemVersion valid source w).2.registry = w.registry) ↔
    TurnedAway systemName systemVersion valid w ∨
      LoadsCleanly systemName systemVersion source w := by
  by_cases haway : TurnedAway systemName systemVersion valid w
  · obtain ⟨e, heq⟩ := reloadDirectory_of_turnedAway site source haway
    rw [heq]
    exact ⟨fun _ => .inl haway, fun _ _ => rfl⟩
  have hchanged := registry_reloadDirectory_ne site source hdistinct hallocated haway
  rw [reloads_iff site source hdistinct hallocated haway, or_iff_right haway]
  constructor
  · intro hkeeps
    by_contra hnot
    exact hchanged (hkeeps hnot)
  · exact fun hclean hnot => absurd hclean hnot

/-- The database that cannot be reached while the system is looked up. -/
def lostConnection : PluginSource :=
  .config ⟨"foo", "1.0", "main.py", ["default"], [], [], [], logInfo⟩ (some .findUnique)

theorem reloadDirectory_keeps_iff_single :
    (¬ Reloads localSite "foo" "1.0" true lostConnection
        (.single (singlePlugin "foo" []) .stopped .fresh) →
      (reloadDirectory localSite "foo" "1.0" true lostConnection
        (.single (singlePlugin "foo" []) .stopped .fresh)).2.registry = [singlePlugin "foo" []]) ↔
    TurnedAway "foo" "1.0" true (.single (singlePlugin "foo" []) .stopped .fresh) ∨
      LoadsCleanly "foo" "1.0" lostConnection (.single (singlePlugin "foo" []) .stopped .fresh) :=
  reloadDirectory_keeps_iff localSite "foo" "1.0" true lostConnection (by decide) (by decide)

/-- A stopped plugin whose reload fails in the database is gone. -/
theorem reloadDirectory_loses :
    ¬ (¬ Reloads localSite "foo" "1.0" true lostConnection
        (.single (singlePlugin "foo" []) .stopped .fresh) →
      (reloadDirectory localSite "foo" "1.0" true lostConnection
        (.single (singlePlugin "foo" []) .stopped .fresh)).2.registry =
          [singlePlugin "foo" []]) := by
  intro hkeeps
  have hraised : (reloadDirectory localSite "foo" "1.0" true lostConnection
      (.single (singlePlugin "foo" []) .stopped .fresh)).1 = .error .loadRaised := by decide
  have hempty : (reloadDirectory localSite "foo" "1.0" true lostConnection
      (.single (singlePlugin "foo" []) .stopped .fresh)).2.registry = [] := by decide
  have hnot : ¬ Reloads localSite "foo" "1.0" true lostConnection
      (.single (singlePlugin "foo" []) .stopped .fresh) := by
    intro hreloads
    have hok := hreloads.1
    rw [hraised] at hok
    cases hok
  rw [hkeeps hnot] at hempty
  cases hempty

end Reload
end Bartender
