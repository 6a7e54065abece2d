import Bartender.Plugins.Reload

/-!
# What a scan takes for a new plugin

`scan_plugin_path` tells new directories by their path, `load_plugin` finds the
stored system by name and version, and the registry knows its runners by their
unique names. A directory that declares what another one has declared is new by
the first and not by the others: the instances of the plugin that is there are
deleted, and a runner that the registry does not take is started all the same.
-/

namespace Bartender

/-- The stored system under whose name and version the directory is loaded does
not hold a document that a registered plugin still has. -/
def NoneDeleted (w : World) (sources : List PluginSource) : Prop :=
  ∀ source ∈ sources, ∀ name version, source.replaces = some (name, version) →
    ∀ s, w.findUnique name version = some s →
      ∀ p ∈ w.registry, ∀ i ∈ p.instance?, i.id ∈ s.instances.map (·.id) → w.instances i.id = none

/-- Stored systems are told apart by their ids, and by their names and versions. -/
structure SystemKeys (w : World) : Prop where
  allocated : ∀ s ∈ w.systems, s.id < w.next
  ids : (w.systems.map (·.id)).Nodup
  keys : (w.systems.map fun s => (s.name, s.version)).Nodup

/-- Objects and documents are told apart by addresses and ids, registered plugins
by unique names. -/
structure Identities (w : World) : Prop extends SystemKeys w where
  distinct : w.registry.Distinct
  addresses : ∀ p ∈ w.registry, p.address < w.next
  documents : ∀ p ∈ w.registry, ∀ i ∈ p.instance?, i.id < w.next

section Cleared

variable (w : World) (config : PluginConfig)

@[simp] theorem cleared_systems : (w.cleared config).systems = w.systems := by
  unfold World.cleared
  cases w.findUnique config.name config.version <;> rfl

@[simp] theorem cleared_next : (w.cleared config).next = w.next := by
  unfold World.cleared
  cases w.findUnique config.name config.version <;> rfl

theorem cleared_instances (id : ℕ) :
    (w.cleared config).instances id =
      if ∃ s, w.findUnique config.name config.version = some s ∧ id ∈ s.instances.map (·.id)
      then none else w.instances id := by
  unfold World.cleared
  cases w.findUnique config.name config.version with
  | none => simp
  | some s => simp [World.deleteInstances]

theorem next_lt_newSystem_id {i : Instance}
    (hi : i ∈ ((w.cleared config).newSystem config).instances) : w.next < i.id := by
  simp only [World.newSystem, List.mem_mapIdx, cleared_next] at hi
  obtain ⟨k, hk, rfl⟩ := hi
  dsimp only
  omega

end Cleared

/-- What loading does to the documents of the instances and to the systems. -/
structure Rewrites (replaced : Option (String × String)) (w w' : World) : Prop where
  next : w.next ≤ w'.next
  deleted : ∀ s name version, replaced = some (name, version) →
    w.findUnique name version = some s → ∀ id < w.next, id ∈ s.instances.map (·.id) →
      w'.instances id = none
  kept : ∀ id < w.next, (∀ s name version, replaced = some (name, version) →
    w.findUnique name version = some s → id ∉ s.instances.map (·.id)) →
      w'.instances id = w.instances id
  systems : ∀ s ∈ w'.systems, s ∈ w.systems ∨ ∀ i ∈ s.instances, w.next ≤ i.id
  stored : ∀ s ∈ w.systems, replaced ≠ some (s.name, s.version) → s ∈ w'.systems
  keys : SystemKeys w'

section Rewrites

variable {site : SiteConfig} {path : String} {source : PluginSource} {w w' : World}
  {config : PluginConfig} {replaced : Option (String × String)}

theorem SystemKeys.eq_of_mem (h : SystemKeys w) {s t : System} (hs : s ∈ w.systems)
    (ht : t ∈ w.systems) (hsame : s.id = t.id ∨ (s.name, s.version) = (t.name, t.version)) :
    s = t :=
  hsame.elim (List.inj_on_of_nodup_map h.ids hs ht) (List.inj_on_of_nodup_map h.keys hs ht)

theorem SystemKeys.findUnique_eq_some (h : SystemKeys w) {s : System} {name version : String} :
    w.findUnique name version = some s ↔
      s ∈ w.systems ∧ (s.name, s.version) = (name, version) := by
  unfold World.findUnique
  constructor
  · intro hfind
    have hmatch := List.find?_some (p := fun s : System => s.name == name && s.version == version)
      hfind
    refine ⟨List.mem_of_find?_eq_some hfind, ?_⟩
    simpa using hmatch
  · rintro ⟨hs, hkey⟩
    obtain ⟨hname, hversion⟩ := Prod.mk.inj hkey
    have hsome : (w.systems.find? fun s => s.name == name && s.version == version).isSome = true :=
      List.find?_isSome.mpr ⟨s, hs, by simp [hname, hversion]⟩
    obtain ⟨t, ht⟩ := Option.isSome_iff_exists.mp hsome
    have hmatch := List.find?_some (p := fun s : System => s.name == name && s.version == version)
      ht
    rw [ht, h.eq_of_mem (List.mem_of_find?_eq_some ht) hs (.inr ?_)]
    rw [hkey]
    simpa using hmatch

theorem rewrites_refl (h : SystemKeys w) : Rewrites none w w where
  next := le_rfl
  deleted _ _ _ hreplaced := by cases hreplaced
  kept _ _ _ := rfl
  systems _ hs := .inl hs
  stored _ hs _ := hs
  keys := h

theorem rewrites_cleared (h : SystemKeys w) :
    Rewrites (some (config.name, config.version)) w (w.cleared config) where
  next := (cleared_next w config).ge
  deleted s name version hreplaced hfind id _ hmem := by
    cases hreplaced
    rw [cleared_instances, if_pos ⟨s, hfind, hmem⟩]
  kept id _ hnot := by
    rw [cleared_instances, if_neg]
    rintro ⟨s, hfind, hmem⟩
    exact hnot s _ _ rfl hfind hmem
  systems s hs := .inl (cleared_systems w config ▸ hs)
  stored s hs _ := (cleared_systems w config).symm ▸ hs
  keys := ⟨by simpa using h.allocated, by simpa using h.ids, by simpa using h.keys⟩

theorem newSystem_id (w : World) (config : PluginConfig) :
    ((w.cleared config).newSystem config).id =
      (w.findUnique config.name config.version).elim w.next (·.id) := by
  have hfind : (w.cleared config).findUnique config.name config.version =
      w.findUnique config.name config.version := by
    unfold World.findUnique
    rw [cleared_systems]
  unfold World.newSystem
  rw [hfind, cleared_next]

theorem SystemKeys.id_eq_newSystem_iff (h : SystemKeys w) {s : System} (hs : s ∈ w.systems) :
    s.id = ((w.cleared config).newSystem config).id ↔
      (s.name, s.version) = (config.name, config.version) := by
  rw [newSystem_id]
  cases hfound : w.findUnique config.name config.version with
  | none =>
    refine iff_of_false (h.allocated s hs).ne fun hkey => ?_
    rw [h.findUnique_eq_some.mpr ⟨hs, hkey⟩] at hfound
    cases hfound
  | some e =>
    obtain ⟨he, hkey⟩ := h.findUnique_eq_some.mp hfound
    rw [← hkey]
    constructor
    · intro hsame
      rw [h.eq_of_mem hs he (.inl hsame)]
    · intro hsame
      rw [h.eq_of_mem hs he (.inr hsame)]
      rfl

theorem SystemKeys.newSystem_id_le (h : SystemKeys w) :
    ((w.cleared config).newSystem config).id ≤ w.next := by
  rw [newSystem_id]
  cases hfound : w.findUnique config.name config.version with
  | none => exact le_rfl
  | some e => exact (h.allocated e (h.findUnique_eq_some.mp hfound).1).le

theorem saved_systems (w : World) (config : PluginConfig) :
    (w.saved config).systems =
      w.systems.filter (fun s => s.id != ((w.cleared config).newSystem config).id) ++
        [(w.cleared config).newSystem config] := by
  show (w.cleared config).systems.filter _ ++ _ = _
  rw [cleared_systems]

theorem next_lt_saved_next (w : World) (config : PluginConfig) :
    w.next < (w.saved config).next := by
  show w.next < (w.cleared config).next + 1 + _
  rw [cleared_next]
  omega

theorem nodup_map_filter_append {α β : Type*} {f : α → β} {keep : α → Bool} {xs : List α} {a : α}
    (hxs : (xs.map f).Nodup) (ha : ∀ x ∈ xs, keep x = true → f x ≠ f a) :
    ((xs.filter keep ++ [a]).map f).Nodup := by
  rw [List.map_append, List.map_singleton]
  refine List.Nodup.append (hxs.sublist (List.filter_sublist.map f)) (List.nodup_singleton _) ?_
  rw [List.disjoint_singleton]
  intro hmem
  obtain ⟨x, hx, hfx⟩ := List.mem_map.mp hmem
  exact ha x (List.mem_of_mem_filter hx) (List.mem_filter.mp hx).2 hfx

theorem systemKeys_saved (h : SystemKeys w) : SystemKeys (w.saved config) := by
  refine ⟨fun s hs => ?_, ?_, ?_⟩
  · have hnext := next_lt_saved_next w config
    rw [saved_systems] at hs
    rcases List.mem_append.mp hs with hs | hs
    · exact (h.allocated s (List.mem_of_mem_filter hs)).trans hnext
    · rw [List.mem_singleton.mp hs]
      exact h.newSystem_id_le.trans_lt hnext
  · rw [saved_systems]
    exact nodup_map_filter_append h.ids fun s _ hkeep => by simpa using hkeep
  · rw [saved_systems]
    refine nodup_map_filter_append h.keys fun s hs hkeep => ?_
    exact mt (h.id_eq_newSystem_iff hs).mpr (by simpa using hkeep)

theorem rewrites_saved (h : SystemKeys w) :
    Rewrites (some (config.name, config.version)) w (w.saved config) := by
  have hcleared : Rewrites (some (config.name, config.version)) w (w.cleared config) :=
    rewrites_cleared h
  have hinstances : ∀ id < w.next,
      (w.saved config).instances id = (w.cleared config).instances id := by
    intro id hid
    refine if_neg fun hmem => ?_
    obtain ⟨i, hi, rfl⟩ := List.mem_map.mp hmem
    exact absurd hid (next_lt_newSystem_id w config hi).not_gt
  refine ⟨(next_lt_saved_next w config).le, ?_, ?_, ?_, ?_, systemKeys_saved h⟩
  · intro s name version hreplaced hfind id hid hmem
    rw [hinstances id hid]
    exact hcleared.deleted s name version hreplaced hfind id hid hmem
  · intro id hid hnot
    rw [hinstances id hid]
    exact hcleared.kept id hid hnot
  · intro s hs
    rw [saved_systems] at hs
    rcases List.mem_append.mp hs with hs | hs
    · exact .inl (List.mem_of_mem_filter hs)
    · rw [List.mem_singleton.mp hs]
      exact .inr fun i hi => (next_lt_newSystem_id w config hi).le
  · intro s hs hkey
    rw [saved_systems]
    refine List.mem_append_left _ (List.mem_filter.mpr ⟨hs, ?_⟩)
    have hne : s.id ≠ ((w.cleared config).newSystem config).id := by
      rw [ne_eq, h.id_eq_newSystem_iff hs]
      exact fun hsame => hkey (congrArg some hsame.symm)
    simpa using hne

/-- Building the runners afterwards rewrites nothing else. -/
theorem Rewrites.registerInstances {system : System} {instances : List String}
    (h : Rewrites replaced w w') :
    Rewrites replaced w (registerInstances site path config system instances w').2 := by
  obtain ⟨hsystems, hinstances⟩ :=
    registerInstances_documents site path config system instances w'
  have hnext : w'.next ≤
      (Bartender.registerInstances site path config system instances w').2.next :=
    (registers_registerInstances site path config system instances w').next
  refine ⟨h.next.trans hnext, ?_, ?_, ?_, ?_, ?_⟩
  · rw [hinstances]
    exact h.deleted
  · rw [hinstances]
    exact h.kept
  · rw [hsystems]
    exact h.systems
  · rw [hsystems]
    exact h.stored
  · refine ⟨?_, ?_, ?_⟩
    · rw [hsystems]
      exact fun s hs => (h.keys.allocated s hs).trans_le hnext
    · rw [hsystems]
      exact h.keys.ids
    · rw [hsystems]
      exact h.keys.keys

theorem rewrites_loadPlugin (site : SiteConfig) (path : String) (source : PluginSource)
    (h : SystemKeys w) : Rewrites source.replaces w (loadPlugin site path source w).2 := by
  rcases loadPlugin_stages site path source w with
    ⟨hreplaces, -, -, heq⟩ | ⟨config, hreplaces, ⟨-, -, heq⟩ | ⟨instances, -, heq, -⟩⟩
  · rw [hreplaces, heq]
    exact rewrites_refl h
  · rw [hreplaces, heq]
    exact rewrites_cleared h
  · rw [hreplaces, heq]
    exact (rewrites_saved h).registerInstances

theorem loadNewPlugins_cons_world (site : SiteConfig) (path : String) (source : PluginSource)
    (rest : List (String × PluginSource)) (w : World) :
    (loadNewPlugins site ((path, source) :: rest) w).2 =
      (loadNewPlugins site rest (loadPlugin site path source w).2).2 := by
  conv_lhs => unfold loadNewPlugins
  rcases loadPlugin site path source w with ⟨_ | _ | plugins, w'⟩ <;> rfl

theorem Rewrites.none_of_none (h : Rewrites replaced w w') {id : ℕ} (hid : id < w.next)
    (hnone : w.instances id = none) : w'.instances id = none := by
  by_cases hdeleted : ∃ s name version, replaced = some (name, version) ∧
      w.findUnique name version = some s ∧ id ∈ s.instances.map (·.id)
  · obtain ⟨s, name, version, hreplaced, hfind, hmem⟩ := hdeleted
    exact h.deleted s name version hreplaced hfind id hid hmem
  · rw [h.kept id hid fun s name version hreplaced hfind hmem =>
      hdeleted ⟨s, name, version, hreplaced, hfind, hmem⟩]
    exact hnone

theorem loadNewPlugins_none_of_none (site : SiteConfig)
    (directories : List (String × PluginSource)) (h : SystemKeys w) {id : ℕ} (hid : id < w.next)
    (hnone : w.instances id = none) :
    (loadNewPlugins site directories w).2.instances id = none := by
  induction directories generalizing w with
  | nil => exact hnone
  | cons directory rest ih =>
    obtain ⟨path, source⟩ := directory
    have hrewrites := rewrites_loadPlugin site path source h
    rw [loadNewPlugins_cons_world]
    exact ih hrewrites.keys (hid.trans_le hrewrites.next) (hrewrites.none_of_none hid hnone)

/-- A document is left alone when no directory is loaded under the name and
version of a system that holds it. -/
theorem loadNewPlugins_kept (site : SiteConfig) (directories : List (String × PluginSource))
    (h : SystemKeys w) {id : ℕ} (hid : id < w.next)
    (hnone : ∀ directory ∈ directories, ∀ name version,
      directory.2.replaces = some (name, version) → ∀ s, w.findUnique name version = some s →
        id ∈ s.instances.map (·.id) → w.instances id = none) :
    (loadNewPlugins site directories w).2.instances id = w.instances id := by
  induction directories generalizing w with
  | nil => rfl
  | cons directory rest ih =>
    obtain ⟨path, source⟩ := directory
    obtain ⟨hfirst, hrest⟩ := List.forall_mem_cons.mp hnone
    have hrewrites := rewrites_loadPlugin site path source h
    have hkept : (loadPlugin site path source w).2.instances id = w.instances id := by
      by_cases hstored : w.instances id = none
      · rw [hstored]
        exact hrewrites.none_of_none hid hstored
      · exact hrewrites.kept id hid fun s name version hreplaces hfind hmem =>
          hstored (hfirst name version hreplaces s hfind hmem)
    rw [loadNewPlugins_cons_world, ← hkept]
    refine ih hrewrites.keys (hid.trans_le hrewrites.next) ?_
    intro directory hdirectory name version hreplaces s hfind hmem
    rw [hkept]
    obtain ⟨hs, hkey⟩ := hrewrites.keys.findUnique_eq_some.mp hfind
    rcases hrewrites.systems s hs with hold | hnew
    · exact hrest directory hdirectory name version hreplaces s
        (h.findUnique_eq_some.mpr ⟨hold, hkey⟩) hmem
    · obtain ⟨i, hi, rfl⟩ := List.mem_map.mp hmem
      exact absurd hid (hnew i hi).not_gt

/-- The first directory that is loaded under the name and version of a system
deletes its documents. -/
theorem loadNewPlugins_deleted (site : SiteConfig) (directories : List (String × PluginSource))
    (h : SystemKeys w) {id : ℕ} (hid : id < w.next) {directory : String × PluginSource}
    (hdirectory : directory ∈ directories) {name version : String}
    (hreplaces : directory.2.replaces = some (name, version)) {s : System}
    (hfind : w.findUnique name version = some s) (hmem : id ∈ s.instances.map (·.id)) :
    (loadNewPlugins site directories w).2.instances id = none := by
  induction directories generalizing w with
  | nil => exact absurd hdirectory List.not_mem_nil
  | cons first rest ih =>
    obtain ⟨path, source⟩ := first
    have hrewrites := rewrites_loadPlugin site path source h
    rw [loadNewPlugins_cons_world]
    by_cases hsame : source.replaces = some (name, version)
    · exact loadNewPlugins_none_of_none site rest hrewrites.keys (hid.trans_le hrewrites.next)
        (hrewrites.deleted s name version hsame hfind id hid hmem)
    · obtain ⟨hs, hkey⟩ := h.findUnique_eq_some.mp hfind
      have hstored := hrewrites.stored s hs (hkey ▸ hsame)
      have hrest : directory ∈ rest := by
        rcases List.mem_cons.mp hdirectory with rfl | hrest
        · exact absurd hreplaces hsame
        · exact hrest
      exact ih hrewrites.keys (hid.trans_le hrewrites.next) hrest
        (hrewrites.keys.findUnique_eq_some.mpr ⟨hstored, hkey⟩)

/-- The documents of the registered plugins survive the loading exactly when no
directory is loaded under the name and version of a system that holds one. -/
theorem loadNewPlugins_documents_iff (site : SiteConfig)
    (directories : List (String × PluginSource)) (h : Identities w) :
    (∀ p ∈ w.registry, (loadNewPlugins site directories w).2.document p = w.document p) ↔
      NoneDeleted w (directories.map Prod.snd) := by
  constructor
  · intro hdocuments source hsource name version hreplaces s hfind p hp i hi hmem
    obtain ⟨directory, hdirectory, rfl⟩ := List.mem_map.mp hsource
    have hgone := loadNewPlugins_deleted site directories h.toSystemKeys (h.documents p hp i hi)
      hdirectory hreplaces hfind hmem
    have hinstance : p.instance? = some i := hi
    have hsame := hdocuments p hp
    unfold World.document at hsame
    rw [hinstance, Option.bind_some, Option.bind_some, hgone] at hsame
    exact hsame.symm
  · intro hnone p hp
    unfold World.document
    cases hinstance : p.instance? with
    | none => rfl
    | some i =>
      refine loadNewPlugins_kept site directories h.toSystemKeys (h.documents p hp i hinstance) ?_
      intro directory hdirectory name version hreplaces s hfind hmem
      exact hnone directory.2 (List.mem_map_of_mem hdirectory) name version hreplaces s hfind p hp i
        hinstance hmem

end Rewrites

section Registering

variable {site : SiteConfig} {path : String} {source : PluginSource} {config : PluginConfig}
  {system : System} {w : World} {instances : List String}

theorem address_registerInstances {q : LocalPluginRunner}
    (hq : q ∈ (registerInstances site path config system instances w).1) :
    w.next ≤ q.address ∧
      q.address < (registerInstances site path config system instances w).2.next := by
  induction instances generalizing w with
  | nil => exact absurd hq List.not_mem_nil
  | cons first rest ih =>
    let build := configuredRunner site path config system first
    have hnext : w.next + 1 ≤
        (registerInstances site path config system rest (w.buildAndRegister build)).2.next :=
      (registers_registerInstances site path config system rest (w.buildAndRegister build)).next
    rw [registerInstances_cons] at hq ⊢
    rcases List.mem_cons.mp hq with rfl | hq
    · exact ⟨le_rfl, hnext⟩
    · obtain ⟨hlow, hhigh⟩ := ih hq
      exact ⟨(Nat.le_succ w.next).trans hlow, hhigh⟩

/-- The runner that was just built is in the registry when its name was free. -/
theorem mem_buildAndRegister_iff {build : ℕ → LocalPluginRunner}
    (hbuild : (build w.next).address = w.next)
    (haddresses : ∀ p ∈ w.registry, p.address < w.next) :
    build w.next ∈ (w.buildAndRegister build).registry ↔
      w.registry.getPlugin (build w.next).uniqueName = none := by
  constructor
  · intro hmem
    by_contra htaken
    obtain ⟨q, hq⟩ := Option.ne_none_iff_exists'.mp htaken
    have hsame : (w.buildAndRegister build).registry = w.registry :=
      Registry.registerPlugin_of_some hq
    have hlt := haddresses _ (hsame ▸ hmem)
    rw [hbuild] at hlt
    exact lt_irrefl _ hlt
  · intro hfree
    show build w.next ∈ w.registry.registerPlugin (build w.next)
    rw [Registry.registerPlugin_of_none hfree]
    exact List.mem_append_right _ (List.mem_singleton.mpr rfl)

/-- The runners that are built are all registered exactly when their names are
free and distinct. -/
theorem registerInstances_registered_iff (haddresses : ∀ p ∈ w.registry, p.address < w.next) :
    (∀ q ∈ (registerInstances site path config system instances w).1,
      q ∈ (registerInstances site path config system instances w).2.registry) ↔
    (instances.map (getUniqueName system.name system.version)).Nodup ∧
      ∀ name ∈ instances.map (getUniqueName system.name system.version),
        w.registry.getPlugin name = none := by
  induction instances generalizing w with
  | nil => simp [registerInstances]
  | cons first rest ih =>
    let build := configuredRunner site path config system first
    have hbuild : Registers [(build w.next).uniqueName] w (w.buildAndRegister build) :=
      registers_buildAndRegister rfl
    have hfirst : build w.next ∈
        (registerInstances site path config system rest (w.buildAndRegister build)).2.registry ↔
          w.registry.getPlugin (build w.next).uniqueName = none := by
      rw [← mem_buildAndRegister_iff rfl haddresses]
      exact (registers_registerInstances site path config system rest _).mem_iff
        (Nat.lt_succ_self w.next)
    rw [registerInstances_cons, List.forall_mem_cons, hfirst, ih (hbuild.addresses haddresses),
      List.map_cons, List.nodup_cons, List.forall_mem_cons]
    constructor
    · rintro ⟨hname, hnodup, hothers⟩
      refine ⟨⟨fun hmem => ?_, hnodup⟩, hname, fun name hmem => ?_⟩
      · exact ((hbuild.free _).mp (hothers _ hmem)).2 (List.mem_singleton.mpr rfl)
      · exact ((hbuild.free name).mp (hothers name hmem)).1
    · rintro ⟨⟨hnot, hnodup⟩, hname, hothers⟩
      refine ⟨hname, hnodup, fun name hmem => (hbuild.free name).mpr ⟨hothers name hmem, ?_⟩⟩
      rw [List.mem_singleton]
      rintro rfl
      exact hnot hmem

/-- What a directory returns: nothing, or new runners that are all registered
exactly when their names are free and distinct. -/
theorem loadPlugin_registered_iff (site : SiteConfig) (path : String) (source : PluginSource)
    (haddresses : ∀ p ∈ w.registry, p.address < w.next) :
    (¬ source.Returns ∧ ∀ plugins, (loadPlugin site path source w).1 ≠ .loaded plugins) ∨
    source.Returns ∧ ∃ plugins, (loadPlugin site path source w).1 = .loaded plugins ∧
      (∀ q ∈ plugins, w.next ≤ q.address ∧ q.address < (loadPlugin site path source w).2.next) ∧
      ((∀ q ∈ plugins, q ∈ (loadPlugin site path source w).2.registry) ↔
        source.built.Nodup ∧ ∀ name ∈ source.built, w.registry.getPlugin name = none) := by
  by_cases hreturns : source.Returns
  · rcases loadPlugin_stages site path source w with
      ⟨-, -, hnot, -⟩ | ⟨config, -, ⟨-, hnot, -⟩ | ⟨instances, hbuilt, heq, hresult⟩⟩
    · exact absurd hreturns hnot
    · exact absurd hreturns hnot
    · have hsaved := quiet_saved w config
      refine .inr ⟨hreturns, _, hresult hreturns, ?_, ?_⟩
      · intro q hq
        rw [heq]
        obtain ⟨hlow, hhigh⟩ := address_registerInstances hq
        exact ⟨hsaved.next.trans hlow, hhigh⟩
      · rw [heq, hbuilt, ← hsaved.registry]
        refine registerInstances_registered_iff fun p hp => ?_
        exact (haddresses p (hsaved.registry ▸ hp)).trans_le hsaved.next
  · exact .inl ⟨hreturns, fun plugins hloaded => hreturns (returns_of_loaded hloaded)⟩

theorem registers_loadNewPlugins (site : SiteConfig) (directories : List (String × PluginSource))
    (w : World) : Registers (directories.flatMap fun d => d.2.built) w
      (loadNewPlugins site directories w).2 := by
  induction directories generalizing w with
  | nil => exact .of_registry_eq rfl le_rfl
  | cons directory rest ih =>
    obtain ⟨path, source⟩ := directory
    rw [loadNewPlugins_cons_world]
    exact (registers_loadPlugin site path source w).trans (ih _)

theorem address_loadNewPlugins {directories : List (String × PluginSource)}
    (haddresses : ∀ p ∈ w.registry, p.address < w.next) {q : LocalPluginRunner}
    (hq : q ∈ (loadNewPlugins site directories w).1) : w.next ≤ q.address := by
  induction directories generalizing w with
  | nil => exact absurd hq List.not_mem_nil
  | cons directory rest ih =>
    obtain ⟨path, source⟩ := directory
    have hregisters := registers_loadPlugin site path source w
    have hrest := @ih (loadPlugin site path source w).2 (hregisters.addresses haddresses)
    rcases loadPlugin_registered_iff site path source haddresses with
      ⟨-, hnever⟩ | ⟨-, plugins, hloaded, hnew, -⟩
    · rw [loadNewPlugins_of_not_loaded hnever] at hq
      exact hregisters.next.trans (hrest hq)
    · rw [loadNewPlugins_loaded hloaded] at hq
      rcases List.mem_append.mp hq with hq | hq
      · exact (hnew q hq).1
      · exact hregisters.next.trans (hrest hq)

/-- Everything that a scan loads is registered exactly when no unique name is
built twice or taken. -/
theorem loadNewPlugins_registered_iff (site : SiteConfig)
    (directories : List (String × PluginSource))
    (haddresses : ∀ p ∈ w.registry, p.address < w.next) {taken : List String}
    (htaken : ∀ name, w.registry.getPlugin name = none ↔ name ∉ taken) :
    (∀ q ∈ (loadNewPlugins site directories w).1,
      q ∈ (loadNewPlugins site directories w).2.registry) ↔
        NoClash taken (directories.map Prod.snd) := by
  induction directories generalizing w taken with
  | nil => exact iff_of_true (fun _ hq => absurd hq List.not_mem_nil) trivial
  | cons directory rest ih =>
    obtain ⟨path, source⟩ := directory
    let w₁ := (loadPlugin site path source w).2
    have hregisters : Registers source.built w w₁ := registers_loadPlugin site path source w
    have hrest := @ih w₁ (hregisters.addresses haddresses) (taken ++ source.built) fun name => by
      rw [hregisters.free, htaken, List.mem_append, not_or]
    have hlater := registers_loadNewPlugins site rest w₁
    rw [List.map_cons]
    unfold NoClash
    rw [← hrest]
    rcases loadPlugin_registered_iff site path source haddresses with
      ⟨hreturns, hnever⟩ | ⟨hreturns, plugins, hloaded, hnew, hiff⟩
    · rw [loadNewPlugins_of_not_loaded hnever]
      exact (and_iff_right fun h => absurd h hreturns).symm
    · have hfirst : (∀ q ∈ plugins, q ∈ (loadNewPlugins site rest w₁).2.registry) ↔
          (source.Returns → source.built.Nodup ∧ ∀ name ∈ source.built, name ∉ taken) := by
        have hsame : (∀ q ∈ plugins, q ∈ (loadNewPlugins site rest w₁).2.registry) ↔
            ∀ q ∈ plugins, q ∈ w₁.registry :=
          forall₂_congr fun q hq => hlater.mem_iff (hnew q hq).2
        rw [hsame, forall_prop_of_true hreturns]
        simpa only [htaken] using hiff
      rw [loadNewPlugins_loaded hloaded, List.forall_mem_append, hfirst]

end Registering

section Scanning

variable {popen : ℕ → Bool} {site : SiteConfig} {directories : List (String × PluginSource)}
  {systemNames : List String} {w w' : World} {p : LocalPluginRunner}

/-- The registry while the start loop works on runners of other names. -/
structure Spared (p : LocalPluginRunner) (queue : List LocalPluginRunner) (w : World) : Prop where
  distinct : w.registry.Distinct
  registered : w.Registered p
  others : ∀ q ∈ queue, p.uniqueName ≠ q.uniqueName

theorem distinct_startPlugin (h : w.registry.Distinct) (plugin : LocalPluginRunner) :
    (startPlugin popen plugin w).2.registry.Distinct := by
  rcases startPlugin_cases popen plugin w with ⟨result, heq⟩ | ⟨-, heq⟩ | ⟨-, heq⟩
  · rw [heq]
    exact h
  · rw [heq, launch_registry]
    exact h
  · rw [heq, launch_registry]
    exact (h.remove plugin.uniqueName).registerPlugin _

theorem Spared.visit {q : LocalPluginRunner} {rest : List LocalPluginRunner}
    {st st' : Progress World} (h : Spared p (q :: rest) st.world)
    (hvisit : visitPlugin (worldEffects popen) systemNames st q = .settle st' ∨
      ∃ e, visitPlugin (worldEffects popen) systemNames st q = .abort e st') :
    Spared p rest st'.world := by
  obtain ⟨hname, hothers⟩ := List.forall_mem_cons.mp h.others
  rcases visitPlugin_world hvisit with heq | hquiet
  · rw [heq]
    exact ⟨distinct_startPlugin h.distinct q, h.registered.startPlugin_of_ne h.distinct hname,
      hothers⟩
  · exact ⟨hquiet.registry ▸ h.distinct, h.registered.quiet hquiet, hothers⟩

theorem Spared.rotate {q : LocalPluginRunner} {rest : List LocalPluginRunner}
    (h : Spared p (q :: rest) w) : Spared p (rest ++ [q]) w where
  distinct := h.distinct
  registered := h.registered
  others r hr := h.others r ((List.perm_append_singleton q rest).mem_iff.mp hr)

theorem Spared.reaches {queue queue' : List LocalPluginRunner} {st st' : Progress World}
    (h : Spared p queue st.world)
    (hreach : RotatingQueue.Reaches (visitPlugin (worldEffects popen) systemNames)
      queue st queue' st') : Spared p queue' st'.world := by
  refine hreach.invariant (I := fun queue st => Spared p queue st.world) h ?_ ?_
  · intro q rest st st' hspared hvisit
    exact hspared.visit (.inl hvisit)
  · intro q rest st hspared _
    exact hspared.rotate

/-- What a scan may not do: take a registered plugin out of the registry, change
the document of its instance while it loads, or start a runner that the registry
does not know. -/
structure ScanKeeps (popen : ℕ → Bool) (site : SiteConfig)
    (directories : List (String × PluginSource)) (w : World) : Prop where
  registered : ∀ p ∈ w.registry, ∀ w',
    (ManagerOperation.scanPluginPath popen site directories).Ends w w' ∨
      (ManagerOperation.scanPluginPath popen site directories).Passes w w' → w'.Registered p
  documents : ∀ p ∈ w.registry,
    (loadNewPlugins site (newDirectories directories w) w).2.document p = w.document p
  started : ∀ q ∈ (loadNewPlugins site (newDirectories directories w) w).1,
    q ∈ (loadNewPlugins site (newDirectories directories w) w).2.registry

theorem Identities.spared (h : Identities w) (hp : p ∈ w.registry)
    (hstarted : ∀ q ∈ (loadNewPlugins site directories w).1,
      q ∈ (loadNewPlugins site directories w).2.registry) :
    Spared p (loadNewPlugins site directories w).1.reverse
      (loadNewPlugins site directories w).2 := by
  have hregisters := registers_loadNewPlugins site directories w
  have hdistinct := hregisters.distinct h.distinct
  have hmem := hregisters.kept p hp
  refine ⟨hdistinct, hdistinct.getPlugin_of_mem hmem, fun q hq hname => ?_⟩
  have hloaded := List.mem_reverse.mp hq
  have hsame := hdistinct.eq_of_uniqueName_eq hmem (hstarted q hloaded) hname
  have hnew := address_loadNewPlugins h.addresses hloaded
  rw [← hsame] at hnew
  exact absurd (h.addresses p hp) hnew.not_gt

theorem Spared.startMultiplePlugins {plugins : List LocalPluginRunner} {snap : Snapshot} {fuel : ℕ}
    {ending : RotatingQueue.Ending (Progress World) StartError} (h : Spared p plugins.reverse w)
    (hends : startMultiplePlugins (worldEffects popen) snap fuel plugins w = some ending) :
    ending.state.world.Registered p := by
  unfold Bartender.startMultiplePlugins at hends
  rw [whileLoop_eq_run] at hends
  have hended : ∃ queue, Spared p queue ending.state.world := by
    refine RotatingQueue.invariant_of_run (I := fun queue st => Spared p queue st.world) hends
      h ?_ ?_
    · intro q rest st st' hspared hvisit
      exact hspared.visit hvisit
    · intro q rest st hspared _
      exact hspared.rotate
  obtain ⟨queue, hspared⟩ := hended
  exact hspared.registered

/-- The plugins that were there stay, at the end of the scan and while it starts
what it has loaded. -/
theorem Identities.registered_scan (h : Identities w) (hp : p ∈ w.registry)
    (hstarted : ∀ q ∈ (loadNewPlugins site (newDirectories directories w) w).1,
      q ∈ (loadNewPlugins site (newDirectories directories w) w).2.registry)
    (hscan : (ManagerOperation.scanPluginPath popen site directories).Ends w w' ∨
      (ManagerOperation.scanPluginPath popen site directories).Passes w w') :
    w'.Registered p := by
  have hspared := h.spared hp hstarted
  rcases hscan with ⟨fuel, ending, hends, rfl⟩ | ⟨queue, st, hreach, rfl⟩
  · exact hspared.startMultiplePlugins hends
  · refine (Spared.reaches ?_ hreach).registered
    exact hspared

/-- A scan keeps to what is new exactly when path, stored system and unique name
agree about it: no directory that returns its runners builds a name that is
taken, and none that comes to the deletion declares a system that holds the
document of a registered plugin. -/
theorem scanPluginPath_keeps_iff (popen : ℕ → Bool) (site : SiteConfig)
    (directories : List (String × PluginSource)) (h : Identities w) :
    ScanKeeps popen site directories w ↔
      NoClash (w.registry.map LocalPluginRunner.uniqueName)
          ((newDirectories directories w).map Prod.snd) ∧
        NoneDeleted w ((newDirectories directories w).map Prod.snd) := by
  have htaken : ∀ name, w.registry.getPlugin name = none ↔
      name ∉ w.registry.map LocalPluginRunner.uniqueName := by
    intro name
    rw [Registry.getPlugin_eq_none_iff, List.mem_map]
    push Not
    rfl
  have hregistered :=
    loadNewPlugins_registered_iff site (newDirectories directories w) h.addresses htaken
  have hdocuments := loadNewPlugins_documents_iff site (newDirectories directories w) h
  constructor
  · intro hkeeps
    exact ⟨hregistered.mp hkeeps.started, hdocuments.mp hkeeps.documents⟩
  · rintro ⟨hclash, hnone⟩
    have hstarted := hregistered.mpr hclash
    exact ⟨fun p hp w' => h.registered_scan hp hstarted, hdocuments.mpr hnone, hstarted⟩

theorem identities_single {plugin : LocalPluginRunner} (haddress : plugin.address = 0)
    (hsystem : plugin.system.id = 0) (hinstances : ∀ i ∈ plugin.instance?, i.id = 0)
    (status : Status) (runtime : Runtime) : Identities (.single plugin status runtime) where
  allocated s hs := by
    rw [List.mem_singleton.mp hs, hsystem]
    exact Nat.zero_lt_one
  ids := List.nodup_singleton _
  keys := List.nodup_singleton _
  distinct := List.nodup_singleton _
  addresses p hp := by
    rw [List.mem_singleton.mp hp, haddress]
    exact Nat.zero_lt_one
  documents p hp i hi := by
    rw [List.mem_singleton.mp hp] at hi
    rw [hinstances i hi]
    exact Nat.zero_lt_one

/-- A directory with a plugin of its own. -/
theorem scanPluginPath_keeps_iff_bar :
    ScanKeeps (fun _ => true) localSite [("/plugins/bar", singleSource "bar")]
        (.single (singlePlugin "foo" []) .running .fresh) ↔
      NoClash ["foo[default]-1.0"] [singleSource "bar"] ∧
        NoneDeleted (.single (singlePlugin "foo" []) .running .fresh) [singleSource "bar"] :=
  scanPluginPath_keeps_iff (fun _ => true) localSite [("/plugins/bar", singleSource "bar")]
    (identities_single rfl rfl (by decide) .running .fresh)

/-- The copy of a plugin directory: the document of the plugin that is there is
deleted, and the runner that is started is not in the registry. -/
theorem scanPluginPath_copy :
    Identities (.single (singlePlugin "foo" []) .running .fresh) ∧
      ¬ ScanKeeps (fun _ => true) localSite [("/plugins/copy", singleSource "foo")]
        (.single (singlePlugin "foo" []) .running .fresh) ∧
      ((loadNewPlugins localSite [("/plugins/copy", singleSource "foo")]
        (.single (singlePlugin "foo" []) .running .fresh)).2.document (singlePlugin "foo" []) =
          none) ∧
      ∃ q ∈ (loadNewPlugins localSite [("/plugins/copy", singleSource "foo")]
        (.single (singlePlugin "foo" []) .running .fresh)).1,
        q ∉ (loadNewPlugins localSite [("/plugins/copy", singleSource "foo")]
          (.single (singlePlugin "foo" []) .running .fresh)).2.registry := by
  have hdeleted : (loadNewPlugins localSite [("/plugins/copy", singleSource "foo")]
      (.single (singlePlugin "foo" []) .running .fresh)).2.document (singlePlugin "foo" []) =
        none := by decide
  refine ⟨identities_single rfl rfl (by decide) .running .fresh, fun hkeeps => ?_, hdeleted,
    by decide⟩
  have hsame := hkeeps.documents (singlePlugin "foo" []) List.mem_cons_self
  have hnew : newDirectories [("/plugins/copy", singleSource "foo")]
      (.single (singlePlugin "foo" []) .running .fresh) =
        [("/plugins/copy", singleSource "foo")] := rfl
  rw [hnew, hdeleted] at hsame
  cases hsame

end Scanning
end Bartender
