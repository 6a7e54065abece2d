import Bartender.Library.OrderedMap
import Bartender.Library.Runs
import Bartender.Plugins.Manager

/-!
# The registry as an insertion-ordered map

`LocalPluginRegistry` scans a list for the first runner of a name, and
`start_plugin` replaces a runner by a removal and a registration. Next to the
registry runs a map from unique names to runners that only ever erases keys and
inserts absent ones; the registry holds the map's entries at all times.
-/

namespace Bartender

/-- What happens to a registry: its own two operations, a call of `start_plugin`,
and anything that writes instance documents, through which statuses change. -/
inductive RegistryOperation
  | register (plugin : LocalPluginRunner)
  | remove (uniqueName : String)
  | start (plugin : LocalPluginRunner) (popen : ℕ → Bool)
  | write (instances : ℕ → Option InstanceDocument)

structure FollowedWorld where
  world : World
  map : OrderedMap String LocalPluginRunner

namespace RegistryOperation

def run : RegistryOperation → World → World
  | .register plugin, w => { w with registry := w.registry.registerPlugin plugin }
  | .remove uniqueName, w => { w with registry := w.registry.remove uniqueName }
  | .start plugin popen, w => (startPlugin popen plugin w).2
  | .write instances, w => { w with instances }

/-- What it means for the map. Starting a plugin that is down puts the runner
that is built for it in its place. -/
def follow : RegistryOperation → World → OrderedMap String LocalPluginRunner →
    OrderedMap String LocalPluginRunner
  | .register plugin, _, map => map.insertIfAbsent plugin.uniqueName plugin
  | .remove uniqueName, _, map => map.erase uniqueName
  | .start plugin _, w, map =>
    if (w.status plugin).IsDown then
      (map.erase plugin.uniqueName).insertIfAbsent plugin.uniqueName (rebuild plugin w.next)
    else map
  | .write _, _, map => map

def apply (op : RegistryOperation) (s : FollowedWorld) : FollowedWorld :=
  ⟨op.run s.world, op.follow s.world s.map⟩

end RegistryOperation

namespace Registry

variable {registry : Registry} {map : OrderedMap String LocalPluginRunner}

/-- The registry lists the runners of the map in the order of their keys. -/
def Lists (registry : Registry) (map : OrderedMap String LocalPluginRunner) : Prop :=
  map.entries = registry.map fun p => (p.uniqueName, p)

namespace Lists

theorem distinct (h : Lists registry map) : Distinct registry := by
  have hnodup := map.nodup
  rwa [h, List.map_map] at hnodup

theorem values (h : Lists registry map) : map.values = registry := by
  unfold OrderedMap.values
  rw [h, List.map_map]
  exact List.map_id registry

theorem getPlugin (h : Lists registry map) (name : String) :
    Registry.getPlugin registry name = map.lookup name := by
  unfold OrderedMap.lookup Registry.getPlugin
  rw [h, List.find?_map, Option.map_map]
  exact Option.map_id'.symm

theorem remove (h : Lists registry map) (name : String) :
    Lists (Registry.remove registry name) (map.erase name) := by
  unfold Lists
  rw [h.distinct.remove_eq_filter, OrderedMap.entries_erase, h, List.filter_map]
  rfl

theorem registerPlugin (h : Lists registry map) (p : LocalPluginRunner) :
    Lists (Registry.registerPlugin registry p) (map.insertIfAbsent p.uniqueName p) := by
  have hget := h.getPlugin p.uniqueName
  cases hfind : map.lookup p.uniqueName with
  | none =>
    unfold Lists
    rw [registerPlugin_of_none (hget.trans hfind),
      OrderedMap.entries_insertIfAbsent_of_none hfind, h, List.map_append, List.map_singleton]
  | some q =>
    rwa [registerPlugin_of_some (hget.trans hfind), OrderedMap.insertIfAbsent_of_some hfind]

end Lists

theorem Distinct.filter_eq_singleton (h : Distinct registry) {name : String}
    {p : LocalPluginRunner} (hfind : Registry.getPlugin registry name = some p) :
    registry.filter (fun q => q.uniqueName == name) = [p] := by
  obtain ⟨hmem, rfl⟩ := mem_of_getPlugin hfind
  have hself : ∀ q ∈ registry, (q.uniqueName == p.uniqueName) = (q == p) := by
    intro q hq
    rw [Bool.eq_iff_iff, beq_iff_eq, beq_iff_eq]
    exact ⟨h.eq_of_uniqueName_eq hq hmem, congrArg _⟩
  rw [List.filter_congr hself, List.filter_beq,
    List.count_eq_one_of_mem (List.Nodup.of_map _ h) hmem, List.replicate_one]

theorem filter_eq_nil_iff_getPlugin {name : String} :
    registry.filter (fun q => q.uniqueName == name) = [] ↔
      Registry.getPlugin registry name = none := by
  rw [getPlugin_eq_none_iff, List.filter_eq_nil_iff]
  simp

theorem pluginExists_iff {name version : String} :
    pluginExists registry name version = true ↔
      ∃ p ∈ registry, p.system.name = name ∧ p.system.version = version := by
  simp [pluginExists]

end Registry

theorem startPlugin_registry (popen : ℕ → Bool) (plugin : LocalPluginRunner) (w : World) :
    (startPlugin popen plugin w).2.registry =
      if (w.status plugin).IsDown then
        (w.registry.remove plugin.uniqueName).registerPlugin (rebuild plugin w.next)
      else w.registry := by
  unfold startPlugin
  cases w.status plugin <;> simp [Status.IsDown, World.replaceInRegistry, World.addRunner]

theorem RegistryOperation.lists_apply (op : RegistryOperation) {s : FollowedWorld}
    (h : s.world.registry.Lists s.map) :
    (op.apply s).world.registry.Lists (op.apply s).map := by
  cases op with
  | register plugin => exact h.registerPlugin plugin
  | remove uniqueName => exact h.remove uniqueName
  | start plugin popen =>
    unfold RegistryOperation.apply RegistryOperation.run RegistryOperation.follow
    dsimp only
    rw [startPlugin_registry]
    split_ifs
    · exact (h.remove plugin.uniqueName).registerPlugin (rebuild plugin s.world.next)
    · exact h
  | write instances => exact h

/-- What the registry does and answers in a state, in terms of the map. -/
structure FollowedWorld.ActsAsMap (s : FollowedWorld) : Prop where
  lists : s.world.registry.Lists s.map
  distinct : s.world.registry.Distinct
  getPlugin name : s.world.registry.getPlugin name = s.map.lookup name
  onlyEntry name p : s.world.registry.getPlugin name = some p ↔
    s.world.registry.filter (fun q => q.uniqueName == name) = [p]
  noEntry name : s.world.registry.getPlugin name = none ↔
    s.world.registry.filter (fun q => q.uniqueName == name) = []
  remove name : s.world.registry.remove name =
    s.world.registry.filter fun q => q.uniqueName != name
  registerPresent p : p.uniqueName ∈ s.world.registry.map (·.uniqueName) →
    s.world.registry.registerPlugin p = s.world.registry
  registerAbsent p : p.uniqueName ∉ s.world.registry.map (·.uniqueName) →
    s.world.registry.registerPlugin p = s.world.registry ++ [p]
  /-- The new runner is the only one of its name and comes last. -/
  startDown popen p : (s.world.status p).IsDown →
    (startPlugin popen p s.world).2.registry.filter (fun q => q.uniqueName == p.uniqueName) =
        [rebuild p s.world.next] ∧
      (startPlugin popen p s.world).2.registry =
        (s.world.registry.filter fun q => q.uniqueName != p.uniqueName) ++
          [rebuild p s.world.next]
  startOther popen p : ¬ (s.world.status p).IsDown →
    (startPlugin popen p s.world).2.registry = s.world.registry
  getAllPlugins : s.world.registry.getAllPlugins = s.map.values
  getPluginsBySystem name version : s.world.registry.getPluginsBySystem name version =
    s.map.values.filter fun p => p.system.name = name ∧ p.system.version = version
  pluginExists name version : s.world.registry.pluginExists name version = true ↔
    ∃ key p, s.map.lookup key = some p ∧ p.system.name = name ∧ p.system.version = version
  getUniquePluginNames name : name ∈ s.world.registry.getUniquePluginNames ↔
    ∃ key p, s.map.lookup key = some p ∧ p.system.name = name
  getUniquePluginNames_nodup : s.world.registry.getUniquePluginNames.Nodup

theorem Registry.Distinct.registerPlugin_remove {registry : Registry} (h : registry.Distinct)
    (p : LocalPluginRunner) : (registry.remove p.uniqueName).registerPlugin p =
      (registry.filter fun q => q.uniqueName != p.uniqueName) ++ [p] := by
  rw [Registry.registerPlugin_of_none (h.getPlugin_remove_self p.uniqueName), h.remove_eq_filter]

theorem Registry.Lists.actsAsMap {s : FollowedWorld} (h : s.world.registry.Lists s.map) :
    s.ActsAsMap where
  lists := h
  distinct := h.distinct
  getPlugin := h.getPlugin
  onlyEntry name p := by
    constructor
    · exact h.distinct.filter_eq_singleton
    · intro honly
      obtain ⟨hmem, hname⟩ := List.mem_filter.mp (honly ▸ List.mem_singleton_self p)
      rw [← eq_of_beq hname]
      exact h.distinct.getPlugin_of_mem hmem
  noEntry name := Registry.filter_eq_nil_iff_getPlugin.symm
  remove := h.distinct.remove_eq_filter
  registerPresent p hpresent := by
    obtain ⟨q, hq, hname⟩ := List.mem_map.mp hpresent
    have hfind := h.distinct.getPlugin_of_mem hq
    rw [hname] at hfind
    exact Registry.registerPlugin_of_some hfind
  registerAbsent p habsent := by
    apply Registry.registerPlugin_of_none
    rw [Registry.getPlugin_eq_none_iff]
    exact fun q hq hname => habsent (hname ▸ List.mem_map_of_mem hq)
  startDown popen p hdown := by
    have hreplaced : (startPlugin popen p s.world).2.registry =
        (s.world.registry.filter fun q => q.uniqueName != p.uniqueName) ++
          [rebuild p s.world.next] := by
      rw [startPlugin_registry, if_pos hdown]
      exact h.distinct.registerPlugin_remove (rebuild p s.world.next)
    refine ⟨?_, hreplaced⟩
    rw [hreplaced, List.filter_append, List.filter_filter]
    have hname : (rebuild p s.world.next).uniqueName = p.uniqueName := rfl
    simp [hname]
  startOther popen p hup := by rw [startPlugin_registry, if_neg hup]
  getAllPlugins := h.values.symm
  getPluginsBySystem name version := by
    rw [h.values]
    unfold Registry.getPluginsBySystem
    congr 1
    funext p
    exact Bool.eq_iff_iff.mpr (by simp)
  pluginExists name version := by
    rw [Registry.pluginExists_iff, ← h.values]
    simp only [OrderedMap.mem_values_iff]
    grind
  getUniquePluginNames name := by
    rw [Registry.mem_getUniquePluginNames, ← h.values]
    simp only [OrderedMap.mem_values_iff]
    grind
  getUniquePluginNames_nodup := List.nodup_dedup _

/-- Over every sequence of registrations, removals and starts, whatever the
statuses become in between, an initially empty registry is the map. -/
theorem registry_actsAsMap (w : World) (ops : List RegistryOperation) :
    Runs.Throughout RegistryOperation.apply FollowedWorld.ActsAsMap ops
      ⟨{ w with registry := [] }, .empty⟩ := by
  have hempty : Registry.Lists [] .empty := rfl
  have hlists : Runs.Throughout RegistryOperation.apply _ ops ⟨{ w with registry := [] }, .empty⟩ :=
    Runs.throughout_of_step (I := fun s : FollowedWorld => s.world.registry.Lists s.map)
      (fun op _ h => op.lists_apply h) hempty ops
  exact hlists.imp fun _ h => h.actsAsMap

end Bartender
