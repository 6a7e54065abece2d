import Bartender.Library.Dependencies
import Bartender.Plugins.Registry

/-!
# Requirement validation after loading

`validate_plugin_requirements` looks once at every loaded plugin and removes
those that require a name no loaded plugin has. It does not look again at what
the removals leave behind.
-/

namespace Bartender

open Dependencies

/-- A plugin is listed once for each of its requirements that nobody provides. -/
def pluginsToRemove (registry : Registry) : List LocalPluginRunner :=
  let pluginNames := registry.getUniquePluginNames
  registry.getAllPlugins.flatMap fun plugin =>
    (plugin.requirements.filter fun required => required ∉ pluginNames).map fun _ => plugin

def validatePluginRequirements (registry : Registry) : Registry :=
  (pluginsToRemove registry).foldl (fun registry plugin => registry.remove plugin.uniqueName)
    registry

theorem mem_pluginsToRemove {registry : Registry} {p : LocalPluginRunner} :
    p ∈ pluginsToRemove registry ↔
      p ∈ registry ∧ ∃ r ∈ p.requirements, ∀ q ∈ registry, q.system.name ≠ r := by
  simp only [pluginsToRemove, Registry.getAllPlugins, List.mem_flatMap, List.mem_map,
    List.mem_filter, decide_eq_true_eq, Registry.mem_getUniquePluginNames, not_exists, not_and]
  constructor
  · rintro ⟨q, hq, r, ⟨hr, hno⟩, rfl⟩
    exact ⟨hq, r, hr, hno⟩
  · rintro ⟨hp, r, hr, hno⟩
    exact ⟨p, hp, r, ⟨hr, hno⟩, rfl⟩

theorem mem_validatePluginRequirements {registry : Registry} (h : registry.Distinct)
    {p : LocalPluginRunner} :
    p ∈ validatePluginRequirements registry ↔
      p ∈ onePass (fun p => p.system.name) LocalPluginRunner.requirements {p | p ∈ registry} := by
  have hfold : validatePluginRequirements registry =
      ((pluginsToRemove registry).map LocalPluginRunner.uniqueName).foldl Registry.remove
        registry := by
    rw [List.foldl_map]
    rfl
  rw [hfold, h.foldl_remove, List.mem_filter]
  refine and_congr_right fun hp => ?_
  simp only [decide_eq_true_eq, List.mem_map, not_exists, not_and, mem_pluginsToRemove]
  constructor
  · intro hkept r hr
    by_contra hno
    exact hkept p ⟨hp, r, hr, fun q hq hname => hno ⟨q, hq, hname⟩⟩ rfl
  · rintro hall q ⟨hq, r, hr, hno⟩ hname
    obtain rfl := h.eq_of_uniqueName_eq hq hp hname
    obtain ⟨b, hb, hb'⟩ := hall r hr
    exact hno b hb hb'

/-- The plugins that stay are the greatest self-sufficient subset of those that
were loaded exactly when no plugin whose requirements are all loaded requires a
name whose providers all lack one of theirs. -/
theorem validatePluginRequirements_greatest_iff {registry : Registry} (h : registry.Distinct) :
    IsGreatest
        {members | members ⊆ {p | p ∈ registry} ∧
          SelfSufficient (fun p => p.system.name) LocalPluginRunner.requirements members}
        {p | p ∈ validatePluginRequirements registry} ↔
      ∀ p ∈ registry, (∀ r ∈ p.requirements, ∃ q ∈ registry, q.system.name = r) →
        ∀ r ∈ p.requirements, ∃ q ∈ registry, q.system.name = r ∧
          ∀ r' ∈ q.requirements, ∃ q' ∈ registry, q'.system.name = r' := by
  have hset : {p | p ∈ validatePluginRequirements registry} =
      onePass (fun p => p.system.name) LocalPluginRunner.requirements {p | p ∈ registry} :=
    Set.ext fun p => mem_validatePluginRequirements h
  rw [hset, isGreatest_onePass_iff]
  constructor
  · intro hclosed p hp hall r hr
    obtain ⟨q, ⟨hq, hq'⟩, hname⟩ := hclosed p ⟨hp, hall⟩ r hr
    exact ⟨q, hq, hname, hq'⟩
  · rintro hcond p ⟨hp, hall⟩ r hr
    obtain ⟨q, hq, hname, hq'⟩ := hcond p hp hall r hr
    exact ⟨q, ⟨hq, hq'⟩, hname⟩

theorem validatePluginRequirements_greatest_pair :
    IsGreatest
      {members | members ⊆ {p | p ∈ [singlePlugin "web" ["db"], singlePlugin "db" []]} ∧
        SelfSufficient (fun p => p.system.name) LocalPluginRunner.requirements members}
      {p | p ∈ validatePluginRequirements [singlePlugin "web" ["db"], singlePlugin "db" []]} := by
  refine (validatePluginRequirements_greatest_iff (by decide)).mpr ?_
  simp [singlePlugin]

/-- Removing `job` takes away the only provider that `web` has, and `web` stays. -/
theorem validatePluginRequirements_chain :
    validatePluginRequirements [singlePlugin "web" ["job"], singlePlugin "job" ["lost"]] =
        [singlePlugin "web" ["job"]] ∧
      ¬ IsGreatest
        {members | members ⊆
            {p | p ∈ [singlePlugin "web" ["job"], singlePlugin "job" ["lost"]]} ∧
          SelfSufficient (fun p => p.system.name) LocalPluginRunner.requirements members}
        {p | p ∈ validatePluginRequirements
          [singlePlugin "web" ["job"], singlePlugin "job" ["lost"]]} := by
  have hkept : validatePluginRequirements
      [singlePlugin "web" ["job"], singlePlugin "job" ["lost"]] =
        [singlePlugin "web" ["job"]] := by decide
  refine ⟨hkept, fun h => ?_⟩
  rw [hkept] at h
  simpa [singlePlugin] using
    h.1.2 (singlePlugin "web" ["job"]) (by simp) "job" (by simp [singlePlugin])

end Bartender
