import Bartender.Plugins.Runner
import Mathlib.Data.List.Nodup
import Mathlib.Tactic

/-!
# The plugin registry

`LocalPluginRegistry` keeps a list of runners. Its scans stop at the first
entry that matches, so what a removal or a lookup does to the rest of the list
depends on the unique names being distinct.
-/

namespace Bartender

/-- The list behind `LocalPluginRegistry`. -/
abbrev Registry := List LocalPluginRunner

namespace Registry

variable (registry : Registry)

def getAllPlugins : List LocalPluginRunner := registry

def getUniquePluginNames : List String :=
  (registry.map fun p => p.system.name).dedup

def getPlugin (uniqueName : String) : Option LocalPluginRunner :=
  registry.find? fun p => p.uniqueName == uniqueName

def getPluginsBySystem (systemName systemVersion : String) : List LocalPluginRunner :=
  registry.filter fun p => p.system.name == systemName && p.system.version == systemVersion

def remove (uniqueName : String) : Registry :=
  registry.eraseP fun p => p.uniqueName == uniqueName

def registerPlugin (plugin : LocalPluginRunner) : Registry :=
  match getPlugin registry plugin.uniqueName with
  | none => registry ++ [plugin]
  | some _ => registry

def pluginExists (pluginName pluginVersion : String) : Bool :=
  registry.any fun p => p.system.name == pluginName && p.system.version == pluginVersion

/-- Unique names are pairwise distinct. -/
def Distinct : Prop := (registry.map LocalPluginRunner.uniqueName).Nodup

instance : Decidable (Distinct registry) :=
  inferInstanceAs (Decidable (registry.map LocalPluginRunner.uniqueName).Nodup)

variable {registry}

theorem mem_getUniquePluginNames {name : String} :
    name ∈ getUniquePluginNames registry ↔ ∃ p ∈ registry, p.system.name = name := by
  simp [getUniquePluginNames]

theorem Distinct.eq_of_uniqueName_eq (h : Distinct registry) {p q : LocalPluginRunner}
    (hp : p ∈ registry) (hq : q ∈ registry) (hname : p.uniqueName = q.uniqueName) : p = q :=
  List.inj_on_of_nodup_map h hp hq hname

theorem Distinct.remove_eq_filter (h : Distinct registry) (name : String) :
    remove registry name = registry.filter fun p => p.uniqueName != name := by
  induction registry with
  | nil => rfl
  | cons p registry ih =>
    obtain ⟨hp, htail⟩ := List.nodup_cons.mp h
    by_cases hname : p.uniqueName = name
    · have hrest : ∀ q ∈ registry, (q.uniqueName != name) = true := by
        intro q hq
        have : q.uniqueName ≠ p.uniqueName := fun he => hp (List.mem_map.mpr ⟨q, hq, he⟩)
        simpa [← hname] using this
      simp [remove, hname, List.filter_eq_self.mpr hrest]
    · simp only [remove, List.eraseP_cons, List.filter_cons] at ih ⊢
      simp [hname, beq_eq_false_iff_ne.mpr hname, ← ih htail]

theorem Distinct.sublist (h : Distinct registry) {registry' : Registry}
    (hsub : registry'.Sublist registry) : Distinct registry' :=
  List.Nodup.sublist (hsub.map _) h

theorem Distinct.foldl_remove (h : Distinct registry) (names : List String) :
    names.foldl remove registry = registry.filter fun p => p.uniqueName ∉ names := by
  induction names generalizing registry with
  | nil => simp
  | cons name names ih =>
    have hdistinct : Distinct (remove registry name) := by
      rw [h.remove_eq_filter]
      exact h.sublist List.filter_sublist
    rw [List.foldl_cons, ih hdistinct, h.remove_eq_filter, List.filter_filter]
    congr 1
    funext p
    by_cases hname : p.uniqueName = name <;> simp [hname]

theorem Distinct.remove_getPluginsBySystem (h : Distinct registry) (name version : String) :
    ((getPluginsBySystem registry name version).map (·.uniqueName)).foldl remove registry =
      registry.filter fun p => !(p.system.name == name && p.system.version == version) := by
  rw [h.foldl_remove]
  apply List.filter_congr
  intro p hp
  have hmem : p.uniqueName ∈ (getPluginsBySystem registry name version).map (·.uniqueName) ↔
      (p.system.name == name && p.system.version == version) = true := by
    constructor
    · intro hnames
      obtain ⟨q, hq, hname⟩ := List.mem_map.mp hnames
      obtain ⟨hregistered, hsystem⟩ := List.mem_filter.mp hq
      rwa [h.eq_of_uniqueName_eq hp hregistered hname.symm]
    · intro hsystem
      exact List.mem_map_of_mem (List.mem_filter.mpr ⟨hp, hsystem⟩)
  rw [decide_not]
  congr 1
  exact Bool.eq_iff_iff.mpr (by rw [decide_eq_true_iff, hmem])

theorem getPlugin_eq_none_iff {name : String} :
    getPlugin registry name = none ↔ ∀ p ∈ registry, p.uniqueName ≠ name := by
  simp [getPlugin]

theorem mem_of_getPlugin {name : String} {p : LocalPluginRunner}
    (h : getPlugin registry name = some p) : p ∈ registry ∧ p.uniqueName = name :=
  ⟨List.mem_of_find?_eq_some h, by simpa using List.find?_some h⟩

theorem Distinct.getPlugin_of_mem (h : Distinct registry) {p : LocalPluginRunner}
    (hp : p ∈ registry) : getPlugin registry p.uniqueName = some p := by
  cases hfind : getPlugin registry p.uniqueName with
  | none => exact absurd rfl (getPlugin_eq_none_iff.mp hfind p hp)
  | some q =>
    obtain ⟨hq, hname⟩ := mem_of_getPlugin hfind
    rw [h.eq_of_uniqueName_eq hq hp hname]

theorem Distinct.remove (h : Distinct registry) (name : String) :
    Distinct (remove registry name) :=
  h.sublist List.eraseP_sublist

theorem Distinct.getPlugin_remove_self (h : Distinct registry) (name : String) :
    getPlugin (Registry.remove registry name) name = none := by
  rw [h.remove_eq_filter, getPlugin_eq_none_iff]
  intro p hp
  simpa using (List.mem_filter.mp hp).2

theorem Distinct.getPlugin_remove_of_ne (h : Distinct registry) {name other : String}
    (hne : other ≠ name) :
    getPlugin (Registry.remove registry name) other = getPlugin registry other := by
  rw [h.remove_eq_filter, getPlugin, getPlugin, List.find?_filter]
  congr 1
  funext p
  by_cases hp : p.uniqueName = other <;> simp [hp, hne]

theorem registerPlugin_of_none {p : LocalPluginRunner}
    (h : getPlugin registry p.uniqueName = none) : registerPlugin registry p = registry ++ [p] := by
  simp [registerPlugin, h]

theorem registerPlugin_of_some {p q : LocalPluginRunner}
    (h : getPlugin registry p.uniqueName = some q) : registerPlugin registry p = registry := by
  simp [registerPlugin, h]

theorem mem_registerPlugin {p q : LocalPluginRunner}
    (hq : q ∈ Registry.registerPlugin registry p) : q ∈ registry ∨ q = p := by
  cases hfind : getPlugin registry p.uniqueName with
  | none =>
    rw [registerPlugin_of_none hfind] at hq
    exact (List.mem_append.mp hq).imp_right List.mem_singleton.mp
  | some r =>
    rw [registerPlugin_of_some hfind] at hq
    exact .inl hq

theorem Distinct.registerPlugin (h : Distinct registry) (p : LocalPluginRunner) :
    Distinct (registerPlugin registry p) := by
  cases hfind : getPlugin registry p.uniqueName with
  | none =>
    rw [registerPlugin_of_none hfind]
    unfold Distinct at h ⊢
    rw [List.map_append, List.map_singleton]
    refine List.Nodup.append h (List.nodup_singleton _) ?_
    rw [List.disjoint_singleton]
    intro hmem
    obtain ⟨q, hq, hname⟩ := List.mem_map.mp hmem
    exact getPlugin_eq_none_iff.mp hfind q hq hname
  | some q =>
    rw [registerPlugin_of_some hfind]
    exact h

theorem getPlugin_append_of_none {p : LocalPluginRunner}
    (h : getPlugin registry p.uniqueName = none) :
    getPlugin (registry ++ [p]) p.uniqueName = some p := by
  unfold getPlugin at h ⊢
  rw [List.find?_append, h]
  simp

theorem getPlugin_registerPlugin_of_some {p q : LocalPluginRunner} {name : String}
    (h : getPlugin registry name = some q) :
    getPlugin (Registry.registerPlugin registry p) name = some q := by
  cases hfind : getPlugin registry p.uniqueName with
  | none =>
    rw [registerPlugin_of_none hfind]
    unfold getPlugin at h ⊢
    rw [List.find?_append, h]
    rfl
  | some r =>
    rw [registerPlugin_of_some hfind]
    exact h

theorem getPlugin_registerPlugin_of_ne {p : LocalPluginRunner} {name : String}
    (hne : name ≠ p.uniqueName) :
    getPlugin (Registry.registerPlugin registry p) name = getPlugin registry name := by
  cases hfind : getPlugin registry p.uniqueName with
  | none =>
    rw [registerPlugin_of_none hfind]
    unfold getPlugin
    rw [List.find?_append]
    simp [hne.symm]
  | some r => rw [registerPlugin_of_some hfind]

theorem mem_registerPlugin_of_mem {p q : LocalPluginRunner} (hq : q ∈ registry) :
    q ∈ Registry.registerPlugin registry p := by
  cases hfind : getPlugin registry p.uniqueName with
  | none =>
    rw [registerPlugin_of_none hfind]
    exact List.mem_append_left _ hq
  | some r => rwa [registerPlugin_of_some hfind]

theorem getPlugin_registerPlugin_eq_none_iff {p : LocalPluginRunner} {name : String} :
    getPlugin (Registry.registerPlugin registry p) name = none ↔
      getPlugin registry name = none ∧ name ≠ p.uniqueName := by
  by_cases hname : name = p.uniqueName
  · subst hname
    refine iff_of_false (fun hnone => ?_) fun h => h.2 rfl
    cases hfind : getPlugin registry p.uniqueName with
    | none =>
      rw [registerPlugin_of_none hfind, getPlugin_append_of_none hfind] at hnone
      cases hnone
    | some q =>
      rw [getPlugin_registerPlugin_of_some hfind] at hnone
      cases hnone
  · rw [getPlugin_registerPlugin_of_ne hname]
    exact (and_iff_left hname).symm

end Registry
end Bartender
