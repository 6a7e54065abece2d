import Mathlib.Data.List.Nodup
import Mathlib.Tactic

/-!
# Insertion-ordered maps

A map that remembers the order in which its keys came. A present key keeps its
value and its place until it is erased; what is inserted afterwards comes last.
That no key occurs twice is part of the type.
-/

structure OrderedMap (κ ν : Type*) where
  entries : List (κ × ν)
  nodup : (entries.map Prod.fst).Nodup

namespace OrderedMap

variable {κ ν : Type*}

def empty : OrderedMap κ ν := ⟨[], List.nodup_nil⟩

def values (map : OrderedMap κ ν) : List ν := map.entries.map Prod.snd

variable [DecidableEq κ] (map : OrderedMap κ ν)

def lookup (key : κ) : Option ν :=
  (map.entries.find? fun entry => entry.1 == key).map Prod.snd

def erase (key : κ) : OrderedMap κ ν where
  entries := map.entries.filter fun entry => entry.1 != key
  nodup := map.nodup.sublist (List.filter_sublist.map _)

@[simp] theorem entries_erase (key : κ) :
    (map.erase key).entries = map.entries.filter fun entry => entry.1 != key := rfl

theorem lookup_eq_none_iff {map : OrderedMap κ ν} {key : κ} :
    map.lookup key = none ↔ key ∉ map.entries.map Prod.fst := by
  simp only [lookup, Option.map_eq_none_iff, List.find?_eq_none, List.mem_map, not_exists,
    not_and, beq_iff_eq]

/-- A present key keeps its value, an absent one is appended. -/
def insertIfAbsent (key : κ) (value : ν) : OrderedMap κ ν :=
  match h : map.lookup key with
  | some _ => map
  | none =>
    { entries := map.entries ++ [(key, value)]
      nodup := by
        rw [List.map_append, List.map_singleton]
        exact map.nodup.append (List.nodup_singleton key)
          (List.disjoint_singleton.mpr (lookup_eq_none_iff.mp h)) }

variable {map} {key : κ} {value : ν}

theorem insertIfAbsent_of_some (h : map.lookup key = some value) (other : ν) :
    map.insertIfAbsent key other = map := by
  unfold insertIfAbsent
  split
  · rfl
  · next hnone => simp [h] at hnone

theorem entries_insertIfAbsent_of_none (h : map.lookup key = none) (value : ν) :
    (map.insertIfAbsent key value).entries = map.entries ++ [(key, value)] := by
  unfold insertIfAbsent
  split
  · next hsome => simp [h] at hsome
  · rfl

theorem lookup_eq_some_iff : map.lookup key = some value ↔ (key, value) ∈ map.entries := by
  constructor
  · intro h
    obtain ⟨⟨k, v⟩, hfind, rfl⟩ := Option.map_eq_some_iff.mp h
    have hk : k = key := by simpa using List.find?_some hfind
    exact hk ▸ List.mem_of_find?_eq_some hfind
  · intro hmem
    cases hfind : map.lookup key with
    | none => exact absurd (List.mem_map_of_mem hmem) (lookup_eq_none_iff.mp hfind)
    | some other =>
      obtain ⟨entry, hentry, rfl⟩ := Option.map_eq_some_iff.mp hfind
      have hk : entry.1 = key := by simpa using List.find?_some hentry
      have heq : entry = (key, value) := List.inj_on_of_nodup_map map.nodup
        (List.mem_of_find?_eq_some hentry) hmem hk
      rw [heq]

theorem mem_values_iff : value ∈ map.values ↔ ∃ key, map.lookup key = some value := by
  simp [values, lookup_eq_some_iff]

end OrderedMap
