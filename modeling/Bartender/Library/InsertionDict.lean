import Mathlib.Data.List.Nodup
import Mathlib.Tactic

/-!
# Insertion-ordered dictionaries

An association list in insertion order, for keys with an equivalence that need
not be equality. Assigning to a present key replaces the value in place and
keeps the key that was inserted first; assigning to an absent key appends.
-/

namespace InsertionDict

variable {κ ν : Type*} [BEq κ]

def get? (dict : List (κ × ν)) (key : κ) : Option ν :=
  (dict.find? fun entry => entry.1 == key).map (·.2)

def contains (dict : List (κ × ν)) (key : κ) : Bool :=
  dict.any fun entry => entry.1 == key

def set : List (κ × ν) → κ → ν → List (κ × ν)
  | [], key, value => [(key, value)]
  | (k, v) :: rest, key, value =>
    if k == key then (k, value) :: rest else (k, v) :: set rest key value

/-- `dict.update`, entry by entry. -/
def update (dict entries : List (κ × ν)) : List (κ × ν) :=
  entries.foldl (fun d entry => set d entry.1 entry.2) dict

def keys (dict : List (κ × ν)) : List κ := dict.map (·.1)

theorem get?_cons (k : κ) (v : ν) (rest : List (κ × ν)) (key : κ) :
    get? ((k, v) :: rest) key = if k == key then some v else get? rest key := by
  by_cases h : (k == key) = true <;> simp [get?, h]

theorem contains_eq_isSome (dict : List (κ × ν)) (key : κ) :
    contains dict key = (get? dict key).isSome := by
  rw [Bool.eq_iff_iff]
  simp [contains, get?]

theorem set_of_not_contains {dict : List (κ × ν)} {key : κ} (value : ν)
    (h : contains dict key = false) : set dict key value = dict ++ [(key, value)] := by
  induction dict with
  | nil => rfl
  | cons entry rest ih =>
    obtain ⟨k, v⟩ := entry
    simp only [contains, List.any_cons, Bool.or_eq_false_iff] at h ih
    simp [set, h.1, ih h.2]

theorem mem_keys_set {dict : List (κ × ν)} {key other : κ} {value : ν}
    (h : other ∈ keys (set dict key value)) : other ∈ keys dict ∨ other = key := by
  induction dict with
  | nil => exact .inr (List.mem_singleton.mp h)
  | cons entry rest ih =>
    obtain ⟨k, v⟩ := entry
    unfold set at h
    split_ifs at h
    · exact .inl h
    · rcases List.mem_cons.mp h with rfl | hrest
      · exact .inl List.mem_cons_self
      · exact (ih hrest).imp (List.mem_cons_of_mem _) id

def DistinctKeys (dict : List (κ × ν)) : Prop :=
  (keys dict).Pairwise fun a b => (a == b) = false

theorem update_eq_append {dict entries : List (κ × ν)} (hdistinct : DistinctKeys entries)
    (hfresh : ∀ key ∈ keys entries, contains dict key = false) :
    update dict entries = dict ++ entries := by
  induction entries generalizing dict with
  | nil => simp [update]
  | cons entry rest ih =>
    obtain ⟨k, v⟩ := entry
    obtain ⟨hk, hrest⟩ := List.pairwise_cons.mp hdistinct
    simp only [keys, List.map_cons, List.mem_cons, forall_eq_or_imp] at hfresh
    show update (set dict k v) rest = _
    rw [set_of_not_contains v hfresh.1, ih hrest]
    · simp
    · intro key hkey
      have hfresh' := hfresh.2 key hkey
      simp only [contains] at hfresh' ⊢
      simp [List.any_append, hfresh', hk key hkey]

section Equiv

variable [EquivBEq κ]

theorem get?_set_of_ne (dict : List (κ × ν)) {key other : κ} (value : ν)
    (hne : (key == other) = false) : get? (set dict key value) other = get? dict other := by
  induction dict with
  | nil => simp [set, get?_cons, hne]
  | cons entry rest ih =>
    obtain ⟨k, v⟩ := entry
    unfold set
    by_cases h : (k == key) = true
    · have hk : (k == other) = false := by
        rw [BEq.congr_left h]
        exact hne
      simp [h, get?_cons, hk]
    · simp [h, get?_cons, ih]

@[simp] theorem get?_set_self (dict : List (κ × ν)) (key : κ) (value : ν) :
    get? (set dict key value) key = some value := by
  induction dict with
  | nil => simp [set, get?_cons]
  | cons entry rest ih =>
    obtain ⟨k, v⟩ := entry
    unfold set
    by_cases h : (k == key) = true <;> simp [h, get?_cons, ih]

theorem get?_update_of_ne (dict : List (κ × ν)) {entries : List (κ × ν)} {key : κ}
    (hne : ∀ other ∈ keys entries, (other == key) = false) :
    get? (update dict entries) key = get? dict key := by
  induction entries generalizing dict with
  | nil => rfl
  | cons entry rest ih =>
    have hrest := ih (set dict entry.1 entry.2) fun other hmem =>
      hne other (List.mem_cons_of_mem _ hmem)
    exact hrest.trans (get?_set_of_ne _ _ (hne entry.1 List.mem_cons_self))

theorem DistinctKeys.get?_eq {dict : List (κ × ν)} (h : DistinctKeys dict) {key : κ} {value : ν}
    (hmem : (key, value) ∈ dict) : get? dict key = some value := by
  induction dict with
  | nil => cases hmem
  | cons entry rest ih =>
    obtain ⟨k, v⟩ := entry
    obtain ⟨hk, hrest⟩ := List.pairwise_cons.mp h
    rw [get?_cons]
    rcases List.mem_cons.mp hmem with heq | hmem
    · cases heq
      simp
    · rw [hk key (List.mem_map_of_mem hmem), if_neg Bool.false_ne_true, ih hrest hmem]

theorem DistinctKeys.of_perm {dict dict' : List (κ × ν)} (h : DistinctKeys dict)
    (hperm : dict.Perm dict') : DistinctKeys dict' := by
  have hsymm : ∀ {a b : κ}, (a == b) = false → (b == a) = false := BEq.symm_false
  exact ((hperm.map Prod.fst).pairwise_iff hsymm).mp h

theorem DistinctKeys.get?_perm {dict dict' : List (κ × ν)} (h : DistinctKeys dict)
    (hperm : dict.Perm dict') (key : κ) : get? dict key = get? dict' key := by
  induction hperm with
  | nil => rfl
  | cons entry _ ih =>
    rw [get?_cons, get?_cons, ih (List.pairwise_cons.mp h).2]
  | swap entry other rest =>
    have hne := (List.pairwise_cons.mp h).1 entry.1 List.mem_cons_self
    rw [get?_cons other.1 other.2, get?_cons entry.1 entry.2, get?_cons entry.1 entry.2,
      get?_cons other.1 other.2]
    by_cases hother : (other.1 == key) = true
    · have hentry : (entry.1 == key) = false := by
        rw [← BEq.congr_right hother, BEq.comm]
        exact hne
      simp [hother, hentry]
    · simp [hother]
  | trans hfirst _ ih₁ ih₂ => exact (ih₁ h).trans (ih₂ (h.of_perm hfirst))

end Equiv

end InsertionDict
