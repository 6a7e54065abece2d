import Bartender.Library.Interleaving
import Bartender.Library.Runs
import Bartender.Library.SharedList
import Bartender.Plugins.Registry

/-!
# The registry under several threads

`LocalPluginRegistry` takes no lock. A call goes through the list by index, one
entry at a time, and only then pops an index or appends; the workers of the
thrift server and the local plugin monitor may edit the list in between. As long
as no edit moves what another call has already passed, the calls act as if each
were executed as a whole.
-/

namespace Bartender

open Interleaving SharedList

inductive RegistryRequest
  | getAllPlugins
  | getUniquePluginNames
  | getPlugin (uniqueName : String)
  | getPluginsBySystem (systemName systemVersion : String)
  | remove (uniqueName : String)
  | registerPlugin (plugin : LocalPluginRunner)
  | pluginExists (pluginName pluginVersion : String)
  deriving DecidableEq

/-- What a call returns, or the exception of `pop`. -/
inductive RegistryAnswer
  | nothing
  | plugin (plugin : Option LocalPluginRunner)
  | plugins (plugins : List LocalPluginRunner)
  | names (names : List String)
  | truth (value : Bool)
  | indexError
  deriving DecidableEq

/-- Where a call stands: before the next entry of the list, with what it has
kept of the entries before; before the pop or the append; at its end. -/
inductive RegistryPoint
  | scanning (index : ℕ) (kept : List LocalPluginRunner)
  | popping (index : ℕ)
  | appending (plugin : LocalPluginRunner)
  | finished (answer : RegistryAnswer)
  deriving DecidableEq

namespace RegistryRequest

variable (request : RegistryRequest)

/-- The test inside the loop or the comprehension. -/
def selects (plugin : LocalPluginRunner) : Bool :=
  match request with
  | getAllPlugins => true
  | getUniquePluginNames => true
  | getPlugin uniqueName => plugin.uniqueName == uniqueName
  | getPluginsBySystem systemName systemVersion =>
    plugin.system.name == systemName && plugin.system.version == systemVersion
  | remove uniqueName => plugin.uniqueName == uniqueName
  | registerPlugin new => plugin.uniqueName == new.uniqueName
  | pluginExists pluginName pluginVersion =>
    plugin.system.name == pluginName && plugin.system.version == pluginVersion

/-- After an entry that passes the test. The comprehensions go on, the loops end. -/
def selected (index : ℕ) (plugin : LocalPluginRunner) (kept : List LocalPluginRunner) :
    RegistryPoint :=
  match request with
  | getAllPlugins => .scanning (index + 1) (kept ++ [plugin])
  | getUniquePluginNames => .scanning (index + 1) (kept ++ [plugin])
  | getPlugin _ => .finished (.plugin (some plugin))
  | getPluginsBySystem _ _ => .scanning (index + 1) (kept ++ [plugin])
  | remove _ => .popping index
  | registerPlugin _ => .finished .nothing
  | pluginExists _ _ => .finished (.truth true)

def exhausted (kept : List LocalPluginRunner) : RegistryPoint :=
  match request with
  | getAllPlugins => .finished (.plugins kept)
  | getUniquePluginNames => .finished (.names (kept.map fun p => p.system.name).dedup)
  | getPlugin _ => .finished (.plugin none)
  | getPluginsBySystem _ _ => .finished (.plugins kept)
  | remove _ => .finished .nothing
  | registerPlugin new => .appending new
  | pluginExists _ _ => .finished (.truth false)

def Collects : Prop :=
  match request with
  | getAllPlugins => True
  | getUniquePluginNames => True
  | getPluginsBySystem _ _ => True
  | _ => False

/-- The call as a whole, on a list that nobody else touches. -/
def serve (registry : Registry) : RegistryAnswer × Registry :=
  match request with
  | getAllPlugins => (.plugins registry.getAllPlugins, registry)
  | getUniquePluginNames => (.names registry.getUniquePluginNames, registry)
  | getPlugin uniqueName => (.plugin (registry.getPlugin uniqueName), registry)
  | getPluginsBySystem systemName systemVersion =>
    (.plugins (registry.getPluginsBySystem systemName systemVersion), registry)
  | remove uniqueName => (.nothing, registry.remove uniqueName)
  | registerPlugin new => (.nothing, registry.registerPlugin new)
  | pluginExists pluginName pluginVersion =>
    (.truth (registry.pluginExists pluginName pluginVersion), registry)

theorem serve_distinct {registry : Registry} (h : registry.Distinct) :
    (request.serve registry).2.Distinct := by
  cases request with
  | remove name => exact h.remove name
  | registerPlugin new => exact h.registerPlugin new
  | _ => exact h

def serveAll : List RegistryRequest → Registry → List RegistryAnswer × Registry
  | [], registry => ([], registry)
  | request :: rest, registry =>
    let (answer, registry) := request.serve registry
    let (answers, registry) := serveAll rest registry
    (answer :: answers, registry)

end RegistryRequest

structure RegistryCall where
  request : RegistryRequest
  point : RegistryPoint
  deriving DecidableEq

namespace RegistryCall

/-- One access to the list: the iterator's next entry, `pop(index)` or `append`. -/
def step (call : RegistryCall) (registry : Registry) : RegistryCall × Registry :=
  match call.point with
  | .scanning i kept =>
    match registry[i]? with
    | none => ({ call with point := call.request.exhausted kept }, registry)
    | some plugin =>
      if call.request.selects plugin then
        ({ call with point := call.request.selected i plugin kept }, registry)
      else ({ call with point := .scanning (i + 1) kept }, registry)
  | .popping i =>
    if i < registry.length then
      ({ call with point := .finished .nothing }, registry.eraseIdx i)
    else ({ call with point := .finished .indexError }, registry)
  | .appending plugin => ({ call with point := .finished .nothing }, registry ++ [plugin])
  | .finished _ => (call, registry)

def answer? (call : RegistryCall) : Option RegistryAnswer :=
  match call.point with
  | .finished answer => some answer
  | _ => none

def edit? (call : RegistryCall) : Option (Edit LocalPluginRunner) :=
  match call.point with
  | .popping i => some (.erase i)
  | .appending plugin => some (.append plugin)
  | _ => none

/-- The edit leaves the entries that the call has passed where they are, and adds
none that it has found to be absent. -/
def Tolerates (call : RegistryCall) (edit : Edit LocalPluginRunner) : Prop :=
  match call.point with
  | .scanning i _ => edit.Spares i
  | .popping i => edit.Spares (i + 1)
  | .appending new =>
    match edit with
    | .append plugin => plugin.uniqueName ≠ new.uniqueName
    | .erase _ => True
  | .finished _ => True

instance (call : RegistryCall) (edit : Edit LocalPluginRunner) :
    Decidable (call.Tolerates edit) := by
  unfold Tolerates
  split
  · infer_instance
  · infer_instance
  · split <;> infer_instance
  · infer_instance

end RegistryCall

namespace RegistryCall

/-- What the call has found out is true of the list. -/
def Asserts (call : RegistryCall) (registry : Registry) : Prop :=
  match call.point with
  | .scanning i kept =>
    i ≤ registry.length ∧ kept = (registry.take i).filter call.request.selects ∧
      (¬ call.request.Collects → kept = [])
  | .popping i =>
    (∃ name, call.request = .remove name) ∧ Passed call.request.selects i registry ∧
      ∃ plugin, registry[i]? = some plugin ∧ call.request.selects plugin = true
  | .appending new =>
    call.request = .registerPlugin new ∧ registry.getPlugin new.uniqueName = none
  | .finished _ => True

variable {call : RegistryCall} {registry : Registry} {i : ℕ} {kept : List LocalPluginRunner}

theorem asserts_begin (request : RegistryRequest) (registry : Registry) :
    Asserts ⟨request, .scanning 0 []⟩ registry :=
  ⟨Nat.zero_le _, rfl, fun _ => rfl⟩

theorem Asserts.tolerates {edit : Edit LocalPluginRunner} (h : call.Asserts registry)
    (ht : call.Tolerates edit) : call.Asserts (edit.apply registry) := by
  obtain ⟨request, point⟩ := call
  cases point with
  | scanning i kept =>
    obtain ⟨hi, hkept, hloop⟩ := h
    exact ⟨edit.length_apply ht hi, by rw [edit.take_apply ht hi]; exact hkept, hloop⟩
  | popping i =>
    obtain ⟨hremove, hpassed, plugin, hplugin, hselects⟩ := h
    have hspares : edit.Spares i := by
      cases edit with
      | append _ => trivial
      | erase j => exact Nat.le_of_succ_le ht
    exact ⟨hremove, hpassed.apply hspares, plugin, edit.getElem?_apply ht hplugin, hselects⟩
  | appending new =>
    obtain ⟨hrequest, habsent⟩ := h
    refine ⟨hrequest, ?_⟩
    rw [Registry.getPlugin_eq_none_iff] at habsent ⊢
    intro p hp
    cases edit with
    | append plugin =>
      rcases List.mem_append.mp hp with hp | hp
      · exact habsent p hp
      · rw [List.mem_singleton.mp hp]
        exact ht
    | erase j => exact habsent p (List.mem_of_mem_eraseIdx hp)
  | finished _ => trivial

theorem step_shared (call : RegistryCall) (registry : Registry) :
    (call.step registry).2 = call.edit?.elim registry fun edit => edit.apply registry := by
  obtain ⟨request, point⟩ := call
  cases point with
  | scanning i kept =>
    unfold step edit?
    dsimp only
    split
    · rfl
    · split <;> rfl
  | popping i =>
    unfold step edit?
    dsimp only
    split
    · rfl
    · rename_i hi
      exact (List.eraseIdx_of_length_le (Nat.le_of_not_lt hi)).symm
  | appending plugin => rfl
  | finished _ => rfl

/-- What the atomic call does is what the step does, if it ends the call; a step
in the middle leaves the list alone. -/
def Serves (call : RegistryCall) (registry : Registry) : Prop :=
  match call.answer?, (call.step registry).1.answer? with
  | none, some answer => call.request.serve registry = (answer, (call.step registry).2)
  | _, _ => (call.step registry).2 = registry

theorem step_of_none {request : RegistryRequest} (h : registry[i]? = none) :
    step ⟨request, .scanning i kept⟩ registry = (⟨request, request.exhausted kept⟩, registry) := by
  simp [step, h]

theorem step_of_selects {request : RegistryRequest} {plugin : LocalPluginRunner}
    (h : registry[i]? = some plugin) (hselects : request.selects plugin = true) :
    step ⟨request, .scanning i kept⟩ registry =
      (⟨request, request.selected i plugin kept⟩, registry) := by
  simp [step, h, hselects]

theorem step_of_not_selects {request : RegistryRequest} {plugin : LocalPluginRunner}
    (h : registry[i]? = some plugin) (hselects : request.selects plugin = false) :
    step ⟨request, .scanning i kept⟩ registry =
      (⟨request, .scanning (i + 1) kept⟩, registry) := by
  simp [step, h, hselects]

theorem Asserts.passed {request : RegistryRequest}
    (h : Asserts ⟨request, .scanning i kept⟩ registry) (hloop : ¬ request.Collects) :
    Passed request.selects i registry := by
  obtain ⟨hi, hkept, hnil⟩ := h
  rw [hnil hloop] at hkept
  exact ⟨hi, fun p hp => by simpa using List.filter_eq_nil_iff.mp hkept.symm p hp⟩

/-- The end of the list is reached. -/
theorem Asserts.serves_exhausted {request : RegistryRequest}
    (h : Asserts ⟨request, .scanning i kept⟩ registry) (hend : registry[i]? = none) :
    Asserts ⟨request, request.exhausted kept⟩ registry ∧
      Serves ⟨request, .scanning i kept⟩ registry := by
  have hkept : kept = registry.filter request.selects := by
    rw [h.2.1, List.take_of_length_le (List.getElem?_eq_none_iff.mp hend)]
  have habsent : ∀ hloop : ¬ request.Collects, ∀ p ∈ registry, request.selects p = false :=
    fun hloop => (h.passed hloop).forall_mem hend
  unfold Serves
  rw [step_of_none hend]
  cases request with
  | getAllPlugins =>
    have hall : kept = registry := hkept.trans (List.filter_eq_self.mpr fun _ _ => rfl)
    exact ⟨trivial, by rw [hall]; rfl⟩
  | getUniquePluginNames =>
    have hall : kept = registry := hkept.trans (List.filter_eq_self.mpr fun _ _ => rfl)
    exact ⟨trivial, by rw [hall]; rfl⟩
  | getPlugin name =>
    have hnone : registry.getPlugin name = none := by
      rw [Registry.getPlugin_eq_none_iff]
      exact fun p hp => by simpa [RegistryRequest.selects] using habsent id p hp
    exact ⟨trivial, Prod.ext (congrArg RegistryAnswer.plugin hnone) rfl⟩
  | getPluginsBySystem name version => exact ⟨trivial, by rw [hkept]; rfl⟩
  | remove name =>
    have hsame : registry.remove name = registry :=
      List.eraseP_of_forall_not fun p hp => by
        simpa [RegistryRequest.selects] using habsent id p hp
    exact ⟨trivial, Prod.ext rfl hsame⟩
  | registerPlugin new =>
    refine ⟨⟨rfl, ?_⟩, rfl⟩
    rw [Registry.getPlugin_eq_none_iff]
    exact fun p hp => by simpa [RegistryRequest.selects] using habsent id p hp
  | pluginExists name version =>
    have hfalse : registry.pluginExists name version = false := by
      rw [Registry.pluginExists, List.any_eq_false]
      exact fun p hp => by simpa [RegistryRequest.selects] using habsent id p hp
    exact ⟨trivial, Prod.ext (congrArg RegistryAnswer.truth hfalse) rfl⟩

theorem Asserts.serves_selected {request : RegistryRequest} {plugin : LocalPluginRunner}
    (h : Asserts ⟨request, .scanning i kept⟩ registry) (hplugin : registry[i]? = some plugin)
    (hselects : request.selects plugin = true) :
    Asserts ⟨request, request.selected i plugin kept⟩ registry ∧
      Serves ⟨request, .scanning i kept⟩ registry := by
  obtain ⟨hlt, hget⟩ := List.getElem?_eq_some_iff.mp hplugin
  have hkept : kept ++ [plugin] = (registry.take (i + 1)).filter request.selects := by
    rw [List.take_succ_eq_append_getElem hlt, List.filter_append, ← h.2.1, hget,
      List.filter_cons_of_pos hselects, List.filter_nil]
  unfold Serves
  rw [step_of_selects hplugin hselects]
  cases request with
  | getAllPlugins => exact ⟨⟨hlt, hkept, fun hloop => absurd trivial hloop⟩, rfl⟩
  | getUniquePluginNames => exact ⟨⟨hlt, hkept, fun hloop => absurd trivial hloop⟩, rfl⟩
  | getPlugin name =>
    have hfound : registry.getPlugin name = some plugin :=
      (h.passed id).find?_eq hplugin hselects
    exact ⟨trivial, Prod.ext (congrArg RegistryAnswer.plugin hfound) rfl⟩
  | getPluginsBySystem name version =>
    exact ⟨⟨hlt, hkept, fun hloop => absurd trivial hloop⟩, rfl⟩
  | remove name =>
    exact ⟨⟨⟨name, rfl⟩, h.passed id, plugin, hplugin, hselects⟩, rfl⟩
  | registerPlugin new =>
    have hfound : registry.getPlugin new.uniqueName = some plugin :=
      (h.passed id).find?_eq hplugin hselects
    exact ⟨trivial, Prod.ext rfl (Registry.registerPlugin_of_some hfound)⟩
  | pluginExists name version =>
    have htrue : registry.pluginExists name version = true :=
      List.any_eq_true.mpr ⟨plugin, List.mem_of_getElem? hplugin, hselects⟩
    exact ⟨trivial, Prod.ext (congrArg RegistryAnswer.truth htrue) rfl⟩

/-- One step keeps what the call knows, and serves the request when it ends it. -/
theorem Asserts.step (h : call.Asserts registry) :
    (call.step registry).1.Asserts (call.step registry).2 ∧ call.Serves registry := by
  obtain ⟨request, point⟩ := call
  cases point with
  | scanning i kept =>
    cases hentry : registry[i]? with
    | none =>
      rw [step_of_none hentry]
      exact h.serves_exhausted hentry
    | some plugin =>
      cases hselects : request.selects plugin with
      | true =>
        rw [step_of_selects hentry hselects]
        exact h.serves_selected hentry hselects
      | false =>
        obtain ⟨hi, hkept, hloop⟩ := h
        obtain ⟨hlt, hget⟩ := List.getElem?_eq_some_iff.mp hentry
        unfold Serves
        rw [step_of_not_selects hentry hselects]
        refine ⟨⟨hlt, ?_, hloop⟩, rfl⟩
        rw [List.take_succ_eq_append_getElem hlt, List.filter_append, ← hkept, hget,
          List.filter_cons_of_neg (by simp [hselects]), List.filter_nil, List.append_nil]
  | popping i =>
    obtain ⟨⟨name, hrequest⟩, hpassed, plugin, hplugin, hselects⟩ := h
    subst hrequest
    have hlt := (List.getElem?_eq_some_iff.mp hplugin).1
    have hremove : registry.remove name = registry.eraseIdx i := hpassed.eraseP_eq hplugin hselects
    unfold Serves RegistryCall.step
    simp only [if_pos hlt]
    exact ⟨trivial, Prod.ext rfl hremove⟩
  | appending new =>
    obtain ⟨hrequest, habsent⟩ := h
    subst hrequest
    exact ⟨trivial, Prod.ext rfl (Registry.registerPlugin_of_none habsent)⟩
  | finished answer => exact ⟨trivial, rfl⟩

theorem step_request (call : RegistryCall) (registry : Registry) :
    (call.step registry).1.request = call.request := by
  unfold step
  split <;> (try split) <;> (try split) <;> rfl

end RegistryCall

section Race

variable {ι : Type} [DecidableEq ι]

abbrev RegistryRace (ι : Type) := Pool ι RegistryCall Registry

namespace RegistryRace

def apply (i : ι) (race : RegistryRace ι) : RegistryRace ι := race.step RegistryCall.step i

def initial (requests : ι → RegistryRequest) (registry : Registry) : RegistryRace ι :=
  ⟨fun i => ⟨requests i, .scanning 0 []⟩, registry⟩

def Clear (i : ι) (race : RegistryRace ι) : Prop :=
  ∀ edit ∈ (race.threads i).edit?, ∀ j, j ≠ i → (race.threads j).Tolerates edit

instance [Fintype ι] (i : ι) : DecidablePred (Clear i : RegistryRace ι → Prop) := fun race => by
  unfold Clear
  infer_instance

/-- The calls that end in the course of a run, in the order in which they end. -/
def endings : List ι → RegistryRace ι → List (RegistryRequest × RegistryAnswer)
  | [], _ => []
  | i :: events, race =>
    match (race.threads i).answer?, ((race.apply i).threads i).answer? with
    | none, some answer =>
      ((race.threads i).request, answer) :: endings events (race.apply i)
    | _, _ => endings events (race.apply i)

end RegistryRace

variable {race : RegistryRace ι} {events : List ι}

namespace RegistryRace

/-- What every call has found out is true. -/
def Known (race : RegistryRace ι) : Prop := ∀ i, (race.threads i).Asserts race.shared

theorem Known.apply (h : race.Known) {i : ι} (hclear : Clear i race) : (race.apply i).Known := by
  refine Pool.forall_threads_step _ race (P := fun _ call => call.Asserts (race.apply i).shared)
    (h i).step.1 fun j hj => ?_
  have hshared : (race.apply i).shared = ((race.threads i).step race.shared).2 := rfl
  rw [hshared, RegistryCall.step_shared]
  cases hedit : (race.threads i).edit? with
  | none => exact h j
  | some edit => exact (h j).tolerates (hclear edit hedit j hj)

theorem serveAll_endings (h : race.Known) (hclear : Runs.Meets apply Clear events race) :
    RegistryRequest.serveAll ((endings events race).map Prod.fst) race.shared =
      ((endings events race).map Prod.snd, (Runs.final apply events race).shared) := by
  induction events generalizing race with
  | nil => rfl
  | cons i events ih =>
    have hserves := (h i).step.2
    have hrest := ih (h.apply hclear.1) hclear.2
    have hown : (race.apply i).threads i = ((race.threads i).step race.shared).1 :=
      Pool.step_threads_self ..
    have hshared : (race.apply i).shared = ((race.threads i).step race.shared).2 := rfl
    unfold RegistryCall.Serves at hserves
    unfold endings
    rw [hown]
    cases hbefore : (race.threads i).answer? with
    | some answer =>
      rw [hbefore] at hserves
      rw [hshared, hserves] at hrest
      exact hrest
    | none =>
      cases hafter : ((race.threads i).step race.shared).1.answer? with
      | none =>
        rw [hbefore, hafter] at hserves
        rw [hshared, hserves] at hrest
        exact hrest
      | some answer =>
        rw [hbefore, hafter] at hserves
        simp only [List.map_cons, RegistryRequest.serveAll, hserves]
        rw [← hshared, hrest]
        rfl

theorem distinct_apply (h : race.Known) (hdistinct : race.shared.Distinct) (i : ι) :
    (race.apply i).shared.Distinct := by
  have hserves := (h i).step.2
  have hshared : (race.apply i).shared = ((race.threads i).step race.shared).2 := rfl
  have hserved := (race.threads i).request.serve_distinct hdistinct
  unfold RegistryCall.Serves at hserves
  rw [hshared]
  split at hserves
  · rwa [hserves] at hserved
  · rwa [hserves]

end RegistryRace

open RegistryRace in
/-- Calls in any number, interleaved at every access to the list. As long as no
edit harms another call, they have the answers and the effect of the same calls
executed as a whole, in the order in which they end; and no two plugins with the
same unique name are registered at any time. -/
theorem registryRace_linearizable (requests : ι → RegistryRequest) {registry : Registry}
    (hdistinct : registry.Distinct) {events : List ι}
    (hclear : Runs.Meets RegistryRace.apply Clear events (initial requests registry)) :
    RegistryRequest.serveAll ((endings events (initial requests registry)).map Prod.fst) registry =
        ((endings events (initial requests registry)).map Prod.snd,
          (Runs.final RegistryRace.apply events (initial requests registry)).shared) ∧
      Runs.Throughout RegistryRace.apply (fun race => race.shared.Distinct) events
        (initial requests registry) := by
  have hknown : (initial requests registry).Known := fun i =>
    RegistryCall.asserts_begin (requests i) registry
  refine ⟨serveAll_endings hknown hclear, ?_⟩
  have hthroughout := Runs.throughout_of_meets
    (I := fun race : RegistryRace ι => race.Known ∧ race.shared.Distinct)
    (fun i race h hclear => ⟨h.1.apply hclear, distinct_apply h.1 h.2 i⟩) ⟨hknown, hdistinct⟩ hclear
  exact hthroughout.imp fun _ h => h.2

/-- A removal, and a registration that begins after it has popped. -/
theorem registryRace_linearizable_pair :
    let foo := singlePlugin "foo" []
    let bar := singlePlugin "bar" []
    let requests : Bool → RegistryRequest :=
      fun b => if b then .registerPlugin bar else .remove "foo[default]-1.0"
    let race := RegistryRace.initial requests [foo]
    let events := [false, false, true, true]
    RegistryRequest.serveAll ((RegistryRace.endings events race).map Prod.fst) [foo] =
        ((RegistryRace.endings events race).map Prod.snd,
          (Runs.final RegistryRace.apply events race).shared) ∧
      Runs.Throughout RegistryRace.apply (fun race => race.shared.Distinct) events race :=
  registryRace_linearizable _ (by decide) (by decide)

def RegistryCall.MayAppend (plugin : LocalPluginRunner) (call : RegistryCall) : Prop :=
  call.request = .registerPlugin plugin ∨ call.point = .appending plugin

theorem RegistryCall.MayAppend.of_step {plugin : LocalPluginRunner} {call : RegistryCall}
    {registry : Registry} (h : (call.step registry).1.MayAppend plugin) :
    call.MayAppend plugin := by
  rcases h with h | h
  · exact .inl (by rwa [call.step_request] at h)
  · obtain ⟨request, point⟩ := call
    cases point with
    | scanning i kept =>
      refine .inl ?_
      unfold step at h
      dsimp only at h
      split at h
      · cases request with
        | registerPlugin new => exact congrArg _ (RegistryPoint.appending.inj h)
        | _ => cases h
      · split at h
        · cases request <;> cases h
        · cases h
    | popping i =>
      unfold step at h
      dsimp only at h
      split at h <;> cases h
    | appending new => cases h
    | finished answer => exact .inr h

namespace RegistryRace

def Keeps (index : ℕ) (j : ι) (race : RegistryRace ι) : Prop :=
  ∀ edit ∈ (race.threads j).edit?, edit.Spares (index + 1)

instance (index : ℕ) (j : ι) : DecidablePred (Keeps index j : RegistryRace ι → Prop) :=
  fun race => by
    unfold Keeps
    infer_instance

/-- The plugin is registered before the step of a call and not after it. -/
def TakesOut (plugin : LocalPluginRunner) (i : ι) (race : RegistryRace ι) : Prop :=
  plugin ∈ race.shared ∧ plugin ∉ (race.apply i).shared

variable {plugin : LocalPluginRunner} {index : ℕ} {i j : ι}

/-- The other calls go on while one waits with the index it has found. -/
structure Waits (i : ι) (index : ℕ) (plugin : LocalPluginRunner) (race : RegistryRace ι) :
    Prop where
  point : (race.threads i).point = .popping index
  fresh : ∀ j, ¬ (race.threads j).MayAppend plugin
  later : plugin ∉ race.shared.drop (index + 1)

omit [DecidableEq ι] in
theorem edit?_ne_append (h : ¬ (race.threads j).MayAppend plugin)
    {edit : Edit LocalPluginRunner} (hedit : (race.threads j).edit? = some edit) :
    edit ≠ .append plugin := by
  rintro rfl
  refine h (.inr ?_)
  unfold RegistryCall.edit? at hedit
  split at hedit
  · cases hedit
  · rename_i new hpoint
    cases hedit
    exact hpoint
  · cases hedit

theorem apply_shared (i : ι) (race : RegistryRace ι) :
    (race.apply i).shared = (race.threads i).edit?.elim race.shared fun edit =>
      edit.apply race.shared :=
  RegistryCall.step_shared _ _

theorem Waits.apply (h : Waits i index plugin race) (hj : j ≠ i) :
    Waits i index plugin (race.apply j) where
  point := by rw [RegistryRace.apply, Pool.step_threads_of_ne _ _ hj.symm]; exact h.point
  fresh := Pool.forall_threads_step _ race (P := fun _ call => ¬ call.MayAppend plugin)
    (fun hnext => h.fresh j hnext.of_step) fun k _ => h.fresh k
  later := by
    rw [apply_shared]
    cases hedit : (race.threads j).edit? with
    | none => exact h.later
    | some edit => exact Edit.not_mem_drop_apply h.later (edit?_ne_append (h.fresh j) hedit)

theorem Waits.final (h : Waits i index plugin race) (hothers : i ∉ events) :
    Waits i index plugin (Runs.final RegistryRace.apply events race) := by
  induction events generalizing race with
  | nil => exact h
  | cons j events ih =>
    obtain ⟨hj, hrest⟩ := not_or.mp (mt List.mem_cons.mpr hothers)
    exact ih (h.apply (Ne.symm hj)) hrest

/-- The entry stays where it was read, and the only one of its kind up to there. -/
theorem Waits.kept (h : Waits i index plugin race) (hread : race.shared[index]? = some plugin)
    (hbefore : plugin ∉ race.shared.take index) (hothers : i ∉ events)
    (hkeeps : Runs.Meets RegistryRace.apply (Keeps index) events race) :
    (Runs.final RegistryRace.apply events race).shared[index]? = some plugin ∧
      plugin ∉ (Runs.final RegistryRace.apply events race).shared.take index := by
  induction events generalizing race with
  | nil => exact ⟨hread, hbefore⟩
  | cons j events ih =>
    obtain ⟨hj, hrest⟩ := not_or.mp (mt List.mem_cons.mpr hothers)
    have hlt : index < race.shared.length := (List.getElem?_eq_some_iff.mp hread).1
    refine ih (h.apply (Ne.symm hj)) ?_ ?_ hrest hkeeps.2
    · rw [apply_shared]
      cases hedit : (race.threads j).edit? with
      | none => exact hread
      | some edit => exact edit.getElem?_apply (hkeeps.1 edit hedit) hread
    · rw [apply_shared]
      cases hedit : (race.threads j).edit? with
      | none => exact hbefore
      | some edit =>
        have hspares : edit.Spares index := (hkeeps.1 edit hedit).mono (Nat.le_succ index)
        change plugin ∉ (edit.apply race.shared).take index
        rwa [edit.take_apply hspares hlt.le]

theorem Waits.moved (h : Waits i index plugin race) (hgone : plugin ∉ race.shared.drop index)
    (hothers : i ∉ events) :
    plugin ∉ (Runs.final RegistryRace.apply events race).shared.drop index := by
  induction events generalizing race with
  | nil => exact hgone
  | cons j events ih =>
    obtain ⟨hj, hrest⟩ := not_or.mp (mt List.mem_cons.mpr hothers)
    refine ih (h.apply (Ne.symm hj)) ?_ hrest
    rw [apply_shared]
    cases hedit : (race.threads j).edit? with
    | none => exact hgone
    | some edit => exact Edit.not_mem_drop_apply hgone (edit?_ne_append (h.fresh j) hedit)

theorem Waits.lost (h : Waits i index plugin race) (hread : race.shared[index]? = some plugin)
    (hothers : i ∉ events) (hnot : ¬ Runs.Meets RegistryRace.apply (Keeps index) events race) :
    plugin ∉ (Runs.final RegistryRace.apply events race).shared.drop index := by
  induction events generalizing race with
  | nil => exact absurd trivial hnot
  | cons j events ih =>
    obtain ⟨hj, hrest⟩ := not_or.mp (mt List.mem_cons.mpr hothers)
    by_cases hkeeps : Keeps index j race
    · refine ih (h.apply (Ne.symm hj)) ?_ hrest fun hmeets => hnot ⟨hkeeps, hmeets⟩
      rw [apply_shared]
      cases hedit : (race.threads j).edit? with
      | none => exact hread
      | some edit => exact edit.getElem?_apply (hkeeps edit hedit) hread
    · refine (h.apply (Ne.symm hj)).moved ?_ hrest
      simp only [Keeps, not_forall] at hkeeps
      obtain ⟨edit, hedit, hspares⟩ := hkeeps
      rw [apply_shared, hedit]
      exact Edit.not_mem_drop_of_not_spares hread h.later hspares

theorem takesOut_iff (hpoint : (race.threads i).point = .popping index)
    (hbefore : race.shared[index]? = some plugin → plugin ∉ race.shared.take index)
    (hlater : plugin ∉ race.shared.drop (index + 1)) :
    TakesOut plugin i race ↔ race.shared[index]? = some plugin := by
  have hshared : (race.apply i).shared = race.shared.eraseIdx index := by
    rw [apply_shared]
    unfold RegistryCall.edit?
    rw [hpoint]
    rfl
  unfold TakesOut
  rw [hshared, List.eraseIdx_eq_take_drop_succ, List.mem_append]
  constructor
  · rintro ⟨hmem, hnot⟩
    rw [← List.take_append_drop index race.shared, List.mem_append] at hmem
    have hdrop := hmem.resolve_left fun h => hnot (.inl h)
    obtain ⟨k, hk⟩ := List.mem_iff_getElem?.mp hdrop
    rw [List.getElem?_drop] at hk
    cases k with
    | zero => exact hk
    | succ k =>
      have : plugin ∈ race.shared.drop (index + 1) := by
        refine List.mem_iff_getElem?.mpr ⟨k, ?_⟩
        rw [List.getElem?_drop, ← hk]
        congr 1
        omega
      exact absurd this hlater
  · intro hread
    exact ⟨List.mem_of_getElem? hread, fun h => h.elim (hbefore hread) hlater⟩

end RegistryRace

open RegistryRace in
/-- A removal has read the entry of its name at an index; the other calls go on,
and then it pops. It takes that plugin out of the registry exactly if none of
them erased an entry up to that index meanwhile. -/
theorem remove_takesOut_iff {name : String} {kept : List LocalPluginRunner}
    {plugin : LocalPluginRunner} {index : ℕ} {i : ι}
    (hcall : race.threads i = ⟨.remove name, .scanning index kept⟩)
    (hread : race.shared[index]? = some plugin) (hname : plugin.uniqueName = name)
    (hnodup : race.shared.Nodup) (hfresh : ∀ j, ¬ (race.threads j).MayAppend plugin)
    (hothers : i ∉ events) :
    TakesOut plugin i (Runs.final RegistryRace.apply events (race.apply i)) ↔
      Runs.Meets RegistryRace.apply (Keeps index) events (race.apply i) := by
  have hlt : index < race.shared.length := (List.getElem?_eq_some_iff.mp hread).1
  have hget : race.shared[index] = plugin := (List.getElem?_eq_some_iff.mp hread).2
  have hstep : (race.threads i).step race.shared =
      (⟨.remove name, .popping index⟩, race.shared) := by
    rw [hcall]
    exact RegistryCall.step_of_selects hread (by simp [RegistryRequest.selects, hname])
  have hshared : (race.apply i).shared = race.shared := congrArg Prod.snd hstep
  have hsplit : race.shared = race.shared.take index ++ plugin :: race.shared.drop (index + 1) := by
    rw [← hget, ← List.drop_eq_getElem_cons hlt, List.take_append_drop]
  rw [hsplit, List.nodup_middle, List.nodup_cons, List.mem_append, not_or] at hnodup
  obtain ⟨⟨hbefore, hlater⟩, -⟩ := hnodup
  have hwaits : Waits i index plugin (race.apply i) :=
    { point := by
        rw [RegistryRace.apply, Pool.step_threads_self, hstep]
      fresh := Pool.forall_threads_step _ race (P := fun _ call => ¬ call.MayAppend plugin)
        (fun hnext => hfresh i hnext.of_step) fun k _ => hfresh k
      later := by rwa [hshared] }
  rw [← hshared] at hread hbefore
  have hfinal := hwaits.final hothers
  by_cases hkeeps : Runs.Meets RegistryRace.apply (Keeps index) events (race.apply i)
  · obtain ⟨hthere, halone⟩ := hwaits.kept hread hbefore hothers hkeeps
    exact iff_of_true ((takesOut_iff hfinal.point (fun _ => halone) hfinal.later).mpr hthere) hkeeps
  · have hlost := hwaits.lost hread hothers hkeeps
    have hmoved : (Runs.final RegistryRace.apply events (race.apply i)).shared[index]? ≠
        some plugin := by
      intro hthere
      obtain ⟨hlt, hget⟩ := List.getElem?_eq_some_iff.mp hthere
      exact hlost (by rw [List.drop_eq_getElem_cons hlt, hget]; exact List.mem_cons_self)
    refine iff_of_false (fun htakes => hmoved ?_) hkeeps
    exact (takesOut_iff hfinal.point (fun hthere => absurd hthere hmoved) hfinal.later).mp htakes

/-- One removal has found `bar` at index 1 when another one pops `foo`. -/
theorem remove_takesOut_iff_overlapping :
    let foo := singlePlugin "foo" []
    let bar := singlePlugin "bar" []
    let requests : Bool → RegistryRequest :=
      fun b => if b then .remove "bar[default]-1.0" else .remove "foo[default]-1.0"
    let race := (RegistryRace.initial requests [foo, bar, singlePlugin "baz" []]).apply true
    RegistryRace.TakesOut bar true
        (Runs.final RegistryRace.apply [false, false] (race.apply true)) ↔
      Runs.Meets RegistryRace.apply (RegistryRace.Keeps 1) [false, false] (race.apply true) :=
  remove_takesOut_iff rfl rfl (by decide) (by decide)
    (fun j => by cases j <;> (rintro (h | h) <;> cases h)) (by decide)

/-- The pop then takes out `baz`. -/
example :
    let requests : Bool → RegistryRequest :=
      fun b => if b then .remove "bar[default]-1.0" else .remove "foo[default]-1.0"
    let registry := ["foo", "bar", "baz"].map fun name => singlePlugin name []
    (Runs.final RegistryRace.apply [true, true, false, false, true]
      (RegistryRace.initial requests registry)).shared = [singlePlugin "bar" []] := by
  decide

end Race
end Bartender
