import Bartender.Library.Interleaving
import Bartender.Library.Runs
import Bartender.Plugins.Steps

/-!
# Calls of `start_plugin` on one plugin

Any number of calls run on the same plugin that is down, in any order of their
steps. The last status test of a call and its write of `STARTING` lie some steps
apart, and a second call that makes its test in between builds a runner as well.
-/

namespace Bartender

open Interleaving World

section StartRace

variable {ι : Type} [DecidableEq ι]

abbrev StartRace (ι : Type) := Pool ι StartCall World

def StartRace.apply (event : ι × Bool) (race : StartRace ι) : StartRace ι :=
  race.step (StartCall.step event.2) event.1

def StartRace.initial (plugin : LocalPluginRunner) (w : World) : StartRace ι :=
  ⟨fun _ => .begin plugin, w⟩

/-- The runners built since `w₀` on which `start()` was called. -/
def startedSince (w₀ w : World) : List LocalPluginRunner :=
  (w.runners.drop w₀.runners.length).filter fun p => 0 < w.starts p.address

def SoleStarted (w₀ w : World) (uniqueName : String) : Prop :=
  ∃ p, startedSince w₀ w = [p] ∧ w.registry.getPlugin uniqueName = some p

/-- The runner that the call has built. -/
def StartCall.built (call : StartCall) : Option LocalPluginRunner :=
  match call.point with
  | .remove newPlugin => some newPlugin
  | .register newPlugin => some newPlugin
  | .markStarting newPlugin => some newPlugin
  | .start newPlugin => some newPlugin
  | .finished newPlugin _ => newPlugin
  | _ => none

/-- The call has built a runner and not written `STARTING` yet. -/
def StartCall.Replacing (call : StartCall) : Prop :=
  match call.point with
  | .remove _ => True
  | .register _ => True
  | .markStarting _ => True
  | _ => False

instance : DecidablePred StartCall.Replacing := fun call => by
  unfold StartCall.Replacing
  split <;> infer_instance

def StartCall.Finished (call : StartCall) : Prop :=
  match call.point with
  | .finished _ _ => True
  | _ => False

instance : DecidablePred StartCall.Finished := fun call => by
  unfold StartCall.Finished
  split <;> infer_instance

/-- No call finds the plugin down while another one is replacing it. -/
def Exclusive (event : ι × Bool) (race : StartRace ι) : Prop :=
  let call := race.threads event.1
  call.point = .testDown → (race.shared.status call.plugin).IsDown →
    ∀ j, ¬ (race.threads j).Replacing

def StartCall.Waiting (plugin : LocalPluginRunner) (call : StartCall) : Prop :=
  call = ⟨plugin, .testRunning⟩ ∨ call = ⟨plugin, .testInitializing⟩ ∨ call = ⟨plugin, .testDown⟩

def StartCall.Passive (plugin : LocalPluginRunner) (call : StartCall) : Prop :=
  call.Waiting plugin ∨ call = ⟨plugin, .refuse⟩ ∨
    ∃ result, call = ⟨plugin, .finished none result⟩

variable {plugin : LocalPluginRunner} {w₀ w : World} {call : StartCall} {popen : Bool}

theorem Status.IsDown.ne {status other : Status} (h : status.IsDown) (hother : ¬ other.IsDown) :
    status ≠ other := by
  rintro rfl
  exact hother h

theorem StartCall.Waiting.step (h : call.Waiting plugin) (popen : Bool)
    (hdown : (w.status plugin).IsDown) :
    ((call.step popen w).1.Waiting plugin ∧ (call.step popen w).2 = w) ∨
      (call.step popen w).1 = ⟨plugin, .remove (rebuild plugin w.next)⟩ ∧
        (call.step popen w).2 = (w.addRunner (rebuild plugin)).1 := by
  have hrunning := hdown.ne (show ¬ Status.running.IsDown by decide)
  have hstarting := hdown.ne (show ¬ Status.starting.IsDown by decide)
  have hinitializing := hdown.ne (show ¬ Status.initializing.IsDown by decide)
  rcases h with rfl | rfl | rfl
  · simp [StartCall.step, StartCall.Waiting, hrunning, hstarting]
  · simp [StartCall.step, StartCall.Waiting, hinitializing]
  · right
    simp [StartCall.step, hdown, World.addRunner]

theorem StartCall.Passive.step (h : call.Passive plugin) (popen : Bool)
    (hinitializing : w.status plugin ≠ .initializing)
    (hdown : call.point = .testDown → ¬ (w.status plugin).IsDown) :
    (call.step popen w).1.Passive plugin ∧ (call.step popen w).2 = w := by
  rcases h with (rfl | rfl | rfl) | rfl | ⟨result, rfl⟩
  · by_cases hup : w.status plugin = .running ∨ w.status plugin = .starting <;>
      simp [StartCall.step, StartCall.Passive, StartCall.Waiting, hup]
  · simp [StartCall.step, StartCall.Passive, StartCall.Waiting, hinitializing]
  · simp [StartCall.step, StartCall.Passive, hdown rfl]
  · simp [StartCall.step, StartCall.Passive]
  · simp [StartCall.step, StartCall.Passive]

/-- The world while one call replaces the plugin and nobody else does anything
to it. -/
inductive Stage (plugin : LocalPluginRunner) (w₀ : World) : StartPoint → World → Prop
  | remove : Stage plugin w₀ (.remove (rebuild plugin w₀.next)) (w₀.addRunner (rebuild plugin)).1
  | register : Stage plugin w₀ (.register (rebuild plugin w₀.next))
      { (w₀.addRunner (rebuild plugin)).1 with
        registry := w₀.registry.remove plugin.uniqueName }
  | markStarting : Stage plugin w₀ (.markStarting (rebuild plugin w₀.next))
      ((w₀.addRunner (rebuild plugin)).1.replaceInRegistry plugin (rebuild plugin w₀.next))
  | start : Stage plugin w₀ (.start (rebuild plugin w₀.next))
      (((w₀.addRunner (rebuild plugin)).1.replaceInRegistry plugin
        (rebuild plugin w₀.next)).setStatus plugin .starting)
  | finished (popen : Bool) (result : Except StartError Bool) :
      Stage plugin w₀ (.finished (some (rebuild plugin w₀.next)) result)
        ((((w₀.addRunner (rebuild plugin)).1.replaceInRegistry plugin
          (rebuild plugin w₀.next)).setStatus plugin .starting).start
            (rebuild plugin w₀.next) popen)

theorem Stage.step {point : StartPoint} (h : Stage plugin w₀ point w) (popen : Bool) :
    (StartCall.step popen ⟨plugin, point⟩ w).1.plugin = plugin ∧
      Stage plugin w₀ (StartCall.step popen ⟨plugin, point⟩ w).1.point
        (StartCall.step popen ⟨plugin, point⟩ w).2 := by
  cases h with
  | remove => exact ⟨rfl, .register⟩
  | register => exact ⟨rfl, .markStarting⟩
  | markStarting => exact ⟨rfl, .start⟩
  | start => exact ⟨rfl, .finished popen _⟩
  | finished popen' result => exact ⟨rfl, .finished popen' result⟩

theorem Stage.status {point : StartPoint} {status : Status} (h : Stage plugin w₀ point w)
    (hstored : Stored w₀ plugin status) :
    (StartCall.mk plugin point).Replacing ∧ w.status plugin = status ∨
      w.status plugin = .starting := by
  cases h with
  | remove => exact .inl ⟨trivial, hstored.status_eq⟩
  | register => exact .inl ⟨trivial, hstored.status_eq⟩
  | markStarting => exact .inl ⟨trivial, hstored.status_eq⟩
  | start =>
    have h : Stored ((w₀.addRunner (rebuild plugin)).1.replaceInRegistry plugin
      (rebuild plugin w₀.next)) plugin status := hstored
    exact .inr (h.setStatus .starting).status_eq
  | finished =>
    have h : Stored ((w₀.addRunner (rebuild plugin)).1.replaceInRegistry plugin
      (rebuild plugin w₀.next)) plugin status := hstored
    exact .inr (h.setStatus .starting).status_eq

theorem Stage.runners {point : StartPoint} (h : Stage plugin w₀ point w) :
    w.runners.drop w₀.runners.length = [rebuild plugin w₀.next] := by
  cases h <;> simp [World.start, World.setRuntime, World.replaceInRegistry, World.addRunner]

theorem Stage.startedSince {point : StartPoint} (h : Stage plugin w₀ point w) :
    (startedSince w₀ w).length ≤ 1 := by
  unfold Bartender.startedSince
  rw [h.runners]
  exact List.length_filter_le _ _

theorem Stage.soleStarted {r : Option LocalPluginRunner} {result : Except StartError Bool}
    (h : Stage plugin w₀ (.finished r result) w) (hdistinct : w₀.registry.Distinct) :
    SoleStarted w₀ w plugin.uniqueName := by
  have hrunners := h.runners
  cases h with
  | finished popen =>
    have hstarts : ∀ before : World, 0 <
        (before.start (rebuild plugin w₀.next) popen).starts (rebuild plugin w₀.next).address := by
      intro before
      rw [starts_start_self]
      omega
    have hname : (rebuild plugin w₀.next).uniqueName = plugin.uniqueName := rfl
    have hfound : ((w₀.addRunner (rebuild plugin)).1.replaceInRegistry plugin
        (rebuild plugin w₀.next)).registry.getPlugin plugin.uniqueName =
          some (rebuild plugin w₀.next) := getPlugin_replaceInRegistry hdistinct hname
    refine ⟨rebuild plugin w₀.next, ?_, ?_⟩
    · unfold Bartender.startedSince
      rw [hrunners, List.filter_eq_self]
      intro p hp
      rw [List.mem_singleton.mp hp]
      exact decide_eq_true (hstarts _)
    · rw [← hfound]
      exact congrArg (fun registry => Registry.getPlugin registry _) (setStatus_registry _)

/-- Nobody has built a runner, or one call has and the others have not. -/
inductive OneReplaces (plugin : LocalPluginRunner) (w₀ : World) (race : StartRace ι) : Prop
  | nobody (hworld : race.shared = w₀) (hcalls : ∀ i, (race.threads i).Waiting plugin)
  | somebody (i : ι) (hplugin : (race.threads i).plugin = plugin)
      (hstage : Stage plugin w₀ (race.threads i).point race.shared)
      (hcalls : ∀ j, j ≠ i → (race.threads j).Passive plugin)

theorem OneReplaces.step {race : StartRace ι} (h : OneReplaces plugin w₀ race) {status : Status}
    (hstored : Stored w₀ plugin status) (hdown : status.IsDown) (event : ι × Bool)
    (hexclusive : Exclusive event race) : OneReplaces plugin w₀ (StartRace.apply event race) := by
  obtain ⟨i, popen⟩ := event
  cases h with
  | nobody hworld hcalls =>
    have hstatus : (race.shared.status plugin).IsDown := by rwa [hworld, hstored.status_eq]
    rcases (hcalls i).step popen hstatus with ⟨hwaiting, hsame⟩ | ⟨hcall, hbuilt⟩
    · exact .nobody (hsame.trans hworld) (Pool.forall_threads_step _ race
        (P := fun _ call => call.Waiting plugin) hwaiting fun j _ => hcalls j)
    · refine .somebody i ?_ ?_ fun j hj => ?_
      · rw [StartRace.apply, Pool.step_threads_self, hcall]
      · rw [StartRace.apply, Pool.step_threads_self, Pool.step_shared, hcall, hbuilt, hworld]
        exact .remove
      · rw [StartRace.apply, Pool.step_threads_of_ne _ _ hj]
        exact .inl (hcalls j)
  | somebody b hplugin hstage hcalls =>
    by_cases hi : i = b
    · subst hi
      have hcall : race.threads i = ⟨plugin, (race.threads i).point⟩ := by rw [← hplugin]
      have hstep := hstage.step popen
      rw [← hcall] at hstep
      refine .somebody i ?_ ?_ fun j hj => ?_
      · rw [StartRace.apply, Pool.step_threads_self]
        exact hstep.1
      · rw [StartRace.apply, Pool.step_threads_self]
        exact hstep.2
      · rw [StartRace.apply, Pool.step_threads_of_ne _ _ hj]
        exact hcalls j hj
    · have hstatus := hstage.status hstored
      have hinitializing : race.shared.status plugin ≠ .initializing := by
        rcases hstatus with ⟨-, hstatus⟩ | hstatus
        · rw [hstatus]
          exact hdown.ne (by decide)
        · rw [hstatus]
          decide
      have htest : (race.threads i).point = .testDown → ¬ (race.shared.status plugin).IsDown := by
        intro hpoint hdown'
        rcases hstatus with ⟨hreplacing, -⟩ | hstatus
        · rw [← hplugin] at hreplacing
          have hcalled : (race.threads i).plugin = plugin := by
            rcases hcalls i hi with (h | h | h) | h | ⟨_, h⟩ <;> rw [h]
          exact hexclusive hpoint (hcalled.symm ▸ hdown') b hreplacing
        · rw [hstatus] at hdown'
          exact absurd hdown' (by decide)
      obtain ⟨hpassive, hsame⟩ := (hcalls i hi).step popen hinitializing htest
      refine .somebody b ?_ ?_ ?_
      · rw [StartRace.apply, Pool.step_threads_of_ne _ _ (Ne.symm hi)]
        exact hplugin
      · rw [StartRace.apply, Pool.step_threads_of_ne _ _ (Ne.symm hi), Pool.step_shared]
        exact hsame.symm ▸ hstage
      · exact Pool.forall_threads_step _ race (P := fun j call => j ≠ b → call.Passive plugin)
          (fun _ => hpassive) fun j _ => hcalls j

structure Later (w w' : World) : Prop where
  runners : w.runners <+: w'.runners
  next : w.next ≤ w'.next
  starts : ∀ address < w.next, w.starts address ≤ w'.starts address

theorem Later.refl (w : World) : Later w w := ⟨List.prefix_refl _, le_rfl, fun _ _ => le_rfl⟩

theorem StartCall.later_step (popen : Bool) (call : StartCall) (w : World) :
    Later w (call.step popen w).2 := by
  obtain ⟨plugin, point⟩ := call
  cases point with
  | testRunning =>
    simp only [StartCall.step]
    split <;> exact .refl w
  | testInitializing =>
    simp only [StartCall.step]
    split <;> exact .refl w
  | testDown =>
    simp only [StartCall.step]
    split
    · refine ⟨List.prefix_append _ _, Nat.le_succ _, fun address haddress => ?_⟩
      have hne : address ≠ w.next := by omega
      simp [World.starts, World.addRunner, hne]
    · exact .refl w
  | refuse => exact .refl w
  | remove => exact ⟨List.prefix_refl _, le_rfl, fun _ _ => Nat.le_refl _⟩
  | register => exact ⟨List.prefix_refl _, le_rfl, fun _ _ => Nat.le_refl _⟩
  | markStarting newPlugin =>
    refine ⟨?_, ?_, fun address _ => ?_⟩
    · rw [show (StartCall.step popen ⟨plugin, .markStarting newPlugin⟩ w).2 =
        w.setStatus newPlugin .starting from rfl, setStatus_runners]
    · rw [show (StartCall.step popen ⟨plugin, .markStarting newPlugin⟩ w).2 =
        w.setStatus newPlugin .starting from rfl, setStatus_next]
    · exact (starts_setStatus .starting address).ge
  | start newPlugin =>
    refine ⟨List.prefix_refl _, le_rfl, fun address _ => ?_⟩
    show w.starts address ≤ (w.start newPlugin popen).starts address
    by_cases h : address = newPlugin.address
    · rw [h, starts_start_self]
      omega
    · rw [starts_start_of_ne popen h]
  | finished => exact .refl w

/-- What a call has built is new, and was started if the call is over. -/
structure Traced (plugin : LocalPluginRunner) (w₀ : World) (call : StartCall) (w : World) :
    Prop where
  plugin_eq : call.plugin = plugin
  built : ∀ r, call.built = some r → r.instance? = plugin.instance? ∧ r.address < w.next ∧
    r ∈ w.runners.drop w₀.runners.length
  started : ∀ r, call.built = some r → call.Finished → 0 < w.starts r.address

structure Contested (plugin : LocalPluginRunner) (w₀ w : World) : Prop where
  runners : w₀.runners <+: w.runners
  status : ∃ status, Stored w plugin status ∧ (status.IsDown ∨ status = .starting)

theorem Traced.later {call : StartCall} {w w' : World} (h : Traced plugin w₀ call w)
    (hlater : Later w w') (hrunners : w₀.runners <+: w.runners) : Traced plugin w₀ call w' where
  plugin_eq := h.plugin_eq
  built r hr := by
    obtain ⟨hinstance, haddress, hmem⟩ := h.built r hr
    obtain ⟨rest, hrest⟩ := hlater.runners
    refine ⟨hinstance, haddress.trans_le hlater.next, ?_⟩
    rw [← hrest, List.drop_append_of_le_length hrunners.length_le]
    exact List.mem_append_left _ hmem
  started r hr hfinished :=
    (h.started r hr hfinished).trans_le (hlater.starts r.address (h.built r hr).2.1)

theorem StartCall.built_step {r : LocalPluginRunner} (h : call.built = some r) (popen : Bool)
    (w : World) : (call.step popen w).1.built = some r := by
  obtain ⟨plugin, point⟩ := call
  cases point with
  | testRunning => cases h
  | testInitializing => cases h
  | testDown => cases h
  | refuse => cases h
  | _ => exact h

theorem Contested.step (h : Contested plugin w₀ w) (hcall : Traced plugin w₀ call w)
    (popen : Bool) : Contested plugin w₀ (call.step popen w).2 := by
  refine ⟨h.runners.trans (StartCall.later_step popen call w).runners, ?_⟩
  obtain ⟨status, hstored, hstatus⟩ := h.status
  obtain ⟨plugin', point⟩ := call
  have hkept : ∃ status, Stored w plugin status ∧ (status.IsDown ∨ status = .starting) :=
    ⟨status, hstored, hstatus⟩
  cases point with
  | testRunning =>
    simp only [StartCall.step]
    split <;> exact hkept
  | testInitializing =>
    simp only [StartCall.step]
    split <;> exact hkept
  | testDown =>
    simp only [StartCall.step]
    split <;> exact hkept
  | markStarting newPlugin =>
    have hinstance := (hcall.built newPlugin rfl).1
    refine ⟨.starting, ?_, .inr rfl⟩
    have hmarked : Stored (w.setStatus plugin .starting) plugin .starting :=
      hstored.setStatus .starting
    have hsame : w.setStatus newPlugin .starting = w.setStatus plugin .starting := by
      unfold World.setStatus
      rw [hinstance]
    show Stored (w.setStatus newPlugin .starting) plugin .starting
    rwa [hsame]
  | _ => exact hkept

/-- A step builds no runner but a new one. -/
theorem StartCall.built_of_step (h : Contested plugin w₀ w) (hplugin : call.plugin = plugin)
    {r : LocalPluginRunner} (hr : (call.step popen w).1.built = some r) :
    call.built = some r ∨ call.built = none ∧ r = rebuild plugin w.next ∧
      (call.step popen w).1.point = .remove r ∧
      (call.step popen w).2.runners = w.runners ++ [r] ∧
        (call.step popen w).2.next = w.next + 1 := by
  obtain ⟨status, hstored, hstatus⟩ := h.status
  have hinitializing : w.status plugin ≠ .initializing := by
    rw [hstored.status_eq]
    rcases hstatus with hdown | rfl
    · exact hdown.ne (by decide)
    · decide
  obtain ⟨plugin', point⟩ := call
  subst hplugin
  cases point with
  | testRunning =>
    simp only [StartCall.step] at hr
    split at hr <;> cases hr
  | testInitializing =>
    simp only [StartCall.step, if_neg hinitializing] at hr
    cases hr
  | testDown =>
    right
    simp only [StartCall.step] at hr ⊢
    split at hr
    · cases hr
      simp [StartCall.built, World.addRunner, *]
    · cases hr
  | refuse => cases hr
  | _ => exact .inl hr

theorem StartCall.starts_of_finished {r : LocalPluginRunner} (hr : call.built = some r)
    (hbefore : ¬ call.Finished) (hafter : (call.step popen w).1.Finished) :
    0 < (call.step popen w).2.starts r.address := by
  obtain ⟨plugin, point⟩ := call
  cases point with
  | start newPlugin =>
    cases hr
    show 0 < (w.start r popen).starts r.address
    rw [starts_start_self]
    omega
  | finished => exact absurd trivial hbefore
  | remove => exact hafter.elim
  | register => exact hafter.elim
  | markStarting => exact hafter.elim
  | _ => cases hr

theorem Traced.step (hcontested : Contested plugin w₀ w) (h : Traced plugin w₀ call w)
    (popen : Bool) : Traced plugin w₀ (call.step popen w).1 (call.step popen w).2 := by
  have hlater := h.later (StartCall.later_step popen call w) hcontested.runners
  refine ⟨(StartCall.step_plugin popen call w).trans h.plugin_eq, fun r hr => ?_,
    fun r hr hfinished => ?_⟩
  · rcases StartCall.built_of_step hcontested h.plugin_eq hr with
      hold | ⟨-, rfl, -, hrunners, hnext⟩
    · exact hlater.built r hold
    · refine ⟨rfl, ?_, ?_⟩
      · rw [rebuild_address, hnext]
        omega
      · rw [hrunners, List.drop_append_of_le_length hcontested.runners.length_le]
        exact List.mem_append_right _ (List.mem_singleton.mpr rfl)
  · rcases StartCall.built_of_step hcontested h.plugin_eq hr with hold | ⟨-, -, hpoint, -, -⟩
    · by_cases hbefore : call.Finished
      · exact hlater.started r hold hbefore
      · exact StartCall.starts_of_finished hold hbefore hfinished
    · unfold StartCall.Finished at hfinished
      rw [hpoint] at hfinished
      exact hfinished.elim

/-- The calls are accounted for, and no two of them have built the same runner. -/
structure Racing (plugin : LocalPluginRunner) (w₀ : World) (race : StartRace ι) : Prop where
  outline : race.Outline (Contested plugin w₀) (Traced plugin w₀)
  apart : ∀ i j r r', i ≠ j → (race.threads i).built = some r →
    (race.threads j).built = some r' → r.address ≠ r'.address

theorem Racing.step {race : StartRace ι} (h : Racing plugin w₀ race) (event : ι × Bool) :
    Racing plugin w₀ (StartRace.apply event race) := by
  obtain ⟨i, popen⟩ := event
  have hshared := h.outline.shared
  have hcall := h.outline.threads i
  refine ⟨h.outline.step (hshared.step hcall popen) (hcall.step hshared popen) fun call' hcall' =>
    hcall'.later (StartCall.later_step popen _ _) hshared.runners, ?_⟩
  -- a runner that is built now lies above all that were built before
  have hnew : ∀ j r r', j ≠ i → (race.threads j).built = some r →
      ((race.threads i).step popen race.shared).1.built = some r' → r.address ≠ r'.address := by
    intro j r r' hj hr hr'
    rcases StartCall.built_of_step hshared hcall.plugin_eq hr' with hold | ⟨-, rfl, -, -, -⟩
    · exact h.apart j i r r' hj hr hold
    · have hlt := ((h.outline.threads j).built r hr).2.1
      rw [rebuild_address]
      omega
  intro j k r r' hne hr hr'
  by_cases hj : j = i
  · subst hj
    rw [StartRace.apply, Pool.step_threads_self] at hr
    rw [StartRace.apply, Pool.step_threads_of_ne _ _ (Ne.symm hne)] at hr'
    exact (hnew k r' r (Ne.symm hne) hr' hr).symm
  · rw [StartRace.apply, Pool.step_threads_of_ne _ _ hj] at hr
    by_cases hk : k = i
    · subst hk
      rw [StartRace.apply, Pool.step_threads_self] at hr'
      exact hnew j r r' hj hr hr'
    · rw [StartRace.apply, Pool.step_threads_of_ne _ _ hk] at hr'
      exact h.apart j k r r' hne hr hr'

def TwoBuilt (race : StartRace ι) : Prop :=
  ∃ i j r r', i ≠ j ∧ (race.threads i).built = some r ∧ (race.threads j).built = some r'

theorem built_apply {race : StartRace ι} {i : ι} {r : LocalPluginRunner}
    (h : (race.threads i).built = some r) (event : ι × Bool) :
    ((StartRace.apply event race).threads i).built = some r := by
  by_cases hi : i = event.1
  · rw [hi, StartRace.apply, Pool.step_threads_self, ← hi]
    exact StartCall.built_step h event.2 race.shared
  · rwa [StartRace.apply, Pool.step_threads_of_ne _ _ hi]

theorem TwoBuilt.step {race : StartRace ι} (h : TwoBuilt race) (event : ι × Bool) :
    TwoBuilt (StartRace.apply event race) := by
  obtain ⟨i, j, r, r', hne, hr, hr'⟩ := h
  exact ⟨i, j, r, r', hne, built_apply hr event, built_apply hr' event⟩

theorem StartCall.Replacing.built (h : call.Replacing) : ∃ r, call.built = some r := by
  obtain ⟨plugin, point⟩ := call
  cases point with
  | remove newPlugin => exact ⟨newPlugin, rfl⟩
  | register newPlugin => exact ⟨newPlugin, rfl⟩
  | markStarting newPlugin => exact ⟨newPlugin, rfl⟩
  | _ => exact h.elim

theorem twoBuilt_of_not_exclusive {race : StartRace ι} {event : ι × Bool}
    (h : ¬ Exclusive event race) : TwoBuilt (StartRace.apply event race) := by
  simp only [Exclusive, not_forall, not_not] at h
  obtain ⟨hpoint, hdown, j, hreplacing⟩ := h
  obtain ⟨r, hr⟩ := hreplacing.built
  have hj : j ≠ event.1 := by
    rintro rfl
    unfold StartCall.Replacing at hreplacing
    rw [hpoint] at hreplacing
    exact hreplacing
  refine ⟨j, event.1, r, rebuild (race.threads event.1).plugin race.shared.next, hj,
    built_apply hr event, ?_⟩
  rw [StartRace.apply, Pool.step_threads_self]
  unfold StartCall.step
  rw [hpoint]
  simp only [if_pos hdown]
  rfl

omit [DecidableEq ι] in
theorem TwoBuilt.not_soleStarted {race : StartRace ι} (h : TwoBuilt race)
    (hracing : Racing plugin w₀ race) (hfinished : ∀ i, (race.threads i).Finished)
    {uniqueName : String} : ¬ SoleStarted w₀ race.shared uniqueName := by
  rintro ⟨p, hstarted, -⟩
  obtain ⟨i, j, r, r', hne, hr, hr'⟩ := h
  have hmem : ∀ i r, (race.threads i).built = some r → r ∈ startedSince w₀ race.shared := by
    intro i r hr
    have hcall := hracing.outline.threads i
    exact List.mem_filter.mpr ⟨(hcall.built r hr).2.2,
      decide_eq_true (hcall.started r hr (hfinished i))⟩
  have hi := hmem i r hr
  have hj := hmem j r' hr'
  rw [hstarted, List.mem_singleton] at hi hj
  exact hracing.apart i j r r' hne hr hr' (by rw [hi, hj])

/-- Calls of `start_plugin` on one plugin that is down. As long as no call finds
it down while another one is replacing it, at most one runner is started; and
once all have ended, exactly then is one new runner started and registered. -/
theorem startRace_soleStarted_iff [Nonempty ι] {status : Status} (hdistinct : w₀.registry.Distinct)
    (hstored : Stored w₀ plugin status) (hdown : status.IsDown) (events : List (ι × Bool)) :
    (Runs.Meets StartRace.apply Exclusive events (.initial plugin w₀) →
      Runs.Throughout StartRace.apply (fun race => (startedSince w₀ race.shared).length ≤ 1) events
        (.initial plugin w₀)) ∧
    ((∀ i, ((Runs.final StartRace.apply events (.initial plugin w₀)).threads i).Finished) →
      (SoleStarted w₀ (Runs.final StartRace.apply events (.initial plugin w₀)).shared
          plugin.uniqueName ↔
        Runs.Meets StartRace.apply Exclusive events (.initial plugin w₀))) := by
  have hone : Runs.Meets StartRace.apply Exclusive events (.initial plugin w₀) →
      Runs.Throughout StartRace.apply (OneReplaces (ι := ι) plugin w₀) events
        (.initial plugin w₀) :=
    Runs.throughout_of_meets (fun event race h hexclusive =>
      h.step hstored hdown event hexclusive) (.nobody rfl fun _ => .inl rfl)
  have hracing : Racing plugin w₀ (StartRace.initial plugin w₀ : StartRace ι) := by
    refine ⟨⟨⟨List.prefix_refl _, status, hstored, .inl hdown⟩, fun i => ⟨rfl, ?_, ?_⟩⟩, ?_⟩
    · intro r hr
      cases hr
    · intro r hr
      cases hr
    · intro i j r r' _ hr
      cases hr
  constructor
  · intro hmeets
    refine (hone hmeets).imp fun race h => ?_
    cases h with
    | nobody hworld _ =>
      unfold startedSince
      simp [hworld]
    | somebody i _ hstage _ => exact hstage.startedSince
  · intro hfinished
    constructor
    · intro hsole
      by_contra hnot
      have htwo : Racing plugin w₀ _ ∧ TwoBuilt _ := Runs.final_of_not_meets
        (I := Racing plugin w₀) (Q := fun race => Racing plugin w₀ race ∧ TwoBuilt race)
        (fun event race h => h.step event) (fun event race _ h => ⟨h.1.step event, h.2.step event⟩)
        (fun event race h hnot => ⟨h.step event, twoBuilt_of_not_exclusive hnot⟩) hracing hnot
      exact htwo.2.not_soleStarted htwo.1 hfinished hsole
    · intro hmeets
      cases (hone hmeets).final with
      | nobody _ hcalls =>
        obtain ⟨i⟩ := ‹Nonempty ι›
        have hwaiting := hcalls i
        have hover := hfinished i
        rcases hwaiting with h | h | h <;> (rw [h] at hover; exact hover.elim)
      | somebody i hplugin hstage _ =>
        have hover := hfinished i
        unfold StartCall.Finished at hover
        split at hover
        · rename_i hpoint
          rw [hpoint] at hstage
          exact hstage.soleStarted hdistinct
        · exact hover.elim

/-- Two calls, one after the other. -/
theorem startRace_soleStarted_iff_sequential :
    let dead := World.single (singlePlugin "foo" []) .dead ⟨1, false, .exited⟩
    let events := List.replicate 7 (false, true) ++ List.replicate 7 (true, true)
    let race : StartRace Bool := .initial (singlePlugin "foo" []) dead
    (Runs.Meets StartRace.apply Exclusive events race →
      Runs.Throughout StartRace.apply (fun race => (startedSince dead race.shared).length ≤ 1)
        events race) ∧
    ((∀ i, ((Runs.final StartRace.apply events race).threads i).Finished) →
      (SoleStarted dead (Runs.final StartRace.apply events race).shared
          (singlePlugin "foo" []).uniqueName ↔
        Runs.Meets StartRace.apply Exclusive events race)) :=
  startRace_soleStarted_iff (by decide)
    ⟨⟨0, "default"⟩, ⟨.dead, none⟩, rfl, rfl, rfl⟩ (.inr rfl) _

/-- Both calls make their tests before either writes `STARTING`: two runners are
started, and the registry has one of them. -/
theorem startRace_two_started :
    let dead := World.single (singlePlugin "foo" []) .dead ⟨1, false, .exited⟩
    let events := List.replicate 3 (false, true) ++ List.replicate 3 (true, true) ++
      List.replicate 4 (false, true) ++ List.replicate 4 (true, true)
    let race : StartRace Bool :=
      Runs.final StartRace.apply events (.initial (singlePlugin "foo" []) dead)
    (∀ i, (race.threads i).Finished) ∧ (startedSince dead race.shared).length = 2 ∧
      race.shared.registry.length = 1 := by
  decide

end StartRace
end Bartender
