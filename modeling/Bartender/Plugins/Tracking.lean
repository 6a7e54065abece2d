import Bartender.Plugins.Monitors
import Bartender.Plugins.Threads

/-!
# Keeping live subprocesses in the registry

A subprocess is reached through its runner object, and a runner object through
the registry, under its unique name. The invariant says that no subprocess is
lost that runs or is still to be spawned. Most steps touch neither the registry
nor the set of runners and start nothing; the others are composed of four:
building a runner, registering it, removing a name and calling `start()`. The
threads stay where they are meanwhile.
-/

namespace Bartender

namespace World

variable (point : ℕ → ThreadPoint) (w : World) (plugin : LocalPluginRunner)

def Registered : Prop := w.registry.getPlugin plugin.uniqueName = some plugin

instance : Decidable (w.Registered plugin) :=
  inferInstanceAs (Decidable (w.registry.getPlugin plugin.uniqueName = some plugin))

/-- The runner's subprocess runs or will run, with the threads at these points. -/
def Active : Prop := (w.runtime plugin.address).Active (point plugin.address)

instance : Decidable (w.Active point plugin) :=
  inferInstanceAs (Decidable ((w.runtime plugin.address).Active (point plugin.address)))

def Idle : Prop := w.Registered plugin ∧ ¬ w.Active point plugin

end World

structure Tracked (point : ℕ → ThreadPoint) (w : World) : Prop where
  distinct : w.registry.Distinct
  built : ∀ p ∈ w.registry, p ∈ w.runners
  allocated : ∀ p ∈ w.runners, p.address < w.next
  eq_of_address : ∀ p ∈ w.runners, ∀ q ∈ w.runners, p.address = q.address → p = q
  unbuilt : ∀ address, w.next ≤ address → ¬ (point address).Hides
  active : ∀ p ∈ w.runners, w.Active point p → w.Registered p

/-- The step leaves the registry and the runners as they are and starts nothing. -/
structure Quiet (w w' : World) : Prop where
  registry : w'.registry = w.registry
  runners : w'.runners = w.runners
  next : w.next ≤ w'.next
  runtime : ∀ address, (w'.runtime address).starts = (w.runtime address).starts ∧
    ((w'.runtime address).process = (w.runtime address).process ∨
      (w'.runtime address).process = .exited)

variable {point : ℕ → ThreadPoint}

section Quiet

variable {w w' w'' : World} {plugin : LocalPluginRunner}

theorem Quiet.of_runtime (hregistry : w'.registry = w.registry) (hrunners : w'.runners = w.runners)
    (hnext : w.next ≤ w'.next) (hruntime : w'.runtime = w.runtime) : Quiet w w' :=
  ⟨hregistry, hrunners, hnext, fun _ => ⟨by rw [hruntime], .inl (by rw [hruntime])⟩⟩

theorem Quiet.refl (w : World) : Quiet w w := .of_runtime rfl rfl le_rfl rfl

theorem Quiet.trans (h : Quiet w w') (h' : Quiet w' w'') : Quiet w w'' where
  registry := h'.registry.trans h.registry
  runners := h'.runners.trans h.runners
  next := h.next.trans h'.next
  runtime address := by
    obtain ⟨hstarts, hprocess⟩ := h.runtime address
    obtain ⟨hstarts', hprocess'⟩ := h'.runtime address
    refine ⟨hstarts'.trans hstarts, ?_⟩
    rcases hprocess' with hsame | hexited
    · rwa [hsame]
    · exact .inr hexited

theorem Quiet.alive (h : Quiet w w') (p : LocalPluginRunner) (halive : w'.Alive p) : w.Alive p := by
  unfold World.Alive at halive ⊢
  rcases (h.runtime p.address).2 with hsame | hexited
  · rwa [← hsame]
  · rw [hexited] at halive
    cases halive

theorem Quiet.exited (h : Quiet w w') {address : ℕ}
    (hexited : (w.runtime address).process = .exited) :
    (w'.runtime address).process = .exited := by
  rcases (h.runtime address).2 with hsame | hexited'
  · rwa [hsame]
  · exact hexited'

theorem Quiet.active (h : Quiet w w') (p : LocalPluginRunner) (hactive : w'.Active point p) :
    w.Active point p := by
  obtain ⟨hstarts, hsame | hexited⟩ := h.runtime p.address
  · unfold World.Active Runtime.Active Runtime.Live at hactive ⊢
    rwa [hstarts, hsame] at hactive
  · exact absurd hactive (Runtime.not_active_of_exited hexited)

theorem quiet_setStatus (plugin : LocalPluginRunner) (status : Status) (w : World) :
    Quiet w (w.setStatus plugin status) :=
  .of_runtime (by simp) (by simp) (by simp) (by simp)

theorem quiet_setInstanceStatus (id : ℕ) (status : Status) (w : World) :
    Quiet w (w.setInstanceStatus id status) :=
  .of_runtime (by simp) (by simp) (by simp) (by simp)

theorem quiet_stop (plugin : LocalPluginRunner) (w : World) : Quiet w (w.stop plugin) where
  registry := rfl
  runners := rfl
  next := le_rfl
  runtime address := by
    by_cases h : address = plugin.address <;> simp [World.stop, World.setRuntime, h]

theorem not_alive_endProcess (plugin : LocalPluginRunner) (w : World) :
    ¬ (w.endProcess plugin).Alive plugin := by
  unfold World.Alive World.endProcess
  rw [World.setRuntime_runtime_self]
  dsimp only
  split_ifs with h
  · exact nofun
  · exact h

theorem quiet_endProcess (plugin : LocalPluginRunner) (w : World) :
    Quiet w (w.endProcess plugin) where
  registry := rfl
  runners := rfl
  next := le_rfl
  runtime address := by
    by_cases h : address = plugin.address
    · subst h
      rw [World.endProcess, World.setRuntime_runtime_self]
      refine ⟨rfl, ?_⟩
      dsimp only
      split_ifs
      · exact .inr rfl
      · exact .inl rfl
    · simp [World.endProcess, World.setRuntime, h]

/-- Whatever `stop_plugin` does, it then sees to the end of the subprocess, and
marks the plugin at most. -/
theorem stopPlugin_cases (shutdown : Shutdown) (plugin : LocalPluginRunner) (w : World) :
    ∃ before, Quiet w before ∧
      (stopPlugin shutdown plugin w = before.endProcess plugin ∨
        stopPlugin shutdown plugin w = (before.endProcess plugin).setStatus plugin .dead) := by
  unfold stopPlugin stopFinally
  split
  · exact ⟨w, .refl w, .inl rfl⟩
  · exact ⟨w, .refl w, .inl rfl⟩
  · exact ⟨w, .refl w, .inl rfl⟩
  · dsimp only
    have hmark : Quiet w (if w.status plugin = .unknown then w else
        w.setStatus plugin .stopping) := by
      split_ifs
      · exact .refl w
      · exact quiet_setStatus plugin .stopping w
    generalize (if w.status plugin = .unknown then w else w.setStatus plugin .stopping) = marked
      at hmark ⊢
    have hstop : Quiet marked (if shutdown.stopReturns then marked.stop plugin else marked) := by
      split_ifs
      · exact quiet_stop plugin marked
      · exact .refl marked
    generalize (if shutdown.stopReturns then marked.stop plugin else marked) = stopped
      at hstop ⊢
    have hreport : Quiet stopped
        (if shutdown.reportsStopped then stopped.setStatus plugin .stopped else stopped) := by
      split_ifs
      · exact quiet_setStatus plugin .stopped stopped
      · exact .refl stopped
    generalize (if shutdown.reportsStopped then stopped.setStatus plugin .stopped else stopped) =
      reported at hreport ⊢
    refine ⟨reported, (hmark.trans hstop).trans hreport, ?_⟩
    split_ifs
    · exact .inl rfl
    · exact .inr rfl

theorem quiet_stopPlugin (shutdown : Shutdown) (plugin : LocalPluginRunner) (w : World) :
    Quiet w (stopPlugin shutdown plugin w) := by
  obtain ⟨before, hbefore, heq | heq⟩ := stopPlugin_cases shutdown plugin w
  · rw [heq]
    exact hbefore.trans (quiet_endProcess plugin before)
  · rw [heq]
    exact (hbefore.trans (quiet_endProcess plugin before)).trans (quiet_setStatus plugin .dead _)

theorem not_alive_stopPlugin (shutdown : Shutdown) (plugin : LocalPluginRunner) (w : World) :
    ¬ (stopPlugin shutdown plugin w).Alive plugin := by
  obtain ⟨before, -, heq | heq⟩ := stopPlugin_cases shutdown plugin w
  · rw [heq]
    exact not_alive_endProcess plugin before
  · rw [heq]
    intro halive
    exact not_alive_endProcess plugin before ((quiet_setStatus plugin .dead _).alive _ halive)

theorem quiet_markAsFailed (plugin : LocalPluginRunner) (w : World) :
    Quiet w (markAsFailed plugin w).2 := by
  unfold markAsFailed
  cases w.findUnique plugin.system.name plugin.system.version with
  | none => exact .refl w
  | some system =>
    dsimp only
    generalize system.instances.filter (fun i => i.name == plugin.instanceName) = instances
    induction instances generalizing w with
    | nil => exact .refl w
    | cons i instances ih => exact (quiet_setInstanceStatus i.id .dead w).trans (ih _)

end Quiet

section Tracked

variable {w w' : World} {plugin : LocalPluginRunner}

theorem World.Registered.mem (h : w.Registered plugin) : plugin ∈ w.registry :=
  (Registry.mem_of_getPlugin h).1

theorem Tracked.registered_of_mem (h : Tracked point w) (hp : plugin ∈ w.registry) :
    w.Registered plugin := h.distinct.getPlugin_of_mem hp

theorem Tracked.mem_runners (h : Tracked point w) (hp : w.Registered plugin) : plugin ∈ w.runners :=
  h.built plugin hp.mem

theorem Tracked.address_ne_next (h : Tracked point w) (hp : plugin ∈ w.runners) :
    plugin.address ≠ w.next := (h.allocated plugin hp).ne

theorem Tracked.eq_of_uniqueName (h : Tracked point w) {q : LocalPluginRunner} (hq : q ∈ w.runners)
    (hactive : w.Active point q) (hp : w.Registered plugin)
    (hname : q.uniqueName = plugin.uniqueName) : q = plugin := by
  have hregistered := h.active q hq hactive
  unfold World.Registered at hregistered hp
  rw [hname, hp] at hregistered
  exact (Option.some.inj hregistered).symm

theorem Tracked.quiet (h : Tracked point w) (hquiet : Quiet w w') : Tracked point w' where
  distinct := hquiet.registry ▸ h.distinct
  built p hp := by
    rw [hquiet.registry] at hp
    rw [hquiet.runners]
    exact h.built p hp
  allocated p hp := by
    rw [hquiet.runners] at hp
    exact (h.allocated p hp).trans_le hquiet.next
  eq_of_address := hquiet.runners ▸ h.eq_of_address
  unbuilt address hnext := h.unbuilt address (hquiet.next.trans hnext)
  active p hp hactive := by
    rw [hquiet.runners] at hp
    unfold World.Registered
    rw [hquiet.registry]
    exact h.active p hp (hquiet.active p hactive)

theorem World.Registered.quiet (h : w.Registered plugin) (hquiet : Quiet w w') :
    w'.Registered plugin := by
  unfold World.Registered
  rw [hquiet.registry]
  exact h

theorem World.Idle.quiet (h : w.Idle point plugin) (hquiet : Quiet w w') : w'.Idle point plugin :=
  ⟨h.1.quiet hquiet, fun hactive => h.2 (hquiet.active plugin hactive)⟩

theorem Tracked.remove (h : Tracked point w) (name : String)
    (hidle : ∀ p, w.registry.getPlugin name = some p → ¬ w.Active point p) :
    Tracked point { w with registry := w.registry.remove name } where
  distinct := h.distinct.remove name
  built p hp := h.built p (List.eraseP_sublist.mem hp)
  allocated := h.allocated
  eq_of_address := h.eq_of_address
  unbuilt := h.unbuilt
  active p hp hactive := by
    have hregistered := h.active p hp hactive
    have hne : p.uniqueName ≠ name := by
      rintro rfl
      exact hidle p hregistered hactive
    exact (h.distinct.getPlugin_remove_of_ne hne).trans hregistered

theorem Tracked.foldl_remove (h : Tracked point w) (names : List String)
    (hidle : ∀ p ∈ w.registry, p.uniqueName ∈ names → ¬ w.Active point p) :
    Tracked point { w with registry := names.foldl Registry.remove w.registry } := by
  induction names generalizing w with
  | nil => exact h
  | cons name names ih =>
    have hremoved : Tracked point { w with registry := w.registry.remove name } := by
      apply h.remove
      intro p hp
      obtain ⟨hmem, hname⟩ := Registry.mem_of_getPlugin hp
      exact hidle p hmem (hname ▸ List.mem_cons_self)
    apply ih hremoved
    intro p hp hmem
    exact hidle p (List.eraseP_sublist.mem hp) (List.mem_cons_of_mem _ hmem)

theorem Tracked.registerPlugin (h : Tracked point w) (hp : plugin ∈ w.runners) :
    Tracked point { w with registry := w.registry.registerPlugin plugin } where
  distinct := h.distinct.registerPlugin plugin
  built p hmem := by
    unfold Registry.registerPlugin at hmem
    dsimp only at hmem
    split at hmem
    · rcases List.mem_append.mp hmem with hmem | hmem
      · exact h.built p hmem
      · exact List.mem_singleton.mp hmem ▸ hp
    · exact h.built p hmem
  allocated := h.allocated
  eq_of_address := h.eq_of_address
  unbuilt := h.unbuilt
  active p hmem hactive := Registry.getPlugin_registerPlugin_of_some (h.active p hmem hactive)

theorem addRunner_runtime (build : ℕ → LocalPluginRunner) {address : ℕ} (hne : address ≠ w.next) :
    (w.addRunner build).1.runtime address = w.runtime address := by
  simp [World.addRunner, hne]

theorem addRunner_active_iff (build : ℕ → LocalPluginRunner) (hp : plugin.address ≠ w.next) :
    (w.addRunner build).1.Active point plugin ↔ w.Active point plugin := by
  unfold World.Active
  rw [addRunner_runtime build hp]

theorem Tracked.addRunner_not_active (h : Tracked point w) (build : ℕ → LocalPluginRunner)
    (hp : plugin.address = w.next) : ¬ (w.addRunner build).1.Active point plugin := by
  have hunbuilt := h.unbuilt w.next le_rfl
  simp [World.Active, World.addRunner, Runtime.Active, Runtime.Live, Runtime.fresh, hp, hunbuilt]

theorem Tracked.addRunner (h : Tracked point w) (build : ℕ → LocalPluginRunner)
    (hbuild : (build w.next).address = w.next) : Tracked point (w.addRunner build).1 where
  distinct := h.distinct
  built p hp := List.mem_append_left _ (h.built p hp)
  allocated p hp := by
    rcases List.mem_append.mp hp with hp | hp
    · exact (h.allocated p hp).trans (Nat.lt_succ_self w.next)
    · rw [List.mem_singleton.mp hp, hbuild]
      exact Nat.lt_succ_self w.next
  eq_of_address p hp q hq haddress := by
    rcases List.mem_append.mp hp with hp | hp <;> rcases List.mem_append.mp hq with hq | hq
    · exact h.eq_of_address p hp q hq haddress
    · rw [List.mem_singleton.mp hq, hbuild] at haddress
      exact absurd haddress (h.address_ne_next hp)
    · rw [List.mem_singleton.mp hp, hbuild] at haddress
      exact absurd haddress.symm (h.address_ne_next hq)
    · exact (List.mem_singleton.mp hp).trans (List.mem_singleton.mp hq).symm
  unbuilt address hnext := h.unbuilt address ((Nat.le_succ w.next).trans hnext)
  active p hp hactive := by
    rcases List.mem_append.mp hp with hp | hp
    · exact h.active p hp ((addRunner_active_iff build (h.address_ne_next hp)).mp hactive)
    · have haddress : p.address = w.next := (List.mem_singleton.mp hp) ▸ hbuild
      exact absurd hactive (h.addRunner_not_active build haddress)

end Tracked

section Start

variable {popen : ℕ → Bool} {w w' : World} {plugin : LocalPluginRunner}

@[simp] theorem launch_runners : (launch popen plugin w).2.runners = w.runners := by
  unfold launch
  dsimp only
  split_ifs <;> simp [World.start, World.setRuntime]

@[simp] theorem launch_next : (launch popen plugin w).2.next = w.next := by
  unfold launch
  dsimp only
  split_ifs <;> simp [World.start, World.setRuntime]

theorem launch_active_iff {other : LocalPluginRunner} (hne : other.address ≠ plugin.address) :
    (launch popen plugin w).2.Active point other ↔ w.Active point other := by
  have hruntime : (launch popen plugin w).2.runtime other.address = w.runtime other.address := by
    unfold launch World.start
    dsimp only
    split_ifs <;> rw [World.setRuntime_runtime_of_ne _ hne] <;> simp
  unfold World.Active
  rw [hruntime]

theorem Tracked.launch (h : Tracked point w) (hp : w.Registered plugin) :
    Tracked point (launch popen plugin w).2 where
  distinct := by simpa using h.distinct
  built := by simpa using h.built
  allocated := by simpa using h.allocated
  eq_of_address := by simpa using h.eq_of_address
  unbuilt := by simpa using h.unbuilt
  active p hmem hactive := by
    rw [launch_runners] at hmem
    unfold World.Registered
    rw [launch_registry]
    by_cases haddress : p.address = plugin.address
    · rw [h.eq_of_address p hmem plugin (h.mem_runners hp) haddress]
      exact hp
    · exact h.active p hmem ((launch_active_iff haddress).mp hactive)

theorem Tracked.replaceInRegistry (h : Tracked point w) {newPlugin : LocalPluginRunner}
    (hidle : w.Idle point plugin) (hnew : newPlugin ∈ w.runners) :
    Tracked point (w.replaceInRegistry plugin newPlugin) := by
  have hremoved : Tracked point { w with registry := w.registry.remove plugin.uniqueName } := by
    apply h.remove
    intro p hp
    obtain rfl : plugin = p := Option.some.inj (hidle.1.symm.trans hp)
    exact hidle.2
  exact hremoved.registerPlugin hnew

theorem Tracked.registered_replaceInRegistry (h : Tracked point w) {newPlugin : LocalPluginRunner}
    (hname : newPlugin.uniqueName = plugin.uniqueName) :
    (w.replaceInRegistry plugin newPlugin).Registered newPlugin := by
  unfold World.Registered
  rw [hname]
  exact World.getPlugin_replaceInRegistry h.distinct hname

theorem Tracked.rebuild (h : Tracked point w) (hidle : w.Idle point plugin) :
    Tracked point ((w.addRunner (rebuild plugin)).1.replaceInRegistry plugin
      (rebuild plugin w.next)) := by
  have hadded : Tracked point (w.addRunner (Bartender.rebuild plugin)).1 := h.addRunner _ rfl
  apply hadded.replaceInRegistry
  · have hne := h.address_ne_next (h.mem_runners hidle.1)
    exact ⟨hidle.1, fun hactive => hidle.2 ((addRunner_active_iff _ hne).mp hactive)⟩
  · exact List.mem_append_right _ (List.mem_singleton.mpr rfl)

/-- `start_plugin` loses no subprocess, unless it replaces a plugin that is down by
its status only. -/
theorem Tracked.startPlugin (h : Tracked point w) (hp : w.Registered plugin)
    (hended : (w.status plugin).IsDown → ¬ w.Active point plugin) :
    Tracked point (startPlugin popen plugin w).2 := by
  rcases startPlugin_cases popen plugin w with
    ⟨result, heq⟩ | ⟨-, heq⟩ | ⟨hdown, heq⟩
  · rw [heq]
    exact h
  · rw [heq]
    exact h.launch hp
  · rw [heq]
    have hadded : Tracked point (w.addRunner (Bartender.rebuild plugin)).1 := h.addRunner _ rfl
    exact (h.rebuild ⟨hp, hended hdown⟩).launch (hadded.registered_replaceInRegistry rfl)

theorem Tracked.restartPlugin (h : Tracked point w) (hp : w.Registered plugin) (shutdown : Shutdown)
    (hended : ((stopPlugin shutdown plugin w).status plugin).IsDown →
      ¬ (stopPlugin shutdown plugin w).Active point plugin) :
    Tracked point (restartPlugin popen shutdown plugin w).2 := by
  have hquiet := quiet_stopPlugin shutdown plugin w
  exact (h.quiet hquiet).startPlugin (hp.quiet hquiet) hended

theorem registered_replaceInRegistry_of_ne (hdistinct : w.registry.Distinct)
    {newPlugin other : LocalPluginRunner} (h : w.Registered other)
    (hne : other.uniqueName ≠ plugin.uniqueName) :
    (w.replaceInRegistry plugin newPlugin).Registered other := by
  apply Registry.getPlugin_registerPlugin_of_some
  exact (hdistinct.getPlugin_remove_of_ne hne).trans h

theorem World.Registered.startPlugin_of_ne {other : LocalPluginRunner} (h : w.Registered other)
    (hdistinct : w.registry.Distinct) (hne : other.uniqueName ≠ plugin.uniqueName) :
    (startPlugin popen plugin w).2.Registered other := by
  rcases startPlugin_cases popen plugin w with ⟨result, heq⟩ | ⟨-, heq⟩ | ⟨-, heq⟩
  · rw [heq]
    exact h
  · rw [heq]
    unfold World.Registered
    rw [launch_registry]
    exact h
  · rw [heq]
    unfold World.Registered
    rw [launch_registry]
    exact registered_replaceInRegistry_of_ne (w := (w.addRunner (rebuild plugin)).1) hdistinct h hne

theorem World.Idle.startPlugin_of_ne {other : LocalPluginRunner} (h : w.Idle point other)
    (htracked : Tracked point w) (hp : w.Registered plugin)
    (hne : other.uniqueName ≠ plugin.uniqueName) :
    (startPlugin popen plugin w).2.Idle point other := by
  refine ⟨h.1.startPlugin_of_ne htracked.distinct hne, fun hactive => h.2 ?_⟩
  have hmem := htracked.mem_runners h.1
  have haddress : other.address ≠ plugin.address := by
    intro haddress
    exact hne (htracked.eq_of_address other hmem plugin (htracked.mem_runners hp) haddress ▸ rfl)
  rcases startPlugin_cases popen plugin w with ⟨result, heq⟩ | ⟨-, heq⟩ | ⟨-, heq⟩
  · rwa [heq] at hactive
  · rw [heq] at hactive
    exact (launch_active_iff haddress).mp hactive
  · rw [heq] at hactive
    have hnext := htracked.address_ne_next hmem
    have hreplaced : ((w.addRunner (rebuild plugin)).1.replaceInRegistry plugin
        (rebuild plugin w.next)).Active point other := (launch_active_iff hnext).mp hactive
    exact (addRunner_active_iff (rebuild plugin) hnext).mp hreplaced

end Start

section Monitor

variable {popen : ℕ → Bool} {shutdown : ℕ → Shutdown} {w : World} {plugin : LocalPluginRunner}

theorem monitorPlugin_cases (popen : ℕ → Bool) (shutdown : ℕ → Shutdown)
    (plugin : LocalPluginRunner) (w : World) :
    Quiet w (monitorPlugin popen shutdown plugin w).2 ∨
      (w.runtime plugin.address).process = .exited ∧
        (monitorPlugin popen shutdown plugin w).2 =
          (restartPlugin popen (shutdown plugin.address) plugin (w.setStatus plugin .dead)).2 := by
  unfold monitorPlugin
  dsimp only
  split_ifs with hexited
  · cases w.status plugin with
    | running =>
      dsimp only
      generalize restartPlugin popen (shutdown plugin.address) plugin
        (w.setStatus plugin .dead) = outcome
      rcases outcome with ⟨_ | _, w'⟩ <;> exact .inr ⟨hexited.1, rfl⟩
    | starting => exact .inl (quiet_setStatus plugin .dead w)
    | _ => exact .inl (.refl w)
  · exact .inl (.refl w)

theorem Tracked.monitorPlugin (h : Tracked point w) (hp : w.Registered plugin) :
    Tracked point (monitorPlugin popen shutdown plugin w).2 := by
  rcases monitorPlugin_cases popen shutdown plugin w with hquiet | ⟨hexited, heq⟩
  · exact h.quiet hquiet
  · rw [heq]
    have hmark := quiet_setStatus plugin .dead w
    have hstop := quiet_stopPlugin (shutdown plugin.address) plugin (w.setStatus plugin .dead)
    exact (h.quiet hmark).restartPlugin (hp.quiet hmark) _ fun _ =>
      Runtime.not_active_of_exited ((hmark.trans hstop).exited hexited)

theorem World.Registered.monitorPlugin_of_ne {other : LocalPluginRunner} (h : w.Registered other)
    (hdistinct : w.registry.Distinct) (hne : other.uniqueName ≠ plugin.uniqueName) :
    (monitorPlugin popen shutdown plugin w).2.Registered other := by
  rcases monitorPlugin_cases popen shutdown plugin w with hquiet | ⟨-, heq⟩
  · exact h.quiet hquiet
  · rw [heq]
    have hstop := (quiet_setStatus plugin .dead w).trans
      (quiet_stopPlugin (shutdown plugin.address) plugin _)
    exact (h.quiet hstop).startPlugin_of_ne (hstop.registry ▸ hdistinct) hne

/-- The copy of the registry stays accurate for the plugins not yet looked at. -/
theorem Tracked.monitorPlugins (h : Tracked point w) (plugins : List LocalPluginRunner)
    (hregistered : ∀ p ∈ plugins, w.Registered p)
    (hnames : (plugins.map LocalPluginRunner.uniqueName).Nodup) :
    Tracked point (monitorPlugins popen shutdown plugins w).2 := by
  induction plugins generalizing w with
  | nil => exact h
  | cons plugin rest ih =>
    obtain ⟨hname, hrest⟩ := List.nodup_cons.mp hnames
    have hround : Tracked point (Bartender.monitorPlugin popen shutdown plugin w).2 :=
      h.monitorPlugin (hregistered plugin List.mem_cons_self)
    have hleft : ∀ p ∈ rest, (Bartender.monitorPlugin popen shutdown plugin w).2.Registered p := by
      intro p hp
      have hne : p.uniqueName ≠ plugin.uniqueName := fun heq =>
        hname (heq ▸ List.mem_map_of_mem hp)
      exact (hregistered p (List.mem_cons_of_mem _ hp)).monitorPlugin_of_ne h.distinct hne
    unfold Bartender.monitorPlugins
    generalize Bartender.monitorPlugin popen shutdown plugin w = outcome at hround hleft ⊢
    rcases outcome with ⟨_ | _, w'⟩
    · exact hround
    · exact ih hround hleft hrest

theorem Tracked.monitor (h : Tracked point w) (popen : ℕ → Bool) (shutdown : ℕ → Shutdown)
    (visits : ℕ) : Tracked point (monitor popen shutdown visits w).2 := by
  apply h.monitorPlugins
  · intro p hp
    exact h.registered_of_mem (List.mem_of_mem_take hp)
  · exact h.distinct.sublist (List.take_sublist visits _)

end Monitor

end Bartender
