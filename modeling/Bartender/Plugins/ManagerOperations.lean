import Bartender.Library.Runs
import Bartender.Plugins.Scanning

/-!
# The operations of the manager

The operations on the plugins as a whole, one at a time. A scan whose start loop
does not come to its end can be met between two rounds of the loop.
-/

namespace Bartender

inductive ManagerOperation
  | onInstance (operation : InstanceOperation)
  | startPlugin (uniqueName : String) (popen : ℕ → Bool)
  | stopPlugin (uniqueName : String) (shutdown : Shutdown)
  | restartPlugin (uniqueName : String) (popen : ℕ → Bool) (shutdown : Shutdown)
  | reloadSystem (site : SiteConfig) (systemName systemVersion : String) (source : PluginSource)
  | scanPluginPath (popen : ℕ → Bool) (site : SiteConfig)
      (directories : List (String × PluginSource))

namespace ManagerOperation

/-- The operation ends in this state. Exceptions end it and nothing else. -/
def Ends : ManagerOperation → World → World → Prop
  | .onInstance operation, w, w' => w' = operation.apply w
  | .startPlugin uniqueName popen, w, w' =>
    ∃ p, w.registry.getPlugin uniqueName = some p ∧ w' = (Bartender.startPlugin popen p w).2
  | .stopPlugin uniqueName shutdown, w, w' =>
    ∃ p, w.registry.getPlugin uniqueName = some p ∧ w' = Bartender.stopPlugin shutdown p w
  | .restartPlugin uniqueName popen shutdown, w, w' =>
    ∃ p, w.registry.getPlugin uniqueName = some p ∧
      w' = (Bartender.restartPlugin popen shutdown p w).2
  | .reloadSystem site systemName systemVersion source, w, w' =>
    w' = (Bartender.reloadSystem site systemName systemVersion source w).2
  | .scanPluginPath popen site directories, w, w' =>
    ∃ fuel ending, Bartender.scanPluginPath popen site fuel directories w = some ending ∧
      w' = ending.state.world

/-- The start loop of a scan, which need not end, is met in this state. -/
def Passes : ManagerOperation → World → World → Prop
  | .scanPluginPath popen site directories, w, w' =>
    let (newPlugins, loaded) := loadNewPlugins site (newDirectories directories w) w
    let systems := loaded.storedSystems
    let snap := Snapshot.read systems systems systems
    ∃ queue st, RotatingQueue.Reaches (visitPlugin (worldEffects popen) snap.systemNames)
      newPlugins.reverse (snap.progress loaded) queue st ∧ w' = st.world
  | _, _, _ => False

end ManagerOperation

section Operations

variable {w w' : World}

theorem registered_of_getPlugin {uniqueName : String} {p : LocalPluginRunner}
    (h : w.registry.getPlugin uniqueName = some p) : w.Registered p := by
  obtain ⟨-, rfl⟩ := Registry.mem_of_getPlugin h
  exact h

theorem registered_of_instance {id : ℕ} {p : LocalPluginRunner}
    (h : getPluginFromInstanceId id w = some p) : w.Registered p := by
  unfold getPluginFromInstanceId at h
  simp only [Option.bind_eq_bind, Option.bind_eq_some_iff] at h
  obtain ⟨_, _, _, _, _, _, hfound⟩ := h
  exact registered_of_getPlugin hfound

theorem quiet_updateInstance (id : ℕ) (update : InstanceDocument → InstanceDocument) (w : World) :
    Quiet w (w.updateInstance id update) := .of_runtime rfl rfl le_rfl rfl

theorem quiet_checkStatus (timeout : ℕ) (visited : ℕ → Bool) (w : World) :
    Quiet w (checkStatus timeout visited w) := .of_runtime rfl rfl le_rfl rfl

/-- Everything `reload_system` can do: it raises and has changed nothing, or it
removes the plugins of a system none of which is `RUNNING`, and loads. -/
theorem reloadSystem_cases (site : SiteConfig) (systemName systemVersion : String)
    (source : PluginSource) (w : World) :
    (reloadSystem site systemName systemVersion source w).2 = w ∨
    ∃ path, source ≠ .invalid ∧
      (∀ p ∈ w.registry.getPluginsBySystem systemName systemVersion, w.status p ≠ .running) ∧
      (reloadSystem site systemName systemVersion source w).2 = (loadPlugin site path source
        { w with registry := ((w.registry.getPluginsBySystem systemName systemVersion).map
          LocalPluginRunner.uniqueName).foldl Registry.remove w.registry }).2 := by
  unfold reloadSystem
  dsimp only
  split
  · exact .inl rfl
  · rename_i first rest hplugins
    split
    · exact .inl rfl
    · rename_i hvalid
      split_ifs with hrunning
      · exact .inl rfl
      · refine .inr ⟨first.pathToPlugin, hvalid, ?_, ?_⟩
        · intro p hp hstatus
          exact hrunning (List.any_eq_true.mpr ⟨p, hplugins ▸ hp, by simpa using hstatus⟩)
        · generalize loadPlugin site first.pathToPlugin source _ = outcome
          rcases outcome with ⟨_ | _ | _, w'⟩ <;> rfl

theorem quiet_foldl_stopPlugin (shutdown : ℕ → Shutdown) (plugins : List LocalPluginRunner)
    (w : World) :
    Quiet w (plugins.foldl (fun w p => stopPlugin (shutdown p.address) p w) w) := by
  induction plugins generalizing w with
  | nil => exact .refl w
  | cons p plugins ih => exact (quiet_stopPlugin _ p w).trans (ih _)

theorem not_alive_foldl_stopPlugin (shutdown : ℕ → Shutdown) {plugins : List LocalPluginRunner}
    {p : LocalPluginRunner} (hp : p ∈ plugins) (w : World) :
    ¬ (plugins.foldl (fun w p => stopPlugin (shutdown p.address) p w) w).Alive p := by
  induction plugins generalizing w with
  | nil => exact absurd hp List.not_mem_nil
  | cons q plugins ih =>
    rw [List.foldl_cons]
    rcases List.mem_cons.mp hp with rfl | hp
    · intro halive
      exact not_alive_stopPlugin _ p w ((quiet_foldl_stopPlugin shutdown plugins _).alive p halive)
    · exact ih hp _

end Operations

def localSite : SiteConfig := ⟨"localhost", 2337, false, none, true, none, none, none, none⟩

def singleSource (name : String) : PluginSource :=
  .config ⟨name, "1.0", "main.py", ["default"], [], [], [], logInfo⟩ none

end Bartender
