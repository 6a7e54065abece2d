import Bartender.Plugins.LiveRunners
import Bartender.Plugins.Recovery
import Mathlib.Logic.Relation

/-!
# The life of an instance document

The operations of the manager, of the handler and of the two monitors change an
instance document along the edges of one small machine: what its status says is
never more than what came before it allows. Here the machine is written down, and
the operations are shown to keep to it.
-/

namespace Bartender

/-- The causes that are not among those of every change. -/
inductive LifecycleCause
  /-- A plugin's life begins anew. -/
  | anew
  | check
  | unpause

/-- One change of a document, which may be missing, by one of these causes at this
time. -/
inductive LifecycleEdge (May : LifecycleCause → Prop) (now : ℕ) :
    Option InstanceDocument → Option InstanceDocument → Prop
  /-- `deep_save` of a loaded system. -/
  | created (h : May .anew) : LifecycleEdge May now none (some .fresh)
  | deleted (document : InstanceDocument) : LifecycleEdge May now (some document) none
  /-- `start_plugin`, also on a plugin that it has built again. -/
  | starting (hanew : May .anew) {document : InstanceDocument}
      (h : document.status = .initializing ∨ document.status.IsDown) :
      LifecycleEdge May now (some document) (some { document with status := .starting })
  /-- `monitor`, which first makes it `DEAD`. -/
  | restarted {document : InstanceDocument} (h : document.status = .running) :
      LifecycleEdge May now (some document) (some { document with status := .starting })
  /-- `stop_plugin`. -/
  | stopping {document : InstanceDocument}
      (h : document.status ∉ [Status.dead, .stopped, .stopping, .unknown]) :
      LifecycleEdge May now (some document) (some { document with status := .stopping })
  /-- `stop_plugin` after an unclean shutdown, `monitor` and `_mark_as_failed`. -/
  | dead (document : InstanceDocument) :
      LifecycleEdge May now (some document) (some { document with status := .dead })
  /-- The plugin's stop handler. -/
  | stopped (document : InstanceDocument) :
      LifecycleEdge May now (some document) (some { document with status := .stopped })
  /-- `initializeInstance`. -/
  | initialized (hanew : May .anew) (document : InstanceDocument) :
      LifecycleEdge May now (some document) (some ⟨.initializing, some now⟩)
  | heartbeat (document : InstanceDocument) :
      LifecycleEdge May now (some document) (some { document with heartbeat := some now })
  /-- `check_status`. -/
  | unresponsive (hcheck : May .check) {document : InstanceDocument}
      (h : document.status = .running) :
      LifecycleEdge May now (some document) (some { document with status := .unresponsive })
  | running (hcheck : May .check) {document : InstanceDocument}
      (h : document.status ∈ [Status.unresponsive, .starting, .initializing, .unknown])
      (hheartbeat : document.heartbeat ≠ none) :
      LifecycleEdge May now (some document) (some { document with status := .running })
  | paused {document : InstanceDocument} (h : document.status = .running) :
      LifecycleEdge May now (some document) (some { document with status := .paused })
  | unpaused (hunpause : May .unpause) {document : InstanceDocument}
      (h : document.status = .paused) :
      LifecycleEdge May now (some document) (some { document with status := .running })

def LifecyclePath (May : LifecycleCause → Prop) (now : ℕ) :
    Option InstanceDocument → Option InstanceDocument → Prop :=
  Relation.ReflTransGen (LifecycleEdge May now)

/-- Every document changes along the machine, and no time passes. -/
structure Lives (May : LifecycleCause → Prop) (w w' : World) : Prop where
  clock : w'.now = w.now
  documents : ∀ id, LifecyclePath May w.now (w.instances id) (w'.instances id)

namespace World

variable (w : World)

/-- `pause_plugin`. -/
def pausePlugin (uniqueName : String) : World :=
  match w.registry.getPlugin uniqueName with
  | none => w
  | some plugin => if w.status plugin = .running then w.setStatus plugin .paused else w

/-- `unpause_plugin`. -/
def unpausePlugin (uniqueName : String) : World :=
  match w.registry.getPlugin uniqueName with
  | none => w
  | some plugin => if w.status plugin = .paused then w.setStatus plugin .running else w

end World

/-- `start_all_plugins`; the start loop gets a number of rounds. -/
def startAllPlugins (popen : ℕ → Bool) (fuel : ℕ) (w : World) :
    Option (RotatingQueue.Ending (Progress World) StartError) :=
  let systems := w.storedSystems
  startMultiplePlugins (worldEffects popen) (.read systems systems systems) fuel
    w.registry.getAllPlugins w

inductive LifecycleOperation
  | manage (operation : ManagerOperation)
  | startAllPlugins (popen : ℕ → Bool)
  | stopAllPlugins (shutdown : ℕ → Shutdown)
  | pausePlugin (uniqueName : String)
  | unpausePlugin (uniqueName : String)
  /-- `deep_delete`, at the end of `removeSystem`. -/
  | deepDelete (system : System)

def InstanceOperation.May : InstanceOperation → LifecycleCause → Prop
  | .startInstance _ _, .anew | .initializeInstance _, .anew | .checkStatus _ _, .check => True
  | _, _ => False

def ManagerOperation.May : ManagerOperation → LifecycleCause → Prop
  | .onInstance operation, cause => operation.May cause
  | .stopPlugin _ _, _ => False
  | _, .anew => True
  | _, _ => False

namespace LifecycleOperation

def May : LifecycleOperation → LifecycleCause → Prop
  | .manage operation, cause => operation.May cause
  | .startAllPlugins _, .anew => True
  | .unpausePlugin _, .unpause => True
  | _, _ => False

def Ends : LifecycleOperation → World → World → Prop
  | .manage operation, w, w' => operation.Ends w w'
  | .startAllPlugins popen, w, w' =>
    ∃ fuel ending, Bartender.startAllPlugins popen fuel w = some ending ∧ w' = ending.state.world
  | .stopAllPlugins shutdown, w, w' => w' = Bartender.stopAllPlugins shutdown w
  | .pausePlugin uniqueName, w, w' => w' = w.pausePlugin uniqueName
  | .unpausePlugin uniqueName, w, w' => w' = w.unpausePlugin uniqueName
  | .deepDelete system, w, w' => w' = w.deleteInstances system

/-- The start loops, which need not end, are met in this state. -/
def Passes : LifecycleOperation → World → World → Prop
  | .manage operation, w, w' => operation.Passes w w'
  | .startAllPlugins popen, w, w' =>
    let systems := w.storedSystems
    let snap := Snapshot.read systems systems systems
    ∃ queue st, RotatingQueue.Reaches (visitPlugin (worldEffects popen) snap.systemNames)
      w.registry.getAllPlugins.reverse (snap.progress w) queue st ∧ w' = st.world
  | _, _, _ => False

end LifecycleOperation

section Lives

variable {May : LifecycleCause → Prop} {w w' w'' : World} {plugin : LocalPluginRunner}

theorem Lives.refl (w : World) : Lives May w w := ⟨rfl, fun _ => .refl⟩

theorem Lives.trans (h : Lives May w w') (h' : Lives May w' w'') : Lives May w w'' :=
  ⟨h'.clock.trans h.clock, fun id => (h.documents id).trans (h.clock ▸ h'.documents id)⟩

theorem lives_of_instances (hclock : w'.now = w.now) (h : w'.instances = w.instances) :
    Lives May w w' := by
  refine ⟨hclock, fun id => ?_⟩
  rw [h]
  exact .refl

theorem lives_setInstanceStatus {id : ℕ} {status : Status}
    (h : ∀ document, w.instances id = some document →
      LifecycleEdge May w.now (some document) (some { document with status := status })) :
    Lives May w (w.setInstanceStatus id status) := by
  unfold World.setInstanceStatus
  cases hdocument : w.instances id with
  | none => exact .refl w
  | some document =>
    refine ⟨rfl, fun id' => ?_⟩
    change LifecyclePath May _ _ (Function.update w.instances id _ id')
    by_cases hid : id' = id
    · rw [hid, Function.update_self, hdocument]
      exact .single (h document hdocument)
    · rw [Function.update_of_ne hid]
      exact .refl

theorem lives_setStatus {status : Status}
    (h : ∀ document, w.document plugin = some document →
      LifecycleEdge May w.now (some document) (some { document with status := status })) :
    Lives May w (w.setStatus plugin status) := by
  unfold World.setStatus
  unfold World.document at h
  cases hinstance : plugin.instance? with
  | none => exact .refl w
  | some i =>
    rw [hinstance] at h
    exact lives_setInstanceStatus h

theorem status_of_document {document : InstanceDocument} (h : w.document plugin = some document) :
    w.status plugin = document.status := by
  rw [World.status_eq_document, h]
  rfl

theorem lives_dead (plugin : LocalPluginRunner) (w : World) :
    Lives May w (w.setStatus plugin .dead) :=
  lives_setStatus fun document _ => .dead document

theorem setStatus_now (plugin : LocalPluginRunner) (status : Status) (w : World) :
    (w.setStatus plugin status).now = w.now := by
  unfold World.setStatus World.setInstanceStatus
  split
  · split <;> rfl
  · rfl

theorem launch_instances (popen : ℕ → Bool) (plugin : LocalPluginRunner) (w : World) :
    (launch popen plugin w).2.now = w.now ∧
      (launch popen plugin w).2.instances = (w.setStatus plugin .starting).instances := by
  unfold launch
  dsimp only
  split_ifs <;> exact ⟨setStatus_now plugin .starting w, rfl⟩

theorem instances_setStatus {v : World} {p : LocalPluginRunner} (status : Status)
    (h : v.instances = w.instances) (hp : p.instance? = plugin.instance?) :
    (v.setStatus p status).instances = (w.setStatus plugin status).instances := by
  unfold World.setStatus
  rw [hp]
  cases plugin.instance? with
  | none => exact h
  | some i =>
    dsimp only [World.setInstanceStatus]
    rw [h]
    split
    · rfl
    · exact h

theorem startPlugin_instances (popen : ℕ → Bool) (plugin : LocalPluginRunner) (w : World) :
    (startPlugin popen plugin w).2.now = w.now ∧
    ((startPlugin popen plugin w).2.instances = w.instances ∨
    (w.status plugin = .initializing ∨ (w.status plugin).IsDown) ∧
      (startPlugin popen plugin w).2.instances = (w.setStatus plugin .starting).instances) := by
  rcases startPlugin_cases popen plugin w with ⟨result, heq⟩ | ⟨hstatus, heq⟩ | ⟨hdown, heq⟩
  · rw [heq]
    exact ⟨rfl, .inl rfl⟩
  · rw [heq]
    obtain ⟨hclock, hinstances⟩ := launch_instances popen plugin w
    exact ⟨hclock, .inr ⟨.inl hstatus, hinstances⟩⟩
  · rw [heq]
    obtain ⟨hclock, hinstances⟩ := launch_instances popen (rebuild plugin w.next)
      ((w.addRunner (rebuild plugin)).1.replaceInRegistry plugin (rebuild plugin w.next))
    refine ⟨hclock, .inr ⟨.inr hdown, ?_⟩⟩
    -- The new runner has the document of the old one.
    rw [hinstances]
    exact instances_setStatus .starting rfl rfl

theorem lives_startPlugin (hanew : May .anew) (popen : ℕ → Bool) (plugin : LocalPluginRunner)
    (w : World) : Lives May w (startPlugin popen plugin w).2 := by
  obtain ⟨hclock, heq | ⟨hstatus, heq⟩⟩ := startPlugin_instances popen plugin w
  · exact lives_of_instances hclock heq
  · have hstarting : Lives May w (w.setStatus plugin .starting) :=
      lives_setStatus fun document hdocument => .starting hanew (by
        rw [← status_of_document hdocument]
        exact hstatus)
    exact hstarting.trans (lives_of_instances (hclock.trans hstarting.clock.symm) heq)

theorem lives_stopPlugin (shutdown : Shutdown) (plugin : LocalPluginRunner) (w : World) :
    Lives May w (stopPlugin shutdown plugin w) := by
  unfold stopPlugin stopFinally
  split
  · exact lives_of_instances rfl rfl
  · exact lives_of_instances rfl rfl
  · exact lives_of_instances rfl rfl
  · rename_i hdead hstopped hstopping
    dsimp only
    have hmark : Lives May w (if w.status plugin = .unknown then w else
        w.setStatus plugin .stopping) := by
      split_ifs with hunknown
      · exact .refl w
      · refine lives_setStatus fun document hdocument => .stopping ?_
        rw [status_of_document hdocument] at hdead hstopped hstopping hunknown
        simp only [List.mem_cons, not_or]
        exact ⟨hdead, hstopped, hstopping, hunknown, List.not_mem_nil⟩
    generalize (if w.status plugin = .unknown then w else w.setStatus plugin .stopping) = marked
      at hmark ⊢
    have hstop : Lives May marked
        (if shutdown.stopReturns then marked.stop plugin else marked) := by
      split_ifs
      · exact lives_of_instances rfl rfl
      · exact .refl marked
    generalize (if shutdown.stopReturns then marked.stop plugin else marked) = stopped
      at hstop ⊢
    have hreport : Lives May stopped
        (if shutdown.reportsStopped then stopped.setStatus plugin .stopped else stopped) := by
      split_ifs
      · exact lives_setStatus fun document _ => .stopped document
      · exact .refl stopped
    generalize (if shutdown.reportsStopped then stopped.setStatus plugin .stopped else stopped) =
      reported at hreport ⊢
    have hended : Lives May w (reported.endProcess plugin) :=
      ((hmark.trans hstop).trans hreport).trans (lives_of_instances rfl rfl)
    split_ifs
    · exact hended
    · exact hended.trans (lives_dead plugin _)

theorem lives_restartPlugin (hanew : May .anew) (popen : ℕ → Bool) (shutdown : Shutdown)
    (plugin : LocalPluginRunner) (w : World) :
    Lives May w (restartPlugin popen shutdown plugin w).2 :=
  (lives_stopPlugin shutdown plugin w).trans (lives_startPlugin hanew popen plugin _)

theorem lives_foldl_stopPlugin (shutdown : ℕ → Shutdown) (plugins : List LocalPluginRunner)
    (w : World) :
    Lives May w (plugins.foldl (fun w p => stopPlugin (shutdown p.address) p w) w) := by
  induction plugins generalizing w with
  | nil => exact .refl w
  | cons p plugins ih => exact (lives_stopPlugin (shutdown p.address) p w).trans (ih _)

theorem lives_markAsFailed (plugin : LocalPluginRunner) (w : World) :
    Lives May w (markAsFailed plugin w).2 := by
  unfold markAsFailed
  cases w.findUnique plugin.system.name plugin.system.version with
  | none => exact .refl w
  | some system =>
    dsimp only
    generalize system.instances.filter (fun i => i.name == plugin.instanceName) = instances
    induction instances generalizing w with
    | nil => exact .refl w
    | cons i instances ih =>
      exact (lives_setInstanceStatus fun document _ => .dead document).trans (ih _)

theorem setStatus_setStatus (first second : Status) (plugin : LocalPluginRunner) (w : World) :
    ((w.setStatus plugin first).setStatus plugin second).instances =
      (w.setStatus plugin second).instances := by
  have hsome : ∀ (w : World) {id : ℕ} {document : InstanceDocument} (status : Status),
      w.instances id = some document → w.setInstanceStatus id status =
        { w with instances :=
            Function.update w.instances id (some { document with status := status }) } := by
    intro w id document status hdocument
    unfold World.setInstanceStatus
    rw [hdocument]
  unfold World.setStatus
  cases plugin.instance? with
  | none => rfl
  | some i =>
    cases hdocument : w.instances i.id with
    | none => simp only [World.setInstanceStatus, hdocument]
    | some document =>
      dsimp only
      rw [hsome w first hdocument, hsome w second hdocument,
        hsome _ second (Function.update_self ..)]
      exact Function.update_idem _ _ _

theorem relaunch_now (spawns : Bool) : (w.relaunch plugin spawns).now = w.now :=
  setStatus_now _ .starting _

theorem lives_monitorPlugin (popen : ℕ → Bool) (shutdown : ℕ → Shutdown)
    (plugin : LocalPluginRunner) (w : World) :
    Lives May w (monitorPlugin popen shutdown plugin w).2 := by
  by_cases hcrashed : w.Crashed plugin
  · rw [monitorPlugin_of_crashed hcrashed]
    split
    · rename_i hrunning
      have hstarting : Lives May w (w.setStatus plugin .starting) :=
        lives_setStatus fun document hdocument =>
          .restarted (by rw [← status_of_document hdocument, hrunning])
      refine hstarting.trans (lives_of_instances ?_ ?_)
      · exact (relaunch_now _).trans ((setStatus_now plugin .dead w).trans hstarting.clock.symm)
      · calc ((w.setStatus plugin .dead).relaunch plugin (popen w.next)).instances
            = ((w.setStatus plugin .dead).setStatus plugin .starting).instances :=
              instances_setStatus .starting rfl rfl
          _ = (w.setStatus plugin .starting).instances := setStatus_setStatus _ _ plugin w
    · exact lives_dead plugin w
    · exact .refl w
  · rw [monitorPlugin_of_not_crashed hcrashed]
    exact .refl w

theorem lives_monitorPlugins (popen : ℕ → Bool) (shutdown : ℕ → Shutdown)
    (plugins : List LocalPluginRunner) (w : World) :
    Lives May w (monitorPlugins popen shutdown plugins w).2 := by
  induction plugins generalizing w with
  | nil => exact .refl w
  | cons plugin plugins ih =>
    have hplugin : Lives May w _ := lives_monitorPlugin popen shutdown plugin w
    unfold monitorPlugins
    revert hplugin
    generalize monitorPlugin popen shutdown plugin w = outcome
    rcases outcome with ⟨_ | _, w'⟩
    · exact id
    · exact fun hplugin => hplugin.trans (ih w')

theorem lives_checkStatus (hcheck : May .check) (timeout : ℕ) (visited : ℕ → Bool) (w : World) :
    Lives May w (checkStatus timeout visited w) := by
  refine ⟨rfl, fun id => ?_⟩
  change LifecyclePath May _ (w.instances id)
    (if visited id then (w.instances id).map (checkInstance timeout w.now) else w.instances id)
  split_ifs
  · cases w.instances id with
    | none => exact .refl
    | some document =>
      rw [Option.map_some]
      obtain ⟨status, _ | lastHeartbeat⟩ := document
      · exact .refl
      · unfold checkInstance
        dsimp only
        split_ifs with hlate hfresh
        · exact .single
            (@LifecycleEdge.unresponsive _ _ hcheck ⟨status, some lastHeartbeat⟩ hlate.1)
        · exact .single
            (@LifecycleEdge.running _ _ hcheck ⟨status, some lastHeartbeat⟩ hfresh.1 nofun)
        · exact .refl
  · exact .refl

theorem lives_updateInstance {id : ℕ} {update : InstanceDocument → InstanceDocument}
    (h : ∀ document, LifecycleEdge May w.now (some document) (some (update document))) :
    Lives May w (w.updateInstance id update) := by
  refine ⟨rfl, fun id' => ?_⟩
  change LifecyclePath May _ _ (Function.update w.instances id ((w.instances id).map update) id')
  by_cases hid : id' = id
  · rw [hid, Function.update_self]
    cases w.instances id with
    | none => exact .refl
    | some document => exact .single (h document)
  · rw [Function.update_of_ne hid]
    exact .refl

theorem lives_onInstance {operation : InstanceOperation} (hwait : ∀ time, operation ≠ .wait time)
    (w : World) : Lives operation.May w (operation.apply w) := by
  cases operation with
  | startInstance id spawns =>
    dsimp only [InstanceOperation.apply]
    cases getPluginFromInstanceId id w with
    | none => exact .refl w
    | some plugin => exact lives_startPlugin trivial _ plugin w
  | stopInstance id shutdown =>
    dsimp only [InstanceOperation.apply]
    cases getPluginFromInstanceId id w with
    | none => exact .refl w
    | some plugin => exact lives_stopPlugin shutdown plugin w
  | initializeInstance id =>
    exact lives_updateInstance fun document => .initialized trivial document
  | monitor visits popen shutdown => exact lives_monitorPlugins popen shutdown _ w
  | checkStatus timeout visited => exact lives_checkStatus trivial timeout visited w
  | exit plugin => exact lives_of_instances rfl rfl
  | heartbeat id => exact lives_updateInstance fun document => .heartbeat document
  | reportStopped id => exact lives_updateInstance fun document => .stopped document
  | wait time => exact absurd rfl (hwait time)

theorem lives_deleteInstances (system : System) (w : World) :
    Lives May w (w.deleteInstances system) := by
  refine ⟨rfl, fun id => ?_⟩
  change LifecyclePath May _ _ (if id ∈ system.instances.map (·.id) then none else w.instances id)
  split_ifs
  · cases w.instances id with
    | none => exact .refl
    | some document => exact .single (.deleted document)
  · exact .refl

theorem lives_deepSave (hanew : May .anew) (system : System) (w : World) :
    Lives May w (w.deepSave system) := by
  refine ⟨rfl, fun id => ?_⟩
  change LifecyclePath May _ _
    (if id ∈ system.instances.map (·.id) then some .fresh else w.instances id)
  split_ifs
  · cases w.instances id with
    | none => exact .single (.created hanew)
    | some document => exact .head (.deleted document) (.single (.created hanew))
  · exact .refl

theorem registerInstances_now (site : SiteConfig) (path : String) (config : PluginConfig)
    (system : System) (instances : List String) (w : World) :
    (registerInstances site path config system instances w).2.now = w.now := by
  induction instances generalizing w with
  | nil => rfl
  | cons instanceName rest ih =>
    rw [registerInstances_cons]
    exact ih _

theorem lives_loadPlugin (hanew : May .anew) (site : SiteConfig) (path : String)
    (source : PluginSource) (w : World) : Lives May w (loadPlugin site path source w).2 := by
  rcases loadPlugin_stages site path source w with
    ⟨-, -, -, heq⟩ | ⟨config, -, hstages⟩
  · rw [heq]
    exact .refl w
  · have hcleared : Lives May w (w.cleared config) := by
      unfold World.cleared
      cases w.findUnique config.name config.version with
      | none => exact .refl w
      | some system => exact lives_deleteInstances system w
    rcases hstages with ⟨-, -, heq⟩ | ⟨instances, -, heq, -⟩
    · rw [heq]
      exact hcleared
    · rw [heq]
      exact (hcleared.trans (lives_deepSave hanew _ _)).trans
        (lives_of_instances (registerInstances_now _ _ _ _ instances (w.saved config))
          (registerInstances_documents _ _ _ _ instances (w.saved config)).2)

theorem lives_loadNewPlugins (hanew : May .anew) (site : SiteConfig)
    (directories : List (String × PluginSource)) (w : World) :
    Lives May w (loadNewPlugins site directories w).2 := by
  induction directories generalizing w with
  | nil => exact .refl w
  | cons directory rest ih =>
    obtain ⟨path, source⟩ := directory
    have hload := lives_loadPlugin hanew site path source w
    unfold loadNewPlugins
    revert hload
    generalize loadPlugin site path source w = outcome
    rcases outcome with ⟨_ | _ | plugins, w'⟩ <;> exact fun hload => hload.trans (ih w')

theorem lives_reloadSystem (hanew : May .anew) (site : SiteConfig)
    (systemName systemVersion : String) (source : PluginSource) (w : World) :
    Lives May w (reloadSystem site systemName systemVersion source w).2 := by
  rcases reloadSystem_cases site systemName systemVersion source w with heq | ⟨path, -, -, heq⟩
  · rw [heq]
    exact .refl w
  · rw [heq]
    -- Removing the plugins from the registry leaves the documents alone.
    refine Lives.trans ?_ (lives_loadPlugin hanew site path source _)
    exact lives_of_instances rfl rfl

theorem lives_visitPlugin (hanew : May .anew) {popen : ℕ → Bool} {systemNames : List String}
    {st st' : Progress World}
    (h : visitPlugin (worldEffects popen) systemNames st plugin = .settle st' ∨
      ∃ e, visitPlugin (worldEffects popen) systemNames st plugin = .abort e st') :
    Lives May st.world st'.world := by
  have hstart : (attemptToStart (worldEffects popen) st plugin = .settle st' ∨
      ∃ e, attemptToStart (worldEffects popen) st plugin = .abort e st') →
      Lives May st.world st'.world := by
    have hlives := lives_startPlugin hanew popen plugin st.world
    revert hlives
    unfold attemptToStart worldEffects
    dsimp only
    generalize startPlugin popen plugin st.world = outcome
    rcases outcome with ⟨_ | _ | _, w'⟩ <;> rintro hlives (h | ⟨e, h⟩) <;> cases h <;> exact hlives
  have hfail : (failPlugin (worldEffects popen) st plugin = .settle st' ∨
      ∃ e, failPlugin (worldEffects popen) st plugin = .abort e st') →
      Lives May st.world st'.world := by
    have hlives : Lives May st.world _ := lives_markAsFailed plugin st.world
    revert hlives
    unfold failPlugin worldEffects
    dsimp only
    generalize markAsFailed plugin st.world = outcome
    rcases outcome with ⟨_ | _, w'⟩ <;> rintro hlives (h | ⟨e, h⟩) <;> cases h <;> exact hlives
  unfold visitPlugin at h
  split at h
  · exact hstart h
  · exact hfail h
  · exact hfail h
  · rcases h with h | ⟨e, h⟩ <;> cases h

theorem lives_reaches (hanew : May .anew) {popen : ℕ → Bool} {systemNames : List String}
    {queue queue' : List LocalPluginRunner} {st st' : Progress World}
    (h : Lives May w st.world)
    (hreach : RotatingQueue.Reaches (visitPlugin (worldEffects popen) systemNames)
      queue st queue' st') : Lives May w st'.world := by
  refine hreach.invariant (I := fun _ st => Lives May w st.world) h ?_ ?_
  · intro p rest st st' hlives hvisit
    exact hlives.trans (lives_visitPlugin hanew (.inl hvisit))
  · intro p rest st hlives _
    exact hlives

theorem lives_startMultiplePlugins (hanew : May .anew) {popen : ℕ → Bool} {snap : Snapshot}
    {fuel : ℕ} {plugins : List LocalPluginRunner}
    {ending : RotatingQueue.Ending (Progress World) StartError}
    (hends : startMultiplePlugins (worldEffects popen) snap fuel plugins w = some ending) :
    Lives May w ending.state.world := by
  unfold startMultiplePlugins at hends
  rw [whileLoop_eq_run] at hends
  obtain ⟨-, h⟩ : ∃ queue : List LocalPluginRunner, Lives May w ending.state.world := by
    refine RotatingQueue.invariant_of_run (I := fun _ st => Lives May w st.world) hends
      (.refl w) ?_ ?_
    · intro p rest st st' hlives hvisit
      exact hlives.trans (lives_visitPlugin hanew hvisit)
    · intro p rest st hlives _
      exact hlives
  exact h

theorem lives_manage {operation : ManagerOperation} (h : operation.Ends w w')
    (hwait : ∀ time, operation ≠ .onInstance (.wait time)) : Lives operation.May w w' := by
  cases operation with
  | onInstance operation =>
    obtain rfl := h
    exact lives_onInstance (fun time heq => hwait time (heq ▸ rfl)) w
  | startPlugin uniqueName popen =>
    obtain ⟨p, -, rfl⟩ := h
    exact lives_startPlugin trivial popen p w
  | stopPlugin uniqueName shutdown =>
    obtain ⟨p, -, rfl⟩ := h
    exact lives_stopPlugin shutdown p w
  | restartPlugin uniqueName popen shutdown =>
    obtain ⟨p, -, rfl⟩ := h
    exact lives_restartPlugin trivial popen shutdown p w
  | reloadSystem site systemName systemVersion source =>
    obtain rfl := h
    exact lives_reloadSystem trivial site systemName systemVersion source w
  | scanPluginPath popen site directories =>
    obtain ⟨fuel, ending, hends, rfl⟩ := h
    exact (lives_loadNewPlugins trivial site _ w).trans (lives_startMultiplePlugins trivial hends)

/-- Everything but `wait` is a number of changes at one time. -/
theorem lives_ends {operation : LifecycleOperation} (h : operation.Ends w w')
    (hwait : ∀ time, operation ≠ .manage (.onInstance (.wait time))) :
    Lives operation.May w w' := by
  cases operation with
  | manage operation => exact lives_manage h fun time heq => hwait time (heq ▸ rfl)
  | startAllPlugins popen =>
    obtain ⟨fuel, ending, hends, rfl⟩ := h
    exact lives_startMultiplePlugins trivial hends
  | stopAllPlugins shutdown =>
    obtain rfl := h
    exact lives_foldl_stopPlugin shutdown w.registry.getAllPlugins w
  | pausePlugin uniqueName =>
    obtain rfl := h
    unfold World.pausePlugin
    cases w.registry.getPlugin uniqueName with
    | none => exact .refl w
    | some plugin =>
      dsimp only
      split_ifs with hrunning
      · exact lives_setStatus fun document hdocument =>
          .paused (by rw [← status_of_document hdocument, hrunning])
      · exact .refl w
  | unpausePlugin uniqueName =>
    obtain rfl := h
    unfold World.unpausePlugin
    cases w.registry.getPlugin uniqueName with
    | none => exact .refl w
    | some plugin =>
      dsimp only
      split_ifs with hpaused
      · exact lives_setStatus fun document hdocument =>
          .unpaused trivial (by rw [← status_of_document hdocument, hpaused])
      · exact .refl w
  | deepDelete system =>
    obtain rfl := h
    exact lives_deleteInstances system w

theorem lives_passes {operation : LifecycleOperation} (h : operation.Passes w w') :
    Lives operation.May w w' := by
  cases operation with
  | manage operation =>
    cases operation with
    | scanPluginPath popen site directories =>
      obtain ⟨queue, st, hreach, rfl⟩ := h
      exact lives_reaches trivial (lives_loadNewPlugins trivial site _ w) hreach
    | _ => exact h.elim
  | startAllPlugins popen =>
    obtain ⟨queue, st, hreach, rfl⟩ := h
    exact lives_reaches trivial (.refl w) hreach
  | _ => exact h.elim

def SeenFrom (Allowed : LifecycleOperation → Prop) (w₀ w : World) : Prop :=
  Runs.Seen LifecycleOperation.Ends LifecycleOperation.Passes (fun operation _ => Allowed operation)
    w₀ w

theorem LifecycleEdge.mono {May' : LifecycleCause → Prop} {now : ℕ}
    {before after : Option InstanceDocument} (hedge : LifecycleEdge May now before after)
    (hmay : ∀ cause, May cause → May' cause) : LifecycleEdge May' now before after := by
  cases hedge with
  | created h => exact .created (hmay _ h)
  | deleted document => exact .deleted document
  | starting h hstatus => exact .starting (hmay _ h) hstatus
  | restarted h => exact .restarted h
  | stopping h => exact .stopping h
  | dead document => exact .dead document
  | stopped document => exact .stopped document
  | initialized h document => exact .initialized (hmay _ h) document
  | heartbeat document => exact .heartbeat document
  | unresponsive hcheck h => exact .unresponsive (hmay _ hcheck) h
  | running hcheck h hheartbeat => exact .running (hmay _ hcheck) h hheartbeat
  | paused h => exact .paused h
  | unpaused hunpause h => exact .unpaused (hmay _ hunpause) h

theorem Lives.invariant {I : Option InstanceDocument → Prop} (h : Lives May w w')
    (hedge : ∀ before after, LifecycleEdge May w.now before after → I before → I after) {id : ℕ}
    (h₀ : I (w.instances id)) : I (w'.instances id) := by
  have hdocuments := h.documents id
  generalize w'.instances id = after at hdocuments ⊢
  induction hdocuments with
  | refl => exact h₀
  | tail _ hlast ih => exact hedge _ _ hlast ih

theorem SeenFrom.invariant {Allowed : LifecycleOperation → Prop} {w₀ : World}
    {I : Option InstanceDocument → Prop} {id : ℕ} (h : SeenFrom Allowed w₀ w)
    (May : LifecycleCause → Prop)
    (hmay : ∀ operation, Allowed operation → ∀ cause, operation.May cause → May cause)
    (hedge : ∀ now before after, LifecycleEdge May now before after → I before → I after)
    (h₀ : I (w₀.instances id)) : I (w.instances id) := by
  have hlives : ∀ {w w' : World} {operation : LifecycleOperation}, Allowed operation →
      Lives operation.May w w' → I (w.instances id) → I (w'.instances id) :=
    fun hallowed hlives => hlives.invariant fun before after hlast =>
      hedge _ before after (hlast.mono (hmay _ hallowed))
  refine Runs.Seen.invariant (I := fun w : World => I (w.instances id)) h h₀ ?_ ?_
  · intro operation w w' hI hallowed hends
    by_cases hwait : ∃ time, operation = .manage (.onInstance (.wait time))
    · obtain ⟨time, rfl⟩ := hwait
      obtain rfl := hends
      exact hI
    · exact hlives hallowed (lives_ends hends fun time heq => hwait ⟨time, heq⟩) hI
  · intro operation w w' hI hallowed hpasses
    exact hlives hallowed (lives_passes hpasses) hI

/-- A status that only a plugin which is known to run, or was, can have. -/
def Status.IsUp (status : Status) : Prop :=
  status = .running ∨ status = .unresponsive ∨ status = .paused

instance (status : Status) : Decidable status.IsUp := inferInstanceAs (Decidable (_ ∨ _ ∨ _))

/-- A document that shows the plugin up has a heartbeat, and none has the status
that is reported for a missing document. -/
def InstanceDocument.Recorded (document : InstanceDocument) : Prop :=
  document.status ≠ .unknown ∧ (document.status.IsUp → document.heartbeat ≠ none)

theorem recorded_of_not_up (status : Status) (heartbeat : Option ℕ)
    (h : status ≠ .unknown ∧ ¬ status.IsUp) : InstanceDocument.Recorded ⟨status, heartbeat⟩ :=
  ⟨h.1, fun hup => absurd hup h.2⟩

theorem recorded_edge {now : ℕ} {before after : Option InstanceDocument}
    (h : LifecycleEdge May now before after)
    (hbefore : ∀ document, before = some document → document.Recorded) :
    ∀ document, after = some document → document.Recorded := by
  rintro document rfl
  cases h with
  | created => exact recorded_of_not_up _ _ (by decide)
  | starting _ h => exact recorded_of_not_up _ _ (by decide)
  | restarted h => exact recorded_of_not_up _ _ (by decide)
  | stopping h => exact recorded_of_not_up _ _ (by decide)
  | dead document => exact recorded_of_not_up _ _ (by decide)
  | stopped document => exact recorded_of_not_up _ _ (by decide)
  | initialized _ document => exact recorded_of_not_up _ _ (by decide)
  | heartbeat document => exact ⟨(hbefore document rfl).1, fun _ => Option.some_ne_none now⟩
  | @unresponsive _ document h =>
    exact ⟨Status.noConfusion, fun _ => (hbefore document rfl).2 (.inl h)⟩
  | running _ h hheartbeat => exact ⟨Status.noConfusion, fun _ => hheartbeat⟩
  | @paused document h => exact ⟨Status.noConfusion, fun _ => (hbefore document rfl).2 (.inl h)⟩
  | @unpaused _ document h =>
    exact ⟨Status.noConfusion, fun _ => (hbefore document rfl).2 (.inr (.inr h))⟩

/-- Whatever is done, and in the middle of a start loop: an instance is shown as
running, unresponsive or paused only if a heartbeat of it was recorded, and the
status `UNKNOWN` is never stored. -/
theorem seen_recorded {w₀ : World} (hseen : SeenFrom (fun _ => True) w₀ w)
    (h₀ : ∀ id document, w₀.instances id = some document → document.Recorded) :
    ∀ id document, w.instances id = some document → document.Recorded := by
  intro id
  exact hseen.invariant (I := fun stored => ∀ document, stored = some document → document.Recorded)
    (fun _ => True) (fun _ _ _ _ => trivial) (fun _ _ _ hedge h => recorded_edge hedge h) (h₀ id)

def heartbeatChecked (w : World) : World :=
  (InstanceOperation.checkStatus 30 fun _ => true).apply ((InstanceOperation.heartbeat 0).apply w)

theorem seen_heartbeatChecked {Allowed : LifecycleOperation → Prop}
    (h : ∀ operation, ¬ LifecycleOperation.May operation .anew → Allowed operation) (w : World) :
    SeenFrom Allowed w (heartbeatChecked w) :=
  .between (.next (.manage (.onInstance (.checkStatus 30 fun _ => true)))
    (.next (.manage (.onInstance (.heartbeat 0))) .start (h _ id) rfl) (h _ id) rfl)

theorem seen_recorded_checked :
    let w := heartbeatChecked (.single (singlePlugin "foo" []) .initializing .fresh)
    w.instances 0 = some ⟨.running, some 0⟩ ∧
      ∀ id document, w.instances id = some document → document.Recorded := by
  intro w
  refine ⟨rfl, seen_recorded (seen_heartbeatChecked (fun _ _ => trivial) _) ?_⟩
  intro id document hdocument
  dsimp only [World.single] at hdocument
  split_ifs at hdocument
  cases hdocument
  exact recorded_of_not_up _ _ (by decide)

def InstanceDocument.IsOver (document : InstanceDocument) : Prop :=
  document.status = .stopping ∨ document.status.IsDown

theorem isOver_edge {now : ℕ} {before after : Option InstanceDocument}
    (h : LifecycleEdge (· ≠ .anew) now before after)
    (hbefore : ∀ document, before = some document → document.IsOver) :
    ∀ document, after = some document → document.IsOver := by
  have hnever : ∀ document, before = some document →
      document.status ∉ [Status.running, .paused, .unresponsive, .starting, .initializing,
        .unknown] := by
    intro document hdocument hmem
    revert hmem
    rcases hbefore document hdocument with h | h | h <;> rw [h] <;> decide
  rintro document rfl
  cases h with
  | starting h => exact (h rfl).elim
  | created h => exact (h rfl).elim
  | initialized h => exact (h rfl).elim
  | stopping h => exact .inl rfl
  | dead document => exact .inr (.inr rfl)
  | stopped document => exact .inr (.inl rfl)
  | heartbeat document => exact hbefore document rfl
  | unresponsive _ h => exact absurd (by simp [h]) (hnever _ rfl)
  | running _ h =>
    exact absurd (List.mem_cons_of_mem _ (List.mem_cons_of_mem _ h)) (hnever _ rfl)
  | paused h => exact absurd (by simp [h]) (hnever _ rfl)
  | restarted h => exact absurd (by simp [h]) (hnever _ rfl)
  | unpaused _ h => exact absurd (by simp [h]) (hnever _ rfl)

/-- Whatever heartbeats arrive and whoever checks, restarts crashed plugins, stops,
pauses or removes: a plugin that was stopped or found dead is not shown as
anything else before somebody starts, loads or initializes. -/
theorem seen_over {w₀ : World} (hseen : SeenFrom (fun operation => ¬ operation.May .anew) w₀ w)
    {id : ℕ} {before after : InstanceDocument} (hbefore : w₀.instances id = some before)
    (hover : before.IsOver) (hafter : w.instances id = some after) : after.IsOver := by
  have hkept : ∀ document, w.instances id = some document → document.IsOver := by
    refine hseen.invariant (I := fun stored => ∀ document, stored = some document → document.IsOver)
      (· ≠ .anew) (fun _ hnot _ hmay hanew => hnot (hanew ▸ hmay))
      (fun _ _ _ hedge h => isOver_edge hedge h) ?_
    rw [hbefore]
    rintro document ⟨⟩
    exact hover
  exact hkept after hafter

theorem seen_over_checked :
    let w := heartbeatChecked (.single (singlePlugin "foo" []) .stopped .fresh)
    w.instances 0 = some ⟨.stopped, some 0⟩ ∧ InstanceDocument.IsOver ⟨.stopped, some 0⟩ := by
  intro w
  exact ⟨rfl, seen_over (seen_heartbeatChecked (fun _ h => h) _)
    (show (World.single _ _ _).instances 0 = some ⟨.stopped, none⟩ from rfl) (.inr (.inl rfl))
    (show w.instances 0 = _ from rfl)⟩

end Lives

end Bartender
