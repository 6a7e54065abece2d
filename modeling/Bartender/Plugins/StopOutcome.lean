import Bartender.Plugins.Manager

/-!
# How a stopped plugin is left

The status that `stop_plugin` leaves behind is written by `stop_plugin` before
the shutdown, by the plugin during it and by `stop_plugin` again after an
unclean end. Nobody writes it when the shutdown is clean and the plugin says
nothing.
-/

namespace Bartender

open World (Stored)

/-- Somebody writes a final status: it is there already, one of the calls
raises, the thread outlives the join, or the plugin reports. -/
def Accounted (shutdown : Shutdown) (status : Status) : Prop :=
  status.IsDown ∨ shutdown.stopReturns = false ∨ shutdown.publishReturns = false ∨
    shutdown.joinReturns = false ∨ shutdown.threadAlive = true ∨ shutdown.reportsStopped = true

theorem Shutdown.clean_eq_false_iff (shutdown : Shutdown) :
    shutdown.clean = false ↔ shutdown.stopReturns = false ∨ shutdown.publishReturns = false ∨
      shutdown.joinReturns = false ∨ shutdown.threadAlive = true := by
  obtain ⟨stopReturns, publishReturns, joinReturns, reportsStopped, threadAlive⟩ := shutdown
  revert stopReturns publishReturns joinReturns reportsStopped threadAlive
  decide

variable {w : World} {plugin : LocalPluginRunner}

theorem World.Stored.stopFinally {status : Status} (h : Stored w plugin status) :
    Stored (stopFinally plugin w) plugin status := h

/-- The status left behind, from the stored one and the way the shutdown goes. -/
def statusAfterStop (shutdown : Shutdown) (status : Status) : Status :=
  if status = .dead ∨ status = .stopped ∨ status = .stopping then status
  else if shutdown.clean = false then .dead
  else if shutdown.reportsStopped then .stopped
  else if status = .unknown then .unknown
  else .stopping

/-- The three writers, in order, on a plugin that was up. -/
theorem World.Stored.shutdown {status : Status} (h : Stored w plugin status) (shutdown : Shutdown)
    (hup : status ≠ .dead ∧ status ≠ .stopped ∧ status ≠ .stopping) :
    Stored (Bartender.stopPlugin shutdown plugin w) plugin (statusAfterStop shutdown status) := by
  have hnot : ¬(status = .dead ∨ status = .stopped ∨ status = .stopping) := by tauto
  have hmarked : Stored (if status = .unknown then w else w.setStatus plugin .stopping) plugin
      (if status = .unknown then .unknown else .stopping) := by
    split_ifs with hunknown
    · exact hunknown ▸ h
    · exact h.setStatus .stopping
  have hstop : Bartender.stopPlugin shutdown plugin w =
      (let w := if status = .unknown then w else w.setStatus plugin .stopping
       let w := if shutdown.stopReturns then w.stop plugin else w
       let w := if shutdown.reportsStopped then w.setStatus plugin .stopped else w
       let w := Bartender.stopFinally plugin w
       if shutdown.clean then w else w.setStatus plugin .dead) := by
    unfold Bartender.stopPlugin
    rw [h.status_eq]
    cases status <;> simp_all
  rw [hstop, statusAfterStop, if_neg hnot]
  generalize (if status = .unknown then w else w.setStatus plugin .stopping) = w₁ at hmarked ⊢
  have hflag : Stored (if shutdown.stopReturns then w₁.stop plugin else w₁) plugin
      (if status = .unknown then .unknown else .stopping) := by
    cases shutdown.stopReturns
    · exact hmarked
    · exact hmarked.stop
  dsimp only
  generalize (if shutdown.stopReturns then w₁.stop plugin else w₁) = w₂ at hflag ⊢
  cases shutdown.reportsStopped <;> cases shutdown.clean
  · exact hflag.stopFinally.setStatus .dead
  · exact hflag.stopFinally
  · exact (hflag.setStatus .stopped).stopFinally.setStatus .dead
  · exact (hflag.setStatus .stopped).stopFinally

theorem World.Stored.stopPlugin {status : Status} (h : Stored w plugin status)
    (shutdown : Shutdown) :
    Stored (stopPlugin shutdown plugin w) plugin (statusAfterStop shutdown status) := by
  by_cases hup : status ≠ .dead ∧ status ≠ .stopped ∧ status ≠ .stopping
  · exact h.shutdown shutdown hup
  · have hdown : status = .dead ∨ status = .stopped ∨ status = .stopping := by tauto
    rw [statusAfterStop, if_pos hdown]
    unfold Bartender.stopPlugin
    rw [h.status_eq]
    rcases hdown with rfl | rfl | rfl <;> exact h.stopFinally

theorem statusAfterStop_isDown_iff (shutdown : Shutdown) {status : Status}
    (hstopping : status ≠ .stopping) :
    (statusAfterStop shutdown status).IsDown ↔ Accounted shutdown status := by
  have haccounted : Accounted shutdown status ↔
      status.IsDown ∨ shutdown.clean = false ∨ shutdown.reportsStopped = true := by
    rw [shutdown.clean_eq_false_iff]
    unfold Accounted
    tauto
  rw [haccounted]
  unfold statusAfterStop Status.IsDown
  cases status <;> cases shutdown.clean <;> cases shutdown.reportsStopped <;> simp_all

theorem launch_not_refused {popen : ℕ → Bool} {refused : Status} :
    (launch popen plugin w).1 ≠ .error (.pluginStartupError refused) := by
  unfold launch
  dsimp only
  split_ifs <;> simp

theorem startPlugin_refused_iff {popen : ℕ → Bool} {status : Status}
    (h : Stored w plugin status) :
    (∃ refused, (startPlugin popen plugin w).1 = .error (.pluginStartupError refused)) ↔
      status = .paused ∨ status = .unresponsive ∨ status = .stopping ∨ status = .unknown := by
  unfold startPlugin
  rw [h.status_eq]
  cases status with
  | paused => simp
  | unresponsive => simp
  | stopping => simp
  | unknown => simp
  | initializing => simpa using fun refused => launch_not_refused
  | dead => simpa using fun refused => launch_not_refused
  | stopped => simpa using fun refused => launch_not_refused
  | _ => simp

theorem statusAfterStop_refused_iff (shutdown : Shutdown) (status : Status) :
    (statusAfterStop shutdown status = .paused ∨ statusAfterStop shutdown status = .unresponsive ∨
      statusAfterStop shutdown status = .stopping ∨ statusAfterStop shutdown status = .unknown) ↔
      ¬ (statusAfterStop shutdown status).IsDown := by
  have hrange : statusAfterStop shutdown status ∈
      [Status.dead, .stopped, .stopping, .unknown] := by
    unfold statusAfterStop
    split_ifs with hdown <;> simp
    tauto
  unfold Status.IsDown
  generalize statusAfterStop shutdown status = after at hrange ⊢
  simp only [List.mem_cons, List.not_mem_nil, or_false] at hrange
  rcases hrange with rfl | rfl | rfl | rfl <;> simp

/-- A plugin that was not stopping is left `STOPPED` or `DEAD`, and can be
started again, exactly when somebody accounts for its end: a clean shutdown of a
plugin that does not report leaves it as it was marked. -/
theorem stopPlugin_isDown_iff (popen : ℕ → Bool) (shutdown : Shutdown) {status : Status}
    (h : Stored w plugin status) (hstopping : status ≠ .stopping) :
    (((stopPlugin shutdown plugin w).status plugin).IsDown ↔ Accounted shutdown status) ∧
      ((∃ refused, (restartPlugin popen shutdown plugin w).1 =
        .error (.pluginStartupError refused)) ↔ ¬ Accounted shutdown status) := by
  have hafter := h.stopPlugin shutdown
  have hdown := statusAfterStop_isDown_iff shutdown hstopping
  refine ⟨by rw [hafter.status_eq, hdown], ?_⟩
  unfold restartPlugin
  rw [startPlugin_refused_iff hafter, statusAfterStop_refused_iff, hdown]

theorem stopPlugin_isDown_reported :
    (((stopPlugin ⟨true, true, true, true, false⟩ (singlePlugin "foo" [])
        (.single (singlePlugin "foo" []) .running ⟨1, false, .alive⟩)).status
          (singlePlugin "foo" [])).IsDown ↔
      Accounted ⟨true, true, true, true, false⟩ .running) ∧
      ((∃ refused, (restartPlugin (fun _ => true) ⟨true, true, true, true, false⟩
          (singlePlugin "foo" []) (.single (singlePlugin "foo" []) .running ⟨1, false, .alive⟩)).1 =
        .error (.pluginStartupError refused)) ↔
        ¬ Accounted ⟨true, true, true, true, false⟩ .running) :=
  stopPlugin_isDown_iff (fun _ => true) ⟨true, true, true, true, false⟩
    ⟨⟨0, "default"⟩, ⟨.running, none⟩, rfl, rfl, rfl⟩ (by decide)

/-- A running plugin that exits on the stop message without reporting stays
`STOPPING`, and a restart raises. -/
theorem stopPlugin_silent :
    (stopPlugin ⟨true, true, true, false, false⟩ (singlePlugin "foo" [])
        (.single (singlePlugin "foo" []) .running ⟨1, false, .alive⟩)).status
          (singlePlugin "foo" []) = .stopping ∧
      (restartPlugin (fun _ => true) ⟨true, true, true, false, false⟩ (singlePlugin "foo" [])
        (.single (singlePlugin "foo" []) .running ⟨1, false, .alive⟩)).1 =
        .error (.pluginStartupError .stopping) := by
  decide

end Bartender
