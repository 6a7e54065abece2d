import Bartender.Plugins.StartOutcome

/-!
# The calls of the start loop in their order

The loop over several plugins keeps two lists of names. Here its calls are
written down together with what they return, and the lists are tied to that
log: at every point of a run, whatever the calls return or raise, a plugin is
started only when what happened before accounts for its requirements.
-/

namespace Bartender

open RotatingQueue

variable {W ε : Type*}

/-- A call of the loop, with what `start_plugin` returned unless it raised. -/
inductive Event
  | startPlugin (plugin : LocalPluginRunner) (result : Option Bool)
  | markAsFailed (plugin : LocalPluginRunner)

namespace Event

def plugin : Event → LocalPluginRunner
  | startPlugin p _ => p
  | markAsFailed p => p

def call : Event → Call
  | startPlugin p _ => .startPlugin p
  | markAsFailed p => .markAsFailed p

/-- The system of a plugin on which `start_plugin` returned true. -/
def upName : Event → Option String
  | startPlugin p (some true) => some p.system.name
  | _ => none

/-- The system of a plugin that was marked failed or on which `start_plugin`
returned false. -/
def downName : Event → Option String
  | startPlugin p (some false) => some p.system.name
  | markAsFailed p => some p.system.name
  | _ => none

end Event

/-- The same calls, which also write themselves down. -/
def Effects.logged (fx : Effects W ε) : Effects (W × List Event) ε where
  startPlugin plugin world :=
    let outcome := fx.startPlugin plugin world.1
    (outcome.1, outcome.2, world.2 ++ [.startPlugin plugin outcome.1.toOption])
  markAsFailed plugin world :=
    let outcome := fx.markAsFailed plugin world.1
    (outcome.1, outcome.2, world.2 ++ [.markAsFailed plugin])

def Progress.unlogged (st : Progress (W × List Event)) : Progress W :=
  ⟨st.failedSystemNames, st.startedPluginNames, st.calls, st.world.1⟩

@[simp] theorem Progress.unlogged_failedSystemNames (st : Progress (W × List Event)) :
    st.unlogged.failedSystemNames = st.failedSystemNames := rfl

@[simp] theorem Progress.unlogged_startedPluginNames (st : Progress (W × List Event)) :
    st.unlogged.startedPluginNames = st.startedPluginNames := rfl

/-- Every requirement of the plugin is accounted for by the snapshot and by what
happened before. -/
def Justified (snap : Snapshot) (before : List Event) (plugin : LocalPluginRunner) : Prop :=
  ∀ r ∈ plugin.requirements,
    r ∈ snap.systemNames ∧ r ∉ snap.failedSystemNames ∧ r ∉ before.filterMap Event.downName ∧
      (r ∈ snap.runningSystemNames ∨ r ∈ before.filterMap Event.upName)

/-- The states at which the loop is between two rounds, at its end, or left by
an exception. -/
inductive Meets (fx : Effects W ε) (snap : Snapshot) (plugins : List LocalPluginRunner)
    (world : W) : Progress W → Prop
  | round {queue st} : Reaches (visitPlugin fx snap.systemNames) plugins.reverse
      (snap.progress world) queue st → Meets fx snap plugins world st
  | escape {fuel e st} : startMultiplePlugins fx snap fuel plugins world =
      some (.aborted e st) → Meets fx snap plugins world st

section Logged

variable {fx : Effects W ε} {plugin : LocalPluginRunner} {world : W × List Event} {world' : W}

theorem logged_startPlugin {result : Except ε Bool}
    (h : fx.startPlugin plugin world.1 = (result, world')) :
    fx.logged.startPlugin plugin world =
      (result, world', world.2 ++ [.startPlugin plugin result.toOption]) := by
  simp only [Effects.logged, h]

theorem logged_markAsFailed {result : Except ε Unit}
    (h : fx.markAsFailed plugin world.1 = (result, world')) :
    fx.logged.markAsFailed plugin world = (result, world', world.2 ++ [.markAsFailed plugin]) := by
  simp only [Effects.logged, h]

variable (fx) in
theorem visitPlugin_unlogged (systemNames : List String) (st : Progress (W × List Event))
    (plugin : LocalPluginRunner) :
    visitPlugin fx systemNames st.unlogged plugin =
      (visitPlugin fx.logged systemNames st plugin).map Progress.unlogged := by
  have hstart : attemptToStart fx st.unlogged plugin =
      (attemptToStart fx.logged st plugin).map Progress.unlogged := by
    unfold attemptToStart
    rcases hcall : fx.startPlugin plugin st.world.1 with ⟨e | result, world'⟩
    · rw [logged_startPlugin hcall, show fx.startPlugin plugin st.unlogged.world = _ from hcall]
      rfl
    · rw [logged_startPlugin hcall, show fx.startPlugin plugin st.unlogged.world = _ from hcall]
      cases result <;> rfl
  have hmark : failPlugin fx st.unlogged plugin =
      (failPlugin fx.logged st plugin).map Progress.unlogged := by
    unfold failPlugin
    rcases hcall : fx.markAsFailed plugin st.world.1 with ⟨e | ⟨⟨⟩⟩, world'⟩ <;>
      rw [logged_markAsFailed hcall,
        show fx.markAsFailed plugin st.unlogged.world = _ from hcall] <;>
      rfl
  unfold visitPlugin
  rw [hstart, hmark, st.unlogged_failedSystemNames, st.unlogged_startedPluginNames]
  cases checkRequirements systemNames st.failedSystemNames st.startedPluginNames
    plugin.requirements <;> rfl

theorem startMultiplePlugins_unlogged (fx : Effects W ε) (snap : Snapshot) (fuel : ℕ)
    (plugins : List LocalPluginRunner) (world : W) :
    startMultiplePlugins fx snap fuel plugins world =
      (startMultiplePlugins fx.logged snap fuel plugins (world, [])).map
        (Ending.map Progress.unlogged) := by
  rw [startMultiplePlugins_eq_run, startMultiplePlugins_eq_run]
  exact run_map (f := Progress.unlogged) (visitPlugin_unlogged fx snap.systemNames) fuel _
    (snap.progress (world, []))

end Logged

/-- The two lists of names, and the plugins left, are what the log says. -/
structure WrittenDown (snap : Snapshot) (plugins queue : List LocalPluginRunner)
    (st : Progress (W × List Event)) : Prop where
  calls : st.calls = st.world.2.map Event.call
  down : st.failedSystemNames = snap.failedSystemNames ++ st.world.2.filterMap Event.downName
  up : st.startedPluginNames = snap.runningSystemNames ++ st.world.2.filterMap Event.upName
  occurrences : (st.world.2.map Event.plugin ++ queue).Perm plugins
  justified : ∀ before p result after, st.world.2 = before ++ .startPlugin p result :: after →
    Justified snap before p

namespace WrittenDown

variable {fx : Effects W ε} {snap : Snapshot} {plugins queue : List LocalPluginRunner}
  {st st' : Progress (W × List Event)} {p : LocalPluginRunner}

theorem justified_of_ready (h : WrittenDown snap plugins queue st)
    (hready : st.Ready snap.systemNames p) : Justified snap st.world.2 p := by
  intro r hr
  obtain ⟨hknown, hdown, hup⟩ := hready r hr
  rw [h.down, List.mem_append, not_or] at hdown
  rw [h.up, List.mem_append] at hup
  exact ⟨hknown, hdown.1, hdown.2, hup⟩

theorem justified_append {log : List Event} {event : Event}
    (h : ∀ before p result after, log = before ++ .startPlugin p result :: after →
      Justified snap before p)
    (hevent : ∀ p result, event = .startPlugin p result → Justified snap log p) :
    ∀ before p result after, log ++ [event] = before ++ .startPlugin p result :: after →
      Justified snap before p := by
  intro before p result after heq
  rcases List.eq_nil_or_concat after with rfl | ⟨after, last, rfl⟩
  · obtain ⟨rfl, hlast⟩ := List.append_inj' heq rfl
    exact hevent p result (List.singleton_inj.mp hlast)
  · rw [List.concat_eq_append, ← List.cons_append, ← List.append_assoc] at heq
    exact h before p result after (List.append_inj' heq rfl).1

theorem rotate (h : WrittenDown snap plugins (p :: queue) st) :
    WrittenDown snap plugins (queue ++ [p]) st where
  calls := h.calls
  down := h.down
  up := h.up
  occurrences := ((List.perm_append_singleton p queue).append_left _).trans h.occurrences
  justified := h.justified

theorem initial (snap : Snapshot) (plugins : List LocalPluginRunner) (world : W) :
    WrittenDown snap plugins plugins.reverse (snap.progress (world, [])) where
  calls := rfl
  down := (List.append_nil _).symm
  up := (List.append_nil _).symm
  occurrences := List.reverse_perm plugins
  justified _ _ _ _ h := by simp [Snapshot.progress] at h

theorem filterMap_concat {α β : Type*} (f : α → Option β) (xs : List α) (x : α) :
    (xs ++ [x]).filterMap f = xs.filterMap f ++ (f x).toList := by
  rw [List.filterMap_append]
  cases h : f x <;> simp [h]

theorem append (h : WrittenDown snap plugins (p :: queue) st) {event : Event}
    (hplugin : event.plugin = p) (hcalls : st'.calls = st.calls ++ [event.call])
    (hlog : st'.world.2 = st.world.2 ++ [event])
    (hdown : st'.failedSystemNames = st.failedSystemNames ++ event.downName.toList)
    (hup : st'.startedPluginNames = st.startedPluginNames ++ event.upName.toList)
    (hevent : ∀ p result, event = .startPlugin p result → Justified snap st.world.2 p) :
    WrittenDown snap plugins queue st' where
  calls := by rw [hcalls, hlog, h.calls, List.map_append, List.map_singleton]
  down := by rw [hdown, hlog, h.down, filterMap_concat, List.append_assoc]
  up := by rw [hup, hlog, h.up, filterMap_concat, List.append_assoc]
  occurrences := by
    rw [hlog, List.map_append, List.map_singleton, hplugin, List.append_assoc]
    exact h.occurrences
  justified := by
    rw [hlog]
    exact justified_append h.justified hevent

theorem settle (h : WrittenDown snap plugins (p :: queue) st)
    (hv : visitPlugin fx.logged snap.systemNames st p = .settle st') :
    WrittenDown snap plugins queue st' := by
  rcases visitPlugin_eq_settle _ _ hv with
    ⟨result, world, hready, hcall, rfl⟩ | ⟨world, -, hcall, rfl⟩
  · rcases hunlogged : fx.startPlugin p st.world.1 with ⟨outcome, world'⟩
    rw [logged_startPlugin hunlogged] at hcall
    cases hcall
    have hevent : ∀ p' result', Event.startPlugin p (some result) = .startPlugin p' result' →
        Justified snap st.world.2 p' := by
      rintro _ _ ⟨⟩
      exact h.justified_of_ready hready
    cases result with
    | true => exact h.append rfl rfl rfl (List.append_nil _).symm rfl hevent
    | false => exact h.append rfl rfl rfl rfl (List.append_nil _).symm hevent
  · rcases hunlogged : fx.markAsFailed p st.world.1 with ⟨outcome, world'⟩
    rw [logged_markAsFailed hunlogged] at hcall
    cases hcall
    exact h.append rfl rfl rfl rfl (List.append_nil _).symm (by rintro _ _ ⟨⟩)

theorem reaches {queue' : List LocalPluginRunner} (h : WrittenDown snap plugins queue st)
    (hreach : Reaches (visitPlugin fx.logged snap.systemNames) queue st queue' st') :
    WrittenDown snap plugins queue' st' :=
  hreach.invariant h (fun _ _ _ _ h hv => h.settle hv) (fun _ _ _ h _ => h.rotate)

theorem abort {e : ε} (h : WrittenDown snap plugins (p :: queue) st)
    (hv : visitPlugin fx.logged snap.systemNames st p = .abort e st') :
    ∃ event, event.plugin = p ∧ st'.world.2 = st.world.2 ++ [event] ∧
      ∀ p result, event = .startPlugin p result → Justified snap st.world.2 p := by
  rcases visitPlugin_eq_abort _ _ hv with ⟨world, hready, hcall, rfl⟩ | ⟨world, -, hcall, rfl⟩
  · rcases hunlogged : fx.startPlugin p st.world.1 with ⟨outcome, world'⟩
    rw [logged_startPlugin hunlogged] at hcall
    cases hcall
    refine ⟨_, rfl, rfl, ?_⟩
    rintro _ _ ⟨⟩
    exact h.justified_of_ready hready
  · rcases hunlogged : fx.markAsFailed p st.world.1 with ⟨outcome, world'⟩
    rw [logged_markAsFailed hunlogged] at hcall
    cases hcall
    exact ⟨_, rfl, rfl, by rintro _ _ ⟨⟩⟩

end WrittenDown

/-- At every point of a run, each plugin started was justified by what happened
before, and the calls made are for occurrences of their own in the list. -/
theorem startMultiplePlugins_justified (fx : Effects W ε) (snap : Snapshot)
    (plugins : List LocalPluginRunner) (world : W) {st : Progress (W × List Event)}
    (h : Meets fx.logged snap plugins (world, []) st) :
    (∀ before p result after, st.world.2 = before ++ .startPlugin p result :: after →
      Justified snap before p) ∧ (st.world.2.map Event.plugin).Subperm plugins := by
  have hinit := WrittenDown.initial snap plugins world
  cases h with
  | round hreach =>
    have htracked := hinit.reaches hreach
    refine ⟨htracked.justified, ?_⟩
    exact (List.sublist_append_left _ _).subperm.trans htracked.occurrences.subperm
  | escape hend =>
    rw [startMultiplePlugins_eq_run] at hend
    obtain ⟨p, queue, st₁, hreach, habort⟩ := reaches_of_aborted hend
    have htracked := hinit.reaches hreach
    obtain ⟨event, hplugin, hlog, hevent⟩ := htracked.abort habort
    rw [hlog]
    refine ⟨WrittenDown.justified_append htracked.justified hevent, ?_⟩
    have hperm := htracked.occurrences
    rw [← hplugin, List.append_cons, ← List.map_singleton, ← List.map_append] at hperm
    exact (List.sublist_append_left _ _).subperm.trans hperm.subperm

/-- A plugin is started after the one that it requires. -/
theorem startMultiplePlugins_justified_pair :
    Justified ⟨["web", "db"], [], []⟩ [.startPlugin (singlePlugin "db" []) (some true)]
      (singlePlugin "web" ["db"]) :=
  (startMultiplePlugins_justified quietEffects ⟨["web", "db"], [], []⟩
    [singlePlugin "db" [], singlePlugin "web" ["db"]] ()
    (.round (.settle (.settle (.defer .start rfl) rfl) rfl))).1 _ _ _ [] rfl

end Bartender
