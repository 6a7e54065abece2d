import Bartender.Plugins.Manager
import Bartender.Plugins.Versions

/-!
# One plugin that cannot be started

Stopping and loading catch what goes wrong with one plugin and turn to the next.
`_start_multiple_plugins` does not: an exception of `start_plugin` ends its loop,
and the plugins that are still in the list are not started, whether or not they
have anything to do with the one that raised.
-/

namespace Bartender

open Dependencies RotatingQueue

variable {W ε : Type*}

/-- Starting the plugin raises, or it requires a system, directly or through
others, of whose plugins one raises. -/
inductive Affected (raises : LocalPluginRunner → Prop) (plugins : List LocalPluginRunner) :
    LocalPluginRunner → Prop
  | raises {p} : raises p → Affected raises plugins p
  | requires {p q} : q ∈ plugins → q.system.name ∈ p.requirements → Affected raises plugins q →
      Affected raises plugins p

/-- The loop comes to its end, and has started every plugin that is not affected. -/
def Isolates (fx : Effects W ε) (snap : Snapshot) (plugins : List LocalPluginRunner) (world : W)
    (raises : LocalPluginRunner → Prop) : Prop :=
  ∃ fuel st, startMultiplePlugins fx snap fuel plugins world = some (.finished st) ∧
    ∀ p ∈ plugins, ¬ Affected raises plugins p → .startPlugin p ∈ st.calls

/-- A configuration that the loop meets, with the plugin that is popped next. -/
abbrev Pops (fx : Effects W ε) (snap : Snapshot) (plugins : List LocalPluginRunner) (world : W)
    (p : LocalPluginRunner) (queue : List LocalPluginRunner) (st : Progress W) : Prop :=
  Reaches (visitPlugin fx snap.systemNames) plugins.reverse (snap.progress world) (p :: queue) st

/-- `start_plugin` raises on these plugins when their turn comes, and on no other. -/
structure RaisesOn (fx : Effects W ε) (snap : Snapshot) (plugins : List LocalPluginRunner)
    (world : W) (raises : LocalPluginRunner → Prop) : Prop where
  fails : ∀ p queue st, Pops fx snap plugins world p queue st → raises p →
    ∃ e, (fx.startPlugin p st.world).1 = .error e
  returns : ∀ p queue st, Pops fx snap plugins world p queue st → ¬ raises p →
    (fx.startPlugin p st.world).1 = .ok true

/-- No call that the loop makes raises. -/
def NoneEscapes (fx : Effects W ε) (snap : Snapshot) (plugins : List LocalPluginRunner)
    (world : W) : Prop :=
  ∀ p queue st, Pops fx snap plugins world p queue st →
    ∀ e st', visitPlugin fx snap.systemNames st p ≠ .abort e st'

/-- The names that the plugin requires are stored and have not failed from the outset. -/
def Available (snap : Snapshot) (p : LocalPluginRunner) : Prop :=
  ∀ r ∈ p.requirements, r ∈ snap.systemNames ∧ r ∉ snap.failedSystemNames

section Loop

variable {fx : Effects W ε} {snap : Snapshot} {plugins queue : List LocalPluginRunner} {world : W}
  {raises : LocalPluginRunner → Prop} {st st' : Progress W} {p : LocalPluginRunner}

theorem started_or_failed_of_settle
    (hv : visitPlugin fx snap.systemNames st p = .settle st') :
    (∀ r ∈ st.failedSystemNames, r ∈ st'.failedSystemNames) ∧
      (∀ r ∈ st.startedPluginNames, r ∈ st'.startedPluginNames) ∧
      (p.system.name ∈ st'.failedSystemNames ∨ p.system.name ∈ st'.startedPluginNames) := by
  rcases visitPlugin_eq_settle _ _ hv with ⟨_ | _, world, -, -, rfl⟩ | ⟨world, -, -, rfl⟩ <;>
    simp +contextual [Progress.started, Progress.notStarted, Progress.failed]

/-- Every plugin is still in the queue or has left its name in one of the lists. -/
theorem handled_of_reaches (hreach : Reaches (visitPlugin fx snap.systemNames) plugins.reverse
    (snap.progress world) queue st) :
    ∀ p ∈ plugins, p ∈ queue ∨ p.system.name ∈ st.failedSystemNames ∨
      p.system.name ∈ st.startedPluginNames := by
  refine hreach.invariant (I := fun queue st => ∀ p ∈ plugins, p ∈ queue ∨
    p.system.name ∈ st.failedSystemNames ∨ p.system.name ∈ st.startedPluginNames) ?_ ?_ ?_
  · exact fun p hp => .inl (List.mem_reverse.mpr hp)
  · intro q queue st st' h hv p hp
    obtain ⟨hfailed, hstarted, hq⟩ := started_or_failed_of_settle hv
    rcases h p hp with hmem | hname | hname
    · rcases List.mem_cons.mp hmem with rfl | hmem
      · exact .inr hq
      · exact .inl hmem
    · exact .inr (.inl (hfailed _ hname))
    · exact .inr (.inr (hstarted _ hname))
  · intro q queue st h _ p hp
    exact (h p hp).imp_left fun hmem => by simpa [or_comm] using hmem

/-- Among plugins that wait for each other in a circle none is acyclic. -/
theorem not_deadlocked_of_acyclic (hacyclic : Acyclic (snap.problem plugins))
    (hprovided : ∀ p ∈ plugins, ∀ r ∈ p.requirements,
      r ∈ snap.runningSystemNames ∨ ∃ q ∈ plugins, q.system.name = r)
    (hreach : Reaches (visitPlugin fx snap.systemNames) plugins.reverse (snap.progress world)
      queue st) :
    ¬ Deadlocked (visitPlugin fx snap.systemNames) queue st := by
  rintro ⟨hne, hall⟩
  have hkeeps := Keeps.of_reaches hreach
  have hhandled := handled_of_reaches hreach
  -- no plugin in the queue has a name whose requirements nobody in the queue has
  have hnone : ∀ name, ∀ p ∈ queue, p.system.name ≠ name := by
    refine hacyclic.induction fun name ih p hp hname => ?_
    obtain ⟨pre, r, post, hreq, -, -, hnotFailed, hnotStarted⟩ :=
      waits_of_visitPlugin_eq_defer _ _ (hall p hp)
    have hr : r ∈ p.requirements := by simp [hreq]
    have hlisted := hkeeps.listed p hp
    rcases hprovided p hlisted r hr with hrunning | ⟨q, hq, rfl⟩
    · exact hnotStarted (hkeeps.started r hrunning)
    · have hwaiting : q ∈ queue :=
        (hhandled q hq).resolve_right (not_or.mpr ⟨hnotFailed, hnotStarted⟩)
      exact ih _ ⟨⟨p, hlisted, hname, hr⟩, q, hq, rfl⟩ q hwaiting rfl
  obtain ⟨p, hp⟩ := List.exists_mem_of_ne_nil _ hne
  exact hnone _ p hp rfl

theorem finishes_of_noneEscapes (hacyclic : Acyclic (snap.problem plugins))
    (hprovided : ∀ p ∈ plugins, ∀ r ∈ p.requirements,
      r ∈ snap.runningSystemNames ∨ ∃ q ∈ plugins, q.system.name = r)
    (hnone : NoneEscapes fx snap plugins world) :
    ∃ fuel st, startMultiplePlugins fx snap fuel plugins world = some (.finished st) := by
  have hends : ∃ fuel ending, run (visitPlugin fx snap.systemNames) fuel plugins.reverse
      (snap.progress world) = some ending :=
    ends_of_never_deadlocked fun queue st hreach =>
      not_deadlocked_of_acyclic hacyclic hprovided hreach
  obtain ⟨fuel, ending, hend⟩ := hends
  rw [← startMultiplePlugins_eq_run] at hend
  cases ending with
  | finished st => exact ⟨fuel, st, hend⟩
  | aborted e st =>
    rw [startMultiplePlugins_eq_run] at hend
    obtain ⟨p, queue, before, hreach, hv⟩ := reaches_of_aborted hend
    exact absurd hv (hnone p queue before hreach e st)

theorem noneEscapes_of_finished {fuel : ℕ}
    (hend : startMultiplePlugins fx snap fuel plugins world = some (.finished st)) :
    NoneEscapes fx snap plugins world := by
  intro p queue before hreach e st' hv
  rw [startMultiplePlugins_eq_run] at hend
  obtain ⟨_ | fuel', hrest⟩ := hreach.run_rest hend
  · simp [run] at hrest
  · rw [run_succ_abort hv] at hrest
    cases hrest

theorem available_of_started (hreach : Reaches (visitPlugin fx snap.systemNames) plugins.reverse
    (snap.progress world) queue st) (hcall : .startPlugin p ∈ st.calls) : Available snap p := by
  induction hreach with
  | start => exact absurd hcall List.not_mem_nil
  | @settle q queue st st' hbefore hv ih =>
    have hkeeps := Keeps.of_reaches hbefore
    rcases visitPlugin_eq_settle _ _ hv with ⟨result, world, hready, -, rfl⟩ | ⟨world, -, -, rfl⟩
    · have hcalls : .startPlugin p ∈ st.calls ++ [.startPlugin q] := by
        cases result <;> exact hcall
      rcases List.mem_append.mp hcalls with hcall | hcall
      · exact ih hcall
      · cases List.mem_singleton.mp hcall
        intro r hr
        obtain ⟨hknown, hnotFailed, -⟩ := hready r hr
        exact ⟨hknown, fun hfailed => hnotFailed (hkeeps.failedKept r hfailed)⟩
    · rcases List.mem_append.mp hcall with hcall | hcall
      · exact ih hcall
      · cases List.mem_singleton.mp hcall
  | defer _ _ ih => exact ih hcall

theorem RaisesOn.eq_true (hraises : RaisesOn fx snap plugins world raises) {result : Bool}
    {world' : W} (hpops : Pops fx snap plugins world p queue st)
    (hcall : fx.startPlugin p st.world = (.ok result, world')) :
    ¬ raises p ∧ result = true := by
  have hnot : ¬ raises p := by
    intro hp
    obtain ⟨e, herror⟩ := hraises.fails p queue st hpops hp
    rw [hcall] at herror
    cases herror
  have hreturns := hraises.returns p queue st hpops hnot
  rw [hcall] at hreturns
  exact ⟨hnot, Except.ok.inj hreturns⟩

/-- When the requirements of the others are available, only affected plugins
fail, and all others that have left the queue were started. -/
theorem started_of_reaches (hraises : RaisesOn fx snap plugins world raises)
    (havailable : ∀ p ∈ plugins, ¬ Affected raises plugins p → Available snap p)
    (hreach : Reaches (visitPlugin fx snap.systemNames) plugins.reverse (snap.progress world)
      queue st) :
    (∀ r ∈ st.failedSystemNames, r ∈ snap.failedSystemNames ∨
      ∃ q ∈ plugins, q.system.name = r ∧ Affected raises plugins q) ∧
    ∀ p ∈ plugins, p ∈ queue ∨ Affected raises plugins p ∨ .startPlugin p ∈ st.calls := by
  induction hreach with
  | start => exact ⟨fun r hr => .inl hr, fun p hp => .inl (List.mem_reverse.mpr hp)⟩
  | @settle q queue st st' hbefore hv ih =>
    obtain ⟨hfailed, hstarted⟩ := ih
    have hq : q ∈ plugins := (Keeps.of_reaches hbefore).listed q List.mem_cons_self
    have hleft : ∀ new,
        (Affected raises plugins q ∨ .startPlugin q ∈ st.calls ++ [new]) → ∀ p ∈ plugins,
          p ∈ queue ∨ Affected raises plugins p ∨ .startPlugin p ∈ st.calls ++ [new] := by
      intro new hnew p hp
      rcases hstarted p hp with hmem | haffected | hcall
      · rcases List.mem_cons.mp hmem with rfl | hmem
        · exact .inr hnew
        · exact .inl hmem
      · exact .inr (.inl haffected)
      · exact .inr (.inr (List.mem_append_left _ hcall))
    rcases visitPlugin_eq_settle _ _ hv with
      ⟨result, world, -, hcall, rfl⟩ | ⟨world, ⟨pre, r, post, hreq, -, hbad⟩, -, rfl⟩
    · obtain ⟨-, rfl⟩ := hraises.eq_true hbefore hcall
      exact ⟨hfailed, hleft (.startPlugin q) (.inr (by simp))⟩
    · have hr : r ∈ q.requirements := by simp [hreq]
      have haffected : Affected raises plugins q := by
        by_contra hnot
        obtain ⟨hknown, hnotFailed⟩ := havailable q hq hnot r hr
        rcases hfailed r (hbad.resolve_left (not_not.mpr hknown)) with hsnap | ⟨b, hb, rfl, hb'⟩
        · exact hnotFailed hsnap
        · exact hnot (.requires hb hr hb')
      refine ⟨fun r hr => ?_, hleft (.markAsFailed q) (.inl haffected)⟩
      rcases List.mem_append.mp hr with hr | hr
      · exact hfailed r hr
      · exact .inr ⟨q, hq, (List.mem_singleton.mp hr).symm, haffected⟩
  | @defer q queue st _ _ ih =>
    exact ⟨ih.1, fun p hp => (ih.2 p hp).imp_left fun hmem => by simpa [or_comm] using hmem⟩

theorem not_blocked_of_available (hfailed : st.failedSystemNames = snap.failedSystemNames)
    (havailable : Available snap p) : ¬ st.Blocked snap.systemNames p := by
  rintro ⟨pre, r, post, hreq, -, hbad⟩
  obtain ⟨hknown, hnotFailed⟩ := havailable r (by simp [hreq])
  rw [hfailed] at hbad
  exact hbad.elim (fun hmissing => hmissing hknown) hnotFailed

/-- When all requirements are available, nothing fails, and none of the plugins
that have left the queue has raised. -/
theorem returned_of_reaches (hraises : RaisesOn fx snap plugins world raises)
    (havailable : ∀ p ∈ plugins, Available snap p)
    (hreach : Reaches (visitPlugin fx snap.systemNames) plugins.reverse (snap.progress world)
      queue st) :
    st.failedSystemNames = snap.failedSystemNames ∧ ∀ p ∈ plugins, p ∈ queue ∨ ¬ raises p := by
  induction hreach with
  | start => exact ⟨rfl, fun p hp => .inl (List.mem_reverse.mpr hp)⟩
  | @settle q queue st st' hbefore hv ih =>
    obtain ⟨hfailed, hreturned⟩ := ih
    have hq : q ∈ plugins := (Keeps.of_reaches hbefore).listed q List.mem_cons_self
    rcases visitPlugin_eq_settle _ _ hv with ⟨result, world, -, hcall, rfl⟩ | ⟨-, hblocked, -, -⟩
    · obtain ⟨hnot, rfl⟩ := hraises.eq_true hbefore hcall
      refine ⟨hfailed, fun p hp => ?_⟩
      rcases hreturned p hp with hmem | hp
      · rcases List.mem_cons.mp hmem with rfl | hmem
        · exact .inr hnot
        · exact .inl hmem
      · exact .inr hp
    · exact absurd hblocked (not_blocked_of_available hfailed (havailable q hq))
  | @defer q queue st _ _ ih =>
    exact ⟨ih.1, fun p hp => (ih.2 p hp).imp_left fun hmem => by simpa [or_comm] using hmem⟩

theorem noneEscapes_of_available (hraises : RaisesOn fx snap plugins world raises)
    (havailable : ∀ p ∈ plugins, Available snap p) (hnone : ∀ p ∈ plugins, ¬ raises p) :
    NoneEscapes fx snap plugins world := by
  intro p queue st hpops e st' hv
  have hp : p ∈ plugins := (Keeps.of_reaches hpops).listed p List.mem_cons_self
  have hfailed := (returned_of_reaches hraises havailable hpops).1
  rcases visitPlugin_eq_abort _ _ hv with ⟨world, -, hcall, -⟩ | ⟨world, hblocked, -, -⟩
  · have hreturns := hraises.returns p queue st hpops (hnone p hp)
    rw [hcall] at hreturns
    cases hreturns
  · exact not_blocked_of_available hfailed (havailable p hp) hblocked

theorem isolates_of_noneEscapes (hacyclic : Acyclic (snap.problem plugins))
    (hprovided : ∀ p ∈ plugins, ∀ r ∈ p.requirements,
      r ∈ snap.runningSystemNames ∨ ∃ q ∈ plugins, q.system.name = r)
    (hraises : RaisesOn fx snap plugins world raises) (hnone : NoneEscapes fx snap plugins world)
    (havailable : ∀ p ∈ plugins, ¬ Affected raises plugins p → Available snap p) :
    Isolates fx snap plugins world raises := by
  obtain ⟨fuel, st, hend⟩ := finishes_of_noneEscapes hacyclic hprovided hnone
  refine ⟨fuel, st, hend, fun p hp hnot => ?_⟩
  rw [startMultiplePlugins_eq_run] at hend
  have hstarted := (started_of_reaches hraises havailable (reaches_of_finished hend)).2 p hp
  exact (hstarted.resolve_left List.not_mem_nil).resolve_left hnot

end Loop

/-- The loop ends, and starts every plugin that has nothing to do with one that
raises, exactly when no call raises on its way and the names that these plugins
require are available. Where all required names are, it does so exactly when
`start_plugin` raises on none of the plugins. -/
theorem startMultiplePlugins_isolates_iff (fx : Effects W ε) (snap : Snapshot)
    (plugins : List LocalPluginRunner) (world : W) (raises : LocalPluginRunner → Prop)
    (hraises : RaisesOn fx snap plugins world raises)
    (hacyclic : Acyclic (snap.problem plugins))
    (hprovided : ∀ p ∈ plugins, ∀ r ∈ p.requirements,
      r ∈ snap.runningSystemNames ∨ ∃ q ∈ plugins, q.system.name = r) :
    (Isolates fx snap plugins world raises ↔ NoneEscapes fx snap plugins world ∧
      ∀ p ∈ plugins, ¬ Affected raises plugins p → Available snap p) ∧
    ((∀ p ∈ plugins, Available snap p) →
      (Isolates fx snap plugins world raises ↔ ∀ p ∈ plugins, ¬ raises p)) := by
  refine ⟨⟨?_, fun h => isolates_of_noneEscapes hacyclic hprovided hraises h.1 h.2⟩,
    fun havailable => ⟨?_, fun hnone => ?_⟩⟩
  · rintro ⟨fuel, st, hend, hstarted⟩
    refine ⟨noneEscapes_of_finished hend, fun p hp hnot => ?_⟩
    rw [startMultiplePlugins_eq_run] at hend
    exact available_of_started (reaches_of_finished hend) (hstarted p hp hnot)
  · rintro ⟨fuel, st, hend, -⟩ p hp
    rw [startMultiplePlugins_eq_run] at hend
    have hreturned := (returned_of_reaches hraises havailable (reaches_of_finished hend)).2 p hp
    exact hreturned.resolve_left List.not_mem_nil
  · exact isolates_of_noneEscapes hacyclic hprovided hraises
      (noneEscapes_of_available hraises havailable hnone) fun p hp _ => havailable p hp

def otherPlugin : LocalPluginRunner :=
  { singlePlugin "db" [] with address := 1, system := ⟨1, "db", "1.0", [⟨1, "default"⟩]⟩ }

/-- Two plugins that were loaded, one of which is `PAUSED`. -/
def onePaused : World where
  registry := [otherPlugin, singlePlugin "web" []]
  runners := [otherPlugin, singlePlugin "web" []]
  runtime := fun _ => .fresh
  systems := [(singlePlugin "web" []).system, otherPlugin.system]
  instances := fun id =>
    if id = 0 then some ⟨.paused, none⟩ else if id = 1 then some .fresh else none
  next := 2
  now := 0

def onePausedSnapshot : Snapshot :=
  .read onePaused.storedSystems onePaused.storedSystems onePaused.storedSystems

theorem raisesOn_onePaused :
    RaisesOn (worldEffects fun _ => true) onePausedSnapshot onePaused.registry onePaused
      (· = singlePlugin "web" []) := by
  have honly : ∀ p queue st, Pops (worldEffects fun _ => true) onePausedSnapshot onePaused.registry
      onePaused p queue st →
        p = singlePlugin "web" [] ∧ st = onePausedSnapshot.progress onePaused := by
    intro p queue st hpops
    have hstart := hpops.invariant (I := fun queue st => queue = onePaused.registry.reverse ∧
      st = onePausedSnapshot.progress onePaused) ⟨rfl, rfl⟩ ?_ ?_
    · exact ⟨(List.cons.inj hstart.1).1, hstart.2⟩
    · rintro q queue st st' ⟨hqueue, rfl⟩ hv
      cases hqueue
      cases hv
    · rintro q queue st ⟨hqueue, rfl⟩ hv
      cases hqueue
      cases hv
  refine ⟨fun p queue st hpops hp => ?_, fun p queue st hpops hp => ?_⟩
  · obtain ⟨rfl, rfl⟩ := honly p queue st hpops
    exact ⟨_, rfl⟩
  · exact absurd (honly p queue st hpops).1 hp

/-- The same, where the paused plugin requires the other one. -/
def pausedBehind : World :=
  { onePaused with
    registry := [otherPlugin, singlePlugin "web" ["db"]]
    runners := [otherPlugin, singlePlugin "web" ["db"]] }

theorem raisesOn_pausedBehind :
    RaisesOn (worldEffects fun _ => true) onePausedSnapshot pausedBehind.registry pausedBehind
      (· = singlePlugin "web" ["db"]) := by
  let visit := visitPlugin (worldEffects fun _ => true) onePausedSnapshot.systemNames
  let before := onePausedSnapshot.progress pausedBehind
  have hall : ∀ p queue st, Pops (worldEffects fun _ => true) onePausedSnapshot
      pausedBehind.registry pausedBehind p queue st →
        (p = singlePlugin "web" ["db"] ∨ p = otherPlugin) ∧ st = before ∨
          p = singlePlugin "web" ["db"] ∧ visit before otherPlugin = .settle st := by
    intro p queue st hpops
    -- the paused plugin is put back once, and then the other one is started
    have hqueues := hpops.invariant (I := fun queue st =>
      (queue = [singlePlugin "web" ["db"], otherPlugin] ∨
        queue = [otherPlugin, singlePlugin "web" ["db"]]) ∧ st = before ∨
      (queue = [singlePlugin "web" ["db"]] ∨ queue = []) ∧ visit before otherPlugin = .settle st)
      (.inl ⟨.inl rfl, rfl⟩) ?_ ?_
    · rcases hqueues with ⟨hqueue | hqueue, rfl⟩ | ⟨hqueue | hqueue, hsettle⟩ <;> cases hqueue
      · exact .inl ⟨.inl rfl, rfl⟩
      · exact .inl ⟨.inr rfl, rfl⟩
      · exact .inr ⟨rfl, hsettle⟩
    · rintro q queue st st' (⟨hqueue | hqueue, rfl⟩ | ⟨hqueue | hqueue, hsettle⟩) hv <;>
        cases hqueue
      · cases hv
      · exact .inr ⟨.inl rfl, hv⟩
      · cases hsettle
        cases hv
    · rintro q queue st (⟨hqueue | hqueue, rfl⟩ | ⟨hqueue | hqueue, hsettle⟩) hv <;> cases hqueue
      · exact .inl ⟨.inr rfl, rfl⟩
      · cases hv
      · cases hsettle
        cases hv
  refine ⟨fun p queue st hpops hp => ?_, fun p queue st hpops hp => ?_⟩
  · obtain ⟨-, rfl⟩ | ⟨-, hsettle⟩ := hall p queue st hpops
    · exact hp ▸ ⟨_, rfl⟩
    · cases hsettle
      exact hp ▸ ⟨_, rfl⟩
  · obtain ⟨rfl | rfl, rfl⟩ | ⟨rfl, -⟩ := hall p queue st hpops
    · exact absurd rfl hp
    · rfl
    · exact absurd rfl hp

theorem acyclic_pausedBehind : Acyclic (onePausedSnapshot.problem pausedBehind.registry) :=
  acyclic_of_rank (fun name => if name = "web" then 1 else 0) fun x y hxy => by
    simp [NameRequires, Snapshot.problem, pausedBehind, singlePlugin, otherPlugin] at hxy
    obtain ⟨⟨rfl, rfl⟩, -⟩ := hxy
    decide

theorem startMultiplePlugins_isolates_iff_pausedBehind :
    (Isolates (worldEffects fun _ => true) onePausedSnapshot pausedBehind.registry pausedBehind
        (· = singlePlugin "web" ["db"]) ↔
      NoneEscapes (worldEffects fun _ => true) onePausedSnapshot pausedBehind.registry
        pausedBehind ∧
        ∀ p ∈ pausedBehind.registry,
          ¬ Affected (· = singlePlugin "web" ["db"]) pausedBehind.registry p →
            Available onePausedSnapshot p) ∧
    ((∀ p ∈ pausedBehind.registry, Available onePausedSnapshot p) →
      (Isolates (worldEffects fun _ => true) onePausedSnapshot pausedBehind.registry pausedBehind
          (· = singlePlugin "web" ["db"]) ↔
        ∀ p ∈ pausedBehind.registry, p ≠ singlePlugin "web" ["db"])) :=
  startMultiplePlugins_isolates_iff _ _ _ _ _ raisesOn_pausedBehind acyclic_pausedBehind
    (by simp [pausedBehind, singlePlugin, otherPlugin])

/-- The plugin that could be started is not: the exception escapes first. -/
theorem startMultiplePlugins_gives_up :
    RaisesOn (worldEffects fun _ => true) onePausedSnapshot onePaused.registry onePaused
        (· = singlePlugin "web" []) ∧
      ¬ Isolates (worldEffects fun _ => true) onePausedSnapshot onePaused.registry onePaused
        (· = singlePlugin "web" []) ∧
      ∀ fuel, ∃ st, startMultiplePlugins (worldEffects fun _ => true) onePausedSnapshot (fuel + 1)
        onePaused.registry onePaused = some (.aborted (.pluginStartupError .paused) st) ∧
          .startPlugin otherPlugin ∉ st.calls := by
  refine ⟨raisesOn_onePaused, ?_, fun fuel => ⟨_, rfl, by decide⟩⟩
  rintro ⟨_ | fuel, st, hend, -⟩ <;> cases hend

end Bartender
