import Bartender.Library.Timetable
import Bartender.Plugins.StartLoop

/-!
# When the start loop ends, and what it starts

The requirement lists of the plugins and the three name lists pose a dependency
problem, and the loop is one way of working through it. A plugin that can start
or is doomed leaves the queue whatever the order of the list; a plugin that is
neither can be put back for ever. On acyclic lists the loop computes the least
fixed point of failure.
-/

namespace Bartender

open Dependencies RotatingQueue

variable {W ε : Type*} {fx : Effects W ε} {snap : Snapshot} {plugins : List LocalPluginRunner}

/-- The dependency problem that a snapshot and a list of plugins pose. -/
def Snapshot.problem (snap : Snapshot) (plugins : List LocalPluginRunner) :
    Problem LocalPluginRunner String where
  items := plugins
  name p := p.system.name
  requires p := p.requirements
  known r := r ∈ snap.systemNames
  failed r := r ∈ snap.failedSystemNames
  running r := r ∈ snap.runningSystemNames

/-- The loop leaves its `while` with an empty list. -/
def LoopEnds (fx : Effects W ε) (snap : Snapshot) (plugins : List LocalPluginRunner)
    (world : W) : Prop :=
  ∃ fuel st, startMultiplePlugins fx snap fuel plugins world = some (.finished st)

/-- No name comes up through one plugin and is doomed through another. -/
def Unmixed (snap : Snapshot) (plugins : List LocalPluginRunner) : Prop :=
  ∀ p ∈ plugins, Doomed (snap.problem plugins) p → ¬ Up (snap.problem plugins) p.system.name

/-- What holds of every configuration of the loop when the calls return. -/
structure Consistent (snap : Snapshot) (plugins queue : List LocalPluginRunner)
    (st : Progress W) : Prop where
  listed : ∀ p ∈ queue, p ∈ plugins
  failedKept : ∀ r ∈ snap.failedSystemNames, r ∈ st.failedSystemNames
  runningKept : ∀ r ∈ snap.runningSystemNames, r ∈ st.startedPluginNames
  handled : ∀ p ∈ plugins, p ∈ queue ∨ p.system.name ∈ st.failedSystemNames ∨
    (CanStart (snap.problem plugins) p ∧ p.system.name ∈ st.startedPluginNames)
  startedUp : ∀ r ∈ st.startedPluginNames, Up (snap.problem plugins) r

namespace Consistent

variable {queue : List LocalPluginRunner} {st : Progress W} {p : LocalPluginRunner}

theorem initial (order : List LocalPluginRunner) (horder : ∀ p, p ∈ order ↔ p ∈ plugins)
    (world : W) : Consistent snap plugins order (snap.progress world) where
  listed p hp := (horder p).mp hp
  failedKept _ hr := hr
  runningKept _ hr := hr
  handled p hp := .inl ((horder p).mpr hp)
  startedUp _ hr := .inl hr

theorem canStart_of_ready (h : Consistent snap plugins queue st)
    (hready : st.Ready snap.systemNames p) : CanStart (snap.problem plugins) p := by
  refine canStart_iff.mpr fun r hr => ?_
  obtain ⟨hknown, hfailed, hstarted⟩ := hready r hr
  exact ⟨hknown, fun hf => hfailed (h.failedKept r hf), h.startedUp r hstarted⟩

theorem rotate (h : Consistent snap plugins (p :: queue) st) :
    Consistent snap plugins (queue ++ [p]) st where
  listed a ha := h.listed a (by simpa [or_comm] using ha)
  failedKept := h.failedKept
  runningKept := h.runningKept
  handled a ha := (h.handled a ha).imp_left fun hq => by simpa [or_comm] using hq
  startedUp := h.startedUp

theorem started (h : Consistent snap plugins (p :: queue) st) (world : W)
    (hready : st.Ready snap.systemNames p) :
    Consistent snap plugins queue (st.started p world) where
  listed a ha := h.listed a (List.mem_cons_of_mem _ ha)
  failedKept := h.failedKept
  runningKept r hr := List.mem_append_left _ (h.runningKept r hr)
  handled a ha := by
    rcases h.handled a ha with hq | hf | ⟨hs, hup⟩
    · rcases List.mem_cons.mp hq with rfl | hq
      · exact .inr (.inr ⟨h.canStart_of_ready hready, by simp [Progress.started]⟩)
      · exact .inl hq
    · exact .inr (.inl hf)
    · exact .inr (.inr ⟨hs, List.mem_append_left _ hup⟩)
  startedUp r hr := by
    rcases List.mem_append.mp hr with hr | hr
    · exact h.startedUp r hr
    · exact List.mem_singleton.mp hr ▸
        .inr ⟨p, h.listed p List.mem_cons_self, rfl, h.canStart_of_ready hready⟩

theorem settled_failed (h : Consistent snap plugins (p :: queue) st) {st' : Progress W}
    (hfailed : st'.failedSystemNames = st.failedSystemNames ++ [p.system.name])
    (hstarted : st'.startedPluginNames = st.startedPluginNames) :
    Consistent snap plugins queue st' where
  listed a ha := h.listed a (List.mem_cons_of_mem _ ha)
  failedKept r hr := hfailed ▸ List.mem_append_left _ (h.failedKept r hr)
  runningKept r hr := hstarted ▸ h.runningKept r hr
  handled a ha := by
    rw [hfailed, hstarted]
    rcases h.handled a ha with hq | hf | hup
    · rcases List.mem_cons.mp hq with rfl | hq
      · exact .inr (.inl (by simp))
      · exact .inl hq
    · exact .inr (.inl (List.mem_append_left _ hf))
    · exact .inr (.inr hup)
  startedUp r hr := h.startedUp r (hstarted ▸ hr)

theorem settle (hret : fx.Returns) (h : Consistent snap plugins (p :: queue) st)
    {st' : Progress W} (hv : visitPlugin fx snap.systemNames st p = .settle st') :
    Consistent snap plugins queue st' := by
  rcases visitPlugin_cases fx snap.systemNames hret st p with
    ⟨hvisit, _⟩ | ⟨world, hvisit, hready⟩ | ⟨world, hvisit, _⟩ | ⟨world, hvisit, _⟩
  · simp [hvisit] at hv
  · obtain rfl : st.started p world = st' := by simpa [hvisit] using hv
    exact h.started world hready
  · obtain rfl : st.notStarted p world = st' := by simpa [hvisit] using hv
    exact h.settled_failed rfl rfl
  · obtain rfl : st.failed p world = st' := by simpa [hvisit] using hv
    exact h.settled_failed rfl rfl

theorem reaches (hret : fx.Returns) {queue' : List LocalPluginRunner} {st' : Progress W}
    (h : Consistent snap plugins queue st)
    (hreach : Reaches (visitPlugin fx snap.systemNames) queue st queue' st') :
    Consistent snap plugins queue' st' :=
  hreach.invariant h (fun _ _ _ _ h hv => h.settle hret hv) (fun _ _ _ h _ => h.rotate)

/-- In a deadlock each plugin left waits for a name that nothing handled so far has. -/
theorem not_canStart_of_deadlocked (hret : fx.Returns)
    (h : Consistent snap plugins queue st)
    (hdead : Deadlocked (visitPlugin fx snap.systemNames) queue st)
    (hp : CanStart (snap.problem plugins) p) : p ∉ queue := by
  induction hp with
  | @intro p provider sound provides starts ih =>
    intro hq
    rcases visitPlugin_cases fx snap.systemNames hret st p with
      ⟨_, pre, r, post, hreq, _, _, hnotFailed, hnotStarted⟩ | ⟨_, hv, _⟩ | ⟨_, hv, _⟩ | ⟨_, hv, _⟩
    · have hr : r ∈ p.requirements := by simp [hreq]
      by_cases hrun : r ∈ snap.runningSystemNames
      · exact hnotStarted (h.runningKept r hrun)
      · obtain ⟨hmem, hname⟩ := provides r hr hrun
        rcases h.handled _ hmem with hin | hf | ⟨_, hs⟩
        · exact ih r hr hrun hin
        · exact hnotFailed (hname ▸ hf)
        · exact hnotStarted (hname ▸ hs)
    all_goals simp [hdead.2 p hq] at hv

theorem up_handled_of_deadlocked (hret : fx.Returns) (h : Consistent snap plugins queue st)
    (hdead : Deadlocked (visitPlugin fx snap.systemNames) queue st) {r : String}
    (hup : Up (snap.problem plugins) r) :
    r ∈ st.failedSystemNames ∨ r ∈ st.startedPluginNames := by
  rcases hup with hrun | ⟨b, hb, rfl, hstart⟩
  · exact .inr (h.runningKept r hrun)
  · rcases h.handled b hb with hin | hf | ⟨_, hs⟩
    · exact absurd hin (h.not_canStart_of_deadlocked hret hdead hstart)
    · exact .inl hf
    · exact .inr hs

/-- A requirement that the scan reaches through names that come up is itself
neither missing nor failed, since the plugin is still waiting. -/
theorem reached_of_deadlocked (hret : fx.Returns) (h : Consistent snap plugins queue st)
    (hdead : Deadlocked (visitPlugin fx snap.systemNames) queue st) (hp : p ∈ queue)
    {pre post : List String} {r : String} (hreq : p.requirements = pre ++ r :: post)
    (hpre : ∀ x ∈ pre, Up (snap.problem plugins) x) :
    r ∈ snap.systemNames ∧ r ∉ st.failedSystemNames := by
  rcases visitPlugin_cases fx snap.systemNames hret st p with
    ⟨_, pre', r', post', hreq', hmet, hknown, hnotFailed, hnotStarted⟩ |
      ⟨_, hv, _⟩ | ⟨_, hv, _⟩ | ⟨_, hv, _⟩
  · have hr' : r' ∉ pre := fun hin =>
      (h.up_handled_of_deadlocked hret hdead (hpre r' hin)).elim hnotFailed hnotStarted
    rcases List.append_eq_append_iff.mp (hreq.symm.trans hreq') with
      ⟨mid, rfl, hmid⟩ | ⟨mid, rfl, hmid⟩
    · cases mid with
      | nil =>
        obtain ⟨rfl, -⟩ : r = r' ∧ post = post' := by simpa using hmid
        exact ⟨hknown, hnotFailed⟩
      | cons x mid =>
        obtain ⟨rfl, -⟩ : r = x ∧ post = mid ++ r' :: post' := by simpa using hmid
        obtain ⟨hknown', hnotFailed', -⟩ := hmet r (by simp)
        exact ⟨hknown', hnotFailed'⟩
    · cases mid with
      | nil =>
        obtain ⟨rfl, -⟩ : r' = r ∧ post' = post := by simpa using hmid
        exact ⟨hknown, hnotFailed⟩
      | cons x mid =>
        obtain ⟨rfl, -⟩ : r' = x ∧ post' = mid ++ r :: post := by simpa using hmid
        exact absurd (by simp) hr'
  all_goals simp [hdead.2 p hp] at hv

theorem not_doomed_of_deadlocked (hret : fx.Returns) (h : Consistent snap plugins queue st)
    (hdead : Deadlocked (visitPlugin fx snap.systemNames) queue st)
    (hp : Doomed (snap.problem plugins) p) : p ∉ queue := by
  induction hp with
  | @snapshot p pre r post hreq hup hbad =>
    intro hq
    obtain ⟨hknown, hnotFailed⟩ := h.reached_of_deadlocked hret hdead hq hreq hup
    exact hbad.elim (· hknown) fun hf => hnotFailed (h.failedKept r hf)
  | @cascade p b pre post hreq hup hb hdoomed _ ih =>
    intro hq
    obtain ⟨_, hnotFailed⟩ := h.reached_of_deadlocked hret hdead hq hreq hup
    rcases h.handled b hb with hin | hf | ⟨hstart, _⟩
    · exact ih hin
    · exact hnotFailed hf
    · exact hdoomed.not_canStart hstart

end Consistent

theorem visitPlugin_ne_abort (hret : fx.Returns) (systemNames : List String) (st : Progress W)
    (p : LocalPluginRunner) (e : ε) (st' : Progress W) :
    visitPlugin fx systemNames st p ≠ .abort e st' := by
  rcases visitPlugin_cases fx systemNames hret st p with
    ⟨hv, _⟩ | ⟨_, hv, _⟩ | ⟨_, hv, _⟩ | ⟨_, hv, _⟩ <;> simp [hv]

theorem startMultiplePlugins_eq_run (fuel : ℕ) (order : List LocalPluginRunner) (world : W) :
    startMultiplePlugins fx snap fuel order world =
      run (visitPlugin fx snap.systemNames) fuel order.reverse (snap.progress world) :=
  whileLoop_eq_run fx snap.systemNames fuel order (snap.progress world)

/-- If every plugin can start or is doomed, the loop ends on every arrangement
of the list and for all results of `start_plugin`. -/
theorem loopEnds_of_decided (hret : fx.Returns)
    (hdecided : ∀ p ∈ plugins, Decided (snap.problem plugins) p)
    {order : List LocalPluginRunner} (horder : order.Perm plugins) (world : W) :
    LoopEnds fx snap order world := by
  have hinit : Consistent snap plugins order.reverse (snap.progress world) :=
    .initial _ (fun p => by rw [List.mem_reverse, horder.mem_iff]) world
  have hlive : ∀ queue st, Reaches (visitPlugin fx snap.systemNames) order.reverse
      (snap.progress world) queue st →
      ¬ Deadlocked (visitPlugin fx snap.systemNames) queue st := by
    intro queue st hreach hdead
    have h := hinit.reaches hret hreach
    obtain ⟨p, hp⟩ := List.exists_mem_of_ne_nil _ hdead.1
    rcases hdecided p (h.listed p hp) with hstart | hdoomed
    · exact h.not_canStart_of_deadlocked hret hdead hstart hp
    · exact h.not_doomed_of_deadlocked hret hdead hdoomed hp
  obtain ⟨fuel, r, hr⟩ := ends_of_never_deadlocked hlive
  obtain ⟨st, rfl⟩ := finished_of_never_aborts (visitPlugin_ne_abort hret snap.systemNames) hr
  exact ⟨fuel, st, (startMultiplePlugins_eq_run fuel order world).trans hr⟩

/-- What keeps the undecided plugin `p` in the queue for ever. -/
structure Waiting (snap : Snapshot) (plugins : List LocalPluginRunner) (p : LocalPluginRunner)
    (queue : List LocalPluginRunner) (st : Progress W) : Prop where
  waits : p ∈ queue
  listed : ∀ a ∈ queue, a ∈ plugins
  failedKept : ∀ r ∈ snap.failedSystemNames, r ∈ st.failedSystemNames
  failedDoomed : ∀ r ∈ st.failedSystemNames, r ∈ snap.failedSystemNames ∨
    ∃ a ∈ plugins, a.system.name = r ∧ Doomed (snap.problem plugins) a
  startedUp : ∀ r ∈ st.startedPluginNames, Up (snap.problem plugins) r
  apart : (∀ a ∈ queue, ¬ CanStart (snap.problem plugins) a) ∨ Unmixed snap plugins

namespace Waiting

variable {queue : List LocalPluginRunner} {st : Progress W} {p a : LocalPluginRunner}

theorem canStart_of_ready (h : Waiting snap plugins p queue st)
    (hready : st.Ready snap.systemNames a) : CanStart (snap.problem plugins) a := by
  refine canStart_iff.mpr fun r hr => ?_
  obtain ⟨hknown, hfailed, hstarted⟩ := hready r hr
  exact ⟨hknown, fun hf => hfailed (h.failedKept r hf), h.startedUp r hstarted⟩

theorem doomed_of_blocked (h : Waiting snap plugins p queue st) (ha : a ∈ queue)
    (hblocked : st.Blocked snap.systemNames a) : Doomed (snap.problem plugins) a := by
  obtain ⟨pre, r, post, hreq, hmet, hbad⟩ := hblocked
  have hup : ∀ x ∈ pre, Up (snap.problem plugins) x := fun x hx => h.startedUp x (hmet x hx).2.2
  rcases hbad with hmissing | hf
  · exact .snapshot hreq hup (.inl hmissing)
  · rcases h.failedDoomed r hf with hf | ⟨b, hb, rfl, hdoomed⟩
    · exact .snapshot hreq hup (.inr hf)
    · refine .cascade (P := snap.problem plugins) hreq hup hb hdoomed fun hstart => ?_
      rcases h.apart with hno | hunmixed
      · exact hno a ha hstart
      · exact hunmixed b hb hdoomed (canStart_iff.mp hstart b.system.name (by
          simp [Snapshot.problem, hreq])).2.2

theorem rotate (h : Waiting snap plugins p (a :: queue) st) :
    Waiting snap plugins p (queue ++ [a]) st where
  waits := by simpa [or_comm] using h.waits
  listed b hb := h.listed b (by simpa [or_comm] using hb)
  failedKept := h.failedKept
  failedDoomed := h.failedDoomed
  startedUp := h.startedUp
  apart := h.apart.imp_left fun hno b hb => hno b (by simpa [or_comm] using hb)

theorem tail (h : Waiting snap plugins p (a :: queue) st) (hne : p ≠ a) :
    Waiting snap plugins p queue st where
  waits := (List.mem_cons.mp h.waits).resolve_left hne
  listed b hb := h.listed b (List.mem_cons_of_mem _ hb)
  failedKept := h.failedKept
  failedDoomed := h.failedDoomed
  startedUp := h.startedUp
  apart := h.apart.imp_left fun hno b hb => hno b (List.mem_cons_of_mem _ hb)

/-- A plugin that is not `p` may settle; `p` itself is put back. -/
theorem step (hret : fx.Returns) (hstarts : fx.AlwaysStarts)
    (hp : ¬ Decided (snap.problem plugins) p) (h : Waiting snap plugins p (a :: queue) st) :
    (∃ st', visitPlugin fx snap.systemNames st a = .settle st' ∧
        Waiting snap plugins p queue st') ∨
      (visitPlugin fx snap.systemNames st a = .defer ∧
        Waiting snap plugins p (queue ++ [a]) st) := by
  have ha : a ∈ plugins := h.listed a List.mem_cons_self
  rcases visitPlugin_cases fx snap.systemNames hret st a with
    ⟨hv, _⟩ | ⟨world, hv, hready⟩ | ⟨_, _, _, hcall⟩ | ⟨world, hv, hblocked⟩
  · exact .inr ⟨hv, h.rotate⟩
  · have hstart := h.canStart_of_ready hready
    have htail := h.tail fun hpa => hp (.inl (hpa ▸ hstart))
    refine .inl ⟨_, hv, { htail with startedUp := fun r hr => ?_ }⟩
    rcases List.mem_append.mp hr with hr | hr
    · exact h.startedUp r hr
    · exact List.mem_singleton.mp hr ▸ .inr ⟨a, ha, rfl, hstart⟩
  · simp [hstarts a st.world] at hcall
  · have hdoomed := h.doomed_of_blocked List.mem_cons_self hblocked
    have htail := h.tail fun hpa => hp (.inr (hpa ▸ hdoomed))
    refine .inl ⟨_, hv, { htail with failedKept := fun r hr => ?_, failedDoomed := fun r hr => ?_ }⟩
    · exact List.mem_append_left _ (h.failedKept r hr)
    · rcases List.mem_append.mp hr with hr | hr
      · exact h.failedDoomed r hr
      · exact .inr ⟨a, ha, (List.mem_singleton.mp hr).symm, hdoomed⟩

theorem never_ends (hret : fx.Returns) (hstarts : fx.AlwaysStarts)
    (hp : ¬ Decided (snap.problem plugins) p) (h : Waiting snap plugins p queue st)
    (fuel : ℕ) : run (visitPlugin fx snap.systemNames) fuel queue st = none :=
  never_ends_of_invariant (I := Waiting snap plugins p)
    (fun _ _ _ h => h.step hret hstarts hp) (fun _ h => by simpa using h.waits) h fuel

end Waiting

/-- Started one after the other, the plugins of a start order leave the failed
names as they were and bring up only their own names. -/
theorem reaches_of_startOrder (hret : fx.Returns) (hstarts : fx.AlwaysStarts)
    {order started : List LocalPluginRunner} (rest : List LocalPluginRunner) {st : Progress W}
    (horder : StartOrder (snap.problem plugins) started order)
    (hfailed : st.failedSystemNames = snap.failedSystemNames)
    (hstarted : ∀ r, r ∈ st.startedPluginNames ↔
      r ∈ snap.runningSystemNames ∨ ∃ b ∈ started, b.system.name = r) :
    ∃ st', Reaches (visitPlugin fx snap.systemNames) (order ++ rest) st rest st' ∧
      st'.failedSystemNames = snap.failedSystemNames ∧
      ∀ r, r ∈ st'.startedPluginNames ↔
        r ∈ snap.runningSystemNames ∨ ∃ b ∈ started ++ order, b.system.name = r := by
  induction order generalizing started st with
  | nil => exact ⟨st, .start, hfailed, by simpa using hstarted⟩
  | cons a order ih =>
    obtain ⟨hready, horder⟩ := horder
    have hmet : st.Ready snap.systemNames a := by
      intro r hr
      obtain ⟨hknown, hnotFailed, hup⟩ := hready r hr
      exact ⟨hknown, hfailed ▸ hnotFailed, (hstarted r).mpr hup⟩
    obtain ⟨world, hv⟩ : ∃ world,
        visitPlugin fx snap.systemNames st a = .settle (st.started a world) := by
      rcases visitPlugin_cases fx snap.systemNames hret st a with
        ⟨_, pre, r, post, hreq, _, hwait⟩ | ⟨world, hv, _⟩ | ⟨_, _, _, hcall⟩ |
          ⟨_, _, pre, r, post, hreq, _, hbad⟩
      · exact absurd (hmet r (by simp [hreq])).2.2 hwait.2.2
      · exact ⟨world, hv⟩
      · simp [hstarts a st.world] at hcall
      · obtain ⟨hknown, hnotFailed, _⟩ := hmet r (by simp [hreq])
        exact hbad.elim (absurd hknown) (absurd · hnotFailed)
    obtain ⟨st', hreach, hfailed', hstarted'⟩ :=
      @ih (started ++ [a]) (st.started a world) horder hfailed fun r => by
        simp only [Progress.started, List.mem_append, hstarted r, List.mem_singleton,
          or_and_right, exists_or, exists_eq_left, or_assoc, @eq_comm _ r]
    exact ⟨st', (Reaches.start.settle hv).trans hreach, hfailed',
      fun r => by simpa using hstarted' r⟩

/-- Every plugin of the list can start or is doomed. -/
def NoneWaits (snap : Snapshot) (plugins : List LocalPluginRunner) : Prop :=
  ∀ p ∈ plugins, Decided (snap.problem plugins) p

/-- An undecided plugin is put back for ever on some arrangement of the list:
first, at its end, what can start, in a start order, then all the others. -/
theorem exists_endless_order (hret : fx.Returns) (hstarts : fx.AlwaysStarts)
    {p : LocalPluginRunner} (hp : p ∈ plugins) (hwaits : ¬ Decided (snap.problem plugins) p)
    (world : W) : ∃ order, order.Perm plugins ∧ ¬ LoopEnds fx snap order world := by
  classical
  let others := plugins.filter fun a => !decide (CanStart (snap.problem plugins) a)
  obtain ⟨order, hperm, horder⟩ := exists_startOrder (P := snap.problem plugins) []
    (plugins.filter fun a => decide (CanStart (snap.problem plugins) a))
    (fun b hb hstart => .inr (List.mem_filter.mpr ⟨hb, by simpa using hstart⟩))
    (fun b hb => by simpa using (List.mem_filter.mp hb).2)
  obtain ⟨st, hreach, hfailed, hstarted⟩ := @reaches_of_startOrder _ _ _ _ _ hret hstarts _ _
    others (snap.progress world) horder rfl (fun r => by simp [Snapshot.progress])
  have hwaiting : Waiting snap plugins p others st :=
    { waits := List.mem_filter.mpr ⟨hp, by simpa using fun h => hwaits (.inl h)⟩
      listed := fun a ha => (List.mem_filter.mp ha).1
      failedKept := fun r hr => hfailed ▸ hr
      failedDoomed := fun r hr => .inl (hfailed ▸ hr)
      startedUp := fun r hr => by
        rcases (hstarted r).mp hr with hrun | ⟨b, hb, rfl⟩
        · exact .inl hrun
        · obtain ⟨hb, hstart⟩ := List.mem_filter.mp (hperm.mem_iff.mp (by simpa using hb))
          exact .inr ⟨b, hb, rfl, by simpa using hstart⟩
      apart := .inl fun a ha => by simpa using (List.mem_filter.mp ha).2 }
  refine ⟨(order ++ others).reverse, ?_, ?_⟩
  · exact (List.reverse_perm _).trans
      ((hperm.append_right others).trans (List.filter_append_perm _ plugins))
  · rintro ⟨fuel, st', hend⟩
    rw [startMultiplePlugins_eq_run, List.reverse_reverse] at hend
    obtain ⟨fuel', hend'⟩ := hreach.run_rest hend
    simp [hwaiting.never_ends hret hstarts hwaits fuel'] at hend'

/-- When no name is mixed, an undecided plugin is put back for ever wherever
the list has it. -/
theorem not_loopEnds_of_unmixed (hret : fx.Returns) (hstarts : fx.AlwaysStarts)
    (hunmixed : Unmixed snap plugins) {p : LocalPluginRunner} (hp : p ∈ plugins)
    (hwaits : ¬ Decided (snap.problem plugins) p) (world : W) :
    ¬ LoopEnds fx snap plugins world := by
  have hwaiting : Waiting snap plugins p plugins.reverse (snap.progress world) :=
    { waits := List.mem_reverse.mpr hp
      listed := fun a ha => List.mem_reverse.mp ha
      failedKept := fun r hr => hr
      failedDoomed := fun r hr => .inl hr
      startedUp := fun r hr => .inl hr
      apart := .inr hunmixed }
  rintro ⟨fuel, st, hend⟩
  rw [startMultiplePlugins_eq_run, hwaiting.never_ends hret hstarts hwaits fuel] at hend
  simp at hend

def Progress.names (st : Progress W) : Names String where
  failed r := r ∈ st.failedSystemNames
  up r := r ∈ st.startedPluginNames

theorem Progress.names_started (st : Progress W) (p : LocalPluginRunner) (world : W) :
    (st.started p world).names = st.names.settle p.system.name true := by
  simp [names, started, Names.settle, eq_comm]

theorem Progress.names_failed (st : Progress W) (p : LocalPluginRunner) (world : W) :
    (st.failed p world).names = st.names.settle p.system.name false := by
  simp [names, failed, Names.settle, eq_comm]

theorem visitPlugin_follows (hret : fx.Returns) (hstarts : fx.AlwaysStarts) :
    Follows (snap.problem plugins) id (Progress.names (W := W))
      (visitPlugin fx snap.systemNames) := by
  intro st p
  rcases visitPlugin_cases fx snap.systemNames hret st p with
    ⟨hv, hwaits⟩ | ⟨world, hv, hready⟩ | ⟨_, _, _, hcall⟩ | ⟨world, hv, hblocked⟩
  · exact .inr ⟨hwaits, hv⟩
  · exact .inl ⟨true, _, hready, hv, st.names_started p world⟩
  · simp [hstarts p st.world] at hcall
  · exact .inl ⟨false, _, hblocked, hv, st.names_failed p world⟩

/-- The loop ends exactly when there is a timetable for the plugins in the order
in which they are popped, and on every arrangement of them exactly when each can
start or is doomed; the latter suffices whatever `start_plugin` returns. -/
theorem startMultiplePlugins_ends_iff (snap : Snapshot) (plugins : List LocalPluginRunner)
    (hret : fx.Returns) (world : W) :
    (NoneWaits snap plugins → ∀ order, order.Perm plugins → LoopEnds fx snap order world) ∧
      (fx.AlwaysStarts →
        (LoopEnds fx snap plugins world ↔
          HasTimetable (snap.problem plugins) plugins.reverse) ∧
        ((∀ order, order.Perm plugins → LoopEnds fx snap order world) ↔
          NoneWaits snap plugins)) := by
  refine ⟨fun h order hperm => loopEnds_of_decided hret h hperm world, fun hstarts =>
    ⟨?_, fun hends p hp => ?_, fun h order hperm => loopEnds_of_decided hret h hperm world⟩⟩
  · unfold LoopEnds
    simp only [startMultiplePlugins_eq_run]
    exact ends_iff_hasTimetable (visitPlugin_follows hret hstarts) plugins.reverse rfl
  · by_contra hwaits
    obtain ⟨order, hperm, hno⟩ := exists_endless_order hret hstarts hp hwaits world
    exact hno (hends order hperm)

/-- Every start succeeds, every mark is stored, and nothing else happens. -/
def quietEffects : Effects Unit Empty where
  startPlugin _ world := (.ok true, world)
  markAsFailed _ world := (.ok (), world)

theorem quietEffects_returns : quietEffects.Returns :=
  ⟨fun _ _ => ⟨true, rfl⟩, fun _ _ => rfl⟩

/-- Two versions of `db`, of which the second cannot start. -/
def mixedPlugins : List LocalPluginRunner :=
  [singlePlugin "job" ["web", "job"], singlePlugin "web" ["db"], singlePlugin "db" [],
    { singlePlugin "db" ["lost"] with system := ⟨1, "db", "2.0", [⟨1, "default"⟩]⟩ }]

/-- That version is popped first, and the others fail on its name, although `job`,
which requires itself, neither can start nor is doomed. -/
theorem startMultiplePlugins_ends_mixed :
    LoopEnds quietEffects ⟨["job", "web", "db"], [], []⟩ mixedPlugins () := by
  refine ((startMultiplePlugins_ends_iff _ _ quietEffects_returns ()).2 fun _ _ => rfl).1.mpr
    ⟨⟨fun _ => 0, fun i => i.val == 1⟩, fun i => i.pos, fun i => ⟨le_rfl, nofun, ?_⟩⟩
  fin_cases i
  · exact ⟨[], "lost", [], rfl, by simp, .inl (by simp [Snapshot.problem])⟩
  · exact fun r hr => absurd hr List.not_mem_nil
  · exact ⟨[], "db", [], rfl, by simp,
      .inr (.inr ⟨⟨0, by decide⟩, List.mem_finRange _, .inr ⟨rfl, by decide⟩, rfl, rfl⟩)⟩
  · exact ⟨[], "web", ["job"], rfl, by simp,
      .inr (.inr ⟨⟨2, by decide⟩, List.mem_finRange _, .inr ⟨rfl, by decide⟩, rfl, rfl⟩)⟩

/-- A system that is stored but neither running nor dead, and requires itself. -/
theorem startMultiplePlugins_endless :
    quietEffects.Returns ∧ ∀ fuel,
      startMultiplePlugins quietEffects
        (.read [⟨"loop", "1.0", [("default", .initializing)]⟩]
          [⟨"loop", "1.0", [("default", .initializing)]⟩]
          [⟨"loop", "1.0", [("default", .initializing)]⟩])
        fuel [singlePlugin "loop" ["loop"]] () = none := by
  refine ⟨quietEffects_returns, fun fuel => ?_⟩
  rw [startMultiplePlugins_eq_run]
  refine never_ends_of_deadlocked ⟨by simp, fun a ha => ?_⟩ fuel
  obtain rfl : a = singlePlugin "loop" ["loop"] := by simpa using ha
  rfl

/-- What the calls made so far say about the plugins they were made on, when
every start succeeds. -/
structure History (snap : Snapshot) (plugins queue : List LocalPluginRunner)
    (st : Progress W) : Prop extends Consistent snap plugins queue st where
  once : (st.calls.map Call.plugin ++ queue).Perm plugins
  startedCanStart : ∀ p, .startPlugin p ∈ st.calls → CanStart (snap.problem plugins) p
  markedFails : ∀ p, .markAsFailed p ∈ st.calls → Fails (snap.problem plugins) p
  failedFails : ∀ r ∈ st.failedSystemNames, r ∈ snap.failedSystemNames ∨
    ∃ a ∈ plugins, a.system.name = r ∧ Fails (snap.problem plugins) a

namespace History

variable {queue : List LocalPluginRunner} {st : Progress W} {p : LocalPluginRunner}

theorem fails_of_blocked (h : History snap plugins queue st)
    (hblocked : st.Blocked snap.systemNames p) : Fails (snap.problem plugins) p := by
  obtain ⟨pre, r, post, hreq, _, hbad⟩ := hblocked
  have hr : r ∈ p.requirements := by simp [hreq]
  rcases hbad with hmissing | hf
  · exact .snapshot hr (.inl hmissing)
  · rcases h.failedFails r hf with hf | ⟨b, hb, rfl, hfails⟩
    · exact .snapshot hr (.inr hf)
    · exact .cascade (P := snap.problem plugins) hr hb hfails

theorem settle (hret : fx.Returns) (hstarts : fx.AlwaysStarts)
    (h : History snap plugins (p :: queue) st) {st' : Progress W}
    (hv : visitPlugin fx snap.systemNames st p = .settle st') :
    History snap plugins queue st' := by
  have hnext := h.toConsistent.settle hret hv
  have hmem : p ∈ plugins := h.listed p List.mem_cons_self
  rcases visitPlugin_cases fx snap.systemNames hret st p with
    ⟨hvisit, _⟩ | ⟨world, hvisit, hready⟩ | ⟨_, _, _, hcall⟩ | ⟨world, hvisit, hblocked⟩
  · simp [hvisit] at hv
  · obtain rfl : st.started p world = st' := by simpa [hvisit] using hv
    refine ⟨hnext, ?_, fun a ha => ?_, fun a ha => ?_, h.failedFails⟩
    · simpa [Progress.started, Call.plugin] using h.once
    · rcases List.mem_append.mp ha with ha | ha
      · exact h.startedCanStart a ha
      · obtain rfl : a = p := by simpa using ha
        exact h.canStart_of_ready hready
    · exact h.markedFails a (by simpa [Progress.started] using ha)
  · simp [hstarts p st.world] at hcall
  · obtain rfl : st.failed p world = st' := by simpa [hvisit] using hv
    have hfails := h.fails_of_blocked hblocked
    refine ⟨hnext, ?_, fun a ha => ?_, fun a ha => ?_, fun r hr => ?_⟩
    · simpa [Progress.failed, Call.plugin] using h.once
    · exact h.startedCanStart a (by simpa [Progress.failed] using ha)
    · rcases List.mem_append.mp ha with ha | ha
      · exact h.markedFails a ha
      · obtain rfl : a = p := by simpa using ha
        exact hfails
    · rcases List.mem_append.mp hr with hr | hr
      · exact h.failedFails r hr
      · exact .inr ⟨p, hmem, (List.mem_singleton.mp hr).symm, hfails⟩

theorem rotate (h : History snap plugins (p :: queue) st) :
    History snap plugins (queue ++ [p]) st where
  toConsistent := h.toConsistent.rotate
  once := by
    refine .trans ?_ h.once
    exact List.Perm.append_left _ (List.perm_append_singleton p queue)
  startedCanStart := h.startedCanStart
  markedFails := h.markedFails
  failedFails := h.failedFails

end History

theorem exists_history (hret : fx.Returns) (hstarts : fx.AlwaysStarts)
    (hnone : NoneWaits snap plugins) {order : List LocalPluginRunner}
    (horder : order.Perm plugins) (world : W) :
    ∃ fuel st, startMultiplePlugins fx snap fuel order world = some (.finished st) ∧
      History snap plugins [] st := by
  obtain ⟨fuel, st, hend⟩ := loopEnds_of_decided hret hnone horder world
  refine ⟨fuel, st, hend, ?_⟩
  have hinit : History snap plugins order.reverse (snap.progress world) :=
    { toConsistent := .initial _ (fun p => by rw [List.mem_reverse, horder.mem_iff]) world
      once := (List.reverse_perm order).trans horder
      startedCanStart := fun p hp => by simp [Snapshot.progress] at hp
      markedFails := fun p hp => by simp [Snapshot.progress] at hp
      failedFails := fun r hr => .inl hr }
  rw [startMultiplePlugins_eq_run] at hend
  exact (reaches_of_finished hend).invariant hinit (fun _ _ _ _ h hv => h.settle hret hstarts hv)
    (fun _ _ _ h _ => h.rotate)

theorem count_calls (calls : List Call) (p : LocalPluginRunner) :
    calls.count (.startPlugin p) + calls.count (.markAsFailed p) =
      (calls.map Call.plugin).count p := by
  induction calls with
  | nil => rfl
  | cons c calls ih =>
    cases c with
    | startPlugin q =>
      by_cases hq : q = p <;> simp [Call.plugin, hq] <;> omega
    | markAsFailed q =>
      by_cases hq : q = p <;> simp [Call.plugin, hq] <;> omega

namespace History

variable {st : Progress W} {p : LocalPluginRunner}

theorem count_eq_one (h : History snap plugins [] st) (hdistinct : plugins.Nodup)
    (hp : p ∈ plugins) :
    st.calls.count (.startPlugin p) + st.calls.count (.markAsFailed p) = 1 := by
  have hperm : (st.calls.map Call.plugin).Perm plugins := by simpa using h.once
  rw [count_calls, hperm.count_eq, List.count_eq_one_of_mem hdistinct hp]

theorem plugin_mem (h : History snap plugins [] st) {c : Call} (hc : c ∈ st.calls) :
    c.plugin ∈ plugins := by
  have hperm : (st.calls.map Call.plugin).Perm plugins := by simpa using h.once
  exact hperm.mem_iff.mp (List.mem_map_of_mem hc)

theorem markAsFailed_iff (h : History snap plugins [] st) (hdistinct : plugins.Nodup)
    (huniform : Uniform (snap.problem plugins)) (hfresh : Fresh (snap.problem plugins)) :
    .markAsFailed p ∈ st.calls ↔ p ∈ plugins ∧ Fails (snap.problem plugins) p := by
  refine ⟨fun hc => ⟨h.plugin_mem hc, h.markedFails p hc⟩, fun ⟨hp, hfails⟩ => ?_⟩
  by_contra hno
  have hcount := h.count_eq_one hdistinct hp
  rw [List.count_eq_zero_of_not_mem hno] at hcount
  have hstarted : .startPlugin p ∈ st.calls := List.count_pos_iff.mp (by omega)
  exact (h.startedCanStart p hstarted).not_fails huniform hfresh hfails

theorem startPlugin_iff (h : History snap plugins [] st) (hdistinct : plugins.Nodup)
    (huniform : Uniform (snap.problem plugins)) (hfresh : Fresh (snap.problem plugins)) :
    .startPlugin p ∈ st.calls ↔ p ∈ plugins ∧ ¬ Fails (snap.problem plugins) p := by
  refine ⟨fun hc => ⟨h.plugin_mem hc, (h.startedCanStart p hc).not_fails huniform hfresh⟩,
    fun ⟨hp, hno⟩ => ?_⟩
  have hcount := h.count_eq_one hdistinct hp
  rw [List.count_eq_zero_of_not_mem fun hc => hno (h.markedFails p hc)] at hcount
  exact List.count_pos_iff.mp (by omega)

end History

/-- On distinct plugins with acyclic requirements, same-named ones alike, none
of whose names is running yet and all of whose requirements are accounted for,
the loop ends, handles every plugin exactly once, and marks as failed exactly
the least set closed under failure; so every arrangement of the list makes the
same calls. -/
theorem startMultiplePlugins_acyclic (snap : Snapshot) (plugins : List LocalPluginRunner)
    (hret : fx.Returns) (hstarts : fx.AlwaysStarts)
    (hdistinct : plugins.Nodup) (huniform : Uniform (snap.problem plugins))
    (hfresh : Fresh (snap.problem plugins)) (hacyclic : Acyclic (snap.problem plugins))
    (hclosed : Closed (snap.problem plugins)) (world : W) :
    ∃ fuel st, startMultiplePlugins fx snap fuel plugins world = some (.finished st) ∧
      (∀ c ∈ st.calls, c.plugin ∈ plugins) ∧
      (∀ p ∈ plugins,
        (st.calls.count (.startPlugin p) = 1 ∧ st.calls.count (.markAsFailed p) = 0) ∨
        (st.calls.count (.startPlugin p) = 0 ∧ st.calls.count (.markAsFailed p) = 1)) ∧
      (∀ p ∈ plugins, .markAsFailed p ∈ st.calls ↔ Fails (snap.problem plugins) p) ∧
      (∀ p ∈ plugins, .markAsFailed p ∈ st.calls ↔ ∃ r ∈ p.requirements,
        r ∉ snap.systemNames ∨ r ∈ snap.failedSystemNames ∨
          ∃ q ∈ plugins, q.system.name = r ∧ .markAsFailed q ∈ st.calls) ∧
      ∀ order, order.Perm plugins → ∃ fuel' st',
        startMultiplePlugins fx snap fuel' order world = some (.finished st') ∧
        ∀ c, c ∈ st'.calls ↔ c ∈ st.calls := by
  have hnone : NoneWaits snap plugins := decided_of_acyclic hacyclic hclosed
  obtain ⟨fuel, st, hend, h⟩ := exists_history hret hstarts hnone (.refl plugins) world
  have hmarked : ∀ p ∈ plugins, .markAsFailed p ∈ st.calls ↔ Fails (snap.problem plugins) p :=
    fun p hp => (h.markAsFailed_iff hdistinct huniform hfresh).trans (and_iff_right hp)
  refine ⟨fuel, st, hend, fun c hc => h.plugin_mem hc, fun p hp => ?_, hmarked, fun p hp => ?_,
    fun order horder => ?_⟩
  · have := h.count_eq_one hdistinct hp
    omega
  · rw [hmarked p hp]
    constructor
    · intro hfails
      cases hfails with
      | snapshot hr hbad => exact ⟨_, hr, hbad.imp_right .inl⟩
      | cascade hr hb hf => exact ⟨_, hr, .inr (.inr ⟨_, hb, rfl, (hmarked _ hb).mpr hf⟩)⟩
    · rintro ⟨r, hr, hmissing | hf | ⟨q, hq, rfl, hf⟩⟩
      · exact .snapshot hr (.inl hmissing)
      · exact .snapshot hr (.inr hf)
      · exact .cascade (P := snap.problem plugins) hr hq ((hmarked q hq).mp hf)
  · obtain ⟨fuel', st', hend', h'⟩ := exists_history hret hstarts hnone horder world
    refine ⟨fuel', st', hend', fun c => ?_⟩
    cases c with
    | startPlugin p =>
      rw [h'.startPlugin_iff hdistinct huniform hfresh, h.startPlugin_iff hdistinct huniform hfresh]
    | markAsFailed p =>
      rw [h'.markAsFailed_iff hdistinct huniform hfresh,
        h.markAsFailed_iff hdistinct huniform hfresh]

theorem startMultiplePlugins_acyclic_chain :
    ∃ fuel st, startMultiplePlugins quietEffects ⟨["web", "db"], [], []⟩ fuel
      [singlePlugin "web" ["db"], singlePlugin "db" [], singlePlugin "job" ["lost"]] () =
        some (.finished st) ∧
      .markAsFailed (singlePlugin "job" ["lost"]) ∈ st.calls := by
  have hacyclic : Acyclic (Snapshot.problem ⟨["web", "db"], [], []⟩
      [singlePlugin "web" ["db"], singlePlugin "db" [], singlePlugin "job" ["lost"]]) :=
    acyclic_of_rank (fun name => if name = "web" then 1 else 0) fun x y hxy => by
      simp [NameRequires, Snapshot.problem, singlePlugin] at hxy
      obtain ⟨⟨rfl, rfl⟩ | ⟨rfl, rfl⟩, h⟩ := hxy <;> simp_all
  obtain ⟨fuel, st, hend, -, -, hmarked, -⟩ :=
    startMultiplePlugins_acyclic ⟨["web", "db"], [], []⟩
      [singlePlugin "web" ["db"], singlePlugin "db" [], singlePlugin "job" ["lost"]]
      quietEffects_returns (fun _ _ => rfl) (by decide)
      (by simp [Uniform, Snapshot.problem, singlePlugin])
      (by simp [Fresh, Snapshot.problem, singlePlugin]) hacyclic
      (by simp [Closed, Snapshot.problem, singlePlugin]) ()
  exact ⟨fuel, st, hend, (hmarked _ (by simp)).mpr
    (.snapshot (r := "lost") (by simp [Snapshot.problem, singlePlugin])
      (.inl (by simp [Snapshot.problem])))⟩

end Bartender
