import Bartender.Plugins.StartHistory

/-!
# A requirement that is there in several versions

Requirements are names, and the lists that `_start_multiple_plugins` reads from
the database are of names as well, although each version of a system adds its
own. A name that is running in one version has failed in another one whose
instances are all `DEAD`, and for that it is enough to have no instance. The
loop asks for the failed names first.
-/

namespace Bartender

open RotatingQueue

variable {W ε : Type*}

def Makes (fx : Effects W ε) (snap : Snapshot) (plugins : List LocalPluginRunner) (world : W)
    (call : Call) : Prop :=
  ∃ st, Meets fx snap plugins world st ∧ call ∈ st.calls

/-- A version of the required system is there, with every instance running. -/
def Satisfied (systems : List StoredSystem) (required : String) : Prop :=
  ∃ s ∈ systems, s.name = required ∧ s.instances ≠ [] ∧ ∀ i ∈ s.instances, i.2 = .running

theorem mem_getFailedSystemNames {systems : List StoredSystem} {name : String} :
    name ∈ getFailedSystemNames systems ↔
      ∃ s ∈ systems, s.name = name ∧ ∀ i ∈ s.instances, i.2 = .dead := by
  simp only [getFailedSystemNames, List.mem_map, List.mem_filter, List.all_eq_true, beq_iff_eq]
  constructor
  · rintro ⟨s, ⟨hs, hdead⟩, hname⟩
    exact ⟨s, hs, hname, hdead⟩
  · rintro ⟨s, hs, hname, hdead⟩
    exact ⟨s, ⟨hs, hdead⟩, hname⟩

theorem Satisfied.mem_getRunningSystemNames {systems : List StoredSystem} {required : String}
    (h : Satisfied systems required) : required ∈ getRunningSystemNames systems := by
  obtain ⟨s, hs, rfl, -, hrunning⟩ := h
  exact List.mem_map_of_mem (List.mem_filter.mpr ⟨hs, by simpa using hrunning⟩)

theorem Satisfied.mem_getAllSystemNames {systems : List StoredSystem} {required : String}
    (h : Satisfied systems required) : required ∈ getAllSystemNames systems := by
  obtain ⟨s, hs, rfl, -⟩ := h
  exact List.mem_map_of_mem hs

/-- What the loop keeps of the lists it starts with. -/
structure Keeps (snap : Snapshot) (plugins queue : List LocalPluginRunner) (st : Progress W) :
    Prop where
  listed : ∀ p ∈ queue, p ∈ plugins
  failedKept : ∀ r ∈ snap.failedSystemNames, r ∈ st.failedSystemNames
  failed : ∀ r ∈ st.failedSystemNames,
    r ∈ snap.failedSystemNames ∨ ∃ q ∈ plugins, q.system.name = r
  started : ∀ r ∈ snap.runningSystemNames, r ∈ st.startedPluginNames

section Keeps

variable {fx : Effects W ε} {snap : Snapshot} {plugins queue : List LocalPluginRunner}
  {st st' : Progress W} {p : LocalPluginRunner} {world : W}

theorem Keeps.initial : Keeps snap plugins plugins.reverse (snap.progress world) where
  listed _ hp := List.mem_reverse.mp hp
  failedKept _ hr := hr
  failed _ hr := .inl hr
  started _ hr := hr

theorem Keeps.rotate (h : Keeps snap plugins (p :: queue) st) :
    Keeps snap plugins (queue ++ [p]) st :=
  { h with listed := fun q hq => h.listed q (by simpa [or_comm] using hq) }

theorem Keeps.settle (h : Keeps snap plugins (p :: queue) st)
    (hv : visitPlugin fx snap.systemNames st p = .settle st') : Keeps snap plugins queue st' := by
  obtain ⟨hp, hqueue⟩ := List.forall_mem_cons.mp h.listed
  have hfailed : ∀ r ∈ st.failedSystemNames ++ [p.system.name],
      r ∈ snap.failedSystemNames ∨ ∃ q ∈ plugins, q.system.name = r := by
    intro r hr
    rcases List.mem_append.mp hr with hr | hr
    · exact h.failed r hr
    · exact .inr ⟨p, hp, (List.mem_singleton.mp hr).symm⟩
  rcases visitPlugin_eq_settle _ _ hv with ⟨result, world, -, -, rfl⟩ | ⟨world, -, -, rfl⟩
  · cases result with
    | true => exact ⟨hqueue, h.failedKept, h.failed,
        fun r hr => List.mem_append_left _ (h.started r hr)⟩
    | false => exact ⟨hqueue, fun r hr => List.mem_append_left _ (h.failedKept r hr), hfailed,
        h.started⟩
  · exact ⟨hqueue, fun r hr => List.mem_append_left _ (h.failedKept r hr), hfailed, h.started⟩

theorem Keeps.of_reaches (hreach : Reaches (visitPlugin fx snap.systemNames) plugins.reverse
    (snap.progress world) queue st) : Keeps snap plugins queue st :=
  hreach.invariant (I := fun queue st => Keeps snap plugins queue st) .initial
    (fun _ _ _ _ h hv => h.settle hv) (fun _ _ _ h _ => h.rotate)

/-- A round that calls `start_plugin`, or `_mark_as_failed`, records the call
whatever comes of it. -/
theorem makes_of_visit {call : Call} (hreach : Reaches (visitPlugin fx snap.systemNames)
      plugins.reverse (snap.progress world) (p :: queue) st)
    (hvisit : (∃ st', visitPlugin fx snap.systemNames st p = .settle st' ∧ call ∈ st'.calls) ∨
      ∃ e st', visitPlugin fx snap.systemNames st p = .abort e st' ∧ call ∈ st'.calls) :
    Makes fx snap plugins world call := by
  rcases hvisit with ⟨st', hv, hcall⟩ | ⟨e, st', hv, hcall⟩
  · exact ⟨st', .round (hreach.settle hv), hcall⟩
  · have hend : run (visitPlugin fx snap.systemNames) 1 (p :: queue) st =
        some (.aborted e st') := run_succ_abort hv
    obtain ⟨fuel, hrun⟩ := hreach.run_eq hend
    rw [← startMultiplePlugins_eq_run] at hrun
    exact ⟨st', .escape hrun, hcall⟩

theorem attemptToStart_calls (fx : Effects W ε) (st : Progress W) (p : LocalPluginRunner) :
    (∃ st', attemptToStart fx st p = .settle st' ∧ .startPlugin p ∈ st'.calls) ∨
      ∃ e st', attemptToStart fx st p = .abort e st' ∧ .startPlugin p ∈ st'.calls := by
  unfold attemptToStart
  rcases fx.startPlugin p st.world with ⟨_ | _ | _, world⟩
  · exact .inr ⟨_, _, rfl, by simp⟩
  · exact .inl ⟨_, rfl, by simp [Progress.notStarted]⟩
  · exact .inl ⟨_, rfl, by simp [Progress.started]⟩

theorem failPlugin_calls (fx : Effects W ε) (st : Progress W) (p : LocalPluginRunner) :
    (∃ st', failPlugin fx st p = .settle st' ∧ .markAsFailed p ∈ st'.calls) ∨
      ∃ e st', failPlugin fx st p = .abort e st' ∧ .markAsFailed p ∈ st'.calls := by
  unfold failPlugin
  rcases fx.markAsFailed p st.world with ⟨_ | _, world⟩
  · exact .inr ⟨_, _, rfl, by simp⟩
  · exact .inl ⟨_, rfl, by simp [Progress.failed]⟩

/-- A round records a call on its own plugin only, and `_mark_as_failed` only
where the scan is blocked. -/
theorem mem_calls_of_visit {call : Call}
    (hvisit : visitPlugin fx snap.systemNames st p = .settle st' ∨
      ∃ e, visitPlugin fx snap.systemNames st p = .abort e st') (hcall : call ∈ st'.calls) :
    call ∈ st.calls ∨ call = .startPlugin p ∨
      call = .markAsFailed p ∧ st.Blocked snap.systemNames p := by
  have hnew : ∀ new, st'.calls = st.calls ++ [new] → call ∈ st.calls ∨ call = new := by
    intro new hcalls
    rw [hcalls, List.mem_append] at hcall
    exact hcall.imp_right List.mem_singleton.mp
  rcases hvisit with hv | ⟨e, hv⟩
  · rcases visitPlugin_eq_settle _ _ hv with ⟨result, world, -, -, rfl⟩ | ⟨world, hblocked, -, rfl⟩
    · cases result <;> exact (hnew (.startPlugin p) rfl).imp_right .inl
    · exact (hnew (.markAsFailed p) rfl).imp_right fun h => .inr ⟨h, hblocked⟩
  · rcases visitPlugin_eq_abort _ _ hv with ⟨world, -, -, rfl⟩ | ⟨world, hblocked, -, rfl⟩
    · exact (hnew (.startPlugin p) rfl).imp_right .inl
    · exact (hnew (.markAsFailed p) rfl).imp_right fun h => .inr ⟨h, hblocked⟩

theorem not_makes_of_visits {call : Call}
    (h : ∀ q queue st st', Reaches (visitPlugin fx snap.systemNames) plugins.reverse
        (snap.progress world) (q :: queue) st →
      (visitPlugin fx snap.systemNames st q = .settle st' ∨
        ∃ e, visitPlugin fx snap.systemNames st q = .abort e st') →
      call ∈ st'.calls → call ∈ st.calls) :
    ¬ Makes fx snap plugins world call := by
  have hround : ∀ {queue st}, Reaches (visitPlugin fx snap.systemNames) plugins.reverse
      (snap.progress world) queue st → call ∉ st.calls := by
    intro queue st hreach
    induction hreach with
    | start => exact List.not_mem_nil
    | settle hbefore hv ih => exact fun hcall => ih (h _ _ _ _ hbefore (.inl hv) hcall)
    | defer _ _ ih => exact ih
  rintro ⟨st, hmeets, hcall⟩
  cases hmeets with
  | round hreach => exact hround hreach hcall
  | escape hrun =>
    rw [startMultiplePlugins_eq_run] at hrun
    obtain ⟨q, queue, before, hreach, hv⟩ := reaches_of_aborted hrun
    exact hround hreach (h q queue before st hreach (.inr ⟨_, hv⟩) hcall)

end Keeps

theorem Progress.Ready.not_blocked {systemNames : List String} {st : Progress W}
    {p : LocalPluginRunner} (h : st.Ready systemNames p) : ¬ st.Blocked systemNames p := by
  rintro ⟨pre, r, post, hreq, -, hbad⟩
  obtain ⟨hknown, hnotFailed, -⟩ := h r (by simp [hreq])
  exact hbad.elim (fun hmissing => hmissing hknown) hnotFailed

theorem visitPlugin_of_ready {fx : Effects W ε} {systemNames : List String} {st : Progress W}
    {p : LocalPluginRunner} (h : st.Ready systemNames p) :
    visitPlugin fx systemNames st p = attemptToStart fx st p := by
  rcases visitPlugin_branches fx systemNames st p with
    ⟨-, hvisit⟩ | ⟨hblocked, -⟩ | ⟨⟨pre, r, post, hreq, -, -, -, hnotStarted⟩, -⟩
  · exact hvisit
  · exact absurd hblocked h.not_blocked
  · exact absurd (h r (by simp [hreq])).2.2 hnotStarted

section Satisfied

variable {fx : Effects W ε} {systems : List StoredSystem} {plugins queue : List LocalPluginRunner}
  {st : Progress W} {p : LocalPluginRunner} {world : W}

theorem Keeps.ready (h : Keeps (.read systems systems systems) plugins queue st)
    (hsatisfied : ∀ r ∈ p.requirements, Satisfied systems r)
    (hforeign : ∀ r ∈ p.requirements, ∀ q ∈ plugins, q.system.name ≠ r)
    (hnotFailed : ∀ r ∈ p.requirements, r ∉ getFailedSystemNames systems) :
    st.Ready (Snapshot.read systems systems systems).systemNames p := by
  intro r hr
  refine ⟨(hsatisfied r hr).mem_getAllSystemNames, fun hfailed => ?_,
    h.started r (hsatisfied r hr).mem_getRunningSystemNames⟩
  rcases h.failed r hfailed with hsnap | ⟨q, hq, hname⟩
  · exact hnotFailed r hr hsnap
  · exact hforeign r hr q hq hname

theorem Keeps.visit_eq_failPlugin (h : Keeps (.read systems systems systems) plugins queue st)
    (hsatisfied : ∀ r ∈ p.requirements, Satisfied systems r)
    (hfailed : ∃ r ∈ p.requirements, r ∈ getFailedSystemNames systems) :
    visitPlugin fx (Snapshot.read systems systems systems).systemNames st p =
      failPlugin fx st p := by
  obtain ⟨r, hr, hfailed⟩ := hfailed
  rcases visitPlugin_branches fx (getAllSystemNames systems) st p with
    ⟨hready, -⟩ | ⟨-, hvisit⟩ | ⟨⟨pre, r', post, hreq, -, -, -, hnotStarted⟩, -⟩
  · exact absurd (h.failedKept r hfailed) (hready r hr).2.1
  · exact hvisit
  · have hr' : r' ∈ p.requirements := by simp [hreq]
    exact absurd (h.started r' (hsatisfied r' hr').mem_getRunningSystemNames) hnotStarted

/-- The loop pops the plugins behind `p` first. When they raise, it does not
come to `p`. -/
theorem not_makes_of_sweep {before after : List LocalPluginRunner}
    (hlist : plugins = before ++ p :: after) (hlast : p ∉ after)
    (hsweep : sweep (visitPlugin fx (getAllSystemNames systems)) after.reverse
      (Snapshot.progress (.read systems systems systems) world) = none) :
    ¬ Makes fx (.read systems systems systems) plugins world (.startPlugin p) := by
  refine not_makes_of_visits fun q queue st st' hreach hvisit hcall => ?_
  have hreverse : plugins.reverse = after.reverse ++ (p :: before.reverse) := by simp [hlist]
  rw [hreverse] at hreach
  obtain ⟨-, a, left, deferred, hqueue, hsub, -⟩ :=
    hreach.during_sweep (I := fun _ => True) hsweep trivial fun _ _ _ _ _ _ => trivial
  obtain ⟨rfl, -⟩ := List.cons.inj hqueue
  have hq : q ∈ after := List.mem_reverse.mp (hsub List.mem_cons_self)
  rcases mem_calls_of_visit hvisit hcall with hbefore | hstart | ⟨hmark, -⟩
  · exact hbefore
  · cases hstart
    exact absurd hq hlast
  · cases hmark

/-- A plugin whose requirements are all running in some version is started, and
not marked as failed, exactly when every other version of these has an instance
that is not `DEAD` as well, and none of the plugins that are popped before it
raises in its first round. -/
theorem startMultiplePlugins_satisfied_iff (fx : Effects W ε) (systems : List StoredSystem)
    (world : W) {plugins before after : List LocalPluginRunner} {p : LocalPluginRunner}
    (hlist : plugins = before ++ p :: after) (hlast : p ∉ after)
    (hsatisfied : ∀ r ∈ p.requirements, Satisfied systems r)
    (hforeign : ∀ r ∈ p.requirements, ∀ q ∈ plugins, q.system.name ≠ r) :
    (Makes fx (.read systems systems systems) plugins world (.startPlugin p) ∧
      ¬ Makes fx (.read systems systems systems) plugins world (.markAsFailed p)) ↔
    (∀ r ∈ p.requirements, ∀ s ∈ systems, s.name = r → ∃ i ∈ s.instances, i.2 ≠ .dead) ∧
      (sweep (visitPlugin fx (getAllSystemNames systems)) after.reverse
        (Snapshot.progress (.read systems systems systems) world)).isSome = true := by
  have hreverse : plugins.reverse = after.reverse ++ (p :: before.reverse) := by simp [hlist]
  have hversions : (∀ r ∈ p.requirements, ∀ s ∈ systems, s.name = r →
      ∃ i ∈ s.instances, i.2 ≠ .dead) ↔
        ∀ r ∈ p.requirements, r ∉ getFailedSystemNames systems := by
    simp only [mem_getFailedSystemNames]
    push Not
    rfl
  rw [hversions]
  cases hsweep : sweep (visitPlugin fx (getAllSystemNames systems)) after.reverse
      (Snapshot.progress (.read systems systems systems) world) with
  | none =>
    have hnever := not_makes_of_sweep hlist hlast hsweep
    simp [hnever]
  | some st =>
    have hcome : ∃ deferred, Reaches (visitPlugin fx (getAllSystemNames systems))
        (after.reverse ++ (p :: before.reverse))
        (Snapshot.progress (.read systems systems systems) world)
        (p :: before.reverse ++ deferred) st := reaches_of_sweep hsweep
    obtain ⟨deferred, hreach⟩ := hcome
    rw [← hreverse] at hreach
    have hkeeps : Keeps (.read systems systems systems) plugins _ st := .of_reaches hreach
    constructor
    · rintro ⟨-, hunmarked⟩
      refine ⟨?_, rfl⟩
      by_contra hfailed
      push Not at hfailed
      refine hunmarked (makes_of_visit hreach ?_)
      rw [hkeeps.visit_eq_failPlugin hsatisfied hfailed]
      exact failPlugin_calls fx st p
    · rintro ⟨hnotFailed, -⟩
      refine ⟨makes_of_visit hreach ?_, not_makes_of_visits ?_⟩
      · rw [visitPlugin_of_ready (hkeeps.ready hsatisfied hforeign hnotFailed)]
        exact attemptToStart_calls fx st p
      · intro q queue st st' hreach hvisit hcall
        have hkeeps : Keeps (.read systems systems systems) plugins _ st := .of_reaches hreach
        rcases mem_calls_of_visit hvisit hcall with hbefore | hstart | ⟨hmark, hblocked⟩
        · exact hbefore
        · cases hstart
        · cases hmark
          exact absurd hblocked (hkeeps.ready hsatisfied hforeign hnotFailed).not_blocked

end Satisfied

/-- A running system, and the version of it that an upgrade has left behind. -/
def upgraded : List StoredSystem :=
  [⟨"db", "1.0", [("default", .dead)]⟩, ⟨"db", "2.0", [("default", .running)]⟩,
    ⟨"web", "1.0", [("default", .initializing)]⟩]

theorem satisfied_upgraded : Satisfied upgraded "db" :=
  ⟨⟨"db", "2.0", [("default", .running)]⟩, by simp [upgraded], rfl, by simp, by simp⟩

theorem startMultiplePlugins_satisfied_iff_upgraded :
    (Makes quietEffects (.read upgraded upgraded upgraded)
        [singlePlugin "web" ["db"], singlePlugin "job" []] ()
          (.startPlugin (singlePlugin "web" ["db"])) ∧
      ¬ Makes quietEffects (.read upgraded upgraded upgraded)
        [singlePlugin "web" ["db"], singlePlugin "job" []] ()
          (.markAsFailed (singlePlugin "web" ["db"]))) ↔
    (∀ r ∈ (singlePlugin "web" ["db"]).requirements, ∀ s ∈ upgraded, s.name = r →
      ∃ i ∈ s.instances, i.2 ≠ .dead) ∧
      (sweep (visitPlugin quietEffects (getAllSystemNames upgraded)) [singlePlugin "job" []].reverse
        (Snapshot.progress (.read upgraded upgraded upgraded) ())).isSome = true := by
  have hrequirements : (singlePlugin "web" ["db"]).requirements = ["db"] := rfl
  refine @startMultiplePlugins_satisfied_iff _ _ quietEffects upgraded () _ [] _ _ rfl
    (by decide) ?_ ?_
  · simpa [hrequirements] using satisfied_upgraded
  · simp [singlePlugin]

/-- The plugin that requires it is marked as failed. -/
theorem startMultiplePlugins_upgraded :
    ¬ (Makes quietEffects (.read upgraded upgraded upgraded) [singlePlugin "web" ["db"]] ()
        (.startPlugin (singlePlugin "web" ["db"])) ∧
      ¬ Makes quietEffects (.read upgraded upgraded upgraded) [singlePlugin "web" ["db"]] ()
        (.markAsFailed (singlePlugin "web" ["db"]))) :=
  fun h => h.2 ⟨_, .round (.settle .start rfl), List.mem_singleton.mpr rfl⟩

end Bartender
