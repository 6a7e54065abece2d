import Bartender.Plugins.Tracking

/-!
# What a pass of the monitor repairs

`monitor` looks at every runner of a copy of the registry. One that has crashed
while it was `RUNNING` is replaced, one that has crashed while it was `STARTING`
is marked `DEAD`, and nothing else is done, although the status monitor makes an
instance that is no longer heard of `UNRESPONSIVE`.
-/

namespace Bartender

def Status.ClaimsUp (status : Status) : Prop :=
  status = .running ∨ status = .starting ∨ status = .unresponsive

namespace World

variable (w : World) (plugin : LocalPluginRunner)

def Crashed : Prop :=
  (w.runtime plugin.address).process = .exited ∧ (w.runtime plugin.address).stopped = false

instance : Decidable (w.Crashed plugin) := inferInstanceAs (Decidable (_ ∧ _))

end World

/-- The plugin is registered as it was, and neither its document nor its
subprocess has changed. -/
structure Untouched (plugin : LocalPluginRunner) (w w' : World) : Prop where
  registered : w'.Registered plugin
  document : w'.document plugin = w.document plugin
  runtime : w'.runtime plugin.address = w.runtime plugin.address

/-- A new runner is registered under the plugin's name, and it was started once. -/
def Replaced (popen : ℕ → Bool) (plugin : LocalPluginRunner) (w w' : World) : Prop :=
  ∃ address, w.next ≤ address ∧ address < w'.next ∧
    w'.registry.getPlugin plugin.uniqueName = some (rebuild plugin address) ∧
    w'.runtime address = ⟨1, false, if popen address then .alive else .absent⟩ ∧
    w'.Stored (rebuild plugin address) .starting

def MarkedDead (plugin : LocalPluginRunner) (w' : World) : Prop :=
  w'.Registered plugin ∧ w'.Stored plugin .dead

/-- After the pass no registered plugin that has crashed claims to be up, those
that did are replaced or marked `DEAD`, and the others are left alone. -/
structure Recovers (popen : ℕ → Bool) (w w' : World) : Prop where
  noneUp : ∀ p ∈ w'.registry, w'.Crashed p → ¬ (w'.status p).ClaimsUp
  crashed : ∀ p ∈ w.registry, w.Crashed p → (w.status p).ClaimsUp →
    Replaced popen p w w' ∨ MarkedDead p w'
  others : ∀ p ∈ w.registry, ¬ (w.Crashed p ∧ (w.status p).ClaimsUp) → Untouched p w w'

/-- The registered runners are objects of their own, with names and instance
documents of their own. -/
structure OwnDocuments (w : World) : Prop where
  distinct : w.registry.Distinct
  allocated : ∀ p ∈ w.registry, p.address < w.next
  document : w.registry.Pairwise fun p q => ∀ i ∈ p.instance?, ∀ j ∈ q.instance?, i.id ≠ j.id

/-- Only these plugins' names and documents are touched, and no runner that was
there before. -/
structure Spares (plugins : List LocalPluginRunner) (w w' : World) : Prop where
  distinct : w'.registry.Distinct
  next : w.next ≤ w'.next
  registry : ∀ name, (∀ p ∈ plugins, p.uniqueName ≠ name) →
    w'.registry.getPlugin name = w.registry.getPlugin name
  instances : ∀ id, (∀ p ∈ plugins, ∀ i ∈ p.instance?, i.id ≠ id) →
    w'.instances id = w.instances id
  runtime : ∀ address < w.next, w'.runtime address = w.runtime address

def Handled (popen : ℕ → Bool) (plugin : LocalPluginRunner) (w w' : World) : Prop :=
  (w.Crashed plugin ∧ w.status plugin = .running ∧ Replaced popen plugin w w') ∨
    (w.Crashed plugin ∧ w.status plugin = .starting ∧ MarkedDead plugin w') ∨
    (¬ (w.Crashed plugin ∧ (w.status plugin = .running ∨ w.status plugin = .starting)) ∧
      Untouched plugin w w')

section Round

variable {popen : ℕ → Bool} {shutdown : ℕ → Shutdown} {w w' w'' : World}
  {plugin : LocalPluginRunner} {plugins : List LocalPluginRunner}

theorem World.endProcess_of_not_alive (h : ¬ w.Alive plugin) : w.endProcess plugin = w := by
  have hprocess : (w.runtime plugin.address).process ≠ .alive := h
  unfold World.endProcess World.setRuntime
  simp [hprocess]

theorem setStatus_instances_of_ne {id : ℕ} (status : Status)
    (hid : ∀ i ∈ plugin.instance?, i.id ≠ id) :
    (w.setStatus plugin status).instances id = w.instances id := by
  unfold World.setStatus
  split
  · next i hi =>
    unfold World.setInstanceStatus
    split
    · exact Function.update_of_ne (hid i hi).symm _ _
    · rfl
  · rfl

theorem Spares.refl (h : w.registry.Distinct) : Spares plugins w w where
  distinct := h
  next := le_rfl
  registry _ _ := rfl
  instances _ _ := rfl
  runtime _ _ := rfl

theorem Spares.trans (h : Spares plugins w w') (h' : Spares plugins w' w'') :
    Spares plugins w w'' where
  distinct := h'.distinct
  next := h.next.trans h'.next
  registry name hname := (h'.registry name hname).trans (h.registry name hname)
  instances id hid := (h'.instances id hid).trans (h.instances id hid)
  runtime address haddress :=
    (h'.runtime address (haddress.trans_le h.next)).trans (h.runtime address haddress)

theorem Spares.mono {others : List LocalPluginRunner} (h : Spares plugins w w')
    (hsub : plugins ⊆ others) : Spares others w w' where
  distinct := h.distinct
  next := h.next
  registry name hname := h.registry name fun p hp => hname p (hsub hp)
  instances id hid := h.instances id fun p hp => hid p (hsub hp)
  runtime := h.runtime

theorem Spares.untouched {other : LocalPluginRunner} (h : Spares plugins w w')
    (hregistered : w.Registered other) (hallocated : other.address < w.next)
    (hname : ∀ p ∈ plugins, p.uniqueName ≠ other.uniqueName)
    (hdocument : ∀ p ∈ plugins, ∀ i ∈ p.instance?, ∀ j ∈ other.instance?, i.id ≠ j.id) :
    Untouched other w w' where
  registered := (h.registry other.uniqueName hname).trans hregistered
  document := by
    unfold World.document
    cases hinstance : other.instance? with
    | none => rfl
    | some j => exact h.instances j.id fun p hp i hi => hdocument p hp i hi j hinstance
  runtime := h.runtime other.address hallocated

theorem spares_setStatus (hdistinct : w.registry.Distinct) (status : Status) :
    Spares [plugin] w (w.setStatus plugin status) where
  distinct := by simpa using hdistinct
  next := by simp
  registry _ _ := by simp
  instances id hid := setStatus_instances_of_ne status (hid plugin List.mem_cons_self)
  runtime _ _ := by simp

/-- A plugin that is down is replaced by a fresh runner, whose thread nobody has
started. -/
def World.relaunch (w : World) (plugin : LocalPluginRunner) (spawns : Bool) : World :=
  let newPlugin := rebuild plugin w.next
  ((((w.addRunner (rebuild plugin)).1.replaceInRegistry plugin newPlugin).setStatus newPlugin
    .starting).start newPlugin spawns)

theorem relaunch_next (spawns : Bool) : (w.relaunch plugin spawns).next = w.next + 1 :=
  World.setStatus_next .starting

theorem startPlugin_of_isDown (hdown : (w.status plugin).IsDown) :
    startPlugin popen plugin w = (.ok true, w.relaunch plugin (popen w.next)) := by
  have hstart : startPlugin popen plugin w = launch popen (rebuild plugin w.next)
      ((w.addRunner (rebuild plugin)).1.replaceInRegistry plugin (rebuild plugin w.next)) := by
    unfold startPlugin
    rcases hdown with hstatus | hstatus <;> rw [hstatus] <;> rfl
  have hfresh : ((((w.addRunner (rebuild plugin)).1.replaceInRegistry plugin
      (rebuild plugin w.next)).setStatus (rebuild plugin w.next) .starting).runtime
        (rebuild plugin w.next).address).starts = 0 := by
    simp [World.replaceInRegistry, World.addRunner, Runtime.fresh]
  rw [hstart]
  exact if_pos hfresh

theorem spares_relaunch (hdistinct : w.registry.Distinct) (spawns : Bool) :
    Spares [plugin] w (w.relaunch plugin spawns) := by
  let newPlugin := rebuild plugin w.next
  let replaced := (w.addRunner (rebuild plugin)).1.replaceInRegistry plugin newPlugin
  have hreplaced : Spares [plugin] w replaced := by
    refine ⟨(hdistinct.remove plugin.uniqueName).registerPlugin newPlugin, Nat.le_succ _, ?_,
      fun _ _ => rfl, ?_⟩
    · intro name hname
      have hne : name ≠ plugin.uniqueName := (hname plugin List.mem_cons_self).symm
      exact (Registry.getPlugin_registerPlugin_of_ne (p := newPlugin) hne).trans
        (hdistinct.getPlugin_remove_of_ne hne)
    · intro address haddress
      exact Function.update_of_ne haddress.ne _ _
  -- the new runner has the old one's document
  have hstatus : Spares [plugin] replaced (replaced.setStatus plugin .starting) :=
    spares_setStatus hreplaced.distinct .starting
  have hstarting : Spares [plugin] w (replaced.setStatus newPlugin .starting) :=
    hreplaced.trans hstatus
  refine ⟨hstarting.distinct, hstarting.next, hstarting.registry, hstarting.instances, ?_⟩
  intro address haddress
  exact (Function.update_of_ne haddress.ne _ _).trans (hstarting.runtime address haddress)

theorem replaced_relaunch {status : Status} (hdistinct : w.registry.Distinct)
    (hstored : w.Stored plugin status) :
    Replaced popen plugin w (w.relaunch plugin (popen w.next)) := by
  refine ⟨w.next, le_rfl, by simp [relaunch_next], ?_, ?_, ?_⟩
  · unfold World.relaunch World.start World.setRuntime
    dsimp only
    rw [World.setStatus_registry]
    exact World.getPlugin_replaceInRegistry hdistinct rfl
  · simp [World.relaunch, World.start, World.setRuntime, World.replaceInRegistry,
      World.addRunner, Runtime.fresh]
  · have hreplaced : ((w.addRunner (rebuild plugin)).1.replaceInRegistry plugin
        (rebuild plugin w.next)).Stored (rebuild plugin w.next) status := hstored
    exact hreplaced.setStatus .starting

theorem monitorPlugin_of_not_crashed (h : ¬ w.Crashed plugin) :
    monitorPlugin popen shutdown plugin w = (.ok (), w) := if_neg h

theorem monitorPlugin_of_crashed (h : w.Crashed plugin) :
    monitorPlugin popen shutdown plugin w =
      match w.status plugin with
      | .running =>
        (.ok (), (w.setStatus plugin .dead).relaunch plugin (popen w.next))
      | .starting => (.ok (), w.setStatus plugin .dead)
      | _ => (.ok (), w) := by
  refine (if_pos h).trans ?_
  cases hstatus : w.status plugin with
  | running =>
    have hstored := (World.stored_of_status_ne hstatus (by decide)).setStatus .dead
    have hdead : (w.setStatus plugin .dead).status plugin = .dead := hstored.status_eq
    have hexited : ¬ (w.setStatus plugin .dead).Alive plugin := by
      unfold World.Alive
      rw [World.setStatus_runtime, h.1]
      decide
    -- a plugin marked `DEAD` needs no stopping
    have hstop : stopPlugin (shutdown plugin.address) plugin (w.setStatus plugin .dead) =
        w.setStatus plugin .dead := by
      unfold stopPlugin
      rw [hdead]
      exact World.endProcess_of_not_alive hexited
    have hstart := @startPlugin_of_isDown popen (w.setStatus plugin .dead) plugin (.inr hdead)
    dsimp only
    unfold restartPlugin
    rw [hstop, hstart, World.setStatus_next]
  | _ => rfl

theorem untouched_refl (h : w.Registered plugin) : Untouched plugin w w := ⟨h, rfl, rfl⟩

/-- One round, for its plugin and for the others. -/
theorem monitorPlugin_handles (hdistinct : w.registry.Distinct) (hp : w.Registered plugin) :
    ∃ w', monitorPlugin popen shutdown plugin w = (.ok (), w') ∧ Spares [plugin] w w' ∧
      Handled popen plugin w w' := by
  by_cases hcrashed : w.Crashed plugin
  · rw [monitorPlugin_of_crashed hcrashed]
    cases hstatus : w.status plugin with
    | running =>
      have hmarked : Spares [plugin] w (w.setStatus plugin .dead) :=
        spares_setStatus hdistinct .dead
      have hstored := (World.stored_of_status_ne hstatus (by decide)).setStatus .dead
      have hreplaced := @replaced_relaunch popen _ plugin _ hmarked.distinct hstored
      unfold Replaced at hreplaced
      rw [World.setStatus_next] at hreplaced
      exact ⟨_, rfl, hmarked.trans (spares_relaunch hmarked.distinct _),
        .inl ⟨hcrashed, hstatus, hreplaced⟩⟩
    | starting =>
      have hstored := (World.stored_of_status_ne hstatus (by decide)).setStatus .dead
      have hkept : (w.setStatus plugin .dead).Registered plugin := by
        unfold World.Registered
        rw [World.setStatus_registry]
        exact hp
      exact ⟨_, rfl, spares_setStatus hdistinct .dead,
        .inr (.inl ⟨hcrashed, hstatus, hkept, hstored⟩)⟩
    | _ =>
      refine ⟨w, rfl, .refl hdistinct, .inr (.inr ⟨?_, untouched_refl hp⟩)⟩
      simp [hstatus]
  · rw [monitorPlugin_of_not_crashed hcrashed]
    exact ⟨w, rfl, .refl hdistinct, .inr (.inr ⟨fun h => hcrashed h.1, untouched_refl hp⟩)⟩

theorem Untouched.crashed_iff (h : Untouched plugin w w') :
    w'.Crashed plugin ↔ w.Crashed plugin := by
  unfold World.Crashed
  rw [h.runtime]

theorem Untouched.status (h : Untouched plugin w w') : w'.status plugin = w.status plugin := by
  rw [World.status_eq_document, World.status_eq_document, h.document]

theorem Untouched.trans (h : Untouched plugin w w') (h' : Untouched plugin w' w'') :
    Untouched plugin w w'' where
  registered := h'.registered
  document := h'.document.trans h.document
  runtime := h'.runtime.trans h.runtime

theorem Untouched.handled (h : Untouched plugin w w') (hnext : w.next ≤ w'.next)
    (h' : Handled popen plugin w' w'') : Handled popen plugin w w'' := by
  unfold Handled at h' ⊢
  rw [h.crashed_iff, h.status] at h'
  rcases h' with ⟨hcrashed, hstatus, address, hnew, hreplaced⟩ | hdead | ⟨hnot, huntouched⟩
  · exact .inl ⟨hcrashed, hstatus, address, hnext.trans hnew, hreplaced⟩
  · exact .inr (.inl hdead)
  · exact .inr (.inr ⟨hnot, h.trans huntouched⟩)

theorem Handled.spares (h : Handled popen plugin w w') (h' : Spares plugins w' w'')
    (hallocated : plugin.address < w'.next)
    (hname : ∀ p ∈ plugins, p.uniqueName ≠ plugin.uniqueName)
    (hdocument : ∀ p ∈ plugins, ∀ i ∈ p.instance?, ∀ j ∈ plugin.instance?, i.id ≠ j.id) :
    Handled popen plugin w w'' := by
  have hstored : ∀ {other : LocalPluginRunner} {status : Status},
      other.instance? = plugin.instance? → w'.Stored other status → w''.Stored other status := by
    rintro other status hinstance ⟨i, document, hi, hdocument', hstatus⟩
    refine ⟨i, document, hi, ?_, hstatus⟩
    rw [h'.instances i.id fun p hp j hj => hdocument p hp j hj i (hinstance ▸ hi)]
    exact hdocument'
  have hregistry := h'.registry plugin.uniqueName hname
  rcases h with ⟨hcrashed, hstatus, address, hnew, hbelow, hfound, hstarted, hstarting⟩ |
    ⟨hcrashed, hstatus, hregistered, hdead⟩ | ⟨hnot, huntouched⟩
  · refine .inl ⟨hcrashed, hstatus, address, hnew, hbelow.trans_le h'.next,
      hregistry.trans hfound, ?_, hstored rfl hstarting⟩
    rw [h'.runtime address hbelow]
    exact hstarted
  · exact .inr (.inl ⟨hcrashed, hstatus, hregistry.trans hregistered, hstored rfl hdead⟩)
  · exact .inr (.inr ⟨hnot, huntouched.trans
      (h'.untouched huntouched.registered hallocated hname hdocument)⟩)

/-- The whole loop, over runners that are registered when it starts. -/
theorem monitorPlugins_handles (hdistinct : w.registry.Distinct)
    (hregistered : ∀ p ∈ plugins, w.Registered p) (hallocated : ∀ p ∈ plugins, p.address < w.next)
    (hnames : plugins.Pairwise fun p q => p.uniqueName ≠ q.uniqueName)
    (hdocuments : plugins.Pairwise fun p q => ∀ i ∈ p.instance?, ∀ j ∈ q.instance?, i.id ≠ j.id) :
    ∃ w', monitorPlugins popen shutdown plugins w = (.ok (), w') ∧ Spares plugins w w' ∧
      ∀ p ∈ plugins, Handled popen p w w' := by
  induction plugins generalizing w with
  | nil => exact ⟨w, rfl, .refl hdistinct, fun _ hp => absurd hp List.not_mem_nil⟩
  | cons plugin plugins ih =>
    obtain ⟨hplugin, hrest⟩ := List.forall_mem_cons.mp hregistered
    obtain ⟨haddress, haddresses⟩ := List.forall_mem_cons.mp hallocated
    obtain ⟨hname, hnames⟩ := List.pairwise_cons.mp hnames
    obtain ⟨hdocument, hdocuments⟩ := List.pairwise_cons.mp hdocuments
    obtain ⟨w₁, hround, hspares, hhandled⟩ :=
      @monitorPlugin_handles popen shutdown w plugin hdistinct hplugin
    have huntouched : ∀ p ∈ plugins, Untouched p w w₁ := by
      intro p hp
      refine hspares.untouched (hrest p hp) (haddresses p hp) ?_ ?_
      · simpa using hname p hp
      · simpa using hdocument p hp
    obtain ⟨w', hloop, hspares', hhandled'⟩ := ih hspares.distinct
      (fun p hp => (huntouched p hp).registered)
      (fun p hp => (haddresses p hp).trans_le hspares.next) hnames hdocuments
    refine ⟨w', ?_, (hspares.mono (by simp)).trans (hspares'.mono (by simp)), ?_⟩
    · unfold monitorPlugins
      rw [hround]
      exact hloop
    · intro p hp
      rcases List.mem_cons.mp hp with rfl | hp
      · exact hhandled.spares hspares' (haddress.trans_le hspares.next)
          (fun q hq => (hname q hq).symm) fun q hq i hi j hj => (hdocument q hq j hj i hi).symm
      · exact (huntouched p hp).handled hspares.next (hhandled' p hp)

end Round

section Pass

variable {popen : ℕ → Bool} {w w' : World}

theorem exists_uniqueName_of_mem (hspares : Spares w.registry w w') {q : LocalPluginRunner}
    (hq : q ∈ w'.registry) : ∃ p ∈ w.registry, p.uniqueName = q.uniqueName := by
  by_contra hnone
  push Not at hnone
  have hfound := hspares.distinct.getPlugin_of_mem hq
  rw [hspares.registry q.uniqueName hnone] at hfound
  exact hnone q (Registry.mem_of_getPlugin hfound).1 rfl

theorem recovers_of_handled (hspares : Spares w.registry w w')
    (hhandled : ∀ p ∈ w.registry, Handled popen p w w')
    (hresponsive : ∀ p ∈ w.registry, w.Crashed p → w.status p ≠ .unresponsive) :
    Recovers popen w w' where
  noneUp q hq hcrashed := by
    have hfound := hspares.distinct.getPlugin_of_mem hq
    obtain ⟨p, hp, hname⟩ := exists_uniqueName_of_mem hspares hq
    rw [← hname] at hfound
    rcases hhandled p hp with ⟨-, -, address, -, -, hnew, hstarted, -⟩ |
      ⟨-, -, hregistered, hdead⟩ | ⟨hnot, huntouched⟩
    · obtain rfl : rebuild p address = q := Option.some.inj (hnew.symm.trans hfound)
      have hprocess := hcrashed.1
      rw [rebuild_address, hstarted] at hprocess
      dsimp only at hprocess
      split_ifs at hprocess
    · obtain rfl : p = q := Option.some.inj (hregistered.symm.trans hfound)
      rw [hdead.status_eq]
      unfold Status.ClaimsUp
      decide
    · obtain rfl : p = q := Option.some.inj (huntouched.registered.symm.trans hfound)
      rw [huntouched.crashed_iff] at hcrashed
      rw [huntouched.status]
      rintro (hstatus | hstatus | hstatus)
      · exact hnot ⟨hcrashed, .inl hstatus⟩
      · exact hnot ⟨hcrashed, .inr hstatus⟩
      · exact hresponsive p hp hcrashed hstatus
  crashed p hp hcrashed hup := by
    rcases hhandled p hp with ⟨-, -, hreplaced⟩ | ⟨-, -, hdead⟩ | ⟨hnot, -⟩
    · exact .inl hreplaced
    · exact .inr hdead
    · rcases hup with hstatus | hstatus | hstatus
      · exact absurd ⟨hcrashed, .inl hstatus⟩ hnot
      · exact absurd ⟨hcrashed, .inr hstatus⟩ hnot
      · exact absurd hstatus (hresponsive p hp hcrashed)
  others p hp hother := by
    rcases hhandled p hp with ⟨hcrashed, hstatus, -⟩ | ⟨hcrashed, hstatus, -⟩ | ⟨-, huntouched⟩
    · exact absurd ⟨hcrashed, .inl hstatus⟩ hother
    · exact absurd ⟨hcrashed, .inr (.inl hstatus)⟩ hother
    · exact huntouched

/-- A pass repairs what has crashed exactly when none of it is `UNRESPONSIVE`. -/
theorem monitor_recovers_iff (popen : ℕ → Bool) (shutdown : ℕ → Shutdown) (w : World)
    (hown : OwnDocuments w) :
    ((monitor popen shutdown w.registry.length w).1 = .ok () ∧
      Recovers popen w (monitor popen shutdown w.registry.length w).2) ↔
    ∀ p ∈ w.registry, w.Crashed p → w.status p ≠ .unresponsive := by
  have hregistered : ∀ p ∈ w.registry, w.Registered p :=
    fun p hp => hown.distinct.getPlugin_of_mem hp
  have hnames : w.registry.Pairwise fun p q => p.uniqueName ≠ q.uniqueName :=
    List.pairwise_map.mp hown.distinct
  obtain ⟨w', hloop, hspares, hhandled⟩ := @monitorPlugins_handles popen shutdown w w.registry
    hown.distinct hregistered hown.allocated hnames hown.document
  have hpass : monitor popen shutdown w.registry.length w = (.ok (), w') := by
    unfold monitor Registry.getAllPlugins
    rw [List.take_length]
    exact hloop
  rw [hpass]
  constructor
  · rintro ⟨-, hrecovers⟩ p hp hcrashed hstatus
    rcases hhandled p hp with ⟨-, hrunning, -⟩ | ⟨-, hstarting, -⟩ | ⟨-, huntouched⟩
    · rw [hstatus] at hrunning
      cases hrunning
    · rw [hstatus] at hstarting
      cases hstarting
    · refine hrecovers.noneUp p huntouched.registered.mem (huntouched.crashed_iff.mpr hcrashed) ?_
      rw [huntouched.status, hstatus]
      exact .inr (.inr rfl)
  · exact fun hresponsive => ⟨rfl, recovers_of_handled hspares hhandled hresponsive⟩

def crashedSingle (status : Status) : World :=
  .single (singlePlugin "foo" []) status ⟨1, false, .exited⟩

theorem ownDocuments_crashedSingle (status : Status) : OwnDocuments (crashedSingle status) where
  distinct := List.nodup_singleton _
  allocated p hp := by
    rw [List.mem_singleton.mp hp]
    exact Nat.zero_lt_one
  document := List.pairwise_singleton _ _

theorem monitor_recovers_iff_single :
    ((monitor (fun _ => true) (fun _ => ⟨true, true, true, true, false⟩) 1
        (crashedSingle .running)).1 = .ok () ∧
      Recovers (fun _ => true) (crashedSingle .running)
        (monitor (fun _ => true) (fun _ => ⟨true, true, true, true, false⟩) 1
          (crashedSingle .running)).2) ↔
    ∀ p ∈ (crashedSingle .running).registry,
      (crashedSingle .running).Crashed p → (crashedSingle .running).status p ≠ .unresponsive :=
  monitor_recovers_iff (fun _ => true) (fun _ => ⟨true, true, true, true, false⟩)
    (crashedSingle .running) (ownDocuments_crashedSingle .running)

/-- A crashed plugin that the status monitor has seen first stays as it is. -/
theorem monitor_overlooks_unresponsive :
    ¬ ((monitor (fun _ => true) (fun _ => ⟨true, true, true, true, false⟩) 1
        (crashedSingle .unresponsive)).1 = .ok () ∧
      Recovers (fun _ => true) (crashedSingle .unresponsive)
        (monitor (fun _ => true) (fun _ => ⟨true, true, true, true, false⟩) 1
          (crashedSingle .unresponsive)).2) := by
  rintro ⟨-, hrecovers⟩
  refine hrecovers.noneUp (singlePlugin "foo" []) ?_ ?_ (.inr (.inr ?_)) <;> decide

end Pass
end Bartender
