import Bartender.Plugins.Lifecycle

/-!
# What the status monitor detects, and when

`PluginStatusMonitor.run` waits, asks the plugins for their status and checks the
heartbeats, again and again. How old the heartbeat behind the word `RUNNING` can
be depends on the timeout and on the time between two passes; that a plugin which
answers in time is not suspected depends on the timeout alone. Both hold whatever
else is done to the plugins in the meantime.
-/

namespace Bartender

/-- The shared state, with the time of the last pass over all instances. -/
structure Watch where
  world : World
  lastPass : ℕ

def LifecycleOperation.IsPass : LifecycleOperation → Prop
  | .manage (.onInstance (.checkStatus _ visited)) => ∀ id, visited id = true
  | _ => False

namespace Watch

def Ends (operation : LifecycleOperation) (s s' : Watch) : Prop :=
  operation.Ends s.world s'.world ∧
    (operation.IsPass ∧ s'.lastPass = s.world.now ∨
      ¬ operation.IsPass ∧ s'.lastPass = s.lastPass)

def Passes (operation : LifecycleOperation) (s s' : Watch) : Prop :=
  operation.Passes s.world s'.world ∧ s'.lastPass = s.lastPass

end Watch

/-- The monitor checks with one timeout, and no more time than this goes by without
a pass over all instances. Nobody unpauses a plugin. -/
def Attended (timeout latency : ℕ) : LifecycleOperation → Watch → Prop
  | .manage (.onInstance (.checkStatus t _)), _ => t = timeout
  | .manage (.onInstance (.wait time)), s => s.world.now + time ≤ s.lastPass + latency
  | .unpausePlugin _, _ => False
  | _, _ => True

/-- As long as the instance is shown as running, its next heartbeat does not take
the timeout to come. Nobody unpauses a plugin. -/
def Prompt (timeout id : ℕ) : LifecycleOperation → World → Prop
  | .manage (.onInstance (.checkStatus t _)), _ => t = timeout
  | .manage (.onInstance (.wait time)), w => ∀ document, w.instances id = some document →
    document.status = .running → ∀ heartbeat, document.heartbeat = some heartbeat →
      w.now + time < heartbeat + timeout
  | .unpausePlugin _, _ => False
  | _, _ => True

section Changes

variable {timeout now lastPass : ℕ} {before after : Option InstanceDocument}
  {document : InstanceDocument}

/-- If it says `RUNNING`, a heartbeat was recent at this time. -/
def InstanceDocument.HeardAt (timeout time : ℕ) (document : InstanceDocument) : Prop :=
  document.status = .running →
    ∃ heartbeat, document.heartbeat = some heartbeat ∧ time ≤ heartbeat + timeout

theorem heardAt_of_ne {status : Status} (heartbeat : Option ℕ) (hne : status ≠ .running) :
    InstanceDocument.HeardAt timeout now ⟨status, heartbeat⟩ :=
  fun hrunning => absurd hrunning hne

theorem InstanceDocument.HeardAt.of_le (h : document.HeardAt timeout now) (hle : lastPass ≤ now) :
    document.HeardAt timeout lastPass := by
  intro hrunning
  obtain ⟨heartbeat, hheartbeat, hrecent⟩ := h hrunning
  exact ⟨heartbeat, hheartbeat, hle.trans hrecent⟩

theorem heardAt_edge (hedge : LifecycleEdge (· = .anew) now before after) (hpast : lastPass ≤ now)
    (hbefore : ∀ document, before = some document → document.HeardAt timeout lastPass) :
    ∀ document, after = some document → document.HeardAt timeout lastPass := by
  rintro document rfl
  cases hedge with
  | created h => exact heardAt_of_ne _ nofun
  | starting h hstatus => exact heardAt_of_ne _ nofun
  | restarted h => exact heardAt_of_ne _ nofun
  | stopping h => exact heardAt_of_ne _ nofun
  | dead document => exact heardAt_of_ne _ nofun
  | stopped document => exact heardAt_of_ne _ nofun
  | initialized h document => exact heardAt_of_ne _ nofun
  | heartbeat document => exact fun _ => ⟨now, rfl, by omega⟩
  | unresponsive hcheck h => cases hcheck
  | running hcheck h => cases hcheck
  | paused h => exact heardAt_of_ne _ nofun
  | unpaused hunpause h => cases hunpause

theorem heardAt_checkInstance (h : document.HeardAt timeout lastPass) :
    (checkInstance timeout now document).HeardAt timeout now := by
  obtain ⟨status, _ | heartbeat⟩ := document
  · intro hrunning
    obtain ⟨heartbeat, hheartbeat, -⟩ := h hrunning
    cases hheartbeat
  · unfold checkInstance
    dsimp only
    split_ifs with hlate hfresh
    · exact heardAt_of_ne _ nofun
    · exact fun _ => ⟨heartbeat, rfl, hfresh.2.le⟩
    · intro hrunning
      have hrecent : ¬ heartbeat + timeout ≤ now := fun hle => hlate ⟨hrunning, hle⟩
      exact ⟨heartbeat, rfl, (not_le.mp hrecent).le⟩

/-- Not suspected, and with a heartbeat that is recent if it is to be running. -/
def InstanceDocument.PromptAt (timeout time : ℕ) (document : InstanceDocument) : Prop :=
  document.status ≠ .unresponsive ∧ (document.status = .running →
    ∀ heartbeat, document.heartbeat = some heartbeat → time < heartbeat + timeout)

theorem promptAt_of_ne {status : Status} (heartbeat : Option ℕ)
    (hne : status ≠ .unresponsive ∧ status ≠ .running) :
    InstanceDocument.PromptAt timeout now ⟨status, heartbeat⟩ :=
  ⟨hne.1, fun hrunning => absurd hrunning hne.2⟩

theorem promptAt_edge (htimeout : 0 < timeout) (hedge : LifecycleEdge (· = .anew) now before after)
    (hbefore : ∀ document, before = some document → document.PromptAt timeout now) :
    ∀ document, after = some document → document.PromptAt timeout now := by
  rintro document rfl
  cases hedge with
  | created h => exact promptAt_of_ne _ (by decide)
  | starting h hstatus => exact promptAt_of_ne _ (by decide)
  | restarted h => exact promptAt_of_ne _ (by decide)
  | stopping h => exact promptAt_of_ne _ (by decide)
  | dead document => exact promptAt_of_ne _ (by decide)
  | stopped document => exact promptAt_of_ne _ (by decide)
  | initialized h document => exact promptAt_of_ne _ (by decide)
  | heartbeat document =>
    refine ⟨(hbefore document rfl).1, ?_⟩
    rintro - heartbeat ⟨⟩
    exact Nat.lt_add_of_pos_right htimeout
  | unresponsive hcheck h => cases hcheck
  | running hcheck h => cases hcheck
  | paused h => exact promptAt_of_ne _ (by decide)
  | unpaused hunpause h => cases hunpause

theorem promptAt_checkInstance (h : document.PromptAt timeout now) :
    (checkInstance timeout now document).PromptAt timeout now := by
  obtain ⟨status, _ | heartbeat⟩ := document
  · exact h
  · unfold checkInstance
    dsimp only
    split_ifs with hlate hfresh
    · exact absurd (h.2 hlate.1 heartbeat rfl) hlate.2.not_gt
    · refine ⟨nofun, ?_⟩
      rintro - _ ⟨⟩
      exact hfresh.2
    · exact h

end Changes

theorem LifecycleOperation.May.cases {operation : LifecycleOperation} {cause : LifecycleCause}
    (h : operation.May cause) : cause = .anew ∨
    (cause = .check ∧ ∃ t visited, operation = .manage (.onInstance (.checkStatus t visited))) ∨
      cause = .unpause ∧ ∃ uniqueName, operation = .unpausePlugin uniqueName := by
  cases operation with
  | manage operation =>
    cases operation with
    | onInstance operation => cases operation <;> cases cause <;> simp_all [May,
        ManagerOperation.May, InstanceOperation.May]
    | _ => cases cause <;> simp_all [May, ManagerOperation.May]
  | _ => cases cause <;> simp_all [May]

/-- The time since the last pass and the age of the heartbeats behind `RUNNING`. -/
structure Watched (timeout latency : ℕ) (s : Watch) : Prop where
  past : s.lastPass ≤ s.world.now
  recent : s.world.now ≤ s.lastPass + latency
  heard : ∀ id document, s.world.instances id = some document →
    document.HeardAt timeout s.lastPass

section Runs

variable {timeout latency id : ℕ} {operation : LifecycleOperation} {s s' : Watch}
  {w w' : World}

theorem may_anew (hcheck : ∀ t visited, operation ≠ .manage (.onInstance (.checkStatus t visited)))
    (hunpause : ∀ uniqueName, operation ≠ .unpausePlugin uniqueName) (cause : LifecycleCause)
    (hmay : operation.May cause) : cause = .anew := by
  rcases hmay.cases with hanew | ⟨-, t, visited, heq⟩ | ⟨-, uniqueName, heq⟩
  · exact hanew
  · exact absurd heq (hcheck t visited)
  · exact absurd heq (hunpause uniqueName)

theorem Watched.lives (h : Watched timeout latency s)
    (hlives : Lives operation.May s.world s'.world)
    (hcheck : ∀ t visited, operation ≠ .manage (.onInstance (.checkStatus t visited)))
    (hunpause : ∀ uniqueName, operation ≠ .unpausePlugin uniqueName)
    (hpass : s'.lastPass = s.lastPass) : Watched timeout latency s' := by
  refine ⟨?_, ?_, fun id => ?_⟩
  · rw [hpass, hlives.clock]
    exact h.past
  · rw [hpass, hlives.clock]
    exact h.recent
  · rw [hpass]
    exact hlives.invariant
      (I := fun stored => ∀ document, stored = some document → document.HeardAt timeout s.lastPass)
      (fun before after hedge => heardAt_edge (hedge.mono (may_anew hcheck hunpause)) h.past)
      (h.heard id)

theorem Watched.checkStatus (h : Watched timeout latency s) {visited : ℕ → Bool}
    (hends : Watch.Ends (.manage (.onInstance (.checkStatus timeout visited))) s s') :
    Watched timeout latency s' := by
  obtain ⟨world', lastPass'⟩ := s'
  obtain ⟨hworld, hpass⟩ := hends
  obtain rfl : world' = Bartender.checkStatus timeout visited s.world := hworld
  have hchecked : ∀ id document, (Bartender.checkStatus timeout visited s.world).instances id =
      some document → visited id = true → document.HeardAt timeout s.world.now := by
    intro id document hdocument hvisited
    change (if visited id then (s.world.instances id).map (checkInstance timeout s.world.now) else
      s.world.instances id) = some document at hdocument
    rw [if_pos hvisited] at hdocument
    obtain ⟨before, hbefore, rfl⟩ := Option.map_eq_some_iff.mp hdocument
    exact heardAt_checkInstance (h.heard id before hbefore)
  rcases hpass with ⟨hall, rfl⟩ | ⟨-, rfl⟩
  · exact ⟨le_rfl, Nat.le_add_right _ _, fun id document hdocument =>
      hchecked id document hdocument (hall id)⟩
  · refine ⟨h.past, h.recent, fun id document hdocument => ?_⟩
    by_cases hvisited : visited id = true
    · exact (hchecked id document hdocument hvisited).of_le h.past
    · refine h.heard id document ?_
      rw [← hdocument]
      exact (if_neg hvisited).symm

theorem Watched.ends (h : Watched timeout latency s)
    (hattended : Attended timeout latency operation s) (hends : Watch.Ends operation s s') :
    Watched timeout latency s' := by
  by_cases hcheck : ∃ t visited, operation = .manage (.onInstance (.checkStatus t visited))
  · obtain ⟨t, visited, rfl⟩ := hcheck
    obtain rfl : t = timeout := hattended
    exact h.checkStatus hends
  · have hlast : s'.lastPass = s.lastPass := by
      rcases hends.2 with ⟨hpass, -⟩ | ⟨-, hlast⟩
      · unfold LifecycleOperation.IsPass at hpass
        split at hpass
        · exact absurd ⟨_, _, rfl⟩ hcheck
        · exact hpass.elim
      · exact hlast
    by_cases hwait : ∃ time, operation = .manage (.onInstance (.wait time))
    · obtain ⟨time, rfl⟩ := hwait
      have hworld : s'.world = { s.world with now := s.world.now + time } := hends.1
      refine ⟨?_, ?_, ?_⟩
      · rw [hlast, hworld]
        exact h.past.trans (Nat.le_add_right _ _)
      · rw [hlast, hworld]
        exact hattended
      · rw [hlast, hworld]
        exact h.heard
    · refine h.lives (lives_ends hends.1 fun time heq => hwait ⟨time, heq⟩)
        (fun t visited heq => hcheck ⟨t, visited, heq⟩) ?_ hlast
      rintro uniqueName rfl
      exact hattended

theorem Watched.passes (h : Watched timeout latency s)
    (hattended : Attended timeout latency operation s) (hpasses : Watch.Passes operation s s') :
    Watched timeout latency s' := by
  refine h.lives (lives_passes hpasses.1) ?_ ?_ hpasses.2
  · rintro t visited rfl
    exact hpasses.1
  · rintro uniqueName rfl
    exact hattended

/-- Whatever else is done to the plugins: as long as the passes are no further apart
than `latency`, an instance that says `RUNNING` has sent a heartbeat in the last
`timeout` and `latency`. -/
theorem running_heard {s₀ : Watch}
    (hseen : Runs.Seen Watch.Ends Watch.Passes (Attended timeout latency) s₀ s)
    (h₀ : Watched timeout latency s₀) {document : InstanceDocument}
    (hdocument : s.world.instances id = some document) (hrunning : document.status = .running) :
    ∃ heartbeat, document.heartbeat = some heartbeat ∧
      s.world.now ≤ heartbeat + timeout + latency := by
  have h : Watched timeout latency s := hseen.invariant h₀
    (fun _ _ _ hwatched hattended hends => hwatched.ends hattended hends)
    fun _ _ _ hwatched hattended hpasses => hwatched.passes hattended hpasses
  obtain ⟨heartbeat, hheartbeat, hrecent⟩ := h.heard id document hdocument hrunning
  have hnow := h.recent
  exact ⟨heartbeat, hheartbeat, by omega⟩

theorem running_heard_waited :
    let w := (InstanceOperation.wait 10).apply
      (heartbeatChecked (.single (singlePlugin "foo" []) .initializing .fresh))
    w.instances 0 = some ⟨.running, some 0⟩ ∧
      ∃ heartbeat, some 0 = some heartbeat ∧ w.now ≤ heartbeat + 30 + 10 := by
  intro w
  let w₀ := World.single (singlePlugin "foo" []) .initializing .fresh
  have hheard : Runs.Reachable Watch.Ends (Attended 30 10) ⟨w₀, 0⟩
      ⟨(InstanceOperation.heartbeat 0).apply w₀, 0⟩ :=
    .next (.manage (.onInstance (.heartbeat 0))) .start trivial ⟨rfl, .inr ⟨id, rfl⟩⟩
  have hchecked : Runs.Reachable Watch.Ends (Attended 30 10) ⟨w₀, 0⟩ ⟨heartbeatChecked w₀, 0⟩ :=
    .next (.manage (.onInstance (.checkStatus 30 fun _ => true))) hheard rfl
      ⟨rfl, .inl ⟨fun _ => rfl, rfl⟩⟩
  have hseen : Runs.Seen Watch.Ends Watch.Passes (Attended 30 10) ⟨w₀, 0⟩ ⟨w, 0⟩ :=
    .between (.next (.manage (.onInstance (.wait 10))) hchecked (Nat.le_refl 10)
      ⟨rfl, .inr ⟨id, rfl⟩⟩)
  have h₀ : Watched 30 10 ⟨w₀, 0⟩ := by
    refine ⟨le_rfl, Nat.zero_le _, fun id document hdocument => ?_⟩
    change (if id = 0 then some (InstanceDocument.mk .initializing none) else none) = _ at hdocument
    split_ifs at hdocument
    cases hdocument
    exact heardAt_of_ne _ nofun
  have hdocument : w.instances 0 = some ⟨.running, some 0⟩ := rfl
  exact ⟨hdocument, running_heard hseen h₀ hdocument rfl⟩

theorem promptAt_lives (htimeout : 0 < timeout) (hlives : Lives operation.May w w')
    (hcheck : ∀ t visited, operation ≠ .manage (.onInstance (.checkStatus t visited)))
    (hunpause : ∀ uniqueName, operation ≠ .unpausePlugin uniqueName)
    (h : ∀ document, w.instances id = some document → document.PromptAt timeout w.now) :
    ∀ document, w'.instances id = some document → document.PromptAt timeout w'.now := by
  rw [hlives.clock]
  exact hlives.invariant
    (I := fun stored => ∀ document, stored = some document → document.PromptAt timeout w.now)
    (fun before after hedge => promptAt_edge htimeout (hedge.mono (may_anew hcheck hunpause))) h

theorem promptAt_ends (htimeout : 0 < timeout) (hprompt : Prompt timeout id operation w)
    (hends : operation.Ends w w')
    (h : ∀ document, w.instances id = some document → document.PromptAt timeout w.now) :
    ∀ document, w'.instances id = some document → document.PromptAt timeout w'.now := by
  by_cases hcheck : ∃ t visited, operation = .manage (.onInstance (.checkStatus t visited))
  · obtain ⟨t, visited, rfl⟩ := hcheck
    obtain rfl : t = timeout := hprompt
    obtain rfl := hends
    intro document hdocument
    change (if visited id then (w.instances id).map (checkInstance t w.now) else
      w.instances id) = some document at hdocument
    split_ifs at hdocument
    · obtain ⟨before, hbefore, rfl⟩ := Option.map_eq_some_iff.mp hdocument
      exact promptAt_checkInstance (h before hbefore)
    · exact h document hdocument
  · by_cases hwait : ∃ time, operation = .manage (.onInstance (.wait time))
    · obtain ⟨time, rfl⟩ := hwait
      obtain rfl := hends
      exact fun document hdocument => ⟨(h document hdocument).1, hprompt document hdocument⟩
    · refine promptAt_lives htimeout (lives_ends hends fun time heq => hwait ⟨time, heq⟩)
        (fun t visited heq => hcheck ⟨t, visited, heq⟩) ?_ h
      rintro uniqueName rfl
      exact hprompt

/-- Whatever else is done to the plugins: an instance that never takes the timeout
for its next heartbeat while it is shown as running is never shown as unresponsive. -/
theorem prompt_unsuspected (htimeout : 0 < timeout) {w₀ : World}
    (hseen : Runs.Seen LifecycleOperation.Ends LifecycleOperation.Passes (Prompt timeout id) w₀ w)
    (h₀ : ∀ document, w₀.instances id = some document → document.PromptAt timeout w₀.now)
    {document : InstanceDocument} (hdocument : w.instances id = some document) :
    document.status ≠ .unresponsive := by
  have h : ∀ document, w.instances id = some document → document.PromptAt timeout w.now := by
    refine Runs.Seen.invariant
      (I := fun w : World => ∀ document, w.instances id = some document →
        document.PromptAt timeout w.now) hseen h₀ ?_ ?_
    · exact fun operation _ _ hI hprompt hends => promptAt_ends htimeout hprompt hends hI
    · intro operation w w' hI hprompt hpasses
      refine promptAt_lives htimeout (lives_passes hpasses) ?_ ?_ hI
      · rintro t visited rfl
        exact hpasses
      · rintro uniqueName rfl
        exact hprompt
  exact (h document hdocument).1

theorem prompt_unsuspected_waited :
    let w := (InstanceOperation.wait 20).apply
      (heartbeatChecked (.single (singlePlugin "foo" []) .initializing .fresh))
    w.instances 0 = some ⟨.running, some 0⟩ ∧ Status.running ≠ .unresponsive := by
  intro w
  let w₀ := World.single (singlePlugin "foo" []) .initializing .fresh
  have hchecked : Runs.Reachable LifecycleOperation.Ends (Prompt 30 0) w₀ (heartbeatChecked w₀) :=
    .next (.manage (.onInstance (.checkStatus 30 fun _ => true)))
      (.next (.manage (.onInstance (.heartbeat 0))) .start trivial rfl) rfl rfl
  have hseen : Runs.Seen LifecycleOperation.Ends LifecycleOperation.Passes (Prompt 30 0) w₀ w := by
    refine .between (.next (.manage (.onInstance (.wait 20))) hchecked ?_ rfl)
    rintro document ⟨⟩ - heartbeat ⟨⟩
    decide
  have h₀ : ∀ document, w₀.instances 0 = some document → document.PromptAt 30 w₀.now := by
    rintro document ⟨⟩
    exact promptAt_of_ne _ (by decide)
  have hdocument : w.instances 0 = some ⟨.running, some 0⟩ := rfl
  exact ⟨hdocument, prompt_unsuspected (by decide) hseen h₀ hdocument⟩

end Runs

end Bartender
