import Bartender.Broker.Pyrabbit
import Mathlib.Data.List.Nodup
import Mathlib.Data.List.Perm.Basic
import Mathlib.Tactic

/-!
# Clearing a queue that others use

`clear_queue` reads the length of the queue once and gets that many messages,
while publishers and consumers go on. A schedule says what they do after each of
its calls; what they did before the first one is in the queue it starts with.
-/

namespace Bartender

open Attempts PyrabbitClient

structure QueuedMessage where
  tag : ℕ
  payload : String
  deriving DecidableEq, Repr

/-- Who has the messages at one moment. Those that `clear_queue` got are in the
order in which it did. -/
structure Moment where
  queue : List QueuedMessage
  consumed : List QueuedMessage
  taken : List QueuedMessage
  /-- The number of messages so far, which is the next tag. -/
  published : ℕ
  deriving DecidableEq, Repr

namespace Moment

variable (m : Moment)

def publish (payload : String) : Moment :=
  { m with queue := m.queue ++ [⟨m.published, payload⟩], published := m.published + 1 }

/-- A consumer takes the first message, and never puts it back. -/
def consume : Moment :=
  match m.queue with
  | [] => m
  | message :: queue => { m with queue := queue, consumed := m.consumed ++ [message] }

/-- `get_messages` with `count=1, requeue=False`. -/
def get : Option QueuedMessage × Moment :=
  match m.queue with
  | [] => (none, m)
  | message :: queue => (some message, { m with queue := queue, taken := m.taken ++ [message] })

/-- The messages that were published, in this order, and nothing else. -/
def start (payloads : List String) : Moment where
  queue := payloads.mapIdx fun tag payload => ⟨tag, payload⟩
  consumed := []
  taken := []
  published := payloads.length

end Moment

inductive QueueEvent
  | publish (payload : String)
  | consume
  deriving DecidableEq, Repr

def QueueEvent.run (m : Moment) : QueueEvent → Moment
  | publish payload => m.publish payload
  | consume => m.consume

structure Race where
  now : Moment
  /-- Every earlier moment. -/
  past : List Moment
  /-- The calls of `clear_queue` so far. -/
  clock : ℕ
  /-- What its gets were answered. -/
  answers : List (Option QueuedMessage)

namespace Moment

/-- Every message is held exactly once, and the queue is in the order of
publication. -/
structure Sound (m : Moment) : Prop where
  each : ((m.queue ++ m.consumed ++ m.taken).map QueuedMessage.tag).Perm (List.range m.published)
  ordered : (m.queue.map QueuedMessage.tag).Pairwise (· < ·)

theorem get_nil {m : Moment} (h : m.queue = []) : m.get = (none, m) := by
  unfold get
  rw [h]

theorem get_cons {m : Moment} {message : QueuedMessage} {queue : List QueuedMessage}
    (h : m.queue = message :: queue) :
    m.get = (some message, ⟨queue, m.consumed, m.taken ++ [message], m.published⟩) := by
  unfold get
  rw [h]

def left (bound : ℕ) (m : Moment) : ℕ := m.queue.countP fun message => message.tag < bound

variable {m : Moment}

theorem Sound.nodup (h : m.Sound) :
    ((m.queue ++ m.consumed ++ m.taken).map QueuedMessage.tag).Nodup :=
  h.each.nodup_iff.mpr List.nodup_range

theorem Sound.tag_lt (h : m.Sound) {message : QueuedMessage} (hmem : message ∈ m.queue) :
    message.tag < m.published := by
  have hheld : message.tag ∈ (m.queue ++ m.consumed ++ m.taken).map QueuedMessage.tag :=
    List.mem_map_of_mem (by simp [hmem])
  exact List.mem_range.mp (h.each.subset hheld)

theorem sound_start (payloads : List String) : (start payloads).Sound := by
  have htags : (payloads.mapIdx fun tag payload => (⟨tag, payload⟩ : QueuedMessage)).map
      QueuedMessage.tag = List.range payloads.length :=
    List.ext_getElem (by simp) fun i _ _ => by simp
  constructor
  · simp only [start, List.append_nil, htags]
    exact List.Perm.refl _
  · simp only [start, htags]
    exact List.pairwise_lt_range

theorem Sound.publish (h : m.Sound) (payload : String) : (m.publish payload).Sound where
  each := by
    let message : QueuedMessage := ⟨m.published, payload⟩
    have hfront : (m.queue ++ [message] ++ m.consumed ++ m.taken).Perm
        (message :: (m.queue ++ m.consumed ++ m.taken)) := by
      simp
    simp only [Moment.publish, List.range_succ]
    calc ((m.queue ++ [message] ++ m.consumed ++ m.taken).map QueuedMessage.tag)
        |>.Perm (m.published :: (m.queue ++ m.consumed ++ m.taken).map QueuedMessage.tag) :=
          hfront.map QueuedMessage.tag
      _ |>.Perm (m.published :: List.range m.published) := h.each.cons _
      _ |>.Perm (List.range m.published ++ [m.published]) :=
          (List.perm_append_singleton _ _).symm
  ordered := by
    simp only [Moment.publish, List.map_append, List.pairwise_append]
    refine ⟨h.ordered, List.pairwise_singleton _ _, ?_⟩
    intro tag htag other hother
    obtain ⟨message, hmessage, rfl⟩ := List.mem_map.mp htag
    rw [List.mem_singleton.mp hother]
    exact h.tag_lt hmessage

theorem Sound.pop (h : m.Sound) {message : QueuedMessage}
    {queue consumed taken : List QueuedMessage} (hqueue : m.queue = message :: queue)
    (hmove : (queue ++ consumed ++ taken).Perm (message :: (queue ++ m.consumed ++ m.taken))) :
    Sound ⟨queue, consumed, taken, m.published⟩ := by
  obtain ⟨heach, hordered⟩ := h
  rw [hqueue] at heach hordered
  exact ⟨(hmove.map QueuedMessage.tag).trans heach, hordered.of_cons⟩

theorem Sound.consume (h : m.Sound) : m.consume.Sound := by
  unfold Moment.consume
  cases hqueue : m.queue with
  | nil => exact h
  | cons message queue =>
    refine h.pop hqueue ?_
    simpa using @List.perm_middle _ message (queue ++ m.consumed) m.taken

theorem Sound.get (h : m.Sound) : m.get.2.Sound := by
  cases hqueue : m.queue with
  | nil =>
    rw [get_nil hqueue]
    exact h
  | cons message queue =>
    rw [get_cons hqueue]
    refine h.pop hqueue ?_
    simpa using @List.perm_middle _ message (queue ++ m.consumed ++ m.taken) []

theorem Sound.run (h : m.Sound) (event : QueueEvent) : (event.run m).Sound := by
  cases event with
  | publish payload => exact h.publish payload
  | consume => exact h.consume

theorem left_run_le {bound : ℕ} (hbound : bound ≤ m.published) (event : QueueEvent) :
    (event.run m).left bound ≤ m.left bound := by
  cases event with
  | publish payload =>
    have : ¬ m.published < bound := by omega
    simp [QueueEvent.run, Moment.publish, left, List.countP_append, this]
  | consume =>
    unfold QueueEvent.run Moment.consume left
    cases hqueue : m.queue with
    | nil => simp [hqueue]
    | cons message queue => exact (List.sublist_cons_self message queue).countP_le

theorem Sound.left_get_le (h : m.Sound) {bound n : ℕ} (hleft : m.left bound ≤ n + 1) :
    m.get.2.left bound ≤ n := by
  cases hqueue : m.queue with
  | nil =>
    rw [get_nil hqueue]
    simp [left, hqueue]
  | cons message queue =>
    rw [get_cons hqueue]
    rw [left, hqueue, List.countP_cons] at hleft
    by_cases hold : message.tag < bound
    · simpa [left, hold] using hleft
    · have hordered := h.ordered
      rw [hqueue, List.map_cons, List.pairwise_cons] at hordered
      have hnone : queue.countP (fun message => message.tag < bound) = 0 := by
        rw [List.countP_eq_zero]
        intro other hother
        have := hordered.1 other.tag (List.mem_map_of_mem hother)
        simp only [decide_eq_true_eq]
        omega
      show queue.countP _ ≤ n
      omega

end Moment

namespace Race

variable (r : Race)

def start (payloads : List String) : Race := ⟨.start payloads, [], 0, []⟩

def moments : List Moment := r.now :: r.past

def happen (event : QueueEvent) : Race :=
  { r with now := event.run r.now, past := r.now :: r.past }

def others (schedule : ℕ → List QueueEvent) : Race :=
  { (schedule r.clock).foldl happen r with clock := r.clock + 1 }

def get : Race :=
  { r with
    now := r.now.get.2
    past := r.now :: r.past
    answers := r.answers ++ [r.now.get.1] }

/-- One first-in first-out queue. A status update that is the call of this
number comes to this. -/
def api (name : String) (parse : String → Except ApiError String)
    (update : ℕ → Except ApiError Unit) (schedule : ℕ → List QueueEvent) : ManagementApi Race where
  getChannels r := (.ok none, r.others schedule)
  getChannel _ r := (.ok none, r.others schedule)
  deleteConnection _ r := (.error (.http 404), r.others schedule)
  getQueue queueName r :=
    if queueName = name then (.ok (some r.now.queue.length), r.others schedule)
    else (.error (.http 404), r.others schedule)
  getMessages queueName r :=
    if queueName = name then (.ok (r.now.get.1.map QueuedMessage.payload), r.get.others schedule)
    else (.error (.http 404), r.others schedule)
  deleteQueue _ r := (.error .other, r.others schedule)
  parseRequest := parse
  cancelRequest _ r := (update r.clock, r.others schedule)

variable {r} {schedule : ℕ → List QueueEvent} {bound n : ℕ}

/-- All along, and with at most `n` messages older than the bound in the queue. -/
structure Going (bound n : ℕ) (r : Race) : Prop where
  sound : ∀ m ∈ r.moments, m.Sound
  bound_le : bound ≤ r.now.published
  left_le : r.now.left bound ≤ n

theorem Going.happen (h : Going bound n r) (event : QueueEvent) :
    Going bound n (r.happen event) where
  sound := List.forall_mem_cons.mpr ⟨(h.sound r.now List.mem_cons_self).run event, h.sound⟩
  bound_le := by
    refine h.bound_le.trans ?_
    cases event with
    | publish payload => exact Nat.le_succ _
    | consume =>
      show r.now.published ≤ r.now.consume.published
      unfold Moment.consume
      split <;> exact le_rfl
  left_le := (Moment.left_run_le h.bound_le event).trans h.left_le

theorem others_induction {P : Race → Prop} (hclock : ∀ r clock, P r → P { r with clock := clock })
    (hhappen : ∀ r event, P r → P (r.happen event)) (h : P r) : P (r.others schedule) := by
  unfold others
  refine hclock _ _ ?_
  generalize schedule r.clock = events
  induction events generalizing r with
  | nil => exact h
  | cons event events ih => exact ih (hhappen r event h)

theorem Going.others (h : Going bound n r) : Going bound n (r.others schedule) :=
  others_induction (fun _ _ h => ⟨h.sound, h.bound_le, h.left_le⟩)
    (fun _ event h => h.happen event) h

@[simp] theorem others_taken : (r.others schedule).now.taken = r.now.taken := by
  refine others_induction (P := fun r' => r'.now.taken = r.now.taken) (fun _ _ h => h) ?_ rfl
  rintro r' (payload | _) h
  · exact h
  · rw [← h]
    show r'.now.consume.taken = r'.now.taken
    unfold Moment.consume
    split <;> rfl

@[simp] theorem others_answers : (r.others schedule).answers = r.answers :=
  others_induction (P := fun r' => r'.answers = r.answers) (fun _ _ h => h) (fun _ _ h => h) rfl

theorem Going.get (h : Going bound (n + 1) r) : Going bound n r.get where
  sound := List.forall_mem_cons.mpr ⟨(h.sound r.now List.mem_cons_self).get, h.sound⟩
  bound_le := by
    refine h.bound_le.trans ?_
    show r.now.published ≤ r.now.get.2.published
    unfold Moment.get
    split <;> exact le_rfl
  left_le := (h.sound r.now List.mem_cons_self).left_get_le h.left_le

section Loop

variable {name : String} {parse : String → Except ApiError String}
  {update : ℕ → Except ApiError Unit}

def requestId (parse : String → Except ApiError String) (message : QueuedMessage) : Option String :=
  (parse message.payload).toOption

def canceledId : ApiCall → Option String
  | .cancelRequest id => some id
  | _ => none

/-- The calls so far, against the messages that were taken. -/
structure Accounts (name : String) (parse : String → Except ApiError String)
    (s : Session Race) : Prop where
  gets : s.calls.count (.getMessages name) = s.broker.answers.length
  canceled : s.calls.filterMap canceledId = s.broker.now.taken.filterMap (requestId parse)

/-- One status update is asked for, if the message can be parsed, and nothing is
taken from the queue. -/
structure AsksFor (name : String) (message : QueuedMessage)
    (parse : String → Except ApiError String) (s s' : Session Race) : Prop where
  taken : s'.broker.now.taken = s.broker.now.taken
  answers : s'.broker.answers = s.broker.answers
  going : ∀ {bound n}, Going bound n s.broker → Going bound n s'.broker
  gets : s'.calls.count (.getMessages name) = s.calls.count (.getMessages name)
  canceled : s'.calls.filterMap canceledId =
    s.calls.filterMap canceledId ++ [message].filterMap (requestId parse)

theorem returns_cancelMessage (message : QueuedMessage) (s : Session Race) :
    Returns (cancelMessage (api name parse update schedule) message.payload) s fun _ s' =>
      AsksFor name message parse s s' := by
  refine cancelMessage_rule _ (fun e hparse => ?_) fun id hparse => ?_
  · have hnone : [message].filterMap (requestId parse) = [] := by
      simp [requestId, show parse message.payload = .error e from hparse, Except.toOption]
    exact ⟨rfl, rfl, id, rfl, by rw [hnone, List.append_nil]⟩
  · have hsome : [message].filterMap (requestId parse) = [id] := by
      simp [requestId, show parse message.payload = .ok id from hparse, Except.toOption]
    exact ⟨others_taken, others_answers, Going.others, by simp, by simp [canceledId, hsome]⟩

/-- How the loop can end: with all the messages it was to get, or because the
queue was empty before that. -/
def Complete (total : ℕ) (r : Race) : Prop :=
  (r.answers = r.now.taken.map some ∧ r.now.taken.length = total) ∨
    (r.answers = r.now.taken.map some ++ [none] ∧ r.now.taken.length < total)

/-- By induction on the number of messages that are still to be got. -/
theorem returns_clearMessages {total : ℕ} {s : Session Race} (hgoing : s.broker.Going bound n)
    (haccounts : Accounts name parse s)
    (hanswers : s.broker.answers = s.broker.now.taken.map some)
    (htotal : s.broker.now.taken.length + n = total) :
    Returns (clearMessages (api name parse update schedule) name n) s fun _ s' =>
      s'.broker.Going bound 0 ∧ Accounts name parse s' ∧ Complete total s'.broker := by
  induction n generalizing s with
  | zero => exact returns_pure ⟨hgoing, haccounts, .inl ⟨hanswers, htotal⟩⟩
  | succ n ih =>
    have hget : Returns (call (.getMessages name)
        ((api name parse update schedule).getMessages name)) s fun payload s₁ =>
          payload = s.broker.now.get.1.map QueuedMessage.payload ∧
            s₁ = ⟨s.broker.get.others schedule, s.calls ++ [.getMessages name]⟩ := by
      refine ⟨_, _, ?_, rfl, rfl⟩
      rw [exec_call]
      simp only [api, if_true]
    refine hget.bind fun payload s₁ h₁ => ?_
    obtain ⟨rfl, rfl⟩ := h₁
    cases hqueue : s.broker.now.queue with
    | nil =>
      have hempty := Moment.get_nil hqueue
      have hnone : Going bound 0 s.broker.get := by
        refine ⟨hgoing.get.sound, hgoing.get.bound_le, ?_⟩
        simp [Race.get, hempty, Moment.left, hqueue]
      simp only [hempty, Option.map_none]
      refine returns_pure ⟨hnone.others, ⟨?_, ?_⟩, .inr ⟨?_, ?_⟩⟩
      · simp [Race.get, haccounts.gets]
      · simp [Race.get, hempty, haccounts.canceled, canceledId]
      · simp [Race.get, hempty, hanswers]
      · simp only [others_taken, Race.get, hempty]
        omega
    | cons message queue =>
      have hfirst := Moment.get_cons hqueue
      have htaken : s.broker.get.now.taken = s.broker.now.taken ++ [message] := by
        simp [Race.get, hfirst]
      simp only [hfirst, Option.map_some]
      refine (returns_cancelMessage message _).bind fun _ s₂ h₂ => ?_
      refine ih (h₂.going hgoing.get.others) ⟨?_, ?_⟩ ?_ ?_
      · rw [h₂.gets, h₂.answers]
        simp [Race.get, haccounts.gets]
      · rw [h₂.canceled, h₂.taken, others_taken, htaken, List.filterMap_append]
        simp [haccounts.canceled, canceledId]
      · rw [h₂.answers, h₂.taken]
        simp [Race.get, hfirst, hanswers]
      · rw [h₂.taken, others_taken, htaken, List.length_append, List.length_singleton]
        omega

/-- What holds after `clear_queue`, and of every moment while it ran. -/
structure Cleared (name : String) (parse : String → Except ApiError String)
    (payloads : List String) (s : Session Race) : Prop where
  gets_le : s.calls.count (.getMessages name) ≤ payloads.length
  held_once : ∀ m ∈ s.broker.moments,
    ((m.queue ++ m.consumed ++ m.taken).map QueuedMessage.tag).Nodup
  none_left : ∀ message ∈ (Moment.start payloads).queue, message ∉ s.broker.now.queue
  /-- In the order in which the messages were taken, one update a message. -/
  canceled : s.calls.filterMap canceledId = s.broker.now.taken.filterMap (requestId parse)
  complete : Complete payloads.length s.broker

theorem left_start (payloads : List String) :
    (Moment.start payloads).left payloads.length ≤ payloads.length := by
  refine List.countP_le_length.trans ?_
  simp [Moment.start]

theorem tag_lt_of_mem_start {payloads : List String} {message : QueuedMessage}
    (h : message ∈ (Moment.start payloads).queue) : message.tag < payloads.length :=
  (Moment.sound_start payloads).tag_lt h

/-- Whatever publishers and consumers do meanwhile, and whatever cannot be parsed
or updated, `clear_queue` returns; it gets no more messages than were ready, none
of which is left in the queue, and asks for one update for each it took and can
parse. -/
theorem clearQueue_cleared (name : String) (parse : String → Except ApiError String)
    (update : ℕ → Except ApiError Unit) (schedule : ℕ → List QueueEvent) (payloads : List String) :
    Returns (clearQueue (api name parse update schedule) name) ⟨start payloads, []⟩ fun _ s' =>
      Cleared name parse payloads s' := by
  have hstart : Going payloads.length payloads.length (start payloads) :=
    ⟨List.forall_mem_singleton.mpr (Moment.sound_start payloads), le_rfl, left_start payloads⟩
  have hread : Returns (call (.getQueue name) ((api name parse update schedule).getQueue name))
      ⟨start payloads, []⟩ fun ready s₁ => ready = some (payloads.length : ℤ) ∧
        s₁ = ⟨(start payloads).others schedule, [.getQueue name]⟩ := by
    refine ⟨_, _, ?_, rfl, rfl⟩
    rw [exec_call]
    simp [api, start, Moment.start]
  refine hread.bind fun ready s₁ h₁ => ?_
  obtain ⟨rfl, rfl⟩ := h₁
  have haccounts : Accounts name parse ⟨(start payloads).others schedule, [.getQueue name]⟩ := by
    constructor
    · simp [start]
    · simp [start, Moment.start, canceledId]
  have hloop := @returns_clearMessages schedule payloads.length payloads.length name parse update
    payloads.length _ hstart.others haccounts (by simp [start, Moment.start])
    (by simp [start, Moment.start])
  refine hloop.imp fun _ s' h' => ?_
  obtain ⟨hgoing, haccounts', hcomplete⟩ := h'
  refine ⟨?_, fun m hm => (hgoing.sound m hm).nodup, ?_, haccounts'.canceled, hcomplete⟩
  · rw [haccounts'.gets]
    rcases hcomplete with ⟨hanswers', hlength⟩ | ⟨hanswers', hlength⟩
    · simp [hanswers', hlength]
    · simp only [hanswers', List.length_append, List.length_map, List.length_singleton]
      omega
  · intro message hmessage hleft
    have hnone := List.countP_eq_zero.mp (Nat.le_zero.mp hgoing.left_le) message hleft
    exact hnone (decide_eq_true (tag_lt_of_mem_start hmessage))

end Loop

end Race
end Bartender
