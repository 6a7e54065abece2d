import Bartender.Broker.Pyrabbit
import Mathlib.Data.List.Nodup
import Mathlib.Tactic

/-!
# Disconnecting the consumers of a queue

`disconnect_consumers` walks over the channels it has listed before. Deleting a
connection takes its channels with it, so the walk meets channels that are gone
and connections that are already deleted; the first call that raises ends it.
-/

namespace Bartender

open Attempts

structure Channel where
  name : String
  connection : String
  /-- The queues that its consumers read, one entry a consumer. -/
  consumers : List String
  deriving DecidableEq, Repr

@[ext]
structure Links where
  connections : List String
  channels : List Channel
  names_nodup : (channels.map Channel.name).Nodup
  connected : ∀ channel ∈ channels, channel.connection ∈ connections

namespace Channel

variable (channel : Channel)

def details : List ConsumerDetails :=
  channel.consumers.map fun queueName => ⟨queueName, channel.connection⟩

end Channel

namespace Links

variable (links : Links)

/-- The connections that are kept, with their channels. -/
def keep (p : String → Bool) : Links where
  connections := links.connections.filter p
  channels := links.channels.filter fun channel => p channel.connection
  names_nodup := List.Nodup.sublist (List.filter_sublist.map _) links.names_nodup
  connected channel hchannel := by
    obtain ⟨hmem, hp⟩ := List.mem_filter.mp hchannel
    exact List.mem_filter.mpr ⟨links.connected channel hmem, hp⟩

def close (connection : String) : Links := links.keep fun other => other != connection

def findChannel (name : String) : Option Channel :=
  links.channels.find? fun channel => channel.name == name

/-- A management API over these connections. A connection that is not open
cannot be deleted; of the names in `gone`, looking up a closed channel raises.
The queues are given by another API, which may notice that a connection is
deleted. -/
def api {γ : Type} (gone : String → Bool) (queues : ManagementApi γ) :
    ManagementApi (Links × γ) where
  getChannels b := (.ok (some (b.1.channels.map Channel.name)), b)
  getChannel name b :=
    match b.1.findChannel name with
    | some channel => (.ok (some channel.details), b)
    | none => (if gone name then .error (.http 404) else .ok none, b)
  deleteConnection name b :=
    if name ∈ b.1.connections then (.ok (), b.1.close name, (queues.deleteConnection name b.2).2)
    else (.error (.http 404), b)
  getQueue name b := ((queues.getQueue name b.2).1, b.1, (queues.getQueue name b.2).2)
  getMessages name b := ((queues.getMessages name b.2).1, b.1, (queues.getMessages name b.2).2)
  deleteQueue name b := ((queues.deleteQueue name b.2).1, b.1, (queues.deleteQueue name b.2).2)
  parseRequest := queues.parseRequest
  cancelRequest id b := ((queues.cancelRequest id b.2).1, b.1, (queues.cancelRequest id b.2).2)

def closedBy (queueName : String) (channels : List Channel) (connection : String) : Bool :=
  channels.any fun channel =>
    channel.connection == connection && channel.consumers.contains queueName

/-- The walk raises at a channel: it meets a second consumer on the channel whose
connection it has just deleted, or it cannot look up a channel that is gone. -/
def aborts (queueName : String) (gone : String → Bool) (before : List Channel)
    (channel : Channel) : Bool :=
  if closedBy queueName before channel.connection then gone channel.name
  else decide (2 ≤ channel.consumers.count queueName)

/-- The channels that the walk gets to, the one at which it raises included. -/
def reached (queueName : String) (gone : String → Bool) :
    List Channel → List Channel → List Channel
  | _, [] => []
  | before, channel :: channels =>
    if aborts queueName gone before channel then [channel]
    else channel :: reached queueName gone (before ++ [channel]) channels

variable {links}

theorem keep_keep (p q : String → Bool) :
    (links.keep p).keep q = links.keep fun connection => p connection && q connection := by
  ext1 <;> simp [keep, List.filter_filter, Bool.and_comm]

theorem keep_eq_self {p : String → Bool} (h : ∀ connection ∈ links.connections, p connection) :
    links.keep p = links := by
  ext1
  · exact List.filter_eq_self.mpr h
  · exact List.filter_eq_self.mpr fun channel hchannel => h _ (links.connected channel hchannel)

/-- A listed channel is found by its name as long as its connection is kept. -/
theorem findChannel_keep {p : String → Bool} {channel : Channel}
    (hchannel : channel ∈ links.channels) :
    (links.keep p).findChannel channel.name =
      if p channel.connection then some channel else none := by
  have hname : ∀ other ∈ links.channels, other.name = channel.name → other = channel :=
    fun other hother h => List.inj_on_of_nodup_map links.names_nodup hother hchannel h
  cases hfind : (links.keep p).findChannel channel.name with
  | some other =>
    obtain ⟨hmem, hp⟩ := List.mem_filter.mp (List.mem_of_find?_eq_some hfind)
    have hsame : other = channel := hname other hmem (by simpa using List.find?_some hfind)
    subst hsame
    rw [if_pos hp]
  | none =>
    split
    · rename_i hp
      have hkept : channel ∈ (links.keep p).channels := List.mem_filter.mpr ⟨hchannel, hp⟩
      have := List.find?_eq_none.mp hfind channel hkept
      simp at this
    · rfl

theorem closedBy_concat (queueName : String) (before : List Channel) (channel : Channel)
    (connection : String) :
    closedBy queueName (before ++ [channel]) connection =
      (closedBy queueName before connection ||
        (channel.connection == connection && channel.consumers.contains queueName)) := by
  simp [closedBy]

def after (links : Links) (queueName : String) (channels : List Channel) : Links :=
  links.keep fun connection => !closedBy queueName channels connection

theorem after_concat_miss {queueName : String} {before : List Channel} {channel : Channel}
    (h : queueName ∉ channel.consumers) :
    links.after queueName (before ++ [channel]) = links.after queueName before := by
  unfold after
  congr 1
  funext connection
  simp [closedBy_concat, h]

theorem after_concat_closed {queueName : String} {before : List Channel} {channel : Channel}
    (h : closedBy queueName before channel.connection = true) :
    links.after queueName (before ++ [channel]) = links.after queueName before := by
  unfold after
  congr 1
  funext connection
  by_cases hconnection : channel.connection = connection
  · simp [closedBy_concat, ← hconnection, h]
  · simp [closedBy_concat, hconnection]

theorem after_concat_hit {queueName : String} {before : List Channel} {channel : Channel}
    (h : queueName ∈ channel.consumers) :
    links.after queueName (before ++ [channel]) =
      (links.after queueName before).close channel.connection := by
  unfold after close
  rw [keep_keep]
  congr 1
  funext connection
  by_cases hconnection : connection = channel.connection
  · simp [closedBy_concat, h, hconnection]
  · have hbeq : (channel.connection == connection) = false :=
      beq_eq_false_iff_ne.mpr (Ne.symm hconnection)
    have hbne : (connection != channel.connection) = true := bne_iff_ne.mpr hconnection
    simp [closedBy_concat, hbeq, hbne]

section Walk

open PyrabbitClient

variable {γ : Type} {gone : String → Bool} {queues : ManagementApi γ} {queueName : String}

/-- The loop over the consumers of one channel. -/
def deleteEach (gone : String → Bool) (queues : ManagementApi γ) (queueName : String)
    (details : List ConsumerDetails) : Program (Session (Links × γ)) ApiError Unit :=
  details.forM fun consumer =>
    if queueName = consumer.queueName then
      call (.deleteConnection consumer.connectionName)
        ((api gone queues).deleteConnection consumer.connectionName)
    else pure ()

def Ends {α : Type} (x : Program (Session (Links × γ)) ApiError α) (session : Session (Links × γ))
    (result : Except ApiError α) (links : Links) : Prop :=
  ∃ session', exec x session = (result, session') ∧ session'.broker.1 = links

theorem Ends.bind {α β : Type} {x : Program (Session (Links × γ)) ApiError α}
    {f : α → Program (Session (Links × γ)) ApiError β} {session : Session (Links × γ)} {a : α}
    {result : Except ApiError β} {links : Links}
    (h : ∃ session', exec x session = (.ok a, session') ∧ Ends (f a) session' result links) :
    Ends (x >>= f) session result links := by
  obtain ⟨session', hx, session'', hf, hlinks⟩ := h
  refine ⟨session'', ?_, hlinks⟩
  rw [exec_bind, hx]
  exact hf

theorem Ends.bind_error {α β : Type} {x : Program (Session (Links × γ)) ApiError α}
    {f : α → Program (Session (Links × γ)) ApiError β} {session : Session (Links × γ)}
    {error : ApiError} {links : Links} (h : Ends x session (.error error) links) :
    Ends (x >>= f) session (.error error) links := by
  obtain ⟨session', hx, hlinks⟩ := h
  refine ⟨session', ?_, hlinks⟩
  rw [exec_bind, hx]

theorem ends_deleteEach_closed {connection : String} {session : Session (Links × γ)}
    (hclosed : connection ∉ session.broker.1.connections) (consumers : List String) :
    Ends (deleteEach gone queues queueName (consumers.map fun name => ⟨name, connection⟩)) session
      (if queueName ∈ consumers then .error (.http 404) else .ok ()) session.broker.1 := by
  induction consumers with
  | nil => exact ⟨session, rfl, rfl⟩
  | cons name consumers ih =>
    unfold deleteEach at ih ⊢
    rw [List.map_cons, List.forM_eq_forM, List.forM_cons]
    by_cases hname : queueName = name
    · simp only [hname, List.mem_cons_self, if_true]
      refine Ends.bind_error
        ⟨⟨session.broker, session.calls ++ [.deleteConnection connection]⟩, ?_, rfl⟩
      rw [exec_call]
      simp only [api, if_neg hclosed]
    · simp only [hname, List.mem_cons, false_or, if_false]
      exact Ends.bind ⟨session, exec_pure _ _, ih⟩

/-- On an open connection the first consumer on the queue closes it, and the
second one raises. -/
theorem ends_deleteEach {connection : String} {session : Session (Links × γ)}
    (hopen : connection ∈ session.broker.1.connections) (consumers : List String) :
    Ends (deleteEach gone queues queueName (consumers.map fun name => ⟨name, connection⟩)) session
      (if 2 ≤ consumers.count queueName then .error (.http 404) else .ok ())
      (if queueName ∈ consumers then session.broker.1.close connection
        else session.broker.1) := by
  induction consumers with
  | nil => exact ⟨session, rfl, rfl⟩
  | cons name consumers ih =>
    by_cases hname : queueName = name
    · subst hname
      have hclosed : connection ∉ (session.broker.1.close connection).connections := by
        simp [close, keep]
      have hcount : 2 ≤ (queueName :: consumers).count queueName ↔ queueName ∈ consumers := by
        rw [List.count_cons_self, ← List.count_pos_iff]
        omega
      have hdelete : exec (call (.deleteConnection connection)
          ((api gone queues).deleteConnection connection)) session =
          (.ok (), ⟨(session.broker.1.close connection,
            (queues.deleteConnection connection session.broker.2).2),
            session.calls ++ [.deleteConnection connection]⟩) := by
        rw [exec_call]
        simp only [api, if_pos hopen]
      simp only [hcount, List.mem_cons_self, if_true]
      unfold deleteEach
      rw [List.map_cons, List.forM_eq_forM, List.forM_cons]
      simp only [if_true]
      refine Ends.bind ⟨_, hdelete, ?_⟩
      exact ends_deleteEach_closed hclosed consumers
    · have hcount : (name :: consumers).count queueName = consumers.count queueName :=
        List.count_cons_of_ne (Ne.symm hname)
      unfold deleteEach at ih ⊢
      rw [List.map_cons, List.forM_eq_forM, List.forM_cons, hcount]
      simp only [hname, List.mem_cons, false_or, if_false]
      exact Ends.bind ⟨session, exec_pure _ _, ih⟩

def visit (gone : String → Bool) (queues : ManagementApi γ) (queueName : String) (name : String) :
    Program (Session (Links × γ)) ApiError Unit := do
  let details ← call (.getChannel name) ((api gone queues).getChannel name)
  deleteEach gone queues queueName (details.getD [])

theorem ends_visit {before : List Channel} {channel : Channel} (hchannel : channel ∈ links.channels)
    {session : Session (Links × γ)} (hsession : session.broker.1 = links.after queueName before) :
    Ends (visit gone queues queueName channel.name) session
      (if aborts queueName gone before channel then .error (.http 404) else .ok ())
      (links.after queueName (before ++ [channel])) := by
  have hfind : session.broker.1.findChannel channel.name =
      if !closedBy queueName before channel.connection then some channel else none := by
    rw [hsession]
    exact findChannel_keep hchannel
  have hget : exec (call (.getChannel channel.name) ((api gone queues).getChannel channel.name))
      session = (match session.broker.1.findChannel channel.name with
        | some found => .ok (some found.details)
        | none => if gone channel.name then .error (.http 404) else .ok none,
      ⟨session.broker, session.calls ++ [.getChannel channel.name]⟩) := by
    rw [exec_call]
    simp only [api]
    cases session.broker.1.findChannel channel.name <;> rfl
  unfold visit aborts
  cases hclosed : closedBy queueName before channel.connection with
  | true =>
    rw [hfind, hclosed] at hget
    rw [after_concat_closed hclosed, ← hsession]
    cases hgone : gone channel.name with
    | true =>
      rw [hgone] at hget
      exact Ends.bind_error ⟨_, hget, rfl⟩
    | false =>
      rw [hgone] at hget
      exact Ends.bind ⟨_, hget, _, exec_pure _ _, rfl⟩
  | false =>
    rw [hfind, hclosed] at hget
    have hopen : channel.connection ∈ session.broker.1.connections := by
      rw [hsession]
      exact List.mem_filter.mpr ⟨links.connected channel hchannel, by rw [hclosed]; rfl⟩
    have hafter : links.after queueName (before ++ [channel]) =
        if queueName ∈ channel.consumers then session.broker.1.close channel.connection
        else session.broker.1 := by
      split
      · rename_i hmem
        rw [hsession, after_concat_hit hmem]
      · rename_i hmem
        rw [hsession, after_concat_miss hmem]
    have hdelete := @ends_deleteEach γ gone queues queueName channel.connection
      ⟨session.broker, session.calls ++ [.getChannel channel.name]⟩ hopen channel.consumers
    rw [hafter]
    simp only [Bool.false_eq_true, if_false, decide_eq_true_eq]
    exact Ends.bind ⟨_, hget, hdelete⟩

/-- The walk over the rest of the channels, by induction on them. -/
theorem ends_walk {channels : List Channel}
    (hchannels : ∀ channel ∈ channels, channel ∈ links.channels)
    {before : List Channel} {session : Session (Links × γ)}
    (hsession : session.broker.1 = links.after queueName before) :
    ∃ result, Ends ((channels.map Channel.name).forM (visit gone queues queueName)) session result
      (links.after queueName (before ++ reached queueName gone before channels)) := by
  induction channels generalizing before session with
  | nil =>
    refine ⟨.ok (), session, rfl, ?_⟩
    rw [reached, List.append_nil, hsession]
  | cons channel channels ih =>
    have hvisit := @ends_visit links γ gone queues queueName before channel
      (hchannels channel List.mem_cons_self) session hsession
    rw [List.map_cons, List.forM_eq_forM, List.forM_cons, reached]
    cases haborts : aborts queueName gone before channel with
    | true =>
      rw [haborts, if_pos rfl] at hvisit
      exact ⟨_, Ends.bind_error hvisit⟩
    | false =>
      rw [haborts, if_neg Bool.false_ne_true] at hvisit
      obtain ⟨session', hexec, hlinks⟩ := hvisit
      obtain ⟨result, hrest⟩ :=
        ih (fun other hother => hchannels other (List.mem_cons_of_mem _ hother)) hlinks
      rw [List.append_assoc] at hrest
      exact ⟨result, Ends.bind ⟨session', hexec, hrest⟩⟩

theorem disconnectConsumers_links (session : Session (Links × γ)) :
    (exec (disconnectConsumers (api gone queues) queueName) session).2.broker.1 =
      session.broker.1.after queueName
        (reached queueName gone [] session.broker.1.channels) := by
  have hlist : exec (call .getChannels (api gone queues).getChannels) session =
      (.ok (some (session.broker.1.channels.map Channel.name)),
        ⟨session.broker, session.calls ++ [.getChannels]⟩) := rfl
  have hbefore : session.broker.1 = session.broker.1.after queueName [] :=
    (keep_eq_self fun _ _ => rfl).symm
  obtain ⟨result, hwalk⟩ := @ends_walk session.broker.1 γ gone queues queueName
    session.broker.1.channels (fun _ h => h) []
    ⟨session.broker, session.calls ++ [.getChannels]⟩ hbefore
  have hends : Ends (disconnectConsumers (api gone queues) queueName) session result
      (session.broker.1.after queueName
        ([] ++ reached queueName gone [] session.broker.1.channels)) := by
    unfold disconnectConsumers
    exact Ends.bind ⟨_, hlist, hwalk⟩
  obtain ⟨session', hexec, hlinks⟩ := hends
  rw [hexec]
  exact hlinks

def SameLinks (session session' : Session (Links × γ)) : Prop :=
  session'.broker.1 = session.broker.1

instance : Std.Refl (SameLinks (γ := γ)) := ⟨fun _ => rfl⟩

instance : IsTrans (Session (Links × γ)) SameLinks := ⟨fun _ _ _ h h' => h'.trans h⟩

theorem destroyQueue_links (session : Session (Links × γ)) :
    (exec (destroyQueue (api gone queues) (some queueName) true) session).2.broker.1 =
      session.broker.1.after queueName
        (reached queueName gone [] session.broker.1.channels) := by
  have hclear : Moves SameLinks (clearQueue (api gone queues) queueName) :=
    moves_clearQueue (fun _ => rfl) (fun _ => rfl) fun _ _ => rfl
  have hdelete : Moves SameLinks (deleteQueue (api gone queues) queueName) := fun _ => rfl
  have hrest := hclear.swallow.bind fun _ => hdelete.swallow
  rw [← disconnectConsumers_links session]
  unfold destroyQueue
  simp only [if_true]
  rw [exec_bind, exec_swallow]
  exact hrest _

end Walk

theorem reached_initial (queueName : String) (gone : String → Bool)
    (before channels : List Channel) : reached queueName gone before channels <+: channels := by
  induction channels generalizing before with
  | nil => exact List.prefix_refl _
  | cons channel channels ih =>
    rw [reached]
    split
    · exact List.prefix_append [channel] channels
    · exact List.prefix_cons_inj channel |>.mpr (ih _)

theorem closedBy_iff {queueName : String} {channels : List Channel} {connection : String} :
    closedBy queueName channels connection = true ↔
      ∃ channel ∈ channels, channel.connection = connection ∧ queueName ∈ channel.consumers := by
  simp [closedBy]

theorem closedBy_mono {queueName : String} {channels channels' : List Channel} {connection : String}
    (h : channels ⊆ channels') (hclosed : closedBy queueName channels connection = true) :
    closedBy queueName channels' connection = true := by
  obtain ⟨channel, hmem, hchannel⟩ := closedBy_iff.mp hclosed
  exact closedBy_iff.mpr ⟨channel, h hmem, hchannel⟩

theorem reached_prefix_of_aborts {queueName : String} {gone : String → Bool}
    {before first : List Channel} {channel : Channel} (later : List Channel)
    (haborts : aborts queueName gone (before ++ first) channel = true) :
    reached queueName gone before (first ++ channel :: later) <+: first ++ [channel] := by
  induction first generalizing before with
  | nil =>
    rw [List.append_nil] at haborts
    rw [List.nil_append, reached, if_pos haborts]
    exact List.prefix_refl _
  | cons head first ih =>
    rw [List.cons_append, reached]
    split
    · exact List.prefix_append [head] (first ++ [channel])
    · refine List.prefix_cons_inj head |>.mpr (ih ?_)
      rwa [List.append_assoc, List.singleton_append]

theorem reached_eq_or (queueName : String) (gone : String → Bool) (before channels : List Channel) :
    reached queueName gone before channels = channels ∨
      ∃ first channel later, channels = first ++ channel :: later ∧
        aborts queueName gone (before ++ first) channel = true ∧
        reached queueName gone before channels = first ++ [channel] := by
  induction channels generalizing before with
  | nil => exact .inl rfl
  | cons channel channels ih =>
    rw [reached]
    split
    · rename_i haborts
      exact .inr ⟨[], channel, channels, rfl, by rwa [List.append_nil], rfl⟩
    · rcases ih (before ++ [channel]) with hall | ⟨first, raised, later, hsplit, haborts, hreached⟩
      · exact .inl (by rw [hall])
      · refine .inr ⟨channel :: first, raised, later, ?_, ?_, ?_⟩
        · rw [hsplit, List.cons_append]
        · rwa [List.append_assoc, List.singleton_append] at haborts
        · rw [hreached, List.cons_append]

/-- The walk gets to every connection if and only if, wherever it raises, no
later one is left. -/
theorem closedBy_reached_iff (queueName : String) (gone : String → Bool)
    (channels : List Channel) :
    (∀ channel ∈ channels, queueName ∈ channel.consumers →
        closedBy queueName (reached queueName gone [] channels) channel.connection = true) ↔
      ∀ first channel later, channels = first ++ channel :: later →
        aborts queueName gone first channel = true →
        ∀ other ∈ later, queueName ∈ other.consumers →
          closedBy queueName (first ++ [channel]) other.connection = true := by
  constructor
  · rintro hall first channel later rfl haborts other hother hconsumer
    have hinitial := @reached_prefix_of_aborts queueName gone [] first channel later haborts
    exact closedBy_mono hinitial.subset (hall other (by simp [hother]) hconsumer)
  · intro hlater other hother hconsumer
    rcases reached_eq_or queueName gone [] channels with
      hall | ⟨first, channel, later, rfl, haborts, hreached⟩
    · rw [hall]
      exact closedBy_iff.mpr ⟨other, hother, rfl, hconsumer⟩
    · rw [hreached]
      rw [List.append_cons, List.mem_append] at hother
      rcases hother with hvisited | hleft
      · exact closedBy_iff.mpr ⟨other, hvisited, rfl, hconsumer⟩
      · exact hlater first channel later rfl haborts other hleft hconsumer

/-- `destroy_queue` disconnects exactly the consumers of the queue if and only
if no channel at which the walk raises comes before a consumer's channel whose
connection has none up to there. -/
theorem destroyQueue_disconnects_iff {γ : Type} (gone : String → Bool) (queues : ManagementApi γ)
    (queueName : String) (session : Session (Links × γ)) :
    (∀ connection ∈ session.broker.1.connections,
        connection ∈ (exec (PyrabbitClient.destroyQueue (api gone queues) (some queueName) true)
            session).2.broker.1.connections ↔
          ¬ ∃ channel ∈ session.broker.1.channels,
            channel.connection = connection ∧ queueName ∈ channel.consumers) ↔
      ∀ first channel later, session.broker.1.channels = first ++ channel :: later →
        aborts queueName gone first channel = true →
        ∀ other ∈ later, queueName ∈ other.consumers →
          closedBy queueName (first ++ [channel]) other.connection = true := by
  rw [← closedBy_reached_iff, destroyQueue_links]
  have hopen : ∀ connection ∈ session.broker.1.connections, ∀ channels,
      connection ∈ (session.broker.1.after queueName channels).connections ↔
        ¬ closedBy queueName channels connection = true := by
    intro connection hconnection channels
    rw [after, keep, List.mem_filter]
    simp [hconnection]
  have hsub := (reached_initial queueName gone [] session.broker.1.channels).subset
  constructor
  · intro hexact channel hchannel hconsumer
    by_contra hmissed
    have hconnection := session.broker.1.connected channel hchannel
    have hkept := (hopen _ hconnection _).mpr hmissed
    exact (hexact _ hconnection).mp hkept ⟨channel, hchannel, rfl, hconsumer⟩
  · intro hall connection hconnection
    rw [hopen connection hconnection, ← closedBy_iff, not_iff_not]
    refine ⟨closedBy_mono hsub, fun hclosed => ?_⟩
    obtain ⟨channel, hchannel, rfl, hconsumer⟩ := closedBy_iff.mp hclosed
    exact hall channel hchannel hconsumer

/-- The first of two clients reads the queue twice on one channel, the second
one once. -/
def twoClients : Links where
  connections := ["first", "second"]
  channels := [⟨"first (1)", "first", ["queue", "queue"]⟩, ⟨"second (1)", "second", ["queue"]⟩]
  names_nodup := by decide
  connected := by decide

/-- The queue is empty, and everything else succeeds. -/
def emptyQueue : ManagementApi Unit where
  getChannels _ := (.ok none, ())
  getChannel _ _ := (.ok none, ())
  deleteConnection _ _ := (.ok (), ())
  getQueue _ _ := (.ok (some 0), ())
  getMessages _ _ := (.ok none, ())
  deleteQueue _ _ := (.ok (), ())
  parseRequest := .ok
  cancelRequest _ _ := (.ok (), ())

/-- Deleting the first client's connection a second time ends the walk, and the
second client stays connected. -/
theorem destroyQueue_leaves_second :
    ¬ ∀ connection ∈ twoClients.connections,
      connection ∈ (exec (PyrabbitClient.destroyQueue (api (fun _ => false) emptyQueue)
          (some "queue") true) ⟨(twoClients, ()), []⟩).2.broker.1.connections ↔
        ¬ ∃ channel ∈ twoClients.channels,
          channel.connection = connection ∧ "queue" ∈ channel.consumers := by
  rw [destroyQueue_links]
  decide

end Links
end Bartender
