import Bsdvr.Runs.Replies

namespace Bsdvr
open Foundation

/-- An entry of the pending reply queue, the number it was accepted under, and the time and the
timeout then. -/
structure Accepted where
  serial : Nat
  entry : PendingReplyEntry
  accepted : Time
  timeout : Time
  deriving DecidableEq, Repr

structure Callback where
  reply : Accepted
  node : Node

def Callback.sent (callback : Callback) : List Sent :=
  callback.node.sendUpdateOnPendingReplyEntryTimeout callback.reply.entry

namespace Node

inductive AnswerCall
  | event (event : Event)
  | dequeue (ne : Ipv4Address)
  | dropEntryWithNeighbor (ne : Ipv4Address)
  | setQueueTimeout (timeout : Time)

/-- A node, the replies that wait in its queue, the number of those it has accepted and the calls of
the callback. -/
structure Answering where
  node : Node
  waiting : List Accepted
  serial : Nat
  called : List Callback

namespace Answering

def due (state : Answering) (now : Time) : List Accepted :=
  state.waiting.filter (·.entry.expired now)
def kept (state : Answering) (now : Time) : List Accepted :=
  state.waiting.filter fun reply => !reply.entry.expired now

def enqueue (state : Answering) (before : Node) (entry : PendingReplyEntry) : Answering :=
  let kept := state.kept before.now
  let purged := { state with
    waiting := kept
    called := state.called ++ (state.due before.now).map fun reply => ⟨reply, before⟩ }
  if kept.any (fun reply => reply.entry.neighbor = entry.neighbor ∧
    reply.entry.destination = entry.destination) then
    purged
  else
    let timeout := before.prqueue.timeout
    let added : Accepted := ⟨state.serial, { entry with time := timeout + before.now },
      before.now, timeout⟩
    { purged with
      waiting := (if kept.length = before.prqueue.maxLen.toNat then kept.tail else kept) ++ [added]
      serial := state.serial + 1 }

def next (state : Answering) : AnswerCall → Option Answering
  | .event event =>
      (state.node.next event).map fun after =>
        match state.node.enqueues event with
        | none => { state with node := after }
        | some (before, entry) => { state.enqueue before entry with node := after }
  | .dequeue ne =>
      some { state with
        node := { state.node with prqueue := (state.node.prqueue.dequeue ne).2 }
        waiting := state.waiting.eraseP (·.entry.neighbor = ne) }
  | .dropEntryWithNeighbor ne =>
      some { state with
        node := { state.node with prqueue := state.node.prqueue.dropEntryWithNeighbor ne }
        waiting := state.waiting.filter (·.entry.neighbor ≠ ne) }
  | .setQueueTimeout timeout =>
      some { state with node :=
        { state.node with prqueue := state.node.prqueue.setQueueTimeout timeout } }

variable {state after : Answering} {call : AnswerCall} {before : Node} {entry : PendingReplyEntry}

/-! ## The replies are those in the queue -/

def Mirrors (state : Answering) : Prop :=
  state.waiting.map Accepted.entry = state.node.prqueue.queue

theorem kept_map (now : Time) : (state.kept now).map Accepted.entry =
    (state.waiting.map Accepted.entry).filter fun entry => !entry.expired now := by
  rw [kept, List.filter_map]
  rfl

theorem due_map (now : Time) : (state.due now).map Accepted.entry =
    (state.waiting.map Accepted.entry).filter (·.expired now) := by
  rw [due, List.filter_map]
  rfl

theorem Mirrors.enqueue (mirrors : state.Mirrors) (same : before.prqueue = state.node.prqueue) :
    (state.enqueue before entry).waiting.map Accepted.entry =
      ((before.prqueue.purge before.now).2.push before.now entry).queue := by
  have queue : (before.prqueue.purge before.now).2.queue =
      (state.kept before.now).map Accepted.entry := by
    rw [kept_map, mirrors, same]
    rfl
  have listed : BsdvrPendingReplyQueue.has (before.prqueue.purge before.now).2.queue entry =
      (state.kept before.now).any fun reply =>
        reply.entry.neighbor = entry.neighbor ∧ reply.entry.destination = entry.destination := by
    rw [queue, BsdvrPendingReplyQueue.has, List.any_map]
    rfl
  rw [BsdvrPendingReplyQueue.push_eq, listed]
  unfold Answering.enqueue
  simp only
  split
  · exact queue.symm
  · have limit : (before.prqueue.purge before.now).2.maxLen = before.prqueue.maxLen := rfl
    simp only [queue, List.length_map, limit, List.map_append, List.map_cons, List.map_nil]
    split
    · rw [List.map_tail]
      rfl
    · rfl

theorem handle_pushes {node : Node} {event : Event}
    (enqueued : node.enqueues event = some (before, entry)) :
    (node.handle event).1.prqueue = (before.prqueue.purge before.now).2.push before.now entry := by
  obtain ⟨_, _, result, _⟩ := handle_of_enqueues enqueued
  rw [result]
  rfl

theorem Mirrors.next (mirrors : state.Mirrors)
    (taken : state.next call = some after) : after.Mirrors := by
  cases call with
  | event event =>
      simp only [Answering.next] at taken
      obtain ⟨node, reached, rfl⟩ := Option.map_eq_some_iff.mp taken
      obtain ⟨_, rfl⟩ := next_eq_some reached
      cases enqueued : state.node.enqueues event with
      | none => exact mirrors.trans (congrArg BsdvrPendingReplyQueue.queue
          (handle_prqueue_of_not_enqueues enqueued)).symm
      | some call =>
          obtain ⟨before, entry⟩ := call
          obtain ⟨_, same, _⟩ := handle_of_enqueues enqueued
          exact (mirrors.enqueue same).trans
            (congrArg BsdvrPendingReplyQueue.queue (handle_pushes enqueued)).symm
  | dequeue ne =>
      obtain rfl := Option.some.inj taken
      unfold Mirrors at mirrors ⊢
      simp only [BsdvrPendingReplyQueue.dequeue, ← mirrors, List.eraseP_map]
      rfl
  | dropEntryWithNeighbor ne =>
      obtain rfl := Option.some.inj taken
      unfold Mirrors at mirrors ⊢
      simp only [BsdvrPendingReplyQueue.dropEntryWithNeighbor, ← mirrors, List.filter_map]
      rfl
  | setQueueTimeout timeout =>
      obtain rfl := Option.some.inj taken
      exact mirrors

/-! ## Every reply is called back once, and late -/

def serials (state : Answering) : List Nat :=
  state.waiting.map Accepted.serial ++ state.called.map fun callback => callback.reply.serial

/-- Replies that wait or were called back have different numbers, those that wait in the order in
which they were accepted, and the callback is made after the timeout. -/
structure Numbered (state : Answering) : Prop where
  nodup : state.serials.Nodup
  below : ∀ serial ∈ state.serials, serial < state.serial
  sorted : (state.waiting.map Accepted.serial).Pairwise (· < ·)
  timed : ∀ reply ∈ state.waiting, reply.entry.time = reply.timeout + reply.accepted
  late : ∀ callback ∈ state.called,
    callback.reply.entry.time = callback.reply.timeout + callback.reply.accepted ∧
    callback.reply.entry.time < callback.node.now

theorem Numbered.fewer (numbered : state.Numbered) {waiting : List Accepted}
    (fewer : waiting.Sublist state.waiting) (node : Node) :
    Numbered { state with node, waiting } := by
  have serials : (serials { state with node, waiting }).Sublist state.serials :=
    (fewer.map _).append_right _
  exact ⟨numbered.nodup.sublist serials, fun serial member =>
    numbered.below serial (serials.subset member), numbered.sorted.sublist (fewer.map _),
    fun reply member => numbered.timed reply (fewer.subset member), numbered.late⟩

def purged (state : Answering) (before : Node) : Answering :=
  { state with
    waiting := state.kept before.now
    called := state.called ++ (state.due before.now).map fun reply => ⟨reply, before⟩ }

theorem Numbered.purged (numbered : state.Numbered) (before : Node) :
    (state.purged before).Numbered := by
  have perm : (state.purged before).serials.Perm state.serials := by
    have halves := (List.filter_append_perm (fun reply => !reply.entry.expired before.now)
      state.waiting).map Accepted.serial
    simp only [Bool.not_not, List.map_append] at halves
    simp only [serials, Answering.purged, kept, due, List.map_append, List.map_map]
    refine List.Perm.trans ?_ (halves.append_right _)
    rw [List.append_assoc]
    exact List.Perm.append_left _ List.perm_append_comm
  refine ⟨perm.nodup_iff.mpr numbered.nodup, fun serial member =>
    numbered.below serial (perm.mem_iff.mp member),
    numbered.sorted.sublist (List.filter_sublist.map _), fun reply member => ?_,
    fun callback member => ?_⟩
  · exact numbered.timed reply (List.mem_of_mem_filter member)
  · rcases List.mem_append.mp member with old | new
    · exact numbered.late callback old
    · obtain ⟨reply, due, rfl⟩ := List.mem_map.mp new
      obtain ⟨waits, expired⟩ := List.mem_filter.mp due
      exact ⟨numbered.timed reply waits, by simpa [PendingReplyEntry.expired] using expired⟩

theorem Numbered.added (numbered : state.Numbered) {reply : Accepted} (serial : reply.serial = state.serial)
    (timed : reply.entry.time = reply.timeout + reply.accepted) :
    Numbered { state with waiting := state.waiting ++ [reply], serial := state.serial + 1 } := by
  have serials : serials { state with waiting := state.waiting ++ [reply], serial := state.serial + 1 } =
      state.waiting.map Accepted.serial ++ state.serial ::
        state.called.map fun callback => callback.reply.serial := by
    simp [Answering.serials, serial]
  refine ⟨?_, fun other member => ?_, ?_, fun other member => ?_, numbered.late⟩
  · rw [serials, List.nodup_middle, List.nodup_cons]
    exact ⟨fun member => Nat.lt_irrefl _ (numbered.below _ member), numbered.nodup⟩
  · rw [serials, List.mem_append, List.mem_cons] at member
    have old (among : other ∈ state.serials) : other < state.serial + 1 :=
      Nat.lt_succ_of_lt (numbered.below other among)
    rcases member with waits | rfl | called
    · exact old (List.mem_append_left _ waits)
    · exact Nat.lt_succ_self _
    · exact old (List.mem_append_right _ called)
  · rw [List.map_append, List.pairwise_append]
    refine ⟨numbered.sorted, List.pairwise_singleton _ _, fun first waits last member => ?_⟩
    rw [List.map_cons, List.map_nil, List.mem_singleton, serial] at member
    rw [member]
    exact numbered.below first (List.mem_append_left _ waits)
  · rcases List.mem_append.mp member with old | new
    · exact numbered.timed other old
    · rw [List.mem_singleton.mp new]
      exact timed

theorem Numbered.enqueue (numbered : state.Numbered) (before : Node) (entry : PendingReplyEntry) :
    (state.enqueue before entry).Numbered := by
  have purged := numbered.purged before
  unfold Answering.enqueue
  simp only
  split
  · exact purged
  · have room : (if (state.kept before.now).length = before.prqueue.maxLen.toNat then
        (state.kept before.now).tail
        else state.kept before.now).Sublist (state.kept before.now) := by
      split
      · exact List.tail_sublist _
      · exact List.Sublist.refl _
    exact (purged.fewer room state.node).added rfl rfl

theorem Numbered.next (numbered : state.Numbered)
    (taken : state.next call = some after) : after.Numbered := by
  cases call with
  | event event =>
      simp only [Answering.next] at taken
      obtain ⟨node, _, rfl⟩ := Option.map_eq_some_iff.mp taken
      cases state.node.enqueues event with
      | none => exact numbered.fewer (List.Sublist.refl _) node
      | some call => exact (numbered.enqueue call.1 call.2).fewer (List.Sublist.refl _) node
  | dequeue ne =>
      obtain rfl := Option.some.inj taken
      exact numbered.fewer List.eraseP_sublist _
  | dropEntryWithNeighbor ne =>
      obtain rfl := Option.some.inj taken
      exact numbered.fewer List.filter_sublist _
  | setQueueTimeout timeout =>
      obtain rfl := Option.some.inj taken
      exact numbered.fewer (List.Sublist.refl _) _

/-! ## How replies leave -/

/-- A reply is evicted where the queue is full of replies that have not expired, as the oldest of
them. -/
def Evicts (state : Answering) (call : AnswerCall) (reply : Accepted) : Prop :=
  ∃ event before entry, call = .event event ∧ state.node.enqueues event = some (before, entry) ∧
    (state.kept before.now).length = state.node.prqueue.maxLen.toNat ∧
      (state.kept before.now).head? = some reply

theorem enqueue_called (state : Answering) (before : Node) (entry : PendingReplyEntry) :
    (state.enqueue before entry).called =
      state.called ++ (state.due before.now).map fun reply => ⟨reply, before⟩ := by
  unfold Answering.enqueue
  simp only
  split
  · rfl
  · rfl

theorem mem_tail_or_head {replies : List Accepted} {reply : Accepted} (member : reply ∈ replies) :
    reply ∈ replies.tail ∨ replies.head? = some reply := by
  cases member with
  | head rest => exact .inr rfl
  | tail first later => exact .inl later

/-- A reply that has not expired stays, unless the queue is full of such replies and it is their
oldest. -/
theorem kept_enqueue {reply : Accepted} (kept : reply ∈ state.kept before.now)
    (entry : PendingReplyEntry) :
    reply ∈ (state.enqueue before entry).waiting ∨
      (state.kept before.now).length = before.prqueue.maxLen.toNat ∧
      (state.kept before.now).head? = some reply := by
  unfold Answering.enqueue
  simp only
  split
  · exact .inl kept
  · simp only [List.mem_append]
    split
    · rename_i full
      rcases mem_tail_or_head kept with later | oldest
      · exact .inl (.inl later)
      · exact .inr ⟨full, oldest⟩
    · exact .inl (.inl kept)

theorem leaves_cases (taken : state.next call = some after) :
    ∀ reply ∈ state.waiting, reply ∈ after.waiting ∨
    (∃ callback ∈ after.called, callback.reply = reply) ∨ call = .dequeue reply.entry.neighbor ∨
    call = .dropEntryWithNeighbor reply.entry.neighbor ∨ state.Evicts call reply := by
  intro reply waits
  cases call with
  | event event =>
      simp only [Answering.next] at taken
      obtain ⟨node, _, rfl⟩ := Option.map_eq_some_iff.mp taken
      cases enqueued : state.node.enqueues event with
      | none => exact .inl waits
      | some call =>
          obtain ⟨before, entry⟩ := call
          obtain ⟨_, same, _⟩ := handle_of_enqueues enqueued
          cases expired : reply.entry.expired before.now with
          | true =>
              have due : reply ∈ state.due before.now := List.mem_filter.mpr ⟨waits, expired⟩
              refine .inr (.inl ⟨⟨reply, before⟩, ?_, rfl⟩)
              simp only [enqueue_called]
              exact List.mem_append_right _ (List.mem_map_of_mem due)
          | false =>
              have kept : reply ∈ state.kept before.now :=
                List.mem_filter.mpr ⟨waits, by simp [expired]⟩
              rcases kept_enqueue kept entry with stays | ⟨full, oldest⟩
              · exact .inl stays
              · rw [same] at full
                exact .inr (.inr (.inr (.inr ⟨event, before, entry, rfl, enqueued, full, oldest⟩)))
  | dequeue ne =>
      obtain rfl := Option.some.inj taken
      by_cases same : reply.entry.neighbor = ne
      · exact .inr (.inr (.inl (by rw [same])))
      · exact .inl ((List.mem_eraseP_of_neg (by simpa using same)).mpr waits)
  | dropEntryWithNeighbor ne =>
      obtain rfl := Option.some.inj taken
      by_cases same : reply.entry.neighbor = ne
      · exact .inr (.inr (.inr (.inl (by rw [same]))))
      · exact .inl (List.mem_filter.mpr ⟨waits, by simpa using same⟩)
  | setQueueTimeout timeout =>
      obtain rfl := Option.some.inj taken
      exact .inl waits

theorem called_sends (mirrors : state.Mirrors) {event : Event}
    (taken : state.next (.event event) = some after) :
    ∃ new, after.called = state.called ++ new ∧
      (state.node.enqueues event = none → new = [] ∧
        ∀ prqueue, ((state.node.setPrqueue prqueue).handle event).2 = (state.node.handle event).2) ∧
      ((state.node.enqueues event).isSome →
        (state.node.handle event).2 = state.node.announcesChanges event ++
          new.flatMap Callback.sent) := by
  simp only [Answering.next] at taken
  obtain ⟨node, _, rfl⟩ := Option.map_eq_some_iff.mp taken
  cases enqueued : state.node.enqueues event with
  | none =>
      refine ⟨[], (List.append_nil _).symm, fun _ => ⟨rfl, fun prqueue => ?_⟩,
        fun called => by cases called⟩
      exact handle_sends_of_not_enqueues prqueue enqueued
  | some call =>
      obtain ⟨before, entry⟩ := call
      obtain ⟨_, same, _, sends⟩ := handle_of_enqueues enqueued
      refine ⟨(state.due before.now).map fun reply => ⟨reply, before⟩, ?_,
        fun idle => (by cases idle), fun _ => ?_⟩
      · exact state.enqueue_called before entry
      · have reported : (before.prqueue.purge before.now).1 =
            (state.due before.now).map Accepted.entry := by
          rw [due_map, mirrors, same]
          rfl
        rw [sends]
        simp only [enqueuePendingReply, reported, List.flatMap_map]
        rfl

theorem callback_sent (callback : Callback) : callback.sent.length ≤ 1 ∧ ∀ sent ∈ callback.sent,
    ∃ route, callback.node.ft[callback.reply.entry.destination]? = some route ∧
      callback.reply.entry.neighbor ∈ callback.node.neighbors ∧
      filtered callback.reply.entry.neighbor = false ∧
      route.state = .active ∧ route.nextHop ≠ callback.reply.entry.neighbor ∧
      sent = callback.node.sendUpdate route callback.reply.entry.neighbor := by
  refine ⟨?_, fun sent member => sendUpdateOnPendingReplyEntryTimeout_mem member⟩
  unfold Callback.sent sendUpdateOnPendingReplyEntryTimeout
  split
  · exact Nat.zero_le _
  · split
    · exact Nat.zero_le _
    · split
      · exact Nat.le_refl _
      · exact Nat.zero_le _

theorem maxLen_next (taken : state.next call = some after) :
    after.node.prqueue.maxLen = state.node.prqueue.maxLen := by
  cases call with
  | event event =>
      simp only [Answering.next] at taken
      obtain ⟨node, reached, rfl⟩ := Option.map_eq_some_iff.mp taken
      obtain ⟨_, rfl⟩ := next_eq_some reached
      cases enqueued : state.node.enqueues event with
      | none => exact congrArg BsdvrPendingReplyQueue.maxLen (handle_prqueue_of_not_enqueues enqueued)
      | some call =>
          obtain ⟨before, entry⟩ := call
          obtain ⟨_, same, _⟩ := handle_of_enqueues enqueued
          simp only [handle_pushes enqueued, ← same, BsdvrPendingReplyQueue.push_eq]
          split
          · rfl
          · rfl
  | dequeue ne =>
      obtain rfl := Option.some.inj taken
      rfl
  | dropEntryWithNeighbor ne =>
      obtain rfl := Option.some.inj taken
      rfl
  | setQueueTimeout timeout =>
      obtain rfl := Option.some.inj taken
      rfl

section Run
variable {interfaces : List Ipv4InterfaceAddress} {enableHello : Bool} {helloInterval : Time}
  {maxPRQueueLen : BitVec 32} {maxPRQueueTime : Time} {ok : Answering → AnswerCall → Prop}

/-- In every run a pending reply is called back at most once, after its timeout, and is gone with
that; the callback sends at most one UPDATE, along a route that works; what a node sends as it
enqueues a reply is its changes and what these callbacks send, and else the queue has no part in
what it sends; and a reply leaves otherwise only where it is dequeued, dropped with its neighbour,
or evicted as the oldest from a full queue. -/
theorem answered_once (positive : 0 < maxPRQueueLen.toNat)
    (reach : Reach next ok ⟨initial interfaces enableHello helloInterval maxPRQueueLen maxPRQueueTime, [], 0, []⟩ state) :
    (state.Mirrors ∧ ∀ event before entry, state.node.enqueues event = some (before, entry) →
      ∃ queued, before.prqueue.enqueue? before.now entry = some (queued,
        (state.node.handle event).1.prqueue)) ∧
    state.Numbered ∧
    (∀ callback ∈ state.called, callback.sent.length ≤ 1 ∧ ∀ sent ∈ callback.sent,
      ∃ route, callback.node.ft[callback.reply.entry.destination]? = some route ∧
        callback.reply.entry.neighbor ∈ callback.node.neighbors ∧
        filtered callback.reply.entry.neighbor = false ∧
        route.state = .active ∧ route.nextHop ≠ callback.reply.entry.neighbor ∧
        sent = callback.node.sendUpdate route callback.reply.entry.neighbor) ∧
    (∀ event after, state.next (.event event) = some after →
      ∃ new, after.called = state.called ++ new ∧
      (state.node.enqueues event = none → new = [] ∧
        ∀ prqueue, ((state.node.setPrqueue prqueue).handle event).2 = (state.node.handle event).2) ∧
      ((state.node.enqueues event).isSome →
        (state.node.handle event).2 = state.node.announcesChanges event ++
          new.flatMap Callback.sent)) ∧
    ∀ call after, state.next call = some after → ∀ reply ∈ state.waiting, reply ∈ after.waiting ∨
      (∃ callback ∈ after.called, callback.reply = reply) ∨ call = .dequeue reply.entry.neighbor ∨
      call = .dropEntryWithNeighbor reply.entry.neighbor ∨ state.Evicts call reply := by
  have all : state.Mirrors ∧ state.Numbered ∧ state.node.prqueue.maxLen = maxPRQueueLen := by
    refine reach.invariant
      (P := fun state => state.Mirrors ∧ state.Numbered ∧ state.node.prqueue.maxLen = maxPRQueueLen)
      ⟨rfl, ?_, rfl⟩ ?_
    · exact ⟨List.nodup_nil, by simp [serials], List.Pairwise.nil, by simp, by simp⟩
    · rintro before call after ⟨mirrors, numbered, limit⟩ _ taken
      exact ⟨mirrors.next taken, numbered.next taken, (maxLen_next taken).trans limit⟩
  obtain ⟨mirrors, numbered, limit⟩ := all
  refine ⟨⟨mirrors, fun event before entry enqueued => ?_⟩, numbered,
    fun callback _ => callback_sent callback, fun event after taken => called_sends mirrors taken,
    fun call after taken => leaves_cases taken⟩
  obtain ⟨_, same, _⟩ := handle_of_enqueues enqueued
  rw [handle_pushes enqueued]
  exact BsdvrPendingReplyQueue.enqueue?_defined (by rwa [same, limit])

end Run

theorem answered_once_twoInterfaces : ∃ state : Answering,
    Reach next (fun _ _ => True) ⟨twoInterfaces, [], 0, []⟩ state ∧
    state.called.map (fun callback => (callback.reply.serial, callback.sent.length)) = [(0, 1)] ∧
    state.waiting.map Accepted.serial = [1] ∧ state.serials.Nodup := by
  -- the reply to 10.1.2.3 about 10.1.2.9 is sent as another one is enqueued, after its timeout
  obtain ⟨state, reach, checked⟩ :=
    exists_reach_of_follow next (fun _ _ => True) ⟨twoInterfaces, [], 0, []⟩
    ([.interfaceUp 1, update1 ⟨0x0a010202#32, 0x0a010208#32, 1, 1⟩,
      update1 ⟨0x0a010202#32, 0x0a010209#32, 1, 1⟩, hello1 0x0a010202#32, hello1 0x0a010203#32,
      update1 ⟨0x0a010203#32, 0x0a010209#32, 5, 0⟩, .elapse 1500,
      update1 ⟨0x0a010203#32, 0x0a010208#32, 5, 0⟩].map .event)
    (fun state => state.called.map (fun callback => (callback.reply.serial, callback.sent.length)) =
      [(0, 1)] ∧
      state.waiting.map Accepted.serial = [1]) (by decide +kernel)
  obtain ⟨called, waiting⟩ := of_decide_eq_true checked
  exact ⟨state, reach, called, waiting, (answered_once (by decide) reach).2.1.nodup⟩

end Answering

end Node

end Bsdvr
