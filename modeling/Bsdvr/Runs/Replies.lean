import Bsdvr.Queues.PendingReplies
import Bsdvr.Runs.Sockets

namespace Bsdvr
open Foundation

namespace Node
variable {node : Node} {event : Event}

/-! ## Which events reach the pending reply queue -/

def pends (node : Node) (upt : UpdateHeader) : Option PendingReplyEntry :=
  if filtered upt.origin then none
  else
    node.ft[upt.dst]?.bind fun route =>
      let c5 := ((node.dvt.entry route.nextHop upt.origin).map RoutingTableEntry.hops).getD 0
      let c3 := route.hops - 1
      if (upt.origin ∈ node.neighbors ∧ route.state = .active ∧ route.nextHop ≠ upt.origin) ∧
          ¬(c3 = 0 ∨ c5 = upt.hopCount + c3) then
        some ⟨upt.origin, upt.dst, node.now + node.now⟩
      else none

theorem retransmitToNeighbor_pends (upt : UpdateHeader) :
    (∀ entry, node.pends upt = some entry → node.retransmitToNeighbor upt =
      node.enqueuePendingReply entry) ∧
      (node.pends upt = none → (node.retransmitToNeighbor upt).1 = node) := by
  unfold pends retransmitToNeighbor
  split
  · exact ⟨fun entry pending => (by cases pending), fun _ => rfl⟩
  · cases node.ft[upt.dst]? with
    | none => exact ⟨fun entry pending => (by cases pending), fun _ => rfl⟩
    | some route =>
        simp only [Option.bind_some]
        by_cases alive : upt.origin ∈ node.neighbors ∧ route.state = .active ∧
          route.nextHop ≠ upt.origin
        · by_cases near : route.hops - 1 = 0 ∨
              ((node.dvt.entry route.nextHop upt.origin).map RoutingTableEntry.hops).getD 0 =
                upt.hopCount + (route.hops - 1)
          · rw [if_neg (fun both => both.2 near), if_pos alive, if_pos near]
            exact ⟨fun entry pending => (by cases pending), fun _ => rfl⟩
          · rw [if_pos ⟨alive, near⟩, if_pos alive, if_neg near]
            refine ⟨fun entry pending => ?_, fun absent => by cases absent⟩
            rw [← Option.some.inj pending]
        · rw [if_neg (fun both => alive both.1), if_neg alive]
          exact ⟨fun entry pending => (by cases pending), fun _ => rfl⟩

theorem recvUpdate_eq (header : UpdateHeader) (my src : Ipv4Address) :
    node.recvUpdate header my src =
    let recomputed := (node.learned header my src).recompute
    let announced := recomputed.1.sendTriggeredUpdateChangesToNeighbors recomputed.2 []
    if header.binaryState = 0 ∧ header.dst ≠ header.origin then
      ((recomputed.1.retransmitToNeighbor header).1,
        announced ++ (recomputed.1.retransmitToNeighbor header).2)
    else (recomputed.1, announced) := rfl

/-- The node at which the handling of an event calls `Enqueue`, and the entry, if it does. -/
def enqueues (node : Node) : Event → Option (Node × PendingReplyEntry)
  | .recv socket sender (.update header) _ =>
      (node.receiver socket).bind fun my =>
        let recomputed := (node.learned header my sender).recompute.1
        if header.binaryState = 0 ∧ header.dst ≠ header.origin then
          (recomputed.pends header).map fun entry => (recomputed, entry)
        else none
  | _ => none

def announcesChanges (node : Node) : Event → List Sent
  | .recv socket sender (.update header) _ =>
      (node.receiver socket).toList.flatMap fun my =>
        let recomputed := (node.learned header my sender).recompute
        recomputed.1.sendTriggeredUpdateChangesToNeighbors recomputed.2 []
  | _ => []

theorem handle_prqueue_of_not_enqueues (idle : node.enqueues event = none) :
    (node.handle event).1.prqueue = node.prqueue := by
  cases event using handle_cases node with
  | ignored socket sender message hardware same => rw [same]
  | hello socket sender header hardware my received proper same =>
      obtain ⟨table, nb, fresh, frame, _⟩ := processHello_frame node header my hardware
      rw [same, frame]
  | update socket sender header hardware my received same =>
      simp only [enqueues, received, Option.bind_some] at idle
      rw [same, recvUpdate_eq]
      simp only
      split
      · rename_i inactive
        rw [if_pos inactive, Option.map_eq_none_iff] at idle
        rw [(retransmitToNeighbor_pends header).2 idle]
        rfl
      · rfl
  | purge =>
      obtain ⟨table, frame⟩ := purgeNeighbors_frame node
      simp only [handle, frame, dropClosed]
  | txError hardware =>
      obtain ⟨table, frame⟩ :=
        purgeNeighbors_frame { node with nb := node.nb.closeMatching hardware }
      simp only [handle, frame, dropClosed]
  | interfaceUp i =>
      obtain ⟨_, _, _, _, _, _, frame⟩ := notifyInterfaceUp_frame node i
      rw [handle, frame]
      rfl
  | interfaceDown i =>
      obtain ⟨_, _, _, _, _, frame⟩ := notifyInterfaceDown_frame node i
      rw [handle, frame]
      rfl
  | elapse duration => rfl

theorem handle_of_enqueues {before : Node} {entry : PendingReplyEntry}
    (enqueues : node.enqueues event = some (before, entry)) :
    before.now = node.now ∧ before.prqueue = node.prqueue ∧
      (node.handle event).1 = (before.enqueuePendingReply entry).1 ∧
      (node.handle event).2 = node.announcesChanges event ++
        (before.enqueuePendingReply entry).2 := by
  cases event with
  | recv socket sender message hardware =>
      cases message with
      | hello header => cases enqueues
      | update header =>
          simp only [Node.enqueues] at enqueues
          obtain ⟨my, received, rest⟩ := Option.bind_eq_some_iff.mp enqueues
          split at rest
          · rename_i inactive
            obtain ⟨added, pending, same⟩ := Option.map_eq_some_iff.mp rest
            obtain ⟨rfl, rfl⟩ := Prod.mk.inj same
            have replied := (retransmitToNeighbor_pends header).1 added pending
            have handled : node.handle (.recv socket sender (.update header) hardware) =
                node.recvUpdate header my sender := by
              simp only [handle, recvBsdv, received]
            simp only [handled, recvUpdate_eq, if_pos inactive, replied, announcesChanges, received,
              Option.toList_some, List.flatMap_cons, List.flatMap_nil, List.append_nil]
            exact ⟨rfl, rfl, trivial, trivial⟩
          · cases rest
  | purge => cases enqueues
  | txError hardware => cases enqueues
  | interfaceUp i => cases enqueues
  | interfaceDown i => cases enqueues
  | elapse duration => cases enqueues

/-! ## Events that neither read nor write the queue -/

def setPrqueue (node : Node) (prqueue : BsdvrPendingReplyQueue) : Node := { node with prqueue }

section Queue
variable (prqueue : BsdvrPendingReplyQueue)

theorem sendUpdateOnLinkFailure_setPrqueue (ne : Ipv4Address) :
    (node.setPrqueue prqueue).sendUpdateOnLinkFailure ne =
      ((node.sendUpdateOnLinkFailure ne).1.setPrqueue prqueue,
        (node.sendUpdateOnLinkFailure ne).2) := by
  unfold sendUpdateOnLinkFailure
  split
  · rfl
  · have same : (node.setPrqueue prqueue).dvt.entry ne ne = node.dvt.entry ne ne := rfl
    rw [same]
    cases node.dvt.entry ne ne with
    | none => rfl
    | some entry => rfl

theorem handleLinkFailures_setPrqueue (failed : List Ipv4Address) :
    (node.setPrqueue prqueue).handleLinkFailures failed =
      ((node.handleLinkFailures failed).1.setPrqueue prqueue,
        (node.handleLinkFailures failed).2) := by
  induction failed generalizing node with
  | nil => rfl
  | cons ne rest ih => simp only [handleLinkFailures, sendUpdateOnLinkFailure_setPrqueue, ih]

theorem purgeNeighbors_setPrqueue : (node.setPrqueue prqueue).purgeNeighbors =
    (node.purgeNeighbors.1.setPrqueue prqueue, node.purgeNeighbors.2) := by
  have lost : (node.setPrqueue prqueue).lost = node.lost := rfl
  simp only [purgeNeighbors, lost, handleLinkFailures_setPrqueue]
  rfl

theorem updateNeighbors_setPrqueue (addr : Ipv4Address) (expire : Time) (hardware : Mac48Address) :
    (node.setPrqueue prqueue).updateNeighbors addr expire hardware =
      ((node.updateNeighbors addr expire hardware).1.setPrqueue prqueue,
        (node.updateNeighbors addr expire hardware).2) := by
  have same : (node.setPrqueue prqueue).neighbors = node.neighbors := rfl
  unfold updateNeighbors
  rw [same]
  split
  · rfl
  · exact @purgeNeighbors_setPrqueue
      { node with nb := node.nb ++ [⟨addr, hardware, expire + node.now, false⟩] } prqueue

theorem exchangeHello_setPrqueue (origin receiver : Ipv4Address) :
    (node.setPrqueue prqueue).exchangeHello origin receiver =
      ((node.exchangeHello origin receiver).1.setPrqueue prqueue,
        (node.exchangeHello origin receiver).2) := by
  have ensured : (node.setPrqueue prqueue).ensureRow origin =
      (node.ensureRow origin).setPrqueue prqueue := by
    have contains : (node.setPrqueue prqueue).dvt.contains origin = node.dvt.contains origin := rfl
    unfold ensureRow
    rw [contains]
    split
    · rfl
    · rfl
  have lookup : (node.setPrqueue prqueue).dvt.entry origin origin = node.dvt.entry origin origin :=
    rfl
  rw [exchangeHello_eq, exchangeHello_eq, lookup]
  cases node.dvt.entry origin origin with
  | none =>
      simp only [joined, ensured]
      rfl
  | some toNeighbor =>
      simp only [ensured]
      rfl

theorem processHello_setPrqueue (header : HelloHeader) (my : Ipv4Address)
    (hardware : Mac48Address) :
    ((node.setPrqueue prqueue).processHello header my hardware).2 =
      (node.processHello header my hardware).2 := by
  have same : (node.setPrqueue prqueue).enableHello = node.enableHello := rfl
  simp only [processHello, same]
  split
  · have interval : (node.setPrqueue prqueue).helloInterval = node.helloInterval := rfl
    simp only [interval, updateNeighbors_setPrqueue, exchangeHello_setPrqueue]
  · simp only [exchangeHello_setPrqueue]

theorem retransmitToNeighbor_setPrqueue {upt : UpdateHeader} (idle : node.pends upt = none) :
    ((node.setPrqueue prqueue).retransmitToNeighbor upt).2 = (node.retransmitToNeighbor upt).2 := by
  have table : (node.setPrqueue prqueue).ft = node.ft := rfl
  have rows : (node.setPrqueue prqueue).dvt = node.dvt := rfl
  have neighbors : (node.setPrqueue prqueue).neighbors = node.neighbors := rfl
  unfold pends at idle
  unfold retransmitToNeighbor
  rw [table, rows, neighbors]
  split
  · rfl
  · rename_i unfiltered
    rw [if_neg unfiltered] at idle
    cases found : node.ft[upt.dst]? with
    | none => rfl
    | some route =>
        simp only [found, Option.bind_some, ite_eq_right_iff, reduceCtorEq, imp_false, not_and,
          not_not] at idle
        simp only
        split
        · rename_i alive
          rw [if_pos (idle alive), if_pos (idle alive)]
          rfl
        · rfl

/-- An event for which no reply is enqueued sends what it sends whatever replies are pending. -/
theorem handle_sends_of_not_enqueues (idle : node.enqueues event = none) :
    ((node.setPrqueue prqueue).handle event).2 = (node.handle event).2 := by
  cases event with
  | recv socket sender message hardware =>
      have same : (node.setPrqueue prqueue).receiver socket = node.receiver socket := rfl
      simp only [handle, recvBsdv, same]
      cases received : node.receiver socket with
      | none => rfl
      | some my =>
          cases message with
          | hello header =>
              simp only [recvHello]
              split
              · exact processHello_setPrqueue prqueue header my hardware
              · rfl
          | update header =>
              simp only [enqueues, received, Option.bind_some] at idle
              simp only [recvUpdate_eq]
              split
              · rename_i inactive
                rw [if_pos inactive, Option.map_eq_none_iff] at idle
                exact congrArg (_ ++ ·) (retransmitToNeighbor_setPrqueue prqueue idle)
              · rfl
  | purge =>
      change (node.setPrqueue prqueue).purgeNeighbors.2 = node.purgeNeighbors.2
      rw [purgeNeighbors_setPrqueue]
  | txError hardware =>
      change ((node.setNb (node.nb.closeMatching hardware)).setPrqueue prqueue).purgeNeighbors.2 =
        (node.setNb (node.nb.closeMatching hardware)).purgeNeighbors.2
      rw [purgeNeighbors_setPrqueue]
  | interfaceUp i => rfl
  | interfaceDown i => rfl
  | elapse duration => rfl

end Queue

/-! ## Overdue replies -/

def Overdue (node : Node) : Prop := ∃ entry ∈ node.prqueue.queue, entry.expired node.now

instance (node : Node) : Decidable node.Overdue :=
  inferInstanceAs (Decidable (∃ entry ∈ node.prqueue.queue, _))

def Event.attends : Event → Bool
  | .recv _ _ _ _ | .purge | .txError _ => true
  | .interfaceUp _ | .interfaceDown _ | .elapse _ => false

theorem handle_now (attends : event.attends = true) : (node.handle event).1.now = node.now := by
  cases event using handle_cases node with
  | ignored socket sender message hardware same => rw [same]
  | hello socket sender header hardware my received proper same =>
      obtain ⟨table, nb, fresh, frame, _⟩ := processHello_frame node header my hardware
      rw [same, frame]
  | update socket sender header hardware my received same =>
      obtain ⟨prqueue, frame, _⟩ := recvUpdate_frame node header my sender
      rw [same, frame]
      rfl
  | purge =>
      obtain ⟨table, frame⟩ := purgeNeighbors_frame node
      simp only [handle, frame, dropClosed]
  | txError hardware =>
      obtain ⟨table, frame⟩ :=
        purgeNeighbors_frame { node with nb := node.nb.closeMatching hardware }
      simp only [handle, frame, dropClosed]
  | interfaceUp i => cases attends
  | interfaceDown i => cases attends
  | elapse duration => cases attends

theorem enqueuePendingReply_punctual (entry : PendingReplyEntry) :
    ¬(node.enqueuePendingReply entry).1.Overdue := by
  rintro ⟨other, member, expired⟩
  change other ∈ ((node.prqueue.purge node.now).2.push node.now entry).queue at member
  change other.expired node.now = true at expired
  have kept : ∀ old ∈ (node.prqueue.purge node.now).2.queue, old.expired node.now = false := by
    intro old among
    simpa using (List.mem_filter.mp among).2
  rw [BsdvrPendingReplyQueue.push_eq] at member
  split at member
  · rw [kept other member] at expired
    cases expired
  · rcases List.mem_append.mp member with old | new
    · have among : other ∈ (node.prqueue.purge node.now).2.queue := by
        split at old
        · exact List.mem_of_mem_tail old
        · exact old
      rw [kept other among] at expired
      cases expired
    · obtain rfl := List.mem_singleton.mp new
      simp [PendingReplyEntry.expired] at expired

theorem handle_punctual_iff (attends : event.attends = true) :
    ¬(node.handle event).1.Overdue ↔ ¬node.Overdue ∨ (node.enqueues event).isSome := by
  cases enqueued : node.enqueues event with
  | none =>
      unfold Overdue
      rw [handle_prqueue_of_not_enqueues enqueued, handle_now attends]
      simp
  | some call =>
      obtain ⟨before, entry⟩ := call
      obtain ⟨_, _, after, _⟩ := handle_of_enqueues enqueued
      rw [after]
      exact iff_of_true (enqueuePendingReply_punctual entry) (.inr rfl)

structure Finishing where
  node : Node
  finished : List Node

def Finishing.next (state : Finishing) (event : Event) : Option Finishing :=
  (state.node.next event).map fun after =>
    ⟨after, if event.attends then state.finished ++ [after] else state.finished⟩

/-- An event finds no reply overdue, or is an UPDATE for which another one is enqueued. -/
def OnTime (node : Node) (event : Event) : Prop :=
  event.attends = true → ¬node.Overdue ∨ (node.enqueues event).isSome

instance (node : Node) (event : Event) : Decidable (node.OnTime event) :=
  inferInstanceAs (Decidable (_ → _))

section Run
variable {interfaces : List Ipv4InterfaceAddress} {helloInterval : Time} {maxPRQueueLen : BitVec 32}
  {maxPRQueueTime : Time} {state : Finishing}

/-- In a run whose events are on time no event ends with an overdue reply; and an event on its own
ends without one exactly where it is on time. -/
theorem punctual_of_onTime
    (reach : Reach Finishing.next (fun state event => state.node.OnTime event)
      ⟨initial interfaces true helloInterval maxPRQueueLen maxPRQueueTime, []⟩ state) :
    (∀ node ∈ state.finished, ¬node.Overdue) ∧
    ∀ (node : Node) (event : Event), event.attends = true →
    (¬(node.handle event).1.Overdue ↔ node.OnTime event) := by
  refine ⟨?_, fun node event attends => ?_⟩
  · refine reach.invariant (P := fun state => ∀ node ∈ state.finished, ¬node.Overdue) ?_ ?_
    · intro node member
      cases member
    · intro before event after punctual onTime taken
      obtain ⟨node, reached, rfl⟩ := Option.map_eq_some_iff.mp taken
      obtain ⟨_, rfl⟩ := next_eq_some reached
      intro node member
      simp only at member
      split at member
      · rename_i attends
        rcases List.mem_append.mp member with old | new
        · exact punctual node old
        · rw [List.mem_singleton.mp new]
          exact (handle_punctual_iff attends).mpr (onTime attends)
      · exact punctual node member
  · rw [handle_punctual_iff attends]
    exact ⟨fun onTime _ => onTime, fun onTime => onTime attends⟩

end Run

/-- 10.1.2.2 tells of 10.1.2.9 and is heard, 10.1.2.3 is heard and tells that it has lost
10.1.2.9. -/
def pendingReply : List Event :=
  [.interfaceUp 1, .recv ⟨2, 1, 0x0a010201#32⟩ 0x0a010202#32
    (.update ⟨0x0a010202#32, 0x0a010209#32, 1, 1⟩) 0, hello1 0x0a010202#32, hello1 0x0a010203#32,
    .recv ⟨2, 1, 0x0a010201#32⟩ 0x0a010203#32 (.update ⟨0x0a010203#32, 0x0a010209#32, 5, 0⟩) 0]

theorem punctual_of_onTime_twoInterfaces : ∃ state : Finishing,
    Reach Finishing.next (fun state event => state.node.OnTime event) ⟨twoInterfaces, []⟩ state ∧
    state.node.prqueue.queue.length = 1 ∧ state.finished.length = 5 ∧
    ∀ node ∈ state.finished, ¬node.Overdue := by
  obtain ⟨state, reach, checked⟩ := exists_reach_of_follow Finishing.next
    (fun state event => state.node.OnTime event)
    ⟨twoInterfaces, []⟩ (pendingReply ++ [.elapse 1000, hello1 0x0a010202#32])
    (fun state => state.node.prqueue.queue.length = 1 ∧ state.finished.length = 5)
    (by decide +kernel)
  obtain ⟨pending, finished⟩ := of_decide_eq_true checked
  exact ⟨state, reach, pending, finished, (punctual_of_onTime reach).1⟩

theorem not_punctual_twoInterfaces : ∃ state : Finishing,
    Reach Finishing.next (fun _ _ => True) ⟨twoInterfaces, []⟩ state ∧
    ¬∀ node ∈ state.finished, ¬node.Overdue := by
  -- nothing answers the pending reply as its time is over and a HELLO arrives
  obtain ⟨state, reach, checked⟩ := exists_reach_of_follow Finishing.next
    (fun _ _ => True) ⟨twoInterfaces, []⟩
    (pendingReply ++ [.elapse 2000, hello1 0x0a010202#32])
    (fun state => state.finished.any fun node => node.Overdue)
    (by decide +kernel)
  simp only [List.any_eq_true, decide_eq_true_eq] at checked
  obtain ⟨node, member, overdue⟩ := checked
  exact ⟨state, reach, fun punctual => punctual node member overdue⟩

end Node

end Bsdvr
