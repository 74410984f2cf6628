import Bsdvr.Foundation.Run
import Bsdvr.Model.Timers
import Bsdvr.Proof.Handlers

namespace Bsdvr
open Foundation

/-! ## What an event of the node leaves -/

namespace Node
variable {node : Node}

def Event.duration : Event → Time
  | .elapse duration => duration
  | .recv _ _ _ _ | .purge | .txError _ | .interfaceUp _ | .interfaceDown _ => 0

theorem handle_clock (event : Event) : (node.handle event).1.now = node.now + event.duration ∧
    (node.handle event).1.helloInterval = node.helloInterval ∧
    (node.handle event).1.enableHello = node.enableHello := by
  cases event using handle_cases node with
  | ignored socket sender message hardware same =>
      rw [same]
      exact ⟨rfl, rfl, rfl⟩
  | hello socket sender header hardware my received proper same =>
      obtain ⟨table, nb, fresh, frame, _⟩ := processHello_frame node header my hardware
      rw [same, frame]
      exact ⟨rfl, rfl, rfl⟩
  | update socket sender header hardware my received same =>
      obtain ⟨prqueue, frame, _⟩ := recvUpdate_frame node header my sender
      rw [same, frame]
      exact ⟨rfl, rfl, rfl⟩
  | purge =>
      obtain ⟨table, frame⟩ := purgeNeighbors_frame node
      rw [handle, frame]
      exact ⟨rfl, rfl, rfl⟩
  | txError hardware =>
      obtain ⟨table, frame⟩ :=
        purgeNeighbors_frame { node with nb := node.nb.closeMatching hardware }
      rw [handle, frame]
      exact ⟨rfl, rfl, rfl⟩
  | interfaceUp i =>
      obtain ⟨_, _, _, _, _, _, frame⟩ := notifyInterfaceUp_frame node i
      rw [handle, frame]
      exact ⟨rfl, rfl, rfl⟩
  | interfaceDown i =>
      obtain ⟨_, _, _, _, _, frame⟩ := notifyInterfaceDown_frame node i
      rw [handle, frame]
      exact ⟨rfl, rfl, rfl⟩
  | elapse duration => exact ⟨rfl, rfl, rfl⟩

theorem purgeNeighbors_socketAddresses :
    node.purgeNeighbors.1.socketAddresses = node.socketAddresses := by
  obtain ⟨table, frame⟩ := purgeNeighbors_frame node
  rw [frame]
  rfl

end Node

/-! ## What a timer does -/

namespace TimedNode
variable {timed after : TimedNode}

@[simp] theorem control_node (event : Node.Event) :
    (timed.control event).1.node = (timed.node.handle event).1 := rfl
@[simp] theorem control_scheduled (event : Node.Event) :
    (timed.control event).1.scheduled = timed.scheduled := rfl
@[simp] theorem control_lastBcastTime (event : Node.Event) :
    (timed.control event).1.lastBcastTime = timed.lastBcastTime := rfl
@[simp] theorem control_initialized (event : Node.Event) :
    (timed.control event).1.initialized = timed.initialized := rfl

/-- A node that never deferred its HELLOs sends them whenever its timer fires. -/
theorem helloTimerExpire_eq (never : timed.lastBcastTime = 0) (jitters : List Nat) :
    timed.helloTimerExpire jitters =
      ({ (timed.sendHello jitters).1 with
          htimer := some (timed.node.now + timed.node.helloInterval), lastBcastTime :=
  0 }, (timed.sendHello jitters).2) := by
  simp [helloTimerExpire, never]

theorem handle_node (event : TimedEvent) : (timed.handle event).1.node = timed.node ∨
    ∃ inner, (timed.Enabled event → timed.node.Enabled inner) ∧ (timed.handle event).1.node =
      (timed.node.handle inner).1 := by
  cases event with
  | doInitialize startTime => exact .inl rfl
  | start => exact .inl rfl
  | helloTimerExpire jitters =>
      simp only [handle, helloTimerExpire]
      by_cases deferred : 0 < timed.lastBcastTime
      · exact .inl (by simp [deferred])
      · exact .inr ⟨.purge, fun _ => trivial, by simp [deferred, sendHello]⟩
  | purgeTimerExpire => exact .inr ⟨.purge, fun _ => trivial, rfl⟩
  | sendTo call => exact .inl rfl
  | control inner =>
      refine .inr ⟨inner, fun enabled => ?_, rfl⟩
      cases inner with
      | purge | elapse _ => trivial
      | recv _ _ _ _ | txError _ | interfaceUp _ | interfaceDown _ => exact enabled

theorem next_eq_some {event : TimedEvent} (taken : timed.next event = some after) :
    timed.Enabled event ∧ (timed.handle event).1 = after :=
  guarded_eq_some Enabled (fun timed event => (timed.handle event).1) taken

theorem reach_node {node : Node} (reach : Reach next (fun _ _ => True) (initial node) timed) :
    Reach Node.next (fun _ _ => True) node timed.node := by
  apply reach.simulate TimedNode.node
  intro before event after taken
  obtain ⟨enabled, rfl⟩ := next_eq_some taken
  rcases @handle_node before event with same | ⟨inner, possible, same⟩
  · rw [same]
    exact .start
  · rw [same]
    exact .step .start trivial (by rw [Node.next, if_pos (possible enabled)])

end TimedNode

end Bsdvr
