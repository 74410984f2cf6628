import Bsdvr.Runs.Destinations
import Bsdvr.Runs.Replies

namespace Bsdvr
open Foundation

namespace Node
variable {node : Node} {event : Event} {ne dst : Ipv4Address}

/-- No pending reply tells a neighbour of itself. -/
def RepliesApart (node : Node) : Prop :=
  ∀ entry ∈ node.prqueue.queue, entry.destination ≠ entry.neighbor

theorem RepliesApart.handle (apart : node.RepliesApart) (event : Event) :
    (node.handle event).1.RepliesApart := by
  cases idle : node.enqueues event with
  | none =>
      intro entry member
      rw [handle_prqueue_of_not_enqueues idle] at member
      exact apart entry member
  | some call =>
      cases event using handle_cases node with
      | ignored socket sender message hardware same =>
          rw [same]
          exact apart
      | update socket sender header hardware my received same =>
          obtain ⟨prqueue, frame, queued⟩ := recvUpdate_frame node header my sender
          intro entry member
          rw [same, frame] at member
          rcases queued entry member with old | ⟨_, remote, _, neighbor, destination⟩
          · exact apart entry old
          · rw [neighbor, destination]
            exact remote
      | hello socket sender header hardware my received proper same => cases idle
      | purge => cases idle
      | txError hardware => cases idle
      | interfaceUp i => cases idle
      | interfaceDown i => cases idle
      | elapse duration => cases idle

theorem tells_apart (apart : node.RepliesApart) (told : node.tells event ne dst) : dst ≠ ne := by
  cases event with
  | recv socket sender message hardware =>
      cases message with
      | hello header =>
          rcases told with ⟨_, _, other, _⟩ | ⟨_, other, _⟩
          · exact other
          · exact other
      | update header =>
          rcases told with ⟨_, other, _⟩ | ⟨_, remote, _, _, ⟨rfl, rfl⟩ | ⟨entry, queued, rfl, rfl⟩⟩
          · exact other
          · exact remote
          · exact apart entry queued
  | purge => exact told.2.1
  | txError hardware => exact told.2.1
  | interfaceUp i => exact told.elim
  | interfaceDown i => exact told.elim
  | elapse duration => exact told.elim

theorem sent_apart (named : node.Named) (apart : node.RepliesApart) {sent : Sent}
    (member : sent ∈ (node.handle event).2) :
    ∃ ne entry, entry.destination ≠ ne ∧ sent = node.sendUpdate entry ne :=
  sends_considered (Q := fun ne dst _ => dst ≠ ne) named event
  (fun _ _ _ _ told => tells_apart apart told) sent member

theorem SocketsNamed.sendUpdate {entry : RoutingTableEntry} {socket : Socket}
    (sockets : node.SocketsNamed) (found : (node.sendUpdate entry ne).socket = some socket) :
    entry.iface.localAddress = socket.address := by
  obtain ⟨opened, chosen, rfl⟩ := Option.map_eq_some_iff.mp found
  have on : opened.2 = entry.iface := by simpa using List.find?_some chosen
  rw [← on]
  exact (sockets opened (List.mem_of_find?_eq_some chosen)).2.symm

end Node

namespace Network
variable {V : Type}

/-- What the messages in flight say of their senders is where they come from, and no UPDATE is about
the neighbour it goes to. -/
structure Addressed (state : NetworkState V) : Prop where
  named : ∀ v, (state.node v).Named
  sockets : ∀ v, (state.node v).SocketsNamed
  replies : ∀ v, (state.node v).RepliesApart
  updates : ∀ packet ∈ state.updates, packet.header.origin = packet.source ∧
    packet.header.dst ≠ packet.destination
  hellos : ∀ hello ∈ state.hellos, hello.header.origin = hello.source ∧
    hello.header.dst = hello.source

theorem packets_addressed {node : Node} {event : Node.Event} (named : node.Named)
    (sockets : node.SocketsNamed) (apart : node.RepliesApart) :
    ∀ packet ∈ packets (node.handle event).2,
      packet.header.origin = packet.source ∧ packet.header.dst ≠ packet.destination := by
  intro packet member
  obtain ⟨sent, listed, opened⟩ := List.mem_filterMap.mp member
  obtain ⟨socket, found, rfl⟩ := Option.map_eq_some_iff.mp opened
  obtain ⟨ne, entry, other, rfl⟩ := Node.sent_apart named apart listed
  exact ⟨sockets.sendUpdate found, other⟩

theorem hellosTo_addressed {node : Node} (sockets : node.SocketsNamed)
    {reached : List (Nat × V × Nat)} :
    ∀ hello ∈ hellosTo node reached, hello.header.origin = hello.source ∧
    hello.header.dst = hello.source := by
  intro hello member
  obtain ⟨hop, _, sent⟩ := List.mem_flatMap.mp member
  obtain ⟨message, chosen, rfl⟩ := List.mem_map.mp sent
  obtain ⟨entry, listed, rfl⟩ := List.mem_map.mp (List.mem_of_mem_filter chosen)
  have address := (sockets entry listed).2.symm
  exact ⟨address, address⟩

section Step
variable [DecidableEq V] {state after : NetworkState V} {action : Action V}

theorem Addressed.react {v : V} {event : Node.Event} (addressed : Addressed state)
    (reacted : react state v event = some after) : Addressed after := by
  unfold Network.react at reacted
  split at reacted
  · obtain rfl := Option.some.inj reacted
    have everywhere {P : Node → Prop} (holds : ∀ w, P (state.node w))
        (handled : P ((state.node v).handle event).1) (w : V) :
        P (Function.update state.node v ((state.node v).handle event).1 w) := by
      by_cases here : w = v
      · subst here
        rwa [Function.update_self]
      · rw [Function.update_of_ne here]
        exact holds w
    refine ⟨everywhere addressed.named ((addressed.named v).handle event),
      everywhere addressed.sockets ((addressed.sockets v).handle event),
      everywhere addressed.replies ((addressed.replies v).handle event), fun packet member => ?_,
      addressed.hellos⟩
    rcases List.mem_append.mp member with old | new
    · exact addressed.updates packet old
    · exact packets_addressed (addressed.named v) (addressed.sockets v)
        (addressed.replies v) packet new
  · cases reacted

omit [DecidableEq V] in
theorem Addressed.fewer (addressed : Addressed state) {hellos : List (HelloPacket V)}
    {updates : List Packet} (heard : ∀ hello ∈ hellos, hello ∈ state.hellos)
    (sent : ∀ packet ∈ updates, packet ∈ state.updates) :
    Addressed { state with hellos, updates } :=
  ⟨addressed.named, addressed.sockets, addressed.replies,
    fun packet member => addressed.updates packet (sent packet member),
    fun hello member => addressed.hellos hello (heard hello member)⟩

variable {network : Network V} [∀ v i w j, Decidable (network.link v i w j)]

theorem Addressed.next (addressed : Addressed state)
    (taken : network.next state action = some after) :
    Addressed after := by
  cases action with
  | event v event =>
      cases event with
      | recv socket sender message hardware => cases taken
      | elapse duration => cases taken
      | purge => exact addressed.react taken
      | txError hardware => exact addressed.react taken
      | interfaceUp i => exact addressed.react taken
      | interfaceDown i => exact addressed.react taken
  | sendHello v reached =>
      simp only [Network.next] at taken
      split at taken
      · obtain ⟨middle, reacted, rfl⟩ := Option.map_eq_some_iff.mp taken
        have purged := addressed.react reacted
        refine ⟨purged.named, purged.sockets, purged.replies, purged.updates,
          fun hello member => ?_⟩
        rcases List.mem_append.mp member with old | new
        · exact purged.hellos hello old
        · exact hellosTo_addressed (purged.sockets v) hello new
      · cases taken
  | deliverHello k hardware =>
      obtain ⟨hello, found, rest⟩ := Option.bind_eq_some_iff.mp taken
      obtain ⟨socket, bound, reacted⟩ := Option.bind_eq_some_iff.mp rest
      exact (addressed.fewer (fun _ => List.mem_of_mem_eraseIdx) fun _ => id).react reacted
  | deliverUpdate k v =>
      obtain ⟨packet, found, rest⟩ := Option.bind_eq_some_iff.mp taken
      obtain ⟨socket, bound, reacted⟩ := Option.bind_eq_some_iff.mp rest
      exact (addressed.fewer (fun _ => id) fun _ => List.mem_of_mem_eraseIdx).react reacted
  | elapse duration =>
      obtain rfl := Option.some.inj taken
      exact ⟨fun v => (addressed.named v).handle (.elapse duration),
        fun v => (addressed.sockets v).handle (.elapse duration),
        fun v => (addressed.replies v).handle (.elapse duration), addressed.updates,
        addressed.hellos⟩

/-- In every run the origin of a message is the address it is sent from, and no UPDATE is about the
neighbour it goes to. -/
theorem headers_match {ok : NetworkState V → Action V → Prop} (fresh : network.Fresh)
    (reach : Reach network.next ok network.initial state) :
    (∀ packet ∈ state.updates, packet.header.origin = packet.source ∧
      packet.header.dst ≠ packet.destination) ∧
    ∀ hello ∈ state.hellos, hello.header.origin = hello.source ∧
    hello.header.dst = hello.source := by
  have start : Addressed network.initial := by
    have boots : Reach network.next ok network.initial network.initial := .start
    refine ⟨named_of_reach fresh boots, fun v => ?_, fun v => ?_, by simp [initial],
      by simp [initial]⟩
    · obtain ⟨interfaces, enableHello, helloInterval, maxPRQueueLen, maxPRQueueTime, same⟩ :=
        fresh v
      intro entry member
      simp [initial, same, Node.initial] at member
    · obtain ⟨interfaces, enableHello, helloInterval, maxPRQueueLen, maxPRQueueTime, same⟩ :=
        fresh v
      intro entry member
      simp [initial, same, Node.initial] at member
  have addressed : Addressed state := reach.invariant start fun _ _ _ addressed _ => addressed.next
  exact ⟨addressed.updates, addressed.hellos⟩

theorem headers_match_subnet : ∃ state,
    Reach subnet.next (fun _ _ => True) subnet.initial state ∧ state.updates.length = 3 ∧
    state.hellos ≠ [] ∧
    (∀ packet ∈ state.updates, packet.header.origin = packet.source ∧
      packet.header.dst ≠ packet.destination) ∧
    ∀ hello ∈ state.hellos, hello.header.origin = hello.source ∧
    hello.header.dst = hello.source := by
  -- node 0 hears node 1 and then node 2, and a HELLO of its own is on its way
  obtain ⟨state, reach, checked⟩ := exists_reach_of_follow subnet.next
    (fun _ _ => True) subnet.initial
    [.event 0 (.interfaceUp 1), .event 1 (.interfaceUp 1), .event 2 (.interfaceUp 1),
      .sendHello 1 [(1, 0, 1)], .deliverHello 0 0, .sendHello 2 [(1, 0, 1)], .deliverHello 0 0,
      .sendHello 0 [(1, 1, 1)]]
    (fun state => decide (state.updates.length = 3) && !state.hellos.isEmpty) (by decide +kernel)
  simp only [Bool.and_eq_true, decide_eq_true_eq, Bool.not_eq_true', List.isEmpty_eq_false_iff]
    at checked
  exact ⟨state, reach, checked.1, checked.2, headers_match (three_fresh _ _) reach⟩

end Step

end Network

end Bsdvr
