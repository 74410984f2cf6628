import Bsdvr.Model.Network
import Bsdvr.Runs.Considered

namespace Bsdvr
open Foundation

namespace Network
variable {V : Type}

def handled (state : NetworkState V) : Action V → Option (V × Node.Event)
  | .event _ (.recv ..) | .event _ (.elapse _) | .elapse _ => none
  | .event v event => some (v, event)
  | .sendHello v _ => some (v, .purge)
  | .deliverHello k hardware =>
      state.hellos[k]?.bind fun hello =>
        (broadcastSocket (state.node hello.receiver) hello.index).map fun socket =>
          (hello.receiver, .recv socket hello.source (.hello hello.header) hardware)
  | .deliverUpdate k v =>
      state.updates[k]?.bind fun packet =>
        (unicastSocket (state.node v) packet.destination).map fun socket =>
          (v, .recv socket packet.source (.update packet.header) 0)

variable [DecidableEq V] {network : Network V} [∀ v i w j, Decidable (network.link v i w j)]
  {state after : NetworkState V} {action : Action V}

private theorem react_node {v : V} {event : Node.Event}
    (reacted : react state v event = some after) :
    after.node = Function.update state.node v ((state.node v).handle event).1 ∧
      after.updates = state.updates ++ packets ((state.node v).handle event).2 := by
  unfold react at reacted
  split at reacted
  · rw [← Option.some.inj reacted]
    exact ⟨rfl, rfl⟩
  · cases reacted

theorem next_handled (taken : network.next state action = some after) :
    match handled state action with
    | some (v, event) => after.node = Function.update state.node v ((state.node v).handle event).1 ∧
        ∃ updates, (∀ packet ∈ updates, packet ∈ state.updates) ∧
          after.updates = updates ++ packets ((state.node v).handle event).2
    | none => (∃ duration, after.node = fun v =>
        { state.node v with now := (state.node v).now + duration }) ∧
        after.updates = state.updates := by
  cases action with
  | event v event =>
      cases event with
      | recv socket sender message hardware => cases taken
      | elapse duration => cases taken
      | purge =>
          obtain ⟨node, updates⟩ := react_node taken
          exact ⟨node, _, fun _ => id, updates⟩
      | txError hardware =>
          obtain ⟨node, updates⟩ := react_node taken
          exact ⟨node, _, fun _ => id, updates⟩
      | interfaceUp i =>
          obtain ⟨node, updates⟩ := react_node taken
          exact ⟨node, _, fun _ => id, updates⟩
      | interfaceDown i =>
          obtain ⟨node, updates⟩ := react_node taken
          exact ⟨node, _, fun _ => id, updates⟩
  | sendHello v reached =>
      simp only [next] at taken
      split at taken
      · obtain ⟨middle, reacted, rfl⟩ := Option.map_eq_some_iff.mp taken
        obtain ⟨node, updates⟩ := react_node reacted
        exact ⟨node, _, fun _ => id, updates⟩
      · cases taken
  | deliverHello k hardware =>
      obtain ⟨hello, found, rest⟩ := Option.bind_eq_some_iff.mp taken
      obtain ⟨socket, bound, reacted⟩ := Option.bind_eq_some_iff.mp rest
      obtain ⟨node, updates⟩ := react_node reacted
      simp only [handled, found, Option.bind_some, bound, Option.map_some]
      exact ⟨node, _, fun _ => id, updates⟩
  | deliverUpdate k v =>
      obtain ⟨packet, found, rest⟩ := Option.bind_eq_some_iff.mp taken
      obtain ⟨socket, bound, reacted⟩ := Option.bind_eq_some_iff.mp rest
      obtain ⟨node, updates⟩ := react_node reacted
      simp only [handled, found, Option.bind_some, bound, Option.map_some]
      exact ⟨node, _, fun _ => List.mem_of_mem_eraseIdx, updates⟩
  | elapse duration =>
      rw [← Option.some.inj taken]
      exact ⟨⟨duration, rfl⟩, rfl⟩

def Fresh (network : Network V) : Prop :=
  ∀ v, ∃ interfaces enableHello helloInterval maxPRQueueLen maxPRQueueTime,
    network.start v = .initial interfaces enableHello helloInterval maxPRQueueLen maxPRQueueTime

theorem named_of_reach {ok : NetworkState V → Action V → Prop} (fresh : network.Fresh)
    (reach : Reach network.next ok network.initial state) (v : V) : (state.node v).Named := by
  have start : ∀ v, (network.initial.node v).Named := by
    intro v
    obtain ⟨interfaces, enableHello, helloInterval, maxPRQueueLen, maxPRQueueTime, same⟩ := fresh v
    show (network.start v).Named
    rw [same]
    exact Node.initial_named _ _ _ _ _
  refine reach.invariant (P := fun state => ∀ v, (state.node v).Named) start ?_ v
  intro before action after named _ taken w
  have step := next_handled taken
  split at step
  · rename_i v event _
    rw [step.1]
    by_cases here : w = v
    · subst here
      rw [Function.update_self]
      exact (named w).handle event
    · rw [Function.update_of_ne here]
      exact named w
  · obtain ⟨⟨duration, same⟩, _⟩ := step
    rw [same]
    exact (named w).handle (.elapse duration)

end Network

namespace Node

def IsLocal (node : Node) (dst : Ipv4Address) : Prop :=
  dst = loopback ∨ ∃ iface ∈ node.interfaces, dst = iface.localAddress ∨ dst = iface.broadcast

instance (node : Node) (dst : Ipv4Address) : Decidable (node.IsLocal dst) :=
  inferInstanceAs (Decidable (_ ∨ ∃ iface ∈ node.interfaces, _))

/-- What an event may make the node advertise is not local. -/
def AdvertisesRemote (node : Node) (event : Event) : Prop :=
  ∀ ne ∈ node.audience event, ∀ pair ∈ node.advertisable event, node.tells event ne pair.1 →
    ¬node.IsLocal pair.1

instance (node : Node) (event : Event) : Decidable (node.AdvertisesRemote event) :=
  List.decidableBAll _ _

end Node

namespace Network
variable {V : Type} [DecidableEq V] {network : Network V}
  [∀ v i w j, Decidable (network.link v i w j)] {state : NetworkState V} {action : Action V}

def AdvertisesRemote (state : NetworkState V) (action : Action V) : Prop :=
  ∀ turn ∈ handled state action, (state.node turn.1).AdvertisesRemote turn.2

instance (state : NetworkState V) (action : Action V) : Decidable (AdvertisesRemote state action) :=
  inferInstanceAs (Decidable (∀ turn ∈ handled state action, _))

/-- In a run that advertises remote destinations only, no UPDATE is about a local address of its
sender. -/
theorem sent_remote_of_advertisesRemote (fresh : network.Fresh)
    (reach : Reach network.next AdvertisesRemote network.initial state)
    (remote : AdvertisesRemote state action) :
    ∀ turn ∈ handled state action, ∀ sent ∈ ((state.node turn.1).handle turn.2).2,
      ¬(state.node turn.1).IsLocal sent.header.dst := by
  intro turn member sent listed
  obtain ⟨ne, entry, far, rfl⟩ :=
    Node.sends_considered (Q := fun _ dst _ => ¬(state.node turn.1).IsLocal dst)
    (named_of_reach fresh reach turn.1) turn.2 (remote turn member) sent listed
  exact far

/-! ## Three nodes -/

def three (mask : BitVec 32) (broadcast : Fin 3 → Ipv4Address) : Network (Fin 3) where
  start v := .initial [.loopback, ⟨0x0a010201#32 + BitVec.ofNat 32 v, mask, broadcast v⟩]
    true 1000 50 1000
  link v _ w _ := v ≠ w

instance (mask : BitVec 32) (broadcast : Fin 3 → Ipv4Address) :
    ∀ v i w j, Decidable ((three mask broadcast).link v i w j) :=
  fun v _ w _ => inferInstanceAs (Decidable (v ≠ w))

theorem three_fresh (mask : BitVec 32) (broadcast : Fin 3 → Ipv4Address) :
    (three mask broadcast).Fresh :=
  fun _ => ⟨_, _, _, _, _, rfl⟩

def points : Network (Fin 3) := three 0xffffffff#32 fun v => 0x0a010201#32 + BitVec.ofNat 32 v

instance : ∀ v i w j, Decidable (points.link v i w j) :=
  fun v _ w _ => inferInstanceAs (Decidable (v ≠ w))

def subnet : Network (Fin 3) := three 0xffffff00#32 fun _ => 0x0a0102ff#32

instance : ∀ v i w j, Decidable (subnet.link v i w j) :=
  fun v _ w _ => inferInstanceAs (Decidable (v ≠ w))

def advertised (state : NetworkState (Fin 3)) (action : Action (Fin 3))
    (destinations : List Ipv4Address) : Prop :=
  ∃ turn ∈ handled state action,
    ((state.node turn.1).handle turn.2).2.map (fun sent => sent.header.dst) = destinations

instance (state : NetworkState (Fin 3)) (action : Action (Fin 3))
    (destinations : List Ipv4Address) :
    Decidable (advertised state action destinations) :=
  inferInstanceAs (Decidable (∃ turn ∈ handled state action, _))

theorem sent_remote_of_advertisesRemote_points : ∃ state,
    Reach points.next AdvertisesRemote points.initial state ∧
    advertised state (.deliverHello 0 0) [0x0a010202#32] ∧
    ∀ turn ∈ handled state (.deliverHello 0 0), ∀ sent ∈ ((state.node turn.1).handle turn.2).2,
      ¬(state.node turn.1).IsLocal sent.header.dst := by
  obtain ⟨state, reach, checked⟩ :=
    exists_reach_of_follow points.next AdvertisesRemote points.initial
    [.event 0 (.interfaceUp 1), .event 1 (.interfaceUp 1), .event 2 (.interfaceUp 1),
      .sendHello 1 [(1, 0, 1)], .deliverHello 0 0, .sendHello 2 [(1, 0, 1)]]
    (fun state => decide (AdvertisesRemote state (.deliverHello 0 0)) &&
      decide (advertised state (.deliverHello 0 0) [0x0a010202#32])) (by decide +kernel)
  simp only [Bool.and_eq_true, decide_eq_true_eq] at checked
  exact ⟨state, reach, checked.2, sent_remote_of_advertisesRemote (three_fresh _ _) reach checked.1⟩

theorem not_sent_remote_subnet : ∃ state, Reach subnet.next (fun _ _ => True) subnet.initial state ∧
    (subnet.next state (.deliverHello 0 0)).isSome ∧
    ¬(∀ turn ∈ handled state (.deliverHello 0 0), ∀ sent ∈ ((state.node turn.1).handle turn.2).2,
      ¬(state.node turn.1).IsLocal sent.header.dst) := by
  -- the first HELLO makes a node tell the sender of their subnet broadcast address
  obtain ⟨state, reach, checked⟩ := exists_reach_of_follow subnet.next
    (fun _ _ => True) subnet.initial
    [.event 0 (.interfaceUp 1), .event 1 (.interfaceUp 1), .sendHello 1 [(1, 0, 1)]]
    (fun state => (subnet.next state (.deliverHello 0 0)).isSome &&
      !decide (∀ turn ∈ handled state (.deliverHello 0 0), ∀ sent ∈
        ((state.node turn.1).handle turn.2).2,
        ¬(state.node turn.1).IsLocal sent.header.dst)) (by decide +kernel)
  simp only [Bool.and_eq_true, Bool.not_eq_true', decide_eq_false_iff_not] at checked
  exact ⟨state, reach, checked.1, checked.2⟩

end Network

end Bsdvr
