import Bsdvr.Model.Network
import Bsdvr.Proof.Handlers

namespace Bsdvr
open Foundation

/-- Single-interface nodes on a fixed symmetric link graph, with HELLOs enabled. The addresses of
the nodes differ from each other, from the loopback address and from each other's subnet broadcast
address. -/
structure StaticNetwork (V : Type) where
  graph : SimpleGraph V
  iface : V → Ipv4InterfaceAddress
  helloInterval : V → Time
  maxPRQueueLen : V → BitVec 32
  maxPRQueueTime : V → Time
  injective : Function.Injective fun v => (iface v).localAddress
  notLoopback : ∀ v, (iface v).localAddress ≠ loopback
  notUnset : ∀ v, (iface v).localAddress ≠ unsetAddress
  notBroadcast : ∀ v w, v ≠ w → (iface v).broadcast ≠ (iface w).localAddress

namespace StaticNetwork
variable {V : Type} (net : StaticNetwork V)

def address (v : V) : Ipv4Address := (net.iface v).localAddress

def toNetwork : Network V where
  start v := (Node.initial [.loopback, net.iface v] true (net.helloInterval v) (net.maxPRQueueLen v)
    (net.maxPRQueueTime v)).notifyInterfaceUp 1
  link v i w j := i = 1 ∧ j = 1 ∧ net.graph.Adj v w

instance [DecidableRel net.graph.Adj] : ∀ v i w j, Decidable (net.toNetwork.link v i w j) :=
  fun v i w j => inferInstanceAs (Decidable (i = 1 ∧ j = 1 ∧ net.graph.Adj v w))

/-- The steps of a network in which no interface goes down and no neighbour expires or fails: a
purge finds no neighbour to drop. -/
def Allowed (state : NetworkState V) : Action V → Prop
  | .event v event => event = .purge ∧ (state.node v).lost = []
  | .sendHello v _ => (state.node v).lost = []
  | .deliverHello k _ => ∀ hello ∈ state.hellos[k]?,
      hello.header.origin ∈ (state.node hello.receiver).neighbors ∨
        (state.node hello.receiver).lost = []
  | .deliverUpdate _ _ | .elapse _ => True

instance (state : NetworkState V) (action : Action V) : Decidable (Allowed state action) :=
  match action with
  | .event _ _ => inferInstanceAs (Decidable (_ ∧ _))
  | .sendHello _ _ => inferInstanceAs (Decidable (_ = _))
  | .deliverHello k _ => inferInstanceAs (Decidable (∀ hello ∈ state.hellos[k]?, _ ∨ _))
  | .deliverUpdate _ _ | .elapse _ => instDecidableTrue

variable {net}

@[simp] theorem address_inj {v w : V} : net.address v = net.address w ↔ v = w :=
  net.injective.eq_iff

theorem address_ne_loopback (v : V) : net.address v ≠ loopback := net.notLoopback v

theorem iface_ne_loopback (v : V) : net.iface v ≠ .loopback := by
  intro same
  apply net.notLoopback v
  rw [same]
  rfl

theorem start_eq (v : V) : net.toNetwork.start v =
    (Node.initial [.loopback, net.iface v] true (net.helloInterval v) (net.maxPRQueueLen v)
      (net.maxPRQueueTime v)).notifyInterfaceUp 1 := rfl

structure Setup (net : StaticNetwork V) (v : V) (node : Node) : Prop where
  enableHello : node.enableHello = true
  mainAddress : node.mainAddress = net.address v
  interfaces : node.interfaces = [.loopback, net.iface v]
  socketAddresses : node.socketAddresses = [(⟨2, 1, net.address v⟩, net.iface v)]
  socketSubnetBroadcastAddresses :
    node.socketSubnetBroadcastAddresses = [(⟨3, 1, (net.iface v).broadcast⟩, net.iface v)]

theorem start_setup (v : V) : net.Setup v (net.toNetwork.start v) := by
  have real := net.notLoopback v
  rw [start_eq]
  simp [Node.initial, Node.notifyInterfaceUp, Node.getAddress, real]
  exact ⟨rfl, rfl, rfl, rfl, rfl⟩

namespace Setup
variable {v : V} {node after : Node}

theorem same (setup : net.Setup v node) (same : node.SameSetup after) : net.Setup v after :=
  ⟨same.enableHello.trans setup.enableHello, same.mainAddress.trans setup.mainAddress,
    same.interfaces.trans setup.interfaces, same.socketAddresses.trans setup.socketAddresses,
    same.socketSubnetBroadcastAddresses.trans setup.socketSubnetBroadcastAddresses⟩

theorem setNb (setup : net.Setup v node) (nb : Neighbors) : net.Setup v (node.setNb nb) :=
  setup.same ⟨rfl, rfl, rfl, rfl, rfl, rfl, rfl⟩

theorem getInterfaceForAddress (setup : net.Setup v node) :
    node.getInterfaceForAddress (net.address v) = some 1 := by
  have apart : loopback ≠ (net.iface v).localAddress := (net.notLoopback v).symm
  simp [Node.getInterfaceForAddress, setup.interfaces, List.findIdx?_cons,
    Ipv4InterfaceAddress.loopback, apart, address]

theorem getAddress (setup : net.Setup v node) : node.getAddress (some 1) = net.iface v := by
  simp [Node.getAddress, setup.interfaces]

theorem receiver {socket : Socket} {my : Ipv4Address} (setup : net.Setup v node)
    (addressed : node.receiver socket = some my) : my = net.address v := by
  simp only [Node.receiver, setup.socketAddresses, setup.socketSubnetBroadcastAddresses,
    List.lookup] at addressed
  split at addressed <;> split at addressed <;> simp_all [address]

theorem findSocket (setup : net.Setup v node) :
    node.findSocketWithInterfaceAddress (net.iface v) = some ⟨2, 1, net.address v⟩ := by
  simp [Node.findSocketWithInterfaceAddress, setup.socketAddresses]

theorem findSocket_loopback (setup : net.Setup v node) :
    node.findSocketWithInterfaceAddress .loopback = none := by
  simp [Node.findSocketWithInterfaceAddress, setup.socketAddresses, iface_ne_loopback]

theorem socket_address {iface : Ipv4InterfaceAddress} {socket : Socket} (setup : net.Setup v node)
    (found : node.findSocketWithInterfaceAddress iface = some socket) :
    socket.address = net.address v := by
  simp only [Node.findSocketWithInterfaceAddress, setup.socketAddresses] at found
  obtain ⟨entry, chosen, rfl⟩ := Option.map_eq_some_iff.mp found
  have member := List.mem_of_find?_eq_some chosen
  rw [List.mem_singleton] at member
  rw [member]

end Setup

/-! ## Four nodes -/

-- named, so that the four nodes are the same numerals wherever they are written
instance : NeZero 4 := ⟨by decide⟩

/-- The nodes 10.1.2.1 to 10.1.2.4 in one subnet, with the given links. -/
def fourNodes (links : List (Fin 4 × Fin 4)) : StaticNetwork (Fin 4) where
  graph :=
    { Adj := fun v w => v ≠ w ∧ ((v, w) ∈ links ∨ (w, v) ∈ links)
      symm := ⟨fun _ _ link => ⟨link.1.symm, link.2.symm⟩⟩
      loopless := ⟨fun _ link => link.1 rfl⟩ }
  iface v := ⟨0x0a010201#32 + BitVec.ofNat 32 v, 0xffffff00#32, 0x0a0102ff#32⟩
  helloInterval _ := 1000
  maxPRQueueLen _ := 50
  maxPRQueueTime _ := 1000
  injective := by decide
  notLoopback := by decide
  notUnset := by decide
  notBroadcast := by decide

instance (links : List (Fin 4 × Fin 4)) : DecidableRel (fourNodes links).graph.Adj :=
  fun _ _ => inferInstanceAs (Decidable (_ ∧ _))

def hears (x y : Fin 4) : List (Action (Fin 4)) := [.sendHello y [(1, x, 1)], .deliverHello 0 0]

end StaticNetwork

end Bsdvr
