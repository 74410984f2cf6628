import Bsdvr.Foundation.Run
import Bsdvr.Model.Node

namespace Bsdvr

/-- Nodes before the first event, and which interface of which node hears which. -/
structure Network (V : Type) where
  start : V → Node
  link : V → Nat → V → Nat → Prop

structure Packet where
  source : Ipv4Address
  destination : Ipv4Address
  header : UpdateHeader
  deriving DecidableEq, Repr

/-- A HELLO on its way to interface `index` of node `receiver`. -/
structure HelloPacket (V : Type) where
  source : Ipv4Address
  header : HelloHeader
  receiver : V
  index : Nat

structure NetworkState (V : Type) where
  node : V → Node
  hellos : List (HelloPacket V)
  updates : List Packet

inductive Action (V : Type)
  /-- A timer, a transmission error or a change of an interface at one node. -/
  | event (v : V) (event : Node.Event)
  /-- `SendHello`, whose messages from interface `i` reach the listed interfaces. -/
  | sendHello (v : V) (reached : List (Nat × V × Nat))
  | deliverHello (k : Nat) (hardware : Mac48Address)
  /-- The `k`-th UPDATE in flight arrives at `v`. -/
  | deliverUpdate (k : Nat) (v : V)
  | elapse (duration : Time)

namespace Network
variable {V : Type} [DecidableEq V]

def packets (sent : List Sent) : List Packet :=
  sent.filterMap fun update => update.socket.map fun socket =>
    ⟨socket.address, update.neighbor, update.header⟩

def react (state : NetworkState V) (v : V) (event : Node.Event) : Option (NetworkState V) :=
  if (state.node v).Enabled event then
    let handled := (state.node v).handle event
    some { state with
      node := Function.update state.node v handled.1
      updates := state.updates ++ packets handled.2 }
  else none

def hellosTo (node : Node) (reached : List (Nat × V × Nat)) : List (HelloPacket V) :=
  reached.flatMap fun (i, w, j) =>
    (node.helloMessages.filter fun hello => hello.socket.device = i).map fun hello =>
      ⟨hello.socket.address, hello.header, w, j⟩

def unicastSocket (node : Node) (addr : Ipv4Address) : Option Socket :=
  (node.socketAddresses.find? (·.1.address = addr)).map Prod.fst

def broadcastSocket (node : Node) (index : Nat) : Option Socket :=
  (node.socketSubnetBroadcastAddresses.find? (·.1.device = index)).map Prod.fst

def next (network : Network V) [∀ v i w j, Decidable (network.link v i w j)]
    (state : NetworkState V) :
    Action V → Option (NetworkState V)
  | .event v event =>
      match event with
      | .recv .. => none
      | .elapse _ => none
      | event => react state v event
  | .sendHello v reached =>
      if ∀ hop ∈ reached, network.link v hop.1 hop.2.1 hop.2.2 then
        (react state v .purge).map fun after =>
          { after with hellos := after.hellos ++ hellosTo (after.node v) reached }
      else none
  | .deliverHello k hardware =>
      state.hellos[k]?.bind fun hello =>
        (broadcastSocket (state.node hello.receiver) hello.index).bind fun socket =>
          react { state with hellos := state.hellos.eraseIdx k } hello.receiver
            (.recv socket hello.source (.hello hello.header) hardware)
  | .deliverUpdate k v =>
      state.updates[k]?.bind fun packet =>
        (unicastSocket (state.node v) packet.destination).bind fun socket =>
          react { state with updates := state.updates.eraseIdx k } v
            (.recv socket packet.source (.update packet.header) 0)
  | .elapse duration =>
      some { state with node := fun v =>
        { state.node v with now := (state.node v).now + duration } }

def initial (network : Network V) : NetworkState V := ⟨network.start, [], []⟩

end Network

end Bsdvr
