import Bsdvr.Model.Network
import Bsdvr.Model.Packet

namespace Bsdvr

structure WirePacket where
  source : Ipv4Address
  destination : Ipv4Address
  bytes : List Byte
  deriving DecidableEq, Repr

structure WireHello (V : Type) where
  source : Ipv4Address
  bytes : List Byte
  receiver : V
  index : Nat

structure WireState (V : Type) where
  node : V → Node
  hellos : List (WireHello V)
  updates : List WirePacket

namespace WireState
variable {V : Type}

def packets (sent : List Sent) : List WirePacket :=
  sent.filterMap fun update => update.socket.map fun socket =>
    ⟨socket.address, update.neighbor, (Message.update update.header).packet⟩

def hellosTo (node : Node) (reached : List (Nat × V × Nat)) : List (WireHello V) :=
  reached.flatMap fun (i, w, j) =>
    (node.helloMessages.filter fun hello => hello.socket.device = i).map fun hello =>
      ⟨hello.socket.address, (Message.hello hello.header).packet, w, j⟩

variable [DecidableEq V]

def transmit (state : WireState V) (v : V) (handled : Node × List Sent) : WireState V :=
  { state with
    node := Function.update state.node v handled.1
    updates := state.updates ++ packets handled.2 }

def react (state : WireState V) (v : V) (event : Node.Event) : Option (WireState V) :=
  if (state.node v).Enabled event then
    some (state.transmit v ((state.node v).handle event))
  else none

/-- `RecvBsdv` on a packet that is read from an open socket: none where a header is read past its
end. A packet whose type is not valid is dropped. -/
def recvBsdv (state : WireState V) (v : V) (socket : Socket) (sender : Ipv4Address)
    (packet : List Byte) (hardware : Mac48Address) : Option (WireState V) :=
  if socket ∈ (state.node v).openSockets ∧ ((state.node v).receiver socket).isSome then
    (removeHeaders packet).map fun message =>
      match message with
      | none => state
      | some message => state.transmit v ((state.node v).recvBsdv socket sender message hardware)
  else none

def next (network : Network V) [∀ v i w j, Decidable (network.link v i w j)] (state : WireState V) :
    Action V → Option (WireState V)
  | .event v event =>
      match event with
      | .recv .. => none
      | .elapse _ => none
      | event => state.react v event
  | .sendHello v reached =>
      if ∀ hop ∈ reached, network.link v hop.1 hop.2.1 hop.2.2 then
        (state.react v .purge).map fun after =>
          { after with hellos := after.hellos ++ hellosTo (after.node v) reached }
      else none
  | .deliverHello k hardware =>
      state.hellos[k]?.bind fun hello =>
        (Network.broadcastSocket (state.node hello.receiver) hello.index).bind fun socket =>
          recvBsdv { state with hellos := state.hellos.eraseIdx k }
            hello.receiver socket hello.source hello.bytes hardware
  | .deliverUpdate k v =>
      state.updates[k]?.bind fun packet =>
        (Network.unicastSocket (state.node v) packet.destination).bind fun socket =>
          recvBsdv { state with updates := state.updates.eraseIdx k }
            v socket packet.source packet.bytes 0
  | .elapse duration =>
      some { state with node := fun v =>
        { state.node v with now := (state.node v).now + duration } }

def initial (network : Network V) : WireState V := ⟨network.start, [], []⟩

end WireState

end Bsdvr
