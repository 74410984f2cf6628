import Bsdvr.Model.Node

namespace Bsdvr

structure Ipv4Interface where
  addresses : List Ipv4InterfaceAddress
  up : Bool
  deriving DecidableEq, Repr

/-- `GetAddress (i, 0)`. -/
def Ipv4Interface.address (interface : Ipv4Interface) : Ipv4InterfaceAddress :=
  interface.addresses.headD .unset

namespace Node

/-- Open the two sockets of an address and add its broadcast route, as `NotifyAddAddress` and
`NotifyRemoveAddress` do. -/
def listen (node : Node) (i : Nat) (iface : Ipv4InterfaceAddress) : Node :=
  let unicast : Socket := ⟨node.fresh, i, iface.localAddress⟩
  let broadcast : Socket := ⟨node.fresh + 1, i, iface.broadcast⟩
  let dev := node.getInterfaceForAddress iface.localAddress
  let rt := RoutingTableEntry.make (node.fresh + 2) dev iface.broadcast iface 1 iface.broadcast
  { node.setFt (node.ft.addRoute rt) with
    socketAddresses := node.socketAddresses ++ [(unicast, iface)]
    socketSubnetBroadcastAddresses := node.socketSubnetBroadcastAddresses ++ [(broadcast, iface)]
    openSockets := node.openSockets ++ [unicast, broadcast]
    fresh := node.fresh + 3 }

def notifyAddAddress (node : Node) (l3 : List Ipv4Interface) (i : Nat) : Node :=
  match l3[i]? with
  | none => node
  | some interface =>
    if !interface.up then node
    else
      match interface.addresses with
      | [iface] =>
        match node.findSocketWithInterfaceAddress iface with
        | some _ => node
        | none => if iface.localAddress = loopback then node else node.listen i iface
      | _ => node

def notifyRemoveAddress (node : Node) (l3 : List Ipv4Interface) (i : Nat)
    (address : Ipv4InterfaceAddress) : Node :=
  match node.findSocketWithInterfaceAddress address with
  | none => node
  | some socket =>
    let node := node.setFt (node.ft.deleteAllRoutesFromInterface address)
    let node :=
      { node with
        openSockets := node.openSockets.filter (· ≠ socket)
        socketAddresses := closeSocket (some socket) node.socketAddresses }
    let node :=
      match node.findSubnetBroadcastSocketWithInterfaceAddress address with
      | none => node
      | some unicastSocket =>
        { node with
          openSockets := node.openSockets.filter (· ≠ unicastSocket)
          -- the socket is erased from the map it is not in
          socketAddresses := closeSocket (some unicastSocket) node.socketAddresses }
    let node :=
      match (l3[i]?.map Ipv4Interface.addresses).getD [] with
      | [] => node
      | iface :: _ => node.listen i iface
    if node.socketAddresses.isEmpty then { node.setFt ∅ with nb := [] } else node

end Node

/-- A node whose interfaces are added, and get and lose their addresses, while the protocol runs. -/
structure Host where
  node : Node
  l3 : List Ipv4Interface

inductive HostEvent
  | addInterface
  | addAddress (i : Nat) (address : Ipv4InterfaceAddress)
  | removeAddress (i : Nat)
  | setUp (i : Nat)
  | setDown (i : Nat)
  /-- What else the protocol handles: packets, timers, transmission errors. -/
  | protocol (event : Node.Event)
  deriving DecidableEq, Repr

def Node.Event.isInterface : Node.Event → Bool
  | .interfaceUp _ | .interfaceDown _ => true
  | .recv _ _ _ _ | .purge | .txError _ | .elapse _ => false

namespace Host

def addresses (host : Host) (i : Nat) : List Ipv4InterfaceAddress :=
  (host.l3[i]?.map Ipv4Interface.addresses).getD []

def address (host : Host) (i : Nat) : Ipv4InterfaceAddress := (host.addresses i).headD .unset

def setL3 (host : Host) (l3 : List Ipv4Interface) : Host :=
  { node := { host.node with interfaces := l3.map Ipv4Interface.address }, l3 }

/-- What ns-3 can bring about with one address on each interface. `NotifyInterfaceUp` reads the
address of the interface, and `NotifyInterfaceDown` asserts that it has both sockets. -/
def Enabled (host : Host) : HostEvent → Prop
  | .addInterface => True
  | .addAddress i _ => i < host.l3.length ∧ host.addresses i = []
  | .removeAddress i | .setUp i => host.addresses i ≠ []
  | .setDown i => host.addresses i ≠ [] ∧
      (host.node.findSocketWithInterfaceAddress (host.address i)).isSome ∧
      (host.node.findSubnetBroadcastSocketWithInterfaceAddress (host.address i)).isSome
  | .protocol event => event.isInterface = false ∧ host.node.Enabled event

instance (host : Host) (event : HostEvent) : Decidable (host.Enabled event) :=
  match event with
  | .addInterface => instDecidableTrue
  | .addAddress _ _ => inferInstanceAs (Decidable (_ ∧ _))
  | .removeAddress _ | .setUp _ => inferInstanceAs (Decidable (_ ≠ _))
  | .setDown _ => inferInstanceAs (Decidable (_ ∧ _ ∧ _))
  | .protocol _ => inferInstanceAs (Decidable (_ ∧ _))

/-- The interface changes first, then the protocol is notified. -/
def handle (host : Host) : HostEvent → Host
  | .addInterface => host.setL3 (host.l3 ++ [⟨[], false⟩])
  | .addAddress i address =>
      let host := host.setL3 (host.l3.modify i fun interface =>
        { interface with addresses := [address] })
      { host with node := host.node.notifyAddAddress host.l3 i }
  | .removeAddress i =>
      let changed := host.setL3 (host.l3.modify i fun interface =>
        { interface with addresses := [] })
      { changed with node := changed.node.notifyRemoveAddress changed.l3 i (host.address i) }
  | .setUp i =>
      let host := host.setL3 (host.l3.modify i fun interface => { interface with up := true })
      { host with node := host.node.notifyInterfaceUp i }
  | .setDown i =>
      let host := host.setL3 (host.l3.modify i fun interface => { interface with up := false })
      { host with node := host.node.notifyInterfaceDown i }
  | .protocol event => { host with node := (host.node.handle event).1 }

def next (host : Host) (event : HostEvent) : Option Host :=
  if host.Enabled event then some (host.handle event) else none

/-- The host after `SetIpv4`: its only interface is the loopback interface. -/
def initial (enableHello : Bool) (helloInterval : Time) (maxPRQueueLen : BitVec 32)
    (maxPRQueueTime : Time) : Host :=
  { node := .initial [.loopback] enableHello helloInterval maxPRQueueLen maxPRQueueTime
    l3 := [⟨[.loopback], true⟩] }

end Host

end Bsdvr
