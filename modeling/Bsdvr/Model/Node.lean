import Bsdvr.Model.ControlPlane

namespace Bsdvr

structure Socket where
  id : Nat
  device : NetDevice
  address : Ipv4Address
  deriving DecidableEq, Repr

/-- A `RoutingProtocol` with the parts of its node it reads. Interface `i` of the node carries
the address `interfaces[i]`; interface 0 is the loopback interface. -/
structure Node where
  now : Time
  enableHello : Bool
  helloInterval : Time
  mainAddress : Ipv4Address
  interfaces : List Ipv4InterfaceAddress
  socketAddresses : List (Socket × Ipv4InterfaceAddress)
  socketSubnetBroadcastAddresses : List (Socket × Ipv4InterfaceAddress)
  openSockets : List Socket
  routingTable : RoutingTable
  nb : Neighbors
  prqueue : BsdvrPendingReplyQueue
  -- the name the next socket or route object gets
  fresh : Nat

/-- One call of `socket->SendTo` in `SendUpdate`. Where `socket` is `none`, the assertion on the
socket fails instead. -/
structure Sent where
  socket : Option Socket
  neighbor : Ipv4Address
  header : UpdateHeader
  ttl : BitVec 8
  deriving DecidableEq, Repr

structure HelloSent where
  socket : Socket
  header : HelloHeader
  destination : Ipv4Address
  deriving DecidableEq, Repr

namespace Node

abbrev ft (node : Node) : EntryMap := node.routingTable.forwardingTable
abbrev dvt (node : Node) : DistanceVectorTable := node.routingTable.distanceVectorTable
abbrev neighbors (node : Node) : List Ipv4Address := node.nb.addresses

def setFt (node : Node) (ft : EntryMap) : Node :=
  { node with routingTable := { node.routingTable with forwardingTable := ft } }

def setDvt (node : Node) (dvt : DistanceVectorTable) : Node :=
  { node with routingTable := { node.routingTable with distanceVectorTable := dvt } }

/-! ## Interfaces and sockets -/

def getInterfaceForAddress (node : Node) (addr : Ipv4Address) : Option Nat :=
  node.interfaces.findIdx? (·.localAddress = addr)

def getAddress (node : Node) (index : Option Nat) : Ipv4InterfaceAddress :=
  (index.bind fun i => node.interfaces[i]?).getD .unset

def findSocketWithInterfaceAddress (node : Node) (addr : Ipv4InterfaceAddress) : Option Socket :=
  (node.socketAddresses.find? (·.2 = addr)).map Prod.fst

def findSubnetBroadcastSocketWithInterfaceAddress (node : Node)
    (addr : Ipv4InterfaceAddress) : Option Socket :=
  (node.socketSubnetBroadcastAddresses.find? (·.2 = addr)).map Prod.fst

/-- Whether interface `i` is up, that is, `NotifyInterfaceUp (i)` opened its socket. -/
def isUp (node : Node) (i : Nat) : Prop :=
  ∃ iface ∈ node.interfaces[i]?, ∃ entry ∈ node.socketAddresses, entry.2 = iface

instance (node : Node) (i : Nat) : Decidable (node.isUp i) :=
  inferInstanceAs (Decidable (∃ iface ∈ node.interfaces[i]?, ∃ entry ∈
    node.socketAddresses, entry.2 = iface))

/-! ## Sending -/

def sendUpdate (node : Node) (rt : RoutingTableEntry) (ne : Ipv4Address) : Sent :=
  { socket := node.findSocketWithInterfaceAddress rt.iface
    neighbor := ne
    header :=
      { origin := rt.iface.localAddress
        dst := rt.destination
        hopCount := rt.hops
        binaryState := if rt.state = .active then 1 else 0 }
    ttl := rt.hops.setWidth 8 }

def sendTriggeredUpdateToNeighbor (node : Node) (ne : Ipv4Address) : List Sent :=
  node.ft.toList.filterMap fun (dst, entry) =>
    if entry.destination = unsetAddress then none
    else if dst ≠ node.mainAddress ∧ dst ≠ ne ∧ dst ≠ loopback then some (node.sendUpdate entry ne)
    else none

def sendTriggeredUpdateChangesToNeighbors (node : Node)
    (changes nex : List Ipv4Address) : List Sent :=
  node.neighbors.flatMap fun ne =>
    if ne ∈ nex then []
    else changes.filterMap fun dst =>
      node.ft[dst]?.bind fun entry => if dst ≠ ne then some (node.sendUpdate entry ne) else none

/-- The addresses 10.1.1.1 to 10.1.1.50, which link failures and retransmissions pass over. -/
def filtered (ne : Ipv4Address) : Bool := 0x0a010100#32 < ne && ne < 0x0a010133#32

/-- The messages `SendHello` schedules, one for each interface that is up. -/
def helloMessages (node : Node) : List HelloSent :=
  node.socketAddresses.map fun (socket, iface) =>
    { socket
      header := { origin := iface.localAddress, dst := iface.localAddress }
      destination := if iface.mask = 0xffffffff#32 then 0xffffffff#32 else iface.broadcast }

/-! ## Recomputation, link failures and the neighbour list -/

/-- `ComputeForwardingTable` on the node's tables. -/
def recompute (node : Node) : Node × List Ipv4Address :=
  let computed := computeForwardingTable node.mainAddress node.neighbors node.dvt node.ft
  (node.setFt computed.1, computed.2)

/-- `UpdateDistanceVectorTable` on the node's tables. -/
def learn (node : Node) (nxtHp : Ipv4Address) (rt : RoutingTableEntry) : Node :=
  node.setDvt (updateDistanceVectorTable node.neighbors node.ft node.dvt nxtHp rt)

def sendUpdateOnLinkFailure (node : Node) (ne : Ipv4Address) : Node × List Sent :=
  if filtered ne then (node, [])
  else
    match node.dvt.entry ne ne with
    | none => (node, [])
    | some entry =>
      let recomputed := (node.learn ne (entry.setRouteState .inactive)).recompute
      (recomputed.1, recomputed.1.sendTriggeredUpdateChangesToNeighbors recomputed.2 [ne])

/-- The first loop of `Neighbors::Purge`: report each neighbour in `lost` to the failure
callback. -/
def handleLinkFailures (node : Node) : List Ipv4Address → Node × List Sent
  | [] => (node, [])
  | ne :: rest =>
      let failed := node.sendUpdateOnLinkFailure ne
      let later := failed.1.handleLinkFailures rest
      (later.1, failed.2 ++ later.2)

def lost (node : Node) : List Ipv4Address :=
  Neighbors.addresses (node.nb.filter (·.closed node.now))

def dropClosed (node : Node) : Node :=
  { node with nb := node.nb.filter fun neighbor => !neighbor.closed node.now }

def purgeNeighbors (node : Node) : Node × List Sent :=
  let handled := node.handleLinkFailures node.lost
  (handled.1.dropClosed, handled.2)

/-- `Neighbors::Update`; `hardware` is what `LookupMacAddress` finds. -/
def updateNeighbors (node : Node) (addr : Ipv4Address) (expire : Time) (hardware : Mac48Address) :
    Node × List Sent :=
  if addr ∈ node.neighbors then
    ({ node with nb := node.nb.extend node.now addr expire hardware }, [])
  else
    purgeNeighbors { node with nb := node.nb ++ [⟨addr, hardware, expire + node.now, false⟩] }

/-! ## Hello messages -/

/-- Write a route object: every entry that holds it sees the change. -/
def writeRoute (node : Node) (ref : Nat) (write : Ipv4Route → Ipv4Route) : Node :=
  { node with routingTable :=
      { forwardingTable := node.ft.map fun _ entry => entry.writeRoute ref write
        distanceVectorTable := node.dvt.map fun _ row => row.map fun _ entry =>
          entry.writeRoute ref write } }

def setRow (node : Node) (ne : Ipv4Address) (row : EntryMap) : Node :=
  node.setDvt (node.dvt.insert ne row)

def row (node : Node) (ne : Ipv4Address) : EntryMap := (node.dvt[ne]?).getD ∅

/-- `ProcessHello` where the neighbour's row has no entry for it yet. -/
def joinNeighbor (node : Node) (origin receiver : Ipv4Address) : Node × List Sent :=
  let index := node.getInterfaceForAddress receiver
  let newEntry := RoutingTableEntry.make node.fresh index origin (node.getAddress index) 1 origin
  let node := { node.setRow origin ((node.row origin).addRoute newEntry)
    with fresh := node.fresh + 1 }
  -- the list of changes is dropped: only `origin` is told about them
  let recomputed := node.recompute.1
  (recomputed, recomputed.sendTriggeredUpdateToNeighbor origin)

/-- `ProcessHello` where the neighbour's row has an entry for it. -/
def refreshNeighbor (node : Node) (origin receiver : Ipv4Address) (toNeighbor : RoutingTableEntry) : Node :=
  let index := node.getInterfaceForAddress receiver
  let write (route : Ipv4Route) : Ipv4Route := { route with outputDevice := index, gateway := origin }
  let node := node.writeRoute toNeighbor.route.ref write
  let toNeighbor := { toNeighbor with route := write toNeighbor.route, iface := node.getAddress index, hops := 1 }
  node.setRow origin ((node.row origin).update toNeighbor)

/-- `ProcessHello` after the update of the neighbour list. -/
def exchangeHello (node : Node) (origin receiver : Ipv4Address) : Node × List Sent :=
  let node := if node.dvt.contains origin then node else node.setRow origin ∅
  match (node.row origin).lookupRoute origin with
  | none => node.joinNeighbor origin receiver
  | some toNeighbor => (node.refreshNeighbor origin receiver toNeighbor, [])

def processHello (node : Node) (header : HelloHeader) (receiver : Ipv4Address)
    (hardware : Mac48Address) :
    Node × List Sent :=
  let updated :=
    if node.enableHello then node.updateNeighbors header.origin node.helloInterval hardware
    else (node, [])
  let exchanged := updated.1.exchangeHello header.origin receiver
  (exchanged.1, updated.2 ++ exchanged.2)

def recvHello (node : Node) (header : HelloHeader) (my : Ipv4Address)
    (hardware : Mac48Address) : Node × List Sent :=
  if header.dst = header.origin then node.processHello header my hardware else (node, [])

/-! ## Update messages -/

def sendUpdateOnPendingReplyEntryTimeout (node : Node) (entry : PendingReplyEntry) : List Sent :=
  if filtered entry.neighbor then []
  else
    match node.ft[entry.destination]? with
    | none => []
    | some route =>
      if entry.neighbor ∈ node.neighbors ∧ route.state = .active ∧
        route.nextHop ≠ entry.neighbor then
        [node.sendUpdate route entry.neighbor]
      else []

/-- `BsdvrPendingReplyQueue::Enqueue`, with the callbacks its `Purge` makes. -/
def enqueuePendingReply (node : Node) (entry : PendingReplyEntry) : Node × List Sent :=
  let purged := node.prqueue.purge node.now
  ({ node with prqueue := purged.2.push node.now entry },
    purged.1.flatMap node.sendUpdateOnPendingReplyEntryTimeout)

def retransmitToNeighbor (node : Node) (upt : UpdateHeader) : Node × List Sent :=
  if filtered upt.origin then (node, [])
  else
    match node.ft[upt.dst]? with
    | none => (node, [])
    | some route =>
      if upt.origin ∈ node.neighbors ∧ route.state = .active ∧ route.nextHop ≠ upt.origin then
        let c5 := ((node.dvt.entry route.nextHop upt.origin).map RoutingTableEntry.hops).getD 0
        let c2 := upt.hopCount
        let l2 : BitVec 32 := 1
        let c1 := route.hops
        let c3 := c1 - l2
        if c3 = 0 ∨ c5 = c2 + c3 then (node, [node.sendUpdate route upt.origin])
        else node.enqueuePendingReply ⟨upt.origin, upt.dst, node.now + node.now⟩
      else (node, [])

/-- The entry `RecvUpdate` builds: the hop count passes through a `uint8_t`. -/
def updateEntry (node : Node) (header : UpdateHeader) (my src : Ipv4Address) : RoutingTableEntry :=
  let hop : BitVec 8 := (header.hopCount + 1).setWidth 8
  let index := node.getInterfaceForAddress my
  (RoutingTableEntry.make node.fresh index header.dst (node.getAddress index)
    (hop.setWidth 32) src).setRouteState
    (if header.binaryState = 1 then .active else .inactive)

/-- `RecvUpdate` up to the flush of the data packet queue. -/
def recvUpdate (node : Node) (header : UpdateHeader) (my src : Ipv4Address) : Node × List Sent :=
  let rt := node.updateEntry header my src
  let recomputed := recompute { node.learn src rt with fresh := node.fresh + 1 }
  let announced := recomputed.1.sendTriggeredUpdateChangesToNeighbors recomputed.2 []
  if header.binaryState = 0 ∧ header.dst ≠ header.origin then
    let replied := recomputed.1.retransmitToNeighbor header
    (replied.1, announced ++ replied.2)
  else (recomputed.1, announced)

/-- The local address of the interface a socket listens on, as `RecvBsdv` looks it up. -/
def receiver (node : Node) (socket : Socket) : Option Ipv4Address :=
  ((node.socketAddresses.lookup socket).or (node.socketSubnetBroadcastAddresses.lookup socket)).map
    Ipv4InterfaceAddress.localAddress

def recvBsdv (node : Node) (socket : Socket) (sender : Ipv4Address) (message : Message)
    (hardware : Mac48Address) : Node × List Sent :=
  match node.receiver socket with
  | none => (node, [])
  | some my =>
    match message with
    | .hello header => node.recvHello header my hardware
    | .update header => node.recvUpdate header my sender

/-! ## Interface events -/

def notifyInterfaceUp (node : Node) (i : Nat) : Node :=
  let iface := node.getAddress (some i)
  if iface.localAddress = loopback then node
  else
    let unicast : Socket := ⟨node.fresh, i, iface.localAddress⟩
    let broadcast : Socket := ⟨node.fresh + 1, i, iface.broadcast⟩
    let dev := node.getInterfaceForAddress iface.localAddress
    let rt := RoutingTableEntry.make (node.fresh + 2) dev iface.broadcast iface 1 iface.broadcast
    { node.setFt (node.ft.addRoute rt) with
      socketAddresses := node.socketAddresses ++ [(unicast, iface)]
      socketSubnetBroadcastAddresses := node.socketSubnetBroadcastAddresses ++ [(broadcast, iface)]
      openSockets := node.openSockets ++ [unicast, broadcast]
      mainAddress := if node.mainAddress = unsetAddress then iface.localAddress
        else node.mainAddress
      fresh := node.fresh + 3 }

def closeSocket (socket : Option Socket) (sockets : List (Socket × Ipv4InterfaceAddress)) :
    List (Socket × Ipv4InterfaceAddress) :=
  sockets.filter fun entry => some entry.1 ≠ socket

def notifyInterfaceDown (node : Node) (i : Nat) : Node :=
  let iface := node.getAddress (some i)
  let unicast := node.findSocketWithInterfaceAddress iface
  let broadcast := node.findSubnetBroadcastSocketWithInterfaceAddress iface
  let node :=
    { node with
      socketAddresses := closeSocket unicast node.socketAddresses
      socketSubnetBroadcastAddresses := closeSocket broadcast node.socketSubnetBroadcastAddresses
      openSockets := node.openSockets.filter fun socket => some socket ≠ unicast ∧
        some socket ≠ broadcast }
  if node.socketAddresses.isEmpty then { node.setFt ∅ with nb := [] }
  else node.setFt (node.ft.deleteAllRoutesFromInterface iface)

/-! ## Events -/

inductive Event
  /-- A packet from `sender` is read from `socket`. -/
  | recv (socket : Socket) (sender : Ipv4Address) (message : Message) (hardware : Mac48Address)
  /-- The purge timer fires, or `SendHello` runs. -/
  | purge
  | txError (hardware : Mac48Address)
  | interfaceUp (i : Nat)
  | interfaceDown (i : Nat)
  | elapse (duration : Time)
  deriving DecidableEq, Repr

/-- What ns-3 can bring about: packets arrive on open sockets of a node that is up, interfaces
come up when they are down and go down when they are up. -/
def Enabled (node : Node) : Event → Prop
  | .recv socket _ _ _ => socket ∈ node.openSockets ∧ (node.receiver socket).isSome
  | .interfaceUp i => i < node.interfaces.length ∧ ¬node.isUp i
  | .interfaceDown i => node.isUp i
  | .purge | .txError _ | .elapse _ => True

instance (node : Node) (event : Event) : Decidable (node.Enabled event) :=
  match event with
  | .recv _ _ _ _ => inferInstanceAs (Decidable (_ ∧ _))
  | .interfaceUp i => inferInstanceAs (Decidable (_ ∧ ¬node.isUp i))
  | .interfaceDown i => inferInstanceAs (Decidable (node.isUp i))
  | .purge | .txError _ | .elapse _ => instDecidableTrue

def handle (node : Node) : Event → Node × List Sent
  | .recv socket sender message hardware => node.recvBsdv socket sender message hardware
  | .purge => node.purgeNeighbors
  | .txError hardware => purgeNeighbors { node with nb := node.nb.closeMatching hardware }
  | .interfaceUp i => (node.notifyInterfaceUp i, [])
  | .interfaceDown i => (node.notifyInterfaceDown i, [])
  | .elapse duration => ({ node with now := node.now + duration }, [])

def next (node : Node) (event : Event) : Option Node :=
  if node.Enabled event then some (node.handle event).1 else none

/-- The protocol after `SetIpv4`: no interface is up, and the forwarding table holds the loopback
entry. -/
def initial (interfaces : List Ipv4InterfaceAddress) (enableHello : Bool) (helloInterval : Time)
    (maxPRQueueLen : BitVec 32) (maxPRQueueTime : Time) : Node :=
  { now := 0
    enableHello
    helloInterval
    mainAddress := unsetAddress
    interfaces
    socketAddresses := []
    socketSubnetBroadcastAddresses := []
    openSockets := []
    routingTable :=
      { forwardingTable := EntryMap.addRoute ∅ (.make 1 (some 0) loopback .loopback 1 loopback)
        distanceVectorTable := ∅ }
    nb := []
    prqueue := ⟨[], maxPRQueueLen, maxPRQueueTime⟩
    fresh := 2 }

end Node

end Bsdvr
