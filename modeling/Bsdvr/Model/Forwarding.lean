import Bsdvr.Model.DataPlane

namespace Bsdvr

/-- A packet with what `RouteInput` reads of its headers. -/
structure Datagram where
  packet : DataPacket
  header : Ipv4Header
  protocol : BitVec 8
  /-- The destination port of its UDP header, where the protocol is UDP. -/
  destinationPort : BitVec 16
  deriving DecidableEq, Repr

def Datagram.key (datagram : Datagram) : Nat × Ipv4Address :=
  (datagram.packet.uid, datagram.header.destination)

def Ipv4Address.isMulticast (addr : Ipv4Address) : Bool :=
  0xe0000000#32 ≤ addr && addr ≤ 0xefffffff#32

/-- `UdpL4Protocol::PROT_NUMBER`. -/
def udpProtocol : BitVec 8 := 17

def bsdvrPort : BitVec 16 := 653

/-- What `RouteInput` asks of the node's `Ipv4` object about a destination and an interface. -/
structure Ipv4 where
  isDestinationAddress : Ipv4Address → Nat → Bool
  isForwarding : Nat → Bool

structure Callbacks where
  ucb : Bool
  lcb : Bool
  ecb : Bool
  deriving DecidableEq, Repr

inductive Invocation
  | ucb (forwarded : Forwarded)
  | lcb (packet : DataPacket) (header : Ipv4Header) (iif : Nat)
  /-- With `ERROR_NOROUTETOHOST`. -/
  | ecb (packet : DataPacket) (header : Ipv4Header)
  deriving DecidableEq, Repr

namespace Callbacks

/-- To call a null callback is an error, here and below. -/
def forward (callbacks : Callbacks) (route : Ipv4Route) (datagram : Datagram) :
    Option (List Invocation) :=
  if callbacks.ucb then some [.ucb ⟨route, datagram.packet, datagram.header⟩] else none

def error (callbacks : Callbacks) (datagram : Datagram) : Option (List Invocation) :=
  if callbacks.ecb then some [.ecb datagram.packet datagram.header] else none

def deliver (callbacks : Callbacks) (datagram : Datagram) (iif : Nat) : Option (List Invocation) :=
  if callbacks.lcb then some [.lcb datagram.packet datagram.header iif]
  else callbacks.error datagram

end Callbacks

namespace Forwarding

/-! ## Packets that come in -/

def isMyOwnAddress (node : Node) (src : Ipv4Address) : Bool :=
  node.socketAddresses.any fun (_, iface) => src = iface.localAddress

def forwarding (node : Node) (datagram : Datagram) (callbacks : Callbacks) :
    Option (Bool × List Invocation) :=
  match node.ft.lookupRoute datagram.header.destination with
  | some toDst => (callbacks.forward toDst.route datagram).map fun calls => (true, calls)
  | none => some (false, [])

/-- The test in the loop over the sockets. -/
def receivesBroadcast (node : Node) (dst : Ipv4Address) (iif : Nat) : Bool :=
  node.socketAddresses.any fun (_, iface) =>
    node.getInterfaceForAddress iface.localAddress =
      some iif && (dst = iface.broadcast || dst = 0xffffffff#32)

/-- The body of that test. -/
def routeBroadcast (node : Node) (enableBroadcast : Bool) (datagram : Datagram) (iif : Nat)
    (callbacks : Callbacks) :
    Option (List Invocation) :=
  (callbacks.deliver datagram iif).bind fun delivered =>
    if !enableBroadcast then some delivered
    else if datagram.protocol = udpProtocol ∧ datagram.destinationPort = bsdvrPort then
      some delivered
    else if 1 < datagram.header.ttl then
      match node.ft.lookupRoute datagram.header.destination with
      | some toBroadcast => (callbacks.forward toBroadcast.route datagram).map (delivered ++ ·)
      | none => some delivered
    else some delivered

/-- `RouteInput` with the value it returns, the callbacks it calls and the queue after it; `none`
where an assertion fails. -/
def routeInput (node : Node) (ipv4 : Ipv4) (enableBroadcast : Bool) (queue : BsdvrQueue)
    (memory : Memory) (datagram : Datagram) (idev : NetDevice) (callbacks : Callbacks) :
    Option (Bool × List Invocation × BsdvrQueue) :=
  let dst := datagram.header.destination
  if node.socketAddresses.isEmpty then some (false, [], queue)
  else if node.interfaces.length ≤ idev then none
  else if idev = 0 ∧ datagram.packet.tag.isSome then
    some (true, [], (queue.deferredRouteOutput memory datagram.packet datagram.header).2)
  else if isMyOwnAddress node datagram.header.source then some (true, [], queue)
  else if dst.isMulticast then some (false, [], queue)
  else if receivesBroadcast node dst idev then
    (routeBroadcast node enableBroadcast datagram idev callbacks).map fun calls =>
      (true, calls, queue)
  else if ipv4.isDestinationAddress dst idev then
    (callbacks.deliver datagram idev).map fun calls => (true, calls, queue)
  else if !ipv4.isForwarding idev then (callbacks.error datagram).map fun calls =>
    (true, calls, queue)
  else (forwarding node datagram callbacks).map fun (routed, calls) => (routed, calls, queue)

/-- A packet that comes back from the loopback device is deferred. -/
theorem routeInput_looped (plane : DataPlane) (ipv4 : Ipv4) (enableBroadcast : Bool)
    (memory : Memory) (datagram : Datagram) (index : Nat) (callbacks : Callbacks)
    (looped : datagram.packet.tag.isSome) (attached : plane.node.interfaces ≠ []) :
    routeInput plane.node ipv4 enableBroadcast plane.queue memory datagram 0 callbacks =
      some (!plane.node.socketAddresses.isEmpty, [],
        (plane.routeInput datagram.packet index datagram.header memory).2.queue) := by
  have device : ¬plane.node.interfaces.length ≤ 0 := by simpa using attached
  unfold routeInput DataPlane.routeInput
  cases empty : plane.node.socketAddresses.isEmpty with
  | true => simp
  | false => simp [device, looped]

/-! ## Packets that go out -/

/-- The loop of `LoopbackRoute` over the sockets, up to the one on the device; without one the
source stays unset. The device of an address that is on no interface is looked up in vain. -/
def sourceOn (node : Node) (oif : NetDevice) :
    List (Socket × Ipv4InterfaceAddress) → Option Ipv4Address
  | [] => some unsetAddress
  | (_, iface) :: rest =>
      match node.getInterfaceForAddress iface.localAddress with
      | none => none
      | some interface =>
          if interface = oif then some iface.localAddress else sourceOn node oif rest

/-- `none` where the end of the sockets is dereferenced or an assertion fails. The route is a new
object. -/
def loopbackRoute (node : Node) (header : Ipv4Header) (oif : Option NetDevice) : Option Ipv4Route :=
  let found : Option Ipv4Address :=
    match oif with
    | some oif => sourceOn node oif node.socketAddresses
    | none => node.socketAddresses.head?.map fun (_, iface) => iface.localAddress
  found.bind fun source =>
    if source = unsetAddress then none
    else
      some
        { ref := node.fresh
          destination := header.destination
          source
          gateway := loopback
          outputDevice := some 0 }

inductive SocketErrno
  | notError
  | noRouteToHost
  deriving DecidableEq, Repr

/-- What `RouteOutput` returns, the error it writes, if any, and the packet after it. -/
structure Routed where
  route : Option Ipv4Route
  sockerr : Option SocketErrno
  packet : Option DataPacket
  deriving DecidableEq, Repr

def routeOutput (node : Node) (p : Option DataPacket) (header : Ipv4Header)
    (oif : Option NetDevice) : Option Routed :=
  match p with
  | none => (loopbackRoute node header oif).map fun route => ⟨some route, none, none⟩
  | some p =>
      if node.socketAddresses.isEmpty then some ⟨none, some .noRouteToHost, some p⟩
      else
        match node.ft.lookupRoute header.destination with
        | some rt =>
            if oif ≠ none ∧ rt.route.outputDevice ≠ oif then some ⟨none,
              some .noRouteToHost, some p⟩
            else some ⟨some rt.route, some .notError, some p⟩
        | none =>
            (loopbackRoute node header oif).map fun route =>
              ⟨some route, some .notError,
                some { p with tag := some (p.tag.getD (interfaceForDevice oif)) }⟩

/-- For a packet, this is what the data plane does. -/
theorem routeOutput_packet (node : Node) (p : DataPacket) (header : Ipv4Header)
    (oif : Option NetDevice) :
    routeOutput node (some p) header oif =
      match node.routeOutput p header oif with
      | .noRouteToHost => some ⟨none, some .noRouteToHost, some p⟩
      | .route route => some ⟨some route, some .notError, some p⟩
      | .loopback packet => (loopbackRoute node header oif).map fun route =>
          ⟨some route, some .notError, some packet⟩ := by
  unfold routeOutput Node.routeOutput
  simp only
  split
  · rfl
  · cases node.ft.lookupRoute header.destination with
    | none => rfl
    | some rt =>
        simp only
        split <;> rfl

end Forwarding

end Bsdvr
