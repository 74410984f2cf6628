import Bsdvr.Model.Node
import Bsdvr.Model.PacketQueue

namespace Bsdvr

def interfaceForDevice (device : Option NetDevice) : Int := (device.map Int.ofNat).getD (-1)

def mismatches (tag : Option Int) (device : Option NetDevice) : Bool :=
  tag.any fun index => index ≠ -1 && index ≠ interfaceForDevice device

structure Forwarded where
  route : Ipv4Route
  packet : DataPacket
  header : Ipv4Header
  deriving DecidableEq, Repr

def Forwarded.key (forwarded : Forwarded) : Nat × Ipv4Address :=
  (forwarded.packet.uid, forwarded.header.destination)

/-! ## Deferral -/

inductive RouteOutput
  | route (route : Ipv4Route)
  | noRouteToHost
  /-- The loopback route, for a packet that has its tag now. -/
  | loopback (packet : DataPacket)

def Node.routeOutput (node : Node) (p : DataPacket) (header : Ipv4Header)
    (oif : Option NetDevice) : RouteOutput :=
  if node.socketAddresses.isEmpty then .noRouteToHost
  else
    match node.ft.lookupRoute header.destination with
    | some rt =>
        if oif ≠ none ∧ rt.route.outputDevice ≠ oif then .noRouteToHost
        else .route rt.route
    | none => .loopback { p with tag := some (p.tag.getD (interfaceForDevice oif)) }

def QueueEntry.removePacketTag (entry : QueueEntry) : QueueEntry :=
  { entry with packet := { entry.packet with tag := none } }

namespace BsdvrQueue

/-- `Enqueue` of a packet with a fresh `Status ()`, which is constructed beside the entries of the
queue. -/
def deferredRouteOutput (queue : BsdvrQueue) (memory : Memory) (p : DataPacket)
    (header : Ipv4Header) :
    Bool × BsdvrQueue :=
  queue.enqueue memory ⟨p, memory queue.queue.length .notForwarded, header⟩

/-! ## Flush -/

/-- The packet of an entry that is handed out is the one in the queue. -/
def removePacketTag (queue : BsdvrQueue) (key : Nat × Ipv4Address) : BsdvrQueue :=
  { queue with queue := queue.queue.map fun entry =>
      if entry.key = key then entry.removePacketTag else entry }

/-- The loop of `SendPacketFromQueue`, in at most `fuel` iterations; `memory` is that of each call
of `Dequeue`. -/
def sendPacketFromQueue (dst : Ipv4Address) (route : Ipv4Route) (state : RouteState)
    (memory : Nat → Memory) :
    Nat → BsdvrQueue → Option (List Forwarded × BsdvrQueue)
  | 0, _ => none
  | fuel + 1, queue =>
    match queue.dequeue (memory fuel) dst (if state = .active then 2 else 1) with
    | none => some ([], queue)
    | some (entry, queue) =>
      let queue := queue.removePacketTag entry.key
      -- the packets behind one with another interface are not looked at
      if mismatches entry.packet.tag route.outputDevice then some ([], queue)
      else
        let header := { entry.header with source := route.source, ttl := entry.header.ttl + 1 }
        (sendPacketFromQueue dst route state memory fuel queue).map fun (later, queue) =>
          (⟨route, entry.removePacketTag.packet, header⟩ :: later, queue)

/-- The loop over the forwarding table at the end of `RecvUpdate`. -/
def flush (memory : Ipv4Address → Nat → Memory) (fuel : Nat) :
    List (Ipv4Address × RoutingTableEntry) → BsdvrQueue → Option (List Forwarded × BsdvrQueue)
  | [], queue => some ([], queue)
  | (dst, rt) :: rest, queue => do
      let (sent, queue) ← (if queue.find dst then queue.sendPacketFromQueue dst rt.route rt.state
          (memory dst) fuel
        else some ([], queue))
      let (later, queue) ← flush memory fuel rest queue
      some (sent ++ later, queue)

end BsdvrQueue

/-! ## Events -/

/-- A node with its packet queue, and the packets it has sent to its loopback device with their
destinations. -/
structure DataPlane where
  node : Node
  queue : BsdvrQueue
  looped : List (DataPacket × Ipv4Address)

inductive DataEvent
  /-- An event of the node; `memory` and `fuel` are for the flush after an UPDATE. -/
  | control (event : Node.Event) (memory : Ipv4Address → Nat → Memory) (fuel : Nat)
  | routeOutput (p : DataPacket) (header : Ipv4Header) (oif : Option NetDevice)
  /-- `RouteInput` gets a packet from the loopback device. -/
  | routeInput (index : Nat) (header : Ipv4Header) (memory : Memory)

namespace DataPlane

/-- The queue after an event of the node, and the packets it forwards: only UPDATEs flush. -/
def flushAfter (plane : DataPlane) (event : Node.Event) (memory : Ipv4Address → Nat → Memory)
    (fuel : Nat) :
    Option (List Forwarded × BsdvrQueue) :=
  match event with
  | .recv socket _ (.update _) _ =>
      if (plane.node.receiver socket).isSome then
        BsdvrQueue.flush memory fuel (plane.node.handle event).1.ft.toList plane.queue
      else some ([], plane.queue)
  | _ => some ([], plane.queue)

def control (plane : DataPlane) (event : Node.Event) (memory : Ipv4Address → Nat → Memory)
    (fuel : Nat) :
    Option (List Forwarded × DataPlane) :=
  (plane.node.next event).bind fun node =>
    (plane.flushAfter event memory fuel).map fun (sent, queue) => (sent, { plane with node, queue })

def routeOutput (plane : DataPlane) (p : DataPacket) (header : Ipv4Header)
    (oif : Option NetDevice) : DataPlane :=
  match plane.node.routeOutput p header oif with
  | .loopback packet => { plane with looped := plane.looped ++ [(packet, header.destination)] }
  | .route _ | .noRouteToHost => plane

/-- `RouteInput` of the packet with this index: whether it is queued, and the state after it. -/
def routeInput (plane : DataPlane) (p : DataPacket) (index : Nat) (header : Ipv4Header)
    (memory : Memory) :
    Bool × DataPlane :=
  let looped := plane.looped.eraseIdx index
  if plane.node.socketAddresses.isEmpty then (false, { plane with looped })
  else
    let (queued, queue) := plane.queue.deferredRouteOutput memory p header
    (queued, { plane with queue, looped })

end DataPlane

end Bsdvr
