import Mathlib

namespace Bsdvr

abbrev Ipv4Address := BitVec 32
abbrev Mac48Address := BitVec 48
abbrev Time := Nat
/-- A net device is named by the index of the interface it sits on. -/
abbrev NetDevice := Nat

-- named, so that every test of membership in a list of addresses carries the same instance
instance : LawfulBEq Ipv4Address := instLawfulBEq

/-- `Ipv4Address::GetLoopback ()`, 127.0.0.1. -/
def loopback : Ipv4Address := 0x7f000001#32

/-- What ns-3's `Ipv4Address ()` compares equal to: an address that was never set. -/
def unsetAddress : Ipv4Address := 0x66666666#32

structure Ipv4InterfaceAddress where
  localAddress : Ipv4Address
  mask : BitVec 32
  broadcast : Ipv4Address
  deriving DecidableEq, Repr

def Ipv4InterfaceAddress.unset : Ipv4InterfaceAddress := ⟨unsetAddress, 0#32, unsetAddress⟩

def Ipv4InterfaceAddress.loopback : Ipv4InterfaceAddress :=
  ⟨Bsdvr.loopback, 0xff000000#32, 0x7fffffff#32⟩

inductive RouteState
  | inactive
  | active
  deriving DecidableEq, Repr

/-- The object behind a `Ptr<Ipv4Route>`. `ref` is its identity: entries copied from one another
hold the same object, so a setter called on one of them writes them all. -/
structure Ipv4Route where
  ref : Nat
  destination : Ipv4Address
  source : Ipv4Address
  gateway : Ipv4Address
  outputDevice : Option NetDevice
  deriving DecidableEq, Repr

structure RoutingTableEntry where
  hops : BitVec 32
  route : Ipv4Route
  iface : Ipv4InterfaceAddress
  state : RouteState
  deriving DecidableEq, Repr

namespace RoutingTableEntry

/-- The constructor; `ref` names the route object it allocates. -/
def make (ref : Nat) (dev : Option NetDevice) (dst : Ipv4Address) (iface : Ipv4InterfaceAddress)
    (hops : BitVec 32) (nextHop : Ipv4Address) : RoutingTableEntry :=
  { hops
    route := { ref, destination := dst, source := iface.localAddress, gateway := nextHop, outputDevice := dev }
    iface
    state := .active }

/-- The entry `operator[]` creates under a missing key. -/
def default (ref : Nat) : RoutingTableEntry := make ref none unsetAddress .unset 0 unsetAddress

def destination (entry : RoutingTableEntry) : Ipv4Address := entry.route.destination
def nextHop (entry : RoutingTableEntry) : Ipv4Address := entry.route.gateway
def setRouteState (entry : RoutingTableEntry) (state : RouteState) : RoutingTableEntry :=
  { entry with state }

/-- What a write to the route object `ref` does to an entry. -/
def writeRoute (ref : Nat) (write : Ipv4Route → Ipv4Route)
    (entry : RoutingTableEntry) : RoutingTableEntry :=
  if entry.route.ref = ref then { entry with route := write entry.route } else entry

variable (ref : Nat) (dev : Option NetDevice) (dst nextHop : Ipv4Address) (iface : Ipv4InterfaceAddress)
  (hops : BitVec 32) (entry : RoutingTableEntry) (state : RouteState)

@[simp] theorem make_hops : (make ref dev dst iface hops nextHop).hops = hops := rfl
@[simp] theorem make_state : (make ref dev dst iface hops nextHop).state = .active := rfl
@[simp] theorem make_iface : (make ref dev dst iface hops nextHop).iface = iface := rfl
@[simp] theorem make_ref : (make ref dev dst iface hops nextHop).route.ref = ref := rfl
@[simp] theorem make_destination : (make ref dev dst iface hops nextHop).destination = dst := rfl
@[simp] theorem make_nextHop : (make ref dev dst iface hops nextHop).nextHop = nextHop := rfl
@[simp] theorem setRouteState_hops : (entry.setRouteState state).hops = entry.hops := rfl
@[simp] theorem setRouteState_state : (entry.setRouteState state).state = state := rfl
@[simp] theorem setRouteState_iface : (entry.setRouteState state).iface = entry.iface := rfl
@[simp] theorem setRouteState_route : (entry.setRouteState state).route = entry.route := rfl
@[simp] theorem setRouteState_destination :
    (entry.setRouteState state).destination = entry.destination := rfl
@[simp] theorem setRouteState_nextHop : (entry.setRouteState state).nextHop = entry.nextHop := rfl

end RoutingTableEntry

/-- `std::map<Ipv4Address, RoutingTableEntry>`: iterated in the order of the addresses. -/
abbrev EntryMap := Std.TreeMap Ipv4Address RoutingTableEntry
abbrev DistanceVectorTable := Std.TreeMap Ipv4Address EntryMap

structure RoutingTable where
  forwardingTable : EntryMap
  distanceVectorTable : DistanceVectorTable

def RoutingTable.empty : RoutingTable := ⟨∅, ∅⟩

namespace EntryMap

def lookupRoute (map : EntryMap) (dst : Ipv4Address) : Option RoutingTableEntry := map[dst]?

/-- `std::map::insert`: an entry that is there already stays. -/
def addRoute (map : EntryMap) (entry : RoutingTableEntry) : EntryMap :=
  map.insertIfNew entry.destination entry

def update (map : EntryMap) (entry : RoutingTableEntry) : EntryMap :=
  if map.contains entry.destination then map.insert entry.destination entry else map

def deleteAllRoutesFromInterface (map : EntryMap) (iface : Ipv4InterfaceAddress) : EntryMap :=
  map.filter fun _ entry => entry.iface ≠ iface

end EntryMap

/-- `(*dvt)[neighbor]->find (dst)`, where the neighbour has a row. -/
def DistanceVectorTable.entry (dvt : DistanceVectorTable) (neighbor dst : Ipv4Address) :
    Option RoutingTableEntry :=
  dvt[neighbor]?.bind fun row => row[dst]?

end Bsdvr
