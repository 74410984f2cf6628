import Bsdvr.Model.Forwarding
import Bsdvr.Static.Convergence

namespace Bsdvr
open Foundation

/-- The ttl is decremented where a packet is forwarded. -/
def Datagram.aged (datagram : Datagram) : Datagram :=
  { datagram with header := { datagram.header with ttl := datagram.header.ttl - 1 } }

namespace StaticNetwork
variable {V : Type} (net : StaticNetwork V)

/-! ## Where packets leave -/

def LeavesBy (x : V) (entry : RoutingTableEntry) : Prop :=
  entry.route.outputDevice = some 1 ∧ entry.route.source = net.address x

def outward (x : V) : Contract where
  forwarding dst entry := dst ≠ loopback → net.LeavesBy x entry
  stored _ _ route := net.LeavesBy x route
  known _ := False

variable {net} {x y v : V} {node : Node}

theorem outward_closed (neighbors : List Ipv4Address) : (net.outward x).Closed neighbors where
  adopt _ _ _ _ leaves _ := leaves
  refresh _ _ _ _ leaves _ _ := leaves
  retire _ _ leaves _ _ far := leaves far

theorem outward_admits (setup : net.Setup x node) (origin : Ipv4Address) :
    (net.outward x).Admits node origin (net.address x) where
  heard := by
    rintro toNeighbor ⟨_, source⟩
    exact ⟨setup.getInterfaceForAddress, source⟩
  forwarding := by
    rintro toNeighbor _ dst entry leaves far
    obtain ⟨device, source⟩ := leaves far
    unfold Node.rewritten
    split
    · exact ⟨setup.getInterfaceForAddress, source⟩
    · exact ⟨device, source⟩
  stored := by
    rintro toNeighbor _ neighbor dst entry ⟨device, source⟩
    unfold Node.rewritten
    split
    · exact ⟨setup.getInterfaceForAddress, source⟩
    · exact ⟨device, source⟩
  join := by
    simp only [Node.helloEntry, setup.getInterfaceForAddress, setup.getAddress]
    exact ⟨rfl, rfl⟩

theorem outward_update (setup : net.Setup x node) (header : UpdateHeader) (src : Ipv4Address) :
    net.LeavesBy x (node.updateEntry header (net.address x) src) := by
  simp only [Node.updateEntry, setup.getInterfaceForAddress, setup.getAddress]
  exact ⟨rfl, rfl⟩

theorem start_outward (x : V) : (net.outward x).Holds (net.toNetwork.start x) := by
  refine ⟨fun dst entry present far => ?_, fun neighbor dst route found => ?_, fun _ => False.elim⟩
  · rw [start_ft] at present
    split at present
    · rw [← Option.some.inj present]
      exact ⟨rfl, rfl⟩
    · cases present
  · rw [start_dvt] at found
    simp [DistanceVectorTable.entry] at found

section Run
variable [DecidableEq V] [DecidableRel net.graph.Adj] {state : NetworkState V}

omit [DecidableRel net.graph.Adj] in
theorem outward_step {after : NetworkState V} {action : Action V} (trusted : net.Trusted state)
    (outward : ∀ x, (net.outward x).Holds (state.node x)) (step : net.Step state action after)
    (x : V) :
    (net.outward x).Holds (after.node x) := by
  cases step with
  | idle action duration hellos sent => exact (outward x).congr rfl
  | @hello y k hello nb hardware found header link listed =>
      by_cases here : x = hello.receiver
      · subst here
        obtain ⟨setup, named, _⟩ := trusted.nodes hello.receiver
        rw [settle_self]
        have before : (net.outward hello.receiver).Holds ((state.node hello.receiver).setNb nb) :=
          (outward hello.receiver).congr rfl
        exact (before.except.exchangeHello (named.congr rfl rfl) (outward_closed _)
          (outward_admits (setup.setNb nb) _)).holds
      · rw [settle_other here]
        exact outward x
  | @update z y k header link found origin =>
      by_cases here : x = z
      · subst here
        rw [settle_self]
        exact ((outward x).recvUpdate header (net.address x) (net.address y) (outward_closed _)
          fun _ =>
          outward_update (trusted.nodes x).setup header (net.address y)).holds
      · rw [settle_other here]
        exact outward x

theorem outward_of_reach (reach : Reach net.toNetwork.next Allowed net.toNetwork.initial state)
    (x : V) :
    (net.outward x).Holds (state.node x) := by
  have both : net.Supported state ∧ ∀ x, (net.outward x).Holds (state.node x) := by
    refine reach.invariant (P := fun state => net.Supported state ∧
      ∀ x, (net.outward x).Holds (state.node x))
      ⟨supported_of_reach (fun _ _ => id) .start, start_outward⟩ ?_
    rintro before action after ⟨supported, outward⟩ allowed taken
    have step := step_of_next supported.trusted allowed taken
    exact ⟨supported.step step, outward_step supported.trusted outward step⟩
  exact both.2 x

end Run

/-! ## One hop -/

/-- What the `Ipv4` objects of the nodes answer for packets from interface 1: a node has its own
address, and forwards. -/
structure Routers (net : StaticNetwork V) (ipv4 : V → Ipv4) : Prop where
  own : ∀ v d, (ipv4 v).isDestinationAddress (net.address d) 1 = true ↔ v = d
  forwards : ∀ v, (ipv4 v).isForwarding 1 = true

structure Unicast (net : StaticNetwork V) (d : V) : Prop where
  multicast : (net.address d).isMulticast = false
  everyone : net.address d ≠ 0xffffffff#32
  subnet : net.address d ≠ (net.iface d).broadcast

structure DataPlanes (V : Type) where
  ipv4 : V → Ipv4
  enableBroadcast : V → Bool
  queue : V → BsdvrQueue
  memory : V → Memory

/-- `RouteInput` for a packet from the link of `v`, with the callbacks of `Ipv4L3Protocol`. -/
def input (state : NetworkState V) (planes : DataPlanes V) (v : V) (datagram : Datagram) :
    Option (Bool × List Invocation × BsdvrQueue) :=
  Forwarding.routeInput (state.node v) (planes.ipv4 v) (planes.enableBroadcast v) (planes.queue v)
    (planes.memory v)
    datagram 1 ⟨true, true, true⟩

/-- `v` forwards a packet, and the link neighbour with the address of the gateway gets it, with a
ttl that is one less and not zero. -/
inductive Hop (net : StaticNetwork V) (state : NetworkState V) (planes : DataPlanes V) :
    V × Datagram → V × Datagram → Prop
  | mk {v w : V} {datagram : Datagram} {route : Ipv4Route} {queue : BsdvrQueue}
      (forwarded : input state planes v datagram =
        some (true, [.ucb ⟨route, datagram.packet, datagram.header⟩], queue))
      (device : route.outputDevice = some 1) (link : net.graph.Adj v w)
      (gateway : route.gateway = net.address w)
      (alive : datagram.aged.header.ttl ≠ 0) : Hop net state planes (v, datagram) (w, datagram.aged)

inductive Travels (net : StaticNetwork V) (state : NetworkState V) (planes : DataPlanes V)
    (start : V × Datagram) :
    ℕ → V × Datagram → Prop
  | start : Travels net state planes start 0 start
  | hop {count : ℕ} {here there : V × Datagram} : Travels net state planes start count here →
      net.Hop state planes here there → Travels net state planes start (count + 1) there

def Delivers (state : NetworkState V) (planes : DataPlanes V) (d : V)
    (datagram : Datagram) : Prop :=
  input state planes d datagram = some (true, [.lcb datagram.packet datagram.header 1],
    planes.queue d)

section Hop
variable {state : NetworkState V} {planes : DataPlanes V} {d : V} {datagram : Datagram}

theorem input_eq (setup : net.Setup v (state.node v))
    (foreign : datagram.header.source ≠ net.address v) (unicast : net.Unicast d)
    (destination : datagram.header.destination = net.address d) :
    input state planes v datagram =
      if (planes.ipv4 v).isDestinationAddress (net.address d) 1 then
        some (true, [.lcb datagram.packet datagram.header 1], planes.queue v)
      else if !(planes.ipv4 v).isForwarding 1 then
        some (true, [.ecb datagram.packet datagram.header], planes.queue v)
      else (Forwarding.forwarding (state.node v) datagram ⟨true, true, true⟩).map
        fun (routed, calls) =>
        (routed, calls, planes.queue v) := by
  have own : Forwarding.isMyOwnAddress (state.node v) datagram.header.source = false := by
    simpa [Forwarding.isMyOwnAddress, setup.socketAddresses, address] using foreign
  have subnet : net.address d ≠ (net.iface v).broadcast := by
    by_cases same : v = d
    · exact same ▸ unicast.subnet
    · exact fun same' => net.notBroadcast v d same same'.symm
  have single : Forwarding.receivesBroadcast (state.node v) (net.address d) 1 = false := by
    simp [Forwarding.receivesBroadcast, setup.socketAddresses, subnet, unicast.everyone]
  unfold input Forwarding.routeInput
  simp [setup.socketAddresses, setup.interfaces, own, destination, unicast.multicast, single,
    Callbacks.deliver, Callbacks.error]

theorem forwarding_eq {entry : RoutingTableEntry}
    (present : (state.node v).ft[net.address d]? = some entry)
    (destination : datagram.header.destination = net.address d) :
    Forwarding.forwarding (state.node v) datagram ⟨true, true, true⟩ =
      some (true, [.ucb ⟨entry.route, datagram.packet, datagram.header⟩]) := by
  rw [Forwarding.forwarding, destination, EntryMap.lookupRoute, present]
  rfl

end Hop

/-! ## The way to a destination -/

structure Ready (net : StaticNetwork V) (state : NetworkState V) (planes : DataPlanes V)
    (d : V) : Prop where
  setup : ∀ v, net.Setup v (state.node v)
  outward : ∀ v, (net.outward v).Holds (state.node v)
  converged : net.Converged state
  routers : net.Routers planes.ipv4
  unicast : net.Unicast d

structure Underway (net : StaticNetwork V) (x y d : V) (first : Datagram) (count : ℕ)
    (here : V × Datagram) : Prop where
  closer : count + net.graph.dist here.1 d = net.graph.dist y d
  reachable : net.graph.Reachable here.1 d
  source : here.2.header.source = first.header.source
  destination : here.2.header.destination = first.header.destination
  ttl : here.2.header.ttl.toNat + count = first.header.ttl.toNat

theorem foreign_of_closer {datagram : Datagram} (d : V)
    (source : datagram.header.source = net.address x)
    (closer : net.graph.dist v d < net.graph.dist x d) :
    datagram.header.source ≠ net.address v := by
  intro own
  rw [address_inj.mp (source.symm.trans own)] at closer
  exact lt_irrefl _ closer

namespace Ready
variable {state : NetworkState V} {planes : DataPlanes V} {d : V} {datagram first : Datagram}

theorem route (ready : net.Ready state planes d) (other : v ≠ d)
    (reachable : net.graph.Reachable v d) :
    ∃ entry w, (state.node v).ft[net.address d]? = some entry ∧ net.LeavesBy v entry ∧
      entry.route.gateway = net.address w ∧ net.graph.Adj v w ∧
      net.graph.dist v d = net.graph.dist w d + 1 := by
  obtain ⟨entry, present, _, _, w, next, link, closer⟩ := ready.converged v d other reachable
  exact ⟨entry, w, present, (ready.outward v).forwarding _ _ present (address_ne_loopback d), next,
    link, closer⟩

theorem forwards (ready : net.Ready state planes d) (other : v ≠ d)
    (reachable : net.graph.Reachable v d) (foreign : datagram.header.source ≠ net.address v)
    (destination : datagram.header.destination = net.address d) :
    ∃ route w, input state planes v datagram =
        some (true, [.ucb ⟨route, datagram.packet, datagram.header⟩], planes.queue v) ∧
      route.outputDevice = some 1 ∧ route.gateway = net.address w ∧ net.graph.Adj v w ∧
      net.graph.dist v d = net.graph.dist w d + 1 := by
  obtain ⟨entry, w, present, leaves, gateway, link, closer⟩ := ready.route other reachable
  have elsewhere : ¬(planes.ipv4 v).isDestinationAddress (net.address d) 1 = true :=
    fun own => other ((ready.routers.own v d).mp own)
  refine ⟨entry.route, w, ?_, leaves.1, gateway, link, closer⟩
  rw [input_eq (ready.setup v) foreign ready.unicast destination, if_neg elsewhere,
    ready.routers.forwards v, forwarding_eq present destination]
  rfl

theorem delivers (ready : net.Ready state planes d)
    (foreign : datagram.header.source ≠ net.address d)
    (destination : datagram.header.destination = net.address d) :
    Delivers state planes d datagram := by
  rw [Delivers, input_eq (ready.setup d) foreign ready.unicast destination,
    if_pos ((ready.routers.own d d).mpr rfl)]

theorem hop_closer (ready : net.Ready state planes d) {here there : V × Datagram}
    (reachable : net.graph.Reachable here.1 d) (foreign : here.2.header.source ≠ net.address here.1)
    (destination : here.2.header.destination = net.address d)
    (hop : net.Hop state planes here there) :
    net.graph.dist here.1 d = net.graph.dist there.1 d + 1 ∧ net.graph.Adj here.1 there.1 ∧
    there.2 = here.2.aged := by
  obtain ⟨forwarded, device, link, gateway, alive⟩ := hop
  rename_i v w datagram route queue
  by_cases other : v = d
  · subst other
    have delivered : input state planes v datagram = _ := ready.delivers foreign destination
    rw [delivered] at forwarded
    simp at forwarded
  · obtain ⟨route', w', same, _, gateway', _, closer⟩ :=
      ready.forwards other reachable foreign destination
    rw [same] at forwarded
    obtain ⟨rfl, _⟩ : route' = route ∧ planes.queue v = queue := by simpa using forwarded
    obtain rfl := address_inj.mp (gateway'.symm.trans gateway)
    exact ⟨closer, link, rfl⟩

section Underway
variable {count : ℕ} {here : V × Datagram} (ready : net.Ready state planes d)
  (far : net.graph.dist y d < net.graph.dist x d) (reachable : net.graph.Reachable y d)
  (source : first.header.source = net.address x)
  (destination : first.header.destination = net.address d)
  (lasts : net.graph.dist y d < first.header.ttl.toNat)
include ready far reachable source destination lasts

theorem underway (travels : net.Travels state planes (y, first) count here) :
    net.Underway x y d first count here := by
  induction travels with
  | start => exact ⟨Nat.zero_add _, reachable, rfl, rfl, rfl⟩
  | @hop count before there _ hop ih =>
      have foreign : before.2.header.source ≠ net.address before.1 :=
        foreign_of_closer d (ih.source.trans source) (by have := ih.closer; omega)
      obtain ⟨closer, link, aged⟩ :=
        ready.hop_closer ih.reachable foreign (ih.destination.trans destination) hop
      have ttl := ih.ttl
      have total := ih.closer
      refine ⟨by omega, link.symm.reachable.trans ih.reachable, ?_, ?_, ?_⟩
      · rw [aged]
        exact ih.source
      · rw [aged]
        exact ih.destination
      · have positive : 1 ≤ before.2.header.ttl.toNat := by omega
        have one : (1 : BitVec 8).toNat = 1 := rfl
        have bound := before.2.header.ttl.isLt
        rw [aged]
        show (before.2.header.ttl - 1).toNat + (count + 1) = _
        rw [BitVec.toNat_sub, one]
        omega

theorem travels_far (within : count ≤ net.graph.dist y d) :
    ∃ here, net.Travels state planes (y, first) count here := by
  induction count with
  | zero => exact ⟨_, .start⟩
  | succ count ih =>
      obtain ⟨⟨v, datagram⟩, travels⟩ := ih (by omega)
      obtain ⟨closer, connected, same, bound, ttl⟩ :=
        ready.underway far reachable source destination lasts travels
      have elsewhere : v ≠ d := by
        rintro rfl
        rw [SimpleGraph.dist_self] at closer
        omega
      have foreign : datagram.header.source ≠ net.address v :=
        foreign_of_closer d (same.trans source) (by simp only at closer; omega)
      obtain ⟨route, w, forwarded, device, gateway, link, _⟩ :=
        ready.forwards elsewhere connected foreign (bound.trans destination)
      refine ⟨_, travels.hop (.mk forwarded device link gateway fun zero => ?_)⟩
      have exhausted : (datagram.header.ttl - 1).toNat = 0 := by
        rw [show datagram.header.ttl - 1 = 0 from zero]
        rfl
      have one : (1 : BitVec 8).toNat = 1 := rfl
      have small := datagram.header.ttl.isLt
      rw [BitVec.toNat_sub, one] at exhausted
      simp only at ttl closer
      omega

end Underway

end Ready

/-! ## Runs -/

section Run
variable [DecidableEq V] [DecidableRel net.graph.Adj] {state : NetworkState V}
  {planes : DataPlanes V} {d : V}

theorem informed_of_reach
    (reach : Reach net.toNetwork.next (fun state action => Allowed state action ∧
      Fits Short state action ∧ net.Informs state action) net.toNetwork.initial state) :
      net.Informed state := by
  have start : net.Informed net.toNetwork.initial := by
    refine ⟨fun x y d heard => ?_, fun x y heard => ?_, by simp [Network.initial]⟩ <;>
      simp [Network.initial, Node.neighbors, (start_lists x).1] at heard
  have both : net.Supported state ∧ net.Informed state := by
    refine reach.invariant (P := fun state => net.Supported state ∧ net.Informed state)
      ⟨supported_of_reach (fun _ _ => id) .start, start⟩ ?_
    rintro before action after ⟨supported, informed⟩ ⟨allowed, fits, informs⟩ taken
    have step := step_of_next supported.trusted allowed taken
    exact ⟨supported.step step, informed.step supported fits informs step⟩
  exact both.2

theorem ready_of_reach
    (reach : Reach net.toNetwork.next (fun state action => Allowed state action ∧
      Fits Short state action ∧ net.Informs state action) net.toNetwork.initial state)
    (quiescent : net.Quiescent state) (routers : net.Routers planes.ipv4)
    (unicast : net.Unicast d) :
    net.Ready state planes d where
  setup v := ((consistent_of_reach walks_propagate (reach.mono fun _ _ guard =>
    ⟨guard.1, guard.2.1⟩)).nodes v).setup
  outward := outward_of_reach (reach.mono fun _ _ guard => guard.1)
  converged := (informed_of_reach reach).converged (consistent_of_reach walks_propagate
    (reach.mono fun _ _ guard => ⟨guard.1, guard.2.1⟩)) quiescent
  routers := routers
  unicast := unicast

/-- Once a network in which what is dropped, not announced and not replaced does no harm is
quiescent, a packet of `x` to another node `d` of its component leaves by the interface of `x` for a
link neighbour, reaches `d` after exactly as many hops as the shortest path has links, whatever else
happens on the way, and is delivered there. -/
theorem packet_delivered
    (reach : Reach net.toNetwork.next (fun state action => Allowed state action ∧
      Fits Short state action ∧ net.Informs state action) net.toNetwork.initial state)
    (quiescent : net.Quiescent state) (routers : net.Routers planes.ipv4) (unicast : net.Unicast d)
    {x : V} (other : x ≠ d) (reachable : net.graph.Reachable x d) (p : DataPacket)
    {header : Ipv4Header} (destination : header.destination = net.address d) :
    ∃ route y, Forwarding.routeOutput (state.node x) (some p) header none =
      some ⟨some route, some .notError, some p⟩ ∧
      route.source = net.address x ∧ route.outputDevice = some 1 ∧ route.gateway = net.address y ∧
      net.graph.Adj x y ∧
      ∀ first : Datagram, first.header.source = route.source →
      first.header.destination = net.address d →
        net.graph.dist x d ≤ first.header.ttl.toNat →
        (∃ last, net.Travels state planes (y, first) (net.graph.dist x d - 1) (d, last) ∧
          Delivers state planes d last) ∧
        ∀ count here, net.Travels state planes (y, first) count here →
          count + 1 + net.graph.dist here.1 d = net.graph.dist x d := by
  have ready := ready_of_reach reach quiescent routers unicast
  obtain ⟨entry, y, present, leaves, gateway, link, closer⟩ := ready.route other reachable
  refine ⟨entry.route, y, ?_, leaves.2, leaves.1, gateway, link, fun first source bound lasts => ?_⟩
  · rw [Forwarding.routeOutput, destination, EntryMap.lookupRoute, present]
    simp [(ready.setup x).socketAddresses]
  · have far : net.graph.dist y d < net.graph.dist x d := by omega
    have connected : net.graph.Reachable y d := link.symm.reachable.trans reachable
    have own : first.header.source = net.address x := source.trans leaves.2
    have enough : net.graph.dist y d < first.header.ttl.toNat := by omega
    have underway {count : ℕ} {here : V × Datagram}
        (travels : net.Travels state planes (y, first) count here) :=
      ready.underway far connected own bound enough travels
    constructor
    · obtain ⟨⟨v, last⟩, travels⟩ := ready.travels_far far connected own bound enough le_rfl
      have arrival := underway travels
      have there : net.graph.dist v d = 0 := by
        have total := arrival.closer
        simp only at total
        omega
      obtain rfl : v = d := arrival.reachable.dist_eq_zero_iff.mp there
      refine ⟨last, ?_, ready.delivers (foreign_of_closer v (arrival.source.trans own) ?_)
        (arrival.destination.trans bound)⟩
      · rw [closer, Nat.add_sub_cancel]
        exact travels
      · rw [SimpleGraph.dist_self]
        omega
    · intro count here travels
      have total := (underway travels).closer
      omega

end Run

def emptyPlanes (net : StaticNetwork V) : DataPlanes V where
  ipv4 v := ⟨fun dst _ => dst = net.address v, fun _ => true⟩
  enableBroadcast _ := true
  queue _ := ⟨[], 64⟩
  memory _ _ _ := ⟨0, true⟩

theorem packet_delivered_kite :
    ∃ state, Reach kite.toNetwork.next (fun state action => Allowed state action ∧
      Fits Short state action ∧ kite.Informs state action) kite.toNetwork.initial state ∧
      kite.Quiescent state ∧
    ∃ route y last, Forwarding.routeOutput (state.node 0)
    (some ⟨1, none⟩) ⟨kite.address 0, kite.address 3, 64⟩ none =
        some ⟨some route, some .notError, some ⟨1, none⟩⟩ ∧ route.gateway = kite.address y ∧
      kite.Travels state kite.emptyPlanes
        (y, ⟨⟨1, none⟩, ⟨route.source, kite.address 3, 64⟩, 17, 9⟩)
        (kite.graph.dist 0 3 - 1) (3, last) ∧ Delivers state kite.emptyPlanes 3 last := by
  -- nodes 0 and 3 of the kite are two links apart
  obtain ⟨state, reach, checked⟩ := exists_reach_of_follow kite.toNetwork.next (fun state action =>
      Allowed state action ∧ Fits Short state action ∧
      kite.Informs state action) kite.toNetwork.initial
    (hears 1 3 ++ hears 2 0 ++ hears 1 0 ++ hears 2 3 ++ [.deliverUpdate 2 0, .deliverUpdate 3 3] ++
      hears 0 1 ++
      hears 3 2 ++ hears 1 2 ++ hears 2 1 ++ hears 0 2 ++ hears 3 1 ++
      drain [3, 0, 0, 3, 1, 1, 2, 2, 2, 2, 2, 1, 1, 1, 2, 2, 2, 1, 1, 1])
    (fun state => decide (kite.Quiescent state)) (by decide +kernel)
  have quiescent := of_decide_eq_true checked
  have routers : kite.Routers kite.emptyPlanes.ipv4 :=
    ⟨fun v d => by simp [emptyPlanes, eq_comm], fun _ => rfl⟩
  have link01 : kite.graph.Adj 0 1 := by decide
  have link13 : kite.graph.Adj 1 3 := by decide
  have near : kite.graph.dist 0 3 ≤ 2 := SimpleGraph.dist_le (.cons link01 (.cons link13 .nil))
  obtain ⟨route, y, output, source, _, gateway, _, journey⟩ :=
    @packet_delivered _ _ _ _ state kite.emptyPlanes 3 reach
    quiescent routers ⟨by decide, by decide, by decide⟩ 0 (by decide)
    (link01.reachable.trans link13.reachable) ⟨1, none⟩
    ⟨kite.address 0, kite.address 3, 64⟩ rfl
  obtain ⟨⟨last, travels, delivers⟩, _⟩ :=
    journey ⟨⟨1, none⟩, ⟨route.source, kite.address 3, 64⟩, 17, 9⟩ rfl rfl
    (near.trans (show 2 ≤ (64 : BitVec 8).toNat by decide))
  exact ⟨state, reach, quiescent, route, y, last, output, gateway, travels, delivers⟩

end StaticNetwork

end Bsdvr
