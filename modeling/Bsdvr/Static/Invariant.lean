import Bsdvr.Static.Network

namespace Bsdvr
open Foundation

namespace StaticNetwork
variable {V : Type} (net : StaticNetwork V)

/-! ## What the tables and the messages say -/

/-- What the tables of `x` say about node addresses: entries are active, route through link
neighbours, and satisfy `via`. The forwarding table may also hold the broadcast entry of `x` under
its own address. -/
def contract (via : V → V → V → BitVec 32 → Prop) (known : Ipv4Address → Prop)
    (x : V) : Contract where
  forwarding dst entry := entry.destination = dst ∧
    (entry.iface = net.iface x ∨ entry.iface = .loopback) ∧
    ∀ v, dst = net.address v → (v = x ∧ entry.nextHop = net.address x) ∨
      (entry.state = .active ∧ entry.iface = net.iface x ∧ ∃ y, entry.nextHop = net.address y ∧
        net.graph.Adj x y ∧
        known (net.address y) ∧ via x y v entry.hops)
  stored neighbor dst route := route.destination = dst ∧ route.nextHop = neighbor ∧
    route.iface = net.iface x ∧
    route.route.outputDevice = some 1 ∧ ∃ y, neighbor = net.address y ∧ net.graph.Adj x y ∧
      ∀ v, dst = net.address v → route.state = .active ∧ via x y v route.hops ∧
        (v = y → route.hops = 1)
  known := known

/-- An UPDATE goes from a node to a link neighbour, and what it says about a node address is active,
satisfies `carries` and is not about the sender itself. -/
def Genuine (carries : V → V → BitVec 32 → Prop) (packet : Packet) : Prop :=
  ∃ y z, packet.source = net.address y ∧ packet.header.origin = net.address y ∧
    packet.destination = net.address z ∧
    net.graph.Adj y z ∧ ∀ v, packet.header.dst = net.address v →
      v ≠ y ∧ packet.header.binaryState = 1 ∧ carries y v packet.header.hopCount

structure NodeConsistent (via : V → V → V → BitVec 32 → Prop) (x : V) (node : Node) : Prop where
  setup : net.Setup x node
  named : node.Named
  tables : (net.contract via (fun n => (node.dvt[n]?).isSome) x).Holds node
  joined : ∀ n, n ∈ node.neighbors ↔ (node.dvt.entry n n).isSome
  pending : ∀ entry ∈ node.prqueue.queue, ∀ v, entry.destination ≠ net.address v

structure Consistent (via : V → V → V → BitVec 32 → Prop) (carries : V → V → BitVec 32 → Prop)
    (state : NetworkState V) : Prop where
  nodes : ∀ x, net.NodeConsistent via x (state.node x)
  hellos : ∀ hello ∈ state.hellos, ∃ y, hello.header = ⟨net.address y, net.address y⟩ ∧
    net.graph.Adj hello.receiver y
  updates : ∀ packet ∈ state.updates, net.Genuine carries packet

/-- How facts about routes and about messages follow from each other. `fits` is what is known of the
hop count of a message that is received. -/
structure Propagates (via : V → V → V → BitVec 32 → Prop) (carries : V → V → BitVec 32 → Prop)
    (fits : BitVec 32 → Prop) : Prop where
  direct : ∀ x y, net.graph.Adj x y → via x y y 1
  extend : ∀ x y v h, net.graph.Adj x y → carries y v h → fits h →
    via x y v (((h + 1).setWidth 8).setWidth 32)
  advertise : ∀ x y v h, net.graph.Adj x y → via x y v h → carries x v h

variable {net} {via : V → V → V → BitVec 32 → Prop} {carries : V → V → BitVec 32 → Prop}
  {fits : BitVec 32 → Prop} {known : Ipv4Address → Prop} {x y v : V} {node : Node}

theorem contract_closed {neighbors : List Ipv4Address}
    (rows : ∀ neighbor ∈ neighbors, known neighbor) :
    (net.contract via known x).Closed neighbors where
  adopt := by
    rintro neighbor listed dst route ⟨destination, through, onIface, _, y, rfl, link, about⟩
    refine ⟨destination, .inl onIface, fun v named => ?_⟩
    obtain ⟨works, good, _⟩ := about v named
    exact .inr ⟨works, onIface, y, through, link, rows _ listed, good⟩
  refresh := by
    rintro dst entry route ⟨_, _, old⟩ ⟨destination, through, onIface, _, y, next, link, about⟩ _
    refine ⟨destination, .inl onIface, fun v named => ?_⟩
    obtain ⟨works, good, _⟩ := about v named
    rcases old v named with ⟨_, own⟩ | ⟨_, _, _, _, _, row, _⟩
    · have same : x = y := address_inj.mp (own.symm.trans next)
      exact absurd (same ▸ link) (net.graph.irrefl)
    · exact .inr ⟨works, onIface, y, through.trans next, link, by simp_all, good⟩
  retire := by
    rintro dst entry ⟨destination, onIface, old⟩ absent _
    refine ⟨destination, onIface, fun v named => ?_⟩
    rcases old v named with own | ⟨_, _, _, next, _, row, _⟩
    · exact .inl own
    · exact absurd (next ▸ row) absent

theorem contract_rewrites (direct : ∀ x y, net.graph.Adj x y → via x y y 1)
    (setup : net.Setup x node) (link : net.graph.Adj x y) :
    (net.contract via known x).Rewrites node (net.address y) (net.address x) where
  heard := by
    rintro toNeighbor ⟨destination, _, _, _, z, named, _, about⟩
    obtain rfl := address_inj.mp named
    obtain ⟨works, _, _⟩ := about y rfl
    rw [setup.getInterfaceForAddress, setup.getAddress]
    refine ⟨destination, rfl, rfl, rfl, y, rfl, link, fun v same => ?_⟩
    obtain rfl := address_inj.mp same
    exact ⟨works, direct x y link, fun _ => rfl⟩
  forwarding := by
    rintro toNeighbor _ dst entry good
    obtain ⟨outputDevice, frame⟩ := node.rewritten_frame (net.address x) toNeighbor entry
    rwa [frame]
  stored := by
    rintro toNeighbor _ neighbor dst entry ⟨destination, through, onIface, device, about⟩
    unfold Node.rewritten
    split
    · exact ⟨destination, through, onIface, setup.getInterfaceForAddress, about⟩
    · exact ⟨destination, through, onIface, device, about⟩

theorem contract_admits (direct : ∀ x y, net.graph.Adj x y → via x y y 1) (setup : net.Setup x node)
    (link : net.graph.Adj x y) :
    (net.contract via known x).Admits node (net.address y) (net.address x) where
  toRewrites := contract_rewrites direct setup link
  join := by
    have made : node.helloEntry (net.address y) (net.address x) =
        .make node.fresh (some 1) (net.address y) (net.iface x) 1 (net.address y) := by
      simp only [Node.helloEntry, setup.getInterfaceForAddress, setup.getAddress]
    rw [made]
    refine ⟨rfl, rfl, rfl, rfl, y, rfl, link, fun v same => ?_⟩
    obtain rfl := address_inj.mp same
    exact ⟨rfl, direct x y link, fun _ => rfl⟩

theorem contract_update {header : UpdateHeader} (setup : net.Setup x node)
    (link : net.graph.Adj x y)
    (about : ∀ v, header.dst = net.address v → v ≠ y ∧ header.binaryState = 1 ∧
      via x y v (((header.hopCount + 1).setWidth 8).setWidth 32)) :
    (net.contract via known x).stored (net.address y) header.dst
      (node.updateEntry header (net.address x) (net.address y)) := by
  have made : node.updateEntry header (net.address x) (net.address y) =
      (RoutingTableEntry.make node.fresh (some 1) header.dst (net.iface x)
        (((header.hopCount + 1).setWidth 8).setWidth 32) (net.address y)).setRouteState
          (if header.binaryState = 1 then .active else .inactive) := by
    simp only [Node.updateEntry, setup.getInterfaceForAddress, setup.getAddress]
  rw [made]
  refine ⟨rfl, rfl, rfl, rfl, y, rfl, link, fun v same => ?_⟩
  obtain ⟨other, works, good⟩ := about v same
  exact ⟨by simp [works], good, fun own => absurd own other⟩

theorem contract_mono {more : Ipv4Address → Prop} (holds : (net.contract via known x).Holds node)
    (sub : ∀ n, known n → more n) (rows : ∀ n, more n → (node.dvt[n]?).isSome) :
    (net.contract via more x).Holds node := by
  refine ⟨fun dst entry present => ?_, holds.stored, rows⟩
  obtain ⟨destination, onIface, about⟩ := holds.forwarding dst entry present
  refine ⟨destination, onIface, fun v same => ?_⟩
  rcases about v same with own | ⟨works, onIface, y, next, link, row, good⟩
  · exact .inl own
  · exact .inr ⟨works, onIface, y, next, link, sub _ row, good⟩

/-! ## Steps -/

section Step
variable [DecidableEq V] (net) (fits)

def Fits (state : NetworkState V) : Action V → Prop
  | .deliverUpdate k _ => ∀ packet ∈ state.updates[k]?, fits packet.header.hopCount
  | _ => True

instance [DecidablePred fits] (state : NetworkState V) (action : Action V) :
    Decidable (Fits fits state action) :=
  match action with
  | .deliverUpdate k _ => inferInstanceAs (Decidable (∀ packet ∈
      state.updates[k]?, fits packet.header.hopCount))
  | .event _ _ | .sendHello _ _ | .deliverHello _ _ | .elapse _ => instDecidableTrue

def settle (state : NetworkState V) (x : V) (handled : Node × List Sent)
    (hellos : List (HelloPacket V)) (updates : List Packet) : NetworkState V :=
  ⟨Function.update state.node x handled.1, hellos, updates ++ Network.packets handled.2⟩

section Settle
variable {state : NetworkState V} {x a : V} {handled : Node × List Sent}
  {hellos : List (HelloPacket V)} {updates : List Packet}

@[simp] theorem settle_self : (settle state x handled hellos updates).node x = handled.1 :=
  Function.update_self _ _ _

theorem settle_other (other : a ≠ x) :
    (settle state x handled hellos updates).node a = state.node a :=
  Function.update_of_ne other _ _

end Settle

/-- The steps of a static network, with what each of them finds: nothing but time passes and HELLOs
are sent, a HELLO arrives from a link neighbour, or an UPDATE does. -/
inductive Step (state : NetworkState V) : Action V → NetworkState V → Prop
  | idle (action : Action V) (duration : Time) (hellos : List (HelloPacket V))
      (sent : ∀ hello ∈ hellos, hello ∈ state.hellos ∨
        ∃ y, hello.header = ⟨net.address y, net.address y⟩ ∧ net.graph.Adj hello.receiver y) :
      Step state action ⟨fun v => { state.node v with now := (state.node v).now + duration },
        hellos, state.updates⟩
  | hello {y : V} {k : Nat} {hello : HelloPacket V} (nb : Neighbors) (hardware : Mac48Address)
      (found : state.hellos[k]? = some hello) (header : hello.header =
        ⟨net.address y, net.address y⟩)
      (link : net.graph.Adj hello.receiver y)
      (listed : nb.addresses = (state.node hello.receiver).neighborsWith (net.address y)) :
      Step state (.deliverHello k hardware) (settle state hello.receiver
        (((state.node hello.receiver).setNb nb).exchangeHello (net.address y)
          (net.address hello.receiver))
        (state.hellos.eraseIdx k) state.updates)
  | update {x y : V} {k : Nat} {header : UpdateHeader} (link : net.graph.Adj x y)
      (found : state.updates[k]? = some ⟨net.address y, net.address x, header⟩)
      (origin : header.origin = net.address y) :
      Step state (.deliverUpdate k x) (settle state x
        ((state.node x).recvUpdate header (net.address x) (net.address y))
        state.hellos (state.updates.eraseIdx k))

variable {net} [DecidableRel net.graph.Adj] {state after : NetworkState V} {action : Action V}

theorem react_eq_some {v : V} {event : Node.Event}
    (reacted : Network.react state v event = some after) :
    (state.node v).Enabled event ∧ after = { state with
      node := Function.update state.node v ((state.node v).handle event).1
      updates := state.updates ++ Network.packets ((state.node v).handle event).2 } := by
  unfold Network.react at reacted
  split at reacted
  · exact ⟨‹_›, (Option.some.inj reacted).symm⟩
  · cases reacted

theorem react_purge (alive : (state.node v).lost = [])
    (reacted : Network.react state v .purge = some after) :
    after = state := by
  obtain ⟨_, rfl⟩ := react_eq_some reacted
  simp [Node.handle, Node.purgeNeighbors_of_lost alive, Network.packets]

omit [DecidableRel net.graph.Adj] in
theorem idle_self : net.Step state action state := by
  have step : net.Step state action ⟨_, _, _⟩ := Step.idle action 0 state.hellos fun _ => .inl
  simpa using step

omit [DecidableEq V] [DecidableRel net.graph.Adj] in
theorem hellosTo_genuine (setup : net.Setup v (state.node v)) {reached : List (Nat × V × Nat)}
    (links : ∀ hop ∈ reached, net.toNetwork.link v hop.1 hop.2.1 hop.2.2) :
    ∀ hello ∈ Network.hellosTo (state.node v) reached,
      ∃ y, hello.header = ⟨net.address y, net.address y⟩ ∧ net.graph.Adj hello.receiver y := by
  intro hello member
  obtain ⟨hop, listed, sent⟩ := List.mem_flatMap.mp member
  obtain ⟨_, _, link⟩ := links hop listed
  obtain ⟨message, chosen, rfl⟩ := List.mem_map.mp sent
  have messages := List.mem_of_mem_filter chosen
  simp only [Node.helloMessages, setup.socketAddresses, List.map_cons, List.map_nil,
    List.mem_singleton] at messages
  subst messages
  exact ⟨v, rfl, link.symm⟩

theorem step_of_next (consistent : net.Consistent via carries state)
    (allowed : Allowed state action) (taken : net.toNetwork.next state action = some after) :
    net.Step state action after := by
  cases action with
  | event v event =>
      obtain ⟨rfl, alive⟩ := allowed
      rw [react_purge alive taken]
      exact idle_self
  | sendHello v reached =>
      simp only [Network.next] at taken
      split at taken
      · rename_i links
        obtain ⟨middle, reacted, rfl⟩ := Option.map_eq_some_iff.mp taken
        rw [react_purge allowed reacted]
        refine Step.idle _ 0 _ fun hello member => ?_
        rcases List.mem_append.mp member with old | new
        · exact .inl old
        · exact .inr (hellosTo_genuine (consistent.nodes v).setup links hello new)
      · cases taken
  | deliverHello k hardware =>
      obtain ⟨hello, found, rest⟩ := Option.bind_eq_some_iff.mp taken
      obtain ⟨socket, _, reacted⟩ := Option.bind_eq_some_iff.mp rest
      obtain ⟨⟨_, addressed⟩, rfl⟩ := react_eq_some reacted
      obtain ⟨my, received⟩ := Option.isSome_iff_exists.mp addressed
      obtain ⟨y, header, link⟩ := consistent.hellos hello (List.mem_of_getElem? found)
      have setup := (consistent.nodes hello.receiver).setup
      obtain ⟨nb, listed, processed⟩ :=
        Node.processHello_of_lost setup.enableHello hello.header my hardware
        (allowed hello found)
      have proper : hello.header.dst = hello.header.origin := by rw [header]
      simp only [Node.handle, Node.recvBsdv, received, Node.recvHello, if_pos proper, processed]
      rw [setup.receiver received]
      rw [header] at listed ⊢
      exact Step.hello nb hardware found header link listed
  | deliverUpdate k v =>
      obtain ⟨packet, found, rest⟩ := Option.bind_eq_some_iff.mp taken
      obtain ⟨socket, bound, reacted⟩ := Option.bind_eq_some_iff.mp rest
      obtain ⟨⟨_, addressed⟩, rfl⟩ := react_eq_some reacted
      obtain ⟨my, received⟩ := Option.isSome_iff_exists.mp addressed
      have setup := (consistent.nodes v).setup
      obtain ⟨y, z, source, origin, destination, link, _⟩ :=
        consistent.updates packet (List.mem_of_getElem? found)
      have here : packet.destination = net.address v := by
        simp only [Network.unicastSocket, setup.socketAddresses] at bound
        by_contra apart
        simp [Ne.symm apart] at bound
      obtain rfl := address_inj.mp (here.symm.trans destination)
      simp only [Node.handle, Node.recvBsdv, received]
      rw [setup.receiver received, source]
      obtain ⟨_, _, header⟩ := packet
      simp only at source here origin
      subst source here
      exact Step.update link.symm found origin
  | elapse duration =>
      rw [← Option.some.inj taken]
      exact Step.idle _ duration state.hellos fun _ => .inl

end Step

/-! ## The invariant -/

theorem mem_neighborsWith {addr ne : Ipv4Address} :
    ne ∈ node.neighborsWith addr ↔ ne ∈ node.neighbors ∨ ne = addr := by
  unfold Node.neighborsWith
  split
  · rename_i present
    constructor
    · exact .inl
    · rintro (listed | rfl)
      · exact listed
      · exact present
  · simp

theorem packets_genuine (propagates : net.Propagates via carries fits) (setup : net.Setup x node)
    {tells : Ipv4Address → Ipv4Address → Prop} {result : Node × List Sent}
    (respects : (net.contract via known x).Respects node tells result)
    (addressed : ∀ ne dst, tells ne dst → (∃ z, ne = net.address z ∧ net.graph.Adj x z) ∧
      dst ≠ net.address x) :
    ∀ packet ∈ Network.packets result.2, net.Genuine carries packet := by
  intro packet member
  obtain ⟨sent, listed, opened⟩ := List.mem_filterMap.mp member
  obtain ⟨socket, found, rfl⟩ := Option.map_eq_some_iff.mp opened
  obtain ⟨ne, dst, entry, ⟨destination, onIface, about⟩, tells, rfl⟩ := respects.sends sent listed
  obtain ⟨⟨z, rfl, link⟩, remote⟩ := addressed ne dst tells
  have own : entry.iface = net.iface x := by
    rcases onIface with own | lo
    · exact own
    · have lost : node.findSocketWithInterfaceAddress entry.iface = some socket := found
      rw [lo, setup.findSocket_loopback] at lost
      cases lost
  have bound : node.findSocketWithInterfaceAddress entry.iface = some socket := found
  rw [own, setup.findSocket] at bound
  rw [← Option.some.inj bound]
  refine ⟨x, z, rfl, congrArg Ipv4InterfaceAddress.localAddress own, rfl, link, fun v named => ?_⟩
  have key : dst = net.address v := destination.symm.trans named
  rcases about v key with ⟨rfl, _⟩ | ⟨works, _, y, _, through, _, good⟩
  · exact absurd key remote
  · refine ⟨?_, by simp [Node.sendUpdate, works], propagates.advertise x y v _ through good⟩
    rintro rfl
    exact remote key

/-- A failed route to an address that is no node's makes no route to a node disappear. -/
theorem learn_entry {rt : RoutingTableEntry} {src : Ipv4Address}
    (unnamed : rt.state = .inactive → (∀ v, rt.destination ≠ net.address v) ∧ src ≠ rt.destination)
    (neighbor : Ipv4Address) (v : V) : (node.learn src rt).dvt.entry neighbor (net.address v) =
      if ¬(src ∈ node.neighbors ∧ (node.dvt[src]?).isSome) ∧ neighbor = src ∧
      net.address v = rt.destination then some rt
      else node.dvt.entry neighbor (net.address v) := by
  have kept (other : Ipv4Address) : (withoutFakes node.neighbors node.ft node.dvt src rt).entry
      other (net.address v) =
      node.dvt.entry other (net.address v) := by
    unfold withoutFakes
    split
    · rw [removeFakeRoutes_entry, if_neg]
      rintro ⟨_, fake, _⟩
      obtain ⟨failed, about, _⟩ := mem_fakeDestinations.mp fake
      obtain ⟨apart, other⟩ := unnamed failed
      rcases about with here | ⟨direct, _⟩
      · exact apart v here
      · exact other direct
    · rfl
  show (updateDistanceVectorTable node.neighbors node.ft node.dvt src rt).entry _ _ = _
  by_cases stranger : src ∈ node.neighbors ∧ (node.dvt[src]?).isSome
  · rw [updateDistanceVectorTable_drop stranger.1 stranger.2, kept,
      if_neg (fun new => new.1 stranger)]
  · rw [updateDistanceVectorTable_store stranger, kept]
    simp only [stranger, not_false_eq_true, true_and]

theorem NodeConsistent.rows (consistent : net.NodeConsistent via x node) {n : Ipv4Address}
    (listed : n ∈ node.neighbors) :
    (node.dvt[n]?).isSome := by
  obtain ⟨route, found⟩ := Option.isSome_iff_exists.mp ((consistent.joined n).mp listed)
  exact entry_isSome_row found

theorem NodeConsistent.linked (consistent : net.NodeConsistent via x node) {n : Ipv4Address}
    (listed : n ∈ node.neighbors) :
    ∃ z, n = net.address z ∧ net.graph.Adj x z := by
  obtain ⟨route, found⟩ := Option.isSome_iff_exists.mp ((consistent.joined n).mp listed)
  obtain ⟨_, _, _, _, z, own, link, _⟩ := consistent.tables.stored _ _ _ found
  exact ⟨z, own, link⟩

theorem failed_unnamed {header : UpdateHeader}
    (about : ∀ v, header.dst = net.address v → v ≠ y ∧ header.binaryState = 1)
    (failed : (node.updateEntry header (net.address x) (net.address y)).state = .inactive) :
    (∀ v, (node.updateEntry header (net.address x) (net.address y)).destination ≠ net.address v) ∧
      net.address y ≠ (node.updateEntry header (net.address x) (net.address y)).destination := by
  have inactive : header.binaryState ≠ 1 := by
    intro active
    simp [Node.updateEntry, active] at failed
  exact ⟨fun v same => inactive (about v same).2, fun same => inactive (about y same.symm).2⟩

theorem contract_heard {src : Ipv4Address} (tables : (net.contract via known x).Holds node)
    (nb : Neighbors) :
    ((net.contract via (fun n => known n ∨ n = src) x).except src).Holds (node.setNb nb) := by
  refine ⟨fun dst entry present => ?_, tables.stored,
    fun n row => tables.known n (row.1.resolve_right row.2)⟩
  obtain ⟨destination, onIface, about⟩ := tables.forwarding dst entry present
  refine ⟨destination, onIface, fun v same => ?_⟩
  rcases about v same with own | ⟨works, onIface, z, next, toZ, row, good⟩
  · exact .inl own
  · exact .inr ⟨works, onIface, z, next, toZ, .inl row, good⟩

theorem NodeConsistent.hello (propagates : net.Propagates via carries fits)
    (consistent : net.NodeConsistent via x node) (link : net.graph.Adj x y) {nb : Neighbors}
    (listed : nb.addresses = node.neighborsWith (net.address y)) :
    net.NodeConsistent via x ((node.setNb nb).exchangeHello (net.address y) (net.address x)).1 ∧
      ∀ packet ∈ Network.packets ((node.setNb nb).exchangeHello (net.address y) (net.address x)).2,
        net.Genuine carries packet := by
  have known : ∀ n ∈ node.neighbors, (node.dvt[n]?).isSome := fun n => consistent.rows
  obtain ⟨setup, named, tables, joined, pending⟩ := consistent
  have setupBefore := setup.setNb nb
  have namedBefore : (node.setNb nb).Named := named.congr rfl rfl
  have rows : ∀ n ∈ (node.setNb nb).neighbors, (node.dvt[n]?).isSome ∨ n = net.address y := by
    intro n member
    have added : n ∈ node.neighborsWith (net.address y) := listed ▸ member
    exact (mem_neighborsWith.mp added).imp_left (known n)
  have respects := (contract_heard tables nb).exchangeHello namedBefore (contract_closed rows)
    (contract_admits propagates.direct setupBefore link)
  obtain ⟨table, fresh, frame⟩ :=
    Node.exchangeHello_frame (node.setNb nb) (net.address y) (net.address x)
  constructor
  · refine ⟨setupBefore.same ?_, namedBefore.exchangeHello _ _, ?_, fun n => ?_, ?_⟩
    · rw [frame]
      exact ⟨rfl, rfl, rfl, rfl, rfl, rfl, rfl⟩
    · exact contract_mono respects.holds respects.holds.known fun _ => id
    · have after : ((node.setNb nb).exchangeHello (net.address y) (net.address x)).1.neighbors =
          node.neighborsWith (net.address y) := by
        rw [frame]
        exact listed
      rw [after, mem_neighborsWith, Node.exchangeHello_joined namedBefore, joined n]
      rfl
    · rw [frame]
      exact pending
  · apply packets_genuine propagates setupBefore respects
    rintro ne dst ⟨rfl, remote, _⟩
    exact ⟨⟨y, rfl, link⟩, by rwa [setupBefore.mainAddress] at remote⟩

theorem learned_own {header : UpdateHeader}
    (about : ∀ v, header.dst = net.address v → v ≠ y ∧ header.binaryState = 1) (z : V) :
    (node.learned header (net.address x) (net.address y)).dvt.entry (net.address z)
    (net.address z) =
      node.dvt.entry (net.address z) (net.address z) := by
  rw [Node.learned, learn_entry (failed_unnamed about), if_neg]
  rintro ⟨_, sender, own⟩
  obtain rfl := address_inj.mp sender
  exact (about z own.symm).1 rfl

theorem NodeConsistent.update (propagates : net.Propagates via carries fits)
    (consistent : net.NodeConsistent via x node) (link : net.graph.Adj x y) {header : UpdateHeader}
    (fit : fits header.hopCount)
    (genuine : ∀ v, header.dst = net.address v → v ≠ y ∧ header.binaryState = 1 ∧
      carries y v header.hopCount) :
    net.NodeConsistent via x (node.recvUpdate header (net.address x) (net.address y)).1 ∧
      ∀ packet ∈ Network.packets (node.recvUpdate header (net.address x) (net.address y)).2,
        net.Genuine carries packet := by
  set result := node.recvUpdate header (net.address x) (net.address y) with hresult
  have neighbors : ∀ n ∈ node.neighbors, (node.dvt[n]?).isSome := fun n => consistent.rows
  have linked : ∀ n ∈ node.neighbors, ∃ z, n = net.address z ∧ net.graph.Adj x z :=
    fun n => consistent.linked
  obtain ⟨setup, named, tables, joined, pending⟩ := consistent
  have unnamed : header.binaryState = 0 → ∀ v, header.dst ≠ net.address v := by
    intro inactive v same
    have active := (genuine v same).2.1
    rw [inactive] at active
    cases active
  have stored := @contract_update V net via (fun n => (node.dvt[n]?).isSome)
    x y node header setup link
    fun v same => ⟨(genuine v same).1, (genuine v same).2.1,
      propagates.extend x y v _ link (genuine v same).2.2 fit⟩
  have respects := tables.recvUpdate header (net.address x) (net.address y)
    (contract_closed neighbors) fun _ => stored
  obtain ⟨prqueue, frame, queued⟩ :=
    Node.recvUpdate_frame node header (net.address x) (net.address y)
  constructor
  · refine ⟨setup.same ?_, named.recvUpdate _ _ _, ?_, fun n => ?_, ?_⟩
    · rw [frame]
      exact ⟨rfl, rfl, rfl, rfl, rfl, rfl, rfl⟩
    · exact contract_mono respects.holds respects.holds.known fun _ => id
    · have same : result.1.neighbors = node.neighbors := by
        rw [frame]
        rfl
      have entries (z : V) : result.1.dvt.entry (net.address z) (net.address z) =
          node.dvt.entry (net.address z) (net.address z) := by
        rw [frame]
        exact learned_own (fun v named => ⟨(genuine v named).1, (genuine v named).2.1⟩) z
      rw [same]
      constructor
      · intro member
        obtain ⟨z, rfl, _⟩ := linked n member
        rw [entries]
        exact (joined _).mp member
      · intro present
        obtain ⟨route, found⟩ := Option.isSome_iff_exists.mp present
        obtain ⟨_, _, _, _, z, rfl, _, _⟩ := respects.holds.stored _ _ _ found
        rw [entries] at present
        exact (joined _).mpr present
    · rw [frame]
      intro entry member v
      rcases queued entry member with old | ⟨inactive, _, _, _, about⟩
      · exact pending entry old v
      · rw [about]
        exact unnamed inactive v
  · apply packets_genuine propagates setup respects
    rintro ne dst (⟨member, _, remote, _⟩ | ⟨inactive, _, member, _,
      ⟨_, rfl⟩ | ⟨entry, queued, _, rfl⟩⟩)
    · exact ⟨linked ne member, by rwa [setup.mainAddress] at remote⟩
    · exact ⟨linked ne member, unnamed inactive x⟩
    · exact ⟨linked ne member, pending entry queued x⟩

theorem NodeConsistent.elapse (consistent : net.NodeConsistent via x node) (now : Time) :
    net.NodeConsistent via x { node with now := now } := by
  obtain ⟨setup, named, tables, joined, pending⟩ := consistent
  have same : node.SameSetup { node with now := now } := ⟨rfl, rfl, rfl, rfl, rfl, rfl, rfl⟩
  exact ⟨setup.same same, named.congr rfl rfl, tables.congr rfl, joined, pending⟩

section Run
variable [DecidableEq V] {state after : NetworkState V} {action : Action V}

theorem Consistent.settle (consistent : net.Consistent via carries state)
    {handled : Node × List Sent} {hellos : List (HelloPacket V)} {updates : List Packet}
    (node : net.NodeConsistent via x handled.1) (heard : ∀ hello ∈ hellos, hello ∈ state.hellos)
    (sent : ∀ packet ∈ updates, packet ∈ state.updates)
    (genuine : ∀ packet ∈ Network.packets handled.2, net.Genuine carries packet) :
    net.Consistent via carries (settle state x handled hellos updates) := by
  refine ⟨fun v => ?_, fun hello member => consistent.hellos hello (heard hello member),
    fun packet member => ?_⟩
  · by_cases here : v = x
    · subst here
      simpa [StaticNetwork.settle] using node
    · simpa [StaticNetwork.settle, here] using consistent.nodes v
  · rcases List.mem_append.mp member with old | new
    · exact consistent.updates packet (sent packet old)
    · exact genuine packet new

theorem Consistent.step (propagates : net.Propagates via carries fits)
    (consistent : net.Consistent via carries state) (fit : Fits fits state action)
    (step : net.Step state action after) : net.Consistent via carries after := by
  cases step with
  | idle action duration hellos sent =>
      refine ⟨fun v => (consistent.nodes v).elapse _, fun hello member => ?_, consistent.updates⟩
      rcases sent hello member with old | new
      · exact consistent.hellos hello old
      · exact new
  | hello nb hardware found header link listed =>
      obtain ⟨node, genuine⟩ := (consistent.nodes _).hello propagates link listed
      exact consistent.settle node (fun _ => List.mem_of_mem_eraseIdx) (fun _ => id) genuine
  | @update x y k header link found origin =>
      obtain ⟨y', _, source, _, _, _, about⟩ := consistent.updates _ (List.mem_of_getElem? found)
      obtain rfl := address_inj.mp source
      obtain ⟨node, genuine⟩ := (consistent.nodes _).update propagates link (fit _ found) about
      exact consistent.settle node (fun _ => id) (fun _ => List.mem_of_mem_eraseIdx) genuine

end Run

/-! ## Runs -/

theorem start_ft (x : V) (dst : Ipv4Address) : (net.toNetwork.start x).ft[dst]? =
    if dst = (net.iface x).broadcast then
      some ((if dst = loopback then some Node.loopbackEntry else none).getD
        (.make 4 (some 1) (net.iface x).broadcast (net.iface x) 1 (net.iface x).broadcast))
    else if dst = loopback then some Node.loopbackEntry else none := by
  have real : (net.iface x).localAddress ≠ loopback := net.notLoopback x
  have apart : loopback ≠ (net.iface x).localAddress := real.symm
  have address : (Node.initial [.loopback, net.iface x] true (net.helloInterval x)
      (net.maxPRQueueLen x)
      (net.maxPRQueueTime x)).getAddress (some 1) = net.iface x := rfl
  have index : (Node.initial [.loopback, net.iface x] true (net.helloInterval x)
      (net.maxPRQueueLen x)
      (net.maxPRQueueTime x)).getInterfaceForAddress (net.iface x).localAddress = some 1 := by
    simp [Node.getInterfaceForAddress, Node.initial, List.findIdx?_cons,
      Ipv4InterfaceAddress.loopback, apart]
  rw [start_eq, Node.notifyInterfaceUp_ft, Node.initial_ft, Node.broadcastEntry]
  simp only [address, index, if_neg real]
  rfl

theorem start_dvt (x : V) : (net.toNetwork.start x).dvt = ∅ := by
  rw [start_eq, Node.notifyInterfaceUp_dvt]
  rfl

theorem start_lists (x : V) :
    (net.toNetwork.start x).nb = [] ∧ (net.toNetwork.start x).prqueue.queue = [] := by
  have real : (net.iface x).localAddress ≠ loopback := net.notLoopback x
  have address : (Node.initial [.loopback, net.iface x] true (net.helloInterval x)
      (net.maxPRQueueLen x)
      (net.maxPRQueueTime x)).getAddress (some 1) = net.iface x := rfl
  rw [start_eq]
  simp [Node.notifyInterfaceUp, address, real]
  exact ⟨rfl, rfl⟩

theorem start_unknown (other : v ≠ x) : (net.toNetwork.start x).ft[net.address v]? = none := by
  rw [start_ft, if_neg (fun same => net.notBroadcast x v other.symm same.symm),
    if_neg (address_ne_loopback v)]

theorem start_consistent (x : V) : net.NodeConsistent via x (net.toNetwork.start x) := by
  refine ⟨start_setup x, (Node.initial_named _ _ _ _ _).notifyInterfaceUp 1, ?_, fun n => ?_, ?_⟩
  · refine ⟨fun dst entry present => ?_, fun neighbor dst route found => ?_, fun _ => id⟩
    · have remote (lo : dst = loopback) :
          (net.contract via (fun n => ((net.toNetwork.start x).dvt[n]?).isSome) x).forwarding
          dst Node.loopbackEntry :=
        ⟨lo.symm, .inr rfl, fun v named => absurd (named.symm.trans lo) (address_ne_loopback v)⟩
      rw [start_ft] at present
      by_cases lo : dst = loopback
      · have same : entry = Node.loopbackEntry := by
          split at present <;> simpa [lo] using present.symm
        exact same ▸ remote lo
      · split at present
        · rename_i here
          obtain rfl := Option.some.inj present
          refine ⟨here.symm, .inl rfl, fun v named => .inl ?_⟩
          have own : x = v := by
            by_contra apart
            exact net.notBroadcast x v apart (here.symm.trans named)
          exact ⟨own.symm, own ▸ here.symm.trans named⟩
        · cases present
    · simp [start_dvt, DistanceVectorTable.entry] at found
  · simp [Node.neighbors, (start_lists x).1, start_dvt, DistanceVectorTable.entry]
  · simp [(start_lists x).2]

theorem consistent_of_reach [DecidableEq V] [DecidableRel net.graph.Adj]
    (propagates : net.Propagates via carries fits) {state : NetworkState V}
    (reach : Reach net.toNetwork.next (fun state action => Allowed state action ∧
      Fits fits state action) net.toNetwork.initial state) :
    net.Consistent via carries state := by
  refine reach.invariant ⟨start_consistent, by simp [Network.initial], by simp [Network.initial]⟩ ?_
  rintro before action after consistent ⟨allowed, fit⟩ taken
  exact consistent.step propagates fit (step_of_next consistent allowed taken)

end StaticNetwork

end Bsdvr
