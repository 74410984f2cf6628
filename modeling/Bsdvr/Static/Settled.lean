import Bsdvr.Static.Invariant

namespace Bsdvr
open Foundation

/-- A recomputation has nothing to do for `dst`: the entry for it is that of a neighbour's row, no
neighbour's route would replace it, and where there is no entry no neighbour has a route. -/
structure Node.SettledAt (node : Node) (dst : Ipv4Address) : Prop where
  supported : ∀ entry, node.ft[dst]? = some entry →
    entry.nextHop ∈ node.neighbors ∧ node.dvt.entry entry.nextHop dst = some entry
  unbeaten : ∀ entry, node.ft[dst]? = some entry →
    ∀ neighbor ∈ node.neighbors, ∀ route, node.dvt.entry neighbor dst = some route →
    isBetterRoute route entry = false
  complete : node.ft[dst]? = none → ∀ neighbor ∈ node.neighbors, node.dvt.entry neighbor dst = none

namespace Node
variable {node : Node} {dst : Ipv4Address}

theorem recompute_settledAt (owned : RowsOwned node.dvt)
    (supported : ∀ entry, node.ft[dst]? = some entry → entry.nextHop ∈ node.neighbors ∧
      node.dvt.entry entry.nextHop dst = some entry) :
    node.recompute.1.SettledAt dst := by
  refine ⟨fun entry present => ?_, fun entry present neighbor listed route found => ?_,
    fun absent => ?_⟩
  · rw [recompute_ft] at present
    rcases recomputed_cases owned present with ⟨_, old⟩ | member | ⟨old, known, rfl⟩
    · exact supported entry old
    · obtain ⟨neighbor, listed, found⟩ := mem_candidates.mp member
      obtain rfl := owned _ _ _ found
      exact ⟨listed, found⟩
    · obtain ⟨listed, found⟩ := supported old known
      rw [refreshEntry_of_entry found]
      exact ⟨listed, found⟩
  · rw [recompute_ft] at present
    exact (recomputed_settled owned present route (mem_candidates.mpr ⟨neighbor, listed, found⟩)).1
  · intro neighbor listed
    rw [recompute_ft] at absent
    by_contra found
    obtain ⟨route, found⟩ := Option.ne_none_iff_exists'.mp found
    have present : ((computeForwardingTable node.mainAddress node.neighbors node.dvt node.ft).1[dst]?).isSome :=
      recomputed_isSome.mpr (.inr (List.ne_nil_of_mem (mem_candidates.mpr ⟨neighbor, listed, found⟩)))
    rw [absent] at present
    cases present

theorem SettledAt.recompute (settled : node.SettledAt dst) (owned : RowsOwned node.dvt) :
    node.recompute.1.ft[dst]? = node.ft[dst]? := by
  cases known : node.ft[dst]? with
  | none =>
      have none : candidates node.neighbors node.dvt dst = [] := by
        rw [List.eq_nil_iff_forall_not_mem]
        intro route member
        obtain ⟨neighbor, listed, found⟩ := mem_candidates.mp member
        rw [settled.complete known neighbor listed] at found
        cases found
      rw [recompute_ft, computeForwardingTable_get, none, known]
      rfl
  | some entry =>
      obtain ⟨listed, found⟩ := settled.supported entry known
      have same := refreshEntry_of_entry found
      rw [recompute_ft, recomputed_unbeaten owned known, same, ite_self]
      intro route member
      obtain ⟨neighbor, there, stored⟩ := mem_candidates.mp member
      rw [same]
      exact settled.unbeaten entry known neighbor there route stored

theorem SettledAt.congr {after : Node} (settled : node.SettledAt dst)
    (ft : after.ft[dst]? = node.ft[dst]?) (neighbors : after.neighbors = node.neighbors)
    (entries : ∀ neighbor ∈ node.neighbors, after.dvt.entry neighbor dst =
      node.dvt.entry neighbor dst) :
    after.SettledAt dst := by
  refine ⟨fun entry present => ?_, fun entry present neighbor listed route found => ?_,
    fun absent neighbor listed => ?_⟩
  · obtain ⟨listed, found⟩ := settled.supported entry (ft ▸ present)
    exact ⟨neighbors ▸ listed, by rw [entries _ listed, found]⟩
  · rw [neighbors] at listed
    rw [entries _ listed] at found
    exact settled.unbeaten entry (ft ▸ present) neighbor listed route found
  · rw [neighbors] at listed
    rw [entries _ listed]
    exact settled.complete (ft ▸ absent) neighbor listed

end Node

namespace StaticNetwork
variable {V : Type} {net : StaticNetwork V} {via : V → V → V → BitVec 32 → Prop} {x y v : V}
  {node : Node}

theorem packets_own {result : Node × List Sent} (setup : net.Setup x node) (named : result.1.Named)
    (own : node.SendsOwn result) :
    ∀ packet ∈ Network.packets result.2, packet.source = net.address x ∧
      ∃ entry, result.1.ft[packet.header.dst]? = some entry ∧
      packet.header.hopCount = entry.hops := by
  intro packet member
  obtain ⟨sent, listed, opened⟩ := List.mem_filterMap.mp member
  obtain ⟨socket, found, rfl⟩ := Option.map_eq_some_iff.mp opened
  obtain ⟨ne, dst, entry, present, rfl⟩ := own sent listed
  refine ⟨setup.socket_address found, entry, ?_, rfl⟩
  rw [show (node.sendUpdate entry ne).header.dst = dst from named.forwarding present]
  exact present

namespace NodeConsistent

/-- An UPDATE changes nothing about node addresses in the forwarding table of a node that has
settled: it is stored only where its sender is no neighbour yet. -/
theorem recvUpdate_settled (consistent : net.NodeConsistent via x node) {header : UpdateHeader}
    (about : ∀ v, header.dst = net.address v → v ≠ y ∧ header.binaryState = 1)
    (settled : node.SettledAt (net.address v)) :
    (node.recvUpdate header (net.address x) (net.address y)).1.ft[net.address v]? =
      node.ft[net.address v]? ∧
      (node.recvUpdate header (net.address x) (net.address y)).1.SettledAt (net.address v) := by
  have entries (neighbor : Ipv4Address) (listed : neighbor ∈ node.neighbors) :
      (node.learned header (net.address x) (net.address y)).dvt.entry neighbor (net.address v) =
        node.dvt.entry neighbor (net.address v) := by
    show (node.learn _ _).dvt.entry _ _ = _
    rw [learn_entry, if_neg]
    · rintro ⟨stranger, rfl, _⟩
      exact stranger ⟨listed, consistent.rows listed⟩
    · exact failed_unnamed about
  have learned : (node.learned header (net.address x) (net.address y)).SettledAt (net.address v) :=
    settled.congr rfl rfl entries
  obtain ⟨prqueue, frame, _⟩ := Node.recvUpdate_frame node header (net.address x) (net.address y)
  have owned : RowsOwned (node.learned header (net.address x) (net.address y)).dvt := by
    have named := (consistent.named.recvUpdate header (net.address x) (net.address y)).rowsOwned
    rwa [frame] at named
  have same := learned.recompute owned
  constructor
  · rw [frame]
    exact same
  · refine settled.congr ?_ ?_ fun neighbor listed => ?_
    · rw [frame]
      exact same
    · rw [frame]
      rfl
    · rw [frame]
      exact entries neighbor listed

theorem refresh_entry (consistent : net.NodeConsistent via x node) {toNeighbor : RoutingTableEntry}
    (found : node.dvt.entry (net.address y) (net.address y) = some toNeighbor)
    (neighbor dst : Ipv4Address) :
    (node.refreshNeighbor (net.address y) (net.address x) toNeighbor).dvt.entry neighbor dst =
      node.dvt.entry neighbor dst := by
  rw [Node.refreshNeighbor_entry consistent.named found]
  split
  · rename_i here
    obtain ⟨rfl, rfl⟩ := here
    obtain ⟨_, through, onIface, device, z, named, _, about⟩ := consistent.tables.stored _ _ _ found
    obtain rfl := address_inj.mp named
    have direct := (about y rfl).2.2 rfl
    rw [found, consistent.setup.getInterfaceForAddress, consistent.setup.getAddress,
      Option.some.injEq]
    rw [RoutingTableEntry.heardOn, ← onIface, ← device, ← direct, ← through]
    rfl
  · cases there : node.dvt.entry neighbor dst with
    | none => rfl
    | some route =>
        obtain ⟨_, _, _, device, _⟩ := consistent.tables.stored _ _ _ there
        rw [Option.map_some, Node.rewritten, consistent.setup.getInterfaceForAddress, ← device]
        exact congrArg some (ite_self route)

theorem refresh_ft (consistent : net.NodeConsistent via x node) {toNeighbor : RoutingTableEntry}
    (found : node.dvt.entry (net.address y) (net.address y) = some toNeighbor) {dst : Ipv4Address}
    (settled : node.SettledAt dst) :
    (node.refreshNeighbor (net.address y) (net.address x) toNeighbor).ft[dst]? = node.ft[dst]? := by
  rw [Node.refreshNeighbor_ft consistent.named found]
  cases present : node.ft[dst]? with
  | none => rfl
  | some entry =>
      obtain ⟨_, _, _, device, _⟩ :=
        consistent.tables.stored _ _ _ (settled.supported entry present).2
      rw [Option.map_some, Node.rewritten, consistent.setup.getInterfaceForAddress, ← device]
      exact congrArg some (ite_self entry)

theorem setNb (consistent : net.NodeConsistent via x node) {nb : Neighbors}
    (same : nb.addresses = node.neighbors) :
    net.NodeConsistent via x (node.setNb nb) := by
  obtain ⟨setup, named, tables, joined, pending⟩ := consistent
  refine ⟨setup.setNb nb, named.congr rfl rfl, tables.congr rfl, fun n => ?_, pending⟩
  rw [show (node.setNb nb).neighbors = node.neighbors from same]
  exact joined n

section Join
variable {nb : Neighbors}

def brought (net : StaticNetwork V) (node : Node) (x y v : V) : Option RoutingTableEntry :=
  if net.address v = net.address y then some (node.helloEntry (net.address y) (net.address x))
  else node.dvt.entry (net.address y) (net.address v)

theorem joined_entry_new (absent : node.dvt.entry (net.address y) (net.address y) = none) (v : V) :
    ((node.setNb nb).joined (net.address y) (net.address x)).dvt.entry (net.address y)
    (net.address v) =
      brought net node x y v := by
  rw [@Node.joined_entry (node.setNb nb) _ _ absent]
  by_cases own : v = y
  · simp [own, brought]
    rfl
  · simp [own, brought]
    rfl

theorem joined_entry_old (absent : node.dvt.entry (net.address y) (net.address y) = none)
    {neighbor : Ipv4Address} (other : neighbor ≠ net.address y) (dst : Ipv4Address) :
    ((node.setNb nb).joined (net.address y) (net.address x)).dvt.entry neighbor dst =
      node.dvt.entry neighbor dst := by
  rw [@Node.joined_entry (node.setNb nb) _ _ absent, if_neg (fun same => other same.1)]
  rfl

theorem joined_neighbors :
    ((node.setNb nb).joined (net.address y) (net.address x)).neighbors = nb.addresses := by
  obtain ⟨table, frame⟩ := Node.joined_frame (node.setNb nb) (net.address y) (net.address x)
  rw [frame]
  rfl

theorem joined_owned (consistent : net.NodeConsistent via x node) (nb : Neighbors)
    (absent : node.dvt.entry (net.address y) (net.address y) = none) :
    RowsOwned ((node.setNb nb).joined (net.address y) (net.address x)).dvt := by
  intro neighbor dst route found
  rw [@Node.joined_entry (node.setNb nb) _ _ absent] at found
  split at found
  · rename_i here
    rw [← Option.some.inj found, here.1]
    rfl
  · exact consistent.named.rowsOwned _ _ _ found

variable (consistent : net.NodeConsistent via x node)
  (listed : nb.addresses = node.neighbors ++ [net.address y])
  (absent : node.dvt.entry (net.address y) (net.address y) = none)
  (settled : node.SettledAt (net.address v))
include consistent listed absent settled

theorem joined_supported (entry : RoutingTableEntry)
    (present : node.ft[net.address v]? = some entry) :
    entry.nextHop ∈ nb.addresses ∧
      ((node.setNb nb).joined (net.address y) (net.address x)).dvt.entry entry.nextHop
        (net.address v) = some entry := by
  obtain ⟨member, found⟩ := settled.supported entry present
  have other : entry.nextHop ≠ net.address y := by
    intro same
    have there := (consistent.joined _).mp member
    rw [same, absent] at there
    cases there
  exact ⟨by simp [listed, member], by rw [joined_entry_old absent other, found]⟩

theorem join_settled :
    ((node.setNb nb).joined (net.address y) (net.address x)).recompute.1.SettledAt
      (net.address v) := by
  apply Node.recompute_settledAt (joined_owned consistent nb absent)
  intro entry present
  rw [Node.joined_ft] at present
  rw [joined_neighbors]
  exact joined_supported consistent listed absent settled entry present

theorem join_ft_some {entry : RoutingTableEntry} (present : node.ft[net.address v]? = some entry) :
    ((node.setNb nb).joined (net.address y) (net.address x)).recompute.1.ft[net.address v]? =
      some entry ∨
      ∃ route, brought net node x y v = some route ∧ isBetterRoute route entry = true ∧
        ((node.setNb nb).joined (net.address y) (net.address x)).recompute.1.ft[net.address v]? =
          some route := by
  obtain ⟨_, support⟩ := joined_supported consistent listed absent settled entry present
  have known : ((node.setNb nb).joined (net.address y) (net.address x)).ft[net.address v]? =
      some entry := by
    rw [Node.joined_ft]
    exact present
  obtain ⟨after, still⟩ := Option.isSome_iff_exists.mp
    (Node.recompute_ft_isSome _ (by rw [known]; rfl) :
    (((node.setNb nb).joined (net.address y) (net.address x)).recompute.1.ft[net.address v]?).isSome)
  rw [still]
  have owned := joined_owned (x := x) consistent nb absent
  rw [Node.recompute_ft] at still
  rcases recomputed_replaced owned known still with ⟨_, same⟩ | same | ⟨member, better⟩
  · exact .inl (congrArg some same)
  · rw [refreshEntry_of_entry support] at same
    exact .inl (congrArg some same)
  · rw [refreshEntry_of_entry support] at better
    obtain ⟨neighbor, there, found⟩ := mem_candidates.mp member
    rw [joined_neighbors, listed] at there
    right
    by_cases new : neighbor = net.address y
    · subst new
      rw [joined_entry_new absent] at found
      exact ⟨after, found, better, rfl⟩
    · rw [joined_entry_old absent new] at found
      have old : neighbor ∈ node.neighbors := by simpa [new] using there
      rw [settled.unbeaten entry present neighbor old after found] at better
      cases better

theorem join_ft_none (unknown : node.ft[net.address v]? = none) :
    ((node.setNb nb).joined (net.address y) (net.address x)).recompute.1.ft[net.address v]? =
      brought net node x y v := by
  have start : ((node.setNb nb).joined (net.address y) (net.address x)).ft[net.address v]? =
      none := by
    rw [Node.joined_ft]
    exact unknown
  have stranger : net.address y ∉ node.neighbors := by
    intro member
    have there := (consistent.joined _).mp member
    rw [absent] at there
    cases there
  have routes : candidates ((node.setNb nb).joined (net.address y) (net.address x)).neighbors
      ((node.setNb nb).joined (net.address y) (net.address x)).dvt (net.address v) =
        (brought net node x y v).toList := by
    rw [joined_neighbors, listed, candidates, List.filterMap_append]
    have none : node.neighbors.filterMap (fun neighbor =>
        ((node.setNb nb).joined (net.address y) (net.address x)).dvt.entry neighbor
        (net.address v)) = [] := by
      rw [List.filterMap_eq_nil_iff]
      intro neighbor member
      rw [joined_entry_old absent (by rintro rfl; exact stranger member)]
      exact settled.complete unknown neighbor member
    rw [none, List.nil_append, List.filterMap_cons, joined_entry_new absent]
    cases brought net node x y v <;> rfl
  rw [Node.recompute_ft, computeForwardingTable_get, routes, start]
  cases brought net node x y v <;> rfl

end Join

/-- A HELLO from a neighbour changes nothing about node addresses; one from another node adds it. -/
theorem hello_cases (consistent : net.NodeConsistent via x node)
    (settled : ∀ v, v ≠ x → node.SettledAt (net.address v)) {nb : Neighbors}
    (listed : nb.addresses = node.neighborsWith (net.address y)) :
    (net.address y ∈ node.neighbors ∧
      ((node.setNb nb).exchangeHello (net.address y) (net.address x)).2 = [] ∧
      ((node.setNb nb).exchangeHello (net.address y) (net.address x)).1.neighbors = node.neighbors ∧
      (∀ v, v ≠ x → ((node.setNb nb).exchangeHello (net.address y)
        (net.address x)).1.ft[net.address v]? =
        node.ft[net.address v]?) ∧
      ∀ n dst, ((node.setNb nb).exchangeHello (net.address y) (net.address x)).1.dvt.entry n dst =
        node.dvt.entry n dst) ∨
    (net.address y ∉ node.neighbors ∧ node.dvt.entry (net.address y) (net.address y) = none ∧
      nb.addresses = node.neighbors ++ [net.address y] ∧
      (node.setNb nb).exchangeHello (net.address y) (net.address x) =
        (((node.setNb nb).joined (net.address y) (net.address x)).recompute.1,
          ((node.setNb nb).joined (net.address y)
            (net.address x)).recompute.1.sendTriggeredUpdateToNeighbor
            (net.address y))) := by
  rw [Node.exchangeHello_eq]
  cases found : (node.setNb nb).dvt.entry (net.address y) (net.address y) with
  | none =>
      have absent : node.dvt.entry (net.address y) (net.address y) = none := found
      have stranger : net.address y ∉ node.neighbors := by
        rw [consistent.joined, absent]
        exact Bool.false_ne_true
      rw [Node.neighborsWith, if_neg stranger] at listed
      exact .inr ⟨stranger, absent, listed, rfl⟩
  | some toNeighbor =>
      have present : node.dvt.entry (net.address y) (net.address y) = some toNeighbor := found
      have member : net.address y ∈ node.neighbors := by
        rw [consistent.joined, present]
        rfl
      rw [Node.neighborsWith, if_pos member] at listed
      have same := consistent.setNb listed
      rw [Node.ensureRow_of_entry found]
      refine .inl ⟨member, rfl, listed, fun v other => ?_,
        fun n dst => same.refresh_entry found n dst⟩
      have before : (node.setNb nb).SettledAt (net.address v) :=
        (settled v other).congr rfl listed fun _ _ => rfl
      exact same.refresh_ft found before

end NodeConsistent

/-! ## The invariant

Nothing is known of a destination that the neighbour it is routed through does not know. -/

abbrev Trusted (net : StaticNetwork V) : NetworkState V → Prop :=
  net.Consistent (fun _ _ _ _ => True) (fun _ _ _ => True)

theorem trusted_propagates :
    net.Propagates (fun _ _ _ _ => True) (fun _ _ _ => True) (fun _ => True) :=
  ⟨fun _ _ _ => trivial, fun _ _ _ _ _ _ _ => trivial, fun _ _ _ _ _ _ => trivial⟩

def Knows (net : StaticNetwork V) (state : NetworkState V) (y v : V) : Prop :=
  y = v ∨ ((state.node y).ft[net.address v]?).isSome

structure Supported (net : StaticNetwork V) (state : NetworkState V) : Prop where
  trusted : net.Trusted state
  settled : ∀ x v, v ≠ x → (state.node x).SettledAt (net.address v)
  rows : ∀ x y v route, (state.node x).dvt.entry (net.address y) (net.address v) = some route →
    net.Knows state y v
  flight : ∀ packet ∈ state.updates, ∀ y v, packet.source = net.address y →
    packet.header.dst = net.address v →
    net.Knows state y v

variable {state after : NetworkState V} {action : Action V}

theorem Supported.idle (supported : net.Supported state) (now : V → Time)
    (hellos : List (HelloPacket V))
    (trusted : net.Trusted ⟨fun v => { state.node v with now := now v }, hellos, state.updates⟩) :
    net.Supported ⟨fun v => { state.node v with now := now v }, hellos, state.updates⟩ := by
  refine ⟨trusted, fun x v other => ?_, supported.rows, supported.flight⟩
  obtain ⟨known, unbeaten, complete⟩ := supported.settled x v other
  exact ⟨known, unbeaten, complete⟩

variable [DecidableEq V]

theorem Supported.settle (supported : net.Supported state) {handled : Node × List Sent}
    {hellos : List (HelloPacket V)} {updates : List Packet}
    (trusted : net.Trusted (StaticNetwork.settle state x handled hellos updates))
    (grows : ∀ dst : Ipv4Address, ((state.node x).ft[dst]?).isSome → (handled.1.ft[dst]?).isSome)
    (settled : ∀ v, v ≠ x → handled.1.SettledAt (net.address v))
    (rows : ∀ y v route, handled.1.dvt.entry (net.address y) (net.address v) = some route →
      net.Knows state y v)
    (sent : ∀ packet ∈ updates, packet ∈ state.updates)
    (own : ∀ packet ∈ Network.packets handled.2, packet.source = net.address x ∧
      ∃ entry, handled.1.ft[packet.header.dst]? = some entry ∧
      packet.header.hopCount = entry.hops) :
    net.Supported (StaticNetwork.settle state x handled hellos updates) := by
  have knows (y v : V) (knows : net.Knows state y v) :
      net.Knows (StaticNetwork.settle state x handled hellos updates) y v := by
    rcases knows with same | known
    · exact .inl same
    · right
      by_cases here : y = x
      · subst here
        simpa [StaticNetwork.settle] using grows _ known
      · simpa [StaticNetwork.settle, here] using known
  refine ⟨trusted, fun z v other => ?_, fun z y v route found => ?_,
    fun packet member y v source about => ?_⟩
  · by_cases here : z = x
    · subst here
      simpa [StaticNetwork.settle] using settled v other
    · simpa [StaticNetwork.settle, here] using supported.settled z v other
  · apply knows
    by_cases here : z = x
    · subst here
      exact rows y v route (by simpa [StaticNetwork.settle] using found)
    · exact supported.rows z y v route (by simpa [StaticNetwork.settle, here] using found)
  · rcases List.mem_append.mp member with old | new
    · exact knows y v (supported.flight packet (sent packet old) y v source about)
    · obtain ⟨origin, entry, present, _⟩ := own packet new
      obtain rfl := address_inj.mp (origin.symm.trans source)
      right
      rw [about] at present
      simp [StaticNetwork.settle, present]

theorem Supported.step (supported : net.Supported state) (step : net.Step state action after) :
    net.Supported after := by
  have trusted : net.Trusted after := by
    refine supported.trusted.step trusted_propagates ?_ step
    cases action <;> simp [Fits]
  cases step with
  | idle action duration hellos sent => exact supported.idle _ hellos trusted
  | @hello y k hello nb hardware found header link listed =>
      set x := hello.receiver
      have consistent := supported.trusted.nodes x
      have namedBefore : ((state.node x).setNb nb).Named := consistent.named.congr rfl rfl
      have setup := consistent.setup.setNb nb
      refine supported.settle trusted (fun dst => Node.exchangeHello_ft_isSome namedBefore _ _)
        ?_ ?_ (fun _ => id)
        (packets_own setup (namedBefore.exchangeHello _ _) (Node.exchangeHello_sendsOwn _ _))
      · intro v other
        rcases consistent.hello_cases (supported.settled x) listed with
          ⟨_, _, neighbors, ft, entries⟩ | ⟨_, absent, added, exchanged⟩
        · exact (supported.settled x v other).congr (ft v other) neighbors fun n _ => entries n _
        · rw [exchanged]
          exact NodeConsistent.join_settled consistent added absent (supported.settled x v other)
      · intro z v route held
        rcases consistent.hello_cases (supported.settled x) listed with
          ⟨_, _, _, _, entries⟩ | ⟨_, absent, _, exchanged⟩
        · rw [entries] at held
          exact supported.rows x z v route held
        · simp only [exchanged, Node.recompute_dvt,
            @Node.joined_entry ((state.node x).setNb nb) _ _ absent] at held
          split at held
          · rename_i own
            exact .inl ((address_inj.mp own.1).trans (address_inj.mp own.2).symm)
          · exact supported.rows x z v route held
  | @update x y k header link found origin =>
      have consistent := supported.trusted.nodes x
      obtain ⟨y', _, source, _, _, _, genuine⟩ :=
        supported.trusted.updates _ (List.mem_of_getElem? found)
      obtain rfl := address_inj.mp source
      have about : ∀ v, header.dst = net.address v → v ≠ y ∧ header.binaryState = 1 :=
        fun v same => ⟨(genuine v same).1, (genuine v same).2.1⟩
      refine supported.settle trusted (fun dst => Node.recvUpdate_ft_isSome _ _ _)
        (fun v other => (consistent.recvUpdate_settled about (supported.settled x v other)).2) ?_
        (fun _ => List.mem_of_mem_eraseIdx)
        (packets_own consistent.setup (consistent.named.recvUpdate _ _ _)
          (Node.recvUpdate_sendsOwn _ _ _))
      intro z v route held
      obtain ⟨prqueue, frame, _⟩ :=
        Node.recvUpdate_frame (state.node x) header (net.address x) (net.address y)
      rw [frame] at held
      change ((state.node x).learn _ _).dvt.entry _ _ = _ at held
      rw [learn_entry (failed_unnamed about)] at held
      split at held
      · rename_i new
        obtain rfl := address_inj.mp new.2.1
        exact supported.flight _ (List.mem_of_getElem? found) _ v rfl new.2.2.symm
      · exact supported.rows x z v route held

theorem supported_of_reach [DecidableRel net.graph.Adj] {ok : NetworkState V → Action V → Prop}
    (allowed : ∀ state action, ok state action → Allowed state action)
    (reach : Reach net.toNetwork.next ok net.toNetwork.initial state) : net.Supported state := by
  have start : net.Supported net.toNetwork.initial := by
    refine ⟨⟨start_consistent, by simp [Network.initial], by simp [Network.initial]⟩, ?_, ?_, ?_⟩
    · intro x v other
      have unknown : (net.toNetwork.start x).ft[net.address v]? = none := start_unknown other
      refine ⟨fun entry present => ?_, fun entry present => ?_, fun _ neighbor listed => ?_⟩
      · simp [Network.initial, unknown] at present
      · simp [Network.initial, unknown] at present
      · simp [Network.initial, Node.neighbors, (start_lists x).1] at listed
    · intro x y v route found
      simp [Network.initial, start_dvt, DistanceVectorTable.entry] at found
    · simp [Network.initial]
  refine reach.invariant start fun before action after supported guard taken => ?_
  exact supported.step (step_of_next supported.trusted (allowed _ _ guard) taken)

end StaticNetwork

end Bsdvr
