import Bsdvr.Foundation.Amortized
import Bsdvr.Foundation.Sequence
import Bsdvr.Static.Convergence
import Bsdvr.Runs.Replies

namespace Bsdvr
open Foundation

namespace Node
variable {node : Node}

/-! ## Recomputations that change nothing -/

/-- Where the forwarding table has no entry, no neighbour has a route. -/
def Complete (node : Node) : Prop :=
  ∀ dst, node.ft[dst]? = none → ∀ neighbor ∈ node.neighbors, node.dvt.entry neighbor dst = none

theorem recompute_complete (node : Node) : node.recompute.1.Complete := by
  intro dst absent neighbor listed
  by_contra found
  obtain ⟨route, found⟩ := Option.ne_none_iff_exists'.mp found
  have candidate : route ∈ candidates node.neighbors node.dvt dst :=
    mem_candidates.mpr ⟨neighbor, listed, found⟩
  have present : (node.recompute.1.ft[dst]?).isSome := by
    rw [recompute_ft]
    exact recomputed_isSome.mpr (.inr (List.ne_nil_of_mem candidate))
  rw [absent] at present
  cases present

theorem Complete.recompute_silent (complete : node.Complete) : node.recompute.2 = [] := by
  rw [List.eq_nil_iff_forall_not_mem]
  intro dst changed
  obtain ⟨_, absent, present⟩ := mem_changes.mp changed
  rcases recomputed_isSome.mp present with old | new
  · rw [absent] at old
    cases old
  · obtain ⟨route, member⟩ := List.exists_mem_of_ne_nil _ new
    obtain ⟨neighbor, listed, found⟩ := mem_candidates.mp member
    rw [complete dst absent neighbor listed] at found
    cases found

variable {header : UpdateHeader} {my src : Ipv4Address}

theorem Complete.learned (complete : node.Complete)
    (rows : ∀ n ∈ node.neighbors, (node.dvt[n]?).isSome) :
    (node.learned header my src).Complete := by
  intro dst absent neighbor listed
  have none : node.dvt.entry neighbor dst = none := complete dst absent neighbor listed
  by_contra found
  obtain ⟨route, found⟩ := Option.ne_none_iff_exists'.mp found
  change (updateDistanceVectorTable _ _ _ _ _).entry neighbor dst = some route at found
  by_cases known : src ∈ node.neighbors
  · rw [updateDistanceVectorTable_drop known (rows src known)] at found
    have old := withoutFakes_sub found
    rw [none] at old
    cases old
  · rcases updateDistanceVectorTable_entry found with old | ⟨rfl, _, _⟩
    · rw [none] at old
      cases old
    · exact known listed

theorem recvUpdate_complete : (node.recvUpdate header my src).1.Complete := by
  obtain ⟨prqueue, frame, _⟩ := recvUpdate_frame node header my src
  rw [frame]
  exact recompute_complete (node.learned header my src)

/-- What a node is told of a destination it knows it passes on to nobody. -/
theorem Complete.recvUpdate_sends (complete : node.Complete) (header : UpdateHeader)
    (my src : Ipv4Address) (rows : ∀ n ∈ node.neighbors, (node.dvt[n]?).isSome) :
    (node.recvUpdate header my src).2 =
      if header.binaryState = 0 ∧ header.dst ≠ header.origin then
        ((node.learned header my src).recompute.1.retransmitToNeighbor header).2
      else [] := by
  have silent : (node.learned header my src).recompute.2 = [] :=
    (complete.learned rows).recompute_silent
  have nothing :
      (node.learned header my src).recompute.1.sendTriggeredUpdateChangesToNeighbors [] [] =
        [] := by
    simp [sendTriggeredUpdateChangesToNeighbors]
  rw [recvUpdate_eq]
  simp only [silent, nothing, List.nil_append]
  split <;> rfl

/-! ## What a pending reply costs -/

theorem sendUpdateOnPendingReplyEntryTimeout_length (entry : PendingReplyEntry) :
    (node.sendUpdateOnPendingReplyEntryTimeout entry).length ≤ 1 := by
  unfold sendUpdateOnPendingReplyEntryTimeout
  split
  · exact Nat.zero_le _
  · split
    · exact Nat.zero_le _
    · split
      · exact le_rfl
      · exact Nat.zero_le _

theorem enqueuePendingReply_pays (entry : PendingReplyEntry) :
    (node.enqueuePendingReply entry).2.length +
      (node.enqueuePendingReply entry).1.prqueue.queue.length ≤
      node.prqueue.queue.length + 1 := by
  have sent : (node.enqueuePendingReply entry).2.length ≤
      (node.prqueue.purge node.now).1.length := by
    show ((node.prqueue.purge node.now).1.flatMap _).length ≤ _
    rw [List.length_flatMap]
    exact (List.sum_le_card_nsmul _ 1 fun _ member => by
      obtain ⟨due, _, rfl⟩ := List.mem_map.mp member
      exact sendUpdateOnPendingReplyEntryTimeout_length due).trans (by simp)
  have kept : ((node.prqueue.purge node.now).2.push node.now entry).queue.length ≤
      (node.prqueue.purge node.now).2.queue.length + 1 := by
    rw [BsdvrPendingReplyQueue.push_eq]
    split
    · exact Nat.le_succ _
    · rw [List.length_append, List.length_singleton]
      split
      · rw [List.length_tail]
        omega
      · exact le_rfl
  have all : (node.prqueue.purge node.now).1.length + (node.prqueue.purge node.now).2.queue.length =
      node.prqueue.queue.length := by
    simp only [BsdvrPendingReplyQueue.purge, ← List.countP_eq_length_filter]
    rw [List.length_eq_countP_add_countP (fun entry : PendingReplyEntry => entry.expired node.now)]
    simp
  change _ + ((node.prqueue.purge node.now).2.push node.now entry).queue.length ≤ _
  omega

theorem retransmitToNeighbor_pays (upt : UpdateHeader) :
    (node.retransmitToNeighbor upt).2.length +
      (node.retransmitToNeighbor upt).1.prqueue.queue.length ≤
      node.prqueue.queue.length + 1 := by
  unfold retransmitToNeighbor
  split
  · simp
  · split
    · simp
    · split
      · simp only
        split
        · simp [Nat.add_comm]
        · exact enqueuePendingReply_pays _
      · simp

theorem sendTriggeredUpdateToNeighbor_length {keys : Finset Ipv4Address} (ne : Ipv4Address)
    (within : ∀ dst entry, node.ft[dst]? = some entry → dst ≠ loopback → dst ∈ keys) :
    (node.sendTriggeredUpdateToNeighbor ne).length ≤ keys.card := by
  refine length_filterMap_le_card (nodup_keys _) ?_
  rintro ⟨dst, entry⟩ member sent chosen
  have present : node.ft[dst]? = some entry := Std.TreeMap.mem_toList_iff_getElem?_eq_some.mp member
  simp only at chosen
  split at chosen
  · cases chosen
  · split at chosen
    · rename_i told
      exact within dst entry present told.2.2
    · cases chosen

end Node

namespace StaticNetwork
variable {V : Type} {net : StaticNetwork V} {state after : NetworkState V} {action : Action V}
  {x : V}

/-! ## What UPDATEs are about -/

section Names
variable [Fintype V] {node : Node} {y : V}

def names (net : StaticNetwork V) : Finset Ipv4Address :=
  Finset.univ.image net.address ∪ Finset.univ.image fun v => (net.iface v).broadcast

theorem address_mem_names (v : V) : net.address v ∈ net.names :=
  Finset.mem_union_left _ (Finset.mem_image_of_mem _ (Finset.mem_univ v))

theorem broadcast_mem_names (v : V) : (net.iface v).broadcast ∈ net.names :=
  Finset.mem_union_right _ (Finset.mem_image_of_mem _ (Finset.mem_univ v))

theorem card_names_le (net : StaticNetwork V) : net.names.card ≤ 2 * Fintype.card V := by
  refine (Finset.card_union_le _ _).trans ?_
  rw [two_mul]
  exact Nat.add_le_add Finset.card_image_le Finset.card_image_le

def Means (net : StaticNetwork V) (dst : Ipv4Address) : Prop := dst = loopback ∨ dst ∈ net.names

def meaning (net : StaticNetwork V) : Contract where
  forwarding dst entry := net.Means dst ∧ net.Means entry.destination
  stored _ dst route := net.Means dst ∧ net.Means route.destination
  known _ := False

theorem meaning_closed (neighbors : List Ipv4Address) : net.meaning.Closed neighbors where
  adopt _ _ _ _ stored := stored
  refresh _ _ _ _ stored _ := stored
  retire _ _ good _ _ := good

theorem meaning_admits (node : Node) (receiver : Ipv4Address) :
    net.meaning.Admits node (net.address y) receiver where
  heard _ stored := stored
  forwarding toNeighbor _ dst entry good := by
    obtain ⟨outputDevice, frame⟩ := node.rewritten_frame receiver toNeighbor entry
    rwa [frame]
  stored toNeighbor _ _ dst entry good := by
    obtain ⟨outputDevice, frame⟩ := node.rewritten_frame receiver toNeighbor entry
    rwa [frame]
  join := ⟨.inr (address_mem_names y), .inr (address_mem_names y)⟩

theorem meaning_packets {tells : Ipv4Address → Ipv4Address → Prop} {result : Node × List Sent}
    (respects : net.meaning.Respects node tells result) :
    ∀ packet ∈ Network.packets result.2, net.Means packet.header.dst := by
  intro packet member
  obtain ⟨sent, listed, opened⟩ := List.mem_filterMap.mp member
  obtain ⟨socket, _, rfl⟩ := Option.map_eq_some_iff.mp opened
  obtain ⟨ne, dst, entry, good, _, rfl⟩ := respects.sends sent listed
  exact good.2

end Names

variable [DecidableEq V]

/-! ## What is passed on -/

theorem complete_of_step (supported : net.Supported state) (complete : ∀ v, (state.node v).Complete)
    (step : net.Step state action after) (x : V) : (after.node x).Complete := by
  cases step with
  | idle action duration hellos sent => exact complete x
  | @hello y k hello nb hardware found header link listed =>
      by_cases here : x = hello.receiver
      · subst here
        have consistent := supported.trusted.nodes hello.receiver
        have namedBefore : ((state.node hello.receiver).setNb nb).Named :=
          consistent.named.congr rfl rfl
        rw [settle_self]
        rcases consistent.hello_cases (supported.settled _) listed with
          ⟨_, _, neighbors, _, entries⟩ | ⟨_, _, _, exchanged⟩
        · intro dst absent neighbor member
          have unknown : (state.node hello.receiver).ft[dst]? = none := by
            by_contra known
            have still := Node.exchangeHello_ft_isSome namedBefore (net.address y)
              (net.address hello.receiver)
              (Option.ne_none_iff_isSome.mp known)
            rw [absent] at still
            cases still
          rw [entries]
          exact complete _ dst unknown neighbor (neighbors ▸ member)
        · rw [exchanged]
          exact Node.recompute_complete _
      · rw [settle_other here]
        exact complete x
  | @update z y k header link found origin =>
      by_cases here : x = z
      · subst here
        rw [settle_self]
        exact Node.recvUpdate_complete
      · rw [settle_other here]
        exact complete x

section Next
variable [DecidableRel net.graph.Adj] {k : Nat}

theorem update_of_next (supported : net.Supported state)
    (taken : net.toNetwork.next state (.deliverUpdate k x) = some after) :
    ∃ y header, net.graph.Adj x y ∧ state.updates[k]? = some ⟨net.address y,
      net.address x, header⟩ ∧
      after = settle state x ((state.node x).recvUpdate header (net.address x) (net.address y))
        state.hellos (state.updates.eraseIdx k) := by
  obtain ⟨packet, found, rest⟩ := Option.bind_eq_some_iff.mp taken
  obtain ⟨socket, bound, reacted⟩ := Option.bind_eq_some_iff.mp rest
  obtain ⟨⟨_, addressed⟩, rfl⟩ := react_eq_some reacted
  obtain ⟨my, received⟩ := Option.isSome_iff_exists.mp addressed
  have setup := (supported.trusted.nodes x).setup
  obtain ⟨y, z, source, _, destination, link, _⟩ :=
    supported.trusted.updates packet (List.mem_of_getElem? found)
  have here : packet.destination = net.address x := by
    simp only [Network.unicastSocket, setup.socketAddresses] at bound
    by_contra apart
    simp [Ne.symm apart] at bound
  obtain rfl := address_inj.mp (here.symm.trans destination)
  simp only [Node.handle, Node.recvBsdv, received]
  rw [setup.receiver received, source]
  obtain ⟨_, _, header⟩ := packet
  simp only at source here
  subst source here
  exact ⟨y, header, link.symm, found, rfl⟩

theorem complete_of_reach (reach : Reach net.toNetwork.next Allowed net.toNetwork.initial state)
    (x : V) :
    net.Supported state ∧ (state.node x).Complete := by
  have both : net.Supported state ∧ ∀ v, (state.node v).Complete := by
    refine reach.invariant (P := fun state => net.Supported state ∧
      ∀ v, (state.node v).Complete) ?_ ?_
    · refine ⟨supported_of_reach (fun _ _ => id) .start, fun v dst _ neighbor listed => ?_⟩
      simp [Network.initial, Node.neighbors, (start_lists v).1] at listed
    · rintro before action after ⟨supported, complete⟩ allowed taken
      have step := step_of_next supported.trusted allowed taken
      exact ⟨supported.step step, complete_of_step supported complete step⟩
  exact ⟨both.1, both.2 x⟩

theorem packets_length_le (sent : List Sent) : (Network.packets sent).length ≤ sent.length :=
  List.length_filterMap_le _ _

def failed (packet : Packet) : Bool := packet.header.binaryState = 0

theorem packets_reply {node : Node} {upt : UpdateHeader} {packet : Packet}
    (member : packet ∈ Network.packets (node.retransmitToNeighbor upt).2) :
    packet.header.binaryState = 1 := by
  obtain ⟨sent, listed, opened⟩ := List.mem_filterMap.mp member
  obtain ⟨socket, _, rfl⟩ := Option.map_eq_some_iff.mp opened
  obtain ⟨ne, dst, route, _, _, _, works, _, _, rfl⟩ := Node.retransmitToNeighbor_mem listed
  exact if_pos works

/-- In a static network an UPDATE about an active route is passed on to nobody, and what is sent
because of one about a failed route is about active routes. -/
theorem update_not_passed_on (reach : Reach net.toNetwork.next Allowed net.toNetwork.initial state)
    (taken : net.toNetwork.next state (.deliverUpdate k x) = some after) :
    ∃ packet replies, state.updates[k]? = some packet ∧ after.updates =
      state.updates.eraseIdx k ++ replies ∧
      (packet.header.binaryState ≠ 0 → replies = []) ∧ ∀ reply ∈ replies,
      reply.header.binaryState = 1 := by
  obtain ⟨supported, complete⟩ := complete_of_reach reach x
  obtain ⟨y, header, link, found, rfl⟩ := update_of_next supported taken
  refine ⟨_, Network.packets _, found, rfl, ?_⟩
  rw [complete.recvUpdate_sends header _ _ fun n => (supported.trusted.nodes x).rows]
  split
  · rename_i inactive
    exact ⟨fun active => absurd inactive.1 active, fun reply => packets_reply⟩
  · exact ⟨fun _ => rfl, fun reply member => by cases member⟩

theorem update_not_passed_on_kite : ∃ state after packet replies,
    Reach kite.toNetwork.next Allowed kite.toNetwork.initial state ∧
    kite.toNetwork.next state (.deliverUpdate 0 2) = some after ∧
    state.updates[0]? = some packet ∧ after.updates = state.updates.eraseIdx 0 ++ replies ∧
      (packet.header.binaryState ≠ 0 → replies = []) ∧ ∀ reply ∈ replies,
      reply.header.binaryState = 1 := by
  -- node 2 has heard node 0 when node 1 tells it of the subnet broadcast address, which node 2 has
  -- a route to
  obtain ⟨state, reach, checked⟩ :=
    exists_reach_of_follow kite.toNetwork.next Allowed kite.toNetwork.initial
    (hears 2 0 ++ hears 1 2 ++ [.deliverUpdate 0 0])
    (fun state => (kite.toNetwork.next state (.deliverUpdate 0 2)).isSome) (by decide +kernel)
  obtain ⟨after, taken⟩ := Option.isSome_iff_exists.mp checked
  obtain ⟨packet, replies, found, sent, active, answers⟩ := update_not_passed_on reach taken
  exact ⟨state, after, packet, replies, reach, taken, found, sent, active, answers⟩

end Next

/-! ## How many UPDATEs are sent -/

section Names
variable [Fintype V]

structure Meaningful (net : StaticNetwork V) (state : NetworkState V) : Prop where
  supported : net.Supported state
  complete : ∀ v, (state.node v).Complete
  tables : ∀ v, net.meaning.Holds (state.node v)
  flight : ∀ packet ∈ state.updates, net.Means packet.header.dst

theorem Meaningful.settle (meaningful : net.Meaningful state) {handled : Node × List Sent}
    {hellos : List (HelloPacket V)} {updates : List Packet}
    (supported : net.Supported (StaticNetwork.settle state x handled hellos updates))
    (complete : ∀ v, ((StaticNetwork.settle state x handled hellos updates).node v).Complete)
    {tells : Ipv4Address → Ipv4Address → Prop}
    (respects : net.meaning.Respects (state.node x) tells handled)
    (kept : ∀ packet ∈ updates, packet ∈ state.updates) :
    net.Meaningful (StaticNetwork.settle state x handled hellos updates) := by
  refine ⟨supported, complete, fun v => ?_, fun packet member => ?_⟩
  · by_cases here : v = x
    · subst here
      rw [settle_self]
      exact respects.holds
    · rw [settle_other here]
      exact meaningful.tables v
  · rcases List.mem_append.mp member with old | new
    · exact meaningful.flight packet (kept packet old)
    · exact meaning_packets respects packet new

theorem Meaningful.step (meaningful : net.Meaningful state) (step : net.Step state action after) :
    net.Meaningful after := by
  have supported := meaningful.supported.step step
  have complete := complete_of_step meaningful.supported meaningful.complete step
  cases step with
  | idle action duration hellos sent =>
      exact ⟨supported, complete, fun v => (meaningful.tables v).congr rfl, meaningful.flight⟩
  | @hello y k hello nb hardware found header link listed =>
      have named : ((state.node hello.receiver).setNb nb).Named :=
        (meaningful.supported.trusted.nodes hello.receiver).named.congr rfl rfl
      have tables : net.meaning.Holds ((state.node hello.receiver).setNb nb) :=
        (meaningful.tables hello.receiver).congr rfl
      have respects := tables.except.exchangeHello named (meaning_closed _)
        (meaning_admits (y := y) _ (net.address hello.receiver))
      exact meaningful.settle supported complete ⟨respects.holds, respects.sends⟩ fun _ => id
  | @update z y k header link found origin =>
      have about : net.Means header.dst := meaningful.flight _ (List.mem_of_getElem? found)
      have respects := (meaningful.tables z).recvUpdate header (net.address z) (net.address y)
        (meaning_closed _)
        fun _ => ⟨about, about⟩
      exact meaningful.settle supported complete respects fun _ => List.mem_of_mem_eraseIdx

variable [DecidableRel net.graph.Adj]

theorem start_meaningful : net.Meaningful net.toNetwork.initial := by
  have supported : net.Supported net.toNetwork.initial := supported_of_reach (fun _ _ => id) .start
  refine ⟨supported, fun v => (complete_of_reach .start v).2, fun v => ?_,
    by simp [Network.initial]⟩
  refine ⟨fun dst entry present => ?_, fun neighbor dst route found => ?_, fun _ => False.elim⟩
  · have named := (supported.trusted.nodes v).named.forwarding present
    have means : net.Means dst := by
      change (net.toNetwork.start v).ft[dst]? = some entry at present
      rw [start_ft] at present
      by_cases broadcast : dst = (net.iface v).broadcast
      · exact .inr (broadcast ▸ broadcast_mem_names v)
      · rw [if_neg broadcast] at present
        split at present
        · rename_i lo
          exact .inl lo
        · cases present
    exact ⟨means, named.symm ▸ means⟩
  · change (net.toNetwork.start v).dvt.entry neighbor dst = some route at found
    simp [start_dvt, DistanceVectorTable.entry] at found

def unheard (net : StaticNetwork V) [DecidableRel net.graph.Adj] (v : V)
    (neighbors : List Ipv4Address) : Finset V :=
  (net.graph.neighborFinset v).filter fun y => net.address y ∉ neighbors

/-- What a node may still send: a table to each neighbour it hears, a reply to each entry of the
table that fails, and its pending replies. -/
def owes (net : StaticNetwork V) [DecidableRel net.graph.Adj] (v : V) (node : Node) : ℕ :=
  2 * (2 * Fintype.card V) * (net.unheard v node.neighbors).card + node.prqueue.queue.length

def credit (net : StaticNetwork V) [DecidableRel net.graph.Adj] (state : NetworkState V) : ℕ :=
  ∑ v, net.owes v (state.node v) + state.updates.countP failed

theorem credit_settle (state : NetworkState V) (x : V) {handled : Node × List Sent}
    (hellos : List (HelloPacket V)) {updates : List Packet} {dropped : ℕ}
    (kept : updates.countP failed + dropped = state.updates.countP failed)
    (pays : (Network.packets handled.2).length + (Network.packets handled.2).countP failed +
      net.owes x handled.1 ≤ net.owes x (state.node x) + dropped) :
    (Network.packets handled.2).length + net.credit (settle state x handled hellos updates) ≤
      net.credit state := by
  have shared : (Network.packets handled.2).length + (Network.packets handled.2).countP failed +
      ∑ v, net.owes v ((settle state x handled hellos updates).node v) ≤ ∑ v,
      net.owes v (state.node v) + dropped :=
    sum_add_le_of_share (fun v (other : v ≠ x) => congrArg (net.owes v) (settle_other other))
      (by simpa only [settle_self] using pays)
  have flight : (settle state x handled hellos updates).updates.countP failed =
      updates.countP failed + (Network.packets handled.2).countP failed := List.countP_append
  unfold credit
  omega

omit [DecidableEq V] in
theorem hello_pays {y : V} {nb : Neighbors} (meaningful : net.Meaningful state)
    (link : net.graph.Adj x y)
    (listed : nb.addresses = (state.node x).neighborsWith (net.address y)) :
    let handled := ((state.node x).setNb nb).exchangeHello (net.address y) (net.address x)
    (Network.packets handled.2).length + (Network.packets handled.2).countP failed +
    net.owes x handled.1 ≤
      net.owes x (state.node x) := by
  intro handled
  have consistent := meaningful.supported.trusted.nodes x
  have named : ((state.node x).setNb nb).Named := consistent.named.congr rfl rfl
  have tables : net.meaning.Holds ((state.node x).setNb nb) := (meaningful.tables x).congr rfl
  have holds := (tables.except.exchangeHello named (meaning_closed _)
    (meaning_admits (y := y) _ (net.address x))).holds
  obtain ⟨table, fresh, frame⟩ :=
    Node.exchangeHello_frame ((state.node x).setNb nb) (net.address y) (net.address x)
  have owed : net.owes x handled.1 =
      2 * (2 * Fintype.card V) * (net.unheard x nb.addresses).card +
      (state.node x).prqueue.queue.length := by
    rw [owes, show handled.1 = _ from frame]
    rfl
  rcases consistent.hello_cases (meaningful.supported.settled x) listed with
    ⟨_, silent, neighbors, _⟩ | ⟨stranger, _, added, exchanged⟩
  · have same : nb.addresses = (state.node x).neighbors := by
      rw [← neighbors, frame]
      rfl
    rw [owed, same, show handled.2 = [] from silent]
    simp [Network.packets, owes]
  · have sent : (Network.packets handled.2).length ≤ 2 * Fintype.card V := by
      refine (packets_length_le _).trans ((?_ : _ ≤ net.names.card).trans (card_names_le net))
      have within : (handled.1.sendTriggeredUpdateToNeighbor (net.address y)).length ≤
          net.names.card :=
        Node.sendTriggeredUpdateToNeighbor_length (net.address y)
          fun dst entry present real => (holds.forwarding dst entry present).1.resolve_left real
      rwa [show handled.2 = handled.1.sendTriggeredUpdateToNeighbor (net.address y) from by
        rw [show handled = _ from exchanged]]
    have about : (Network.packets handled.2).countP failed ≤ (Network.packets handled.2).length :=
      List.countP_le_length
    have fewer : (net.unheard x nb.addresses).card + 1 ≤
        (net.unheard x (state.node x).neighbors).card := by
      refine Finset.card_lt_card (Finset.ssubset_iff_of_subset ?_ |>.mpr ⟨y, ?_, ?_⟩)
      · intro z member
        obtain ⟨near, unheard⟩ := Finset.mem_filter.mp member
        exact Finset.mem_filter.mpr ⟨near,
          fun heard => unheard (by rw [added]; exact List.mem_append_left _ heard)⟩
      · exact Finset.mem_filter.mpr ⟨(net.graph.mem_neighborFinset x y).mpr link, stranger⟩
      · intro member
        exact (Finset.mem_filter.mp member).2 (by rw [added]; simp)
    have cheaper := Nat.mul_le_mul_left (2 * (2 * Fintype.card V)) fewer
    rw [owed, owes]
    rw [Nat.mul_add, Nat.mul_one] at cheaper
    omega

omit [DecidableEq V] in
theorem update_pays (header : UpdateHeader) (my src : Ipv4Address)
    (meaningful : net.Meaningful state) :
    let handled := (state.node x).recvUpdate header my src
    (Network.packets handled.2).length + (Network.packets handled.2).countP failed +
    net.owes x handled.1 ≤
      net.owes x (state.node x) + if header.binaryState = 0 then 1 else 0 := by
  intro handled
  have sends := (meaningful.complete x).recvUpdate_sends header my src
    fun n => (meaningful.supported.trusted.nodes x).rows
  obtain ⟨prqueue, frame, _⟩ := Node.recvUpdate_frame (state.node x) header my src
  have owed : net.owes x handled.1 =
      2 * (2 * Fintype.card V) * (net.unheard x (state.node x).neighbors).card +
      handled.1.prqueue.queue.length := by
    rw [owes, show handled.1.neighbors = (state.node x).neighbors by
      rw [show handled.1 = _ from frame]; rfl]
  by_cases inactive : header.binaryState = 0 ∧ header.dst ≠ header.origin
  · rw [if_pos inactive] at sends
    have paid := @Node.retransmitToNeighbor_pays
      ((state.node x).learned header my src).recompute.1 header
    have queued : handled.1.prqueue =
        (((state.node x).learned header my src).recompute.1.retransmitToNeighbor header).1.prqueue := by
      show ((state.node x).recvUpdate header my src).1.prqueue = _
      rw [Node.recvUpdate_eq, if_pos inactive]
    have none : (Network.packets handled.2).countP failed = 0 := by
      rw [List.countP_eq_zero]
      intro packet member
      rw [show handled.2 = _ from sends] at member
      simp [failed, packets_reply member]
    have sent := packets_length_le handled.2
    rw [show handled.2 = _ from sends] at sent
    change _ + _ ≤ (state.node x).prqueue.queue.length + 1 at paid
    rw [owed, owes, none, queued, if_pos inactive.1]
    rw [← show handled.2 = _ from sends] at sent paid
    omega
  · rw [if_neg inactive] at sends
    have queued : handled.1.prqueue = (state.node x).prqueue := by
      show ((state.node x).recvUpdate header my src).1.prqueue = _
      rw [Node.recvUpdate_eq, if_neg inactive]
      rfl
    rw [owed, owes, queued, show handled.2 = [] from sends]
    simp [Network.packets]

def delivered : Action V → ℕ
  | .deliverUpdate _ _ => 1
  | .event _ _ | .sendHello _ _ | .deliverHello _ _ | .elapse _ => 0

def updatesSent (network : Network V) [∀ v i w j, Decidable (network.link v i w j)]
    (state : NetworkState V) (action : Action V) : ℕ :=
  (network.next state action).elim 0 fun after => after.updates.length +
    delivered action - state.updates.length

theorem Meaningful.pays (meaningful : net.Meaningful state) (allowed : Allowed state action)
    (taken : net.toNetwork.next state action = some after) :
    updatesSent net.toNetwork state action + net.credit after ≤ net.credit state := by
  have sent : updatesSent net.toNetwork state action = after.updates.length +
      delivered action - state.updates.length := by
    rw [updatesSent, taken]
    rfl
  have idle (quiet : delivered action = 0) (updates : after.updates = state.updates)
      (credit : net.credit after = net.credit state) :
      updatesSent net.toNetwork state action + net.credit after ≤ net.credit state := by
    rw [sent, quiet, updates, credit]
    omega
  cases action with
  | event v event =>
      cases step_of_next meaningful.supported.trusted allowed taken with
      | idle _ duration hellos sent => exact idle rfl rfl rfl
  | sendHello v reached =>
      cases step_of_next meaningful.supported.trusted allowed taken with
      | idle _ duration hellos sent => exact idle rfl rfl rfl
  | elapse duration =>
      cases step_of_next meaningful.supported.trusted allowed taken with
      | idle _ duration hellos sent => exact idle rfl rfl rfl
  | deliverHello k hardware =>
      cases step_of_next meaningful.supported.trusted allowed taken with
      | idle _ duration hellos sent => exact idle rfl rfl rfl
      | hello nb _ found header link listed =>
          have kept : state.updates.countP failed + 0 = state.updates.countP failed := rfl
          have paid := credit_settle state _ (state.hellos.eraseIdx k) kept
            (hello_pays meaningful link listed)
          refine le_trans (Nat.add_le_add_right ?_ _) paid
          rw [sent]
          simp [StaticNetwork.settle, delivered]
  | deliverUpdate k x =>
      obtain ⟨y, header, link, found, rfl⟩ := update_of_next meaningful.supported taken
      obtain ⟨inside, here⟩ := List.getElem?_eq_some_iff.mp found
      have kept : (state.updates.eraseIdx k).countP failed +
          (if header.binaryState = 0 then 1 else 0) =
          state.updates.countP failed := by
        rw [← (List.getElem_cons_eraseIdx_perm inside).countP_eq, List.countP_cons, here]
        simp [failed]
      have paid := credit_settle state x state.hellos kept
        (update_pays header (net.address x) (net.address y) meaningful)
      refine le_trans (Nat.add_le_add_right ?_ _) paid
      rw [sent]
      have length := List.length_eraseIdx_of_lt inside
      simp only [StaticNetwork.settle, delivered, List.length_append]
      omega

omit [DecidableEq V] in
theorem start_credit :
    net.credit net.toNetwork.initial = 8 * Fintype.card V * net.graph.edgeFinset.card := by
  have owed (v : V) : net.owes v (net.toNetwork.initial.node v) =
      4 * Fintype.card V * net.graph.degree v := by
    obtain ⟨nb, queue⟩ : (net.toNetwork.start v).nb = [] ∧
        (net.toNetwork.start v).prqueue.queue = [] := start_lists v
    have neighbors : (net.toNetwork.start v).neighbors = [] := congrArg Neighbors.addresses nb
    have all : net.unheard v [] = net.graph.neighborFinset v := by simp [unheard]
    show net.owes v (net.toNetwork.start v) = _
    rw [owes, neighbors, queue, all, SimpleGraph.card_neighborFinset_eq_degree, List.length_nil]
    ring
  have flight : net.toNetwork.initial.updates.countP failed = 0 := rfl
  rw [credit, flight, Finset.sum_congr rfl fun v _ => owed v, ← Finset.mul_sum,
    net.graph.sum_degrees_eq_twice_card_edges]
  ring

/-- However long a static network runs and its nodes send HELLOs, the UPDATEs they send are at most
eight for each node and link. -/
theorem updates_sent_le {run : NetworkState V × ℕ}
    (reach : Reach (spending net.toNetwork.next (updatesSent net.toNetwork))
      (fun run action => Allowed run.1 action) (net.toNetwork.initial, 0) run) :
    run.2 ≤ 8 * Fintype.card V * net.graph.edgeFinset.card := by
  have paid := spent_le net.credit (P := net.Meaningful) start_meaningful
    (fun before action after meaningful allowed taken =>
      meaningful.step (step_of_next meaningful.supported.trusted allowed taken))
    (fun before action after meaningful => meaningful.pays) reach
  rw [start_credit] at paid
  omega

theorem updates_sent_le_kite : ∃ run,
    Reach (spending kite.toNetwork.next (updatesSent kite.toNetwork))
    (fun run action => Allowed run.1 action)
      (kite.toNetwork.initial, 0) run ∧
    run.2 = 6 ∧ run.2 ≤ 8 * Fintype.card (Fin 4) * kite.graph.edgeFinset.card := by
  -- nodes 1 and 2 hear each other and then node 0, which is told of the other one, and hears both
  obtain ⟨run, reach, checked⟩ := exists_reach_of_follow
    (spending kite.toNetwork.next (updatesSent kite.toNetwork))
    (fun run action => Allowed run.1 action)
    (kite.toNetwork.initial, 0)
    (hears 1 2 ++ hears 2 1 ++ hears 1 0 ++ hears 2 0 ++ [.deliverUpdate 0 2])
    (fun run => run.2 = 6) (by decide +kernel)
  exact ⟨run, reach, by simpa using checked, updates_sent_le reach⟩

end Names

end StaticNetwork

end Bsdvr
