import Bsdvr.Foundation.Run
import Bsdvr.Proof.Hello

namespace Bsdvr
open Foundation

/-! ## UPDATE -/

namespace Node
variable {node : Node}

/-- The replies an inactive UPDATE makes the node send: one to its origin, and those of the pending
replies that have fallen due. -/
def replies (node : Node) (header : UpdateHeader) (ne dst : Ipv4Address) : Prop :=
  header.binaryState = 0 ∧ header.dst ≠ header.origin ∧ ne ∈ node.neighbors ∧ filtered ne = false ∧
    (ne = header.origin ∧ dst = header.dst ∨
      ∃ entry ∈ node.prqueue.queue, entry.neighbor = ne ∧ entry.destination = dst)

/-- The node once `RecvUpdate` has stored the route, before the recomputation. -/
def learned (node : Node) (header : UpdateHeader) (my src : Ipv4Address) : Node :=
  { node.learn src (node.updateEntry header my src) with fresh := node.fresh + 1 }

theorem sendUpdateOnPendingReplyEntryTimeout_mem {entry : PendingReplyEntry} {sent : Sent}
    (member : sent ∈ node.sendUpdateOnPendingReplyEntryTimeout entry) :
    ∃ route, node.ft[entry.destination]? = some route ∧ entry.neighbor ∈ node.neighbors ∧
      filtered entry.neighbor = false ∧ route.state = .active ∧ route.nextHop ≠ entry.neighbor ∧
      sent = node.sendUpdate route entry.neighbor := by
  unfold sendUpdateOnPendingReplyEntryTimeout at member
  split at member
  · cases member
  · rename_i unfiltered
    split at member
    · cases member
    · rename_i route present
      split at member
      · rename_i alive
        rw [List.mem_singleton] at member
        exact ⟨route, present, alive.1, by simpa using unfiltered, alive.2.1, alive.2.2, member⟩
      · cases member

theorem retransmitToNeighbor_mem {upt : UpdateHeader} {sent : Sent}
    (member : sent ∈ (node.retransmitToNeighbor upt).2) :
    ∃ ne dst route, node.ft[dst]? = some route ∧ ne ∈ node.neighbors ∧ filtered ne = false ∧
      route.state = .active ∧ route.nextHop ≠ ne ∧
      (ne = upt.origin ∧ dst = upt.dst ∨ ∃ entry ∈ node.prqueue.queue, entry.neighbor = ne ∧
        entry.destination = dst) ∧
      sent = node.sendUpdate route ne := by
  unfold retransmitToNeighbor at member
  split at member
  · cases member
  · rename_i unfiltered
    split at member
    · cases member
    · rename_i route present
      split at member
      · rename_i alive
        simp only at member
        split at member
        · rw [List.mem_singleton] at member
          exact ⟨upt.origin, upt.dst, route, present, alive.1, by simpa using unfiltered,
            alive.2.1, alive.2.2, .inl ⟨rfl, rfl⟩, member⟩
        · obtain ⟨entry, due, reply⟩ := List.mem_flatMap.mp member
          obtain ⟨route, there, listed, passes, works, apart, same⟩ :=
            sendUpdateOnPendingReplyEntryTimeout_mem reply
          exact ⟨entry.neighbor, entry.destination, route, there, listed, passes, works, apart,
            .inr ⟨entry, BsdvrPendingReplyQueue.mem_purge due, rfl, rfl⟩, same⟩
      · cases member

theorem retransmitToNeighbor_frame (node : Node) (upt : UpdateHeader) :
    ∃ prqueue, (node.retransmitToNeighbor upt).1 = { node with prqueue := prqueue } ∧
      ∀ entry ∈ prqueue.queue, entry ∈ node.prqueue.queue ∨
        (upt.origin ∈ node.neighbors ∧ entry.neighbor = upt.origin ∧
          entry.destination = upt.dst) := by
  unfold retransmitToNeighbor
  split
  · exact ⟨node.prqueue, rfl, fun _ => .inl⟩
  · split
    · exact ⟨node.prqueue, rfl, fun _ => .inl⟩
    · split
      · rename_i alive
        simp only
        split
        · exact ⟨node.prqueue, rfl, fun _ => .inl⟩
        · refine ⟨_, rfl, fun entry member => ?_⟩
          rcases BsdvrPendingReplyQueue.mem_push member with old | new
          · exact .inl (BsdvrPendingReplyQueue.mem_purge_queue old)
          · exact .inr ⟨alive.1, new⟩
      · exact ⟨node.prqueue, rfl, fun _ => .inl⟩

theorem recvUpdate_frame (node : Node) (header : UpdateHeader) (my src : Ipv4Address) :
    ∃ prqueue, (node.recvUpdate header my src).1 =
      { (node.learned header my src).recompute.1 with prqueue := prqueue } ∧
      ∀ entry ∈ prqueue.queue, entry ∈ node.prqueue.queue ∨ (header.binaryState = 0 ∧
        header.dst ≠ header.origin ∧ header.origin ∈ node.neighbors ∧
        entry.neighbor = header.origin ∧ entry.destination = header.dst) := by
  unfold recvUpdate
  simp only
  split
  · rename_i inactive
    obtain ⟨prqueue, frame, entries⟩ :=
      retransmitToNeighbor_frame (node.learned header my src).recompute.1 header
    refine ⟨prqueue, frame, fun entry member => ?_⟩
    rcases entries entry member with old | new
    · exact .inl old
    · exact .inr ⟨inactive.1, inactive.2, new⟩
  · exact ⟨node.prqueue, rfl, fun _ => .inl⟩

theorem recvUpdate_sends {header : UpdateHeader} {my src : Ipv4Address} {sent : Sent}
    (member : sent ∈ (node.recvUpdate header my src).2) :
    sent ∈ (node.learned header my src).recompute.1.sendTriggeredUpdateChangesToNeighbors
        (node.learned header my src).recompute.2 [] ∨
      ((header.binaryState = 0 ∧ header.dst ≠ header.origin) ∧
        sent ∈ ((node.learned header my src).recompute.1.retransmitToNeighbor header).2) := by
  unfold recvUpdate at member
  simp only at member
  split at member
  · rename_i inactive
    rcases List.mem_append.mp member with announced | replied
    · exact .inl announced
    · exact .inr ⟨inactive, replied⟩
  · exact .inl member

end Node

theorem Contract.Holds.recvUpdate {contract : Contract} {node : Node} (holds : contract.Holds node)
    (header : UpdateHeader) (my src : Ipv4Address) (closed : contract.Closed node.neighbors)
    (new : ¬(src ∈ node.neighbors ∧ (node.dvt[src]?).isSome) →
      contract.stored src header.dst (node.updateEntry header my src)) :
    contract.Respects node (fun ne dst => node.announces ne dst ∨ node.replies header ne dst)
      (node.recvUpdate header my src) := by
  have learned : contract.Holds (node.learned header my src) := by
    have stored : contract.Holds (node.learn src (node.updateEntry header my src)) :=
      holds.learn new
    exact stored.congr rfl
  have announced := learned.announced closed []
  obtain ⟨prqueue, frame, _⟩ := Node.recvUpdate_frame node header my src
  constructor
  · rw [frame]
    exact announced.holds.congr rfl
  · intro sent member
    rcases Node.recvUpdate_sends member with change | ⟨inactive, reply⟩
    · obtain ⟨ne, dst, entry, good, tells, same⟩ := announced.sends sent change
      exact ⟨ne, dst, entry, good, .inl tells, same⟩
    · obtain ⟨ne, dst, route, present, listed, passes, _, _, reason, same⟩ :=
        Node.retransmitToNeighbor_mem reply
      exact ⟨ne, dst, route, announced.holds.forwarding _ _ present,
        .inr ⟨inactive.1, inactive.2, listed, passes, reason⟩, same⟩

theorem Node.Named.recvUpdate {node : Node} (named : node.Named) (header : UpdateHeader)
    (my src : Ipv4Address) :
    (node.recvUpdate header my src).1.Named := by
  obtain ⟨names, holds⟩ := named
  have respects := (naming_extend holds src).recvUpdate header my src (naming_closed _ _ _)
    fun _ => ⟨rfl, rfl, Nat.lt_succ_self _, Function.update_self _ _ _⟩
  obtain ⟨prqueue, frame, _⟩ := Node.recvUpdate_frame node header my src
  have fresh : (node.recvUpdate header my src).1.fresh = node.fresh + 1 := by
    rw [frame]
    rfl
  exact ⟨_, fresh ▸ respects.holds⟩

/-! ## Events -/

namespace Node
variable {node : Node}

def broadcastEntry (node : Node) (i : Nat) : RoutingTableEntry :=
  let iface := node.getAddress (some i)
  .make (node.fresh + 2) (node.getInterfaceForAddress iface.localAddress)
    iface.broadcast iface 1 iface.broadcast

theorem notifyInterfaceUp_ft (node : Node) (i : Nat) (dst : Ipv4Address) :
    (node.notifyInterfaceUp i).ft[dst]? =
      if (node.getAddress (some i)).localAddress = loopback then node.ft[dst]?
      else if dst = (node.getAddress (some i)).broadcast then
        some ((node.ft[dst]?).getD (node.broadcastEntry i))
      else node.ft[dst]? := by
  unfold notifyInterfaceUp
  simp only
  split
  · rfl
  · show ((EntryMap.addRoute node.ft (node.broadcastEntry i))[dst]? : Option RoutingTableEntry) = _
    rw [EntryMap.addRoute, getElem?_insertIfNew]
    by_cases same : dst = (node.getAddress (some i)).broadcast
    · subst same
      simp [broadcastEntry]
    · simp [broadcastEntry, same]

theorem notifyInterfaceUp_ft_cases {i : Nat} {dst : Ipv4Address} {entry : RoutingTableEntry}
    (present : (node.notifyInterfaceUp i).ft[dst]? = some entry) : node.ft[dst]? = some entry ∨
      ((node.getAddress (some i)).localAddress ≠ loopback ∧
        dst = (node.getAddress (some i)).broadcast ∧
        entry = node.broadcastEntry i) := by
  rw [notifyInterfaceUp_ft] at present
  split at present
  · exact .inl present
  · rename_i real
    split at present
    · rename_i here
      cases old : node.ft[dst]? with
      | none =>
          rw [old] at present
          exact .inr ⟨real, here, (Option.some.inj present).symm⟩
      | some kept =>
          rw [old] at present
          exact .inl present
    · exact .inl present

theorem notifyInterfaceUp_frame (node : Node) (i : Nat) :
    ∃ ft unicast broadcast sockets mainAddress fresh,
    node.notifyInterfaceUp i =
      { node.setFt ft with
        socketAddresses := unicast
        socketSubnetBroadcastAddresses := broadcast
        openSockets := sockets
        mainAddress := mainAddress
        fresh := fresh } := by
  unfold notifyInterfaceUp
  simp only
  split
  · exact ⟨node.ft, _, _, _, _, _, rfl⟩
  · exact ⟨_, _, _, _, _, _, rfl⟩

theorem notifyInterfaceUp_dvt (i : Nat) : (node.notifyInterfaceUp i).dvt = node.dvt := by
  obtain ⟨_, _, _, _, _, _, frame⟩ := notifyInterfaceUp_frame node i
  rw [frame]
  rfl

theorem notifyInterfaceDown_ft {i : Nat} {dst : Ipv4Address} {entry : RoutingTableEntry}
    (present : (node.notifyInterfaceDown i).ft[dst]? = some entry) :
    node.ft[dst]? = some entry ∧ entry.iface ≠ node.getAddress (some i) := by
  unfold notifyInterfaceDown at present
  simp only at present
  split at present
  · change (∅ : EntryMap)[dst]? = some entry at present
    simp at present
  · change (EntryMap.deleteAllRoutesFromInterface node.ft (node.getAddress (some i)))[dst]? =
      some entry at present
    rw [EntryMap.deleteAllRoutesFromInterface, Std.TreeMap.getElem?_filter'] at present
    obtain ⟨old, other⟩ := Option.filter_eq_some_iff.mp present
    exact ⟨old, by simpa using other⟩

theorem notifyInterfaceDown_frame (node : Node) (i : Nat) : ∃ ft nb unicast broadcast sockets,
    node.notifyInterfaceDown i =
      { node.setFt ft with
        nb := nb
        socketAddresses := unicast
        socketSubnetBroadcastAddresses := broadcast
        openSockets := sockets } := by
  unfold notifyInterfaceDown
  simp only
  split
  · exact ⟨_, _, _, _, _, rfl⟩
  · exact ⟨_, node.nb, _, _, _, rfl⟩

theorem notifyInterfaceDown_dvt (i : Nat) : (node.notifyInterfaceDown i).dvt = node.dvt := by
  obtain ⟨_, _, _, _, _, frame⟩ := notifyInterfaceDown_frame node i
  rw [frame]
  rfl

theorem handle_unaddressed {socket : Socket} {sender : Ipv4Address} {message : Message}
    {hardware : Mac48Address} (unknown : node.receiver socket = none) :
    node.handle (.recv socket sender message hardware) = (node, []) := by
  simp only [handle, recvBsdv, unknown]

theorem handle_unconfirmed {socket : Socket} {sender : Ipv4Address} {header : HelloHeader}
    {hardware : Mac48Address} (improper : header.dst ≠ header.origin) :
    node.handle (.recv socket sender (.hello header) hardware) = (node, []) := by
  simp only [handle, recvBsdv]
  cases node.receiver socket with
  | none => rfl
  | some my => simp only [recvHello, if_neg improper]

theorem handle_cases (node : Node) {motive : Event → Prop}
    (ignored : ∀ socket sender message hardware, node.handle
      (.recv socket sender message hardware) = (node, []) → motive
        (.recv socket sender message hardware))
    (hello : ∀ socket sender header hardware my, node.receiver socket = some my →
      header.dst = header.origin → node.handle (.recv socket sender (.hello header) hardware) =
        node.processHello header my hardware → motive
          (.recv socket sender (.hello header) hardware))
    (update : ∀ socket sender header hardware my, node.receiver socket = some my →
      node.handle (.recv socket sender (.update header) hardware) =
        node.recvUpdate header my sender → motive (.recv socket sender (.update header) hardware))
    (purge : motive .purge) (txError : ∀ hardware, motive (.txError hardware))
    (interfaceUp : ∀ i, motive (.interfaceUp i)) (interfaceDown : ∀ i, motive (.interfaceDown i))
    (elapse : ∀ duration, motive (.elapse duration)) (event : Event) : motive event := by
  cases event with
  | recv socket sender message hardware =>
      cases received : node.receiver socket with
      | none => exact ignored _ _ _ _ (handle_unaddressed received)
      | some my =>
          cases message with
          | hello header =>
              by_cases proper : header.dst = header.origin
              · apply hello _ _ _ _ my received proper
                simp only [handle, recvBsdv, received, recvHello, if_pos proper]
              · exact ignored _ _ _ _ (handle_unconfirmed proper)
          | update header =>
              apply update _ _ _ _ my received
              simp only [handle, recvBsdv, received]
  | purge => exact purge
  | txError hardware => exact txError hardware
  | interfaceUp i => exact interfaceUp i
  | interfaceDown i => exact interfaceDown i
  | elapse duration => exact elapse duration

def tells (node : Node) : Event → Ipv4Address → Ipv4Address → Prop
  | .recv _ _ (.hello header) _ => node.helloTells header.origin
  | .recv _ _ (.update header) _ => fun ne dst => node.announces ne dst ∨ node.replies header ne dst
  | .purge | .txError _ => node.announces
  | .interfaceUp _ | .interfaceDown _ | .elapse _ => fun _ _ => False

end Node

namespace Contract

def Covers (contract : Contract) (node : Node) : Node.Event → Prop
  | .recv socket _ (.hello header) _ => ∀ my ∈ node.receiver socket, header.dst = header.origin →
      contract.Closed (node.heardNeighbors header.origin) ∧ contract.Admits node header.origin my
  | .recv socket sender (.update header) _ => ∀ my ∈ node.receiver socket,
      contract.Closed node.neighbors ∧
      (¬(sender ∈ node.neighbors ∧ (node.dvt[sender]?).isSome) →
        contract.stored sender header.dst (node.updateEntry header my sender))
  | .purge | .txError _ => contract.Closed node.neighbors
  | .interfaceUp i => (node.getAddress (some i)).localAddress ≠ loopback →
      contract.forwarding (node.getAddress (some i)).broadcast (node.broadcastEntry i)
  | .interfaceDown _ | .elapse _ => True

theorem Holds.handle {contract : Contract} {node : Node} (holds : contract.Holds node)
    (named : node.Named) (event : Node.Event) (covers : contract.Covers node event) :
    contract.Respects node (node.tells event) (node.handle event) := by
  cases event using Node.handle_cases node with
  | ignored socket sender message hardware same =>
      rw [same]
      exact ⟨holds, by simp⟩
  | hello socket sender header hardware my received proper same =>
      obtain ⟨closed, admits⟩ := covers my received proper
      rw [same]
      exact holds.processHello named header my hardware closed admits
  | update socket sender header hardware my received same =>
      obtain ⟨closed, new⟩ := covers my received
      rw [same]
      exact holds.recvUpdate header my sender closed new
  | purge => exact holds.purge covers
  | txError hardware =>
      have list : ({ node with nb := node.nb.closeMatching hardware } : Node).neighbors =
        node.neighbors :=
        Neighbors.addresses_closeMatching hardware node.nb
      have start : contract.Holds { node with nb := node.nb.closeMatching hardware } :=
        holds.congr rfl
      have purged := start.purge (by rwa [list])
      refine ⟨purged.holds, fun sent member => ?_⟩
      obtain ⟨ne, dst, entry, good, tells, same⟩ := purged.sends sent member
      exact ⟨ne, dst, entry, good, by rwa [Node.announces, list] at tells, same⟩
  | interfaceUp i =>
      refine ⟨⟨fun dst entry present => ?_, fun neighbor dst route => ?_, fun neighbor known => ?_⟩,
        by simp [Node.handle]⟩
      · rcases Node.notifyInterfaceUp_ft_cases present with old | ⟨real, rfl, rfl⟩
        · exact holds.forwarding dst entry old
        · exact covers real
      · simp only [Node.handle, Node.notifyInterfaceUp_dvt]
        exact holds.stored neighbor dst route
      · simp only [Node.handle, Node.notifyInterfaceUp_dvt]
        exact holds.known neighbor known
  | interfaceDown i =>
      refine ⟨⟨fun dst entry present => ?_, fun neighbor dst route => ?_, fun neighbor known => ?_⟩,
        by simp [Node.handle]⟩
      · exact holds.forwarding dst entry (Node.notifyInterfaceDown_ft present).1
      · simp only [Node.handle, Node.notifyInterfaceDown_dvt]
        exact holds.stored neighbor dst route
      · simp only [Node.handle, Node.notifyInterfaceDown_dvt]
        exact holds.known neighbor known
  | elapse duration => exact ⟨holds.congr rfl, by simp [Node.handle]⟩

end Contract

/-! ## Names and setup over runs -/

theorem naming_mono {names : Nat → Ipv4Address} {fresh later : Nat} {node : Node}
    (holds : (naming names fresh).Holds node) (le : fresh ≤ later) :
    (naming names later).Holds node := by
  refine ⟨fun dst entry present => ?_, fun neighbor dst route found => ?_, fun _ => False.elim⟩
  · obtain ⟨destination, old, named⟩ := holds.forwarding dst entry present
    exact ⟨destination, old.trans_le le, named⟩
  · obtain ⟨destination, through, old, named⟩ := holds.stored neighbor dst route found
    exact ⟨destination, through, old.trans_le le, named⟩

namespace Node
variable {node : Node}

/-- What only an interface coming up or going down changes at a node. -/
structure SameSetup (node after : Node) : Prop where
  enableHello : after.enableHello = node.enableHello
  helloInterval : after.helloInterval = node.helloInterval
  mainAddress : after.mainAddress = node.mainAddress
  interfaces : after.interfaces = node.interfaces
  socketAddresses : after.socketAddresses = node.socketAddresses
  socketSubnetBroadcastAddresses : after.socketSubnetBroadcastAddresses =
    node.socketSubnetBroadcastAddresses
  openSockets : after.openSockets = node.openSockets

theorem SameSetup.refl (node : Node) : node.SameSetup node := ⟨rfl, rfl, rfl, rfl, rfl, rfl, rfl⟩

theorem SameSetup.sendUpdate {after : Node} (same : node.SameSetup after)
    (entry : RoutingTableEntry) (ne : Ipv4Address) :
    after.sendUpdate entry ne = node.sendUpdate entry ne := by
  unfold Node.sendUpdate findSocketWithInterfaceAddress
  rw [same.socketAddresses]

theorem exchangeHello_frame (node : Node) (origin receiver : Ipv4Address) :
    ∃ table fresh, (node.exchangeHello origin receiver).1 =
      { node with routingTable := table, fresh := fresh } := by
  rw [exchangeHello_eq]
  cases found : node.dvt.entry origin origin with
  | none =>
      obtain ⟨table, frame⟩ := joined_frame node origin receiver
      rw [frame]
      exact ⟨_, _, rfl⟩
  | some toNeighbor =>
      rw [ensureRow_of_entry found]
      exact ⟨_, node.fresh, rfl⟩

theorem processHello_frame (node : Node) (header : HelloHeader) (receiver : Ipv4Address)
    (hardware : Mac48Address) :
    ∃ table nb fresh, (node.processHello header receiver hardware).1 =
      { node with routingTable := table, nb := nb, fresh := fresh } ∧
      ∀ ne ∈ nb.addresses, ne ∈ node.heardNeighbors header.origin := by
  unfold processHello heardNeighbors
  by_cases enabled : node.enableHello
  · simp only [if_pos enabled]
    obtain ⟨table, nb, frame, listed⟩ :=
      updateNeighbors_frame node header.origin node.helloInterval hardware
    obtain ⟨after, fresh, exchanged⟩ :=
      exchangeHello_frame { node with routingTable := table, nb := nb } header.origin receiver
    rw [frame, exchanged]
    exact ⟨after, nb, fresh, rfl, listed⟩
  · simp only [if_neg enabled]
    obtain ⟨after, fresh, exchanged⟩ := exchangeHello_frame node header.origin receiver
    exact ⟨after, node.nb, fresh, exchanged, fun _ => id⟩

def SendsOwn (node : Node) (result : Node × List Sent) : Prop :=
  ∀ sent ∈ result.2, ∃ (ne dst : Ipv4Address) (entry : RoutingTableEntry),
    result.1.ft[dst]? = some entry ∧ sent = node.sendUpdate entry ne

theorem exchangeHello_sendsOwn (origin receiver : Ipv4Address) :
    node.SendsOwn (node.exchangeHello origin receiver) := by
  intro sent member
  rw [exchangeHello_eq] at member ⊢
  cases found : node.dvt.entry origin origin with
  | none =>
      rw [found] at member
      obtain ⟨table, frame⟩ := joined_frame node origin receiver
      obtain ⟨dst, entry, present, _, _, _, _, rfl⟩ := mem_sendTriggeredUpdateToNeighbor.mp member
      exact ⟨origin, dst, entry, present, by rw [frame]; rfl⟩
  | some toNeighbor =>
      rw [found] at member
      cases member

theorem recvUpdate_sendsOwn (header : UpdateHeader) (my src : Ipv4Address) :
    node.SendsOwn (node.recvUpdate header my src) := by
  intro sent member
  obtain ⟨prqueue, frame, _⟩ := recvUpdate_frame node header my src
  rw [frame]
  rcases recvUpdate_sends member with change | ⟨_, reply⟩
  · obtain ⟨ne, dst, entry, _, _, _, present, _, rfl⟩ :=
      mem_sendTriggeredUpdateChangesToNeighbors.mp change
    exact ⟨ne, dst, entry, present, rfl⟩
  · obtain ⟨ne, dst, route, present, _, _, _, _, _, rfl⟩ := retransmitToNeighbor_mem reply
    exact ⟨ne, dst, route, present, rfl⟩

theorem exchangeHello_ft_isSome (named : node.Named) (origin receiver : Ipv4Address)
    {dst : Ipv4Address} (present : (node.ft[dst]?).isSome) :
    ((node.exchangeHello origin receiver).1.ft[dst]?).isSome := by
  rw [exchangeHello_eq]
  cases found : node.dvt.entry origin origin with
  | none => exact recompute_ft_isSome _ (by rwa [joined_ft])
  | some toNeighbor =>
      simp only [ensureRow_of_entry found, refreshNeighbor_ft named found, Option.isSome_map]
      exact present

theorem recvUpdate_ft_isSome (header : UpdateHeader) (my src : Ipv4Address) {dst : Ipv4Address}
    (present : (node.ft[dst]?).isSome) : ((node.recvUpdate header my src).1.ft[dst]?).isSome := by
  obtain ⟨prqueue, frame, _⟩ := recvUpdate_frame node header my src
  rw [frame]
  exact recompute_ft_isSome (node.learned header my src) present

theorem purgeNeighbors_of_lost (alive : node.lost = []) : node.purgeNeighbors = (node, []) := by
  have none : node.nb.filter (·.closed node.now) = [] := List.map_eq_nil_iff.mp alive
  have all : node.nb.filter (fun neighbor => !neighbor.closed node.now) = node.nb := by
    rw [List.filter_eq_self]
    intro neighbor member
    simpa using List.filter_eq_nil_iff.mp none neighbor member
  simp only [purgeNeighbors, alive, handleLinkFailures, dropClosed, all]

def setNb (node : Node) (nb : Neighbors) : Node := { node with nb := nb }

/-- Where no neighbour is dropped, a HELLO puts its origin into the list and then goes on to the
tables. -/
theorem processHello_of_lost (enabled : node.enableHello = true) (header : HelloHeader)
    (receiver : Ipv4Address) (hardware : Mac48Address)
    (alive : header.origin ∈ node.neighbors ∨ node.lost = []) :
    ∃ nb : Neighbors, nb.addresses = node.neighborsWith header.origin ∧
      node.processHello header receiver hardware =
        (node.setNb nb).exchangeHello header.origin receiver := by
  simp only [processHello, if_pos enabled]
  by_cases present : header.origin ∈ node.neighbors
  · refine ⟨node.nb.extend node.now header.origin node.helloInterval hardware, ?_, ?_⟩
    · rw [Neighbors.addresses_extend, neighborsWith, if_pos present]
    · simp only [updateNeighbors, if_pos present, List.nil_append]
      rfl
  · set entry : Neighbor := ⟨header.origin, hardware, node.helloInterval + node.now, false⟩
    refine ⟨node.nb ++ [entry], ?_, ?_⟩
    · rw [Neighbors.addresses_append, neighborsWith, if_neg present]
      rfl
    · have opened : entry.closed node.now = false := by simp [Neighbor.closed, entry]
      have still : ({ node with nb := node.nb ++ [entry] } : Node).lost = [] := by
        have none : node.nb.filter (·.closed node.now) = [] :=
          List.map_eq_nil_iff.mp (alive.resolve_left present)
        simp [lost, none, opened]
      have purged := purgeNeighbors_of_lost still
      simp only [updateNeighbors, if_neg present]
      rw [show node.nb ++ [⟨header.origin, hardware, node.helloInterval + node.now, false⟩] =
        node.nb ++ [entry]
        from rfl, purged]
      simp only [List.nil_append]
      rfl

theorem handle_setup (event : Event) (up : ∀ i, event ≠ .interfaceUp i)
    (down : ∀ i, event ≠ .interfaceDown i) :
    node.SameSetup (node.handle event).1 := by
  cases event using handle_cases node with
  | ignored socket sender message hardware same =>
      rw [same]
      exact .refl node
  | hello socket sender header hardware my received proper same =>
      obtain ⟨table, nb, fresh, frame, _⟩ := processHello_frame node header my hardware
      rw [same, frame]
      exact ⟨rfl, rfl, rfl, rfl, rfl, rfl, rfl⟩
  | update socket sender header hardware my received same =>
      obtain ⟨prqueue, frame, _⟩ := recvUpdate_frame node header my sender
      rw [same, frame]
      exact ⟨rfl, rfl, rfl, rfl, rfl, rfl, rfl⟩
  | purge =>
      obtain ⟨table, frame⟩ := purgeNeighbors_frame node
      simp only [handle, frame]
      exact ⟨rfl, rfl, rfl, rfl, rfl, rfl, rfl⟩
  | txError hardware =>
      obtain ⟨table, frame⟩ :=
        purgeNeighbors_frame { node with nb := node.nb.closeMatching hardware }
      simp only [handle, frame]
      exact ⟨rfl, rfl, rfl, rfl, rfl, rfl, rfl⟩
  | interfaceUp i => exact absurd rfl (up i)
  | interfaceDown i => exact absurd rfl (down i)
  | elapse duration => exact ⟨rfl, rfl, rfl, rfl, rfl, rfl, rfl⟩

theorem Named.notifyInterfaceUp (named : node.Named) (i : Nat) :
    (node.notifyInterfaceUp i).Named := by
  by_cases lo : (node.getAddress (some i)).localAddress = loopback
  · simpa [Node.notifyInterfaceUp, lo] using named
  · obtain ⟨names, holds⟩ := named
    have extended := naming_extend (naming_mono holds (show node.fresh ≤ node.fresh + 2 by omega))
      (node.getAddress (some i)).broadcast
    have fresh : (node.notifyInterfaceUp i).fresh = node.fresh + 3 := by
      simp [Node.notifyInterfaceUp, lo]
    refine ⟨Function.update names (node.fresh + 2) (node.getAddress (some i)).broadcast, ?_⟩
    rw [fresh]
    refine ⟨fun dst entry present => ?_, fun neighbor dst route => ?_, fun _ => False.elim⟩
    · rcases notifyInterfaceUp_ft_cases present with old | ⟨_, rfl, rfl⟩
      · exact extended.forwarding dst entry old
      · exact ⟨rfl, Nat.lt_succ_self _, Function.update_self _ _ _⟩
    · rw [notifyInterfaceUp_dvt]
      exact extended.stored neighbor dst route

theorem Named.purgeNeighbors (named : node.Named) : node.purgeNeighbors.1.Named := by
  obtain ⟨names, holds⟩ := named
  obtain ⟨table, frame⟩ := purgeNeighbors_frame node
  have fresh : node.purgeNeighbors.1.fresh = node.fresh := by simp only [frame, dropClosed]
  exact ⟨names, fresh ▸ (holds.purge (naming_closed _ _ _)).holds⟩

theorem Named.handle (named : node.Named) (event : Event) : (node.handle event).1.Named := by
  cases event using handle_cases node with
  | ignored socket sender message hardware same => rwa [same]
  | hello socket sender header hardware my received proper same =>
      rw [same]
      exact named.processHello header my hardware
  | update socket sender header hardware my received same =>
      rw [same]
      exact named.recvUpdate header my sender
  | purge => exact named.purgeNeighbors
  | txError hardware =>
      have closed : ({ node with nb := node.nb.closeMatching hardware } : Node).Named :=
        named.congr rfl rfl
      exact closed.purgeNeighbors
  | interfaceUp i => exact named.notifyInterfaceUp i
  | interfaceDown i =>
      obtain ⟨names, holds⟩ := named
      have down := (holds.handle ⟨names, holds⟩ (.interfaceDown i) trivial).holds
      have fresh : (node.notifyInterfaceDown i).fresh = node.fresh := by
        obtain ⟨_, _, _, _, _, frame⟩ := notifyInterfaceDown_frame node i
        rw [frame]
        rfl
      exact ⟨names, fresh ▸ down⟩
  | elapse duration => exact named.congr rfl rfl

section Initial
variable (interfaces : List Ipv4InterfaceAddress) (enableHello : Bool) (helloInterval : Time)
  (maxPRQueueLen : BitVec 32) (maxPRQueueTime : Time)

def loopbackEntry : RoutingTableEntry := .make 1 (some 0) loopback .loopback 1 loopback

theorem initial_ft (dst : Ipv4Address) :
    (initial interfaces enableHello helloInterval maxPRQueueLen maxPRQueueTime).ft[dst]? =
      if dst = loopback then some loopbackEntry else none := by
  show (EntryMap.addRoute ∅ loopbackEntry : EntryMap)[dst]? = _
  rw [EntryMap.addRoute, getElem?_insertIfNew]
  split
  · rename_i here
    rw [if_pos (show dst = loopback from here)]
    simp
  · rename_i other
    rw [if_neg (show dst ≠ loopback from other)]
    simp

theorem initial_ft_eq_some {dst : Ipv4Address} {entry : RoutingTableEntry}
    (present : (initial interfaces enableHello helloInterval maxPRQueueLen maxPRQueueTime).ft[dst]? = some entry) :
    dst = loopback ∧ entry = loopbackEntry := by
  rw [initial_ft] at present
  split at present
  · rename_i here
    exact ⟨here, (Option.some.inj present).symm⟩
  · cases present

theorem initial_dvt :
    (initial interfaces enableHello helloInterval maxPRQueueLen maxPRQueueTime).dvt = ∅ := rfl

theorem initial_named :
    (initial interfaces enableHello helloInterval maxPRQueueLen maxPRQueueTime).Named := by
  refine ⟨fun _ => loopback, ⟨fun dst entry present => ?_, fun neighbor dst route found => ?_,
    fun _ => False.elim⟩⟩
  · obtain ⟨rfl, rfl⟩ := initial_ft_eq_some _ _ _ _ _ present
    exact ⟨rfl, Nat.one_lt_two, rfl⟩
  · simp [initial_dvt, DistanceVectorTable.entry] at found

end Initial

theorem next_eq_some {event : Event} {after : Node} (taken : node.next event = some after) :
    node.Enabled event ∧ after = (node.handle event).1 :=
  (guarded_eq_some Enabled (fun node event => (node.handle event).1) taken).imp_right Eq.symm

theorem reach_named {ok : Node → Event → Prop} {start state : Node} (initial : start.Named)
    (reach : Reach next ok start state) : state.Named := by
  refine reach.invariant initial fun before event after named _ taken => ?_
  obtain ⟨_, rfl⟩ := next_eq_some taken
  exact named.handle event

end Node

end Bsdvr
