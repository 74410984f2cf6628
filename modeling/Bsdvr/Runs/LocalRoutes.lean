import Bsdvr.Runs.Sockets

namespace Bsdvr
open Foundation

namespace Node
variable {node : Node} {event : Event}

/-! ## Destinations stay -/

theorem handleLinkFailures_ft_isSome (failed : List Ipv4Address) {dst : Ipv4Address}
    (present : (node.ft[dst]?).isSome) :
    ((node.handleLinkFailures failed).1.ft[dst]?).isSome := by
  induction failed generalizing node with
  | nil => exact present
  | cons ne rest ih => exact ih (sendUpdateOnLinkFailure_ft_isSome node ne present)

theorem purgeNeighbors_ft_isSome {dst : Ipv4Address} (present : (node.ft[dst]?).isSome) :
    (node.purgeNeighbors.1.ft[dst]?).isSome := handleLinkFailures_ft_isSome node.lost present

theorem processHello_ft_isSome (named : node.Named) (header : HelloHeader) (receiver : Ipv4Address)
    (hardware : Mac48Address) {dst : Ipv4Address} (present : (node.ft[dst]?).isSome) :
    ((node.processHello header receiver hardware).1.ft[dst]?).isSome := by
  unfold processHello
  split
  · apply exchangeHello_ft_isSome (named.updateNeighbors _ _ _)
    unfold updateNeighbors
    split
    · exact present
    · exact purgeNeighbors_ft_isSome present
  · exact exchangeHello_ft_isSome named _ _ present

theorem handle_ft_isSome (named : node.Named) (down : ∀ i, event ≠ .interfaceDown i) {dst : Ipv4Address}
    (present : (node.ft[dst]?).isSome) : ((node.handle event).1.ft[dst]?).isSome := by
  cases event using handle_cases node with
  | ignored socket sender message hardware same => rwa [same]
  | hello socket sender header hardware my received proper same =>
      rw [same]
      exact processHello_ft_isSome named header my hardware present
  | update socket sender header hardware my received same =>
      rw [same]
      exact recvUpdate_ft_isSome header my sender present
  | purge => exact purgeNeighbors_ft_isSome present
  | txError hardware => exact @purgeNeighbors_ft_isSome { node with nb := node.nb.closeMatching hardware } _ present
  | interfaceUp i =>
      simp only [handle, notifyInterfaceUp_ft]
      split
      · exact present
      · split
        · rfl
        · exact present
  | interfaceDown i => exact absurd rfl (down i)
  | elapse duration => exact present

/-! ## Local routes -/

def OwnRoute (node : Node) (dst : Ipv4Address) : Prop :=
  dst = loopback ∨ ∃ entry ∈ node.socketAddresses, dst = entry.2.broadcast

instance (node : Node) (dst : Ipv4Address) : Decidable (node.OwnRoute dst) :=
  inferInstanceAs (Decidable (_ ∨ ∃ entry ∈ node.socketAddresses, _))

/-- The loopback entry and the broadcast entries of the interfaces that are up are as they were
added. -/
structure LocalRoutes (node : Node) : Prop where
  loopback : node.ft[Bsdvr.loopback]? = some loopbackEntry
  broadcast : ∀ entry ∈ node.socketAddresses, ∃ ref, node.ft[entry.2.broadcast]? =
    some (.make ref (node.getInterfaceForAddress entry.2.localAddress)
      entry.2.broadcast entry.2 1 entry.2.broadcast)

def rowsOf (node : Node) (neighbors : List Ipv4Address) : List (Ipv4Address × RoutingTableEntry) :=
  neighbors.flatMap fun neighbor => (node.row neighbor).toList

theorem mem_rowsOf {neighbors : List Ipv4Address} {neighbor dst : Ipv4Address}
    {route : RoutingTableEntry} (listed : neighbor ∈ neighbors)
    (found : node.dvt.entry neighbor dst = some route) :
    (dst, route) ∈ node.rowsOf neighbors :=
  List.mem_flatMap.mpr ⟨neighbor, listed, mem_row.mpr found⟩

/-- No route to a destination of its own comes to the node from those in whose rows it looks, an
interface comes up only where there is no entry for its broadcast address, and the last interface
stays up. -/
def SparesLocal (node : Node) : Event → Prop
  | .recv _ _ (.hello header) _ => ¬node.OwnRoute header.origin ∧
      ∀ pair ∈ node.rowsOf (node.heardNeighbors header.origin), ¬node.OwnRoute pair.1
  | .recv _ sender (.update header) _ =>
      (sender ∈ node.neighbors ∧ ¬(node.dvt[sender]?).isSome → ¬node.OwnRoute header.dst) ∧
        ∀ pair ∈ node.rowsOf node.neighbors, ¬node.OwnRoute pair.1
  | .purge | .txError _ => ∀ pair ∈ node.rowsOf node.neighbors, ¬node.OwnRoute pair.1
  | .interfaceUp i => (node.getAddress (some i)).localAddress ≠ Bsdvr.loopback →
      node.ft[(node.getAddress (some i)).broadcast]? = none
  | .interfaceDown i => ∃ entry ∈ node.socketAddresses, entry.2 ≠ node.getAddress (some i)
  | .elapse _ => True

instance (node : Node) (event : Event) : Decidable (node.SparesLocal event) :=
  match event with
  | .recv _ _ (.hello header) _ =>
      inferInstanceAs (Decidable (_ ∧ ∀ pair ∈ node.rowsOf (node.heardNeighbors header.origin), ¬_))
  | .recv _ _ (.update _) _ => inferInstanceAs (Decidable ((_ → _) ∧
      ∀ pair ∈ node.rowsOf node.neighbors, ¬_))
  | .purge | .txError _ => inferInstanceAs (Decidable (∀ pair ∈ node.rowsOf node.neighbors, ¬_))
  | .interfaceUp _ => inferInstanceAs (Decidable (_ → _ = _))
  | .interfaceDown _ => inferInstanceAs (Decidable (∃ entry ∈ node.socketAddresses, _))
  | .elapse _ => instDecidableTrue

theorem LocalRoutes.nextHop (routes : node.LocalRoutes) {dst : Ipv4Address}
    (own : node.OwnRoute dst) :
    ∃ entry, node.ft[dst]? = some entry ∧ entry.nextHop = dst := by
  rcases own with rfl | ⟨entry, member, rfl⟩
  · exact ⟨_, routes.loopback, rfl⟩
  · obtain ⟨ref, present⟩ := routes.broadcast entry member
    exact ⟨_, present, rfl⟩

def spares (names : Nat → Ipv4Address) (fresh : Nat) (node : Node)
    (neighbors : List Ipv4Address) : Contract where
  forwarding dst entry := (naming names fresh).forwarding dst entry ∧
    (node.OwnRoute dst → node.ft[dst]? = some entry)
  stored neighbor dst route := (naming names fresh).stored neighbor dst route ∧
    (neighbor ∈ neighbors → ¬node.OwnRoute dst)
  known _ := False

section Spares
variable {names : Nat → Ipv4Address} {fresh : Nat} {neighbors : List Ipv4Address}

theorem spares_closed : (spares names fresh node neighbors).Closed neighbors where
  adopt := by
    rintro neighbor listed dst route ⟨named, remote⟩
    exact ⟨(naming_closed names fresh neighbors).adopt neighbor listed dst route named,
      fun own => absurd own (remote listed)⟩
  refresh := by
    rintro dst entry route ⟨good, _⟩ ⟨named, _⟩ ⟨neighbor, listed, other, there, remote⟩
    exact ⟨(naming_closed names fresh neighbors).refresh dst entry route good named ⟨neighbor,
      listed, other, there⟩, fun own => absurd own (remote listed)⟩
  retire := by
    rintro dst entry ⟨good, _⟩ _ ⟨neighbor, listed, _, _, remote⟩
    exact ⟨good, fun own => absurd own (remote listed)⟩

theorem spares_admits (routes : node.LocalRoutes) {origin receiver : Ipv4Address}
    (remote : ¬node.OwnRoute origin)
    (join : (naming names fresh).stored origin origin (node.helloEntry origin receiver)) :
    (spares names fresh node neighbors).Admits node origin receiver where
  heard := by
    rintro toNeighbor ⟨named, good⟩
    exact ⟨(naming_rewrites node origin receiver).heard toNeighbor named, good⟩
  forwarding := by
    rintro toNeighbor ⟨named, _⟩ dst entry ⟨good, same⟩
    refine ⟨(naming_rewrites node origin receiver).forwarding toNeighbor named dst entry good,
      fun own => ?_⟩
    have other : entry.route.ref ≠ toNeighbor.route.ref := by
      intro shared
      obtain ⟨known, present, next⟩ := routes.nextHop own
      obtain rfl := Option.some.inj ((same own).symm.trans present)
      have through : entry.nextHop = origin := by
        rw [← good.2.2, shared]
        exact named.2.2.2
      exact remote (through ▸ next ▸ own)
    rw [rewritten, if_neg other]
    exact same own
  stored := by
    rintro toNeighbor ⟨named, _⟩ neighbor dst entry ⟨good, away⟩
    exact ⟨(naming_rewrites node origin receiver).stored toNeighbor named neighbor dst entry good,
      away⟩
  join := ⟨join, fun _ => remote⟩

theorem spares_holds (named : (naming names fresh).Holds node)
    (remote : ∀ pair ∈ node.rowsOf neighbors, ¬node.OwnRoute pair.1) :
    (spares names fresh node neighbors).Holds node where
  forwarding dst entry present := ⟨named.forwarding dst entry present, fun _ => present⟩
  stored neighbor dst route found := ⟨named.stored neighbor dst route found,
    fun listed => remote _ (mem_rowsOf listed found)⟩
  known _ := False.elim

end Spares

theorem LocalRoutes.kept (routes : node.LocalRoutes) (named : node.Named)
    (spares : node.SparesLocal event) (up : ∀ i, event ≠ .interfaceUp i)
    (down : ∀ i, event ≠ .interfaceDown i) {dst : Ipv4Address} (own : node.OwnRoute dst) :
    (node.handle event).1.ft[dst]? = node.ft[dst]? := by
  obtain ⟨old, present, _⟩ := routes.nextHop own
  obtain ⟨entry, after⟩ := Option.isSome_iff_exists.mp
    (handle_ft_isSome named down (by rw [present]; rfl))
  rw [after]
  suffices known : node.OwnRoute dst → node.ft[dst]? = some entry from (known own).symm
  obtain ⟨names, holds⟩ := named
  cases event with
  | recv socket sender message hardware =>
      cases message with
      | hello header =>
          have extended := naming_extend holds header.origin
          refine (((spares_holds extended spares.2).handle ⟨names,
            holds⟩ (.recv socket sender (.hello header) hardware)
            fun my _ _ => ⟨spares_closed,
              spares_admits routes spares.1 ⟨rfl, rfl, Nat.lt_succ_self _, ?_⟩⟩).holds.forwarding
              dst entry after).2
          exact Function.update_self _ _ _
      | update header =>
          have extended := naming_extend holds sender
          refine (((spares_holds extended spares.2).handle ⟨names,
            holds⟩ (.recv socket sender (.update header) hardware)
            fun my _ => ⟨spares_closed, fun stranger => ⟨⟨rfl, rfl, Nat.lt_succ_self _, ?_⟩,
              fun listed => ?_⟩⟩).holds.forwarding
              dst entry after).2
          · exact Function.update_self _ _ _
          · exact spares.1 ⟨listed, fun row => stranger ⟨listed, row⟩⟩
  | purge => exact (((spares_holds holds spares).handle ⟨names,
      holds⟩ .purge spares_closed).holds.forwarding dst entry after).2
  | txError hardware =>
      exact (((spares_holds holds spares).handle ⟨names,
        holds⟩ (.txError hardware) spares_closed).holds.forwarding
        dst entry after).2
  | interfaceUp i => exact absurd rfl (up i)
  | interfaceDown i => exact absurd rfl (down i)
  | elapse duration => exact fun _ => after

structure Wired (node : Node) : Prop where
  distinct : (node.socketAddresses.map Prod.snd).Nodup
  real : ∀ entry ∈ node.socketAddresses, entry.2.localAddress ≠ Bsdvr.loopback

theorem LocalRoutes.congr {after : Node} (routes : node.LocalRoutes) (same : node.SameSetup after)
    (ft : ∀ dst, node.OwnRoute dst → after.ft[dst]? = node.ft[dst]?) : after.LocalRoutes where
  loopback := (ft _ (.inl rfl)).trans routes.loopback
  broadcast entry member := by
    rw [same.socketAddresses] at member
    obtain ⟨ref, present⟩ := routes.broadcast entry member
    rw [ft _ (.inr ⟨entry, member, rfl⟩), getInterfaceForAddress, same.interfaces]
    exact ⟨ref, present⟩

theorem Wired.interfaceUp (wired : node.Wired) {i : Nat} (enabled : node.Enabled (.interfaceUp i)) :
    (node.notifyInterfaceUp i).Wired := by
  by_cases lo : (node.getAddress (some i)).localAddress = Bsdvr.loopback
  · have same := (notifyInterfaceUp_sockets node i).2
    rw [if_pos lo] at same
    exact ⟨by rw [same]; exact wired.distinct, by rw [same]; exact wired.real⟩
  · have same := (notifyInterfaceUp_sockets node i).2
    rw [if_neg lo] at same
    obtain ⟨bound, down⟩ := enabled
    constructor
    · rw [same, List.map_append, List.map_singleton, ← List.concat_eq_append]
      refine List.Nodup.concat (fun before => down ?_) wired.distinct
      obtain ⟨entry, member, equal⟩ := List.mem_map.mp before
      refine ⟨node.interfaces[i], List.getElem?_eq_getElem bound, entry, member, ?_⟩
      rw [equal, getAddress, Option.bind_some, List.getElem?_eq_getElem bound]
      rfl
    · intro entry member
      rw [same] at member
      rcases List.mem_append.mp member with old | new
      · exact wired.real entry old
      · rw [List.mem_singleton] at new
        subst new
        exact lo

theorem LocalRoutes.interfaceUp (routes : node.LocalRoutes) {i : Nat}
    (spares : node.SparesLocal (.interfaceUp i)) :
    (node.notifyInterfaceUp i).LocalRoutes := by
  by_cases lo : (node.getAddress (some i)).localAddress = Bsdvr.loopback
  · simpa [notifyInterfaceUp, lo] using routes
  · have absent := spares lo
    obtain ⟨interfaces, sockets⟩ := notifyInterfaceUp_sockets node i
    rw [if_neg lo] at sockets
    have kept {dst : Ipv4Address} {entry : RoutingTableEntry}
        (present : node.ft[dst]? = some entry) :
        (node.notifyInterfaceUp i).ft[dst]? = some entry := by
      rw [notifyInterfaceUp_ft, if_neg lo, if_neg]
      · exact present
      · rintro rfl
        rw [absent] at present
        cases present
    refine ⟨kept routes.loopback, fun entry member => ?_⟩
    rw [getInterfaceForAddress, interfaces]
    rw [sockets] at member
    rcases List.mem_append.mp member with old | new
    · obtain ⟨ref, present⟩ := routes.broadcast entry old
      exact ⟨ref, kept present⟩
    · rw [List.mem_singleton] at new
      subst new
      refine ⟨node.fresh + 2, ?_⟩
      rw [notifyInterfaceUp_ft, if_neg lo, if_pos rfl, absent]
      rfl

theorem notifyInterfaceDown_mem (wired : node.Wired) {i : Nat}
    {entry : Socket × Ipv4InterfaceAddress}
    (member : entry ∈ (node.notifyInterfaceDown i).socketAddresses) :
    entry ∈ node.socketAddresses ∧ entry.2 ≠ node.getAddress (some i) := by
  rw [(notifyInterfaceDown_sockets node i).2] at member
  obtain ⟨old, stays⟩ := List.mem_filter.mp member
  refine ⟨old, fun on => ?_⟩
  have found : (node.socketAddresses.find? (·.2 = node.getAddress (some i))).isSome := by
    rw [List.find?_isSome]
    exact ⟨entry, old, by simpa using on⟩
  obtain ⟨closed, chosen⟩ := Option.isSome_iff_exists.mp found
  have on' : closed.2 = node.getAddress (some i) := by simpa using List.find?_some chosen
  have same : entry = closed :=
    List.inj_on_of_nodup_map wired.distinct old (List.mem_of_find?_eq_some chosen)
    (on.trans on'.symm)
  rw [findSocketWithInterfaceAddress, chosen, same] at stays
  simp at stays

theorem Wired.interfaceDown (wired : node.Wired) (i : Nat) :
    (node.notifyInterfaceDown i).Wired := by
  constructor
  · rw [(notifyInterfaceDown_sockets node i).2]
    exact wired.distinct.sublist (List.filter_sublist.map _)
  · exact fun entry member => wired.real entry (notifyInterfaceDown_mem wired member).1

theorem LocalRoutes.interfaceDown (routes : node.LocalRoutes) (wired : node.Wired)
    (names : node.SocketsNamed) {i : Nat} (enabled : node.Enabled (.interfaceDown i))
    (spares : node.SparesLocal (.interfaceDown i)) :
    (node.notifyInterfaceDown i).LocalRoutes := by
  obtain ⟨interfaces, sockets⟩ := notifyInterfaceDown_sockets node i
  obtain ⟨stays, member, other⟩ := spares
  have open_ : (node.notifyInterfaceDown i).hasSocket stays.2 :=
    hasSocket_down names other (hasSocket_iff.mpr ⟨stays, member, rfl⟩)
  obtain ⟨_, remains, _⟩ := hasSocket_iff.mp open_
  have kept {dst : Ipv4Address} {entry : RoutingTableEntry} (present : node.ft[dst]? = some entry)
      (elsewhere : entry.iface ≠ node.getAddress (some i)) :
      (node.notifyInterfaceDown i).ft[dst]? = some entry := by
    rw [sockets] at remains
    have some_ : (closeSocket (node.findSocketWithInterfaceAddress (node.getAddress (some i)))
        node.socketAddresses).isEmpty = false := by
      rw [List.isEmpty_eq_false_iff]
      exact List.ne_nil_of_mem remains
    have table : (node.notifyInterfaceDown i).ft = node.ft.deleteAllRoutesFromInterface
        (node.getAddress (some i)) := by
      unfold notifyInterfaceDown
      simp only [some_]
      rfl
    rw [table, EntryMap.deleteAllRoutesFromInterface, Std.TreeMap.getElem?_filter', present]
    simp [elsewhere]
  refine ⟨kept routes.loopback fun same => ?_, fun entry there => ?_⟩
  · obtain ⟨iface, at_, pair, up, rfl⟩ := enabled
    apply wired.real pair up
    have on : node.getAddress (some i) = pair.2 := by
      rw [getAddress, Option.bind_some, Option.mem_def.mp at_]
      rfl
    rw [← on, ← same]
    rfl
  · obtain ⟨old, elsewhere⟩ := notifyInterfaceDown_mem wired there
    obtain ⟨ref, present⟩ := routes.broadcast entry old
    rw [getInterfaceForAddress, interfaces]
    exact ⟨ref, kept present elsewhere⟩

section Run
variable {interfaces : List Ipv4InterfaceAddress} {enableHello : Bool} {helloInterval : Time}
  {maxPRQueueLen : BitVec 32} {maxPRQueueTime : Time} {state : Node}

/-- In a run that spares them, the node's own routes stay as they were added. -/
theorem localRoutes_of_sparesLocal
    (reach : Reach next SparesLocal (initial interfaces enableHello helloInterval maxPRQueueLen maxPRQueueTime) state) :
    state.LocalRoutes := by
  have start : (initial interfaces enableHello helloInterval maxPRQueueLen
      maxPRQueueTime).LocalRoutes :=
    ⟨by rw [initial_ft, if_pos rfl], fun _ member => by cases member⟩
  have all : state.Named ∧ state.SocketsNamed ∧ state.Wired ∧ state.LocalRoutes := by
    refine reach.invariant (P := fun state => state.Named ∧ state.SocketsNamed ∧ state.Wired ∧
      state.LocalRoutes)
      ⟨initial_named _ _ _ _ _, initial_socketsNamed,
        ⟨List.nodup_nil, fun _ member => by cases member⟩, start⟩ ?_
    rintro before event after ⟨named, sockets, wired, routes⟩ spares taken
    obtain ⟨enabled, rfl⟩ := next_eq_some taken
    refine ⟨named.handle event, sockets.handle event, ?_⟩
    by_cases up : ∃ i, event = .interfaceUp i
    · obtain ⟨i, rfl⟩ := up
      exact ⟨wired.interfaceUp enabled, routes.interfaceUp spares⟩
    · by_cases down : ∃ i, event = .interfaceDown i
      · obtain ⟨i, rfl⟩ := down
        exact ⟨wired.interfaceDown i, routes.interfaceDown wired sockets enabled spares⟩
      · have up (i : Nat) : event ≠ .interfaceUp i := fun same => up ⟨i, same⟩
        have down (i : Nat) : event ≠ .interfaceDown i := fun same => down ⟨i, same⟩
        have same := @handle_setup before event up down
        refine ⟨⟨?_, ?_⟩, routes.congr same fun dst own => routes.kept named spares up down own⟩
        · rw [same.socketAddresses]
          exact wired.distinct
        · rw [same.socketAddresses]
          exact wired.real
  exact all.2.2.2

end Run

theorem localRoutes_of_sparesLocal_twoInterfaces :
    ∃ state, Reach next SparesLocal twoInterfaces state ∧
    state.neighbors = [0x0a010202#32] ∧ state.isUp 1 ∧ state.LocalRoutes := by
  obtain ⟨state, reach, checked⟩ := exists_reach_of_follow next SparesLocal twoInterfaces
    [.interfaceUp 1, .interfaceUp 2, hello1 0x0a010202#32, .interfaceDown 2]
    (fun state => decide (state.neighbors = [0x0a010202#32]) && decide (state.isUp 1))
    (by decide +kernel)
  simp only [Bool.and_eq_true, decide_eq_true_eq] at checked
  exact ⟨state, reach, checked.1, checked.2, localRoutes_of_sparesLocal reach⟩

theorem not_localRoutes_twoInterfaces : ∃ state, Reach next (fun _ _ => True) twoInterfaces state ∧
    state.isUp 1 ∧ ¬state.LocalRoutes := by
  -- the node 10.1.2.2 tells of the subnet broadcast address before its own HELLO comes: the entry
  -- for it is then refreshed from the row of the broadcast address, which is missing, and becomes
  -- inactive
  obtain ⟨state, reach, checked⟩ := exists_reach_of_follow next (fun _ _ => True) twoInterfaces
    [.interfaceUp 1, update1 ⟨0x0a010202#32, 0x0a0102ff#32, 1, 1⟩, hello1 0x0a010202#32]
    (fun state => decide (state.isUp 1) && decide (∃ entry ∈
      state.socketAddresses, entry.2.broadcast = 0x0a0102ff#32) &&
      (state.ft[0x0a0102ff#32]?).any fun entry => entry.state = .inactive) (by decide +kernel)
  simp only [Bool.and_eq_true, decide_eq_true_eq, Option.any_eq_true] at checked
  obtain ⟨⟨up, pair, member, broadcast⟩, entry, present, failed⟩ := checked
  refine ⟨state, reach, up, fun routes => ?_⟩
  obtain ⟨ref, there⟩ := routes.broadcast pair member
  rw [broadcast, present, Option.some.injEq] at there
  rw [there] at failed
  cases failed

end Node

end Bsdvr
