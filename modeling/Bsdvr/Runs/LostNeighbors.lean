import Bsdvr.Proof.LinkFailures
import Bsdvr.Runs.LocalRoutes

namespace Bsdvr
open Foundation

namespace Node
variable {node : Node} {event : Event}

/-- The loopback entry of `SetIpv4`, or the broadcast entry that `NotifyInterfaceUp` installed for
an interface that has been up since. A learned entry for such an address is none: it holds another
route object. -/
def OwnEntry (node : Node) (dst : Ipv4Address) (entry : RoutingTableEntry) : Prop :=
  entry.nextHop = dst ∧
    ((dst = loopback ∧ entry.iface = .loopback ∧ entry.route.ref = 1) ∨
      -- the route object is made after the two sockets, and named after them
      ∃ opened ∈ node.socketAddresses,
        dst = opened.2.broadcast ∧ entry.iface = opened.2 ∧ entry.route.ref = opened.1.id + 2)

instance (node : Node) (dst : Ipv4Address) (entry : RoutingTableEntry) :
    Decidable (node.OwnEntry dst entry) :=
  inferInstanceAs (Decidable (_ ∧ (_ ∨ ∃ opened ∈ node.socketAddresses, _)))

/-- Active entries route through neighbours, but for the node's own. -/
def RoutesAlive (node : Node) : Prop :=
  ∀ dst entry, node.ft[dst]? = some entry → entry.state = .active → node.OwnEntry dst entry ∨
    entry.nextHop ∈ node.neighbors

/-- An entry routes through one of `kept`, or is the node's own or inactive and would not be
refreshed to be active. -/
def Detached (node : Node) (kept : List Ipv4Address) (dst : Ipv4Address)
    (entry : RoutingTableEntry) : Prop :=
  entry.nextHop ∈ kept ∨
    ((node.OwnEntry dst entry ∨ entry.state = .inactive) ∧
      ∀ route ∈ node.dvt.entry entry.nextHop dst, route.state = .inactive)

/-- An active route in the row of a neighbour that is not kept does not replace the entry for its
destination. -/
def Beaten (node : Node) (dst : Ipv4Address) (route : RoutingTableEntry) : Prop :=
  route.state = .active → ∃ entry ∈ node.ft[dst]?, isBetterRoute route
    (refreshEntry node.dvt dst entry) = false

instance (node : Node) (kept : List Ipv4Address) (dst : Ipv4Address) (entry : RoutingTableEntry) :
    Decidable (node.Detached kept dst entry) :=
  inferInstanceAs (Decidable (_ ∨ ((_ ∨ _) ∧ ∀ route ∈ node.dvt.entry entry.nextHop dst, _)))

instance (node : Node) (dst : Ipv4Address) (route : RoutingTableEntry) :
    Decidable (node.Beaten dst route) :=
  inferInstanceAs (Decidable (_ → ∃ entry ∈ node.ft[dst]?, _))

/-! ### One destination -/

/-- No active entry for `dst` comes to route through a next hop that is not safe, but for one of the
node's `own`: none does now or by a refresh, and no route of a neighbour that is not safe replaces
it. -/
structure Quiet (node : Node) (safe : Ipv4Address → Prop) (own : RoutingTableEntry → Prop)
    (dst : Ipv4Address) : Prop where
  entry : ∀ entry, node.ft[dst]? = some entry → safe entry.nextHop ∨
    ((own entry ∨ entry.state = .inactive) ∧
      ∀ route, node.dvt.entry entry.nextHop dst = some route → route.state = .inactive)
  beaten : ∀ ne route, ne ∈ node.neighbors → ¬safe ne → node.dvt.entry ne dst = some route →
    node.Beaten dst route

theorem recompute_beaten (owned : RowsOwned node.dvt) {ne dst : Ipv4Address}
    {route : RoutingTableEntry} (listed : ne ∈ node.neighbors)
    (found : node.dvt.entry ne dst = some route) :
    node.recompute.1.Beaten dst route := by
  intro _
  have member : route ∈ candidates node.neighbors node.dvt dst :=
    mem_candidates.mpr ⟨ne, listed, found⟩
  obtain ⟨entry, present⟩ := Option.isSome_iff_exists.mp
    ((@recomputed_isSome node.dvt dst node.mainAddress node.neighbors node.ft).mpr
      (.inr (List.ne_nil_of_mem member)))
  obtain ⟨unbeaten, fixed⟩ := recomputed_settled owned present route member
  exact ⟨entry, present, by rw [recompute_dvt, fixed, unbeaten]⟩

namespace Quiet
variable {safe : Ipv4Address → Prop} {own : RoutingTableEntry → Prop} {dst : Ipv4Address}

theorem recompute (quiet : node.Quiet safe own dst) (owned : RowsOwned node.dvt) :
    node.recompute.1.Quiet safe own dst where
  beaten ne route listed _ found := recompute_beaten owned listed found
  entry entry present := by
    have candidate (member : entry ∈ candidates node.neighbors node.dvt dst)
        (active : entry.state = .active →
        entry.nextHop ∈ node.neighbors → node.dvt.entry entry.nextHop dst = some entry →
        ¬safe entry.nextHop → False) :
        safe entry.nextHop ∨ ((own entry ∨ entry.state = .inactive) ∧
          ∀ route, node.dvt.entry entry.nextHop dst = some route → route.state = .inactive) := by
      obtain ⟨ne, listed, found⟩ := mem_candidates.mp member
      obtain rfl := owned _ _ _ found
      by_cases stays : safe entry.nextHop
      · exact .inl stays
      · cases works : entry.state with
        | active => exact (active works listed found stays).elim
        | inactive =>
            refine .inr ⟨.inr rfl, fun route there => ?_⟩
            obtain rfl := Option.some.inj (found.symm.trans there)
            exact works
    rw [recompute_ft] at present
    cases known : node.ft[dst]? with
    | none =>
        have member : entry ∈ candidates node.neighbors node.dvt dst := by
          rcases recomputed_cases owned present with ⟨_, old⟩ | member | ⟨old, there, _⟩
          · rw [known] at old
            cases old
          · exact member
          · rw [known] at there
            cases there
        refine candidate member fun works listed found risky => ?_
        obtain ⟨old, there, _⟩ := quiet.beaten _ _ listed risky found works
        rw [known] at there
        cases there
    | some old =>
        rcases recomputed_replaced owned known present with ⟨_, rfl⟩ | rfl | ⟨member, better⟩
        · exact quiet.entry _ known
        · rw [refreshEntry_nextHop owned old]
          refine (quiet.entry _ known).imp_right fun ⟨spared, row⟩ => ⟨?_, row⟩
          rcases refreshEntry_eq node.dvt dst old with found | same | ⟨_, retired⟩
          · exact .inr (row _ found)
          · rwa [same]
          · exact .inr (by rw [retired]; rfl)
        · refine candidate member fun works listed found risky => ?_
          obtain ⟨beating, there, worse⟩ := quiet.beaten _ _ listed risky found works
          obtain rfl := Option.some.inj (known.symm.trans there)
          rw [worse] at better
          cases better

theorem forget (quiet : node.Quiet safe own dst) {dvt : DistanceVectorTable}
    (forgets : node.Forgets dvt) :
    (node.setDvt dvt).Quiet safe own dst where
  entry entry present := (quiet.entry entry present).imp_right fun ⟨failed, row⟩ =>
    ⟨failed, fun route found => row route (forgets.sub _ _ _ found)⟩
  beaten ne route listed risky found works := by
    obtain ⟨entry, present, worse⟩ :=
      quiet.beaten ne route listed risky (forgets.sub _ _ _ found) works
    exact ⟨entry, present, by rw [← worse]; exact congrArg _ (forgets.refreshEntry present)⟩

end Quiet

/-! ### All destinations -/

structure Detaches (node : Node) (kept : List Ipv4Address) : Prop where
  routes : ∀ pair ∈ node.ft.toList, node.Detached kept pair.1 pair.2
  beaten : ∀ pair ∈ node.rowsOf (node.neighbors.filter fun ne => ne ∉ kept),
    node.Beaten pair.1 pair.2

instance (node : Node) (kept : List Ipv4Address) : Decidable (node.Detaches kept) :=
  decidable_of_iff ((∀ pair ∈ node.ft.toList, node.Detached kept pair.1 pair.2) ∧
      ∀ pair ∈ node.rowsOf (node.neighbors.filter fun ne => ne ∉ kept), node.Beaten pair.1 pair.2)
    ⟨fun both => ⟨both.1, both.2⟩, fun detaches => ⟨detaches.routes, detaches.beaten⟩⟩

namespace Detaches
variable {kept : List Ipv4Address}

theorem entry (detaches : node.Detaches kept) {dst : Ipv4Address} {entry : RoutingTableEntry}
    (present : node.ft[dst]? = some entry) : node.Detached kept dst entry :=
  detaches.routes (dst, entry) (Std.TreeMap.mem_toList_iff_getElem?_eq_some.mpr present)

theorem beats (detaches : node.Detaches kept) {ne dst : Ipv4Address} {route : RoutingTableEntry}
    (listed : ne ∈ node.neighbors) (gone : ne ∉ kept) (found : node.dvt.entry ne dst = some route) :
    node.Beaten dst route :=
  detaches.beaten (dst, route) (mem_rowsOf (List.mem_filter.mpr ⟨listed, by simpa using gone⟩)
    found)

theorem intro (routes : ∀ dst entry, node.ft[dst]? = some entry → node.Detached kept dst entry)
    (beaten : ∀ ne dst route, ne ∈ node.neighbors → ne ∉ kept → node.dvt.entry ne dst = some route →
      node.Beaten dst route) :
    node.Detaches kept where
  routes pair member := routes _ _ (Std.TreeMap.mem_toList_iff_getElem?_eq_some.mp member)
  beaten pair member := by
    obtain ⟨ne, gone, found⟩ := List.mem_flatMap.mp member
    obtain ⟨listed, gone⟩ := List.mem_filter.mp gone
    exact beaten ne _ _ listed (by simpa using gone) (mem_row.mp found)

theorem quiet (detaches : node.Detaches kept) (dst : Ipv4Address) :
    node.Quiet (· ∈ kept) (node.OwnEntry dst) dst where
  entry _ present := detaches.entry present
  beaten _ _ listed gone found := detaches.beats listed gone found

theorem recompute (detaches : node.Detaches kept) (owned : RowsOwned node.dvt) :
    node.recompute.1.Detaches kept := by
  apply intro
  · intro dst entry present
    exact ((detaches.quiet dst).recompute owned).entry entry present
  · intro ne dst route listed _ found
    exact recompute_beaten owned listed found

theorem forget (detaches : node.Detaches kept) {dvt : DistanceVectorTable}
    (forgets : node.Forgets dvt) :
    (node.setDvt dvt).Detaches kept := by
  apply intro
  · intro dst entry present
    exact ((detaches.quiet dst).forget forgets).entry entry present
  · intro ne dst route listed gone found works
    obtain ⟨entry, present, worse⟩ := detaches.beats listed gone (forgets.sub _ _ _ found) works
    exact ⟨entry, present, by rw [← worse]; exact congrArg _ (forgets.refreshEntry present)⟩

theorem linkFailures (detaches : node.Detaches kept) (owned : RowsOwned node.dvt)
    {failed : List Ipv4Address} (members : ∀ ne ∈ failed, ne ∈ node.neighbors) :
    (node.handleLinkFailures failed).1.Detaches kept := by
  have both := @handleLinkFailures_rule node (fun node _ => node.Detaches kept ∧
    RowsOwned node.dvt) failed
    (fun node _ _ dvt ⟨detaches, owned⟩ _ _ forgets =>
      ⟨(detaches.forget forgets).recompute (forgets.owned owned),
        forgets.owned owned⟩) members [] ⟨detaches, owned⟩
  exact both.1

theorem alive (detaches : node.Detaches kept)
    (same : ∀ ne, ne ∈ kept → ne ∈ node.neighbors) : node.RoutesAlive := by
  intro dst entry present works
  rcases detaches.entry present with stays | ⟨own | failed, _⟩
  · exact .inr (same _ stays)
  · exact .inl own
  · rw [works] at failed
    cases failed

end Detaches

/-! ## Handlers -/

def welcome (node : Node) (addr : Ipv4Address) (hardware : Mac48Address) : Node :=
  { node with nb := node.nb ++ [⟨addr, hardware, node.helloInterval + node.now, false⟩] }

def closing (node : Node) (hardware : Mac48Address) : Node :=
  { node with nb := node.nb.closeMatching hardware }

theorem welcome_neighbors (node : Node) (addr : Ipv4Address) (hardware : Mac48Address) :
    (node.welcome addr hardware).neighbors = node.neighbors ++ [addr] :=
  Neighbors.addresses_append _ _

theorem updateNeighbors_of_known {addr : Ipv4Address} (known : addr ∈ node.neighbors)
    (hardware : Mac48Address) :
    node.updateNeighbors addr node.helloInterval hardware =
      (node.setNb (node.nb.extend node.now addr node.helloInterval hardware), []) := by
  rw [updateNeighbors, if_pos known]
  rfl

theorem updateNeighbors_of_stranger {addr : Ipv4Address} (stranger : addr ∉ node.neighbors)
    (hardware : Mac48Address) :
    node.updateNeighbors addr node.helloInterval hardware =
      (node.welcome addr hardware).purgeNeighbors := by
  rw [updateNeighbors, if_neg stranger]
  rfl

/-- What the handling of an event leaves active does not route through a neighbour that is lost: the
forwarding table has no such entry, it takes none from a row, and no UPDATE makes one active
again. -/
def DetachesLost (node : Node) : Event → Prop
  | .recv _ _ (.hello header) hardware => header.dst = header.origin →
      if header.origin ∈ node.neighbors then node.Detaches node.neighbors
      else (node.welcome header.origin hardware).Detaches
        (node.welcome header.origin hardware).dropClosed.neighbors
  | .recv _ sender (.update header) _ => node.Detaches node.neighbors ∧
      ∀ entry ∈ node.ft[header.dst]?, entry.nextHop = sender →
        sender ∈ node.neighbors ∨ header.binaryState ≠ 1
  | .purge => node.Detaches node.dropClosed.neighbors
  | .txError hardware => (node.closing hardware).Detaches
      (node.closing hardware).dropClosed.neighbors
  | .interfaceUp _ | .interfaceDown _ | .elapse _ => True

instance (node : Node) (event : Event) : Decidable (node.DetachesLost event) :=
  match event with
  | .recv _ _ (.hello header) _ => inferInstanceAs (Decidable (_ →
      if header.origin ∈ node.neighbors then _ else _))
  | .recv _ _ (.update header) _ => inferInstanceAs (Decidable (_ ∧
      ∀ entry ∈ node.ft[header.dst]?, _ → _ ∨ _))
  | .purge => inferInstanceAs (Decidable (node.Detaches _))
  | .txError hardware => inferInstanceAs (Decidable ((node.closing hardware).Detaches _))
  | .interfaceUp _ | .interfaceDown _ | .elapse _ => instDecidableTrue

theorem Detaches.congr {after : Node} {kept : List Ipv4Address} (detaches : node.Detaches kept)
    (same : after.routingTable = node.routingTable)
    (sockets : after.socketAddresses = node.socketAddresses)
    (stay : ∀ ne ∈ after.neighbors, ne ∈ kept) : after.Detaches kept := by
  apply intro
  · intro dst entry present
    rw [Node.ft, same] at present
    unfold Detached OwnEntry
    rw [Node.dvt, same, sockets]
    exact detaches.entry present
  · intro ne dst route listed gone
    exact absurd (stay ne listed) gone

theorem Detaches.purge (detaches : node.Detaches node.dropClosed.neighbors)
    (owned : RowsOwned node.dvt) :
    node.purgeNeighbors.1.Detaches node.purgeNeighbors.1.neighbors := by
  have handled := detaches.linkFailures owned fun _ => mem_lost
  obtain ⟨table, frame⟩ := handleLinkFailures_frame node node.lost
  have drop : node.purgeNeighbors.1 = (node.handleLinkFailures node.lost).1.dropClosed := rfl
  have left : node.purgeNeighbors.1.neighbors = node.dropClosed.neighbors := by
    rw [drop, frame]
    rfl
  rw [left]
  exact handled.congr rfl rfl fun ne listed => left ▸ listed

theorem updateNeighbors_mem (node : Node) (addr : Ipv4Address) (expire : Time)
    (hardware : Mac48Address) :
    addr ∈ (node.updateNeighbors addr expire hardware).1.neighbors := by
  unfold updateNeighbors
  split
  · rename_i listed
    show addr ∈ (Neighbors.extend _ _ _ _ _).addresses
    rwa [Neighbors.addresses_extend]
  · obtain ⟨table, frame⟩ := purgeNeighbors_frame
      { node with nb := node.nb ++ [⟨addr, hardware, expire + node.now, false⟩] }
    rw [frame]
    refine List.mem_map.mpr ⟨⟨addr, hardware, expire + node.now, false⟩, ?_, rfl⟩
    exact List.mem_filter.mpr ⟨List.mem_append_right _ (List.mem_singleton_self _),
      by simp [Neighbor.closed]⟩

theorem joined_rowsOwned (named : node.Named) {origin receiver : Ipv4Address}
    (absent : node.dvt.entry origin origin = none) :
    RowsOwned (node.joined origin receiver).dvt := by
  intro neighbor dst route there
  rw [joined_entry absent] at there
  split at there
  · rename_i here
    rw [← Option.some.inj there, here.1]
    rfl
  · exact named.rowsOwned _ _ _ there

theorem learned_rowsOwned (named : node.Named) (header : UpdateHeader) (my src : Ipv4Address) :
    RowsOwned (node.learned header my src).dvt := by
  intro neighbor dst route found
  rcases updateDistanceVectorTable_entry found with old | ⟨rfl, _, rfl⟩
  · exact named.rowsOwned _ _ _ old
  · rfl

theorem Detaches.joined (detaches : node.Detaches node.neighbors) {origin : Ipv4Address}
    (absent : node.dvt.entry origin origin = none) (member : origin ∈ node.neighbors)
    (receiver : Ipv4Address) :
    (node.joined origin receiver).Detaches node.neighbors := by
  obtain ⟨table, frame⟩ := joined_frame node origin receiver
  have same : (node.joined origin receiver).neighbors = node.neighbors := by rw [frame]
  have sockets : (node.joined origin receiver).socketAddresses = node.socketAddresses := by
    rw [frame]
  apply intro
  · intro dst entry present
    rw [joined_ft] at present
    unfold Detached OwnEntry
    rw [sockets]
    by_cases through : entry.nextHop = origin
    · exact .inl (through ▸ member)
    · rw [joined_entry absent, if_neg (fun here => through here.1)]
      exact detaches.entry present
  · intro ne dst route listed gone
    exact absurd (same ▸ listed) gone

theorem Detaches.exchangeHello (detaches : node.Detaches node.neighbors) (named : node.Named)
    {origin : Ipv4Address} (member : origin ∈ node.neighbors) (receiver : Ipv4Address) :
    (node.exchangeHello origin receiver).1.RoutesAlive := by
  rw [exchangeHello_eq]
  cases found : node.dvt.entry origin origin with
  | none =>
      have same : (node.joined origin receiver).neighbors = node.neighbors := by
        obtain ⟨table, frame⟩ := joined_frame node origin receiver
        rw [frame]
      have recomputed := (detaches.joined found member receiver).recompute
        (joined_rowsOwned named found)
      exact recomputed.alive fun ne listed => same.symm ▸ listed
  | some toNeighbor =>
      rw [ensureRow_of_entry found]
      intro dst entry present works
      rw [refreshNeighbor_ft named found] at present
      obtain ⟨old, there, rfl⟩ := Option.map_eq_some_iff.mp present
      obtain ⟨outputDevice, same⟩ := node.rewritten_frame receiver toNeighbor old
      rw [same] at works ⊢
      exact detaches.alive (fun _ => id) dst old there works

theorem Detaches.learned (detaches : node.Detaches node.neighbors) {header : UpdateHeader}
    {my src : Ipv4Address}
    (dead : ∀ entry ∈ node.ft[header.dst]?, entry.nextHop = src → src ∈ node.neighbors ∨
      header.binaryState ≠ 1) :
    (node.learned header my src).Detaches node.neighbors := by
  have rows {neighbor dst : Ipv4Address} {route : RoutingTableEntry}
      (found : (node.learned header my src).dvt.entry neighbor dst = some route) :
      node.dvt.entry neighbor dst = some route ∨
        (neighbor = src ∧ dst = header.dst ∧ route = node.updateEntry header my src) :=
    updateDistanceVectorTable_entry found
  apply intro
  · intro dst entry present
    rcases detaches.entry present with stays | ⟨spared, row⟩
    · exact .inl stays
    · by_cases here : dst = header.dst ∧ entry.nextHop = src
      · obtain ⟨rfl, through⟩ := here
        rcases dead entry present through with stays | inactive
        · exact .inl (through ▸ stays)
        · refine .inr ⟨spared, fun route found => ?_⟩
          rcases rows found with old | ⟨_, _, rfl⟩
          · exact row route old
          · exact if_neg inactive
      · refine .inr ⟨spared, fun route found => ?_⟩
        rcases rows found with old | ⟨through, same, _⟩
        · exact row route old
        · exact absurd ⟨same, through⟩ here
  · intro ne dst route listed gone
    exact absurd listed gone

theorem Detaches.recvUpdate (detaches : node.Detaches node.neighbors) (named : node.Named)
    {header : UpdateHeader} {my src : Ipv4Address}
    (dead : ∀ entry ∈ node.ft[header.dst]?, entry.nextHop = src → src ∈ node.neighbors ∨
      header.binaryState ≠ 1) :
    (node.recvUpdate header my src).1.RoutesAlive := by
  obtain ⟨prqueue, frame, _⟩ := recvUpdate_frame node header my src
  have recomputed := (detaches.learned dead).recompute (learned_rowsOwned named header my src)
  rw [frame]
  exact recomputed.alive fun _ => id

theorem loopbackEntry_own : node.OwnEntry loopback loopbackEntry := ⟨rfl, .inl ⟨rfl, rfl, rfl⟩⟩

theorem broadcastEntry_own {i : Nat} (real : (node.getAddress (some i)).localAddress ≠ loopback) :
    (node.notifyInterfaceUp i).OwnEntry (node.getAddress (some i)).broadcast
      (node.broadcastEntry i) := by
  refine ⟨rfl, .inr ?_⟩
  rw [(notifyInterfaceUp_sockets node i).2, if_neg real]
  exact ⟨_, List.mem_append_right _ (List.mem_singleton_self _), rfl, rfl, rfl⟩

section Own
variable {dst : Ipv4Address} {entry : RoutingTableEntry}

theorem OwnEntry.congr {other : RoutingTableEntry} (own : node.OwnEntry dst entry)
    (nextHop : other.nextHop = entry.nextHop) (iface : other.iface = entry.iface)
    (object : other.route.ref = entry.route.ref) : node.OwnEntry dst other := by
  unfold OwnEntry
  rwa [nextHop, iface, object]

theorem OwnEntry.interfaceUp (own : node.OwnEntry dst entry) (i : Nat) :
    (node.notifyInterfaceUp i).OwnEntry dst entry := by
  refine own.imp_right (Or.imp_right fun ⟨opened, member, rest⟩ => ?_)
  rw [(notifyInterfaceUp_sockets node i).2]
  split
  · exact ⟨opened, member, rest⟩
  · exact ⟨opened, List.mem_append_left _ member, rest⟩

theorem OwnEntry.interfaceDown (own : node.OwnEntry dst entry) (named : node.SocketsNamed) {i : Nat}
    (other : entry.iface ≠ node.getAddress (some i)) :
    (node.notifyInterfaceDown i).OwnEntry dst entry := by
  refine own.imp_right (Or.imp_right fun ⟨opened, member, about, onIface, object⟩ => ?_)
  exact ⟨opened, mem_sockets_down named (onIface ▸ other) member, about, onIface, object⟩

end Own

theorem RoutesAlive.interfaceUp (alive : node.RoutesAlive) (i : Nat) :
    (node.notifyInterfaceUp i).RoutesAlive := by
  have same : (node.notifyInterfaceUp i).neighbors = node.neighbors := by
    obtain ⟨_, _, _, _, _, _, frame⟩ := notifyInterfaceUp_frame node i
    rw [frame]
    rfl
  intro dst entry present works
  rw [same]
  rcases notifyInterfaceUp_ft_cases present with old | ⟨real, rfl, rfl⟩
  · exact (alive dst entry old works).imp_left fun own => own.interfaceUp i
  · exact .inl (broadcastEntry_own real)

theorem RoutesAlive.interfaceDown (alive : node.RoutesAlive) (named : node.SocketsNamed) (i : Nat) :
    (node.notifyInterfaceDown i).RoutesAlive := by
  intro dst entry present works
  obtain ⟨before, other⟩ := notifyInterfaceDown_ft present
  refine (alive dst entry before works).imp (fun own => own.interfaceDown named other)
    fun listed => ?_
  unfold notifyInterfaceDown at present ⊢
  simp only at present ⊢
  split at present
  · -- the last socket is gone and the table with it
    have absent : (∅ : EntryMap)[dst]? = some entry := present
    simp at absent
  · rename_i up
    rw [if_neg up]
    exact listed

/-- A HELLO of a known neighbour extends it, and one of a stranger purges the list that then has
it. -/
theorem RoutesAlive.hello {header : HelloHeader} {hardware : Mac48Address} (named : node.Named)
    (enabled : node.enableHello = true)
    (allowed : if header.origin ∈ node.neighbors then node.Detaches node.neighbors
      else (node.welcome header.origin hardware).Detaches
        (node.welcome header.origin hardware).dropClosed.neighbors)
    (my : Ipv4Address) : (node.processHello header my hardware).1.RoutesAlive := by
  have listed := updateNeighbors_mem node header.origin node.helloInterval hardware
  have before := named.updateNeighbors header.origin node.helloInterval hardware
  simp only [processHello, if_pos enabled]
  refine Detaches.exchangeHello ?_ before listed my
  unfold updateNeighbors
  split at allowed
  · rename_i known
    rw [if_pos known]
    have same : Neighbors.addresses (node.nb.extend node.now header.origin
        node.helloInterval hardware) =
        node.neighbors := Neighbors.addresses_extend _ _ _ _ _
    simp only [Node.neighbors, same]
    exact allowed.congr rfl rfl fun ne listed => same ▸ listed
  · rename_i stranger
    rw [if_neg stranger]
    exact @Detaches.purge (node.welcome header.origin hardware) allowed named.rowsOwned

theorem RoutesAlive.handle (alive : node.RoutesAlive) (named : node.Named)
    (sockets : node.SocketsNamed) (enabled : node.enableHello = true)
    (detaches : node.DetachesLost event) : (node.handle event).1.RoutesAlive := by
  cases event using handle_cases node with
  | ignored socket sender message hardware same => rwa [same]
  | hello socket sender header hardware my received proper handled =>
      rw [handled]
      exact .hello named enabled (detaches proper) my
  | update socket sender header hardware my received same =>
      rw [same]
      exact detaches.1.recvUpdate named detaches.2
  | purge => exact (detaches.purge named.rowsOwned).alive fun _ => id
  | txError hardware => exact (@Detaches.purge (node.closing hardware)
      detaches named.rowsOwned).alive fun _ => id
  | interfaceUp i => exact alive.interfaceUp i
  | interfaceDown i => exact alive.interfaceDown sockets i
  | elapse duration => exact alive

theorem handle_enableHello (event : Event) :
    (node.handle event).1.enableHello = node.enableHello := by
  by_cases up : ∃ i, event = .interfaceUp i
  · obtain ⟨i, rfl⟩ := up
    obtain ⟨_, _, _, _, _, _, frame⟩ := notifyInterfaceUp_frame node i
    rw [handle, frame]
    rfl
  · by_cases down : ∃ i, event = .interfaceDown i
    · obtain ⟨i, rfl⟩ := down
      obtain ⟨_, _, _, _, _, frame⟩ := notifyInterfaceDown_frame node i
      rw [handle, frame]
      rfl
    · exact (handle_setup event (fun i same => up ⟨i, same⟩) fun i same =>
        down ⟨i, same⟩).enableHello

section Run
variable {interfaces : List Ipv4InterfaceAddress} {helloInterval : Time} {maxPRQueueLen : BitVec 32}
  {maxPRQueueTime : Time} {state : Node}

/-- In a run that detaches the neighbours it loses, active routes go through neighbours. -/
theorem routesAlive_of_detachesLost
    (reach : Reach next DetachesLost (initial interfaces true helloInterval maxPRQueueLen maxPRQueueTime) state) :
    state.RoutesAlive := by
  have start : (initial interfaces true helloInterval maxPRQueueLen
      maxPRQueueTime).RoutesAlive := by
    intro dst entry present _
    obtain ⟨rfl, rfl⟩ := initial_ft_eq_some _ _ _ _ _ present
    exact .inl loopbackEntry_own
  have all : state.Named ∧ state.SocketsNamed ∧ state.enableHello = true ∧ state.RoutesAlive := by
    refine reach.invariant
      (P := fun state => state.Named ∧ state.SocketsNamed ∧ state.enableHello = true ∧
        state.RoutesAlive)
      ⟨initial_named _ _ _ _ _, initial_socketsNamed, rfl, start⟩ ?_
    rintro before event after ⟨named, sockets, enabled, alive⟩ detaches taken
    obtain ⟨_, rfl⟩ := next_eq_some taken
    exact ⟨named.handle event, sockets.handle event, (handle_enableHello event).trans enabled,
      alive.handle named sockets enabled detaches⟩
  exact all.2.2.2

end Run

theorem routesAlive_of_detachesLost_twoInterfaces :
    ∃ state, Reach next DetachesLost twoInterfaces state ∧
    state.neighbors = [0x0a010203#32] ∧ (state.ft[0x0a010202#32]?).isSome ∧ state.RoutesAlive := by
  -- 10.1.2.3 tells of 10.1.2.2 before both are heard, so the route to 10.1.2.2 goes through
  -- 10.1.2.3, and stays when the link to 10.1.2.2 fails
  obtain ⟨state, reach, checked⟩ := exists_reach_of_follow next DetachesLost twoInterfaces
    [.interfaceUp 1, update1 ⟨0x0a010203#32, 0x0a010202#32, 1, 1⟩, hello1 0x0a010203#32,
      .recv ⟨3, 1, 0x0a0102ff#32⟩ 0x0a010202#32 (.hello ⟨0x0a010202#32, 0x0a010202#32⟩) 7,
      .txError 7]
    (fun state => decide (state.neighbors = [0x0a010203#32]) && (state.ft[0x0a010202#32]?).isSome)
    (by decide +kernel)
  simp only [Bool.and_eq_true, decide_eq_true_eq] at checked
  exact ⟨state, reach, checked.1, checked.2, routesAlive_of_detachesLost reach⟩

theorem not_routesAlive_twoInterfaces : ∃ state, Reach next (fun _ _ => True) twoInterfaces state ∧
    ¬state.RoutesAlive := by
  -- 10.1.2.2 is heard once and expires; the route to it stays active
  obtain ⟨state, reach, checked⟩ := exists_reach_of_follow next (fun _ _ => True) twoInterfaces
    [.interfaceUp 1, hello1 0x0a010202#32, .elapse 1001, .purge]
    (fun state => decide (state.neighbors = []) && (state.ft[0x0a010202#32]?).any fun entry =>
      entry.state = .active ∧ ¬state.OwnEntry 0x0a010202#32 entry) (by decide +kernel)
  simp only [Bool.and_eq_true, decide_eq_true_eq, Option.any_eq_true] at checked
  obtain ⟨none, entry, present, works, foreign⟩ := checked
  refine ⟨state, reach, fun alive => ?_⟩
  rcases alive _ entry present works with own | listed
  · exact foreign own
  · rw [none] at listed
    cases listed

end Node

end Bsdvr
