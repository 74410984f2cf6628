import Bsdvr.Proof.Handlers
import Bsdvr.Runs.Sockets

namespace Bsdvr
open Foundation

/-! ## The objects behind the routes

Each entry carries a copy of the route object it holds. A heap has one content for each object. -/

def backing (heap : Nat → Ipv4Route) (fresh : Nat) : Contract where
  forwarding _ entry := entry.route = heap entry.route.ref ∧ entry.route.ref < fresh
  stored _ _ entry := entry.route = heap entry.route.ref ∧ entry.route.ref < fresh
  known _ := False

def Node.Backed (node : Node) : Prop := ∃ heap, (backing heap node.fresh).Holds node

theorem backing_closed (heap : Nat → Ipv4Route) (fresh : Nat) (neighbors : List Ipv4Address) :
    (backing heap fresh).Closed neighbors where
  adopt _ _ _ _ good := good
  refresh _ _ _ _ good _ := good
  retire _ _ good _ _ := good

theorem backing_allocate {heap : Nat → Ipv4Route} {fresh ref : Nat} {node : Node}
    (holds : (backing heap fresh).Holds node) (unused : fresh ≤ ref) (route : Ipv4Route) :
    (backing (Function.update heap ref route) (ref + 1)).Holds node := by
  have older (entry : RoutingTableEntry)
      (good : entry.route = heap entry.route.ref ∧ entry.route.ref < fresh) :
      entry.route = Function.update heap ref route entry.route.ref ∧ entry.route.ref < ref + 1 := by
    rw [Function.update_of_ne (by omega)]
    exact ⟨good.1, by omega⟩
  exact ⟨fun dst entry present => older entry (holds.forwarding dst entry present),
    fun neighbor dst entry found => older entry (holds.stored neighbor dst entry found),
    fun _ => False.elim⟩

theorem backed_make (heap : Nat → Ipv4Route) (entry : RoutingTableEntry) :
    entry.route = Function.update heap entry.route.ref entry.route entry.route.ref ∧
      entry.route.ref < entry.route.ref + 1 :=
  ⟨(Function.update_self entry.route.ref entry.route heap).symm, Nat.lt_succ_self _⟩

namespace Node
variable {node : Node} {origin receiver : Ipv4Address}

theorem Backed.congr {after : Node} (backed : node.Backed)
    (same : after.routingTable = node.routingTable)
    (fresh : after.fresh = node.fresh) : after.Backed := by
  obtain ⟨heap, holds⟩ := backed
  exact ⟨heap, fresh ▸ holds.congr same⟩

theorem Backed.purgeNeighbors (backed : node.Backed) : node.purgeNeighbors.1.Backed := by
  obtain ⟨heap, holds⟩ := backed
  obtain ⟨table, frame⟩ := purgeNeighbors_frame node
  have fresh : node.purgeNeighbors.1.fresh = node.fresh := by simp only [frame, dropClosed]
  exact ⟨heap, fresh ▸ (holds.purge (backing_closed _ _ _)).holds⟩

theorem Backed.updateNeighbors (backed : node.Backed) (addr : Ipv4Address) (expire : Time)
    (hardware : Mac48Address) :
    (node.updateNeighbors addr expire hardware).1.Backed := by
  obtain ⟨heap, holds⟩ := backed
  obtain ⟨table, nb, frame, _⟩ := updateNeighbors_frame node addr expire hardware
  have fresh : (node.updateNeighbors addr expire hardware).1.fresh = node.fresh := by rw [frame]
  exact ⟨heap, fresh ▸ (holds.updateNeighbors addr expire hardware (backing_closed _ _ _)).holds⟩

/-- The write to the object behind the route to a neighbour is seen by every entry that holds it. -/
theorem Backed.refreshNeighbor (backed : node.Backed) (named : node.Named)
    {toNeighbor : RoutingTableEntry} (found : node.dvt.entry origin origin = some toNeighbor) :
    (node.refreshNeighbor origin receiver toNeighbor).Backed := by
  obtain ⟨heap, holds⟩ := backed
  have own := holds.stored _ _ _ found
  have through := (named.stored found).2
  set dev := node.getInterfaceForAddress receiver with hdev
  set heap' := Function.update heap toNeighbor.route.ref
    { toNeighbor.route with outputDevice := dev } with hheap
  have rewritten (entry : RoutingTableEntry)
      (good : entry.route = heap entry.route.ref ∧ entry.route.ref < node.fresh) :
      (node.rewritten receiver toNeighbor entry).route =
      heap' (node.rewritten receiver toNeighbor entry).route.ref ∧
        (node.rewritten receiver toNeighbor entry).route.ref < node.fresh := by
    unfold Node.rewritten
    split
    · rename_i same
      have alike : entry.route = toNeighbor.route := by rw [good.1, same, ← own.1]
      rw [RoutingTableEntry.setOutputDevice, alike, hheap, Function.update_self]
      exact ⟨rfl, own.2⟩
    · rename_i other
      rw [hheap, Function.update_of_ne other]
      exact good
  refine ⟨heap', fun dst entry present => ?_, fun neighbor dst entry listed => ?_,
    fun _ => False.elim⟩
  · rw [refreshNeighbor_ft named found] at present
    obtain ⟨old, there, rfl⟩ := Option.map_eq_some_iff.mp present
    exact rewritten old (holds.forwarding _ _ there)
  · rw [refreshNeighbor_entry named found] at listed
    split at listed
    · rw [← Option.some.inj listed, RoutingTableEntry.heardOn, hheap, ← hdev, ← through]
      exact ⟨(Function.update_self toNeighbor.route.ref _ heap).symm, own.2⟩
    · obtain ⟨old, there, rfl⟩ := Option.map_eq_some_iff.mp listed
      exact rewritten old (holds.stored _ _ _ there)

theorem Backed.exchangeHello (backed : node.Backed) (named : node.Named) :
    (node.exchangeHello origin receiver).1.Backed := by
  rw [exchangeHello_eq]
  cases found : node.dvt.entry origin origin with
  | none =>
      obtain ⟨heap, holds⟩ := backed
      obtain ⟨table, frame⟩ := joined_frame node origin receiver
      have joined := (backing_allocate holds le_rfl
        (node.helloEntry origin receiver).route).except.joined receiver
        (backed_make heap (node.helloEntry origin receiver)) found
      have fresh : (node.joined origin receiver).recompute.1.fresh = node.fresh + 1 := by
        show (node.joined origin receiver).fresh = node.fresh + 1
        rw [frame]
      exact ⟨_, fresh ▸ joined.recompute (backing_closed _ _ _)⟩
  | some toNeighbor =>
      rw [ensureRow_of_entry found]
      exact backed.refreshNeighbor named found

theorem Backed.handle (backed : node.Backed) (named : node.Named) (event : Event) :
    (node.handle event).1.Backed := by
  cases event using handle_cases node with
  | ignored socket sender message hardware same => rwa [same]
  | hello socket sender header hardware my received proper same =>
      rw [same]
      unfold processHello
      split
      · exact (backed.updateNeighbors _ _ _).exchangeHello (named.updateNeighbors _ _ _)
      · exact backed.exchangeHello named
  | update socket sender header hardware my received same =>
      obtain ⟨heap, holds⟩ := backed
      have entry : (node.updateEntry header my sender).route.ref = node.fresh := rfl
      have respects := (backing_allocate holds le_rfl
        (node.updateEntry header my sender).route).recvUpdate header my sender
        (backing_closed _ _ _) fun _ => backed_make heap (node.updateEntry header my sender)
      obtain ⟨prqueue, frame, _⟩ := recvUpdate_frame node header my sender
      have fresh : (node.recvUpdate header my sender).1.fresh = node.fresh + 1 := by
        rw [frame]
        rfl
      rw [same]
      exact ⟨_, fresh ▸ respects.holds⟩
  | purge => exact backed.purgeNeighbors
  | txError hardware =>
      have closed : ({ node with nb := node.nb.closeMatching hardware } : Node).Backed :=
        backed.congr rfl rfl
      exact closed.purgeNeighbors
  | interfaceUp i =>
      show (node.notifyInterfaceUp i).Backed
      by_cases lo : (node.getAddress (some i)).localAddress = loopback
      · simpa [notifyInterfaceUp, lo] using backed
      · obtain ⟨heap, holds⟩ := backed
        have allocated := backing_allocate holds (Nat.le_add_right _ 2)
          (node.broadcastEntry i).route
        have fresh : (node.notifyInterfaceUp i).fresh = node.fresh + 3 := by
          simp [notifyInterfaceUp, lo]
        refine ⟨Function.update heap (node.fresh + 2) (node.broadcastEntry i).route, ?_⟩
        rw [fresh]
        refine ⟨fun dst entry present => ?_, fun neighbor dst route => ?_, fun _ => False.elim⟩
        · rcases notifyInterfaceUp_ft_cases present with old | ⟨_, rfl, rfl⟩
          · exact allocated.forwarding dst entry old
          · exact backed_make heap (node.broadcastEntry i)
        · rw [notifyInterfaceUp_dvt]
          exact allocated.stored neighbor dst route
  | interfaceDown i =>
      show (node.notifyInterfaceDown i).Backed
      obtain ⟨heap, holds⟩ := backed
      have fresh : (node.notifyInterfaceDown i).fresh = node.fresh := by
        obtain ⟨_, _, _, _, _, frame⟩ := notifyInterfaceDown_frame node i
        rw [frame]
        rfl
      refine ⟨heap, ?_⟩
      rw [fresh]
      refine ⟨fun dst entry present => ?_, fun neighbor dst route => ?_, fun _ => False.elim⟩
      · exact holds.forwarding dst entry (notifyInterfaceDown_ft present).1
      · rw [notifyInterfaceDown_dvt]
        exact holds.stored neighbor dst route
  | elapse duration => exact backed.congr rfl rfl

/-! ## Runs -/

def Lists (node : Node) (dst : Ipv4Address) (entry : RoutingTableEntry) : Prop :=
  node.ft[dst]? = some entry ∨ ∃ neighbor, node.dvt.entry neighbor dst = some entry

theorem Backed.agree (backed : node.Backed) (named : node.Named) {dst other : Ipv4Address}
    {first second : RoutingTableEntry} (here : node.Lists dst first)
    (there : node.Lists other second) (same : first.route.ref = second.route.ref) :
    dst = other ∧ first.route = second.route := by
  obtain ⟨heap, holds⟩ := backed
  have content {dst : Ipv4Address} {entry : RoutingTableEntry} (listed : node.Lists dst entry) :
      entry.route = heap entry.route.ref ∧ entry.destination = dst := by
    rcases listed with present | ⟨neighbor, found⟩
    · exact ⟨(holds.forwarding _ _ present).1, named.forwarding present⟩
    · exact ⟨(holds.stored _ _ _ found).1, (named.stored found).1⟩
  have equal : first.route = second.route := by rw [(content here).1, same, ← (content there).1]
  refine ⟨?_, equal⟩
  rw [← (content here).2, ← (content there).2, RoutingTableEntry.destination, equal,
    RoutingTableEntry.destination]

/-- A HELLO of a neighbour that is known writes no entry for another destination. -/
theorem Backed.exchangeHello_other (backed : node.Backed) (named : node.Named) {dst : Ipv4Address}
    (apart : dst ≠ origin) (known : (node.dvt.entry origin origin).isSome) :
    (node.exchangeHello origin receiver).1.ft[dst]? = node.ft[dst]? ∧
      ∀ neighbor, (node.exchangeHello origin receiver).1.dvt.entry neighbor dst =
        node.dvt.entry neighbor dst := by
  obtain ⟨toNeighbor, found⟩ := Option.isSome_iff_exists.mp known
  have untouched {entry : RoutingTableEntry} (listed : node.Lists dst entry) :
      node.rewritten receiver toNeighbor entry = entry :=
    if_neg fun same => apart (backed.agree named listed (.inr ⟨origin, found⟩) same).1
  rw [exchangeHello_eq, found]
  simp only [ensureRow_of_entry found]
  refine ⟨?_, fun neighbor => ?_⟩
  · rw [refreshNeighbor_ft named found]
    cases present : node.ft[dst]? with
    | none => rfl
    | some entry => rw [Option.map_some, untouched (.inl present)]
  · rw [refreshNeighbor_entry named found, if_neg fun both => apart both.2]
    cases stored : node.dvt.entry neighbor dst with
    | none => rfl
    | some entry => rw [Option.map_some, untouched (.inr ⟨neighbor, stored⟩)]

section Run
variable {ok : Node → Event → Prop} {interfaces : List Ipv4InterfaceAddress} {enableHello : Bool}
  {helloInterval : Time} {maxPRQueueLen : BitVec 32} {maxPRQueueTime : Time}

/-- Entries that hold the same route object are for one destination and agree on what is in it, so
that the writes of `ProcessHello` reach no entry for another destination. -/
theorem route_objects_agree
    (reach : Reach next ok (initial interfaces enableHello helloInterval maxPRQueueLen maxPRQueueTime) node) :
    (∀ dst other first second, node.Lists dst first → node.Lists other second →
      first.route.ref = second.route.ref →
      dst = other ∧ first.route = second.route) ∧
    ∀ origin receiver dst, (node.dvt.entry origin origin).isSome → dst ≠ origin →
      (node.exchangeHello origin receiver).1.ft[dst]? = node.ft[dst]? ∧
      ∀ neighbor, (node.exchangeHello origin receiver).1.dvt.entry neighbor dst =
        node.dvt.entry neighbor dst := by
  have both : node.Named ∧ node.Backed := by
    refine reach.invariant (P := fun node => node.Named ∧ node.Backed)
      ⟨initial_named _ _ _ _ _, ?_⟩ ?_
    · refine ⟨fun _ => loopbackEntry.route, fun dst entry present => ?_,
        fun neighbor dst route found => ?_, fun _ => False.elim⟩
      · obtain ⟨_, rfl⟩ := initial_ft_eq_some _ _ _ _ _ present
        exact ⟨rfl, Nat.one_lt_two⟩
      · rw [initial_dvt] at found
        simp [DistanceVectorTable.entry] at found
    · rintro before event after ⟨named, backed⟩ _ taken
      obtain ⟨_, rfl⟩ := next_eq_some taken
      exact ⟨named.handle event, backed.handle named event⟩
  obtain ⟨named, backed⟩ := both
  exact ⟨fun _ _ _ _ here there => backed.agree named here there,
    fun _ _ _ known apart => backed.exchangeHello_other named apart known⟩

end Run

theorem route_objects_agree_twoInterfaces : ∃ node first second,
    Reach next (fun _ _ => True) twoInterfaces node ∧
    node.ft[0x0a010202#32]? = some first ∧
      node.dvt.entry 0x0a010202#32 0x0a010202#32 = some second ∧
    first.iface ≠ second.iface ∧ first.route.outputDevice = some 2 ∧
    first.route = second.route := by
  -- the neighbour is heard on interface 1 and then on interface 2: the second HELLO writes the
  -- object that the entry of the forwarding table holds, but not its interface
  obtain ⟨node, reach, checked⟩ := exists_reach_of_follow next (fun _ _ => True) twoInterfaces
    [.interfaceUp 1, .interfaceUp 2, hello1 0x0a010202#32, hello2 0x0a010202#32]
    (fun node => (node.ft[0x0a010202#32]?).any fun (first : RoutingTableEntry) =>
      (node.dvt.entry 0x0a010202#32 0x0a010202#32).any fun (second : RoutingTableEntry) =>
      decide (first.iface ≠ second.iface) && decide (first.route.outputDevice = some 2) &&
        decide (first.route.ref = second.route.ref)) (by decide +kernel)
  simp only [Option.any_eq_true, Bool.and_eq_true, decide_eq_true_eq] at checked
  obtain ⟨first, present, second, found, ⟨apart, device⟩, same⟩ := checked
  exact ⟨node, first, second, reach, present, found, apart, device,
    ((route_objects_agree reach).1 _ _ first second (.inl present) (.inr ⟨_, found⟩) same).2⟩

end Node

end Bsdvr
