import Bsdvr.Runs.LostNeighbors
import Bsdvr.Tables.Worst

namespace Bsdvr
open Foundation

def RoutingTableEntry.DirectTo (route : RoutingTableEntry) (origin : Ipv4Address) : Prop :=
  route.state = .active ∧ route.hops = 1 ∧ route.nextHop = origin

instance (route : RoutingTableEntry) (origin : Ipv4Address) : Decidable (route.DirectTo origin) :=
  inferInstanceAs (Decidable (_ ∧ _ ∧ _))

namespace Node
variable {node : Node} {origin receiver : Ipv4Address}

structure YieldsDirect (node : Node) (header : HelloHeader) (receiver : Ipv4Address)
    (hardware : Mac48Address) : Prop where
  stored : ∃ route, (node.processHello header receiver hardware).1.dvt.entry header.origin
    header.origin = some route ∧
    route.DirectTo header.origin
  forwarded : ∃ entry,
    (node.processHello header receiver hardware).1.ft[header.origin]? = some entry ∧
    entry.DirectTo header.origin

def competitors (node : Node) (origin receiver : Ipv4Address) : List RoutingTableEntry :=
  participants node.neighbors (node.joined origin receiver).dvt node.ft origin

/-- A neighbour that is new gets its route where all routes to it are ACTIVE and as short, and its
own comes first; one that is known keeps it where it has it. -/
def FavoursDirect (node : Node) (origin receiver : Ipv4Address) : Prop :=
  (node.dvt.entry origin origin = none →
    (∀ route ∈ node.competitors origin receiver, route.state = .active ∧ route.hops ≤ 1) ∧
      ∀ first ∈ (node.competitors origin receiver).find? (·.hops = 1), first.nextHop = origin) ∧
  ∀ toNeighbor ∈ node.dvt.entry origin origin,
    toNeighbor.state = .active ∧ ∃ entry ∈ node.ft[origin]?, entry.DirectTo origin

instance : Decidable (node.FavoursDirect origin receiver) :=
  inferInstanceAs (Decidable ((_ → (∀ route ∈ node.competitors origin receiver, _) ∧
    ∀ first ∈ List.find? _ _, _) ∧
    ∀ toNeighbor ∈ node.dvt.entry origin origin, _ ∧ ∃ entry ∈ node.ft[origin]?, _))

section Direct
variable {routes : List RoutingTableEntry} {entry : RoutingTableEntry}

/-- A direct ACTIVE route is preferred to all but the ACTIVE routes of at most one hop. -/
theorem not_preferred_direct {other : RoutingTableEntry} (works : entry.state = .active)
    (here : entry.hops = 1) :
    ¬Preferred entry other ↔ other.state = .active ∧ other.hops ≤ 1 := by
  unfold Preferred
  rw [here, works]
  cases other.state with
  | active => simp
  | inactive => simp [bsdvrThreshold]

theorem find?_sameMetric (works : entry.state = .active) (here : entry.hops = 1)
    (short : ∀ route ∈ routes, route.state = .active ∧ route.hops ≤ 1) :
    routes.find? (fun other => SameMetric entry other) = routes.find? (·.hops = 1) := by
  refine List.find?_congr fun route member =>
    decide_eq_decide.mpr ⟨fun same => same.1.symm.trans here, fun hop => ?_⟩
  exact ⟨here.trans hop.symm, works.trans (short route member).1.symm⟩

theorem worst_direct {new : RoutingTableEntry} (listed : new ∈ routes) (one : new.hops = 1) :
    (∃ entry, Worst routes entry ∧ entry.DirectTo origin) ↔
      (∀ route ∈ routes, route.state = .active ∧ route.hops ≤ 1) ∧
        ∀ first ∈ routes.find? (·.hops = 1), first.nextHop = origin := by
  constructor
  · rintro ⟨entry, worst, works, here, through⟩
    have short : ∀ route ∈ routes, route.state = .active ∧ route.hops ≤ 1 :=
      fun route member => (not_preferred_direct works here).mp (worst.preferredToNone route member)
    refine ⟨short, fun first found => ?_⟩
    rw [← find?_sameMetric works here short, worst.first] at found
    obtain rfl := Option.some.inj found
    exact through
  · rintro ⟨short, own⟩
    cases found : routes.find? (·.hops = 1) with
    | none => exact absurd (decide_eq_true one) (List.find?_eq_none.mp found new listed)
    | some first =>
        have here : first.hops = 1 := by simpa using List.find?_some found
        have works := (short first (List.mem_of_find?_eq_some found)).1
        refine ⟨first, ⟨⟨fun other there => ?_, fun other decider => ?_⟩,
          (find?_sameMetric works here short).trans found⟩, works, here, own first found⟩
        · exact (not_preferred_direct works here).mpr (short other there)
        · have long := List.find?_some decider
          obtain ⟨active, bound⟩ := short other (List.mem_of_find?_eq_some decider)
          have brief : Short other := ⟨active, by unfold bsdvrThreshold; bv_omega⟩
          exact absurd brief (of_decide_eq_true long)

end Direct

theorem joined_direct (named : node.Named) (listed : origin ∈ node.neighbors)
    (absent : node.dvt.entry origin origin = none) :
    (∃ entry, (node.joined origin receiver).recompute.1.ft[origin]? = some entry ∧
      entry.DirectTo origin) ↔
      (∀ route ∈ node.competitors origin receiver, route.state = .active ∧ route.hops ≤ 1) ∧
        ∀ first ∈ (node.competitors origin receiver).find? (·.hops = 1),
          first.nextHop = origin := by
  have owned := @joined_rowsOwned node named origin receiver absent
  have added : (node.joined origin receiver).dvt.entry origin origin =
      some (node.helloEntry origin receiver) := by
    rw [joined_entry absent, if_pos ⟨rfl, rfl⟩]
  have member : node.helloEntry origin receiver ∈ candidates node.neighbors
      (node.joined origin receiver).dvt origin :=
    mem_candidates.mpr ⟨origin, listed, added⟩
  have computed := fun entry => @recomputed_eq_some_iff_worst node.mainAddress node.neighbors _
    node.ft origin entry owned
    (List.ne_nil_of_mem member)
  have table : (node.joined origin receiver).recompute.1.ft =
      (computeForwardingTable node.mainAddress node.neighbors
        (node.joined origin receiver).dvt node.ft).1 := by
    obtain ⟨table, frame⟩ := joined_frame node origin receiver
    have same : (node.joined origin receiver).mainAddress = node.mainAddress ∧
        (node.joined origin receiver).neighbors = node.neighbors := by rw [frame]; exact ⟨rfl, rfl⟩
    rw [recompute_ft, same.1, same.2, joined_ft]
  rw [table]
  simp only [computed]
  exact worst_direct (List.mem_append_right _ member) rfl

theorem exchangeHello_direct (named : node.Named) (listed : origin ∈ node.neighbors) :
    ((∃ route, (node.exchangeHello origin receiver).1.dvt.entry origin origin = some route ∧
      route.DirectTo origin) ∧
      ∃ entry, (node.exchangeHello origin receiver).1.ft[origin]? = some entry ∧
      entry.DirectTo origin) ↔
      node.FavoursDirect origin receiver := by
  rw [exchangeHello_eq]
  cases found : node.dvt.entry origin origin with
  | none =>
      have added : (node.joined origin receiver).recompute.1.dvt.entry origin origin =
          some (node.helloEntry origin receiver) := by
        rw [recompute_dvt, joined_entry found, if_pos ⟨rfl, rfl⟩]
      simp only [joined_direct named listed found, added, FavoursDirect, found]
      constructor
      · exact fun both => ⟨fun _ => both.2, fun _ none => nomatch none⟩
      · exact fun favours => ⟨⟨_, rfl, rfl, rfl, rfl⟩, favours.1 trivial⟩
  | some toNeighbor =>
      have stored := @refreshNeighbor_entry node origin receiver named toNeighbor found
        origin origin
      rw [if_pos ⟨rfl, rfl⟩] at stored
      have kept (entry : RoutingTableEntry) :
          (node.rewritten receiver toNeighbor entry).DirectTo origin ↔ entry.DirectTo origin := by
        obtain ⟨outputDevice, frame⟩ := node.rewritten_frame receiver toNeighbor entry
        rw [frame]
        rfl
      simp only [ensureRow_of_entry found, stored, refreshNeighbor_ft named found,
        FavoursDirect, found]
      constructor
      · rintro ⟨⟨route, heard, works, _⟩, entry, present, direct⟩
        obtain rfl := Option.some.inj heard
        obtain ⟨old, known, rfl⟩ := Option.map_eq_some_iff.mp present
        refine ⟨fun absent => (nomatch absent), fun other same => ?_⟩
        obtain rfl := Option.some.inj same
        exact ⟨works, old, known, (kept old).mp direct⟩
      · rintro ⟨_, favours⟩
        obtain ⟨works, old, known, direct⟩ := favours toNeighbor rfl
        exact ⟨⟨_, rfl, works, rfl, rfl⟩, _, Option.map_eq_some_iff.mpr ⟨old, known, rfl⟩,
          (kept old).mpr direct⟩

section Run
variable {interfaces : List Ipv4InterfaceAddress} {enableHello : Bool} {helloInterval : Time}
  {maxPRQueueLen : BitVec 32} {maxPRQueueTime : Time} {ok : Node → Event → Prop}

/-- A HELLO yields the direct route exactly where the tables favour it once the neighbour list has
been updated. -/
theorem yieldsDirect_iff_favoursDirect
    (reach : Reach next ok (initial interfaces enableHello helloInterval maxPRQueueLen maxPRQueueTime) node)
    (header : HelloHeader) (receiver : Ipv4Address) (hardware : Mac48Address)
    (enabled : node.enableHello = true) :
    node.YieldsDirect header receiver hardware ↔
      (node.updateNeighbors header.origin node.helloInterval hardware).1.FavoursDirect header.origin
        receiver := by
  have named := reach_named (initial_named _ _ _ _ _) reach
  have heard := @exchangeHello_direct _ header.origin receiver
    (named.updateNeighbors header.origin node.helloInterval hardware)
    (updateNeighbors_mem node header.origin node.helloInterval hardware)
  have same : (node.processHello header receiver hardware).1 =
      ((node.updateNeighbors header.origin node.helloInterval hardware).1.exchangeHello
        header.origin receiver).1 := by
    simp only [processHello, if_pos enabled]
  rw [← heard, ← same]
  exact ⟨fun yields => ⟨yields.stored, yields.forwarded⟩, fun both => ⟨both.1, both.2⟩⟩

end Run

theorem yieldsDirect_iff_favoursDirect_twoInterfaces :
    ∃ state, Reach next (fun _ _ => True) twoInterfaces state ∧
    0x0a010203#32 ∈ state.neighbors ∧ state.YieldsDirect ⟨0x0a010202#32,
      0x0a010202#32⟩ 0x0a010201#32 0 := by
  -- 10.1.2.3 is a neighbour
  obtain ⟨state, reach, checked⟩ := exists_reach_of_follow next (fun _ _ => True) twoInterfaces
    [.interfaceUp 1, hello1 0x0a010203#32]
    (fun state => decide (0x0a010203#32 ∈ state.neighbors) && (decide (state.enableHello = true) &&
      decide ((state.updateNeighbors 0x0a010202#32 state.helloInterval 0).1.FavoursDirect
        0x0a010202#32 0x0a010201#32)))
    (by decide +kernel)
  simp only [Bool.and_eq_true, decide_eq_true_eq] at checked
  obtain ⟨listed, enabled, favours⟩ := checked
  exact ⟨state, reach, listed, (yieldsDirect_iff_favoursDirect reach _ _ _ enabled).mpr favours⟩

theorem not_yieldsDirect_twoInterfaces : ∃ state, Reach next (fun _ _ => True) twoInterfaces state ∧
    state.enableHello = true ∧ ¬state.YieldsDirect ⟨0x0a010202#32,
      0x0a010202#32⟩ 0x0a010201#32 0 := by
  -- the neighbour 10.1.2.3 has told of 10.1.2.2, which it reaches in one hop
  obtain ⟨state, reach, checked⟩ := exists_reach_of_follow next (fun _ _ => True) twoInterfaces
    [.interfaceUp 1, update1 ⟨0x0a010203#32, 0x0a010202#32, 1, 1⟩, hello1 0x0a010203#32]
    (fun state => decide (state.enableHello = true) &&
      ((state.processHello ⟨0x0a010202#32, 0x0a010202#32⟩ 0x0a010201#32 0).1.ft[0x0a010202#32]?).all
      fun entry =>
        decide (¬RoutingTableEntry.DirectTo entry 0x0a010202#32)) (by decide +kernel)
  simp only [Bool.and_eq_true, decide_eq_true_eq] at checked
  refine ⟨state, reach, checked.1, fun yields => ?_⟩
  obtain ⟨entry, present, direct⟩ := yields.forwarded
  have apart := checked.2
  rw [present] at apart
  simp [direct] at apart

end Node

end Bsdvr
