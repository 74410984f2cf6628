import Bsdvr.Static.Invariant

namespace Bsdvr
open Foundation

namespace StaticNetwork
variable {V : Type} {net : StaticNetwork V}

/-- There is a walk of exactly `h` links from `x` to `v` that starts with the link to `y`. -/
def WalkThrough (net : StaticNetwork V) (x y v : V) (h : BitVec 32) : Prop :=
  ∃ (link : net.graph.Adj x y) (rest : net.graph.Walk y v),
    (SimpleGraph.Walk.cons link rest).length = h.toNat

/-- The hop count of an UPDATE, which `RecvUpdate` increases by one in a `uint8_t`, stays below
255. -/
def Short (h : BitVec 32) : Prop := h < 255

instance : DecidablePred Short := fun _ => inferInstanceAs (Decidable (_ < _))

theorem toNat_succ_of_short {h : BitVec 32} (short : Short h) :
    (((h + 1).setWidth 8).setWidth 32 : BitVec 32).toNat = h.toNat + 1 := by
  have bound : h.toNat < 255 := short
  have one : (1 : BitVec 32).toNat = 1 := rfl
  simp only [BitVec.toNat_setWidth, BitVec.toNat_add, one]
  omega

theorem walks_propagate : net.Propagates net.WalkThrough
    (fun y v h => ∃ walk : net.graph.Walk y v, walk.length = h.toNat) Short where
  direct x y link := ⟨link, .nil, rfl⟩
  extend := by
    rintro x y v h link ⟨walk, length⟩ short
    exact ⟨link, walk, by rw [SimpleGraph.Walk.length_cons, length, toNat_succ_of_short short]⟩
  advertise := by
    rintro x y v h _ ⟨link, rest, length⟩
    exact ⟨.cons link rest, length⟩

variable [DecidableEq V] [DecidableRel net.graph.Adj] {state : NetworkState V}

abbrev ShortReach (net : StaticNetwork V) [DecidableRel net.graph.Adj] : NetworkState V → Prop :=
  Reach net.toNetwork.next (fun state action => Allowed state action ∧
    Fits Short state action) net.toNetwork.initial

/-- Hop counts are sound: a route to a node through another node `n`, in the row of `n` or in the
forwarding table, has the length of a walk that starts with the link to `n`. -/
theorem hopCount_sound (reach : net.ShortReach state) {x v : V} {n : Ipv4Address}
    {route : RoutingTableEntry} (other : n ≠ net.address x)
    (held : (state.node x).dvt.entry n (net.address v) = some route ∨
      ((state.node x).ft[net.address v]? = some route ∧ route.nextHop = n)) :
    ∃ y, n = net.address y ∧ net.WalkThrough x y v route.hops := by
  have consistent := ((consistent_of_reach walks_propagate reach).nodes x).tables
  rcases held with stored | ⟨present, rfl⟩
  · obtain ⟨_, _, _, _, y, named, _, about⟩ := consistent.stored _ _ _ stored
    exact ⟨y, named, (about v rfl).2.1⟩
  · obtain ⟨_, _, about⟩ := consistent.forwarding _ _ present
    rcases about v rfl with ⟨_, own⟩ | ⟨_, _, y, next, _, _, walk⟩
    · exact absurd own other
    · exact ⟨y, next, walk⟩

theorem hopCount_sound_line : ∃ state route, (fourNodes [(0, 1), (1, 2)]).ShortReach state ∧
    (state.node 0).ft[(fourNodes [(0, 1), (1, 2)]).address 2]? = some route ∧ route.hops = 2 ∧
    ∃ y, route.nextHop = (fourNodes [(0, 1), (1, 2)]).address y ∧
      (fourNodes [(0, 1), (1, 2)]).WalkThrough 0 y 2 route.hops := by
  -- on the line of nodes 0, 1 and 2, node 0 learns of node 2 from node 1 before it hears node 1
  obtain ⟨state, reach, checked⟩ :=
    exists_reach_of_follow (fourNodes [(0, 1), (1, 2)]).toNetwork.next
    (fun state action => Allowed state action ∧ Fits Short state action)
    (fourNodes [(0, 1), (1, 2)]).toNetwork.initial
    (hears 1 2 ++ hears 1 0 ++ [.deliverUpdate 1 0] ++ hears 0 1)
    (fun state => ((state.node 0).ft[(fourNodes [(0, 1), (1, 2)]).address 2]?).any fun route =>
      route.hops = 2 ∧ route.nextHop ≠ (fourNodes [(0, 1), (1, 2)]).address 0) (by decide +kernel)
  obtain ⟨route, present, hops, other⟩ :
      ∃ route, (state.node 0).ft[(fourNodes [(0, 1), (1, 2)]).address 2]? = some route ∧
      route.hops = 2 ∧ route.nextHop ≠ (fourNodes [(0, 1), (1, 2)]).address 0 := by
    simpa [Option.any_eq_true] using checked
  exact ⟨state, route, reach, present, hops, hopCount_sound reach other (.inr ⟨present, rfl⟩)⟩

end StaticNetwork

end Bsdvr
