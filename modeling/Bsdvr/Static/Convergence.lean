import Bsdvr.Foundation.Distance
import Bsdvr.Static.HopCounts
import Bsdvr.Static.Settled

namespace Bsdvr
open Foundation

namespace StaticNetwork
variable {V : Type} (net : StaticNetwork V)

/-- No UPDATE is in flight, and every node has heard all its link neighbours. -/
structure Quiescent (state : NetworkState V) : Prop where
  updates : state.updates = []
  heard : ∀ x y, net.graph.Adj x y → net.address y ∈ (state.node x).neighbors

/-- Every node has an active route to every other node of its component, over a link neighbour on a
shortest path and with the length of that path. -/
def Converged (state : NetworkState V) : Prop :=
  ∀ x d, x ≠ d → net.graph.Reachable x d → ∃ entry, (state.node x).ft[net.address d]? = some entry ∧
    entry.state = .active ∧ entry.hops.toNat = net.graph.dist x d ∧
    ∃ y, entry.nextHop = net.address y ∧ net.graph.Adj x y ∧
      net.graph.dist x d = net.graph.dist y d + 1

def offer (node : Node) (y v : V) : Option ℕ :=
  if net.address v = net.address y then some 1
  else (node.dvt.entry (net.address y) (net.address v)).map fun route => route.hops.toNat

def Waiting (state : NetworkState V) (x : V) : Prop :=
  ∃ y, net.graph.Adj x y ∧ net.address y ∉ (state.node x).neighbors

def Has (state : NetworkState V) (x d : V) (hops : ℕ) : Prop :=
  ∃ entry ∈ (state.node x).ft[net.address d]?, entry.hops.toNat ≤ hops

/-- What `x` has told its neighbour `y` of a route of `hops` links to `d`: it is in flight, or
stored at `y` until `y` hears `x`, or `y` has a route as good. -/
def Told (state : NetworkState V) (x y d : V) (hops : ℕ) : Prop :=
  (∃ packet ∈ state.updates, packet.source = net.address x ∧ packet.destination = net.address y ∧
    packet.header.dst = net.address d) ∨
  (net.address x ∉ (state.node y).neighbors ∧
    ∃ route ∈ (state.node y).dvt.entry (net.address x) (net.address d),
      route.hops.toNat = hops + 1) ∨
  net.Has state y d (hops + 1)

def Agrees (state : NetworkState V) (x y : V) : Prop :=
  ∀ v, v ≠ x → ∀ hops ∈ net.offer (state.node x) y v, ∀ entry ∈ (state.node x).ft[net.address v]?,
    entry.hops.toNat = hops

/-- Where `x` learns of a destination from the new neighbour `y`, the other neighbours, whom it does
not tell, have a route as good, or have not yet heard all their link neighbours. -/
def Needless (state : NetworkState V) (x y : V) : Prop :=
  ∀ v, v ≠ x → ∀ hops ∈ net.offer (state.node x) y v, (state.node x).ft[net.address v]? = none →
    ∀ z, z ≠ v → net.address z ∈ (state.node x).neighbors → net.Waiting state z ∨
      net.Has state z v (hops + 1)

/-- If `y` is the last link neighbour that `x` hears, then `x` has been told of every route of its
neighbours that it has none as good as, or such a route comes with `y`. -/
def Completes (state : NetworkState V) (x y : V) : Prop :=
  (∀ z, net.graph.Adj x z → net.address z ∈ (state.node x).neighbors ∨ z = y) →
    ∀ z v, net.address x ∈ (state.node z).neighbors → v ≠ z → v ≠ x →
      ∀ entry ∈ (state.node z).ft[net.address v]?,
      net.Told state z x v entry.hops.toNat ∨ ∃ hops ∈ net.offer (state.node x) y v, hops ≤
        entry.hops.toNat + 1

/-- The receiver of an UPDATE that is dropped, since its sender is a neighbour, has a route as good
or has not yet heard all its link neighbours. -/
def Redundant (state : NetworkState V) (x : V) (packet : Packet) : Prop :=
  packet.source ∈ (state.node x).neighbors → ∀ v, v ≠ x → packet.header.dst = net.address v →
    net.Waiting state x ∨ net.Has state x v (packet.header.hopCount.toNat + 1)

/-- What is dropped, not announced and not replaced does no harm. -/
def Informs (state : NetworkState V) : Action V → Prop
  | .deliverUpdate k x => ∀ packet ∈ state.updates[k]?, net.Redundant state x packet
  | .deliverHello k _ => ∀ hello ∈ state.hellos[k]?, ∀ y, net.address y = hello.header.origin →
      net.address y ∉ (state.node hello.receiver).neighbors →
        net.Agrees state hello.receiver y ∧ net.Needless state hello.receiver y ∧
          net.Completes state hello.receiver y
  | _ => True

section Decide
variable [Fintype V] [DecidableEq V] [DecidableRel net.graph.Adj] (state : NetworkState V)

instance (x : V) : Decidable (net.Waiting state x) := inferInstanceAs (Decidable (∃ _, _))

instance (x d : V) (hops : ℕ) : Decidable (net.Has state x d hops) :=
  inferInstanceAs (Decidable (∃ _ ∈ _, _))

instance (x y d : V) (hops : ℕ) : Decidable (net.Told state x y d hops) :=
  inferInstanceAs (Decidable (_ ∨ _ ∨ _))

instance (x y : V) : Decidable (net.Agrees state x y) := inferInstanceAs (Decidable (∀ _, _))

instance (x y : V) : Decidable (net.Needless state x y) := inferInstanceAs (Decidable (∀ _, _))

instance (x y : V) : Decidable (net.Completes state x y) := inferInstanceAs (Decidable (_ → _))

instance (x : V) (packet : Packet) : Decidable (net.Redundant state x packet) :=
  inferInstanceAs (Decidable (_ → _))

instance (action : Action V) : Decidable (net.Informs state action) :=
  match action with
  | .deliverUpdate k x => inferInstanceAs (Decidable (∀ packet ∈
      state.updates[k]?, net.Redundant state x packet))
  | .deliverHello k _ => inferInstanceAs (Decidable (∀ hello ∈ state.hellos[k]?, ∀ _, _ →
      _ → _ ∧ _ ∧ _))
  | .event _ _ | .sendHello _ _ | .elapse _ => instDecidableTrue

end Decide

variable {net}

/-! ## The invariant -/

structure Informed (net : StaticNetwork V) (state : NetworkState V) : Prop where
  told : ∀ x y d, net.address y ∈ (state.node x).neighbors → d ≠ x → d ≠ y → ∀ entry,
    (state.node x).ft[net.address d]? = some entry → net.Waiting state y ∨
    net.Told state x y d entry.hops.toNat
  direct : ∀ x y, net.address y ∈ (state.node x).neighbors →
    ∃ entry, (state.node x).ft[net.address y]? = some entry ∧ entry.hops.toNat = 1
  current : ∀ packet ∈ state.updates, ∀ x d, packet.source = net.address x →
    packet.header.dst = net.address d →
    ∃ entry, (state.node x).ft[net.address d]? = some entry ∧ packet.header.hopCount = entry.hops

theorem Informed.converged {state : NetworkState V} (informed : net.Informed state)
    (sound : net.Consistent net.WalkThrough
      (fun y v h => ∃ walk : net.graph.Walk y v, walk.length = h.toNat) state)
    (quiescent : net.Quiescent state) : net.Converged state := by
  intro x d other reachable
  have through {x : V} (other : x ≠ d) {entry : RoutingTableEntry}
      (present : (state.node x).ft[net.address d]? = some entry) : entry.state = .active ∧
        ∃ y, entry.nextHop = net.address y ∧ net.WalkThrough x y d entry.hops := by
    obtain ⟨_, _, about⟩ := (sound.nodes x).tables.forwarding _ _ present
    rcases about d rfl with ⟨same, _⟩ | ⟨works, _, y, next, _, _, walk⟩
    · exact absurd same.symm other
    · exact ⟨works, y, next, walk⟩
  have relaxed : Relaxed net.graph d fun x => ((state.node x).ft[net.address d]?).map fun entry =>
      entry.hops.toNat := by
    constructor
    · intro x k other known
      obtain ⟨entry, present, rfl⟩ := Option.map_eq_some_iff.mp known
      obtain ⟨_, y, _, link, rest, length⟩ := through other present
      exact ⟨.cons link rest, length⟩
    · intro x link
      obtain ⟨entry, present, hops⟩ := informed.direct x d (quiescent.heard x d link)
      simp [present, hops]
    · intro x y k link otherX otherY known
      obtain ⟨entry, present, rfl⟩ := Option.map_eq_some_iff.mp known
      rcases informed.told y x d (quiescent.heard y x link.symm)
        otherY.symm otherX.symm entry present with
        ⟨z, toZ, unheard⟩ | ⟨packet, flying, _⟩ | ⟨unheard, _⟩ | ⟨here, found, bound⟩
      · exact absurd (quiescent.heard x z toZ) unheard
      · rw [quiescent.updates] at flying
        cases flying
      · exact absurd (quiescent.heard x y link) unheard
      · exact ⟨here.hops.toNat, by rw [Option.mem_def.mp found]; rfl, bound⟩
  obtain ⟨entry, present, hops⟩ := Option.map_eq_some_iff.mp (relaxed.eq_dist reachable other)
  obtain ⟨works, y, next, link, rest, length⟩ := through other present
  refine ⟨entry, present, works, hops, y, next, link, ?_⟩
  rw [SimpleGraph.Walk.length_cons, hops] at length
  have upper := SimpleGraph.dist_le rest
  obtain ⟨shortest, same⟩ := rest.reachable.exists_walk_length_eq_dist
  have lower := SimpleGraph.dist_le (SimpleGraph.Walk.cons link shortest)
  rw [SimpleGraph.Walk.length_cons] at lower
  omega

/-! ## Steps -/

section Step
variable {state after : NetworkState V} {x y : V}

theorem Waiting.congr {a : V} (waiting : net.Waiting state a)
    (neighbors : (after.node a).neighbors = (state.node a).neighbors) : net.Waiting after a := by
  obtain ⟨b, link, unheard⟩ := waiting
  exact ⟨b, link, neighbors ▸ unheard⟩

theorem Told.congr {a b d : V} {hops : ℕ} (told : net.Told state a b d hops)
    (updates : ∀ packet ∈ state.updates, packet ∈ after.updates)
    (neighbors : (after.node b).neighbors = (state.node b).neighbors)
    (entries : (after.node b).dvt.entry (net.address a) (net.address d) =
      (state.node b).dvt.entry (net.address a) (net.address d))
    (ft : (after.node b).ft[net.address d]? = (state.node b).ft[net.address d]?) :
    net.Told after a b d hops := by
  rcases told with
    ⟨packet, flying, about⟩ | ⟨unheard, route, found, longer⟩ | ⟨entry, present, bound⟩
  · exact .inl ⟨packet, updates packet flying, about⟩
  · exact .inr (.inl ⟨neighbors ▸ unheard, route, entries ▸ found, longer⟩)
  · exact .inr (.inr ⟨entry, ft ▸ present, bound⟩)

def Keeps (net : StaticNetwork V) (state after : NetworkState V) : Prop :=
  ∀ a d, d ≠ a → ∀ entry, (state.node a).ft[net.address d]? = some entry →
    (after.node a).ft[net.address d]? = some entry

theorem Informed.direct_kept (informed : net.Informed state) (supported : net.Supported state)
    (keeps : net.Keeps state after) {a b : V} (listed : net.address b ∈ (state.node a).neighbors) :
    ∃ entry, (after.node a).ft[net.address b]? = some entry ∧ entry.hops.toNat = 1 := by
  obtain ⟨entry, present, hops⟩ := informed.direct a b listed
  obtain ⟨z, same, link⟩ := (supported.trusted.nodes a).linked listed
  obtain rfl := address_inj.mp same
  exact ⟨entry, keeps a b link.ne' entry present, hops⟩

theorem Informed.current_kept (informed : net.Informed state) (supported : net.Supported state)
    (keeps : net.Keeps state after) {packet : Packet} (old : packet ∈ state.updates) {a d : V}
    (source : packet.source = net.address a) (dst : packet.header.dst = net.address d) :
    ∃ entry, (after.node a).ft[net.address d]? = some entry ∧
    packet.header.hopCount = entry.hops := by
  obtain ⟨b, _, own, _, _, _, remote⟩ := supported.trusted.updates packet old
  obtain rfl := address_inj.mp (own.symm.trans source)
  obtain ⟨entry, present, same⟩ := informed.current packet old b d source dst
  exact ⟨entry, keeps b d (remote d dst).1 entry present, same⟩

variable [DecidableEq V] {handled : Node × List Sent} {hellos : List (HelloPacket V)}
  {updates : List Packet}

theorem settle_neighbors (neighbors : handled.1.neighbors = (state.node x).neighbors) (a : V) :
    ((settle state x handled hellos updates).node a).neighbors = (state.node a).neighbors := by
  by_cases here : a = x
  · subst here
    rw [settle_self, neighbors]
  · rw [settle_other here]

theorem settle_ft
    (ft : ∀ v, v ≠ x → handled.1.ft[net.address v]? = (state.node x).ft[net.address v]?) {a d : V}
    (other : d ≠ a) : ((settle state x handled hellos updates).node a).ft[net.address d]? =
      (state.node a).ft[net.address d]? := by
  by_cases here : a = x
  · subst here
    rw [settle_self]
    exact ft d other
  · rw [settle_other here]

theorem settle_keeps
    (ft : ∀ v, v ≠ x → ∀ entry, (state.node x).ft[net.address v]? = some entry →
      handled.1.ft[net.address v]? = some entry) :
    net.Keeps state (settle state x handled hellos updates) := by
  intro a d other entry present
  by_cases here : a = x
  · subst here
    rw [settle_self]
    exact ft d other entry present
  · rwa [settle_other here]

theorem settle_current {node : Node} (setup : net.Setup x node) (named : handled.1.Named)
    (own : node.SendsOwn handled) {packet : Packet} (sent : packet ∈ Network.packets handled.2)
    {a d : V} (source : packet.source = net.address a) (dst : packet.header.dst = net.address d) :
    ∃ entry, ((settle state x handled hellos updates).node a).ft[net.address d]? = some entry ∧
      packet.header.hopCount = entry.hops := by
  obtain ⟨here, entry, present, hops⟩ := packets_own setup named own packet sent
  obtain rfl := address_inj.mp (here.symm.trans source)
  rw [settle_self, ← dst]
  exact ⟨entry, present, hops⟩

/-! ### An UPDATE -/

def updated (net : StaticNetwork V) (state : NetworkState V) (x y : V) (header : UpdateHeader)
    (k : Nat) : NetworkState V :=
  settle state x ((state.node x).recvUpdate header (net.address x) (net.address y)) state.hellos
    (state.updates.eraseIdx k)

section Update
variable {k : Nat} {header : UpdateHeader}

theorem updated_neighbors (a : V) :
    ((net.updated state x y header k).node a).neighbors = (state.node a).neighbors := by
  obtain ⟨prqueue, frame, _⟩ :=
    Node.recvUpdate_frame (state.node x) header (net.address x) (net.address y)
  apply settle_neighbors
  rw [frame]
  rfl

variable (supported : net.Supported state)
  (found : state.updates[k]? = some ⟨net.address y, net.address x, header⟩)
include supported found

omit [DecidableEq V] in
theorem update_genuine (v : V) (same : header.dst = net.address v) :
    v ≠ y ∧ header.binaryState = 1 := by
  obtain ⟨z, _, source, _, _, _, genuine⟩ :=
    supported.trusted.updates _ (List.mem_of_getElem? found)
  obtain rfl := address_inj.mp source
  exact ⟨(genuine v same).1, (genuine v same).2.1⟩

theorem updated_ft {a d : V} (other : d ≠ a) :
    ((net.updated state x y header k).node a).ft[net.address d]? =
      (state.node a).ft[net.address d]? := by
  refine settle_ft (fun v apart => ?_) other
  exact ((supported.trusted.nodes x).recvUpdate_settled (update_genuine supported found)
    (supported.settled x v apart)).1

theorem updated_keeps : net.Keeps state (net.updated state x y header k) := by
  intro a d other entry present
  rwa [updated_ft supported found other]

theorem updated_entry (a d : V) :
    ((net.updated state x y header k).node x).dvt.entry (net.address a) (net.address d) =
    if ¬(net.address y ∈ (state.node x).neighbors ∧ ((state.node x).dvt[net.address y]?).isSome) ∧
      net.address a = net.address y ∧ net.address d = header.dst then
        some ((state.node x).updateEntry header (net.address x) (net.address y))
    else (state.node x).dvt.entry (net.address a) (net.address d) := by
  obtain ⟨prqueue, frame, _⟩ :=
    Node.recvUpdate_frame (state.node x) header (net.address x) (net.address y)
  rw [updated, settle_self, frame]
  exact learn_entry (failed_unnamed (update_genuine supported found)) _ _

/-- The UPDATE that is delivered is stored, or dropped where the receiver does as well without
it. -/
theorem Informed.delivered (informed : net.Informed state)
    (fits : Fits Short state (.deliverUpdate k x))
    (informs : net.Informs state (.deliverUpdate k x)) {d : V} (otherX : d ≠ x)
    (dst : header.dst = net.address d) {entry : RoutingTableEntry}
    (present : (state.node y).ft[net.address d]? = some entry) :
    net.Waiting (net.updated state x y header k) x ∨ net.Told
      (net.updated state x y header k) y x d entry.hops.toNat := by
  obtain ⟨same, there, equal⟩ := informed.current _ (List.mem_of_getElem? found) y d rfl dst
  obtain rfl := Option.some.inj (there.symm.trans present)
  have longer : ((state.node x).updateEntry header (net.address x) (net.address y)).hops.toNat =
      header.hopCount.toNat + 1 := toNat_succ_of_short (fits _ found)
  by_cases heard : net.address y ∈ (state.node x).neighbors
  · rcases informs _ found heard d otherX dst with waiting | ⟨other, held, bound⟩
    · exact .inl (waiting.congr (updated_neighbors x))
    · exact .inr (.inr (.inr ⟨other, by rwa [updated_ft supported found otherX], equal ▸ bound⟩))
  · refine .inr (.inr (.inl ⟨by rwa [updated_neighbors], _, ?_, equal ▸ longer⟩))
    rw [Option.mem_def, updated_entry supported found,
      if_pos ⟨fun known => heard known.1, rfl, dst.symm⟩]

theorem Told.updated (informed : net.Informed state) (fits : Fits Short state (.deliverUpdate k x))
    (informs : net.Informs state (.deliverUpdate k x)) {a b d : V} (otherB : d ≠ b)
    {entry : RoutingTableEntry} (present : (state.node a).ft[net.address d]? = some entry)
    (told : net.Told state a b d entry.hops.toNat) :
    net.Waiting (net.updated state x y header k) b ∨ net.Told
      (net.updated state x y header k) a b d entry.hops.toNat := by
  rcases told with ⟨packet, flying, origin, destination, dst⟩ | ⟨unheard, route, stored,
    more⟩ | ⟨other, there, bound⟩
  · obtain ⟨j, bound, here⟩ := List.getElem_of_mem flying
    by_cases delivered : j = k
    · subst delivered
      have same := found
      rw [List.getElem?_eq_getElem bound, here, Option.some.injEq] at same
      subst same
      obtain rfl := address_inj.mp origin
      obtain rfl := address_inj.mp destination
      exact informed.delivered supported found fits informs otherB dst present
    · refine .inr (.inl ⟨packet, List.mem_append_left _ ?_, origin, destination, dst⟩)
      exact List.mem_eraseIdx_iff_getElem?.mpr ⟨j, delivered,
        by rw [List.getElem?_eq_getElem bound, here]⟩
  · refine .inr (.inr (.inl ⟨by rwa [updated_neighbors], ?_⟩))
    by_cases here : b = x
    · subst here
      rw [updated_entry supported found]
      split
      · rename_i new
        obtain rfl := address_inj.mp new.2.1
        obtain ⟨same, held, equal⟩ :=
          informed.current _ (List.mem_of_getElem? found) a d rfl new.2.2.symm
        obtain rfl := Option.some.inj (held.symm.trans present)
        exact ⟨_, rfl, (toNat_succ_of_short (fits _ found)).trans (by rw [equal])⟩
      · exact ⟨route, stored, more⟩
    · rw [StaticNetwork.updated, settle_other here]
      exact ⟨route, stored, more⟩
  · exact .inr (.inr (.inr ⟨other, by rwa [updated_ft supported found otherB], bound⟩))

theorem Informed.update (informed : net.Informed state)
    (fits : Fits Short state (.deliverUpdate k x))
    (informs : net.Informs state (.deliverUpdate k x)) :
    net.Informed (net.updated state x y header k) := by
  have consistent := supported.trusted.nodes x
  have keeps := updated_keeps supported found
  refine ⟨fun a b d listed otherA otherB entry present => ?_, fun a b listed => ?_,
    fun packet member a d source dst => ?_⟩
  · rw [updated_neighbors] at listed
    rw [updated_ft supported found otherA] at present
    rcases informed.told a b d listed otherA otherB entry present with waiting | told
    · exact .inl (waiting.congr (updated_neighbors b))
    · exact told.updated supported found informed fits informs otherB present
  · rw [updated_neighbors] at listed
    exact informed.direct_kept supported keeps listed
  · rcases List.mem_append.mp member with old | new
    · exact informed.current_kept supported keeps (List.mem_of_mem_eraseIdx old) source dst
    · exact settle_current consistent.setup
        (consistent.named.recvUpdate header (net.address x) (net.address y))
        (Node.recvUpdate_sendsOwn _ _ _) new source dst

end Update

/-! ### A HELLO -/

omit [DecidableEq V] in
theorem offer_of_brought {node : Node} {v : V} {route : RoutingTableEntry}
    (brought : NodeConsistent.brought net node x y v = some route) :
    net.offer node y v = some route.hops.toNat := by
  unfold NodeConsistent.brought at brought
  unfold offer
  split at brought
  · rename_i direct
    rw [if_pos direct, ← Option.some.inj brought]
    rfl
  · rename_i other
    rw [if_neg other, brought]
    rfl

omit [DecidableEq V] in
theorem brought_of_offer {node : Node} {v : V} {hops : ℕ} (x : V)
    (offered : net.offer node y v = some hops) :
    ∃ route, NodeConsistent.brought net node x y v = some route ∧ route.hops.toNat = hops := by
  unfold offer at offered
  unfold NodeConsistent.brought
  split at offered
  · rename_i direct
    exact ⟨_, if_pos direct, Option.some.inj offered⟩
  · rename_i other
    obtain ⟨route, found, same⟩ := Option.map_eq_some_iff.mp offered
    exact ⟨route, by rw [if_neg other, found], same⟩

omit [DecidableEq V] in
theorem join_keeps {via : V → V → V → BitVec 32 → Prop} {node : Node} {nb : Neighbors} {v : V}
    (consistent : net.NodeConsistent via x node)
    (listed : nb.addresses = node.neighbors ++ [net.address y])
    (absent : node.dvt.entry (net.address y) (net.address y) = none)
    (settled : node.SettledAt (net.address v)) (other : v ≠ x) {entry : RoutingTableEntry}
    (present : node.ft[net.address v]? = some entry)
    (same : ∀ hops ∈ net.offer node y v, entry.hops.toNat = hops) :
    ((node.setNb nb).joined (net.address y) (net.address x)).recompute.1.ft[net.address v]? =
      some entry := by
  rcases NodeConsistent.join_ft_some consistent listed absent settled present
    with kept | ⟨route, brought, better, _⟩
  · exact kept
  · have equal : entry.hops = route.hops :=
      BitVec.eq_of_toNat_eq (same _ (offer_of_brought brought))
    obtain ⟨_, _, about⟩ := consistent.tables.forwarding _ _ present
    have works : entry.state = .active := by
      rcases about v rfl with ⟨here, _⟩ | ⟨works, _⟩
      · exact absurd here other
      · exact works
    have worksToo : route.state = .active := by
      unfold NodeConsistent.brought at brought
      split at brought
      · rw [← Option.some.inj brought]
        rfl
      · obtain ⟨_, _, _, _, _, _, _, about⟩ := consistent.tables.stored _ _ _ brought
        exact (about v rfl).1
    simp [isBetterRoute, works, worksToo, equal] at better

omit [DecidableEq V] in
theorem exchange_told {via : V → V → V → BitVec 32 → Prop} {node : Node} {d : V}
    (consistent : net.NodeConsistent via x node) (otherX : d ≠ x) (otherY : d ≠ y)
    {entry : RoutingTableEntry} (present : node.ft[net.address d]? = some entry) :
    ∃ packet ∈ Network.packets (node.sendTriggeredUpdateToNeighbor (net.address y)),
      packet.source = net.address x ∧ packet.destination = net.address y ∧
      packet.header.dst = net.address d := by
  obtain ⟨destination, _, about⟩ := consistent.tables.forwarding _ _ present
  have onIface : entry.iface = net.iface x := by
    rcases about d rfl with ⟨here, _⟩ | ⟨_, own, _⟩
    · exact absurd here otherX
    · exact own
  have socket : (node.sendUpdate entry (net.address y)).socket = some ⟨2, 1, net.address x⟩ := by
    show node.findSocketWithInterfaceAddress entry.iface = _
    rw [onIface, consistent.setup.findSocket]
  have sent : node.sendUpdate entry (net.address y) ∈
      node.sendTriggeredUpdateToNeighbor (net.address y) := by
    refine Node.mem_sendTriggeredUpdateToNeighbor.mpr ⟨net.address d, entry, present, ?_, ?_, ?_,
      address_ne_loopback d, rfl⟩
    · rw [destination]
      exact net.notUnset d
    · rw [consistent.setup.mainAddress]
      exact fun same => otherX (address_inj.mp same)
    · exact fun same => otherY (address_inj.mp same)
  exact ⟨_, List.mem_filterMap.mpr ⟨_, sent, by rw [socket]; rfl⟩, rfl, rfl, destination⟩

theorem Informed.refreshed (informed : net.Informed state) (supported : net.Supported state)
    (silent : handled.2 = []) (neighborsX : handled.1.neighbors = (state.node x).neighbors)
    (ftX : ∀ v, v ≠ x → handled.1.ft[net.address v]? = (state.node x).ft[net.address v]?)
    (entriesX : ∀ n dst, handled.1.dvt.entry n dst = (state.node x).dvt.entry n dst) :
    net.Informed (settle state x handled hellos state.updates) := by
  have neighbors := @settle_neighbors V state x _ handled hellos state.updates neighborsX
  have ft {a d : V} (other : d ≠ a) :=
    @settle_ft V net state x _ handled hellos state.updates ftX a d other
  have keeps : net.Keeps state (settle state x handled hellos state.updates) := by
    intro a d other entry present
    rwa [ft other]
  have entries (a : V) (n dst : Ipv4Address) :
      ((settle state x handled hellos state.updates).node a).dvt.entry n dst =
      (state.node a).dvt.entry n dst := by
    by_cases here : a = x
    · subst here
      rw [settle_self]
      exact entriesX n dst
    · rw [settle_other here]
  refine ⟨fun a b d heard otherA otherB entry present => ?_, fun a b heard => ?_,
    fun packet member a d source dst => ?_⟩
  · rw [neighbors] at heard
    rw [ft otherA] at present
    rcases informed.told a b d heard otherA otherB entry present with waiting | told
    · exact .inl (waiting.congr (neighbors b))
    · exact .inr (told.congr (fun _ => List.mem_append_left _) (neighbors b) (entries b _ _)
        (ft otherB))
  · rw [neighbors] at heard
    exact informed.direct_kept supported keeps heard
  · have old : packet ∈ state.updates := by
      have both : packet ∈ state.updates ++ Network.packets handled.2 := member
      rw [silent] at both
      simpa [Network.packets] using both
    exact informed.current_kept supported keeps old source dst

structure Joining (net : StaticNetwork V) (state : NetworkState V) (x y : V)
    (node : Node) : Prop where
  neighbors : node.neighbors = (state.node x).neighbors ++ [net.address y]
  entries : ∀ n dst, n ≠ net.address y → node.dvt.entry n dst = (state.node x).dvt.entry n dst
  kept : ∀ v, v ≠ x → ∀ entry, (state.node x).ft[net.address v]? = some entry →
    node.ft[net.address v]? = some entry
  new : ∀ v, v ≠ x → (state.node x).ft[net.address v]? = none →
    node.ft[net.address v]? = NodeConsistent.brought net (state.node x) x y v
  agrees : net.Agrees state x y

omit [DecidableEq V] in
theorem joining_of_agrees (supported : net.Supported state) {nb : Neighbors}
    (absent : (state.node x).dvt.entry (net.address y) (net.address y) = none)
    (added : nb.addresses = (state.node x).neighbors ++ [net.address y])
    (agrees : net.Agrees state x y) :
    net.Joining state x y (((state.node x).setNb nb).joined (net.address y)
      (net.address x)).recompute.1 where
  neighbors := by
    rw [← added]
    exact @NodeConsistent.joined_neighbors V net x y (state.node x) nb
  entries n dst other := NodeConsistent.joined_entry_old absent other dst
  kept v other entry present :=
  join_keeps (supported.trusted.nodes x) added absent (supported.settled x v other) other
    present fun hops offered => agrees v other hops offered entry present
  new v other unknown :=
    NodeConsistent.join_ft_none (supported.trusted.nodes x) added absent
    (supported.settled x v other) unknown
  agrees := agrees

namespace Joining
variable {node : Node} (joining : net.Joining state x y node)
include joining

omit [DecidableEq V] in
theorem taken {v : V} (other : v ≠ x) {route : RoutingTableEntry}
    (brought : NodeConsistent.brought net (state.node x) x y v = some route) :
    ∃ entry, node.ft[net.address v]? = some entry ∧ entry.hops.toNat = route.hops.toNat := by
  cases known : (state.node x).ft[net.address v]? with
  | none => exact ⟨route, (joining.new v other known).trans brought, rfl⟩
  | some entry =>
      exact ⟨entry, joining.kept v other entry known,
        joining.agrees v other _ (offer_of_brought brought) entry known⟩

omit [DecidableEq V] in
theorem matched {v : V} (other : v ≠ x) {hops : ℕ}
    (offered : net.offer (state.node x) y v = some hops) :
    ∃ entry, node.ft[net.address v]? = some entry ∧ entry.hops.toNat = hops := by
  obtain ⟨route, brought, rfl⟩ := brought_of_offer x offered
  exact joining.taken other brought

theorem told {sent : List Sent} {a b d : V} (otherA : d ≠ a) (otherB : d ≠ b) {hops : ℕ}
    (told : net.Told state a b d hops) :
    net.Told (settle state x (node, sent) hellos state.updates) a b d hops := by
  by_cases here : b = x
  · subst here
    rcases told with
      ⟨packet, flying, about⟩ | ⟨unheard, route, stored, longer⟩ | ⟨entry, present, bound⟩
    · exact .inl ⟨packet, List.mem_append_left _ flying, about⟩
    · right
      rw [settle_self, joining.neighbors]
      by_cases own : a = y
      · subst own
        right
        have apart : net.address d ≠ net.address a := fun same => otherA (address_inj.mp same)
        obtain ⟨entry, present, same⟩ :=
          joining.taken otherB (by rwa [NodeConsistent.brought, if_neg apart])
        exact ⟨entry, by rw [settle_self]; exact present, by rw [same, longer]⟩
      · have apart : net.address a ≠ net.address y := fun same => own (address_inj.mp same)
        exact .inl ⟨by simp [unheard, own], route, by rwa [joining.entries _ _ apart], longer⟩
    · exact .inr (.inr ⟨entry, by rw [settle_self]; exact joining.kept d otherB entry present,
        bound⟩)
  · exact told.congr (fun _ => List.mem_append_left _) (by rw [settle_other here])
      (by rw [settle_other here])
      (by rw [settle_other here])

theorem tells (informed : net.Informed state) (supported : net.Supported state)
    (after : net.NodeConsistent (fun _ _ _ _ => True) x node) (needless : net.Needless state x y)
    {b d : V} (heard : net.address b ∈ node.neighbors) (otherX : d ≠ x) (otherB : d ≠ b)
    {entry : RoutingTableEntry} (present : node.ft[net.address d]? = some entry) :
    net.Waiting (settle state x (node, node.sendTriggeredUpdateToNeighbor (net.address y))
      hellos state.updates) b ∨
      net.Told (settle state x (node, node.sendTriggeredUpdateToNeighbor (net.address y))
        hellos state.updates) x b d
        entry.hops.toNat := by
  by_cases own : b = y
  · subst own
    obtain ⟨packet, sent, about⟩ := exchange_told after otherX otherB present
    exact .inr (.inl ⟨packet, List.mem_append_right _ sent, about⟩)
  · have old : net.address b ∈ (state.node x).neighbors := by
      rw [joining.neighbors] at heard
      simpa [own] using heard
    obtain ⟨z, same, link⟩ := (supported.trusted.nodes x).linked old
    obtain rfl := address_inj.mp same
    have waits (waiting : net.Waiting state b) := @Waiting.congr V net state
      (settle state x (node, node.sendTriggeredUpdateToNeighbor (net.address y))
        hellos state.updates) b waiting
      (by rw [settle_other link.ne'])
    cases known : (state.node x).ft[net.address d]? with
    | some before =>
        obtain rfl := Option.some.inj ((joining.kept d otherX before known).symm.trans present)
        rcases informed.told x b d old otherX otherB before known with waiting | before
        · exact .inl (waits waiting)
        · exact .inr (joining.told otherX otherB before)
    | none =>
        rw [joining.new d otherX known] at present
        rcases needless d otherX _ (offer_of_brought present) known b otherB.symm old
          with waiting | ⟨other, there, bound⟩
        · exact .inl (waits waiting)
        · exact .inr (.inr (.inr ⟨other, by rw [settle_other link.ne']; exact there, bound⟩))

/-- Whoever has heard `x` has told it all, unless `x` still waits for others. -/
theorem learns {sent : List Sent} (completes : net.Completes state x y) {a d : V}
    (heard : net.address x ∈ (state.node a).neighbors) (otherA : d ≠ a) (otherX : d ≠ x)
    {entry : RoutingTableEntry} (present : (state.node a).ft[net.address d]? = some entry) :
    net.Waiting (settle state x (node, sent) hellos state.updates) x ∨
      net.Told (settle state x (node, sent) hellos state.updates) a x d entry.hops.toNat := by
  by_cases last : ∀ z, net.graph.Adj x z → net.address z ∈ (state.node x).neighbors ∨ z = y
  · right
    rcases completes last a d heard otherA otherX entry present with before | ⟨hops, offered, bound⟩
    · exact joining.told otherA otherX before
    · obtain ⟨same, found, equal⟩ := joining.matched otherX offered
      exact .inr (.inr ⟨same, by rw [settle_self]; exact found, by rwa [equal]⟩)
  · left
    push Not at last
    obtain ⟨z, link, unheard, other⟩ := last
    exact ⟨z, link, by rw [settle_self, joining.neighbors]; simp [unheard, other]⟩

end Joining

theorem Informed.joined (informed : net.Informed state) (supported : net.Supported state)
    (link : net.graph.Adj x y) {node : Node} (joining : net.Joining state x y node)
    (after : net.NodeConsistent (fun _ _ _ _ => True) x node) (needless : net.Needless state x y)
    (completes : net.Completes state x y) :
    net.Informed (settle state x (node, node.sendTriggeredUpdateToNeighbor (net.address y))
      hellos state.updates) := by
  set handled := (node, node.sendTriggeredUpdateToNeighbor (net.address y)) with hhandled
  have keeps : net.Keeps state (settle state x handled hellos state.updates) :=
    settle_keeps joining.kept
  refine ⟨fun a b d heard otherA otherB entry present => ?_, fun a b heard => ?_,
    fun packet member a d source dst => ?_⟩
  · by_cases here : a = x
    · subst here
      rw [settle_self] at heard present
      exact joining.tells informed supported after needless heard otherA otherB present
    · rw [settle_other here] at heard present
      by_cases own : b = x
      · subst own
        exact joining.learns completes heard otherA otherB present
      · rcases informed.told a b d heard otherA otherB entry present with waiting | before
        · exact .inl (waiting.congr (by rw [settle_other own]))
        · exact .inr (joining.told otherA otherB before)
  · by_cases here : a = x ∧ b = y
    · obtain ⟨rfl, rfl⟩ := here
      rw [settle_self]
      exact joining.taken link.ne' (by rw [NodeConsistent.brought, if_pos rfl])
    · refine informed.direct_kept supported keeps ?_
      by_cases own : a = x
      · subst own
        rw [settle_self, hhandled, joining.neighbors] at heard
        have apart : b ≠ y := fun same => here ⟨rfl, same⟩
        simpa [apart] using heard
      · rwa [settle_other own] at heard
  · rcases List.mem_append.mp member with old | sent
    · exact informed.current_kept supported keeps old source dst
    · have sends : node.SendsOwn handled := by
        intro sent member
        obtain ⟨dst, entry, present, _, _, _, _, same⟩ :=
          Node.mem_sendTriggeredUpdateToNeighbor.mp member
        exact ⟨net.address y, dst, entry, present, same⟩
      exact settle_current after.setup after.named sends sent source dst

theorem Informed.step {action : Action V} (informed : net.Informed state)
    (supported : net.Supported state) (fits : Fits Short state action)
    (informs : net.Informs state action) (step : net.Step state action after) :
    net.Informed after := by
  have trusted := (supported.step step).trusted
  cases step with
  | idle action duration hellos sent => exact ⟨informed.told, informed.direct, informed.current⟩
  | @hello y k hello nb hardware found header link listed =>
      rcases (supported.trusted.nodes hello.receiver).hello_cases (supported.settled _) listed with
        ⟨_, silent, neighbors, ft, entries⟩ | ⟨stranger, absent, added, exchanged⟩
      · exact informed.refreshed supported silent neighbors ft entries
      · have node := trusted.nodes hello.receiver
        rw [exchanged] at node ⊢
        obtain ⟨agrees, needless, completes⟩ := informs hello found y (by rw [header]) stranger
        exact informed.joined supported link (joining_of_agrees supported absent added agrees)
          (by simpa using node) needless
          completes
  | update link found origin => exact Informed.update supported found informed fits informs

end Step

/-! ## Runs -/

variable [DecidableEq V] [DecidableRel net.graph.Adj] {state : NetworkState V}

/-- In a run in which what is dropped, not announced and not replaced does no harm, a quiescent
network has found the shortest paths. -/
theorem converged_of_informs
    (reach : Reach net.toNetwork.next (fun state action => Allowed state action ∧
      Fits Short state action ∧ net.Informs state action) net.toNetwork.initial state)
    (quiescent : net.Quiescent state) : net.Converged state := by
  have start : net.Informed net.toNetwork.initial := by
    refine ⟨fun x y d heard => ?_, fun x y heard => ?_, by simp [Network.initial]⟩ <;>
      simp [Network.initial, Node.neighbors, (start_lists x).1] at heard
  have informed : net.Supported state ∧ net.Informed state := by
    refine reach.invariant (P := fun state => net.Supported state ∧ net.Informed state)
      ⟨supported_of_reach (fun _ _ => id) .start, start⟩ ?_
    rintro before action after ⟨supported, informed⟩ ⟨allowed, fits, informs⟩ taken
    have step := step_of_next supported.trusted allowed taken
    exact ⟨supported.step step, informed.step supported fits informs step⟩
  exact informed.2.converged (consistent_of_reach walks_propagate
    (reach.mono fun _ _ guard => ⟨guard.1, guard.2.1⟩)) quiescent

/-! ## Two networks of four nodes

In the kite every two nodes but 0 and 3 are linked; node 0 learns of node 3 from node 1 and node 3 of node 0 from
node 2, each before it hears that node. On the line node 1 hears node 0 before node 2, and never tells it. -/

instance [Fintype V] : Decidable (net.Quiescent state) :=
  decidable_of_iff (state.updates = [] ∧ ∀ x y, net.graph.Adj x y →
    net.address y ∈ (state.node x).neighbors)
    ⟨fun both => ⟨both.1, both.2⟩, fun quiescent => ⟨quiescent.updates, quiescent.heard⟩⟩

def InOrder (state : NetworkState V) : Action V → Prop
  | .deliverUpdate k _ => ∀ packet ∈ state.updates[k]?, ∀ earlier ∈ state.updates.take k,
      ¬(earlier.source = packet.source ∧ earlier.destination = packet.destination)
  | _ => True

instance (action : Action V) : Decidable (InOrder state action) :=
  match action with
  | .deliverUpdate k _ => inferInstanceAs (Decidable (∀ packet ∈ state.updates[k]?,
      ∀ earlier ∈ state.updates.take k, ¬(_ ∧ _)))
  | .event _ _ | .sendHello _ _ | .deliverHello _ _ | .elapse _ => instDecidableTrue

def kite : StaticNetwork (Fin 4) := fourNodes [(0, 1), (0, 2), (1, 2), (1, 3), (2, 3)]

instance : DecidableRel kite.graph.Adj := inferInstanceAs (DecidableRel (fourNodes _).graph.Adj)

def drain (nodes : List (Fin 4)) : List (Action (Fin 4)) := nodes.map (.deliverUpdate 0)

theorem converged_of_informs_kite :
    ∃ state, Reach kite.toNetwork.next (fun state action => Allowed state action ∧
    Fits Short state action ∧ kite.Informs state action) kite.toNetwork.initial state ∧
    kite.Converged state := by
  obtain ⟨state, reach, checked⟩ := exists_reach_of_follow kite.toNetwork.next (fun state action =>
      Allowed state action ∧ Fits Short state action ∧
      kite.Informs state action) kite.toNetwork.initial
    (hears 1 3 ++ hears 2 0 ++ hears 1 0 ++ hears 2 3 ++ [.deliverUpdate 2 0, .deliverUpdate 3 3] ++
      hears 0 1 ++
      hears 3 2 ++ hears 1 2 ++ hears 2 1 ++ hears 0 2 ++ hears 3 1 ++
      drain [3, 0, 0, 3, 1, 1, 2, 2, 2, 2, 2, 1, 1, 1, 2, 2, 2, 1, 1, 1])
    (fun state => decide (kite.Quiescent state)) (by decide +kernel)
  exact ⟨state, reach, converged_of_informs reach (of_decide_eq_true checked)⟩

def line : StaticNetwork (Fin 4) := fourNodes [(0, 1), (1, 2), (2, 3)]

instance : DecidableRel line.graph.Adj := inferInstanceAs (DecidableRel (fourNodes _).graph.Adj)

theorem not_converged_line : (∀ x d, line.graph.dist x d < bsdvrThreshold.toNat) ∧
    ∃ state, Reach line.toNetwork.next (fun state action => Allowed state action ∧
      InOrder state action)
      line.toNetwork.initial state ∧ line.Quiescent state ∧ ¬line.Converged state := by
  constructor
  · intro x d
    by_cases reachable : line.graph.Reachable x d
    · obtain ⟨path, isPath, length⟩ := reachable.exists_path_of_dist
      rw [← length]
      exact isPath.length_lt.trans (by decide)
    · rw [SimpleGraph.dist_eq_zero_of_not_reachable reachable]
      decide
  · obtain ⟨state, reach, checked⟩ := exists_reach_of_follow line.toNetwork.next
      (fun state action =>
        Allowed state action ∧ InOrder state action) line.toNetwork.initial
      (hears 1 0 ++ hears 1 2 ++ hears 0 1 ++ hears 2 1 ++ hears 2 3 ++ hears 3 2 ++ drain [0, 2, 2,
        1, 1, 3, 3, 2])
      (fun state => decide (line.Quiescent state) && ((state.node 0).ft[line.address 2]?).isNone)
      (by decide +kernel)
    rw [Bool.and_eq_true, decide_eq_true_eq, Option.isNone_iff_eq_none] at checked
    refine ⟨state, reach, checked.1, fun converged => ?_⟩
    have link01 : line.graph.Adj 0 1 := by decide
    have link12 : line.graph.Adj 1 2 := by decide
    obtain ⟨entry, present, _⟩ :=
      converged 0 2 (by decide) (link01.reachable.trans link12.reachable)
    rw [checked.2] at present
    cases present

end StaticNetwork

end Bsdvr
