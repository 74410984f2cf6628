import Bsdvr.Proof.FakeRoutes
import Bsdvr.Model.Node

namespace Bsdvr
open Foundation

/-- What is asked of the entries of a node's tables: of those in the forwarding table, of those in
the row of a neighbour, and which rows there are at least. -/
structure Contract where
  forwarding : Ipv4Address → RoutingTableEntry → Prop
  stored : Ipv4Address → Ipv4Address → RoutingTableEntry → Prop
  known : Ipv4Address → Prop

namespace Contract

structure Holds (contract : Contract) (node : Node) : Prop where
  forwarding : ∀ dst entry, node.ft[dst]? = some entry → contract.forwarding dst entry
  stored : ∀ neighbor dst route, node.dvt.entry neighbor dst = some route →
    contract.stored neighbor dst route
  known : ∀ neighbor, contract.known neighbor → (node.dvt[neighbor]?).isSome

theorem Holds.congr {contract : Contract} {node after : Node} (holds : contract.Holds node)
    (same : after.routingTable = node.routingTable) : contract.Holds after where
  forwarding dst entry present := holds.forwarding dst entry (by rwa [Node.ft, same] at present)
  stored neighbor dst route found :=
  holds.stored neighbor dst route (by rwa [Node.dvt, same] at found)
  known neighbor needed := by
    rw [Node.dvt, same]
    exact holds.known neighbor needed

structure Closed (contract : Contract) (neighbors : List Ipv4Address) : Prop where
  adopt : ∀ neighbor ∈ neighbors, ∀ dst route, contract.stored neighbor dst route →
    contract.forwarding dst route
  refresh : ∀ dst entry route, contract.forwarding dst entry →
    contract.stored entry.nextHop dst route →
    (∃ neighbor ∈ neighbors, ∃ other, contract.stored neighbor dst other) →
    contract.forwarding dst route
  retire : ∀ dst entry, contract.forwarding dst entry → ¬contract.known entry.nextHop →
    (∃ neighbor ∈ neighbors, ∃ other, contract.stored neighbor dst other) →
    contract.forwarding dst (entry.setRouteState .inactive)

/-- A handler leaves the contract intact, and what it sends are forwarding-table entries of its
node that `tells` lets it send. -/
structure Respects (contract : Contract) (node : Node) (tells : Ipv4Address → Ipv4Address → Prop)
    (result : Node × List Sent) : Prop where
  holds : contract.Holds result.1
  sends : ∀ sent ∈ result.2, ∃ ne dst entry, contract.forwarding dst entry ∧ tells ne dst ∧
    sent = node.sendUpdate entry ne

theorem Closed.subset {contract : Contract} {neighbors fewer : List Ipv4Address}
    (closed : contract.Closed neighbors) (sub : ∀ neighbor ∈ fewer, neighbor ∈ neighbors) :
    contract.Closed fewer where
  adopt neighbor member := closed.adopt neighbor (sub neighbor member)
  refresh dst entry route good found := fun ⟨neighbor, member, other⟩ =>
    closed.refresh dst entry route good found ⟨neighbor, sub neighbor member, other⟩
  retire dst entry good absent := fun ⟨neighbor, member, other⟩ =>
    closed.retire dst entry good absent ⟨neighbor, sub neighbor member, other⟩

end Contract

namespace Node
variable {node : Node}

@[simp] theorem recompute_nb : node.recompute.1.nb = node.nb := rfl
@[simp] theorem recompute_dvt : node.recompute.1.dvt = node.dvt := rfl
@[simp] theorem learn_nb (nxtHp : Ipv4Address) (rt : RoutingTableEntry) :
    (node.learn nxtHp rt).nb = node.nb := rfl
@[simp] theorem learn_ft (nxtHp : Ipv4Address) (rt : RoutingTableEntry) :
    (node.learn nxtHp rt).ft = node.ft := rfl

theorem recompute_ft (node : Node) : node.recompute.1.ft =
    (computeForwardingTable node.mainAddress node.neighbors node.dvt node.ft).1 := rfl

theorem sendUpdateOnLinkFailure_frame (node : Node) (ne : Ipv4Address) :
    ∃ table, (node.sendUpdateOnLinkFailure ne).1 = { node with routingTable := table } := by
  unfold sendUpdateOnLinkFailure
  split
  · exact ⟨node.routingTable, rfl⟩
  · split
    · exact ⟨node.routingTable, rfl⟩
    · exact ⟨_, rfl⟩

theorem handleLinkFailures_frame (node : Node) (failed : List Ipv4Address) :
    ∃ table, (node.handleLinkFailures failed).1 = { node with routingTable := table } := by
  induction failed generalizing node with
  | nil => exact ⟨node.routingTable, rfl⟩
  | cons ne rest ih =>
      obtain ⟨first, hfirst⟩ := sendUpdateOnLinkFailure_frame node ne
      obtain ⟨table, htable⟩ := ih { node with routingTable := first }
      exact ⟨table, by simp only [handleLinkFailures, hfirst, htable]⟩

theorem purgeNeighbors_frame (node : Node) :
    ∃ table, node.purgeNeighbors.1 = { node.dropClosed with routingTable := table } := by
  obtain ⟨table, frame⟩ := handleLinkFailures_frame node node.lost
  exact ⟨table, by simp only [purgeNeighbors, frame, dropClosed]⟩

theorem recompute_ft_isSome (node : Node) {dst : Ipv4Address} (present : (node.ft[dst]?).isSome) :
    (node.recompute.1.ft[dst]?).isSome :=
  computeForwardingTable_grows node.mainAddress _ _ _ present

theorem sendUpdateOnLinkFailure_ft_isSome (node : Node) (ne : Ipv4Address) {dst : Ipv4Address}
    (present : (node.ft[dst]?).isSome) : ((node.sendUpdateOnLinkFailure ne).1.ft[dst]?).isSome := by
  unfold sendUpdateOnLinkFailure
  split
  · exact present
  · split
    · exact present
    · exact recompute_ft_isSome (node.learn _ _) present

theorem mem_lost {ne : Ipv4Address} (member : ne ∈ node.lost) : ne ∈ node.neighbors := by
  obtain ⟨neighbor, kept, rfl⟩ := List.mem_map.mp member
  exact List.mem_map_of_mem (List.mem_of_mem_filter kept)

theorem dropClosed_neighbors (node : Node) {ne : Ipv4Address}
    (member : ne ∈ node.dropClosed.neighbors) : ne ∈ node.neighbors := by
  obtain ⟨neighbor, kept, rfl⟩ := List.mem_map.mp member
  exact List.mem_map_of_mem (List.mem_of_mem_filter kept)

theorem mem_sendTriggeredUpdateToNeighbor {ne : Ipv4Address} {sent : Sent} :
    sent ∈ node.sendTriggeredUpdateToNeighbor ne ↔ ∃ dst entry, node.ft[dst]? = some entry ∧
      entry.destination ≠ unsetAddress ∧ dst ≠ node.mainAddress ∧ dst ≠ ne ∧ dst ≠ loopback ∧
      sent = node.sendUpdate entry ne := by
  simp only [sendTriggeredUpdateToNeighbor, List.mem_filterMap, Prod.exists,
    Std.TreeMap.mem_toList_iff_getElem?_eq_some]
  constructor
  · rintro ⟨dst, entry, present, chosen⟩
    split at chosen
    · cases chosen
    · split at chosen
      · rename_i named allowed
        exact ⟨dst, entry, present, named, allowed.1, allowed.2.1, allowed.2.2,
          (Option.some.inj chosen).symm⟩
      · cases chosen
  · rintro ⟨dst, entry, present, named, main, apart, remote, rfl⟩
    refine ⟨dst, entry, present, ?_⟩
    rw [if_neg named, if_pos ⟨main, apart, remote⟩]

theorem mem_sendTriggeredUpdateChangesToNeighbors {changes nex : List Ipv4Address} {sent : Sent} :
    sent ∈ node.sendTriggeredUpdateChangesToNeighbors changes nex ↔
    ∃ ne dst entry, ne ∈ node.neighbors ∧
      ne ∉ nex ∧ dst ∈ changes ∧ node.ft[dst]? = some entry ∧ dst ≠ ne ∧
      sent = node.sendUpdate entry ne := by
  simp only [sendTriggeredUpdateChangesToNeighbors, List.mem_flatMap]
  constructor
  · rintro ⟨ne, member, chosen⟩
    split at chosen
    · cases chosen
    · rename_i told
      obtain ⟨dst, changed, found⟩ := List.mem_filterMap.mp chosen
      obtain ⟨entry, present, allowed⟩ := Option.bind_eq_some_iff.mp found
      split at allowed
      · rename_i apart
        exact ⟨ne, dst, entry, member, told, changed, present, apart,
          (Option.some.inj allowed).symm⟩
      · cases allowed
  · rintro ⟨ne, dst, entry, member, told, changed, present, apart, rfl⟩
    refine ⟨ne, member, ?_⟩
    rw [if_neg told, List.mem_filterMap]
    exact ⟨dst, changed, by simp [present, apart]⟩

@[simp] theorem sendUpdate_neighbor (rt : RoutingTableEntry) (ne : Ipv4Address) :
    (node.sendUpdate rt ne).neighbor = ne := rfl

def announces (node : Node) (ne dst : Ipv4Address) : Prop :=
  ne ∈ node.neighbors ∧ dst ≠ ne ∧ dst ≠ node.mainAddress ∧ node.ft[dst]? = none

instance (ne dst : Ipv4Address) : Decidable (node.announces ne dst) :=
  inferInstanceAs (Decidable (_ ∧ _))

end Node

/-! ## The recomputation -/

section Recompute
variable {contract : Contract} {node : Node}

private theorem refreshEntry_closed {neighbors : List Ipv4Address}
    (closed : contract.Closed neighbors) (holds : contract.Holds node) {dst : Ipv4Address}
    {entry : RoutingTableEntry} (good : contract.forwarding dst entry)
    (candidate : ∃ neighbor ∈ neighbors, ∃ other, contract.stored neighbor dst other) :
    contract.forwarding dst (refreshEntry node.dvt dst entry) := by
  rcases refreshEntry_eq node.dvt dst entry with found | same | ⟨absent, retired⟩
  · exact closed.refresh dst entry _ good (holds.stored _ _ _ found) candidate
  · rwa [same]
  · rw [retired]
    refine closed.retire dst entry good (fun known => ?_) candidate
    have present := holds.known _ known
    simp [absent] at present

private theorem select_closed {neighbors : List Ipv4Address} (closed : contract.Closed neighbors)
    (holds : contract.Holds node) {dst : Ipv4Address} {kept : Option RoutingTableEntry}
    {routes : List RoutingTableEntry}
    (good : ∀ route ∈ routes, ∃ neighbor ∈ neighbors, contract.stored neighbor dst route)
    (start : ∀ entry, kept = some entry → contract.forwarding dst entry) :
    ∀ entry, select node.dvt dst kept routes = some entry → contract.forwarding dst entry := by
  induction routes generalizing kept with
  | nil => exact start
  | cons route rest ih =>
      apply ih (fun other member => good other (by simp [member]))
      intro entry chosen
      obtain ⟨neighbor, listed, stored⟩ := good route (by simp)
      have adopted := closed.adopt neighbor listed dst route stored
      rw [← Option.some.inj chosen]
      cases kept with
      | none => exact adopted
      | some old =>
          have refreshed := refreshEntry_closed closed holds (start old rfl) ⟨neighbor, listed,
            route, stored⟩
          simp only [adopt, contest]
          split
          · exact adopted
          · exact refreshed

theorem Contract.Holds.recompute (holds : contract.Holds node)
    (closed : contract.Closed node.neighbors) :
    contract.Holds node.recompute.1 := by
  refine ⟨fun dst entry present => ?_, holds.stored, holds.known⟩
  change (computeForwardingTable node.mainAddress node.neighbors node.dvt node.ft).1[dst]? =
    some entry at present
  rw [computeForwardingTable_get] at present
  refine select_closed closed holds ?_ (holds.forwarding dst) entry present
  intro route member
  obtain ⟨neighbor, listed, found⟩ := mem_candidates.mp member
  exact ⟨neighbor, listed, holds.stored _ _ _ found⟩

theorem Contract.Holds.announced (holds : contract.Holds node)
    (closed : contract.Closed node.neighbors) (nex : List Ipv4Address) :
    contract.Respects node node.announces
      (node.recompute.1, node.recompute.1.sendTriggeredUpdateChangesToNeighbors
        node.recompute.2 nex) := by
  refine ⟨holds.recompute closed, fun sent member => ?_⟩
  obtain ⟨ne, dst, entry, listed, _, changed, present, apart, rfl⟩ :=
    Node.mem_sendTriggeredUpdateChangesToNeighbors.mp member
  obtain ⟨main, new, _⟩ := mem_changes.mp changed
  exact ⟨ne, dst, entry, (holds.recompute closed).forwarding dst entry present,
    ⟨listed, apart, main, new⟩, rfl⟩

theorem updateDistanceVectorTable_get {neighbors : List Ipv4Address} {ft : EntryMap}
    {dvt : DistanceVectorTable} {nxtHp neighbor : Ipv4Address} {rt : RoutingTableEntry}
    (present : (dvt[neighbor]?).isSome) :
    ((updateDistanceVectorTable neighbors ft dvt nxtHp rt)[neighbor]?).isSome := by
  rw [updateDistanceVectorTable_eq]
  split
  · rwa [withoutFakes_get]
  · rw [getElem?_insert]
    split
    · rfl
    · rwa [withoutFakes_get]

theorem Contract.Holds.learn (holds : contract.Holds node) {nxtHp : Ipv4Address}
    {rt : RoutingTableEntry}
    (new : ¬(nxtHp ∈ node.neighbors ∧ (node.dvt[nxtHp]?).isSome) →
      contract.stored nxtHp rt.destination rt) :
    contract.Holds (node.learn nxtHp rt) := by
  refine ⟨holds.forwarding, fun neighbor dst route found => ?_, fun neighbor known => ?_⟩
  · change (updateDistanceVectorTable _ _ _ _ _).entry _ _ = _ at found
    by_cases stranger : nxtHp ∈ node.neighbors ∧ (node.dvt[nxtHp]?).isSome
    · rw [updateDistanceVectorTable_drop stranger.1 stranger.2] at found
      exact holds.stored _ _ _ (withoutFakes_sub found)
    · rcases updateDistanceVectorTable_entry found with old | ⟨rfl, rfl, rfl⟩
      · exact holds.stored _ _ _ old
      · exact new stranger
  · exact updateDistanceVectorTable_get (holds.known neighbor known)

end Recompute

/-! ## Link failures and the neighbour list -/

section Purge
variable {contract : Contract} {node : Node}

theorem entry_isSome_row {dvt : DistanceVectorTable} {neighbor dst : Ipv4Address}
    {route : RoutingTableEntry} (found : dvt.entry neighbor dst = some route) :
    (dvt[neighbor]?).isSome := by
  obtain ⟨row, present, _⟩ := Option.bind_eq_some_iff.mp found
  simp [present]

theorem Contract.Holds.linkFailure (holds : contract.Holds node)
    (closed : contract.Closed node.neighbors) {ne : Ipv4Address} (member : ne ∈ node.neighbors) :
    contract.Respects node node.announces (node.sendUpdateOnLinkFailure ne) := by
  unfold Node.sendUpdateOnLinkFailure
  split
  · exact ⟨holds, by simp⟩
  · split
    · exact ⟨holds, by simp⟩
    · rename_i entry found
      have learned : contract.Holds (node.learn ne (entry.setRouteState .inactive)) :=
        holds.learn fun stranger => absurd ⟨member, entry_isSome_row found⟩ stranger
      have announced := learned.announced closed [ne]
      exact ⟨announced.holds, announced.sends⟩

theorem Contract.Holds.linkFailures (failed : List Ipv4Address) (holds : contract.Holds node)
    (closed : contract.Closed node.neighbors) (members : ∀ ne ∈ failed, ne ∈ node.neighbors) :
    contract.Respects node node.announces (node.handleLinkFailures failed) := by
  induction failed generalizing node with
  | nil => exact ⟨holds, by simp [Node.handleLinkFailures]⟩
  | cons ne rest ih =>
      have first := holds.linkFailure closed (members ne (by simp))
      have grows := @Node.sendUpdateOnLinkFailure_ft_isSome node ne
      obtain ⟨table, frame⟩ := Node.sendUpdateOnLinkFailure_frame node ne
      have same : (node.sendUpdateOnLinkFailure ne).1.neighbors = node.neighbors := by rw [frame]
      have later := ih first.holds (by rwa [same]) fun other member =>
        same ▸ members other (.tail ne member)
      refine ⟨later.holds, fun sent member => ?_⟩
      rcases List.mem_append.mp member with now | after
      · exact first.sends sent now
      · obtain ⟨other, dst, entry, good, ⟨listed, apart, main, new⟩, rfl⟩ := later.sends sent after
        refine ⟨other, dst, entry, good, ⟨same ▸ listed, apart, by rwa [frame] at main, ?_⟩,
          by rw [frame]; rfl⟩
        cases old : node.ft[dst]? with
        | none => rfl
        | some previous =>
            have still : _ := @grows dst (by simp [old])
            simp [new] at still

theorem Contract.Holds.purge (holds : contract.Holds node)
    (closed : contract.Closed node.neighbors) :
    contract.Respects node node.announces node.purgeNeighbors := by
  have handled := holds.linkFailures node.lost closed fun _ => Node.mem_lost
  exact ⟨handled.holds.congr rfl, handled.sends⟩

def Node.neighborsWith (node : Node) (addr : Ipv4Address) : List Ipv4Address :=
  if addr ∈ node.neighbors then node.neighbors else node.neighbors ++ [addr]

theorem Contract.Holds.updateNeighbors (holds : contract.Holds node) (addr : Ipv4Address)
    (expire : Time) (hardware : Mac48Address) (closed : contract.Closed (node.neighborsWith addr)) :
    contract.Respects node (fun ne dst => ne ∈ node.neighborsWith addr ∧ dst ≠ ne ∧
      dst ≠ node.mainAddress ∧
      node.ft[dst]? = none) (node.updateNeighbors addr expire hardware) := by
  unfold Node.updateNeighbors
  split
  · exact ⟨holds.congr rfl, by simp⟩
  · rename_i absent
    have list : ({ node with nb := node.nb ++ [⟨addr, hardware, expire + node.now, false⟩] } :
      Node).neighbors =
        node.neighborsWith addr := by
      rw [Node.neighborsWith, if_neg absent]
      exact Neighbors.addresses_append _ _
    have start : contract.Holds { node with nb := node.nb ++
      [⟨addr, hardware, expire + node.now, false⟩] } :=
      holds.congr rfl
    have purged := start.purge (by rwa [list])
    refine ⟨purged.holds, fun sent member => ?_⟩
    obtain ⟨ne, dst, entry, good, tells, same⟩ := purged.sends sent member
    exact ⟨ne, dst, entry, good, by rwa [Node.announces, list] at tells, same⟩

end Purge

end Bsdvr
