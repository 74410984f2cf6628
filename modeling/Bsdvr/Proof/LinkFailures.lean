import Bsdvr.Proof.Handlers

namespace Bsdvr
open Foundation

theorem refreshEntry_congr {dvt other : DistanceVectorTable} {dst : Ipv4Address}
    {entry : RoutingTableEntry}
    (rows : (other[entry.nextHop]?).isSome = (dvt[entry.nextHop]?).isSome)
    (entries : other.entry entry.nextHop dst = dvt.entry entry.nextHop dst) :
    refreshEntry other dst entry = refreshEntry dvt dst entry := by
  unfold refreshEntry
  unfold DistanceVectorTable.entry at entries
  cases there : dvt[entry.nextHop]? with
  | none =>
      rw [there, Option.isSome_none, Option.isSome_eq_false_iff, Option.isNone_iff_eq_none] at rows
      simp [rows]
  | some row =>
      rw [there, Option.isSome_some, Option.isSome_iff_exists] at rows
      obtain ⟨kept, found⟩ := rows
      rw [there, found, Option.bind_some, Option.bind_some] at entries
      simp [found, entries]

namespace Node
variable {node : Node}

/-- What a link failure leaves of the rows: alternatives are gone, but not the entries the
forwarding table routes by. -/
structure Forgets (node : Node) (dvt : DistanceVectorTable) : Prop where
  sub : ∀ neighbor dst route, dvt.entry neighbor dst = some route →
    node.dvt.entry neighbor dst = some route
  rows : ∀ neighbor : Ipv4Address, (dvt[neighbor]?).isSome = (node.dvt[neighbor]?).isSome
  next : ∀ dst entry, node.ft[dst]? = some entry → dvt.entry entry.nextHop dst =
    node.dvt.entry entry.nextHop dst

theorem Forgets.refreshEntry {dvt : DistanceVectorTable} (forgets : node.Forgets dvt)
    {dst : Ipv4Address} {entry : RoutingTableEntry} (present : node.ft[dst]? = some entry) :
    Bsdvr.refreshEntry dvt dst entry = Bsdvr.refreshEntry node.dvt dst entry :=
  refreshEntry_congr (forgets.rows _) (forgets.next dst entry present)

theorem Forgets.owned {dvt : DistanceVectorTable} (forgets : node.Forgets dvt)
    (owned : RowsOwned node.dvt) :
    RowsOwned dvt := fun neighbor dst route found => owned neighbor dst route
      (forgets.sub _ _ _ found)

theorem Forgets.holds {contract : Contract} (holds : contract.Holds node)
    (closed : contract.Closed node.neighbors) {dvt : DistanceVectorTable}
    (forgets : node.Forgets dvt) : contract.Holds (node.setDvt dvt).recompute.1 := by
  have before : contract.Holds (node.setDvt dvt) := by
    refine ⟨holds.forwarding, fun neighbor dst route found => ?_, fun neighbor known => ?_⟩
    · exact holds.stored _ _ _ (forgets.sub _ _ _ found)
    · exact (forgets.rows neighbor).trans (holds.known neighbor known)
  exact before.recompute closed

theorem Forgets.named {dvt : DistanceVectorTable} (forgets : node.Forgets dvt)
    (named : node.Named) :
    (node.setDvt dvt).recompute.1.Named := by
  obtain ⟨names, holds⟩ := named
  exact ⟨names, forgets.holds holds (naming_closed _ _ _)⟩

theorem learn_forgets {ne : Ipv4Address} (listed : ne ∈ node.neighbors)
    (hasRow : (node.dvt[ne]?).isSome) (rt : RoutingTableEntry) :
    node.Forgets (node.learn ne rt).dvt := by
  have dropped : (node.learn ne rt).dvt = withoutFakes node.neighbors node.ft node.dvt ne rt :=
    updateDistanceVectorTable_drop listed hasRow
  rw [dropped]
  exact ⟨fun _ _ _ => withoutFakes_sub, withoutFakes_get, fun _ _ => withoutFakes_nextHop⟩

theorem sendUpdateOnLinkFailure_cases (node : Node) {ne : Ipv4Address}
    (member : ne ∈ node.neighbors) :
    node.sendUpdateOnLinkFailure ne = (node, []) ∨
    ∃ dvt, node.Forgets dvt ∧ node.sendUpdateOnLinkFailure ne = ((node.setDvt dvt).recompute.1,
      (node.setDvt dvt).recompute.1.sendTriggeredUpdateChangesToNeighbors
        (node.setDvt dvt).recompute.2 [ne]) := by
  unfold sendUpdateOnLinkFailure
  split
  · exact .inl rfl
  · split
    · exact .inl rfl
    · rename_i entry found
      have forgets := learn_forgets member (entry_isSome_row found) (entry.setRouteState .inactive)
      exact .inr ⟨_, forgets, rfl⟩

/-- What every link failure preserves, of the node and of what is sent, a list of them does. -/
theorem handleLinkFailures_rule {I : Node → List Sent → Prop} {failed : List Ipv4Address}
    (step : ∀ node sent ne dvt, I node sent → ne ∈ failed → ne ∈ node.neighbors → node.Forgets dvt →
      I (node.setDvt dvt).recompute.1 (sent ++
        (node.setDvt dvt).recompute.1.sendTriggeredUpdateChangesToNeighbors
          (node.setDvt dvt).recompute.2 [ne]))
    (members : ∀ ne ∈ failed, ne ∈ node.neighbors) {sent : List Sent} (start : I node sent) :
    I (node.handleLinkFailures failed).1 (sent ++ (node.handleLinkFailures failed).2) := by
  induction failed generalizing node sent with
  | nil => simpa [handleLinkFailures] using start
  | cons ne rest ih =>
      have first : I (node.sendUpdateOnLinkFailure ne).1
          (sent ++ (node.sendUpdateOnLinkFailure ne).2) := by
        rcases sendUpdateOnLinkFailure_cases node (members ne List.mem_cons_self)
          with same | ⟨dvt, forgets, same⟩
        · simpa [same] using start
        · rw [same]
          exact step node sent ne dvt start List.mem_cons_self
            (members ne List.mem_cons_self) forgets
      obtain ⟨table, frame⟩ := sendUpdateOnLinkFailure_frame node ne
      have later := ih (fun node sent other dvt holds member =>
        step node sent other dvt holds (.tail _ member))
        (fun other member => by rw [frame]; exact members other (.tail _ member)) first
      rwa [List.append_assoc] at later

end Node

end Bsdvr
