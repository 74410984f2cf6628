import Bsdvr.Runs.LostNeighbors

namespace Bsdvr
open Foundation

/-! ## What the preference between routes looks at -/

/-- The hop count and the state of a route, which are what an UPDATE carries and what routes are
compared by. -/
def RoutingTableEntry.metric (entry : RoutingTableEntry) : BitVec 32 × RouteState :=
  (entry.hops, entry.state)

theorem isBetterRoute_congr {route entry other : RoutingTableEntry}
    (same : other.metric = entry.metric) :
    isBetterRoute route other = isBetterRoute route entry := by
  obtain ⟨hops, state⟩ := Prod.mk.inj same
  unfold isBetterRoute
  rw [hops, state]

theorem refreshEntry_metric {dvt other : DistanceVectorTable} {dst : Ipv4Address}
    {entry : RoutingTableEntry}
    (rows : (dvt[entry.nextHop]?).isSome → (other[entry.nextHop]?).isSome)
    (entries : other.entry entry.nextHop dst = dvt.entry entry.nextHop dst)
    (same : (refreshEntry dvt dst entry).metric = entry.metric) :
    (refreshEntry other dst entry).metric = entry.metric := by
  by_cases before : (dvt[entry.nextHop]?).isSome
  · rw [refreshEntry_congr (by rw [before, rows before]) entries]
    exact same
  · by_cases after : (other[entry.nextHop]?).isSome
    · rcases refreshEntry_eq other dst entry with found | kept | ⟨absent, _⟩
      · rw [entries] at found
        exact absurd (entry_isSome_row found) before
      · rw [kept]
      · rw [absent] at after
        cases after
    · rw [refreshEntry_congr (by simp_all) entries]
      exact same

namespace Node
variable {node : Node} {kept : List Ipv4Address} {dst : Ipv4Address}

def Remote (node : Node) (dst : Ipv4Address) : Prop := dst ≠ node.mainAddress ∧ ¬node.OwnRoute dst

instance (node : Node) (dst : Ipv4Address) : Decidable (node.Remote dst) :=
  inferInstanceAs (Decidable (_ ∧ _))

theorem SameSetup.remote {after : Node} (same : node.SameSetup after) :
    after.Remote dst ↔ node.Remote dst := by
  unfold Remote OwnRoute
  rw [same.mainAddress, same.socketAddresses]

def Others (kept : List Ipv4Address) (dst : Ipv4Address) : Prop := ∃ ne ∈ kept, ne ≠ dst

instance (kept : List Ipv4Address) (dst : Ipv4Address) : Decidable (Others kept dst) :=
  List.decidableBEx _ _

/-- A recomputation changes neither hop count nor state of an entry that one of `kept` has been told
of. -/
def Steady (node : Node) (kept : List Ipv4Address) : Prop :=
  ∀ pair ∈ node.ft.toList, node.Remote pair.1 → Others kept pair.1 →
    candidates node.neighbors node.dvt pair.1 ≠ [] →
      (refreshEntry node.dvt pair.1 pair.2).metric = pair.2.metric ∧
        ∀ route ∈ candidates node.neighbors node.dvt pair.1, isBetterRoute route pair.2 = false

instance (node : Node) (kept : List Ipv4Address) : Decidable (node.Steady kept) :=
  inferInstanceAs (Decidable (∀ pair ∈ node.ft.toList, _))

namespace Steady

theorem intro
    (steady : ∀ dst entry, node.ft[dst]? = some entry → node.Remote dst → Others kept dst →
      candidates node.neighbors node.dvt dst ≠ [] →
        (refreshEntry node.dvt dst entry).metric = entry.metric ∧
          ∀ route ∈ candidates node.neighbors node.dvt dst, isBetterRoute route entry = false) :
    node.Steady kept :=
  fun pair member => steady pair.1 pair.2 (Std.TreeMap.mem_toList_iff_getElem?_eq_some.mp member)

theorem of_present {entry : RoutingTableEntry} (steady : node.Steady kept)
    (present : node.ft[dst]? = some entry) (remote : node.Remote dst) (others : Others kept dst)
    (nonempty : candidates node.neighbors node.dvt dst ≠ []) :
    (refreshEntry node.dvt dst entry).metric = entry.metric ∧
      ∀ route ∈ candidates node.neighbors node.dvt dst, isBetterRoute route entry = false :=
  steady (dst, entry) (Std.TreeMap.mem_toList_iff_getElem?_eq_some.mpr present)
  remote others nonempty

theorem recomputed {entry : RoutingTableEntry} (steady : node.Steady kept)
    (owned : RowsOwned node.dvt) (present : node.ft[dst]? = some entry) (remote : node.Remote dst)
    (others : Others kept dst) : node.recompute.1.ft[dst]? =
      some (if candidates node.neighbors node.dvt dst = [] then entry
        else refreshEntry node.dvt dst entry) := by
  rw [recompute_ft]
  refine recomputed_unbeaten owned present fun route member => ?_
  obtain ⟨same, unbeaten⟩ := steady.of_present present remote others (List.ne_nil_of_mem member)
  rw [isBetterRoute_congr same, unbeaten route member]

theorem recomputed_metric {entry : RoutingTableEntry} (steady : node.Steady kept)
    (owned : RowsOwned node.dvt) (present : node.ft[dst]? = some entry) (remote : node.Remote dst)
    (others : Others kept dst) :
    ∃ after, node.recompute.1.ft[dst]? = some after ∧ after.metric = entry.metric := by
  refine ⟨_, steady.recomputed owned present remote others, ?_⟩
  split
  · rfl
  · rename_i nonempty
    exact (steady.of_present present remote others nonempty).1

end Steady

theorem recompute_steady (owned : RowsOwned node.dvt) (kept : List Ipv4Address) :
    node.recompute.1.Steady kept := by
  apply Steady.intro
  intro dst entry present _ _ nonempty
  have settled := @recomputed_settled node.dvt dst node.mainAddress node.neighbors node.ft entry
    owned present
  obtain ⟨route, member⟩ := List.exists_mem_of_ne_nil _ nonempty
  refine ⟨congrArg RoutingTableEntry.metric (settled route member).2,
    fun route member => (settled route member).1⟩

theorem Steady.forget (steady : node.Steady kept) {dvt : DistanceVectorTable}
    (forgets : node.Forgets dvt) :
    (node.setDvt dvt).Steady kept := by
  have fewer (dst : Ipv4Address) : ∀ route ∈ candidates node.neighbors dvt dst,
      route ∈ candidates node.neighbors node.dvt dst := by
    intro route member
    obtain ⟨ne, listed, found⟩ := mem_candidates.mp member
    exact mem_candidates.mpr ⟨ne, listed, forgets.sub _ _ _ found⟩
  apply Steady.intro
  intro dst entry present remote others nonempty
  obtain ⟨route, member⟩ := List.exists_mem_of_ne_nil _ nonempty
  obtain ⟨same, unbeaten⟩ := steady.of_present present remote others
    (List.ne_nil_of_mem (fewer dst route member))
  have refreshed : refreshEntry dvt dst entry = refreshEntry node.dvt dst entry :=
    forgets.refreshEntry present
  exact ⟨(congrArg RoutingTableEntry.metric refreshed).trans same,
    fun route member => unbeaten route (fewer dst route member)⟩

theorem candidates_subset {fewer more : List Ipv4Address} {dvt : DistanceVectorTable}
    (sub : ∀ ne ∈ fewer, ne ∈ more) {route : RoutingTableEntry}
    (member : route ∈ candidates fewer dvt dst) : route ∈ candidates more dvt dst := by
  obtain ⟨ne, listed, found⟩ := mem_candidates.mp member
  exact mem_candidates.mpr ⟨ne, sub ne listed, found⟩

theorem Steady.subset (steady : node.Steady kept) {nb : Neighbors}
    (sub : ∀ ne ∈ nb.addresses, ne ∈ node.neighbors) :
    (node.setNb nb).Steady kept := by
  apply Steady.intro
  intro dst entry present remote others nonempty
  obtain ⟨route, member⟩ := List.exists_mem_of_ne_nil _ nonempty
  obtain ⟨same, unbeaten⟩ := steady.of_present present remote others
    (List.ne_nil_of_mem (candidates_subset sub member))
  exact ⟨same, fun route member => unbeaten route (candidates_subset sub member)⟩

/-- The direct route to `origin` would not change the entry for it. -/
def Welcomes (node : Node) (origin my : Ipv4Address) : Prop :=
  ∀ entry ∈ node.ft[origin]?,
    (if entry.nextHop = origin then node.helloEntry origin my
      else refreshEntry node.dvt origin entry).metric = entry.metric ∧
      isBetterRoute (node.helloEntry origin my) entry = false

instance (node : Node) (origin my : Ipv4Address) : Decidable (node.Welcomes origin my) :=
  inferInstanceAs (Decidable (∀ entry ∈ node.ft[origin]?, _))

theorem Welcomes.failed {origin my : Ipv4Address} {dvt : DistanceVectorTable}
    (welcomes : node.Welcomes origin my) (known : (node.ft[origin]?).isSome)
    (forgets : node.Forgets dvt) (owned : RowsOwned node.dvt) (steady : node.Steady kept)
    (remote : node.Remote origin) (others : Others kept origin) :
    (node.setDvt dvt).recompute.1.Welcomes origin my := by
  obtain ⟨old, present⟩ := Option.isSome_iff_exists.mp known
  obtain ⟨same, worse⟩ := welcomes old present
  have owned' := forgets.owned owned
  have computed := @Steady.recomputed _ kept origin _ (steady.forget forgets)
    owned' present remote others
  have refreshed : refreshEntry dvt origin old = refreshEntry node.dvt origin old :=
    forgets.refreshEntry present
  have metric : ∀ after, (node.setDvt dvt).recompute.1.ft[origin]? = some after →
      after.metric = old.metric := by
    intro after there
    obtain ⟨still, here, kept⟩ :=
      (steady.forget forgets).recomputed_metric owned' present remote others
    obtain rfl := Option.some.inj (here.symm.trans there)
    exact kept
  intro after there
  have equal := metric after there
  have through : after.nextHop = old.nextHop := by
    obtain rfl := Option.some.inj (computed.symm.trans there)
    split
    · rfl
    · exact refreshEntry_nextHop owned' old
  refine ⟨?_, by rw [isBetterRoute_congr equal]; exact worse⟩
  rw [through, equal, ← same]
  split
  · rfl
  · rename_i elsewhere
    have still : (refreshEntry dvt origin after).metric = after.metric := by
      obtain rfl := Option.some.inj (computed.symm.trans there)
      split
      · rw [refreshed]
        rw [if_neg elsewhere] at same
        exact same
      · exact congrArg RoutingTableEntry.metric (refreshEntry_idem owned' origin old)
    rw [if_neg elsewhere] at same
    exact still.trans (equal.trans same.symm)

theorem Steady.joined (steady : node.Steady kept) {origin my : Ipv4Address}
    (listed : origin ∈ node.neighbors) (absent : node.dvt.entry origin origin = none)
    (welcomes : node.Remote origin → Others kept origin → node.Welcomes origin my) :
    (node.joined origin my).Steady kept := by
  obtain ⟨table, frame⟩ := joined_frame node origin my
  have same : (node.joined origin my).neighbors = node.neighbors := by rw [frame]
  have remotes (dst : Ipv4Address) : (node.joined origin my).Remote dst ↔ node.Remote dst := by
    unfold Remote OwnRoute
    rw [frame]
  have rows (n : Ipv4Address) (there : (node.dvt[n]?).isSome) :
      ((node.joined origin my).dvt[n]?).isSome := joined_get (.inl there)
  apply Steady.intro
  intro dst entry present remote others nonempty
  rw [joined_ft] at present
  rw [remotes] at remote
  rw [same] at nonempty ⊢
  by_cases own : dst = origin
  · subst own
    obtain ⟨metric, worse⟩ := welcomes remote others entry present
    have direct : (node.joined dst my).dvt.entry dst dst = some (node.helloEntry dst my) := by
      rw [joined_entry absent, if_pos ⟨rfl, rfl⟩]
    have refreshed : (refreshEntry (node.joined dst my).dvt dst entry).metric = entry.metric := by
      by_cases through : entry.nextHop = dst
      · rw [if_pos through] at metric
        rw [refreshEntry_of_entry (by rw [through]; exact direct)]
        exact metric
      · rw [if_neg through] at metric
        refine refreshEntry_metric (rows _) ?_ metric
        rw [joined_entry absent, if_neg (fun here => through here.1)]
    refine ⟨refreshed, fun route member => ?_⟩
    obtain ⟨ne, there, found⟩ := mem_candidates.mp member
    rw [joined_entry absent] at found
    split at found
    · rw [← Option.some.inj found]
      exact worse
    · have before := mem_candidates.mpr ⟨ne, there, found⟩
      exact (steady.of_present present remote others (List.ne_nil_of_mem before)).2 route before
  · have entries (n : Ipv4Address) : (node.joined origin my).dvt.entry n dst =
        node.dvt.entry n dst := by
      rw [joined_entry absent, if_neg (fun here => own here.2)]
    have routes : candidates node.neighbors (node.joined origin my).dvt dst =
        candidates node.neighbors node.dvt dst := by
      unfold candidates
      simp only [entries]
    rw [routes] at nonempty ⊢
    obtain ⟨metric, unbeaten⟩ := steady.of_present present remote others nonempty
    exact ⟨refreshEntry_metric (rows _) (entries _) metric, unbeaten⟩

theorem Steady.learned (steady : node.Steady kept)
    (rows : ∀ ne ∈ node.neighbors, (node.dvt[ne]?).isSome) {header : UpdateHeader}
    {my src : Ipv4Address}
    (alike : src ∉ node.neighbors → ∀ entry ∈ node.ft[header.dst]?, entry.nextHop = src →
      node.Remote header.dst → Others kept header.dst →
      candidates node.neighbors node.dvt header.dst ≠ [] →
      (node.updateEntry header my src).metric = entry.metric) :
    (node.learned header my src).Steady kept := by
  set rt := node.updateEntry header my src with hrt
  by_cases listed : src ∈ node.neighbors
  · have forgets : node.Forgets (withoutFakes node.neighbors node.ft node.dvt src rt) :=
      ⟨fun _ _ _ => withoutFakes_sub, withoutFakes_get, fun _ _ => withoutFakes_nextHop⟩
    have same : node.learned header my src =
        { node.setDvt (withoutFakes node.neighbors node.ft node.dvt src rt)
          with fresh := node.fresh + 1 } := by
      rw [Node.learned, learn, updateDistanceVectorTable_drop listed (rows src listed)]
    rw [same]
    exact steady.forget forgets
  · have stranger : ¬(src ∈ node.neighbors ∧ (node.dvt[src]?).isSome) := fun there => listed there.1
    have stored (n dst : Ipv4Address) : (node.learned header my src).dvt.entry n dst =
        if n = src ∧ dst = header.dst then some rt
        else (withoutFakes node.neighbors node.ft node.dvt src rt).entry n dst :=
      updateDistanceVectorTable_store stranger n
    have fewer (dst : Ipv4Address) : ∀ route ∈ candidates node.neighbors
        (node.learned header my src).dvt dst,
        route ∈ candidates node.neighbors node.dvt dst := by
      intro route member
      obtain ⟨ne, there, found⟩ := mem_candidates.mp member
      have apart : ne ≠ src := fun same => listed (same ▸ there)
      rw [stored, if_neg (fun here => apart here.1)] at found
      exact mem_candidates.mpr ⟨ne, there, withoutFakes_sub found⟩
    apply Steady.intro
    intro dst entry present remote others nonempty
    obtain ⟨route, member⟩ := List.exists_mem_of_ne_nil _ nonempty
    have before := List.ne_nil_of_mem (fewer dst route member)
    obtain ⟨same, unbeaten⟩ := steady.of_present present remote others before
    refine ⟨?_, fun route member => unbeaten route (fewer dst route member)⟩
    by_cases here : entry.nextHop = src ∧ dst = header.dst
    · obtain ⟨through, rfl⟩ := here
      have here : (node.learned header my src).dvt.entry entry.nextHop header.dst = some rt := by
        rw [stored, if_pos ⟨through, rfl⟩]
      rw [refreshEntry_of_entry here]
      exact alike listed entry present through remote others before
    · refine refreshEntry_metric updateDistanceVectorTable_get ?_ same
      rw [stored, if_neg here]
      exact withoutFakes_nextHop present

end Node

end Bsdvr
