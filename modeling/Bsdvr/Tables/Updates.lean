import Bsdvr.Proof.Indexing
import Bsdvr.Runs.Sockets

namespace Bsdvr
open Foundation

variable {neighbors : List Ipv4Address} {ft : EntryMap} {dvt : DistanceVectorTable}
  {nxtHp neighbor dst : Ipv4Address} {rt : RoutingTableEntry}

/-! ## `RemoveFakeRoutes` -/

def ActiveVia (ft : EntryMap) (dst nxtHp : Ipv4Address) : Prop :=
  ∃ entry, ft[dst]? = some entry ∧ entry.state = .active ∧ entry.nextHop = nxtHp

instance : Decidable (ActiveVia ft dst nxtHp) := inferInstanceAs (Decidable (∃ entry ∈ ft[dst]?, _))

/-- The destinations that an inactive route through `nxtHp` makes fake: its own and, where it is the
route to a neighbour, all those behind it. -/
def Fake (neighbors : List Ipv4Address) (ft : EntryMap) (nxtHp : Ipv4Address)
    (rt : RoutingTableEntry) (dst : Ipv4Address) : Prop :=
  rt.state ≠ .active ∧ ((dst = rt.destination ∧ ActiveVia ft rt.destination nxtHp) ∨
    ((nxtHp = rt.destination ∧ nxtHp ∈ neighbors) ∧ ActiveVia ft dst nxtHp))

theorem mem_fakeDestinations_iff_fake :
    dst ∈ fakeDestinations neighbors ft nxtHp rt ↔ Fake neighbors ft nxtHp rt dst := by
  have failed : rt.state ≠ .active ↔ rt.state = .inactive := by cases rt.state <;> simp
  rw [mem_fakeDestinations, Fake, failed, ActiveVia, ActiveVia]
  constructor
  · rintro ⟨inactive, rfl | behind, works⟩
    · exact ⟨inactive, .inl ⟨rfl, works⟩⟩
    · exact ⟨inactive, .inr ⟨behind, works⟩⟩
  · rintro ⟨inactive, ⟨rfl, works⟩ | ⟨behind, works⟩⟩
    · exact ⟨inactive, .inl rfl, works⟩
    · exact ⟨inactive, .inr behind, works⟩

theorem fake_present (fake : Fake neighbors ft nxtHp rt dst) :
    ∃ entry, ft[dst]? = some entry ∧ entry.nextHop = nxtHp := by
  rcases fake.2 with ⟨rfl, entry, found, _, through⟩ | ⟨_, entry, found, _, through⟩
  · exact ⟨entry, found, through⟩
  · exact ⟨entry, found, through⟩

/-- Exactly the alternatives to fake destinations are erased from the rows of the neighbours, and no
read through `operator[]` creates an entry. -/
theorem removeFakeRoutes_exact (neighbors : List Ipv4Address) (ft : EntryMap)
    (dvt : DistanceVectorTable) (nxtHp : Ipv4Address) (rt : RoutingTableEntry) :
    removeFakeRoutes? neighbors ft dvt nxtHp rt =
      some (removeFakeRoutes neighbors ft dvt nxtHp rt) ∧
    (∀ neighbor : Ipv4Address, ((removeFakeRoutes neighbors ft dvt nxtHp rt)[neighbor]?).isSome =
      (dvt[neighbor]?).isSome) ∧
    ∀ neighbor dst,
      (neighbor ∈ neighbors ∧ Fake neighbors ft nxtHp rt dst ∧
        (∀ entry, ft[dst]? = some entry → neighbor ≠ entry.nextHop) →
        (removeFakeRoutes neighbors ft dvt nxtHp rt).entry neighbor dst = none) ∧
      (¬(neighbor ∈ neighbors ∧ Fake neighbors ft nxtHp rt dst ∧
          (∀ entry, ft[dst]? = some entry → neighbor ≠ entry.nextHop)) →
        (removeFakeRoutes neighbors ft dvt nxtHp rt).entry neighbor dst =
          dvt.entry neighbor dst) := by
  refine ⟨removeFakeRoutes?_eq nxtHp rt, removeFakeRoutes_get, fun neighbor dst => ?_⟩
  have erased : Erased ft (fakeDestinations neighbors ft nxtHp rt) neighbor dst ↔
      Fake neighbors ft nxtHp rt dst ∧ ∀ entry, ft[dst]? = some entry →
      neighbor ≠ entry.nextHop := by
    rw [Erased, mem_fakeDestinations_iff_fake]
    refine and_congr_right fun fake => ?_
    obtain ⟨entry, found, _⟩ := fake_present fake
    simp [found]
  rw [removeFakeRoutes_entry]
  refine ⟨fun gone => if_pos ⟨gone.1, erased.mpr gone.2⟩, fun stays => if_neg fun gone => ?_⟩
  exact stays ⟨gone.1, erased.mp gone.2⟩

theorem withoutFakes_own (neighbors : List Ipv4Address) (ft : EntryMap) (dvt : DistanceVectorTable)
    (nxtHp : Ipv4Address) (rt : RoutingTableEntry) (dst : Ipv4Address) :
    (withoutFakes neighbors ft dvt nxtHp rt).entry nxtHp dst = dvt.entry nxtHp dst := by
  unfold withoutFakes
  split
  · apply ((removeFakeRoutes_exact neighbors ft dvt nxtHp rt).2.2 nxtHp dst).2
    rintro ⟨_, fake, apart⟩
    obtain ⟨entry, found, through⟩ := fake_present fake
    exact apart entry found through.symm
  · rfl

theorem withoutFakes_cases (neighbors : List Ipv4Address) (ft : EntryMap)
    (dvt : DistanceVectorTable) (nxtHp : Ipv4Address) (rt : RoutingTableEntry)
    (neighbor dst : Ipv4Address) :
    (withoutFakes neighbors ft dvt nxtHp rt).entry neighbor dst = dvt.entry neighbor dst ∨
    ((withoutFakes neighbors ft dvt nxtHp rt).entry neighbor dst = none ∧
      (removeFakeRoutes neighbors ft dvt nxtHp rt).entry neighbor dst = none) := by
  unfold withoutFakes
  split
  · rw [removeFakeRoutes_entry]
    split
    · exact .inr ⟨rfl, rfl⟩
    · exact .inl rfl
  · exact .inl rfl

/-! ## The route through a neighbour after a recomputation -/

/-- The rows that a recomputation may read for `dst`: those of the neighbours and, where it
refreshes an entry, those of the next hops that the entries for `dst` have. -/
def Readable (neighbors : List Ipv4Address) (dvt : DistanceVectorTable)
    (dst neighbor : Ipv4Address) : Prop :=
  neighbor ∈ neighbors ∨ ∃ other route, dvt.entry other dst = some route ∧ route.nextHop = neighbor

section Follow
variable {src : Ipv4Address} {P : RoutingTableEntry → Prop}

def Follows (neighbors : List Ipv4Address) (dvt : DistanceVectorTable) (dst src : Ipv4Address)
    (P : RoutingTableEntry → Prop) (kept : RoutingTableEntry) : Prop :=
  Readable neighbors dvt dst kept.nextHop ∧ (kept.nextHop = src → P kept)

variable
  (about : ∀ neighbor route, Readable neighbors dvt dst neighbor →
    dvt.entry neighbor dst = some route → route.nextHop = src → P route)
include about

theorem refreshEntry_via (own : (dvt.entry src dst).isSome) {kept : RoutingTableEntry}
    (follows : Follows neighbors dvt dst src P kept) :
    Follows neighbors dvt dst src P (refreshEntry dvt dst kept) := by
  rcases refreshEntry_eq dvt dst kept with found | same | ⟨absent, retired⟩
  · exact ⟨.inr ⟨_, _, found, rfl⟩, about _ _ follows.1 found⟩
  · rwa [same]
  · rw [retired]
    refine ⟨follows.1, fun through => ?_⟩
    rw [RoutingTableEntry.setRouteState_nextHop] at through
    obtain ⟨route, found⟩ := Option.isSome_iff_exists.mp own
    have row := entry_isSome_row found
    rw [← through, absent] at row
    cases row

theorem adopt_via {kept route : RoutingTableEntry} {neighbor : Ipv4Address}
    (listed : neighbor ∈ neighbors) (found : dvt.entry neighbor dst = some route)
    (refreshed : Follows neighbors dvt dst src P (refreshEntry dvt dst kept)) :
    Follows neighbors dvt dst src P (adopt dvt dst (some kept) route) := by
  simp only [adopt, contest]
  split
  · exact ⟨.inr ⟨_, _, found, rfl⟩, about _ _ (.inl listed) found⟩
  · exact refreshed

theorem select_via (own : (dvt.entry src dst).isSome) {kept : RoutingTableEntry}
    {routes : List RoutingTableEntry}
    (rows : ∀ route ∈ routes, ∃ neighbor ∈ neighbors, dvt.entry neighbor dst = some route)
    (follows : Follows neighbors dvt dst src P kept) :
    ∃ entry, select dvt dst (some kept) routes = some entry ∧
    Follows neighbors dvt dst src P entry := by
  induction routes generalizing kept with
  | nil => exact ⟨kept, rfl, follows⟩
  | cons route rest ih =>
      obtain ⟨neighbor, listed, found⟩ := rows route List.mem_cons_self
      exact ih (fun other member => rows other (List.mem_cons_of_mem _ member))
        (adopt_via about listed found (refreshEntry_via about own follows))

theorem recomputed_via {mainAddress : Ipv4Address} {old : RoutingTableEntry}
    (own : (dvt.entry src dst).isSome) (listed : src ∈ neighbors) (known : ft[dst]? = some old)
    (through : old.nextHop = src) :
    ∃ entry, (computeForwardingTable mainAddress neighbors dvt ft).1[dst]? = some entry ∧
      (entry.nextHop = src → P entry) := by
  obtain ⟨route, found⟩ := Option.isSome_iff_exists.mp own
  have nonempty : candidates neighbors dvt dst ≠ [] :=
    List.ne_nil_of_mem (mem_candidates.mpr ⟨src, listed, found⟩)
  have first : Follows neighbors dvt dst src P (refreshEntry dvt dst old) := by
    rw [refreshEntry_of_entry (through ▸ found)]
    exact ⟨.inr ⟨_, _, found, rfl⟩, about _ _ (.inl listed) found⟩
  have rows : ∀ route ∈ candidates neighbors dvt dst, ∃ neighbor ∈ neighbors,
      dvt.entry neighbor dst = some route :=
    fun _ member => mem_candidates.mp member
  rw [computeForwardingTable_get, known]
  obtain ⟨next, rest, routes⟩ := List.exists_cons_of_ne_nil nonempty
  rw [routes] at rows ⊢
  obtain ⟨neighbor, member, there⟩ := rows next List.mem_cons_self
  have later := fun other member => rows other (List.mem_cons_of_mem next member)
  obtain ⟨entry, selected, follows⟩ :=
    select_via about own later (adopt_via about member there first)
  exact ⟨entry, selected, follows.2⟩

end Follow

/-! ## `UpdateDistanceVectorTable` -/

/-- The entry an UPDATE stands for: one hop more, through its sender, in the advertised state. -/
def UpdateHeader.Tells (header : UpdateHeader) (src : Ipv4Address)
    (route : RoutingTableEntry) : Prop :=
  route.hops = header.hopCount + 1 ∧ route.nextHop = src ∧
    (route.state = .active ↔ header.binaryState = 1)

instance (header : UpdateHeader) (src : Ipv4Address) (route : RoutingTableEntry) :
    Decidable (header.Tells src route) :=
  inferInstanceAs (Decidable (_ ∧ _ ∧ (_ ↔ _)))

namespace Node
variable {node : Node} {header : UpdateHeader} {my src : Ipv4Address}

/-- The UPDATE is in the row of its sender, other entries are unchanged or were removed as fakes,
and a route of the forwarding table that went through the sender follows it. -/
structure LearnsUpdate (node : Node) (header : UpdateHeader) (my src : Ipv4Address) : Prop where
  stored : ∃ route,
    (node.learn src (node.updateEntry header my src)).dvt.entry src header.dst = some route ∧
    header.Tells src route
  others : ∀ neighbor dst, ¬(neighbor = src ∧ dst = header.dst) →
    (node.learn src (node.updateEntry header my src)).dvt.entry neighbor dst =
    node.dvt.entry neighbor dst ∨
    ((node.learn src (node.updateEntry header my src)).dvt.entry neighbor dst = none ∧
      (removeFakeRoutes node.neighbors node.ft node.dvt src (node.updateEntry header my src)).entry
      neighbor dst = none)
  followed : src ∈ node.neighbors → ∀ old, node.ft[header.dst]? = some old → old.nextHop = src →
    ∃ entry, (node.learn src (node.updateEntry header my src)).recompute.1.ft[header.dst]? =
    some entry ∧
      (entry.nextHop ≠ src ∨ header.Tells src entry)

def AcceptsUpdate (node : Node) (header : UpdateHeader) (src : Ipv4Address) : Prop :=
  ¬(src ∈ node.neighbors ∧ (node.dvt[src]?).isSome) ∨
    ∃ route, node.dvt.entry src header.dst = some route ∧ header.Tells src route

theorem updateEntry_tells (small : header.hopCount < 255#32) :
    header.Tells src (node.updateEntry header my src) := by
  refine ⟨?_, rfl, ?_⟩
  · simp only [updateEntry, RoutingTableEntry.setRouteState_hops, RoutingTableEntry.make_hops]
    bv_omega
  · simp [updateEntry]

theorem learn_stored (small : header.hopCount < 255#32) :
    (∃ route,
      (node.learn src (node.updateEntry header my src)).dvt.entry src header.dst = some route ∧
      header.Tells src route) ↔ node.AcceptsUpdate header src := by
  by_cases known : src ∈ node.neighbors ∧ (node.dvt[src]?).isSome
  · have dropped : (node.learn src (node.updateEntry header my src)).dvt.entry src header.dst =
        node.dvt.entry src header.dst := by
      show (updateDistanceVectorTable _ _ _ _ _).entry _ _ = _
      rw [updateDistanceVectorTable_drop known.1 known.2, withoutFakes_own]
    rw [dropped, AcceptsUpdate, or_iff_right (not_not.mpr known)]
  · refine iff_of_true ⟨node.updateEntry header my src, ?_, updateEntry_tells small⟩ (.inl known)
    show (updateDistanceVectorTable _ _ _ _ _).entry _ _ = _
    rw [updateDistanceVectorTable_store known, if_pos ⟨rfl, rfl⟩]

theorem learn_others (neighbor dst : Ipv4Address) (other : ¬(neighbor = src ∧ dst = header.dst)) :
    (node.learn src (node.updateEntry header my src)).dvt.entry neighbor dst =
      node.dvt.entry neighbor dst ∨
    ((node.learn src (node.updateEntry header my src)).dvt.entry neighbor dst = none ∧
      (removeFakeRoutes node.neighbors node.ft node.dvt src (node.updateEntry header my src)).entry
        neighbor dst = none) := by
  have rest : (node.learn src (node.updateEntry header my src)).dvt.entry neighbor dst =
      (withoutFakes node.neighbors node.ft node.dvt src (node.updateEntry header my src)).entry
      neighbor dst := by
    show (updateDistanceVectorTable _ _ _ _ _).entry _ _ = _
    by_cases known : src ∈ node.neighbors ∧ (node.dvt[src]?).isSome
    · rw [updateDistanceVectorTable_drop known.1 known.2]
    · exact (updateDistanceVectorTable_store known neighbor).trans (if_neg other)
  rw [rest]
  exact withoutFakes_cases _ _ _ _ _ _ _

/-- Where the forwarding table routes through the sender, the other rows that are read have no route
through it, or have just what the UPDATE tells. -/
def RoutesApart (node : Node) (header : UpdateHeader) (src : Ipv4Address) : Prop :=
  src ∈ node.neighbors → ∀ old, node.ft[header.dst]? = some old → old.nextHop = src →
    -- the rows of the neighbours are not enough: a refresh reads the row of the next hop, whoever
    -- that is
    ∀ neighbor route, neighbor ≠ src → Readable node.neighbors node.dvt header.dst neighbor →
      node.dvt.entry neighbor header.dst = some route → route.nextHop = src → header.Tells src route

theorem routesApart_of_rowsOwned (owned : RowsOwned node.dvt) : node.RoutesApart header src := by
  intro _ _ _ _ neighbor route other _ found through
  exact absurd ((owned _ _ _ found).symm.trans through) other

theorem learn_readable
    (readable : Readable node.neighbors (node.learn src (node.updateEntry header my src)).dvt
      header.dst neighbor)
    (other : neighbor ≠ src) : Readable node.neighbors node.dvt header.dst neighbor := by
  refine readable.imp_right fun ⟨row, route, found, names⟩ => ?_
  rcases updateDistanceVectorTable_entry found with before | ⟨_, _, told⟩
  · exact ⟨row, route, before, names⟩
  · exact absurd (names.symm.trans (congrArg RoutingTableEntry.nextHop told)) other

theorem learn_followed (small : header.hopCount < 255#32) (accepts : node.AcceptsUpdate header src)
    (apart : node.RoutesApart header src) (listed : src ∈ node.neighbors) {old : RoutingTableEntry}
    (known : node.ft[header.dst]? = some old) (through : old.nextHop = src) :
    ∃ entry, (node.learn src (node.updateEntry header my src)).recompute.1.ft[header.dst]? =
      some entry ∧
      (entry.nextHop ≠ src ∨ header.Tells src entry) := by
  obtain ⟨route, stored, tells⟩ := (@learn_stored node header my src small).mpr accepts
  have about : ∀ neighbor other,
      Readable node.neighbors (node.learn src (node.updateEntry header my src)).dvt
      header.dst neighbor →
      (node.learn src (node.updateEntry header my src)).dvt.entry neighbor header.dst = some other →
      other.nextHop = src → header.Tells src other := by
    intro neighbor other readable found here
    by_cases same : neighbor = src
    · subst same
      cases stored.symm.trans found
      exact tells
    · rcases updateDistanceVectorTable_entry found with before | ⟨own, _⟩
      · exact apart listed old known through neighbor other same
          (learn_readable readable same) before here
      · exact absurd own same
  obtain ⟨entry, present, follows⟩ :=
    @recomputed_via node.neighbors node.ft _ header.dst src (header.Tells src) about
    node.mainAddress old (Option.isSome_of_mem stored) listed known through
  refine ⟨entry, present, ?_⟩
  by_cases there : entry.nextHop = src
  · exact .inr (follows there)
  · exact .inl there

/-- An UPDATE is learned only if its sender is no neighbour with a row, or if it tells what the row
has already. -/
theorem learnsUpdate_iff_acceptsUpdate (node : Node) (header : UpdateHeader) (my src : Ipv4Address)
    (small : header.hopCount < 255#32) :
    (node.LearnsUpdate header my src → node.AcceptsUpdate header src) ∧
    (node.RoutesApart header src → (node.LearnsUpdate header my src ↔
      node.AcceptsUpdate header src)) := by
  have needed : node.LearnsUpdate header my src → node.AcceptsUpdate header src :=
    fun learns => (learn_stored small).mp learns.stored
  refine ⟨needed, fun apart => ⟨needed, fun accepts => ⟨(learn_stored small).mpr accepts,
    learn_others, ?_⟩⟩⟩
  intro listed old known through
  exact learn_followed small accepts apart listed known through

theorem learnsUpdate_iff_acceptsUpdate_twoInterfaces :
    ∃ state, Reach next (fun _ _ => True) twoInterfaces state ∧
    0x0a010202#32 ∈ state.neighbors ∧
    state.LearnsUpdate ⟨0x0a010202#32, 0x0a010209#32, 1, 1⟩ 0x0a010201#32 0x0a010202#32 := by
  -- 10.1.2.2 tells of 10.1.2.9, is heard, and tells the same once more
  obtain ⟨state, reach, checked⟩ := exists_reach_of_follow next (fun _ _ => True) twoInterfaces
    [.interfaceUp 1, update1 ⟨0x0a010202#32, 0x0a010209#32, 1, 1⟩, hello1 0x0a010202#32]
    (fun state => decide (0x0a010202#32 ∈ state.neighbors) &&
      (state.dvt.entry 0x0a010202#32 0x0a010209#32).any fun route =>
      decide (UpdateHeader.Tells ⟨0x0a010202#32, 0x0a010209#32, 1, 1⟩ 0x0a010202#32 route))
        (by decide +kernel)
  simp only [Bool.and_eq_true, Option.any_eq_true, decide_eq_true_eq] at checked
  have owned := (reach_named (initial_named _ _ _ _ _) reach).rowsOwned
  exact ⟨state, reach, checked.1,
    ((learnsUpdate_iff_acceptsUpdate state _ _ _ (by decide)).2
      (routesApart_of_rowsOwned owned)).mpr (.inr checked.2)⟩

theorem not_learnsUpdate_twoInterfaces : ∃ state, Reach next (fun _ _ => True) twoInterfaces state ∧
    ¬state.LearnsUpdate ⟨0x0a010202#32, 0x0a010209#32, 1, 1⟩ 0x0a010201#32 0x0a010202#32 := by
  -- 10.1.2.2 is heard, and then tells of 10.1.2.9
  obtain ⟨state, reach, checked⟩ := exists_reach_of_follow next (fun _ _ => True) twoInterfaces
    [.interfaceUp 1, hello1 0x0a010202#32]
    (fun state => ((state.learn 0x0a010202#32 (state.updateEntry ⟨0x0a010202#32, 0x0a010209#32, 1, 1⟩ 0x0a010201#32
      0x0a010202#32)).dvt.entry 0x0a010202#32 0x0a010209#32).isNone) (by decide +kernel)
  refine ⟨state, reach, fun learns => ?_⟩
  obtain ⟨route, stored, _⟩ := learns.stored
  rw [stored] at checked
  cases checked

end Node

end Bsdvr
