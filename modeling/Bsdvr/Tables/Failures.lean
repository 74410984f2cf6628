import Bsdvr.Proof.LinkFailures
import Bsdvr.Tables.Selection
import Bsdvr.Tables.Updates

namespace Bsdvr
open Foundation

namespace Node
variable {node : Node} {ne dst : Ipv4Address}

/-- No route through the failed neighbour is ACTIVE, the routes that were are announced to all
others, once, and the failed neighbour is told nothing. -/
structure HandlesFailure (node : Node) (ne : Ipv4Address) : Prop where
  noneActive : ∀ dst, ¬ActiveVia (node.sendUpdateOnLinkFailure ne).1.ft dst ne
  announced : ∀ dst, ActiveVia node.ft dst ne → ∀ neighbor, neighbor ∈ node.neighbors →
    neighbor ≠ ne → neighbor ≠ dst →
    ∃ sent entry, ((node.sendUpdateOnLinkFailure ne).2.filter fun sent =>
        sent.neighbor = neighbor ∧ sent.header.dst = dst) = [sent] ∧
      (node.sendUpdateOnLinkFailure ne).1.ft[dst]? = some entry ∧
      sent.header.hopCount = entry.hops ∧
      (sent.header.binaryState = 1 ↔ entry.state = .active)
  silent : ∀ sent ∈ (node.sendUpdateOnLinkFailure ne).2, sent.neighbor ≠ ne

/-- The failed neighbour is the only next hop that is left for a destination: the alternatives are
erased as fakes. -/
def Isolated (node : Node) (ne dst : Ipv4Address) : Prop :=
  (node.ft[ne]?).isSome ∧ ActiveVia node.ft dst ne

instance : Decidable (node.Isolated ne dst) := inferInstanceAs (Decidable (_ ∧ _))

structure FadesOut (node : Node) (ne dst : Ipv4Address) : Prop where
  isolated : node.Isolated ne dst → ∃ route, node.dvt.entry ne dst = some route ∧
    route.state ≠ .active
  unoffered : ¬node.Isolated ne dst → candidates node.neighbors node.dvt dst = [] →
    ¬ActiveVia node.ft dst ne
  contested : ¬node.Isolated ne dst → candidates node.neighbors node.dvt dst ≠ [] →
    ∀ route ∈ participants node.neighbors node.dvt node.ft dst,
      Worst (participants node.neighbors node.dvt node.ft dst) route →
      ¬(route.state = .active ∧ route.nextHop = ne)

instance : Decidable (node.FadesOut ne dst) :=
  decidable_of_iff ((node.Isolated ne dst →
      ∃ route ∈ node.dvt.entry ne dst, route.state ≠ .active) ∧
    (¬node.Isolated ne dst → candidates node.neighbors node.dvt dst = [] →
      ¬ActiveVia node.ft dst ne) ∧
    (¬node.Isolated ne dst → candidates node.neighbors node.dvt dst ≠ [] →
      ∀ route ∈ participants node.neighbors node.dvt node.ft dst,
        Worst (participants node.neighbors node.dvt node.ft dst) route →
          ¬(route.state = .active ∧ route.nextHop = ne)))
    ⟨fun fades => ⟨fades.1, fades.2.1, fades.2.2⟩, fun fades => ⟨fades.1, fades.2, fades.3⟩⟩

/-- There is nobody to tell about the routes through the failed neighbour, and none of them stays
ACTIVE. -/
def FailsQuietly (node : Node) (ne : Ipv4Address) : Prop :=
  (∀ dst, ActiveVia node.ft dst ne → ∀ neighbor, neighbor ∈ node.neighbors → neighbor = ne ∨
    neighbor = dst) ∧
  ∀ dst, node.FadesOut ne dst

def losing (node : Node) (ne : Ipv4Address) (toNeighbor : RoutingTableEntry) : Node :=
  node.learn ne (toNeighbor.setRouteState .inactive)

theorem losing_ft (node : Node) (ne : Ipv4Address) (toNeighbor : RoutingTableEntry) :
    (node.losing ne toNeighbor).recompute.1.ft =
      (computeForwardingTable node.mainAddress node.neighbors
      (node.losing ne toNeighbor).dvt node.ft).1 := rfl

theorem sendUpdateOnLinkFailure_eq {toNeighbor : RoutingTableEntry}
    (direct : node.dvt.entry ne ne = some toNeighbor) (passes : filtered ne = false) :
    node.sendUpdateOnLinkFailure ne =
    ((node.losing ne toNeighbor).recompute.1,
      (node.losing ne toNeighbor).recompute.1.sendTriggeredUpdateChangesToNeighbors
      (node.losing ne toNeighbor).recompute.2 [ne]) := by
  unfold sendUpdateOnLinkFailure
  rw [if_neg (by simp [passes]), direct]
  rfl

section Failure
variable {toNeighbor : RoutingTableEntry} (named : node.Named) (listed : ne ∈ node.neighbors)
  (direct : node.dvt.entry ne ne = some toNeighbor)
include named listed direct

theorem losing_entry (neighbor dst : Ipv4Address) :
    (node.Isolated ne dst → neighbor ∈ node.neighbors → neighbor ≠ ne →
      (node.losing ne toNeighbor).dvt.entry neighbor dst = none) ∧
    (¬(node.Isolated ne dst ∧ neighbor ∈ node.neighbors ∧ neighbor ≠ ne) →
      (node.losing ne toNeighbor).dvt.entry neighbor dst = node.dvt.entry neighbor dst) := by
  have destination : (toNeighbor.setRouteState .inactive).destination = ne :=
    (named.stored direct).1
  have dropped : (node.losing ne toNeighbor).dvt =
      withoutFakes node.neighbors node.ft node.dvt ne (toNeighbor.setRouteState .inactive) :=
    updateDistanceVectorTable_drop listed (entry_isSome_row direct)
  have fake : Fake node.neighbors node.ft ne (toNeighbor.setRouteState .inactive) dst ↔
      ActiveVia node.ft dst ne := by
    unfold Fake
    rw [destination]
    constructor
    · rintro ⟨_, ⟨rfl, works⟩ | ⟨_, works⟩⟩
      · exact works
      · exact works
    · exact fun works => ⟨by simp, .inr ⟨⟨rfl, listed⟩, works⟩⟩
  obtain ⟨erased, kept⟩ := (removeFakeRoutes_exact node.neighbors node.ft node.dvt ne
    (toNeighbor.setRouteState .inactive)).2.2 neighbor dst
  rw [dropped, withoutFakes, destination, Std.TreeMap.contains_eq_isSome_getElem?]
  constructor
  · rintro ⟨known, works⟩ there apart
    rw [if_pos known]
    refine erased ⟨there, fake.mpr works, fun entry present => ?_⟩
    obtain ⟨other, found, _, through⟩ := works
    cases found.symm.trans present
    exact through ▸ apart
  · intro other
    split
    · rename_i known
      refine kept fun gone => other ⟨⟨known, fake.mp gone.2.1⟩, gone.1, ?_⟩
      obtain ⟨entry, found, _, through⟩ := fake.mp gone.2.1
      exact through ▸ gone.2.2 entry found
    · rfl

theorem losing_candidates_isolated (isolated : node.Isolated ne dst) {route : RoutingTableEntry}
    (member : route ∈ candidates node.neighbors (node.losing ne toNeighbor).dvt dst) :
    node.dvt.entry ne dst = some route := by
  obtain ⟨neighbor, there, found⟩ := mem_candidates.mp member
  obtain ⟨erased, kept⟩ := losing_entry named listed direct neighbor dst
  by_cases apart : neighbor = ne
  · subst apart
    rwa [kept fun gone => gone.2.2 rfl] at found
  · rw [erased isolated there apart] at found
    cases found

theorem losing_rowsOwned : RowsOwned (node.losing ne toNeighbor).dvt :=
  (learn_forgets listed (entry_isSome_row direct) _).owned named.rowsOwned

theorem losing_isolated (isolated : node.Isolated ne dst) :
    (¬ActiveVia (node.losing ne toNeighbor).recompute.1.ft dst ne) ↔
      ∃ route, node.dvt.entry ne dst = some route ∧ route.state ≠ .active := by
  have owned := losing_rowsOwned named listed direct
  have own := (losing_entry named listed direct ne dst).2 fun gone => gone.2.2 rfl
  have only := fun route => @losing_candidates_isolated node ne dst toNeighbor named listed direct
    isolated route
  obtain ⟨_, old, known, works, through⟩ := isolated
  rw [losing_ft, ActiveVia]
  cases stored : node.dvt.entry ne dst with
  | none =>
      have empty : candidates node.neighbors (node.losing ne toNeighbor).dvt dst = [] := by
        refine List.eq_nil_iff_forall_not_mem.mpr fun route member => ?_
        cases stored.symm.trans (only route member)
      rw [computeForwardingTable_get, empty, known]
      simp [select, works, through]
  | some route =>
      have refreshed : refreshEntry (node.losing ne toNeighbor).dvt dst old = route :=
        refreshEntry_of_entry (by rw [through, own, stored])
      have member : route ∈ candidates node.neighbors (node.losing ne toNeighbor).dvt dst :=
        mem_candidates.mpr ⟨ne, listed, own.trans stored⟩
      have unbeaten : ∀ other ∈ candidates node.neighbors (node.losing ne toNeighbor).dvt dst,
          isBetterRoute other (refreshEntry (node.losing ne toNeighbor).dvt dst old) = false := by
        intro other there
        cases stored.symm.trans (only other there)
        rw [refreshed, isBetterRoute_irrefl]
      rw [recomputed_unbeaten owned known unbeaten, if_neg (List.ne_nil_of_mem member), refreshed]
      simp [named.rowsOwned _ _ _ stored]

theorem losing_participants (connected : ¬node.Isolated ne dst) :
    candidates node.neighbors (node.losing ne toNeighbor).dvt dst =
      candidates node.neighbors node.dvt dst ∧
    participants node.neighbors (node.losing ne toNeighbor).dvt node.ft dst =
      participants node.neighbors node.dvt node.ft dst := by
  have same (neighbor : Ipv4Address) : (node.losing ne toNeighbor).dvt.entry neighbor dst =
      node.dvt.entry neighbor dst :=
    (losing_entry named listed direct neighbor dst).2 fun gone => connected gone.1
  have forgets := learn_forgets listed (entry_isSome_row direct)
    (toNeighbor.setRouteState .inactive)
  have routes : candidates node.neighbors (node.losing ne toNeighbor).dvt dst =
      candidates node.neighbors node.dvt dst :=
    List.filterMap_congr fun neighbor _ => same neighbor
  have refreshed : refreshEntry (node.losing ne toNeighbor).dvt dst =
      refreshEntry node.dvt dst := by
    funext entry
    exact refreshEntry_congr (forgets.rows _) (same _)
  exact ⟨routes, by rw [participants, routes, refreshed, participants]⟩

theorem noneActive_iff_fadesOut :
    (¬ActiveVia (node.losing ne toNeighbor).recompute.1.ft dst ne) ↔ node.FadesOut ne dst := by
  by_cases isolated : node.Isolated ne dst
  · rw [losing_isolated named listed direct isolated]
    constructor
    · exact fun fades => ⟨fun _ => fades, fun other => absurd isolated other,
        fun other => absurd isolated other⟩
    · exact fun fades => fades.isolated isolated
  obtain ⟨routes, competing⟩ := losing_participants named listed direct isolated
  rw [losing_ft]
  by_cases empty : candidates node.neighbors node.dvt dst = []
  · have same : (computeForwardingTable node.mainAddress node.neighbors
        (node.losing ne toNeighbor).dvt node.ft).1[dst]? =
        node.ft[dst]? := by
      rw [computeForwardingTable_get, routes, empty]
      rfl
    rw [ActiveVia, same]
    constructor
    · exact fun fades => ⟨fun other => absurd other isolated, fun _ _ => fades,
        fun _ other => absurd empty other⟩
    · exact fun fades => fades.unoffered isolated empty
  · have computed := fun entry => @recomputed_eq_some_iff_worst node.mainAddress node.neighbors _
      node.ft dst entry
      (losing_rowsOwned named listed direct) (routes ▸ empty)
    rw [ActiveVia]
    simp only [computed, competing]
    constructor
    · intro fades
      refine ⟨fun other => absurd other isolated, fun _ other => absurd other empty,
        fun _ _ route _ worst alive => ?_⟩
      exact fades ⟨route, worst, alive⟩
    · rintro fades ⟨route, worst, alive⟩
      exact fades.contested isolated empty route worst.mem worst alive

theorem announced_nil {old : RoutingTableEntry} (known : node.ft[dst]? = some old)
    (neighbor : Ipv4Address) :
    (((node.losing ne toNeighbor).recompute.1.sendTriggeredUpdateChangesToNeighbors
      (node.losing ne toNeighbor).recompute.2 [ne]).filter fun sent =>
        sent.neighbor = neighbor ∧ sent.header.dst = dst) = [] := by
  rw [List.filter_eq_nil_iff]
  intro sent member about
  obtain ⟨_, other, entry, _, _, changed, present, _, rfl⟩ :=
    mem_sendTriggeredUpdateChangesToNeighbors.mp member
  obtain ⟨_, new, _⟩ := mem_changes.mp changed
  have after := (learn_forgets listed (entry_isSome_row direct)
    (toNeighbor.setRouteState .inactive)).named named
  have destination : entry.destination = other := after.forwarding present
  obtain ⟨_, here⟩ : _ ∧ entry.destination = dst := of_decide_eq_true about
  rw [← destination, here] at new
  cases known.symm.trans new

end Failure

/-- A link failure is handled only where there is nobody to tell and no ACTIVE route is left. -/
theorem handlesFailure_iff_failsQuietly (node : Node) (ne : Ipv4Address) (named : node.Named)
    (listed : ne ∈ node.neighbors) (direct : (node.dvt.entry ne ne).isSome)
    (passes : filtered ne = false) :
    node.HandlesFailure ne ↔ node.FailsQuietly ne := by
  obtain ⟨toNeighbor, found⟩ := Option.isSome_iff_exists.mp direct
  have same := sendUpdateOnLinkFailure_eq found passes
  constructor
  · intro handles
    refine ⟨fun dst works neighbor there => ?_,
      fun dst => (noneActive_iff_fadesOut named listed found).mp ?_⟩
    · by_contra apart
      rw [not_or] at apart
      obtain ⟨sent, entry, one, _⟩ := handles.announced dst works neighbor there apart.1 apart.2
      obtain ⟨old, known, _⟩ := works
      rw [same, announced_nil named listed found known neighbor] at one
      cases one
    · have none := handles.noneActive dst
      rwa [same] at none
  · rintro ⟨alone, fades⟩
    refine ⟨fun dst => ?_, fun dst works neighbor there apart other => ?_, fun sent member => ?_⟩
    · rw [same]
      exact (noneActive_iff_fadesOut named listed found).mpr (fades dst)
    · rcases alone dst works neighbor there with own | own
      · exact absurd own apart
      · exact absurd own other
    · rw [same] at member
      obtain ⟨neighbor, _, _, _, apart, _, _, _, rfl⟩ :=
        mem_sendTriggeredUpdateChangesToNeighbors.mp member
      exact fun own => apart (List.mem_singleton.mpr own)

def mentioned (node : Node) : List Ipv4Address := offered node.neighbors node.dvt ++ node.ft.keys

theorem fadesOut_of_notMem (absent : dst ∉ node.mentioned) : node.FadesOut ne dst := by
  obtain ⟨unoffered, unknown⟩ := not_or.mp (mt List.mem_append.mpr absent)
  have inactive : ¬ActiveVia node.ft dst ne := by
    rintro ⟨entry, known, _⟩
    apply unknown
    rw [Std.TreeMap.mem_keys, Std.TreeMap.mem_iff_isSome_getElem?, known, Option.isSome_some]
  exact ⟨fun isolated => absurd isolated.2 inactive, fun _ _ => inactive,
    fun _ nonempty => absurd (mem_offered nonempty) unoffered⟩

theorem handlesFailure_iff_failsQuietly_twoInterfaces :
    ∃ state, Reach next (fun _ _ => True) twoInterfaces state ∧
    ActiveVia state.ft 0x0a010209#32 0x0a010202#32 ∧ state.HandlesFailure 0x0a010202#32 := by
  -- 10.1.2.2 tells of 10.1.2.9, is heard, expires, takes back all it told, and is heard again
  obtain ⟨state, reach, checked⟩ := exists_reach_of_follow next (fun _ _ => True) twoInterfaces
    [.interfaceUp 1, update1 ⟨0x0a010202#32, 0x0a010209#32, 1, 1⟩, hello1 0x0a010202#32,
      .elapse 1001, .purge, update1 ⟨0x0a010202#32, 0x0a010209#32, 1, 0⟩,
      update1 ⟨0x0a010202#32, 0x0a010202#32, 0, 0⟩, hello1 0x0a010202#32]
    (fun state => decide (ActiveVia state.ft 0x0a010209#32 0x0a010202#32) &&
      (decide (state.neighbors = [0x0a010202#32]) &&
      ((state.dvt.entry 0x0a010202#32 0x0a010202#32).isSome &&
        state.mentioned.all fun dst => decide (state.FadesOut 0x0a010202#32 dst))))
        (by decide +kernel)
  simp only [Bool.and_eq_true, List.all_eq_true, decide_eq_true_eq] at checked
  obtain ⟨works, list, direct, fades⟩ := checked
  have named := reach_named (initial_named _ _ _ _ _) reach
  refine ⟨state, reach, works, (handlesFailure_iff_failsQuietly state _ named
    (by simp [list]) direct (by decide)).mpr
    ⟨fun dst _ neighbor there => .inl (by simpa [list] using there), fun dst => ?_⟩⟩
  by_cases known : dst ∈ state.mentioned
  · exact fades dst known
  · exact fadesOut_of_notMem known

theorem not_handlesFailure_twoInterfaces :
    ∃ state, Reach next (fun _ _ => True) twoInterfaces state ∧
    (0x0a010202#32 ∈ state.neighbors ∧ (state.dvt.entry 0x0a010202#32 0x0a010202#32).isSome ∧
      filtered 0x0a010202#32 = false) ∧ ¬state.HandlesFailure 0x0a010202#32 := by
  -- 10.1.2.2 is the only neighbour
  obtain ⟨state, reach, checked⟩ := exists_reach_of_follow next (fun _ _ => True) twoInterfaces
    [.interfaceUp 1, hello1 0x0a010202#32]
    (fun state => decide (0x0a010202#32 ∈ state.neighbors) &&
      ((state.dvt.entry 0x0a010202#32 0x0a010202#32).isSome &&
      decide (ActiveVia (state.sendUpdateOnLinkFailure 0x0a010202#32).1.ft 0x0a010202#32
        0x0a010202#32))) (by decide +kernel)
  simp only [Bool.and_eq_true, decide_eq_true_eq] at checked
  obtain ⟨listed, direct, works⟩ := checked
  exact ⟨state, reach, ⟨listed, direct, by decide⟩, fun handles => handles.noneActive _ works⟩

end Node

end Bsdvr
