import Bsdvr.Runs.Steady
import Bsdvr.Tables.Selection

namespace Bsdvr
open Foundation

/-! ## The preference as an order -/

def AtThreshold (route : RoutingTableEntry) : Prop :=
  route.state = .active ∧ route.hops = bsdvrThreshold

instance (route : RoutingTableEntry) : Decidable (AtThreshold route) :=
  inferInstanceAs (Decidable (_ ∧ _))

/-- An ACTIVE route at the threshold among INACTIVE ones of different lengths. -/
def Straddles (routes : Set RoutingTableEntry) : Prop :=
  ∃ level ∈ routes, AtThreshold level ∧
    ∃ x ∈ routes, ∃ y ∈ routes, x.state = .inactive ∧ y.state = .inactive ∧ x.hops ≠ y.hops

theorem draw_iff {x y : RoutingTableEntry} : Draw isBetterRoute x y ↔
    SameMetric x y ∨ (AtThreshold x ∧ y.state = .inactive) ∨
    (AtThreshold y ∧ x.state = .inactive) := by
  unfold Draw
  rw [isBetterRoute_eq_false, isBetterRoute_eq_false]
  constructor
  · rintro ⟨second, first⟩
    rcases tied_cases first second with same | ⟨works, limit, failed⟩ | ⟨works, limit, failed⟩
    · exact .inl same
    · exact .inr (.inl ⟨⟨works, limit⟩, failed⟩)
    · exact .inr (.inr ⟨⟨works, limit⟩, failed⟩)
  · rintro (same | ⟨⟨works, limit⟩, failed⟩ | ⟨⟨works, limit⟩, failed⟩)
    · exact ⟨fun falls => not_preferred_self y ((same.preferred_iff' y).mp falls),
        fun falls => not_preferred_self y ((same.preferred_iff y).mp falls)⟩
    · simp [Preferred, works, limit, failed]
    · simp [Preferred, works, limit, failed]

theorem AtThreshold.not_inactive {route : RoutingTableEntry} (level : AtThreshold route) :
    route.state ≠ .inactive := by
  rw [level.1]
  exact RouteState.noConfusion

theorem draw_transitive_iff (routes : Set RoutingTableEntry) :
    (∀ x ∈ routes, ∀ y ∈ routes, ∀ z ∈ routes,
      Draw isBetterRoute x y → Draw isBetterRoute y z → Draw isBetterRoute x z) ↔
      ¬Straddles routes := by
  constructor
  · rintro settled ⟨level, member, threshold, x, memberX, y, memberY, failedX, failedY, apart⟩
    have first : Draw isBetterRoute x level := draw_iff.mpr (.inr (.inr ⟨threshold, failedX⟩))
    have second : Draw isBetterRoute level y := draw_iff.mpr (.inr (.inl ⟨threshold, failedY⟩))
    rcases draw_iff.mp (settled x memberX level member y memberY first second)
      with same | ⟨other, _⟩ | ⟨other, _⟩
    · exact apart same.1
    · exact other.not_inactive failedX
    · exact other.not_inactive failedY
  · intro clear x memberX y memberY z memberZ first second
    refine draw_iff.mpr ?_
    rcases draw_iff.mp first with same | ⟨level, failed⟩ | ⟨level, failed⟩ <;>
      rcases draw_iff.mp second with same' | ⟨level', failed'⟩ | ⟨level', failed'⟩
    · exact .inl (same.trans same')
    · exact .inr (.inl ⟨⟨same.2.trans level'.1, same.1.trans level'.2⟩, failed'⟩)
    · exact .inr (.inr ⟨level', same.2.trans failed'⟩)
    · exact .inr (.inl ⟨level, same'.2.symm.trans failed⟩)
    · exact absurd failed level'.not_inactive
    · exact .inl ⟨level.2.trans level'.2.symm, level.1.trans level'.1.symm⟩
    · exact .inr (.inr ⟨⟨same'.2.symm.trans level.1, same'.1.symm.trans level.2⟩, failed⟩)
    · -- `y` is at the threshold, `x` and `z` are INACTIVE
      by_cases same : x.hops = z.hops
      · exact .inl ⟨same, failed.trans failed'.symm⟩
      · exact absurd ⟨y, memberY, level, x, memberX, z, memberZ, failed, failed', same⟩ clear
    · exact absurd failed' level.not_inactive

/-- A strict order; draws are transitive, and the order of the comparisons does not matter, exactly
among routes that no ACTIVE one straddles. -/
theorem isBetterRoute_weakOrder_iff :
    (∀ r, isBetterRoute r r = false) ∧
    (∀ r1 r2, isBetterRoute r1 r2 = true → isBetterRoute r2 r1 = false) ∧
    (∀ r1 r2 r3, isBetterRoute r1 r2 = true → isBetterRoute r2 r3 = true →
      isBetterRoute r1 r3 = true) ∧
    ∀ routes : Set RoutingTableEntry,
      ((∀ r1 ∈ routes, ∀ r2 ∈ routes, ∀ r3 ∈ routes,
        Draw isBetterRoute r1 r2 → Draw isBetterRoute r2 r3 → Draw isBetterRoute r1 r3) ↔
        ¬Straddles routes) ∧
      (OrderFree isBetterRoute routes ↔ ¬Straddles routes) ∧
      (OrderFree (fun challenger kept => isBetterRoute kept challenger) routes ↔
        ¬Straddles routes) := by
  have transitive (r1 r2 r3 : RoutingTableEntry) (first : isBetterRoute r1 r2 = true)
      (second : isBetterRoute r2 r3 = true) : isBetterRoute r1 r3 = true :=
      isBetterRoute_trans r3 r2 r1 second first
  refine ⟨isBetterRoute_irrefl, fun r1 r2 better => ?_, transitive,
    fun routes => ⟨draw_transitive_iff routes, ?_, ?_⟩⟩
  · by_contra worse
    have around := transitive r1 r2 r1 better (by simpa using worse)
    simp [isBetterRoute_irrefl] at around
  · rw [orderFree_iff isBetterRoute_irrefl isBetterRoute_trans, draw_transitive_iff]
  · rw [@orderFree_iff _ (fun challenger kept => isBetterRoute kept challenger)
      isBetterRoute_irrefl transitive, ← draw_transitive_iff]
    -- a draw stays one where the roles are changed
    constructor
    · intro settled x memberX y memberY z memberZ first second
      exact (settled x memberX y memberY z memberZ first.symm second.symm).symm
    · intro settled x memberX y memberY z memberZ first second
      exact (settled x memberX y memberY z memberZ first.symm second.symm).symm

theorem not_isBetterRoute_weakOrder :
    ¬((∀ r, isBetterRoute r r = false) ∧
      (∀ r1 r2, isBetterRoute r1 r2 = true → isBetterRoute r2 r1 = false) ∧
      (∀ r1 r2 r3, isBetterRoute r1 r2 = true → isBetterRoute r2 r3 = true →
        isBetterRoute r1 r3 = true) ∧
      (∀ r1 r2 r3, Draw isBetterRoute r1 r2 → Draw isBetterRoute r2 r3 → Draw isBetterRoute r1 r3) ∧
      OrderFree isBetterRoute Set.univ) := by
  -- INACTIVE over 3 hops, ACTIVE over 16, INACTIVE over 5
  rintro ⟨_, _, _, settled, _⟩
  let route (hops : BitVec 32) (state : RouteState) : RoutingTableEntry :=
    (RoutingTableEntry.make 0 none 0x0a010209#32 .unset hops 0x0a010202#32).setRouteState state
  have drawn := settled (route 3 .inactive) (route 16 .active) (route 5 .inactive)
    (by decide) (by decide)
  exact absurd drawn (by decide)

/-! ## The order of the neighbours -/

variable {neighbors others : List Ipv4Address} {dvt : DistanceVectorTable} {ft : EntryMap}
  {dst : Ipv4Address}

/-- An ACTIVE route at the threshold competes with an INACTIVE one, and neither the entry there is
nor a third route decides between them. -/
def Contested (neighbors : List Ipv4Address) (dvt : DistanceVectorTable) (ft : EntryMap)
    (dst : Ipv4Address) : Prop :=
  (∀ old ∈ ft[dst]?, Short (refreshEntry dvt dst old)) ∧
  (∀ route ∈ candidates neighbors dvt dst, route.state = .active → ¬bsdvrThreshold < route.hops) ∧
  (∃ route ∈ candidates neighbors dvt dst, AtThreshold route) ∧
  ∃ route ∈ candidates neighbors dvt dst, route.state = .inactive

theorem candidates_perm (moved : others.Perm neighbors) (dvt : DistanceVectorTable)
    (dst : Ipv4Address) :
    (candidates others dvt dst).Perm (candidates neighbors dvt dst) := moved.filterMap _

theorem candidates_eq_nil_iff (moved : others.Perm neighbors) :
    candidates others dvt dst = [] ↔ candidates neighbors dvt dst = [] := by
  rw [← List.length_eq_zero_iff, (candidates_perm moved dvt dst).length_eq, List.length_eq_zero_iff]

theorem participants_perm (moved : others.Perm neighbors) (dvt : DistanceVectorTable)
    (ft : EntryMap) (dst : Ipv4Address) :
    (participants others dvt ft dst).Perm (participants neighbors dvt ft dst) :=
  (candidates_perm moved dvt dst).append_left _

theorem mem_participants {route : RoutingTableEntry} : route ∈ participants neighbors dvt ft dst ↔
    (∃ old ∈ ft[dst]?, refreshEntry dvt dst old = route) ∨
    route ∈ candidates neighbors dvt dst := by
  simp [participants]

theorem Contested.perm (contested : Contested others dvt ft dst) (moved : others.Perm neighbors) :
    Contested neighbors dvt ft dst := by
  have same (route : RoutingTableEntry) : route ∈ candidates neighbors dvt dst ↔
      route ∈ candidates others dvt dst :=
    (candidates_perm moved dvt dst).mem_iff.symm
  simpa only [Contested, same] using contested

theorem AtThreshold.not_short {route : RoutingTableEntry}
    (level : AtThreshold route) : ¬Short route := by
  rintro ⟨_, below⟩
  rw [level.2] at below
  exact absurd below (by decide)

/-- What the worst of one order and the worst of another can differ in. -/
theorem contested_of_worst {level failed : RoutingTableEntry} (moved : others.Perm neighbors)
    (first : Worst (participants neighbors dvt ft dst) level)
    (second : Worst (participants others dvt ft dst) failed) (threshold : AtThreshold level)
    (inactive : failed.state = .inactive) : Contested neighbors dvt ft dst := by
  have memberFailed : failed ∈ participants neighbors dvt ft dst :=
    (participants_perm moved dvt ft dst).mem_iff.mp second.mem
  have long : ¬Short failed :=
    fun short => absurd (short.1.symm.trans inactive) RouteState.noConfusion
  have short : ∀ old ∈ ft[dst]?, Short (refreshEntry dvt dst old) := by
    intro old known
    by_contra decisive
    -- the entry is met first in every order, and decides for both
    have decider (list : List Ipv4Address) :
        (participants list dvt ft dst).find? (fun route => ¬Short route) =
        some (refreshEntry dvt dst old) := by
      rw [participants, Option.mem_def.mp known, Option.map_some, Option.toList_some,
        List.singleton_append, List.find?_cons]
      simp [decisive]
    rcases first.decided _ (decider neighbors) with here | ⟨_, beyond⟩
    · rcases second.decided _ (decider others) with there | ⟨active, _⟩
      · exact threshold.not_inactive ((here.trans there.symm).trans inactive)
      · exact absurd (active.symm.trans inactive) RouteState.noConfusion
    · rw [threshold.2] at beyond
      exact absurd beyond (by decide)
  have competing {route : RoutingTableEntry} (member : route ∈ participants neighbors dvt ft dst)
      (other : ¬Short route) :
      route ∈ candidates neighbors dvt dst := by
    rcases mem_participants.mp member with ⟨old, known, rfl⟩ | candidate
    · exact absurd (short old known) other
    · exact candidate
  refine ⟨short, fun route member active => ?_,
    ⟨level, competing first.mem threshold.not_short, threshold⟩, failed,
    competing memberFailed long, inactive⟩
  have listed : route ∈ participants others dvt ft dst :=
    (participants_perm moved dvt ft dst).mem_iff.mpr (mem_participants.mpr (.inr member))
  exact fun beyond => second.preferredToNone route listed (.inr (.inr ⟨inactive, active, beyond⟩))

/-- A route that is not short and is met first decides about the state. -/
theorem state_of_front {mainAddress : Ipv4Address} (owned : RowsOwned dvt)
    (contested : Contested neighbors dvt ft dst) {front : RoutingTableEntry}
    (member : front ∈ candidates neighbors dvt dst) (long : ¬Short front) :
    ∃ others, others.Perm neighbors ∧ ∃ entry,
      (computeForwardingTable mainAddress others dvt ft).1[dst]? = some entry ∧
      entry.state = front.state := by
  obtain ⟨short, limited, _, _⟩ := contested
  obtain ⟨neighbor, listed, found⟩ := mem_candidates.mp member
  have moved : (neighbor :: neighbors.erase neighbor).Perm neighbors :=
    (List.perm_cons_erase listed).symm
  have head : candidates (neighbor :: neighbors.erase neighbor) dvt dst =
      front :: candidates (neighbors.erase neighbor) dvt dst := by simp [candidates, found]
  have nonempty : candidates (neighbor :: neighbors.erase neighbor) dvt dst ≠ [] :=
    head ▸ List.cons_ne_nil _ _
  obtain ⟨entry, computed⟩ := Option.isSome_iff_exists.mp
    ((@recomputed_isSome dvt dst mainAddress (neighbor :: neighbors.erase neighbor) ft).mpr
      (.inr nonempty))
  have worst := (recomputed_eq_some_iff_worst owned nonempty).mp computed
  have decider : (participants (neighbor :: neighbors.erase neighbor) dvt ft dst).find?
      (fun route => ¬Short route) =
      some front := by
    unfold participants
    rw [head]
    cases known : ft[dst]? with
    | none => simp [long]
    | some old => simp [long, short old known]
  refine ⟨_, moved, entry, computed, ?_⟩
  rcases worst.decided front decider with same | ⟨active, beyond⟩
  · exact same
  · rcases mem_participants.mp ((participants_perm moved dvt ft dst).mem_iff.mp worst.mem)
      with ⟨old, known, rfl⟩ | candidate
    · exact absurd (short old known).2 (by bv_omega)
    · exact absurd beyond (limited entry candidate active)

/-- The order of the neighbours decides about no destination, and about a metric exactly where it is
contested. -/
theorem computeForwardingTable_perm_iff (mainAddress : Ipv4Address) (neighbors : List Ipv4Address)
    (dvt : DistanceVectorTable) (ft : EntryMap) (dst : Ipv4Address) :
    (∀ others : List Ipv4Address, others.Perm neighbors →
      ((computeForwardingTable mainAddress others dvt ft).1[dst]?).isSome =
        ((computeForwardingTable mainAddress neighbors dvt ft).1[dst]?).isSome) ∧
    (RowsOwned dvt → ((∀ others : List Ipv4Address, others.Perm neighbors →
      ((computeForwardingTable mainAddress others dvt ft).1[dst]?).map RoutingTableEntry.metric =
        ((computeForwardingTable mainAddress neighbors dvt ft).1[dst]?).map
          RoutingTableEntry.metric) ↔
      ¬Contested neighbors dvt ft dst)) := by
  refine ⟨fun others moved => ?_, ?_⟩
  · rw [Bool.eq_iff_iff, recomputed_isSome, recomputed_isSome, ne_eq, candidates_eq_nil_iff moved]
  intro owned
  constructor
  · intro same contested
    obtain ⟨_, _, ⟨level, memberLevel, threshold⟩, failed, memberFailed, inactive⟩ := id contested
    have long : ¬Short failed :=
      fun short => absurd (short.1.symm.trans inactive) RouteState.noConfusion
    obtain ⟨others, moved, entry, computed, here⟩ :=
      @state_of_front neighbors dvt ft dst mainAddress owned contested level memberLevel
      threshold.not_short
    obtain ⟨others', moved', entry', computed', there⟩ :=
      @state_of_front neighbors dvt ft dst mainAddress owned contested failed memberFailed long
    have equal := (same others moved).trans (same others' moved').symm
    rw [computed, computed', Option.map_some, Option.map_some, Option.some.injEq] at equal
    have states : entry.state = entry'.state := congrArg Prod.snd equal
    exact threshold.not_inactive (here.symm.trans (states.trans (there.trans inactive)))
  · intro settled others moved
    by_cases empty : candidates neighbors dvt dst = []
    · have empty' : candidates others dvt dst = [] := (candidates_eq_nil_iff moved).mpr empty
      rw [computeForwardingTable_get, computeForwardingTable_get, empty, empty']
    have nonempty' : candidates others dvt dst ≠ [] := mt (candidates_eq_nil_iff moved).mp empty
    obtain ⟨left, computed⟩ := Option.isSome_iff_exists.mp
      ((@recomputed_isSome dvt dst mainAddress neighbors ft).mpr (.inr empty))
    obtain ⟨left', computed'⟩ := Option.isSome_iff_exists.mp
      ((@recomputed_isSome dvt dst mainAddress others ft).mpr (.inr nonempty'))
    have first := (recomputed_eq_some_iff_worst owned empty).mp computed
    have second := (recomputed_eq_some_iff_worst owned nonempty').mp computed'
    have listed := (participants_perm moved dvt ft dst).mem_iff.mpr first.mem
    have listed' := (participants_perm moved dvt ft dst).mem_iff.mp second.mem
    rcases tied_cases (first.preferredToNone _ listed') (second.preferredToNone _ listed) with
      same | ⟨works, limit, failed⟩ | ⟨works, limit, failed⟩
    · rw [computed, computed', Option.map_some, Option.map_some, RoutingTableEntry.metric,
        RoutingTableEntry.metric, same.1, same.2]
    · exact absurd (contested_of_worst moved first second ⟨works, limit⟩ failed) settled
    · exact absurd ((contested_of_worst moved.symm second first ⟨works, limit⟩ failed).perm moved)
        settled

theorem computeForwardingTable_perm_twoInterfaces : ∃ state,
    Reach Node.next (fun _ _ => True) Node.twoInterfaces state ∧
    (state.dvt.entry 0x0a010202#32 0x0a010209#32).isSome ∧
    (state.dvt.entry 0x0a010203#32 0x0a010209#32).isSome ∧
    ∀ others : List Ipv4Address, others.Perm [0x0a010202#32, 0x0a010203#32] →
      ((computeForwardingTable state.mainAddress others state.dvt state.ft).1[0x0a010209#32]?).map
        RoutingTableEntry.metric =
        ((computeForwardingTable state.mainAddress [0x0a010202#32, 0x0a010203#32] state.dvt
          state.ft).1[0x0a010209#32]?).map RoutingTableEntry.metric := by
  -- 10.1.2.9 is two hops away through 10.1.2.2 and five through 10.1.2.3
  obtain ⟨state, reach, checked⟩ := exists_reach_of_follow Node.next
    (fun _ _ => True) Node.twoInterfaces
    [.interfaceUp 1, Node.update1 ⟨0x0a010202#32, 0x0a010209#32, 1, 1⟩,
      Node.update1 ⟨0x0a010203#32, 0x0a010209#32, 4, 1⟩]
    (fun state => (state.dvt.entry 0x0a010202#32 0x0a010209#32).isSome &&
      (state.dvt.entry 0x0a010203#32 0x0a010209#32).isSome &&
      (candidates [0x0a010202#32, 0x0a010203#32] state.dvt 0x0a010209#32).all fun route =>
      decide (route.state = .active))
    (by decide +kernel)
  simp only [Bool.and_eq_true, List.all_eq_true, decide_eq_true_eq] at checked
  obtain ⟨⟨one, two⟩, working⟩ := checked
  have owned := (Node.reach_named (Node.initial_named _ _ _ _ _) reach).rowsOwned
  refine ⟨state, reach, one, two, ((computeForwardingTable_perm_iff _ _ _ _ _).2 owned).mpr ?_⟩
  rintro ⟨_, _, _, route, member, inactive⟩
  exact absurd ((working route member).symm.trans inactive) RouteState.noConfusion

theorem not_computeForwardingTable_perm :
    (∃ state, Reach Node.next (fun _ _ => True) Node.twoInterfaces state ∧
      ((computeForwardingTable state.mainAddress [0x0a010203#32, 0x0a010202#32] state.dvt
          state.ft).1[0x0a010209#32]?).map RoutingTableEntry.metric ≠
        ((computeForwardingTable state.mainAddress [0x0a010202#32, 0x0a010203#32] state.dvt
          state.ft).1[0x0a010209#32]?).map RoutingTableEntry.metric) ∧
    ∃ dvt : DistanceVectorTable, (dvt.toList.all fun row => row.2.toList.all fun entry =>
      decide (entry.2.hops < 8)) = true ∧
      ((computeForwardingTable 0x0a010201#32 [0x0a010203#32,
        0x0a010202#32] dvt ∅).1[0x0a010209#32]?).map
          RoutingTableEntry.metric ≠
        ((computeForwardingTable 0x0a010201#32 [0x0a010202#32,
          0x0a010203#32] dvt ∅).1[0x0a010209#32]?).map
          RoutingTableEntry.metric := by
  constructor
  · -- 10.1.2.9 is 16 hops away through 10.1.2.2, ACTIVE, and three through 10.1.2.3, INACTIVE
    obtain ⟨state, reach, checked⟩ := exists_reach_of_follow Node.next
      (fun _ _ => True) Node.twoInterfaces
      [.interfaceUp 1, Node.update1 ⟨0x0a010202#32, 0x0a010209#32, 15, 1⟩,
        Node.update1 ⟨0x0a010203#32, 0x0a010209#32, 2, 0⟩]
      (fun state => decide (
        ((computeForwardingTable state.mainAddress [0x0a010203#32, 0x0a010202#32] state.dvt
          state.ft).1[0x0a010209#32]?).map RoutingTableEntry.metric ≠
        ((computeForwardingTable state.mainAddress [0x0a010202#32, 0x0a010203#32] state.dvt
          state.ft).1[0x0a010209#32]?).map RoutingTableEntry.metric)) (by decide +kernel)
    exact ⟨state, reach, of_decide_eq_true checked⟩
  · -- the route through 10.1.2.2 has the next hop 10.1.2.3, and is replaced by the shorter one that
    -- 10.1.2.3 has
    let route (hops : BitVec 32) : RoutingTableEntry :=
      .make 0 none 0x0a010209#32 .unset hops 0x0a010203#32
    exact ⟨(∅ : DistanceVectorTable).insert 0x0a010202#32
      ((∅ : EntryMap).insert 0x0a010209#32 (route 5)) |>.insert
      0x0a010203#32 ((∅ : EntryMap).insert 0x0a010209#32 (route 2)), by decide +kernel,
      by decide +kernel⟩

/-! ## A second recomputation -/

/-- The forwarding table that a recomputation leaves is left by the next one, which reports
nothing. -/
theorem computeForwardingTable_again (mainAddress : Ipv4Address) (neighbors : List Ipv4Address)
    (dvt : DistanceVectorTable) (ft : EntryMap) (owned : RowsOwned dvt) :
    (∀ dst : Ipv4Address, (computeForwardingTable mainAddress neighbors dvt
        (computeForwardingTable mainAddress neighbors dvt ft).1).1[dst]? =
      (computeForwardingTable mainAddress neighbors dvt ft).1[dst]?) ∧
    (computeForwardingTable mainAddress neighbors dvt
      (computeForwardingTable mainAddress neighbors dvt ft).1).2 = [] := by
  constructor
  · intro dst
    cases known : (computeForwardingTable mainAddress neighbors dvt ft).1[dst]? with
    | none =>
        have nothing : ¬((ft[dst]?).isSome ∨ candidates neighbors dvt dst ≠ []) := by
          rw [← @recomputed_isSome dvt dst mainAddress neighbors ft, known]
          exact Bool.false_ne_true
        rw [not_or, not_not] at nothing
        rw [computeForwardingTable_get, nothing.2, known]
        rfl
    | some entry =>
        have settled := recomputed_settled owned known
        have unbeaten : ∀ route ∈ candidates neighbors dvt dst,
            isBetterRoute route (refreshEntry dvt dst entry) = false := by
          intro route member
          rw [(settled route member).2]
          exact (settled route member).1
        rw [recomputed_unbeaten owned known unbeaten]
        split
        · rfl
        · rename_i nonempty
          obtain ⟨route, member⟩ := List.exists_mem_of_ne_nil _ nonempty
          rw [(settled route member).2]
  · refine List.eq_nil_iff_forall_not_mem.mpr fun dst changed => ?_
    obtain ⟨_, absent, present⟩ := mem_changes.mp changed
    rw [recomputed_isSome, absent] at present
    have known : ((computeForwardingTable mainAddress neighbors dvt ft).1[dst]?).isSome :=
      (@recomputed_isSome dvt dst mainAddress neighbors ft).mpr
      (.inr (present.resolve_left Bool.false_ne_true))
    simp [absent] at known

theorem computeForwardingTable_again_twoInterfaces : ∃ state,
    Reach Node.next (fun _ _ => True) Node.twoInterfaces state ∧
    0x0a010209#32 ∈ (computeForwardingTable state.mainAddress [0x0a010202#32,
      0x0a010203#32] state.dvt state.ft).2 ∧
    (computeForwardingTable state.mainAddress [0x0a010202#32, 0x0a010203#32] state.dvt
      (computeForwardingTable state.mainAddress [0x0a010202#32,
        0x0a010203#32] state.dvt state.ft).1).2 = [] := by
  -- 10.1.2.2 and 10.1.2.3 have told of 10.1.2.9 before they were heard
  obtain ⟨state, reach, checked⟩ := exists_reach_of_follow Node.next
    (fun _ _ => True) Node.twoInterfaces
    [.interfaceUp 1, Node.update1 ⟨0x0a010202#32, 0x0a010209#32, 1, 1⟩,
      Node.update1 ⟨0x0a010203#32, 0x0a010209#32, 4, 1⟩]
    (fun state => decide (0x0a010209#32 ∈
      (computeForwardingTable state.mainAddress [0x0a010202#32,
        0x0a010203#32] state.dvt state.ft).2)) (by decide +kernel)
  have owned := (Node.reach_named (Node.initial_named _ _ _ _ _) reach).rowsOwned
  exact ⟨state, reach, of_decide_eq_true checked, (computeForwardingTable_again _ _ _ _ owned).2⟩

end Bsdvr
