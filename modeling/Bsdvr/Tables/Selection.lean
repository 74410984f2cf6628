import Bsdvr.Runs.Sockets
import Bsdvr.Tables.Worst

namespace Bsdvr
open Foundation

variable {mainAddress : Ipv4Address} {neighbors : List Ipv4Address} {dvt : DistanceVectorTable}
  {ft : EntryMap} {dst : Ipv4Address} {old entry kept : RoutingTableEntry}

/-! ## Whether the best route is selected -/

def SelectsBest (mainAddress : Ipv4Address) (neighbors : List Ipv4Address)
    (dvt : DistanceVectorTable) (ft : EntryMap) : Prop :=
  ∀ dst, (∃ neighbor ∈ neighbors, (dvt.entry neighbor dst).isSome) →
    ∃ entry, (computeForwardingTable mainAddress neighbors dvt ft).1[dst]? = some entry ∧
      ∀ neighbor ∈ neighbors, ∀ route, dvt.entry neighbor dst = some route → ¬Preferred route entry

def firstFallen (routes : List RoutingTableEntry) (kept : RoutingTableEntry) : RoutingTableEntry :=
  (routes.find? fun route => Preferred kept route).getD kept

/-- The routes of the neighbours are tied with the first of them that falls behind the route met
first. -/
def Tied (neighbors : List Ipv4Address) (dvt : DistanceVectorTable) (ft : EntryMap)
    (dst : Ipv4Address) : Prop :=
  ∀ kept ∈ (participants neighbors dvt ft dst).head?, ∀ route ∈ candidates neighbors dvt dst,
    ¬Preferred route (firstFallen (candidates neighbors dvt dst) kept) ∧
    ¬Preferred (firstFallen (candidates neighbors dvt dst) kept) route

instance : Decidable (Tied neighbors dvt ft dst) :=
  inferInstanceAs (Decidable (∀ kept ∈ (participants neighbors dvt ft dst).head?, ∀ route ∈
    candidates neighbors dvt dst, _))

theorem computed_of_head? (owned : RowsOwned dvt) (nonempty : candidates neighbors dvt dst ≠ [])
    (head : (participants neighbors dvt ft dst).head? = some kept) :
    (computeForwardingTable mainAddress neighbors dvt ft).1[dst]? =
      some ((candidates neighbors dvt dst).foldl (contest isBetterRoute) kept) := by
  rw [computeForwardingTable_get]
  unfold participants at head
  cases known : ft[dst]? with
  | none =>
      obtain ⟨first, rest, routes⟩ := List.exists_cons_of_ne_nil nonempty
      have stays : contest isBetterRoute first first = first := by
        simp [contest, isBetterRoute_irrefl]
      rw [known, routes] at head
      obtain rfl : first = kept := by simpa using head
      rw [select_none owned routes, routes, List.foldl_cons, stays]
  | some old =>
      rw [known] at head
      obtain rfl : refreshEntry dvt dst old = kept := by simpa using head
      exact select_some owned old nonempty

theorem exists_head? (nonempty : candidates neighbors dvt dst ≠ []) :
    ∃ kept, (participants neighbors dvt ft dst).head? = some kept := by
  obtain ⟨first, rest, routes⟩ := List.exists_cons_of_ne_nil nonempty
  unfold participants
  cases ft[dst]? with
  | none => exact ⟨first, by simp [routes]⟩
  | some old => exact ⟨_, rfl⟩

theorem candidates_ne_nil :
    candidates neighbors dvt dst ≠ [] ↔ ∃ neighbor ∈ neighbors,
    (dvt.entry neighbor dst).isSome := by
  constructor
  · intro nonempty
    obtain ⟨route, member⟩ := List.exists_mem_of_ne_nil _ nonempty
    obtain ⟨neighbor, listed, found⟩ := mem_candidates.mp member
    exact ⟨neighbor, listed, Option.isSome_of_mem found⟩
  · rintro ⟨neighbor, listed, present⟩
    obtain ⟨route, found⟩ := Option.isSome_iff_exists.mp present
    exact List.ne_nil_of_mem (mem_candidates.mpr ⟨neighbor, listed, found⟩)

theorem firstFallen_eq (routes : List RoutingTableEntry) (kept : RoutingTableEntry) :
    (routes.find? (isBetterRoute · kept)).getD kept = firstFallen routes kept := by
  have same : (isBetterRoute · kept) = fun route => decide (Preferred kept route) := by
    funext route
    rw [Bool.eq_iff_iff, decide_eq_true_eq]
    exact isBetterRoute_iff
  rw [firstFallen, same]

/-- The best routes are selected only where all that compete are tied. -/
theorem selectsBest_iff_tied (mainAddress : Ipv4Address) (neighbors : List Ipv4Address)
    (dvt : DistanceVectorTable) (ft : EntryMap) (owned : RowsOwned dvt) :
    SelectsBest mainAddress neighbors dvt ft ↔ ∀ dst, Tied neighbors dvt ft dst := by
  refine forall_congr' fun dst => ?_
  rw [← candidates_ne_nil]
  by_cases empty : candidates neighbors dvt dst = []
  · simp [Tied, empty]
  obtain ⟨kept, head⟩ := @exists_head? neighbors dvt ft dst empty
  have computed := @computed_of_head? mainAddress neighbors dvt ft dst kept owned empty head
  have tied := foldl_contest_tied_iff isBetterRoute_irrefl isBetterRoute_trans kept
    (candidates neighbors dvt dst)
  simp only [firstFallen_eq, isBetterRoute_eq_false] at tied
  have best : (∀ route ∈ candidates neighbors dvt dst,
      ¬Preferred route ((candidates neighbors dvt dst).foldl (contest isBetterRoute) kept)) ↔
      Tied neighbors dvt ft dst := by
    unfold Tied
    rw [head]
    constructor
    · intro settled kept' same route member
      obtain rfl := Option.some.inj same
      exact (tied.mp settled route member).symm
    · intro settled
      exact tied.mpr fun route member => (settled kept rfl route member).symm
  rw [← best]
  constructor
  · intro selects route member
    obtain ⟨entry, present, settled⟩ := selects empty
    rw [computed, Option.some.injEq] at present
    obtain ⟨neighbor, listed, found⟩ := mem_candidates.mp member
    exact present ▸ settled neighbor listed route found
  · intro settled _
    exact ⟨_, computed, fun neighbor listed route found =>
      settled route (mem_candidates.mpr ⟨neighbor, listed, found⟩)⟩

def offered (neighbors : List Ipv4Address) (dvt : DistanceVectorTable) : List Ipv4Address :=
  neighbors.flatMap fun neighbor => ((dvt[neighbor]?).getD ∅).keys

theorem mem_offered (nonempty : candidates neighbors dvt dst ≠ []) :
    dst ∈ offered neighbors dvt := by
  obtain ⟨neighbor, listed, present⟩ := candidates_ne_nil.mp nonempty
  refine List.mem_flatMap.mpr ⟨neighbor, listed, ?_⟩
  unfold DistanceVectorTable.entry at present
  cases row : dvt[neighbor]? with
  | none => simp [row] at present
  | some row' =>
      rw [row, Option.bind_some] at present
      rw [Option.getD_some, Std.TreeMap.mem_keys, Std.TreeMap.mem_iff_isSome_getElem?]
      exact present

theorem selectsBest_iff_tied_twoInterfaces :
    ∃ state, Reach Node.next (fun _ _ => True) Node.twoInterfaces state ∧
    0x0a010209#32 ∈ offered state.neighbors state.dvt ∧
    SelectsBest state.mainAddress state.neighbors state.dvt state.ft := by
  -- 10.1.2.2 tells of 10.1.2.9 and is heard
  obtain ⟨state, reach, checked⟩ := exists_reach_of_follow Node.next
    (fun _ _ => True) Node.twoInterfaces
    [.interfaceUp 1, Node.update1 ⟨0x0a010202#32, 0x0a010209#32, 1, 1⟩, Node.hello1 0x0a010202#32]
    (fun state => decide (0x0a010209#32 ∈ offered state.neighbors state.dvt) &&
      (offered state.neighbors state.dvt).all fun dst =>
      decide (Tied state.neighbors state.dvt state.ft dst))
    (by decide +kernel)
  simp only [Bool.and_eq_true, List.all_eq_true, decide_eq_true_eq] at checked
  have owned := (Node.reach_named (Node.initial_named _ _ _ _ _) reach).rowsOwned
  refine ⟨state, reach, checked.1, (selectsBest_iff_tied _ _ _ _ owned).mpr fun dst => ?_⟩
  by_cases empty : candidates state.neighbors state.dvt dst = []
  · simp [Tied, empty]
  · exact checked.2 dst (mem_offered empty)

theorem not_selectsBest_twoInterfaces :
    ∃ state, Reach Node.next (fun _ _ => True) Node.twoInterfaces state ∧
    ¬SelectsBest state.mainAddress state.neighbors state.dvt state.ft := by
  -- 10.1.2.9 is two hops away through 10.1.2.2 and five through 10.1.2.3
  obtain ⟨state, reach, checked⟩ := exists_reach_of_follow Node.next
    (fun _ _ => True) Node.twoInterfaces
    [.interfaceUp 1, Node.update1 ⟨0x0a010202#32, 0x0a010209#32, 1, 1⟩,
      Node.update1 ⟨0x0a010203#32, 0x0a010209#32, 4, 1⟩, Node.hello1 0x0a010202#32,
      Node.hello1 0x0a010203#32]
    (fun state => decide (0x0a010202#32 ∈ state.neighbors) &&
      (state.dvt.entry 0x0a010202#32 0x0a010209#32).any fun route =>
      ((computeForwardingTable state.mainAddress state.neighbors state.dvt
        state.ft).1[0x0a010209#32]?).any fun entry =>
        decide (Preferred route entry)) (by decide +kernel)
  simp only [Bool.and_eq_true, Option.any_eq_true, decide_eq_true_eq] at checked
  obtain ⟨listed, route, found, entry, computed, better⟩ := checked
  refine ⟨state, reach, fun selects => ?_⟩
  obtain ⟨left, present, settled⟩ := selects 0x0a010209#32 ⟨_, listed, Option.isSome_of_mem found⟩
  cases computed.symm.trans present
  exact settled _ listed route found better

/-! ## Whether the changes are reported -/

def ChangedIn (ft after : EntryMap) (dst : Ipv4Address) : Prop :=
  (ft[dst]? = none ∧ (after[dst]?).isSome) ∨
    ∃ old entry, ft[dst]? = some old ∧ after[dst]? = some entry ∧ ¬SameMetric entry old

/-- The list of changes names each changed destination once, but for the node's own address, and no
other. -/
def ReportsChanges (mainAddress : Ipv4Address) (neighbors : List Ipv4Address)
    (dvt : DistanceVectorTable) (ft : EntryMap) : Prop :=
  (computeForwardingTable mainAddress neighbors dvt ft).2.Nodup ∧
  ∀ dst, dst ∈ (computeForwardingTable mainAddress neighbors dvt ft).2 ↔
    dst ≠ mainAddress ∧ ChangedIn ft (computeForwardingTable mainAddress neighbors dvt ft).1 dst

/-- A new destination gets the first route there is; a known one keeps its metric, which is the
worst. -/
def Unsurprising (neighbors : List Ipv4Address) (dvt : DistanceVectorTable) (ft : EntryMap)
    (dst : Ipv4Address) : Prop :=
  (ft[dst]? = none → ∀ first ∈ (candidates neighbors dvt dst).head?, ∀ route ∈
    candidates neighbors dvt dst, ¬Preferred first route) ∧
  ∀ old ∈ ft[dst]?, WorstMetric (participants neighbors dvt ft dst) old ∧
    ∃ route ∈ participants neighbors dvt ft dst, SameMetric old route

instance : Decidable (Unsurprising neighbors dvt ft dst) :=
  inferInstanceAs (Decidable ((_ → ∀ first ∈ (candidates neighbors dvt dst).head?, ∀ route ∈
    candidates neighbors dvt dst, _) ∧
    ∀ old ∈ ft[dst]?, _ ∧ ∃ route ∈ participants neighbors dvt ft dst, _))

theorem WorstMetric.congr {routes : List RoutingTableEntry} {x y : RoutingTableEntry}
    (holds : WorstMetric routes x) (same : SameMetric x y) : WorstMetric routes y where
  preferredToNone other member :=
  fun better => holds.preferredToNone other member ((same.preferred_iff other).mpr better)
  decided other found := by
    have decided := holds.decided other found
    rwa [same.1, same.2] at decided

theorem Worst.sameMetric_iff {routes : List RoutingTableEntry} {worst : RoutingTableEntry}
    (holds : Worst routes worst) (old : RoutingTableEntry) :
    SameMetric worst old ↔ WorstMetric routes old ∧ ∃ route ∈ routes, SameMetric old route := by
  constructor
  · intro same
    exact ⟨holds.toWorstMetric.congr same, worst, holds.mem, same.symm⟩
  · rintro ⟨metric, listed⟩
    exact holds.toWorstMetric.sameMetric metric ⟨worst, holds.mem, rfl, rfl⟩ listed

theorem foldl_tally_once {routes : List RoutingTableEntry}
    (fixed : refreshEntry dvt dst kept = kept)
    (allFixed : ∀ route ∈ routes, refreshEntry dvt dst route = route) {times : Nat}
    (named : times ≠ 0) :
    (routes.foldl (tally dvt dst) (some kept, times)).2 = times ↔
    ∀ route ∈ routes, ¬Preferred kept route := by
  induction routes with
  | nil => simp
  | cons route rest ih =>
      have touched : touches dvt dst kept route = isBetterRoute route kept := by
        simp [touches, fixed]
      by_cases falls : Preferred kept route
      · have next : (tally dvt dst (some kept, times) route).2 = times + 1 := by
          simp [tally, touched, isBetterRoute_iff, falls, named]
        have more := foldl_tally_named dvt dst (tally dvt dst (some kept, times) route) rest
        rw [next] at more
        refine iff_of_false (fun same => ?_) fun stays => stays route List.mem_cons_self falls
        rw [List.foldl_cons] at same
        omega
      · have next : tally dvt dst (some kept, times) route = (some kept, times) := by
          simp [tally, adopt, contest, touched, fixed, isBetterRoute_iff, falls]
        rw [List.foldl_cons, next, ih fun other member =>
          allFixed other (List.mem_cons_of_mem _ member)]
        simp [falls]

theorem count_new (owned : RowsOwned dvt) (new : ft[dst]? = none) (remote : dst ≠ mainAddress) :
    (computeForwardingTable mainAddress neighbors dvt ft).2.count dst ≤ 1 ↔
      ∀ first ∈ (candidates neighbors dvt dst).head?, ∀ route ∈ candidates neighbors dvt dst,
      ¬Preferred first route := by
  have fixed := candidates_fixed owned dst neighbors
  rw [count_changes, if_neg remote, new]
  cases routes : candidates neighbors dvt dst with
  | nil => simp
  | cons first rest =>
      rw [routes] at fixed
      have start : tally dvt dst (none, 0) first = (some first, 1) := rfl
      have named := foldl_tally_named dvt dst (some first, 1) rest
      have once := foldl_tally_once (fixed first List.mem_cons_self)
        (fun route member => fixed route (List.mem_cons_of_mem _ member)) Nat.one_ne_zero
      rw [List.foldl_cons, start, named.ge_iff_eq', once]
      simp [not_preferred_self]

theorem changedIn_known (owned : RowsOwned dvt) (known : ft[dst]? = some old)
    (nonempty : candidates neighbors dvt dst ≠ []) :
    ¬ChangedIn ft (computeForwardingTable mainAddress neighbors dvt ft).1 dst ↔
      WorstMetric (participants neighbors dvt ft dst) old ∧
        ∃ route ∈ participants neighbors dvt ft dst, SameMetric old route := by
  obtain ⟨left, computed⟩ := Option.isSome_iff_exists.mp
    ((@recomputed_isSome dvt dst mainAddress neighbors ft).mpr (.inr nonempty))
  rw [← ((recomputed_eq_some_iff_worst owned nonempty).mp computed).sameMetric_iff old]
  simp [ChangedIn, known, computed]

/-- The list of changes is exact only where every change there is makes a new entry, at once. -/
theorem reportsChanges_iff_unsurprising (mainAddress : Ipv4Address) (neighbors : List Ipv4Address)
    (dvt : DistanceVectorTable) (ft : EntryMap) (owned : RowsOwned dvt) :
    ReportsChanges mainAddress neighbors dvt ft ↔
      ∀ dst, dst ≠ mainAddress → candidates neighbors dvt dst ≠ [] →
      Unsurprising neighbors dvt ft dst := by
  constructor
  · rintro ⟨distinct, exactly⟩ dst remote nonempty
    refine ⟨fun new => (count_new owned new remote).mp
      (List.nodup_iff_count_le_one.mp distinct dst), fun old known => ?_⟩
    refine (@changedIn_known mainAddress neighbors dvt ft dst old owned known nonempty).mp
      fun changed => ?_
    obtain ⟨_, new, _⟩ := mem_changes.mp ((exactly dst).mpr ⟨remote, changed⟩)
    cases known.symm.trans new
  · intro unsurprising
    constructor
    · refine List.nodup_iff_count_le_one.mpr fun dst => ?_
      by_cases own : dst = mainAddress
      · rw [count_changes, if_pos own]
        exact Nat.zero_le 1
      · cases known : ft[dst]? with
        | none =>
            refine (count_new owned known own).mpr fun first head => ?_
            have nonempty : candidates neighbors dvt dst ≠ [] :=
              List.ne_nil_of_mem (List.mem_of_mem_head? head)
            exact (unsurprising dst own nonempty).1 known first head
        | some old =>
            obtain ⟨entry, folded⟩ := foldl_tally_known dvt dst old (candidates neighbors dvt dst)
            rw [count_changes, if_neg own, known, folded]
            exact Nat.zero_le 1
    · intro dst
      rw [mem_changes]
      refine and_congr_right fun remote => ⟨.inl, fun changed => ?_⟩
      rcases changed with new | ⟨old, entry, known, computed, other⟩
      · exact new
      · by_cases empty : candidates neighbors dvt dst = []
        · rw [computeForwardingTable_get, empty, known] at computed
          cases computed
          exact absurd ⟨rfl, rfl⟩ other
        · have same := (@changedIn_known mainAddress neighbors dvt ft dst old owned known empty).mpr
            ((unsurprising dst remote empty).2 old known)
          exact absurd (.inr ⟨old, entry, known, computed, other⟩) same

theorem reportsChanges_iff_unsurprising_twoInterfaces : ∃ state,
    Reach Node.next (fun _ _ => True) Node.twoInterfaces state ∧ 0x0a010209#32 ∈ offered
      [0x0a010203#32] state.dvt ∧
    ReportsChanges state.mainAddress [0x0a010203#32] state.dvt state.ft := by
  -- 10.1.2.3 has told of 10.1.2.9 and is heard next
  obtain ⟨state, reach, checked⟩ := exists_reach_of_follow Node.next
    (fun _ _ => True) Node.twoInterfaces
    [.interfaceUp 1, Node.update1 ⟨0x0a010203#32, 0x0a010209#32, 4, 1⟩]
    (fun state => decide (0x0a010209#32 ∈ offered [0x0a010203#32] state.dvt) &&
      (offered [0x0a010203#32] state.dvt).all fun dst =>
      decide (Unsurprising [0x0a010203#32] state.dvt state.ft dst))
    (by decide +kernel)
  simp only [Bool.and_eq_true, List.all_eq_true, decide_eq_true_eq] at checked
  have owned := (Node.reach_named (Node.initial_named _ _ _ _ _) reach).rowsOwned
  exact ⟨state, reach, checked.1, (reportsChanges_iff_unsurprising _ _ _ _ owned).mpr
    fun dst _ nonempty => checked.2 dst (mem_offered nonempty)⟩

theorem not_reportsChanges_twoInterfaces :
    ∃ state, Reach Node.next (fun _ _ => True) Node.twoInterfaces state ∧
    ¬ReportsChanges state.mainAddress [0x0a010202#32, 0x0a010203#32] state.dvt state.ft := by
  -- 10.1.2.9 is two hops away through the neighbour 10.1.2.2, and five through 10.1.2.3, which is
  -- heard next
  obtain ⟨state, reach, checked⟩ := exists_reach_of_follow Node.next
    (fun _ _ => True) Node.twoInterfaces
    [.interfaceUp 1, Node.update1 ⟨0x0a010202#32, 0x0a010209#32, 1, 1⟩,
      Node.update1 ⟨0x0a010203#32, 0x0a010209#32, 4, 1⟩, Node.hello1 0x0a010202#32]
    (fun state => decide (0x0a010209#32 ≠ state.mainAddress) && (state.ft[0x0a010209#32]?).any
      fun old =>
      ((computeForwardingTable state.mainAddress [0x0a010202#32,
        0x0a010203#32] state.dvt state.ft).1[0x0a010209#32]?).any
        fun entry => decide (¬SameMetric entry old)) (by decide +kernel)
  simp only [Bool.and_eq_true, Option.any_eq_true, decide_eq_true_eq] at checked
  obtain ⟨remote, old, known, entry, computed, other⟩ := checked
  refine ⟨state, reach, fun reports => ?_⟩
  obtain ⟨_, new, _⟩ := mem_changes.mp ((reports.2 _).mpr ⟨remote,
    .inr ⟨old, entry, known, computed, other⟩⟩)
  cases known.symm.trans new

end Bsdvr
