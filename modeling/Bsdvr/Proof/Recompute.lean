import Bsdvr.Foundation.Contest
import Bsdvr.Foundation.Map
import Bsdvr.Model.ControlPlane

namespace Bsdvr
open Foundation

/-! ## The preference between routes -/

theorem isBetterRoute_irrefl (route : RoutingTableEntry) : isBetterRoute route route = false := by
  cases h : route.state <;> simp [isBetterRoute, h]

theorem isBetterRoute_trans (a b c : RoutingTableEntry) (first : isBetterRoute b a = true)
    (second : isBetterRoute c b = true) : isBetterRoute c a = true := by
  cases ha : a.state <;> cases hb : b.state <;> cases hc : c.state <;>
    simp [isBetterRoute, ha, hb, hc] at first second ⊢ <;>
    bv_omega

/-! ## One destination at a time -/

/-- What `RefreshForwardingTable` leaves under `dst` where it finds `entry` there. -/
def refreshEntry (dvt : DistanceVectorTable) (dst : Ipv4Address)
    (entry : RoutingTableEntry) : RoutingTableEntry :=
  match dvt[entry.nextHop]? with
  | some row => row[dst]?.getD entry
  | none => entry.setRouteState .inactive

/-- What the body of the inner loop leaves under the destination of `route`. -/
def adopt (dvt : DistanceVectorTable) (dst : Ipv4Address) (kept : Option RoutingTableEntry)
    (route : RoutingTableEntry) : RoutingTableEntry :=
  match kept with
  | none => route
  | some old => contest isBetterRoute (refreshEntry dvt dst old) route

def candidates (neighbors : List Ipv4Address) (dvt : DistanceVectorTable) (dst : Ipv4Address) :
    List RoutingTableEntry :=
  neighbors.filterMap fun neighbor => dvt.entry neighbor dst

theorem mem_candidates {neighbors : List Ipv4Address} {dvt : DistanceVectorTable}
    {dst : Ipv4Address} {route : RoutingTableEntry} :
    route ∈ candidates neighbors dvt dst ↔
      ∃ neighbor ∈ neighbors, dvt.entry neighbor dst = some route := by
  simp [candidates]

theorem refreshForwardingTable_get (dvt : DistanceVectorTable) (ft : EntryMap)
    (dst other : Ipv4Address) (entry : RoutingTableEntry) (present : ft[dst]? = some entry) :
    (refreshForwardingTable dvt ft dst entry.nextHop)[other]? =
      if other = dst then some (refreshEntry dvt dst entry) else ft[other]? := by
  unfold refreshForwardingTable refreshEntry
  cases dvt[entry.nextHop]? with
  | none => simp [present, getElem?_insert]
  | some row =>
      cases found : row[dst]? with
      | none => by_cases same : other = dst <;> simp [found, same, present]
      | some route => simp [found, getElem?_insert]

theorem computeEntry_get (dvt : DistanceVectorTable) (tables : EntryMap × List Ipv4Address)
    (dst other : Ipv4Address) (route : RoutingTableEntry) :
    (computeEntry dvt tables dst route).1[other]? =
      if other = dst then some (adopt dvt dst tables.1[dst]? route) else tables.1[other]? := by
  obtain ⟨ft, changes⟩ := tables
  cases present : ft[dst]? with
  | none => simp [computeEntry, present, adopt, getElem?_insert]
  | some old =>
      have refreshed := (refreshForwardingTable_get dvt ft dst · old present)
      simp only [computeEntry, present, refreshed, ↓reduceIte, Option.getD_some, adopt, contest]
      split
      · by_cases same : other = dst <;> simp [getElem?_insert, refreshed, same]
      · split <;> simp [refreshed]

def select (dvt : DistanceVectorTable) (dst : Ipv4Address) (kept : Option RoutingTableEntry)
    (routes : List RoutingTableEntry) : Option RoutingTableEntry :=
  routes.foldl (fun kept route => some (adopt dvt dst kept route)) kept

def touches (dvt : DistanceVectorTable) (dst : Ipv4Address)
    (old route : RoutingTableEntry) : Bool :=
  isBetterRoute route (refreshEntry dvt dst old) || (refreshEntry dvt dst old).hops ≠ old.hops ||
    (refreshEntry dvt dst old).state ≠ old.state

def tally (dvt : DistanceVectorTable) (dst : Ipv4Address) (kept : Option RoutingTableEntry × Nat)
    (route : RoutingTableEntry) : Option RoutingTableEntry × Nat :=
  (some (adopt dvt dst kept.1 route),
    match kept.1 with
    | none => kept.2 + 1
    | some old => if touches dvt dst old route ∧ kept.2 ≠ 0 then kept.2 + 1 else kept.2)

def tallied (dst : Ipv4Address) (tables : EntryMap × List Ipv4Address) :
    Option RoutingTableEntry × Nat :=
  (tables.1[dst]?, tables.2.count dst)

theorem count_append_other {dst key : Ipv4Address} (apart : dst ≠ key)
    (changes : List Ipv4Address) :
    (changes ++ [key]).count dst = changes.count dst := by
  have none : ([key] : List Ipv4Address).count dst = 0 :=
    List.count_eq_zero.mpr (by simpa using apart)
  rw [List.count_append, none, Nat.add_zero]

theorem computeEntry_changes (dvt : DistanceVectorTable) (tables : EntryMap × List Ipv4Address)
    (key : Ipv4Address) (route : RoutingTableEntry) :
    (computeEntry dvt tables key route).2 = tables.2 ∨
      (computeEntry dvt tables key route).2 = tables.2 ++ [key] := by
  have again : (if key ∈ tables.2 then tables.2 ++ [key] else tables.2) = tables.2 ∨
      (if key ∈ tables.2 then tables.2 ++ [key] else tables.2) = tables.2 ++ [key] := by
    split
    · exact .inr rfl
    · exact .inl rfl
  obtain ⟨ft, changes⟩ := tables
  simp only [computeEntry]
  split
  · split
    · exact again
    · split
      · exact again
      · exact .inl rfl
  · exact .inr rfl

theorem tallied_computeEntry (dvt : DistanceVectorTable) (tables : EntryMap × List Ipv4Address)
    (dst : Ipv4Address) (route : RoutingTableEntry) :
    tallied dst (computeEntry dvt tables dst route) = tally dvt dst (tallied dst tables) route := by
  have table := computeEntry_get dvt tables dst dst route
  rw [if_pos rfl] at table
  apply Prod.ext table
  obtain ⟨ft, changes⟩ := tables
  have again : (if dst ∈ changes then changes ++ [dst] else changes).count dst =
      if changes.count dst ≠ 0 then changes.count dst + 1 else changes.count dst := by
    by_cases known : dst ∈ changes
    · simp [known, List.count_eq_zero]
    · simp [known, List.count_eq_zero.mpr known]
  cases present : ft[dst]? with
  | none => simp [tallied, computeEntry, present, tally]
  | some old =>
      have refreshed := refreshForwardingTable_get dvt ft dst dst old present
      simp only [tallied, computeEntry, present, refreshed, ↓reduceIte, Option.getD_some,
        tally, touches]
      by_cases better : isBetterRoute route (refreshEntry dvt dst old)
      · simp [better, again]
      · by_cases differs : (refreshEntry dvt dst old).hops ≠ old.hops ∨
          (refreshEntry dvt dst old).state ≠ old.state
        · simp [better, differs, again]
        · simp [better, differs]

theorem tallied_computeEntry_other (dvt : DistanceVectorTable)
    (tables : EntryMap × List Ipv4Address) {dst key : Ipv4Address} (apart : dst ≠ key)
    (route : RoutingTableEntry) :
    tallied dst (computeEntry dvt tables key route) = tallied dst tables := by
  have table := computeEntry_get dvt tables key dst route
  rw [if_neg apart] at table
  apply Prod.ext table
  show (computeEntry dvt tables key route).2.count dst = tables.2.count dst
  rcases computeEntry_changes dvt tables key route with same | named
  · rw [same]
  · rw [named, count_append_other apart]

theorem tallied_computeRow (dvt : DistanceVectorTable) (tables : EntryMap × List Ipv4Address)
    (neighbor dst : Ipv4Address) : tallied dst (computeRow dvt tables neighbor) =
      (dvt.entry neighbor dst).elim (tallied dst tables) (tally dvt dst (tallied dst tables)) := by
  unfold computeRow DistanceVectorTable.entry
  cases dvt[neighbor]? with
  | none => rfl
  | some row =>
      simp only [Std.TreeMap.foldl_eq_foldl_toList, Option.bind_some]
      refine foldl_toList_view row (fun tables route => ?_)
        (fun tables other route apart => ?_) tables
      · exact tallied_computeEntry dvt tables dst route
      · exact tallied_computeEntry_other dvt tables apart.symm route

theorem tallied_foldl_computeRow (dvt : DistanceVectorTable) (dst : Ipv4Address)
    (neighbors : List Ipv4Address) (tables : EntryMap × List Ipv4Address) :
    tallied dst (neighbors.foldl (computeRow dvt) tables) =
      (candidates neighbors dvt dst).foldl (tally dvt dst) (tallied dst tables) := by
  induction neighbors generalizing tables with
  | nil => rfl
  | cons neighbor rest ih =>
      rw [List.foldl_cons, ih, tallied_computeRow]
      cases found : dvt.entry neighbor dst <;> simp [candidates, found]

theorem foldl_tally_fst (dvt : DistanceVectorTable) (dst : Ipv4Address)
    (kept : Option RoutingTableEntry × Nat) (routes : List RoutingTableEntry) :
    (routes.foldl (tally dvt dst) kept).1 = select dvt dst kept.1 routes := by
  induction routes generalizing kept with
  | nil => rfl
  | cons route rest ih => exact ih _

/-- The recomputation treats each destination on its own. -/
theorem computeForwardingTable_get (mainAddress : Ipv4Address) (neighbors : List Ipv4Address)
    (dvt : DistanceVectorTable) (ft : EntryMap) (dst : Ipv4Address) :
    (computeForwardingTable mainAddress neighbors dvt ft).1[dst]? =
      select dvt dst ft[dst]? (candidates neighbors dvt dst) := by
  have folded := congrArg Prod.fst (tallied_foldl_computeRow dvt dst neighbors (ft, []))
  rwa [foldl_tally_fst] at folded

/-! ## The list of changes -/

theorem count_changes (mainAddress : Ipv4Address) (neighbors : List Ipv4Address)
    (dvt : DistanceVectorTable) (ft : EntryMap) (dst : Ipv4Address) :
    (computeForwardingTable mainAddress neighbors dvt ft).2.count dst =
      if dst = mainAddress then 0 else ((candidates neighbors dvt dst).foldl (tally dvt dst)
        (ft[dst]?, 0)).2 := by
  have folded := congrArg Prod.snd (tallied_foldl_computeRow dvt dst neighbors (ft, []))
  have start : tallied dst (ft, []) = (ft[dst]?, 0) := rfl
  rw [start] at folded
  rw [← folded]
  show List.count dst (List.filter _ _) = _
  split
  · rename_i own
    rw [List.count_eq_zero, List.mem_filter, decide_eq_true_eq]
    exact fun member => member.2 own
  · rename_i remote
    have passes : decide (dst ≠ mainAddress) = true := decide_eq_true remote
    exact List.count_filter passes

theorem foldl_tally_known (dvt : DistanceVectorTable) (dst : Ipv4Address) (old : RoutingTableEntry)
    (routes : List RoutingTableEntry) :
    ∃ entry, routes.foldl (tally dvt dst) (some old, 0) = (some entry, 0) := by
  induction routes generalizing old with
  | nil => exact ⟨old, rfl⟩
  | cons route rest ih =>
      have next : tally dvt dst (some old, 0) route = (some (adopt dvt dst (some old) route),
          0) := by simp [tally]
      rw [List.foldl_cons, next]
      exact ih _

theorem foldl_tally_named (dvt : DistanceVectorTable) (dst : Ipv4Address)
    (kept : Option RoutingTableEntry × Nat) (routes : List RoutingTableEntry) :
    kept.2 ≤ (routes.foldl (tally dvt dst) kept).2 := by
  induction routes generalizing kept with
  | nil => exact le_rfl
  | cons route rest ih =>
      refine le_trans ?_ (ih _)
      unfold tally
      split
      · exact Nat.le_succ _
      · split
        · exact Nat.le_succ _
        · exact le_rfl

theorem select_isSome {dvt : DistanceVectorTable} {dst : Ipv4Address}
    {kept : Option RoutingTableEntry} {routes : List RoutingTableEntry} :
    (select dvt dst kept routes).isSome ↔ kept.isSome ∨ routes ≠ [] := by
  induction routes generalizing kept with
  | nil => simp [select]
  | cons route rest ih => exact ih.trans (by simp)

theorem mem_changes {mainAddress : Ipv4Address} {neighbors : List Ipv4Address}
    {dvt : DistanceVectorTable} {ft : EntryMap} {dst : Ipv4Address} :
    dst ∈ (computeForwardingTable mainAddress neighbors dvt ft).2 ↔ dst ≠ mainAddress ∧
    ft[dst]? = none ∧
      ((computeForwardingTable mainAddress neighbors dvt ft).1[dst]?).isSome := by
  rw [← List.count_pos_iff, count_changes, computeForwardingTable_get, select_isSome]
  by_cases own : dst = mainAddress
  · simp [own]
  · rw [if_neg own]
    cases known : ft[dst]? with
    | some old =>
        obtain ⟨entry, folded⟩ := foldl_tally_known dvt dst old (candidates neighbors dvt dst)
        simp [folded]
    | none =>
        cases routes : candidates neighbors dvt dst with
        | nil => simp
        | cons route rest =>
            have named := foldl_tally_named dvt dst (tally dvt dst (none, 0) route) rest
            have first : (tally dvt dst (none, 0) route).2 = 1 := rfl
            rw [first] at named
            simpa [own] using Nat.lt_of_succ_le named

theorem computeForwardingTable_grows (mainAddress : Ipv4Address) (neighbors : List Ipv4Address)
    (dvt : DistanceVectorTable) (ft : EntryMap) {dst : Ipv4Address} (present : (ft[dst]?).isSome) :
    ((computeForwardingTable mainAddress neighbors dvt ft).1[dst]?).isSome := by
  rw [computeForwardingTable_get, select_isSome]
  exact .inl present

/-! ## The route that is left -/

/-- Row `n` of the distance vector table routes through `n`. -/
def RowsOwned (dvt : DistanceVectorTable) : Prop :=
  ∀ neighbor dst route, dvt.entry neighbor dst = some route → route.nextHop = neighbor

variable {dvt : DistanceVectorTable} {dst : Ipv4Address}

theorem refreshEntry_eq (dvt : DistanceVectorTable) (dst : Ipv4Address)
    (entry : RoutingTableEntry) :
    dvt.entry entry.nextHop dst = some (refreshEntry dvt dst entry) ∨
    refreshEntry dvt dst entry = entry ∨
      (dvt[entry.nextHop]? = none ∧ refreshEntry dvt dst entry =
        entry.setRouteState .inactive) := by
  unfold refreshEntry DistanceVectorTable.entry
  cases dvt[entry.nextHop]? with
  | none => exact .inr (.inr ⟨rfl, rfl⟩)
  | some row =>
      cases found : row[dst]? with
      | none => exact .inr (.inl (by simp [found]))
      | some route => exact .inl (by simp [found])

theorem refreshEntry_of_entry {entry route : RoutingTableEntry}
    (found : dvt.entry entry.nextHop dst = some route) : refreshEntry dvt dst entry = route := by
  obtain ⟨row, hrow, hroute⟩ := Option.bind_eq_some_iff.mp found
  simp [refreshEntry, hrow, hroute]

theorem refreshEntry_nextHop (owned : RowsOwned dvt) (entry : RoutingTableEntry) :
    (refreshEntry dvt dst entry).nextHop = entry.nextHop := by
  rcases refreshEntry_eq dvt dst entry with found | same | ⟨_, retired⟩
  · exact owned _ _ _ found
  · rw [same]
  · rw [retired, RoutingTableEntry.setRouteState_nextHop]

theorem refreshEntry_candidate (owned : RowsOwned dvt) {neighbor : Ipv4Address}
    {route : RoutingTableEntry} (found : dvt.entry neighbor dst = some route) :
    refreshEntry dvt dst route = route := by
  apply refreshEntry_of_entry
  rw [owned _ _ _ found]
  exact found

theorem refreshEntry_idem (owned : RowsOwned dvt) (dst : Ipv4Address) (entry : RoutingTableEntry) :
    refreshEntry dvt dst (refreshEntry dvt dst entry) = refreshEntry dvt dst entry := by
  rcases refreshEntry_eq dvt dst entry with found | same | ⟨absent, retired⟩
  · exact refreshEntry_candidate owned found
  · rw [same, same]
  · rw [retired, refreshEntry, RoutingTableEntry.setRouteState_nextHop, absent]
    rfl

/-- Refreshing is the identity on every route of the list and on the route met first, so the fold is
a contest. -/
private theorem select_some_of_fixed {kept : RoutingTableEntry} {routes : List RoutingTableEntry}
    (fixed : refreshEntry dvt dst kept = kept)
    (allFixed : ∀ route ∈ routes, refreshEntry dvt dst route = route) :
    select dvt dst (some kept) routes = some (routes.foldl (contest isBetterRoute) kept) := by
  induction routes generalizing kept with
  | nil => rfl
  | cons route rest ih =>
      have next : adopt dvt dst (some kept) route = contest isBetterRoute kept route := by
        simp only [adopt, fixed]
      simp only [select, List.foldl_cons, next]
      apply ih _ fun other member => allFixed other (by simp [member])
      by_cases wins : isBetterRoute route kept <;> simp [contest, wins, fixed,
        allFixed route (by simp)]

theorem candidates_fixed (owned : RowsOwned dvt) (dst : Ipv4Address)
    (neighbors : List Ipv4Address) :
    ∀ route ∈ candidates neighbors dvt dst, refreshEntry dvt dst route = route := by
  intro route member
  obtain ⟨neighbor, _, found⟩ := mem_candidates.mp member
  exact refreshEntry_candidate owned found

theorem select_none (owned : RowsOwned dvt) {neighbors : List Ipv4Address}
    {first : RoutingTableEntry} {rest : List RoutingTableEntry}
    (routes : candidates neighbors dvt dst = first :: rest) :
    select dvt dst none (candidates neighbors dvt dst) =
      some (rest.foldl (contest isBetterRoute) first) := by
  have fixed := candidates_fixed owned dst neighbors
  rw [routes] at fixed ⊢
  exact select_some_of_fixed (fixed first (by simp)) fun route member =>
    fixed route (by simp [member])

theorem select_some (owned : RowsOwned dvt) {neighbors : List Ipv4Address}
    (kept : RoutingTableEntry) (routes : candidates neighbors dvt dst ≠ []) :
    select dvt dst (some kept) (candidates neighbors dvt dst) =
      some ((candidates neighbors dvt dst).foldl (contest isBetterRoute)
        (refreshEntry dvt dst kept)) := by
  have fixed := candidates_fixed owned dst neighbors
  generalize candidates neighbors dvt dst = list at routes fixed ⊢
  cases list with
  | nil => exact absurd rfl routes
  | cons first rest =>
      have start : adopt dvt dst (some kept) first =
          contest isBetterRoute (refreshEntry dvt dst kept) first := rfl
      simp only [select, List.foldl_cons, start]
      apply select_some_of_fixed
      · have idem := refreshEntry_idem owned dst kept
        by_cases wins : isBetterRoute first (refreshEntry dvt dst kept) <;>
          simp [contest, wins, idem, fixed first (by simp)]
      · exact fun route member => fixed route (by simp [member])

section Recompute
variable {mainAddress : Ipv4Address} {neighbors : List Ipv4Address} {ft : EntryMap}
  {entry : RoutingTableEntry}

theorem recomputed_isSome : ((computeForwardingTable mainAddress neighbors dvt ft).1[dst]?).isSome ↔
    (ft[dst]?).isSome ∨ candidates neighbors dvt dst ≠ [] := by
  rw [computeForwardingTable_get, select_isSome]

theorem recomputed_cases (owned : RowsOwned dvt)
    (present : (computeForwardingTable mainAddress neighbors dvt ft).1[dst]? = some entry) :
    (candidates neighbors dvt dst = [] ∧ ft[dst]? = some entry) ∨
    entry ∈ candidates neighbors dvt dst ∨
    (∃ old, ft[dst]? = some old ∧ entry = refreshEntry dvt dst old) := by
  rw [computeForwardingTable_get] at present
  by_cases empty : candidates neighbors dvt dst = []
  · rw [empty] at present
    exact .inl ⟨empty, present⟩
  · right
    cases known : ft[dst]? with
    | none =>
        obtain ⟨first, rest, routes⟩ := List.exists_cons_of_ne_nil empty
        rw [known, select_none owned routes, Option.some.injEq] at present
        left
        rw [routes, ← present]
        rcases foldl_contest_mem isBetterRoute first rest with same | member
        · simp [same]
        · exact List.mem_cons_of_mem _ member
    | some old =>
        rw [known, select_some owned old empty, Option.some.injEq] at present
        rcases foldl_contest_mem isBetterRoute (refreshEntry dvt dst old)
          (candidates neighbors dvt dst) with same | member
        · exact .inr ⟨old, rfl, by rw [← present, same]⟩
        · exact .inl (present ▸ member)

theorem recomputed_replaced (owned : RowsOwned dvt) {old : RoutingTableEntry}
    (known : ft[dst]? = some old)
    (present : (computeForwardingTable mainAddress neighbors dvt ft).1[dst]? = some entry) :
    (candidates neighbors dvt dst = [] ∧ entry = old) ∨ entry = refreshEntry dvt dst old ∨
      (entry ∈ candidates neighbors dvt dst ∧
        isBetterRoute entry (refreshEntry dvt dst old) = true) := by
  rw [computeForwardingTable_get, known] at present
  by_cases empty : candidates neighbors dvt dst = []
  · rw [empty] at present
    exact .inl ⟨empty, (Option.some.inj present).symm⟩
  · right
    rw [select_some owned old empty, Option.some.injEq] at present
    rcases foldl_contest_mem isBetterRoute (refreshEntry dvt dst old)
      (candidates neighbors dvt dst) with same | member
    · exact .inl (by rw [← present, same])
    · rcases (foldl_contest_maximal isBetterRoute_irrefl isBetterRoute_trans
        (refreshEntry dvt dst old)
        (candidates neighbors dvt dst)).1 with same | beaten
      · exact .inl (by rw [← present, same])
      · exact .inr ⟨present ▸ member, present ▸ beaten⟩

theorem recomputed_settled (owned : RowsOwned dvt)
    (present : (computeForwardingTable mainAddress neighbors dvt ft).1[dst]? = some entry)
    (route : RoutingTableEntry) (member : route ∈ candidates neighbors dvt dst) :
    isBetterRoute route entry = false ∧ refreshEntry dvt dst entry = entry := by
  have nonempty : candidates neighbors dvt dst ≠ [] := List.ne_nil_of_mem member
  have fixed := candidates_fixed owned dst neighbors
  rw [computeForwardingTable_get] at present
  cases known : ft[dst]? with
  | none =>
      obtain ⟨first, rest, routes⟩ := List.exists_cons_of_ne_nil nonempty
      rw [known, select_none owned routes, Option.some.injEq] at present
      rw [routes] at member fixed
      subst present
      constructor
      · exact foldl_contest_unbeaten_by_all isBetterRoute_irrefl isBetterRoute_trans first rest
          route member
      · rcases foldl_contest_mem isBetterRoute first rest with same | later
        · rw [same]
          exact fixed first (by simp)
        · exact fixed _ (List.mem_cons_of_mem _ later)
  | some old =>
      rw [known, select_some owned old nonempty, Option.some.injEq] at present
      subst present
      refine ⟨(foldl_contest_maximal isBetterRoute_irrefl isBetterRoute_trans _ _).2 route member,
        ?_⟩
      rcases foldl_contest_mem isBetterRoute (refreshEntry dvt dst old)
        (candidates neighbors dvt dst) with same | later
      · rw [same, refreshEntry_idem owned dst]
      · exact fixed _ later

theorem recomputed_unbeaten (owned : RowsOwned dvt) (known : ft[dst]? = some entry)
    (unbeaten : ∀ route ∈ candidates neighbors dvt dst, isBetterRoute route
      (refreshEntry dvt dst entry) = false) :
    (computeForwardingTable mainAddress neighbors dvt ft).1[dst]? =
      some (if candidates neighbors dvt dst = [] then entry else refreshEntry dvt dst entry) := by
  rw [computeForwardingTable_get, known]
  by_cases empty : candidates neighbors dvt dst = []
  · simp [empty, select]
  · rw [select_some owned entry empty, foldl_contest_unbeaten unbeaten, if_neg empty]

end Recompute

end Bsdvr
