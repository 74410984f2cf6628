import Bsdvr.Foundation.Sequence
import Bsdvr.Proof.Recompute

namespace Bsdvr
open Foundation

/-! ## The preference between routes, and the worst of a list -/

def Preferred (x y : RoutingTableEntry) : Prop :=
  (x.state = y.state ∧ x.hops < y.hops) ∨
    (x.state = .active ∧ x.hops < bsdvrThreshold ∧ y.state = .inactive) ∨
    (x.state = .inactive ∧ y.state = .active ∧ bsdvrThreshold < y.hops)

def SameMetric (x y : RoutingTableEntry) : Prop := x.hops = y.hops ∧ x.state = y.state

def Short (route : RoutingTableEntry) : Prop := route.state = .active ∧ route.hops < bsdvrThreshold

instance (x y : RoutingTableEntry) : Decidable (Preferred x y) :=
  inferInstanceAs (Decidable (_ ∧ _ ∨ _ ∧ _ ∨ _ ∧ _))
instance (x y : RoutingTableEntry) : Decidable (SameMetric x y) :=
  inferInstanceAs (Decidable (_ ∧ _))
instance (route : RoutingTableEntry) : Decidable (Short route) :=
  inferInstanceAs (Decidable (_ ∧ _))

theorem isBetterRoute_iff {r1 r2 : RoutingTableEntry} :
    isBetterRoute r1 r2 = true ↔ Preferred r2 r1 := by
  unfold isBetterRoute Preferred
  cases first : r1.state <;> cases second : r2.state <;> simp

theorem isBetterRoute_eq_false {r1 r2 : RoutingTableEntry} :
    isBetterRoute r1 r2 = false ↔ ¬Preferred r2 r1 := by
  rw [← isBetterRoute_iff, Bool.not_eq_true]

theorem Preferred.trans {x y z : RoutingTableEntry} (first : Preferred x y)
    (second : Preferred y z) : Preferred x z :=
  isBetterRoute_iff.mp (isBetterRoute_trans _ _ _ (isBetterRoute_iff.mpr first)
    (isBetterRoute_iff.mpr second))

theorem not_preferred_self (x : RoutingTableEntry) : ¬Preferred x x :=
  isBetterRoute_eq_false.mp (isBetterRoute_irrefl x)

theorem SameMetric.preferred_iff {x y : RoutingTableEntry} (same : SameMetric x y)
    (z : RoutingTableEntry) :
    Preferred x z ↔ Preferred y z := by
  unfold Preferred
  rw [same.1, same.2]

theorem SameMetric.preferred_iff' {x y : RoutingTableEntry} (same : SameMetric x y)
    (z : RoutingTableEntry) :
    Preferred z x ↔ Preferred z y := by
  unfold Preferred
  rw [same.1, same.2]

theorem SameMetric.symm {x y : RoutingTableEntry} (same : SameMetric x y) : SameMetric y x :=
  ⟨same.1.symm, same.2.symm⟩

theorem SameMetric.trans {x y z : RoutingTableEntry} (first : SameMetric x y)
    (second : SameMetric y z) : SameMetric x z :=
  ⟨first.1.trans second.1, first.2.trans second.2⟩

/-- Routes of which neither is preferred have the same metric, or one is ACTIVE at the threshold and
the other INACTIVE. -/
theorem tied_cases {x y : RoutingTableEntry} (first : ¬Preferred x y) (second : ¬Preferred y x) :
    SameMetric x y ∨ (x.state = .active ∧ x.hops = bsdvrThreshold ∧ y.state = .inactive) ∨
      (y.state = .active ∧ y.hops = bsdvrThreshold ∧ x.state = .inactive) := by
  unfold Preferred at first second
  unfold SameMetric
  cases here : x.state <;> cases there : y.state <;> simp [here, there]
    at first second ⊢ <;> bv_omega

/-- Whether a metric is the one the worst of the routes has: it is preferred to none of them, and
where an ACTIVE route at the threshold competes with INACTIVE ones, the first route that is not
short decides. -/
structure WorstMetric (routes : List RoutingTableEntry) (route : RoutingTableEntry) : Prop where
  preferredToNone : ∀ other ∈ routes, ¬Preferred route other
  decided : ∀ other, routes.find? (fun route => ¬Short route) = some other →
    route.state = other.state ∨ (route.state = .active ∧ bsdvrThreshold < route.hops)

instance (routes : List RoutingTableEntry) (route : RoutingTableEntry) :
    Decidable (WorstMetric routes route) :=
  decidable_of_iff ((∀ other ∈ routes, ¬Preferred route other) ∧
    ∀ other ∈ routes.find? (fun route => ¬Short route),
    route.state = other.state ∨ (route.state = .active ∧ bsdvrThreshold < route.hops))
    ⟨fun holds => ⟨holds.1, holds.2⟩, fun holds => ⟨holds.1, holds.2⟩⟩

structure Worst (routes : List RoutingTableEntry) (route : RoutingTableEntry) :
    Prop extends WorstMetric routes route where
  first : routes.find? (fun other => SameMetric route other) = some route

instance (routes : List RoutingTableEntry) (route : RoutingTableEntry) :
    Decidable (Worst routes route) :=
  decidable_of_iff (WorstMetric routes route ∧ routes.find?
    (fun other => SameMetric route other) = some route)
    ⟨fun holds => ⟨holds.1, holds.2⟩, fun holds => ⟨holds.1, holds.2⟩⟩

variable {routes : List RoutingTableEntry} {worst next : RoutingTableEntry}

theorem worst_singleton (route : RoutingTableEntry) : Worst [route] route where
  preferredToNone := by simpa using not_preferred_self route
  decided other found := .inl (by rw [List.mem_singleton.mp (List.mem_of_find?_eq_some found)])
  first := by simp [SameMetric]

theorem Worst.mem (holds : Worst routes worst) : worst ∈ routes :=
  List.mem_of_find?_eq_some holds.first

theorem Worst.kept (holds : Worst routes worst) (stays : ¬Preferred worst next) :
    Worst (routes ++ [next]) worst where
  preferredToNone other member := by
    rcases List.mem_append.mp member with old | new
    · exact holds.preferredToNone other old
    · rwa [List.mem_singleton.mp new]
  decided other found := by
    cases earlier : routes.find? (fun route => ¬Short route) with
    | some first =>
        rw [find?_append_of_some earlier, Option.some.injEq] at found
        exact found ▸ holds.decided first earlier
    | none =>
        -- all routes are short, the worst of them too, and it is not preferred to the new one
        have short : Short worst := by simpa using List.find?_eq_none.mp earlier worst holds.mem
        rw [List.find?_append, earlier, Option.none_or] at found
        obtain rfl := List.mem_singleton.mp (List.mem_of_find?_eq_some found)
        left
        by_contra apart
        have inactive : other.state = .inactive := by
          cases state : other.state with
          | inactive => rfl
          | active => exact absurd (short.1.trans state.symm) apart
        exact stays (.inr (.inl ⟨short.1, short.2, inactive⟩))
  first := find?_append_of_some holds.first next

/-- A route that falls behind the worst is settled as that one was. -/
theorem Preferred.decided {first : RoutingTableEntry} (falls : Preferred worst next)
    (long : ¬Short first) (listed : ¬Preferred worst first)
    (decided : worst.state = first.state ∨ (worst.state = .active ∧ bsdvrThreshold < worst.hops)) :
    next.state = first.state ∨ (next.state = .active ∧ bsdvrThreshold < next.hops) := by
  unfold Preferred at falls listed
  unfold Short at long
  cases here : worst.state <;> cases there : next.state <;> cases start : first.state <;>
    simp [here, there, start] at falls listed long decided ⊢ <;> bv_omega

theorem Worst.replaced (holds : Worst routes worst) (falls : Preferred worst next) :
    Worst (routes ++ [next]) next where
  preferredToNone other member := by
    rcases List.mem_append.mp member with old | new
    · exact fun further => holds.preferredToNone other old (falls.trans further)
    · rw [List.mem_singleton.mp new]
      exact not_preferred_self next
  decided other found := by
    cases earlier : routes.find? (fun route => ¬Short route) with
    | none =>
        rw [List.find?_append, earlier, Option.none_or] at found
        exact .inl (by rw [List.mem_singleton.mp (List.mem_of_find?_eq_some found)])
    | some first =>
        rw [find?_append_of_some earlier, Option.some.injEq] at found
        subst found
        have long : ¬Short first := by simpa using List.find?_some earlier
        exact falls.decided long (holds.preferredToNone first (List.mem_of_find?_eq_some earlier))
          (holds.decided first earlier)
  first := by
    have absent : routes.find? (fun other => SameMetric next other) = none := by
      rw [List.find?_eq_none]
      intro other member same
      have metric : SameMetric next other := of_decide_eq_true same
      exact holds.preferredToNone other member ((metric.preferred_iff' worst).mp falls)
    rw [List.find?_append, absent]
    simp [SameMetric]

theorem Worst.step (holds : Worst routes worst) (next : RoutingTableEntry) :
    Worst (routes ++ [next]) (contest isBetterRoute worst next) := by
  unfold contest
  split
  · rename_i falls
    exact holds.replaced (isBetterRoute_iff.mp falls)
  · rename_i stays
    exact holds.kept (mt isBetterRoute_iff.mpr stays)

theorem WorstMetric.sameMetric {x y : RoutingTableEntry} (first : WorstMetric routes x)
    (second : WorstMetric routes y) (here : ∃ other ∈ routes, SameMetric x other)
    (there : ∃ other ∈ routes, SameMetric y other) : SameMetric x y := by
  have apart {x y : RoutingTableEntry} (first : WorstMetric routes x)
      (second : WorstMetric routes y)
      (listed : ∃ other ∈ routes, SameMetric y other) (works : x.state = .active)
      (limit : x.hops = bsdvrThreshold)
      (failed : y.state = .inactive) : False := by
    obtain ⟨other, member, same⟩ := listed
    cases decider : routes.find? (fun route => ¬Short route) with
    | none =>
        have short : Short other := by simpa using List.find?_eq_none.mp decider other member
        cases failed.symm.trans (same.2.trans short.1)
    | some decisive =>
        rcases first.decided decisive decider with one | ⟨_, beyond⟩
        · rcases second.decided decisive decider with two | ⟨active, _⟩
          · cases (works.symm.trans one).trans (two.symm.trans failed)
          · cases active.symm.trans failed
        · exact absurd beyond (by rw [limit]; decide)
  obtain ⟨other, member, same⟩ := here
  obtain ⟨third, listed, alike⟩ := there
  have forwards : ¬Preferred x y :=
    fun falls => first.preferredToNone third listed ((alike.preferred_iff' x).mp falls)
  have backwards : ¬Preferred y x :=
    fun falls => second.preferredToNone other member ((same.preferred_iff' y).mp falls)
  rcases tied_cases forwards backwards with equal | ⟨works, limit, failed⟩ | ⟨works, limit, failed⟩
  · exact equal
  · exact (apart first second ⟨third, listed, alike⟩ works limit failed).elim
  · exact (apart second first ⟨other, member, same⟩ works limit failed).elim

theorem Worst.unique (first : Worst routes worst) (second : Worst routes next) : worst = next := by
  have same := first.toWorstMetric.sameMetric second.toWorstMetric ⟨worst, first.mem, rfl,
    rfl⟩ ⟨next, second.mem, rfl, rfl⟩
  have metrics : (fun other => decide (SameMetric worst other)) = fun other =>
      decide (SameMetric next other) := by
    funext other
    exact decide_eq_decide.mpr ⟨same.symm.trans, same.trans⟩
  have found := first.first
  rw [metrics, second.first, Option.some.injEq] at found
  exact found.symm

theorem worst_foldl (kept : RoutingTableEntry) (challengers : List RoutingTableEntry) :
    Worst (kept :: challengers) (challengers.foldl (contest isBetterRoute) kept) := by
  suffices later : ∀ routes worst, Worst routes worst →
      Worst (routes ++ challengers) (challengers.foldl (contest isBetterRoute) worst) from
    later [kept] kept (worst_singleton kept)
  induction challengers with
  | nil =>
      intro routes worst holds
      rwa [List.append_nil]
  | cons next rest ih =>
      intro routes worst holds
      rw [List.foldl_cons, List.append_cons]
      exact ih _ _ (holds.step next)

/-! ## The outcome of a recomputation -/

def participants (neighbors : List Ipv4Address) (dvt : DistanceVectorTable) (ft : EntryMap)
    (dst : Ipv4Address) :
    List RoutingTableEntry :=
  ((ft[dst]?).map (refreshEntry dvt dst)).toList ++ candidates neighbors dvt dst

/-- With candidates, the recomputation leaves the worst of the routes. -/
theorem recomputed_eq_some_iff_worst {mainAddress : Ipv4Address} {neighbors : List Ipv4Address}
    {dvt : DistanceVectorTable} {ft : EntryMap} {dst : Ipv4Address} {entry : RoutingTableEntry}
    (owned : RowsOwned dvt) (nonempty : candidates neighbors dvt dst ≠ []) :
    (computeForwardingTable mainAddress neighbors dvt ft).1[dst]? = some entry ↔
      Worst (participants neighbors dvt ft dst) entry := by
  have worst : ∃ left, (computeForwardingTable mainAddress neighbors dvt ft).1[dst]? = some left ∧
      Worst (participants neighbors dvt ft dst) left := by
    rw [computeForwardingTable_get, participants]
    cases known : ft[dst]? with
    | none =>
        obtain ⟨first, rest, routes⟩ := List.exists_cons_of_ne_nil nonempty
        rw [select_none owned routes, routes]
        exact ⟨_, rfl, worst_foldl first rest⟩
    | some old =>
        rw [select_some owned old nonempty]
        exact ⟨_, rfl, worst_foldl _ _⟩
  obtain ⟨left, computed, holds⟩ := worst
  rw [computed, Option.some.injEq]
  constructor
  · rintro rfl
    exact holds
  · exact fun other => holds.unique other

end Bsdvr
