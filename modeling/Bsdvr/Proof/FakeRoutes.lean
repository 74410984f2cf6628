import Bsdvr.Proof.Recompute

namespace Bsdvr
open Foundation

variable {neighbors : List Ipv4Address} {ft : EntryMap} {dvt : DistanceVectorTable}
  {nxtHp neighbor dst : Ipv4Address} {rt : RoutingTableEntry}

theorem mem_fakeDestinations : dst ∈ fakeDestinations neighbors ft nxtHp rt ↔
    rt.state = .inactive ∧ (rt.destination = dst ∨ (nxtHp = rt.destination ∧ nxtHp ∈ neighbors)) ∧
      ∃ entry, ft[dst]? = some entry ∧ entry.state = .active ∧ entry.nextHop = nxtHp := by
  simp only [fakeDestinations, List.mem_flatMap, Prod.exists,
    Std.TreeMap.mem_toList_iff_getElem?_eq_some]
  constructor
  · rintro ⟨key, entry, present, member⟩
    split at member
    · rename_i states
      rcases List.mem_append.mp member with own | behind
      · split at own
        · rename_i route
          obtain rfl := List.mem_singleton.mp own
          exact ⟨states.2, .inl route.2, entry, present, states.1, route.1.symm⟩
        · cases own
      · split at behind
        · rename_i direct
          split at behind
          · rename_i route
            obtain rfl := List.mem_singleton.mp behind
            exact ⟨states.2, .inr direct, entry, present, states.1, route.1⟩
          · cases behind
        · cases behind
    · cases member
  · rintro ⟨failed, reason, entry, present, works, through⟩
    refine ⟨dst, entry, present, ?_⟩
    rw [if_pos ⟨works, failed⟩, List.mem_append]
    by_cases own : rt.destination = dst
    · exact .inl (by simp [through, own])
    · have direct := reason.resolve_left own
      right
      rw [if_pos direct, if_pos (show entry.nextHop = nxtHp ∧ rt.destination ≠ dst
        from ⟨through, own⟩)]
      exact List.mem_singleton_self dst

def Erased (ft : EntryMap) (fakes : List Ipv4Address) (neighbor dst : Ipv4Address) : Prop :=
  dst ∈ fakes ∧ neighbor ≠ ((ft[dst]?).getD (.default 0)).nextHop

instance (fakes : List Ipv4Address) : Decidable (Erased ft fakes neighbor dst) :=
  inferInstanceAs (Decidable (_ ∧ _))

theorem eraseFakes_get (fakes : List Ipv4Address) (other : Ipv4Address) :
    ((eraseFakes ft fakes dvt neighbor)[other]?).isSome = (dvt[other]?).isSome := by
  unfold eraseFakes
  cases present : dvt[neighbor]? with
  | none => rfl
  | some row => by_cases same : other = neighbor <;> simp [getElem?_insert, same, present]

theorem eraseFakes_entry (fakes : List Ipv4Address) (other : Ipv4Address) :
    (eraseFakes ft fakes dvt neighbor).entry other dst =
      if other = neighbor ∧ Erased ft fakes neighbor dst then none else dvt.entry other dst := by
  unfold eraseFakes DistanceVectorTable.entry
  cases present : dvt[neighbor]? with
  | none =>
      by_cases same : other = neighbor
      · subst same
        simp [present]
      · simp [same]
  | some row =>
      by_cases same : other = neighbor
      · subst same
        simp only [getElem?_insert, ↓reduceIte, Option.bind_some, present,
          getElem?_foldl_erase, true_and]
        cases found : row[dst]? with
        | none => simp
        | some route =>
            have listed : dst ∈ (row.toList.flatMap fun entry => fakes.filter fun fake =>
                fake = entry.1 ∧ other ≠ ((ft[entry.1]?).getD (.default 0)).nextHop) ↔
                Erased ft fakes other dst := by
              simp only [List.mem_flatMap, List.mem_filter, decide_eq_true_eq, Erased, Prod.exists,
                Std.TreeMap.mem_toList_iff_getElem?_eq_some]
              constructor
              · rintro ⟨key, _, _, member, rfl, apart⟩
                exact ⟨member, apart⟩
              · rintro ⟨member, apart⟩
                exact ⟨dst, route, found, member, rfl, apart⟩
            simp only [listed]
      · simp [getElem?_insert, same]

theorem removeFakeRoutes_get (other : Ipv4Address) :
    ((removeFakeRoutes neighbors ft dvt nxtHp rt)[other]?).isSome = (dvt[other]?).isSome := by
  unfold removeFakeRoutes
  generalize fakeDestinations neighbors ft nxtHp rt = fakes
  induction neighbors generalizing dvt with
  | nil => rfl
  | cons neighbor rest ih => rw [List.foldl_cons, ih, eraseFakes_get]

theorem removeFakeRoutes_entry (other : Ipv4Address) :
    (removeFakeRoutes neighbors ft dvt nxtHp rt).entry other dst =
      if other ∈ neighbors ∧ Erased ft (fakeDestinations neighbors ft nxtHp rt) other dst then none
      else dvt.entry other dst := by
  unfold removeFakeRoutes
  generalize fakeDestinations neighbors ft nxtHp rt = fakes
  induction neighbors generalizing dvt with
  | nil => simp
  | cons neighbor rest ih =>
      rw [List.foldl_cons, ih, eraseFakes_entry]
      by_cases here : other = neighbor
      · subst here
        by_cases erased : Erased ft fakes other dst <;> simp [erased]
      · simp [here]

theorem removeFakeRoutes_sub {route : RoutingTableEntry} {other : Ipv4Address}
    (found : (removeFakeRoutes neighbors ft dvt nxtHp rt).entry other dst = some route) :
    dvt.entry other dst = some route := by
  rw [removeFakeRoutes_entry] at found
  split at found
  · cases found
  · exact found

theorem removeFakeRoutes_nextHop {entry : RoutingTableEntry} (present : ft[dst]? = some entry) :
    (removeFakeRoutes neighbors ft dvt nxtHp rt).entry entry.nextHop dst =
      dvt.entry entry.nextHop dst := by
  rw [removeFakeRoutes_entry, if_neg]
  rintro ⟨_, _, apart⟩
  simp [present] at apart

/-! ## `UpdateDistanceVectorTable` -/

def withoutFakes (neighbors : List Ipv4Address) (ft : EntryMap) (dvt : DistanceVectorTable)
    (nxtHp : Ipv4Address) (rt : RoutingTableEntry) : DistanceVectorTable :=
  if ft.contains rt.destination then removeFakeRoutes neighbors ft dvt nxtHp rt else dvt

theorem withoutFakes_get (other : Ipv4Address) :
    ((withoutFakes neighbors ft dvt nxtHp rt)[other]?).isSome = (dvt[other]?).isSome := by
  unfold withoutFakes
  split
  · exact removeFakeRoutes_get other
  · rfl

theorem withoutFakes_sub {route : RoutingTableEntry} {other : Ipv4Address}
    (found : (withoutFakes neighbors ft dvt nxtHp rt).entry other dst = some route) :
    dvt.entry other dst = some route := by
  unfold withoutFakes at found
  split at found
  · exact removeFakeRoutes_sub found
  · exact found

theorem withoutFakes_nextHop {entry : RoutingTableEntry} (present : ft[dst]? = some entry) :
    (withoutFakes neighbors ft dvt nxtHp rt).entry entry.nextHop dst =
      dvt.entry entry.nextHop dst := by
  unfold withoutFakes
  split
  · exact removeFakeRoutes_nextHop present
  · rfl

theorem DistanceVectorTable.entry_insert (row : EntryMap) (other : Ipv4Address) :
    entry (dvt.insert neighbor row) other dst = if other = neighbor then row[dst]?
      else dvt.entry other dst := by
  unfold DistanceVectorTable.entry
  rw [getElem?_insert]
  by_cases same : other = neighbor <;> simp [same]

theorem updateDistanceVectorTable_eq : updateDistanceVectorTable neighbors ft dvt nxtHp rt =
    if nxtHp ∈ neighbors ∧ (withoutFakes neighbors ft dvt nxtHp rt).contains nxtHp then
      withoutFakes neighbors ft dvt nxtHp rt
    else (withoutFakes neighbors ft dvt nxtHp rt).insert nxtHp
      ((((withoutFakes neighbors ft dvt nxtHp rt)[nxtHp]?).getD ∅).insert rt.destination rt) := rfl

theorem updateDistanceVectorTable_drop (member : nxtHp ∈ neighbors)
    (hasRow : (dvt[nxtHp]?).isSome) :
    updateDistanceVectorTable neighbors ft dvt nxtHp rt =
      withoutFakes neighbors ft dvt nxtHp rt := by
  rw [updateDistanceVectorTable_eq, if_pos]
  rw [Std.TreeMap.contains_eq_isSome_getElem?, withoutFakes_get]
  exact ⟨member, hasRow⟩

theorem updateDistanceVectorTable_store (stranger : ¬(nxtHp ∈ neighbors ∧ (dvt[nxtHp]?).isSome))
    (other : Ipv4Address) : (updateDistanceVectorTable neighbors ft dvt nxtHp rt).entry other dst =
      if other = nxtHp ∧ dst = rt.destination then some rt
      else (withoutFakes neighbors ft dvt nxtHp rt).entry other dst := by
  rw [updateDistanceVectorTable_eq, if_neg]
  · rw [DistanceVectorTable.entry_insert, getElem?_insert]
    by_cases same : other = nxtHp
    · subst same
      by_cases here : dst = rt.destination
      · simp [here]
      · simp only [↓reduceIte, here, and_false, DistanceVectorTable.entry]
        cases (withoutFakes neighbors ft dvt other rt)[other]? <;> simp
    · simp [same]
  · rwa [Std.TreeMap.contains_eq_isSome_getElem?, withoutFakes_get]

theorem updateDistanceVectorTable_entry {other : Ipv4Address} {route : RoutingTableEntry}
    (found : (updateDistanceVectorTable neighbors ft dvt nxtHp rt).entry other dst = some route) :
    dvt.entry other dst = some route ∨ (other = nxtHp ∧ dst = rt.destination ∧ route = rt) := by
  by_cases stranger : nxtHp ∈ neighbors ∧ (dvt[nxtHp]?).isSome
  · rw [updateDistanceVectorTable_drop stranger.1 stranger.2] at found
    exact .inl (withoutFakes_sub found)
  · rw [updateDistanceVectorTable_store stranger] at found
    split at found
    · rename_i here
      exact .inr ⟨here.1, here.2, (Option.some.inj found).symm⟩
    · exact .inl (withoutFakes_sub found)

end Bsdvr
