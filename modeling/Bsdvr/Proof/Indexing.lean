import Bsdvr.Proof.FakeRoutes

namespace Bsdvr
open Foundation

/-! ## Reads through `operator[]`

The routines that write the tables once more, with `none` where a read through `operator[]` misses its key and
would create a default-constructed entry. -/

def eraseIps? (ft : EntryMap) (neighbor dst : Ipv4Address) (eraseIps fakes : List Ipv4Address) :
    Option (List Ipv4Address) :=
  fakes.foldlM (fun eraseIps fake =>
    if fake = dst then do
      let entry ← ft[dst]?
      return if neighbor ≠ entry.nextHop then eraseIps ++ [fake] else eraseIps
    else return eraseIps) eraseIps

def eraseFakes? (ft : EntryMap) (fakes : List Ipv4Address) (dvt : DistanceVectorTable)
    (neighbor : Ipv4Address) : Option DistanceVectorTable :=
  match dvt[neighbor]? with
  | none => return dvt
  | some row => do
      let eraseIps ← row.toList.foldlM (fun eraseIps (dst, _) =>
          eraseIps? ft neighbor dst eraseIps fakes) []
      return dvt.insert neighbor (eraseIps.foldl (fun entries dst => entries.erase dst) row)

def removeFakeRoutes? (neighbors : List Ipv4Address) (ft : EntryMap) (dvt : DistanceVectorTable)
    (nxtHp : Ipv4Address) (rt : RoutingTableEntry) : Option DistanceVectorTable :=
  neighbors.foldlM (eraseFakes? ft (fakeDestinations neighbors ft nxtHp rt)) dvt

def updateDistanceVectorTable? (neighbors : List Ipv4Address) (ft : EntryMap)
    (dvt : DistanceVectorTable) (nxtHp : Ipv4Address) (rt : RoutingTableEntry) :
    Option DistanceVectorTable := do
  let dvt ← (if ft.contains rt.destination then removeFakeRoutes? neighbors ft dvt nxtHp rt
      else some dvt)
  if nxtHp ∈ neighbors ∧ dvt.contains nxtHp then return dvt
  else
    -- a row that was missing has been inserted before `operator[]` asks for it
    let row ← (if dvt.contains nxtHp then dvt[nxtHp]? else some ∅)
    return dvt.insert nxtHp (row.insert rt.destination rt)

def refreshForwardingTable? (dvt : DistanceVectorTable) (ft : EntryMap)
    (dst nxtHp : Ipv4Address) : Option EntryMap :=
  match dvt[nxtHp]? with
  | some row =>
    match row[dst]? with
    | some entry => return ft.insert dst entry
    | none => return ft
  | none => do
      let entry ← ft[dst]?
      return ft.insert dst (entry.setRouteState .inactive)

def computeEntry? (dvt : DistanceVectorTable) (neighbor : Ipv4Address)
    (tables : EntryMap × List Ipv4Address) (dst : Ipv4Address) :
    Option (EntryMap × List Ipv4Address) :=
  let (ft, changes) := tables
  if ft.contains dst then do
    let oldEntry ← ft[dst]?
    let ft ← refreshForwardingTable? dvt ft dst oldEntry.nextHop
    let row ← dvt[neighbor]?
    let newEntry ← row[dst]?
    let currEntry ← ft[dst]?
    return if isBetterRoute newEntry currEntry then
      (ft.insert dst newEntry, if dst ∈ changes then changes ++ [dst] else changes)
    else if currEntry.hops ≠ oldEntry.hops ∨ currEntry.state ≠ oldEntry.state then
      (ft, if dst ∈ changes then changes ++ [dst] else changes)
    else (ft, changes)
  else do
    let row ← dvt[neighbor]?
    let newEntry ← row[dst]?
    return (ft.insert dst newEntry, changes ++ [dst])

def computeRow? (dvt : DistanceVectorTable) (tables : EntryMap × List Ipv4Address)
    (neighbor : Ipv4Address) : Option (EntryMap × List Ipv4Address) :=
  match dvt[neighbor]? with
  | none => return tables
  | some row => row.toList.foldlM (fun tables (dst, _) => computeEntry? dvt neighbor tables dst)
      tables

def computeForwardingTable? (mainAddress : Ipv4Address) (neighbors : List Ipv4Address)
    (dvt : DistanceVectorTable) (ft : EntryMap) : Option (EntryMap × List Ipv4Address) := do
  let tables ← neighbors.foldlM (computeRow? dvt) (ft, [])
  return (tables.1, tables.2.filter (· ≠ mainAddress))

variable {neighbors : List Ipv4Address} {ft : EntryMap} {dvt : DistanceVectorTable}
  {neighbor dst : Ipv4Address}

/-! ## `UpdateDistanceVectorTable` -/

theorem eraseIps?_eq {fakes : List Ipv4Address} (present : ∀ fake ∈ fakes, (ft[fake]?).isSome)
    (eraseIps : List Ipv4Address) : eraseIps? ft neighbor dst eraseIps fakes =
      some (eraseIps ++ fakes.filter fun fake => fake = dst ∧
        neighbor ≠ ((ft[dst]?).getD (.default 0)).nextHop) := by
  induction fakes generalizing eraseIps with
  | nil => simp [eraseIps?]
  | cons fake rest ih =>
      have later := ih fun other member => present other (List.mem_cons_of_mem _ member)
      unfold eraseIps? at later ⊢
      rw [List.foldlM_cons]
      by_cases here : fake = dst
      · subst here
        obtain ⟨entry, found⟩ := Option.isSome_iff_exists.mp (present fake List.mem_cons_self)
        simp only [found, Option.getD_some] at later ⊢
        by_cases apart : neighbor = entry.nextHop
        · simpa [apart] using later eraseIps
        · simpa [apart] using later (eraseIps ++ [fake])
      · simpa [here] using later eraseIps

theorem eraseFakes?_eq {fakes : List Ipv4Address} (present : ∀ fake ∈ fakes, (ft[fake]?).isSome) :
    eraseFakes? ft fakes dvt neighbor = some (eraseFakes ft fakes dvt neighbor) := by
  unfold eraseFakes? eraseFakes
  cases dvt[neighbor]? with
  | none => rfl
  | some row =>
      have collected (entries : List (Ipv4Address × RoutingTableEntry))
          (eraseIps : List Ipv4Address) :
          entries.foldlM (fun eraseIps (dst, _) => eraseIps? ft neighbor dst eraseIps fakes)
          eraseIps =
          some (eraseIps ++ entries.flatMap fun (dst, _) => fakes.filter fun fake =>
            fake = dst ∧ neighbor ≠ ((ft[dst]?).getD (.default 0)).nextHop) := by
        induction entries generalizing eraseIps with
        | nil => simp
        | cons entry rest ih =>
            obtain ⟨dst, route⟩ := entry
            rw [List.foldlM_cons]
            show (eraseIps? ft neighbor dst eraseIps fakes).bind _ = _
            rw [eraseIps?_eq present, Option.bind_some, ih, List.flatMap_cons, List.append_assoc]
      simp only [collected, List.nil_append]
      rfl

theorem removeFakeRoutes?_eq (nxtHp : Ipv4Address) (rt : RoutingTableEntry) :
    removeFakeRoutes? neighbors ft dvt nxtHp rt =
      some (removeFakeRoutes neighbors ft dvt nxtHp rt) := by
  have present : ∀ fake ∈ fakeDestinations neighbors ft nxtHp rt, (ft[fake]?).isSome := by
    intro fake member
    obtain ⟨_, _, entry, found, _⟩ := mem_fakeDestinations.mp member
    rw [found]
    rfl
  exact foldlM_eq_some fun dvt neighbor _ => eraseFakes?_eq present

theorem updateDistanceVectorTable?_eq (nxtHp : Ipv4Address) (rt : RoutingTableEntry) :
    updateDistanceVectorTable? neighbors ft dvt nxtHp rt =
      some (updateDistanceVectorTable neighbors ft dvt nxtHp rt) := by
  have fakes : (if ft.contains rt.destination then removeFakeRoutes? neighbors ft dvt nxtHp rt
      else some dvt) =
      some (withoutFakes neighbors ft dvt nxtHp rt) := by
    unfold withoutFakes
    split
    · exact removeFakeRoutes?_eq nxtHp rt
    · rfl
  rw [updateDistanceVectorTable_eq]
  unfold updateDistanceVectorTable?
  simp only [pure, fakes, Option.bind_eq_bind, Option.bind_some]
  generalize withoutFakes neighbors ft dvt nxtHp rt = dvt
  split
  · rfl
  · have row : (if dvt.contains nxtHp then dvt[nxtHp]? else some ∅) =
        some ((dvt[nxtHp]?).getD ∅) := by
      rw [Std.TreeMap.contains_eq_isSome_getElem?]
      cases dvt[nxtHp]? with
      | none => rfl
      | some row => rfl
    rw [row]
    rfl

/-! ## `ComputeForwardingTable` -/

theorem refreshForwardingTable?_eq (present : (ft[dst]?).isSome) (nxtHp : Ipv4Address) :
    refreshForwardingTable? dvt ft dst nxtHp = some (refreshForwardingTable dvt ft dst nxtHp) := by
  obtain ⟨entry, found⟩ := Option.isSome_iff_exists.mp present
  unfold refreshForwardingTable? refreshForwardingTable
  cases dvt[nxtHp]? with
  | none =>
      rw [found]
      rfl
  | some row => cases h : row[dst]? <;> simp only [h] <;> rfl

theorem computeEntry?_eq {row : EntryMap} {route : RoutingTableEntry}
    (there : dvt[neighbor]? = some row) (listed : row[dst]? = some route)
    (tables : EntryMap × List Ipv4Address) :
    computeEntry? dvt neighbor tables dst = some (computeEntry dvt tables dst route) := by
  obtain ⟨ft, changes⟩ := tables
  unfold computeEntry? computeEntry
  simp only [Std.TreeMap.contains_eq_isSome_getElem?]
  cases found : ft[dst]? with
  | none =>
      simp [there, listed]
  | some oldEntry =>
      have refreshed := refreshForwardingTable_get dvt ft dst dst oldEntry found
      have present : (ft[dst]?).isSome := by rw [found, Option.isSome_some]
      rw [if_pos rfl] at refreshed
      simp only [Option.isSome_some, ↓reduceIte, there, listed, pure, Option.bind_eq_bind,
        Option.bind_some, refreshForwardingTable?_eq present, refreshed, Option.getD_some]

theorem computeRow?_eq (tables : EntryMap × List Ipv4Address) :
    computeRow? dvt tables neighbor = some (computeRow dvt tables neighbor) := by
  unfold computeRow? computeRow
  cases there : dvt[neighbor]? with
  | none => rfl
  | some row =>
      simp only [Std.TreeMap.foldl_eq_foldl_toList]
      refine foldlM_eq_some fun tables entry member => ?_
      exact computeEntry?_eq there (Std.TreeMap.mem_toList_iff_getElem?_eq_some.mp member) tables

/-- No read through `operator[]` in `ComputeForwardingTable` or `RefreshForwardingTable` misses its
key. -/
theorem computeForwardingTable?_eq (mainAddress : Ipv4Address) :
    computeForwardingTable? mainAddress neighbors dvt ft =
    some (computeForwardingTable mainAddress neighbors dvt ft) := by
  have rows : neighbors.foldlM (computeRow? dvt) (ft, []) =
      some (neighbors.foldl (computeRow dvt) (ft, [])) :=
    foldlM_eq_some fun tables neighbor _ => computeRow?_eq tables
  unfold computeForwardingTable?
  rw [rows]
  rfl

end Bsdvr
