import Bsdvr.Model.Neighbors

namespace Bsdvr

def bsdvrThreshold : BitVec 32 := 16

/-- Whether `r2` is the better route of the two. -/
def isBetterRoute (r1 r2 : RoutingTableEntry) : Bool :=
  let newHopCount := r2.hops
  let currHopCount := r1.hops
  match r2.state with
  | .active =>
    match r1.state with
    | .active => if currHopCount ≤ newHopCount then false else true
    | .inactive => if newHopCount < bsdvrThreshold then true else false
  | .inactive =>
    match r1.state with
    | .active => if currHopCount ≤ bsdvrThreshold then false else true
    | .inactive => if currHopCount ≤ newHopCount then false else true

/-! `RemoveFakeRoutes` collects destinations from the forwarding table, then erases their
alternatives from the rows of the current neighbours. -/

def fakeDestinations (neighbors : List Ipv4Address) (ft : EntryMap) (nxtHp : Ipv4Address)
    (rt : RoutingTableEntry) : List Ipv4Address :=
  ft.toList.flatMap fun (currDst, entry) =>
    if entry.state = .active ∧ rt.state = .inactive then
      (if nxtHp = entry.nextHop ∧ rt.destination = currDst then [currDst] else []) ++
      (if nxtHp = rt.destination ∧ nxtHp ∈ neighbors then
        if entry.nextHop = nxtHp ∧ rt.destination ≠ currDst then [currDst] else []
      else [])
    else []

def eraseFakes (ft : EntryMap) (fakes : List Ipv4Address) (dvt : DistanceVectorTable)
    (neighbor : Ipv4Address) : DistanceVectorTable :=
  match dvt[neighbor]? with
  | none => dvt
  | some row =>
      let eraseIps := row.toList.flatMap fun (dst, _) =>
        fakes.filter fun fake =>
          fake = dst ∧ neighbor ≠ ((ft[dst]?).getD (.default 0)).nextHop
      dvt.insert neighbor (eraseIps.foldl (fun entries dst => entries.erase dst) row)

def removeFakeRoutes (neighbors : List Ipv4Address) (ft : EntryMap) (dvt : DistanceVectorTable)
    (nxtHp : Ipv4Address) (rt : RoutingTableEntry) : DistanceVectorTable :=
  neighbors.foldl (eraseFakes ft (fakeDestinations neighbors ft nxtHp rt)) dvt

def updateDistanceVectorTable (neighbors : List Ipv4Address) (ft : EntryMap)
    (dvt : DistanceVectorTable) (nxtHp : Ipv4Address)
    (rt : RoutingTableEntry) : DistanceVectorTable :=
  let dvt := if ft.contains rt.destination then removeFakeRoutes neighbors ft dvt nxtHp rt else dvt
  if nxtHp ∈ neighbors ∧ dvt.contains nxtHp then
    -- the sender is a neighbour with a row: its update is not stored
    dvt
  else dvt.insert nxtHp (((dvt[nxtHp]?).getD ∅).insert rt.destination rt)

def refreshForwardingTable (dvt : DistanceVectorTable) (ft : EntryMap)
    (dst nxtHp : Ipv4Address) : EntryMap :=
  match dvt[nxtHp]? with
  | some row =>
    match row[dst]? with
    | some entry => ft.insert dst entry
    | none => ft
  | none => ft.insert dst (((ft[dst]?).getD (.default 0)).setRouteState .inactive)

/-- The body of the inner loop of `ComputeForwardingTable`, for one entry of a neighbour's row. -/
def computeEntry (dvt : DistanceVectorTable) (tables : EntryMap × List Ipv4Address)
    (dst : Ipv4Address) (newEntry : RoutingTableEntry) : EntryMap × List Ipv4Address :=
  let (ft, changes) := tables
  match ft[dst]? with
  | some oldEntry =>
    let ft := refreshForwardingTable dvt ft dst oldEntry.nextHop
    let currEntry := (ft[dst]?).getD (.default 0)
    if isBetterRoute newEntry currEntry then
      (ft.insert dst newEntry, if dst ∈ changes then changes ++ [dst] else changes)
    else if currEntry.hops ≠ oldEntry.hops ∨ currEntry.state ≠ oldEntry.state then
      (ft, if dst ∈ changes then changes ++ [dst] else changes)
    else (ft, changes)
  | none => (ft.insert dst newEntry, changes ++ [dst])

def computeRow (dvt : DistanceVectorTable) (tables : EntryMap × List Ipv4Address)
    (neighbor : Ipv4Address) : EntryMap × List Ipv4Address :=
  match dvt[neighbor]? with
  | none => tables
  | some row => row.foldl (computeEntry dvt) tables

/-- The new forwarding table and the list of changes that is returned. -/
def computeForwardingTable (mainAddress : Ipv4Address) (neighbors : List Ipv4Address)
    (dvt : DistanceVectorTable) (ft : EntryMap) : EntryMap × List Ipv4Address :=
  let tables := neighbors.foldl (computeRow dvt) (ft, [])
  (tables.1, tables.2.filter (· ≠ mainAddress))

end Bsdvr
