import Bsdvr.Proof.Invariant

namespace Bsdvr
open Foundation

/-! ## The names of route objects

An entry copied from a row shares its route object with it. Every object is named after the neighbour
it routes through, so the writes of `ProcessHello` reach no entry that routes through another one. -/

def naming (names : Nat → Ipv4Address) (fresh : Nat) : Contract where
  forwarding dst entry := entry.destination = dst ∧ entry.route.ref < fresh ∧
    names entry.route.ref = entry.nextHop
  stored neighbor dst route := route.destination = dst ∧ route.nextHop = neighbor ∧
    route.route.ref < fresh ∧
    names route.route.ref = neighbor
  known _ := False

def Node.Named (node : Node) : Prop := ∃ names, (naming names node.fresh).Holds node

theorem naming_closed (names : Nat → Ipv4Address) (fresh : Nat) (neighbors : List Ipv4Address) :
    (naming names fresh).Closed neighbors where
  adopt := by
    rintro neighbor _ dst route ⟨named, rfl, old, name⟩
    exact ⟨named, old, name⟩
  refresh := by
    rintro dst entry route _ ⟨named, through, old, name⟩ _
    exact ⟨named, old, name.trans through.symm⟩
  retire dst entry good _ _ := good

namespace Node.Named
variable {node : Node}

theorem forwarding (named : node.Named) {dst : Ipv4Address} {entry : RoutingTableEntry}
    (present : node.ft[dst]? = some entry) : entry.destination = dst := by
  obtain ⟨names, holds⟩ := named
  exact (holds.forwarding dst entry present).1

theorem stored (named : node.Named) {neighbor dst : Ipv4Address} {route : RoutingTableEntry}
    (found : node.dvt.entry neighbor dst = some route) :
    route.destination = dst ∧ route.nextHop = neighbor := by
  obtain ⟨names, holds⟩ := named
  obtain ⟨destination, through, _⟩ := holds.stored neighbor dst route found
  exact ⟨destination, through⟩

theorem congr {after : Node} (named : node.Named) (same : after.routingTable = node.routingTable)
    (fresh : after.fresh = node.fresh) : after.Named := by
  obtain ⟨names, holds⟩ := named
  exact ⟨names, fresh ▸ holds.congr same⟩

theorem rowsOwned (named : node.Named) : RowsOwned node.dvt :=
  fun _ _ _ found => (named.stored found).2

end Node.Named

theorem naming_extend {names : Nat → Ipv4Address} {fresh : Nat} {node : Node}
    (holds : (naming names fresh).Holds node) (name : Ipv4Address) :
    (naming (Function.update names fresh name) (fresh + 1)).Holds node := by
  have older {ref : Nat} (old : ref < fresh) : Function.update names fresh name ref = names ref :=
    Function.update_of_ne (by omega) _ _
  refine ⟨fun dst entry present => ?_, fun neighbor dst route found => ?_, fun _ => False.elim⟩
  · obtain ⟨destination, old, named⟩ := holds.forwarding dst entry present
    exact ⟨destination, by omega, by rwa [older old]⟩
  · obtain ⟨destination, through, old, named⟩ := holds.stored neighbor dst route found
    exact ⟨destination, through, by omega, by rwa [older old]⟩

/-! ## HELLO -/

def RoutingTableEntry.setOutputDevice (entry : RoutingTableEntry)
    (dev : Option NetDevice) : RoutingTableEntry :=
  { entry with route := { entry.route with outputDevice := dev } }

/-- What `ProcessHello` makes of the route to a neighbour that it finds. -/
def RoutingTableEntry.heardOn (toNeighbor : RoutingTableEntry) (origin : Ipv4Address) (dev : Option NetDevice)
    (iface : Ipv4InterfaceAddress) : RoutingTableEntry :=
  { toNeighbor with route := { toNeighbor.route with outputDevice := dev, gateway := origin }, iface, hops := 1 }

namespace Node
variable (node : Node) (origin receiver : Ipv4Address)

def helloEntry : RoutingTableEntry :=
  let index := node.getInterfaceForAddress receiver
  .make node.fresh index origin (node.getAddress index) 1 origin

/-- The node once `ProcessHello` has made sure that the neighbour has a row. -/
def ensureRow : Node := if node.dvt.contains origin then node else node.setRow origin ∅

def joined : Node :=
  { (node.ensureRow origin).setRow origin
      (((node.ensureRow origin).row origin).addRoute (node.helloEntry origin receiver)) with
    fresh := node.fresh + 1 }

variable {node origin receiver}

theorem ensureRow_frame (node : Node) (origin : Ipv4Address) :
    ∃ dvt : DistanceVectorTable, node.ensureRow origin = node.setDvt dvt ∧ (dvt[origin]?).isSome ∧
    (∀ neighbor : Ipv4Address, (node.dvt[neighbor]?).isSome → (dvt[neighbor]?).isSome) ∧
    ∀ neighbor dst, dvt.entry neighbor dst = node.dvt.entry neighbor dst := by
  unfold ensureRow
  split
  · rename_i present
    rw [Std.TreeMap.contains_eq_isSome_getElem?] at present
    exact ⟨node.dvt, rfl, present, fun _ => id, fun _ _ => rfl⟩
  · rename_i absent
    rw [Std.TreeMap.contains_eq_isSome_getElem?] at absent
    refine ⟨_, rfl, by simp, fun neighbor present => ?_, fun neighbor dst => ?_⟩
    · rw [getElem?_insert]
      split
      · rfl
      · exact present
    · rw [DistanceVectorTable.entry_insert]
      split
      · rename_i same
        subst same
        simp only [Bool.not_eq_true, Option.isSome_eq_false_iff, Option.isNone_iff_eq_none]
          at absent
        simp [DistanceVectorTable.entry, absent]
      · rfl

theorem lookupRoute_row : (node.row origin).lookupRoute origin = node.dvt.entry origin origin := by
  unfold row EntryMap.lookupRoute DistanceVectorTable.entry
  cases node.dvt[origin]? <;> simp

theorem exchangeHello_eq : node.exchangeHello origin receiver =
    match node.dvt.entry origin origin with
    | none => ((node.joined origin receiver).recompute.1,
        (node.joined origin receiver).recompute.1.sendTriggeredUpdateToNeighbor origin)
    | some toNeighbor => ((node.ensureRow origin).refreshNeighbor origin receiver toNeighbor,
        []) := by
  obtain ⟨dvt, frame, _, _, same⟩ := ensureRow_frame node origin
  have lookup : ((node.ensureRow origin).row origin).lookupRoute origin =
      node.dvt.entry origin origin := by
    rw [lookupRoute_row, frame]
    exact same origin origin
  have joins : (node.ensureRow origin).joinNeighbor origin receiver =
      ((node.joined origin receiver).recompute.1,
        (node.joined origin receiver).recompute.1.sendTriggeredUpdateToNeighbor origin) := by
    simp only [joinNeighbor, joined, helloEntry, frame]
    rfl
  show (match ((node.ensureRow origin).row origin).lookupRoute origin with
    | none => (node.ensureRow origin).joinNeighbor origin receiver
    | some toNeighbor => ((node.ensureRow origin).refreshNeighbor origin receiver toNeighbor, [])) =
        _
  rw [lookup, joins]

theorem joined_entry (absent : node.dvt.entry origin origin = none) (neighbor dst : Ipv4Address) :
    (node.joined origin receiver).dvt.entry neighbor dst =
      if neighbor = origin ∧ dst = origin then some (node.helloEntry origin receiver)
      else node.dvt.entry neighbor dst := by
  obtain ⟨dvt, frame, present, _, same⟩ := ensureRow_frame node origin
  have tables : (node.joined origin receiver).dvt =
      dvt.insert origin ((dvt[origin]?.getD ∅).insertIfNew origin
        (node.helloEntry origin receiver)) := by
    simp only [joined, frame]
    rfl
  obtain ⟨row, found⟩ := Option.isSome_iff_exists.mp present
  rw [tables, DistanceVectorTable.entry_insert, found, Option.getD_some, getElem?_insertIfNew]
  have entries (key : Ipv4Address) : row[key]? = node.dvt.entry origin key := by
    rw [← same, DistanceVectorTable.entry, found, Option.bind_some]
  by_cases here : neighbor = origin
  · subst here
    by_cases own : dst = neighbor
    · subst own
      simp [entries, absent]
    · simp [own, entries]
  · simp [here, same]

theorem joined_get {neighbor : Ipv4Address}
    (present : (node.dvt[neighbor]?).isSome ∨ neighbor = origin) :
    ((node.joined origin receiver).dvt[neighbor]?).isSome := by
  obtain ⟨dvt, frame, _, grows, _⟩ := ensureRow_frame node origin
  have tables : (node.joined origin receiver).dvt =
      dvt.insert origin ((dvt[origin]?.getD ∅).insertIfNew origin
        (node.helloEntry origin receiver)) := by
    simp only [joined, frame]
    rfl
  rw [tables, getElem?_insert]
  split
  · rfl
  · rename_i other
    exact grows _ (present.resolve_right other)

@[simp] theorem joined_ft : (node.joined origin receiver).ft = node.ft := by
  obtain ⟨dvt, frame, _⟩ := ensureRow_frame node origin
  simp only [joined, frame]
  rfl

theorem joined_frame (node : Node) (origin receiver : Ipv4Address) :
    ∃ table, node.joined origin receiver =
    { node with routingTable := table, fresh := node.fresh + 1 } := by
  obtain ⟨dvt, frame, _⟩ := ensureRow_frame node origin
  simp only [joined, frame]
  exact ⟨_, rfl⟩

theorem ensureRow_of_entry {toNeighbor : RoutingTableEntry}
    (found : node.dvt.entry origin origin = some toNeighbor) : node.ensureRow origin = node := by
  rw [ensureRow, if_pos]
  rw [Std.TreeMap.contains_eq_isSome_getElem?]
  exact entry_isSome_row found

def rewritten (node : Node) (receiver : Ipv4Address)
    (toNeighbor entry : RoutingTableEntry) : RoutingTableEntry :=
  if entry.route.ref = toNeighbor.route.ref then entry.setOutputDevice
    (node.getInterfaceForAddress receiver)
  else entry

theorem rewritten_frame (node : Node) (receiver : Ipv4Address)
    (toNeighbor entry : RoutingTableEntry) :
    ∃ outputDevice, node.rewritten receiver toNeighbor entry =
      { entry with route := { entry.route with outputDevice } } := by
  unfold rewritten
  split
  · exact ⟨_, rfl⟩
  · exact ⟨entry.route.outputDevice, rfl⟩

theorem writeRoute_eq {toNeighbor entry : RoutingTableEntry} {names : Nat → Ipv4Address}
    (name : names toNeighbor.route.ref = origin) (own : names entry.route.ref = entry.nextHop) :
    entry.writeRoute toNeighbor.route.ref (fun route =>
      { route with outputDevice := node.getInterfaceForAddress receiver, gateway := origin }) =
    node.rewritten receiver toNeighbor entry := by
  unfold RoutingTableEntry.writeRoute rewritten
  split
  · rename_i same
    have through : entry.route.gateway = origin := by
      rw [← name, ← same, own]
      rfl
    simp [RoutingTableEntry.setOutputDevice, ← through]
  · rfl

theorem refreshNeighbor_ft (named : node.Named) {toNeighbor : RoutingTableEntry}
    (found : node.dvt.entry origin origin = some toNeighbor) (dst : Ipv4Address) :
    (node.refreshNeighbor origin receiver toNeighbor).ft[dst]? =
      (node.ft[dst]?).map (node.rewritten receiver toNeighbor) := by
  obtain ⟨names, holds⟩ := named
  have name := (holds.stored _ _ _ found).2.2.2
  have table : (node.refreshNeighbor origin receiver toNeighbor).ft =
      node.ft.map fun _ entry => entry.writeRoute toNeighbor.route.ref fun route =>
        { route with outputDevice := node.getInterfaceForAddress receiver, gateway := origin } :=
        rfl
  rw [table, Std.TreeMap.getElem?_map]
  cases present : node.ft[dst]? with
  | none => rfl
  | some entry => simp [writeRoute_eq name (holds.forwarding _ _ present).2.2]

def written (node : Node) (origin receiver : Ipv4Address)
    (toNeighbor : RoutingTableEntry) : DistanceVectorTable :=
  node.dvt.map fun _ row => row.map fun _ entry =>
    entry.writeRoute toNeighbor.route.ref fun route =>
    { route with outputDevice := node.getInterfaceForAddress receiver, gateway := origin }

theorem written_entry (named : node.Named) {toNeighbor : RoutingTableEntry}
    (found : node.dvt.entry origin origin = some toNeighbor) (neighbor dst : Ipv4Address) :
    (node.written origin receiver toNeighbor).entry neighbor dst =
      (node.dvt.entry neighbor dst).map (node.rewritten receiver toNeighbor) := by
  obtain ⟨names, holds⟩ := named
  obtain ⟨_, _, _, name⟩ := holds.stored _ _ _ found
  rw [written, DistanceVectorTable.entry, Std.TreeMap.getElem?_map]
  cases row : node.dvt[neighbor]? with
  | none => simp [DistanceVectorTable.entry, row]
  | some entries =>
      simp only [Option.map_some, Option.bind_some, Std.TreeMap.getElem?_map,
        DistanceVectorTable.entry, row]
      cases present : entries[dst]? with
      | none => rfl
      | some entry =>
          have stored : node.dvt.entry neighbor dst = some entry := by
            simp [DistanceVectorTable.entry, row, present]
          obtain ⟨_, through, _, own⟩ := holds.stored _ _ _ stored
          rw [Option.map_some, Option.map_some, writeRoute_eq name (own.trans through.symm)]

theorem refreshNeighbor_entry (named : node.Named) {toNeighbor : RoutingTableEntry}
    (found : node.dvt.entry origin origin = some toNeighbor) (neighbor dst : Ipv4Address) :
    (node.refreshNeighbor origin receiver toNeighbor).dvt.entry neighbor dst =
      if neighbor = origin ∧ dst = origin then
        some (toNeighbor.heardOn origin (node.getInterfaceForAddress receiver)
          (node.getAddress (node.getInterfaceForAddress receiver)))
      else (node.dvt.entry neighbor dst).map (node.rewritten receiver toNeighbor) := by
  have entries := @written_entry node origin receiver named toNeighbor found
  obtain ⟨_, holds⟩ := named
  set heard := toNeighbor.heardOn origin (node.getInterfaceForAddress receiver)
    (node.getAddress (node.getInterfaceForAddress receiver)) with hheard
  have destination : heard.destination = origin := (holds.stored _ _ _ found).1
  have table : (node.refreshNeighbor origin receiver toNeighbor).dvt =
      (node.written origin receiver toNeighbor).insert origin
        (((node.written origin receiver toNeighbor)[origin]?.getD ∅).update heard) := rfl
  have itself := entries origin origin
  rw [found, Option.map_some] at itself
  obtain ⟨row, present, listed⟩ := Option.bind_eq_some_iff.mp itself
  have contained : row.contains origin = true := by
    rw [Std.TreeMap.contains_eq_isSome_getElem?, listed, Option.isSome_some]
  rw [table, DistanceVectorTable.entry_insert, present, Option.getD_some, EntryMap.update, destination,
    if_pos contained, getElem?_insert]
  by_cases here : neighbor = origin
  · subst here
    by_cases own : dst = neighbor
    · simp [own]
    · have unchanged := entries neighbor dst
      rw [DistanceVectorTable.entry, present, Option.bind_some] at unchanged
      simp [own, unchanged]
  · simp [here, entries]

/-- Neighbours stay joined, and the sender of a HELLO is one of them afterwards. -/
theorem exchangeHello_joined (named : node.Named) (n : Ipv4Address) :
    ((node.exchangeHello origin receiver).1.dvt.entry n n).isSome ↔ (node.dvt.entry n n).isSome ∨
    n = origin := by
  rw [exchangeHello_eq]
  cases found : node.dvt.entry origin origin with
  | none =>
      simp only [recompute_dvt, joined_entry found]
      by_cases own : n = origin
      · simp [own]
      · simp [own]
  | some toNeighbor =>
      simp only [ensureRow_of_entry found, refreshNeighbor_entry named found]
      by_cases own : n = origin
      · simp [own]
      · simp [own]

theorem refreshNeighbor_get {toNeighbor : RoutingTableEntry} {neighbor : Ipv4Address}
    (present : (node.dvt[neighbor]?).isSome) :
    ((node.refreshNeighbor origin receiver toNeighbor).dvt[neighbor]?).isSome := by
  show ((Std.TreeMap.insert (Std.TreeMap.map _ node.dvt) origin _ :
    DistanceVectorTable)[neighbor]?).isSome
  rw [getElem?_insert]
  split
  · rfl
  · simpa [Std.TreeMap.getElem?_map] using present

end Node

namespace Contract
variable {contract : Contract} {node : Node} {origin receiver : Ipv4Address}

structure Rewrites (contract : Contract) (node : Node) (origin receiver : Ipv4Address) : Prop where
  heard : ∀ toNeighbor, contract.stored origin origin toNeighbor → contract.stored origin origin
    (toNeighbor.heardOn origin (node.getInterfaceForAddress receiver)
      (node.getAddress (node.getInterfaceForAddress receiver)))
  forwarding : ∀ toNeighbor, contract.stored origin origin toNeighbor → ∀ dst entry,
    contract.forwarding dst entry → contract.forwarding dst
    (node.rewritten receiver toNeighbor entry)
  stored : ∀ toNeighbor, contract.stored origin origin toNeighbor → ∀ neighbor dst entry,
    contract.stored neighbor dst entry →
    contract.stored neighbor dst (node.rewritten receiver toNeighbor entry)

structure Admits (contract : Contract) (node : Node) (origin receiver : Ipv4Address) : Prop
    extends contract.Rewrites node origin receiver where
  join : contract.stored origin origin (node.helloEntry origin receiver)

def except (contract : Contract) (origin : Ipv4Address) : Contract :=
  { contract with known := fun neighbor => contract.known neighbor ∧ neighbor ≠ origin }

theorem Holds.except (holds : contract.Holds node) : (contract.except origin).Holds node :=
  ⟨holds.forwarding, holds.stored, fun neighbor known => holds.known neighbor known.1⟩

theorem Holds.joined (holds : (contract.except origin).Holds node) (receiver : Ipv4Address)
    (join : contract.stored origin origin (node.helloEntry origin receiver))
    (absent : node.dvt.entry origin origin = none) :
    contract.Holds (node.joined origin receiver) := by
  refine ⟨fun dst entry present => ?_, fun neighbor dst route found => ?_, fun neighbor known => ?_⟩
  · exact holds.forwarding dst entry (by simpa using present)
  · rw [Node.joined_entry absent] at found
    split at found
    · rename_i here
      obtain ⟨rfl, rfl⟩ := here
      rw [← Option.some.inj found]
      exact join
    · exact holds.stored _ _ _ found
  · by_cases own : neighbor = origin
    · exact Node.joined_get (.inr own)
    · exact Node.joined_get (.inl (holds.known neighbor ⟨known, own⟩))

theorem Holds.refreshed (holds : contract.Holds node) (named : node.Named)
    (rewrites : contract.Rewrites node origin receiver) {toNeighbor : RoutingTableEntry}
    (found : node.dvt.entry origin origin = some toNeighbor) :
    contract.Holds (node.refreshNeighbor origin receiver toNeighbor) := by
  have own := holds.stored _ _ _ found
  refine ⟨fun dst entry present => ?_, fun neighbor dst route listed => ?_,
    fun neighbor known => ?_⟩
  · rw [Node.refreshNeighbor_ft named found] at present
    obtain ⟨old, there, rfl⟩ := Option.map_eq_some_iff.mp present
    exact rewrites.forwarding toNeighbor own dst old (holds.forwarding _ _ there)
  · rw [Node.refreshNeighbor_entry named found] at listed
    split at listed
    · rename_i here
      obtain ⟨rfl, rfl⟩ := here
      rw [← Option.some.inj listed]
      exact rewrites.heard toNeighbor own
    · obtain ⟨old, there, rfl⟩ := Option.map_eq_some_iff.mp listed
      exact rewrites.stored toNeighbor own neighbor dst old (holds.stored _ _ _ there)
  · exact Node.refreshNeighbor_get (holds.known neighbor known)

def exchanges (node : Node) (origin ne dst : Ipv4Address) : Prop :=
  ne = origin ∧ dst ≠ node.mainAddress ∧ dst ≠ ne ∧ dst ≠ loopback

theorem Holds.exchangeHello (holds : (contract.except origin).Holds node) (named : node.Named)
    (closed : contract.Closed node.neighbors) (admits : contract.Admits node origin receiver) :
    contract.Respects node (exchanges node origin) (node.exchangeHello origin receiver) := by
  rw [Node.exchangeHello_eq]
  cases found : node.dvt.entry origin origin with
  | none =>
      obtain ⟨table, frame⟩ := Node.joined_frame node origin receiver
      have recomputed := (holds.joined receiver admits.join found).recompute (by rwa [frame])
      refine ⟨recomputed, fun sent member => ?_⟩
      obtain ⟨dst, entry, present, _, main, apart, remote, rfl⟩ :=
        Node.mem_sendTriggeredUpdateToNeighbor.mp member
      rw [frame] at main
      exact ⟨origin, dst, entry, recomputed.forwarding dst entry present,
        ⟨rfl, main, apart, remote⟩,
        by rw [frame]; rfl⟩
  | some toNeighbor =>
      rw [Node.ensureRow_of_entry found]
      have whole : contract.Holds node := by
        refine ⟨holds.forwarding, holds.stored, fun neighbor known => ?_⟩
        by_cases own : neighbor = origin
        · exact own ▸ entry_isSome_row found
        · exact holds.known neighbor ⟨known, own⟩
      exact ⟨whole.refreshed named admits.toRewrites found, by simp⟩

theorem Admits.frame (admits : contract.Admits node origin receiver) {table : RoutingTable}
    {nb : Neighbors} :
    contract.Admits { node with routingTable := table, nb := nb } origin receiver :=
  ⟨⟨admits.heard, admits.forwarding, admits.stored⟩, admits.join⟩

end Contract

theorem Node.updateNeighbors_frame (node : Node) (addr : Ipv4Address) (expire : Time)
    (hardware : Mac48Address) :
    ∃ table nb, (node.updateNeighbors addr expire hardware).1 =
      { node with routingTable := table, nb := nb } ∧
      ∀ ne ∈ nb.addresses, ne ∈ node.neighborsWith addr := by
  unfold Node.updateNeighbors
  split
  · rename_i present
    refine ⟨node.routingTable, _, rfl, fun ne member => ?_⟩
    rw [Neighbors.addresses_extend] at member
    rwa [Node.neighborsWith, if_pos present]
  · rename_i absent
    obtain ⟨table, frame⟩ := Node.purgeNeighbors_frame
      { node with nb := node.nb ++ [⟨addr, hardware, expire + node.now, false⟩] }
    refine ⟨table, _, frame, fun ne member => ?_⟩
    have listed := Node.dropClosed_neighbors
      { node with nb := node.nb ++ [⟨addr, hardware, expire + node.now, false⟩] } member
    rw [Node.neighborsWith, if_neg absent]
    rwa [Node.neighbors, Neighbors.addresses_append] at listed

theorem naming_rewrites {names : Nat → Ipv4Address} {fresh : Nat} (node : Node)
    (origin receiver : Ipv4Address) :
    (naming names fresh).Rewrites node origin receiver where
  heard := by
    rintro toNeighbor ⟨destination, _, old, name⟩
    exact ⟨destination, rfl, old, name⟩
  forwarding := by
    rintro toNeighbor _ dst entry good
    obtain ⟨outputDevice, frame⟩ := node.rewritten_frame receiver toNeighbor entry
    rwa [frame]
  stored := by
    rintro toNeighbor _ neighbor dst entry good
    obtain ⟨outputDevice, frame⟩ := node.rewritten_frame receiver toNeighbor entry
    rwa [frame]

theorem Node.Named.exchangeHello {node : Node} (named : node.Named)
    (origin receiver : Ipv4Address) :
    (node.exchangeHello origin receiver).1.Named := by
  obtain ⟨names, holds⟩ := named
  rw [Node.exchangeHello_eq]
  cases found : node.dvt.entry origin origin with
  | none =>
      obtain ⟨table, frame⟩ := Node.joined_frame node origin receiver
      have joined := (naming_extend holds origin).except.joined receiver
        ⟨rfl, rfl, Nat.lt_succ_self _, Function.update_self _ _ _⟩ found
      have fresh : (node.joined origin receiver).recompute.1.fresh = node.fresh + 1 := by
        show (node.joined origin receiver).fresh = node.fresh + 1
        rw [frame]
      exact ⟨_, fresh ▸ joined.recompute (naming_closed _ _ _)⟩
  | some toNeighbor =>
      rw [Node.ensureRow_of_entry found]
      exact ⟨names, holds.refreshed ⟨names, holds⟩ (naming_rewrites node origin receiver) found⟩

theorem Node.Named.updateNeighbors {node : Node} (named : node.Named) (addr : Ipv4Address)
    (expire : Time) (hardware : Mac48Address) :
    (node.updateNeighbors addr expire hardware).1.Named := by
  obtain ⟨names, holds⟩ := named
  obtain ⟨table, nb, frame, _⟩ := Node.updateNeighbors_frame node addr expire hardware
  have fresh : (node.updateNeighbors addr expire hardware).1.fresh = node.fresh := by rw [frame]
  exact ⟨names, fresh ▸ (holds.updateNeighbors addr expire hardware (naming_closed _ _ _)).holds⟩

/-! ## The handlers -/

namespace Node
variable {node : Node}

def heardNeighbors (node : Node) (origin : Ipv4Address) : List Ipv4Address :=
  if node.enableHello then node.neighborsWith origin else node.neighbors

def helloTells (node : Node) (origin ne dst : Ipv4Address) : Prop :=
  Contract.exchanges node origin ne dst ∨
    (ne ∈ node.heardNeighbors origin ∧ dst ≠ ne ∧ dst ≠ node.mainAddress ∧ node.ft[dst]? = none)

theorem Named.processHello (named : node.Named) (header : HelloHeader) (receiver : Ipv4Address)
    (hardware : Mac48Address) : (node.processHello header receiver hardware).1.Named := by
  unfold Node.processHello
  split
  · exact (named.updateNeighbors _ _ _).exchangeHello _ _
  · exact named.exchangeHello _ _

end Node

theorem Contract.Holds.processHello {contract : Contract} {node : Node}
    (holds : contract.Holds node) (named : node.Named) (header : HelloHeader)
    (receiver : Ipv4Address) (hardware : Mac48Address)
    (closed : contract.Closed (node.heardNeighbors header.origin))
    (admits : contract.Admits node header.origin receiver) :
    contract.Respects node (node.helloTells header.origin)
    (node.processHello header receiver hardware) := by
  unfold Node.processHello
  by_cases enabled : node.enableHello
  · rw [Node.heardNeighbors, if_pos enabled] at closed
    have updated := holds.updateNeighbors header.origin node.helloInterval hardware closed
    obtain ⟨table, nb, frame, listed⟩ :=
      Node.updateNeighbors_frame node header.origin node.helloInterval hardware
    have exchanged := updated.holds.except.exchangeHello (named.updateNeighbors _ _ _)
      (by rw [frame]; exact closed.subset listed) (frame ▸ admits.frame)
    simp only [enabled, ↓reduceIte]
    refine ⟨exchanged.holds, fun sent member => ?_⟩
    rcases List.mem_append.mp member with first | second
    · obtain ⟨ne, dst, entry, good, tells, same⟩ := updated.sends sent first
      refine ⟨ne, dst, entry, good, .inr ?_, same⟩
      rwa [Node.heardNeighbors, if_pos enabled]
    · obtain ⟨ne, dst, entry, good, tells, same⟩ := exchanged.sends sent second
      rw [frame] at tells same
      exact ⟨ne, dst, entry, good, .inl tells, same⟩
  · rw [Node.heardNeighbors, if_neg enabled] at closed
    have exchanged := holds.except.exchangeHello named closed admits
    simp only [enabled]
    refine ⟨exchanged.holds, fun sent member => ?_⟩
    obtain ⟨ne, dst, entry, good, tells, same⟩ := exchanged.sends sent (by simpa using member)
    exact ⟨ne, dst, entry, good, .inl tells, same⟩

end Bsdvr
