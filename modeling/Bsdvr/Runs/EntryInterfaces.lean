import Bsdvr.Runs.Sockets

namespace Bsdvr
open Foundation

namespace Node
variable {node : Node} {event : Event}

/-! ## Source, device and interface -/

/-- The source address, the output device and the interface address of an entry belong to one
interface. -/
def OnOneInterface (node : Node) (entry : RoutingTableEntry) : Prop :=
  ∃ i, node.interfaces[i]? = some entry.iface ∧ entry.route.outputDevice = some i ∧
    entry.route.source = entry.iface.localAddress

/-- A HELLO that finds a route to its origin is heard on the interface of that route. -/
def HeardInPlace (node : Node) : Event → Prop
  | .recv socket _ (.hello header) _ => header.dst = header.origin →
      ∀ toNeighbor ∈ node.dvt.entry header.origin header.origin,
        (node.receiver socket).map node.ifaceOf = some toNeighbor.iface
  | _ => True

instance (node : Node) (event : Event) : Decidable (node.HeardInPlace event) :=
  match event with
  | .recv _ _ (.hello header) _ =>
      inferInstanceAs (Decidable (_ → ∀ toNeighbor ∈ node.dvt.entry header.origin header.origin, _))
  | .recv _ _ (.update _) _ | .purge | .txError _ | .interfaceUp _ | .interfaceDown _ | .elapse _ =>
      instDecidableTrue

def Housed (node : Node) : Prop :=
  ∀ entry ∈ node.socketAddresses ++ node.socketSubnetBroadcastAddresses, entry.2 ∈ node.interfaces

theorem lookup_mem {sockets : List (Socket × Ipv4InterfaceAddress)} {socket : Socket}
    {iface : Ipv4InterfaceAddress} (found : sockets.lookup socket = some iface) :
    (socket, iface) ∈ sockets := by
  induction sockets with
  | nil => cases found
  | cons entry rest ih =>
      rw [List.lookup_cons] at found
      split at found
      · rename_i same
        rw [← Option.some.inj found, eq_of_beq same]
        exact List.mem_cons_self
      · exact List.mem_cons_of_mem _ (ih found)

theorem Housed.ifaceOf (housed : node.Housed) {socket : Socket} {my : Ipv4Address}
    (received : node.receiver socket = some my) :
    ∃ i, node.getInterfaceForAddress my = some i ∧ node.interfaces[i]? =
      some (node.ifaceOf my) := by
  obtain ⟨iface, found, rfl⟩ := Option.map_eq_some_iff.mp received
  have member : iface ∈ node.interfaces := by
    rcases Option.or_eq_some_iff.mp found with unicast | ⟨_, broadcast⟩
    · exact housed _ (List.mem_append_left _ (lookup_mem unicast))
    · exact housed _ (List.mem_append_right _ (lookup_mem broadcast))
  have known : (node.getInterfaceForAddress iface.localAddress).isSome := by
    rw [getInterfaceForAddress, List.findIdx?_isSome, List.any_eq_true]
    exact ⟨iface, member, by simp⟩
  obtain ⟨i, index⟩ := Option.isSome_iff_exists.mp known
  refine ⟨i, index, ?_⟩
  obtain ⟨bound, _⟩ := List.findIdx?_eq_some_iff_getElem.mp index
  rw [Node.ifaceOf, index, getAddress, Option.bind_some, List.getElem?_eq_getElem bound,
    Option.getD_some]

theorem SameSetup.housed {after : Node} (same : node.SameSetup after)
    (housed : node.Housed) : after.Housed := by
  unfold Housed
  rw [same.socketAddresses, same.socketSubnetBroadcastAddresses, same.interfaces]
  exact housed

theorem notifyInterfaceDown_fewer {i : Nat} {entry : Socket × Ipv4InterfaceAddress}
    (member : entry ∈ (node.notifyInterfaceDown i).socketAddresses ++
      (node.notifyInterfaceDown i).socketSubnetBroadcastAddresses) :
    entry ∈ node.socketAddresses ++ node.socketSubnetBroadcastAddresses := by
  unfold notifyInterfaceDown at member
  simp only at member
  split at member
  · exact (List.mem_append.mp member).elim
      (fun kept => List.mem_append_left _ (List.mem_of_mem_filter kept))
      fun kept => List.mem_append_right _ (List.mem_of_mem_filter kept)
  · exact (List.mem_append.mp member).elim
      (fun kept => List.mem_append_left _ (List.mem_of_mem_filter kept))
      fun kept => List.mem_append_right _ (List.mem_of_mem_filter kept)

theorem Housed.handle (housed : node.Housed) (event : Event) (possible : node.Enabled event) :
    (node.handle event).1.Housed := by
  by_cases up : ∃ i, event = .interfaceUp i
  · obtain ⟨i, rfl⟩ := up
    have own : node.getAddress (some i) ∈ node.interfaces := by
      rw [getAddress, Option.bind_some, List.getElem?_eq_getElem possible.1]
      exact List.get_mem _ ⟨i, possible.1⟩
    intro entry member
    simp only [Node.handle] at member ⊢
    unfold notifyInterfaceUp at member ⊢
    simp only at member ⊢
    split at member
    · rename_i lo
      rw [if_pos lo]
      exact housed entry member
    · rename_i real
      rw [if_neg real]
      simp only [List.mem_append, List.mem_singleton] at member
      rcases member with (old | rfl) | old | rfl
      · exact housed entry (List.mem_append_left _ old)
      · exact own
      · exact housed entry (List.mem_append_right _ old)
      · exact own
  · by_cases down : ∃ i, event = .interfaceDown i
    · obtain ⟨i, rfl⟩ := down
      intro entry member
      simp only [Node.handle, (notifyInterfaceDown_sockets node i).1]
      exact housed entry (notifyInterfaceDown_fewer member)
    · exact (handle_setup event (fun i same => up ⟨i, same⟩) fun i same =>
        down ⟨i, same⟩).housed housed

/-! ## Route objects belong to one entry of the rows -/

def objects (node : Node) (names : Nat → Ipv4Address × Ipv4Address)
    (fits : Ipv4Address → Ipv4Address → Ipv4InterfaceAddress → Prop) : Contract where
  forwarding _ _ := True
  stored neighbor dst route := names route.route.ref = (neighbor, dst) ∧ node.OnOneInterface route ∧
    fits neighbor dst route.iface
  known _ := False

theorem objects_closed {names : Nat → Ipv4Address × Ipv4Address}
    {fits : Ipv4Address → Ipv4Address → Ipv4InterfaceAddress → Prop}
    (neighbors : List Ipv4Address) :
    (node.objects names fits).Closed neighbors :=
  ⟨fun _ _ _ _ _ => trivial, fun _ _ _ _ _ _ => trivial, fun _ _ _ _ _ => trivial⟩

theorem objects_admits {names : Nat → Ipv4Address × Ipv4Address} {origin my : Ipv4Address} {i : Nat}
    (index : node.getInterfaceForAddress my = some i)
    (there : node.interfaces[i]? = some (node.ifaceOf my))
    (named : names node.fresh = (origin, origin)) :
    (node.objects names fun neighbor dst iface => neighbor = origin → dst = origin →
      iface = node.ifaceOf my).Admits
      node origin my where
  heard := by
    rintro toNeighbor ⟨name, ⟨_, _, _, source⟩, place⟩
    refine ⟨name, ⟨i, ?_, index, ?_⟩, fun _ _ => rfl⟩
    · exact there
    · show toNeighbor.route.source = (node.ifaceOf my).localAddress
      rw [source, place rfl rfl]
  forwarding := by
    intros
    trivial
  stored := by
    rintro toNeighbor ⟨name, _, _⟩ neighbor dst entry ⟨other, ⟨j, on, device, source⟩, place⟩
    unfold rewritten
    split
    · rename_i shared
      -- the object of `toNeighbor` is held by no other entry
      rw [shared, name] at other
      obtain ⟨rfl, rfl⟩ := Prod.mk.inj other
      have here := place rfl rfl
      exact ⟨by rw [← name]; exact congrArg names shared,
        ⟨i, by rw [there]; exact congrArg some here.symm, index, source⟩, fun _ _ => here⟩
    · exact ⟨other, ⟨j, on, device, source⟩, place⟩
  join := by
    refine ⟨named, ⟨i, there, index, rfl⟩, fun _ _ => rfl⟩

/-- Every entry of the rows is on one interface, and shares its route object with no other one. -/
def EntriesPlaced (node : Node) : Prop := ∃ names, (node.objects names fun _ _ _ => True).Holds node

theorem objects_extend {names : Nat → Ipv4Address × Ipv4Address} (named : node.Named)
    (fits : Ipv4Address → Ipv4Address → Ipv4InterfaceAddress → Prop)
    (holds : (node.objects names fun _ _ _ => True).Holds node)
    (good : ∀ neighbor dst route, node.dvt.entry neighbor dst = some route →
      fits neighbor dst route.iface)
    (name : Ipv4Address × Ipv4Address) :
    (node.objects (Function.update names node.fresh name) fits).Holds node := by
  obtain ⟨_, refs⟩ := named
  refine ⟨fun _ _ _ => trivial, fun neighbor dst route found => ?_, fun _ => False.elim⟩
  obtain ⟨other, placed, _⟩ := holds.stored neighbor dst route found
  have old : route.route.ref < node.fresh := (refs.stored neighbor dst route found).2.2.1
  refine ⟨?_, placed, good neighbor dst route found⟩
  rw [Function.update_of_ne (by omega)]
  exact other

theorem EntriesPlaced.congr {after : Node} {names : Nat → Ipv4Address × Ipv4Address}
    {fits : Ipv4Address → Ipv4Address → Ipv4InterfaceAddress → Prop}
    (holds : (node.objects names fits).Holds after)
    (same : after.interfaces = node.interfaces) : after.EntriesPlaced := by
  refine ⟨names, fun _ _ _ => trivial, fun neighbor dst route found => ?_, fun _ => False.elim⟩
  obtain ⟨name, placed, _⟩ := holds.stored neighbor dst route found
  refine ⟨name, ?_, trivial⟩
  unfold OnOneInterface
  rwa [same]

theorem handle_interfaces (event : Event) : (node.handle event).1.interfaces = node.interfaces := by
  by_cases up : ∃ i, event = .interfaceUp i
  · obtain ⟨i, rfl⟩ := up
    exact (notifyInterfaceUp_sockets node i).1
  · by_cases down : ∃ i, event = .interfaceDown i
    · obtain ⟨i, rfl⟩ := down
      exact (notifyInterfaceDown_sockets node i).1
    · exact (handle_setup event (fun i same => up ⟨i, same⟩) fun i same =>
        down ⟨i, same⟩).interfaces

theorem EntriesPlaced.handle (placed : node.EntriesPlaced) (named : node.Named) (housed : node.Housed)
    (inPlace : node.HeardInPlace event) : (node.handle event).1.EntriesPlaced := by
  obtain ⟨names, holds⟩ := placed
  cases event using handle_cases node with
  | ignored socket sender message hardware same =>
      rw [same]
      exact ⟨names, holds⟩
  | hello socket sender header hardware my received proper same =>
      obtain ⟨i, index, there⟩ := housed.ifaceOf received
      have fits : ∀ neighbor dst route, node.dvt.entry neighbor dst = some route →
          neighbor = header.origin → dst = header.origin → route.iface = node.ifaceOf my := by
        rintro neighbor dst route found rfl rfl
        have heard := inPlace proper route found
        rw [received] at heard
        exact (Option.some.inj heard).symm
      have extended := objects_extend named
        (fun neighbor dst iface => neighbor = header.origin → dst = header.origin → iface = node.ifaceOf my)
        holds fits (header.origin, header.origin)
      refine EntriesPlaced.congr (extended.handle named _ ?_).holds (handle_interfaces _)
      intro my' received' _
      obtain rfl := Option.some.inj (received.symm.trans received')
      exact ⟨objects_closed _, objects_admits index there (Function.update_self _ _ _)⟩
  | update socket sender header hardware my received same =>
      obtain ⟨i, index, there⟩ := housed.ifaceOf received
      have extended := objects_extend named (fun _ _ _ => True) holds (fun _ _ _ _ => trivial) (sender, header.dst)
      refine EntriesPlaced.congr (extended.handle named _ ?_).holds (handle_interfaces _)
      intro my' received'
      obtain rfl := Option.some.inj (received.symm.trans received')
      exact ⟨objects_closed _, fun _ => ⟨Function.update_self _ _ _, ⟨i, there, index, rfl⟩, trivial⟩⟩
  | purge => exact EntriesPlaced.congr (holds.handle named .purge (objects_closed _)).holds (handle_interfaces _)
  | txError hardware =>
      exact EntriesPlaced.congr (holds.handle named (.txError hardware) (objects_closed _)).holds (handle_interfaces _)
  | interfaceUp i =>
      exact EntriesPlaced.congr (holds.handle named (.interfaceUp i) fun _ => trivial).holds (handle_interfaces _)
  | interfaceDown i =>
      exact EntriesPlaced.congr (holds.handle named (.interfaceDown i) trivial).holds (handle_interfaces _)
  | elapse duration =>
      exact EntriesPlaced.congr (holds.handle named (.elapse duration) trivial).holds (handle_interfaces _)

section Run
variable {interfaces : List Ipv4InterfaceAddress} {enableHello : Bool} {helloInterval : Time}
  {maxPRQueueLen : BitVec 32} {maxPRQueueTime : Time} {state : Node}

/-- In a run in which neighbours are heard where they were heard before, the entries of the rows are
consistent. -/
theorem entriesOnOneInterface_of_heardInPlace
    (reach : Reach next HeardInPlace (initial interfaces enableHello helloInterval maxPRQueueLen maxPRQueueTime) state)
    (neighbor dst : Ipv4Address) (route : RoutingTableEntry)
    (found : state.dvt.entry neighbor dst = some route) :
    state.OnOneInterface route := by
  have housed : (initial interfaces enableHello helloInterval maxPRQueueLen
      maxPRQueueTime).Housed := by
    intro entry member
    exact absurd member List.not_mem_nil
  have placed : (initial interfaces enableHello helloInterval maxPRQueueLen
      maxPRQueueTime).EntriesPlaced := by
    refine ⟨fun _ => (0, 0), fun _ _ _ => trivial, fun neighbor dst route found => ?_,
      fun _ => False.elim⟩
    simp [initial_dvt, DistanceVectorTable.entry] at found
  have all : state.Named ∧ state.Housed ∧ state.EntriesPlaced := by
    refine reach.invariant (P := fun state => state.Named ∧ state.Housed ∧ state.EntriesPlaced)
      ⟨initial_named _ _ _ _ _, housed, placed⟩ ?_
    rintro before event after ⟨named, housed, placed⟩ inPlace taken
    obtain ⟨possible, rfl⟩ := next_eq_some taken
    exact ⟨named.handle event, housed.handle event possible, placed.handle named housed inPlace⟩
  obtain ⟨_, _, _, holds⟩ := all
  exact (holds.stored neighbor dst route found).2.1

end Run

theorem entriesOnOneInterface_of_heardInPlace_twoInterfaces : ∃ state route,
    Reach next HeardInPlace twoInterfaces state ∧
      state.dvt.entry 0x0a010202#32 0x0a010202#32 = some route ∧
    state.OnOneInterface route := by
  -- 10.1.2.2 is heard twice on one interface and tells of 10.1.2.9 on the other one
  obtain ⟨state, reach, checked⟩ := exists_reach_of_follow next HeardInPlace twoInterfaces
    [.interfaceUp 1, .interfaceUp 2,
      .recv ⟨5, 2, 0x0a010301#32⟩ 0x0a010202#32 (.update ⟨0x0a010202#32, 0x0a010209#32, 1, 1⟩) 0,
      hello1 0x0a010202#32, hello1 0x0a010202#32]
    (fun state => (state.dvt.entry 0x0a010202#32 0x0a010202#32).isSome) (by decide +kernel)
  obtain ⟨route, found⟩ := Option.isSome_iff_exists.mp checked
  exact ⟨state, route, reach, found, entriesOnOneInterface_of_heardInPlace reach _ _ route found⟩

theorem not_entriesOnOneInterface_twoInterfaces :
    ∃ state, Reach next (fun _ _ => True) twoInterfaces state ∧
    ¬(∀ neighbor dst route, state.dvt.entry neighbor dst = some route →
      state.OnOneInterface route) := by
  -- 10.1.2.2 is heard on the first interface and then on the second: the source address stays that
  -- of the first
  obtain ⟨state, reach, checked⟩ := exists_reach_of_follow next (fun _ _ => True) twoInterfaces
    [.interfaceUp 1, .interfaceUp 2, hello1 0x0a010202#32, hello2 0x0a010202#32]
    (fun state => (state.dvt.entry 0x0a010202#32 0x0a010202#32).any fun route =>
      route.route.source ≠ route.iface.localAddress) (by decide +kernel)
  simp only [Option.any_eq_true, decide_eq_true_eq] at checked
  obtain ⟨route, found, apart⟩ := checked
  refine ⟨state, reach, fun consistent => ?_⟩
  obtain ⟨_, _, _, source⟩ := consistent _ _ route found
  exact apart source

end Node

end Bsdvr
