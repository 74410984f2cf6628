import Bsdvr.Runs.Considered

namespace Bsdvr
open Foundation

namespace Node

def devices (node : Node) (neighbors : List Ipv4Address) : List (Ipv4Address × Option NetDevice) :=
  (node.ft.toList.map fun (dst, entry) => (dst, entry.route.outputDevice)) ++
    (neighbors.flatMap fun neighbor => (node.row neighbor).toList.map fun (dst, route) =>
      (dst, route.route.outputDevice)) ++
    node.ft.toList.filterMap fun (dst, entry) =>
      (node.dvt.entry entry.nextHop dst).map fun route => (dst, route.route.outputDevice)

/-- The destinations and output devices that the routes of the forwarding table may have once a
message is handled. -/
def outlets (node : Node) : Event → List (Ipv4Address × Option NetDevice)
  | .recv socket _ (.hello header) _ =>
      if header.dst = header.origin then
        ((node.receiver socket).toList.map fun my => (header.origin,
          node.getInterfaceForAddress my)) ++
          node.devices (node.heardNeighbors header.origin)
      else node.devices []
  | .recv socket sender (.update header) _ =>
      -- the UPDATE of a neighbour that has a row is not stored
      (if ¬(sender ∈ node.neighbors ∧ (node.dvt[sender]?).isSome) ∧
        node.uses node.neighbors sender header.dst then
        (node.receiver socket).toList.map fun my => (header.dst, node.getInterfaceForAddress my)
          else []) ++
        node.devices node.neighbors
  | _ => []

variable {node : Node} {neighbors : List Ipv4Address}

theorem mem_devices_ft {dst : Ipv4Address} {entry : RoutingTableEntry}
    (present : node.ft[dst]? = some entry) :
    (dst, entry.route.outputDevice) ∈ node.devices neighbors := by
  refine List.mem_append_left _ (List.mem_append_left _ ?_)
  exact List.mem_map.mpr ⟨(dst, entry), Std.TreeMap.mem_toList_iff_getElem?_eq_some.mpr present,
    rfl⟩

theorem mem_devices_row {neighbor dst : Ipv4Address} {route : RoutingTableEntry}
    (found : node.dvt.entry neighbor dst = some route) (used : node.uses neighbors neighbor dst) :
    (dst, route.route.outputDevice) ∈ node.devices neighbors := by
  rcases used with listed | ⟨entry, present, rfl⟩
  · refine List.mem_append_left _ (List.mem_append_right _ ?_)
    exact List.mem_flatMap.mpr ⟨neighbor, listed,
      List.mem_map.mpr ⟨(dst, route), mem_row.mpr found, rfl⟩⟩
  · refine List.mem_append_right _ (List.mem_filterMap.mpr
      ⟨(dst, entry), Std.TreeMap.mem_toList_iff_getElem?_eq_some.mpr present, ?_⟩)
    simp only [found, Option.map_some]

/-! ## Route objects belong to one destination -/

def leaving (node : Node) (P : Ipv4Address → Option NetDevice → Prop) (names : Nat → Ipv4Address)
    (neighbors : List Ipv4Address) : Contract where
  forwarding dst entry := names entry.route.ref = dst ∧ P dst entry.route.outputDevice ∧
    node.uses neighbors entry.nextHop dst
  stored neighbor dst route := names route.route.ref = dst ∧ route.nextHop = neighbor ∧
    (node.uses neighbors neighbor dst → P dst route.route.outputDevice)
  known _ := False

section Leaving
variable {P : Ipv4Address → Option NetDevice → Prop} {names : Nat → Ipv4Address}

theorem leaving_closed : (node.leaving P names neighbors).Closed neighbors where
  adopt := by
    rintro neighbor listed dst route ⟨name, rfl, good⟩
    exact ⟨name, good (.inl listed), .inl listed⟩
  refresh := by
    rintro dst entry route ⟨_, _, used⟩ ⟨name, through, good⟩ _
    exact ⟨name, good used, by rwa [through]⟩
  retire := by
    rintro dst entry ⟨name, good, used⟩ _ _
    exact ⟨name, good, used⟩

theorem leaving_admits {origin my : Ipv4Address} (heard : P origin (node.getInterfaceForAddress my))
    (named : names node.fresh = origin) :
    (node.leaving P names neighbors).Admits node origin my where
  heard := by
    rintro toNeighbor ⟨name, _, _⟩
    exact ⟨name, rfl, fun _ => heard⟩
  forwarding := by
    rintro toNeighbor ⟨name, _, _⟩ dst entry ⟨other, good, used⟩
    unfold rewritten
    split
    · rename_i shared
      rw [shared, name] at other
      subst other
      exact ⟨by rw [← name]; exact congrArg names shared, heard, used⟩
    · exact ⟨other, good, used⟩
  stored := by
    rintro toNeighbor ⟨name, _, _⟩ neighbor dst entry ⟨other, through, good⟩
    unfold rewritten
    split
    · rename_i shared
      rw [shared, name] at other
      subst other
      exact ⟨by rw [← name]; exact congrArg names shared, through, fun _ => heard⟩
    · exact ⟨other, through, good⟩
  join := ⟨named, rfl, fun _ => heard⟩

structure Belongs (node : Node) (names : Nat → Ipv4Address) : Prop where
  forwarding : ∀ dst entry, node.ft[dst]? = some entry → names entry.route.ref = dst
  stored : ∀ neighbor dst route, node.dvt.entry neighbor dst = some route →
    names route.route.ref = dst

theorem belongs_of_leaving {after : Node}
    (holds : (node.leaving P names neighbors).Holds after) : after.Belongs names where
  forwarding dst entry present := (holds.forwarding dst entry present).1
  stored neighbor dst route found := (holds.stored neighbor dst route found).1

theorem Belongs.leaving (belongs : node.Belongs names) (named : node.Named)
    (good : ∀ pair ∈ node.devices neighbors, P pair.1 pair.2) {ref : Nat} (new : node.fresh ≤ ref)
    (name : Ipv4Address) :
    (node.leaving P (Function.update names ref name) neighbors).Holds node := by
  obtain ⟨_, refs⟩ := id named
  refine ⟨fun dst entry present => ?_, fun neighbor dst route found => ?_, fun _ => False.elim⟩
  · obtain ⟨_, old, _⟩ := refs.forwarding dst entry present
    refine ⟨?_, good _ (mem_devices_ft present), .inr ⟨entry, present, rfl⟩⟩
    rw [Function.update_of_ne (by omega)]
    exact belongs.forwarding dst entry present
  · obtain ⟨_, through, old, _⟩ := refs.stored neighbor dst route found
    refine ⟨?_, through, fun used => good _ (mem_devices_row found used)⟩
    rw [Function.update_of_ne (by omega)]
    exact belongs.stored neighbor dst route found

theorem recv_leaving {socket : Socket} {sender : Ipv4Address} {message : Message}
    {hardware : Mac48Address} (named : node.Named) (belongs : node.Belongs names)
    (good : ∀ pair ∈ node.outlets (.recv socket sender message hardware), P pair.1 pair.2) :
    ∃ names neighbors,
      (node.leaving P names neighbors).Holds
        (node.handle (.recv socket sender message hardware)).1 := by
  cases received : node.receiver socket with
  | none =>
      rw [handle_unaddressed received]
      cases message with
      | hello header =>
          simp only [outlets, received, Option.toList_none, List.map_nil, List.nil_append] at good
          split at good
          · exact ⟨_, _, belongs.leaving named good le_rfl 0⟩
          · exact ⟨_, _, belongs.leaving named good le_rfl 0⟩
      | update header =>
          simp only [outlets, received, Option.toList_none, List.map_nil, ite_self, List.nil_append]
            at good
          exact ⟨_, _, belongs.leaving named good le_rfl 0⟩
  | some my =>
      cases message with
      | hello header =>
          simp only [outlets, received, Option.toList_some, List.map_cons, List.map_nil] at good
          by_cases proper : header.dst = header.origin
          · rw [if_pos proper] at good
            obtain ⟨heard, devices⟩ := List.forall_mem_cons.mp good
            have holds := belongs.leaving named devices le_rfl header.origin
            refine ⟨_, _, (holds.handle named (.recv socket sender (.hello header) hardware) ?_).holds⟩
            intro my' received' _
            obtain rfl := Option.some.inj (received.symm.trans received')
            exact ⟨leaving_closed, leaving_admits heard (Function.update_self _ _ _)⟩
          · rw [if_neg proper] at good
            rw [handle_unconfirmed proper]
            exact ⟨_, _, belongs.leaving named good le_rfl 0⟩
      | update header =>
          simp only [outlets, received, Option.toList_some, List.map_cons, List.map_nil,
            List.forall_mem_append] at good
          obtain ⟨told, devices⟩ := good
          have holds := belongs.leaving named devices le_rfl header.dst
          refine ⟨_, _, (holds.handle named (.recv socket sender (.update header) hardware) ?_).holds⟩
          intro my' received'
          obtain rfl := Option.some.inj (received.symm.trans received')
          refine ⟨leaving_closed, fun new => ⟨Function.update_self _ _ _, rfl, fun used => ?_⟩⟩
          rw [if_pos ⟨new, used⟩] at told
          exact told _ (List.mem_singleton_self _)

theorem recv_outlets {socket : Socket} {sender : Ipv4Address} {message : Message}
    {hardware : Mac48Address} (named : node.Named) (belongs : node.Belongs names)
    {dst : Ipv4Address} {entry : RoutingTableEntry}
    (present : (node.handle (.recv socket sender message hardware)).1.ft[dst]? = some entry) :
    (dst, entry.route.outputDevice) ∈ node.outlets (.recv socket sender message hardware) := by
  obtain ⟨_, _, holds⟩ := @recv_leaving node
    (fun dst device => (dst, device) ∈ node.outlets (.recv socket sender message hardware))
    names socket sender message
    hardware named belongs fun _ => id
  exact (holds.forwarding dst entry present).2.1

theorem Belongs.handle (belongs : node.Belongs names) (named : node.Named) (event : Event) :
    ∃ names, (node.handle event).1.Belongs names := by
  have holds {neighbors : List Ipv4Address} {ref : Nat} (new : node.fresh ≤ ref)
      (name : Ipv4Address) :
      (node.leaving (fun _ _ => True) (Function.update names ref name) neighbors).Holds node :=
    belongs.leaving named (fun _ _ => trivial) new name
  cases event with
  | recv socket sender message hardware =>
      obtain ⟨names, neighbors, holds⟩ := @recv_leaving node
        (fun _ _ => True) names socket sender message hardware
        named belongs fun _ _ => trivial
      exact ⟨names, belongs_of_leaving holds⟩
  | purge =>
      exact ⟨_, belongs_of_leaving ((holds le_rfl 0).handle named .purge leaving_closed).holds⟩
  | txError hardware =>
      exact ⟨_, belongs_of_leaving ((holds le_rfl 0).handle named (.txError hardware)
        leaving_closed).holds⟩
  | interfaceUp i =>
      set broadcast := (node.getAddress (some i)).broadcast
      have extended := @holds [broadcast] _ (Nat.le_add_right node.fresh 2) broadcast
      refine ⟨_, belongs_of_leaving (extended.handle named (.interfaceUp i) ?_).holds⟩
      intro _
      exact ⟨Function.update_self _ _ _, trivial, .inl (List.mem_singleton_self _)⟩
  | interfaceDown i =>
      exact ⟨_, belongs_of_leaving ((@holds [] _ le_rfl 0).handle named
        (.interfaceDown i) trivial).holds⟩
  | elapse duration =>
      exact ⟨_, belongs_of_leaving ((@holds [] _ le_rfl 0).handle named
        (.elapse duration) trivial).holds⟩

end Leaving

theorem initial_belongs (interfaces : List Ipv4InterfaceAddress) (enableHello : Bool)
    (helloInterval : Time) (maxPRQueueLen : BitVec 32) (maxPRQueueTime : Time) :
    (initial interfaces enableHello helloInterval maxPRQueueLen maxPRQueueTime).Belongs fun _ =>
      loopback where
  forwarding dst entry present := by
    exact (initial_ft_eq_some _ _ _ _ _ present).1.symm
  stored neighbor dst route found := by
    simp [initial_dvt, DistanceVectorTable.entry] at found

end Node

end Bsdvr
