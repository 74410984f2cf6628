import Bsdvr.Model.Forwarding
import Bsdvr.Runs.EntryInterfaces
import Bsdvr.Runs.SocketMaps

namespace Bsdvr
open Foundation

def Valid (addr : Ipv4Address) : Prop := addr ≠ unsetAddress ∧ addr ≠ 0

instance (addr : Ipv4Address) : Decidable (Valid addr) := inferInstanceAs (Decidable (_ ∧ _))

theorem valid_loopback : Valid loopback := by decide

def sourced : Contract where
  forwarding _ entry := Valid entry.route.source
  stored _ _ route := Valid route.route.source
  known _ := False

theorem sourced_closed (neighbors : List Ipv4Address) : sourced.Closed neighbors :=
  ⟨fun _ _ _ _ valid => valid, fun _ _ _ _ valid _ => valid, fun _ _ valid _ _ => valid⟩

namespace Node
variable {node : Node} {event : Event} {i : Nat}

/-! ## Sockets and their interfaces -/

def Proper (node : Node) (i : Nat) : Prop :=
  Valid (node.getAddress (some i)).localAddress ∧
    node.getInterfaceForAddress (node.getAddress (some i)).localAddress = some i

def Homed (node : Node) : Prop :=
  ∀ entry ∈ node.socketAddresses ++ node.socketSubnetBroadcastAddresses,
    node.Proper entry.1.device ∧ entry.2 = node.getAddress (some entry.1.device)

theorem getInterfaceForAddress_eq_some {addr : Ipv4Address} :
    node.getInterfaceForAddress addr = some i ↔
    (∃ iface, node.interfaces[i]? = some iface ∧ iface.localAddress = addr) ∧
      ∀ j < i, ∀ iface, node.interfaces[j]? = some iface → iface.localAddress ≠ addr := by
  rw [getInterfaceForAddress, List.findIdx?_eq_some_iff_getElem]
  constructor
  · rintro ⟨inside, here, first⟩
    refine ⟨⟨_, List.getElem?_eq_getElem inside, of_decide_eq_true here⟩,
      fun j less iface found same => ?_⟩
    obtain ⟨bound, rfl⟩ := List.getElem?_eq_some_iff.mp found
    exact first j less (decide_eq_true same)
  · rintro ⟨⟨iface, found, same⟩, first⟩
    obtain ⟨inside, rfl⟩ := List.getElem?_eq_some_iff.mp found
    refine ⟨inside, decide_eq_true same, fun j less here => ?_⟩
    exact first j less _ (List.getElem?_eq_getElem (less.trans inside)) (of_decide_eq_true here)

theorem Homed.receiver (homed : node.Homed) {socket : Socket} {my : Ipv4Address}
    (received : node.receiver socket = some my) :
    Valid my ∧ ∃ i, node.getInterfaceForAddress my = some i ∧
    (node.getAddress (some i)).localAddress = my := by
  obtain ⟨iface, found, rfl⟩ := Option.map_eq_some_iff.mp received
  have member : (socket, iface) ∈ node.socketAddresses ++ node.socketSubnetBroadcastAddresses := by
    rcases Option.or_eq_some_iff.mp found with unicast | ⟨_, broadcast⟩
    · exact List.mem_append_left _ (lookup_mem unicast)
    · exact List.mem_append_right _ (lookup_mem broadcast)
  obtain ⟨⟨valid, index⟩, here⟩ := homed _ member
  simp only at here
  rw [here]
  exact ⟨valid, _, index, rfl⟩

theorem Proper.congr {after : Node} (proper : node.Proper i)
    (same : after.interfaces = node.interfaces) : after.Proper i := by
  unfold Proper getInterfaceForAddress getAddress
  rw [same]
  exact proper

theorem Homed.congr {after : Node} (homed : node.Homed)
    (interfaces : after.interfaces = node.interfaces)
    (sockets : ∀ entry ∈ after.socketAddresses ++ after.socketSubnetBroadcastAddresses, entry ∈
      node.socketAddresses ++ node.socketSubnetBroadcastAddresses) : after.Homed := by
  intro entry member
  obtain ⟨proper, here⟩ := homed entry (sockets entry member)
  refine ⟨proper.congr interfaces, ?_⟩
  rw [getAddress, interfaces]
  exact here

theorem notifyInterfaceUp_homed (homed : node.Homed) (proper : node.Proper i) :
    (node.notifyInterfaceUp i).Homed := by
  rcases notifyInterfaceUp_cases node i with ⟨_, same⟩ | ⟨_, mainAddress, same⟩
  · rwa [same]
  · rw [same]
    intro entry member
    have cases : entry ∈ node.socketAddresses ++ node.socketSubnetBroadcastAddresses ∨
        (entry.1.device = i ∧ entry.2 = node.getAddress (some i)) := by
      simp only [listen, List.mem_append, List.mem_singleton] at member ⊢
      rcases member with (old | rfl) | old | rfl
      · exact .inl (.inl old)
      · exact .inr ⟨rfl, rfl⟩
      · exact .inl (.inr old)
      · exact .inr ⟨rfl, rfl⟩
    rcases cases with old | ⟨device, here⟩
    · obtain ⟨there, address⟩ := homed entry old
      exact ⟨there.congr rfl, address⟩
    · rw [device]
      exact ⟨proper.congr rfl, here⟩

theorem Homed.handle (homed : node.Homed) (event : Event)
    (proper : ∀ i, event = .interfaceUp i → node.Proper i) :
    (node.handle event).1.Homed := by
  by_cases up : ∃ i, event = .interfaceUp i
  · obtain ⟨i, rfl⟩ := up
    exact notifyInterfaceUp_homed homed (proper i rfl)
  · refine homed.congr (handle_interfaces event) ?_
    by_cases down : ∃ i, event = .interfaceDown i
    · obtain ⟨i, rfl⟩ := down
      exact fun entry member => notifyInterfaceDown_fewer member
    · have same := @handle_setup node event (fun i same => up ⟨i, same⟩) fun i same =>
        down ⟨i, same⟩
      rw [same.socketAddresses, same.socketSubnetBroadcastAddresses]
      exact fun entry member => member

/-! ## Source addresses -/

theorem sourced_admits {my origin : Ipv4Address} (valid : Valid my)
    (index : node.getInterfaceForAddress my = some i)
    (here : (node.getAddress (some i)).localAddress = my) : sourced.Admits node origin my where
  heard _ good := good
  forwarding := by
    intro toNeighbor _ dst entry good
    obtain ⟨outputDevice, frame⟩ := node.rewritten_frame my toNeighbor entry
    rwa [frame]
  stored := by
    intro toNeighbor _ neighbor dst entry good
    obtain ⟨outputDevice, frame⟩ := node.rewritten_frame my toNeighbor entry
    rwa [frame]
  join := by
    show Valid (node.getAddress (node.getInterfaceForAddress my)).localAddress
    rwa [index, here]

theorem sourced_handle (holds : sourced.Holds node) (named : node.Named) (homed : node.Homed)
    (event : Event) (proper : ∀ i, event = .interfaceUp i → node.Proper i) :
    sourced.Holds (node.handle event).1 := by
  refine (holds.handle named event ?_).holds
  cases event with
  | recv socket sender message hardware =>
      cases message with
      | hello header =>
          intro my received _
          obtain ⟨valid, i, index, here⟩ := homed.receiver received
          exact ⟨sourced_closed _, sourced_admits valid index here⟩
      | update header =>
          intro my received
          obtain ⟨valid, i, index, here⟩ := homed.receiver received
          refine ⟨sourced_closed _, fun _ => ?_⟩
          show Valid (node.getAddress (node.getInterfaceForAddress my)).localAddress
          rwa [index, here]
  | purge => exact sourced_closed _
  | txError hardware => exact sourced_closed _
  | interfaceUp i => exact fun _ => (proper i rfl).1
  | interfaceDown i => trivial
  | elapse duration => trivial

end Node

namespace Forwarding
variable {node : Node} {p : Option DataPacket} {header : Ipv4Header} {oif : Option NetDevice}

/-! ## One call -/

def Differs (node : Node) (dst : Ipv4Address) (oif : Option NetDevice) : Prop :=
  ∃ rt, node.ft.lookupRoute dst = some rt ∧ oif ≠ none ∧ rt.route.outputDevice ≠ oif

/-- No output device is asked for, or one that a socket is bound to. -/
def Carried (node : Node) (oif : Option NetDevice) : Prop :=
  ∀ device ∈ oif, ∃ entry ∈ node.socketAddresses, entry.1.device = device

/-- The call returns; without a route and with an error exactly where there is no interface or the
device differs, and elsewhere with a route that has a valid source. -/
def Safe (node : Node) (p : Option DataPacket) (header : Ipv4Header)
    (oif : Option NetDevice) : Prop :=
  ∃ routed, routeOutput node p header oif = some routed ∧
    (routed.route = none ∧ routed.sockerr = some .noRouteToHost ↔
      node.socketAddresses = [] ∨ Differs node header.destination oif) ∧
    (¬(node.socketAddresses = [] ∨ Differs node header.destination oif) →
      ∃ route, routed.route = some route ∧ Valid route.source)

theorem sourceOn_valid {sockets : List (Socket × Ipv4InterfaceAddress)} {device : NetDevice}
    (homed : ∀ entry ∈ sockets, node.Proper entry.1.device ∧
      entry.2 = node.getAddress (some entry.1.device))
    (carried : ∃ entry ∈ sockets, entry.1.device = device) :
    ∃ source, sourceOn node device sockets = some source ∧ Valid source := by
  induction sockets with
  | nil =>
      obtain ⟨entry, member, _⟩ := carried
      cases member
  | cons first rest ih =>
      obtain ⟨⟨valid, index⟩, here⟩ := homed first List.mem_cons_self
      rw [← here] at valid index
      by_cases same : first.1.device = device
      · exact ⟨first.2.localAddress, by simp [sourceOn, index, same], valid⟩
      · have later : ∃ entry ∈ rest, entry.1.device = device := by
          obtain ⟨entry, member, there⟩ := carried
          rcases List.mem_cons.mp member with rfl | member
          · exact absurd there same
          · exact ⟨entry, member, there⟩
        obtain ⟨source, found, sound⟩ :=
          ih (fun entry member => homed entry (List.mem_cons_of_mem _ member)) later
        exact ⟨source, by simp [sourceOn, index, same, found], sound⟩

theorem loopbackRoute_valid (homed : node.Homed) (carried : Carried node oif)
    (up : node.socketAddresses ≠ []) :
    ∃ route, loopbackRoute node header oif = some route ∧ Valid route.source := by
  have all : ∀ entry ∈ node.socketAddresses, node.Proper entry.1.device ∧
      entry.2 = node.getAddress (some entry.1.device) :=
      fun entry member => homed entry (List.mem_append_left _ member)
  unfold loopbackRoute
  cases oif with
  | none =>
      obtain ⟨first, rest, sockets⟩ := List.exists_cons_of_ne_nil up
      obtain ⟨⟨valid, _⟩, here⟩ := all first (sockets ▸ List.mem_cons_self)
      rw [← here] at valid
      simp only [sockets, List.head?_cons, Option.map_some, Option.bind_some, if_neg valid.1]
      exact ⟨_, rfl, valid⟩
  | some device =>
      obtain ⟨source, found, valid⟩ := sourceOn_valid all (carried device rfl)
      simp only [found, Option.bind_some, if_neg valid.1]
      exact ⟨_, rfl, valid⟩

theorem loopbackRoute_down (carried : Carried node oif) (down : node.socketAddresses = []) :
    loopbackRoute node header oif = none := by
  cases oif with
  | none => simp [loopbackRoute, down]
  | some device =>
      obtain ⟨entry, member, _⟩ := carried device rfl
      rw [down] at member
      cases member

theorem safe_of_route {routed : Routed} {route : Ipv4Route}
    (returns : routeOutput node p header oif = some routed) (found : routed.route = some route)
    (valid : Valid route.source) (up : node.socketAddresses ≠ [])
    (agrees : ¬Differs node header.destination oif) : Safe node p header oif := by
  have fine : ¬(node.socketAddresses = [] ∨ Differs node header.destination oif) :=
    fun wrong => wrong.elim up agrees
  refine ⟨routed, returns, iff_of_false (fun failed => ?_) fine, fun _ => ⟨route, found, valid⟩⟩
  rw [found] at failed
  cases failed.1

theorem not_safe_of_down (carried : Carried node oif) (down : node.socketAddresses = []) :
    ¬Safe node none header oif := by
  rintro ⟨routed, returns, _⟩
  rw [routeOutput, loopbackRoute_down carried down] at returns
  cases returns

theorem not_safe_of_differs (differs : Differs node header.destination oif) :
    ¬Safe node none header oif := by
  rintro ⟨routed, returns, refused, _⟩
  obtain ⟨route, _, rfl⟩ := Option.map_eq_some_iff.mp returns
  cases (refused.mpr (.inr differs)).1

/-- A call with a packet is safe; one without is safe if there is an interface and no route on
another device. -/
theorem safe_iff (homed : node.Homed) (sources : sourced.Holds node) (carried : Carried node oif) :
    Safe node p header oif ↔ (p = none → node.socketAddresses ≠ [] ∧
      ¬Differs node header.destination oif) := by
  cases p with
  | none =>
      constructor
      · exact fun safe _ => ⟨fun down => not_safe_of_down carried down safe,
          fun differs => not_safe_of_differs differs safe⟩
      · intro fine
        obtain ⟨up, agrees⟩ := fine rfl
        obtain ⟨route, found, valid⟩ := @loopbackRoute_valid node header oif homed carried up
        exact safe_of_route (by rw [routeOutput, found, Option.map_some]) rfl valid up agrees
  | some packet =>
      refine iff_of_true ?_ fun absent => by cases absent
      by_cases down : node.socketAddresses = []
      · refine ⟨⟨none, some .noRouteToHost, some packet⟩, by simp [routeOutput, down], ?_,
          fun fine => ?_⟩
        · exact iff_of_true ⟨rfl, rfl⟩ (.inl down)
        · exact absurd (.inl down) fine
      · cases found : node.ft.lookupRoute header.destination with
        | some rt =>
            by_cases other : oif ≠ none ∧ rt.route.outputDevice ≠ oif
            · have differs : Differs node header.destination oif := ⟨rt, found, other⟩
              refine ⟨⟨none, some .noRouteToHost, some packet⟩,
                by simp [routeOutput, down, found, other], ?_, fun fine => ?_⟩
              · exact iff_of_true ⟨rfl, rfl⟩ (.inr differs)
              · exact absurd (.inr differs) fine
            · have returns : routeOutput node (some packet) header oif =
                  some ⟨some rt.route, some .notError, some packet⟩ := by
                have here : node.socketAddresses.isEmpty = false := by simpa using down
                simp only [routeOutput, here, found, if_neg other, Bool.false_eq_true, if_false]
              refine safe_of_route returns rfl (sources.forwarding _ rt found) down ?_
              rintro ⟨rt', found', differs⟩
              obtain rfl := Option.some.inj (found.symm.trans found')
              exact other differs
        | none =>
            obtain ⟨route, looped, valid⟩ := @loopbackRoute_valid node header oif homed carried down
            refine safe_of_route (by simp [routeOutput, down, found, looped]; rfl) rfl valid down ?_
            rintro ⟨rt, found', _⟩
            cases found.symm.trans found'

end Forwarding

/-! ## Runs -/

namespace Host
variable {host after : Host} {event : HostEvent} {l3 : List Ipv4Interface}

def AddsProper (host : Host) : HostEvent → Prop
  | .addAddress _ address => Valid address.localAddress ∧
      ∀ interface ∈ host.l3, interface.addresses ≠ [] → interface.address.localAddress ≠
        address.localAddress
  | .addInterface | .removeAddress _ | .setUp _ | .setDown _ | .protocol _ => True

instance (host : Host) (event : HostEvent) : Decidable (host.AddsProper event) :=
  match event with
  | .addAddress _ _ => inferInstanceAs (Decidable (_ ∧ ∀ interface ∈ host.l3, _ → _))
  | .addInterface | .removeAddress _ | .setUp _ | .setDown _ | .protocol _ => instDecidableTrue

def Wired (host : Host) : Prop := host.node.interfaces = host.l3.map Ipv4Interface.address

def ProperlyAddressed (host : Host) : Prop :=
  ∀ i, host.addresses i ≠ [] → Valid (host.address i).localAddress ∧
    ∀ j < i, host.addresses j ≠ [] → (host.address j).localAddress ≠ (host.address i).localAddress

theorem Wired.getElem? (wired : host.Wired) (i : Nat) :
    host.node.interfaces[i]? = host.l3[i]?.map Ipv4Interface.address := by
  rw [wired, List.getElem?_map]

theorem Wired.getAddress (wired : host.Wired) (i : Nat) :
    host.node.getAddress (some i) = host.address i := by
  rw [Node.getAddress, Option.bind_some, wired.getElem?, address, addresses]
  cases host.l3[i]? <;> rfl

theorem address_eq_unset {i : Nat} (empty : host.addresses i = []) : host.address i = .unset := by
  rw [address, empty]
  rfl

theorem getElem?_of_addresses {i : Nat} (present : host.addresses i ≠ []) :
    ∃ interface, host.l3[i]? = some interface ∧ interface.address = host.address i := by
  unfold addresses at present
  cases found : host.l3[i]? with
  | none => simp [found] at present
  | some interface => exact ⟨interface, rfl,
      by simp [address, addresses, found, Ipv4Interface.address]⟩

theorem Wired.proper (wired : host.Wired) (addressed : host.ProperlyAddressed) {i : Nat}
    (present : host.addresses i ≠ []) :
    host.node.Proper i := by
  obtain ⟨valid, apart⟩ := addressed i present
  obtain ⟨interface, found, same⟩ := getElem?_of_addresses present
  unfold Node.Proper
  rw [wired.getAddress]
  refine ⟨valid, Node.getInterfaceForAddress_eq_some.mpr ⟨⟨host.address i, ?_, rfl⟩,
    fun j less iface there twin => ?_⟩⟩
  · rw [wired.getElem?, found, Option.map_some, same]
  · have here : iface = host.address j := by
      rw [← wired.getAddress, Node.getAddress, Option.bind_some, there, Option.getD_some]
    rw [here] at twin
    by_cases empty : host.addresses j = []
    · rw [address_eq_unset empty] at twin
      exact valid.1 twin.symm
    · exact apart j less empty twin

theorem addresses_of_homed (wired : host.Wired) (homed : host.node.Homed)
    {entry : Socket × Ipv4InterfaceAddress}
    (member : entry ∈ host.node.socketAddresses ++ host.node.socketSubnetBroadcastAddresses) :
    host.addresses entry.1.device ≠ [] ∧ entry.2 = host.address entry.1.device := by
  obtain ⟨⟨valid, _⟩, here⟩ := homed entry member
  rw [wired.getAddress] at valid here
  refine ⟨fun empty => ?_, here⟩
  rw [address_eq_unset empty] at valid
  exact valid.1 rfl

theorem homed_setL3 (wired : host.Wired) (homed : host.node.Homed)
    (addressed : (host.setL3 l3).ProperlyAddressed)
    (kept : ∀ entry ∈ host.node.socketAddresses ++ host.node.socketSubnetBroadcastAddresses,
      (host.setL3 l3).addresses entry.1.device = host.addresses entry.1.device) :
    (host.setL3 l3).node.Homed := by
  have rewired : (host.setL3 l3).Wired := rfl
  intro entry member
  obtain ⟨present, here⟩ := addresses_of_homed wired homed member
  have same := kept entry member
  refine ⟨rewired.proper addressed (same ▸ present), ?_⟩
  rw [rewired.getAddress, here, address, address, same]

theorem addresses_modify (host : Host) (change : Ipv4Interface → Ipv4Interface) (i j : Nat) :
    (host.setL3 (host.l3.modify i change)).addresses j =
      if i = j then (host.l3[j]?.map fun interface => (change interface).addresses).getD []
      else host.addresses j := by
  simp only [setL3, addresses, List.getElem?_modify]
  cases host.l3[j]? with
  | none => simp
  | some interface =>
      by_cases same : i = j
      · simp [same]
      · simp [same]

theorem addresses_modify_up (host : Host) (up : Bool) (i j : Nat) :
    (host.setL3 (host.l3.modify i fun interface => { interface with up })).addresses j =
      host.addresses j := by
  rw [addresses_modify]
  split
  · rfl
  · rfl

theorem addresses_append (host : Host) (j : Nat) :
    (host.setL3 (host.l3 ++ [⟨[], false⟩])).addresses j = host.addresses j := by
  simp only [setL3, addresses]
  by_cases inside : j < host.l3.length
  · rw [List.getElem?_append_left inside]
  · rw [List.getElem?_append_right (not_lt.mp inside), List.getElem?_eq_none (not_lt.mp inside)]
    cases j - host.l3.length <;> simp

theorem addresses_added {i : Nat} (inside : i < host.l3.length) (address : Ipv4InterfaceAddress)
    (j : Nat) :
    (host.setL3 (host.l3.modify i fun interface =>
      { interface with addresses := [address] })).addresses j =
      if i = j then [address] else host.addresses j := by
  rw [addresses_modify]
  split
  · rename_i same
    subst same
    rw [List.getElem?_eq_getElem inside, Option.map_some, Option.getD_some]
  · rfl

theorem addresses_taken (host : Host) (i j : Nat) :
    (host.setL3
      (host.l3.modify i fun interface => { interface with addresses := [] })).addresses j =
      if i = j then [] else host.addresses j := by
  rw [addresses_modify]
  split
  · cases host.l3[j]? <;> rfl
  · rfl

theorem ProperlyAddressed.fewer {other : Host} (addressed : host.ProperlyAddressed)
    (each : ∀ j, other.addresses j = host.addresses j ∨ other.addresses j = []) :
    other.ProperlyAddressed := by
  have same {j : Nat} (present : other.addresses j ≠ []) : other.addresses j = host.addresses j :=
    (each j).resolve_right present
  intro i present
  obtain ⟨valid, apart⟩ := addressed i (same present ▸ present)
  simp only [address, same present]
  refine ⟨valid, fun j less there => ?_⟩
  have kept := same there
  rw [kept] at there ⊢
  exact apart j less there

theorem ProperlyAddressed.added {i : Nat} {address : Ipv4InterfaceAddress}
    (addressed : host.ProperlyAddressed) (inside : i < host.l3.length)
    (adds : host.AddsProper (.addAddress i address)) :
    (host.setL3 (host.l3.modify i fun interface =>
      { interface with addresses := [address] })).ProperlyAddressed := by
  obtain ⟨valid, new⟩ := adds
  have apart {j : Nat} (present : host.addresses j ≠ []) :
      (host.address j).localAddress ≠ address.localAddress := by
    obtain ⟨interface, found, same⟩ := getElem?_of_addresses present
    rw [← same]
    refine new interface (List.mem_of_getElem? found) ?_
    simpa [addresses, found] using present
  intro j present
  have here := addresses_added inside address j
  unfold Host.address at apart ⊢
  rw [here] at present ⊢
  by_cases own : i = j
  · rw [if_pos own]
    refine ⟨valid, fun k less there => ?_⟩
    have other : i ≠ k := by omega
    rw [addresses_added inside address k, if_neg other] at there ⊢
    exact apart there
  · rw [if_neg own] at present ⊢
    obtain ⟨sound, distinct⟩ := addressed j present
    refine ⟨sound, fun k less there => ?_⟩
    rw [addresses_added inside address k] at there ⊢
    by_cases twin : i = k
    · rw [if_pos twin]
      exact (apart present).symm
    · rw [if_neg twin] at there ⊢
      exact distinct k less there

/-! ## The interfaces after an event, and the protocol's part in it -/

theorem ProperlyAddressed.handle (addressed : host.ProperlyAddressed)
    (possible : host.Enabled event) (adds : host.AddsProper event) :
    (host.setL3 (host.handle event).l3).ProperlyAddressed := by
  cases event with
  | addInterface => exact addressed.fewer fun j => .inl (addresses_append host j)
  | addAddress i address => exact addressed.added possible.1 adds
  | removeAddress i =>
      refine addressed.fewer fun j => ?_
      have after := addresses_taken host i j
      by_cases own : i = j
      · exact .inr (after.trans (if_pos own))
      · exact .inl (after.trans (if_neg own))
  | setUp i => exact addressed.fewer fun j => .inl (addresses_modify_up host true i j)
  | setDown i => exact addressed.fewer fun j => .inl (addresses_modify_up host false i j)
  | protocol event => exact addressed.fewer fun j => .inl rfl

theorem homed_relaid (paired : host.node.Paired) (wired : host.Wired) (homed : host.node.Homed)
    (addressed : host.ProperlyAddressed) (possible : host.Enabled event)
    (keeps : host.KeepsPaired event) (adds : host.AddsProper event) :
    (host.setL3 (host.handle event).l3).node.Homed := by
  refine homed_setL3 wired homed (addressed.handle possible adds) fun entry member => ?_
  obtain ⟨present, here⟩ := addresses_of_homed wired homed member
  cases event with
  | addInterface => exact addresses_append host _
  | addAddress i address =>
      have other : i ≠ entry.1.device := by
        rintro rfl
        exact present possible.2
      exact (addresses_added possible.1 address _).trans (if_neg other)
  | removeAddress i =>
      have other : i ≠ entry.1.device := by
        rintro rfl
        -- the broadcast sockets have the addresses of the unicast ones
        have listed : entry.2 ∈ host.node.socketAddresses.map Prod.snd := by
          rcases List.mem_append.mp member with unicast | broadcast
          · exact List.mem_map_of_mem unicast
          · exact (paired.addresses _).mpr (List.mem_map_of_mem broadcast)
        rw [here] at listed
        have found := Node.mem_addresses_iff.mp listed
        rw [keeps] at found
        cases found
      exact (addresses_taken host i _).trans (if_neg other)
  | setUp i => exact addresses_modify_up host true i _
  | setDown i => exact addresses_modify_up host false i _
  | protocol event => rfl

theorem handle_node (wired : host.Wired) (possible : host.Enabled event)
    (keeps : host.KeepsPaired event) :
    (host.handle event).node = (host.setL3 (host.handle event).l3).node ∨
    ∃ notified mainAddress, (host.handle event).node =
        { ((host.setL3 (host.handle event).l3).node.handle notified).1
          with mainAddress := mainAddress } ∧
      ∀ i, notified = .interfaceUp i → (host.setL3 (host.handle event).l3).addresses i ≠ [] := by
  cases event with
  | addInterface => exact .inl rfl
  | addAddress i address =>
      have rewired : (host.setL3 (host.handle (.addAddress i address)).l3).Wired := rfl
      rcases Node.notifyAddAddress_cases (host.setL3 (host.handle (.addAddress i address)).l3).node
        (host.handle (.addAddress i address)).l3 i with same | ⟨iface, _, only, real, same⟩
      · exact .inl same
      · have listed : (host.setL3 (host.handle (.addAddress i address)).l3).addresses i =
            [iface] := by
          show (((host.handle (.addAddress i address)).l3[i]?).map
            Ipv4Interface.addresses).getD [] = [iface]
          rw [only, Option.getD_some]
        have here : (host.setL3 (host.handle (.addAddress i address)).l3).node.getAddress (some i) =
            iface := by
          rw [rewired.getAddress, Host.address, listed]
          rfl
        rcases Node.notifyInterfaceUp_cases
          (host.setL3 (host.handle (.addAddress i address)).l3).node i with
          ⟨own, _⟩ | ⟨_, mainAddress, up⟩
        · rw [here] at own
          exact absurd own real
        · refine .inr ⟨.interfaceUp i, host.node.mainAddress, ?_, ?_⟩
          · refine same.trans ?_
            rw [here] at up
            rw [Node.handle, up]
            rfl
          · rintro _ ⟨⟩
            rw [listed]
            exact List.cons_ne_nil _ _
  | removeAddress i => exact .inl (Node.notifyRemoveAddress_of_none _ _ keeps)
  | setUp i =>
      refine .inr ⟨.interfaceUp i, (host.handle (.setUp i)).node.mainAddress, rfl, ?_⟩
      rintro _ ⟨⟩
      exact (addresses_modify_up host true i i).symm ▸ possible
  | setDown i => exact .inr ⟨.interfaceDown i, (host.handle (.setDown i)).node.mainAddress, rfl,
      fun _ same => by cases same⟩
  | protocol event =>
      have same : host.setL3 (host.handle (.protocol event)).l3 = host := by
        show host.setL3 host.l3 = host
        rw [setL3, ← wired]
      rw [same]
      refine .inr ⟨event, (host.handle (.protocol event)).node.mainAddress, rfl, fun i up => ?_⟩
      rw [up] at possible
      cases possible.1

structure Sound (host : Host) : Prop where
  paired : host.node.Paired
  numbered : host.node.Numbered
  named : host.node.Named
  wired : host.Wired
  addressed : host.ProperlyAddressed
  homed : host.node.Homed
  sources : sourced.Holds host.node

theorem Sound.handle (sound : host.Sound) (possible : host.Enabled event)
    (keeps : host.KeepsPaired event) (adds : host.AddsProper event) :
    (host.handle event).Sound := by
  obtain ⟨paired, counted⟩ := paired_handle sound.paired sound.numbered possible
  have addressed := sound.addressed.handle possible adds
  have homed := homed_relaid sound.paired sound.wired sound.homed sound.addressed
    possible keeps adds
  have rewired : (host.setL3 (host.handle event).l3).Wired := rfl
  have named : (host.setL3 (host.handle event).l3).node.Named := sound.named.congr rfl rfl
  have sources : sourced.Holds (host.setL3 (host.handle event).l3).node := sound.sources.congr rfl
  have whole : (host.handle event).node.Named ∧ (host.handle event).Wired ∧
      (host.handle event).node.Homed ∧
      sourced.Holds (host.handle event).node := by
    unfold Wired
    rcases handle_node sound.wired possible keeps with same | ⟨notified, mainAddress, same, up⟩
    · rw [same]
      exact ⟨named, rewired, homed, sources⟩
    · have proper : ∀ i, notified = .interfaceUp i →
          (host.setL3 (host.handle event).l3).node.Proper i :=
        fun i here => rewired.proper addressed (up i here)
      rw [same]
      exact ⟨(named.handle notified).congr rfl rfl, (Node.handle_interfaces notified).trans rewired,
        (homed.handle notified proper).congr rfl fun _ member => member,
        (Node.sourced_handle sources named homed notified proper).congr rfl⟩
  exact ⟨paired.mpr keeps, counted keeps, whole.1, whole.2.1, addressed, whole.2.2.1, whole.2.2.2⟩

section Run
variable {enableHello : Bool} {helloInterval : Time} {maxPRQueueLen : BitVec 32}
  {maxPRQueueTime : Time}

theorem initial_sound : (initial enableHello helloInterval maxPRQueueLen maxPRQueueTime).Sound where
  paired := (initial_paired _ _ _ _).1
  numbered := (initial_paired _ _ _ _).2
  named := Node.initial_named _ _ _ _ _
  wired := rfl
  addressed i present := by
    cases i with
    | zero => exact ⟨valid_loopback, fun j less => absurd less (Nat.not_lt_zero j)⟩
    | succ i => exact absurd rfl present
  homed entry member := absurd member List.not_mem_nil
  sources := by
    refine ⟨fun dst entry present => ?_, fun neighbor dst route found => ?_, fun _ => False.elim⟩
    · obtain ⟨_, rfl⟩ := Node.initial_ft_eq_some _ _ _ _ _ present
      exact valid_loopback
    · simp [initial, Node.initial_dvt, DistanceVectorTable.entry] at found

/-- In a run that keeps the maps of sockets paired and adds proper addresses, every call with a
packet is safe, in whatever order the sockets are met; one without is safe if there is an interface
and no route on another device. -/
theorem routeOutput_safe_iff
    (reach : Reach next (fun host event => host.KeepsPaired event ∧
      host.AddsProper event) (initial enableHello helloInterval maxPRQueueLen maxPRQueueTime) host)
    (sockets : List (Socket × Ipv4InterfaceAddress))
    (order : sockets.Perm host.node.socketAddresses) (p : Option DataPacket) (header : Ipv4Header)
    (oif : Option NetDevice) (carried : Forwarding.Carried host.node oif) :
    Forwarding.Safe { host.node with socketAddresses := sockets } p header oif ↔
      (p = none → host.node.socketAddresses ≠ [] ∧
        ¬Forwarding.Differs host.node header.destination oif) := by
  have sound : host.Sound := by
    refine reach.invariant initial_sound ?_
    rintro before event after sound ⟨keeps, adds⟩ taken
    obtain ⟨possible, rfl⟩ := next_eq_some taken
    exact sound.handle possible keeps adds
  have homed : ({ host.node with socketAddresses := sockets } : Node).Homed := by
    refine sound.homed.congr rfl fun entry member => ?_
    exact (List.mem_append.mp member).elim
      (fun unicast => List.mem_append_left _ (order.mem_iff.mp unicast))
      fun broadcast => List.mem_append_right _ broadcast
  have carries : Forwarding.Carried { host.node with socketAddresses := sockets } oif := by
    intro device asked
    obtain ⟨entry, member, bound⟩ := carried device asked
    exact ⟨entry, order.mem_iff.mpr member, bound⟩
  rw [Forwarding.safe_iff homed (sound.sources.congr rfl) carries]
  have empty : sockets = [] ↔ host.node.socketAddresses = [] := by
    rw [← List.length_eq_zero_iff, order.length_eq, List.length_eq_zero_iff]
  exact imp_congr_right fun _ => and_congr_left' (not_congr empty)

end Run

def heardOnFirst : List HostEvent :=
  oneInterface ++ [.addInterface, .addAddress 2 ⟨0x0a010301#32, 0xffffff00#32, 0x0a0103ff#32⟩,
    .setUp 2, .protocol (Node.hello1 0x0a010202#32)]

def toHeard : Ipv4Header := ⟨0x0a010201#32, 0x0a010202#32, 64⟩

theorem routeOutput_safe_iff_twoInterfaces : ∃ host,
    Reach next (fun host event => host.KeepsPaired event ∧ host.AddsProper event)
    (initial true 1000 50 1000) host ∧
    host.node.socketAddresses.length = 2 ∧ Forwarding.Safe host.node
      (some ⟨1, none⟩) toHeard (some 2) ∧
    Forwarding.Safe host.node none toHeard (some 1) := by
  -- the route to 10.1.2.2 is on the device of interface 1
  obtain ⟨host, reach, checked⟩ := exists_reach_of_follow next
    (fun host event => host.KeepsPaired event ∧ host.AddsProper event)
    (initial true 1000 50 1000) heardOnFirst
    (fun host => decide (host.node.socketAddresses.length = 2) &&
      ([1, 2] : List Nat).all (fun device => host.node.socketAddresses.any fun entry =>
        entry.1.device = device) &&
      (host.node.ft[0x0a010202#32]?).all fun rt => rt.route.outputDevice =
      some 1) (by decide +kernel)
  simp only [Bool.and_eq_true, decide_eq_true_eq, List.all_eq_true, List.any_eq_true] at checked
  obtain ⟨⟨two, devices⟩, device⟩ := checked
  have carried (i : NetDevice) (listed : i ∈ ([1, 2] : List Nat)) :
      Forwarding.Carried host.node (some i) := by
    rintro _ ⟨⟩
    exact devices i listed
  refine ⟨host, reach, two, ?_, ?_⟩
  · exact (routeOutput_safe_iff reach _ (List.Perm.refl _) _ toHeard _ (carried 2 (by decide))).mpr
      (by simp)
  · refine (routeOutput_safe_iff reach _ (List.Perm.refl _) _ toHeard _ (carried 1 (by decide))).mpr
      fun _ => ⟨?_, ?_⟩
    · exact List.ne_nil_of_length_pos (two ▸ Nat.two_pos)
    · rintro ⟨rt, found, _, other⟩
      have here : (host.node.ft[0x0a010202#32]?) = some rt := found
      rw [here] at device
      exact other (by simpa using device)

theorem not_safe_twoInterfaces :
    (∃ host, Reach next (fun _ _ => True) (initial true 1000 50 1000) host ∧
      ¬Forwarding.Safe host.node none toHeard none) ∧
    ∃ host, Reach next (fun _ _ => True) (initial true 1000 50 1000) host ∧
      Forwarding.Carried host.node (some 2) ∧ ¬Forwarding.Safe host.node none toHeard (some 2) := by
  constructor
  · -- the only interface has gone down
    obtain ⟨host, reach, checked⟩ :=
      exists_reach_of_follow next (fun _ _ => True) (initial true 1000 50 1000)
      (oneInterface ++ [.setDown 1]) (fun host => decide (host.node.socketAddresses = []))
      (by decide +kernel)
    exact ⟨host, reach, Forwarding.not_safe_of_down
      (fun _ asked => by cases asked) (of_decide_eq_true checked)⟩
  · -- the route to 10.1.2.2 is on the device of interface 1, and that of interface 2 is asked for
    obtain ⟨host, reach, checked⟩ :=
      exists_reach_of_follow next (fun _ _ => True) (initial true 1000 50 1000) heardOnFirst
      (fun host => (host.node.socketAddresses.any fun entry => entry.1.device = 2) &&
        (host.node.ft[0x0a010202#32]?).any fun rt => rt.route.outputDevice ≠
        some 2) (by decide +kernel)
    simp only [Bool.and_eq_true, List.any_eq_true, Option.any_eq_true, decide_eq_true_eq] at checked
    obtain ⟨⟨entry, member, bound⟩, rt, found, other⟩ := checked
    refine ⟨host, reach, ?_, Forwarding.not_safe_of_differs ⟨rt, found,
      Option.some_ne_none 2, other⟩⟩
    rintro _ ⟨⟩
    exact ⟨entry, member, bound⟩

end Host

end Bsdvr
