import Bsdvr.Proof.Handlers

namespace Bsdvr
open Foundation

namespace Node

def ifaceOf (node : Node) (my : Ipv4Address) : Ipv4InterfaceAddress :=
  node.getAddress (node.getInterfaceForAddress my)

/-- The destinations and interfaces of the routes a recomputation looks at: those in the rows of the
neighbours, and those that refresh the entries of the forwarding table. -/
def routesFor (node : Node) (neighbors : List Ipv4Address) :
    List (Ipv4Address × Ipv4InterfaceAddress) :=
  (neighbors.flatMap fun neighbor => (node.row neighbor).toList.map fun (dst, route) =>
    (dst, route.iface)) ++
    node.ft.toList.filterMap fun (dst, entry) =>
      (node.dvt.entry entry.nextHop dst).map fun route => (dst, route.iface)

def uses (node : Node) (neighbors : List Ipv4Address) (src dst : Ipv4Address) : Prop :=
  src ∈ neighbors ∨ ∃ entry ∈ node.ft[dst]?, entry.nextHop = src

instance (node : Node) (neighbors : List Ipv4Address) (src dst : Ipv4Address) :
    Decidable (node.uses neighbors src dst) :=
  inferInstanceAs (Decidable (_ ∨ ∃ entry ∈ node.ft[dst]?, entry.nextHop = src))

/-- The destinations and interfaces of the routes that the handling of an event may put into the
forwarding table. -/
def considered (node : Node) : Event → List (Ipv4Address × Ipv4InterfaceAddress)
  | .recv socket _ (.hello header) _ =>
      if header.dst = header.origin then
        (node.receiver socket).toList.flatMap fun my =>
          (header.origin, node.ifaceOf my) :: node.routesFor (node.heardNeighbors header.origin)
      else []
  | .recv socket sender (.update header) _ =>
      (node.receiver socket).toList.flatMap fun my =>
        (if node.uses node.neighbors sender header.dst then [(header.dst, node.ifaceOf my)]
          else []) ++
          node.routesFor node.neighbors
  | .purge | .txError _ => node.routesFor node.neighbors
  | .interfaceUp i =>
      if (node.getAddress (some i)).localAddress = loopback then []
      else [((node.getAddress (some i)).broadcast, node.getAddress (some i))]
  | .interfaceDown _ | .elapse _ => []

variable {node : Node} {neighbors : List Ipv4Address}

theorem mem_row {neighbor dst : Ipv4Address} {route : RoutingTableEntry} :
    (dst, route) ∈ (node.row neighbor).toList ↔ node.dvt.entry neighbor dst = some route := by
  rw [Std.TreeMap.mem_toList_iff_getElem?_eq_some, row, DistanceVectorTable.entry]
  cases node.dvt[neighbor]? <;> simp

theorem mem_routesFor {neighbor dst : Ipv4Address} {route : RoutingTableEntry}
    (found : node.dvt.entry neighbor dst = some route) (used : node.uses neighbors neighbor dst) :
    (dst, route.iface) ∈ node.routesFor neighbors := by
  rcases used with listed | ⟨entry, present, rfl⟩
  · apply List.mem_append_left
    exact List.mem_flatMap.mpr ⟨neighbor, listed,
      List.mem_map.mpr ⟨(dst, route), mem_row.mpr found, rfl⟩⟩
  · apply List.mem_append_right
    refine List.mem_filterMap.mpr ⟨(dst, entry),
      Std.TreeMap.mem_toList_iff_getElem?_eq_some.mpr present, ?_⟩
    simp only [found, Option.map_some]

end Node

def considers (P : Ipv4Address → Ipv4InterfaceAddress → Prop) (node : Node)
    (neighbors : List Ipv4Address) : Contract where
  forwarding dst entry := entry.destination = dst ∧ P dst entry.iface ∧
    node.uses neighbors entry.nextHop dst
  stored neighbor dst route := route.destination = dst ∧ route.nextHop = neighbor ∧
    (node.uses neighbors neighbor dst → P dst route.iface)
  known _ := False

section Considers
variable {P : Ipv4Address → Ipv4InterfaceAddress → Prop} {node : Node}
  {neighbors : List Ipv4Address}

theorem considers_closed : (considers P node neighbors).Closed neighbors where
  adopt := by
    rintro neighbor listed dst route ⟨destination, rfl, good⟩
    exact ⟨destination, good (.inl listed), .inl listed⟩
  refresh := by
    rintro dst entry route ⟨_, _, used⟩ ⟨destination, through, good⟩ _
    exact ⟨destination, good used, by rwa [through]⟩
  retire := by
    rintro dst entry ⟨destination, good, used⟩ _ _
    exact ⟨destination, good, used⟩

theorem considers_admits {origin receiver : Ipv4Address}
    (heard : P origin (node.ifaceOf receiver)) :
    (considers P node neighbors).Admits node origin receiver where
  heard := by
    rintro toNeighbor ⟨destination, _, _⟩
    exact ⟨destination, rfl, fun _ => heard⟩
  forwarding := by
    rintro toNeighbor _ dst entry good
    obtain ⟨outputDevice, frame⟩ := node.rewritten_frame receiver toNeighbor entry
    rwa [frame]
  stored := by
    rintro toNeighbor _ neighbor dst entry good
    obtain ⟨outputDevice, frame⟩ := node.rewritten_frame receiver toNeighbor entry
    rwa [frame]
  join := ⟨rfl, rfl, fun _ => heard⟩

theorem considers_holds (named : node.Named)
    (held : ∀ dst entry, node.ft[dst]? = some entry → P dst entry.iface)
    (looked : ∀ pair ∈ node.routesFor neighbors, P pair.1 pair.2) :
    (considers P node neighbors).Holds node where
  forwarding dst entry present :=
    ⟨named.forwarding present, held dst entry present, .inr ⟨entry, present, rfl⟩⟩
  stored neighbor dst route found := by
    obtain ⟨destination, through⟩ := named.stored found
    exact ⟨destination, through, fun used => looked _ (Node.mem_routesFor found used)⟩
  known _ := False.elim

theorem handle_considered (named : node.Named) (event : Node.Event)
    (held : ∀ dst entry, node.ft[dst]? = some entry → P dst entry.iface)
    (considered : ∀ pair ∈ node.considered event, P pair.1 pair.2) :
    (∀ dst entry, (node.handle event).1.ft[dst]? = some entry → P dst entry.iface) ∧
    ∀ sent ∈ (node.handle event).2, ∃ ne dst entry, P dst entry.iface ∧ node.tells event ne dst ∧
      entry.destination = dst ∧ sent = node.sendUpdate entry ne := by
  have respects {neighbors : List Ipv4Address}
      (looked : ∀ pair ∈ node.routesFor neighbors, P pair.1 pair.2)
      (covers : (considers P node neighbors).Covers node event) :
      (∀ dst entry, (node.handle event).1.ft[dst]? = some entry → P dst entry.iface) ∧
      ∀ sent ∈ (node.handle event).2, ∃ ne dst entry, P dst entry.iface ∧ node.tells event ne dst ∧
        entry.destination = dst ∧ sent = node.sendUpdate entry ne := by
    obtain ⟨holds, sends⟩ := (considers_holds named held looked).handle named event covers
    refine ⟨fun dst entry present => (holds.forwarding dst entry present).2.1,
      fun sent member => ?_⟩
    obtain ⟨ne, dst, entry, ⟨destination, good, _⟩, tells, same⟩ := sends sent member
    exact ⟨ne, dst, entry, good, tells, destination, same⟩
  cases event using Node.handle_cases node with
  | ignored socket sender message hardware same =>
      rw [same]
      exact ⟨held, by simp⟩
  | hello socket sender header hardware my received proper same =>
      simp only [Node.considered, received, if_pos proper, Option.toList_some, List.flatMap_cons,
        List.flatMap_nil, List.append_nil, List.forall_mem_cons] at considered
      refine respects considered.2 fun my' received' _ => ?_
      obtain rfl := Option.some.inj (received.symm.trans received')
      exact ⟨considers_closed, considers_admits considered.1⟩
  | update socket sender header hardware my received same =>
      simp only [Node.considered, received, Option.toList_some, List.flatMap_cons, List.flatMap_nil,
        List.append_nil, List.forall_mem_append] at considered
      refine respects considered.2 fun my' received' => ?_
      obtain rfl := Option.some.inj (received.symm.trans received')
      refine ⟨considers_closed, fun _ => ⟨rfl, rfl, fun used => ?_⟩⟩
      rw [if_pos used] at considered
      exact considered.1 _ (List.mem_singleton_self _)
  | purge => exact respects considered considers_closed
  | txError hardware => exact respects considered considers_closed
  | interfaceUp i =>
      refine ⟨fun dst entry present => ?_, by simp [Node.handle]⟩
      rcases Node.notifyInterfaceUp_ft_cases present with old | ⟨real, rfl, rfl⟩
      · exact held dst entry old
      · rw [Node.considered, if_neg real] at considered
        exact considered _ (List.mem_singleton_self _)
  | interfaceDown i =>
      exact ⟨fun dst entry present => held dst entry (Node.notifyInterfaceDown_ft present).1,
        by simp [Node.handle]⟩
  | elapse duration => exact ⟨held, by simp [Node.handle]⟩

end Considers

/-! ## What is sent -/

namespace Node
variable {node : Node}

def audience (node : Node) : Event → List Ipv4Address
  | .recv _ _ (.hello header) _ => header.origin :: node.heardNeighbors header.origin
  | .recv _ _ (.update _) _ | .purge | .txError _ => node.neighbors
  | .interfaceUp _ | .interfaceDown _ | .elapse _ => []

/-- The destinations and interfaces of the entries that the handling of an event may advertise. -/
def advertisable (node : Node) (event : Event) : List (Ipv4Address × Ipv4InterfaceAddress) :=
  (node.ft.toList.map fun (dst, entry) => (dst, entry.iface)) ++ node.considered event

instance (header : UpdateHeader) (ne dst : Ipv4Address) : Decidable (node.replies header ne dst) :=
  inferInstanceAs (Decidable (_ ∧ _ ∧ _ ∧ _ ∧ (_ ∨ ∃ entry ∈ node.prqueue.queue, _)))

instance (origin ne dst : Ipv4Address) : Decidable (Contract.exchanges node origin ne dst) :=
  inferInstanceAs (Decidable (_ ∧ _))

instance (origin ne dst : Ipv4Address) : Decidable (node.helloTells origin ne dst) :=
  inferInstanceAs (Decidable (_ ∨ _))

instance (event : Event) (ne dst : Ipv4Address) : Decidable (node.tells event ne dst) :=
  match event with
  | .recv _ _ (.hello _) _ => inferInstanceAs (Decidable (node.helloTells _ _ _))
  | .recv _ _ (.update _) _ => inferInstanceAs (Decidable (node.announces _ _ ∨ node.replies _ _ _))
  | .purge | .txError _ => inferInstanceAs (Decidable (node.announces _ _))
  | .interfaceUp _ | .interfaceDown _ | .elapse _ => instDecidableFalse

theorem mem_audience {event : Event} {ne dst : Ipv4Address} (told : node.tells event ne dst) :
    ne ∈ node.audience event := by
  cases event with
  | recv socket sender message hardware =>
      cases message with
      | hello header =>
          rcases told with ⟨rfl, _⟩ | ⟨listed, _⟩
          · exact List.mem_cons_self
          · exact List.mem_cons_of_mem _ listed
      | update header =>
          rcases told with ⟨listed, _⟩ | ⟨_, _, listed, _⟩
          · exact listed
          · exact listed
  | purge => exact told.1
  | txError hardware => exact told.1
  | interfaceUp i => exact told.elim
  | interfaceDown i => exact told.elim
  | elapse duration => exact told.elim

theorem sends_considered {Q : Ipv4Address → Ipv4Address → Ipv4InterfaceAddress → Prop}
    (named : node.Named) (event : Event)
    (allowed : ∀ ne ∈ node.audience event, ∀ pair ∈ node.advertisable event,
      node.tells event ne pair.1 → Q ne pair.1 pair.2) :
    ∀ sent ∈ (node.handle event).2, ∃ ne entry, Q ne entry.destination entry.iface ∧
    sent = node.sendUpdate entry ne := by
  have always (pair : Ipv4Address × Ipv4InterfaceAddress) (member : pair ∈ node.advertisable event)
      (ne : Ipv4Address)
      (told : node.tells event ne pair.1) : Q ne pair.1 pair.2 :=
      allowed ne (mem_audience told) pair member told
  obtain ⟨_, sends⟩ := handle_considered (P := fun dst iface => ∀ ne, node.tells event ne dst →
    Q ne dst iface) named event
    (fun dst entry present => always (dst, entry.iface) (List.mem_append_left _
      (List.mem_map.mpr ⟨(dst, entry), Std.TreeMap.mem_toList_iff_getElem?_eq_some.mpr present,
        rfl⟩)))
    fun pair member => always pair (List.mem_append_right _ member)
  intro sent member
  obtain ⟨ne, _, entry, good, told, rfl, same⟩ := sends sent member
  exact ⟨ne, entry, good ne told, same⟩

end Node

end Bsdvr
