import Bsdvr.Runs.Coherence
import Bsdvr.Static.Invariant

namespace Bsdvr
open Foundation

namespace Node
variable {node : Node} {event : Event}

/-! ## The neighbour list -/

theorem handle_get (named : node.Named) (event : Event) {neighbor : Ipv4Address}
    (present : (node.dvt[neighbor]?).isSome) :
    ((node.handle event).1.dvt[neighbor]?).isSome := by
  let rows : Contract := ⟨fun _ _ => True, fun _ _ _ => True,
    fun neighbor => (node.dvt[neighbor]?).isSome⟩
  have holds : rows.Holds node := ⟨fun _ _ _ => trivial, fun _ _ _ _ => trivial, fun _ => id⟩
  have closed (neighbors : List Ipv4Address) : rows.Closed neighbors :=
    ⟨fun _ _ _ _ _ => trivial, fun _ _ _ _ _ _ => trivial, fun _ _ _ _ _ => trivial⟩
  refine (holds.handle named event ?_).holds.known neighbor present
  cases event with
  | recv socket sender message hardware =>
      cases message with
      | hello header =>
          exact fun _ _ _ => ⟨closed _, ⟨⟨fun _ _ => trivial, fun _ _ _ _ _ => trivial,
            fun _ _ _ _ _ _ => trivial⟩, trivial⟩⟩
      | update header => exact fun _ _ => ⟨closed _, fun _ => trivial⟩
  | purge => exact closed _
  | txError hardware => exact closed _
  | interfaceUp i => exact fun _ => trivial
  | interfaceDown i => trivial
  | elapse duration => trivial

theorem exchangeHello_get (origin receiver : Ipv4Address) :
    ((node.exchangeHello origin receiver).1.dvt[origin]?).isSome := by
  rw [exchangeHello_eq]
  cases found : node.dvt.entry origin origin with
  | none => exact joined_get (.inr rfl)
  | some toNeighbor =>
      simp only [ensureRow_of_entry found]
      exact refreshNeighbor_get (entry_isSome_row found)

structure Listed (node : Node) : Prop where
  distinct : node.neighbors.Nodup
  rows : ∀ ne ∈ node.neighbors, (node.dvt[ne]?).isSome

theorem purgeNeighbors_distinct (distinct : node.neighbors.Nodup) :
    node.purgeNeighbors.1.neighbors.Nodup := by
  rw [purgeNeighbors_neighbors]
  exact distinct.sublist (List.filter_sublist.map _)

theorem updateNeighbors_distinct (distinct : node.neighbors.Nodup) (addr : Ipv4Address)
    (expire : Time) (hardware : Mac48Address) :
    (node.updateNeighbors addr expire hardware).1.neighbors.Nodup := by
  unfold Node.updateNeighbors
  split
  · show (Neighbors.extend _ _ _ _ _).addresses.Nodup
    rwa [Neighbors.addresses_extend]
  · rename_i stranger
    apply purgeNeighbors_distinct
    rw [Node.neighbors, Neighbors.addresses_append]
    simpa using distinct.concat stranger

theorem Listed.handle (listed : node.Listed) (named : node.Named)
    (enabled : node.enableHello = true) (up : ∀ i, event ≠ .interfaceUp i)
    (down : ∀ i, event ≠ .interfaceDown i) : (node.handle event).1.Listed := by
  have stay {neighbor : Ipv4Address} (present : (node.dvt[neighbor]?).isSome) :=
    handle_get named event present
  cases event using handle_cases node with
  | ignored socket sender message hardware same => rwa [same]
  | hello socket sender header hardware my received proper same =>
      rw [same] at stay ⊢
      obtain ⟨_, _, frame, only⟩ :=
        updateNeighbors_frame node header.origin node.helloInterval hardware
      obtain ⟨_, _, exchanged⟩ := exchangeHello_frame
        (node.updateNeighbors header.origin node.helloInterval hardware).1 header.origin my
      have list : (node.processHello header my hardware).1.neighbors =
          (node.updateNeighbors header.origin node.helloInterval hardware).1.neighbors := by
        simp only [Node.processHello, if_pos enabled, exchanged]
      constructor
      · rw [list]
        exact updateNeighbors_distinct listed.distinct _ _ _
      · intro ne member
        rw [list, frame] at member
        rcases StaticNetwork.mem_neighborsWith.mp (only ne member) with old | rfl
        · exact stay (listed.rows ne old)
        · simp only [Node.processHello, if_pos enabled]
          exact exchangeHello_get _ _
  | update socket sender header hardware my received same =>
      obtain ⟨prqueue, frame, _⟩ := recvUpdate_frame node header my sender
      have list : (node.recvUpdate header my sender).1.neighbors = node.neighbors := by
        rw [frame]
        rfl
      rw [same] at stay ⊢
      exact ⟨list ▸ listed.distinct, fun ne member => stay (listed.rows ne (list ▸ member))⟩
  | purge =>
      refine ⟨purgeNeighbors_distinct listed.distinct, fun ne member => stay (listed.rows ne ?_)⟩
      simp only [Node.handle, purgeNeighbors_neighbors] at member
      exact dropClosed_neighbors node member
  | txError hardware =>
      have same : (node.closing hardware).neighbors = node.neighbors :=
        Neighbors.addresses_closeMatching hardware node.nb
      refine ⟨@purgeNeighbors_distinct (node.closing hardware) (same ▸ listed.distinct),
        fun ne member => stay (listed.rows ne (same ▸ ?_))⟩
      change ne ∈ (node.closing hardware).purgeNeighbors.1.neighbors at member
      rw [purgeNeighbors_neighbors] at member
      exact dropClosed_neighbors (node.closing hardware) member
  | interfaceUp i => exact absurd rfl (up i)
  | interfaceDown i => exact absurd rfl (down i)
  | elapse duration => exact ⟨listed.distinct, listed.rows⟩

/-! ## Runs -/

/-- A node with the UPDATEs it sent to its neighbours since they entered the list. -/
structure Telling where
  node : Node
  log : List Sent

/-- The interface stays up. -/
def Telling.next (state : Telling) : Event → Option Telling
  | .interfaceUp _ | .interfaceDown _ => none
  | event => (state.node.next event).map fun after =>
      ⟨after, (state.log.filter fun update => update.neighbor ∈ state.node.neighbors) ++
        (state.node.handle event).2⟩

theorem Telling.next_eq_some {state after : Telling} (taken : state.next event = some after) :
    (∀ i, event ≠ .interfaceUp i) ∧ (∀ i, event ≠ .interfaceDown i) ∧
    after = ⟨(state.node.handle event).1,
      (state.log.filter fun update => update.neighbor ∈ state.node.neighbors) ++
        (state.node.handle event).2⟩ := by
  unfold next at taken
  split at taken
  · cases taken
  · cases taken
  · rename_i other up down
    obtain ⟨node, reached, rfl⟩ := Option.map_eq_some_iff.mp taken
    obtain ⟨_, rfl⟩ := Node.next_eq_some reached
    exact ⟨up, down, rfl⟩

end Node

namespace StaticNetwork
variable {V : Type} {net : StaticNetwork V} {x : V} {node : Node} {log : List Sent}
  {event : Node.Event}

theorem Setup.ifaceOf (setup : net.Setup x node) {socket : Socket} {my : Ipv4Address}
    (received : node.receiver socket = some my) : node.ifaceOf my = net.iface x := by
  rw [Node.ifaceOf, setup.receiver received, setup.getInterfaceForAddress, setup.getAddress]

theorem Setup.oneInterface (setup : net.Setup x node) (one : node.OneInterface (net.iface x))
    (up : ∀ i, event ≠ .interfaceUp i) (down : ∀ i, event ≠ .interfaceDown i) :
    (node.handle event).1.OneInterface (net.iface x) := by
  refine ⟨one.named.handle event, (one.holds.handle one.named event ?_).holds,
    ((Node.handle_setup event up down).hasSocket _).mpr one.opened⟩
  cases event with
  | recv socket sender message hardware =>
      cases message with
      | hello header =>
          intro my received _
          have own := setup.ifaceOf received
          refine ⟨Node.onIface_closed _ _, ⟨fun _ _ => own, fun toNeighbor _ _ entry good => ?_,
            fun toNeighbor _ _ _ entry good => ?_⟩, own⟩
          · obtain ⟨outputDevice, frame⟩ := node.rewritten_frame my toNeighbor entry
            rwa [frame]
          · obtain ⟨outputDevice, frame⟩ := node.rewritten_frame my toNeighbor entry
            rwa [frame]
      | update header =>
          intro my received
          exact ⟨Node.onIface_closed _ _, fun _ => setup.ifaceOf received⟩
  | purge => exact Node.onIface_closed _ _
  | txError hardware => exact Node.onIface_closed _ _
  | interfaceUp i => exact absurd rfl (up i)
  | interfaceDown i => trivial
  | elapse duration => trivial

theorem Setup.coherent (setup : net.Setup x node) (one : node.OneInterface (net.iface x))
    (listed : node.Listed) (coherent : node.Coherent log node.neighbors)
    (untold : node.ChangesUntold event) (up : ∀ i, event ≠ .interfaceUp i)
    (down : ∀ i, event ≠ .interfaceDown i) :
    (node.handle event).1.Coherent ((log.filter fun update => update.neighbor ∈ node.neighbors) ++
      (node.handle event).2)
      (node.handle event).1.neighbors := by
  have after := setup.oneInterface one up down
  have heard := coherent.heard
  cases event using Node.handle_cases node with
  | ignored socket sender message hardware same => simpa [same] using heard
  | hello socket sender header hardware my received proper same =>
      obtain rfl : my = node.mainAddress := (setup.receiver received).trans setup.mainAddress.symm
      rw [same] at after ⊢
      exact heard.processHello one setup.enableHello listed.distinct (untold proper) after
  | update socket sender header hardware my received same =>
      obtain rfl : my = node.mainAddress := (setup.receiver received).trans setup.mainAddress.symm
      have steady := @Node.Steady.learned _ _ untold.1 listed.rows header node.mainAddress
        sender untold.2
      obtain ⟨prqueue, frame, _⟩ := Node.recvUpdate_frame node header node.mainAddress sender
      have list : (node.recvUpdate header node.mainAddress sender).1.neighbors =
          node.neighbors := by
        rw [frame]
        rfl
      rw [same] at after ⊢
      rw [list]
      exact heard.recvUpdate steady one.named after
  | purge =>
      simp only [Node.handle, Node.purgeNeighbors_neighbors]
      refine Node.Coherent.purge (fun ne member => ?_) untold one
        (Node.kept_not_lost listed.distinct)
      exact heard ne (Node.dropClosed_neighbors node member)
  | txError hardware =>
      have same : (node.closing hardware).neighbors = node.neighbors :=
        Neighbors.addresses_closeMatching hardware node.nb
      have one' : (node.closing hardware).OneInterface (net.iface x) :=
        one.congr rfl rfl rfl
      show (node.closing hardware).purgeNeighbors.1.Coherent
        (_ ++ (node.closing hardware).purgeNeighbors.2)
        (node.closing hardware).purgeNeighbors.1.neighbors
      rw [Node.purgeNeighbors_neighbors]
      refine @Node.Coherent.purge (node.closing hardware) _ _ _ (fun ne member => ?_) untold one'
        (Node.kept_not_lost (same ▸ listed.distinct))
      exact heard ne (same ▸ Node.dropClosed_neighbors (node.closing hardware) member)
  | interfaceUp i => exact absurd rfl (up i)
  | interfaceDown i => exact absurd rfl (down i)
  | elapse duration =>
      simp only [Node.handle, List.append_nil]
      exact heard

theorem start_oneInterface (net : StaticNetwork V) (x : V) :
    (net.toNetwork.start x).OneInterface (net.iface x) := by
  refine ⟨(Node.initial_named _ _ _ _ _).notifyInterfaceUp 1,
    ⟨fun dst entry present remote => ?_, fun _ _ _ found => ?_, fun _ => False.elim⟩, ?_⟩
  · rw [start_ft, if_neg remote] at present
    split at present
    · rw [← Option.some.inj present]
      rfl
    · cases present
  · simp [start_dvt, DistanceVectorTable.entry] at found
  · rw [Node.hasSocket, (start_setup x).findSocket]
    rfl

/-- In a run in which no event changes what neighbours were told, each neighbour was last told what
the table says. -/
theorem coherent_of_changesUntold {state : Node.Telling}
    (reach : Reach Node.Telling.next (fun state => state.node.ChangesUntold)
      ⟨net.toNetwork.start x, []⟩ state) :
    state.node.Coherent state.log state.node.neighbors := by
  have all : net.Setup x state.node ∧ state.node.OneInterface (net.iface x) ∧ state.node.Listed ∧
      state.node.Coherent state.log state.node.neighbors := by
    refine reach.invariant (P := fun state => net.Setup x state.node ∧
      state.node.OneInterface (net.iface x) ∧
      state.node.Listed ∧ state.node.Coherent state.log state.node.neighbors)
      ⟨start_setup x, start_oneInterface net x, ?_, ?_⟩ ?_
    · constructor
      · simp [Node.neighbors, (start_lists x).1]
      · simp [Node.neighbors, (start_lists x).1]
    · simp [Node.Coherent, Node.neighbors, (start_lists x).1]
    · rintro before event after ⟨setup, one, listed, coherent⟩ untold taken
      obtain ⟨up, down, rfl⟩ := Node.Telling.next_eq_some taken
      exact ⟨setup.same (Node.handle_setup event up down), setup.oneInterface one up down,
        listed.handle one.named setup.enableHello up down,
        setup.coherent one listed coherent untold up down⟩
  exact all.2.2.2

theorem coherent_of_changesUntold_fourNodes : ∃ state : Node.Telling,
    Reach Node.Telling.next (fun state => state.node.ChangesUntold)
      ⟨(fourNodes []).toNetwork.start 0, []⟩ state ∧
    state.node.neighbors = [0x0a010202#32] ∧ (state.node.ft[0x0a010209#32]?).isSome ∧
    state.node.Coherent state.log state.node.neighbors := by
  -- 10.1.2.2 tells of 10.1.2.9 before its HELLO comes, and is told of it in turn
  obtain ⟨state, reach, checked⟩ := exists_reach_of_follow Node.Telling.next
    (fun state => state.node.ChangesUntold)
    ⟨(fourNodes []).toNetwork.start 0, []⟩
    [Node.update1 ⟨0x0a010202#32, 0x0a010209#32, 1, 1⟩, Node.hello1 0x0a010202#32,
      Node.update1 ⟨0x0a010202#32, 0x0a010208#32, 1, 1⟩]
    (fun state => decide (state.node.neighbors = [0x0a010202#32]) &&
      (state.node.ft[0x0a010209#32]?).isSome)
    (by decide +kernel)
  simp only [Bool.and_eq_true, decide_eq_true_eq] at checked
  exact ⟨state, reach, checked.1, checked.2, coherent_of_changesUntold reach⟩

theorem not_coherent_fourNodes : ∃ state : Node.Telling,
    Reach Node.Telling.next (fun _ _ => True) ⟨(fourNodes []).toNetwork.start 0, []⟩ state ∧
    ¬state.node.Coherent state.log state.node.neighbors := by
  -- 10.1.2.2 is heard and then 10.1.2.3, of which 10.1.2.2 is never told
  obtain ⟨state, reach, checked⟩ := exists_reach_of_follow Node.Telling.next (fun _ _ => True)
    ⟨(fourNodes []).toNetwork.start 0, []⟩ [Node.hello1 0x0a010202#32, Node.hello1 0x0a010203#32]
    (fun state => decide (0x0a010202#32 ∈ state.node.neighbors) &&
      (state.node.ft[0x0a010203#32]?).isSome &&
      decide (state.node.Remote 0x0a010203#32) && decide
        (Node.lastUpdate state.log 0x0a010202#32 0x0a010203#32 = none))
    (by decide +kernel)
  simp only [Bool.and_eq_true, decide_eq_true_eq] at checked
  obtain ⟨⟨⟨listed, present⟩, remote⟩, untold⟩ := checked
  refine ⟨state, reach, fun coherent => ?_⟩
  obtain ⟨entry, present⟩ := Option.isSome_iff_exists.mp present
  obtain ⟨update, last, _⟩ := coherent _ listed _ entry present remote (by decide)
  rw [untold] at last
  cases last

end StaticNetwork

end Bsdvr
