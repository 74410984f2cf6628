import Bsdvr.Foundation.Registry
import Bsdvr.Model.LinkLayer
import Bsdvr.Runs.Detection
import Bsdvr.Runs.Sockets

namespace Bsdvr
open Foundation

namespace Neighbors

theorem mem_extend {nb : Neighbors} {now expire : Time} {addr : Ipv4Address}
    {hardware : Mac48Address} {neighbor : Neighbor}
    (member : neighbor ∈ nb.extend now addr expire hardware) :
    ∃ old ∈ nb, old.neighborAddress = neighbor.neighborAddress ∧ old.close = neighbor.close ∧
      (old.hardwareAddress = neighbor.hardwareAddress ∨
        (neighbor.neighborAddress = addr ∧ neighbor.hardwareAddress = hardware)) := by
  induction nb with
  | nil => cases member
  | cons first rest ih =>
      by_cases same : first.neighborAddress = addr
      · rw [extend, if_pos same] at member
        rcases List.mem_cons.mp member with rfl | later
        · refine ⟨first, List.mem_cons_self, rfl, rfl, ?_⟩
          by_cases unknown : first.hardwareAddress = 0
          · exact .inr ⟨same, if_pos unknown⟩
          · exact .inl (if_neg unknown).symm
        · exact ⟨neighbor, List.mem_cons_of_mem _ later, rfl, rfl, .inl rfl⟩
      · rw [extend, if_neg same] at member
        rcases List.mem_cons.mp member with rfl | later
        · exact ⟨neighbor, List.mem_cons_self, rfl, rfl, .inl rfl⟩
        · obtain ⟨old, listed, rest⟩ := ih later
          exact ⟨old, List.mem_cons_of_mem _ listed, rest⟩

end Neighbors

theorem ArpCaches.mem_of_answer {caches : ArpCaches} {arp : List Nat} {addr : Ipv4Address}
    {cache : Nat} {hardware : Mac48Address}
    (found : caches.answer arp addr = some (cache, hardware)) : cache ∈ arp := by
  obtain ⟨asked, listed, answered⟩ := List.exists_of_findSome?_eq_some found
  obtain ⟨entry, _, usable⟩ := Option.bind_eq_some_iff.mp answered
  split at usable
  · obtain ⟨rfl, _⟩ := Prod.mk.inj (Option.some.inj usable)
    exact listed
  · cases usable

/-! ## What is left after a transmission error -/

namespace Node
variable {node : Node} {hardware : Mac48Address}

theorem purgeNeighbors_of_current
    (current : ∀ neighbor ∈ node.nb, neighbor.closed node.now = false) :
    node.purgeNeighbors = (node, []) := by
  have lost : node.lost = [] := by
    have none : node.nb.filter (·.closed node.now) = [] := by simpa using current
    rw [Node.lost, none]
    rfl
  have kept : node.dropClosed = node := by
    have all : node.nb.filter (fun neighbor => !neighbor.closed node.now) = node.nb := by
      simpa using current
    rw [dropClosed, all]
  rw [purgeNeighbors, lost, handleLinkFailures, kept]

theorem handle_txError_nb : (node.handle (.txError hardware)).1.nb =
    (node.nb.closeMatching hardware).filter fun neighbor => !neighbor.closed node.now :=
  purgeNeighbors_nb

theorem handle_txError_twice : (node.handle (.txError hardware)).1.handle (.txError hardware) =
    ((node.handle (.txError hardware)).1, []) := by
  have clock : (node.handle (.txError hardware)).1.now = node.now :=
    (handle_clock (.txError hardware)).1
  have remaining : ∀ neighbor ∈ (node.handle (.txError hardware)).1.nb,
      neighbor.hardwareAddress ≠ hardware ∧ neighbor.closed node.now = false := by
    intro neighbor member
    rw [handle_txError_nb] at member
    obtain ⟨listed, current⟩ := List.mem_filter.mp member
    obtain ⟨old, _, rfl⟩ := List.mem_map.mp listed
    by_cases same : old.hardwareAddress = hardware
    · simp [Neighbor.closed, same] at current
    · simpa [same] using current
  have unclosed : (node.handle (.txError hardware)).1.nb.closeMatching hardware =
      (node.handle (.txError hardware)).1.nb := by
    conv_rhs => rw [← List.map_id (node.handle (.txError hardware)).1.nb]
    apply List.map_congr_left
    intro neighbor member
    exact if_neg (remaining neighbor member).1
  have again : (node.handle (.txError hardware)).1.handle (.txError hardware) =
      (node.handle (.txError hardware)).1.purgeNeighbors := by
    rw [handle, unclosed]
  rw [again]
  apply purgeNeighbors_of_current
  intro neighbor member
  rw [clock]
  exact (remaining neighbor member).2

/-! ## Where a listed neighbour comes from -/

/-- An event lists a neighbour only where its HELLO is processed, and with the hardware address that
is looked up then. -/
theorem handle_listed (unclosed : ∀ old ∈ node.nb, old.close = false) (event : Event) :
    ∀ neighbor ∈ (node.handle event).1.nb, neighbor.close = false ∧
      ((∃ old ∈ node.nb, old.neighborAddress = neighbor.neighborAddress ∧
        old.hardwareAddress = neighbor.hardwareAddress) ∨
      ∃ socket sender header, event = .recv socket sender (.hello header) neighbor.hardwareAddress ∧
        neighbor.neighborAddress = header.origin) := by
  have old {after : Node} (fewer : ∀ neighbor ∈ after.nb, neighbor ∈ node.nb) :
      ∀ neighbor ∈ after.nb,
      neighbor.close = false ∧ ((∃ old ∈ node.nb, old.neighborAddress = neighbor.neighborAddress ∧
        old.hardwareAddress = neighbor.hardwareAddress) ∨ ∃ socket sender header,
        event = .recv socket sender (.hello header) neighbor.hardwareAddress ∧
        neighbor.neighborAddress = header.origin) :=
    fun neighbor member => ⟨unclosed _ (fewer _ member), .inl ⟨neighbor, fewer _ member, rfl, rfl⟩⟩
  cases event using handle_cases node with
  | ignored socket sender message hardware same =>
      apply old
      rw [same]
      exact fun _ => id
  | hello socket sender header hardware my received proper same =>
      rw [same]
      by_cases enabled : node.enableHello = true
      · rw [processHello_nb enabled]
        intro neighbor member
        split at member
        · obtain ⟨before, listed, named, closed, address⟩ := Neighbors.mem_extend member
          refine ⟨closed ▸ unclosed before listed,
            address.imp (fun kept => ⟨before, listed, named, kept⟩) ?_⟩
          rintro ⟨heard, rfl⟩
          exact ⟨socket, sender, header, rfl, heard⟩
        · obtain ⟨member, _⟩ := List.mem_filter.mp member
          rcases List.mem_append.mp member with listed | added
          · exact ⟨unclosed _ listed, .inl ⟨neighbor, listed, rfl, rfl⟩⟩
          · obtain rfl := List.mem_singleton.mp added
            exact ⟨rfl, .inr ⟨socket, sender, header, rfl, rfl⟩⟩
      · apply old
        obtain ⟨_, _, exchanged⟩ := exchangeHello_frame node header.origin my
        simp only [processHello, if_neg enabled, exchanged]
        exact fun _ => id
  | update socket sender header hardware my received same =>
      obtain ⟨prqueue, frame, _⟩ := recvUpdate_frame node header my sender
      apply old
      rw [same, frame]
      exact fun _ => id
  | purge =>
      apply old
      intro neighbor member
      change neighbor ∈ node.purgeNeighbors.1.nb at member
      rw [purgeNeighbors_nb] at member
      exact List.mem_of_mem_filter member
  | txError hardware =>
      intro neighbor member
      rw [handle_txError_nb] at member
      obtain ⟨closed, current⟩ := List.mem_filter.mp member
      obtain ⟨before, listed, rfl⟩ := List.mem_map.mp closed
      by_cases same : before.hardwareAddress = hardware
      · simp [Neighbor.closed, same] at current
      · rw [if_neg same]
        exact ⟨unclosed before listed, .inl ⟨before, listed, rfl, rfl⟩⟩
  | interfaceUp i =>
      obtain ⟨_, _, _, _, _, _, frame⟩ := notifyInterfaceUp_frame node i
      apply old
      rw [handle, frame]
      exact fun _ => id
  | interfaceDown i =>
      apply old
      intro neighbor member
      change neighbor ∈ (node.notifyInterfaceDown i).nb at member
      rw [notifyInterfaceDown_nb] at member
      split at member
      · cases member
      · exact member
  | elapse duration => exact old fun _ => id

/-! ## Interfaces that are up -/

theorem isUp_iff {i : Nat} : node.isUp i ↔ ∃ iface ∈ node.interfaces[i]?, node.hasSocket iface := by
  simp only [isUp, hasSocket_iff]

structure Orderly (node : Node) : Prop where
  named : node.SocketsNamed
  once : (node.socketAddresses.map Prod.snd).Nodup
  unclosed : ∀ neighbor ∈ node.nb, neighbor.close = false

theorem Orderly.handle {event : Event} (orderly : node.Orderly) (enabled : node.Enabled event) :
    (node.handle event).1.Orderly := by
  refine ⟨orderly.named.handle event, ?_, fun neighbor member =>
    (handle_listed orderly.unclosed event neighbor member).1⟩
  by_cases up : ∃ i, event = .interfaceUp i
  · obtain ⟨i, rfl⟩ := up
    show ((node.notifyInterfaceUp i).socketAddresses.map Prod.snd).Nodup
    rw [(notifyInterfaceUp_sockets node i).2]
    split
    · exact orderly.once
    · rw [List.map_append, List.map_singleton, ← List.concat_eq_append]
      apply orderly.once.concat
      intro member
      obtain ⟨entry, listed, same⟩ := List.mem_map.mp member
      apply enabled.2
      rw [isUp_iff]
      refine ⟨node.getAddress (some i), ?_, hasSocket_iff.mpr ⟨entry, listed, same⟩⟩
      simp [getAddress, List.getElem?_eq_getElem enabled.1]
  · by_cases down : ∃ i, event = .interfaceDown i
    · obtain ⟨i, rfl⟩ := down
      show ((node.notifyInterfaceDown i).socketAddresses.map Prod.snd).Nodup
      rw [(notifyInterfaceDown_sockets node i).2]
      exact orderly.once.sublist (List.filter_sublist.map _)
    · have same : node.SameSetup (node.handle event).1 :=
        handle_setup event (fun i same => up ⟨i, same⟩) fun i same => down ⟨i, same⟩
      rw [same.socketAddresses]
      exact orderly.once

variable {i j : Nat}

theorem isUp_congr {after : Node} (same : node.SameSetup after) : after.isUp j ↔ node.isUp j := by
  rw [isUp_iff, isUp_iff, same.interfaces]
  simp only [same.hasSocket]

theorem interface_eq (inside : i < node.interfaces.length) :
    node.interfaces[i]? = some (node.getAddress (some i)) := by
  simp [getAddress, List.getElem?_eq_getElem inside]

theorem interface_eq_iff (distinct : node.interfaces.Nodup) (inside : i < node.interfaces.length) :
    node.interfaces[j]? = some (node.getAddress (some i)) ↔ j = i := by
  constructor
  · intro same
    exact ((List.getElem?_inj inside distinct).mp ((interface_eq inside).trans same.symm)).symm
  · rintro rfl
    exact interface_eq inside

theorem getInterfaceForAddress_of_distinct
    (distinct : (node.interfaces.map Ipv4InterfaceAddress.localAddress).Nodup)
    (inside : i < node.interfaces.length) :
    node.getInterfaceForAddress (node.getAddress (some i)).localAddress = some i := by
  have address : node.getAddress (some i) = node.interfaces[i] := by simp [getAddress, inside]
  rw [getInterfaceForAddress, List.findIdx?_eq_some_iff_getElem]
  refine ⟨inside, by simp [address], fun j before same => ?_⟩
  have equal : (node.interfaces.map Ipv4InterfaceAddress.localAddress)[j]? =
      (node.interfaces.map Ipv4InterfaceAddress.localAddress)[i]? := by
    simpa [inside, before.trans inside, address] using same
  exact absurd ((List.getElem?_inj (by simpa using before.trans inside) distinct).mp equal)
    before.ne

theorem isUp_interfaceUp (distinct : node.interfaces.Nodup) (inside : i < node.interfaces.length)
    (real : (node.getAddress (some i)).localAddress ≠ loopback) :
    (node.notifyInterfaceUp i).isUp j ↔ node.isUp j ∨ j = i := by
  have opened : ∀ iface, (node.notifyInterfaceUp i).hasSocket iface ↔
      node.hasSocket iface ∨ iface = node.getAddress (some i) := by
    intro iface
    rw [hasSocket_iff, hasSocket_iff, (notifyInterfaceUp_sockets node i).2, if_neg real]
    simp [or_and_right, exists_or, eq_comm]
  rw [isUp_iff, isUp_iff, (notifyInterfaceUp_sockets node i).1, ← interface_eq_iff distinct inside]
  simp only [opened, Option.mem_def]
  constructor
  · rintro ⟨iface, listed, old | rfl⟩
    · exact .inl ⟨iface, listed, old⟩
    · exact .inr listed
  · rintro (⟨iface, listed, old⟩ | listed)
    · exact ⟨iface, listed, .inl old⟩
    · exact ⟨_, listed, .inr rfl⟩

theorem isUp_interfaceDown (distinct : node.interfaces.Nodup) (orderly : node.Orderly)
    (inside : i < node.interfaces.length) :
    (node.notifyInterfaceDown i).isUp j ↔ node.isUp j ∧ j ≠ i := by
  have closed : ∀ iface, (node.notifyInterfaceDown i).hasSocket iface ↔
      node.hasSocket iface ∧ iface ≠ node.getAddress (some i) := by
    intro iface
    constructor
    · intro kept
      obtain ⟨entry, member, rfl⟩ := hasSocket_iff.mp kept
      rw [(notifyInterfaceDown_sockets node i).2] at member
      obtain ⟨listed, apart⟩ := List.mem_filter.mp member
      refine ⟨hasSocket_iff.mpr ⟨entry, listed, rfl⟩, fun here => of_decide_eq_true apart ?_⟩
      obtain ⟨socket, found⟩ :=
        Option.isSome_iff_exists.mp (hasSocket_iff.mpr ⟨entry, listed, here⟩)
      obtain ⟨first, sought, rfl⟩ := Option.map_eq_some_iff.mp found
      have same : first.2 = entry.2 := by
        rw [here]
        simpa using List.find?_some sought
      rw [found, List.inj_on_of_nodup_map orderly.once (List.mem_of_find?_eq_some sought)
        listed same]
    · rintro ⟨before, other⟩
      exact hasSocket_down orderly.named other before
  rw [isUp_iff, isUp_iff, (notifyInterfaceDown_sockets node i).1, ne_eq,
    ← interface_eq_iff distinct inside]
  simp only [closed, Option.mem_def]
  constructor
  · rintro ⟨iface, listed, kept, other⟩
    refine ⟨⟨iface, listed, kept⟩, fun same => other ?_⟩
    exact Option.some.inj (listed.symm.trans same)
  · rintro ⟨⟨iface, listed, kept⟩, other⟩
    exact ⟨iface, listed, kept, fun same => other (same ▸ listed)⟩

end Node

/-! ## Steps and histories -/

namespace FeedbackNode
variable {layer : LinkLayer} {feedback after : FeedbackNode}

/-- However often a device has the callback, an error is processed as if it had it once. -/
theorem notifyTxError_eq (node : Node) (hardware : Mac48Address) (connections : Nat) :
    notifyTxError node hardware connections = if connections = 0 then (node, [])
      else node.handle (.txError hardware) := by
  induction connections generalizing node with
  | zero => rfl
  | succ connections ih =>
      rw [notifyTxError, ih]
      by_cases last : connections = 0
      · simp [last]
      · simp [last, Node.handle_txError_twice]

theorem next_eq_some {event : FeedbackEvent} (taken : feedback.next layer event = some after) :
    feedback.Enabled layer event ∧ (feedback.handle layer event).1 = after :=
  guarded_eq_some (Enabled layer) (fun feedback event => (feedback.handle layer event).1) taken

theorem notifyInterfaceUp_node (i : Nat) :
    (feedback.notifyInterfaceUp layer i).node = feedback.node.notifyInterfaceUp i := by
  simp only [notifyInterfaceUp]
  split <;> rfl

theorem reach_node {ok : FeedbackNode → FeedbackEvent → Prop} {node : Node}
    (reach : Reach (next layer) ok (initial node) feedback) :
    Reach Node.next (fun _ _ => True) node feedback.node := by
  apply reach.simulate FeedbackNode.node
  intro before event after taken
  obtain ⟨enabled, rfl⟩ := next_eq_some taken
  have one {inner : Node.Event} (possible : before.node.Enabled inner) :
      Reach Node.next (fun _ _ => True) before.node (before.node.handle inner).1 :=
    .step .start trivial (by rw [Node.next, if_pos possible])
  cases event with
  | recv socket sender message caches => exact one enabled
  | dropMpdu dev hardware =>
      simp only [handle, notifyTxError_eq]
      split
      · exact .start
      · exact one trivial
  | control inner =>
      cases inner with
      | recv _ _ _ _ | txError _ => cases enabled
      | interfaceUp i =>
          simp only [handle, notifyInterfaceUp_node]
          exact @one (.interfaceUp i) enabled
      | interfaceDown i => exact one enabled.1
      | purge | elapse _ => exact one enabled

end FeedbackNode

structure FeedbackPast where
  risen : List Nat
  answers : List (Ipv4Address × Nat × Mac48Address)

namespace FeedbackPast

def record (feedback : FeedbackNode) (event : FeedbackEvent) (past : FeedbackPast) : FeedbackPast :=
  match event with
  | .recv _ _ (.hello header) caches =>
      { past with
        answers := past.answers ++ ((caches.answer feedback.arp header.origin).map
          (Prod.mk header.origin)).toList }
  | .control (.interfaceUp i) =>
      if (feedback.node.getAddress (some i)).localAddress = loopback then past
      else { past with risen := past.risen ++ [i] }
  | .recv _ _ (.update _) _ | .dropMpdu _ _ | .control _ => past

end FeedbackPast

abbrev Feedback := FeedbackNode × FeedbackPast

namespace Feedback
variable {layer : LinkLayer} {state after : Feedback}

/-- Whether the protocol is told of what happens on `i`: an ad hoc device while it is up, any other
one since it came up for the first time. -/
def Watched (layer : LinkLayer) (state : Feedback) (i : Nat) : Prop :=
  if layer.medium i = .adhoc then state.1.node.isUp i else i ∈ state.2.risen

instance (i : Nat) : Decidable (state.Watched layer i) :=
  inferInstanceAs (Decidable (if layer.medium i = .adhoc then state.1.node.isUp i
    else i ∈ state.2.risen))

structure Monitors (layer : LinkLayer) (state : Feedback) : Prop where
  distinct : (state.1.node.interfaces.map Ipv4InterfaceAddress.localAddress).Nodup
  orderly : state.1.node.Orderly
  arp : Subscribes (fun i => layer.hasArpCache i = true) (state.Watched layer) state.1.arp
  droppedMpdu : Subscribes (fun dev => (layer.medium dev).hasMac = true)
    (state.Watched layer) state.1.droppedMpdu
  risen : ∀ i ∈ state.1.arp, i ∈ state.2.risen
  answered : ∀ neighbor ∈ state.1.node.nb, neighbor.hardwareAddress = 0 ∨
    ∃ cache ∈ state.2.risen, (neighbor.neighborAddress, cache, neighbor.hardwareAddress) ∈
    state.2.answers

theorem Monitors.event {feedback : FeedbackNode} {past : FeedbackPast}
    (monitors : Monitors layer (feedback, past)) {event : Node.Event}
    (enabled : feedback.node.Enabled event)
    (same : feedback.node.SameSetup (feedback.node.handle event).1)
    {answers : List (Ipv4Address × Nat × Mac48Address)}
    (more : ∀ answer ∈ past.answers, answer ∈ answers)
    (looked : ∀ socket sender header hardware, event =
      .recv socket sender (.hello header) hardware → hardware = 0 ∨
      ∃ cache ∈ past.risen, (header.origin, cache, hardware) ∈ answers) :
    Monitors layer ({ feedback with node := (feedback.node.handle event).1 },
      { past with answers }) where
  distinct := by
    rw [same.interfaces]
    exact monitors.distinct
  orderly := monitors.orderly.handle enabled
  arp := monitors.arp.congr fun i => by simp only [Watched, Node.isUp_congr same]
  droppedMpdu := monitors.droppedMpdu.congr fun dev => by simp only [Watched, Node.isUp_congr same]
  risen := monitors.risen
  answered := by
    intro neighbor member
    rcases (Node.handle_listed monitors.orderly.unclosed event neighbor member).2 with
      ⟨old, listed, named, address⟩ | ⟨socket, sender, header, rfl, named⟩
    · rw [← named, ← address]
      apply (monitors.answered old listed).imp_right
      rintro ⟨cache, up, known⟩
      exact ⟨cache, up, more _ known⟩
    · rw [named]
      exact looked socket sender header _ rfl

theorem Monitors.recv {feedback : FeedbackNode} {past : FeedbackPast}
    (monitors : Monitors layer (feedback, past)) {socket : Socket} {sender : Ipv4Address}
    {message : Message} {caches : ArpCaches}
    (enabled : feedback.Enabled layer (.recv socket sender message caches)) :
    Monitors layer ((feedback.handle layer (.recv socket sender message caches)).1,
      past.record feedback (.recv socket sender message caches)) := by
  have same := @Node.handle_setup feedback.node
    (.recv socket sender message (feedback.lookup caches message)) nofun nofun
  have enabled : feedback.node.Enabled (.recv socket sender message
      (feedback.lookup caches message)) := enabled
  cases message with
  | update header => exact monitors.event enabled same (fun _ => id) nofun
  | hello header =>
      apply monitors.event enabled same
      · exact fun answer known => List.mem_append_left _ known
      · rintro _ _ _ _ ⟨⟩
        rw [FeedbackNode.lookup, ArpCaches.lookupMacAddress]
        cases found : caches.answer feedback.arp header.origin with
        | none => exact .inl rfl
        | some answer =>
            obtain ⟨cache, hardware⟩ := answer
            refine .inr ⟨cache, monitors.risen cache (ArpCaches.mem_of_answer found), by simp⟩

theorem Monitors.dropMpdu {feedback : FeedbackNode} {past : FeedbackPast}
    (monitors : Monitors layer (feedback, past)) (dev : NetDevice) (hardware : Mac48Address) :
    Monitors layer ((feedback.handle layer (.dropMpdu dev hardware)).1, past) := by
  simp only [FeedbackNode.handle, FeedbackNode.notifyTxError_eq]
  split
  · exact monitors
  · have possible : feedback.node.Enabled (.txError hardware) := trivial
    apply monitors.event possible
    · apply Node.handle_setup <;> simp
    · exact fun _ => id
    · simp

theorem Monitors.interfaceUp {feedback : FeedbackNode} {past : FeedbackPast}
    (monitors : Monitors layer (feedback, past)) {i : Nat}
    (enabled : feedback.node.Enabled (.interfaceUp i)) :
    Monitors layer (feedback.notifyInterfaceUp layer i,
      past.record feedback (.control (.interfaceUp i))) := by
  have orderly := monitors.orderly.handle enabled
  obtain ⟨_, _, _, _, _, _, frame⟩ := Node.notifyInterfaceUp_frame feedback.node i
  by_cases real : (feedback.node.getAddress (some i)).localAddress = loopback
  · have same : feedback.notifyInterfaceUp layer i = feedback := by
      simp [FeedbackNode.notifyInterfaceUp, Node.notifyInterfaceUp, real]
    rw [same, FeedbackPast.record, if_pos real]
    exact monitors
  · have device := Node.getInterfaceForAddress_of_distinct monitors.distinct enabled.1
    have watched (later : FeedbackNode) (same : later.node = feedback.node.notifyInterfaceUp i)
        (j : Nat) :
        Watched layer (later, { past with risen := past.risen ++ [i] }) j ↔
        Watched layer (feedback, past) j ∨ j = i := by
      simp only [Watched, same, Node.isUp_interfaceUp (monitors.distinct.of_map _) enabled.1 real]
      split
      · rfl
      · simp
    have kept : (feedback.node.notifyInterfaceUp i).nb = feedback.node.nb := by
      rw [frame]
      rfl
    rw [FeedbackPast.record, if_neg real]
    simp only [FeedbackNode.notifyInterfaceUp, device, if_neg real]
    refine ⟨?_, orderly, monitors.arp.enter i (watched _ rfl),
      monitors.droppedMpdu.enter i (watched _ rfl), ?_, ?_⟩
    · rw [(Node.notifyInterfaceUp_sockets feedback.node i).1]
      exact monitors.distinct
    · intro cache member
      rw [List.mem_append, List.mem_singleton]
      split at member
      · rw [List.mem_append, List.mem_singleton] at member
        exact member.imp_left (monitors.risen cache)
      · exact .inl (monitors.risen cache member)
    · intro neighbor member
      rw [kept] at member
      apply (monitors.answered neighbor member).imp_right
      rintro ⟨cache, up, known⟩
      exact ⟨cache, List.mem_append_left _ up, known⟩

theorem Monitors.interfaceDown {feedback : FeedbackNode} {past : FeedbackPast}
    (monitors : Monitors layer (feedback, past)) {i : Nat}
    (enabled : feedback.node.Enabled (.interfaceDown i)) :
    Monitors layer (feedback.notifyInterfaceDown layer i, past) := by
  have inside : i < feedback.node.interfaces.length := by
    obtain ⟨iface, listed, _⟩ := enabled
    exact (List.getElem?_eq_some_iff.mp listed).1
  have down (j : Nat) := @Node.isUp_interfaceDown feedback.node i j
    (monitors.distinct.of_map _) monitors.orderly inside
  have distinct : ((feedback.node.notifyInterfaceDown i).interfaces.map
      Ipv4InterfaceAddress.localAddress).Nodup := by
    rw [(Node.notifyInterfaceDown_sockets feedback.node i).1]
    exact monitors.distinct
  have answered : ∀ neighbor ∈ (feedback.node.notifyInterfaceDown i).nb,
      neighbor.hardwareAddress = 0 ∨
      ∃ cache ∈ past.risen, (neighbor.neighborAddress, cache, neighbor.hardwareAddress) ∈
      past.answers := by
    intro neighbor member
    rw [Node.notifyInterfaceDown_nb] at member
    split at member
    · cases member
    · exact monitors.answered neighbor member
  by_cases adhoc : layer.medium i = .adhoc
  · have watched (later : FeedbackNode) (same : later.node = feedback.node.notifyInterfaceDown i)
        (j : Nat) :
        Watched layer (later, past) j ↔ Watched layer (feedback, past) j ∧ j ≠ i := by
      simp only [Watched, same, down]
      split
      · rfl
      · rename_i other
        have apart : j ≠ i := fun same => other (same ▸ adhoc)
        simp [apart]
    simp only [FeedbackNode.notifyInterfaceDown, if_pos adhoc]
    refine ⟨distinct, monitors.orderly.handle enabled, monitors.arp.leave i (watched _ rfl),
      monitors.droppedMpdu.leave i (watched _ rfl), fun cache member => ?_, answered⟩
    exact monitors.risen cache (List.mem_of_mem_filter member)
  · have watched (later : FeedbackNode) (same : later.node = feedback.node.notifyInterfaceDown i)
        (j : Nat) :
        Watched layer (later, past) j ↔ Watched layer (feedback, past) j := by
      simp only [Watched, same, down]
      split
      · rename_i other
        have apart : j ≠ i := fun same => adhoc (same ▸ other)
        simp [apart]
      · rfl
    simp only [FeedbackNode.notifyInterfaceDown, if_neg adhoc]
    exact ⟨distinct, monitors.orderly.handle enabled, monitors.arp.congr (watched _ rfl),
      monitors.droppedMpdu.congr (watched _ rfl), monitors.risen, answered⟩

theorem Monitors.next {event : FeedbackEvent} (monitors : state.Monitors layer)
    (taken : recording (FeedbackNode.next layer) FeedbackPast.record state event = some after) :
    after.Monitors layer := by
  obtain ⟨feedback, past⟩ := state
  obtain ⟨stepped, recorded⟩ := recording_eq_some taken
  obtain ⟨enabled, handled⟩ := FeedbackNode.next_eq_some stepped
  obtain ⟨later, afterwards⟩ := after
  obtain rfl : (feedback.handle layer event).1 = later := handled
  obtain rfl : afterwards = past.record feedback event := recorded
  cases event with
  | recv socket sender message caches => exact monitors.recv enabled
  | dropMpdu dev hardware => exact monitors.dropMpdu dev hardware
  | control inner =>
      cases inner with
      | recv _ _ _ _ | txError _ => cases enabled
      | interfaceUp i => exact monitors.interfaceUp enabled
      | interfaceDown i => exact monitors.interfaceDown enabled.1
      | purge =>
          have possible : feedback.node.Enabled .purge := trivial
          apply monitors.event possible
          · apply Node.handle_setup <;> simp
          · exact fun _ => id
          · simp
      | elapse duration =>
          have possible : feedback.node.Enabled (.elapse duration) := trivial
          apply monitors.event possible
          · apply Node.handle_setup <;> simp
          · exact fun _ => id
          · simp

/-! ## Runs -/

section Run
variable {interfaces : List Ipv4InterfaceAddress} {enableHello : Bool} {helloInterval : Time}
  {maxPRQueueLen : BitVec 32} {maxPRQueueTime : Time}

abbrev Run (layer : LinkLayer) (interfaces : List Ipv4InterfaceAddress) (enableHello : Bool)
    (helloInterval : Time) (maxPRQueueLen : BitVec 32) (maxPRQueueTime : Time) : Feedback → Prop :=
  Reach (recording (FeedbackNode.next layer) FeedbackPast.record) (fun _ _ => True)
    (FeedbackNode.initial (Node.initial interfaces enableHello helloInterval maxPRQueueLen maxPRQueueTime), ⟨[], []⟩)

theorem monitors_of_run (distinct : (interfaces.map Ipv4InterfaceAddress.localAddress).Nodup)
    (run : Run layer interfaces enableHello helloInterval maxPRQueueLen maxPRQueueTime state) :
    state.Monitors layer := by
  apply run.invariant (P := fun state => state.Monitors layer)
  · have down (i : Nat) : ¬Watched layer (FeedbackNode.initial
        (Node.initial interfaces enableHello helloInterval maxPRQueueLen maxPRQueueTime),
        ⟨[], []⟩) i := by
      simp only [Watched]
      split
      · rintro ⟨iface, _, entry, member, _⟩
        cases member
      · simp
    refine ⟨distinct, ⟨Node.initial_socketsNamed, List.nodup_nil, ?_⟩, fun i => ?_,
      fun dev => ?_, ?_, ?_⟩
    · intro neighbor member
      cases member
    · exact iff_of_false List.not_mem_nil fun here => down i here.2
    · exact iff_of_false List.not_mem_nil fun here => down dev here.2
    · intro cache member
      cases member
    · intro neighbor member
      cases member
  · exact fun before event after monitors _ taken => monitors.next taken

/-- A frame that the MAC of a watched device drops is processed as one transmission error, however
often the interface went down and up, and a frame that another one drops is not processed at all. -/
theorem dropped_once (distinct : (interfaces.map Ipv4InterfaceAddress.localAddress).Nodup)
    (run : Run layer interfaces enableHello helloInterval maxPRQueueLen maxPRQueueTime state)
    {dev : NetDevice} (mac : (layer.medium dev).hasMac = true) (hardware : Mac48Address) :
    state.1.handle layer (.dropMpdu dev hardware) =
      if state.Watched layer dev then
        ({ state.1 with node := (state.1.node.handle (.txError hardware)).1 },
          (state.1.node.handle (.txError hardware)).2)
      else (state.1, []) := by
  have listed := (monitors_of_run distinct run).droppedMpdu dev
  simp only [FeedbackNode.handle, FeedbackNode.notifyTxError_eq, List.count_eq_zero, listed]
  by_cases watched : state.Watched layer dev
  · simp [watched, mac]
  · simp [watched]

def mixed : LinkLayer where
  medium dev := if dev = 1 then .adhoc else if dev = 2 then .otherMac else .wired
  hasArpCache i := i != 0

/-- Interface 2 comes up twice, and 10.1.2.2 is heard on interface 1, whose ARP cache knows it. -/
def reconnection : List FeedbackEvent :=
  [.control (.interfaceUp 1), .control (.interfaceUp 2), .control (.interfaceDown 2),
    .control (.interfaceUp 2),
    .recv ⟨3, 1, 0x0a0102ff#32⟩ 0x0a010202#32 (.hello ⟨0x0a010202#32, 0x0a010202#32⟩)
      fun cache addr => if cache = 1 ∧ addr = 0x0a010202#32 then some ⟨7, true, false, false⟩
        else none]

theorem dropped_once_mixed :
    ∃ state, Run mixed [.loopback, ⟨0x0a010201#32, 0xffffff00#32, 0x0a0102ff#32⟩,
      ⟨0x0a010301#32, 0xffffff00#32, 0x0a0103ff#32⟩] true 1000 50 1000 state ∧
    state.1.droppedMpdu.count 2 = 2 ∧ state.1.node.neighbors = [0x0a010202#32] ∧
    state.1.handle mixed (.dropMpdu 2 7) =
      ({ state.1 with node := (state.1.node.handle (.txError 7)).1 },
        (state.1.node.handle (.txError 7)).2) := by
  -- the callback is connected twice to the device of interface 2
  obtain ⟨state, run, checked⟩ :=
    exists_reach_of_follow (recording (FeedbackNode.next mixed) FeedbackPast.record)
    (fun _ _ => True) (FeedbackNode.initial (Node.initial [.loopback,
      ⟨0x0a010201#32, 0xffffff00#32, 0x0a0102ff#32⟩,
      ⟨0x0a010301#32, 0xffffff00#32, 0x0a0103ff#32⟩] true 1000 50 1000), ⟨[], []⟩) reconnection
    (fun state => decide (state.1.droppedMpdu.count 2 = 2) && decide
      (state.1.node.neighbors = [0x0a010202#32]) &&
      decide (Watched mixed state 2)) (by decide +kernel)
  simp only [Bool.and_eq_true, decide_eq_true_eq] at checked
  refine ⟨state, run, checked.1.1, checked.1.2, ?_⟩
  rw [dropped_once (by decide) run rfl 7, if_pos checked.2]

/-- A neighbour that is lost to a dropped frame and has not expired has the receiver of the frame as
its hardware address, and unless that is the unset one, the ARP cache of an interface that had come
up answered so about this neighbour. -/
theorem lost_answered (distinct : (interfaces.map Ipv4InterfaceAddress.localAddress).Nodup)
    (run : Run layer interfaces enableHello helloInterval maxPRQueueLen maxPRQueueTime state)
    {dev : NetDevice} {hardware : Mac48Address} {neighbor : Neighbor}
    (listed : neighbor ∈ state.1.node.nb)
    (lost : neighbor ∉ (state.1.handle layer (.dropMpdu dev hardware)).1.node.nb)
    (current : state.1.node.now ≤ neighbor.expireTime) :
    state.Watched layer dev ∧ neighbor.hardwareAddress = hardware ∧
      (hardware = 0 ∨ ∃ cache ∈ state.2.risen, (neighbor.neighborAddress, cache, hardware) ∈
        state.2.answers) := by
  have monitors := monitors_of_run distinct run
  have connected : state.1.droppedMpdu.count dev ≠ 0 := by
    intro none
    simp only [FeedbackNode.handle, FeedbackNode.notifyTxError_eq, if_pos none] at lost
    exact lost listed
  have same : neighbor.hardwareAddress = hardware := by
    by_contra other
    simp only [FeedbackNode.handle, FeedbackNode.notifyTxError_eq, if_neg connected,
      Node.handle_txError_nb] at lost
    apply lost
    refine List.mem_filter.mpr ⟨List.mem_map.mpr ⟨neighbor, listed, if_neg other⟩, ?_⟩
    simp [Neighbor.closed, current, monitors.orderly.unclosed neighbor listed]
  refine ⟨((monitors.droppedMpdu dev).mp ?_).2, same, ?_⟩
  · simpa [List.count_eq_zero] using connected
  · rw [← same]
    exact monitors.answered neighbor listed

theorem lost_answered_mixed :
    ∃ state neighbor, Run mixed [.loopback, ⟨0x0a010201#32, 0xffffff00#32, 0x0a0102ff#32⟩,
      ⟨0x0a010301#32, 0xffffff00#32, 0x0a0103ff#32⟩] true 1000 50 1000 state ∧
    state.1.node.nb = [neighbor] ∧ (state.1.handle mixed (.dropMpdu 2 7)).1.node.nb = [] ∧
    neighbor.hardwareAddress = 7 ∧ ∃ cache ∈ state.2.risen, (neighbor.neighborAddress, cache,
      7#48) ∈ state.2.answers := by
  -- a frame that the device of interface 2 drops closes a neighbour that was heard on interface 1
  obtain ⟨state, run, checked⟩ :=
    exists_reach_of_follow (recording (FeedbackNode.next mixed) FeedbackPast.record)
    (fun _ _ => True) (FeedbackNode.initial (Node.initial [.loopback,
      ⟨0x0a010201#32, 0xffffff00#32, 0x0a0102ff#32⟩,
      ⟨0x0a010301#32, 0xffffff00#32, 0x0a0103ff#32⟩] true 1000 50 1000), ⟨[], []⟩) reconnection
    (fun state => (state.1.node.nb.head?).any
      (fun (neighbor : Neighbor) => decide (state.1.node.nb = [neighbor]) &&
      decide (state.1.node.now ≤ neighbor.expireTime)) &&
      decide ((state.1.handle mixed (.dropMpdu 2 7)).1.node.nb = [])) (by decide +kernel)
  simp only [Option.any_eq_true, Bool.and_eq_true, decide_eq_true_eq] at checked
  obtain ⟨⟨neighbor, _, list, current⟩, emptied⟩ := checked
  have listed : neighbor ∈ state.1.node.nb := by simp [list]
  have lost : neighbor ∉ (state.1.handle mixed (.dropMpdu 2 7)).1.node.nb := by
    rw [emptied]
    exact List.not_mem_nil
  obtain ⟨_, hardware, answered⟩ := lost_answered (by decide) run listed lost current
  exact ⟨state, neighbor, run, list, emptied, hardware, answered.resolve_left (by decide)⟩

end Run

end Feedback

end Bsdvr
