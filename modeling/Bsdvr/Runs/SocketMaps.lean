import Bsdvr.Foundation.Registry
import Bsdvr.Foundation.Run
import Bsdvr.Model.Host
import Bsdvr.Runs.Sockets

namespace Bsdvr
open Foundation

namespace Node
variable {node after : Node} {iface : Ipv4InterfaceAddress}

/-- The two socket maps have the same addresses, each once; they hold open sockets, and each open
socket is in one of them. -/
structure Paired (node : Node) : Prop where
  addresses : ∀ iface, iface ∈ node.socketAddresses.map Prod.snd ↔
    iface ∈ node.socketSubnetBroadcastAddresses.map Prod.snd
  unicastOnce : (node.socketAddresses.map Prod.snd).Nodup
  broadcastOnce : (node.socketSubnetBroadcastAddresses.map Prod.snd).Nodup
  areOpen : ∀ entry ∈ node.socketAddresses ++ node.socketSubnetBroadcastAddresses,
    entry.1 ∈ node.openSockets
  inOneMap : ∀ socket ∈ node.openSockets, socket ∈ node.socketAddresses.map Prod.fst ↔
    socket ∉ node.socketSubnetBroadcastAddresses.map Prod.fst

structure Numbered (node : Node) : Prop where
  unicast : (node.socketAddresses.map Prod.fst).Nodup
  broadcast : (node.socketSubnetBroadcastAddresses.map Prod.fst).Nodup
  below : ∀ socket ∈ node.openSockets, socket.id < node.fresh

theorem Paired.receiver_isSome (paired : node.Paired) {socket : Socket}
    (listed : socket ∈ node.openSockets) :
    (node.receiver socket).isSome := by
  have known {entries : List (Socket × Ipv4InterfaceAddress)}
      (member : socket ∈ entries.map Prod.fst) :
      (entries.lookup socket).isSome := by
    obtain ⟨entry, there, rfl⟩ := List.mem_map.mp member
    exact List.lookup_isSome_iff.mpr ⟨entry, there, beq_self_eq_true _⟩
  rw [receiver, Option.isSome_map, Option.isSome_or, Bool.or_eq_true]
  by_cases unicast : socket ∈ node.socketAddresses.map Prod.fst
  · exact .inl (known unicast)
  · exact .inr (known (not_not.mp fun absent =>
      unicast ((paired.inOneMap socket listed).mpr absent)))

theorem mem_addresses_iff : iface ∈ node.socketAddresses.map Prod.snd ↔
    (node.findSocketWithInterfaceAddress iface).isSome := keyOf_isSome.symm

/-! ## What the handlers do to a pair of maps -/

theorem Paired.congr (paired : node.Paired) (unicast : after.socketAddresses = node.socketAddresses)
    (broadcast : after.socketSubnetBroadcastAddresses = node.socketSubnetBroadcastAddresses)
    (opened : after.openSockets = node.openSockets) : after.Paired := by
  obtain ⟨addresses, unicastOnce, broadcastOnce, areOpen, inOneMap⟩ := paired
  constructor <;> simp only [unicast, broadcast, opened] <;> assumption

theorem Numbered.congr (numbered : node.Numbered)
    (unicast : after.socketAddresses = node.socketAddresses)
    (broadcast : after.socketSubnetBroadcastAddresses = node.socketSubnetBroadcastAddresses)
    (opened : after.openSockets = node.openSockets)
    (fresh : node.fresh ≤ after.fresh) : after.Numbered := by
  refine ⟨unicast ▸ numbered.unicast, broadcast ▸ numbered.broadcast, fun socket member => ?_⟩
  rw [opened] at member
  exact (numbered.below socket member).trans_le fresh

theorem Paired.notKeys (paired : node.Paired) {socket : Socket}
    (closed : socket ∉ node.openSockets) :
    socket ∉ node.socketAddresses.map Prod.fst ∧
    socket ∉ node.socketSubnetBroadcastAddresses.map Prod.fst := by
  constructor <;> intro member <;> obtain ⟨entry, there, rfl⟩ := List.mem_map.mp member
  · exact closed (paired.areOpen entry (List.mem_append_left _ there))
  · exact closed (paired.areOpen entry (List.mem_append_right _ there))

theorem Paired.listen (paired : node.Paired) (numbered : node.Numbered) (i : Nat)
    (new : iface ∉ node.socketAddresses.map Prod.snd) :
    (node.listen i iface).Paired ∧ (node.listen i iface).Numbered := by
  have unused {socket : Socket} (late : node.fresh ≤ socket.id) : socket ∉ node.openSockets :=
    fun listed => absurd (numbered.below socket listed) (by omega)
  let unicast : Socket := ⟨node.fresh, i, iface.localAddress⟩
  let broadcast : Socket := ⟨node.fresh + 1, i, iface.broadcast⟩
  have apart : unicast ≠ broadcast :=
    fun same => absurd (congrArg Socket.id same) (by simp [unicast, broadcast])
  have unicastUnused : unicast ∉ node.openSockets := unused le_rfl
  have broadcastUnused : broadcast ∉ node.openSockets := unused (Nat.le_succ _)
  have freshUnicast := paired.notKeys unicastUnused
  have freshBroadcast := paired.notKeys broadcastUnused
  have unicasts := OneToOne.push ⟨numbered.unicast, paired.unicastOnce⟩ freshUnicast.1 new
  have broadcasts := OneToOne.push ⟨numbered.broadcast, paired.broadcastOnce⟩ freshBroadcast.2
    (fun there => new ((paired.addresses iface).mpr there))
  refine ⟨⟨fun other => ?_, unicasts.values, broadcasts.values, fun entry member => ?_,
    fun socket listed => ?_⟩, ⟨unicasts.keys, broadcasts.keys, fun socket listed => ?_⟩⟩
  · simp only [Node.listen, List.map_append, List.mem_append, paired.addresses other]
    rfl
  · change entry ∈ (node.socketAddresses ++ [(unicast, iface)]) ++
      (node.socketSubnetBroadcastAddresses ++ [(broadcast, iface)]) at member
    show entry.1 ∈ node.openSockets ++ [unicast, broadcast]
    simp only [List.mem_append, List.mem_singleton] at member
    rcases member with (old | rfl) | (old | rfl)
    · exact List.mem_append_left _ (paired.areOpen entry (List.mem_append_left _ old))
    · simp
    · exact List.mem_append_left _ (paired.areOpen entry (List.mem_append_right _ old))
    · simp
  · change socket ∈ node.openSockets ++ [unicast, broadcast] at listed
    show socket ∈ (node.socketAddresses ++ [(unicast, iface)]).map Prod.fst ↔
      socket ∉ (node.socketSubnetBroadcastAddresses ++ [(broadcast, iface)]).map Prod.fst
    simp only [List.map_append, List.map_cons, List.map_nil, List.mem_append, List.mem_cons,
      List.not_mem_nil, or_false] at listed ⊢
    rcases listed with old | rfl | rfl
    · have first : socket ≠ unicast := fun same => unicastUnused (same ▸ old)
      have second : socket ≠ broadcast := fun same => broadcastUnused (same ▸ old)
      simp only [first, second, or_false]
      exact paired.inOneMap socket old
    · simp only [freshUnicast.2, apart, or_true, or_self, not_false_eq_true]
    · simp only [freshBroadcast.1, apart.symm, or_true, or_self, not_true_eq_false]
  · change socket ∈ node.openSockets ++ [unicast, broadcast] at listed
    show socket.id < node.fresh + 3
    simp only [List.mem_append, List.mem_cons, List.not_mem_nil, or_false] at listed
    rcases listed with old | rfl | rfl
    · exact (numbered.below socket old).trans_le (Nat.le_add_right _ _)
    · exact Nat.lt_add_of_pos_right (by decide)
    · exact Nat.add_lt_add_left (by decide) _

theorem Paired.notBoth (paired : node.Paired) {socket : Socket}
    (unicast : socket ∈ node.socketAddresses.map Prod.fst) :
    socket ∉ node.socketSubnetBroadcastAddresses.map Prod.fst := by
  obtain ⟨entry, there, rfl⟩ := List.mem_map.mp unicast
  exact (paired.inOneMap _ (paired.areOpen entry (List.mem_append_left _ there))).mp unicast

theorem mem_of_findSocket {socket : Socket}
    (found : node.findSocketWithInterfaceAddress iface = some socket) :
    socket ∈ node.socketAddresses.map Prod.fst := by
  have member := mem_of_keyOf found
  exact List.mem_map.mpr ⟨_, member, rfl⟩

theorem mem_of_findSubnetBroadcastSocket {socket : Socket}
    (found : node.findSubnetBroadcastSocketWithInterfaceAddress iface = some socket) :
    socket ∈ node.socketSubnetBroadcastAddresses.map Prod.fst := by
  have member := mem_of_keyOf found
  exact List.mem_map.mpr ⟨_, member, rfl⟩

theorem Paired.hush (paired : node.Paired) (numbered : node.Numbered) (iface : Ipv4InterfaceAddress)
    (unicast : after.socketAddresses = closeSocket (node.findSocketWithInterfaceAddress iface)
      node.socketAddresses)
    (broadcast : after.socketSubnetBroadcastAddresses =
      closeSocket (node.findSubnetBroadcastSocketWithInterfaceAddress iface)
        node.socketSubnetBroadcastAddresses)
    (opened : after.openSockets = node.openSockets.filter fun socket =>
      some socket ≠ node.findSocketWithInterfaceAddress iface ∧
      some socket ≠ node.findSubnetBroadcastSocketWithInterfaceAddress iface)
    (fresh : after.fresh = node.fresh) : after.Paired ∧ after.Numbered := by
  have unicasts : OneToOne node.socketAddresses := ⟨numbered.unicast, paired.unicastOnce⟩
  have broadcasts : OneToOne node.socketSubnetBroadcastAddresses :=
    ⟨numbered.broadcast, paired.broadcastOnce⟩
  have unicastsAfter := unicasts.withoutKey (node.findSocketWithInterfaceAddress iface)
  have broadcastsAfter := broadcasts.withoutKey
    (node.findSubnetBroadcastSocketWithInterfaceAddress iface)
  refine ⟨⟨fun other => ?_, unicast ▸ unicastsAfter.values, broadcast ▸ broadcastsAfter.values,
    fun entry member => ?_, fun socket listed => ?_⟩, ⟨unicast ▸ unicastsAfter.keys,
    broadcast ▸ broadcastsAfter.keys, fun socket listed => ?_⟩⟩
  · rw [unicast, broadcast]
    exact (unicasts.mem_map_withoutKey).trans ((and_congr_left' (paired.addresses other)).trans
      broadcasts.mem_map_withoutKey.symm)
  · rw [opened, List.mem_filter, decide_eq_true_eq]
    rw [unicast, broadcast] at member
    rcases List.mem_append.mp member with here | here
    · obtain ⟨old, other⟩ := List.mem_filter.mp here
      refine ⟨paired.areOpen entry (List.mem_append_left _ old), of_decide_eq_true other,
        fun same => ?_⟩
      exact paired.notBoth (List.mem_map_of_mem old) (mem_of_findSubnetBroadcastSocket same.symm)
    · obtain ⟨old, other⟩ := List.mem_filter.mp here
      refine ⟨paired.areOpen entry (List.mem_append_right _ old), fun same => ?_,
        of_decide_eq_true other⟩
      exact paired.notBoth (mem_of_findSocket same.symm) (List.mem_map_of_mem old)
  · rw [opened, List.mem_filter, decide_eq_true_eq] at listed
    rw [unicast, broadcast]
    obtain ⟨old, first, second⟩ := listed
    exact (mem_keys_withoutKey.trans (and_iff_left first)).trans ((paired.inOneMap socket old).trans
      (not_congr (mem_keys_withoutKey.trans (and_iff_left second)).symm))
  · rw [opened] at listed
    rw [fresh]
    exact numbered.below socket (List.mem_of_mem_filter listed)

/-! ## The notifications -/

theorem notifyInterfaceUp_cases (node : Node) (i : Nat) :
    ((node.getAddress (some i)).localAddress = loopback ∧ node.notifyInterfaceUp i = node) ∨
    ((node.getAddress (some i)).localAddress ≠ loopback ∧ ∃ mainAddress, node.notifyInterfaceUp i =
      { node.listen i (node.getAddress (some i)) with mainAddress := mainAddress }) := by
  unfold notifyInterfaceUp
  simp only
  split
  · rename_i own
    exact .inl ⟨own, rfl⟩
  · rename_i real
    exact .inr ⟨real, _, rfl⟩

theorem Paired.interfaceUp (paired : node.Paired) (numbered : node.Numbered) (i : Nat)
    (new : (node.getAddress (some i)).localAddress = loopback ∨
      node.findSocketWithInterfaceAddress (node.getAddress (some i)) = none) :
    (node.notifyInterfaceUp i).Paired ∧ (node.notifyInterfaceUp i).Numbered := by
  rcases notifyInterfaceUp_cases node i with ⟨_, same⟩ | ⟨real, mainAddress, same⟩
  · rw [same]
    exact ⟨paired, numbered⟩
  · obtain ⟨paired, numbered⟩ := paired.listen numbered i (keyOf_eq_none.mp (new.resolve_left real))
    rw [same]
    exact ⟨paired.congr rfl rfl rfl, numbered.congr rfl rfl rfl le_rfl⟩

theorem not_paired_interfaceUp {i : Nat} (real : (node.getAddress (some i)).localAddress ≠ loopback)
    (found : (node.findSocketWithInterfaceAddress (node.getAddress (some i))).isSome) :
    ¬(node.notifyInterfaceUp i).Paired := by
  intro paired
  rcases notifyInterfaceUp_cases node i with ⟨own, _⟩ | ⟨_, mainAddress, same⟩
  · exact real own
  · rw [same] at paired
    have once := paired.unicastOnce
    change ((node.socketAddresses ++ [(_, node.getAddress (some i))]).map Prod.snd).Nodup at once
    rw [List.map_append, List.map_singleton, ← List.concat_eq_append, List.nodup_concat] at once
    exact once.1 (mem_addresses_iff.mpr found)

theorem Paired.interfaceDown (paired : node.Paired) (numbered : node.Numbered) (i : Nat) :
    (node.notifyInterfaceDown i).Paired ∧ (node.notifyInterfaceDown i).Numbered := by
  refine paired.hush numbered (node.getAddress (some i))
    (notifyInterfaceDown_sockets node i).2 ?_ ?_ ?_
  all_goals
    unfold notifyInterfaceDown
    simp only
    split <;> rfl

theorem notifyAddAddress_cases (node : Node) (l3 : List Ipv4Interface) (i : Nat) :
    node.notifyAddAddress l3 i = node ∨
    ∃ iface, node.findSocketWithInterfaceAddress iface = none ∧
    (l3[i]?.map Ipv4Interface.addresses) = some [iface] ∧
      iface.localAddress ≠ loopback ∧ node.notifyAddAddress l3 i = node.listen i iface := by
  unfold notifyAddAddress
  split
  · exact .inl rfl
  · rename_i found
    split
    · exact .inl rfl
    · split
      · rename_i only
        split
        · exact .inl rfl
        · rename_i absent
          split
          · exact .inl rfl
          · rename_i real
            exact .inr ⟨_, absent, by rw [found, Option.map_some, only], real, rfl⟩
      · exact .inl rfl

theorem Paired.addAddress (paired : node.Paired) (numbered : node.Numbered)
    (l3 : List Ipv4Interface) (i : Nat) :
    (node.notifyAddAddress l3 i).Paired ∧ (node.notifyAddAddress l3 i).Numbered := by
  rcases notifyAddAddress_cases node l3 i with same | ⟨iface, absent, _, _, same⟩
  · rw [same]
    exact ⟨paired, numbered⟩
  · rw [same]
    exact paired.listen numbered i (keyOf_eq_none.mp absent)

theorem notifyRemoveAddress_of_none (l3 : List Ipv4Interface) (i : Nat)
    (absent : node.findSocketWithInterfaceAddress iface = none) :
    node.notifyRemoveAddress l3 i iface = node := by
  rw [notifyRemoveAddress, absent]

theorem notifyRemoveAddress_maps {l3 : List Ipv4Interface} {i : Nat}
    (last : (l3[i]?.map Ipv4Interface.addresses).getD [] = []) :
    (node.notifyRemoveAddress l3 i iface).socketSubnetBroadcastAddresses =
      node.socketSubnetBroadcastAddresses ∧
    (node.notifyRemoveAddress l3 i iface).socketAddresses ⊆
      closeSocket (node.findSocketWithInterfaceAddress iface) node.socketAddresses := by
  unfold notifyRemoveAddress
  simp only [last]
  cases node.findSocketWithInterfaceAddress iface with
  | none => exact ⟨rfl, by simp [closeSocket]⟩
  | some socket =>
      simp only
      split
      · split
        · exact ⟨rfl, List.Subset.refl _⟩
        · exact ⟨rfl, List.Subset.refl _⟩
      · split
        · exact ⟨rfl, List.filter_sublist.subset⟩
        · exact ⟨rfl, List.filter_sublist.subset⟩

theorem not_paired_removeAddress (paired : node.Paired) (numbered : node.Numbered)
    {l3 : List Ipv4Interface} {i : Nat} (last : (l3[i]?.map Ipv4Interface.addresses).getD [] = [])
    (found : (node.findSocketWithInterfaceAddress iface).isSome) :
    ¬(node.notifyRemoveAddress l3 i iface).Paired := by
  intro after
  obtain ⟨broadcast, unicast⟩ := @notifyRemoveAddress_maps node iface l3 i last
  have there : iface ∈ node.socketSubnetBroadcastAddresses.map Prod.snd :=
    (paired.addresses iface).mp (mem_addresses_iff.mpr found)
  rw [← broadcast] at there
  obtain ⟨entry, member, rfl⟩ := List.mem_map.mp ((after.addresses iface).mpr there)
  have unicasts : OneToOne node.socketAddresses := ⟨numbered.unicast, paired.unicastOnce⟩
  exact (unicasts.mem_withoutKey.mp (unicast member)).2 rfl

theorem exchangeHello_fresh (node : Node) (origin receiver : Ipv4Address) :
    node.fresh ≤ (node.exchangeHello origin receiver).1.fresh := by
  rw [exchangeHello_eq]
  cases found : node.dvt.entry origin origin with
  | none => exact Nat.le_succ _
  | some toNeighbor =>
      rw [ensureRow_of_entry found]
      exact le_rfl

theorem processHello_fresh (node : Node) (header : HelloHeader) (receiver : Ipv4Address)
    (hardware : Mac48Address) :
    node.fresh ≤ (node.processHello header receiver hardware).1.fresh := by
  unfold processHello
  split
  · obtain ⟨table, nb, frame, _⟩ :=
      updateNeighbors_frame node header.origin node.helloInterval hardware
    have fresh : (node.updateNeighbors header.origin node.helloInterval hardware).1.fresh =
        node.fresh := by rw [frame]
    rw [← fresh]
    exact exchangeHello_fresh _ _ _
  · exact exchangeHello_fresh _ _ _

theorem handle_fresh (node : Node) (event : Event) : node.fresh ≤ (node.handle event).1.fresh := by
  have purged (node : Node) : node.fresh ≤ node.purgeNeighbors.1.fresh := by
    obtain ⟨table, frame⟩ := purgeNeighbors_frame node
    rw [frame]
    exact le_rfl
  cases event using handle_cases node with
  | ignored socket sender message hardware same => rw [same]
  | hello socket sender header hardware my received proper same =>
      rw [same]
      exact processHello_fresh node header my hardware
  | update socket sender header hardware my received same =>
      obtain ⟨prqueue, frame, _⟩ := recvUpdate_frame node header my sender
      rw [same, frame]
      exact Nat.le_succ _
  | purge => exact purged node
  | txError hardware => exact purged { node with nb := node.nb.closeMatching hardware }
  | interfaceUp i =>
      rcases notifyInterfaceUp_cases node i with ⟨_, same⟩ | ⟨_, mainAddress, same⟩
      · simp only [handle, same, le_rfl]
      · simp only [handle, same]
        exact Nat.le_add_right _ _
  | interfaceDown i =>
      obtain ⟨_, _, _, _, _, frame⟩ := notifyInterfaceDown_frame node i
      simp only [handle, frame]
      exact le_rfl
  | elapse duration => exact le_rfl

end Node

/-! ## Runs -/

namespace Host

/-- No notification of an address that is removed finds a socket for it, nor does one of an
interface that comes up. -/
def KeepsPaired (host : Host) : HostEvent → Prop
  | .removeAddress i => host.node.findSocketWithInterfaceAddress (host.address i) = none
  | .setUp i => (host.address i).localAddress = loopback ∨
      host.node.findSocketWithInterfaceAddress (host.address i) = none
  | .addInterface | .addAddress _ _ | .setDown _ | .protocol _ => True

instance (host : Host) (event : HostEvent) : Decidable (host.KeepsPaired event) :=
  match event with
  | .removeAddress _ => inferInstanceAs (Decidable (_ = none))
  | .setUp _ => inferInstanceAs (Decidable (_ ∨ _ = none))
  | .addInterface | .addAddress _ _ | .setDown _ | .protocol _ => instDecidableTrue

variable {host after : Host} {event : HostEvent}

theorem getAddress_setUp (host : Host) (i : Nat) :
    (host.setL3 (host.l3.modify i fun interface => { interface with up := true })).node.getAddress
      (some i) =
      host.address i := by
  simp only [setL3, Node.getAddress, Option.bind_some, List.getElem?_map, List.getElem?_modify,
    address, addresses]
  cases host.l3[i]? with
  | none => rfl
  | some interface => simp [Ipv4Interface.address]

theorem addresses_removed (host : Host) (i : Nat) :
    (((host.l3.modify i fun interface => { interface with addresses := [] })[i]?).map
      Ipv4Interface.addresses).getD [] = [] := by
  rw [List.getElem?_modify]
  cases host.l3[i]? with
  | none => rfl
  | some interface => simp

theorem paired_setL3 (paired : host.node.Paired) (numbered : host.node.Numbered)
    (l3 : List Ipv4Interface) :
    (host.setL3 l3).node.Paired ∧ (host.setL3 l3).node.Numbered :=
  ⟨paired.congr rfl rfl rfl, numbered.congr rfl rfl rfl le_rfl⟩

theorem paired_handle (paired : host.node.Paired) (numbered : host.node.Numbered)
    (possible : host.Enabled event) :
    ((host.handle event).node.Paired ↔ host.KeepsPaired event) ∧
    (host.KeepsPaired event → (host.handle event).node.Numbered) := by
  have kept {node : Node} (holds : node.Paired ∧ node.Numbered) : (node.Paired ↔ True) ∧
      (True → node.Numbered) :=
    ⟨iff_true_intro holds.1, fun _ => holds.2⟩
  cases event with
  | addInterface => exact kept (paired_setL3 paired numbered _)
  | addAddress i address =>
      have changed := @paired_setL3 host paired numbered
        (host.l3.modify i fun interface => { interface with addresses := [address] })
      exact kept (changed.1.addAddress changed.2 _ i)
  | removeAddress i =>
      have changed := @paired_setL3 host paired numbered (host.l3.modify i fun interface =>
        { interface with addresses := [] })
      cases found : host.node.findSocketWithInterfaceAddress (host.address i) with
      | none =>
          have same : (host.handle (.removeAddress i)).node =
              (host.setL3 (host.l3.modify i fun interface =>
                { interface with addresses := [] })).node :=
            Node.notifyRemoveAddress_of_none _ _ found
          rw [same]
          exact ⟨iff_of_true changed.1 found, fun _ => changed.2⟩
      | some socket =>
          have registered : ¬host.KeepsPaired (.removeAddress i) := by
            intro absent
            cases found.symm.trans absent
          refine ⟨iff_of_false ?_ registered, fun keeps => absurd keeps registered⟩
          exact Node.not_paired_removeAddress changed.1 changed.2 (addresses_removed host i)
            (Option.isSome_of_mem found)
  | setUp i =>
      have changed := @paired_setL3 host paired numbered (host.l3.modify i fun interface =>
        { interface with up := true })
      have address := getAddress_setUp host i
      by_cases keeps : host.KeepsPaired (.setUp i)
      · have holds : (host.handle (.setUp i)).node.Paired ∧
            (host.handle (.setUp i)).node.Numbered := by
          apply changed.1.interfaceUp changed.2 i
          rw [address]
          exact keeps
        exact ⟨iff_of_true holds.1 keeps, fun _ => holds.2⟩
      · refine ⟨iff_of_false ?_ keeps, fun holds => absurd holds keeps⟩
        obtain ⟨real, registered⟩ := not_or.mp keeps
        rw [← Ne, Option.ne_none_iff_isSome] at registered
        exact Node.not_paired_interfaceUp (address ▸ real) (address ▸ registered)
  | setDown i =>
      have changed := @paired_setL3 host paired numbered (host.l3.modify i fun interface =>
        { interface with up := false })
      exact kept (changed.1.interfaceDown changed.2 i)
  | protocol event =>
      obtain ⟨other, _⟩ := possible
      have same : host.node.SameSetup (host.node.handle event).1 := by
        refine Node.handle_setup event (fun i up => ?_) fun i down => ?_
        · rw [up] at other
          cases other
        · rw [down] at other
          cases other
      exact kept ⟨paired.congr same.socketAddresses same.socketSubnetBroadcastAddresses
        same.openSockets,
        numbered.congr same.socketAddresses same.socketSubnetBroadcastAddresses same.openSockets
        (host.node.handle_fresh event)⟩

theorem next_eq_some (taken : host.next event = some after) :
    host.Enabled event ∧ host.handle event = after :=
  guarded_eq_some Enabled handle taken

section Run
variable {enableHello : Bool} {helloInterval : Time} {maxPRQueueLen : BitVec 32}
  {maxPRQueueTime : Time}

theorem initial_paired (enableHello : Bool) (helloInterval : Time) (maxPRQueueLen : BitVec 32)
    (maxPRQueueTime : Time) :
    (initial enableHello helloInterval maxPRQueueLen maxPRQueueTime).node.Paired ∧
      (initial enableHello helloInterval maxPRQueueLen maxPRQueueTime).node.Numbered := by
  refine ⟨⟨fun _ => Iff.rfl, List.nodup_nil, List.nodup_nil, ?_, ?_⟩,
    ⟨List.nodup_nil, List.nodup_nil, ?_⟩⟩ <;>
    · intro _ member
      cases member

/-- In a run in which no address is removed, and no interface comes up, while a socket is open for
it, the maps are paired and no packet comes from an unknown socket; and any other step ends this. -/
theorem paired_of_keepsPaired
    (reach : Reach next KeepsPaired (initial enableHello helloInterval maxPRQueueLen maxPRQueueTime)
      host) :
    host.node.Paired ∧ (∀ socket ∈ host.node.openSockets, (host.node.receiver socket).isSome) ∧
    ∀ event after, host.next event = some after → (after.node.Paired ↔ host.KeepsPaired event) := by
  have all : host.node.Paired ∧ host.node.Numbered := by
    refine reach.invariant (P := fun host => host.node.Paired ∧ host.node.Numbered)
      (initial_paired _ _ _ _) ?_
    rintro before event after ⟨paired, numbered⟩ keeps taken
    obtain ⟨possible, rfl⟩ := next_eq_some taken
    obtain ⟨exactly, counts⟩ := paired_handle paired numbered possible
    exact ⟨exactly.mpr keeps, counts keeps⟩
  refine ⟨all.1, fun socket listed => all.1.receiver_isSome listed, fun event after taken => ?_⟩
  obtain ⟨possible, rfl⟩ := next_eq_some taken
  exact (paired_handle all.1 all.2 possible).1

end Run

def oneInterface : List HostEvent :=
  [.addInterface, .addAddress 1 ⟨0x0a010201#32, 0xffffff00#32, 0x0a0102ff#32⟩, .setUp 1]

theorem paired_of_keepsPaired_oneInterface :
    ∃ host, Reach next KeepsPaired (initial true 1000 50 1000) host ∧
    host.node.openSockets.length = 2 ∧ host.node.Paired := by
  -- the interface goes down, gets another address and comes up again
  obtain ⟨host, reach, checked⟩ :=
    exists_reach_of_follow next KeepsPaired (initial true 1000 50 1000)
    (oneInterface ++ [.setDown 1, .removeAddress 1,
      .addAddress 1 ⟨0x0a010205#32, 0xffffff00#32, 0x0a0102ff#32⟩, .setUp 1])
    (fun host => decide (host.node.openSockets.length = 2)) (by decide +kernel)
  exact ⟨host, reach, of_decide_eq_true checked, (paired_of_keepsPaired reach).1⟩

theorem not_paired_oneInterface :
    ∃ host, Reach next (fun _ _ => True) (initial true 1000 50 1000) host ∧
    ¬host.node.Paired := by
  -- the address is removed while the interface is up: its broadcast socket is closed, but stays in
  -- the map
  obtain ⟨host, reach, checked⟩ :=
    exists_reach_of_follow next (fun _ _ => True) (initial true 1000 50 1000)
    (oneInterface ++ [.removeAddress 1])
    (fun host => host.node.socketSubnetBroadcastAddresses.any fun entry =>
      !decide (entry.1 ∈ host.node.openSockets))
    (by decide +kernel)
  simp only [List.any_eq_true, Bool.not_eq_true', decide_eq_false_iff_not] at checked
  obtain ⟨entry, listed, closed⟩ := checked
  exact ⟨host, reach, fun paired => closed (paired.areOpen entry (List.mem_append_right _ listed))⟩

end Host

end Bsdvr
