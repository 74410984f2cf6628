import Bsdvr.Proof.Indexing
import Bsdvr.Runs.LostNeighbors

namespace Bsdvr
open Foundation

structure UpdateCall where
  node : Node
  nxtHp : Ipv4Address
  rt : RoutingTableEntry

def UpdateCall.learned (call : UpdateCall) : Node := call.node.learn call.nxtHp call.rt

namespace Node
variable {node : Node} {event : Event}

/-! ## The calls that write the tables -/

/-- The calls of `UpdateDistanceVectorTable` that the reports of link failures make. -/
def failureUpdates (node : Node) : List Ipv4Address → List UpdateCall
  | [] => []
  | ne :: rest =>
      (if filtered ne then [] else (node.dvt.entry ne ne).toList.map fun entry =>
        ⟨node, ne, entry.setRouteState .inactive⟩) ++
        (node.sendUpdateOnLinkFailure ne).1.failureUpdates rest

def updates (node : Node) : Event → List UpdateCall
  | .recv socket _ (.hello header) hardware =>
      if (node.receiver socket).isSome ∧ header.dst = header.origin ∧ node.enableHello ∧
        header.origin ∉ node.neighbors then
        (node.welcome header.origin hardware).failureUpdates
          (node.welcome header.origin hardware).lost
      else []
  | .recv socket sender (.update header) _ =>
      (node.receiver socket).toList.map fun my => ⟨node, sender, node.updateEntry header my sender⟩
  | .purge => node.failureUpdates node.lost
  | .txError hardware => (node.closing hardware).failureUpdates (node.closing hardware).lost
  | .interfaceUp _ | .interfaceDown _ | .elapse _ => []

def joins (node : Node) : Event → List Node
  | .recv socket _ (.hello header) hardware =>
      if header.dst = header.origin then
        let updated :=
          if node.enableHello then
            (node.updateNeighbors header.origin node.helloInterval hardware).1
          else node
        (node.receiver socket).toList.flatMap fun my =>
          if (updated.dvt.entry header.origin header.origin).isSome then []
          else [updated.joined header.origin my]
      else []
  | _ => []

/-- The nodes at which the handling of an event calls `ComputeForwardingTable`. -/
def recomputations (node : Node) (event : Event) : List Node :=
  (node.updates event).map UpdateCall.learned ++ node.joins event

theorem mem_joins {before : Node} (member : before ∈ node.joins event) :
    ∃ (updated : Node) (origin my : Ipv4Address),
    (updated = node ∨ ∃ hardware, updated =
      (node.updateNeighbors origin node.helloInterval hardware).1) ∧
    updated.dvt.entry origin origin = none ∧ before = updated.joined origin my := by
  have afresh {updated : Node} {origin my : Ipv4Address}
      (joined : before ∈ if (updated.dvt.entry origin origin).isSome then []
        else [updated.joined origin my]) :
      updated.dvt.entry origin origin = none ∧ before = updated.joined origin my := by
    split at joined
    · cases joined
    · rename_i absent
      exact ⟨Option.not_isSome_iff_eq_none.mp absent, List.mem_singleton.mp joined⟩
  unfold joins at member
  split at member
  · rename_i socket sender header hardware
    split at member
    · obtain ⟨my, _, joined⟩ := List.mem_flatMap.mp member
      obtain ⟨absent, same⟩ := afresh joined
      refine ⟨_, header.origin, my, ?_, absent, same⟩
      split
      · exact .inr ⟨hardware, rfl⟩
      · exact .inl rfl
    · cases member
  · cases member

/-- A node once the last of these recomputations is done. -/
def recomputed (node : Node) (befores : List Node) : Node :=
  (befores.getLast?.map fun before => before.recompute.1).getD node

theorem recomputed_append (befores more : List Node) :
    node.recomputed (befores ++ more) = (node.recomputed befores).recomputed more := by
  unfold recomputed
  rw [List.getLast?_append]
  cases more.getLast? with
  | none => rfl
  | some before => rfl

theorem recomputed_congr {node other : Node} (befores : List Node) (same : other.ft = node.ft) :
    (other.recomputed befores).ft = (node.recomputed befores).ft := by
  unfold recomputed
  cases befores.getLast? with
  | none => exact same
  | some before => rfl

theorem sendUpdateOnLinkFailure_recomputed (ne : Ipv4Address) :
    (node.sendUpdateOnLinkFailure ne).1 =
      node.recomputed (((if filtered ne then [] else (node.dvt.entry ne ne).toList.map fun entry =>
        ⟨node, ne, entry.setRouteState .inactive⟩).map UpdateCall.learned)) := by
  unfold sendUpdateOnLinkFailure
  cases passed : filtered ne with
  | true => rfl
  | false =>
      cases found : node.dvt.entry ne ne with
      | none => rfl
      | some entry => rfl

theorem handleLinkFailures_recomputed (failed : List Ipv4Address) :
    (node.handleLinkFailures failed).1 =
      node.recomputed ((node.failureUpdates failed).map UpdateCall.learned) := by
  induction failed generalizing node with
  | nil => rfl
  | cons ne rest ih =>
      rw [failureUpdates, List.map_append, recomputed_append,
        ← sendUpdateOnLinkFailure_recomputed, ← ih]
      rfl

theorem purgeNeighbors_recomputed (node : Node) : node.purgeNeighbors.1.ft =
    (node.recomputed ((node.failureUpdates node.lost).map UpdateCall.learned)).ft := by
  rw [← handleLinkFailures_recomputed]
  rfl

/-- What forwarding reads of an entry, but for its output device. -/
def forwards (entry : RoutingTableEntry) :
    Ipv4Address × BitVec 32 × Ipv4InterfaceAddress × RouteState :=
  (entry.nextHop, entry.hops, entry.iface, entry.state)

theorem exchangeHello_recomputed (named : node.Named) (origin receiver dst : Ipv4Address) :
    ((node.exchangeHello origin receiver).1.ft[dst]?).map forwards =
      ((node.recomputed (if (node.dvt.entry origin origin).isSome then []
        else [node.joined origin receiver])).ft[dst]?).map forwards := by
  rw [exchangeHello_eq]
  cases found : node.dvt.entry origin origin with
  | none => rfl
  | some toNeighbor =>
      rw [ensureRow_of_entry found, refreshNeighbor_ft named found, Option.map_map]
      refine congrArg₂ Option.map (funext fun entry => ?_) rfl
      obtain ⟨outputDevice, frame⟩ := node.rewritten_frame receiver toNeighbor entry
      rw [Function.comp_apply, frame]
      rfl

theorem processHello_recomputed (named : node.Named) (header : HelloHeader) (my : Ipv4Address)
    (hardware : Mac48Address) {socket : Socket} {sender : Ipv4Address}
    (received : node.receiver socket = some my) (proper : header.dst = header.origin)
    (dst : Ipv4Address) :
    ((node.processHello header my hardware).1.ft[dst]?).map forwards =
      ((node.recomputed
        (node.recomputations (.recv socket sender (.hello header) hardware))).ft[dst]?).map forwards := by
  by_cases enabled : node.enableHello = true
  · have exchanged := exchangeHello_recomputed
      (named.updateNeighbors header.origin node.helloInterval hardware)
      header.origin my dst
    by_cases known : header.origin ∈ node.neighbors
    · rw [updateNeighbors_of_known known] at exchanged
      have same (befores : List Node) := @recomputed_congr node
        (node.setNb (Neighbors.extend node.now header.origin node.helloInterval hardware node.nb))
        befores rfl
      rw [same] at exchanged
      simpa [processHello, recomputations, updates, joins, received, enabled, proper, known,
        updateNeighbors_of_known known] using exchanged
    · rw [updateNeighbors_of_stranger known] at exchanged
      have purged := (purgeNeighbors_recomputed (node.welcome header.origin hardware)).trans
        (@recomputed_congr node (node.welcome header.origin hardware) _ rfl)
      rw [recomputed_congr _ purged, ← recomputed_append] at exchanged
      simpa [processHello, recomputations, updates, joins, received, enabled, proper, known,
        updateNeighbors_of_stranger known] using exchanged
  · have exchanged := exchangeHello_recomputed named header.origin my dst
    simpa [processHello, recomputations, updates, joins, received, enabled, proper] using exchanged

/-- The forwarding table after an event other than that of an interface is that of the last of its
`recomputations`, or the one from before: what comes afterwards changes output devices only. -/
theorem handle_recomputed (named : node.Named) (up : ∀ i, event ≠ .interfaceUp i)
    (down : ∀ i, event ≠ .interfaceDown i) (dst : Ipv4Address) :
    ((node.handle event).1.ft[dst]?).map forwards =
      ((node.recomputed (node.recomputations event)).ft[dst]?).map forwards := by
  cases event with
  | recv socket sender message hardware =>
      cases received : node.receiver socket with
      | none =>
          have none : node.recomputations (.recv socket sender message hardware) = [] := by
            cases message with
            | hello header => simp [recomputations, updates, joins, received]
            | update header => simp [recomputations, updates, joins, received]
          simp only [handle, recvBsdv, received, none]
          rfl
      | some my =>
          cases message with
          | hello header =>
              by_cases proper : header.dst = header.origin
              · simp only [handle, recvBsdv, received, recvHello, if_pos proper]
                exact processHello_recomputed named header my hardware received proper dst
              · have none : node.recomputations (.recv socket sender (.hello header) hardware) =
                    [] := by
                  simp [recomputations, updates, joins, proper]
                simp only [handle, recvBsdv, received, recvHello, if_neg proper, none]
                rfl
          | update header =>
              obtain ⟨prqueue, frame, _⟩ := recvUpdate_frame node header my sender
              have one : node.recomputations (.recv socket sender (.update header) hardware) =
                  [node.learn sender (node.updateEntry header my sender)] := by
                simp only [recomputations, updates, joins, received]
                rfl
              simp only [handle, recvBsdv, received, frame, one]
              rfl
  | purge =>
      have same : node.recomputations .purge =
          (node.failureUpdates node.lost).map UpdateCall.learned := List.append_nil _
      rw [same, ← purgeNeighbors_recomputed]
      rfl
  | txError hardware =>
      have same : node.recomputations (.txError hardware) =
          ((node.closing hardware).failureUpdates (node.closing hardware).lost).map
            UpdateCall.learned := List.append_nil _
      rw [same, ← @recomputed_congr node (node.closing hardware) _ rfl, ← purgeNeighbors_recomputed]
      rfl
  | interfaceUp i => exact absurd rfl (up i)
  | interfaceDown i => exact absurd rfl (down i)
  | elapse duration => rfl

theorem failureUpdates_rule {I : Node → Prop} {failed : List Ipv4Address}
    (step : ∀ node dvt, I node → node.Forgets dvt → I (node.setDvt dvt).recompute.1)
    (members : ∀ ne ∈ failed, ne ∈ node.neighbors) (start : I node) :
    ∀ call ∈ node.failureUpdates failed, I call.node ∧ call.node.neighbors = node.neighbors ∧
      call.nxtHp ∈ failed ∧ filtered call.nxtHp = false ∧
      ∃ entry, call.node.dvt.entry call.nxtHp call.nxtHp = some entry ∧
        call.rt = entry.setRouteState .inactive := by
  induction failed generalizing node with
  | nil =>
      intro call member
      cases member
  | cons ne rest ih =>
      intro call member
      have listed := members ne List.mem_cons_self
      rcases List.mem_append.mp member with now | later
      · split at now
        · cases now
        · rename_i unfiltered
          obtain ⟨entry, found, rfl⟩ := List.mem_map.mp now
          exact ⟨start, rfl, List.mem_cons_self, by simpa using unfiltered, entry,
            Option.mem_toList.mp found, rfl⟩
      · obtain ⟨table, frame⟩ := sendUpdateOnLinkFailure_frame node ne
        have same : (node.sendUpdateOnLinkFailure ne).1.neighbors = node.neighbors := by rw [frame]
        have first : I (node.sendUpdateOnLinkFailure ne).1 := by
          rcases sendUpdateOnLinkFailure_cases node listed with idle | ⟨dvt, forgets, failed⟩
          · rw [idle]
            exact start
          · rw [failed]
            exact step node dvt start forgets
        obtain ⟨holds, kept, among, rest⟩ :=
          ih (fun other member => same ▸ members other (List.mem_cons_of_mem _ member))
          first call later
        exact ⟨holds, kept.trans same, List.mem_cons_of_mem _ among, rest⟩

/-! ## Support -/

/-- An entry of the forwarding table is the node's own, or its next hop has a route to its
destination. -/
def Supported (node : Node) : Prop :=
  ∀ dst entry, node.ft[dst]? = some entry → node.OwnEntry dst entry ∨
    (node.dvt.entry entry.nextHop dst).isSome

def Agreeing (node : Node) : Prop :=
  ∀ dst entry, node.ft[dst]? = some entry → entry.nextHop ∈ node.neighbors →
    node.OwnEntry dst entry ∨
    ∃ route, node.dvt.entry entry.nextHop dst = some route ∧ route.hops = entry.hops ∧
      route.state = entry.state

namespace Supported

theorem congr {after : Node} (supported : node.Supported)
    (table : ∀ (dst : Ipv4Address) entry, after.ft[dst]? = some entry → node.ft[dst]? = some entry)
    (rows : ∀ (dst : Ipv4Address) entry, node.ft[dst]? = some entry →
      (node.dvt.entry entry.nextHop dst).isSome → (after.dvt.entry entry.nextHop dst).isSome)
    (sockets : after.socketAddresses = node.socketAddresses) : after.Supported := by
  intro dst entry present
  unfold OwnEntry
  rw [sockets]
  exact (supported dst entry (table dst entry present)).imp_right
    (rows dst entry (table dst entry present))

theorem recompute (supported : node.Supported) (owned : RowsOwned node.dvt) :
    node.recompute.1.Supported := by
  intro dst entry present
  rw [recompute_ft] at present
  rcases recomputed_cases owned present with ⟨_, kept⟩ | member | ⟨old, there, rfl⟩
  · exact supported dst entry kept
  · obtain ⟨neighbor, _, found⟩ := mem_candidates.mp member
    right
    rw [owned _ _ _ found, recompute_dvt, found, Option.isSome_some]
  · rw [recompute_dvt, refreshEntry_nextHop owned]
    rcases refreshEntry_eq node.dvt dst old with found | same | ⟨_, retired⟩
    · exact .inr (by rw [found]; rfl)
    · rw [same]
      exact supported dst old there
    · rw [retired]
      exact (supported dst old there).imp_left fun own => own.congr rfl rfl rfl

theorem agreeing (supported : node.Supported) (owned : RowsOwned node.dvt) :
    node.recompute.1.Agreeing := by
  intro dst entry present listed
  refine (supported.recompute owned dst entry present).imp_right fun there => ?_
  obtain ⟨route, found⟩ := Option.isSome_iff_exists.mp there
  have member : route ∈ candidates node.neighbors node.dvt dst :=
    mem_candidates.mpr ⟨entry.nextHop, listed, found⟩
  have settled := (recomputed_settled owned (recompute_ft node ▸ present) route member).2
  have same : route = entry := (refreshEntry_of_entry found).symm.trans settled
  exact ⟨route, found, by rw [same], by rw [same]⟩

theorem learn (supported : node.Supported) (nxtHp : Ipv4Address) (rt : RoutingTableEntry) :
    (node.learn nxtHp rt).Supported := by
  refine supported.congr (fun _ _ => id) (fun dst entry present there => ?_) rfl
  show ((updateDistanceVectorTable _ _ _ _ _).entry _ _).isSome
  by_cases stranger : nxtHp ∈ node.neighbors ∧ (node.dvt[nxtHp]?).isSome
  · rwa [updateDistanceVectorTable_drop stranger.1 stranger.2, withoutFakes_nextHop present]
  · rw [updateDistanceVectorTable_store stranger]
    split
    · rfl
    · rwa [withoutFakes_nextHop present]

theorem failed (supported : node.Supported) (owned : RowsOwned node.dvt) {dvt : DistanceVectorTable}
    (forgets : node.Forgets dvt) : (node.setDvt dvt).recompute.1.Supported := by
  have before : (node.setDvt dvt).Supported := by
    refine supported.congr (fun _ _ => id) (fun dst entry present there => ?_) rfl
    show (dvt.entry entry.nextHop dst).isSome
    rwa [forgets.next dst entry present]
  exact before.recompute (forgets.owned owned)

theorem purge (supported : node.Supported) (owned : RowsOwned node.dvt) :
    node.purgeNeighbors.1.Supported := by
  have handled := @handleLinkFailures_rule node (fun node _ => node.Supported ∧
    RowsOwned node.dvt) node.lost
    (fun node _ _ dvt ⟨supported, owned⟩ _ _ forgets =>
      ⟨supported.failed owned forgets, forgets.owned owned⟩)
      (fun _ => mem_lost) [] ⟨supported, owned⟩
  exact handled.1.congr (fun _ _ => id) (fun _ _ _ => id) rfl

theorem updateNeighbors (supported : node.Supported) (owned : RowsOwned node.dvt)
    (addr : Ipv4Address) (expire : Time) (hardware : Mac48Address) :
    (node.updateNeighbors addr expire hardware).1.Supported := by
  unfold Node.updateNeighbors
  split
  · exact supported
  · exact @Supported.purge { node with nb := node.nb ++
      [⟨addr, hardware, expire + node.now, false⟩] } supported owned

theorem joined (supported : node.Supported) {origin : Ipv4Address}
    (absent : node.dvt.entry origin origin = none) (receiver : Ipv4Address) :
    (node.joined origin receiver).Supported := by
  obtain ⟨table, frame⟩ := joined_frame node origin receiver
  have sockets : (node.joined origin receiver).socketAddresses = node.socketAddresses := by
    rw [frame]
  refine supported.congr (fun dst entry present => by rwa [joined_ft] at present)
    (fun dst entry _ there => ?_) sockets
  rw [joined_entry absent]
  split
  · rfl
  · exact there

theorem exchangeHello (supported : node.Supported) (named : node.Named)
    (origin receiver : Ipv4Address) :
    (node.exchangeHello origin receiver).1.Supported := by
  rw [exchangeHello_eq]
  cases found : node.dvt.entry origin origin with
  | none => exact (supported.joined found receiver).recompute (joined_rowsOwned named found)
  | some toNeighbor =>
      rw [ensureRow_of_entry found]
      intro dst entry present
      rw [refreshNeighbor_ft named found] at present
      obtain ⟨old, there, rfl⟩ := Option.map_eq_some_iff.mp present
      obtain ⟨outputDevice, same⟩ := node.rewritten_frame receiver toNeighbor old
      rw [same, refreshNeighbor_entry named found]
      refine (supported dst old there).imp_right fun listed => ?_
      split
      · rfl
      · rwa [Option.isSome_map]

theorem recvUpdate (supported : node.Supported) (named : node.Named) (header : UpdateHeader)
    (my src : Ipv4Address) :
    (node.recvUpdate header my src).1.Supported := by
  obtain ⟨prqueue, frame, _⟩ := recvUpdate_frame node header my src
  have learned : (node.learned header my src).Supported :=
    supported.learn src (node.updateEntry header my src)
  rw [frame]
  exact learned.recompute (learned_rowsOwned named header my src)

theorem interfaceUp (supported : node.Supported) (i : Nat) :
    (node.notifyInterfaceUp i).Supported := by
  intro dst entry present
  rw [notifyInterfaceUp_dvt]
  rcases notifyInterfaceUp_ft_cases present with old | ⟨real, rfl, rfl⟩
  · exact (supported dst entry old).imp_left fun own => own.interfaceUp i
  · exact .inl (broadcastEntry_own real)

theorem interfaceDown (supported : node.Supported) (sockets : node.SocketsNamed) (i : Nat) :
    (node.notifyInterfaceDown i).Supported := by
  intro dst entry present
  obtain ⟨before, other⟩ := notifyInterfaceDown_ft present
  rw [notifyInterfaceDown_dvt]
  exact (supported dst entry before).imp_left fun own => own.interfaceDown sockets other

theorem handle (supported : node.Supported) (named : node.Named) (sockets : node.SocketsNamed) :
    (node.handle event).1.Supported := by
  cases event using handle_cases node with
  | ignored socket sender message hardware same => rwa [same]
  | hello socket sender header hardware my received proper same =>
      rw [same, processHello]
      split
      · exact (supported.updateNeighbors named.rowsOwned _ _ _).exchangeHello
          (named.updateNeighbors _ _ _) _ _
      · exact supported.exchangeHello named _ _
  | update socket sender header hardware my received same =>
      rw [same]
      exact supported.recvUpdate named header my sender
  | purge => exact supported.purge named.rowsOwned
  | txError hardware => exact @Supported.purge (node.closing hardware) supported named.rowsOwned
  | interfaceUp i => exact supported.interfaceUp i
  | interfaceDown i => exact supported.interfaceDown sockets i
  | elapse duration => exact supported

theorem failures (supported : node.Supported) (owned : RowsOwned node.dvt) :
    ∀ call ∈ node.failureUpdates node.lost, call.learned.recompute.1.Agreeing := by
  intro call member
  obtain ⟨⟨supported, owned⟩, same, lost, _, entry, found, _⟩ := @failureUpdates_rule node
    (fun node => node.Supported ∧ RowsOwned node.dvt) node.lost
    (fun node dvt ⟨supported, owned⟩ forgets =>
      ⟨supported.failed owned forgets, forgets.owned owned⟩) (fun _ => mem_lost) ⟨supported,
      owned⟩ call member
  apply (supported.learn call.nxtHp call.rt).agreeing
  exact (learn_forgets (same ▸ mem_lost lost) (entry_isSome_row found) call.rt).owned owned

theorem updates (supported : node.Supported) (named : node.Named) :
    ∀ call ∈ node.updates event, call.learned.recompute.1.Agreeing := by
  intro call called
  cases event with
  | recv socket sender message hardware =>
      cases message with
      | hello header =>
          simp only [Node.updates] at called
          split at called
          · exact @failures (node.welcome header.origin hardware) supported named.rowsOwned call called
          · cases called
      | update header =>
          obtain ⟨my, _, rfl⟩ := List.mem_map.mp called
          exact (supported.learn sender (node.updateEntry header my sender)).agreeing
            (learned_rowsOwned named header my sender)
  | purge => exact failures supported named.rowsOwned call called
  | txError hardware => exact @failures (node.closing hardware) supported named.rowsOwned call called
  | interfaceUp i => cases called
  | interfaceDown i => cases called
  | elapse duration => cases called

theorem recomputations (supported : node.Supported) (named : node.Named) :
    ∀ before ∈ node.recomputations event, before.recompute.1.Agreeing := by
  intro before member
  rcases List.mem_append.mp member with learned | joined
  · obtain ⟨call, called, rfl⟩ := List.mem_map.mp learned
    exact supported.updates named call called
  · obtain ⟨updated, origin, my, rfl | ⟨hardware, rfl⟩, absent, rfl⟩ := mem_joins joined
    · exact (supported.joined absent my).agreeing (joined_rowsOwned named absent)
    · have welcomed := supported.updateNeighbors named.rowsOwned origin node.helloInterval hardware
      have names := named.updateNeighbors origin node.helloInterval hardware
      exact (welcomed.joined absent my).agreeing (joined_rowsOwned names absent)

end Supported

section Run
variable {interfaces : List Ipv4InterfaceAddress} {enableHello : Bool} {helloInterval : Time}
  {maxPRQueueLen : BitVec 32} {maxPRQueueTime : Time} {state : Node} {ok : Node → Event → Prop}

/-- What the tables hold in every run: entries are under their destinations, rows route through
their neighbours, entries of the forwarding table are supported, and agree with the rows after each
recomputation; and no read through `operator[]` misses its key. -/
theorem tables_supported
    (reach : Reach next ok (initial interfaces enableHello helloInterval maxPRQueueLen maxPRQueueTime) state) :
    ((∀ (dst : Ipv4Address) entry, state.ft[dst]? = some entry → entry.destination = dst) ∧
      (∀ neighbor dst route, state.dvt.entry neighbor dst = some route → route.destination = dst) ∧
      (∀ neighbors ft dvt nxtHp rt, updateDistanceVectorTable? neighbors ft dvt nxtHp rt =
        some (updateDistanceVectorTable neighbors ft dvt nxtHp rt)) ∧
      ∀ mainAddress neighbors dvt ft, computeForwardingTable? mainAddress neighbors dvt ft =
        some (computeForwardingTable mainAddress neighbors dvt ft)) ∧
    (∀ neighbor dst route, state.dvt.entry neighbor dst = some route → route.nextHop = neighbor) ∧
    (∀ dst entry, state.ft[dst]? = some entry →
      state.OwnEntry dst entry ∨ (state.dvt.entry entry.nextHop dst).isSome) ∧
    ∀ event, ∀ before ∈ state.recomputations event, before.recompute.1.Agreeing := by
  have all : state.Named ∧ state.SocketsNamed ∧ state.Supported := by
    refine reach.invariant (P := fun state => state.Named ∧ state.SocketsNamed ∧ state.Supported)
      ⟨initial_named _ _ _ _ _, initial_socketsNamed, ?_⟩ ?_
    · intro dst entry present
      obtain ⟨rfl, rfl⟩ := initial_ft_eq_some _ _ _ _ _ present
      exact .inl loopbackEntry_own
    · rintro before event after ⟨named, sockets, supported⟩ _ taken
      obtain ⟨_, rfl⟩ := next_eq_some taken
      exact ⟨named.handle event, sockets.handle event, supported.handle named sockets⟩
  obtain ⟨named, _, supported⟩ := all
  refine ⟨⟨fun _ _ => named.forwarding, fun _ _ _ found => (named.stored found).1, ?_, ?_⟩,
    fun _ _ _ found => (named.stored found).2, supported, fun event =>
    supported.recomputations named⟩
  · intro neighbors ft dvt nxtHp rt
    exact updateDistanceVectorTable?_eq nxtHp rt
  · intro mainAddress neighbors dvt ft
    exact computeForwardingTable?_eq mainAddress

end Run

theorem tables_supported_twoInterfaces :
    ∃ state entry, Reach next (fun _ _ => True) twoInterfaces state ∧
    state.ft[0x0a010209#32]? = some entry ∧ ¬state.OwnEntry 0x0a010209#32 entry ∧
    (state.OwnEntry 0x0a010209#32 entry ∨
      (state.dvt.entry entry.nextHop 0x0a010209#32).isSome) := by
  -- 10.1.2.2 tells of 10.1.2.9 and is heard
  obtain ⟨state, reach, checked⟩ := exists_reach_of_follow next (fun _ _ => True) twoInterfaces
    [.interfaceUp 1, update1 ⟨0x0a010202#32, 0x0a010209#32, 1, 1⟩, hello1 0x0a010202#32]
    (fun state => (state.ft[0x0a010209#32]?).any fun entry =>
      !decide (state.OwnEntry 0x0a010209#32 entry))
    (by decide +kernel)
  simp only [Option.any_eq_true, Bool.not_eq_true', decide_eq_false_iff_not] at checked
  obtain ⟨entry, present, foreign⟩ := checked
  exact ⟨state, entry, reach, present, foreign, (tables_supported reach).2.2.1 _ entry present⟩

end Node

end Bsdvr
