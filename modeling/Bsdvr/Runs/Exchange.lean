import Bsdvr.Runs.LostNeighbors

namespace Bsdvr
open Foundation

namespace Node
variable {node : Node} {event : Event}

def updatesTo (sent : List Sent) (ne dst : Ipv4Address) : List Sent :=
  sent.filter fun update => update.neighbor = ne ∧ update.header.dst = dst

/-- A HELLO that adds its origin to the neighbour list makes the node send it one UPDATE, on an open
socket, for each entry of the forwarding table it is left with, but for those of itself, the origin
and loopback. -/
def ExchangesTable (node : Node) : Event → Prop
  | .recv socket sender (.hello header) hardware =>
      (node.receiver socket).isSome → header.dst = header.origin → header.origin ∉ node.neighbors →
        ∀ dst entry,
          (node.handle (.recv socket sender (.hello header) hardware)).1.ft[dst]? = some entry →
          dst ≠ node.mainAddress → dst ≠ header.origin → dst ≠ loopback →
            updatesTo (node.handle (.recv socket sender (.hello header) hardware)).2
              header.origin dst =
              [node.sendUpdate entry header.origin] ∧
                (node.sendUpdate entry header.origin).socket.isSome
  | _ => True

def PassesLost (node : Node) : Prop :=
  ∀ neighbor ∈ node.nb.filter (·.closed node.now), filtered neighbor.neighborAddress ∨
    node.dvt.entry neighbor.neighborAddress neighbor.neighborAddress = none

instance (node : Node) : Decidable node.PassesLost := List.decidableBAll _ _

/-- No neighbour that is lost is reported, or its report announces nothing of what is exchanged with
`origin`. -/
def ReportsNothing (node : Node) (origin : Ipv4Address) : Prop :=
  node.PassesLost ∨ ∀ pair ∈ node.rowsOf node.neighbors, (node.ft[pair.1]?).isSome ∨
    pair.1 = node.mainAddress ∨ pair.1 = origin ∨
    pair.1 = loopback

instance (node : Node) (origin : Ipv4Address) : Decidable (node.ReportsNothing origin) :=
  inferInstanceAs (Decidable (_ ∨ ∀ pair ∈ node.rowsOf node.neighbors, _ ∨ _ ∨ _ ∨ _))

/-- The routes considered are on open interfaces. A HELLO that adds its origin to the neighbour list
finds no route to the origin in its row, the purge that comes with it reports nothing, and no route
is to the unset address. -/
def JoinsAfresh (node : Node) (event : Event) : Prop :=
  node.ConsidersOpen event ∧
    match event with
    | .recv _ _ (.hello header) hardware => header.dst = header.origin →
        header.origin ∉ node.neighbors →
        node.dvt.entry header.origin header.origin = none ∧
          (node.welcome header.origin hardware).ReportsNothing header.origin ∧
          ∀ pair ∈ node.advertisable event, pair.1 ≠ unsetAddress
    | _ => True

instance (node : Node) (event : Event) : Decidable (node.JoinsAfresh event) :=
  match event with
  | .recv _ _ (.hello _) _ => inferInstanceAs (Decidable (_ ∧
      (_ → _ → _ ∧ _ ∧ ∀ pair ∈ node.advertisable _, _ ≠ _)))
  | .recv _ _ (.update _) _ | .purge | .txError _ | .interfaceUp _ | .interfaceDown _ | .elapse _ =>
      inferInstanceAs (Decidable (_ ∧ True))

theorem handleLinkFailures_of_passed {failed : List Ipv4Address}
    (passed : ∀ ne ∈ failed, filtered ne = true ∨ node.dvt.entry ne ne = none) :
    node.handleLinkFailures failed = (node, []) := by
  induction failed with
  | nil => rfl
  | cons ne rest ih =>
      have first : node.sendUpdateOnLinkFailure ne = (node, []) := by
        unfold sendUpdateOnLinkFailure
        rcases passed ne List.mem_cons_self with skipped | absent
        · rw [if_pos skipped]
        · rw [absent]
          simp
      simp only [handleLinkFailures, first, ih fun other member => passed other (.tail _ member),
        List.append_nil]

theorem PassesLost.handled (passes : node.PassesLost) :
    node.handleLinkFailures node.lost = (node, []) := by
  apply handleLinkFailures_of_passed
  intro ne lost
  obtain ⟨neighbor, listed, rfl⟩ := List.mem_map.mp lost
  exact passes neighbor listed

theorem updatesTo_exchange (named : node.Named) {ne dst : Ipv4Address} {entry : RoutingTableEntry}
    (present : node.ft[dst]? = some entry) (set : dst ≠ unsetAddress)
    (main : dst ≠ node.mainAddress) (apart : dst ≠ ne) (remote : dst ≠ loopback) :
    updatesTo (node.sendTriggeredUpdateToNeighbor ne) ne dst = [node.sendUpdate entry ne] := by
  have here := named.forwarding present
  refine filter_filterMap_of_nodup (nodup_keys node.ft)
    (Std.TreeMap.mem_toList_iff_getElem?_eq_some.mpr present) ?_ ?_
  · simp only
    rw [if_neg (by rwa [here]), if_pos ⟨main, apart, remote⟩]
  · rintro ⟨key, other⟩ listed update made
    have there := named.forwarding (Std.TreeMap.mem_toList_iff_getElem?_eq_some.mp listed)
    simp only at made
    split at made
    · cases made
    · split at made
      · rw [← Option.some.inj made, decide_eq_true_eq]
        constructor
        · rintro ⟨_, same⟩
          exact there.symm.trans same
        · rintro rfl
          exact ⟨rfl, there⟩
      · cases made

theorem updatesTo_welcome (named : node.Named) {origin dst : Ipv4Address} {hardware : Mac48Address}
    (stranger : origin ∉ node.neighbors)
    (silent : (node.welcome origin hardware).ReportsNothing origin) (main : dst ≠ node.mainAddress)
    (apart : dst ≠ origin) (remote : dst ≠ loopback) :
    updatesTo (node.updateNeighbors origin node.helloInterval hardware).2 origin dst = [] := by
  have purged : (node.updateNeighbors origin node.helloInterval hardware).2 =
      (node.welcome origin hardware).purgeNeighbors.2 := by
    rw [updateNeighbors, if_neg stranger]
    rfl
  rw [purged, updatesTo, List.filter_eq_nil_iff]
  intro update member about
  rcases silent with passed | known
  · rw [purgeNeighbors, passed.handled] at member
    cases member
  · have before : (node.welcome origin hardware).Named := named.congr rfl rfl
    have holds := @considers_holds (fun dst _ => ((node.ft[dst]?).isSome ∨ dst = node.mainAddress ∨
      dst = origin ∨
        dst = loopback)) _ (node.welcome origin hardware).neighbors before
      (fun dst entry present => .inl (by
        rw [show node.ft[dst]? = some entry from present]
        rfl)) fun pair listed => ?_
    · obtain ⟨ne, about', entry, ⟨destination, there, _⟩, ⟨_, _, _, absent⟩, rfl⟩ :=
        (holds.purge considers_closed).sends update member
      rw [decide_eq_true_eq] at about
      have same : about' = dst := destination.symm.trans about.2
      rw [same] at there absent
      rcases there with here | here | here | here
      · rw [show node.ft[dst]? = none from absent] at here
        cases here
      · exact main here
      · exact apart here
      · exact remote here
    · rcases List.mem_append.mp listed with row | next
      · obtain ⟨ne, member, found⟩ := List.mem_flatMap.mp row
        obtain ⟨entry, there, rfl⟩ := List.mem_map.mp found
        exact known entry (List.mem_flatMap.mpr ⟨ne, member, there⟩)
      · obtain ⟨⟨key, entry⟩, there, made⟩ := List.mem_filterMap.mp next
        obtain ⟨route, _, rfl⟩ := Option.map_eq_some_iff.mp made
        left
        rw [show node.ft[key]? = some entry
          from Std.TreeMap.mem_toList_iff_getElem?_eq_some.mp there]
        rfl

theorem updateNeighbors_entry (addr : Ipv4Address) (expire : Time) (hardware : Mac48Address)
    {neighbor dst : Ipv4Address} {route : RoutingTableEntry}
    (found : (node.updateNeighbors addr expire hardware).1.dvt.entry neighbor dst = some route) :
    node.dvt.entry neighbor dst = some route := by
  let rows : Contract := ⟨fun _ _ => True, fun neighbor dst route =>
    node.dvt.entry neighbor dst = some route, fun _ => False⟩
  have holds : rows.Holds node := ⟨fun _ _ _ => trivial, fun _ _ _ => id, fun _ => False.elim⟩
  have closed (neighbors : List Ipv4Address) : rows.Closed neighbors :=
    ⟨fun _ _ _ _ _ => trivial, fun _ _ _ _ _ _ => trivial, fun _ _ _ _ _ => trivial⟩
  exact (holds.updateNeighbors addr expire hardware (closed _)).holds.stored _ _ _ found

theorem JoinsAfresh.exchanges (joins : node.JoinsAfresh event) (grounded : node.Grounded)
    (named : node.Named) (sockets : node.SocketsNamed) (enabled : node.enableHello = true) :
    node.ExchangesTable event := by
  cases event with
  | recv socket sender message hardware =>
      cases message with
      | hello header =>
          intro addressed proper stranger dst entry present main apart remote
          obtain ⟨absent, silent, set⟩ := joins.2 proper stranger
          obtain ⟨my, received⟩ := Option.isSome_iff_exists.mp addressed
          have after := (grounded.handle named sockets joins.1).2 dst entry present
          have unset : dst ≠ unsetAddress := by
            refine (handle_considered (P := fun dst _ => dst ≠ unsetAddress) named _
              (fun dst entry there => ?_)
              fun pair listed => set pair (List.mem_append_right _ listed)).1 dst entry present
            exact set (dst, entry.iface) (List.mem_append_left _ (List.mem_map.mpr
              ⟨(dst, entry), Std.TreeMap.mem_toList_iff_getElem?_eq_some.mpr there, rfl⟩))
          set welcomed := (node.updateNeighbors header.origin node.helloInterval hardware).1
            with hwelcomed
          have missing : welcomed.dvt.entry header.origin header.origin = none := by
            by_contra there
            obtain ⟨route, found⟩ := Option.ne_none_iff_exists'.mp there
            rw [updateNeighbors_entry _ _ _ found] at absent
            cases absent
          have handled : node.handle (.recv socket sender (.hello header) hardware) =
              ((welcomed.joined header.origin my).recompute.1,
                (node.updateNeighbors header.origin node.helloInterval hardware).2 ++
                  (welcomed.joined header.origin my).recompute.1.sendTriggeredUpdateToNeighbor
                  header.origin) := by
            simp only [handle, recvBsdv, received, recvHello, if_pos proper, processHello,
              if_pos enabled, exchangeHello_eq, ← hwelcomed, missing]
          have same := @handle_setup node (.recv socket sender (.hello header) hardware)
            (by simp) (by simp)
          have names := named.handle (.recv socket sender (.hello header) hardware)
          rw [handled] at present same names after ⊢
          have sent : (welcomed.joined header.origin my).recompute.1.sendUpdate entry
              header.origin =
              node.sendUpdate entry header.origin := same.sendUpdate entry header.origin
          constructor
          · rw [updatesTo, List.filter_append, ← updatesTo, ← updatesTo,
              updatesTo_welcome named stranger silent main apart remote,
              updatesTo_exchange names present unset (by rwa [same.mainAddress]) apart remote, sent]
            rfl
          · rcases after with onOpen | ⟨lo, _⟩
            · exact (same.hasSocket _).mp onOpen
            · exact absurd lo remote
      | update header => trivial
  | purge => trivial
  | txError hardware => trivial
  | interfaceUp i => trivial
  | interfaceDown i => trivial
  | elapse duration => trivial

section Run
variable {interfaces : List Ipv4InterfaceAddress} {helloInterval : Time} {maxPRQueueLen : BitVec 32}
  {maxPRQueueTime : Time} {state : Node}

/-- In a run in which neighbours join afresh, each of them gets the full table. -/
theorem exchangesTable_of_joinsAfresh
    (reach : Reach next JoinsAfresh (initial interfaces true helloInterval maxPRQueueLen maxPRQueueTime) state)
    (joins : state.JoinsAfresh event) : state.ExchangesTable event := by
  obtain ⟨grounded, sockets⟩ := grounded_of_reach (reach.mono fun _ _ => And.left)
  have named := reach_named (initial_named _ _ _ _ _) reach
  have enabled : state.enableHello = true := by
    refine reach.invariant (P := fun state => state.enableHello = true) rfl
      fun before event after enabled _ taken => ?_
    obtain ⟨_, rfl⟩ := next_eq_some taken
    exact (handle_enableHello event).trans enabled
  exact joins.exchanges grounded named sockets enabled

end Run

theorem exchangesTable_of_joinsAfresh_twoInterfaces :
    ∃ state, Reach next JoinsAfresh twoInterfaces state ∧
    (state.handle (hello1 0x0a010203#32)).2.map (fun update => update.header.dst) =
      [0x0a010202#32, 0x0a0102ff#32] ∧
    state.ExchangesTable (hello1 0x0a010203#32) := by
  obtain ⟨state, reach, checked⟩ := exists_reach_of_follow next JoinsAfresh twoInterfaces
    [.interfaceUp 1, hello1 0x0a010202#32]
    (fun state => decide (state.JoinsAfresh (hello1 0x0a010203#32)) &&
      decide ((state.handle (hello1 0x0a010203#32)).2.map (fun update => update.header.dst) =
        [0x0a010202#32, 0x0a0102ff#32])) (by decide +kernel)
  simp only [Bool.and_eq_true, decide_eq_true_eq] at checked
  exact ⟨state, reach, checked.2, exchangesTable_of_joinsAfresh reach checked.1⟩

theorem not_exchangesTable_twoInterfaces :
    ∃ state, Reach next (fun _ _ => True) twoInterfaces state ∧
    state.Enabled (hello1 0x0a010202#32) ∧ ¬state.ExchangesTable (hello1 0x0a010202#32) := by
  -- 10.1.2.2 is heard, expires and is heard again: the second time it is sent nothing
  obtain ⟨state, reach, checked⟩ := exists_reach_of_follow next (fun _ _ => True) twoInterfaces
    [.interfaceUp 1, hello1 0x0a010202#32, .elapse 1001, .purge]
    (fun state => decide (state.Enabled (hello1 0x0a010202#32)) && decide
      (0x0a010202#32 ∉ state.neighbors) &&
      decide (state.mainAddress = 0x0a010201#32) &&
        ((state.handle (hello1 0x0a010202#32)).1.ft[0x0a0102ff#32]?).isSome &&
      (state.handle (hello1 0x0a010202#32)).2.isEmpty) (by decide +kernel)
  simp only [Bool.and_eq_true, decide_eq_true_eq, List.isEmpty_iff] at checked
  obtain ⟨⟨⟨⟨enabled, stranger⟩, main⟩, present⟩, silent⟩ := checked
  refine ⟨state, reach, enabled, fun exchanges => ?_⟩
  obtain ⟨entry, present⟩ := Option.isSome_iff_exists.mp present
  have sent := (exchanges enabled.2 rfl stranger _ entry present (by rw [main]; decide) (by decide)
    (by decide)).1
  rw [show state.handle (.recv ⟨3, 1, 0x0a0102ff#32⟩ 0x0a010202#32
    (.hello ⟨0x0a010202#32, 0x0a010202#32⟩) 0) =
    state.handle (hello1 0x0a010202#32) from rfl, silent] at sent
  cases sent

end Node

end Bsdvr
