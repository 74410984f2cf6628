import Bsdvr.Foundation.Lease
import Bsdvr.Proof.Timers
import Bsdvr.Runs.Telling

namespace Bsdvr
open Foundation

/-! ## The neighbour list after an event -/

namespace Neighbors

theorem extend_eq_map {nb : Neighbors} (distinct : nb.addresses.Nodup) (now : Time)
    (addr : Ipv4Address) (expire : Time) (hardware : Mac48Address) :
    nb.extend now addr expire hardware = nb.map fun neighbor =>
      if neighbor.neighborAddress = addr then
        { neighbor with
          expireTime := max (expire + now) neighbor.expireTime
          hardwareAddress := if neighbor.hardwareAddress = 0 then hardware
          else neighbor.hardwareAddress }
      else neighbor := by
  induction nb with
  | nil => rfl
  | cons neighbor rest ih =>
      obtain ⟨absent, others⟩ := List.nodup_cons.mp distinct
      by_cases same : neighbor.neighborAddress = addr
      · rw [extend, if_pos same, List.map_cons, if_pos same]
        refine congrArg (_ :: ·) ?_
        conv_lhs => rw [← List.map_id rest]
        apply List.map_congr_left
        intro other member
        have differs : other.neighborAddress ≠ addr := fun also =>
          absent (same.trans also.symm ▸ List.mem_map_of_mem member)
        rw [if_neg differs]
        rfl
      · rw [extend, if_neg same, List.map_cons, if_neg same, ih others]

end Neighbors

namespace Node
variable {node : Node}

/-- The neighbour a HELLO is from, where it reaches `ProcessHello`. -/
def hearsFrom (node : Node) : Event → Option Ipv4Address
  | .recv socket _ (.hello header) _ =>
      if (node.receiver socket).isSome ∧ header.dst = header.origin then some header.origin
      else none
  | .recv _ _ (.update _) _ | .purge | .txError _ | .interfaceUp _ | .interfaceDown _ | .elapse _ =>
      none

theorem processHello_nb (enabled : node.enableHello = true) (header : HelloHeader)
    (receiver : Ipv4Address) (hardware : Mac48Address) :
    (node.processHello header receiver hardware).1.nb =
      if header.origin ∈ node.neighbors then
        node.nb.extend node.now header.origin node.helloInterval hardware
      else (node.welcome header.origin hardware).dropClosed.nb := by
  obtain ⟨_, _, exchanged⟩ := exchangeHello_frame
    (node.updateNeighbors header.origin node.helloInterval hardware).1 header.origin receiver
  have kept : (node.processHello header receiver hardware).1.nb =
      (node.updateNeighbors header.origin node.helloInterval hardware).1.nb := by
    simp only [processHello, if_pos enabled, exchanged]
  rw [kept]
  split
  · rename_i known
    rw [updateNeighbors_of_known known]
    rfl
  · rename_i stranger
    rw [updateNeighbors_of_stranger stranger]
    obtain ⟨table, frame⟩ := purgeNeighbors_frame (node.welcome header.origin hardware)
    rw [frame]

theorem purgeNeighbors_nb : node.purgeNeighbors.1.nb = node.dropClosed.nb := by
  obtain ⟨table, frame⟩ := purgeNeighbors_frame node
  rw [frame]

theorem notifyInterfaceDown_nb (i : Nat) : (node.notifyInterfaceDown i).nb =
    if node.cancelsHello (.interfaceDown i) then [] else node.nb := by
  simp only [cancelsHello, notifyInterfaceDown]
  split
  · rename_i last
    exact (if_pos last).symm
  · rename_i others
    exact (if_neg others).symm

end Node

/-! ## What is heard -/

/-- When each neighbour was last heard, but for those that were lost to a transmission error or with
the last interface since. -/
abbrev Heard := Ipv4Address → Option Time

namespace Heard

def record (timed : TimedNode) (event : TimedEvent) (heard : Heard) : Heard :=
  match event with
  | .control inner =>
      match timed.node.hearsFrom inner, inner with
      | some origin, _ => Function.update heard origin (some timed.node.now)
      | none, .txError hardware => fun addr =>
          if addr ∈ Neighbors.addresses (timed.node.nb.filter (·.hardwareAddress = hardware)) then
            none else heard addr
      | none, _ => if timed.node.cancelsHello inner then fun _ => none else heard
  | .doInitialize _ | .start | .helloTimerExpire _ | .purgeTimerExpire | .sendTo _ => heard

end Heard

abbrev Detecting := TimedNode × Heard

namespace Detecting
variable {state after : Detecting} {interval : Time}

def held (nb : Neighbors) (addr : Ipv4Address) (deadline : Time) : Prop :=
  ∃ neighbor ∈ nb, neighbor.neighborAddress = addr ∧ neighbor.expireTime = deadline

structure Detects (state : Detecting) (interval : Time) : Prop where
  enabled : state.1.node.enableHello = true
  helloInterval : state.1.node.helloInterval = interval
  distinct : state.1.node.neighbors.Nodup
  unclosed : ∀ neighbor ∈ state.1.node.nb, neighbor.close = false
  watches : Watches interval state.1.node.now (held state.1.node.nb) state.2
  swept : state.1.node.nb ≠ [] → ∃ due, state.1.ntimer = some due ∧ state.1.node.now ≤ due ∧
    ∀ neighbor ∈ state.1.node.nb, due ≤ neighbor.expireTime + TimedNode.purgeDelay
  beginning : state.1.started = false → state.1.node.now = 0

/-! ## One event -/

variable {timed later : TimedNode} {heard fresh : Heard} {nb : Neighbors} {now : Time}

theorem mem_dropped {neighbor : Neighbor} :
    (neighbor ∈ nb.filter fun neighbor => !neighbor.closed now) ↔
    neighbor ∈ nb ∧ now ≤ neighbor.expireTime ∧ neighbor.close = false := by
  simp [Neighbor.closed]

theorem watches_dropped (watches : Watches interval now (held nb) heard)
    (unclosed : ∀ neighbor ∈ nb, neighbor.close = false) :
    Watches interval now (held (nb.filter fun neighbor => !neighbor.closed now)) heard := by
  refine watches.sweep ?_ ?_
  · rintro addr deadline ⟨neighbor, member, same⟩
    exact ⟨neighbor, (mem_dropped.mp member).1, same⟩
  · rintro addr deadline ⟨neighbor, member, named, rfl⟩ alive
    exact ⟨neighbor, mem_dropped.mpr ⟨member, alive, unclosed neighbor member⟩, named, rfl⟩

theorem Detects.frame (detects : Detects (timed, heard) interval)
    (list : later.node.nb = timed.node.nb)
    (clock : later.node.now = timed.node.now ∧ later.node.helloInterval = timed.node.helloInterval ∧
      later.node.enableHello = timed.node.enableHello)
    (ntimer : later.ntimer = timed.ntimer) (started : later.started = timed.started) :
    Detects (later, heard) interval where
  enabled := clock.2.2.trans detects.enabled
  helloInterval := clock.2.1.trans detects.helloInterval
  distinct := by simpa only [Node.neighbors, list] using detects.distinct
  unclosed := by simpa only [list] using detects.unclosed
  watches := by simpa only [list, clock.1] using detects.watches
  swept := by simpa only [list, clock.1, ntimer] using detects.swept
  beginning := by simpa only [clock.1, started] using detects.beginning

theorem Detects.dropped (detects : Detects (timed, heard) interval) (distinct : nb.addresses.Nodup)
    (list : later.node.nb = nb.filter fun neighbor => !neighbor.closed timed.node.now)
    (watches : Watches interval timed.node.now (held later.node.nb) fresh)
    (clock : later.node.now = timed.node.now ∧ later.node.helloInterval = timed.node.helloInterval ∧
      later.node.enableHello = timed.node.enableHello)
    (ntimer : nb ≠ [] → later.ntimer = some (timed.node.now + TimedNode.purgeDelay))
    (started : later.started = timed.started) : Detects (later, fresh) interval where
  enabled := clock.2.2.trans detects.enabled
  helloInterval := clock.2.1.trans detects.helloInterval
  distinct := by
    rw [Node.neighbors, list]
    exact distinct.sublist (List.filter_sublist.map _)
  unclosed neighbor member := by
    rw [list] at member
    exact (mem_dropped.mp member).2.2
  watches := by simpa only [clock.1] using watches
  swept present := by
    have found : nb ≠ [] := by
      rintro rfl
      exact present list
    refine ⟨_, ntimer found, clock.1.trans_le (Nat.le_add_right _ _), fun neighbor member => ?_⟩
    rw [list] at member
    exact Nat.add_le_add_right (mem_dropped.mp member).2.1 _
  beginning := by simpa only [clock.1, started] using detects.beginning

theorem Detects.purge (detects : Detects (timed, heard) interval)
    (purged : later.node = timed.node.purgeNeighbors.1)
    (ntimer : timed.node.nb ≠ [] → later.ntimer = some (timed.node.now + TimedNode.purgeDelay))
    (started : later.started = timed.started) : Detects (later, heard) interval := by
  have list : later.node.nb = timed.node.nb.filter fun neighbor =>
      !neighbor.closed timed.node.now := by
    rw [purged, Node.purgeNeighbors_nb]
    rfl
  refine detects.dropped detects.distinct list ?_ (purged ▸ Node.handle_clock .purge) ntimer started
  rw [list]
  exact watches_dropped detects.watches detects.unclosed

theorem watches_hear {addr : Ipv4Address} {others : Neighbors} (entry : Neighbor)
    (watches : Watches interval now (held nb) heard)
    (added : ∀ neighbor, neighbor ∈ others ↔ neighbor = entry ∨
      (neighbor ∈ nb ∧ neighbor.neighborAddress ≠ addr))
    (named : entry.neighborAddress = addr) (renewed : entry.expireTime = now + interval) :
    Watches interval now (held others) (Function.update heard addr (some now)) := by
  refine watches.hear addr (fun deadline => ⟨?_, ?_⟩) fun other deadline differs => ⟨?_, ?_⟩
  · rintro ⟨neighbor, member, same, rfl⟩
    rcases (added neighbor).mp member with rfl | ⟨_, differs⟩
    · exact renewed
    · exact absurd same differs
  · rintro rfl
    exact ⟨entry, (added entry).mpr (.inl rfl), named, renewed⟩
  · rintro ⟨neighbor, member, same, until_⟩
    rcases (added neighbor).mp member with rfl | ⟨old, _⟩
    · exact absurd (same.symm.trans named) differs
    · exact ⟨neighbor, old, same, until_⟩
  · rintro ⟨neighbor, member, same, until_⟩
    exact ⟨neighbor, (added neighbor).mpr (.inr ⟨member, same ▸ differs⟩), same, until_⟩

theorem Detects.extend (detects : Detects (timed, heard) interval) {addr : Ipv4Address}
    (known : addr ∈ timed.node.neighbors) {hardware : Mac48Address}
    (list : later.node.nb = timed.node.nb.extend timed.node.now addr interval hardware)
    (clock : later.node.now = timed.node.now ∧ later.node.helloInterval = timed.node.helloInterval ∧
      later.node.enableHello = timed.node.enableHello)
    (ntimer : later.ntimer = timed.ntimer) (started : later.started = timed.started) :
    Detects (later, Function.update heard addr (some timed.node.now)) interval := by
  have mapped := Neighbors.extend_eq_map detects.distinct timed.node.now addr interval hardware
  obtain ⟨old, present, named⟩ := List.mem_map.mp known
  have renews (neighbor : Neighbor) (member : neighbor ∈ timed.node.nb) :
      max (interval + timed.node.now) neighbor.expireTime = timed.node.now + interval := by
    rw [Nat.add_comm]
    exact detects.watches.renews ⟨neighbor, member, rfl, rfl⟩
  refine ⟨clock.2.2.trans detects.enabled, clock.2.1.trans detects.helloInterval, ?_,
    ?_, ?_, ?_, ?_⟩
  · show later.node.nb.addresses.Nodup
    rw [list, Neighbors.addresses_extend]
    exact detects.distinct
  · intro neighbor member
    change neighbor ∈ later.node.nb at member
    rw [list, mapped] at member
    obtain ⟨before, listed, rfl⟩ := List.mem_map.mp member
    split <;> exact detects.unclosed before listed
  · show Watches interval later.node.now (held later.node.nb) _
    rw [clock.1, list, mapped]
    refine watches_hear
      { old with
        expireTime := max (interval + timed.node.now) old.expireTime
        hardwareAddress := if old.hardwareAddress = 0 then hardware else old.hardwareAddress }
      detects.watches (fun neighbor => ?_) named (renews old present)
    constructor
    · intro member
      obtain ⟨before, listed, rfl⟩ := List.mem_map.mp member
      split
      · rename_i same
        obtain rfl := List.inj_on_of_nodup_map detects.distinct listed present
          (same.trans named.symm)
        exact .inl rfl
      · rename_i differs
        exact .inr ⟨listed, differs⟩
    · rintro (rfl | ⟨listed, differs⟩)
      · exact List.mem_map.mpr ⟨old, present, if_pos named⟩
      · exact List.mem_map.mpr ⟨neighbor, listed, if_neg differs⟩
  · intro _
    obtain ⟨due, pending, soon, late⟩ := detects.swept (List.ne_nil_of_mem present)
    refine ⟨due, ntimer.trans pending, clock.1.trans_le soon, fun neighbor member => ?_⟩
    change neighbor ∈ later.node.nb at member
    rw [list, mapped] at member
    obtain ⟨before, listed, rfl⟩ := List.mem_map.mp member
    refine (late before listed).trans (Nat.add_le_add_right ?_ _)
    split
    · exact le_max_right _ _
    · exact le_rfl
  · show later.started = false → later.node.now = 0
    rw [started, clock.1]
    exact detects.beginning

theorem Detects.push (detects : Detects (timed, heard) interval) {addr : Ipv4Address}
    (stranger : addr ∉ timed.node.neighbors) {hardware : Mac48Address}
    (list : later.node.nb = (timed.node.welcome addr hardware).dropClosed.nb)
    (clock : later.node.now = timed.node.now ∧ later.node.helloInterval = timed.node.helloInterval ∧
      later.node.enableHello = timed.node.enableHello)
    (ntimer : later.ntimer = some (timed.node.now + TimedNode.purgeDelay))
    (started : later.started = timed.started) :
    Detects (later, Function.update heard addr (some timed.node.now)) interval := by
  have pushed : (timed.node.welcome addr hardware).nb =
      timed.node.nb ++ [⟨addr, hardware, interval + timed.node.now, false⟩] := by
    rw [← detects.helloInterval]
    rfl
  change later.node.nb = (timed.node.welcome addr hardware).nb.filter _ at list
  rw [pushed] at list
  refine detects.dropped ?_ list ?_ clock (fun _ => ntimer) started
  · rw [Neighbors.addresses_append]
    simpa using detects.distinct.concat stranger
  · rw [list]
    change Watches _ _ (held (List.filter (fun neighbor => !neighbor.closed timed.node.now) _)) _
    refine watches_dropped (watches_hear ⟨addr, hardware, interval + timed.node.now,
      false⟩ detects.watches
      (fun neighbor => ?_) rfl (Nat.add_comm _ _)) fun neighbor member => ?_
    · have unlisted : neighbor ∈ timed.node.nb ↔ neighbor ∈ timed.node.nb ∧
          neighbor.neighborAddress ≠ addr :=
        ⟨fun listed => ⟨listed, fun same => stranger (same ▸ List.mem_map_of_mem listed)⟩, And.left⟩
      rw [List.mem_append, List.mem_singleton, or_comm]
      exact or_congr_right unlisted
    · rcases List.mem_append.mp member with listed | added
      · exact detects.unclosed neighbor listed
      · rw [List.mem_singleton.mp added]

theorem Detects.txError (detects : Detects (timed, heard) interval) (hardware : Mac48Address)
    (list : later.node.nb = (timed.node.nb.closeMatching hardware).filter fun neighbor =>
      !neighbor.closed timed.node.now)
    (clock : later.node.now = timed.node.now ∧ later.node.helloInterval = timed.node.helloInterval ∧
      later.node.enableHello = timed.node.enableHello)
    (ntimer : timed.node.nb ≠ [] → later.ntimer = some (timed.node.now + TimedNode.purgeDelay))
    (started : later.started = timed.started) :
    Detects (later, fun addr =>
      if addr ∈ Neighbors.addresses (timed.node.nb.filter (·.hardwareAddress = hardware)) then none
      else heard addr) interval := by
  have spared {neighbor : Neighbor} (listed : neighbor ∈ timed.node.nb) : neighbor.neighborAddress ∈
      Neighbors.addresses (timed.node.nb.filter (·.hardwareAddress = hardware)) ↔
      neighbor.hardwareAddress = hardware := by
    constructor
    · intro hit
      obtain ⟨other, member, same⟩ := List.mem_map.mp hit
      obtain ⟨present, matches_⟩ := List.mem_filter.mp member
      obtain rfl := List.inj_on_of_nodup_map detects.distinct present listed same
      exact of_decide_eq_true matches_
    · intro matches_
      exact List.mem_map_of_mem (List.mem_filter.mpr ⟨listed, decide_eq_true matches_⟩)
  refine detects.dropped ?_ list ?_ clock
    (fun present => ntimer fun empty => present (by rw [empty]; rfl)) started
  · rw [Neighbors.addresses_closeMatching]
    exact detects.distinct
  · rw [list]
    have revoked : Watches interval timed.node.now (fun addr deadline =>
        addr ∉ Neighbors.addresses (timed.node.nb.filter (·.hardwareAddress = hardware)) ∧
        held timed.node.nb addr deadline) _ :=
      detects.watches.revoke _ fun _ _ => Iff.rfl
    refine revoked.sweep ?_ ?_
    · rintro addr deadline ⟨neighbor, member, rfl, rfl⟩
      obtain ⟨closed, _, opened⟩ := mem_dropped.mp member
      obtain ⟨old, listed, rfl⟩ := List.mem_map.mp closed
      split at opened
      · cases opened
      · rename_i other
        rw [if_neg other]
        exact ⟨fun hit => other ((spared listed).mp hit), old, listed, rfl, rfl⟩
    · rintro addr deadline ⟨miss, neighbor, listed, rfl, rfl⟩ alive
      have other : neighbor.hardwareAddress ≠ hardware :=
        fun matches_ => miss ((spared listed).mpr matches_)
      refine ⟨neighbor, mem_dropped.mpr ⟨?_, alive, detects.unclosed neighbor listed⟩, rfl, rfl⟩
      exact List.mem_map.mpr ⟨neighbor, listed, if_neg other⟩

theorem Detects.hello (detects : Detects (timed, heard) interval) (socket : Socket)
    (sender : Ipv4Address) (header : HelloHeader) (hardware : Mac48Address) :
    Detects ((timed.control (.recv socket sender (.hello header) hardware)).1,
      Heard.record timed (.control (.recv socket sender (.hello header) hardware)) heard)
        interval := by
  have clock := @Node.handle_clock timed.node (.recv socket sender (.hello header) hardware)
  by_cases accepted : (timed.node.receiver socket).isSome ∧ header.dst = header.origin
  · obtain ⟨my, received⟩ := Option.isSome_iff_exists.mp accepted.1
    have handled : timed.node.handle (.recv socket sender (.hello header) hardware) =
        timed.node.processHello header my hardware := by
      simp only [Node.handle, Node.recvBsdv, received, Node.recvHello, if_pos accepted.2]
    have list := @Node.processHello_nb timed.node detects.enabled header my hardware
    have recorded : Heard.record timed (.control (.recv socket sender (.hello header) hardware))
        heard =
        Function.update heard header.origin (some timed.node.now) := by
      simp only [Heard.record, Node.hearsFrom, if_pos accepted]
    rw [recorded]
    rw [← handled] at list
    by_cases known : header.origin ∈ timed.node.neighbors
    · have restarts : timed.node.restartsPurge (.recv socket sender (.hello header) hardware) =
          false := by
        simp [Node.restartsPurge, known]
      rw [if_pos known, detects.helloInterval] at list
      exact detects.extend known list clock (by simp [TimedNode.control, restarts]) rfl
    · have restarts : timed.node.restartsPurge (.recv socket sender (.hello header) hardware) =
          true := by
        simpa [Node.restartsPurge, known, received, accepted.2] using detects.enabled
      rw [if_neg known] at list
      exact detects.push known list clock (by simp [TimedNode.control, restarts]) rfl
  · have handled : timed.node.handle (.recv socket sender (.hello header) hardware) =
        (timed.node, []) := by
      by_cases proper : header.dst = header.origin
      · apply Node.handle_unaddressed
        exact Option.not_isSome_iff_eq_none.mp fun received => accepted ⟨received, proper⟩
      · exact Node.handle_unconfirmed proper
    have recorded : Heard.record timed (.control (.recv socket sender (.hello header) hardware))
        heard = heard := by
      simp [Heard.record, Node.hearsFrom, accepted, Node.cancelsHello]
    have restarts : timed.node.restartsPurge (.recv socket sender (.hello header) hardware) =
        false := by
      rw [Bool.eq_false_iff]
      simp only [Node.restartsPurge, Bool.and_eq_true, decide_eq_true_eq, ne_eq, not_and]
      exact fun both => absurd both.1 accepted
    rw [recorded]
    refine detects.frame ?_ clock (by simp [TimedNode.control, restarts]) rfl
    simp [handled]

theorem Detects.clear (detects : Detects (timed, heard) interval) (list : later.node.nb = [])
    (clock : later.node.now = timed.node.now ∧ later.node.helloInterval = timed.node.helloInterval ∧
      later.node.enableHello = timed.node.enableHello)
    (started : later.started = timed.started) : Detects (later, fun _ => none) interval where
  enabled := clock.2.2.trans detects.enabled
  helloInterval := clock.2.1.trans detects.helloInterval
  distinct := by
    rw [Node.neighbors, list]
    exact List.nodup_nil
  unclosed neighbor member := by
    rw [list] at member
    cases member
  watches := by
    constructor
    · intro addr time known
      cases known
    · rw [list]
      rintro addr deadline ⟨neighbor, member, _⟩
      cases member
    · intro addr time known
      cases known
  swept present := absurd list present
  beginning := by simpa only [clock.1, started] using detects.beginning

theorem Detects.control (detects : Detects (timed, heard) interval) {event : Node.Event}
    (enabled : timed.Enabled (.control event)) :
    Detects ((timed.control event).1, Heard.record timed (.control event) heard) interval := by
  have clock := @Node.handle_clock timed.node event
  cases event with
  | recv socket sender message hardware =>
      cases message with
      | hello header => exact detects.hello socket sender header hardware
      | update header =>
          refine detects.frame ?_ clock rfl rfl
          show (timed.node.handle (.recv socket sender (.update header) hardware)).1.nb =
            timed.node.nb
          cases received : timed.node.receiver socket with
          | none => rw [Node.handle_unaddressed received]
          | some my =>
              obtain ⟨prqueue, frame, _⟩ := Node.recvUpdate_frame timed.node header my sender
              simp only [Node.handle, Node.recvBsdv, received, frame]
              rfl
  | purge => cases enabled
  | txError hardware =>
      refine detects.txError hardware ?_ clock (fun present => ?_) rfl
      · exact @Node.purgeNeighbors_nb (timed.node.closing hardware)
      · simp [TimedNode.control, Node.restartsPurge, present]
  | interfaceUp i =>
      refine detects.frame ?_ clock rfl rfl
      obtain ⟨_, _, _, _, _, _, frame⟩ := Node.notifyInterfaceUp_frame timed.node i
      simp only [TimedNode.control_node, Node.handle, frame]
      rfl
  | interfaceDown i =>
      have list := @Node.notifyInterfaceDown_nb timed.node i
      by_cases last : timed.node.cancelsHello (.interfaceDown i) = true
      · have recorded : Heard.record timed (.control (.interfaceDown i)) heard = fun _ => none :=
          if_pos last
        rw [recorded]
        rw [if_pos last] at list
        exact detects.clear list clock rfl
      · have recorded : Heard.record timed (.control (.interfaceDown i)) heard = heard :=
          if_neg last
        rw [recorded]
        rw [if_neg last] at list
        exact detects.frame list clock rfl rfl
  | elapse duration =>
      obtain ⟨running, _, purges, _⟩ := enabled
      refine ⟨detects.enabled, detects.helloInterval, detects.distinct, detects.unclosed,
        detects.watches.advance (Nat.le_add_right _ _), fun present => ?_, fun stopped => ?_⟩
      · obtain ⟨due, pending, _, late⟩ := detects.swept present
        exact ⟨due, pending, purges due pending, late⟩
      · exact absurd (running.symm.trans stopped) (by simp)

theorem Detects.next {event : TimedEvent} (detects : state.Detects interval)
    (taken : recording TimedNode.next Heard.record state event = some after) :
    after.Detects interval := by
  obtain ⟨timed, heard⟩ := state
  obtain ⟨stepped, recorded⟩ := recording_eq_some taken
  obtain ⟨enabled, handled⟩ := TimedNode.next_eq_some stepped
  obtain ⟨later, afterwards⟩ := after
  obtain rfl : (timed.handle event).1 = later := handled
  obtain rfl : afterwards = Heard.record timed event heard := recorded
  cases event with
  | doInitialize startTime => exact detects.frame rfl ⟨rfl, rfl, rfl⟩ rfl rfl
  | start =>
      have ntimer : timed.start.ntimer = some (timed.node.now + TimedNode.purgeDelay) :=
        if_pos detects.enabled
      refine ⟨detects.enabled, detects.helloInterval, detects.distinct, detects.unclosed,
        detects.watches, fun _ => ?_, nofun⟩
      refine ⟨_, ntimer, Nat.le_add_right _ _, fun neighbor _ => Nat.add_le_add_right ?_ _⟩
      rw [detects.beginning enabled]
      exact Nat.zero_le _
  | helloTimerExpire jitters =>
      by_cases deferred : 0 < timed.lastBcastTime
      · refine detects.frame ?_ ?_ ?_ ?_ <;> simp [TimedNode.handle,
          TimedNode.helloTimerExpire, deferred]
      · apply detects.purge
        · simp [TimedNode.handle, TimedNode.helloTimerExpire, deferred, TimedNode.sendHello,
            Node.handle]
        · intro present
          simp [TimedNode.handle, TimedNode.helloTimerExpire, deferred, TimedNode.sendHello,
            TimedNode.control, Node.restartsPurge, present]
        · simp [TimedNode.handle, TimedNode.helloTimerExpire, deferred, TimedNode.sendHello,
            TimedNode.control]
  | purgeTimerExpire =>
      refine detects.purge rfl (fun present => ?_) rfl
      simp [TimedNode.handle, TimedNode.control, Node.restartsPurge, present]
  | sendTo call => exact detects.frame rfl ⟨rfl, rfl, rfl⟩ rfl rfl
  | control event => exact detects.control enabled

/-! ## Runs -/

section Run
variable {interfaces : List Ipv4InterfaceAddress} {helloInterval : Time} {maxPRQueueLen : BitVec 32}
  {maxPRQueueTime : Time}

abbrev Run (interfaces : List Ipv4InterfaceAddress) (helloInterval : Time)
    (maxPRQueueLen : BitVec 32) (maxPRQueueTime : Time) : Detecting → Prop :=
  Reach (recording TimedNode.next Heard.record) (fun _ _ => True)
    (TimedNode.initial (Node.initial interfaces true helloInterval maxPRQueueLen maxPRQueueTime),
      fun _ => none)

theorem detects_of_run (run : Run interfaces helloInterval maxPRQueueLen maxPRQueueTime state) :
    state.Detects helloInterval := by
  refine run.invariant (P := fun state => state.Detects helloInterval) ?_
    fun before event after detects _ taken => detects.next taken
  refine ⟨rfl, rfl, List.nodup_nil, nofun, ⟨nofun, ?_, nofun⟩, fun present => absurd rfl present,
    fun _ => rfl⟩
  rintro addr deadline ⟨neighbor, member, _⟩
  cases member

/-- A listed neighbour was heard, and no longer ago than the HELLO interval and the delay of the
purge timer; its entry expires one interval after it was heard last. What was heard within the
interval is listed. -/
theorem neighbors_heard (run : Run interfaces helloInterval maxPRQueueLen maxPRQueueTime state) :
    (∀ neighbor ∈ state.1.node.nb, ∃ time, state.2 neighbor.neighborAddress = some time ∧
      neighbor.expireTime = time + helloInterval ∧
      state.1.node.now ≤ time + helloInterval + TimedNode.purgeDelay) ∧
    ∀ addr time, state.2 addr = some time → state.1.node.now ≤ time + helloInterval →
    addr ∈ state.1.node.neighbors := by
  have detects := detects_of_run run
  constructor
  · intro neighbor member
    obtain ⟨due, _, soon, late⟩ := detects.swept (List.ne_nil_of_mem member)
    exact detects.watches.heard_within ⟨neighbor, member, rfl, rfl⟩ (late neighbor member) soon
  · intro addr time known alive
    obtain ⟨neighbor, member, rfl, _⟩ := detects.watches.kept addr time known alive
    exact List.mem_map_of_mem member

theorem neighbors_heard_overdue : ∃ state,
    Run [.loopback, ⟨0x0a010201#32, 0xffffff00#32, 0x0a0102ff#32⟩]
    (milliSeconds 1000) 50 (milliSeconds 1000) state ∧
    state.1.node.neighbors = [0x0a010203#32] ∧ state.1.node.now = milliSeconds 2500 ∧
    ∀ neighbor ∈ state.1.node.nb, ∃ time, state.2 neighbor.neighborAddress = some time ∧
      state.1.node.now ≤ time + milliSeconds 1000 + TimedNode.purgeDelay := by
  -- 10.1.2.3 is heard at 700 ms, spared by the purge at 1700 ms, and overdue until the next one
  obtain ⟨state, run, checked⟩ := exists_reach_of_follow (recording TimedNode.next Heard.record)
    (fun _ _ => True)
    (TimedNode.initial (Node.initial [.loopback, ⟨0x0a010201#32, 0xffffff00#32, 0x0a0102ff#32⟩] true
      (milliSeconds 1000) 50
      (milliSeconds 1000)), fun _ => none)
    [.control (.interfaceUp 1), .start, .control (.elapse (milliSeconds 700)),
      .control (.recv ⟨3, 1, 0x0a0102ff#32⟩ 0x0a010203#32
        (.hello ⟨0x0a010203#32, 0x0a010203#32⟩) 7),
      .control (.elapse (milliSeconds 1000)), .purgeTimerExpire,
      .control (.elapse (milliSeconds 800))]
    (fun state => decide (state.1.node.neighbors = [0x0a010203#32]) && decide
      (state.1.node.now = milliSeconds 2500))
    (by decide +kernel)
  simp only [Bool.and_eq_true, decide_eq_true_eq] at checked
  refine ⟨state, run, checked.1, checked.2, fun neighbor member => ?_⟩
  obtain ⟨time, known, _, recent⟩ := (neighbors_heard run).1 neighbor member
  exact ⟨time, known, recent⟩

end Run

end Detecting

end Bsdvr
