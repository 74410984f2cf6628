import Bsdvr.Runs.Beacons
import Bsdvr.Runs.Detection

namespace Bsdvr
open Foundation

/-- A node whose HELLOs reach another node: `flight` has when each HELLO on its way was handed to
its socket. -/
structure Link where
  sender : Beaconing
  receiver : Detecting
  flight : List Time

inductive LinkAction
  | sender (event : TimedEvent)
  | receiver (event : TimedEvent)
  | deliver (k : Nat) (socket : Socket) (hardware : Mac48Address)
  | elapse (duration : Time)
  deriving DecidableEq, Repr

def TimedEvent.elapses : TimedEvent → Bool
  | .control (.elapse _) => true
  | .control (.recv _ _ _ _) | .control .purge | .control (.txError _) | .control (.interfaceUp _)
  | .control (.interfaceDown _) | .doInitialize _ | .start | .helloTimerExpire _
  | .purgeTimerExpire | .sendTo _ => false

namespace Link

abbrev now (link : Link) : Time := link.sender.1.node.now

def emitted (addr : Ipv4Address) (now : Time) : TimedEvent → List Time
  | .sendTo call => if call.message.header.origin = addr then [now] else []
  | .control _ | .doInitialize _ | .start | .helloTimerExpire _ | .purgeTimerExpire => []

/-- A HELLO about `addr` is on its way for at most `delay`, and both clocks go on together. -/
def next (addr : Ipv4Address) (delay : Time) (link : Link) : LinkAction → Option Link
  | .sender event =>
      if event.elapses then none
      else (recording TimedNode.next Beacons.record link.sender event).map fun sender =>
        { link with sender, flight := link.flight ++ emitted addr link.now event }
  | .receiver event =>
      if event.elapses then none
      else (recording TimedNode.next Heard.record link.receiver event).map fun receiver =>
        { link with receiver }
  | .deliver k socket hardware =>
      link.flight[k]?.bind fun _ =>
        (recording TimedNode.next Heard.record link.receiver
          (.control (.recv socket addr (.hello ⟨addr, addr⟩) hardware))).map fun receiver =>
            { link with receiver, flight := link.flight.eraseIdx k }
  | .elapse duration =>
      if ∀ sent ∈ link.flight, link.now + duration ≤ sent + delay then
        (recording TimedNode.next Beacons.record link.sender
          (.control (.elapse duration))).bind fun sender =>
            (recording TimedNode.next Heard.record link.receiver
              (.control (.elapse duration))).map fun receiver =>
                { link with sender, receiver }
      else none

def Keeps (addr : Ipv4Address) (node : Node) : Node.Event → Prop
  | .txError hardware => addr ∉ Neighbors.addresses (node.nb.filter (·.hardwareAddress = hardware))
  | .recv _ _ _ _ | .purge | .interfaceUp _ | .elapse _ => True
  | .interfaceDown i => node.cancelsHello (.interfaceDown i) = false

instance (addr : Ipv4Address) (node : Node) (event : Node.Event) :
    Decidable (Keeps addr node event) :=
  match event with
  | .txError _ => inferInstanceAs (Decidable (_ ∉ _))
  | .recv _ _ _ _ | .purge | .interfaceUp _ | .elapse _ => instDecidableTrue
  | .interfaceDown _ => inferInstanceAs (Decidable (_ = _))

/-- The interface of the sender is up whenever it sends HELLOs and stays so, and the receiver loses
neither the sender to a transmission error nor its own last interface. -/
def Undisturbed (addr : Ipv4Address) (link : Link) : LinkAction → Prop
  | .sender (.helloTimerExpire _) => ∃ entry ∈ link.sender.1.node.socketAddresses,
      entry.2.localAddress = addr
  | .sender (.control event) => link.sender.1.node.cancelsHello event = false
  | .receiver (.control event) => Keeps addr link.receiver.1.node event
  | .sender _ | .receiver _ | .deliver _ _ _ | .elapse _ => True

instance (addr : Ipv4Address) (link : Link) (action : LinkAction) :
    Decidable (Undisturbed addr link action) :=
  match action with
  | .sender (.helloTimerExpire _) =>
      inferInstanceAs (Decidable (∃ entry ∈ link.sender.1.node.socketAddresses,
        entry.2.localAddress = addr))
  | .sender (.control _) => inferInstanceAs (Decidable (_ = _))
  | .receiver (.control event) => inferInstanceAs (Decidable
      (Keeps addr link.receiver.1.node event))
  | .sender (.doInitialize _) | .sender .start | .sender .purgeTimerExpire | .sender (.sendTo _)
  | .receiver (.doInitialize _) | .receiver .start | .receiver (.helloTimerExpire _)
  | .receiver .purgeTimerExpire | .receiver (.sendTo _) | .deliver _ _ _ | .elapse _ =>
      instDecidableTrue

variable {addr : Ipv4Address} {delay interval : Time} {link after : Link}

def Served (addr : Ipv4Address) (link : Link) (round : Round) : Prop :=
  (∃ call ∈ link.sender.1.scheduled, call.message.header.origin = addr ∧
    call.due ≤ round.time + milliSeconds 10) ∨
  (∃ sent ∈ link.flight, sent ≤ round.time + milliSeconds 10) ∨
  ∃ time, link.receiver.2 addr = some time ∧ round.time ≤ time

structure Connected (addr : Ipv4Address) (delay : Time) (link : Link) : Prop where
  clocks : link.receiver.1.node.now = link.now
  loud : link.sender.2.silenced = none
  past : ∀ round ∈ link.sender.2.rounds, round.time ≤ link.now
  underway : ∀ sent ∈ link.flight, link.now ≤ sent + delay
  served : ∀ round ∈ link.sender.2.rounds, link.Served addr round

/-! ## One action -/

theorem Connected.sender (connected : link.Connected addr delay) {sender : Beaconing}
    {flight : List Time} (clock : sender.1.node.now = link.now)
    (beacons : sender.2.rounds = link.sender.2.rounds ∧ sender.2.silenced = none)
    (scheduled : ∀ call ∈ link.sender.1.scheduled, call.message.header.origin = addr →
      call ∈ sender.1.scheduled ∨ ∃ sent ∈ flight, sent ≤ call.due)
    (more : ∀ sent ∈ link.flight, sent ∈ flight)
    (fresh : ∀ sent ∈ flight, sent ∈ link.flight ∨ sent = link.now) :
    Connected addr delay { link with sender, flight } where
  clocks := connected.clocks.trans clock.symm
  loud := beacons.2
  past := by
    show ∀ round ∈ sender.2.rounds, round.time ≤ sender.1.node.now
    rw [beacons.1, clock]
    exact connected.past
  underway sent member := by
    show sender.1.node.now ≤ sent + delay
    rw [clock]
    rcases fresh sent member with old | rfl
    · exact connected.underway sent old
    · exact Nat.le_add_right _ _
  served round member := by
    change round ∈ sender.2.rounds at member
    rw [beacons.1] at member
    rcases connected.served round member with
      ⟨call, listed, named, soon⟩ | ⟨sent, flying, soon⟩ | heard
    · rcases scheduled call listed named with kept | ⟨sent, flying, early⟩
      · exact .inl ⟨call, kept, named, soon⟩
      · exact .inr (.inl ⟨sent, flying, early.trans soon⟩)
    · exact .inr (.inl ⟨sent, more sent flying, soon⟩)
    · exact .inr (.inr heard)

theorem Connected.round (connected : link.Connected addr delay)
    (regular : link.sender.Regular interval) {jitters : List Nat}
    (enabled : link.sender.1.Enabled (.helloTimerExpire jitters))
    (up : ∃ entry ∈ link.sender.1.node.socketAddresses, entry.2.localAddress = addr) :
    Connected addr delay { link with
      sender := ((link.sender.1.handle (.helloTimerExpire jitters)).1,
        link.sender.2.record link.sender.1 (.helloTimerExpire jitters)) } := by
  obtain ⟨timer, drawn, bound⟩ := enabled
  have round := TimedNode.roundCalls_complete drawn bound
  obtain ⟨ntimer, frame⟩ := @TimedNode.helloTimerExpire_frame link.sender.1 jitters
    regular.undeferred
  have clock : link.sender.1.node.purgeNeighbors.1.now = link.now :=
    (@Node.handle_clock link.sender.1.node .purge).1
  rw [Beacons.record, frame, List.drop_left]
  refine ⟨connected.clocks.trans clock.symm, connected.loud, ?_, ?_, ?_⟩
  · intro other member
    show other.time ≤ link.sender.1.node.purgeNeighbors.1.now
    rw [clock]
    rcases List.mem_append.mp member with earlier | last
    · exact connected.past other earlier
    · rw [List.mem_singleton.mp last]
  · intro sent member
    show link.sender.1.node.purgeNeighbors.1.now ≤ sent + delay
    rw [clock]
    exact connected.underway sent member
  · intro other member
    rcases List.mem_append.mp member with earlier | last
    · apply (connected.served other earlier).imp_left
      rintro ⟨call, listed, named, soon⟩
      exact ⟨call, List.mem_append_left _ listed, named, soon⟩
    · obtain rfl := List.mem_singleton.mp last
      obtain ⟨entry, opened, named⟩ := up
      have sends : (entry.1, (⟨entry.2.localAddress, entry.2.localAddress⟩ : HelloHeader)) ∈
          (link.sender.1.roundCalls jitters).map fun call => (call.message.socket,
            call.message.header) := by
        rw [round.messages]
        exact List.mem_map.mpr ⟨entry, opened, rfl⟩
      obtain ⟨call, scheduled, same⟩ := List.mem_map.mp sends
      have header := (Prod.mk.inj same).2
      exact .inl ⟨call, List.mem_append_right _ scheduled, by rw [header]; exact named,
        (round.timely call scheduled).2⟩

theorem Connected.receiver (connected : link.Connected addr delay) {receiver : Detecting}
    {flight : List Time} (clock : receiver.1.node.now = link.receiver.1.node.now)
    (fewer : ∀ sent ∈ flight, sent ∈ link.flight)
    (kept : receiver.2 addr = some link.now ∨
      (receiver.2 addr = link.receiver.2 addr ∧ ∀ sent ∈ link.flight, sent ∈ flight)) :
    Connected addr delay { link with receiver, flight } where
  clocks := clock.trans connected.clocks
  loud := connected.loud
  past := connected.past
  underway sent member := connected.underway sent (fewer sent member)
  served round member := by
    rcases kept with now | ⟨before, all⟩
    · exact .inr (.inr ⟨link.now, now, connected.past round member⟩)
    · rcases connected.served round member with
        scheduled | ⟨sent, flying, soon⟩ | ⟨time, known, late⟩
      · exact .inl scheduled
      · exact .inr (.inl ⟨sent, all sent flying, soon⟩)
      · exact .inr (.inr ⟨time, before.trans known, late⟩)

theorem heard_kept {timed : TimedNode} {heard : Heard} {event : TimedEvent}
    (keeps : ∀ inner, event = .control inner → Keeps addr timed.node inner) :
    heard.record timed event addr = some timed.node.now ∨
    heard.record timed event addr = heard addr := by
  cases event with
  | doInitialize _ | start | helloTimerExpire _ | purgeTimerExpire | sendTo _ => exact .inr rfl
  | control inner =>
      have keeps := keeps inner rfl
      cases inner with
      | recv socket sender message hardware =>
          cases heardFrom : timed.node.hearsFrom (.recv socket sender message hardware) with
          | none => simp [Heard.record, heardFrom, Node.cancelsHello]
          | some origin =>
              simp only [Heard.record, heardFrom]
              by_cases same : addr = origin
              · simp [same]
              · exact .inr (Function.update_of_ne same _ _)
      | purge | interfaceUp _ | elapse _ => exact .inr rfl
      | txError hardware => exact .inr (if_neg keeps)
      | interfaceDown i =>
          have kept : timed.node.cancelsHello (.interfaceDown i) = false := keeps
          simp [Heard.record, Node.hearsFrom, kept]

theorem handle_now {timed : TimedNode} {event : TimedEvent} (still : event.elapses = false) :
    (timed.handle event).1.node.now = timed.node.now := by
  cases event with
  | doInitialize _ | start | sendTo _ => rfl
  | helloTimerExpire jitters =>
      by_cases deferred : 0 < timed.lastBcastTime
      · simp [TimedNode.handle, TimedNode.helloTimerExpire, deferred]
      · simp only [TimedNode.handle, TimedNode.helloTimerExpire, if_neg deferred]
        exact (@Node.handle_clock timed.node .purge).1
  | purgeTimerExpire => exact (@Node.handle_clock timed.node .purge).1
  | control inner =>
      cases inner with
      | elapse _ => cases still
      | recv socket sender message hardware =>
          exact (Node.handle_clock (.recv socket sender message hardware)).1
      | purge => exact (Node.handle_clock .purge).1
      | txError hardware => exact (Node.handle_clock (.txError hardware)).1
      | interfaceUp i => exact (Node.handle_clock (.interfaceUp i)).1
      | interfaceDown i => exact (Node.handle_clock (.interfaceDown i)).1

theorem Connected.senderEvent (connected : link.Connected addr delay)
    (regular : link.sender.Regular interval) {event : TimedEvent} (still : event.elapses = false)
    (enabled : link.sender.1.Enabled event) (undisturbed : link.Undisturbed addr (.sender event)) :
    Connected addr delay { link with
      sender := ((link.sender.1.handle event).1, link.sender.2.record link.sender.1 event)
      flight := link.flight ++ emitted addr link.now event } := by
  have idle (scheduled : (link.sender.1.handle event).1.scheduled = link.sender.1.scheduled)
      (beacons : (link.sender.2.record link.sender.1 event).rounds = link.sender.2.rounds ∧
        (link.sender.2.record link.sender.1 event).silenced = none) :
        Connected addr delay { link with
          sender := ((link.sender.1.handle event).1,
            link.sender.2.record link.sender.1 event) } := by
    apply connected.sender (handle_now still) beacons
    · intro call member _
      rw [scheduled]
      exact .inl member
    · exact fun _ => id
    · exact fun _ => .inl
  cases event with
  | doInitialize _ | start | purgeTimerExpire =>
      simp only [emitted, List.append_nil]
      exact idle rfl ⟨rfl, connected.loud⟩
  | helloTimerExpire jitters =>
      simp only [emitted, List.append_nil]
      exact connected.round regular enabled undisturbed
  | sendTo call =>
      obtain ⟨scheduled, due⟩ := enabled
      refine connected.sender ?_ ?_ ?_ ?_ ?_
      · rfl
      · exact ⟨rfl, connected.loud⟩
      · intro other member named
        by_cases same : other = call
        · subst same
          refine .inr ⟨link.now, List.mem_append_right _ ?_, due.ge⟩
          simp [emitted, named]
        · exact .inl ((List.mem_erase_of_ne same).mpr member)
      · exact fun _ => List.mem_append_left _
      · intro sent member
        apply (List.mem_append.mp member).imp_right
        intro new
        simp only [emitted] at new
        split at new
        · exact List.mem_singleton.mp new
        · cases new
  | control inner =>
      simp only [emitted, List.append_nil]
      have loud : link.sender.2.record link.sender.1 (.control inner) = link.sender.2 := by
        have kept : link.sender.1.node.cancelsHello inner = false := undisturbed
        simp [Beacons.record, kept]
      apply idle rfl
      rw [loud]
      exact ⟨rfl, connected.loud⟩

theorem Connected.next (connected : link.Connected addr delay)
    (regular : link.sender.Regular interval) {action : LinkAction}
    (undisturbed : link.Undisturbed addr action)
    (taken : link.next addr delay action = some after) :
    after.Connected addr delay := by
  cases action with
  | sender event =>
      simp only [Link.next] at taken
      split at taken
      · cases taken
      · rename_i still
        obtain ⟨⟨timed, beacons⟩, moved, rfl⟩ := Option.map_eq_some_iff.mp taken
        obtain ⟨stepped, recorded⟩ := recording_eq_some moved
        obtain ⟨enabled, handled⟩ := TimedNode.next_eq_some stepped
        obtain rfl : (link.sender.1.handle event).1 = timed := handled
        obtain rfl : beacons = link.sender.2.record link.sender.1 event := recorded
        exact connected.senderEvent regular (by simpa using still) enabled undisturbed
  | receiver event =>
      simp only [Link.next] at taken
      split at taken
      · cases taken
      · rename_i still
        obtain ⟨⟨timed, heard⟩, moved, rfl⟩ := Option.map_eq_some_iff.mp taken
        obtain ⟨stepped, recorded⟩ := recording_eq_some moved
        obtain ⟨enabled, handled⟩ := TimedNode.next_eq_some stepped
        obtain rfl : (link.receiver.1.handle event).1 = timed := handled
        obtain rfl : heard = link.receiver.2.record link.receiver.1 event := recorded
        apply connected.receiver (handle_now (by simpa using still)) (fun _ => id)
        rw [← connected.clocks]
        apply (heard_kept _).imp_right
        · exact fun same => ⟨same, fun _ => id⟩
        · rintro inner rfl
          exact undisturbed
  | deliver k socket hardware =>
      obtain ⟨sent, found, rest⟩ := Option.bind_eq_some_iff.mp taken
      obtain ⟨⟨timed, heard⟩, moved, rfl⟩ := Option.map_eq_some_iff.mp rest
      obtain ⟨stepped, recorded⟩ := recording_eq_some moved
      obtain ⟨⟨_, addressed⟩, handled⟩ := TimedNode.next_eq_some stepped
      obtain rfl : (link.receiver.1.handle
          (.control (.recv socket addr (.hello ⟨addr, addr⟩) hardware))).1 = timed := handled
      have hears : link.receiver.1.node.hearsFrom
          (.recv socket addr (.hello ⟨addr, addr⟩) hardware) = some addr :=
        if_pos ⟨addressed, rfl⟩
      apply connected.receiver (handle_now rfl) (fun _ => List.mem_of_mem_eraseIdx)
      refine .inl ?_
      show heard addr = some link.now
      rw [show heard = _ from recorded, ← connected.clocks]
      simp [Heard.record, hears]
  | elapse duration =>
      simp only [Link.next] at taken
      split at taken
      · rename_i soon
        obtain ⟨⟨timed, beacons⟩, moved, rest⟩ := Option.bind_eq_some_iff.mp taken
        obtain ⟨⟨later, heard⟩, along, rfl⟩ := Option.map_eq_some_iff.mp rest
        obtain ⟨stepped, recorded⟩ := recording_eq_some moved
        obtain ⟨_, handled⟩ := TimedNode.next_eq_some stepped
        obtain ⟨followed, remembered⟩ := recording_eq_some along
        obtain ⟨_, waited⟩ := TimedNode.next_eq_some followed
        obtain rfl : (link.sender.1.handle (.control (.elapse duration))).1 = timed := handled
        obtain rfl : beacons = link.sender.2 := recorded
        obtain rfl : (link.receiver.1.handle (.control (.elapse duration))).1 = later := waited
        obtain rfl : heard = link.receiver.2 := remembered
        refine ⟨congrArg (· + duration) connected.clocks, connected.loud, fun round member => ?_,
          soon, connected.served⟩
        exact (connected.past round member).trans (Nat.le_add_right _ _)
      · cases taken

/-! ## Runs -/

theorem next_parts {action : LinkAction} (taken : link.next addr delay action = some after) :
    (after.sender = link.sender ∨ ∃ event, recording TimedNode.next Beacons.record link.sender
      event = some after.sender) ∧
    (after.receiver = link.receiver ∨
      ∃ event, recording TimedNode.next Heard.record link.receiver event =
        some after.receiver) := by
  cases action with
  | sender event =>
      simp only [Link.next] at taken
      split at taken
      · cases taken
      · obtain ⟨sender, moved, rfl⟩ := Option.map_eq_some_iff.mp taken
        exact ⟨.inr ⟨event, moved⟩, .inl rfl⟩
  | receiver event =>
      simp only [Link.next] at taken
      split at taken
      · cases taken
      · obtain ⟨receiver, moved, rfl⟩ := Option.map_eq_some_iff.mp taken
        exact ⟨.inl rfl, .inr ⟨event, moved⟩⟩
  | deliver k socket hardware =>
      obtain ⟨sent, found, rest⟩ := Option.bind_eq_some_iff.mp taken
      obtain ⟨receiver, moved, rfl⟩ := Option.map_eq_some_iff.mp rest
      exact ⟨.inl rfl, .inr ⟨_, moved⟩⟩
  | elapse duration =>
      simp only [Link.next] at taken
      split at taken
      · obtain ⟨sender, moved, rest⟩ := Option.bind_eq_some_iff.mp taken
        obtain ⟨receiver, along, rfl⟩ := Option.map_eq_some_iff.mp rest
        exact ⟨.inr ⟨_, moved⟩, .inr ⟨_, along⟩⟩
      · cases taken

def between (sender receiver : Node) : Link :=
  ⟨(TimedNode.initial sender, .empty), (TimedNode.initial receiver, fun _ => none), []⟩

section Run
variable {interfaces others : List Ipv4InterfaceAddress} {patience maxPRQueueTime otherTime : Time}
  {maxPRQueueLen otherLen : BitVec 32}

theorem connected_of_run (run : Reach (next addr delay) (Undisturbed addr)
      (between (.initial interfaces true interval maxPRQueueLen maxPRQueueTime)
        (.initial others true patience otherLen otherTime)) link) :
    link.sender.Regular interval ∧ link.receiver.Detects patience ∧ link.Connected addr delay := by
  apply run.invariant (P := fun link =>
    link.sender.Regular interval ∧ link.receiver.Detects patience ∧ link.Connected addr delay)
  · refine ⟨Beaconing.regular_of_run .start, Detecting.detects_of_run .start, rfl, rfl,
      ?_, ?_, ?_⟩ <;>
      intro other member <;> cases member
  · rintro before action after ⟨regular, detects, connected⟩ undisturbed taken
    obtain ⟨sender, receiver⟩ := next_parts taken
    refine ⟨?_, ?_, connected.next regular undisturbed taken⟩
    · rcases sender with same | ⟨event, moved⟩
      · rwa [same]
      · exact regular.next moved
    · rcases receiver with same | ⟨event, moved⟩
      · rwa [same]
      · exact detects.next moved

/-- Once a round is older than the jitter and the delay, the sender was heard since. -/
theorem Connected.heard_since (connected : link.Connected addr delay)
    (regular : link.sender.Regular interval) {round : Round} (member : round ∈ link.sender.2.rounds)
    (old : round.time + milliSeconds 10 + delay < link.now) :
    ∃ time, link.receiver.2 addr = some time ∧ round.time ≤ time := by
  rcases connected.served round member with ⟨call, listed, _, soon⟩ | ⟨sent, flying, soon⟩ | heard
  · have due := (regular.ahead call listed).trans (soon.trans (Nat.le_add_right _ delay))
    exact absurd due (Nat.not_le.mpr old)
  · have due := (connected.underway sent flying).trans (Nat.add_le_add_right soon delay)
    exact absurd due (Nat.not_le.mpr old)
  · exact heard

def single (addr : Ipv4Address) : Node :=
  .initial [.loopback, ⟨addr, 0xffffff00#32, 0x0a0102ff#32⟩] true (milliSeconds 1000) 50
    (milliSeconds 1000)

end Run

end Link

end Bsdvr
