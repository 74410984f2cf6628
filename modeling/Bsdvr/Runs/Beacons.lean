import Bsdvr.Proof.Timers

namespace Bsdvr
open Foundation

/-- A round of HELLOs: when `m_htimer` fired, the sockets that were open then, and the calls of
`SendTo` that were scheduled. -/
structure Round where
  time : Time
  sockets : List (Socket × Ipv4InterfaceAddress)
  calls : List ScheduledHello

/-- One HELLO for each open socket, due within ten milliseconds, that names the address of its
interface twice. -/
structure Round.Complete (round : Round) : Prop where
  messages : round.calls.map (fun call => (call.message.socket, call.message.header)) =
    round.sockets.map fun (socket, iface) => (socket, ⟨iface.localAddress, iface.localAddress⟩)
  timely : ∀ call ∈ round.calls, round.time ≤ call.due ∧ call.due ≤ round.time + milliSeconds 10

structure Beacons where
  initializedAt : Option Time
  rounds : List Round
  /-- The HELLOs handed to their sockets, and when. -/
  sent : List ScheduledHello
  /-- How many rounds there were when the last interface went down. -/
  silenced : Option Nat

namespace Beacons

def empty : Beacons := ⟨none, [], [], none⟩

def record (timed : TimedNode) (event : TimedEvent) (beacons : Beacons) : Beacons :=
  match event with
  | .doInitialize _ => { beacons with initializedAt := some timed.node.now }
  | .helloTimerExpire _ =>
      let calls := (timed.handle event).1.scheduled.drop timed.scheduled.length
      { beacons with rounds := beacons.rounds ++
        [⟨timed.node.now, timed.node.socketAddresses, calls⟩] }
  | .sendTo call => { beacons with sent := beacons.sent ++ [⟨timed.node.now, call.message⟩] }
  | .control inner =>
      if timed.node.cancelsHello inner && timed.initialized then
        { beacons with silenced := beacons.silenced.or (some beacons.rounds.length) }
      else beacons
  | .start | .purgeTimerExpire => beacons

def Periodic (first interval : Time) (rounds : List Round) : Prop :=
  rounds.map Round.time = (List.range rounds.length).map fun count => first + count * interval

theorem Periodic.concat {first interval : Time} {rounds : List Round}
    (periodic : Periodic first interval rounds) {round : Round}
    (next : round.time = first + rounds.length * interval) :
    Periodic first interval (rounds ++ [round]) := by
  rw [Periodic, List.map_append, periodic, List.length_append, List.length_singleton,
    List.range_succ, List.map_append, List.map_singleton, List.map_singleton, next]

end Beacons

namespace TimedNode
variable {timed : TimedNode} {jitters : List Nat}

def roundCalls (timed : TimedNode) (jitters : List Nat) : List ScheduledHello :=
  (timed.node.purgeNeighbors.1.helloMessages.zip jitters).map fun (message, jitter) =>
    ⟨timed.node.now + milliSeconds jitter, message⟩

theorem helloTimerExpire_frame (never : timed.lastBcastTime = 0) :
    ∃ ntimer, (timed.handle (.helloTimerExpire jitters)).1 =
      { timed with
        node := timed.node.purgeNeighbors.1
        htimer := some (timed.node.now + timed.node.helloInterval)
        lastBcastTime := 0
        ntimer
        scheduled := timed.scheduled ++ timed.roundCalls jitters } := by
  rw [handle, helloTimerExpire_eq never]
  exact ⟨_, rfl⟩

theorem roundCalls_complete (drawn : jitters.length = timed.node.socketAddresses.length)
    (bound : ∀ jitter ∈ jitters, jitter ≤ 10) :
    Round.Complete ⟨timed.node.now, timed.node.socketAddresses, timed.roundCalls jitters⟩ where
  messages := by
    have enough : timed.node.purgeNeighbors.1.helloMessages.length ≤ jitters.length := by
      rw [Node.helloMessages, List.length_map, Node.purgeNeighbors_socketAddresses, drawn]
    have messages : (timed.roundCalls jitters).map ScheduledHello.message =
        timed.node.purgeNeighbors.1.helloMessages := by
      rw [roundCalls, List.map_map]
      exact List.map_fst_zip enough
    calc (timed.roundCalls jitters).map (fun call => (call.message.socket, call.message.header))
        = ((timed.roundCalls jitters).map ScheduledHello.message).map fun message =>
        (message.socket, message.header) := by
          rw [List.map_map]
          rfl
      _ = timed.node.socketAddresses.map fun (socket, iface) =>
      (socket, ⟨iface.localAddress, iface.localAddress⟩) := by
          rw [messages, Node.helloMessages, List.map_map, Node.purgeNeighbors_socketAddresses]
          rfl
  timely call member := by
    obtain ⟨⟨message, jitter⟩, paired, rfl⟩ := List.mem_map.mp member
    have small := bound jitter (List.of_mem_zip paired).2
    exact ⟨Nat.le_add_right _ _, Nat.add_le_add_left (Nat.mul_le_mul_left _ small) _⟩

end TimedNode

/-! ## What holds in every run -/

abbrev Beaconing := TimedNode × Beacons

namespace Beaconing
variable {state after : Beaconing} {interval : Time}

structure Timely (state : Beaconing) (first interval : Time) : Prop where
  periodic : Beacons.Periodic first interval state.2.rounds
  due : ∀ due, state.1.htimer = some due → due = first + state.2.rounds.length * interval ∧
    state.1.node.now ≤ due

structure Regular (state : Beaconing) (interval : Time) : Prop where
  enabled : state.1.node.enableHello = true
  helloInterval : state.1.node.helloInterval = interval
  undeferred : state.1.lastBcastTime = 0
  complete : ∀ round ∈ state.2.rounds, round.Complete
  accounted : (state.2.sent ++ state.1.scheduled).Perm (state.2.rounds.flatMap Round.calls)
  ahead : ∀ call ∈ state.1.scheduled, state.1.node.now ≤ call.due
  early : state.1.initialized = false → state.2 = ⟨none, [], [], none⟩ ∧ state.1.htimer = none
  later : state.1.initialized = true → ∃ time startTime, state.2.initializedAt = some time ∧
    startTime ≤ 100 ∧
    state.Timely (time + milliSeconds startTime) interval
  sounding : state.1.initialized = true → state.2.silenced = none → state.1.htimer.isSome
  silent : ∀ count, state.2.silenced = some count → state.2.rounds.length = count ∧
    state.1.htimer = none

theorem Regular.frame {timed later : TimedNode} {beacons : Beacons}
    (regular : Regular (timed, beacons) interval)
    (clock : later.node.now = timed.node.now ∧ later.node.helloInterval = timed.node.helloInterval ∧
      later.node.enableHello = timed.node.enableHello)
    (htimer : later.htimer = timed.htimer)
    (lastBcastTime : later.lastBcastTime = timed.lastBcastTime)
    (scheduled : later.scheduled = timed.scheduled)
    (initialized : later.initialized = timed.initialized) :
    Regular (later, beacons) interval where
  enabled := clock.2.2.trans regular.enabled
  helloInterval := clock.2.1.trans regular.helloInterval
  undeferred := lastBcastTime.trans regular.undeferred
  complete := regular.complete
  accounted := by simpa only [scheduled] using regular.accounted
  ahead := by simpa only [scheduled, clock.1] using regular.ahead
  early := by simpa only [initialized, htimer] using regular.early
  later fresh := by
    obtain ⟨time, startTime, at_, small, timely⟩ := regular.later (initialized ▸ fresh)
    exact ⟨time, startTime, at_, small, timely.periodic,
      by simpa only [htimer, clock.1] using timely.due⟩
  sounding := by simpa only [initialized, htimer] using regular.sounding
  silent := by simpa only [htimer] using regular.silent

theorem Regular.doInitialize {timed : TimedNode} {beacons : Beacons}
    (regular : Regular (timed, beacons) interval) (fresh : timed.initialized = false)
    {startTime : Nat} (small : startTime ≤ 100) :
    Regular (timed.doInitialize startTime, { beacons with initializedAt := some timed.node.now })
      interval := by
  obtain ⟨rfl, idle⟩ := regular.early fresh
  have htimer : (timed.doInitialize startTime).htimer =
      some (timed.node.now + milliSeconds startTime) :=
    if_pos regular.enabled
  refine ⟨regular.enabled, regular.helloInterval, regular.undeferred, regular.complete,
    regular.accounted, regular.ahead, nofun,
    fun _ => ⟨timed.node.now, startTime, rfl, small, rfl, fun due pending => ?_⟩, fun _ _ => ?_,
    nofun⟩
  · obtain rfl := Option.some.inj (htimer.symm.trans pending)
    exact ⟨by simp, Nat.le_add_right _ _⟩
  · rw [htimer]
    rfl

theorem Regular.helloTimerExpire {timed : TimedNode} {beacons : Beacons}
    (regular : Regular (timed, beacons) interval) {jitters : List Nat}
    (enabled : timed.Enabled (.helloTimerExpire jitters)) :
    Regular ((timed.handle (.helloTimerExpire jitters)).1,
      beacons.record timed (.helloTimerExpire jitters)) interval := by
  obtain ⟨expires, drawn, bound⟩ := enabled
  have round := TimedNode.roundCalls_complete drawn bound
  obtain ⟨ntimer, frame⟩ := @TimedNode.helloTimerExpire_frame timed jitters regular.undeferred
  obtain ⟨clock, steady, able⟩ : timed.node.purgeNeighbors.1.now = timed.node.now ∧ _ :=
    @Node.handle_clock timed.node .purge
  have awake : timed.initialized = true := by
    by_contra asleep
    have idle := (regular.early (by simpa using asleep)).2
    rw [expires] at idle
    cases idle
  obtain ⟨time, startTime, at_, small, timely⟩ := regular.later awake
  have due := (timely.due _ expires).1
  rw [Beacons.record, frame, List.drop_left]
  refine ⟨able.trans regular.enabled, steady.trans regular.helloInterval, rfl, ?_, ?_, ?_, ?_, ?_,
    fun _ _ => rfl, ?_⟩
  · intro other member
    rcases List.mem_append.mp member with earlier | last
    · exact regular.complete other earlier
    · rw [List.mem_singleton.mp last]
      exact round
  · rw [List.flatMap_append, ← List.append_assoc]
    simpa using regular.accounted.append_right (timed.roundCalls jitters)
  · intro call member
    show timed.node.purgeNeighbors.1.now ≤ call.due
    rw [clock]
    rcases List.mem_append.mp member with earlier | added
    · exact regular.ahead call earlier
    · exact (round.timely call added).1
  · intro asleep
    rw [awake] at asleep
    cases asleep
  · refine fun _ => ⟨time, startTime, at_, small, timely.periodic.concat due,
      fun next pending => ?_⟩
    obtain rfl := Option.some.inj pending
    constructor
    · rw [List.length_append, List.length_singleton, due, regular.helloInterval]
      ring
    · show timed.node.purgeNeighbors.1.now ≤ _
      rw [clock]
      exact Nat.le_add_right _ _
  · intro count quiet
    have idle := (regular.silent count quiet).2
    rw [expires] at idle
    cases idle

theorem Regular.sendTo {timed : TimedNode} {beacons : Beacons}
    (regular : Regular (timed, beacons) interval) {call : ScheduledHello}
    (member : call ∈ timed.scheduled) (due : call.due = timed.node.now) :
    Regular ({ timed with scheduled := timed.scheduled.erase call },
      { beacons with sent := beacons.sent ++ [⟨timed.node.now, call.message⟩] }) interval := by
  refine ⟨regular.enabled, regular.helloInterval, regular.undeferred, regular.complete, ?_,
    fun other kept =>
    regular.ahead other (List.mem_of_mem_erase kept), fun asleep => ?_, fun awake => ?_,
    regular.sounding, regular.silent⟩
  · have same : (⟨timed.node.now, call.message⟩ : ScheduledHello) = call := by rw [← due]
    rw [same, List.append_assoc, List.singleton_append]
    exact ((List.perm_cons_erase member).symm.append_left _).trans regular.accounted
  · have none : timed.scheduled = [] := by
      have accounted := regular.accounted
      rw [(regular.early asleep).1] at accounted
      simpa using accounted
    rw [none] at member
    cases member
  · obtain ⟨time, startTime, at_, small, timely⟩ := regular.later awake
    exact ⟨time, startTime, at_, small, timely.periodic, timely.due⟩

theorem Regular.elapse {timed : TimedNode} {beacons : Beacons}
    (regular : Regular (timed, beacons) interval) {duration : Time}
    (idle : timed.Idle (timed.node.now + duration)) :
    Regular ((timed.control (.elapse duration)).1, beacons) interval := by
  obtain ⟨_, hellos, _, calls⟩ := idle
  refine ⟨regular.enabled, regular.helloInterval, regular.undeferred, regular.complete,
    regular.accounted, calls, regular.early, fun awake => ?_, regular.sounding, regular.silent⟩
  obtain ⟨time, startTime, at_, small, timely⟩ := regular.later awake
  exact ⟨time, startTime, at_, small, timely.periodic, fun due pending =>
    ⟨(timely.due due pending).1, hellos due pending⟩⟩

theorem Regular.cancel {timed : TimedNode} {beacons : Beacons}
    (regular : Regular (timed, beacons) interval) {i : Nat}
    (last : timed.node.cancelsHello (.interfaceDown i) = true) :
    Regular ((timed.control (.interfaceDown i)).1,
      beacons.record timed (.control (.interfaceDown i))) interval := by
  obtain ⟨clock, steady, able⟩ : (timed.control (.interfaceDown i)).1.node.now = timed.node.now ∧
      _ :=
    Node.handle_clock (.interfaceDown i)
  have cancelled : (timed.control (.interfaceDown i)).1.htimer = none := if_pos last
  have ahead (call : ScheduledHello) (member : call ∈ timed.scheduled) :
      (timed.control (.interfaceDown i)).1.node.now ≤ call.due :=
      clock.symm ▸ regular.ahead call member
  rw [Beacons.record, last, Bool.true_and]
  cases awake : timed.initialized with
  | false =>
      refine ⟨able.trans regular.enabled, steady.trans regular.helloInterval, regular.undeferred,
        regular.complete, regular.accounted, ahead,
        fun asleep => ⟨(regular.early asleep).1, cancelled⟩, fun initialized => ?_,
        fun initialized => ?_, fun count quiet => ⟨(regular.silent count quiet).1, cancelled⟩⟩ <;>
      · change timed.initialized = true at initialized
        rw [awake] at initialized
        cases initialized
  | true =>
      refine ⟨able.trans regular.enabled, steady.trans regular.helloInterval, regular.undeferred,
        regular.complete, regular.accounted, ahead, fun asleep => ?_, fun _ => ?_, fun _ loud => ?_,
        fun count quiet => ⟨?_, cancelled⟩⟩
      · change timed.initialized = false at asleep
        rw [awake] at asleep
        cases asleep
      · obtain ⟨time, startTime, at_, small, timely⟩ := regular.later awake
        refine ⟨time, startTime, at_, small, timely.periodic, fun due pending => ?_⟩
        rw [cancelled] at pending
        cases pending
      · change beacons.silenced.or (some beacons.rounds.length) = none at loud
        simp at loud
      · change beacons.silenced.or (some beacons.rounds.length) = some count at quiet
        cases before : beacons.silenced with
        | none =>
            rw [before] at quiet
            exact Option.some.inj quiet
        | some earlier =>
            rw [before] at quiet
            obtain rfl := Option.some.inj quiet
            exact (regular.silent _ before).1

theorem Regular.next {event : TimedEvent} (regular : state.Regular interval)
    (taken : recording TimedNode.next Beacons.record state event = some after) : after.Regular interval := by
  obtain ⟨timed, beacons⟩ := state
  obtain ⟨stepped, recorded⟩ := recording_eq_some taken
  obtain ⟨enabled, handled⟩ := TimedNode.next_eq_some stepped
  obtain ⟨later, afterwards⟩ := after
  obtain rfl : (timed.handle event).1 = later := handled
  obtain rfl : afterwards = Beacons.record timed event beacons := recorded
  cases event with
  | doInitialize startTime => exact regular.doInitialize enabled.1 enabled.2
  | start => exact regular.frame ⟨rfl, rfl, rfl⟩ rfl rfl rfl rfl
  | helloTimerExpire jitters => exact regular.helloTimerExpire enabled
  | purgeTimerExpire => exact regular.frame (@Node.handle_clock timed.node .purge) rfl rfl rfl rfl
  | sendTo call => exact regular.sendTo enabled.1 enabled.2
  | control event =>
      cases event with
      | elapse duration => exact regular.elapse enabled
      | interfaceDown i =>
          by_cases last : timed.node.cancelsHello (.interfaceDown i) = true
          · exact regular.cancel last
          · have unrecorded : beacons.record timed (.control (.interfaceDown i)) = beacons := by
              rw [Beacons.record, Bool.eq_false_iff.mpr last]
              rfl
            rw [unrecorded]
            exact regular.frame (Node.handle_clock (.interfaceDown i)) (if_neg last) rfl rfl rfl
      | purge => cases enabled
      | recv socket sender message hardware =>
          exact regular.frame (Node.handle_clock (.recv socket sender message hardware)) rfl rfl rfl rfl
      | txError hardware => exact regular.frame (Node.handle_clock (.txError hardware)) rfl rfl rfl rfl
      | interfaceUp i => exact regular.frame (Node.handle_clock (.interfaceUp i)) rfl rfl rfl rfl

/-! ## The rounds -/

section Run
variable {interfaces : List Ipv4InterfaceAddress} {helloInterval : Time} {maxPRQueueLen : BitVec 32}
  {maxPRQueueTime : Time}

abbrev Run (interfaces : List Ipv4InterfaceAddress) (helloInterval : Time)
    (maxPRQueueLen : BitVec 32) (maxPRQueueTime : Time) : Beaconing → Prop :=
  Reach (recording TimedNode.next Beacons.record) (fun _ _ => True)
    (TimedNode.initial (Node.initial interfaces true helloInterval maxPRQueueLen maxPRQueueTime),
      Beacons.empty)

theorem regular_of_run (run : Run interfaces helloInterval maxPRQueueLen maxPRQueueTime state) :
    state.Regular helloInterval := by
  refine run.invariant (P := fun state => state.Regular helloInterval) ?_
    fun before event after regular _ taken => regular.next taken
  exact ⟨rfl, rfl, rfl, nofun, .nil, nofun, fun _ => ⟨rfl, rfl⟩, nofun, nofun, nofun⟩

/-- The rounds of HELLOs follow each other at exactly the interval, from at most 100 ms after the
start on, and go on unless the last interface goes down. Each has one HELLO for each open socket,
which is sent within 10 ms of the round, and no other HELLO is sent. -/
theorem hello_rounds (run : Run interfaces helloInterval maxPRQueueLen maxPRQueueTime state) :
    (∀ time, state.2.initializedAt = some time → ∃ startTime ≤ 100,
      Beacons.Periodic (time + milliSeconds startTime) helloInterval state.2.rounds ∧
      (state.2.silenced = none → ∃ due, state.1.htimer = some due ∧ state.1.node.now ≤ due ∧
        due = time + milliSeconds startTime + state.2.rounds.length * helloInterval)) ∧
    (∀ round ∈ state.2.rounds, round.Complete) ∧
    (state.2.sent ++ state.1.scheduled).Perm (state.2.rounds.flatMap Round.calls) ∧
    ∀ call ∈ state.1.scheduled, state.1.node.now ≤ call.due := by
  have regular := regular_of_run run
  refine ⟨fun time begun => ?_, regular.complete, regular.accounted, regular.ahead⟩
  have awake : state.1.initialized = true := by
    by_contra asleep
    rw [(regular.early (by simpa using asleep)).1] at begun
    cases begun
  obtain ⟨since, startTime, at_, small, timely⟩ := regular.later awake
  obtain rfl := Option.some.inj (at_.symm.trans begun)
  refine ⟨startTime, small, timely.periodic, fun loud => ?_⟩
  obtain ⟨due, pending⟩ := Option.isSome_iff_exists.mp (regular.sounding awake loud)
  exact ⟨due, pending, (timely.due due pending).2, (timely.due due pending).1⟩

theorem hello_rounds_twice : ∃ state,
    Run [.loopback, ⟨0x0a010201#32, 0xffffff00#32, 0x0a0102ff#32⟩]
    (milliSeconds 1000) 50 (milliSeconds 1000) state ∧
    state.2.rounds.length = 2 ∧ state.2.sent.length = 1 ∧
    (state.2.sent ++ state.1.scheduled).Perm (state.2.rounds.flatMap Round.calls) := by
  -- the first HELLO is sent 3 ms after its round, the second waits
  obtain ⟨state, run, checked⟩ := exists_reach_of_follow (recording TimedNode.next Beacons.record)
    (fun _ _ => True)
    (TimedNode.initial (Node.initial [.loopback, ⟨0x0a010201#32, 0xffffff00#32, 0x0a0102ff#32⟩] true
      (milliSeconds 1000) 50
      (milliSeconds 1000)), Beacons.empty)
    [.control (.interfaceUp 1), .start, .doInitialize 5, .control (.elapse (milliSeconds 5)),
      .helloTimerExpire [3], .control (.elapse (milliSeconds 3)),
      .sendTo ⟨milliSeconds 8, ⟨⟨2, 1, 0x0a010201#32⟩, ⟨0x0a010201#32, 0x0a010201#32⟩,
        0x0a0102ff#32⟩⟩,
      .control (.elapse (milliSeconds 992)), .purgeTimerExpire, .control (.elapse (milliSeconds 5)),
      .helloTimerExpire [7]]
    (fun state => decide (state.2.rounds.length = 2) && decide (state.2.sent.length = 1))
    (by decide +kernel)
  simp only [Bool.and_eq_true, decide_eq_true_eq] at checked
  exact ⟨state, run, checked.1, checked.2, (hello_rounds run).2.2.1⟩

/-- A node that has lost its last interface sends no round of HELLOs any more, also when interfaces
come up again. -/
theorem hello_silenced (run : Run interfaces helloInterval maxPRQueueLen maxPRQueueTime state)
    {count : Nat} (silenced : state.2.silenced = some count) : state.2.rounds.length = count :=
  ((regular_of_run run).silent count silenced).1

theorem hello_silenced_revived : ∃ state,
    Run [.loopback, ⟨0x0a010201#32, 0xffffff00#32, 0x0a0102ff#32⟩]
    (milliSeconds 1000) 50 (milliSeconds 1000) state ∧
    state.2.silenced = some 1 ∧ state.1.node.isUp 1 ∧ state.1.node.now = milliSeconds 9000 ∧
    state.2.rounds.length = 1 := by
  -- interface 1 goes down and up again after the first round, and eight seconds pass
  obtain ⟨state, run, checked⟩ := exists_reach_of_follow (recording TimedNode.next Beacons.record)
    (fun _ _ => True)
    (TimedNode.initial (Node.initial [.loopback, ⟨0x0a010201#32, 0xffffff00#32, 0x0a0102ff#32⟩] true
      (milliSeconds 1000) 50
      (milliSeconds 1000)), Beacons.empty)
    [.control (.interfaceUp 1), .start, .doInitialize 0, .helloTimerExpire [0],
      .sendTo ⟨0, ⟨⟨2, 1, 0x0a010201#32⟩, ⟨0x0a010201#32, 0x0a010201#32⟩, 0x0a0102ff#32⟩⟩,
      .control (.interfaceDown 1), .control (.interfaceUp 1),
      .control (.elapse (milliSeconds 1000)), .purgeTimerExpire,
      .control (.elapse (milliSeconds 8000))]
    (fun state => decide (state.2.silenced = some 1) && decide (state.1.node.isUp 1) &&
      decide (state.1.node.now = milliSeconds 9000)) (by decide +kernel)
  simp only [Bool.and_eq_true, decide_eq_true_eq] at checked
  exact ⟨state, run, checked.1.1, checked.1.2, checked.2, hello_silenced run checked.1.1⟩

end Run

end Beaconing

end Bsdvr
