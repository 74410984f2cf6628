import Bsdvr.Queues.Flush
import Bsdvr.Queues.Packets

namespace Bsdvr
open Foundation

def Eligible (state : RouteState) (entry : QueueEntry) : Prop :=
  match state with
  | .inactive => entry.status.pStatus = ForwardingStatus.notForwarded.code
  | .active => entry.status.pStatus ≠ ForwardingStatus.activeForwarded.code

instance (state : RouteState) (entry : QueueEntry) : Decidable (Eligible state entry) :=
  match state with
  | .inactive => inferInstanceAs (Decidable (_ = _))
  | .active => inferInstanceAs (Decidable (_ ≠ _))

def compatible (route : Ipv4Route) (entry : QueueEntry) : Bool :=
  !mismatches entry.packet.tag route.outputDevice

namespace BsdvrQueue

def eligible (queue : BsdvrQueue) (dst : Ipv4Address) (state : RouteState) : List QueueEntry :=
  queue.queue.filter fun entry => entry.header.destination = dst ∧ Eligible state entry

/-- How often the body of the loop of `SendPacketFromQueue` runs. -/
def iterations (dst : Ipv4Address) (route : Ipv4Route) (state : RouteState)
    (memory : Nat → Memory) : Nat → BsdvrQueue → Nat
  | 0, _ => 0
  | fuel + 1, queue =>
    match queue.dequeue (memory fuel) dst (if state = .active then 2 else 1) with
    | none => 0
    | some (entry, queue) =>
      if mismatches entry.packet.tag route.outputDevice then 1
      else iterations dst route state memory fuel (queue.removePacketTag entry.key) + 1

/-- The loop ends after at most as many iterations as there are entries, and every eligible packet
that the interface of the route suits was passed on, once and in the order of the queue. -/
def Flushes (queue : BsdvrQueue) (dst : Ipv4Address) (route : Ipv4Route) (state : RouteState)
    (memory : Nat → Memory) : Prop :=
  ∃ forwarded after,
    queue.sendPacketFromQueue dst route state memory (queue.queue.length + 1) =
      some (forwarded, after) ∧
    queue.iterations dst route state memory (queue.queue.length + 1) ≤ queue.queue.length ∧
    forwarded.map Forwarded.key = ((queue.eligible dst state).filter (compatible route)).map
      QueueEntry.key

/-- No eligible packet with a tag for another interface is before one that the interface of the
route suits. -/
def Unblocked (queue : BsdvrQueue) (dst : Ipv4Address) (route : Ipv4Route)
    (state : RouteState) : Prop :=
  (queue.eligible dst state).Pairwise fun earlier later => compatible route later = true →
    compatible route earlier = true

instance (queue : BsdvrQueue) (dst : Ipv4Address) (route : Ipv4Route) (state : RouteState) :
    Decidable (queue.Unblocked dst route state) := inferInstanceAs (Decidable (List.Pairwise _ _))

structure Holds (queue : BsdvrQueue) (dst : Ipv4Address) (memory : Nat → Memory)
    (valid : Bool) : Prop where
  constructed : ∀ n i status, memory n i status = ⟨status.code, valid⟩
  entries : ∀ entry ∈ queue.queue, entry.header.destination = dst →
    ∃ status : ForwardingStatus, entry.status = ⟨status.code, valid⟩

/-! ## One call of `Dequeue` -/

variable {queue : BsdvrQueue} {dst : Ipv4Address} {state : RouteState} {entry : QueueEntry}
  {before rest : List QueueEntry} {memory : Memory} {sval : BitVec 32}

theorem dequeueFrom_blocked {entries : List QueueEntry} {i : Nat}
    (blocked : ∀ j other, entries[j]? = some other → hands memory dst sval (i + j) other = none) :
    dequeueFrom memory dst sval i entries = none := by
  induction entries generalizing i with
  | nil => rfl
  | cons first entries ih =>
      have here : hands memory dst sval i first = none := blocked 0 first rfl
      simp only [dequeueFrom, here]
      rw [ih fun j other found => ?_, Option.map_none]
      have there := blocked (j + 1) other (by simpa using found)
      rwa [← Nat.add_assoc, Nat.add_right_comm] at there

theorem dequeueFrom_first {i : Nat} {status : ForwardingStatus}
    (blocked : ∀ j other, before[j]? = some other → hands memory dst sval (i + j) other = none)
    (passed : hands memory dst sval (i + before.length) entry = some status) :
    dequeueFrom memory dst sval i (before ++ entry :: rest) =
      some ({ entry with status := memory (i + before.length) status },
        before ++ { entry with status := memory (i + before.length) status } :: rest) := by
  induction before generalizing i with
  | nil =>
      rw [List.length_nil, Nat.add_zero] at passed ⊢
      simp [dequeueFrom, passed]
  | cons first before ih =>
      have here : hands memory dst sval i first = none := blocked 0 first rfl
      rw [List.length_cons, ← Nat.add_assoc, Nat.add_right_comm] at passed ⊢
      have later := ih (fun j other found => ?_) passed
      · simp only [List.cons_append, dequeueFrom, here, later, Option.map_some]
      · have there := blocked (j + 1) other (by simpa using found)
        rwa [← Nat.add_assoc, Nat.add_right_comm] at there

def handedStatus : RouteState → ForwardingStatus
  | .active => .activeForwarded
  | .inactive => .inactiveForwarded

theorem not_eligible_handed (valid : Bool) :
    ¬Eligible state { entry with status := ⟨(handedStatus state).code, valid⟩ } := by
  cases state with
  | active => exact fun eligible => eligible rfl
  | inactive =>
      intro eligible
      have same : ForwardingStatus.inactiveForwarded.code = ForwardingStatus.notForwarded.code :=
        eligible
      exact absurd same (by decide)

theorem hands_held {valid : Bool} {i : Nat}
    (constructed : ∀ status, memory i status = ⟨status.code, valid⟩)
    (stored : entry.header.destination = dst → ∃ status : ForwardingStatus, entry.status =
      ⟨status.code, valid⟩) :
    hands memory dst (if state = .active then 2 else 1) i entry =
      if entry.header.destination = dst ∧ Eligible state entry then some (handedStatus state)
      else none := by
  unfold hands
  rw [constructed, constructed]
  by_cases here : entry.header.destination = dst
  · obtain ⟨status, known⟩ := stored here
    cases state <;> cases status <;> simp [here, known, Eligible, handedStatus,
      ForwardingStatus.code]
  · cases state <;> simp [here]

variable {memory : Nat → Memory} {valid : Bool}

theorem Holds.hands (holds : queue.Holds dst memory valid) (member : entry ∈ queue.queue)
    (n i : Nat) :
    hands (memory n) dst (if state = .active then 2 else 1) i entry =
      if entry.header.destination = dst ∧ Eligible state entry then some (handedStatus state)
      else none :=
  hands_held (fun status => holds.constructed n i status) (holds.entries entry member)

theorem Holds.blocked (holds : queue.Holds dst memory valid) {entries : List QueueEntry}
    (listed : entries ⊆ queue.queue)
    (none : ∀ entry ∈ entries, ¬(entry.header.destination = dst ∧ Eligible state entry)) (n j : Nat)
    {other : QueueEntry} (found : entries[j]? = some other) :
    BsdvrQueue.hands (memory n) dst (if state = .active then 2 else 1) (0 + j) other = .none := by
  have member := List.mem_of_getElem? found
  rw [holds.hands (listed member), if_neg (none other member)]

theorem dequeue_held_none (holds : queue.Holds dst memory valid)
    (done : queue.eligible dst state = []) (n : Nat) :
    queue.dequeue (memory n) dst (if state = .active then 2 else 1) = none := by
  have none : ∀ entry ∈ queue.queue, ¬(entry.header.destination = dst ∧ Eligible state entry) := by
    simpa [eligible] using done
  rw [dequeue, dequeueFrom_blocked fun j other found =>
    holds.blocked (List.Subset.refl _) none n j found, Option.map_none]

theorem removePacketTag_middle (distinct : (queue.queue.map QueueEntry.key).Nodup)
    (split : queue.queue = before ++ entry :: rest) :
    queue.removePacketTag entry.key =
      { queue with queue := before ++ entry.removePacketTag :: rest } := by
  rw [split] at distinct
  have apart := ne_of_nodup_middle distinct
  have others {list : List QueueEntry} (listed : list ⊆ before ++ rest) :
      list.map (fun other => if other.key = entry.key then other.removePacketTag else other) =
      list := by
    refine (List.map_congr_left fun other member => ?_).trans (List.map_id _)
    rw [if_neg (apart other (listed member))]
    rfl
  rw [removePacketTag, split, List.map_append, List.map_cons, others (List.subset_append_left _ _),
    others (List.subset_append_right _ _), if_pos rfl]

/-- `Dequeue` hands out the first of the eligible packets, which is not eligible any more. -/
theorem dequeue_held_some (holds : queue.Holds dst memory valid)
    (distinct : (queue.queue.map QueueEntry.key).Nodup)
    (next : queue.eligible dst state = entry :: rest) (n : Nat) : ∃ handed after,
      queue.dequeue (memory n) dst (if state = .active then 2 else 1) = some (handed, after) ∧
      handed.key = entry.key ∧ handed.packet = entry.packet ∧
      (after.removePacketTag handed.key).eligible dst state = rest ∧
      (after.removePacketTag handed.key).Holds dst memory valid ∧
      ((after.removePacketTag handed.key).queue.map QueueEntry.key).Nodup := by
  obtain ⟨before, right, split, skipped, chosen, later⟩ := List.filter_eq_cons_iff.mp next
  have none : ∀ entry ∈ before, ¬(entry.header.destination = dst ∧ Eligible state entry) := by
    simpa using skipped
  have meant : entry.header.destination = dst ∧ Eligible state entry := by simpa using chosen
  have listed : before ⊆ queue.queue := split ▸ List.subset_append_left _ _
  have member : entry ∈ queue.queue := by simp [split]
  have passed : BsdvrQueue.hands (memory n) dst (if state = .active then 2 else 1)
      (0 + before.length) entry =
      some (handedStatus state) := by
    rw [holds.hands member, if_pos meant]
  have taken := @dequeueFrom_first dst entry before right _ _ _ _
    (fun j other found => holds.blocked listed none n j found) passed
  rw [holds.constructed, ← split] at taken
  set handed : QueueEntry := { entry with status := ⟨(handedStatus state).code, valid⟩ }
  have keys : (before ++ handed :: right).map QueueEntry.key = queue.queue.map QueueEntry.key := by
    rw [split, List.map_append, List.map_append, List.map_cons, List.map_cons]
    rfl
  have untagged := @removePacketTag_middle { queue with queue := before ++ handed :: right }
    handed before right
    (by rwa [keys]) rfl
  refine ⟨handed, _, dequeue_of_dequeueFrom taken, rfl, rfl, ?_⟩
  rw [untagged]
  refine ⟨?_, ⟨holds.constructed, fun other among toward => ?_⟩, ?_⟩
  · have gone : ¬Eligible state handed.removePacketTag := @not_eligible_handed state entry valid
    rw [eligible, List.filter_append, List.filter_eq_nil_iff.mpr skipped, List.nil_append,
      List.filter_cons_of_neg, later]
    simp [gone]
  · rcases List.mem_append.mp among with early | late
    · exact holds.entries other (listed early) toward
    · rcases List.mem_cons.mp late with rfl | later'
      · exact ⟨handedStatus state, rfl⟩
      · exact holds.entries other (by simp [split, later']) toward
  · rw [List.map_append, List.map_cons] at keys ⊢
    have same : handed.removePacketTag.key = handed.key := rfl
    rw [same, keys]
    exact distinct

/-! ## The loop -/

variable {route : Ipv4Route} {fuel : Nat} {handed : QueueEntry} {after : BsdvrQueue}

theorem sendPacketFromQueue_ended
    (done : queue.dequeue (memory fuel) dst (if state = .active then 2 else 1) = none) :
    queue.sendPacketFromQueue dst route state memory (fuel + 1) = some ([], queue) ∧
      queue.iterations dst route state memory (fuel + 1) = 0 := by
  simp only [sendPacketFromQueue, iterations, done, and_self]

theorem sendPacketFromQueue_stopped
    (taken : queue.dequeue (memory fuel) dst (if state = .active then 2 else 1) =
      some (handed, after))
    (foreign : compatible route handed = false) :
    queue.sendPacketFromQueue dst route state memory (fuel + 1) =
      some ([], after.removePacketTag handed.key) ∧
      queue.iterations dst route state memory (fuel + 1) = 1 := by
  have mismatch : mismatches handed.packet.tag route.outputDevice = true := by
    simpa [compatible] using foreign
  simp only [sendPacketFromQueue, iterations, taken, mismatch, if_true, and_self]

theorem sendPacketFromQueue_passed
    (taken : queue.dequeue (memory fuel) dst (if state = .active then 2 else 1) =
      some (handed, after))
    (suits : compatible route handed = true) : ∃ first : Forwarded, first.key = handed.key ∧
      queue.sendPacketFromQueue dst route state memory (fuel + 1) =
        ((after.removePacketTag handed.key).sendPacketFromQueue dst route state memory fuel).map
          (fun (later, queue) => (first :: later, queue)) ∧
      queue.iterations dst route state memory (fuel + 1) =
        (after.removePacketTag handed.key).iterations dst route state memory fuel + 1 := by
  have matched : mismatches handed.packet.tag route.outputDevice = false := by
    simpa [compatible] using suits
  refine ⟨⟨route, handed.removePacketTag.packet,
    { handed.header with source := route.source, ttl := handed.header.ttl + 1 }⟩, rfl, ?_⟩
  simp only [sendPacketFromQueue, iterations, taken, matched, Bool.false_eq_true,
    if_false, and_self]

/-- The packets are passed on up to the first that the interface of the route does not suit. -/
theorem sendPacketFromQueue_held (holds : queue.Holds dst memory valid)
    (distinct : (queue.queue.map QueueEntry.key).Nodup)
    (enough : (queue.eligible dst state).length < fuel) :
    ∃ forwarded after, queue.sendPacketFromQueue dst route state memory fuel =
      some (forwarded, after) ∧
      queue.iterations dst route state memory fuel ≤ (queue.eligible dst state).length ∧
      forwarded.map Forwarded.key = ((queue.eligible dst state).takeWhile (compatible route)).map
        QueueEntry.key := by
  induction fuel generalizing queue with
  | zero => exact absurd enough (Nat.not_lt_zero _)
  | succ fuel ih =>
      cases waiting : queue.eligible dst state with
      | nil =>
          obtain ⟨sent, rounds⟩ :=
            @sendPacketFromQueue_ended _ _ _ _ route _ (dequeue_held_none holds waiting fuel)
          exact ⟨[], queue, sent, rounds.le, rfl⟩
      | cons entry rest =>
          obtain ⟨handed, after, taken, key, packet, others, held, apart⟩ :=
            dequeue_held_some holds distinct waiting fuel
          have same : compatible route handed = compatible route entry := by
            rw [compatible, packet, compatible]
          rw [waiting, List.length_cons, Nat.succ_lt_succ_iff, ← others] at enough
          cases suits : compatible route entry with
          | false =>
              obtain ⟨sent, rounds⟩ := sendPacketFromQueue_stopped taken (same.trans suits)
              refine ⟨[], _, sent, rounds.le.trans (Nat.le_add_left 1 _), ?_⟩
              rw [List.takeWhile_cons_of_neg (by simp [suits])]
              rfl
          | true =>
              obtain ⟨first, named, sent, rounds⟩ :=
                sendPacketFromQueue_passed taken (same.trans suits)
              obtain ⟨forwarded, last, looped, bounded, keys⟩ := ih held apart enough
              rw [others] at bounded keys
              refine ⟨first :: forwarded, last, by rw [sent, looped]; rfl, ?_, ?_⟩
              · rw [rounds, List.length_cons]
                exact Nat.succ_le_succ bounded
              · rw [List.takeWhile_cons_of_pos suits, List.map_cons, List.map_cons,
                  keys, named, key]

theorem flushes_of_held (holds : queue.Holds dst memory valid)
    (distinct : (queue.queue.map QueueEntry.key).Nodup) :
    queue.Flushes dst route state memory ↔ queue.Unblocked dst route state := by
  have few : (queue.eligible dst state).length ≤ queue.queue.length := List.length_filter_le _ _
  obtain ⟨forwarded, after, sent, bounded, keys⟩ :=
    @sendPacketFromQueue_held _ _ state _ _ route _ holds distinct (Nat.lt_succ_of_le few)
  rw [Unblocked, ← map_takeWhile_eq_map_filter_iff (compatible route) QueueEntry.key, ← keys]
  constructor
  · rintro ⟨forwarded', after', sent', _, complete⟩
    rw [sent, Option.some.injEq, Prod.mk.injEq] at sent'
    rwa [sent'.1]
  · intro complete
    exact ⟨forwarded, after, sent, bounded.trans few, complete⟩

/-! ## Any memory -/

theorem flushes_of_foreign (memory : Nat → Memory)
    (foreign : ∀ entry ∈ queue.queue, entry.header.destination = dst →
      compatible route entry = false) :
    queue.Flushes dst route state memory := by
  have nothing : (queue.eligible dst state).filter (compatible route) = [] := by
    refine List.filter_eq_nil_iff.mpr fun entry member => ?_
    obtain ⟨listed, meant⟩ := List.mem_filter.mp member
    have toward : entry.header.destination = dst := (of_decide_eq_true meant).1
    simp [foreign entry listed toward]
  unfold Flushes
  rw [nothing]
  cases taken : queue.dequeue (memory queue.queue.length) dst (if state = .active then 2 else 1)
    with
  | none =>
      obtain ⟨sent, rounds⟩ := @sendPacketFromQueue_ended _ _ _ _ route _ taken
      exact ⟨[], queue, sent, rounds.trans_le (Nat.zero_le _), rfl⟩
  | some pair =>
      obtain ⟨handed, after⟩ := pair
      obtain ⟨before, entry, rest, status, split, rfl, passed, rfl⟩ := dequeue_eq_some taken
      have member : entry ∈ queue.queue := by simp [split]
      obtain ⟨sent, rounds⟩ :=
        sendPacketFromQueue_stopped taken (foreign entry member (hands_destination passed))
      refine ⟨[], _, sent, rounds.trans_le ?_, rfl⟩
      rw [split, List.length_append, List.length_cons]
      omega

def stuck (others : List Status) (status : Status) : Memory := fun i _ =>
  match others[i]? with
  | some other => { other with pValid := !other.pValid }
  | none => status

theorem stuck_ne {others : List Status} {status other : Status} {i : Nat}
    (found : others[i]? = some other) (constructed : ForwardingStatus) :
    other ≠ stuck others status i constructed := by
  unfold stuck
  rw [found]
  intro same
  have flags : other.pValid = !other.pValid := congrArg Status.pValid same
  cases valid : other.pValid <;> simp [valid] at flags

theorem stuck_length (others : List Status) (status : Status) (constructed : ForwardingStatus) :
    stuck others status others.length constructed = status := by simp [stuck]

theorem hands_of_ne {memory : Memory} {i : Nat} (apart : ∀ status, entry.status ≠ memory i status) :
    hands memory dst (if state = .active then 2 else 1) i entry = none := by
  cases state <;> simp [hands, apart]

theorem hands_of_eq {memory : Memory} {i : Nat} (toward : entry.header.destination = dst)
    (same : ∀ status, entry.status = memory i status) :
    hands memory dst (if state = .active then 2 else 1) i entry = some (handedStatus state) := by
  cases state <;> simp [hands, toward, handedStatus, ← same]

theorem sendPacketFromQueue_stuck (others : List Status) (status : Status) (maxLen : BitVec 32)
    (statuses : before.map QueueEntry.status = others) (own : entry.status = status)
    (toward : entry.header.destination = dst) (suits : compatible route entry = true) (fuel : Nat) :
    sendPacketFromQueue dst route state (fun _ => stuck others status) fuel
      ⟨before ++ entry :: rest, maxLen⟩ = none := by
  induction fuel generalizing before entry rest with
  | zero => rfl
  | succ fuel ih =>
      have length : before.length = others.length := by rw [← statuses, List.length_map]
      have blocked : ∀ j other, before[j]? = some other →
          hands (stuck others status) dst (if state = .active then 2 else 1) (0 + j) other =
          none := by
        intro j other found
        have known : others[j]? = some other.status := by
          rw [← statuses, List.getElem?_map, found, Option.map_some]
        rw [Nat.zero_add]
        exact hands_of_ne (stuck_ne known)
      have passed : hands (stuck others status) dst (if state = .active then 2 else 1)
          (0 + before.length) entry =
          some (handedStatus state) := by
        rw [Nat.zero_add, length]
        exact hands_of_eq toward fun constructed =>
          own.trans (stuck_length others status constructed).symm
      have taken := @dequeueFrom_first dst entry before rest _ _ _ _ blocked passed
      rw [Nat.zero_add, length, stuck_length] at taken
      have kept : { entry with status } = entry := by rw [← own]
      rw [kept] at taken
      have served := @dequeue_of_dequeueFrom ⟨before ++ entry :: rest,
        maxLen⟩ dst (stuck others status) _ entry _ taken
      obtain ⟨first, _, sent, _⟩ := @sendPacketFromQueue_passed _ dst state
        (fun _ => stuck others status) route fuel _ _
        served suits
      rw [sent, removePacketTag, List.map_append, List.map_cons, if_pos rfl, ih, Option.map_none]
      · rw [← statuses, List.map_map]
        refine List.map_congr_left fun other _ => ?_
        simp only [Function.comp_apply]
        split <;> rfl
      · exact own
      · exact toward
      · rfl

theorem holds_of_reach {maxLen : BitVec 32} {serving : Serving}
    (reach : Reach Serving.next (Serving.Stores valid) (Serving.start maxLen) serving)
    (dst : Ipv4Address) :
    serving.queue.Holds dst (fun _ _ status => ⟨status.code, valid⟩) valid where
  constructed _ _ _ := rfl
  entries entry member _ := ⟨_, (Serving.reach_recorded reach entry member).2⟩

/-- Where the `Status` objects hold what they are given, the loop does what it should exactly if no
eligible packet for another interface is in front of one it has to pass on; whatever they hold, only
if there is none to pass on. -/
theorem flushes_iff_unblocked (queue : BsdvrQueue) (dst : Ipv4Address) (route : Ipv4Route)
    (state : RouteState) (distinct : (queue.queue.map QueueEntry.key).Nodup) :
    (∀ memory valid, queue.Holds dst memory valid →
      (queue.Flushes dst route state memory ↔ queue.Unblocked dst route state)) ∧
    ((∀ memory, queue.Flushes dst route state memory) ↔
      ∀ entry ∈ queue.queue, entry.header.destination = dst → compatible route entry = false) := by
  refine ⟨fun memory valid holds => flushes_of_held holds distinct,
    fun flushes entry member toward => ?_, fun foreign memory =>
    flushes_of_foreign memory foreign⟩
  by_contra suits
  obtain ⟨before, rest, split⟩ := List.append_of_mem member
  obtain ⟨forwarded, after, sent, _⟩ := flushes fun _ =>
    stuck (before.map QueueEntry.status) entry.status
  have shape : queue = ⟨before ++ entry :: rest, queue.maxLen⟩ := by rw [← split]
  rw [shape, sendPacketFromQueue_stuck _ _ _ rfl rfl toward (by simpa using suits)] at sent
  cases sent

def throughFirst : Ipv4Route := ⟨0, 0x0a010202#32, 0x0a010201#32, 0x0a010202#32, some 1⟩

def tagged (uid : Nat) (tag : Option Int) : QueueEntry :=
  { Serving.waiting uid 0x0a010202#32 with packet := ⟨uid, tag⟩ }

theorem flushes_iff_unblocked_threePackets : ∃ serving,
    Reach Serving.next (Serving.Stores true) (Serving.start 64) serving ∧
    (serving.queue.eligible 0x0a010202#32 .active).length = 3 ∧
    serving.queue.Flushes 0x0a010202#32 throughFirst .active fun _ => Serving.kept := by
  -- the packet with the tag of interface 2 comes last
  obtain ⟨serving, reach, checked⟩ :=
    exists_reach_of_follow Serving.next (Serving.Stores true) (Serving.start 64)
    [.enqueue (tagged 1 none) Serving.kept, .enqueue (tagged 2 (some 1)) Serving.kept,
      .enqueue (tagged 3 (some 2)) Serving.kept]
    (fun serving => decide ((serving.queue.eligible 0x0a010202#32 .active).length = 3) &&
      decide (serving.queue.Unblocked 0x0a010202#32 throughFirst .active)) (by decide +kernel)
  simp only [Bool.and_eq_true, decide_eq_true_eq] at checked
  have settled := flushes_iff_unblocked serving.queue 0x0a010202#32 throughFirst .active
    (Serving.reach_distinct reach)
  exact ⟨serving, reach, checked.1, (settled.1 _ true (holds_of_reach reach _)).mpr checked.2⟩

theorem not_flushes_twoPackets :
    ∃ serving, Reach Serving.next (Serving.Stores true) (Serving.start 64) serving ∧
    ¬serving.queue.Flushes 0x0a010202#32 throughFirst .active fun _ => Serving.kept := by
  -- the packet with the tag of interface 2 is the older one
  obtain ⟨serving, reach, checked⟩ :=
    exists_reach_of_follow Serving.next (Serving.Stores true) (Serving.start 64)
    [.enqueue (tagged 1 (some 2)) Serving.kept, .enqueue (tagged 2 none) Serving.kept]
    (fun serving => decide (¬serving.queue.Unblocked 0x0a010202#32 throughFirst .active))
    (by decide +kernel)
  refine ⟨serving, reach, fun flushes => of_decide_eq_true checked ?_⟩
  exact (flushes_of_held (holds_of_reach reach _) (Serving.reach_distinct reach)).mp flushes

end BsdvrQueue
end Bsdvr
