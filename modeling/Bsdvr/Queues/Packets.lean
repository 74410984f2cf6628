import Bsdvr.Foundation.Run
import Bsdvr.Foundation.Sequence
import Bsdvr.Model.PacketQueue

namespace Bsdvr
open Foundation

inductive PacketCall
  | enqueue (entry : QueueEntry) (memory : Memory)
  | dequeue (dst : Ipv4Address) (sval : BitVec 32) (memory : Memory)
  | dropPacketWithDst (dst : Ipv4Address)
  | setMaxQueueLen (len : BitVec 32)

/-- The packet queue, the values of `sval` by which each packet was handed out since it was last
enqueued, and the number of entries and the maximum length after each successful `Enqueue`. -/
structure Serving where
  queue : BsdvrQueue
  given : Nat × Ipv4Address → List (BitVec 32)
  sizes : List (Nat × BitVec 32)

namespace Serving

def next (state : Serving) : PacketCall → Option Serving
  | .enqueue entry memory =>
      let (queued, queue) := state.queue.enqueue memory entry
      if queued then
        some
          { queue
            given := Function.update state.given entry.key []
            sizes := state.sizes ++ [(queue.queue.length, queue.maxLen)] }
      else some { state with queue }
  | .dequeue dst sval memory =>
      match state.queue.dequeue memory dst sval with
      | some (handed, queue) =>
          some { state with
            queue
            given := Function.update state.given handed.key (state.given handed.key ++ [sval]) }
      | none => some state
  | .dropPacketWithDst dst => some { state with queue := state.queue.dropPacketWithDst dst }
  | .setMaxQueueLen len => some { state with queue := state.queue.setMaxQueueLen len }

def start (maxLen : BitVec 32) : Serving := ⟨⟨[], maxLen⟩, fun _ => [], []⟩

variable {state after : Serving} {call : PacketCall}

/-! ## Duplicates and the length of the queue -/

def Distinct (state : Serving) : Prop := (state.queue.queue.map QueueEntry.key).Nodup

theorem Distinct.next (distinct : state.Distinct)
    (taken : state.next call = some after) : after.Distinct := by
  unfold Distinct at distinct ⊢
  cases call with
  | enqueue entry memory =>
      simp only [Serving.next] at taken
      rcases state.queue.enqueue_cases memory entry with refused | ⟨new, kept, accepted, fewer, _⟩
      · rw [refused] at taken
        obtain rfl := Option.some.inj taken
        exact distinct
      · rw [accepted] at taken
        obtain rfl := Option.some.inj taken
        have keys := fewer.map QueueEntry.key
        rw [List.map_append, List.map_singleton, ← List.concat_eq_append]
        exact (distinct.sublist keys).concat fun old => new (keys.subset old)
  | dequeue dst sval memory =>
      simp only [Serving.next] at taken
      split at taken
      · rename_i handed queue served
        obtain rfl := Option.some.inj taken
        obtain ⟨before, entry, rest, status, split, rfl, _, rfl⟩ :=
          BsdvrQueue.dequeue_eq_some served
        rw [split] at distinct
        simpa [QueueEntry.key] using distinct
      · obtain rfl := Option.some.inj taken
        exact distinct
  | dropPacketWithDst dst =>
      obtain rfl := Option.some.inj taken
      exact distinct.sublist (List.filter_sublist.map _)
  | setMaxQueueLen len =>
      obtain rfl := Option.some.inj taken
      exact distinct

def WithinLimit (state : Serving) : PacketCall → Prop
  | .enqueue _ _ => state.queue.queue.length ≤ state.queue.maxLen.toNat
  | _ => True

instance (state : Serving) (call : PacketCall) : Decidable (state.WithinLimit call) :=
  match call with
  | .enqueue _ _ => inferInstanceAs (Decidable (_ ≤ _))
  | .dequeue _ _ _ | .dropPacketWithDst _ | .setMaxQueueLen _ => instDecidableTrue

theorem enqueue_length {queue : BsdvrQueue} {memory : Memory} {entry : QueueEntry}
    (accepted : (queue.enqueue memory entry).1 = true) :
    (queue.enqueue memory entry).2.queue.length ≤ (queue.enqueue memory entry).2.maxLen.toNat ↔
      queue.queue.length ≤ queue.maxLen.toNat := by
  rcases queue.enqueue_cases memory entry with refused | ⟨_, kept, taken, _, room⟩
  · rw [refused] at accepted
    cases accepted
  · rw [taken]
    simp only [List.length_append, List.length_singleton]
    rcases room with ⟨full, i, bound, rfl⟩ | ⟨free, rfl⟩
    · rw [List.length_eraseIdx_of_lt bound]
      omega
    · omega

theorem enqueue_refused {queue : BsdvrQueue} {memory : Memory} {entry : QueueEntry}
    (refused : (queue.enqueue memory entry).1 = false) :
    (queue.enqueue memory entry).2 = queue := by
  rcases queue.enqueue_cases memory entry with same | ⟨_, kept, taken, _⟩
  · rw [same]
  · rw [taken] at refused
    cases refused

theorem sizes_next (within : state.WithinLimit call) (taken : state.next call = some after)
    (bounded : ∀ pair ∈ state.sizes, pair.1 ≤ pair.2.toNat) :
    ∀ pair ∈ after.sizes, pair.1 ≤ pair.2.toNat := by
  cases call with
  | enqueue entry memory =>
      simp only [Serving.next] at taken
      split at taken
      · rename_i accepted
        obtain rfl := Option.some.inj taken
        refine List.forall_mem_append.mpr ⟨bounded, fun pair member => ?_⟩
        obtain rfl := List.mem_singleton.mp member
        exact (enqueue_length accepted).mpr within
      · obtain rfl := Option.some.inj taken
        exact bounded
  | dequeue dst sval memory =>
      simp only [Serving.next] at taken
      split at taken
      · obtain rfl := Option.some.inj taken
        exact bounded
      · obtain rfl := Option.some.inj taken
        exact bounded
  | dropPacketWithDst dst =>
      obtain rfl := Option.some.inj taken
      exact bounded
  | setMaxQueueLen len =>
      obtain rfl := Option.some.inj taken
      exact bounded

theorem reach_distinct {maxLen : BitVec 32} {ok : Serving → PacketCall → Prop}
    (reach : Reach next ok (start maxLen) state) :
    state.Distinct := by
  have initial : (start maxLen).Distinct := List.nodup_nil
  apply reach.invariant initial
  intro before call after distinct _ taken
  exact distinct.next taken

/-- In every run the packets are distinct and a refused one changes nothing; the queue stays within
its maximum length where each `Enqueue` finds it so. -/
theorem bounded_iff_withinLimit {maxLen : BitVec 32}
    (reach : Reach next (fun _ _ => True) (start maxLen) state) :
    state.Distinct ∧
    (∀ memory entry, (state.queue.enqueue memory entry).1 = false →
      (state.queue.enqueue memory entry).2 = state.queue) ∧
    (∀ memory entry, (state.queue.enqueue memory entry).1 = true →
      ((state.queue.enqueue memory entry).2.queue.length ≤
        (state.queue.enqueue memory entry).2.maxLen.toNat ↔
        state.WithinLimit (.enqueue entry memory))) ∧
    (Reach next WithinLimit (start maxLen) state → ∀ pair ∈ state.sizes, pair.1 ≤
      pair.2.toNat) := by
  refine ⟨reach_distinct reach, fun _ _ => enqueue_refused, fun _ _ => enqueue_length,
    fun within => ?_⟩
  refine within.invariant (P := fun state => ∀ pair ∈ state.sizes, pair.1 ≤ pair.2.toNat) ?_ ?_
  · intro pair member
    cases member
  · intro before call after bounded allowed taken
    exact sizes_next allowed taken bounded

/-- An entry for the packet `uid` to `dst`, as `DeferredRouteOutput` makes it where the memory of
its `Status` holds what the constructor is given. -/
def waiting (uid : Nat) (dst : Ipv4Address) : QueueEntry :=
  ⟨⟨uid, none⟩, ⟨ForwardingStatus.notForwarded.code, true⟩, ⟨0x0a010201#32, dst, 64⟩⟩

def kept : Memory := fun _ status => ⟨status.code, true⟩

theorem bounded_iff_withinLimit_twoPackets : ∃ state, Reach next WithinLimit (start 1) state ∧
    state.sizes = [(1, 1), (1, 1)] ∧ ∀ pair ∈ state.sizes, pair.1 ≤ pair.2.toNat := by
  obtain ⟨state, reach, checked⟩ := exists_reach_of_follow next WithinLimit (start 1)
    [.enqueue (waiting 1 0x0a010202#32) kept, .enqueue (waiting 2 0x0a010202#32) kept]
    (fun state => state.sizes = [(1, 1), (1, 1)]) (by decide +kernel)
  have free : Reach next (fun _ _ => True) (start 1) state := reach.mono fun _ _ _ => trivial
  exact ⟨state, reach, by simpa using checked, (bounded_iff_withinLimit free).2.2.2 reach⟩

theorem not_bounded_twoPackets : ∃ state, Reach next (fun _ _ => True) (start 64) state ∧
    ¬∀ pair ∈ state.sizes, pair.1 ≤ pair.2.toNat := by
  -- the maximum length is lowered below the size of the queue, which then grows on
  obtain ⟨state, reach, checked⟩ := exists_reach_of_follow next (fun _ _ => True) (start 64)
    [.enqueue (waiting 1 0x0a010202#32) kept, .enqueue (waiting 2 0x0a010202#32) kept,
      .setMaxQueueLen 1, .enqueue (waiting 3 0x0a010202#32) kept]
    (fun state => state.sizes.any fun pair => !decide (pair.1 ≤ pair.2.toNat)) (by decide +kernel)
  simp only [List.any_eq_true, Bool.not_eq_true', decide_eq_false_iff_not] at checked
  obtain ⟨pair, member, beyond⟩ := checked
  exact ⟨state, reach, fun bounded => beyond (bounded pair member)⟩

/-! ## Hand-outs -/

def recorded (given : List (BitVec 32)) : ForwardingStatus :=
  if 2 ∈ given then .activeForwarded else if 1 ∈ given then .inactiveForwarded else .notForwarded

/-- The `Status` objects a call constructs hold what their constructor is given and one valid flag:
that of the entry that is queued, and those to which `Dequeue` compares and sets the status of
entries. -/
def Stores (valid : Bool) (state : Serving) : PacketCall → Prop
  | .enqueue entry _ => entry.status = ⟨ForwardingStatus.notForwarded.code, valid⟩
  | .dequeue _ _ memory => ∀ i < state.queue.queue.length, ∀ status ∈
      [ForwardingStatus.notForwarded, .inactiveForwarded, .activeForwarded],
        memory i status = ⟨status.code, valid⟩
  | .dropPacketWithDst _ | .setMaxQueueLen _ => True

instance (valid : Bool) (state : Serving) (call : PacketCall) :
    Decidable (state.Stores valid call) :=
  match call with
  | .enqueue _ _ => inferInstanceAs (Decidable (_ = _))
  | .dequeue _ _ memory => inferInstanceAs (Decidable (∀ i < state.queue.queue.length, ∀ status ∈
      [ForwardingStatus.notForwarded, .inactiveForwarded, .activeForwarded],
        memory i status = ⟨status.code, valid⟩))
  | .dropPacketWithDst _ | .setMaxQueueLen _ => instDecidableTrue

/-- Every packet has the status of its hand-outs, which come in the order of the routes. -/
def Recorded (valid : Bool) (state : Serving) : Prop :=
  ∀ entry ∈ state.queue.queue, (state.given entry.key).Sublist [1, 2] ∧
    entry.status = ⟨(recorded (state.given entry.key)).code, valid⟩

theorem sublist_cases {given : List (BitVec 32)} (ordered : given.Sublist [1, 2]) :
    given = [] ∨ given = [1] ∨ given = [2] ∨ given = [1, 2] := by
  have member := List.mem_sublists.mpr ordered
  rw [show ([1, 2] : List (BitVec 32)).sublists = [[], [1], [2], [1, 2]] from rfl] at member
  simpa using member

theorem hands_recorded {memory : Memory} {dst : Ipv4Address} {sval : BitVec 32} {i : Nat}
    {entry : QueueEntry} {status : ForwardingStatus} {valid : Bool} {given : List (BitVec 32)}
    (stores : ∀ status ∈ [ForwardingStatus.notForwarded, .inactiveForwarded, .activeForwarded],
      memory i status = ⟨status.code, valid⟩)
    (ordered : given.Sublist [1, 2]) (records : entry.status = ⟨(recorded given).code, valid⟩)
    (passed : BsdvrQueue.hands memory dst sval i entry = some status) :
    (given ++ [sval]).Sublist [1, 2] ∧
      memory i status = ⟨(recorded (given ++ [sval])).code, valid⟩ := by
  simp only [List.forall_mem_cons, List.not_mem_nil, false_imp_iff, implies_true, and_true]
    at stores
  obtain ⟨fresh, inactive, active⟩ := stores
  unfold BsdvrQueue.hands at passed
  rw [fresh, inactive, records] at passed
  split at passed
  · rename_i works
    subst works
    split at passed
    · rename_i test
      obtain rfl := Option.some.inj passed
      rcases sublist_cases ordered with rfl | rfl | rfl | rfl
      · exact ⟨by decide, active⟩
      · exact ⟨by decide, active⟩
      · exact absurd test.2 (by simp [recorded, ForwardingStatus.code])
      · exact absurd test.2 (by simp [recorded, ForwardingStatus.code])
    · cases passed
  · split at passed
    · rename_i fails
      subst fails
      split at passed
      · rename_i test
        obtain rfl := Option.some.inj passed
        rcases sublist_cases ordered with rfl | rfl | rfl | rfl
        · exact ⟨by decide, inactive⟩
        · exact absurd test.2 (by simp [recorded, ForwardingStatus.code])
        · exact absurd test.2 (by simp [recorded, ForwardingStatus.code])
        · exact absurd test.2 (by simp [recorded, ForwardingStatus.code])
      · cases passed
    · cases passed

theorem Recorded.accepted {valid : Bool} {entry : QueueEntry} {kept : List QueueEntry}
    (records : state.Recorded valid) (new : entry.key ∉ state.queue.queue.map QueueEntry.key)
    (fewer : kept.Sublist state.queue.queue)
    (stored : entry.status = ⟨ForwardingStatus.notForwarded.code, valid⟩)
    (sizes : List (Nat × BitVec 32)) :
    Recorded valid
      ⟨{ state.queue with queue := kept ++ [entry] }, Function.update state.given entry.key [],
        sizes⟩ := by
  intro other member
  rcases List.mem_append.mp member with old | last
  · have apart : other.key ≠ entry.key := by
      intro same
      exact new (same ▸ List.mem_map_of_mem (fewer.subset old))
    simp only [Function.update_of_ne apart]
    exact records other (fewer.subset old)
  · obtain rfl := List.mem_singleton.mp last
    simp only [Function.update_self]
    exact ⟨List.nil_sublist _, stored⟩

theorem Recorded.handed {valid : Bool} {before rest : List QueueEntry} {entry : QueueEntry}
    {status : Status} {given : List (BitVec 32)} (records : state.Recorded valid)
    (distinct : state.Distinct) (split : state.queue.queue = before ++ entry :: rest)
    (step : given.Sublist [1, 2] ∧ status = ⟨(recorded given).code, valid⟩) :
    Recorded valid { state with
      queue := { state.queue with queue := before ++ { entry with status } :: rest }
      given := Function.update state.given entry.key given } := by
  rw [Distinct, split] at distinct
  intro other member
  rcases mem_middle.mp member with old | rfl
  · simp only [Function.update_of_ne (ne_of_nodup_middle distinct other old)]
    apply records other
    rw [split]
    exact mem_middle.mpr (.inl old)
  · have same : ({ entry with status } : QueueEntry).key = entry.key := rfl
    simp only [same, Function.update_self]
    exact step

theorem Recorded.next {valid : Bool} (records : state.Recorded valid) (distinct : state.Distinct)
    (stores : state.Stores valid call) (taken : state.next call = some after) :
    after.Recorded valid := by
  cases call with
  | enqueue entry memory =>
      simp only [Serving.next] at taken
      rcases state.queue.enqueue_cases memory entry with refused | ⟨new, kept, accepted, fewer, _⟩
      · rw [refused] at taken
        obtain rfl := Option.some.inj taken
        exact records
      · rw [accepted] at taken
        obtain rfl := Option.some.inj taken
        exact records.accepted new fewer stores _
  | dequeue dst sval memory =>
      simp only [Serving.next] at taken
      split at taken
      · rename_i handed queue served
        obtain rfl := Option.some.inj taken
        obtain ⟨before, entry, rest, status, split, rfl, passed, rfl⟩ :=
          BsdvrQueue.dequeue_eq_some served
        have inside : before.length < state.queue.queue.length := by
          rw [split, List.length_append, List.length_cons]
          omega
        obtain ⟨ordered, current⟩ := records entry (by simp [split])
        exact records.handed distinct split
          (hands_recorded (stores before.length inside) ordered current passed)
      · obtain rfl := Option.some.inj taken
        exact records
  | dropPacketWithDst dst =>
      obtain rfl := Option.some.inj taken
      exact fun entry member => records entry (List.mem_of_mem_filter member)
  | setMaxQueueLen len =>
      obtain rfl := Option.some.inj taken
      exact records

theorem reach_recorded {maxLen : BitVec 32} {valid : Bool}
    (reach : Reach next (Stores valid) (start maxLen) state) :
    state.Recorded valid := by
  have all : state.Distinct ∧ state.Recorded valid := by
    refine reach.invariant (P := fun state => state.Distinct ∧ state.Recorded valid)
      ⟨List.nodup_nil, ?_⟩ ?_
    · intro entry member
      cases member
    · rintro before call after ⟨distinct, records⟩ stores taken
      exact ⟨distinct.next taken, records.next distinct stores taken⟩
  exact all.2

/-- Where the `Status` objects hold what they are given, packets are handed out at most once by each
kind of route, and not by one that fails after one that works; a packet that was not handed out
passes both tests. -/
theorem handed_once_of_stores {maxLen : BitVec 32} {valid : Bool}
    (reach : Reach next (Stores valid) (start maxLen) state) :
    ∀ entry ∈ state.queue.queue, (state.given entry.key).Sublist [1, 2] ∧
      entry.status = ⟨(recorded (state.given entry.key)).code, valid⟩ ∧
      (state.given entry.key = [] → ∀ (memory : Memory) i,
        (∀ status, memory i status = ⟨status.code, valid⟩) →
        ∀ sval ∈ [1, 2],
          (BsdvrQueue.hands memory entry.header.destination sval i entry).isSome) := by
  intro entry member
  obtain ⟨ordered, current⟩ := reach_recorded reach entry member
  refine ⟨ordered, current, fun none memory i stores sval kind => ?_⟩
  rw [none] at current
  have fresh : entry.status = memory i .notForwarded := by rw [stores, current]; rfl
  simp only [List.mem_cons, List.not_mem_nil, or_false] at kind
  rcases kind with rfl | rfl
  · simp [BsdvrQueue.hands, fresh]
  · simp [BsdvrQueue.hands, fresh]

theorem handed_once_of_stores_onePacket : ∃ state, Reach next (Stores true) (start 64) state ∧
    state.given (1, 0x0a010202#32) = [1, 2] ∧
    ∀ entry ∈ state.queue.queue, (state.given entry.key).Sublist [1, 2] := by
  obtain ⟨state, reach, checked⟩ := exists_reach_of_follow next (Stores true) (start 64)
    [.enqueue (waiting 1 0x0a010202#32) kept, .dequeue 0x0a010202#32 1 kept,
      .dequeue 0x0a010202#32 1 kept, .dequeue 0x0a010202#32 2 kept, .dequeue 0x0a010202#32 2 kept]
    (fun state => state.given (1, 0x0a010202#32) = [1, 2]) (by decide +kernel)
  exact ⟨state, reach, by simpa using checked, fun entry member =>
    (handed_once_of_stores reach entry member).1⟩

def blank : Memory := fun _ _ => ⟨0, false⟩

theorem not_handed_once_onePacket : ∃ state, Reach next (fun _ _ => True) (start 64) state ∧
    ¬∀ entry ∈ state.queue.queue, (state.given entry.key).Sublist [1, 2] := by
  -- a packet is handed out twice by a route that works
  obtain ⟨state, reach, checked⟩ := exists_reach_of_follow next (fun _ _ => True) (start 64)
    [.enqueue { waiting 1 0x0a010202#32 with status := blank 0 .notForwarded } blank,
      .dequeue 0x0a010202#32 2 blank, .dequeue 0x0a010202#32 2 blank]
    (fun state => state.queue.queue.any fun entry => state.given entry.key = [2, 2])
    (by decide +kernel)
  simp only [List.any_eq_true, decide_eq_true_eq] at checked
  obtain ⟨entry, member, twice⟩ := checked
  refine ⟨state, reach, fun once => ?_⟩
  have ordered := once entry member
  rw [twice] at ordered
  exact absurd ordered (by decide)

end Serving

end Bsdvr
