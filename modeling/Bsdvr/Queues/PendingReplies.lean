import Bsdvr.Foundation.Run
import Bsdvr.Model.Neighbors

namespace Bsdvr
open Foundation

namespace BsdvrPendingReplyQueue
variable {prqueue after : BsdvrPendingReplyQueue} {now : Time} {entry : PendingReplyEntry}
  {queued : Bool}

/-! ## The operations of the queue -/

def has (queue : List PendingReplyEntry) (entry : PendingReplyEntry) : Bool :=
  queue.any fun other => other.neighbor = entry.neighbor ∧ other.destination = entry.destination

/-- `Enqueue`, where nothing is returned if `front` and `erase` are applied to an empty vector. -/
def enqueue? (prqueue : BsdvrPendingReplyQueue) (now : Time) (entry : PendingReplyEntry) :
    Option (Bool × BsdvrPendingReplyQueue) :=
  let purged := (prqueue.purge now).2
  if has purged.queue entry then some (false, purged)
  else
    let added := { entry with time := purged.timeout + now }
    if purged.queue.length = purged.maxLen.toNat then
      match purged.queue with
      | [] => none
      | _ :: kept => some (true, { purged with queue := kept ++ [added] })
    else some (true, { purged with queue := purged.queue ++ [added] })

def dropEntryWithNeighbor (prqueue : BsdvrPendingReplyQueue)
    (ne : Ipv4Address) : BsdvrPendingReplyQueue :=
  { prqueue with queue := prqueue.queue.filter fun entry => entry.neighbor ≠ ne }

/-- `Dequeue`: the first entry of the neighbour is returned and erased. -/
def dequeue (prqueue : BsdvrPendingReplyQueue) (ne : Ipv4Address) :
    Option PendingReplyEntry × BsdvrPendingReplyQueue :=
  (prqueue.queue.find? (·.neighbor = ne),
    { prqueue with queue := prqueue.queue.eraseP (·.neighbor = ne) })

def setMaxQueueLen (prqueue : BsdvrPendingReplyQueue) (len : BitVec 32) : BsdvrPendingReplyQueue :=
  { prqueue with maxLen := len }

def setQueueTimeout (prqueue : BsdvrPendingReplyQueue) (timeout : Time) : BsdvrPendingReplyQueue :=
  { prqueue with timeout }

theorem push_eq : prqueue.push now entry = if has prqueue.queue entry then prqueue else
    { prqueue with queue := (if prqueue.queue.length = prqueue.maxLen.toNat then prqueue.queue.tail
      else prqueue.queue) ++
        [{ entry with time := prqueue.timeout + now }] } := rfl

theorem enqueue?_push (defined : prqueue.enqueue? now entry = some (queued, after)) :
    after = (prqueue.purge now).2.push now entry := by
  unfold enqueue? at defined
  rw [push_eq]
  simp only at defined
  split at defined
  · rename_i listed
    obtain ⟨_, rfl⟩ := Prod.mk.inj (Option.some.inj defined)
    rw [if_pos listed]
  · rename_i absent
    rw [if_neg absent]
    split at defined
    · rename_i full
      split at defined
      · cases defined
      · rename_i first kept present
        obtain ⟨_, rfl⟩ := Prod.mk.inj (Option.some.inj defined)
        rw [if_pos full, present, List.tail_cons]
    · rename_i free
      obtain ⟨_, rfl⟩ := Prod.mk.inj (Option.some.inj defined)
      rw [if_neg free]

theorem enqueue?_defined (positive : 0 < prqueue.maxLen.toNat) :
    ∃ queued, prqueue.enqueue? now entry = some (queued, (prqueue.purge now).2.push now entry) := by
  have defined : prqueue.enqueue? now entry ≠ none := by
    unfold enqueue?
    simp only
    split
    · simp
    · split
      · rename_i full
        split
        · rename_i empty
          have limit : (prqueue.purge now).2.maxLen = prqueue.maxLen := rfl
          rw [empty, limit, List.length_nil] at full
          omega
        · simp
      · simp
  obtain ⟨⟨queued, after⟩, found⟩ := Option.ne_none_iff_exists'.mp defined
  exact ⟨queued, by rw [found, enqueue?_push found]⟩

def pair (entry : PendingReplyEntry) : Ipv4Address × Ipv4Address :=
  (entry.neighbor, entry.destination)

def Distinct (prqueue : BsdvrPendingReplyQueue) : Prop := (prqueue.queue.map pair).Nodup

theorem Distinct.purge (distinct : prqueue.Distinct) (now : Time) :
    (prqueue.purge now).2.Distinct :=
  distinct.sublist (List.filter_sublist.map _)

theorem Distinct.push (distinct : prqueue.Distinct) (now : Time) (entry : PendingReplyEntry) :
    (prqueue.push now entry).Distinct := by
  unfold BsdvrPendingReplyQueue.push
  split
  · exact distinct
  · rename_i absent
    set kept := if prqueue.queue.length = prqueue.maxLen.toNat then prqueue.queue.tail
      else prqueue.queue with hkept
    have fewer : kept.Sublist prqueue.queue := by
      rw [hkept]
      split
      · exact List.tail_sublist _
      · exact List.Sublist.refl _
    rw [Distinct, List.map_append, List.map_singleton, ← List.concat_eq_append]
    refine List.Nodup.concat (fun old => ?_) (distinct.sublist (fewer.map _))
    obtain ⟨other, member, same⟩ := List.mem_map.mp old
    obtain ⟨neighbor, destination⟩ := Prod.mk.inj same
    apply absent
    rw [List.any_eq_true]
    exact ⟨other, fewer.subset member, by simp [neighbor, destination]⟩

/-- Whether `Enqueue` keeps within the limit: the pair waits already, or the maximum length is
positive and not below the number of entries that have not expired. -/
def Roomy (prqueue : BsdvrPendingReplyQueue) (now : Time) (entry : PendingReplyEntry) : Prop :=
  has (prqueue.purge now).2.queue entry = true ∨
    (0 < prqueue.maxLen.toNat ∧ (prqueue.purge now).2.queue.length ≤ prqueue.maxLen.toNat)

instance (prqueue : BsdvrPendingReplyQueue) (now : Time) (entry : PendingReplyEntry) :
    Decidable (prqueue.Roomy now entry) := inferInstanceAs (Decidable (_ ∨ _ ∧ _))

theorem enqueue?_roomy : (∃ queued after, prqueue.enqueue? now entry = some (queued, after) ∧
    (queued = true → after.queue.length ≤ after.maxLen.toNat)) ↔ prqueue.Roomy now entry := by
  have limit : (prqueue.purge now).2.maxLen = prqueue.maxLen := rfl
  unfold Roomy enqueue?
  simp only [limit]
  generalize (prqueue.purge now).2 = purged at limit
  rw [← limit]
  by_cases listed : has purged.queue entry
  · simp [listed]
  · simp only [listed, Bool.false_eq_true, ↓reduceIte, false_or]
    by_cases full : purged.queue.length = purged.maxLen.toNat
    · rw [if_pos full, ← full]
      cases present : purged.queue with
      | nil => simp
      | cons first kept =>
          rw [present, List.length_cons] at full
          simp only [Option.some.injEq, Prod.mk.injEq, List.length_cons]
          refine iff_of_true ⟨true, _, ⟨rfl, rfl⟩, fun _ => ?_⟩ ⟨Nat.succ_pos _, Nat.le_refl _⟩
          simp only [List.length_append, List.length_singleton]
          omega
    · rw [if_neg full]
      constructor
      · rintro ⟨queued, after, same, within⟩
        obtain ⟨rfl, rfl⟩ := Prod.mk.inj (Option.some.inj same)
        have short := within rfl
        simp only [List.length_append, List.length_singleton] at short
        omega
      · rintro ⟨_, short⟩
        refine ⟨true, _, rfl, fun _ => ?_⟩
        simp only [List.length_append, List.length_singleton]
        omega

end BsdvrPendingReplyQueue

/-! ## Runs -/

inductive ReplyCall
  | enqueue (entry : PendingReplyEntry)
  | dequeue (ne : Ipv4Address)
  | dropEntryWithNeighbor (ne : Ipv4Address)
  | setQueueTimeout (timeout : Time)
  | setMaxQueueLen (len : BitVec 32)
  | elapse (duration : Time)
  deriving DecidableEq, Repr

/-- The queue, how often `front` and `erase` were applied to an empty vector, and the number of
entries and the maximum length after each successful `Enqueue`. -/
structure Replying where
  now : Time
  prqueue : BsdvrPendingReplyQueue
  faults : Nat
  sizes : List (Nat × BitVec 32)

namespace Replying

def next (state : Replying) : ReplyCall → Option Replying
  | .enqueue entry =>
      match state.prqueue.enqueue? state.now entry with
      | none => some { state with faults := state.faults + 1 }
      | some (queued, prqueue) =>
          some { state with
            prqueue
            sizes := if queued then state.sizes ++ [(prqueue.queue.length, prqueue.maxLen)] else state.sizes }
  | .dequeue ne => some { state with prqueue := (state.prqueue.dequeue ne).2 }
  | .dropEntryWithNeighbor ne => some { state with prqueue := state.prqueue.dropEntryWithNeighbor ne }
  | .setQueueTimeout timeout => some { state with prqueue := state.prqueue.setQueueTimeout timeout }
  | .setMaxQueueLen len => some { state with prqueue := state.prqueue.setMaxQueueLen len }
  | .elapse duration => some { state with now := state.now + duration }

def start (maxLen : BitVec 32) (timeout : Time) : Replying := ⟨0, ⟨[], maxLen, timeout⟩, 0, []⟩

def FindsRoom (state : Replying) : ReplyCall → Prop
  | .enqueue entry => state.prqueue.Roomy state.now entry
  | _ => True

instance (state : Replying) (call : ReplyCall) : Decidable (state.FindsRoom call) :=
  match call with
  | .enqueue entry => inferInstanceAs (Decidable (state.prqueue.Roomy state.now entry))
  | .dequeue _ | .dropEntryWithNeighbor _ | .setQueueTimeout _ | .setMaxQueueLen _ | .elapse _ =>
      instDecidableTrue

variable {state after : Replying} {call : ReplyCall}

theorem distinct_next (distinct : state.prqueue.Distinct) (taken : state.next call = some after) :
    after.prqueue.Distinct := by
  cases call with
  | enqueue entry =>
      simp only [next] at taken
      split at taken
      · obtain rfl := Option.some.inj taken
        exact distinct
      · rename_i queued prqueue defined
        obtain rfl := Option.some.inj taken
        rw [BsdvrPendingReplyQueue.enqueue?_push defined]
        exact (distinct.purge state.now).push state.now entry
  | dequeue ne =>
      obtain rfl := Option.some.inj taken
      exact distinct.sublist (List.eraseP_sublist.map _)
  | dropEntryWithNeighbor ne =>
      obtain rfl := Option.some.inj taken
      exact distinct.sublist (List.filter_sublist.map _)
  | setQueueTimeout timeout =>
      obtain rfl := Option.some.inj taken
      exact distinct
  | setMaxQueueLen len =>
      obtain rfl := Option.some.inj taken
      exact distinct
  | elapse duration =>
      obtain rfl := Option.some.inj taken
      exact distinct

structure Bounded (state : Replying) : Prop where
  faults : state.faults = 0
  sizes : ∀ size ∈ state.sizes, size.1 ≤ size.2.toNat

theorem Bounded.next (bounded : state.Bounded) (room : state.FindsRoom call) (taken : state.next call = some after) :
    after.Bounded := by
  cases call with
  | enqueue entry =>
      obtain ⟨queued, prqueue, defined, within⟩ := BsdvrPendingReplyQueue.enqueue?_roomy.mpr room
      simp only [Replying.next, defined] at taken
      obtain rfl := Option.some.inj taken
      refine ⟨bounded.faults, fun size member => ?_⟩
      simp only at member
      split at member
      · rename_i accepted
        rcases List.mem_append.mp member with old | new
        · exact bounded.sizes size old
        · obtain rfl := List.mem_singleton.mp new
          exact within accepted
      · exact bounded.sizes size member
  | dequeue ne =>
      obtain rfl := Option.some.inj taken
      exact ⟨bounded.faults, bounded.sizes⟩
  | dropEntryWithNeighbor ne =>
      obtain rfl := Option.some.inj taken
      exact ⟨bounded.faults, bounded.sizes⟩
  | setQueueTimeout timeout =>
      obtain rfl := Option.some.inj taken
      exact ⟨bounded.faults, bounded.sizes⟩
  | setMaxQueueLen len =>
      obtain rfl := Option.some.inj taken
      exact ⟨bounded.faults, bounded.sizes⟩
  | elapse duration =>
      obtain rfl := Option.some.inj taken
      exact ⟨bounded.faults, bounded.sizes⟩

/-- In every run no pair waits twice; `Enqueue` is safe and keeps to the maximum length exactly
where it finds room. -/
theorem bounded_iff_findsRoom {maxLen : BitVec 32} {timeout : Time}
    (reach : Reach next (fun _ _ => True) (start maxLen timeout) state) :
    state.prqueue.Distinct ∧
    (∀ entry, (∃ queued after, state.prqueue.enqueue? state.now entry = some (queued, after) ∧
      (queued = true → after.queue.length ≤ after.maxLen.toNat)) ↔ state.FindsRoom
        (.enqueue entry)) ∧
    (Reach next FindsRoom (start maxLen timeout) state → state.Bounded) := by
  refine ⟨?_, fun entry => BsdvrPendingReplyQueue.enqueue?_roomy, fun roomy => ?_⟩
  · apply reach.invariant (P := fun state => state.prqueue.Distinct) List.nodup_nil
    intro before call after distinct _ taken
    exact distinct_next distinct taken
  · refine roomy.invariant (P := Bounded) ⟨rfl,
      fun size member => absurd member List.not_mem_nil⟩ ?_
    intro before call after bounded room taken
    exact bounded.next room taken

theorem bounded_iff_findsRoom_twoReplies : ∃ state, Reach next FindsRoom (start 1 1000) state ∧
    state.sizes = [(1, 1), (1, 1)] ∧ state.Bounded := by
  obtain ⟨state, reach, checked⟩ := exists_reach_of_follow next FindsRoom (start 1 1000)
    [.enqueue ⟨0x0a010202#32, 0x0a010209#32, 0⟩, .enqueue ⟨0x0a010203#32, 0x0a010209#32, 0⟩]
    (fun state => state.sizes = [(1, 1), (1, 1)]) (by decide +kernel)
  have free : Reach next (fun _ _ => True) (start 1 1000) state := reach.mono fun _ _ _ => trivial
  exact ⟨state, reach, by simpa using checked, (bounded_iff_findsRoom free).2.2 reach⟩

theorem not_bounded_oneReply :
    ∃ state, Reach next (fun _ _ => True) (start 0 1000) state ∧ ¬state.Bounded := by
  -- with a maximum length of 0 the first `Enqueue` applies `front` to an empty vector
  obtain ⟨state, reach, checked⟩ := exists_reach_of_follow next (fun _ _ => True) (start 0 1000)
    [.enqueue ⟨0x0a010202#32, 0x0a010209#32, 0⟩] (fun state => state.faults = 1) (by decide +kernel)
  refine ⟨state, reach, fun bounded => ?_⟩
  have none := bounded.faults
  rw [of_decide_eq_true checked] at none
  cases none

end Replying

end Bsdvr
