import Bsdvr.Model.Neighbors

namespace Bsdvr

inductive ForwardingStatus
  | notForwarded
  | inactiveForwarded
  | activeForwarded
  deriving DecidableEq, Repr

def ForwardingStatus.code : ForwardingStatus → BitVec 32
  | notForwarded => 0
  | inactiveForwarded => 1
  | activeForwarded => 2

/-- A `Status` object. The body of its constructor is empty, so both members of a new one hold
whatever is in its memory. -/
structure Status where
  pStatus : BitVec 32
  pValid : Bool
  deriving DecidableEq, Repr

/-- What the `Status` objects that a call on the queue constructs hold: that for the entry at an
index, where the constructor is given a forwarding status. -/
abbrev Memory := Nat → ForwardingStatus → Status

structure DataPacket where
  uid : Nat
  tag : Option Int
  deriving DecidableEq, Repr

structure Ipv4Header where
  source : Ipv4Address
  destination : Ipv4Address
  ttl : BitVec 8
  deriving DecidableEq, Repr

structure QueueEntry where
  packet : DataPacket
  status : Status
  header : Ipv4Header
  deriving DecidableEq, Repr

/-- What `Enqueue` compares of two entries. -/
def QueueEntry.key (entry : QueueEntry) : Nat × Ipv4Address :=
  (entry.packet.uid, entry.header.destination)

structure BsdvrQueue where
  queue : List QueueEntry
  maxLen : BitVec 32
  deriving DecidableEq, Repr

namespace BsdvrQueue

/-- The oldest entries of each status, as the loop of `DropPolicy` finds them. -/
structure Oldest where
  onf : Option Nat
  oif : Option Nat
  oaf : Option Nat

def oldest (memory : Memory) : Nat → List QueueEntry → Oldest → Oldest
  | _, [], found => found
  | i, entry :: rest, found =>
      oldest memory (i + 1) rest <|
        if entry.status = memory i .notForwarded ∧ found.onf = none then
          { found with onf := some i }
        else if entry.status = memory i .inactiveForwarded ∧
          found.oif = none then { found with oif := some i }
        else if entry.status = memory i .activeForwarded ∧
          found.oaf = none then { found with oaf := some i }
        else found

/-- The queue once `DropPolicy` has erased an entry, if it finds one. -/
def dropPolicy (memory : Memory) (queue : List QueueEntry) : Option (List QueueEntry) :=
  let found := oldest memory 0 queue ⟨none, none, none⟩
  (found.oaf.or (found.oif.or found.onf)).map queue.eraseIdx

/-- `DropPolicy (en)` with its parameter, which no branch writes; `none` is the entry of the default
constructor. -/
def dropPolicyInto (memory : Memory) (queue : List QueueEntry) (en : Option QueueEntry) :
    Option (List QueueEntry) × Option QueueEntry :=
  let found := oldest memory 0 queue ⟨none, none, none⟩
  match found.oaf, found.oif, found.onf with
  | some oaf, _, _ => (some (queue.eraseIdx oaf), en)
  | none, some oif, _ => (some (queue.eraseIdx oif), en)
  | none, none, some onf => (some (queue.eraseIdx onf), en)
  | none, none, none => (none, en)

def enqueue (queue : BsdvrQueue) (memory : Memory) (entry : QueueEntry) : Bool × BsdvrQueue :=
  if queue.queue.any (fun other => other.key = entry.key) then (false, queue)
  else if queue.queue.length = queue.maxLen.toNat then
    match dropPolicy memory queue.queue with
    | some kept => (true, { queue with queue := kept ++ [entry] })
    | none => (false, queue)
  else (true, { queue with queue := queue.queue ++ [entry] })

/-- The test of `Dequeue` on the entry at an index, and the status it sets where the test
succeeds. -/
def hands (memory : Memory) (dst : Ipv4Address) (sval : BitVec 32) (i : Nat) (entry : QueueEntry) :
    Option ForwardingStatus :=
  if sval = 2 then
    if entry.header.destination = dst ∧
        (entry.status = memory i .notForwarded ∨ entry.status = memory i .inactiveForwarded) then
      some .activeForwarded
    else none
  else if sval = 1 then
    if entry.header.destination = dst ∧ entry.status = memory i .notForwarded then
      some .inactiveForwarded else none
  else none

/-- The loop of `Dequeue`: the entry that is handed out stays where it is. -/
def dequeueFrom (memory : Memory) (dst : Ipv4Address) (sval : BitVec 32) :
    Nat → List QueueEntry → Option (QueueEntry × List QueueEntry)
  | _, [] => none
  | i, entry :: rest =>
      match hands memory dst sval i entry with
      | some status =>
          let handed := { entry with status := memory i status }
          some (handed, handed :: rest)
      | none => (dequeueFrom memory dst sval (i + 1) rest).map fun (handed, rest) =>
          (handed, entry :: rest)

def dequeue (queue : BsdvrQueue) (memory : Memory) (dst : Ipv4Address) (sval : BitVec 32) :
    Option (QueueEntry × BsdvrQueue) :=
  (dequeueFrom memory dst sval 0 queue.queue).map fun (handed, entries) =>
    (handed, { queue with queue := entries })

def dropPacketWithDst (queue : BsdvrQueue) (dst : Ipv4Address) : BsdvrQueue :=
  { queue with queue := queue.queue.filter fun entry => entry.header.destination ≠ dst }

def find (queue : BsdvrQueue) (dst : Ipv4Address) : Bool :=
  queue.queue.any fun entry => entry.header.destination = dst

def setMaxQueueLen (queue : BsdvrQueue) (len : BitVec 32) : BsdvrQueue :=
  { queue with maxLen := len }

/-! ## What each operation does to the entries -/

variable {memory : Memory} {entries : List QueueEntry} {queue : BsdvrQueue}

private theorem oldest_lt {n : Nat} {i : Nat} {found : Oldest} (bound : i + entries.length = n)
    (start : ∀ j, found.onf = some j ∨ found.oif = some j ∨ found.oaf = some j → j < i) :
    ∀ j, (oldest memory i entries found).onf = some j ∨
    (oldest memory i entries found).oif = some j ∨
      (oldest memory i entries found).oaf = some j → j < n := by
  induction entries generalizing i found with
  | nil =>
      intro j chosen
      have low := start j chosen
      rw [List.length_nil] at bound
      omega
  | cons entry rest ih =>
      rw [List.length_cons] at bound
      refine ih (by omega) fun j chosen => ?_
      have old (before : found.onf = some j ∨ found.oif = some j ∨ found.oaf = some j) :
          j < i + 1 := by
        have low := start j before
        omega
      split at chosen
      · rcases chosen with new | oif | oaf
        · have same := Option.some.inj new
          omega
        · exact old (.inr (.inl oif))
        · exact old (.inr (.inr oaf))
      · split at chosen
        · rcases chosen with onf | new | oaf
          · exact old (.inl onf)
          · have same := Option.some.inj new
            omega
          · exact old (.inr (.inr oaf))
        · split at chosen
          · rcases chosen with onf | oif | new
            · exact old (.inl onf)
            · exact old (.inr (.inl oif))
            · have same := Option.some.inj new
              omega
          · exact old chosen

theorem dropPolicy_eq_some {kept : List QueueEntry}
    (dropped : dropPolicy memory entries = some kept) :
    ∃ i < entries.length, kept = entries.eraseIdx i := by
  obtain ⟨i, chosen, rfl⟩ := Option.map_eq_some_iff.mp dropped
  refine ⟨i, ?_, rfl⟩
  have bound := @oldest_lt memory entries entries.length 0 ⟨none, none,
    none⟩ (Nat.zero_add _) (by simp) i
  rcases Option.or_eq_some_iff.mp chosen with oaf | ⟨_, other⟩
  · exact bound (.inr (.inr oaf))
  · rcases Option.or_eq_some_iff.mp other with oif | ⟨_, onf⟩
    · exact bound (.inr (.inl oif))
    · exact bound (.inl onf)

theorem dropPolicyInto_eq (memory : Memory) (entries : List QueueEntry) (en : Option QueueEntry) :
    dropPolicyInto memory entries en = (dropPolicy memory entries, en) := by
  unfold dropPolicyInto dropPolicy
  cases oaf : (oldest memory 0 entries ⟨none, none, none⟩).oaf with
  | some i => simp [oaf]
  | none =>
      cases oif : (oldest memory 0 entries ⟨none, none, none⟩).oif with
      | some i => simp [oaf, oif]
      | none =>
          cases onf : (oldest memory 0 entries ⟨none, none, none⟩).onf <;> simp [oaf, oif, onf]

theorem enqueue_cases (queue : BsdvrQueue) (memory : Memory) (entry : QueueEntry) :
    queue.enqueue memory entry = (false, queue) ∨
    (entry.key ∉ queue.queue.map QueueEntry.key ∧ ∃ kept, queue.enqueue memory entry =
        (true, { queue with queue := kept ++ [entry] }) ∧ kept.Sublist queue.queue ∧
      ((queue.queue.length = queue.maxLen.toNat ∧ ∃ i < queue.queue.length, kept =
        queue.queue.eraseIdx i) ∨
        (queue.queue.length ≠ queue.maxLen.toNat ∧ kept = queue.queue))) := by
  unfold enqueue
  split
  · exact .inl rfl
  · rename_i absent
    have new : entry.key ∉ queue.queue.map QueueEntry.key := by
      intro member
      obtain ⟨other, there, same⟩ := List.mem_map.mp member
      exact absent (List.any_eq_true.mpr ⟨other, there, by simpa using same⟩)
    split
    · rename_i full
      split
      · rename_i kept dropped
        obtain ⟨i, bound, rfl⟩ := dropPolicy_eq_some dropped
        exact .inr ⟨new, _, rfl, List.eraseIdx_sublist _ _, .inl ⟨full, i, bound, rfl⟩⟩
      · exact .inl rfl
    · rename_i free
      exact .inr ⟨new, _, rfl, List.Sublist.refl _, .inr ⟨free, rfl⟩⟩

theorem dequeueFrom_eq_some {dst : Ipv4Address} {sval : BitVec 32} {i : Nat} {handed : QueueEntry}
    {after : List QueueEntry}
    (taken : dequeueFrom memory dst sval i entries = some (handed, after)) :
    ∃ before entry rest status, entries = before ++ entry :: rest ∧
    after = before ++ handed :: rest ∧
      hands memory dst sval (i + before.length) entry = some status ∧
      handed = { entry with status := memory (i + before.length) status } := by
  induction entries generalizing i after with
  | nil => cases taken
  | cons entry rest ih =>
      unfold dequeueFrom at taken
      split at taken
      · rename_i status passed
        simp only [Option.some.injEq, Prod.mk.injEq] at taken
        obtain ⟨rfl, rfl⟩ := taken
        exact ⟨[], entry, rest, status, rfl, rfl, passed, rfl⟩
      · obtain ⟨⟨out, others⟩, later, same⟩ := Option.map_eq_some_iff.mp taken
        simp only [Prod.mk.injEq] at same
        obtain ⟨rfl, rfl⟩ := same
        obtain ⟨before, chosen, remaining, status, rfl, rfl, passed, rfl⟩ := ih later
        refine ⟨entry :: before, chosen, remaining, status, rfl, rfl, ?_, ?_⟩
        · rwa [List.length_cons, ← Nat.add_assoc, Nat.add_right_comm]
        · rw [List.length_cons, ← Nat.add_assoc, Nat.add_right_comm]

theorem dequeue_eq_some {dst : Ipv4Address} {sval : BitVec 32} {handed : QueueEntry}
    {after : BsdvrQueue} (taken : queue.dequeue memory dst sval = some (handed, after)) :
    ∃ before entry rest status, queue.queue = before ++ entry :: rest ∧
      after = { queue with queue := before ++ handed :: rest } ∧
      hands memory dst sval before.length entry = some status ∧
      handed = { entry with status := memory before.length status } := by
  obtain ⟨⟨out, others⟩, found, same⟩ := Option.map_eq_some_iff.mp taken
  simp only [Prod.mk.injEq] at same
  obtain ⟨rfl, rfl⟩ := same
  obtain ⟨before, entry, rest, status, split, rfl, passed, rfl⟩ := dequeueFrom_eq_some found
  rw [Nat.zero_add] at passed
  refine ⟨before, entry, rest, status, split, rfl, passed, ?_⟩
  rw [Nat.zero_add]

end BsdvrQueue

end Bsdvr
