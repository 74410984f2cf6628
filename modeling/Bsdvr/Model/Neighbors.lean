import Bsdvr.Model.Tables

namespace Bsdvr

structure HelloHeader where
  origin : Ipv4Address
  dst : Ipv4Address
  deriving DecidableEq, Repr

structure UpdateHeader where
  origin : Ipv4Address
  dst : Ipv4Address
  hopCount : BitVec 32
  binaryState : BitVec 32
  deriving DecidableEq, Repr

inductive Message
  | hello (header : HelloHeader)
  | update (header : UpdateHeader)
  deriving DecidableEq, Repr

structure Neighbor where
  neighborAddress : Ipv4Address
  hardwareAddress : Mac48Address
  expireTime : Time
  close : Bool
  deriving DecidableEq, Repr

/-- `CloseNeighbor`: the entry has expired or a transmission error closed it. -/
def Neighbor.closed (now : Time) (neighbor : Neighbor) : Bool :=
  neighbor.expireTime < now || neighbor.close

abbrev Neighbors := List Neighbor

namespace Neighbors

def addresses (nb : Neighbors) : List Ipv4Address := nb.map Neighbor.neighborAddress

/-- The loop of `Neighbors::Update`: extend the first entry with this address.
`hardware` is what `LookupMacAddress` finds for it in the ARP caches. -/
def extend (now : Time) (addr : Ipv4Address) (expire : Time)
    (hardware : Mac48Address) : Neighbors → Neighbors
  | [] => []
  | neighbor :: rest =>
      if neighbor.neighborAddress = addr then
        { neighbor with
          expireTime := max (expire + now) neighbor.expireTime
          hardwareAddress := if neighbor.hardwareAddress = 0 then hardware
            else neighbor.hardwareAddress } :: rest
      else neighbor :: extend now addr expire hardware rest

/-- The loop of `Neighbors::ProcessTxError`. -/
def closeMatching (addr : Mac48Address) (nb : Neighbors) : Neighbors :=
  nb.map fun neighbor =>
    if neighbor.hardwareAddress = addr then { neighbor with close := true } else neighbor

@[simp] theorem addresses_nil : addresses [] = [] := rfl
@[simp] theorem addresses_singleton (neighbor : Neighbor) :
    addresses [neighbor] = [neighbor.neighborAddress] := rfl

@[simp] theorem addresses_append (first second : Neighbors) :
    addresses (first ++ second) = addresses first ++ addresses second := by
  simp [addresses]

@[simp] theorem addresses_extend (now : Time) (addr : Ipv4Address) (expire : Time)
    (hardware : Mac48Address) (nb : Neighbors) :
    (extend now addr expire hardware nb).addresses = nb.addresses := by
  induction nb with
  | nil => rfl
  | cons neighbor rest ih =>
      by_cases same : neighbor.neighborAddress = addr <;> simp_all [extend, addresses]

@[simp] theorem addresses_closeMatching (addr : Mac48Address) (nb : Neighbors) :
    (closeMatching addr nb).addresses = nb.addresses := by
  simp only [closeMatching, addresses, List.map_map]
  apply List.map_congr_left
  intro neighbor _
  by_cases same : neighbor.hardwareAddress = addr <;> simp [same]

end Neighbors

structure PendingReplyEntry where
  neighbor : Ipv4Address
  destination : Ipv4Address
  /-- The simulated time at which the reply falls due. -/
  time : Time
  deriving DecidableEq, Repr

/-- `IsExpired`: less than no pending time is left. -/
def PendingReplyEntry.expired (now : Time) (entry : PendingReplyEntry) : Bool := entry.time < now

structure BsdvrPendingReplyQueue where
  queue : List PendingReplyEntry
  maxLen : BitVec 32
  timeout : Time
  deriving DecidableEq, Repr

namespace BsdvrPendingReplyQueue

/-- The entries `Purge` reports to the timeout callback, and the queue it leaves. -/
def purge (prqueue : BsdvrPendingReplyQueue) (now : Time) :
    List PendingReplyEntry × BsdvrPendingReplyQueue :=
  (prqueue.queue.filter (·.expired now),
    { prqueue with queue := prqueue.queue.filter fun entry => !entry.expired now })

/-- `Enqueue` after its `Purge`. -/
def push (prqueue : BsdvrPendingReplyQueue) (now : Time)
    (entry : PendingReplyEntry) : BsdvrPendingReplyQueue :=
  if prqueue.queue.any (fun other => other.neighbor = entry.neighbor ∧
    other.destination = entry.destination) then
    prqueue
  else
    let kept := if prqueue.queue.length = prqueue.maxLen.toNat then prqueue.queue.tail
      else prqueue.queue
    { prqueue with queue := kept ++ [{ entry with time := prqueue.timeout + now }] }

theorem mem_purge {prqueue : BsdvrPendingReplyQueue} {now : Time} {entry : PendingReplyEntry}
    (member : entry ∈ (prqueue.purge now).1) : entry ∈ prqueue.queue :=
  List.mem_of_mem_filter member

theorem mem_purge_queue {prqueue : BsdvrPendingReplyQueue} {now : Time} {entry : PendingReplyEntry}
    (member : entry ∈ (prqueue.purge now).2.queue) : entry ∈ prqueue.queue :=
  List.mem_of_mem_filter member

theorem mem_push {prqueue : BsdvrPendingReplyQueue} {now : Time} {added entry : PendingReplyEntry}
    (member : entry ∈ (prqueue.push now added).queue) :
    entry ∈ prqueue.queue ∨ (entry.neighbor = added.neighbor ∧
      entry.destination = added.destination) := by
  unfold push at member
  split at member
  · exact .inl member
  · rcases List.mem_append.mp member with kept | new
    · split at kept
      · exact .inl (List.mem_of_mem_tail kept)
      · exact .inl kept
    · rw [List.mem_singleton] at new
      exact .inr (by simp [new])

end BsdvrPendingReplyQueue

end Bsdvr
