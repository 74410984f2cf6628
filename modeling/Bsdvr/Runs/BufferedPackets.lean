import Bsdvr.Queues.Flush
import Bsdvr.Queues.Packets
import Bsdvr.Runs.Outlets
import Bsdvr.Runs.Sockets

namespace Bsdvr
open Foundation

/-- A data plane, the tags with which packets were deferred, and the packets that were forwarded
since then. -/
structure Buffering where
  plane : DataPlane
  tags : Nat × Ipv4Address → Option Int
  forwarded : List (Nat × Ipv4Address)

namespace Buffering

def next (state : Buffering) : DataEvent → Option Buffering
  | .control event memory fuel =>
      (state.plane.control event memory fuel).map fun (sent, plane) =>
        { state with plane, forwarded := state.forwarded ++ sent.map Forwarded.key }
  | .routeOutput p header oif => some { state with plane := state.plane.routeOutput p header oif }
  | .routeInput index header memory =>
      state.plane.looped[index]?.bind fun (p, dst) =>
        if header.destination = dst then
          let (queued, plane) := state.plane.routeInput p index header memory
          let key := (p.uid, header.destination)
          if queued then some ⟨plane, Function.update state.tags key p.tag,
            state.forwarded.filter (· ≠ key)⟩
          else some { state with plane }
        else none

/-- No packet that was not forwarded has a route it could take. -/
def Flushed (state : Buffering) : Prop :=
  ∀ entry ∈ state.plane.queue.queue, entry.key ∉ state.forwarded →
    ∀ route, state.plane.node.ft[entry.header.destination]? = some route →
      mismatches (state.tags entry.key) route.route.outputDevice = true

/-- A packet that was not forwarded may have a route it could take once a message is handled. -/
def Hopes (state : Buffering) (message : Node.Event) (entry : QueueEntry) : Prop :=
  entry.key ∉ state.forwarded ∧ ∃ outlet ∈ state.plane.node.outlets message,
    outlet.1 = entry.header.destination ∧ mismatches (state.tags entry.key) outlet.2 = false

instance (state : Buffering) (message : Node.Event) (entry : QueueEntry) :
    Decidable (state.Hopes message entry) :=
  inferInstanceAs (Decidable (_ ∧ ∃ outlet ∈ state.plane.node.outlets message, _))

/-- Before a HELLO no packet hopes for a route. Before an UPDATE each one that does tests as not
forwarded, and no packet for its destination that is bound to another interface stands before it. -/
def Clear (state : Buffering) : DataEvent → Prop
  | .control (.recv socket sender (.hello header) hardware) _ _ =>
      ∀ entry ∈ state.plane.queue.queue,
        ¬state.Hopes (.recv socket sender (.hello header) hardware) entry
  | .control (.recv socket sender (.update header) hardware) memory fuel =>
      (∀ entry ∈ state.plane.queue.queue, state.Hopes
        (.recv socket sender (.update header) hardware) entry →
        ∀ n < fuel, ∀ i < state.plane.queue.queue.length,
          memory entry.header.destination n i .notForwarded = entry.status) ∧
      state.plane.queue.queue.Pairwise fun earlier later =>
        state.Hopes (.recv socket sender (.update header) hardware) later →
        earlier.header.destination = later.header.destination →
          earlier.packet.tag = none ∨ earlier.packet.tag = some (-1) ∨
            earlier.packet.tag = state.tags later.key
  | _ => True

instance (state : Buffering) (event : DataEvent) : Decidable (state.Clear event) :=
  match event with
  | .control (.recv _ _ (.hello _) _) _ _ =>
      inferInstanceAs (Decidable (∀ entry ∈ state.plane.queue.queue, ¬_))
  | .control (.recv _ _ (.update _) _) _ fuel =>
      inferInstanceAs (Decidable ((∀ entry ∈ state.plane.queue.queue, _ →
      ∀ n < fuel, ∀ i < state.plane.queue.queue.length, _) ∧
      state.plane.queue.queue.Pairwise fun _ _ => _ → _ → _ ∨ _ ∨ _))
  | .control .purge _ _ | .control (.txError _) _ _ | .control (.interfaceUp _) _ _ | .control
      (.interfaceDown _) _ _
  | .control (.elapse _) _ _ | .routeOutput _ _ _ | .routeInput _ _ _ => instDecidableTrue

variable {state after : Buffering} {event : DataEvent}

theorem next_control {event : Node.Event} {memory : Ipv4Address → Nat → Memory} {fuel : Nat}
    (taken : state.next (.control event memory fuel) = some after) :
    ∃ sent queue, state.plane.node.Enabled event ∧
      state.plane.flushAfter event memory fuel = some (sent, queue) ∧
      after = { state with
        plane := { state.plane with node := (state.plane.node.handle event).1, queue }
        forwarded := state.forwarded ++ sent.map Forwarded.key } := by
  obtain ⟨⟨sent, plane⟩, moved, rfl⟩ := Option.map_eq_some_iff.mp taken
  obtain ⟨node, reached, rest⟩ := Option.bind_eq_some_iff.mp moved
  obtain ⟨possible, rfl⟩ := Node.next_eq_some reached
  obtain ⟨⟨forwarded, queue⟩, flushed, same⟩ := Option.map_eq_some_iff.mp rest
  obtain ⟨rfl, rfl⟩ := Prod.mk.inj same
  exact ⟨forwarded, queue, possible, flushed, rfl⟩

theorem flushAfter_spares {plane : DataPlane} {event : Node.Event}
    {memory : Ipv4Address → Nat → Memory} {fuel : Nat} {sent : List Forwarded} {queue : BsdvrQueue}
    (flushed : plane.flushAfter event memory fuel = some (sent, queue)) :
    plane.queue.Spares queue fun _ => True := by
  unfold DataPlane.flushAfter at flushed
  split at flushed
  · split at flushed
    · exact (BsdvrQueue.flush_spares flushed).mono fun _ _ => trivial
    · obtain ⟨_, rfl⟩ := Prod.mk.inj (Option.some.inj flushed)
      exact .refl _ _
  · obtain ⟨_, rfl⟩ := Prod.mk.inj (Option.some.inj flushed)
    exact .refl _ _

theorem routeOutput_frame (plane : DataPlane) (p : DataPacket) (header : Ipv4Header)
    (oif : Option NetDevice) :
    ∃ looped, plane.routeOutput p header oif = { plane with looped := looped } := by
  unfold DataPlane.routeOutput
  split
  · exact ⟨_, rfl⟩
  · exact ⟨plane.looped, rfl⟩
  · exact ⟨plane.looped, rfl⟩

theorem next_routeInput {index : Nat} {header : Ipv4Header} {memory : Memory}
    (taken : state.next (.routeInput index header memory) = some after) : ∃ looped,
      after = { state with plane := { state.plane with looped := looped } } ∨
      ∃ kept entry, kept.Sublist state.plane.queue.queue ∧
        entry.key ∉ state.plane.queue.queue.map QueueEntry.key ∧
        after =
          { plane := { state.plane with queue :=
            { state.plane.queue with queue := kept ++ [entry] }, looped }
            tags := Function.update state.tags entry.key entry.packet.tag
            forwarded := state.forwarded.filter (· ≠ entry.key) } := by
  obtain ⟨⟨p, dst⟩, _, arrived⟩ := Option.bind_eq_some_iff.mp taken
  simp only at arrived
  split at arrived
  · refine ⟨state.plane.looped.eraseIdx index, ?_⟩
    unfold DataPlane.routeInput at arrived
    simp only at arrived
    by_cases down : state.plane.node.socketAddresses.isEmpty = true
    · rw [if_pos down] at arrived
      exact .inl (Option.some.inj arrived).symm
    · rw [if_neg down] at arrived
      set entry : QueueEntry := ⟨p, memory state.plane.queue.queue.length .notForwarded, header⟩
      have deferred : state.plane.queue.deferredRouteOutput memory p header =
          state.plane.queue.enqueue memory entry := rfl
      rw [deferred] at arrived
      rcases state.plane.queue.enqueue_cases memory entry
        with refused | ⟨new, kept, accepted, fewer, _⟩
      · rw [refused] at arrived
        exact .inl (Option.some.inj arrived).symm
      · rw [accepted] at arrived
        exact .inr ⟨kept, entry, fewer, new, (Option.some.inj arrived).symm⟩
  · cases arrived

/-! ## Tags -/

def Tagged (state : Buffering) : Prop :=
  ∀ entry ∈ state.plane.queue.queue, entry.packet.tag = state.tags entry.key ∨
    entry.packet.tag = none

theorem Tagged.next (tagged : state.Tagged)
    (taken : state.next event = some after) : after.Tagged := by
  cases event with
  | control event memory fuel =>
      obtain ⟨sent, queue, _, flushed, rfl⟩ := next_control taken
      intro entry member
      obtain ⟨old, among, same, tag⟩ := (flushAfter_spares flushed).entries entry member
      simp only [same]
      rcases tag with kept | gone
      · rw [kept]
        exact tagged old among
      · exact .inr gone
  | routeOutput p header oif =>
      obtain ⟨looped, frame⟩ := routeOutput_frame state.plane p header oif
      simp only [Buffering.next, frame, Option.some.injEq] at taken
      subst taken
      exact tagged
  | routeInput index header memory =>
      obtain ⟨looped, rfl | ⟨kept, entry, fewer, new, rfl⟩⟩ := next_routeInput taken
      · exact tagged
      · intro other member
        rcases List.mem_append.mp member with old | last
        · have apart : other.key ≠ entry.key := by
            intro same
            exact new (same ▸ List.mem_map_of_mem (fewer.subset old))
          simp only [Function.update_of_ne apart]
          exact tagged other (fewer.subset old)
        · obtain rfl := List.mem_singleton.mp last
          exact .inl (by simp only [Function.update_self])

theorem next_node (taken : state.next event = some after) :
    after.plane.node = state.plane.node ∨ ∃ event, after.plane.node =
      (state.plane.node.handle event).1 := by
  cases event with
  | control event memory fuel =>
      obtain ⟨_, _, _, _, rfl⟩ := next_control taken
      exact .inr ⟨event, rfl⟩
  | routeOutput p header oif =>
      obtain ⟨looped, frame⟩ := routeOutput_frame state.plane p header oif
      simp only [next, frame, Option.some.injEq] at taken
      subst taken
      exact .inl rfl
  | routeInput index header memory =>
      obtain ⟨looped, rfl | ⟨_, _, _, _, rfl⟩⟩ := next_routeInput taken
      · exact .inl rfl
      · exact .inl rfl

theorem mismatches_eq_false {tag other : Option Int} {device : Option NetDevice}
    (alike : tag = none ∨ tag = some (-1) ∨ tag = other)
    (compatible : mismatches other device = false) :
    mismatches tag device = false := by
  rcases alike with rfl | rfl | rfl
  · rfl
  · simp [mismatches]
  · exact compatible

theorem Flushed.of_clear {socket : Socket} {sender : Ipv4Address} {message : Message}
    {hardware : Mac48Address} {memory : Ipv4Address → Nat → Memory} {fuel : Nat}
    {names : Nat → Ipv4Address} (named : state.plane.node.Named)
    (belongs : state.plane.node.Belongs names) (tagged : state.Tagged)
    (clear : state.Clear (.control (.recv socket sender message hardware) memory fuel))
    (taken : state.next (.control (.recv socket sender message hardware) memory fuel) =
      some after) : after.Flushed := by
  obtain ⟨sent, queue, possible, flushed, rfl⟩ := next_control taken
  intro entry member missing route present
  by_contra allowed
  have compatible : mismatches (state.tags entry.key) route.route.outputDevice = false := by
    simpa using allowed
  obtain ⟨old, among, same, _⟩ := (flushAfter_spares flushed).entries entry member
  rw [same] at compatible
  have destination : entry.header.destination = old.header.destination := congrArg Prod.snd same
  rw [destination] at present
  rw [same] at missing
  have waits : old.key ∉ state.forwarded := fun before => missing (List.mem_append_left _ before)
  have hopes : state.Hopes (.recv socket sender message hardware) old :=
    ⟨waits, _, Node.recv_outlets named belongs present, rfl, compatible⟩
  cases message with
  | hello header => exact clear old among hopes
  | update header =>
      obtain ⟨fresh, alike⟩ := clear
      simp only [DataPlane.flushAfter, if_pos possible.2] at flushed
      have here : old ∈ state.plane.queue.toward old.header.destination :=
        List.mem_filter.mpr ⟨among, by simp⟩
      obtain ⟨before, rest, split⟩ := List.append_of_mem here
      have passed := BsdvrQueue.flush_reaches (nodup_keys _)
        (Std.TreeMap.mem_toList_iff_getElem?_eq_some.mpr present) split
        (fresh old among hopes) ?_ ?_ flushed
      · exact missing (List.mem_append_right _ passed)
      · intro other early
        have toward : other ∈ state.plane.queue.toward old.header.destination := by
          rw [split]
          exact List.mem_append_left _ early
        have ordered : (state.plane.queue.toward old.header.destination).Pairwise _ :=
          alike.sublist List.filter_sublist
        rw [split, List.pairwise_append] at ordered
        refine mismatches_eq_false (ordered.2.2 other early old List.mem_cons_self hopes ?_)
          compatible
        exact of_decide_eq_true (List.mem_filter.mp toward).2
      · rcases tagged old among with kept | gone
        · rwa [kept]
        · rw [gone]
          rfl

end Buffering

/-! ## Runs -/

def DataEvent.isMessage : DataEvent → Bool
  | .control (.recv _ _ _ _) _ _ => true
  | _ => false

structure Delivering where
  state : Buffering
  finished : List Buffering

namespace Delivering

def next (run : Delivering) (event : DataEvent) : Option Delivering :=
  (run.state.next event).map fun after =>
    ⟨after, if event.isMessage then run.finished ++ [after] else run.finished⟩

def start (node : Node) (maxLen : BitVec 32) : Delivering :=
  ⟨⟨⟨node, ⟨[], maxLen⟩, []⟩, fun _ => none, []⟩, []⟩

section Run
variable {interfaces : List Ipv4InterfaceAddress} {enableHello : Bool} {helloInterval : Time}
  {maxPRQueueLen : BitVec 32} {maxPRQueueTime : Time} {maxLen : BitVec 32} {run : Delivering}

structure Settled (run : Delivering) : Prop where
  named : run.state.plane.node.Named
  belongs : ∃ names, run.state.plane.node.Belongs names
  tagged : run.state.Tagged
  finished : ∀ state ∈ run.finished, state.Flushed

theorem Settled.next {after : Delivering} {event : DataEvent} (settled : run.Settled)
    (clear : run.state.Clear event) (taken : run.next event = some after) : after.Settled := by
  obtain ⟨names, belongs⟩ := settled.belongs
  obtain ⟨state, moved, rfl⟩ := Option.map_eq_some_iff.mp taken
  refine ⟨?_, ?_, settled.tagged.next moved, fun other member => ?_⟩
  · rcases Buffering.next_node moved with same | ⟨handled, same⟩
    · rw [same]
      exact settled.named
    · rw [same]
      exact settled.named.handle handled
  · rcases Buffering.next_node moved with same | ⟨handled, same⟩
    · rw [same]
      exact settled.belongs
    · rw [same]
      exact belongs.handle settled.named handled
  · simp only at member
    split at member
    · rename_i message
      rcases List.mem_append.mp member with old | new
      · exact settled.finished other old
      · obtain rfl := List.mem_singleton.mp new
        unfold DataEvent.isMessage at message
        split at message
        · exact Buffering.Flushed.of_clear settled.named belongs settled.tagged clear moved
        · cases message
    · exact settled.finished other member

/-- In a run whose messages start clear, none ends with a packet that was not forwarded and has a
route it could take. -/
theorem flushed_of_clear
    (reach : Reach next (fun run event => run.state.Clear event)
      (start (.initial interfaces enableHello helloInterval maxPRQueueLen maxPRQueueTime) maxLen)
        run) :
    ∀ state ∈ run.finished, state.Flushed := by
  have settled : run.Settled := by
    refine reach.invariant (P := Settled)
      ⟨Node.initial_named _ _ _ _ _, ⟨_, Node.initial_belongs _ _ _ _ _⟩, ?_, ?_⟩ ?_
    · intro entry member
      cases member
    · intro state member
      cases member
    · intro before event after settled clear taken
      exact settled.next clear taken
  exact settled.finished

end Run

/-- A packet without an output interface is sent to `dst`, which the node has no route to, and is
deferred. -/
def deferral (uid : Nat) (dst : Ipv4Address) (memory : Memory) : List DataEvent :=
  let header : Ipv4Header := ⟨0x0a010201#32, dst, 64⟩
  [.routeOutput ⟨uid, none⟩ header none, .routeInput 0 header memory]

def quiet (event : Node.Event) : DataEvent := .control event (fun _ _ => Serving.kept) 2

theorem flushed_of_clear_twoInterfaces : ∃ run,
    Reach next (fun run event => run.state.Clear event) (start Node.twoInterfaces 64) run ∧
    run.state.forwarded = [(1, 0x0a010202#32)] ∧ run.finished.length = 2 ∧
    ∀ state ∈ run.finished, state.Flushed := by
  -- the route to 10.1.2.2 is lost as its interface goes down, and comes back with an UPDATE on the
  -- other one
  obtain ⟨run, reach, checked⟩ :=
    exists_reach_of_follow next (fun run event => run.state.Clear event)
    (start Node.twoInterfaces 64)
    ([quiet (.interfaceUp 1), quiet (.interfaceUp 2), quiet (Node.hello1 0x0a010202#32),
      quiet (.interfaceDown 1)] ++
      deferral 1 0x0a010202#32 Serving.kept ++
      [quiet (.recv ⟨5, 2, 0x0a010301#32⟩ 0x0a010302#32 (.update ⟨0x0a010302#32, 0x0a010309#32, 1, 1⟩) 0)])
    (fun run => run.state.forwarded = [(1, 0x0a010202#32)] ∧ run.finished.length = 2)
    (by decide +kernel)
  obtain ⟨forwarded, finished⟩ := of_decide_eq_true checked
  exact ⟨run, reach, forwarded, finished, flushed_of_clear reach⟩

theorem not_flushed_twoInterfaces :
    ∃ run, Reach next (fun _ _ => True) (start Node.twoInterfaces 64) run ∧
    ¬∀ state ∈ run.finished, state.Flushed := by
  -- a packet waits for 10.1.2.2, whose HELLO gives it a route, and waits on
  obtain ⟨run, reach, checked⟩ :=
    exists_reach_of_follow next (fun _ _ => True) (start Node.twoInterfaces 64)
    ([quiet (.interfaceUp 1)] ++ deferral 1 0x0a010202#32 Serving.kept ++
      [quiet (Node.hello1 0x0a010202#32)])
    (fun run => run.finished.any fun state => state.plane.queue.queue.any fun entry =>
      decide (entry.key ∉ state.forwarded) && state.plane.node.ft[entry.header.destination]?.any
        fun route =>
        !mismatches (state.tags entry.key) route.route.outputDevice) (by decide +kernel)
  simp only [List.any_eq_true, Bool.and_eq_true, decide_eq_true_eq, Option.any_eq_true,
    Bool.not_eq_true'] at checked
  obtain ⟨state, finished, entry, queued, missing, route, present, allowed⟩ := checked
  refine ⟨run, reach, fun flushed => ?_⟩
  rw [flushed state finished entry queued missing route present] at allowed
  cases allowed

end Delivering

end Bsdvr
