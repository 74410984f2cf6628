import Bsdvr.Queues.Flush
import Bsdvr.Runs.BufferedPackets

namespace Bsdvr
open Foundation

namespace BsdvrQueue
variable {queue middle after : BsdvrQueue} {dst : Ipv4Address} {entry : QueueEntry}
  {device : Option NetDevice}

/-! ## What becomes of an entry -/

theorem key_eq {first second : QueueEntry} (header : first.header = second.header)
    (uid : first.packet.uid = second.packet.uid) : first.key = second.key := by
  rw [QueueEntry.key, QueueEntry.key, header, uid]

def Descends (queue after : BsdvrQueue) : Prop :=
  ∀ entry ∈ after.queue, ∃ old ∈ queue.queue, entry.header = old.header ∧
    entry.packet.uid = old.packet.uid

theorem Descends.refl (queue : BsdvrQueue) : queue.Descends queue :=
  fun entry member => ⟨entry, member, rfl, rfl⟩

theorem Descends.trans (first : queue.Descends middle) (second : middle.Descends after) :
    queue.Descends after := by
  intro entry member
  obtain ⟨between, there, header, uid⟩ := second entry member
  obtain ⟨old, among, header', uid'⟩ := first between there
  exact ⟨old, among, header.trans header', uid.trans uid'⟩

theorem removePacketTag_descends (queue : BsdvrQueue) (key : Nat × Ipv4Address) :
    queue.Descends (queue.removePacketTag key) := by
  intro entry member
  obtain ⟨old, among, rfl⟩ := List.mem_map.mp member
  refine ⟨old, among, ?_⟩
  split
  · exact ⟨rfl, rfl⟩
  · exact ⟨rfl, rfl⟩

def sends (route : Ipv4Route) (entry : QueueEntry) : Forwarded :=
  ⟨route, entry.removePacketTag.packet, { entry.header with source := route.source, ttl := entry.header.ttl + 1 }⟩

theorem dequeue_entries {memory : Memory} {sval : BitVec 32} {handed : QueueEntry}
    (taken : queue.dequeue memory dst sval = some (handed, after)) :
    handed.header.destination = dst ∧ (∃ old ∈ queue.queue, handed.header = old.header ∧
      handed.packet = old.packet) ∧
      ∀ entry ∈ after.queue, ∃ old ∈ queue.queue, entry.header = old.header ∧
      entry.packet = old.packet := by
  obtain ⟨before, entry, rest, status, split, rfl, passed, rfl⟩ := dequeue_eq_some taken
  have here : entry ∈ queue.queue := by simp [split]
  refine ⟨(hands_destination passed : entry.header.destination = dst), ⟨entry, here, rfl, rfl⟩,
    fun other member => ?_⟩
  rcases List.mem_append.mp member with early | late
  · exact ⟨other, by simp [split, early], rfl, rfl⟩
  · rcases List.mem_cons.mp late with rfl | later
    · exact ⟨entry, here, rfl, rfl⟩
    · exact ⟨other, by simp [split, later], rfl, rfl⟩

theorem sendPacketFromQueue_descends {route : Ipv4Route} {state : RouteState}
    {memory : Nat → Memory} {fuel : Nat} {forwarded : List Forwarded}
    (sent : queue.sendPacketFromQueue dst route state memory fuel = some (forwarded, after)) :
    queue.Descends after := by
  induction fuel generalizing queue forwarded with
  | zero => cases sent
  | succ fuel ih =>
      unfold sendPacketFromQueue at sent
      split at sent
      · obtain ⟨_, rfl⟩ := Prod.mk.inj (Option.some.inj sent)
        exact .refl queue
      · rename_i handed middle taken
        have descends : queue.Descends (middle.removePacketTag handed.key) := by
          refine Descends.trans (fun entry member => ?_)
            (removePacketTag_descends middle handed.key)
          obtain ⟨old, among, header, same⟩ := (dequeue_entries taken).2.2 entry member
          exact ⟨old, among, header, congrArg DataPacket.uid same⟩
        simp only at sent
        split at sent
        · obtain ⟨_, rfl⟩ := Prod.mk.inj (Option.some.inj sent)
          exact descends
        · obtain ⟨⟨later, last⟩, looped, paired⟩ := Option.map_eq_some_iff.mp sent
          obtain ⟨_, rfl⟩ := Prod.mk.inj paired
          exact descends.trans (ih looped)

theorem flush_descends {memory : Ipv4Address → Nat → Memory} {fuel : Nat}
    {list : List (Ipv4Address × RoutingTableEntry)} {forwarded : List Forwarded}
    (flushed : queue.flush memory fuel list = some (forwarded, after)) :
    queue.Descends after := by
  induction list generalizing queue forwarded with
  | nil =>
      obtain ⟨_, rfl⟩ := Prod.mk.inj (Option.some.inj flushed)
      exact .refl queue
  | cons pair list ih =>
      simp only [flush, Option.bind_eq_bind, Option.bind_eq_some_iff, Option.some.injEq,
        Prod.mk.injEq, Prod.exists] at flushed
      obtain ⟨sent, middle, first, later, last, second, rfl, rfl⟩ := flushed
      refine Descends.trans ?_ (ih second)
      split at first
      · exact sendPacketFromQueue_descends first
      · obtain ⟨_, rfl⟩ := Prod.mk.inj (Option.some.inj first)
        exact .refl queue

/-- What the loop forwards is what waits for `dst`, which by its tag may leave by the device of the
route. -/
theorem sendPacketFromQueue_sends {route : Ipv4Route} {state : RouteState} {memory : Nat → Memory} {fuel : Nat}
    {forwarded : List Forwarded}
    (sent : queue.sendPacketFromQueue dst route state memory fuel = some (forwarded, after)) :
    ∀ packet ∈ forwarded, ∃ old ∈ queue.queue, old.header.destination = dst ∧ packet = sends route old ∧
      ∃ twin ∈ queue.queue, twin.key = old.key ∧ mismatches twin.packet.tag route.outputDevice = false := by
  induction fuel generalizing queue forwarded with
  | zero => cases sent
  | succ fuel ih =>
      unfold sendPacketFromQueue at sent
      split at sent
      · obtain ⟨rfl, _⟩ := Prod.mk.inj (Option.some.inj sent)
        intro packet member
        cases member
      · rename_i handed middle taken
        obtain ⟨here, ⟨old, among, header, same⟩, entries⟩ := dequeue_entries taken
        simp only at sent
        split at sent
        · obtain ⟨rfl, _⟩ := Prod.mk.inj (Option.some.inj sent)
          intro packet member
          cases member
        · rename_i compatible
          have passing : mismatches old.packet.tag route.outputDevice = false := by
            rw [← same]
            simpa using compatible
          have oldKey : old.key = handed.key := key_eq header.symm (by rw [same])
          obtain ⟨⟨later, last⟩, looped, paired⟩ := Option.map_eq_some_iff.mp sent
          obtain ⟨rfl, rfl⟩ := Prod.mk.inj paired
          have behind (entry : QueueEntry) (member : entry ∈ (middle.removePacketTag handed.key).queue) :
              ∃ old ∈ queue.queue, entry.header = old.header ∧ entry.packet.uid = old.packet.uid ∧
                (entry.packet.tag = old.packet.tag ∨ entry.key = handed.key) := by
            obtain ⟨between, there, rfl⟩ := List.mem_map.mp member
            obtain ⟨first, within, header, same⟩ := entries between there
            by_cases stripped : between.key = handed.key
            · rw [if_pos stripped]
              exact ⟨first, within, header, (congrArg DataPacket.uid same : between.packet.uid = _), .inr stripped⟩
            · rw [if_neg stripped]
              exact ⟨first, within, header, congrArg DataPacket.uid same, .inl (congrArg DataPacket.tag same)⟩
          intro packet member
          rcases List.mem_cons.mp member with rfl | remaining
          · refine ⟨old, among, header ▸ here, ?_, old, among, rfl, passing⟩
            rw [sends, ← header]
            simp only [QueueEntry.removePacketTag, same]
          · obtain ⟨middle', inside, toward, rfl, twin, beside, alike, passes⟩ := ih looped packet remaining
            obtain ⟨source, origin, header', uid', _⟩ := behind middle' inside
            have sourceKey : middle'.key = source.key := key_eq header' uid'
            refine ⟨source, origin, header' ▸ toward, ?_, ?_⟩
            · rw [sends, sends, ← header']
              simp only [QueueEntry.removePacketTag, uid']
            · -- a packet that lost its tag has the key of one that was just let pass
              obtain ⟨twin', beginning, header'', uid'', kept | key⟩ := behind twin beside
              · exact ⟨twin', beginning, (key_eq header'' uid'').symm.trans (alike.trans sourceKey), kept ▸ passes⟩
              · exact ⟨old, among, oldKey.trans (key.symm.trans (alike.trans sourceKey)), passing⟩

theorem flush_sends {memory : Ipv4Address → Nat → Memory} {fuel : Nat}
    {list : List (Ipv4Address × RoutingTableEntry)} {forwarded : List Forwarded}
    (distinct : (list.map Prod.fst).Nodup)
    (flushed : queue.flush memory fuel list = some (forwarded, after)) :
    ∀ packet ∈ forwarded, ∃ dst rt, (dst, rt) ∈ list ∧ ∃ old ∈ queue.toward dst, packet =
      sends rt.route old ∧
      ∃ twin ∈ queue.toward dst, twin.key = old.key ∧
      mismatches twin.packet.tag rt.route.outputDevice = false := by
  induction list generalizing queue forwarded with
  | nil =>
      obtain ⟨rfl, _⟩ := Prod.mk.inj (Option.some.inj flushed)
      intro packet member
      cases member
  | cons pair list ih =>
      obtain ⟨dst, rt⟩ := pair
      obtain ⟨absent, others⟩ := List.nodup_cons.mp distinct
      have unfolded := flushed
      simp only [flush, Option.bind_eq_bind, Option.bind_eq_some_iff, Option.some.injEq,
        Prod.mk.injEq, Prod.exists] at unfolded
      obtain ⟨sent, middle, first, later, last, second, rfl, rfl⟩ := unfolded
      have loop : (∀ packet ∈ sent, ∃ old ∈ queue.queue, old.header.destination = dst ∧
          packet = sends rt.route old ∧
          ∃ twin ∈ queue.queue, twin.key = old.key ∧
          mismatches twin.packet.tag rt.route.outputDevice = false) ∧
          queue.Spares middle fun other => other = dst := by
        split at first
        · exact ⟨sendPacketFromQueue_sends first, sendPacketFromQueue_spares first⟩
        · obtain ⟨rfl, rfl⟩ := Prod.mk.inj (Option.some.inj first)
          exact ⟨fun packet member => (by cases member), .refl _ _⟩
      obtain ⟨sends, spares⟩ := loop
      intro packet member
      rcases List.mem_append.mp member with now | then'
      · obtain ⟨old, among, here, same, twin, beside, alike, passes⟩ := sends packet now
        have there : twin.header.destination = dst := (congrArg Prod.snd alike).trans here
        exact ⟨dst, rt, List.mem_cons_self, old, List.mem_filter.mpr ⟨among, by simpa using here⟩,
          same, twin, List.mem_filter.mpr ⟨beside, by simpa using there⟩, alike, passes⟩
      · obtain ⟨other, route, listed, old, among, same, twin, beside, alike, passes⟩ :=
          ih others second packet then'
        have apart : other ≠ dst :=
          fun here => absent (List.mem_map.mpr ⟨(other, route), listed, here⟩)
        rw [spares.others other apart] at among beside
        exact ⟨other, route, List.mem_cons_of_mem _ listed, old, among, same, twin, beside,
          alike, passes⟩

end BsdvrQueue

namespace Buffering
variable {state after : Buffering} {event : DataEvent}

/-! ## Where packets come from -/

def deferrals (state : Buffering) (event : DataEvent) (earlier : List (DataPacket × Ipv4Header)) :
    List (DataPacket × Ipv4Header) :=
  match event with
  | .routeInput index header memory =>
      match state.plane.looped[index]? with
      | some (p, _) => if (state.plane.routeInput p index header memory).1 then
          earlier ++ [(p, header)] else earlier
      | none => earlier
  | .control _ _ _ | .routeOutput _ _ _ => earlier

def Traced (run : Buffering × List (DataPacket × Ipv4Header)) : Prop :=
  ∀ entry ∈ run.1.plane.queue.queue, ∃ p, (p, entry.header) ∈ run.2 ∧ entry.packet.uid = p.uid

theorem flushAfter_descends {plane : DataPlane} {event : Node.Event}
    {memory : Ipv4Address → Nat → Memory} {fuel : Nat} {sent : List Forwarded} {queue : BsdvrQueue}
    (flushed : plane.flushAfter event memory fuel = some (sent, queue)) :
    plane.queue.Descends queue := by
  unfold DataPlane.flushAfter at flushed
  split at flushed
  · split at flushed
    · exact BsdvrQueue.flush_descends flushed
    · obtain ⟨_, rfl⟩ := Prod.mk.inj (Option.some.inj flushed)
      exact .refl _
  · obtain ⟨_, rfl⟩ := Prod.mk.inj (Option.some.inj flushed)
    exact .refl _

theorem Traced.next {earlier : List (DataPacket × Ipv4Header)} (traced : Traced (state, earlier))
    (taken : state.next event = some after) : Traced (after, deferrals state event earlier) := by
  cases event with
  | control event memory fuel =>
      obtain ⟨sent, queue, _, flushed, rfl⟩ := next_control taken
      intro entry member
      obtain ⟨old, among, header, uid⟩ := flushAfter_descends flushed entry member
      obtain ⟨p, deferred, same⟩ := traced old among
      exact ⟨p, header ▸ deferred, uid.trans same⟩
  | routeOutput p header oif =>
      obtain ⟨looped, frame⟩ := routeOutput_frame state.plane p header oif
      simp only [Buffering.next, frame, Option.some.injEq] at taken
      subst taken
      exact traced
  | routeInput index header memory =>
      obtain ⟨⟨p, dst⟩, found, arrived⟩ := Option.bind_eq_some_iff.mp taken
      simp only at arrived
      split at arrived
      · simp only [deferrals, found]
        unfold DataPlane.routeInput at arrived ⊢
        by_cases down : state.plane.node.socketAddresses.isEmpty = true
        · simp only [if_pos down] at arrived ⊢
          rw [← Option.some.inj arrived]
          exact traced
        · simp only [if_neg down] at arrived ⊢
          set added : QueueEntry := ⟨p, memory state.plane.queue.queue.length .notForwarded, header⟩
          have deferred : state.plane.queue.deferredRouteOutput memory p header =
              state.plane.queue.enqueue memory added := rfl
          rw [deferred] at arrived ⊢
          rcases state.plane.queue.enqueue_cases memory added
            with refused | ⟨_, kept, accepted, fewer, _⟩
          · rw [refused] at arrived ⊢
            rw [← Option.some.inj arrived]
            exact traced
          · rw [accepted] at arrived ⊢
            rw [← Option.some.inj arrived]
            intro entry member
            rcases List.mem_append.mp member with old | new
            · obtain ⟨q, there, same⟩ := traced entry (fewer.subset old)
              exact ⟨q, List.mem_append_left _ there, same⟩
            · obtain rfl := List.mem_singleton.mp new
              exact ⟨p, List.mem_append_right _ (List.mem_singleton_self _), rfl⟩
      · cases arrived

variable {memory : Ipv4Address → Nat → Memory} {fuel : Nat} {sent : List Forwarded}
  {plane : DataPlane}

/-- A packet that a flush forwards was deferred: it has the header it had then, with the source of
the route and one more hop to live. It has no tag, takes the route of its destination, and was let
pass by the tag it had when the flush began. -/
theorem forwarded_deferred {run : Buffering × List (DataPacket × Ipv4Header)} {node : Node} {maxLen : BitVec 32}
    {event : Node.Event}
    (reach : Reach (recording next deferrals) (fun _ _ => True) ((Delivering.start node maxLen).state, []) run)
    (moved : run.1.plane.control event memory fuel = some (sent, plane)) :
    ∀ forwarded ∈ sent, ∃ p header rt, (p, header) ∈ run.2 ∧ plane.node.ft[header.destination]? = some rt ∧
      forwarded = ⟨rt.route, ⟨p.uid, none⟩, { header with source := rt.route.source, ttl := header.ttl + 1 }⟩ ∧
      ∃ waiting ∈ run.1.plane.queue.queue, waiting.key = forwarded.key ∧
        mismatches waiting.packet.tag rt.route.outputDevice = false := by
  have traced : Traced run := by
    refine reach.invariant (P := Traced) (fun entry member => by cases member) ?_
    rintro before event after traced _ taken
    obtain ⟨stepped, recorded⟩ := recording_eq_some taken
    have next := Traced.next traced stepped
    rwa [← recorded] at next
  obtain ⟨after, reached, rest⟩ := Option.bind_eq_some_iff.mp moved
  obtain ⟨_, rfl⟩ := Node.next_eq_some reached
  obtain ⟨⟨_, queue⟩, flushed, same⟩ := Option.map_eq_some_iff.mp rest
  obtain ⟨rfl, rfl⟩ := Prod.mk.inj same
  intro forwarded member
  unfold DataPlane.flushAfter at flushed
  split at flushed
  · split at flushed
    · obtain ⟨dst, rt, listed, old, among, rfl, twin, beside, alike, passes⟩ :=
        BsdvrQueue.flush_sends (nodup_keys _) flushed forwarded member
      obtain ⟨inside, here⟩ := List.mem_filter.mp among
      obtain ⟨p, deferred, uid⟩ := traced old inside
      refine ⟨p, old.header, rt, deferred, ?_, ?_, twin, (List.mem_filter.mp beside).1, alike, passes⟩
      · rw [of_decide_eq_true here]
        exact Std.TreeMap.mem_toList_iff_getElem?_eq_some.mp listed
      · rw [BsdvrQueue.sends, QueueEntry.removePacketTag, ← uid]
    · obtain ⟨rfl, _⟩ := Prod.mk.inj (Option.some.inj flushed)
      cases member
  · obtain ⟨rfl, _⟩ := Prod.mk.inj (Option.some.inj flushed)
    cases member

theorem forwarded_deferred_twoInterfaces : ∃ run sent plane,
    Reach (recording next deferrals) (fun _ _ => True)
    ((Delivering.start Node.twoInterfaces 64).state, []) run ∧
    run.1.plane.control (.recv ⟨5, 2, 0x0a010301#32⟩ 0x0a010302#32
      (.update ⟨0x0a010302#32, 0x0a010309#32, 1, 1⟩) 0)
      (fun _ _ => Serving.kept) 2 = some (sent, plane) ∧ sent.length = 1 ∧
    ∀ forwarded ∈ sent, ∃ p header rt, (p, header) ∈ run.2 ∧
    plane.node.ft[header.destination]? = some rt ∧
      forwarded = ⟨rt.route, ⟨p.uid, none⟩,
        { header with source := rt.route.source, ttl := header.ttl + 1 }⟩ ∧
      ∃ waiting ∈ run.1.plane.queue.queue, waiting.key = forwarded.key ∧
        mismatches waiting.packet.tag rt.route.outputDevice = false := by
  -- the route to 10.1.2.2 is lost as its interface goes down, and comes back with an UPDATE on the
  -- other one
  obtain ⟨run, reach, checked⟩ := exists_reach_of_follow (recording next deferrals)
    (fun _ _ => True)
    ((Delivering.start Node.twoInterfaces 64).state, [])
    ([Delivering.quiet (.interfaceUp 1), Delivering.quiet (.interfaceUp 2),
      Delivering.quiet (Node.hello1 0x0a010202#32),
      Delivering.quiet (.interfaceDown 1)] ++ Delivering.deferral 1 0x0a010202#32 Serving.kept)
    (fun run => (run.1.plane.control
      (.recv ⟨5, 2, 0x0a010301#32⟩ 0x0a010302#32 (.update ⟨0x0a010302#32, 0x0a010309#32, 1, 1⟩) 0)
      (fun _ _ => Serving.kept) 2).any fun moved => moved.1.length = 1) (by decide +kernel)
  simp only [Option.any_eq_true, decide_eq_true_eq] at checked
  obtain ⟨⟨sent, plane⟩, moved, one⟩ := checked
  exact ⟨run, sent, plane, reach, moved, one, forwarded_deferred reach moved⟩

end Buffering

end Bsdvr
