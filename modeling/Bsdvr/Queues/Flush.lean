import Bsdvr.Model.DataPlane

namespace Bsdvr
namespace BsdvrQueue

variable {queue after middle : BsdvrQueue} {dst : Ipv4Address} {entry : QueueEntry}
  {before rest : List QueueEntry}

def toward (queue : BsdvrQueue) (dst : Ipv4Address) : List QueueEntry :=
  queue.queue.filter fun entry => entry.header.destination = dst

theorem toward_split (split : queue.toward dst = before ++ entry :: rest) : ∃ left right,
    queue.queue = left ++ entry :: right ∧ ∀ other ∈ left, other.header.destination = dst →
    other ∈ before := by
  obtain ⟨first, last, whole, rfl, tail⟩ := List.filter_eq_append_iff.mp split
  obtain ⟨skipped, right, rfl, others, _, _⟩ := List.filter_eq_cons_iff.mp tail
  refine ⟨first ++ skipped, right, by rw [whole, List.append_assoc], fun other member here => ?_⟩
  rcases List.mem_append.mp member with early | late
  · exact List.mem_filter.mpr ⟨early, by simpa using here⟩
  · exact absurd (by simpa using here) (others other late)

/-! ## What a flush leaves as it is -/

structure Spares (queue after : BsdvrQueue) (touched : Ipv4Address → Prop) : Prop where
  length : after.queue.length = queue.queue.length
  others : ∀ dst, ¬touched dst → after.toward dst = queue.toward dst
  entries : ∀ entry ∈ after.queue, ∃ old ∈ queue.queue, entry.key = old.key ∧
    (entry.packet.tag = old.packet.tag ∨ entry.packet.tag = none)

variable {touched more : Ipv4Address → Prop}

theorem Spares.refl (queue : BsdvrQueue) (touched : Ipv4Address → Prop) :
    queue.Spares queue touched :=
  ⟨rfl, fun _ _ => rfl, fun entry member => ⟨entry, member, rfl, .inl rfl⟩⟩

theorem Spares.trans (first : queue.Spares middle touched) (second : middle.Spares after touched) :
    queue.Spares after touched := by
  refine ⟨second.length.trans first.length, fun dst apart => ?_, fun entry member => ?_⟩
  · rw [second.others dst apart, first.others dst apart]
  · obtain ⟨between, there, same, tag⟩ := second.entries entry member
    obtain ⟨old, among, older, origin⟩ := first.entries between there
    refine ⟨old, among, same.trans older, ?_⟩
    rcases tag with kept | gone
    · rwa [kept]
    · exact .inr gone

theorem Spares.mono (spares : queue.Spares after touched) (wider : ∀ dst, touched dst → more dst) :
    queue.Spares after more :=
  ⟨spares.length, fun dst apart => spares.others dst fun within => apart (wider dst within),
    spares.entries⟩

theorem hands_destination {memory : Memory} {sval : BitVec 32} {i : Nat} {status : ForwardingStatus}
    (passed : hands memory dst sval i entry = some status) : entry.header.destination = dst := by
  unfold hands at passed
  split at passed
  · split at passed
    · rename_i test
      exact test.1
    · cases passed
  · split at passed
    · split at passed
      · rename_i test
        exact test.1
      · cases passed
    · cases passed

theorem removePacketTag_spares (queue : BsdvrQueue) (key : Nat × Ipv4Address) :
    queue.Spares (queue.removePacketTag key) fun dst => dst = key.2 := by
  refine ⟨List.length_map _, fun dst apart => ?_, fun entry member => ?_⟩
  · have destinations : ((fun entry : QueueEntry => decide (entry.header.destination = dst)) ∘
        fun entry => if entry.key = key then entry.removePacketTag else entry) =
        fun entry => decide (entry.header.destination = dst) := by
      funext entry
      simp only [Function.comp_apply]
      split <;> rfl
    rw [toward, removePacketTag, List.filter_map, destinations]
    refine (List.map_congr_left fun entry member => ?_).trans (List.map_id _)
    have here := (List.mem_filter.mp member).2
    rw [if_neg]
    · rfl
    · rintro rfl
      exact apart (of_decide_eq_true here).symm
  · obtain ⟨old, among, rfl⟩ := List.mem_map.mp member
    refine ⟨old, among, ?_⟩
    split
    · exact ⟨rfl, .inr rfl⟩
    · exact ⟨rfl, .inl rfl⟩

theorem dequeue_spares {memory : Memory} {sval : BitVec 32} {handed : QueueEntry}
    (taken : queue.dequeue memory dst sval = some (handed, after)) :
    handed.header.destination = dst ∧ queue.Spares after fun other => other = dst := by
  obtain ⟨before, entry, rest, status, split, rfl, passed, rfl⟩ := dequeue_eq_some taken
  have here := hands_destination passed
  refine ⟨here, by simp [split], fun other apart => ?_, fun old member => ?_⟩
  · have absent : ¬entry.header.destination = other := fun same => apart (same.symm.trans here)
    simp [toward, split, List.filter_append, absent]
  · rcases List.mem_append.mp member with early | late
    · exact ⟨old, by simp [split, early], rfl, .inl rfl⟩
    · rcases List.mem_cons.mp late with rfl | later
      · exact ⟨entry, by simp [split], rfl, .inl rfl⟩
      · exact ⟨old, by simp [split, later], rfl, .inl rfl⟩

theorem sendPacketFromQueue_spares {route : Ipv4Route} {state : RouteState} {memory : Nat → Memory}
    {fuel : Nat} {forwarded : List Forwarded}
    (sent : queue.sendPacketFromQueue dst route state memory fuel = some (forwarded, after)) :
    queue.Spares after fun other => other = dst := by
  induction fuel generalizing queue forwarded with
  | zero => cases sent
  | succ fuel ih =>
      unfold sendPacketFromQueue at sent
      split at sent
      · obtain ⟨_, rfl⟩ := Prod.mk.inj (Option.some.inj sent)
        exact .refl _ _
      · rename_i entry middle taken
        obtain ⟨here, spares⟩ := dequeue_spares taken
        have untagged : queue.Spares (middle.removePacketTag entry.key) fun other =>
            other = dst := by
          refine spares.trans ((removePacketTag_spares middle entry.key).mono fun other same => ?_)
          exact same.trans here
        simp only at sent
        split at sent
        · obtain ⟨_, rfl⟩ := Prod.mk.inj (Option.some.inj sent)
          exact untagged
        · obtain ⟨⟨later, last⟩, looped, same⟩ := Option.map_eq_some_iff.mp sent
          obtain ⟨_, rfl⟩ := Prod.mk.inj same
          exact untagged.trans (ih looped)

theorem flush_cons {memory : Ipv4Address → Nat → Memory} {fuel : Nat} {rt : RoutingTableEntry}
    {list : List (Ipv4Address × RoutingTableEntry)} {forwarded : List Forwarded}
    (flushed : queue.flush memory fuel ((dst, rt) :: list) = some (forwarded, after)) :
    ∃ sent middle later,
      ((∃ entry ∈ queue.queue, entry.header.destination = dst) →
        queue.sendPacketFromQueue dst rt.route rt.state (memory dst) fuel = some (sent, middle)) ∧
      queue.Spares middle (fun other => other = dst) ∧ middle.flush memory fuel list =
        some (later, after) ∧
      forwarded = sent ++ later := by
  simp only [flush, Option.bind_eq_bind, Option.bind_eq_some_iff, Option.some.injEq, Prod.mk.injEq,
    Prod.exists] at flushed
  obtain ⟨sent, middle, first, later, last, second, rfl, rfl⟩ := flushed
  refine ⟨sent, middle, later, fun waits => ?_, ?_, second, rfl⟩
  · have found : queue.find dst = true := by simpa [find] using waits
    rwa [if_pos found] at first
  · split at first
    · exact sendPacketFromQueue_spares first
    · obtain ⟨_, rfl⟩ := Prod.mk.inj (Option.some.inj first)
      exact .refl _ _

theorem flush_spares {memory : Ipv4Address → Nat → Memory} {fuel : Nat}
    {list : List (Ipv4Address × RoutingTableEntry)} {forwarded : List Forwarded}
    (flushed : queue.flush memory fuel list = some (forwarded, after)) :
    queue.Spares after fun dst => dst ∈ list.map Prod.fst := by
  induction list generalizing queue forwarded with
  | nil =>
      obtain ⟨_, rfl⟩ := Prod.mk.inj (Option.some.inj flushed)
      exact .refl _ _
  | cons pair list ih =>
      obtain ⟨sent, middle, later, _, spares, rest, rfl⟩ := flush_cons flushed
      refine Spares.trans (spares.mono fun dst same => ?_) ((ih rest).mono fun dst member => ?_)
      · rw [same]
        exact List.mem_cons_self
      · exact List.mem_cons_of_mem _ member

/-! ## What a flush forwards -/

theorem dequeueFrom_reaches {memory : Memory} {sval : BitVec 32} {i : Nat}
    (passes : (hands memory dst sval (i + before.length) entry).isSome) : ∃ status,
      dequeueFrom memory dst sval i (before ++ entry :: rest) =
        some ({ entry with status }, before ++ { entry with status } :: rest) ∨
      ∃ left other right, before = left ++ other :: right ∧ other.header.destination = dst ∧
        dequeueFrom memory dst sval i (before ++ entry :: rest) =
          some ({ other with status }, left ++ { other with status } ::
            (right ++ entry :: rest)) := by
  induction before generalizing i with
  | nil =>
      obtain ⟨status, passed⟩ := Option.isSome_iff_exists.mp passes
      rw [List.length_nil, Nat.add_zero] at passed
      exact ⟨memory i status, .inl (by simp [dequeueFrom, passed])⟩
  | cons first before ih =>
      cases passed : hands memory dst sval i first with
      | some status =>
          exact ⟨memory i status, .inr ⟨[], first, before, rfl, hands_destination passed,
            by simp [dequeueFrom, passed]⟩⟩
      | none =>
          rw [List.length_cons, ← Nat.add_assoc, Nat.add_right_comm] at passes
          obtain ⟨status, itself | ⟨left, other, right, split, here, earlier⟩⟩ := ih passes
          · exact ⟨status, .inl (by simp [dequeueFrom, passed, itself])⟩
          · exact ⟨status, .inr ⟨first :: left, other, right, by rw [split]; rfl, here,
              by simp [dequeueFrom, passed, earlier]⟩⟩

theorem hands_of_fresh {memory : Memory} {i : Nat} {state : RouteState}
    (here : entry.header.destination = dst) (fresh : memory i .notForwarded = entry.status) :
    (hands memory dst (if state = .active then 2 else 1) i entry).isSome := by
  cases state with
  | active => simp [hands, here, fresh]
  | inactive => simp [hands, here, fresh]

theorem dequeue_of_dequeueFrom {memory : Memory} {sval : BitVec 32} {handed : QueueEntry}
    {entries : List QueueEntry}
    (found : dequeueFrom memory dst sval 0 queue.queue = some (handed, entries)) :
    queue.dequeue memory dst sval = some (handed, { queue with queue := entries }) := by
  rw [dequeue, found]
  rfl

theorem sendPacketFromQueue_next {route : Ipv4Route} {state : RouteState} {memory : Nat → Memory}
    {fuel : Nat} {handed : QueueEntry} {forwarded : List Forwarded}
    (taken : queue.dequeue (memory fuel) dst (if state = .active then 2 else 1) =
      some (handed, middle))
    (passing : mismatches handed.packet.tag route.outputDevice = false)
    (sent : queue.sendPacketFromQueue dst route state memory (fuel + 1) = some (forwarded, after)) :
    ∃ first later,
      first.key = handed.key ∧ forwarded = first :: later ∧
      (middle.removePacketTag handed.key).sendPacketFromQueue dst route state memory fuel =
        some (later, after) := by
  simp only [sendPacketFromQueue, taken, passing] at sent
  obtain ⟨⟨later, last⟩, looped, same⟩ := Option.map_eq_some_iff.mp sent
  obtain ⟨rfl, rfl⟩ := Prod.mk.inj same
  exact ⟨_, later, rfl, rfl, looped⟩

/-- Without the tags of another packet, no packet before this one stops the loop that did not do so
before. -/
theorem removePacketTag_free {key : Nat × Ipv4Address} {device : Option NetDevice}
    (split : queue.queue = before ++ entry :: rest) (apart : entry.key ≠ key)
    (free : ∀ other ∈ before, other.key ≠ key → other.header.destination = dst →
      mismatches other.packet.tag device = false) : ∃ left right,
    (queue.removePacketTag key).queue = left ++ entry :: right ∧
      ∀ other ∈ left, other.header.destination = dst →
      mismatches other.packet.tag device = false := by
  refine ⟨before.map fun entry => if entry.key = key then entry.removePacketTag else entry,
    rest.map fun entry => if entry.key = key then entry.removePacketTag else entry, ?_,
    fun changed member toward => ?_⟩
  · rw [removePacketTag, split, List.map_append, List.map_cons, if_neg apart]
  · obtain ⟨old, among, rfl⟩ := List.mem_map.mp member
    by_cases same : old.key = key
    · rw [if_pos same]
      rfl
    · rw [if_neg same] at toward ⊢
      exact free old among same toward

/-- A packet that was not forwarded is passed on, where no packet before it stops the loop. -/
theorem sendPacketFromQueue_reaches {route : Ipv4Route} {state : RouteState} {memory : Nat → Memory}
    {fuel : Nat} {forwarded : List Forwarded} (split : queue.queue = before ++ entry :: rest)
    (here : entry.header.destination = dst)
    (fresh : ∀ n < fuel, ∀ i < queue.queue.length, memory n i .notForwarded = entry.status)
    (free : ∀ other ∈ before, other.header.destination = dst →
      mismatches other.packet.tag route.outputDevice = false)
    (own : mismatches entry.packet.tag route.outputDevice = false)
    (sent : queue.sendPacketFromQueue dst route state memory fuel = some (forwarded, after)) :
    entry.key ∈ forwarded.map Forwarded.key := by
  induction fuel generalizing queue before rest forwarded with
  | zero => cases sent
  | succ fuel ih =>
      have inside : before.length < queue.queue.length := by
        rw [split, List.length_append, List.length_cons]
        omega
      have passes := @hands_of_fresh _ _ _ _ state here (fresh fuel (Nat.lt_succ_self _) _ inside)
      rw [← Nat.zero_add before.length] at passes
      obtain ⟨status, itself | ⟨left, other, right, rfl, there, earlier⟩⟩ :=
        @dequeueFrom_reaches _ _ _ rest _ _ _ passes
      · rw [← split] at itself
        obtain ⟨first, later, same, rfl, _⟩ :=
          sendPacketFromQueue_next (dequeue_of_dequeueFrom itself) own sent
        have named : first.key = entry.key := same
        rw [List.map_cons, named]
        exact List.mem_cons_self
      · -- an earlier packet is handed out: the loop goes on with the tags of that packet gone
        rw [← split] at earlier
        set handed : QueueEntry := { other with status }
        have passing : mismatches handed.packet.tag route.outputDevice = false :=
          free other (by simp) there
        obtain ⟨first, later, same, rfl, looped⟩ :=
          sendPacketFromQueue_next (dequeue_of_dequeueFrom earlier) passing sent
        rw [List.map_cons, same]
        by_cases twin : entry.key = handed.key
        · rw [twin]
          exact List.mem_cons_self
        · have around : ({ queue with queue := left ++ handed :: (right ++ entry :: rest) } :
            BsdvrQueue).queue =
              (left ++ handed :: right) ++ entry :: rest := by
            rw [List.append_assoc, List.cons_append]
          have others : ∀ old ∈ left ++ handed :: right, old.key ≠ handed.key →
              old.header.destination = dst →
              mismatches old.packet.tag route.outputDevice = false := by
            intro old among apart toward
            simp only [List.mem_append, List.mem_cons] at among
            rcases among with early | rfl | late
            · exact free old (List.mem_append_left _ early) toward
            · exact absurd rfl apart
            · exact free old (List.mem_append_right _ (List.mem_cons_of_mem _ late)) toward
          obtain ⟨left', right', split', free'⟩ := removePacketTag_free around twin others
          refine List.mem_cons_of_mem _ (ih split' ?_ free' looped)
          intro n less i inside
          apply fresh n (less.trans (Nat.lt_succ_self _)) i
          simpa [removePacketTag, split] using inside

theorem flush_reaches {memory : Ipv4Address → Nat → Memory} {fuel : Nat} {rt : RoutingTableEntry}
    {list : List (Ipv4Address × RoutingTableEntry)} {forwarded : List Forwarded}
    (keys : (list.map Prod.fst).Nodup) (routed : (dst, rt) ∈ list)
    (split : queue.toward dst = before ++ entry :: rest)
    (fresh : ∀ n < fuel, ∀ i < queue.queue.length, memory dst n i .notForwarded = entry.status)
    (free : ∀ other ∈ before, mismatches other.packet.tag rt.route.outputDevice = false)
    (own : mismatches entry.packet.tag rt.route.outputDevice = false)
    (flushed : queue.flush memory fuel list = some (forwarded, after)) :
    entry.key ∈ forwarded.map Forwarded.key := by
  induction list generalizing queue forwarded with
  | nil => cases routed
  | cons pair list ih =>
      obtain ⟨sent, middle, later, first, spares, others, rfl⟩ := flush_cons flushed
      rw [List.map_append]
      rw [List.map_cons, List.nodup_cons] at keys
      rcases List.mem_cons.mp routed with rfl | below
      · obtain ⟨left, right, whole, inside⟩ := toward_split split
        have here : entry.header.destination = dst := by
          have member : entry ∈ queue.toward dst := by simp [split]
          exact of_decide_eq_true (List.mem_filter.mp member).2
        refine List.mem_append_left _ (sendPacketFromQueue_reaches whole here fresh ?_ own
          (first ?_))
        · intro other member toward
          exact free other (inside other member toward)
        · exact ⟨entry, by simp [whole], here⟩
      · have apart : ¬dst = pair.1 := by
          rintro rfl
          exact keys.1 (List.mem_map.mpr ⟨_, below, rfl⟩)
        refine List.mem_append_right _ (ih keys.2 below ?_ ?_ others)
        · rw [spares.others dst apart, split]
        · rw [spares.length]
          exact fresh

end BsdvrQueue
end Bsdvr
