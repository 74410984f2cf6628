import Bsdvr.Queues.Packets

namespace Bsdvr
open Foundation

namespace BsdvrQueue

/-! ## The oldest entry of each status -/

def Oldest.of (found : Oldest) : ForwardingStatus → Option Nat
  | .notForwarded => found.onf
  | .inactiveForwarded => found.oif
  | .activeForwarded => found.oaf

def Oldest.note (found : Oldest) (status : ForwardingStatus) (i : Nat) : Oldest :=
  match status with
  | .notForwarded => { found with onf := found.onf.or (some i) }
  | .inactiveForwarded => { found with oif := found.oif.or (some i) }
  | .activeForwarded => { found with oaf := found.oaf.or (some i) }

variable {memory : Memory} {valid : Bool} {entries : List QueueEntry}
  {status : QueueEntry → ForwardingStatus}

theorem Oldest.of_note (found : Oldest) (noted status : ForwardingStatus) (i : Nat) :
    (found.note noted i).of status = (found.of status).or
      (if noted = status then some i else none) := by
  cases noted <;> cases status <;> simp [note, of]

theorem oldest_cons {found : Oldest} {i : Nat} {entry : QueueEntry} {noted : ForwardingStatus}
    (constructed : ∀ status, memory i status = ⟨status.code, valid⟩)
    (stored : entry.status = ⟨noted.code, valid⟩) :
    oldest memory i (entry :: entries) found = oldest memory (i + 1) entries
      (found.note noted i) := by
  obtain ⟨onf, oif, oaf⟩ := found
  rw [oldest, constructed, constructed, constructed, stored]
  cases noted with
  | notForwarded => cases onf <;> simp [Oldest.note, ForwardingStatus.code]
  | inactiveForwarded => cases oif <;> simp [Oldest.note, ForwardingStatus.code]
  | activeForwarded => cases oaf <;> simp [Oldest.note, ForwardingStatus.code]

theorem oldest_of {found : Oldest} {i : Nat}
    (constructed : ∀ j < entries.length, ∀ status, memory (i + j) status = ⟨status.code, valid⟩)
    (stored : ∀ entry ∈ entries, entry.status = ⟨(status entry).code, valid⟩)
    (sought : ForwardingStatus) :
    (oldest memory i entries found).of sought =
      (found.of sought).or ((entries.findIdx? fun entry => status entry = sought).map (· + i)) := by
  induction entries generalizing i found with
  | nil => simp [oldest]
  | cons entry rest ih =>
      have here := constructed 0 (by simp)
      rw [Nat.add_zero] at here
      have later : ∀ j < rest.length, ∀ status, memory (i + 1 + j) status =
          ⟨status.code, valid⟩ := by
        intro j less status
        rw [Nat.add_assoc, Nat.add_comm 1 j]
        exact constructed (j + 1) (Nat.succ_lt_succ less) status
      rw [oldest_cons here (stored entry List.mem_cons_self),
        ih later fun other member => stored other (List.mem_cons_of_mem _ member), Oldest.of_note,
        Option.or_assoc,
        List.findIdx?_cons]
      congr 1
      by_cases same : status entry = sought
      · simp [same]
      · simp only [same, if_false, decide_false, Option.none_or, Option.map_map, Bool.false_eq_true]
        congr 1
        funext j
        simp only [Function.comp_apply]
        omega

/-! ## The entry that is dropped -/

theorem code_lt {first second : ForwardingStatus} (most : first.code ≤ second.code) (apart : first ≠ second) :
    first.code < second.code := by
  cases first <;> cases second <;> first | exact absurd rfl apart | exact absurd most (by decide) | decide

theorem eraseIdx_of_findIdx? {sought : ForwardingStatus} {i : Nat}
    (found : entries.findIdx? (fun entry => status entry = sought) = some i)
    (most : ∀ entry ∈ entries, (status entry).code ≤ sought.code) :
    ∃ before victim after, entries = before ++ victim :: after ∧
    entries.eraseIdx i = before ++ after ∧
      (∀ other ∈ before, (status other).code < (status victim).code) ∧
      ∀ other ∈ after, (status other).code ≤ (status victim).code := by
  obtain ⟨before, victim, after, rfl, rfl, passes, first⟩ := exists_split_of_findIdx? found
  have same : status victim = sought := of_decide_eq_true passes
  refine ⟨before, victim, after, rfl, ?_, fun other member => ?_, fun other member => ?_⟩
  · rw [List.eraseIdx_append_of_length_le le_rfl, Nat.sub_self, List.eraseIdx_cons_zero]
  · rw [same]
    exact code_lt (most other (by simp [member])) (of_decide_eq_false (first other member))
  · rw [same]
    exact most other (by simp [member])

/-- The oldest of the entries that were forwarded the furthest is dropped. -/
theorem dropPolicy_stored
    (constructed : ∀ i < entries.length, ∀ status, memory i status = ⟨status.code, valid⟩)
    (stored : ∀ entry ∈ entries, entry.status = ⟨(status entry).code, valid⟩)
    (nonempty : entries ≠ []) :
    ∃ before victim after, entries = before ++ victim :: after ∧
    dropPolicy memory entries = some (before ++ after) ∧
      (∀ other ∈ before, (status other).code < (status victim).code) ∧
      ∀ other ∈ after, (status other).code ≤ (status victim).code := by
  have found (sought : ForwardingStatus) : (oldest memory 0 entries ⟨none, none, none⟩).of sought =
      entries.findIdx? fun entry => status entry = sought := by
    have whole := @oldest_of memory valid entries status ⟨none, none,
      none⟩ 0 (by simpa using constructed) stored sought
    cases sought <;> simpa [Oldest.of] using whole
  have drops {sought : ForwardingStatus} {i : Nat}
      (dropped : dropPolicy memory entries = some (entries.eraseIdx i))
      (first : entries.findIdx? (fun entry => status entry = sought) = some i)
      (most : ∀ entry ∈ entries, (status entry).code ≤ sought.code) :
      ∃ before victim after, entries = before ++ victim :: after ∧
      dropPolicy memory entries = some (before ++ after) ∧
        (∀ other ∈ before, (status other).code < (status victim).code) ∧
        ∀ other ∈ after, (status other).code ≤ (status victim).code := by
    obtain ⟨before, victim, after, split, erased, rest⟩ := eraseIdx_of_findIdx? first most
    exact ⟨before, victim, after, split, dropped.trans (congrArg some erased), rest⟩
  have apart {sought : ForwardingStatus}
      (none : entries.findIdx? (fun entry => status entry = sought) = .none)
      (entry : QueueEntry) (member : entry ∈ entries) : status entry ≠ sought :=
    of_decide_eq_false (List.findIdx?_eq_none_iff.mp none entry member)
  have active : (oldest memory 0 entries ⟨none, none, none⟩).oaf = _ := found .activeForwarded
  have inactive : (oldest memory 0 entries ⟨none, none, none⟩).oif = _ := found .inactiveForwarded
  have fresh : (oldest memory 0 entries ⟨none, none, none⟩).onf = _ := found .notForwarded
  cases oaf : entries.findIdx? (fun entry => status entry = .activeForwarded) with
  | some i =>
      refine drops (by simp [dropPolicy, active, oaf]) oaf fun entry _ => ?_
      cases status entry <;> decide
  | none =>
      cases oif : entries.findIdx? (fun entry => status entry = .inactiveForwarded) with
      | some i =>
          refine drops (by simp [dropPolicy, active, oaf, inactive, oif]) oif fun entry member => ?_
          have other := apart oaf entry member
          cases known : status entry with
          | activeForwarded => exact absurd known other
          | inactiveForwarded => decide
          | notForwarded => decide
      | none =>
          have all (entry : QueueEntry) (member : entry ∈ entries) :
              status entry = .notForwarded := by
            cases known : status entry with
            | notForwarded => rfl
            | inactiveForwarded => exact absurd known (apart oif entry member)
            | activeForwarded => exact absurd known (apart oaf entry member)
          cases onf : entries.findIdx? (fun entry => status entry = .notForwarded) with
          | some i =>
              refine drops (by simp [dropPolicy, active, oaf, inactive, oif, fresh, onf]) onf
                fun entry member => ?_
              rw [all entry member]
              exact BitVec.le_refl _
          | none =>
              obtain ⟨entry, member⟩ := List.exists_mem_of_ne_nil entries nonempty
              exact absurd (all entry member) (apart onf entry member)

/-! ## Where nothing is dropped -/

theorem oldest_eq_empty_iff {found : Oldest} {i : Nat} :
    oldest memory i entries found = ⟨none, none, none⟩ ↔ found = ⟨none, none, none⟩ ∧
      ∀ j entry, entries[j]? = some entry → ∀ status, entry.status ≠ memory (i + j) status := by
  induction entries generalizing i found with
  | nil => simp [oldest]
  | cons first rest ih =>
      have head : (if first.status = memory i .notForwarded ∧
          found.onf = none then { found with onf := some i }
          else if first.status = memory i .inactiveForwarded ∧
            found.oif = none then { found with oif := some i }
          else if first.status = memory i .activeForwarded ∧
            found.oaf = none then { found with oaf := some i }
          else found) = ⟨none, none, none⟩ ↔
          found = ⟨none, none, none⟩ ∧ ∀ status, first.status ≠ memory i status := by
        obtain ⟨onf, oif, oaf⟩ := found
        constructor
        · intro empty
          split at empty
          · simp at empty
          · split at empty
            · simp at empty
            · split at empty
              · simp at empty
              · rename_i fresh inactive active
                obtain ⟨rfl, rfl, rfl⟩ := Oldest.mk.inj empty
                refine ⟨rfl, fun status => ?_⟩
                cases status with
                | notForwarded => simpa using fresh
                | inactiveForwarded => simpa using inactive
                | activeForwarded => simpa using active
        · rintro ⟨empty, apart⟩
          obtain ⟨rfl, rfl, rfl⟩ := Oldest.mk.inj empty
          simp [apart]
      rw [oldest, ih, head, and_assoc]
      refine and_congr_right fun _ => ⟨?_,
        fun apart => ⟨fun status => ?_, fun j entry found status => ?_⟩⟩
      · rintro ⟨here, later⟩ j entry found status
        cases j with
        | zero =>
            obtain rfl := Option.some.inj found
            exact here status
        | succ j =>
            rw [← Nat.add_assoc, Nat.add_right_comm]
            exact later j entry (by simpa using found) status
      · exact apart 0 first rfl status
      · have there := apart (j + 1) entry (by simpa using found) status
        rwa [← Nat.add_assoc, Nat.add_right_comm] at there

theorem dropPolicy_eq_none_iff : dropPolicy memory entries = none ↔
    ∀ i entry, entries[i]? = some entry → ∀ status, entry.status ≠ memory i status := by
  have empty := @oldest_eq_empty_iff memory entries ⟨none, none, none⟩ 0
  simp only [Nat.zero_add, true_and] at empty
  rw [← empty]
  unfold dropPolicy
  cases oldest memory 0 entries ⟨none, none, none⟩ with
  | mk onf oif oaf => cases onf <;> cases oif <;> cases oaf <;> simp

/-- A packet is not in the queue after `Enqueue` where there is no room and nothing that is dropped
for it. -/
theorem mem_enqueue_iff (queue : BsdvrQueue) (entry : QueueEntry) :
    entry.key ∈ (queue.enqueue memory entry).2.queue.map QueueEntry.key ↔
      ¬(entry.key ∉ queue.queue.map QueueEntry.key ∧ queue.queue.length = queue.maxLen.toNat ∧
        ∀ i other, queue.queue[i]? = some other → ∀ status, other.status ≠ memory i status) := by
  rw [← dropPolicy_eq_none_iff]
  have present : queue.queue.any (fun other => other.key = entry.key) = true ↔
      entry.key ∈ queue.queue.map QueueEntry.key := by simp
  unfold enqueue
  split
  · rename_i found
    have there := present.mp found
    exact iff_of_true there fun lost => lost.1 there
  · rename_i absent
    have new := mt present.mpr absent
    split
    · rename_i full
      split
      · rename_i kept dropped
        rw [dropped]
        simp
      · rename_i kept
        exact iff_of_false new (not_not.mpr ⟨new, full, kept⟩)
    · rename_i free
      exact iff_of_true (by simp) fun lost => free lost.2.1

end BsdvrQueue

namespace Serving

variable {state : Serving}

/-- A new packet takes the place of the oldest of those forwarded the furthest, by their
hand-outs. -/
def Evicts (state : Serving) (memory : Memory) (entry victim : QueueEntry) : Prop :=
  ∃ before after, state.queue.queue = before ++ victim :: after ∧
    state.queue.enqueue memory entry = (true,
      { state.queue with queue := before ++ after ++ [entry] }) ∧
    (∀ other ∈ before, (recorded (state.given other.key)).code <
      (recorded (state.given victim.key)).code) ∧
    ∀ other ∈ after, (recorded (state.given other.key)).code ≤
      (recorded (state.given victim.key)).code

/-- What `Enqueue` passes to `DropPolicy` is an entry of the default constructor. -/
def Reports (state : Serving) (memory : Memory) (victim : QueueEntry) : Prop :=
  (BsdvrQueue.dropPolicyInto memory state.queue.queue none).2 = some victim

theorem not_reports (memory : Memory) (victim : QueueEntry) : ¬state.Reports memory victim := by
  simp [Reports, BsdvrQueue.dropPolicyInto_eq]

theorem enqueue_full {memory : Memory} {entry : QueueEntry} {kept : List QueueEntry}
    (full : state.queue.queue.length = state.queue.maxLen.toNat)
    (new : entry.key ∉ state.queue.queue.map QueueEntry.key)
    (dropped : BsdvrQueue.dropPolicy memory state.queue.queue = some kept) :
    state.queue.enqueue memory entry = (true, { state.queue with queue := kept ++ [entry] }) := by
  have absent : ¬state.queue.queue.any (fun other => other.key = entry.key) = true := by
    intro found
    obtain ⟨other, member, same⟩ := List.any_eq_true.mp found
    exact new (of_decide_eq_true same ▸ List.mem_map_of_mem member)
  rw [BsdvrQueue.enqueue, if_neg absent, if_pos full, dropped]

/-- No dropped entry is reported. Where the `Status` objects hold what they are given, the right one
is dropped from every full queue with an entry. -/
theorem not_evicts_reported (memory : Memory) (entry : QueueEntry)
    (full : state.queue.queue.length = state.queue.maxLen.toNat)
    (new : entry.key ∉ state.queue.queue.map QueueEntry.key) :
    (¬∃ victim, state.Evicts memory entry victim ∧ state.Reports memory victim) ∧
    ∀ maxLen valid, Reach next (Stores valid) (start maxLen) state →
      (∀ i < state.queue.queue.length, ∀ status, memory i status = ⟨status.code, valid⟩) →
      ((∃ victim, state.Evicts memory entry victim) ↔ state.queue.queue ≠ []) := by
  constructor
  · rintro ⟨victim, _, reported⟩
    exact not_reports memory victim reported
  · intro maxLen valid stores constructed
    constructor
    · rintro ⟨victim, before, after, split, _⟩
      rw [split]
      exact List.append_ne_nil_of_right_ne_nil _ (List.cons_ne_nil _ _)
    · intro nonempty
      have stored : ∀ entry ∈ state.queue.queue, entry.status =
          ⟨(recorded (state.given entry.key)).code, valid⟩ :=
        fun entry member => (reach_recorded stores entry member).2
      obtain ⟨before, victim, after, split, dropped, older, younger⟩ :=
        BsdvrQueue.dropPolicy_stored constructed stored nonempty
      exact ⟨victim, before, after, split, enqueue_full full new dropped, older, younger⟩

theorem not_evicts_reported_threePackets : ∃ state, Reach next (Stores true) (start 2) state ∧
    (∃ victim, state.Evicts kept (waiting 3 0x0a010202#32) victim) ∧
    ¬∃ victim, state.Evicts kept (waiting 3 0x0a010202#32) victim ∧ state.Reports kept victim := by
  -- the first packet has been passed on by an INACTIVE route
  obtain ⟨state, reach, checked⟩ := exists_reach_of_follow next (Stores true) (start 2)
    [.enqueue (waiting 1 0x0a010202#32) kept, .enqueue (waiting 2 0x0a010202#32) kept,
      .dequeue 0x0a010202#32 1 kept]
    (fun state => decide (state.queue.queue.length = state.queue.maxLen.toNat) && decide
      (state.queue.queue ≠ []) &&
      decide ((waiting 3 0x0a010202#32).key ∉ state.queue.queue.map QueueEntry.key))
        (by decide +kernel)
  simp only [Bool.and_eq_true, decide_eq_true_eq] at checked
  obtain ⟨⟨full, nonempty⟩, new⟩ := checked
  obtain ⟨unreported, evicts⟩ := not_evicts_reported kept (waiting 3 0x0a010202#32) full new
  exact ⟨state, reach, (evicts _ true reach fun _ _ _ => rfl).mpr nonempty, unreported⟩

theorem not_reports_twoPackets : ∃ state, Reach next (Stores true) (start 1) state ∧
    state.queue.queue.length = state.queue.maxLen.toNat ∧
    (waiting 2 0x0a010202#32).key ∉ state.queue.queue.map QueueEntry.key ∧
    ¬∃ victim, state.Evicts kept (waiting 2 0x0a010202#32) victim ∧ state.Reports kept victim := by
  -- there is room for one packet
  obtain ⟨state, reach, checked⟩ := exists_reach_of_follow next (Stores true) (start 1)
    [.enqueue (waiting 1 0x0a010202#32) kept]
    (fun state => decide (state.queue.queue.length = state.queue.maxLen.toNat) &&
      decide ((waiting 2 0x0a010202#32).key ∉ state.queue.queue.map QueueEntry.key))
        (by decide +kernel)
  simp only [Bool.and_eq_true, decide_eq_true_eq] at checked
  exact ⟨state, reach, checked.1, checked.2, fun ⟨victim, _, reported⟩ =>
    not_reports kept victim reported⟩

end Serving

end Bsdvr
