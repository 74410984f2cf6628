import Bsdvr.Foundation.Run
import Bsdvr.Model.Node

namespace Bsdvr
open Foundation

/-- The class `Neighbors`: its list, the delay of its purge timer, and when the timer fires if it is
pending. -/
structure NeighborList where
  nb : Neighbors
  delay : Time
  ntimer : Option Time

/-- A call of `Purge`: the list it finds, the addresses it reports, each with the list as the
callback finds it, and the list it leaves. -/
structure PurgeCall where
  now : Time
  before : Neighbors
  reports : List (Ipv4Address × Neighbors)
  after : Neighbors

namespace NeighborList

def purge (list : NeighborList) (now : Time) : NeighborList × PurgeCall :=
  if list.nb.isEmpty then (list, ⟨now, list.nb, [], list.nb⟩)
  else
    let reports := (list.nb.filter (·.closed now)).map fun neighbor =>
      (neighbor.neighborAddress, list.nb)
    let nb := list.nb.filter fun neighbor => !neighbor.closed now
    ({ list with nb, ntimer := some (now + list.delay) }, ⟨now, list.nb, reports, nb⟩)

def extend (list : NeighborList) (now : Time) (addr : Ipv4Address) (expire : Time)
    (hardware : Mac48Address) :
    NeighborList :=
  { list with nb := list.nb.extend now addr expire hardware }

def push (list : NeighborList) (now : Time) (addr : Ipv4Address) (expire : Time)
    (hardware : Mac48Address) :
    NeighborList :=
  { list with nb := list.nb ++ [⟨addr, hardware, expire + now, false⟩] }

def isNeighbor (list : NeighborList) (now : Time) (addr : Ipv4Address) : Bool :=
  addr ∈ (list.purge now).1.nb.addresses

def getExpireTime (list : NeighborList) (now : Time) (addr : Ipv4Address) : Time :=
  (((list.purge now).1.nb.find? (·.neighborAddress = addr)).map fun neighbor =>
    neighbor.expireTime - now).getD 0

def closeMatching (list : NeighborList) (hardware : Mac48Address) : NeighborList :=
  { list with nb := list.nb.closeMatching hardware }

end NeighborList

/-! ## Runs -/

inductive NeighborCall
  /-- `hardware` is what `LookupMacAddress` finds. -/
  | update (addr : Ipv4Address) (expire : Time) (hardware : Mac48Address)
  | purge
  | isNeighbor (addr : Ipv4Address)
  | getExpireTime (addr : Ipv4Address)
  | processTxError (hardware : Mac48Address)
  | scheduleTimer
  /-- The purge timer fires. -/
  | expire
  | elapse (duration : Time)
  deriving DecidableEq, Repr

structure Monitoring where
  now : Time
  list : NeighborList
  purges : List PurgeCall

namespace Monitoring

def purged (state : Monitoring) (list : NeighborList) : Monitoring :=
  { state with list := (list.purge state.now).1, purges := state.purges ++ [(list.purge state.now).2] }

def next (state : Monitoring) : NeighborCall → Option Monitoring
  | .update addr expire hardware =>
      if addr ∈ state.list.nb.addresses then
        some { state with list := state.list.extend state.now addr expire hardware }
      else some (state.purged (state.list.push state.now addr expire hardware))
  | .purge | .isNeighbor _ | .getExpireTime _ => some (state.purged state.list)
  | .processTxError hardware => some (state.purged (state.list.closeMatching hardware))
  | .scheduleTimer => some { state with list :=
      { state.list with ntimer := some (state.now + state.list.delay) } }
  | .expire =>
      match state.list.ntimer with
      -- the timer is idle when it calls `Purge`
      | some due =>
          if due ≤ state.now then some (state.purged { state.list with ntimer := none })
          else none
      | none => none
  | .elapse duration =>
      -- a timer that is due fires before the clock goes on
      if ∀ due ∈ state.list.ntimer, state.now + duration ≤ due then
        some { state with now := state.now + duration } else none

def start (delay : Time) : Monitoring := ⟨0, ⟨[], delay, none⟩, []⟩

end Monitoring

/-! ## `Purge` -/

/-- What is expired or closed is reported once, while it is in the list, and removed; the rest is
neither. -/
structure PurgeCall.Sound (call : PurgeCall) : Prop where
  kept : call.after.Sublist call.before
  current : ∀ neighbor ∈ call.after, call.now ≤ neighbor.expireTime ∧ neighbor.close = false
  reported : ∀ neighbor ∈ call.before, neighbor ∉ call.after →
    (call.reports.map Prod.fst).count neighbor.neighborAddress = 1 ∧
      ∀ report ∈ call.reports, report.1 = neighbor.neighborAddress → neighbor ∈ report.2
  spared : ∀ neighbor ∈ call.after, ∀ report ∈ call.reports, report.1 ≠ neighbor.neighborAddress

theorem Neighbor.closed_eq_false {now : Time} {neighbor : Neighbor} :
    neighbor.closed now = false ↔ now ≤ neighbor.expireTime ∧ neighbor.close = false := by
  simp [closed]

namespace NeighborList
variable {list : NeighborList} {now : Time}

theorem purge_nb : (list.purge now).1.nb = list.nb.filter fun neighbor => !neighbor.closed now := by
  unfold purge
  split
  · rename_i empty
    rw [List.isEmpty_iff.mp empty, List.filter_nil]
  · rfl

theorem purge_after : (list.purge now).2.after = (list.purge now).1.nb := by
  unfold purge
  split <;> rfl

theorem purge_reports : (list.purge now).2.reports =
    (list.nb.filter (·.closed now)).map fun neighbor => (neighbor.neighborAddress, list.nb) := by
  unfold purge
  split
  · rename_i empty
    rw [List.isEmpty_iff.mp empty, List.filter_nil, List.map_nil]
  · rfl

theorem purge_node (node : Node) (same : list.nb = node.nb) (clock : now = node.now) :
    (list.purge now).1.nb = node.dropClosed.nb ∧ (list.purge now).2.reports.map Prod.fst =
      node.lost := by
  rw [purge_nb, purge_reports, same, clock, List.map_map]
  exact ⟨rfl, rfl⟩

theorem isNeighbor_iff {addr : Ipv4Address} : list.isNeighbor now addr = true ↔
    ∃ neighbor ∈ list.nb, neighbor.neighborAddress = addr ∧ neighbor.closed now = false := by
  unfold isNeighbor
  rw [decide_eq_true_eq, purge_nb]
  simp only [Neighbors.addresses, List.mem_map, List.mem_filter, Bool.not_eq_true']
  constructor
  · rintro ⟨neighbor, ⟨listed, current⟩, same⟩
    exact ⟨neighbor, listed, same, current⟩
  · rintro ⟨neighbor, listed, same, current⟩
    exact ⟨neighbor, ⟨listed, current⟩, same⟩

theorem eq_of_neighborAddress {nb : Neighbors} (distinct : nb.addresses.Nodup)
    {first second : Neighbor} (here : first ∈ nb) (there : second ∈ nb)
    (same : first.neighborAddress = second.neighborAddress) : first = second :=
  List.inj_on_of_nodup_map distinct here there same

theorem purge_sound (distinct : list.nb.addresses.Nodup) : (list.purge now).2.Sound := by
  have before : (list.purge now).2.before = list.nb := by
    unfold purge
    split <;> rfl
  have clock : (list.purge now).2.now = now := by
    unfold purge
    split <;> rfl
  constructor
  · rw [purge_after, purge_nb, before]
    exact List.filter_sublist
  · intro neighbor member
    rw [purge_after, purge_nb, List.mem_filter, Bool.not_eq_true'] at member
    rw [clock]
    exact Neighbor.closed_eq_false.mp member.2
  · intro neighbor listed gone
    rw [before] at listed
    rw [purge_after, purge_nb, List.mem_filter, not_and, Bool.not_eq_true', Bool.not_eq_false]
      at gone
    rw [purge_reports]
    constructor
    · apply List.count_eq_one_of_mem
      · rw [List.map_map]
        exact distinct.sublist (List.filter_sublist.map _)
      · rw [List.map_map]
        exact List.mem_map.mpr ⟨neighbor, List.mem_filter.mpr ⟨listed, gone listed⟩, rfl⟩
    · intro report member _
      obtain ⟨other, _, rfl⟩ := List.mem_map.mp member
      exact listed
  · intro neighbor stays report member same
    rw [purge_after, purge_nb, List.mem_filter, Bool.not_eq_true'] at stays
    rw [purge_reports] at member
    obtain ⟨other, lost, rfl⟩ := List.mem_map.mp member
    obtain ⟨listed, closed⟩ := List.mem_filter.mp lost
    obtain rfl := eq_of_neighborAddress distinct listed stays.1 same
    rw [stays.2] at closed
    cases closed

theorem purge_ntimer (pending : list.nb ≠ []) :
    (list.purge now).1.ntimer = some (now + list.delay) := by
  unfold purge
  rw [if_neg (by simpa using pending)]

theorem purge_idle (empty : list.nb = []) : (list.purge now).1 = list := by
  unfold purge
  rw [if_pos (by simp [empty])]

theorem purge_delay : (list.purge now).1.delay = list.delay := by
  unfold purge
  split <;> rfl

end NeighborList

/-! ## What holds in every run -/

namespace Monitoring
variable {state after : Monitoring} {call : NeighborCall}

structure Monitored (state : Monitoring) : Prop where
  distinct : state.list.nb.addresses.Nodup
  sound : ∀ call ∈ state.purges, call.Sound
  pending : state.list.nb ≠ [] → ∃ due, state.list.ntimer = some due
  timely : ∀ due, state.list.ntimer = some due → state.now ≤ due ∧
    due ≤ state.now + state.list.delay

theorem Monitored.purged {list : NeighborList} (monitored : state.Monitored) (distinct : list.nb.addresses.Nodup)
    (timely : ∀ due, list.ntimer = some due → state.now ≤ due ∧ due ≤ state.now + list.delay) :
    (state.purged list).Monitored where
  distinct := by
    show (list.purge state.now).1.nb.addresses.Nodup
    rw [NeighborList.purge_nb]
    exact distinct.sublist (List.filter_sublist.map _)
  sound call member := by
    rcases List.mem_append.mp member with earlier | last
    · exact monitored.sound call earlier
    · rw [List.mem_singleton.mp last]
      exact NeighborList.purge_sound distinct
  pending listed := by
    have found : list.nb ≠ [] := by
      intro empty
      change (list.purge state.now).1.nb ≠ [] at listed
      rw [NeighborList.purge_nb, empty] at listed
      exact listed List.filter_nil
    exact ⟨_, NeighborList.purge_ntimer found⟩
  timely due set := by
    change (list.purge state.now).1.ntimer = some due at set
    show state.now ≤ due ∧ due ≤ state.now + (list.purge state.now).1.delay
    rw [NeighborList.purge_delay]
    by_cases empty : list.nb = []
    · rw [NeighborList.purge_idle empty] at set
      exact timely due set
    · rw [NeighborList.purge_ntimer empty] at set
      obtain rfl := Option.some.inj set
      exact ⟨Nat.le_add_right _ _, le_rfl⟩

theorem Monitored.next (monitored : state.Monitored)
    (taken : state.next call = some after) : after.Monitored := by
  cases call with
  | update addr expire hardware =>
      simp only [Monitoring.next] at taken
      split at taken
      · obtain rfl := Option.some.inj taken
        have addresses : (state.list.extend state.now addr expire hardware).nb.addresses =
            state.list.nb.addresses :=
          Neighbors.addresses_extend _ _ _ _ _
        refine ⟨?_, monitored.sound, fun listed => monitored.pending fun empty => listed ?_,
          monitored.timely⟩
        · exact addresses ▸ monitored.distinct
        · rw [empty] at addresses
          exact List.map_eq_nil_iff.mp addresses
      · rename_i absent
        obtain rfl := Option.some.inj taken
        refine monitored.purged ?_ monitored.timely
        rw [NeighborList.push, Neighbors.addresses_append]
        simpa using monitored.distinct.concat absent
  | purge | isNeighbor _ | getExpireTime _ =>
      obtain rfl := Option.some.inj taken
      exact monitored.purged monitored.distinct monitored.timely
  | processTxError hardware =>
      obtain rfl := Option.some.inj taken
      refine monitored.purged ?_ monitored.timely
      rw [NeighborList.closeMatching, Neighbors.addresses_closeMatching]
      exact monitored.distinct
  | scheduleTimer =>
      obtain rfl := Option.some.inj taken
      refine ⟨monitored.distinct, monitored.sound, fun _ => ⟨_, rfl⟩, fun due set => ?_⟩
      obtain rfl := Option.some.inj set
      exact ⟨Nat.le_add_right _ _, le_rfl⟩
  | expire =>
      simp only [Monitoring.next] at taken
      split at taken
      · split at taken
        · obtain rfl := Option.some.inj taken
          exact monitored.purged monitored.distinct fun _ set => nomatch set
        · cases taken
      · cases taken
  | elapse duration =>
      simp only [Monitoring.next] at taken
      split at taken
      · rename_i allowed
        obtain rfl := Option.some.inj taken
        refine ⟨monitored.distinct, monitored.sound, monitored.pending,
          fun due set => ⟨allowed due set, ?_⟩⟩
        have bound := (monitored.timely due set).2
        exact bound.trans (Nat.add_le_add_right (Nat.le_add_right _ _) _)
      · cases taken

/-! ## What a call does to the entries -/

/-- An entry of the later list is one of the earlier list that expires no earlier, or has an address
of its own. -/
def Prolongs (nb later : Neighbors) : Prop :=
  ∀ entry ∈ later, (∃ old ∈ nb, old.neighborAddress = entry.neighborAddress ∧
    old.expireTime ≤ entry.expireTime) ∨
    entry.neighborAddress ∉ nb.addresses

theorem prolongs_extend (now : Time) (addr : Ipv4Address) (expire : Time) (hardware : Mac48Address)
    (nb : Neighbors) :
    Prolongs nb (nb.extend now addr expire hardware) := by
  suffices found : ∀ entry ∈ nb.extend now addr expire hardware, ∃ old ∈ nb,
      old.neighborAddress = entry.neighborAddress ∧ old.expireTime ≤ entry.expireTime from
    fun entry member => .inl (found entry member)
  induction nb with
  | nil => intro entry member; cases member
  | cons neighbor rest ih =>
      intro entry member
      unfold Neighbors.extend at member
      split at member
      · rcases List.mem_cons.mp member with rfl | later
        · exact ⟨neighbor, List.mem_cons_self, rfl, le_max_right _ _⟩
        · exact ⟨entry, List.mem_cons_of_mem _ later, rfl, le_rfl⟩
      · rcases List.mem_cons.mp member with rfl | later
        · exact ⟨entry, List.mem_cons_self, rfl, le_rfl⟩
        · obtain ⟨old, listed, same⟩ := ih entry later
          exact ⟨old, List.mem_cons_of_mem _ listed, same⟩

theorem prolongs_closeMatching (hardware : Mac48Address) (nb : Neighbors) :
    Prolongs nb (nb.closeMatching hardware) := by
  intro entry member
  obtain ⟨old, listed, rfl⟩ := List.mem_map.mp member
  refine .inl ⟨old, listed, ?_⟩
  split <;> exact ⟨rfl, le_rfl⟩

theorem prolongs_push {addr : Ipv4Address} {nb : Neighbors} (absent : addr ∉ nb.addresses)
    (hardware : Mac48Address) (time : Time) :
    Prolongs nb (nb ++ [⟨addr, hardware, time, false⟩]) := by
  intro entry member
  rcases List.mem_append.mp member with old | new
  · exact .inl ⟨entry, old, rfl, le_rfl⟩
  · obtain rfl := List.mem_singleton.mp new
    exact .inr absent

theorem prolongs_purged {list : NeighborList} (prolongs : Prolongs state.list.nb list.nb) :
    Prolongs state.list.nb (state.purged list).list.nb := by
  intro entry member
  change entry ∈ (list.purge state.now).1.nb at member
  rw [NeighborList.purge_nb] at member
  exact prolongs entry (List.mem_of_mem_filter member)

/-- Entries leave the list only in a call of `Purge`, which finds all of them. -/
def LosesByPurge (state after : Monitoring) : Prop :=
  (after.purges = state.purges ∧ after.list.nb.addresses = state.list.nb.addresses) ∨
    ∃ purge, after.purges = state.purges ++ [purge] ∧ purge.now = after.now ∧
      purge.after = after.list.nb ∧
      state.list.nb.addresses.Sublist purge.before.addresses

theorem losesByPurge_purged {list : NeighborList} (found : state.list.nb.addresses.Sublist list.nb.addresses) :
    state.LosesByPurge (state.purged list) := by
  refine .inr ⟨_, rfl, ?_, NeighborList.purge_after, ?_⟩
  · unfold purged NeighborList.purge
    split <;> rfl
  · unfold NeighborList.purge
    split <;> exact found

theorem losesByPurge_next (taken : state.next call = some after) :
    state.LosesByPurge after ∧ Prolongs state.list.nb after.list.nb := by
  have refl : Prolongs state.list.nb state.list.nb := fun entry member =>
    .inl ⟨entry, member, rfl, le_rfl⟩
  cases call with
  | update addr expire hardware =>
      simp only [next] at taken
      split at taken
      · obtain rfl := Option.some.inj taken
        exact ⟨.inl ⟨rfl, Neighbors.addresses_extend _ _ _ _ _⟩, prolongs_extend _ _ _ _ _⟩
      · rename_i absent
        obtain rfl := Option.some.inj taken
        refine ⟨losesByPurge_purged ?_, prolongs_purged (prolongs_push absent _ _)⟩
        rw [NeighborList.push, Neighbors.addresses_append]
        exact List.sublist_append_left _ _
  | purge | isNeighbor _ | getExpireTime _ =>
      obtain rfl := Option.some.inj taken
      exact ⟨losesByPurge_purged (List.Sublist.refl _), prolongs_purged refl⟩
  | processTxError hardware =>
      obtain rfl := Option.some.inj taken
      refine ⟨losesByPurge_purged ?_, prolongs_purged (prolongs_closeMatching hardware _)⟩
      rw [NeighborList.closeMatching, Neighbors.addresses_closeMatching]
  | scheduleTimer =>
      obtain rfl := Option.some.inj taken
      exact ⟨.inl ⟨rfl, rfl⟩, refl⟩
  | expire =>
      simp only [next] at taken
      split at taken
      · split at taken
        · obtain rfl := Option.some.inj taken
          exact ⟨losesByPurge_purged (List.Sublist.refl _), prolongs_purged refl⟩
        · cases taken
      · cases taken
  | elapse duration =>
      simp only [next] at taken
      split at taken
      · obtain rfl := Option.some.inj taken
        exact ⟨.inl ⟨rfl, rfl⟩, refl⟩
      · cases taken

theorem monitored_start (delay : Time) : (start delay).Monitored where
  distinct := List.nodup_nil
  sound := by
    intro purge member
    cases member
  pending := fun listed => absurd rfl listed
  timely := by
    intro due set
    cases set

/-- In every run the addresses are distinct, every `Purge` reports and removes what is expired or
closed, the timer is pending while there is an entry, entries leave by `Purge` only, and none comes
to expire earlier. -/
theorem monitored_of_reach {delay : Time}
    (reach : Reach next (fun _ _ => True) (start delay) state) :
    state.list.nb.addresses.Nodup ∧ (∀ purge ∈ state.purges, purge.Sound) ∧
    (state.list.nb ≠ [] → ∃ due, state.list.ntimer = some due ∧ state.now ≤ due ∧
      due ≤ state.now + state.list.delay) ∧
    ∀ call after, state.next call = some after → state.LosesByPurge after ∧
      ∀ entry ∈ state.list.nb, ∀ later ∈ after.list.nb, later.neighborAddress =
        entry.neighborAddress →
        entry.expireTime ≤ later.expireTime := by
  have monitored : state.Monitored := by
    apply reach.invariant (P := Monitored) (monitored_start delay)
    intro before call after monitored _ taken
    exact monitored.next taken
  refine ⟨monitored.distinct, monitored.sound, fun listed => ?_, fun call after taken => ?_⟩
  · obtain ⟨due, set⟩ := monitored.pending listed
    exact ⟨due, set, monitored.timely due set⟩
  · obtain ⟨loses, prolongs⟩ := losesByPurge_next taken
    refine ⟨loses, fun entry listed later there same => ?_⟩
    rcases prolongs later there with ⟨old, known, address, bound⟩ | fresh
    · rwa [← NeighborList.eq_of_neighborAddress monitored.distinct known listed
        (address.trans same)]
    · exact absurd (same ▸ List.mem_map_of_mem listed) fresh

theorem monitored_of_reach_twoNeighbors : ∃ state, Reach next (fun _ _ => True) (start 1000) state ∧
    (state.list.nb.addresses = [0x0a010204#32] ∧ (state.purges.map fun purge => purge.reports.map Prod.fst) =
      [[], [], [0x0a010202#32], [0x0a010203#32], []]) ∧ state.list.nb.addresses.Nodup := by
  -- 10.1.2.2 is closed and 10.1.2.3 expires, the timer fires, and 10.1.2.4 comes into the list that
  -- is empty
  obtain ⟨state, reach, checked⟩ := exists_reach_of_follow next (fun _ _ => True) (start 1000)
    [.update 0x0a010202#32 900 7, .update 0x0a010203#32 900 8, .processTxError 7, .elapse 1000, .expire,
      .update 0x0a010204#32 900 9]
    (fun state => state.list.nb.addresses = [0x0a010204#32] &&
      (state.purges.map fun purge => purge.reports.map Prod.fst) =
      [[], [], [0x0a010202#32], [0x0a010203#32], []]) (by decide +kernel)
  exact ⟨state, reach, by simpa using checked, (monitored_of_reach reach).1⟩

end Monitoring

end Bsdvr
