import Bsdvr.Runs.Sockets

namespace Bsdvr
open Foundation

namespace Node
variable {node : Node} {event : Event}

/-! ## Hop counts of entries -/

/-- The 8-bit local of `RecvUpdate` holds the successor of the hop count it reads. -/
def Event.Counts : Event → Prop
  | .recv _ _ (.update header) _ => header.hopCount < 255
  | _ => True

instance (event : Event) : Decidable event.Counts :=
  match event with
  | .recv _ _ (.update header) _ => inferInstanceAs (Decidable (header.hopCount < 255))
  | .recv _ _ (.hello _) _ | .purge | .txError _ | .interfaceUp _ | .interfaceDown _ | .elapse _ =>
      instDecidableTrue

def counted : Contract where
  forwarding _ entry := 1 ≤ entry.hops
  stored _ _ route := 1 ≤ route.hops
  known _ := False

theorem counted_closed (neighbors : List Ipv4Address) : counted.Closed neighbors where
  adopt _ _ _ _ stored := stored
  refresh _ _ _ _ stored _ := stored
  retire _ _ good _ _ := good

theorem counted_admits (origin receiver : Ipv4Address) : counted.Admits node origin receiver where
  heard _ _ := BitVec.le_refl 1#32
  forwarding toNeighbor _ dst entry good := by
    obtain ⟨outputDevice, frame⟩ := node.rewritten_frame receiver toNeighbor entry
    rwa [frame]
  stored toNeighbor _ neighbor dst entry good := by
    obtain ⟨outputDevice, frame⟩ := node.rewritten_frame receiver toNeighbor entry
    rwa [frame]
  join := BitVec.le_refl 1#32

/-- The entry for an UPDATE is one hop longer exactly where the successor fits into eight bits. -/
theorem updateEntry_hops (header : UpdateHeader) (my src : Ipv4Address)
    (below : header.hopCount.toNat < 2 ^ 32 - 1) :
    (node.updateEntry header my src).hops = header.hopCount + 1 ↔ header.hopCount < 255 := by
  have hops : (node.updateEntry header my src).hops =
      ((header.hopCount + 1).setWidth 8).setWidth 32 := rfl
  have one : (1 : BitVec 32).toNat = 1 := rfl
  have top : (255 : BitVec 32).toNat = 255 := rfl
  rw [hops, BitVec.toNat_eq, BitVec.lt_def]
  simp only [BitVec.toNat_setWidth, BitVec.toNat_add, one, top]
  omega

theorem updateEntry_positive {header : UpdateHeader} {my src : Ipv4Address}
    (short : header.hopCount < 255) :
    1 ≤ (node.updateEntry header my src).hops := by
  have one : (1 : BitVec 32).toNat = 1 := rfl
  have below : header.hopCount.toNat < 255 := short
  have hops := (@updateEntry_hops node header my src (by omega)).mpr short
  rw [hops, BitVec.le_def, BitVec.toNat_add, one]
  omega

theorem counted_handle (holds : counted.Holds node) (named : node.Named) (counts : event.Counts) :
    counted.Holds (node.handle event).1 := by
  refine (holds.handle named event ?_).holds
  cases event with
  | recv socket sender message hardware =>
      cases message with
      | hello header => exact fun _ _ _ => ⟨counted_closed _, counted_admits _ _⟩
      | update header => exact fun _ _ => ⟨counted_closed _, fun _ => updateEntry_positive counts⟩
  | purge => exact counted_closed _
  | txError hardware => exact counted_closed _
  | interfaceUp i => exact fun _ => BitVec.le_refl 1#32
  | interfaceDown i => trivial
  | elapse duration => trivial

section Run
variable {interfaces : List Ipv4InterfaceAddress} {enableHello : Bool} {helloInterval : Time}
  {maxPRQueueLen : BitVec 32} {maxPRQueueTime : Time} {state : Node}

/-- In a run whose UPDATEs are short no hop count is zero, and where `RetransmitToNeighbor` then
reads its route, in the table that `RecvUpdate` has recomputed, `c1 - l2` does not wrap; and exactly
the short UPDATEs are counted right. -/
theorem hops_positive_of_counts (reach : Reach next (fun _ event => event.Counts)
      (initial interfaces enableHello helloInterval maxPRQueueLen maxPRQueueTime) state) :
    (∀ neighbor dst route, state.dvt.entry neighbor dst = some route → 1 ≤ route.hops) ∧
    (∀ (dst : Ipv4Address) entry, state.ft[dst]? = some entry → 1 ≤ entry.hops) ∧
    (∀ (header : UpdateHeader) my src route, header.hopCount < 255 →
      (state.learned header my src).recompute.1.ft[header.dst]? = some route →
        (route.hops - 1).toNat + 1 = route.hops.toNat) ∧
    ∀ header my src, header.hopCount.toNat < 2 ^ 32 - 1 →
      ((state.updateEntry header my src).hops = header.hopCount + 1 ↔ header.hopCount < 255) := by
  have all : state.Named ∧ counted.Holds state := by
    refine reach.invariant (P := fun state => state.Named ∧ counted.Holds state)
      ⟨initial_named _ _ _ _ _, ?_⟩ ?_
    · refine ⟨fun dst entry present => ?_, fun neighbor dst route found => ?_, fun _ => False.elim⟩
      · obtain ⟨rfl, rfl⟩ := initial_ft_eq_some _ _ _ _ _ present
        exact BitVec.le_refl 1#32
      · simp [initial_dvt, DistanceVectorTable.entry] at found
    · rintro before event after ⟨named, holds⟩ counts taken
      obtain ⟨_, rfl⟩ := next_eq_some taken
      exact ⟨named.handle event, counted_handle holds named counts⟩
  refine ⟨all.2.stored, all.2.forwarding, fun header my src route short read => ?_,
    updateEntry_hops⟩
  obtain ⟨prqueue, frame, _⟩ := recvUpdate_frame state header my src
  have after : counted.Holds (state.recvUpdate header my src).1 :=
    (all.2.recvUpdate header my src (counted_closed _) fun _ => updateEntry_positive short).holds
  have positive : 1 ≤ route.hops := after.forwarding header.dst route (by rw [frame]; exact read)
  have one : (1 : BitVec 32).toNat = 1 := rfl
  rw [BitVec.toNat_sub_of_le positive, one]
  rw [BitVec.le_def, one] at positive
  omega

end Run

theorem hops_positive_of_counts_twoInterfaces :
    ∃ state, Reach next (fun _ event => event.Counts) twoInterfaces state ∧
    (state.ft[0x0a010209#32]?).map RoutingTableEntry.hops = some 255 ∧
    ∀ neighbor dst route, state.dvt.entry neighbor dst = some route → 1 ≤ route.hops := by
  obtain ⟨state, reach, checked⟩ :=
    exists_reach_of_follow next (fun _ event => event.Counts) twoInterfaces
    [.interfaceUp 1, update1 ⟨0x0a010202#32, 0x0a010209#32, 254, 1⟩, hello1 0x0a010202#32]
    (fun state => decide ((state.ft[0x0a010209#32]?).map RoutingTableEntry.hops = some 255))
    (by decide +kernel)
  exact ⟨state, reach, by simpa using checked, (hops_positive_of_counts reach).1⟩

theorem not_hops_positive_twoInterfaces :
    ∃ state, Reach next (fun _ _ => True) twoInterfaces state ∧
    (state.updateEntry ⟨0x0a010202#32, 0x0a010209#32, 255, 1⟩ 0x0a010201#32 0x0a010202#32).hops ≠
      255 + 1 ∧
    ¬(∀ neighbor dst route, state.dvt.entry neighbor dst = some route → 1 ≤ route.hops) := by
  -- a hop count of 255 makes an entry with hop count 0
  obtain ⟨state, reach, checked⟩ := exists_reach_of_follow next (fun _ _ => True) twoInterfaces
    [.interfaceUp 1, update1 ⟨0x0a010202#32, 0x0a010209#32, 255, 1⟩]
    (fun state => (state.dvt.entry 0x0a010202#32 0x0a010209#32).any fun route => route.hops = 0)
    (by decide +kernel)
  simp only [Option.any_eq_true, decide_eq_true_eq] at checked
  obtain ⟨route, found, zero⟩ := checked
  refine ⟨state, reach, ?_, fun positive => ?_⟩
  · show (((255#32 + 1).setWidth 8).setWidth 32 : BitVec 32) ≠ 255 + 1
    decide
  · have low := positive _ _ route found
    rw [zero] at low
    exact absurd low (by decide)

end Node

end Bsdvr
