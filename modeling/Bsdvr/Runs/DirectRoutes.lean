import Bsdvr.Runs.Support

namespace Bsdvr
open Foundation

/-- A call of `RemoveFakeRoutes` erases no direct route to a current neighbour. -/
def UpdateCall.SparesDirect (call : UpdateCall) : Prop :=
  (call.node.ft[call.rt.destination]?).isSome → ∀ m ∈ call.node.neighbors,
    (call.node.dvt.entry m m).isSome →
    ((removeFakeRoutes call.node.neighbors call.node.ft call.node.dvt call.nxtHp
      call.rt).entry m m).isSome

namespace Node
variable {node : Node} {event : Event}

/-! ## When direct routes are spared -/

/-- The forwarding table reaches `m` itself without `nxtHp`, where it has a direct route to it. -/
def Secure (node : Node) (nxtHp m : Ipv4Address) : Prop :=
  m ≠ nxtHp → (node.dvt.entry m m).isSome → ∀ entry ∈ node.ft[m]?, entry.nextHop = nxtHp →
    entry.state = .inactive

instance (nxtHp m : Ipv4Address) : Decidable (node.Secure nxtHp m) :=
  inferInstanceAs (Decidable (_ → _ → ∀ entry ∈ node.ft[m]?, _))

end Node

/-- A call spares the direct routes exactly where the destinations it takes for fake are secure. -/
theorem UpdateCall.sparesDirect_iff {call : UpdateCall} : call.SparesDirect ↔
    ((call.node.ft[call.rt.destination]?).isSome → call.rt.state = .inactive →
      ∀ m ∈ call.node.neighbors,
      (call.rt.destination = m ∨ (call.nxtHp = call.rt.destination ∧
        call.nxtHp ∈ call.node.neighbors)) →
        call.node.Secure call.nxtHp m) := by
  constructor
  · intro spares known failed m listed reason apart direct entry present through
    cases works : entry.state with
    | inactive => rfl
    | active =>
        have kept := spares known m listed direct
        rw [removeFakeRoutes_entry, if_pos] at kept
        · cases kept
        · refine ⟨listed, mem_fakeDestinations.mpr ⟨failed, reason, entry, present, works, through⟩,
            ?_⟩
          rw [Option.mem_def.mp present, Option.getD_some, through]
          exact apart
  · intro secure known m listed direct
    rw [removeFakeRoutes_entry, if_neg]
    · exact direct
    · rintro ⟨_, fake, apart⟩
      obtain ⟨failed, reason, entry, present, works, through⟩ := mem_fakeDestinations.mp fake
      rw [present, Option.getD_some, through] at apart
      have idle := secure known failed m listed reason apart direct entry present through
      rw [works] at idle
      cases idle

namespace Node
variable {node : Node} {event : Event}

/-! ## Link failures -/

/-- The failure of `ne`, later than others, finds the direct routes secure: no active entry for a
neighbour comes to route through `ne`. -/
def Shielded (node : Node) (ne m : Ipv4Address) : Prop :=
  m ≠ ne → (node.dvt.entry m m).isSome →
    (∀ entry ∈ node.ft[m]?, entry.nextHop = ne →
      entry.state = .inactive ∧ ∀ route ∈ node.dvt.entry entry.nextHop m, route.state = .inactive) ∧
    ∀ route ∈ node.dvt.entry ne m, node.Beaten m route

instance (ne m : Ipv4Address) : Decidable (node.Shielded ne m) :=
  inferInstanceAs (Decidable (_ → _ → (∀ entry ∈ node.ft[m]?, _ → _ ∧
    ∀ route ∈ node.dvt.entry entry.nextHop m, _) ∧
    ∀ route ∈ node.dvt.entry ne m, _))

def FailsSecurely (node : Node) : List Ipv4Address → Prop
  | [] => True
  | ne :: rest =>
      (filtered ne = false → ∀ neighbor ∈ node.nb, node.Secure ne neighbor.neighborAddress) ∧
        ∀ neighbor ∈ node.nb, neighbor.neighborAddress ∈ rest →
          filtered neighbor.neighborAddress = false →
          ∀ other ∈ node.nb, node.Shielded neighbor.neighborAddress other.neighborAddress

instance (failed : List Ipv4Address) : Decidable (node.FailsSecurely failed) :=
  match failed with
  | [] => instDecidableTrue
  | _ :: _ => inferInstanceAs (Decidable ((_ → ∀ neighbor ∈ node.nb, _) ∧
      ∀ neighbor ∈ node.nb, _ → _ →
      ∀ other ∈ node.nb, node.Shielded neighbor.neighborAddress other.neighborAddress))

theorem Shielded.quiet {ne m : Ipv4Address} (shielded : node.Shielded ne m) (apart : m ≠ ne)
    (direct : (node.dvt.entry m m).isSome) : node.Quiet (· ≠ ne) (fun _ => False) m where
  entry entry present := by
    by_cases through : entry.nextHop = ne
    · exact .inr (((shielded apart direct).1 entry present through).imp_left .inr)
    · exact .inl through
  beaten other route listed risky found := by
    obtain rfl := not_not.mp risky
    exact (shielded apart direct).2 route found

theorem Quiet.secure {ne m : Ipv4Address}
    (quiet : node.Quiet (· ≠ ne) (fun _ => False) m) : node.Secure ne m := by
  intro _ _ entry present through
  rcases quiet.entry entry present with safe | failed
  · exact absurd through safe
  · exact failed.1.resolve_left id

private structure Shields (start : Node) (rest : List Ipv4Address) (node : Node) : Prop where
  owned : RowsOwned node.dvt
  neighbors : node.neighbors = start.neighbors
  direct : ∀ m, (node.dvt.entry m m).isSome → (start.dvt.entry m m).isSome
  quiet : ∀ ne ∈ rest, filtered ne = false → ∀ m ∈ start.neighbors, m ≠ ne →
    (start.dvt.entry m m).isSome →
    node.Quiet (· ≠ ne) (fun _ => False) m

private theorem Shields.failed {start : Node} {rest : List Ipv4Address}
    (shields : Shields start rest node) {dvt : DistanceVectorTable} (forgets : node.Forgets dvt) :
    Shields start rest (node.setDvt dvt).recompute.1 where
  owned := forgets.owned shields.owned
  neighbors := shields.neighbors
  direct m there := by
    obtain ⟨route, found⟩ := Option.isSome_iff_exists.mp there
    exact shields.direct m (by rw [forgets.sub m m route found, Option.isSome_some])
  quiet ne later unfiltered m listed apart direct :=
    ((shields.quiet ne later unfiltered m listed apart direct).forget forgets).recompute
    (forgets.owned shields.owned)

theorem FailsSecurely.sparesDirect {failed : List Ipv4Address} (secure : node.FailsSecurely failed)
    (owned : RowsOwned node.dvt) (members : ∀ ne ∈ failed, ne ∈ node.neighbors) :
    ∀ call ∈ node.failureUpdates failed, call.SparesDirect := by
  cases failed with
  | nil =>
      intro call member
      cases member
  | cons ne rest =>
      intro call member
      rw [UpdateCall.sparesDirect_iff]
      rcases List.mem_append.mp member with now | later
      · split at now
        · cases now
        · rename_i unfiltered
          obtain ⟨entry, found, rfl⟩ := List.mem_map.mp now
          intro _ _ m listed _
          obtain ⟨neighbor, known, rfl⟩ := List.mem_map.mp listed
          exact secure.1 (by simpa using unfiltered) neighbor known
      · have start : Shields node rest node := by
          refine ⟨owned, rfl, fun _ => id, fun later among unfiltered m listed apart direct => ?_⟩
          obtain ⟨neighbor, known, rfl⟩ :=
            List.mem_map.mp (members later (List.mem_cons_of_mem _ among))
          obtain ⟨other, there, rfl⟩ := List.mem_map.mp listed
          exact (secure.2 neighbor known among unfiltered other there).quiet apart direct
        have first : Shields node rest (node.sendUpdateOnLinkFailure ne).1 := by
          rcases sendUpdateOnLinkFailure_cases node (members ne List.mem_cons_self)
            with idle | ⟨dvt, forgets, failed⟩
          · rwa [idle]
          · rw [failed]
            exact start.failed forgets
        have listed : ∀ later ∈ rest, later ∈ (node.sendUpdateOnLinkFailure ne).1.neighbors := by
          intro later among
          rw [first.neighbors]
          exact members later (List.mem_cons_of_mem _ among)
        obtain ⟨shields, _, among, unfiltered, _⟩ := failureUpdates_rule (I := Shields node rest)
          (fun node dvt shields forgets => shields.failed forgets) listed first call later
        intro _ _ m known _ apart direct
        exact (shields.quiet call.nxtHp among unfiltered m (shields.neighbors ▸ known) apart
          (shields.direct m direct)).secure apart direct

/-- The handling of an event calls `RemoveFakeRoutes` only where the direct routes it would erase
are secure. -/
def SecuresDirect (node : Node) : Event → Prop
  | .recv _ _ (.hello header) hardware =>
      header.dst = header.origin → node.enableHello = true → header.origin ∉ node.neighbors →
        (node.welcome header.origin hardware).FailsSecurely
          (node.welcome header.origin hardware).lost
  | .recv _ sender (.update header) _ => (node.ft[header.dst]?).isSome → header.binaryState ≠ 1 →
      ∀ neighbor ∈ node.nb,
        (header.dst = neighbor.neighborAddress ∨ (sender = header.dst ∧ sender ∈ node.neighbors)) →
          node.Secure sender neighbor.neighborAddress
  | .purge => node.FailsSecurely node.lost
  | .txError hardware => (node.closing hardware).FailsSecurely (node.closing hardware).lost
  | .interfaceUp _ | .interfaceDown _ | .elapse _ => True

instance (node : Node) (event : Event) : Decidable (node.SecuresDirect event) :=
  match event with
  | .recv _ _ (.hello _) _ => inferInstanceAs (Decidable (_ → _ → _ → _))
  | .recv _ _ (.update _) _ => inferInstanceAs (Decidable (_ → _ → ∀ neighbor ∈ node.nb, _ → _))
  | .purge => inferInstanceAs (Decidable (node.FailsSecurely _))
  | .txError hardware => inferInstanceAs (Decidable ((node.closing hardware).FailsSecurely _))
  | .interfaceUp _ | .interfaceDown _ | .elapse _ => instDecidableTrue

theorem SecuresDirect.spares (secures : node.SecuresDirect event) (named : node.Named) :
    ∀ call ∈ node.updates event, call.SparesDirect := by
  cases event with
  | recv socket sender message hardware =>
      cases message with
      | hello header =>
          intro call called
          simp only [updates] at called
          split at called
          · rename_i joins
            obtain ⟨_, proper, enabled, stranger⟩ := joins
            exact (secures proper enabled stranger).sparesDirect named.rowsOwned
              (fun _ => mem_lost) call called
          · cases called
      | update header =>
          intro call called
          obtain ⟨my, _, rfl⟩ := List.mem_map.mp called
          rw [UpdateCall.sparesDirect_iff]
          intro known failed m listed reason
          obtain ⟨neighbor, there, rfl⟩ := List.mem_map.mp listed
          have inactive : header.binaryState ≠ 1 := by
            intro one
            have works : (node.updateEntry header my sender).state = .active := if_pos one
            rw [works] at failed
            cases failed
          exact secures known inactive neighbor there reason
  | purge => exact secures.sparesDirect named.rowsOwned fun _ => mem_lost
  | txError hardware => exact secures.sparesDirect named.rowsOwned fun _ => mem_lost
  | interfaceUp i => simp [updates]
  | interfaceDown i => simp [updates]
  | elapse duration => simp [updates]

/-! ## Runs with the calls they make -/

structure Calling where
  node : Node
  calls : List UpdateCall

def Calling.next (state : Calling) (event : Event) : Option Calling :=
  (state.node.next event).map fun after => ⟨after, state.calls ++ state.node.updates event⟩

section Run
variable {interfaces : List Ipv4InterfaceAddress} {helloInterval : Time}
  {maxPRQueueLen : BitVec 32} {maxPRQueueTime : Time} {state : Calling}

/-- In a run that finds the direct routes secure, no call of `RemoveFakeRoutes` erases one to a
current neighbour. -/
theorem calls_spareDirect_of_securesDirect
    (reach : Reach Calling.next (fun state event => state.node.SecuresDirect event)
      ⟨initial interfaces true helloInterval maxPRQueueLen maxPRQueueTime, []⟩ state) :
    ∀ call ∈ state.calls, call.SparesDirect := by
  have all : state.node.Named ∧ ∀ call ∈ state.calls, call.SparesDirect := by
    refine reach.invariant (P := fun state => state.node.Named ∧
      ∀ call ∈ state.calls, call.SparesDirect)
      ⟨initial_named _ _ _ _ _, fun call member => absurd member List.not_mem_nil⟩ ?_
    rintro before event after ⟨named, spared⟩ secures taken
    obtain ⟨node, reached, rfl⟩ := Option.map_eq_some_iff.mp taken
    obtain ⟨_, rfl⟩ := next_eq_some reached
    exact ⟨named.handle event, List.forall_mem_append.mpr ⟨spared, secures.spares named⟩⟩
  exact all.2

end Run

def helloOf (ne : Ipv4Address) (hardware : Mac48Address) : Event :=
  .recv ⟨3, 1, 0x0a0102ff#32⟩ ne (.hello ⟨ne, ne⟩) hardware

theorem calls_spareDirect_of_securesDirect_twoInterfaces : ∃ state : Calling,
    Reach Calling.next (fun state event => state.node.SecuresDirect event)
      ⟨twoInterfaces, []⟩ state ∧
    state.calls.length = 1 ∧ ∀ call ∈ state.calls, call.SparesDirect := by
  -- 10.1.2.2 and 10.1.2.3 are heard, and the link to 10.1.2.3 fails
  obtain ⟨state, reach, checked⟩ := exists_reach_of_follow Calling.next
    (fun state event => state.node.SecuresDirect event)
    ⟨twoInterfaces, []⟩ [.interfaceUp 1, helloOf 0x0a010202#32 2,
      helloOf 0x0a010203#32 3, .txError 3]
    (fun state => state.calls.length = 1) (by decide +kernel)
  exact ⟨state, reach, by simpa using checked, calls_spareDirect_of_securesDirect reach⟩

theorem not_calls_spareDirect_twoInterfaces : ∃ state : Calling,
    Reach Calling.next (fun _ _ => True) ⟨twoInterfaces, []⟩ state ∧
    ¬∀ call ∈ state.calls, call.SparesDirect := by
  -- 10.1.2.3 tells of 10.1.2.2, which has been heard, and is heard itself: the link to it fails,
  -- and the direct route to 10.1.2.2 is erased
  obtain ⟨state, reach, checked⟩ := exists_reach_of_follow Calling.next
    (fun _ _ => True) ⟨twoInterfaces, []⟩
    [.interfaceUp 1, helloOf 0x0a010202#32 2,
      .recv ⟨2, 1, 0x0a010201#32⟩ 0x0a010203#32 (.update ⟨0x0a010203#32, 0x0a010202#32, 1, 1⟩) 3,
      helloOf 0x0a010203#32 3, .txError 3]
    (fun state => state.calls.any fun call => (call.node.ft[call.rt.destination]?).isSome &&
      (call.node.neighbors.contains 0x0a010202#32 &&
        (call.node.dvt.entry 0x0a010202#32 0x0a010202#32).isSome &&
        ((removeFakeRoutes call.node.neighbors call.node.ft call.node.dvt call.nxtHp call.rt).entry
          0x0a010202#32 0x0a010202#32).isNone)) (by decide +kernel)
  simp only [List.any_eq_true, Bool.and_eq_true, List.contains_iff_mem] at checked
  obtain ⟨call, member, known, ⟨listed, direct⟩, erased⟩ := checked
  refine ⟨state, reach, fun spared => ?_⟩
  have kept := spared call member known _ listed direct
  rw [Option.isNone_iff_eq_none.mp erased] at kept
  cases kept

end Node

end Bsdvr
