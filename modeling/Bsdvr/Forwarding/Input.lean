import Bsdvr.Model.Forwarding
import Bsdvr.Queues.Eviction
import Bsdvr.Runs.Sockets

namespace Bsdvr
open Foundation

namespace Forwarding

/-! ## What becomes of a packet -/

def Delivered (datagram : Datagram) (calls : List Invocation) : Prop :=
  ∃ iif, .lcb datagram.packet datagram.header iif ∈ calls

def PassedOn (datagram : Datagram) (calls : List Invocation) : Prop :=
  ∃ route, .ucb ⟨route, datagram.packet, datagram.header⟩ ∈ calls

def Reported (datagram : Datagram) (calls : List Invocation) : Prop :=
  .ecb datagram.packet datagram.header ∈ calls

def IsBroadcast (node : Node) (dst : Ipv4Address) : Prop :=
  dst = 0xffffffff#32 ∨ ∃ entry ∈ node.socketAddresses, dst = entry.2.broadcast

structure Accounted (node : Node) (datagram : Datagram) (queue : BsdvrQueue) (returned : Bool)
    (calls : List Invocation) (after : BsdvrQueue) : Prop where
  refused : returned = false → calls = [] ∧ after = queue
  taken : returned = true → isMyOwnAddress node datagram.header.source = true ∨
    Delivered datagram calls ∨
    PassedOn datagram calls ∨ Reported datagram calls ∨ datagram.key ∈
    after.queue.map QueueEntry.key
  notBoth : ¬(Delivered datagram calls ∧ Reported datagram calls)
  broadcast : Delivered datagram calls → PassedOn datagram calls →
    IsBroadcast node datagram.header.destination

/-- A packet from elsewhere comes back from the loopback device, the queue is full and has no copy
of it, and `DropPolicy` recognizes the status of no entry. -/
structure Overflows (node : Node) (queue : BsdvrQueue) (memory : Memory) (datagram : Datagram)
    (idev : NetDevice) : Prop where
  up : node.socketAddresses ≠ []
  attached : node.interfaces ≠ []
  loopback : idev = 0
  tagged : datagram.packet.tag.isSome
  elsewhere : isMyOwnAddress node datagram.header.source = false
  new : datagram.key ∉ queue.queue.map QueueEntry.key
  full : queue.queue.length = queue.maxLen.toNat
  unrecognized : ∀ i entry, queue.queue[i]? = some entry → ∀ status, entry.status ≠ memory i status

variable {node : Node} {ipv4 : Ipv4} {enableBroadcast : Bool} {queue after : BsdvrQueue}
  {memory : Memory} {datagram : Datagram} {idev : NetDevice} {callbacks : Callbacks}
  {calls : List Invocation} {returned : Bool}

/-! ## The exits -/

theorem Accounted.refuses : Accounted node datagram queue false [] queue where
  refused _ := ⟨rfl, rfl⟩
  taken := Bool.noConfusion
  notBoth both := List.not_mem_nil both.2
  broadcast := fun ⟨_, delivered⟩ => absurd delivered List.not_mem_nil

theorem accounted_quiet
    (kept : isMyOwnAddress node datagram.header.source = true ∨
      datagram.key ∈ after.queue.map QueueEntry.key) :
    Accounted node datagram queue true [] after where
  refused := Bool.noConfusion
  taken _ := kept.imp_right fun member => .inr (.inr (.inr member))
  notBoth both := List.not_mem_nil both.2
  broadcast := fun ⟨_, delivered⟩ => absurd delivered List.not_mem_nil

theorem deliver_eq_some {iif : Nat} (delivers : callbacks.deliver datagram iif = some calls) :
    calls = [.lcb datagram.packet datagram.header iif] ∨ calls =
      [.ecb datagram.packet datagram.header] := by
  unfold Callbacks.deliver Callbacks.error at delivers
  split at delivers
  · exact .inl (Option.some.inj delivers).symm
  · split at delivers
    · exact .inr (Option.some.inj delivers).symm
    · cases delivers

theorem error_eq_some (errs : callbacks.error datagram = some calls) :
    calls = [.ecb datagram.packet datagram.header] := by
  unfold Callbacks.error at errs
  split at errs
  · exact (Option.some.inj errs).symm
  · cases errs

theorem forward_eq_some {route : Ipv4Route}
    (forwards : callbacks.forward route datagram = some calls) :
    calls = [.ucb ⟨route, datagram.packet, datagram.header⟩] := by
  unfold Callbacks.forward at forwards
  split at forwards
  · exact (Option.some.inj forwards).symm
  · cases forwards

theorem accounted_reported :
    Accounted node datagram queue true [.ecb datagram.packet datagram.header] queue :=
  ⟨Bool.noConfusion, fun _ => .inr (.inr (.inr (.inl (List.mem_singleton_self _)))),
    by simp [Delivered], by simp [Delivered]⟩

theorem accounted_deliver {iif : Nat} (delivers : callbacks.deliver datagram iif = some calls) :
    Accounted node datagram queue true calls queue := by
  rcases deliver_eq_some delivers with rfl | rfl
  · exact ⟨Bool.noConfusion, fun _ => .inr (.inl ⟨iif, List.mem_singleton_self _⟩),
      by simp [Reported], by simp [PassedOn]⟩
  · exact accounted_reported

theorem accounted_forwarding
    (forwards : forwarding node datagram callbacks = some (returned, calls)) :
    Accounted node datagram queue returned calls queue := by
  unfold forwarding at forwards
  split at forwards
  · obtain ⟨called, passed, same⟩ := Option.map_eq_some_iff.mp forwards
    obtain ⟨rfl, rfl⟩ := Prod.mk.inj same
    obtain rfl := forward_eq_some passed
    exact ⟨Bool.noConfusion, fun _ => .inr (.inr (.inl ⟨_, List.mem_singleton_self _⟩)),
      by simp [Delivered],
      by simp [Delivered]⟩
  · obtain ⟨rfl, rfl⟩ := Prod.mk.inj (Option.some.inj forwards)
    exact .refuses

theorem routeBroadcast_eq_some {iif : Nat}
    (routed : routeBroadcast node enableBroadcast datagram iif callbacks = some calls) :
    ∃ delivered, callbacks.deliver datagram iif = some delivered ∧
      (calls = delivered ∨ ∃ route, calls = delivered ++
        [.ucb ⟨route, datagram.packet, datagram.header⟩]) := by
  obtain ⟨delivered, delivers, routed⟩ := Option.bind_eq_some_iff.mp routed
  refine ⟨delivered, delivers, ?_⟩
  split at routed
  · exact .inl (Option.some.inj routed).symm
  · split at routed
    · exact .inl (Option.some.inj routed).symm
    · split at routed
      · split at routed
        · obtain ⟨called, passed, rfl⟩ := Option.map_eq_some_iff.mp routed
          rw [forward_eq_some passed]
          exact .inr ⟨_, rfl⟩
        · exact .inl (Option.some.inj routed).symm
      · exact .inl (Option.some.inj routed).symm

theorem isBroadcast_of_receives {dst : Ipv4Address} {iif : Nat}
    (receives : receivesBroadcast node dst iif = true) :
    IsBroadcast node dst := by
  obtain ⟨entry, member, test⟩ := List.any_eq_true.mp receives
  simp only [Bool.and_eq_true, Bool.or_eq_true, decide_eq_true_eq] at test
  exact test.2.elim (fun same => .inr ⟨entry, member, same⟩) .inl

theorem accounted_broadcast {iif : Nat}
    (receives : receivesBroadcast node datagram.header.destination iif = true)
    (routed : routeBroadcast node enableBroadcast datagram iif callbacks = some calls) :
    Accounted node datagram queue true calls queue := by
  obtain ⟨delivered, delivers, rest⟩ := routeBroadcast_eq_some routed
  have whole := @accounted_deliver node queue _ _ _ _ delivers
  rcases rest with rfl | ⟨route, rfl⟩
  · exact whole
  · refine ⟨Bool.noConfusion, fun _ => .inr (.inr (.inl ⟨route, by simp⟩)), ?_,
      fun _ _ => isBroadcast_of_receives receives⟩
    intro both
    apply whole.notBoth
    simpa [Delivered, Reported] using both

theorem mem_deferredRouteOutput_iff (queue : BsdvrQueue) (datagram : Datagram) :
    datagram.key ∈ (queue.deferredRouteOutput memory datagram.packet datagram.header).2.queue.map
      QueueEntry.key ↔
      ¬(datagram.key ∉ queue.queue.map QueueEntry.key ∧ queue.queue.length = queue.maxLen.toNat ∧
        ∀ i entry, queue.queue[i]? = some entry → ∀ status, entry.status ≠ memory i status) :=
  BsdvrQueue.mem_enqueue_iff queue _

/-! ## Every exit -/

theorem accounted_of_routeInput (room : ¬Overflows node queue memory datagram idev)
    (routed : routeInput node ipv4 enableBroadcast queue memory datagram idev callbacks =
      some (returned, calls, after)) :
    Accounted node datagram queue returned calls after := by
  unfold routeInput at routed
  simp only at routed
  split at routed
  · cases routed
    exact .refuses
  rename_i up
  split at routed
  · cases routed
  rename_i device
  split at routed
  · rename_i looped
    cases routed
    refine accounted_quiet ?_
    by_contra lost
    rw [not_or, Bool.not_eq_true] at lost
    obtain ⟨new, full, unrecognized⟩ :=
      not_not.mp (mt (mem_deferredRouteOutput_iff queue datagram).mpr lost.2)
    refine room ⟨by simpa using up, ?_, looped.1, looped.2, lost.1, new, full, unrecognized⟩
    rintro detached
    exact device (by simp [detached])
  split at routed
  · rename_i own
    cases routed
    exact accounted_quiet (.inl own)
  split at routed
  · cases routed
    exact .refuses
  split at routed
  · rename_i receives
    obtain ⟨called, broadcast, same⟩ := Option.map_eq_some_iff.mp routed
    cases same
    exact accounted_broadcast receives broadcast
  split at routed
  · obtain ⟨called, delivers, same⟩ := Option.map_eq_some_iff.mp routed
    cases same
    exact accounted_deliver delivers
  split at routed
  · obtain ⟨called, errs, same⟩ := Option.map_eq_some_iff.mp routed
    cases same
    obtain rfl := error_eq_some errs
    exact accounted_reported
  · obtain ⟨⟨passed, called⟩, forwards, same⟩ := Option.map_eq_some_iff.mp routed
    cases same
    exact accounted_forwarding forwards

theorem routeInput_of_overflows (overflows : Overflows node queue memory datagram idev) :
    routeInput node ipv4 enableBroadcast queue memory datagram idev callbacks =
      some (true, [], (queue.deferredRouteOutput memory datagram.packet datagram.header).2) := by
  obtain ⟨up, attached, rfl, tagged, _⟩ := overflows
  unfold routeInput
  simp [up, attached, tagged]

theorem not_accounted_of_overflows (overflows : Overflows node queue memory datagram idev) :
    ¬Accounted node datagram queue true []
    (queue.deferredRouteOutput memory datagram.packet datagram.header).2 := by
  intro accounted
  have lost := accounted.taken rfl
  rw [overflows.elsewhere, mem_deferredRouteOutput_iff] at lost
  rcases lost with own | ⟨iif, delivered⟩ | ⟨route, passed⟩ | reported | room
  · cases own
  · cases delivered
  · cases passed
  · cases reported
  · exact room ⟨overflows.new, overflows.full, overflows.unrecognized⟩

theorem deliver_isSome (errs : callbacks.ecb = true) (iif : Nat) :
    (callbacks.deliver datagram iif).isSome := by
  unfold Callbacks.deliver Callbacks.error
  rw [if_pos errs]
  split
  · rfl
  · rfl

theorem routeInput_isSome (device : idev < node.interfaces.length) (forwards : callbacks.ucb = true)
    (errs : callbacks.ecb = true) :
    (routeInput node ipv4 enableBroadcast queue memory datagram idev callbacks).isSome := by
  have forward (route : Ipv4Route) : (callbacks.forward route datagram).isSome := by
    simp [Callbacks.forward, forwards]
  have error : (callbacks.error datagram).isSome := by simp [Callbacks.error, errs]
  have broadcast : (routeBroadcast node enableBroadcast datagram idev callbacks).isSome := by
    obtain ⟨delivered, delivers⟩ :=
      Option.isSome_iff_exists.mp (@deliver_isSome datagram callbacks errs idev)
    unfold routeBroadcast
    rw [delivers, Option.bind_some]
    split
    · rfl
    · split
      · rfl
      · split
        · split
          · rw [Option.isSome_map]
            exact forward _
          · rfl
        · rfl
  have routes : (forwarding node datagram callbacks).isSome := by
    unfold forwarding
    split
    · rw [Option.isSome_map]
      exact forward _
    · rfl
  unfold routeInput
  simp only [not_le.mpr device, if_false]
  split
  · rfl
  split
  · rfl
  split
  · rfl
  split
  · rfl
  split
  · rwa [Option.isSome_map]
  split
  · rw [Option.isSome_map]
    exact deliver_isSome errs idev
  split
  · rwa [Option.isSome_map]
  · rwa [Option.isSome_map]

/-- A packet is lost without a word only where the queue overflows. -/
theorem routeInput_accounted_iff (node : Node) (ipv4 : Ipv4) (enableBroadcast : Bool)
    (queue : BsdvrQueue) (memory : Memory) (datagram : Datagram) (idev : NetDevice)
    (callbacks : Callbacks) :
    ((∀ returned calls after,
      routeInput node ipv4 enableBroadcast queue memory datagram idev callbacks =
        some (returned, calls, after) →
        Accounted node datagram queue returned calls after) ↔
        ¬Overflows node queue memory datagram idev) ∧
    (idev < node.interfaces.length → callbacks.ucb = true → callbacks.ecb = true →
      (routeInput node ipv4 enableBroadcast queue memory datagram idev callbacks).isSome) := by
  constructor
  · constructor
    · intro accounted overflows
      exact not_accounted_of_overflows overflows
        (accounted _ _ _ (routeInput_of_overflows overflows))
    · intro room returned calls after routed
      exact accounted_of_routeInput room routed
  · exact routeInput_isSome

theorem not_accounted_noRoom : ∃ state, Reach Node.next (fun _ _ => True) Node.twoInterfaces state ∧
    ∃ (queue : BsdvrQueue) (datagram : Datagram) (returned : Bool) (calls : List Invocation)
    (after : BsdvrQueue),
      routeInput state ⟨fun _ _ => false, fun _ => true⟩ true queue Serving.kept datagram 0
        ⟨true, true, true⟩ =
        some (returned, calls, after) ∧ ¬Accounted state datagram queue returned calls after := by
  -- no packet may be buffered, and one whose source is not an address of the node comes back
  let datagram : Datagram := ⟨⟨1, some (-1)⟩, ⟨0x0a010901#32, 0x0a010209#32, 64⟩, udpProtocol, 9⟩
  obtain ⟨state, reach, checked⟩ := exists_reach_of_follow Node.next
    (fun _ _ => True) Node.twoInterfaces [.interfaceUp 1]
    (fun state => decide (state.socketAddresses ≠ []) && decide (state.interfaces ≠ []) &&
      !isMyOwnAddress state datagram.header.source) (by decide +kernel)
  simp only [Bool.and_eq_true, decide_eq_true_eq, Bool.not_eq_true'] at checked
  obtain ⟨⟨up, attached⟩, elsewhere⟩ := checked
  have overflows : Overflows state ⟨[], 0⟩ Serving.kept datagram 0 :=
    ⟨up, attached, rfl, rfl, elsewhere, by simp, rfl, by simp⟩
  exact ⟨state, reach, ⟨[], 0⟩, datagram, true, [], _, routeInput_of_overflows overflows,
    not_accounted_of_overflows overflows⟩

end Forwarding

end Bsdvr
