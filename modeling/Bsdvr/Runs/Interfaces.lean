import Bsdvr.Runs.Sockets

namespace Bsdvr
open Foundation

namespace Node

/-! ## The interface of a neighbour -/

def hears (node : Node) (heard : Ipv4Address → Option Ipv4InterfaceAddress) :
    Event → Ipv4Address → Option Ipv4InterfaceAddress
  | .recv socket _ (.hello header) _ =>
    match node.receiver socket with
    | some my => if header.dst = header.origin then
        Function.update heard header.origin (some (node.ifaceOf my)) else heard
    | none => heard
  | _ => heard

structure Hearing where
  node : Node
  heard : Ipv4Address → Option Ipv4InterfaceAddress

def Hearing.next (state : Hearing) (event : Event) : Option Hearing :=
  (state.node.next event).map fun after => ⟨after, state.node.hears state.heard event⟩

/-- What an event may make the node advertise to a neighbour is on the interface on which that
neighbour is heard. -/
def Hearing.AdvertisesThere (state : Hearing) (event : Event) : Prop :=
  ∀ ne ∈ state.node.audience event, ∀ pair ∈ state.node.advertisable event,
    state.node.tells event ne pair.1 →
    state.node.hears state.heard event ne = some pair.2

instance (state : Hearing) (event : Event) : Decidable (state.AdvertisesThere event) :=
  List.decidableBAll _ _

/-- An UPDATE leaves through the socket of the interface on which the neighbour was last heard, with
the address of that interface as its origin and its sender. -/
def SentThere (node : Node) (heard : Ipv4Address → Option Ipv4InterfaceAddress)
    (sent : Sent) : Prop :=
  ∃ iface ∈ heard sent.neighbor, sent.socket = node.findSocketWithInterfaceAddress iface ∧
    sent.header.origin = iface.localAddress ∧ ∀ socket ∈ sent.socket, socket.address =
      sent.header.origin

variable {start : Node} {state : Hearing} {event : Event}

theorem Hearing.reach_node (named : start.Named) (sockets : start.SocketsNamed)
    (reach : Reach Hearing.next Hearing.AdvertisesThere ⟨start, fun _ => none⟩ state) :
    state.node.Named ∧ state.node.SocketsNamed := by
  refine reach.invariant (P := fun state => state.node.Named ∧ state.node.SocketsNamed)
    ⟨named, sockets⟩ ?_
  rintro before event after ⟨named, sockets⟩ _ taken
  obtain ⟨node, reached, rfl⟩ := Option.map_eq_some_iff.mp taken
  obtain ⟨_, rfl⟩ := next_eq_some reached
  exact ⟨named.handle event, sockets.handle event⟩

section Run
variable {interfaces : List Ipv4InterfaceAddress} {enableHello : Bool} {helloInterval : Time}
  {maxPRQueueLen : BitVec 32} {maxPRQueueTime : Time}

/-- In a run that advertises routes on the interface of the neighbour only, UPDATEs leave there. -/
theorem sentThere_of_advertisesThere
    (reach : Reach Hearing.next Hearing.AdvertisesThere
      ⟨initial interfaces enableHello helloInterval maxPRQueueLen maxPRQueueTime,
        fun _ => none⟩ state)
    (advertises : state.AdvertisesThere event) :
    ∀ sent ∈ (state.node.handle event).2, state.node.SentThere
      (state.node.hears state.heard event) sent := by
  obtain ⟨named, sockets⟩ := Hearing.reach_node (initial_named _ _ _ _ _) initial_socketsNamed reach
  intro sent member
  obtain ⟨ne, entry, heard, rfl⟩ := sends_considered
    (Q := fun ne _ iface => state.node.hears state.heard event ne = some iface)
    named event advertises sent member
  refine ⟨entry.iface, heard, rfl, rfl, fun socket found => ?_⟩
  obtain ⟨pair, chosen, rfl⟩ := Option.map_eq_some_iff.mp found
  have on : pair.2 = entry.iface := by simpa using List.find?_some chosen
  rw [(sockets pair (List.mem_of_find?_eq_some chosen)).2, on]
  rfl

end Run

instance (node : Node) (heard : Ipv4Address → Option Ipv4InterfaceAddress) (sent : Sent) :
    Decidable (node.SentThere heard sent) :=
  inferInstanceAs (Decidable (∃ iface ∈ heard sent.neighbor, _))

theorem sentThere_of_advertisesThere_twoInterfaces : ∃ state,
    Reach Hearing.next Hearing.AdvertisesThere ⟨twoInterfaces, fun _ => none⟩ state ∧
    (state.node.isUp 1 ∧ state.node.isUp 2) ∧
    let event := update1 ⟨0x0a010202#32, 0x0a010203#32, 5, 0⟩
    (state.node.handle event).2.length = 1 ∧
    ∀ sent ∈ (state.node.handle event).2, state.node.SentThere
    (state.node.hears state.heard event) sent := by
  -- both interfaces are up as 10.1.2.2 loses 10.1.2.3, which the node hears too, and is told of the
  -- direct route
  obtain ⟨state, reach, checked⟩ := exists_reach_of_follow Hearing.next Hearing.AdvertisesThere
    ⟨twoInterfaces, fun _ => none⟩ [.interfaceUp 1, hello1 0x0a010202#32, hello1 0x0a010203#32,
      .interfaceUp 2]
    (fun state => decide (state.AdvertisesThere (update1 ⟨0x0a010202#32, 0x0a010203#32, 5, 0⟩)) &&
      decide (state.node.isUp 1 ∧ state.node.isUp 2) &&
      decide ((state.node.handle (update1 ⟨0x0a010202#32, 0x0a010203#32, 5, 0⟩)).2.length = 1))
        (by decide +kernel)
  simp only [Bool.and_eq_true, decide_eq_true_eq] at checked
  exact ⟨state, reach, checked.1.2, checked.2, sentThere_of_advertisesThere reach checked.1.1⟩

theorem not_sentThere_twoInterfaces :
    ∃ state, Reach Hearing.next (fun _ _ => True) ⟨twoInterfaces, fun _ => none⟩ state ∧
    state.node.Enabled (hello1 0x0a010202#32) ∧
    ¬(∀ sent ∈ (state.node.handle (hello1 0x0a010202#32)).2,
      state.node.SentThere (state.node.hears state.heard (hello1 0x0a010202#32)) sent) := by
  -- both interfaces are up; the HELLO of 10.1.2.2 on interface 1 makes the node tell it of the
  -- subnet broadcast address of interface 2, on interface 2
  obtain ⟨state, reach, checked⟩ := exists_reach_of_follow Hearing.next
    (fun _ _ => True) ⟨twoInterfaces, fun _ => none⟩
    [.interfaceUp 1, .interfaceUp 2]
    (fun state => decide (state.node.Enabled (hello1 0x0a010202#32)) &&
      !decide (∀ sent ∈ (state.node.handle (hello1 0x0a010202#32)).2,
        state.node.SentThere (state.node.hears state.heard (hello1 0x0a010202#32)) sent))
        (by decide +kernel)
  simp only [Bool.and_eq_true, Bool.not_eq_true', decide_eq_true_eq, decide_eq_false_iff_not]
    at checked
  exact ⟨state, reach, checked.1, checked.2⟩

end Node

end Bsdvr
