import Bsdvr.Runs.Considered

namespace Bsdvr
open Foundation

namespace Node

def hasSocket (node : Node) (iface : Ipv4InterfaceAddress) : Prop :=
  (node.findSocketWithInterfaceAddress iface).isSome

instance (node : Node) (iface : Ipv4InterfaceAddress) : Decidable (node.hasSocket iface) :=
  inferInstanceAs (Decidable (_ = true))

/-- Every entry is on an interface that is up, but for the loopback entry. -/
def Grounded (node : Node) : Prop :=
  ∀ dst entry, node.ft[dst]? = some entry → node.hasSocket entry.iface ∨
    (dst = loopback ∧ entry.iface = .loopback)

/-- The routes that the handling of a message, a purge or a failure considers are on interfaces that
are up, and no inactive UPDATE makes the node reply with its loopback entry. -/
def ConsidersOpen (node : Node) : Event → Prop
  | .interfaceUp _ | .interfaceDown _ | .elapse _ => True
  | .recv socket sender (.update header) hardware =>
      (∀ pair ∈ node.considered (.recv socket sender (.update header) hardware),
        node.hasSocket pair.2) ∧
        ((node.ft[loopback]?).isSome → ∀ neighbor ∈
          node.nb, ¬node.replies header neighbor.neighborAddress loopback)
  | event => ∀ pair ∈ node.considered event, node.hasSocket pair.2

instance (node : Node) (event : Event) : Decidable (node.ConsidersOpen event) :=
  match event with
  | .interfaceUp _ | .interfaceDown _ | .elapse _ => instDecidableTrue
  | .recv _ _ (.update _) _ => inferInstanceAs (Decidable ((∀ pair ∈ node.considered _, _) ∧
      (_ → ∀ neighbor ∈ node.nb, ¬_)))
  | .recv _ _ (.hello _) _ | .purge | .txError _ =>
      inferInstanceAs (Decidable (∀ pair ∈ node.considered _, _))

variable {node : Node} {event : Event}

theorem hasSocket_iff {iface : Ipv4InterfaceAddress} :
    node.hasSocket iface ↔ ∃ entry ∈ node.socketAddresses, entry.2 = iface := by
  simp [hasSocket, findSocketWithInterfaceAddress]

theorem SameSetup.hasSocket {after : Node} (same : node.SameSetup after)
    (iface : Ipv4InterfaceAddress) :
    after.hasSocket iface ↔ node.hasSocket iface := by
  rw [hasSocket_iff, hasSocket_iff, same.socketAddresses]

def SocketsNamed (node : Node) : Prop :=
  ∀ entry ∈ node.socketAddresses, entry.2 = node.getAddress (some entry.1.device) ∧
    entry.1.address = entry.2.localAddress

theorem SameSetup.socketsNamed {after : Node} (same : node.SameSetup after)
    (named : node.SocketsNamed) :
    after.SocketsNamed := by
  intro entry member
  rw [same.socketAddresses] at member
  rw [getAddress, same.interfaces]
  exact named entry member

theorem notifyInterfaceUp_sockets (node : Node) (i : Nat) :
    (node.notifyInterfaceUp i).interfaces = node.interfaces ∧
    (node.notifyInterfaceUp i).socketAddresses =
      if (node.getAddress (some i)).localAddress = loopback then
      node.socketAddresses else node.socketAddresses ++
        [(⟨node.fresh, i, (node.getAddress (some i)).localAddress⟩, node.getAddress (some i))] := by
  unfold notifyInterfaceUp
  by_cases lo : (node.getAddress (some i)).localAddress = loopback
  · simp [lo]
  · simp [lo, setFt]

theorem notifyInterfaceDown_sockets (node : Node) (i : Nat) :
    (node.notifyInterfaceDown i).interfaces = node.interfaces ∧
    (node.notifyInterfaceDown i).socketAddresses =
      closeSocket (node.findSocketWithInterfaceAddress (node.getAddress (some i)))
        node.socketAddresses := by
  unfold notifyInterfaceDown
  simp only
  split
  · exact ⟨rfl, rfl⟩
  · exact ⟨rfl, rfl⟩

theorem SocketsNamed.handle (named : node.SocketsNamed) (event : Event) :
    (node.handle event).1.SocketsNamed := by
  by_cases up : ∃ i, event = .interfaceUp i
  · obtain ⟨i, rfl⟩ := up
    intro entry member
    obtain ⟨interfaces, sockets⟩ := notifyInterfaceUp_sockets node i
    simp only [Node.handle, sockets] at member
    simp only [Node.handle, getAddress, interfaces]
    split at member
    · exact named entry member
    · rcases List.mem_append.mp member with old | new
      · exact named entry old
      · rw [List.mem_singleton] at new
        subst new
        exact ⟨rfl, rfl⟩
  · by_cases down : ∃ i, event = .interfaceDown i
    · obtain ⟨i, rfl⟩ := down
      intro entry member
      obtain ⟨interfaces, sockets⟩ := notifyInterfaceDown_sockets node i
      simp only [Node.handle, sockets] at member
      simp only [Node.handle, getAddress, interfaces]
      exact named entry (List.mem_of_mem_filter member)
    · exact (handle_setup event (fun i same => up ⟨i, same⟩) fun i same =>
        down ⟨i, same⟩).socketsNamed named

theorem mem_sockets_down (named : node.SocketsNamed) {i : Nat}
    {entry : Socket × Ipv4InterfaceAddress} (other : entry.2 ≠ node.getAddress (some i))
    (member : entry ∈ node.socketAddresses) :
    entry ∈ (node.notifyInterfaceDown i).socketAddresses := by
  rw [(notifyInterfaceDown_sockets node i).2]
  refine List.mem_filter.mpr ⟨member, decide_eq_true fun same => other ?_⟩
  obtain ⟨closed, found, socket⟩ := Option.map_eq_some_iff.mp same.symm
  have on : closed.2 = node.getAddress (some i) := by simpa using List.find?_some found
  rw [(named entry member).1, ← socket, ← (named closed (List.mem_of_find?_eq_some found)).1, on]

theorem hasSocket_down (named : node.SocketsNamed) {i : Nat} {iface : Ipv4InterfaceAddress}
    (other : iface ≠ node.getAddress (some i)) (before : node.hasSocket iface) :
    (node.notifyInterfaceDown i).hasSocket iface := by
  obtain ⟨entry, member, rfl⟩ := hasSocket_iff.mp before
  exact hasSocket_iff.mpr ⟨entry, mem_sockets_down named other member, rfl⟩

theorem Grounded.interfaceUp (grounded : node.Grounded) (i : Nat) :
    (node.notifyInterfaceUp i).Grounded := by
  have more {iface : Ipv4InterfaceAddress} (before : node.hasSocket iface) :
      (node.notifyInterfaceUp i).hasSocket iface := by
    obtain ⟨entry, member, same⟩ := hasSocket_iff.mp before
    rw [hasSocket_iff, (notifyInterfaceUp_sockets node i).2]
    split
    · exact ⟨entry, member, same⟩
    · exact ⟨entry, List.mem_append_left _ member, same⟩
  have old {dst : Ipv4Address} {entry : RoutingTableEntry} (present : node.ft[dst]? = some entry) :
      (node.notifyInterfaceUp i).hasSocket entry.iface ∨
      (dst = loopback ∧ entry.iface = .loopback) :=
    (grounded dst entry present).imp_left more
  intro dst entry present
  rcases notifyInterfaceUp_ft_cases present with before | ⟨real, _, rfl⟩
  · exact old before
  · left
    rw [hasSocket_iff, (notifyInterfaceUp_sockets node i).2, if_neg real]
    exact ⟨_, List.mem_append_right _ (List.mem_singleton_self _), rfl⟩

theorem Grounded.interfaceDown (grounded : node.Grounded) (named : node.SocketsNamed) (i : Nat) :
    (node.notifyInterfaceDown i).Grounded := by
  intro dst entry present
  obtain ⟨before, other⟩ := notifyInterfaceDown_ft present
  exact (grounded dst entry before).imp_left (hasSocket_down named other)

private def opens (node : Node) (dst : Ipv4Address) (iface : Ipv4InterfaceAddress) : Prop :=
  node.hasSocket iface ∨ (dst = loopback ∧ iface = .loopback ∧ (node.ft[loopback]?).isSome)

private theorem opens_considered (opened : node.ConsidersOpen event)
    (up : ∀ i, event ≠ .interfaceUp i) :
    ∀ pair ∈ node.considered event, node.opens pair.1 pair.2 := by
  intro pair member
  cases event with
  | recv socket sender message hardware =>
      cases message with
      | hello header => exact .inl (opened pair member)
      | update header => exact .inl (opened.1 pair member)
  | purge => exact .inl (opened pair member)
  | txError hardware => exact .inl (opened pair member)
  | interfaceUp i => exact absurd rfl (up i)
  | interfaceDown i => cases member
  | elapse duration => cases member

private theorem tells_ne_loopback (opened : node.ConsidersOpen event)
    (present : (node.ft[loopback]?).isSome) {ne : Ipv4Address}
    (told : node.tells event ne loopback) : False := by
  have known (absent : node.ft[loopback]? = none) : False := by
    rw [absent] at present
    cases present
  cases event with
  | recv socket sender message hardware =>
      cases message with
      | hello header =>
          rcases told with ⟨_, _, _, remote⟩ | ⟨_, _, _, absent⟩
          · exact remote rfl
          · exact known absent
      | update header =>
          rcases told with ⟨_, _, _, absent⟩ | replied
          · exact known absent
          · obtain ⟨neighbor, listed, rfl⟩ := List.mem_map.mp replied.2.2.1
            exact opened.2 present neighbor listed replied
  | purge => exact known told.2.2.2
  | txError hardware => exact known told.2.2.2
  | interfaceUp i => exact told
  | interfaceDown i => exact told
  | elapse duration => exact told

theorem Grounded.handle (grounded : node.Grounded) (names : node.Named) (named : node.SocketsNamed)
    (opened : node.ConsidersOpen event) :
    (∀ sent ∈ (node.handle event).2, sent.socket.isSome) ∧ (node.handle event).1.Grounded := by
  by_cases up : ∃ i, event = .interfaceUp i
  · obtain ⟨i, rfl⟩ := up
    exact ⟨by simp [Node.handle], grounded.interfaceUp i⟩
  · by_cases down : ∃ i, event = .interfaceDown i
    · obtain ⟨i, rfl⟩ := down
      exact ⟨by simp [Node.handle], grounded.interfaceDown named i⟩
    · have same := @handle_setup node event (fun i same => up ⟨i, same⟩) fun i same =>
        down ⟨i, same⟩
      obtain ⟨left, sends⟩ := handle_considered (P := node.opens) names event
        (fun dst entry present => (grounded dst entry present).imp_right fun own =>
          ⟨own.1, own.2, by rw [← own.1, present]; rfl⟩)
        (opens_considered opened fun i same => up ⟨i, same⟩)
      constructor
      · intro sent member
        obtain ⟨ne, dst, entry, onOpen | ⟨rfl, _, present⟩, told, _, rfl⟩ := sends sent member
        · exact onOpen
        · exact (tells_ne_loopback opened present told).elim
      · intro dst entry present
        rcases left dst entry present with onOpen | ⟨lo, iface, _⟩
        · exact .inl ((same.hasSocket _).mpr onOpen)
        · exact .inr ⟨lo, iface⟩

section Run
variable {interfaces : List Ipv4InterfaceAddress} {enableHello : Bool} {helloInterval : Time}
  {maxPRQueueLen : BitVec 32} {maxPRQueueTime : Time} {state : Node}

theorem initial_socketsNamed :
    (initial interfaces enableHello helloInterval maxPRQueueLen maxPRQueueTime).SocketsNamed :=
  fun _ member => by cases member

theorem grounded_of_reach
    (reach : Reach next ConsidersOpen (initial interfaces enableHello helloInterval maxPRQueueLen maxPRQueueTime) state) :
    state.Grounded ∧ state.SocketsNamed := by
  have start : (initial interfaces enableHello helloInterval maxPRQueueLen
      maxPRQueueTime).Grounded := by
    intro dst entry present
    obtain ⟨rfl, rfl⟩ := initial_ft_eq_some _ _ _ _ _ present
    exact .inr ⟨rfl, rfl⟩
  have all : state.Named ∧ state.Grounded ∧ state.SocketsNamed := by
    refine reach.invariant (P := fun state => state.Named ∧ state.Grounded ∧ state.SocketsNamed)
      ⟨initial_named _ _ _ _ _, start, initial_socketsNamed⟩ ?_
    rintro before event after ⟨names, grounded, named⟩ opened taken
    obtain ⟨_, rfl⟩ := next_eq_some taken
    exact ⟨names.handle event, (grounded.handle names named opened).2, named.handle event⟩
  exact all.2

/-- In a run that considers routes on open interfaces only, every UPDATE has a socket, and no entry
is on an interface that is down. -/
theorem sent_socket_of_considersOpen
    (reach : Reach next ConsidersOpen (initial interfaces enableHello helloInterval maxPRQueueLen maxPRQueueTime) state)
    (opened : state.ConsidersOpen event) :
    (∀ sent ∈ (state.handle event).2, sent.socket.isSome) ∧ (state.handle event).1.Grounded := by
  obtain ⟨grounded, named⟩ := grounded_of_reach reach
  exact grounded.handle (reach_named (initial_named _ _ _ _ _) reach) named opened

end Run

/-! ## A node with two interfaces -/

def twoInterfaces : Node :=
  initial [.loopback, ⟨0x0a010201#32, 0xffffff00#32, 0x0a0102ff#32⟩,
    ⟨0x0a010301#32, 0xffffff00#32, 0x0a0103ff#32⟩]
    true 1000 50 1000

/-- A HELLO from `ne` arrives on the subnet broadcast socket of an interface: `socket` is its
name. -/
def helloFrom (socket : Nat) (i : NetDevice) (broadcast ne : Ipv4Address) : Event :=
  .recv ⟨socket, i, broadcast⟩ ne (.hello ⟨ne, ne⟩) 0

def hello1 (ne : Ipv4Address) : Event := helloFrom 3 1 0x0a0102ff#32 ne
def hello2 (ne : Ipv4Address) : Event := helloFrom 6 2 0x0a0103ff#32 ne

def update1 (header : UpdateHeader) : Event :=
  .recv ⟨2, 1, 0x0a010201#32⟩ header.origin (.update header) 0

theorem sent_socket_of_considersOpen_twoInterfaces : ∃ state,
    Reach next ConsidersOpen twoInterfaces state ∧
    (state.handle (hello2 0x0a010302#32)).2.length = 3 ∧
    ∀ sent ∈ (state.handle (hello2 0x0a010302#32)).2, sent.socket.isSome := by
  obtain ⟨state, reach, checked⟩ := exists_reach_of_follow next ConsidersOpen twoInterfaces
    [.interfaceUp 1, .interfaceUp 2, hello1 0x0a010202#32]
    (fun state => decide (state.ConsidersOpen (hello2 0x0a010302#32)) &&
      decide ((state.handle (hello2 0x0a010302#32)).2.length = 3)) (by decide +kernel)
  simp only [Bool.and_eq_true, decide_eq_true_eq] at checked
  exact ⟨state, reach, checked.2, (sent_socket_of_considersOpen reach checked.1).1⟩

theorem not_sent_socket_twoInterfaces : ∃ state, Reach next (fun _ _ => True) twoInterfaces state ∧
    state.Enabled (hello2 0x0a010302#32) ∧
    ¬(∀ sent ∈ (state.handle (hello2 0x0a010302#32)).2, sent.socket.isSome) := by
  -- interface 1 goes down while 10.1.2.2 is a neighbour; the HELLO of 10.1.3.2 on interface 2 puts
  -- the route to 10.1.2.2 back into the forwarding table
  obtain ⟨state, reach, checked⟩ := exists_reach_of_follow next (fun _ _ => True) twoInterfaces
    [.interfaceUp 1, .interfaceUp 2, hello1 0x0a010202#32, .interfaceDown 1]
    (fun state => decide (state.Enabled (hello2 0x0a010302#32)) &&
      !decide (∀ sent ∈ (state.handle (hello2 0x0a010302#32)).2, sent.socket.isSome))
      (by decide +kernel)
  simp only [Bool.and_eq_true, Bool.not_eq_true', decide_eq_true_eq, decide_eq_false_iff_not]
    at checked
  exact ⟨state, reach, checked.1, checked.2⟩

end Node

end Bsdvr
