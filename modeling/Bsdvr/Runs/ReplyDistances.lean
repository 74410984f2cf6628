import Bsdvr.Runs.Replies

namespace Bsdvr
open Foundation

namespace Node
variable {node : Node} {header : UpdateHeader} {route : RoutingTableEntry}

/-! ## The decision of `RetransmitToNeighbor` -/

/-- What the end of `RecvUpdate` decides: to send at once, or to offer an entry to the pending reply
queue. -/
inductive Reply
  | sends (messages : List Sent)
  | pending (entry : PendingReplyEntry)

def perform (node : Node) : Reply → Node × List Sent
  | .sends messages => (node, messages)
  | .pending entry => node.enqueuePendingReply entry

def replyTo (node : Node) (header : UpdateHeader) : Reply :=
  if header.binaryState = 0 ∧ header.dst ≠ header.origin then
    ((node.pends header).map Reply.pending).getD (.sends (node.retransmitToNeighbor header).2)
  else .sends []

theorem perform_replyTo (node : Node) (header : UpdateHeader) : node.perform (node.replyTo header) =
    if header.binaryState = 0 ∧ header.dst ≠ header.origin then node.retransmitToNeighbor header
    else (node, []) := by
  obtain ⟨offers, keeps⟩ := @retransmitToNeighbor_pends node header
  unfold replyTo
  split
  · cases pending : node.pends header with
    | none => exact Prod.ext (keeps pending).symm rfl
    | some entry => exact (offers entry pending).symm
  · rfl

theorem recvUpdate_eq_perform (node : Node) (header : UpdateHeader) (my src : Ipv4Address) :
    node.recvUpdate header my src =
    let recomputed := (node.learned header my src).recompute
    let announced := recomputed.1.sendTriggeredUpdateChangesToNeighbors recomputed.2 []
    let replied := recomputed.1.perform (recomputed.1.replyTo header)
    (replied.1, announced ++ replied.2) := by
  simp only [perform_replyTo, recvUpdate_eq]
  split
  · rfl
  · rw [List.append_nil]

theorem perform_routingTable (node : Node) (reply : Reply) :
    (node.perform reply).1.routingTable = node.routingTable := by
  cases reply <;> rfl

/-- The premises on an UPDATE and on the route it asks about, but for the hop count of the route. -/
def AsksAbout (node : Node) (header : UpdateHeader) (route : RoutingTableEntry) : Prop :=
  (header.binaryState = 0 ∧ header.dst ≠ header.origin) ∧
    (filtered header.origin = false ∧ header.origin ∈ node.neighbors) ∧
    node.ft[header.dst]? = some route ∧ route.state = .active ∧ route.nextHop ≠ header.origin

instance (node : Node) (header : UpdateHeader) (route : RoutingTableEntry) :
    Decidable (node.AsksAbout header route) :=
  inferInstanceAs (Decidable ((_ ∧ _) ∧ (_ ∧ _) ∧ _ ∧ _ ∧ _))

def stored (node : Node) (n ne : Ipv4Address) : Option (BitVec 32) :=
  (node.dvt.entry n ne).map RoutingTableEntry.hops

theorem replyTo_of_asksAbout (asks : node.AsksAbout header route) : node.replyTo header =
    if route.hops - 1 = 0 ∨ (node.stored route.nextHop header.origin).getD 0 = header.hopCount +
      (route.hops - 1) then
      .sends [node.sendUpdate route header.origin]
    else .pending ⟨header.origin, header.dst, node.now + node.now⟩ := by
  obtain ⟨asked, ⟨passes, listed⟩, found, works⟩ := asks
  have alive : header.origin ∈ node.neighbors ∧ route.state = .active ∧
      route.nextHop ≠ header.origin := ⟨listed, works⟩
  rw [replyTo, if_pos asked, pends, retransmitToNeighbor, if_neg (by simp [passes]),
    if_neg (by simp [passes]), found]
  simp only [Option.bind_some]
  rw [if_pos alive, stored]
  by_cases near : route.hops - 1 = 0 ∨
      ((node.dvt.entry route.nextHop header.origin).map RoutingTableEntry.hops).getD 0 =
      header.hopCount + (route.hops - 1)
  · rw [if_neg (fun both => both.2 near), if_pos near, if_pos near]
    rfl
  · rw [if_pos ⟨alive, near⟩, if_neg near, if_neg near]
    rfl

theorem replyTo_of_not_asksAbout (silent : ∀ route, ¬node.AsksAbout header route) :
    node.replyTo header = .sends [] := by
  unfold replyTo
  split
  · rename_i asked
    cases passes : filtered header.origin with
    | true => simp [pends, retransmitToNeighbor, passes]
    | false =>
        cases found : node.ft[header.dst]? with
        | none => simp [pends, retransmitToNeighbor, passes, found]
        | some route =>
            have stopped : ¬(header.origin ∈ node.neighbors ∧ route.state = .active ∧
                route.nextHop ≠ header.origin) :=
              fun alive => silent route ⟨asked, ⟨passes, alive.1⟩, found, alive.2⟩
            rw [pends, retransmitToNeighbor, if_neg (by simp [passes]),
              if_neg (by simp [passes]), found]
            simp only [Option.bind_some]
            rw [if_neg (fun both => stopped both.1), if_neg stopped]
            rfl
  · rfl

end Node

/-! ## Replies and what was advertised -/

/-- A node beside the hop count that each sender last gave for each destination in an UPDATE. -/
structure Advertising where
  node : Node
  advertised : Ipv4Address → Ipv4Address → Option (BitVec 32)

/-- The cost is the sum of what the UPDATE gives and of the way from the next hop to the
destination. -/
def UpdateHeader.Adds (header : UpdateHeader) (route : RoutingTableEntry)
    (cost : Option (BitVec 32)) : Prop :=
  ∃ k, cost = some k ∧ k.toNat = header.hopCount.toNat + (route.hops.toNat - 1)

namespace Advertising
variable {state : Advertising} {header : UpdateHeader} {route : RoutingTableEntry}

def record (state : Advertising) (sender : Ipv4Address) (header : UpdateHeader) :
    Ipv4Address → Ipv4Address → Option (BitVec 32) :=
  fun n dst => if n = sender ∧ dst = header.dst then some header.hopCount
    else state.advertised n dst

def next (state : Advertising) (event : Node.Event) : Option Advertising :=
  (state.node.next event).map fun node =>
    { node
      advertised := match event with
        | .recv _ sender (.update header) _ => state.record sender header
        | _ => state.advertised }

def hears (state : Advertising) (header : UpdateHeader) (my sender : Ipv4Address) : Advertising :=
  ⟨(state.node.learned header my sender).recompute.1, state.record sender header⟩

/-- The cost for reaching `ne` from `n`: what `n` last advertised, if its row has an entry for
`ne`. -/
def cost (state : Advertising) (n ne : Ipv4Address) : Option (BitVec 32) :=
  (state.node.dvt.entry n ne).bind fun _ => state.advertised n ne

def Small (state : Advertising) (header : UpdateHeader) (route : RoutingTableEntry) : Prop :=
  header.hopCount < 255#32 ∧ route.hops < 255#32 ∧ ∀ k, state.cost route.nextHop header.origin =
    some k → k < 255#32

/-- The node answers at once, or offers one pending reply, as the advertised costs ask for; where
nothing asks for a reply it does neither, and it leaves its tables alone. -/
structure RepliesRightly (state : Advertising) (header : UpdateHeader) : Prop where
  answers : ∀ route, state.node.AsksAbout header route → 1#32 ≤ route.hops →
    state.Small header route →
    (route.hops = 1 ∨ header.Adds route (state.cost route.nextHop header.origin) →
      ∃ sent, state.node.replyTo header = .sends [sent] ∧ sent.neighbor = header.origin ∧
      sent.header.dst = header.dst) ∧
    (¬(route.hops = 1 ∨ header.Adds route (state.cost route.nextHop header.origin)) →
      ∃ entry, state.node.replyTo header = .pending entry ∧ entry.neighbor = header.origin ∧
      entry.destination = header.dst)
  silent : ¬(∃ route, state.node.AsksAbout header route ∧ 1#32 ≤ route.hops) →
    state.node.replyTo header = .sends []
  unchanged : (state.node.perform (state.node.replyTo header)).1.routingTable =
    state.node.routingTable

/-- The route asked about has one hop, or the row of its next hop holds just the cost that was
advertised, or neither of the two is the sum that calls for an answer at once. -/
def ComparesRightly (state : Advertising) (header : UpdateHeader) : Prop :=
  ∀ route, state.node.AsksAbout header route → 1#32 ≤ route.hops ∧ (state.Small header route →
    route.hops = 1 ∨ state.cost route.nextHop header.origin =
      state.node.stored route.nextHop header.origin ∨
    (¬header.Adds route (state.cost route.nextHop header.origin) ∧
      ¬header.Adds route (state.node.stored route.nextHop header.origin)))

theorem compared_iff_adds {stored : Option (BitVec 32)} (few : header.hopCount < 255#32)
    (short : route.hops < 255#32) (positive : 1#32 ≤ route.hops) :
    route.hops - 1 = 0 ∨ stored.getD 0 = header.hopCount + (route.hops - 1) ↔ route.hops = 1 ∨
    header.Adds route stored := by
  have first : route.hops - 1 = 0 ↔ route.hops = 1 := by bv_omega
  rw [first]
  refine or_congr_right' fun far => ?_
  cases stored with
  | none =>
      refine iff_of_false ?_ (fun ⟨k, absent, _⟩ => (by cases absent))
      simp only [Option.getD_none]
      bv_omega
  | some k =>
      simp only [Option.getD_some, UpdateHeader.Adds, Option.some.injEq, exists_eq_left']
      bv_omega

theorem replyTo_compares (asks : state.node.AsksAbout header route) (few : header.hopCount < 255#32)
    (short : route.hops < 255#32) (positive : 1#32 ≤ route.hops) :
    (route.hops = 1 ∨ header.Adds route (state.node.stored route.nextHop header.origin) →
      state.node.replyTo header = .sends [state.node.sendUpdate route header.origin]) ∧
    (¬(route.hops = 1 ∨ header.Adds route (state.node.stored route.nextHop header.origin)) →
      state.node.replyTo header = .pending ⟨header.origin, header.dst,
        state.node.now + state.node.now⟩) := by
  rw [Node.replyTo_of_asksAbout asks, ← compared_iff_adds few short positive]
  exact ⟨fun near => if_pos near, fun far => if_neg far⟩

theorem asksAbout_unique {other : RoutingTableEntry} (asks : state.node.AsksAbout header route)
    (again : state.node.AsksAbout header other) : other = route :=
  Option.some.inj (again.2.2.1.symm.trans asks.2.2.1)

theorem RepliesRightly.comparesRightly (right : state.RepliesRightly header) :
    state.ComparesRightly header := by
  intro route asks
  have positive : 1#32 ≤ route.hops := by
    by_contra zero
    have replied := right.silent fun ⟨other, again, positive⟩ =>
      zero (asksAbout_unique asks again ▸ positive)
    rw [Node.replyTo_of_asksAbout asks] at replied
    split at replied
    · cases replied
    · cases replied
  refine ⟨positive, fun small => ?_⟩
  obtain ⟨now, later⟩ := right.answers route asks positive small
  obtain ⟨sends, pends⟩ := replyTo_compares asks small.1 small.2.1 positive
  by_cases one : route.hops = 1
  · exact .inl one
  · refine .inr ?_
    by_cases told : header.Adds route (state.cost route.nextHop header.origin)
    · by_cases held : header.Adds route (state.node.stored route.nextHop header.origin)
      · left
        obtain ⟨k, advertised, sum⟩ := told
        obtain ⟨l, inRow, same⟩ := held
        rw [advertised, inRow, BitVec.eq_of_toNat_eq (sum.trans same.symm)]
      · obtain ⟨sent, replied, _⟩ := now (.inr told)
        rw [pends (by tauto)] at replied
        cases replied
    · by_cases held : header.Adds route (state.node.stored route.nextHop header.origin)
      · obtain ⟨entry, replied, _⟩ := later (by tauto)
        rw [sends (.inr held)] at replied
        cases replied
      · exact .inr ⟨told, held⟩

theorem ComparesRightly.repliesRightly (compares : state.ComparesRightly header)
    (named : state.node.Named) :
    state.RepliesRightly header where
  answers route asks positive small := by
    obtain ⟨sends, pends⟩ := replyTo_compares asks small.1 small.2.1 positive
    have agrees : route.hops = 1 ∨ header.Adds route (state.cost route.nextHop header.origin) ↔
        route.hops = 1 ∨ header.Adds route (state.node.stored route.nextHop header.origin) := by
      rcases (compares route asks).2 small with one | same | ⟨told, held⟩
      · simp [one]
      · rw [same]
      · simp [told, held]
    rw [agrees]
    refine ⟨fun near => ⟨_, sends near, rfl, ?_⟩, fun far => ⟨_, pends far, rfl, rfl⟩⟩
    exact named.forwarding asks.2.2.1
  silent unasked := by
    refine Node.replyTo_of_not_asksAbout fun route asks => unasked ⟨route, asks,
      (compares route asks).1⟩
  unchanged := Node.perform_routingTable _ _

section Run
variable {interfaces : List Ipv4InterfaceAddress} {enableHello : Bool}
  {helloInterval maxPRQueueTime : Time} {maxPRQueueLen : BitVec 32}

theorem node_reach {ok : Advertising → Node.Event → Prop} {start : Advertising}
    (reach : Reach next ok start state) :
    Reach Node.next (fun _ _ => True) start.node state.node := by
  induction reach with
  | start => exact .start
  | step _ _ taken ih =>
      obtain ⟨node, reached, rfl⟩ := Option.map_eq_some_iff.mp taken
      exact ih.step trivial reached

theorem hears_named (named : state.node.Named) (header : UpdateHeader) (my sender : Ipv4Address) :
    (state.hears header my sender).node.Named := by
  obtain ⟨prqueue, frame, _⟩ := Node.recvUpdate_frame state.node header my sender
  have received := named.recvUpdate header my sender
  rw [frame] at received
  exact received.congr rfl rfl

end Run

def asked (hops : BitVec 32) : List Node.Event :=
  [.interfaceUp 1, Node.update1 ⟨0x0a010202#32, 0x0a010209#32, 1, 1⟩,
    Node.update1 ⟨0x0a010202#32, 0x0a010203#32, hops, 1⟩, Node.hello1 0x0a010202#32,
      Node.hello1 0x0a010203#32]

def query (hopCount : BitVec 32) : UpdateHeader := ⟨0x0a010203#32, 0x0a010209#32, hopCount, 0⟩

end Advertising

end Bsdvr
