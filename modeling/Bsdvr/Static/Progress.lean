import Bsdvr.Static.Traffic

namespace Bsdvr
open Foundation

namespace StaticNetwork
variable {V : Type} [DecidableEq V] {net : StaticNetwork V} {state after : NetworkState V}
  {action : Action V}

/-! ## Every UPDATE can be delivered -/

def Open (net : StaticNetwork V) (state : NetworkState V) : Prop :=
  ∀ v, ⟨2, 1, net.address v⟩ ∈ (state.node v).openSockets

theorem Open.step (opened : net.Open state)
    (step : net.Step state action after) : net.Open after := by
  intro v
  cases step with
  | idle action duration hellos sent => exact opened v
  | hello nb hardware found header link listed =>
      rename_i y k hello
      by_cases here : v = hello.receiver
      · subst here
        obtain ⟨table, fresh, frame⟩ :=
          Node.exchangeHello_frame ((state.node hello.receiver).setNb nb) (net.address y)
          (net.address hello.receiver)
        rw [settle_self, frame]
        exact opened hello.receiver
      · rw [settle_other here]
        exact opened v
  | update link found origin =>
      rename_i x y k header
      by_cases here : v = x
      · subst here
        obtain ⟨prqueue, frame, _⟩ :=
          Node.recvUpdate_frame (state.node v) header (net.address v) (net.address y)
        rw [settle_self, frame]
        exact opened v
      · rw [settle_other here]
        exact opened v

omit [DecidableEq V] in
theorem start_open : net.Open net.toNetwork.initial := by
  intro v
  have real := net.notLoopback v
  change _ ∈ (net.toNetwork.start v).openSockets
  rw [start_eq]
  simp [Node.initial, Node.notifyInterfaceUp, Node.getAddress, real, address]

variable [DecidableRel net.graph.Adj]

theorem deliverUpdate_enabled (trusted : net.Trusted state) (opened : net.Open state) {k : Nat}
    {packet : Packet} (found : state.updates[k]? = some packet) :
    ∃ x, packet.destination = net.address x ∧
    (net.toNetwork.next state (.deliverUpdate k x)).isSome := by
  obtain ⟨y, x, _, _, destination, _⟩ := trusted.updates packet (List.mem_of_getElem? found)
  refine ⟨x, destination, ?_⟩
  have setup := (trusted.nodes x).setup
  have bound : Network.unicastSocket (state.node x) packet.destination =
      some ⟨2, 1, net.address x⟩ := by
    simp [Network.unicastSocket, setup.socketAddresses, destination]
  have enabled : (state.node x).Enabled (.recv ⟨2, 1, net.address x⟩ packet.source
      (.update packet.header) 0) := by
    refine ⟨opened x, ?_⟩
    simp [Node.receiver, setup.socketAddresses]
  simp only [Network.next, Network.react, found, bound, Option.bind_some]
  rw [if_pos enabled]
  rfl

/-! ## No UPDATE stays in flight for ever -/

variable [Fintype V]

structure Draining (net : StaticNetwork V) (state : NetworkState V) : Prop where
  meaningful : net.Meaningful state
  opened : net.Open state

theorem Draining.step (draining : net.Draining state) (allowed : Allowed state action)
    (taken : net.toNetwork.next state action = some after) : net.Draining after := by
  have step := step_of_next draining.meaningful.supported.trusted allowed taken
  exact ⟨draining.meaningful.step step, draining.opened.step step⟩

def outstanding (net : StaticNetwork V) [DecidableRel net.graph.Adj] (state : NetworkState V) : ℕ :=
  state.updates.length + net.credit state

theorem Draining.pays (draining : net.Draining state) (allowed : Allowed state action)
    (taken : net.toNetwork.next state action = some after) :
    delivered action + net.outstanding after ≤ net.outstanding state := by
  have paid := draining.meaningful.pays allowed taken
  rw [updatesSent, taken] at paid
  simp only [Option.elim_some] at paid
  unfold outstanding
  omega

theorem outstanding_of_reach
    (reach : Reach net.toNetwork.next Allowed net.toNetwork.initial state) :
    net.Draining state ∧ net.outstanding state ≤ 8 * Fintype.card V *
      net.graph.edgeFinset.card := by
  refine reach.invariant (P := fun state => net.Draining state ∧
    net.outstanding state ≤ 8 * Fintype.card V * net.graph.edgeFinset.card) ?_ ?_
  · refine ⟨⟨start_meaningful, start_open⟩, ?_⟩
    rw [outstanding, start_credit]
    simp [Network.initial]
  · rintro before action after ⟨draining, bound⟩ allowed taken
    have paid := draining.pays allowed taken
    exact ⟨draining.step allowed taken, by omega⟩

omit [DecidableEq V] [DecidableRel net.graph.Adj] [Fintype V] in
theorem exists_of_delivered (delivery : delivered action = 1) :
    ∃ k x, action = .deliverUpdate k x := by
  cases action with
  | deliverUpdate k x => exact ⟨k, x, rfl⟩
  | event v event => cases delivery
  | sendHello v reached => cases delivery
  | deliverHello k hardware => cases delivery
  | elapse duration => cases delivery

omit [DecidableEq V] [DecidableRel net.graph.Adj] [Fintype V] in
theorem allowed_of_delivered (delivery : delivered action = 1) : Allowed state action := by
  obtain ⟨k, x, rfl⟩ := exists_of_delivered delivery
  trivial

omit [Fintype V] in
theorem delivered_neighbors (supported : net.Supported state) (delivery : delivered action = 1)
    (taken : net.toNetwork.next state action = some after) (v : V) :
    (after.node v).neighbors = (state.node v).neighbors := by
  obtain ⟨k, x, rfl⟩ := exists_of_delivered delivery
  obtain ⟨y, header, _, _, rfl⟩ := update_of_next supported taken
  exact updated_neighbors v

theorem Draining.progress (draining : net.Draining state) (busy : state.updates ≠ []) :
    ∃ action after, delivered action = 1 ∧ net.toNetwork.next state action = some after ∧
    net.Draining after ∧
      net.outstanding after < net.outstanding state := by
  have found : state.updates[0]? = some (state.updates.head busy) := by
    rw [← List.head?_eq_getElem?, List.head?_eq_some_head busy]
  obtain ⟨x, _, enabled⟩ := deliverUpdate_enabled draining.meaningful.supported.trusted
    draining.opened found
  obtain ⟨after, taken⟩ := Option.isSome_iff_exists.mp enabled
  have allowed : Allowed state (.deliverUpdate 0 x) := trivial
  have paid := draining.pays allowed taken
  have smaller : 1 + net.outstanding after ≤ net.outstanding state := paid
  exact ⟨.deliverUpdate 0 x, after, rfl, taken, draining.step allowed taken, by omega⟩

/-- However a static network has run, once its nodes only handle the UPDATEs in flight, in whatever
order, each of these can be delivered, no more than eight for each node and link are, and what is
left can be delivered until none is in flight, with every node hearing the same neighbours. -/
theorem updates_drain (reach : Reach net.toNetwork.next Allowed net.toNetwork.initial state)
    {run : NetworkState V × ℕ}
    (deliveries : Reach (spending net.toNetwork.next fun _ => delivered)
      (fun _ action => delivered action = 1) (state, 0) run) :
    run.2 + run.1.updates.length ≤ 8 * Fintype.card V * net.graph.edgeFinset.card ∧
    (∀ k packet, run.1.updates[k]? = some packet →
      ∃ x, packet.destination = net.address x ∧
      (net.toNetwork.next run.1 (.deliverUpdate k x)).isSome) ∧
    ∃ last, Reach net.toNetwork.next (fun _ action => delivered action = 1) run.1 last ∧
    last.updates = [] ∧
      ∀ v, (last.node v).neighbors = (run.1.node v).neighbors := by
  obtain ⟨begun, bound⟩ := outstanding_of_reach reach
  have later : Reach net.toNetwork.next (fun _ action => delivered action = 1) state run.1 :=
    @Reach.forget _ _ net.toNetwork.next (fun _ action => delivered action = 1)
    state _ _ 0 run deliveries
  have draining : net.Draining run.1 :=
    (outstanding_of_reach (reach.trans (later.mono fun _ _ => allowed_of_delivered))).1
  refine ⟨?_, fun k packet found => deliverUpdate_enabled draining.meaningful.supported.trusted
    draining.opened found, ?_⟩
  · have paid : run.2 + net.outstanding run.1 ≤ net.outstanding state :=
      spent_le net.outstanding (P := net.Draining) begun
        (fun before action after draining delivery taken =>
          draining.step (allowed_of_delivered delivery) taken)
        (fun before action after draining delivery taken =>
          draining.pays (allowed_of_delivered delivery) taken) deliveries
    have flight : run.1.updates.length ≤ net.outstanding run.1 := Nat.le_add_right _ _
    omega
  · have drained : ∃ last, Reach net.toNetwork.next
        (fun _ action => delivered action = 1) run.1 last ∧
        (net.Draining last ∧ ∀ v, (last.node v).neighbors = (run.1.node v).neighbors) ∧
        last.updates = [] := by
      refine exists_reach_of_decreasing net.outstanding ?_ ⟨draining, fun _ => rfl⟩
      rintro before ⟨draining, neighbors⟩ busy
      obtain ⟨action, after, delivery, taken, kept, smaller⟩ := draining.progress busy
      have same (v : V) : (after.node v).neighbors = (before.node v).neighbors :=
        delivered_neighbors draining.meaningful.supported delivery taken v
      exact ⟨action, after, delivery, taken, ⟨kept, fun v => (same v).trans (neighbors v)⟩, smaller⟩
    obtain ⟨last, rest, ⟨_, neighbors⟩, empty⟩ := drained
    exact ⟨last, rest, empty, neighbors⟩

theorem updates_drain_kite : ∃ state last,
    Reach kite.toNetwork.next Allowed kite.toNetwork.initial state ∧ state.updates.length = 6 ∧
    Reach kite.toNetwork.next (fun _ action => delivered action = 1) state last ∧
    last.updates = [] ∧
      ∀ v, (last.node v).neighbors = (state.node v).neighbors := by
  obtain ⟨state, reach, checked⟩ :=
    exists_reach_of_follow kite.toNetwork.next Allowed kite.toNetwork.initial
    (hears 1 2 ++ hears 2 1 ++ hears 1 0 ++ hears 2 0)
    (fun state => state.updates.length = 6) (by decide +kernel)
  obtain ⟨_, _, last, rest, empty, neighbors⟩ := updates_drain reach .start
  exact ⟨state, last, reach, by simpa using checked, rest, empty, neighbors⟩

end StaticNetwork

end Bsdvr
