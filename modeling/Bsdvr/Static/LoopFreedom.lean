import Bsdvr.Foundation.Acyclic
import Bsdvr.Static.Settled

namespace Bsdvr
open Foundation

namespace StaticNetwork
variable {V : Type} (net : StaticNetwork V)

def nextHopEdge (state : NetworkState V) (d x y : V) : Prop :=
  x ≠ d ∧ ∃ entry, (state.node x).ft[net.address d]? = some entry ∧ entry.state = .active ∧
    entry.nextHop = net.address y

def LoopFree (state : NetworkState V) : Prop :=
  ∀ d x, ¬Relation.TransGen (net.nextHopEdge state d) x x

/-- A HELLO that adds a neighbour finds in its row no route to a third node that would replace the
one in the forwarding table. -/
def KeepsRoutes (state : NetworkState V) : Action V → Prop
  | .deliverHello k _ => ∀ hello ∈ state.hellos[k]?,
      hello.header.origin ∉ (state.node hello.receiver).neighbors →
        ∀ v, v ≠ hello.receiver → net.address v ≠ hello.header.origin →
          ∀ entry ∈ (state.node hello.receiver).ft[net.address v]?,
            ∀ route ∈ (state.node hello.receiver).dvt.entry hello.header.origin (net.address v),
              isBetterRoute route entry = false
  | _ => True

instance [Fintype V] [DecidableEq V] (state : NetworkState V) (action : Action V) :
    Decidable (net.KeepsRoutes state action) :=
  match action with
  | .deliverHello k _ => inferInstanceAs (Decidable (∀ hello ∈ state.hellos[k]?, _ → ∀ v, _ → _ →
      ∀ entry ∈ (state.node hello.receiver).ft[net.address v]?,
        ∀ route ∈ (state.node hello.receiver).dvt.entry hello.header.origin (net.address v), _))
  | .event _ _ | .sendHello _ _ | .deliverUpdate _ _ | .elapse _ => instDecidableTrue

variable {net}

variable {state after : NetworkState V} {action : Action V} {x y : V} [DecidableEq V]

/-- An entry that is new, or routes straight to its destination, closes no loop: nothing leads to a
node that had no entry, and nothing leads on from the destination. -/
theorem LoopFree.settle (loopFree : net.LoopFree state) (supported : net.Supported state)
    {handled : Node × List Sent} {hellos : List (HelloPacket V)} {updates : List Packet}
    (trusted : net.Trusted (StaticNetwork.settle state x handled hellos updates))
    (edges : ∀ d, d ≠ x → ∀ entry, handled.1.ft[net.address d]? = some entry →
      (state.node x).ft[net.address d]? = some entry ∨ entry.nextHop = net.address d ∨
      (state.node x).ft[net.address d]? = none) :
    net.LoopFree (StaticNetwork.settle state x handled hellos updates) := by
  intro d
  apply acyclic_of_new_edges (loopFree d)
  rintro a b ⟨other, entry, present, works, next⟩
  by_cases here : a = x
  · subst here
    have own : handled.1.ft[net.address d]? = some entry := by simpa [StaticNetwork.settle]
      using present
    rcases edges d other.symm entry own with old | direct | new
    · exact .inl ⟨other, entry, old, works, next⟩
    · obtain rfl := address_inj.mp (direct.symm.trans next)
      exact .inr (.inr fun c edge => edge.1 rfl)
    · refine .inr (.inl ?_)
      rintro c ⟨otherC, entryC, presentC, _, nextC⟩
      by_cases self : c = a
      · subst self
        obtain ⟨_, _, about⟩ := (trusted.nodes c).tables.forwarding _ _ presentC
        rcases about d rfl with ⟨same, _⟩ | ⟨_, _, z, through, link, _⟩
        · exact otherC same.symm
        · obtain rfl := address_inj.mp (nextC.symm.trans through)
          exact net.graph.irrefl link
      · have before : (state.node c).ft[net.address d]? = some entryC := by
          simpa [StaticNetwork.settle, self] using presentC
        have stored := ((supported.settled c d otherC.symm).supported entryC before).2
        rw [nextC] at stored
        rcases supported.rows c a d entryC stored with same | known
        · exact other same
        · rw [new] at known
          cases known
  · exact .inl ⟨other, entry, by simpa [StaticNetwork.settle, here] using present, works, next⟩

theorem LoopFree.step (loopFree : net.LoopFree state) (supported : net.Supported state)
    (keeps : net.KeepsRoutes state action)
    (step : net.Step state action after) : net.LoopFree after := by
  have trusted := (supported.step step).trusted
  cases step with
  | idle action duration hellos sent => exact loopFree
  | @hello y k hello nb hardware found header link listed =>
      refine loopFree.settle supported trusted fun d other entry present => ?_
      have consistent := supported.trusted.nodes hello.receiver
      have settled := supported.settled hello.receiver d other
      rcases consistent.hello_cases (supported.settled _) listed with
        ⟨_, _, _, ft, _⟩ | ⟨stranger, absent, added, exchanged⟩
      · rw [ft d other] at present
        exact .inl present
      · rw [exchanged] at present
        cases known : (state.node hello.receiver).ft[net.address d]? with
        | none => exact .inr (.inr rfl)
        | some old =>
            rcases NodeConsistent.join_ft_some consistent added absent settled known with
              same | ⟨route, brought, better, replaced⟩
            · exact .inl (same.symm.trans present)
            · obtain rfl := Option.some.inj (replaced.symm.trans present)
              by_cases direct : net.address d = net.address y
              · rw [NodeConsistent.brought, if_pos direct] at brought
                rw [← Option.some.inj brought]
                exact .inr (.inl direct.symm)
              · rw [NodeConsistent.brought, if_neg direct] at brought
                have kept := keeps hello found (by rwa [header]) d other
                  (by rwa [header]) old known route
                  (by rwa [header])
                rw [kept] at better
                cases better
  | @update x y k header link found origin =>
      refine loopFree.settle supported trusted fun d other entry present => ?_
      obtain ⟨y', _, source, _, _, _, genuine⟩ :=
        supported.trusted.updates _ (List.mem_of_getElem? found)
      obtain rfl := address_inj.mp source
      have about : ∀ v, header.dst = net.address v → v ≠ y ∧ header.binaryState = 1 :=
        fun v same => ⟨(genuine v same).1, (genuine v same).2.1⟩
      rw [((supported.trusted.nodes x).recvUpdate_settled about (supported.settled x d other)).1]
        at present
      exact .inl present

/-- In a run in which no new neighbour's stored routes replace others, next hops form no loop. -/
theorem loopFree_of_keepsRoutes [DecidableRel net.graph.Adj]
    (reach : Reach net.toNetwork.next (fun state action => Allowed state action ∧
      net.KeepsRoutes state action) net.toNetwork.initial state) : net.LoopFree state := by
  have start : net.LoopFree net.toNetwork.initial := by
    intro d x cycle
    obtain ⟨_, ⟨other, entry, present, _⟩, _⟩ := Relation.TransGen.head'_iff.mp cycle
    have unknown : (net.toNetwork.start x).ft[net.address d]? = none := start_unknown other.symm
    simp [Network.initial, unknown] at present
  have both : net.Supported state ∧ net.LoopFree state := by
    refine reach.invariant (P := fun state => net.Supported state ∧ net.LoopFree state)
      ⟨supported_of_reach (fun _ _ => id) .start, start⟩ ?_
    rintro before action after ⟨supported, loopFree⟩ ⟨allowed, keeps⟩ taken
    have step := step_of_next supported.trusted allowed taken
    exact ⟨supported.step step, loopFree.step supported keeps step⟩
  exact both.2

/-! ## Three nodes around a destination

Nodes 0, 1 and 2 are linked to each other and node 1 to node 3. Node 1 hears node 3, node 0 learns of node 3
from node 1, and node 2 from node 0. When node 1 then hears node 2, whose route to node 3 has reached it before
that HELLO, it replaces its direct route by the one through node 2. -/

def triangle : StaticNetwork (Fin 4) := fourNodes [(0, 1), (1, 2), (0, 2), (1, 3)]

instance : DecidableRel triangle.graph.Adj := inferInstanceAs (DecidableRel (fourNodes _).graph.Adj)

def beforeLoop : List (Action (Fin 4)) :=
  hears 1 3 ++ hears 1 0 ++ [.deliverUpdate 1 0] ++ hears 0 1 ++ hears 0 2 ++
    [.deliverUpdate 5 2] ++
    hears 2 0 ++ hears 2 1

def routesThrough (state : NetworkState (Fin 4)) (x y : Fin 4) : Bool :=
  ((state.node x).ft[triangle.address 3]?).any fun entry => entry.state = .active ∧
    entry.nextHop = triangle.address y

theorem nextHopEdge_of_routesThrough {state : NetworkState (Fin 4)} {x y : Fin 4} (other : x ≠ 3)
    (routes : routesThrough state x y = true) : triangle.nextHopEdge state 3 x y := by
  obtain ⟨entry, present, works, next⟩ : ∃ entry,
      (state.node x).ft[triangle.address 3]? = some entry ∧
      entry.state = .active ∧ entry.nextHop = triangle.address y := by
    simpa [routesThrough, Option.any_eq_true] using routes
  exact ⟨other, entry, present, works, next⟩

theorem loopFree_of_keepsRoutes_triangle : ∃ state,
    Reach triangle.toNetwork.next (fun state action => Allowed state action ∧
      triangle.KeepsRoutes state action)
      triangle.toNetwork.initial state ∧
    triangle.nextHopEdge state 3 2 0 ∧ triangle.nextHopEdge state 3 0 1 ∧
    triangle.LoopFree state := by
  obtain ⟨state, reach, checked⟩ := exists_reach_of_follow triangle.toNetwork.next
    (fun state action => Allowed state action ∧ triangle.KeepsRoutes state action)
    triangle.toNetwork.initial
    beforeLoop (fun state => routesThrough state 2 0 && routesThrough state 0 1) (by decide +kernel)
  rw [Bool.and_eq_true] at checked
  exact ⟨state, reach, nextHopEdge_of_routesThrough (by decide) checked.1,
    nextHopEdge_of_routesThrough (by decide) checked.2, loopFree_of_keepsRoutes reach⟩

theorem not_loopFree_triangle :
    ∃ state, Reach triangle.toNetwork.next Allowed triangle.toNetwork.initial state ∧
    ¬triangle.LoopFree state := by
  obtain ⟨state, reach, checked⟩ := exists_reach_of_follow triangle.toNetwork.next Allowed
    triangle.toNetwork.initial (beforeLoop ++ [.deliverUpdate 9 1] ++ hears 1 2)
    (fun state => routesThrough state 0 1 && routesThrough state 1 2 && routesThrough state 2 0)
    (by decide +kernel)
  simp only [Bool.and_eq_true] at checked
  have first := nextHopEdge_of_routesThrough (by decide) checked.1.1
  have second := nextHopEdge_of_routesThrough (by decide) checked.1.2
  have third := nextHopEdge_of_routesThrough (by decide) checked.2
  exact ⟨state, reach, fun free => free 3 0
    (((Relation.TransGen.single first).tail second).tail third)⟩

end StaticNetwork

end Bsdvr
