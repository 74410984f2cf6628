import Bsdvr.Static.Settled
import Bsdvr.Static.HopCounts
import Bsdvr.Tables.Worst

namespace Bsdvr
open Foundation

namespace StaticNetwork
variable {V : Type} {net : StaticNetwork V} {state after : NetworkState V} {action : Action V}
  {x y d : V}

/-- What `x` knows of `d` later: its route has not become shorter, and is the same one if `x` has
heard no new neighbour. -/
structure Lengthens (net : StaticNetwork V) (state after : NetworkState V) (x d : V) : Prop where
  neighbors : ∀ ne ∈ (state.node x).neighbors, ne ∈ (after.node x).neighbors
  longer : ∀ entry, (state.node x).ft[net.address d]? = some entry →
    ∃ new, (after.node x).ft[net.address d]? = some new ∧ entry.hops.toNat ≤ new.hops.toNat
  same : (∀ ne ∈ (after.node x).neighbors, ne ∈ (state.node x).neighbors) →
    (after.node x).ft[net.address d]? = (state.node x).ft[net.address d]?

theorem Lengthens.of_same (neighbors : (after.node x).neighbors = (state.node x).neighbors)
    (ft : (after.node x).ft[net.address d]? = (state.node x).ft[net.address d]?) :
    net.Lengthens state after x d where
  neighbors _ listed := neighbors ▸ listed
  longer entry present := ⟨entry, ft.trans present, le_rfl⟩
  same _ := ft

theorem Lengthens.trans {middle : NetworkState V} (first : net.Lengthens state middle x d)
    (second : net.Lengthens middle after x d) : net.Lengthens state after x d where
  neighbors ne listed := second.neighbors ne (first.neighbors ne listed)
  longer entry present := by
    obtain ⟨new, there, longer⟩ := first.longer entry present
    obtain ⟨last, here, longest⟩ := second.longer new there
    exact ⟨last, here, longer.trans longest⟩
  same fewer := by
    rw [second.same fun ne listed => first.neighbors ne (fewer ne listed),
      first.same fun ne listed => fewer ne (second.neighbors ne listed)]

theorem active_of_supported (supported : net.Supported state) (other : d ≠ x)
    {entry : RoutingTableEntry} (present : (state.node x).ft[net.address d]? = some entry) :
    entry.state = .active := by
  obtain ⟨_, _, about⟩ := (supported.trusted.nodes x).tables.forwarding _ _ present
  rcases about d rfl with ⟨same, _⟩ | ⟨works, _⟩
  · exact absurd same other
  · exact works

/-- An active route is replaced by a longer one, as `isBetterRoute` gets its arguments the other way
round. -/
theorem toNat_le_of_isBetterRoute {route entry : RoutingTableEntry}
    (better : isBetterRoute route entry = true) (works : route.state = .active)
    (worked : entry.state = .active) : entry.hops.toNat ≤ route.hops.toNat := by
  rcases isBetterRoute_iff.mp better with ⟨_, shorter⟩ | ⟨_, _, failed⟩ | ⟨failed, _⟩
  · exact Nat.le_of_lt shorter
  · rw [works] at failed
    cases failed
  · rw [worked] at failed
    cases failed

variable [DecidableEq V]

theorem lengthens_of_step (supported : net.Supported state) (step : net.Step state action after)
    (other : d ≠ x) :
    net.Lengthens state after x d := by
  have afterwards := supported.step step
  cases step with
  | idle action duration hellos sent => exact .of_same rfl rfl
  | @hello y k hello nb hardware found header link listed =>
      by_cases here : x = hello.receiver
      · subst here
        have consistent := supported.trusted.nodes hello.receiver
        have settled := supported.settled hello.receiver d other
        rcases consistent.hello_cases (supported.settled _) listed with
          ⟨_, _, neighbors, ft, _⟩ | ⟨stranger, absent, added, exchanged⟩
        · exact .of_same (by rw [settle_self, neighbors]) (by rw [settle_self, ft d other])
        · have list : ((settle state hello.receiver (((state.node hello.receiver).setNb nb).exchangeHello (net.address y)
              (net.address hello.receiver)) (state.hellos.eraseIdx k)
              state.updates).node hello.receiver).neighbors =
              (state.node hello.receiver).neighbors ++ [net.address y] := by
            rw [settle_self, exchanged, ← added]
            exact @NodeConsistent.joined_neighbors V net hello.receiver y
              (state.node hello.receiver) nb
          refine ⟨fun ne member => ?_, fun entry present => ?_, fun fewer => ?_⟩
          · rw [list]
            exact List.mem_append_left _ member
          · rcases NodeConsistent.join_ft_some consistent added absent settled present
              with kept | ⟨route, _, better, there⟩
            · exact ⟨entry, by rw [settle_self, exchanged, kept], le_rfl⟩
            · have now : ((settle state hello.receiver (((state.node hello.receiver).setNb nb).exchangeHello
                  (net.address y) (net.address hello.receiver)) (state.hellos.eraseIdx k)
                  state.updates).node hello.receiver).ft[net.address d]? = some route := by
                rw [settle_self, exchanged, there]
              exact ⟨route, now, toNat_le_of_isBetterRoute better
                (active_of_supported afterwards other now)
                (active_of_supported supported other present)⟩
          · exact absurd (fewer (net.address y) (by rw [list]; simp)) stranger
      · exact .of_same (by rw [settle_other here]) (by rw [settle_other here])
  | @update z y k header link found origin =>
      by_cases here : x = z
      · subst here
        obtain ⟨y', _, source, _, _, _, genuine⟩ :=
          supported.trusted.updates _ (List.mem_of_getElem? found)
        obtain rfl := address_inj.mp source
        obtain ⟨prqueue, frame, _⟩ :=
          Node.recvUpdate_frame (state.node x) header (net.address x) (net.address y)
        have ft := ((supported.trusted.nodes x).recvUpdate_settled
          (fun v same => ⟨(genuine v same).1, (genuine v same).2.1⟩)
          (supported.settled x d other)).1
        refine .of_same ?_ (by rw [settle_self, ft])
        rw [settle_self, frame]
        rfl
      · exact .of_same (by rw [settle_other here]) (by rw [settle_other here])

variable [DecidableRel net.graph.Adj]

/-- In a static network a route never becomes shorter, and it stays the same until a new neighbour
is heard: no UPDATE changes it. -/
theorem route_lengthens (reach : Reach net.toNetwork.next Allowed net.toNetwork.initial state)
    (later : Reach net.toNetwork.next Allowed state after) (other : d ≠ x) :
    (∀ entry, (state.node x).ft[net.address d]? = some entry →
      ∃ new, (after.node x).ft[net.address d]? = some new ∧ entry.hops.toNat ≤ new.hops.toNat) ∧
    ((∀ y, net.graph.Adj x y → net.address y ∈ (after.node x).neighbors →
      net.address y ∈ (state.node x).neighbors) →
      (after.node x).ft[net.address d]? = (state.node x).ft[net.address d]?) := by
  have supported := supported_of_reach (fun _ _ => id) reach
  have both : net.Supported after ∧ net.Lengthens state after x d := by
    refine later.invariant (P := fun after => net.Supported after ∧ net.Lengthens state after x d)
      ⟨supported, .of_same rfl rfl⟩ ?_
    rintro before action after ⟨supported, lengthens⟩ allowed taken
    have step := step_of_next supported.trusted allowed taken
    exact ⟨supported.step step, lengthens.trans (lengthens_of_step supported step other)⟩
  obtain ⟨afterwards, lengthens⟩ := both
  refine ⟨lengthens.longer, fun heard => lengthens.same fun ne member => ?_⟩
  obtain ⟨y, rfl, link⟩ := (afterwards.trusted.nodes x).linked member
  exact heard y link member

def paw : StaticNetwork (Fin 4) := fourNodes [(0, 1), (1, 2), (0, 3), (1, 3)]

instance : DecidableRel paw.graph.Adj := inferInstanceAs (DecidableRel (fourNodes _).graph.Adj)

theorem route_lengthens_paw : ∃ state after entry new,
    Reach paw.toNetwork.next Allowed
      paw.toNetwork.initial state ∧
    Reach paw.toNetwork.next Allowed state after ∧
    (state.node 0).ft[paw.address 2]? = some entry ∧ (after.node 0).ft[paw.address 2]? = some new ∧
    (entry.hops, new.hops) = (2, 3) ∧ entry.hops.toNat ≤ new.hops.toNat := by
  -- node 0 has a route of two links to node 2, until it hears node 3, whose route is as long as its
  -- own
  obtain ⟨state, reach, checked⟩ := exists_reach_of_follow paw.toNetwork.next
    Allowed paw.toNetwork.initial
    (hears 1 2 ++ hears 1 0 ++ [.deliverUpdate 1 0] ++ hears 0 1 ++ hears 1 3 ++
      [.deliverUpdate 5 3] ++ hears 3 1 ++
      hears 3 0 ++ [.deliverUpdate 9 0])
    (fun state => ((state.node 0).ft[paw.address 2]?).any fun entry =>
      (follow paw.toNetwork.next Allowed state (hears 0 3)).any fun after =>
        ((after.node 0).ft[paw.address 2]?).any fun new => (entry.hops, new.hops) =
        (2, 3)) (by decide +kernel)
  simp only [Option.any_eq_true, decide_eq_true_eq] at checked
  obtain ⟨entry, present, after, followed, new, now, hops⟩ := checked
  have later := reach_of_follow .start followed
  obtain ⟨same, there, longer⟩ :=
    (@route_lengthens _ _ _ _ 0 2 _ _ reach later (by decide)).1 entry present
  obtain rfl := Option.some.inj (there.symm.trans now)
  exact ⟨state, after, entry, same, reach, later, present, there, hops, longer⟩

end StaticNetwork

end Bsdvr
