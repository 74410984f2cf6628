import Bsdvr.Model.Wire
import Bsdvr.Proof.Format
import Bsdvr.Static.Network

namespace Bsdvr
open Foundation

/-! ## Messages as bytes -/

def Packet.encode (packet : Packet) : WirePacket :=
  ⟨packet.source, packet.destination, (Message.update packet.header).packet⟩

namespace NetworkState
variable {V : Type}

def encode (state : NetworkState V) : WireState V where
  node := state.node
  hellos := state.hellos.map fun hello => ⟨hello.source, (Message.hello hello.header).packet,
    hello.receiver, hello.index⟩
  updates := state.updates.map Packet.encode

theorem encode_packets (sent : List Sent) :
    (Network.packets sent).map Packet.encode = WireState.packets sent := by
  rw [Network.packets, List.map_filterMap]
  refine List.filterMap_congr fun update _ => ?_
  rw [Option.map_map]
  rfl

theorem encode_hellosTo (node : Node) (reached : List (Nat × V × Nat)) :
    (Network.hellosTo node reached).map (fun hello =>
      (⟨hello.source, (Message.hello hello.header).packet, hello.receiver,
      hello.index⟩ : WireHello V)) = WireState.hellosTo node reached := by
  simp only [Network.hellosTo, WireState.hellosTo, List.map_flatMap, List.map_map]
  rfl

variable [DecidableEq V] {state : NetworkState V} {v : V}

theorem encode_transmit (handled : Node × List Sent) :
    state.encode.transmit v handled = encode { state with
      node := Function.update state.node v handled.1
      updates := state.updates ++ Network.packets handled.2 } := by
  simp only [encode, WireState.transmit, List.map_append, encode_packets]

theorem react_encode (event : Node.Event) :
    state.encode.react v event = (Network.react state v event).map encode := by
  unfold WireState.react Network.react
  by_cases possible : (state.node v).Enabled event
  · rw [if_pos possible, if_pos (show (state.encode.node v).Enabled event from possible),
      encode_transmit]
    rfl
  · rw [if_neg possible, if_neg (show ¬(state.encode.node v).Enabled event from possible)]
    rfl

theorem recvBsdv_encode (socket : Socket) (sender : Ipv4Address) (message : Message)
    (hardware : Mac48Address) :
    state.encode.recvBsdv v socket sender message.packet hardware =
      (Network.react state v (.recv socket sender message hardware)).map encode := by
  rw [← react_encode]
  unfold WireState.recvBsdv WireState.react
  rw [removeHeaders_packet]
  rfl

variable {network : Network V} [∀ v i w j, Decidable (network.link v i w j)]

theorem next_encode (state : NetworkState V) (action : Action V) :
    WireState.next network state.encode action = (network.next state action).map encode := by
  cases action with
  | event v event =>
      cases event with
      | recv socket sender message hardware => rfl
      | elapse duration => rfl
      | purge => exact react_encode _
      | txError hardware => exact react_encode _
      | interfaceUp i => exact react_encode _
      | interfaceDown i => exact react_encode _
  | sendHello v reached =>
      simp only [WireState.next, Network.next]
      split
      · rw [react_encode, Option.map_map, Option.map_map]
        refine congrArg₂ Option.map (funext fun after => ?_) rfl
        simp only [Function.comp_apply, encode, List.map_append, encode_hellosTo]
      · rfl
  | deliverHello k hardware =>
      simp only [WireState.next, Network.next]
      cases found : state.hellos[k]? with
      | none => simp [encode, found]
      | some hello =>
          simp only [encode, List.getElem?_map, found, Option.map_some, Option.bind_some,
            List.eraseIdx_map]
          cases Network.broadcastSocket (state.node hello.receiver) hello.index with
          | none => rfl
          | some socket =>
              exact @recvBsdv_encode V _ { state with hellos := state.hellos.eraseIdx k }
                _ socket hello.source
                (.hello hello.header) hardware
  | deliverUpdate k v =>
      simp only [WireState.next, Network.next]
      cases found : state.updates[k]? with
      | none => simp [encode, found]
      | some packet =>
          simp only [encode, List.getElem?_map, found, Option.map_some, Option.bind_some,
            List.eraseIdx_map, Packet.encode]
          cases Network.unicastSocket (state.node v) packet.destination with
          | none => rfl
          | some socket =>
              exact @recvBsdv_encode V _ { state with updates := state.updates.eraseIdx k }
                _ socket packet.source
                (.update packet.header) 0
  | elapse duration => rfl

/-- A network whose nodes send each other bytes reaches what it reaches with messages. -/
theorem reach_encode_iff {ok : WireState V → Action V → Prop} {image : WireState V} :
    Reach (WireState.next network) ok (WireState.initial network) image ↔
      ∃ state, Reach network.next (fun state action => ok state.encode action)
        network.initial state ∧
        state.encode = image := by
  have start : (network.initial).encode = WireState.initial network := rfl
  rw [← start]
  exact reach_represent_iff encode next_encode

/-! ## What is received -/

theorem react_hellos {event : Node.Event} {after : NetworkState V}
    (reacted : Network.react state v event = some after) :
    after.hellos = state.hellos := by
  unfold Network.react at reacted
  split at reacted
  · rw [← Option.some.inj reacted]
  · cases reacted

def Confirmed (state : NetworkState V) : Prop :=
  ∀ hello ∈ state.hellos, hello.header.dst = hello.header.origin

omit [DecidableEq V] in
theorem hellosTo_confirmed {node : Node} {reached : List (Nat × V × Nat)} :
    ∀ hello ∈ Network.hellosTo node reached, hello.header.dst = hello.header.origin := by
  intro hello member
  obtain ⟨hop, _, sent⟩ := List.mem_flatMap.mp member
  obtain ⟨message, chosen, rfl⟩ := List.mem_map.mp sent
  obtain ⟨entry, _, rfl⟩ := List.mem_map.mp (List.mem_of_mem_filter chosen)
  rfl

theorem Confirmed.next {action : Action V} {after : NetworkState V} (confirmed : state.Confirmed)
    (taken : network.next state action = some after) : after.Confirmed := by
  cases action with
  | event v event =>
      cases event with
      | recv socket sender message hardware => cases taken
      | elapse duration => cases taken
      | purge => exact fun hello member => confirmed hello (react_hellos taken ▸ member)
      | txError hardware => exact fun hello member => confirmed hello (react_hellos taken ▸ member)
      | interfaceUp i => exact fun hello member => confirmed hello (react_hellos taken ▸ member)
      | interfaceDown i => exact fun hello member => confirmed hello (react_hellos taken ▸ member)
  | sendHello v reached =>
      simp only [Network.next] at taken
      split at taken
      · obtain ⟨middle, reacted, rfl⟩ := Option.map_eq_some_iff.mp taken
        intro hello member
        rcases List.mem_append.mp member with old | new
        · exact confirmed hello (react_hellos reacted ▸ old)
        · exact hellosTo_confirmed hello new
      · cases taken
  | deliverHello k hardware =>
      obtain ⟨hello, found, rest⟩ := Option.bind_eq_some_iff.mp taken
      obtain ⟨socket, bound, reacted⟩ := Option.bind_eq_some_iff.mp rest
      intro other member
      rw [react_hellos reacted] at member
      exact confirmed other (List.mem_of_mem_eraseIdx member)
  | deliverUpdate k v =>
      obtain ⟨packet, found, rest⟩ := Option.bind_eq_some_iff.mp taken
      obtain ⟨socket, bound, reacted⟩ := Option.bind_eq_some_iff.mp rest
      exact fun hello member => confirmed hello (react_hellos reacted ▸ member)
  | elapse duration =>
      rw [← Option.some.inj taken]
      exact confirmed

/-- Every packet of a run is read back as the message that was serialized: none fails an assertion
of `Deserialize` or is dropped for its type, and `RecvHello` rejects none. -/
theorem packets_received {ok : WireState V → Action V → Prop} {image : WireState V}
    (reach : Reach (WireState.next network) ok (WireState.initial network) image) :
    (∀ packet ∈ image.updates, ∃ header, packet.bytes = (Message.update header).packet ∧
      removeHeaders packet.bytes = some (some (.update header))) ∧
    ∀ hello ∈ image.hellos, ∃ header, hello.bytes = (Message.hello header).packet ∧
      removeHeaders hello.bytes = some (some (.hello header)) ∧ header.dst = header.origin := by
  have represented : ∃ state : NetworkState V, Reach network.next
      (fun state action => ok state.encode action)
      network.initial state ∧ state.encode = image := by
    have start : (network.initial).encode = WireState.initial network := rfl
    exact (reach_represent_iff encode next_encode).mp (start ▸ reach)
  obtain ⟨state, messages, rfl⟩ := represented
  have confirmed : state.Confirmed := by
    refine messages.invariant (P := Confirmed) (fun hello member => ?_) fun _ _ _ confirmed _ =>
      confirmed.next
    simp [Network.initial] at member
  constructor
  · intro packet member
    obtain ⟨sent, _, rfl⟩ := List.mem_map.mp member
    exact ⟨sent.header, rfl, removeHeaders_packet (.update sent.header)⟩
  · intro hello member
    obtain ⟨sent, among, rfl⟩ := List.mem_map.mp member
    exact ⟨sent.header, rfl, removeHeaders_packet (.hello sent.header), confirmed sent among⟩

theorem packets_received_fourNodes : ∃ image,
    Reach (WireState.next (StaticNetwork.fourNodes [(1, 2)]).toNetwork) (fun _ _ => True)
      (WireState.initial (StaticNetwork.fourNodes [(1, 2)]).toNetwork) image ∧
    (image.hellos ≠ [] ∧ image.updates ≠ []) ∧
    (∀ packet ∈ image.updates, ∃ header, packet.bytes = (Message.update header).packet ∧
      removeHeaders packet.bytes = some (some (.update header))) ∧
    ∀ hello ∈ image.hellos, ∃ header, hello.bytes = (Message.hello header).packet ∧
      removeHeaders hello.bytes = some (some (.hello header)) ∧ header.dst = header.origin := by
  -- node 1 hears node 2 and answers with its table, while a HELLO of its own is on its way
  obtain ⟨image, reach, checked⟩ := exists_reach_of_follow
    (WireState.next (StaticNetwork.fourNodes [(1, 2)]).toNetwork) (fun _ _ => True)
    (WireState.initial (StaticNetwork.fourNodes [(1, 2)]).toNetwork)
    (StaticNetwork.hears 1 2 ++ [.sendHello 1 [(1, 2, 1)]])
    (fun image => !image.hellos.isEmpty && !image.updates.isEmpty) (by decide +kernel)
  simp only [Bool.and_eq_true, Bool.not_eq_true', List.isEmpty_eq_false_iff] at checked
  exact ⟨image, reach, checked, packets_received reach⟩

end NetworkState

end Bsdvr
