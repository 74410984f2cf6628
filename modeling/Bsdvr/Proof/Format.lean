import Bsdvr.Foundation.Codec
import Bsdvr.Model.Packet

namespace Bsdvr
open Foundation

/-! ## Headers -/

private theorem word_of_bytes (value : BitVec 32) :
    value.extractLsb' 24 8 ++ value.extractLsb' 16 8 ++ value.extractLsb' 8 8 ++
      value.extractLsb' 0 8 = value := by
  have high := @BitVec.extractLsb'_append_extractLsb'_eq_extractLsb' 32 24 16 8 8 value rfl
  have middle := @BitVec.extractLsb'_append_extractLsb'_eq_extractLsb' 32 16 8 8 (8 + 8) value rfl
  have low := @BitVec.extractLsb'_append_extractLsb'_eq_extractLsb' 32 8 0 8 (8 + 8 + 8) value rfl
  rw [high, middle]
  exact low.trans BitVec.extractLsb'_eq_self

private theorem bytes_of_word (first second third fourth : Byte) :
    writeHtonU32 (first ++ second ++ third ++ fourth) = [first, second, third, fourth] := by
  have top : (first ++ second ++ third ++ fourth).extractLsb' 24 8 = first := by
    rw [BitVec.extractLsb'_append_eq_of_le (by decide),
      BitVec.extractLsb'_append_eq_of_le (by decide)]
    exact BitVec.extractLsb'_append_eq_left
  have upper : (first ++ second ++ third ++ fourth).extractLsb' 16 8 = second := by
    rw [BitVec.extractLsb'_append_eq_of_le (by decide),
      BitVec.extractLsb'_append_eq_of_le (by decide)]
    exact BitVec.extractLsb'_append_eq_right
  have lower : (first ++ second ++ third ++ fourth).extractLsb' 8 8 = third := by
    rw [BitVec.extractLsb'_append_eq_of_le (by decide)]
    exact BitVec.extractLsb'_append_eq_right
  have bottom : (first ++ second ++ third ++ fourth).extractLsb' 0 8 = fourth :=
    BitVec.extractLsb'_append_eq_right
  unfold writeHtonU32
  exact congrArg₂ _ top (congrArg₂ _ upper (congrArg₂ _ lower (congrArg₂ _ bottom rfl)))

theorem word_codec : Codec writeHtonU32 readNtohU32 4 where
  length _ := rfl
  read_write value rest := by
    show some (_, rest) = some (value, rest)
    rw [word_of_bytes]
  write_read input value rest taken := by
    match input, taken with
    | first :: second :: third :: fourth :: i, taken =>
      obtain ⟨rfl, rfl⟩ := Prod.mk.inj (Option.some.inj taken)
      rw [bytes_of_word]
      rfl
  total input enough := by
    match input, enough with
    | first :: second :: third :: fourth :: i, _ => exact ⟨_, _, rfl⟩

theorem HelloHeader.codec : Codec serialize deserialize serializedSize := by
  let fields : Ipv4Address × Ipv4Address ≃ HelloHeader :=
    ⟨fun values => ⟨values.1, values.2⟩, fun header => (header.origin, header.dst), fun _ => rfl,
      fun _ => rfl⟩
  have codec := ((word_codec.pair word_codec).equiv fields).checked
  convert codec using 1
  · rfl
  · funext start
    unfold deserialize readFrom
    cases readNtohU32 start with
    | none => rfl
    | some first =>
        cases second : readNtohU32 first.2 with
        | none => simp [second]
        | some last =>
            simp only [second, Option.bind_eq_bind, Option.bind_some, Option.map_some]
            rfl
  · rfl

theorem UpdateHeader.codec : Codec serialize deserialize serializedSize := by
  let fields : ((Ipv4Address × Ipv4Address) × BitVec 32) × BitVec 32 ≃ UpdateHeader :=
    ⟨fun values => ⟨values.1.1.1, values.1.1.2, values.1.2, values.2⟩,
      fun header => (((header.origin, header.dst), header.hopCount), header.binaryState),
      fun _ => rfl, fun _ => rfl⟩
  have codec :=
    ((((word_codec.pair word_codec).pair word_codec).pair word_codec).equiv fields).checked
  convert codec using 1
  · rfl
  · funext start
    unfold deserialize readFrom
    cases readNtohU32 start with
    | none => rfl
    | some first =>
        cases second : readNtohU32 first.2 with
        | none => simp [second]
        | some next =>
            cases third : readNtohU32 next.2 with
            | none => simp [second, third]
            | some later =>
                cases fourth : readNtohU32 later.2 with
                | none => simp [second, third, fourth]
                | some last =>
                    simp only [second, third, fourth, Option.bind_eq_bind, Option.bind_some,
                      Option.map_some]
                    rfl
  · rfl

/-! ## Packets -/

theorem addHeader_eq {size : Nat} {written packet : List Byte} (exact : written.length = size) :
    addHeader size written packet = written ++ packet := by
  subst exact
  unfold addHeader
  rw [List.drop_left' List.length_replicate]

theorem hello_packet (header : HelloHeader) :
    (Message.hello header).packet = 1 :: header.serialize := by
  have body : addHeader HelloHeader.serializedSize header.serialize [] = header.serialize := by
    rw [addHeader_eq (HelloHeader.codec.length header), List.append_nil]
  simp only [Message.packet, body]
  exact addHeader_eq rfl

theorem update_packet (header : UpdateHeader) :
    (Message.update header).packet = 2 :: header.serialize := by
  have body : addHeader UpdateHeader.serializedSize header.serialize [] = header.serialize := by
    rw [addHeader_eq (UpdateHeader.codec.length header), List.append_nil]
  simp only [Message.packet, body]
  exact addHeader_eq rfl

theorem removeHeaders_hello (rest : List Byte) : removeHeaders (1 :: rest) =
    (HelloHeader.deserialize rest).map fun (header, _) => some (.hello header) := by
  show (HelloHeader.deserialize rest).bind _ = _
  cases HelloHeader.deserialize rest <;> rfl

theorem removeHeaders_update (rest : List Byte) : removeHeaders (2 :: rest) =
    (UpdateHeader.deserialize rest).map fun (header, _) => some (.update header) := by
  show (UpdateHeader.deserialize rest).bind _ = _
  cases UpdateHeader.deserialize rest <;> rfl

theorem removeHeaders_other {type : Byte} (hello : type ≠ 1) (update : type ≠ 2)
    (rest : List Byte) :
    removeHeaders (type :: rest) = some none := by
  have read : TypeHeader.deserialize ⟨.update, true⟩ (type :: rest) =
      some (⟨.update, false⟩, rest) := by
    exact (if_neg hello).trans (if_neg update)
  simp [removeHeaders, read]

theorem removeHeaders_packet (message : Message) :
    removeHeaders message.packet = some (some message) := by
  cases message with
  | hello header => rw [hello_packet, removeHeaders_hello, HelloHeader.codec.read_all,
      Option.map_some]
  | update header => rw [update_packet, removeHeaders_update, UpdateHeader.codec.read_all,
      Option.map_some]

theorem DataPlane.recvPacket_eq {plane : DataPlane} {socket : Socket}
    (known : (plane.node.receiver socket).isSome) (sender : Ipv4Address) (packet : List Byte)
    (hardware : Mac48Address) (memory : Ipv4Address → Nat → Memory) (fuel : Nat) :
    plane.recvPacket socket sender packet hardware memory fuel =
      (removeHeaders packet).bind fun message =>
      match message with
      | none => some ([], plane)
      | some message => plane.control (.recv socket sender message hardware) memory fuel := by
  simp only [recvPacket, known, guard, ↓reduceIte]
  cases removeHeaders packet with
  | none => rfl
  | some message => cases message <;> rfl

/-- Messages are read as they were written, strings of the two lengths and types are packets of
messages, and other types are dropped. -/
theorem packet_roundTrip :
    (∀ message : Message, message.packet.length =
      (match message with | .hello _ => 9 | .update _ => 17) ∧
      removeHeaders message.packet = some (some message)) ∧
    (∀ rest : List Byte, rest.length = 8 → ∃ header, removeHeaders (1 :: rest) =
      some (some (.hello header)) ∧
      (Message.hello header).packet = 1 :: rest) ∧
    (∀ rest : List Byte, rest.length = 16 → ∃ header, removeHeaders (2 :: rest) =
      some (some (.update header)) ∧
      (Message.update header).packet = 2 :: rest) ∧
    ∀ (plane : DataPlane) (socket : Socket) (sender : Ipv4Address) (hardware : Mac48Address)
      (memory : Ipv4Address → Nat → Memory) (fuel : Nat), (plane.node.receiver socket).isSome →
      (∀ message : Message, plane.recvPacket socket sender message.packet hardware memory fuel =
        plane.control (.recv socket sender message hardware) memory fuel) ∧
      ∀ (type : Byte) (rest : List Byte), type ≠ 1 → type ≠ 2 →
        plane.recvPacket socket sender (type :: rest) hardware memory fuel = some ([], plane) := by
  refine ⟨fun message => ⟨?_, removeHeaders_packet message⟩, fun rest size => ?_,
    fun rest size => ?_, ?_⟩
  · cases message with
    | hello header => rw [hello_packet, List.length_cons, HelloHeader.codec.length]; rfl
    | update header => rw [update_packet, List.length_cons, UpdateHeader.codec.length]; rfl
  · obtain ⟨header, read, same⟩ := HelloHeader.codec.exists_of_length size
    exact ⟨header, by rw [removeHeaders_hello, read, Option.map_some], by rw [hello_packet, same]⟩
  · obtain ⟨header, read, same⟩ := UpdateHeader.codec.exists_of_length size
    exact ⟨header, by rw [removeHeaders_update, read, Option.map_some], by rw [update_packet, same]⟩
  · intro plane socket sender hardware memory fuel known
    refine ⟨fun message => ?_, fun type rest hello update => ?_⟩
    · rw [DataPlane.recvPacket_eq known, removeHeaders_packet]
      rfl
    · rw [DataPlane.recvPacket_eq known, removeHeaders_other hello update]
      rfl

theorem packet_roundTrip_bytes :
    let node := (Node.initial [.loopback, ⟨0x0a010201#32, 0xffffff00#32, 0x0a0102ff#32⟩]
      true 1000 50 1000).notifyInterfaceUp 1
    let plane : DataPlane := ⟨node, ⟨[], 64⟩, []⟩
    (∃ header, removeHeaders [1, 10, 1, 2, 2, 10, 1, 2, 2] = some (some (.hello header)) ∧
      (Message.hello header).packet = [1, 10, 1, 2, 2, 10, 1, 2, 2]) ∧
    (∃ header, removeHeaders [2, 10, 1, 2, 2, 10, 1, 2, 9, 0, 0, 0, 1, 0, 0, 0, 1] =
      some (some (.update header)) ∧
      (Message.update header).packet = [2, 10, 1, 2, 2, 10, 1, 2, 9, 0, 0, 0, 1, 0, 0, 0, 1]) ∧
    plane.recvPacket ⟨2, 1, 0x0a010201#32⟩ 0x0a010202#32 [3, 10, 1] 7
    (fun _ _ _ _ => ⟨0, true⟩) 1 = some ([], plane) := by
  intro node plane
  obtain ⟨_, hello, update, receives⟩ := packet_roundTrip
  refine ⟨hello [10, 1, 2, 2, 10, 1, 2, 2] rfl,
    update [10, 1, 2, 2, 10, 1, 2, 9, 0, 0, 0, 1, 0, 0, 0, 1] rfl, ?_⟩
  obtain ⟨_, dropped⟩ := receives plane ⟨2, 1, 0x0a010201#32⟩ 0x0a010202#32 7
    (fun _ _ _ _ => ⟨0, true⟩) 1 (by decide)
  exact dropped 3 [10, 1] (by decide) (by decide)

end Bsdvr
