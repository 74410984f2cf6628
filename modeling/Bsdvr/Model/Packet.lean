import Bsdvr.Model.DataPlane

namespace Bsdvr

abbrev Byte := BitVec 8

/-! ## Buffers

An iterator is the list of the bytes from where it stands. A read past the end is `none`. -/

def writeHtonU32 (value : BitVec 32) : List Byte :=
  [value.extractLsb' 24 8, value.extractLsb' 16 8, value.extractLsb' 8 8, value.extractLsb' 0 8]

def readNtohU32 : List Byte → Option (BitVec 32 × List Byte)
  | first :: second :: third :: fourth :: i => some (first ++ second ++ third ++ fourth, i)
  | _ => none

def writeTo (addr : Ipv4Address) : List Byte := writeHtonU32 addr
def readFrom (i : List Byte) : Option (Ipv4Address × List Byte) := readNtohU32 i

/-- `Packet::AddHeader`: room of the declared size is made in front, and what is written starts
there. -/
def addHeader (serializedSize : Nat) (written packet : List Byte) : List Byte :=
  written ++ (List.replicate serializedSize 0 ++ packet).drop written.length

/-! ## Headers -/

inductive MessageType
  | hello
  | update
  deriving DecidableEq, Repr

def MessageType.code : MessageType → Byte
  | .hello => 1
  | .update => 2

structure TypeHeader where
  type : MessageType
  valid : Bool
  deriving DecidableEq, Repr

namespace TypeHeader

def serializedSize : Nat := 1

def serialize (header : TypeHeader) : List Byte := [header.type.code]

/-- `Deserialize` writes the fields of the header it is called on. -/
def deserialize (header : TypeHeader) : List Byte → Option (TypeHeader × List Byte)
  | [] => none
  | type :: i =>
      if type = MessageType.hello.code then some (⟨.hello, true⟩, i)
      else if type = MessageType.update.code then some (⟨.update, true⟩, i)
      else some ({ header with valid := false }, i)

end TypeHeader

namespace UpdateHeader

def serializedSize : Nat := 16

def serialize (header : UpdateHeader) : List Byte :=
  writeTo header.origin ++ writeTo header.dst ++ writeHtonU32 header.hopCount ++
    writeHtonU32 header.binaryState

def deserialize (start : List Byte) : Option (UpdateHeader × List Byte) := do
  let (origin, i) ← readFrom start
  let (dst, i) ← readFrom i
  let (hopCount, i) ← readNtohU32 i
  let (binaryState, i) ← readNtohU32 i
  -- the assertion on the distance that was read
  guard (start.length - i.length = serializedSize)
  return (⟨origin, dst, hopCount, binaryState⟩, i)

end UpdateHeader

namespace HelloHeader

def serializedSize : Nat := 8

def serialize (header : HelloHeader) : List Byte := writeTo header.origin ++ writeTo header.dst

def deserialize (start : List Byte) : Option (HelloHeader × List Byte) := do
  let (origin, i) ← readFrom start
  let (dst, i) ← readFrom i
  guard (start.length - i.length = serializedSize)
  return (⟨origin, dst⟩, i)

end HelloHeader

/-! ## Packets -/

/-- The packet of `SendHello` and that of `SendUpdate`. -/
def Message.packet : Message → List Byte
  | .hello hlHeader =>
      addHeader TypeHeader.serializedSize (TypeHeader.serialize ⟨.hello, true⟩)
        (addHeader HelloHeader.serializedSize hlHeader.serialize [])
  | .update uptHeader =>
      addHeader TypeHeader.serializedSize (TypeHeader.serialize ⟨.update, true⟩)
        (addHeader UpdateHeader.serializedSize uptHeader.serialize [])

/-- What `RecvBsdv`, `RecvHello` and `RecvUpdate` remove from a packet: no message where the type is
not valid. -/
def removeHeaders (packet : List Byte) : Option (Option Message) := do
  let (tHeader, p) ← TypeHeader.deserialize ⟨.update, true⟩ packet
  if tHeader.valid then
    match tHeader.type with
    | .hello =>
        let (hlHeader, _) ← HelloHeader.deserialize p
        return some (.hello hlHeader)
    | .update =>
        let (uptHeader, _) ← UpdateHeader.deserialize p
        return some (.update uptHeader)
  else return none

/-- `RecvBsdv` on the bytes that are read from a socket; where it does not return, an assertion
fails. -/
def DataPlane.recvPacket (plane : DataPlane) (socket : Socket) (sender : Ipv4Address)
    (packet : List Byte) (hardware : Mac48Address) (memory : Ipv4Address → Nat → Memory)
    (fuel : Nat) : Option (List Forwarded × DataPlane) := do
  guard (plane.node.receiver socket).isSome
  match ← removeHeaders packet with
  | none => return ([], plane)
  | some message => plane.control (.recv socket sender message hardware) memory fuel

end Bsdvr
