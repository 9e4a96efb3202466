import NamedContent.Packet.Header
import NamedContent.Packet.Part

/-!
# Reading packets

A packet is a fixed header, headers that change from hop to hop, one message, and optionally a
validation algorithm and a signature. `Packet.decode` reads the packet at the front of a byte
string and tells which of its bytes are signed and which are hashed.
-/

namespace NamedContent

/-- A range of bytes. -/
structure Region where
  start : Nat
  length : Nat
deriving DecidableEq, Repr

/-- Where a range ends. -/
def Region.stop (r : Region) : Nat := r.start + r.length

namespace Packet

/-- What was read from a packet. -/
structure Decoded where
  message : Message
  /-- The packet itself, without what follows it. -/
  packet : Bytes
  /-- The signed bytes: message and validation algorithm. -/
  signed : Region
  /-- The bytes that the digest of a content object is taken over: all but the headers. -/
  hashed : Region

/-- The length that the packet at the front of a byte string announces. -/
def announcedLength? : Bytes → Option Nat
  | version :: _ :: l1 :: l0 :: _ =>
    if version = schemaVersion then some (Bytes.toNat [l1, l0]) else none
  | _ => none

/-- Reads a signature, if one follows. -/
def readSignature (m : Message) (b : Bytes) : Except DecodeError (Message × Bytes) :=
  if Tlv.type? b = some Part.signatureType then do
    let (t, rest) ← Tlv.next b
    return (← Part.takeSignature m t.value, rest)
  else return (m, b)

/-- Reads the validation, if one follows the message; yields what is behind it and the number of
bytes of the validation algorithm. -/
def readValidation (m : Message) (b : Bytes) : Except DecodeError (Message × Bytes × Nat) :=
  if Tlv.type? b = some Part.algorithmType then do
    let (t, rest) ← Tlv.next b
    let algorithm ← (Part.ofAlgorithm m t.value).result
    let (signed, rest) ← readSignature algorithm rest
    return (signed, rest, t.size)
  else return (m, b, 0)

/-- The message element, which must have the type of the kind of message. -/
def readMessage (m : Message) (b : Bytes) : Except DecodeError (Message × Bytes × Nat) :=
  if b.isEmpty then .error (.missingMandatoryField "Message")
  else do
    let (t, rest) ← Tlv.next b
    if t.type ≠ m.kind.elementType then
      .error (.messageTypeMismatch t.type m.kind.elementType)
    else return (← (Part.ofBody m t.value).result, rest, t.size)

/-- Reads a packet of exactly the announced length behind its fixed header. -/
def decodeBehind (h : Header) (packet : Bytes) (m : Message) : Except DecodeError Decoded := do
  let headerLength := h.headerLength.toNat
  let hop ← (Part.ofHop m (Bytes.slice fixedHeaderLength headerLength packet)).result
  let (body, rest, messageSize) ← readMessage hop (packet.drop headerLength)
  let (validated, rest, algorithmSize) ← readValidation body rest
  if rest.isEmpty then
    return {
      message := validated
      packet
      signed := ⟨headerLength, messageSize + algorithmSize⟩
      hashed := ⟨headerLength, packet.length - headerLength⟩ }
  else .error (.trailingUnaccountedBytes rest.length)

/-- Reads the packet at the front of a byte string by its fixed header. -/
def decodeAnnounced (b : Bytes) : Except DecodeError Decoded := do
  let h ← Header.parse b
  match Bytes.splitAt? h.packetLength.toNat b with
  | none => .error (.fieldBeyondPacketEnd 0 h.packetLength.toNat b.length)
  | some (packet, _) =>
    let kind ← h.kind
    decodeBehind h packet (h.store (.empty kind))

/-- Reads the packet at the front of a byte string; its first byte is the version. -/
def decode : Bytes → Except DecodeError Decoded
  | [] => .error (.fieldBeyondPacketEnd 0 fixedHeaderLength 0)
  | version :: rest =>
    if version = schemaVersion then decodeAnnounced (version :: rest)
    else .error (.versionMismatch version)

end Packet

end NamedContent
