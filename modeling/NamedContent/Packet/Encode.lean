import NamedContent.Packet.Decode
import NamedContent.Packet.Validation
import NamedContent.Tlv.Encoder

/-!
# Writing packets

`Packet.encode` writes a message as a packet. The parts behind the fixed header are written first;
then their lengths are known, and the header is put in front of them. What the packet tells about
its signature is recorded in the message, which a failure leaves as it was.
-/

namespace NamedContent.Packet

/-- A packet that was written. -/
structure Encoded where
  wire : Scatter
  /-- The signed bytes: message and validation algorithm. -/
  signed : Region
  /-- The bytes that the digest of a content object is taken over: all but the headers. -/
  hashed : Region
  /-- The message with all that was recorded in it. -/
  message : Message

/-- Writes the message element. -/
def emitMessage (m : Message) : Emit Nat := Emit.container m.kind.elementType (m.emitZone .body)

/-- The parts of a packet behind its fixed header, and the message with what was recorded. -/
structure Parts where
  hop : Emit Nat
  message : Emit Nat
  algorithm : Emit Nat
  signature : Emit Nat
  recorded : Message

namespace Parts

/-- The parts of a message. The signature covers message and algorithm. -/
def ofMessage (m : Message) (signer : Option Signer) (config : Config) (now : UInt64) : Parts :=
  let message := emitMessage m
  let (algorithm, validated) := Validation.algorithm m signer config now
  let covered := match algorithm.result with
    | .ok length => if 0 < length then some (message.bytes ++ algorithm.bytes) else none
    | .error _ => none
  let (signature, recorded) := Validation.signature validated signer covered
  { hop := m.emitZone .hop, message, algorithm, signature, recorded }

/-- Writes the parts in order. -/
def emit (p : Parts) : Emit Unit := do
  let _ ← p.hop
  let _ ← p.message
  let _ ← p.algorithm
  let _ ← p.signature

/-- The length of all headers. -/
def headerLength (p : Parts) : Nat := fixedHeaderLength + Piece.total p.hop.pieces

/-- The number of signed bytes. -/
def signedLength (p : Parts) : Nat := Piece.total p.message.pieces + Piece.total p.algorithm.pieces

/-- The length of the packet. -/
def packetLength (p : Parts) : Nat := fixedHeaderLength + Piece.total p.emit.pieces

/-- What a copy of the message holds where the writing ends. Nothing is recorded before the message
has been written; then it is recorded up to the fault, if there is one. -/
def staged (p : Parts) (m : Message) : Message :=
  match p.hop.result, p.message.result with
  | .ok _, .ok _ => p.recorded
  | _, _ => m

end Parts

/-- The check that a packet is not longer than the settings allow. -/
def checkLength (length limit : Nat) : Except EncodeError Unit :=
  if limit < length then .error (.packetTooLong length limit) else .ok ()

/-- Writes a message as a packet at the time `now`. -/
def encode (m : Message) (signer : Option Signer) (config : Config) (now : UInt64) :
    Except EncodeError Encoded := do
  let parts := Parts.ofMessage m signer config now
  parts.emit.result
  checkLength parts.packetLength config.maxPacketLength
  let header ← Header.ofMessage parts.recorded parts.packetLength parts.headerLength
  return {
    wire := Piece.toScatter (.copied header.toBytes :: parts.emit.pieces)
    signed := ⟨parts.headerLength, parts.signedLength⟩
    hashed := ⟨parts.headerLength, parts.packetLength - parts.headerLength⟩
    message := parts.recorded }

/-- Writes a message as a packet and records what was derived in the copy it works on. -/
def encodeStaged (m : Message) (signer : Option Signer) (config : Config) (now : UInt64) :
    Except EncodeError Encoded × Message :=
  (encode m signer config now, (Parts.ofMessage m signer config now).staged m)

/-- Writes a message as a packet; the copy takes the place of the message once the packet is
complete. -/
def encodeInPlace (m : Message) (signer : Option Signer) (config : Config) (now : UInt64) :
    Except EncodeError Encoded × Message :=
  match encodeStaged m signer config now with
  | (.error e, _) => (.error e, m)
  | (.ok e, staged) => (.ok e, staged)

end NamedContent.Packet
