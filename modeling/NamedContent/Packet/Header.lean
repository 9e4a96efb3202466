import NamedContent.Message.Basic

/-!
# Fixed headers

The first eight bytes of a packet: version, packet type, the length of the packet, hop limit,
return code, flags and the length of all headers.

* `Header.parse` reads a header and checks its lengths, `Header.store` records it in a message and
  `Header.ofMessage` makes the one with which a message is written.
-/

namespace NamedContent

/-- The fixed header of a packet. -/
structure Header where
  version : UInt8
  packetType : UInt8
  packetLength : UInt16
  hopLimit : UInt8
  returnCode : UInt8
  flags : UInt8
  headerLength : UInt8
deriving DecidableEq, Repr

namespace Header

/-- The written form. -/
def toBytes (h : Header) : Bytes :=
  [h.version, h.packetType] ++ Bytes.ofNat 2 h.packetLength.toNat ++
    [h.hopLimit, h.returnCode, h.flags, h.headerLength]

/-- The first rule of headers that a header breaks, if it breaks one. -/
def fault? (h : Header) : Option DecodeError :=
  if h.version ≠ schemaVersion then some (.versionMismatch h.version)
  else if h.packetLength.toNat < fixedHeaderLength then some (.packetTooShort h.packetLength)
  else if h.headerLength.toNat < fixedHeaderLength then some (.headerTooShort h.headerLength)
  else if h.packetLength.toNat < h.headerLength.toNat then
    some (.packetShorterThanHeader h.packetLength h.headerLength)
  else none

/-- The header at the front of a byte string. -/
def parse : Bytes → Except DecodeError Header
  | version :: packetType :: l1 :: l0 :: hopLimit :: returnCode :: flags :: headerLength :: _ =>
    let h : Header :=
      { version, packetType, packetLength := UInt16.ofNat (Bytes.toNat [l1, l0]), hopLimit,
        returnCode, flags, headerLength }
    match h.fault? with
    | some e => .error e
    | none => .ok h
  | b => .error (.fieldBeyondPacketEnd 0 fixedHeaderLength b.length)

/-- The kind of message in the packet. -/
def kind (h : Header) : Except DecodeError MessageKind :=
  match MessageKind.ofPacketType? h.packetType with
  | some kind => .ok kind
  | none => .error (.packetTypeUnknown h.packetType)

/-- Records a header in a message: the header itself, for requests the hop limit, and for returned
requests the return code. -/
def store (h : Header) (m : Message) : Message :=
  let recorded := m.set .fixedHeader (.bytes h.toBytes)
  match m.kind with
  | .interest => recorded.set .hopLimit (.int h.hopLimit.toUInt64)
  | .interestReturn =>
    (recorded.set .hopLimit (.int h.hopLimit.toUInt64)).set .returnCode
      (.int h.returnCode.toUInt64)
  | .contentObject | .control => recorded

/-- The number in a field as a byte; greater numbers become 255 and no number becomes 0. -/
def clampedByte (m : Message) (field : Field) : UInt8 :=
  match m.int? field with
  | some n => UInt8.ofNat (min n.toNat 255)
  | none => 0

/-- The flags of the header that a message was read with. -/
def keptFlags (m : Message) : UInt8 :=
  match m.bytes? .fixedHeader with
  | some b => b[6]?.getD 0
  | none => 0

/-- The header of a message in a packet of a given length. Only requests have a hop limit and
flags, and only returned requests a return code. -/
def ofMessage (m : Message) (packetLength headerLength : Nat) : Except EncodeError Header :=
  if 255 < headerLength then .error (.headersTooLong headerLength)
  else if maxLength < packetLength then .error (.packetTooLong packetLength maxLength)
  else .ok
    { version := schemaVersion
      packetType := m.kind.packetType
      packetLength := UInt16.ofNat packetLength
      hopLimit := if m.kind.isRequest then clampedByte m .hopLimit else 0
      returnCode := if m.kind = .interestReturn then clampedByte m .returnCode else 0
      flags := if m.kind.isRequest then keptFlags m else 0
      headerLength := UInt8.ofNat headerLength }

end Header

end NamedContent
