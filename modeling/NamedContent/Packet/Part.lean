import NamedContent.Packet.Slot

/-!
# Parts of packets

What is known after a part of a packet was read into a message: the message, with everything up to
the first fault, how far the part was read, and the fault.
-/

namespace NamedContent

/-- The outcome of reading a part of a packet. -/
structure Part where
  message : Message
  position : Nat
  fault : Option DecodeError := none
  /-- The fault is that the part itself goes on with something that is no element. -/
  broken : Bool := false

namespace Part

/-- The message, when there was no fault. -/
def result (p : Part) : Except DecodeError Message :=
  match p.fault with
  | none => .ok p.message
  | some e => .error e

/-- The outcome of reading a sequence of elements. -/
def ofReading (r : Tlv.Reading DecodeError Message) : Part where
  message := r.state
  position := r.position
  fault := match r.result id with
    | .ok _ => none
    | .error e => some e
  broken := r.broken?.isSome

/-- Reads a zone into a message. -/
def ofZone (zone : Zone) (m : Message) (b : Bytes) : Part :=
  ofReading (Tlv.read (Message.take zone) m b)

/-- Reads the headers that change from hop to hop. -/
def ofHop (m : Message) (b : Bytes) : Part := ofZone .hop m b

/-- Whether a message lacks the name that every message but a control message has. -/
def lacksName (m : Message) : Bool := m.kind != .control && !m.contains .name

/-- Reads the body of a message; at its end there must be a name. -/
def ofBody (m : Message) (b : Bytes) : Part :=
  let p := ofZone .body m b
  if p.fault.isNone && lacksName p.message then
    { p with fault := some (.missingMandatoryField Field.name.label) }
  else p

/-- The type of the element that holds the validation algorithm. -/
def algorithmType : UInt16 := 0x0003

/-- The type of the element that holds the signature. -/
def signatureType : UInt16 := 0x0004

/-- Reads the fields of a crypto suite, behind which nothing may follow. -/
def ofSuite (m : Message) (suite : Tlv) (behind : Bytes) : Part :=
  let r :=
    Tlv.read (Message.take .suite) (m.set .cryptoSuite (.int suite.type.toUInt64)) suite.value
  match r.result id with
  | .error e => { message := r.state, position := suite.size, fault := some e }
  | .ok m =>
    if behind.isEmpty then { message := m, position := suite.size }
    else { message := m, position := suite.size, fault := some .secondCryptoSuite }

/-- Reads a validation algorithm: one element, whose type is the crypto suite. -/
def ofAlgorithm (m : Message) (b : Bytes) : Part :=
  match Tlv.next b with
  | .error e => { message := m, position := 0, fault := some e, broken := true }
  | .ok (suite, behind) =>
    if m.contains .cryptoSuite then
      { message := m, position := Tlv.headerLength, fault := some (.duplicateField algorithmType) }
    else ofSuite m suite behind

/-- Takes in a signature. -/
def takeSignature (m : Message) (b : Bytes) : Except DecodeError Message :=
  match m.put .signature (.bytes b) with
  | .ok m => .ok m
  | .error _ => .error (.duplicateField signatureType)

end Part

end NamedContent
