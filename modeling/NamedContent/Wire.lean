import NamedContent.Packet.Encode

/-!
# Messages with their packets

A wire message is a message, the packet it was read from or written to, and the ranges of the
packet that are signed and hashed. The packet is one byte string or a scatter list, never both.
-/

namespace NamedContent

/-- A packet in one piece or in segments. -/
inductive WireForm
  | buffer (bytes : Bytes)
  | scatter (segments : Scatter)

namespace WireForm

/-- The bytes of a packet. -/
def toBytes : WireForm → Bytes
  | .buffer b => b
  | .scatter s => s.toBytes

/-- The length of a packet. -/
def length : WireForm → Nat
  | .buffer b => b.length
  | .scatter s => s.length

/-- The parts that make up a range, when the range is in the packet. -/
def slices? (w : WireForm) (start stop : Nat) : Option (List Bytes) :=
  match w with
  | .buffer b => if stop < start ∨ b.length < stop then none else some [Bytes.slice start stop b]
  | .scatter s => s.slices? start stop

/-- Writes a packet to a sink and tells its length. -/
def writeTo {ε σ : Type} (w : WireForm) (sink : Scatter.Sink ε σ) (state : σ) :
    Except (Scatter.WriteError ε) Nat × σ :=
  match w with
  | .buffer b =>
    match Scatter.writeAll sink state b with
    | (.ok (), state) => (.ok b.length, state)
    | (.error e, state) => (.error e, state)
  | .scatter s => s.writeTo sink state

end WireForm

/-- Why something that needs a packet cannot be done. -/
inductive WireError
  | noWireForm
  | noRegion (name : String)
  | alreadySet
  | regionOutOfBounds (region : Region) (available : Nat)
  | noSignature
  | encode (error : EncodeError)
deriving DecidableEq, Repr

namespace WireError

/-- The name of a failure. -/
def name : WireError → String
  | .noWireForm => "NoWireFormat"
  | .noRegion _ => "NoRegion"
  | .alreadySet => "WireFormatAlreadySet"
  | .regionOutOfBounds .. => "RegionOutOfBounds"
  | .noSignature => "NoSignature"
  | .encode _ => "Encode"

/-- The wording of a failure. -/
def message : WireError → String
  | .noWireForm => "Message has no wire format"
  | .noRegion name => s!"{name} region is not set"
  | .alreadySet => "Wire format is already set"
  | .regionOutOfBounds region available =>
    s!"Region {region.start}..{region.stop} is outside the {available} byte packet"
  | .noSignature => "Message carries no signature"
  | .encode error => error.message

end WireError

/-- A message and its packet. -/
structure WireMessage where
  message : Message
  form : Option WireForm := none
  signed : Option Region := none
  hashed : Option Region := none

namespace WireMessage

/-- A message that has not been written. -/
def create (message : Message) : WireMessage := { message }

/-- A message and its packet in one piece. -/
def ofBuffer (message : Message) (b : Bytes) : WireMessage := { message, form := some (.buffer b) }

/-- A message and its packet in segments. -/
def ofScatter (message : Message) (s : Scatter) : WireMessage :=
  { message, form := some (.scatter s) }

/-- A message as it was read. -/
def ofDecoded (d : Packet.Decoded) : WireMessage :=
  { message := d.message, form := some (.buffer d.packet), signed := some d.signed,
    hashed := some d.hashed }

/-- Reads the packet at the front of a byte string. -/
def decode (b : Bytes) : Except DecodeError WireMessage := (Packet.decode b).map ofDecoded

/-- The length of the packet. -/
def length? (w : WireMessage) : Option Nat := w.form.map WireForm.length

/-- Writes the message; the new packet takes the place of the old one. -/
def encode (w : WireMessage) (signer : Option Signer) (config : Config) (now : UInt64) :
    Except WireError WireMessage :=
  match Packet.encode w.message signer config now with
  | .error e => .error (.encode e)
  | .ok e => .ok
    { message := e.message, form := some (.scatter e.wire), signed := some e.signed,
      hashed := some e.hashed }

/-! ## Ranges -/

/-- The parts of the packet that make up a range. -/
def slices (w : WireMessage) (region : Region) : Except WireError (List Bytes) :=
  match w.form with
  | none => .error .noWireForm
  | some form =>
    match form.slices? region.start region.stop with
    | some parts => .ok parts
    | none => .error (.regionOutOfBounds region form.length)

/-- The signed range. -/
def signedRegion (w : WireMessage) : Except WireError Region :=
  match w.signed with
  | some region => .ok region
  | none => .error (.noRegion "Protected")

/-- The hashed range. -/
def hashedRegion (w : WireMessage) : Except WireError Region :=
  match w.hashed with
  | some region => .ok region
  | none => .error (.noRegion "Content object hash")

/-- The digest of a range, taken part by part; the state of the digester is started anew. -/
def hashRegion {σ : Type} (w : WireMessage) (region : Region) (d : Digester σ) (state : σ) :
    Except WireError Bytes :=
  (w.slices region).map fun parts => d.digest (parts.foldl d.update (d.restart state))

/-- The digest of the signed bytes. -/
def hashSigned {σ : Type} (w : WireMessage) (d : Digester σ) (state : σ) :
    Except WireError Bytes := do
  w.hashRegion (← w.signedRegion) d state

/-- The digest that identifies a content object. -/
def contentHash (w : WireMessage) : Except WireError Bytes := do
  w.hashRegion (← w.hashedRegion) Hasher.digester .init

/-- Whether the signature of the message is one of the signed bytes. -/
def verify (w : WireMessage) (verifier : Verifier) : Except WireError Bool :=
  match w.message.bytes? .signature with
  | none => .error .noSignature
  | some signature => do
    let parts ← w.slices (← w.signedRegion)
    return verifier.verify parts.flatten signature

/-! ## Writing -/

/-- Why a packet was not written. -/
inductive WriteError (ε : Type)
  | noWireForm
  | failed (error : Scatter.WriteError ε)
deriving DecidableEq, Repr

/-- Writes the packet to a sink and tells its length. -/
def writeTo {ε σ : Type} (w : WireMessage) (sink : Scatter.Sink ε σ) (state : σ) :
    Except (WriteError ε) Nat × σ :=
  match w.form with
  | none => (.error .noWireForm, state)
  | some form =>
    match form.writeTo sink state with
    | (.ok n, state) => (.ok n, state)
    | (.error e, state) => (.error (.failed e), state)

end WireMessage

end NamedContent
