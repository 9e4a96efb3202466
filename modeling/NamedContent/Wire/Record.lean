import NamedContent.Wire

/-!
# Wire messages that are changed in place

A wire record is a message with a place for its packet in one piece, a place for its packet in
segments, and places for the ranges of the packet. A packet is put into its place once, or the
message is written; both change the record where it stands. `WireRecord.wire` is the wire message
that a record shows.
-/

namespace NamedContent

/-- A message, and the places for its packet and for the ranges of the packet. -/
structure WireRecord where
  message : Message
  buffer : Option Bytes := none
  segments : Option Scatter := none
  signed : Option Region := none
  hashed : Option Region := none

namespace WireRecord

/-- A message that has not been written. -/
def create (message : Message) : WireRecord := { message }

/-- A message and its packet in one piece. -/
def ofBuffer (message : Message) (b : Bytes) : WireRecord :=
  { create message with buffer := some b }

/-- A message and its packet in segments. -/
def ofScatter (message : Message) (s : Scatter) : WireRecord :=
  { create message with segments := some s }

/-- A message as it was read. -/
def ofDecoded (d : Packet.Decoded) : WireRecord :=
  { ofBuffer d.message d.packet with signed := some d.signed, hashed := some d.hashed }

/-- Reads the packet at the front of a byte string. -/
def decode (b : Bytes) : Except DecodeError WireRecord := (Packet.decode b).map ofDecoded

/-- The packet. The place for one piece is looked at first. -/
def form? (r : WireRecord) : Option WireForm :=
  match r.buffer, r.segments with
  | some b, _ => some (.buffer b)
  | none, some s => some (.scatter s)
  | none, none => none

/-- Whether there is a packet. -/
def hasForm (r : WireRecord) : Bool := r.buffer.isSome || r.segments.isSome

/-- The wire message that a record shows. -/
def wire (r : WireRecord) : WireMessage :=
  { message := r.message, form := r.form?, signed := r.signed, hashed := r.hashed }

/-! ## Changes -/

/-- Puts a packet in one piece into its place, when there is no packet yet. -/
def setBuffer (r : WireRecord) (b : Bytes) : Except WireError Unit × WireRecord :=
  if r.hasForm then (.error .alreadySet, r) else (.ok (), { r with buffer := some b })

/-- Puts a packet in segments into its place, when there is no packet yet. -/
def setSegments (r : WireRecord) (s : Scatter) : Except WireError Unit × WireRecord :=
  if r.hasForm then (.error .alreadySet, r) else (.ok (), { r with segments := some s })

/-- Writes the message where it stands. The new packet is in segments, and takes the place of the
old one. -/
def encode (r : WireRecord) (signer : Option Signer) (config : Config) (now : UInt64) :
    Except WireError Scatter × WireRecord :=
  match Packet.encodeInPlace r.message signer config now with
  | (.error e, message) => (.error (.encode e), { r with message })
  | (.ok e, message) =>
    (.ok e.wire,
      { message, buffer := none, segments := some e.wire, signed := some e.signed,
        hashed := some e.hashed })

end WireRecord

end NamedContent
