import NamedContent.Crypto.Signer
import NamedContent.Tlv.Emit

/-!
# Encoders

An encoder collects pieces. What it copied can be written over and cut off again; what it shares
with an owner can only be cut off. At the end it yields a scatter list, in which neighbouring
copied pieces are one segment.

A position at which something is to be written over is a word of 64 bits. Sums of such positions
wrap around, and a range that does so is taken for one that lies within the bytes written.
-/

namespace NamedContent

namespace Piece

/-- Writes data over the bytes from `offset` on, as far as there are any, until it meets a shared
byte; yields the data that this byte keeps from being written. -/
def overwrite (offset : Nat) (data : Bytes) : List Piece → List Piece × Bytes
  | [] => ([], [])
  | p :: rest =>
    if p.length ≤ offset then
      match overwrite (offset - p.length) data rest with
      | (rest, left) => (p :: rest, left)
    else match p with
      | shared b => (shared b :: rest, data)
      | copied b =>
        match overwrite 0 (data.drop (b.length - offset)) rest with
        | (rest, left) =>
          (copied (b.take offset ++ data.take (b.length - offset) ++ b.drop (offset + data.length))
            :: rest, left)

/-- The first `count` bytes. -/
def takeBytes (count : Nat) : List Piece → List Piece
  | [] => []
  | p :: rest =>
    if count = 0 then []
    else if p.length < count then p :: takeBytes (count - p.length) rest
    else match p with
      | copied b => [copied (b.take count)]
      | shared b => [shared (b.take count)]

/-- A segment in front of others; an empty one is left out. -/
def consFilled (b : Bytes) (segments : List Bytes) : List Bytes :=
  if b.isEmpty then segments else b :: segments

/-- The copied bytes in front, and the segments of the pieces behind them. -/
def join : List Piece → Bytes × List Bytes
  | [] => ([], [])
  | copied b :: rest =>
    match join rest with
    | (front, segments) => (b ++ front, segments)
  | shared b :: rest =>
    match join rest with
    | (front, segments) => ([], consFilled b (consFilled front segments))

/-- Pieces as a scatter list. -/
def toScatter (pieces : List Piece) : Scatter :=
  match join pieces with
  | (front, segments) => ⟨consFilled front segments⟩

end Piece

/-- The pieces written so far, the number of their bytes, and the signer of what is written. -/
structure Encoder where
  pieces : List Piece := []
  position : Nat := 0
  signer : Option Signer := none

namespace Encoder

/-- Writes on; what was written before a failure stays. -/
def emit {α : Type} (e : Encoder) (m : Emit α) : Except EncodeError α × Encoder :=
  (m.result, { e with
    pieces := e.pieces ++ m.pieces
    position := e.position + Piece.total m.pieces })

/-- Writes data over the bytes from `position` on. It stops at the first shared byte. -/
def overwrite (e : Encoder) (position : Nat) (data : Bytes) : Except EncodeError Unit × Encoder :=
  match Piece.overwrite position data e.pieces with
  | (pieces, []) => (.ok (), { e with pieces })
  | (pieces, left) =>
    (.error (.invalidPatchOffset (position + data.length - left.length)), { e with pieces })

/-- Writes data over the bytes from `position` on, unless the sum of the position and the length of
the data goes beyond the bytes written. -/
def patch (e : Encoder) (position : UInt64) (data : Bytes) : Except EncodeError Unit × Encoder :=
  if e.position < (position + UInt64.ofNat data.length).toNat then
    (.error (.invalidPatchOffset position.toNat), e)
  else e.overwrite position.toNat data

/-- Fills in the length of the container that starts at `position`. -/
def setContainerLength (e : Encoder) (position : UInt64) (length : Nat) :
    Except EncodeError Unit × Encoder :=
  if maxLength < length then (.error (.valueTooLong length), e)
  else e.patch (position + 2) (Bytes.ofNat 2 length)

/-- Cuts off all bytes from `position` on. -/
def truncate (e : Encoder) (position : Nat) : Encoder :=
  if e.position ≤ position then e
  else { e with pieces := Piece.takeBytes position e.pieces, position }

/-- The bytes at `[start, stop)`, as far as there are any, put together of parts of the pieces. -/
def bytesInRange (e : Encoder) (start stop : Nat) : Bytes :=
  (Scatter.slicesFrom start (min stop e.position) 0 (e.pieces.map Piece.bytes)).flatten

/-- The signature of the bytes at `[start, stop)`, if there is a signer. -/
def signRange (e : Encoder) (start stop : Nat) : Except EncodeError (Option Bytes) :=
  match e.signer with
  | none => .ok none
  | some signer =>
    match signer.sign (e.bytesInRange start stop) with
    | .ok signature => .ok (some signature)
    | .error error => .error (.signer error)

/-- What was written, as a scatter list without empty segments. -/
def toScatter (e : Encoder) : Scatter := Piece.toScatter e.pieces

end Encoder

end NamedContent
