import NamedContent.Tlv.Basic

/-!
# Cursors

A cursor is a position in a buffer, with the first failure that was met or set since it was last
cleared. The position never lies behind the end of the buffer. An operation that fails, or finds
no element of the asked type, leaves the position where it was.
-/

namespace NamedContent

/-- A position in a buffer, and the first failure met. -/
structure Cursor where
  buffer : Bytes
  position : Nat := 0
  held : Option DecodeError := none
  position_le : position ≤ buffer.length := by omega
deriving DecidableEq

namespace Cursor

/-- A cursor at the start of a buffer. -/
def start (buffer : Bytes) : Cursor := { buffer }

/-- What has not been read. -/
def rest (c : Cursor) : Bytes := c.buffer.drop c.position

/-- The number of bytes not yet read. -/
def remaining (c : Cursor) : Nat := c.buffer.length - c.position

/-- Whether all has been read. -/
def atEnd (c : Cursor) : Bool := c.remaining == 0

/-! ## Failures -/

/-- Holds a failure, unless one is held already. -/
def hold (c : Cursor) (error : DecodeError) : Cursor :=
  if c.held.isSome then c else { c with held := some error }

/-- Holds no failure any more. -/
def clear (c : Cursor) : Cursor := { c with held := none }

/-- The failure of an operation, which is held too. -/
def fail {α : Type} (c : Cursor) (error : DecodeError) : Except DecodeError α × Cursor :=
  (.error error, c.hold error)

/-! ## Moving -/

/-- Goes to a position in the buffer. -/
def setPosition (c : Cursor) (position : Nat) : Except DecodeError Unit × Cursor :=
  if h : position ≤ c.buffer.length then (.ok (), { c with position, position_le := h })
  else c.fail (.fieldBeyondPacketEnd position 0 0)

/-- Reads the next `count` bytes. -/
def take (c : Cursor) (count : Nat) : Except DecodeError Bytes × Cursor :=
  if h : c.position + count ≤ c.buffer.length then
    (.ok (c.rest.take count), { c with position := c.position + count, position_le := h })
  else c.fail (.fieldBeyondPacketEnd c.position count c.remaining)

/-- Skips the next `count` bytes. -/
def advance (c : Cursor) (count : Nat) : Except DecodeError Unit × Cursor :=
  match c.take count with
  | (result, c) => (result.map fun _ => (), c)

/-! ## Types, lengths and headers -/

/-- The number in the two bytes at a position. -/
def uint16At? (c : Cursor) (position : Nat) : Option Nat :=
  match c.buffer.drop position with
  | x :: y :: _ => some (Bytes.toNat [x, y])
  | _ => none

/-- The type of the next element, which stays unread. -/
def peekType? (c : Cursor) : Option UInt16 := Tlv.type? c.rest

/-- Reads a number of two bytes: a type or a length. -/
def uint16 (c : Cursor) : Except DecodeError UInt16 × Cursor :=
  match c.take 2 with
  | (result, c) => (result.map fun b => UInt16.ofNat (Bytes.toNat b), c)

/-- Goes back to where an earlier cursor stands in the same buffer. What is held stays held. -/
def backTo (c earlier : Cursor) : Cursor := { earlier with held := c.held }

/-- Reads type and length of an element of which all is there, one after the other. A length that
runs beyond the end of the buffer is told by the cursor in front of the type. -/
def header (c : Cursor) : Except DecodeError (UInt16 × Nat) × Cursor :=
  if c.remaining < Tlv.headerLength then c.fail (.trailingUnaccountedBytes c.remaining)
  else match c.uint16 with
    | (.error e, c) => (.error e, c)
    | (.ok type, behindType) => match behindType.uint16 with
      | (.error e, c) => (.error e, c)
      | (.ok length, behindLength) =>
        if behindLength.remaining < length.toNat then
          (behindLength.backTo c).fail
            (.lengthExceedsContainer type length.toNat behindLength.remaining)
        else (.ok (type, length.toNat), behindLength)

/-! ## Elements of a given type -/

/-- Reads the value of the next element, when the element has the given type. Behind a header that
cannot be read it goes back in front of it. -/
def value? (c : Cursor) (type : UInt16) : Except DecodeError (Option Bytes) × Cursor :=
  if c.peekType? = some type then
    match c.header with
    | (.error e, behind) => (.error e, behind.backTo c)
    | (.ok (_, length), c) =>
      match c.take length with
      | (result, c) => (result.map some, c)
  else (.ok none, c)

/-- Reads the number in the next element, when the element has the given type and width. Nothing
is a failure: if there is no such element, nothing is read. -/
def fixed? (c : Cursor) (type : UInt16) (width : Nat) : Option Nat × Cursor :=
  if c.peekType? = some type ∧ c.uint16At? (c.position + 2) = some width then
    if h : c.position + Tlv.headerLength + width ≤ c.buffer.length then
      (some (Bytes.toNat ((c.buffer.drop (c.position + Tlv.headerLength)).take width)),
        { c with position := c.position + Tlv.headerLength + width, position_le := h })
    else (none, c)
  else (none, c)

/-- Reads a number of `length` bytes, of which there are one to eight. -/
def number (c : Cursor) (length : Nat) : Except DecodeError UInt64 × Cursor :=
  if 1 ≤ length ∧ length ≤ 8 then
    match c.take length with
    | (result, c) => (result.map fun b => UInt64.ofNat (Bytes.toNat b), c)
  else c.fail (.integerWidth length)

/-- Reads the next `length` bytes as a buffer of their own. -/
def container (c : Cursor) (length : Nat) : Except DecodeError Cursor × Cursor :=
  match c.take length with
  | (result, c) => (result.map start, c)

end Cursor

end NamedContent
