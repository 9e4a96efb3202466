import NamedContent.Name.Basic
import NamedContent.Tlv.Cursor
import NamedContent.Tlv.Emit

/-!
# Names in packets

A segment is an element: its label type is the type of the element. The parameter of a label is
not part of a packet. A name is a container of its segments.
-/

namespace NamedContent

namespace Segment

/-- The element of a segment. -/
def toTlv (segment : Segment) : Tlv := ⟨segment.type.code, segment.value⟩

/-- The segment of an element; the type 0 is none of a segment. -/
def ofTlv (t : Tlv) : Except DecodeError Segment :=
  match LabelType.ofCode? t.type with
  | some type => .ok (ofType type t.value)
  | none => .error (.invalidLabel t.type)

/-- Writes the element of a segment. -/
def emit (segment : Segment) : Emit Nat := Emit.element segment.type.code segment.value

end Segment

namespace Name

/-- Writes the segments of a name. -/
def emitSegments : List Segment → Emit Nat
  | [] => Emit.done 0
  | segment :: rest => do
    let first ← segment.emit
    let others ← emitSegments rest
    return first + others

/-- Writes a name as a container of a given type. -/
def emit (type : UInt16) (name : Name) : Emit Nat :=
  Emit.container type (emitSegments name.segments)

/-- The name that a sequence of segments denotes; the first fault decides. -/
def ofWire (b : Bytes) : Except DecodeError Name :=
  match Tlv.scan b with
  | (elements, leftover) => do
    let segments ← elements.mapM Segment.ofTlv
    match leftover with
    | some error => .error error
    | none => return ⟨segments⟩

end Name

namespace Cursor

/-- Reads the next `length` bytes as a name. -/
def name (c : Cursor) (length : Nat) : Except DecodeError Name × Cursor :=
  match c.container length with
  | (.ok inner, c) => (Name.ofWire inner.buffer, c)
  | (.error e, c) => (.error e, c)

/-- Reads the next element as a segment. The type is checked before the value is read. -/
def segment (c : Cursor) : Except DecodeError Segment × Cursor :=
  match c.header with
  | (.error e, c) => (.error e, c)
  | (.ok (type, length), c) =>
    match LabelType.ofCode? type with
    | none => (.error (.invalidLabel type), c)
    | some type =>
      match c.take length with
      | (result, c) => (result.map (Segment.ofType type), c)

end Cursor

end NamedContent
