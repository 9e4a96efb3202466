import NamedContent.Tlv.Basic
import NamedContent.Tlv.Scatter

/-!
# Emission

Writing elements yields pieces and a result, which may be a failure behind pieces already
written. Short values are copied into one growing piece; values of 64 bytes and more are shared,
each a piece of its own. A container is written around its body once the length of the body is
known.

Every emission that succeeds yields the number of bytes it wrote.
-/

namespace NamedContent

/-- A piece of what has been written: bytes that may still change, or bytes shared with their
owner. -/
inductive Piece
  | copied (bytes : Bytes)
  | shared (bytes : Bytes)
deriving DecidableEq, Repr

namespace Piece

/-- The bytes of a piece. -/
def bytes : Piece → Bytes
  | copied b => b
  | shared b => b

/-- The number of bytes of a piece. -/
def length (p : Piece) : Nat := p.bytes.length

/-- The bytes of a list of pieces. -/
def concat (pieces : List Piece) : Bytes := pieces.flatMap bytes

/-- The number of bytes of a list of pieces. -/
def total (pieces : List Piece) : Nat := (concat pieces).length

@[simp] theorem concat_nil : concat [] = [] := rfl

@[simp] theorem concat_cons (p : Piece) (ps : List Piece) :
    concat (p :: ps) = p.bytes ++ concat ps := rfl

@[simp] theorem concat_append (ps qs : List Piece) :
    concat (ps ++ qs) = concat ps ++ concat qs := by
  simp [concat]

theorem total_append (ps qs : List Piece) : total (ps ++ qs) = total ps + total qs := by
  simp [total]

end Piece

/-- What was written, and whether it went well. -/
structure Emit (α : Type) where
  pieces : List Piece
  result : Except EncodeError α

namespace Emit

/-- Writes nothing. -/
def done {α : Type} (a : α) : Emit α := ⟨[], .ok a⟩

/-- Fails without writing. -/
def fail {α : Type} (error : EncodeError) : Emit α := ⟨[], .error error⟩

/-- Writes on after a success; a failure ends the writing. -/
def andThen {α β : Type} (first : Emit α) (second : α → Emit β) : Emit β :=
  match first.result with
  | .ok a => ⟨first.pieces ++ (second a).pieces, (second a).result⟩
  | .error e => ⟨first.pieces, .error e⟩

instance : Monad Emit where
  pure := done
  bind := andThen

/-- All bytes written. -/
def bytes {α : Type} (m : Emit α) : Bytes := Piece.concat m.pieces

/-! ## Bytes -/

/-- Copies bytes. -/
def raw (b : Bytes) : Emit Nat := ⟨[.copied b], .ok b.length⟩

/-- The length from which on values are shared. -/
def sharedLength : Nat := 64

/-- Copies a short value and shares a long one. -/
def value (b : Bytes) : Emit Nat :=
  if b.length < sharedLength then raw b else ⟨[.shared b], .ok b.length⟩

/-- Writes one value after the other. -/
def values : List Bytes → Emit Nat
  | [] => done 0
  | b :: rest => do
    let first ← value b
    let others ← values rest
    return first + others

/-! ## Elements -/

/-- Writes type and length, when two bytes can hold the length. -/
def header (type : UInt16) (length : Nat) : Emit Nat :=
  if maxLength < length then fail (.valueTooLong length) else raw (Tlv.header type length)

/-- Writes an element and copies its value. -/
def copied (type : UInt16) (b : Bytes) : Emit Nat := do
  let head ← header type b.length
  let tail ← raw b
  return head + tail

/-- Writes an element and shares its value if it is long. -/
def element (type : UInt16) (b : Bytes) : Emit Nat := do
  let head ← header type b.length
  let tail ← value b
  return head + tail

/-- Writes an element whose value is in segments. -/
def scatter (type : UInt16) (s : Scatter) : Emit Nat := do
  let head ← header type s.length
  let tail ← values s.segments
  return head + tail

/-- Writes a number in a given number of bytes. -/
def fixed (type : UInt16) (width : Nat) (n : Nat) : Emit Nat := copied type (Bytes.ofNat width n)

/-- Writes a number in the fewest bytes. -/
def number (type : UInt16) (v : UInt64) : Emit Nat := copied type (Bytes.minimal v)

/-- Writes elements one after the other. -/
def elements : List Tlv → Emit Nat
  | [] => done 0
  | t :: rest => do
    let first ← element t.type t.value
    let others ← elements rest
    return first + others

/-! ## Containers -/

/-- Writes an element around a body that yields its length. The length is filled in last, so that
it stays zero when the body fails or is too long. -/
def container (type : UInt16) (body : Emit Nat) : Emit Nat :=
  match body.result with
  | .error e => ⟨.copied (Tlv.header type 0) :: body.pieces, .error e⟩
  | .ok length =>
    if maxLength < length then
      ⟨.copied (Tlv.header type 0) :: body.pieces, .error (.valueTooLong length)⟩
    else ⟨.copied (Tlv.header type length) :: body.pieces, .ok (Tlv.headerLength + length)⟩

end Emit

end NamedContent
