import NamedContent.Name.Label
import NamedContent.Hash.Fnv

/-!
# Name segments

A segment is a label and a value. Segments are ordered by type, then by the length of the value,
then by its bytes; the parameter of the label decides last.
-/

namespace NamedContent

/-- One component of a name. -/
structure Segment where
  label : Label
  value : Bytes
deriving DecidableEq

namespace Segment

/-- A segment of a type, without a parameter. -/
def ofType (type : LabelType) (value : Bytes) : Segment := { label := .ofType type, value }

/-- A plain name holding a text in UTF-8. -/
def ofText (text : String) : Segment := ofType .name (Percent.utf8 text.toList)

/-- A chunk number in the fewest bytes. -/
def chunk (n : UInt64) : Segment := ofType .chunk (Bytes.minimal n)

/-- The type of a segment. -/
def type (segment : Segment) : LabelType := segment.label.type

/-- The number of a chunk segment of at most eight bytes; no bytes are the number 0. -/
def chunkNumber? (segment : Segment) : Option UInt64 :=
  if segment.type = .chunk ∧ segment.value.length ≤ 8 then
    some (UInt64.ofNat (Bytes.toNat segment.value))
  else none

/-- The hash code of a segment: its type, continued by the code of its value. -/
def hashCode (segment : Segment) : UInt32 :=
  Fnv.mix segment.type.code.toUInt32 (Fnv.hash segment.value)

/-! ## Order -/

/-- Type, then length, then bytes, then parameter, where no parameter comes first. -/
def compare (a b : Segment) : Ordering :=
  (Ord.compare a.type.code b.type.code).then <|
    (Ord.compare a.value.length b.value.length).then <|
      (Ord.compare a.value b.value).then (Ord.compare a.label.parameter b.label.parameter)

instance : Ord Segment := ⟨compare⟩

/-! ## Text -/

/-- Whether a value would be lost or change its meaning in the path of a URI. -/
def isPathSyntax (value : Bytes) : Bool := value == [] || value == [0x2E] || value == [0x2E, 0x2E]

/-- The written form: the label, which may be left out of a plain name unless its value is path
syntax, and the encoded value. -/
def render (segment : Segment) : List Char :=
  (if isPathSyntax segment.value then segment.label.renderExplicit else segment.label.render) ++
    Percent.encode segment.value

/-- The written form as a string. -/
def text (segment : Segment) : String := String.ofList segment.render

/-- The segment that a raw text between slashes denotes. -/
def parse (text : List Char) : Except LabelError Segment :=
  (Label.parse text).map fun (label, value) => { label, value := Percent.decode value }

end Segment

end NamedContent
