import NamedContent.Name.Segment

/-!
# Names

A name is a list of segments. Names are ordered segment by segment, a name before all that extend
it. The hash code of a name folds those of its segments, so that equal beginnings have equal codes.
-/

namespace NamedContent

/-- A hierarchical name. -/
structure Name where
  segments : List Segment := []
deriving DecidableEq

namespace Name

/-- The name without segments. -/
def empty : Name := {}

instance : Inhabited Name := ⟨empty⟩

/-- A name with one more segment. -/
def append (name : Name) (segment : Segment) : Name := ⟨name.segments ++ [segment]⟩

/-- The first `count` segments. -/
def take (name : Name) (count : Nat) : Name := ⟨name.segments.take count⟩

/-- A name without its last `count` segments. -/
def trim (name : Name) (count : Nat) : Name := name.take (name.segments.length - count)

/-- The number of segments. -/
def length (name : Name) : Nat := name.segments.length

/-- The last segment. -/
def last? (name : Name) : Option Segment := name.segments.getLast?

/-- Whether a name begins with all segments of another. -/
def startsWith (name start : Name) : Bool := start.segments.isPrefixOf name.segments

/-- The hash code of the first `count` segments. -/
def leftHash (name : Name) (count : Nat) : UInt32 :=
  (name.segments.take count).foldl (fun code segment => Fnv.mix code segment.hashCode) 0

/-- The hash code of a name. -/
def hashCode (name : Name) : UInt32 := name.leftHash name.length

/-- The order of names: the first segments that differ decide, else the shorter name is first. -/
def compare (a b : Name) : Ordering := Ord.compare a.segments b.segments

instance : Ord Name := ⟨compare⟩

/-- The order of names that may be absent: an absent name comes before every name. -/
def compareOptional (a b : Option Name) : Ordering := Ord.compare a b

end Name

end NamedContent
