import NamedContent.Name.Basic
import NamedContent.Hash.Sha256

/-!
# Payload identifiers

An Interest with a payload carries an identifier of it in the last segment of its name, so that
Interests with different payloads have different names. The value of the segment is a type byte
and the identifier.
-/

namespace NamedContent

/-- A segment that identifies a payload; its value holds at least the type byte. -/
structure PayloadId where
  segment : Segment
  type_eq : segment.type = .payloadId
  value_ne_nil : segment.value ≠ []

namespace PayloadId

/-- An identifier of any type. -/
def create (data : Bytes) (typeCode : UInt8) : PayloadId where
  segment := .ofType .payloadId (typeCode :: data)
  type_eq := rfl
  value_ne_nil := by simp [Segment.ofType]

/-- The type byte of a full SHA-256 digest. -/
def sha256Type : UInt8 := 0x01

/-- The type byte of a random identifier. -/
def nonceType : UInt8 := 0x81

/-- The digest of a payload. -/
def ofDigest (payload : Bytes) : PayloadId := create (Sha256.digest payload) sha256Type

/-- The lengths to which a digest may be cut, each with its type byte. -/
def truncations : List (UInt8 × Nat) := [(1, 32), (2, 16), (3, 15), (4, 12), (5, 8), (6, 4)]

/-- The digest of a payload cut to the length that goes with a type byte. -/
def ofTruncatedDigest? (payload : Bytes) (typeCode : UInt8) : Option PayloadId :=
  (truncations.lookup typeCode).map fun length =>
    create ((Sha256.digest payload).take length) typeCode

/-- A random identifier, from 16 random bytes. -/
def ofNonce (random : Bytes) : PayloadId := create (random.take 16) nonceType

/-- The identifier that a segment holds, if it holds one. -/
def ofSegment? (segment : Segment) : Option PayloadId :=
  if h : segment.type = .payloadId ∧ segment.value ≠ [] then
    some { segment, type_eq := h.1, value_ne_nil := h.2 }
  else none

/-- The identifier in the last segment of a name, if there is one. -/
def ofName? (name : Name) : Option PayloadId := name.last?.bind ofSegment?

/-- The type byte and the identifier. -/
def value (id : PayloadId) : Bytes := id.segment.value

/-- The type byte. -/
def typeCode (id : PayloadId) : UInt8 := id.segment.value.head id.value_ne_nil

/-- The identifier without its type byte. -/
def identifier (id : PayloadId) : Bytes := id.segment.value.tail

/-- The written form of the segment. -/
def text (id : PayloadId) : String := id.segment.text

end PayloadId

end NamedContent
