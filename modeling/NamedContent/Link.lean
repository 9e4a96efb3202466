import NamedContent.Name.Wire

/-!
# Links and key locators

A link points to content: a name, and restrictions of the key and of the content. In a packet it
is a sequence of up to three elements in any order; what is absent is not written, nor is an empty
name. A key locator is a key, or a link to one.
-/

namespace NamedContent

/-- A pointer to content. -/
structure Link where
  name : Name := .empty
  /-- The identifier of the key that signed the content. -/
  keyId : Option Bytes := none
  /-- The digest of the content. -/
  contentHash : Option Bytes := none
deriving DecidableEq

namespace Link

/-- The type of the name of a link. -/
def nameType : UInt16 := 0x0000

/-- The type of the key restriction. -/
def keyIdType : UInt16 := 0x0001

/-- The type of the content restriction. -/
def contentHashType : UInt16 := 0x0002

/-- Whether nothing is written for a link. -/
def isEmpty (link : Link) : Bool :=
  link.name.segments.isEmpty && link.keyId.isNone && link.contentHash.isNone

/-! ## Writing -/

/-- Writes an element for a value that is present. -/
def emitOptional (type : UInt16) : Option Bytes → Emit Nat
  | none => Emit.done 0
  | some b => Emit.element type b

/-- Writes the name of a link, unless it is empty. -/
def emitName (name : Name) : Emit Nat :=
  if name.segments.isEmpty then Emit.done 0 else name.emit nameType

/-- Writes a link. -/
def emit (link : Link) : Emit Nat := do
  let name ← emitName link.name
  let keyId ← emitOptional keyIdType link.keyId
  let contentHash ← emitOptional contentHashType link.contentHash
  return name + keyId + contentHash

/-- Writes a link as a container of a given type. -/
def emitIn (type : UInt16) (link : Link) : Emit Nat := Emit.container type link.emit

/-- The written form of a link. -/
def toBytes (link : Link) : Except EncodeError Bytes :=
  match link.emit.result with
  | .ok _ => .ok link.emit.bytes
  | .error e => .error e

/-! ## Reading -/

/-- The parts of a link met so far. -/
structure Draft where
  name : Option Name := none
  keyId : Option Bytes := none
  contentHash : Option Bytes := none

/-- Takes in an element; none of the three parts may be met twice. -/
def Draft.add (d : Draft) (t : Tlv) : Except DecodeError Draft :=
  if t.type = nameType then
    match d.name with
    | some _ => .error (.duplicateField t.type)
    | none => (Name.ofWire t.value).map fun name => { d with name := some name }
  else if t.type = keyIdType then
    match d.keyId with
    | some _ => .error (.duplicateField t.type)
    | none => .ok { d with keyId := some t.value }
  else if t.type = contentHashType then
    match d.contentHash with
    | some _ => .error (.duplicateField t.type)
    | none => .ok { d with contentHash := some t.value }
  else .ok d

/-- The link of the parts met; a link without a name has the empty one. -/
def Draft.link (d : Draft) : Link := ⟨d.name.getD .empty, d.keyId, d.contentHash⟩

/-- The link that a sequence of elements denotes. -/
def ofWire (b : Bytes) : Except DecodeError Link :=
  ((Tlv.read Draft.add {} b).result id).map Draft.link

end Link

/-- Goes on by `count` bytes, but not behind the end. -/
def Cursor.skip (c : Cursor) (count : Nat) : Cursor :=
  { c with
    position := min (c.position + count) c.buffer.length
    position_le := Nat.min_le_right _ _ }

/-- Reads what is left as a link. A part that is met twice is refused before its value is read. -/
def Cursor.link (c : Cursor) : Except DecodeError Link × Cursor :=
  let r := Tlv.read Link.Draft.add {} c.rest
  match r.stop with
  | none => (.ok r.state.link, c.skip c.remaining)
  | some (.broken e) => (c.skip r.accepted).fail e
  | some (.refused _ (.duplicateField type)) =>
    (.error (.duplicateField type), c.skip (r.accepted + Tlv.headerLength))
  | some (.refused _ e) => (.error e, c.skip r.position)

/-! ## Key locators -/

/-- Where a verifier finds the key. -/
inductive KeyLocator
  | key (bytes : Bytes)
  | link (target : Link)
deriving DecidableEq

namespace KeyLocator

/-- The key itself, when the locator holds it. -/
def key? : KeyLocator → Option Bytes
  | .key k => some k
  | .link _ => none

/-- The link to the key, when the locator holds one. -/
def link? : KeyLocator → Option Link
  | .key _ => none
  | .link l => some l

end KeyLocator

end NamedContent
