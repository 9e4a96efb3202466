import NamedContent.ContentObject
import NamedContent.Json.Basic
import NamedContent.Name.Text

/-!
# Manifests

A manifest lists the chunks of a larger object by their digests. A section holds named chunks and
digests; each digest points to a named chunk in front of it. A manifest travels as the payload of
a content object and then has the signature of that object.
-/

namespace NamedContent

/-- Why something is no manifest. -/
inductive ManifestError
  | invalidNameIndex (index count : Nat)
  | notAManifest (type : PayloadType)
  | missingSection (name : String)
  | decode (error : DecodeError)
  | encode (error : EncodeError)
deriving DecidableEq, Repr

namespace ManifestError

/-- The class of a failure. -/
def kind : ManifestError → ErrorKind
  | .invalidNameIndex .. => .genericDecode
  | .notAManifest _ => .genericDecode
  | .missingSection _ => .missingMandatoryField
  | .decode error => error.kind
  | .encode error => error.kind

/-- The wording of a failure. -/
def message : ManifestError → String
  | .invalidNameIndex index count =>
    s!"Hash entry points at name {index}, but the section holds {count} names"
  | .notAManifest type => s!"Content object carries a {type.name} payload, not a manifest"
  | .missingSection name => s!"Manifest is missing its {name}"
  | .decode error => s!"Decode error: {error.message}"
  | .encode error => s!"Encode error: {error.message}"

end ManifestError

/-! ## Sections -/

/-- A named chunk. -/
structure NameEntry where
  chunk : UInt64
  name : Name
deriving DecidableEq

/-- A digest and the index of its named chunk. -/
structure HashEntry where
  index : Nat
  digest : Bytes
deriving DecidableEq, Repr

/-- Named chunks, and digests that point to them. -/
structure ManifestSection where
  /-- Where the rules of access are. -/
  access : Option Link := none
  names : List NameEntry := []
  hashes : List HashEntry := []
deriving DecidableEq

namespace ManifestSection

/-- The type of the link to the rules of access. -/
def accessType : UInt16 := 0x0001
/-- The type of a named chunk. -/
def nameEntryType : UInt16 := 0x0002
/-- The type of a digest and its index. -/
def hashEntryType : UInt16 := 0x0003
/-- The type of a chunk number in a named chunk. -/
def chunkType : UInt16 := 0x0001
/-- The type of the index of a digest. -/
def indexType : UInt16 := 0x0001
/-- The type of a digest. -/
def digestType : UInt16 := 0x0002

/-- A section without entries. -/
def create (access : Option Link) : ManifestSection := { access }

/-- A section with one more named chunk, whose index is the number of those before it. -/
def addName (s : ManifestSection) (name : Name) (chunk : UInt64) : ManifestSection :=
  { s with names := s.names ++ [⟨chunk, name⟩] }

/-- Adds one more digest, which points to a named chunk already there; otherwise the section is as
it was. -/
def addHash (s : ManifestSection) (index : Nat) (digest : Bytes) :
    Except ManifestError Unit × ManifestSection :=
  if s.names.length ≤ index then (.error (.invalidNameIndex index s.names.length), s)
  else (.ok (), { s with hashes := s.hashes ++ [⟨index, digest⟩] })

/-- The section behind a change that succeeded. -/
def kept : Except ManifestError Unit × ManifestSection → Except ManifestError ManifestSection
  | (.ok (), s) => .ok s
  | (.error e, _) => .error e

/-- The named chunk that a digest points to. -/
def nameEntryAt? (s : ManifestSection) (i : Nat) : Option NameEntry :=
  s.hashes[i]?.bind fun entry => s.names[entry.index]?

/-- The name of the chunk that a digest points to. -/
def nameAt? (s : ManifestSection) (i : Nat) : Option Name := (s.nameEntryAt? i).map NameEntry.name

/-- The number of the chunk that a digest points to. -/
def chunkAt? (s : ManifestSection) (i : Nat) : Option UInt64 :=
  (s.nameEntryAt? i).map NameEntry.chunk

/-- The digest with a given index. -/
def digestAt? (s : ManifestSection) (i : Nat) : Option Bytes := s.hashes[i]?.map HashEntry.digest

/-! ### Writing -/

/-- Writes the link to the rules of access. -/
def emitAccess : Option Link → Emit Nat
  | none => Emit.done 0
  | some link => link.emitIn accessType

/-- Writes a named chunk. -/
def emitName (entry : NameEntry) : Emit Nat :=
  Emit.container nameEntryType do
    let chunk ← Emit.number chunkType entry.chunk
    let name ← entry.name.emit Link.nameType
    return chunk + name

/-- Writes named chunks. -/
def emitNames : List NameEntry → Emit Nat
  | [] => Emit.done 0
  | entry :: rest => do
    let first ← emitName entry
    let others ← emitNames rest
    return first + others

/-- Writes a digest and its index. -/
def emitHash (entry : HashEntry) : Emit Nat :=
  Emit.container hashEntryType do
    let index ← Emit.number indexType (UInt64.ofNat entry.index)
    let digest ← Emit.element digestType entry.digest
    return index + digest

/-- Writes digests. -/
def emitHashes : List HashEntry → Emit Nat
  | [] => Emit.done 0
  | entry :: rest => do
    let first ← emitHash entry
    let others ← emitHashes rest
    return first + others

/-- Writes a section as a container of a given type. -/
def emit (type : UInt16) (s : ManifestSection) : Emit Nat :=
  Emit.container type do
    let access ← emitAccess s.access
    let names ← emitNames s.names
    let hashes ← emitHashes s.hashes
    return access + names + hashes

/-! ### Reading -/

/-- The number in one to eight bytes. -/
def number (b : Bytes) : Except DecodeError UInt64 :=
  match Bytes.toUInt64? b with
  | some n => .ok n
  | none => .error (.integerWidth b.length)

/-- The parts of a named chunk met so far. -/
structure NameDraft where
  chunk : Option UInt64 := none
  name : Option Name := none

/-- Takes in an element of a named chunk. -/
def NameDraft.add (d : NameDraft) (t : Tlv) : Except DecodeError NameDraft :=
  if t.type = chunkType then
    match d.chunk with
    | some _ => .error (.duplicateField t.type)
    | none => (number t.value).map fun chunk => { d with chunk := some chunk }
  else if t.type = Link.nameType then
    match d.name with
    | some _ => .error (.duplicateField t.type)
    | none => (Name.ofWire t.value).map fun name => { d with name := some name }
  else .ok d

/-- The named chunk of the parts met, both of which must be there. -/
def NameDraft.entry (d : NameDraft) : Except DecodeError NameEntry :=
  match d.chunk, d.name with
  | some chunk, some name => .ok ⟨chunk, name⟩
  | none, _ => .error (.missingMandatoryField "Chunk")
  | _, none => .error (.missingMandatoryField "Name")

/-- The named chunk that elements denote. -/
def nameOfWire (b : Bytes) : Except DecodeError NameEntry :=
  (Tlv.read NameDraft.add {} b).result id >>= NameDraft.entry

/-- The parts of a digest entry met so far. -/
structure HashDraft where
  index : Option UInt64 := none
  digest : Option Bytes := none

/-- Takes in an element of a digest entry. -/
def HashDraft.add (d : HashDraft) (t : Tlv) : Except DecodeError HashDraft :=
  if t.type = indexType then
    match d.index with
    | some _ => .error (.duplicateField t.type)
    | none => (number t.value).map fun index => { d with index := some index }
  else if t.type = digestType then
    match d.digest with
    | some _ => .error (.duplicateField t.type)
    | none => .ok { d with digest := some t.value }
  else .ok d

/-- The digest entry of the parts met, both of which must be there. -/
def HashDraft.entry (d : HashDraft) : Except DecodeError HashEntry :=
  match d.index, d.digest with
  | some index, some digest => .ok ⟨index.toNat, digest⟩
  | none, _ => .error (.missingMandatoryField "NameIndex")
  | _, none => .error (.missingMandatoryField "Digest")

/-- The digest entry that elements denote. -/
def hashOfWire (b : Bytes) : Except DecodeError HashEntry :=
  (Tlv.read HashDraft.add {} b).result id >>= HashDraft.entry

/-- A failure to read a part of a manifest. -/
def lift {α : Type} (result : Except DecodeError α) : Except ManifestError α :=
  result.mapError .decode

/-- Takes in an element of a section; what is unknown is skipped. -/
def add (s : ManifestSection) (t : Tlv) : Except ManifestError ManifestSection :=
  if t.type = accessType then
    match s.access with
    | some _ => .error (.decode (.duplicateField t.type))
    | none => (lift (Link.ofWire t.value)).map fun link => { s with access := some link }
  else if t.type = nameEntryType then
    (lift (nameOfWire t.value)).map fun entry => s.addName entry.name entry.chunk
  else if t.type = hashEntryType then
    lift (hashOfWire t.value) >>= fun entry => kept (s.addHash entry.index entry.digest)
  else .ok s

/-- The section that elements denote. -/
def ofWire (b : Bytes) : Except ManifestError ManifestSection :=
  (Tlv.read add {} b).result .decode

end ManifestSection

/-! ## Manifests -/

/-- The chunks of a larger object by their digests. -/
structure Manifest where
  /-- The signature of the content object that brought the manifest. -/
  signature : Option Bytes := none
  nameLink : Link
  metaSection : Option ManifestSection := none
  dataSection : Option ManifestSection := none
deriving DecidableEq

namespace Manifest

/-- The type of the link to the object. -/
def nameLinkType : UInt16 := 0x0001
/-- The type of the section of metadata. -/
def metaSectionType : UInt16 := 0x0002
/-- The type of the section of data. -/
def dataSectionType : UInt16 := 0x0003

/-- A manifest that did not come in a content object. -/
def create (nameLink : Link) (metaSection dataSection : Option ManifestSection) : Manifest :=
  { nameLink, metaSection, dataSection }

/-! ### Writing -/

/-- Writes a section that is present. -/
def emitSection (type : UInt16) : Option ManifestSection → Emit Nat
  | none => Emit.done 0
  | some s => s.emit type

/-- Writes a manifest. -/
def emit (m : Manifest) : Emit Nat := do
  let link ← m.nameLink.emitIn nameLinkType
  let metaLength ← emitSection metaSectionType m.metaSection
  let dataLength ← emitSection dataSectionType m.dataSection
  return link + metaLength + dataLength

/-- The written form of a manifest. -/
def toBytes (m : Manifest) : Except ManifestError Bytes :=
  match m.emit.result with
  | .ok _ => .ok m.emit.bytes
  | .error e => .error (.encode e)

/-! ### Reading -/

/-- The parts of a manifest met so far. -/
structure Draft where
  nameLink : Option Link := none
  metaSection : Option ManifestSection := none
  dataSection : Option ManifestSection := none

/-- Takes in an element; what is unknown is skipped. -/
def Draft.add (d : Draft) (t : Tlv) : Except ManifestError Draft :=
  if t.type = nameLinkType then
    match d.nameLink with
    | some _ => .error (.decode (.duplicateField t.type))
    | none => (ManifestSection.lift (Link.ofWire t.value)).map fun link =>
      { d with nameLink := some link }
  else if t.type = metaSectionType then
    match d.metaSection with
    | some _ => .error (.decode (.duplicateField t.type))
    | none => (ManifestSection.ofWire t.value).map fun s => { d with metaSection := some s }
  else if t.type = dataSectionType then
    match d.dataSection with
    | some _ => .error (.decode (.duplicateField t.type))
    | none => (ManifestSection.ofWire t.value).map fun s => { d with dataSection := some s }
  else .ok d

/-- The manifest of the parts met, of which the link must be there. -/
def Draft.manifest (d : Draft) : Except ManifestError Manifest :=
  match d.nameLink with
  | some link => .ok (create link d.metaSection d.dataSection)
  | none => .error (.missingSection "NameLink")

/-- The manifest that elements denote. -/
def ofBytes (b : Bytes) : Except ManifestError Manifest :=
  (Tlv.read Draft.add {} b).result .decode >>= Draft.manifest

/-! ### Manifests as content -/

/-- The content object that carries a manifest under a name. -/
def toContentObject (m : Manifest) (name : Name) : Except ManifestError ContentObject :=
  m.toBytes.map fun b => (ContentObject.create name .manifest).setPayload .manifest b

/-- The manifest that a content object carries, with the object's signature. -/
def ofContentObject (o : ContentObject) : Except ManifestError Manifest :=
  if o.payloadType ≠ .manifest then .error (.notAManifest o.payloadType)
  else match o.payload? with
    | none => .error (.missingSection "Payload")
    | some b => (ofBytes b).map fun m => { m with signature := o.signature? }

end Manifest

/-! ## Views -/

/-- Bytes as a JSON string of hexadecimal digits. -/
def Bytes.toJson (b : Bytes) : Json := .string (Hex.text b)

/-- A link as JSON. -/
def Link.toJson (link : Link) : Json :=
  .ofEntries [("name", .string link.name.toUri),
    ("key_id", .ofOption (link.keyId.map Bytes.toJson)),
    ("content_object_hash", .ofOption (link.contentHash.map Bytes.toJson))]

/-- A section as JSON. -/
def ManifestSection.toJson (s : ManifestSection) : Json :=
  .ofEntries [("acs_link", .ofOption (s.access.map Link.toJson)),
    ("names", .array (s.names.map fun entry =>
      .ofEntries [("chunk", .int entry.chunk.toNat), ("name", .string entry.name.toUri)])),
    ("hashes", .array (s.hashes.map fun entry =>
      .ofEntries [("name_index", .int entry.index), ("digest", entry.digest.toJson)]))]

/-- A manifest as JSON. -/
def Manifest.toJson (m : Manifest) : Json :=
  .ofEntries [("signature", .ofOption (m.signature.map Bytes.toJson)),
    ("name_link", m.nameLink.toJson),
    ("metadata", .ofOption (m.metaSection.map ManifestSection.toJson)),
    ("payload", .ofOption (m.dataSection.map ManifestSection.toJson))]

end NamedContent
