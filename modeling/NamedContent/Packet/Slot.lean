import NamedContent.Link
import NamedContent.Message.Basic

/-!
# Slots

Each zone of a packet has a table of slots: a field, the type of its element and the form in which
the element holds the value. `Slot.load` reads an element into its field, `Slot.emit` writes a
field. Elements without a slot go to the other elements of the zone, behind the slots.
-/

namespace NamedContent

/-- How an element holds the value of a field. -/
inductive Form
  /-- Bytes. Anything else in the field is not written. -/
  | optional
  /-- Bytes. Anything else in the field cannot be written. -/
  | strict
  /-- A number in the fewest bytes, or any other bytes as they are. -/
  | number
  /-- A number in one to eight bytes. -/
  | lifetime
  /-- A number in eight bytes. Anything else in the field is not written. -/
  | time
  /-- A number in one byte, or bytes of another length as they are. -/
  | octet
  /-- A name, which may have to be there. -/
  | name (required : Bool)
  /-- Bytes, however the field holds them; JSON text is read as such. -/
  | payload (json : Bool)
  /-- The link of a key name, whose restrictions have fields of their own. -/
  | link
deriving DecidableEq, Repr

/-- A field of a zone: the type of its element, and the form of the element's value. -/
structure Slot where
  field : Field
  type : UInt16
  form : Form
deriving DecidableEq, Repr

/-! ## Tables -/

/-- The slots of the headers that change from hop to hop. -/
def hopSlots : MessageKind → List Slot
  | .interest | .interestReturn =>
    [⟨.interestFragment, 0x0003, .optional⟩, ⟨.interestLifetime, 0x0001, .lifetime⟩]
  | .contentObject =>
    [⟨.contentObjectFragment, 0x0004, .optional⟩, ⟨.recommendedCacheTime, 0x0002, .time⟩]
  | .control => []

/-- The slots of the body of a message. -/
def bodySlots : MessageKind → List Slot
  | .interest | .interestReturn =>
    [⟨.name, 0x0000, .name true⟩, ⟨.keyIdRestriction, 0x0002, .strict⟩,
      ⟨.contentHashRestriction, 0x0003, .strict⟩, ⟨.payload, 0x0001, .payload false⟩]
  | .contentObject =>
    [⟨.name, 0x0000, .name true⟩, ⟨.payloadType, 0x0005, .octet⟩, ⟨.expiryTime, 0x0006, .number⟩,
      ⟨.endChunkNumber, 0x0019, .number⟩, ⟨.payload, 0x0001, .payload false⟩]
  | .control => [⟨.name, 0x0000, .name false⟩, ⟨.payload, 0x0001, .payload true⟩]

/-- The slots that identify the key of a signature. -/
def keySlots : List Slot :=
  [⟨.keyId, 0x0009, .optional⟩, ⟨.publicKey, 0x000B, .optional⟩, ⟨.certificate, 0x000C, .optional⟩,
    ⟨.keyName, 0x000E, .link⟩]

/-- The slots of a crypto suite. -/
def suiteSlots : List Slot := keySlots ++ [⟨.signatureTime, 0x000F, .time⟩]

/-- The slots of a zone, in the order in which they are written. -/
def slots (kind : MessageKind) : Zone → List Slot
  | .hop => hopSlots kind
  | .body => bodySlots kind
  | .suite => suiteSlots

/-! ## Reading -/

/-- The values that an element gives to fields: to the field of the slot, and for a link to those
of its restrictions. -/
def Form.read (form : Form) (field : Field) (t : Tlv) :
    Except DecodeError (List (Field × Value)) :=
  match form with
  | .optional | .strict => .ok [(field, .bytes t.value)]
  | .number =>
    match Bytes.toUInt64? t.value with
    | some n => .ok [(field, if Bytes.isMinimal t.value then .int n else .bytes t.value)]
    | none => .ok [(field, .bytes t.value)]
  | .lifetime =>
    match Bytes.toUInt64? t.value with
    | some n => .ok [(field, if Bytes.isMinimal t.value then .int n else .bytes t.value)]
    | none => .error (.fixedSizeFieldWrongLength t.type (.between 1 8) t.value.length)
  | .time =>
    if t.value.length = 8 then .ok [(field, .int (UInt64.ofNat (Bytes.toNat t.value)))]
    else .error (.fixedSizeFieldWrongLength t.type (.exactly 8) t.value.length)
  | .octet =>
    match t.value with
    | [x] => .ok [(field, .int x.toUInt64)]
    | b => .ok [(field, .bytes b)]
  | .name _ => (Name.ofWire t.value).map fun name => [(field, .name name)]
  | .payload json => .ok [(field, if json then .json t.value else .bytes t.value)]
  | .link => (Link.ofWire t.value).map fun link =>
    (field, .name link.name) ::
      ((link.keyId.map fun b => (Field.keyNameKeyId, Value.bytes b)).toList ++
        (link.contentHash.map fun b => (Field.keyNameContentHash, Value.bytes b)).toList)

/-- Reads an element into its field, which must be empty. -/
def Slot.load (slot : Slot) (m : Message) (t : Tlv) : Except DecodeError Message :=
  match slot.form.read slot.field t with
  | .error e => .error e
  | .ok values =>
    if m.contains slot.field then .error (.duplicateField t.type)
    else .ok (values.foldl (fun m entry => m.set entry.1 entry.2) m)

/-- The slot of an element. -/
def slotOf? (kind : MessageKind) (zone : Zone) (type : UInt16) : Option Slot :=
  (slots kind zone).find? fun slot => slot.type == type

/-- Takes an element of a zone into a message. -/
def Message.take (zone : Zone) (m : Message) (t : Tlv) : Except DecodeError Message :=
  match slotOf? m.kind zone t.type with
  | some slot => slot.load m t
  | none => .ok (m.addExtra zone t)

/-! ## Writing -/

/-- The link of the key name, when there is a name. -/
def Message.keyLink? (m : Message) : Option Link :=
  (m.name? .keyName).map fun name =>
    ⟨name, m.bytes? .keyNameKeyId, m.bytes? .keyNameContentHash⟩

/-- Writes bytes when there are any. -/
def Slot.emitBytes (slot : Slot) : Option Bytes → Emit Nat
  | none => Emit.done 0
  | some b => Emit.element slot.type b

/-- Refuses a value of the wrong kind; an empty field is not written. -/
def Slot.refuse (slot : Slot) : Option Value → Emit Nat
  | none => Emit.done 0
  | some _ => Emit.fail (.unexpectedValue slot.field.label)

/-- Writes the field of a slot. -/
def Slot.emit (slot : Slot) (m : Message) : Emit Nat :=
  match slot.form with
  | .optional => slot.emitBytes (m.bytes? slot.field)
  | .strict =>
    match m.fields slot.field with
    | some (.bytes b) => Emit.element slot.type b
    | other => slot.refuse other
  | .number | .lifetime =>
    match m.fields slot.field with
    | some (.int n) => Emit.number slot.type n
    | some (.bytes b) => Emit.element slot.type b
    | other => slot.refuse other
  | .time =>
    match m.int? slot.field with
    | some n => Emit.fixed slot.type 8 n.toNat
    | none => Emit.done 0
  | .octet =>
    match m.fields slot.field with
    | some (.int n) =>
      if n.toNat < 256 then Emit.fixed slot.type 1 n.toNat else slot.refuse (some (.int n))
    | some (.bytes b) => Emit.element slot.type b
    | other => slot.refuse other
  | .name required =>
    match m.name? slot.field with
    | some name => name.emit slot.type
    | none => if required then Emit.fail (.missingMandatoryField slot.field.label) else Emit.done 0
  | .payload _ =>
    match m.fields slot.field with
    | some (.bytes b) => Emit.element slot.type b
    | some (.json text) => Emit.element slot.type text
    | some (.scatter s) => Emit.scatter slot.type s
    | other => slot.refuse other
  | .link =>
    match m.keyLink? with
    | some link => if link.isEmpty then Emit.done 0 else link.emitIn slot.type
    | none => Emit.done 0

/-- Writes the fields of slots, one after the other. -/
def emitSlots (m : Message) : List Slot → Emit Nat
  | [] => Emit.done 0
  | slot :: rest => do
    let first ← slot.emit m
    let others ← emitSlots m rest
    return first + others

/-- Writes a zone: its slots, then its other elements. -/
def Message.emitZone (m : Message) (zone : Zone) : Emit Nat := do
  let known ← emitSlots m (slots m.kind zone)
  let others ← Emit.elements (m.extras zone)
  return known + others

end NamedContent
