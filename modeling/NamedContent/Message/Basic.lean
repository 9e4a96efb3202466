import NamedContent.Codes
import NamedContent.Name.Basic
import NamedContent.Tlv.Basic
import NamedContent.Tlv.Scatter

/-!
# Messages

A message is of one of four kinds and holds values in fields: those of its headers, of its body
and of its validation. Elements that no field stands for are kept in order, in the zone where
they were met. A message does not say how it is written.

* `fields_set`, `fields_erase`: the effect of a change on every field.
-/

namespace NamedContent

/-! ## Fields -/

/-- What a message can hold. -/
inductive Field
  | fixedHeader
  | interestLifetime
  | recommendedCacheTime
  | interestFragment
  | contentObjectFragment
  | name
  | payload
  | keyIdRestriction
  | contentHashRestriction
  | payloadType
  | expiryTime
  | endChunkNumber
  | hopLimit
  | returnCode
  | cryptoSuite
  | keyId
  | publicKey
  | certificate
  | keyName
  | keyNameKeyId
  | keyNameContentHash
  | signatureTime
  | signature
deriving DecidableEq, Repr

namespace Field

/-- Every field. -/
def all : List Field :=
  [.fixedHeader, .interestLifetime, .recommendedCacheTime, .interestFragment,
    .contentObjectFragment, .name, .payload, .keyIdRestriction, .contentHashRestriction,
    .payloadType, .expiryTime, .endChunkNumber, .hopLimit, .returnCode, .cryptoSuite, .keyId,
    .publicKey, .certificate, .keyName, .keyNameKeyId, .keyNameContentHash, .signatureTime,
    .signature]

/-- The name of a field. -/
def label : Field → String
  | .fixedHeader => "FixedHeader"
  | .interestLifetime => "InterestLifetime"
  | .recommendedCacheTime => "RecommendedCacheTime"
  | .interestFragment => "InterestFragment"
  | .contentObjectFragment => "ContentObjectFragment"
  | .name => "Name"
  | .payload => "Payload"
  | .keyIdRestriction => "KeyIdRestriction"
  | .contentHashRestriction => "ContentObjectHashRestriction"
  | .payloadType => "PayloadType"
  | .expiryTime => "ExpiryTime"
  | .endChunkNumber => "EndChunkNumber"
  | .hopLimit => "HopLimit"
  | .returnCode => "ReturnCode"
  | .cryptoSuite => "CryptoSuite"
  | .keyId => "KeyId"
  | .publicKey => "PublicKey"
  | .certificate => "Certificate"
  | .keyName => "KeyName"
  | .keyNameKeyId => "KeyNameKeyId"
  | .keyNameContentHash => "KeyNameContentObjectHash"
  | .signatureTime => "SignatureTime"
  | .signature => "Signature"

/-- The field with a given name. -/
def ofLabel? (text : String) : Option Field := all.find? fun field => field.label == text

end Field

/-! ## Values -/

/-- What a field can hold. -/
inductive Value
  | int (n : UInt64)
  | bytes (b : Bytes)
  | name (n : Name)
  | scatter (s : Scatter)
  | json (text : Bytes)

namespace Value

/-- Whether two values are of one kind and have the same content. -/
def same : Value → Value → Bool
  | .int a, .int b => a == b
  | .bytes a, .bytes b => a == b
  | .name a, .name b => a == b
  | .scatter a, .scatter b => a == b
  | .json a, .json b => a == b
  | _, _ => false

instance : BEq Value := ⟨same⟩

end Value

/-! ## Messages -/

/-- Where a packet can hold elements that no field stands for. -/
inductive Zone
  | hop
  | body
  | suite
deriving DecidableEq, Repr

/-- A message: its kind, its fields and the other elements of each zone. -/
structure Message where
  kind : MessageKind
  fields : Field → Option Value := fun _ => none
  hopExtras : List Tlv := []
  bodyExtras : List Tlv := []
  suiteExtras : List Tlv := []

/-- Why a value was not put into a field: there is one already. -/
structure FieldTaken where
  field : Field
deriving DecidableEq, Repr

/-- The wording of the failure. -/
def FieldTaken.message (taken : FieldTaken) : String :=
  s!"Dictionary slot {taken.field.label} is already set"

namespace Message

/-- A message without any content. -/
def empty (kind : MessageKind) : Message := { kind }

/-- The other elements of a zone. -/
def extras (m : Message) : Zone → List Tlv
  | .hop => m.hopExtras
  | .body => m.bodyExtras
  | .suite => m.suiteExtras

/-- Whether two messages have the same kind, the same values and the same other elements. -/
def same (a b : Message) : Bool :=
  a.kind == b.kind && Field.all.all (fun field => a.fields field == b.fields field) &&
    [Zone.hop, Zone.body, Zone.suite].all fun zone => a.extras zone == b.extras zone

instance : BEq Message := ⟨same⟩

/-! ### Changes -/

/-- Gives a field a value, whatever it held. -/
def set (m : Message) (field : Field) (value : Value) : Message :=
  { m with fields := fun f => if f = field then some value else m.fields f }

/-- Takes the value out of a field. -/
def erase (m : Message) (field : Field) : Message :=
  { m with fields := fun f => if f = field then none else m.fields f }

/-- Gives a field a value, when it is there. -/
def setIfSome (m : Message) (field : Field) (value : Option Value) : Message :=
  match value with
  | some v => m.set field v
  | none => m

/-- Gives an empty field a value. -/
def put (m : Message) (field : Field) (value : Value) : Except FieldTaken Message :=
  match m.fields field with
  | some _ => .error ⟨field⟩
  | none => .ok (m.set field value)

/-- Appends an element to those of a zone. -/
def addExtra (m : Message) (zone : Zone) (t : Tlv) : Message :=
  match zone with
  | .hop => { m with hopExtras := m.hopExtras ++ [t] }
  | .body => { m with bodyExtras := m.bodyExtras ++ [t] }
  | .suite => { m with suiteExtras := m.suiteExtras ++ [t] }

/-- The same content as another kind of message. -/
def withKind (m : Message) (kind : MessageKind) : Message := { m with kind }

theorem fields_set (m : Message) (field f : Field) (value : Value) :
    (m.set field value).fields f = if f = field then some value else m.fields f := rfl

theorem fields_erase (m : Message) (field f : Field) :
    (m.erase field).fields f = if f = field then none else m.fields f := rfl

theorem kind_setIfSome (m : Message) (field : Field) (value : Option Value) :
    (m.setIfSome field value).kind = m.kind := by
  cases value <;> rfl

theorem fields_setIfSome (m : Message) (field f : Field) (value : Option Value) :
    (m.setIfSome field value).fields f =
      if f = field then value.or (m.fields f) else m.fields f := by
  cases value with
  | none => exact (ite_self _).symm
  | some v => exact m.fields_set field f v

theorem extras_setIfSome (m : Message) (field : Field) (value : Option Value) (z : Zone) :
    (m.setIfSome field value).extras z = m.extras z := by
  cases value <;> cases z <;> rfl

theorem extras_addExtra (m : Message) (zone z : Zone) (t : Tlv) :
    (m.addExtra zone t).extras z = if z = zone then m.extras z ++ [t] else m.extras z := by
  cases zone <;> cases z <;> rfl

/-! ### Queries -/

/-- Whether a field has a value. -/
def contains (m : Message) (field : Field) : Bool := (m.fields field).isSome

/-- The number in a field. -/
def int? (m : Message) (field : Field) : Option UInt64 :=
  match m.fields field with
  | some (.int n) => some n
  | _ => none

/-- The number in a field that holds one, or its bytes, of which there are one to eight. -/
def number? (m : Message) (field : Field) : Option UInt64 :=
  match m.fields field with
  | some (.int n) => some n
  | some (.bytes b) => Bytes.toUInt64? b
  | _ => none

/-- The bytes in a field. -/
def bytes? (m : Message) (field : Field) : Option Bytes :=
  match m.fields field with
  | some (.bytes b) => some b
  | _ => none

/-- The name in a field. -/
def name? (m : Message) (field : Field) : Option Name :=
  match m.fields field with
  | some (.name n) => some n
  | _ => none

/-- The scatter list in a field. -/
def scatter? (m : Message) (field : Field) : Option Scatter :=
  match m.fields field with
  | some (.scatter s) => some s
  | _ => none

/-- The JSON text in a field. -/
def json? (m : Message) (field : Field) : Option Bytes :=
  match m.fields field with
  | some (.json text) => some text
  | _ => none

/-- The bytes in a field, however it holds them. -/
def content? (m : Message) (field : Field) : Option Bytes :=
  match m.fields field with
  | some (.bytes b) => some b
  | some (.json text) => some text
  | some (.scatter s) => some s.toBytes
  | _ => none

end Message

end NamedContent
