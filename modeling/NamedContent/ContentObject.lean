import NamedContent.Message.Error

/-!
# Content objects

A content object is named data, which may be signed. Its payload type tells what the payload is:
plain data, a key, a link or a manifest.

`ContentObject.Operations` is the table of what can be done with a content object of a schema
version; `ContentObject.operations` is that of the one version there is.
-/

namespace NamedContent

/-- Named data. -/
structure ContentObject where
  message : Message
  kind_eq : message.kind = .contentObject

namespace ContentObject

/-! ## Messages of content objects -/

/-- The message of a content object. -/
def messageOf (name : Name) (type : PayloadType) (payload : Option Bytes) : Message :=
  (((Message.empty .contentObject).set .name (.name name)).set .payloadType
    (.int type.code.toUInt64)).setIfSome .payload (payload.map .bytes)

theorem kind_messageOf (name : Name) (type : PayloadType) (payload : Option Bytes) :
    (messageOf name type payload).kind = .contentObject := by
  cases payload <;> rfl

/-- The name of a message. -/
def nameOf (m : Message) : Except MessageError Name :=
  match m.name? .name with
  | some name => .ok name
  | none => .error (.missingField .name)

/-- The payload type of a message; what is absent or unknown is plain data. -/
def payloadTypeOf (m : Message) : PayloadType :=
  match m.int? .payloadType with
  | some n => (if n.toNat < 256 then PayloadType.ofCode? n.toUInt8 else none).getD .data
  | none => .data

/-- A message with another payload. -/
def withPayload (m : Message) (type : PayloadType) (payload : Bytes) : Message :=
  (m.set .payloadType (.int type.code.toUInt64)).set .payload (.bytes payload)

/-- Where a message tells that the key is: the key itself comes before a link. -/
def keyLocatorOf? (m : Message) : Option KeyLocator :=
  match m.bytes? .publicKey with
  | some key => some (.key key)
  | none => m.keyLink?.map .link

/-- A message without any trace of a key locator. -/
def withoutKeyLocator (m : Message) : Message :=
  (((m.erase .publicKey).erase .keyName).erase .keyNameKeyId).erase .keyNameContentHash

/-- A message with another key locator. -/
def withKeyLocator (m : Message) : KeyLocator → Message
  | .key key => (withoutKeyLocator m).set .publicKey (.bytes key)
  | .link link =>
    (((withoutKeyLocator m).set .keyName (.name link.name)).setIfSome .keyNameKeyId
      (link.keyId.map .bytes)).setIfSome .keyNameContentHash (link.contentHash.map .bytes)

theorem kind_withKeyLocator (m : Message) (locator : KeyLocator) :
    (withKeyLocator m locator).kind = m.kind := by
  cases locator with
  | key => rfl
  | link target =>
    obtain ⟨name, keyId, contentHash⟩ := target
    cases keyId <;> cases contentHash <;> rfl

/-! ## Making content objects -/

/-- A content object without a payload. -/
def create (name : Name) (type : PayloadType) : ContentObject :=
  ⟨messageOf name type none, kind_messageOf ..⟩

/-- A content object with plain data. -/
def createWithPayload (name : Name) (payload : Bytes) : ContentObject :=
  ⟨messageOf name .data (some payload), kind_messageOf ..⟩

/-- The content object of a message of that kind. -/
def ofMessage (m : Message) : Except MessageError ContentObject :=
  if h : m.kind = .contentObject then .ok ⟨m, h⟩ else .error (.wrongKind .contentObject m.kind)

/-! ## Fields -/

/-- The name. -/
def name (o : ContentObject) : Except MessageError Name := nameOf o.message

/-- The payload. -/
def payload? (o : ContentObject) : Option Bytes := o.message.content? .payload

/-- The same object with another payload. -/
def setPayload (o : ContentObject) (type : PayloadType) (payload : Bytes) : ContentObject :=
  ⟨withPayload o.message type payload, o.kind_eq⟩

/-- What the payload is. -/
def payloadType (o : ContentObject) : PayloadType := payloadTypeOf o.message

/-- When the object expires, in milliseconds of the epoch. -/
def expiryTime? (o : ContentObject) : Option UInt64 := o.message.number? .expiryTime

/-- The same object with another time of expiry. -/
def setExpiryTime (o : ContentObject) (time : UInt64) : ContentObject :=
  ⟨o.message.set .expiryTime (.int time), o.kind_eq⟩

/-- The number of the last chunk of what the object is a part of. -/
def finalChunk? (o : ContentObject) : Option UInt64 := o.message.number? .endChunkNumber

/-- The same object with another number of the last chunk. -/
def setFinalChunk (o : ContentObject) (chunk : UInt64) : ContentObject :=
  ⟨o.message.set .endChunkNumber (.int chunk), o.kind_eq⟩

/-- The identifier of the key that signed the object. -/
def keyId? (o : ContentObject) : Option Bytes := o.message.bytes? .keyId

/-- Where the key is. -/
def keyLocator? (o : ContentObject) : Option KeyLocator := keyLocatorOf? o.message

/-- The same object with another key locator. -/
def setKeyLocator (o : ContentObject) (locator : KeyLocator) : ContentObject :=
  ⟨withKeyLocator o.message locator, (kind_withKeyLocator o.message locator).trans o.kind_eq⟩

/-- The signature. -/
def signature? (o : ContentObject) : Option Bytes := o.message.bytes? .signature

/-- The crypto suite, if it is a known one. -/
def cryptoSuite? (o : ContentObject) : Option CryptoSuite :=
  match o.message.int? .cryptoSuite with
  | some n => if n.toNat < 65536 then CryptoSuite.ofCode? n.toUInt16 else none
  | none => none

/-- The same object with a signature made elsewhere. -/
def setSignature (o : ContentObject) (suite : CryptoSuite) (keyId signature : Bytes)
    (locator : Option KeyLocator) : ContentObject :=
  let signed : ContentObject :=
    ⟨((o.message.set .cryptoSuite (.int suite.code.toUInt64)).set .keyId (.bytes keyId)).set
      .signature (.bytes signature), o.kind_eq⟩
  match locator with
  | some locator => signed.setKeyLocator locator
  | none => signed

/-- Whether two objects agree in name, payload, times, key and signature. -/
def agrees (a b : ContentObject) : Bool :=
  a.message.name? .name == b.message.name? .name && a.payloadType == b.payloadType &&
    a.payload? == b.payload? && a.expiryTime? == b.expiryTime? &&
    a.finalChunk? == b.finalChunk? && a.keyId? == b.keyId? && a.signature? == b.signature?

/-- Writes a content object as a packet. -/
def toWire (o : ContentObject) (signer : Option Signer) (now : UInt64) :
    Except MessageError WireMessage := o.message.toWire signer now

/-! ## Operations of a schema version -/

/-- What can be done with a content object of a schema version. What a version does not support
fails by its name. -/
structure Operations where
  create : Name → PayloadType → Option Bytes → Except MessageError Message :=
    fun _ _ _ => .error (.notImplemented "create")
  name : Message → Except MessageError Name := fun _ => .error (.notImplemented "name")
  payload : Message → Except MessageError (Option Bytes) :=
    fun _ => .error (.notImplemented "payload")
  setPayload : Message → PayloadType → Bytes → Except MessageError Message :=
    fun _ _ _ => .error (.notImplemented "set_payload")
  payloadType : Message → Except MessageError PayloadType :=
    fun _ => .error (.notImplemented "payload_type")
  expiryTime : Message → Except MessageError (Option UInt64) :=
    fun _ => .error (.notImplemented "expiry_time")
  setExpiryTime : Message → UInt64 → Except MessageError Message :=
    fun _ _ => .error (.notImplemented "set_expiry_time")
  finalChunk : Message → Except MessageError (Option UInt64) :=
    fun _ => .error (.notImplemented "final_chunk_number")
  setFinalChunk : Message → UInt64 → Except MessageError Message :=
    fun _ _ => .error (.notImplemented "set_final_chunk_number")
  keyLocator : Message → Except MessageError (Option KeyLocator) :=
    fun _ => .error (.notImplemented "key_locator")
  setKeyLocator : Message → KeyLocator → Except MessageError Message :=
    fun _ _ => .error (.notImplemented "set_key_locator")

/-- The operations of the schema version. -/
def operations : Operations where
  create name type payload := .ok (messageOf name type payload)
  name := nameOf
  payload m := .ok (m.content? .payload)
  setPayload m type payload := .ok (withPayload m type payload)
  payloadType m := .ok (payloadTypeOf m)
  expiryTime m := .ok (m.number? .expiryTime)
  setExpiryTime m time := .ok (m.set .expiryTime (.int time))
  finalChunk m := .ok (m.number? .endChunkNumber)
  setFinalChunk m chunk := .ok (m.set .endChunkNumber (.int chunk))
  keyLocator m := .ok (keyLocatorOf? m)
  setKeyLocator m locator := .ok (withKeyLocator m locator)

end ContentObject

/-! ## Links as content -/

/-- The content object that publishes a link under a name. -/
def Link.toContentObject (link : Link) (name : Name) : Except MessageError ContentObject :=
  match link.toBytes with
  | .ok b => .ok ((ContentObject.create name .link).setPayload .link b)
  | .error e => .error (.encode e)

/-- The link that a content object publishes. -/
def Link.ofContentObject (o : ContentObject) : Except MessageError Link :=
  if o.payloadType ≠ .link then .error (.invalidValue .payloadType)
  else match Link.ofWire (o.payload?.getD []) with
    | .ok link => .ok link
    | .error e => .error (.decode e)

end NamedContent
