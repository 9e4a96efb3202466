import NamedContent.Message.Error
import NamedContent.Name.PayloadId
import NamedContent.Name.Text

/-!
# Interests

An Interest asks for content by name. It may carry a payload, and its name then an identifier of
the payload, so that Interests with different payloads have different names.

`Interest.Operations` is the table of what can be done with an Interest of a schema version;
`Interest.operations` is that of the one version there is.
-/

namespace NamedContent

/-- A request for content. -/
structure Interest where
  message : Message
  kind_eq : message.kind = .interest

namespace Interest

/-! ## Making Interests -/

/-- The message of an Interest. The default lifetime is not recorded. -/
def messageOf (name : Name) (lifetime : UInt64) (keyId contentHash : Option Bytes)
    (hopLimit : UInt8) : Message :=
  let named := (Message.empty .interest).set .name (.name name)
  let timed := if lifetime = defaultLifetime then named
    else named.set .interestLifetime (.int lifetime)
  let keyed := timed.setIfSome .keyIdRestriction (keyId.map .bytes)
  let restricted := keyed.setIfSome .contentHashRestriction (contentHash.map .bytes)
  restricted.set .hopLimit (.int hopLimit.toUInt64)

theorem kind_messageOf (name : Name) (lifetime : UInt64) (keyId contentHash : Option Bytes)
    (hopLimit : UInt8) : (messageOf name lifetime keyId contentHash hopLimit).kind = .interest := by
  unfold messageOf
  split <;> simp only [Message.set, Message.kind_setIfSome] <;> rfl

/-- An Interest with the default hop limit. -/
def create (name : Name) (lifetime : UInt64) (keyId contentHash : Option Bytes) : Interest where
  message := messageOf name lifetime keyId contentHash ({} : Config).hopLimit
  kind_eq := kind_messageOf ..

/-- An Interest with the lifetime and hop limit of the settings. -/
def createWith (config : Config) (name : Name) (keyId contentHash : Option Bytes) : Interest where
  message := messageOf name config.lifetime keyId contentHash config.hopLimit
  kind_eq := kind_messageOf ..

/-- An Interest without restrictions, under the default settings. -/
def simple (name : Name) : Interest := createWith {} name none none

/-- The Interest of a message of that kind. -/
def ofMessage (m : Message) : Except MessageError Interest :=
  if h : m.kind = .interest then .ok ⟨m, h⟩ else .error (.wrongKind .interest m.kind)

/-! ## Fields -/

/-- The name of a message. -/
def nameOf (m : Message) : Except MessageError Name :=
  match m.name? .name with
  | some name => .ok name
  | none => .error (.missingField .name)

/-- The hop limit of a message. -/
def hopLimitOf (m : Message) : Except MessageError UInt8 :=
  match m.int? .hopLimit with
  | none => .error (.missingField .hopLimit)
  | some n => if n.toNat < 256 then .ok n.toUInt8 else .error (.invalidValue .hopLimit)

/-- A name without the payload identifier at its end, if there is one. -/
def withoutPayloadId (name : Name) : Name :=
  if (PayloadId.ofName? name).isSome then name.trim 1 else name

/-- A message with a payload and, if there is an identifier, the identifier at the end of its name
in the place of an earlier one. -/
def withPayload (m : Message) (payload : Bytes) (id : Option PayloadId) :
    Except MessageError Message :=
  match id with
  | none => .ok (m.set .payload (.bytes payload))
  | some id =>
    match nameOf m with
    | .error e => .error e
    | .ok name => .ok ((m.set .name (.name ((withoutPayloadId name).append id.segment))).set
        .payload (.bytes payload))

theorem kind_withPayload {m m' : Message} {payload : Bytes} {id : Option PayloadId}
    (h : withPayload m payload id = .ok m') : m'.kind = m.kind := by
  unfold withPayload at h
  split at h
  · cases h; rfl
  · split at h
    · cases h
    · cases h; rfl

/-- The name. -/
def name (i : Interest) : Except MessageError Name := nameOf i.message

/-- The lifetime in milliseconds. -/
def lifetime (i : Interest) : UInt64 := (i.message.number? .interestLifetime).getD defaultLifetime

/-- The same Interest with another lifetime. -/
def setLifetime (i : Interest) (lifetime : UInt64) : Interest where
  message := i.message.set .interestLifetime (.int lifetime)
  kind_eq := i.kind_eq

/-- The identifier of the key that must have signed the content. -/
def keyIdRestriction? (i : Interest) : Option Bytes := i.message.bytes? .keyIdRestriction

/-- The digest that the content must have. -/
def contentHashRestriction? (i : Interest) : Option Bytes :=
  i.message.bytes? .contentHashRestriction

/-- The payload. -/
def payload? (i : Interest) : Option Bytes := i.message.content? .payload

/-- The same Interest with a payload, and the name as it is. -/
def setPayload (i : Interest) (payload : Bytes) : Interest where
  message := i.message.set .payload (.bytes payload)
  kind_eq := i.kind_eq

/-- The same Interest with a payload and an identifier of it at the end of its name. -/
def setPayloadWithId (i : Interest) (payload : Bytes) (id : PayloadId) :
    Except MessageError Interest :=
  match h : withPayload i.message payload (some id) with
  | .ok m => .ok ⟨m, by rw [kind_withPayload h, i.kind_eq]⟩
  | .error e => .error e

/-- The same Interest with a payload and its digest at the end of its name. -/
def setPayloadAndId (i : Interest) (payload : Bytes) : Except MessageError (Interest × PayloadId) :=
  (i.setPayloadWithId payload (.ofDigest payload)).map fun i => (i, .ofDigest payload)

/-- The identifier of the payload at the end of the name. -/
def payloadId? (i : Interest) : Except MessageError (Option PayloadId) :=
  i.name.map PayloadId.ofName?

/-- How many hops the Interest may go on. -/
def hopLimit (i : Interest) : Except MessageError UInt8 := hopLimitOf i.message

/-- The same Interest with another hop limit. -/
def setHopLimit (i : Interest) (hopLimit : UInt8) : Interest where
  message := i.message.set .hopLimit (.int hopLimit.toUInt64)
  kind_eq := i.kind_eq

/-- Whether two Interests agree in name, key restriction and lifetime; the restriction of the
content may differ. -/
def agrees (a b : Interest) : Bool :=
  a.message.name? .name == b.message.name? .name &&
    a.keyIdRestriction? == b.keyIdRestriction? && a.lifetime == b.lifetime

/-- A line about an Interest. -/
def text (i : Interest) : String :=
  match i.name with
  | .ok name => s!"Interest {name.toUri}"
  | .error _ => "Interest <no name>"

/-- Writes an Interest as a packet. -/
def toWire (i : Interest) (signer : Option Signer) (now : UInt64) :
    Except MessageError WireMessage := i.message.toWire signer now

/-! ## Operations of a schema version -/

/-- What can be done with an Interest of a schema version. What a version does not support fails
by its name. -/
structure Operations where
  create : Name → UInt64 → Option Bytes → Option Bytes → UInt8 → Except MessageError Message :=
    fun _ _ _ _ _ => .error (.notImplemented "create")
  name : Message → Except MessageError Name := fun _ => .error (.notImplemented "name")
  lifetime : Message → Except MessageError UInt64 := fun _ => .error (.notImplemented "lifetime")
  setLifetime : Message → UInt64 → Except MessageError Message :=
    fun _ _ => .error (.notImplemented "set_lifetime")
  keyIdRestriction : Message → Except MessageError (Option Bytes) :=
    fun _ => .error (.notImplemented "key_id_restriction")
  contentHashRestriction : Message → Except MessageError (Option Bytes) :=
    fun _ => .error (.notImplemented "content_object_hash_restriction")
  payload : Message → Except MessageError (Option Bytes) :=
    fun _ => .error (.notImplemented "payload")
  setPayloadWithId : Message → Bytes → Option PayloadId → Except MessageError Message :=
    fun _ _ _ => .error (.notImplemented "set_payload_with_id")
  hopLimit : Message → Except MessageError UInt8 := fun _ => .error (.notImplemented "hop_limit")
  setHopLimit : Message → UInt8 → Except MessageError Message :=
    fun _ _ => .error (.notImplemented "set_hop_limit")

/-- The operations of the schema version. -/
def operations : Operations where
  create name lifetime keyId contentHash hopLimit :=
    .ok (messageOf name lifetime keyId contentHash hopLimit)
  name := nameOf
  lifetime m := .ok ((m.number? .interestLifetime).getD defaultLifetime)
  setLifetime m lifetime := .ok (m.set .interestLifetime (.int lifetime))
  keyIdRestriction m := .ok (m.bytes? .keyIdRestriction)
  contentHashRestriction m := .ok (m.bytes? .contentHashRestriction)
  payload m := .ok (m.content? .payload)
  setPayloadWithId := withPayload
  hopLimit := hopLimitOf
  setHopLimit m hopLimit := .ok (m.set .hopLimit (.int hopLimit.toUInt64))

end Interest

end NamedContent
