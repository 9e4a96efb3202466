import NamedContent.Wire

/-!
# Failures of messages

What can go wrong between a message and what it stands for: a field is missing or holds something
else, the message is of another kind, or it cannot be read or written.
-/

namespace NamedContent

/-- Why a message does not do what was asked of it. -/
inductive MessageError
  | notImplemented (operation : String)
  | wrongKind (expected found : MessageKind)
  | missingField (field : Field)
  | invalidValue (field : Field)
  | fieldTaken (taken : FieldTaken)
  | json
  | decode (error : DecodeError)
  | encode (error : EncodeError)
  | wire (error : WireError)
deriving DecidableEq, Repr

namespace MessageError

/-- The class of a failure. -/
def kind : MessageError → ErrorKind
  | .notImplemented _ => .notImplementedForSchema
  | .wrongKind .. => .genericDecode
  | .missingField _ => .missingMandatoryField
  | .invalidValue _ => .genericDecode
  | .fieldTaken _ => .encode
  | .json => .genericDecode
  | .decode error => error.kind
  | .encode error => error.kind
  | .wire _ => .encode

/-- The wording of a failure. -/
def message : MessageError → String
  | .notImplemented operation =>
    s!"{operation} is not implemented for schema V{schemaVersion.toNat}"
  | .wrongKind expected found => s!"Expected a {expected.name} message, found {found.name}"
  | .missingField field => s!"Missing field: {field.label}"
  | .invalidValue field => s!"Field {field.label} holds an unsupported value"
  | .fieldTaken taken => taken.message
  | .json => "JSON error"
  | .decode error => error.message
  | .encode error => error.message
  | .wire error => error.message

end MessageError

/-- Writes a message under the default settings. -/
def Message.toWire (m : Message) (signer : Option Signer) (now : UInt64) :
    Except MessageError WireMessage :=
  match (WireMessage.create m).encode signer {} now with
  | .ok w => .ok w
  | .error e => .error (.wire e)

end NamedContent
