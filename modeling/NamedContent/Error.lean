import NamedContent.Text.Hex

/-!
# Failures of the packet codec

Each failure is a constructor that carries its cause; `message` gives its wording and `kind` the
class a caller may act on.
-/

namespace NamedContent

/-- The classes of failure that all parts of the codec share. -/
inductive ErrorKind
  | versionMismatch
  | packetTypeUnknown
  | fieldBeyondPacketEnd
  | lengthExceedsContainer
  | fixedSizeFieldWrongLength
  | duplicateField
  | trailingUnaccountedBytes
  | missingMandatoryField
  | genericDecode
  | packetTooShort
  | headerTooShort
  | packetShorterThanHeader
  | invalidName
  | invalidLabel
  | notImplementedForSchema
  | encode
deriving DecidableEq, Repr

/-- The name of a class of failure. -/
def ErrorKind.name : ErrorKind → String
  | .versionMismatch => "VersionMismatch"
  | .packetTypeUnknown => "PacketTypeUnknown"
  | .fieldBeyondPacketEnd => "FieldBeyondPacketEnd"
  | .lengthExceedsContainer => "LengthExceedsContainer"
  | .fixedSizeFieldWrongLength => "FixedSizeFieldWrongLength"
  | .duplicateField => "DuplicateField"
  | .trailingUnaccountedBytes => "TrailingUnaccountedBytes"
  | .missingMandatoryField => "MissingMandatoryField"
  | .genericDecode => "GenericDecode"
  | .packetTooShort => "PacketTooShort"
  | .headerTooShort => "HeaderTooShort"
  | .packetShorterThanHeader => "PacketShorterThanHeader"
  | .invalidName => "InvalidName"
  | .invalidLabel => "InvalidLabel"
  | .notImplementedForSchema => "NotImplementedForSchema"
  | .encode => "Encode"

/-! ## Reading -/

/-- The lengths that a field of fixed size may have. -/
inductive FieldWidth
  | exactly (width : Nat)
  | between (least most : Nat)
deriving DecidableEq, Repr

/-- The wording of a width. -/
def FieldWidth.text : FieldWidth → String
  | .exactly width => s!"{width}"
  | .between least most => s!"{least} to {most}"

/-- Why bytes are no packet, or no part of one. -/
inductive DecodeError
  | versionMismatch (version : UInt8)
  | packetTypeUnknown (code : UInt8)
  | fieldBeyondPacketEnd (offset needed available : Nat)
  | lengthExceedsContainer (type : UInt16) (length remaining : Nat)
  | fixedSizeFieldWrongLength (type : UInt16) (expected : FieldWidth) (actual : Nat)
  | duplicateField (type : UInt16)
  | trailingUnaccountedBytes (count : Nat)
  | missingMandatoryField (field : String)
  | integerWidth (length : Nat)
  | messageTypeMismatch (found expected : UInt16)
  | secondCryptoSuite
  | packetTooShort (length : UInt16)
  | headerTooShort (length : UInt8)
  | packetShorterThanHeader (packetLength : UInt16) (headerLength : UInt8)
  | invalidLabel (type : UInt16)
deriving DecidableEq, Repr

namespace DecodeError

/-- The class of a reading failure. -/
def kind : DecodeError → ErrorKind
  | .versionMismatch _ => .versionMismatch
  | .packetTypeUnknown _ => .packetTypeUnknown
  | .fieldBeyondPacketEnd .. => .fieldBeyondPacketEnd
  | .lengthExceedsContainer .. => .lengthExceedsContainer
  | .fixedSizeFieldWrongLength .. => .fixedSizeFieldWrongLength
  | .duplicateField _ => .duplicateField
  | .trailingUnaccountedBytes _ => .trailingUnaccountedBytes
  | .missingMandatoryField _ => .missingMandatoryField
  | .integerWidth _ => .genericDecode
  | .messageTypeMismatch .. => .genericDecode
  | .secondCryptoSuite => .genericDecode
  | .packetTooShort _ => .packetTooShort
  | .headerTooShort _ => .headerTooShort
  | .packetShorterThanHeader .. => .packetShorterThanHeader
  | .invalidLabel _ => .invalidLabel

/-- The wording of a reading failure. -/
def message : DecodeError → String
  | .versionMismatch version => s!"Unsupported schema version: {version.toNat}"
  | .packetTypeUnknown code => s!"Unknown packet type: {Hex.padded 2 code.toNat}"
  | .fieldBeyondPacketEnd offset needed available =>
    s!"Field at offset {offset} needs {needed} bytes, only {available} available"
  | .lengthExceedsContainer type length remaining =>
    s!"TLV {Hex.code type} length {length} exceeds its container ({remaining} bytes left)"
  | .fixedSizeFieldWrongLength type expected actual =>
    s!"TLV {Hex.code type} has length {actual}, expected {expected.text}"
  | .duplicateField type => s!"Duplicate TLV {Hex.code type}"
  | .trailingUnaccountedBytes count => s!"{count} trailing bytes do not form a TLV"
  | .missingMandatoryField field => s!"Missing mandatory field: {field}"
  | .integerWidth length => s!"Decode error: variable integer of {length} bytes"
  | .messageTypeMismatch found expected =>
    s!"Decode error: message TLV {Hex.code found} does not match packet type " ++
      s!"(expected {Hex.code expected})"
  | .secondCryptoSuite => "Decode error: validation algorithm holds more than one crypto suite"
  | .packetTooShort length => s!"Packet length {length.toNat} is shorter than the fixed header"
  | .headerTooShort length => s!"Header length {length.toNat} is shorter than the fixed header"
  | .packetShorterThanHeader packetLength headerLength =>
    s!"Packet length {packetLength.toNat} is shorter than header length {headerLength.toNat}"
  | .invalidLabel type => s!"Invalid name segment type {Hex.code type}"

end DecodeError

/-! ## Signing -/

/-- Why no signature was made. -/
inductive SignError
  | key (reason : String)
  | rsa (reason : String)
  | failed (reason : String)
deriving DecidableEq, Repr

/-- The wording of a signing failure. -/
def SignError.message : SignError → String
  | .key reason => s!"Key error: {reason}"
  | .rsa reason => s!"RSA error: {reason}"
  | .failed reason => s!"Signing failed: {reason}"

/-! ## Writing -/

/-- Why a message, or a part of one, has no packet form. -/
inductive EncodeError
  | valueTooLong (length : Nat)
  | packetTooLong (length limit : Nat)
  | headersTooLong (length : Nat)
  | missingMandatoryField (field : String)
  | unexpectedValue (field : String)
  | signatureWithoutAlgorithm
  | invalidPatchOffset (offset : Nat)
  | signer (error : SignError)
deriving DecidableEq, Repr

namespace EncodeError

/-- The class of a writing failure. -/
def kind : EncodeError → ErrorKind
  | .missingMandatoryField _ => .missingMandatoryField
  | _ => .encode

/-- The wording of a writing failure. -/
def message : EncodeError → String
  | .valueTooLong length => s!"Value of {length} bytes exceeds the 65535 byte TLV limit"
  | .packetTooLong length limit => s!"Packet of {length} bytes exceeds the {limit} byte limit"
  | .headersTooLong length =>
    s!"Optional headers of {length} bytes do not fit the header length byte"
  | .missingMandatoryField field => s!"Missing mandatory field: {field}"
  | .unexpectedValue field => s!"Field {field} holds a value of the wrong kind"
  | .signatureWithoutAlgorithm => "Signature present but no validation algorithm applies"
  | .invalidPatchOffset offset => s!"Offset {offset} does not point into a patchable header"
  | .signer error => s!"Signer error: {error.message}"

end EncodeError

end NamedContent
