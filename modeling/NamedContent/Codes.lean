/-!
# Code tables

The numbers that stand for kinds of packets, crypto suites, payload types and return codes, each
as an enumeration with a code and a look-up by code.
-/

namespace NamedContent

/-- The schema version of every packet, its first byte. -/
def schemaVersion : UInt8 := 1

/-- The length of the fixed header. -/
def fixedHeaderLength : Nat := 8

/-- The greatest length that two bytes can announce. -/
def maxLength : Nat := 65535

/-! ## Kinds of messages -/

/-- The four kinds of messages, each with its own packet type. -/
inductive MessageKind
  | interest
  | contentObject
  | interestReturn
  | control
deriving DecidableEq, Repr

namespace MessageKind

/-- Every kind. -/
def all : List MessageKind := [.interest, .contentObject, .interestReturn, .control]

/-- The packet type, the second byte of a packet. -/
def packetType : MessageKind → UInt8
  | .interest => 0x00
  | .contentObject => 0x01
  | .interestReturn => 0x02
  | .control => 0xA4

/-- The kind with a given packet type. -/
def ofPacketType? (code : UInt8) : Option MessageKind :=
  all.find? fun kind => kind.packetType == code

/-- The type of the element that holds the message. -/
def elementType : MessageKind → UInt16
  | .interest => 0x0001
  | .interestReturn => 0x0001
  | .contentObject => 0x0002
  | .control => 0xBEEF

/-- The name of a kind. -/
def name : MessageKind → String
  | .interest => "Interest"
  | .contentObject => "ContentObject"
  | .interestReturn => "InterestReturn"
  | .control => "Control"

/-- Whether a message asks for content, or brings such a request back. -/
def isRequest : MessageKind → Bool
  | .interest => true
  | .interestReturn => true
  | _ => false

end MessageKind

/-! ## Crypto suites -/

/-- The ways to validate a message. -/
inductive CryptoSuite
  | crc32c
  | hmacSha256
  | rsaSha256
  | ecSecp256k1
deriving DecidableEq, Repr

namespace CryptoSuite

/-- Every suite. -/
def all : List CryptoSuite := [.crc32c, .hmacSha256, .rsaSha256, .ecSecp256k1]

/-- The code of a suite. -/
def code : CryptoSuite → UInt16
  | .crc32c => 2
  | .hmacSha256 => 4
  | .rsaSha256 => 6
  | .ecSecp256k1 => 7

/-- The suite with a given code. -/
def ofCode? (code : UInt16) : Option CryptoSuite := all.find? fun suite => suite.code == code

/-- The name of a suite. -/
def name : CryptoSuite → String
  | .crc32c => "Crc32c"
  | .hmacSha256 => "HmacSha256"
  | .rsaSha256 => "RsaSha256"
  | .ecSecp256k1 => "EcSecp256K1"

end CryptoSuite

/-! ## Payload types -/

/-- What the payload of a content object is. -/
inductive PayloadType
  | data
  | key
  | link
  | manifest
deriving DecidableEq, Repr

namespace PayloadType

/-- Every payload type. -/
def all : List PayloadType := [.data, .key, .link, .manifest]

/-- The code of a payload type. -/
def code : PayloadType → UInt8
  | .data => 0
  | .key => 1
  | .link => 2
  | .manifest => 3

/-- The payload type with a given code. -/
def ofCode? (code : UInt8) : Option PayloadType := all.find? fun type => type.code == code

/-- The name of a payload type. -/
def name : PayloadType → String
  | .data => "Data"
  | .key => "Key"
  | .link => "Link"
  | .manifest => "Manifest"

end PayloadType

/-! ## Return codes -/

/-- Why an Interest comes back. -/
inductive ReturnCode
  | noRoute
  | hopLimitExceeded
  | noResources
  | pathError
  | prohibited
  | congested
  | mtuTooLarge
  | unsupportedHashRestriction
  | malformedInterest
deriving DecidableEq, Repr

namespace ReturnCode

/-- Every return code. -/
def all : List ReturnCode :=
  [.noRoute, .hopLimitExceeded, .noResources, .pathError, .prohibited, .congested, .mtuTooLarge,
    .unsupportedHashRestriction, .malformedInterest]

/-- The number of a return code. -/
def code : ReturnCode → UInt8
  | .noRoute => 1
  | .hopLimitExceeded => 2
  | .noResources => 3
  | .pathError => 4
  | .prohibited => 5
  | .congested => 6
  | .mtuTooLarge => 7
  | .unsupportedHashRestriction => 8
  | .malformedInterest => 9

/-- The return code with a given number. -/
def ofCode? (code : UInt8) : Option ReturnCode := all.find? fun reason => reason.code == code

/-- The name of a return code. -/
def name : ReturnCode → String
  | .noRoute => "NoRoute"
  | .hopLimitExceeded => "HopLimitExceeded"
  | .noResources => "NoResources"
  | .pathError => "PathError"
  | .prohibited => "Prohibited"
  | .congested => "Congested"
  | .mtuTooLarge => "MtuTooLarge"
  | .unsupportedHashRestriction => "UnsupportedHashRestriction"
  | .malformedInterest => "MalformedInterest"

end ReturnCode

end NamedContent
