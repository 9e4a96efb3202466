import NamedContent.Codes

/-!
# Settings of the codec

What a message without a lifetime or a hop limit gets, how long a packet may be, and whether
signed packets tell the time of signing.
-/

namespace NamedContent

/-- The lifetime of an Interest that tells none, in milliseconds. -/
def defaultLifetime : UInt64 := 4000

/-- The settings of the codec. -/
structure Config where
  /-- The lifetime of Interests made without one, in milliseconds. -/
  lifetime : UInt64 := defaultLifetime
  /-- The hop limit of Interests made without one. -/
  hopLimit : UInt8 := 255
  /-- The length of the longest packet that is written or taken from a stream. -/
  maxPacketLength : Nat := maxLength
  /-- Whether packets signed with a key tell the time of signing. -/
  signatureTime : Bool := true
deriving DecidableEq, Repr

/-- Why a text tells no usable settings: it is no settings text, or the longest packet that it
allows has no room for a header or a length that fits none. -/
inductive ConfigError
  | malformed
  | packetLength (length : Nat)
deriving DecidableEq, Repr

/-- The wording of the failure. -/
def ConfigError.message : ConfigError → String
  | .malformed => "TOML parse error"
  | .packetLength length =>
    s!"max_packet_length {length} must be between {fixedHeaderLength} and {maxLength}"

/-- The check that the longest packet has room for a header and a length that fits one. -/
def Config.validate (config : Config) : Except ConfigError Unit :=
  if fixedHeaderLength ≤ config.maxPacketLength ∧ config.maxPacketLength ≤ maxLength then .ok ()
  else .error (.packetLength config.maxPacketLength)

end NamedContent
