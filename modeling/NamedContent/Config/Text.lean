import NamedContent.Config
import NamedContent.Toml.Parser

/-!
# Settings as text

Settings are kept in a TOML document, one line for each. A setting that is absent has its default,
and keys that are none of a setting do not matter. Numbers are integers of 64 bits with a sign, so
that greater numbers cannot be kept.
-/

namespace NamedContent.Config

/-- The key of the lifetime. -/
def lifetimeKey : String := "default_interest_lifetime_ms"
/-- The key of the hop limit. -/
def hopLimitKey : String := "default_hop_limit"
/-- The key of the length of the longest packet. -/
def maxPacketLengthKey : String := "max_packet_length"
/-- The key of whether packets tell the time of signing. -/
def signatureTimeKey : String := "generate_signature_time"

/-! ## Reading -/

/-- The number below a bound in an entry. -/
def natOf? (bound : Nat) : Toml.Node → Option Nat
  | .integer n => if 0 ≤ n ∧ n < bound then some n.toNat else none
  | _ => none

/-- The truth value in an entry. -/
def boolOf? : Toml.Node → Option Bool
  | .boolean b => some b
  | _ => none

/-- A setting that has its default when it is absent. -/
def setting {α : Type} (entries : Toml.Entries) (key : String) (read : Toml.Node → Option α)
    (default : α) : Option α :=
  match entries.lookup key with
  | none => some default
  | some node => read node

/-- The settings in the entries of a document. -/
def ofEntries? (entries : Toml.Entries) : Option Config := do
  let default : Config := {}
  let lifetime ← setting entries lifetimeKey (natOf? UInt64.size) default.lifetime.toNat
  let hopLimit ← setting entries hopLimitKey (natOf? 256) default.hopLimit.toNat
  let maxPacketLength ←
    setting entries maxPacketLengthKey (natOf? UInt64.size) default.maxPacketLength
  let signatureTime ← setting entries signatureTimeKey boolOf? default.signatureTime
  return ⟨UInt64.ofNat lifetime, UInt8.ofNat hopLimit, maxPacketLength, signatureTime⟩

/-- The settings that a text tells. -/
def ofText (text : String) : Except ConfigError Config :=
  match Toml.parse? text >>= ofEntries? with
  | none => .error .malformed
  | some config => config.validate.map fun _ => config

/-- The settings in a file, whose text is there if the file is. -/
def load : (text : Option String) → Except ConfigError Config
  | none => .ok {}
  | some text => ofText text

/-! ## Writing -/

/-- The least number that cannot be kept. -/
def numberBound : Nat := 1 <<< 63

/-- The text of settings, when all their numbers can be kept. -/
def toText? (config : Config) : Option String :=
  if config.lifetime.toNat < numberBound ∧ config.maxPacketLength < numberBound then
    some (s!"{lifetimeKey} = {config.lifetime.toNat}\n" ++
      s!"{hopLimitKey} = {config.hopLimit.toNat}\n" ++
      s!"{maxPacketLengthKey} = {config.maxPacketLength}\n" ++
      s!"{signatureTimeKey} = {config.signatureTime}\n")
  else none

end NamedContent.Config
