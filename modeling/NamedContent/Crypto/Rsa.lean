import NamedContent.Hash.Sha256
import NamedContent.Error

/-!
# RSA signatures

PKCS #1 v1.5 signatures over SHA-256 (RFC 8017): the digest is wrapped in a fixed prefix, padded to
the length of the modulus and raised to a key's exponent. The DER form of a public key identifies
it.
-/

namespace NamedContent.Rsa

/-- A power of `base` modulo `modulus`, by squaring. -/
def powMod (modulus base exponent : Nat) : Nat :=
  if exponent = 0 then 1 % modulus
  else
    let half := powMod modulus (base * base % modulus) (exponent / 2)
    if exponent % 2 = 1 then base * half % modulus else half
termination_by exponent
decreasing_by omega

/-- The least number of bytes that hold a number. -/
def byteLength (n : Nat) : Nat := if n = 0 then 0 else n.log2 / 8 + 1

/-! ## DER -/

/-- A length in DER: one byte below 128, else the count of its bytes and the bytes. -/
def derLength (n : Nat) : Bytes :=
  if n < 128 then [UInt8.ofNat n]
  else UInt8.ofNat (0x80 + byteLength n) :: Bytes.ofNat (byteLength n) n

/-- A DER element. -/
def der (tag : UInt8) (content : Bytes) : Bytes := tag :: derLength content.length ++ content

/-- A natural number in DER; a leading zero byte keeps it positive. -/
def derNatural (n : Nat) : Bytes :=
  der 0x02 (Bytes.ofNat (n.log2 / 8 + 1 + (if n.log2 % 8 = 7 then 1 else 0)) n)

/-! ## Keys -/

/-- A public key. -/
structure PublicKey where
  modulus : Nat
  exponent : Nat
deriving DecidableEq, Repr

/-- A key pair with the two primes of its modulus. -/
structure KeyPair extends PublicKey where
  secret : Nat
  prime1 : Nat
  prime2 : Nat
deriving DecidableEq, Repr

/-- The PKCS #1 form of a public key. -/
def PublicKey.toDer (key : PublicKey) : Bytes :=
  der 0x30 (derNatural key.modulus ++ derNatural key.exponent)

/-- The digest that identifies a public key. -/
def PublicKey.digest (key : PublicKey) : Bytes := Sha256.digest key.toDer

/-- The length of the modulus in bytes, which every signature has. -/
def PublicKey.size (key : PublicKey) : Nat := byteLength key.modulus

/-- Why a key pair cannot be used, if it cannot: the modulus has at most 4096 bits and is the
product of the primes, the public exponent is an odd number of at most 33 bits, and the exponents
are inverse to each other. -/
def KeyPair.fault? (key : KeyPair) : Option String :=
  let invertsModulo (prime : Nat) : Bool :=
    prime != 0 && (key.exponent * key.secret) % (prime - 1) == 1 % (prime - 1)
  if 1 <<< 4096 ≤ key.modulus then some "modulus too large"
  else if UInt64.size ≤ key.exponent then some "public exponent too large"
  else if key.modulus ≤ key.exponent || key.modulus % 2 == 0 then some "invalid modulus"
  else if key.exponent % 2 == 0 then some "invalid exponent"
  else if key.exponent < 2 then some "public exponent too small"
  else if 1 <<< 33 ≤ key.exponent then some "public exponent too large"
  else if key.prime1 < 2 || key.prime2 < 2 then some "invalid prime value"
  else if key.prime1 * key.prime2 != key.modulus then some "invalid modulus"
  else if !(invertsModulo key.prime1 && invertsModulo key.prime2) then some "invalid exponent"
  else none

/-! ## Signatures -/

/-- The DER header of a SHA-256 digest. -/
def digestHeader : Bytes :=
  [0x30, 0x31, 0x30, 0x0d, 0x06, 0x09, 0x60, 0x86, 0x48, 0x01, 0x65, 0x03, 0x04, 0x02, 0x01, 0x05,
    0x00, 0x04, 0x20]

/-- The padded digest of a message in `size` bytes, when it fits. -/
def encodedDigest? (size : Nat) (message : Bytes) : Option Bytes :=
  let content := digestHeader ++ Sha256.digest message
  if size < content.length + 11 then none
  else some (0x00 :: 0x01 :: List.replicate (size - content.length - 3) 0xFF ++ 0x00 :: content)

/-- The signature of a message. -/
def sign (key : KeyPair) (message : Bytes) : Except SignError Bytes :=
  match encodedDigest? key.size message with
  | none => .error (.rsa "message too long")
  | some encoded =>
    .ok (Bytes.ofNat key.size (powMod key.modulus (Bytes.toNat encoded) key.secret))

/-- Whether a signature is one of a message. -/
def verify (key : PublicKey) (message signature : Bytes) : Bool :=
  let s := Bytes.toNat signature
  signature.length == key.size && s < key.modulus &&
    match encodedDigest? key.size message with
    | none => false
    | some encoded => powMod key.modulus s key.exponent == Bytes.toNat encoded

end NamedContent.Rsa
