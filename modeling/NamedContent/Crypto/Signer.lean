import NamedContent.Codes
import NamedContent.Crypto.Rsa
import NamedContent.Hash.Hmac

/-!
# Signers and verifiers

A signer is a function from bytes to a signature, with what a packet tells about it: algorithm,
digest and the identifier of the key. Which crypto suite a packet names follows from algorithm and
digest.
-/

namespace NamedContent

/-- Families of signing algorithms; `null` is an integrity check without a key. -/
inductive SigningAlgorithm
  | null
  | rsa
  | hmac
  | ecdsa
deriving DecidableEq, Repr

/-- The name of a family. -/
def SigningAlgorithm.name : SigningAlgorithm → String
  | .null => "Null"
  | .rsa => "Rsa"
  | .hmac => "Hmac"
  | .ecdsa => "Ecdsa"

/-- The digests that signatures are made over. -/
inductive HashType
  | sha256
  | sha512
  | crc32c
deriving DecidableEq, Repr

/-- The name of a digest. -/
def HashType.name : HashType → String
  | .sha256 => "Sha256"
  | .sha512 => "Sha512"
  | .crc32c => "Crc32c"

/-- The suites that have a code, by digest and algorithm. -/
def suiteTable : List (HashType × SigningAlgorithm × CryptoSuite) :=
  [(.sha256, .rsa, .rsaSha256), (.sha256, .hmac, .hmacSha256), (.crc32c, .null, .crc32c)]

/-- The suite of a digest and an algorithm. -/
def suiteFor? (hash : HashType) (algorithm : SigningAlgorithm) : Option CryptoSuite :=
  (suiteTable.find? fun (h, a, _) => h == hash && a == algorithm).map fun (_, _, suite) => suite

/-- What makes signatures. -/
structure Signer where
  algorithm : SigningAlgorithm
  hash : HashType
  /-- The identifier under which a verifier looks up the key. -/
  keyDigest : Option Bytes
  sign : Bytes → Except SignError Bytes

/-- The suite that a signer's packets name. -/
def Signer.suite? (signer : Signer) : Option CryptoSuite := suiteFor? signer.hash signer.algorithm

/-- What checks the signature of a message. -/
structure Verifier where
  verify : (message signature : Bytes) → Bool

namespace Signer

/-- The signer of a shared secret. -/
def hmac (secret : Bytes) : Signer where
  algorithm := .hmac
  hash := .sha256
  keyDigest := some (Sha256.digest secret)
  sign message := .ok (Hmac.mac secret message)

/-- The signer of a key pair. -/
def rsa (key : Rsa.KeyPair) : Signer where
  algorithm := .rsa
  hash := .sha256
  keyDigest := some key.toPublicKey.digest
  sign := Rsa.sign key

end Signer

namespace Verifier

/-- The verifier of a shared secret. -/
def hmac (secret : Bytes) : Verifier where
  verify message signature := Hmac.mac secret message == signature

/-- The verifier of a public key. -/
def rsa (key : Rsa.PublicKey) : Verifier where
  verify := Rsa.verify key

end Verifier

end NamedContent
