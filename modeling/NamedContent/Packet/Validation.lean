import NamedContent.Config
import NamedContent.Crypto.Signer
import NamedContent.Packet.Part

/-!
# Writing the validation

A packet whose message names a crypto suite, or a content object whose signer has one, carries the
validation algorithm and, if there is a signature or a signer, the signature. What is derived from
the signer is recorded in the message: suite, key identifier, time of signing and signature.
-/

namespace NamedContent.Validation

/-- The suite of a message, else that of the signer of a content object. -/
def suiteCode? (m : Message) (signer : Option Signer) : Except EncodeError (Option UInt16) :=
  match m.int? .cryptoSuite with
  | some n =>
    if n.toNat ≤ 65535 then .ok (some n.toUInt16)
    else .error (.unexpectedValue Field.cryptoSuite.label)
  | none =>
    if m.kind = .contentObject then .ok ((signer.bind Signer.suite?).map CryptoSuite.code)
    else .ok none

/-- Records the suite and, unless there is one, the identifier of the signer's key. -/
def withSuite (m : Message) (suite : UInt16) (signer : Option Signer) : Message :=
  let named := m.set .cryptoSuite (.int suite.toUInt64)
  if named.contains .keyId then named
  else named.setIfSome .keyId ((signer.bind Signer.keyDigest).map .bytes)

/-- Whether the time of signing is to be told: it is not given, the settings ask for it, and
there is a signer with a key. -/
def needsTime (m : Message) (signer : Option Signer) (config : Config) : Bool :=
  !m.contains .signatureTime && config.signatureTime &&
    signer.any fun s => s.algorithm != .null

/-- Records the time of signing, when it is to be told. -/
def withTime (m : Message) (signer : Option Signer) (config : Config) (now : UInt64) : Message :=
  if needsTime m signer config then m.set .signatureTime (.int now) else m

/-- Writes the validation algorithm of a message. -/
def emitSuite (m : Message) (suite : UInt16) : Emit Nat :=
  Emit.container Part.algorithmType (Emit.container suite (m.emitZone .suite))

/-- Writes the validation algorithm, or nothing when no suite applies, and records what was
derived. The time of signing is taken once the key has been written. -/
def algorithm (m : Message) (signer : Option Signer) (config : Config) (now : UInt64) :
    Emit Nat × Message :=
  match suiteCode? m signer with
  | .error e => (Emit.fail e, m)
  | .ok none => (Emit.done 0, m)
  | .ok (some suite) =>
    let keyed := withSuite m suite signer
    let timed := withTime keyed signer config now
    match (emitSlots keyed keySlots).result with
    | .error _ => (emitSuite timed suite, keyed)
    | .ok _ => (emitSuite timed suite, timed)

/-- Writes a signature. -/
def emitSignature (b : Bytes) : Emit Nat := Emit.element Part.signatureType b

/-- Signs and writes the signature, which is recorded once it is written. -/
def sign (m : Message) (signer : Signer) (covered : Bytes) : Emit Nat × Message :=
  match signer.sign covered with
  | .error e => (Emit.fail (.signer e), m)
  | .ok signature =>
    match (emitSignature signature).result with
    | .error _ => (emitSignature signature, m)
    | .ok _ => (emitSignature signature, m.set .signature (.bytes signature))

/-- Writes the signature of a message, or the one that a signer makes over the bytes it covers.
Without a validation algorithm no bytes are covered, and there must be no signature. -/
def signature (m : Message) (signer : Option Signer) (covered : Option Bytes) :
    Emit Nat × Message :=
  match covered with
  | none =>
    if m.contains .signature then (Emit.fail .signatureWithoutAlgorithm, m) else (Emit.done 0, m)
  | some covered =>
    match m.bytes? .signature with
    | some b => (emitSignature b, m)
    | none =>
      match signer with
      | some signer => sign m signer covered
      | none => (Emit.done 0, m)

end NamedContent.Validation
