import NamedContent.Proofs.Repetition
import NamedContent.Proofs.Signing

/-!
# Signers without a suite

Where no crypto suite applies to a message and its signer, nothing is taken from the signer: neither
suite nor key, neither time nor signature. The message is written as it is without a signer, and
what is written has no validation.

* `suiteFor?_eq_none_iff`: which signers have no suite.
* `parts_of_unsuited`: the parts of such a message, whoever signs.
* `encodeInPlace_unsuited`: the two runs, side by side.
-/

namespace NamedContent

theorem suiteFor?_eq_none_iff {hash : HashType} {algorithm : SigningAlgorithm} :
    suiteFor? hash algorithm = none ↔ ∀ suite, (hash, algorithm, suite) ∉ suiteTable := by
  rw [suiteFor?, Option.map_eq_none_iff, List.find?_eq_none]
  constructor
  · intro h suite hmem
    exact h _ hmem (by simp)
  · rintro h ⟨hash', algorithm', suite⟩ hmem heq
    obtain ⟨rfl, rfl⟩ : hash' = hash ∧ algorithm' = algorithm := by simpa using heq
    exact h suite hmem

namespace Validation

variable {m : Message} {s : Signer} {signer : Option Signer}

theorem not_applies_iff : ¬ Applies m s ↔ m.int? .cryptoSuite = none ∧
    (m.kind ≠ .contentObject ∨ ∀ suite, (s.hash, s.algorithm, suite) ∉ suiteTable) := by
  rw [Applies, not_or, Option.not_isSome_iff_eq_none, not_and_or, Option.not_isSome_iff_eq_none,
    Signer.suite?, suiteFor?_eq_none_iff]

theorem suiteCode?_unsigned (h : m.int? .cryptoSuite = none) : suiteCode? m none = .ok none := by
  rw [suiteCode?, h]
  dsimp only
  split <;> rfl

theorem suiteCode?_of_not_applies (h : ¬ Applies m s) : suiteCode? m (some s) = .ok none := by
  obtain ⟨hnone, hkind⟩ := not_or.mp h
  rw [suiteCode?, Option.not_isSome_iff_eq_none.mp hnone]
  dsimp only
  split
  · next hobject =>
    have hsuite : s.suite? = none := Option.not_isSome_iff_eq_none.mp fun hs => hkind ⟨hobject, hs⟩
    rw [Option.bind_some, hsuite]
    rfl
  · rfl

end Validation

namespace Packet

open Layout

variable {m : Message} {signer signer' : Option Signer} {config : Config} {now now' : UInt64}
  {e : Encoded}

/-! ## Parts -/

/-- The parts of a message to which no suite applies. -/
def Parts.unsuited (m : Message) : Parts where
  hop := m.emitZone .hop
  message := emitMessage m
  algorithm := Emit.done 0
  signature := if m.contains .signature then Emit.fail .signatureWithoutAlgorithm else Emit.done 0
  recorded := m

/-- Without a suite there is no algorithm, and then no bytes are covered that could be signed. -/
theorem parts_of_unsuited (hcode : Validation.suiteCode? m signer = .ok none) (config : Config)
    (now : UInt64) : Parts.ofMessage m signer config now = .unsuited m := by
  have halgorithm : Validation.algorithm m signer config now = (Emit.done 0, m) := by
    rw [Validation.algorithm, hcode]
  simp only [Parts.ofMessage, halgorithm]
  show Parts.mk _ _ _ (Validation.signature m signer none).1
    (Validation.signature m signer none).2 = _
  rw [Validation.signature, Parts.unsuited]
  split <;> rfl

/-- A signature that has no algorithm is a fault, once headers and message are written. -/
theorem Parts.result_unsuited (h : m.contains .signature = true) :
    (Parts.unsuited m).emit.result = (m.emitZone .hop).result >>= fun _ =>
      (emitMessage m).result >>= fun _ => .error .signatureWithoutAlgorithm := by
  rw [Parts.emit, Parts.unsuited, if_pos h]
  simp only [Emit.result_bind]
  rfl

/-! ## Packets -/

theorem fst_encodeInPlace (m : Message) (signer : Option Signer) (config : Config) (now : UInt64) :
    (encodeInPlace m signer config now).1 = encode m signer config now := by
  simp only [encodeInPlace, encodeStaged]
  cases encode m signer config now <;> rfl

/-- What is written depends on the parts only, and so does what is left of the message. -/
theorem encodeInPlace_congr
    (h : Parts.ofMessage m signer config now = Parts.ofMessage m signer' config now') :
    encodeInPlace m signer config now = encodeInPlace m signer' config now' := by
  simp only [encodeInPlace, encodeStaged, encode, h]

/-- A packet without a suite has its message behind the headers, and nothing else. -/
theorem scan_of_unsuited (hcode : Validation.suiteCode? m signer = .ok none)
    (hok : encode m signer config now = .ok e) :
    e.message = m ∧ e.signed = e.hashed ∧ Tlv.scan (e.wire.toBytes.drop e.signed.start) =
      ([⟨m.kind.elementType, Tlv.concat (m.elements .body)⟩], none) := by
  obtain ⟨-, hrecorded, -⟩ := parts_of_encode hok
  obtain ⟨hspells, -, -, -, hpacket⟩ := spells_of_encode hok
  have hmessage : e.message = m := by
    rw [← hrecorded, parts_of_unsuited hcode]
    rfl
  rw [hmessage] at hspells hpacket
  have hvalidation : (ofMessage m).validation = none := by
    rw [ofMessage, int?_of_suiteCode_none hcode]
    rfl
  have hcontent : (ofMessage m).content =
      Tlv.concat [⟨m.kind.elementType, Tlv.concat (m.elements .body)⟩] := by
    rw [content, hvalidation]
    rfl
  obtain ⟨hfits, -⟩ := List.forall_mem_cons.mp (fits_content hpacket)
  refine ⟨hmessage, ?_, ?_⟩
  · rw [hspells.signed, hspells.hashed, signed, hashed, hcontent, hvalidation, Tlv.concat_cons,
      Tlv.concat_nil, List.append_nil, Tlv.length_toBytes]
    rfl
  · rw [hspells.wire, hspells.signed]
    show Tlv.scan ((ofMessage m).toBytes.drop (ofMessage m).headerLength) = _
    rw [drop_headers, hcontent]
    exact Tlv.scan_concat (List.forall_mem_singleton.mpr hfits)

/-- A signer to which no suite applies has no influence: the message is written as the same packet
as without a signer, or fails with the same fault, at whatever times, and it is left as it was. What
is written has the message behind the headers and nothing else. So a message that has a signature
fails for lack of an algorithm, unless headers or message cannot be written. -/
theorem encodeInPlace_unsuited {m : Message} {s : Signer} (hnone : m.int? .cryptoSuite = none)
    (hpair : m.kind ≠ .contentObject ∨ ∀ suite, (s.hash, s.algorithm, suite) ∉ suiteTable)
    (config : Config) (now now' : UInt64) :
    encodeInPlace m (some s) config now = encodeInPlace m none config now' ∧
      (encodeInPlace m (some s) config now).2 = m ∧
      (∀ e, (encodeInPlace m (some s) config now).1 = .ok e →
        e.signed = e.hashed ∧ Tlv.scan (e.wire.toBytes.drop e.signed.start) =
          ([⟨m.kind.elementType, Tlv.concat (m.elements .body)⟩], none)) ∧
      (m.contains .signature = true → (encodeInPlace m (some s) config now).1 =
        (m.emitZone .hop).result >>= fun _ => (emitMessage m).result >>= fun _ =>
          .error .signatureWithoutAlgorithm) := by
  have hcode := Validation.suiteCode?_of_not_applies (Validation.not_applies_iff.mpr ⟨hnone, hpair⟩)
  have hparts := parts_of_unsuited hcode config now
  refine ⟨encodeInPlace_congr ?_, ?_, ?_, ?_⟩
  · rw [hparts, parts_of_unsuited (Validation.suiteCode?_unsigned hnone)]
  · cases hok : encode m (some s) config now with
    | error fault => rw [encodeInPlace_of_fault hok]
    | ok e =>
      rw [encodeInPlace_of_encode hok]
      exact (scan_of_unsuited hcode hok).1
  · intro e he
    rw [fst_encodeInPlace] at he
    exact (scan_of_unsuited hcode he).2
  · intro hsignature
    rw [fst_encodeInPlace, encode, hparts, Parts.result_unsuited hsignature]
    cases (m.emitZone .hop).result with
    | error fault => rfl
    | ok n => cases (emitMessage m).result <;> rfl

/-! The sample and a signer with another digest, without a signature and with one. -/

namespace Sample

/-- A signer with the key of `frontSigner`, and a digest for which there is no suite. -/
def otherSigner : Signer := { frontSigner with hash := .sha512 }

theorem not_mem_suiteTable (suite : CryptoSuite) :
    (otherSigner.hash, otherSigner.algorithm, suite) ∉ suiteTable := by
  cases suite <;> decide

end Sample

theorem encodeInPlace_unsuited_sample :
    Sample.message.int? .cryptoSuite = none ∧
      (∀ suite, (Sample.otherSigner.hash, Sample.otherSigner.algorithm, suite) ∉ suiteTable) ∧
      (∃ e, encodeInPlace Sample.message (some Sample.otherSigner) {} 7 = (.ok e, Sample.message) ∧
        encodeInPlace Sample.message none {} 9 = (.ok e, Sample.message) ∧ e.signed = e.hashed) ∧
      (encodeInPlace (Sample.message.set .signature (.bytes [1])) (some Sample.otherSigner)
          {} 7).1 =
        .error .signatureWithoutAlgorithm := by
  have hpair := Sample.not_mem_suiteTable
  obtain ⟨hsame, hleft, hscan, -⟩ :=
    encodeInPlace_unsuited (m := Sample.message) rfl (.inr hpair) {} 7 9
  obtain ⟨-, -, -, hfault⟩ := encodeInPlace_unsuited
    (m := Sample.message.set .signature (.bytes [1])) rfl (.inr hpair) {} 7 9
  obtain ⟨e, hok⟩ : ∃ e, encode Sample.message (some Sample.otherSigner) {} 7 = .ok e := ⟨_, rfl⟩
  have hwritten : encodeInPlace Sample.message (some Sample.otherSigner) {} 7 =
      (.ok e, Sample.message) := Prod.ext ((fst_encodeInPlace ..).trans hok) hleft
  refine ⟨rfl, hpair, ⟨e, hwritten, hsame.symm.trans hwritten, ?_⟩, hfault rfl⟩
  exact (hscan e (congrArg Prod.fst hwritten)).1

end Packet

end NamedContent
