import NamedContent.Proofs.HopByHop

/-!
# Writing a message again

Writing a message records in it what was derived: the suite, the identifier of the key, the time of
signing and the signature. Each of them is derived only where the message does not have it
(`Derived`). So the message with what was recorded is written as the same packet, whether or not it
is signed again, and nothing is recorded in it any more (`encodeInPlace_again`): what the signer and
the clock gave is read from the message.
-/

namespace NamedContent

/-! ## Signers -/

/-- Packets tell the same about two signers, which need not make the same signatures. -/
structure Signer.SameKey (s s' : Signer) : Prop where
  algorithm : s'.algorithm = s.algorithm
  hash : s'.hash = s.hash
  keyDigest : s'.keyDigest = s.keyDigest

/-- Who signs when a message is written again: nobody, or a signer with the same key. -/
inductive Resigned : Option Signer → Option Signer → Prop
  | nobody (signer : Option Signer) : Resigned signer none
  | sameKey {s s' : Signer} : s.SameKey s' → Resigned (some s) (some s')

namespace Resigned

variable {signer signer' : Option Signer}

/-- What the first signer does not tell is not told by the second. -/
theorem suite?_none (h : Resigned signer signer') (hnone : signer.bind Signer.suite? = none) :
    signer'.bind Signer.suite? = none := by
  cases h with
  | nobody => rfl
  | sameKey h => simpa [Signer.suite?, h.hash, h.algorithm] using hnone

theorem keyDigest_none (h : Resigned signer signer') (hnone : signer.bind Signer.keyDigest = none) :
    signer'.bind Signer.keyDigest = none := by
  cases h with
  | nobody => rfl
  | sameKey h => simpa [h.keyDigest] using hnone

theorem any_keyless (h : Resigned signer signer')
    (hkeyless : (signer.any fun s => s.algorithm != .null) = false) :
    (signer'.any fun s => s.algorithm != .null) = false := by
  cases h with
  | nobody => rfl
  | sameKey h => simpa [h.algorithm] using hkeyless

theorem of_none (h : Resigned none signer') : signer' = none := by
  cases h
  rfl

end Resigned

/-! ## What is derived -/

/-- What a message and the one recorded for it have to do with each other: nothing changes but what
is derived from the signer and the clock, and this only where the message does not have it. -/
structure Derived (m : Message) (signer : Option Signer) (now : UInt64) (r : Message) : Prop where
  frame : Message.Frame Validation.derivedFields m r
  cryptoSuite : r.fields .cryptoSuite = m.fields .cryptoSuite ∨
    m.int? .cryptoSuite = none ∧ ∃ suite, signer.bind Signer.suite? = some suite ∧
      r.fields .cryptoSuite = some (.int suite.code.toUInt64)
  keyId : r.fields .keyId = m.fields .keyId ∨
    m.fields .keyId = none ∧ ∃ digest, signer.bind Signer.keyDigest = some digest ∧
      r.fields .keyId = some (.bytes digest)
  signatureTime : r.fields .signatureTime = m.fields .signatureTime ∨
    m.fields .signatureTime = none ∧ (∃ s, signer = some s ∧ s.algorithm ≠ .null) ∧
      r.fields .signatureTime = some (.int now)
  signature : r.fields .signature = m.fields .signature ∨
    m.bytes? .signature = none ∧ ∃ s covered b, signer = some s ∧ s.sign covered = .ok b ∧
      r.fields .signature = some (.bytes b)

namespace Message

variable {m r : Message} {zone : Zone} {changed : List Field}

theorem fields_of_int {f : Field} {n : UInt64} (h : m.int? f = some n) :
    m.fields f = some (.int n) := by
  unfold Message.int? at h
  split at h
  · next heq => rw [heq, Option.some.inj h]
  · cases h

theorem Frame.emitZone (h : Frame changed m r)
    (hslots : ∀ slot ∈ slots m.kind zone, ∀ f ∈ slot.fields, f ∉ changed) :
    r.emitZone zone = m.emitZone zone := by
  rw [Message.emitZone, Message.emitZone, h.kind, h.extras zone,
    emitSlots_congr (fun slot hs => proper_of_mem hs) fun slot hs f hf =>
      h.fields f (hslots slot hs f hf)]

end Message

namespace Validation

variable {m k r : Message} {signer signer' : Option Signer} {config : Config} {now : UInt64}
  {suite : UInt16} {n : Nat}

/-! ### The suite -/

/-- The suite that applies is that of the message, or that of the signer. -/
theorem suite_of_suiteCode (h : suiteCode? m signer = .ok (some suite)) :
    m.fields .cryptoSuite = some (.int suite.toUInt64) ∨
      m.int? .cryptoSuite = none ∧ ∃ s, signer.bind Signer.suite? = some s ∧ s.code = suite := by
  unfold suiteCode? at h
  cases hint : m.int? .cryptoSuite with
  | some code =>
    rw [hint] at h
    dsimp only at h
    split at h
    · next hle =>
      cases h
      refine .inl ?_
      rw [Packet.toUInt64_toUInt16 hle, Message.fields_of_int hint]
    · cases h
  | none =>
    rw [hint] at h
    dsimp only at h
    split at h
    · obtain ⟨s, hs, hcode⟩ := Option.map_eq_some_iff.mp (Except.ok.inj h)
      exact .inr ⟨rfl, s, hs, hcode⟩
    · cases h

theorem suiteCode_none_again (hagain : Resigned signer signer')
    (h : suiteCode? m signer = .ok none) : suiteCode? m signer' = .ok none := by
  have hint := Packet.int?_of_suiteCode_none h
  unfold suiteCode? at h ⊢
  rw [hint] at h ⊢
  dsimp only at h ⊢
  split at h
  · next hkind =>
    have hsuite : signer.bind Signer.suite? = none := Option.map_eq_none_iff.mp (Except.ok.inj h)
    rw [if_pos hkind, hagain.suite?_none hsuite]
    rfl
  · next hkind => rw [if_neg hkind]

/-- A suite that was recorded applies, whoever signs. -/
theorem suiteCode_of_recorded (h : r.fields .cryptoSuite = some (.int suite.toUInt64)) :
    suiteCode? r signer = .ok (some suite) := by
  rw [suiteCode?, Message.int?, h]
  dsimp only
  rw [if_pos (Packet.toNat_toUInt64_le suite), UInt16.toUInt16_toUInt64]

/-! ### The key and the time -/

/-- Where the suite is recorded and the key as well, if there is one, both are left as they are. -/
theorem withSuite_again (hagain : Resigned signer signer')
    (hsuite : r.fields .cryptoSuite = some (.int suite.toUInt64))
    (hkey : r.fields .keyId = (withSuite m suite signer).fields .keyId) :
    withSuite r suite signer' = r := by
  unfold withSuite
  simp only [Message.set_of_fields hsuite]
  split
  · rfl
  · next hnone =>
    -- There was no key in the message, so that the first signer told none.
    have hnone : r.fields .keyId = none := by simpa [Message.contains] using hnone
    have hdigest : signer.bind Signer.keyDigest = none := by
      rw [hkey, withSuite] at hnone
      split at hnone
      · next hsome => simp [Message.contains, hnone] at hsome
      · rw [Message.fields_setIfSome, if_pos rfl, Option.or_eq_none_iff] at hnone
        exact Option.map_eq_none_iff.mp hnone.1
    rw [hagain.keyDigest_none hdigest]
    rfl

/-- Where the time of signing was recorded, or was not to be told, it is left as it is. -/
theorem withTime_again (hagain : Resigned signer signer')
    (htime : r.fields .signatureTime = (withTime k signer config now).fields .signatureTime)
    (now' : UInt64) :
    withTime r signer' config now' = r := by
  rw [withTime, if_neg]
  intro hneeds
  obtain ⟨hnone, hconfig, hsigner⟩ := needsTime_iff.mp hneeds
  rw [htime, withTime] at hnone
  split at hnone
  · cases hnone
  · next hold =>
    -- The first signer had no key, and so the second has none.
    have hkeyless : (signer.any fun s => s.algorithm != .null) = false :=
      Bool.eq_false_iff.mpr fun hkeyed => hold (needsTime_iff.mpr ⟨hnone, hconfig, hkeyed⟩)
    rw [hagain.any_keyless hkeyless] at hsigner
    cases hsigner

theorem withAlgorithm_again (hagain : Resigned signer signer')
    (hframe : Message.Frame [.signature] (withAlgorithm m suite signer config now) r)
    (now' : UInt64) :
    withSuite r suite signer' = r ∧ withTime r signer' config now' = r := by
  obtain ⟨hsuite, hkeyId, htime⟩ := fields_of_withAlgorithm hframe
  exact ⟨withSuite_again hagain hsuite hkeyId, withTime_again hagain htime now'⟩

/-- The algorithm is written as before, and nothing is recorded for it. -/
theorem algorithm_again (hagain : Resigned signer signer')
    (hframe : Message.Frame [.signature] (withAlgorithm m suite signer config now) r)
    (now' : UInt64) : algorithm r signer' config now' =
      (emitSuite (withAlgorithm m suite signer config now) suite, r) := by
  have hcode : suiteCode? r signer' = .ok (some suite) :=
    suiteCode_of_recorded (fields_of_withAlgorithm hframe).1
  obtain ⟨hsuite, htime⟩ := withAlgorithm_again hagain hframe now'
  have hzone : r.emitZone .suite = (withAlgorithm m suite signer config now).emitZone .suite :=
    hframe.emitZone fun slot hs => not_mem_of_outer hs (by decide)
  have hemit : emitSuite r suite = emitSuite (withAlgorithm m suite signer config now) suite := by
    rw [emitSuite, emitSuite, hzone]
  rw [algorithm, hcode]
  simp only [hsuite, htime, hemit]
  split <;> rfl

/-! ### The signature -/

/-- A signature that was written is in the message afterwards. Where none was, nobody signs the
second time either. -/
theorem signature_again {covered : Bytes} (hagain : Resigned signer signer')
    (h : (signature m signer (some covered)).1.result = .ok n) :
    signature (signature m signer (some covered)).2 signer' (some covered) =
      signature m signer (some covered) := by
  rcases signature_cases h with ⟨b, hb, heq⟩ | ⟨hb, rfl, heq⟩ | ⟨-, s, b, -, -, heq⟩
  · rw [heq]
    simp only [signature, hb]
  · obtain rfl := hagain.of_none
    rw [heq, heq]
  · have hbytes : (m.set .signature (.bytes b)).bytes? .signature = some b := rfl
    rw [heq]
    simp only [signature, hbytes]

end Validation

namespace Packet

variable {m r : Message} {signer signer' : Option Signer} {config : Config} {now now' : UInt64}
  {suite : UInt16} {e : Encoded}

/-! ## What is recorded -/

theorem derived_of_suite {covered : Bytes} {n : Nat}
    (hcode : Validation.suiteCode? m signer = .ok (some suite))
    (hsignature : (Validation.signature (Validation.withAlgorithm m suite signer config now) signer
      (some covered)).1.result = .ok n) :
    Derived m signer now (Validation.signature (Validation.withAlgorithm m suite signer config now)
      signer (some covered)).2 := by
  have hsuiteFrame := Validation.frame_withSuite m suite signer
  have halgorithm := Validation.frame_withAlgorithm m suite signer config now
  obtain ⟨hframe, -, -⟩ := Validation.signature_some_of_result hsignature
  obtain ⟨hsuite, hkeyId, htime⟩ := Validation.fields_of_withAlgorithm hframe
  constructor
  · exact (halgorithm.mono (by decide)).trans (hframe.mono (by decide))
  · rcases Validation.suite_of_suiteCode hcode with h | ⟨hnone, s, hs, rfl⟩
    · exact .inl (hsuite.trans h.symm)
    · exact .inr ⟨hnone, s, hs, hsuite⟩
  · rw [hkeyId]
    exact Validation.keyId_withSuite m suite signer
  · rw [htime, ← hsuiteFrame.fields .signatureTime (by decide)]
    exact Validation.signatureTime_withTime _ signer config now
  · have hsame : ∀ f ∉ [Field.cryptoSuite, .keyId, .signatureTime],
        (Validation.withAlgorithm m suite signer config now).fields f = m.fields f :=
      fun f hf => halgorithm.fields f hf
    rcases Validation.signature_cases hsignature with ⟨b, -, heq⟩ | ⟨-, -, heq⟩ |
      ⟨hnone, s, b, hs, hsign, heq⟩
    · rw [heq]
      exact .inl (hsame _ (by decide))
    · rw [heq]
      exact .inl (hsame _ (by decide))
    · rw [heq]
      refine .inr ⟨?_, s, covered, b, hs, hsign, rfl⟩
      rwa [Message.bytes?, hsame _ (by decide)] at hnone

/-- What was recorded of a message that was written. -/
theorem derived_of_result (h : (Parts.ofMessage m signer config now).emit.result = .ok ()) :
    Derived m signer now (Parts.ofMessage m signer config now).recorded := by
  obtain ⟨-, -, ⟨n, halgorithm⟩, -⟩ := Parts.results_of_emit h
  have halgorithm : (Validation.algorithm m signer config now).1.result = .ok n := halgorithm
  rcases Validation.algorithm_of_result halgorithm with ⟨hcode, heq⟩ | ⟨suite, hcode, heq⟩
  · rw [parts_of_none heq (signature_none_of_emit heq h)]
    exact ⟨.refl _ m, .inl rfl, .inl rfl, .inl rfl, .inl rfl⟩
  · obtain ⟨-, hof⟩ := parts_of_suite heq h
    obtain ⟨-, -, -, ⟨k, hsignature⟩⟩ := Parts.results_of_emit h
    rw [hof] at hsignature ⊢
    exact derived_of_suite hcode hsignature

/-! ## The second time -/

theorem emitMessage_of_frame {changed : List Field} (h : Message.Frame changed m r)
    (hslots : ∀ slot ∈ slots m.kind .body, ∀ f ∈ slot.fields, f ∉ changed) :
    emitMessage r = emitMessage m := by
  rw [emitMessage, emitMessage, h.kind, h.emitZone hslots]

/-- With a suite the message with what was recorded has the same parts. -/
theorem parts_again_of_suite (hagain : Resigned signer signer')
    (heq : Validation.algorithm m signer config now =
      (Validation.emitSuite (Validation.withAlgorithm m suite signer config now) suite,
        Validation.withAlgorithm m suite signer config now))
    (h : (Parts.ofMessage m signer config now).emit.result = .ok ()) (now' : UInt64) :
    Parts.ofMessage (Parts.ofMessage m signer config now).recorded signer' config now' =
      Parts.ofMessage m signer config now := by
  obtain ⟨hwrote, hof⟩ := parts_of_suite heq h
  obtain ⟨-, -, -, ⟨k, hsignature⟩⟩ := Parts.results_of_emit h
  have hfront := (derived_of_result h).frame
  rw [hof] at hsignature hfront ⊢
  dsimp only at hsignature hfront ⊢
  obtain ⟨hframe, -, -⟩ := Validation.signature_some_of_result hsignature
  -- What was recorded has no slot in front of the suite.
  have hzone : ∀ zone, zone ≠ .suite → ∀ slot ∈ slots m.kind zone, ∀ f ∈ slot.fields,
      f ∉ Validation.derivedFields := fun zone hne slot hs f hf => not_mem_derivedFields hs hf hne
  have hhop := hfront.emitZone (hzone .hop nofun)
  have hmessage := emitMessage_of_frame hfront (hzone .body nofun)
  have halgorithm := Validation.algorithm_again hagain hframe now'
  have hpos : ∀ t : Tlv, 0 < t.toBytes.length := fun t => List.length_pos_iff.mpr t.toBytes_ne_nil
  simp only [Parts.ofMessage, halgorithm, hwrote.1, hpos, if_true, hhop, hmessage,
    Validation.signature_again hagain hsignature]

theorem parts_again (hagain : Resigned signer signer')
    (h : (Parts.ofMessage m signer config now).emit.result = .ok ()) (now' : UInt64) :
    Parts.ofMessage (Parts.ofMessage m signer config now).recorded signer' config now' =
      Parts.ofMessage m signer config now := by
  obtain ⟨-, -, ⟨n, halgorithm⟩, -⟩ := Parts.results_of_emit h
  have halgorithm : (Validation.algorithm m signer config now).1.result = .ok n := halgorithm
  rcases Validation.algorithm_of_result halgorithm with ⟨hcode, heq⟩ | ⟨suite, -, heq⟩
  · have hnone := signature_none_of_emit heq h
    have heq' : Validation.algorithm m signer' config now' = (Emit.done 0, m) := by
      rw [Validation.algorithm, Validation.suiteCode_none_again hagain hcode]
    rw [parts_of_none heq hnone, parts_of_none heq' hnone]
  · exact parts_again_of_suite hagain heq h now'

/-- The message with what was recorded is written as the same packet. -/
theorem encode_again (hagain : Resigned signer signer') (hok : encode m signer config now = .ok e)
    (now' : UInt64) : encode e.message signer' config now' = .ok e := by
  obtain ⟨hresult, hlimit, header, hheader, rfl⟩ := encode_eq_ok_iff_parts.mp hok
  have hparts := parts_again hagain hresult now'
  refine encode_eq_ok_iff_parts.mpr ?_
  show (Parts.ofMessage (Parts.ofMessage m signer config now).recorded signer' config
    now').emit.result = .ok () ∧ _
  rw [Parts.encoded, hparts]
  exact ⟨hresult, hlimit, header, hheader, rfl⟩

/-- The copy takes the place of the message with all that was recorded. -/
theorem encodeInPlace_of_encode (hok : encode m signer config now = .ok e) :
    encodeInPlace m signer config now = (.ok e, e.message) := by
  obtain ⟨hresult, hrecorded, -⟩ := parts_of_encode hok
  obtain ⟨⟨n, hhop⟩, ⟨k, hmessage⟩, -⟩ := Parts.results_of_emit hresult
  simp only [encodeInPlace, encodeStaged, hok, Parts.staged, hhop, hmessage, hrecorded]

/-- A fault leaves the message as it was. -/
theorem encodeInPlace_of_fault {fault : EncodeError}
    (hfault : encode m signer config now = .error fault) :
    encodeInPlace m signer config now = (.error fault, m) := by
  simp only [encodeInPlace, encodeStaged, hfault]

/-- A failure leaves the message as it was. A packet that was written leaves it with what was
derived for it, and then it is written as the same packet, with the same segments and ranges, by
nobody or by a signer with the same key, at any time and with any signature that the signer would
make, and is left as it is. -/
theorem encodeInPlace_again (m : Message) (signer : Option Signer) (config : Config)
    (now : UInt64) :
    (∀ fault left, encodeInPlace m signer config now = (.error fault, left) → left = m) ∧
      ∀ e r, encodeInPlace m signer config now = (.ok e, r) →
        Derived m signer now r ∧ ∀ signer' now', Resigned signer signer' →
          encodeInPlace r signer' config now' = (.ok e, r) := by
  cases hok : encode m signer config now with
  | error fault =>
    rw [encodeInPlace_of_fault hok]
    exact ⟨fun _ _ h => (Prod.mk.inj h).2.symm, nofun⟩
  | ok e =>
    rw [encodeInPlace_of_encode hok]
    refine ⟨nofun, fun e' r h => ?_⟩
    obtain ⟨he, rfl⟩ := Prod.mk.inj h
    cases he
    obtain ⟨hresult, hrecorded, -⟩ := parts_of_encode hok
    refine ⟨hrecorded ▸ derived_of_result hresult, fun signer' now' hagain => ?_⟩
    exact encodeInPlace_of_encode (encode_again hagain hok now')

namespace Sample

/-- A signer with the key of `frontSigner` that makes other signatures. -/
def backSigner : Signer :=
  { frontSigner with sign := fun covered => .ok (covered.drop 20) }

end Sample

theorem encodeInPlace_again_sample :
    Resigned (some Sample.frontSigner) (some Sample.backSigner) ∧
      ∃ e r, encodeInPlace Sample.message (some Sample.frontSigner) {} 7 = (.ok e, r) ∧
        r.int? .signatureTime = some 7 ∧ r.bytes? .keyId = some [0x0A, 0x0B] ∧
          encodeInPlace r (some Sample.backSigner) {} 9 = (.ok e, r) ∧
            encodeInPlace r none {} 9 = (.ok e, r) := by
  obtain ⟨e, r, hok, htime, hkey⟩ : ∃ e r,
      encodeInPlace Sample.message (some Sample.frontSigner) {} 7 = (.ok e, r) ∧
        r.int? .signatureTime = some 7 ∧ r.bytes? .keyId = some [0x0A, 0x0B] :=
    ⟨_, _, rfl, rfl, rfl⟩
  have hagain : Resigned (some Sample.frontSigner) (some Sample.backSigner) :=
    .sameKey ⟨rfl, rfl, rfl⟩
  obtain ⟨-, hwritten⟩ := encodeInPlace_again Sample.message (some Sample.frontSigner) {} 7
  obtain ⟨-, hsame⟩ := hwritten e r hok
  exact ⟨hagain, e, r, hok, htime, hkey, hsame _ 9 hagain, hsame _ 9 (.nobody _)⟩

end Packet

end NamedContent
