import NamedContent.Proofs.Canonical
import NamedContent.Proofs.Ranges

/-!
# Signatures

What is signed when a packet is written is what is checked when it has been read. A reader finds the
range of the signed bytes by itself (`decode_of_bounded`), and in the packet as it stands this range
has the bytes that the signer was given (`sign_of_encode`).

* `fields_of_decode`: a field is read as it was written, whoever signed the packet.
* `verify_encoded`: the signature of a packet is accepted by every verifier that accepts the
  signatures of its signer, whether the packet has just been written or was read.
-/

namespace NamedContent

/-! ## Ranges of a layout -/

namespace Layout

variable {p : Layout}

/-- The bytes that a signature covers: message and validation algorithm. -/
def signedBytes (p : Layout) : Bytes :=
  Tlv.concat (p.messageElement :: (p.validation.map Validation.algorithm).toList)

/-- The element of the signature, if there is one. -/
def signatureElements (p : Layout) : List Tlv :=
  ((p.validation.bind Validation.signature).map (Tlv.mk Part.signatureType)).toList

theorem content_eq (p : Layout) : p.content = p.signedBytes ++ Tlv.concat p.signatureElements := by
  rw [content, validationElements_eq, ← List.cons_append, Tlv.concat_append]
  rfl

theorem length_signedBytes (p : Layout) : p.signedBytes.length = p.signed.length := by
  rw [signedBytes, Tlv.concat_cons, List.length_append, Tlv.length_toBytes]
  show _ = p.messageElement.size + algorithmSize p.validation
  cases p.validation <;> simp [algorithmSize]

theorem signed_stop_le (p : Layout) : p.signed.stop ≤ p.toBytes.length := by
  show p.headerLength + p.signed.length ≤ _
  rw [length_toBytes, packetLength, content_eq, List.length_append, length_signedBytes]
  omega

theorem hashed_stop_le (p : Layout) : p.hashed.stop ≤ p.toBytes.length :=
  Nat.le_of_eq p.length_toBytes.symm

theorem slice_signed (p : Layout) :
    Bytes.slice p.signed.start p.signed.stop p.toBytes = p.signedBytes := by
  show Bytes.slice p.headerLength (p.headerLength + p.signed.length) p.toBytes = _
  rw [Bytes.slice_add, Packet.drop_headers, content_eq, List.take_left' p.length_signedBytes]

theorem slice_hashed (p : Layout) :
    Bytes.slice p.hashed.start p.hashed.stop p.toBytes = p.content := by
  show Bytes.slice p.headerLength (p.headerLength + p.content.length) p.toBytes = _
  rw [Bytes.slice_add, Packet.drop_headers, List.take_length]

/-- Behind the signed bytes there is the signature, and nothing else. -/
theorem drop_signed (p : Layout) :
    p.toBytes.drop p.signed.stop = Tlv.concat p.signatureElements := by
  show p.toBytes.drop (p.headerLength + p.signed.length) = _
  rw [← List.drop_drop, Packet.drop_headers, content_eq, List.drop_left' p.length_signedBytes]

theorem fits_signature (h : p.packetLength ≤ maxLength) : ∀ t ∈ p.signatureElements, t.Fits := by
  intro t ht
  refine (List.forall_mem_cons.mp (fits_content h)).2 t ?_
  rw [validationElements_eq]
  exact List.mem_append_right _ ht

end Layout

/-! ## Signers -/

/-- A verifier accepts every signature that a signer makes, for the bytes it was made over. -/
def Verifier.Accepts (verifier : Verifier) (signer : Signer) : Prop :=
  ∀ covered signature, signer.sign covered = .ok signature →
    verifier.verify covered signature = true

namespace Validation

variable {m : Message} {signer : Signer} {n : Nat}

/-- A crypto suite applies: the message names one, or it is a content object and the signer has
one. -/
def Applies (m : Message) (signer : Signer) : Prop :=
  (m.int? .cryptoSuite).isSome ∨ m.kind = .contentObject ∧ signer.suite?.isSome

theorem suiteCode?_ne_none (h : Applies m signer) : suiteCode? m (some signer) ≠ .ok none := by
  intro hnone
  have hint := Packet.int?_of_suiteCode_none hnone
  rcases h with hsome | ⟨hkind, hsome⟩
  · rw [hint] at hsome
    cases hsome
  · rw [suiteCode?, hint] at hnone
    simp only [hkind, if_true, Option.bind_some, Except.ok.injEq, Option.map_eq_none_iff] at hnone
    rw [hnone] at hsome
    cases hsome

/-- Where there is no signature, the one that the signer makes over the covered bytes is
recorded. -/
theorem sign_of_result {covered : Bytes} (hnone : m.bytes? .signature = none)
    (h : (signature m (some signer) (some covered)).1.result = .ok n) :
    ∃ made, signer.sign covered = .ok made ∧
      (signature m (some signer) (some covered)).2.fields .signature = some (.bytes made) := by
  rcases signature_cases h with ⟨b, hb, -⟩ | ⟨-, hnobody, -⟩ | ⟨-, s, made, hs, hmade, heq⟩
  · rw [hnone] at hb
    cases hb
  · cases hnobody
  · cases hs
    exact ⟨made, hmade, by rw [heq]; rfl⟩

end Validation

/-! ## Packets -/

namespace Packet

open Layout

namespace Parts.Spells

variable {parts : Parts} {p : Layout}

/-- The covered bytes are those of the two elements that were written. -/
theorem signedBytes (h : parts.Spells p) :
    parts.message.bytes ++ parts.algorithm.bytes = p.signedBytes := by
  rw [h.message.2, h.algorithm.2, Layout.signedBytes, Tlv.concat_cons]

theorem content (h : parts.Spells p) :
    parts.message.bytes ++ parts.algorithm.bytes ++ parts.signature.bytes = p.content := by
  rw [h.signedBytes, h.signature.2, content_eq, signatureElements]

end Parts.Spells

variable {m : Message} {signer : Signer} {config : Config} {now : UInt64} {e : Encoded}
  {d : Decoded} {p : Layout}

/-- A reader that accepts a packet whose lengths are those of a layout finds this layout. -/
theorem decode_of_bounded (hp : p.Bounded) (hok : decode p.toBytes = .ok d) :
    p.Valid ∧ d =
      { message := p.message, packet := p.toBytes, signed := p.signed, hashed := p.hashed } := by
  obtain ⟨q, hq, behind, hb, rfl⟩ := exists_layout_of_decode hok
  -- The packet announces its whole length, so that nothing stands behind it.
  have hbehind : behind = [] := by
    have hlength := announcedLength?_toBytes hp
    rw [hb, announcedLength?_of_bounded hq.bounded, ← p.length_toBytes, hb, List.length_append,
      q.length_toBytes] at hlength
    rw [← List.length_eq_zero_iff]
    have := Option.some.inj hlength
    omega
  rw [hbehind, List.append_nil] at hb
  obtain rfl := hp.eq_of_toBytes hq.bounded hb
  exact ⟨hq, rfl⟩

/-- The signer was given the signed bytes of the packet as it stands. -/
theorem sign_of_encode (hok : encode m (some signer) config now = .ok e)
    (happlies : Validation.Applies m signer) (hnone : m.bytes? .signature = none) :
    ∃ made, signer.sign (ofMessage e.message).signedBytes = .ok made ∧
      e.message.fields .signature = some (.bytes made) ∧
        (ofMessage e.message).validation.bind Layout.Validation.signature = some made := by
  obtain ⟨hresult, hmessage, hspells, -⟩ := parts_of_encode hok
  obtain ⟨-, -, ⟨n, halgorithm⟩, ⟨k, hsignature⟩⟩ := Parts.results_of_emit hresult
  have halgorithm : (Validation.algorithm m (some signer) config now).1.result = .ok n := halgorithm
  obtain ⟨hcode, -⟩ | ⟨suite, -, heq⟩ := Validation.algorithm_of_result halgorithm
  · exact absurd hcode (Validation.suiteCode?_ne_none happlies)
  -- With a suite the signature is made over the two parts that were written in front of it.
  obtain ⟨-, hof⟩ := parts_of_suite heq hresult
  rw [← hmessage] at hspells ⊢
  rw [hof] at hsignature hspells ⊢
  dsimp only at hsignature hspells ⊢
  obtain ⟨hframe, -, -⟩ := Validation.signature_some_of_result hsignature
  have hnone : Message.bytes? (Validation.withAlgorithm m suite (some signer) config now)
      .signature = none := by
    rwa [Message.bytes?, (Validation.frame_withAlgorithm ..).fields .signature (by decide)]
  obtain ⟨made, hmade, hrecorded⟩ := Validation.sign_of_result hnone hsignature
  refine ⟨made, ?_, hrecorded, ?_⟩
  · rw [← hspells.signedBytes]
    exact hmade
  · rw [validation_ofMessage hframe, Option.bind_some, Message.bytes?, hrecorded]

/-- A packet ends with a signature: it was made over the signed bytes of the packet as it stands, it
is recorded in the message, and it is the value of the last element. -/
structure Encoded.SignedBy (e : Encoded) (signer : Signer) (signature : Bytes) : Prop where
  made : signer.sign (Bytes.slice e.signed.start e.signed.stop e.wire.toBytes) = .ok signature
  recorded : e.message.fields .signature = some (.bytes signature)
  last : Tlv.next (e.wire.toBytes.drop e.signed.stop) = .ok (⟨Part.signatureType, signature⟩, [])

theorem signedBy_of_encode {signature : Bytes} (hok : encode m (some signer) config now = .ok e)
    (hmade : signer.sign (ofMessage e.message).signedBytes = .ok signature)
    (hrecorded : e.message.fields .signature = some (.bytes signature))
    (hlast : (ofMessage e.message).validation.bind Layout.Validation.signature = some signature) :
    e.SignedBy signer signature := by
  obtain ⟨hspells, -⟩ := spells_of_encode hok
  have helements : (ofMessage e.message).signatureElements = [⟨Part.signatureType, signature⟩] := by
    rw [signatureElements, hlast]
    rfl
  have hfits : Tlv.Fits ⟨Part.signatureType, signature⟩ := by
    refine fits_signature (bounded_of_encode hok).packet _ ?_
    rw [helements]
    exact List.mem_singleton_self _
  refine ⟨?_, hrecorded, ?_⟩
  · rwa [hspells.wire, hspells.signed, slice_signed]
  · rw [hspells.wire, hspells.signed, drop_signed, helements]
    exact Tlv.next_toBytes_append hfits []

/-- Who reads a packet that was written finds the layout of what was recorded, and the same
ranges. -/
theorem decoded_of_encode {signer : Option Signer} (hok : encode m signer config now = .ok e)
    (hread : decode e.wire.toBytes = .ok d) :
    (ofMessage e.message).Valid ∧ d =
      { message := (ofMessage e.message).message, packet := e.wire.toBytes, signed := e.signed,
        hashed := e.hashed } := by
  obtain ⟨hspells, -⟩ := spells_of_encode hok
  rw [hspells.signed, hspells.hashed]
  rw [hspells.wire] at hread ⊢
  exact decode_of_bounded (bounded_of_encode hok) hread

/-- The signature that is read is the one that was recorded. -/
theorem ranges_of_decode {signer : Option Signer} (hok : encode m signer config now = .ok e)
    (hread : decode e.wire.toBytes = .ok d) :
    d.packet = e.wire.toBytes ∧ d.signed = e.signed ∧ d.hashed = e.hashed ∧
      d.message.fields .signature = signatureValue? (ofMessage e.message).validation := by
  obtain ⟨-, rfl⟩ := decoded_of_encode hok hread
  exact ⟨rfl, rfl, rfl, (carries_message _).outer_of_mem (by decide)⟩

/-- The message that is read is that of the packet. -/
theorem carries_of_decode {signer : Option Signer} (hok : encode m signer config now = .ok e)
    (hread : decode e.wire.toBytes = .ok d) : (ofMessage e.message).Carries d.message := by
  obtain ⟨-, rfl⟩ := decoded_of_encode hok hread
  exact carries_message _

theorem kind_of_decode {signer : Option Signer} (hok : encode m signer config now = .ok e)
    (hread : decode e.wire.toBytes = .ok d) : d.message.kind = m.kind := by
  obtain ⟨-, hr, -⟩ := spells_of_encode hok
  exact (carries_of_decode hok hread).kind.trans hr.frame.kind

/-- Where a message names a crypto suite, the packet has the elements of the suite. -/
theorem elements_ofMessage_of_suite {zone : Zone}
    (h : zone = .suite → (m.int? .cryptoSuite).isSome) :
    (ofMessage m).elements zone = m.elements zone := by
  cases zone with
  | hop => rfl
  | body => rfl
  | suite =>
    obtain ⟨n, hn⟩ := Option.isSome_iff_exists.mp (h rfl)
    show suiteElements ((m.int? .cryptoSuite).map _) = _
    rw [hn]
    rfl

/-- A crypto suite that a message names is named by what is recorded for it. -/
theorem Recorded.isSome_cryptoSuite {signer : Option Signer} {r : Message}
    (hr : Recorded m signer r) (h : (m.int? .cryptoSuite).isSome) :
    (r.int? .cryptoSuite).isSome := by
  rw [Message.int?]
  rcases hr.cryptoSuite with hsame | ⟨suite, hsuite⟩
  · rwa [hsame]
  · rw [hsuite]
    rfl

/-- What a slot holds is read as it was written, whoever signed the packet: in the suite where the
message names one and nothing of the slot is derived from the signer. -/
theorem fields_of_decode_kept {signer : Option Signer} {zone : Zone} {slot : Slot}
    (hs : slot ∈ slots m.kind zone) (hkept : ∀ f ∈ slot.fields, f ∉ Validation.derivedFields)
    (hsuite : zone = .suite → (m.int? .cryptoSuite).isSome) (hshaped : slot.Shaped m)
    (hextras : ∀ t ∈ m.extras zone, t.type ∉ knownTypes m.kind zone)
    (hok : encode m signer config now = .ok e) (hread : decode e.wire.toBytes = .ok d) :
    ∀ f ∈ slot.fields, d.message.fields f = m.fields f := by
  intro f hf
  obtain ⟨-, hr, -, -, hpacket⟩ := spells_of_encode hok
  obtain ⟨hkind, hfields, hextrasOf⟩ := hr.frame
  have hsame : ∀ f ∈ slot.fields, e.message.fields f = m.fields f := fun f hf =>
    hfields f (hkept f hf)
  have hs' : slot ∈ slots e.message.kind zone := hkind ▸ hs
  have helements : (ofMessage e.message).elements zone = e.message.elements zone :=
    elements_ofMessage_of_suite fun hzone => hr.isSome_cryptoSuite (hsuite hzone)
  have hreads := (carries_of_decode hok hread).slots zone slot hs'
  rw [helements, Message.valueOf?_elements (by rwa [hkind, hextrasOf]) hs'] at hreads
  -- The element of the slot is one of the packet, and so it is short enough to be read back.
  have hfits : ∀ t ∈ slot.element? e.message, t.Fits := fun t ht => by
    refine fits_elements hpacket zone t ?_
    rw [helements]
    exact List.mem_append_left _ (List.mem_filterMap.mpr ⟨slot, hs', ht⟩)
  have hproper := proper_of_mem hs
  obtain ⟨-, hwritten⟩ := (hshaped.congr hproper hsame).reads hproper hfits
  rw [hreads f hf, ← hwritten f hf, hsame f hf]

/-- Nothing is derived from the signer outside of the suite. -/
theorem fields_of_decode {signer : Option Signer} {zone : Zone} {slot : Slot}
    (hs : slot ∈ slots m.kind zone) (hzone : zone ≠ .suite) (hshaped : slot.Shaped m)
    (hextras : ∀ t ∈ m.extras zone, t.type ∉ knownTypes m.kind zone)
    (hok : encode m signer config now = .ok e) (hread : decode e.wire.toBytes = .ok d) :
    ∀ f ∈ slot.fields, d.message.fields f = m.fields f :=
  fields_of_decode_kept hs (fun _ hf => not_mem_derivedFields hs hf hzone)
    (fun hsuite => absurd hsuite hzone) hshaped hextras hok hread

/-- What is signed and what is hashed of the packet of a message, as it is written and as it is
read. -/
theorem covers_of_encode {signer : Option Signer} (hok : encode m signer config now = .ok e) :
    (WireMessage.ofEncoded e).Covers (ofMessage e.message).signedBytes
        (ofMessage e.message).content ∧
      ∀ d, decode e.wire.toBytes = .ok d → (WireMessage.ofDecoded d).Covers
        (ofMessage e.message).signedBytes (ofMessage e.message).content := by
  obtain ⟨hspells, -⟩ := spells_of_encode hok
  rw [← slice_signed, ← slice_hashed, ← hspells.wire, ← hspells.signed, ← hspells.hashed]
  have hsigned : e.signed.stop ≤ e.wire.toBytes.length := by
    rw [hspells.signed, hspells.wire]
    exact signed_stop_le _
  have hhashed : e.hashed.stop ≤ e.wire.toBytes.length := by
    rw [hspells.hashed, hspells.wire]
    exact hashed_stop_le _
  have hform : (WireMessage.ofEncoded e).form = some (.scatter e.wire) := rfl
  refine ⟨WireMessage.covers_of_form hform rfl hsigned rfl hhashed, fun d hread => ?_⟩
  obtain ⟨hpacket, hsignedRegion, hhashedRegion, -⟩ := ranges_of_decode hok hread
  rw [← hpacket, ← hsignedRegion] at hsigned
  rw [← hpacket, ← hhashedRegion] at hhashed
  have hform : (WireMessage.ofDecoded d).form = some (.buffer d.packet) := rfl
  rw [← hpacket, ← hsignedRegion, ← hhashedRegion]
  exact WireMessage.covers_of_form hform rfl hsigned rfl hhashed

/-- What is signed when a packet is written is what is verified when it is read. -/
theorem verify_encoded {signer : Option Signer} (hok : encode m signer config now = .ok e) :
    (∀ d, decode e.wire.toBytes = .ok d → d.signed = e.signed ∧ d.hashed = e.hashed) ∧
    ∀ s, signer = some s → Validation.Applies m s → m.bytes? .signature = none →
      ∃ signature, e.SignedBy s signature ∧
        (∀ d, decode e.wire.toBytes = .ok d →
          d.message.fields .signature = some (.bytes signature)) ∧
        ∀ verifier : Verifier, verifier.Accepts s →
          (∀ w : WireMessage, w.message = m → ∃ fresh, w.encode signer config now = .ok fresh ∧
            fresh.verify verifier = .ok true) ∧
          ∀ w : WireMessage, WireMessage.decode e.wire.toBytes = .ok w →
            w.verify verifier = .ok true := by
  obtain ⟨hfresh, hreceived⟩ := covers_of_encode hok
  refine ⟨fun d hread => ?_, ?_⟩
  · obtain ⟨-, hsigned, hhashed, -⟩ := ranges_of_decode hok hread
    exact ⟨hsigned, hhashed⟩
  rintro s rfl happlies hnone
  obtain ⟨signature, hmade, hrecorded, hlast⟩ := sign_of_encode hok happlies hnone
  have hread : ∀ d, decode e.wire.toBytes = .ok d →
      d.message.fields .signature = some (.bytes signature) := fun d hd => by
    obtain ⟨-, -, -, hsignature⟩ := ranges_of_decode hok hd
    rw [hsignature, signatureValue?, hlast]
    rfl
  refine ⟨signature, signedBy_of_encode hok hmade hrecorded hlast, hread,
    fun verifier haccepts => ?_⟩
  have haccepted := haccepts _ _ hmade
  refine ⟨fun w hw => ?_, fun w hw => ?_⟩
  · refine ⟨_, WireMessage.encode_eq_ofEncoded (hw ▸ hok), ?_⟩
    rw [hfresh.verify_of_signature hrecorded, haccepted]
  · obtain ⟨d, hd, rfl⟩ := WireMessage.exists_decoded hw
    rw [(hreceived d hd).verify_of_signature (hread d hd), haccepted]

/-! The sample with a verifier that compares the signature with the first two of the signed
bytes. -/

namespace Sample

/-- The verifier of the signatures of `frontSigner`. -/
def frontVerifier : Verifier where
  verify covered signature := signature == covered.take 2

theorem accepts_frontVerifier : frontVerifier.Accepts frontSigner := by
  intro covered signature h
  cases h
  exact beq_self_eq_true _

end Sample

theorem verify_encoded_sample :
    Validation.Applies Sample.message Sample.frontSigner ∧
      Sample.frontVerifier.Accepts Sample.frontSigner ∧
      ∃ e d, encode Sample.message (some Sample.frontSigner) {} 7 = .ok e ∧
        WireMessage.decode e.wire.toBytes = .ok d ∧ d.signed = some e.signed ∧
          d.hashed = some e.hashed ∧ e.SignedBy Sample.frontSigner [0x00, 0x02] ∧
            (WireMessage.ofEncoded e).verify Sample.frontVerifier = .ok true ∧
              d.verify Sample.frontVerifier = .ok true := by
  obtain ⟨e, hok, hrecorded⟩ : ∃ e, encode Sample.message (some Sample.frontSigner) {} 7 = .ok e ∧
      e.message.fields .signature = some (.bytes [0x00, 0x02]) := ⟨_, rfl, rfl⟩
  -- The message is well formed, so that its packet can be read.
  obtain ⟨d, hread⟩ : ∃ d, decode e.wire.toBytes = .ok d := by
    obtain ⟨hspells, hr, hbody, hheaders, hpacket⟩ := spells_of_encode hok
    have hvalid := valid_ofMessage (hr.shaped Sample.wellFormed_message.toShaped)
      (hr.settled Sample.wellFormed_message) hbody hheaders hpacket
    have hread := decode_toBytes_append hvalid []
    rw [List.append_nil, ← hspells.wire] at hread
    exact ⟨_, hread⟩
  have happlies : Validation.Applies Sample.message Sample.frontSigner := .inr ⟨rfl, rfl⟩
  have hdecoded : WireMessage.decode e.wire.toBytes = .ok (.ofDecoded d) := by
    rw [WireMessage.decode, hread]
    rfl
  obtain ⟨hranges, hsigned⟩ := verify_encoded hok
  obtain ⟨signature, hby, -, hverify⟩ := hsigned _ rfl happlies rfl
  obtain ⟨hfresh, hdecode⟩ := hverify _ Sample.accepts_frontVerifier
  obtain ⟨fresh, hencoded, hfresh⟩ := hfresh (.create Sample.message) rfl
  obtain rfl := Except.ok.inj ((WireMessage.encode_eq_ofEncoded hok).symm.trans hencoded)
  obtain rfl : signature = [0x00, 0x02] := by
    have := hby.recorded.symm.trans hrecorded
    simpa using this
  obtain ⟨hregion, hhashed⟩ := hranges d hread
  exact ⟨happlies, Sample.accepts_frontVerifier, e, _, hok, hdecoded, congrArg some hregion,
    congrArg some hhashed, hby, hfresh, hdecode _ hdecoded⟩

end Packet

end NamedContent
