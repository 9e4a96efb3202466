import NamedContent.Proofs.Decoding
import NamedContent.Proofs.Encoding

/-!
# Messages there and back

A well-formed message (`Message.WellFormed`) is one that a packet could have told.

* `Carries.shaped`: what was read has the shape that is asked of messages.
* `decode_encoded`: what is written for a well-formed message reads back as it was recorded, with
  the header it was written with.
-/

namespace NamedContent

/-! ## Messages as they are read -/

/-- Each field holds what reading a packet of this kind could have put there. -/
structure Message.Shaped (m : Message) : Prop where
  slots : ∀ zone, ∀ slot ∈ slots m.kind zone, slot.Shaped m
  hopLimit : ∀ v, m.fields .hopLimit = some v →
    m.kind.isRequest = true ∧ ∃ n : UInt64, n.toNat ≤ 255 ∧ v = .int n
  returnCode : ∀ v, m.fields .returnCode = some v →
    m.kind = .interestReturn ∧ ∃ n : UInt64, n.toNat ≤ 255 ∧ v = .int n
  cryptoSuite : ∀ v, m.fields .cryptoSuite = some v → ∃ n : UInt64, n.toNat ≤ 65535 ∧ v = .int n
  signature : ∀ v, m.fields .signature = some v → ∃ b, v = .bytes b
  others : ∀ f, f ∉ outerFields → (∀ zone, ∀ slot ∈ NamedContent.slots m.kind zone,
    f ∉ slot.fields) → m.fields f = none
  extras : ∀ zone, ∀ t ∈ m.extras zone, t.type ∉ knownTypes m.kind zone

/-- A message as it comes back from its packet: with the header of the packet, and where the header
has a place for it, with a hop limit and a return code. -/
def Message.received (m : Message) (packet : Bytes) : Message :=
  { m with
    fields := fun f =>
      match f with
      | .fixedHeader => some (.bytes (packet.take fixedHeaderLength))
      | .hopLimit =>
        if m.kind.isRequest then (m.fields .hopLimit).or (some (.int 0)) else m.fields .hopLimit
      | .returnCode =>
        if m.kind = .interestReturn then (m.fields .returnCode).or (some (.int 0))
        else m.fields .returnCode
      | f => m.fields f }

theorem Message.frame_received (m : Message) (packet : Bytes) :
    Message.Frame [.fixedHeader, .hopLimit, .returnCode] m (m.received packet) := by
  refine ⟨rfl, fun f hf => ?_, fun zone => by cases zone <;> rfl⟩
  cases f <;> first | rfl | exact absurd (by decide) hf

/-- Without a suite there is nothing that would have to be written in one. -/
def Message.Settled (m : Message) : Prop :=
  m.fields .cryptoSuite = none → m.elements .suite = [] ∧ m.fields .signature = none

namespace Layout

variable {m : Message}

/-- A number below 256 survives the way through a byte of the header, and none becomes zero. -/
theorem clampedByte_eq {f : Field}
    (h : ∀ v, m.fields f = some v → ∃ n : UInt64, n.toNat ≤ 255 ∧ v = .int n) :
    (m.fields f).or (some (.int 0)) = some (.int (Header.clampedByte m f).toUInt64) := by
  cases hv : m.fields f with
  | none =>
    have hint : m.int? f = none := by rw [Message.int?, hv]
    rw [Header.clampedByte, hint]
    rfl
  | some v =>
    obtain ⟨n, hn, rfl⟩ := h v hv
    have hint : m.int? f = some n := by rw [Message.int?, hv]
    have hbyte : (UInt8.ofNat (min n.toNat 255)).toUInt64 = n := by
      apply UInt64.toNat_inj.mp
      rw [UInt8.toNat_toUInt64, UInt8.toNat_ofNat']
      omega
    rw [Header.clampedByte, hint]
    simp only [hbyte, Option.some_or]

theorem take_toBytes (p : Layout) : p.toBytes.take fixedHeaderLength = p.header.toBytes := by
  rw [toBytes, List.append_assoc, List.take_left' (length_toBytes_header _)]

theorem int?_cryptoSuite (hm : m.Shaped) :
    (m.int? .cryptoSuite).map Value.int = m.fields .cryptoSuite := by
  cases hv : m.fields .cryptoSuite with
  | none => rw [Message.int?, hv]; rfl
  | some v =>
    obtain ⟨n, -, rfl⟩ := hm.cryptoSuite v hv
    rw [Message.int?, hv]
    rfl

theorem elements_ofMessage (hm : m.Shaped) (hsettled : m.Settled) (zone : Zone) :
    (ofMessage m).elements zone = m.elements zone := by
  cases zone with
  | hop => rfl
  | body => rfl
  | suite =>
    show suiteElements ((m.int? .cryptoSuite).map _) = _
    have hsuite := int?_cryptoSuite hm
    cases hn : m.int? .cryptoSuite with
    | some n => rfl
    | none =>
      rw [hn] at hsuite
      exact (hsettled hsuite.symm).1.symm

/-- What a shaped message is written as is a packet, if it is not too long. -/
theorem valid_ofMessage (hm : m.Shaped) (hsettled : m.Settled) (hbody : m.Writable .body)
    (hheaders : (ofMessage m).headerLength ≤ 255)
    (hpacket : (ofMessage m).packetLength ≤ maxLength) :
    (ofMessage m).Valid := by
  refine ⟨hheaders, hpacket, fun zone => ?_, fun hkind => ?_⟩
  · have hfits := fits_elements hpacket zone
    rw [elements_ofMessage hm hsettled zone] at hfits ⊢
    exact Message.accepts_elements (hm.extras zone) (hm.slots zone) hfits
  -- A required name could be written, so there is one, and it has an element.
  · have hs : ⟨.name, 0x0000, .name true⟩ ∈ slots m.kind .body := by
      have table : ∀ kind : MessageKind, kind ≠ .control →
          ⟨.name, 0x0000, .name true⟩ ∈ slots kind .body := by
        intro kind
        cases kind <;> decide
      exact table m.kind hkind
    obtain ⟨n, hn⟩ := (hbody _ hs).name rfl
    have hcontent : Slot.content? ⟨.name, 0x0000, .name true⟩ m = some n.wire := by
      rw [Slot.content?, if_neg (by decide)]
      show (m.fields .name).bind _ = _
      rw [hn]
      rfl
    refine ⟨⟨0x0000, n.wire⟩, List.mem_append_left _ (List.mem_filterMap.mpr ⟨_, hs, ?_⟩), rfl⟩
    rw [Slot.element?, hcontent]
    rfl

/-- Outside of the zones the message comes back as its packet tells. -/
theorem outer_received (hm : m.Shaped) (hsettled : m.Settled) {f : Field}
    (hf : ∀ zone, ∀ slot ∈ slots m.kind zone, f ∉ slot.fields) :
    (m.received (ofMessage m).toBytes).fields f = (ofMessage m).outer f := by
  by_cases hout : f ∈ outerFields
  · have hsuite := int?_cryptoSuite hm
    simp only [outerFields, List.mem_cons, List.not_mem_nil, or_false] at hout
    rcases hout with rfl | rfl | rfl | rfl | rfl
    · exact congrArg (fun b => some (Value.bytes b)) (take_toBytes (ofMessage m))
    -- A missing number is written as zero and read as such.
    · show (if m.kind.isRequest then (m.fields .hopLimit).or (some (.int 0))
          else m.fields .hopLimit) =
        if m.kind.isRequest then some (.int (ofMessage m).hopLimit.toUInt64) else none
      by_cases hkind : m.kind.isRequest = true
      · rw [if_pos hkind, if_pos hkind, clampedByte_eq fun v hv => (hm.hopLimit v hv).2]
        simp only [ofMessage, hkind, if_true]
      · rw [if_neg hkind, if_neg hkind]
        exact Option.eq_none_iff_forall_ne_some.mpr fun v hv => hkind (hm.hopLimit v hv).1
    · show (if m.kind = .interestReturn then (m.fields .returnCode).or (some (.int 0))
          else m.fields .returnCode) =
        if m.kind = .interestReturn then some (.int (ofMessage m).returnCode.toUInt64) else none
      by_cases hkind : m.kind = .interestReturn
      · rw [if_pos hkind, if_pos hkind, clampedByte_eq fun v hv => (hm.returnCode v hv).2]
        simp only [ofMessage, hkind, if_true]
      · rw [if_neg hkind, if_neg hkind]
        exact Option.eq_none_iff_forall_ne_some.mpr fun v hv => hkind (hm.returnCode v hv).1
    · show m.fields .cryptoSuite = suiteValue? ((m.int? .cryptoSuite).map _)
      rw [← hsuite]
      cases hn : m.int? .cryptoSuite with
      | none => rfl
      | some n =>
        rw [hn] at hsuite
        obtain ⟨k, hk, heq⟩ := hm.cryptoSuite _ hsuite.symm
        cases heq
        exact congrArg (fun k => some (Value.int k)) (Packet.toUInt64_toUInt16 hk).symm
    · show m.fields .signature = signatureValue? ((m.int? .cryptoSuite).map _)
      rw [← Slot.map_bytes? hm.signature]
      cases hn : m.int? .cryptoSuite with
      | some n => rfl
      | none =>
        rw [hn] at hsuite
        rw [Message.bytes?, (hsettled hsuite.symm).2]
        rfl
  · have hsub : [Field.fixedHeader, .hopLimit, .returnCode] ⊆ outerFields := by decide
    rw [(m.frame_received _).fields f fun hmem => hout (hsub hmem), hm.others f hout hf]
    cases f <;> first | rfl | exact absurd (by decide) hout

/-- The packet that a shaped message is written as stands for the message as it comes back. -/
theorem carries_received (hm : m.Shaped) (hsettled : m.Settled)
    (hpacket : (ofMessage m).packetLength ≤ maxLength) :
    (ofMessage m).Carries (m.received (ofMessage m).toBytes) := by
  have hframe := m.frame_received (ofMessage m).toBytes
  have helements := elements_ofMessage hm hsettled
  constructor
  · rfl
  · intro zone slot hs f hf
    have hfits : ∀ t ∈ slot.element? m, t.Fits := fun t ht => by
      refine fits_elements hpacket zone t ?_
      rw [helements zone]
      exact List.mem_append_left _ (List.mem_filterMap.mpr ⟨slot, hs, ht⟩)
    have hout : f ∉ [Field.fixedHeader, .hopLimit, .returnCode] :=
      not_mem_of_outer hs (by decide) f hf
    rw [hframe.fields f hout, helements zone, Message.valueOf?_elements (hm.extras zone) hs]
    exact ((hm.slots zone slot hs).reads (proper_of_mem hs) hfits).2 f hf
  · intro f hf
    exact outer_received hm hsettled hf
  · intro zone
    rw [hframe.extras, helements zone]
    exact (Message.unknown_elements (hm.extras zone)).symm

theorem toNat_byte_le (x : UInt8) : x.toUInt64.toNat ≤ 255 := by
  have := x.toNat_lt
  rw [UInt8.toNat_toUInt64]
  omega

/-- What was read has the shape that is asked of messages, if a key name points to something. -/
theorem Carries.shaped {p : Layout} (h : p.Carries m) (hp : p.Valid)
    (hlink : ∀ link, m.keyLink? = some link → link.isEmpty = false) : m.Shaped := by
  have houter : ∀ {f v}, f ∈ outerFields → m.fields f = some v → p.outer f = some v := by
    intro f v hf hv
    rw [← h.outer f fun _ _ hs hmem => not_mem_outerFields hs hmem hf, hv]
  constructor
  · intro zone slot hs
    rw [h.kind] at hs
    have hreads := h.slots zone slot hs
    refine hreads.shaped (proper_of_mem hs) ((hp.accepts zone).value hs) ?_
    intro hform b hb
    refine hlink _ ?_
    rw [hreads.keyLink? (proper_of_mem hs) hform, hb]
    rfl
  · intro v hv
    have hv : (if p.kind.isRequest then some (Value.int p.hopLimit.toUInt64) else none) = some v :=
      houter (by decide) hv
    rw [h.kind]
    split at hv
    · next hkind =>
      cases hv
      exact ⟨hkind, _, toNat_byte_le p.hopLimit, rfl⟩
    · cases hv
  · intro v hv
    have hv : (if p.kind = .interestReturn then some (Value.int p.returnCode.toUInt64) else none) =
        some v := houter (by decide) hv
    rw [h.kind]
    split at hv
    · next hkind =>
      cases hv
      exact ⟨hkind, _, toNat_byte_le p.returnCode, rfl⟩
    · cases hv
  · intro v hv
    obtain ⟨w, -, rfl⟩ := Option.map_eq_some_iff.mp (houter (by decide) hv)
    exact ⟨_, Packet.toNat_toUInt64_le w.suite, rfl⟩
  · intro v hv
    obtain ⟨b, -, rfl⟩ := Option.map_eq_some_iff.mp (houter (by decide) hv)
    exact ⟨b, rfl⟩
  · intro f hout hf
    rw [h.kind] at hf
    rw [h.outer f hf]
    cases f <;> first | rfl | exact absurd (by decide) hout
  · exact h.not_mem_knownTypes

end Layout

/-! ## Well-formed messages -/

/-- A message that a packet could have told, and that has something in the suite only where a suite
applies: its own or, for a content object, that of the signer. -/
structure Message.WellFormed (m : Message) (signer : Option Signer) : Prop extends m.Shaped where
  unsigned : m.fields .cryptoSuite = none →
    (m.kind = .contentObject → signer.bind Signer.suite? = none) →
      m.Fresh .suite ∧ m.extras .suite = []

namespace Packet

variable {m r : Message} {signer : Option Signer} {config : Config} {now : UInt64} {e : Encoded}

/-- What is derived goes into two slots of the suite and into fields without a slot. -/
theorem derivedFields_slot {kind : MessageKind} {zone : Zone} {slot : Slot}
    (hs : slot ∈ slots kind zone) :
    slot = ⟨.keyId, 0x0009, .optional⟩ ∨ slot = ⟨.signatureTime, 0x000F, .time⟩ ∨
      ∀ f ∈ slot.fields, f ∉ Validation.derivedFields := by
  have table : ∀ s ∈ slots kind zone, s = ⟨.keyId, 0x0009, .optional⟩ ∨
      s = ⟨.signatureTime, 0x000F, .time⟩ ∨ ∀ f ∈ s.fields, f ∉ Validation.derivedFields := by
    cases kind <;> cases zone <;> decide
  exact table slot hs

theorem derivedFields_outer (kind : MessageKind) {f : Field} (hf : f ∈ Validation.derivedFields) :
    f ∈ outerFields ∨ ∃ slot ∈ slots kind .suite, f ∈ slot.fields := by
  have table : ∀ f ∈ Validation.derivedFields,
      f ∈ outerFields ∨ ∃ slot ∈ suiteSlots, f ∈ slot.fields := by decide
  exact table f hf

/-- A recorded message has the shape that the message had. -/
theorem Recorded.shaped (hr : Recorded m signer r) (hm : m.Shaped) : r.Shaped := by
  have hkept : ∀ f, f ∉ Validation.derivedFields → r.fields f = m.fields f := hr.frame.fields
  constructor
  · intro zone slot hs
    rw [hr.frame.kind] at hs
    have hslot := hm.slots zone slot hs
    -- Two slots may hold what was derived; the others hold what they held.
    rcases derivedFields_slot hs with rfl | rfl | hdisjoint
    · refine ⟨fun v hv => ?_, nofun, nofun⟩
      rcases hr.keyId with h | ⟨b, h⟩
      · exact hslot.shape v (h ▸ hv)
      · rw [h] at hv
        cases hv
        trivial
    · refine ⟨fun v hv => ?_, nofun, nofun⟩
      rcases hr.signatureTime with h | ⟨n, h⟩
      · exact hslot.shape v (h ▸ hv)
      · rw [h] at hv
        cases hv
        trivial
    · exact hslot.congr (proper_of_mem hs) fun f hf => hkept f (hdisjoint f hf)
  · rw [hkept _ (by decide), hr.frame.kind]
    exact hm.hopLimit
  · rw [hkept _ (by decide), hr.frame.kind]
    exact hm.returnCode
  · rcases hr.cryptoSuite with h | ⟨suite, h⟩
    · rw [h]
      exact hm.cryptoSuite
    · rintro v hv
      rw [h] at hv
      cases hv
      exact ⟨_, toNat_toUInt64_le suite, rfl⟩
  · rcases hr.signature with h | ⟨b, h⟩
    · rw [h]
      exact hm.signature
    · rintro v hv
      rw [h] at hv
      cases hv
      exact ⟨b, rfl⟩
  · intro f hout hf
    rw [hr.frame.kind] at hf
    rw [hkept f, hm.others f hout hf]
    intro hderived
    rcases derivedFields_outer m.kind hderived with hmem | ⟨slot, hs, hmem⟩
    · exact hout hmem
    · exact hf .suite slot hs hmem
  · intro zone
    rw [hr.frame.kind, hr.frame.extras]
    exact hm.extras zone

theorem Recorded.settled (hr : Recorded m signer r) (hm : m.WellFormed signer) : r.Settled := by
  intro hnone
  have hint : r.int? .cryptoSuite = none := by rw [Message.int?, hnone]
  obtain ⟨hcode, hsignature, rfl⟩ := hr.unsigned hint
  have hsigner : r.kind = .contentObject → signer.bind Signer.suite? = none := by
    intro hkind
    rw [Validation.suiteCode?, hint] at hcode
    simpa [hkind] using hcode
  obtain ⟨hfresh, hextras⟩ := hm.unsigned hnone hsigner
  exact ⟨Message.elements_eq_nil hfresh hextras, hsignature⟩

/-- What is written for a well-formed message is a packet. -/
theorem valid_of_encode (hm : m.WellFormed signer) (hok : encode m signer config now = .ok e) :
    (Layout.ofMessage e.message).Valid := by
  obtain ⟨-, hr, hbody, hheaders, hpacket⟩ := spells_of_encode hok
  exact Layout.valid_ofMessage (hr.shaped hm.toShaped) (hr.settled hm) hbody hheaders hpacket

/-- What is written for a well-formed message is read back as the message that was recorded, with
the header it was written with. -/
theorem decode_encoded (hm : m.WellFormed signer) (hok : encode m signer config now = .ok e) :
    decode e.wire.toBytes = .ok
      { message := e.message.received e.wire.toBytes, packet := e.wire.toBytes, signed := e.signed,
        hashed := e.hashed } := by
  obtain ⟨hspells, hr, -, -, hpacket⟩ := spells_of_encode hok
  have hread := decode_toBytes_append (valid_of_encode hm hok) []
  rw [List.append_nil, ← hspells.wire, ← hspells.signed, ← hspells.hashed] at hread
  have hcarries := Layout.carries_received (hr.shaped hm.toShaped) (hr.settled hm) hpacket
  rw [hread, hspells.wire, hcarries.eq (Layout.carries_message _)]

/-! A content object with a signer that signs with the first two of the covered bytes. -/

namespace Sample

/-- A name, two bytes of payload and an expiry time. -/
def message : Message :=
  (((Message.empty .contentObject).set .name (.name ⟨[Segment.ofType .name [0x61]]⟩)).set
    .payload (.bytes [0x68, 0x69])).set .expiryTime (.int 1000)

/-- A signer with a key. -/
def frontSigner : Signer where
  algorithm := .rsa
  hash := .sha256
  keyDigest := some [0x0A, 0x0B]
  sign covered := .ok (covered.take 2)

theorem fields_message {f : Field} (hf : f ∉ [Field.name, .payload, .expiryTime]) :
    message.fields f = none := by
  cases f <;> first | rfl | exact absurd (by decide) hf

theorem shape_message {zone : Zone} {slot : Slot} (hs : slot ∈ slots .contentObject zone)
    {v : Value} (hv : message.fields slot.field = some v) : slot.form.Shapes v := by
  by_cases hf : slot.field ∈ [Field.name, .payload, .expiryTime]
  · have table : ∀ s ∈ slots .contentObject zone, s.field ∈ [Field.name, .payload, .expiryTime] →
        s ∈ [⟨.name, 0x0000, .name true⟩, ⟨.payload, 0x0001, .payload false⟩,
          ⟨.expiryTime, 0x0006, .number⟩] := by
      cases zone <;> decide
    have hmem := table slot hs hf
    simp only [List.mem_cons, List.not_mem_nil, or_false] at hmem
    rcases hmem with rfl | rfl | rfl
    · cases hv
      exact fun s hs => by rw [List.mem_singleton.mp hs]; rfl
    · cases hv
      rfl
    · cases hv
      trivial
  · rw [fields_message hf] at hv
    cases hv

theorem wellFormed_message : message.WellFormed (some frontSigner) := by
  refine ⟨⟨fun zone slot hs => ⟨fun v hv => shape_message hs hv, fun _ f hf v hv => ?_, nofun⟩,
    nofun, nofun, nofun, nofun, fun f _ hf => fields_message fun hmem => ?_, fun zone t ht => ?_⟩,
    fun _ hsigner => absurd (hsigner rfl) (by decide)⟩
  · have hnot : ∀ f ∈ [Field.keyNameKeyId, .keyNameContentHash],
        f ∉ [Field.name, .payload, .expiryTime] := by decide
    rw [fields_message (hnot f hf)] at hv
    cases hv
  · have table : ∀ f ∈ [Field.name, .payload, .expiryTime],
        ∃ slot ∈ slots .contentObject .body, f ∈ slot.fields := by decide
    obtain ⟨slot, hs, hmem⟩ := table f hmem
    exact hf .body slot hs hmem
  · cases zone <;> cases ht

end Sample

theorem decode_encoded_sample :
    Sample.message.WellFormed (some Sample.frontSigner) ∧
      ∃ e, encode Sample.message (some Sample.frontSigner) {} 7 = .ok e ∧
        e.message.bytes? .signature = some [0x00, 0x02] ∧
          decode e.wire.toBytes = .ok
            { message := e.message.received e.wire.toBytes, packet := e.wire.toBytes,
              signed := e.signed, hashed := e.hashed } := by
  obtain ⟨e, hok, hsignature⟩ : ∃ e, encode Sample.message (some Sample.frontSigner) {} 7 = .ok e ∧
      e.message.bytes? .signature = some [0x00, 0x02] := ⟨_, rfl, rfl⟩
  exact ⟨Sample.wellFormed_message, e, hok, hsignature,
    decode_encoded Sample.wellFormed_message hok⟩

end Packet

end NamedContent
