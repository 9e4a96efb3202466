import NamedContent.Proofs.Overlooked
import NamedContent.Proofs.Signing

/-!
# What changes from hop to hop

A forwarder may change the fixed header of a packet and the headers behind it. Two messages that
differ in nothing else (`Message.Alike`) are written alike from the message to the end: each part of
the packet but the headers is written by the same emission, and what is recorded is alike again
(`Message.Alike.parts`). So what is signed and what is hashed does not depend on the headers.

* `Message.Alike.parts`: what is written for one of them is written for the other one, but for the
  headers.
* `WireMessage.Covers.agrees`: two packets that differ in their headers have the same digest, the
  same signed bytes and the same valid signatures.
-/

namespace NamedContent

namespace Message

/-- The fields that may change from hop to hop: those of the fixed header and of the headers behind
it. -/
def perHopFields : List Field :=
  [.fixedHeader, .hopLimit, .returnCode, .interestLifetime, .recommendedCacheTime,
    .interestFragment, .contentObjectFragment]

/-- Two messages differ in what may change from hop to hop at most; a request may have become a
returned one. -/
structure Alike (m r : Message) : Prop where
  kind : r.kind = m.kind ∨ m.kind.isRequest = true ∧ r.kind.isRequest = true
  fields : ∀ f, f ∉ perHopFields → r.fields f = m.fields f
  extras : ∀ zone, zone ≠ .hop → r.extras zone = m.extras zone

namespace Alike

variable {m r : Message} {zone : Zone} {signer : Option Signer} {config : Config}
  {now now' : UInt64}

/-- The kinds of two such messages make no difference but in the fixed header. -/
theorem kinds (h : m.Alike r) : r.kind.elementType = m.kind.elementType ∧
    (∀ zone, slots r.kind zone = slots m.kind zone) ∧
      (r.kind = .contentObject ↔ m.kind = .contentObject) := by
  rcases h.kind with heq | ⟨hm, hr⟩
  · rw [heq]
    exact ⟨rfl, fun _ => rfl, Iff.rfl⟩
  · revert hm hr
    generalize m.kind = kind, r.kind = kind'
    cases kind <;> cases kind' <;>
      simp [MessageKind.isRequest, MessageKind.elementType, slots, hopSlots, bodySlots]

theorem not_mem_perHopFields {kind : MessageKind} {slot : Slot} {f : Field} (hzone : zone ≠ .hop)
    (hs : slot ∈ slots kind zone) (hf : f ∈ slot.fields) : f ∉ perHopFields := by
  have table : zone ≠ .hop → ∀ s ∈ slots kind zone, ∀ f ∈ s.fields, f ∉ perHopFields := by
    cases kind <;> cases zone <;> decide
  exact table hzone slot hs f hf

theorem emitZone (h : m.Alike r) (hzone : zone ≠ .hop) : r.emitZone zone = m.emitZone zone := by
  obtain ⟨-, hslots, -⟩ := h.kinds
  rw [Message.emitZone, Message.emitZone, hslots, h.extras zone hzone,
    emitSlots_congr (fun slot hs => proper_of_mem hs) fun slot hs f hf =>
      h.fields f (not_mem_perHopFields hzone hs hf)]

theorem emitMessage (h : m.Alike r) : Packet.emitMessage r = Packet.emitMessage m := by
  obtain ⟨htype, -, -⟩ := h.kinds
  have hbody : r.emitZone .body = m.emitZone .body := h.emitZone nofun
  rw [Packet.emitMessage, Packet.emitMessage, htype, hbody]

theorem set (h : m.Alike r) (f : Field) (v : Value) : (m.set f v).Alike (r.set f v) := by
  refine ⟨h.kind, fun g hg => ?_, fun zone hzone => ?_⟩
  · rw [fields_set, fields_set, h.fields g hg]
  · have hextras : r.extras zone = m.extras zone := h.extras zone hzone
    cases zone <;> exact hextras

/-- Validation does not look at what may change from hop to hop. -/
theorem overlooked : Validation.Overlooks Alike where
  object h := h.kinds.2.2
  fields h f hf := h.fields f (by revert hf; cases f <;> decide)
  extras h := h.extras .suite nofun
  set := set

/-- All parts of the packets but the headers are written alike, whether they can be written or
not. -/
theorem parts (h : m.Alike r) (htime : Validation.needsTime m signer config = false) :
    let parts := Packet.Parts.ofMessage m signer config now
    let parts' := Packet.Parts.ofMessage r signer config now'
    parts'.message = parts.message ∧ parts'.algorithm = parts.algorithm ∧
      parts'.signature = parts.signature ∧ parts.recorded.Alike parts'.recorded := by
  have hclock : Validation.needsTime m signer config = true → now' = now := by simp [htime]
  exact ⟨h.emitMessage, overlooked.parts h (congrArg Emit.bytes h.emitMessage) hclock⟩

end Alike

end Message

/-! ## Packets -/

/-- Two messages with their packets are the same to whoever identifies or verifies them: by their
own signatures, and by any one that is given to both. -/
structure WireMessage.Agrees (w w' : WireMessage) : Prop where
  contentHash : ∃ digest, w.contentHash = .ok digest ∧ w'.contentHash = .ok digest
  verify : ∀ verifier, w'.verify verifier = w.verify verifier
  verifyWith : ∀ verifier signature,
    { w' with message := w'.message.set .signature (.bytes signature) }.verify verifier =
      { w with message := w.message.set .signature (.bytes signature) }.verify verifier

theorem WireMessage.Covers.agrees {w w' : WireMessage} {signed hashed : Bytes}
    (h : w.Covers signed hashed) (h' : w'.Covers signed hashed)
    (hsignature : w'.message.bytes? .signature = w.message.bytes? .signature) : w.Agrees w' := by
  refine ⟨⟨_, h.contentHash, h'.contentHash⟩, fun verifier => ?_, fun verifier signature => ?_⟩
  · rw [h.verify, h'.verify, hsignature]
  · rw [(h.withMessage _).verify, (h'.withMessage _).verify]
    rfl

namespace Packet

open Layout

variable {m r : Message} {signer : Option Signer} {config : Config} {now now' : UInt64}
  {e e' : Encoded}

/-- What stands behind the headers of a packet, by its fixed header. -/
def behindHeaders (w : Bytes) : Except DecodeError Bytes :=
  (Header.parse w).map fun h => w.drop h.headerLength.toNat

theorem behindHeaders_of_encode (hok : encode m signer config now = .ok e) :
    behindHeaders e.wire.toBytes = .ok (ofMessage e.message).content := by
  have hp := bounded_of_encode hok
  obtain ⟨hspells, -⟩ := spells_of_encode hok
  rw [behindHeaders, hspells.wire, parse_toBytes hp, ← drop_headers, ← hp.toNat_headerLength]
  rfl

/-- The layouts of the two packets have the same signed and hashed bytes, and the recorded messages
are alike. -/
theorem layouts_of_alike (h : m.Alike r) (htime : Validation.needsTime m signer config = false)
    (hok : encode m signer config now = .ok e) (hok' : encode r signer config now' = .ok e') :
    (ofMessage e'.message).signedBytes = (ofMessage e.message).signedBytes ∧
      (ofMessage e'.message).content = (ofMessage e.message).content ∧
        e.message.Alike e'.message := by
  obtain ⟨-, hrecorded, hspells, -⟩ := parts_of_encode hok
  obtain ⟨-, hrecorded', hspells', -⟩ := parts_of_encode hok'
  obtain ⟨hmessage, halgorithm, hsignature, halike⟩ := h.parts htime
  refine ⟨?_, ?_, hrecorded ▸ hrecorded' ▸ halike⟩
  · rw [← hspells.signedBytes, ← hspells'.signedBytes, hmessage, halgorithm]
  · rw [← hspells.content, ← hspells'.content, hmessage, halgorithm, hsignature]

theorem signatureValue?_of_alike (h : m.Alike r) :
    signatureValue? (ofMessage r).validation = signatureValue? (ofMessage m).validation := by
  have hsuite := h.fields .cryptoSuite (by decide)
  have hsignature := h.fields .signature (by decide)
  simp only [signatureValue?, ofMessage, Message.int?, Message.bytes?, hsuite, hsignature,
    Option.bind_map, Function.comp_def]

theorem agrees_of_alike (h : m.Alike r) (htime : Validation.needsTime m signer config = false)
    (hok : encode m signer config now = .ok e) (hok' : encode r signer config now' = .ok e') :
    (WireMessage.ofEncoded e).Agrees (WireMessage.ofEncoded e') := by
  obtain ⟨hsigned, hcontent, hrecorded⟩ := layouts_of_alike h htime hok hok'
  obtain ⟨hfresh, -⟩ := covers_of_encode hok
  obtain ⟨hfresh', -⟩ := covers_of_encode hok'
  rw [hsigned, hcontent] at hfresh'
  refine hfresh.agrees hfresh' ?_
  simp only [WireMessage.ofEncoded, Message.bytes?, hrecorded.fields .signature (by decide)]

theorem agrees_of_decode {d d' : Decoded} (h : m.Alike r)
    (htime : Validation.needsTime m signer config = false)
    (hok : encode m signer config now = .ok e) (hok' : encode r signer config now' = .ok e')
    (hd : decode e.wire.toBytes = .ok d) (hd' : decode e'.wire.toBytes = .ok d') :
    (WireMessage.ofDecoded d).Agrees (WireMessage.ofDecoded d') := by
  obtain ⟨hsigned, hcontent, hrecorded⟩ := layouts_of_alike h htime hok hok'
  obtain ⟨-, hread⟩ := covers_of_encode hok
  obtain ⟨-, hread'⟩ := covers_of_encode hok'
  rw [hsigned, hcontent] at hread'
  obtain ⟨-, -, -, hsignature⟩ := ranges_of_decode hok hd
  obtain ⟨-, -, -, hsignature'⟩ := ranges_of_decode hok' hd'
  refine (hread d hd).agrees (hread' d' hd') ?_
  simp only [WireMessage.ofDecoded, Message.bytes?, hsignature, hsignature',
    signatureValue?_of_alike hrecorded]

/-- Two packets of messages that differ in what changes from hop to hop are the same from the
message to the end, unless the time of signing is to be told, which the clock of the run would
decide. So they have the same digest, and what is signed of one is signed of the other, whether the
packets have just been written or were read. -/
theorem encode_alike (h : m.Alike r) (htime : Validation.needsTime m signer config = false)
    (hok : encode m signer config now = .ok e) (hok' : encode r signer config now' = .ok e') :
    (∃ behind message rest, behindHeaders e.wire.toBytes = .ok behind ∧
      behindHeaders e'.wire.toBytes = .ok behind ∧ Tlv.next behind = .ok (message, rest) ∧
        message.type = m.kind.elementType) ∧
    Bytes.slice e'.signed.start e'.signed.stop e'.wire.toBytes =
      Bytes.slice e.signed.start e.signed.stop e.wire.toBytes ∧
    (WireMessage.ofEncoded e).Agrees (WireMessage.ofEncoded e') ∧
    ∀ d d', decode e.wire.toBytes = .ok d → decode e'.wire.toBytes = .ok d' →
      (WireMessage.ofDecoded d).Agrees (WireMessage.ofDecoded d') := by
  obtain ⟨hsigned, hcontent, -⟩ := layouts_of_alike h htime hok hok'
  obtain ⟨hspells, hr, -⟩ := spells_of_encode hok
  obtain ⟨hspells', -⟩ := spells_of_encode hok'
  refine ⟨?_, ?_, agrees_of_alike h htime hok hok',
    fun _ _ => agrees_of_decode h htime hok hok'⟩
  · obtain ⟨hmessage, -⟩ := List.forall_mem_cons.mp (fits_content (bounded_of_encode hok).packet)
    have hbehind' := behindHeaders_of_encode hok'
    rw [hcontent] at hbehind'
    exact ⟨_, _, _, behindHeaders_of_encode hok, hbehind', Tlv.next_toBytes_append hmessage _,
      congrArg MessageKind.elementType hr.frame.kind⟩
  · rw [hspells.wire, hspells.signed, hspells'.wire, hspells'.signed, slice_signed, slice_signed,
      hsigned]

/-! An Interest that is signed, and that comes back. -/

namespace Sample

/-- An Interest with a lifetime, a crypto suite and the time of signing. -/
def request : Message :=
  ((((Message.empty .interest).set .name (.name ⟨[Segment.ofType .name [0x61]]⟩)).set
    .cryptoSuite (.int CryptoSuite.rsaSha256.code.toUInt64)).set .signatureTime (.int 5)).set
      .interestLifetime (.int 4000)

/-- The Interest on its way back: another hop limit, a return code, and another header in the place
of the lifetime. -/
def returned : Message :=
  { ((request.erase .interestLifetime).set .hopLimit (.int 3)).set .returnCode (.int 1) with
    kind := .interestReturn
    hopExtras := [⟨0x1234, [0x01, 0x02, 0x03]⟩] }

theorem alike_returned : request.Alike returned := by
  refine ⟨.inr ⟨rfl, rfl⟩, fun f hf => ?_, fun zone hzone => ?_⟩
  · cases f <;> first | rfl | exact absurd (by decide) hf
  · cases zone with
    | hop => exact absurd rfl hzone
    | body => rfl
    | suite => rfl

end Sample

theorem encode_alike_sample :
    Sample.request.Alike Sample.returned ∧
      Validation.needsTime Sample.request (some Sample.frontSigner) {} = false ∧
      ∃ e e', encode Sample.request (some Sample.frontSigner) {} 7 = .ok e ∧
        encode Sample.returned (some Sample.frontSigner) {} 8 = .ok e' ∧
          e.signed.start = 14 ∧ e'.signed.start = 15 ∧
            behindHeaders e'.wire.toBytes = behindHeaders e.wire.toBytes ∧
              (WireMessage.ofEncoded e).Agrees (WireMessage.ofEncoded e') := by
  obtain ⟨e, hok, hstart⟩ : ∃ e, encode Sample.request (some Sample.frontSigner) {} 7 = .ok e ∧
      e.signed.start = 14 := ⟨_, rfl, rfl⟩
  obtain ⟨e', hok', hstart'⟩ : ∃ e, encode Sample.returned (some Sample.frontSigner) {} 8 = .ok e ∧
      e.signed.start = 15 := ⟨_, rfl, rfl⟩
  have htime : Validation.needsTime Sample.request (some Sample.frontSigner) {} = false := rfl
  obtain ⟨⟨_, _, _, hbehind, hbehind', -⟩, -, hagrees, -⟩ :=
    encode_alike Sample.alike_returned htime hok hok'
  exact ⟨Sample.alike_returned, htime, e, e', hok, hok', hstart, hstart',
    hbehind'.trans hbehind.symm, hagrees⟩

end Packet

end NamedContent
