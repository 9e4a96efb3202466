import NamedContent.Proofs.Exchange
import NamedContent.Proofs.Requests
import NamedContent.Proofs.SameBytes

/-!
# Interests sent back

The packet of an Interest on its way back is that of the Interest with another type and a return
code in the fixed header (`Packet.encode_sent_back`). A request and a returned one have the same
slots, suites and ranges, so each part behind the fixed header is written by the same emission; and
a reader finds the message of the Interest with the return code beside it.

* `Parts.ofMessage_sentBack`: the parts of the packet.
* `Layout.toBytes_sentBack`: the two bytes that differ.
* `Layout.message_sentBack`: what is read from the packet.
-/

namespace NamedContent

/-- A returned request has the slots of a request. -/
theorem slots_interestReturn (zone : Zone) :
    slots .interestReturn zone = slots .interest zone := by
  cases zone <;> rfl

/-! ## Messages -/

namespace Message

variable {m : Message} {code : UInt8} {zone : Zone}

/-- A request on its way back. -/
def sentBack (m : Message) (code : UInt8) : Message :=
  (m.withKind .interestReturn).set .returnCode (.int code.toUInt64)

/-- What was sent back, as a request again. -/
def sentAgain (m : Message) : Message := (m.withKind .interest).erase .returnCode

theorem fields_sentBack (m : Message) (code : UInt8) (f : Field) :
    (m.sentBack code).fields f =
      if f = .returnCode then some (.int code.toUInt64) else m.fields f := rfl

theorem extras_sentBack (m : Message) (code : UInt8) (zone : Zone) :
    (m.sentBack code).extras zone = m.extras zone := by
  cases zone <;> rfl

/-- A request without a return code is not changed on its way there and back. -/
theorem sentAgain_sentBack (hkind : m.kind = .interest) (hcode : m.fields .returnCode = none) :
    (m.sentBack code).sentAgain = m := by
  refine eq_of hkind.symm (fun f => ?_) fun zone => ?_
  · show (if f = .returnCode then none else (m.sentBack code).fields f) = m.fields f
    split
    · next hf => rw [hf, hcode]
    · next hf => rw [fields_sentBack, if_neg hf]
  · cases zone <;> rfl

theorem alike_sentBack (hkind : m.kind = .interest) (code : UInt8) : m.Alike (m.sentBack code) := by
  refine ⟨.inr ⟨hkind ▸ rfl, rfl⟩, fun f hf => ?_, fun zone _ => m.extras_sentBack code zone⟩
  rw [fields_sentBack, if_neg]
  rintro rfl
  exact hf (by decide)

theorem slots_sentBack (hkind : m.kind = .interest) (code : UInt8) (zone : Zone) :
    slots (m.sentBack code).kind zone = slots m.kind zone := by
  rw [hkind]
  exact slots_interestReturn zone

/-- No slot is one of the return code. -/
theorem fields_sentBack_of_slot {kind : MessageKind} {slot : Slot} (hs : slot ∈ slots kind zone) :
    ∀ f ∈ slot.fields, (m.sentBack code).fields f = m.fields f := by
  intro f hf
  rw [fields_sentBack, if_neg]
  rintro rfl
  exact not_mem_outerFields hs hf (by decide)

theorem emitZone_sentBack (hkind : m.kind = .interest) (code : UInt8) (zone : Zone) :
    (m.sentBack code).emitZone zone = m.emitZone zone := by
  rw [emitZone, emitZone, slots_sentBack hkind, extras_sentBack,
    emitSlots_congr (fun slot hs => proper_of_mem hs) fun slot hs => fields_sentBack_of_slot hs]

theorem elements_sentBack (hkind : m.kind = .interest) (code : UInt8) (zone : Zone) :
    (m.sentBack code).elements zone = m.elements zone := by
  unfold elements
  rw [slots_sentBack hkind, extras_sentBack]
  congr 1
  refine List.filterMap_congr fun slot hs => ?_
  rw [Slot.element?, Slot.element?,
    Slot.content?_congr (proper_of_mem hs) (fields_sentBack_of_slot hs)]

end Message

/-! ## Layouts -/

namespace Layout

variable {p : Layout} {m : Message} {code : UInt8}

/-- The packet of a request on its way back. -/
def sentBack (p : Layout) (code : UInt8) : Layout :=
  { p with kind := .interestReturn, returnCode := code }

theorem clampedByte_sentBack (m : Message) (code : UInt8) :
    Header.clampedByte (m.sentBack code) .returnCode = code := by
  have hlt := code.toNat_lt
  show UInt8.ofNat (min code.toUInt64.toNat 255) = code
  rw [UInt8.toNat_toUInt64, Nat.min_eq_left (by omega), UInt8.ofNat_toNat]

theorem ofMessage_sentBack (hkind : m.kind = .interest) (code : UInt8) :
    ofMessage (m.sentBack code) = (ofMessage m).sentBack code := by
  have hcode : (ofMessage (m.sentBack code)).returnCode = code := clampedByte_sentBack m code
  have hrequest : m.kind.isRequest = true := hkind ▸ rfl
  refine eq_of rfl (if_pos hrequest).symm hcode (if_pos hrequest).symm
    (Message.elements_sentBack hkind code .hop) (Message.elements_sentBack hkind code .body) ?_
  simp only [ofMessage, sentBack, Message.elements_sentBack hkind]
  rfl

theorem length_content_sentBack (p : Layout) (code : UInt8) :
    (p.sentBack code).content.length = p.content.length := by
  rw [content, content, Tlv.concat_cons, Tlv.concat_cons, List.length_append, List.length_append,
    Tlv.length_toBytes, Tlv.length_toBytes]
  rfl

/-- Type and return code are all that differs in the bytes. -/
theorem toBytes_sentBack (hkind : p.kind = .interest) (code : UInt8) :
    (p.sentBack code).toBytes = (p.toBytes.set 1 2).set 5 code := by
  obtain ⟨l1, l0, hl, -⟩ := Tlv.exists_ofNat_two p.header.packetLength.toNat_lt
  have hlength : (p.sentBack code).header.packetLength = p.header.packetLength := by
    rw [header, packetLength, length_content_sentBack]
    rfl
  rw [toBytes, toBytes, Header.toBytes, Header.toBytes, hlength, hl]
  obtain ⟨kind, hopLimit, returnCode, flags, hop, body, validation⟩ := p
  obtain rfl : kind = .interest := hkind
  rfl

theorem toBytes_front (p : Layout) :
    p.toBytes[1]? = some p.kind.packetType ∧ p.toBytes[5]? = some p.returnCode := by
  obtain ⟨l1, l0, hl, -⟩ := Tlv.exists_ofNat_two p.header.packetLength.toNat_lt
  rw [toBytes, Header.toBytes, hl]
  exact ⟨rfl, rfl⟩

theorem Valid.sentBack (hp : p.Valid) (hkind : p.kind = .interest) (code : UInt8) :
    (p.sentBack code).Valid := by
  refine ⟨hp.headers, hp.packet, fun zone => ?_, fun _ => hp.named (by simp [hkind])⟩
  have haccepts := hp.accepts zone
  rw [hkind] at haccepts
  cases zone <;> exact ⟨haccepts.once, haccepts.values⟩

/-- The message of the packet is that of the request with the return code and its own header. -/
theorem message_sentBack (hkind : p.kind = .interest) (code : UInt8) :
    (p.sentBack code).message =
      (p.message.set .fixedHeader (.bytes (p.sentBack code).header.toBytes)).sentBack code := by
  have hcarries := p.carries_message
  have hslots : ∀ zone, slots .interestReturn zone = slots p.kind zone := by
    rw [hkind]
    exact slots_interestReturn
  refine (carries_message (p.sentBack code)).eq ⟨rfl, fun zone slot hs f hf => ?_, ?_, ?_⟩
  · have hs : slot ∈ slots p.kind zone := hslots zone ▸ hs
    have hheader : f ≠ .fixedHeader := by
      rintro rfl
      exact not_mem_outerFields hs hf (by decide)
    rw [Message.fields_sentBack_of_slot hs f hf, Message.fields_set, if_neg hheader]
    exact hcarries.slots zone slot hs f hf
  · intro f hf
    have hf : ∀ zone, ∀ slot ∈ slots p.kind zone, f ∉ slot.fields := fun zone =>
      hslots zone ▸ hf zone
    have houter := hcarries.outer f hf
    rw [Message.fields_sentBack, Message.fields_set, houter]
    cases f <;> simp [outer, hkind, sentBack, MessageKind.isRequest]
  · intro zone
    have hunknown : zone.unknown p.kind (p.elements zone) =
        zone.unknown (p.sentBack code).kind ((p.sentBack code).elements zone) := by
      rw [hkind]
      cases zone <;> rfl
    rw [Message.extras_sentBack, ← hunknown, ← hcarries.extras zone]
    cases zone <;> rfl

theorem sentAgain_message (hkind : p.kind = .interest) (code : UInt8) :
    (p.sentBack code).message.sentAgain =
      p.message.set .fixedHeader (.bytes (p.sentBack code).header.toBytes) := by
  have hcarries := p.carries_message
  rw [message_sentBack hkind]
  refine Message.sentAgain_sentBack (hcarries.kind.trans hkind) ?_
  rw [Message.fields_set, if_neg (by decide), hcarries.outer_of_mem (by decide)]
  exact if_neg (by simp [hkind])

end Layout

/-! ## Interests -/

theorem Interest.eq_of_message {i j : Interest} (h : i.message = j.message) : i = j := by
  cases i
  cases j
  cases h
  rfl

theorem InterestReturn.code_of_fields {r : InterestReturn} {code : ReturnCode}
    (h : r.message.fields .returnCode = some (.int code.code.toUInt64)) : r.code = .ok code := by
  unfold InterestReturn.code Message.int?
  rw [h]
  cases code <;> rfl

/-! ## Packets -/

namespace Packet

open Layout

variable {m : Message} {signer : Option Signer} {config : Config} {now now' : UInt64}
  {code : UInt8} {e e' : Encoded} {d : Decoded} {err : EncodeError}

/-- The parts of both packets are written alike, the headers included. -/
theorem Parts.ofMessage_sentBack (now now' : UInt64) (code : UInt8) (hkind : m.kind = .interest)
    (htime : Validation.needsTime m signer config = false) :
    (Parts.ofMessage m signer config now).SameBytes
      (Parts.ofMessage (m.sentBack code) signer config now') := by
  obtain ⟨hmessage, halgorithm, hsignature, -⟩ :=
    @Message.Alike.parts _ _ _ _ now now' (Message.alike_sentBack hkind code) htime
  have hhop : (Parts.ofMessage (m.sentBack code) signer config now').hop =
      (Parts.ofMessage m signer config now).hop := Message.emitZone_sentBack hkind code .hop
  exact ⟨.of_eq hhop, .of_eq hmessage, .of_eq halgorithm, .of_eq hsignature⟩

theorem encode_sentBack_eq_error_iff (hkind : m.kind = .interest)
    (htime : Validation.needsTime m signer config = false) :
    encode m signer config now = .error err ↔
      encode (m.sentBack code) signer config now' = .error err :=
  (Parts.ofMessage_sentBack now now' code hkind htime).encode_eq_error_iff

/-- What is recorded of a request is recorded of it on its way back. -/
theorem message_of_encode_sentBack (hkind : m.kind = .interest)
    (htime : Validation.needsTime m signer config = false)
    (hok : encode m signer config now = .ok e)
    (hok' : encode (m.sentBack code) signer config now' = .ok e') :
    e'.message = e.message.sentBack code := by
  obtain ⟨-, -, halike⟩ := layouts_of_alike (Message.alike_sentBack hkind code) htime hok hok'
  obtain ⟨-, hr, -⟩ := spells_of_encode hok
  obtain ⟨-, hr', -⟩ := spells_of_encode hok'
  refine Message.eq_of hr'.frame.kind (fun f => ?_) fun zone => ?_
  · rw [Message.fields_sentBack]
    -- A field is derived, or it is what it was in the two messages.
    by_cases hf : f ∈ Validation.derivedFields
    · have hhop : f ∉ Message.perHopFields := by
        revert hf
        cases f <;> decide
      rw [halike.fields f hhop, if_neg]
      rintro rfl
      exact absurd hf (by decide)
    · rw [hr'.frame.fields f hf, hr.frame.fields f hf, Message.fields_sentBack]
  · rw [hr'.frame.extras zone, Message.extras_sentBack, Message.extras_sentBack,
      hr.frame.extras zone]

/-- The packet of a request and the one in which it goes back: they differ in the packet type and in
the return code, and whoever reads both finds the same message. -/
structure SentBack (code : ReturnCode) (e e' : Encoded) : Prop where
  packetType : e.wire.toBytes[1]? = some 0
  returnCode : e.wire.toBytes[5]? = some 0
  wire : e'.wire.toBytes = (e.wire.toBytes.set 1 2).set 5 code.code
  signed : e'.signed = e.signed
  hashed : e'.hashed = e.hashed
  agrees : (WireMessage.ofEncoded e).Agrees (WireMessage.ofEncoded e')
  /-- Nothing but the fixed header is another one in what is read. -/
  reads : ∀ d, decode e.wire.toBytes = .ok d → ∃ d' r, decode e'.wire.toBytes = .ok d' ∧
    d'.signed = d.signed ∧ d'.hashed = d.hashed ∧
      (WireMessage.ofDecoded d).Agrees (WireMessage.ofDecoded d') ∧
        InterestReturn.ofMessage d'.message = .ok r ∧ r.code = .ok code ∧
          r.interest.message = d.message.set .fixedHeader
            (.bytes (e'.wire.toBytes.take fixedHeaderLength))

theorem sentBack_of_encode {code : ReturnCode} (hkind : m.kind = .interest)
    (htime : Validation.needsTime m signer config = false)
    (hok : encode m signer config now = .ok e)
    (hok' : encode (m.sentBack code.code) signer config now' = .ok e') : SentBack code e e' := by
  have halike := Message.alike_sentBack hkind code.code
  obtain ⟨hspells, hr, -⟩ := spells_of_encode hok
  obtain ⟨hspells', -⟩ := spells_of_encode hok'
  have hkindOf : (ofMessage e.message).kind = .interest := hr.frame.kind.trans hkind
  have hlayout : ofMessage e'.message = (ofMessage e.message).sentBack code.code := by
    rw [message_of_encode_sentBack hkind htime hok hok', ofMessage_sentBack hkindOf]
  rw [hlayout] at hspells'
  obtain ⟨htype, hcode⟩ := toBytes_front (ofMessage e.message)
  rw [← hspells.wire, hkindOf] at htype
  rw [← hspells.wire] at hcode
  refine ⟨htype, hcode.trans ?_, ?_, ?_, ?_, agrees_of_alike halike htime hok hok', fun d hd => ?_⟩
  · exact congrArg some (if_neg (by rw [hr.frame.kind, hkind]; decide))
  · rw [hspells'.wire, toBytes_sentBack hkindOf, ← hspells.wire]
  · rw [hspells'.signed, hspells.signed]
    rfl
  · rw [hspells'.hashed, hspells.hashed, hashed, hashed, length_content_sentBack]
    rfl
  obtain ⟨hvalid, rfl⟩ := decoded_of_encode hok hd
  have hd' := decode_toBytes_append (hvalid.sentBack hkindOf code.code) []
  rw [List.append_nil, ← hspells'.wire] at hd'
  have hcarries := carries_message ((ofMessage e.message).sentBack code.code)
  refine ⟨_, ⟨_, hcarries.kind⟩, hd', hspells.signed.symm, ?_,
    agrees_of_decode halike htime hok hok' hd hd', dif_pos hcarries.kind, ?_, ?_⟩
  · rw [hspells.hashed, hashed, hashed, length_content_sentBack]
    rfl
  · refine InterestReturn.code_of_fields ?_
    rw [hcarries.outer_of_mem (by decide)]
    rfl
  · rw [hspells'.wire, take_toBytes]
    exact sentAgain_message hkindOf code.code

/-- An Interest is written when it can be sent back, and for the same reasons not; the two packets
differ in the packet type and the return code, and so do the messages that are read from them. An
Interest that had no return code comes back as it was sent. The clocks may differ where no time of
signing is taken. -/
theorem encode_sent_back (i : Interest) (code : ReturnCode)
    (htime : Validation.needsTime i.message signer config = false) :
    (∀ err, encode i.message signer config now = .error err ↔
      encode (InterestReturn.create i code).message signer config now' = .error err) ∧
    (∀ e, encode i.message signer config now = .ok e →
      ∃ e', encode (InterestReturn.create i code).message signer config now' = .ok e' ∧
        SentBack code e e') ∧
    (i.message.fields .returnCode = none → (InterestReturn.create i code).interest = i) := by
  have herror : ∀ err, encode i.message signer config now = .error err ↔
      encode (i.message.sentBack code.code) signer config now' = .error err :=
    fun _ => encode_sentBack_eq_error_iff i.kind_eq htime
  refine ⟨herror, fun e hok => ?_, fun hcode => ?_⟩
  · cases hok' : encode (i.message.sentBack code.code) signer config now' with
    | ok e' => exact ⟨e', hok', sentBack_of_encode i.kind_eq htime hok hok'⟩
    | error err =>
      rw [(herror err).mpr hok'] at hok
      cases hok
  · exact Interest.eq_of_message (Message.sentAgain_sentBack i.kind_eq hcode)

/-! The Interest of the samples, which is signed when it is written, goes back without a route. -/

/-- The signed request as an Interest. -/
def Sample.asked : Interest := ⟨Sample.request, rfl⟩

theorem encode_sent_back_sample :
    Validation.needsTime Sample.asked.message (some Sample.frontSigner) {} = false ∧
      Sample.asked.message.fields .returnCode = none ∧
      (InterestReturn.create Sample.asked .noRoute).interest = Sample.asked ∧
      ∃ e e' d d', encode Sample.asked.message (some Sample.frontSigner) {} 7 = .ok e ∧
        encode (InterestReturn.create Sample.asked .noRoute).message (some Sample.frontSigner) {}
          8 = .ok e' ∧
        e'.wire.toBytes = (e.wire.toBytes.set 1 2).set 5 1 ∧
        decode e.wire.toBytes = .ok d ∧ decode e'.wire.toBytes = .ok d' ∧
        ∃ r, InterestReturn.ofMessage d'.message = .ok r ∧ r.code = .ok .noRoute ∧
          r.interest.message = d.message.set .fixedHeader (.bytes (e'.wire.toBytes.take 8)) := by
  have htime : Validation.needsTime Sample.asked.message (some Sample.frontSigner) {} = false := rfl
  obtain ⟨e, hok, hread⟩ : ∃ e, encode Sample.asked.message (some Sample.frontSigner) {} 7 = .ok e ∧
      (decode e.wire.toBytes).toBool = true := ⟨_, rfl, by decide +kernel⟩
  obtain ⟨d, hd⟩ := exists_ok_of_toBool hread
  obtain ⟨-, hencode, hinterest⟩ :=
    @encode_sent_back (some Sample.frontSigner) {} 7 8 Sample.asked .noRoute htime
  obtain ⟨e', hok', hback⟩ := hencode e hok
  obtain ⟨d', r, hd', -, -, -, hof, hcode, hmessage⟩ := hback.reads d hd
  exact ⟨htime, rfl, hinterest rfl, e, e', d, d', hok, hok', hback.wire, hd, hd', r, hof, hcode,
    hmessage⟩

end Packet

end NamedContent
