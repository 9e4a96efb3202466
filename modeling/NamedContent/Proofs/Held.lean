import NamedContent.Proofs.Repetition
import NamedContent.Proofs.SameBytes

/-!
# Payloads held in other ways

A message holds its payload as bytes, as JSON text or in segments. Each of them is written in pieces
of its own, since segments are copied or shared one by one, and nothing else depends on it
(`encodeInPlace_held`).

* `encode_of_slot`: two messages that differ in one field of the body, which is written with the
  same bytes for both. All that is derived of one is derived of the other one.
* `emit_held`: what is written for a payload, however it is held.
-/

namespace NamedContent

/-! ## Messages that differ in one slot -/

/-- The same is recorded in two messages. -/
theorem Message.Frame.set_both {changed : List Field} {m r : Message} (h : Frame changed m r)
    (f : Field) (v : Value) : Frame changed (m.set f v) (r.set f v) := by
  refine ⟨h.kind, fun g hg => ?_, fun zone => ?_⟩
  · rw [fields_set, fields_set, h.fields g hg]
  · have hextras : r.extras zone = m.extras zone := h.extras zone
    cases zone <;> exact hextras

/-- Whatever is recorded in a field, the other fields are the same. -/
theorem Message.Frame.of_set (m : Message) (f : Field) (v v' : Value) :
    Frame [f] (m.set f v) (m.set f v') := by
  refine ⟨rfl, fun g hg => ?_, fun zone => by cases zone <;> rfl⟩
  have hne : g ≠ f := fun heq => hg (List.mem_singleton.mpr heq)
  rw [fields_set, fields_set, if_neg hne, if_neg hne]

/-- A message that differs in one field at most is the other one with what the field holds. -/
theorem Message.Frame.eq_set {f : Field} {m r : Message} {v : Value} (h : Frame [f] m r)
    (hv : r.fields f = some v) : r = m.set f v := by
  refine Message.eq_of h.kind (fun g => ?_) fun zone => ?_
  · rw [fields_set]
    split
    · next hg => rw [hg, hv]
    · next hg => exact h.fields g fun hmem => hg (List.mem_singleton.mp hmem)
  · rw [h.extras zone]
    cases zone <;> rfl

/-- Validation does not look at a field that does not tell who signed. -/
theorem Message.Frame.overlooked {f : Field} (hf : f ∉ validationFields) :
    Validation.Overlooks (Frame [f]) where
  object h := by rw [h.kind]
  fields h g hg := h.fields g fun hmem => hf (List.mem_singleton.mp hmem ▸ hg)
  extras h := h.extras .suite
  set h := h.set_both

theorem emitSlots_sameBytes {m r : Message} {ss : List Slot}
    (h : ∀ slot ∈ ss, (slot.emit m).SameBytes (slot.emit r)) :
    (emitSlots m ss).SameBytes (emitSlots r ss) := by
  induction ss with
  | nil => exact .refl _
  | cons slot ss ih =>
    obtain ⟨hslot, hrest⟩ := List.forall_mem_cons.mp h
    exact hslot.seq (ih hrest)

namespace Packet

variable {m r : Message} {slot : Slot} {signer : Option Signer} {config : Config}
  {now now' : UInt64}

theorem emitMessage_sameBytes (hs : slot ∈ slots m.kind .body) (h : Message.Frame [slot.field] m r)
    (hslot : (slot.emit m).SameBytes (slot.emit r)) :
    (emitMessage m).SameBytes (emitMessage r) := by
  have hslots : (emitSlots m (slots m.kind .body)).SameBytes (emitSlots r (slots m.kind .body)) :=
    emitSlots_sameBytes fun slot' hs' => by
      by_cases hf : slot.field ∈ slot'.fields
      · rwa [eq_of_field hs' hs hf slot.field_mem_fields]
      · -- A slot with other fields is written alike, piece by piece.
        exact .of_eq (Slot.emit_congr (proper_of_mem hs') fun f hf' => h.fields f fun hmem =>
          hf (List.mem_singleton.mp hmem ▸ hf'))
  rw [emitMessage, emitMessage, Message.emitZone, Message.emitZone, h.kind, h.extras .body]
  exact (hslots.seq (.refl _)).container _

/-- Where the time of signing is to be told, the clocks have to show the same. -/
theorem parts_of_slot (hs : slot ∈ slots m.kind .body) (h : Message.Frame [slot.field] m r)
    (hslot : (slot.emit m).SameBytes (slot.emit r))
    (hclock : Validation.needsTime m signer config = true → now' = now) :
    (Parts.ofMessage m signer config now).SameBytes (Parts.ofMessage r signer config now') ∧
      Message.Frame [slot.field] (Parts.ofMessage m signer config now).recorded
        (Parts.ofMessage r signer config now').recorded := by
  have hfield : slot.field ∉ Message.validationFields := by
    have table : ∀ s ∈ slots m.kind .body, s.field ∉ Message.validationFields := by
      cases m.kind <;> decide
    exact table slot hs
  have hmessage := emitMessage_sameBytes hs h hslot
  obtain ⟨halgorithm, hsignature, hrecorded⟩ :=
    (Message.Frame.overlooked hfield).parts h hmessage.bytes hclock
  have hhop : r.emitZone .hop = m.emitZone .hop := h.emitZone fun slot' hs' f hf hmem => by
    obtain rfl := List.mem_singleton.mp hmem
    cases zone_eq_of_field hs hs' slot.field_mem_fields hf
  exact ⟨⟨.of_eq hhop, hmessage, .of_eq halgorithm, .of_eq hsignature⟩, hrecorded⟩

/-- A header is made of its lengths and of fields that no slot has. -/
theorem headerOf_of_slot {kind : MessageKind} {zone : Zone} (hs : slot ∈ slots kind zone)
    (h : Message.Frame [slot.field] m r) (packetLength headerLength : Nat) :
    Header.ofMessage r packetLength headerLength =
      Header.ofMessage m packetLength headerLength := by
  have houter : ∀ f ∈ outerFields, r.fields f = m.fields f := fun f hf => h.fields f fun hmem =>
    not_mem_outerFields hs slot.field_mem_fields (List.mem_singleton.mp hmem ▸ hf)
  simp only [Header.ofMessage, Header.clampedByte, Header.keptFlags, Message.int?, Message.bytes?,
    h.kind, houter .hopLimit (by decide), houter .returnCode (by decide),
    houter .fixedHeader (by decide)]

/-! ## Packets -/

/-- Two messages that differ in one field of the body, which is written with the same bytes for
both, are both refused for the same reason, or written with the same bytes; then the recorded
messages differ in this field at most. -/
theorem encode_of_slot (hs : slot ∈ slots m.kind .body) (h : Message.Frame [slot.field] m r)
    (hslot : (slot.emit m).SameBytes (slot.emit r))
    (hclock : Validation.needsTime m signer config = true → now' = now) :
    (∃ err, encode m signer config now = .error err ∧ encode r signer config now' = .error err) ∨
      ∃ e e', encode m signer config now = .ok e ∧ encode r signer config now' = .ok e' ∧
        e.SameBytes e' ∧ Message.Frame [slot.field] e.message e'.message := by
  obtain ⟨hparts, hrecorded⟩ := parts_of_slot hs h hslot hclock
  cases hok : encode m signer config now with
  | error err => exact .inl ⟨err, rfl, hparts.encode_eq_error_iff.mp hok⟩
  | ok e =>
    cases hok' : encode r signer config now' with
    | error err =>
      rw [hparts.encode_eq_error_iff.mpr hok'] at hok
      cases hok
    | ok e' =>
      obtain ⟨-, -, header, hheader, rfl⟩ := encode_eq_ok_iff_parts.mp hok
      obtain ⟨-, -, header', hheader', rfl⟩ := encode_eq_ok_iff_parts.mp hok'
      rw [hparts.packetLength, hparts.headerLength, headerOf_of_slot hs hrecorded,
        hheader] at hheader'
      cases hheader'
      exact .inr ⟨_, _, rfl, rfl, hparts.encoded header, hrecorded⟩

end Packet

/-! ## Payloads -/

/-- A value holds bytes: as they are, as JSON text, or in segments. -/
inductive Value.Holds (p : Bytes) : Value → Prop
  | bytes : Holds p (.bytes p)
  | json : Holds p (.json p)
  | scatter (segments : List Bytes) (h : segments.flatten = p) : Holds p (.scatter ⟨segments⟩)

namespace Packet

variable {m : Message} {signer : Option Signer} {config : Config} {now now' : UInt64}
  {p : Bytes} {v v' : Value}

/-- Every message has a slot for its payload, which writes it as an element of its bytes. -/
theorem exists_payloadSlot (kind : MessageKind) :
    ∃ slot ∈ slots kind .body, slot.field = .payload ∧ ∃ json, slot.form = .payload json := by
  cases kind with
  | control => exact ⟨⟨.payload, 0x0001, .payload true⟩, by decide, rfl, true, rfl⟩
  | _ => exact ⟨⟨.payload, 0x0001, .payload false⟩, by decide, rfl, false, rfl⟩

theorem emit_held {slot : Slot} {json : Bool} (hform : slot.form = .payload json) (m : Message)
    (h : v.Holds p) :
    (Emit.element slot.type p).SameBytes (slot.emit (m.set slot.field v)) := by
  have hv : (m.set slot.field v).fields slot.field = some v := if_pos rfl
  unfold Slot.emit
  rw [hform]
  dsimp only
  rw [hv]
  cases h with
  | bytes => exact .refl _
  | json => exact .refl _
  | scatter segments h => exact h ▸ .scatter slot.type ⟨segments⟩

/-- A field in which nothing is recorded holds afterwards what it held. -/
theorem fields_of_encode_set {f : Field} (hf : f ∉ Validation.derivedFields) {e : Encoded}
    (hok : encode (m.set f v) signer config now = .ok e) : e.message.fields f = some v := by
  obtain ⟨-, hr, -⟩ := spells_of_encode hok
  rw [hr.frame.fields f hf]
  exact if_pos rfl

/-- How a payload is held makes no difference: as bytes, as JSON text or in segments, however it is
cut, it is refused for the same reason, or written with the same bytes and ranges, and the same is
derived for the message. The clocks may differ where no time of signing is taken. -/
theorem encodeInPlace_held (m : Message) (hv : v.Holds p) (hv' : v'.Holds p)
    (hclock : Validation.needsTime m signer config = true → now' = now) :
    (∃ err,
      encodeInPlace (m.set .payload v) signer config now = (.error err, m.set .payload v) ∧
      encodeInPlace (m.set .payload v') signer config now' = (.error err, m.set .payload v')) ∨
    ∃ e e', ∃ r : Message,
      encodeInPlace (m.set .payload v) signer config now = (.ok e, r.set .payload v) ∧
      encodeInPlace (m.set .payload v') signer config now' = (.ok e', r.set .payload v') ∧
      e.SameBytes e' := by
  obtain ⟨slot, hs, hfield, json, hform⟩ := exists_payloadSlot m.kind
  have hslot := (emit_held hform m hv).symm.trans (emit_held hform m hv')
  rw [hfield] at hslot
  have hframe : Message.Frame [slot.field] (m.set .payload v) (m.set .payload v') :=
    hfield ▸ .of_set m .payload v v'
  rcases encode_of_slot (m := m.set .payload v) hs hframe hslot hclock with
    ⟨err, herr, herr'⟩ | ⟨e, e', hok, hok', hsame, hrecorded⟩
  · exact .inl ⟨err, encodeInPlace_of_fault herr, encodeInPlace_of_fault herr'⟩
  · rw [hfield] at hrecorded
    have hleft : e.message = e.message.set .payload v :=
      Message.Frame.eq_set (.refl _ _) (fields_of_encode_set (by decide) hok)
    have hleft' : e'.message = e.message.set .payload v' :=
      hrecorded.eq_set (fields_of_encode_set (by decide) hok')
    exact .inr ⟨e, e', e.message, hleft ▸ encodeInPlace_of_encode hok,
      hleft' ▸ encodeInPlace_of_encode hok', hsame⟩

/-! A payload that is long enough to be shared, and the same in segments that are copied. -/

namespace Sample

/-- A JSON text of 72 bytes. -/
def text : Bytes := 0x22 :: List.replicate 70 0x61 ++ [0x22]

/-- The text in two halves, with empty segments around them. -/
def halves : List Bytes := [[], text.take 36, [], text.drop 36, []]

end Sample

theorem encodeInPlace_held_sample :
    Value.Holds Sample.text (.json Sample.text) ∧
      Value.Holds Sample.text (.scatter ⟨Sample.halves⟩) ∧
      ∃ e e', ∃ r : Message,
        encodeInPlace (Sample.message.set .payload (.json Sample.text)) (some Sample.frontSigner) {}
          7 = (.ok e, r.set .payload (.json Sample.text)) ∧
        encodeInPlace (Sample.message.set .payload (.scatter ⟨Sample.halves⟩))
          (some Sample.frontSigner) {} 7 = (.ok e', r.set .payload (.scatter ⟨Sample.halves⟩)) ∧
        e.SameBytes e' ∧ e.wire.segments.length = 3 ∧ e'.wire.segments.length = 1 := by
  have hv : Value.Holds Sample.text (.json Sample.text) := .json
  have hv' : Value.Holds Sample.text (.scatter ⟨Sample.halves⟩) := .scatter _ rfl
  have hthree : (encodeInPlace (Sample.message.set .payload (.json Sample.text))
      (some Sample.frontSigner) {} 7).1.toOption.map (fun e => e.wire.segments.length) =
        some 3 := by
    decide +kernel
  have hone : (encodeInPlace (Sample.message.set .payload (.scatter ⟨Sample.halves⟩))
      (some Sample.frontSigner) {} 7).1.toOption.map (fun e => e.wire.segments.length) =
        some 1 := by
    decide +kernel
  rcases @encodeInPlace_held (some Sample.frontSigner) {} 7 7 _ _ _ Sample.message hv hv'
    fun _ => rfl with ⟨err, herr, -⟩ | ⟨e, e', r, hok, hok', hsame⟩
  · rw [herr] at hthree
    cases hthree
  · rw [hok] at hthree
    rw [hok'] at hone
    exact ⟨hv, hv', e, e', r, hok, hok', hsame, Option.some.inj hthree, Option.some.inj hone⟩

end Packet

end NamedContent
