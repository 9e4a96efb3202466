import Mathlib.Data.List.Basic
import NamedContent.Packet.Encode
import NamedContent.Proofs.Layout

/-!
# What is written for a message

`Layout.ofMessage` is the layout of the packet in which a message is written. `Packet.encode` writes
the packet of this layout, for the message with all that was recorded in it
(`Packet.spells_of_encode`); what is recorded is told by `Validation.Recorded`.
-/

namespace NamedContent

/-! ## Frames -/

/-- To set a field to what it holds changes nothing. -/
theorem Message.set_of_fields {m : Message} {f : Field} {v : Value} (h : m.fields f = some v) :
    m.set f v = m := by
  refine Message.eq_of rfl (fun g => ?_) fun _ => rfl
  rw [Message.fields_set]
  split
  · next hg => rw [hg, h]
  · rfl

/-- Two messages differ in some fields at most. -/
structure Message.Frame (changed : List Field) (m r : Message) : Prop where
  kind : r.kind = m.kind
  fields : ∀ f, f ∉ changed → r.fields f = m.fields f
  extras : ∀ zone, r.extras zone = m.extras zone

namespace Message.Frame

variable {changed changed' : List Field} {m r s : Message} {zone : Zone}

theorem refl (changed : List Field) (m : Message) : Frame changed m m :=
  ⟨rfl, fun _ _ => rfl, fun _ => rfl⟩

theorem trans (h : Frame changed m r) (h' : Frame changed r s) : Frame changed m s :=
  ⟨h'.kind.trans h.kind, fun f hf => (h'.fields f hf).trans (h.fields f hf),
    fun zone => (h'.extras zone).trans (h.extras zone)⟩

theorem mono (h : Frame changed m r) (hsub : changed ⊆ changed') : Frame changed' m r :=
  ⟨h.kind, fun f hf => h.fields f fun hmem => hf (hsub hmem), h.extras⟩

theorem append (h : Frame changed m r) (h' : Frame changed' r s) :
    Frame (changed ++ changed') m s :=
  (h.mono (List.subset_append_left _ _)).trans (h'.mono (List.subset_append_right _ _))

theorem setIfSome (m : Message) {f : Field} (hf : f ∈ changed) (v : Option Value) :
    Frame changed m (m.setIfSome f v) := by
  refine ⟨m.kind_setIfSome f v, fun g hg => ?_, m.extras_setIfSome f v⟩
  rw [fields_setIfSome, if_neg]
  rintro rfl
  exact hg hf

theorem set (m : Message) {f : Field} (hf : f ∈ changed) (v : Value) :
    Frame changed m (m.set f v) := setIfSome m hf (some v)

end Message.Frame

namespace Message.Frame

variable {changed : List Field} {m r : Message} {zone : Zone}

/-- A zone is written alike when none of its slots has a field that differs. -/
theorem elements (h : Frame changed m r)
    (hslots : ∀ slot ∈ slots m.kind zone, ∀ f ∈ slot.fields, f ∉ changed) :
    r.elements zone = m.elements zone := by
  unfold Message.elements
  rw [h.kind, h.extras zone]
  congr 1
  refine List.filterMap_congr fun slot hs => ?_
  rw [Slot.element?, Slot.element?,
    Slot.content?_congr (proper_of_mem hs) fun f hf => h.fields f (hslots slot hs f hf)]

theorem writable (h : Frame changed m r)
    (hslots : ∀ slot ∈ slots m.kind zone, ∀ f ∈ slot.fields, f ∉ changed)
    (hm : m.Writable zone) : r.Writable zone := by
  intro slot hs
  rw [h.kind] at hs
  exact (hm slot hs).congr (h.fields _ (hslots slot hs _ slot.field_mem_fields))

end Message.Frame

/-! ## Emissions that went well -/

/-- An emission succeeded, and wrote some bytes. -/
def Emit.Wrote (em : Emit Nat) (b : Bytes) : Prop := em.result = .ok b.length ∧ em.bytes = b

namespace Emit

variable {α β : Type} {em : Emit Nat} {ok : Prop} {b : Bytes}

theorem Yields.wrote_of_result (h : em.Writes ok b) {n : Nat} (hn : em.result = .ok n) :
    em.Wrote b := h.run (h.ok_of hn)

/-- Of two emissions in a row the results are those of two computations in a row. -/
theorem result_bind (m : Emit α) (f : α → Emit β) :
    (m >>= f).result = m.result >>= fun a => (f a).result := by
  have hbind : m >>= f = andThen m f := rfl
  rw [hbind, andThen]
  cases m.result <;> rfl

theorem result_bind_eq_ok_iff {m : Emit α} {f : α → Emit β} {v : β} :
    (m >>= f).result = .ok v ↔ ∃ a, m.result = .ok a ∧ (f a).result = .ok v := by
  rw [result_bind, bind_eq_ok_iff]

theorem bytes_bind {m : Emit α} {f : α → Emit β} {a : α} (h : m.result = .ok a) :
    (m >>= f).bytes = m.bytes ++ (f a).bytes := by
  have hbind : m >>= f = andThen m f := rfl
  rw [hbind, andThen, h]
  exact Piece.concat_append _ _

end Emit

/-! ## The layout of a message -/

/-- The layout of the packet in which a message is written. -/
def Layout.ofMessage (m : Message) : Layout where
  kind := m.kind
  hopLimit := if m.kind.isRequest then Header.clampedByte m .hopLimit else 0
  returnCode := if m.kind = .interestReturn then Header.clampedByte m .returnCode else 0
  flags := if m.kind.isRequest then Header.keptFlags m else 0
  hop := m.elements .hop
  body := m.elements .body
  validation := (m.int? .cryptoSuite).map fun n =>
    ⟨n.toUInt16, m.elements .suite, m.bytes? .signature⟩

/-! ## Validation -/

namespace Validation

/-- The fields that are derived from the signer. -/
def derivedFields : List Field := [.cryptoSuite, .keyId, .signatureTime, .signature]

variable {m r : Message} {signer : Option Signer} {config : Config} {now : UInt64} {n : Nat}

theorem frame_withSuite (m : Message) (suite : UInt16) (signer : Option Signer) :
    Message.Frame [.cryptoSuite, .keyId] m (withSuite m suite signer) := by
  have hsuite : Message.Frame [.cryptoSuite, .keyId] m
      (m.set .cryptoSuite (.int suite.toUInt64)) := .set m (by decide) _
  unfold withSuite
  simp only
  split
  · exact hsuite
  · exact hsuite.trans (.setIfSome _ (by decide) _)

theorem frame_withTime (m : Message) (signer : Option Signer) (config : Config) (now : UInt64) :
    Message.Frame [.signatureTime] m (withTime m signer config now) := by
  unfold withTime
  split
  · exact .set m (by decide) _
  · exact .refl _ m

/-- The algorithm is written as an element around the suite. -/
theorem writes_emitSuite (m : Message) (suite : UInt16) :
    (emitSuite m suite).Writes
      ((m.Writable .suite ∧ Tlv.Fits ⟨suite, Tlv.concat (m.elements .suite)⟩) ∧
        Tlv.Fits ⟨Part.algorithmType, Tlv.toBytes ⟨suite, Tlv.concat (m.elements .suite)⟩⟩)
      (Tlv.toBytes ⟨Part.algorithmType, Tlv.toBytes ⟨suite, Tlv.concat (m.elements .suite)⟩⟩) :=
  Emit.writes_container _ (Emit.writes_container_concat suite (writes_emitZone m .suite))

/-- The fields of the key are written before the time of signing is taken, so they can be written
where all of the suite can. -/
theorem keySlots_written {keyed timed : Message} (h : Message.Frame [.signatureTime] keyed timed)
    (hwritable : timed.Writable .suite) (hfits : ∀ t ∈ timed.elements .suite, t.Fits) :
    ∃ n, (emitSlots keyed keySlots).result = .ok n := by
  have hdisjoint : ∀ slot ∈ keySlots, ∀ f ∈ slot.fields, f ∉ [Field.signatureTime] := by decide
  have hsub : ∀ slot ∈ keySlots, slot ∈ slots timed.kind .suite := fun _ => mem_slots_of_key
  have heq : ∀ slot ∈ keySlots, slot.element? keyed = slot.element? timed := fun slot hs => by
    rw [Slot.element?, Slot.element?, Slot.content?_congr (proper_of_mem (hsub slot hs))
      fun f hf => h.fields f (hdisjoint slot hs f hf)]
  refine ⟨_, ((writes_emitSlots keyed keySlots).run ⟨fun slot hs => ?_, fun t ht => ?_⟩).1⟩
  · exact (hwritable slot (hsub slot hs)).congr
      (h.fields _ (hdisjoint slot hs _ slot.field_mem_fields)).symm
  · obtain ⟨slot, hs, ht⟩ := List.mem_filterMap.mp ht
    exact hfits t (List.mem_append_left _
      (List.mem_filterMap.mpr ⟨slot, hsub slot hs, (heq slot hs).symm.trans ht⟩))

/-- A message with what a suite makes of it. -/
def withAlgorithm (m : Message) (suite : UInt16) (signer : Option Signer) (config : Config)
    (now : UInt64) : Message :=
  withTime (withSuite m suite signer) signer config now

theorem frame_withAlgorithm (m : Message) (suite : UInt16) (signer : Option Signer)
    (config : Config) (now : UInt64) :
    Message.Frame [.cryptoSuite, .keyId, .signatureTime] m
      (withAlgorithm m suite signer config now) :=
  ((frame_withSuite m suite signer).mono (by decide)).trans
    ((frame_withTime _ signer config now).mono (by decide))

theorem cryptoSuite_withSuite (m : Message) (suite : UInt16) (signer : Option Signer) :
    (withSuite m suite signer).fields .cryptoSuite = some (.int suite.toUInt64) := by
  unfold withSuite
  simp only
  split
  · rfl
  · rw [Message.fields_setIfSome, if_neg (by decide)]
    rfl

/-- The key identifier is that of the message; where it has none, it is that of the signer. -/
theorem keyId_withSuite (m : Message) (suite : UInt16) (signer : Option Signer) :
    (withSuite m suite signer).fields .keyId = m.fields .keyId ∨
      m.fields .keyId = none ∧ ∃ digest, signer.bind Signer.keyDigest = some digest ∧
        (withSuite m suite signer).fields .keyId = some (.bytes digest) := by
  unfold withSuite
  dsimp only
  split
  · exact .inl rfl
  · next hnone =>
    have hset : (m.set .cryptoSuite (.int suite.toUInt64)).fields .keyId = none := by
      simpa [Message.contains] using hnone
    have hnone : m.fields .keyId = none := hset
    rw [Message.fields_setIfSome, if_pos rfl]
    cases hdigest : signer.bind Signer.keyDigest with
    | none => exact .inl rfl
    | some digest => exact .inr ⟨hnone, digest, rfl, rfl⟩

theorem needsTime_iff : needsTime m signer config = true ↔ m.fields .signatureTime = none ∧
    config.signatureTime = true ∧ (signer.any fun s => s.algorithm != .null) = true := by
  simp only [needsTime, Bool.and_eq_true, Bool.not_eq_true', Message.contains,
    Option.isSome_eq_false_iff, Option.isNone_iff_eq_none, and_assoc]

/-- The time of signing is that of the message; where it has none, it may be the one at which a
signer with a key signed. -/
theorem signatureTime_withTime (m : Message) (signer : Option Signer) (config : Config)
    (now : UInt64) :
    (withTime m signer config now).fields .signatureTime = m.fields .signatureTime ∨
      m.fields .signatureTime = none ∧ (∃ s, signer = some s ∧ s.algorithm ≠ .null) ∧
        (withTime m signer config now).fields .signatureTime = some (.int now) := by
  unfold withTime
  split
  · next hneeds =>
    obtain ⟨hnone, -, hkeyed⟩ := needsTime_iff.mp hneeds
    cases signer with
    | none => cases hkeyed
    | some s => exact .inr ⟨hnone, ⟨s, rfl, by simpa using hkeyed⟩, rfl⟩
  · exact .inl rfl

/-- Each derived field but the signature is set in one step, and left alone by the steps behind
it. -/
theorem fields_of_withAlgorithm {suite : UInt16}
    (h : Message.Frame [.signature] (withAlgorithm m suite signer config now) r) :
    r.fields .cryptoSuite = some (.int suite.toUInt64) ∧
      r.fields .keyId = (withSuite m suite signer).fields .keyId ∧
        r.fields .signatureTime =
          (withTime (withSuite m suite signer) signer config now).fields .signatureTime := by
  have htime := frame_withTime (withSuite m suite signer) signer config now
  have hlater : Message.Frame [.signatureTime, .signature] (withSuite m suite signer) r :=
    (htime.mono (by decide)).trans (h.mono (by decide))
  exact ⟨(hlater.fields _ (by decide)).trans (cryptoSuite_withSuite m suite signer),
    hlater.fields _ (by decide), h.fields _ (by decide)⟩

/-- An algorithm that was written is that of the suite that applies, if one does. -/
theorem algorithm_of_result (h : (algorithm m signer config now).1.result = .ok n) :
    (suiteCode? m signer = .ok none ∧ algorithm m signer config now = (Emit.done 0, m)) ∨
      ∃ suite, suiteCode? m signer = .ok (some suite) ∧ algorithm m signer config now =
        (emitSuite (withAlgorithm m suite signer config now) suite,
          withAlgorithm m suite signer config now) := by
  unfold algorithm at h ⊢
  cases hcode : suiteCode? m signer with
  | error e => rw [hcode] at h; cases h
  | ok suite =>
    cases suite with
    | none => exact .inl ⟨rfl, rfl⟩
    | some suite =>
      refine .inr ⟨suite, rfl, ?_⟩
      rw [hcode] at h
      simp only at h ⊢
      cases hkeys : (emitSlots (withSuite m suite signer) keySlots).result with
      | ok k => rfl
      | error e =>
        -- A fault of a key would be a fault of the suite.
        rw [hkeys] at h
        simp only at h
        obtain ⟨⟨hwritable, hfits⟩, -⟩ := (writes_emitSuite _ suite).ok_of h
        obtain ⟨k, hk⟩ := keySlots_written (frame_withTime _ signer config now) hwritable
          (Tlv.fits_of_mem hfits)
        rw [hkeys] at hk
        cases hk

/-- Without covered bytes there is no signature. -/
theorem signature_none_of_result (h : (signature m signer none).1.result = .ok n) :
    m.fields .signature = none ∧ signature m signer none = (Emit.done 0, m) := by
  cases hv : m.fields .signature with
  | none =>
    refine ⟨rfl, ?_⟩
    simp [signature, Message.contains, hv]
  | some v =>
    simp [signature, Message.contains, hv] at h
    cases h

/-- A signature that was made and written is recorded. -/
theorem sign_eq_of_result {s : Signer} {covered : Bytes} (h : (sign m s covered).1.result = .ok n) :
    ∃ b, s.sign covered = .ok b ∧
      sign m s covered = (emitSignature b, m.set .signature (.bytes b)) := by
  unfold sign at h ⊢
  cases hsign : s.sign covered with
  | error e => rw [hsign] at h; cases h
  | ok b =>
    rw [hsign] at h
    refine ⟨b, rfl, ?_⟩
    cases hemit : (emitSignature b).result with
    | error e => simp only [hemit] at h; cases h
    | ok k => simp only [hemit]

/-- A signature that was written is that of the message, or none where nobody signs, or the one that
the signer made. -/
theorem signature_cases {covered : Bytes}
    (h : (signature m signer (some covered)).1.result = .ok n) :
    (∃ b, m.bytes? .signature = some b ∧
      signature m signer (some covered) = (emitSignature b, m)) ∨
    (m.bytes? .signature = none ∧ signer = none ∧
      signature m signer (some covered) = (Emit.done 0, m)) ∨
    (m.bytes? .signature = none ∧ ∃ s b, signer = some s ∧ s.sign covered = .ok b ∧
      signature m signer (some covered) = (emitSignature b, m.set .signature (.bytes b))) := by
  unfold signature at h ⊢
  cases hb : m.bytes? .signature with
  | some b => exact .inl ⟨b, rfl, rfl⟩
  | none =>
    rw [hb] at h
    cases signer with
    | none => exact .inr (.inl ⟨rfl, rfl, rfl⟩)
    | some s =>
      obtain ⟨b, hsign, heq⟩ := sign_eq_of_result h
      exact .inr (.inr ⟨rfl, s, b, rfl, hsign, heq⟩)

/-- The signature that is written is that of the message, or it is recorded. -/
theorem signature_some_of_result {covered : Bytes}
    (h : (signature m signer (some covered)).1.result = .ok n) :
    Message.Frame [.signature] m (signature m signer (some covered)).2 ∧
      ((signature m signer (some covered)).2.fields .signature = m.fields .signature ∨
        ∃ b, (signature m signer (some covered)).2.fields .signature = some (.bytes b)) ∧
      (signature m signer (some covered)).1.Wrote (Tlv.concat
        (((signature m signer (some covered)).2.bytes? .signature).map
          (Tlv.mk Part.signatureType)).toList) := by
  have hwrote : ∀ b, (emitSignature b).result = .ok n →
      (emitSignature b).Wrote (Tlv.concat [Tlv.mk Part.signatureType b]) := fun b hb => by
    rw [Tlv.concat_cons, Tlv.concat_nil, List.append_nil]
    exact (Emit.writes_element ⟨Part.signatureType, b⟩).wrote_of_result hb
  rcases signature_cases h with ⟨b, hb, heq⟩ | ⟨hb, -, heq⟩ | ⟨-, s, b, -, -, heq⟩
  · rw [heq] at h ⊢
    refine ⟨.refl _ m, .inl rfl, ?_⟩
    rw [hb]
    exact hwrote b h
  · rw [heq]
    refine ⟨.refl _ m, .inl rfl, ?_⟩
    rw [hb]
    exact ⟨rfl, rfl⟩
  · rw [heq] at h ⊢
    exact ⟨.set m (by decide) _, .inr ⟨b, rfl⟩, hwrote b h⟩

end Validation

/-! ## Packets -/

namespace Layout

/-- The elements of a validation, if there is one, in two parts. -/
theorem validationElements_eq (v : Option Validation) :
    validationElements v = (v.map Validation.algorithm).toList ++
      ((v.bind Validation.signature).map (Tlv.mk Part.signatureType)).toList := by
  cases v <;> rfl

/-- The header with which a message is written is that of its layout. -/
theorem headerOf_eq (m : Message) (hheaders : (ofMessage m).headerLength ≤ 255)
    (hpacket : (ofMessage m).packetLength ≤ maxLength) :
    Header.ofMessage m (ofMessage m).packetLength (ofMessage m).headerLength =
      .ok (ofMessage m).header := by
  rw [Header.ofMessage, if_neg (Nat.not_lt.mpr hheaders), if_neg (Nat.not_lt.mpr hpacket)]
  rfl

end Layout

namespace Packet

open Layout

variable {m : Message} {signer : Option Signer} {config : Config} {now : UInt64} {p : Layout}
  {e : Encoded}

/-- All parts were written, and they are those of a layout. -/
structure Parts.Spells (parts : Parts) (p : Layout) : Prop where
  hop : parts.hop.Wrote (Tlv.concat p.hop)
  message : parts.message.Wrote p.messageElement.toBytes
  algorithm : parts.algorithm.Wrote
    (Tlv.concat (p.validation.map Layout.Validation.algorithm).toList)
  signature : parts.signature.Wrote (Tlv.concat
    ((p.validation.bind Layout.Validation.signature).map (Tlv.mk Part.signatureType)).toList)

namespace Parts

variable {parts : Parts}

/-- Parts are written when each of them is. -/
theorem results_of_emit (h : parts.emit.result = .ok ()) :
    (∃ n, parts.hop.result = .ok n) ∧ (∃ n, parts.message.result = .ok n) ∧
      (∃ n, parts.algorithm.result = .ok n) ∧ ∃ n, parts.signature.result = .ok n := by
  unfold emit at h
  obtain ⟨hop, hhop, h⟩ := Emit.result_bind_eq_ok_iff.mp h
  obtain ⟨message, hmessage, h⟩ := Emit.result_bind_eq_ok_iff.mp h
  obtain ⟨algorithm, halgorithm, h⟩ := Emit.result_bind_eq_ok_iff.mp h
  obtain ⟨signature, hsignature, -⟩ := Emit.result_bind_eq_ok_iff.mp h
  exact ⟨⟨hop, hhop⟩, ⟨message, hmessage⟩, ⟨algorithm, halgorithm⟩, ⟨signature, hsignature⟩⟩

theorem Spells.emit (h : parts.Spells p) :
    parts.emit.result = .ok () ∧ parts.emit.bytes = Tlv.concat p.hop ++ p.content := by
  constructor
  · unfold Parts.emit
    refine Emit.result_bind_eq_ok_iff.mpr ⟨_, h.hop.1, ?_⟩
    refine Emit.result_bind_eq_ok_iff.mpr ⟨_, h.message.1, ?_⟩
    refine Emit.result_bind_eq_ok_iff.mpr ⟨_, h.algorithm.1, ?_⟩
    exact Emit.result_bind_eq_ok_iff.mpr ⟨_, h.signature.1, rfl⟩
  · unfold Parts.emit
    rw [Emit.bytes_bind h.hop.1, Emit.bytes_bind h.message.1, Emit.bytes_bind h.algorithm.1,
      Emit.bytes_bind h.signature.1, h.hop.2, h.message.2, h.algorithm.2, h.signature.2, content,
      Tlv.concat_cons, validationElements_eq, Tlv.concat_append]
    exact congrArg _ (congrArg _ (congrArg _ (List.append_nil _)))

theorem Spells.headerLength (h : parts.Spells p) : parts.headerLength = p.headerLength :=
  congrArg (fun b => fixedHeaderLength + b.length) h.hop.2

theorem Spells.packetLength (h : parts.Spells p) : parts.packetLength = p.packetLength := by
  have htotal : Piece.total parts.emit.pieces = (Tlv.concat p.hop ++ p.content).length :=
    congrArg List.length h.emit.2
  rw [Parts.packetLength, htotal, List.length_append, Layout.packetLength, Layout.headerLength,
    Nat.add_assoc]

theorem Spells.signedLength (h : parts.Spells p) :
    parts.signedLength = p.messageElement.size + algorithmSize p.validation := by
  have hmessage : Piece.total parts.message.pieces = p.messageElement.toBytes.length :=
    congrArg List.length h.message.2
  have halgorithm : Piece.total parts.algorithm.pieces =
      (Tlv.concat (p.validation.map Layout.Validation.algorithm).toList).length :=
    congrArg List.length h.algorithm.2
  rw [Parts.signedLength, hmessage, halgorithm, Tlv.length_toBytes]
  cases p.validation <;> simp [algorithmSize]

end Parts

/-- What is put together of parts and a header. -/
def Parts.encoded (parts : Parts) (header : Header) : Encoded where
  wire := Piece.toScatter (.copied header.toBytes :: parts.emit.pieces)
  signed := ⟨parts.headerLength, parts.signedLength⟩
  hashed := ⟨parts.headerLength, parts.packetLength - parts.headerLength⟩
  message := parts.recorded

/-- What was written is the packet of a layout. -/
structure Encoded.Spells (e : Encoded) (p : Layout) : Prop where
  wire : e.wire.toBytes = p.toBytes
  signed : e.signed = p.signed
  hashed : e.hashed = p.hashed

theorem Parts.Spells.encoded {parts : Parts} (h : parts.Spells p) :
    (parts.encoded p.header).Spells p := by
  constructor
  · have hwire : (parts.encoded p.header).wire.toBytes = p.header.toBytes ++ parts.emit.bytes :=
      Piece.toBytes_toScatter _
    rw [hwire, h.emit.2, toBytes, List.append_assoc]
  · rw [Parts.encoded, h.headerLength, h.signedLength]
    rfl
  · rw [Parts.encoded, h.headerLength, h.packetLength]
    exact congrArg (Region.mk p.headerLength) (Nat.add_sub_cancel_left _ _)

theorem checkLength_eq_ok_iff {length limit : Nat} :
    checkLength length limit = .ok () ↔ length ≤ limit := by
  unfold checkLength
  split <;> simp <;> omega

theorem encode_eq_ok_iff_parts :
    encode m signer config now = .ok e ↔
      (Parts.ofMessage m signer config now).emit.result = .ok () ∧
        (Parts.ofMessage m signer config now).packetLength ≤ config.maxPacketLength ∧
          ∃ header, Header.ofMessage (Parts.ofMessage m signer config now).recorded
            (Parts.ofMessage m signer config now).packetLength
            (Parts.ofMessage m signer config now).headerLength = .ok header ∧
              (Parts.ofMessage m signer config now).encoded header = e := by
  unfold encode
  simp only [bind_eq_ok_iff, ← checkLength_eq_ok_iff]
  constructor
  · rintro ⟨_, hresult, _, hcheck, header, hheader, he⟩
    cases he
    exact ⟨hresult, hcheck, header, hheader, rfl⟩
  · rintro ⟨hresult, hcheck, header, hheader, rfl⟩
    exact ⟨(), hresult, (), hcheck, header, hheader, rfl⟩

/-- Parts that are those of the recorded message are put together to its packet, unless this is
too long. -/
theorem encode_eq_ok_iff_of_spells {parts : Parts}
    (hparts : Parts.ofMessage m signer config now = parts)
    (h : parts.Spells (ofMessage parts.recorded)) :
    encode m signer config now = .ok e ↔
      (ofMessage parts.recorded).packetLength ≤ config.maxPacketLength ∧
        (ofMessage parts.recorded).headerLength ≤ 255 ∧
          (ofMessage parts.recorded).packetLength ≤ maxLength ∧
            parts.encoded (ofMessage parts.recorded).header = e := by
  rw [encode_eq_ok_iff_parts, hparts, and_iff_right h.emit.1, h.packetLength, h.headerLength]
  refine and_congr_right fun _ => ?_
  constructor
  · rintro ⟨header, hheader, rfl⟩
    unfold Header.ofMessage at hheader
    split at hheader
    · cases hheader
    · next hheaders =>
      split at hheader
      · cases hheader
      · next hpacket =>
        cases hheader
        exact ⟨Nat.not_lt.mp hheaders, Nat.not_lt.mp hpacket, rfl⟩
  · rintro ⟨hheaders, hpacket, rfl⟩
    exact ⟨_, headerOf_eq _ hheaders hpacket, rfl⟩

/-! ## What is recorded -/

/-- What a message and the one recorded for it have to do with each other: where a suite applies it
is recorded, and what is derived is of the kind that reading gives. -/
structure Recorded (m : Message) (signer : Option Signer) (r : Message) : Prop where
  frame : Message.Frame Validation.derivedFields m r
  cryptoSuite : r.fields .cryptoSuite = m.fields .cryptoSuite ∨
    ∃ suite : UInt16, r.fields .cryptoSuite = some (.int suite.toUInt64)
  keyId : r.fields .keyId = m.fields .keyId ∨ ∃ b, r.fields .keyId = some (.bytes b)
  signatureTime : r.fields .signatureTime = m.fields .signatureTime ∨
    ∃ n, r.fields .signatureTime = some (.int n)
  signature : r.fields .signature = m.fields .signature ∨
    ∃ b, r.fields .signature = some (.bytes b)
  unsigned : r.int? .cryptoSuite = none →
    Validation.suiteCode? m signer = .ok none ∧ m.fields .signature = none ∧ r = m

theorem recorded_none (hcode : Validation.suiteCode? m signer = .ok none)
    (hsignature : m.fields .signature = none) : Recorded m signer m :=
  ⟨.refl _ m, .inl rfl, .inl rfl, .inl rfl, .inl rfl, fun _ => ⟨hcode, hsignature, rfl⟩⟩

theorem int?_of_suiteCode_none (h : Validation.suiteCode? m signer = .ok none) :
    m.int? .cryptoSuite = none := by
  unfold Validation.suiteCode? at h
  cases hn : m.int? .cryptoSuite with
  | none => rfl
  | some n =>
    rw [hn] at h
    simp only at h
    split at h <;> cases h

theorem recorded_withAlgorithm {r : Message} {suite : UInt16}
    (hframe : Message.Frame [.signature] (Validation.withAlgorithm m suite signer config now) r)
    (hsignature : r.fields .signature =
        (Validation.withAlgorithm m suite signer config now).fields .signature ∨
      ∃ b, r.fields .signature = some (.bytes b)) : Recorded m signer r := by
  have hsuiteFrame := Validation.frame_withSuite m suite signer
  have halgorithm := Validation.frame_withAlgorithm m suite signer config now
  obtain ⟨hsuite, hkeyId, htime⟩ := Validation.fields_of_withAlgorithm hframe
  constructor
  · exact (halgorithm.mono (by decide)).trans (hframe.mono (by decide))
  · exact .inr ⟨suite, hsuite⟩
  · rw [hkeyId]
    rcases Validation.keyId_withSuite m suite signer with h | ⟨-, digest, -, h⟩
    · exact .inl h
    · exact .inr ⟨digest, h⟩
  · rw [htime, ← hsuiteFrame.fields .signatureTime (by decide)]
    rcases Validation.signatureTime_withTime (Validation.withSuite m suite signer) signer config now
      with h | ⟨-, -, h⟩
    · exact .inl h
    · exact .inr ⟨now, h⟩
  · rwa [halgorithm.fields .signature (by decide)] at hsignature
  · intro hnone
    rw [Message.int?, hsuite] at hnone
    cases hnone

theorem not_mem_derivedFields {kind : MessageKind} {zone : Zone} {slot : Slot} {f : Field}
    (hs : slot ∈ slots kind zone) (hf : f ∈ slot.fields) (hzone : zone ≠ .suite) :
    f ∉ Validation.derivedFields := by
  have table : zone ≠ .suite → ∀ s ∈ slots kind zone, ∀ f ∈ s.fields,
      f ∉ Validation.derivedFields := by
    cases kind <;> cases zone <;> decide
  exact table hzone slot hs f hf

theorem writes_emitMessage (m : Message) :
    (emitMessage m).Writes
      (m.Writable .body ∧ Tlv.Fits ⟨m.kind.elementType, Tlv.concat (m.elements .body)⟩)
      (Tlv.toBytes ⟨m.kind.elementType, Tlv.concat (m.elements .body)⟩) :=
  Emit.writes_container_concat m.kind.elementType (writes_emitZone m .body)

/-- Headers and message are written alike before and after the recording. -/
theorem Recorded.front {r : Message} (hr : Recorded m signer r)
    (hhop : ∃ n, (m.emitZone .hop).result = .ok n)
    (hmessage : ∃ n, (emitMessage m).result = .ok n) :
    (m.emitZone .hop).Wrote (Tlv.concat (ofMessage r).hop) ∧
      (emitMessage m).Wrote (ofMessage r).messageElement.toBytes := by
  obtain ⟨n, hhop⟩ := hhop
  obtain ⟨k, hmessage⟩ := hmessage
  -- What is derived has no slot outside of the suite.
  have helements : ∀ zone, zone ≠ .suite → r.elements zone = m.elements zone :=
    fun zone hzone => hr.frame.elements fun slot hs f hf => not_mem_derivedFields hs hf hzone
  constructor
  · show (m.emitZone .hop).Wrote (Tlv.concat (r.elements .hop))
    rw [helements .hop nofun]
    exact (writes_emitZone m .hop).wrote_of_result hhop
  · show (emitMessage m).Wrote (Tlv.toBytes ⟨r.kind.elementType, Tlv.concat (r.elements .body)⟩)
    rw [helements .body nofun, hr.frame.kind]
    exact (writes_emitMessage m).wrote_of_result hmessage

/-- Without an algorithm nothing is covered, and the signature is left out. -/
theorem parts_of_none (heq : Validation.algorithm m signer config now = (Emit.done 0, m))
    (hsignature : m.fields .signature = none) :
    Parts.ofMessage m signer config now =
      ⟨m.emitZone .hop, emitMessage m, Emit.done 0, Emit.done 0, m⟩ := by
  have hdone : Validation.signature m signer none = (Emit.done 0, m) := by
    simp [Validation.signature, Message.contains, hsignature]
  simp only [Parts.ofMessage, heq]
  show Parts.mk _ _ _ (Validation.signature m signer none).1
    (Validation.signature m signer none).2 = _
  rw [hdone]

theorem signature_none_of_emit (heq : Validation.algorithm m signer config now = (Emit.done 0, m))
    (h : (Parts.ofMessage m signer config now).emit.result = .ok ()) :
    m.fields .signature = none := by
  obtain ⟨-, -, -, ⟨k, hsignature⟩⟩ := Parts.results_of_emit h
  simp only [Parts.ofMessage, heq] at hsignature
  exact (Validation.signature_none_of_result hsignature).1

/-- Without a suite there is neither a validation nor anything to record. -/
theorem spells_of_none (hcode : Validation.suiteCode? m signer = .ok none)
    (heq : Validation.algorithm m signer config now = (Emit.done 0, m))
    (h : (Parts.ofMessage m signer config now).emit.result = .ok ()) :
    (Parts.ofMessage m signer config now).Spells
        (ofMessage (Parts.ofMessage m signer config now).recorded) ∧
      Recorded m signer (Parts.ofMessage m signer config now).recorded := by
  have hnone := signature_none_of_emit heq h
  obtain ⟨hhop, hmessage, -⟩ := Parts.results_of_emit h
  rw [parts_of_none heq hnone] at hhop hmessage ⊢
  have hr := recorded_none hcode hnone
  obtain ⟨hhop, hmessage⟩ := hr.front hhop hmessage
  have hvalidation : (ofMessage m).validation = none := by
    rw [ofMessage, int?_of_suiteCode_none hcode]
    rfl
  refine ⟨⟨hhop, hmessage, ?_, ?_⟩, hr⟩
  · rw [hvalidation]
    exact ⟨rfl, rfl⟩
  · rw [hvalidation]
    exact ⟨rfl, rfl⟩

/-- The validation that is written stands in what is recorded: its suite, the elements of the suite,
and the signature. -/
theorem validation_ofMessage {r : Message} {suite : UInt16}
    (hframe : Message.Frame [.signature] (Validation.withAlgorithm m suite signer config now) r) :
    (ofMessage r).validation = some ⟨suite,
      (Validation.withAlgorithm m suite signer config now).elements .suite,
      r.bytes? .signature⟩ := by
  obtain ⟨hcode, -, -⟩ := Validation.fields_of_withAlgorithm hframe
  -- The signature has no slot, so that it does not change the suite.
  have helements : r.elements .suite =
      (Validation.withAlgorithm m suite signer config now).elements .suite :=
    hframe.elements fun slot hs => not_mem_of_outer hs (by decide)
  simp only [ofMessage, Message.int?, hcode, helements, Option.map_some,
    UInt16.toUInt16_toUInt64]

/-- With a suite the algorithm is written, and the signature covers message and algorithm. -/
theorem parts_of_suite {suite : UInt16}
    (heq : Validation.algorithm m signer config now =
      (Validation.emitSuite (Validation.withAlgorithm m suite signer config now) suite,
        Validation.withAlgorithm m suite signer config now))
    (h : (Parts.ofMessage m signer config now).emit.result = .ok ()) :
    let timed := Validation.withAlgorithm m suite signer config now
    let covered := (emitMessage m).bytes ++ (Validation.emitSuite timed suite).bytes
    (Validation.emitSuite timed suite).Wrote (Tlv.toBytes
        ⟨Part.algorithmType, Tlv.toBytes ⟨suite, Tlv.concat (timed.elements .suite)⟩⟩) ∧
      Parts.ofMessage m signer config now =
        ⟨m.emitZone .hop, emitMessage m, Validation.emitSuite timed suite,
          (Validation.signature timed signer (some covered)).1,
          (Validation.signature timed signer (some covered)).2⟩ := by
  intro timed covered
  obtain ⟨-, -, ⟨n, halgorithm⟩, -⟩ := Parts.results_of_emit h
  have halgorithm : (Validation.algorithm m signer config now).1.result = .ok n := halgorithm
  have hemit : (Validation.emitSuite timed suite).result = .ok n := by rwa [heq] at halgorithm
  have hwrote := (Validation.writes_emitSuite timed suite).wrote_of_result hemit
  -- The element of the algorithm is not empty.
  have hpos : 0 < n := by
    rw [hwrote.1] at hemit
    cases hemit
    exact List.length_pos_iff.mpr (Tlv.toBytes_ne_nil _)
  refine ⟨hwrote, ?_⟩
  simp only [Parts.ofMessage, heq, hemit, hpos, if_true, timed, covered]

/-- With a suite there are covered bytes, and what is written for a signature is recorded. -/
theorem spells_of_suite {suite : UInt16}
    (heq : Validation.algorithm m signer config now =
      (Validation.emitSuite (Validation.withAlgorithm m suite signer config now) suite,
        Validation.withAlgorithm m suite signer config now))
    (h : (Parts.ofMessage m signer config now).emit.result = .ok ()) :
    (Parts.ofMessage m signer config now).Spells
        (ofMessage (Parts.ofMessage m signer config now).recorded) ∧
      Recorded m signer (Parts.ofMessage m signer config now).recorded := by
  obtain ⟨hwrote, hof⟩ := parts_of_suite heq h
  obtain ⟨hhop, hmessage, -, ⟨k, hsignature⟩⟩ := Parts.results_of_emit h
  rw [hof] at hsignature hhop hmessage ⊢
  dsimp only at hsignature ⊢
  obtain ⟨hframe, hvalue, hsigned⟩ := Validation.signature_some_of_result hsignature
  have hr := recorded_withAlgorithm hframe hvalue
  obtain ⟨hhop, hmessage⟩ := hr.front hhop hmessage
  have hvalidation := validation_ofMessage hframe
  refine ⟨⟨hhop, hmessage, ?_, ?_⟩, hr⟩
  · rw [hvalidation]
    simpa [Layout.Validation.algorithm] using hwrote
  · rw [hvalidation]
    exact hsigned

/-- Parts that were written are those of the message that was recorded. -/
theorem spells_of_result
    (h : (Parts.ofMessage m signer config now).emit.result = .ok ()) :
    (Parts.ofMessage m signer config now).Spells
        (ofMessage (Parts.ofMessage m signer config now).recorded) ∧
      Recorded m signer (Parts.ofMessage m signer config now).recorded := by
  obtain ⟨-, -, ⟨n, halgorithm⟩, -⟩ := Parts.results_of_emit h
  have halgorithm : (Validation.algorithm m signer config now).1.result = .ok n := halgorithm
  rcases Validation.algorithm_of_result halgorithm with ⟨hcode, heq⟩ | ⟨suite, -, heq⟩
  · exact spells_of_none hcode heq h
  · exact spells_of_suite heq h

/-- The parts of a packet that was written are those of the message that was recorded. -/
theorem parts_of_encode (hok : encode m signer config now = .ok e) :
    (Parts.ofMessage m signer config now).emit.result = .ok () ∧
      (Parts.ofMessage m signer config now).recorded = e.message ∧
        (Parts.ofMessage m signer config now).Spells (ofMessage e.message) ∧
          (ofMessage e.message).packetLength ≤ config.maxPacketLength := by
  obtain ⟨hresult, hlimit, header, -, rfl⟩ := encode_eq_ok_iff_parts.mp hok
  obtain ⟨hspells, -⟩ := spells_of_result hresult
  rw [hspells.packetLength] at hlimit
  exact ⟨hresult, rfl, hspells, hlimit⟩

/-- A packet that was written is that of the message that was recorded, and not too long. -/
theorem spells_of_encode (hok : encode m signer config now = .ok e) :
    e.Spells (ofMessage e.message) ∧ Recorded m signer e.message ∧ e.message.Writable .body ∧
      (ofMessage e.message).headerLength ≤ 255 ∧
        (ofMessage e.message).packetLength ≤ maxLength := by
  obtain ⟨hresult, -⟩ := encode_eq_ok_iff_parts.mp hok
  obtain ⟨hspells, hr⟩ := spells_of_result hresult
  obtain ⟨-, hheaders, hpacket, rfl⟩ := (encode_eq_ok_iff_of_spells rfl hspells).mp hok
  obtain ⟨-, ⟨n, hmessage⟩, -⟩ := Parts.results_of_emit hresult
  refine ⟨hspells.encoded, hr, ?_, hheaders, hpacket⟩
  refine hr.frame.writable (fun slot hs f hf => not_mem_derivedFields hs hf nofun) ?_
  exact ((writes_emitMessage m).ok_of hmessage).1

theorem bounded_of_encode (hok : encode m signer config now = .ok e) :
    (ofMessage e.message).Bounded := by
  obtain ⟨-, -, -, hheaders, hpacket⟩ := spells_of_encode hok
  exact ⟨hheaders, hpacket⟩

theorem toNat_toUInt64_le (suite : UInt16) : suite.toUInt64.toNat ≤ 65535 := by
  have := suite.toNat_lt
  rw [UInt16.toNat_toUInt64]
  omega

/-- The code of a suite survives the way through two bytes. -/
theorem toUInt64_toUInt16 {n : UInt64} (h : n.toNat ≤ 65535) : n.toUInt16.toUInt64 = n := by
  apply UInt64.toNat_inj.mp
  rw [UInt16.toNat_toUInt64, UInt64.toNat_toUInt16]
  omega

/-- A suite of the message itself is recorded as it was. -/
theorem withSuite_none {n : UInt64} (hn : m.fields .cryptoSuite = some (.int n))
    (hle : n.toNat ≤ 65535) : Validation.withSuite m n.toUInt16 none = m := by
  have hset : m.set .cryptoSuite (.int n.toUInt16.toUInt64) = m := by
    rw [toUInt64_toUInt16 hle]
    exact Message.set_of_fields hn
  unfold Validation.withSuite
  simp only [hset]
  split <;> rfl

theorem withTime_none (m : Message) (config : Config) (now : UInt64) :
    Validation.withTime m none config now = m := by
  rw [Validation.withTime, if_neg]
  simp [Validation.needsTime]

/-- Without a suite and a signer the parts are those of the message itself. -/
theorem parts_unsigned_none (hv : m.fields .cryptoSuite = none)
    (hsignature : m.fields .signature = none) (config : Config) (now : UInt64) :
    Parts.ofMessage m none config now =
      ⟨m.emitZone .hop, emitMessage m, Emit.done 0, Emit.done 0, m⟩ := by
  have hint : m.int? .cryptoSuite = none := by rw [Message.int?, hv]
  have hcode : Validation.suiteCode? m none = .ok none := by
    simp [Validation.suiteCode?, hint]
  have halgorithm : Validation.algorithm m none config now = (Emit.done 0, m) := by
    rw [Validation.algorithm, hcode]
  exact parts_of_none halgorithm hsignature

/-- Without a signer a suite of the message itself is written, and the signature as it is. -/
theorem parts_unsigned_some {n : UInt64} (hv : m.fields .cryptoSuite = some (.int n))
    (hle : n.toNat ≤ 65535) {k : Nat}
    (hresult : (Validation.emitSuite m n.toUInt16).result = .ok k) (hpos : 0 < k) (config : Config)
    (now : UInt64) :
    Parts.ofMessage m none config now =
      ⟨m.emitZone .hop, emitMessage m, Validation.emitSuite m n.toUInt16,
        ((m.bytes? .signature).map Validation.emitSignature).getD (Emit.done 0), m⟩ := by
  have hint : m.int? .cryptoSuite = some n := by rw [Message.int?, hv]
  have hcode : Validation.suiteCode? m none = .ok (some n.toUInt16) := by
    simp [Validation.suiteCode?, hint, hle]
  have halgorithm : Validation.algorithm m none config now =
      (Validation.emitSuite m n.toUInt16, m) := by
    rw [Validation.algorithm, hcode]
    simp only [withSuite_none hv hle, withTime_none]
    split <;> rfl
  simp only [Parts.ofMessage, halgorithm, hresult, hpos, if_true, Validation.signature]
  cases m.bytes? .signature <;> rfl

/-- Without a signer the parts are those of the message itself. -/
theorem parts_unsigned
    (hsuite : ∀ v, m.fields .cryptoSuite = some v → ∃ n : UInt64, n.toNat ≤ 65535 ∧ v = .int n)
    (hsignature : m.fields .cryptoSuite = none → m.fields .signature = none)
    (hwritable : m.Writable .suite)
    (hfits : ∀ t ∈ validationElements (ofMessage m).validation, t.Fits) (config : Config)
    (now : UInt64) :
    ∃ algorithm signature, Parts.ofMessage m none config now =
      ⟨m.emitZone .hop, emitMessage m, algorithm, signature, m⟩ ∧
        (∃ n, algorithm.result = .ok n) ∧ ∃ n, signature.result = .ok n := by
  cases hv : m.fields .cryptoSuite with
  | none =>
    exact ⟨_, _, parts_unsigned_none hv (hsignature hv) config now, ⟨0, rfl⟩, ⟨0, rfl⟩⟩
  | some v =>
    obtain ⟨n, hle, rfl⟩ := hsuite v hv
    have hvalidation : (ofMessage m).validation =
        some ⟨n.toUInt16, m.elements .suite, m.bytes? .signature⟩ := by
      rw [ofMessage, Message.int?, hv]
      rfl
    rw [hvalidation] at hfits
    obtain ⟨hfits, hsignatureFits⟩ := List.forall_mem_cons.mp hfits
    have hresult := ((Validation.writes_emitSuite m n.toUInt16).run
      ⟨⟨hwritable, Tlv.fits_of_toBytes hfits⟩, hfits⟩).1
    have hpos : 0 < (Tlv.toBytes ⟨Part.algorithmType,
        Tlv.toBytes ⟨n.toUInt16, Tlv.concat (m.elements .suite)⟩⟩).length :=
      List.length_pos_iff.mpr (Tlv.toBytes_ne_nil _)
    refine ⟨_, _, parts_unsigned_some hv hle hresult hpos config now, ⟨_, hresult⟩, ?_⟩
    cases hb : m.bytes? .signature with
    | none => exact ⟨0, rfl⟩
    | some b =>
      rw [hb] at hsignatureFits
      have hfits' : Tlv.Fits ⟨Part.signatureType, b⟩ := by simpa using hsignatureFits
      exact ⟨_, ((Emit.writes_element ⟨Part.signatureType, b⟩).run hfits').1⟩

/-- A message that can be written without a signer is, and nothing is recorded in it. -/
theorem encode_unsigned
    (hsuite : ∀ v, m.fields .cryptoSuite = some v → ∃ n : UInt64, n.toNat ≤ 65535 ∧ v = .int n)
    (hsignature : m.fields .cryptoSuite = none → m.fields .signature = none)
    (hwritable : ∀ zone, m.Writable zone) (hheaders : (ofMessage m).headerLength ≤ 255)
    (hpacket : (ofMessage m).packetLength ≤ maxLength) (now : UInt64) :
    ∃ e, encode m none {} now = .ok e ∧ e.message = m ∧ e.Spells (ofMessage m) := by
  obtain ⟨hmessageFits, hvalidationFits⟩ := List.forall_mem_cons.mp (fits_content hpacket)
  obtain ⟨n, hhop⟩ : ∃ n, (m.emitZone .hop).result = .ok n :=
    ⟨_, ((writes_emitZone m .hop).run ⟨hwritable .hop, fits_hop hpacket⟩).1⟩
  obtain ⟨k, hmessage⟩ : ∃ n, (emitMessage m).result = .ok n :=
    ⟨_, ((writes_emitMessage m).run ⟨hwritable .body, hmessageFits⟩).1⟩
  obtain ⟨algorithm, signature, hof, ⟨i, halgorithm⟩, ⟨j, hsignature⟩⟩ :=
    parts_unsigned hsuite hsignature (hwritable .suite) hvalidationFits {} now
  have hresult : (Parts.ofMessage m none {} now).emit.result = .ok () := by
    rw [hof, Parts.emit]
    refine Emit.result_bind_eq_ok_iff.mpr ⟨n, hhop, ?_⟩
    refine Emit.result_bind_eq_ok_iff.mpr ⟨k, hmessage, ?_⟩
    refine Emit.result_bind_eq_ok_iff.mpr ⟨i, halgorithm, ?_⟩
    exact Emit.result_bind_eq_ok_iff.mpr ⟨j, hsignature, rfl⟩
  -- Nothing was derived, so that the recorded message is the given one.
  obtain ⟨hspells, -⟩ := spells_of_result hresult
  rw [hof] at hspells
  exact ⟨_, (encode_eq_ok_iff_of_spells hof hspells).mpr ⟨hpacket, hheaders, hpacket, rfl⟩, rfl,
    hspells.encoded⟩

end Packet

end NamedContent
