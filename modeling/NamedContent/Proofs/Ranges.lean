import NamedContent.Wire

/-!
# Ranges of packets

A range of a packet has the same bytes whether the packet is one byte string or in segments. So what
is checked or hashed of a message depends on the bytes of its packet only.

* `WireForm.exists_slices`: a range within the packet is there, and has the bytes of the range.
* `Covers.verify`, `Covers.contentHash`: what is verified and what is hashed.
-/

namespace NamedContent

namespace Bytes

/-- A range of two byte strings in a row is a range of each. -/
theorem slice_append (start stop : Nat) (b c : Bytes) :
    slice start stop (b ++ c) =
      slice start stop b ++ slice (start - b.length) (stop - b.length) c := by
  rw [slice, List.take_append, List.drop_append, List.length_take]
  by_cases h : b.length ≤ stop
  · rw [Nat.min_eq_right h]
    rfl
  -- A range that ends in the first one has nothing of the second one.
  · have hzero : stop - b.length = 0 := by omega
    simp [slice, hzero]

theorem slice_eq_nil_of_le {start stop : Nat} (h : stop ≤ start) (b : Bytes) :
    slice start stop b = [] := by
  rw [slice, List.drop_eq_nil_iff, List.length_take]
  omega

theorem slice_of_length_le {start stop : Nat} {b : Bytes} (h : b.length ≤ start) :
    slice start stop b = [] := by
  rw [slice, List.drop_eq_nil_iff, List.length_take]
  omega

/-- A range of a given length is cut off behind its front. -/
theorem slice_add (start length : Nat) (b : Bytes) :
    slice start (start + length) b = (b.drop start).take length := by
  rw [slice, List.drop_take, Nat.add_sub_cancel_left]

end Bytes

namespace Scatter

/-- The parts of the segments in a range are the bytes of the range. -/
theorem flatten_slicesFrom (start stop offset : Nat) (segments : List Bytes) :
    (slicesFrom start stop offset segments).flatten =
      Bytes.slice (start - offset) (stop - offset) segments.flatten := by
  induction segments generalizing offset with
  | nil => simp [slicesFrom, Bytes.slice]
  | cons b rest ih =>
    unfold slicesFrom
    rw [List.flatten_cons, Bytes.slice_append, Nat.sub_sub, Nat.sub_sub]
    split
    · next hbehind =>
      rw [Bytes.slice_eq_nil_of_le (by omega), Bytes.slice_eq_nil_of_le (by omega)]
      rfl
    · split
      · next hfront => rw [ih, Bytes.slice_of_length_le (b := b) (by omega), List.nil_append]
      · rw [List.flatten_cons, ih]

end Scatter

namespace WireForm

theorem length_toBytes (w : WireForm) : w.toBytes.length = w.length := by
  cases w <;> rfl

/-- A range is there when it ends within the packet; its parts are its bytes. -/
theorem exists_slices (w : WireForm) {start stop : Nat} (hle : start ≤ stop)
    (hstop : stop ≤ w.length) :
    ∃ parts, w.slices? start stop = some parts ∧
      parts.flatten = Bytes.slice start stop w.toBytes := by
  cases w with
  | buffer b =>
    have hin : ¬ (stop < start ∨ b.length < stop) := by
      simp only [length] at hstop
      omega
    exact ⟨_, if_neg hin, by simp [toBytes]⟩
  | scatter s =>
    have hin : ¬ (stop < start ∨ s.length < stop) := by
      simp only [length] at hstop
      omega
    rw [slices?, Scatter.slices?, if_neg hin]
    split
    · next heq => exact ⟨[], rfl, (Bytes.slice_eq_nil_of_le (Nat.le_of_eq heq.symm) _).symm⟩
    · exact ⟨_, rfl, Scatter.flatten_slicesFrom start stop 0 s.segments⟩

end WireForm

namespace WireMessage

variable {w : WireMessage} {form : WireForm} {region : Region}

theorem slices_eq (hform : w.form = some form) (hstop : region.stop ≤ form.length) :
    ∃ parts, w.slices region = .ok parts ∧
      parts.flatten = Bytes.slice region.start region.stop form.toBytes := by
  obtain ⟨parts, hparts, hflatten⟩ := form.exists_slices (Nat.le_add_right _ _) hstop
  refine ⟨parts, ?_, hflatten⟩
  simp only [slices, hform, Region.stop] at hparts ⊢
  rw [hparts]

/-- The signed and the hashed bytes of the packet of a message. -/
structure Covers (w : WireMessage) (signed hashed : Bytes) : Prop where
  signed : ∃ region parts, w.signed = some region ∧ w.slices region = .ok parts ∧
    parts.flatten = signed
  hashed : ∃ region parts, w.hashed = some region ∧ w.slices region = .ok parts ∧
    parts.flatten = hashed

theorem covers_of_form {region' : Region} (hform : w.form = some form)
    (hsigned : w.signed = some region) (hsignedStop : region.stop ≤ form.toBytes.length)
    (hhashed : w.hashed = some region') (hhashedStop : region'.stop ≤ form.toBytes.length) :
    w.Covers (Bytes.slice region.start region.stop form.toBytes)
      (Bytes.slice region'.start region'.stop form.toBytes) := by
  rw [form.length_toBytes] at hsignedStop hhashedStop
  obtain ⟨parts, hparts, hflatten⟩ := slices_eq hform hsignedStop
  obtain ⟨parts', hparts', hflatten'⟩ := slices_eq hform hhashedStop
  exact ⟨⟨region, parts, hsigned, hparts, hflatten⟩, ⟨region', parts', hhashed, hparts', hflatten'⟩⟩

namespace Covers

variable {signed hashed : Bytes}

/-- What the message holds does not matter for the ranges of its packet. -/
theorem withMessage (h : w.Covers signed hashed) (m : Message) :
    { w with message := m }.Covers signed hashed := ⟨h.signed, h.hashed⟩

/-- What is verified is the signature of the message over the signed bytes. -/
theorem verify (h : w.Covers signed hashed) (verifier : Verifier) :
    w.verify verifier = match w.message.bytes? .signature with
      | none => .error .noSignature
      | some signature => .ok (verifier.verify signed signature) := by
  obtain ⟨region, parts, hregion, hparts, rfl⟩ := h.signed
  rw [WireMessage.verify]
  cases w.message.bytes? .signature with
  | none => rfl
  | some signature =>
    simp only [signedRegion, hregion, bind, Except.bind, hparts]
    rfl

theorem verify_of_signature (h : w.Covers signed hashed) {signature : Bytes}
    (hsignature : w.message.fields .signature = some (.bytes signature)) (verifier : Verifier) :
    w.verify verifier = .ok (verifier.verify signed signature) := by
  have hbytes : w.message.bytes? .signature = some signature := by rw [Message.bytes?, hsignature]
  rw [h.verify, hbytes]

/-- What identifies a content object is the digest of the hashed bytes. -/
theorem contentHash (h : w.Covers signed hashed) :
    w.contentHash = .ok (Sha256.digest hashed) := by
  obtain ⟨region, parts, hregion, hparts, rfl⟩ := h.hashed
  rw [← Hasher.digest_updates]
  simp only [WireMessage.contentHash, hashedRegion, hregion, bind, Except.bind, hashRegion, hparts]
  rfl

end Covers

/-- A message as it was written. -/
def ofEncoded (e : Packet.Encoded) : WireMessage :=
  { message := e.message, form := some (.scatter e.wire), signed := some e.signed,
    hashed := some e.hashed }

theorem encode_eq_ofEncoded {signer : Option Signer} {config : Config} {now : UInt64}
    {e : Packet.Encoded} (h : Packet.encode w.message signer config now = .ok e) :
    w.encode signer config now = .ok (ofEncoded e) := by
  rw [encode, h]
  rfl

theorem exists_decoded {b : Bytes} (h : decode b = .ok w) :
    ∃ d, Packet.decode b = .ok d ∧ w = ofDecoded d := by
  unfold decode at h
  cases hd : Packet.decode b with
  | error e => rw [hd] at h; cases h
  | ok d => rw [hd] at h; cases h; exact ⟨d, rfl, rfl⟩

end WireMessage

end NamedContent
