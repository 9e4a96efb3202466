import NamedContent.Proofs.Normal

/-!
# Packets written anew

* `encode_decoded`: every accepted packet can be written anew, which loses nothing but a key name
  that points to nothing; what is then read is written in the same bytes again.
-/

namespace NamedContent

/-- A message without a key name that points to nothing. -/
def Message.withoutEmptyLink (m : Message) : Message :=
  if m.keyLink?.any Link.isEmpty then m.erase .keyName else m

theorem Message.frame_withoutEmptyLink (m : Message) :
    Message.Frame [.keyName] m m.withoutEmptyLink := by
  unfold withoutEmptyLink
  split
  · refine ⟨rfl, fun f hf => ?_, fun zone => by cases zone <;> rfl⟩
    exact (m.fields_erase .keyName f).trans (if_neg fun h => hf (List.mem_singleton.mpr h))
  · exact .refl _ m

/-- Without its link where it is empty, a key name reads as the normal form tells. -/
theorem Slot.Reads.withoutEmptyLink {slot : Slot} {m : Message} {o : Option Bytes}
    (hproper : slot.Proper) (hlink : slot.form = .link) (h : slot.Reads o m)
    (haccepts : ∀ b ∈ o, slot.form.Accepts b) (hfits : ∀ b ∈ o, b.length ≤ maxLength) :
    slot.Reads (o.bind slot.normal?) m.withoutEmptyLink := by
  have hkeyLink := h.keyLink? hproper hlink
  unfold Message.withoutEmptyLink
  cases o with
  | none =>
    rw [hkeyLink]
    exact h
  | some b =>
    rw [hkeyLink]
    show slot.Reads (slot.normal? b) (if (Link.denoted b).isEmpty then m.erase .keyName else m)
    cases hc : slot.normal? b with
    | none =>
      have hempty : (Link.denoted b).isEmpty = true := by
        simpa [Slot.normal?, hlink] using hc
      have hparts : (Link.denoted b).keyId = none ∧ (Link.denoted b).contentHash = none := by
        simp only [Link.isEmpty, Bool.and_eq_true, Option.isNone_iff_eq_none] at hempty
        exact ⟨hempty.1.2, hempty.2⟩
      rw [if_pos hempty]
      intro f hf
      rw [Message.fields_erase]
      split
      · rfl
      · next hne =>
        rw [h f hf, Option.bind_some, Slot.value?, hproper hlink, if_neg hne, hparts.1, hparts.2]
        exact ite_self _
    | some c =>
      have hkept : ¬ (Link.denoted b).isEmpty = true := by
        intro hempty
        simp [Slot.normal?, hlink, hempty] at hc
      rw [if_neg hkept]
      intro f hf
      rw [h f hf, Option.bind_some, Option.bind_some]
      exact ((Slot.normal?_eq_some (haccepts b rfl) (hfits b rfl) hc).2.2 f).symm

theorem keyName_mem_fields {kind : MessageKind} {zone : Zone} {slot : Slot}
    (hs : slot ∈ slots kind zone) : Field.keyName ∈ slot.fields ↔ slot.form = .link := by
  have table : ∀ s ∈ slots kind zone, Field.keyName ∈ s.fields ↔ s.form = .link := by
    cases kind <;> cases zone <;> decide
  exact table slot hs

/-- A message without an empty link, and with another fixed header, is that of the normal form. -/
theorem Layout.Carries.normal {p : Layout} {m : Message} (h : p.Carries m) (hp : p.Valid) :
    p.normal.Carries
      (m.withoutEmptyLink.set .fixedHeader (.bytes p.normal.header.toBytes)) := by
  have hframe : Message.Frame [.keyName, .fixedHeader] m
      (m.withoutEmptyLink.set .fixedHeader (.bytes p.normal.header.toBytes)) :=
    (m.frame_withoutEmptyLink.mono (by decide)).trans (.set _ (by decide) _)
  have hlinkSlot : ⟨.keyName, 0x000E, .link⟩ ∈ NamedContent.slots p.kind .suite :=
    (by decide : (⟨.keyName, 0x000E, .link⟩ : Slot) ∈ suiteSlots)
  constructor
  · exact hframe.kind.trans h.kind
  · intro zone slot hs
    have hreads := h.slots zone slot hs
    have hfits : ∀ b ∈ Tlv.valueOf? (p.elements zone) slot.type, b.length ≤ maxLength :=
      fun b hb => Layout.fits_elements hp.packet zone _ (Tlv.mem_of_valueOf? hb)
    have hheader : ∀ f ∈ slot.fields, f ≠ .fixedHeader := by
      rintro f hf rfl
      exact not_mem_outerFields hs hf (by decide)
    rw [Layout.valueOf?_normal hp hs]
    intro f hf
    rw [Message.fields_set, if_neg (hheader f hf)]
    by_cases hlink : slot.form = .link
    · exact hreads.withoutEmptyLink (proper_of_mem hs) hlink ((hp.accepts zone).value hs) hfits f hf
    · have hne : f ∉ [Field.keyName] := by
        intro hmem
        rw [List.mem_singleton.mp hmem] at hf
        exact hlink ((keyName_mem_fields hs).mp hf)
      have hnormal : slot.normal? = some := funext fun b => if_neg hlink
      rw [m.frame_withoutEmptyLink.fields f hne, hreads f hf, hnormal, Option.bind_fun_some]
  · intro f hf
    have hne : f ≠ .keyName := by
      rintro rfl
      exact hf .suite _ hlinkSlot (by decide)
    rw [Message.fields_set]
    split
    · next heq =>
      rw [heq]
      rfl
    · next hheader =>
      have hname : f ∉ [Field.keyName] := fun hmem => hne (List.mem_singleton.mp hmem)
      rw [m.frame_withoutEmptyLink.fields f hname, h.outer f hf, p.outer_normal hheader]
  · intro zone
    rw [hframe.extras, h.extras zone]
    exact (Layout.unknown_normal hp zone).symm

namespace Packet

variable {p : Layout} {m : Message} {b : Bytes} {d : Decoded}

/-- What was read is written in the normal form of its packet. -/
theorem encode_of_carries (h : p.Carries m) (hp : p.Valid) (now : UInt64) :
    ∃ e, encode m none {} now = .ok e ∧ e.message = m ∧ e.Spells p.normal := by
  have hlayout := h.ofMessage_eq hp
  rw [← hlayout]
  refine encode_unsigned ?_ ?_ ?_ ?_ ?_ now
  · intro v hv
    rw [h.outer_of_mem (by decide)] at hv
    obtain ⟨w, -, rfl⟩ := Option.map_eq_some_iff.mp hv
    exact ⟨_, toNat_toUInt64_le w.suite, rfl⟩
  · intro hnone
    rw [h.outer_of_mem (by decide)] at hnone ⊢
    have hvalidation : p.validation = none := Option.map_eq_none_iff.mp hnone
    show Layout.signatureValue? p.validation = none
    rw [hvalidation]
    rfl
  · intro zone slot hs
    rw [h.kind] at hs
    refine (h.slots zone slot hs).writable ((hp.accepts zone).value hs) ?_
    -- A required name was there.
    intro hform hnone
    have table : ∀ s ∈ slots p.kind zone, s.form = .name true →
        zone = .body ∧ p.kind ≠ .control ∧ s.type = 0x0000 := by
      cases p.kind <;> cases zone <;> decide
    obtain ⟨rfl, hkind, htype⟩ := table slot hs hform
    obtain ⟨t, ht, ht'⟩ := hp.named hkind
    exact Tlv.valueOf?_eq_none_iff.mp hnone t ht (ht'.trans htype.symm)
  · rw [hlayout]
    exact hp.normal.headers
  · rw [hlayout]
    exact hp.normal.packet

/-- Every accepted packet is written anew in no more bytes. What is read from those is the same
message, but for the fixed header and a key name that points to nothing, and it is written in the
same bytes again. -/
theorem encode_decoded (hok : decode b = .ok d) (now now' : UInt64) :
    ∃ e, encode d.message none {} now = .ok e ∧ e.message = d.message ∧
      e.wire.toBytes.length ≤ d.packet.length ∧
        ∃ d', decode e.wire.toBytes = .ok d' ∧
          d'.message = d.message.withoutEmptyLink.set .fixedHeader
            (.bytes (e.wire.toBytes.take fixedHeaderLength)) ∧
          ∃ e', encode d'.message none {} now' = .ok e' ∧ e'.message = d'.message ∧
            e'.wire.toBytes = e.wire.toBytes := by
  obtain ⟨p, hp, behind, -, rfl⟩ := exists_layout_of_decode hok
  obtain ⟨e, hencoded, hmessage, hspells⟩ := encode_of_carries p.carries_message hp now
  have hread := decode_toBytes_append hp.normal []
  rw [List.append_nil, ← hspells.wire] at hread
  obtain ⟨e', hencoded', hmessage', hspells'⟩ :=
    encode_of_carries p.normal.carries_message hp.normal now'
  refine ⟨e, hencoded, hmessage, ?_, _, hread, ?_, e', hencoded', hmessage', ?_⟩
  · rw [hspells.wire, Layout.length_toBytes, Layout.length_toBytes]
    exact Layout.packetLength_normal_le hp
  · rw [hspells.wire, Layout.take_toBytes]
    exact p.normal.carries_message.eq (p.carries_message.normal hp)
  · rw [hspells'.wire, hspells.wire, Layout.normal_normal hp]

/-! A packet that is not in its normal form: the payload stands before the name, the hop limit and
the flags have no meaning for a content object, and the key name points to nothing. -/

namespace Sample

def shuffled : Layout where
  kind := .contentObject
  hopLimit := 5
  returnCode := 0
  flags := 3
  hop := []
  body := [⟨0x0001, [0x68, 0x69]⟩, ⟨0x0000, [0x00, 0x01, 0x00, 0x01, 0x61]⟩]
  validation := some ⟨0x0002, [⟨0x000E, []⟩], none⟩

theorem valid_shuffled : shuffled.Valid := by
  refine ⟨by decide, by decide, fun zone => ⟨?_, ?_⟩, by decide⟩
  · cases zone <;> decide
  · intro slot hs t ht htype
    cases zone with
    | hop => cases ht
    | body =>
      simp only [Layout.elements, shuffled, List.mem_cons, List.not_mem_nil, or_false] at ht
      rcases ht with rfl | rfl
      · obtain rfl : slot = ⟨.payload, 0x0001, .payload false⟩ :=
          eq_of_type hs (by decide) htype.symm
        trivial
      · obtain rfl : slot = ⟨.name, 0x0000, .name true⟩ :=
          eq_of_type hs (by decide) htype.symm
        have hfits : ∀ t ∈ Name.elements ⟨[Segment.ofType .name [0x61]]⟩, t.Fits := by decide
        exact Name.isWire_wire hfits
    | suite =>
      obtain rfl := List.mem_singleton.mp ht
      obtain rfl : slot = ⟨.keyName, 0x000E, .link⟩ := eq_of_type hs (by decide) htype.symm
      exact ⟨[], fun t ht => (by cases ht), rfl, Tlv.once_nil _, fun t ht => by cases ht⟩

end Sample

theorem encode_decoded_sample :
    ∃ d, decode Sample.shuffled.toBytes = .ok d ∧
      ∃ e, encode d.message none {} 7 = .ok e ∧ e.message = d.message ∧
        e.wire.toBytes.length ≤ d.packet.length ∧
          ∃ d', decode e.wire.toBytes = .ok d' ∧
            d'.message = d.message.withoutEmptyLink.set .fixedHeader
              (.bytes (e.wire.toBytes.take fixedHeaderLength)) ∧
            ∃ e', encode d'.message none {} 8 = .ok e' ∧ e'.message = d'.message ∧
              e'.wire.toBytes = e.wire.toBytes := by
  have hread := decode_toBytes_append Sample.valid_shuffled []
  rw [List.append_nil] at hread
  exact ⟨_, hread, encode_decoded hread 7 8⟩

end Packet

end NamedContent
