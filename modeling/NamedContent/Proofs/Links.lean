import NamedContent.Proofs.Held
import NamedContent.Proofs.Manifests
import NamedContent.Proofs.NameWire
import NamedContent.Proofs.Objects

/-!
# Links there and back

A link is written without what is absent, an empty name included, and in one order; it is read in
any order and with elements of other types in between. So a link without parameters is read from its
written form, and what was read from any other form is written in no more bytes. The same bytes are
the payload of the object that publishes the link, which the object brings through any packet, also
when the labels of its own name have parameters that the packet does not tell.

* `Link.toBytes_eq_ok_iff`, `Link.fits_denoted`: which links are written, and that those that were
  read are.
* `Link.exists_decoded_of_object`: every packet of such an object is read.
* `Link.written_reads_back`: all of this together.
-/

namespace NamedContent

/-! ## Cursors -/

namespace Cursor

variable {c : Cursor}

/-- A cursor reads as a link what is left. -/
theorem fst_link (c : Cursor) : c.link.1 = Link.ofWire c.rest := by
  unfold link Link.ofWire Tlv.Reading.result
  dsimp only
  split
  · next h => rw [h]; rfl
  · next e h => rw [h]; rfl
  · next t type h => rw [h]; rfl
  · next t e h => rw [h]; rfl

end Cursor

/-! ## Links -/

namespace Link

variable {link : Link} {b : Bytes}

/-- A link is written when each of its parts is short enough. -/
theorem toBytes_eq_ok_iff :
    link.toBytes = .ok b ↔ (∀ t ∈ link.elements, t.Fits) ∧ b = link.wire := by
  have hwrites := link.writes_emit
  unfold toBytes
  by_cases hfits : ∀ t ∈ link.elements, t.Fits
  · obtain ⟨hresult, hbytes⟩ := hwrites.run hfits
    rw [hresult, hbytes, and_iff_right hfits]
    simp [eq_comm]
  · obtain ⟨e, he⟩ := hwrites.stuck hfits
    rw [he]
    constructor
    · nofun
    · rintro ⟨h, -⟩
      exact absurd h hfits

theorem wire_eq_nil_iff : link.wire = [] ↔ link.isEmpty = true := by
  rw [← elements_eq_nil_iff, wire]
  cases link.elements with
  | nil => simp
  | cons t ts => simp [Tlv.toBytes_ne_nil]

/-- The parts of a link that was read are among the elements it was read from. -/
theorem fits_denoted (h : IsWire b) : ∀ t ∈ (denoted b).elements, t.Fits := by
  obtain ⟨ts, hfits, rfl, haccepts⟩ := h
  rw [denoted, Tlv.scan_concat hfits, elements_ofElements haccepts]
  exact fun t ht => hfits t (mem_normal.mp ht).1

/-- What was read is written in no more bytes, and read again. -/
theorem toBytes_of_ofWire (h : ofWire b = .ok link) :
    ∃ b', link.toBytes = .ok b' ∧ b'.length ≤ b.length ∧ ofWire b' = .ok link := by
  obtain ⟨hplain, hle⟩ := plain_of_ofWire h
  obtain ⟨hwire, rfl⟩ := ofWire_eq_ok_iff.mp h
  have hfits := fits_denoted hwire
  exact ⟨_, toBytes_eq_ok_iff.mpr ⟨hfits, rfl⟩, hle, ofWire_wire hplain hfits⟩

/-- No part is read a second time. -/
theorem ofWire_of_twice {type : UInt16} (htype : type ∈ types)
    (htwice : 2 ≤ Tlv.countOf (Tlv.scan b).1 type) : ∃ err, ofWire b = .error err := by
  cases hof : ofWire b with
  | error err => exact ⟨err, rfl⟩
  | ok link =>
    obtain ⟨⟨ts, hfits, rfl, haccepts⟩, -⟩ := ofWire_eq_ok_iff.mp hof
    rw [Tlv.scan_concat hfits] at htwice
    exact absurd (haccepts.once type htype) (Nat.not_le.mpr htwice)

end Link

/-! ## Links in content objects -/

/-- A packet is read if it is also written for a well-formed message. -/
theorem Packet.exists_decoded_of_slot {m r : Message} {slot : Slot} {signer : Option Signer}
    {config : Config} {now : UInt64} {e : Encoded} (hs : slot ∈ slots m.kind .body)
    (h : Message.Frame [slot.field] m r) (hslot : (slot.emit m).SameBytes (slot.emit r))
    (hr : r.WellFormed signer) (hok : encode m signer config now = .ok e) :
    ∃ d, decode e.wire.toBytes = .ok d := by
  rcases encode_of_slot hs h hslot fun _ => rfl with ⟨err, herr, -⟩ | ⟨e₁, e₂, hok₁, hok₂, hsame, -⟩
  · rw [hok] at herr
    cases herr
  · obtain rfl := Except.ok.inj (hok.symm.trans hok₁)
    obtain ⟨hspells, -⟩ := spells_of_encode hok₂
    have hread := decode_toBytes_append (valid_of_encode hr hok₂) []
    rw [List.append_nil, ← hspells.wire, hsame.wire] at hread
    exact ⟨_, hread⟩

namespace Link

variable {link : Link} {b : Bytes} {o : ContentObject}

/-- The object that publishes a link of given bytes. -/
def object (name : Name) (b : Bytes) : ContentObject :=
  (ContentObject.create name .link).setPayload .link b

/-- Whatever the name of the object is, the packet is read: it has no place for parameters, and
without them the packet tells every field of the object. -/
theorem exists_decoded_of_object {name : Name} {signer : Option Signer} {config : Config}
    {now : UInt64} {e : Packet.Encoded}
    (hok : Packet.encode (object name b).message signer config now = .ok e) :
    ∃ d, Packet.decode e.wire.toBytes = .ok d := by
  let bare := object name.withoutParameters b
  have hs : ⟨.name, 0x0000, .name true⟩ ∈ slots (object name b).message.kind .body :=
    List.mem_cons_self
  have hframe : Message.Frame [.name] (object name b).message bare.message := by
    refine ⟨rfl, fun f hf => ?_, fun zone => by cases zone <;> rfl⟩
    cases f <;> first | rfl | exact absurd (by decide) hf
  have hslot : Slot.emit ⟨.name, 0x0000, .name true⟩ bare.message =
      Slot.emit ⟨.name, 0x0000, .name true⟩ (object name b).message :=
    name.emit_withoutParameters 0x0000
  have hsound : bare.Sound :=
    .setPayload (.messageOf name.plain_withoutParameters .link none) .link b
  have hunsigned : bare.message.Unsigned := fun f hf => by
    cases f <;> first | rfl | exact absurd hf (by decide)
  exact Packet.exists_decoded_of_slot hs hframe (.of_eq hslot)
    (hsound.tellable.wellFormed hunsigned signer) hok

/-- An object publishes the link of its payload. -/
theorem ofContentObject_of_brings (h : o.Brings .link b) (hread : ofWire b = .ok link) :
    ofContentObject o = .ok link := by
  unfold ofContentObject
  rw [if_neg (not_not_intro h.payloadType_eq), h.payload?_eq, Option.getD_some, hread]

/-- A link is published by an object: it is taken from the object, and from every packet in which
the object is sent, whoever signed it and under whatever configuration. -/
structure PublishedBy (link : Link) (o : ContentObject) : Prop where
  here : ofContentObject o = .ok link
  sent : ∀ signer config now e, Packet.encode o.message signer config now = .ok e →
    ∃ d o', Packet.decode e.wire.toBytes = .ok d ∧ ContentObject.ofMessage d.message = .ok o' ∧
      ofContentObject o' = .ok link

theorem publishedBy_object (hread : ofWire b = .ok link) (name : Name) :
    link.PublishedBy (object name b) := by
  have hbrings : (object name b).Brings .link b := .setPayload _ _ b
  refine ⟨ofContentObject_of_brings hbrings hread, fun signer config now e hok => ?_⟩
  obtain ⟨d, hd⟩ := exists_decoded_of_object hok
  obtain ⟨o', ho', hbrings'⟩ := hbrings.sent rfl hok hd
  exact ⟨d, o', hd, ho', ofContentObject_of_brings hbrings' hread⟩

/-- Links there and back. Nothing is written exactly for the empty link. A link without parameters
is read from what is written for it, and taken from the object that publishes it under any name,
also once the object was sent. Whatever was read is written in no more bytes, and read again; and
nothing is read that has a part twice. A cursor reads the same links. -/
theorem written_reads_back :
    (∀ (link : Link) b, link.toBytes = .ok b → (b = [] ↔ link.isEmpty = true)) ∧
    (∀ (link : Link) b, link.name.Plain → link.toBytes = .ok b → ofWire b = .ok link ∧
      ∀ name, ∃ o, link.toContentObject name = .ok o ∧ link.PublishedBy o) ∧
    (∀ b link, ofWire b = .ok link →
      ∃ b', link.toBytes = .ok b' ∧ b'.length ≤ b.length ∧ ofWire b' = .ok link) ∧
    (∀ b, ∀ type ∈ types, 2 ≤ Tlv.countOf (Tlv.scan b).1 type → ∃ err, ofWire b = .error err) ∧
    ∀ c : Cursor, c.link.1 = ofWire c.rest := by
  refine ⟨fun link b hb => ?_, fun link b hplain hb => ?_, fun _ _ => toBytes_of_ofWire,
    fun _ _ => ofWire_of_twice, Cursor.fst_link⟩
  · obtain ⟨-, rfl⟩ := toBytes_eq_ok_iff.mp hb
    exact wire_eq_nil_iff
  · obtain ⟨hfits, hwire⟩ := toBytes_eq_ok_iff.mp hb
    have hread : ofWire b = .ok link := hwire ▸ ofWire_wire hplain hfits
    refine ⟨hread, fun name => ⟨object name b, ?_, publishedBy_object hread name⟩⟩
    rw [toContentObject, hb]
    rfl

/-! A link with an empty restriction, published under a name with a parameter; and a link among
other elements, in front of an empty name. -/

namespace Sample

/-- The link to what is below a name, signed by the key with the empty identifier. -/
def target : Link := { name := Manifest.Sample.site, keyId := some [] }

/-- What is written for the link. -/
def written : Bytes := [0, 0, 0, 5, 0, 1, 0, 1, 0x61, 0, 1, 0, 0]

/-- A digest, an unknown element and an empty name. -/
def mixed : Bytes := [0, 2, 0, 1, 7, 0, 9, 0, 0, 0, 0, 0, 0]

end Sample

theorem written_reads_back_sample :
    Sample.target.toBytes = .ok Sample.written ∧ ofWire Sample.written = .ok Sample.target ∧
      (Sample.written = [] ↔ Sample.target.isEmpty = true) ∧
      (∃ e d o', Packet.encode (object Name.Sample.titled Sample.written).message
          (some Packet.Sample.frontSigner) {} 7 = .ok e ∧
        Packet.decode e.wire.toBytes = .ok d ∧ ContentObject.ofMessage d.message = .ok o' ∧
          ofContentObject o' = .ok Sample.target) ∧
      (ofWire Sample.mixed = .ok { contentHash := some [7] } ∧
        ∃ b', toBytes { contentHash := some [7] } = .ok b' ∧ b'.length ≤ Sample.mixed.length ∧
          ofWire b' = .ok { contentHash := some [7] }) ∧
      ∃ err, ofWire (Sample.written ++ [0, 1, 0, 0]) = .error err := by
  obtain ⟨hempty, hback, hagain, htwice, -⟩ := written_reads_back
  have hplain : Sample.target.name.Plain := List.forall_mem_singleton.mpr rfl
  have hb : Sample.target.toBytes = .ok Sample.written := by decide +kernel
  have hmixed : ofWire Sample.mixed = .ok { contentHash := some [7] } := by decide +kernel
  obtain ⟨hread, hobject⟩ := hback _ _ hplain hb
  obtain ⟨o, ho, hpublished⟩ := hobject Name.Sample.titled
  obtain rfl : object Name.Sample.titled Sample.written = o := by
    rw [toContentObject, hb] at ho
    exact Except.ok.inj ho
  obtain ⟨e, hok⟩ : ∃ e, Packet.encode (object Name.Sample.titled Sample.written).message
      (some Packet.Sample.frontSigner) {} 7 = .ok e := ⟨_, rfl⟩
  obtain ⟨d, o', hd, ho', hlink⟩ := hpublished.sent _ _ _ _ hok
  exact ⟨hb, hread, hempty _ _ hb, ⟨e, d, o', hok, hd, ho', hlink⟩, ⟨hmixed, hagain _ _ hmixed⟩,
    htwice _ keyIdType (by decide) (by decide +kernel)⟩

end Link

end NamedContent
