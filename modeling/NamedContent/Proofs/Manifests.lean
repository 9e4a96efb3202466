import NamedContent.Proofs.ManifestWire
import NamedContent.Proofs.Normal
import NamedContent.Proofs.Signing

/-!
# Manifests there and back

A manifest is read from more byte strings than the one it is written as: numbers may have zeros in
front, what is unknown is skipped, and the elements of a section stand in any order. Whatever was
read is sound, and each element has left at most one that is not longer than itself. So what was
read can be written, which takes no more bytes (`Manifest.sound_of_ofBytes`).

* `ManifestSection.Built.sound`, `Manifest.Built.sound`: what is made by the operations is sound.
* `Manifest.toBytes_reads_back`: what is written for a manifest is read back, alone and in a content
  object; and what was read is written.
-/

namespace NamedContent

/-! ## Entries that were read -/

/-- A number is not longer in its shortest form. -/
theorem ManifestSection.length_minimal_le_of_number {b : Bytes} {n : UInt64}
    (h : number b = .ok n) : (Bytes.minimal n).length ≤ b.length := by
  unfold number Bytes.toUInt64? at h
  split at h
  · next hread =>
    cases h
    split at hread
    · cases hread
    · next hlength =>
      cases hread
      simp only [Bool.or_eq_true, List.isEmpty_iff, decide_eq_true_eq, not_or] at hlength
      rw [Bytes.minimal_ofNat_toNat hlength.1 (by omega)]
      exact Bytes.length_dropZeros_le b
  · cases h

theorem Name.plain_of_ofWire {b : Bytes} {name : Name} (h : ofWire b = .ok name) :
    name.Plain ∧ name.wire.length ≤ b.length := by
  obtain ⟨hplain, -, rfl⟩ := ofWire_eq_ok_iff_wire.mp h
  exact ⟨hplain, Nat.le_refl _⟩

theorem Link.plain_of_ofWire {b : Bytes} {link : Link} (h : ofWire b = .ok link) :
    link.name.Plain ∧ link.wire.length ≤ b.length := by
  obtain ⟨hwire, rfl⟩ := ofWire_eq_ok_iff.mp h
  exact ⟨plain_denoted hwire, length_wire_denoted_le hwire⟩

namespace ManifestSection

variable {t : Tlv} {b : Bytes}

theorem lift_eq_ok_iff {α : Type} {x : Except DecodeError α} {a : α} :
    lift x = .ok a ↔ x = .ok a := by
  cases x <;> simp [lift, Except.mapError]

/-- The elements of a named chunk of which some parts were met. -/
def NameDraft.elements (d : NameDraft) : List Tlv :=
  (d.chunk.map fun n => ⟨chunkType, Bytes.minimal n⟩).toList ++
    (d.name.map fun name => ⟨Link.nameType, name.wire⟩).toList

theorem NameDraft.add_grows {d d' : NameDraft} (hplain : ∀ name ∈ d.name, name.Plain)
    (h : d.add t = .ok d') :
    (∀ name ∈ d'.name, name.Plain) ∧ Tlv.Grows t d.elements d'.elements := by
  obtain ⟨chunk, name⟩ := d
  unfold add at h
  split at h
  · cases chunk with
    | some n => cases h
    | none =>
      obtain ⟨n, hread, rfl⟩ := map_eq_ok_iff.mp h
      have hle := length_minimal_le_of_number hread
      exact ⟨hplain, by simpa [elements] using Tlv.Grows.insert [] hle _⟩
  · split at h
    · cases name with
      | some _ => cases h
      | none =>
        obtain ⟨name, hread, rfl⟩ := map_eq_ok_iff.mp h
        obtain ⟨hname, hle⟩ := Name.plain_of_ofWire hread
        exact ⟨by simpa using hname, by simpa [elements] using Tlv.Grows.insert _ hle []⟩
    · cases h
      exact ⟨hplain, .same _⟩

/-- A named chunk that was read is written in no more bytes. -/
theorem plain_of_nameOfWire {entry : NameEntry} (h : nameOfWire b = .ok entry) :
    entry.name.Plain ∧ entry.toTlv.value.length ≤ b.length := by
  obtain ⟨d, hread, hentry⟩ := bind_eq_ok_iff.mp h
  obtain ⟨hplain, hwithin⟩ := Tlv.result_read_grows (fun d => ∀ name ∈ d.name, name.Plain)
    NameDraft.elements (fun _ _ _ => NameDraft.add_grows) hread nofun rfl
  obtain ⟨chunk, name⟩ := d
  cases chunk <;> cases name <;> cases hentry
  exact ⟨hplain _ rfl, hwithin.length⟩

/-- The elements of a digest entry of which some parts were met. -/
def HashDraft.elements (d : HashDraft) : List Tlv :=
  (d.index.map fun n => ⟨indexType, Bytes.minimal n⟩).toList ++
    (d.digest.map fun digest => ⟨digestType, digest⟩).toList

theorem HashDraft.add_grows {d d' : HashDraft} (h : d.add t = .ok d') :
    Tlv.Grows t d.elements d'.elements := by
  obtain ⟨index, digest⟩ := d
  unfold add at h
  split at h
  · cases index with
    | some n => cases h
    | none =>
      obtain ⟨n, hread, rfl⟩ := map_eq_ok_iff.mp h
      have hle := length_minimal_le_of_number hread
      simpa [elements] using Tlv.Grows.insert [] hle _
  · split at h
    · cases digest with
      | some _ => cases h
      | none =>
        cases h
        have hle : (Tlv.mk digestType t.value).value.length ≤ t.value.length := Nat.le_refl _
        simpa [elements] using Tlv.Grows.insert _ hle []
    · cases h
      exact .same _

/-- A digest entry that was read is written in no more bytes. -/
theorem length_le_of_hashOfWire {entry : HashEntry} (h : hashOfWire b = .ok entry) :
    entry.toTlv.value.length ≤ b.length := by
  obtain ⟨d, hread, hentry⟩ := bind_eq_ok_iff.mp h
  obtain ⟨-, hwithin⟩ := Tlv.result_read_grows (fun _ => True) HashDraft.elements
    (fun _ _ _ _ hadd => ⟨trivial, HashDraft.add_grows hadd⟩) hread trivial rfl
  obtain ⟨index, digest⟩ := d
  cases index <;> cases digest <;> cases hentry
  simpa [HashEntry.toTlv, HashEntry.elements, HashDraft.elements] using hwithin.length

/-! ## Sections -/

section Sections

variable {s s' : ManifestSection}

theorem kept_eq_ok_iff {outcome : Except ManifestError Unit × ManifestSection} :
    kept outcome = .ok s ↔ outcome = (.ok (), s) := by
  obtain ⟨result, after⟩ := outcome
  cases result <;> simp [kept]

theorem addHash_eq_ok_iff {index : Nat} {digest : Bytes} :
    s.addHash index digest = (.ok (), s') ↔
      index < s.names.length ∧ s' = { s with hashes := s.hashes ++ [⟨index, digest⟩] } := by
  unfold addHash
  split
  · next hle => simp [Nat.not_lt.mpr hle]
  · next hlt => simp [Nat.lt_of_not_le hlt, eq_comm]

theorem Sound.create {access : Option Link} (hplain : ∀ link ∈ access, link.name.Plain) :
    (create access).Sound := ⟨hplain, nofun, nofun⟩

theorem Sound.setAccess {link : Link} (hs : s.Sound) (hplain : link.name.Plain) :
    Sound { s with access := some link } :=
  ⟨by simpa using hplain, hs.names, hs.hashes⟩

theorem Sound.addName {name : Name} (hs : s.Sound) (hplain : name.Plain) (chunk : UInt64) :
    (s.addName name chunk).Sound := by
  refine ⟨hs.access, ?_, fun entry hentry => ?_⟩
  · intro entry hentry
    rcases List.mem_append.mp hentry with hentry | hentry
    · exact hs.names entry hentry
    · rw [List.mem_singleton.mp hentry]
      exact hplain
  · show entry.index < (s.names ++ _).length
    rw [List.length_append]
    exact Nat.lt_add_right _ (hs.hashes entry hentry)

theorem Sound.addHash {index : Nat} {digest : Bytes} (hs : s.Sound)
    (h : s.addHash index digest = (.ok (), s')) : s'.Sound := by
  obtain ⟨hindex, rfl⟩ := addHash_eq_ok_iff.mp h
  refine ⟨hs.access, hs.names, fun entry hentry => ?_⟩
  rcases List.mem_append.mp hentry with hentry | hentry
  · exact hs.hashes entry hentry
  · rw [List.mem_singleton.mp hentry]
    exact hindex

/-- The sections that are made of a link and of what is added to it. -/
inductive Built : ManifestSection → Prop
  | create {access : Option Link} (hplain : ∀ link ∈ access, link.name.Plain) :
      Built (create access)
  | addName {s : ManifestSection} {name : Name} (hs : Built s) (hplain : name.Plain)
      (chunk : UInt64) : Built (s.addName name chunk)
  | addHash {s s' : ManifestSection} {index : Nat} {digest : Bytes} (hs : Built s)
      (h : s.addHash index digest = (.ok (), s')) : Built s'

theorem Built.sound (h : s.Built) : s.Sound := by
  induction h with
  | create hplain => exact .create hplain
  | addName _ hplain chunk ih => exact ih.addName hplain chunk
  | addHash _ h ih => exact ih.addHash h

/-- All that an element can do to a section. -/
theorem add_cases (h : s.add t = .ok s') :
    (t.type = accessType ∧ s.access = none ∧ ∃ link, Link.ofWire t.value = .ok link ∧
      s' = { s with access := some link }) ∨
    (t.type = nameEntryType ∧ ∃ entry, nameOfWire t.value = .ok entry ∧
      s' = s.addName entry.name entry.chunk) ∨
    (t.type = hashEntryType ∧ ∃ entry, hashOfWire t.value = .ok entry ∧
      s.addHash entry.index entry.digest = (.ok (), s')) ∨
    (t.type ∉ [accessType, nameEntryType, hashEntryType] ∧ s' = s) := by
  unfold add at h
  split at h
  · next haccess =>
    cases hold : s.access with
    | some link =>
      rw [hold] at h
      cases h
    | none =>
      rw [hold] at h
      obtain ⟨link, hread, rfl⟩ := map_eq_ok_iff.mp h
      exact .inl ⟨haccess, rfl, link, lift_eq_ok_iff.mp hread, rfl⟩
  · next haccess =>
    split at h
    · next hname =>
      obtain ⟨entry, hread, rfl⟩ := map_eq_ok_iff.mp h
      exact .inr (.inl ⟨hname, entry, lift_eq_ok_iff.mp hread, rfl⟩)
    · next hname =>
      split at h
      · next hhash =>
        obtain ⟨entry, hread, hadd⟩ := bind_eq_ok_iff.mp h
        exact .inr (.inr (.inl ⟨hhash, entry, lift_eq_ok_iff.mp hread, kept_eq_ok_iff.mp hadd⟩))
      · next hhash =>
        cases h
        exact .inr (.inr (.inr ⟨by simp [haccess, hname, hhash], rfl⟩))

/-- An element keeps a section sound. -/
theorem add_grows (hs : s.Sound) (h : s.add t = .ok s') :
    s'.Sound ∧ Tlv.Grows t s.elements s'.elements := by
  rcases add_cases h with ⟨-, hnone, link, hread, rfl⟩ | ⟨-, entry, hread, rfl⟩ |
    ⟨-, entry, hread, hadd⟩ | ⟨-, rfl⟩
  · obtain ⟨hplain, hle⟩ := Link.plain_of_ofWire hread
    exact ⟨hs.setAccess hplain,
      by simpa [elements, accessTlv, hnone] using Tlv.Grows.insert [] hle _⟩
  · obtain ⟨hplain, hle⟩ := plain_of_nameOfWire hread
    refine ⟨hs.addName hplain entry.chunk, ?_⟩
    simpa [elements, addName] using Tlv.Grows.insert
      ((s.access.map accessTlv).toList ++ s.names.map NameEntry.toTlv) hle
      (s.hashes.map HashEntry.toTlv)
  · have hle := length_le_of_hashOfWire hread
    refine ⟨hs.addHash hadd, ?_⟩
    obtain ⟨-, rfl⟩ := addHash_eq_ok_iff.mp hadd
    simpa [elements] using Tlv.Grows.insert s.elements hle []
  · exact ⟨hs, .same _⟩

/-- A section that was read is sound, and written in no more bytes. -/
theorem sound_of_ofWire (h : ofWire b = .ok s) : s.Sound ∧ s.wire.length ≤ b.length := by
  have hempty : (create none).Sound := .create nofun
  obtain ⟨hs, hwithin⟩ :=
    Tlv.result_read_grows Sound elements (fun _ _ _ => add_grows) h hempty rfl
  exact ⟨hs, hwithin.length⟩

end Sections

end ManifestSection

/-! ## Manifests -/

namespace Manifest

variable {m : Manifest} {b : Bytes} {t : Tlv}

/-- The manifests that are made of a link and of sections. -/
inductive Built : Manifest → Prop
  | create {link : Link} {x y : Option ManifestSection} (hplain : link.name.Plain)
      (hx : ∀ s ∈ x, s.Built) (hy : ∀ s ∈ y, s.Built) : Built (create link x y)

theorem Built.sound (h : m.Built) : m.Sound ∧ m.signature = none := by
  obtain ⟨hplain, hx, hy⟩ := h
  exact ⟨⟨hplain, fun s hs => (hx s hs).sound, fun s hs => (hy s hs).sound⟩, rfl⟩

namespace Draft

/-- The elements of a manifest of which some parts were met. -/
def elements (d : Draft) : List Tlv :=
  (d.nameLink.map linkTlv).toList ++ (d.metaSection.map (sectionTlv metaSectionType)).toList ++
    (d.dataSection.map (sectionTlv dataSectionType)).toList

/-- The parts of a sound manifest, as far as they were met. -/
structure Sound (d : Draft) : Prop where
  nameLink : ∀ link ∈ d.nameLink, link.name.Plain
  metaSection : ∀ s ∈ d.metaSection, s.Sound
  dataSection : ∀ s ∈ d.dataSection, s.Sound

/-- All that an element can do to the parts of a manifest. -/
theorem add_cases {d d' : Draft} (h : d.add t = .ok d') :
    (t.type = nameLinkType ∧ d.nameLink = none ∧ ∃ link, Link.ofWire t.value = .ok link ∧
      d' = { d with nameLink := some link }) ∨
    (t.type = metaSectionType ∧ d.metaSection = none ∧ ∃ s, ManifestSection.ofWire t.value = .ok s ∧
      d' = { d with metaSection := some s }) ∨
    (t.type = dataSectionType ∧ d.dataSection = none ∧ ∃ s, ManifestSection.ofWire t.value = .ok s ∧
      d' = { d with dataSection := some s }) ∨
    (t.type ∉ [nameLinkType, metaSectionType, dataSectionType] ∧ d' = d) := by
  obtain ⟨link, x, y⟩ := d
  unfold add at h
  split at h
  · next hlink =>
    cases link with
    | some _ => cases h
    | none =>
      obtain ⟨link, hread, rfl⟩ := map_eq_ok_iff.mp h
      exact .inl ⟨hlink, rfl, link, ManifestSection.lift_eq_ok_iff.mp hread, rfl⟩
  · next hlink =>
    split at h
    · next hmeta =>
      cases x with
      | some _ => cases h
      | none =>
        obtain ⟨s, hread, rfl⟩ := map_eq_ok_iff.mp h
        exact .inr (.inl ⟨hmeta, rfl, s, hread, rfl⟩)
    · next hmeta =>
      split at h
      · next hdata =>
        cases y with
        | some _ => cases h
        | none =>
          obtain ⟨s, hread, rfl⟩ := map_eq_ok_iff.mp h
          exact .inr (.inr (.inl ⟨hdata, rfl, s, hread, rfl⟩))
      · next hdata =>
        cases h
        exact .inr (.inr (.inr ⟨by simp [hlink, hmeta, hdata], rfl⟩))

theorem add_grows {d d' : Draft} (hd : d.Sound) (h : d.add t = .ok d') :
    d'.Sound ∧ Tlv.Grows t d.elements d'.elements := by
  rcases add_cases h with ⟨-, hnone, link, hread, rfl⟩ | ⟨-, hnone, s, hread, rfl⟩ |
    ⟨-, hnone, s, hread, rfl⟩ | ⟨-, rfl⟩
  · obtain ⟨hplain, hle⟩ := Link.plain_of_ofWire hread
    exact ⟨⟨by simpa using hplain, hd.metaSection, hd.dataSection⟩,
      by simpa [elements, linkTlv, hnone] using Tlv.Grows.insert [] hle _⟩
  · obtain ⟨hs, hle⟩ := ManifestSection.sound_of_ofWire hread
    exact ⟨⟨hd.nameLink, by simpa using hs, hd.dataSection⟩,
      by simpa [elements, sectionTlv, hnone] using
        Tlv.Grows.insert _ (u := sectionTlv metaSectionType s) hle _⟩
  · obtain ⟨hs, hle⟩ := ManifestSection.sound_of_ofWire hread
    refine ⟨⟨hd.nameLink, hd.metaSection, by simpa using hs⟩, ?_⟩
    simpa [elements, sectionTlv, hnone] using
      Tlv.Grows.insert (elements d) (u := sectionTlv dataSectionType s) hle []
  · exact ⟨hd, .same _⟩

end Draft

/-- A manifest that was read is sound, and its elements can be written in no more bytes. -/
theorem sound_of_ofBytes (h : ofBytes b = .ok m) :
    m.Sound ∧ m.signature = none ∧ Tlv.Within m.elements b.length := by
  obtain ⟨d, hread, hmanifest⟩ := bind_eq_ok_iff.mp h
  have hempty : Draft.Sound {} := ⟨by simp, by simp, by simp⟩
  obtain ⟨hd, hwithin⟩ :=
    Tlv.result_read_grows Draft.Sound Draft.elements (fun _ _ _ => Draft.add_grows) hread hempty rfl
  obtain ⟨link, x, y⟩ := d
  cases link <;> cases hmanifest
  exact ⟨⟨hd.nameLink _ rfl, hd.metaSection, hd.dataSection⟩, rfl, hwithin⟩

/-- What is written for a sound manifest that no object brought is the manifest again. -/
theorem Sound.ofBytes_eq (hsound : m.Sound) (hsignature : m.signature = none)
    (hb : m.toBytes = .ok b) : ofBytes b = .ok m := by
  obtain ⟨hfits, rfl⟩ := toBytes_eq_ok_iff.mp hb
  rw [ofBytes_wire hsound hfits, ← hsignature]

end Manifest

/-! ## Manifests in content objects -/

/-- The payload of an object and its type are read as they were written, whoever signed it. -/
theorem Packet.payload_of_decode {m : Message} {signer : Option Signer} {config : Config}
    {now : UInt64} {e : Encoded} {d : Decoded} {n : UInt64} {b : Bytes}
    (hkind : m.kind = .contentObject) (hextras : m.extras .body = [])
    (htype : m.fields .payloadType = some (.int n)) (hn : n.toNat ≤ 255)
    (hpayload : m.fields .payload = some (.bytes b))
    (hok : encode m signer config now = .ok e) (hd : decode e.wire.toBytes = .ok d) :
    d.message.fields .payloadType = some (.int n) ∧
      d.message.fields .payload = some (.bytes b) := by
  have hkept : ∀ t ∈ m.extras .body, t.type ∉ knownTypes m.kind .body := by
    rw [hextras]
    nofun
  have hslots : ⟨.payloadType, 0x0005, .octet⟩ ∈ slots m.kind .body ∧
      ⟨.payload, 0x0001, .payload false⟩ ∈ slots m.kind .body := by
    rw [hkind]
    decide
  have htypeShaped : Slot.Shaped ⟨.payloadType, 0x0005, .octet⟩ m :=
    Slot.shaped_of_shapes nofun htype hn
  have hpayloadShaped : Slot.Shaped ⟨.payload, 0x0001, .payload false⟩ m :=
    Slot.shaped_of_shapes nofun hpayload rfl
  constructor
  · rw [← htype]
    exact fields_of_decode hslots.1 nofun htypeShaped hkept hok hd _ List.mem_cons_self
  · rw [← hpayload]
    exact fields_of_decode hslots.2 nofun hpayloadShaped hkept hok hd _ List.mem_cons_self

namespace ContentObject

variable {o : ContentObject} {type : PayloadType} {b : Bytes}

/-- An object has a payload of a type. -/
structure Brings (o : ContentObject) (type : PayloadType) (b : Bytes) : Prop where
  payloadType : o.message.fields .payloadType = some (.int type.code.toUInt64)
  payload : o.message.fields .payload = some (.bytes b)

namespace Brings

theorem setPayload (o : ContentObject) (type : PayloadType) (b : Bytes) :
    (o.setPayload type b).Brings type b := ⟨rfl, rfl⟩

theorem payloadType_eq (h : o.Brings type b) : o.payloadType = type := by
  unfold ContentObject.payloadType payloadTypeOf Message.int?
  rw [h.payloadType]
  cases type <;> rfl

theorem payload?_eq (h : o.Brings type b) : o.payload? = some b := by
  unfold payload? Message.content?
  rw [h.payload]

/-- An object brings its payload through every packet that is read. -/
theorem sent (h : o.Brings type b) (hextras : o.message.extras .body = []) {signer : Option Signer}
    {config : Config} {now : UInt64} {e : Packet.Encoded} {d : Packet.Decoded}
    (hok : Packet.encode o.message signer config now = .ok e)
    (hd : Packet.decode e.wire.toBytes = .ok d) :
    ∃ o', ofMessage d.message = .ok o' ∧ o'.Brings type b := by
  obtain ⟨htype, hpayload⟩ := Packet.payload_of_decode o.kind_eq hextras h.payloadType
    (Layout.toNat_byte_le type.code) h.payload hok hd
  have hkind : d.message.kind = .contentObject := (Packet.kind_of_decode hok hd).trans o.kind_eq
  exact ⟨⟨d.message, hkind⟩, dif_pos hkind, htype, hpayload⟩

end Brings

end ContentObject

namespace Manifest

variable {m : Manifest} {b : Bytes} {o : ContentObject}

/-- An object brings the manifest of its payload, which gets the signature of the object. -/
theorem ofContentObject_of_brings (h : o.Brings .manifest b) (hb : ofBytes b = .ok m) :
    ofContentObject o = .ok { m with signature := o.signature? } := by
  unfold ofContentObject
  rw [if_neg (not_not_intro h.payloadType_eq), h.payload?_eq]
  exact map_eq_ok_iff.mpr ⟨m, hb, rfl⟩

/-- A manifest is carried by an object: it is taken from the object, and from every packet in which
the object is sent, whoever signed it and under whatever configuration. -/
structure CarriedBy (m : Manifest) (o : ContentObject) : Prop where
  here : ofContentObject o = .ok m
  sent : ∀ signer config now e d, Packet.encode o.message signer config now = .ok e →
    Packet.decode e.wire.toBytes = .ok d →
    ∃ o', ContentObject.ofMessage d.message = .ok o' ∧
      ofContentObject o' = .ok { m with signature := o'.signature? }

/-- The object of a manifest that no object brought carries it. -/
theorem carriedBy_toContentObject (hsignature : m.signature = none) (hb : m.toBytes = .ok b)
    (hread : ofBytes b = .ok m) (name : Name) :
    ∃ o, m.toContentObject name = .ok o ∧ m.CarriedBy o := by
  have hbrings :
      ((ContentObject.create name .manifest).setPayload .manifest b).Brings .manifest b :=
    .setPayload _ _ b
  refine ⟨_, map_eq_ok_iff.mpr ⟨b, hb, rfl⟩, ?_, fun signer config now e d hok hd => ?_⟩
  · rw [ofContentObject_of_brings hbrings hread]
    obtain ⟨signature, link, x, y⟩ := m
    cases hsignature
    rfl
  · obtain ⟨o', ho', hbrings'⟩ := hbrings.sent rfl hok hd
    exact ⟨o', ho', ofContentObject_of_brings hbrings' hread⟩

/-- A manifest that was made by the operations is what is read from its written form and from the
objects that carry it; and whatever was read can be written, in no more bytes, and read again. -/
theorem toBytes_reads_back :
    (∀ m b, m.Built → m.toBytes = .ok b → ofBytes b = .ok m ∧
      ∀ name, ∃ o, m.toContentObject name = .ok o ∧ m.CarriedBy o) ∧
    ∀ b m, ofBytes b = .ok m →
      ∃ b', m.toBytes = .ok b' ∧ b'.length ≤ b.length ∧ ofBytes b' = .ok m := by
  constructor
  · intro m b hm hb
    obtain ⟨hsound, hsignature⟩ := hm.sound
    have hread := hsound.ofBytes_eq hsignature hb
    exact ⟨hread, carriedBy_toContentObject hsignature hb hread⟩
  · intro b m h
    obtain ⟨hsound, hsignature, hwithin⟩ := sound_of_ofBytes h
    have hb : m.toBytes = .ok m.wire := toBytes_eq_ok_iff.mpr ⟨hwithin.fits, rfl⟩
    exact ⟨m.wire, hb, hwithin.length, hsound.ofBytes_eq hsignature hb⟩

/-! A manifest of two chunks whose digests stand in the other order, with a link that has no part
and without metadata; and one of a single chunk, with a zero in front of its number and an element
behind it that means nothing. -/

namespace Sample

/-- The name `/a`. -/
def site : Name := ⟨[Segment.ofType .name [0x61]]⟩

/-- The section of the two chunks. -/
def chunks : ManifestSection where
  access := some {}
  names := [⟨0, site⟩, ⟨0xFFFFFFFFFFFFFFFF, .empty⟩]
  hashes := [⟨1, [0xFF]⟩, ⟨0, []⟩]

theorem built_chunks : chunks.Built := by
  have hempty : (ManifestSection.create (some {})).Built :=
    .create (by rintro link ⟨⟩; exact List.forall_mem_nil _)
  have hsite : site.Plain := List.forall_mem_singleton.mpr rfl
  have hnames := (hempty.addName hsite 0).addName (List.forall_mem_nil _) 0xFFFFFFFFFFFFFFFF
  have hfirst : ManifestSection.addHash { chunks with hashes := [] } 1 [0xFF] =
      (.ok (), { chunks with hashes := [⟨1, [0xFF]⟩] }) := rfl
  have hsecond : ManifestSection.addHash { chunks with hashes := [⟨1, [0xFF]⟩] } 0 [] =
      (.ok (), chunks) := rfl
  exact (hnames.addHash hfirst).addHash hsecond

/-- The manifest of the section. -/
def listing : Manifest := create { keyId := some [7] } none (some chunks)

theorem built_listing : listing.Built :=
  .create (List.forall_mem_nil _) nofun (by rintro s ⟨⟩; exact built_chunks)

/-- The object that brings the manifest. -/
def object : ContentObject :=
  (ContentObject.create site .manifest).setPayload .manifest listing.wire

/-- The object can be signed and sent. -/
theorem exists_decoded : ∃ e d,
    Packet.encode object.message (some Packet.Sample.frontSigner) {} 7 = .ok e ∧
      Packet.decode e.wire.toBytes = .ok d := by
  have hall : (match Packet.encode object.message (some Packet.Sample.frontSigner) {} 7 with
      | .ok e => (Packet.decode e.wire.toBytes).toBool
      | .error _ => false) = true := by decide +kernel
  split at hall
  · next e hok =>
    obtain ⟨d, hd⟩ := exists_ok_of_toBool hall
    exact ⟨e, d, hok, hd⟩
  · cases hall

/-- A section of one chunk, whose number has a zero in front, with an element behind it. -/
def padded : Bytes :=
  [0, 1, 0, 0, 0, 3, 0, 18, 0, 2, 0, 10, 0, 1, 0, 2, 0, 9, 0, 0, 0, 0, 0, 9, 0, 0]

/-- The manifest of the section of one chunk. -/
def single : Manifest := create {} none (some { names := [⟨9, .empty⟩] })

end Sample

theorem toBytes_reads_back_sample :
    Sample.listing.Built ∧ Sample.listing.toBytes = .ok Sample.listing.wire ∧
      ofBytes Sample.listing.wire = .ok Sample.listing ∧
      Sample.listing.toContentObject Sample.site = .ok Sample.object ∧
      ofContentObject Sample.object = .ok Sample.listing ∧
      (∃ e d o', Packet.encode Sample.object.message (some Packet.Sample.frontSigner) {} 7 = .ok e ∧
        Packet.decode e.wire.toBytes = .ok d ∧ ContentObject.ofMessage d.message = .ok o' ∧
          ofContentObject o' = .ok { Sample.listing with signature := o'.signature? }) ∧
      ofBytes Sample.padded = .ok Sample.single ∧
      ∃ b', Sample.single.toBytes = .ok b' ∧ b'.length ≤ Sample.padded.length ∧
        ofBytes b' = .ok Sample.single := by
  have hb : Sample.listing.toBytes = .ok Sample.listing.wire := by decide +kernel
  have hpadded : ofBytes Sample.padded = .ok Sample.single := by decide +kernel
  obtain ⟨hread, hcarried⟩ := toBytes_reads_back.1 _ _ Sample.built_listing hb
  obtain ⟨o, ho, hhere, hsent⟩ := hcarried Sample.site
  have hobject : Sample.listing.toContentObject Sample.site = .ok Sample.object :=
    map_eq_ok_iff.mpr ⟨_, hb, rfl⟩
  obtain rfl : Sample.object = o := Except.ok.inj (hobject.symm.trans ho)
  obtain ⟨e, d, hok, hd⟩ := Sample.exists_decoded
  obtain ⟨o', ho', hsame⟩ := hsent _ _ _ _ _ hok hd
  exact ⟨Sample.built_listing, hb, hread, hobject, hhere, ⟨e, d, o', hok, hd, ho', hsame⟩,
    hpadded, toBytes_reads_back.2 _ _ hpadded⟩

end Manifest

end NamedContent
