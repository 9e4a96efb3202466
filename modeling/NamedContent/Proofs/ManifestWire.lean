import NamedContent.Manifest
import NamedContent.Proofs.Names
import NamedContent.Proofs.Numbers

/-!
# What manifests are written as

A manifest is a sequence of elements, each of which is a link or a section, and so on down to
numbers, names and digests. Each level has its elements (`elements`), the condition under which they
are written, and a lemma that they are read back: the names of a section stand in front of its
digests, so that the name of each digest is there when the digest is read.

* `Manifest.toBytes_eq_ok_iff`: which manifests are written, and as what.
* `Manifest.ofBytes_wire`: what is written for a sound manifest is read back.
-/

namespace NamedContent

/-! ## Entries -/

theorem ManifestSection.number_minimal (n : UInt64) :
    ManifestSection.number (Bytes.minimal n) = .ok n := by
  have hne : (Bytes.minimal n).isEmpty = false := by simp [Bytes.minimal_ne_nil]
  have hlen : ¬ 8 < (Bytes.minimal n).length := Nat.not_lt.mpr (Bytes.length_minimal_le n)
  simp [ManifestSection.number, Bytes.toUInt64?, hne, hlen, Bytes.toNat_minimal]

theorem Link.ofWire_wire {link : Link} (hplain : link.name.Plain)
    (hfits : ∀ t ∈ link.elements, t.Fits) : Link.ofWire link.wire = .ok link :=
  Link.ofWire_eq_ok_iff.mpr ⟨Link.isWire_wire hfits, (Link.denoted_wire hplain hfits).symm⟩

namespace NameEntry

open ManifestSection

variable {entry : NameEntry}

/-- The elements of a named chunk. -/
def elements (entry : NameEntry) : List Tlv :=
  [⟨chunkType, Bytes.minimal entry.chunk⟩, ⟨Link.nameType, entry.name.wire⟩]

/-- The element that holds a named chunk. -/
def toTlv (entry : NameEntry) : Tlv := ⟨nameEntryType, Tlv.concat entry.elements⟩

theorem writes_emitName (entry : NameEntry) :
    (emitName entry).Writes entry.toTlv.Fits entry.toTlv.toBytes := by
  have hparts := (Emit.writes_copied ⟨chunkType, Bytes.minimal entry.chunk⟩).seq
    (entry.name.writes_emit Link.nameType)
  exact Emit.writes_container_elements nameEntryType
    (hparts.of_eq (by simp [elements]) (by simp [elements]) (by simp [elements]))

/-- A named chunk is read back. -/
theorem nameOfWire_elements (hplain : entry.name.Plain) (hfits : ∀ t ∈ entry.elements, t.Fits) :
    nameOfWire (Tlv.concat entry.elements) = .ok entry := by
  have hname : Tlv.Fits ⟨Link.nameType, entry.name.wire⟩ := hfits _ (by simp [elements])
  have hwire : Name.ofWire entry.name.wire = .ok entry.name :=
    Name.ofWire_eq_ok_iff_wire.mpr ⟨hplain, Tlv.fits_of_mem hname, rfl⟩
  have htype : Link.nameType ≠ chunkType := by decide
  refine bind_eq_ok_iff.mpr ⟨⟨some entry.chunk, some entry.name⟩, ?_, rfl⟩
  refine Tlv.result_read_eq_ok_iff.mpr ⟨entry.elements, hfits, rfl, ?_⟩
  simp only [elements, List.foldlM_cons, List.foldlM_nil, NameDraft.add, if_true, if_neg htype,
    number_minimal, hwire, Except.map, bind, Except.bind]
  rfl

end NameEntry

namespace HashEntry

open ManifestSection

variable {entry : HashEntry}

/-- The elements of a digest entry. -/
def elements (entry : HashEntry) : List Tlv :=
  [⟨indexType, Bytes.minimal (UInt64.ofNat entry.index)⟩, ⟨digestType, entry.digest⟩]

/-- The element that holds a digest entry. -/
def toTlv (entry : HashEntry) : Tlv := ⟨hashEntryType, Tlv.concat entry.elements⟩

theorem writes_emitHash (entry : HashEntry) :
    (emitHash entry).Writes entry.toTlv.Fits entry.toTlv.toBytes := by
  have hparts := (Emit.writes_copied ⟨indexType, Bytes.minimal (UInt64.ofNat entry.index)⟩).seq
    (Emit.writes_element ⟨digestType, entry.digest⟩)
  exact Emit.writes_container_elements hashEntryType
    (hparts.of_eq (by simp [elements]) (by simp [elements]) (by simp [elements]))

/-- A digest entry is read back when its index is a number of 64 bits. -/
theorem hashOfWire_elements (hindex : entry.index < UInt64.size)
    (hfits : ∀ t ∈ entry.elements, t.Fits) :
    hashOfWire (Tlv.concat entry.elements) = .ok entry := by
  have htype : digestType ≠ indexType := by decide
  refine bind_eq_ok_iff.mpr ⟨⟨some (UInt64.ofNat entry.index), some entry.digest⟩, ?_, ?_⟩
  · refine Tlv.result_read_eq_ok_iff.mpr ⟨entry.elements, hfits, rfl, ?_⟩
    simp only [elements, List.foldlM_cons, List.foldlM_nil, HashDraft.add, if_true, if_neg htype,
      number_minimal, Except.map, bind, Except.bind]
    rfl
  · show Except.ok (HashEntry.mk (UInt64.ofNat entry.index).toNat entry.digest) = .ok entry
    rw [UInt64.toNat_ofNat', Nat.mod_eq_of_lt hindex]

end HashEntry

/-! ## Sections -/

namespace ManifestSection

variable {s : ManifestSection}

/-- The element of the link to the rules of access. -/
def accessTlv (link : Link) : Tlv := ⟨accessType, link.wire⟩

/-- The elements of a section: the link, the named chunks, and then the digests. -/
def elements (s : ManifestSection) : List Tlv :=
  (s.access.map accessTlv).toList ++ s.names.map NameEntry.toTlv ++ s.hashes.map HashEntry.toTlv

/-- The value of the element that holds a section. -/
def wire (s : ManifestSection) : Bytes := Tlv.concat s.elements

/-- The sections in which no label has a parameter and each digest has its named chunk. -/
structure Sound (s : ManifestSection) : Prop where
  access : ∀ link ∈ s.access, link.name.Plain
  names : ∀ entry ∈ s.names, entry.name.Plain
  hashes : ∀ entry ∈ s.hashes, entry.index < s.names.length

theorem writes_emitAccess (access : Option Link) :
    (emitAccess access).Writes (∀ t ∈ (access.map accessTlv).toList, t.Fits)
      (Tlv.concat (access.map accessTlv).toList) :=
  Emit.writes_optional accessTlv (Link.writes_emitIn accessType) rfl (fun _ => rfl) access

theorem writes_emitNames (entries : List NameEntry) :
    (emitNames entries).Writes (∀ t ∈ entries.map NameEntry.toTlv, t.Fits)
      (Tlv.concat (entries.map NameEntry.toTlv)) :=
  Emit.writes_each NameEntry.toTlv NameEntry.writes_emitName rfl (fun _ _ => rfl) entries

theorem writes_emitHashes (entries : List HashEntry) :
    (emitHashes entries).Writes (∀ t ∈ entries.map HashEntry.toTlv, t.Fits)
      (Tlv.concat (entries.map HashEntry.toTlv)) :=
  Emit.writes_each HashEntry.toTlv HashEntry.writes_emitHash rfl (fun _ _ => rfl) entries

/-- A section can be written when it is short enough. -/
theorem writes_emit (type : UInt16) (s : ManifestSection) :
    (s.emit type).Writes (Tlv.Fits ⟨type, s.wire⟩) (Tlv.toBytes ⟨type, s.wire⟩) := by
  have hsections := (writes_emitAccess s.access).seq₃ (writes_emitNames s.names)
    (writes_emitHashes s.hashes)
  refine Emit.writes_container_elements type (hsections.of_eq ?_ ?_ ?_)
  · rw [elements, List.forall_mem_append, List.forall_mem_append, and_assoc]
  · rw [elements, Tlv.concat_append, Tlv.concat_append]
  · rw [elements, Tlv.concat_append, Tlv.concat_append]

/-! ### Reading back -/

theorem add_accessTlv {link : Link} (hplain : link.name.Plain)
    (hfits : ∀ t ∈ link.elements, t.Fits) (names : List NameEntry) (hashes : List HashEntry) :
    add ⟨none, names, hashes⟩ (accessTlv link) = .ok ⟨some link, names, hashes⟩ := by
  simp only [add, accessTlv, if_true, Link.ofWire_wire hplain hfits]
  rfl

theorem add_nameEntry {entry : NameEntry} (hplain : entry.name.Plain)
    (hfits : ∀ t ∈ entry.elements, t.Fits) (s : ManifestSection) :
    s.add entry.toTlv = .ok { s with names := s.names ++ [entry] } := by
  have haccess : nameEntryType ≠ accessType := by decide
  simp only [add, NameEntry.toTlv, if_neg haccess, if_true,
    NameEntry.nameOfWire_elements hplain hfits]
  rfl

theorem add_hashEntry {entry : HashEntry} (hnamed : entry.index < s.names.length)
    (hindex : entry.index < UInt64.size) (hfits : ∀ t ∈ entry.elements, t.Fits) :
    s.add entry.toTlv = .ok { s with hashes := s.hashes ++ [entry] } := by
  have htypes : hashEntryType ≠ accessType ∧ hashEntryType ≠ nameEntryType := by decide
  simp only [add, HashEntry.toTlv, if_neg htypes.1, if_neg htypes.2, if_true,
    HashEntry.hashOfWire_elements hindex hfits]
  show kept (s.addHash entry.index entry.digest) = _
  rw [addHash, if_neg (Nat.not_le.mpr hnamed)]
  rfl

/-- Named chunks are read one after the other. -/
theorem foldlM_names {entries : List NameEntry} (hplain : ∀ entry ∈ entries, entry.name.Plain)
    (hfits : ∀ t ∈ entries.map NameEntry.toTlv, t.Fits) (s : ManifestSection) :
    (entries.map NameEntry.toTlv).foldlM add s = .ok { s with names := s.names ++ entries } := by
  induction entries generalizing s with
  | nil => exact congrArg (fun names => Except.ok { s with names }) (List.append_nil _).symm
  | cons entry entries ih =>
    obtain ⟨hentry, hrest⟩ := List.forall_mem_cons.mp hplain
    obtain ⟨hfirst, hfits⟩ := List.forall_mem_cons.mp hfits
    rw [List.map_cons, List.foldlM_cons, add_nameEntry hentry (Tlv.fits_of_mem hfirst)]
    show (entries.map NameEntry.toTlv).foldlM add _ = _
    rw [ih hrest hfits, List.append_assoc]
    rfl

/-- Digests are read one after the other behind their named chunks. -/
theorem foldlM_hashes {entries : List HashEntry}
    (hindex : ∀ entry ∈ entries, entry.index < s.names.length ∧ entry.index < UInt64.size)
    (hfits : ∀ t ∈ entries.map HashEntry.toTlv, t.Fits) :
    (entries.map HashEntry.toTlv).foldlM add s = .ok { s with hashes := s.hashes ++ entries } := by
  induction entries generalizing s with
  | nil => exact congrArg (fun hashes => Except.ok { s with hashes }) (List.append_nil _).symm
  | cons entry entries ih =>
    obtain ⟨⟨hnamed, hentry⟩, hrest⟩ := List.forall_mem_cons.mp hindex
    obtain ⟨hfirst, hfits⟩ := List.forall_mem_cons.mp hfits
    rw [List.map_cons, List.foldlM_cons, add_hashEntry hnamed hentry (Tlv.fits_of_mem hfirst)]
    show (entries.map HashEntry.toTlv).foldlM add _ = _
    rw [ih (s := { s with hashes := s.hashes ++ [entry] }) hrest hfits, List.append_assoc]
    rfl

theorem length_names_le (s : ManifestSection) : s.names.length ≤ s.wire.length := by
  have hle : (s.names.map NameEntry.toTlv).length ≤ s.elements.length := by
    simp only [elements, List.length_append]
    omega
  rw [List.length_map] at hle
  exact Nat.le_trans hle (Tlv.length_le_length_concat s.elements)

/-- What is written for a sound section is read back. -/
theorem ofWire_wire (hsound : s.Sound) (hlength : s.wire.length ≤ maxLength) :
    ofWire s.wire = .ok s := by
  have hfits : ∀ t ∈ s.elements, t.Fits := Tlv.fits_of_mem hlength
  have hindex : ∀ entry ∈ s.hashes, entry.index < s.names.length ∧ entry.index < UInt64.size := by
    intro entry hentry
    have hnamed := hsound.hashes entry hentry
    have hnames := s.length_names_le
    have hsize : maxLength < UInt64.size := by decide
    exact ⟨hnamed, by omega⟩
  refine Tlv.result_read_eq_ok_iff.mpr ⟨s.elements, hfits, rfl, ?_⟩
  obtain ⟨access, names, hashes⟩ := s
  simp only [elements, List.forall_mem_append] at hfits
  obtain ⟨⟨haccess, hnames⟩, hhashes⟩ := hfits
  have hfirst : ((access.map accessTlv).toList).foldlM add {} = .ok ⟨access, [], []⟩ := by
    cases access with
    | none => rfl
    | some link =>
      have hlink : (accessTlv link).Fits := haccess _ (by simp)
      exact bind_eq_ok_iff.mpr
        ⟨_, add_accessTlv (hsound.access link rfl) (Tlv.fits_of_mem hlink) [] [], rfl⟩
  rw [elements, List.foldlM_append, List.foldlM_append, hfirst]
  show ((names.map NameEntry.toTlv).foldlM add ⟨access, [], []⟩ >>= fun s =>
    (hashes.map HashEntry.toTlv).foldlM add s) = _
  rw [foldlM_names hsound.names hnames]
  exact foldlM_hashes hindex hhashes

end ManifestSection

/-! ## Manifests -/

namespace Manifest

variable {m : Manifest} {b : Bytes}

/-- The element of the link to the object. -/
def linkTlv (link : Link) : Tlv := ⟨nameLinkType, link.wire⟩

/-- The element that holds a section. -/
def sectionTlv (type : UInt16) (s : ManifestSection) : Tlv := ⟨type, s.wire⟩

/-- The elements of a manifest. -/
def elements (m : Manifest) : List Tlv :=
  [linkTlv m.nameLink] ++ (m.metaSection.map (sectionTlv metaSectionType)).toList ++
    (m.dataSection.map (sectionTlv dataSectionType)).toList

/-- The written form of a manifest, which the signature is no part of. -/
def wire (m : Manifest) : Bytes := Tlv.concat m.elements

/-- The manifests in which no label has a parameter and each digest has its named chunk. -/
structure Sound (m : Manifest) : Prop where
  nameLink : m.nameLink.name.Plain
  metaSection : ∀ s ∈ m.metaSection, s.Sound
  dataSection : ∀ s ∈ m.dataSection, s.Sound

theorem writes_emitSection (type : UInt16) (s : Option ManifestSection) :
    (emitSection type s).Writes (∀ t ∈ (s.map (sectionTlv type)).toList, t.Fits)
      (Tlv.concat (s.map (sectionTlv type)).toList) :=
  Emit.writes_optional (sectionTlv type) (ManifestSection.writes_emit type) rfl (fun _ => rfl) s

theorem writes_emit (m : Manifest) : m.emit.Writes (∀ t ∈ m.elements, t.Fits) m.wire := by
  have hlink : (m.nameLink.emitIn nameLinkType).Writes (∀ t ∈ [linkTlv m.nameLink], t.Fits)
      (Tlv.concat [linkTlv m.nameLink]) :=
    (m.nameLink.writes_emitIn nameLinkType).of_eq (by simp [linkTlv]) (by simp [linkTlv])
      (by simp [linkTlv])
  refine (hlink.seq₃ (writes_emitSection metaSectionType m.metaSection)
    (writes_emitSection dataSectionType m.dataSection)).of_eq ?_ ?_ ?_
  · rw [elements, List.forall_mem_append, List.forall_mem_append, and_assoc]
  · rw [wire, elements, Tlv.concat_append, Tlv.concat_append]
  · rw [wire, elements, Tlv.concat_append, Tlv.concat_append]

/-- Exactly the manifests whose parts are short enough are written. -/
theorem toBytes_eq_ok_iff : m.toBytes = .ok b ↔ (∀ t ∈ m.elements, t.Fits) ∧ b = m.wire := by
  have hwrites := m.writes_emit
  unfold toBytes
  constructor
  · intro h
    split at h
    · next n hresult =>
      cases h
      have hfits := hwrites.ok_of hresult
      exact ⟨hfits, (hwrites.run hfits).2⟩
    · cases h
  · rintro ⟨hfits, rfl⟩
    obtain ⟨hresult, hbytes⟩ := hwrites.run hfits
    rw [hresult, ← hbytes]

/-! ### Reading back -/

theorem add_linkTlv {link : Link} (hplain : link.name.Plain) (hfits : (linkTlv link).Fits) :
    Draft.add {} (linkTlv link) = .ok ⟨some link, none, none⟩ := by
  simp only [Draft.add, linkTlv, if_true, Link.ofWire_wire hplain (Tlv.fits_of_mem hfits)]
  rfl

theorem add_metaSection {s : ManifestSection} (hsound : s.Sound)
    (hfits : (sectionTlv metaSectionType s).Fits) (link : Option Link) :
    Draft.add ⟨link, none, none⟩ (sectionTlv metaSectionType s) = .ok ⟨link, some s, none⟩ := by
  have htype : metaSectionType ≠ nameLinkType := by decide
  simp only [Draft.add, sectionTlv, if_neg htype, if_true, ManifestSection.ofWire_wire hsound hfits]
  rfl

theorem add_dataSection {s : ManifestSection} (hsound : s.Sound)
    (hfits : (sectionTlv dataSectionType s).Fits) (link : Option Link)
    (x : Option ManifestSection) :
    Draft.add ⟨link, x, none⟩ (sectionTlv dataSectionType s) = .ok ⟨link, x, some s⟩ := by
  have htypes : dataSectionType ≠ nameLinkType ∧ dataSectionType ≠ metaSectionType := by decide
  simp only [Draft.add, sectionTlv, if_neg htypes.1, if_neg htypes.2, if_true,
    ManifestSection.ofWire_wire hsound hfits]
  rfl

/-- What is written for a sound manifest is read back, without a signature. -/
theorem ofBytes_wire (hsound : m.Sound) (hfits : ∀ t ∈ m.elements, t.Fits) :
    ofBytes m.wire = .ok { m with signature := none } := by
  refine bind_eq_ok_iff.mpr ⟨⟨some m.nameLink, m.metaSection, m.dataSection⟩, ?_, rfl⟩
  refine Tlv.result_read_eq_ok_iff.mpr ⟨m.elements, hfits, rfl, ?_⟩
  obtain ⟨signature, link, x, y⟩ := m
  simp only [elements, List.forall_mem_append] at hfits
  obtain ⟨⟨hlink, hx⟩, hy⟩ := hfits
  have hmeta : (x.map (sectionTlv metaSectionType)).toList.foldlM Draft.add
      ⟨some link, none, none⟩ = .ok ⟨some link, x, none⟩ := by
    cases x with
    | none => rfl
    | some s =>
      have hs := add_metaSection (hsound.metaSection s rfl) (hx _ (by simp)) (some link)
      exact bind_eq_ok_iff.mpr ⟨_, hs, rfl⟩
  have hdata : (y.map (sectionTlv dataSectionType)).toList.foldlM Draft.add ⟨some link, x, none⟩ =
      .ok ⟨some link, x, y⟩ := by
    cases y with
    | none => rfl
    | some s =>
      have hs := add_dataSection (hsound.dataSection s rfl) (hy _ (by simp)) (some link) x
      exact bind_eq_ok_iff.mpr ⟨_, hs, rfl⟩
  have hfirst : [linkTlv link].foldlM Draft.add {} = .ok ⟨some link, none, none⟩ :=
    bind_eq_ok_iff.mpr ⟨_, add_linkTlv hsound.nameLink (hlink _ (by simp)), rfl⟩
  rw [elements, List.foldlM_append, List.foldlM_append]
  exact bind_eq_ok_iff.mpr ⟨_, bind_eq_ok_iff.mpr ⟨_, hfirst, hmeta⟩, hdata⟩

end Manifest

end NamedContent
