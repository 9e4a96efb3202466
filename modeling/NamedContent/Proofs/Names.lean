import NamedContent.Link
import NamedContent.Proofs.Emission

/-!
# Names and links in packets

A name is written as the sequence of its segments, so it comes back without the parameters of its
labels and in no other way altered. A link is written in one order and read in any, and elements
of other types in it are passed over.

* `Name.ofWire_eq_ok_iff`: exactly the sequences of elements with non-zero types are names.
* `Link.ofWire_eq_ok_iff`: exactly the sequences without a second part of one kind are links.
* `Link.denoted_wire`: a link is read back from its written form.
-/

namespace NamedContent

/-! ## Segments -/

namespace Segment

/-- The label has no parameter. -/
def Plain (s : Segment) : Prop := s.label.parameter = none

theorem ofType_of_plain {s : Segment} (h : s.Plain) : ofType s.type s.value = s := by
  obtain ⟨⟨type, parameter, _⟩, value⟩ := s
  cases h
  rfl

/-- An element is read as the plain segment that it is the written form of. -/
theorem ofTlv_eq_ok_iff {t : Tlv} {s : Segment} :
    ofTlv t = .ok s ↔ s.Plain ∧ s.toTlv = t := by
  obtain ⟨type, value⟩ := t
  unfold ofTlv
  constructor
  · intro h
    split at h
    · next type' htype =>
      cases h
      cases LabelType.ofCode?_eq_some_iff.mp htype
      exact ⟨rfl, rfl⟩
    · cases h
  · rintro ⟨hs, ht⟩
    cases ht
    have htype : LabelType.ofCode? s.type.code = some s.type :=
      LabelType.ofCode?_eq_some_iff.mpr rfl
    simp only [htype, ofType_of_plain hs]

theorem exists_ofTlv_iff {t : Tlv} : (∃ s, ofTlv t = .ok s) ↔ t.type ≠ 0 := by
  constructor
  · rintro ⟨s, hs⟩
    obtain ⟨-, rfl⟩ := ofTlv_eq_ok_iff.mp hs
    exact s.type.code_ne_zero
  · intro h
    refine ⟨ofType ⟨t.type, h⟩ t.value, ofTlv_eq_ok_iff.mpr ⟨rfl, rfl⟩⟩

theorem mapM_ofTlv_eq_ok_iff {ts : List Tlv} {segments : List Segment} :
    ts.mapM ofTlv = .ok segments ↔
      (∀ s ∈ segments, s.Plain) ∧ segments.map toTlv = ts := by
  induction ts generalizing segments with
  | nil =>
    rw [List.mapM_nil, List.map_eq_nil_iff]
    constructor
    · intro h
      cases h
      exact ⟨fun t ht => (by cases ht), rfl⟩
    · rintro ⟨-, rfl⟩; rfl
  | cons t ts ih =>
    simp only [List.mapM_cons, bind_eq_ok_iff, ofTlv_eq_ok_iff, ih]
    constructor
    · rintro ⟨s, ⟨hs, rfl⟩, rest, ⟨hrest, rfl⟩, h⟩
      cases h
      exact ⟨List.forall_mem_cons.mpr ⟨hs, hrest⟩, rfl⟩
    · rintro ⟨hplain, hmap⟩
      obtain ⟨s, rest, rfl, rfl, rfl⟩ := List.map_eq_cons_iff.mp hmap
      obtain ⟨hs, hrest⟩ := List.forall_mem_cons.mp hplain
      exact ⟨s, ⟨hs, rfl⟩, rest, ⟨hrest, rfl⟩, rfl⟩

end Segment

/-! ## Names -/

namespace Name

/-- No label has a parameter. -/
def Plain (name : Name) : Prop := ∀ s ∈ name.segments, s.Plain

/-- The elements of the segments. -/
def elements (name : Name) : List Tlv := name.segments.map Segment.toTlv

/-- The value of the element that holds a name. -/
def wire (name : Name) : Bytes := Tlv.concat name.elements

theorem writes_emitSegments (segments : List Segment) :
    (emitSegments segments).Writes (∀ t ∈ segments.map Segment.toTlv, t.Fits)
      (Tlv.concat (segments.map Segment.toTlv)) :=
  Emit.writes_each Segment.toTlv (fun s => Emit.writes_element s.toTlv) rfl (fun _ _ => rfl)
    segments

/-- A name can be written when it is short enough. -/
theorem writes_emit (type : UInt16) (name : Name) :
    (name.emit type).Writes (Tlv.Fits ⟨type, name.wire⟩) (Tlv.toBytes ⟨type, name.wire⟩) :=
  Emit.writes_container_elements type (writes_emitSegments name.segments)

theorem ofWire_eq_ok_iff_scan {b : Bytes} {name : Name} :
    ofWire b = .ok name ↔
      (Tlv.scan b).1.mapM Segment.ofTlv = .ok name.segments ∧ (Tlv.scan b).2 = none := by
  unfold ofWire
  rw [bind_eq_ok_iff]
  constructor
  · rintro ⟨segments, hsegments, h⟩
    cases hstop : (Tlv.scan b).2 with
    | some e =>
      simp only [hstop] at h
      cases h
    | none =>
      simp only [hstop] at h
      cases h
      exact ⟨hsegments, rfl⟩
  · rintro ⟨hsegments, hstop⟩
    refine ⟨name.segments, hsegments, ?_⟩
    simp only [hstop]
    rfl

theorem ofWire_eq_ok_iff_wire {b : Bytes} {name : Name} :
    ofWire b = .ok name ↔ name.Plain ∧ (∀ t ∈ name.elements, t.Fits) ∧ b = name.wire := by
  rw [ofWire_eq_ok_iff_scan]
  constructor
  · rintro ⟨hsegments, hstop⟩
    obtain ⟨hplain, hmap⟩ := Segment.mapM_ofTlv_eq_ok_iff.mp hsegments
    obtain ⟨hfits, hb⟩ := Tlv.scan_eq_iff.mp (Prod.ext hmap.symm hstop)
    exact ⟨hplain, hfits, hb⟩
  · rintro ⟨hplain, hfits, rfl⟩
    rw [wire, Tlv.scan_concat hfits]
    exact ⟨Segment.mapM_ofTlv_eq_ok_iff.mpr ⟨hplain, rfl⟩, rfl⟩

/-- The byte string is a sequence of complete segments, none of which has the type 0. -/
def IsWire (b : Bytes) : Prop :=
  ∃ ts : List Tlv, (∀ t ∈ ts, t.Fits ∧ t.type ≠ 0) ∧ b = Tlv.concat ts

/-- The name whose segments are given elements. -/
def ofElements (ts : List Tlv) : Name :=
  ⟨ts.filterMap fun t => (LabelType.ofCode? t.type).map fun type => Segment.ofType type t.value⟩

/-- The name that a byte string denotes. -/
def denoted (b : Bytes) : Name := ofElements (Tlv.scan b).1

theorem ofElements_elements {name : Name} (h : name.Plain) : ofElements name.elements = name := by
  obtain ⟨segments⟩ := name
  unfold ofElements elements
  rw [List.filterMap_map]
  congr 1
  induction segments with
  | nil => rfl
  | cons s rest ih =>
    have hs := h s List.mem_cons_self
    have hcode : LabelType.ofCode? s.toTlv.type = some s.type :=
      LabelType.ofCode?_eq_some_iff.mpr rfl
    rw [List.filterMap_cons_some, ih fun u hu => h u (List.mem_cons_of_mem s hu)]
    rw [Function.comp_apply, hcode, Option.map_some]
    exact congrArg some (Segment.ofType_of_plain hs)

theorem denoted_wire {name : Name} (h : name.Plain) (hfits : ∀ t ∈ name.elements, t.Fits) :
    denoted name.wire = name := by
  rw [denoted, wire, Tlv.scan_concat hfits, ofElements_elements h]

theorem isWire_wire {name : Name} (hfits : ∀ t ∈ name.elements, t.Fits) : IsWire name.wire := by
  refine ⟨name.elements, fun t ht => ⟨hfits t ht, ?_⟩, rfl⟩
  obtain ⟨s, -, rfl⟩ := List.mem_map.mp ht
  exact s.type.code_ne_zero

/-- Elements of non-zero types are those of a plain name. -/
theorem exists_elements {ts : List Tlv} (h : ∀ t ∈ ts, t.type ≠ 0) :
    ∃ name : Name, name.Plain ∧ name.elements = ts := by
  induction ts with
  | nil => exact ⟨⟨[]⟩, nofun, rfl⟩
  | cons t ts ih =>
    obtain ⟨ht, hts⟩ := List.forall_mem_cons.mp h
    obtain ⟨s, hs⟩ := Segment.exists_ofTlv_iff.mpr ht
    obtain ⟨hplain, rfl⟩ := Segment.ofTlv_eq_ok_iff.mp hs
    obtain ⟨⟨segments⟩, hsegments, rfl⟩ := ih hts
    exact ⟨⟨s :: segments⟩, List.forall_mem_cons.mpr ⟨hplain, hsegments⟩, rfl⟩

theorem exists_of_isWire {b : Bytes} (h : IsWire b) :
    ∃ name : Name, name.Plain ∧ (∀ t ∈ name.elements, t.Fits) ∧ b = name.wire := by
  obtain ⟨ts, hts, rfl⟩ := h
  obtain ⟨name, hplain, rfl⟩ := exists_elements fun t ht => (hts t ht).2
  exact ⟨name, hplain, fun t ht => (hts t ht).1, rfl⟩

theorem plain_denoted {b : Bytes} (h : IsWire b) : (denoted b).Plain := by
  obtain ⟨name, hplain, hfits, rfl⟩ := exists_of_isWire h
  rwa [denoted_wire hplain hfits]

/-- A name that was read is written as it stood. -/
theorem wire_denoted {b : Bytes} (h : IsWire b) : (denoted b).wire = b := by
  obtain ⟨name, hplain, hfits, rfl⟩ := exists_of_isWire h
  rw [denoted_wire hplain hfits]

/-- A byte string is read as a name when it is a sequence of segments. -/
theorem ofWire_eq_ok_iff {b : Bytes} {name : Name} :
    ofWire b = .ok name ↔ IsWire b ∧ name = denoted b := by
  rw [ofWire_eq_ok_iff_wire]
  constructor
  · rintro ⟨hplain, hfits, rfl⟩
    exact ⟨isWire_wire hfits, (denoted_wire hplain hfits).symm⟩
  · rintro ⟨h, rfl⟩
    obtain ⟨name, hplain, hfits, rfl⟩ := exists_of_isWire h
    rw [denoted_wire hplain hfits]
    exact ⟨hplain, hfits, rfl⟩

end Name

/-! ## Links -/

namespace Link

/-- The types of the three parts of a link, in the order in which they are written. -/
def types : List UInt16 := [nameType, keyIdType, contentHashType]

/-- The elements of the parts that are present; an empty name is not. -/
def elements (link : Link) : List Tlv :=
  (if link.name.segments.isEmpty then [] else [⟨nameType, link.name.wire⟩]) ++
    (link.keyId.map (Tlv.mk keyIdType)).toList ++
      (link.contentHash.map (Tlv.mk contentHashType)).toList

/-- The value of the element that holds a link. -/
def wire (link : Link) : Bytes := Tlv.concat link.elements

theorem writes_emitName (name : Name) :
    (emitName name).Writes
      (∀ t ∈ if name.segments.isEmpty then [] else [Tlv.mk nameType name.wire], t.Fits)
      (Tlv.concat (if name.segments.isEmpty then [] else [⟨nameType, name.wire⟩])) := by
  unfold emitName
  split
  · exact Emit.writes_done.of_eq (by simp) rfl rfl
  · exact (name.writes_emit nameType).of_eq (by simp) (by simp) (by simp)

theorem writes_emitOptional (type : UInt16) (b : Option Bytes) :
    (emitOptional type b).Writes (∀ t ∈ (b.map (Tlv.mk type)).toList, t.Fits)
      (Tlv.concat (b.map (Tlv.mk type)).toList) :=
  Emit.writes_optional (Tlv.mk type) (fun b => Emit.writes_element ⟨type, b⟩) rfl (fun _ => rfl) b

theorem writes_emit (link : Link) :
    link.emit.Writes (∀ t ∈ link.elements, t.Fits) link.wire := by
  have hkeyId := writes_emitOptional keyIdType link.keyId
  have hhash := writes_emitOptional contentHashType link.contentHash
  refine ((writes_emitName link.name).seq₃ hkeyId hhash).of_eq ?_ ?_ ?_
  · rw [elements, List.forall_mem_append, List.forall_mem_append, and_assoc]
  · rw [wire, elements, Tlv.concat_append, Tlv.concat_append]
  · rw [wire, elements, Tlv.concat_append, Tlv.concat_append]

/-- A link can be written into an element when it is short enough. -/
theorem writes_emitIn (type : UInt16) (link : Link) :
    (link.emitIn type).Writes (Tlv.Fits ⟨type, link.wire⟩) (Tlv.toBytes ⟨type, link.wire⟩) :=
  Emit.writes_container_elements type link.writes_emit

/-- What the elements of a link are like: no part is there twice, and the name is one. -/
structure Accepts (ts : List Tlv) : Prop where
  once : Tlv.Once types ts
  name : ∀ t ∈ ts, t.type = nameType → Name.IsWire t.value

/-- The byte string is a sequence of complete elements that make up a link. -/
def IsWire (b : Bytes) : Prop :=
  ∃ ts : List Tlv, (∀ t ∈ ts, t.Fits) ∧ b = Tlv.concat ts ∧ Accepts ts

/-- The parts that elements tell. -/
def Draft.ofElements (ts : List Tlv) : Draft where
  name := (Tlv.valueOf? ts nameType).map Name.denoted
  keyId := Tlv.valueOf? ts keyIdType
  contentHash := Tlv.valueOf? ts contentHashType

/-- The link that elements make up. -/
def ofElements (ts : List Tlv) : Link := (Draft.ofElements ts).link

/-- The link that a byte string denotes. -/
def denoted (b : Bytes) : Link := ofElements (Tlv.scan b).1

theorem accepts_concat_iff {ts : List Tlv} {t : Tlv} :
    Accepts (ts ++ [t]) ↔ Accepts ts ∧ (t.type ∈ types → Tlv.valueOf? ts t.type = none) ∧
      (t.type = nameType → Name.IsWire t.value) := by
  constructor
  · rintro ⟨honce, hname⟩
    obtain ⟨honce, hnew⟩ := Tlv.once_concat_iff.mp honce
    exact ⟨⟨honce, fun u hu => hname u (List.mem_append_left _ hu)⟩, hnew,
      hname t (List.mem_append_right _ List.mem_cons_self)⟩
  · rintro ⟨⟨honce, hname⟩, hnew, ht⟩
    refine ⟨Tlv.once_concat_iff.mpr ⟨honce, hnew⟩, fun u hu => ?_⟩
    rcases List.mem_append.mp hu with hu | hu
    · exact hname u hu
    · rw [List.mem_singleton.mp hu]
      exact ht

/-- An element adds its part, which must be missing; one of another type adds nothing. -/
theorem add_ofElements_eq_ok_iff {ts : List Tlv} {t : Tlv} {d : Draft} :
    (Draft.ofElements ts).add t = .ok d ↔
      (t.type ∈ types → Tlv.valueOf? ts t.type = none) ∧
        (t.type = nameType → Name.IsWire t.value) ∧ d = Draft.ofElements (ts ++ [t]) := by
  have hkey : keyIdType ≠ nameType := by decide
  have hhash : contentHashType ≠ nameType ∧ contentHashType ≠ keyIdType := by decide
  obtain ⟨type, value⟩ := t
  simp only [Draft.add, Draft.ofElements, Tlv.valueOf?_append, Tlv.valueOf?_singleton, types,
    List.mem_cons, List.not_mem_nil, or_false]
  -- The case split is that of `Draft.add`; where a part was met before both sides are false.
  by_cases h1 : type = nameType
  · subst h1
    cases hold : Tlv.valueOf? ts nameType with
    | some b => simp
    | none =>
      cases hw : Name.ofWire value with
      | error e =>
        have hbad : ¬ Name.IsWire value := fun h => by
          rw [Name.ofWire_eq_ok_iff.mpr ⟨h, rfl⟩] at hw
          cases hw
        simp [Except.map, hbad]
      | ok name =>
        obtain ⟨hwire, rfl⟩ := Name.ofWire_eq_ok_iff.mp hw
        simp [Except.map, hwire, hkey.symm, hhash.1.symm, eq_comm]
  · by_cases h2 : type = keyIdType
    · subst h2
      cases hold : Tlv.valueOf? ts keyIdType with
      | some b => simp [hkey]
      | none => simp [hkey, hhash.2.symm, eq_comm]
    · by_cases h3 : type = contentHashType
      · subst h3
        cases hold : Tlv.valueOf? ts contentHashType with
        | some b => simp [hhash]
        | none => simp [hhash, eq_comm]
      · simp [h1, h2, h3, eq_comm]

theorem foldlM_add_eq_ok_iff {ts : List Tlv} {d : Draft} :
    ts.foldlM Draft.add {} = .ok d ↔ Accepts ts ∧ d = Draft.ofElements ts := by
  -- After a prefix that is accepted the draft holds the parts of the prefix.
  refine Tlv.foldlM_eq_ok_iff Draft.ofElements Accepts ⟨Tlv.once_nil _, nofun⟩
    (fun ts t h => (accepts_concat_iff.mp h).1) ?_
  intro ts t d hts
  rw [add_ofElements_eq_ok_iff, accepts_concat_iff, and_assoc, and_assoc]
  exact ⟨fun h => ⟨hts, h⟩, fun h => h.2⟩

/-- A byte string is read as a link when it is a sequence without a second part of one kind. -/
theorem ofWire_eq_ok_iff {b : Bytes} {link : Link} :
    ofWire b = .ok link ↔ IsWire b ∧ link = denoted b := by
  have hmap : ofWire b = .ok link ↔
      ∃ d, (Tlv.read Draft.add {} b).result id = .ok d ∧ d.link = link := by
    unfold ofWire
    cases (Tlv.read Draft.add {} b).result id <;> simp [Except.map]
  simp only [hmap, Tlv.result_read_eq_ok_iff, foldlM_add_eq_ok_iff]
  constructor
  · rintro ⟨d, ⟨ts, hfits, rfl, hts, rfl⟩, rfl⟩
    refine ⟨⟨ts, hfits, rfl, hts⟩, ?_⟩
    rw [denoted, Tlv.scan_concat hfits, ofElements]
  · rintro ⟨⟨ts, hfits, rfl, hts⟩, rfl⟩
    refine ⟨Draft.ofElements ts, ⟨ts, hfits, rfl, hts, rfl⟩, ?_⟩
    rw [denoted, Tlv.scan_concat hfits, ofElements]

/-! ### Links that were written -/

theorem valueOf?_elements (link : Link) :
    Tlv.valueOf? link.elements nameType =
        (if link.name.segments.isEmpty then none else some link.name.wire) ∧
      Tlv.valueOf? link.elements keyIdType = link.keyId ∧
      Tlv.valueOf? link.elements contentHashType = link.contentHash := by
  obtain ⟨name, keyId, hash⟩ := link
  have hkey : keyIdType ≠ nameType := by decide
  have hhash : contentHashType ≠ nameType ∧ contentHashType ≠ keyIdType := by decide
  simp only [elements, Tlv.valueOf?_append]
  cases name.segments.isEmpty <;> cases keyId <;> cases hash <;>
    simp [Tlv.valueOf?_singleton, hkey, hkey.symm, hhash, hhash.1.symm, hhash.2.symm]

theorem accepts_elements {link : Link} (hfits : ∀ t ∈ link.elements, t.Fits) :
    Accepts link.elements := by
  have hdistinct : nameType ≠ keyIdType ∧ nameType ≠ contentHashType ∧
      keyIdType ≠ contentHashType := by decide
  constructor
  · intro type htype
    rw [elements, Tlv.countOf_append, Tlv.countOf_append]
    simp only [types, List.mem_cons, List.not_mem_nil, or_false] at htype
    rcases htype with rfl | rfl | rfl <;>
      cases link.name.segments.isEmpty <;> cases link.keyId <;> cases link.contentHash <;>
        simp [Tlv.countOf_singleton, hdistinct, hdistinct.1.symm, hdistinct.2.1.symm,
          hdistinct.2.2.symm]
  · intro t ht htype
    -- Of the elements that are written only the first has the type of a name.
    have hwire : t.value = link.name.wire := by
      simp only [elements, List.mem_append, Option.mem_toList,
        Option.map_eq_some_iff] at ht
      rcases ht with (ht | ⟨b, -, rfl⟩) | ⟨b, -, rfl⟩
      · split at ht
        · cases ht
        · rw [List.mem_singleton.mp ht]
      · exact absurd htype hdistinct.1.symm
      · exact absurd htype hdistinct.2.1.symm
    have hlen := hfits t ht
    rw [hwire]
    refine Name.isWire_wire (Tlv.fits_of_mem ?_)
    rwa [Tlv.Fits, hwire] at hlen

/-- A link is read back from its written form. -/
theorem isWire_wire {link : Link} (hfits : ∀ t ∈ link.elements, t.Fits) : IsWire link.wire :=
  ⟨link.elements, hfits, rfl, accepts_elements hfits⟩

theorem denoted_wire {link : Link} (hplain : link.name.Plain)
    (hfits : ∀ t ∈ link.elements, t.Fits) : denoted link.wire = link := by
  obtain ⟨hname, hkeyId, hhash⟩ := valueOf?_elements link
  rw [denoted, wire, Tlv.scan_concat hfits, ofElements, Draft.link, Draft.ofElements, hname, hkeyId,
    hhash]
  obtain ⟨⟨segments⟩, keyId, hash⟩ := link
  congr 1
  cases segments with
  | nil => rfl
  | cons s rest =>
    have hlen : Tlv.Fits ⟨nameType, Name.wire ⟨s :: rest⟩⟩ :=
      hfits _ (by simp [elements])
    exact Name.denoted_wire hplain (Tlv.fits_of_mem hlen)

/-- The name of a link that was read has no parameters. -/
theorem plain_denoted {b : Bytes} (h : IsWire b) : (denoted b).name.Plain := by
  obtain ⟨ts, hfits, rfl, honce, hname⟩ := h
  rw [denoted, Tlv.scan_concat hfits, ofElements, Draft.link, Draft.ofElements]
  cases hv : Tlv.valueOf? ts nameType with
  | none => exact nofun
  | some b => exact Name.plain_denoted (hname _ (Tlv.mem_of_valueOf? hv) rfl)

end Link

end NamedContent
