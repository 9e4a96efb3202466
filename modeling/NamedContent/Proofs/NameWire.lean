import NamedContent.Proofs.Names

/-!
# Names there and back

A packet has a type and a value for each segment, and nothing else of a name. So a name that is
short enough comes back without the parameters of its labels, and this is all that is lost: what was
read is written as it stood, and names that are written alike differ in parameters only.

* `Name.withoutParameters`: what is left of a name in a packet.
* `Name.emit_reads`: both directions, for every name and every byte string.
-/

namespace NamedContent

/-! ## Cursors -/

namespace Cursor

variable {c : Cursor} {v : Bytes}

/-- Bytes that are there are read as a name, and the cursor stands behind them. -/
theorem name_of_prefix (h : v <+: c.rest) : ∃ c', c.name v.length = (Name.ofWire v, c') ∧
    c'.buffer = c.buffer ∧ c'.position = c.position + v.length ∧ c'.held = c.held := by
  obtain ⟨behind, hrest⟩ := h
  have hle : c.position + v.length ≤ c.buffer.length := by
    have hposition := c.position_le
    have hlength : v.length + behind.length = c.buffer.length - c.position := by
      rw [← List.length_append, hrest, rest, List.length_drop]
    omega
  have htake : c.rest.take v.length = v := by
    rw [← hrest]
    exact List.take_left
  refine ⟨{ c with position := c.position + v.length, position_le := hle }, ?_, rfl, rfl, rfl⟩
  rw [name, container, take, dif_pos hle, htake]
  rfl

end Cursor

/-! ## What is lost -/

/-- A segment whose label has no parameter. -/
def Segment.withoutParameter (s : Segment) : Segment := .ofType s.type s.value

theorem Segment.withoutParameter_eq_iff {s : Segment} : s.withoutParameter = s ↔ s.Plain := by
  constructor
  · intro h
    rw [← h]
    rfl
  · exact Segment.ofType_of_plain

namespace Name

variable {name other : Name} {type : UInt16} {v : Bytes}

/-- A name whose labels have no parameters. -/
def withoutParameters (name : Name) : Name := ⟨name.segments.map Segment.withoutParameter⟩

theorem plain_withoutParameters (name : Name) : name.withoutParameters.Plain := by
  intro s hs
  obtain ⟨s', -, rfl⟩ := List.mem_map.mp hs
  rfl

theorem withoutParameters_eq_iff : name.withoutParameters = name ↔ name.Plain := by
  constructor
  · intro h
    rw [← h]
    exact plain_withoutParameters name
  · intro h
    obtain ⟨segments⟩ := name
    have hsame : segments.map Segment.withoutParameter = segments.map id :=
      List.map_congr_left fun s hs => Segment.withoutParameter_eq_iff.mpr (h s hs)
    rw [withoutParameters, hsame, List.map_id]

/-- Parameters are not written. -/
theorem elements_withoutParameters (name : Name) :
    name.withoutParameters.elements = name.elements := List.map_map

theorem wire_withoutParameters (name : Name) : name.withoutParameters.wire = name.wire := by
  rw [wire, wire, elements_withoutParameters]

theorem emit_withoutParameters (type : UInt16) (name : Name) :
    name.withoutParameters.emit type = name.emit type := by
  obtain ⟨segments⟩ := name
  refine congrArg (Emit.container type) ?_
  show emitSegments (segments.map Segment.withoutParameter) = emitSegments segments
  induction segments with
  | nil => rfl
  | cons s segments ih =>
    rw [List.map_cons, emitSegments, emitSegments, ih]
    rfl

/-! ## Names that can be written -/

/-- The number of bytes of the segments: of type and length, and of the value of each. -/
def segmentsLength (segments : List Segment) : Nat :=
  segments.foldr (fun s n => Tlv.headerLength + s.value.length + n) 0

theorem length_wire (name : Name) : name.wire.length = segmentsLength name.segments := by
  obtain ⟨segments⟩ := name
  show (Tlv.concat (segments.map Segment.toTlv)).length = _
  induction segments with
  | nil => rfl
  | cons s segments ih =>
    rw [List.map_cons, Tlv.concat_cons, List.length_append, Tlv.length_toBytes, ih]
    rfl

theorem exists_result_iff :
    (∃ k, (name.emit type).result = .ok k) ↔ name.wire.length ≤ maxLength := by
  constructor
  · rintro ⟨k, hk⟩
    exact (name.writes_emit type).ok_of hk
  · intro hle
    exact ⟨_, ((name.writes_emit type).run hle).1⟩

theorem fits_elements (h : name.wire.length ≤ maxLength) : ∀ t ∈ name.elements, t.Fits :=
  Tlv.fits_of_mem h

/-- A name that was written is read without parameters. -/
theorem ofWire_wire (h : name.wire.length ≤ maxLength) :
    ofWire name.wire = .ok name.withoutParameters := by
  refine ofWire_eq_ok_iff_wire.mpr ⟨plain_withoutParameters name, ?_, ?_⟩
  · rw [elements_withoutParameters]
    exact fits_elements h
  · exact (wire_withoutParameters name).symm

/-- A name that was read is written as it stood. -/
theorem emit_of_ofWire (hv : v.length ≤ maxLength) (h : ofWire v = .ok name) (type : UInt16) :
    (name.emit type).result = .ok (Tlv.headerLength + v.length) ∧
      (name.emit type).bytes = Tlv.header type v.length ++ v := by
  obtain ⟨-, -, rfl⟩ := ofWire_eq_ok_iff_wire.mp h
  obtain ⟨hresult, hbytes⟩ := (name.writes_emit type).run hv
  refine ⟨?_, hbytes⟩
  rw [hresult, Tlv.length_toBytes]
  rfl

/-- What is written tells the type and the elements, and of a name this is all but the
parameters. -/
theorem eq_of_bytes_eq {type' : UInt16} {k l : Nat} (hk : (name.emit type).result = .ok k)
    (hl : (other.emit type').result = .ok l)
    (h : (name.emit type).bytes = (other.emit type').bytes) :
    type = type' ∧ name.withoutParameters = other.withoutParameters := by
  have hname := (name.writes_emit type).ok_of hk
  have hother := (other.writes_emit type').ok_of hl
  have hbytes : Tlv.toBytes ⟨type, name.wire⟩ ++ [] = Tlv.toBytes ⟨type', other.wire⟩ ++ [] := by
    rw [← ((name.writes_emit type).run hname).2, ← ((other.writes_emit type').run hother).2, h]
  obtain ⟨htlv, -⟩ := Tlv.toBytes_append_inj hname hother hbytes
  obtain ⟨htype, hwire⟩ := Tlv.mk.inj htlv
  have hread : ofWire name.wire = .ok other.withoutParameters := hwire ▸ ofWire_wire hother
  exact ⟨htype, Except.ok.inj ((ofWire_wire hname).symm.trans hread)⟩

/-- A name is written when its values and all of its segments together are short enough. -/
theorem exists_result_iff_lengths : (∃ k, (name.emit type).result = .ok k) ↔
    (∀ s ∈ name.segments, s.value.length ≤ maxLength) ∧
      segmentsLength name.segments ≤ maxLength := by
  rw [exists_result_iff, ← length_wire]
  constructor
  · intro h
    exact ⟨fun s hs => fits_elements h s.toTlv (List.mem_map_of_mem hs), h⟩
  · rintro ⟨-, h⟩
    exact h

/-- The way of names into packets and back. A name is written exactly when its values and all of its
segments together are short enough. Wherever a cursor meets what was written for it, it reads the
name without parameters and goes behind it; this is the name itself exactly when no label has a
parameter. In the other direction the byte strings that are read are the sequences of complete
elements of non-zero types, and each is what is written for the name read from it. Names that are
written alike differ in parameters only. -/
theorem emit_reads_back (type : UInt16) :
    (∀ name : Name,
      ((∃ k, (name.emit type).result = .ok k) ↔
        (∀ s ∈ name.segments, s.value.length ≤ maxLength) ∧
          segmentsLength name.segments ≤ maxLength) ∧
      (∀ k, (name.emit type).result = .ok k → ∃ v,
        (name.emit type).bytes = Tlv.header type v.length ++ v ∧
        ∀ c : Cursor, v <+: c.rest → ∃ c', c.name v.length = (.ok name.withoutParameters, c') ∧
          c'.buffer = c.buffer ∧ c'.position = c.position + v.length ∧ c'.held = c.held) ∧
      (name.withoutParameters = name ↔ ∀ s ∈ name.segments, s.label.parameter = none)) ∧
    (∀ v : Bytes, v.length ≤ maxLength →
      ((∃ name c, (Cursor.start v).name v.length = (.ok name, c)) ↔ IsWire v) ∧
      ∀ name c, (Cursor.start v).name v.length = (.ok name, c) →
        (name.emit type).result = .ok (Tlv.headerLength + v.length) ∧
          (name.emit type).bytes = Tlv.header type v.length ++ v) ∧
    ∀ (name other : Name) k l, (name.emit type).result = .ok k → (other.emit type).result = .ok l →
      (name.emit type).bytes = (other.emit type).bytes →
        name.withoutParameters = other.withoutParameters := by
  refine ⟨fun name => ⟨exists_result_iff_lengths, fun k hk => ?_, withoutParameters_eq_iff⟩,
    fun v hv => ?_, fun _ _ _ _ hk hl h => (eq_of_bytes_eq hk hl h).2⟩
  · have hle := (name.writes_emit type).ok_of hk
    refine ⟨name.wire, ((name.writes_emit type).run hle).2, fun c hc => ?_⟩
    have hread := Cursor.name_of_prefix hc
    rwa [ofWire_wire hle] at hread
  · -- The cursor at the start of a byte string reads all of it.
    obtain ⟨c, hread, -⟩ := Cursor.name_of_prefix (c := Cursor.start v) (List.prefix_refl v)
    rw [hread]
    constructor
    · constructor
      · rintro ⟨name, c', h⟩
        exact (ofWire_eq_ok_iff.mp (Prod.mk.inj h).1).1
      · intro h
        exact ⟨denoted v, c, congrArg (·, c) (ofWire_eq_ok_iff.mpr ⟨h, rfl⟩)⟩
    · intro name c' h
      exact emit_of_ofWire hv (Prod.mk.inj h).1 type

/-! A name with a parameter, and the name without it. -/

namespace Sample

/-- The name `/Name:x=a/Chunk=`, of which the first segment has a parameter. -/
def titled : Name :=
  ⟨[⟨{ type := .name, parameter := some [0x78], app_parameter := by decide }, [0x61]⟩,
    Segment.ofType .chunk []]⟩

/-- What is written for the segments. -/
def written : Bytes := [0, 1, 0, 1, 0x61, 0, 0x10, 0, 0]

end Sample

theorem emit_reads_back_sample :
    (∃ k, (Sample.titled.emit 5).result = .ok k) ∧
      (Sample.titled.emit 5).bytes = Tlv.header 5 9 ++ Sample.written ∧
      (∃ c, (Cursor.start (Sample.written ++ [7])).name 9 =
        (.ok Sample.titled.withoutParameters, c) ∧ c.position = 9) ∧
      Sample.titled.withoutParameters ≠ Sample.titled ∧
      (Sample.titled.withoutParameters.emit 5).bytes = (Sample.titled.emit 5).bytes ∧
      Sample.titled.withoutParameters.withoutParameters = Sample.titled.withoutParameters ∧
      IsWire Sample.written := by
  obtain ⟨hnames, hread, hsame⟩ := emit_reads_back 5
  obtain ⟨hok, hback, hplain⟩ := hnames Sample.titled
  obtain ⟨k, hk⟩ : ∃ k, (Sample.titled.emit 5).result = .ok k := hok.mpr (by decide)
  obtain ⟨v, hbytes, hcursor⟩ := hback k hk
  have hwritten : (Sample.titled.emit 5).bytes = Tlv.header 5 9 ++ Sample.written := rfl
  obtain rfl : v = Sample.written := by
    refine (List.append_inj (hbytes.symm.trans hwritten) ?_).2
    rw [Tlv.length_header, Tlv.length_header]
  obtain ⟨c, hc, -, hposition, -⟩ :=
    hcursor (Cursor.start (Sample.written ++ [7])) (List.prefix_append _ _)
  obtain ⟨c', hc', -⟩ := hcursor (Cursor.start Sample.written) (List.prefix_refl _)
  have hlength : Sample.written.length ≤ maxLength := by decide
  obtain ⟨hiff, hagain⟩ := hread _ hlength
  obtain ⟨hresult, hrewritten⟩ := hagain _ c' hc'
  have hdropped := hrewritten.trans hbytes.symm
  exact ⟨⟨k, hk⟩, hwritten, ⟨c, hc, hposition⟩, mt hplain.mp (by decide), hdropped,
    hsame _ _ _ k hresult hk hdropped, hiff.mp ⟨_, c', hc'⟩⟩

end Name

end NamedContent
