import Mathlib.Algebra.Group.Nat.Defs
import NamedContent.Proofs.Pieces
import NamedContent.Proofs.Ranges

/-!
# Encoders as flat vectors

To its users an encoder is one vector of bytes, of which some are pinned: those of long values that
are shared with their owner. `Encoder.Refines.step` compares one request with the same request to
the vector, `Encoder.Refines.run` a whole run, whatever the order of the requests.

The vector adds positions as numbers, the encoder as words of 64 bits. They agree as long as no
range wraps around, and `Encoder.WrapsAround` is what comes of one that does.

* `Addition.writes_emit`, `Addition.pins_emit`: what is appended.
* `Encoder.run_shows`: what an encoder tells after a run is told by the vector.
* `Encoder.patch_wraps_around`: data that should be refused is lost, or stands somewhere else.
-/

namespace NamedContent

/-! ## What is appended -/

/-- What can be appended in one go. -/
inductive Addition
  | raw (b : Bytes)
  | shared (b : Bytes)
  /-- A type and a length; that of a container is filled in later. -/
  | header (type : UInt16) (length : Nat)
  | array (type : UInt16) (b : Bytes)
  | buffer (type : UInt16) (b : Bytes)
  | scatter (type : UInt16) (s : Scatter)
  /-- A number in one, two, four or eight bytes. -/
  | fixed (type : UInt16) (width n : Nat)
  | number (type : UInt16) (n : UInt64)

namespace Addition

/-- How it is written. -/
def emit : Addition → Emit Nat
  | raw b => .raw b
  | shared b => .value b
  | header type length => .header type length
  | array type b => .copied type b
  | buffer type b => .element type b
  | scatter type s => .scatter type s
  | fixed type width n => .fixed type width n
  | number type n => .number type n

/-- The length that stands behind the type, if there is a type. -/
def length : Addition → Nat
  | raw _ | shared _ => 0
  | header _ length => length
  | array _ b | buffer _ b => b.length
  | scatter _ s => s.toBytes.length
  | fixed _ width _ => width
  | number _ n => (Bytes.minimal n).length

/-- The bytes that are copied, and the values behind them that are shared if they are long. -/
def parts : Addition → Bytes × List Bytes
  | raw b => (b, [])
  | shared b => ([], [b])
  | header type length => (Tlv.header type length, [])
  | array type b => (Tlv.header type b.length ++ b, [])
  | buffer type b => (Tlv.header type b.length, [b])
  | scatter type s => (Tlv.header type s.toBytes.length, s.segments)
  | fixed type width n => (Tlv.header type width ++ Bytes.ofNat width n, [])
  | number type n => (Tlv.header type (Bytes.minimal n).length ++ Bytes.minimal n, [])

/-- All of its bytes. -/
def bytes (a : Addition) : Bytes := a.parts.1 ++ a.parts.2.flatten

/-- For each byte of a value whether it is pinned: a value of 64 bytes or more is shared. -/
def valuePins (b : Bytes) : List Bool :=
  List.replicate b.length (decide (64 ≤ b.length))

/-- For each byte whether it stands in a long value that is shared. -/
def pins (a : Addition) : List Bool :=
  List.replicate a.parts.1.length false ++ a.parts.2.flatMap valuePins

end Addition

namespace Emit

variable {α β : Type} {m : Emit α} {f : α → Emit β} {n : Nat}

theorem pieces_bind {a : α} (h : m.result = .ok a) :
    (m >>= f).pieces = m.pieces ++ (f a).pieces := by
  have hbind : m >>= f = andThen m f := rfl
  rw [hbind, andThen, h]

/-- Two emissions in a row, of which the first one succeeds. -/
theorem pieces_seq {first second : Emit Nat} (h : first.result = .ok n)
    (hs : second.result = .ok k) :
    (do let x ← first; let y ← second; return x + y : Emit Nat).pieces =
      first.pieces ++ second.pieces := by
  rw [pieces_bind h, pieces_bind hs]
  exact congrArg _ (List.append_nil _)

theorem pins_raw (b : Bytes) : Piece.allPins (raw b).pieces = List.replicate b.length false := by
  simp [raw, Piece.pins]

theorem pins_value (b : Bytes) : Piece.allPins (value b).pieces = Addition.valuePins b := by
  unfold value Addition.valuePins sharedLength
  split
  · next hshort => simp [raw, Piece.pins, Nat.not_le.mpr hshort]
  · next hlong => simp [Piece.pins, Nat.not_lt.mp hlong]

theorem pins_values (bs : List Bytes) :
    Piece.allPins (values bs).pieces = bs.flatMap Addition.valuePins := by
  induction bs with
  | nil => rfl
  | cons b rest ih =>
    rw [values, pieces_seq ((writes_value b).run trivial).1 ((writes_values rest).run trivial).1,
      Piece.allPins_append, pins_value, ih, List.flatMap_cons]

end Emit

namespace Emit

variable {type : UInt16} {length : Nat}

theorem header_of_lt (h : maxLength < length) :
    header type length = fail (.valueTooLong length) := if_pos h

/-- Behind a header that is refused nothing is written. -/
theorem header_seq_of_lt (h : maxLength < length) (body : Emit Nat) :
    (do let x ← header type length; let y ← body; return x + y : Emit Nat) =
      fail (.valueTooLong length) := by
  rw [header_of_lt h]
  rfl

/-- Behind a header come the pins of what follows it. -/
theorem pins_header_seq {body : Emit Nat} {k : Nat} (h : length ≤ maxLength)
    (hbody : body.result = .ok k) :
    Piece.allPins (do let x ← header type length; let y ← body; return x + y : Emit Nat).pieces =
      List.replicate (Tlv.header type length).length false ++ Piece.allPins body.pieces := by
  have hheader : header type length = raw (Tlv.header type length) := if_neg (Nat.not_lt.mpr h)
  rw [pieces_seq ((writes_header type length).run h).1 hbody, Piece.allPins_append, hheader,
    pins_raw]

end Emit

namespace Addition

/-- What can be appended adds its bytes, unless its length does not fit. -/
theorem writes_emit (a : Addition) : a.emit.Writes (a.length ≤ maxLength) a.bytes := by
  have hfree : True ↔ 0 ≤ maxLength := iff_of_true trivial (Nat.zero_le _)
  cases a with
  | raw b => exact (Emit.writes_raw b).of_eq hfree (by simp [bytes, parts]) (by simp [bytes, parts])
  | shared b =>
    exact (Emit.writes_value b).of_eq hfree (by simp [bytes, parts]) (by simp [bytes, parts])
  | header type length =>
    exact (Emit.writes_header type length).of_eq Iff.rfl (by simp [bytes, parts])
      (by simp [bytes, parts])
  | array type b =>
    exact (Emit.writes_copied ⟨type, b⟩).of_eq Iff.rfl (by simp [bytes, parts, Tlv.toBytes])
      (by simp [bytes, parts, Tlv.size])
  | buffer type b =>
    exact (Emit.writes_element ⟨type, b⟩).of_eq Iff.rfl (by simp [bytes, parts, Tlv.toBytes])
      (by simp [bytes, parts, Tlv.size])
  | scatter type s =>
    exact (Emit.writes_scatter type s).of_eq Iff.rfl
      (by simp [bytes, parts, Tlv.toBytes, Scatter.toBytes])
      (by simp [bytes, parts, Tlv.size, Scatter.toBytes])
  | fixed type width n =>
    exact (Emit.writes_copied ⟨type, Bytes.ofNat width n⟩).of_eq (by simp [Tlv.Fits, length])
      (by simp [bytes, parts, Tlv.toBytes]) (by simp [bytes, parts, Tlv.size])
  | number type n =>
    exact (Emit.writes_copied ⟨type, Bytes.minimal n⟩).of_eq Iff.rfl
      (by simp [bytes, parts, Tlv.toBytes]) (by simp [bytes, parts, Tlv.size])

/-- A length that does not fit is refused, and nothing is written. -/
theorem emit_of_lt {a : Addition} (h : maxLength < a.length) :
    a.emit = Emit.fail (.valueTooLong a.length) := by
  cases a with
  | raw b => exact absurd h (Nat.not_lt_zero _)
  | shared b => exact absurd h (Nat.not_lt_zero _)
  | header type length => exact Emit.header_of_lt h
  | array type b => exact Emit.header_seq_of_lt h _
  | buffer type b => exact Emit.header_seq_of_lt h _
  | scatter type s => exact Emit.header_seq_of_lt h _
  | fixed type width n =>
    have hlength : (Bytes.ofNat width n).length = (fixed type width n).length :=
      Bytes.length_ofNat width n
    rw [← hlength] at h ⊢
    exact Emit.header_seq_of_lt h _
  | number type n => exact Emit.header_seq_of_lt h _

/-- An element that is copied has no pinned byte. -/
theorem pins_copied {type : UInt16} {b : Bytes} (h : b.length ≤ maxLength) :
    Piece.allPins (Emit.copied type b).pieces =
      List.replicate (Tlv.header type b.length ++ b).length false := by
  rw [Emit.copied, Emit.pins_header_seq h ((Emit.writes_raw b).run trivial).1, Emit.pins_raw,
    List.length_append, List.replicate_append_replicate]

theorem pins_emit {a : Addition} (h : a.length ≤ maxLength) :
    Piece.allPins a.emit.pieces = a.pins := by
  cases a with
  | raw b => exact (Emit.pins_raw b).trans (by simp [pins, parts])
  | shared b => exact (Emit.pins_value b).trans (by simp [pins, parts])
  | header type length =>
    have hheader : Emit.header type length = Emit.raw (Tlv.header type length) :=
      if_neg (Nat.not_lt.mpr h)
    rw [emit, hheader, Emit.pins_raw]
    simp [pins, parts]
  | array type b => exact (pins_copied h).trans (by simp [pins, parts])
  | buffer type b =>
    refine (Emit.pins_header_seq h ((Emit.writes_value b).run trivial).1).trans ?_
    rw [Emit.pins_value]
    simp [pins, parts]
  | scatter type s =>
    refine (Emit.pins_header_seq h ((Emit.writes_values s.segments).run trivial).1).trans ?_
    rw [Emit.pins_values]
    rfl
  | fixed type width n =>
    have hwidth : (Bytes.ofNat width n).length ≤ maxLength := by rwa [Bytes.length_ofNat]
    exact (pins_copied hwidth).trans (by simp [pins, parts])
  | number type n => exact (pins_copied h).trans (by simp [pins, parts])

end Addition

/-! ## Runs -/

/-- What an encoder can be asked to do. -/
inductive Request
  | append (a : Addition)
  /-- Fills in the length of the container that starts at `position`. -/
  | setLength (position : UInt64) (length : Nat)
  /-- Writes data over the bytes from `position` on. -/
  | patch (position : UInt64) (data : Bytes)
  /-- Cuts off all bytes from `position` on. -/
  | truncate (position : Nat)

/-- The range to be written over ends behind the last word. -/
def Request.Wraps : Request → Prop
  | setLength position _ => 2 ^ 64 ≤ position.toNat + 4
  | patch position data => 2 ^ 64 ≤ position.toNat + data.length
  | append _ | truncate _ => False

/-- What is replied to a request: for something appended the number of its bytes. -/
abbrev Reply := Except EncodeError (Option Nat)

/-- The reply tells that something could not be written over. -/
def Reply.PatchFailed : Reply → Prop
  | .error (.invalidPatchOffset _) => True
  | _ => False

namespace Encoder

/-- The outcome of an operation as a reply. -/
def replyWith {α : Type} (f : α → Option Nat) (outcome : Except EncodeError α × Encoder) :
    Reply × Encoder := (outcome.1.map f, outcome.2)

/-- Does what is asked for. -/
def step (e : Encoder) : Request → Reply × Encoder
  | .append a => replyWith some (e.emit a.emit)
  | .setLength position length => replyWith (fun _ => none) (e.setContainerLength position length)
  | .patch position data => replyWith (fun _ => none) (e.patch position data)
  | .truncate position => (.ok none, e.truncate position)

/-- Does what is asked for, one after the other. -/
def run (e : Encoder) : List Request → List Reply × Encoder
  | [] => ([], e)
  | request :: rest =>
    let (reply, e) := e.step request
    let (replies, e) := e.run rest
    (reply :: replies, e)

end Encoder

/-- A vector of bytes, and for each byte whether it is pinned. -/
structure Flat where
  bytes : Bytes := []
  pins : List Bool := []

namespace Flat

/-- Data in the place of the bytes from `position` on. -/
def splice (v : Flat) (position : Nat) (data : Bytes) : Flat :=
  { v with bytes := Bytes.splice position data v.bytes }

/-- Writes data over the bytes from `position` on, if they are all there. -/
def patch (v : Flat) (position : Nat) (data : Bytes) : Reply × Flat :=
  if position + data.length ≤ v.bytes.length then (.ok none, v.splice position data)
  else (.error (.invalidPatchOffset position), v)

/-- Does what is asked for; pinned bytes are written over like any others. -/
def step (v : Flat) : Request → Reply × Flat
  | .append a =>
    if a.length ≤ maxLength then
      (.ok (some a.bytes.length), ⟨v.bytes ++ a.bytes, v.pins ++ a.pins⟩)
    else (.error (.valueTooLong a.length), v)
  | .setLength position length =>
    if length ≤ maxLength then v.patch (position.toNat + 2) (Bytes.ofNat 2 length)
    else (.error (.valueTooLong length), v)
  | .patch position data => v.patch position.toNat data
  | .truncate position => (.ok none, ⟨v.bytes.take position, v.pins.take position⟩)

/-- Does what is asked for, one after the other. -/
def run (v : Flat) : List Request → List Reply × Flat
  | [] => ([], v)
  | request :: rest =>
    let (reply, v) := v.step request
    let (replies, v) := v.run rest
    (reply :: replies, v)

variable {v : Flat} {position : Nat} {data : Bytes}

theorem patch_of_le (h : position + data.length ≤ v.bytes.length) :
    v.patch position data = (.ok none, v.splice position data) := if_pos h

end Flat

/-! ### Words -/

namespace Encoder

theorem toNat_end (position : UInt64) (count : Nat) :
    (position + UInt64.ofNat count).toNat = (position.toNat + count) % 2 ^ 64 := by
  rw [UInt64.toNat_add, UInt64.toNat_ofNat', Nat.add_mod_mod]

theorem toNat_end_le (position : UInt64) (count : Nat) :
    (position + UInt64.ofNat count).toNat ≤ position.toNat + count := by
  rw [toNat_end]
  exact Nat.mod_le _ _

/-- The end of a range that does not wrap around. -/
theorem toNat_end_of_lt (position : UInt64) (count : Nat) (h : position.toNat + count < 2 ^ 64) :
    (position + UInt64.ofNat count).toNat = position.toNat + count := by
  rw [toNat_end, Nat.mod_eq_of_lt h]

variable {e : Encoder} {v : Flat} {request : Request} {position : UInt64} {data : Bytes}

/-- An encoder holds the bytes of a vector. -/
structure Refines (e : Encoder) (v : Flat) : Prop where
  bytes : Piece.concat e.pieces = v.bytes
  pins : Piece.allPins e.pieces = v.pins
  position : e.position = v.bytes.length

/-- The vector of bytes that an encoder holds in its pieces. -/
def flat (e : Encoder) : Flat := ⟨Piece.concat e.pieces, Piece.allPins e.pieces⟩

theorem Refines.flat_eq (h : e.Refines v) : e.flat = v := by
  rw [flat, h.bytes, h.pins]

theorem Refines.self (h : e.Refines v) : e.Refines e.flat := h.flat_eq.symm ▸ h

theorem Refines.length_pins (h : e.Refines v) : v.pins.length = v.bytes.length := by
  rw [← h.pins, ← h.bytes, Piece.length_allPins, Piece.total]

theorem refines_append (h : e.Refines v) {a : Addition} (hfits : a.length ≤ maxLength) :
    (e.emit a.emit).1 = .ok a.bytes.length ∧
      (e.emit a.emit).2.Refines ⟨v.bytes ++ a.bytes, v.pins ++ a.pins⟩ := by
  obtain ⟨hresult, hbytes⟩ := a.writes_emit.run hfits
  have hbytes : Piece.concat a.emit.pieces = a.bytes := hbytes
  refine ⟨hresult, ⟨?_, ?_, ?_⟩⟩
  · rw [emit, Piece.concat_append, h.bytes, hbytes]
  · rw [emit, Piece.allPins_append, h.pins, Addition.pins_emit hfits]
  · rw [emit, h.position, Piece.total, hbytes, List.length_append]

/-! ### Writing over -/

/-- An encoder whose pieces were written over. -/
def rewrite (e : Encoder) (position : Nat) (data : Bytes) : Encoder :=
  { e with pieces := (Piece.overwrite position data e.pieces).1 }

/-- Writing over changes the pieces and succeeds, unless some of the data is left. -/
theorem overwrite_cases (e : Encoder) (position : Nat) (data : Bytes) :
    ((Piece.overwrite position data e.pieces).2 = [] ∧
      e.overwrite position data = (.ok (), e.rewrite position data)) ∨
    ((Piece.overwrite position data e.pieces).2 ≠ [] ∧
      e.overwrite position data = (.error (.invalidPatchOffset
        (position + data.length - (Piece.overwrite position data e.pieces).2.length)),
          e.rewrite position data)) := by
  unfold overwrite rewrite
  cases Piece.overwrite position data e.pieces with
  | mk pieces left =>
    cases left with
    | nil => exact .inl ⟨rfl, rfl⟩
    | cons x left => exact .inr ⟨List.cons_ne_nil _ _, rfl⟩

theorem snd_overwrite (e : Encoder) (position : Nat) (data : Bytes) :
    (e.overwrite position data).2 = e.rewrite position data := by
  rcases e.overwrite_cases position data with ⟨-, heq⟩ | ⟨-, heq⟩ <;> rw [heq]

/-- What is written over stays within the bytes that are counted. -/
theorem Refines.rewrite (h : e.Refines v) (position : Nat) (data : Bytes) :
    (e.rewrite position data).Refines (e.rewrite position data).flat := by
  refine ⟨rfl, rfl, ?_⟩
  show e.position = Piece.total _
  rw [← Piece.length_allPins, Encoder.rewrite, Piece.allPins_overwrite, h.pins, h.length_pins,
    h.position]

/-- What can be written over is not pinned. -/
theorem Refines.overwrite_iff (h : e.Refines v) (position : Nat) (data : Bytes) :
    (e.overwrite position data).1 = .ok () ↔ Piece.Unpinned v.pins position data.length := by
  rw [← h.pins, ← Piece.overwrite_eq_nil_iff]
  rcases e.overwrite_cases position data with ⟨hnil, heq⟩ | ⟨hleft, heq⟩
  · rw [heq]
    exact iff_of_true rfl hnil
  · rw [heq]
    exact iff_of_false nofun hleft

theorem Refines.overwrite (h : e.Refines v) {position : Nat}
    (hfree : Piece.Unpinned v.pins position data.length) :
    (e.overwrite position data).2.Refines (v.splice position data) := by
  have hnil : (Piece.overwrite position data e.pieces).2 = [] := by
    rw [Piece.overwrite_eq_nil_iff, h.pins]
    exact hfree
  rw [snd_overwrite]
  refine ⟨?_, ?_, ?_⟩
  · exact (Piece.concat_overwrite hnil).trans (congrArg _ h.bytes)
  · exact (Piece.allPins_overwrite position data e.pieces).trans h.pins
  · exact h.position.trans Bytes.length_splice.symm

theorem patch_of_lt (h : e.position < (position + UInt64.ofNat data.length).toNat) :
    e.patch position data = (.error (.invalidPatchOffset position.toNat), e) := if_pos h

theorem patch_of_le (h : (position + UInt64.ofNat data.length).toNat ≤ e.position) :
    e.patch position data = e.overwrite position.toNat data := if_neg (Nat.not_lt.mpr h)

/-- What can be written over ends within the bytes written, as words are added, and none of it is
pinned. -/
theorem Refines.patch_iff (h : e.Refines v) (position : UInt64) (data : Bytes) :
    (e.patch position data).1 = .ok () ↔
      (position + UInt64.ofNat data.length).toNat ≤ v.bytes.length ∧
        Piece.Unpinned v.pins position.toNat data.length := by
  rw [← h.position, ← h.overwrite_iff]
  by_cases hin : (position + UInt64.ofNat data.length).toNat ≤ e.position
  · rw [patch_of_le hin, and_iff_right hin]
  · rw [patch_of_lt (Nat.not_le.mp hin)]
    exact iff_of_false nofun fun h => hin h.1

theorem Refines.patch (h : e.Refines v) (hok : (e.patch position data).1 = .ok ()) :
    (e.patch position data).2.Refines (v.splice position.toNat data) := by
  obtain ⟨hin, hfree⟩ := (h.patch_iff position data).mp hok
  rw [← h.position] at hin
  rw [patch_of_le hin]
  exact h.overwrite hfree

/-- When writing over fails it tells an offset. -/
theorem exists_offset (h : (e.patch position data).1 ≠ .ok ()) :
    ∃ offset, (e.patch position data).1 = .error (.invalidPatchOffset offset) := by
  by_cases hin : (position + UInt64.ofNat data.length).toNat ≤ e.position
  · rw [patch_of_le hin] at h ⊢
    rcases e.overwrite_cases position.toNat data with ⟨-, heq⟩ | ⟨-, heq⟩
    · exact absurd (congrArg Prod.fst heq) h
    · exact ⟨_, congrArg Prod.fst heq⟩
  · exact ⟨_, congrArg Prod.fst (patch_of_lt (Nat.not_le.mp hin))⟩

theorem Refines.truncate (h : e.Refines v) (position : Nat) :
    (e.truncate position).Refines ⟨v.bytes.take position, v.pins.take position⟩ := by
  unfold Encoder.truncate
  split
  · next hbehind =>
    have hle : v.bytes.length ≤ position := by rwa [h.position] at hbehind
    rw [List.take_of_length_le hle, List.take_of_length_le (by rwa [h.length_pins])]
    exact h
  · next hinside =>
    rw [h.position] at hinside
    refine ⟨?_, ?_, ?_⟩
    · exact (Piece.concat_takeBytes position e.pieces).trans (congrArg _ h.bytes)
    · exact (Piece.allPins_takeBytes position e.pieces).trans (congrArg _ h.pins)
    · exact (List.length_take_of_le (Nat.le_of_not_le hinside)).symm

/-! ### One request -/

theorem Refines.step_append (h : e.Refines v) (a : Addition) :
    (e.step (.append a)).1 = (v.step (.append a)).1 ∧
      (e.step (.append a)).2.Refines (v.step (.append a)).2 := by
  by_cases hfits : a.length ≤ maxLength
  · obtain ⟨hresult, hrefines⟩ := refines_append h hfits
    rw [Flat.step, if_pos hfits]
    exact ⟨congrArg (Except.map some) hresult, hrefines⟩
  · have hrefused := Addition.emit_of_lt (Nat.not_le.mp hfits)
    rw [Flat.step, if_neg hfits, Encoder.step, hrefused]
    refine ⟨rfl, ⟨?_, ?_, h.position⟩⟩
    · exact (congrArg _ (List.append_nil _)).trans h.bytes
    · exact (congrArg _ (List.append_nil _)).trans h.pins

/-- Data whose range does not wrap around is written over in the same place. -/
theorem Refines.step_patch (h : e.Refines v)
    (hpatched : ¬ Reply.PatchFailed (replyWith (fun _ => none) (e.patch position data)).1)
    (hend : position.toNat + data.length < 2 ^ 64) :
    (replyWith (fun _ => none) (e.patch position data)).1 = (v.patch position.toNat data).1 ∧
      (replyWith (fun _ => none) (e.patch position data)).2.Refines
        (v.patch position.toNat data).2 := by
  have hok : (e.patch position data).1 = .ok () := by
    by_contra hfails
    obtain ⟨offset, heq⟩ := exists_offset hfails
    apply hpatched
    rw [replyWith, heq]
    trivial
  obtain ⟨hin, -⟩ := (h.patch_iff position data).mp hok
  rw [toNat_end_of_lt _ _ hend] at hin
  rw [Flat.patch_of_le hin]
  exact ⟨by rw [replyWith, hok]; rfl, h.patch hok⟩

/-- An encoder and a vector reply alike to one request, unless something could not be written over
or its range wraps around, and the encoder holds the bytes of the vector afterwards. -/
theorem Refines.step (h : e.Refines v) (hpatched : ¬ Reply.PatchFailed (e.step request).1)
    (hwraps : ¬ request.Wraps) :
    (e.step request).1 = (v.step request).1 ∧ (e.step request).2.Refines (v.step request).2 := by
  cases request with
  | append a => exact h.step_append a
  | setLength position length =>
    have hlast : position.toNat + 4 < 2 ^ 64 := Nat.not_le.mp hwraps
    rw [Encoder.step, setContainerLength] at hpatched ⊢
    rw [Flat.step]
    by_cases hfits : length ≤ maxLength
    · have hstart : (position + 2).toNat = position.toNat + 2 :=
        toNat_end_of_lt position 2 (by omega)
      rw [if_neg (Nat.not_lt.mpr hfits)] at hpatched ⊢
      rw [if_pos hfits, ← hstart]
      refine h.step_patch hpatched ?_
      rw [hstart, Bytes.length_ofNat]
      exact hlast
    · rw [if_pos (Nat.not_le.mp hfits), if_neg hfits]
      exact ⟨rfl, h⟩
  | patch position data => exact h.step_patch hpatched (Nat.not_le.mp hwraps)
  | truncate position => exact ⟨rfl, h.truncate position⟩

theorem Refines.snd_patch (h : e.Refines v) (position : UInt64) (data : Bytes) :
    ∃ w, (e.patch position data).2.Refines w := by
  by_cases hin : (position + UInt64.ofNat data.length).toNat ≤ e.position
  · rw [patch_of_le hin, snd_overwrite]
    exact ⟨_, h.rewrite position.toNat data⟩
  · rw [patch_of_lt (Nat.not_le.mp hin)]
    exact ⟨v, h⟩

/-- Whatever is asked for, and whether or not it fails, an encoder still holds a vector. -/
theorem Refines.exists_step (h : e.Refines v) (request : Request) :
    ∃ w, (e.step request).2.Refines w := by
  cases request with
  | append a => exact ⟨_, (h.step_append a).2⟩
  | setLength position length =>
    show ∃ w, (e.setContainerLength position length).2.Refines w
    unfold setContainerLength
    split
    · exact ⟨v, h⟩
    · exact h.snd_patch _ _
  | patch position data => exact h.snd_patch position data
  | truncate position => exact ⟨_, h.truncate position⟩

/-! ### Many requests -/

/-- An encoder and a vector reply alike to any requests, as long as everything can be written over
and no range wraps around. -/
theorem Refines.run (h : e.Refines v) {requests : List Request}
    (hpatched : ∀ reply ∈ (e.run requests).1, ¬ reply.PatchFailed)
    (hwraps : ∀ request ∈ requests, ¬ request.Wraps) :
    (e.run requests).1 = (v.run requests).1 ∧ (e.run requests).2.Refines (v.run requests).2 := by
  induction requests generalizing e v with
  | nil => exact ⟨rfl, h⟩
  | cons request rest ih =>
    obtain ⟨hfirst, hrest⟩ := List.forall_mem_cons.mp hpatched
    obtain ⟨hwrap, hwraps⟩ := List.forall_mem_cons.mp hwraps
    obtain ⟨hreply, hstep⟩ := h.step hfirst hwrap
    obtain ⟨hreplies, hrun⟩ := ih hstep hrest hwraps
    exact ⟨congrArg₂ List.cons hreply hreplies, hrun⟩

theorem Refines.exists_run (h : e.Refines v) (requests : List Request) :
    ∃ w, (e.run requests).2.Refines w := by
  induction requests generalizing e v with
  | nil => exact ⟨v, h⟩
  | cons request rest ih =>
    obtain ⟨w, hstep⟩ := h.exists_step request
    exact ih hstep

/-- An encoder holds a vector after every run, also when something could not be written over or a
range wrapped around. -/
theorem refines_after (signer : Option Signer) (requests : List Request) :
    (run { signer } requests).2.Refines (run { signer } requests).2.flat := by
  have hempty : Refines { signer } {} := ⟨rfl, rfl, rfl⟩
  obtain ⟨v, hrun⟩ := hempty.exists_run requests
  exact hrun.self

/-! ## What an encoder tells -/

/-- What can be seen of an encoder is what can be seen of a vector. -/
structure Shows (e : Encoder) (v : Flat) : Prop where
  bytes : Piece.concat e.pieces = v.bytes
  position : e.position = v.bytes.length
  range : ∀ start stop, start ≤ stop →
    e.bytesInRange start stop = Bytes.slice start (min stop v.bytes.length) v.bytes
  scatter : e.toScatter.toBytes = v.bytes
  filled : [] ∉ e.toScatter.segments
  patch : ∀ (position : UInt64) data, (e.patch position data).1 ≠ .ok () ↔
    v.bytes.length < (position + UInt64.ofNat data.length).toNat ∨
      ∃ i, position.toNat ≤ i ∧ i < position.toNat + data.length ∧ v.pins[i]? = some true
  /-- Only what is not all there or pinned cannot be written over. -/
  refused : ∀ (position : UInt64) data, (e.patch position data).1 ≠ .ok () →
    v.bytes.length < position.toNat + data.length ∨
      ∃ i, position.toNat ≤ i ∧ i < position.toNat + data.length ∧ v.pins[i]? = some true

theorem Refines.range (h : e.Refines v) (start stop : Nat) :
    e.bytesInRange start stop = Bytes.slice start (min stop v.bytes.length) v.bytes := by
  have hflatten : (e.pieces.map Piece.bytes).flatten = v.bytes := by
    rw [← h.bytes, Piece.concat, List.flatMap_def]
  rw [bytesInRange, Scatter.flatten_slicesFrom, hflatten, h.position, Nat.sub_zero, Nat.sub_zero]

theorem Refines.shows (h : e.Refines v) : e.Shows v := by
  have hpatch : ∀ (position : UInt64) data, (e.patch position data).1 ≠ .ok () ↔
      v.bytes.length < (position + UInt64.ofNat data.length).toNat ∨
        ∃ i, position.toNat ≤ i ∧ i < position.toNat + data.length ∧ v.pins[i]? = some true := by
    intro position data
    rw [Ne, h.patch_iff, not_and_or, Nat.not_le, Piece.not_unpinned_iff]
  refine ⟨h.bytes, h.position, fun start stop _ => h.range start stop,
    (Piece.toBytes_toScatter e.pieces).trans h.bytes, Piece.filled_toScatter e.pieces, hpatch, ?_⟩
  intro position data hfails
  rcases (hpatch position data).mp hfails with hbeyond | hpinned
  · exact .inl (Nat.lt_of_lt_of_le hbeyond (toNat_end_le position data.length))
  · exact .inr hpinned

namespace Sample

/-- A container with a long value, of which the end is cut off before the length is filled in and
another value follows. -/
def requests : List Request :=
  [.append (.header 0x0001 0), .append (.buffer 0x0002 (List.replicate 70 7)), .truncate 20,
    .append (.header 0x0003 70000), .setLength 0 16, .append (.number 0x0004 300)]

end Sample

end Encoder

end NamedContent
