import Mathlib.Data.List.Forall2
import NamedContent.Proofs.FlatVector

/-!
# Writing over that fails

Data is written over the bytes of an encoder one byte after the other, until it ends or meets a
byte that is pinned. In the second case it fails, and what it has written by then stays
(`Encoder.patch_interrupted`). Nothing else changes: neither the borders between pieces, nor the
bytes that are shared, nor those behind.

* `Piece.rewrites_overwrite`: what becomes of each piece.
* `Piece.exists_written`: the part of the data that is written takes the place of what stood there,
  and a pinned byte follows it.
* `Encoder.Interrupted`: what a failure leaves behind.
-/

namespace NamedContent

namespace Bytes

variable {offset : Nat} {data b : Bytes}

/-- Data in the place of a part changes nothing if it is that part. -/
theorem splice_eq_self_iff (h : offset + data.length ≤ b.length) :
    splice offset data b = b ↔ slice offset (offset + data.length) b = data := by
  have hrest : b.drop offset =
      slice offset (offset + data.length) b ++ b.drop (offset + data.length) := by
    rw [slice_add, ← List.drop_drop, List.take_append_drop]
  have hsplice : splice offset data b = b ↔
      data ++ b.drop (offset + data.length) = b.drop offset := by
    rw [splice, List.take_of_length_le (Nat.le_sub_of_add_le' h), List.append_assoc]
    conv => lhs; rhs; rw [← List.take_append_drop offset b]
    exact List.append_right_inj _
  rw [hsplice, hrest, List.append_left_inj, eq_comm]

end Bytes

namespace Piece

/-- What writing over makes of a piece: copied bytes become as many others, shared bytes stay. -/
inductive Rewrites : Piece → Piece → Prop
  | copied {b c : Bytes} (length : c.length = b.length) : Rewrites (copied b) (copied c)
  | shared (b : Bytes) : Rewrites (shared b) (shared b)

namespace Rewrites

variable {p q : Piece}

theorem refl (p : Piece) : Rewrites p p := by
  cases p with
  | copied b => exact copied rfl
  | shared b => exact shared b

theorem length_eq (h : Rewrites p q) : q.bytes.length = p.bytes.length := by
  cases h with
  | copied hlength => exact hlength
  | shared b => rfl

theorem eq_of_bytes (h : Rewrites p q) (hbytes : q.bytes = p.bytes) : q = p := by
  cases h with
  | copied hlength => exact congrArg Piece.copied hbytes
  | shared b => rfl

end Rewrites

theorem rewrites_overwrite (offset : Nat) (data : Bytes) (pieces : List Piece) :
    List.Forall₂ Rewrites pieces (overwrite offset data pieces).1 := by
  induction pieces generalizing offset data with
  | nil => exact .nil
  | cons p rest ih =>
    unfold overwrite
    split
    · exact .cons (.refl p) (ih _ _)
    · next hinside =>
      cases p with
      | shared b => exact .cons (.shared b) (List.forall₂_same.mpr fun q _ => .refl q)
      | copied b =>
        have hlength : offset < b.length := Nat.not_le.mp hinside
        refine .cons (.copied ?_) (ih _ _)
        simp only [List.length_append, List.length_take, List.length_drop]
        omega

/-- Pieces that were written over are the same again when their bytes are. -/
theorem eq_of_rewrites {ps qs : List Piece} (h : List.Forall₂ Rewrites ps qs)
    (hconcat : concat qs = concat ps) : qs = ps := by
  induction h with
  | nil => rfl
  | cons hp hrest ih =>
    rw [concat_cons, concat_cons] at hconcat
    obtain ⟨hbytes, hconcat⟩ := List.append_inj hconcat hp.length_eq
    rw [hp.eq_of_bytes hbytes, ih hconcat]

/-- Data that takes up the rest of a copied piece goes on in the pieces behind it. -/
theorem overwrite_copied_append {offset : Nat} {b front : Bytes} (hinside : offset < b.length)
    (hfront : front.length = b.length - offset) (behind : Bytes) (rest : List Piece) :
    overwrite offset (front ++ behind) (copied b :: rest) =
      (copied (b.take offset ++ front) :: (overwrite 0 behind rest).1,
        (overwrite 0 behind rest).2) := by
  have hgone : b.drop (offset + (front ++ behind).length) = [] := by
    apply List.drop_of_length_le
    rw [List.length_append]
    omega
  have hbehind : ¬ (copied b).length ≤ offset := Nat.not_le.mpr hinside
  simp only [overwrite, if_neg hbehind, List.take_left' hfront, List.drop_left' hfront, hgone,
    List.append_nil]

/-- The data is written up to a byte that is pinned, as if it ended there. -/
theorem exists_written (offset : Nat) (data : Bytes) (pieces : List Piece) :
    ∃ written, data = written ++ (overwrite offset data pieces).2 ∧
      overwrite offset written pieces = ((overwrite offset data pieces).1, []) ∧
      ((overwrite offset data pieces).2 ≠ [] →
        (allPins pieces)[offset + written.length]? = some true) := by
  induction pieces generalizing offset data with
  | nil => exact ⟨data, (List.append_nil data).symm, rfl, fun hleft => absurd rfl hleft⟩
  | cons p rest ih =>
    by_cases hbehind : p.length ≤ offset
    · obtain ⟨written, hdata, hwritten, hstop⟩ := ih (offset - p.length) data
      simp only [overwrite, if_pos hbehind]
      refine ⟨written, hdata, by rw [hwritten], fun hleft => ?_⟩
      have hnext := hstop hleft
      rw [allPins_cons, List.getElem?_append_right (by rw [length_pins]; omega), length_pins]
      rwa [← Nat.sub_add_comm hbehind] at hnext
    · cases p with
      | shared b =>
        have hinside : offset < b.length := Nat.not_le.mp hbehind
        simp only [overwrite, if_neg hbehind]
        refine ⟨[], rfl, rfl, fun _ => ?_⟩
        rw [allPins_cons, pins, List.length_nil, Nat.add_zero,
          List.getElem?_append_left (by simpa using hinside), List.getElem?_replicate,
          if_pos hinside]
      | copied b =>
        have hinside : offset < b.length := Nat.not_le.mp hbehind
        by_cases hends : data.length ≤ b.length - offset
        -- The data ends in this piece, so that all of it is written.
        · have hleft : (overwrite offset data (copied b :: rest)).2 = [] := by
            rw [overwrite_eq_nil_iff, allPins_cons, pins, unpinned_false_append hinside]
            intro i _ hlt
            omega
          exact ⟨data, by rw [hleft, List.append_nil], Prod.ext rfl hleft,
            fun hne => absurd hleft hne⟩
        -- The piece is written over up to its end.
        · obtain ⟨front, data', rfl, hfront⟩ :
              ∃ front data', data = front ++ data' ∧ front.length = b.length - offset :=
            ⟨_, _, (List.take_append_drop (b.length - offset) data).symm, by simp; omega⟩
          obtain ⟨behind, hdata, hwritten, hstop⟩ := ih 0 data'
          rw [overwrite_copied_append hinside hfront]
          refine ⟨front ++ behind, ?_, ?_, fun hleft => ?_⟩
          · rw [List.append_assoc, ← hdata]
          · rw [overwrite_copied_append hinside hfront, hwritten]
          · have hnext := hstop hleft
            have hlength : offset + (front ++ behind).length = b.length + behind.length := by
              rw [List.length_append]
              omega
            rw [hlength, allPins_cons, List.getElem?_append_right (by simp [pins])]
            simpa [pins] using hnext

end Piece

/-! ## Encoders -/

namespace Encoder

variable {e e' : Encoder} {position : UInt64} {data : Bytes} {error : EncodeError}

/-- What writing data over the bytes from `position` on leaves behind when it fails after `count`
bytes: these stand where they should, and all else is as it was. It fails because the data goes
beyond the bytes that were written, before any of it is written, or because the next byte is
pinned. Where the data ends is told by a sum of words. -/
structure Interrupted (e : Encoder) (position : UInt64) (data : Bytes) (count : Nat)
    (e' : Encoder) : Prop where
  cause : count = 0 ∧ e.position < (position + UInt64.ofNat data.length).toNat ∨
    count < data.length ∧ (position + UInt64.ofNat data.length).toNat ≤ e.position ∧
      Piece.Unpinned e.flat.pins position.toNat count ∧
        e.flat.pins[position.toNat + count]? = some true
  signer : e'.signer = e.signer
  shows : e'.Shows ⟨Bytes.splice position.toNat (data.take count) e.flat.bytes, e.flat.pins⟩
  unchanged_iff : e' = e ↔
    Bytes.slice position.toNat (position.toNat + count) e.flat.bytes = data.take count

/-- Data that goes beyond the bytes that were written changes none of them. -/
theorem Refines.interrupted_zero (h : e.Refines e.flat)
    (hcause : e.position < (position + UInt64.ofNat data.length).toNat) :
    e.Interrupted position data 0 e := by
  have hsplice : Bytes.splice position.toNat (data.take 0) e.flat.bytes = e.flat.bytes := by
    simp [Bytes.splice]
  refine ⟨.inl ⟨rfl, hcause⟩, rfl, ?_, ?_⟩
  · rw [hsplice]
    exact h.shows
  · exact iff_of_true rfl (Bytes.slice_eq_nil_of_le (Nat.le_refl _) _)

/-- Data that meets a pinned byte is written up to there. -/
theorem Refines.interrupted (h : e.Refines e.flat)
    (hin : (position + UInt64.ofNat data.length).toNat ≤ e.position)
    (hleft : (Piece.overwrite position.toNat data e.pieces).2 ≠ []) :
    ∃ count, count + (Piece.overwrite position.toNat data e.pieces).2.length = data.length ∧
      e.Interrupted position data count (e.rewrite position.toNat data) := by
  obtain ⟨written, hdata, hwritten, hstop⟩ := Piece.exists_written position.toNat data e.pieces
  have hpin : e.flat.pins[position.toNat + written.length]? = some true := hstop hleft
  have hlength := congrArg List.length hdata
  rw [List.length_append] at hlength
  have hpos := List.length_pos_iff.mpr hleft
  have htake : data.take written.length = written := by
    rw [hdata]
    exact List.take_left
  have hnil : (Piece.overwrite position.toNat written e.pieces).2 = [] := congrArg Prod.snd hwritten
  have hbytes : Piece.concat (Piece.overwrite position.toNat data e.pieces).1 =
      Bytes.splice position.toNat written e.flat.bytes := by
    rw [flat, ← Piece.concat_overwrite hnil, hwritten]
  -- The pinned byte is one of the vector, so all that was written in front of it is there.
  have hfits : position.toNat + written.length ≤ e.flat.bytes.length := by
    obtain ⟨hlt, -⟩ := List.getElem?_eq_some_iff.mp hpin
    rw [h.length_pins] at hlt
    exact Nat.le_of_lt hlt
  refine ⟨written.length, hlength.symm, ?_, rfl, ?_, ?_⟩
  · exact .inr ⟨by omega, hin, (Piece.overwrite_eq_nil_iff _ _ _).mp hnil, hpin⟩
  · rw [htake]
    refine Refines.shows ⟨hbytes, Piece.allPins_overwrite _ _ _, ?_⟩
    exact h.position.trans Bytes.length_splice.symm
  · rw [htake, ← Bytes.splice_eq_self_iff hfits]
    constructor
    · intro heq
      rw [← hbytes]
      exact congrArg (fun e : Encoder => Piece.concat e.pieces) heq
    · intro heq
      have hpieces := Piece.eq_of_rewrites
        (Piece.rewrites_overwrite position.toNat data e.pieces) (hbytes.trans heq)
      rw [Encoder.rewrite, hpieces]

/-- A failure to write over tells the offset of the byte that could not be written. -/
theorem Refines.interrupted_of_patch (h : e.Refines e.flat)
    (hfails : e.patch position data = (.error error, e')) :
    ∃ count, error = .invalidPatchOffset (position.toNat + count) ∧
      e.Interrupted position data count e' := by
  by_cases hin : (position + UInt64.ofNat data.length).toNat ≤ e.position
  · rw [patch_of_le hin] at hfails
    rcases e.overwrite_cases position.toNat data with ⟨-, heq⟩ | ⟨hleft, heq⟩
    · cases heq.symm.trans hfails
    · obtain ⟨rfl, rfl⟩ : _ ∧ _ := by simpa using heq.symm.trans hfails
      obtain ⟨count, hcount, hinterrupted⟩ := h.interrupted hin hleft
      refine ⟨count, congrArg EncodeError.invalidPatchOffset ?_, hinterrupted⟩
      omega
  · rw [patch_of_lt (Nat.not_le.mp hin)] at hfails
    cases hfails
    exact ⟨0, rfl, h.interrupted_zero (Nat.not_le.mp hin)⟩

/-- Writing over is refused or interrupted, and an interruption is not undone. The failure tells the
offset of the byte that could not be written: the data in front of it has been written, and nothing
else has changed. So an encoder is as it was when the first byte is pinned already or the data goes
beyond the end, and otherwise only if the data written is what stood there. The length of a
container is written over in the same way, unless two bytes cannot hold it; where its place wraps
around, this is so at the place that comes of that. -/
theorem patch_interrupted (signer : Option Signer) (requests : List Request) :
    let e := (run { signer } requests).2
    e.Shows e.flat ∧
    (∀ (position : UInt64) data error e', e.patch position data = (.error error, e') →
      ∃ count, error = .invalidPatchOffset (position.toNat + count) ∧
        e.Interrupted position data count e') ∧
    ∀ (position : UInt64) length error e',
      e.setContainerLength position length = (.error error, e') →
        maxLength < length ∧ error = .valueTooLong length ∧ e' = e ∨
          ∃ count, error = .invalidPatchOffset ((position + 2).toNat + count) ∧
            e.Interrupted (position + 2) (Bytes.ofNat 2 length) count e' := by
  intro e
  have hrefines : e.Refines e.flat := refines_after signer requests
  refine ⟨hrefines.shows, ?_, ?_⟩
  · intro position data error e' hfails
    exact hrefines.interrupted_of_patch hfails
  intro position length error e' hfails
  unfold setContainerLength at hfails
  split at hfails
  · next hlong =>
    cases hfails
    exact .inl ⟨hlong, rfl, rfl⟩
  · exact .inr (hrefines.interrupted_of_patch hfails)

/-! Three copied bytes in front of a value that is shared. Data over the last of them and the first
byte of the value, and the length of a container whose second byte is there. With one copied byte,
also the length of a container at the end of the words, which wraps around to it. -/

namespace Sample

/-- Some bytes and a long value. -/
def guarding (b : Bytes) : List Request :=
  [.append (.raw b), .append (.shared (List.replicate 64 7))]

/-- Three bytes and a long value. -/
def guarded : Encoder := (run {} (guarding [1, 2, 3])).2

end Sample

theorem patch_interrupted_sample :
    (∃ e', Sample.guarded.patch 2 [9, 9] = (.error (.invalidPatchOffset 3), e') ∧
      Sample.guarded.Interrupted 2 [9, 9] 1 e' ∧ e' ≠ Sample.guarded) ∧
    (∃ e', Sample.guarded.setContainerLength 0 0x0307 = (.error (.invalidPatchOffset 3), e') ∧
      Sample.guarded.Interrupted 2 [3, 7] 1 e' ∧ e' = Sample.guarded) ∧
    ∃ e', (run {} (Sample.guarding [1])).2.setContainerLength 0xFFFFFFFFFFFFFFFE 0x0307 =
        (.error (.invalidPatchOffset 1), e') ∧
      (run {} (Sample.guarding [1])).2.Interrupted 0 [3, 7] 1 e' ∧ e'.bytesInRange 0 1 = [3] := by
  obtain ⟨-, hpatch, hlength⟩ := patch_interrupted none (Sample.guarding [1, 2, 3])
  obtain ⟨-, -, hwrapped⟩ := patch_interrupted none (Sample.guarding [1])
  refine ⟨?_, ?_, ?_⟩
  · obtain ⟨e', hfails⟩ : ∃ e', Sample.guarded.patch 2 [9, 9] =
        (.error (.invalidPatchOffset 3), e') := ⟨_, rfl⟩
    obtain ⟨count, hcount, hinterrupted⟩ := hpatch 2 [9, 9] _ e' hfails
    obtain rfl : 1 = count := Nat.add_left_cancel (EncodeError.invalidPatchOffset.inj hcount)
    have hchanged := mt hinterrupted.unchanged_iff.mp (by decide)
    exact ⟨e', hfails, hinterrupted, hchanged⟩
  · obtain ⟨e', hfails⟩ : ∃ e', Sample.guarded.setContainerLength 0 0x0307 =
        (.error (.invalidPatchOffset 3), e') := ⟨_, rfl⟩
    rcases hlength 0 0x0307 _ e' hfails with ⟨hlong, -, -⟩ | ⟨count, hcount, hinterrupted⟩
    · exact absurd hlong (by decide)
    · obtain rfl : 1 = count := Nat.add_left_cancel (EncodeError.invalidPatchOffset.inj hcount)
      exact ⟨e', hfails, hinterrupted, hinterrupted.unchanged_iff.mpr (by decide)⟩
  · obtain ⟨e', hfails, hbytes⟩ : ∃ e', (run {} (Sample.guarding [1])).2.setContainerLength
        0xFFFFFFFFFFFFFFFE 0x0307 = (.error (.invalidPatchOffset 1), e') ∧
          e'.bytesInRange 0 1 = [3] := ⟨_, rfl, by decide⟩
    rcases hwrapped 0xFFFFFFFFFFFFFFFE 0x0307 _ e' hfails with
      ⟨hlong, -, -⟩ | ⟨count, hcount, hinterrupted⟩
    · exact absurd hlong (by decide)
    · obtain rfl : 1 = count := Nat.add_left_cancel (EncodeError.invalidPatchOffset.inj hcount)
      exact ⟨e', hfails, hinterrupted, hbytes⟩

/-- Data that meets a shared byte is refused, and its first byte stays written. -/
theorem patch_rewrites_front :
    ∃ e', Sample.guarded.patch 2 [9, 9] = (.error (.invalidPatchOffset 3), e') ∧
      Sample.guarded.bytesInRange 0 3 = [1, 2, 3] ∧ e'.bytesInRange 0 3 = [1, 2, 9] ∧
        e'.toScatter.toBytes ≠ Sample.guarded.toScatter.toBytes :=
  ⟨_, rfl, by decide, by decide, by decide⟩

end Encoder

end NamedContent
