import Mathlib.Algebra.Group.Nat.Defs
import NamedContent.Proofs.Cursors
import NamedContent.Proofs.NameOrder

/-!
# Numbers in the fewest bytes

A number has one form without a superfluous zero, whichever way it is made: by dropping zeros, or by
counting the zero bits in front. Shorter forms belong to smaller numbers, and among forms of one
length the bytes decide, as they do among segments; so chunks of a name stand in the order of their
numbers.

* `shiftOr_eq`, `minimal_eq_drop`: reading by shifts, and writing by the count of leading zero bits.
* `compare_toNat`: the order of numbers is that of their forms, by length and then by bytes.
* `minimal_canonical`: all that is written, read, compared.
-/

namespace NamedContent

namespace Bytes

variable {b c : Bytes} {n width : Nat}

/-! ## Shifts -/

/-- The number that bytes denote when they are shifted in one after the other. -/
def shiftOr (b : Bytes) : UInt64 := b.foldl (fun n x => n <<< 8 ||| x.toUInt64) 0

/-- One more byte, where only the last 64 bits are kept. -/
theorem shift_or_eq (n : Nat) (x : UInt8) :
    UInt64.ofNat n <<< 8 ||| x.toUInt64 = UInt64.ofNat (n * 256 + x.toNat) := by
  have hx : x.toNat < 2 ^ 8 := x.toNat_lt
  have hshift : (UInt64.ofNat n <<< 8).toNat = 2 ^ 8 * (n % 2 ^ 56) := by
    rw [UInt64.toNat_shiftLeft, UInt64.toNat_ofNat', show (8 : UInt64).toNat % 64 = 8 from rfl,
      Nat.shiftLeft_eq]
    omega
  apply UInt64.toNat_inj.mp
  rw [UInt64.toNat_or, hshift, UInt8.toNat_toUInt64, ← Nat.two_pow_add_eq_or_of_lt hx,
    UInt64.toNat_ofNat']
  omega

theorem shiftOr_eq (b : Bytes) : shiftOr b = UInt64.ofNat (toNat b) := by
  induction b using List.reverseRecOn with
  | nil => rfl
  | append_singleton b x ih =>
    rw [toNat_concat, ← shift_or_eq, ← ih]
    simp only [shiftOr, List.foldl_append, List.foldl_cons, List.foldl_nil]

/-! ## Leading zeros -/

theorem bound_eq_two_pow (width : Nat) : bound width = 2 ^ (8 * width) := by
  induction width with
  | zero => rfl
  | succ width ih => rw [bound, ih, Nat.mul_succ, Nat.pow_add, Nat.mul_comm]

theorem toNat_cons (x : UInt8) (b : Bytes) :
    toNat (x :: b) = x.toNat * bound b.length + toNat b := by
  induction b using List.reverseRecOn with
  | nil => simp [toNat, bound]
  | append_singleton b y ih =>
    rw [← List.cons_append, toNat_concat, ih, toNat_concat, List.length_append,
      List.length_singleton, bound, Nat.mul_left_comm]
    omega

/-- A number that fills its width has no zero in front. -/
theorem isMinimal_ofNat (hlow : bound width ≤ n) (hhigh : n < bound (width + 1)) :
    isMinimal (ofNat (width + 1) n) = true := by
  have hnumber : toNat (ofNat (width + 1) n) = n := by
    rw [toNat_ofNat, Nat.mod_eq_of_lt hhigh]
  have hlength := length_ofNat (width + 1) n
  match hdigits : ofNat (width + 1) n with
  | [] => rw [hdigits] at hlength; cases hlength
  | [_] => rfl
  | x :: y :: rest =>
    rw [hdigits] at hnumber hlength
    simp only [isMinimal, bne_iff_ne]
    rintro rfl
    have hlt := toNat_lt_bound (y :: rest)
    rw [show (y :: rest).length = width by simpa using hlength] at hlt
    rw [toNat_cons, UInt8.toNat_zero, Nat.zero_mul, Nat.zero_add] at hnumber
    omega

/-- The whole bytes of zeros in front of the eight bytes of a number, but not all eight. -/
def zeroBytes (v : UInt64) : Nat := min (v.toBitVec.clz.toNat / 8) 7

/-- The fewest bytes are what is left of eight bytes without the zeros that are counted. -/
theorem minimal_eq_drop (v : UInt64) : minimal v = (ofNat 8 v.toNat).drop (zeroBytes v) := by
  obtain ⟨width, hwidth⟩ : ∃ width, width + 1 + zeroBytes v = 8 :=
    ⟨7 - zeroBytes v, by unfold zeroBytes; omega⟩
  have hhigh : v.toNat < bound (width + 1) := by
    rw [bound_eq_two_pow]
    refine Nat.lt_of_lt_of_le BitVec.toNat_lt_two_pow_sub_clz (Nat.pow_le_pow_right (by decide) ?_)
    unfold zeroBytes at hwidth
    omega
  have hminimal : isMinimal (ofNat (width + 1) v.toNat) = true := by
    cases width with
    | zero => rfl
    | succ width =>
      -- Fewer than seven bytes are zero, so the first bit of the number is in the next one.
      have hcount : v.toBitVec.clz.toNat < 8 * (zeroBytes v + 1) := by
        unfold zeroBytes at hwidth ⊢
        omega
      have hne : v.toBitVec ≠ 0#64 := by
        intro hzero
        have hall : v.toBitVec.clz.toNat = 64 := by
          rw [BitVec.clz_eq_iff_eq_zero.mpr hzero]
          rfl
        omega
      refine isMinimal_ofNat ?_ hhigh
      rw [bound_eq_two_pow]
      refine Nat.le_trans (Nat.pow_le_pow_right (by decide) ?_)
        (BitVec.two_pow_sub_clz_le_toNat_of_ne_zero (by decide) hne)
      omega
  have hdigits : ofNat 8 v.toNat = List.replicate (zeroBytes v) 0 ++ ofNat (width + 1) v.toNat := by
    rw [← hwidth, ofNat_add _ hhigh]
  have hne : ofNat (width + 1) v.toNat ≠ [] := List.ne_nil_of_length_pos (by simp)
  rw [minimal, hdigits, dropZeros_replicate_append _ hne, dropZeros_of_isMinimal hminimal,
    List.drop_left' List.length_replicate]

/-! ## Order -/

/-- A shorter form belongs to a smaller number. -/
theorem toNat_lt_of_length (hminimal : isMinimal c = true) (hne : b ≠ [])
    (h : b.length < c.length) : toNat b < toNat c := by
  have hpos := List.length_pos_of_ne_nil hne
  match c with
  | [] | [_] => simp only [List.length_cons, List.length_nil] at h; omega
  | x :: y :: rest =>
    have hx : 0 < x.toNat := by
      rw [isMinimal, bne_iff_ne] at hminimal
      exact Nat.pos_of_ne_zero fun hzero => hminimal (UInt8.toNat_inj.mp hzero)
    calc toNat b < bound b.length := toNat_lt_bound b
      _ ≤ bound (y :: rest).length := bound_mono (Nat.le_of_lt_succ h)
      _ ≤ x.toNat * bound (y :: rest).length := Nat.le_mul_of_pos_left _ hx
      _ ≤ toNat (x :: y :: rest) := by rw [toNat_cons]; exact Nat.le_add_right _ _

/-- The first of two digits decides, unless both are equal. -/
theorem compare_digits {m n r s base : Nat} (hr : r < base) (hs : s < base) :
    compare (m * base + r) (n * base + s) = (compare m n).then (compare r s) := by
  rcases Nat.lt_trichotomy m n with hlt | rfl | hgt
  · have hstep := Nat.mul_le_mul_right base (Nat.succ_le_of_lt hlt)
    rw [Nat.succ_mul] at hstep
    rw [Nat.compare_eq_lt.mpr hlt, Nat.compare_eq_lt.mpr (by omega)]
    rfl
  · rw [Nat.compare_eq_eq.mpr rfl, Ordering.eq_then]
    simp only [Nat.compare_eq_ite_lt, Nat.add_lt_add_iff_left]
  · have hstep := Nat.mul_le_mul_right base (Nat.succ_le_of_lt hgt)
    rw [Nat.succ_mul] at hstep
    rw [Nat.compare_eq_gt.mpr hgt, Nat.compare_eq_gt.mpr (by omega)]
    rfl

/-- Numbers of one width are ordered as their bytes. -/
theorem compare_of_length_eq (h : b.length = c.length) :
    compare b c = compare (toNat b) (toNat c) := by
  induction b generalizing c with
  | nil =>
    cases c with
    | nil => rfl
    | cons y c => cases h
  | cons x b ih =>
    cases c with
    | nil => cases h
    | cons y c =>
      have hlength : b.length = c.length := Nat.succ.inj h
      have hb := toNat_lt_bound b
      rw [hlength] at hb
      rw [List.compare_cons_cons, UInt8.compare_eq_toNat_compare_toNat, ih hlength, toNat_cons,
        toNat_cons, hlength, compare_digits hb (toNat_lt_bound c)]

/-- Numbers are ordered as their forms, by length and then by bytes. -/
theorem compare_toNat (hb : isMinimal b = true) (hc : isMinimal c = true) :
    (compare b.length c.length).then (compare b c) = compare (toNat b) (toNat c) := by
  have hne : b ≠ [] := by rintro rfl; cases hb
  have hne' : c ≠ [] := by rintro rfl; cases hc
  rcases Nat.lt_trichotomy b.length c.length with hlt | heq | hgt
  · rw [Nat.compare_eq_lt.mpr hlt, Nat.compare_eq_lt.mpr (toNat_lt_of_length hc hne hlt)]
    rfl
  · rw [Nat.compare_eq_eq.mpr heq, compare_of_length_eq heq]
    rfl
  · rw [Nat.compare_eq_gt.mpr hgt, Nat.compare_eq_gt.mpr (toNat_lt_of_length hb hne' hgt)]
    rfl

end Bytes

/-! ## Chunks -/

namespace Name

/-- Chunks behind one name stand in the order of their numbers. -/
theorem compare_append_chunk (n : Name) (a b : UInt64) :
    (n.append (Segment.chunk a)).compare (n.append (Segment.chunk b)) = Ord.compare a b := by
  have hminimal := Bytes.compare_toNat (Bytes.isMinimal_minimal a) (Bytes.isMinimal_minimal b)
  have hsegment : (Segment.chunk a).compare (Segment.chunk b) =
      Ord.compare (Bytes.toNat (Bytes.minimal a)) (Bytes.toNat (Bytes.minimal b)) := by
    rw [← hminimal]
    simp [Segment.compare, Segment.chunk, Segment.ofType, Segment.type, Label.ofType]
  calc (n.append (Segment.chunk a)).compare (n.append (Segment.chunk b))
      = compare ⟨[Segment.chunk a]⟩ ⟨[Segment.chunk b]⟩ :=
        compare_append_left n.segments ⟨[Segment.chunk a]⟩ ⟨[Segment.chunk b]⟩
    _ = (Segment.chunk a).compare (Segment.chunk b) := by
      rw [compare_cons]
      exact Ordering.then_eq
    _ = Ord.compare a b := by
      rw [hsegment, Bytes.toNat_minimal, Bytes.toNat_minimal, UInt64.compare_eq_toNat_compare_toNat]

end Name

namespace Bytes

/-! ## The form of a number -/

/-- A byte string is the form of a number wherever a number is written in the fewest bytes, and the
number is read back from it in every way; no shorter one has the same number. -/
structure IsFormOf (b : Bytes) (v : UInt64) : Prop where
  length : 1 ≤ b.length ∧ b.length ≤ 8
  minimal : isMinimal b = true
  written : ∀ type, (Emit.number type v).result = .ok (Tlv.headerLength + b.length) ∧
    (Emit.number type v).bytes = Tlv.toBytes ⟨type, b⟩
  parsed : toUInt64? b = some v
  shifted : shiftOr b = v
  read : ∀ (c : Cursor) behind, c.rest = b ++ behind →
    ∃ c', c.number b.length = (.ok v, c') ∧ c.Over b c' ∧ c'.rest = behind
  chunk : (Segment.chunk v).value = b
  chunkNumber : (Segment.chunk v).chunkNumber? = some v
  cut : (ofNat 8 v.toNat).drop (zeroBytes v) = b
  least : ∀ d, d ≠ [] → d.length < b.length → toUInt64? d ≠ some v

theorem length_minimal (v : UInt64) : 1 ≤ (minimal v).length ∧ (minimal v).length ≤ 8 :=
  ⟨List.length_pos_of_ne_nil (minimal_ne_nil v), length_minimal_le v⟩

theorem isFormOf_minimal (v : UInt64) : (minimal v).IsFormOf v where
  length := length_minimal v
  minimal := isMinimal_minimal v
  written type := by
    have hfits : Tlv.Fits ⟨type, Bytes.minimal v⟩ :=
      Nat.le_trans (length_minimal_le v) (by decide)
    obtain ⟨hresult, hbytes⟩ := (Emit.writes_copied ⟨type, Bytes.minimal v⟩).run hfits
    rw [Tlv.length_toBytes] at hresult
    exact ⟨hresult, hbytes⟩
  parsed := toUInt64?_eq_some_iff.mpr ⟨length_minimal v, toNat_minimal v⟩
  shifted := by rw [shiftOr_eq, toNat_minimal, UInt64.ofNat_toNat]
  read c behind hrest := by
    obtain ⟨hover, hbehind⟩ := Cursor.over_skip hrest
    refine ⟨_, ?_, hover, hbehind⟩
    rw [Cursor.number, if_pos (length_minimal v), Cursor.take_eq_ok_iff.mpr ⟨rfl, hover⟩]
    simp only [Except.map, toNat_minimal, UInt64.ofNat_toNat]
  chunk := rfl
  chunkNumber := by
    have hlength : (Segment.chunk v).value.length ≤ 8 := length_minimal_le v
    rw [Segment.chunkNumber?, if_pos ⟨rfl, hlength⟩]
    exact congrArg some (by rw [Segment.chunk, Segment.ofType, toNat_minimal, UInt64.ofNat_toNat])
  cut := (minimal_eq_drop v).symm
  least d hne hlength hparsed := by
    have hlt := toNat_lt_of_length (isMinimal_minimal v) hne hlength
    rw [(toUInt64?_eq_some_iff.mp hparsed).2, toNat_minimal] at hlt
    exact Nat.lt_irrefl _ hlt

/-- Numbers are written in the fewest bytes in one way: the bytes of every number are the only ones
without a superfluous zero that denote it, whether they are written as an element or as a chunk of a
name, and the names of chunks are ordered as their numbers. -/
theorem minimal_canonical :
    (∀ v, (minimal v).IsFormOf v) ∧
    (∀ b : Bytes, 1 ≤ b.length → b.length ≤ 8 → isMinimal b = true →
      ∃ v, toUInt64? b = some v ∧ b.IsFormOf v) ∧
    ∀ (n : Name) (a b : UInt64),
      (n.append (Segment.chunk a)).compare (n.append (Segment.chunk b)) = compare a b := by
  refine ⟨isFormOf_minimal, fun b _ hle hminimal => ?_, Name.compare_append_chunk⟩
  have hform := isFormOf_minimal (UInt64.ofNat (toNat b))
  rw [minimal_toNat hminimal hle] at hform
  exact ⟨_, hform.parsed, hform⟩

theorem minimal_canonical_sample :
    1 ≤ [0x01, 0x00].length ∧ [0x01, 0x00].length ≤ 8 ∧ isMinimal [0x01, 0x00] = true ∧
      ∃ v, toUInt64? [0x01, 0x00] = some v ∧ IsFormOf [0x01, 0x00] v :=
  ⟨by decide, by decide, rfl, minimal_canonical.2.1 [0x01, 0x00] (by decide) (by decide) rfl⟩

end Bytes

end NamedContent
