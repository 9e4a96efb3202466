import Mathlib.Data.List.Induction
import NamedContent.Bytes

/-!
# Numbers and their bytes

The two ways to write a number are exact: `width` bytes are the number they denote
(`ofNat_toNat`), and a byte string is the shortest form of a number precisely when it has at most
eight bytes and no superfluous zero in front (`minimal?_eq_some_iff`).
-/

namespace NamedContent.Bytes

/-! ## Numbers of a given width -/

theorem toNat_lt_bound (b : Bytes) : toNat b < bound b.length := by
  induction b using List.reverseRecOn with
  | nil => decide
  | append_singleton b x ih =>
    have hx := x.toNat_lt
    rw [toNat_concat, List.length_append, List.length_singleton, bound]
    omega

/-- Bytes are the written form of the number they denote. -/
theorem ofNat_toNat (b : Bytes) : ofNat b.length (toNat b) = b := by
  induction b using List.reverseRecOn with
  | nil => rfl
  | append_singleton b x ih =>
    have hx := x.toNat_lt
    have hdiv : (toNat b * 256 + x.toNat) / 256 = toNat b := by omega
    have hlast : UInt8.ofNat (toNat b * 256 + x.toNat) = x := by
      apply UInt8.toNat_inj.mp
      rw [UInt8.toNat_ofNat']
      omega
    rw [toNat_concat, List.length_append, List.length_singleton, ofNat, hdiv, hlast, ih]

theorem bound_mono {v w : Nat} (h : v ≤ w) : bound v ≤ bound w := by
  induction w with
  | zero => exact Nat.le_of_eq (congrArg bound (Nat.le_zero.mp h))
  | succ w ih =>
    rcases Nat.le_succ_iff.mp h with h | rfl
    · have := ih h
      rw [bound]
      omega
    · exact Nat.le_refl _

theorem ofNat_zero (width : Nat) : ofNat width 0 = List.replicate width 0 := by
  induction width with
  | zero => rfl
  | succ width ih => rw [ofNat, Nat.zero_div, ih, List.replicate_succ']; rfl

/-- In a greater width a number has zeros in front. -/
theorem ofNat_add {width n : Nat} (k : Nat) (h : n < bound width) :
    ofNat (width + k) n = List.replicate k 0 ++ ofNat width n := by
  induction width generalizing n with
  | zero =>
    obtain rfl : n = 0 := by simpa [bound] using h
    rw [Nat.zero_add, ofNat_zero, ofNat, List.append_nil]
  | succ width ih =>
    have hdiv : n / 256 < bound width := by
      rw [bound] at h
      omega
    rw [show width + 1 + k = width + k + 1 by omega, ofNat, ofNat, ih hdiv, List.append_assoc]

/-! ## Numbers in the fewest bytes -/

theorem dropZeros_ne_nil {b : Bytes} (h : b ≠ []) : dropZeros b ≠ [] := by
  fun_induction dropZeros b with
  | case1 y rest ih => exact ih (List.cons_ne_nil _ _)
  | case2 => exact h
  | case3 => exact h

theorem length_dropZeros_le (b : Bytes) : (dropZeros b).length ≤ b.length := by
  fun_induction dropZeros b with
  | case1 y rest ih => rw [List.length_cons]; omega
  | case2 => exact Nat.le_refl _
  | case3 => exact Nat.le_refl _

/-- Zeros in front do not change the number. -/
theorem toNat_dropZeros (b : Bytes) : toNat (dropZeros b) = toNat b := by
  fun_induction dropZeros b with
  | case1 y rest ih => rw [ih]; simp [toNat]
  | case2 => rfl
  | case3 => rfl

theorem isMinimal_dropZeros {b : Bytes} (h : b ≠ []) : isMinimal (dropZeros b) = true := by
  fun_induction dropZeros b with
  | case1 y rest ih => exact ih (List.cons_ne_nil _ _)
  | case2 x y rest hx => simpa [isMinimal] using hx
  | case3 b hb =>
    cases b with
    | nil => exact absurd rfl h
    | cons x rest =>
      cases rest with
      | nil => rfl
      | cons y rest => exact absurd rfl (hb x y rest)

theorem dropZeros_of_isMinimal {b : Bytes} (h : isMinimal b = true) : dropZeros b = b := by
  fun_induction dropZeros b with
  | case1 y rest ih => simp [isMinimal] at h
  | case2 => rfl
  | case3 => rfl

theorem dropZeros_replicate_append (k : Nat) {b : Bytes} (h : b ≠ []) :
    dropZeros (List.replicate k 0 ++ b) = dropZeros b := by
  induction k with
  | zero => rfl
  | succ k ih =>
    obtain ⟨x, rest, hcons⟩ := List.exists_cons_of_ne_nil
      (show List.replicate k 0 ++ b ≠ [] from fun e => h (List.append_eq_nil_iff.mp e).2)
    rw [List.replicate_succ, List.cons_append, hcons, dropZeros, if_pos rfl, ← hcons, ih]

theorem minimal_ne_nil (v : UInt64) : minimal v ≠ [] :=
  dropZeros_ne_nil (List.ne_nil_of_length_pos (by simp))

theorem length_minimal_le (v : UInt64) : (minimal v).length ≤ 8 := by
  have := length_dropZeros_le (ofNat 8 v.toNat)
  rwa [length_ofNat] at this

theorem isMinimal_minimal (v : UInt64) : isMinimal (minimal v) = true :=
  isMinimal_dropZeros (List.ne_nil_of_length_pos (by simp))

/-- The shortest form of a number denotes it. -/
theorem toNat_minimal (v : UInt64) : toNat (minimal v) = v.toNat := by
  have hv := v.toNat_lt
  have hbound : bound 8 = 2 ^ 64 := by decide
  rw [minimal, toNat_dropZeros, toNat_ofNat, Nat.mod_eq_of_lt (by omega)]

/-- The shortest form of the number that a byte string denotes: the zeros in front are dropped. -/
theorem minimal_ofNat_toNat {b : Bytes} (hne : b ≠ []) (hlen : b.length ≤ 8) :
    minimal (UInt64.ofNat (toNat b)) = dropZeros b := by
  have hlt := toNat_lt_bound b
  have hmono := bound_mono hlen
  have hbound : bound 8 = 2 ^ 64 := by decide
  have hn : (UInt64.ofNat (toNat b)).toNat = toNat b := by
    rw [UInt64.toNat_ofNat']
    omega
  -- In eight bytes the number is the byte string behind zeros, and these are dropped.
  have hpad : ofNat 8 (toNat b) = List.replicate (8 - b.length) 0 ++ b := by
    rw [← Nat.add_sub_cancel' hlen, ofNat_add _ hlt, ofNat_toNat, Nat.add_sub_cancel_left]
  rw [minimal, hn, hpad, dropZeros_replicate_append _ hne]

/-- A byte string without a superfluous zero is the shortest form of its number. -/
theorem minimal_toNat {b : Bytes} (hmin : isMinimal b = true) (hlen : b.length ≤ 8) :
    minimal (UInt64.ofNat (toNat b)) = b := by
  have hne : b ≠ [] := by rintro rfl; cases hmin
  rw [minimal_ofNat_toNat hne hlen, dropZeros_of_isMinimal hmin]

/-- The number of which a byte string is the shortest form. -/
def minimal? (b : Bytes) : Option UInt64 :=
  if isMinimal b ∧ b.length ≤ 8 then some (UInt64.ofNat (toNat b)) else none

theorem minimal?_minimal (v : UInt64) : minimal? (minimal v) = some v := by
  rw [minimal?, if_pos ⟨isMinimal_minimal v, length_minimal_le v⟩, toNat_minimal,
    UInt64.ofNat_toNat]

theorem minimal?_eq_some_iff {b : Bytes} {v : UInt64} : minimal? b = some v ↔ b = minimal v := by
  constructor
  · intro h
    unfold minimal? at h
    split at h
    · next hb =>
      cases h
      exact (minimal_toNat hb.1 hb.2).symm
    · cases h
  · rintro rfl
    exact minimal?_minimal v

/-- One to eight bytes are the number that they denote. -/
theorem toUInt64?_eq_some_iff {b : Bytes} {v : UInt64} :
    toUInt64? b = some v ↔ (1 ≤ b.length ∧ b.length ≤ 8) ∧ toNat b = v.toNat := by
  have hwidth : (b.isEmpty || 8 < b.length) = true ↔ ¬ (1 ≤ b.length ∧ b.length ≤ 8) := by
    cases b with
    | nil => simp
    | cons x rest => simp [Nat.lt_succ_iff, Nat.succ_le_iff]
  by_cases h : 1 ≤ b.length ∧ b.length ≤ 8
  · have hlt := toNat_lt_bound b
    have hmono := bound_mono h.2
    have hbound : bound 8 = 2 ^ 64 := by decide
    rw [toUInt64?, if_neg fun hout => hwidth.mp hout h, Option.some.injEq, ← UInt64.toNat_inj,
      UInt64.toNat_ofNat', Nat.mod_eq_of_lt (by omega)]
    exact (and_iff_right h).symm
  · rw [toUInt64?, if_pos (hwidth.mpr h)]
    exact iff_of_false nofun fun hsome => h hsome.1

end NamedContent.Bytes
