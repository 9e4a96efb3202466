/-!
# Byte strings and big-endian numbers

Packets, names and keys are byte strings. This file holds the type, numbers written big-endian in
a given width (`Bytes.ofNat`) or in the fewest bytes (`Bytes.minimal`), and the cut at a given
length that every reader of a packet is built from (`Bytes.splitAt?`).

* `toNat_ofNat`: a number read back is the number modulo the range of its width.
* `splitAt?_eq_some_iff`: a cut succeeds exactly on a byte string long enough for it.
-/

namespace NamedContent

/-- A byte string. -/
abbrev Bytes := List UInt8

namespace Bytes

/-! ## Numbers of a given width -/

/-- The value of a byte string read as a big-endian number. -/
def toNat (b : Bytes) : Nat := b.foldl (fun n x => n * 256 + x.toNat) 0

/-- The last `width` digits of `n` in base 256, the most significant first. -/
def ofNat : (width : Nat) → (n : Nat) → Bytes
  | 0, _ => []
  | width + 1, n => ofNat width (n / 256) ++ [UInt8.ofNat n]

@[simp] theorem length_ofNat (width n : Nat) : (ofNat width n).length = width := by
  induction width generalizing n with
  | zero => rfl
  | succ width ih => simp [ofNat, ih]

@[simp] theorem toNat_nil : toNat [] = 0 := rfl

theorem toNat_concat (b : Bytes) (x : UInt8) : toNat (b ++ [x]) = toNat b * 256 + x.toNat := by
  simp [toNat, List.foldl_append]

/-- How many numbers a width has room for. -/
def bound : (width : Nat) → Nat
  | 0 => 1
  | width + 1 => 256 * bound width

/-- A number written in `width` bytes reads back modulo the range of that width. -/
theorem toNat_ofNat (width n : Nat) : toNat (ofNat width n) = n % bound width := by
  induction width generalizing n with
  | zero => simp [ofNat, bound, Nat.mod_one]
  | succ width ih =>
    have hx : (UInt8.ofNat n).toNat = n % 256 := by simp
    rw [ofNat, toNat_concat, ih, hx, bound, Nat.mod_mul]
    omega

/-! ## Numbers in the fewest bytes -/

/-- A byte string without its leading zero bytes; the last byte stays whatever it is. -/
def dropZeros : Bytes → Bytes
  | x :: y :: rest => if x = 0 then dropZeros (y :: rest) else x :: y :: rest
  | b => b

/-- A 64-bit number in the fewest bytes, at least one. -/
def minimal (v : UInt64) : Bytes := dropZeros (ofNat 8 v.toNat)

/-- Whether a byte string is the shortest form of its number: one byte, or no leading zero. -/
def isMinimal : Bytes → Bool
  | [] => false
  | [_] => true
  | x :: _ :: _ => x != 0

/-- The number in a byte string of one to eight bytes. -/
def toUInt64? (b : Bytes) : Option UInt64 :=
  if b.isEmpty || 8 < b.length then none else some (UInt64.ofNat (toNat b))

/-! ## Cutting -/

/-- The first `n` bytes and what follows them, when there are that many. -/
def splitAt? (n : Nat) (b : Bytes) : Option (Bytes × Bytes) :=
  let head := b.take n
  if head.length = n then some (head, b.drop n) else none

theorem splitAt?_eq_some_iff {n : Nat} {b x y : Bytes} :
    splitAt? n b = some (x, y) ↔ b = x ++ y ∧ x.length = n := by
  constructor
  · intro h
    simp only [splitAt?] at h
    split at h
    · next hl =>
      obtain ⟨rfl, rfl⟩ := Prod.mk.inj (Option.some.inj h)
      exact ⟨(List.take_append_drop n b).symm, hl⟩
    · simp at h
  · rintro ⟨rfl, rfl⟩
    simp [splitAt?]

theorem splitAt?_eq_none_iff {n : Nat} {b : Bytes} : splitAt? n b = none ↔ b.length < n := by
  simp only [splitAt?, List.length_take]
  split
  · simp; omega
  · simp; omega

/-- The bytes at `[start, stop)`, as far as there are any. -/
def slice (start stop : Nat) (b : Bytes) : Bytes := (b.take stop).drop start

end Bytes

end NamedContent
