import NamedContent.Bytes

/-!
# Hexadecimal text

Digits, byte strings in lower-case hexadecimal, and the `0x` spellings of type codes that error
messages use.
-/

namespace NamedContent.Hex

/-- The value of a hexadecimal digit in either case. -/
def digit? (c : Char) : Option Nat :=
  if '0' ≤ c ∧ c ≤ '9' then some (c.toNat - 48)
  else if 'a' ≤ c ∧ c ≤ 'f' then some (c.toNat - 87)
  else if 'A' ≤ c ∧ c ≤ 'F' then some (c.toNat - 55)
  else none

/-- The lower-case digit of a number below 16. -/
def lower (n : Nat) : Char := Nat.digitChar (n % 16)

/-- The upper-case digit of a number below 16. -/
def upper (n : Nat) : Char := (lower n).toUpper

/-- Two lower-case digits for each byte. -/
def encode (b : Bytes) : List Char :=
  b.flatMap fun x => [lower (x.toNat / 16), lower x.toNat]

/-- Two lower-case digits for each byte, as a string. -/
def text (b : Bytes) : String := String.ofList (encode b)

/-- A number with `0x` in front, padded with zeros to `width` digits. -/
def padded (width n : Nat) : String :=
  let digits := Nat.toDigits 16 n
  "0x" ++ String.ofList (List.replicate (width - digits.length) '0' ++ digits)

/-- A type code as four digits. -/
def code (t : UInt16) : String := padded 4 t.toNat

end NamedContent.Hex
