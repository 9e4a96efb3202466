import NamedContent.Text.Hex

/-!
# Numerals

Decimal digits, or `0x` and hexadecimal digits, with a bound on the value. A plus sign may stand
in front of the digits; leading zeros do not matter.
-/

namespace NamedContent.Numeral

/-- The value of a decimal digit. -/
def digit? (c : Char) : Option Nat :=
  if '0' ≤ c ∧ c ≤ '9' then some (c.toNat - 48) else none

/-- The number that digits in `base` denote, when each character is one and it is below `bound`. -/
def ofDigits? (base bound : Nat) (value? : Char → Option Nat) (text : List Char) : Option Nat := do
  let digits ← text.mapM value?
  let n := digits.foldl (fun n d => n * base + d) 0
  if n < bound then some n else none

/-- Digits with an optional plus sign in front; there is at least one digit. -/
def signed? (base bound : Nat) (value? : Char → Option Nat) (text : List Char) : Option Nat :=
  let digits := match text with
    | '+' :: rest => rest
    | _ => text
  if digits.isEmpty then none else ofDigits? base bound value? digits

/-- A decimal numeral, or a hexadecimal one behind `0x` or `0X`, of at most 16 bits. -/
def uint16? (text : List Char) : Option UInt16 :=
  (match text with
    | '0' :: 'x' :: rest => signed? 16 65536 Hex.digit? rest
    | '0' :: 'X' :: rest => signed? 16 65536 Hex.digit? rest
    | _ => signed? 10 65536 digit? text).map UInt16.ofNat

end NamedContent.Numeral
