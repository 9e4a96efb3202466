import NamedContent.Json.Basic
import NamedContent.Text.Numeral

/-!
# JSON numbers

Integers that fit into 64 bits are kept. Every other number becomes a binary64 number: as many
digits as 64 bits hold make a whole number, which is then multiplied or divided by a power of ten.
Both steps round, so the result may differ from the nearest number in the last place. A number
that is too large is not accepted.
-/

namespace NamedContent.Json

/-- The digits of a number: those that 64 bits hold, and the power of ten that goes with them. -/
structure Significand where
  value : UInt64 := 0
  exponent : Int := 0
  /-- There was no room for a digit in the current part of the number. -/
  full : Bool := false

namespace Significand

/-- One more digit behind the significand, when it has room. -/
def push? (s : Significand) (digit : Nat) : Option UInt64 :=
  let next := s.value.toNat * 10 + digit
  if s.full || UInt64.size ≤ next then none else some (UInt64.ofNat next)

/-- Takes in a digit of the whole part. A digit without room still counts as a place. -/
def pushWhole (s : Significand) (digit : Nat) : Significand :=
  match s.push? digit with
  | some value => { s with value }
  | none => { s with exponent := s.exponent + 1, full := true }

/-- Takes in a digit of the fraction. A digit without room is ignored. -/
def pushFraction (s : Significand) (digit : Nat) : Significand :=
  match s.push? digit with
  | some value => { s with value, exponent := s.exponent - 1 }
  | none => { s with full := true }

end Significand

/-- The greatest exponent that is taken as it is. -/
def greatestExponent : Nat := (1 <<< 31) - 1

/-- A power of ten up to 308. -/
def powerOfTen (e : Nat) : Float := Float.ofScientific 1 false e

/-- A number divided by a power of ten, 308 places at a time. -/
def divideByPower (f : Float) (e : Nat) : Float :=
  if _h : e ≤ 308 then f / powerOfTen e
  else if f == 0 then f
  else divideByPower (f / powerOfTen 308) (e - 308)
termination_by e

/-- A whole number times a power of ten, unless it is too large. -/
def scale? (value : UInt64) (exponent : Int) : Option Float :=
  let f := value.toFloat
  if exponent < 0 then some (divideByPower f (-exponent).toNat)
  else if exponent ≤ 308 then
    let product := f * powerOfTen exponent.toNat
    if product.isInf then none else some product
  else if value = 0 then some f
  else none

/-- The digits at the front of a text, and what follows them. -/
def spanDigits : List Char → List Nat × List Char
  | [] => ([], [])
  | c :: rest =>
    match Numeral.digit? c with
    | none => ([], c :: rest)
    | some d =>
      match spanDigits rest with
      | (digits, behind) => (d :: digits, behind)

/-- The sign of an exponent, and what follows it. -/
def exponentSign : List Char → Bool × List Char
  | '-' :: rest => (true, rest)
  | '+' :: rest => (false, rest)
  | text => (false, text)

/-- The magnitude with a given exponent. An exponent out of all bounds leaves zero or nothing. -/
def withExponent? (s : Significand) (negative : Bool) (exponent : Nat) : Option Float :=
  if greatestExponent < exponent then if s.value ≠ 0 ∧ !negative then none else some 0
  else scale? s.value (s.exponent + if negative then -(exponent : Int) else exponent)

/-- The magnitude of a number that is not whole, and what follows it. -/
def magnitude? (s : Significand) : List Char → Option (Float × List Char)
  | [] => (scale? s.value s.exponent).map (·, [])
  | c :: rest =>
    if c = 'e' ∨ c = 'E' then
      match exponentSign rest with
      | (negative, text) =>
        match spanDigits text with
        | ([], _) => none
        | (digits, behind) =>
          (withExponent? s negative (digits.foldl (fun n d => n * 10 + d) 0)).map (·, behind)
    else (scale? s.value s.exponent).map (·, c :: rest)

/-- A magnitude with its sign. -/
def signed (negative : Bool) (f : Float) : Json := float (if negative then -f else f)

/-- The number without fraction and exponent that digits denote. -/
def whole? (negative : Bool) (s : Significand) : Option Json :=
  let n := s.value.toNat
  if s.full then (scale? s.value s.exponent).map (signed negative)
  else if !negative then some (int n)
  else if 0 < n ∧ n ≤ 1 <<< 63 then some (int (-(n : Int)))
  else some (signed true s.value.toFloat)

/-- The number that follows the whole part of a number. -/
def numberBehind? (negative : Bool) (s : Significand) (text : List Char) :
    Option (Json × List Char) :=
  match text with
  | '.' :: rest =>
    match spanDigits rest with
    | ([], _) => none
    | (digits, behind) =>
      (magnitude? (digits.foldl Significand.pushFraction { s with full := false }) behind).map
        fun (f, behind) => (signed negative f, behind)
  | 'e' :: _ | 'E' :: _ =>
    (magnitude? s text).map fun (f, behind) => (signed negative f, behind)
  | _ => (whole? negative s).map (·, text)

/-- The number at the front of a text without its sign, and what follows it. Only zero itself
begins with a zero. -/
def unsigned? (negative : Bool) (text : List Char) : Option (Json × List Char) :=
  match spanDigits text with
  | ([], _) => none
  | ([d], behind) => numberBehind? negative (Significand.pushWhole {} d) behind
  | (0 :: _, _) => none
  | (digits, behind) => numberBehind? negative (digits.foldl Significand.pushWhole {}) behind

/-- The number at the front of a text, and what follows it. -/
def number? : List Char → Option (Json × List Char)
  | '-' :: rest => unsigned? true rest
  | text => unsigned? false text

end NamedContent.Json
