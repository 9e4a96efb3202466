/-!
# Shortest decimals

Of the decimals that round to a binary64 number, the shortest is the one with the fewest digits;
of several it is the one nearest to the number, and of two equally near ones the one with the even
last digit. Everything is exact arithmetic on natural numbers.

A decimal is written in plain digits when it is neither very small nor very large, and with an
exponent otherwise.
-/

namespace NamedContent.Decimal

/-! ## Finite numbers -/

/-- A positive number `mantissa * 2 ^ exponent`; `lowest` tells that the next smaller number is
only half as far away as the next greater one. -/
structure Binary where
  mantissa : Nat
  exponent : Int
  lowest : Bool
deriving DecidableEq, Repr

/-- The magnitude of the finite number with the given 64 bits. -/
def Binary.ofBits (bits : UInt64) : Binary :=
  let fraction : Nat := bits.toNat % (1 <<< 52)
  let biased : Nat := (bits.toNat >>> 52) % 2048
  if biased = 0 then ⟨fraction, -1074, false⟩
  else ⟨(1 <<< 52) + fraction, (biased : Int) - 1075, fraction == 0 && 1 < biased⟩

/-! ## Candidates -/

/-- The power `base ^ e` for a natural `e`, and 1 for a negative one. -/
def powerPart (base : Nat) (e : Int) : Nat := Nat.pow base e.toNat

/-- A number and the interval that rounds to it, on the grid of multiples of `10 ^ place`. All
three are numerators over the common denominator `unit`. -/
structure Grid where
  low : Nat
  middle : Nat
  high : Nat
  unit : Nat
  /-- The ends of the interval round to the number, too. -/
  closed : Bool

/-- The grid of a number at a decimal place. -/
def Grid.ofBinary (b : Binary) (place : Int) : Grid :=
  let scale := powerPart 2 (b.exponent - 2) * powerPart 10 (-place)
  { low := (4 * b.mantissa - (if b.lowest then 1 else 2)) * scale
    middle := 4 * b.mantissa * scale
    high := (4 * b.mantissa + 2) * scale
    unit := powerPart 2 (2 - b.exponent) * powerPart 10 place
    closed := b.mantissa % 2 == 0 }

/-- Whether a point of the grid rounds to the number. -/
def Grid.holds (g : Grid) (d : Nat) : Bool :=
  if g.closed then g.low ≤ d * g.unit && d * g.unit ≤ g.high
  else g.low < d * g.unit && d * g.unit < g.high

/-- The point of the grid that is nearest to the number, if it or its neighbour rounds to it. -/
def Grid.nearest? (g : Grid) : Option Nat :=
  let below := g.middle / g.unit
  let above := below + 1
  match g.holds below, g.holds above with
  | false, false => none
  | true, false => some below
  | false, true => some above
  | true, true =>
    let down := g.middle - below * g.unit
    let up := above * g.unit - g.middle
    if down < up then some below
    else if up < down then some above
    else some (if below % 2 = 0 then below else above)

/-- The number of digits in front of the decimal point, or minus the number of zeros behind it. -/
def leadingPlace (b : Binary) : Int :=
  let num := b.mantissa * powerPart 2 b.exponent
  let den := powerPart 2 (-b.exponent)
  if den ≤ num then ((Nat.toDigits 10 (num / den)).length : Int)
  else 1 - ((Nat.toDigits 10 ((den + num - 1) / num - 1)).length : Int)

/-! ## The shortest decimal -/

/-- Digits and the place of the last one. -/
structure Shortest where
  digits : Nat
  place : Int
deriving DecidableEq, Repr

/-- Without the zero that a carry leaves behind. -/
def Shortest.normal (s : Shortest) : Shortest :=
  if s.digits % 10 = 0 then ⟨s.digits / 10, s.place + 1⟩ else s

/-- The shortest decimal with at least `17 - more` digits. -/
def search (b : Binary) (top : Int) : (more : Nat) → Shortest
  | 0 => ⟨(Grid.ofBinary b (top - 17)).middle / (Grid.ofBinary b (top - 17)).unit, top - 17⟩
  | more + 1 =>
    let place := top - (17 - more : Nat)
    match (Grid.ofBinary b place).nearest? with
    | some digits => ⟨digits, place⟩
    | none => search b top more

/-- The shortest decimal that rounds to a positive number. -/
def shortest (b : Binary) : Shortest := (search b (leadingPlace b) 17).normal

/-! ## Text -/

/-- Plain digits are used for numbers below 10 to this power. -/
def greatestPlain : Int := 16

/-- Plain digits are used for numbers of at least 10 to one less than this power. -/
def leastPlain : Int := -4

/-- A decimal exponent, always with its sign. -/
def exponentText (e : Int) : List Char :=
  (if 0 ≤ e then ['+'] else []) ++ (toString e).toList

/-- A decimal in plain digits with a point, or with an exponent. -/
def Shortest.text (s : Shortest) : List Char :=
  let digits := Nat.toDigits 10 s.digits
  let point := (digits.length : Int) + s.place
  if 0 ≤ s.place ∧ point ≤ greatestPlain then
    digits ++ List.replicate s.place.toNat '0' ++ ['.', '0']
  else if 0 < point ∧ point ≤ greatestPlain then
    digits.take point.toNat ++ '.' :: digits.drop point.toNat
  else if leastPlain ≤ point ∧ point ≤ 0 then
    ['0', '.'] ++ List.replicate (-point).toNat '0' ++ digits
  else
    let fraction := digits.drop 1
    digits.take 1 ++ (if fraction.isEmpty then [] else '.' :: fraction) ++
      'e' :: exponentText (point - 1)

/-- The text of the finite number with the given 64 bits. -/
def text (bits : UInt64) : List Char :=
  let sign := if bits.toNat < 1 <<< 63 then [] else ['-']
  let magnitude := Binary.ofBits bits
  sign ++ if magnitude.mantissa = 0 then ['0', '.', '0'] else (shortest magnitude).text

end NamedContent.Decimal
