import NamedContent.Idna.Table

/-!
# Punycode

A label with letters beyond ASCII is spelled with ASCII letters, digits and hyphens alone: its
ASCII characters come first, then a hyphen, then numbers that tell which characters to insert and
where. Numbers are written least significant digit first, in a base whose digits tell where the
number ends; how large a digit ends it follows from the numbers before.
-/

namespace NamedContent.Idna.Punycode

/-! ## Numbers -/

/-- Numbers stay below this one. -/
def limit : Nat := 4294967296

/-- The digits are the letters, for 0 to 25, and then the decimal digits. -/
def digit? (c : Char) : Option Nat :=
  if 'a' ≤ c && c ≤ 'z' then some (c.toNat - 97)
  else if 'A' ≤ c && c ≤ 'Z' then some (c.toNat - 65)
  else if c.isDigit then some (c.toNat - 22)
  else none

/-- A digit below this one is the last of its number. Places are multiples of 36. -/
def threshold (place bias : Nat) : Nat :=
  if place ≤ bias then 1 else if bias + 26 ≤ place then 26 else place - bias

/-- The bias that a scaled number leaves, above that of the divisions made so far. -/
def scaledBias (delta bias : Nat) : Nat :=
  if 455 < delta then scaledBias (delta / 35) (bias + 36) else bias + 36 * delta / (delta + 38)
termination_by delta
decreasing_by exact Nat.div_lt_self (by omega) (by omega)

/-- The bias for the next number, after a number that made a text of `size` characters. -/
def adapted (delta size : Nat) (first : Bool) : Nat :=
  let scaled := if first then delta / 700 else delta / 2
  scaledBias (scaled + scaled / size) 0

/-! ## Decoding -/

/-- What is known between two digits. -/
structure Progress where
  /-- The label as far as it is known. -/
  label : List Char
  /-- The character that was inserted last. -/
  codePoint : Nat
  bias : Nat
  /-- Where the next character goes if the number at hand is zero. -/
  start : Nat
  /-- The start and the number at hand, as far as it is read. -/
  index : Nat
  /-- What a one in the next digit is worth. -/
  weight : Nat
  /-- The place of the next digit. -/
  place : Nat
deriving DecidableEq, Repr

/-- The state in front of the first number. -/
def Progress.initial (label : List Char) : Progress :=
  { label, codePoint := 128, bias := 72, start := 0, index := 0, weight := 1, place := 36 }

/-- The insertion that a complete number asks for: of the rounds through all places of the label,
each full one moves on to the next character. -/
def Progress.insert? (p : Progress) : Option Progress :=
  let size := p.label.length + 1
  let codePoint := p.codePoint + p.index / size
  let position := p.index % size
  if codePoint.isValidChar then
    some {
      label := p.label.take position ++ Char.ofNat codePoint :: p.label.drop position
      codePoint
      bias := adapted (p.index - p.start) size (p.start == 0)
      start := position + 1
      index := position + 1
      weight := 1
      place := 36 }
  else none

/-- One digit further. -/
def Progress.step? (p : Progress) (c : Char) : Option Progress := do
  let digit ← digit? c
  let index := p.index + digit * p.weight
  let least := threshold p.place p.bias
  let weight := p.weight * (36 - least)
  if limit ≤ index then none
  else if digit < least then Progress.insert? { p with index }
  else if limit ≤ weight then none
  else some { p with index, weight, place := p.place + 36 }

/-- The label that numbers make of its ASCII characters; the last number has to be complete. -/
def insertAll? (ascii numbers : List Char) : Option (List Char) := do
  let last ← numbers.foldlM Progress.step? (.initial ascii)
  if last.place = 36 then some last.label else none

/-- The label that a text spells. -/
def decode? (text : List Char) : Option (List Char) :=
  match Text.cut? '-' text.reverse with
  | some (numbers, c :: ascii) =>
    if (c :: ascii).all isAscii then insertAll? (c :: ascii).reverse numbers.reverse
    else none
  | _ => insertAll? [] text

end NamedContent.Idna.Punycode
