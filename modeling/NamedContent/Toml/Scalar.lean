import NamedContent.Text.Hex
import NamedContent.Text.Numeral
import NamedContent.Toml.Document

/-!
# Numbers, moments and truth values

A word stands for a truth value, an integer of 64 bits with a sign, a number that is not whole, or
a moment. Between two digits there may be one underscore.
-/

namespace NamedContent.Toml

/-! ## Digits -/

/-- Whether a character is a decimal digit. -/
def isDigit (c : Char) : Bool := (Numeral.digit? c).isSome

/-- Whether digits go on to the end, with at most one underscore in front of each. -/
def areMoreDigits (isDigit : Char → Bool) : List Char → Bool
  | [] => true
  | '_' :: c :: rest => isDigit c && areMoreDigits isDigit rest
  | c :: rest => isDigit c && areMoreDigits isDigit rest

/-- Whether a text is one or more digits with underscores between them. -/
def areDigits (isDigit : Char → Bool) : List Char → Bool
  | [] => false
  | c :: rest => isDigit c && areMoreDigits isDigit rest

/-- The number that digits in a base denote; underscores do not count. -/
def number (base : Nat) (text : List Char) : Nat :=
  (text.filterMap Hex.digit?).foldl (fun n d => n * base + d) 0

/-- A text without its sign, and whether that is a minus. -/
def splitSign : List Char → Bool × List Char
  | '-' :: rest => (true, rest)
  | '+' :: rest => (false, rest)
  | text => (false, text)

/-- Whether a text is a whole number: only zero itself begins with a zero. -/
def isWhole (text : List Char) : Bool :=
  areDigits isDigit text && (text.length == 1 || text.head? != some '0')

/-! ## Integers -/

/-- The number in a base below ten, or in base sixteen, that digits denote, if it has a place in
64 bits with a sign. -/
def based? (base : Nat) (digits : List Char) : Option Int :=
  if areDigits (fun c => (Hex.digit? c).any (· < base)) digits ∧ number base digits < 1 <<< 63 then
    some (number base digits)
  else none

/-- The decimal number of a text, if it has a place in 64 bits with a sign. -/
def decimal? (text : List Char) : Option Int :=
  match splitSign text with
  | (negative, digits) =>
    let n := number 10 digits
    if !isWhole digits then none
    else if negative then if n ≤ 1 <<< 63 then some (-(n : Int)) else none
    else if n < 1 <<< 63 then some n else none

/-- The integer that a word denotes. -/
def integer? : List Char → Option Int
  | '0' :: 'x' :: digits => based? 16 digits
  | '0' :: 'o' :: digits => based? 8 digits
  | '0' :: 'b' :: digits => based? 2 digits
  | text => decimal? text

/-! ## Numbers that are not whole -/

/-- Whether a text is an exponent behind its letter. -/
def isExponent (text : List Char) : Bool := areDigits isDigit (splitSign text).2

/-- The least number that binary64 rounds to infinity. -/
def leastInfinite : Nat := (1 <<< 1024) - (1 <<< 970)

/-- Whether a number times a power of ten is too large for binary64. The number of places decides
unless it is near the limit. -/
def isInfinite (digits : Nat) (exponent : Int) : Bool :=
  let places := (Nat.toDigits 10 digits).length + exponent
  if digits = 0 ∨ places < 300 then false
  else if 320 < places then true
  else leastInfinite * Nat.pow 10 (-exponent).toNat ≤ digits * Nat.pow 10 exponent.toNat

/-- The parts of a number that is not whole: whole part, fraction and exponent as far as they are
there. -/
structure FloatParts where
  whole : List Char
  fraction : Option (List Char)
  exponent : Option (List Char)

namespace FloatParts

/-- Cuts a text without a sign at the point and at the letter of the exponent. -/
def ofText (text : List Char) : FloatParts :=
  let isPlace (c : Char) := isDigit c || c == '_'
  let whole := text.takeWhile isPlace
  match text.dropWhile isPlace with
  | '.' :: rest =>
    match rest.dropWhile isPlace with
    | [] => ⟨whole, some (rest.takeWhile isPlace), none⟩
    | c :: exponent =>
      if c = 'e' ∨ c = 'E' then ⟨whole, some (rest.takeWhile isPlace), some exponent⟩
      else ⟨[], none, none⟩
  | c :: exponent => if c = 'e' ∨ c = 'E' then ⟨whole, none, some exponent⟩ else ⟨[], none, none⟩
  | [] => ⟨whole, none, none⟩

/-- Whether the parts are those of a number that is not whole. -/
def isValid (p : FloatParts) : Bool :=
  isWhole p.whole && p.fraction.all (areDigits isDigit) && p.exponent.all isExponent &&
    (p.fraction.isSome || p.exponent.isSome)

/-- Whether the number is too large for binary64. -/
def isInfinite (p : FloatParts) : Bool :=
  let fraction := (p.fraction.getD []).filter isDigit
  let power : Int := match splitSign (p.exponent.getD []) with
    | (negative, digits) => if negative then -(number 10 digits : Int) else number 10 digits
  Toml.isInfinite (number 10 (p.whole ++ fraction)) (power - fraction.length)

end FloatParts

/-- Whether a word is a number that is not whole. A number above all bounds is none, but one below
them is. -/
def isFloat (text : List Char) : Bool :=
  match splitSign text with
  | (negative, magnitude) =>
    let parts := FloatParts.ofText magnitude
    magnitude == "inf".toList || magnitude == "nan".toList ||
      (parts.isValid && (negative || !parts.isInfinite))

/-! ## Moments -/

/-- The number in the two digits in front, and what follows them, if the number is within bounds. -/
def twoDigits? (least most : Nat) : List Char → Option (Nat × List Char)
  | a :: b :: rest => do
    let n := (← Numeral.digit? a) * 10 + (← Numeral.digit? b)
    if least ≤ n ∧ n ≤ most then some (n, rest) else none
  | _ => none

/-- What follows a given character. -/
def after? (c : Char) : List Char → Option (List Char)
  | [] => none
  | d :: rest => if d = c then some rest else none

/-- The number of days of a month. -/
def daysOf (year month : Nat) : Nat :=
  if month = 2 then if year % 4 = 0 ∧ (year % 100 ≠ 0 ∨ year % 400 = 0) then 29 else 28
  else if month = 4 ∨ month = 6 ∨ month = 9 ∨ month = 11 then 30
  else 31

/-- What follows a date. -/
def afterDate? (text : List Char) : Option (List Char) := do
  let (century, text) ← twoDigits? 0 99 text
  let (year, text) ← twoDigits? 0 99 text
  let (month, text) ← twoDigits? 1 12 (← after? '-' text)
  let (_, text) ← twoDigits? 1 (daysOf (century * 100 + year) month) (← after? '-' text)
  return text

/-- What follows the fraction of a second, if there is one. -/
def afterFraction : List Char → List Char
  | '.' :: c :: rest => if isDigit c then rest.dropWhile isDigit else '.' :: c :: rest
  | text => text

/-- What follows a time of day. The last second of a day may be the sixty-first of its minute. -/
def afterTime? (text : List Char) : Option (List Char) := do
  let (_, text) ← twoDigits? 0 23 text
  let (_, text) ← twoDigits? 0 59 (← after? ':' text)
  let (_, text) ← twoDigits? 0 60 (← after? ':' text)
  return afterFraction text

/-- Whether a text is a distance from universal time. -/
def isOffset : List Char → Bool
  | [] => false
  | c :: rest =>
    if c = 'Z' ∨ c = 'z' then rest.isEmpty
    else if c = '+' ∨ c = '-' then
      (do
        let (_, rest) ← twoDigits? 0 23 rest
        let (_, rest) ← twoDigits? 0 59 (← after? ':' rest)
        return rest.isEmpty).getD false
    else false

/-- Whether a text is a time of day, or one with a distance from universal time. -/
def isTime (text : List Char) : Bool :=
  match afterTime? text with
  | none => false
  | some rest => rest.isEmpty || isOffset rest

/-- Whether a word is a date, a time of day, or both. -/
def isMoment (text : List Char) : Bool :=
  match afterDate? text with
  | none => afterTime? text == some []
  | some [] => true
  | some (c :: rest) => (c == 'T' || c == 't' || c == ' ') && isTime rest

/-! ## Words -/

/-- What a word stands for. -/
def scalar? (text : List Char) : Option Node :=
  if text = "true".toList then some (.boolean true)
  else if text = "false".toList then some (.boolean false)
  else if isMoment text then some (.moment (String.ofList text))
  else if isFloat text then some (.float (String.ofList text))
  else (integer? text).map .integer

end NamedContent.Toml
