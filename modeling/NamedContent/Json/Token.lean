import NamedContent.Json.Number

/-!
# JSON tokens

A text is cut into marks, literals, numbers and strings; blanks between them do not matter.
-/

namespace NamedContent.Json

/-- The marks that hold a value together. -/
inductive Mark
  | openArray
  | closeArray
  | openObject
  | closeObject
  | comma
  | colon
deriving DecidableEq, Repr

/-- A mark, or a value that is no container. -/
inductive Token
  | mark (m : Mark)
  | atom (j : Json)

/-- The mark that a character stands for. -/
def Mark.ofChar? (c : Char) : Option Mark :=
  if c = '[' then some .openArray
  else if c = ']' then some .closeArray
  else if c = '\x7b' then some .openObject
  else if c = '\x7d' then some .closeObject
  else if c = ',' then some .comma
  else if c = ':' then some .colon
  else none

/-- The blanks between tokens. -/
def isBlank (c : Char) : Bool := c == ' ' || c == '\n' || c == '\t' || c == '\r'

/-! ## Strings -/

/-- The number that four hexadecimal digits denote. -/
def hex4? (a b c d : Char) : Option Nat := do
  return (((← Hex.digit? a) * 16 + (← Hex.digit? b)) * 16 + (← Hex.digit? c)) * 16 +
    (← Hex.digit? d)

/-- Whether a number is the first half of a pair. -/
def isHighSurrogate (n : Nat) : Bool := 0xD800 ≤ n && n ≤ 0xDBFF

/-- Whether a number is the second half of a pair. -/
def isLowSurrogate (n : Nat) : Bool := 0xDC00 ≤ n && n ≤ 0xDFFF

/-- The character that a backslash and one more character stand for. -/
def simpleEscape? (c : Char) : Option Char :=
  if c = '"' ∨ c = '\\' ∨ c = '/' then some c
  else if c = 'b' then some (Char.ofNat 0x08)
  else if c = 'f' then some (Char.ofNat 0x0C)
  else if c = 'n' then some '\n'
  else if c = 'r' then some '\r'
  else if c = 't' then some '\t'
  else none

/-- A character in front of what follows it in a string. -/
def consString? (c : Char) (rest : Option (List Char × List Char)) :
    Option (List Char × List Char) :=
  rest.map fun (s, behind) => (c :: s, behind)

/-- The rest of a string up to its closing quote, and what follows that. Characters below the
blank are escaped, and the halves of a pair come together. -/
def stringRest? : List Char → Option (List Char × List Char)
  | [] => none
  | '"' :: rest => some ([], rest)
  | '\\' :: 'u' :: a :: b :: c :: d :: '\\' :: 'u' :: e :: f :: g :: h :: rest =>
    match hex4? a b c d with
    | none => none
    | some n =>
      if isHighSurrogate n then
        match hex4? e f g h with
        | none => none
        | some m =>
          if isLowSurrogate m then
            consString? (Char.ofNat (0x10000 + (n - 0xD800) * 0x400 + (m - 0xDC00)))
              (stringRest? rest)
          else none
      else if isLowSurrogate n then none
      else consString? (Char.ofNat n) (stringRest? ('\\' :: 'u' :: e :: f :: g :: h :: rest))
  | '\\' :: 'u' :: a :: b :: c :: d :: rest =>
    match hex4? a b c d with
    | none => none
    | some n =>
      if isHighSurrogate n || isLowSurrogate n then none
      else consString? (Char.ofNat n) (stringRest? rest)
  | '\\' :: c :: rest =>
    match simpleEscape? c with
    | none => none
    | some x => consString? x (stringRest? rest)
  | c :: rest =>
    if c.toNat < 0x20 ∨ c = '\\' then none else consString? c (stringRest? rest)

/-! ## Tokens -/

/-- What follows a word, when the text begins with it. -/
def dropWord? (word text : List Char) : Option (List Char) :=
  if word.isPrefixOf text then some (text.drop word.length) else none

/-- The literal at the front of a text, and what follows it. -/
def literal? (text : List Char) : Option (Json × List Char) :=
  match dropWord? "null".toList text with
  | some rest => some (null, rest)
  | none =>
    match dropWord? "true".toList text with
    | some rest => some (bool true, rest)
    | none => (dropWord? "false".toList text).map fun rest => (bool false, rest)

/-- The token at the front of a text, and what follows it. -/
def token? (c : Char) (rest : List Char) : Option (Token × List Char) :=
  match Mark.ofChar? c with
  | some m => some (.mark m, rest)
  | none =>
    if c = '"' then
      (stringRest? rest).map fun (s, behind) => (.atom (string (String.ofList s)), behind)
    else
      match literal? (c :: rest) with
      | some (j, behind) => some (.atom j, behind)
      | none => (number? (c :: rest)).map fun (j, behind) => (.atom j, behind)

/-- The tokens of a text. Each takes at least one character, so that as many steps as there are
characters are enough. -/
def tokensWithin? : (steps : Nat) → List Char → Option (List Token)
  | _, [] => some []
  | 0, _ :: _ => none
  | steps + 1, c :: rest =>
    if isBlank c then tokensWithin? steps rest
    else match token? c rest with
      | none => none
      | some (t, behind) => (tokensWithin? steps behind).map (t :: ·)

/-- The tokens of a text. -/
def tokens? (text : List Char) : Option (List Token) := tokensWithin? text.length text

end NamedContent.Json
