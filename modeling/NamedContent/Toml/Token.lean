import NamedContent.Toml.Scalar

/-!
# TOML tokens

A text is cut into marks, words, strings, blanks, comments and line ends. A line ends with a line
feed; a carriage return in front of it does not count, and stands nowhere else.
-/

namespace NamedContent.Toml

/-- The marks that hold a document together. -/
inductive Mark
  | equals
  | comma
  | openBracket
  | closeBracket
  | openBrace
  | closeBrace
deriving DecidableEq, Repr

/-- A piece of a document. -/
inductive Token
  | mark (m : Mark)
  /-- Letters, digits and the marks of numbers, moments and dotted keys. -/
  | word (text : List Char)
  | string (text : String) (oneLine : Bool)
  | blank
  | comment
  | newline
deriving DecidableEq, Repr

/-- The mark that a character stands for. -/
def Mark.ofChar? (c : Char) : Option Mark :=
  if c = '=' then some .equals
  else if c = ',' then some .comma
  else if c = '[' then some .openBracket
  else if c = ']' then some .closeBracket
  else if c = '\x7b' then some .openBrace
  else if c = '\x7d' then some .closeBrace
  else none

/-! ## Characters -/

/-- Whether a character is a blank. -/
def isBlank (c : Char) : Bool := c == ' ' || c == '\t'

/-- Whether a character is no control character, or a tab. -/
def isPrintable (c : Char) : Bool := c == '\t' || (0x20 ≤ c.toNat && c.toNat != 0x7F)

/-- Whether a character may stand in a key without quotes. -/
def isBare (c : Char) : Bool := c.isAlphanum || c == '-' || c == '_'

/-- Whether a character may stand in a word. -/
def isWordChar (c : Char) : Bool := isBare c || c == '+' || c == ':' || c == '.'

/-! ## Strings -/

/-- The character that digits of base sixteen denote. -/
def scalarValue? (digits : List Char) : Option Char := do
  let n := (← digits.mapM Hex.digit?).foldl (fun n d => n * 16 + d) 0
  if n.isValidChar then some (Char.ofNat n) else none

/-- The character in the first digits of base sixteen, and what follows them. -/
def unicode? (count : Nat) (text : List Char) : Option (Char × List Char) :=
  if text.length < count then none
  else (scalarValue? (text.take count)).map (·, text.drop count)

/-- The character behind a backslash, and what follows it. -/
def escape? : List Char → Option (Char × List Char)
  | [] => none
  | c :: rest =>
    if c = '"' ∨ c = '\\' then some (c, rest)
    else if c = 'b' then some (Char.ofNat 0x08, rest)
    else if c = 't' then some ('\t', rest)
    else if c = 'n' then some ('\n', rest)
    else if c = 'f' then some (Char.ofNat 0x0C, rest)
    else if c = 'r' then some ('\r', rest)
    else if c = 'u' then unicode? 4 rest
    else if c = 'U' then unicode? 8 rest
    else none

/-- What follows a line end behind a backslash: all up to the next character that is no blank. -/
def fold? (text : List Char) : Option (List Char) :=
  match text.dropWhile isBlank with
  | '\n' :: rest => some (rest.dropWhile fun c => isBlank c || c == '\n')
  | _ => none

/-- Puts a character in front of a string that goes on. -/
def cons? (c : Char) (rest : Option (List Char × List Char)) : Option (List Char × List Char) :=
  rest.map fun (s, behind) => (c :: s, behind)

/-- The rest of a string of one line with escapes, and what follows it. -/
def basic? : (steps : Nat) → List Char → Option (List Char × List Char)
  | 0, _ => none
  | _, [] => none
  | _, '"' :: rest => some ([], rest)
  | steps + 1, '\\' :: rest =>
    match escape? rest with
    | none => none
    | some (c, rest) => cons? c (basic? steps rest)
  | steps + 1, c :: rest => if isPrintable c then cons? c (basic? steps rest) else none

/-- The rest of a string of many lines with escapes, and what follows it. Up to two quotes may
stand in front of the closing ones. -/
def basicLines? : (steps : Nat) → List Char → Option (List Char × List Char)
  | 0, _ => none
  | _, [] => none
  | _, '"' :: '"' :: '"' :: '"' :: '"' :: rest => some (['"', '"'], rest)
  | _, '"' :: '"' :: '"' :: '"' :: rest => some (['"'], rest)
  | _, '"' :: '"' :: '"' :: rest => some ([], rest)
  | steps + 1, '\\' :: rest =>
    match fold? rest with
    | some rest => basicLines? steps rest
    | none =>
      match escape? rest with
      | none => none
      | some (c, rest) => cons? c (basicLines? steps rest)
  | steps + 1, c :: rest =>
    if isPrintable c || c == '\n' then cons? c (basicLines? steps rest) else none

/-- The rest of a string of one line without escapes, and what follows it. -/
def literal? (text : List Char) : Option (List Char × List Char) :=
  let isInside (c : Char) := isPrintable c && c != '\x27'
  match text.dropWhile isInside with
  | '\x27' :: rest => some (text.takeWhile isInside, rest)
  | _ => none

/-- The rest of a string of many lines without escapes, and what follows it. -/
def literalLines? : List Char → Option (List Char × List Char)
  | [] => none
  | '\x27' :: '\x27' :: '\x27' :: '\x27' :: '\x27' :: rest => some (['\x27', '\x27'], rest)
  | '\x27' :: '\x27' :: '\x27' :: '\x27' :: rest => some (['\x27'], rest)
  | '\x27' :: '\x27' :: '\x27' :: rest => some ([], rest)
  | c :: rest => if isPrintable c || c == '\n' then cons? c (literalLines? rest) else none

/-- A line end directly behind the opening quotes does not count. -/
def skipFirstLine : List Char → List Char
  | '\n' :: rest => rest
  | text => text

/-- The string at the front of a text, if there is a quote, and what follows it. -/
def string? (text : List Char) : Option (Token × List Char) :=
  let token (oneLine : Bool) (s : List Char × List Char) : Token × List Char :=
    (.string (String.ofList s.1) oneLine, s.2)
  match text with
  | '"' :: '"' :: '"' :: rest => (basicLines? text.length (skipFirstLine rest)).map (token false)
  | '"' :: rest => (basic? text.length rest).map (token true)
  | '\x27' :: '\x27' :: '\x27' :: rest => (literalLines? (skipFirstLine rest)).map (token false)
  | '\x27' :: rest => (literal? rest).map (token true)
  | _ => none

/-! ## Tokens -/

/-- Whether a text goes on with the hour of a time of day. -/
def startsTime : List Char → Bool
  | a :: b :: ':' :: _ => isDigit a && isDigit b
  | _ => false

/-- The word at the front of a text, and what follows it. A single blank between a date and a time
is part of the word. -/
def word (text : List Char) : List Char × List Char :=
  let first := text.takeWhile isWordChar
  match text.dropWhile isWordChar with
  | ' ' :: rest =>
    if afterDate? first = some [] ∧ startsTime rest then
      (first ++ ' ' :: rest.takeWhile isWordChar, rest.dropWhile isWordChar)
    else (first, ' ' :: rest)
  | rest => (first, rest)

/-- The token at the front of a text, and what follows it. -/
def token? (c : Char) (rest : List Char) : Option (Token × List Char) :=
  match Mark.ofChar? c with
  | some m => some (.mark m, rest)
  | none =>
    if c = '\n' then some (.newline, rest)
    else if isBlank c then some (.blank, rest.dropWhile isBlank)
    else if c = '#' then some (.comment, rest.dropWhile isPrintable)
    else if isWordChar c then
      match word (c :: rest) with
      | (text, behind) => some (.word text, behind)
    else string? (c :: rest)

/-- The tokens of a text. Each takes at least one character, so that as many steps as there are
characters are enough. -/
def tokensWithin? : (steps : Nat) → List Char → Option (List Token)
  | _, [] => some []
  | 0, _ :: _ => none
  | steps + 1, c :: rest =>
    match token? c rest with
    | none => none
    | some (t, behind) => (tokensWithin? steps behind).map (t :: ·)

/-- A text without the carriage returns in front of line feeds. -/
def plainLines : List Char → List Char
  | '\r' :: '\n' :: rest => '\n' :: plainLines rest
  | c :: rest => c :: plainLines rest
  | [] => []

/-- The tokens of a text. -/
def tokens? (text : List Char) : Option (List Token) :=
  tokensWithin? text.length (plainLines text)

end NamedContent.Toml
