import NamedContent.Text.Split

/-!
# Tables over code points

Neighbouring characters mostly share a property, so a table tells it once for each run of them.
The last run that starts at or below a code point is the one that counts for it. Tables begin
beyond ASCII.

A table is written in rows of entries with a blank in between. An entry is the first code point of
its run in lower-case hexadecimal and then the value, in a spelling that starts with no such digit.
-/

namespace NamedContent.Idna

/-- Characters of one byte. -/
def isAscii (c : Char) : Bool := c.toNat < 128

/-- Values for runs of code points. -/
structure Table (α : Type) where
  /-- The first code point of each run and the value that holds from there on, ascending. -/
  runs : List (Nat × α)

/-- The last run that starts at or below a code point, or the one found so far. -/
def lastRun {α : Type} (n : Nat) : Option (Nat × α) → List (Nat × α) → Option (Nat × α)
  | found, [] => found
  | found, run :: rest => if n < run.1 then found else lastRun n (some run) rest

/-- The run that counts for a character; there is none below the first. -/
def Table.run? {α : Type} (table : Table α) (c : Char) : Option (Nat × α) :=
  lastRun c.toNat none table.runs

/-- The value for a character. -/
def Table.value? {α : Type} (table : Table α) (c : Char) : Option α :=
  (table.run? c).map Prod.snd

/-! ## Reading -/

/-- A digit as tables write it. -/
def isTableDigit (c : Char) : Bool := c.isDigit || ('a' ≤ c && c ≤ 'f')

/-- The number that digits of a table spell. -/
def tableNumber (digits : List Char) : Nat :=
  digits.foldl (fun n c => n * 16 + (if c.isDigit then c.toNat - 48 else c.toNat - 87)) 0

/-- The characters that an entry names by their code points, with points in between. -/
def tableText (text : List Char) : List Char :=
  (Text.split '.' text).map fun digits => Char.ofNat (tableNumber digits)

/-- The run of one entry. -/
def readRun? {α : Type} (value? : List Char → Option α) (entry : List Char) : Option (Nat × α) :=
  let (start, spelling) := entry.span isTableDigit
  (value? spelling).map fun value => (tableNumber start, value)

/-- The table that rows of entries make. -/
def Table.ofRows {α : Type} (value? : List Char → Option α) (rows : List String) : Table α :=
  ⟨rows.flatMap fun row => (Text.split ' ' row.toList).filterMap (readRun? value?)⟩

end NamedContent.Idna
