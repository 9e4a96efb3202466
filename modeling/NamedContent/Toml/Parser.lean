import NamedContent.Text.Split
import NamedContent.Toml.Token

/-!
# Reading TOML

Tokens are read one by one into the document and into the arrays and inline tables that are still
open. At the end no statement is incomplete.
-/

namespace NamedContent.Toml

/-! ## Keys -/

/-- The parts of a dotted key read so far. -/
structure KeyDraft where
  parts : List String := []
  /-- A part was read last, and no dot behind it. -/
  complete : Bool := false

namespace KeyDraft

/-- The greatest number of parts of a key. -/
def greatestLength : Nat := 79

/-- One more part, in front of which there is a dot or nothing. -/
def addPart (d : KeyDraft) (part : String) : Option KeyDraft :=
  if d.complete then none else some ⟨d.parts ++ [part], true⟩

/-- A dot behind a part. -/
def addDot (d : KeyDraft) : Option KeyDraft :=
  if d.complete then some { d with complete := false } else none

/-- A part without quotes, if there is one. -/
def addBare (d : KeyDraft) (text : List Char) : Option KeyDraft :=
  if text.isEmpty then some d
  else if text.all isBare then d.addPart (String.ofList text)
  else none

/-- Parts without quotes, each behind a dot. -/
def addBehindDots (d : KeyDraft) : List (List Char) → Option KeyDraft
  | [] => some d
  | piece :: pieces => do
    let dotted ← d.addDot
    (← dotted.addBare piece).addBehindDots pieces

/-- The parts and dots of a word. -/
def addWord (d : KeyDraft) (text : List Char) : Option KeyDraft :=
  match Text.split '.' text with
  | [] => some d
  | piece :: pieces => do (← d.addBare piece).addBehindDots pieces

/-- The path that a complete key denotes. -/
def path? (d : KeyDraft) : Option (List String) :=
  if d.complete && d.parts.length ≤ greatestLength then some d.parts else none

end KeyDraft

/-! ## The reader -/

/-- What a key is read for. -/
inductive Purpose
  | statement
  | header (isItem : Bool)
  | entry
deriving DecidableEq, Repr

/-- What may come next. -/
inductive Expected
  /-- A statement, a header or nothing. -/
  | line
  /-- The key of a header, or one more bracket. -/
  | headerKey
  /-- The second closing bracket. -/
  | closeItem
  | key (purpose : Purpose) (draft : KeyDraft)
  | value
  /-- An item of an array, or its end. -/
  | item
  /-- What follows an item of an array. -/
  | itemEnd
  /-- An entry of an inline table or, where it may be, its end. -/
  | entry (mayEnd : Bool)
  /-- What follows an entry of an inline table. -/
  | entryEnd
  /-- The end of a line. -/
  | lineEnd

/-- A container that is still open: the items of an array, the last one first, or the entries of
an inline table and the key of the one that is read. -/
inductive Frame
  | items (done : List Node)
  | entries (done : Entries) (path : List String)

/-- The document so far, the key that is read, the open containers with the innermost first, and
what may come next. -/
structure Reader where
  document : Document := {}
  path : List String := []
  frames : List Frame := []
  expected : Expected := .line

/-- The greatest number of open containers. -/
def greatestDepth : Nat := 79

namespace Reader

/-- Goes on with something else. -/
def expect (r : Reader) (expected : Expected) : Reader := { r with expected }

/-- Takes in a complete value. -/
def addValue (r : Reader) (node : Node) : Option Reader :=
  match r.frames with
  | [] => (r.document.assign r.path node).map fun document =>
    { r with document, expected := .lineEnd }
  | .items done :: outer =>
    some { r with frames := .items (node :: done) :: outer, expected := .itemEnd }
  | .entries done path :: outer => (done.assign path node .inline).map fun done =>
    { r with frames := .entries done path :: outer, expected := .entryEnd }

/-- Opens a container. -/
def openFrame (r : Reader) (frame : Frame) (expected : Expected) : Option Reader :=
  if greatestDepth ≤ r.frames.length then none
  else some { r with frames := frame :: r.frames, expected }

/-- Closes the innermost container. -/
def closeFrame (r : Reader) : Option Reader :=
  match r.frames with
  | [] => none
  | .items done :: outer => { r with frames := outer }.addValue (.array done.reverse)
  | .entries done _ :: outer => { r with frames := outer }.addValue (.table .inline done)

/-- Takes in a token where a value may come. -/
def startValue (r : Reader) : Token → Option Reader
  | .word text => scalar? text >>= r.addValue
  | .string text _ => r.addValue (.string text)
  | .mark .openBracket => r.openFrame (.items []) .item
  | .mark .openBrace => r.openFrame (.entries [] []) (.entry true)
  | _ => none

/-- Takes in the key of a statement or of an entry. -/
def endKey (r : Reader) (purpose : Purpose) (path : List String) : Option Reader :=
  match purpose, r.frames with
  | .statement, _ => some { r with path, expected := .value }
  | .entry, .entries done _ :: outer =>
    some { r with frames := .entries done path :: outer, expected := .value }
  | _, _ => none

/-- Takes in the key of a header. -/
def endHeader (r : Reader) (purpose : Purpose) (path : List String) : Option Reader :=
  match purpose with
  | .header true => some { r with path, expected := .closeItem }
  | .header false => (r.document.enter false path).map fun document =>
    { r with document, expected := .lineEnd }
  | _ => none

/-- Takes in a token inside a key. -/
def stepKey (r : Reader) (purpose : Purpose) (draft : KeyDraft) : Token → Option Reader
  | .blank => some (r.expect (.key purpose draft))
  | .word text => (draft.addWord text).map fun draft => r.expect (.key purpose draft)
  | .string text true => (draft.addPart text).map fun draft => r.expect (.key purpose draft)
  | .mark .equals => draft.path? >>= r.endKey purpose
  | .mark .closeBracket => draft.path? >>= r.endHeader purpose
  | _ => none

/-- Takes in a token. -/
def step (r : Reader) (t : Token) : Option Reader :=
  match r.expected, t with
  | .line, .blank | .line, .comment | .line, .newline => some r
  | .line, .mark .openBracket => some (r.expect .headerKey)
  | .line, t => r.stepKey .statement {} t
  | .headerKey, .mark .openBracket => some (r.expect (.key (.header true) {}))
  | .headerKey, t => r.stepKey (.header false) {} t
  | .closeItem, .mark .closeBracket => (r.document.enter true r.path).map fun document =>
    { r with document, expected := .lineEnd }
  | .key purpose draft, t => r.stepKey purpose draft t
  | .value, .blank => some r
  | .value, t => r.startValue t
  | .item, .blank | .item, .comment | .item, .newline => some r
  | .item, .mark .closeBracket => r.closeFrame
  | .item, t => r.startValue t
  | .itemEnd, .blank | .itemEnd, .comment | .itemEnd, .newline => some r
  | .itemEnd, .mark .comma => some (r.expect .item)
  | .itemEnd, .mark .closeBracket => r.closeFrame
  | .entry _, .blank => some r
  | .entry true, .mark .closeBrace => r.closeFrame
  | .entry _, t => r.stepKey .entry {} t
  | .entryEnd, .blank => some r
  | .entryEnd, .mark .comma => some (r.expect (.entry false))
  | .entryEnd, .mark .closeBrace => r.closeFrame
  | .lineEnd, .blank | .lineEnd, .comment => some r
  | .lineEnd, .newline => some (r.expect .line)
  | _, _ => none

/-- The entries of the document, when no statement is incomplete. -/
def finish (r : Reader) : Option Entries :=
  match r.expected with
  | .line | .lineEnd => some r.document.entries
  | _ => none

end Reader

/-- A text without the mark of its byte order. -/
def withoutByteOrderMark : List Char → List Char
  | '\ufeff' :: rest => rest
  | text => text

/-- The entries of the document that a text denotes. -/
def parse? (text : String) : Option Entries := do
  (← (← tokens? (withoutByteOrderMark text.toList)).foldlM Reader.step {}).finish

end NamedContent.Toml
