import NamedContent.Bytes
import NamedContent.Json.Token

/-!
# Reading JSON

Tokens are read one by one into the containers that are still open, of which there may be 127. At
the end there is one value and no open container.
-/

namespace NamedContent.Json

/-- A container that is still open: its items or entries so far, the last one first. -/
inductive Frame
  | items (done : List Json)
  | entries (done : List (String × Json)) (key : String)

/-- What may come next. -/
inductive Expected
  | value
  | itemOrEnd
  | keyOrEnd
  | key
  | colon (key : String)
  | commaOrEnd
  | nothing

/-- The open containers, the innermost first, what may come next, and the value once it is
complete. -/
structure Reader where
  frames : List Frame := []
  expected : Expected := .value
  result : Json := null

/-- The greatest number of open containers. -/
def greatestDepth : Nat := 127

namespace Reader

/-- Takes in a complete value. -/
def addValue (r : Reader) (j : Json) : Option Reader :=
  match r.frames with
  | [] => some { r with expected := .nothing, result := j }
  | .items done :: outer =>
    some { r with frames := .items (j :: done) :: outer, expected := .commaOrEnd }
  | .entries done key :: outer =>
    some { r with frames := .entries ((key, j) :: done) key :: outer, expected := .commaOrEnd }

/-- Opens a container. -/
def openFrame (r : Reader) (frame : Frame) (expected : Expected) : Option Reader :=
  if greatestDepth ≤ r.frames.length then none
  else some { r with frames := frame :: r.frames, expected }

/-- Closes the innermost container. -/
def closeFrame (r : Reader) (array : Bool) : Option Reader :=
  match r.frames, array with
  | .items done :: outer, true => { r with frames := outer }.addValue (Json.array done.reverse)
  | .entries done _ :: outer, false =>
    { r with frames := outer }.addValue (ofEntries done.reverse)
  | _, _ => none

/-- Takes in a token where a value may come. -/
def startValue (r : Reader) : Token → Option Reader
  | .atom j => r.addValue j
  | .mark .openArray => r.openFrame (.items []) .itemOrEnd
  | .mark .openObject => r.openFrame (.entries [] "") .keyOrEnd
  | _ => none

/-- Takes in a token where a key must come. -/
def startKey (r : Reader) : Token → Option Reader
  | .atom (.string key) => some { r with expected := .colon key }
  | _ => none

/-- Takes in a token. -/
def step (r : Reader) (t : Token) : Option Reader :=
  match r.expected, t with
  | .value, t => r.startValue t
  | .itemOrEnd, .mark .closeArray => r.closeFrame true
  | .itemOrEnd, t => r.startValue t
  | .keyOrEnd, .mark .closeObject => r.closeFrame false
  | .keyOrEnd, t => r.startKey t
  | .key, t => r.startKey t
  | .colon key, .mark .colon =>
    match r.frames with
    | .entries done _ :: outer =>
      some { r with frames := .entries done key :: outer, expected := .value }
    | _ => none
  | .commaOrEnd, .mark .comma =>
    match r.frames with
    | .items _ :: _ => some { r with expected := .value }
    | .entries .. :: _ => some { r with expected := .key }
    | [] => none
  | .commaOrEnd, .mark .closeArray => r.closeFrame true
  | .commaOrEnd, .mark .closeObject => r.closeFrame false
  | _, _ => none

end Reader

/-- The value that a text denotes. -/
def parse? (text : List Char) : Option Json := do
  let r ← (← tokens? text).foldlM Reader.step {}
  match r.expected with
  | .nothing => some r.result
  | _ => none

/-- The value that bytes in UTF-8 denote. -/
def ofBytes? (b : Bytes) : Option Json :=
  (String.fromUTF8? ⟨b.toArray⟩).bind fun text => parse? text.toList

end NamedContent.Json
