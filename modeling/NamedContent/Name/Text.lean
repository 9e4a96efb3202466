import NamedContent.Name.Basic
import NamedContent.Uri.Reference

/-!
# Names as URIs

A name is written under the scheme `lci`, a slash before each segment. Reading checks that the text
is a URI with nothing but scheme and path, and then takes the segments from the raw text behind
the first colon, so that `.` and `..` are segments like any other.
-/

namespace NamedContent

/-- The components of a URI that no name has. -/
inductive UriComponent
  | authority
  | query
  | fragment
deriving DecidableEq, Repr

/-- The word for a component. -/
def UriComponent.word : UriComponent → String
  | .authority => "authority"
  | .query => "query"
  | .fragment => "fragment"

/-- Why a text is no name. -/
inductive NameError
  | invalidUri (uri : String) (fault : Uri.Fault)
  | relativePath (uri : String)
  | unsupportedScheme (scheme : String)
  | unexpectedComponent (component : UriComponent)
  | invalidSegment (index : Nat) (error : LabelError)
deriving DecidableEq, Repr

namespace NameError

/-- The class of every failure to read a name. -/
def kind (_ : NameError) : ErrorKind := .invalidName

/-- The wording of a failure. -/
def message : NameError → String
  | .invalidUri uri fault => s!"Invalid URI {uri}: {fault.message}"
  | .relativePath uri => s!"Invalid URI {uri}: path must be absolute"
  | .unsupportedScheme scheme => s!"Unsupported URI scheme: {scheme}"
  | .unexpectedComponent component => s!"LCI URIs do not carry a {component.word}"
  | .invalidSegment index error => s!"Invalid segment {index}: {error.message}"

end NameError

namespace Name

/-- The scheme of names. -/
def scheme : String := "lci"

/-! ## Writing -/

/-- The path of a name: a slash before each segment, and one slash when there is none. -/
def renderPath (name : Name) : List Char :=
  match name.segments with
  | [] => ['/']
  | segments => segments.flatMap fun segment => '/' :: segment.render

/-- The written form of a name. -/
def render (name : Name) : List Char := scheme.toList ++ ':' :: name.renderPath

/-- The written form of a name as a string. -/
def toUri (name : Name) : String := String.ofList name.render

/-! ## Reading -/

/-- The segments of raw texts, of which the first has the given index. -/
def parseSegments (index : Nat) : List (List Char) → Except NameError (List Segment)
  | [] => .ok []
  | raw :: rest =>
    match Segment.parse raw with
    | .error error => .error (.invalidSegment index error)
    | .ok segment => (parseSegments (index + 1) rest).map (segment :: ·)

/-- The raw segments of a path; a lone slash and nothing at all have none. -/
def rawSegments? : List Char → Option (List (List Char))
  | [] => some []
  | ['/'] => some []
  | '/' :: rest => some (Text.split '/' rest)
  | _ => none

/-- The check that a URI has the scheme of names and no component but a path. -/
def checkShape (shape : Uri.Shape) : Except NameError Unit :=
  if shape.scheme != scheme then .error (.unsupportedScheme shape.scheme)
  else if shape.hasHost then .error (.unexpectedComponent .authority)
  else if shape.hasQuery then .error (.unexpectedComponent .query)
  else if shape.hasFragment then .error (.unexpectedComponent .fragment)
  else .ok ()

/-- The name that a URI denotes, where URIs are checked by `inspect`. -/
def ofUriWith (inspect : List Char → Except Uri.Fault Uri.Shape) (uri : String) :
    Except NameError Name :=
  match inspect uri.toList with
  | .error fault => .error (.invalidUri uri fault)
  | .ok shape => do
    checkShape shape
    match rawSegments? (((Text.cut? ':' uri.toList).map Prod.snd).getD []) with
    | none => .error (.relativePath uri)
    | some raw => return ⟨← parseSegments 0 raw⟩

/-- The name that a URI denotes. -/
def ofUri (uri : String) : Except NameError Name := ofUriWith Uri.inspect uri

end Name

end NamedContent
