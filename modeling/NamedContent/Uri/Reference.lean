import NamedContent.Uri.Host

/-!
# Absolute URIs

`Uri.inspect` checks that a text is an absolute URI and tells which components it has; it does not
take the path apart. Characters up to the space at either end, and tabs and line ends anywhere,
are not part of a URI. The checks follow in the order scheme, credentials, host, port.
-/

namespace NamedContent.Uri

/-- Which components an absolute URI has. -/
structure Shape where
  /-- The scheme in lower case. -/
  scheme : String
  hasHost : Bool
  hasQuery : Bool
  hasFragment : Bool
deriving DecidableEq, Repr

/-- What follows from the scheme for the rest of a URI. -/
inductive SchemeClass
  /-- The schemes of the web, which need a host and read a backslash as a slash. -/
  | web
  /-- Files, whose host may be absent or a drive letter. -/
  | file
  /-- All others. -/
  | plain
deriving DecidableEq, Repr

/-- The class of a scheme in lower case. -/
def SchemeClass.ofScheme (scheme : String) : SchemeClass :=
  if ["http", "https", "ws", "wss", "ftp"].contains scheme then .web
  else if scheme == "file" then .file
  else .plain

/-- The text that counts: without blanks and control characters at the ends, and without tabs and
line ends. -/
def significant (text : List Char) : List Char :=
  let isBlank (c : Char) : Bool := c ≤ ' '
  let trimmed := ((text.dropWhile isBlank).reverse.dropWhile isBlank).reverse
  trimmed.filter fun c => c != '\t' && c != '\n' && c != '\r'

/-- A character of a scheme behind its first. -/
def isSchemeChar (c : Char) : Bool := c.isAlphanum || c == '+' || c == '-' || c == '.'

/-- The scheme in lower case and what follows its colon. -/
def cutScheme? (text : List Char) : Option (String × List Char) :=
  match text.head?, Text.cut? ':' text with
  | some first, some (scheme, rest) =>
    if first.isAlpha && scheme.all isSchemeChar then
      some (String.ofList (scheme.map Char.toLower), rest)
    else none
  | _, _ => none

/-- Whether a character ends the authority. -/
def endsAuthority (kind : SchemeClass) (c : Char) : Bool :=
  c == '/' || c == '?' || c == '#' || (kind != .plain && c == '\\')

/-- The text up to the first colon outside brackets. -/
def takeHost : (inBrackets : Bool) → List Char → List Char × List Char
  | _, [] => ([], [])
  | inBrackets, c :: rest =>
    if c == ':' && !inBrackets then ([], c :: rest)
    else
      let (host, behind) :=
        takeHost (if c == '[' then true else if c == ']' then false else inBrackets) rest
      (c :: host, behind)

/-- Whether credentials name a user or a password: a lone colon names neither. -/
def namesUser (credentials : List Char) : Bool := credentials != [] && credentials != [':']

/-- The credentials before the last `@` of an authority, when there is one, and the rest. -/
def cutCredentials (authority : List Char) : Option (List Char) × List Char :=
  match Text.cut? '@' authority.reverse with
  | none => (none, authority)
  | some (host, credentials) => (some credentials.reverse, host.reverse)

/-- The check of a port, without its colon. A backslash ends it where a slash would. -/
def checkPort (port : List Char) : Except Fault Unit :=
  let digits := port.takeWhile (· != '\\')
  if digits.all Char.isDigit && digits.foldl (fun n c => n * 10 + (c.toNat - 48)) 0 ≤ 65535 then
    .ok ()
  else .error .invalidPort

/-- The check of an authority that `behind` follows; the answer tells whether it names a host. -/
def checkAuthority (kind : SchemeClass) (authority behind : List Char) : Except Fault Bool := do
  let (credentials, rest) := cutCredentials authority
  if credentials == some [] && rest.isEmpty && !behind.isEmpty then throw .emptyHost
  let (host, port) := takeHost false rest
  if kind == .web && host.isEmpty then throw .emptyHost
  if kind == .plain then checkOpaqueHost host else discard (readDomain host)
  if host.isEmpty && !port.isEmpty then throw .emptyHost
  checkPort (port.drop 1)
  if host.isEmpty && credentials.any namesUser then throw .emptyHost
  return !host.isEmpty

/-- Whether a text is a letter and a colon or bar, which in a file's place names a drive. -/
def isDriveLetter : List Char → Bool
  | [letter, mark] => letter.isAlpha && (mark == ':' || mark == '|')
  | _ => false

/-- The check of the part between scheme and path under each class of scheme; the answer tells
whether there is a host, and what is left. -/
def checkHierarchy (kind : SchemeClass) (rest : List Char) : Except Fault (Bool × List Char) :=
  let authority (text : List Char) : Except Fault (Bool × List Char) := do
    let (inside, behind) := text.span fun c => !endsAuthority kind c
    return (← checkAuthority kind inside behind, behind)
  match kind with
  | .web => authority (rest.dropWhile fun c => c == '/' || c == '\\')
  | .plain =>
    match rest with
    | '/' :: '/' :: text => authority text
    | _ => .ok (false, rest)
  | .file =>
    let isSlash (c : Char) : Bool := c == '/' || c == '\\'
    match rest with
    | a :: b :: text =>
      if isSlash a && isSlash b then
        let (host, behind) := text.span fun c => !endsAuthority kind c
        if host.isEmpty || isDriveLetter host then .ok (false, text)
        else (readDomain host).map fun domain => (domain != "localhost".toList, behind)
      else .ok (false, rest)
    | _ => .ok (false, rest)

/-- The components of an absolute URI, or why the text is none. -/
def inspect (text : List Char) : Except Fault Shape :=
  match cutScheme? (significant text) with
  | none => .error .relative
  | some (scheme, rest) => do
    let (hasHost, behind) ← checkHierarchy (.ofScheme scheme) rest
    let beforeFragment := behind.takeWhile (· != '#')
    return {
      scheme, hasHost
      hasQuery := beforeFragment.contains '?'
      hasFragment := behind.contains '#' }

end NamedContent.Uri
