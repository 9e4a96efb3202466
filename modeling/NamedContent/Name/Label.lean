import NamedContent.Error
import NamedContent.Text.Split
import NamedContent.Text.Percent
import NamedContent.Text.Numeral

/-!
# Labels of name segments

A label gives a segment its type and, outside the application range, an optional parameter. In a
URI it stands in front of `=`: a mnemonic, an application number such as `App:7`, or the type code
as a number, then `:` and the parameter.

* `Label.parse` reads the label of a raw segment, `Label.render` writes one.
* The type rules out what no label may be: the type code 0, and a parameter on an application label.
-/

namespace NamedContent

/-! ## Types -/

/-- The type code of a segment, which is never 0. -/
structure LabelType where
  code : UInt16
  code_ne_zero : code ≠ 0 := by decide
deriving DecidableEq, Repr

namespace LabelType

/-- A plain name component. -/
def name : LabelType := { code := 0x0001 }
/-- Binary data. -/
def binary : LabelType := { code := 0x0002 }
/-- The identifier of an Interest payload. -/
def payloadId : LabelType := { code := 0x0003 }
/-- A chunk number. -/
def chunk : LabelType := { code := 0x0010 }
/-- A chunk of metadata. -/
def chunkMeta : LabelType := { code := 0x0011 }
/-- A time. -/
def time : LabelType := { code := 0x0012 }
/-- A serial number. -/
def serial : LabelType := { code := 0x0013 }

/-- The code of the first application label. -/
def firstApp : UInt16 := 0x1000

/-- The code of the last application label. -/
def lastApp : UInt16 := 0x2000

/-- The type with a given code; 0 is none. -/
def ofCode? (code : UInt16) : Option LabelType :=
  if h : code ≠ 0 then some { code, code_ne_zero := h } else none

theorem ofCode?_eq_some_iff {code : UInt16} {type : LabelType} :
    ofCode? code = some type ↔ type.code = code := by
  obtain ⟨c, hc⟩ := type
  unfold ofCode?
  split
  · next h =>
    constructor
    · intro he; cases he; rfl
    · rintro rfl; rfl
  · next h =>
    constructor
    · intro he; cases he
    · rintro rfl; exact absurd hc h

/-- The application label of a number up to 4096. -/
def app? (n : UInt16) : Option LabelType :=
  if n ≤ lastApp - firstApp then ofCode? (firstApp + n) else none

/-- The number of an application label. -/
def appNumber? (type : LabelType) : Option UInt16 :=
  if firstApp ≤ type.code ∧ type.code ≤ lastApp then some (type.code - firstApp) else none

/-- The types that have a name in a URI. -/
def mnemonics : List (String × LabelType) :=
  [("Name", name), ("InterestPayloadId", payloadId), ("Chunk", chunk), ("ChunkMeta", chunkMeta),
    ("Time", time), ("Serial", serial)]

/-- The name of a type in a URI. -/
def mnemonic? (type : LabelType) : Option String :=
  (mnemonics.find? fun entry => entry.2 == type).map Prod.fst

end LabelType

/-- Whether two texts agree up to the case of ASCII letters. -/
def sameIgnoringCase (a b : List Char) : Bool := a.map Char.toLower == b.map Char.toLower

/-- The type that a mnemonic names, in any case. -/
def LabelType.ofMnemonic? (text : List Char) : Option LabelType :=
  (mnemonics.find? fun entry => sameIgnoringCase entry.1.toList text).map Prod.snd

/-! ## Labels -/

/-- Why a text is no label. -/
inductive LabelError
  | reservedType
  | unknownMnemonic (text : String)
  | invalidNumber (text : String)
  | invalidAppNumber (text : String)
  | appNumberTooLarge (n : UInt16)
  | appWithParameter (n : UInt16)
deriving DecidableEq, Repr

namespace LabelError

/-- The class of every failure to read a label. -/
def kind (_ : LabelError) : ErrorKind := .invalidLabel

/-- The wording of a failure. -/
def message : LabelError → String
  | .reservedType => "Label type 0 is reserved"
  | .unknownMnemonic text => s!"Unknown label mnemonic: {text}"
  | .invalidNumber text => s!"Invalid numeric label: {text}"
  | .invalidAppNumber text => s!"Invalid application label parameter: {text}"
  | .appNumberTooLarge n => s!"Invalid application label parameter: {n.toNat}"
  | .appWithParameter n =>
    s!"Invalid application label parameter: App:{n.toNat} does not take a parameter"

end LabelError

/-- The label of a segment. -/
structure Label where
  type : LabelType
  parameter : Option Bytes := none
  /-- The number of an application label takes the place of its parameter. -/
  app_parameter : type.appNumber?.isSome → parameter = none := by intro _; rfl
deriving DecidableEq

namespace Label

/-- The label of a type, without a parameter. -/
def ofType (type : LabelType) : Label := { type }

/-- The label of most segments: a plain name without a parameter. -/
def name : Label := ofType .name

/-- A label with an optional parameter. -/
def make (type : LabelType) (parameter : Option Bytes) : Except LabelError Label :=
  if h : type.appNumber?.isSome → parameter = none then
    .ok { type, parameter, app_parameter := h }
  else .error (.appWithParameter (type.appNumber?.getD 0))

/-- The label of a type code. -/
def ofCode (code : UInt16) : Except LabelError Label :=
  match LabelType.ofCode? code with
  | some type => .ok (ofType type)
  | none => .error .reservedType

/-- The order of labels: the type decides, then the parameter, where no parameter comes first. -/
def compare (a b : Label) : Ordering :=
  (Ord.compare a.type.code b.type.code).then (Ord.compare a.parameter b.parameter)

instance : Ord Label := ⟨compare⟩

/-! ### Reading -/

/-- The label that the text before `=` denotes, cut into type and parameter. -/
def ofParts (type : List Char) (parameter : Option (List Char)) : Except LabelError Label :=
  match type with
  | [] => make .name (parameter.map Percent.decode)
  | c :: _ =>
    if c.isDigit then
      match Numeral.uint16? type with
      | none => .error (.invalidNumber (String.ofList type))
      | some code =>
        match LabelType.ofCode? code with
        | none => .error .reservedType
        | some type => make type (parameter.map Percent.decode)
    else if sameIgnoringCase "App".toList type then
      match parameter with
      | none =>
        match LabelType.app? 0 with
        | none => .error (.appNumberTooLarge 0)
        | some type => .ok (ofType type)
      | some text =>
        match Numeral.uint16? text with
        | none => .error (.invalidAppNumber (String.ofList text))
        | some n =>
          match LabelType.app? n with
          | none => .error (.appNumberTooLarge n)
          | some type => .ok (ofType type)
    else
      match LabelType.ofMnemonic? type with
      | none => .error (.unknownMnemonic (String.ofList type))
      | some type => make type (parameter.map Percent.decode)

/-- The label of a raw segment and the text behind it. A segment without `=` is all value and has
the label of a plain name. -/
def parse (text : List Char) : Except LabelError (Label × List Char) :=
  match Text.cut? '=' text with
  | none => .ok (name, text)
  | some (head, value) =>
    let parts := match Text.cut? ':' head with
      | none => ofParts head none
      | some (type, parameter) => ofParts type (some parameter)
    parts.map fun label => (label, value)

/-- The label of a raw segment and the number of bytes it takes, its `=` included. -/
def parseCounted (text : String) : Except LabelError (Label × Nat) :=
  (parse text.toList).map fun (label, value) =>
    (label, Percent.utf8Length text.toList - Percent.utf8Length value)

/-! ### Writing -/

/-- The type of a label as it is written: its mnemonic, or its code in decimal below the
application range and in hexadecimal above it. -/
def typeText (type : LabelType) : List Char :=
  match type.mnemonic? with
  | some mnemonic => mnemonic.toList
  | none =>
    if type.code < LabelType.firstApp then Nat.toDigits 10 type.code.toNat
    else '0' :: 'x' :: Nat.toDigits 16 type.code.toNat

/-- The written form of a label with its `=`, also for a plain name. -/
def renderExplicit (label : Label) : List Char :=
  match label.type.appNumber? with
  | some n => "App:".toList ++ Nat.toDigits 10 n.toNat ++ ['=']
  | none =>
    let parameter := match label.parameter with
      | none => []
      | some bytes => ':' :: Percent.encode bytes
    typeText label.type ++ parameter ++ ['=']

/-- The written form of a label; the label of a plain name is left out. -/
def render (label : Label) : List Char :=
  if label = name then [] else label.renderExplicit

/-- The written form of a label as a string. -/
def text (label : Label) : String := String.ofList label.render

end Label

end NamedContent
