import NamedContent.Decimal.Shortest
import NamedContent.Text.Hex

/-!
# JSON values

Values as they are exchanged: an object has each key once, in the order of its characters, and a
number is an integer of at most 64 bits or a binary64 number. `Json.render` writes a value without
any blanks.
-/

namespace NamedContent

/-- A JSON value. -/
inductive Json
  | null
  | bool (b : Bool)
  | int (n : Int)
  | float (f : Float)
  | string (s : String)
  | array (items : List Json)
  | object (entries : List (String × Json))

namespace Json

/-! ## Objects -/

/-- Entries with one more, in the place of its key; an earlier value of the key gives way. -/
def insertEntry (key : String) (value : Json) : List (String × Json) → List (String × Json)
  | [] => [(key, value)]
  | (k, v) :: rest =>
    if key = k then (key, value) :: rest
    else if key < k then (key, value) :: (k, v) :: rest
    else (k, v) :: insertEntry key value rest

/-- The object of a list of entries. -/
def ofEntries (entries : List (String × Json)) : Json :=
  object (entries.foldl (fun o entry => insertEntry entry.1 entry.2 o) [])

/-- A value that may be absent. -/
def ofOption (value : Option Json) : Json := value.getD null

/-! ## Writing -/

/-- A character as it is written between quotes. -/
def escape (c : Char) : List Char :=
  if c = '"' then ['\\', '"']
  else if c = '\\' then ['\\', '\\']
  else if c = '\n' then ['\\', 'n']
  else if c = '\r' then ['\\', 'r']
  else if c = '\t' then ['\\', 't']
  else if c.toNat = 0x08 then ['\\', 'b']
  else if c.toNat = 0x0C then ['\\', 'f']
  else if c.toNat < 0x20 then
    ['\\', 'u', '0', '0', Hex.lower (c.toNat / 16), Hex.lower c.toNat]
  else [c]

/-- A string between quotes. -/
def quote (s : String) : List Char := '"' :: (s.toList.flatMap escape ++ ['"'])

mutual

/-- The written form of a value. -/
def chars : Json → List Char
  | null => "null".toList
  | bool b => (if b then "true" else "false").toList
  | int n => (toString n).toList
  | float f => Decimal.text f.toBits
  | string s => quote s
  | array items => '[' :: charsOfItems true items
  | object entries => '\x7b' :: charsOfEntries true entries

/-- The items of an array and its end. -/
def charsOfItems (first : Bool) : List Json → List Char
  | [] => [']']
  | item :: rest => (if first then [] else [',']) ++ (item.chars ++ charsOfItems false rest)

/-- The entries of an object and its end. -/
def charsOfEntries (first : Bool) : List (String × Json) → List Char
  | [] => ['\x7d']
  | (key, value) :: rest =>
    (if first then [] else [',']) ++
      (quote key ++ ':' :: (value.chars ++ charsOfEntries false rest))

end

/-- The written form of a value as a string. -/
def render (j : Json) : String := String.ofList j.chars

end Json

end NamedContent
