/-!
# TOML documents

A document is a table of values, arrays and tables. Headers and dotted keys build it up bit by
bit; how a table came to be decides who may still add to it.

* `edit` changes the table at the end of a path, `assign` gives a key its value.
-/

namespace NamedContent.Toml

/-- How a table came to be. -/
inductive Origin
  /-- It has a header of its own. -/
  | header
  /-- It is on the way to the table of a header. -/
  | implied
  /-- It is on the way to the value of a dotted key. -/
  | dotted
  /-- It is written in one line between braces. -/
  | inline
deriving DecidableEq, Repr

/-- A value, an array, a table, or a list of tables with a common header. Numbers that are not
whole and moments are kept as they are written. -/
inductive Node
  | string (text : String)
  | integer (n : Int)
  | float (text : String)
  | boolean (b : Bool)
  | moment (text : String)
  | array (items : List Node)
  | table (origin : Origin) (entries : List (String × Node))
  | tables (earlier : List (List (String × Node))) (last : List (String × Node))

/-- The entries of a table, each key once. -/
abbrev Entries := List (String × Node)

namespace Entries

/-- The entries with another value for a key, in its place if it is there. -/
def set (key : String) (node : Node) : Entries → Entries
  | [] => [(key, node)]
  | entry :: rest => if entry.1 = key then (key, node) :: rest else entry :: set key node rest

/-- Changes the table at the end of a path and makes the tables that are missing on the way. A
path of dots leads only through tables without a header of their own, and none leads through a
table between braces that is complete. In a list of tables the last one counts. -/
def edit (byDots : Bool) (change : Origin → Entries → Option Entries) :
    (path : List String) → Origin → Entries → Option Entries
  | [], origin, entries => change origin entries
  | key :: path, _, entries =>
    match entries.lookup key with
    | none =>
      let origin := if byDots then .dotted else .implied
      (edit byDots change path origin []).map fun inner => entries.set key (.table origin inner)
    | some (.table origin inner) =>
      if origin = .inline ∨ (byDots ∧ origin = .header) then none
      else (edit byDots change path origin inner).map fun inner =>
        entries.set key (.table origin inner)
    | some (.tables earlier last) =>
      (edit byDots change path .header last).map fun last =>
        entries.set key (.tables earlier last)
    | some _ => none

/-- Adds an entry to a table; the key must be new. A table that dots made takes entries from
dotted keys only, and any other table takes none from them. -/
def add (byDots : Bool) (key : String) (node : Node) (origin : Origin) (entries : Entries) :
    Option Entries :=
  if (origin == .dotted) != byDots || (entries.lookup key).isSome then none
  else some (entries ++ [(key, node)])

/-- Gives the key at the end of a dotted path its value. -/
def assign (path : List String) (node : Node) (origin : Origin) (entries : Entries) :
    Option Entries :=
  match path.getLast? with
  | none => none
  | some key => edit true (add (1 < path.length) key node) path.dropLast origin entries

/-! ## Headers -/

/-- Gives a table its header. -/
def openTable (key : String) (_ : Origin) (entries : Entries) : Option Entries :=
  match entries.lookup key with
  | none => some (entries ++ [(key, .table .header [])])
  | some (.table .implied inner) => some (entries.set key (.table .header inner))
  | some _ => none

/-- Begins one more table of a list. -/
def openItem (key : String) (_ : Origin) (entries : Entries) : Option Entries :=
  match entries.lookup key with
  | none => some (entries ++ [(key, .tables [] [])])
  | some (.tables earlier last) => some (entries.set key (.tables (earlier ++ [last]) []))
  | some _ => none

end Entries

/-- A document and the path of the header that is in force. -/
structure Document where
  entries : Entries := []
  current : List String := []

namespace Document

/-- Gives a key of the table in force its value. -/
def assign (d : Document) (path : List String) (node : Node) : Option Document :=
  (Entries.edit false (fun _ => Entries.assign path node .header) d.current .header d.entries).map
    fun entries => { d with entries }

/-- Puts a header in force: of a table, or of one more table of a list. -/
def enter (d : Document) (isItem : Bool) (path : List String) : Option Document :=
  match path.getLast? with
  | none => none
  | some key =>
    (Entries.edit false (if isItem then Entries.openItem key else Entries.openTable key)
      path.dropLast .header d.entries).map fun entries => { entries, current := path }

end Document

end NamedContent.Toml
