import NamedContent.Idna.MappingTable

/-!
# The mapping of domains

Before a domain is looked at, its characters are mapped: letters lose their case, variants become
the plain characters, characters without a meaning vanish, and some are refused.
-/

namespace NamedContent.Idna

/-- What a rule makes of a character at an offset in its run; nothing is made of a refused one. -/
def MappingRule.apply? (offset : Nat) (c : Char) : MappingRule → Option (List Char)
  | .valid => some [c]
  | .ignored => some []
  | .disallowed => none
  | .pairs => some [if offset % 2 = 0 then Char.ofNat (c.toNat + 1) else c]
  | .up distance => some [Char.ofNat (c.toNat + distance)]
  | .down distance => some [Char.ofNat (c.toNat - distance)]
  | .text replacement => some replacement
  | .texts replacements => replacements[offset]?

/-- What a character becomes in a domain. Of ASCII only capital letters change. -/
def mapChar? (c : Char) : Option (List Char) :=
  if isAscii c then some [c.toLower]
  else match mappingTable.run? c with
    | none => none
    | some (start, rule) => rule.apply? (c.toNat - start) c

/-- The text that a domain becomes, unless it holds a refused character. -/
def map? (domain : List Char) : Option (List Char) :=
  (domain.mapM mapChar?).map List.flatten

/-- Whether a domain may hold a character as it is. -/
def isValid (c : Char) : Bool := mapChar? c == some [c]

end NamedContent.Idna
