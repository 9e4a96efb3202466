import NamedContent.Idna.Composition
import NamedContent.Idna.Direction
import NamedContent.Idna.Joining
import NamedContent.Idna.Mapping
import NamedContent.Idna.Punycode

/-!
# Domains with letters of all scripts

`toUnicode?` gives the letters that a domain stands for: it is mapped and composed, and its encoded
labels are decoded. There is no result when the domain is not well formed. Hyphens may stand
anywhere in a label, and labels may be empty.
-/

namespace NamedContent.Idna

/-- Encoded labels are not read beyond this length. -/
def greatestEncoded : Nat := 2000

/-- Labels with letters beyond ASCII are not longer. -/
def greatestLabel : Nat := 1000

/-- Whether mapping and composing leave a label as it is. -/
def isSettled (label : List Char) : Bool := label.all isValid && compose label == label

/-- The label that the code behind the mark of encoded labels stands for. -/
def decodeLabel? (code : List Char) : Option (List Char) :=
  if code.isEmpty || code.getLast? == some '-' || greatestEncoded < code.length then none
  else (Punycode.decode? code).filter isSettled

/-- The label that a mapped label stands for. -/
def expandLabel? : List Char → Option (List Char)
  | 'x' :: 'n' :: '-' :: '-' :: code => decodeLabel? code
  | label => some label

/-- Whether a label starts with a character of its own, has its joiners in place and is not too
long. -/
def isWellFormed (label : List Char) : Bool :=
  label.all isAscii ||
    !label.head?.any isMark && joinersFit [] label && label.length ≤ greatestLabel

/-- The domain in letters, when it is well formed. -/
def toUnicode? (domain : List Char) : Option (List Char) := do
  let text ← map? domain
  let labels ← (Text.split '.' (compose text)).mapM expandLabel?
  let directed := labels.all keepsDirection || !labels.any fun label => label.any isRightToLeft
  if labels.all isWellFormed && directed then some (List.intercalate ['.'] labels) else none

end NamedContent.Idna
