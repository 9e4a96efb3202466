import NamedContent.Idna.Domain
import NamedContent.Text.Percent
import NamedContent.Text.Split

/-!
# Hosts of a URI

Which texts are hosts. A host in brackets is an IPv6 address under every scheme. Otherwise a
scheme without rules of its own takes any text free of delimiters, and the schemes of the web take
a domain or an IPv4 address.
-/

namespace NamedContent.Uri

/-- Why a text is no absolute URI. -/
inductive Fault
  | relative
  | emptyHost
  | invalidPort
  | invalidIpv4
  | invalidIpv6
  | invalidHostCharacter
  | invalidDomain
deriving DecidableEq, Repr

/-- The wording of a fault. -/
def Fault.message : Fault → String
  | .relative => "relative URL without a base"
  | .emptyHost => "empty host"
  | .invalidPort => "invalid port number"
  | .invalidIpv4 => "invalid IPv4 address"
  | .invalidIpv6 => "invalid IPv6 address"
  | .invalidHostCharacter => "invalid domain character"
  | .invalidDomain => "invalid international domain name"

/-! ## IPv6 addresses -/

/-- A decimal byte without leading zeros. -/
def isDottedPart (text : List Char) : Bool :=
  text.all Char.isDigit && !text.isEmpty && (text.head? != some '0' || text.length == 1) &&
    text.length ≤ 3 && text.foldl (fun n c => n * 10 + (c.toNat - 48)) 0 ≤ 255

/-- Four decimal bytes with points in between. -/
def isDottedQuad (text : List Char) : Bool :=
  let parts := Text.split '.' text
  parts.length == 4 && parts.all isDottedPart

/-- One to four hexadecimal digits. -/
def isHexGroup (text : List Char) : Bool :=
  !text.isEmpty && text.length ≤ 4 && text.all fun c => (Hex.digit? c).isSome

/-- The number of 16-bit groups written with colons in between; a dotted quad, allowed in last
place, makes two. -/
def countGroups? (quadAllowed : Bool) (text : List Char) : Option Nat :=
  if text.isEmpty then some 0
  else
    let groups := Text.split ':' text
    match groups.getLast? with
    | none => none
    | some last =>
      if groups.all isHexGroup then some groups.length
      else if quadAllowed && isDottedQuad last && groups.dropLast.all isHexGroup then
        some (groups.length + 1)
      else none

/-- The text before the first two colons in a row and the text behind them. -/
def cutAtGap? : List Char → Option (List Char × List Char)
  | ':' :: ':' :: rest => some ([], rest)
  | c :: rest => (cutAtGap? rest).map fun (before, behind) => (c :: before, behind)
  | [] => none

/-- Eight groups, or fewer around one gap. -/
def isIpv6 (text : List Char) : Bool :=
  match cutAtGap? text with
  | none => countGroups? true text == some 8
  | some (before, behind) =>
    match countGroups? false before, countGroups? true behind with
    | some m, some n => m + n ≤ 7
    | _, _ => false

/-- An IPv6 address in brackets, of which the first is known to be there. -/
def checkBracketed (host : List Char) : Except Fault Unit :=
  if host.getLast? == some ']' && isIpv6 (host.drop 1).dropLast then .ok ()
  else .error .invalidIpv6

/-! ## Hosts without rules of their own -/

/-- Characters that no host may hold. -/
def isHostDelimiter (c : Char) : Bool :=
  c == '\x00' || c == '\t' || c == '\n' || c == '\r' || c == ' ' || c == '#' || c == '/' ||
    c == ':' || c == '<' || c == '>' || c == '?' || c == '@' || c == '[' || c == '\\' ||
    c == ']' || c == '^' || c == '|'

/-- The check of a host under a scheme that has no rules for hosts. -/
def checkOpaqueHost (host : List Char) : Except Fault Unit :=
  if host.head? == some '[' then checkBracketed host
  else if host.any isHostDelimiter then .error .invalidHostCharacter
  else .ok ()

/-! ## Domains and IPv4 addresses -/

/-- The number of one part of an IPv4 address: decimal, octal behind `0` or hexadecimal behind
`0x`. The inner value is absent when it takes more than 32 bits. -/
def ipv4Number? (text : List Char) : Option (Option Nat) :=
  let read (base : Nat) (isDigit : Char → Bool) (digits : List Char) : Option (Option Nat) :=
    if digits.isEmpty then some (some 0)
    else if digits.all isDigit then
      let n := digits.foldl (fun n c => n * base + (Hex.digit? c).getD 0) 0
      some (if n < 4294967296 then some n else none)
    else none
  match text with
  | [] => none
  | '0' :: 'x' :: digits => read 16 (fun c => (Hex.digit? c).isSome) digits
  | '0' :: 'X' :: digits => read 16 (fun c => (Hex.digit? c).isSome) digits
  | '0' :: d :: digits => read 8 (fun c => '0' ≤ c && c ≤ '7') (d :: digits)
  | _ => read 10 Char.isDigit text

/-- The parts of a domain, without the empty one behind a closing point. -/
def domainParts (domain : List Char) : List (List Char) :=
  let parts := Text.split '.' domain
  if parts.getLast? == some [] then parts.dropLast else parts

/-- Whether a domain has to be read as an IPv4 address. -/
def endsInNumber (domain : List Char) : Bool :=
  match (domainParts domain).getLast? with
  | none => false
  | some last => (!last.isEmpty && last.all Char.isDigit) || (ipv4Number? last).isSome

/-- At most four numbers; all but the last are bytes and the last fills the bytes left. -/
def isIpv4 (domain : List Char) : Bool :=
  let parts := domainParts domain
  match parts.mapM (fun part => (ipv4Number? part).join) with
  | none => false
  | some numbers =>
    numbers.length ≤ 4 && numbers.dropLast.all (· ≤ 255) &&
      numbers.getLast?.any (· < Nat.pow 256 (5 - numbers.length))

/-- Characters that no domain may hold. -/
def isDomainDelimiter (c : Char) : Bool :=
  c ≤ ' ' || c == '\x7f' || c == '%' || isHostDelimiter c

/-- The bytes of a percent-encoded host as characters, when they are UTF-8. -/
def decodedHost? (host : List Char) : Option (List Char) :=
  (String.fromUTF8? (Percent.decode host).toByteArray).map String.toList

/-- The domain, in letters, that a host names under a scheme of the web. An address in brackets
stands for itself. -/
def readDomain (host : List Char) : Except Fault (List Char) :=
  if host.head? == some '[' then (checkBracketed host).map fun _ => host
  else match (decodedHost? host).bind Idna.toUnicode? with
    | none => .error .invalidDomain
    | some domain =>
      if domain.any isDomainDelimiter then .error .invalidDomain
      else if domain.isEmpty then .error .emptyHost
      else if endsInNumber domain && !isIpv4 domain then .error .invalidIpv4
      else .ok domain

end NamedContent.Uri
