import NamedContent.Interest

/-!
# Returned Interests

An Interest that cannot be served goes back with a return code. Everything else in it stays.
-/

namespace NamedContent

/-- An Interest on its way back. -/
structure InterestReturn where
  message : Message
  kind_eq : message.kind = .interestReturn

namespace InterestReturn

/-- Sends an Interest back. -/
def create (i : Interest) (code : ReturnCode) : InterestReturn where
  message := (i.message.withKind .interestReturn).set .returnCode (.int code.code.toUInt64)
  kind_eq := rfl

/-- The returned Interest of a message of that kind. -/
def ofMessage (m : Message) : Except MessageError InterestReturn :=
  if h : m.kind = .interestReturn then .ok ⟨m, h⟩ else .error (.wrongKind .interestReturn m.kind)

/-- The return code. -/
def code (r : InterestReturn) : Except MessageError ReturnCode :=
  match r.message.int? .returnCode with
  | none => .error (.missingField .returnCode)
  | some n =>
    match if n.toNat < 256 then ReturnCode.ofCode? n.toUInt8 else none with
    | some code => .ok code
    | none => .error (.invalidValue .returnCode)

/-- The Interest that came back. -/
def interest (r : InterestReturn) : Interest where
  message := (r.message.withKind .interest).erase .returnCode
  kind_eq := rfl

/-- Writes a returned Interest as a packet. -/
def toWire (r : InterestReturn) (signer : Option Signer) (now : UInt64) :
    Except MessageError WireMessage := r.message.toWire signer now

end InterestReturn

end NamedContent
