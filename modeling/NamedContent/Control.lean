import NamedContent.Json.Parser
import NamedContent.Message.Error
import NamedContent.Text.Percent

/-!
# Control messages

A control message tells a forwarder what to do, in JSON, and may have a name. It is never signed.
-/

namespace NamedContent

/-- A message for a forwarder. -/
structure Control where
  message : Message
  kind_eq : message.kind = .control

namespace Control

/-- The message of a control message. -/
def messageOf (name : Option Name) (payload : Bytes) : Message :=
  ((Message.empty .control).setIfSome .name (name.map .name)).set .payload (.json payload)

theorem kind_messageOf (name : Option Name) (payload : Bytes) :
    (messageOf name payload).kind = .control := by
  cases name <;> rfl

/-- A control message. -/
def create (name : Option Name) (payload : Json) : Control :=
  ⟨messageOf name (Percent.utf8 payload.chars), kind_messageOf ..⟩

/-- The control message of a message of that kind. -/
def ofMessage (m : Message) : Except MessageError Control :=
  if h : m.kind = .control then .ok ⟨m, h⟩ else .error (.wrongKind .control m.kind)

/-- The name. -/
def name? (c : Control) : Option Name := c.message.name? .name

/-- The payload as it is written. -/
def json? (c : Control) : Option Bytes := c.message.json? .payload

/-- The payload. -/
def payload (c : Control) : Except MessageError Json :=
  match c.json? with
  | none => .error (.missingField .payload)
  | some text =>
    match Json.ofBytes? text with
    | some j => .ok j
    | none => .error .json

/-- Writes a control message as a packet. -/
def toWire (c : Control) (now : UInt64) : Except MessageError WireMessage :=
  c.message.toWire none now

end Control

end NamedContent
