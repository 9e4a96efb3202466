import NamedContent.Packet.Decode
import NamedContent.Proofs.Zones

/-!
# Layouts

A layout is what a packet is made of: the bytes of the fixed header that are not lengths, and the
elements of each zone. `Layout.toBytes` is the packet, with the lengths that its parts have;
`Layout.Valid` says which layouts there are packets of, and `Layout.Carries` which message a
packet stands for.

* `Carries.eq`: a packet stands for one message.
-/

namespace NamedContent

namespace Layout

/-- The validation of a packet: the crypto suite, what stands in it, and a signature. -/
structure Validation where
  suite : UInt16
  fields : List Tlv
  signature : Option Bytes
deriving DecidableEq, Repr

/-- The element of the validation algorithm, which holds nothing but the suite. -/
def Validation.algorithm (v : Validation) : Tlv :=
  ⟨Part.algorithmType, Tlv.toBytes ⟨v.suite, Tlv.concat v.fields⟩⟩

variable (v : Option Validation)

/-- The elements of a validation: the algorithm, and the signature if there is one. -/
def validationElements : List Tlv :=
  match v with
  | none => []
  | some v => v.algorithm :: (v.signature.map (Tlv.mk Part.signatureType)).toList

/-- The elements in the suite. -/
def suiteElements : List Tlv := (v.map Validation.fields).getD []

/-- The length of the validation algorithm. -/
def algorithmSize : Nat := (v.map fun v => v.algorithm.size).getD 0

/-- The crypto suite as a value. -/
def suiteValue? : Option Value := v.map fun v => .int v.suite.toUInt64

/-- The signature as a value. -/
def signatureValue? : Option Value := (v.bind Validation.signature).map .bytes

end Layout

/-- What a packet is made of. -/
structure Layout where
  kind : MessageKind
  hopLimit : UInt8
  returnCode : UInt8
  flags : UInt8
  hop : List Tlv
  body : List Tlv
  validation : Option Layout.Validation
deriving DecidableEq, Repr

namespace Layout

/-! ## The packet -/

/-- The elements of a zone. -/
def elements (p : Layout) : Zone → List Tlv
  | .hop => p.hop
  | .body => p.body
  | .suite => suiteElements p.validation

/-- The element of the message. -/
def messageElement (p : Layout) : Tlv := ⟨p.kind.elementType, Tlv.concat p.body⟩

/-- All that stands behind the headers. -/
def content (p : Layout) : Bytes :=
  Tlv.concat (p.messageElement :: validationElements p.validation)

/-- The length of all headers. -/
def headerLength (p : Layout) : Nat := fixedHeaderLength + (Tlv.concat p.hop).length

/-- The length of the packet. -/
def packetLength (p : Layout) : Nat := p.headerLength + p.content.length

/-- The fixed header. -/
def header (p : Layout) : Header where
  version := schemaVersion
  packetType := p.kind.packetType
  packetLength := UInt16.ofNat p.packetLength
  hopLimit := p.hopLimit
  returnCode := p.returnCode
  flags := p.flags
  headerLength := UInt8.ofNat p.headerLength

/-- The packet. -/
def toBytes (p : Layout) : Bytes := p.header.toBytes ++ Tlv.concat p.hop ++ p.content

/-- The signed bytes: message and validation algorithm. -/
def signed (p : Layout) : Region :=
  ⟨p.headerLength, p.messageElement.size + algorithmSize p.validation⟩

/-- The bytes behind the headers. -/
def hashed (p : Layout) : Region := ⟨p.headerLength, p.content.length⟩

/-- The layouts of which there are packets: one byte announces the length of the headers and two
bytes that of the packet, each zone has elements that its table accepts, and only a control
message may be without a name. -/
structure Valid (p : Layout) : Prop where
  headers : p.headerLength ≤ 255
  packet : p.packetLength ≤ maxLength
  accepts : ∀ zone, Zone.Accepts p.kind zone (p.elements zone)
  named : p.kind ≠ .control → ∃ t ∈ p.body, t.type = 0x0000

@[simp] theorem length_toBytes_header (h : Header) : h.toBytes.length = fixedHeaderLength := by
  simp [Header.toBytes, fixedHeaderLength]

theorem length_toBytes (p : Layout) : p.toBytes.length = p.packetLength := by
  simp only [toBytes, packetLength, headerLength, List.length_append, length_toBytes_header]

theorem headerLength_le (p : Layout) : p.headerLength ≤ p.packetLength := Nat.le_add_right _ _

theorem fixedHeaderLength_le (p : Layout) : fixedHeaderLength ≤ p.headerLength :=
  Nat.le_add_right _ _

/-- The lengths can be announced: one byte has room for that of the headers and two bytes for that
of the packet. -/
structure Bounded (p : Layout) : Prop where
  headers : p.headerLength ≤ 255
  packet : p.packetLength ≤ maxLength

theorem Valid.bounded {p : Layout} (h : p.Valid) : p.Bounded := ⟨h.headers, h.packet⟩

namespace Bounded

variable {p : Layout}

theorem toNat_headerLength (h : p.Bounded) : p.header.headerLength.toNat = p.headerLength := by
  have := h.headers
  show (UInt8.ofNat p.headerLength).toNat = _
  rw [UInt8.toNat_ofNat']
  omega

theorem toNat_packetLength (h : p.Bounded) : p.header.packetLength.toNat = p.packetLength := by
  have := h.packet
  show (UInt16.ofNat p.packetLength).toNat = _
  rw [UInt16.toNat_ofNat', Nat.mod_eq_of_lt]
  unfold maxLength at this
  omega

end Bounded

/-- Every element of a packet is short enough where the packet is. -/
theorem fits_hop {p : Layout} (h : p.packetLength ≤ maxLength) : ∀ t ∈ p.hop, t.Fits := by
  apply Tlv.fits_of_mem
  unfold packetLength headerLength at h
  omega

theorem fits_content {p : Layout} (h : p.packetLength ≤ maxLength) :
    ∀ t ∈ p.messageElement :: validationElements p.validation, t.Fits := by
  apply Tlv.fits_of_mem
  unfold packetLength content at h
  omega

theorem fits_elements {p : Layout} (h : p.packetLength ≤ maxLength) (zone : Zone) :
    ∀ t ∈ p.elements zone, t.Fits := by
  obtain ⟨hmessage, hvalidation⟩ := List.forall_mem_cons.mp (fits_content h)
  cases zone with
  | hop => exact fits_hop h
  | body => exact Tlv.fits_of_mem hmessage
  | suite =>
    obtain ⟨kind, hopLimit, returnCode, flags, hop, body, validation⟩ := p
    cases validation with
    | none => exact nofun
    | some v =>
      have halgorithm : v.algorithm.Fits := hvalidation v.algorithm List.mem_cons_self
      exact Tlv.fits_of_mem (Tlv.fits_of_toBytes halgorithm)

/-! ## The message -/

/-- What a packet tells about the fields that have no slot. -/
def outer (p : Layout) : Field → Option Value
  | .fixedHeader => some (.bytes p.header.toBytes)
  | .hopLimit => if p.kind.isRequest then some (.int p.hopLimit.toUInt64) else none
  | .returnCode => if p.kind = .interestReturn then some (.int p.returnCode.toUInt64) else none
  | .cryptoSuite => suiteValue? p.validation
  | .signature => signatureValue? p.validation
  | _ => none

/-- The message that a packet stands for: each slot has the value of its element, each other field
what the fixed header and the validation tell, and the elements without a slot are kept in order. -/
structure Carries (p : Layout) (m : Message) : Prop where
  kind : m.kind = p.kind
  slots : ∀ zone, ∀ slot ∈ slots p.kind zone,
    slot.Reads (Tlv.valueOf? (p.elements zone) slot.type) m
  outer : ∀ f, (∀ zone, ∀ slot ∈ NamedContent.slots p.kind zone, f ∉ slot.fields) →
    m.fields f = p.outer f
  extras : ∀ zone, m.extras zone = zone.unknown p.kind (p.elements zone)

/-- What is kept beside the slots has no slot. -/
theorem Carries.not_mem_knownTypes {p : Layout} {m : Message} (h : p.Carries m) (zone : Zone) :
    ∀ t ∈ m.extras zone, t.type ∉ knownTypes m.kind zone := by
  intro t ht
  rw [h.extras zone] at ht
  rw [h.kind]
  exact (Zone.mem_unknown.mp ht).2

/-- A packet stands for one message. -/
theorem Carries.eq {p : Layout} {m m' : Message} (h : p.Carries m) (h' : p.Carries m') :
    m = m' := by
  refine Message.eq_of (h.kind.trans h'.kind.symm) (fun f => ?_)
    fun zone => (h.extras zone).trans (h'.extras zone).symm
  -- A field belongs to a slot, or it is told by the header and the validation.
  by_cases hf : ∃ zone, ∃ slot ∈ NamedContent.slots p.kind zone, f ∈ slot.fields
  · obtain ⟨zone, slot, hs, hf⟩ := hf
    rw [h.slots zone slot hs f hf, h'.slots zone slot hs f hf]
  · have hf : ∀ zone, ∀ slot ∈ NamedContent.slots p.kind zone, f ∉ slot.fields :=
      fun zone slot hs hmem => hf ⟨zone, slot, hs, hmem⟩
    rw [h.outer f hf, h'.outer f hf]

end Layout

end NamedContent
