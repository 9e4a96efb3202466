import NamedContent.Message.Error
import NamedContent.Proofs.Repetition

/-!
# Messages that a packet can tell

A message is put together field by field. It stays one that a packet can tell (`Message.Tellable`)
as long as each field is given what a packet of the kind can put there (`Field.Holds`): one lemma
for each way to change a message. What is written for such a message without a signer is read back
with every field as it was (`Packet.decode_unsigned`, `Message.Headed.frame_received`).
-/

namespace NamedContent

/-! ## Fields -/

/-- Whether a packet of a kind can put a value into a field. -/
def Field.Holds (kind : MessageKind) (f : Field) (v : Value) : Prop :=
  match f with
  | .hopLimit => kind.isRequest = true ∧ ∃ n : UInt8, v = .int n.toUInt64
  | .returnCode => kind = .interestReturn ∧ ∃ n : UInt8, v = .int n.toUInt64
  | .cryptoSuite => ∃ suite : UInt16, v = .int suite.toUInt64
  | .signature | .keyNameKeyId | .keyNameContentHash => ∃ b, v = .bytes b
  | f => ∃ zone, ∃ slot ∈ slots kind zone, slot.field = f ∧ slot.form.Shapes v

namespace Field.Holds

variable {kind : MessageKind} {zone : Zone} {slot : Slot} {f : Field} {v : Value}

/-- A field that has a slot holds what its slot can read. -/
theorem shapes (h : f.Holds kind v) (hs : slot ∈ slots kind zone) (hf : slot.field = f) :
    slot.form.Shapes v := by
  have hmem : f ∈ slot.fields := hf ▸ slot.field_mem_fields
  have hout : f ∉ outerFields := not_mem_outerFields hs hmem
  have hlink : f ∉ [Field.keyNameKeyId, .keyNameContentHash] := by
    have table : ∀ s ∈ slots kind zone, s.field ∉ [Field.keyNameKeyId, .keyNameContentHash] := by
      cases kind <;> cases zone <;> decide
    exact hf ▸ table slot hs
  -- Neither the header nor the validation fills the field, so that some slot does, and there is
  -- one slot for each field.
  have hslot : ∃ zone', ∃ slot' ∈ slots kind zone', slot'.field = f ∧ slot'.form.Shapes v := by
    cases f <;> first | exact h | exact absurd (by decide) hout | exact absurd (by decide) hlink
  obtain ⟨zone', slot', hs', hf', hv⟩ := hslot
  have hmem' : f ∈ slot'.fields := hf' ▸ slot'.field_mem_fields
  obtain rfl := zone_eq_of_field hs hs' hmem hmem'
  rwa [eq_of_field hs hs' hmem hmem']

/-- What a packet can put into a field belongs to a slot, or to the header or the validation. -/
theorem mem_fields (h : f.Holds kind v) :
    f ∈ outerFields ∨ ∃ zone, ∃ slot ∈ slots kind zone, f ∈ slot.fields := by
  have hlink : ∀ g ∈ [Field.keyNameKeyId, .keyNameContentHash],
      ∃ zone, ∃ slot ∈ slots kind zone, g ∈ slot.fields := fun g hg =>
    ⟨.suite, ⟨.keyName, 0x000E, .link⟩, mem_slots_of_key (by decide), List.mem_cons_of_mem _ hg⟩
  have hslot : (∃ zone, ∃ slot ∈ slots kind zone, slot.field = f ∧ slot.form.Shapes v) →
      ∃ zone, ∃ slot ∈ slots kind zone, f ∈ slot.fields := by
    rintro ⟨zone, slot, hs, rfl, -⟩
    exact ⟨zone, slot, hs, slot.field_mem_fields⟩
  cases f <;> first
    | exact .inr (hslot h)
    | exact .inl (by decide)
    | exact .inr (hlink _ (by decide))

/-- A returned request can hold what a request can. -/
theorem returned (h : f.Holds .interest v) : f.Holds .interestReturn v := by
  cases f <;> first | exact h | exact ⟨rfl, h.2⟩

theorem map_bytes (h : ∀ b, f.Holds kind (.bytes b)) (o : Option Bytes) :
    ∀ v ∈ o.map Value.bytes, f.Holds kind v := by
  intro v hv
  obtain ⟨b, -, rfl⟩ := Option.map_eq_some_iff.mp hv
  exact h b

end Field.Holds

namespace Field

variable {kind : MessageKind}

/-- A packet has a place for a name without parameters. -/
theorem holds_name {name : Name} (h : name.Plain) : Field.name.Holds kind (.name name) := by
  cases kind with
  | control => exact ⟨.body, ⟨.name, 0x0000, .name false⟩, by decide, rfl, h⟩
  | _ => exact ⟨.body, ⟨.name, 0x0000, .name true⟩, by decide, rfl, h⟩

/-- A packet that is no control message has a place for any payload. -/
theorem holds_payload (h : kind ≠ .control) (b : Bytes) : Field.payload.Holds kind (.bytes b) := by
  cases kind with
  | control => exact absurd rfl h
  | _ => exact ⟨.body, ⟨.payload, 0x0001, .payload false⟩, by decide, rfl, rfl⟩

end Field

/-! ## Messages -/

namespace Message.Frame

variable {changed : List Field} {m r : Message} {f : Field}

theorem erase (m : Message) (hf : f ∈ changed) : Frame changed m (m.erase f) := by
  refine ⟨rfl, fun g hg => ?_, fun zone => by cases zone <;> rfl⟩
  rw [fields_erase, if_neg]
  rintro rfl
  exact hg hf

/-! What a field tells is the same where the field does not differ. -/

section Queries

variable (h : Frame changed m r) (hf : f ∉ changed)

include h hf

theorem contains : r.contains f = m.contains f := by
  rw [Message.contains, Message.contains, h.fields f hf]

theorem int? : r.int? f = m.int? f := by
  rw [Message.int?, Message.int?, h.fields f hf]

theorem number? : r.number? f = m.number? f := by
  rw [Message.number?, Message.number?, h.fields f hf]

theorem bytes? : r.bytes? f = m.bytes? f := by
  rw [Message.bytes?, Message.bytes?, h.fields f hf]

theorem name? : r.name? f = m.name? f := by
  rw [Message.name?, Message.name?, h.fields f hf]

theorem json? : r.json? f = m.json? f := by
  rw [Message.json?, Message.json?, h.fields f hf]

theorem content? : r.content? f = m.content? f := by
  rw [Message.content?, Message.content?, h.fields f hf]

end Queries

theorem keyLink? (h : Frame changed m r)
    (hdisjoint : ∀ f ∈ [Field.keyName, .keyNameKeyId, .keyNameContentHash], f ∉ changed) :
    r.keyLink? = m.keyLink? := by
  rw [Message.keyLink?, Message.keyLink?, h.name? (hdisjoint .keyName (by simp)),
    h.bytes? (hdisjoint .keyNameKeyId (by simp)),
    h.bytes? (hdisjoint .keyNameContentHash (by simp))]

end Message.Frame

namespace Message

variable {m r : Message} {f : Field} {v : Value}

/-- Each field holds something that a packet of the kind can put there, and there is nothing beside
the fields. -/
structure Tellable (m : Message) : Prop where
  holds : ∀ f v, m.fields f = some v → f.Holds m.kind v
  extras : ∀ zone, m.extras zone = []

/-- Nothing tells who signed. -/
def Unsigned (m : Message) : Prop := ∀ f ∈ validationFields, m.fields f = none

theorem Unsigned.frame {changed : List Field} (h : m.Unsigned) (hframe : Frame changed m r)
    (hdisjoint : ∀ f ∈ validationFields, f ∉ changed) : r.Unsigned := by
  intro f hf
  rw [hframe.fields f (hdisjoint f hf)]
  exact h f hf

/-- Then nothing is told in the suite. -/
theorem Unsigned.fresh (h : m.Unsigned) : m.Fresh .suite := fun slot hs f hf => by
  have table : ∀ s ∈ suiteSlots, ∀ f ∈ s.fields, f ∈ validationFields := by decide
  exact h f (table slot hs f hf)

namespace Tellable

theorem empty (kind : MessageKind) : (Message.empty kind).Tellable :=
  ⟨nofun, fun zone => by cases zone <;> rfl⟩

theorem setIfSome (h : m.Tellable) {o : Option Value} (ho : ∀ v ∈ o, f.Holds m.kind v) :
    (m.setIfSome f o).Tellable := by
  refine ⟨fun g v hv => ?_, fun zone => ?_⟩
  · rw [kind_setIfSome]
    rw [fields_setIfSome] at hv
    split at hv
    · next heq =>
      subst heq
      cases o with
      | none => exact h.holds g v hv
      | some w => exact ho v hv
    · exact h.holds g v hv
  · rw [extras_setIfSome]
    exact h.extras zone

theorem set (h : m.Tellable) (hv : f.Holds m.kind v) : (m.set f v).Tellable :=
  h.setIfSome (o := some v) fun _ hw => Option.some.inj hw ▸ hv

theorem erase (h : m.Tellable) (f : Field) : (m.erase f).Tellable := by
  have hframe : Frame [f] m (m.erase f) := .erase m List.mem_cons_self
  refine ⟨fun g v hv => ?_, fun zone => (hframe.extras zone).trans (h.extras zone)⟩
  rw [fields_erase] at hv
  split at hv
  · cases hv
  · exact h.holds g v hv

theorem returned (h : m.Tellable) (hkind : m.kind = .interest) :
    (m.withKind .interestReturn).Tellable := by
  refine ⟨fun f v hv => ?_, fun zone => ?_⟩
  · have hv : f.Holds m.kind v := h.holds f v hv
    rw [hkind] at hv
    exact hv.returned
  · cases zone with
    | hop => exact h.extras .hop
    | body => exact h.extras .body
    | suite => exact h.extras .suite

/-- A message that a packet can tell has the shape that is asked of messages, if its key name points
to something and there are no restrictions without one. -/
theorem shaped (h : m.Tellable)
    (hname : m.fields .keyName = none →
      ∀ f ∈ [Field.keyNameKeyId, .keyNameContentHash], m.fields f = none)
    (hlink : ∀ link, m.keyLink? = some link → link.isEmpty = false) : m.Shaped := by
  have hbyte : ∀ v : Value, (∃ n : UInt8, v = .int n.toUInt64) →
      ∃ n : UInt64, n.toNat ≤ 255 ∧ v = .int n := by
    rintro v ⟨n, rfl⟩
    exact ⟨_, Layout.toNat_byte_le n, rfl⟩
  constructor
  · intro zone slot hs
    refine ⟨fun v hv => (h.holds _ v hv).shapes hs rfl, fun hform f hf v hv => ⟨?_, ?_⟩,
      fun _ => hlink⟩
    · rw [proper_of_mem hs hform, contains, Option.isSome_iff_ne_none]
      intro hnone
      rw [hname hnone f hf] at hv
      cases hv
    · have hv := h.holds f v hv
      simp only [List.mem_cons, List.not_mem_nil, or_false] at hf
      rcases hf with rfl | rfl <;> exact hv
  · intro v hv
    obtain ⟨hkind, hn⟩ := h.holds _ v hv
    exact ⟨hkind, hbyte v hn⟩
  · intro v hv
    obtain ⟨hkind, hn⟩ := h.holds _ v hv
    exact ⟨hkind, hbyte v hn⟩
  · intro v hv
    obtain ⟨suite, rfl⟩ := h.holds _ v hv
    exact ⟨_, Packet.toNat_toUInt64_le suite, rfl⟩
  · intro v hv
    exact h.holds _ v hv
  · intro f hout hf
    refine Option.eq_none_iff_forall_ne_some.mpr fun v hv => ?_
    rcases (h.holds f v hv).mem_fields with hmem | ⟨zone, slot, hs, hmem⟩
    · exact hout hmem
    · exact hf zone slot hs hmem
  · intro zone t ht
    rw [h.extras zone] at ht
    cases ht

theorem shaped_of_unsigned (h : m.Tellable) (hm : m.Unsigned) : m.Shaped := by
  refine h.shaped (fun _ f hf => hm f ?_) fun link hlink => ?_
  · have hsub : [Field.keyNameKeyId, .keyNameContentHash] ⊆ validationFields := by decide
    exact hsub hf
  · rw [keyLink?, name?, hm .keyName (by simp [validationFields])] at hlink
    cases hlink

/-- Where no suite is told the message says nothing about a signer. -/
theorem settled (h : m.Tellable) (hm : m.fields .cryptoSuite = none → m.Unsigned) : m.Settled := by
  intro hnone
  have hunsigned := hm hnone
  exact ⟨elements_eq_nil hunsigned.fresh (h.extras .suite), hunsigned .signature (by decide)⟩

theorem wellFormed (h : m.Tellable) (hm : m.Unsigned) (signer : Option Signer) :
    m.WellFormed signer :=
  ⟨h.shaped_of_unsigned hm, fun _ _ => ⟨hm.fresh, h.extras .suite⟩⟩

end Tellable

/-- A message has what the fixed header of its packet has a place for. -/
structure Headed (m : Message) : Prop where
  hopLimit : m.kind.isRequest = true → m.contains .hopLimit = true
  returnCode : m.kind = .interestReturn → m.contains .returnCode = true

theorem headed_of_not_request (h : m.kind.isRequest = false) : m.Headed := by
  constructor
  · intro hrequest
    rw [h] at hrequest
    cases hrequest
  · intro hkind
    rw [hkind] at h
    cases h

/-- Such a message comes back with another header and nothing else. -/
theorem Headed.frame_received (h : m.Headed) (packet : Bytes) :
    Frame [.fixedHeader] m (m.received packet) := by
  have hframe := m.frame_received packet
  -- The header fills in only what the message does not have.
  have hor : ∀ f : Field, m.contains f = true → (m.fields f).or (some (.int 0)) = m.fields f := by
    intro f hf
    obtain ⟨v, hv⟩ := Option.isSome_iff_exists.mp hf
    rw [hv, Option.some_or]
  refine ⟨hframe.kind, fun f hf => ?_, hframe.extras⟩
  by_cases hlimit : f = .hopLimit
  · subst hlimit
    show (if m.kind.isRequest then (m.fields .hopLimit).or (some (.int 0))
      else m.fields .hopLimit) = _
    split
    · next hkind => exact hor _ (h.hopLimit hkind)
    · rfl
  · by_cases hreturn : f = .returnCode
    · subst hreturn
      show (if m.kind = .interestReturn then (m.fields .returnCode).or (some (.int 0))
        else m.fields .returnCode) = _
      split
      · next hkind => exact hor _ (h.returnCode hkind)
      · rfl
    · exact hframe.fields f (by simp_all)

end Message

/-! ## Packets without a signer -/

/-- Without a signer nothing is derived. -/
theorem Derived.eq_of_unsigned {m r : Message} {now : UInt64} (h : Derived m none now r) :
    r = m := by
  refine Message.eq_of h.frame.kind (fun f => ?_) h.frame.extras
  by_cases hf : f ∈ Validation.derivedFields
  · simp only [Validation.derivedFields, List.mem_cons, List.not_mem_nil, or_false] at hf
    rcases hf with rfl | rfl | rfl | rfl
    · exact h.cryptoSuite.resolve_right nofun
    · exact h.keyId.resolve_right nofun
    · exact h.signatureTime.resolve_right nofun
    · exact h.signature.resolve_right nofun
  · exact h.frame.fields f hf

namespace Packet

open Layout

variable {m r : Message} {config : Config} {now : UInt64} {e : Encoded}

/-- What is written without a signer is read back as any message of the right shape that the same
packet is written for. -/
theorem decode_unsigned (hok : encode m none config now = .ok e)
    (hlayout : ofMessage r = ofMessage m) (hr : r.Shaped) (hsettled : r.Settled)
    (hbody : m.Writable .body → r.Writable .body) :
    ∃ d, decode e.wire.toBytes = .ok d ∧ d.message = r.received e.wire.toBytes := by
  obtain ⟨hresult, hrecorded, -⟩ := parts_of_encode hok
  have hderived := derived_of_result hresult
  rw [hrecorded] at hderived
  have hmessage : e.message = m := hderived.eq_of_unsigned
  obtain ⟨hspells, -, hwritable, hheaders, hpacket⟩ := spells_of_encode hok
  rw [hmessage] at hspells hwritable hheaders hpacket
  -- From here on the packet is that of `r`, which need not be the message that was written.
  rw [← hlayout] at hspells hheaders hpacket
  have hvalid := valid_ofMessage hr hsettled (hbody hwritable) hheaders hpacket
  have hread := decode_toBytes_append hvalid []
  have hcarries := carries_received hr hsettled hpacket
  rw [List.append_nil, ← hspells.wire] at hread
  rw [← hspells.wire] at hcarries
  exact ⟨_, hread, (carries_message _).eq hcarries⟩

end Packet

/-- The packet of a message is read, and seen through a view what was read has a property. -/
def WireMessage.ReadsBack {α : Type} (w : WireMessage) (view : Message → Except MessageError α)
    (p : α → Prop) : Prop :=
  ∃ form d a, w.form = some form ∧ Packet.decode form.toBytes = .ok d ∧ view d.message = .ok a ∧ p a

namespace Message

variable {m r : Message} {now : UInt64} {w : WireMessage}

/-- What was written without a signer is read back as what the packet tells, with another header. -/
theorem exists_decoded (hok : m.toWire none now = .ok w)
    (hlayout : Layout.ofMessage r = Layout.ofMessage m) (hr : r.Shaped) (hsettled : r.Settled)
    (hbody : m.Writable .body → r.Writable .body) (hheaded : r.Headed) :
    ∃ form d, w.form = some form ∧ Packet.decode form.toBytes = .ok d ∧
      Frame [.fixedHeader] r d.message := by
  obtain ⟨e, he, rfl⟩ : ∃ e, Packet.encode m none {} now = .ok e ∧ WireMessage.ofEncoded e = w := by
    unfold toWire at hok
    cases he : Packet.encode m none {} now with
    | error fault =>
      rw [WireMessage.encode, WireMessage.create, he] at hok
      cases hok
    | ok e =>
      rw [WireMessage.encode_eq_ofEncoded (w := WireMessage.create m) he] at hok
      exact ⟨e, rfl, Except.ok.inj hok⟩
  obtain ⟨d, hd, hmessage⟩ := Packet.decode_unsigned he hlayout hr hsettled hbody
  refine ⟨_, d, rfl, hd, ?_⟩
  rw [hmessage]
  exact hheaded.frame_received _

theorem exists_decoded_of_unsigned (hok : m.toWire none now = .ok w) (hm : m.Tellable)
    (hunsigned : m.Unsigned) (hheaded : m.Headed) :
    ∃ form d, w.form = some form ∧ Packet.decode form.toBytes = .ok d ∧
      Frame [.fixedHeader] m d.message :=
  exists_decoded hok rfl (hm.shaped_of_unsigned hunsigned) (hm.settled fun _ => hunsigned) id
    hheaded

end Message

end NamedContent
