import NamedContent.Proofs.Decoding
import NamedContent.Proofs.Encoding

/-!
# What a packet shows of a message

What becomes of a field of the headers or of the message depends on the form of its slot
(`Form.fate`). Its value stands in an element, or is refused, so that there is no packet; but a few
slots do neither with a value of the wrong kind, and then the packet does not show the field
(`Drops`).

* `elementsIn_toBytes`, `elements_of_encode`: what a reader finds in a zone of a packet.
* `Slot.emit_refused`, `emitSlots_of_fail`: the first slot that refuses its value decides the fault.
* `encode_shows`: what becomes of each field that holds a value.
* `encode_drops_fragment`: a packet that does not show a field.
-/

namespace NamedContent

/-! ## Fates of values -/

/-- What becomes of a value. -/
inductive Fate
  /-- It stands in an element, as these bytes. -/
  | written (b : Bytes)
  /-- It is left out of the packet. -/
  | dropped
  /-- There is no packet. -/
  | refused
deriving DecidableEq, Repr

namespace Form

/-- Whether a form leaves out a value of the wrong kind; the other forms refuse it. -/
def lenient : Form → Bool
  | .optional | .time | .name false | .link => true
  | .strict | .number | .lifetime | .octet | .name true | .payload _ => false

/-- What becomes of a value in a slot of this form, links aside. -/
def fate (form : Form) (v : Value) : Fate :=
  match form, v with
  | .octet, .int n => if n.toNat < 256 then .written (Bytes.ofNat 1 n.toNat) else .refused
  | form, v =>
    match form.written? v with
    | some b => .written b
    | none => if form.lenient then .dropped else .refused

variable {form : Form} {v : Value}

theorem written?_of_fate {b : Bytes} (h : form.fate v = .written b) : form.written? v = some b := by
  unfold fate at h
  split at h
  · split at h
    · cases h
      rfl
    · cases h
  · split at h
    · next heq =>
      cases h
      exact heq
    · split at h <;> cases h

theorem written?_of_dropped (h : form.fate v = .dropped) : form.written? v = none := by
  unfold fate at h
  split at h
  · split at h <;> cases h
  · split at h
    · cases h
    · next heq => exact heq

/-- Left out are values of the wrong kind, by three of the forms. -/
theorem fate_eq_dropped_iff (hlink : form ≠ .link) :
    form.fate v = .dropped ↔ form = .optional ∧ (∀ b, v ≠ .bytes b) ∨
      form = .time ∧ (∀ n, v ≠ .int n) ∨ form = .name false ∧ ∀ n, v ≠ .name n := by
  cases form with
  | optional => cases v <;> simp [fate, written?, lenient]
  | time => cases v <;> simp [fate, written?, lenient]
  | name required => cases required <;> cases v <;> simp [fate, written?, lenient]
  | octet =>
    cases v with
    | int n => simp only [fate]; split <;> simp
    | _ => simp [fate, written?, lenient]
  | link => exact absurd rfl hlink
  | _ => cases v <;> simp [fate, written?, lenient]

end Form

namespace Slot

variable {slot : Slot} {m : Message} {v : Value}

/-- The fault of a slot that refuses its value. -/
def fault (slot : Slot) : EncodeError :=
  match slot.form with
  | .name _ => .missingMandatoryField slot.field.label
  | _ => .unexpectedValue slot.field.label

theorem emit_refused (hv : m.fields slot.field = some v) (h : slot.form.fate v = .refused) :
    slot.emit m = Emit.fail slot.fault := by
  obtain ⟨field, type, form⟩ := slot
  have hv : m.fields field = some v := hv
  cases form with
  | optional | time | link => cases v <;> cases h
  | name required =>
    cases required with
    | false => cases v <;> cases h
    | true =>
      have hname : m.name? field = none := by
        rw [Message.name?, hv]
        cases v with
        | name n => cases h
        | _ => rfl
      simp only [emit, hname, if_true, fault]
  | strict =>
    cases v with
    | bytes b => cases h
    | _ => simp only [emit, hv, refuse, fault]
  | number | lifetime =>
    cases v with
    | int n => cases h
    | bytes b => cases h
    | _ => simp only [emit, hv, refuse, fault]
  | octet =>
    cases v with
    | int n =>
      have hn : ¬ n.toNat < 256 := fun hn => by simp [Form.fate, hn] at h
      simp only [emit, hv, if_neg hn, refuse, fault]
    | bytes b => cases h
    | _ => simp only [emit, hv, refuse, fault]
  | payload json =>
    cases v with
    | bytes b => cases h
    | json text => cases h
    | scatter s => cases h
    | _ => simp only [emit, hv, refuse, fault]

variable {kind : MessageKind} {zone : Zone}

theorem form_ne_link (hs : slot ∈ slots kind zone) (hzone : zone ≠ .suite) : slot.form ≠ .link := by
  have table : zone ≠ .suite → ∀ s ∈ slots kind zone, s.form ≠ .link := by
    cases kind <;> cases zone <;> decide
  exact table hzone slot hs

theorem element?_of_fate {b : Bytes} (hlink : slot.form ≠ .link)
    (hv : m.fields slot.field = some v) (h : slot.form.fate v = .written b) :
    slot.element? m = some ⟨slot.type, b⟩ := by
  rw [element?, content?, if_neg hlink, hv, Option.bind_some, Form.written?_of_fate h]
  rfl

theorem element?_of_dropped (hlink : slot.form ≠ .link) (hv : m.fields slot.field = some v)
    (h : slot.form.fate v = .dropped) : slot.element? m = none := by
  rw [element?, content?, if_neg hlink, hv, Option.bind_some, Form.written?_of_dropped h]
  rfl

end Slot

/-- The values that are neither written nor refused: fragments that are no bytes, a time that is no
number, and a name that is none where a message need not have one. -/
def Drops (kind : MessageKind) (field : Field) (v : Value) : Prop :=
  field ∈ [Field.interestFragment, .contentObjectFragment] ∧ (∀ b, v ≠ .bytes b) ∨
    field = .recommendedCacheTime ∧ (∀ n, v ≠ .int n) ∨
      kind = .control ∧ field = .name ∧ ∀ n, v ≠ .name n

theorem Slot.fate_eq_dropped_iff_drops {kind : MessageKind} {zone : Zone} {slot : Slot} {v : Value}
    (hs : slot ∈ slots kind zone) (hzone : zone ≠ .suite) :
    slot.form.fate v = .dropped ↔ Drops kind slot.field v := by
  have table : zone ≠ .suite → ∀ s ∈ slots kind zone,
      (s.form = .optional ↔ s.field ∈ [Field.interestFragment, .contentObjectFragment]) ∧
        (s.form = .time ↔ s.field = .recommendedCacheTime) ∧
          (s.form = .name false ↔ kind = .control ∧ s.field = .name) := by
    cases kind <;> cases zone <;> decide
  obtain ⟨hoptional, htime, hname⟩ := table hzone slot hs
  rw [Form.fate_eq_dropped_iff (Slot.form_ne_link hs hzone), hoptional, htime, hname, and_assoc]
  rfl

/-! ## What a reader finds -/

namespace Packet

/-- The elements inside an element, if there is one. -/
def inside : Option Tlv → List Tlv
  | none => []
  | some t => (Tlv.scan t.value).1

/-- The elements in a zone of a packet whose headers end at `start`: in the headers, in the message,
or in the suite of the validation algorithm. -/
def elementsIn (b : Bytes) (start : Nat) : Zone → List Tlv
  | .hop => (Tlv.scan (Bytes.slice fixedHeaderLength start b)).1
  | .body => inside (Tlv.scan (b.drop start)).1[0]?
  | .suite => inside (inside (Tlv.scan (b.drop start)).1[1]?)[0]?

open Layout

/-- In the packet of a layout a reader finds the elements of the layout. -/
theorem elementsIn_toBytes {p : Layout} (hpacket : p.packetLength ≤ maxLength) (zone : Zone) :
    elementsIn p.toBytes p.headerLength zone = p.elements zone := by
  have hfits := fits_elements hpacket zone
  have hcontent := Tlv.scan_concat (fits_content hpacket)
  cases zone with
  | hop =>
    rw [elementsIn, slice_hop]
    exact congrArg Prod.fst (Tlv.scan_concat hfits)
  | body =>
    rw [elementsIn, drop_headers, content, hcontent]
    exact congrArg Prod.fst (Tlv.scan_concat hfits)
  | suite =>
    rw [elementsIn, drop_headers, content, hcontent]
    obtain ⟨kind, hopLimit, returnCode, flags, hop, body, validation⟩ := p
    cases validation with
    | none => rfl
    | some v =>
      have halgorithm : v.algorithm.Fits := fits_content hpacket _ (.tail _ (.head _))
      have hfits' := Tlv.fits_of_toBytes halgorithm
      have hsuite := Tlv.scan_concat (List.forall_mem_singleton.mpr hfits')
      rw [Tlv.concat_cons, Tlv.concat_nil, List.append_nil] at hsuite
      show inside (Tlv.scan v.algorithm.value).1[0]? = v.fields
      rw [Layout.Validation.algorithm, hsuite]
      exact congrArg Prod.fst (Tlv.scan_concat hfits)

variable {m : Message} {signer : Option Signer} {config : Config} {now : UInt64} {e : Encoded}
  {zone : Zone}

/-- In a zone that is written before the validation a reader finds the elements of the message. -/
theorem elements_of_encode (hok : encode m signer config now = .ok e) (hzone : zone ≠ .suite) :
    elementsIn e.wire.toBytes e.signed.start zone = m.elements zone := by
  obtain ⟨hspells, hr, -, -, hpacket⟩ := spells_of_encode hok
  have helements : e.message.elements zone = m.elements zone :=
    hr.frame.elements fun slot hs f hf => not_mem_derivedFields hs hf hzone
  rw [hspells.wire, hspells.signed, ← helements]
  show elementsIn _ (ofMessage e.message).headerLength zone = _
  rw [elementsIn_toBytes hpacket]
  cases zone with
  | hop => rfl
  | body => rfl
  | suite => exact absurd rfl hzone

/-! ## Faults -/

/-- What fails in a row of slots is the first that cannot be written. -/
theorem emitSlots_of_fail {slot : Slot} {fault : EncodeError} (h : slot.emit m = Emit.fail fault)
    (before after : List Slot) :
    ∃ fault', (emitSlots m (before ++ slot :: after)).result = .error fault' ∧
      ((∀ earlier ∈ before, ∃ n, (earlier.emit m).result = .ok n) → fault' = fault) := by
  induction before with
  | nil =>
    refine ⟨fault, ?_, fun _ => rfl⟩
    rw [List.nil_append, emitSlots, h]
    rfl
  | cons first before ih =>
    obtain ⟨fault', hrest, hfirst⟩ := ih
    rw [List.cons_append, emitSlots, Emit.result_bind]
    cases hresult : (first.emit m).result with
    | error e =>
      refine ⟨e, rfl, fun hall => ?_⟩
      obtain ⟨n, hn⟩ := hall first List.mem_cons_self
      rw [hresult] at hn
      cases hn
    | ok n =>
      refine ⟨fault', ?_, fun hall => hfirst fun s hs => hall s (List.mem_cons_of_mem first hs)⟩
      show ((emitSlots m (before ++ slot :: after)) >>= fun k => pure (n + k)).result = _
      rw [Emit.result_bind, hrest]
      rfl

/-- All that is written in front of a slot can be written. -/
def Reaches (m : Message) (zone : Zone) (before : List Slot) : Prop :=
  (zone = .body → ∃ n, (m.emitZone .hop).result = .ok n) ∧
    ∀ earlier ∈ before, ∃ n, (earlier.emit m).result = .ok n

/-- Nothing is written behind headers or a message that cannot be written. -/
theorem encode_of_front {fault : EncodeError}
    (h : ((m.emitZone .hop).result >>= fun _ => (emitMessage m).result) = .error fault) :
    encode m signer config now = .error fault := by
  have hparts : (Parts.ofMessage m signer config now).emit.result = .error fault := by
    rw [Parts.emit, Emit.result_bind]
    show (m.emitZone .hop).result >>= _ = _
    cases hhop : (m.emitZone .hop).result with
    | error e =>
      rw [hhop] at h
      cases h
      rfl
    | ok n =>
      rw [hhop] at h
      have hmessage : (emitMessage m).result = .error fault := h
      show (emitMessage m >>= _).result = _
      rw [Emit.result_bind, hmessage]
      rfl
  rw [encode]
  simp only [hparts]
  rfl

/-- A slot that fails in a zone before the validation makes the packet fail, and decides the fault
where it is reached. -/
theorem encode_of_fail {slot : Slot} {before after : List Slot} {fault : EncodeError}
    (hzone : zone ≠ .suite) (htable : slots m.kind zone = before ++ slot :: after)
    (h : slot.emit m = Emit.fail fault) (signer : Option Signer) (config : Config) (now : UInt64) :
    ∃ fault', encode m signer config now = .error fault' ∧
      (Reaches m zone before → fault' = fault) := by
  obtain ⟨fault', hslots, hfirst⟩ := emitSlots_of_fail h before after
  have hfail : (m.emitZone zone).result = .error fault' := by
    rw [Message.emitZone, htable, Emit.result_bind, hslots]
    rfl
  cases zone with
  | hop =>
    refine ⟨fault', encode_of_front ?_, fun hreaches => hfirst hreaches.2⟩
    rw [hfail]
    rfl
  | body =>
    have hmessage : (emitMessage m).result = .error fault' := by
      rw [emitMessage, Emit.container, hfail]
    -- The headers are written first, and may fail before the slot does.
    cases hhop : (m.emitZone .hop).result with
    | error e =>
      refine ⟨e, encode_of_front (by rw [hhop]; rfl), fun hreaches => ?_⟩
      obtain ⟨n, hn⟩ := hreaches.1 rfl
      rw [hhop] at hn
      cases hn
    | ok n =>
      refine ⟨fault', encode_of_front ?_, fun hreaches => hfirst hreaches.2⟩
      rw [hhop]
      exact hmessage
  | suite => exact absurd rfl hzone

/-! ## Fields of a packet -/

/-- In a packet that was written, each field of the headers and of the message that holds a value
has its element, in front of the elements without a slot, unless the value is dropped: then there is
no element, and nothing tells so. This happens to the values that `Drops` describes, and to no
others. A value that is refused makes the packet fail, for want of a name that must be there or for
a value of the wrong kind, unless something in front of it fails. -/
theorem encode_shows (hzone : zone ≠ .suite) {before after : List Slot} {slot : Slot}
    (htable : slots m.kind zone = before ++ slot :: after) {v : Value}
    (hv : m.fields slot.field = some v) (signer : Option Signer) (config : Config) (now : UInt64) :
    (slot.form.fate v = .dropped ↔ Drops m.kind slot.field v) ∧
      (∀ e, encode m signer config now = .ok e → ∃ known,
        elementsIn e.wire.toBytes e.signed.start zone = known ++ m.extras zone ∧
          ((∃ b, slot.form.fate v = .written b ∧ ⟨slot.type, b⟩ ∈ known) ∨
            slot.form.fate v = .dropped ∧ ∀ t ∈ known, t.type ≠ slot.type)) ∧
      (slot.form.fate v = .refused → ∃ fault, encode m signer config now = .error fault ∧
        (Reaches m zone before → fault = slot.fault)) := by
  have hs : slot ∈ slots m.kind zone := htable ▸ List.mem_append_right _ List.mem_cons_self
  have hlink := Slot.form_ne_link hs hzone
  refine ⟨Slot.fate_eq_dropped_iff_drops hs hzone,
    fun e hok => ⟨_, elements_of_encode hok hzone, ?_⟩, fun hrefused =>
      encode_of_fail hzone htable (Slot.emit_refused hv hrefused) signer config now⟩
  cases hfate : slot.form.fate v with
  | written b =>
    exact .inl ⟨b, rfl, List.mem_filterMap.mpr ⟨slot, hs, Slot.element?_of_fate hlink hv hfate⟩⟩
  | dropped =>
    refine .inr ⟨rfl, fun t ht htype => ?_⟩
    obtain ⟨other, hother, helement⟩ := List.mem_filterMap.mp ht
    -- An element of this type would be that of the slot, which has none.
    obtain rfl : other = slot :=
      eq_of_type hother hs ((Slot.type_of_element? helement).1.symm.trans htype)
    rw [Slot.element?_of_dropped hlink hv hfate] at helement
    cases helement
  | refused =>
    obtain ⟨fault, hfault, -⟩ :=
      encode_of_fail hzone htable (Slot.emit_refused hv hfate) signer config now
    rw [hok] at hfault
    cases hfault

/-! A request with a fragment that is no bytes, first with a lifetime, then with a restriction that
is no bytes either. -/

namespace Sample

/-- A request for `/a` whose fragment is a number. -/
def fragmented : Message :=
  ((Message.empty .interest).set .name (.name ⟨[Segment.ofType .name [0x61]]⟩)).set
    .interestFragment (.int 1)

/-- The request with a lifetime. -/
def lasting : Message := fragmented.set .interestLifetime (.int 4000)

/-- The request with a restriction that is a number. -/
def restricted : Message := fragmented.set .keyIdRestriction (.int 1)

end Sample

theorem encode_shows_sample :
    (∃ e known, encode Sample.lasting none {} 7 = .ok e ∧
      elementsIn e.wire.toBytes e.signed.start .hop = known ∧ ⟨0x0001, [0x0F, 0xA0]⟩ ∈ known ∧
        ∀ t ∈ known, t.type ≠ 0x0003) ∧
      encode Sample.restricted none {} 7 = .error (.unexpectedValue "KeyIdRestriction") := by
  constructor
  · obtain ⟨e, hok⟩ : ∃ e, encode Sample.lasting none {} 7 = .ok e := ⟨_, rfl⟩
    have hzone : Zone.hop ≠ .suite := nofun
    have hfragment : slots Sample.lasting.kind .hop =
        [] ++ ⟨.interestFragment, 0x0003, .optional⟩ ::
          [⟨.interestLifetime, 0x0001, .lifetime⟩] := rfl
    have hlifetime : slots Sample.lasting.kind .hop =
        [⟨.interestFragment, 0x0003, .optional⟩] ++
          ⟨.interestLifetime, 0x0001, .lifetime⟩ :: [] := rfl
    obtain ⟨-, hshown, -⟩ := encode_shows hzone hlifetime (v := .int 4000) rfl none {} 7
    obtain ⟨-, hshown', -⟩ := encode_shows hzone hfragment (v := .int 1) rfl none {} 7
    obtain ⟨known, hknown, hfate⟩ := hshown e hok
    obtain ⟨known', hknown', hfate'⟩ := hshown' e hok
    obtain rfl : known' = known := List.append_cancel_right (hknown'.symm.trans hknown)
    refine ⟨e, known', hok, hknown.trans (List.append_nil known'), ?_, ?_⟩
    · rcases hfate with ⟨b, hb, hmem⟩ | ⟨hdropped, -⟩
      · cases hb
        exact hmem
      · cases hdropped
    · rcases hfate' with ⟨b, hb, -⟩ | ⟨-, hnone⟩
      · cases hb
      · exact hnone
  · have hzone : Zone.body ≠ .suite := nofun
    have htable : slots Sample.restricted.kind .body = [⟨.name, 0x0000, .name true⟩] ++
        ⟨.keyIdRestriction, 0x0002, .strict⟩ :: [⟨.contentHashRestriction, 0x0003, .strict⟩,
          ⟨.payload, 0x0001, .payload false⟩] := rfl
    obtain ⟨-, -, hrefused⟩ := encode_shows hzone htable (v := .int 1) rfl none {} 7
    obtain ⟨fault, hfault, hfirst⟩ := hrefused rfl
    obtain rfl := hfirst ⟨fun _ => ⟨_, rfl⟩, List.forall_mem_singleton.mpr ⟨_, rfl⟩⟩
    exact hfault

/-- A fragment that is a number is dropped: there is a packet, and no header in it. -/
theorem encode_drops_fragment :
    Sample.fragmented.fields .interestFragment = some (.int 1) ∧
      ∃ e, encode Sample.fragmented none {} 7 = .ok e ∧
        elementsIn e.wire.toBytes e.signed.start .hop = [] := by
  obtain ⟨e, hok⟩ : ∃ e, encode Sample.fragmented none {} 7 = .ok e := ⟨_, rfl⟩
  have hzone : Zone.hop ≠ .suite := nofun
  refine ⟨rfl, e, hok, ?_⟩
  rw [elements_of_encode hok hzone]
  rfl

end Packet

end NamedContent
