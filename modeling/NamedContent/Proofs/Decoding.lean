import NamedContent.Proofs.Layout

/-!
# What is read from a packet

`Packet.decode` accepts a byte string exactly when a packet stands at its front, and yields the
message that the packet stands for (`decode_eq_ok_iff`). The proof goes through the parts of a
packet in both directions: what each step makes of the written form of its part, and of which part
the bytes are the written form when the step succeeds.
-/

namespace NamedContent

theorem MessageKind.ofPacketType?_eq_some_iff {code : UInt8} {kind : MessageKind} :
    ofPacketType? code = some kind ↔ kind.packetType = code := by
  constructor
  · intro h
    simpa using List.find?_some h
  · rintro rfl
    cases kind <;> rfl

/-! ## Fixed headers -/

namespace Header

theorem fault?_eq_none_iff {h : Header} :
    h.fault? = none ↔ h.version = schemaVersion ∧ fixedHeaderLength ≤ h.headerLength.toNat ∧
      h.headerLength.toNat ≤ h.packetLength.toNat := by
  unfold fault?
  by_cases hversion : h.version = schemaVersion
  · simp only [hversion, ne_eq, not_true_eq_false, if_false, true_and]
    split
    · simp; omega
    · split
      · simp; omega
      · split
        · simp; omega
        · simp; omega
  · simp [hversion]

/-- The header that stands at the front of a byte string is read when it breaks no rule. -/
theorem parse_eq_ok_iff {b : Bytes} {h : Header} :
    parse b = .ok h ↔ h.fault? = none ∧ ∃ rest, b = h.toBytes ++ rest := by
  constructor
  · intro hparse
    unfold parse at hparse
    split at hparse
    · next version packetType l1 l0 hopLimit returnCode flags headerLength rest =>
      simp only at hparse
      split at hparse
      · cases hparse
      · next hnone =>
        cases hparse
        refine ⟨hnone, rest, ?_⟩
        have hlen : Bytes.ofNat 2 (UInt16.ofNat (Bytes.toNat [l1, l0])).toNat = [l1, l0] := by
          apply Tlv.ofNat_two_eq
          rw [UInt16.toNat_ofNat', Nat.mod_eq_of_lt (Tlv.toNat_two_lt l1 l0)]
        rw [toBytes, hlen]
        rfl
    · cases hparse
  · rintro ⟨hnone, rest, rfl⟩
    obtain ⟨l1, l0, hl, hn⟩ := Tlv.exists_ofNat_two h.packetLength.toNat_lt
    rw [toBytes, hl]
    simp only [List.cons_append, List.nil_append, parse, hn, UInt16.ofNat_toNat, hnone]

theorem kind_eq_ok_iff {h : Header} {kind : MessageKind} :
    h.kind = .ok kind ↔ kind.packetType = h.packetType := by
  rw [← MessageKind.ofPacketType?_eq_some_iff, Header.kind]
  cases MessageKind.ofPacketType? h.packetType <;> simp

theorem kind_store (h : Header) (m : Message) : (h.store m).kind = m.kind := by
  unfold store
  cases hkind : m.kind <;> simp [Message.set, hkind]

theorem extras_store (h : Header) (m : Message) (z : Zone) : (h.store m).extras z = m.extras z := by
  unfold store
  cases m.kind <;> cases z <;> rfl

/-- What a header tells a message that holds nothing yet. -/
theorem fields_store (h : Header) (kind : MessageKind) (f : Field) :
    (h.store (.empty kind)).fields f =
      match f with
      | .fixedHeader => some (.bytes h.toBytes)
      | .hopLimit => if kind.isRequest then some (.int h.hopLimit.toUInt64) else none
      | .returnCode => if kind = .interestReturn then some (.int h.returnCode.toUInt64) else none
      | _ => none := by
  cases kind <;> cases f <;> rfl

end Header

/-! ## Zones of which nothing was read -/

section Fresh

variable {zone zone' : Zone} {m : Message} {f : Field}

theorem Message.Fresh.setIfSome (h : m.Fresh zone) (hf : f ∈ outerFields) (v : Option Value) :
    (m.setIfSome f v).Fresh zone := by
  intro slot hs g hg
  rw [kind_setIfSome] at hs
  rw [fields_setIfSome, if_neg, h slot hs g hg]
  rintro rfl
  exact not_mem_outerFields hs hg hf

theorem Message.Fresh.withZone (h : m.Fresh zone) (hne : zone' ≠ zone) (ts : List Tlv) :
    (m.withZone zone' ts).Fresh zone := by
  intro slot hs g hg
  rw [kind_withZone] at hs
  rw [fields_withZone, h slot hs g hg]
  exact fun _ hs' hg' => hne (zone_eq_of_field hs' hs hg' hg)

theorem Message.fresh_store (h : Header) (kind : MessageKind) (zone : Zone) :
    (h.store (.empty kind)).Fresh zone := by
  intro slot hs f hf
  rw [Header.kind_store] at hs
  have hout := not_mem_outerFields hs hf
  rw [Header.fields_store]
  cases f <;> first | rfl | exact absurd (by decide) hout

end Fresh

/-! ## The message of a packet -/

namespace Layout

/-- A message with what a validation tells. -/
def validated (m : Message) (v : Option Validation) : Message :=
  ((m.setIfSome .cryptoSuite (suiteValue? v)).withZone .suite (suiteElements v)).setIfSome
    .signature (signatureValue? v)

/-- A message with what all parts of a packet tell. -/
def completed (p : Layout) (m : Message) : Message :=
  validated ((m.withZone .hop p.hop).withZone .body p.body) p.validation

/-- The message that a packet stands for, as it is put together. -/
def message (p : Layout) : Message := p.completed (p.header.store (.empty p.kind))

theorem kind_validated (m : Message) (v : Option Validation) : (validated m v).kind = m.kind := by
  simp only [validated, Message.kind_setIfSome, Message.kind_withZone]

/-- Without a validation nothing is recorded. -/
theorem validated_none {m : Message} (h : m.Fresh .suite) : validated m none = m :=
  Message.withZone_nil h

theorem fields_validated {m : Message} {v : Option Validation} {f : Field}
    (hf : ∀ slot ∈ slots m.kind .suite, f ∉ slot.fields) :
    (validated m v).fields f =
      if f = .signature then (signatureValue? v).or (m.fields f)
      else if f = .cryptoSuite then (suiteValue? v).or (m.fields f) else m.fields f := by
  have hkind : (m.setIfSome .cryptoSuite (suiteValue? v)).kind = m.kind := Message.kind_setIfSome ..
  rw [validated, Message.fields_setIfSome, Message.fields_withZone (hkind ▸ hf),
    Message.fields_setIfSome]
  split
  · next h => rw [h]; rfl
  · rfl

section Completed

variable (p : Layout) {m : Message} {zone : Zone} {slot : Slot} {f : Field}

theorem kind_completed : (p.completed m).kind = m.kind := by
  simp only [completed, kind_validated, Message.kind_withZone]

theorem kind_body : ((m.withZone .hop p.hop).withZone .body p.body).kind = m.kind := by
  simp only [Message.kind_withZone]

theorem fields_completed (hf : ∀ zone, ∀ slot ∈ slots m.kind zone, f ∉ slot.fields) :
    (p.completed m).fields f =
      if f = .signature then (signatureValue? p.validation).or (m.fields f)
      else if f = .cryptoSuite then (suiteValue? p.validation).or (m.fields f)
      else m.fields f := by
  rw [completed, fields_validated (kind_body p ▸ hf .suite),
    Message.fields_withZone (Message.kind_withZone m _ _ ▸ hf .body),
    Message.fields_withZone (hf .hop)]

theorem reads_completed (hs : slot ∈ slots m.kind zone) :
    slot.Reads (Tlv.valueOf? (p.elements zone) slot.type) (p.completed m) := by
  intro f hf
  have hout := not_mem_outerFields hs hf
  have hsignature : f ≠ .signature := by rintro rfl; exact hout (by decide)
  have hcrypto : f ≠ .cryptoSuite := by rintro rfl; exact hout (by decide)
  -- No other zone has a slot for the field.
  have hother : ∀ zone', zone' ≠ zone → ∀ slot' ∈ slots m.kind zone', f ∉ slot'.fields :=
    fun zone' hne slot' hs' hf' => hne (zone_eq_of_field hs' hs hf' hf)
  cases zone with
  | hop =>
    rw [completed, fields_validated (kind_body p ▸ hother .suite nofun), if_neg hsignature,
      if_neg hcrypto,
      Message.fields_withZone (Message.kind_withZone m _ _ ▸ hother .body nofun)]
    exact Message.reads_withZone hs f hf
  | body =>
    rw [completed, fields_validated (kind_body p ▸ hother .suite nofun), if_neg hsignature,
      if_neg hcrypto]
    exact Message.reads_withZone (Message.kind_withZone m _ _ ▸ hs) f hf
  | suite =>
    rw [completed, validated, Message.fields_setIfSome, if_neg hsignature]
    refine Message.reads_withZone ?_ f hf
    rwa [Message.kind_setIfSome, kind_body]

theorem extras_completed : (p.completed m).extras zone =
    m.extras zone ++ zone.unknown m.kind (p.elements zone) := by
  rw [completed, validated, Message.extras_setIfSome, Message.extras_withZone,
    Message.extras_setIfSome, Message.kind_setIfSome, Message.extras_withZone,
    Message.extras_withZone, kind_body, Message.kind_withZone]
  cases zone <;> simp [elements]

end Completed

/-- A packet stands for its message. -/
theorem carries_message (p : Layout) : p.Carries p.message := by
  have hkind : (p.header.store (.empty p.kind)).kind = p.kind := Header.kind_store ..
  constructor
  · exact (kind_completed p).trans hkind
  · intro zone slot hs
    refine reads_completed p ?_
    rwa [hkind]
  · intro f hf
    rw [message, fields_completed p (by rwa [hkind])]
    cases f <;> simp [outer, Header.fields_store] <;> rfl
  · intro zone
    rw [message, extras_completed, hkind, Header.extras_store]
    cases zone <;> rfl

end Layout

/-! ## Parts -/

namespace Part

variable {m m' : Message} {b : Bytes}

/-- Every kind of message has a slot for the name. -/
theorem exists_nameSlot (kind : MessageKind) :
    ∃ required, ⟨.name, 0x0000, .name required⟩ ∈ slots kind .body := by
  cases kind
  · exact ⟨true, by decide⟩
  · exact ⟨true, by decide⟩
  · exact ⟨true, by decide⟩
  · exact ⟨false, by decide⟩

theorem lacksName_withZone {ts : List Tlv} : lacksName (m.withZone .body ts) = false ↔
    (m.kind ≠ .control → ∃ t ∈ ts, t.type = 0x0000) := by
  obtain ⟨required, hs⟩ := exists_nameSlot m.kind
  have hreads : Slot.Reads _ (Tlv.valueOf? ts 0x0000) (m.withZone .body ts) :=
    Message.reads_withZone hs
  have hfield := hreads.field
  have hcontains : (m.withZone .body ts).contains .name = true ↔ ∃ t ∈ ts, t.type = 0x0000 := by
    show ((m.withZone .body ts).fields .name).isSome = true ↔ _
    rw [hfield, Option.isSome_map, Option.isSome_iff_ne_none, Ne, Tlv.valueOf?_eq_none_iff]
    simp
  rw [← hcontains, lacksName, Message.kind_withZone]
  cases (m.withZone .body ts).contains .name <;> simp

theorem result_ofBody_eq_ok_iff (h : m.Fresh .body) :
    (ofBody m b).result = .ok m' ↔ ∃ ts, (∀ t ∈ ts, t.Fits) ∧ b = Tlv.concat ts ∧
      Zone.Accepts m.kind .body ts ∧ (m.kind ≠ .control → ∃ t ∈ ts, t.type = 0x0000) ∧
        m' = m.withZone .body ts := by
  have hnamed : (ofBody m b).result = .ok m' ↔
      (ofZone .body m b).result = .ok m' ∧ lacksName m' = false := by
    unfold ofBody
    obtain ⟨read, position, fault, broken⟩ := ofZone .body m b
    cases fault with
    | some e => simp [result]
    | none =>
      cases hlacks : lacksName read with
      | true => simp [result, hlacks]; rintro rfl; exact hlacks
      | false => simp [result, hlacks]; rintro rfl; exact hlacks
  rw [hnamed, result_ofZone_eq_ok_iff h]
  constructor
  · rintro ⟨⟨ts, hfits, hb, haccepts, rfl⟩, hlacks⟩
    exact ⟨ts, hfits, hb, haccepts, lacksName_withZone.mp hlacks, rfl⟩
  · rintro ⟨ts, hfits, hb, haccepts, hname, rfl⟩
    exact ⟨⟨ts, hfits, hb, haccepts, rfl⟩, lacksName_withZone.mpr hname⟩

/-- A validation algorithm is one suite with acceptable elements, and nothing behind it. -/
theorem result_ofAlgorithm_eq_ok_iff (h : m.Fresh .suite) (hnone : m.fields .cryptoSuite = none) :
    (ofAlgorithm m b).result = .ok m' ↔ ∃ suite ts, Tlv.Fits ⟨suite, Tlv.concat ts⟩ ∧
      b = Tlv.toBytes ⟨suite, Tlv.concat ts⟩ ∧ Zone.Accepts m.kind .suite ts ∧
        m' = (m.setIfSome .cryptoSuite (some (.int suite.toUInt64))).withZone .suite ts := by
  have hcontains : m.contains .cryptoSuite = false := by simp [Message.contains, hnone]
  have hread : ∀ suite : Tlv,
      (Tlv.read (Message.take .suite) (m.set .cryptoSuite (.int suite.type.toUInt64))
        suite.value).result id = .ok m' ↔ _ := fun suite =>
    Message.result_read_take_eq_ok_iff (h.setIfSome (by decide) (some (.int suite.type.toUInt64)))
  unfold ofAlgorithm
  constructor
  · intro hok
    split at hok
    · cases hok
    · next suite behind hnext =>
      obtain ⟨hfits, rfl⟩ := Tlv.next_eq_ok_iff.mp hnext
      rw [hcontains] at hok
      simp only [Bool.false_eq_true, if_false, ofSuite] at hok
      split at hok
      · cases hok
      · next r hr =>
        split at hok
        · next hbehind =>
          cases hok
          obtain ⟨ts, -, hvalue, haccepts, rfl⟩ := (hread suite).mp hr
          obtain ⟨type, value⟩ := suite
          obtain rfl : value = Tlv.concat ts := hvalue
          rw [List.isEmpty_iff.mp hbehind, List.append_nil]
          exact ⟨type, ts, hfits, rfl, haccepts, rfl⟩
        · cases hok
  · rintro ⟨suite, ts, hfits, rfl, haccepts, rfl⟩
    have hnext : Tlv.next (Tlv.toBytes ⟨suite, Tlv.concat ts⟩) = .ok (⟨suite, Tlv.concat ts⟩, []) :=
      Tlv.next_eq_ok_iff.mpr ⟨hfits, (List.append_nil _).symm⟩
    have hr := (hread ⟨suite, Tlv.concat ts⟩).mpr ⟨ts, Tlv.fits_of_mem hfits, rfl, haccepts, rfl⟩
    rw [hnext]
    simp only [hcontains, Bool.false_eq_true, if_false, ofSuite, hr, List.isEmpty_nil, if_true]
    rfl

theorem takeSignature_eq_ok_iff (hnone : m.fields .signature = none) :
    takeSignature m b = .ok m' ↔ m' = m.setIfSome .signature (some (.bytes b)) := by
  unfold takeSignature Message.put
  rw [hnone]
  constructor
  · intro h; cases h; rfl
  · rintro rfl; rfl

end Part

/-! ## Packets -/

namespace Packet

open Layout

variable {m m' : Message} {b rest : Bytes} {n : Nat}

theorem readMessage_eq_ok_iff (h : m.Fresh .body) :
    readMessage m b = .ok (m', rest, n) ↔ ∃ ts, Tlv.Fits ⟨m.kind.elementType, Tlv.concat ts⟩ ∧
      b = Tlv.toBytes ⟨m.kind.elementType, Tlv.concat ts⟩ ++ rest ∧ Zone.Accepts m.kind .body ts ∧
        (m.kind ≠ .control → ∃ t ∈ ts, t.type = 0x0000) ∧ m' = m.withZone .body ts ∧
          n = Tlv.size ⟨m.kind.elementType, Tlv.concat ts⟩ := by
  unfold readMessage
  constructor
  · intro hok
    split at hok
    · cases hok
    · obtain ⟨⟨⟨type, value⟩, behind⟩, hnext, hok⟩ := bind_eq_ok_iff.mp hok
      simp only at hok
      split at hok
      · cases hok
      · next htype =>
        obtain ⟨body, hbody, hok⟩ := bind_eq_ok_iff.mp hok
        cases hok
        obtain ⟨hfits, rfl⟩ := Tlv.next_eq_ok_iff.mp hnext
        obtain ⟨ts, -, rfl, haccepts, hname, rfl⟩ := (Part.result_ofBody_eq_ok_iff h).mp hbody
        obtain rfl : type = m.kind.elementType := not_not.mp htype
        exact ⟨ts, hfits, rfl, haccepts, hname, rfl, rfl⟩
  · rintro ⟨ts, hfits, rfl, haccepts, hname, rfl, rfl⟩
    have hbody := (Part.result_ofBody_eq_ok_iff h).mpr
      ⟨ts, Tlv.fits_of_mem hfits, rfl, haccepts, hname, rfl⟩
    have hne : (Tlv.toBytes ⟨m.kind.elementType, Tlv.concat ts⟩ ++ rest).isEmpty = false := by
      simp [Tlv.toBytes_ne_nil]
    rw [hne, Tlv.next_toBytes_append hfits]
    simp only [Bool.false_eq_true, if_false, bind, Except.bind, ne_eq, not_true_eq_false, hbody]
    rfl

/-- The last element of a packet may be a signature. -/
theorem readSignature_eq_ok_iff (hnone : m.fields .signature = none) :
    readSignature m b = .ok (m', []) ↔ ∃ signature : Option Bytes,
      (∀ t ∈ (signature.map (Tlv.mk Part.signatureType)).toList, t.Fits) ∧
        b = Tlv.concat (signature.map (Tlv.mk Part.signatureType)).toList ∧
          m' = m.setIfSome .signature (signature.map .bytes) := by
  unfold readSignature
  constructor
  · intro hok
    split at hok
    · next htype =>
      obtain ⟨⟨⟨type, value⟩, behind⟩, hnext, hok⟩ := bind_eq_ok_iff.mp hok
      obtain ⟨taken, htaken, hok⟩ := bind_eq_ok_iff.mp hok
      cases hok
      obtain ⟨hfits, rfl⟩ := Tlv.next_eq_ok_iff.mp hnext
      rw [Tlv.type?_toBytes_append] at htype
      obtain rfl : type = Part.signatureType := Option.some.inj htype
      exact ⟨some value, by simpa using hfits, by simp,
        (Part.takeSignature_eq_ok_iff hnone).mp htaken⟩
    · cases hok
      exact ⟨none, by simp, rfl, rfl⟩
  · rintro ⟨signature, hfits, rfl, rfl⟩
    cases signature with
    | none => rfl
    | some value =>
      have hfits : Tlv.Fits ⟨Part.signatureType, value⟩ := by simpa using hfits
      have hb : Tlv.concat ((some value).map (Tlv.mk Part.signatureType)).toList =
          Tlv.toBytes ⟨Part.signatureType, value⟩ ++ [] := by simp
      have htaken := (Part.takeSignature_eq_ok_iff hnone).mpr
        (rfl : m.setIfSome .signature (some (.bytes value)) = _)
      rw [hb, Tlv.type?_toBytes_append, if_pos rfl, Tlv.next_toBytes_append hfits]
      simp only [bind, Except.bind, htaken]
      rfl

/-- What follows the message is a validation, or nothing. -/
theorem readValidation_eq_ok_iff (h : m.Fresh .suite) (hsuite : m.fields .cryptoSuite = none)
    (hsignature : m.fields .signature = none) :
    readValidation m b = .ok (m', [], n) ↔ ∃ v, (∀ t ∈ validationElements v, t.Fits) ∧
      b = Tlv.concat (validationElements v) ∧ Zone.Accepts m.kind .suite (suiteElements v) ∧
        m' = validated m v ∧ n = algorithmSize v := by
  have hsigned : ∀ suite ts, ((m.setIfSome .cryptoSuite (some (.int suite))).withZone .suite
      ts).fields .signature = none := by
    intro suite ts
    rw [Message.fields_withZone (fun _ hs hf => not_mem_outerFields hs hf (by decide)),
      Message.fields_setIfSome, if_neg nofun, hsignature]
  unfold readValidation
  constructor
  · intro hok
    split at hok
    · next htype =>
      obtain ⟨⟨⟨type, value⟩, behind⟩, hnext, hok⟩ := bind_eq_ok_iff.mp hok
      obtain ⟨algorithm, halgorithm, hok⟩ := bind_eq_ok_iff.mp hok
      obtain ⟨⟨signed, left⟩, hsignature, hok⟩ := bind_eq_ok_iff.mp hok
      cases hok
      obtain ⟨hfits, rfl⟩ := Tlv.next_eq_ok_iff.mp hnext
      rw [Tlv.type?_toBytes_append] at htype
      obtain rfl : type = Part.algorithmType := Option.some.inj htype
      obtain ⟨suite, ts, -, rfl, haccepts, rfl⟩ :=
        (Part.result_ofAlgorithm_eq_ok_iff h hsuite).mp halgorithm
      obtain ⟨signature, hfits', rfl, rfl⟩ :=
        (readSignature_eq_ok_iff (hsigned suite.toUInt64 ts)).mp hsignature
      exact ⟨some ⟨suite, ts, signature⟩, List.forall_mem_cons.mpr ⟨hfits, hfits'⟩, rfl, haccepts,
        rfl, rfl⟩
    · cases hok
      exact ⟨none, nofun, rfl, ⟨Tlv.once_nil _, nofun⟩, (validated_none h).symm, rfl⟩
  · rintro ⟨v, hfits, rfl, haccepts, rfl, rfl⟩
    cases v with
    | none =>
      rw [validated_none h]
      rfl
    | some v =>
      obtain ⟨suite, ts, signature⟩ := v
      obtain ⟨hfits, hfits'⟩ := List.forall_mem_cons.mp hfits
      have halgorithm := (Part.result_ofAlgorithm_eq_ok_iff h hsuite).mpr
        ⟨suite, ts, Tlv.fits_of_toBytes hfits, rfl, haccepts, rfl⟩
      have hread := (readSignature_eq_ok_iff (hsigned suite.toUInt64 ts)).mpr
        ⟨signature, hfits', rfl, rfl⟩
      have htype : (Validation.mk suite ts signature).algorithm.type = Part.algorithmType := rfl
      rw [validationElements, Tlv.concat_cons, Tlv.type?_toBytes_append, htype, if_pos rfl,
        Tlv.next_toBytes_append hfits]
      simp only [bind, Except.bind, Layout.Validation.algorithm, halgorithm, hread]
      rfl

variable {h : Header} {p : Layout} {packet : Bytes} {d : Decoded}

theorem slice_hop (p : Layout) :
    Bytes.slice fixedHeaderLength p.headerLength p.toBytes = Tlv.concat p.hop := by
  have hlen : (p.header.toBytes ++ Tlv.concat p.hop).length = p.headerLength := by
    simp [headerLength]
  rw [Bytes.slice, toBytes, List.take_left' hlen, List.drop_left' (length_toBytes_header _)]

theorem drop_headers (p : Layout) : p.toBytes.drop p.headerLength = p.content := by
  rw [toBytes, List.drop_left' (by simp [headerLength])]

/-- Behind its header the packet of a valid layout is read part by part. -/
theorem decodeBehind_toBytes (hp : p.Valid) (hkind : m.kind = p.kind)
    (hfresh : ∀ zone, m.Fresh zone) (hsuite : m.fields .cryptoSuite = none)
    (hsignature : m.fields .signature = none) :
    decodeBehind p.header p.toBytes m = .ok
      { message := p.completed m
        packet := p.toBytes
        signed := p.signed
        hashed := p.hashed } := by
  obtain ⟨hmessageFits, hvalidationFits⟩ := List.forall_mem_cons.mp (fits_content hp.packet)
  have hbody : (m.withZone .hop p.hop).Fresh .body := (hfresh .body).withZone (by decide) p.hop
  have hsuiteFresh : ((m.withZone .hop p.hop).withZone .body p.body).Fresh .suite :=
    ((hfresh .suite).withZone (by decide) p.hop).withZone (by decide) p.body
  -- No zone has a slot for a field outside of the zones.
  have houter : ∀ {f}, f ∈ outerFields → ((m.withZone .hop p.hop).withZone .body p.body).fields f =
      m.fields f := by
    intro f hf
    rw [Message.fields_withZone fun _ hs hmem => not_mem_outerFields hs hmem hf,
      Message.fields_withZone fun _ hs hmem => not_mem_outerFields hs hmem hf]
  have hhop : (Part.ofHop m (Tlv.concat p.hop)).result = .ok (m.withZone .hop p.hop) := by
    refine (Part.result_ofZone_eq_ok_iff (hfresh .hop)).mpr
      ⟨p.hop, fits_hop hp.packet, rfl, ?_, rfl⟩
    rw [hkind]
    exact hp.accepts .hop
  have hmessage : readMessage (m.withZone .hop p.hop) p.content =
      .ok ((m.withZone .hop p.hop).withZone .body p.body,
        Tlv.concat (validationElements p.validation), p.messageElement.size) := by
    refine (readMessage_eq_ok_iff hbody).mpr ⟨p.body, ?_⟩
    rw [Message.kind_withZone, hkind]
    exact ⟨hmessageFits, rfl, hp.accepts .body, hp.named, rfl, rfl⟩
  have hvalidation : readValidation ((m.withZone .hop p.hop).withZone .body p.body)
      (Tlv.concat (validationElements p.validation)) =
        .ok (p.completed m, [], algorithmSize p.validation) := by
    refine (readValidation_eq_ok_iff hsuiteFresh ((houter (by decide)).trans hsuite)
      ((houter (by decide)).trans hsignature)).mpr
      ⟨p.validation, hvalidationFits, rfl, ?_, rfl, rfl⟩
    rw [kind_body, hkind]
    exact hp.accepts .suite
  have hlen : p.packetLength - p.headerLength = p.content.length := Nat.add_sub_cancel_left _ _
  simp only [decodeBehind, hp.bounded.toNat_headerLength, slice_hop, drop_headers, length_toBytes,
    hlen, bind, Except.bind, hhop, hmessage, hvalidation, List.isEmpty_nil, if_true]
  rfl

theorem eq_append_slice {head : Bytes} (rest : Bytes) {n : Nat} (h : head.length ≤ n) :
    head ++ rest = head ++ Bytes.slice head.length n (head ++ rest) ++ (head ++ rest).drop n := by
  -- All cuts are behind the front, and so are cuts of the rest.
  have htake : (head ++ rest).take n = head ++ rest.take (n - head.length) := by
    rw [List.take_append, List.take_of_length_le h]
  have hdrop : (head ++ rest).drop n = rest.drop (n - head.length) := by
    rw [List.drop_append, List.drop_of_length_le h, List.nil_append]
  rw [Bytes.slice, htake, List.drop_left, hdrop, List.append_assoc, List.take_append_drop]

/-- What is read behind a header is made of elements that the tables accept. -/
theorem exists_elements (hfresh : ∀ zone, m.Fresh zone) (hsuite : m.fields .cryptoSuite = none)
    (hsignature : m.fields .signature = none) (hok : decodeBehind h packet m = .ok d) :
    ∃ hop body v, Bytes.slice fixedHeaderLength h.headerLength.toNat packet = Tlv.concat hop ∧
      packet.drop h.headerLength.toNat = Layout.content
        ⟨m.kind, h.hopLimit, h.returnCode, h.flags, hop, body, v⟩ ∧
      Zone.Accepts m.kind .hop hop ∧ Zone.Accepts m.kind .body body ∧
        Zone.Accepts m.kind .suite (suiteElements v) ∧
          (m.kind ≠ .control → ∃ t ∈ body, t.type = 0x0000) := by
  unfold decodeBehind at hok
  obtain ⟨hopped, hhop, hok⟩ := bind_eq_ok_iff.mp hok
  obtain ⟨⟨read, behind, messageSize⟩, hmessage, hok⟩ := bind_eq_ok_iff.mp hok
  obtain ⟨⟨validated, left, algorithmSize⟩, hvalidation, hok⟩ := bind_eq_ok_iff.mp hok
  have hleft : left = [] := by
    simp only at hok
    split at hok
    · next hempty => exact List.isEmpty_iff.mp hempty
    · cases hok
  subst hleft
  -- Each part is read into a message to which the parts before it told nothing of its zone.
  obtain ⟨hop, -, hslice, hhopAccepts, rfl⟩ := (Part.result_ofZone_eq_ok_iff (hfresh .hop)).mp hhop
  have houter : ∀ {f} ts, f ∈ outerFields →
      ((m.withZone .hop hop).withZone .body ts).fields f = m.fields f := by
    intro f ts hf
    rw [Message.fields_withZone fun _ hs hmem => not_mem_outerFields hs hmem hf,
      Message.fields_withZone fun _ hs hmem => not_mem_outerFields hs hmem hf]
  obtain ⟨body, -, hdrop, hbodyAccepts, hnamed, rfl, -⟩ :=
    (readMessage_eq_ok_iff ((hfresh .body).withZone (by decide) hop)).mp hmessage
  obtain ⟨v, -, rfl, hsuiteAccepts, -, -⟩ :=
    (readValidation_eq_ok_iff (((hfresh .suite).withZone (by decide) hop).withZone (by decide) body)
      ((houter body (by decide)).trans hsuite) ((houter body (by decide)).trans hsignature)).mp
        hvalidation
  rw [Message.kind_withZone] at hdrop hbodyAccepts hnamed
  rw [Message.kind_withZone, Message.kind_withZone] at hsuiteAccepts
  exact ⟨hop, body, v, hslice, hdrop, hhopAccepts, hbodyAccepts, hsuiteAccepts, hnamed⟩

/-- A packet that is read behind its header is that of a valid layout. -/
theorem exists_layout (hfault : h.fault? = none) (hlen : packet.length = h.packetLength.toNat)
    (hfront : ∃ rest, packet = h.toBytes ++ rest) (hkind : m.kind.packetType = h.packetType)
    (hfresh : ∀ zone, m.Fresh zone) (hsuite : m.fields .cryptoSuite = none)
    (hsignature : m.fields .signature = none) (hok : decodeBehind h packet m = .ok d) :
    ∃ p : Layout, p.Valid ∧ p.header = h ∧ p.toBytes = packet := by
  obtain ⟨hversion, hge, hle⟩ := Header.fault?_eq_none_iff.mp hfault
  obtain ⟨hop, body, v, hslice, hdrop, hhopAccepts, hbodyAccepts, hsuiteAccepts, hnamed⟩ :=
    exists_elements hfresh hsuite hsignature hok
  let p : Layout := ⟨m.kind, h.hopLimit, h.returnCode, h.flags, hop, body, v⟩
  have hpacket : packet = h.toBytes ++ Tlv.concat hop ++ p.content := by
    obtain ⟨rest, hrest⟩ := hfront
    have hle : h.toBytes.length ≤ h.headerLength.toNat := by rwa [length_toBytes_header]
    have happ := eq_append_slice rest hle
    rw [← hrest, length_toBytes_header, hslice, hdrop] at happ
    exact happ
  -- The announced lengths are those of the parts, so that the header is that of the layout.
  have hheaders : p.headerLength = h.headerLength.toNat := by
    have hcut := congrArg List.length hslice
    rw [Bytes.slice, List.length_drop, List.length_take, hlen, Nat.min_eq_left hle] at hcut
    show fixedHeaderLength + (Tlv.concat hop).length = _
    omega
  have hlength : p.packetLength = h.packetLength.toNat := by
    rw [← hlen, hpacket, List.length_append, List.length_append, length_toBytes_header]
    rfl
  have hheader : p.header = h := by
    obtain ⟨version, packetType, packetLength, hopLimit, returnCode, flags, headerLength⟩ := h
    simp only [header, hheaders, hlength, UInt8.ofNat_toNat, UInt16.ofNat_toNat]
    rw [Header.mk.injEq]
    exact ⟨hversion.symm, hkind, rfl, rfl, rfl, rfl, rfl⟩
  refine ⟨p, ⟨?_, ?_, ?_, hnamed⟩, hheader, ?_⟩
  · have := h.headerLength.toNat_lt
    omega
  · have := h.packetLength.toNat_lt
    unfold maxLength
    omega
  · intro zone
    cases zone with
    | hop => exact hhopAccepts
    | body => exact hbodyAccepts
    | suite => exact hsuiteAccepts
  · rw [hpacket, ← hheader]
    rfl

/-! ## The decoder -/

theorem decodeAnnounced_eq_ok_iff :
    decodeAnnounced b = .ok d ↔ ∃ (h : Header) (packet behind : Bytes) (kind : MessageKind),
      Header.parse b = .ok h ∧ b = packet ++ behind ∧ packet.length = h.packetLength.toNat ∧
        h.kind = .ok kind ∧ decodeBehind h packet (h.store (.empty kind)) = .ok d := by
  unfold decodeAnnounced
  rw [bind_eq_ok_iff]
  constructor
  · rintro ⟨h, hparse, hok⟩
    split at hok
    · cases hok
    · next packet behind hsplit =>
      obtain ⟨kind, hkind, hok⟩ := bind_eq_ok_iff.mp hok
      obtain ⟨hb, hlen⟩ := Bytes.splitAt?_eq_some_iff.mp hsplit
      exact ⟨h, packet, behind, kind, hparse, hb, hlen, hkind, hok⟩
  · rintro ⟨h, packet, behind, kind, hparse, hb, hlen, hkind, hok⟩
    refine ⟨h, hparse, ?_⟩
    rw [Bytes.splitAt?_eq_some_iff.mpr ⟨hb, hlen⟩]
    exact bind_eq_ok_iff.mpr ⟨kind, hkind, hok⟩

/-- The look at the version comes to the same as the check of the header. -/
theorem decode_eq_ok_iff_announced : decode b = .ok d ↔ decodeAnnounced b = .ok d := by
  constructor
  · intro hok
    unfold decode at hok
    split at hok
    · cases hok
    · split at hok
      · exact hok
      · cases hok
  · intro hok
    obtain ⟨h, -, -, -, hparse, -⟩ := decodeAnnounced_eq_ok_iff.mp hok
    obtain ⟨hfault, rest, rfl⟩ := Header.parse_eq_ok_iff.mp hparse
    show (if h.version = schemaVersion then decodeAnnounced (h.toBytes ++ rest) else _) = _
    rw [if_pos (Header.fault?_eq_none_iff.mp hfault).1, hok]

/-- The header that stands at the front of a packet is read. -/
theorem parse_toBytes_append (hp : p.Bounded) (behind : Bytes) :
    Header.parse (p.toBytes ++ behind) = .ok p.header := by
  have hfault : p.header.fault? = none := by
    rw [Header.fault?_eq_none_iff, hp.toNat_headerLength, hp.toNat_packetLength]
    exact ⟨rfl, p.fixedHeaderLength_le, p.headerLength_le⟩
  refine Header.parse_eq_ok_iff.mpr ⟨hfault, Tlv.concat p.hop ++ p.content ++ behind, ?_⟩
  rw [toBytes, List.append_assoc, List.append_assoc, List.append_assoc]

theorem parse_toBytes (hp : p.Bounded) : Header.parse p.toBytes = .ok p.header := by
  have hparse := parse_toBytes_append hp []
  rwa [List.append_nil] at hparse

/-- What is read from the packet of a valid layout, whatever stands behind it. -/
theorem decode_toBytes_append (hp : p.Valid) (behind : Bytes) :
    decode (p.toBytes ++ behind) = .ok
      { message := p.message, packet := p.toBytes, signed := p.signed, hashed := p.hashed } := by
  rw [decode_eq_ok_iff_announced, decodeAnnounced_eq_ok_iff]
  refine ⟨p.header, p.toBytes, behind, p.kind, parse_toBytes_append hp.bounded behind, rfl, ?_,
    Header.kind_eq_ok_iff.mpr rfl, ?_⟩
  · rw [length_toBytes, hp.bounded.toNat_packetLength]
  · exact decodeBehind_toBytes hp (Header.kind_store ..) (Message.fresh_store p.header p.kind)
      (Header.fields_store ..) (Header.fields_store ..)

/-- What is accepted has the packet of a valid layout at its front. -/
theorem exists_layout_of_decode (hok : decode b = .ok d) :
    ∃ p : Layout, p.Valid ∧ ∃ behind, b = p.toBytes ++ behind ∧
      d = { message := p.message
            packet := p.toBytes
            signed := p.signed
            hashed := p.hashed } := by
  obtain ⟨h, packet, behind, kind, hparse, hb, hlen, hkind, hbehind⟩ :=
    decodeAnnounced_eq_ok_iff.mp (decode_eq_ok_iff_announced.mp hok)
  obtain ⟨hfault, rest, hrest⟩ := Header.parse_eq_ok_iff.mp hparse
  have hfront : ∃ rest, packet = h.toBytes ++ rest := by
    -- The header lies within the packet, which is at least as long as it announces.
    have hle : h.toBytes.length ≤ packet.length := by
      rw [length_toBytes_header, hlen]
      have := Header.fault?_eq_none_iff.mp hfault
      omega
    have htake := congrArg (List.take h.toBytes.length) (hrest.symm.trans hb)
    rw [List.take_left, List.take_append_of_le_length hle] at htake
    exact ⟨packet.drop h.toBytes.length, by
      conv_lhs => rw [← List.take_append_drop h.toBytes.length packet, ← htake]⟩
  have hkind' : (h.store (.empty kind)).kind.packetType = h.packetType := by
    rw [Header.kind_store]
    exact Header.kind_eq_ok_iff.mp hkind
  obtain ⟨p, hp, -, rfl⟩ := exists_layout hfault hlen hfront hkind' (Message.fresh_store h kind)
    (Header.fields_store ..) (Header.fields_store ..) hbehind
  refine ⟨p, hp, behind, hb, ?_⟩
  rw [hb, decode_toBytes_append hp behind] at hok
  exact (Except.ok.inj hok).symm

/-- Exactly the byte strings with a packet at the front are accepted, and read as the message that
the packet stands for. -/
theorem decode_eq_ok_iff :
    decode b = .ok d ↔ ∃ p : Layout, p.Valid ∧ p.Carries d.message ∧ d.packet = p.toBytes ∧
      d.signed = p.signed ∧ d.hashed = p.hashed ∧ ∃ behind, b = d.packet ++ behind := by
  constructor
  · intro hok
    obtain ⟨p, hp, behind, rfl, rfl⟩ := exists_layout_of_decode hok
    exact ⟨p, hp, p.carries_message, rfl, rfl, rfl, behind, rfl⟩
  · rintro ⟨p, hp, hcarries, hpacket, hsigned, hhashed, behind, rfl⟩
    obtain ⟨message, packet, signed, hashed⟩ := d
    obtain rfl : message = p.message := hcarries.eq p.carries_message
    obtain rfl : packet = p.toBytes := hpacket
    obtain rfl : signed = p.signed := hsigned
    obtain rfl : hashed = p.hashed := hhashed
    exact decode_toBytes_append hp behind

end Packet

end NamedContent
