import NamedContent.Proofs.Arrangement
import NamedContent.Proofs.Exchange

/-!
# Normal forms of packets

What was read is written anew in a normal form: the elements of each zone in the order of its
table, links in their own order and without what does not belong to them, and zeros where the fixed
header has no meaning for the kind of message.

* `Carries.ofMessage_eq`: a message is written in the normal form of the packet it was read from.
* `Valid.normal`, `normal_normal`: the normal form is a packet, and its own normal form.
-/

namespace NamedContent

/-! ## Links -/

namespace Link

/-- An element that has a part in a link; an empty name has none. -/
def Kept (t : Tlv) : Prop := t.type ∈ types ∧ (t.type = nameType → t.value ≠ [])

instance (t : Tlv) : Decidable (Kept t) := inferInstanceAs (Decidable (_ ∧ _))

/-- The elements in which a link is written where given ones were read. -/
def normal (ts : List Tlv) : List Tlv :=
  (Tlv.arrange types ts).filterMap (Option.guard fun t => Kept t)

variable {ts : List Tlv} {b : Bytes}

theorem isEmpty_denoted (h : Name.IsWire b) :
    (Name.denoted b).segments.isEmpty = true ↔ b = [] := by
  constructor
  · intro hempty
    rw [← Name.wire_denoted h, Name.wire, Name.elements, List.isEmpty_iff.mp hempty]
    rfl
  · rintro rfl
    rw [Name.denoted, Tlv.scan_nil]
    rfl

/-- The name of a link is written unless it is empty. -/
theorem elements_name (h : Accepts ts) :
    (if (ofElements ts).name.segments.isEmpty then []
      else [⟨nameType, (ofElements ts).name.wire⟩]) =
      ((Tlv.valueOf? ts nameType).map (Tlv.mk nameType)).toList.filterMap
        (Option.guard fun t => Kept t) := by
  have hname : (ofElements ts).name =
      ((Tlv.valueOf? ts nameType).map Name.denoted).getD .empty := rfl
  rw [hname]
  cases hv : Tlv.valueOf? ts nameType with
  | none => rfl
  | some b =>
    have hwire : Name.IsWire b := h.name _ (Tlv.mem_of_valueOf? hv) rfl
    have hkept : Kept ⟨nameType, b⟩ ↔ ¬ (Name.denoted b).segments.isEmpty = true := by
      rw [isEmpty_denoted hwire]
      exact ⟨fun hk => hk.2 rfl, fun hb => ⟨List.mem_cons_self, fun _ => hb⟩⟩
    show (if (Name.denoted b).segments.isEmpty = true then []
      else [Tlv.mk nameType (Name.denoted b).wire]) = [Tlv.mk nameType b].filterMap _
    rw [Name.wire_denoted hwire, List.filterMap_cons, List.filterMap_nil]
    by_cases hempty : (Name.denoted b).segments.isEmpty = true
    · simp [hempty, Option.guard, hkept]
    · simp [hempty, Option.guard, hkept]

/-- Any other part is written as it is. -/
theorem elements_part {type : UInt16} (htype : type ∈ types) (hname : type ≠ nameType)
    (o : Option Bytes) :
    (o.map (Tlv.mk type)).toList.filterMap (Option.guard fun t => Kept t) =
      (o.map (Tlv.mk type)).toList := by
  cases o with
  | none => rfl
  | some b =>
    have hkept : Kept ⟨type, b⟩ := ⟨htype, fun h => absurd h hname⟩
    simp [Option.guard, hkept]

/-- A link is written in the normal form of its elements. -/
theorem elements_ofElements (h : Accepts ts) : (ofElements ts).elements = normal ts := by
  have hnodup : types.Nodup := by decide
  have hothers : (ts.filter fun t => !types.contains t.type).filterMap
      (Option.guard fun t => Kept t) = [] := by
    rw [List.filterMap_eq_nil_iff]
    intro t ht
    have hnot : ¬ Kept t := fun hkept => by simpa [hkept.1] using (List.mem_filter.mp ht).2
    simp [Option.guard, hnot]
  rw [normal, Tlv.arrange_eq hnodup h.once, List.filterMap_append, hothers, List.append_nil]
  show (if (ofElements ts).name.segments.isEmpty then []
      else [⟨nameType, (ofElements ts).name.wire⟩]) ++
    ((Tlv.valueOf? ts keyIdType).map (Tlv.mk keyIdType)).toList ++
      ((Tlv.valueOf? ts contentHashType).map (Tlv.mk contentHashType)).toList = _
  have hkeyId : keyIdType ∈ types ∧ keyIdType ≠ nameType := by decide
  have hhash : contentHashType ∈ types ∧ contentHashType ≠ nameType := by decide
  rw [elements_name h, types, List.flatMap_cons, List.flatMap_cons, List.flatMap_cons,
    List.flatMap_nil, List.filterMap_append, List.filterMap_append, List.filterMap_append,
    elements_part hkeyId.1 hkeyId.2, elements_part hhash.1 hhash.2, List.filterMap_nil,
    List.append_nil, List.append_assoc]

/-- A link without what does not belong to it is not longer. -/
theorem length_wire_denoted_le (h : IsWire b) : (denoted b).wire.length ≤ b.length := by
  obtain ⟨ts, hfits, rfl, haccepts⟩ := h
  rw [denoted, Tlv.scan_concat hfits, wire, elements_ofElements haccepts, normal,
    ← Tlv.length_concat_perm (Tlv.arrange_perm types ts)]
  refine Tlv.length_concat_filterMap_le fun t _ u hu => ?_
  obtain ⟨rfl, -⟩ := Option.guard_eq_some_iff.mp hu
  exact Nat.le_refl _

end Link

/-! ## Zones -/

/-- The element that is written where a given one was read, if one is. -/
def Zone.normal? (kind : MessageKind) (zone : Zone) (t : Tlv) : Option Tlv :=
  match slotOf? kind zone t.type with
  | some slot => (slot.normal? t.value).map (Tlv.mk t.type)
  | none => some t

/-- The elements that are written where given ones were read. -/
def Zone.normal (kind : MessageKind) (zone : Zone) (ts : List Tlv) : List Tlv :=
  (Tlv.arrange (knownTypes kind zone) ts).filterMap (zone.normal? kind)

section Zones

variable {kind : MessageKind} {zone : Zone} {slot : Slot} {ts : List Tlv} {t u : Tlv}

theorem Zone.normal?_of_slot (hs : slot ∈ slots kind zone) (b : Bytes) :
    zone.normal? kind ⟨slot.type, b⟩ = (slot.normal? b).map (Tlv.mk slot.type) := by
  have hslot : slotOf? kind zone slot.type = some slot := slotOf?_eq_some_iff.mpr ⟨hs, rfl⟩
  rw [Zone.normal?, hslot]

theorem Zone.normal?_of_unknown (h : t.type ∉ knownTypes kind zone) :
    zone.normal? kind t = some t := by
  rw [Zone.normal?, slotOf?_eq_none_iff.mpr h]

theorem Zone.type_of_normal? (h : zone.normal? kind t = some u) : u.type = t.type := by
  unfold Zone.normal? at h
  split at h
  · obtain ⟨b, -, rfl⟩ := Option.map_eq_some_iff.mp h
    rfl
  · cases h
    rfl

/-- What was read from a zone is written in the normal form of its elements. -/
theorem Message.elements_of_reads {m : Message} (haccepts : zone.Accepts m.kind ts)
    (hreads : ∀ slot ∈ slots m.kind zone, slot.Reads (Tlv.valueOf? ts slot.type) m)
    (hextras : m.extras zone = zone.unknown m.kind ts) :
    m.elements zone = zone.normal m.kind ts := by
  have hslots : (slots m.kind zone).filterMap (fun slot => slot.element? m) =
      ((knownTypes m.kind zone).flatMap fun type =>
        ((Tlv.valueOf? ts type).map (Tlv.mk type)).toList).filterMap (zone.normal? m.kind) := by
    rw [List.filterMap_eq_flatMap_toList, List.filterMap_flatMap, knownTypes, List.flatMap_map]
    refine List.flatMap_congr fun slot hs => ?_
    have hcontent : slot.content? m = (Tlv.valueOf? ts slot.type).bind slot.normal? :=
      (hreads slot hs).content? (proper_of_mem hs) (haccepts.value hs)
    rw [Slot.element?, hcontent]
    cases Tlv.valueOf? ts slot.type with
    | none => rfl
    | some b =>
      show ((slot.normal? b).map (Tlv.mk slot.type)).toList =
        [⟨slot.type, b⟩].filterMap (zone.normal? m.kind)
      rw [List.filterMap_cons, Zone.normal?_of_slot hs]
      cases slot.normal? b <;> rfl
  have hothers : (ts.filter fun t => !(knownTypes m.kind zone).contains t.type).filterMap
      (zone.normal? m.kind) = m.extras zone := by
    have hkeep : ∀ t ∈ zone.unknown m.kind ts, zone.normal? m.kind t = some t := fun t ht =>
      Zone.normal?_of_unknown (Zone.mem_unknown.mp ht).2
    rw [← Zone.unknown_eq, List.filterMap_congr hkeep, List.filterMap_some, hextras]
  rw [Zone.normal, Tlv.arrange_eq (nodup_types m.kind zone) haccepts.once, List.filterMap_append,
    ← hslots, hothers, elements]

/-! ### Length -/

theorem Slot.length_normal?_le {b c : Bytes} (h : slot.form.Accepts b)
    (hc : slot.normal? b = some c) : c.length ≤ b.length := by
  unfold Slot.normal? at hc
  by_cases hlink : slot.form = .link
  · rw [if_pos hlink] at hc
    split at hc
    · cases hc
    · cases hc
      rw [hlink] at h
      exact Link.length_wire_denoted_le h
  · rw [if_neg hlink] at hc
    cases hc
    exact Nat.le_refl _

theorem Zone.size_normal?_le (h : Zone.Accepts kind zone ts) (ht : t ∈ ts)
    (hu : zone.normal? kind t = some u) : u.size ≤ t.size := by
  unfold Zone.normal? at hu
  split at hu
  · next slot hslot =>
    obtain ⟨hs, htype⟩ := slotOf?_eq_some_iff.mp hslot
    obtain ⟨b, hb, rfl⟩ := Option.map_eq_some_iff.mp hu
    exact Nat.add_le_add_left (Slot.length_normal?_le (h.values slot hs t ht htype.symm) hb) _
  · cases hu
    exact Nat.le_refl _

/-- The normal form of a zone is not longer than the zone. -/
theorem Zone.length_normal_le (h : Zone.Accepts kind zone ts) :
    (Tlv.concat (zone.normal kind ts)).length ≤ (Tlv.concat ts).length := by
  rw [← Tlv.length_concat_perm (Tlv.arrange_perm (knownTypes kind zone) ts), Zone.normal]
  refine Tlv.length_concat_filterMap_le fun t ht u hu => ?_
  exact Zone.size_normal?_le h (Tlv.mem_arrange.mp ht) hu

/-! ### Stability -/

/-- What is written for a link is accepted, tells the same and is written as it is. -/
theorem Slot.normal?_eq_some {b c : Bytes} (h : slot.form.Accepts b) (hfits : b.length ≤ maxLength)
    (hc : slot.normal? b = some c) :
    slot.form.Accepts c ∧ slot.normal? c = some c ∧ ∀ f, slot.value? c f = slot.value? b f := by
  unfold Slot.normal? at hc ⊢
  by_cases hlink : slot.form = .link
  · rw [hlink] at h
    rw [if_pos hlink] at hc ⊢
    split at hc
    · cases hc
    · next hempty =>
      cases hc
      -- A link is read back as it was written, and so written as it was.
      have hlen := Nat.le_trans (Link.length_wire_denoted_le h) hfits
      have hdenoted := Link.denoted_wire (Link.plain_denoted h) (Tlv.fits_of_mem hlen)
      refine ⟨?_, ?_, fun f => ?_⟩
      · rw [hlink]
        exact Link.isWire_wire (Tlv.fits_of_mem hlen)
      · rw [hdenoted, if_neg hempty]
      · simp only [Slot.value?, hlink, Form.value, hdenoted]
  · rw [if_neg hlink] at hc ⊢
    cases hc
    exact ⟨h, rfl, fun _ => rfl⟩

theorem Zone.ordered_normal (kind : MessageKind) (zone : Zone) (ts : List Tlv) :
    Tlv.Ordered (knownTypes kind zone) (zone.normal kind ts) := by
  refine (Tlv.ordered_arrange (knownTypes kind zone) ts).of_types ?_
  unfold Zone.normal
  induction Tlv.arrange (knownTypes kind zone) ts with
  | nil => exact .slnil
  | cons t ts ih =>
    cases hu : zone.normal? kind t with
    | none =>
      rw [List.filterMap_cons, hu]
      exact ih.cons t.type
    | some u =>
      rw [List.filterMap_cons, hu, List.map_cons, List.map_cons, Zone.type_of_normal? hu]
      exact ih.cons_cons t.type

/-- An element of the normal form is written as it is. -/
theorem Zone.normal?_of_mem_normal (h : Zone.Accepts kind zone ts) (hfits : ∀ t ∈ ts, t.Fits)
    (hu : u ∈ zone.normal kind ts) : zone.normal? kind u = some u := by
  obtain ⟨t, ht, htu⟩ := List.mem_filterMap.mp hu
  have ht := Tlv.mem_arrange.mp ht
  have htype := Zone.type_of_normal? htu
  unfold Zone.normal? at htu ⊢
  rw [htype]
  split at htu
  · next slot hslot =>
    obtain ⟨hs, hst⟩ := slotOf?_eq_some_iff.mp hslot
    obtain ⟨b, hb, rfl⟩ := Option.map_eq_some_iff.mp htu
    rw [(Slot.normal?_eq_some (h.values slot hs t ht hst.symm) (hfits t ht) hb).2.1]
    rfl
  · rfl

/-- What is in order, and of which each element is written as it is, is its own normal form. -/
theorem Zone.normal_of_ordered (hordered : Tlv.Ordered (knownTypes kind zone) ts)
    (hkeep : ∀ t ∈ ts, zone.normal? kind t = some t) : zone.normal kind ts = ts := by
  rw [Zone.normal, Tlv.arrange_of_ordered hordered, List.filterMap_congr hkeep, List.filterMap_some]

/-- The normal form of a zone is its own normal form. -/
theorem Zone.normal_normal (h : Zone.Accepts kind zone ts) (hfits : ∀ t ∈ ts, t.Fits) :
    zone.normal kind (zone.normal kind ts) = zone.normal kind ts :=
  Zone.normal_of_ordered (Zone.ordered_normal kind zone ts) fun _ hu =>
    Zone.normal?_of_mem_normal h hfits hu

end Zones

/-! ## Packets -/

namespace Layout

/-- The layout in which the message of a packet is written. -/
def normal (p : Layout) : Layout where
  kind := p.kind
  hopLimit := if p.kind.isRequest then p.hopLimit else 0
  returnCode := if p.kind = .interestReturn then p.returnCode else 0
  flags := if p.kind.isRequest then p.flags else 0
  hop := Zone.hop.normal p.kind p.hop
  body := Zone.body.normal p.kind p.body
  validation := p.validation.map fun v => { v with fields := Zone.suite.normal p.kind v.fields }

variable {p : Layout} {m : Message} {f : Field}

theorem Carries.outer_of_mem (h : p.Carries m) (hf : f ∈ outerFields) :
    m.fields f = p.outer f :=
  h.outer f fun _ _ hs hmem => not_mem_outerFields hs hmem hf

theorem Carries.elements (h : p.Carries m) (hp : p.Valid) (zone : Zone) :
    m.elements zone = zone.normal p.kind (p.elements zone) := by
  have haccepts := hp.accepts zone
  have hslots := h.slots zone
  have hextras := h.extras zone
  rw [← h.kind] at haccepts hslots hextras ⊢
  exact Message.elements_of_reads haccepts hslots hextras

theorem clampedByte_of_fields {x : UInt8} (h : m.fields f = some (.int x.toUInt64)) :
    Header.clampedByte m f = x := by
  have hint : m.int? f = some x.toUInt64 := by rw [Message.int?, h]
  have hx := x.toNat_lt
  rw [Header.clampedByte, hint]
  apply UInt8.toNat_inj.mp
  simp only [UInt8.toNat_toUInt64, UInt8.toNat_ofNat']
  omega

theorem Carries.keptFlags (h : p.Carries m) : Header.keptFlags m = p.flags := by
  have hfixed : m.bytes? .fixedHeader = some p.header.toBytes := by
    rw [Message.bytes?, h.outer_of_mem (by decide)]
    rfl
  rw [Header.keptFlags, hfixed]
  rfl

/-- The message of a packet is written in the normal form of the packet. -/
theorem Carries.ofMessage_eq (h : p.Carries m) (hp : p.Valid) : ofMessage m = p.normal := by
  have hsuite : m.fields .cryptoSuite = suiteValue? p.validation := h.outer_of_mem (by decide)
  have hsignature : m.fields .signature = signatureValue? p.validation :=
    h.outer_of_mem (by decide)
  rw [ofMessage, normal, Layout.mk.injEq, h.kind]
  -- A byte of the header comes back where the kind of message has a meaning for it.
  refine ⟨rfl, ?_, ?_, ?_, h.elements hp .hop, h.elements hp .body, ?_⟩
  · by_cases hkind : p.kind.isRequest = true
    · rw [if_pos hkind, if_pos hkind]
      refine clampedByte_of_fields ((h.outer_of_mem (by decide)).trans ?_)
      exact if_pos hkind
    · rw [if_neg hkind, if_neg hkind]
  · by_cases hkind : p.kind = .interestReturn
    · rw [if_pos hkind, if_pos hkind]
      refine clampedByte_of_fields ((h.outer_of_mem (by decide)).trans ?_)
      exact if_pos hkind
    · rw [if_neg hkind, if_neg hkind]
  · rw [h.keptFlags]
  · have helements : m.elements .suite = Zone.suite.normal p.kind (suiteElements p.validation) :=
      h.elements hp .suite
    rw [Message.int?, Message.bytes?, hsuite, hsignature, helements]
    cases p.validation with
    | none => rfl
    | some v =>
      obtain ⟨suite, fields, signature⟩ := v
      cases signature <;> simp [suiteValue?, signatureValue?, suiteElements]

/-! ### Length -/

theorem length_toBytes_le {t u : Tlv} (h : t.value.length ≤ u.value.length) :
    t.toBytes.length ≤ u.toBytes.length := by
  rw [Tlv.length_toBytes, Tlv.length_toBytes]
  exact Nat.add_le_add_left h _

theorem elements_normal (p : Layout) (zone : Zone) :
    p.normal.elements zone = zone.normal p.kind (p.elements zone) := by
  cases zone with
  | hop => rfl
  | body => rfl
  | suite =>
    obtain ⟨kind, hopLimit, returnCode, flags, hop, body, v⟩ := p
    cases v <;> rfl

theorem headerLength_normal_le (hp : p.Valid) : p.normal.headerLength ≤ p.headerLength :=
  Nat.add_le_add_left (Zone.length_normal_le (hp.accepts .hop)) _

theorem length_content_normal_le (hp : p.Valid) :
    p.normal.content.length ≤ p.content.length := by
  have hbody : p.normal.messageElement.toBytes.length ≤ p.messageElement.toBytes.length :=
    length_toBytes_le (Zone.length_normal_le (hp.accepts .body))
  have hvalidation : (Tlv.concat (validationElements p.normal.validation)).length ≤
      (Tlv.concat (validationElements p.validation)).length := by
    have hsuite := Zone.length_normal_le (hp.accepts .suite)
    obtain ⟨kind, hopLimit, returnCode, flags, hop, body, v⟩ := p
    cases v with
    | none => exact Nat.le_refl _
    | some v =>
      have halgorithm : (Validation.algorithm { v with fields := Zone.suite.normal kind v.fields
          }).toBytes.length ≤ v.algorithm.toBytes.length :=
        length_toBytes_le (length_toBytes_le hsuite)
      show (Tlv.concat (_ :: _)).length ≤ (Tlv.concat (_ :: _)).length
      rw [Tlv.concat_cons, Tlv.concat_cons, List.length_append, List.length_append]
      exact Nat.add_le_add_right halgorithm _
  unfold content
  rw [Tlv.concat_cons, Tlv.concat_cons, List.length_append, List.length_append]
  exact Nat.add_le_add hbody hvalidation

/-- The normal form of a packet is not longer than the packet. -/
theorem packetLength_normal_le (hp : p.Valid) : p.normal.packetLength ≤ p.packetLength :=
  Nat.add_le_add (headerLength_normal_le hp) (length_content_normal_le hp)

/-- The normal form of a packet is its own normal form. -/
theorem normal_normal (hp : p.Valid) : p.normal.normal = p.normal := by
  have hzone : ∀ zone : Zone, zone.normal p.kind (zone.normal p.kind (p.elements zone)) =
      zone.normal p.kind (p.elements zone) :=
    fun zone => Zone.normal_normal (hp.accepts zone) (fits_elements hp.packet zone)
  have hhop := hzone .hop
  have hbody := hzone .body
  have hsuite := hzone .suite
  obtain ⟨kind, hopLimit, returnCode, flags, hop, body, v⟩ := p
  rw [normal, Layout.mk.injEq]
  refine ⟨rfl, ?_, ?_, ?_, hhop, hbody, ?_⟩
  · simp only [normal]
    split <;> rfl
  · simp only [normal]
    split <;> rfl
  · simp only [normal]
    split <;> rfl
  · cases v with
    | none => rfl
    | some v => exact congrArg (fun fields => some { v with fields }) hsuite

/-! ### The normal form as a packet -/

/-- In the normal form a slot has the value that is written where the value of its element was
read. -/
theorem valueOf?_normal (hp : p.Valid) {zone : Zone} {slot : Slot} (hs : slot ∈ slots p.kind zone) :
    Tlv.valueOf? (p.normal.elements zone) slot.type =
      (Tlv.valueOf? (p.elements zone) slot.type).bind slot.normal? := by
  have h := p.carries_message
  have hs' : slot ∈ slots p.message.kind zone := by rwa [h.kind]
  rw [elements_normal, ← h.elements hp zone,
    Message.valueOf?_elements (h.not_mem_knownTypes zone) hs',
    (h.slots zone slot hs).content? (proper_of_mem hs) ((hp.accepts zone).value hs)]

theorem unknown_normal (hp : p.Valid) (zone : Zone) :
    zone.unknown p.kind (p.normal.elements zone) = zone.unknown p.kind (p.elements zone) := by
  have h := p.carries_message
  have hunknown := Message.unknown_elements (h.not_mem_knownTypes zone)
  rw [h.elements hp zone, h.extras zone, h.kind] at hunknown
  rw [elements_normal]
  exact hunknown

/-- The element that a slot has in the normal form. -/
theorem normal?_of_mem_elements {zone : Zone} {slot : Slot} {t : Tlv}
    (hs : slot ∈ slots p.kind zone) (ht : t ∈ p.normal.elements zone) (htype : t.type = slot.type) :
    ∃ u ∈ p.elements zone, u.type = slot.type ∧ slot.normal? u.value = some t.value := by
  rw [elements_normal] at ht
  obtain ⟨u, hu, hut⟩ := List.mem_filterMap.mp ht
  have hutype : u.type = slot.type := (Zone.type_of_normal? hut).symm.trans htype
  have hslot : slotOf? p.kind zone u.type = some slot := slotOf?_eq_some_iff.mpr ⟨hs, hutype.symm⟩
  rw [Zone.normal?, hslot] at hut
  obtain ⟨b, hb, rfl⟩ := Option.map_eq_some_iff.mp hut
  exact ⟨u, Tlv.mem_arrange.mp hu, hutype, hb⟩

/-- The normal form of a packet is a packet. -/
theorem Valid.normal (hp : p.Valid) : p.normal.Valid := by
  constructor
  · exact Nat.le_trans (headerLength_normal_le hp) hp.headers
  · exact Nat.le_trans (packetLength_normal_le hp) hp.packet
  · intro zone
    have h := p.carries_message
    constructor
    · have honce := Message.once_elements (h.not_mem_knownTypes zone)
      rw [h.elements hp zone, h.kind] at honce
      rw [elements_normal]
      exact honce
    · intro slot hs t ht htype
      have hs : slot ∈ slots p.kind zone := hs
      obtain ⟨u, hu, hutype, hnormal⟩ := normal?_of_mem_elements hs ht htype
      exact (Slot.normal?_eq_some ((hp.accepts zone).values slot hs u hu hutype)
        (fits_elements hp.packet zone u hu) hnormal).1
  · intro hkind
    obtain ⟨t, ht, htype⟩ := hp.named hkind
    refine ⟨t, List.mem_filterMap.mpr ⟨t, Tlv.mem_arrange.mpr ht, ?_⟩, htype⟩
    -- A name is no link, so that its element stays.
    have hs : ∃ slot ∈ slots p.kind .body, slot.type = 0x0000 ∧ slot.form ≠ .link := by
      cases p.kind <;> decide
    obtain ⟨slot, hs, hstype, hlink⟩ := hs
    obtain ⟨type, b⟩ := t
    obtain rfl : type = slot.type := htype.trans hstype.symm
    rw [Zone.normal?_of_slot hs, Slot.normal?, if_neg hlink]
    rfl

/-- Outside of the zones the normal form tells the same but for the fixed header: the bytes that are
zero in it are those that a message does not hold. -/
theorem outer_normal (p : Layout) (hf : f ≠ .fixedHeader) : p.normal.outer f = p.outer f := by
  cases f with
  | fixedHeader => exact absurd rfl hf
  | hopLimit =>
    show (if p.kind.isRequest then
        some (Value.int (if p.kind.isRequest then p.hopLimit else 0).toUInt64) else none) =
      if p.kind.isRequest then some (.int p.hopLimit.toUInt64) else none
    split <;> rfl
  | returnCode =>
    show (if p.kind = .interestReturn then
        some (Value.int (if p.kind = .interestReturn then p.returnCode else 0).toUInt64)
          else none) =
      if p.kind = .interestReturn then some (.int p.returnCode.toUInt64) else none
    split <;> rfl
  | cryptoSuite =>
    show suiteValue? (p.validation.map _) = suiteValue? p.validation
    cases p.validation <;> rfl
  | signature =>
    show signatureValue? (p.validation.map _) = signatureValue? p.validation
    cases p.validation <;> rfl
  | _ => rfl

end Layout

end NamedContent
