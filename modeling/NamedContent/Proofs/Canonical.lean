import NamedContent.Proofs.Recoding

/-!
# Canonical packets

A packet is canonical when what was read from it is written in the same bytes. This is told by the
order of its elements, by the links of key names and by the bytes of the fixed header that have no
meaning for the kind of message (`Layout.Canonical`); in which form a value stands does not matter.

* `toBytes_inj`: a packet has one layout.
* `normal_eq_iff`: the canonical layouts are the normal forms.
* `encode_eq_iff`: what was read from a packet is written in the same bytes exactly when the packet
  is canonical.
-/

namespace NamedContent

/-! ## Links -/

namespace Link

/-- The bytes of a link with at least one part and nothing else, in the order name, key identifier
and digest, and without an empty name. -/
def Canonical (b : Bytes) : Prop :=
  ∃ ts : List Tlv, (∀ t ∈ ts, t.Fits) ∧ b = Tlv.concat ts ∧ ts ≠ [] ∧ Tlv.Ordered types ts ∧
    ∀ t ∈ ts, Kept t

variable {ts : List Tlv} {b : Bytes}

theorem elements_eq_nil_iff (link : Link) : link.elements = [] ↔ link.isEmpty = true := by
  obtain ⟨name, keyId, hash⟩ := link
  unfold elements isEmpty
  cases name.segments.isEmpty <;> cases keyId <;> cases hash <;> simp

theorem ordered_normal (ts : List Tlv) : Tlv.Ordered types (normal ts) := by
  refine (Tlv.ordered_arrange types ts).of_types (List.Sublist.map _ ?_)
  rw [normal, List.filterMap_eq_filter]
  exact List.filter_sublist

theorem mem_normal {t : Tlv} : t ∈ normal ts ↔ t ∈ ts ∧ Kept t := by
  rw [normal, List.filterMap_eq_filter, List.mem_filter, Tlv.mem_arrange, decide_eq_true_iff]

/-- What is in order and belongs to a link is left alone. -/
theorem normal_of_ordered (hordered : Tlv.Ordered types ts) (hkept : ∀ t ∈ ts, Kept t) :
    normal ts = ts := by
  rw [normal, Tlv.arrange_of_ordered hordered, List.filterMap_eq_filter, List.filter_eq_self]
  intro t ht
  exact decide_eq_true (hkept t ht)

/-- A link is canonical when it is written, and as it was read. -/
theorem canonical_iff (h : IsWire b) :
    Canonical b ↔ (denoted b).isEmpty = false ∧ (denoted b).wire = b := by
  obtain ⟨ts, hfits, rfl, haccepts⟩ := h
  have helements : (denoted (Tlv.concat ts)).elements = normal ts := by
    rw [denoted, Tlv.scan_concat hfits]
    exact elements_ofElements haccepts
  rw [← Bool.not_eq_true, ← elements_eq_nil_iff, wire, helements]
  constructor
  · rintro ⟨us, husFits, heq, hne, hordered, hkept⟩
    obtain rfl := Tlv.concat_inj hfits husFits heq
    rw [normal_of_ordered hordered hkept]
    exact ⟨hne, rfl⟩
  · rintro ⟨hne, heq⟩
    refine ⟨normal ts, fun t ht => hfits t (mem_normal.mp ht).1, heq.symm, hne, ordered_normal ts,
      fun t ht => (mem_normal.mp ht).2⟩

end Link

/-! ## Zones -/

/-- The types of the known elements of each zone in their canonical order: a fragment and then a
lifetime or cache time; a name, what restricts or describes the content, and then the payload; and
key identifier, public key, certificate, key name and time of signing. -/
def canonicalTypes : MessageKind → Zone → List UInt16
  | .interest, .hop | .interestReturn, .hop => [0x0003, 0x0001]
  | .contentObject, .hop => [0x0004, 0x0002]
  | .control, .hop => []
  | .interest, .body | .interestReturn, .body => [0x0000, 0x0002, 0x0003, 0x0001]
  | .contentObject, .body => [0x0000, 0x0005, 0x0006, 0x0019, 0x0001]
  | .control, .body => [0x0000, 0x0001]
  | _, .suite => [0x0009, 0x000B, 0x000C, 0x000E, 0x000F]

/-- The type of a key name. -/
def keyNameType : UInt16 := 0x000E

section Zones

variable {kind : MessageKind} {zone : Zone} {slot : Slot} {ts : List Tlv} {t : Tlv}

/-- The canonical order is that of the tables. -/
theorem canonicalTypes_eq (kind : MessageKind) (zone : Zone) :
    canonicalTypes kind zone = knownTypes kind zone := by
  cases kind <;> cases zone <;> rfl

theorem Slot.normal?_eq_self_iff {b : Bytes} (h : slot.form.Accepts b) :
    slot.normal? b = some b ↔ (slot.form = .link → Link.Canonical b) := by
  unfold Slot.normal?
  by_cases hlink : slot.form = .link
  · rw [hlink] at h
    rw [if_pos hlink, Link.canonical_iff h]
    cases (Link.denoted b).isEmpty with
    | true => simp [hlink]
    | false => simp [hlink]
  · simp [hlink]

theorem slotOf?_link_iff :
    (∃ slot, slotOf? kind zone t.type = some slot ∧ slot.form = .link) ↔
      zone = .suite ∧ t.type = keyNameType := by
  constructor
  · rintro ⟨slot, hslot, hlink⟩
    obtain ⟨hs, htype⟩ := slotOf?_eq_some_iff.mp hslot
    have table : ∀ s ∈ slots kind zone, s.form = .link → zone = .suite ∧ s.type = keyNameType := by
      cases kind <;> cases zone <;> decide
    rw [← htype]
    exact table slot hs hlink
  · rintro ⟨rfl, htype⟩
    have hs : (⟨.keyName, keyNameType, .link⟩ : Slot) ∈ suiteSlots := by decide
    exact ⟨_, slotOf?_eq_some_iff.mpr ⟨hs, htype.symm⟩, rfl⟩

/-- An element is written as it is unless it is a key name that is not canonical. -/
theorem Zone.normal?_eq_self_iff (h : Zone.Accepts kind zone ts) (ht : t ∈ ts) :
    zone.normal? kind t = some t ↔
      (zone = .suite ∧ t.type = keyNameType → Link.Canonical t.value) := by
  have hlink : (∃ slot, slotOf? kind zone t.type = some slot ∧ slot.form = .link) ↔
      zone = .suite ∧ t.type = keyNameType := slotOf?_link_iff
  rw [← hlink]
  unfold Zone.normal?
  cases hslot : slotOf? kind zone t.type with
  | none => simp
  | some slot =>
    obtain ⟨hs, htype⟩ := slotOf?_eq_some_iff.mp hslot
    have hvalue := Slot.normal?_eq_self_iff (h.values slot hs t ht htype.symm)
    obtain ⟨type, b⟩ := t
    show (slot.normal? b).map (Tlv.mk type) = some ⟨type, b⟩ ↔ _
    rw [Option.map_eq_some_iff]
    simp only [Tlv.mk.injEq, true_and, exists_eq_right, Option.some.injEq, exists_eq_left',
      hvalue]

/-- A zone is its own normal form when it is in order and its key name, if any, is canonical. -/
theorem Zone.normal_eq_iff (h : Zone.Accepts kind zone ts) (hfits : ∀ t ∈ ts, t.Fits) :
    zone.normal kind ts = ts ↔ Tlv.Ordered (canonicalTypes kind zone) ts ∧
      ∀ t ∈ ts, zone = .suite ∧ t.type = keyNameType → Link.Canonical t.value := by
  rw [canonicalTypes_eq]
  constructor
  · intro heq
    refine ⟨heq ▸ Zone.ordered_normal kind zone ts, fun t ht => ?_⟩
    refine (Zone.normal?_eq_self_iff h ht).mp (Zone.normal?_of_mem_normal h hfits ?_)
    rwa [heq]
  · rintro ⟨hordered, hlinks⟩
    exact Zone.normal_of_ordered hordered fun t ht =>
      (Zone.normal?_eq_self_iff h ht).mpr (hlinks t ht)

end Zones

/-! ## Packets -/

namespace Layout

/-- What makes a packet canonical: the elements of each zone stand in order, a key name is a
canonical link, and the bytes of the fixed header without a meaning are zero. -/
structure Canonical (p : Layout) : Prop where
  ordered : ∀ zone, Tlv.Ordered (canonicalTypes p.kind zone) (p.elements zone)
  keyName : ∀ t ∈ p.elements .suite, t.type = keyNameType → Link.Canonical t.value
  hopLimit : p.kind.isRequest = false → p.hopLimit = 0
  returnCode : p.kind ≠ .interestReturn → p.returnCode = 0
  flags : p.kind.isRequest = false → p.flags = 0

variable {p q : Layout} {v w : Option Validation}

/-- A layout is known by its kind, three bytes of the header, its elements and its validation. -/
theorem eq_of (hkind : p.kind = q.kind) (hhopLimit : p.hopLimit = q.hopLimit)
    (hreturnCode : p.returnCode = q.returnCode) (hflags : p.flags = q.flags) (hhop : p.hop = q.hop)
    (hbody : p.body = q.body) (hvalidation : p.validation = q.validation) : p = q := by
  obtain ⟨kind, hopLimit, returnCode, flags, hop, body, validation⟩ := p
  obtain rfl : kind = q.kind := hkind
  obtain rfl : hopLimit = q.hopLimit := hhopLimit
  obtain rfl : returnCode = q.returnCode := hreturnCode
  obtain rfl : flags = q.flags := hflags
  obtain rfl : hop = q.hop := hhop
  obtain rfl : body = q.body := hbody
  obtain rfl : validation = q.validation := hvalidation
  rfl

theorem elements_eq_of_normal (h : p.normal = p) (zone : Zone) :
    zone.normal p.kind (p.elements zone) = p.elements zone := by
  rw [← elements_normal, h]

/-- The canonical layouts are the normal forms. -/
theorem normal_eq_iff (hp : p.Valid) : p.normal = p ↔ p.Canonical := by
  have hzones := fun zone => Zone.normal_eq_iff (hp.accepts zone) (fits_elements hp.packet zone)
  constructor
  · intro h
    have helements := fun zone => (hzones zone).mp (elements_eq_of_normal h zone)
    refine ⟨fun zone => (helements zone).1,
      fun t ht htype => (helements .suite).2 t ht ⟨rfl, htype⟩,
      fun hkind => ?_, fun hkind => ?_, fun hkind => ?_⟩
    · rw [← congrArg hopLimit h]
      exact if_neg (by simp [hkind])
    · rw [← congrArg returnCode h]
      exact if_neg hkind
    · rw [← congrArg flags h]
      exact if_neg (by simp [hkind])
  · intro h
    have helements : ∀ zone : Zone, zone.normal p.kind (p.elements zone) = p.elements zone := by
      intro zone
      refine (hzones zone).mpr ⟨h.ordered zone, fun t ht => ?_⟩
      rintro ⟨rfl, htype⟩
      exact h.keyName t ht htype
    refine eq_of rfl ?_ ?_ ?_ (helements .hop) (helements .body) ?_
    · exact ite_eq_left_iff.mpr fun hkind => (h.hopLimit (by simpa using hkind)).symm
    · exact ite_eq_left_iff.mpr fun hkind => (h.returnCode hkind).symm
    · exact ite_eq_left_iff.mpr fun hkind => (h.flags (by simpa using hkind)).symm
    · have hsuite := helements .suite
      obtain ⟨kind, hopLimit, returnCode, flags, hop, body, v⟩ := p
      cases v with
      | none => rfl
      | some v => exact congrArg (fun fields => some { v with fields }) hsuite

/-! ### The layout of a packet -/

theorem algorithm_inj {v w : Validation} (hv : v.algorithm.Fits) (hw : w.algorithm.Fits)
    (h : v.algorithm = w.algorithm) : v.suite = w.suite ∧ v.fields = w.fields := by
  have hbytes : Tlv.toBytes ⟨v.suite, Tlv.concat v.fields⟩ =
      Tlv.toBytes ⟨w.suite, Tlv.concat w.fields⟩ := congrArg Tlv.value h
  have hvFits := Tlv.fits_of_toBytes hv
  have hwFits := Tlv.fits_of_toBytes hw
  obtain ⟨helement, -⟩ := Tlv.toBytes_append_inj (b := []) (c := []) hvFits hwFits (by rw [hbytes])
  exact ⟨congrArg Tlv.type helement,
    Tlv.concat_inj (Tlv.fits_of_mem hvFits) (Tlv.fits_of_mem hwFits) (congrArg Tlv.value helement)⟩

theorem validationElements_inj (hv : ∀ t ∈ validationElements v, t.Fits)
    (hw : ∀ t ∈ validationElements w, t.Fits) (h : validationElements v = validationElements w) :
    v = w := by
  cases v with
  | none =>
    cases w with
    | none => rfl
    | some w => cases h
  | some v =>
    cases w with
    | none => cases h
    | some w =>
      obtain ⟨halgorithm, hsignature⟩ := List.cons_eq_cons.mp h
      obtain ⟨hsuite, hfields⟩ := algorithm_inj (hv _ List.mem_cons_self) (hw _ List.mem_cons_self)
        halgorithm
      obtain ⟨suite, fields, signature⟩ := v
      obtain rfl : suite = w.suite := hsuite
      obtain rfl : fields = w.fields := hfields
      obtain rfl : signature = w.signature := by
        cases signature <;> cases hw : w.signature <;> simp_all
      rfl

/-- A packet tells its layout, even one that is not acceptable. -/
theorem Bounded.eq_of_toBytes (hp : p.Bounded) (hq : q.Bounded) (h : p.toBytes = q.toBytes) :
    p = q := by
  have hheader : p.header = q.header := by
    have hparse := Packet.parse_toBytes hp
    rw [h, Packet.parse_toBytes hq] at hparse
    exact (Except.ok.inj hparse).symm
  have hkind : p.kind = q.kind := by
    have hcode : p.kind.packetType = q.kind.packetType := congrArg Header.packetType hheader
    have hfound := MessageKind.ofPacketType?_eq_some_iff.mpr hcode
    rw [MessageKind.ofPacketType?_eq_some_iff.mpr rfl] at hfound
    exact (Option.some.inj hfound).symm
  have hheaderLength : p.headerLength = q.headerLength := by
    rw [← hp.toNat_headerLength, ← hq.toNat_headerLength, hheader]
  have hhop : p.hop = q.hop := by
    refine Tlv.concat_inj (fits_hop hp.packet) (fits_hop hq.packet) ?_
    rw [← Packet.slice_hop, ← Packet.slice_hop, h, hheaderLength]
  have hcontent : p.messageElement :: validationElements p.validation =
      q.messageElement :: validationElements q.validation := by
    refine Tlv.concat_inj (fits_content hp.packet) (fits_content hq.packet) ?_
    show p.content = q.content
    rw [← Packet.drop_headers, ← Packet.drop_headers, h, hheaderLength]
  obtain ⟨hmessage, hvalidation⟩ := List.cons_eq_cons.mp hcontent
  have hpFits := List.forall_mem_cons.mp (fits_content hp.packet)
  have hqFits := List.forall_mem_cons.mp (fits_content hq.packet)
  refine eq_of hkind (congrArg Header.hopLimit hheader) (congrArg Header.returnCode hheader)
    (congrArg Header.flags hheader) hhop ?_ (validationElements_inj hpFits.2 hqFits.2 hvalidation)
  exact Tlv.concat_inj (Tlv.fits_of_mem hpFits.1) (Tlv.fits_of_mem hqFits.1)
    (congrArg Tlv.value hmessage)

/-- A packet has one layout. -/
theorem toBytes_inj (hp : p.Valid) (hq : q.Valid) (h : p.toBytes = q.toBytes) : p = q :=
  hp.bounded.eq_of_toBytes hq.bounded h

end Layout

namespace Packet

variable {p : Layout} {b : Bytes} {d : Decoded}

/-- The bytes of a canonical packet. -/
def Canonical (b : Bytes) : Prop := ∃ p : Layout, p.Valid ∧ b = p.toBytes ∧ p.Canonical

theorem announcedLength?_of_bounded (hp : p.Bounded) (behind : Bytes) :
    announcedLength? (p.toBytes ++ behind) = some p.packetLength := by
  obtain ⟨l1, l0, hl, hn⟩ := Tlv.exists_ofNat_two p.header.packetLength.toNat_lt
  rw [Layout.toBytes, Header.toBytes, hl, ← hp.toNat_packetLength, ← hn]
  rfl

theorem announcedLength?_toBytes (hp : p.Bounded) :
    announcedLength? p.toBytes = some p.packetLength := by
  have hannounced := announcedLength?_of_bounded hp []
  rwa [List.append_nil] at hannounced

theorem announcedLength?_toBytes_append (hp : p.Valid) (behind : Bytes) :
    announcedLength? (p.toBytes ++ behind) = some p.packetLength :=
  announcedLength?_of_bounded hp.bounded behind

/-- What was read from a packet is written in the same bytes exactly when the packet is
canonical. -/
theorem encode_eq_iff (hok : decode b = .ok d) (hlength : announcedLength? b = some b.length)
    (now : UInt64) :
    ∃ e, encode d.message none {} now = .ok e ∧ (e.wire.toBytes = b ↔ Canonical b) := by
  obtain ⟨p, hp, behind, hb, rfl⟩ := exists_layout_of_decode hok
  have hbehind : behind = [] := by
    rw [hb, announcedLength?_toBytes_append hp, List.length_append,
    Layout.length_toBytes] at hlength
    rw [← List.length_eq_zero_iff]
    have := Option.some.inj hlength
    omega
  obtain rfl : b = p.toBytes := by rw [hb, hbehind, List.append_nil]
  obtain ⟨e, hencoded, -, hspells⟩ := encode_of_carries p.carries_message hp now
  refine ⟨e, hencoded, ?_⟩
  rw [hspells.wire]
  constructor
  · intro h
    exact ⟨p, hp, rfl, (Layout.normal_eq_iff hp).mp (Layout.toBytes_inj hp.normal hp h)⟩
  · rintro ⟨q, hq, heq, hcanonical⟩
    obtain rfl := Layout.toBytes_inj hp hq heq
    rw [(Layout.normal_eq_iff hp).mpr hcanonical]

theorem encode_eq_iff_shuffled :
    ∃ d, decode Sample.shuffled.toBytes = .ok d ∧
      announcedLength? Sample.shuffled.toBytes = some Sample.shuffled.toBytes.length ∧
        ∃ e, encode d.message none {} 7 = .ok e ∧
          (e.wire.toBytes = Sample.shuffled.toBytes ↔ Canonical Sample.shuffled.toBytes) ∧
            e.wire.toBytes ≠ Sample.shuffled.toBytes := by
  have hread := decode_toBytes_append Sample.valid_shuffled []
  rw [List.append_nil] at hread
  have hlength :
      announcedLength? Sample.shuffled.toBytes = some Sample.shuffled.toBytes.length := by
    decide
  have hshuffled : ¬ Canonical Sample.shuffled.toBytes := by
    rintro ⟨p, hp, heq, hcanonical⟩
    obtain rfl := Layout.toBytes_inj Sample.valid_shuffled hp heq
    exact absurd (hcanonical.hopLimit rfl) (by decide)
  obtain ⟨e, hencoded, hiff⟩ := encode_eq_iff hread hlength 7
  exact ⟨_, hread, hlength, e, hencoded, hiff, fun h => hshuffled (hiff.mp h)⟩

end Packet

end NamedContent
