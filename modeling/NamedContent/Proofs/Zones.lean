import NamedContent.Packet.Part
import NamedContent.Proofs.RoundTrip

/-!
# Zones

A zone is read and written by its table of slots. Of the tables the proofs use no more than that
types and fields are distinct, which is decided here once.

* `result_ofZone_eq_ok_iff`: a zone is read when its bytes are a sequence of elements that the
  table accepts; each slot then holds the value of its element, and the rest is kept in order.
* `writes_emitZone`: a zone is written as the elements of its slots, in the order of the table,
  and the rest.
* `valueOf?_elements`, `accepts_elements`: what is written from well-shaped fields is accepted, and
  the value of each type is that of its slot.
-/

namespace NamedContent

theorem Message.eq_of {a b : Message} (hkind : a.kind = b.kind)
    (hfields : ∀ f, a.fields f = b.fields f) (hextras : ∀ z, a.extras z = b.extras z) : a = b := by
  obtain ⟨kind, fields, hop, body, suite⟩ := a
  obtain rfl : fields = b.fields := funext hfields
  obtain rfl : kind = b.kind := hkind
  obtain rfl : hop = b.hopExtras := hextras .hop
  obtain rfl : body = b.bodyExtras := hextras .body
  obtain rfl : suite = b.suiteExtras := hextras .suite
  rfl

/-! ## Tables -/

/-- The types that have a slot in a zone. -/
def knownTypes (kind : MessageKind) (zone : Zone) : List UInt16 := (slots kind zone).map Slot.type

/-- The fields that belong to no zone. -/
def outerFields : List Field := [.fixedHeader, .hopLimit, .returnCode, .cryptoSuite, .signature]

variable {kind : MessageKind} {zone zone' : Zone} {slot slot' : Slot} {f : Field}

theorem eq_of_type (hs : slot ∈ slots kind zone) (hs' : slot' ∈ slots kind zone)
    (h : slot.type = slot'.type) : slot = slot' := by
  have table : ∀ s ∈ slots kind zone, ∀ s' ∈ slots kind zone, s.type = s'.type → s = s' := by
    cases kind <;> cases zone <;> decide
  exact table slot hs slot' hs' h

theorem eq_of_field (hs : slot ∈ slots kind zone) (hs' : slot' ∈ slots kind zone)
    (hf : f ∈ slot.fields) (hf' : f ∈ slot'.fields) : slot = slot' := by
  have table : ∀ s ∈ slots kind zone, ∀ s' ∈ slots kind zone, ∀ f ∈ s.fields, f ∈ s'.fields →
      s = s' := by
    cases kind <;> cases zone <;> decide
  exact table slot hs slot' hs' f hf hf'

/-- No field belongs to two zones. -/
theorem zone_eq_of_field (hs : slot ∈ slots kind zone) (hs' : slot' ∈ slots kind zone')
    (hf : f ∈ slot.fields) (hf' : f ∈ slot'.fields) : zone = zone' := by
  have table : zone ≠ zone' → ∀ s ∈ slots kind zone, ∀ s' ∈ slots kind zone', ∀ f ∈ s.fields,
      f ∉ s'.fields := by
    cases kind <;> cases zone <;> cases zone' <;> decide
  by_contra hne
  exact table hne slot hs slot' hs' f hf hf'

theorem not_mem_outerFields (hs : slot ∈ slots kind zone) (hf : f ∈ slot.fields) :
    f ∉ outerFields := by
  have table : ∀ s ∈ slots kind zone, ∀ f ∈ s.fields, f ∉ outerFields := by
    cases kind <;> cases zone <;> decide
  exact table slot hs f hf

theorem not_mem_of_outer {fields : List Field} (hs : slot ∈ slots kind zone)
    (hsub : fields ⊆ outerFields) : ∀ f ∈ slot.fields, f ∉ fields :=
  fun _ hf hmem => not_mem_outerFields hs hf (hsub hmem)

/-- The fields of a key are told in the suite. -/
theorem mem_slots_of_key (hs : slot ∈ keySlots) : slot ∈ slots kind .suite :=
  List.mem_append_left _ hs

theorem nodup_fields (hs : slot ∈ slots kind zone) : slot.fields.Nodup := by
  have table : ∀ s ∈ slots kind zone, s.fields.Nodup := by
    cases kind <;> cases zone <;> decide
  exact table slot hs

theorem nodup_types (kind : MessageKind) (zone : Zone) : (knownTypes kind zone).Nodup := by
  cases kind <;> cases zone <;> decide

theorem proper_of_mem (hs : slot ∈ slots kind zone) : slot.Proper := by
  have table : ∀ s ∈ slots kind zone, s.form = .link → s.field = .keyName := by
    cases kind <;> cases zone <;> decide
  exact table slot hs

theorem slotOf?_eq_some_iff {type : UInt16} :
    slotOf? kind zone type = some slot ↔ slot ∈ slots kind zone ∧ slot.type = type := by
  constructor
  · intro h
    exact ⟨List.mem_of_find?_eq_some h, by simpa using List.find?_some h⟩
  · rintro ⟨hslot, rfl⟩
    obtain ⟨found, hfound⟩ : ∃ found, slotOf? kind zone slot.type = some found := by
      apply Option.isSome_iff_exists.mp
      rw [slotOf?, List.find?_isSome]
      exact ⟨slot, hslot, by simp⟩
    have htype : found.type = slot.type := by simpa using List.find?_some hfound
    rw [hfound, eq_of_type (List.mem_of_find?_eq_some hfound) hslot htype]

theorem slotOf?_eq_none_iff {type : UInt16} :
    slotOf? kind zone type = none ↔ type ∉ knownTypes kind zone := by
  simp [slotOf?, knownTypes]

/-! ## Reading -/

/-- What the elements of a zone are like: no known type occurs twice, and each value is one that
its slot can hold. -/
structure Zone.Accepts (kind : MessageKind) (zone : Zone) (ts : List Tlv) : Prop where
  once : Tlv.Once (knownTypes kind zone) ts
  values : ∀ slot ∈ slots kind zone, ∀ t ∈ ts, t.type = slot.type → slot.form.Accepts t.value

/-- The elements that have no slot. -/
def Zone.unknown (kind : MessageKind) (zone : Zone) (ts : List Tlv) : List Tlv :=
  ts.filter fun t => (slotOf? kind zone t.type).isNone

theorem Zone.unknown_eq (kind : MessageKind) (zone : Zone) (ts : List Tlv) :
    zone.unknown kind ts = ts.filter fun t => !(knownTypes kind zone).contains t.type := by
  refine List.filter_congr fun t _ => ?_
  rw [Bool.eq_iff_iff, Option.isNone_iff_eq_none, slotOf?_eq_none_iff]
  simp

theorem Zone.mem_unknown {ts : List Tlv} {t : Tlv} :
    t ∈ zone.unknown kind ts ↔ t ∈ ts ∧ t.type ∉ knownTypes kind zone := by
  rw [Zone.unknown_eq, List.mem_filter]
  simp

/-- The value of a slot's element is one that the slot can hold. -/
theorem Zone.Accepts.value {ts : List Tlv} (h : Zone.Accepts kind zone ts)
    (hs : slot ∈ slots kind zone) : ∀ b ∈ Tlv.valueOf? ts slot.type, slot.form.Accepts b :=
  fun _ hb => h.values slot hs _ (Tlv.mem_of_valueOf? hb) rfl

/-- A message with what the elements of a zone tell. -/
def Message.withZone (m : Message) (zone : Zone) (ts : List Tlv) : Message :=
  { (zone.unknown m.kind ts).foldl (fun m t => m.addExtra zone t) m with
    fields := fun f =>
      match (slots m.kind zone).find? fun slot => f ∈ slot.fields with
      | some slot => (Tlv.valueOf? ts slot.type).bind fun b => slot.value? b f
      | none => m.fields f }

/-- Nothing was read into the slots of a zone. -/
def Message.Fresh (m : Message) (zone : Zone) : Prop :=
  ∀ slot ∈ slots m.kind zone, slot.Reads none m

namespace Message

variable {m : Message} {ts : List Tlv} {t : Tlv}

theorem addExtra_foldl (m : Message) (zone : Zone) (ts : List Tlv) :
    (ts.foldl (fun m t => m.addExtra zone t) m).kind = m.kind ∧
      (ts.foldl (fun m t => m.addExtra zone t) m).fields = m.fields ∧
      ∀ z, (ts.foldl (fun m t => m.addExtra zone t) m).extras z =
        if z = zone then m.extras z ++ ts else m.extras z := by
  induction ts generalizing m with
  | nil => exact ⟨rfl, rfl, fun z => by simp⟩
  | cons t ts ih =>
    obtain ⟨hkind, hfields, hextras⟩ := ih (m.addExtra zone t)
    have hadd : (m.addExtra zone t).kind = m.kind ∧ (m.addExtra zone t).fields = m.fields := by
      cases zone <;> exact ⟨rfl, rfl⟩
    rw [List.foldl_cons]
    refine ⟨hkind.trans hadd.1, hfields.trans hadd.2, fun z => ?_⟩
    rw [hextras, extras_addExtra]
    split
    · rw [List.append_assoc]; rfl
    · rfl

@[simp] theorem kind_withZone (m : Message) (zone : Zone) (ts : List Tlv) :
    (m.withZone zone ts).kind = m.kind := (addExtra_foldl m zone _).1

theorem extras_withZone (m : Message) (zone z : Zone) (ts : List Tlv) :
    (m.withZone zone ts).extras z =
      if z = zone then m.extras z ++ zone.unknown m.kind ts else m.extras z := by
  rw [← (addExtra_foldl m zone (zone.unknown m.kind ts)).2.2 z]
  cases z <;> rfl

/-- A slot of the zone holds what its element tells. -/
theorem reads_withZone (hs : slot ∈ slots m.kind zone) :
    slot.Reads (Tlv.valueOf? ts slot.type) (m.withZone zone ts) := by
  intro f hf
  obtain ⟨found, hfound⟩ :
      ∃ found, (slots m.kind zone).find? (fun slot => f ∈ slot.fields) = some found := by
    apply Option.isSome_iff_exists.mp
    rw [List.find?_isSome]
    exact ⟨slot, hs, by simpa using hf⟩
  have hmem : f ∈ found.fields := by simpa using List.find?_some hfound
  obtain rfl := eq_of_field (List.mem_of_find?_eq_some hfound) hs hmem hf
  simp only [withZone, hfound]

theorem fields_withZone (h : ∀ slot ∈ slots m.kind zone, f ∉ slot.fields) :
    (m.withZone zone ts).fields f = m.fields f := by
  have hnone : (slots m.kind zone).find? (fun slot => f ∈ slot.fields) = none := by
    simpa using h
  simp only [withZone, hnone]

/-- A message is known when its slots of one zone and all else are. -/
theorem eq_withZone {m' : Message} (hkind : m'.kind = m.kind)
    (hslots : ∀ slot ∈ slots m.kind zone, slot.Reads (Tlv.valueOf? ts slot.type) m')
    (hfields : ∀ f, (∀ slot ∈ slots m.kind zone, f ∉ slot.fields) → m'.fields f = m.fields f)
    (hextras : ∀ z, m'.extras z =
      if z = zone then m.extras z ++ zone.unknown m.kind ts else m.extras z) :
    m' = m.withZone zone ts := by
  refine eq_of (hkind.trans (kind_withZone m zone ts).symm) (fun f => ?_)
    fun z => (hextras z).trans (extras_withZone m zone z ts).symm
  by_cases hf : ∃ slot ∈ slots m.kind zone, f ∈ slot.fields
  · obtain ⟨slot, hs, hf⟩ := hf
    rw [hslots slot hs f hf, reads_withZone hs f hf]
  · have hf : ∀ slot ∈ slots m.kind zone, f ∉ slot.fields :=
      fun slot hs hmem => hf ⟨slot, hs, hmem⟩
    rw [hfields f hf, fields_withZone hf]

theorem withZone_nil (h : m.Fresh zone) : m.withZone zone [] = m := by
  have hslots : ∀ slot ∈ slots m.kind zone, slot.Reads (Tlv.valueOf? [] slot.type) m := h
  exact (eq_withZone rfl hslots (fun _ _ => rfl) fun z => by simp [Zone.unknown]).symm

end Message

theorem Zone.accepts_concat_iff {ts : List Tlv} {t : Tlv} :
    Zone.Accepts kind zone (ts ++ [t]) ↔ Zone.Accepts kind zone ts ∧
      ∀ slot, slotOf? kind zone t.type = some slot →
        Tlv.valueOf? ts slot.type = none ∧ slot.form.Accepts t.value := by
  constructor
  · rintro ⟨honce, hvalues⟩
    obtain ⟨honce, hnew⟩ := Tlv.once_concat_iff.mp honce
    refine ⟨⟨honce, fun slot hs u hu => hvalues slot hs u (List.mem_append_left _ hu)⟩, ?_⟩
    intro slot hslot
    obtain ⟨hs, htype⟩ := slotOf?_eq_some_iff.mp hslot
    rw [htype]
    exact ⟨hnew (htype ▸ List.mem_map_of_mem hs),
      hvalues slot hs t (List.mem_append_right _ List.mem_cons_self) htype.symm⟩
  · rintro ⟨⟨honce, hvalues⟩, hnew⟩
    constructor
    · refine Tlv.once_concat_iff.mpr ⟨honce, fun htype => ?_⟩
      obtain ⟨slot, hs, htype⟩ := List.mem_map.mp htype
      exact htype ▸ (hnew slot (slotOf?_eq_some_iff.mpr ⟨hs, htype⟩)).1
    · intro slot hs u hu htype
      rcases List.mem_append.mp hu with hu | hu
      · exact hvalues slot hs u hu htype
      · obtain rfl := List.mem_singleton.mp hu
        exact (hnew slot (slotOf?_eq_some_iff.mpr ⟨hs, htype.symm⟩)).2

namespace Message

variable {m m' : Message} {ts : List Tlv} {t : Tlv}

/-- Before and after an element a slot of another type holds the same. -/
theorem valueOf?_concat_of_ne {type : UInt16} (h : t.type ≠ type) :
    Tlv.valueOf? (ts ++ [t]) type = Tlv.valueOf? ts type := by
  rw [Tlv.valueOf?_append, Tlv.valueOf?_singleton, if_neg h, Option.or_none]

theorem valueOf?_concat_of_none (h : Tlv.valueOf? ts t.type = none) :
    Tlv.valueOf? (ts ++ [t]) t.type = some t.value := by
  rw [Tlv.valueOf?_append, h, Option.none_or, Tlv.valueOf?_singleton, if_pos rfl]

theorem addExtra_withZone (h : slotOf? m.kind zone t.type = none) :
    (m.withZone zone ts).addExtra zone t = m.withZone zone (ts ++ [t]) := by
  have hne : ∀ slot ∈ slots m.kind zone, t.type ≠ slot.type := fun slot hs htype =>
    slotOf?_eq_none_iff.mp h (htype ▸ List.mem_map_of_mem hs)
  have hfields : ((m.withZone zone ts).addExtra zone t).fields = (m.withZone zone ts).fields := by
    cases zone <;> rfl
  refine eq_withZone ?_ ?_ ?_ ?_
  · rw [← kind_withZone m zone ts]
    cases zone <;> rfl
  · intro slot hs f hf
    rw [hfields, reads_withZone hs f hf, valueOf?_concat_of_ne (hne slot hs)]
  · intro f hf
    rw [hfields, fields_withZone hf]
  · intro z
    rw [extras_addExtra, extras_withZone]
    split
    · simp [Zone.unknown, h]
    · rfl

theorem fill_withZone (h : slotOf? m.kind zone t.type = some slot)
    (hnone : Tlv.valueOf? ts slot.type = none) :
    (m.withZone zone ts).fill slot t.value = m.withZone zone (ts ++ [t]) := by
  obtain ⟨hslot, htype⟩ := slotOf?_eq_some_iff.mp h
  have hextras : ∀ z, ((m.withZone zone ts).fill slot t.value).extras z =
      (m.withZone zone ts).extras z := by
    intro z
    cases z <;> rfl
  refine eq_withZone (kind_withZone m zone ts) ?_ ?_ ?_
  · intro slot' hs' f hf
    change (if f ∈ slot.fields then slot.value? t.value f else (m.withZone zone ts).fields f) = _
    by_cases hmem : f ∈ slot.fields
    · obtain rfl := eq_of_field hs' hslot hf hmem
      rw [if_pos hmem, htype, valueOf?_concat_of_none (htype ▸ hnone), Option.bind_some]
    · have hne : t.type ≠ slot'.type := fun heq =>
        hmem (eq_of_type hslot hs' (htype.trans heq) ▸ hf)
      rw [if_neg hmem, reads_withZone hs' f hf, valueOf?_concat_of_ne hne]
  · intro f hf
    change (if f ∈ slot.fields then slot.value? t.value f else (m.withZone zone ts).fields f) = _
    rw [if_neg (hf slot hslot), fields_withZone hf]
  · intro z
    rw [hextras, extras_withZone]
    split
    · simp [Zone.unknown, h]
    · rfl

/-- One element more: it is taken in when the sequence with it is acceptable. -/
theorem take_withZone_eq_ok_iff (h : Zone.Accepts m.kind zone ts) :
    Message.take zone (m.withZone zone ts) t = .ok m' ↔
      Zone.Accepts m.kind zone (ts ++ [t]) ∧ m' = m.withZone zone (ts ++ [t]) := by
  rw [Zone.accepts_concat_iff, and_iff_right h, Message.take, kind_withZone]
  cases hslot : slotOf? m.kind zone t.type with
  | none =>
    simp only [Except.ok.injEq, addExtra_withZone hslot]
    constructor
    · rintro rfl; exact ⟨nofun, rfl⟩
    · rintro ⟨-, rfl⟩; rfl
  | some slot =>
    obtain ⟨hs, htype⟩ := slotOf?_eq_some_iff.mp hslot
    -- The field is empty as long as no element of the slot's type was met.
    have hreads : slot.Reads (Tlv.valueOf? ts slot.type) (m.withZone zone ts) := reads_withZone hs
    have hfield : (m.withZone zone ts).fields slot.field = none ↔
        Tlv.valueOf? ts slot.type = none := by
      rw [hreads.field, Option.map_eq_none_iff]
    have hempty : (m.withZone zone ts).fields slot.field = none →
        ∀ f ∈ slot.fields, (m.withZone zone ts).fields f = none := by
      intro hnone f hf
      rw [hreads f hf, hfield.mp hnone, Option.bind_none]
    rw [Slot.load_eq_ok_iff (nodup_fields hs) hempty, hfield]
    constructor
    · rintro ⟨hnone, haccepts, rfl⟩
      refine ⟨fun slot' hslot' => ?_, fill_withZone hslot hnone⟩
      cases hslot'
      exact ⟨hnone, haccepts⟩
    · rintro ⟨hnew, rfl⟩
      obtain ⟨hnone, haccepts⟩ := hnew slot rfl
      exact ⟨hnone, haccepts, (fill_withZone hslot hnone).symm⟩

theorem foldlM_take_eq_ok_iff (h : m.Fresh zone) :
    ts.foldlM (Message.take zone) m = .ok m' ↔
      Zone.Accepts m.kind zone ts ∧ m' = m.withZone zone ts := by
  -- The invariant of the loop: what was met so far is accepted, and the message is the one with it.
  have hfold : ts.foldlM (Message.take zone) (m.withZone zone []) = .ok m' ↔
      Zone.Accepts m.kind zone ts ∧ m' = m.withZone zone ts :=
    Tlv.foldlM_eq_ok_iff (m.withZone zone) (Zone.Accepts m.kind zone) ⟨Tlv.once_nil _, nofun⟩
      (fun ts t hts => (Zone.accepts_concat_iff.mp hts).1)
      fun ts t s' hts => take_withZone_eq_ok_iff hts
  rwa [withZone_nil h] at hfold

/-- A zone is read when its bytes are a sequence of elements that its table accepts. -/
theorem result_read_take_eq_ok_iff {b : Bytes} (h : m.Fresh zone) :
    (Tlv.read (Message.take zone) m b).result id = .ok m' ↔
      ∃ ts, (∀ t ∈ ts, t.Fits) ∧ b = Tlv.concat ts ∧ Zone.Accepts m.kind zone ts ∧
        m' = m.withZone zone ts := by
  simp only [Tlv.result_read_eq_ok_iff, foldlM_take_eq_ok_iff h]

end Message

theorem Part.result_ofReading (r : Tlv.Reading DecodeError Message) :
    (Part.ofReading r).result = r.result id := by
  have hstate : ∀ m, r.result id = .ok m → r.state = m := by
    intro m h
    unfold Tlv.Reading.result at h
    split at h <;> cases h
    rfl
  unfold Part.ofReading Part.result
  cases hr : r.result id with
  | error e => rfl
  | ok m => exact congrArg Except.ok (hstate m hr)

theorem Part.result_ofZone_eq_ok_iff {m m' : Message} {b : Bytes} (h : m.Fresh zone) :
    (Part.ofZone zone m b).result = .ok m' ↔
      ∃ ts, (∀ t ∈ ts, t.Fits) ∧ b = Tlv.concat ts ∧ Zone.Accepts m.kind zone ts ∧
        m' = m.withZone zone ts := by
  rw [Part.ofZone, Part.result_ofReading, Message.result_read_take_eq_ok_iff h]

/-! ## Writing -/

/-- The elements in which a message is written in a zone. -/
def Message.elements (m : Message) (zone : Zone) : List Tlv :=
  (slots m.kind zone).filterMap (fun slot => slot.element? m) ++ m.extras zone

/-- Every slot of a zone can be written, as far as it depends on the kinds of the values. -/
def Message.Writable (m : Message) (zone : Zone) : Prop :=
  ∀ slot ∈ slots m.kind zone, slot.Writable m

theorem writes_emitSlots (m : Message) (table : List Slot) :
    (emitSlots m table).Writes
      ((∀ slot ∈ table, slot.Writable m) ∧
        ∀ t ∈ table.filterMap fun slot => slot.element? m, t.Fits)
      (Tlv.concat (table.filterMap fun slot => slot.element? m)) := by
  induction table with
  | nil => exact Emit.writes_done.of_eq (by simp) rfl rfl
  | cons slot rest ih =>
    have hcons : (slot :: rest).filterMap (fun slot => slot.element? m) =
        (slot.element? m).toList ++ rest.filterMap fun slot => slot.element? m := by
      rw [List.filterMap_cons]
      cases slot.element? m <;> rfl
    have hrun := (slot.writes_emit m).seq ih
    rw [← Tlv.concat_append, ← hcons] at hrun
    refine hrun.of_eq ?_ rfl rfl
    rw [hcons, List.forall_mem_cons, List.forall_mem_append]
    simp only [Option.mem_toList, Option.mem_def]
    constructor
    · rintro ⟨⟨h1, h2⟩, h3, h4⟩; exact ⟨⟨h1, h3⟩, h2, h4⟩
    · rintro ⟨⟨h1, h3⟩, h2, h4⟩; exact ⟨⟨h1, h2⟩, h3, h4⟩

/-- A zone is written as the elements of its slots and the rest. -/
theorem writes_emitZone (m : Message) (zone : Zone) :
    (m.emitZone zone).Writes (m.Writable zone ∧ ∀ t ∈ m.elements zone, t.Fits)
      (Tlv.concat (m.elements zone)) := by
  have hrun := (writes_emitSlots m (slots m.kind zone)).seq (Emit.writes_elements (m.extras zone))
  rw [← Tlv.concat_append] at hrun
  refine hrun.of_eq ?_ rfl rfl
  rw [Message.elements, List.forall_mem_append, Message.Writable, and_assoc]

/-! ## Elements of a message -/

theorem Slot.type_of_element? {m : Message} {t : Tlv}
    (h : slot.element? m = some t) : t.type = slot.type ∧ slot.content? m = some t.value := by
  obtain ⟨b, hb, rfl⟩ := Option.map_eq_some_iff.mp h
  exact ⟨rfl, hb⟩

theorem types_sublist (m : Message) (table : List Slot) :
    ((table.filterMap fun slot => slot.element? m).map Tlv.type).Sublist (table.map Slot.type) := by
  induction table with
  | nil => exact .slnil
  | cons slot rest ih =>
    cases h : slot.element? m with
    | none =>
      rw [List.filterMap_cons, h]
      exact ih.cons slot.type
    | some t =>
      rw [List.filterMap_cons, h, List.map_cons, List.map_cons, (Slot.type_of_element? h).1]
      exact ih.cons_cons slot.type

namespace Message

variable {m : Message}

section Elements

variable (hextras : ∀ t ∈ m.extras zone, t.type ∉ knownTypes m.kind zone)

include hextras

theorem once_elements : Tlv.Once (knownTypes m.kind zone) (m.elements zone) := by
  intro type htype
  have hslots :
      Tlv.countOf ((slots m.kind zone).filterMap fun slot => slot.element? m) type ≤ 1 := by
    rw [Tlv.countOf_eq_count]
    exact List.nodup_iff_count.mp
      ((types_sublist m _).nodup (nodup_types m.kind zone)) type
  -- What is kept beside the slots adds no element of a known type.
  have hothers : Tlv.countOf (m.extras zone) type = 0 := by
    rw [Tlv.countOf_eq_zero_iff, Tlv.valueOf?_eq_none_iff]
    rintro t ht rfl
    exact hextras t ht htype
  rw [elements, Tlv.countOf_append, hothers]
  exact hslots

/-- A slot's element has the value in which the slot is written. -/
theorem valueOf?_elements (hs : slot ∈ slots m.kind zone) :
    Tlv.valueOf? (m.elements zone) slot.type = slot.content? m := by
  have htype : slot.type ∈ knownTypes m.kind zone := List.mem_map_of_mem hs
  cases h : slot.content? m with
  | some b =>
    have hmem : ⟨slot.type, b⟩ ∈ m.elements zone := by
      refine List.mem_append_left _ (List.mem_filterMap.mpr ⟨slot, hs, ?_⟩)
      rw [Slot.element?, h]
      rfl
    exact Tlv.valueOf?_of_mem (once_elements hextras slot.type htype) hmem
  | none =>
    rw [Tlv.valueOf?_eq_none_iff]
    intro t ht heq
    rcases List.mem_append.mp ht with ht | ht
    · obtain ⟨slot', hs', ht⟩ := List.mem_filterMap.mp ht
      obtain ⟨htype', hcontent⟩ := Slot.type_of_element? ht
      obtain rfl := eq_of_type hs' hs (htype'.symm.trans heq)
      rw [h] at hcontent
      cases hcontent
    · exact hextras t ht (heq ▸ htype)

theorem unknown_elements : zone.unknown m.kind (m.elements zone) = m.extras zone := by
  rw [Zone.unknown, elements, List.filter_append, List.filter_eq_nil_iff.mpr, List.nil_append,
    List.filter_eq_self.mpr]
  · intro t ht
    rw [slotOf?_eq_none_iff.mpr (hextras t ht)]
    rfl
  · intro t ht
    obtain ⟨slot, hs, ht⟩ := List.mem_filterMap.mp ht
    rw [slotOf?_eq_some_iff.mpr ⟨hs, (Slot.type_of_element? ht).1.symm⟩]
    simp

/-- What is written from well-shaped fields is what the table accepts. -/
theorem accepts_elements (hslots : ∀ slot ∈ slots m.kind zone, slot.Shaped m)
    (hfits : ∀ t ∈ m.elements zone, t.Fits) : Zone.Accepts m.kind zone (m.elements zone) := by
  refine ⟨once_elements hextras, fun slot hs t ht htype => ?_⟩
  have hvalue : slot.content? m = some t.value := by
    have hcount := once_elements hextras t.type (htype ▸ List.mem_map_of_mem hs)
    rw [← valueOf?_elements hextras hs, ← htype, Tlv.valueOf?_of_mem hcount ht]
  refine ((hslots slot hs).reads (proper_of_mem hs) fun u hu => hfits u ?_).1 _ hvalue
  exact List.mem_append_left _ (List.mem_filterMap.mpr ⟨slot, hs, hu⟩)

end Elements

/-- A zone of which nothing was read, and without other elements, is not written. -/
theorem elements_eq_nil (h : m.Fresh zone)
    (hextras : m.extras zone = []) : m.elements zone = [] := by
  rw [elements, hextras, List.append_nil, List.filterMap_eq_nil_iff]
  intro slot hs
  have hcontent : slot.content? m = none :=
    (h slot hs).content? (proper_of_mem hs) fun b hb => by cases hb
  rw [Slot.element?, hcontent]
  rfl

end Message

end NamedContent
