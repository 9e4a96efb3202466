import NamedContent.Packet.Slot
import NamedContent.Proofs.Names
import NamedContent.Proofs.Numbers

/-!
# What a slot reads and writes

One specification for each form of a value. `Form.Accepts` says which values an element may have,
`Slot.value?` what such a value tells about the fields of the slot, and `Slot.content?` with which
value a message is written there.

* `Slot.load_eq_ok_iff`: what reading an element does to a message.
* `Slot.writes_emit`: what writing a slot emits, and when it can be written.
-/

namespace NamedContent

/-! ## Reading -/

/-- Whether an element of this form may have a value. -/
def Form.Accepts : Form → Bytes → Prop
  | .lifetime, b => 1 ≤ b.length ∧ b.length ≤ 8
  | .time, b => b.length = 8
  | .name _, b => Name.IsWire b
  | .link, b => Link.IsWire b
  | .optional, _ | .strict, _ | .number, _ | .octet, _ | .payload _, _ => True

/-- What a field holds after an element with a given value was read. A number stays in bytes where
it is not written in its shortest form. -/
def Form.value : Form → Bytes → Value
  | .optional, b | .strict, b => .bytes b
  | .number, b | .lifetime, b => ((Bytes.minimal? b).map Value.int).getD (.bytes b)
  | .time, b => .int (UInt64.ofNat (Bytes.toNat b))
  | .octet, [x] => .int x.toUInt64
  | .octet, b => .bytes b
  | .name _, b => .name (Name.denoted b)
  | .payload json, b => if json then .json b else .bytes b
  | .link, b => .name (Link.denoted b).name

/-- The fields that the element of a slot tells about. -/
def Slot.fields (slot : Slot) : List Field :=
  if slot.form = .link then [slot.field, .keyNameKeyId, .keyNameContentHash] else [slot.field]

/-- What the value of a slot's element tells about one of its fields. -/
def Slot.value? (slot : Slot) (b : Bytes) (field : Field) : Option Value :=
  if field = slot.field then some (slot.form.value b)
  else if field = .keyNameKeyId then (Link.denoted b).keyId.map .bytes
  else (Link.denoted b).contentHash.map .bytes

/-- A message with the fields of a slot as the value of its element tells. -/
def Message.fill (m : Message) (slot : Slot) (b : Bytes) : Message :=
  { m with fields := fun f => if f ∈ slot.fields then slot.value? b f else m.fields f }

theorem Slot.field_mem_fields (slot : Slot) : slot.field ∈ slot.fields := by
  unfold Slot.fields
  split <;> exact List.mem_cons_self

theorem Slot.value?_field (slot : Slot) (b : Bytes) :
    slot.value? b slot.field = some (slot.form.value b) := if_pos rfl

/-- The values that an accepted element gives to fields, as they are set. -/
def Form.entries (form : Form) (field : Field) (b : Bytes) : List (Field × Value) :=
  (field, form.value b) ::
    if form = .link then
      ((Link.denoted b).keyId.map fun k => (Field.keyNameKeyId, Value.bytes k)).toList ++
        ((Link.denoted b).contentHash.map fun h => (Field.keyNameContentHash, Value.bytes h)).toList
    else []

theorem toUInt64?_of_length {b : Bytes} (h : 1 ≤ b.length ∧ b.length ≤ 8) :
    Bytes.toUInt64? b = some (UInt64.ofNat (Bytes.toNat b)) := by
  cases b with
  | nil => simp at h
  | cons x rest => simpa [Bytes.toUInt64?] using h.2

theorem toUInt64?_eq_none {b : Bytes} (h : ¬ (1 ≤ b.length ∧ b.length ≤ 8)) :
    Bytes.toUInt64? b = none := by
  cases b with
  | nil => rfl
  | cons x rest => simpa [Bytes.toUInt64?] using h

/-- A number is read as such where it is in its shortest form. -/
theorem number_value {b : Bytes} (h : b.length ≤ 8) :
    (if Bytes.isMinimal b then Value.int (UInt64.ofNat (Bytes.toNat b)) else .bytes b) =
      ((Bytes.minimal? b).map Value.int).getD (.bytes b) := by
  unfold Bytes.minimal?
  by_cases hmin : Bytes.isMinimal b = true <;> simp [hmin, h]

theorem minimal?_eq_none {b : Bytes} (h : ¬ (1 ≤ b.length ∧ b.length ≤ 8)) :
    Bytes.minimal? b = none := by
  unfold Bytes.minimal?
  rw [if_neg]
  rintro ⟨hmin, hlen⟩
  cases b with
  | nil => cases hmin
  | cons x rest => exact h ⟨by simp, hlen⟩

namespace Form

/-- A value that the form accepts is read. -/
theorem read_of_accepts {form : Form} {field : Field} {t : Tlv} (h : form.Accepts t.value) :
    form.read field t = .ok (form.entries field t.value) := by
  obtain ⟨type, b⟩ := t
  cases form with
  | optional => rfl
  | strict => rfl
  | number =>
    by_cases hlen : 1 ≤ b.length ∧ b.length ≤ 8
    · simp [read, entries, value, toUInt64?_of_length hlen, number_value hlen.2]
    · simp [read, entries, value, toUInt64?_eq_none hlen, minimal?_eq_none hlen]
  | lifetime =>
    have hlen : 1 ≤ b.length ∧ b.length ≤ 8 := h
    simp [read, entries, value, toUInt64?_of_length hlen, number_value hlen.2]
  | time =>
    have hlen : b.length = 8 := h
    simp [read, entries, value, hlen]
  | octet =>
    cases b with
    | nil => rfl
    | cons x rest => cases rest <;> rfl
  | name required =>
    rw [read, Name.ofWire_eq_ok_iff.mpr ⟨h, rfl⟩]
    rfl
  | payload json => rfl
  | link =>
    rw [read, Link.ofWire_eq_ok_iff.mpr ⟨h, rfl⟩]
    rfl

/-- A value that is read is one that the form accepts. -/
theorem accepts_of_read {form : Form} {field : Field} {t : Tlv} {entries : List (Field × Value)}
    (h : form.read field t = .ok entries) : form.Accepts t.value := by
  obtain ⟨type, b⟩ := t
  cases form with
  | optional => trivial
  | strict => trivial
  | number => trivial
  | lifetime =>
    by_contra hlen
    simp [read, toUInt64?_eq_none hlen] at h
  | time =>
    by_contra hlen
    have hlen : b.length ≠ 8 := hlen
    simp [read, hlen] at h
  | octet => trivial
  | name required =>
    cases hw : Name.ofWire b with
    | error e => simp [read, hw, Except.map] at h
    | ok name => exact (Name.ofWire_eq_ok_iff.mp hw).1
  | payload json => trivial
  | link =>
    cases hw : Link.ofWire b with
    | error e => simp [read, hw, Except.map] at h
    | ok link => exact (Link.ofWire_eq_ok_iff.mp hw).1

end Form

/-- Setting the values of an element fills the fields of the slot, of which none held anything. -/
theorem Slot.foldl_set_entries {slot : Slot} (hfields : slot.fields.Nodup) {m : Message}
    (hempty : ∀ f ∈ slot.fields, m.fields f = none) (b : Bytes) :
    (slot.form.entries slot.field b).foldl (fun m entry => m.set entry.1 entry.2) m =
      m.fill slot b := by
  obtain ⟨field, type, form⟩ := slot
  by_cases hlink : form = .link
  · subst hlink
    have hnotin : field ≠ .keyNameKeyId ∧ field ≠ .keyNameContentHash := by
      simpa [Slot.fields] using hfields
    have hkey := hempty .keyNameKeyId (by simp [Slot.fields])
    have hhash := hempty .keyNameContentHash (by simp [Slot.fields])
    unfold Message.fill
    simp only [Form.entries, if_true, List.foldl_cons, List.foldl_append]
    -- A restriction that is missing is not set, and its field was empty before.
    cases h1 : (Link.denoted b).keyId <;> cases h2 : (Link.denoted b).contentHash <;>
      (simp only [Message.set, Slot.fields, Slot.value?, h1, h2, Option.map_none, Option.map_some,
        Option.toList_none, Option.toList_some, List.foldl_cons, List.foldl_nil]
       congr 1
       funext f
       by_cases hf : f = .keyNameKeyId
       · subst hf; simp [hnotin.1.symm, hkey]
       · by_cases hf' : f = .keyNameContentHash
         · subst hf'; simp [hnotin.2.symm, hhash]
         · by_cases hf'' : f = field <;> simp [hf, hf', hf'', hnotin.1, hnotin.2])
  · simp only [Form.entries, Message.fill, Slot.fields, hlink, if_false, List.foldl_cons,
      List.foldl_nil, Message.set, List.mem_singleton]
    congr 1
    funext f
    by_cases hf : f = field <;> simp [hf, Slot.value?]

/-- An element is read into a slot that nothing was read into before. -/
theorem Slot.load_eq_ok_iff {slot : Slot} (hfields : slot.fields.Nodup) {m m' : Message} {t : Tlv}
    (hempty : m.fields slot.field = none → ∀ f ∈ slot.fields, m.fields f = none) :
    slot.load m t = .ok m' ↔
      m.fields slot.field = none ∧ slot.form.Accepts t.value ∧ m' = m.fill slot t.value := by
  unfold Slot.load
  constructor
  · intro h
    split at h
    · cases h
    · next entries hread =>
      have haccepts := Form.accepts_of_read hread
      rw [Form.read_of_accepts haccepts] at hread
      cases hread
      split at h
      · cases h
      · next hnone =>
        have hnone : m.fields slot.field = none := by simpa [Message.contains] using hnone
        cases h
        exact ⟨hnone, haccepts, Slot.foldl_set_entries hfields (hempty hnone) t.value⟩
  · rintro ⟨hnone, haccepts, rfl⟩
    have hcontains : m.contains slot.field = false := by simp [Message.contains, hnone]
    rw [Form.read_of_accepts haccepts]
    simp only [hcontains, Bool.false_eq_true, if_false]
    rw [Slot.foldl_set_entries hfields (hempty hnone)]

/-! ## Writing -/

/-- The value of the element in which a value is written, if it is. -/
def Form.written? : Form → Value → Option Bytes
  | .optional, .bytes b | .strict, .bytes b | .number, .bytes b | .lifetime, .bytes b
  | .octet, .bytes b | .payload _, .bytes b | .payload _, .json b => some b
  | .number, .int n | .lifetime, .int n => some (Bytes.minimal n)
  | .time, .int n => some (Bytes.ofNat 8 n.toNat)
  | .octet, .int n => some (Bytes.ofNat 1 n.toNat)
  | .name _, .name n => some n.wire
  | .payload _, .scatter s => some s.toBytes
  | _, _ => none

/-- Whether a value can be written, or is left out by design. -/
def Form.Takes : Form → Value → Prop
  | .optional, _ | .time, _ | .name _, _ | .link, _ => True
  | .octet, .int n => n.toNat < 256
  | form, v => (form.written? v).isSome

/-- The value of the element in which a message is written at a slot. A link without any part is
not written. -/
def Slot.content? (slot : Slot) (m : Message) : Option Bytes :=
  if slot.form = .link then (m.keyLink?.filter fun link => !link.isEmpty).map Link.wire
  else (m.fields slot.field).bind slot.form.written?

/-- The element in which a message is written at a slot. -/
def Slot.element? (slot : Slot) (m : Message) : Option Tlv :=
  (slot.content? m).map (Tlv.mk slot.type)

/-- Whether a message can be written at a slot, as far as it depends on the kind of the value. -/
structure Slot.Writable (slot : Slot) (m : Message) : Prop where
  takes : ∀ v, m.fields slot.field = some v → slot.form.Takes v
  name : slot.form = .name true → ∃ n, m.fields slot.field = some (.name n)

namespace Slot

/-- Writing nothing, for want of an element. -/
theorem writes_none : (Emit.done 0).Writes (∀ t ∈ (none : Option Tlv), t.Fits)
    (Tlv.concat (none : Option Tlv).toList) :=
  Emit.writes_done.of_eq (by simp) rfl rfl

theorem writes_some {em : Emit Nat} {t : Tlv} (h : em.Writes t.Fits t.toBytes) :
    em.Writes (∀ u ∈ some t, u.Fits) (Tlv.concat (some t).toList) :=
  h.of_eq (by simp) (by simp) (by simp)

variable {slot : Slot} {m : Message}

/-- The specification of an emission that writes a message at a slot. -/
abbrev WrittenBy (slot : Slot) (m : Message) (em : Emit Nat) : Prop :=
  em.Writes (slot.Writable m ∧ ∀ t ∈ slot.element? m, t.Fits)
    (Tlv.concat (slot.element? m).toList)

/-- Where the value can be written, only the length of the element matters. -/
theorem writtenBy_of_writable {em : Emit Nat} {o : Option Tlv} (hok : slot.Writable m)
    (ho : slot.element? m = o) (h : em.Writes (∀ t ∈ o, t.Fits) (Tlv.concat o.toList)) :
    slot.WrittenBy m em := by
  subst ho
  exact h.of_eq ⟨fun hfits => ⟨hok, hfits⟩, And.right⟩ rfl rfl

theorem writtenBy_fail (e : EncodeError) (hbad : ¬ slot.Writable m) :
    slot.WrittenBy m (Emit.fail e) :=
  (Emit.writes_fail e _).of_eq ⟨False.elim, fun h => hbad h.1⟩ rfl rfl

theorem writtenBy_refuse {v : Value} (hv : m.fields slot.field = some v)
    (hbad : ¬ slot.form.Takes v) : slot.WrittenBy m (slot.refuse (some v)) :=
  writtenBy_fail _ fun h => hbad (h.takes v hv)

/-- An empty field is not written, unless it holds a required name. -/
theorem writtenBy_done (hv : m.fields slot.field = none) (hname : slot.form ≠ .name true)
    (hlink : slot.form ≠ .link) : slot.WrittenBy m (Emit.done 0) :=
  writtenBy_of_writable ⟨by simp [hv], fun h => absurd h hname⟩
    (by simp [element?, content?, hlink, hv]) writes_none

/-- A value that is left out by design. -/
theorem writtenBy_skip {v : Value} (hv : m.fields slot.field = some v)
    (htakes : slot.form.Takes v) (hname : slot.form ≠ .name true) (hlink : slot.form ≠ .link)
    (hnone : slot.form.written? v = none) : slot.WrittenBy m (Emit.done 0) :=
  writtenBy_of_writable ⟨fun w hw => by rw [hv] at hw; cases hw; exact htakes,
    fun h => absurd h hname⟩ (by simp [element?, content?, hlink, hv, hnone]) writes_none

theorem writtenBy_element {v : Value} {b : Bytes} {em : Emit Nat}
    (hv : m.fields slot.field = some v) (htakes : slot.form.Takes v)
    (hname : slot.form = .name true → ∃ n, v = .name n) (hlink : slot.form ≠ .link)
    (hb : slot.form.written? v = some b)
    (h : em.Writes (Tlv.Fits ⟨slot.type, b⟩) (Tlv.toBytes ⟨slot.type, b⟩)) :
    slot.WrittenBy m em := by
  refine writtenBy_of_writable ⟨fun w hw => ?_, fun hform => ?_⟩
    (by simp [element?, content?, hlink, hv, hb]) (writes_some h)
  · rw [hv] at hw
    cases hw
    exact htakes
  · obtain ⟨n, rfl⟩ := hname hform
    exact ⟨n, hv⟩

/-- An empty field is not written; names and links have rules of their own. -/
theorem writes_emit_none (hv : m.fields slot.field = none)
    (hname : ∀ required, slot.form ≠ .name required) (hlink : slot.form ≠ .link) :
    slot.WrittenBy m (slot.emit m) := by
  have hemit : slot.emit m = Emit.done 0 := by
    obtain ⟨field, type, form⟩ := slot
    have hv : m.fields field = none := hv
    cases form with
    | name required => exact absurd rfl (hname required)
    | link => exact absurd rfl hlink
    | _ => simp only [emit, Message.bytes?, Message.int?, hv, emitBytes, refuse]
  rw [hemit]
  exact writtenBy_done hv (hname true) hlink

/-- A value of the right kind is written, one of another kind is left out or refused. -/
theorem writes_emit_some {v : Value} (hv : m.fields slot.field = some v)
    (hname : ∀ required, slot.form ≠ .name required) (hlink : slot.form ≠ .link) :
    slot.WrittenBy m (slot.emit m) := by
  -- Whether a value of another kind is left out or refused is up to the form.
  obtain ⟨field, type, form⟩ := slot
  have hv : m.fields field = some v := hv
  have hrequired := hname true
  have hnamed : form = .name true → ∃ n, v = .name n := fun h => absurd h hrequired
  cases form with
  | optional =>
    cases v with
    | bytes b =>
      simp only [emit, Message.bytes?, hv, emitBytes]
      exact writtenBy_element hv trivial hnamed hlink rfl (Emit.writes_element ⟨type, b⟩)
    | _ =>
      simp only [emit, Message.bytes?, hv, emitBytes]
      exact writtenBy_skip hv trivial hrequired hlink rfl
  | strict =>
    cases v with
    | bytes b =>
      simp only [emit, hv]
      exact writtenBy_element hv rfl hnamed hlink rfl (Emit.writes_element ⟨type, b⟩)
    | _ =>
      simp only [emit, hv]
      exact writtenBy_refuse hv (by simp [Form.Takes, Form.written?])
  | number | lifetime =>
    cases v with
    | int n =>
      simp only [emit, hv]
      exact writtenBy_element hv rfl hnamed hlink rfl (Emit.writes_copied ⟨type, _⟩)
    | bytes b =>
      simp only [emit, hv]
      exact writtenBy_element hv rfl hnamed hlink rfl (Emit.writes_element ⟨type, b⟩)
    | _ =>
      simp only [emit, hv]
      exact writtenBy_refuse hv (by simp [Form.Takes, Form.written?])
  | time =>
    cases v with
    | int n =>
      simp only [emit, Message.int?, hv]
      exact writtenBy_element hv trivial hnamed hlink rfl (Emit.writes_copied ⟨type, _⟩)
    | _ =>
      simp only [emit, Message.int?, hv]
      exact writtenBy_skip hv trivial hrequired hlink rfl
  | octet =>
    cases v with
    | int n =>
      by_cases hn : n.toNat < 256
      · simp only [emit, hv, hn, if_true]
        exact writtenBy_element hv hn hnamed hlink rfl (Emit.writes_copied ⟨type, _⟩)
      · simp only [emit, hv, hn, if_false]
        exact writtenBy_refuse hv hn
    | bytes b =>
      simp only [emit, hv]
      exact writtenBy_element hv rfl hnamed hlink rfl (Emit.writes_element ⟨type, b⟩)
    | _ =>
      simp only [emit, hv]
      exact writtenBy_refuse hv (by simp [Form.Takes, Form.written?])
  | payload json =>
    cases v with
    | bytes b =>
      simp only [emit, hv]
      exact writtenBy_element hv rfl hnamed hlink rfl (Emit.writes_element ⟨type, b⟩)
    | json text =>
      simp only [emit, hv]
      exact writtenBy_element hv rfl hnamed hlink rfl (Emit.writes_element ⟨type, text⟩)
    | scatter s =>
      simp only [emit, hv]
      exact writtenBy_element hv rfl hnamed hlink rfl (Emit.writes_scatter type s)
    | _ =>
      simp only [emit, hv]
      exact writtenBy_refuse hv (by simp [Form.Takes, Form.written?])
  | name required => exact absurd rfl (hname required)
  | link => exact absurd rfl hlink

/-- A name is written, and what is no name only where no name is required. -/
theorem writes_emit_name (field : Field) (type : UInt16) (required : Bool) (m : Message) :
    WrittenBy ⟨field, type, .name required⟩ m (emit ⟨field, type, .name required⟩ m) := by
  have hlink : Form.name required ≠ .link := fun h => by cases h
  cases hv : m.name? field with
  | none =>
    have hno : ∀ n, m.fields field ≠ some (.name n) := fun n hn => by
      simp [Message.name?, hn] at hv
    cases required with
    | true =>
      simp only [emit, hv, if_true]
      exact writtenBy_fail _ fun h => (h.name rfl).elim hno
    | false =>
      simp only [emit, hv, Bool.false_eq_true, if_false]
      refine writtenBy_of_writable ⟨fun _ _ => trivial, fun h => by cases h⟩ ?_ writes_none
      cases hf : m.fields field with
      | none => simp [element?, content?, hf]
      | some v =>
        cases v with
        | name n => exact absurd hf (hno n)
        | _ => simp [element?, content?, hf, Form.written?]
  | some n =>
    have hf : m.fields field = some (.name n) := by
      unfold Message.name? at hv
      split at hv
      · next hf => cases hv; exact hf
      · cases hv
    simp only [emit, hv]
    exact writtenBy_element hf trivial (fun _ => ⟨n, rfl⟩) hlink rfl (n.writes_emit type)

/-- A link is written unless it is empty. -/
theorem writes_emit_link (field : Field) (type : UInt16) (m : Message) :
    WrittenBy ⟨field, type, .link⟩ m (emit ⟨field, type, .link⟩ m) := by
  have hok : Slot.Writable ⟨field, type, .link⟩ m := ⟨fun _ _ => trivial, fun h => by cases h⟩
  cases hk : m.keyLink? with
  | none =>
    simp only [emit, hk]
    exact writtenBy_of_writable hok (by simp [element?, content?, hk]) writes_none
  | some link =>
    cases hempty : link.isEmpty with
    | true =>
      simp only [emit, hk, hempty, if_true]
      exact writtenBy_of_writable hok (by simp [element?, content?, hk, hempty]) writes_none
    | false =>
      simp only [emit, hk, hempty, Bool.false_eq_true, if_false]
      exact writtenBy_of_writable hok (by simp [element?, content?, hk, hempty])
        (writes_some (link.writes_emitIn type))

/-- A slot is written as its element, if the message has one for it. -/
theorem writes_emit (slot : Slot) (m : Message) : slot.WrittenBy m (slot.emit m) := by
  by_cases hlink : slot.form = .link
  · obtain ⟨field, type, form⟩ := slot
    obtain rfl : form = .link := hlink
    exact writes_emit_link field type m
  · by_cases hname : ∃ required, slot.form = .name required
    · obtain ⟨field, type, form⟩ := slot
      obtain ⟨required, hform⟩ := hname
      obtain rfl : form = .name required := hform
      exact writes_emit_name field type required m
    · have hname : ∀ required, slot.form ≠ .name required := fun required h => hname ⟨required, h⟩
      cases hv : m.fields slot.field with
      | none => exact writes_emit_none hv hname hlink
      | some v => exact writes_emit_some hv hname hlink

end Slot

end NamedContent
