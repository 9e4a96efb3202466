import NamedContent.Proofs.Slots

/-!
# Slots there and back

Reading and writing at one slot undo each other. What was read is written as it stood
(`Slot.Reads.content?`), except that a link is written in its own order and without what does not
belong to it; what is written from fields of the shape that reading gives is read back as they are
(`Slot.Shaped.reads`).
-/

namespace NamedContent

/-- Whether a field of this form can hold a value after reading. -/
def Form.Shapes : Form → Value → Prop
  | .optional, .bytes _ | .strict, .bytes _ => True
  | .number, .int _ | .lifetime, .int _ | .time, .int _ => True
  | .number, .bytes b => Bytes.minimal? b = none
  | .lifetime, .bytes b => 2 ≤ b.length ∧ b.length ≤ 8 ∧ b.head? = some 0
  | .octet, .int n => n.toNat ≤ 255
  | .octet, .bytes b => b.length ≠ 1
  | .payload json, .bytes _ => json = false
  | .payload json, .json _ => json = true
  | .name _, .name n | .link, .name n => n.Plain
  | _, _ => False

namespace Form

variable {form : Form} {b : Bytes} {v : Value}

theorem minimal?_eq_none_iff (hlen : 1 ≤ b.length ∧ b.length ≤ 8) :
    Bytes.minimal? b = none ↔ 2 ≤ b.length ∧ b.length ≤ 8 ∧ b.head? = some 0 := by
  cases b with
  | nil => simp at hlen
  | cons x rest =>
    cases rest with
    | nil => simp [Bytes.minimal?, Bytes.isMinimal]
    | cons y rest =>
      have hrest : (x :: y :: rest).length ≤ 8 := hlen.2
      by_cases hx : x = 0 <;> simp_all [Bytes.minimal?, Bytes.isMinimal]

theorem value_octet (h : b.length ≠ 1) : value .octet b = .bytes b := by
  cases b with
  | nil => rfl
  | cons x rest =>
    cases rest with
    | nil => exact absurd rfl h
    | cons y rest => rfl

theorem shapes_number (hnone : Bytes.minimal? b = none → form.Shapes (.bytes b))
    (hsome : ∀ n, form.Shapes (.int n)) :
    form.Shapes (((Bytes.minimal? b).map Value.int).getD (.bytes b)) := by
  cases h : Bytes.minimal? b with
  | none => exact hnone h
  | some n => exact hsome n

/-- Reading yields values of its own shape. -/
theorem shapes_value (h : form.Accepts b) : form.Shapes (form.value b) := by
  cases form with
  | optional => trivial
  | strict => trivial
  | number => exact shapes_number id fun _ => trivial
  | lifetime => exact shapes_number (minimal?_eq_none_iff h).mp fun _ => trivial
  | time => trivial
  | octet =>
    by_cases hlen : b.length = 1
    · obtain ⟨x, rfl⟩ := List.length_eq_one_iff.mp hlen
      have := x.toNat_lt
      simp only [value, Shapes, UInt8.toNat_toUInt64]
      omega
    · rw [value_octet hlen]
      exact hlen
  | name required => exact Name.plain_denoted h
  | payload json => cases json <;> rfl
  | link => exact Link.plain_denoted h

theorem takes_of_shapes (h : form.Shapes v) : form.Takes v := by
  cases form <;> cases v <;> (simp_all [Shapes, Takes, written?]; try omega)

/-- What was read is written as it stood. -/
theorem written?_value (hlink : form ≠ .link) (h : form.Accepts b) :
    form.written? (form.value b) = some b := by
  have hnumber : ∀ v : UInt64, Bytes.minimal? b = some v → Bytes.minimal v = b :=
    fun v hv => (Bytes.minimal?_eq_some_iff.mp hv).symm
  cases form with
  | optional => rfl
  | strict => rfl
  | number =>
    cases hn : Bytes.minimal? b with
    | none => simp [value, hn, written?]
    | some n => simp [value, hn, written?, hnumber n hn]
  | lifetime =>
    cases hn : Bytes.minimal? b with
    | none => simp [value, hn, written?]
    | some n => simp [value, hn, written?, hnumber n hn]
  | time =>
    have hlen : b.length = 8 := h
    have hlt := Bytes.toNat_lt_bound b
    have hbound : Bytes.bound 8 = 2 ^ 64 := by decide
    have hn : (UInt64.ofNat (Bytes.toNat b)).toNat = Bytes.toNat b := by
      rw [UInt64.toNat_ofNat']
      rw [hlen] at hlt
      omega
    rw [value, written?, hn, ← hlen, Bytes.ofNat_toNat]
  | octet =>
    by_cases hlen : b.length = 1
    · obtain ⟨x, rfl⟩ := List.length_eq_one_iff.mp hlen
      simp [value, written?, Bytes.ofNat]
    · rw [value_octet hlen, written?]
  | name required => simp [value, written?, Name.wire_denoted h]
  | payload json => cases json <;> rfl
  | link => exact absurd rfl hlink

/-- What is written from a well-shaped value is read as that value. -/
theorem value_written? (hlink : form ≠ .link) (h : form.Shapes v)
    (hb : form.written? v = some b) (hfits : b.length ≤ maxLength) :
    form.Accepts b ∧ form.value b = v := by
  cases form with
  | optional | strict =>
    cases v with
    | bytes c => cases hb; exact ⟨trivial, rfl⟩
    | _ => exact h.elim
  | number =>
    cases v with
    | int n =>
      cases hb
      exact ⟨trivial, by simp [value, Bytes.minimal?_minimal]⟩
    | bytes c =>
      cases hb
      have hnone : Bytes.minimal? b = none := h
      exact ⟨trivial, by simp [value, hnone]⟩
    | _ => exact h.elim
  | lifetime =>
    cases v with
    | int n =>
      cases hb
      have hpos := List.length_pos_iff.mpr (Bytes.minimal_ne_nil n)
      exact ⟨⟨hpos, Bytes.length_minimal_le n⟩, by simp [value, Bytes.minimal?_minimal]⟩
    | bytes c =>
      cases hb
      have hlen : 1 ≤ b.length ∧ b.length ≤ 8 := ⟨Nat.le_of_succ_le h.1, h.2.1⟩
      exact ⟨hlen, by simp [value, (minimal?_eq_none_iff hlen).mpr h]⟩
    | _ => exact h.elim
  | time =>
    cases v with
    | int n =>
      cases hb
      have hn := n.toNat_lt
      have hbound : Bytes.bound 8 = 2 ^ 64 := by decide
      refine ⟨Bytes.length_ofNat 8 _, ?_⟩
      rw [value, Bytes.toNat_ofNat, Nat.mod_eq_of_lt (by omega), UInt64.ofNat_toNat]
    | _ => exact h.elim
  | octet =>
    cases v with
    | int n =>
      cases hb
      have hn : n.toNat < 256 := Nat.lt_succ_of_le h
      refine ⟨trivial, ?_⟩
      have hx : (UInt8.ofNat n.toNat).toUInt64 = n := by
        apply UInt64.toNat_inj.mp
        rw [UInt8.toNat_toUInt64, UInt8.toNat_ofNat']
        omega
      exact congrArg Value.int hx
    | bytes c =>
      cases hb
      exact ⟨trivial, value_octet h⟩
    | _ => exact h.elim
  | name required =>
    cases v with
    | name n =>
      cases hb
      have helements := Tlv.fits_of_mem hfits
      exact ⟨Name.isWire_wire helements, congrArg Value.name (Name.denoted_wire h helements)⟩
    | _ => exact h.elim
  | payload json =>
    cases v with
    | bytes c => cases hb; cases h; exact ⟨trivial, rfl⟩
    | json c => cases hb; cases h; exact ⟨trivial, rfl⟩
    | _ => exact h.elim
  | link => exact absurd rfl hlink

theorem exists_written? (hlink : form ≠ .link) (h : form.Shapes v) :
    ∃ b, form.written? v = some b := by
  cases form <;> cases v <;> simp_all [Shapes, written?]

end Form

namespace Slot

/-- The fields of a slot hold what the value of its element tells, or nothing without one. -/
def Reads (slot : Slot) (o : Option Bytes) (m : Message) : Prop :=
  ∀ f ∈ slot.fields, m.fields f = o.bind fun b => slot.value? b f

/-- The fields of a slot hold what reading could have put there, and a link is not empty. -/
structure Shaped (slot : Slot) (m : Message) : Prop where
  shape : ∀ v, m.fields slot.field = some v → slot.form.Shapes v
  restrictions : slot.form = .link → ∀ f ∈ [Field.keyNameKeyId, Field.keyNameContentHash], ∀ v,
    m.fields f = some v → m.contains slot.field = true ∧ ∃ b, v = .bytes b
  link : slot.form = .link → ∀ link, m.keyLink? = some link → link.isEmpty = false

/-- A link is that of the key name. -/
def Proper (slot : Slot) : Prop := slot.form = .link → slot.field = .keyName

variable {slot : Slot} {m r : Message} {o : Option Bytes}

theorem Proper.fields (h : slot.Proper) (hlink : slot.form = .link) :
    slot.fields = [.keyName, .keyNameKeyId, .keyNameContentHash] := by
  rw [Slot.fields, if_pos hlink, h hlink]

/-- A link depends on nothing but the fields of its slot. -/
theorem Proper.keyLink?_congr (hproper : slot.Proper) (hlink : slot.form = .link)
    (h : ∀ f ∈ slot.fields, r.fields f = m.fields f) : r.keyLink? = m.keyLink? := by
  have hfields := hproper.fields hlink
  have hname := h .keyName (by simp [hfields])
  have hkeyId := h .keyNameKeyId (by simp [hfields])
  have hhash := h .keyNameContentHash (by simp [hfields])
  simp only [Message.keyLink?, Message.name?, Message.bytes?, hname, hkeyId, hhash]

/-- What a slot is written as depends on its own fields only. -/
theorem content?_congr (hproper : slot.Proper) (h : ∀ f ∈ slot.fields, r.fields f = m.fields f) :
    slot.content? r = slot.content? m := by
  by_cases hlink : slot.form = .link
  · rw [content?, content?, if_pos hlink, if_pos hlink, hproper.keyLink?_congr hlink h]
  · rw [content?, content?, if_neg hlink, if_neg hlink, h slot.field slot.field_mem_fields]

theorem Writable.congr (h : slot.Writable m) (heq : r.fields slot.field = m.fields slot.field) :
    slot.Writable r :=
  ⟨fun v hv => h.takes v (heq ▸ hv), fun hform => by rw [heq]; exact h.name hform⟩

theorem Shaped.congr (h : slot.Shaped m) (hproper : slot.Proper)
    (heq : ∀ f ∈ slot.fields, r.fields f = m.fields f) : slot.Shaped r := by
  have hfield := heq slot.field slot.field_mem_fields
  refine ⟨fun v hv => h.shape v (hfield ▸ hv), fun hlink f hf v hv => ?_, fun hlink link hl => ?_⟩
  · have hmem : f ∈ slot.fields := by
      rw [Slot.fields, if_pos hlink]
      exact List.mem_cons_of_mem _ hf
    rw [heq f hmem] at hv
    rw [Message.contains, hfield]
    exact h.restrictions hlink f hf v hv
  · rw [hproper.keyLink?_congr hlink heq] at hl
    exact h.link hlink link hl

theorem shaped_of_shapes {v : Value} (hlink : slot.form ≠ .link)
    (hv : m.fields slot.field = some v) (hshapes : slot.form.Shapes v) : slot.Shaped m := by
  refine ⟨fun w hw => ?_, fun h => absurd h hlink, fun h => absurd h hlink⟩
  rw [hv] at hw
  cases hw
  exact hshapes

theorem Reads.field (h : slot.Reads o m) : m.fields slot.field = o.map slot.form.value := by
  rw [h slot.field slot.field_mem_fields]
  cases o with
  | none => rfl
  | some b => exact slot.value?_field b

/-- The key name of a message holds the link that the element of its slot denotes. -/
theorem Reads.keyLink? (hproper : slot.Proper) (hlink : slot.form = .link) (h : slot.Reads o m) :
    m.keyLink? = o.map Link.denoted := by
  have hfield := h.field
  have hkey := h .keyNameKeyId (by simp [fields, hlink])
  have hhash := h .keyNameContentHash (by simp [fields, hlink])
  rw [hproper hlink, hlink] at hfield
  cases o with
  | none => simp [Message.keyLink?, Message.name?, hfield]
  | some b =>
    have hkeyId : m.bytes? .keyNameKeyId = (Link.denoted b).keyId := by
      rw [Message.bytes?, hkey]
      cases hc : (Link.denoted b).keyId <;> simp [value?, hproper hlink, hc]
    have hhash : m.bytes? .keyNameContentHash = (Link.denoted b).contentHash := by
      rw [Message.bytes?, hhash]
      cases hc : (Link.denoted b).contentHash <;> simp [value?, hproper hlink, hc]
    simp [Message.keyLink?, Message.name?, hfield, Form.value, hkeyId, hhash]

/-- The value that is written where a given one was read. Only links are written anew. -/
def normal? (slot : Slot) (b : Bytes) : Option Bytes :=
  if slot.form = .link then
    if (Link.denoted b).isEmpty then none else some (Link.denoted b).wire
  else some b

/-- What was read is written as it stood, but for links. -/
theorem Reads.content? (hproper : slot.Proper) (h : slot.Reads o m)
    (haccepts : ∀ b ∈ o, slot.form.Accepts b) : slot.content? m = o.bind slot.normal? := by
  by_cases hlink : slot.form = .link
  · rw [Slot.content?, if_pos hlink, h.keyLink? hproper hlink]
    cases o with
    | none => rfl
    | some b => cases hempty : (Link.denoted b).isEmpty <;> simp [normal?, hlink, hempty]
  · rw [Slot.content?, if_neg hlink, h.field]
    cases o with
    | none => rfl
    | some b => simp [normal?, hlink, Form.written?_value hlink (haccepts b rfl)]

/-- What was read can be written. -/
theorem Reads.writable (h : slot.Reads o m) (haccepts : ∀ b ∈ o, slot.form.Accepts b)
    (hname : slot.form = .name true → o ≠ none) : slot.Writable m := by
  have hfield := h.field
  constructor
  · intro v hv
    rw [hfield] at hv
    obtain ⟨b, rfl, rfl⟩ := Option.map_eq_some_iff.mp hv
    exact Form.takes_of_shapes (Form.shapes_value (haccepts b rfl))
  · intro hform
    obtain ⟨b, rfl⟩ := Option.ne_none_iff_exists'.mp (hname hform)
    exact ⟨Name.denoted b, by rw [hfield, hform]; rfl⟩

/-- What was read has the shape that reading gives. -/
theorem Reads.shaped (hproper : slot.Proper) (h : slot.Reads o m)
    (haccepts : ∀ b ∈ o, slot.form.Accepts b)
    (hlink : slot.form = .link → ∀ b ∈ o, (Link.denoted b).isEmpty = false) : slot.Shaped m := by
  constructor
  · intro v hv
    rw [h.field] at hv
    obtain ⟨b, rfl, rfl⟩ := Option.map_eq_some_iff.mp hv
    exact Form.shapes_value (haccepts b rfl)
  · intro hform f hf v hv
    rw [h f (by simp [fields, hform]; simpa using Or.inr hf)] at hv
    obtain ⟨b, rfl, hb⟩ := Option.bind_eq_some_iff.mp hv
    refine ⟨by simp [Message.contains, h.field], ?_⟩
    simp only [List.mem_cons, List.not_mem_nil, or_false] at hf
    rcases hf with rfl | rfl
    · rw [value?, hproper hform] at hb
      obtain ⟨k, -, rfl⟩ := Option.map_eq_some_iff.mp hb
      exact ⟨k, rfl⟩
    · rw [value?, hproper hform] at hb
      obtain ⟨k, -, rfl⟩ := Option.map_eq_some_iff.mp hb
      exact ⟨k, rfl⟩
  · intro hform link hl
    rw [h.keyLink? hproper hform] at hl
    obtain ⟨b, rfl, rfl⟩ := Option.map_eq_some_iff.mp hl
    exact hlink hform b rfl

/-- A field that holds bytes, if anything, is told by them. -/
theorem map_bytes? {f : Field} (h : ∀ v, m.fields f = some v → ∃ b, v = .bytes b) :
    (m.bytes? f).map Value.bytes = m.fields f := by
  cases hv : m.fields f with
  | none => simp [Message.bytes?, hv]
  | some v =>
    obtain ⟨b, rfl⟩ := h v hv
    simp [Message.bytes?, hv]

theorem Shaped.reads_link (hproper : slot.Proper) (hlink : slot.form = .link)
    (h : slot.Shaped m) (hfits : ∀ t ∈ slot.element? m, t.Fits) :
    (∀ b ∈ slot.content? m, slot.form.Accepts b) ∧ slot.Reads (slot.content? m) m := by
  have hfield := hproper hlink
  have hfields := hproper.fields hlink
  cases hv : m.fields .keyName with
  | none =>
    have hnone : slot.content? m = none := by
      simp [Slot.content?, hlink, Message.keyLink?, Message.name?, hv]
    rw [hnone]
    refine ⟨fun b hb => (by cases hb), fun f hf => ?_⟩
    rw [hfields, List.mem_cons] at hf
    rcases hf with rfl | hf
    · exact hv
    · cases hr : m.fields f with
      | none => rfl
      | some v =>
        -- Without a name there is no restriction either.
        have := (h.restrictions hlink f hf v hr).1
        simp [Message.contains, hfield, hv] at this
  | some v =>
    have hshape := h.shape v (hfield ▸ hv)
    rw [hlink] at hshape
    cases v with
    | name n =>
      obtain ⟨link, hk⟩ : ∃ link, m.keyLink? = some link :=
        Option.isSome_iff_exists.mp (by simp [Message.keyLink?, Message.name?, hv])
      have hcontent : slot.content? m = some link.wire := by
        simp [Slot.content?, hlink, hk, h.link hlink link hk]
      have hlen : Tlv.Fits ⟨slot.type, link.wire⟩ := hfits _ (by rw [element?, hcontent]; rfl)
      have helements : ∀ t ∈ link.elements, t.Fits := Tlv.fits_of_mem hlen
      obtain rfl : ⟨n, m.bytes? .keyNameKeyId, m.bytes? .keyNameContentHash⟩ = link := by
        simpa [Message.keyLink?, Message.name?, hv] using hk
      have hplain : n.Plain := hshape
      have hdenoted := Link.denoted_wire hplain helements
      have hkey := map_bytes? fun v hv => (h.restrictions hlink .keyNameKeyId (by simp) v hv).2
      have hhash := map_bytes? fun v hv =>
        (h.restrictions hlink .keyNameContentHash (by simp) v hv).2
      rw [hcontent]
      constructor
      · rintro b hb
        cases hb
        rw [hlink]
        exact Link.isWire_wire helements
      · intro f hf
        rw [hfields] at hf
        simp only [List.mem_cons, List.not_mem_nil, or_false] at hf
        rcases hf with rfl | rfl | rfl <;>
          simp [value?, hfield, hdenoted, Form.value, hlink, hv, hkey, hhash]
    | _ => exact hshape.elim

/-- What is written from well-shaped fields is accepted and reads back as they are. -/
theorem Shaped.reads (hproper : slot.Proper) (h : slot.Shaped m)
    (hfits : ∀ t ∈ slot.element? m, t.Fits) :
    (∀ b ∈ slot.content? m, slot.form.Accepts b) ∧ slot.Reads (slot.content? m) m := by
  -- A link has three fields and one element, any other slot one of each.
  by_cases hlink : slot.form = .link
  · exact h.reads_link hproper hlink hfits
  · have hcontent : slot.content? m = (m.fields slot.field).bind slot.form.written? :=
      if_neg hlink
    cases hv : m.fields slot.field with
    | none =>
      rw [hcontent, hv]
      refine ⟨fun b hb => (by cases hb), fun f hf => ?_⟩
      rw [fields, if_neg hlink, List.mem_singleton] at hf
      rw [hf, hv]
      rfl
    | some v =>
      obtain ⟨b, hb⟩ := Form.exists_written? hlink (h.shape v hv)
      rw [hv, Option.bind_some, hb] at hcontent
      have hlen : Tlv.Fits ⟨slot.type, b⟩ := hfits _ (by rw [element?, hcontent]; rfl)
      obtain ⟨haccepts, hvalue⟩ := Form.value_written? hlink (h.shape v hv) hb hlen
      rw [hcontent]
      refine ⟨fun c hc => by cases hc; exact haccepts, fun f hf => ?_⟩
      rw [fields, if_neg hlink, List.mem_singleton] at hf
      rw [hf, hv, Option.bind_some, value?_field, hvalue]

end Slot

end NamedContent
