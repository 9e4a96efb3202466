import NamedContent.Proofs.Encoding

/-!
# What validation overlooks

Validation reads the fields that tell who signed a message and the other elements of the suite, and
looks whether the message is a content object. What it derives it records in the fields that it
reads. So messages that agree in all this are validated alike: the algorithm is written by the same
emission, and a signature over the same bytes is the same.

* `Validation.Overlooks R`: the messages of a relation agree in what validation reads, and stay
  related when the same is recorded in both.
* `Validation.Overlooks.parts`: the parts of their packets behind the message are the same, and what
  is recorded is related again.
-/

namespace NamedContent

/-! ## Slots that are written alike -/

/-- How a slot is written depends on its own fields only. -/
theorem Slot.emit_congr {slot : Slot} {m r : Message} (hproper : slot.Proper)
    (h : ∀ f ∈ slot.fields, r.fields f = m.fields f) : slot.emit r = slot.emit m := by
  have hfield := h slot.field slot.field_mem_fields
  unfold Slot.emit
  cases hform : slot.form with
  | link => simp only [hproper.keyLink?_congr hform h]
  | _ => simp only [Message.bytes?, Message.int?, Message.name?, hfield]

theorem emitSlots_congr {m r : Message} {ss : List Slot} (hproper : ∀ slot ∈ ss, slot.Proper)
    (h : ∀ slot ∈ ss, ∀ f ∈ slot.fields, r.fields f = m.fields f) :
    emitSlots r ss = emitSlots m ss := by
  induction ss with
  | nil => rfl
  | cons slot ss ih =>
    obtain ⟨hslot, hrest⟩ := List.forall_mem_cons.mp hproper
    obtain ⟨hfields, hfields'⟩ := List.forall_mem_cons.mp h
    rw [emitSlots, emitSlots, Slot.emit_congr hslot hfields, ih hrest hfields']

/-- The fields that tell who signed a message. -/
def Message.validationFields : List Field :=
  [.cryptoSuite, .keyId, .publicKey, .certificate, .keyName, .keyNameKeyId, .keyNameContentHash,
    .signatureTime, .signature]

namespace Validation

/-! ## Messages that validation does not tell apart -/

/-- The messages of a relation are the same to validation, and are related again when the same is
recorded in both. -/
structure Overlooks (R : Message → Message → Prop) : Prop where
  object : ∀ {m r}, R m r → (r.kind = .contentObject ↔ m.kind = .contentObject)
  fields : ∀ {m r}, R m r → ∀ f ∈ Message.validationFields, r.fields f = m.fields f
  extras : ∀ {m r}, R m r → r.extras .suite = m.extras .suite
  set : ∀ {m r}, R m r → ∀ f v, R (m.set f v) (r.set f v)

variable {R : Message → Message → Prop} {m r : Message} {signer : Option Signer} {config : Config}
  {now now' : UInt64}

/-- A suite does not change whether the time is to be told. -/
theorem needsTime_withSuite (m : Message) (suite : UInt16) (signer : Option Signer)
    (config : Config) :
    needsTime (withSuite m suite signer) signer config = needsTime m signer config := by
  have hfield := (frame_withSuite m suite signer).fields .signatureTime (by decide)
  rw [needsTime, needsTime, Message.contains, Message.contains, hfield]

/-- Two steps write the same and record it in messages that are related. -/
structure StepAlike (R : Message → Message → Prop) (p q : Emit Nat × Message) : Prop where
  written : q.1 = p.1
  recorded : R p.2 q.2

namespace Overlooks

theorem contains (h : Overlooks R) (hmr : R m r) {f : Field} (hf : f ∈ Message.validationFields) :
    r.contains f = m.contains f := by
  rw [Message.contains, Message.contains, h.fields hmr f hf]

theorem setIfSome (h : Overlooks R) (hmr : R m r) (f : Field) (v : Option Value) :
    R (m.setIfSome f v) (r.setIfSome f v) := by
  cases v with
  | none => exact hmr
  | some v => exact h.set hmr f v

theorem emitSlots (h : Overlooks R) (hmr : R m r) {ss : List Slot} (hsub : ss ⊆ suiteSlots) :
    NamedContent.emitSlots r ss = NamedContent.emitSlots m ss := by
  have table : ∀ slot ∈ suiteSlots, ∀ f ∈ slot.fields, f ∈ Message.validationFields := by decide
  have hproper : ∀ slot ∈ slots m.kind .suite, slot.Proper := fun _ => proper_of_mem
  exact emitSlots_congr (fun slot hs => hproper slot (hsub hs)) fun slot hs f hf =>
    h.fields hmr f (table slot (hsub hs) f hf)

theorem emitSuite (h : Overlooks R) (hmr : R m r) (suite : UInt16) :
    Validation.emitSuite r suite = Validation.emitSuite m suite := by
  have hslots : NamedContent.emitSlots r suiteSlots = NamedContent.emitSlots m suiteSlots :=
    h.emitSlots hmr fun _ hs => hs
  rw [Validation.emitSuite, Validation.emitSuite, Message.emitZone, Message.emitZone, h.extras hmr]
  exact congrArg (fun known => Emit.container _ (Emit.container _ (known >>= _))) hslots

/-! ### The algorithm -/

theorem suiteCode? (h : Overlooks R) (hmr : R m r) :
    Validation.suiteCode? r signer = Validation.suiteCode? m signer := by
  simp only [Validation.suiteCode?, Message.int?, h.fields hmr .cryptoSuite (by decide),
    h.object hmr]

theorem withSuite (h : Overlooks R) (hmr : R m r) (suite : UInt16) :
    R (Validation.withSuite m suite signer) (Validation.withSuite r suite signer) := by
  have hset := h.set hmr .cryptoSuite (.int suite.toUInt64)
  unfold Validation.withSuite
  simp only [h.contains hset (f := .keyId) (by decide)]
  cases (m.set .cryptoSuite (.int suite.toUInt64)).contains .keyId with
  | true => exact hset
  | false => exact h.setIfSome hset _ _

theorem needsTime (h : Overlooks R) (hmr : R m r) :
    Validation.needsTime r signer config = Validation.needsTime m signer config := by
  rw [Validation.needsTime, Validation.needsTime, h.contains hmr (by decide)]

theorem withTime (h : Overlooks R) (hmr : R m r)
    (hclock : Validation.needsTime m signer config = true → now' = now) :
    R (Validation.withTime m signer config now) (Validation.withTime r signer config now') := by
  rw [Validation.withTime, Validation.withTime, h.needsTime hmr]
  split
  · next hneeds =>
    rw [hclock hneeds]
    exact h.set hmr _ _
  · exact hmr

/-- The algorithm is the same, and what is derived for it is recorded in both. The clocks count only
where the time of signing is to be told. -/
theorem algorithm (h : Overlooks R) (hmr : R m r)
    (hclock : Validation.needsTime m signer config = true → now' = now) :
    StepAlike R (Validation.algorithm m signer config now)
      (Validation.algorithm r signer config now') := by
  unfold Validation.algorithm
  rw [h.suiteCode? hmr]
  cases Validation.suiteCode? m signer with
  | error e => exact ⟨rfl, hmr⟩
  | ok suite =>
    cases suite with
    | none => exact ⟨rfl, hmr⟩
    | some suite =>
      have hkeyed : R (Validation.withSuite m suite signer) (Validation.withSuite r suite signer) :=
        h.withSuite hmr suite
      rw [← needsTime_withSuite m suite] at hclock
      have htimed := h.withTime hkeyed hclock
      simp only [h.emitSuite htimed, h.emitSlots hkeyed (List.subset_append_left keySlots _)]
      split
      · exact ⟨rfl, hkeyed⟩
      · exact ⟨rfl, htimed⟩

/-! ### The signature -/

/-- A signature that is made is made over the same bytes, and recorded in both. -/
theorem sign (h : Overlooks R) (hmr : R m r) (signer : Signer) (covered : Bytes) :
    StepAlike R (Validation.sign m signer covered) (Validation.sign r signer covered) := by
  unfold Validation.sign
  cases signer.sign covered with
  | error e => exact ⟨rfl, hmr⟩
  | ok signature =>
    dsimp only
    cases (emitSignature signature).result with
    | error e => exact ⟨rfl, hmr⟩
    | ok n => exact ⟨rfl, h.set hmr _ _⟩

theorem signature (h : Overlooks R) (hmr : R m r) (covered : Option Bytes) :
    StepAlike R (Validation.signature m signer covered)
      (Validation.signature r signer covered) := by
  have hcontains : r.contains .signature = m.contains .signature := h.contains hmr (by decide)
  have hbytes : r.bytes? .signature = m.bytes? .signature := by
    rw [Message.bytes?, Message.bytes?, h.fields hmr .signature (by decide)]
  unfold Validation.signature
  rw [hcontains, hbytes]
  cases covered with
  | none => cases m.contains .signature <;> exact ⟨rfl, hmr⟩
  | some covered =>
    cases m.bytes? .signature with
    | some b => exact ⟨rfl, hmr⟩
    | none =>
      cases signer with
      | none => exact ⟨rfl, hmr⟩
      | some signer => exact h.sign hmr signer covered

/-! ### Packets -/

/-- Behind messages of the same bytes the validations are the same, whether they can be written or
not. -/
theorem parts (h : Overlooks R) (hmr : R m r)
    (hbytes : (Packet.emitMessage r).bytes = (Packet.emitMessage m).bytes)
    (hclock : Validation.needsTime m signer config = true → now' = now) :
    let parts := Packet.Parts.ofMessage m signer config now
    let parts' := Packet.Parts.ofMessage r signer config now'
    parts'.algorithm = parts.algorithm ∧ parts'.signature = parts.signature ∧
      R parts.recorded parts'.recorded := by
  have halgorithm : StepAlike R (Validation.algorithm m signer config now)
      (Validation.algorithm r signer config now') := h.algorithm hmr hclock
  simp only [Packet.Parts.ofMessage, hbytes, halgorithm.written, true_and]
  -- Message and algorithm have the same bytes, and these are what the signature covers.
  obtain ⟨hwritten, hrecorded⟩ := h.signature halgorithm.recorded _
  exact ⟨hwritten, hrecorded⟩

end Overlooks

end Validation

end NamedContent
