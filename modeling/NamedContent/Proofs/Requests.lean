import NamedContent.InterestReturn
import NamedContent.Proofs.Tellable

/-!
# Requests read back

An Interest that was made and changed by its operations is one that a packet can tell, with a name,
a hop limit and nothing about a signer (`Interest.Sound.edits`). So what is written for it without a
signer is read back with every answer as it was (`Interest.Sound.reads_back`), and so is what is
written for it on its way back (`InterestReturn.reads_back`).
-/

namespace NamedContent

/-! ## Interests -/

namespace Interest

/-- The ways to make an Interest with a name. -/
inductive Created (name : Name) : Interest → Prop
  | create (lifetime : UInt64) (keyId contentHash : Option Bytes) :
      Created name (.create name lifetime keyId contentHash)
  | createWith (config : Config) (keyId contentHash : Option Bytes) :
      Created name (.createWith config name keyId contentHash)
  | simple : Created name (.simple name)

/-- A change of an Interest. -/
inductive Edit
  | lifetime (lifetime : UInt64)
  | hopLimit (hopLimit : UInt8)
  | payload (payload : Bytes)
  | payloadAndId (payload : Bytes)
  | payloadWithId (payload : Bytes) (id : PayloadId)

/-- The label of the identifier has no parameter. -/
def Edit.Plain : Edit → Prop
  | .payloadWithId _ id => id.segment.Plain
  | _ => True

/-- An Interest after a change. -/
def edit (i : Interest) : Edit → Except MessageError Interest
  | .lifetime lifetime => .ok (i.setLifetime lifetime)
  | .hopLimit hopLimit => .ok (i.setHopLimit hopLimit)
  | .payload payload => .ok (i.setPayload payload)
  | .payloadAndId payload => (i.setPayloadAndId payload).map Prod.fst
  | .payloadWithId payload id => i.setPayloadWithId payload id

/-- Every question about two Interests has the same answer. -/
structure Same (a b : Interest) : Prop where
  name : a.name = b.name
  lifetime : a.lifetime = b.lifetime
  keyIdRestriction : a.keyIdRestriction? = b.keyIdRestriction?
  contentHashRestriction : a.contentHashRestriction? = b.contentHashRestriction?
  payload : a.payload? = b.payload?
  payloadId : a.payloadId? = b.payloadId?
  hopLimit : a.hopLimit = b.hopLimit

variable {i j : Interest} {name : Name}

theorem Same.trans {k : Interest} (h : i.Same j) (h' : j.Same k) : i.Same k :=
  ⟨h.name.trans h'.name, h.lifetime.trans h'.lifetime, h.keyIdRestriction.trans h'.keyIdRestriction,
    h.contentHashRestriction.trans h'.contentHashRestriction, h.payload.trans h'.payload,
    h.payloadId.trans h'.payloadId, h.hopLimit.trans h'.hopLimit⟩

/-- An Interest is told by its fields; neither the header nor a return code is one of them. -/
theorem same_of_frame (h : Message.Frame [.fixedHeader, .returnCode] j.message i.message) :
    i.Same j := by
  have hname : i.name = j.name := by
    rw [Interest.name, Interest.name, nameOf, nameOf, h.name? (f := .name) (by simp)]
  constructor
  · exact hname
  · rw [lifetime, lifetime, h.number? (f := .interestLifetime) (by simp)]
  · exact h.bytes? (by simp)
  · exact h.bytes? (by simp)
  · exact h.content? (by simp)
  · rw [payloadId?, payloadId?, hname]
  · rw [hopLimit, hopLimit, hopLimitOf, hopLimitOf, h.int? (f := .hopLimit) (by simp)]

/-- The identifier of a payload takes the place of an earlier one at the end of the name. -/
theorem setPayloadWithId_eq (hname : i.name = .ok name) (payload : Bytes) (id : PayloadId) :
    i.setPayloadWithId payload id =
      .ok ⟨(i.message.set .name (.name ((withoutPayloadId name).append id.segment))).set
        .payload (.bytes payload), i.kind_eq⟩ := by
  have hname : nameOf i.message = .ok name := hname
  have hwith : withPayload i.message payload (some id) =
      .ok ((i.message.set .name (.name ((withoutPayloadId name).append id.segment))).set
        .payload (.bytes payload)) := by
    rw [withPayload]
    simp only [hname]
  unfold setPayloadWithId
  split
  · next m hm =>
    rw [hwith] at hm
    cases hm
    rfl
  · next e he =>
    rw [hwith] at he
    cases he

/-! ### What every change preserves -/

/-- A message of an Interest that a packet can tell and that nobody signed. -/
structure Askable (m : Message) : Prop where
  kind : m.kind = .interest
  tellable : m.Tellable
  unsigned : m.Unsigned

/-- To set a field that the packet has a place for, in front of the validation. -/
theorem Askable.setIfSome {m : Message} (h : Askable m) {f : Field} {o : Option Value}
    (hf : f ∉ Message.validationFields) (ho : ∀ v ∈ o, f.Holds .interest v) :
    Askable (m.setIfSome f o) := by
  have hframe : Message.Frame [f] m (m.setIfSome f o) := .setIfSome m List.mem_cons_self o
  refine ⟨hframe.kind.trans h.kind, h.tellable.setIfSome (h.kind ▸ ho), ?_⟩
  exact h.unsigned.frame hframe fun g hg hmem => hf (List.mem_singleton.mp hmem ▸ hg)

theorem Askable.set {m : Message} (h : Askable m) {f : Field} {v : Value}
    (hf : f ∉ Message.validationFields) (hv : f.Holds .interest v) : Askable (m.set f v) :=
  h.setIfSome (o := some v) hf fun _ hw => Option.some.inj hw ▸ hv

theorem holds_lifetime (lifetime : UInt64) :
    Field.interestLifetime.Holds .interest (.int lifetime) :=
  ⟨.hop, ⟨.interestLifetime, 0x0001, .lifetime⟩, by decide, rfl, trivial⟩

theorem askable_messageOf (h : name.Plain) (lifetime : UInt64) (keyId contentHash : Option Bytes)
    (hopLimit : UInt8) : Askable (messageOf name lifetime keyId contentHash hopLimit) := by
  have hempty : Askable (.empty .interest) := ⟨rfl, .empty _, fun _ _ => rfl⟩
  have hnamed := hempty.set (f := .name) (by decide) (Field.holds_name h)
  have htimed : ∀ m, Askable m → Askable
      (if lifetime = defaultLifetime then m else m.set .interestLifetime (.int lifetime)) := by
    intro m hm
    split
    · exact hm
    · exact hm.set (by decide) (holds_lifetime lifetime)
  have hkeyId : ∀ b, Field.keyIdRestriction.Holds .interest (.bytes b) := fun b =>
    ⟨.body, ⟨.keyIdRestriction, 0x0002, .strict⟩, by decide, rfl, trivial⟩
  have hhash : ∀ b, Field.contentHashRestriction.Holds .interest (.bytes b) := fun b =>
    ⟨.body, ⟨.contentHashRestriction, 0x0003, .strict⟩, by decide, rfl, trivial⟩
  have hrestricted := ((htimed _ hnamed).setIfSome (by decide) (.map_bytes hkeyId keyId)).setIfSome
    (by decide) (.map_bytes hhash contentHash)
  exact hrestricted.set (by decide) ⟨rfl, hopLimit, rfl⟩

/-- A packet can tell the Interest, which has a name and a hop limit. -/
structure Sound (i : Interest) : Prop where
  askable : Askable i.message
  named : ∃ name : Name, name.Plain ∧ i.name = .ok name
  hopLimit : i.message.contains .hopLimit = true

namespace Sound

theorem set (h : i.Sound) {f : Field} {v : Value}
    (hname : f = .name → ∃ name : Name, name.Plain ∧ v = .name name)
    (hf : f ∉ Message.validationFields) (hv : f.Holds .interest v) :
    Sound ⟨i.message.set f v, i.kind_eq⟩ := by
  refine ⟨h.askable.set hf hv, ?_, ?_⟩
  · by_cases heq : f = .name
    · subst heq
      obtain ⟨name, hplain, rfl⟩ := hname rfl
      exact ⟨name, hplain, rfl⟩
    · obtain ⟨name, hplain, hnamed⟩ := h.named
      have hframe : Message.Frame [f] i.message (i.message.set f v) := .set _ List.mem_cons_self v
      refine ⟨name, hplain, ?_⟩
      rw [← hnamed, Interest.name, Interest.name, nameOf, nameOf,
        hframe.name? (f := .name) (by simpa using Ne.symm heq)]
  · rw [Message.contains, Message.fields_set]
    split
    · rfl
    · exact h.hopLimit

theorem setPayload (h : i.Sound) (payload : Bytes) : (i.setPayload payload).Sound :=
  h.set nofun (by decide) (Field.holds_payload (by nofun) payload)

theorem plain_withoutPayloadId {name : Name} (h : name.Plain) :
    (withoutPayloadId name).Plain := by
  unfold withoutPayloadId
  split
  · exact fun s hs => h s (List.mem_of_mem_take hs)
  · exact h

/-- An identifier that is put at the end of the name leaves a name without parameters. -/
theorem setPayloadWithId (h : i.Sound) (payload : Bytes) {id : PayloadId}
    (hid : id.segment.Plain) : ∃ j, i.setPayloadWithId payload id = .ok j ∧ j.Sound := by
  obtain ⟨name, hplain, hname⟩ := h.named
  -- An identifier at the end of the name gives way to the new one.
  have happended : ((withoutPayloadId name).append id.segment).Plain := by
    intro s hs
    rcases List.mem_append.mp hs with hs | hs
    · exact plain_withoutPayloadId hplain s hs
    · rw [List.mem_singleton.mp hs]
      exact hid
  have hsound := (h.set (fun _ => ⟨_, happended, rfl⟩) (by decide)
    (Field.holds_name happended)).setPayload payload
  exact ⟨_, setPayloadWithId_eq hname payload id, hsound⟩

/-- Every change can be made, and keeps an Interest sound. -/
theorem edit (h : i.Sound) {e : Edit} (he : e.Plain) : ∃ j, i.edit e = .ok j ∧ j.Sound := by
  cases e with
  | lifetime lifetime => exact ⟨_, rfl, h.set nofun (by decide) (holds_lifetime lifetime)⟩
  | hopLimit hopLimit => exact ⟨_, rfl, h.set nofun (by decide) ⟨rfl, hopLimit, rfl⟩⟩
  | payload payload => exact ⟨_, rfl, h.setPayload payload⟩
  | payloadAndId payload =>
    have hplain : (PayloadId.ofDigest payload).segment.Plain := rfl
    obtain ⟨j, hj, hsound⟩ := h.setPayloadWithId payload hplain
    refine ⟨j, ?_, hsound⟩
    rw [Interest.edit, setPayloadAndId, hj]
    rfl
  | payloadWithId payload id => exact h.setPayloadWithId payload he

/-- Any sequence of changes can be made. -/
theorem edits (h : i.Sound) {es : List Edit} (hes : ∀ e ∈ es, e.Plain) :
    ∃ j, es.foldlM Interest.edit i = .ok j ∧ j.Sound := by
  -- The changes are made from the first to the last, so the Interest is any sound one.
  induction es generalizing i with
  | nil => exact ⟨i, rfl, h⟩
  | cons e es ih =>
    obtain ⟨he, hes⟩ := List.forall_mem_cons.mp hes
    obtain ⟨k, hk, hsound⟩ := h.edit he
    obtain ⟨j, hj, hsound⟩ := ih hsound hes
    refine ⟨j, ?_, hsound⟩
    rw [List.foldlM_cons, hk]
    exact hj

theorem messageOf (h : name.Plain) (lifetime : UInt64) (keyId contentHash : Option Bytes)
    (hopLimit : UInt8) :
    Sound ⟨messageOf name lifetime keyId contentHash hopLimit, kind_messageOf ..⟩ := by
  refine ⟨askable_messageOf h .., ⟨name, h, ?_⟩, rfl⟩
  have hfield : (Interest.messageOf name lifetime keyId contentHash hopLimit).fields .name =
      some (.name name) := by
    unfold Interest.messageOf
    simp only [Message.fields_set, Message.fields_setIfSome, reduceCtorEq, if_false]
    split <;> rfl
  rw [Interest.name, nameOf, Message.name?, hfield]

theorem created (hname : name.Plain) (h : Created name i) : i.Sound := by
  cases h with
  | create lifetime keyId contentHash => exact .messageOf hname ..
  | createWith config keyId contentHash => exact .messageOf hname ..
  | simple => exact .messageOf hname ..

end Sound

/-- What is written for a sound Interest is read back as the Interest. -/
theorem Sound.reads_back (h : i.Sound) {now : UInt64} {w : WireMessage}
    (hok : i.toWire none now = .ok w) : w.ReadsBack ofMessage (·.Same i) := by
  have hheaded : i.message.Headed := ⟨fun _ => h.hopLimit, fun hkind => by
    rw [i.kind_eq] at hkind
    cases hkind⟩
  obtain ⟨form, d, hform, hd, hframe⟩ := Message.exists_decoded_of_unsigned hok h.askable.tellable
    h.askable.unsigned hheaded
  have hkind : d.message.kind = .interest := hframe.kind.trans i.kind_eq
  exact ⟨form, d, ⟨d.message, hkind⟩, hform, hd, dif_pos hkind,
    same_of_frame (hframe.mono (by simp))⟩

end Interest

/-! ## Returned Interests -/

namespace InterestReturn

/-- Every question about two returned Interests has the same answer. -/
structure Same (a b : InterestReturn) : Prop where
  code : a.code = b.code
  interest : a.interest.Same b.interest

variable {i : Interest}

theorem code_create (i : Interest) (code : ReturnCode) : (create i code).code = .ok code := by
  cases code <;> rfl

/-- The Interest that comes back is the one that was sent. -/
theorem interest_create (i : Interest) (code : ReturnCode) : (create i code).interest.Same i := by
  have hset : Message.Frame [.fixedHeader, .returnCode] (i.message.withKind .interest)
      (create i code).interest.message :=
    .trans (.set _ (by simp) _) (.erase _ (by simp))
  have hkind : i.message.withKind .interest = i.message := by
    rw [Message.withKind, ← i.kind_eq]
  exact Interest.same_of_frame (hkind ▸ hset)

/-- A returned Interest is told by its fields, of which the header is none. -/
theorem same_of_frame {a b : InterestReturn}
    (h : Message.Frame [.fixedHeader] b.message a.message) : a.Same b := by
  constructor
  · rw [code, code, h.int? (f := .returnCode) (by simp)]
  · refine Interest.same_of_frame ⟨rfl, fun f hf => ?_, fun zone => ?_⟩
    · show (if f = .returnCode then none else a.message.fields f) =
        if f = .returnCode then none else b.message.fields f
      rw [h.fields f fun hmem => hf (List.mem_cons.mpr (.inl (List.mem_singleton.mp hmem)))]
    · cases zone with
      | hop => exact h.extras .hop
      | body => exact h.extras .body
      | suite => exact h.extras .suite

/-- What is written for a sound Interest on its way back is read back. -/
theorem reads_back (h : i.Sound) (code : ReturnCode) {now : UInt64} {w : WireMessage}
    (hok : (create i code).toWire none now = .ok w) :
    w.ReadsBack ofMessage fun r =>
      r.Same (create i code) ∧ r.code = .ok code ∧ r.interest.Same i := by
  have htellable : (create i code).message.Tellable :=
    (h.askable.tellable.returned i.kind_eq).set ⟨rfl, code.code, rfl⟩
  have hunsigned : (create i code).message.Unsigned := by
    intro f hf
    have hne : f ≠ .returnCode := by
      rintro rfl
      exact absurd hf (by decide)
    show (if f = .returnCode then _ else i.message.fields f) = none
    rw [if_neg hne, h.askable.unsigned f hf]
  obtain ⟨form, d, hform, hd, hframe⟩ := Message.exists_decoded_of_unsigned hok htellable hunsigned
    ⟨fun _ => h.hopLimit, fun _ => rfl⟩
  have hsame : Same ⟨d.message, hframe.kind⟩ (create i code) := same_of_frame hframe
  exact ⟨form, d, _, hform, hd, dif_pos hframe.kind, hsame, hsame.code.trans (code_create i code),
    hsame.interest.trans (interest_create i code)⟩

end InterestReturn

end NamedContent
