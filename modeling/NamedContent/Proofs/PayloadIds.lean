import NamedContent.Proofs.Requests

/-!
# Payload identifiers in the names of Interests

An Interest with an identified payload has the identifier at the end of its name. The name it was
given may end in such segments already, one behind the other and some of them without a value. A
run of changes takes at most one of them away, and only where an identifier is set, which then
stands in its place until the next one is set.

* `Name.identified_identified`: of two identifiers that are set the second remains.
* `Interest.follows_edit`: what one change does to the name, the payload and the other fields.
* `Interest.follows_edits`: what a run of changes does.
* `Interest.edits_identify`: every run can be made, and it ends with the last identifier and the
  last payload.
-/

namespace NamedContent

/-! ## Identifiers -/

namespace PayloadId

variable {s : Segment} {id : PayloadId}

/-- The type byte and what is behind it are the value. -/
theorem value_eq (id : PayloadId) : id.value = id.typeCode :: id.identifier :=
  (List.cons_head_tail id.value_ne_nil).symm

@[simp] theorem typeCode_create (data : Bytes) (typeCode : UInt8) :
    (create data typeCode).typeCode = typeCode := rfl

@[simp] theorem identifier_create (data : Bytes) (typeCode : UInt8) :
    (create data typeCode).identifier = data := rfl

/-- An identifier is recognized by its segment, and nothing else is taken for one. -/
theorem ofSegment?_eq_some_iff : ofSegment? s = some id ↔ s = id.segment := by
  unfold ofSegment?
  constructor
  · intro h
    split at h
    · cases h
      rfl
    · cases h
  · rintro rfl
    rw [dif_pos ⟨id.type_eq, id.value_ne_nil⟩]

theorem ofName?_eq_some_iff {name : Name} :
    ofName? name = some id ↔ name.last? = some id.segment := by
  unfold ofName?
  cases name.last? with
  | none => simp
  | some last => rw [Option.bind_some, ofSegment?_eq_some_iff, Option.some.injEq]

end PayloadId

/-! ## Names -/

namespace Name

/-- A name without its last segment, where that is a payload identifier with at least one byte. -/
def base (name : Name) : Name :=
  match name.segments.getLast? with
  | some last =>
    if last.type = .payloadId ∧ last.value ≠ [] then ⟨name.segments.dropLast⟩ else name
  | none => name

/-- A name with an identifier at its end, if there is one to put there. -/
def identified (name : Name) : Option PayloadId → Name
  | some id => name.base.append id.segment
  | none => name

theorem last?_append (name : Name) (s : Segment) : (name.append s).last? = some s :=
  List.getLast?_concat

/-- A name that ends in an identifier has the rest of the segments as its base, however these
end. -/
@[simp] theorem base_append (name : Name) (id : PayloadId) :
    (name.append id.segment).base = name := by
  simp only [base, append, List.getLast?_concat, List.dropLast_concat]
  rw [if_pos ⟨id.type_eq, id.value_ne_nil⟩]

theorem base_identified (name : Name) (id : Option PayloadId) :
    (name.identified id).base = name.base := by
  cases id with
  | none => rfl
  | some id => exact base_append name.base id

theorem identified_identified (name : Name) (first second : Option PayloadId) :
    (name.identified first).identified second = name.identified (second.or first) := by
  cases second with
  | none => rfl
  | some id =>
    have hbase := name.base_identified first
    simp only [identified] at hbase ⊢
    rw [hbase, Option.some_or]

end Name

/-! ## Interests -/

namespace Interest

variable {i j k : Interest} {name : Name}

/-- What gives way to an identifier is what does not belong to the base. -/
theorem withoutPayloadId_eq_base (name : Name) : withoutPayloadId name = name.base := by
  unfold withoutPayloadId PayloadId.ofName? Name.base Name.last?
  cases name.segments.getLast? with
  | none => rfl
  | some last =>
    simp only [Option.bind_some, PayloadId.ofSegment?]
    split
    · rw [Name.trim, Name.take, List.dropLast_eq_take]
      rfl
    · rfl

/-- The identifier that a change sets. -/
def Edit.id? : Edit → Option PayloadId
  | .payloadAndId p => some (.ofDigest p)
  | .payloadWithId _ id => some id
  | _ => none

/-- The payload that a change gives. -/
def Edit.payload? : Edit → Option Bytes
  | .payload p | .payloadAndId p | .payloadWithId p _ => some p
  | _ => none

/-- The fields that a change writes to. -/
def Edit.fields : Edit → List Field
  | .lifetime _ => [.interestLifetime]
  | .hopLimit _ => [.hopLimit]
  | .payload _ => [.payload]
  | .payloadAndId _ | .payloadWithId _ _ => [.name, .payload]

/-- To give a payload is to write to no other fields than these. -/
theorem Edit.fields_subset {e : Edit} (h : e.payload?.isSome) : e.fields ⊆ [.name, .payload] := by
  cases e with
  | lifetime => cases h
  | hopLimit => cases h
  | payload => exact List.subset_cons_self _ _
  | payloadAndId => exact List.Subset.refl _
  | payloadWithId => exact List.Subset.refl _

/-- The last identifier that is set in a run of changes. -/
def lastId? (es : List Edit) : Option PayloadId := es.reverse.findSome? Edit.id?

/-- The last payload that is given in a run of changes. -/
def lastPayload? (es : List Edit) : Option Bytes := es.reverse.findSome? Edit.payload?

theorem lastId?_cons (e : Edit) (es : List Edit) :
    lastId? (e :: es) = (lastId? es).or e.id? := by
  simp [lastId?, List.findSome?_append]

theorem lastPayload?_cons (e : Edit) (es : List Edit) :
    lastPayload? (e :: es) = (lastPayload? es).or e.payload? := by
  simp [lastPayload?, List.findSome?_append]

/-- One Interest comes from another one, which has a name, by changes that write to some fields. Of
the identifiers and the payloads in them `id` and `payload` are the last. -/
structure Follows (name : Name) (id : Option PayloadId) (payload : Option Bytes)
    (changed : List Field) (i j : Interest) : Prop where
  name : j.name = .ok (name.identified id)
  payload : j.payload? = payload.or i.payload?
  frame : Message.Frame changed i.message j.message

theorem Follows.trans {id id' : Option PayloadId} {payload payload' : Option Bytes}
    {changed changed' : List Field} (h : Follows name id payload changed i j)
    (h' : Follows (name.identified id) id' payload' changed' j k) :
    Follows name (id'.or id) (payload'.or payload) (changed ++ changed') i k := by
  constructor
  · rw [h'.name, Name.identified_identified]
  · rw [h'.payload, h.payload, Option.or_assoc]
  · exact h.frame.append h'.frame

theorem Follows.payloadId {id : PayloadId} {payload : Option Bytes} {changed : List Field}
    (h : Follows name (some id) payload changed i j) : j.payloadId? = .ok (some id) := by
  have hlast := name.base.last?_append id.segment
  rw [payloadId?, h.name, Name.identified]
  exact congrArg Except.ok (PayloadId.ofName?_eq_some_iff.mpr hlast)

/-! ### One change -/

/-- A change of a field that is neither the name nor the payload. -/
theorem follows_set (hname : i.name = .ok name) {f : Field} {v : Value}
    (hf : f ∉ [Field.name, .payload]) :
    Follows name none none [f] i ⟨i.message.set f v, i.kind_eq⟩ := by
  have hframe : Message.Frame [f] i.message (i.message.set f v) := .set _ List.mem_cons_self v
  have hne : ∀ g ∈ [Field.name, .payload], g ∉ [f] := fun g hg hmem =>
    hf (List.mem_singleton.mp hmem ▸ hg)
  refine ⟨?_, hframe.content? (hne .payload (by simp)), hframe⟩
  rw [Interest.name, nameOf] at hname ⊢
  rw [hframe.name? (hne .name (by simp))]
  exact hname

theorem follows_setPayload (hname : i.name = .ok name) (payload : Bytes) :
    Follows name none (some payload) [.payload] i (i.setPayload payload) :=
  ⟨hname, rfl, .set _ List.mem_cons_self _⟩

theorem follows_setPayloadWithId (hname : i.name = .ok name) (payload : Bytes) (id : PayloadId) :
    ∃ j, i.setPayloadWithId payload id = .ok j ∧
      Follows name (some id) (some payload) [.name, .payload] i j := by
  refine ⟨_, setPayloadWithId_eq hname payload id, ?_, rfl, ?_⟩
  · rw [Name.identified, ← withoutPayloadId_eq_base]
    rfl
  · exact .trans (.set _ (by simp) _) (.set _ (by simp) _)

theorem follows_edit (hname : i.name = .ok name) (e : Edit) :
    ∃ j, i.edit e = .ok j ∧ Follows name e.id? e.payload? e.fields i j := by
  cases e with
  | lifetime lifetime => exact ⟨_, rfl, follows_set hname (by decide)⟩
  | hopLimit hopLimit => exact ⟨_, rfl, follows_set hname (by decide)⟩
  | payload payload => exact ⟨_, rfl, follows_setPayload hname payload⟩
  | payloadAndId payload =>
    obtain ⟨j, hj, hfollows⟩ := follows_setPayloadWithId hname payload (.ofDigest payload)
    refine ⟨j, ?_, hfollows⟩
    rw [edit, setPayloadAndId, hj]
    rfl
  | payloadWithId payload id => exact follows_setPayloadWithId hname payload id

/-! ### A run of changes -/

/-- An Interest with a name keeps one, so every change can be made after every other. -/
theorem follows_edits (hname : i.name = .ok name) (es : List Edit) :
    ∃ j, es.foldlM edit i = .ok j ∧
      Follows name (lastId? es) (lastPayload? es) (es.flatMap Edit.fields) i j := by
  -- The rest of the run starts with the Interest and the name that the first change leaves.
  induction es generalizing i name with
  | nil => exact ⟨i, rfl, hname, rfl, .refl _ _⟩
  | cons e es ih =>
    obtain ⟨k, hk, hfirst⟩ := follows_edit hname e
    obtain ⟨j, hj, hrest⟩ := ih hfirst.name
    refine ⟨j, ?_, ?_⟩
    · rw [List.foldlM_cons, hk]
      exact hj
    · rw [lastId?_cons, lastPayload?_cons, List.flatMap_cons]
      exact hfirst.trans hrest

/-- What a run of changes makes of an Interest with a name. -/
structure Ran (i : Interest) (name : Name) (es : List Edit) (j : Interest) : Prop where
  unidentified : lastId? es = none → j.name = .ok name
  identified : ∀ id ∈ lastId? es, j.name = .ok (name.base.append id.segment)
  payloadId : ∀ id ∈ lastId? es, j.payloadId? = .ok (some id)
  base : ∀ n, j.name = .ok n → n.base = name.base
  payload : j.payload? = (lastPayload? es).or i.payload?
  frame : Message.Frame (es.flatMap Edit.fields) i.message j.message
  payloads : (∀ e ∈ es, e.payload?.isSome) → Message.Frame [.name, .payload] i.message j.message

theorem Follows.ran {es : List Edit}
    (h : Follows name (lastId? es) (lastPayload? es) (es.flatMap Edit.fields) i j) :
    Ran i name es j := by
  refine ⟨fun hnone => ?_, fun id hid => ?_, fun id hid => ?_, fun n hn => ?_, h.payload, h.frame,
    fun hall => h.frame.mono fun f hf => ?_⟩
  · rw [h.name, hnone, Name.identified]
  · rw [h.name, Option.mem_def.mp hid, Name.identified]
  · exact (Option.mem_def.mp hid ▸ h).payloadId
  · rw [h.name] at hn
    cases hn
    exact name.base_identified _
  · obtain ⟨e, he, hf⟩ := List.mem_flatMap.mp hf
    exact Edit.fields_subset (hall e he) hf

/-- After any run of changes the name is as it was, or its base with the last identifier behind it.
A digest that is set next takes the place of that identifier. -/
theorem edits_identify (hname : i.name = .ok name) (es : List Edit) :
    ∃ j, es.foldlM edit i = .ok j ∧ Ran i name es j ∧
      (∀ payload, ∃ k id, j.setPayloadAndId payload = .ok (k, id) ∧
        k.payloadId? = .ok (some id) ∧ k.name = .ok (name.base.append id.segment) ∧
        k.payload? = some payload ∧
        id.typeCode = 0x01 ∧ id.identifier = Sha256.digest payload) ∧
      ∀ id : PayloadId, id.value = id.typeCode :: id.identifier ∧
        ∀ s, PayloadId.ofSegment? s = some id ↔ s = id.segment := by
  obtain ⟨j, hj, hfollows⟩ := follows_edits hname es
  refine ⟨j, hj, hfollows.ran, fun payload => ?_,
    fun id => ⟨id.value_eq, fun _ => PayloadId.ofSegment?_eq_some_iff⟩⟩
  obtain ⟨k, hk, hdigest⟩ := follows_setPayloadWithId hfollows.name payload (.ofDigest payload)
  have hbase : k.name = .ok (name.base.append (PayloadId.ofDigest payload).segment) := by
    rw [hdigest.name, Name.identified_identified]
    rfl
  refine ⟨k, .ofDigest payload, ?_, hdigest.payloadId, hbase, hdigest.payload,
    PayloadId.typeCode_create .., PayloadId.identifier_create ..⟩
  rw [setPayloadAndId, hk]
  rfl

/-- A name with three identifiers at its end, the second without a value. -/
def Sample.stacked : Name :=
  ⟨[.ofType .name [0x61], .ofType .payloadId [1, 2], .ofType .payloadId [], .ofType .payloadId [9]]⟩

/-- Only the last of the three gives way, however often an identifier is set. -/
theorem edits_identify_stacked :
    (simple Sample.stacked).name = .ok Sample.stacked ∧
      ∃ j, [.payload [7], .payloadAndId [8], .lifetime 5, .payloadWithId [7] (.create [6] 5),
          .payload []].foldlM edit (simple Sample.stacked) = .ok j ∧
        j.name = .ok ⟨[.ofType .name [0x61], .ofType .payloadId [1, 2], .ofType .payloadId [],
          .ofType .payloadId [5, 6]]⟩ ∧
        j.payloadId? = .ok (some (.create [6] 5)) ∧ j.payload? = some [] := by
  obtain ⟨j, hj, hran, -⟩ := edits_identify (i := simple Sample.stacked) rfl
    [.payload [7], .payloadAndId [8], .lifetime 5, .payloadWithId [7] (.create [6] 5), .payload []]
  exact ⟨rfl, j, hj, hran.identified _ rfl, hran.payloadId _ rfl, hran.payload⟩

end Interest

end NamedContent
