import NamedContent.Proofs.Repetition
import NamedContent.Proofs.Segmentation
import NamedContent.Wire.Record

/-!
# Wire records over whole runs

A wire record starts without a packet, with one that it was given, or with one that was read; then
packets are put into it and its message is written, in any order, and each of this may fail. Its
packet stands in one place at most, and its ranges are always those of the packet it has.

* `step_cases`: all that one request can do to a record.
* `Consistent.step`, `Consistent.after`: what every request, and so every run, keeps.
* `after_consistent`: what can be told of a record after a run.
-/

namespace NamedContent

/-! ## Ranges of one packet -/

namespace Packet

variable {m : Message} {signer : Option Signer} {config : Config} {now : UInt64} {b : Bytes}

/-- The signed and the hashed range of a packet both start where its headers end. The hashed range
goes on to the end of the packet, and the signed one no further. -/
structure Ranged (packet : Bytes) (signed hashed : Region) : Prop where
  start : signed.start = hashed.start
  headers : fixedHeaderLength ≤ signed.start
  signed : signed.stop ≤ hashed.stop
  hashed : hashed.stop = packet.length

theorem ranged_layout (p : Layout) : Ranged p.toBytes p.signed p.hashed := by
  have hhashed : p.hashed.stop = p.toBytes.length := p.length_toBytes.symm
  exact ⟨rfl, p.fixedHeaderLength_le, hhashed ▸ p.signed_stop_le, hhashed⟩

theorem ranged_of_decode {d : Decoded} (hok : decode b = .ok d) :
    Ranged d.packet d.signed d.hashed := by
  obtain ⟨p, -, behind, -, rfl⟩ := exists_layout_of_decode hok
  exact ranged_layout p

theorem ranged_of_encode {e : Encoded} (hok : encode m signer config now = .ok e) :
    Ranged e.wire.toBytes e.signed e.hashed := by
  obtain ⟨hspells, -⟩ := spells_of_encode hok
  rw [hspells.wire, hspells.signed, hspells.hashed]
  exact ranged_layout _

end Packet

namespace WireRecord

/-! ## Requests -/

/-- What is asked of a record. -/
inductive Request
  | setBuffer (b : Bytes)
  | setSegments (s : Scatter)
  | encode (signer : Option Signer) (config : Config) (now : UInt64)

/-- Serves one request. -/
def step (r : WireRecord) : Request → Except WireError Unit × WireRecord
  | .setBuffer b => r.setBuffer b
  | .setSegments s => r.setSegments s
  | .encode signer config now =>
    match r.encode signer config now with
    | (result, left) => (result.map fun _ => (), left)

/-- The record after requests in a row. -/
def after (r : WireRecord) (rs : List Request) : WireRecord :=
  rs.foldl (fun r request => (r.step request).2) r

/-- The records that requests begin with. -/
inductive Started : WireRecord → Prop
  | create (m : Message) : Started (.create m)
  | ofBuffer (m : Message) (b : Bytes) : Started (.ofBuffer m b)
  | ofScatter (m : Message) (s : Scatter) : Started (.ofScatter m s)
  | decoded {b : Bytes} {r : WireRecord} : decode b = .ok r → Started r

/-- Some request of a run wrote the message. -/
def Writes (r : WireRecord) (rs : List Request) : Prop :=
  ∃ before signer config now later wire, rs = before ++ .encode signer config now :: later ∧
    ((r.after before).encode signer config now).1 = .ok wire

/-- The record of a message as it was written. -/
def ofEncoded (e : Packet.Encoded) : WireRecord :=
  { message := e.message, segments := some e.wire, signed := some e.signed,
    hashed := some e.hashed }

variable {r : WireRecord} {request : Request} {rs : List Request} {signer : Option Signer}
  {config : Config} {now : UInt64}

@[simp] theorem after_cons (r : WireRecord) (request : Request) (rs : List Request) :
    r.after (request :: rs) = (r.step request).2.after rs := rfl

@[simp] theorem step_encode (r : WireRecord) (signer : Option Signer) (config : Config)
    (now : UInt64) :
    (r.step (.encode signer config now)).2 = (r.encode signer config now).2 := rfl

theorem after_append (r : WireRecord) (rs ss : List Request) :
    r.after (rs ++ ss) = (r.after rs).after ss := List.foldl_append

/-! ## One request -/

theorem setBuffer_of_hasForm (h : r.hasForm = true) (b : Bytes) :
    r.setBuffer b = (.error .alreadySet, r) := if_pos h

theorem setSegments_of_hasForm (h : r.hasForm = true) (s : Scatter) :
    r.setSegments s = (.error .alreadySet, r) := if_pos h

theorem encode_of_fault {fault : EncodeError}
    (h : Packet.encode r.message signer config now = .error fault) :
    r.encode signer config now = (.error (.encode fault), r) := by
  rw [encode, Packet.encodeInPlace_of_fault h]

theorem encode_of_encode {e : Packet.Encoded}
    (h : Packet.encode r.message signer config now = .ok e) :
    r.encode signer config now = (.ok e.wire, ofEncoded e) := by
  rw [encode, Packet.encodeInPlace_of_encode h]
  rfl

/-- A message is written with its packet and its ranges, or nothing changes. -/
theorem encode_cases (r : WireRecord) (signer : Option Signer) (config : Config) (now : UInt64) :
    (∃ fault, r.encode signer config now = (.error fault, r)) ∨
      ∃ e, Packet.encode r.message signer config now = .ok e ∧
        r.encode signer config now = (.ok e.wire, ofEncoded e) := by
  cases hok : Packet.encode r.message signer config now with
  | error fault => exact .inl ⟨.encode fault, encode_of_fault hok⟩
  | ok e => exact .inr ⟨e, rfl, encode_of_encode hok⟩

/-- To write a record is to write the wire message that it shows. -/
theorem wire_encode (r : WireRecord) (signer : Option Signer) (config : Config) (now : UInt64) :
    r.wire.encode signer config now =
      (r.encode signer config now).1.map fun _ => (r.encode signer config now).2.wire := by
  rw [WireMessage.encode]
  cases hok : Packet.encode r.message signer config now with
  | error fault =>
    rw [encode_of_fault hok]
    simp only [wire, hok]
    rfl
  | ok e =>
    rw [encode_of_encode hok]
    simp only [wire, hok]
    rfl

theorem wire_decode (b : Bytes) : (decode b).map wire = WireMessage.decode b := by
  rw [decode, WireMessage.decode]
  cases Packet.decode b <;> rfl

/-- All that a request can do: it fails and changes nothing, it fills a place of a record without a
packet, or it writes the message. -/
theorem step_cases (r : WireRecord) (request : Request) :
    (∃ fault, r.step request = (.error fault, r)) ∨
      (r.hasForm = false ∧ ∃ b, request = .setBuffer b ∧
        r.step request = (.ok (), { r with buffer := some b })) ∨
      (r.hasForm = false ∧ ∃ s, request = .setSegments s ∧
        r.step request = (.ok (), { r with segments := some s })) ∨
      ∃ signer config now e, request = .encode signer config now ∧
        Packet.encode r.message signer config now = .ok e ∧
          (r.encode signer config now).1 = .ok e.wire ∧ r.step request = (.ok (), ofEncoded e) := by
  cases request with
  | setBuffer b =>
    cases hform : r.hasForm with
    | true => exact .inl ⟨_, setBuffer_of_hasForm hform b⟩
    | false => exact .inr (.inl ⟨rfl, b, rfl, if_neg (by simp [hform])⟩)
  | setSegments s =>
    cases hform : r.hasForm with
    | true => exact .inl ⟨_, setSegments_of_hasForm hform s⟩
    | false => exact .inr (.inr (.inl ⟨rfl, s, rfl, if_neg (by simp [hform])⟩))
  | encode signer config now =>
    rcases r.encode_cases signer config now with ⟨fault, heq⟩ | ⟨e, hok, heq⟩
    · refine .inl ⟨fault, ?_⟩
      simp only [step, heq]
      rfl
    · refine .inr (.inr (.inr ⟨signer, config, now, e, rfl, hok, by rw [heq], ?_⟩))
      simp only [step, heq]
      rfl

/-! ## What a run keeps -/

theorem form?_eq_none (h : r.hasForm = false) : r.form? = none := by
  simp only [hasForm, Bool.or_eq_false_iff, Option.isSome_eq_false_iff,
    Option.isNone_iff_eq_none] at h
  rw [form?, h.1, h.2]

/-- A record that has a packet goes on having one. -/
theorem hasForm_step (h : r.hasForm = true) (request : Request) :
    (r.step request).2.hasForm = true := by
  rcases r.step_cases request with ⟨_, heq⟩ | ⟨hnone, -⟩ | ⟨hnone, -⟩ | ⟨_, _, _, e, -, -, -, heq⟩
  · rwa [heq]
  · rw [h] at hnone
    cases hnone
  · rw [h] at hnone
    cases hnone
  · rw [heq]
    rfl

theorem hasForm_after (h : r.hasForm = true) (rs : List Request) : (r.after rs).hasForm = true := by
  induction rs generalizing r with
  | nil => exact h
  | cons request rs ih => exact ih (hasForm_step h request)

/-- The packet of a record is in one place at most, and the ranges are both absent, or those of the
packet that the record has. -/
structure Consistent (r : WireRecord) : Prop where
  exclusive : r.buffer = none ∨ r.segments = none
  ranges : r.signed = none ∧ r.hashed = none ∨
    ∃ form signed hashed, r.form? = some form ∧ r.signed = some signed ∧ r.hashed = some hashed ∧
      Packet.Ranged form.toBytes signed hashed

theorem consistent_ofEncoded {e : Packet.Encoded}
    (h : Packet.Ranged e.wire.toBytes e.signed e.hashed) : (ofEncoded e).Consistent :=
  ⟨.inl rfl, .inr ⟨.scatter e.wire, e.signed, e.hashed, rfl, rfl, rfl, h⟩⟩

namespace Consistent

theorem of_started (h : r.Started) : r.Consistent := by
  cases h with
  | create m => exact ⟨.inl rfl, .inl ⟨rfl, rfl⟩⟩
  | ofBuffer m b => exact ⟨.inr rfl, .inl ⟨rfl, rfl⟩⟩
  | ofScatter m s => exact ⟨.inl rfl, .inl ⟨rfl, rfl⟩⟩
  | decoded h =>
    rw [decode] at h
    obtain ⟨d, hd, rfl⟩ := map_eq_ok_iff.mp h
    exact ⟨.inr rfl, .inr ⟨.buffer d.packet, d.signed, d.hashed, rfl, rfl, rfl,
      Packet.ranged_of_decode hd⟩⟩

/-- Without a packet there are no ranges. -/
theorem unranged (h : r.Consistent) (hform : r.hasForm = false) :
    r.signed = none ∧ r.hashed = none := by
  rcases h.ranges with hnone | ⟨form, _, _, hsome, -⟩
  · exact hnone
  · rw [form?_eq_none hform] at hsome
    cases hsome

theorem step (h : r.Consistent) (request : Request) : (r.step request).2.Consistent := by
  rcases r.step_cases request with
    ⟨_, heq⟩ | ⟨hform, b, -, heq⟩ | ⟨hform, s, -, heq⟩ | ⟨_, _, _, e, -, hok, -, heq⟩
  · rwa [heq]
  -- A place is filled only where both are empty, and then there are no ranges either.
  · rw [heq]
    simp only [hasForm, Bool.or_eq_false_iff, Option.isSome_eq_false_iff,
      Option.isNone_iff_eq_none] at hform
    exact ⟨.inr hform.2, .inl (h.unranged (by simp [hasForm, hform]))⟩
  · rw [heq]
    simp only [hasForm, Bool.or_eq_false_iff, Option.isSome_eq_false_iff,
      Option.isNone_iff_eq_none] at hform
    exact ⟨.inl hform.1, .inl (h.unranged (by simp [hasForm, hform]))⟩
  · rw [heq]
    exact consistent_ofEncoded (Packet.ranged_of_encode hok)

theorem after (h : r.Consistent) (rs : List Request) : (r.after rs).Consistent := by
  induction rs generalizing r with
  | nil => exact h
  | cons request rs ih => exact ih (h.step request)

theorem hashed_isSome (h : r.Consistent) : r.hashed.isSome = r.signed.isSome := by
  rcases h.ranges with ⟨hs, hh⟩ | ⟨_, _, _, -, hs, hh, -⟩
  · rw [hs, hh]
  · rw [hs, hh]
    rfl

theorem ranged (h : r.Consistent) {signed hashed : Region} (hsigned : r.signed = some signed)
    (hhashed : r.hashed = some hashed) :
    ∃ form, r.form? = some form ∧ Packet.Ranged form.toBytes signed hashed := by
  rcases h.ranges with ⟨hs, -⟩ | ⟨form, _, _, hform, hs, hh, hranged⟩
  · rw [hsigned] at hs
    cases hs
  · obtain rfl := Option.some.inj (hsigned.symm.trans hs)
    obtain rfl := Option.some.inj (hhashed.symm.trans hh)
    exact ⟨form, hform, hranged⟩

end Consistent

/-! ## Where ranges come from -/

/-- A request gives a record ranges when it writes the message, and takes none away. -/
theorem signed_step_isSome (r : WireRecord) (request : Request) :
    (r.step request).2.signed.isSome ↔ r.signed.isSome ∨ ∃ signer config now wire,
      request = .encode signer config now ∧ (r.encode signer config now).1 = .ok wire := by
  rcases r.step_cases request with
    ⟨fault, heq⟩ | ⟨-, b, rfl, heq⟩ | ⟨-, s, rfl, heq⟩ | ⟨signer, config, now, e, rfl, -, hok, heq⟩
  · rw [heq]
    refine ⟨.inl, Or.rec id ?_⟩
    rintro ⟨signer, config, now, wire, rfl, hok⟩
    -- A request that fails has not written anything.
    have hfault : ((r.step (.encode signer config now)).1) = .error fault := by rw [heq]
    have hdone : ((r.step (.encode signer config now)).1) = .ok () := by
      show (r.encode signer config now).1.map (fun _ => ()) = .ok ()
      rw [hok]
      rfl
    rw [hdone] at hfault
    cases hfault
  · rw [heq]
    simp
  · rw [heq]
    simp
  · rw [heq]
    exact ⟨fun _ => .inr ⟨signer, config, now, e.wire, rfl, hok⟩, fun _ => rfl⟩

theorem writes_nil (r : WireRecord) : ¬ r.Writes [] := by
  rintro ⟨before, signer, config, now, later, wire, heq, -⟩
  cases before <;> cases heq

theorem writes_cons (r : WireRecord) (request : Request) (rs : List Request) :
    r.Writes (request :: rs) ↔
      (∃ signer config now wire, request = .encode signer config now ∧
        (r.encode signer config now).1 = .ok wire) ∨ (r.step request).2.Writes rs := by
  constructor
  · rintro ⟨before, signer, config, now, later, wire, heq, hok⟩
    cases before with
    | nil =>
      obtain ⟨rfl, rfl⟩ := List.cons.inj heq
      exact .inl ⟨signer, config, now, wire, rfl, hok⟩
    | cons first before =>
      obtain ⟨rfl, rfl⟩ := List.cons.inj heq
      exact .inr ⟨before, signer, config, now, later, wire, rfl, hok⟩
  · rintro (⟨signer, config, now, wire, rfl, hok⟩ |
      ⟨before, signer, config, now, later, wire, rfl, hok⟩)
    · exact ⟨[], signer, config, now, rs, wire, rfl, hok⟩
    · exact ⟨request :: before, signer, config, now, later, wire, rfl, hok⟩

/-- A record has ranges after a run when it had them before, or the run wrote the message. -/
theorem signed_after_isSome (r : WireRecord) (rs : List Request) :
    (r.after rs).signed.isSome ↔ r.signed.isSome ∨ r.Writes rs := by
  induction rs generalizing r with
  | nil => exact (or_iff_left r.writes_nil).symm
  | cons request rs ih =>
    rw [after_cons, ih, signed_step_isSome, writes_cons, or_assoc]

/-! ## What can be told of a record -/

/-- The ranges of a packet that a record has can be hashed. -/
theorem hashed_of_ranged {signed hashed : Region} {form : WireForm} (hform : r.form? = some form)
    (hsigned : r.signed = some signed) (hhashed : r.hashed = some hashed)
    (h : Packet.Ranged form.toBytes signed hashed) :
    r.wire.contentHash = .ok (Sha256.digest (Bytes.slice hashed.start hashed.stop form.toBytes)) ∧
      ∀ (σ : Type) (d : Digester σ) (state : σ), ∃ digest,
        r.wire.hashSigned d state = .ok digest := by
  have hstop : hashed.stop ≤ form.toBytes.length := Nat.le_of_eq h.hashed
  have hcovers := WireMessage.covers_of_form (w := r.wire) hform hsigned
    (Nat.le_trans h.signed hstop) hhashed hstop
  refine ⟨hcovers.contentHash, fun σ d state => ?_⟩
  obtain ⟨region, parts, hregion, hparts, -⟩ := hcovers.signed
  refine ⟨d.digest (parts.foldl d.update (d.restart state)), ?_⟩
  simp only [WireMessage.hashSigned, WireMessage.signedRegion, hregion, bind, Except.bind,
    WireMessage.hashRegion, hparts]
  rfl

/-- After every run the packet of a record is in one place at most, and no later request puts
another packet beside it. A message that cannot be written leaves the record as it is. There are
ranges when the packet was read, or the message has been written; then they are ranges of the packet
that the record has, and both can be hashed. -/
theorem after_consistent (hr : r.Started) (rs : List Request) :
    let s := r.after rs
    (s.buffer = none ∨ s.segments = none) ∧
      (s.hasForm = true → ∀ later b segments,
        (s.after later).setBuffer b = (.error .alreadySet, s.after later) ∧
          (s.after later).setSegments segments = (.error .alreadySet, s.after later)) ∧
      (∀ signer config now fault, (s.encode signer config now).1 = .error fault →
        (s.encode signer config now).2 = s) ∧
      (s.signed.isSome ↔ r.signed.isSome ∨ r.Writes rs) ∧
      s.hashed.isSome = s.signed.isSome ∧
      ∀ signed hashed, s.signed = some signed → s.hashed = some hashed → ∃ form,
        s.form? = some form ∧ s.wire.length? = some hashed.stop ∧ signed.start = hashed.start ∧
          fixedHeaderLength ≤ signed.start ∧ signed.stop ≤ hashed.stop ∧
          s.wire.contentHash =
            .ok (Sha256.digest (Bytes.slice hashed.start hashed.stop form.toBytes)) ∧
          ∀ (σ : Type) (d : Digester σ) (state : σ), ∃ digest,
            s.wire.hashSigned d state = .ok digest := by
  intro s
  have hs : s.Consistent := (Consistent.of_started hr).after rs
  refine ⟨hs.exclusive, ?_, ?_, r.signed_after_isSome rs, hs.hashed_isSome, ?_⟩
  · intro hform later b segments
    have hlater := hasForm_after hform later
    exact ⟨setBuffer_of_hasForm hlater b, setSegments_of_hasForm hlater segments⟩
  · intro signer config now fault hfault
    rcases s.encode_cases signer config now with ⟨fault', heq⟩ | ⟨e, -, heq⟩
    · rw [heq]
    · rw [heq] at hfault
      cases hfault
  · intro signed hashed hsigned hhashed
    obtain ⟨form, hform, hranged⟩ := hs.ranged hsigned hhashed
    refine ⟨form, hform, ?_, hranged.start, hranged.headers, hranged.signed,
      hashed_of_ranged hform hsigned hhashed hranged⟩
    show s.form?.map WireForm.length = some hashed.stop
    rw [hform, Option.map_some, hranged.hashed, form.length_toBytes]

/-! The sample with a packet of one byte beside it: another packet is not put there, and the message
is too long for the first settings; then it is written. -/

theorem after_consistent_sample :
    let r := ofBuffer Packet.Sample.message [0xFF]
    let small : Config := { maxPacketLength := 8 }
    let failing : List Request :=
      [.setSegments ⟨[[1], [2]]⟩, .encode (some Packet.Sample.frontSigner) small 7]
    let writing : List Request := failing ++ [.encode (some Packet.Sample.frontSigner) {} 7]
    r.Started ∧ r.after failing = r ∧ ¬ r.Writes failing ∧ r.Writes writing ∧
      ∃ signed hashed, (r.after writing).signed = some signed ∧
        (r.after writing).hashed = some hashed ∧ (r.after writing).hasForm = true ∧
          (r.after writing).setBuffer [] = (.error .alreadySet, r.after writing) ∧
            (r.after writing).wire.length? = some hashed.stop := by
  intro r small failing writing
  have hr : r.Started := .ofBuffer _ _
  obtain ⟨fault, hfault⟩ : ∃ fault,
      Packet.encode Packet.Sample.message (some Packet.Sample.frontSigner) small 7 =
        .error fault := ⟨_, rfl⟩
  obtain ⟨e, hok⟩ : ∃ e,
      Packet.encode Packet.Sample.message (some Packet.Sample.frontSigner) {} 7 = .ok e := ⟨_, rfl⟩
  have hkept : r.after failing = r := by
    have hset : (r.step (.setSegments ⟨[[1], [2]]⟩)).2 = r := rfl
    rw [after_cons, hset, after_cons, step_encode, encode_of_fault (r := r) hfault]
    rfl
  have hwritten : r.after writing = ofEncoded e := by
    rw [after_append, hkept, after_cons, step_encode, encode_of_encode (r := r) hok]
    rfl
  have hwrites : r.Writes writing :=
    ⟨failing, _, _, _, [], e.wire, rfl, by rw [hkept, encode_of_encode (r := r) hok]⟩
  obtain ⟨-, -, -, hunwritten, -⟩ := after_consistent hr failing
  obtain ⟨-, hset, -, -, -, hranges⟩ := after_consistent hr writing
  rw [hwritten] at hset hranges ⊢
  obtain ⟨form, -, hlength, -⟩ := hranges e.signed e.hashed rfl rfl
  refine ⟨hr, hkept, fun h => ?_, hwrites, e.signed, e.hashed, rfl, rfl, rfl,
    (hset rfl [] [] ⟨[]⟩).1, hlength⟩
  have hsome := hunwritten.mpr (.inr h)
  rw [hkept] at hsome
  cases hsome

end WireRecord

end NamedContent
