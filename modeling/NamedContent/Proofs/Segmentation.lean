import NamedContent.Proofs.Ranges

/-!
# Packets in segments

A packet in segments is hashed and verified as it is in one piece, however it is cut. All that is
read of a range is its bytes in a row (`WireMessage.bytesIn`), and these are the same for two forms
of one packet, as is the fault when the range does not lie in the packet.

* `WireForm.flatten_slices?`: when a range has parts, and what they are together.
* `hashRegion_eq`, `verify_eq`: what is read of a range.
* `segments_read_alike`: the two forms of a packet, side by side.
-/

namespace NamedContent

/-! ## Digests in pieces -/

namespace Digester

/-- Pieces that are taken in one after the other count as their concatenation, and a state that was
started anew has forgotten what it took in before. -/
structure Lawful {σ : Type} (d : Digester σ) : Prop where
  pieces : ∀ (state : σ) (pieces : List Bytes),
    d.digest (pieces.foldl d.update state) = d.digest (d.update state pieces.flatten)
  restart : ∀ (state state' : σ) (b : Bytes), d.oneShot state b = d.oneShot state' b

end Digester

namespace Hasher

theorem oneShot_digester (hasher : Hasher) (b : Bytes) :
    digester.oneShot hasher b = Sha256.digest b := by
  show Sha256.digest ([] ++ b) = Sha256.digest b
  rw [List.nil_append]

theorem lawful_digester : digester.Lawful := by
  constructor
  · intro hasher pieces
    have hpending : (pieces.foldl update hasher).pending = (hasher.update pieces.flatten).pending :=
      pending_updates hasher pieces
    exact congrArg Sha256.digest hpending
  · intro hasher hasher' b
    rw [oneShot_digester, oneShot_digester]

end Hasher

/-! ## Ranges of a form -/

namespace WireForm

theorem slices?_eq_none (w : WireForm) {start stop : Nat}
    (h : stop < start ∨ w.length < stop) : w.slices? start stop = none := by
  cases w with
  | buffer b => exact if_pos h
  | scatter s => exact if_pos h

/-- A range has parts exactly when it lies in the packet, and then they are its bytes. -/
theorem flatten_slices? (w : WireForm) (start stop : Nat) :
    (w.slices? start stop).map List.flatten =
      if start ≤ stop ∧ stop ≤ w.length then some (Bytes.slice start stop w.toBytes) else none := by
  by_cases h : start ≤ stop ∧ stop ≤ w.length
  · obtain ⟨parts, hparts, hflatten⟩ := w.exists_slices h.1 h.2
    rw [if_pos h, hparts, Option.map_some, hflatten]
  · rw [if_neg h, w.slices?_eq_none (by omega), Option.map_none]

end WireForm

/-! ## What is read of a range -/

namespace WireMessage

variable {w w' : WireMessage} {form form' : WireForm} {σ : Type} {d : Digester σ}

/-- The bytes of a range of the packet, in a row. -/
def bytesIn (w : WireMessage) (region : Region) : Except WireError Bytes :=
  (w.slices region).map List.flatten

theorem bytesIn_eq (hform : w.form = some form) (region : Region) :
    w.bytesIn region =
      if region.stop ≤ form.length then .ok (Bytes.slice region.start region.stop form.toBytes)
      else .error (.regionOutOfBounds region form.length) := by
  by_cases hstop : region.stop ≤ form.length
  · obtain ⟨parts, hparts, hflatten⟩ := slices_eq hform hstop
    rw [if_pos hstop, bytesIn, hparts, ← hflatten]
    rfl
  · have hnone : form.slices? region.start region.stop = none :=
      form.slices?_eq_none (.inr (Nat.lt_of_not_le hstop))
    rw [if_neg hstop, bytesIn, slices, hform]
    simp only [hnone]
    rfl

/-- Of two forms of one packet the same is read. -/
theorem bytesIn_congr (hform : w.form = some form) (hform' : w'.form = some form')
    (hbytes : form'.toBytes = form.toBytes) (region : Region) :
    w'.bytesIn region = w.bytesIn region := by
  rw [bytesIn_eq hform, bytesIn_eq hform', ← form.length_toBytes, ← form'.length_toBytes, hbytes]

/-- A range is hashed as its bytes in one piece are. -/
theorem hashRegion_eq (hd : d.Lawful) (w : WireMessage) (region : Region) (state fresh : σ) :
    w.hashRegion region d state = (w.bytesIn region).map (d.oneShot fresh) := by
  rw [hashRegion, bytesIn]
  cases w.slices region with
  | error e => rfl
  | ok parts =>
    have hdigest : d.digest (parts.foldl d.update (d.restart state)) =
        d.oneShot fresh parts.flatten := by
      rw [hd.pieces]
      exact hd.restart state fresh parts.flatten
    exact congrArg Except.ok hdigest

/-- A signature is verified over the bytes of the signed range. -/
theorem verify_eq (w : WireMessage) (verifier : Verifier) :
    w.verify verifier = match w.message.bytes? .signature with
      | none => .error .noSignature
      | some signature => w.signedRegion >>= fun region =>
          (w.bytesIn region).map fun covered => verifier.verify covered signature := by
  rw [verify]
  cases w.message.bytes? .signature with
  | none => rfl
  | some signature =>
    cases hregion : w.signedRegion with
    | error e => rfl
    | ok region =>
      simp only [bytesIn, bind, Except.bind]
      cases w.slices region <;> rfl

theorem hashRegion_congr (hd : d.Lawful) {region : Region}
    (h : w'.bytesIn region = w.bytesIn region) (state : σ) :
    w'.hashRegion region d state = w.hashRegion region d state := by
  rw [hashRegion_eq hd w' region state state, h, ← hashRegion_eq hd w]

/-! ## The two forms of a packet -/

/-- A packet in segments and the same packet in one piece are as long as each other, and what is
hashed and verified of them is the same, whatever the ranges and whatever the digester took in
before: the digest of the bytes in the range, or the fault that the range does not lie in the
packet. A range of segments has parts when it lies in the packet, and these are its bytes. -/
theorem segments_read_alike (hd : d.Lawful) (segments : List Bytes) (m : Message)
    (signed hashed : Option Region) :
    let b := segments.flatten
    let whole : WireMessage := { message := m, form := some (.buffer b), signed, hashed }
    let cut : WireMessage := { message := m, form := some (.scatter ⟨segments⟩), signed, hashed }
    cut.length? = whole.length? ∧
      (∀ verifier, cut.verify verifier = whole.verify verifier) ∧
      cut.contentHash = whole.contentHash ∧
      (∀ state, cut.hashSigned d state = whole.hashSigned d state) ∧
      (∀ region state, cut.hashRegion region d state = whole.hashRegion region d state) ∧
      (∀ region state fresh, whole.hashRegion region d state =
        if region.stop ≤ b.length then
          .ok (d.oneShot fresh (Bytes.slice region.start region.stop b))
        else .error (.regionOutOfBounds region b.length)) ∧
      ∀ start stop, ((Scatter.mk segments).slices? start stop).map List.flatten =
        if start ≤ stop ∧ stop ≤ b.length then some (Bytes.slice start stop b) else none := by
  intro b whole cut
  have hwhole : whole.form = some (.buffer b) := rfl
  have hcut : cut.form = some (.scatter ⟨segments⟩) := rfl
  have hsame : ∀ region, cut.bytesIn region = whole.bytesIn region := bytesIn_congr hwhole hcut rfl
  refine ⟨rfl, fun verifier => ?_, ?_, fun state => ?_,
    fun region state => hashRegion_congr hd (hsame region) state, fun region state fresh => ?_,
    (WireForm.scatter ⟨segments⟩).flatten_slices?⟩
  · rw [verify_eq, verify_eq]
    simp only [hsame]
    rfl
  · cases hashed with
    | none => rfl
    | some region => exact hashRegion_congr Hasher.lawful_digester (hsame region) .init
  · cases signed with
    | none => rfl
    | some region => exact hashRegion_congr hd (hsame region) state
  · rw [hashRegion_eq hd whole region state fresh, bytesIn_eq hwhole]
    show Except.map (d.oneShot fresh) (if region.stop ≤ b.length then _ else _) = _
    split
    · rfl
    · rfl

/-! Three bytes in three segments, one of which is empty, with a signed range that two of them share
and a hashed range that goes beyond the end; the hasher was used before. -/

theorem segments_read_alike_sample :
    let m := (Message.empty .interest).set .signature (.bytes [2, 3])
    let cut : WireMessage :=
      { message := m, form := some (.scatter ⟨[[1, 2], [], [3]]⟩), signed := some ⟨1, 2⟩,
        hashed := some ⟨2, 2⟩ }
    Hasher.digester.Lawful ∧
      cut.verify ⟨fun covered signature => covered == signature⟩ = .ok true ∧
      cut.contentHash = .error (.regionOutOfBounds ⟨2, 2⟩ 3) ∧
      cut.hashSigned Hasher.digester ⟨[9]⟩ = .ok (Sha256.digest [2, 3]) := by
  intro m cut
  obtain ⟨-, hverify, hcontent, hsigned, -, hregion, -⟩ :=
    segments_read_alike Hasher.lawful_digester [[1, 2], [], [3]] m (some ⟨1, 2⟩) (some ⟨2, 2⟩)
  refine ⟨Hasher.lawful_digester, (hverify _).trans rfl, hcontent.trans rfl, ?_⟩
  rw [← Hasher.oneShot_digester .init]
  exact (hsigned ⟨[9]⟩).trans (hregion ⟨1, 2⟩ ⟨[9]⟩ .init)

end WireMessage

end NamedContent
