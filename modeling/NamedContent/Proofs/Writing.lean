import NamedContent.Proofs.FlatVector

/-!
# Writing with lengths filled in

An encoder learns the length of a container only when its content is written. So a container is
opened with the length zero, and the length is filled in at its start afterwards; a container that
turned out to be empty may be cut off again. These steps reach back over bytes already written.
Here they are shown to do no more than append what an emission would, in which the length is known
from the start.

The steps go back to positions that they were told themselves. Their sums never wrap around in an
encoder whose position is a word (`Encoder.closeContainer_eq`).

* `Writing.Performs`: steps do what an emission does, from every encoder.
* `Writing.Performs.bind`, `Writing.Performs.each`: one after another.
* `Writing.Performs.container`, `Writing.Performs.containerUnlessEmpty`: opening, filling in and
  cutting off.
-/

namespace NamedContent

/-- Fills in the length of a container that was opened at `start`. -/
def Encoder.closeContainer (e : Encoder) (start length : Nat) : Except EncodeError Unit × Encoder :=
  if maxLength < length then (.error (.valueTooLong length), e)
  else e.overwrite (start + 2) (Bytes.ofNat 2 length)

/-- Steps of writing: what they do to an encoder, and whether they succeed. -/
def Writing (α : Type) : Type := Encoder → Except EncodeError α × Encoder

namespace Writing

/-! ## Steps -/

/-- Does nothing. -/
def done {α : Type} (a : α) : Writing α := fun e => (.ok a, e)

/-- Fails; what was written stays. -/
def fail {α : Type} (error : EncodeError) : Writing α := fun e => (.error error, e)

/-- Goes on after a success; a failure ends the writing. -/
def andThen {α β : Type} (first : Writing α) (second : α → Writing β) : Writing β := fun e =>
  match first e with
  | (.ok a, e) => second a e
  | (.error error, e) => (.error error, e)

instance : Monad Writing where
  pure := done
  bind := andThen

/-- Appends an element or a header. -/
def append {α : Type} (m : Emit α) : Writing α := fun e => e.emit m

/-- The number of bytes written so far. -/
def position : Writing Nat := fun e => (.ok e.position, e)

/-- The signer of what is written. -/
def signer : Writing (Option Signer) := fun e => (.ok e.signer, e)

/-- Fills in the length of the container that starts at `start`. -/
def setLength (start length : Nat) : Writing Unit := fun e => e.closeContainer start length

/-- Cuts off all bytes from `start` on. -/
def truncate (start : Nat) : Writing Unit := fun e => (.ok (), e.truncate start)

/-- The signature of the bytes at `[start, stop)`, if there is a signer. -/
def signRange (start stop : Nat) : Writing (Option Bytes) := fun e => (e.signRange start stop, e)

/-- Writes one after the other, and adds up the numbers of bytes. -/
def each {δ : Type} (write : δ → Writing Nat) : List δ → Writing Nat
  | [] => return 0
  | d :: rest => do
    let first ← write d
    let others ← each write rest
    return first + others

/-- Opens a container, writes its content, and closes it with what is known then: where it starts,
the length of its header and that of its content. -/
def opened (type : UInt16) (content : Writing Nat)
    (close : (start head inner : Nat) → Writing Nat) : Writing Nat := do
  let start ← position
  let head ← append (Emit.header type 0)
  let inner ← content
  close start head inner

/-- Fills in the length of a container. -/
def fill (start head inner : Nat) : Writing Nat := do
  setLength start inner
  return head + inner

/-- Fills in the length of a container, unless it is empty and is cut off again. -/
def fillOrDrop (start head inner : Nat) : Writing Nat :=
  if inner = 0 then do
    truncate start
    return 0
  else fill start head inner

/-- Writes a container. -/
def container (type : UInt16) (content : Writing Nat) : Writing Nat := opened type content fill

/-- Writes a container, unless nothing is in it. -/
def containerUnlessEmpty (type : UInt16) (content : Writing Nat) : Writing Nat :=
  opened type content fillOrDrop

end Writing

/-! ## Emissions step by step -/

namespace Flat

/-- A vector with pieces behind it. -/
def append (v : Flat) (pieces : List Piece) : Flat :=
  ⟨v.bytes ++ Piece.concat pieces, v.pins ++ Piece.allPins pieces⟩

theorem append_nil (v : Flat) : v.append [] = v := by
  simp [append]

theorem append_append (v : Flat) (ps qs : List Piece) :
    (v.append ps).append qs = v.append (ps ++ qs) := by
  simp [append]

/-- The length of a container is filled in where its header is. -/
theorem splice_append_header (v : Flat) (type : UInt16) (length : Nat) (pieces : List Piece) :
    (v.append (.copied (Tlv.header type 0) :: pieces)).splice (v.bytes.length + 2)
        (Bytes.ofNat 2 length) = v.append (.copied (Tlv.header type length) :: pieces) := by
  have htype : (Bytes.ofNat 2 type.toNat).length = 2 := Bytes.length_ofNat 2 _
  -- The data passes over the bytes of the vector, and then over the type of the container.
  have hsplice : Bytes.splice (v.bytes.length + 2) (Bytes.ofNat 2 length)
      (v.bytes ++ (Tlv.header type 0 ++ Piece.concat pieces)) =
        v.bytes ++ (Tlv.header type length ++ Piece.concat pieces) := by
    rw [Bytes.splice_append_of_le (Nat.le_add_right _ _), Nat.add_sub_cancel_left, Tlv.header,
      List.append_assoc, Bytes.splice_append_of_le (Nat.le_of_eq htype), htype, Bytes.splice,
      Tlv.header, List.append_assoc]
    have hold : (Bytes.ofNat 2 0 ++ Piece.concat pieces).drop (Bytes.ofNat 2 length).length =
        Piece.concat pieces := List.drop_left' (by rw [Bytes.length_ofNat, Bytes.length_ofNat])
    have hall : (Bytes.ofNat 2 length).take (Bytes.ofNat 2 0 ++ Piece.concat pieces).length =
        Bytes.ofNat 2 length := List.take_of_length_le (by simp [Bytes.length_ofNat])
    rw [List.take_zero, List.nil_append, Nat.sub_self, Nat.sub_zero, Nat.zero_add, hold, hall,
      List.append_assoc]
  simp only [splice, append, Piece.concat_cons, Piece.allPins_cons, Piece.bytes, Piece.pins,
    hsplice, Tlv.length_header]

/-- None of the bytes in which the length of a container is filled in is pinned. -/
theorem unpinned_append_header {v : Flat} (h : v.pins.length = v.bytes.length) (type : UInt16)
    (length : Nat) (pieces : List Piece) :
    Piece.Unpinned (v.append (.copied (Tlv.header type length) :: pieces)).pins
      (v.bytes.length + 2) 2 := by
  have hlength : (Tlv.header type length).length = 4 := Tlv.length_header type length
  rw [append, Piece.allPins_cons, Piece.pins, hlength, Piece.unpinned_append (by omega), h,
    Nat.add_sub_cancel_left, Piece.unpinned_false_append (by decide)]
  intro i _ hlt
  omega

end Flat

namespace Encoder

variable {α : Type} {e : Encoder} {v : Flat}

theorem Refines.emit (h : e.Refines v) (m : Emit α) : (e.emit m).2.Refines (v.append m.pieces) := by
  refine ⟨?_, ?_, ?_⟩
  · rw [Encoder.emit, Piece.concat_append, h.bytes]
    rfl
  · rw [Encoder.emit, Piece.allPins_append, h.pins]
    rfl
  · rw [Encoder.emit, h.position, Flat.append, List.length_append]
    rfl

theorem signer_overwrite (e : Encoder) (position : Nat) (data : Bytes) :
    (e.overwrite position data).2.signer = e.signer := by
  rw [snd_overwrite]
  rfl

/-- A length is filled in at the start of a container that two bytes can measure. -/
theorem Refines.closeContainer {type : UInt16} {pieces : List Piece} {length : Nat}
    (hpins : v.pins.length = v.bytes.length)
    (h : e.Refines (v.append (.copied (Tlv.header type 0) :: pieces))) (hle : length ≤ maxLength) :
    ∃ e', e.closeContainer v.bytes.length length = (.ok (), e') ∧ e'.signer = e.signer ∧
      e'.Refines (v.append (.copied (Tlv.header type length) :: pieces)) := by
  have hfree : Piece.Unpinned (v.append (.copied (Tlv.header type 0) :: pieces)).pins
      (v.bytes.length + 2) (Bytes.ofNat 2 length).length := by
    rw [Bytes.length_ofNat]
    exact Flat.unpinned_append_header hpins type 0 pieces
  have hok := (h.overwrite_iff _ _).mpr hfree
  have hrefines := h.overwrite hfree
  rw [Flat.splice_append_header] at hrefines
  refine ⟨_, ?_, e.signer_overwrite _ _, hrefines⟩
  rw [Encoder.closeContainer, if_neg (Nat.not_lt.mpr hle)]
  exact Prod.ext hok rfl

/-- Where all of its bytes are counted by a word, the length of a container stands at a position
that is a word, too. -/
theorem closeContainer_eq {start : Nat} (hin : start + 4 ≤ e.position)
    (hword : e.position < 2 ^ 64) (length : Nat) :
    e.closeContainer start length = e.setContainerLength (UInt64.ofNat start) length := by
  have hstart : (UInt64.ofNat start).toNat = start := by
    rw [UInt64.toNat_ofNat', Nat.mod_eq_of_lt (by omega)]
  have hposition : (UInt64.ofNat start + 2).toNat = start + 2 :=
    (toNat_end_of_lt (UInt64.ofNat start) 2 (by omega)).trans (by rw [hstart])
  have hend : (UInt64.ofNat start + 2 + UInt64.ofNat (Bytes.ofNat 2 length).length).toNat ≤
      e.position := by
    rw [Bytes.length_ofNat, toNat_end_of_lt (UInt64.ofNat start + 2) 2 (by omega), hposition]
    exact hin
  rw [closeContainer, setContainerLength, patch_of_le hend, hposition]

/-- What was written behind a vector is cut off again. -/
theorem Refines.truncate_append (hpins : v.pins.length = v.bytes.length) {pieces : List Piece}
    (h : e.Refines (v.append pieces)) : (e.truncate v.bytes.length).Refines v := by
  have htruncated := h.truncate v.bytes.length
  have hpins : (v.pins ++ Piece.allPins pieces).take v.bytes.length = v.pins :=
    List.take_left' hpins
  rwa [Flat.append, List.take_left, hpins] at htruncated

theorem Refines.slice (h : e.Refines v) (start stop : Nat) :
    e.bytesInRange start stop = Bytes.slice start stop v.bytes := by
  rw [h.range, Bytes.slice, Bytes.slice, ← List.take_eq_take_min]

theorem signer_truncate (e : Encoder) (position : Nat) :
    (e.truncate position).signer = e.signer := by
  unfold truncate
  split <;> rfl

end Encoder

namespace Writing

variable {α β : Type} {s : Option Signer} {w : Writing α} {m : Emit α} {e : Encoder} {v : Flat}

/-- From one encoder, steps have the outcome of an emission and append what it writes. -/
structure PerformsAt (w : Writing α) (m : Emit α) (e : Encoder) (v : Flat) : Prop where
  result : (w e).1 = m.result
  signer : (w e).2.signer = e.signer
  refines : (w e).2.Refines (v.append m.pieces)

/-- From any encoder with a given signer, steps do what an emission does. -/
def Performs (s : Option Signer) (w : Writing α) (m : Emit α) : Prop :=
  ∀ e v, e.signer = s → e.Refines v → w.PerformsAt m e v

/-- What steps are known to do from an encoder. -/
theorem PerformsAt.of_eq {result : Except EncodeError α} {e' : Encoder} {pieces : List Piece}
    (hw : w e = (result, e')) (hm : m = ⟨pieces, result⟩) (hsigner : e'.signer = e.signer)
    (hrefines : e'.Refines (v.append pieces)) : w.PerformsAt m e v := by
  subst hm
  exact ⟨by rw [hw], by rw [hw]; exact hsigner, by rw [hw]; exact hrefines⟩

theorem PerformsAt.eq (h : w.PerformsAt m e v) : w e = (m.result, (w e).2) := Prod.ext h.result rfl

theorem bind_of_ok {f : α → Writing β} {a : α} {e' : Encoder} (h : w e = (.ok a, e')) :
    (w >>= f) e = f a e' := by
  show andThen w f e = _
  rw [andThen, h]

theorem bind_of_error {f : α → Writing β} {error : EncodeError} {e' : Encoder}
    (h : w e = (.error error, e')) : (w >>= f) e = (.error error, e') := by
  show andThen w f e = _
  rw [andThen, h]

/-- A step that only looks at the encoder, before writing goes on. -/
theorem PerformsAt.look {look : Writing β} {b : β} {f : β → Writing α}
    (h : (f b).PerformsAt m e v) (hlook : look e = (.ok b, e)) :
    (look >>= f).PerformsAt m e v :=
  .of_eq ((bind_of_ok hlook).trans h.eq) rfl h.signer h.refines

/-- Where no signature could be made nothing is written. -/
theorem PerformsAt.signRange_of_error {start stop : Nat} {error : EncodeError}
    {f : Option Bytes → Writing α} (h : (fail error).PerformsAt m e v)
    (hmade : e.signRange start stop = .error error) :
    (signRange start stop >>= f).PerformsAt m e v := by
  have hlook : signRange start stop e = (.error error, e) := congrArg (·, e) hmade
  exact .of_eq ((bind_of_error hlook).trans h.eq) rfl h.signer h.refines

/-- One after another. -/
theorem PerformsAt.bind {f : α → Writing β} {g : α → Emit β} (h : w.PerformsAt m e v)
    (hf : ∀ a, m.result = .ok a → (f a).PerformsAt (g a) (w e).2 (v.append m.pieces)) :
    (w >>= f).PerformsAt (m >>= g) e v := by
  have hstep := h.eq
  cases hm : m.result with
  | error x =>
    rw [hm] at hstep
    have hemitted : Emit.andThen m g = ⟨m.pieces, .error x⟩ := by
      rw [Emit.andThen, hm]
    exact .of_eq (bind_of_error hstep) hemitted h.signer h.refines
  | ok a =>
    rw [hm] at hstep
    have hsecond := hf a hm
    have hemitted : Emit.andThen m g = ⟨m.pieces ++ (g a).pieces, (g a).result⟩ := by
      rw [Emit.andThen, hm]
    refine .of_eq ((bind_of_ok hstep).trans hsecond.eq) hemitted (hsecond.signer.trans h.signer) ?_
    rw [← Flat.append_append]
    exact hsecond.refines

namespace Performs

theorem append (s : Option Signer) (m : Emit α) : Performs s (.append m) m :=
  fun _ _ _ he => ⟨rfl, rfl, he.emit m⟩

theorem ret (s : Option Signer) (a : α) : Performs s (pure a) (pure a : Emit α) :=
  fun _ v _ he => .of_eq rfl rfl rfl (v.append_nil.symm ▸ he)

theorem fail (s : Option Signer) (error : EncodeError) :
    Performs s (.fail error) (Emit.fail error : Emit α) :=
  fun _ v _ he => .of_eq rfl rfl rfl (v.append_nil.symm ▸ he)

/-- One after another. -/
theorem bind {f : α → Writing β} {g : α → Emit β} (hw : Performs s w m)
    (hf : ∀ a, m.result = .ok a → Performs s (f a) (g a)) : Performs s (w >>= f) (m >>= g) :=
  fun e v hs he => (hw e v hs he).bind fun a ha =>
    hf a ha _ _ ((hw e v hs he).signer.trans hs) (hw e v hs he).refines

/-- One for each of some things. -/
theorem each {δ : Type} {write : δ → Writing Nat} {one : δ → Emit Nat} {all : List δ → Emit Nat}
    (hone : ∀ d, Performs s (write d) (one d)) (hnil : all [] = Emit.done 0)
    (hcons : ∀ d ds, all (d :: ds) = do let x ← one d; let y ← all ds; return x + y)
    (ds : List δ) : Performs s (.each write ds) (all ds) := by
  induction ds with
  | nil =>
    rw [hnil]
    exact .ret s 0
  | cons d ds ih =>
    rw [hcons]
    exact (hone d).bind fun x _ => ih.bind fun y _ => .ret s (x + y)

end Performs

/-! ### Containers -/

variable {content : Writing Nat} {body : Emit Nat} {type : UInt16}

/-- A container is opened, and its content is written. It is closed unless the content fails. -/
theorem opened_eq (hcontent : Performs s content body) (hs : e.signer = s) (he : e.Refines v)
    (type : UInt16) (close : (start head inner : Nat) → Writing Nat) :
    ∃ e', e'.signer = e.signer ∧
      e'.Refines (v.append (.copied (Tlv.header type 0) :: body.pieces)) ∧
      opened type content close e = match body.result with
        | .ok inner => close v.bytes.length Tlv.headerLength inner e'
        | .error x => (.error x, e') := by
  have hheader : Emit.header type 0 = Emit.raw (Tlv.header type 0) := if_neg (by decide)
  have hhead := he.emit (Emit.raw (Tlv.header type 0))
  have hwritten : e.emit (Emit.raw (Tlv.header type 0)) =
      (.ok Tlv.headerLength, (e.emit (Emit.raw (Tlv.header type 0))).2) :=
    Prod.ext (congrArg Except.ok (Tlv.length_header type 0)) rfl
  obtain ⟨hresult, hsigner, hrefines⟩ :=
    hcontent (e.emit (Emit.raw (Tlv.header type 0))).2 _ hs hhead
  rw [Flat.append_append] at hrefines
  have hopened : opened type content close e = andThen (.append (Emit.header type 0))
      (fun head => andThen content fun inner => close e.position head inner) e := rfl
  rw [hopened, hheader, andThen, append, hwritten, he.position]
  cases hstep : content (e.emit (Emit.raw (Tlv.header type 0))).2 with
  | mk result e' =>
    rw [hstep] at hresult hsigner hrefines
    refine ⟨e', hsigner, hrefines, ?_⟩
    rw [← show result = body.result from hresult]
    simp only [andThen, hstep]
    cases result <;> rfl

theorem fill_of_lt {start head inner : Nat} (h : maxLength < inner) :
    fill start head inner e = (.error (.valueTooLong inner), e) := by
  have hlength : e.closeContainer start inner = (.error (.valueTooLong inner), e) := if_pos h
  show andThen (setLength start inner) _ e = _
  rw [andThen, setLength, hlength]

/-- The length of a container is filled in where it starts, whatever was written behind. -/
theorem fill_of_le {pieces : List Piece} {inner : Nat} (hpins : v.pins.length = v.bytes.length)
    (h : e.Refines (v.append (.copied (Tlv.header type 0) :: pieces))) (hle : inner ≤ maxLength)
    (head : Nat) :
    ∃ e', fill v.bytes.length head inner e = (.ok (head + inner), e') ∧ e'.signer = e.signer ∧
      e'.Refines (v.append (.copied (Tlv.header type inner) :: pieces)) := by
  obtain ⟨e', hlength, hsigner, hrefines⟩ := h.closeContainer hpins hle
  refine ⟨e', ?_, hsigner, hrefines⟩
  show andThen (setLength v.bytes.length inner) _ e = _
  rw [andThen, setLength, hlength]
  rfl

/-- Once it is opened, a container is closed as one whose length was known from the start. -/
theorem fill_performsAt {w : Writing Nat} {e' : Encoder} {inner : Nat}
    (hpins : v.pins.length = v.bytes.length) (hinner : body.result = .ok inner)
    (hsigner : e'.signer = e.signer)
    (h : e'.Refines (v.append (.copied (Tlv.header type 0) :: body.pieces)))
    (hw : w e = fill v.bytes.length Tlv.headerLength inner e') :
    w.PerformsAt (Emit.container type body) e v := by
  by_cases hlong : maxLength < inner
  · refine .of_eq (hw.trans (fill_of_lt hlong)) ?_ hsigner h
    rw [Emit.container, hinner]
    exact if_pos hlong
  · obtain ⟨e'', hfill, hsigner', hrefines⟩ := fill_of_le hpins h (Nat.not_lt.mp hlong) _
    refine .of_eq (hw.trans hfill) ?_ (hsigner'.trans hsigner) hrefines
    rw [Emit.container, hinner]
    exact if_neg hlong

namespace Performs

theorem container (hcontent : Performs s content body) (type : UInt16) :
    Performs s (.container type content) (Emit.container type body) := by
  intro e v hs he
  obtain ⟨e', hsigner, hrefines, hopened⟩ := opened_eq hcontent hs he type fill
  cases hresult : body.result with
  | error x =>
    rw [hresult] at hopened
    refine .of_eq hopened ?_ hsigner hrefines
    rw [Emit.container, hresult]
  | ok inner =>
    rw [hresult] at hopened
    exact fill_performsAt he.length_pins hresult hsigner hrefines hopened

/-- A container that turns out to be empty leaves nothing behind. -/
theorem containerUnlessEmpty {kept : Emit Nat} (hcontent : Performs s content body) (type : UInt16)
    (hempty : body.result = .ok 0 → kept = Emit.done 0)
    (hfilled : body.result ≠ .ok 0 → kept = Emit.container type body) :
    Performs s (.containerUnlessEmpty type content) kept := by
  intro e v hs he
  obtain ⟨e', hsigner, hrefines, hopened⟩ := opened_eq hcontent hs he type fillOrDrop
  cases hresult : body.result with
  | error x =>
    rw [hresult] at hopened hfilled
    rw [hfilled nofun]
    refine .of_eq hopened ?_ hsigner hrefines
    rw [Emit.container, hresult]
  | ok inner =>
    rw [hresult] at hopened hempty hfilled
    by_cases hzero : inner = 0
    -- The container starts where the vector ended, so cutting it off brings back the vector.
    · subst hzero
      rw [hempty rfl]
      refine .of_eq hopened rfl ((e'.signer_truncate _).trans hsigner) ?_
      rw [Flat.append_nil]
      exact hrefines.truncate_append he.length_pins
    · have hfill : fillOrDrop v.bytes.length Tlv.headerLength inner =
          fill v.bytes.length Tlv.headerLength inner := if_neg hzero
      rw [hfilled fun h => hzero (Except.ok.inj h)]
      simp only [hfill] at hopened
      exact fill_performsAt he.length_pins hresult hsigner hrefines hopened

end Performs

end Writing

end NamedContent
