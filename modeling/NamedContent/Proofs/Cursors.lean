import NamedContent.Proofs.Emission
import NamedContent.Proofs.Names
import NamedContent.Proofs.Numbers
import NamedContent.Proofs.Ranges

/-!
# What a cursor reads

Each operation of a cursor has one specification, told by the bytes that the cursor goes over on its
way to the next position (`Cursor.Over`). A reader of a number of given width looks at type, length
and end of the buffer by itself; its specification is that of the reader of values.

* `Cursor.take_eq_ok_iff`, `Cursor.header_eq_ok_iff`, `Cursor.value?_eq_some_iff`: when a read
  succeeds, and what it goes over.
* `Cursor.header_eq`: type and length read in two steps, with the way back, are an element looked
  for ahead.
* `Cursor.fixed?_agrees`: reading a number of given width is reading a value of this length.
-/

namespace NamedContent

namespace Cursor

variable {c c' c'' : Cursor} {b d behind : Bytes} {type : UInt16} {n : Nat}

/-! ## Going over bytes -/

/-- A cursor goes over some bytes of its buffer, and comes to stand right behind them. -/
structure Over (c : Cursor) (b : Bytes) (c' : Cursor) : Prop where
  buffer : c'.buffer = c.buffer
  held : c'.held = c.held
  position : c'.position = c.position + b.length
  slice : Bytes.slice c.position c'.position c.buffer = b

theorem eq_of_fields (hbuffer : c.buffer = c'.buffer) (hposition : c.position = c'.position)
    (hheld : c.held = c'.held) : c = c' := by
  cases c
  cases c'
  simp only [mk.injEq]
  exact ⟨hbuffer, hposition, hheld⟩

theorem length_rest (c : Cursor) : c.rest.length = c.remaining := by
  simp [rest, remaining]

namespace Over

theorem unique (h : c.Over b c') (h' : c.Over b c'') : c' = c'' :=
  eq_of_fields (h.buffer.trans h'.buffer.symm) (h.position.trans h'.position.symm)
    (h.held.trans h'.held.symm)

theorem rest (h : c.Over b c') : c.rest = b ++ c'.rest := by
  have hslice := h.slice
  rw [h.position, Bytes.slice_add] at hslice
  calc c.rest = c.rest.take b.length ++ c.rest.drop b.length := (List.take_append_drop _ _).symm
    _ = b ++ c.rest.drop b.length := congrArg (· ++ _) hslice
    _ = b ++ c'.rest := by
      rw [Cursor.rest, Cursor.rest, h.buffer, h.position, List.drop_drop]

theorem trans (h : c.Over b c') (h' : c'.Over d c'') : c.Over (b ++ d) c'' := by
  have hposition : c''.position = c.position + (b ++ d).length := by
    rw [h'.position, h.position, List.length_append, Nat.add_assoc]
  refine ⟨h'.buffer.trans h.buffer, h'.held.trans h.held, hposition, ?_⟩
  have hrest : c.rest = b ++ d ++ c''.rest := by
    rw [h.rest, h'.rest, List.append_assoc]
  rw [hposition, Bytes.slice_add]
  show c.rest.take _ = _
  rw [hrest]
  exact List.take_left

end Over

/-- A cursor can go over what stands next. -/
theorem over_skip (h : c.rest = b ++ behind) :
    c.Over b (c.skip b.length) ∧ (c.skip b.length).rest = behind := by
  have hlength : b.length + behind.length = c.remaining := by
    rw [← length_rest, h, List.length_append]
  have hposition : (c.skip b.length).position = c.position + b.length := by
    have hle := c.position_le
    unfold remaining at hlength
    exact Nat.min_eq_left (by omega)
  have hover : c.Over b (c.skip b.length) := by
    refine ⟨rfl, rfl, hposition, ?_⟩
    rw [hposition, Bytes.slice_add]
    show c.rest.take _ = _
    rw [h]
    exact List.take_left
  refine ⟨hover, ?_⟩
  have hrest := hover.rest
  rw [h] at hrest
  exact (List.append_cancel_left hrest).symm

theorem Over.eq_skip (h : c.Over b c') : c' = c.skip b.length :=
  h.unique (over_skip h.rest).1

/-! ## Bytes -/

theorem take_eq_ok_iff : c.take n = (.ok b, c') ↔ b.length = n ∧ c.Over b c' := by
  unfold take
  split
  · next hin =>
    have hslice : Bytes.slice c.position (c.position + n) c.buffer = c.rest.take n :=
      Bytes.slice_add _ _ _
    constructor
    · intro h
      obtain ⟨hb, rfl⟩ := Prod.mk.inj h
      cases hb
      have hlength : (c.rest.take n).length = n := by
        rw [List.length_take, length_rest, remaining]
        omega
      exact ⟨hlength, rfl, rfl, by rw [hlength], hslice⟩
    · rintro ⟨rfl, hover⟩
      have hb := hover.slice
      rw [hover.position, hslice] at hb
      rw [hb]
      exact Prod.ext rfl (eq_of_fields hover.buffer.symm hover.position.symm hover.held.symm)
  · next hout =>
    constructor
    · intro h
      cases h
    · rintro ⟨rfl, hover⟩
      have hle := c'.position_le
      rw [hover.position, hover.buffer] at hle
      exact absurd hle hout

/-- Bytes that are not there are not read. -/
theorem take_of_lt (h : c.remaining < n) :
    c.take n = c.fail (.fieldBeyondPacketEnd c.position n c.remaining) := by
  unfold take
  rw [dif_neg]
  have hle := c.position_le
  unfold remaining at h
  omega

/-- Bytes are read, or there are not enough of them. -/
theorem take_cases (c : Cursor) (n : Nat) :
    (∃ b c', c.take n = (.ok b, c') ∧ b.length = n ∧ c.Over b c') ∨
      c.remaining < n ∧ ∃ e, c.take n = c.fail e := by
  by_cases h : c.remaining < n
  · exact .inr ⟨h, _, take_of_lt h⟩
  · refine .inl ⟨c.rest.take n, c.skip n, ?_⟩
    have hlength : (c.rest.take n).length = n := by
      rw [List.length_take, length_rest]
      omega
    have hover := (over_skip (List.take_append_drop n c.rest).symm).1
    rw [hlength] at hover
    exact ⟨take_eq_ok_iff.mpr ⟨hlength, hover⟩, hlength, hover⟩

/-! ## Headers -/

/-- A cursor that goes back to where it stood has at most a failure more. -/
theorem backTo_of_held (h : c'.held = c.held) : c'.backTo c = c :=
  eq_of_fields rfl rfl h

theorem uint16_of_rest {x y : UInt8} (h : c.rest = x :: y :: behind) :
    c.uint16 = (.ok (UInt16.ofNat (Bytes.toNat [x, y])), c.skip 2) := by
  have hover : c.Over [x, y] (c.skip 2) := (over_skip (b := [x, y]) h).1
  have htake : c.take 2 = (.ok [x, y], c.skip 2) := take_eq_ok_iff.mpr ⟨rfl, hover⟩
  rw [uint16, htake]
  rfl

/-- Type and length are read one after the other, and the cursor goes back if there are not as many
bytes behind them. -/
theorem header_of_four {t1 t0 l1 l0 : UInt8} (h : c.rest = t1 :: t0 :: l1 :: l0 :: behind) :
    c.header =
      if behind.length < Bytes.toNat [l1, l0] then
        c.fail (.lengthExceedsContainer (UInt16.ofNat (Bytes.toNat [t1, t0]))
          (Bytes.toNat [l1, l0]) behind.length)
      else (.ok (UInt16.ofNat (Bytes.toNat [t1, t0]), Bytes.toNat [l1, l0]),
        c.skip Tlv.headerLength) := by
  obtain ⟨hoverType, hrestType⟩ := over_skip (b := [t1, t0]) h
  obtain ⟨hoverLength, hrestLength⟩ := over_skip (b := [l1, l0]) hrestType
  have hover : c.Over [t1, t0, l1, l0] ((c.skip 2).skip 2) := hoverType.trans hoverLength
  have hskip : (c.skip 2).skip 2 = c.skip Tlv.headerLength := hover.eq_skip
  have hremaining : ((c.skip 2).skip 2).remaining = behind.length := by
    rw [← length_rest]
    exact congrArg List.length hrestLength
  have hroom : ¬ c.remaining < Tlv.headerLength := by
    rw [← length_rest, h]
    simp [Tlv.headerLength]
  have hlength : (UInt16.ofNat (Bytes.toNat [l1, l0])).toNat = Bytes.toNat [l1, l0] := by
    rw [UInt16.toNat_ofNat', Nat.mod_eq_of_lt (Tlv.toNat_two_lt l1 l0)]
  have hback : ((c.skip 2).skip 2).backTo c = c := backTo_of_held hover.held
  have hsecond : (c.skip 2).uint16 =
      (.ok (UInt16.ofNat (Bytes.toNat [l1, l0])), (c.skip 2).skip 2) := uint16_of_rest hrestType
  simp only [header, if_neg hroom, uint16_of_rest h, hsecond, hremaining, hlength, hback]
  rw [hskip]

/-- Reading a header is looking for an element ahead: the failure is the same, and the cursor goes
over type and length only if the whole element is there. -/
theorem header_eq (c : Cursor) :
    c.header = match Tlv.next c.rest with
      | .error e => c.fail e
      | .ok (t, _) => (.ok (t.type, t.value.length), c.skip Tlv.headerLength) := by
  match hrest : c.rest with
  | t1 :: t0 :: l1 :: l0 :: behind =>
    have hnext : Tlv.next (t1 :: t0 :: l1 :: l0 :: behind) = Tlv.takeValue
        (UInt16.ofNat (Bytes.toNat [t1, t0])) (Bytes.toNat [l1, l0]) behind := rfl
    rw [header_of_four hrest, hnext, Tlv.takeValue]
    by_cases hlong : behind.length < Bytes.toNat [l1, l0]
    · rw [if_pos hlong, Bytes.splitAt?_eq_none_iff.mpr hlong]
    · have hlength : (behind.take (Bytes.toNat [l1, l0])).length = Bytes.toNat [l1, l0] :=
        List.length_take_of_le (Nat.not_lt.mp hlong)
      have hsplit : Bytes.splitAt? (Bytes.toNat [l1, l0]) behind = some (_, _) :=
        Bytes.splitAt?_eq_some_iff.mpr ⟨(List.take_append_drop _ _).symm, hlength⟩
      simp only [if_neg hlong, hsplit, hlength]
  | [] | [_] | [_, _] | [_, _, _] =>
    -- There is no room for type and length.
    have hremaining := c.length_rest
    rw [hrest] at hremaining
    have hshort : c.remaining < Tlv.headerLength := by
      rw [← hremaining]
      simp [Tlv.headerLength]
    rw [header, if_pos hshort, ← hremaining]
    rfl

theorem header_of_next_error {e : DecodeError} (h : Tlv.next c.rest = .error e) :
    c.header = c.fail e := by
  rw [header_eq, h]

/-- The header of a whole element is read. -/
theorem header_of_rest {t : Tlv} (hfits : t.Fits) (h : c.rest = t.toBytes ++ behind) :
    c.header = (.ok (t.type, t.value.length), c.skip Tlv.headerLength) := by
  have hnext : Tlv.next c.rest = .ok (t, behind) := Tlv.next_eq_ok_iff.mpr ⟨hfits, h⟩
  rw [header_eq, hnext]

/-- A header is read exactly where a whole element stands next. -/
theorem header_eq_ok_iff {length : Nat} :
    c.header = (.ok (type, length), c') ↔
      (∃ value behind, value.length = length ∧ Tlv.Fits ⟨type, value⟩ ∧
        c.rest = Tlv.toBytes ⟨type, value⟩ ++ behind) ∧ c.Over (Tlv.header type length) c' := by
  constructor
  · intro h
    cases hnext : Tlv.next c.rest with
    | error e =>
      rw [header_of_next_error hnext] at h
      cases h
    | ok found =>
      obtain ⟨t, behind⟩ := found
      obtain ⟨hfits, hrest⟩ := Tlv.next_eq_ok_iff.mp hnext
      rw [header_of_rest hfits hrest] at h
      cases h
      refine ⟨⟨t.value, behind, rfl, hfits, hrest⟩, ?_⟩
      rw [Tlv.toBytes, List.append_assoc] at hrest
      have hover := (over_skip hrest).1
      rwa [Tlv.length_header] at hover
  · rintro ⟨⟨value, behind, rfl, hfits, hrest⟩, hover⟩
    rw [header_of_rest hfits hrest, hover.eq_skip, Tlv.length_header]

/-! ## Values -/

/-- Header and value of a whole element are read one after the other. -/
theorem header_take_of_rest {t : Tlv} (hfits : t.Fits) (h : c.rest = t.toBytes ++ behind) :
    ∃ inside c', c.header = (.ok (t.type, t.value.length), inside) ∧
      inside.take t.value.length = (.ok t.value, c') ∧ c.Over t.toBytes c' ∧ c'.rest = behind := by
  have hheader := header_of_rest hfits h
  have hover := (header_eq_ok_iff.mp hheader).2
  have hrest := hover.rest
  rw [h, Tlv.toBytes, List.append_assoc] at hrest
  obtain ⟨hvalue, hbehind⟩ := over_skip (List.append_cancel_left hrest).symm
  exact ⟨_, _, hheader, take_eq_ok_iff.mpr ⟨rfl, hvalue⟩, hover.trans hvalue, hbehind⟩

theorem peekType?_of_rest {t : Tlv} (h : c.rest = t.toBytes ++ behind) :
    c.peekType? = some t.type := by
  rw [peekType?, h, Tlv.type?_toBytes_append]

theorem value?_of_peekType? (h : c.peekType? ≠ some type) : c.value? type = (.ok none, c) :=
  if_neg h

theorem value?_of_next_error {e : DecodeError} (h : c.peekType? = some type)
    (hnext : Tlv.next c.rest = .error e) : c.value? type = c.fail e := by
  have hback : (c.hold e).backTo c = c.hold e := by
    unfold hold
    split <;> rfl
  rw [value?, if_pos h, header_of_next_error hnext]
  exact congrArg (Prod.mk _) hback

/-- The value of a whole element is read when its type is asked for. -/
theorem value?_of_rest {t : Tlv} (hfits : t.Fits) (h : c.rest = t.toBytes ++ behind) :
    ∃ c', c.value? t.type = (.ok (some t.value), c') ∧ c.Over t.toBytes c' := by
  obtain ⟨inside, c', hheader, htake, hover, -⟩ := header_take_of_rest hfits h
  refine ⟨c', ?_, hover⟩
  simp only [value?, if_pos (peekType?_of_rest h), hheader, htake]
  rfl

/-- A value is read exactly where a whole element of the type stands next. -/
theorem value?_eq_some_iff :
    c.value? type = (.ok (some b), c') ↔
      Tlv.Fits ⟨type, b⟩ ∧ c.Over (Tlv.toBytes ⟨type, b⟩) c' := by
  constructor
  · intro h
    by_cases hpeek : c.peekType? = some type
    · cases hnext : Tlv.next c.rest with
      | error e =>
        rw [value?_of_next_error hpeek hnext] at h
        cases h
      | ok found =>
        obtain ⟨t, behind⟩ := found
        obtain ⟨hfits, hrest⟩ := Tlv.next_eq_ok_iff.mp hnext
        obtain rfl : t.type = type := by
          rw [peekType?_of_rest hrest] at hpeek
          exact Option.some.inj hpeek
        obtain ⟨c₁, hvalue, hover⟩ := value?_of_rest hfits hrest
        rw [hvalue] at h
        cases h
        exact ⟨hfits, hover⟩
    · rw [value?_of_peekType? hpeek] at h
      cases h
  · rintro ⟨hfits, hover⟩
    obtain ⟨c₁, hvalue, hover₁⟩ := value?_of_rest hfits hover.rest
    rw [hvalue, hover₁.unique hover]

/-! ## Numbers of given width -/

/-- Where type and length are there, and as many bytes as the length tells, an element stands. -/
theorem exists_rest_of_header (hpeek : c.peekType? = some type)
    (hlength : c.uint16At? (c.position + 2) = some n)
    (hin : c.position + Tlv.headerLength + n ≤ c.buffer.length) :
    ∃ b behind, b.length = n ∧ Tlv.Fits ⟨type, b⟩ ∧ c.rest = Tlv.toBytes ⟨type, b⟩ ++ behind := by
  have hdrop : c.buffer.drop (c.position + 2) = c.rest.drop 2 := List.drop_drop.symm
  have hrest := c.length_rest
  unfold remaining at hrest
  unfold uint16At? at hlength
  rw [hdrop] at hlength
  unfold peekType? Tlv.type? at hpeek
  split at hpeek
  · next t1 t0 more hmore =>
    rw [hmore] at hlength hrest ⊢
    simp only [List.drop_succ_cons, List.drop_zero] at hlength
    split at hlength
    · next l1 l0 behind =>
      cases Option.some.inj hpeek
      cases Option.some.inj hlength
      simp only [List.length_cons] at hrest
      have hlong : Bytes.toNat [l1, l0] ≤ behind.length := by
        unfold Tlv.headerLength at hin
        omega
      have htaken : (behind.take (Bytes.toNat [l1, l0])).length = Bytes.toNat [l1, l0] :=
        List.length_take_of_le hlong
      have hnext : Tlv.next (t1 :: t0 :: l1 :: l0 :: behind) = .ok
          (⟨UInt16.ofNat (Bytes.toNat [t1, t0]), behind.take (Bytes.toNat [l1, l0])⟩,
            behind.drop (Bytes.toNat [l1, l0])) :=
        Tlv.takeValue_eq_ok_iff.mpr ⟨rfl, htaken, (List.take_append_drop _ _).symm⟩
      obtain ⟨hfits, heq⟩ := Tlv.next_eq_ok_iff.mp hnext
      exact ⟨_, _, htaken, hfits, heq⟩
    · cases hlength
  · cases hpeek

/-- The number of a whole element is read when type and width are asked for. -/
theorem fixed?_of_over (hfits : Tlv.Fits ⟨type, b⟩) (h : c.Over (Tlv.toBytes ⟨type, b⟩) c') :
    c.fixed? type b.length = (some (Bytes.toNat b), c') := by
  have hrest := h.rest
  have hsize : (Tlv.toBytes ⟨type, b⟩).length = Tlv.headerLength + b.length :=
    Tlv.length_toBytes _
  obtain ⟨l1, l0, hl, hln⟩ := Tlv.exists_ofNat_two (show b.length < 65536 by
    simp only [Tlv.Fits, maxLength] at hfits; omega)
  have hat : c.uint16At? (c.position + 2) = some b.length := by
    have hdrop : c.buffer.drop (c.position + 2) = Bytes.ofNat 2 b.length ++ (b ++ c'.rest) := by
      rw [← List.drop_drop]
      show c.rest.drop 2 = _
      rw [hrest, Tlv.toBytes, Tlv.header, List.append_assoc, List.append_assoc]
      exact List.drop_left' (Bytes.length_ofNat 2 _)
    rw [uint16At?, hdrop, hl]
    simp only [List.cons_append, List.nil_append, hln]
  have hin : c.position + Tlv.headerLength + b.length ≤ c.buffer.length := by
    have hle := c'.position_le
    rw [h.position, h.buffer, hsize] at hle
    omega
  have hvalue : (c.buffer.drop (c.position + Tlv.headerLength)).take b.length = b := by
    rw [← List.drop_drop]
    show (c.rest.drop _).take _ = _
    rw [hrest, Tlv.toBytes, List.append_assoc, List.drop_left' (Tlv.length_header _ _)]
    exact List.take_left
  rw [fixed?, if_pos ⟨peekType?_of_rest hrest, hat⟩, dif_pos hin, hvalue]
  refine Prod.ext rfl (eq_of_fields h.buffer.symm ?_ h.held.symm)
  rw [h.position, hsize]
  exact Nat.add_assoc _ _ _

theorem fixed?_eq_some_iff {width : Nat} :
    c.fixed? type width = (some n, c') ↔
      ∃ b, b.length = width ∧ Bytes.toNat b = n ∧ Tlv.Fits ⟨type, b⟩ ∧
        c.Over (Tlv.toBytes ⟨type, b⟩) c' := by
  constructor
  · intro h
    have hcut := h
    unfold fixed? at hcut
    split at hcut
    · next hfound =>
      split at hcut
      · next hin =>
        obtain ⟨b, behind, rfl, hfits, hrest⟩ := exists_rest_of_header hfound.1 hfound.2 hin
        have hover := (over_skip hrest).1
        rw [fixed?_of_over hfits hover] at h
        cases h
        exact ⟨b, rfl, rfl, hfits, hover⟩
      · cases hcut
    · cases hcut
  · rintro ⟨b, rfl, rfl, hfits, hover⟩
    exact fixed?_of_over hfits hover

/-- Where no number is read the cursor is left alone. -/
theorem fixed?_of_none {width : Nat} (h : (c.fixed? type width).1 = none) :
    c.fixed? type width = (none, c) := by
  unfold fixed? at h ⊢
  split
  · next hfound =>
    rw [if_pos hfound] at h
    split
    · next hin =>
      rw [dif_pos hin] at h
      cases h
    · rfl
  · rfl

/-- Reading a number of given width is reading a value of this length: the number is that of the
bytes, and the cursor ends at the same place with the same failure held. In every other case nothing
is read, and neither the position nor the failure held changes. So a number that was written is read
back from where it stands, whatever follows it. -/
theorem fixed?_agrees (c : Cursor) (type : UInt16) (width : Nat) :
    (∀ n c', c.fixed? type width = (some n, c') ↔
      ∃ b, c.value? type = (.ok (some b), c') ∧ b.length = width ∧ Bytes.toNat b = n) ∧
    ((¬ ∃ b c', c.value? type = (.ok (some b), c') ∧ b.length = width) →
      c.fixed? type width = (none, c)) ∧
    ∀ n behind, width ≤ maxLength → n < Bytes.bound width →
      (Emit.fixed type width n).result = .ok (Tlv.headerLength + width) ∧
        (c.rest = (Emit.fixed type width n).bytes ++ behind →
          ∃ c', c.fixed? type width = (some n, c') ∧ c.Over (Emit.fixed type width n).bytes c' ∧
            c'.rest = behind) := by
  have hiff : ∀ n c', c.fixed? type width = (some n, c') ↔
      ∃ b, c.value? type = (.ok (some b), c') ∧ b.length = width ∧ Bytes.toNat b = n := by
    intro n c'
    simp only [fixed?_eq_some_iff, value?_eq_some_iff]
    constructor
    · rintro ⟨b, hlength, hn, hfits, hover⟩
      exact ⟨b, ⟨hfits, hover⟩, hlength, hn⟩
    · rintro ⟨b, ⟨hfits, hover⟩, hlength, hn⟩
      exact ⟨b, hlength, hn, hfits, hover⟩
  refine ⟨hiff, fun hno => ?_, fun n behind hwidth hn => ?_⟩
  · apply fixed?_of_none
    cases hfound : c.fixed? type width with
    | mk found c' =>
      cases found with
      | none => rfl
      | some n =>
        obtain ⟨b, hvalue, hlength, -⟩ := (hiff n c').mp hfound
        exact absurd ⟨b, c', hvalue, hlength⟩ hno
  · have hlength : (Bytes.ofNat width n).length = width := Bytes.length_ofNat width n
    have hfits : Tlv.Fits ⟨type, Bytes.ofNat width n⟩ := by rwa [Tlv.Fits, hlength]
    obtain ⟨hresult, hbytes⟩ := (Emit.writes_copied ⟨type, Bytes.ofNat width n⟩).run hfits
    rw [Tlv.length_toBytes, Tlv.size, hlength] at hresult
    refine ⟨hresult, fun hrest => ?_⟩
    have hbytes : (Emit.fixed type width n).bytes = Tlv.toBytes ⟨type, Bytes.ofNat width n⟩ :=
      hbytes
    rw [hbytes] at hrest ⊢
    obtain ⟨hover, hbehind⟩ := over_skip hrest
    refine ⟨_, fixed?_eq_some_iff.mpr ⟨_, hlength, ?_, hfits, hover⟩, hover, hbehind⟩
    rw [Bytes.toNat_ofNat, Nat.mod_eq_of_lt hn]

/-! A number of two bytes, with one byte behind it, is read in its own width and in no other. -/

namespace Sample

/-- The number 258, and a byte. -/
def number : Cursor := start [0x00, 0x06, 0x00, 0x02, 0x01, 0x02, 0xFF]

end Sample

theorem fixed?_agrees_sample :
    (¬ ∃ b c', Sample.number.value? 0x0006 = (.ok (some b), c') ∧ b.length = 4) ∧
      Sample.number.fixed? 0x0006 4 = (none, Sample.number) ∧ 2 ≤ maxLength ∧
      258 < Bytes.bound 2 ∧ Sample.number.rest = (Emit.fixed 0x0006 2 258).bytes ++ [0xFF] ∧
      ∃ c', Sample.number.fixed? 0x0006 2 = (some 258, c') ∧
        Sample.number.Over (Emit.fixed 0x0006 2 258).bytes c' ∧ c'.rest = [0xFF] := by
  have hno : ¬ ∃ b c', Sample.number.value? 0x0006 = (.ok (some b), c') ∧ b.length = 4 := by
    rintro ⟨b, c', hvalue, hlength⟩
    have hb : (Sample.number.value? 0x0006).1 = .ok (some [0x01, 0x02]) := by decide
    rw [hvalue] at hb
    cases hb
    cases hlength
  have hrest : Sample.number.rest = (Emit.fixed 0x0006 2 258).bytes ++ [0xFF] := by decide
  exact ⟨hno, (fixed?_agrees Sample.number 0x0006 4).2.1 hno, by decide, by decide, hrest,
    ((fixed?_agrees Sample.number 0x0006 2).2.2 258 [0xFF] (by decide) (by decide)).2 hrest⟩

end Cursor

end NamedContent
