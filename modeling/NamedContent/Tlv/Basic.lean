import NamedContent.Codes
import NamedContent.Error

/-!
# Elements

Everything behind the fixed header of a packet is made of elements: a type and a length of two
bytes each, and a value of that length. `next` cuts the first element off a byte string and `scan`
cuts a byte string into elements.

* `next_eq_ok_iff`: an element is read exactly where its written form stands.
* `scan_eq_iff`: a byte string is cut without a rest exactly when it is a sequence of elements.
-/

namespace NamedContent

/-- A type and a value. -/
structure Tlv where
  type : UInt16
  value : Bytes
deriving DecidableEq, Repr

namespace Tlv

/-! ## Written form -/

/-- The length of type and length together. -/
def headerLength : Nat := 4

/-- The type and the length that stand in front of a value. -/
def header (type : UInt16) (length : Nat) : Bytes :=
  Bytes.ofNat 2 type.toNat ++ Bytes.ofNat 2 length

/-- The written form of an element. -/
def toBytes (t : Tlv) : Bytes := header t.type t.value.length ++ t.value

/-- The length of the written form. -/
def size (t : Tlv) : Nat := headerLength + t.value.length

/-- Two bytes can announce the length of the value. -/
def Fits (t : Tlv) : Prop := t.value.length ≤ maxLength

instance (t : Tlv) : Decidable t.Fits := inferInstanceAs (Decidable (_ ≤ _))

@[simp] theorem length_header (type : UInt16) (length : Nat) :
    (header type length).length = headerLength := by
  simp [header, headerLength]

@[simp] theorem length_toBytes (t : Tlv) : t.toBytes.length = t.size := by
  simp [toBytes, size]

/-! ## The first element -/

/-- The type of the first element, of which no more than the type need be there. -/
def type? : Bytes → Option UInt16
  | x :: y :: _ => some (UInt16.ofNat (Bytes.toNat [x, y]))
  | _ => none

/-- The value of a given length that follows a type and a length. -/
def takeValue (type : UInt16) (length : Nat) (rest : Bytes) : Except DecodeError (Tlv × Bytes) :=
  match Bytes.splitAt? length rest with
  | some (value, behind) => .ok (⟨type, value⟩, behind)
  | none => .error (.lengthExceedsContainer type length rest.length)

/-- The first element and what follows it. -/
def next : Bytes → Except DecodeError (Tlv × Bytes)
  | t1 :: t0 :: l1 :: l0 :: rest =>
    takeValue (UInt16.ofNat (Bytes.toNat [t1, t0])) (Bytes.toNat [l1, l0]) rest
  | b => .error (.trailingUnaccountedBytes b.length)

theorem takeValue_eq_ok_iff {type : UInt16} {length : Nat} {rest behind : Bytes} {t : Tlv} :
    takeValue type length rest = .ok (t, behind) ↔
      t.type = type ∧ t.value.length = length ∧ rest = t.value ++ behind := by
  obtain ⟨type', value⟩ := t
  unfold takeValue
  cases h : Bytes.splitAt? length rest with
  | none =>
    have := Bytes.splitAt?_eq_none_iff.mp h
    constructor
    · intro h'; cases h'
    · rintro ⟨_, hl, rfl⟩
      simp only [List.length_append] at this
      simp only at hl
      omega
  | some cut =>
    obtain ⟨x, y⟩ := cut
    obtain ⟨rfl, hl⟩ := Bytes.splitAt?_eq_some_iff.mp h
    simp only [Except.ok.injEq, Prod.mk.injEq, Tlv.mk.injEq]
    constructor
    · rintro ⟨⟨rfl, rfl⟩, rfl⟩; exact ⟨rfl, hl, rfl⟩
    · rintro ⟨rfl, hl', happ⟩
      obtain ⟨rfl, rfl⟩ := List.append_inj happ (by omega)
      exact ⟨⟨rfl, rfl⟩, rfl⟩

/-- Two bytes are the written form of their number. -/
theorem ofNat_two_eq (n : Nat) (x y : UInt8) (h : n = Bytes.toNat [x, y]) :
    Bytes.ofNat 2 n = [x, y] := by
  have hx := x.toNat_lt
  have hy := y.toNat_lt
  have hn : n = x.toNat * 256 + y.toNat := by simpa [Bytes.toNat] using h
  have h1 : UInt8.ofNat (n / 256) = x := by
    apply UInt8.toNat_inj.mp
    rw [UInt8.toNat_ofNat']
    omega
  have h0 : UInt8.ofNat n = y := by
    apply UInt8.toNat_inj.mp
    rw [UInt8.toNat_ofNat']
    omega
  simp [Bytes.ofNat, h1, h0]

theorem toNat_two_lt (x y : UInt8) : Bytes.toNat [x, y] < 65536 := by
  have hx := x.toNat_lt
  have hy := y.toNat_lt
  simp only [Bytes.toNat, List.foldl_cons, List.foldl_nil]
  omega

/-- A number of two bytes is read back from its written form. -/
theorem exists_ofNat_two {n : Nat} (h : n < 65536) :
    ∃ x y : UInt8, Bytes.ofNat 2 n = [x, y] ∧ Bytes.toNat [x, y] = n := by
  refine ⟨UInt8.ofNat (n / 256), UInt8.ofNat n, by simp [Bytes.ofNat], ?_⟩
  simp only [Bytes.toNat, List.foldl_cons, List.foldl_nil, UInt8.toNat_ofNat']
  omega

/-- What stands in front of an element's written form is the element. -/
theorem next_toBytes_append {t : Tlv} (h : t.Fits) (rest : Bytes) :
    next (t.toBytes ++ rest) = .ok (t, rest) := by
  obtain ⟨t1, t0, ht, htn⟩ := exists_ofNat_two t.type.toNat_lt
  obtain ⟨l1, l0, hl, hln⟩ := exists_ofNat_two (show t.value.length < 65536 by
    simp only [Fits, maxLength] at h; omega)
  rw [toBytes, header, ht, hl]
  simp only [List.cons_append, List.nil_append, next]
  rw [takeValue_eq_ok_iff, htn, hln]
  exact ⟨by simp, rfl, rfl⟩

/-- An element is read exactly where its written form stands. -/
theorem next_eq_ok_iff {b rest : Bytes} {t : Tlv} :
    next b = .ok (t, rest) ↔ t.Fits ∧ b = t.toBytes ++ rest := by
  constructor
  · intro h
    unfold next at h
    split at h
    · next t1 t0 l1 l0 behind =>
      obtain ⟨htype, hlen, rfl⟩ := takeValue_eq_ok_iff.mp h
      have hlt := toNat_two_lt l1 l0
      refine ⟨by simp only [Fits, maxLength]; omega, ?_⟩
      have ht : Bytes.ofNat 2 t.type.toNat = [t1, t0] := by
        apply ofNat_two_eq
        rw [htype, UInt16.toNat_ofNat', Nat.mod_eq_of_lt (toNat_two_lt t1 t0)]
      rw [toBytes, header, ht, ofNat_two_eq _ _ _ hlen]
      simp
    · cases h
  · rintro ⟨hfits, rfl⟩
    exact next_toBytes_append hfits rest

theorem length_of_next {b rest : Bytes} {t : Tlv} (h : next b = .ok (t, rest)) :
    b.length = t.size + rest.length := by
  obtain ⟨_, rfl⟩ := next_eq_ok_iff.mp h
  simp

/-! ## Sequences -/

/-- The elements at the front of a byte string, and why what follows them is no element. -/
def scan (b : Bytes) : List Tlv × Option DecodeError :=
  if b.isEmpty then ([], none)
  else match _h : next b with
    | .error e => ([], some e)
    | .ok (t, rest) => match scan rest with
      | (ts, leftover) => (t :: ts, leftover)
termination_by b.length
decreasing_by
  have := length_of_next _h
  simp only [size, headerLength] at this
  omega

/-- The written form of a sequence. -/
def concat (ts : List Tlv) : Bytes := ts.flatMap toBytes

@[simp] theorem concat_nil : concat [] = [] := rfl

@[simp] theorem concat_cons (t : Tlv) (ts : List Tlv) : concat (t :: ts) = t.toBytes ++ concat ts :=
  rfl

@[simp] theorem concat_append (ts us : List Tlv) : concat (ts ++ us) = concat ts ++ concat us := by
  simp [concat]

theorem toBytes_ne_nil (t : Tlv) : t.toBytes ≠ [] := by
  intro h
  have := congrArg List.length h
  simp [size, headerLength] at this

@[simp] theorem scan_nil : scan [] = ([], none) := by
  rw [scan]; rfl

theorem scan_toBytes_append {t : Tlv} (h : t.Fits) (rest : Bytes) :
    scan (t.toBytes ++ rest) = (t :: (scan rest).1, (scan rest).2) := by
  have hne : (t.toBytes ++ rest).isEmpty = false := by
    rw [Bool.eq_false_iff, ne_eq, List.isEmpty_iff]
    exact fun e => toBytes_ne_nil t (List.append_eq_nil_iff.mp e).1
  rw [scan]
  simp only [hne, Bool.false_eq_true, if_false]
  split
  · next e he => rw [next_toBytes_append h] at he; cases he
  · next t' rest' he =>
    rw [next_toBytes_append h] at he
    cases he
    rfl

/-- What was written element by element is cut into these elements. -/
theorem scan_concat_append {ts : List Tlv} (h : ∀ t ∈ ts, t.Fits) (rest : Bytes) :
    scan (concat ts ++ rest) = (ts ++ (scan rest).1, (scan rest).2) := by
  induction ts with
  | nil => simp
  | cons t ts ih =>
    rw [concat_cons, List.append_assoc, scan_toBytes_append (h t List.mem_cons_self),
      ih fun u hu => h u (List.mem_cons_of_mem t hu)]
    rfl

/-- Nothing is lost: the elements and what follows them are the byte string. -/
theorem exists_append_of_scan (b : Bytes) :
    (∀ t ∈ (scan b).1, t.Fits) ∧ ∃ rest, b = concat (scan b).1 ++ rest ∧
      ((scan b).2 = none → rest = []) ∧ (∀ e, (scan b).2 = some e → next rest = .error e) := by
  fun_induction scan b with
  | case1 b hb =>
    rw [List.isEmpty_iff] at hb
    subst hb
    exact ⟨by simp, [], rfl, fun _ => rfl, fun e he => by cases he⟩
  | case2 b hb e he =>
    refine ⟨by simp, b, rfl, nofun, ?_⟩
    intro e' he'
    cases he'
    exact he
  | case3 b hb t rest he ts leftover hscan ih =>
    rw [hscan] at ih
    obtain ⟨hfits, rest', hrest, hnone, herr⟩ := ih
    obtain ⟨ht, rfl⟩ := next_eq_ok_iff.mp he
    refine ⟨?_, rest', ?_, hnone, herr⟩
    · intro u hu
      rcases List.mem_cons.mp hu with rfl | hu
      · exact ht
      · exact hfits u hu
    · rw [concat_cons, List.append_assoc, ← hrest]

/-- A byte string is cut without a rest exactly when it is a sequence of elements. -/
theorem scan_eq_iff {b : Bytes} {ts : List Tlv} :
    scan b = (ts, none) ↔ (∀ t ∈ ts, t.Fits) ∧ b = concat ts := by
  constructor
  · intro h
    obtain ⟨hfits, rest, hb, hnone, _⟩ := exists_append_of_scan b
    rw [h] at hfits hb hnone
    rw [hnone rfl, List.append_nil] at hb
    exact ⟨hfits, hb⟩
  · rintro ⟨hfits, rfl⟩
    simpa using scan_concat_append hfits []

/-! ## Reading a sequence -/

/-- Why a sequence was not read to its end: the bytes go on with something that is no element, or
an element is not acceptable. -/
inductive Stop (ε : Type)
  | broken (error : DecodeError)
  | refused (element : Tlv) (error : ε)

/-- How far a sequence was read: what was made of the accepted elements, their length, and why
there are no more. -/
structure Reading (ε σ : Type) where
  state : σ
  accepted : Nat
  stop : Option (Stop ε)

/-- Takes in elements one by one, from a given state and position. -/
def readFrom {ε σ : Type} (step : σ → Tlv → Except ε σ) (leftover : Option DecodeError) :
    (state : σ) → (accepted : Nat) → List Tlv → Reading ε σ
  | state, accepted, [] => { state, accepted, stop := leftover.map .broken }
  | state, accepted, t :: ts =>
    match step state t with
    | .ok state' => readFrom step leftover state' (accepted + t.size) ts
    | .error e => { state, accepted, stop := some (.refused t e) }

/-- Reads a byte string as a sequence of elements. -/
def read {ε σ : Type} (step : σ → Tlv → Except ε σ) (start : σ) (b : Bytes) : Reading ε σ :=
  readFrom step (scan b).2 start 0 (scan b).1

namespace Reading

/-- What was read, when all was read. -/
def result {ε σ : Type} (ofBroken : DecodeError → ε) (r : Reading ε σ) : Except ε σ :=
  match r.stop with
  | none => .ok r.state
  | some (.broken e) => .error (ofBroken e)
  | some (.refused _ e) => .error e

/-- The number of bytes that count as read: a refused element does. -/
def position {ε σ : Type} (r : Reading ε σ) : Nat :=
  match r.stop with
  | some (.refused t _) => r.accepted + t.size
  | _ => r.accepted

/-- The failure of cutting off an element, when this is why the reading stopped. -/
def broken? {ε σ : Type} (r : Reading ε σ) : Option DecodeError :=
  match r.stop with
  | some (.broken e) => some e
  | _ => none

end Reading

end Tlv

end NamedContent
