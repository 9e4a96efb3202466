import Mathlib.Data.List.Induction
import NamedContent.Tlv.Basic

/-!
# Sequences of elements

A sequence of elements is determined by its written form (`concat_inj`), and reading a byte string
element by element is folding over the sequence it is the written form of (`result_read_eq_ok_iff`).
`valueOf?` is the value that a sequence gives to a type; where a type occurs at most once, this says
all that the sequence tells about it.
-/

namespace NamedContent

/-- A computation in two steps succeeds when both do. -/
theorem bind_eq_ok_iff {ε α β : Type} {x : Except ε α} {f : α → Except ε β} {b : β} :
    (x >>= f) = .ok b ↔ ∃ a, x = .ok a ∧ f a = .ok b := by
  cases x with
  | error e =>
    constructor
    · intro h; cases h
    · rintro ⟨a, h, _⟩; cases h
  | ok a =>
    constructor
    · intro h; exact ⟨a, rfl, h⟩
    · rintro ⟨a', h, hf⟩; cases h; exact hf

theorem map_eq_ok_iff {ε α β : Type} {x : Except ε α} {f : α → β} {b : β} :
    x.map f = .ok b ↔ ∃ a, x = .ok a ∧ f a = b := by
  cases x <;> simp [Except.map]

theorem exists_ok_of_toBool {ε α : Type} {x : Except ε α} (h : x.toBool = true) :
    ∃ a, x = .ok a := by
  cases x with
  | error e => cases h
  | ok a => exact ⟨a, rfl⟩

namespace Tlv

/-! ## Length -/

theorem size_le_length_concat {ts : List Tlv} {t : Tlv} (h : t ∈ ts) :
    t.size ≤ (concat ts).length := by
  induction ts with
  | nil => cases h
  | cons u ts ih =>
    rw [concat_cons, List.length_append, length_toBytes]
    rcases List.mem_cons.mp h with rfl | h
    · omega
    · have := ih h
      omega

theorem length_le_length_concat (ts : List Tlv) : ts.length ≤ (concat ts).length := by
  induction ts with
  | nil => exact Nat.le_refl 0
  | cons t ts ih =>
    rw [concat_cons, List.length_append, length_toBytes, List.length_cons, size, headerLength]
    omega

/-- What lies within two bytes' worth of elements can be announced by two bytes. -/
theorem fits_of_mem {ts : List Tlv} (h : (concat ts).length ≤ maxLength) :
    ∀ t ∈ ts, t.Fits := by
  intro t ht
  have := size_le_length_concat ht
  unfold Fits
  unfold size at this
  omega

/-- An element within an element. -/
theorem fits_of_toBytes {type : UInt16} {t : Tlv} (h : Fits ⟨type, t.toBytes⟩) : t.Fits := by
  unfold Fits at h ⊢
  rw [length_toBytes] at h
  exact Nat.le_trans (Nat.le_add_left _ _) h

theorem length_concat_perm {ts us : List Tlv} (h : ts.Perm us) :
    (concat ts).length = (concat us).length := by
  induction h with
  | nil => rfl
  | cons t _ ih => simp [ih]
  | swap t u ts =>
    simp only [concat_cons, List.length_append]
    omega
  | trans _ _ ih ih' => rw [ih, ih']

theorem length_concat_filterMap_le {f : Tlv → Option Tlv} {ts : List Tlv}
    (h : ∀ t ∈ ts, ∀ u, f t = some u → u.size ≤ t.size) :
    (concat (ts.filterMap f)).length ≤ (concat ts).length := by
  induction ts with
  | nil => exact Nat.le_refl _
  | cons t ts ih =>
    have hts := ih fun u hu => h u (List.mem_cons_of_mem t hu)
    rw [List.filterMap_cons, concat_cons, List.length_append, length_toBytes]
    cases hf : f t with
    | none =>
      show (concat (ts.filterMap f)).length ≤ _
      omega
    | some u =>
      have ht := h t List.mem_cons_self u hf
      show (concat (u :: ts.filterMap f)).length ≤ _
      rw [concat_cons, List.length_append, length_toBytes]
      omega

/-! ## Written form -/

theorem toBytes_append_inj {t u : Tlv} {b c : Bytes} (ht : t.Fits) (hu : u.Fits)
    (h : t.toBytes ++ b = u.toBytes ++ c) : t = u ∧ b = c := by
  have hnext := next_toBytes_append ht b
  rw [h, next_toBytes_append hu c] at hnext
  cases hnext
  exact ⟨rfl, rfl⟩

theorem scan_concat {ts : List Tlv} (h : ∀ t ∈ ts, t.Fits) : scan (concat ts) = (ts, none) :=
  scan_eq_iff.mpr ⟨h, rfl⟩

/-- A sequence is determined by its written form. -/
theorem concat_inj {ts us : List Tlv} (ht : ∀ t ∈ ts, t.Fits) (hu : ∀ u ∈ us, u.Fits)
    (h : concat ts = concat us) : ts = us := by
  have hscan := scan_concat ht
  rw [h, scan_concat hu] at hscan
  exact (Prod.mk.inj hscan).1.symm

/-- The type of an element stands in front of it. -/
theorem type?_toBytes_append (t : Tlv) (b : Bytes) : type? (t.toBytes ++ b) = some t.type := by
  obtain ⟨x, y, hxy, hn⟩ := exists_ofNat_two t.type.toNat_lt
  rw [toBytes, header, hxy]
  simp [type?, hn]

/-! ## Reading -/

theorem readFrom_stop_none_iff {ε σ : Type} {step : σ → Tlv → Except ε σ}
    {leftover : Option DecodeError} {ts : List Tlv} {s : σ} {n : Nat} {s' : σ} :
    (readFrom step leftover s n ts).stop = none ∧ (readFrom step leftover s n ts).state = s' ↔
      leftover = none ∧ ts.foldlM step s = .ok s' := by
  induction ts generalizing s n with
  | nil =>
    cases leftover with
    | none => simp [readFrom, pure, Except.pure]
    | some e => simp [readFrom]
  | cons t ts ih =>
    rw [List.foldlM_cons, bind_eq_ok_iff, readFrom]
    cases h : step s t with
    | error e => simp
    | ok s₁ => simpa using ih

/-- A byte string is read to its end when it is a sequence of elements each of which is accepted. -/
theorem result_read_eq_ok_iff {ε σ : Type} {step : σ → Tlv → Except ε σ}
    {ofBroken : DecodeError → ε} {s s' : σ} {b : Bytes} :
    (read step s b).result ofBroken = .ok s' ↔
      ∃ ts, (∀ t ∈ ts, t.Fits) ∧ b = concat ts ∧ ts.foldlM step s = .ok s' := by
  have hresult : (read step s b).result ofBroken = .ok s' ↔
      (read step s b).stop = none ∧ (read step s b).state = s' := by
    unfold Reading.result
    cases (read step s b).stop with
    | none => simp
    | some stop => cases stop <;> simp
  rw [hresult, read, readFrom_stop_none_iff]
  constructor
  · rintro ⟨hnone, hfold⟩
    -- Where nothing is left over the elements found are all that there is.
    obtain ⟨hfits, hb⟩ := scan_eq_iff.mp (Prod.ext rfl hnone : scan b = ((scan b).1, none))
    exact ⟨_, hfits, hb, hfold⟩
  · rintro ⟨ts, hfits, rfl, hfold⟩
    rw [scan_concat hfits]
    exact ⟨rfl, hfold⟩

/-- A fold is known once it is known what each prefix makes of the state and which prefixes are
accepted. -/
theorem foldlM_eq_ok_iff {ε σ : Type} {step : σ → Tlv → Except ε σ} (state : List Tlv → σ)
    (Accepted : List Tlv → Prop) (hnil : Accepted [])
    (hfront : ∀ ts t, Accepted (ts ++ [t]) → Accepted ts)
    (hstep : ∀ ts t s', Accepted ts →
      (step (state ts) t = .ok s' ↔ Accepted (ts ++ [t]) ∧ s' = state (ts ++ [t])))
    {ts : List Tlv} {s' : σ} :
    ts.foldlM step (state []) = .ok s' ↔ Accepted ts ∧ s' = state ts := by
  -- The induction is from the back, so that one step goes from a known state to the next.
  induction ts using List.reverseRecOn generalizing s' with
  | nil =>
    rw [List.foldlM_nil]
    constructor
    · intro h; cases h; exact ⟨hnil, rfl⟩
    · rintro ⟨-, rfl⟩; rfl
  | append_singleton ts t ih =>
    simp only [List.foldlM_append, List.foldlM_cons, List.foldlM_nil, bind_pure, bind_eq_ok_iff, ih]
    constructor
    · rintro ⟨s, ⟨hts, rfl⟩, ht⟩
      exact (hstep ts t s' hts).mp ht
    · intro h
      have hts := hfront ts t h.1
      exact ⟨_, ⟨hts, rfl⟩, (hstep ts t s' hts).mpr h⟩

/-! ### What is kept of a sequence -/

/-- What an element makes of a list of elements: there is at most one more, and it is not longer. -/
inductive Grows (t : Tlv) : List Tlv → List Tlv → Prop
  | same (us : List Tlv) : Grows t us us
  | insert (front : List Tlv) {u : Tlv} (h : u.value.length ≤ t.value.length)
      (behind : List Tlv) : Grows t (front ++ behind) (front ++ u :: behind)

/-- Elements that can be written within a number of bytes. -/
structure Within (us : List Tlv) (n : Nat) : Prop where
  fits : ∀ u ∈ us, u.Fits
  length : (concat us).length ≤ n

theorem Grows.within {t : Tlv} {us vs : List Tlv} {n : Nat} (h : Grows t us vs) (ht : t.Fits)
    (hus : Within us n) : Within vs (n + t.size) := by
  cases h with
  | same => exact ⟨hus.fits, Nat.le_trans hus.length (Nat.le_add_right _ _)⟩
  | @insert front u hle behind =>
    have hlength := hus.length
    rw [concat_append, List.length_append] at hlength
    constructor
    · intro v hv
      rcases List.mem_append.mp hv with hv | hv
      · exact hus.fits v (List.mem_append_left _ hv)
      · rcases List.mem_cons.mp hv with rfl | hv
        · exact Nat.le_trans hle ht
        · exact hus.fits v (List.mem_append_right _ hv)
    · rw [concat_append, concat_cons, List.length_append, List.length_append, length_toBytes]
      unfold size
      omega

/-- If each element makes of a state at most one element that is not longer, then what a sequence
makes of it is not longer than the sequence. What is known of the state may be kept along. -/
theorem foldlM_grows {ε σ : Type} {step : σ → Tlv → Except ε σ} (Kept : σ → Prop)
    (view : σ → List Tlv)
    (hstep : ∀ s t s', Kept s → step s t = .ok s' → Kept s' ∧ Grows t (view s) (view s'))
    {ts : List Tlv} (hts : ∀ t ∈ ts, t.Fits) {s s' : σ} {n : Nat} (hs : Kept s)
    (hwithin : Within (view s) n) (h : ts.foldlM step s = .ok s') :
    Kept s' ∧ Within (view s') (n + (concat ts).length) := by
  induction ts generalizing s n with
  | nil =>
    cases h
    exact ⟨hs, hwithin⟩
  | cons t ts ih =>
    obtain ⟨ht, hts⟩ := List.forall_mem_cons.mp hts
    rw [List.foldlM_cons, bind_eq_ok_iff] at h
    obtain ⟨s₁, hfirst, hrest⟩ := h
    obtain ⟨hs₁, hgrows⟩ := hstep s t s₁ hs hfirst
    have hall := ih hts hs₁ (hgrows.within ht hwithin) hrest
    rwa [Nat.add_assoc, ← length_toBytes, ← List.length_append, ← concat_cons] at hall

/-- What was read from a byte string, beginning with nothing, is not longer than it. -/
theorem result_read_grows {ε σ : Type} {step : σ → Tlv → Except ε σ} {ofBroken : DecodeError → ε}
    (Kept : σ → Prop) (view : σ → List Tlv)
    (hstep : ∀ s t s', Kept s → step s t = .ok s' → Kept s' ∧ Grows t (view s) (view s'))
    {s s' : σ} {b : Bytes} (h : (read step s b).result ofBroken = .ok s') (hs : Kept s)
    (hnone : view s = []) : Kept s' ∧ Within (view s') b.length := by
  obtain ⟨ts, hfits, rfl, hfold⟩ := result_read_eq_ok_iff.mp h
  have hwithin : Within (view s) 0 := by
    rw [hnone]
    exact ⟨nofun, Nat.le_refl 0⟩
  have hall := foldlM_grows Kept view hstep hfits hs hwithin hfold
  rwa [Nat.zero_add] at hall

/-! ## Values by type -/

/-- The value of the first element of a type. -/
def valueOf? (ts : List Tlv) (type : UInt16) : Option Bytes :=
  (ts.find? fun t => t.type == type).map value

/-- The number of elements of a type. -/
def countOf (ts : List Tlv) (type : UInt16) : Nat := ts.countP fun t => t.type == type

@[simp] theorem valueOf?_nil (type : UInt16) : valueOf? [] type = none := rfl

theorem valueOf?_append (ts us : List Tlv) (type : UInt16) :
    valueOf? (ts ++ us) type = (valueOf? ts type).or (valueOf? us type) := by
  unfold valueOf?
  rw [List.find?_append]
  cases ts.find? fun t => t.type == type <;> rfl

theorem valueOf?_singleton (t : Tlv) (type : UInt16) :
    valueOf? [t] type = if t.type = type then some t.value else none := by
  by_cases h : t.type = type <;> simp [valueOf?, h]

theorem valueOf?_eq_none_iff {ts : List Tlv} {type : UInt16} :
    valueOf? ts type = none ↔ ∀ t ∈ ts, t.type ≠ type := by
  simp [valueOf?]

theorem mem_of_valueOf? {ts : List Tlv} {type : UInt16} {b : Bytes}
    (h : valueOf? ts type = some b) : ⟨type, b⟩ ∈ ts := by
  obtain ⟨t, ht, rfl⟩ := Option.map_eq_some_iff.mp h
  have htype : t.type = type := by simpa using List.find?_some ht
  subst htype
  exact List.mem_of_find?_eq_some ht

@[simp] theorem countOf_nil (type : UInt16) : countOf [] type = 0 := rfl

theorem countOf_append (ts us : List Tlv) (type : UInt16) :
    countOf (ts ++ us) type = countOf ts type + countOf us type := List.countP_append

theorem countOf_singleton (t : Tlv) (type : UInt16) :
    countOf [t] type = if t.type = type then 1 else 0 := by
  by_cases h : t.type = type <;> simp [countOf, h]

theorem countOf_eq_zero_iff {ts : List Tlv} {type : UInt16} :
    countOf ts type = 0 ↔ valueOf? ts type = none := by
  rw [valueOf?_eq_none_iff]
  simp [countOf]

theorem countOf_eq_count (ts : List Tlv) (type : UInt16) :
    countOf ts type = (ts.map Tlv.type).count type := by
  rw [countOf, List.count, List.countP_map]
  rfl

/-- None of some types occurs twice. -/
def Once (types : List UInt16) (ts : List Tlv) : Prop := ∀ type ∈ types, countOf ts type ≤ 1

instance (types : List UInt16) (ts : List Tlv) : Decidable (Once types ts) :=
  List.decidableBAll (fun type => countOf ts type ≤ 1) types

theorem once_nil (types : List UInt16) : Once types [] := fun _ _ => Nat.zero_le 1

/-- One more element keeps the types apart unless its own has been met. -/
theorem once_concat_iff {types : List UInt16} {ts : List Tlv} {t : Tlv} :
    Once types (ts ++ [t]) ↔ Once types ts ∧ (t.type ∈ types → valueOf? ts t.type = none) := by
  constructor
  · intro h
    constructor
    · intro type htype
      have := h type htype
      rw [countOf_append] at this
      omega
    · intro htype
      have := h t.type htype
      rw [countOf_append, countOf_singleton, if_pos rfl] at this
      exact countOf_eq_zero_iff.mp (by omega)
  · rintro ⟨h, hnew⟩ type htype
    rw [countOf_append, countOf_singleton]
    split
    · next heq =>
      subst heq
      have hzero := countOf_eq_zero_iff.mpr (hnew htype)
      omega
    · exact h type htype

/-- Where a type occurs at most once, its elements are told by its value. -/
theorem filter_type_eq {ts : List Tlv} {type : UInt16} (h : countOf ts type ≤ 1) :
    ts.filter (fun t => t.type == type) = ((valueOf? ts type).map (Tlv.mk type)).toList := by
  rw [countOf, List.countP_eq_length_filter] at h
  rw [valueOf?, ← List.head?_filter]
  cases hts : ts.filter fun t => t.type == type with
  | nil => rfl
  | cons t rest =>
    rw [hts] at h
    have hrest : rest = [] := List.length_eq_zero_iff.mp (by simpa using h)
    have htype : t.type = type := by
      have hmem : t ∈ ts.filter fun t => t.type == type := hts ▸ List.mem_cons_self
      simpa using (List.mem_filter.mp hmem).2
    subst htype hrest
    rfl

/-- The value of a type that occurs once. -/
theorem valueOf?_of_mem {ts : List Tlv} {t : Tlv} (h : countOf ts t.type ≤ 1) (ht : t ∈ ts) :
    valueOf? ts t.type = some t.value := by
  have hmem : t ∈ ts.filter fun u => u.type == t.type := List.mem_filter.mpr ⟨ht, by simp⟩
  rw [filter_type_eq h] at hmem
  obtain ⟨b, hb, heq⟩ := Option.map_eq_some_iff.mp (Option.mem_toList.mp hmem)
  rw [hb, ← heq]

end Tlv

end NamedContent
