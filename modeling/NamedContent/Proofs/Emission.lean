import NamedContent.Proofs.Elements
import NamedContent.Tlv.Encoder

/-!
# What an emission writes

`Emit.Yields m ok b v` says all there is to know of an emission: under the condition `ok`, and under
no other, it succeeds; then it writes the bytes `b` and yields `v`. The rules follow the way
emissions are put together, so that each part of a packet has one specification that its users cite
and do not unfold.
-/

namespace NamedContent

namespace Emit

/-- The emission succeeds exactly under the condition `ok`, and then writes `b` and yields `v`. -/
structure Yields {α : Type} (m : Emit α) (ok : Prop) (b : Bytes) (v : α) : Prop where
  run : ok → m.result = .ok v ∧ m.bytes = b
  stuck : ¬ ok → ∃ e, m.result = .error e

/-- The emission writes `b` exactly under the condition `ok`, and yields the number of bytes. -/
abbrev Writes (m : Emit Nat) (ok : Prop) (b : Bytes) : Prop := m.Yields ok b b.length

variable {α β : Type} {p q : Prop} {a b : Bytes}

namespace Yields

variable {m : Emit α} {v : α}

theorem result_eq_ok_iff (h : m.Yields p b v) {w : α} : m.result = .ok w ↔ p ∧ w = v := by
  by_cases hp : p
  · obtain ⟨hrun, -⟩ := h.run hp
    rw [hrun]
    constructor
    · intro hw; cases hw; exact ⟨hp, rfl⟩
    · rintro ⟨-, rfl⟩; rfl
  · obtain ⟨e, he⟩ := h.stuck hp
    rw [he]
    constructor
    · intro hw; cases hw
    · intro hw; exact absurd hw.1 hp

/-- An emission that succeeded has met its condition. -/
theorem ok_of (h : m.Yields p b v) {w : α} (hw : m.result = .ok w) : p :=
  (h.result_eq_ok_iff.mp hw).1

theorem of_eq (h : m.Yields p a v) {w : α} (hpq : p ↔ q) (hab : a = b) (hvw : v = w) :
    m.Yields q b w := by
  subst hab hvw
  exact ⟨fun hq => h.run (hpq.mpr hq), fun hq => h.stuck fun hp => hq (hpq.mp hp)⟩

theorem ret (v : α) : (pure v : Emit α).Yields True [] v :=
  ⟨fun _ => ⟨rfl, rfl⟩, fun h => absurd trivial h⟩

/-- One emission after another. -/
theorem bind {f : α → Emit β} {w : β} (hm : m.Yields p a v) (hf : (f v).Yields q b w) :
    (m >>= f).Yields (p ∧ q) (a ++ b) w := by
  have hbind : m >>= f = andThen m f := rfl
  constructor
  · rintro ⟨hp, hq⟩
    obtain ⟨hmr, hmb⟩ := hm.run hp
    obtain ⟨hfr, hfb⟩ := hf.run hq
    rw [hbind, andThen, hmr]
    refine ⟨hfr, ?_⟩
    change Piece.concat (m.pieces ++ (f v).pieces) = a ++ b
    rw [Piece.concat_append]
    rw [← hmb, ← hfb]
    rfl
  · intro hpq
    -- The second emission is reached only when the first one succeeds.
    by_cases hp : p
    · obtain ⟨e, he⟩ := hf.stuck fun hq => hpq ⟨hp, hq⟩
      exact ⟨e, by rw [hbind, andThen, (hm.run hp).1]; exact he⟩
    · obtain ⟨e, he⟩ := hm.stuck hp
      exact ⟨e, by rw [hbind, andThen, he]⟩

end Yields

/-! ## Bytes -/

theorem writes_done : (done 0).Writes True [] := Yields.ret 0

theorem writes_fail (e : EncodeError) (b : Bytes) : (fail e : Emit Nat).Writes False b :=
  ⟨False.elim, fun _ => ⟨e, rfl⟩⟩

theorem writes_raw (b : Bytes) : (raw b).Writes True b :=
  ⟨fun _ => ⟨rfl, by simp [raw, bytes, Piece.bytes]⟩, fun h => absurd trivial h⟩

theorem writes_value (b : Bytes) : (value b).Writes True b := by
  unfold value
  split
  · exact writes_raw b
  · exact ⟨fun _ => ⟨rfl, by simp [bytes, Piece.bytes]⟩, fun h => absurd trivial h⟩

/-- Two emissions in a row, of which the numbers of bytes are added up. -/
theorem Yields.seq {m n : Emit Nat} (hm : m.Writes p a) (hn : n.Writes q b) :
    (do let x ← m; let y ← n; return x + y : Emit Nat).Writes (p ∧ q) (a ++ b) := by
  have hsum : (do let y ← n; return a.length + y : Emit Nat).Yields q b (a.length + b.length) :=
    (hn.bind (f := fun y => pure (a.length + y)) (.ret _)).of_eq (by simp) (by simp) rfl
  exact (hm.bind hsum).of_eq Iff.rfl rfl (by simp)

theorem Yields.seq₃ {r : Prop} {c : Bytes} {l m n : Emit Nat} (hl : l.Writes p a)
    (hm : m.Writes q b) (hn : n.Writes r c) :
    (do let x ← l; let y ← m; let z ← n; return x + y + z : Emit Nat).Writes (p ∧ q ∧ r)
      (a ++ b ++ c) := by
  have hsum := hl.bind (f := fun x => do let y ← m; let z ← n; return x + y + z)
    (hm.bind (hn.bind (.ret _)))
  exact hsum.of_eq (by rw [and_true]) (by rw [List.append_nil, List.append_assoc])
    (by rw [List.length_append, List.length_append])

/-- What is there is written, and nothing where nothing is there. -/
theorem writes_optional {δ : Type} {one : δ → Emit Nat} {all : Option δ → Emit Nat} (tlv : δ → Tlv)
    (hone : ∀ d, (one d).Writes (tlv d).Fits (tlv d).toBytes) (hnone : all none = done 0)
    (hsome : ∀ d, all (some d) = one d) (o : Option δ) :
    (all o).Writes (∀ t ∈ (o.map tlv).toList, t.Fits) (Tlv.concat (o.map tlv).toList) := by
  cases o with
  | none =>
    rw [hnone]
    exact writes_done.of_eq (by simp) rfl rfl
  | some d =>
    rw [hsome]
    exact (hone d).of_eq (by simp) (by simp) (by simp)

/-- What is written one by one is written in a row. -/
theorem writes_each {δ : Type} {one : δ → Emit Nat} {all : List δ → Emit Nat} (tlv : δ → Tlv)
    (hone : ∀ d, (one d).Writes (tlv d).Fits (tlv d).toBytes) (hnil : all [] = done 0)
    (hcons : ∀ d ds, all (d :: ds) = do let x ← one d; let y ← all ds; return x + y)
    (ds : List δ) : (all ds).Writes (∀ t ∈ ds.map tlv, t.Fits) (Tlv.concat (ds.map tlv)) := by
  induction ds with
  | nil =>
    rw [hnil]
    exact writes_done.of_eq (by simp) rfl rfl
  | cons d ds ih =>
    rw [hcons]
    exact ((hone d).seq ih).of_eq List.forall_mem_cons.symm rfl rfl

theorem writes_values (bs : List Bytes) : (values bs).Writes True bs.flatten := by
  induction bs with
  | nil => exact writes_done
  | cons b rest ih => exact ((writes_value b).seq ih).of_eq (by simp) rfl rfl

/-! ## Elements -/

theorem writes_header (type : UInt16) (length : Nat) :
    (header type length).Writes (length ≤ maxLength) (Tlv.header type length) := by
  unfold header
  split
  · next h => exact (writes_fail _ _).of_eq (by simp; omega) rfl rfl
  · next h => exact (writes_raw _).of_eq (by simp; omega) rfl rfl

theorem writes_copied (t : Tlv) : (copied t.type t.value).Writes t.Fits t.toBytes :=
  ((writes_header t.type t.value.length).seq (writes_raw t.value)).of_eq (.of_eq (and_true _)) rfl
    (by simp [Tlv.size])

theorem writes_element (t : Tlv) : (element t.type t.value).Writes t.Fits t.toBytes :=
  ((writes_header t.type t.value.length).seq (writes_value t.value)).of_eq (.of_eq (and_true _)) rfl
    (by simp [Tlv.size])

theorem writes_scatter (type : UInt16) (s : Scatter) :
    (scatter type s).Writes (Tlv.Fits ⟨type, s.toBytes⟩) (Tlv.toBytes ⟨type, s.toBytes⟩) :=
  ((writes_header type s.length).seq (writes_values s.segments)).of_eq (.of_eq (and_true _)) rfl
    (by simp [Tlv.size, Scatter.toBytes])

theorem writes_elements (ts : List Tlv) :
    (elements ts).Writes (∀ t ∈ ts, t.Fits) (Tlv.concat ts) := by
  induction ts with
  | nil => exact writes_done.of_eq (by simp) rfl rfl
  | cons t ts ih => exact ((writes_element t).seq ih).of_eq List.forall_mem_cons.symm rfl rfl

/-! ## Containers -/

theorem writes_container (type : UInt16) {body : Emit Nat} (h : body.Writes p b) :
    (container type body).Writes (p ∧ Tlv.Fits ⟨type, b⟩) (Tlv.toBytes ⟨type, b⟩) := by
  constructor
  · rintro ⟨hp, hfits⟩
    obtain ⟨hr, hb⟩ := h.run hp
    -- The content comes first, since its length stands in front of it.
    have hle : ¬ maxLength < b.length := Nat.not_lt.mpr hfits
    rw [container, hr]
    simp only [hle, if_false]
    refine ⟨by simp [Tlv.size], ?_⟩
    change Tlv.header type b.length ++ Piece.concat body.pieces = Tlv.header type b.length ++ b
    exact congrArg _ hb
  · intro hn
    by_cases hp : p
    · have hlt : maxLength < b.length := Nat.not_le.mp fun hfits => hn ⟨hp, hfits⟩
      rw [container, (h.run hp).1]
      simp only [hlt, if_true]
      exact ⟨_, rfl⟩
    · obtain ⟨e, he⟩ := h.stuck hp
      rw [container, he]
      exact ⟨e, rfl⟩

/-- A container of elements can be written when its content is short enough. -/
theorem writes_container_concat (type : UInt16) {body : Emit Nat} {ts : List Tlv}
    (h : body.Writes (p ∧ ∀ t ∈ ts, t.Fits) (Tlv.concat ts)) :
    (container type body).Writes (p ∧ Tlv.Fits ⟨type, Tlv.concat ts⟩)
      (Tlv.toBytes ⟨type, Tlv.concat ts⟩) := by
  refine (writes_container type h).of_eq ?_ rfl rfl
  constructor
  · rintro ⟨⟨hp, -⟩, hfits⟩
    exact ⟨hp, hfits⟩
  · rintro ⟨hp, hfits⟩
    exact ⟨⟨hp, Tlv.fits_of_mem hfits⟩, hfits⟩

/-- A container of nothing but elements. -/
theorem writes_container_elements (type : UInt16) {body : Emit Nat} {ts : List Tlv}
    (h : body.Writes (∀ t ∈ ts, t.Fits) (Tlv.concat ts)) :
    (container type body).Writes (Tlv.Fits ⟨type, Tlv.concat ts⟩)
      (Tlv.toBytes ⟨type, Tlv.concat ts⟩) := by
  have htrue : body.Writes (True ∧ ∀ t ∈ ts, t.Fits) (Tlv.concat ts) :=
    h.of_eq (.of_eq (true_and _).symm) rfl rfl
  exact (writes_container_concat type htrue).of_eq (.of_eq (true_and _)) rfl rfl

end Emit

/-! ## Scatter lists -/

namespace Piece

theorem flatten_consFilled (b : Bytes) (segments : List Bytes) :
    (consFilled b segments).flatten = b ++ segments.flatten := by
  cases b <;> rfl

theorem join_bytes (pieces : List Piece) :
    (join pieces).1 ++ (join pieces).2.flatten = concat pieces := by
  induction pieces with
  | nil => rfl
  | cons p rest ih =>
    rw [concat_cons, ← ih]
    cases p with
    | copied b => simp [join, bytes]
    | shared b => simp [join, bytes, flatten_consFilled]

/-- The scatter list of pieces holds their bytes. -/
theorem toBytes_toScatter (pieces : List Piece) : (toScatter pieces).toBytes = concat pieces := by
  rw [← join_bytes]
  exact flatten_consFilled _ _

end Piece

end NamedContent
