import NamedContent.Proofs.Emission

/-!
# Pieces as one vector

Pieces are written over, cut off and joined at running offsets. Here each of these is told for the
bytes of all pieces in a row, of which some are pinned: those of long values that are shared with
their owner.

* `Piece.overwrite_eq_nil_iff`, `Piece.concat_overwrite`: what is written over, and when.
* `Piece.concat_takeBytes`: what is left when the end is cut off.
* `Piece.filled_toScatter`: no segment is empty.
-/

namespace NamedContent

/-! ## Vectors -/

namespace Bytes

/-- A byte string with data in the place of the bytes from `offset` on, as far as there are any. -/
def splice (offset : Nat) (data b : Bytes) : Bytes :=
  b.take offset ++ data.take (b.length - offset) ++ b.drop (offset + data.length)

variable {offset : Nat} {data b c : Bytes}

@[simp] theorem length_splice : (splice offset data b).length = b.length := by
  simp only [splice, List.length_append, List.length_take, List.length_drop]
  omega

theorem splice_append_of_le (h : b.length ≤ offset) :
    splice offset data (b ++ c) = b ++ splice (offset - b.length) data c := by
  have hdrop : offset + data.length - b.length = offset - b.length + data.length := by omega
  have hroom : (b ++ c).length - offset = c.length - (offset - b.length) := by
    rw [List.length_append]
    omega
  simp only [splice, hroom, List.take_append, List.drop_append, List.take_of_length_le h,
    List.drop_of_length_le (Nat.le_add_right_of_le h : b.length ≤ offset + data.length),
    List.nil_append, List.append_assoc, hdrop]

/-- Data that starts in the first of two byte strings ends there, or goes on in the second one. -/
theorem splice_append_of_lt (h : offset < b.length) :
    splice offset data (b ++ c) =
      b.take offset ++ data.take (b.length - offset) ++ b.drop (offset + data.length) ++
        splice 0 (data.drop (b.length - offset)) c := by
  have hroom : (b ++ c).length - offset = b.length - offset + c.length := by
    rw [List.length_append]
    omega
  have hdrop : offset + data.length - b.length = data.length - (b.length - offset) := by omega
  simp only [splice, hroom, List.take_zero, List.nil_append, List.drop_append, List.length_drop,
    List.take_append_of_le_length (Nat.le_of_lt h), Nat.zero_add, Nat.sub_zero, List.take_add,
    hdrop]
  by_cases hends : data.length ≤ b.length - offset
  · simp only [List.drop_of_length_le hends, List.take_nil, List.append_nil, List.nil_append,
      List.append_assoc]
  · have hgone : b.drop (offset + data.length) = [] := List.drop_of_length_le (by omega)
    simp only [hgone, List.nil_append, List.append_nil, List.append_assoc]

end Bytes

/-! ## Pinned bytes -/

namespace Piece

/-- For each byte of a piece whether it is shared with its owner. -/
def pins : Piece → List Bool
  | copied b => List.replicate b.length false
  | shared b => List.replicate b.length true

/-- For each byte of a list of pieces whether it is shared with its owner. -/
def allPins (pieces : List Piece) : List Bool := pieces.flatMap pins

@[simp] theorem allPins_nil : allPins [] = [] := rfl

@[simp] theorem allPins_cons (p : Piece) (ps : List Piece) :
    allPins (p :: ps) = p.pins ++ allPins ps := rfl

@[simp] theorem allPins_append (ps qs : List Piece) :
    allPins (ps ++ qs) = allPins ps ++ allPins qs := by
  simp [allPins]

@[simp] theorem length_pins (p : Piece) : p.pins.length = p.length := by
  cases p <;> simp [pins, length, bytes]

theorem length_allPins (pieces : List Piece) : (allPins pieces).length = total pieces := by
  induction pieces with
  | nil => rfl
  | cons p ps ih => simp [ih, total, length]

/-! ### Writing over -/

/-- Writing over does not move any border between pieces. -/
theorem allPins_overwrite (offset : Nat) (data : Bytes) (pieces : List Piece) :
    allPins (overwrite offset data pieces).1 = allPins pieces := by
  induction pieces generalizing offset data with
  | nil => rfl
  | cons p rest ih =>
    unfold overwrite
    split
    · rw [allPins_cons, allPins_cons, ih]
    · next hinside =>
      cases p with
      | shared b => rfl
      | copied b =>
        have hlength : offset < b.length := Nat.not_le.mp hinside
        simp only [allPins_cons, ih, pins, List.length_append, List.length_take, List.length_drop]
        congr 2
        omega

/-- None of the bytes `[offset, offset + count)` is pinned. -/
def Unpinned (pins : List Bool) (offset count : Nat) : Prop :=
  ∀ i, offset ≤ i → i < offset + count → pins[i]? ≠ some true

theorem not_unpinned_iff {pins : List Bool} {offset count : Nat} :
    ¬ Unpinned pins offset count ↔
      ∃ i, offset ≤ i ∧ i < offset + count ∧ pins[i]? = some true := by
  simp only [Unpinned, not_forall, not_not, exists_prop]

theorem unpinned_nil (offset count : Nat) : Unpinned [] offset count := fun _ _ _ => nofun

theorem unpinned_append {ps qs : List Bool} {offset count : Nat} (h : ps.length ≤ offset) :
    Unpinned (ps ++ qs) offset count ↔ Unpinned qs (offset - ps.length) count := by
  constructor
  · intro hfree i hle hlt
    have hi := hfree (i + ps.length) (by omega) (by omega)
    rwa [List.getElem?_append_right (by omega), Nat.add_sub_cancel] at hi
  · intro hfree i hle hlt
    rw [List.getElem?_append_right (by omega)]
    exact hfree _ (by omega) (by omega)

/-- Where the first byte is pinned there must be none. -/
theorem unpinned_true_append {n : Nat} {qs : List Bool} {offset count : Nat} (h : offset < n) :
    Unpinned (List.replicate n true ++ qs) offset count ↔ count = 0 := by
  constructor
  · intro hfree
    by_contra hpos
    have hfirst := hfree offset (Nat.le_refl _) (by omega)
    rw [List.getElem?_append_left (by simpa using h), List.getElem?_replicate, if_pos h] at hfirst
    exact hfirst rfl
  · rintro rfl i hle hlt
    omega

theorem unpinned_false_append {n : Nat} {qs : List Bool} {offset count : Nat} (h : offset < n) :
    Unpinned (List.replicate n false ++ qs) offset count ↔
      Unpinned qs 0 (count - (n - offset)) := by
  constructor
  · intro hfree i _ hlt
    have hi := hfree (i + n) (by omega) (by omega)
    rwa [List.getElem?_append_right (by simp), List.length_replicate, Nat.add_sub_cancel] at hi
  · intro hfree i hle hlt
    by_cases hi : i < n
    · rw [List.getElem?_append_left (by simpa using hi), List.getElem?_replicate, if_pos hi]
      nofun
    · rw [List.getElem?_append_right (by simpa using Nat.not_lt.mp hi), List.length_replicate]
      exact hfree _ (Nat.zero_le _) (by omega)

/-- Nothing is kept from being written when no byte that is written over is pinned. -/
theorem overwrite_eq_nil_iff (offset : Nat) (data : Bytes) (pieces : List Piece) :
    (overwrite offset data pieces).2 = [] ↔ Unpinned (allPins pieces) offset data.length := by
  induction pieces generalizing offset data with
  | nil => exact iff_of_true rfl (unpinned_nil _ _)
  | cons p rest ih =>
    unfold overwrite
    rw [allPins_cons]
    split
    · next hbehind =>
      rw [unpinned_append (by rwa [length_pins]), length_pins]
      exact ih _ _
    · next hinside =>
      cases p with
      | shared b =>
        have hinside : offset < b.length := Nat.not_le.mp hinside
        rw [pins, unpinned_true_append hinside]
        exact List.length_eq_zero_iff.symm
      | copied b =>
        have hinside : offset < b.length := Nat.not_le.mp hinside
        rw [pins, unpinned_false_append hinside, ← List.length_drop]
        exact ih _ _

/-- Data that is written takes the place of what stood there. -/
theorem concat_overwrite {offset : Nat} {data : Bytes} {pieces : List Piece}
    (h : (overwrite offset data pieces).2 = []) :
    concat (overwrite offset data pieces).1 = Bytes.splice offset data (concat pieces) := by
  induction pieces generalizing offset data with
  | nil => simp [overwrite, Bytes.splice]
  | cons p rest ih =>
    unfold overwrite at h ⊢
    rw [concat_cons]
    split at h
    · next hbehind =>
      rw [if_pos hbehind, Bytes.splice_append_of_le hbehind]
      exact congrArg _ (ih h)
    · next hinside =>
      rw [if_neg hinside]
      cases p with
      | shared b =>
        obtain rfl : data = [] := h
        simp [Bytes.splice]
      | copied b =>
        have hinside : offset < b.length := Nat.not_le.mp hinside
        rw [bytes, Bytes.splice_append_of_lt hinside]
        exact congrArg _ (ih h)

/-! ### Cutting off -/

theorem concat_takeBytes (count : Nat) (pieces : List Piece) :
    concat (takeBytes count pieces) = (concat pieces).take count := by
  induction pieces generalizing count with
  | nil => rw [takeBytes, concat_nil, List.take_nil]
  | cons p rest ih =>
    unfold takeBytes
    split
    · next hzero => rw [hzero, List.take_zero, concat_nil]
    · rw [concat_cons]
      split
      · next hbehind =>
        rw [concat_cons, ih, List.take_append, List.take_of_length_le (Nat.le_of_lt hbehind)]
        rfl
      · next hinside =>
        have hle : count ≤ p.bytes.length := Nat.not_lt.mp hinside
        rw [List.take_append_of_le_length hle]
        cases p <;> simp [bytes]

theorem allPins_takeBytes (count : Nat) (pieces : List Piece) :
    allPins (takeBytes count pieces) = (allPins pieces).take count := by
  induction pieces generalizing count with
  | nil => rw [takeBytes, allPins_nil, List.take_nil]
  | cons p rest ih =>
    unfold takeBytes
    split
    · next hzero => rw [hzero, List.take_zero, allPins_nil]
    · rw [allPins_cons]
      split
      · next hbehind =>
        have hle : p.pins.length ≤ count := by rw [length_pins]; exact Nat.le_of_lt hbehind
        rw [allPins_cons, ih, List.take_append, List.take_of_length_le hle, length_pins]
      · next hinside =>
        rw [List.take_append_of_le_length (by rw [length_pins]; exact Nat.not_lt.mp hinside)]
        cases p <;> simp [pins, List.take_replicate]

/-! ### Segments -/

theorem filled_consFilled {b : Bytes} {segments : List Bytes} (h : [] ∉ segments) :
    [] ∉ consFilled b segments := by
  cases b with
  | nil => exact h
  | cons x b => simpa [consFilled] using h

theorem filled_join (pieces : List Piece) : [] ∉ (join pieces).2 := by
  induction pieces with
  | nil => exact List.not_mem_nil
  | cons p rest ih =>
    cases p with
    | copied b => exact ih
    | shared b => exact filled_consFilled (filled_consFilled ih)

/-- No segment of a scatter list that was made of pieces is empty. -/
theorem filled_toScatter (pieces : List Piece) : [] ∉ (toScatter pieces).segments :=
  filled_consFilled (filled_join pieces)

end Piece

end NamedContent
