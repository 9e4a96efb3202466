import NamedContent.Bytes

/-!
# Scatter lists

A byte string in segments, which may be empty. Two lists are the same when their contents are.
Writing offers the segments to a sink, which takes some of the leading bytes each time. One byte
string is written in the same manner, by a loop of its own.
-/

namespace NamedContent

/-- A byte string in segments. -/
structure Scatter where
  segments : List Bytes := []
deriving Repr

namespace Scatter

/-- The content. -/
def toBytes (s : Scatter) : Bytes := s.segments.flatten

/-- The number of bytes. -/
def length (s : Scatter) : Nat := s.toBytes.length

/-- The list of one segment, or of none when it would be empty. -/
def ofBytes (b : Bytes) : Scatter := ⟨if b.isEmpty then [] else [b]⟩

/-- One more segment; an empty one is left out. -/
def push (s : Scatter) (segment : Bytes) : Scatter :=
  if segment.isEmpty then s else ⟨s.segments ++ [segment]⟩

instance : BEq Scatter := ⟨fun a b => a.toBytes == b.toBytes⟩

/-! ## Parts -/

/-- The parts of segments that lie in `[start, stop)`, where the first segment is at `offset`. -/
def slicesFrom (start stop offset : Nat) : List Bytes → List Bytes
  | [] => []
  | b :: rest =>
    if stop ≤ offset then []
    else if offset + b.length ≤ start then slicesFrom start stop (offset + b.length) rest
    else Bytes.slice (start - offset) (stop - offset) b ::
      slicesFrom start stop (offset + b.length) rest

/-- The parts of the segments that make up the bytes `[start, stop)`, when there are these bytes. -/
def slices? (s : Scatter) (start stop : Nat) : Option (List Bytes) :=
  if stop < start ∨ s.length < stop then none
  else if start = stop then some []
  else some (slicesFrom start stop 0 s.segments)

/-! ## Writing -/

/-- Why writing ended early: the sink took nothing, or failed. -/
inductive WriteError (ε : Type)
  | writeZero
  | sink (error : ε)
deriving DecidableEq, Repr

/-- What takes bytes: of the segments it is offered it takes some of the leading bytes, or it
fails. -/
structure Sink (ε σ : Type) where
  offer : σ → (segments : List Bytes) →
    Except ε { n : Nat // n ≤ segments.flatten.length } × σ

/-- What is left of segments when their first `n` bytes are taken; empty segments in front go
with them. -/
def dropTaken (n : Nat) : List Bytes → List Bytes
  | [] => []
  | b :: rest => if b.length ≤ n then dropTaken (n - b.length) rest else b.drop n :: rest

theorem flatten_dropTaken (n : Nat) (segments : List Bytes) :
    (dropTaken n segments).flatten = segments.flatten.drop n := by
  induction segments generalizing n with
  | nil => simp [dropTaken]
  | cons b rest ih =>
    unfold dropTaken
    split
    · next h =>
      rw [ih, List.flatten_cons, List.drop_append, List.drop_of_length_le h, List.nil_append]
    · next h =>
      rw [List.flatten_cons, List.flatten_cons, List.drop_append_of_le_length (by omega)]

/-- Offers segments until all are taken. -/
def writeSegments {ε σ : Type} (sink : Sink ε σ) (state : σ) (segments : List Bytes) :
    Except (WriteError ε) Unit × σ :=
  if segments.isEmpty then (.ok (), state)
  else match sink.offer state segments with
    | (.error e, state) => (.error (.sink e), state)
    | (.ok taken, state) =>
      if _h : taken.val = 0 then (.error .writeZero, state)
      else writeSegments sink state (dropTaken taken.val segments)
termination_by segments.flatten.length
decreasing_by
  rw [flatten_dropTaken, List.length_drop]
  have := taken.property
  omega

/-- Writes all bytes and tells how many there are. -/
def writeTo {ε σ : Type} (s : Scatter) (sink : Sink ε σ) (state : σ) :
    Except (WriteError ε) Nat × σ :=
  match writeSegments sink state s.segments with
  | (.ok (), state) => (.ok s.length, state)
  | (.error e, state) => (.error e, state)

/-- Offers what is left of one byte string until all of it is taken. -/
def writeAll {ε σ : Type} (sink : Sink ε σ) (state : σ) (b : Bytes) :
    Except (WriteError ε) Unit × σ :=
  if b.isEmpty then (.ok (), state)
  else match sink.offer state [b] with
    | (.error e, state) => (.error (.sink e), state)
    | (.ok taken, state) =>
      if _h : taken.val = 0 then (.error .writeZero, state)
      else writeAll sink state (b.drop taken.val)
termination_by b.length
decreasing_by
  rw [List.length_drop]
  have := taken.property
  simp only [List.flatten_cons, List.flatten_nil, List.append_nil] at this
  omega

namespace Sink

/-- The sink that takes all it is offered and keeps it. -/
def memory : Sink Empty Bytes where
  offer kept segments := (.ok ⟨segments.flatten.length, Nat.le_refl _⟩, kept ++ segments.flatten)

/-- The first segment that is not empty. -/
def firstFilled (segments : List Bytes) : Bytes := (segments.find? fun b => !b.isEmpty).getD []

theorem length_firstFilled_le (segments : List Bytes) :
    (firstFilled segments).length ≤ segments.flatten.length := by
  induction segments with
  | nil => simp [firstFilled]
  | cons b rest ih =>
    unfold firstFilled at ih ⊢
    rw [List.find?_cons, List.flatten_cons, List.length_append]
    split
    · simp
    · omega

/-- The sink that keeps at most `limit` bytes at a time, and of one segment only. -/
def limited (limit : Nat) : Sink Empty Bytes where
  offer kept segments :=
    (.ok ⟨min limit (firstFilled segments).length,
      Nat.le_trans (Nat.min_le_right _ _) (length_firstFilled_le segments)⟩,
      kept ++ (firstFilled segments).take limit)

end Sink

end Scatter

end NamedContent
