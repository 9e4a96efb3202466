/-!
# Cutting texts at a character

* `split_join`: cutting a joined list of pieces gives the pieces back, when none holds the mark.
-/

namespace NamedContent.Text

/-- The pieces of a text between the marks; there is always at least one. -/
def split (mark : Char) : List Char → List (List Char)
  | [] => [[]]
  | c :: rest =>
    if c = mark then [] :: split mark rest
    else match split mark rest with
      | [] => [[c]]
      | piece :: pieces => (c :: piece) :: pieces

/-- The text before the first mark and the text behind it, when there is a mark. -/
def cut? (mark : Char) : List Char → Option (List Char × List Char)
  | [] => none
  | c :: rest =>
    if c = mark then some ([], rest)
    else (cut? mark rest).map fun (before, behind) => (c :: before, behind)

/-- A piece without the mark, then a mark, then anything. -/
theorem split_append_cons {mark : Char} {piece : List Char} (h : mark ∉ piece) (rest : List Char) :
    split mark (piece ++ mark :: rest) = piece :: split mark rest := by
  induction piece with
  | nil => simp [split]
  | cons c piece ih =>
    simp only [List.mem_cons, not_or] at h
    rw [List.cons_append, split, if_neg (fun e => h.1 e.symm), ih h.2]

theorem split_of_not_mem {mark : Char} {text : List Char} (h : mark ∉ text) :
    split mark text = [text] := by
  induction text with
  | nil => rfl
  | cons c text ih =>
    simp only [List.mem_cons, not_or] at h
    rw [split, if_neg (fun e => h.1 e.symm), ih h.2]

/-- Cutting undoes joining with marks in between. -/
theorem split_join {mark : Char} {piece : List Char} {pieces : List (List Char)}
    (h : ∀ p ∈ piece :: pieces, mark ∉ p) :
    split mark (piece ++ pieces.flatMap (mark :: ·)) = piece :: pieces := by
  induction pieces generalizing piece with
  | nil => simpa using split_of_not_mem (h piece (by simp))
  | cons next pieces ih =>
    rw [List.flatMap_cons, List.cons_append, split_append_cons (h piece (by simp)),
      ih (fun p hp => h p (List.mem_cons_of_mem _ hp))]

end NamedContent.Text
