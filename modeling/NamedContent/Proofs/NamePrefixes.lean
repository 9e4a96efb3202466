import NamedContent.Proofs.NameOrder

/-!
# Prefixes of names

The operations by which a table finds the entry of a name: testing for a prefix, taking the first
segments, trimming the last ones, and the hash codes of beginnings. They are computed separately
and agree for all names and all counts, past the end of the name too (`Name.prefixes_agree`).

* `Name.startsWith_iff_take`, `Name.startsWith_iff_trim`: the prefixes of a name are what taking
  and trimming leave of it.
* `Name.foldl_trim`, `Name.trim_foldl_append`: trimming in several steps, and what was appended.
* `Name.leftHash_of_startsWith`: a prefix has the hash codes of the name that it begins.
* `Name.hashCode_congr`: the parameters of labels do not enter the hash code.
-/

namespace NamedContent

open Std

namespace Name

variable {a b p q : Name} {n m : Nat} {x y : Segment} {s t : List Segment}

/-! ## The first and the last segments -/

theorem length_take (a : Name) (n : Nat) : (a.take n).length = min n a.length :=
  List.length_take

theorem length_trim (a : Name) (n : Nat) : (a.trim n).length = a.length - n := by
  rw [trim, length_take]
  exact Nat.min_eq_left (Nat.sub_le _ _)

theorem take_take (a : Name) (n m : Nat) : (a.take n).take m = a.take (min m n) :=
  eq_of_segments List.take_take

theorem take_of_length_le (h : a.length ≤ n) : a.take n = a :=
  eq_of_segments (List.take_of_length_le h)

theorem trim_of_length_le (h : a.length ≤ n) : a.trim n = empty := by
  have hnone : a.segments.length - n = 0 := Nat.sub_eq_zero_of_le h
  rw [trim, hnone]
  rfl

theorem trim_trim (a : Name) (n m : Nat) : (a.trim n).trim m = a.trim (n + m) := by
  have hlength : (a.trim n).segments.length = a.segments.length - n := a.length_trim n
  calc (a.trim n).trim m = (a.take (a.segments.length - n)).take (a.segments.length - n - m) := by
        rw [trim, hlength, trim]
    _ = a.take (a.segments.length - (n + m)) := by
        rw [take_take, Nat.min_eq_left (Nat.sub_le _ _), Nat.sub_sub]

/-- Trimming in several steps trims the sum of the counts. -/
theorem foldl_trim (counts : List Nat) (a : Name) :
    counts.foldl trim a = a.trim (counts.foldr (· + ·) 0) := by
  induction counts generalizing a with
  | nil => exact (take_of_length_le (Nat.le_refl _)).symm
  | cons n counts ih => rw [List.foldl_cons, ih, trim_trim, List.foldr_cons]

theorem foldl_append (s : List Segment) (a : Name) :
    s.foldl append a = ⟨a.segments ++ s⟩ := by
  induction s generalizing a with
  | nil => exact eq_of_segments (List.append_nil _).symm
  | cons x s ih =>
    rw [List.foldl_cons, ih]
    exact eq_of_segments (List.append_assoc a.segments [x] s)

/-- Trimming as many segments as were appended gives the name back. -/
theorem trim_foldl_append (s : List Segment) (a : Name) :
    (s.foldl append a).trim s.length = a := by
  rw [foldl_append]
  refine eq_of_segments ?_
  show (a.segments ++ s).take ((a.segments ++ s).length - s.length) = a.segments
  rw [List.length_append, Nat.add_sub_cancel, List.take_left]

/-! ## Prefixes -/

theorem startsWith_take (a : Name) (n : Nat) : a.startsWith (a.take n) = true :=
  startsWith_iff.mpr (List.take_prefix n a.segments)

theorem startsWith_self (a : Name) : a.startsWith a = true :=
  startsWith_iff.mpr List.prefix_rfl

theorem startsWith_trans (hp : a.startsWith p = true) (hq : p.startsWith q = true) :
    a.startsWith q = true :=
  startsWith_iff.mpr ((startsWith_iff.mp hq).trans (startsWith_iff.mp hp))

theorem length_le_of_startsWith (h : a.startsWith p = true) : p.length ≤ a.length :=
  (startsWith_iff.mp h).length_le

theorem startsWith_iff_take : a.startsWith p = true ↔ a.take p.length = p := by
  constructor
  · intro h
    exact eq_of_segments (List.prefix_iff_eq_take.mp (startsWith_iff.mp h)).symm
  · intro h
    rw [← h]
    exact startsWith_take a _

theorem startsWith_iff_trim : a.startsWith p = true ↔ ∃ n, a.trim n = p := by
  constructor
  · intro h
    have hlength : a.segments.length - (a.length - p.length) = p.length :=
      Nat.sub_sub_self (length_le_of_startsWith h)
    refine ⟨a.length - p.length, ?_⟩
    rw [trim, hlength]
    exact startsWith_iff_take.mp h
  · rintro ⟨n, rfl⟩
    exact startsWith_take a _

theorem startsWith_antisymm (hp : a.startsWith p = true) (ha : p.startsWith a = true) :
    a = p := by
  have hlength : a.length = p.length :=
    Nat.le_antisymm (length_le_of_startsWith ha) (length_le_of_startsWith hp)
  calc a = a.take a.length := (take_of_length_le (Nat.le_refl _)).symm
    _ = a.take p.length := by rw [hlength]
    _ = p := startsWith_iff_take.mp hp

theorem compare_isLE_of_startsWith (h : a.startsWith p = true) : (p.compare a).isLE := by
  by_cases heq : p = a
  · have hself : p.compare a = .eq := LawfulEqCmp.compare_eq_iff_eq.mpr heq
    rw [hself]
    rfl
  · rw [compare_of_startsWith h heq]
    rfl

/-! ## Hash codes -/

theorem hashCode_take (a : Name) (n : Nat) : (a.take n).hashCode = a.leftHash n := by
  have hall : (a.take n).segments.take (a.take n).length = a.segments.take n :=
    List.take_of_length_le (Nat.le_refl _)
  rw [hashCode, leftHash, hall]
  rfl

/-- The hash codes of a prefix are those of every name that it begins. -/
theorem leftHash_of_startsWith (h : a.startsWith p = true) (hn : n ≤ p.length) :
    a.leftHash n = p.leftHash n := by
  have hp := startsWith_iff_take.mp h
  calc a.leftHash n = ((a.take p.length).take n).hashCode := by
        rw [take_take, Nat.min_eq_left hn, hashCode_take]
    _ = p.leftHash n := by rw [hp, hashCode_take]

/-- Segments of the same types and values continue a hash code alike. -/
theorem foldl_mix_congr (h : List.Forall₂ (fun x y => x.type = y.type ∧ x.value = y.value) s t)
    (code : UInt32) :
    s.foldl (fun code x => Fnv.mix code x.hashCode) code =
      t.foldl (fun code x => Fnv.mix code x.hashCode) code := by
  induction h generalizing code with
  | nil => rfl
  | @cons x y s t hxy _ ih =>
    obtain ⟨htype, hvalue⟩ := hxy
    have hcode : x.hashCode = y.hashCode := by
      rw [Segment.hashCode, Segment.hashCode, htype, hvalue]
    rw [List.foldl_cons, List.foldl_cons, hcode, ih]

/-- Only the types and the values of the segments enter the hash code of a name. -/
theorem hashCode_congr
    (h : List.Forall₂ (fun x y => x.type = y.type ∧ x.value = y.value) a.segments b.segments) :
    a.hashCode = b.hashCode := by
  have hlength : a.length = b.length := h.length_eq
  rw [hashCode, hashCode, hlength]
  exact foldl_mix_congr (List.forall₂_take b.length h) 0

/-! ## All of them together -/

/-- The prefix test, taking, trimming, hash codes and the order of names agree, where names that
compare as equal are equal. A name starts with another when its first segments are the other, or
when trimming leaves the other; it then does not come before it and has its hash code there. Counts
past the end take all and trim all. The hash codes of names do not see the parameters by which
names may differ. To start with is a partial order. -/
theorem prefixes_agree (a p : Name) :
    (a.startsWith p = true ↔ (a.take p.length).compare p = .eq) ∧
    (a.startsWith p = true ↔ ∃ n, (a.trim n).compare p = .eq) ∧
    (a.startsWith p = true → (p.compare a).isLE ∧ a.leftHash p.length = p.hashCode ∧
      ∀ n ≤ p.length, a.leftHash n = p.leftHash n) ∧
    (∀ n, (a.take n).hashCode = a.leftHash n) ∧
    (∀ n, a.trim n = a.take (a.length - n) ∧ (a.trim n).length = a.length - n ∧
      (a.length ≤ n → a.trim n = empty)) ∧
    (∀ n m, (a.trim n).trim m = a.trim (n + m)) ∧
    (∀ counts : List Nat, counts.foldl trim a = a.trim (counts.foldr (· + ·) 0)) ∧
    (∀ x, (a.append x).trim 1 = a) ∧
    (∀ s : List Segment, (s.foldl append a).trim s.length = a) ∧
    (a.compare p = .eq → a.hashCode = p.hashCode) ∧
    (List.Forall₂ (fun x y => x.type = y.type ∧ x.value = y.value) a.segments p.segments →
      a.hashCode = p.hashCode) ∧
    a.startsWith a = true ∧
    (∀ q, a.startsWith p = true → p.startsWith q = true → a.startsWith q = true) ∧
    (a.startsWith p = true → p.startsWith a = true → a.compare p = .eq) := by
  have heq {b c : Name} : b.compare c = .eq ↔ b = c := LawfulEqCmp.compare_eq_iff_eq
  simp only [heq]
  refine ⟨startsWith_iff_take, startsWith_iff_trim, fun h => ⟨compare_isLE_of_startsWith h, ?_, ?_⟩,
    a.hashCode_take, fun n => ⟨rfl, a.length_trim n, trim_of_length_le⟩, a.trim_trim,
    fun counts => foldl_trim counts a, fun x => trim_foldl_append [x] a,
    fun s => trim_foldl_append s a, fun h => by rw [h], hashCode_congr, a.startsWith_self,
    fun _ => startsWith_trans, startsWith_antisymm⟩
  · exact leftHash_of_startsWith h (Nat.le_refl _)
  · intro n hn
    exact leftHash_of_startsWith h hn

/-- The name `/a/b` and its prefixes; a name that differs from it in a parameter has its code. -/
theorem prefixes_agree_sample :
    (Sample.plain.startsWith Sample.site = true ∧ Sample.site.startsWith empty = true ∧
      Sample.plain.startsWith empty = true) ∧
    ((Sample.site.compare Sample.plain).isLE ∧
      Sample.plain.leftHash 1 = Sample.site.hashCode) ∧
    (Sample.plain.length ≤ 7 ∧ Sample.plain.trim 7 = empty) ∧
    (Sample.plain.compare Sample.plain = .eq ∧ Sample.plain.startsWith Sample.plain = true) ∧
    Sample.plain ≠ Sample.labelled ∧ Sample.plain.hashCode = Sample.labelled.hashCode := by
  have hsite : Sample.plain.startsWith Sample.site = true := by decide
  have hempty : Sample.site.startsWith empty = true := by decide
  have hlength : Sample.plain.length ≤ 7 := by decide
  obtain ⟨-, -, hstart, -, htrim, -, -, -, -, -, -, -, htrans, -⟩ :=
    prefixes_agree Sample.plain Sample.site
  obtain ⟨-, -, -, -, -, -, -, -, -, -, -, hself, -, hantisymm⟩ :=
    prefixes_agree Sample.plain Sample.plain
  obtain ⟨-, -, -, -, -, -, -, -, -, -, hcongr, -⟩ := prefixes_agree Sample.plain Sample.labelled
  obtain ⟨hle, hcode, -⟩ := hstart hsite
  refine ⟨⟨hsite, hempty, htrans empty hsite hempty⟩, ⟨hle, hcode⟩,
    ⟨hlength, (htrim 7).2.2 hlength⟩, ⟨hantisymm hself hself, hself⟩, by decide, hcongr ?_⟩
  exact .cons ⟨rfl, rfl⟩ (.cons ⟨rfl, rfl⟩ .nil)

end Name

end NamedContent
