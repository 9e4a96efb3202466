import Mathlib.Data.List.Forall2
import NamedContent.Name.Basic

/-!
# The order of names

Names are ordered totally, and two names compare as equal exactly when they are equal
(`Name.compare_orders`). Segments are compared by four keys in a row, names by the first segments
that differ, so each level takes its laws from the level below.

* `Segment.compare_eq_eq_iff`: the four keys tell all segments apart.
* `Name.compare_eq_lt_iff`: a name comes before another if it is continued by it, or if the first
  segments that differ say so.
* `Name.startsWith_of_between`: the names that start with a given one are neighbours.
-/

namespace NamedContent

open Std

/-- A comparison by which all there is stands in one row: its outcome is turned round with its
arguments, not to come behind is transitive and holds one way or the other, and nothing but a
thing itself stands at its place. -/
structure OrdersTotally {α : Type} (compare : α → α → Ordering) : Prop where
  self (x : α) : compare x x = .eq
  swap (x y : α) : compare y x = (compare x y).swap
  trans (x y z : α) : (compare x y).isLE → (compare y z).isLE → (compare x z).isLE
  total (x y : α) : (compare x y).isLE ∨ (compare y x).isLE
  eq_iff (x y : α) : compare x y = .eq ↔ x = y

theorem OrdersTotally.of_lawful {α : Type} (compare : α → α → Ordering) [TransCmp compare]
    [LawfulEqCmp compare] : OrdersTotally compare where
  self _ := ReflCmp.compare_self
  swap _ _ := OrientedCmp.eq_swap
  trans _ _ _ := TransCmp.isLE_trans
  total x y := by
    have hswap : compare y x = (compare x y).swap := OrientedCmp.eq_swap
    rw [hswap]
    cases compare x y <;> decide
  eq_iff _ _ := LawfulEqCmp.compare_eq_iff_eq

/-! ## Segments -/

namespace Segment

variable {x y : Segment}

instance : TransCmp Segment.compare :=
  inferInstanceAs (TransCmp (compareLex (compareOn fun x : Segment => x.type.code)
    (compareLex (compareOn fun x : Segment => x.value.length)
      (compareLex (compareOn fun x : Segment => x.value)
        (compareOn fun x : Segment => x.label.parameter)))))

/-- The keys of a segment are all there is to it. -/
theorem eq_of_keys (htype : x.type = y.type) (hparameter : x.label.parameter = y.label.parameter)
    (hvalue : x.value = y.value) : x = y := by
  obtain ⟨⟨type, parameter, happ⟩, value⟩ := x
  obtain ⟨⟨type', parameter', happ'⟩, value'⟩ := y
  obtain rfl : type = type' := htype
  obtain rfl : parameter = parameter' := hparameter
  obtain rfl : value = value' := hvalue
  rfl

theorem compare_eq_eq_iff :
    x.compare y = .eq ↔
      x.type = y.type ∧ x.label.parameter = y.label.parameter ∧ x.value = y.value := by
  have hcode : x.type.code = y.type.code ↔ x.type = y.type :=
    ⟨fun h => by
      cases hx : x.type
      cases hy : y.type
      simpa only [hx, hy, LabelType.mk.injEq] using h, congrArg LabelType.code⟩
  simp only [compare, Ordering.then_eq_eq, LawfulEqOrd.compare_eq_iff_eq, hcode]
  constructor
  · rintro ⟨htype, -, hvalue, hparameter⟩
    exact ⟨htype, hparameter, hvalue⟩
  · rintro ⟨htype, hparameter, hvalue⟩
    exact ⟨htype, congrArg List.length hvalue, hvalue, hparameter⟩

theorem compare_self (x : Segment) : x.compare x = .eq :=
  compare_eq_eq_iff.mpr ⟨rfl, rfl, rfl⟩

instance : LawfulEqCmp Segment.compare where
  compare_self := compare_self _
  eq_of_compare h :=
    let ⟨htype, hparameter, hvalue⟩ := compare_eq_eq_iff.mp h
    eq_of_keys htype hparameter hvalue

instance : TransOrd Segment := inferInstanceAs (TransCmp Segment.compare)

instance : LawfulEqOrd Segment := inferInstanceAs (LawfulEqCmp Segment.compare)

end Segment

/-! ## Names -/

namespace Name

variable {a b c p : Name} {x y : Segment} {s t : List Segment}

theorem eq_of_segments (h : a.segments = b.segments) : a = b := by
  cases a
  cases b
  exact congrArg Name.mk h

instance : TransCmp Name.compare :=
  inferInstanceAs (TransCmp (compareOn Name.segments))

instance : LawfulEqCmp Name.compare where
  compare_self := @ReflCmp.compare_self _ Name.compare _
  eq_of_compare h := eq_of_segments (LawfulEqOrd.eq_of_compare h)

instance : TransOrd Name := inferInstanceAs (TransCmp Name.compare)

instance : LawfulEqOrd Name := inferInstanceAs (LawfulEqCmp Name.compare)

theorem compare_cons : compare ⟨x :: s⟩ ⟨y :: t⟩ = (x.compare y).then (compare ⟨s⟩ ⟨t⟩) :=
  List.compare_cons_cons

/-- Segments in front of both names decide nothing. -/
theorem compare_append_left (s : List Segment) (a b : Name) :
    compare ⟨s ++ a.segments⟩ ⟨s ++ b.segments⟩ = a.compare b := by
  induction s with
  | nil => rfl
  | cons x s ih =>
    rw [List.cons_append, List.cons_append, compare_cons, x.compare_self, Ordering.eq_then, ih]

/-- A name comes before all that continue it, and else the first segments that differ decide. -/
theorem compare_eq_lt_iff :
    a.compare b = .lt ↔
      (∃ y t, b.segments = a.segments ++ y :: t) ∨
        ∃ r x s y t, a.segments = r ++ x :: s ∧ b.segments = r ++ y :: t ∧ x.compare y = .lt := by
  constructor
  · intro h
    obtain ⟨s⟩ := a
    obtain ⟨t⟩ := b
    induction s generalizing t with
    | nil =>
      cases t with
      | nil => cases h
      | cons y t => exact .inl ⟨y, t, rfl⟩
    | cons x s ih =>
      cases t with
      | nil => cases h
      | cons y t =>
        rw [compare_cons, Ordering.then_eq_lt] at h
        rcases h with hlt | ⟨heq, hrest⟩
        · exact .inr ⟨[], x, s, y, t, rfl, rfl, hlt⟩
        · obtain rfl : x = y := LawfulEqCmp.eq_of_compare heq
          rcases ih t hrest with ⟨z, u, rfl⟩ | ⟨r, z, u, w, v, rfl, rfl, hlt⟩
          · exact .inl ⟨z, u, rfl⟩
          · exact .inr ⟨x :: r, z, u, w, v, rfl, rfl, hlt⟩
  · rintro (⟨y, t, hb⟩ | ⟨r, x, s, y, t, ha, hb, hlt⟩)
    · calc a.compare b = compare ⟨a.segments ++ []⟩ ⟨a.segments ++ y :: t⟩ := by
            rw [List.append_nil, ← hb]
        _ = .lt := compare_append_left a.segments ⟨[]⟩ ⟨y :: t⟩
    · calc a.compare b = compare ⟨r ++ x :: s⟩ ⟨r ++ y :: t⟩ := by rw [← ha, ← hb]
        _ = compare ⟨x :: s⟩ ⟨y :: t⟩ := compare_append_left r ⟨x :: s⟩ ⟨y :: t⟩
        _ = .lt := by rw [compare_cons, hlt, Ordering.lt_then]

theorem startsWith_iff : a.startsWith p = true ↔ p.segments <+: a.segments :=
  List.isPrefixOf_iff_prefix

theorem compare_of_startsWith (hstart : b.startsWith a = true) (hne : a ≠ b) :
    a.compare b = .lt := by
  obtain ⟨rest, hrest⟩ := startsWith_iff.mp hstart
  cases rest with
  | nil => exact absurd (eq_of_segments (by rw [← hrest, List.append_nil])) hne
  | cons y t => exact compare_eq_lt_iff.mpr (.inl ⟨y, t, hrest.symm⟩)

/-- What lies between two names that start with a third starts with it too. -/
theorem startsWith_of_between (hab : (a.compare b).isLE) (hbc : (b.compare c).isLE)
    (ha : a.startsWith p = true) (hc : c.startsWith p = true) : b.startsWith p = true := by
  simp only [startsWith_iff] at ha hc ⊢
  obtain ⟨a⟩ := a
  obtain ⟨b⟩ := b
  obtain ⟨c⟩ := c
  obtain ⟨p⟩ := p
  -- Along the third name: each segment between is squeezed between a segment and itself.
  induction p generalizing a b c with
  | nil => exact List.nil_prefix
  | cons z p ih =>
    obtain ⟨a, rfl⟩ := ha
    obtain ⟨c, rfl⟩ := hc
    cases b with
    | nil => cases hab
    | cons y b =>
      rw [List.cons_append, compare_cons, Ordering.isLE_then_iff_and] at hab hbc
      obtain rfl : z = y := LawfulEqCmp.eq_of_compare (OrientedCmp.isLE_antisymm hab.1 hbc.1)
      rw [z.compare_self] at hab hbc
      have hab' := hab.2.resolve_left (by decide)
      have hbc' := hbc.2.resolve_left (by decide)
      have hrest := ih (p ++ a) b hab' (p ++ c) hbc' (List.prefix_append p a)
        (List.prefix_append p c)
      exact List.cons_prefix_cons.mpr ⟨rfl, hrest⟩

/-- Two names are equal when they have as many segments, pairwise of the same type, parameter and
value. -/
theorem eq_iff_forall₂ :
    a = b ↔ List.Forall₂ (fun x y => x.type = y.type ∧ x.label.parameter = y.label.parameter ∧
      x.value = y.value) a.segments b.segments := by
  constructor
  · rintro rfl
    exact List.forall₂_same.mpr fun _ _ => ⟨rfl, rfl, rfl⟩
  · intro h
    have hpairs := h.imp fun _ _ ⟨htype, hparameter, hvalue⟩ =>
      Segment.eq_of_keys htype hparameter hvalue
    exact eq_of_segments (List.forall₂_eq_eq_eq ▸ hpairs)

/-- The order of names is total and agrees with equality, a name comes before all that continue
it, and the names that start with a given one are neighbours. With the absent name in front of all
names the order stays total. -/
theorem compare_orders :
    OrdersTotally Name.compare ∧
    (∀ a b : Name, (a == b) = true ↔ a.compare b = .eq) ∧
    (∀ a b : Name, a.compare b = .eq ↔ List.Forall₂ (fun x y => x.type = y.type ∧
      x.label.parameter = y.label.parameter ∧ x.value = y.value) a.segments b.segments) ∧
    (∀ a b : Name, b.startsWith a = true → a ≠ b → a.compare b = .lt) ∧
    (∀ a b c p : Name, (a.compare b).isLE → (b.compare c).isLE → a.startsWith p = true →
      c.startsWith p = true → b.startsWith p = true) ∧
    OrdersTotally compareOptional ∧ (∀ a, compareOptional none (some a) = .lt) ∧
    ∀ a b, compareOptional (some a) (some b) = a.compare b := by
  have horders : OrdersTotally Name.compare := .of_lawful Name.compare
  exact ⟨horders, fun a b => by rw [beq_iff_eq, horders.eq_iff],
    fun a b => by rw [horders.eq_iff, eq_iff_forall₂], fun _ _ => compare_of_startsWith,
    fun _ _ _ _ => startsWith_of_between,
    .of_lawful (Ord.compare (α := Option Name)), fun _ => rfl, fun _ _ => rfl⟩

namespace Sample

/-- The name `/a`. -/
def site : Name := ⟨[.ofText "a"]⟩

/-- The name `/a/b`. -/
def plain : Name := site.append (.ofText "b")

/-- The name `/a/Name:=b`, which only a parameter tells from `/a/b`. -/
def labelled : Name :=
  site.append { label := { type := .name, parameter := some [], app_parameter := by decide }
                value := [0x62] }

/-- The name `/a/bb`. -/
def longer : Name := site.append (.ofText "bb")

end Sample

theorem compare_orders_sample :
    (Sample.labelled.startsWith Sample.site = true ∧ Sample.site ≠ Sample.labelled ∧
      Sample.site.compare Sample.labelled = .lt) ∧
    (Sample.plain.compare Sample.labelled).isLE ∧ (Sample.labelled.compare Sample.longer).isLE ∧
      (Sample.plain.compare Sample.longer).isLE ∧ Sample.plain.startsWith Sample.site = true ∧
      Sample.longer.startsWith Sample.site = true ∧ Sample.labelled.startsWith Sample.site = true :=
  have ⟨horders, _, _, hstart, hbetween, _⟩ := compare_orders
  have hplain : (Sample.plain.compare Sample.labelled).isLE := by decide
  have hlonger : (Sample.labelled.compare Sample.longer).isLE := by decide
  ⟨⟨by decide, by decide, hstart _ _ (by decide) (by decide)⟩, hplain, hlonger,
    horders.trans _ _ _ hplain hlonger, by decide, by decide,
    hbetween _ _ _ _ hplain hlonger (by decide) (by decide)⟩

end Name

end NamedContent
