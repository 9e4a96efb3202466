import Mathlib.Data.List.Basic
import NamedContent.Proofs.Elements

/-!
# Elements in order

An order of types puts elements in order: those of a listed type stand where the list has it, those
of other types behind them, and elements of one rank as they stood.

* `arrange_of_ordered`, `ordered_arrange`: arranging leaves alone exactly what is in order.
* `arrange_eq`: where no listed type occurs twice, the listed elements are told by their values.
-/

namespace NamedContent.Tlv

/-- Elements stand in an order of types, and those of other types behind them. -/
def Ordered (types : List UInt16) (ts : List Tlv) : Prop :=
  ts.Pairwise fun t u => types.idxOf t.type ≤ types.idxOf u.type

/-- Elements brought into an order of types. -/
def arrange : List UInt16 → List Tlv → List Tlv
  | [], ts => ts
  | type :: types, ts =>
    ts.filter (fun t => t.type == type) ++ arrange types (ts.filter fun t => !(t.type == type))

variable {types : List UInt16} {type : UInt16} {ts us : List Tlv}

theorem arrange_perm (types : List UInt16) (ts : List Tlv) : (arrange types ts).Perm ts := by
  induction types generalizing ts with
  | nil => exact .refl ts
  | cons type types ih =>
    refine .trans (.append_left _ (ih _)) ?_
    exact List.filter_append_perm (fun t => t.type == type) ts

theorem mem_arrange {t : Tlv} : t ∈ arrange types ts ↔ t ∈ ts := (arrange_perm types ts).mem_iff

/-- Whether elements are in order depends on their types only. -/
theorem Ordered.of_types (h : Ordered types ts)
    (hsub : (us.map Tlv.type).Sublist (ts.map Tlv.type)) : Ordered types us := by
  have hts : (ts.map Tlv.type).Pairwise fun a b => types.idxOf a ≤ types.idxOf b :=
    List.pairwise_map.mpr h
  have hus : (us.map Tlv.type).Pairwise fun a b => types.idxOf a ≤ types.idxOf b :=
    hts.sublist hsub
  rwa [List.pairwise_map] at hus

theorem idxOf_cons_of_ne {t : Tlv} (h : t.type ≠ type) :
    (type :: types).idxOf t.type = types.idxOf t.type + 1 := by
  rw [List.idxOf_cons, beq_eq_false_iff_ne.mpr h.symm]
  rfl

/-- Behind the elements of the first type the order of the other types decides. -/
theorem ordered_cons_iff :
    Ordered (type :: types) ts ↔
      ts.Pairwise (fun t u => u.type = type → t.type = type) ∧
        Ordered types (ts.filter fun t => !(t.type == type)) := by
  unfold Ordered
  rw [List.pairwise_filter, ← List.pairwise_and_iff]
  refine List.Pairwise.iff fun {t u} => ?_
  by_cases ht : t.type = type
  · simp [List.idxOf_cons, ht]
  · by_cases hu : u.type = type
    · simp [idxOf_cons_of_ne ht, hu, ht]
    · simp [idxOf_cons_of_ne ht, idxOf_cons_of_ne hu, hu, ht]

theorem filter_append_filter_not {p : Tlv → Bool}
    (h : ts.Pairwise fun t u => p u = true → p t = true) :
    ts.filter p ++ ts.filter (fun t => !p t) = ts := by
  induction ts with
  | nil => rfl
  | cons t ts ih =>
    obtain ⟨ht, hts⟩ := List.pairwise_cons.mp h
    cases hp : p t with
    | true => rw [List.filter_cons_of_pos hp, List.filter_cons_of_neg (by simp [hp]),
        List.cons_append, ih hts]
    | false =>
      -- An element that does not come first has no such element behind it.
      have hnone : ts.filter p = [] := by
        rw [List.filter_eq_nil_iff]
        intro u hu hpu
        rw [ht u hu hpu] at hp
        cases hp
      have hall : ts.filter (fun t => !p t) = ts := by
        rw [List.filter_eq_self]
        intro u hu
        have := List.filter_eq_nil_iff.mp hnone u hu
        simpa using this
      rw [List.filter_cons_of_neg (by simp [hp]), List.filter_cons_of_pos (by simp [hp]), hnone,
        hall, List.nil_append]

/-- What is in order is left alone. -/
theorem arrange_of_ordered (h : Ordered types ts) : arrange types ts = ts := by
  induction types generalizing ts with
  | nil => rfl
  | cons type types ih =>
    obtain ⟨hfront, hrest⟩ := ordered_cons_iff.mp h
    -- The elements of the first type stand in front already, and so on behind them.
    rw [arrange, ih hrest]
    exact filter_append_filter_not (hfront.imp fun hcond hu => by simp_all)

theorem ordered_arrange (types : List UInt16) (ts : List Tlv) :
    Ordered types (arrange types ts) := by
  induction types generalizing ts with
  | nil => exact List.pairwise_of_forall fun _ _ => Nat.le_refl 0
  | cons type types ih =>
    have hfirst : ∀ t ∈ ts.filter (fun t => t.type == type), t.type = type := fun t ht => by
      simpa using (List.mem_filter.mp ht).2
    have hlater : ∀ t ∈ arrange types (ts.filter fun t => !(t.type == type)), t.type ≠ type :=
      fun t ht => by simpa using (List.mem_filter.mp (mem_arrange.mp ht)).2
    have hall : ∀ us : List Tlv, us.Pairwise fun _ _ => True :=
      fun us => List.pairwise_of_forall fun _ _ => trivial
    rw [arrange, ordered_cons_iff, List.pairwise_append]
    refine ⟨⟨?_, ?_, fun t ht _ _ _ => hfirst t ht⟩, ?_⟩
    · exact (hall _).imp_of_mem fun ht _ _ _ => hfirst _ ht
    · exact (hall _).imp_of_mem fun _ hu _ heq => absurd heq (hlater _ hu)
    · have hnone :
          (ts.filter fun t => t.type == type).filter (fun t => !(t.type == type)) = [] := by
        rw [List.filter_eq_nil_iff]
        intro t ht
        simp [hfirst t ht]
      have hkeep : (arrange types (ts.filter fun t => !(t.type == type))).filter
          (fun t => !(t.type == type)) = arrange types (ts.filter fun t => !(t.type == type)) := by
        rw [List.filter_eq_self]
        intro t ht
        simpa using hlater t ht
      rw [List.filter_append, hnone, hkeep, List.nil_append]
      exact ih _

theorem valueOf?_filter_ne {type' : UInt16} (h : type' ≠ type) :
    valueOf? (ts.filter fun t => !(t.type == type)) type' = valueOf? ts type' := by
  unfold valueOf?
  rw [List.find?_filter]
  congr 2
  funext t
  by_cases ht : t.type = type'
  · simp [ht, h]
  · simp [ht]

/-- Where no listed type occurs twice, the elements of these types are told by their values. -/
theorem arrange_eq (hnodup : types.Nodup) (honce : Once types ts) :
    arrange types ts = types.flatMap (fun type => ((valueOf? ts type).map (Tlv.mk type)).toList) ++
      ts.filter (fun t => !types.contains t.type) := by
  induction types generalizing ts with
  | nil => exact (List.filter_eq_self.mpr fun _ _ => rfl).symm
  | cons type types ih =>
    obtain ⟨hnot, hnodup⟩ := List.nodup_cons.mp hnodup
    have hrest : Once types (ts.filter fun t => !(t.type == type)) := fun type' htype' =>
      Nat.le_trans (List.filter_sublist.countP_le) (honce type' (List.mem_cons_of_mem _ htype'))
    have hvalues : types.flatMap (fun type' =>
        ((valueOf? (ts.filter fun t => !(t.type == type)) type').map (Tlv.mk type')).toList) =
          types.flatMap fun type' => ((valueOf? ts type').map (Tlv.mk type')).toList := by
      refine List.flatMap_congr fun type' htype' => ?_
      have hne : type' ≠ type := fun h => hnot (by rwa [← h])
      rw [valueOf?_filter_ne hne]
    have hothers : (ts.filter fun t => !(t.type == type)).filter (fun t => !types.contains t.type) =
        ts.filter fun t => !(type :: types).contains t.type := by
      rw [List.filter_filter]
      refine List.filter_congr fun t _ => ?_
      by_cases ht : t.type = type <;> simp [ht]
    rw [arrange, filter_type_eq (honce type List.mem_cons_self), ih hnodup hrest, hvalues, hothers,
      List.flatMap_cons, List.append_assoc]

end NamedContent.Tlv
