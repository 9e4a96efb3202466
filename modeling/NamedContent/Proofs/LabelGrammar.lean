import Mathlib.Data.List.Induction
import NamedContent.Proofs.NameText

/-!
# The grammar of labels

A raw segment without `=` is all value. Otherwise what stands in front of the first `=` is cut at
its first `:` into a type and an optional parameter. Which types there are, which of them take a
parameter, and which code and parameter the label then has is `Label.Reads`: a grammar over texts,
with number literals in decimal or hexadecimal that carry no sign. The reader hands its numbers to a
parser of integers that takes a plus sign as well; the labels it reads beyond the grammar are
`Label.ReadsSigned`.

* `Numeral.uint16?_eq_some_iff`: the numbers that are read, as literals with or without a sign.
* `Label.ofParts_eq_ok_iff`: the labels that are read from a type and a parameter.
* `Label.parseCounted_grammar`: which texts have a label, which label, and how much of the text it
  takes.
-/

namespace NamedContent

/-! ## Number literals -/

namespace Numeral

/-- The character `c` is written for the digit `d` of a base up to 16, in either case. -/
def IsDigit (base : Nat) (c : Char) (d : Nat) : Prop :=
  d < base ∧ (c = Nat.digitChar d ∨ c = (Nat.digitChar d).toUpper)

instance (base : Nat) (c : Char) (d : Nat) : Decidable (IsDigit base c d) :=
  inferInstanceAs (Decidable (_ ∧ _))

/-- What one or more digits denote. A digit behind others adds its value to `base` times theirs. -/
inductive Denotes (base : Nat) : List Char → Nat → Prop
  | digit {c : Char} {d : Nat} (h : IsDigit base c d) : Denotes base [c] d
  | snoc {text : List Char} {n : Nat} {c : Char} {d : Nat} (front : Denotes base text n)
      (last : IsDigit base c d) : Denotes base (text ++ [c]) (n * base + d)

/-- A number as it is written with a given sign in front of its digits: in decimal, or in
hexadecimal behind `0x` or `0X`. -/
inductive Literal (sign : List Char) : List Char → Nat → Prop
  | decimal {digits : List Char} {n : Nat} (h : Denotes 10 digits n) :
      Literal sign (sign ++ digits) n
  | hex {x : Char} {digits : List Char} {n : Nat} (hx : x = 'x' ∨ x = 'X')
      (h : Denotes 16 digits n) : Literal sign ('0' :: x :: (sign ++ digits)) n

/-! ### Digits -/

/-- What holds of both spellings of each digit holds of every character that is written for it. -/
theorem IsDigit.of_digitChar {base d : Nat} {c : Char} {P : Char → Nat → Prop}
    (table : ∀ d < base, P (Nat.digitChar d) d ∧ P (Nat.digitChar d).toUpper d)
    (h : IsDigit base c d) : P c d := by
  obtain ⟨hd, rfl | rfl⟩ := h
  · exact (table d hd).1
  · exact (table d hd).2

theorem digit?_eq_some_iff {c : Char} {d : Nat} : digit? c = some d ↔ IsDigit 10 c d := by
  constructor
  · intro h
    have digits : ∀ n < 58, 48 ≤ n → IsDigit 10 (Char.ofNat n) (n - 48) := by decide
    unfold digit? at h
    rw [← Char.ofNat_toNat c]
    split at h
    · next hrange =>
      obtain rfl := Option.some.inj h
      exact digits _ (Nat.lt_succ_of_le hrange.2) hrange.1
    · cases h
  · intro h
    exact h.of_digitChar (P := fun c d => digit? c = some d) (by decide)

theorem hexDigit?_eq_some_iff {c : Char} {d : Nat} :
    Hex.digit? c = some d ↔ IsDigit 16 c d := by
  constructor
  · intro h
    -- One table for each of the three ranges of characters.
    have digits : ∀ n < 58, 48 ≤ n → IsDigit 16 (Char.ofNat n) (n - 48) := by decide
    have lower : ∀ n < 103, 97 ≤ n → IsDigit 16 (Char.ofNat n) (n - 87) := by decide
    have upper : ∀ n < 71, 65 ≤ n → IsDigit 16 (Char.ofNat n) (n - 55) := by decide
    unfold Hex.digit? at h
    rw [← Char.ofNat_toNat c]
    split at h
    · next hrange =>
      obtain rfl := Option.some.inj h
      exact digits _ (Nat.lt_succ_of_le hrange.2) hrange.1
    · split at h
      · next hrange =>
        obtain rfl := Option.some.inj h
        exact lower _ (Nat.lt_succ_of_le hrange.2) hrange.1
      · split at h
        · next hrange =>
          obtain rfl := Option.some.inj h
          exact upper _ (Nat.lt_succ_of_le hrange.2) hrange.1
        · cases h
  · intro h
    exact h.of_digitChar (P := fun c d => Hex.digit? c = some d) (by decide)

theorem not_isDigit_plus {d : Nat} : ¬ IsDigit 16 '+' d := by
  intro h
  exact h.of_digitChar (P := fun c _ => c ≠ '+') (by decide) rfl

theorem IsDigit.isDigit {c : Char} {d : Nat} (h : IsDigit 10 c d) : c.isDigit = true :=
  h.of_digitChar (P := fun c _ => c.isDigit = true) (by decide)

theorem IsDigit.mono {base base' d : Nat} {c : Char} (hle : base ≤ base')
    (h : IsDigit base c d) : IsDigit base' c d :=
  ⟨Nat.lt_of_lt_of_le h.1 hle, h.2⟩

/-! ### What digits denote -/

section

variable {base bound : Nat} {value? : Char → Option Nat} {text : List Char} {n : Nat}

theorem Denotes.exists_isDigit (h : Denotes base text n) : ∀ c ∈ text, ∃ d, IsDigit base c d := by
  induction h with
  | digit h =>
    intro c hc
    rw [List.mem_singleton.mp hc]
    exact ⟨_, h⟩
  | snoc front last ih =>
    intro c hc
    rcases List.mem_append.mp hc with hc | hc
    · exact ih c hc
    · rw [List.mem_singleton.mp hc]
      exact ⟨_, last⟩

theorem Denotes.ne_nil (h : Denotes base text n) : text ≠ [] := by
  cases h <;> simp

theorem Denotes.not_mem_plus (hbase : base ≤ 16) (h : Denotes base text n) : '+' ∉ text := by
  intro hmem
  obtain ⟨d, hd⟩ := h.exists_isDigit _ hmem
  exact not_isDigit_plus (hd.mono hbase)

/-- The value is that of folding over the digits from the left. -/
theorem denotes_iff (hvalue : ∀ c d, value? c = some d ↔ IsDigit base c d) :
    Denotes base text n ↔ text ≠ [] ∧
      ∃ digits, text.mapM value? = some digits ∧ digits.foldl (fun n d => n * base + d) 0 = n := by
  constructor
  · intro h
    refine ⟨h.ne_nil, ?_⟩
    induction h with
    | @digit c d h =>
      have hd := (hvalue c d).mpr h
      exact ⟨[d], by simp [hd], by simp⟩
    | @snoc text n c d front last ih =>
      obtain ⟨digits, hmap, hfold⟩ := ih
      have hd := (hvalue c d).mpr last
      refine ⟨digits ++ [d], ?_, ?_⟩
      · simp [List.mapM_append, hmap, hd]
      · simp [List.foldl_append, hfold]
  · rintro ⟨hne, digits, hmap, rfl⟩
    -- Along the text from its end: folding takes in the last digit last.
    induction text using List.reverseRecOn generalizing digits with
    | nil => exact absurd rfl hne
    | append_singleton text c ih =>
      simp only [List.mapM_append, List.mapM_cons, List.mapM_nil, Option.bind_eq_bind,
        Option.pure_def, Option.bind_eq_some_iff, Option.some.injEq] at hmap
      obtain ⟨front, hfront, _, ⟨d, hd, _, rfl, rfl⟩, rfl⟩ := hmap
      have hlast := (hvalue c d).mp hd
      rw [List.foldl_append]
      cases text with
      | nil =>
        obtain rfl : front = [] := by simpa using hfront.symm
        simpa using Denotes.digit hlast
      | cons e text => exact (ih (by simp) _ hfront).snoc hlast

theorem ofDigits?_eq_some_iff (hvalue : ∀ c d, value? c = some d ↔ IsDigit base c d)
    (hne : text ≠ []) :
    ofDigits? base bound value? text = some n ↔ n < bound ∧ Denotes base text n := by
  rw [denotes_iff hvalue]
  unfold ofDigits?
  constructor
  · intro h
    obtain ⟨digits, hmap, hfold⟩ := Option.bind_eq_some_iff.mp h
    obtain ⟨hlt, hn⟩ := Option.ite_none_right_eq_some.mp hfold
    obtain rfl := Option.some.inj hn
    exact ⟨hlt, hne, digits, hmap, rfl⟩
  · rintro ⟨hlt, -, digits, hmap, rfl⟩
    simp [hmap, hlt]

/-- A number is read with a plus sign in front of it as without one. -/
theorem signed?_eq_some_iff (hvalue : ∀ c d, value? c = some d ↔ IsDigit base c d)
    (hbase : base ≤ 16) :
    signed? base bound value? text = some n ↔ n < bound ∧
      ∃ sign digits, (sign = [] ∨ sign = ['+']) ∧ text = sign ++ digits ∧
        Denotes base digits n := by
  have hbare : ∀ digits : List Char,
      (if digits.isEmpty then none else ofDigits? base bound value? digits) = some n ↔
        n < bound ∧ Denotes base digits n := by
    intro digits
    cases digits with
    | nil => simpa using fun _ h => Denotes.ne_nil h rfl
    | cons c digits => exact ofDigits?_eq_some_iff hvalue (by simp)
  unfold signed?
  rw [hbare]
  refine and_congr_right fun _ => ?_
  -- No digit is a plus, so a text is read in one of the two ways only.
  split
  · next rest =>
    constructor
    · intro h
      exact ⟨['+'], rest, .inr rfl, rfl, h⟩
    · rintro ⟨_, digits, rfl | rfl, htext, h⟩
      · obtain rfl : '+' :: rest = digits := htext
        exact absurd List.mem_cons_self (h.not_mem_plus hbase)
      · obtain rfl : rest = digits := by simpa using htext
        exact h
  · next hplus =>
    constructor
    · intro h
      exact ⟨[], text, .inl rfl, rfl, h⟩
    · rintro ⟨_, digits, rfl | rfl, htext, h⟩
      · exact htext ▸ h
      · exact absurd htext (hplus digits)

end

/-! ### Literals -/

section

variable {text : List Char} {n : Nat}

/-- A decimal numeral is no hexadecimal one. -/
theorem Denotes.not_mem_x (h : Denotes 10 text n) : 'x' ∉ text ∧ 'X' ∉ text := by
  refine ⟨fun hmem => ?_, fun hmem => ?_⟩
  all_goals
    obtain ⟨d, hd⟩ := h.exists_isDigit _ hmem
    exact absurd hd.isDigit (by decide)

/-- The numbers that are read are the literals of 16 bits, without a sign or with a plus. -/
theorem uint16?_eq_some_iff {v : UInt16} :
    uint16? text = some v ↔
      ∃ sign, (sign = [] ∨ sign = ['+']) ∧ Literal sign text v.toNat := by
  have hdecimal {text : List Char} {n : Nat} : signed? 10 65536 digit? text = some n ↔ _ :=
    signed?_eq_some_iff (fun _ _ => digit?_eq_some_iff) (by omega)
  have hhex {text : List Char} {n : Nat} : signed? 16 65536 Hex.digit? text = some n ↔ _ :=
    signed?_eq_some_iff (fun _ _ => hexDigit?_eq_some_iff) (by omega)
  constructor
  · intro h
    obtain ⟨n, hn, rfl⟩ := Option.map_eq_some_iff.mp h
    split at hn
    · obtain ⟨hlt, sign, digits, hsign, rfl, hdigits⟩ := hhex.mp hn
      rw [UInt16.toNat_ofNat_of_lt' hlt]
      exact ⟨sign, hsign, .hex (.inl rfl) hdigits⟩
    · obtain ⟨hlt, sign, digits, hsign, rfl, hdigits⟩ := hhex.mp hn
      rw [UInt16.toNat_ofNat_of_lt' hlt]
      exact ⟨sign, hsign, .hex (.inr rfl) hdigits⟩
    · obtain ⟨hlt, sign, digits, hsign, rfl, hdigits⟩ := hdecimal.mp hn
      rw [UInt16.toNat_ofNat_of_lt' hlt]
      exact ⟨sign, hsign, .decimal hdigits⟩
  · rintro ⟨sign, hsign, h⟩
    generalize hn : v.toNat = n at h
    have hlt : n < 65536 := hn ▸ v.toNat_lt
    have hread : UInt16.ofNat n = v := by rw [← hn, UInt16.ofNat_toNat]
    rw [← hread]
    cases h with
    | @decimal digits _ h =>
      have hvalue := hdecimal.mpr ⟨hlt, sign, digits, hsign, rfl, h⟩
      have hx : 'x' ∉ sign ++ digits ∧ 'X' ∉ sign ++ digits := by
        obtain ⟨hlower, hupper⟩ := h.not_mem_x
        rcases hsign with rfl | rfl
        · exact ⟨hlower, hupper⟩
        · simp [hlower, hupper]
      unfold uint16?
      split
      · next heq =>
        rw [heq] at hx
        exact absurd (by simp) hx.1
      · next heq =>
        rw [heq] at hx
        exact absurd (by simp) hx.2
      · rw [hvalue, Option.map_some]
    | @hex x digits _ hx h =>
      have hvalue := hhex.mpr ⟨hlt, sign, digits, hsign, rfl, h⟩
      rcases hx with rfl | rfl
      all_goals rw [uint16?, hvalue, Option.map_some]

/-- No text is a literal both with and without a sign. -/
theorem Literal.not_unsigned {m : Nat} (hsigned : Literal ['+'] text m) :
    ¬ Literal [] text n := by
  intro hplain
  have hplus : '+' ∈ text := by cases hsigned <;> simp
  cases hplain with
  | decimal h => exact h.not_mem_plus (by omega) hplus
  | hex hx h =>
    have hdigits := h.not_mem_plus (by omega)
    rcases hx with rfl | rfl
    all_goals simp [hdigits] at hplus

theorem Literal.exists_cons (h : Literal [] text n) :
    ∃ c rest, text = c :: rest ∧ c.isDigit = true := by
  cases h with
  | @decimal digits _ h =>
    obtain ⟨c, rest, rfl⟩ := List.exists_cons_of_ne_nil h.ne_nil
    obtain ⟨d, hd⟩ := h.exists_isDigit c List.mem_cons_self
    exact ⟨c, rest, rfl, hd.isDigit⟩
  | hex => exact ⟨'0', _, rfl, rfl⟩

end

end Numeral

/-! ## Types -/

namespace LabelType

variable {type : LabelType}

/-- Every number of 16 bits is the code of a type, but for 0. -/
theorem exists_code {n : Nat} (pos : 1 ≤ n) (le : n ≤ 65535) :
    ∃ type : LabelType, type.code.toNat = n := by
  have hn : (UInt16.ofNat n).toNat = n := UInt16.toNat_ofNat_of_lt' (Nat.lt_succ_of_le le)
  refine ⟨⟨UInt16.ofNat n, fun h => ?_⟩, hn⟩
  rw [h] at hn
  have hzero : 0 = n := hn
  omega

theorem isSome_appNumber?_iff :
    type.appNumber?.isSome = true ↔ 0x1000 ≤ type.code.toNat ∧ type.code.toNat ≤ 0x2000 := by
  unfold appNumber? firstApp lastApp
  split
  · next h => simpa [UInt16.le_iff_toNat_le] using h
  · next h => simpa [UInt16.le_iff_toNat_le] using h

theorem app?_eq_some_iff {n : UInt16} :
    app? n = some type ↔ n.toNat ≤ 4096 ∧ type.code.toNat = 0x1000 + n.toNat := by
  unfold app? firstApp lastApp
  rw [Option.ite_none_right_eq_some, ofCode?_eq_some_iff, UInt16.le_iff_toNat_le]
  refine and_congr_right fun hn => ?_
  have hn : n.toNat ≤ 4096 := hn
  rw [← UInt16.toNat_inj, UInt16.toNat_add, Nat.mod_eq_of_lt (by simpa using by omega)]
  rfl

/-- A mnemonic is read in any case, and as its own type only. -/
theorem ofMnemonic?_eq_some_iff {text : List Char} :
    ofMnemonic? text = some type ↔
      ∃ entry ∈ mnemonics, sameIgnoringCase entry.1.toList text = true ∧ entry.2 = type := by
  constructor
  · intro h
    obtain ⟨entry, hfind, htype⟩ := Option.map_eq_some_iff.mp h
    have hsame : sameIgnoringCase entry.1.toList text = true := by
      simpa using List.find?_some hfind
    exact ⟨entry, List.mem_of_find?_eq_some hfind, hsame, htype⟩
  · rintro ⟨entry, hentry, hsame, rfl⟩
    obtain ⟨-, -, hread⟩ := mnemonic_table entry hentry
    rw [← hread]
    unfold ofMnemonic? sameIgnoringCase
    rw [sameIgnoringCase_iff.mp hsame]

theorem appNumber?_mnemonic : ∀ entry ∈ mnemonics, entry.2.appNumber? = none := by decide

/-- A mnemonic neither begins with a digit nor is it the word of the application labels. -/
theorem not_app_of_mnemonic {entry : String × LabelType} {text : List Char}
    (hentry : entry ∈ mnemonics) (hsame : sameIgnoringCase entry.1.toList text = true) :
    text.head?.map Char.isDigit = some false ∧
      sameIgnoringCase "App".toList text = false := by
  obtain ⟨hhead, happ, -⟩ := mnemonic_table entry hentry
  refine ⟨(isDigit_head_of_same hsame).trans hhead, ?_⟩
  rw [← happ]
  unfold sameIgnoringCase
  rw [sameIgnoringCase_iff.mp hsame]

end LabelType

/-! ## Labels -/

namespace Label

/-- The label grammar: which types and parameters a label is written with, and its type code and
parameter. -/
inductive Reads : List Char → Option (List Char) → Nat → Option Bytes → Prop
  /-- No type at all stands for a plain name. -/
  | plain {parameter : Option (List Char)} :
      Reads [] parameter 0x0001 (parameter.map Percent.decode)
  | mnemonic {entry : String × LabelType} {text : List Char} {parameter : Option (List Char)}
      (mem : entry ∈ LabelType.mnemonics) (same : sameIgnoringCase entry.1.toList text = true) :
      Reads text parameter entry.2.code.toNat (parameter.map Percent.decode)
  | app {text : List Char} (same : sameIgnoringCase "App".toList text = true) :
      Reads text none 0x1000 none
  /-- The number of an application label stands where others have their parameter. -/
  | appNumber {text number : List Char} {n : Nat}
      (same : sameIgnoringCase "App".toList text = true) (literal : Numeral.Literal [] number n)
      (le : n ≤ 4096) : Reads text (some number) (0x1000 + n) none
  | code {text : List Char} {parameter : Option (List Char)} {n : Nat}
      (literal : Numeral.Literal [] text n) (pos : 1 ≤ n) (le : n ≤ 65535)
      (app : parameter.isSome = true → ¬ (0x1000 ≤ n ∧ n ≤ 0x2000)) :
      Reads text parameter n (parameter.map Percent.decode)

/-- The labels that are read beyond the grammar, with a plus sign in front of the digits. A type
does not begin with the sign: it has to be hexadecimal. -/
inductive ReadsSigned : List Char → Option (List Char) → Nat → Option Bytes → Prop
  | appNumber {text number : List Char} {n : Nat}
      (same : sameIgnoringCase "App".toList text = true)
      (literal : Numeral.Literal ['+'] number n) (le : n ≤ 4096) :
      ReadsSigned text (some number) (0x1000 + n) none
  | code {x : Char} {digits : List Char} {parameter : Option (List Char)} {n : Nat}
      (hx : x = 'x' ∨ x = 'X') (denotes : Numeral.Denotes 16 digits n) (pos : 1 ≤ n)
      (le : n ≤ 65535) (app : parameter.isSome = true → ¬ (0x1000 ≤ n ∧ n ≤ 0x2000)) :
      ReadsSigned ('0' :: x :: '+' :: digits) parameter n (parameter.map Percent.decode)

variable {type : List Char} {parameter : Option (List Char)} {code : Nat} {p : Option Bytes}
variable {label : Label}

/-! ### Every text of the grammar is read -/

theorem make_eq_ok_iff {type : LabelType} {parameter : Option Bytes} :
    make type parameter = .ok label ↔ label.type = type ∧ label.parameter = parameter := by
  constructor
  · intro h
    unfold make at h
    split at h
    · obtain rfl := Except.ok.inj h
      exact ⟨rfl, rfl⟩
    · cases h
  · rintro ⟨rfl, rfl⟩
    exact make_parameter label

/-- A label outside the application range has any parameter, one inside it has none. -/
theorem exists_make (type : LabelType) {parameter : Option (List Char)}
    (h : parameter.isSome = true → ¬ (0x1000 ≤ type.code.toNat ∧ type.code.toNat ≤ 0x2000)) :
    ∃ label, make type (parameter.map Percent.decode) = .ok label ∧
      label.type.code.toNat = type.code.toNat ∧ label.parameter = parameter.map Percent.decode := by
  have happ : type.appNumber?.isSome = true → parameter.map Percent.decode = none := by
    intro hsome
    cases parameter with
    | none => rfl
    | some text => exact absurd (LabelType.isSome_appNumber?_iff.mp hsome) (h rfl)
  exact ⟨_, dif_pos happ, rfl, rfl⟩

/-- A type that is written as a number. -/
theorem exists_ofParts_code {n : Nat} {sign : List Char} (hsign : sign = [] ∨ sign = ['+'])
    (hdigit : type.head?.map Char.isDigit = some true) (literal : Numeral.Literal sign type n)
    (pos : 1 ≤ n) (le : n ≤ 65535)
    (app : parameter.isSome = true → ¬ (0x1000 ≤ n ∧ n ≤ 0x2000)) :
    ∃ label, ofParts type parameter = .ok label ∧ label.type.code.toNat = n ∧
      label.parameter = parameter.map Percent.decode := by
  obtain ⟨labelType, rfl⟩ := LabelType.exists_code pos le
  have hread := Numeral.uint16?_eq_some_iff.mpr ⟨sign, hsign, literal⟩
  cases type with
  | nil => cases hdigit
  | cons c rest =>
    rw [ofParts_digit (Option.some.inj hdigit) hread]
    exact exists_make labelType app

/-- An application label with its number. -/
theorem exists_ofParts_app {number : List Char} {n : Nat} {sign : List Char}
    (hsign : sign = [] ∨ sign = ['+']) (same : sameIgnoringCase "App".toList type = true)
    (literal : Numeral.Literal sign number n) (le : n ≤ 4096) :
    ∃ label, ofParts type (some number) = .ok label ∧ label.type.code.toNat = 0x1000 + n ∧
      label.parameter = none := by
  have hn : (UInt16.ofNat n).toNat = n :=
    UInt16.toNat_ofNat_of_lt' (Nat.lt_of_le_of_lt le (by decide))
  have hread := Numeral.uint16?_eq_some_iff.mpr ⟨sign, hsign, hn.symm ▸ literal⟩
  obtain ⟨labelType, hcode⟩ : ∃ type : LabelType, type.code.toNat = 0x1000 + n :=
    LabelType.exists_code (by omega) (by omega)
  have happ : LabelType.app? (UInt16.ofNat n) = some labelType :=
    LabelType.app?_eq_some_iff.mpr ⟨hn.symm ▸ le, by rw [hcode, hn]⟩
  exact ⟨_, ofParts_app same hread happ, hcode, rfl⟩

theorem Reads.exists_ofParts (h : Reads type parameter code p) :
    ∃ label, ofParts type parameter = .ok label ∧ label.type.code.toNat = code ∧
      label.parameter = p := by
  cases h with
  | plain => exact exists_make .name fun _ => by decide
  | @mnemonic entry _ _ mem same =>
    obtain ⟨hhead, happ⟩ := LabelType.not_app_of_mnemonic mem same
    have hread := LabelType.ofMnemonic?_eq_some_iff.mpr ⟨entry, mem, same, rfl⟩
    rw [ofParts_word hhead happ hread]
    refine exists_make entry.2 fun _ hrange => ?_
    have hsome := LabelType.isSome_appNumber?_iff.mpr hrange
    rw [LabelType.appNumber?_mnemonic entry mem] at hsome
    cases hsome
  | app same =>
    have hhead := isDigit_head_of_same same
    cases type with
    | nil => cases hhead
    | cons c rest =>
      have hdigit : c.isDigit = false := Option.some.inj hhead
      refine ⟨ofType ⟨0x1000, by decide⟩, ?_, rfl, rfl⟩
      simp only [ofParts, hdigit, same, if_true, if_false, Bool.false_eq_true]
      rfl
  | appNumber same literal le => exact exists_ofParts_app (.inl rfl) same literal le
  | code literal pos le app =>
    obtain ⟨c, rest, rfl, hc⟩ := literal.exists_cons
    exact exists_ofParts_code (.inl rfl) (congrArg some hc) literal pos le app

theorem ReadsSigned.exists_ofParts (h : ReadsSigned type parameter code p) :
    ∃ label, ofParts type parameter = .ok label ∧ label.type.code.toNat = code ∧
      label.parameter = p := by
  cases h with
  | appNumber same literal le => exact exists_ofParts_app (.inr rfl) same literal le
  | code hx denotes pos le app =>
    exact exists_ofParts_code (.inr rfl) rfl (.hex hx denotes) pos le app

/-! ### Nothing else is read -/

/-- A label inside the application range was not made with a parameter. -/
theorem not_app_of_make {type : LabelType} {parameter : Option (List Char)}
    (h : make type (parameter.map Percent.decode) = .ok label) :
    parameter.isSome = true →
      ¬ (0x1000 ≤ label.type.code.toNat ∧ label.type.code.toNat ≤ 0x2000) := by
  intro hsome hrange
  obtain ⟨-, hparameter⟩ := make_eq_ok_iff.mp h
  rw [label.app_parameter (LabelType.isSome_appNumber?_iff.mpr hrange)] at hparameter
  cases parameter with
  | none => cases hsome
  | some text => cases hparameter

theorem reads_of_code {c : Char} {rest : List Char} (hdigit : c.isDigit = true)
    (hread : Numeral.uint16? (c :: rest) = some label.type.code)
    (hmake : make label.type (parameter.map Percent.decode) = .ok label) :
    Reads (c :: rest) parameter label.type.code.toNat label.parameter ∨
      ReadsSigned (c :: rest) parameter label.type.code.toNat label.parameter := by
  have hne : label.type.code.toNat ≠ 0 := fun h =>
    label.type.code_ne_zero (UInt16.toNat_inj.mp h)
  have hlt := label.type.code.toNat_lt
  have happ := not_app_of_make hmake
  rw [(make_eq_ok_iff.mp hmake).2]
  obtain ⟨sign, hsign, literal⟩ := Numeral.uint16?_eq_some_iff.mp hread
  rcases hsign with rfl | rfl
  · exact .inl (.code literal (by omega) (by omega) happ)
  · refine .inr ?_
    generalize htext : c :: rest = text at literal ⊢
    cases literal with
    | decimal =>
      -- The sign is no digit.
      obtain ⟨rfl, -⟩ := List.cons.inj htext
      cases hdigit
    | hex hx denotes => exact .code hx denotes (by omega) (by omega) happ

theorem reads_of_app {number : List Char} {n : UInt16}
    (same : sameIgnoringCase "App".toList type = true) (hread : Numeral.uint16? number = some n)
    {labelType : LabelType} (happ : LabelType.app? n = some labelType) :
    Reads type (some number) labelType.code.toNat none ∨
      ReadsSigned type (some number) labelType.code.toNat none := by
  obtain ⟨hle, hcode⟩ := LabelType.app?_eq_some_iff.mp happ
  rw [hcode]
  obtain ⟨sign, hsign, literal⟩ := Numeral.uint16?_eq_some_iff.mp hread
  rcases hsign with rfl | rfl
  · exact .inl (.appNumber same literal hle)
  · exact .inr (.appNumber same literal hle)

theorem reads_of_ofParts (h : ofParts type parameter = .ok label) :
    Reads type parameter label.type.code.toNat label.parameter ∨
      ReadsSigned type parameter label.type.code.toNat label.parameter := by
  cases type with
  | nil =>
    obtain ⟨htype, hparameter⟩ := make_eq_ok_iff.mp h
    rw [htype, hparameter]
    exact .inl .plain
  | cons c rest =>
    -- The types in the order in which they are tried: numbers, applications, mnemonics.
    cases hdigit : c.isDigit with
    | true =>
      simp only [ofParts, hdigit, if_true] at h
      cases hread : Numeral.uint16? (c :: rest) with
      | none => simp [hread] at h
      | some code =>
        cases htype : LabelType.ofCode? code with
        | none => simp [hread, htype] at h
        | some labelType =>
          simp only [hread, htype] at h
          obtain rfl := (make_eq_ok_iff.mp h).1
          obtain rfl := LabelType.ofCode?_eq_some_iff.mp htype
          exact reads_of_code hdigit hread h
    | false =>
      simp only [ofParts, hdigit, Bool.false_eq_true, if_false] at h
      cases same : sameIgnoringCase "App".toList (c :: rest) with
      | true =>
        simp only [same, if_true] at h
        cases parameter with
        | none =>
          obtain rfl := Except.ok.inj h
          exact .inl (.app same)
        | some number =>
          cases hread : Numeral.uint16? number with
          | none => simp [hread] at h
          | some n =>
            cases htype : LabelType.app? n with
            | none => simp [hread, htype] at h
            | some labelType =>
              simp only [hread, htype] at h
              obtain rfl := Except.ok.inj h
              exact reads_of_app same hread htype
      | false =>
        simp only [same, Bool.false_eq_true, if_false] at h
        cases htype : LabelType.ofMnemonic? (c :: rest) with
        | none => simp [htype] at h
        | some labelType =>
          simp only [htype] at h
          obtain ⟨rfl, hparameter⟩ := make_eq_ok_iff.mp h
          obtain ⟨entry, mem, same, hentry⟩ := LabelType.ofMnemonic?_eq_some_iff.mp htype
          rw [hparameter, ← hentry]
          exact .inl (.mnemonic mem same)

/-- A label is made of its type code and its parameter. -/
theorem eq_of_code_parameter {a b : Label} (hcode : a.type.code.toNat = b.type.code.toNat)
    (hparameter : a.parameter = b.parameter) : a = b := by
  obtain ⟨⟨acode, _⟩, _, _⟩ := a
  obtain ⟨⟨bcode, _⟩, _, _⟩ := b
  obtain rfl : acode = bcode := UInt16.toNat_inj.mp hcode
  obtain rfl := hparameter
  rfl

/-- The labels that are read from a type and a parameter are those of the grammar, and those that
have a sign in front of their number. -/
theorem ofParts_eq_ok_iff :
    ofParts type parameter = .ok label ↔
      Reads type parameter label.type.code.toNat label.parameter ∨
        ReadsSigned type parameter label.type.code.toNat label.parameter := by
  constructor
  · exact reads_of_ofParts
  · intro h
    obtain ⟨other, hread, hcode, hparameter⟩ := h.elim Reads.exists_ofParts
      ReadsSigned.exists_ofParts
    rw [hread, eq_of_code_parameter hcode hparameter]

/-- What is read with a sign is not in the grammar, as no label at all. -/
theorem ReadsSigned.not_reads (h : ReadsSigned type parameter code p) (otherCode : Nat)
    (otherParameter : Option Bytes) : ¬ Reads type parameter otherCode otherParameter := by
  intro hplain
  cases h with
  | appNumber same literal =>
    have hhead := isDigit_head_of_same same
    cases hplain with
    | plain => cases hhead
    | mnemonic mem hsame =>
      obtain ⟨-, hother⟩ := LabelType.not_app_of_mnemonic mem hsame
      rw [same] at hother
      cases hother
    | appNumber _ unsigned => exact literal.not_unsigned unsigned
    | code unsigned =>
      obtain ⟨c, rest, rfl, hc⟩ := unsigned.exists_cons
      exact absurd (hc.symm.trans (Option.some.inj hhead)) (by decide)
  | code hx denotes =>
    cases hplain with
    | mnemonic mem hsame => cases (LabelType.not_app_of_mnemonic mem hsame).1
    | app same => cases isDigit_head_of_same same
    | appNumber same => cases isDigit_head_of_same same
    | code unsigned => exact Numeral.Literal.not_unsigned (.hex hx denotes) unsigned

/-! ### Texts -/

theorem exists_cut {text : List Char} (h : '=' ∈ text) :
    ∃ type parameter value, Cut text type parameter value := by
  obtain ⟨head, value, rfl, hequals⟩ := List.eq_append_cons_of_mem h
  by_cases hcolon : ':' ∈ head
  · obtain ⟨type, parameter, rfl, hfirst⟩ := List.eq_append_cons_of_mem hcolon
    exact ⟨type, some parameter, value, rfl, hequals, hfirst⟩
  · have hhead : written head none = head := List.append_nil head
    exact ⟨head, none, value, by rw [hhead], by rwa [hhead], hcolon⟩

theorem parse_of_not_mem {text : List Char} (h : '=' ∉ text) : parse text = .ok (name, text) := by
  rw [Label.parse, Text.cut?_of_not_mem h]

/-- The `=` is the last byte that a label takes. -/
theorem Cut.utf8Length_sub {text value : List Char} (h : Cut text type parameter value) :
    Percent.utf8Length text - Percent.utf8Length value =
      Percent.utf8Length (written type parameter) + 1 := by
  have hmark : (String.utf8EncodeChar '=').length = 1 := by decide
  rw [h.text_eq]
  simp only [Percent.utf8Length, Percent.utf8, List.flatMap_append, List.flatMap_cons,
    List.length_append, hmark]
  omega

theorem Cut.parseCounted {text : String} {value : List Char}
    (h : Cut text.toList type parameter value) :
    parseCounted text = (ofParts type parameter).map fun label =>
      (label, Percent.utf8Length (written type parameter) + 1) := by
  rw [Label.parseCounted, h.parse, ← h.utf8Length_sub]
  cases ofParts type parameter <;> rfl

/-- Which texts have a label, and which. A text without `=` is all value. The labels of any other
text are those of the grammar and, where the grammar has none, those with a sign in front of a
number; the rest of the texts fail. What is read is a label: its type is not 0, and it has no
parameter in the application range. -/
theorem parseCounted_grammar (text : String) :
    ('=' ∉ text.toList → parseCounted text = .ok (name, 0)) ∧
    ('=' ∈ text.toList → ∃ type parameter value, Cut text.toList type parameter value) ∧
    (∀ type parameter value, Cut text.toList type parameter value →
      (∀ label n, parseCounted text = .ok (label, n) ↔
        n = Percent.utf8Length (written type parameter) + 1 ∧
          (Reads type parameter label.type.code.toNat label.parameter ∨
            ReadsSigned type parameter label.type.code.toNat label.parameter)) ∧
      ((∃ e, parseCounted text = .error e ∧ e.kind = .invalidLabel) ↔
        ∀ code p, ¬ (Reads type parameter code p ∨ ReadsSigned type parameter code p)) ∧
      ∀ code p, ReadsSigned type parameter code p →
        ∀ otherCode otherParameter, ¬ Reads type parameter otherCode otherParameter) ∧
    ∀ label n, parseCounted text = .ok (label, n) →
      label.type.code.toNat ≠ 0 ∧
        (0x1000 ≤ label.type.code.toNat ∧ label.type.code.toNat ≤ 0x2000 →
          label.parameter = none) := by
  refine ⟨fun h => ?_, exists_cut, fun type parameter value h => ⟨?_, ?_, ?_⟩, fun label n _ => ?_⟩
  · simp [parseCounted, parse_of_not_mem h, Except.map]
  · intro label n
    rw [h.parseCounted, ← ofParts_eq_ok_iff]
    cases ofParts type parameter with
    | error e => simp [Except.map]
    | ok other => simp [Except.map, eq_comm, and_comm]
  · rw [h.parseCounted]
    constructor
    · rintro ⟨e, herror, -⟩ code p hreads
      obtain ⟨label, hread, -⟩ := hreads.elim Reads.exists_ofParts ReadsSigned.exists_ofParts
      rw [hread] at herror
      cases herror
    · intro hnone
      cases hread : ofParts type parameter with
      | error e => exact ⟨e, rfl, rfl⟩
      | ok label => exact absurd (ofParts_eq_ok_iff.mp hread) (hnone _ _)
  · exact fun code p hsigned => hsigned.not_reads
  · refine ⟨fun h => label.type.code_ne_zero (UInt16.toNat_inj.mp h), fun hrange => ?_⟩
    exact label.app_parameter (LabelType.isSome_appNumber?_iff.mpr hrange)

/-- The application label 16, with its number in hexadecimal. -/
theorem parseCounted_grammar_sample :
    Cut "App:0x10=v".toList "App".toList (some "0x10".toList) "v".toList ∧
      ∃ label, parseCounted "App:0x10=v" = .ok (label, 9) ∧ label.type.code = 0x1010 := by
  have hcut : Cut "App:0x10=v".toList "App".toList (some "0x10".toList) "v".toList :=
    ⟨rfl, by decide, by decide⟩
  have denotes : Numeral.Denotes 16 "10".toList 16 :=
    .snoc (.digit (d := 1) (by decide)) (d := 0) (by decide)
  have hreads : Reads "App".toList (some "0x10".toList) 0x1010 none :=
    .appNumber (by decide) (.hex (.inl rfl) denotes) (by omega)
  obtain ⟨-, -, hgrammar, -⟩ := parseCounted_grammar "App:0x10=v"
  obtain ⟨hok, -⟩ := hgrammar _ _ _ hcut
  exact ⟨hcut, ofType ⟨0x1010, by decide⟩, (hok _ _).mpr ⟨by decide, .inl hreads⟩, rfl⟩

/-- A plus sign behind `0x` is skipped, where the grammar has no label. -/
theorem parseCounted_skips_plus :
    Cut "0x+F=v".toList "0x+F".toList none "v".toList ∧
      (∃ label, parseCounted "0x+F=v" = .ok (label, 5) ∧ label.type.code = 0x000F) ∧
      ∀ code p, ¬ Reads "0x+F".toList none code p := by
  have hcut : Cut "0x+F=v".toList "0x+F".toList none "v".toList := ⟨rfl, by decide, by decide⟩
  have hsigned : ReadsSigned "0x+F".toList none 15 none :=
    .code (.inl rfl) (.digit (d := 15) (by decide)) (by omega) (by omega) fun h => by cases h
  have hread : ofParts "0x+F".toList none = .ok (ofType ⟨15, by decide⟩) :=
    ofParts_eq_ok_iff.mpr (.inr hsigned)
  refine ⟨hcut, ⟨ofType ⟨15, by decide⟩, ?_, rfl⟩, hsigned.not_reads⟩
  rw [hcut.parseCounted, hread]
  rfl

end Label

end NamedContent
