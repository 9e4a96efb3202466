import Mathlib.Data.List.Basic
import NamedContent.Name.Text

/-!
# Names read back from their URIs

A name is written as a URI and read from one. Reading undoes writing for every name
(`Name.ofUri_toUri`): numbers and labels are read as what they were written for, the marks between
label and value and between segments occur nowhere else, and no segment is empty, so that the path
never begins like an authority.

* `Numeral.uint16?_decimal`, `Numeral.uint16?_hex`: numbers.
* `Label.parse_renderExplicit`: labels with their `=`.
* `Segment.parse_render`: segments, with and without a label.
* `Uri.readsPaths_inspect`: a scheme and a path are a URI without any other component.
-/

namespace NamedContent

/-! ## Numbers -/

namespace Numeral

variable {base bound : Nat} {value? : Char → Option Nat} {n : Nat}

/-- The digits of a number denote the number. -/
theorem ofDigits?_toDigits (hbase : 1 < base)
    (hdigit : ∀ d < base, value? (Nat.digitChar d) = some d) (hn : n < bound) :
    ofDigits? base bound value? (Nat.toDigits base n) = some n := by
  have hdigits : ∃ digits, (Nat.toDigits base n).mapM value? = some digits ∧
      digits.foldl (fun n d => n * base + d) 0 = n := by
    clear hn
    induction n using Nat.strongRecOn with
    | ind n ih =>
      rw [Nat.toDigits_eq_if hbase]
      split
      · next hlt => exact ⟨[n], by simp [hdigit n hlt], by simp⟩
      · next hge =>
        -- The last digit is the remainder, and those in front of it denote the quotient.
        obtain ⟨digits, hmap, hfold⟩ := ih (n / base) (Nat.div_lt_self (by omega) hbase)
        refine ⟨digits ++ [n % base], ?_, ?_⟩
        · simp [List.mapM_append, hmap, hdigit _ (Nat.mod_lt n (by omega))]
        · rw [List.foldl_append, hfold]
          exact Nat.div_add_mod' n base
  obtain ⟨digits, hmap, hfold⟩ := hdigits
  simp only [ofDigits?, hmap, Option.bind_eq_bind, Option.bind_some, hfold, if_pos hn]

theorem exists_digit_of_mem {c : Char} (hbase : 1 < base) (hc : c ∈ Nat.toDigits base n) :
    ∃ d < base, c = Nat.digitChar d := by
  induction n using Nat.strongRecOn with
  | ind n ih =>
    rw [Nat.toDigits_eq_if hbase] at hc
    split at hc
    · next hlt => exact ⟨n, hlt, List.mem_singleton.mp hc⟩
    · next hge =>
      rcases List.mem_append.mp hc with hfront | hlast
      · exact ih (n / base) (Nat.div_lt_self (by omega) hbase) hfront
      · exact ⟨n % base, Nat.mod_lt n (by omega), List.mem_singleton.mp hlast⟩

/-- A number without a sign. -/
theorem signed?_toDigits (hbase : 1 < base)
    (hdigit : ∀ d < base, value? (Nat.digitChar d) = some d ∧ Nat.digitChar d ≠ '+')
    (hn : n < bound) : signed? base bound value? (Nat.toDigits base n) = some n := by
  have hvalue := ofDigits?_toDigits hbase (fun d hd => (hdigit d hd).1) hn
  have hplus : '+' ∉ Nat.toDigits base n := fun hmem => by
    obtain ⟨d, hd, heq⟩ := exists_digit_of_mem hbase hmem
    exact (hdigit d hd).2 heq.symm
  cases htext : Nat.toDigits base n with
  | nil => exact absurd htext Nat.toDigits_ne_nil
  | cons c rest =>
    rw [htext] at hvalue hplus
    unfold signed?
    split
    · next heq =>
      rw [heq] at hplus
      exact absurd List.mem_cons_self hplus
    · exact hvalue

theorem decimal_digit :
    ∀ d < 10, digit? (Nat.digitChar d) = some d ∧ Nat.digitChar d ≠ '+' := by decide

theorem hex_digit :
    ∀ d < 16, Hex.digit? (Nat.digitChar d) = some d ∧ Nat.digitChar d ≠ '+' := by decide

theorem uint16?_decimal (n : UInt16) : uint16? (Nat.toDigits 10 n.toNat) = some n := by
  have hvalue := signed?_toDigits (by omega) decimal_digit n.toNat_lt
  have hx : ∀ c ∈ Nat.toDigits 10 n.toNat, c ≠ 'x' ∧ c ≠ 'X' := fun c hc => by
    obtain ⟨d, hd, rfl⟩ := exists_digit_of_mem (by omega) hc
    have table : ∀ d < 10, Nat.digitChar d ≠ 'x' ∧ Nat.digitChar d ≠ 'X' := by decide
    exact table d hd
  unfold uint16?
  split
  · next heq =>
    rw [heq] at hx
    exact absurd rfl (hx 'x' (by simp)).1
  · next heq =>
    rw [heq] at hx
    exact absurd rfl (hx 'X' (by simp)).2
  · rw [hvalue, Option.map_some, UInt16.ofNat_toNat]

theorem uint16?_hex (n : UInt16) :
    uint16? ('0' :: 'x' :: Nat.toDigits 16 n.toNat) = some n := by
  have hvalue := signed?_toDigits (by omega) hex_digit n.toNat_lt
  rw [uint16?, hvalue, Option.map_some, UInt16.ofNat_toNat]

end Numeral

/-! ## Characters -/

namespace Percent

/-- What an encoded text is made of. -/
def IsEncoded (c : Char) : Prop := isUnreserved c = true ∨ c = '%'

instance (c : Char) : Decidable (IsEncoded c) := inferInstanceAs (Decidable (_ ∨ _))

theorem isEncoded_of_mem_encode {b : Bytes} {c : Char} (hc : c ∈ encode b) : IsEncoded c := by
  obtain ⟨x, -, hx⟩ := List.mem_flatMap.mp hc
  have table : ∀ n < 256, IsEncoded (Hex.upper (n / 16)) ∧ IsEncoded (Hex.upper n) := by
    decide +kernel
  obtain ⟨hhigh, hlow⟩ := table x.toNat x.toNat_lt
  unfold encodeByte at hx
  split at hx
  · next hplain =>
    rw [List.mem_singleton.mp hx]
    exact .inl hplain
  · simp only [List.mem_cons, List.not_mem_nil, or_false] at hx
    rcases hx with rfl | rfl | rfl
    · exact .inr rfl
    · exact hhigh
    · exact hlow

theorem isEncoded_of_mem_toDigits {base n : Nat} {c : Char} (hbase : 1 < base) (hle : base ≤ 16)
    (hc : c ∈ Nat.toDigits base n) : IsEncoded c := by
  obtain ⟨d, hd, rfl⟩ := Numeral.exists_digit_of_mem hbase hc
  have table : ∀ d < 16, IsEncoded (Nat.digitChar d) := by decide
  exact table d (Nat.lt_of_lt_of_le hd hle)

theorem encode_ne_nil {b : Bytes} (h : b ≠ []) : encode b ≠ [] := by
  cases b with
  | nil => exact absurd rfl h
  | cons x b =>
    unfold encode encodeByte
    rw [List.flatMap_cons]
    split <;> simp

end Percent

namespace Text

variable {mark : Char} {before behind : List Char}

theorem cut?_append_cons (h : mark ∉ before) :
    cut? mark (before ++ mark :: behind) = some (before, behind) := by
  induction before with
  | nil => simp [cut?]
  | cons c before ih =>
    obtain ⟨hc, hrest⟩ := not_or.mp (fun hmem => h (List.mem_cons.mpr hmem))
    rw [List.cons_append, cut?, if_neg (Ne.symm hc), ih hrest]
    rfl

theorem cut?_of_not_mem (h : mark ∉ before) : cut? mark before = none := by
  induction before with
  | nil => rfl
  | cons c before ih =>
    obtain ⟨hc, hrest⟩ := not_or.mp (fun hmem => h (List.mem_cons.mpr hmem))
    rw [cut?, if_neg (Ne.symm hc), ih hrest]
    rfl

end Text

/-! ## Labels -/

theorem sameIgnoringCase_iff {a b : List Char} :
    sameIgnoringCase a b = true ↔ a.map Char.toLower = b.map Char.toLower := beq_iff_eq

/-- A letter is a digit in neither case. -/
theorem isDigit_toLower (c : Char) : c.toLower.isDigit = c.isDigit := by
  by_cases h : 65 ≤ c.toNat ∧ c.toNat ≤ 90
  · have table : ∀ n < 91, 65 ≤ n →
        (Char.ofNat n).toLower.isDigit = (Char.ofNat n).isDigit := by decide
    have hc := table c.toNat (by omega) h.1
    rwa [Char.ofNat_toNat] at hc
  · have hsame : c.toLower = c := dif_neg h
    rw [hsame]

/-- Texts that agree up to case both begin with a digit, or neither does. -/
theorem isDigit_head_of_same {a b : List Char} (h : sameIgnoringCase a b = true) :
    b.head?.map Char.isDigit = a.head?.map Char.isDigit := by
  have hlower (text : List Char) :
      (text.map Char.toLower).head?.map Char.isDigit = text.head?.map Char.isDigit := by
    cases text with
    | nil => rfl
    | cons c rest => exact congrArg some (isDigit_toLower c)
  rw [← hlower b, ← sameIgnoringCase_iff.mp h, hlower a]

namespace LabelType

theorem ofCode?_code (type : LabelType) : ofCode? type.code = some type :=
  dif_pos type.code_ne_zero

/-- An application label is read from its number. -/
theorem app?_of_appNumber {type : LabelType} {n : UInt16} (h : type.appNumber? = some n) :
    app? n = some type := by
  unfold appNumber? at h
  split at h
  · next hrange =>
    obtain ⟨hfirst, hlast⟩ := hrange
    have hle : type.code - firstApp ≤ lastApp - firstApp := by
      rw [UInt16.le_iff_toNat_le, UInt16.toNat_sub_of_le _ _ hfirst]
      exact Nat.sub_le_sub_right (UInt16.le_iff_toNat_le.mp hlast) _
    obtain rfl := Option.some.inj h
    rw [app?, if_pos hle, UInt16.add_comm, UInt16.sub_add_cancel, ofCode?_code]
  · cases h

/-- A mnemonic does not begin with a digit and is not that of the application labels, and it is read
as its own type. -/
theorem mnemonic_table : ∀ entry ∈ mnemonics, entry.1.toList.head?.map Char.isDigit = some false ∧
    sameIgnoringCase "App".toList entry.1.toList = false ∧
      ofMnemonic? entry.1.toList = some entry.2 := by
  decide

theorem isEncoded_mnemonic : ∀ entry ∈ mnemonics, ∀ c ∈ entry.1.toList, Percent.IsEncoded c := by
  simp [mnemonics, Percent.IsEncoded, Percent.isUnreserved]

theorem mem_mnemonics {type : LabelType} {mnemonic : String}
    (h : type.mnemonic? = some mnemonic) : (mnemonic, type) ∈ mnemonics := by
  obtain ⟨entry, hfind, rfl⟩ := Option.map_eq_some_iff.mp h
  have heq : entry.2 = type := by simpa using List.find?_some hfind
  rw [← heq]
  exact List.mem_of_find?_eq_some hfind

end LabelType

namespace Label

variable {type : LabelType} {label : Label}

theorem ofParts_digit {c : Char} {rest : List Char} (hc : c.isDigit = true)
    (hcode : Numeral.uint16? (c :: rest) = some type.code) (parameter : Option (List Char)) :
    ofParts (c :: rest) parameter = make type (parameter.map Percent.decode) := by
  simp only [ofParts, hc, if_true, hcode, LabelType.ofCode?_code]

/-- A mnemonic is read as its type, whatever stands behind it. -/
theorem ofParts_word {text : List Char} (hhead : text.head?.map Char.isDigit = some false)
    (happ : sameIgnoringCase "App".toList text = false)
    (hread : LabelType.ofMnemonic? text = some type) (parameter : Option (List Char)) :
    ofParts text parameter = make type (parameter.map Percent.decode) := by
  cases text with
  | nil => cases hhead
  | cons c rest =>
    have hdigit : c.isDigit = false := Option.some.inj hhead
    simp only [ofParts, hdigit, happ, hread, if_false, Bool.false_eq_true]

/-- The type of a label is read back from what is written for it. -/
theorem ofParts_typeText (type : LabelType) (parameter : Option (List Char)) :
    ofParts (typeText type) parameter = make type (parameter.map Percent.decode) := by
  unfold typeText
  split
  · next mnemonic hmnemonic =>
    obtain ⟨hhead, happ, hread⟩ :=
      LabelType.mnemonic_table _ (LabelType.mem_mnemonics hmnemonic)
    exact ofParts_word hhead happ hread parameter
  · split
    · have hcode := Numeral.uint16?_decimal type.code
      cases hdigits : Nat.toDigits 10 type.code.toNat with
      | nil => exact absurd hdigits Nat.toDigits_ne_nil
      | cons c rest =>
        have hc : c.isDigit = true :=
          Nat.isDigit_of_mem_toDigits (b := 10) (by omega) (by omega)
            (hdigits ▸ List.mem_cons_self)
        rw [hdigits] at hcode
        exact ofParts_digit hc hcode parameter
    · exact ofParts_digit rfl (Numeral.uint16?_hex type.code) parameter

/-- A label is put together of its type and its parameter. -/
theorem make_parameter (label : Label) : make label.type label.parameter = .ok label :=
  dif_pos label.app_parameter

theorem isEncoded_typeText (type : LabelType) : ∀ c ∈ typeText type, Percent.IsEncoded c := by
  intro c hc
  unfold typeText at hc
  split at hc
  · next mnemonic hmnemonic =>
    exact LabelType.isEncoded_mnemonic _ (LabelType.mem_mnemonics hmnemonic) c hc
  · split at hc
    · exact Percent.isEncoded_of_mem_toDigits (by omega) (by omega) hc
    · rcases List.mem_cons.mp hc with rfl | hc
      · decide
      · rcases List.mem_cons.mp hc with rfl | hc
        · decide
        · exact Percent.isEncoded_of_mem_toDigits (by omega) (by omega) hc

/-- What stands in front of the `=`. -/
def written (type : List Char) (parameter : Option (List Char)) : List Char :=
  type ++ match parameter with
    | none => []
    | some text => ':' :: text

/-- A text is cut at its first `=`, and what stands in front of it at the first `:`. -/
structure Cut (text type : List Char) (parameter : Option (List Char)) (value : List Char) :
    Prop where
  text_eq : text = written type parameter ++ '=' :: value
  equals : '=' ∉ written type parameter
  colon : ':' ∉ type

theorem Cut.parse {text type value : List Char} {parameter : Option (List Char)}
    (h : Cut text type parameter value) :
    parse text = (ofParts type parameter).map fun label => (label, value) := by
  obtain ⟨rfl, hequals, hcolon⟩ := h
  rw [Label.parse, Text.cut?_append_cons hequals]
  cases parameter with
  | none => simp only [written, List.append_nil, Text.cut?_of_not_mem hcolon]
  | some text => simp only [written, Text.cut?_append_cons hcolon]

/-- What an application label is read from. -/
theorem ofParts_app {text number : List Char} {n : UInt16}
    (hsame : sameIgnoringCase "App".toList text = true) (hnumber : Numeral.uint16? number = some n)
    (happ : LabelType.app? n = some type) : ofParts text (some number) = .ok (ofType type) := by
  have hhead := isDigit_head_of_same hsame
  cases text with
  | nil => cases hhead
  | cons c rest =>
    have hdigit : c.isDigit = false := Option.some.inj hhead
    simp only [ofParts, hdigit, hsame, hnumber, happ, if_true, if_false, Bool.false_eq_true]

theorem ofType_of_app {n : UInt16} (h : label.type.appNumber? = some n) :
    ofType label.type = label := by
  obtain ⟨type, parameter, happ⟩ := label
  obtain rfl : parameter = none := happ (h ▸ rfl)
  rfl

/-- What is written in front of the value is read as the label. -/
theorem parse_renderExplicit (label : Label) (value : List Char) :
    parse (label.renderExplicit ++ value) = .ok (label, value) := by
  have hmark : ∀ {text : List Char}, (∀ c ∈ text, Percent.IsEncoded c) → '=' ∉ text ∧ ':' ∉ text :=
    fun h => ⟨fun hmem => absurd (h _ hmem) (by decide), fun hmem => absurd (h _ hmem) (by decide)⟩
  obtain ⟨hequals, hcolon⟩ := hmark (isEncoded_typeText label.type)
  unfold renderExplicit
  cases hn : label.type.appNumber? with
  | some n =>
    have hdigits : '=' ∉ Nat.toDigits 10 n.toNat := (hmark fun c hc =>
      Percent.isEncoded_of_mem_toDigits (by omega) (by omega) hc).1
    have hread : ofParts "App".toList (some (Nat.toDigits 10 n.toNat)) = .ok label := by
      rw [ofParts_app (by decide) (Numeral.uint16?_decimal n) (LabelType.app?_of_appNumber hn),
        ofType_of_app hn]
    have hcut : Cut ("App:".toList ++ Nat.toDigits 10 n.toNat ++ ['='] ++ value) "App".toList
        (some (Nat.toDigits 10 n.toNat)) value :=
      ⟨by simp [written], by simp [written, hdigits], by decide⟩
    rw [hcut.parse, hread]
    rfl
  | none =>
    have hmake := make_parameter label
    cases hp : label.parameter with
    | none =>
      have hread : ofParts (typeText label.type) none = .ok label := by
        rw [ofParts_typeText, Option.map_none, ← hp, hmake]
      have hcut : Cut (typeText label.type ++ [] ++ ['='] ++ value) (typeText label.type) none
          value := ⟨by simp [written], by simp [written, hequals], hcolon⟩
      rw [hcut.parse, hread]
      rfl
    | some b =>
      have hparameter : '=' ∉ Percent.encode b :=
        (hmark fun c hc => Percent.isEncoded_of_mem_encode hc).1
      have hread : ofParts (typeText label.type) (some (Percent.encode b)) = .ok label := by
        rw [ofParts_typeText, Option.map_some, Percent.decode_encode, ← hp, hmake]
      have hcut : Cut (typeText label.type ++ ':' :: Percent.encode b ++ ['='] ++ value)
          (typeText label.type) (some (Percent.encode b)) value :=
        ⟨by simp [written], by simp [written, hequals, hparameter], hcolon⟩
      rw [hcut.parse, hread]
      rfl

/-- A label is made of encoded text and marks. -/
theorem mem_renderExplicit {c : Char} (hc : c ∈ label.renderExplicit) :
    Percent.IsEncoded c ∨ c = ':' ∨ c = '=' := by
  unfold renderExplicit at hc
  split at hc
  · next n hn =>
    simp only [List.mem_append, List.mem_singleton] at hc
    rcases hc with (happ | hdigits) | rfl
    · have table : ∀ c ∈ "App:".toList, Percent.IsEncoded c ∨ c = ':' ∨ c = '=' := by
        simp [Percent.IsEncoded, Percent.isUnreserved]
      exact table c happ
    · exact .inl (Percent.isEncoded_of_mem_toDigits (by omega) (by omega) hdigits)
    · exact .inr (.inr rfl)
  · simp only [List.mem_append, List.mem_singleton] at hc
    rcases hc with (htype | hparameter) | rfl
    · exact .inl (isEncoded_typeText label.type c htype)
    · split at hparameter
      · cases hparameter
      · rcases List.mem_cons.mp hparameter with rfl | hparameter
        · exact .inr (.inl rfl)
        · exact .inl (Percent.isEncoded_of_mem_encode hparameter)
    · exact .inr (.inr rfl)

end Label

/-! ## Segments -/

namespace Segment

variable {segment : Segment}

/-- A segment is written with its label, or it is a plain name whose value is no path syntax. -/
theorem render_cases (segment : Segment) :
    segment.render = segment.label.renderExplicit ++ Percent.encode segment.value ∨
      segment.render = Percent.encode segment.value ∧ segment.label = .name ∧
        segment.value ≠ [] := by
  unfold render
  split
  · exact .inl rfl
  · next hvalue =>
    unfold Label.render
    split
    · next hname =>
      refine .inr ⟨rfl, hname, fun hnil => hvalue ?_⟩
      rw [hnil]
      rfl
    · exact .inl rfl

/-- What is written for a segment is read as the segment. -/
theorem parse_render (segment : Segment) : parse segment.render = .ok segment := by
  rcases render_cases segment with heq | ⟨heq, hname, -⟩
  · rw [heq, parse, Label.parse_renderExplicit]
    exact congrArg (fun value => Except.ok { segment with value }) (Percent.decode_encode _)
  · have hequals : '=' ∉ Percent.encode segment.value := fun hmem =>
      absurd (Percent.isEncoded_of_mem_encode hmem) (by decide)
    rw [heq, parse, Label.parse, Text.cut?_of_not_mem hequals]
    obtain ⟨label, value⟩ := segment
    obtain rfl : label = .name := hname
    exact congrArg (fun value => Except.ok (Segment.mk Label.name value)) (Percent.decode_encode _)

theorem mem_render {c : Char} (hc : c ∈ segment.render) :
    Percent.IsEncoded c ∨ c = ':' ∨ c = '=' := by
  rcases render_cases segment with heq | ⟨heq, -, -⟩ <;> rw [heq] at hc
  · rcases List.mem_append.mp hc with hlabel | hvalue
    · exact Label.mem_renderExplicit hlabel
    · exact .inl (Percent.isEncoded_of_mem_encode hvalue)
  · exact .inl (Percent.isEncoded_of_mem_encode hc)

/-- Something is written for every segment, so that there are never two slashes in a row. -/
theorem render_ne_nil (segment : Segment) : segment.render ≠ [] := by
  rcases render_cases segment with heq | ⟨heq, -, hvalue⟩
  · have hequals : '=' ∈ segment.label.renderExplicit := by
      unfold Label.renderExplicit
      split <;> simp
    rw [heq]
    exact List.ne_nil_of_mem (List.mem_append_left _ hequals)
  · rw [heq]
    exact Percent.encode_ne_nil hvalue

theorem slash_not_mem_render (segment : Segment) : '/' ∉ segment.render :=
  fun hmem => absurd (mem_render hmem) (by decide)

end Segment

/-! ## URIs with a scheme and a path -/

namespace Uri

/-- The characters of the path of a name. -/
def IsPathChar (c : Char) : Prop := Percent.IsEncoded c ∨ c = ':' ∨ c = '=' ∨ c = '/'

instance (c : Char) : Decidable (IsPathChar c) := inferInstanceAs (Decidable (_ ∨ _))

theorem not_blank_of_isPathChar {c : Char} (h : IsPathChar c) : ¬ c ≤ ' ' := by
  intro hle
  have hlt : c.toNat < 33 := by
    have : c.toNat ≤ 32 := hle
    omega
  have table : ∀ n < 33, ¬ IsPathChar (Char.ofNat n) := by decide
  exact table c.toNat hlt (by rwa [Char.ofNat_toNat])

/-- Nothing is cut off a text without blanks. -/
theorem significant_of_not_blank {text : List Char} (h : ∀ c ∈ text, ¬ c ≤ ' ') :
    significant text = text := by
  have hdrop : ∀ l : List Char, (∀ c ∈ l, ¬ c ≤ ' ') →
      l.dropWhile (fun c => decide (c ≤ ' ')) = l := fun l hl => by
    cases l with
    | nil => rfl
    | cons c l => exact List.dropWhile_cons_of_neg (by simpa using hl c List.mem_cons_self)
  have hfilter : ∀ c ∈ text, (c != '\t' && c != '\n' && c != '\r') = true := fun c hc => by
    have hblank : ∀ d ∈ ['\t', '\n', '\r'], d ≤ ' ' := by simp
    have hne : ∀ d ∈ ['\t', '\n', '\r'], c ≠ d := fun d hd heq => h c hc (heq ▸ hblank d hd)
    simp [hne '\t', hne '\n', hne '\r']
  simp only [significant]
  rw [hdrop text h, hdrop text.reverse fun c hc => h c (List.mem_reverse.mp hc),
    List.reverse_reverse, List.filter_eq_self.mpr hfilter]

/-- A check of URIs takes the scheme of names and a path for what they are: the path is made of its
own characters and does not begin like an authority. -/
def ReadsPaths (inspect : List Char → Except Fault Shape) : Prop :=
  ∀ path : List Char, path.head? = some '/' → (∀ c ∈ path, IsPathChar c) →
    (∀ rest, path ≠ '/' :: '/' :: rest) → inspect ("lci".toList ++ ':' :: path) =
      .ok { scheme := "lci", hasHost := false, hasQuery := false, hasFragment := false }

theorem readsPaths_inspect : ReadsPaths inspect := by
  rintro path - hchars hauthority
  have htext : ∀ c ∈ "lci".toList ++ ':' :: path, ¬ c ≤ ' ' := by
    intro c hc
    rcases List.mem_append.mp hc with hscheme | hc
    · have table : ∀ c ∈ "lci".toList, ¬ c ≤ ' ' := by simp
      exact table c hscheme
    · rcases List.mem_cons.mp hc with rfl | hpath
      · decide
      · exact not_blank_of_isPathChar (hchars c hpath)
  have hscheme : cutScheme? ("lci".toList ++ ':' :: path) = some ("lci", path) := by
    rw [cutScheme?, Text.cut?_append_cons (by decide)]
    rfl
  have hquery : '?' ∉ path := fun hmem => absurd (hchars _ hmem) (by decide)
  have hfragment : '#' ∉ path := fun hmem => absurd (hchars _ hmem) (by decide)
  have hhierarchy : checkHierarchy (.ofScheme "lci") path = .ok (false, path) := by
    show checkHierarchy .plain path = _
    unfold checkHierarchy
    dsimp only
    split
    · next rest => exact absurd rfl (hauthority rest)
    · rfl
  have hbefore : '?' ∉ path.takeWhile (· != '#') :=
    fun hmem => hquery ((List.takeWhile_sublist _).mem hmem)
  rw [inspect, significant_of_not_blank htext, hscheme]
  simp only [hhierarchy]
  show (Except.ok (Shape.mk "lci" false ((path.takeWhile (· != '#')).contains '?')
    (path.contains '#')) : Except Fault Shape) = _
  simp only [List.contains_eq_mem, hbefore, hfragment, decide_false]

end Uri

/-! ## Names -/

namespace Name

theorem isPathChar_of_mem_render {segment : Segment} {c : Char} (hc : c ∈ segment.render) :
    Uri.IsPathChar c := by
  rcases Segment.mem_render hc with h | h | h
  · exact .inl h
  · exact .inr (.inl h)
  · exact .inr (.inr (.inl h))

theorem isPathChar_of_mem_renderPath {name : Name} {c : Char} (hc : c ∈ name.renderPath) :
    Uri.IsPathChar c := by
  unfold renderPath at hc
  split at hc
  · rw [List.mem_singleton.mp hc]
    decide
  · obtain ⟨segment, -, hsegment⟩ := List.mem_flatMap.mp hc
    rcases List.mem_cons.mp hsegment with rfl | hrender
    · decide
    · exact isPathChar_of_mem_render hrender

theorem renderPath_cons (segment : Segment) (segments : List Segment) :
    renderPath ⟨segment :: segments⟩ =
      '/' :: (segment.render ++ (segments.map Segment.render).flatMap ('/' :: ·)) := by
  simp [renderPath, List.flatMap_map]

/-- Behind the first slash stands what was written for a segment, which is no slash, or nothing. -/
theorem renderPath_ne_authority (name : Name) (rest : List Char) :
    name.renderPath ≠ '/' :: '/' :: rest := by
  obtain ⟨segments⟩ := name
  cases segments with
  | nil => simp [renderPath]
  | cons segment segments =>
    rw [renderPath_cons]
    intro heq
    cases hrender : segment.render with
    | nil => exact segment.render_ne_nil hrender
    | cons c text =>
      rw [hrender] at heq
      have hc : c = '/' := (List.cons.inj (List.cons.inj heq).2).1
      exact segment.slash_not_mem_render (hrender ▸ hc ▸ List.mem_cons_self)

/-- Between the slashes of a path stands what was written for the segments. -/
theorem rawSegments?_renderPath (name : Name) :
    rawSegments? name.renderPath = some (name.segments.map Segment.render) := by
  obtain ⟨segments⟩ := name
  cases segments with
  | nil => rfl
  | cons segment segments =>
    have hslash : ∀ piece ∈ segment.render :: segments.map Segment.render, '/' ∉ piece := by
      intro piece hpiece
      obtain ⟨s, -, rfl⟩ := List.mem_map.mp (List.map_cons (f := Segment.render) ▸ hpiece)
      exact s.slash_not_mem_render
    have hsplit := Text.split_join hslash
    rw [renderPath_cons, rawSegments?]
    · exact congrArg some hsplit
    · intro hnil
      exact segment.render_ne_nil (List.append_eq_nil_iff.mp hnil).1

theorem parseSegments_render (index : Nat) (segments : List Segment) :
    parseSegments index (segments.map Segment.render) = .ok segments := by
  induction segments generalizing index with
  | nil => rfl
  | cons segment segments ih =>
    rw [List.map_cons, parseSegments, Segment.parse_render]
    simp only [ih]
    rfl

theorem ofUriWith_toUri {inspect : List Char → Except Uri.Fault Uri.Shape}
    (h : Uri.ReadsPaths inspect) (name : Name) : ofUriWith inspect name.toUri = .ok name := by
  have htext : name.toUri.toList = "lci".toList ++ ':' :: name.renderPath := String.toList_ofList
  have hhead : name.renderPath.head? = some '/' := by
    obtain ⟨segments⟩ := name
    cases segments with
    | nil => rfl
    | cons segment segments => rw [renderPath_cons]; rfl
  have hinspect := h _ hhead (fun c hc => isPathChar_of_mem_renderPath hc)
    name.renderPath_ne_authority
  have hcut : Text.cut? ':' name.toUri.toList = some ("lci".toList, name.renderPath) := by
    rw [htext, Text.cut?_append_cons (by decide)]
  rw [ofUriWith, hcut, htext, hinspect]
  simp only [Option.map_some, Option.getD_some, rawSegments?_renderPath, parseSegments_render]
  rfl

/-- Every name is read back from its URI, whatever else the check of URIs does. -/
theorem ofUri_toUri (name : Name) : ofUri name.toUri = .ok name ∧
    ∀ inspect, Uri.ReadsPaths inspect → ofUriWith inspect name.toUri = .ok name :=
  ⟨ofUriWith_toUri Uri.readsPaths_inspect name, fun _ h => ofUriWith_toUri h name⟩

namespace Sample

/-- An empty segment, `..`, a chunk with an empty parameter and an application segment. -/
def name : Name :=
  ⟨[Segment.ofType .name [], Segment.ofType .name [0x2E, 0x2E],
    { label := { type := .chunk, parameter := some [], app_parameter := by decide }
      value := [0x2F, 0xFF, 0x3D] },
    Segment.ofType { code := 0x1007 } [0x25]]⟩

end Sample

example : Sample.name.toUri = "lci:/Name=/Name=../Chunk:=%2F%FF%3D/App:7=%25" := by decide

theorem ofUri_toUri_sample : Uri.ReadsPaths Uri.inspect ∧
    ofUriWith Uri.inspect Sample.name.toUri = .ok Sample.name :=
  ⟨Uri.readsPaths_inspect, (ofUri_toUri Sample.name).2 _ Uri.readsPaths_inspect⟩

end Name

end NamedContent
