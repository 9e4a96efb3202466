import NamedContent.Text.Hex

/-!
# Percent encoding

Bytes that are neither letters, digits nor one of `-._~` are written as `%` and two upper-case
digits. Decoding reads `%` and two digits of either case as a byte and every other character as
its UTF-8 bytes.

* `decode_encode`: decoding undoes encoding, for every byte string.
-/

namespace NamedContent.Percent

/-- The characters that stand for themselves in a name. -/
def isUnreserved (c : Char) : Bool :=
  c.isAlphanum || c == '-' || c == '.' || c == '_' || c == '~'

/-- One byte as it is written. -/
def encodeByte (x : UInt8) : List Char :=
  if isUnreserved (Char.ofNat x.toNat) then [Char.ofNat x.toNat]
  else ['%', Hex.upper (x.toNat / 16), Hex.upper x.toNat]

/-- A byte string as it is written. -/
def encode (b : Bytes) : List Char := b.flatMap encodeByte

/-- The bytes of a text in UTF-8. -/
def utf8 (text : List Char) : Bytes := text.flatMap String.utf8EncodeChar

/-- The number of bytes of a text in UTF-8. -/
def utf8Length (text : List Char) : Nat := (utf8 text).length

/-- The bytes that a text stands for; a `%` without two digits behind it stands for itself. -/
def decode : List Char → Bytes
  | [] => []
  | '%' :: a :: b :: rest =>
    match Hex.digit? a, Hex.digit? b with
    | some x, some y => UInt8.ofNat (x * 16 + y) :: decode rest
    | _, _ => 0x25 :: decode (a :: b :: rest)
  | c :: rest => String.utf8EncodeChar c ++ decode rest

/-! ## Decoding undoes encoding -/

/-- What decoding needs to know of each byte: a byte that is written as itself is one character
other than `%`, and the two digits of any other byte read back. -/
theorem encodeByte_cases : ∀ n < 256,
    let c := Char.ofNat n
    (isUnreserved c = true → c ≠ '%' ∧ String.utf8EncodeChar c = [UInt8.ofNat n]) ∧
      Hex.digit? (Hex.upper (n / 16)) = some (n / 16) ∧
      Hex.digit? (Hex.upper n) = some (n % 16) := by
  decide +kernel

theorem decode_encodeByte_append (x : UInt8) (rest : List Char) :
    decode (encodeByte x ++ rest) = x :: decode rest := by
  obtain ⟨hc, hhi, hlo⟩ := encodeByte_cases x.toNat x.toNat_lt
  unfold encodeByte
  split
  · next h =>
    obtain ⟨hne, henc⟩ := hc h
    rw [List.singleton_append, decode, henc]
    · simp
    · intro a b rest' heq
      exact absurd heq hne
  · simp only [List.cons_append, List.nil_append, decode, hhi, hlo]
    congr 1
    apply UInt8.toNat_inj.mp
    have := x.toNat_lt
    rw [UInt8.toNat_ofNat']
    omega

theorem decode_encode_append (b : Bytes) (rest : List Char) :
    decode (encode b ++ rest) = b ++ decode rest := by
  induction b with
  | nil => rfl
  | cons x b ih =>
    rw [encode, List.flatMap_cons, List.append_assoc, decode_encodeByte_append]
    exact congrArg (x :: ·) ih

/-- What was encoded is decoded to itself. -/
theorem decode_encode (b : Bytes) : decode (encode b) = b := by
  simpa [decode] using decode_encode_append b []

end NamedContent.Percent
