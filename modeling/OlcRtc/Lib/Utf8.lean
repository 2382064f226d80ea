import OlcRtc.Lib.Bytes

/-!
# UTF-8

Texts of Unicode characters and their bytes.  `decodeUtf8` refuses what is not well formed;
`decodeUtf8Lossy` puts a replacement character for a malformed sequence and goes on.  How many bytes
count as one such sequence is not specified, so it is a parameter.

Both read back what was encoded.
-/

namespace OlcRtc

def encodeUtf8 (s : List Char) : Bytes := s.flatMap String.utf8EncodeChar

def decodeUtf8Char (bs : Bytes) : Option Char := bs.toByteArray.utf8DecodeChar? 0

/-- The text of some bytes, with a bound on its length. -/
def decodeUtf8Within : ℕ → Bytes → Option (List Char)
  | _, [] => some []
  | 0, _ => none
  | n + 1, bs =>
    (decodeUtf8Char bs).bind fun c => (decodeUtf8Within n (bs.drop c.utf8Size)).map (c :: ·)

def decodeUtf8 (bs : Bytes) : Option (List Char) := decodeUtf8Within bs.length bs

def replacement : Char := Char.ofNat 0xFFFD

/-- The text of any bytes, with a bound on its length. -/
def decodeUtf8LossyWithin (malformedLength : Bytes → ℕ) : ℕ → Bytes → List Char
  | _, [] => []
  | 0, _ => []
  | n + 1, bs =>
    match decodeUtf8Char bs with
    | some c => c :: decodeUtf8LossyWithin malformedLength n (bs.drop c.utf8Size)
    | none =>
      replacement ::
        decodeUtf8LossyWithin malformedLength n (bs.drop (max 1 (malformedLength bs)))

def decodeUtf8Lossy (malformedLength : Bytes → ℕ) (bs : Bytes) : List Char :=
  decodeUtf8LossyWithin malformedLength bs.length bs

/-! ## What was encoded is read back -/

lemma decodeUtf8Char_append (c : Char) (bs : Bytes) :
    decodeUtf8Char (String.utf8EncodeChar c ++ bs) = some c := by
  rw [decodeUtf8Char, List.toByteArray_append]
  exact ByteArray.utf8DecodeChar?_utf8EncodeChar_append

lemma drop_utf8EncodeChar (c : Char) (bs : Bytes) :
    (String.utf8EncodeChar c ++ bs).drop c.utf8Size = bs := by
  rw [← String.length_utf8EncodeChar, List.drop_left]

lemma utf8EncodeChar_ne_nil (c : Char) : String.utf8EncodeChar c ≠ [] := by
  intro h
  have hlength := String.length_utf8EncodeChar c
  rw [h] at hlength
  exact absurd hlength.symm c.utf8Size_pos.ne'

@[simp] lemma encodeUtf8_cons (c : Char) (s : List Char) :
    encodeUtf8 (c :: s) = String.utf8EncodeChar c ++ encodeUtf8 s := rfl

lemma encodeUtf8_append (s t : List Char) : encodeUtf8 (s ++ t) = encodeUtf8 s ++ encodeUtf8 t :=
  List.flatMap_append

lemma length_le_encodeUtf8 : ∀ s : List Char, s.length ≤ (encodeUtf8 s).length
  | [] => Nat.le_refl 0
  | c :: s => by
    have hc := List.length_pos_iff.2 (utf8EncodeChar_ne_nil c)
    have ih := length_le_encodeUtf8 s
    rw [encodeUtf8_cons, List.length_append, List.length_cons]
    omega

lemma decodeUtf8Within_encodeUtf8 {n : ℕ} :
    ∀ {s : List Char}, s.length ≤ n → decodeUtf8Within n (encodeUtf8 s) = some s := by
  induction n with
  | zero =>
    intro s hs
    rw [List.length_eq_zero_iff.1 (Nat.le_zero.1 hs)]
    rfl
  | succ n ih =>
    rintro (_ | ⟨c, s⟩) hs
    · rfl
    · rw [List.length_cons] at hs
      rw [decodeUtf8Within, encodeUtf8_cons, decodeUtf8Char_append, Option.bind_some,
        drop_utf8EncodeChar, ih (Nat.le_of_succ_le_succ hs)]
      · rfl
      · exact fun h => utf8EncodeChar_ne_nil c (List.append_eq_nil_iff.1 h).1

/-- **A text is read back from its bytes.** -/
theorem decodeUtf8_encodeUtf8 (s : List Char) : decodeUtf8 (encodeUtf8 s) = some s :=
  decodeUtf8Within_encodeUtf8 (length_le_encodeUtf8 s)

lemma decodeUtf8LossyWithin_encodeUtf8 (malformedLength : Bytes → ℕ) {n : ℕ} :
    ∀ {s : List Char}, s.length ≤ n →
      decodeUtf8LossyWithin malformedLength n (encodeUtf8 s) = s := by
  induction n with
  | zero =>
    intro s hs
    rw [List.length_eq_zero_iff.1 (Nat.le_zero.1 hs)]
    rfl
  | succ n ih =>
    rintro (_ | ⟨c, s⟩) hs
    · rfl
    · rw [List.length_cons] at hs
      rw [decodeUtf8LossyWithin, encodeUtf8_cons, decodeUtf8Char_append]
      · dsimp only
        rw [drop_utf8EncodeChar, ih (Nat.le_of_succ_le_succ hs)]
      · exact fun h => utf8EncodeChar_ne_nil c (List.append_eq_nil_iff.1 h).1

/-- The same where malformed bytes are replaced: there are none. -/
theorem decodeUtf8Lossy_encodeUtf8 (malformedLength : Bytes → ℕ) (s : List Char) :
    decodeUtf8Lossy malformedLength (encodeUtf8 s) = s :=
  decodeUtf8LossyWithin_encodeUtf8 malformedLength (length_le_encodeUtf8 s)

end OlcRtc
