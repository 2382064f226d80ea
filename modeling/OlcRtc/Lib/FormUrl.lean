import OlcRtc.Lib.Text

/-!
# Percent encoding

The encoding of texts by ASCII characters that goes into links: letters, digits and a few signs
stand for themselves, everything else for the bytes of its UTF-8, each written as a percent sign and
two hexadecimal digits.

`urlEncode` and `urlDecode` are `URLEncoder` and `URLDecoder`, where a space becomes a plus sign;
`encodeComponent` writes `%20` for it.  Escapes in a row are decoded together, malformed UTF-8 is
replaced.  **`urlDecode_encodeComponent`** says that a text is read back.
-/

namespace OlcRtc

def isFormSafe (c : Char) : Bool :=
  c.isAlphanum || c == '-' || c == '_' || c == '.' || c == '*'

def hexDigitUpper (n : ℕ) : Char := if n < 10 then Char.ofNat (48 + n) else Char.ofNat (55 + n)

def percentByte (b : UInt8) : Text :=
  ['%', hexDigitUpper (b.toNat / 16), hexDigitUpper (b.toNat % 16)]

/-- `URLEncoder.encode`. -/
def urlEncode (s : Text) : Text :=
  s.flatMap fun c =>
    if isFormSafe c then [c] else if c = ' ' then ['+']
    else (String.utf8EncodeChar c).flatMap percentByte

/-- `URLEncoder.encode` with `%20` for a space. -/
def encodeComponent (s : Text) : Text :=
  (urlEncode s).flatMap fun c => if c = '+' then "%20".toList else [c]

variable (t : CharTables)

/-- The byte of an escape, as `Integer.parseInt` reads its two characters. -/
def escapedByte (a b : Char) : Option UInt8 :=
  if a = '+' then (t.digit 16 b).map UInt8.ofNat
  else if a = '-' then (t.digit 16 b).bind fun n => if n = 0 then some 0 else none
  else (t.digit 16 a).bind fun x => (t.digit 16 b).map fun y => UInt8.ofNat (x * 16 + y)

/-- The text of an encoding, with the bytes of the escapes just before it. -/
def urlDecodeFrom (plus : Char) : Bytes → Text → Option Text
  | bytes, [] => some (decodeUtf8Lossy t.malformedLength bytes)
  | bytes, '%' :: a :: b :: s =>
    (escapedByte t a b).bind fun byte => urlDecodeFrom plus (bytes ++ [byte]) s
  | _, '%' :: _ => none
  | bytes, c :: s =>
    (urlDecodeFrom plus [] s).map fun rest =>
      decodeUtf8Lossy t.malformedLength bytes ++ (if c = '+' then plus else c) :: rest

/-- `URLDecoder.decode`. -/
def urlDecode (s : Text) : Option Text := urlDecodeFrom t ' ' [] s

/-! ## What is written -/

def encodeChar (c : Char) : Text :=
  if isFormSafe c then [c] else (String.utf8EncodeChar c).flatMap percentByte

lemma hexDigitUpper_safe : ∀ n < 16, isFormSafe (hexDigitUpper n) = true ∧
    hexDigitUpper n ≠ '+' ∧ hexDigitUpper n ≠ '-' ∧ (hexDigitUpper n).toNat < 128 ∧
    hexVal (hexDigitUpper n) = some n := by decide

lemma percentByte_safe (b : UInt8) : ∀ c ∈ percentByte b, c = '%' ∨ isFormSafe c = true := by
  have hb := b.toNat_lt
  intro c hc
  simp only [percentByte, List.mem_cons, List.not_mem_nil, or_false] at hc
  rcases hc with rfl | rfl | rfl
  · exact Or.inl rfl
  · exact Or.inr (hexDigitUpper_safe _ (by omega)).1
  · exact Or.inr (hexDigitUpper_safe _ (by omega)).1

lemma plus_not_mem_percentByte (b : UInt8) : '+' ∉ percentByte b := by
  intro hmem
  rcases percentByte_safe b _ hmem with h | h
  · exact absurd h (by decide)
  · exact absurd h (by decide)

lemma encodeComponent_eq (s : Text) : encodeComponent s = s.flatMap encodeChar := by
  rw [encodeComponent, urlEncode, List.flatMap_assoc]
  refine List.flatMap_congr fun c _ => ?_
  rw [encodeChar]
  split_ifs with hsafe hspace
  · rw [List.flatMap_singleton, if_neg]
    rintro rfl
    exact absurd hsafe (by decide)
  · subst hspace
    rfl
  · refine (List.flatMap_congr fun c hc => if_neg ?_).trans (List.flatMap_singleton' _)
    rintro rfl
    obtain ⟨b, -, hmem⟩ := List.mem_flatMap.1 hc
    exact plus_not_mem_percentByte b hmem

@[simp] lemma encodeComponent_nil : encodeComponent [] = [] := rfl

lemma encodeComponent_cons (c : Char) (s : Text) :
    encodeComponent (c :: s) = encodeChar c ++ encodeComponent s := by
  rw [encodeComponent_eq, encodeComponent_eq, List.flatMap_cons]

lemma encodeComponent_safe {s : Text} {c : Char} (h : c ∈ encodeComponent s) :
    c = '%' ∨ isFormSafe c = true := by
  rw [encodeComponent_eq] at h
  obtain ⟨d, -, hd⟩ := List.mem_flatMap.1 h
  unfold encodeChar at hd
  split_ifs at hd with hsafe
  · rw [List.mem_singleton.1 hd]
    exact Or.inr hsafe
  · obtain ⟨b, -, hb⟩ := List.mem_flatMap.1 hd
    exact percentByte_safe b c hb

lemma not_mem_encodeComponent {c : Char} (hpercent : c ≠ '%') (hsafe : isFormSafe c = false)
    (s : Text) : c ∉ encodeComponent s := by
  intro h
  rcases encodeComponent_safe h with h | h
  · exact hpercent h
  · rw [hsafe] at h
    cases h

lemma encodeComponent_ne_nil {s : Text} (h : s ≠ []) : encodeComponent s ≠ [] := by
  obtain ⟨c, s, rfl⟩ := List.exists_cons_of_ne_nil h
  rw [encodeComponent_cons, encodeChar]
  split_ifs
  · simp
  · intro hnil
    have hbytes := (List.append_eq_nil_iff.1 hnil).1
    obtain ⟨b, bs, hbs⟩ := List.exists_cons_of_ne_nil (utf8EncodeChar_ne_nil c)
    rw [hbs] at hbytes
    simp [percentByte] at hbytes

/-! ## What is read -/

lemma escapedByte_percentByte (b : UInt8) :
    escapedByte t (hexDigitUpper (b.toNat / 16)) (hexDigitUpper (b.toNat % 16)) = some b := by
  have hb := b.toNat_lt
  obtain ⟨-, hplus, hminus, hascii, hval⟩ := hexDigitUpper_safe (b.toNat / 16) (by omega)
  obtain ⟨-, -, -, hascii', hval'⟩ := hexDigitUpper_safe (b.toNat % 16) (by omega)
  rw [escapedByte, if_neg hplus, if_neg hminus, t.digit_sixteen _ hascii, hval,
    t.digit_sixteen _ hascii', hval', Option.bind_some, Option.map_some]
  congr 1
  rw [show b.toNat / 16 * 16 + b.toNat % 16 = b.toNat by omega, UInt8.ofNat_toNat]

lemma urlDecodeFrom_percentByte (plus : Char) (bytes bs : Bytes) (s : Text) :
    urlDecodeFrom t plus bytes (bs.flatMap percentByte ++ s)
      = urlDecodeFrom t plus (bytes ++ bs) s := by
  induction bs generalizing bytes with
  | nil => rw [List.flatMap_nil, List.nil_append, List.append_nil]
  | cons b bs ih =>
    have hcons : (b :: bs).flatMap percentByte ++ s
        = '%' :: hexDigitUpper (b.toNat / 16) :: hexDigitUpper (b.toNat % 16)
          :: (bs.flatMap percentByte ++ s) := by
      simp [percentByte]
    rw [hcons, urlDecodeFrom, escapedByte_percentByte, Option.bind_some, ih, List.append_assoc,
      List.singleton_append]

lemma urlDecodeFrom_safe (plus : Char) (bytes : Bytes) {c : Char} (h : isFormSafe c = true)
    (s : Text) :
    urlDecodeFrom t plus bytes (c :: s)
      = (urlDecodeFrom t plus [] s).map fun rest =>
          decodeUtf8Lossy t.malformedLength bytes ++ c :: rest := by
  have hpercent : c ≠ '%' := by
    rintro rfl
    exact absurd h (by decide)
  have hplus : c ≠ '+' := by
    rintro rfl
    exact absurd h (by decide)
  rw [urlDecodeFrom, if_neg hplus]
  · exact fun _ _ _ heq => absurd heq hpercent
  · exact fun heq => absurd heq hpercent

lemma urlDecodeFrom_encodeComponent (plus : Char) (s : Text) : ∀ before : Text,
    urlDecodeFrom t plus (encodeUtf8 before) (encodeComponent s) = some (before ++ s) := by
  induction s with
  | nil =>
    intro before
    rw [encodeComponent_nil, urlDecodeFrom, decodeUtf8Lossy_encodeUtf8, List.append_nil]
  | cons c s ih =>
    intro before
    rw [encodeComponent_cons, encodeChar]
    split_ifs with hsafe
    · have hnil := ih []
      rw [List.nil_append] at hnil
      rw [List.singleton_append, urlDecodeFrom_safe t plus _ hsafe,
        decodeUtf8Lossy_encodeUtf8]
      show (urlDecodeFrom t plus (encodeUtf8 []) (encodeComponent s)).map _ = _
      rw [hnil, Option.map_some]
    · have hstep := ih (before ++ [c])
      rw [urlDecodeFrom_percentByte]
      rw [encodeUtf8_append] at hstep
      simpa [encodeUtf8] using hstep

/-- **A text is read back from its encoding.** -/
theorem urlDecode_encodeComponent (s : Text) : urlDecode t (encodeComponent s) = some s :=
  urlDecodeFrom_encodeComponent t ' ' s []

end OlcRtc
