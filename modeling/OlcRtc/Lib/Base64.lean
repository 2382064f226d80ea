import OlcRtc.Lib.Bytes

/-!
# Base64

The standard encoding of bytes by characters, four for every three bytes, with padding.  The decoder
skips line ends anywhere and does not look at the bits that padding leaves over, which is what most
decoders do by default.  **`decodeBase64_encodeBase64`** says that bytes are read back.

The URL alphabet has `-` and `_` for `+` and `/`, and is often used without padding.
`encodeBase64Url` writes it, and **`padBase64_encodeBase64Url`** restores the standard encoding.
-/

namespace OlcRtc

def base64Char (n : ℕ) : Char :=
  if n < 26 then Char.ofNat (65 + n)
  else if n < 52 then Char.ofNat (71 + n)
  else if n < 62 then Char.ofNat (n - 4)
  else if n = 62 then '+'
  else '/'

def base64Val (c : Char) : Option ℕ :=
  if 65 ≤ c.toNat ∧ c.toNat ≤ 90 then some (c.toNat - 65)
  else if 97 ≤ c.toNat ∧ c.toNat ≤ 122 then some (c.toNat - 71)
  else if 48 ≤ c.toNat ∧ c.toNat ≤ 57 then some (c.toNat + 4)
  else if c = '+' then some 62
  else if c = '/' then some 63
  else none

def encodeBase64 : Bytes → List Char
  | [] => []
  | [a] => [base64Char (a.toNat / 4), base64Char (a.toNat % 4 * 16), '=', '=']
  | [a, b] =>
    [base64Char (a.toNat / 4), base64Char (a.toNat % 4 * 16 + b.toNat / 16),
      base64Char (b.toNat % 16 * 4), '=']
  | a :: b :: c :: rest =>
    base64Char (a.toNat / 4) :: base64Char (a.toNat % 4 * 16 + b.toNat / 16)
      :: base64Char (b.toNat % 16 * 4 + c.toNat / 64) :: base64Char (c.toNat % 64)
      :: encodeBase64 rest

def base64First (w x : ℕ) : UInt8 := UInt8.ofNat (w * 4 + x / 16)

def base64Second (x y : ℕ) : UInt8 := UInt8.ofNat (x % 16 * 16 + y / 4)

def base64Third (y z : ℕ) : UInt8 := UInt8.ofNat (y % 4 * 64 + z)

/-- The bytes of groups of four characters; only the last group may be padded. -/
def decodeGroups : List Char → Option Bytes
  | [] => some []
  | c₁ :: c₂ :: c₃ :: c₄ :: rest => do
    let w ← base64Val c₁
    let x ← base64Val c₂
    if c₃ = '=' then
      if c₄ = '=' ∧ rest = [] then some [base64First w x] else none
    else
      let y ← base64Val c₃
      if c₄ = '=' then
        if rest = [] then some [base64First w x, base64Second x y] else none
      else
        let z ← base64Val c₄
        let bytes ← decodeGroups rest
        some (base64First w x :: base64Second x y :: base64Third y z :: bytes)
  | _ => none

def decodeBase64 (s : List Char) : Option Bytes :=
  decodeGroups (s.filter fun c => c ≠ '\n' ∧ c ≠ '\r')

lemma base64Val_base64Char : ∀ n < 64, base64Val (base64Char n) = some n := by decide

lemma base64Char_ne : ∀ n < 64,
    base64Char n ≠ '=' ∧ base64Char n ≠ '\n' ∧ base64Char n ≠ '\r' := by decide

lemma encodeBase64_chars : ∀ bs : Bytes, ∀ c ∈ encodeBase64 bs,
    c = '=' ∨ ∃ n < 64, c = base64Char n
  | [] => by simp [encodeBase64]
  | [a] => by
    have ha := a.toNat_lt
    intro c hc
    simp only [encodeBase64, List.mem_cons, List.not_mem_nil, or_false] at hc
    rcases hc with rfl | rfl | rfl | rfl
    · exact Or.inr ⟨_, by omega, rfl⟩
    · exact Or.inr ⟨_, by omega, rfl⟩
    · exact Or.inl rfl
    · exact Or.inl rfl
  | [a, b] => by
    have ha := a.toNat_lt
    have hb := b.toNat_lt
    intro c hc
    simp only [encodeBase64, List.mem_cons, List.not_mem_nil, or_false] at hc
    rcases hc with rfl | rfl | rfl | rfl
    · exact Or.inr ⟨_, by omega, rfl⟩
    · exact Or.inr ⟨_, by omega, rfl⟩
    · exact Or.inr ⟨_, by omega, rfl⟩
    · exact Or.inl rfl
  | a :: b :: c :: rest => by
    have ha := a.toNat_lt
    have hb := b.toNat_lt
    have hc := c.toNat_lt
    intro d hd
    rw [encodeBase64] at hd
    simp only [List.mem_cons] at hd
    rcases hd with rfl | rfl | rfl | rfl | hd
    · exact Or.inr ⟨_, by omega, rfl⟩
    · exact Or.inr ⟨_, by omega, rfl⟩
    · exact Or.inr ⟨_, by omega, rfl⟩
    · exact Or.inr ⟨_, by omega, rfl⟩
    · exact encodeBase64_chars rest d hd

lemma no_lineEnd_encodeBase64 (bs : Bytes) : ∀ c ∈ encodeBase64 bs, c ≠ '\n' ∧ c ≠ '\r' := by
  intro c hc
  rcases encodeBase64_chars bs c hc with rfl | ⟨n, hn, rfl⟩
  · decide
  · exact (base64Char_ne n hn).2

lemma base64First_split (a : UInt8) {n : ℕ} (hn : n < 16) :
    base64First (a.toNat / 4) (a.toNat % 4 * 16 + n) = a := by
  have hval : a.toNat / 4 * 4 + (a.toNat % 4 * 16 + n) / 16 = a.toNat := by omega
  rw [base64First, hval, UInt8.ofNat_toNat]

lemma base64Second_split (b : UInt8) {m n : ℕ} (hn : n < 4) :
    base64Second (m * 16 + b.toNat / 16) (b.toNat % 16 * 4 + n) = b := by
  have hb := b.toNat_lt
  have hval : (m * 16 + b.toNat / 16) % 16 * 16 + (b.toNat % 16 * 4 + n) / 4 = b.toNat := by omega
  rw [base64Second, hval, UInt8.ofNat_toNat]

lemma base64Third_split (c : UInt8) (m : ℕ) :
    base64Third (m * 4 + c.toNat / 64) (c.toNat % 64) = c := by
  have hc := c.toNat_lt
  have hval : (m * 4 + c.toNat / 64) % 4 * 64 + c.toNat % 64 = c.toNat := by omega
  rw [base64Third, hval, UInt8.ofNat_toNat]

lemma decodeGroups_encodeBase64 : ∀ bs : Bytes, decodeGroups (encodeBase64 bs) = some bs
  | [] => rfl
  | [a] => by
    have ha := a.toNat_lt
    have hfirst := base64First_split a (n := 0) (by decide)
    rw [Nat.add_zero] at hfirst
    simp [encodeBase64, decodeGroups, base64Val_base64Char (a.toNat / 4) (by omega),
      base64Val_base64Char (a.toNat % 4 * 16) (by omega), hfirst]
  | [a, b] => by
    have ha := a.toNat_lt
    have hb := b.toNat_lt
    have hfirst := base64First_split a (n := b.toNat / 16) (by omega)
    have hsecond := base64Second_split b (m := a.toNat % 4) (n := 0) (by decide)
    rw [Nat.add_zero] at hsecond
    have hpad := (base64Char_ne (b.toNat % 16 * 4) (by omega)).1
    simp [encodeBase64, decodeGroups, base64Val_base64Char (a.toNat / 4) (by omega),
      base64Val_base64Char (a.toNat % 4 * 16 + b.toNat / 16) (by omega),
      base64Val_base64Char (b.toNat % 16 * 4) (by omega), hpad, hfirst, hsecond]
  | a :: b :: c :: rest => by
    have ha := a.toNat_lt
    have hb := b.toNat_lt
    have hc := c.toNat_lt
    have ih := decodeGroups_encodeBase64 rest
    have hfirst := base64First_split a (n := b.toNat / 16) (by omega)
    have hsecond := base64Second_split b (m := a.toNat % 4) (n := c.toNat / 64) (by omega)
    have hthird := base64Third_split c (b.toNat % 16)
    have hpad₃ := (base64Char_ne (b.toNat % 16 * 4 + c.toNat / 64) (by omega)).1
    have hpad₄ := (base64Char_ne (c.toNat % 64) (by omega)).1
    simp [encodeBase64, decodeGroups, base64Val_base64Char (a.toNat / 4) (by omega),
      base64Val_base64Char (a.toNat % 4 * 16 + b.toNat / 16) (by omega),
      base64Val_base64Char (b.toNat % 16 * 4 + c.toNat / 64) (by omega),
      base64Val_base64Char (c.toNat % 64) (by omega), hpad₃, hpad₄, ih, hfirst, hsecond, hthird]

/-- **Bytes are read back.** -/
theorem decodeBase64_encodeBase64 (bs : Bytes) : decodeBase64 (encodeBase64 bs) = some bs := by
  have hkeep : (encodeBase64 bs).filter (fun c => c ≠ '\n' ∧ c ≠ '\r') = encodeBase64 bs := by
    rw [List.filter_eq_self]
    intro c hc
    exact decide_eq_true (no_lineEnd_encodeBase64 bs c hc)
  rw [decodeBase64, hkeep, decodeGroups_encodeBase64]

/-! ## The URL alphabet -/

def toUrlChar (c : Char) : Char := if c = '+' then '-' else if c = '/' then '_' else c

def toStandardChar (c : Char) : Char := if c = '-' then '+' else if c = '_' then '/' else c

def encodeBase64Url (bs : Bytes) : List Char :=
  ((encodeBase64 bs).filter (· ≠ '=')).map toUrlChar

/-- A text of a known length, padded to groups of four. -/
def padBase64 (length : ℕ) (s : List Char) : List Char :=
  s ++ List.replicate ((4 - length % 4) % 4) '='

lemma toStandardChar_toUrlChar : ∀ n < 64,
    toStandardChar (toUrlChar (base64Char n)) = base64Char n := by decide

lemma padBase64_filter : ∀ bs : Bytes,
    padBase64 ((encodeBase64 bs).filter (· ≠ '=')).length ((encodeBase64 bs).filter (· ≠ '='))
      = encodeBase64 bs
  | [] => rfl
  | [a] => by
    have ha := a.toNat_lt
    have h₁ := (base64Char_ne (a.toNat / 4) (by omega)).1
    have h₂ := (base64Char_ne (a.toNat % 4 * 16) (by omega)).1
    simp [encodeBase64, padBase64, h₁, h₂]
  | [a, b] => by
    have ha := a.toNat_lt
    have hb := b.toNat_lt
    have h₁ := (base64Char_ne (a.toNat / 4) (by omega)).1
    have h₂ := (base64Char_ne (a.toNat % 4 * 16 + b.toNat / 16) (by omega)).1
    have h₃ := (base64Char_ne (b.toNat % 16 * 4) (by omega)).1
    simp [encodeBase64, padBase64, h₁, h₂, h₃]
  | a :: b :: c :: rest => by
    have ha := a.toNat_lt
    have hb := b.toNat_lt
    have hc := c.toNat_lt
    have ih := padBase64_filter rest
    have h₁ := (base64Char_ne (a.toNat / 4) (by omega)).1
    have h₂ := (base64Char_ne (a.toNat % 4 * 16 + b.toNat / 16) (by omega)).1
    have h₃ := (base64Char_ne (b.toNat % 16 * 4 + c.toNat / 64) (by omega)).1
    have h₄ := (base64Char_ne (c.toNat % 64) (by omega)).1
    rw [padBase64] at ih ⊢
    simp only [encodeBase64, ne_eq, h₁, h₂, h₃, h₄, not_false_eq_true, decide_true,
      List.filter_cons_of_pos, List.length_cons, Nat.add_assoc, Nat.add_mod_right,
      List.cons_append]
    rw [ih]

/-- **The standard encoding is restored** from the URL alphabet. -/
theorem padBase64_encodeBase64Url (bs : Bytes) :
    padBase64 (encodeBase64Url bs).length ((encodeBase64Url bs).map toStandardChar)
      = encodeBase64 bs := by
  have hchars : (encodeBase64Url bs).map toStandardChar
      = (encodeBase64 bs).filter (· ≠ '=') := by
    rw [encodeBase64Url, List.map_map]
    refine (List.map_congr_left fun c hc => ?_).trans (List.map_id _)
    obtain ⟨hmem, hne⟩ := List.mem_filter.1 hc
    rcases encodeBase64_chars bs c hmem with rfl | ⟨n, hn, rfl⟩
    · exact absurd rfl (of_decide_eq_true hne)
    · exact toStandardChar_toUrlChar n hn
  have hlength : (encodeBase64Url bs).length = ((encodeBase64 bs).filter (· ≠ '=')).length :=
    List.length_map _
  rw [hchars, hlength, padBase64_filter]

lemma encodeBase64Url_chars (bs : Bytes) : ∀ c ∈ encodeBase64Url bs,
    ∃ n < 64, c = toUrlChar (base64Char n) := by
  intro c hc
  obtain ⟨d, hd, rfl⟩ := List.mem_map.1 hc
  obtain ⟨hmem, hne⟩ := List.mem_filter.1 hd
  rcases encodeBase64_chars bs d hmem with rfl | ⟨n, hn, rfl⟩
  · exact absurd rfl (of_decide_eq_true hne)
  · exact ⟨n, hn, rfl⟩

example : encodeBase64 (ascii "light w") = "bGlnaHQgdw==".toList := by decide +kernel

end OlcRtc
