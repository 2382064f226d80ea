import Mathlib.Data.List.TakeWhile
import OlcRtc.Lib.Json
import OlcRtc.Lib.Utf8

/-!
# Texts and what a class library does with them

A text is a list of Unicode characters.  The functions here are those of the Kotlin and Java class
libraries on strings: blank strings, parts before and after a delimiter, integers.

What they do beyond ASCII depends on tables of the platform.  `CharTables` has the tables as
parameters, with what every platform agrees on: the lower case of ASCII texts, and the ASCII digits.
-/

namespace OlcRtc

/-- A string of well-formed Unicode. -/
abbrev Text := List Char

instance instLawfulBEqText : LawfulBEq Text := inferInstance

/-- What a platform says about characters. -/
structure CharTables where
  /-- `String.lowercase`. -/
  lowercase : Text → Text
  /-- `Character.digit` for a radix and a character. -/
  digit : ℕ → Char → Option ℕ
  /-- How many bytes are replaced at once by a decoder of UTF-8 that finds malformed bytes. -/
  malformedLength : Bytes → ℕ
  lowercase_of_ascii : ∀ s : Text, (∀ c ∈ s, c.toNat < 128) → lowercase s = s.map Char.toLower
  digit_ten : ∀ c : Char, c.toNat < 128 →
    digit 10 c = if c.isDigit then some (c.toNat - 48) else none
  digit_sixteen : ∀ c : Char, c.toNat < 128 → digit 16 c = hexVal c

def asciiTables : CharTables where
  lowercase s := s.map Char.toLower
  digit radix c :=
    if radix = 16 then hexVal c else if c.isDigit then some (c.toNat - 48) else none
  malformedLength _ := 1
  lowercase_of_ascii _ _ := rfl
  digit_ten _ _ := rfl
  digit_sixteen _ _ := rfl

namespace Text

/-! ## Blank strings -/

/-- `Char.isWhitespace`: the space characters of Unicode and the controls that separate. -/
def isWhitespace (c : Char) : Bool :=
  (9 ≤ c.toNat && c.toNat ≤ 13) || (28 ≤ c.toNat && c.toNat ≤ 32) || c.toNat == 0xA0 ||
    c.toNat == 0x1680 || (0x2000 ≤ c.toNat && c.toNat ≤ 0x200A) || c.toNat == 0x2028 ||
    c.toNat == 0x2029 || c.toNat == 0x202F || c.toNat == 0x205F || c.toNat == 0x3000

def isBlank (s : Text) : Bool := s.all isWhitespace

def trim (s : Text) : Text :=
  ((s.dropWhile isWhitespace).reverse.dropWhile isWhitespace).reverse

/-! ## Parts of a string -/

/-- `substringBefore`; the whole string if the delimiter is missing. -/
def substringBefore (d : Char) (s : Text) : Text := s.takeWhile (· ≠ d)

/-- `substringAfter` with the value for a missing delimiter. -/
def substringAfter (d : Char) (missing s : Text) : Text :=
  match s.dropWhile (· ≠ d) with
  | [] => missing
  | _ :: rest => rest

/-- `substringAfterLast`; the whole string if the delimiter is missing. -/
def substringAfterLast (d : Char) (s : Text) : Text := (s.reverse.takeWhile (· ≠ d)).reverse

/-- `substringBeforeLast`; the whole string if the delimiter is missing. -/
def substringBeforeLast (d : Char) (s : Text) : Text :=
  match s.reverse.dropWhile (· ≠ d) with
  | [] => s
  | _ :: rest => rest.reverse

/-- `removePrefix`. -/
def dropIfPrefixed (p s : Text) : Text := if p.isPrefixOf s then s.drop p.length else s

/-! ## Integers -/

def natVal (t : CharTables) (s : Text) : Option ℕ :=
  if s = [] then none
  else s.foldl (fun acc c => acc.bind fun n => (t.digit 10 c).map (n * 10 + ·)) (some 0)

/-- The integer of a text with or without sign, if it is at least `-limit` and below `limit`. -/
def toIntegerOrNull (t : CharTables) (limit : ℕ) : Text → Option ℤ
  | [] => none
  | c :: s =>
    if c.toNat < '0'.toNat then
      if c = '-' then (natVal t s).bind fun n => if n ≤ limit then some (-n) else none
      else if c = '+' then (natVal t s).bind fun n => if n < limit then some n else none
      else none
    else (natVal t (c :: s)).bind fun n => if n < limit then some n else none

def toIntOrNull (t : CharTables) : Text → Option ℤ := toIntegerOrNull t (2 ^ 31)

def toLongOrNull (t : CharTables) : Text → Option ℤ := toIntegerOrNull t (2 ^ 63)

/-! ## Lengths -/

/-- `String.length`: the number of code units of UTF-16. -/
def utf16Length (s : Text) : ℕ := (s.map fun c => if c.toNat < 0x10000 then 1 else 2).sum

/-! ## What the functions do with what was put together -/

section Parts

variable {d : Char} {a b s : Text}

lemma lowercase_eq_self (t : CharTables) {s : Text}
    (h : ∀ c ∈ s, c.toNat < 128 ∧ c.toLower = c) : t.lowercase s = s := by
  rw [t.lowercase_of_ascii s fun c hc => (h c hc).1]
  exact (List.map_congr_left fun c hc => (h c hc).2).trans (List.map_id s)

lemma forall_mem_of_all {p : Char → Prop} [DecidablePred p] {s : Text}
    (h : (s.all fun c => decide (p c)) = true) : ∀ c ∈ s, p c :=
  fun c hc => of_decide_eq_true (List.all_eq_true.1 h c hc)

lemma ne_of_not_mem (h : d ∉ a) : ∀ c ∈ a, decide (c ≠ d) = true :=
  fun _ hc => decide_eq_true fun heq => h (heq ▸ hc)

lemma takeWhile_append_of_not_mem (h : d ∉ a) : (a ++ d :: b).takeWhile (· ≠ d) = a := by
  rw [List.takeWhile_append_of_pos (p := (· ≠ d)) (ne_of_not_mem h),
    List.takeWhile_cons_of_neg (by simp), List.append_nil]

lemma dropWhile_append_of_not_mem (h : d ∉ a) : (a ++ d :: b).dropWhile (· ≠ d) = d :: b := by
  rw [List.dropWhile_append_of_pos (p := (· ≠ d)) (ne_of_not_mem h),
    List.dropWhile_cons_of_neg (by simp)]

lemma takeWhile_of_not_mem (h : d ∉ s) : s.takeWhile (· ≠ d) = s :=
  List.takeWhile_eq_self_iff.2 (ne_of_not_mem h)

lemma dropWhile_of_not_mem (h : d ∉ s) : s.dropWhile (· ≠ d) = [] :=
  List.dropWhile_eq_nil_iff.2 (ne_of_not_mem h)

@[simp] lemma substringBefore_append (h : d ∉ a) : substringBefore d (a ++ d :: b) = a :=
  takeWhile_append_of_not_mem h

@[simp] lemma substringBefore_of_not_mem (h : d ∉ s) : substringBefore d s = s :=
  takeWhile_of_not_mem h

@[simp] lemma substringAfter_append (h : d ∉ a) (missing : Text) :
    substringAfter d missing (a ++ d :: b) = b := by
  rw [substringAfter, dropWhile_append_of_not_mem h]

@[simp] lemma substringAfter_of_not_mem (h : d ∉ s) (missing : Text) :
    substringAfter d missing s = missing := by
  rw [substringAfter, dropWhile_of_not_mem h]

@[simp] lemma substringAfterLast_append (h : d ∉ b) : substringAfterLast d (a ++ d :: b) = b := by
  have hreverse : (a ++ d :: b).reverse = b.reverse ++ d :: a.reverse := by simp
  rw [substringAfterLast, hreverse,
    takeWhile_append_of_not_mem (fun hmem => h (List.mem_reverse.1 hmem)), List.reverse_reverse]

@[simp] lemma substringBeforeLast_append (h : d ∉ b) :
    substringBeforeLast d (a ++ d :: b) = a := by
  have hreverse : (a ++ d :: b).reverse = b.reverse ++ d :: a.reverse := by simp
  rw [substringBeforeLast, hreverse,
    dropWhile_append_of_not_mem (fun hmem => h (List.mem_reverse.1 hmem))]
  exact List.reverse_reverse a

end Parts

lemma not_mem_substringAfterLast (d : Char) (s : Text) : d ∉ substringAfterLast d s := by
  intro h
  rw [substringAfterLast, List.mem_reverse] at h
  have hne := List.mem_takeWhile_imp h
  simp at hne

lemma isWhitespace_of_isAlphanum {c : Char} (h : c.isAlphanum = true) : isWhitespace c = false := by
  have hrange : 48 ≤ c.toNat ∧ c.toNat ≤ 122 := by
    change ((decide (c.val ≥ 'A'.val ∧ c.val ≤ 'Z'.val) ||
      (decide (c.val ≥ 'a'.val) && decide (c.val ≤ 'z'.val))) ||
      (decide (c.val ≥ '0'.val) && decide (c.val ≤ '9'.val))) = true at h
    simp only [Bool.or_eq_true, Bool.and_eq_true, decide_eq_true_eq, ge_iff_le,
      UInt32.le_iff_toNat_le] at h
    rw [Char.toNat]
    have h0 : '0'.val.toNat = 48 := rfl
    have h9 : '9'.val.toNat = 57 := rfl
    have hA : 'A'.val.toNat = 65 := rfl
    have hZ : 'Z'.val.toNat = 90 := rfl
    have ha : 'a'.val.toNat = 97 := rfl
    have hz : 'z'.val.toNat = 122 := rfl
    omega
  simp only [isWhitespace, Bool.or_eq_false_iff, Bool.and_eq_false_iff, decide_eq_false_iff_not,
    beq_eq_false_iff_ne]
  omega

lemma trim_of_forall {s : Text} (h : ∀ c ∈ s, isWhitespace c = false) : trim s = s := by
  have hdrop : ∀ s : Text, (∀ c ∈ s, isWhitespace c = false) → s.dropWhile isWhitespace = s := by
    intro s hs
    cases s with
    | nil => rfl
    | cons c s =>
      exact List.dropWhile_cons_of_neg (by rw [hs c List.mem_cons_self]; exact Bool.false_ne_true)
  rw [trim, hdrop s h, hdrop s.reverse fun c hc => h c (List.mem_reverse.1 hc),
    List.reverse_reverse]

lemma utf16Length_of_forall {s : Text} (h : ∀ c ∈ s, c.toNat < 0x10000) :
    utf16Length s = s.length := by
  have hmap : (s.map fun c => if c.toNat < 0x10000 then 1 else 2) = s.map fun _ => 1 :=
    List.map_congr_left fun c hc => if_pos (h c hc)
  rw [utf16Length, hmap]
  simp

lemma toLower_toNat (c : Char) :
    c.toLower.toNat = if 65 ≤ c.toNat ∧ c.toNat ≤ 90 then c.toNat + 32 else c.toNat := by
  have hiff : (c.val ≥ 'A'.val ∧ c.val ≤ 'Z'.val) ↔ 65 ≤ c.toNat ∧ c.toNat ≤ 90 := Iff.rfl
  by_cases h : c.val ≥ 'A'.val ∧ c.val ≤ 'Z'.val
  · have hc := hiff.1 h
    show Char.toNat (dite (c.val ≥ 'A'.val ∧ c.val ≤ 'Z'.val) _ _) = _
    rw [dif_pos h, if_pos hc]
    show (c.val + 32).toNat = c.val.toNat + 32
    rw [UInt32.toNat_add]
    show (c.toNat + 32) % 2 ^ 32 = c.toNat + 32
    omega
  · show Char.toNat (dite (c.val ≥ 'A'.val ∧ c.val ≤ 'Z'.val) _ _) = _
    rw [dif_neg h, if_neg fun hc => h (hiff.2 hc)]

lemma not_mem_of_map_toLower {d : Char} {s : Text} (hd : d.toLower = d)
    (h : d ∉ s.map Char.toLower) : d ∉ s := by
  intro hmem
  exact h (List.mem_map.2 ⟨d, hmem, hd⟩)

lemma natVal_decimal (t : CharTables) (n : ℕ) : natVal t (decimal n) = some n := by
  have hfold : ∀ n, (decimal n).foldl
      (fun acc c => acc.bind fun m => (t.digit 10 c).map (m * 10 + ·)) (some 0) = some n := by
    intro n
    induction n using Nat.strongRecOn with
    | ind n ih =>
      have hdigit : ∀ d < 10, t.digit 10 d.digitChar = some d := by
        intro d hd
        rw [t.digit_ten _ (by revert d; decide)]
        revert d
        decide
      by_cases hn : n < 10
      · rw [decimal, Nat.toDigits_of_lt_base hn, List.foldl_cons, List.foldl_nil,
          Option.bind_some, hdigit n hn]
        simp
      · rw [decimal, Nat.toDigits_of_base_le (by decide) (by omega), List.foldl_concat]
        have ih := ih (n / 10) (by omega)
        rw [decimal] at ih
        rw [ih, Option.bind_some, hdigit _ (Nat.mod_lt n (by decide)), Option.map_some]
        congr 1
        omega
  rw [natVal, if_neg (by exact Nat.toDigits_ne_nil)]
  exact hfold n

/-- **An integer is read back** from its decimal numeral. -/
lemma toIntOrNull_decimalInt (t : CharTables) {i : ℤ} (hlo : -2 ^ 31 ≤ i) (hhi : i < 2 ^ 31) :
    toIntOrNull t (decimalInt i) = some i := by
  cases i with
  | ofNat n =>
    have hval := natVal_decimal t n
    show toIntOrNull t (decimal n) = some (n : ℤ)
    obtain ⟨c, s, hcs⟩ := List.exists_cons_of_ne_nil (l := decimal n) Nat.toDigits_ne_nil
    have hc : c.isDigit = true :=
      Nat.isDigit_of_mem_toDigits (by decide) (by decide) (hcs ▸ List.mem_cons_self)
    have hsign : ¬ c.toNat < '0'.toNat := by
      simp only [Char.isDigit, Bool.and_eq_true, decide_eq_true_eq] at hc
      exact Nat.not_lt.2 hc.1
    rw [hcs] at hval ⊢
    rw [toIntOrNull, toIntegerOrNull, if_neg hsign, hval, Option.bind_some]
    exact if_pos (by simp at hhi; omega)
  | negSucc n =>
    rw [decimalInt, toIntOrNull, toIntegerOrNull, if_pos (by decide), if_pos rfl,
      natVal_decimal t (n + 1),
      Option.bind_some, if_pos (by omega)]
    rfl

lemma toIntOrNull_decimal (t : CharTables) {n : ℕ} (h : n < 2 ^ 31) :
    toIntOrNull t (decimal n) = some (n : ℤ) :=
  toIntOrNull_decimalInt t (i := n) (by omega) (by exact_mod_cast h)

end Text

/-! ## Parts between separators -/

/-- What stands before a separator, and what after it if it is there. -/
def cut (d : Char) (s : Text) : Text × Option Text :=
  (s.takeWhile (· ≠ d),
    match s.dropWhile (· ≠ d) with
    | [] => none
    | _ :: rest => some rest)

/-- `split(d, limit)` for a positive limit: at most `limit` parts, the last one with all that
remains. -/
def splitLimit (d : Char) : ℕ → Text → List Text
  | 0, s => [s]
  | 1, s => [s]
  | limit + 2, s =>
    match cut d s with
    | (part, none) => [part]
    | (part, some rest) => part :: splitLimit d (limit + 1) rest

section Cut

variable {d : Char} {a b s : Text}

lemma cut_append (h : d ∉ a) : cut d (a ++ d :: b) = (a, some b) := by
  rw [cut, Text.takeWhile_append_of_not_mem h, Text.dropWhile_append_of_not_mem h]

lemma cut_of_not_mem (h : d ∉ s) : cut d s = (s, none) := by
  rw [cut, Text.takeWhile_of_not_mem h, Text.dropWhile_of_not_mem h]

lemma cut_append_left (h : d ∉ a) : cut d (a ++ b) = (a ++ (cut d b).1, (cut d b).2) := by
  rw [cut, cut, List.takeWhile_append_of_pos (p := (· ≠ d)) (Text.ne_of_not_mem h),
    List.dropWhile_append_of_pos (p := (· ≠ d)) (Text.ne_of_not_mem h)]

lemma splitLimit_append (h : d ∉ a) (limit : ℕ) :
    splitLimit d (limit + 2) (a ++ d :: b) = a :: splitLimit d (limit + 1) b := by
  rw [splitLimit, cut_append h]

def follow (d : Char) (part : Option Text) : Text := part.elim [] (d :: ·)

lemma cut_follow (h : d ∉ a) (part : Option Text) : cut d (a ++ follow d part) = (a, part) := by
  cases part with
  | none => rw [follow, Option.elim_none, List.append_nil, cut_of_not_mem h]
  | some b => exact cut_append h

end Cut

end OlcRtc
