import OlcRtc.Lib.Bytes

/-!
# Start codes and emulation prevention

In a byte stream of H.264 a unit begins with a start code, `00 00 01` or `00 00 00 01`.  So that
none occurs inside a unit, a byte `03` is put in after two zeros whenever a byte up to `03` follows.

`escape` puts the bytes in and `unescape` takes them out; both carry the number of zeros that were
just passed.  `Clean` is what a reader of the stream relies on.

* **`unescape_escape`**: nothing is lost.
* **`clean_escape`**: an escaped unit that ends in something other than a zero is clean.
* **`Clean.startCode_append`**: behind clean bytes the next start code is found where it stands.
-/

namespace OlcRtc

def zeros (n : ℕ) (b : UInt8) : ℕ := if b = 0 then n + 1 else 0

/-- The bytes with `03` put in, after `n` zeros. -/
def escape : ℕ → Bytes → Bytes
  | _, [] => []
  | n, b :: rest =>
    if 2 ≤ n ∧ b ≤ 3 then 3 :: b :: escape (zeros 0 b) rest
    else b :: escape (zeros n b) rest

/-- The bytes with every `03` after two zeros taken out. -/
def unescape : ℕ → Bytes → Bytes
  | _, [] => []
  | n, b :: rest =>
    if 2 ≤ n ∧ b = 3 then unescape 0 rest else b :: unescape (zeros n b) rest

/-- **Nothing is lost.** -/
lemma unescape_escape (n : ℕ) (data : Bytes) : unescape n (escape n data) = data := by
  induction data generalizing n with
  | nil => rfl
  | cons b rest ih =>
    rw [escape]
    by_cases hrisk : 2 ≤ n ∧ b ≤ 3
    · -- the byte put in goes, and the one behind it stays even if it is `03`
      rw [if_pos hrisk, unescape, if_pos ⟨hrisk.1, rfl⟩, unescape, if_neg (by omega), ih]
    · have hkeep : ¬(2 ≤ n ∧ b = 3) := fun h => hrisk ⟨h.1, h.2 ▸ UInt8.le_refl _⟩
      rw [if_neg hrisk, unescape, if_neg hkeep, ih]

/-- After `n` zeros, no two zeros are followed by a byte below `03`, and the last byte is not
zero. -/
def Clean : ℕ → Bytes → Prop
  | n, [] => n = 0
  | n, b :: rest => (2 ≤ n → 3 ≤ b) ∧ Clean (zeros n b) rest

instance decidableClean : ∀ (n : ℕ) (data : Bytes), Decidable (Clean n data)
  | n, [] => inferInstanceAs (Decidable (n = 0))
  | n, b :: rest =>
    have := decidableClean (zeros n b) rest
    inferInstanceAs (Decidable ((2 ≤ n → 3 ≤ b) ∧ Clean (zeros n b) rest))

/-- **Escaping cleans**, whatever the bytes are before the last one. -/
lemma clean_escape (data : Bytes) {last : UInt8} (hlast : 3 < last) :
    ∀ n, Clean n (escape n (data ++ [last])) := by
  induction data with
  | nil =>
    intro n
    have hzero : last ≠ 0 := by
      rintro rfl
      exact absurd hlast (by decide)
    rw [List.nil_append, escape, if_neg fun h => absurd h.2 (UInt8.not_le.2 hlast)]
    exact ⟨fun _ => UInt8.le_of_lt hlast, if_neg hzero⟩
  | cons b data ih =>
    intro n
    rw [List.cons_append, escape]
    by_cases hrisk : 2 ≤ n ∧ b ≤ 3
    · rw [if_pos hrisk]
      refine ⟨fun _ => UInt8.le_refl _, ?_⟩
      exact ⟨fun h => absurd h (show ¬2 ≤ 0 by decide), ih _⟩
    · rw [if_neg hrisk]
      refine ⟨fun hn => ?_, ih _⟩
      exact UInt8.le_of_lt (UInt8.not_le.1 fun hb => hrisk ⟨hn, hb⟩)

/-! ## Finding start codes -/

/-- Where the first start code is, and how long it is. -/
def startCode : Bytes → Option (ℕ × ℕ)
  | [] => none
  | b :: rest =>
    if [0, 0, 1] <+: b :: rest then some (0, 3)
    else if [0, 0, 0, 1] <+: b :: rest then some (0, 4)
    else (startCode rest).map fun found => (found.1 + 1, found.2)

lemma Clean.not_prefix {n : ℕ} {data : Bytes} (h : Clean n data) (hne : data ≠ []) {c : UInt8}
    (hc : c < 3) (rest : Bytes) : ¬[0, 0, c] <+: data ++ rest := by
  -- the three bytes lie within `data`, since it does not end in a zero
  intro hhere
  match data, h with
  | [], _ => exact hne rfl
  | [b], h =>
    rw [List.singleton_append, List.cons_prefix_cons] at hhere
    rw [← hhere.1] at h
    exact absurd h.2 (Nat.succ_ne_zero n)
  | [b, b'], h =>
    simp only [List.cons_append, List.cons_prefix_cons] at hhere
    rw [← hhere.1, ← hhere.2.1] at h
    exact absurd h.2.2 (Nat.succ_ne_zero (n + 1))
  | b :: b' :: b'' :: data, h =>
    simp only [List.cons_append, List.cons_prefix_cons] at hhere
    rw [← hhere.1, ← hhere.2.1, ← hhere.2.2.1] at h
    exact absurd (h.2.2.1 (Nat.le_add_left 2 n)) (UInt8.not_le.2 hc)

lemma Clean.not_infix {n : ℕ} {data : Bytes} (h : Clean n data) {c : UInt8} (hc : c < 3) :
    ¬[0, 0, c] <:+: data := by
  induction data generalizing n with
  | nil => simp
  | cons b data ih =>
    rw [List.infix_cons_iff]
    rintro (hhere | hlater)
    · have hnot := h.not_prefix (List.cons_ne_nil b data) hc []
      rw [List.append_nil] at hnot
      exact hnot hhere
    · exact ih h.2 hlater

/-- **No start code begins in clean bytes.** -/
lemma Clean.startCode_append {n : ℕ} {data : Bytes} (h : Clean n data) (rest : Bytes) :
    startCode (data ++ rest) =
      (startCode rest).map fun found => (data.length + found.1, found.2) := by
  induction data generalizing n with
  | nil => simp
  | cons b data ih =>
    have hshort : ¬[0, 0, 1] <+: b :: (data ++ rest) :=
      h.not_prefix (List.cons_ne_nil b data) (by decide) rest
    have hlong : ¬[0, 0, 0, 1] <+: b :: (data ++ rest) := fun hhere =>
      h.not_prefix (List.cons_ne_nil b data) (by decide : (0 : UInt8) < 3) rest
        ((List.prefix_append [0, 0, 0] [1]).trans hhere)
    rw [List.cons_append, startCode, if_neg hshort, if_neg hlong, ih h.2, Option.map_map]
    congr 1
    funext found
    simp only [Function.comp, List.length_cons]
    rw [Nat.add_right_comm]

lemma startCode_le {data : Bytes} {pos len : ℕ} (h : startCode data = some (pos, len)) :
    pos + len ≤ data.length ∧ 3 ≤ len := by
  induction data generalizing pos with
  | nil => cases h
  | cons b rest ih =>
    rw [startCode] at h
    split_ifs at h with hshort hlong
    · grind
    · grind
    · obtain ⟨⟨pos', len'⟩, hfound, hsame⟩ := Option.map_eq_some_iff.1 h
      cases hsame
      obtain ⟨hle, hlen⟩ := ih hfound
      rw [List.length_cons]
      exact ⟨by omega, hlen⟩

end OlcRtc
