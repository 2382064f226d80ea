import Mathlib.Algebra.Group.Nat.Defs
import Mathlib.Data.List.Basic
import Mathlib.Tactic.Common

/-!
# Hexadecimal numbers

`hexPut k n` are the last `k` hexadecimal digits of `n`, most significant first, and `hexGet` reads
digits of either case back.  `encodeHex` writes a string of bytes, two digits each, and `decodeHex`
reads it.
-/

namespace OlcRtc

def hexDigit (n : ℕ) : Char := if n < 10 then Char.ofNat (48 + n) else Char.ofNat (87 + n)

def hexVal (c : Char) : Option ℕ :=
  if 48 ≤ c.toNat ∧ c.toNat ≤ 57 then some (c.toNat - 48)
  else if 97 ≤ c.toNat ∧ c.toNat ≤ 102 then some (c.toNat - 87)
  else if 65 ≤ c.toNat ∧ c.toNat ≤ 70 then some (c.toNat - 55)
  else none

/-- The last `k` digits. -/
def hexPut : ℕ → ℕ → List Char
  | 0, _ => []
  | k + 1, n => hexPut k (n / 16) ++ [hexDigit (n % 16)]

def hexGet (digits : List Char) : Option ℕ :=
  digits.foldl (fun acc c => acc.bind fun n => (hexVal c).map (n * 16 + ·)) (some 0)

def encodeHex (bytes : List UInt8) : List Char := bytes.flatMap fun byte => hexPut 2 byte.toNat

def decodeHex : List Char → Option (List UInt8)
  | [] => some []
  | [_] => none
  | a :: b :: rest =>
    match hexVal a, hexVal b, decodeHex rest with
    | some x, some y, some bytes => some (UInt8.ofNat (x * 16 + y) :: bytes)
    | _, _, _ => none

lemma hexVal_hexDigit : ∀ n < 16, hexVal (hexDigit n) = some n := by decide

/-- **A number is read back** from enough digits. -/
lemma hexGet_hexPut (k : ℕ) : ∀ {n : ℕ}, n < 16 ^ k → hexGet (hexPut k n) = some n := by
  induction k with
  | zero =>
    intro n h
    obtain rfl : n = 0 := by simpa using h
    rfl
  | succ k ih =>
    intro n h
    have hdiv : n / 16 < 16 ^ k := by
      rw [Nat.pow_succ] at h
      omega
    have ih := ih hdiv
    unfold hexGet at ih ⊢
    rw [hexPut, List.foldl_concat, ih, hexVal_hexDigit _ (Nat.mod_lt n (by decide))]
    simp only [Option.bind_some, Option.map_some, Option.some.injEq]
    omega

/-- **Bytes are read back.** -/
lemma decodeHex_encodeHex : ∀ bytes : List UInt8, decodeHex (encodeHex bytes) = some bytes
  | [] => rfl
  | byte :: bytes => by
    have hbyte := byte.toNat_lt
    have hdigits : encodeHex (byte :: bytes)
        = hexDigit (byte.toNat / 16 % 16) :: hexDigit (byte.toNat % 16) :: encodeHex bytes := rfl
    rw [hdigits, decodeHex, hexVal_hexDigit _ (Nat.mod_lt _ (by decide)),
      hexVal_hexDigit _ (Nat.mod_lt _ (by decide)), decodeHex_encodeHex bytes]
    have hvalue : byte.toNat / 16 % 16 * 16 + byte.toNat % 16 = byte.toNat := by omega
    dsimp only
    rw [hvalue, UInt8.ofNat_toNat]

lemma length_encodeHex (bytes : List UInt8) : (encodeHex bytes).length = 2 * bytes.length := by
  induction bytes with
  | nil => rfl
  | cons byte bytes ih =>
    rw [encodeHex, List.flatMap_cons, List.length_append]
    show 2 + (encodeHex bytes).length = 2 * (bytes.length + 1)
    omega

lemma exists_hexDigit_of_mem {bytes : List UInt8} {c : Char} (h : c ∈ encodeHex bytes) :
    ∃ n < 16, c = hexDigit n := by
  obtain ⟨byte, -, hc⟩ := List.mem_flatMap.1 h
  have hdigits : hexPut 2 byte.toNat
      = [hexDigit (byte.toNat / 16 % 16), hexDigit (byte.toNat % 16)] := rfl
  rw [hdigits, List.mem_cons, List.mem_singleton] at hc
  rcases hc with rfl | rfl
  · exact ⟨_, Nat.mod_lt _ (by decide), rfl⟩
  · exact ⟨_, Nat.mod_lt _ (by decide), rfl⟩

lemma encodeHex_injective : Function.Injective encodeHex := by
  intro a b h
  have hdecoded := congrArg decodeHex h
  rw [decodeHex_encodeHex, decodeHex_encodeHex] at hdecoded
  exact Option.some.inj hdecoded

end OlcRtc
