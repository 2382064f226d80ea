import Mathlib.Data.Nat.Digits.Defs
import Mathlib.Tactic.Ring

/-!
# Byte strings, big-endian integers and checksums

Byte strings are lists.  `bePut k n` writes the low `k` bytes of `n`, most significant first, and
`beGet` reads a whole string back; the two are inverse up to truncation (`beGet_bePut`), so a
fixed-width field that holds its value survives a trip over the wire.  `slice` cuts a field out by
its offsets, and `crc32` and `crc32c` are the IEEE and Castagnoli checksums, bit by bit.
-/

namespace OlcRtc

abbrev Bytes := List UInt8

instance instLawfulBEqBytes : LawfulBEq Bytes := inferInstance

/-- The bytes of an ASCII string. -/
def ascii (s : String) : Bytes := s.toList.map Char.toUInt8

/-- The `k` low bytes of `n`, most significant first. -/
def bePut : ℕ → ℕ → Bytes
  | 0, _ => []
  | k + 1, n => UInt8.ofNat (n / 256 ^ k) :: bePut k n

def beGet : Bytes → ℕ
  | [] => 0
  | b :: bs => b.toNat * 256 ^ bs.length + beGet bs

@[simp] lemma length_bePut : ∀ k n : ℕ, (bePut k n).length = k
  | 0, _ => rfl
  | k + 1, n => by rw [bePut, List.length_cons, length_bePut k n]

lemma beGet_bePut_mod : ∀ k n : ℕ, beGet (bePut k n) = n % 256 ^ k
  | 0, n => by simp [bePut, beGet, Nat.mod_one]
  | k + 1, n => by
    have hbyte : (UInt8.ofNat (n / 256 ^ k)).toNat = n / 256 ^ k % 256 := by
      simp [UInt8.toNat_ofNat']
    rw [bePut, beGet, length_bePut, beGet_bePut_mod k n, hbyte, Nat.pow_succ, Nat.mod_mul]
    ring

lemma beGet_bePut {k n : ℕ} (h : n < 256 ^ k) : beGet (bePut k n) = n := by
  rw [beGet_bePut_mod, Nat.mod_eq_of_lt h]

lemma bePut_inj {k m n : ℕ} (hm : m < 256 ^ k) (hn : n < 256 ^ k)
    (h : bePut k m = bePut k n) : m = n := by
  rw [← beGet_bePut hm, ← beGet_bePut hn, h]

/-- Bytes `lo` to `hi` of a string, `hi` excluded. -/
def slice (data : Bytes) (lo hi : ℕ) : Bytes := (data.drop lo).take (hi - lo)

lemma slice_append {before field : Bytes} {lo hi : ℕ} (hlo : before.length = lo)
    (hhi : field.length = hi - lo) (after : Bytes) :
    slice (before ++ (field ++ after)) lo hi = field := by
  rw [slice, List.drop_left' hlo, List.take_left' hhi]

/-! ## Checksums -/

def crcBit (poly c : UInt32) : UInt32 :=
  if c &&& 1 = 1 then (c >>> 1) ^^^ poly else c >>> 1

def crcByte (poly c : UInt32) (b : UInt8) : UInt32 := (crcBit poly)^[8] (c ^^^ b.toUInt32)

def crc (poly : UInt32) (data : Bytes) : UInt32 :=
  data.foldl (crcByte poly) 0xFFFFFFFF ^^^ 0xFFFFFFFF

/-- `crc32.ChecksumIEEE`. -/
def crc32 (data : Bytes) : UInt32 := crc 0xEDB88320 data

/-- `crc32.Checksum` with the Castagnoli table. -/
def crc32c (data : Bytes) : UInt32 := crc 0x82F63B78 data

example : crc32 (ascii "123456789") = 0xCBF43926 := by decide +kernel

example : crc32c (ascii "123456789") = 0xE3069283 := by decide +kernel

end OlcRtc
