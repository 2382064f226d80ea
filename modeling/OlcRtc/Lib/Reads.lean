import OlcRtc.Lib.Bytes

/-!
# Reads that may be out of range

Go panics when an index or the bounds of a slice are out of range.  A function that reads through
`index` and `reslice` has the value `none` then, so that a proof that it has a value is a proof
that it never reads out of bounds.

A `ConnReader` takes bytes off a connection.  `readFull` reads a fixed number of them or fails, as
`io.ReadFull` does; `readFull_append` says that it takes a field of that length and leaves
everything behind it.
-/

namespace OlcRtc

/-- `data[i]`. -/
def index (data : Bytes) (i : ℕ) : Option UInt8 := data[i]?

/-- `data[lo:hi]`. -/
def reslice (data : Bytes) (lo hi : ℕ) : Option Bytes :=
  if lo ≤ hi ∧ hi ≤ data.length then some (slice data lo hi) else none

lemma index_of_lt {data : Bytes} {i : ℕ} (h : i < data.length) :
    index data i = some (data.getD i 0) := by
  rw [index, List.getD_eq_getElem?_getD, List.getElem?_eq_getElem h]
  rfl

lemma reslice_of_le {data : Bytes} {lo hi : ℕ} (hlo : lo ≤ hi) (hhi : hi ≤ data.length) :
    reslice data lo hi = some (slice data lo hi) :=
  if_pos ⟨hlo, hhi⟩

lemma read_bind {α β : Type} (a : α) (f : α → Option β) : (some a >>= f) = f a := rfl

lemma index_append (before after : Bytes) (b : UInt8) :
    index (before ++ b :: after) before.length = some b := by
  simp [index]

lemma reslice_append (before field after : Bytes) :
    reslice (before ++ (field ++ after)) before.length (before.length + field.length) =
      some field := by
  rw [reslice_of_le (by omega) (by simp only [List.length_append]; omega),
    slice_append rfl (by omega)]

/-! ## Reading from a connection -/

/-- A computation that takes bytes off a connection and may fail with a message. -/
abbrev ConnReader := StateT Bytes (Except String)

/-- `io.ReadFull` of `n` bytes, its error wrapped in a message. -/
def readFull (message : String) (n : ℕ) : ConnReader Bytes := fun conn =>
  if n ≤ conn.length then .ok (conn.take n, conn.drop n)
  else if conn = [] then .error (message ++ ": EOF")
  else .error (message ++ ": unexpected EOF")

lemma readFull_append (message : String) {n : ℕ} (field rest : Bytes) (hlen : field.length = n) :
    readFull message n (field ++ rest) = .ok (field, rest) := by
  have hle : n ≤ (field ++ rest).length := by
    rw [List.length_append, hlen]
    omega
  rw [readFull, if_pos hle, List.take_left' hlen, List.drop_left' hlen]

lemma ConnReader.bind_of_ok {α β : Type} {first : ConnReader α} {conn rest : Bytes} {a : α}
    (h : first conn = .ok (a, rest)) (next : α → ConnReader β) :
    (first >>= next) conn = next a rest := by
  show (first conn >>= fun r => next r.1 r.2) = next a rest
  rw [h]
  rfl

end OlcRtc
