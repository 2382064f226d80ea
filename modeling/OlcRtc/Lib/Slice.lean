import Mathlib.Data.List.Basic

/-!
# Slices over reused storage

A Go slice is a length over a backing array that outlives it: `s[:0]` keeps the array and its old
bytes, and `append` writes over them as long as the capacity lasts.  `Slice` keeps both, so that
stale bytes are really there, and `content` is what a reader of the slice sees.  The lemmas say
that no operation lets a stale element through.

When `append` runs out of capacity it moves to a new array; how much larger Go makes that one is
its own business and nothing depends on it.
-/

namespace OlcRtc

/-- A slice: a prefix length over a backing array. -/
structure Slice (α : Type*) where
  storage : List α
  len : ℕ
  len_le : len ≤ storage.length

namespace Slice

variable {α : Type*}

def content (s : Slice α) : List α := s.storage.take s.len

/-- `cap(s)`. -/
def cap (s : Slice α) : ℕ := s.storage.length

@[simp] lemma length_content (s : Slice α) : s.content.length = s.len := by
  simp [content, s.len_le]

def nil : Slice α := ⟨[], 0, Nat.le_refl _⟩

/-- `make([]α, 0, cap)`. -/
def make [Inhabited α] (cap : ℕ) : Slice α := ⟨List.replicate cap default, 0, Nat.zero_le _⟩

/-- `s[:0]`. -/
def truncate (s : Slice α) : Slice α := ⟨s.storage, 0, Nat.zero_le _⟩

/-- `append(s, xs...)`. -/
def append (s : Slice α) (xs : List α) : Slice α :=
  if _ : s.len + xs.length ≤ s.storage.length then
    ⟨s.content ++ xs ++ s.storage.drop (s.len + xs.length), s.len + xs.length, by simp⟩
  else ⟨s.content ++ xs, s.len + xs.length, by simp⟩

/-- The slice `s` made `n` long: resliced if the capacity allows it, otherwise a new one. -/
def resize [Inhabited α] (s : Slice α) (n : ℕ) : Slice α :=
  if h : s.cap < n then ⟨List.replicate n default, n, by simp⟩
  else ⟨s.storage, n, Nat.not_lt.mp h⟩

/-- `copy(s, xs)`. -/
def copy (s : Slice α) (xs : List α) : Slice α where
  storage := xs.take s.len ++ s.storage.drop (min xs.length s.len)
  len := s.len
  len_le := by
    have := s.len_le
    simp only [List.length_append, List.length_take, List.length_drop]
    omega

/-- `copy(s[pos:], xs)`. -/
def copyAt (s : Slice α) (pos : ℕ) (xs : List α) : Slice α where
  storage := s.storage.take pos ++
    (xs.take (s.len - pos) ++ s.storage.drop (pos + min xs.length (s.len - pos)))
  len := s.len
  len_le := by
    have := s.len_le
    simp only [List.length_append, List.length_take, List.length_drop]
    omega

@[simp] lemma content_nil : (nil : Slice α).content = [] := rfl

@[simp] lemma content_make [Inhabited α] (cap : ℕ) : (make cap : Slice α).content = [] := rfl

@[simp] lemma content_truncate (s : Slice α) : s.truncate.content = [] := rfl

@[simp] lemma content_append (s : Slice α) (xs : List α) :
    (s.append xs).content = s.content ++ xs := by
  have hlen : (s.content ++ xs).length = s.len + xs.length := by simp
  unfold append
  split_ifs with hcap
  · show List.take (s.len + xs.length) _ = _
    rw [List.take_left' hlen]
  · show List.take (s.len + xs.length) _ = _
    rw [List.take_of_length_le (Nat.le_of_eq hlen)]

lemma len_resize [Inhabited α] (s : Slice α) (n : ℕ) : (s.resize n).len = n := by
  unfold resize
  split_ifs <;> rfl

lemma content_copy_resize [Inhabited α] (s : Slice α) (xs : List α) :
    ((s.resize xs.length).copy xs).content = xs := by
  have hlen : (s.resize xs.length).len = xs.length := len_resize s _
  show List.take (s.resize xs.length).len (List.take (s.resize xs.length).len xs ++ _) = xs
  rw [hlen, List.take_length, List.take_left]

lemma content_copy_copyAt [Inhabited α] (s : Slice α) (xs ys : List α) :
    (((s.resize (xs.length + ys.length)).copy xs).copyAt xs.length ys).content = xs ++ ys := by
  generalize hbuf : s.resize (xs.length + ys.length) = buf
  have hlen : buf.len = xs.length + ys.length := by rw [← hbuf, len_resize]
  have hxs : xs.take buf.len = xs := List.take_of_length_le (by omega)
  have hys : ys.take (buf.len - xs.length) = ys := List.take_of_length_le (by omega)
  show List.take buf.len (List.take xs.length (xs.take buf.len ++ _) ++
    (ys.take (buf.len - xs.length) ++ _)) = _
  rw [hxs, List.take_left, hys, ← List.append_assoc]
  exact List.take_left' (by rw [List.length_append, hlen])

end Slice

end OlcRtc
