import Mathlib.Data.List.Basic
import Mathlib.Tactic.Common

/-!
# Positions in a concatenation of blocks

A stream that is cut into blocks numbers its elements in two ways: by their place in the whole
stream and by a block and a place in it.  `At blocks i k j` says that the two agree, and the lemmas
are what a reader that only sees stream positions needs: every position has a block (`exists_at`),
only one (`At.unique`), and the next position is the next place of the same block unless the block
is over (`At.succ`).
-/

namespace OlcRtc

variable {α : Type*} {blocks : List (List α)} {i i' j j' k k' : ℕ} {block : List α}

/-- Where block `k` begins. -/
def blockStart (blocks : List (List α)) (k : ℕ) : ℕ := (blocks.take k).flatten.length

/-- Element `i` of the stream is element `j` of block `k`. -/
structure At (blocks : List (List α)) (i k j : ℕ) : Prop where
  index : i = blockStart blocks k + j
  inside : ∃ block, blocks[k]? = some block ∧ j < block.length

lemma blockStart_succ (h : blocks[k]? = some block) :
    blockStart blocks (k + 1) = blockStart blocks k + block.length := by
  simp [blockStart, List.take_add_one, h]

lemma blockStart_mono (h : k ≤ k') : blockStart blocks k ≤ blockStart blocks k' := by
  obtain ⟨rest, hrest⟩ := List.take_prefix_take_left h (l := blocks)
  rw [blockStart, blockStart, ← hrest, List.flatten_append, List.length_append]
  omega

namespace At

lemma start_le (h : At blocks i k j) : blockStart blocks k ≤ i := by
  have := h.index
  omega

lemma lt_end (h : At blocks i k j) : i < blockStart blocks (k + 1) := by
  obtain ⟨block, hk, hj⟩ := h.inside
  rw [blockStart_succ hk, h.index]
  omega

lemma block_le (h : At blocks i k j) (h' : At blocks i' k' j') (hle : i ≤ i') : k ≤ k' := by
  by_contra hlt
  have hmono : blockStart blocks (k' + 1) ≤ blockStart blocks k := blockStart_mono (by omega)
  have := h.start_le
  have := h'.lt_end
  omega

lemma unique (h : At blocks i k j) (h' : At blocks i k' j') : k = k' ∧ j = j' := by
  have hk : k = k' :=
    Nat.le_antisymm (h.block_le h' (Nat.le_refl i)) (h'.block_le h (Nat.le_refl i))
  subst hk
  have := h.index
  have := h'.index
  exact ⟨rfl, by omega⟩

lemma succ (h : At blocks i k j) (hk : blocks[k]? = some block) (hj : j + 1 < block.length) :
    At blocks (i + 1) k (j + 1) :=
  ⟨by rw [h.index]; rfl, block, hk, hj⟩

lemma getElem? (h : At blocks i k j) (hk : blocks[k]? = some block) :
    blocks.flatten[i]? = block[j]? := by
  obtain ⟨block', hk', hj⟩ := h.inside
  obtain rfl : block = block' := Option.some.inj (hk.symm.trans hk')
  have hlen : k < blocks.length := (List.getElem?_eq_some_iff.mp hk).1
  have hdrop : blocks.drop k = block :: blocks.drop (k + 1) := by
    rw [List.drop_eq_getElem_cons hlen, (List.getElem?_eq_some_iff.mp hk).2]
  have hsplit : blocks.flatten = (blocks.take k).flatten ++ (block ++
      (blocks.drop (k + 1)).flatten) := by
    rw [← List.flatten_cons, ← hdrop, ← List.flatten_append, List.take_append_drop]
  rw [hsplit, h.index, blockStart, List.getElem?_append_right (by omega), Nat.add_sub_cancel_left,
    List.getElem?_append_left hj]

end At

lemma exists_at : ∀ (blocks : List (List α)) (i : ℕ), i < blocks.flatten.length →
    ∃ k j, At blocks i k j
  | [], i, h => absurd h (by simp)
  | block :: blocks, i, h => by
    by_cases hi : i < block.length
    · exact ⟨0, i, by simp [blockStart], block, rfl, hi⟩
    · rw [List.flatten_cons, List.length_append] at h
      obtain ⟨k, j, hidx, block', hk, hj⟩ := exists_at blocks (i - block.length)
        (by omega)
      refine ⟨k + 1, j, ?_, block', by simpa using hk, hj⟩
      simp only [blockStart, List.take_succ_cons, List.flatten_cons, List.length_append]
        at hidx ⊢
      omega

end OlcRtc
