import Mathlib.Data.Finset.Card
import Mathlib.Data.List.Basic
import Mathlib.Order.Interval.Finset.Nat

/-!
# Few numbers are near a given one

A window of width `w` around `m` holds at most `2 * (w - 1)` numbers other than `m`.  That bounds
what can have happened "since": if every later entry of a log was within `w` of what came before
it, then an entry within `w` of the newest one is among the last `2 * w - 1` (`mem_take_of_near`).
-/

namespace OlcRtc

variable {α : Type*} {key : α → ℕ} {w : ℕ}

lemma length_le_of_near (hinj : Function.Injective key) {l : List α} (hnodup : l.Nodup) (m : ℕ)
    (h : ∀ y ∈ l, key y ≠ m ∧ m < key y + w ∧ key y < m + w) : l.length ≤ 2 * (w - 1) := by
  have hsub : (l.map key).toFinset ⊆ (Finset.Ico (m + 1 - w) (m + w)).erase m := by
    intro k hk
    obtain ⟨y, hy, rfl⟩ := List.mem_map.mp (List.mem_toFinset.mp hk)
    obtain ⟨hne, hlo, hhi⟩ := h y hy
    exact Finset.mem_erase.mpr ⟨hne, Finset.mem_Ico.mpr ⟨by omega, hhi⟩⟩
  have hcard := Finset.card_le_card hsub
  rw [List.toFinset_card_of_nodup (hnodup.map hinj), List.length_map] at hcard
  refine hcard.trans ?_
  by_cases hw : w = 0
  · simp [hw]
  · rw [Finset.card_erase_of_mem (Finset.mem_Ico.mpr ⟨by omega, by omega⟩), Nat.card_Ico]
    omega

/-- **Recent entries.**  In a log without repetition, newest first, in which no entry is `w` or
more below an older one, whatever is less than `w` below the top is among the first
`2 * (w - 1) + 1` entries. -/
lemma mem_take_of_near (hinj : Function.Injective key) {log : List α} (hnodup : log.Nodup)
    (horder : log.Pairwise fun later earlier => key earlier < key later + w) {x : α} {top : ℕ}
    (hx : x ∈ log) (htop : ∀ y ∈ log, key y ≤ top) (hnear : top < key x + w) :
    x ∈ log.take (2 * (w - 1) + 1) := by
  obtain ⟨newer, older, rfl⟩ := List.append_of_mem hx
  have hlen : newer.length ≤ 2 * (w - 1) := by
    refine length_le_of_near hinj (List.Nodup.of_append_left hnodup) (key x)
      fun y hy => ⟨?_, ?_, ?_⟩
    · grind
    · exact (List.pairwise_append.mp horder).2.2 y hy x (by simp)
    · exact lt_of_le_of_lt (htop y (by simp [hy])) hnear
  rw [List.take_append, List.mem_append]
  refine Or.inr ?_
  obtain ⟨k, hk⟩ := Nat.exists_eq_succ_of_ne_zero
    (show 2 * (w - 1) + 1 - newer.length ≠ 0 by omega)
  rw [hk, List.take_succ_cons]
  exact List.mem_cons_self

end OlcRtc
