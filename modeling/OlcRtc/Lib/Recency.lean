import Mathlib.Data.List.Dedup
import Mathlib.Data.List.Nodup

/-!
# Bounded least-recently-used order

A cache of capacity `k` that moves every touched key to the front and, when a new key arrives and
the cache is full, drops the back.  `touch` is one such move.  `recency` is what the order is
*for*: the distinct keys of a log, last touched first.  **`touch_take_recency`** says that the
cache always holds exactly the first `k` keys of that order, whatever the log was — so an evicted
key that comes back is treated like one never seen.
-/

namespace OlcRtc

variable {α : Type*} [DecidableEq α]

/-- One use of `a` in a cache of capacity `k`, front first. -/
def touch (k : ℕ) (l : List α) (a : α) : List α :=
  if a ∈ l then a :: l.erase a
  else a :: (if k ≤ l.length then l.dropLast else l)

/-- The distinct keys of a log (oldest entry first), most recently used first. -/
def recency (log : List α) : List α := log.dedup.reverse

lemma dedup_concat (log : List α) (a : α) :
    (log ++ [a]).dedup = log.dedup.erase a ++ [a] := by
  induction log with
  | nil => simp
  | cons b log ih =>
    by_cases hb : b ∈ log
    · rw [List.cons_append, List.dedup_cons_of_mem (by simp [hb]), ih, List.dedup_cons_of_mem hb]
    · rw [List.cons_append, List.dedup_cons_of_notMem hb]
      by_cases hba : b = a
      · subst hba
        rw [List.dedup_cons_of_mem (by simp), ih, List.erase_cons_head,
          List.erase_of_not_mem (by simpa using hb)]
      · rw [List.dedup_cons_of_notMem (by simp [hb, hba]), ih,
          List.erase_cons_tail (by simpa using hba), List.cons_append]

lemma recency_concat (log : List α) (a : α) :
    recency (log ++ [a]) = a :: (recency log).erase a := by
  have hnodup : log.dedup.Nodup := List.nodup_dedup log
  rw [recency, dedup_concat, recency, List.reverse_append, List.reverse_singleton,
    List.singleton_append, hnodup.erase_eq_filter, (List.nodup_reverse.mpr hnodup).erase_eq_filter,
    List.filter_reverse]

lemma mem_recency {log : List α} {a : α} : a ∈ recency log ↔ a ∈ log := by
  simp [recency]

lemma take_erase_of_notMem {l : List α} {a : α} {n : ℕ} (h : a ∉ l.take n) :
    (l.erase a).take n = l.take n := by
  induction l generalizing n with
  | nil => rfl
  | cons b l ih =>
    cases n with
    | zero => simp
    | succ n =>
      grind

lemma take_erase_of_mem {l : List α} {a : α} {n : ℕ} (h : a ∈ l.take (n + 1)) :
    (l.erase a).take n = (l.take (n + 1)).erase a := by
  induction l generalizing n with
  | nil => simp at h
  | cons b l ih =>
    by_cases hab : b = a
    · subst hab
      simp
    · rw [List.take_succ_cons] at h ⊢
      rw [List.erase_cons_tail (by simpa using hab), List.erase_cons_tail (by simpa using hab)]
      have ha : a ∈ l.take n := by
        grind
      cases n with
      | zero => simp at ha
      | succ n => rw [List.take_succ_cons, ih ha]

/-- **A bounded LRU cache holds the `k` most recently used keys, in order.** -/
theorem touch_take_recency {k : ℕ} (hk : 0 < k) (log : List α) (a : α) :
    touch k ((recency log).take k) a = (recency (log ++ [a])).take k := by
  obtain ⟨n, rfl⟩ : ∃ n, k = n + 1 := ⟨k - 1, by omega⟩
  rw [recency_concat, List.take_succ_cons, touch]
  split_ifs with hmem hfull
  · rw [take_erase_of_mem hmem]
  · -- the cache is full and `a` is not in it, so the back of the cache goes
    have hnot : a ∉ (recency log).take n := fun h =>
      hmem ((List.take_prefix_take_left (by omega)).subset h)
    rw [take_erase_of_notMem hnot, List.dropLast_eq_take, List.take_take]
    congr 2
    rw [List.length_take] at hfull ⊢
    omega
  · have hlen : (recency log).length ≤ n := by
      rw [List.length_take] at hfull
      omega
    rw [List.take_of_length_le (by omega)] at hmem ⊢
    rw [List.erase_of_not_mem hmem, List.take_of_length_le hlen]

end OlcRtc
