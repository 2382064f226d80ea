import Mathlib.Data.List.AList
import Mathlib.Data.List.Perm.Basic

/-!
# Lists seen through a function

A list of threads or records is observed through a partial function `f` (`filterMap f`).  Writing
one entry changes the observation by at most one element.  Two observations that agree in length
entry by entry are equal only if they agree entry by entry (`flatMap_eq_iff`).  The last section
says which entries a list has after one was written or added, and how many a map has.
-/

namespace OlcRtc

variable {α β : Type*} {f : α → Option β}

lemma filterMap_set_of_eq {x a : α} :
    ∀ {l : List α} {i : ℕ}, l[i]? = some a → f x = f a →
      (l.set i x).filterMap f = l.filterMap f
  | [], _, h, _ => by simp at h
  | b :: l, 0, h, hx => by
    rw [List.getElem?_cons_zero, Option.some.injEq] at h
    subst h
    rw [List.set_cons_zero, List.filterMap_cons, List.filterMap_cons, hx]
  | b :: l, i + 1, h, hx => by
    rw [List.getElem?_cons_succ] at h
    rw [List.set_cons_succ, List.filterMap_cons, List.filterMap_cons, filterMap_set_of_eq h hx]

lemma filterMap_set_perm {x a : α} {y : β} :
    ∀ {l : List α} {i : ℕ}, l[i]? = some a → f a = none → f x = some y →
      ((l.set i x).filterMap f).Perm (y :: l.filterMap f)
  | [], _, h, _, _ => by simp at h
  | b :: l, 0, h, ha, hx => by
    rw [List.getElem?_cons_zero, Option.some.injEq] at h
    subst h
    rw [List.set_cons_zero, List.filterMap_cons, List.filterMap_cons, ha, hx]
  | b :: l, i + 1, h, ha, hx => by
    rw [List.getElem?_cons_succ] at h
    have ih := filterMap_set_perm h ha hx
    rw [List.set_cons_succ, List.filterMap_cons, List.filterMap_cons]
    cases hb : f b with
    | none => exact ih
    | some z => exact (ih.cons z).trans (List.Perm.swap y z _)

/-- Nothing is dropped or changed exactly if every element is mapped to itself. -/
lemma filterMap_eq_self_iff {g : α → Option α} :
    ∀ {l : List α}, l.filterMap g = l ↔ ∀ a ∈ l, g a = some a
  | [] => by simp
  | a :: l => by
    cases hg : g a with
    | none =>
      rw [List.filterMap_cons_none hg]
      refine iff_of_false (fun h => ?_) fun h => by simpa [hg] using h a List.mem_cons_self
      have hlen := List.length_filterMap_le g l
      rw [h, List.length_cons] at hlen
      omega
    | some b =>
      rw [List.filterMap_cons_some hg, List.cons.injEq, filterMap_eq_self_iff,
        List.forall_mem_cons, hg, Option.some.injEq]

lemma flatMap_eq_iff {g h : α → List β} :
    ∀ {l : List α}, (∀ a ∈ l, (g a).length = (h a).length) →
      (l.flatMap g = l.flatMap h ↔ ∀ a ∈ l, g a = h a)
  | [], _ => by simp
  | a :: l, hlen => by
    have ih := flatMap_eq_iff fun b hb => hlen b (List.mem_cons_of_mem a hb)
    rw [List.flatMap_cons, List.flatMap_cons, List.forall_mem_cons, ← ih]
    exact ⟨fun heq => List.append_inj heq (hlen a List.mem_cons_self),
      fun heq => by rw [heq.1, heq.2]⟩

/-! ## Entries of a list that has changed -/

lemma forall_mem_set {P : α → Prop} {l : List α} {i : ℕ} {a : α} (h : ∀ b ∈ l, P b) (ha : P a) :
    ∀ b ∈ l.set i a, P b := by
  intro b hb
  rcases List.mem_or_eq_of_mem_set hb with hb | rfl
  · exact h b hb
  · exact ha

lemma forall_mem_concat {P : α → Prop} {l : List α} {a : α} (h : ∀ b ∈ l, P b) (ha : P a) :
    ∀ b ∈ l ++ [a], P b :=
  List.forall_mem_append.2 ⟨h, List.forall_mem_singleton.2 ha⟩

lemma getElem?_set_cases {l : List α} {i j : ℕ} {a b : α} (h : (l.set i a)[j]? = some b) :
    (j = i ∧ b = a) ∨ (j ≠ i ∧ l[j]? = some b) := by
  by_cases hij : j = i
  · subst hij
    rw [List.getElem?_set_self'] at h
    obtain ⟨_, -, rfl⟩ := Option.map_eq_some_iff.1 h
    exact Or.inl ⟨rfl, rfl⟩
  · rw [List.getElem?_set_ne (Ne.symm hij)] at h
    exact Or.inr ⟨hij, h⟩

lemma getElem?_concat_cases {l : List α} {j : ℕ} {a b : α} (h : (l ++ [a])[j]? = some b) :
    (j = l.length ∧ b = a) ∨ l[j]? = some b := by
  rcases Nat.lt_or_ge j l.length with hj | hj
  · rw [List.getElem?_append_left hj] at h
    exact Or.inr h
  · rw [List.getElem?_append_right hj] at h
    obtain ⟨hlt, rfl⟩ := List.getElem?_eq_some_iff.1 h
    rw [List.length_singleton] at hlt
    exact Or.inl ⟨by omega, by simp⟩

lemma lookup_insert_cases [DecidableEq α] {m : AList fun _ : α => β} {a k : α} {b v : β}
    (h : (m.insert a b).lookup k = some v) : k = a ∧ v = b ∨ k ≠ a ∧ m.lookup k = some v := by
  by_cases hk : k = a
  · rw [hk, AList.lookup_insert, Option.some.injEq] at h
    exact Or.inl ⟨hk, h.symm⟩
  · rw [AList.lookup_insert_ne hk] at h
    exact Or.inr ⟨hk, h⟩

lemma of_lookup_erase [DecidableEq α] {m : AList fun _ : α => β} {a k : α} {v : β}
    (h : (m.erase a).lookup k = some v) : k ≠ a ∧ m.lookup k = some v := by
  by_cases hk : k = a
  · rw [hk, AList.lookup_erase] at h
    cases h
  · rw [AList.lookup_erase_ne hk] at h
    exact ⟨hk, h⟩

lemma length_keys_insert [DecidableEq α] {γ : α → Type*} (m : AList γ) (a : α) (b : γ a) :
    (m.insert a b).keys.length = if a ∈ m then m.keys.length else m.keys.length + 1 := by
  rw [AList.keys_insert, List.length_cons]
  split_ifs with hmem
  · have hpos : 0 < m.keys.length := List.length_pos_of_mem (AList.mem_keys.1 hmem)
    rw [List.length_erase_of_mem (AList.mem_keys.1 hmem)]
    omega
  · rw [List.erase_of_not_mem (fun h => hmem (AList.mem_keys.2 h))]

lemma length_entries_insert [DecidableEq α] {γ : α → Type*} (m : AList γ) (a : α)
    (b : γ a) :
    (m.insert a b).entries.length = if a ∈ m then m.entries.length else m.entries.length + 1 := by
  have hkeys : ∀ m : AList γ, m.entries.length = m.keys.length := fun m =>
    (List.length_map _).symm
  rw [hkeys, hkeys, length_keys_insert]

lemma length_keys_erase_le [DecidableEq α] {γ : α → Type*} (m : AList γ) (a : α) :
    (m.erase a).keys.length ≤ m.keys.length := by
  rw [AList.keys_erase]
  exact List.length_erase_le

end OlcRtc
