import Mathlib.Data.List.Nodup
import Mathlib.Data.List.Perm.Basic

/-!
# Tables with a unique index

A table of a relational database: rows with a primary key `id` and a second unique index `key`.  The
constraints are part of the table, so a statement either returns a table that keeps them or says
which one it would violate.

`insertAll` and `updateAll` run one statement for each of several rows, as prepared statements do.
**`insertAll_eq_ok`** and **`updateAll_eq_ok`** say when all of them go through, and
`mem_overwriteAll` what is in the table afterwards.  An update may go through although its key is
in use before it, if the row that has it is updated first; `updateAll_eq_ok` does not cover this.
-/

namespace OlcRtc

universe u v w

variable {ρ : Type u} {ι : Type v} {κ : Type w}

/-- A table with its constraints.  The order of the rows has no meaning. -/
structure Table (id : ρ → ι) (key : ρ → κ) where
  rows : List ρ
  ids : (rows.map id).Nodup
  keys : (rows.map key).Nodup

inductive Violation where
  | primaryKey
  | uniqueIndex
deriving DecidableEq, Repr

namespace Table

variable {id : ρ → ι} {key : ρ → κ}

/-! ## Rows are told by their id and by their key -/

lemma eq_of_id {t : Table id key} {r r' : ρ} (hr : r ∈ t.rows)
    (hr' : r' ∈ t.rows) (h : id r = id r') : r = r' :=
  List.inj_on_of_nodup_map t.ids hr hr' h

lemma eq_of_key {t : Table id key} {r r' : ρ} (hr : r ∈ t.rows)
    (hr' : r' ∈ t.rows) (h : key r = key r') : r = r' :=
  List.inj_on_of_nodup_map t.keys hr hr' h

lemma filter_key_eq_singleton [DecidableEq κ] {t : Table id key} {r : ρ} (hr : r ∈ t.rows) :
    t.rows.filter (key · = key r) = [r] := by
  have hnodup : (t.rows.filter (key · = key r)).Nodup := (List.Nodup.of_map _ t.ids).filter _
  refine List.perm_singleton.1 ((List.perm_ext_iff_of_nodup hnodup (List.nodup_singleton r)).2 ?_)
  intro r'
  rw [List.mem_filter, List.mem_singleton, decide_eq_true_eq]
  constructor
  · rintro ⟨hr', hkey⟩
    exact eq_of_key hr' hr hkey
  · rintro rfl
    exact ⟨hr, rfl⟩

/-! ## Statements -/

variable [DecidableEq ι]

/-- The rows after the one with the id of `p` was overwritten. -/
def overwrite (id : ρ → ι) (rows : List ρ) (p : ρ) : List ρ :=
  rows.map fun r => if id r = id p then p else r

lemma ids_overwrite (p : ρ) (rows : List ρ) : (overwrite id rows p).map id = rows.map id := by
  rw [overwrite, List.map_map]
  refine List.map_congr_left fun r _ => ?_
  show id (if id r = id p then p else r) = id r
  split_ifs with h
  · exact h.symm
  · rfl

lemma nodup_keys_overwrite {p : ρ} {rows : List ρ} (hids : (rows.map id).Nodup)
    (hkeys : (rows.map key).Nodup) (hfree : ∀ r ∈ rows, key r = key p → id r = id p) :
    ((overwrite id rows p).map key).Nodup := by
  rw [List.Nodup, List.pairwise_map] at hids hkeys
  rw [List.Nodup, List.pairwise_map, overwrite, List.pairwise_map]
  refine (hids.and hkeys).imp_of_mem ?_
  rintro r r' hr hr' ⟨hid, hkey⟩
  split_ifs with h h' h'
  · exact absurd (h.trans h'.symm) hid
  · exact fun heq => h' (hfree r' hr' heq.symm)
  · exact fun heq => h (hfree r hr heq)
  · exact hkey

variable [DecidableEq κ] (t : Table id key)

/-- `INSERT OR ABORT` of one row. -/
def insert (p : ρ) : Except Violation (Table id key) :=
  if hid : id p ∈ t.rows.map id then .error .primaryKey
  else if hkey : key p ∈ t.rows.map key then .error .uniqueIndex
  else .ok {
    rows := t.rows ++ [p]
    ids := by
      rw [List.map_append, List.map_singleton, ← List.concat_eq_append]
      exact t.ids.concat hid
    keys := by
      rw [List.map_append, List.map_singleton, ← List.concat_eq_append]
      exact t.keys.concat hkey }

/-- `UPDATE OR ABORT` of one row, by its id.  It does nothing if no row has the id. -/
def update (p : ρ) : Except Violation (Table id key) :=
  if hfree : ∀ r ∈ t.rows, key r = key p → id r = id p then .ok {
    rows := overwrite id t.rows p
    ids := by
      rw [ids_overwrite]
      exact t.ids
    keys := nodup_keys_overwrite t.ids t.keys hfree }
  else if id p ∈ t.rows.map id then .error .uniqueIndex
  else .ok t

def insertAll (ps : List ρ) : Except Violation (Table id key) := ps.foldlM insert t

def updateAll (ps : List ρ) : Except Violation (Table id key) := ps.foldlM update t

/-- `DELETE … WHERE id IN ids`. -/
def delete (ids : List ι) : Table id key where
  rows := t.rows.filter (id · ∉ ids)
  ids := t.ids.sublist (List.filter_sublist.map _)
  keys := t.keys.sublist (List.filter_sublist.map _)

variable {t}

/-! ## Inserts -/

/-- **Rows with new ids and new keys can be inserted.** -/
theorem insertAll_eq_ok {ps : List ρ} (hids : ((t.rows ++ ps).map id).Nodup)
    (hkeys : ((t.rows ++ ps).map key).Nodup) :
    ∃ t', t.insertAll ps = .ok t' := by
  induction ps generalizing t with
  | nil => exact ⟨t, rfl⟩
  | cons p ps ih =>
    rw [List.map_append, List.map_cons] at hids hkeys
    have hid : id p ∉ t.rows.map id := fun h =>
      (List.nodup_append.1 hids).2.2 _ h _ List.mem_cons_self rfl
    have hkey : key p ∉ t.rows.map key := fun h =>
      (List.nodup_append.1 hkeys).2.2 _ h _ List.mem_cons_self rfl
    obtain ⟨t₁, hinsert, hrows⟩ : ∃ t₁, t.insert p = .ok t₁ ∧ t₁.rows = t.rows ++ [p] :=
      ⟨_, (dif_neg hid).trans (dif_neg hkey), rfl⟩
    have hrest : t₁.rows ++ ps = t.rows ++ p :: ps := by
      rw [hrows, List.append_assoc, List.singleton_append]
    obtain ⟨t', hall⟩ := ih (t := t₁)
      (by rw [hrest, List.map_append, List.map_cons]; exact hids)
      (by rw [hrest, List.map_append, List.map_cons]; exact hkeys)
    refine ⟨t', ?_⟩
    rw [insertAll, List.foldlM_cons, hinsert]
    exact hall

lemma rows_of_insertAll {ps : List ρ} {t' : Table id key} (h : t.insertAll ps = .ok t') :
    t'.rows = t.rows ++ ps := by
  induction ps generalizing t with
  | nil =>
    rw [List.append_nil]
    exact (congrArg rows (Except.ok.inj h)).symm
  | cons p ps ih =>
    rw [insertAll, List.foldlM_cons] at h
    cases hp : t.insert p with
    | error e => rw [hp] at h; cases h
    | ok t₁ =>
      rw [hp] at h
      have hrows : t₁.rows = t.rows ++ [p] := by
        unfold insert at hp
        split_ifs at hp
        exact (congrArg rows (Except.ok.inj hp)).symm
      rw [ih h, hrows, List.append_assoc, List.singleton_append]

/-! ## Updates -/

def overwriteAll (id : ρ → ι) (rows ps : List ρ) : List ρ := ps.foldl (overwrite id) rows

/-- **What is in the table after updates**: the new rows whose id is there, and the old rows that
    were not overwritten. -/
theorem mem_overwriteAll {ps : List ρ} (hps : (ps.map id).Nodup) {rows : List ρ} {r : ρ} :
    r ∈ overwriteAll id rows ps ↔
      r ∈ ps ∧ id r ∈ rows.map id ∨ r ∈ rows ∧ id r ∉ ps.map id := by
  induction ps generalizing rows with
  | nil => simp [overwriteAll]
  | cons p ps ih =>
    have hp := (List.nodup_cons.1 hps).1
    have hmem : r ∈ overwrite id rows p ↔
        r = p ∧ id p ∈ rows.map id ∨ r ∈ rows ∧ id r ≠ id p := by
      rw [overwrite, List.mem_map]
      constructor
      · grind
      · grind
    rw [overwriteAll, List.foldl_cons]
    refine (ih (List.nodup_cons.1 hps).2).trans ?_
    rw [ids_overwrite, hmem, List.mem_cons, List.map_cons, List.mem_cons, not_or]
    constructor
    · grind
    · grind

lemma rows_of_update {p : ρ} {t' : Table id key} (h : t.update p = .ok t') :
    t'.rows = overwrite id t.rows p := by
  unfold update at h
  split_ifs at h with hfree hid
  · exact (congrArg rows (Except.ok.inj h)).symm
  · rw [← Except.ok.inj h, overwrite]
    refine ((List.map_congr_left fun r hr => ?_).trans (List.map_id _)).symm
    exact if_neg fun h => hid (List.mem_map.2 ⟨r, hr, h⟩)

lemma rows_of_updateAll {ps : List ρ} {t' : Table id key} (h : t.updateAll ps = .ok t') :
    t'.rows = overwriteAll id t.rows ps := by
  induction ps generalizing t with
  | nil => exact (congrArg rows (Except.ok.inj h)).symm
  | cons p ps ih =>
    rw [updateAll, List.foldlM_cons] at h
    cases hp : t.update p with
    | error e => rw [hp] at h; cases h
    | ok t₁ =>
      rw [hp] at h
      rw [ih h, rows_of_update hp]
      rfl

/-- **Updates go through** if a key that is written is otherwise found, in the table or among what
    is written, only at the row that is written to. -/
theorem updateAll_eq_ok {ps : List ρ}
    (hfree : ∀ p ∈ ps, ∀ r, r ∈ t.rows ∨ r ∈ ps → key r = key p → id r = id p) :
    ∃ t', t.updateAll ps = .ok t' := by
  induction ps generalizing t with
  | nil => exact ⟨t, rfl⟩
  | cons p ps ih =>
    have hp : ∀ r ∈ t.rows, key r = key p → id r = id p := fun r hr =>
      hfree p List.mem_cons_self r (Or.inl hr)
    obtain ⟨t₁, hupdate⟩ : ∃ t₁, t.update p = .ok t₁ := ⟨_, dif_pos hp⟩
    obtain ⟨t', hall⟩ := ih (t := t₁) (by
      intro q hq r hr
      refine hfree q (List.mem_cons_of_mem p hq) r ?_
      rcases hr with hr | hr
      · rw [rows_of_update hupdate, overwrite, List.mem_map] at hr
        obtain ⟨r', hr', heq⟩ := hr
        split_ifs at heq
        · exact Or.inr (heq ▸ List.mem_cons_self)
        · exact Or.inl (heq ▸ hr')
      · exact Or.inr (List.mem_cons_of_mem p hr))
    refine ⟨t', ?_⟩
    rw [updateAll, List.foldlM_cons, hupdate]
    exact hall

end Table

end OlcRtc
