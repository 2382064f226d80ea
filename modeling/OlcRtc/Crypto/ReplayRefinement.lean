import Mathlib.Data.List.Perm.Basic
import OlcRtc.Crypto.ReplaySpec

/-!
# The replay cache refines its specification

`ReplayCache.Linked` is the invariant of the store: map and list hold the same addresses, each
filed under the prefix of the state it points at, and there are at most 256 of them.  The four
primitive updates keep it, and each acts on the list of retained prefixes (`lruPrefixes`) as the
specification says.  `accept` is assembled from these.

The run lemmas at the end quantify over every sequence of calls from an empty cache.
-/

namespace OlcRtc

namespace ReplayCache

/-! ## The shape of the store -/

/-- The retained prefixes in the order of the list, most recent first. -/
def lruPrefixes (r : ReplayCache) : List NoncePrefix :=
  r.lru.map fun ptr => (r.states ptr).senderPrefix

/-- Map and list are in bijection: an address is filed under `p` exactly when it is on the list
and points at a state of prefix `p`. -/
structure Linked (r : ReplayCache) : Prop where
  nodup : r.lru.Nodup
  fresh : ∀ ptr ∈ r.lru, ptr < r.next
  filed : ∀ p ptr, r.senders.lookup p = some ptr ↔
    ptr ∈ r.lru ∧ (r.states ptr).senderPrefix = p

namespace Linked

variable {r : ReplayCache}

lemma injOn (h : r.Linked) {a b : ℕ} (ha : a ∈ r.lru) (hb : b ∈ r.lru)
    (hab : (r.states a).senderPrefix = (r.states b).senderPrefix) : a = b := by
  have h1 := (h.filed _ a).mpr ⟨ha, rfl⟩
  have h2 := (h.filed _ b).mpr ⟨hb, rfl⟩
  rw [hab, h2] at h1
  exact (Option.some.inj h1).symm

lemma lruPrefixes_nodup (h : r.Linked) : r.lruPrefixes.Nodup :=
  List.Nodup.map_on (fun _ ha _ hb hab => h.injOn ha hb hab) h.nodup

lemma mem_lruPrefixes (h : r.Linked) {p : NoncePrefix} :
    p ∈ r.lruPrefixes ↔ p ∈ r.senders := by
  rw [← AList.lookup_isSome, Option.isSome_iff_exists, lruPrefixes, List.mem_map]
  exact exists_congr fun ptr => (h.filed p ptr).symm

lemma keys_perm (h : r.Linked) : r.senders.keys.Perm r.lruPrefixes := by
  refine (List.perm_ext_iff_of_nodup r.senders.keys_nodup h.lruPrefixes_nodup).mpr fun p => ?_
  rw [← AList.mem_keys, h.mem_lruPrefixes]

lemma size_eq (h : r.Linked) : r.size = r.lru.length := by
  rw [size, h.keys_perm.length_eq, lruPrefixes, List.length_map]

end Linked

lemma linked_empty : empty.Linked where
  nodup := List.nodup_nil
  fresh := by simp [empty]
  filed := by simp [empty]

/-! ## The four primitive updates -/

lemma Linked.map_erase {r : ReplayCache} (h : r.Linked) {ptr : ℕ} (hptr : ptr ∈ r.lru) :
    (r.lru.erase ptr).map (fun a => (r.states a).senderPrefix)
      = r.lruPrefixes.erase (r.states ptr).senderPrefix := by
  rw [h.nodup.erase_eq_filter, h.lruPrefixes_nodup.erase_eq_filter, lruPrefixes, List.filter_map]
  refine congrArg _ (List.filter_congr fun a ha => ?_)
  by_cases hap : a = ptr
  · simp [hap]
  · have hne : (r.states a).senderPrefix ≠ (r.states ptr).senderPrefix :=
      fun hc => hap (h.injOn ha hptr hc)
    rw [Function.comp_apply, bne_iff_ne.mpr hap, bne_iff_ne.mpr hne]

lemma Linked.moveToFront {r : ReplayCache} (h : r.Linked) {ptr : ℕ} (hptr : ptr ∈ r.lru) :
    (r.moveToFront ptr).Linked := by
  have hmem : ∀ a, a ∈ ptr :: r.lru.erase ptr ↔ a ∈ r.lru := by
    grind
  refine ⟨?_, ?_, ?_⟩
  · exact List.nodup_cons.mpr ⟨h.nodup.not_mem_erase, h.nodup.erase _⟩
  · intro a ha
    exact h.fresh a ((hmem a).mp ha)
  · intro p a
    simp only [ReplayCache.moveToFront, hmem]
    exact h.filed p a

lemma Linked.lruPrefixes_moveToFront {r : ReplayCache} (h : r.Linked) {ptr : ℕ}
    (hptr : ptr ∈ r.lru) :
    (r.moveToFront ptr).lruPrefixes
      = (r.states ptr).senderPrefix :: r.lruPrefixes.erase (r.states ptr).senderPrefix := by
  rw [← h.map_erase hptr]
  rfl

lemma senderPrefix_store {r : ReplayCache} {ptr : ℕ} {st : ReplayState}
    (hst : st.senderPrefix = (r.states ptr).senderPrefix) (a : ℕ) :
    ((r.store ptr st).states a).senderPrefix = (r.states a).senderPrefix := by
  by_cases ha : a = ptr
  · subst ha
    simp [store, hst]
  · simp [store, ha]

lemma Linked.store {r : ReplayCache} (h : r.Linked) {ptr : ℕ} {st : ReplayState}
    (hst : st.senderPrefix = (r.states ptr).senderPrefix) : (r.store ptr st).Linked := by
  refine ⟨h.nodup, h.fresh, fun p a => ?_⟩
  rw [senderPrefix_store hst]
  exact h.filed p a

lemma lruPrefixes_store {r : ReplayCache} {ptr : ℕ} {st : ReplayState}
    (hst : st.senderPrefix = (r.states ptr).senderPrefix) :
    (r.store ptr st).lruPrefixes = r.lruPrefixes :=
  List.map_congr_left fun a _ => senderPrefix_store hst a

lemma lruPrefixes_evictOldest (r : ReplayCache) :
    r.evictOldest.lruPrefixes = r.lruPrefixes.dropLast := by
  unfold evictOldest
  split
  · next hnone => simp [lruPrefixes, List.getLast?_eq_none_iff.mp hnone]
  · simp only [lruPrefixes]
    rw [List.map_dropLast]

lemma Linked.evictOldest {r : ReplayCache} (h : r.Linked) : r.evictOldest.Linked := by
  unfold ReplayCache.evictOldest
  split
  · exact h
  · next oldest hlast =>
      obtain ⟨init, hinit⟩ := List.getLast?_eq_some_iff.mp hlast
      have hdrop : r.lru.dropLast = init := by rw [hinit, List.dropLast_concat]
      have hnodup := h.nodup
      rw [hinit, List.nodup_append_comm, List.singleton_append, List.nodup_cons] at hnodup
      have hold : oldest ∈ r.lru := by simp [hinit]
      have hmem : ∀ a, a ∈ init ↔ a ∈ r.lru ∧ a ≠ oldest := by
        grind
      rw [hdrop]
      refine ⟨hnodup.2, fun a ha => h.fresh a ((hmem a).mp ha).1, fun p a => ?_⟩
      simp only [hmem]
      by_cases hp : p = (r.states oldest).senderPrefix
      · subst hp
        simp only [AList.lookup_erase, reduceCtorEq, false_iff, not_and]
        rintro ⟨ha, hne⟩ hpref
        exact hne (h.injOn ha hold hpref)
      · rw [AList.lookup_erase_ne hp, h.filed]
        constructor
        · grind
        · rintro ⟨⟨ha, _⟩, hpref⟩
          exact ⟨ha, hpref⟩

lemma Linked.states_pushFront {r : ReplayCache} (h : r.Linked) (p : NoncePrefix)
    (counter : BitVec 64) {a : ℕ} (ha : a ∈ r.lru) :
    (r.pushFront p counter).states a = r.states a := by
  have hne : a ≠ r.next := (h.fresh a ha).ne
  simp [ReplayCache.pushFront, hne]

lemma Linked.lruPrefixes_pushFront {r : ReplayCache} (h : r.Linked) (p : NoncePrefix)
    (counter : BitVec 64) : (r.pushFront p counter).lruPrefixes = p :: r.lruPrefixes := by
  have htail : r.lru.map (fun a => ((r.pushFront p counter).states a).senderPrefix)
      = r.lruPrefixes :=
    List.map_congr_left fun a ha => by rw [h.states_pushFront p counter ha]
  rw [← htail]
  simp [lruPrefixes, ReplayCache.pushFront]

lemma Linked.pushFront {r : ReplayCache} (h : r.Linked) {p : NoncePrefix}
    (hp : p ∉ r.lruPrefixes) (counter : BitVec 64) : (r.pushFront p counter).Linked := by
  have hnew : r.next ∉ r.lru := fun hc => lt_irrefl _ (h.fresh _ hc)
  refine ⟨List.nodup_cons.mpr ⟨hnew, h.nodup⟩, ?_, ?_⟩
  · intro a ha
    rcases List.mem_cons.mp ha with ha | ha
    · simp [ReplayCache.pushFront, ha]
    · exact Nat.lt_succ_of_lt (h.fresh a ha)
  · intro q a
    by_cases hq : q = p
    · subst hq
      simp only [ReplayCache.pushFront, AList.lookup_insert, Option.some.injEq, List.mem_cons]
      constructor
      · rintro rfl
        simp
      · rintro ⟨ha | ha, hpref⟩
        · exact ha.symm
        · have hne : a ≠ r.next := (h.fresh a ha).ne
          rw [Function.update_of_ne hne] at hpref
          exact absurd (List.mem_map.mpr ⟨a, ha, hpref⟩) hp
    · simp only [ReplayCache.pushFront, AList.lookup_insert_ne hq, h.filed, List.mem_cons]
      constructor
      · grind
      · grind

/-! ## One call -/

/-- The cache represents the specification state. -/
structure Refines (r : ReplayCache) (s : ReplaySpec) : Prop where
  linked : r.Linked
  bounded : r.lru.length ≤ maxReplaySenders
  order : r.lruPrefixes = s.retained
  window : ∀ ptr ∈ r.lru, Window (r.states ptr) (s.accepted (r.states ptr).senderPrefix)

lemma refines_empty : empty.Refines ReplaySpec.empty where
  linked := linked_empty
  bounded := by simp [empty]
  order := rfl
  window := by simp [empty]

namespace Refines

variable {r : ReplayCache} {s : ReplaySpec}

lemma mem_retained (h : r.Refines s) {p : NoncePrefix} : p ∈ s.retained ↔ p ∈ r.senders := by
  rw [← h.order, h.linked.mem_lruPrefixes]

lemma insert (h : r.Refines s) {p : NoncePrefix} (hp : p ∉ s.retained) (counter : BitVec 64) :
    (r.insert p counter).Refines (s.remember p counter.toNat) := by
  -- the cache just before the allocation
  set r₀ := if maxReplaySenders ≤ r.size then r.evictOldest else r with hr₀
  have hpref : r₀.lruPrefixes
      = if maxReplaySenders ≤ s.retained.length then s.retained.dropLast else s.retained := by
    have hlen : r.size = s.retained.length := by
      rw [h.linked.size_eq, ← h.order, lruPrefixes, List.length_map]
    rw [hr₀, hlen]
    split_ifs
    · rw [lruPrefixes_evictOldest, h.order]
    · exact h.order
  have hlinked : r₀.Linked := by
    rw [hr₀]
    split_ifs
    · exact h.linked.evictOldest
    · exact h.linked
  have hstates : r₀.states = r.states := by
    rw [hr₀]
    split_ifs
    · unfold evictOldest; split <;> rfl
    · rfl
  have hsub : ∀ a ∈ r₀.lru, a ∈ r.lru := by
    rw [hr₀]
    split_ifs
    · unfold evictOldest
      split
      · exact fun a ha => ha
      · exact fun a ha => List.mem_of_mem_dropLast ha
    · exact fun a ha => ha
  have hroom : r₀.lru.length < maxReplaySenders := by
    have hlen : r₀.lru.length = r₀.lruPrefixes.length := by simp [lruPrefixes]
    have hb : s.retained.length ≤ maxReplaySenders := by
      rw [← h.order, lruPrefixes, List.length_map]
      exact h.bounded
    rw [hlen, hpref]
    split_ifs with hfull
    · rw [List.length_dropLast]
      have : 0 < maxReplaySenders := by decide
      omega
    · omega
  have hp₀ : p ∉ r₀.lruPrefixes := by
    rw [hpref]
    split_ifs
    · exact fun hc => hp (List.mem_of_mem_dropLast hc)
    · exact hp
  refine ⟨hlinked.pushFront hp₀ counter, Nat.succ_le_of_lt hroom, ?_, ?_⟩
  · rw [ReplayCache.insert, ← hr₀, hlinked.lruPrefixes_pushFront, hpref]
    simp [ReplaySpec.remember, touch, hp]
  · intro a ha
    rw [ReplayCache.insert, ← hr₀] at ha ⊢
    rcases List.mem_cons.mp ha with ha | ha
    · subst ha
      have hself : (r₀.pushFront p counter).states r₀.next = ⟨p, counter, 1⟩ := by
        simp [pushFront]
      rw [hself]
      simpa [ReplaySpec.remember, hp] using Window.initial p counter
    · rw [hlinked.states_pushFront p counter ha, hstates]
      have hne : (r.states a).senderPrefix ≠ p := by
        intro hc
        refine hp₀ (List.mem_map.mpr ⟨a, ha, ?_⟩)
        rw [hstates, hc]
      simp only [ReplaySpec.remember, Function.update_of_ne hne]
      exact h.window a (hsub a ha)

lemma update (h : r.Refines s) {ptr : ℕ} (hptr : ptr ∈ r.lru) {st : ReplayState}
    {counter : ℕ} (hst : st.senderPrefix = (r.states ptr).senderPrefix)
    (hw : Window st (Insert.insert counter (s.accepted (r.states ptr).senderPrefix))) :
    ((r.store ptr st).moveToFront ptr).Refines
      (s.remember (r.states ptr).senderPrefix counter) := by
  set p := (r.states ptr).senderPrefix with hp
  have hlinked : (r.store ptr st).Linked := h.linked.store hst
  have hself : (r.store ptr st).states ptr = st := by simp [store]
  have hret : p ∈ s.retained := by
    rw [← h.order]
    exact List.mem_map.mpr ⟨ptr, hptr, rfl⟩
  refine ⟨hlinked.moveToFront hptr, ?_, ?_, ?_⟩
  · have hlen := List.length_erase_of_mem hptr
    have hpos := List.length_pos_of_mem hptr
    have hb := h.bounded
    simp only [moveToFront, store, List.length_cons]
    omega
  · rw [hlinked.lruPrefixes_moveToFront hptr, hself, hst, lruPrefixes_store hst, h.order]
    simp [ReplaySpec.remember, touch, hret]
  · intro a ha
    have hmem : a ∈ r.lru := by
      rcases List.mem_cons.mp ha with ha | ha
      · exact ha ▸ hptr
      · exact List.mem_of_mem_erase ha
    have hstates : ((r.store ptr st).moveToFront ptr).states a = (r.store ptr st).states a := rfl
    rw [hstates]
    by_cases hap : a = ptr
    · subst hap
      rw [hself, hst]
      simpa [ReplaySpec.remember, hret] using hw
    · have hother : (r.store ptr st).states a = r.states a := by simp [store, hap]
      have hne : (r.states a).senderPrefix ≠ p := fun hc => hap (h.linked.injOn hmem hptr hc)
      rw [hother]
      simp only [ReplaySpec.remember, Function.update_of_ne hne]
      exact h.window a hmem

end Refines

lemma accept_of_error {r : ReplayCache} {p : NoncePrefix} {counter : BitVec 64} {e : ReplayError}
    (h : (r.accept p counter).2 = some e) : (r.accept p counter).1 = r := by
  unfold accept at h ⊢
  split
  · next hnone => simp [hnone] at h
  · grind

/-- **One call.**  From related states, cache and specification give the same answer and stay
related. -/
theorem accept_refines {r : ReplayCache} {s : ReplaySpec} (h : r.Refines s) (p : NoncePrefix)
    (counter : BitVec 64) :
    (r.accept p counter).1.Refines (s.accept p counter.toNat).1 ∧
      ((r.accept p counter).2 = none ↔ (s.accept p counter.toNat).2 = true) := by
  unfold accept
  split
  · next hnone =>
      have hp : p ∉ s.retained := by
        rw [h.mem_retained]
        exact AList.lookup_eq_none.mp hnone
      have hadm : s.Admits p counter.toNat := Or.inl hp
      simp only [ReplaySpec.accept, hadm, if_true, and_true]
      exact h.insert hp counter
  · next ptr hsome =>
      obtain ⟨hptr, hpref⟩ := (h.linked.filed p ptr).mp hsome
      subst hpref
      have hret : (r.states ptr).senderPrefix ∈ s.retained := by
        rw [← h.order]
        exact List.mem_map.mpr ⟨ptr, hptr, rfl⟩
      have hw := h.window ptr hptr
      have hsup : s.highest (r.states ptr).senderPrefix = (r.states ptr).highest.toNat := hw.sup_eq
      have hadm : s.Admits (r.states ptr).senderPrefix counter.toNat ↔
          (r.states ptr).highest < counter ∨
            ((r.states ptr).highest.toNat < counter.toNat + replayWindowSize ∧
              counter.toNat ∉ s.accepted (r.states ptr).senderPrefix) := by
        simp [ReplaySpec.Admits, hret, hsup, BitVec.lt_def]
      dsimp only
      split_ifs with hlt hage hbit
      · have : s.Admits (r.states ptr).senderPrefix counter.toNat := hadm.mpr (Or.inl hlt)
        simp only [ReplaySpec.accept, this, if_true, and_true]
        exact h.update hptr rfl (hw.advance hlt)
      · have hsub : ((r.states ptr).highest - counter).toNat
            = (r.states ptr).highest.toNat - counter.toNat :=
          BitVec.toNat_sub_of_le (by simpa using hlt)
        have : ¬ s.Admits (r.states ptr).senderPrefix counter.toNat := by
          rw [hadm]
          rintro (hc | ⟨hc, _⟩)
          · exact hlt hc
          · simp only [replayWindowSize] at hage hc
            omega
        simp only [ReplaySpec.accept, this, if_false]
        exact ⟨h, by simp⟩
      · have hin := (hw.test_mask hlt hage).mp hbit
        have : ¬ s.Admits (r.states ptr).senderPrefix counter.toNat := by
          grind
        simp only [ReplaySpec.accept, this, if_false]
        exact ⟨h, by simp⟩
      · have hout : counter.toNat ∉ s.accepted (r.states ptr).senderPrefix :=
          fun hc => hbit ((hw.test_mask hlt hage).mpr hc)
        have hsub : ((r.states ptr).highest - counter).toNat
            = (r.states ptr).highest.toNat - counter.toNat :=
          BitVec.toNat_sub_of_le (by simpa using hlt)
        have : s.Admits (r.states ptr).senderPrefix counter.toNat :=
          hadm.mpr (Or.inr ⟨by omega, hout⟩)
        simp only [ReplaySpec.accept, this, if_true, and_true]
        exact h.update hptr rfl (hw.mark hlt hage)

/-! ## Whole runs -/

/-- A call of `accept`. -/
abbrev Call := NoncePrefix × BitVec 64

def after (calls : List Call) : ReplayCache :=
  calls.foldl (fun r call => (r.accept call.1 call.2).1) empty

/-- The calls of a run with their outcomes, in order, from the cache `r`. -/
def traceFrom (r : ReplayCache) : List Call → List (Call × Option ReplayError)
  | [] => []
  | call :: calls =>
    (call, (r.accept call.1 call.2).2) :: traceFrom (r.accept call.1 call.2).1 calls

def acceptedLog (calls : List Call) : List Call :=
  ((traceFrom empty calls).filter fun entry => entry.2.isNone).map Prod.fst

end ReplayCache

def ReplaySpec.after (calls : List ReplayCache.Call) : ReplaySpec :=
  calls.foldl (fun s call => (s.accept call.1 call.2.toNat).1) ReplaySpec.empty

/-- The outcomes the specification prescribes for a run, `true` for success. -/
def ReplaySpec.outcomesFrom (s : ReplaySpec) : List ReplayCache.Call → List Bool
  | [] => []
  | call :: calls =>
    (s.accept call.1 call.2.toNat).2 :: outcomesFrom (s.accept call.1 call.2.toNat).1 calls

namespace ReplayCache

lemma after_concat (calls : List Call) (call : Call) :
    after (calls ++ [call]) = ((after calls).accept call.1 call.2).1 := by
  simp [after, List.foldl_append]

lemma spec_after_concat (calls : List Call) (call : Call) :
    ReplaySpec.after (calls ++ [call])
      = ((ReplaySpec.after calls).accept call.1 call.2.toNat).1 := by
  simp [ReplaySpec.after, List.foldl_append]

lemma traceFrom_concat (calls : List Call) (call : Call) :
    ∀ r : ReplayCache, traceFrom r (calls ++ [call]) = traceFrom r calls ++
      [(call, ((calls.foldl (fun r c => (r.accept c.1 c.2).1) r).accept call.1 call.2).2)] := by
  induction calls with
  | nil => intro r; rfl
  | cons c calls ih =>
    intro r
    rw [List.cons_append, traceFrom, ih, traceFrom, List.cons_append, List.foldl_cons]

lemma acceptedLog_concat (calls : List Call) (call : Call) :
    acceptedLog (calls ++ [call]) = acceptedLog calls ++
      if ((after calls).accept call.1 call.2).2 = none then [call] else [] := by
  have htrace := traceFrom_concat calls call empty
  rw [acceptedLog, htrace, List.filter_append, List.map_append, acceptedLog, after]
  refine congrArg _ ?_
  split_ifs with hok
  · simp [hok]
  · rw [List.filter_cons_of_neg (by simpa using hok)]
    rfl

/-- **The run lemma.**  After any sequence of calls the cache represents the specification. -/
theorem after_refines (calls : List Call) : (after calls).Refines (ReplaySpec.after calls) := by
  induction calls using List.reverseRecOn with
  | nil => exact refines_empty
  | append_singleton calls call ih =>
    rw [after_concat, spec_after_concat]
    exact (accept_refines ih call.1 call.2).1

lemma traceFrom_outcomes (calls : List Call) :
    ∀ {r : ReplayCache} {s : ReplaySpec}, r.Refines s →
      (traceFrom r calls).map (fun entry => entry.2.isNone) = s.outcomesFrom calls := by
  induction calls with
  | nil => intro r s _; rfl
  | cons call calls ih =>
    intro r s h
    obtain ⟨hnext, hout⟩ := accept_refines h call.1 call.2
    rw [traceFrom, List.map_cons, ih hnext, ReplaySpec.outcomesFrom]
    refine congrArg (· :: _) ?_
    rw [Bool.eq_iff_iff, Option.isNone_iff_eq_none, hout]

lemma accept_eq_none_iff {r : ReplayCache} {s : ReplaySpec} (h : r.Refines s) (p : NoncePrefix)
    (counter : BitVec 64) : (r.accept p counter).2 = none ↔ s.Admits p counter.toNat := by
  rw [(accept_refines h p counter).2, ReplaySpec.accept]
  split_ifs with hadm <;> simp [hadm]

lemma lruPrefixes_after (calls : List Call) :
    (after calls).lruPrefixes
      = (recency ((acceptedLog calls).map Prod.fst)).take maxReplaySenders := by
  induction calls using List.reverseRecOn with
  | nil => rfl
  | append_singleton calls call ih =>
    have hrel := after_refines calls
    have hstep := (accept_refines hrel call.1 call.2).1.order
    have hout := accept_eq_none_iff hrel call.1 call.2
    rw [after_concat, hstep, acceptedLog_concat, ReplaySpec.accept]
    split_ifs with hadm hok hok
    · rw [List.map_append, List.map_singleton, ← touch_take_recency (by decide), ← ih,
        hrel.order]
      rfl
    · exact absurd (hout.mpr hadm) hok
    · exact absurd (hout.mp hok) hadm
    · rw [List.append_nil, ← ih, hrel.order]

lemma acceptedLog_subset (calls : List Call) : acceptedLog calls ⊆ calls := by
  induction calls using List.reverseRecOn with
  | nil => exact fun _ h => h
  | append_singleton calls call ih =>
    rw [acceptedLog_concat]
    refine List.append_subset.mpr ⟨fun c hc => List.mem_append_left _ (ih hc), ?_⟩
    split_ifs <;> simp

lemma retained_of_mem_log {calls : List Call}
    (hfew : (calls.map Prod.fst).toFinset.card ≤ maxReplaySenders) {call : Call}
    (hcall : call ∈ acceptedLog calls) : call.1 ∈ (ReplaySpec.after calls).retained := by
  have hlen : (recency ((acceptedLog calls).map Prod.fst)).length ≤ maxReplaySenders := by
    rw [recency, List.length_reverse, ← List.card_toFinset]
    refine le_trans (Finset.card_le_card ?_) hfew
    intro p hp
    rw [List.mem_toFinset] at hp ⊢
    exact List.map_subset _ (acceptedLog_subset calls) hp
  rw [← (after_refines calls).order, lruPrefixes_after, List.take_of_length_le hlen, mem_recency]
  exact List.mem_map_of_mem hcall

lemma notMem_accepted_of_admits {s : ReplaySpec} {p : NoncePrefix} {counter : ℕ}
    (hadm : s.Admits p counter) (hret : p ∈ s.retained) : counter ∉ s.accepted p := by
  rcases hadm with hp | hlt | ⟨_, hnot⟩
  · exact absurd hret hp
  · intro hmem
    have hle : counter ≤ s.highest p := Finset.le_sup (f := id) hmem
    omega
  · exact hnot

/-- Without evictions the specification remembers every pair it accepted, so it never accepts one
again. -/
lemma mem_accepted_of_mem_log (calls : List Call)
    (hfew : (calls.map Prod.fst).toFinset.card ≤ maxReplaySenders) :
    (acceptedLog calls).Nodup ∧ ∀ call ∈ acceptedLog calls,
      call.2.toNat ∈ (ReplaySpec.after calls).accepted call.1 := by
  induction calls using List.reverseRecOn with
  | nil => exact ⟨List.nodup_nil, by simp [acceptedLog, traceFrom]⟩
  | append_singleton calls call ih =>
    have hsub : (calls.map Prod.fst).toFinset ⊆ ((calls ++ [call]).map Prod.fst).toFinset := by
      rw [List.map_append, List.toFinset_append]
      exact Finset.subset_union_left
    have hfew' := le_trans (Finset.card_le_card hsub) hfew
    obtain ⟨hnodup, hmem⟩ := ih hfew'
    have hout := accept_eq_none_iff (after_refines calls) call.1 call.2
    rw [acceptedLog_concat, spec_after_concat, ReplaySpec.accept]
    by_cases hadm : (ReplaySpec.after calls).Admits call.1 call.2.toNat
    · rw [if_pos (hout.mpr hadm), if_pos hadm]
      -- the new pair is not in the log: its prefix is retained with its whole history
      have hnew : call ∉ acceptedLog calls := fun hc =>
        notMem_accepted_of_admits hadm (retained_of_mem_log hfew' hc) (hmem call hc)
      refine ⟨List.concat_eq_append ▸ hnodup.concat hnew, fun c hc => ?_⟩
      rcases List.mem_append.mp hc with hc | hc
      · by_cases hp : c.1 = call.1
        · have hret : call.1 ∈ (ReplaySpec.after calls).retained :=
            hp ▸ retained_of_mem_log hfew' hc
          have hold := hmem c hc
          rw [hp] at hold ⊢
          simp only [ReplaySpec.remember, Function.update_self, if_pos hret]
          exact Finset.mem_insert_of_mem hold
        · simp only [ReplaySpec.remember, Function.update_of_ne hp]
          exact hmem c hc
      · rw [List.mem_singleton.mp hc]
        simp only [ReplaySpec.remember, Function.update_self]
        split_ifs <;> simp
    · grind

lemma lruPrefixes_accept_of_full {r : ReplayCache} {s : ReplaySpec} (h : r.Refines s)
    {p : NoncePrefix} (hp : p ∉ r.lruPrefixes) (hfull : r.lru.length = maxReplaySenders)
    (counter : BitVec 64) :
    (r.accept p counter).1.lruPrefixes = p :: r.lruPrefixes.dropLast := by
  have hlen : maxReplaySenders ≤ r.lruPrefixes.length := by
    rw [lruPrefixes, List.length_map, hfull]
  rw [(accept_refines h p counter).1.order]
  rw [h.order] at hp hlen ⊢
  have hadm : s.Admits p counter.toNat := Or.inl hp
  simp [ReplaySpec.accept, hadm, ReplaySpec.remember, touch, hp, hlen]

/-- **Replay window refinement.**  For every sequence of calls from an empty cache:

* the outcomes are those of the specification, and the next call succeeds exactly when the
  specification admits it;
* a refused call changes nothing;
* map and list are in bijection and hold at most 256 entries, in the order of the most recent
  successful call;
* a new prefix in a full cache evicts exactly the least recently accepted one;
* if at most 256 prefixes are used, no pair is accepted twice. -/
theorem replayCache_refines_spec (calls : List Call) :
    (traceFrom empty calls).map (fun entry => entry.2.isNone)
        = ReplaySpec.empty.outcomesFrom calls ∧
      (∀ p counter, ((after calls).accept p counter).2 = none ↔
        (ReplaySpec.after calls).Admits p counter.toNat) ∧
      (∀ p counter, ((after calls).accept p counter).2 ≠ none →
        ((after calls).accept p counter).1 = after calls) ∧
      ((after calls).Linked ∧ (after calls).senders.keys.Perm (after calls).lruPrefixes ∧
        (after calls).size = (after calls).lru.length ∧
        (after calls).lru.length ≤ maxReplaySenders) ∧
      (after calls).lruPrefixes
        = (recency ((acceptedLog calls).map Prod.fst)).take maxReplaySenders ∧
      (∀ p counter, p ∉ (after calls).lruPrefixes →
        (after calls).lru.length = maxReplaySenders →
        ((after calls).accept p counter).1.lruPrefixes
          = p :: (after calls).lruPrefixes.dropLast) ∧
      ((calls.map Prod.fst).toFinset.card ≤ maxReplaySenders → (acceptedLog calls).Nodup) := by
  have hrel := after_refines calls
  refine ⟨traceFrom_outcomes calls refines_empty, accept_eq_none_iff hrel, ?_,
    ⟨hrel.linked, hrel.linked.keys_perm, hrel.linked.size_eq, hrel.bounded⟩,
    lruPrefixes_after calls, ?_, fun hfew => (mem_accepted_of_mem_log calls hfew).1⟩
  · intro p counter herr
    obtain ⟨e, he⟩ := Option.ne_none_iff_exists'.mp herr
    exact accept_of_error he
  · intro p counter hp hfull
    exact lruPrefixes_accept_of_full hrel hp hfull counter

/-- Two senders, a jump past the window, a late record and a duplicate. -/
theorem replayCache_refines_spec_twoSenders :
    let p : NoncePrefix := List.Vector.replicate _ 1
    let q : NoncePrefix := List.Vector.replicate _ 2
    let calls : List Call := [(p, 1), (q, 5), (p, 70), (p, 7), (p, 6), (p, 7)]
    (calls.map Prod.fst).toFinset.card ≤ maxReplaySenders ∧
      (traceFrom empty calls).map Prod.snd
        = [none, none, none, none, some .replayTooOld, some .replayDuplicate] ∧
      (acceptedLog calls).Nodup :=
  ⟨by decide, by decide, (replayCache_refines_spec _).2.2.2.2.2.2 (by decide)⟩

end ReplayCache

end OlcRtc
