import Mathlib.Data.Finset.Lattice.Fold
import Mathlib.Order.Lattice.Nat
import OlcRtc.Lib.Recency
import OlcRtc.Crypto.Replay

/-!
# What the replay cache is for

The abstract cache remembers the retained prefixes, most recently accepted first, and for each of
them the set of counters accepted since it was (re)inserted.  It has no bitmap, no pointers and
no map: `ReplaySpec.Admits` is the rule a reader would write down.

`ReplayCache.Refines` ties the two together.  Its three parts are the shape of the store
(`Linked`), the order of the list, and, per prefix, `Window`: the pair `(highest, seen)` is the
set of accepted counters as far as 64 places below its maximum.  **`accept_refines`** is the step:
whatever the call, cache and specification answer alike and stay related.
-/

namespace OlcRtc

/-! ## The specification -/

/-- Retained prefixes, most recently accepted first, and the counters accepted for each. -/
structure ReplaySpec where
  retained : List NoncePrefix
  accepted : NoncePrefix → Finset ℕ

namespace ReplaySpec

def empty : ReplaySpec := ⟨[], fun _ => ∅⟩

def highest (s : ReplaySpec) (p : NoncePrefix) : ℕ := (s.accepted p).sup id

/-- When a record is fresh: its prefix is not retained, or its counter exceeds the prefix's
maximum, or it lies less than a window below the maximum and was not accepted. -/
def Admits (s : ReplaySpec) (p : NoncePrefix) (counter : ℕ) : Prop :=
  p ∉ s.retained ∨ s.highest p < counter ∨
    (s.highest p < counter + replayWindowSize ∧ counter ∉ s.accepted p)

instance (s : ReplaySpec) (p : NoncePrefix) (counter : ℕ) : Decidable (s.Admits p counter) :=
  inferInstanceAs (Decidable (_ ∨ _ ∨ _))

/-- The state after a fresh record: its prefix becomes the most recent one, and a prefix that was
not retained starts over with this counter alone. -/
def remember (s : ReplaySpec) (p : NoncePrefix) (counter : ℕ) : ReplaySpec where
  retained := touch maxReplaySenders s.retained p
  accepted := Function.update s.accepted p
    (if p ∈ s.retained then insert counter (s.accepted p) else {counter})

/-- One call of the specification; `true` is success. -/
def accept (s : ReplaySpec) (p : NoncePrefix) (counter : ℕ) : ReplaySpec × Bool :=
  if s.Admits p counter then (s.remember p counter, true) else (s, false)

end ReplaySpec

/-! ## One window

`Window st A` reads the pair `(highest, seen)` as the set `A`.  The bitmap can only speak about
the 64 counters from `highest` down; of the rest of `A` it says nothing.
-/

/-- The window of a sender state represents the accepted counters `A`. -/
structure Window (st : ReplayState) (A : Finset ℕ) : Prop where
  highest_mem : st.highest.toNat ∈ A
  le_highest : ∀ c ∈ A, c ≤ st.highest.toNat
  seen_iff : ∀ age < replayWindowSize,
    st.seen.getLsbD age = true ↔ age ≤ st.highest.toNat ∧ st.highest.toNat - age ∈ A

namespace Window

variable {st : ReplayState} {A : Finset ℕ}

lemma sup_eq (h : Window st A) : A.sup id = st.highest.toNat :=
  le_antisymm (Finset.sup_le fun c hc => h.le_highest c hc)
    (Finset.le_sup (f := id) h.highest_mem)

lemma initial (p : NoncePrefix) (counter : BitVec 64) :
    Window ⟨p, counter, 1⟩ {counter.toNat} where
  highest_mem := by simp
  le_highest := by simp
  seen_iff := by
    grind

/-- Moving the window up: the old bits shift by the distance, and bit zero is the new counter.
A jump of 64 or more leaves no old counter within reach. -/
lemma advance (h : Window st A) {counter : BitVec 64} (hlt : st.highest < counter) :
    Window { st with seen := ReplayCache.advance st counter, highest := counter }
      (insert counter.toNat A) := by
  have hlt' : st.highest.toNat < counter.toNat := BitVec.lt_def.mp hlt
  have hshift : (counter - st.highest).toNat = counter.toNat - st.highest.toNat :=
    BitVec.toNat_sub_of_le (BitVec.le_of_lt hlt)
  refine ⟨by simp, ?_, ?_⟩
  · intro c hc
    rcases Finset.mem_insert.mp hc with hc | hc
    · simp [hc]
    · have := h.le_highest c hc
      simp only
      omega
  · intro age hage
    have hlt64 : age < 64 := hage
    simp only [ReplayCache.advance, hshift]
    by_cases hzero : age = 0
    · subst hzero
      split_ifs <;> simp
    · split_ifs with hjump
      · -- everything accepted so far is at least a window away
        have hone : (1 : BitVec 64).getLsbD age = false := by simp [hzero]
        rw [hone]
        simp only [Bool.false_eq_true, false_iff, not_and]
        intro hle hmem
        rcases Finset.mem_insert.mp hmem with hmem | hmem
        · omega
        · have := h.le_highest _ hmem
          simp only [replayWindowSize] at hjump
          omega
      · simp only [BitVec.getLsbD_or, BitVec.getLsbD_shiftLeft', hshift, BitVec.ofNat_eq_ofNat,
          BitVec.getLsbD_one, hzero, hlt64, decide_true, decide_false, Bool.and_false,
          Bool.or_false, Bool.true_and, Finset.mem_insert]
        by_cases hold : age < counter.toNat - st.highest.toNat
        · simp only [hold, decide_true, Bool.not_true, Bool.false_and, Bool.false_eq_true,
            false_iff, not_and]
          rintro hle (hmem | hmem)
          · omega
          · have := h.le_highest _ hmem
            omega
        · simp only [hold, decide_false, Bool.not_false, Bool.true_and]
          rw [h.seen_iff _ (by omega)]
          have hsub : st.highest.toNat - (age - (counter.toNat - st.highest.toNat))
              = counter.toNat - age := by omega
          rw [hsub]
          constructor
          · grind
          · grind

lemma test_mask (h : Window st A) {counter : BitVec 64} (hle : ¬ st.highest < counter)
    (hage : ¬ replayWindowSize ≤ (st.highest - counter).toNat) :
    st.seen &&& (1#64 <<< (st.highest - counter)) ≠ 0 ↔ counter.toNat ∈ A := by
  have hle' : counter.toNat ≤ st.highest.toNat := by
    simpa [BitVec.lt_def] using hle
  have hsub : (st.highest - counter).toNat = st.highest.toNat - counter.toNat :=
    BitVec.toNat_sub_of_le (BitVec.le_def.mpr hle')
  have hbit := h.seen_iff (st.highest - counter).toNat (by omega)
  have hback : st.highest.toNat - (st.highest - counter).toNat = counter.toNat := by omega
  rw [hback] at hbit
  rw [BitVec.shiftLeft_eq', ← BitVec.twoPow_eq, BitVec.and_twoPow]
  split_ifs with hset
  · have hpow : BitVec.twoPow 64 (st.highest - counter).toNat ≠ 0 := by
      intro h0
      have := congrArg (fun x : BitVec 64 => x.getLsbD (st.highest - counter).toNat) h0
      simp only [BitVec.getLsbD_twoPow, BitVec.ofNat_eq_ofNat, BitVec.getLsbD_zero] at this
      simp only [replayWindowSize] at hage
      simp only [decide_true, Bool.and_true, decide_eq_false_iff_not] at this
      omega
    simp only [ne_eq, hpow, not_false_eq_true, true_iff]
    exact (hbit.mp hset).2
  · grind

lemma mark (h : Window st A) {counter : BitVec 64} (hle : ¬ st.highest < counter)
    (hage : ¬ replayWindowSize ≤ (st.highest - counter).toNat) :
    Window { st with seen := st.seen ||| (1#64 <<< (st.highest - counter)) }
      (insert counter.toNat A) := by
  have hle' : counter.toNat ≤ st.highest.toNat := by
    simpa [BitVec.lt_def] using hle
  have hsub : (st.highest - counter).toNat = st.highest.toNat - counter.toNat :=
    BitVec.toNat_sub_of_le (BitVec.le_def.mpr hle')
  refine ⟨Finset.mem_insert_of_mem h.highest_mem, ?_, ?_⟩
  · intro c hc
    rcases Finset.mem_insert.mp hc with hc | hc
    · rw [hc]; exact hle'
    · exact h.le_highest c hc
  · intro age hlt
    simp only [replayWindowSize] at hlt hage
    rw [BitVec.shiftLeft_eq', ← BitVec.twoPow_eq, BitVec.getLsbD_or, Bool.or_eq_true,
      h.seen_iff age hlt, BitVec.getLsbD_twoPow]
    simp only [Bool.and_eq_true, decide_eq_true_eq, Finset.mem_insert]
    constructor
    · grind
    · grind

end Window

end OlcRtc
