import Mathlib.Data.List.Range
import OlcRtc.Lib.Steps
import OlcRtc.Lib.Lists
import OlcRtc.Crypto.Record

/-!
# Concurrent sealing

`SealInto` may run on any number of goroutines at once.  All they share is the counter, and
`nextCounter` touches it with two atomic operations: a load, and a compare-and-swap that sends the
call back to the load when another one got in between.  `SealState.step` performs one of these
for one call, so a list of call indices is an interleaving, and the calls that have not started
yet simply have not been scheduled.

The invariant is that the counters handed out are exactly `1, …, counter`
(`SealState.Inv.handedOut`): everything about nonces follows from that permutation.
-/

namespace OlcRtc

/-! ## The machine -/

/-- Where a call stands in `nextCounter`. -/
inductive SealPc
  | load
  | swap (current : BitVec 64)
  | sealed (counter : BitVec 64)
  | failed (err : CryptoError)
  deriving DecidableEq, Repr

/-- One call of `SealInto`. -/
structure SealCall where
  plaintext : Bytes
  aad : Bytes
  pc : SealPc

/-- The shared counter and all calls, running, finished or yet to start. -/
structure SealState where
  counter : BitVec 64
  calls : List SealCall

namespace SealState

/-- A fresh `sealState` and the calls that will be made on it. -/
def init (jobs : List (Bytes × Bytes)) : SealState where
  counter := 0
  calls := jobs.map fun job => ⟨job.1, job.2, .load⟩

/-- Call `i` moves to a new place. -/
def goto (s : SealState) (i : ℕ) (call : SealCall) (pc : SealPc) : SealState :=
  { s with calls := s.calls.set i { call with pc := pc } }

/-- One atomic operation of call `i`. -/
def step (s : SealState) (i : ℕ) : SealState :=
  match s.calls[i]? with
  | none => s
  | some call =>
    match call.pc with
    | .load =>
      if s.counter = BitVec.allOnes 64 then s.goto i call (.failed .counterExhausted)
      else s.goto i call (.swap s.counter)
    | .swap current =>
      if s.counter = current then
        { s.goto i call (.sealed (current + 1)) with counter := current + 1 }
      else s.goto i call .load
    | .sealed _ => s
    | .failed _ => s

/-! ### What one operation does -/

section StepEquations

variable {s : SealState} {i : ℕ} {call : SealCall}

lemma step_load (hcall : s.calls[i]? = some call) (hpc : call.pc = .load) :
    s.step i = if s.counter = BitVec.allOnes 64 then s.goto i call (.failed .counterExhausted)
      else s.goto i call (.swap s.counter) := by
  simp only [step, hcall, hpc]

lemma step_swap {current : BitVec 64} (hcall : s.calls[i]? = some call)
    (hpc : call.pc = .swap current) :
    s.step i = if s.counter = current then
        { s.goto i call (.sealed (current + 1)) with counter := current + 1 }
      else s.goto i call .load := by
  simp only [step, hcall, hpc]

lemma step_failed {err : CryptoError} (hcall : s.calls[i]? = some call)
    (hpc : call.pc = .failed err) : s.step i = s := by
  simp only [step, hcall, hpc]

lemma getElem?_goto (hcall : s.calls[i]? = some call) (pc : SealPc) :
    (s.goto i call pc).calls[i]? = some { call with pc := pc } := by
  have hi : i < s.calls.length := (List.getElem?_eq_some_iff.mp hcall).1
  simp [goto, hi]

end StepEquations

def handedOutBy (call : SealCall) : Option ℕ :=
  match call.pc with
  | .sealed counter => some counter.toNat
  | _ => none

def handedOut (s : SealState) : List ℕ := s.calls.filterMap handedOutBy

/-! ## The invariant -/

/-- The counters handed out are exactly those from one to the shared counter; a call about to swap
read a value that was not the maximum; a call only fails at the maximum. -/
structure Inv (s : SealState) : Prop where
  handedOut : s.handedOut.Perm (List.range' 1 s.counter.toNat)
  swap_lt : ∀ call ∈ s.calls, ∀ current, call.pc = .swap current →
    current ≠ BitVec.allOnes 64
  failed_only : ∀ call ∈ s.calls, ∀ err, call.pc = .failed err →
    err = .counterExhausted ∧ s.counter = BitVec.allOnes 64

lemma inv_init (jobs : List (Bytes × Bytes)) : (init jobs).Inv where
  handedOut := by
    have hnone : (init jobs).handedOut = [] := by
      rw [SealState.handedOut, List.filterMap_eq_nil_iff]
      intro call hcall
      obtain ⟨job, _, rfl⟩ := List.mem_map.mp hcall
      rfl
    rw [hnone]
    exact List.Perm.refl _
  swap_lt := by
    intro call hcall current hpc
    obtain ⟨job, _, rfl⟩ := List.mem_map.mp hcall
    simp at hpc
  failed_only := by
    intro call hcall err hpc
    obtain ⟨job, _, rfl⟩ := List.mem_map.mp hcall
    simp at hpc

lemma toNat_succ {c : BitVec 64} (h : c ≠ BitVec.allOnes 64) : (c + 1).toNat = c.toNat + 1 := by
  have hlt : c.toNat ≠ 2 ^ 64 - 1 := by
    intro hc
    exact h (BitVec.eq_of_toNat_eq (by rw [hc, BitVec.toNat_allOnes]))
  have hbound := c.isLt
  rw [BitVec.toNat_add]
  simp only [BitVec.ofNat_eq_ofNat, BitVec.toNat_ofNat]
  omega

lemma Inv.goto {s : SealState} (h : s.Inv) {i : ℕ} {call : SealCall} {pc : SealPc}
    (hcall : s.calls[i]? = some call) (hold : handedOutBy call = none)
    (hnew : handedOutBy { call with pc := pc } = none)
    (hswap : ∀ current, pc = .swap current → current ≠ BitVec.allOnes 64)
    (hfail : ∀ err, pc = .failed err → err = .counterExhausted ∧ s.counter = BitVec.allOnes 64) :
    (s.goto i call pc).Inv := by
  refine ⟨?_, ?_, ?_⟩
  · have hsame : (s.goto i call pc).handedOut = s.handedOut :=
      filterMap_set_of_eq hcall (by rw [hnew, hold])
    rw [hsame]
    exact h.handedOut
  · intro c hc current hpc
    rcases List.mem_or_eq_of_mem_set hc with hc | hc
    · exact h.swap_lt c hc current hpc
    · subst hc
      exact hswap current hpc
  · intro c hc err hpc
    rcases List.mem_or_eq_of_mem_set hc with hc | hc
    · exact h.failed_only c hc err hpc
    · subst hc
      exact hfail err hpc

/-- **One atomic operation keeps the invariant.**  Only a successful swap hands out a counter,
and it is the successor of the shared one. -/
lemma Inv.step {s : SealState} (h : s.Inv) (i : ℕ) : (s.step i).Inv := by
  unfold SealState.step
  split
  · exact h
  · next call hcall =>
      have hmem : call ∈ s.calls := List.mem_of_getElem? hcall
      cases hpc : call.pc with
      | load =>
        have hold : handedOutBy call = none := by simp [handedOutBy, hpc]
        simp only
        split_ifs with hmax
        · exact h.goto hcall hold rfl (by simp) (by simp [hmax])
        · refine h.goto hcall hold rfl ?_ (by simp)
          rintro current ⟨rfl⟩
          exact hmax
      | swap current =>
        have hold : handedOutBy call = none := by simp [handedOutBy, hpc]
        simp only
        split_ifs with heq
        · have hmax := h.swap_lt call hmem current hpc
          have hsucc := toNat_succ hmax
          refine ⟨?_, ?_, ?_⟩
          · have hperm : ((s.goto i call (.sealed (current + 1))).handedOut).Perm
                ((current.toNat + 1) :: s.handedOut) :=
              filterMap_set_perm hcall hold (congrArg some hsucc)
            refine hperm.trans ?_
            have hrange := h.handedOut
            rw [heq] at hrange
            simp only [hsucc]
            rw [List.range'_1_concat, Nat.add_comm 1]
            exact (hrange.cons _).trans (List.perm_append_singleton _ _).symm
          · intro c hc cur hcur
            rcases List.mem_or_eq_of_mem_set hc with hc | hc
            · exact h.swap_lt c hc cur hcur
            · subst hc
              simp at hcur
          · intro c hc err herr
            rcases List.mem_or_eq_of_mem_set hc with hc | hc
            · exact absurd (heq ▸ (h.failed_only c hc err herr).2) hmax
            · subst hc
              simp at herr
        · exact h.goto hcall hold rfl (by simp) (by simp)
      | sealed counter => exact h
      | failed err => exact h

/-- The invariant after every interleaving. -/
theorem inv_run (jobs : List (Bytes × Bytes)) (schedule : List ℕ) :
    (run step (init jobs) schedule).Inv :=
  run_invariant_of_step step (fun _ i h => h.step i) (inv_init jobs) schedule

end SealState

end OlcRtc
