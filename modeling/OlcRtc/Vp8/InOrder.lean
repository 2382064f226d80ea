import OlcRtc.Lib.Lists
import OlcRtc.Lib.Steps
import OlcRtc.Vp8.Reorder
import Mathlib.Data.List.Dedup

/-!
# What the reorder buffer holds, and when it loses nothing

Two results about whole runs of pushes.

**Any packets at all.**  Sequence numbers compare only within half of their range, so the buffer
relies on everything it holds being less than `2 ^ 15` ahead of `nextSeq`.  A push keeps this up for
packets with any numbers: one that is further ahead counts as old and is dropped.  The packets held
and the packets kept for reuse are never more than the window and one together (`Bounded`).

**A stream that arrives complete.**  If the packets of a contiguous range arrive in some order, some
of them more than once, the lowest first, and no more than a window of them ever waits behind a
missing one, then the buffer hands out the range itself.  The position of the buffer is always the
first packet that has not arrived (`Caught`), so the only packet that can fill the window past its
bound is the missing one, and then `skipToOldest` skips nothing.

Both rest on `drained_drain`, which says completely what `drain` does: it hands out the longest run
of packets held from `nextSeq` on, and leaves the rest.  **`reorderBuffer_exact`** is the two
together.
-/

namespace OlcRtc

/-- One call of `push`, with an order in which the map may be traversed. -/
structure Push where
  packet : RtpPacket
  order : List UInt16 → List UInt16
  perm : ∀ seqs, (order seqs).Perm seqs

/-- The buffer and everything it has handed to `deliver`. -/
structure Reordering where
  buffer : ReorderBuffer
  delivered : List RtpPacket

namespace Reordering

def init : Reordering := ⟨ReorderBuffer.new, []⟩

def step (r : Reordering) (p : Push) : Reordering :=
  ⟨(r.buffer.push p.order p.packet).1, r.delivered ++ (r.buffer.push p.order p.packet).2⟩

end Reordering

/-- What is held is ahead, within the window, and the storage is bounded. -/
structure ReorderBuffer.Bounded (b : ReorderBuffer) : Prop where
  ahead : ∀ seq ∈ b.pkts, 0 < (seq - b.nextSeq).toNat ∧ (seq - b.nextSeq).toNat < 2 ^ 15
  window : b.pkts.keys.length ≤ 256
  storage : b.pkts.keys.length + b.free.length ≤ 257
  idle : b.started = false → b.pkts = ∅

/-- The packets that have arrived behind one that has not. -/
def waiting (arrived : List ℕ) : List ℕ :=
  arrived.dedup.filter fun i => (List.range i).any fun j => decide (j ∉ arrived)

lemma mem_waiting {arrived : List ℕ} {i : ℕ} :
    i ∈ waiting arrived ↔ i ∈ arrived ∧ ∃ j < i, j ∉ arrived := by
  simp [waiting]

/-! ## What `drain` does -/

@[simp] lemma seqOf_zero (first : UInt16) : seqOf first 0 = first := by
  rw [seqOf]
  exact UInt16.add_zero first

lemma seqOf_add_one (first : UInt16) (k : ℕ) : seqOf (first + 1) k = seqOf first (k + 1) := by
  rw [seqOf_succ, seqOf, seqOf, UInt16.add_assoc, UInt16.add_assoc, UInt16.add_comm 1]

lemma seqOf_seqOf (first : UInt16) (i k : ℕ) : seqOf (seqOf first i) k = seqOf first (i + k) := by
  rw [seqOf, seqOf, seqOf, UInt16.ofNat_add, UInt16.add_assoc]

lemma seqOf_sub_toNat (first seq : UInt16) : seqOf first (seq - first).toNat = seq := by
  rw [seqOf, UInt16.ofNat_toNat, UInt16.add_comm, UInt16.sub_add_cancel]

lemma seqOf_inj {first : UInt16} {i j : ℕ} (hi : i < 2 ^ 16) (hj : j < 2 ^ 16)
    (h : seqOf first i = seqOf first j) : i = j := by
  have hd := seqOf_sub first i j
  rw [h, UInt16.sub_self] at hd
  change 0 = _ at hd
  omega

namespace ReorderBuffer

variable {b : ReorderBuffer} {pkt : RtpPacket} {order : List UInt16 → List UInt16}

/-- `result` is what is left of `b`, and what was handed out, once the longest run of packets from
`nextSeq` on has been handed out. -/
structure Drained (b : ReorderBuffer) (result : ReorderBuffer × List RtpPacket) : Prop where
  started : result.1.started = b.started
  next : result.1.nextSeq = seqOf b.nextSeq result.2.length
  missing : result.1.nextSeq ∉ result.1.pkts
  handed : ∀ k < result.2.length, b.pkts.lookup (seqOf b.nextSeq k) = result.2[k]?
  gone : ∀ k < result.2.length, seqOf b.nextSeq k ∉ result.1.pkts
  kept : ∀ seq, (∀ k < result.2.length, seq ≠ seqOf b.nextSeq k) →
    result.1.pkts.lookup seq = b.pkts.lookup seq
  held : result.1.pkts.keys.length + result.2.length = b.pkts.keys.length
  free : result.1.free.length = b.free.length + result.2.length

lemma drained_nil (h : b.nextSeq ∉ b.pkts) : b.Drained (b, []) where
  started := rfl
  next := (seqOf_zero _).symm
  missing := h
  handed k hk := absurd hk (Nat.not_lt_zero k)
  gone k hk := absurd hk (Nat.not_lt_zero k)
  kept _ _ := rfl
  held := rfl
  free := rfl

lemma length_keys_take (h : b.pkts.lookup b.nextSeq = some pkt) :
    (b.take pkt).pkts.keys.length + 1 = b.pkts.keys.length := by
  have hmem : b.nextSeq ∈ b.pkts.keys := AList.lookup_isSome.1 (by rw [h]; rfl)
  show (b.pkts.erase b.nextSeq).keys.length + 1 = _
  rw [AList.keys_erase, List.length_erase_of_mem hmem]
  have := List.length_pos_of_mem hmem
  omega

lemma Drained.cons {result : ReorderBuffer × List RtpPacket}
    (hpkt : b.pkts.lookup b.nextSeq = some pkt) (h : (b.take pkt).Drained result) :
    b.Drained (result.1, pkt :: result.2) := by
  have hnext : (b.take pkt).nextSeq = b.nextSeq + 1 := rfl
  have hpkts : (b.take pkt).pkts = b.pkts.erase b.nextSeq := rfl
  refine ⟨h.started, ?_, h.missing, ?_, ?_, ?_, ?_, ?_⟩
  · rw [h.next, hnext, seqOf_add_one, List.length_cons]
  · intro k hk
    cases k with
    | zero => rw [seqOf_zero, hpkt, List.getElem?_cons_zero]
    | succ k =>
      have hlt : k < result.2.length := Nat.lt_of_succ_lt_succ hk
      have hk' := h.handed k hlt
      rw [hnext, seqOf_add_one, hpkts] at hk'
      rw [List.getElem?_cons_succ, ← hk']
      -- a packet found after the erasure was not the one erased
      have hmem : seqOf b.nextSeq (k + 1) ∈ b.pkts.erase b.nextSeq := by
        rw [← AList.lookup_isSome, hk', List.getElem?_eq_getElem hlt]
        rfl
      rw [AList.lookup_erase_ne (AList.mem_erase.1 hmem).1]
  · intro k hk
    cases k with
    | zero =>
      rw [seqOf_zero]
      by_cases hlater : ∃ k < result.2.length, b.nextSeq = seqOf (b.take pkt).nextSeq k
      · obtain ⟨k, hk, heq⟩ := hlater
        rw [heq]
        exact h.gone k hk
      · push Not at hlater
        rw [← AList.lookup_isSome, h.kept b.nextSeq hlater, hpkts, AList.lookup_erase]
        exact Bool.false_ne_true
    | succ k =>
      rw [← seqOf_add_one]
      exact h.gone k (Nat.lt_of_succ_lt_succ hk)
  · intro seq hseq
    have hne : seq ≠ b.nextSeq := by
      have := hseq 0 (Nat.succ_pos _)
      rwa [seqOf_zero] at this
    rw [h.kept seq, hpkts, AList.lookup_erase_ne hne]
    intro k hk
    rw [hnext, seqOf_add_one]
    exact hseq (k + 1) (Nat.succ_lt_succ hk)
  · have := length_keys_take hpkt
    have := h.held
    show result.1.pkts.keys.length + (result.2.length + 1) = _
    omega
  · have hfree : (b.take pkt).free.length = b.free.length + 1 := rfl
    have := h.free
    show result.1.free.length = b.free.length + (result.2.length + 1)
    omega

lemma drained_drainLoop (fuel : ℕ) :
    ∀ b : ReorderBuffer, b.pkts.keys.length ≤ fuel → b.Drained (b.drainLoop fuel) := by
  induction fuel with
  | zero =>
    intro b hlen
    refine drained_nil fun hmem => ?_
    have := List.length_pos_of_mem (AList.mem_keys.1 hmem)
    omega
  | succ fuel ih =>
    intro b hlen
    rw [drainLoop]
    cases hpkt : b.pkts.lookup b.nextSeq with
    | none => exact drained_nil fun hmem => by simp [← AList.lookup_isSome, hpkt] at hmem
    | some pkt =>
      have := length_keys_take hpkt
      exact (ih (b.take pkt) (by omega)).cons hpkt

/-- **What `drain` does.** -/
lemma drained_drain (b : ReorderBuffer) : b.Drained b.drain :=
  drained_drainLoop _ b (Nat.le_refl _)

namespace Drained

variable {result : ReorderBuffer × List RtpPacket}

lemma mem_of_mem (h : b.Drained result) {seq : UInt16} (hseq : seq ∈ result.1.pkts) :
    seq ∈ b.pkts ∧ ∀ k < result.2.length, seq ≠ seqOf b.nextSeq k := by
  have hne : ∀ k < result.2.length, seq ≠ seqOf b.nextSeq k := fun k hk heq =>
    h.gone k hk (heq ▸ hseq)
  refine ⟨?_, hne⟩
  rwa [← AList.lookup_isSome, ← h.kept seq hne, AList.lookup_isSome]

lemma mem_of_handed (h : b.Drained result) {k : ℕ} (hk : k < result.2.length) :
    seqOf b.nextSeq k ∈ b.pkts := by
  rw [← AList.lookup_isSome, h.handed k hk, List.getElem?_eq_getElem hk]
  rfl

lemma ahead (h : b.Drained result)
    (hnear : ∀ seq ∈ b.pkts, (seq - b.nextSeq).toNat < 2 ^ 15) :
    ∀ seq ∈ result.1.pkts,
      0 < (seq - result.1.nextSeq).toNat ∧ (seq - result.1.nextSeq).toNat < 2 ^ 15 := by
  intro seq hseq
  obtain ⟨hmem, hne⟩ := h.mem_of_mem hseq
  have hlt := hnear seq hmem
  -- a number at a distance below the length of the run would have been handed out
  have hdist : result.2.length ≤ (seq - b.nextSeq).toNat := by
    grind [Nat.lt_of_not_le, seqOf_sub_toNat]
  have hrun : (result.1.nextSeq - b.nextSeq).toNat = result.2.length := by
    have := seqOf_add_sub b.nextSeq 0 (m := result.2.length) (by omega)
    rwa [Nat.zero_add, seqOf_zero, ← h.next] at this
  have hsub := sub_toNat_of_le (n := b.nextSeq) (a := result.1.nextSeq) (b := seq) (by omega)
  have hpos : seq ≠ result.1.nextSeq := fun heq => h.missing (heq ▸ hseq)
  have hzero : (seq - result.1.nextSeq).toNat ≠ 0 := by
    grind [seqOf_sub_toNat, seqOf_zero]
  omega

end Drained

/-! ## Any packets at all -/

lemma mem_store {seq : UInt16} :
    seq ∈ (b.store pkt).pkts ↔ seq = pkt.sequenceNumber ∨ seq ∈ b.pkts := by
  obtain ⟨copy, -, -, -, hpkts⟩ := store_pkts b pkt
  rw [hpkts, AList.mem_insert]

lemma length_keys_store :
    (b.store pkt).pkts.keys.length =
      if pkt.sequenceNumber ∈ b.pkts then b.pkts.keys.length else b.pkts.keys.length + 1 := by
  obtain ⟨copy, -, -, -, hpkts⟩ := store_pkts b pkt
  rw [hpkts, length_keys_insert]

/-- A replaced packet is reused for the copy; otherwise a kept packet is, if there is one. -/
lemma length_free_store :
    (b.store pkt).free.length =
      if pkt.sequenceNumber ∈ b.pkts then b.free.length else b.free.length - 1 := by
  by_cases hmem : pkt.sequenceNumber ∈ b.pkts
  · obtain ⟨old, hold⟩ := Option.isSome_iff_exists.1 (AList.lookup_isSome.2 hmem)
    rw [if_pos hmem, store, hold]
    rfl
  · rw [if_neg hmem, store, AList.lookup_eq_none.2 hmem]
    exact List.length_tail

lemma store_near (hnear : ∀ seq ∈ b.pkts, (seq - b.nextSeq).toNat < 2 ^ 15)
    (hless : ¬seqLess pkt.sequenceNumber b.nextSeq = true) :
    ∀ seq ∈ (b.store pkt).pkts, (seq - (b.store pkt).nextSeq).toNat < 2 ^ 15 := by
  intro seq hseq
  rw [store_nextSeq]
  rcases mem_store.1 hseq with rfl | hmem
  · rwa [seqLess_iff, Nat.not_le] at hless
  · exact hnear seq hmem

lemma skipToOldest_near (horder : ∀ seqs, (order seqs).Perm seqs) (hne : b.pkts.keys ≠ [])
    (hnear : ∀ seq ∈ b.pkts, (seq - b.nextSeq).toNat < 2 ^ 15) :
    ∃ old ∈ b.pkts, b.skipToOldest order = { b with nextSeq := old } ∧
      ∀ seq ∈ b.pkts, (old - b.nextSeq).toNat ≤ (seq - b.nextSeq).toNat := by
  have hmem : ∀ {seq}, seq ∈ order b.pkts.keys ↔ seq ∈ b.pkts := (horder _).mem_iff
  have hne' : order b.pkts.keys ≠ [] := fun hnil => hne (by
    simpa [hnil] using (horder b.pkts.keys).symm)
  obtain ⟨old, hold, heq, hmin⟩ := oldestSeq_spec hne' fun seq hseq => hnear seq (hmem.1 hseq)
  refine ⟨old, hmem.1 hold, ?_, fun seq hseq => hmin seq (hmem.2 hseq)⟩
  rw [skipToOldest, heq]
  rfl

lemma Bounded.start (h : b.Bounded) (pkt : RtpPacket) : (b.start pkt).Bounded := by
  cases hstarted : b.started with
  | true =>
    rw [ReorderBuffer.start, if_pos hstarted]
    exact h
  | false =>
    have hempty := h.idle hstarted
    rw [ReorderBuffer.start, if_neg (by simp [hstarted])]
    refine ⟨fun seq hseq => ?_, h.window, h.storage, fun hfalse => absurd hfalse (by simp)⟩
    have hseq' : seq ∈ b.pkts := hseq
    rw [hempty] at hseq'
    exact absurd hseq' (AList.notMem_empty seq)

lemma Bounded.of_drained {result : ReorderBuffer × List RtpPacket} (h : b.Drained result)
    (hstarted : b.started = true) (hnear : ∀ seq ∈ b.pkts, (seq - b.nextSeq).toNat < 2 ^ 15)
    (hlen : b.pkts.keys.length ≤ 257) (hstorage : b.pkts.keys.length + b.free.length ≤ 257)
    (hfull : 256 < b.pkts.keys.length → b.nextSeq ∈ b.pkts) : result.1.Bounded where
  ahead := h.ahead hnear
  window := by
    have hheld := h.held
    by_cases hwindow : 256 < b.pkts.keys.length
    · have hsome : result.2.length ≠ 0 := by
        intro hzero
        have hnext := h.next
        rw [hzero, seqOf_zero] at hnext
        refine h.missing ?_
        rw [hnext, ← AList.lookup_isSome, h.kept b.nextSeq fun k hk => by omega]
        exact AList.lookup_isSome.2 (hfull hwindow)
      omega
    · omega
  storage := by
    have := h.held
    have := h.free
    omega
  idle hfalse := by
    rw [h.started, hstarted] at hfalse
    cases hfalse

/-- **A push keeps the buffer bounded**, whatever the number of the packet. -/
lemma Bounded.push (h : b.Bounded) (p : Push) : (b.push p.order p.packet).1.Bounded := by
  have hb := h.start p.packet
  have hstarted : (b.start p.packet).started = true := by
    rw [ReorderBuffer.start]
    split_ifs with hs
    · exact hs
    · rfl
  simp only [ReorderBuffer.push]
  generalize b.start p.packet = b at hb hstarted
  split_ifs with hless hfull
  · exact hb
  all_goals
    have hnear := store_near (fun seq hseq => (hb.ahead seq hseq).2) hless
    have hlen := @length_keys_store b p.packet
    have hfree := @length_free_store b p.packet
    have hwindow := hb.window
    have hstorage := hb.storage
    have hle : (b.store p.packet).pkts.keys.length ≤ 257 := by split_ifs at hlen <;> omega
    have htotal : (b.store p.packet).pkts.keys.length + (b.store p.packet).free.length ≤ 257 := by
      split_ifs at hlen hfree <;> omega
    have hon : (b.store p.packet).started = true := by rw [store_started, hstarted]
  · have hne : (b.store p.packet).pkts.keys ≠ [] := by
      intro hnil
      rw [hnil] at hfull
      exact absurd hfull (by decide)
    obtain ⟨old, hold, heq, hmin⟩ := skipToOldest_near p.perm hne hnear
    rw [heq]
    refine Bounded.of_drained (drained_drain _) hon (fun seq hseq => ?_) hle htotal fun _ => hold
    have hlt := hnear seq hseq
    have hsub := sub_toNat_of_le (hmin seq hseq)
    show (seq - old).toNat < 2 ^ 15
    omega
  · exact Bounded.of_drained (drained_drain _) hon hnear hle htotal fun hfull' =>
      absurd hfull' hfull

lemma bounded_new : new.Bounded :=
  ⟨fun seq hseq => absurd hseq (AList.notMem_empty seq), by decide, by decide, fun _ => rfl⟩

lemma bounded_run (pushes : List Push) :
    (run Reordering.step Reordering.init pushes).buffer.Bounded :=
  run_invariant_of_step Reordering.step (I := fun r => r.buffer.Bounded)
    (fun _ p h => h.push p) bounded_new pushes

/-! ## A stream that arrives complete -/

/-- A push that does not exceed the window, or that brings the packet at the position, skips
nothing. -/
lemma push_eq_drain (hstarted : b.started = true)
    (hnear : ∀ seq ∈ b.pkts, (seq - b.nextSeq).toNat < 2 ^ 15)
    (horder : ∀ seqs, (order seqs).Perm seqs)
    (hless : ¬seqLess pkt.sequenceNumber b.nextSeq = true)
    (hroom : (b.store pkt).pkts.keys.length ≤ 256 ∨ pkt.sequenceNumber = b.nextSeq) :
    b.push order pkt = (b.store pkt).drain := by
  have hstart : b.start pkt = b := by rw [start, if_pos hstarted]
  simp only [push, hstart]
  rw [if_neg hless]
  by_cases hfull : reorderWindow < (b.store pkt).pkts.keys.length
  · rw [if_pos hfull]
    have hnext : pkt.sequenceNumber = b.nextSeq := by
      rcases hroom with hroom | hnext
      · exact absurd hfull (Nat.not_lt.2 hroom)
      · exact hnext
    have hne : (b.store pkt).pkts.keys ≠ [] := by
      grind
    obtain ⟨old, -, heq, hmin⟩ := skipToOldest_near horder hne (store_near hnear hless)
    -- the packet at the position is held, so nothing is closer
    have hzero := hmin b.nextSeq (mem_store.2 (Or.inl hnext.symm))
    rw [store_nextSeq, UInt16.sub_self] at hzero
    have hold : old = b.nextSeq := by
      rw [← seqOf_sub_toNat b.nextSeq old, Nat.le_zero.1 hzero, seqOf_zero]
    rw [heq, hold, ← store_nextSeq b pkt]
  · rw [if_neg hfull]

end ReorderBuffer

/-- What `deliver` can see of a packet. -/
def RtpPacket.seen (pkt : RtpPacket) : UInt16 × Option (Bool × Bytes) :=
  (pkt.sequenceNumber, some (pkt.marker, pkt.payload.content))

lemma RtpPacket.Carries.seen_eq {sent : ℕ → Option (Bool × Bytes)} {first : UInt16} {i : ℕ}
    {pkt : RtpPacket} (h : pkt.Carries sent first i) : pkt.seen = (seqOf first i, sent i) := by
  rw [RtpPacket.seen, h.number, h.body]

/-- After the packets `arrived`, the position is the first one missing, everything before it has
been handed out in order, and what has arrived behind it is held. -/
structure Reordering.Caught (sent : ℕ → Option (Bool × Bytes)) (first : UInt16) (arrived : List ℕ)
    (r : Reordering) (pos : ℕ) : Prop where
  inv : r.buffer.Inv sent first (2 ^ 15) pos
  before : ∀ j < pos, j ∈ arrived
  missing : pos ∉ arrived
  held : ∀ i ∈ arrived, pos < i → seqOf first i ∈ r.buffer.pkts
  known : ∀ seq ∈ r.buffer.pkts, ∃ i ∈ arrived, pos < i ∧ seq = seqOf first i
  delivered : r.delivered.map RtpPacket.seen =
    (List.range pos).map fun i => (seqOf first i, sent i)

namespace Reordering.Caught

variable {sent : ℕ → Option (Bool × Bytes)} {first : UInt16} {arrived : List ℕ} {r : Reordering}
  {pos i : ℕ} {p : Push}

lemma step_of_lt (h : r.Caught sent first arrived pos) (hpkt : p.packet.Carries sent first i)
    (hpos : pos < 2 ^ 15) (hlt : i < pos) : (r.step p).Caught sent first (arrived ++ [i]) pos := by
  have hless : seqLess p.packet.sequenceNumber r.buffer.nextSeq = true := by
    rw [seqLess_iff, hpkt.number, h.inv.next, seqOf_sub]
    omega
  have hpush : r.buffer.push p.order p.packet = (r.buffer, []) := by
    have hstart : r.buffer.start p.packet = r.buffer := by
      rw [ReorderBuffer.start, if_pos h.inv.started]
    simp only [ReorderBuffer.push, hstart]
    rw [if_pos hless]
  have hstep : r.step p = r := by
    rw [Reordering.step, hpush, List.append_nil]
  rw [hstep]
  have hmem : ∀ j, j ∈ arrived ++ [i] ↔ j ∈ arrived := by
    grind [List.mem_singleton, OlcRtc.Reordering.Caught.before]
  refine ⟨h.inv, fun j hj => (hmem j).2 (h.before j hj), fun hp => h.missing ((hmem pos).1 hp),
    fun j hj => h.held j ((hmem j).1 hj), fun seq hseq => ?_, h.delivered⟩
  obtain ⟨j, hj, hlt', heq⟩ := h.known seq hseq
  exact ⟨j, (hmem j).2 hj, hlt', heq⟩

lemma mem_store_iff (h : r.Caught sent first arrived pos) (hpkt : p.packet.Carries sent first i)
    (hle : pos ≤ i) (seq : UInt16) : seq ∈ (r.buffer.store p.packet).pkts ↔
      ∃ j ∈ arrived ++ [i], pos ≤ j ∧ seq = seqOf first j := by
  rw [ReorderBuffer.mem_store]
  constructor
  · rintro (rfl | hseq)
    · exact ⟨i, by simp, hle, hpkt.number⟩
    · obtain ⟨j, hj, hlt, heq⟩ := h.known seq hseq
      exact ⟨j, by simp [hj], hlt.le, heq⟩
  · rintro ⟨j, hj, hle', rfl⟩
    rcases List.mem_append.1 hj with hj | hj
    · right
      refine h.held j hj (lt_of_le_of_ne hle' ?_)
      rintro rfl
      exact h.missing hj
    · left
      rw [List.mem_singleton.1 hj, hpkt.number]

lemma length_store_le (h : r.Caught sent first arrived pos)
    (hpkt : p.packet.Carries sent first i) (hlt : pos < i) :
    (r.buffer.store p.packet).pkts.keys.length ≤ (waiting (arrived ++ [i])).length := by
  have hmissing : pos ∉ arrived ++ [i] := by
    rw [List.mem_append, List.mem_singleton]
    rintro (hp | hp)
    · exact h.missing hp
    · omega
  have hsub : (r.buffer.store p.packet).pkts.keys ⊆
      (waiting (arrived ++ [i])).map (seqOf first) := by
    intro seq hseq
    obtain ⟨j, hj, hle, rfl⟩ := (h.mem_store_iff hpkt hlt.le seq).1 hseq
    refine List.mem_map.2 ⟨j, mem_waiting.2 ⟨hj, pos, ?_, hmissing⟩, rfl⟩
    exact lt_of_le_of_ne hle fun heq => hmissing (heq ▸ hj)
  have hlen := (List.subperm_of_subset (AList.keys_nodup _) hsub).length_le
  rwa [List.length_map] at hlen

lemma step_of_le (h : r.Caught sent first arrived pos) (hpkt : p.packet.Carries sent first i)
    (harrived : ∀ j ∈ arrived, j < 2 ^ 15) (hi : i < 2 ^ 15) (hle : pos ≤ i)
    (hroom : (waiting (arrived ++ [i])).length ≤ 256) :
    ∃ pos', (r.step p).Caught sent first (arrived ++ [i]) pos' := by
  have hnext := h.inv.next
  have hless : ¬seqLess p.packet.sequenceNumber r.buffer.nextSeq = true := by
    rw [seqLess_iff, hpkt.number, hnext, seqOf_sub]
    omega
  have hnear : ∀ seq ∈ r.buffer.pkts, (seq - r.buffer.nextSeq).toNat < 2 ^ 15 := by
    intro seq hseq
    obtain ⟨pkt, hlookup⟩ := Option.isSome_iff_exists.1 (AList.lookup_isSome.2 hseq)
    exact (h.inv.held seq pkt hlookup).1
  have hpush : r.buffer.push p.order p.packet = (r.buffer.store p.packet).drain := by
    refine ReorderBuffer.push_eq_drain h.inv.started hnear p.perm hless ?_
    rcases Nat.lt_or_eq_of_le hle with hlt | rfl
    · exact Or.inl ((h.length_store_le hpkt hlt).trans hroom)
    · exact Or.inr (hpkt.number.trans hnext.symm)
  have hstored := h.inv.store hpkt hle (by omega) (by decide)
  have hbound : ∀ j ∈ arrived ++ [i], j < 2 ^ 15 := by
    grind
  have hmem := h.mem_store_iff hpkt hle
  -- `drain` in terms of numbers, and what it hands out in terms of the stream
  have hdrained := ReorderBuffer.drained_drain (r.buffer.store p.packet)
  obtain ⟨hlen, hinv, hout⟩ :=
    hstored.drainLoop (r.buffer.store p.packet).pkts.keys.length
  rw [← ReorderBuffer.drain] at hlen hinv hout
  have hseq : ∀ k, seqOf (r.buffer.store p.packet).nextSeq k = seqOf first (pos + k) := by
    intro k
    rw [ReorderBuffer.store_nextSeq, hnext, seqOf_seqOf]
  have hstep : r.step p = ⟨(r.buffer.store p.packet).drain.1,
      r.delivered ++ (r.buffer.store p.packet).drain.2⟩ := by
    rw [Reordering.step, hpush]
  rw [hstep]
  generalize (r.buffer.store p.packet).drain = result at hdrained hlen hinv hout
  have hmissing : pos + result.2.length ∉ arrived ++ [i] := by
    intro hin
    refine hdrained.missing ?_
    rw [hdrained.next, hseq, ← AList.lookup_isSome, hdrained.kept, AList.lookup_isSome]
    · exact (hmem _).2 ⟨_, hin, Nat.le_add_right _ _, rfl⟩
    · intro k hk heq
      rw [hseq] at heq
      have := hbound _ hin
      have := seqOf_inj (by omega) (by omega) heq
      omega
  refine ⟨pos + result.2.length, hinv.mono (by omega), ?_, hmissing, ?_, ?_, ?_⟩
  · intro j hj
    rcases Nat.lt_or_ge j pos with hlt | hge
    · exact List.mem_append_left _ (h.before j hlt)
    · obtain ⟨k, rfl⟩ := Nat.exists_eq_add_of_le hge
      have hheld := hdrained.mem_of_handed (k := k) (by omega)
      rw [hseq, hmem] at hheld
      obtain ⟨j, hj', -, heq⟩ := hheld
      have := hbound j hj'
      rwa [seqOf_inj (by omega) (by omega) heq]
  · intro j hj hlt
    show seqOf first j ∈ result.1.pkts
    rw [← AList.lookup_isSome, hdrained.kept, AList.lookup_isSome]
    · exact (hmem _).2 ⟨j, hj, by omega, rfl⟩
    · intro k hk heq
      rw [hseq] at heq
      have := hbound j hj
      have := seqOf_inj (by omega) (by omega) heq
      omega
  · intro seq hin
    obtain ⟨hin', hne⟩ := hdrained.mem_of_mem hin
    obtain ⟨j, hj, hle', rfl⟩ := (hmem seq).1 hin'
    refine ⟨j, hj, ?_, rfl⟩
    by_contra hlow
    rcases Nat.lt_or_eq_of_le (Nat.not_lt.1 hlow) with hlt | rfl
    · refine hne (j - pos) (by omega) ?_
      rw [hseq, Nat.add_sub_cancel' hle']
    · exact hmissing hj
  · rw [List.map_append, h.delivered, List.range_add, List.map_append]
    congr 1
    apply List.ext_getElem?
    intro k
    rw [List.map_map, List.getElem?_map, List.getElem?_map]
    cases hk : result.2[k]? with
    | none =>
      grind
    | some pkt =>
      have hlt := (List.getElem?_eq_some_iff.1 hk).1
      rw [List.getElem?_range hlt, Option.map_some, Option.map_some, (hout k pkt hk).seen_eq]
      rfl

lemma pos_le {n : ℕ} (h : r.Caught sent first arrived pos) (harrived : ∀ j ∈ arrived, j < n) :
    pos ≤ n := by
  by_contra hlt
  exact absurd (harrived n (h.before n (Nat.not_le.1 hlt))) (Nat.lt_irrefl n)

lemma run {n : ℕ} (hn : n < 2 ^ 15) (arrivals : List (ℕ × Push)) :
    ∀ {arrived : List ℕ} {r : Reordering} {pos : ℕ}, r.Caught sent first arrived pos →
    (∀ j ∈ arrived, j < n) → (∀ a ∈ arrivals, a.2.packet.Carries sent first a.1 ∧ a.1 < n) →
    (∀ k, (waiting (arrived ++ (arrivals.map Prod.fst).take k)).length ≤ 256) →
    ∃ pos', (OlcRtc.run Reordering.step r (arrivals.map Prod.snd)).Caught sent first
      (arrived ++ arrivals.map Prod.fst) pos' := by
  induction arrivals with
  | nil =>
    intro arrived r pos h _ _ _
    exact ⟨pos, by rw [List.map_nil, List.append_nil]; exact h⟩
  | cons a arrivals ih =>
    intro arrived r pos h harrived hcarries hroom
    obtain ⟨hpkt, hi⟩ := hcarries a (List.mem_cons_self ..)
    have hpos := h.pos_le harrived
    have hone : (waiting (arrived ++ [a.1])).length ≤ 256 := hroom 1
    obtain ⟨pos', h'⟩ : ∃ pos', (r.step a.2).Caught sent first (arrived ++ [a.1]) pos' := by
      rcases Nat.lt_or_ge a.1 pos with hlt | hge
      · exact ⟨pos, h.step_of_lt hpkt (by omega) hlt⟩
      · exact h.step_of_le hpkt (fun j hj => (harrived j hj).trans hn) (by omega) hge hone
    have harrived' : ∀ j ∈ arrived ++ [a.1], j < n := by
      grind
    have hroom' : ∀ k,
        (waiting (arrived ++ [a.1] ++ (arrivals.map Prod.fst).take k)).length ≤ 256 := by
      intro k
      rw [List.append_assoc]
      exact hroom (k + 1)
    obtain ⟨pos'', h''⟩ := ih h' harrived' (fun b hb => hcarries b (List.mem_cons_of_mem _ hb))
      hroom'
    rw [List.append_assoc] at h''
    exact ⟨pos'', h''⟩

end Reordering.Caught

lemma Reordering.caught_start {sent : ℕ → Option (Bool × Bytes)} {first : UInt16} {p : Push}
    (hpkt : p.packet.Carries sent first 0) :
    Reordering.Caught sent first [] ⟨ReorderBuffer.new.start p.packet, []⟩ 0 where
  inv := ReorderBuffer.inv_start (b := ReorderBuffer.new) rfl rfl hpkt
  before j hj := absurd hj (Nat.not_lt_zero j)
  missing := List.not_mem_nil
  held _ hi := absurd hi List.not_mem_nil
  known seq hseq := absurd hseq (AList.notMem_empty seq)
  delivered := rfl

lemma Reordering.delivered_eq (stream : List (Bool × Bytes)) (first : UInt16)
    (arrivals : List (ℕ × Push)) (hlength : stream.length < 2 ^ 15)
    (hfirst : ∃ p rest, arrivals = (0, p) :: rest)
    (hcarries : ∀ a ∈ arrivals, a.2.packet.Carries (stream[·]?) first a.1)
    (hall : ∀ i < stream.length, ∃ a ∈ arrivals, a.1 = i)
    (hroom : ∀ k, (waiting ((arrivals.map Prod.fst).take k)).length ≤ 256) :
    (run Reordering.step Reordering.init (arrivals.map Prod.snd)).delivered.map RtpPacket.seen =
      (List.range stream.length).map fun i => (seqOf first i, stream[i]?) := by
  have hindex : ∀ a ∈ arrivals, a.1 < stream.length := by
    intro a ha
    exact (List.getElem?_eq_some_iff.1 (hcarries a ha).body).1
  obtain ⟨p, rest, rfl⟩ := hfirst
  have hcaught := Reordering.caught_start (hcarries (0, p) (List.mem_cons_self ..))
  -- the first push starts the buffer, so it is a push into the started one
  have hrun : run Reordering.step Reordering.init (((0, p) :: rest).map Prod.snd) =
      run Reordering.step ⟨ReorderBuffer.new.start p.packet, []⟩
        (((0, p) :: rest).map Prod.snd) := by
    rw [List.map_cons, run_cons, run_cons]
    simp only [Reordering.step, Reordering.init, ReorderBuffer.push_start]
  obtain ⟨pos, h⟩ := hcaught.run hlength ((0, p) :: rest) (fun j hj => absurd hj List.not_mem_nil)
    (fun a ha => ⟨hcarries a ha, hindex a ha⟩) hroom
  rw [List.nil_append] at h
  have hmem : ∀ i, i ∈ ((0, p) :: rest).map Prod.fst ↔ i < stream.length := by
    grind
  have hpos : pos = stream.length := by
    refine Nat.le_antisymm (h.pos_le fun j hj => (hmem j).1 hj) ?_
    exact Nat.not_lt.1 fun hlt => h.missing ((hmem pos).2 hlt)
  rw [hrun, h.delivered, hpos]

/-- **The reorder buffer.**  After any pushes whatsoever, everything held is ahead of the position
by less than half of the number range, at most 256 packets are held, and at most 257 packets are
held or kept for reuse.  And if the packets of a stream shorter than `2 ^ 15` arrive in any order
and any number of times, packet 0 first, so that never more than 256 of them wait behind one that is
missing, then exactly the stream is handed out: each packet once, in order, with its own marker and
payload. -/
theorem reorderBuffer_exact :
    (∀ (pushes : List Push) (b : ReorderBuffer),
      b = (run Reordering.step Reordering.init pushes).buffer →
      (∀ seq ∈ b.pkts, 0 < (seq - b.nextSeq).toNat ∧ (seq - b.nextSeq).toNat < 2 ^ 15) ∧
      b.pkts.keys.length ≤ 256 ∧ b.pkts.keys.length + b.free.length ≤ 257) ∧
    ∀ (stream : List (Bool × Bytes)) (first : UInt16) (arrivals : List (ℕ × Push)),
      stream.length < 2 ^ 15 → (∃ p rest, arrivals = (0, p) :: rest) →
      (∀ a ∈ arrivals, a.2.packet.Carries (stream[·]?) first a.1) →
      (∀ i < stream.length, ∃ a ∈ arrivals, a.1 = i) →
      (∀ k, (waiting ((arrivals.map Prod.fst).take k)).length ≤ 256) →
      (run Reordering.step Reordering.init (arrivals.map Prod.snd)).delivered.map RtpPacket.seen =
        (List.range stream.length).map fun i => (seqOf first i, stream[i]?) := by
  refine ⟨?_, Reordering.delivered_eq⟩
  rintro pushes b rfl
  have h := ReorderBuffer.bounded_run pushes
  exact ⟨h.ahead, h.window, h.storage⟩

/-- A packet that arrives, read back from the map in the order it is kept. -/
def Push.of (seq : UInt16) (marker : Bool) (payload : Bytes) : Push :=
  ⟨⟨seq, marker, Slice.nil.append payload⟩, id, fun _ => List.Perm.refl _⟩

/-- Three packets numbered over the wrap, the last one twice and before its turn. -/
theorem reorderBuffer_exact_wrap :
    (run Reordering.step Reordering.init
      [Push.of 65535 false [1], Push.of 1 true [3], Push.of 1 true [3], Push.of 0 false [2]]
      ).delivered.map RtpPacket.seen =
      [(65535, some (false, [1])), (0, some (false, [2])), (1, some (true, [3]))] :=
  reorderBuffer_exact.2 [(false, [1]), (false, [2]), (true, [3])] 65535
    [(0, Push.of 65535 false [1]), (2, Push.of 1 true [3]), (2, Push.of 1 true [3]),
      (1, Push.of 0 false [2])]
    (by decide) ⟨_, _, rfl⟩
    (by
      intro a ha
      simp only [List.mem_cons, List.not_mem_nil, or_false] at ha
      rcases ha with rfl | rfl | rfl | rfl <;> exact ⟨rfl, rfl⟩)
    (by decide)
    (by
      intro k
      refine le_trans (List.length_filter_le _ _) ((List.dedup_sublist _).length_le.trans ?_)
      exact (List.length_take_le' _ _).trans (by decide))

end OlcRtc
