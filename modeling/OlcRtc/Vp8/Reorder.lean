import OlcRtc.Lib.Slice
import OlcRtc.Vp8.Wire
import Mathlib.Data.List.AList
import Mathlib.Data.List.Induction
import Mathlib.Data.Nat.Bitwise

/-!
# The RTP reorder buffer

`reorderBuffer` puts RTP packets back into sequence order before frames are assembled.  It keeps
copies of the packets that arrived ahead of their turn in a map from sequence number to packet,
hands them out while they are contiguous, and gives a missing packet up when more than
`reorderWindow` packets wait behind it.  Sequence numbers are 16 bits and wrap; packets are copied
into storage that is recycled after delivery.

The source calls `deliver` on each packet in turn and recycles the packet when the call returns;
`push` returns the packets it delivers, in order.  `skipToOldest` ranges over a Go map, whose order
is not specified, so `push` takes the order as an argument.

What a packet is, independently of wrapping, is its place in the sender's stream: `Inv` says that
the buffer stands at a position of the stream and that every packet it holds is the packet of the
stream at its distance from there.  **`Inv.push_spec`** says what a push then does to the position
and what it delivers.
-/

namespace OlcRtc

/-! ## The source's definitions -/

def reorderWindow : ℕ := 256

def maxRetainedRTPPayloadCap : ℕ := 2 * 1024

/-- `seqLess`: the sign bit of the difference. -/
def seqLess (a b : UInt16) : Bool := (a - b) &&& 0x8000 ≠ 0

/-- The part of `rtp.Packet` that the reader uses. -/
structure RtpPacket where
  sequenceNumber : UInt16
  marker : Bool
  payload : Slice UInt8

/-- `&rtp.Packet{}`. -/
def RtpPacket.zero : RtpPacket := ⟨0, false, Slice.nil⟩

/-- `reorderBuffer`.  The head of `free` is the last element of the source's slice. -/
structure ReorderBuffer where
  pkts : AList fun _ : UInt16 => RtpPacket
  free : List RtpPacket
  nextSeq : UInt16
  started : Bool

/-- The loop of `skipToOldest` over the buffered sequence numbers. -/
def oldestSeq (seqs : List UInt16) : Option UInt16 :=
  seqs.foldl (fun oldest seq =>
    match oldest with
    | none => some seq
    | some old => if seqLess seq old then some seq else some old) none

namespace ReorderBuffer

/-- `newReorderBuffer`. -/
def new : ReorderBuffer := ⟨∅, [], 0, false⟩

/-- `clone`: the packet is copied into a recycled one if there is one. -/
def clone (b : ReorderBuffer) (pkt : RtpPacket) : ReorderBuffer × RtpPacket :=
  let old := b.free.headD RtpPacket.zero
  ({ b with free := b.free.tail },
    { sequenceNumber := pkt.sequenceNumber
      marker := pkt.marker
      payload := (old.payload.resize pkt.payload.len).copy pkt.payload.content })

def recycle (b : ReorderBuffer) (pkt : RtpPacket) : ReorderBuffer :=
  let payload :=
    if maxRetainedRTPPayloadCap < pkt.payload.cap then Slice.nil else pkt.payload.truncate
  { b with free := ⟨0, false, payload⟩ :: b.free }

/-- `skipToOldest`, with the order in which the map is traversed. -/
def skipToOldest (order : List UInt16 → List UInt16) (b : ReorderBuffer) : ReorderBuffer :=
  { b with nextSeq := (oldestSeq (order b.pkts.keys)).getD 0 }

/-- The body of the loop of `drain` once the next packet has been found. -/
def take (b : ReorderBuffer) (pkt : RtpPacket) : ReorderBuffer :=
  { b with pkts := b.pkts.erase b.nextSeq, nextSeq := b.nextSeq + 1 }.recycle pkt

/-- `drain`.  Each turn of the loop removes a packet, so the number of packets bounds it. -/
def drainLoop : ℕ → ReorderBuffer → ReorderBuffer × List RtpPacket
  | 0, b => (b, [])
  | fuel + 1, b =>
    match b.pkts.lookup b.nextSeq with
    | none => (b, [])
    | some pkt => ((drainLoop fuel (b.take pkt)).1, pkt :: (drainLoop fuel (b.take pkt)).2)

def drain (b : ReorderBuffer) : ReorderBuffer × List RtpPacket := drainLoop b.pkts.keys.length b

/-- The first packet starts the buffer at its own number. -/
def start (b : ReorderBuffer) (pkt : RtpPacket) : ReorderBuffer :=
  if b.started then b else { b with started := true, nextSeq := pkt.sequenceNumber }

/-- A copy of the packet is stored; the one it replaces is recycled first. -/
def store (b : ReorderBuffer) (pkt : RtpPacket) : ReorderBuffer :=
  let b := match b.pkts.lookup pkt.sequenceNumber with
    | none => b
    | some old => b.recycle old
  { (b.clone pkt).1 with pkts := b.pkts.insert pkt.sequenceNumber (b.clone pkt).2 }

/-- `push`: the new buffer and the packets handed to `deliver`, in order. -/
def push (order : List UInt16 → List UInt16) (b : ReorderBuffer) (pkt : RtpPacket) :
    ReorderBuffer × List RtpPacket :=
  let b := b.start pkt
  if seqLess pkt.sequenceNumber b.nextSeq then (b, [])
  else
    let b := b.store pkt
    if reorderWindow < b.pkts.keys.length then (b.skipToOldest order).drain else b.drain

end ReorderBuffer

/-! ### What the steps leave alone -/

namespace ReorderBuffer

lemma store_started (b : ReorderBuffer) (pkt : RtpPacket) :
    (b.store pkt).started = b.started := by
  unfold store
  cases b.pkts.lookup pkt.sequenceNumber <;> rfl

lemma store_nextSeq (b : ReorderBuffer) (pkt : RtpPacket) :
    (b.store pkt).nextSeq = b.nextSeq := by
  unfold store
  cases b.pkts.lookup pkt.sequenceNumber <;> rfl

lemma store_pkts (b : ReorderBuffer) (pkt : RtpPacket) :
    ∃ copy : RtpPacket, copy.sequenceNumber = pkt.sequenceNumber ∧ copy.marker = pkt.marker ∧
      copy.payload.content = pkt.payload.content ∧
      (b.store pkt).pkts = b.pkts.insert pkt.sequenceNumber copy := by
  have hcopy : ∀ s : Slice UInt8,
      ((s.resize pkt.payload.len).copy pkt.payload.content).content = pkt.payload.content := by
    intro s
    have h := Slice.content_copy_resize s pkt.payload.content
    rwa [Slice.length_content] at h
  unfold store
  cases b.pkts.lookup pkt.sequenceNumber with
  | none => exact ⟨(b.clone pkt).2, rfl, rfl, hcopy _, rfl⟩
  | some old => exact ⟨((b.recycle old).clone pkt).2, rfl, rfl, hcopy _, rfl⟩

lemma drain_ne_nil {b : ReorderBuffer} (h : (b.pkts.lookup b.nextSeq).isSome) :
    b.drain.2 ≠ [] := by
  obtain ⟨pkt, hpkt⟩ := Option.isSome_iff_exists.mp h
  have hkeys : b.pkts.keys ≠ [] := List.ne_nil_of_mem (AList.lookup_isSome.mp h)
  obtain ⟨n, hn⟩ := Nat.exists_eq_succ_of_ne_zero (mt List.length_eq_zero_iff.mp hkeys)
  rw [drain, hn, drainLoop, hpkt]
  simp

end ReorderBuffer

/-! ## Serial arithmetic -/

lemma seqLess_iff (a b : UInt16) : seqLess a b = true ↔ 2 ^ 15 ≤ (a - b).toNat := by
  have hlt : (a - b).toNat < 2 ^ 16 := (a - b).toNat_lt
  have hand : ((a - b) &&& 0x8000).toNat = ((a - b).toNat.testBit 15).toNat * 2 ^ 15 := by
    rw [UInt16.toNat_and]
    exact Nat.and_two_pow _ 15
  have hbit : (a - b).toNat.testBit 15 = true ↔ 2 ^ 15 ≤ (a - b).toNat := by
    grind
  rw [seqLess, decide_eq_true_eq, ← hbit, ne_eq, ← UInt16.toNat_inj, hand]
  cases (a - b).toNat.testBit 15 <;> simp

lemma sub_toNat_of_le {n a b : UInt16} (h : (a - n).toNat ≤ (b - n).toNat) :
    (b - a).toNat = (b - n).toNat - (a - n).toNat := by
  have := n.toNat_lt
  have := a.toNat_lt
  have := b.toNat_lt
  simp only [UInt16.toNat_sub] at h ⊢
  omega

/-- Within half the number space ahead of a common origin, `seqLess` is the order. -/
lemma seqLess_iff_of_near {n a b : UInt16} (ha : (a - n).toNat < 2 ^ 15)
    (hb : (b - n).toNat < 2 ^ 15) : seqLess a b = true ↔ (a - n).toNat < (b - n).toNat := by
  rw [seqLess_iff]
  have := n.toNat_lt
  have := a.toNat_lt
  have := b.toNat_lt
  simp only [UInt16.toNat_sub] at ha hb ⊢
  omega

lemma oldestSeq_spec {n : UInt16} {seqs : List UInt16} (hne : seqs ≠ [])
    (hnear : ∀ seq ∈ seqs, (seq - n).toNat < 2 ^ 15) :
    ∃ old ∈ seqs, oldestSeq seqs = some old ∧ ∀ seq ∈ seqs, (old - n).toNat ≤ (seq - n).toNat := by
  -- the loop from the right: its result so far is the minimum of what it has seen
  induction seqs using List.reverseRecOn with
  | nil => exact absurd rfl hne
  | append_singleton seqs seq ih =>
    unfold oldestSeq at ih ⊢
    rw [List.foldl_concat]
    by_cases hnil : seqs = []
    · subst hnil
      exact ⟨seq, by simp, rfl, by simp⟩
    · obtain ⟨old, hmem, hold, hmin⟩ := ih hnil fun s hs => hnear s (by simp [hs])
      rw [hold]
      have hiff := seqLess_iff_of_near (hnear seq (by simp)) (hnear old (by simp [hmem]))
      by_cases hless : seqLess seq old = true
      · grind
      · grind

/-! ## The sender's stream

`sent i` is the marker bit and the payload of the `i`-th packet the sender sent; it numbers its
packets from `first`, modulo `2 ^ 16`.
-/

/-- The RTP sequence number of packet `i`. -/
def seqOf (first : UInt16) (i : ℕ) : UInt16 := first + UInt16.ofNat i

lemma seqOf_add_toNat (first : UInt16) (i : ℕ) (d : UInt16) :
    seqOf first (i + d.toNat) = seqOf first i + d := by
  rw [seqOf, seqOf, UInt16.ofNat_add, UInt16.ofNat_toNat, UInt16.add_assoc]

lemma seqOf_succ (first : UInt16) (i : ℕ) : seqOf first (i + 1) = seqOf first i + 1 :=
  seqOf_add_toNat first i 1

lemma seqOf_sub (first : UInt16) (i k : ℕ) :
    (seqOf first i - seqOf first k).toNat = (i + (2 ^ 16 - k % 2 ^ 16)) % 2 ^ 16 := by
  have := first.toNat_lt
  simp only [seqOf, UInt16.toNat_sub, UInt16.toNat_add, UInt16.toNat_ofNat']
  omega

lemma seqOf_add_sub (first : UInt16) (i : ℕ) {m : ℕ} (hm : m < 2 ^ 16) :
    (seqOf first (i + m) - seqOf first i).toNat = m := by
  rw [seqOf_sub]
  omega

section Stream

variable (sent : ℕ → Option (Bool × Bytes)) (first : UInt16)

/-- The packet is a copy of packet `i` of the stream. -/
structure RtpPacket.Carries (pkt : RtpPacket) (i : ℕ) : Prop where
  number : pkt.sequenceNumber = seqOf first i
  body : sent i = some (pkt.marker, pkt.payload.content)

/-- The buffer stands at position `pos` of the stream, and each packet it holds is the packet of
the stream at its distance ahead, less than `w`. -/
structure ReorderBuffer.Inv (w : ℕ) (b : ReorderBuffer) (pos : ℕ) : Prop where
  started : b.started = true
  next : b.nextSeq = seqOf first pos
  held : ∀ seq pkt, b.pkts.lookup seq = some pkt → (seq - b.nextSeq).toNat < w ∧
    pkt.Carries sent first (pos + (seq - b.nextSeq).toNat)

end Stream

namespace ReorderBuffer

variable {sent : ℕ → Option (Bool × Bytes)} {first : UInt16} {b : ReorderBuffer} {w pos i : ℕ}
  {pkt : RtpPacket} {order : List UInt16 → List UInt16}

namespace Inv

lemma mono {w' : ℕ} (h : b.Inv sent first w pos) (hw : w ≤ w') : b.Inv sent first w' pos :=
  ⟨h.started, h.next, fun seq pkt hseq => ⟨(h.held seq pkt hseq).1.trans_le hw,
    (h.held seq pkt hseq).2⟩⟩

lemma advance (h : b.Inv sent first w pos) {n : UInt16}
    (hn : ∀ seq pkt, b.pkts.lookup seq = some pkt →
      (n - b.nextSeq).toNat ≤ (seq - b.nextSeq).toNat) :
    { b with nextSeq := n }.Inv sent first (w - (n - b.nextSeq).toNat)
      (pos + (n - b.nextSeq).toNat) where
  started := h.started
  next := by
    rw [seqOf_add_toNat, ← h.next, UInt16.add_comm, UInt16.sub_add_cancel]
  held seq pkt hseq := by
    obtain ⟨hlt, hcarries⟩ := h.held seq pkt hseq
    have hle := hn seq pkt hseq
    have hdist : (seq - n).toNat = (seq - b.nextSeq).toNat - (n - b.nextSeq).toNat :=
      sub_toNat_of_le hle
    refine ⟨?_, ?_⟩
    · show (seq - n).toNat < _
      omega
    · grind

lemma take (h : b.Inv sent first w pos) (hpkt : b.pkts.lookup b.nextSeq = some pkt) :
    0 < w ∧ pkt.Carries sent first pos ∧ (b.take pkt).Inv sent first (w - 1) (pos + 1) := by
  obtain ⟨hw, hcarries⟩ := h.held b.nextSeq pkt hpkt
  have hzero : (b.nextSeq - b.nextSeq).toNat = 0 := by simp
  have hone : (b.nextSeq + 1 - b.nextSeq).toNat = 1 := by
    rw [UInt16.add_comm, UInt16.add_sub_cancel]
    rfl
  rw [hzero] at hw hcarries
  have herase : { b with pkts := b.pkts.erase b.nextSeq }.Inv sent first w pos := by
    refine ⟨h.started, h.next, fun seq pkt' hseq => h.held seq pkt' ?_⟩
    have hmem : seq ∈ b.pkts.erase b.nextSeq := AList.lookup_isSome.mp (by simp [hseq])
    rwa [AList.lookup_erase_ne (AList.mem_erase.mp hmem).1] at hseq
  refine ⟨hw, hcarries, ?_⟩
  have hadvance := herase.advance (n := b.nextSeq + 1) fun seq pkt' hseq => ?_
  · rw [hone] at hadvance
    exact ⟨hadvance.started, hadvance.next, hadvance.held⟩
  · -- what is left is not at the position itself
    have hmem : seq ∈ b.pkts.erase b.nextSeq := AList.lookup_isSome.mp (by simp [hseq])
    have hne : seq - b.nextSeq ≠ 0 := fun h0 => (AList.mem_erase.mp hmem).1 <| by
      rw [← UInt16.sub_add_cancel seq b.nextSeq, h0, UInt16.zero_add]
    have hpos : (seq - b.nextSeq).toNat ≠ 0 := fun h0 => hne (UInt16.toNat_inj.mp h0)
    show (b.nextSeq + 1 - b.nextSeq).toNat ≤ (seq - b.nextSeq).toNat
    omega

lemma drainLoop : ∀ (fuel : ℕ) {b : ReorderBuffer} {w pos : ℕ}, b.Inv sent first w pos →
    (b.drainLoop fuel).2.length ≤ w ∧
    (b.drainLoop fuel).1.Inv sent first (w - (b.drainLoop fuel).2.length)
      (pos + (b.drainLoop fuel).2.length) ∧
    ∀ (k : ℕ) (pkt : RtpPacket), (b.drainLoop fuel).2[k]? = some pkt →
      pkt.Carries sent first (pos + k)
  | 0, b, w, pos, h => ⟨by simp [ReorderBuffer.drainLoop], h, by simp [ReorderBuffer.drainLoop]⟩
  | fuel + 1, b, w, pos, h => by
    unfold ReorderBuffer.drainLoop
    cases hpkt : b.pkts.lookup b.nextSeq with
    | none => exact ⟨by simp, h, by simp⟩
    | some pkt =>
      obtain ⟨hw, hcarries, htake⟩ := h.take hpkt
      obtain ⟨hlen, hinv, hout⟩ := drainLoop fuel htake
      simp only [List.length_cons]
      refine ⟨by omega, ?_, fun k p hk => ?_⟩
      · rwa [Nat.add_comm _ 1, ← Nat.sub_sub, ← Nat.add_assoc]
      · grind

lemma store (h : b.Inv sent first w pos) (hpkt : pkt.Carries sent first i) (hpos : pos ≤ i)
    (hi : i < pos + w) (hw : w ≤ 2 ^ 16) : (b.store pkt).Inv sent first w pos := by
  obtain ⟨m, rfl⟩ := Nat.exists_eq_add_of_le hpos
  have hdist : (pkt.sequenceNumber - b.nextSeq).toNat = m := by
    rw [hpkt.number, h.next, seqOf_add_sub first pos (by omega)]
  refine ⟨by rw [store_started, h.started], by rw [store_nextSeq, h.next], fun seq p hseq => ?_⟩
  obtain ⟨copy, hnumber, hmarker, hcontent, hpkts⟩ := store_pkts b pkt
  rw [store_nextSeq]
  rw [hpkts] at hseq
  by_cases hne : seq = pkt.sequenceNumber
  · subst hne
    rw [AList.lookup_insert, Option.some.injEq] at hseq
    subst hseq
    rw [hdist]
    exact ⟨by omega, hnumber.trans hpkt.number, by rw [hmarker, hcontent]; exact hpkt.body⟩
  · rw [AList.lookup_insert_ne hne] at hseq
    exact h.held seq p hseq

lemma skipToOldest (h : b.Inv sent first w pos) (hw : w ≤ 2 ^ 15)
    (horder : ∀ seqs, (order seqs).Perm seqs) (hne : b.pkts.keys ≠ []) :
    ∃ m < w, (b.skipToOldest order).Inv sent first (w - m) (pos + m) ∧
      ((b.skipToOldest order).pkts.lookup (b.skipToOldest order).nextSeq).isSome := by
  have hmem : ∀ {seq}, seq ∈ order b.pkts.keys ↔ seq ∈ b.pkts := (horder _).mem_iff
  have hdist : ∀ seq ∈ order b.pkts.keys, (seq - b.nextSeq).toNat < w := by
    intro seq hseq
    obtain ⟨pkt, hpkt⟩ := Option.isSome_iff_exists.mp (AList.lookup_isSome.mpr (hmem.mp hseq))
    exact (h.held seq pkt hpkt).1
  obtain ⟨old, hold, heq, hmin⟩ := oldestSeq_spec (fun hnil => hne (by
    simpa [hnil] using (horder b.pkts.keys).symm)) fun seq hseq => (hdist seq hseq).trans_le hw
  have hskip : b.skipToOldest order = { b with nextSeq := old } := by
    rw [ReorderBuffer.skipToOldest, heq]
    rfl
  rw [hskip]
  refine ⟨(old - b.nextSeq).toNat, hdist old hold, h.advance fun seq pkt hseq => ?_, ?_⟩
  · exact hmin seq (hmem.mpr (AList.lookup_isSome.mp (by simp [hseq])))
  · exact AList.lookup_isSome.mpr (hmem.mp hold)

/-- **What a push does.**  A packet within half the number space of the position is dropped, or
stored; the position moves ahead over `m` missing packets and hands out the packets that follow,
and it skips nothing unless it hands something out. -/
lemma push_spec (h : b.Inv sent first (2 ^ 15) pos) (hpkt : pkt.Carries sent first i)
    (hlow : pos ≤ i + 2 ^ 15) (hhigh : i ≤ pos + 2 ^ 15)
    (horder : ∀ seqs, (order seqs).Perm seqs) :
    ∃ m, m + (b.push order pkt).2.length ≤ 2 ^ 15 ∧ ((b.push order pkt).2 = [] → m = 0) ∧
      (b.push order pkt).1.Inv sent first (2 ^ 15) (pos + m + (b.push order pkt).2.length) ∧
      ∀ (k : ℕ) (p : RtpPacket), (b.push order pkt).2[k]? = some p →
        p.Carries sent first (pos + m + k) := by
  have hstart : b.start pkt = b := by simp [start, h.started]
  have hdist : (pkt.sequenceNumber - b.nextSeq).toNat = (i + (2 ^ 16 - pos % 2 ^ 16)) % 2 ^ 16 := by
    rw [hpkt.number, h.next, seqOf_sub]
  simp only [push, hstart]
  split_ifs with hless hfull
  · exact ⟨0, by simp, fun _ => rfl, by simpa using h, by simp⟩
  · rw [seqLess_iff, hdist] at hless
    have hstore := h.store hpkt (by omega) (by omega) (by decide)
    obtain ⟨m, hm, hskip, hsome⟩ := hstore.skipToOldest le_rfl horder
      (fun hnil => by simp [hnil] at hfull)
    obtain ⟨hlen, hinv, hout⟩ :=
      hskip.drainLoop ((b.store pkt).skipToOldest order).pkts.keys.length
    refine ⟨m, by rw [drain]; omega, fun hnil => ?_, hinv.mono (by omega), hout⟩
    exact absurd hnil (drain_ne_nil hsome)
  · rw [seqLess_iff, hdist] at hless
    have hstore := h.store hpkt (by omega) (by omega) (by decide)
    obtain ⟨hlen, hinv, hout⟩ := hstore.drainLoop (b.store pkt).pkts.keys.length
    exact ⟨0, by rw [drain]; omega, fun _ => rfl, hinv.mono (by omega), hout⟩

end Inv

lemma inv_start (hnew : b.started = false) (hempty : b.pkts = ∅)
    (hpkt : pkt.Carries sent first i) : (b.start pkt).Inv sent first (2 ^ 15) i := by
  have hstart : b.start pkt = { b with started := true, nextSeq := pkt.sequenceNumber } := by
    simp [start, hnew]
  rw [hstart]
  exact ⟨rfl, hpkt.number, fun seq p hseq => by simp [hempty] at hseq⟩

lemma push_start (b : ReorderBuffer) (pkt : RtpPacket) :
    (b.start pkt).push order pkt = b.push order pkt := by
  have hidem : (b.start pkt).start pkt = b.start pkt := by
    unfold start
    split_ifs <;> simp_all
  simp only [push, hidem]

end ReorderBuffer

end OlcRtc
