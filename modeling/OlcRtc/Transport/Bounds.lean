import OlcRtc.Lib.Lists
import OlcRtc.Lib.Steps
import OlcRtc.Transport.Assembly

/-!
# A reassembler under any input

The fragments come from a room in which anyone may speak, so nothing is known of them.  `Bounded`
is what holds of the reassembler all the same, after any pushes: its maps keep within their caps,
and every pending entry counts its open slots and has at least one.

* **`Bounded.push`** is the step: whatever the fragment, a push keeps the reassembler bounded.
* **`push_bounded`** adds what a push answers: the entry it works on is not the one that is evicted
  for it, and what it delivers is no longer than a message may be and has the announced checksum.
-/

namespace OlcRtc

/-! ## Single entries -/

lemma Fragment.valid_limits {f : Fragment} (h : f.valid = true) :
    f.fragIdx.toNat < f.fragTotal.toNat ∧ f.fragTotal.toNat ≤ maxFragments ∧
      f.totalLen.toNat ≤ maxMessageLen := by
  refine ⟨(Fragment.valid_spec h).1, ?_⟩
  rw [Fragment.valid] at h
  split_ifs at h with htotal hlen
  rw [not_or, not_or] at htotal
  exact ⟨not_lt.1 htotal.2.1, not_lt.1 hlen⟩

namespace InboundMessage

lemma storeChunk_frame (msg : InboundMessage) (f : Fragment) :
    (msg.storeChunk f).totalLen = msg.totalLen ∧ (msg.storeChunk f).crc = msg.crc ∧
      (msg.storeChunk f).frags.length = msg.frags.length := by
  rw [storeChunk]
  split
  · exact ⟨rfl, rfl, rfl⟩
  · exact ⟨rfl, rfl, List.length_set⟩

lemma storeChunk_remain {msg : InboundMessage} {f : Fragment}
    (hidx : f.fragIdx.toNat < msg.frags.length) (h : msg.remain = msg.frags.count none) :
    (msg.storeChunk f).remain = (msg.storeChunk f).frags.count none := by
  have hget : msg.frags.getD f.fragIdx.toNat none = msg.frags[f.fragIdx.toNat] := by
    grind
  rw [storeChunk, hget]
  split
  · exact h
  · grind

lemma length_assemble_le (msg : InboundMessage) : msg.assemble.length ≤ msg.totalLen.toNat := by
  rw [assemble_eq]
  exact List.length_take_le _ _

end InboundMessage

namespace Reassembler

/-! ## The invariant -/

/-- An entry that waits for fragments: it counts its open slots and has one. -/
structure Waiting (msg : InboundMessage) : Prop where
  remain : msg.remain = msg.frags.count none
  remain_pos : 0 < msg.remain
  length_frags : msg.frags.length ≤ maxFragments

/-- The maps keep within their caps, and every pending entry waits for fragments. -/
structure Bounded (r : Reassembler) : Prop where
  maxRecent_pos : 0 < r.maxRecent
  maxPending_pos : 0 < r.maxPending
  pending : r.inbound.keys.length ≤ r.maxPending
  delivered : r.delivered.keys.length ≤ r.maxRecent
  previous : r.previous.keys.length ≤ r.maxRecent
  waiting : ∀ seq msg, r.inbound.lookup seq = some msg → Waiting msg

lemma bounded_new (maxRecent : ℕ) : (new maxRecent).Bounded := by
  have hpos : 0 < (new maxRecent).maxRecent := by
    show 0 < if maxRecent = 0 then 256 else maxRecent
    split <;> omega
  exact ⟨hpos, hpos, Nat.zero_le _, Nat.zero_le _, Nat.zero_le _, by simp [new]⟩

/-! ## Making room -/

/-- **Eviction makes room**: beyond the cap there is an entry other than the one to keep. -/
lemma length_evictOldestIfFull_le {r : Reassembler} {keep : UInt32} (hcap : 0 < r.maxPending)
    (hlen : r.inbound.keys.length ≤ r.maxPending + 1) :
    (r.evictOldestIfFull keep).inbound.keys.length ≤ r.maxPending := by
  rw [evictOldestIfFull]
  split_ifs with hroom
  · exact hroom.resolve_left hcap.ne'
  · have hspec := oldest_spec keep r.inbound.entries
    cases hbest : oldest keep r.inbound.entries with
    | none =>
      -- the keys would all be the one to keep, so there would be only one
      rw [hbest] at hspec
      have hsub : r.inbound.keys ⊆ [keep] := by
        intro seq hseq
        obtain ⟨e, he, rfl⟩ := List.mem_map.1 hseq
        exact List.mem_singleton.2 (hspec e he)
      have hone := (List.subperm_of_subset r.inbound.keys_nodup hsub).length_le
      rw [List.length_singleton] at hone
      omega
    | some best =>
      rw [hbest] at hspec
      obtain ⟨⟨msg, hmem, -⟩, -, -⟩ := hspec
      have hkey : best.1 ∈ r.inbound.keys := List.mem_map.2 ⟨⟨best.1, msg⟩, hmem, rfl⟩
      show (r.inbound.erase best.1).keys.length ≤ r.maxPending
      rw [AList.keys_erase, List.length_erase_of_mem hkey]
      omega

lemma lookup_evictOldestIfFull (r : Reassembler) (keep : UInt32) :
    (r.evictOldestIfFull keep).inbound.lookup keep = r.inbound.lookup keep ∧
      ∀ seq msg, (r.evictOldestIfFull keep).inbound.lookup seq = some msg →
        r.inbound.lookup seq = some msg := by
  rcases evictOldestIfFull_cases r keep with hsame | ⟨old, msg, -, hne, -, -, herase⟩
  · rw [hsame]
    exact ⟨rfl, fun _ _ h => h⟩
  · rw [herase]
    exact ⟨AList.lookup_erase_ne hne.symm, fun seq msg' hl => (of_lookup_erase hl).2⟩

lemma crc_upsert (r : Reassembler) (f : Fragment) : (r.upsert f).2.crc = f.crc := by
  rw [upsert]
  split
  · rfl
  · split_ifs with hcompatible
    · simp only [compatible, Bool.and_eq_true, beq_iff_eq] at hcompatible
      exact hcompatible.1.1
    · rfl

/-- **What `upsert` returns**: an entry of the fragment's own message that counts its open slots
and has one.  It stands in the map, whatever was evicted to make room for it. -/
structure Upserted (r : Reassembler) (f : Fragment) : Prop where
  lookup : (r.upsert f).1.inbound.lookup f.seq = some (r.upsert f).2
  pending : (r.upsert f).1.inbound.keys.length ≤ r.maxPending
  waiting : ∀ seq msg, (r.upsert f).1.inbound.lookup seq = some msg → Waiting msg
  totalLen : (r.upsert f).2.totalLen = f.totalLen
  length_frags : (r.upsert f).2.frags.length = f.fragTotal.toNat

section Upsert

variable {r : Reassembler} {f : Fragment}

lemma waiting_freshMessage (r : Reassembler) (hvalid : f.valid = true) :
    Waiting (r.freshMessage f) := by
  obtain ⟨hidx, htotal, -⟩ := Fragment.valid_limits hvalid
  refine ⟨?_, ?_, ?_⟩
  · simp [freshMessage]
  · show 0 < f.fragTotal.toNat
    omega
  · simpa [freshMessage] using htotal

lemma upserted_fresh (h : r.Bounded) (hvalid : f.valid = true)
    (hup : r.upsert f = (r.insertFresh f, r.freshMessage f)) : r.Upserted f := by
  set inserted : Reassembler := { r with
    addCounter := r.addCounter + 1
    inbound := r.inbound.insert f.seq (r.freshMessage f) } with hinserted
  obtain ⟨hkeep, hsub⟩ := lookup_evictOldestIfFull inserted f.seq
  have hself : inserted.inbound.lookup f.seq = some (r.freshMessage f) := AList.lookup_insert _
  refine ⟨?_, ?_, ?_, ?_, ?_⟩
  · rw [hup]
    exact hkeep.trans hself
  · rw [hup]
    refine length_evictOldestIfFull_le h.maxPending_pos ?_
    have hpending := h.pending
    show (r.inbound.insert f.seq _).keys.length ≤ r.maxPending + 1
    rw [length_keys_insert]
    split_ifs <;> omega
  · intro seq msg hl
    rw [hup] at hl
    rcases lookup_insert_cases (hsub seq msg hl) with ⟨-, rfl⟩ | ⟨-, hold⟩
    · exact waiting_freshMessage r hvalid
    · exact h.waiting seq msg hold
  · rw [hup]
    rfl
  · rw [hup]
    exact List.length_replicate

lemma Bounded.upserted (h : r.Bounded) (hvalid : f.valid = true) : r.Upserted f := by
  cases hl : r.inbound.lookup f.seq with
  | none =>
    apply upserted_fresh h hvalid
    simp only [upsert, hl]
  | some msg =>
    by_cases hcompatible : compatible msg f = true
    · have hup : r.upsert f = (r, msg) := by simp only [upsert, hl, hcompatible, if_true]
      have hsame := hcompatible
      simp only [compatible, Bool.and_eq_true, beq_iff_eq] at hsame
      obtain ⟨⟨-, htotalLen⟩, hlength⟩ := hsame
      constructor <;> rw [hup]
      · exact hl
      · exact h.pending
      · exact h.waiting
      · exact htotalLen
      · exact hlength
    · apply upserted_fresh h hvalid
      simp only [upsert, hl, hcompatible]
      rfl

end Upsert

/-! ## Pushing -/

section Push

variable {r : Reassembler} {f : Fragment}

lemma Bounded.deliver {seq : UInt32} {msg : InboundMessage} (h : r.Bounded) :
    (r.deliver seq msg).1.Bounded := by
  have herase : ∀ seq' msg', (r.inbound.erase seq).lookup seq' = some msg' → Waiting msg' :=
    fun seq' msg' hl => h.waiting seq' msg' (of_lookup_erase hl).2
  have hpending := (length_keys_erase_le r.inbound seq).trans h.pending
  have hrecent := h.maxRecent_pos
  have hsize := h.delivered
  simp only [Reassembler.deliver]
  split_ifs with hcrc hfull
  · exact ⟨h.maxRecent_pos, h.maxPending_pos, hpending, h.delivered, h.previous, herase⟩
  · refine ⟨h.maxRecent_pos, h.maxPending_pos, hpending, ?_, h.delivered, herase⟩
    show (AList.insert seq msg.crc ∅).keys.length ≤ r.maxRecent
    rw [length_keys_insert, if_neg (AList.notMem_empty seq)]
    exact hrecent
  · refine ⟨h.maxRecent_pos, h.maxPending_pos, hpending, ?_, h.previous, herase⟩
    show (r.delivered.insert seq msg.crc).keys.length ≤ r.maxRecent
    rw [length_keys_insert]
    split_ifs <;> omega

lemma Bounded.upsert (h : r.Bounded) (hvalid : f.valid = true) : (r.upsert f).1.Bounded := by
  have hup := h.upserted hvalid
  obtain ⟨hrecent, hpending, hdelivered, hprevious⟩ := upsert_frame r f
  refine ⟨?_, ?_, ?_, ?_, ?_, hup.waiting⟩
  · rw [hrecent]
    exact h.maxRecent_pos
  · rw [hpending]
    exact h.maxPending_pos
  · rw [hpending]
    exact hup.pending
  · rw [hdelivered, hrecent]
    exact h.delivered
  · rw [hprevious, hrecent]
    exact h.previous

lemma Upserted.storeChunk (h : r.Upserted f) (hvalid : f.valid = true) :
    ((r.upsert f).2.storeChunk f).remain = ((r.upsert f).2.storeChunk f).frags.count none ∧
      ((r.upsert f).2.storeChunk f).frags.length ≤ maxFragments := by
  obtain ⟨hidx, htotal, -⟩ := Fragment.valid_limits hvalid
  refine ⟨InboundMessage.storeChunk_remain (h.length_frags ▸ hidx) ?_, ?_⟩
  · exact (h.waiting f.seq _ h.lookup).remain
  · rw [((r.upsert f).2.storeChunk_frame f).2.2, h.length_frags]
    exact htotal

/-- **Whatever the fragment, a push keeps the reassembler bounded.** -/
theorem Bounded.push (h : r.Bounded) (f : Fragment) : (r.push f).1.Bounded := by
  by_cases hvalid : f.valid = true
  swap
  · simpa [Reassembler.push, hvalid] using h
  by_cases hdup : r.alreadyDelivered f = true
  · simpa [Reassembler.push, hvalid, hdup] using h
  have hup := h.upserted hvalid
  have hbounded := h.upsert hvalid
  rw [push_eq hvalid hdup]
  split_ifs with hremain
  · -- the entry is written back to where it stood
    obtain ⟨hcount, hlength⟩ := hup.storeChunk hvalid
    have hmem : f.seq ∈ (r.upsert f).1.inbound := by
      rw [← AList.lookup_isSome, hup.lookup]
      rfl
    refine ⟨hbounded.maxRecent_pos, hbounded.maxPending_pos, ?_, hbounded.delivered,
      hbounded.previous, ?_⟩
    · show ((r.upsert f).1.inbound.insert f.seq _).keys.length ≤ _
      rw [length_keys_insert, if_pos hmem]
      exact hbounded.pending
    · intro seq msg hl
      rcases lookup_insert_cases hl with ⟨-, rfl⟩ | ⟨-, hold⟩
      · exact ⟨hcount, hremain, hlength⟩
      · exact hbounded.waiting seq msg hold
  · exact hbounded.deliver

lemma deliver_result (r : Reassembler) (seq : UInt32) (msg : InboundMessage) :
    (r.deliver seq msg).2 = (.resultIgnore, none) ∨
      (crc32 msg.assemble = msg.crc ∧
        (r.deliver seq msg).2 = (.resultDelivered, some msg.assemble)) := by
  by_cases hcrc : crc32 msg.assemble = msg.crc
  · exact .inr ⟨hcrc, by simp [Reassembler.deliver, hcrc]⟩
  · exact .inl (by simp [Reassembler.deliver, hcrc])

/-- **What a push answers.**  A fragment that is stored leaves its message pending; what is
delivered is within the limit and has the checksum that the last fragment announced. -/
lemma Bounded.push_result (h : r.Bounded) (f : Fragment) :
    ((r.push f).2.1 = .resultPartial → f.seq ∈ (r.push f).1.inbound) ∧
      ((r.push f).2.1 = .resultDelivered →
        ∃ data, (r.push f).2.2 = some data ∧ data.length ≤ maxMessageLen ∧
          crc32 data = f.crc) := by
  by_cases hvalid : f.valid = true
  swap
  · simp [Reassembler.push, hvalid]
  by_cases hdup : r.alreadyDelivered f = true
  · simp [Reassembler.push, hvalid, hdup]
  rw [push_eq hvalid hdup]
  split_ifs with hremain
  · exact ⟨fun _ => (AList.mem_insert _).2 (.inl rfl), fun h => by cases h⟩
  · have hup := h.upserted hvalid
    obtain ⟨htotalLen, hcrc, -⟩ := (r.upsert f).2.storeChunk_frame f
    rcases deliver_result (r.upsert f).1 f.seq ((r.upsert f).2.storeChunk f) with
      hignored | ⟨hsame, hdelivered⟩
    · grind
    · rw [hdelivered]
      refine ⟨fun h => (by cases h), fun _ => ⟨_, rfl, ?_, ?_⟩⟩
      · refine (InboundMessage.length_assemble_le _).trans ?_
        rw [htotalLen, hup.totalLen]
        exact (Fragment.valid_limits hvalid).2.2
      · rw [hsame, hcrc, crc_upsert]

lemma push_caps (r : Reassembler) (f : Fragment) :
    (r.push f).1.maxRecent = r.maxRecent ∧ (r.push f).1.maxPending = r.maxPending := by
  by_cases hvalid : f.valid = true
  swap
  · simp [Reassembler.push, hvalid]
  by_cases hdup : r.alreadyDelivered f = true
  · simp [Reassembler.push, hvalid, hdup]
  obtain ⟨hrecent, hpending, -⟩ := upsert_frame r f
  rw [push_eq hvalid hdup]
  split_ifs with hremain
  · exact ⟨hrecent, hpending⟩
  · simp only [Reassembler.deliver]
    split_ifs <;> exact ⟨hrecent, hpending⟩

end Push

/-! ## Any run -/

def pushAll (r : Reassembler) (pushes : List Fragment) : Reassembler :=
  run (fun r f => (r.push f).1) r pushes

lemma bounded_pushAll (maxRecent : ℕ) (pushes : List Fragment) :
    ((new maxRecent).pushAll pushes).Bounded ∧
      ((new maxRecent).pushAll pushes).maxRecent = (new maxRecent).maxRecent ∧
      ((new maxRecent).pushAll pushes).maxPending = (new maxRecent).maxPending := by
  apply run_invariant_of_step _ (I := fun r => Bounded r ∧
    r.maxRecent = (new maxRecent).maxRecent ∧ r.maxPending = (new maxRecent).maxPending)
  · rintro r f ⟨h, hrecent, hpending⟩
    obtain ⟨hrecent', hpending'⟩ := push_caps r f
    exact ⟨h.push f, hrecent'.trans hrecent, hpending'.trans hpending⟩
  · exact ⟨bounded_new maxRecent, rfl, rfl⟩

/-- **A reassembler withstands any fragments.**  After any pushes its maps are within the caps it
was made with, and every pending entry has at most 4096 slots, counts the open ones and has one.
Whatever fragment comes next, its entry is not the one that is evicted; a fragment that is stored
leaves its message pending; and a message that is delivered has at most 256 KiB and the checksum
that the fragment announced. -/
theorem push_bounded (maxRecent : ℕ) (pushes : List Fragment) (f : Fragment) :
    let r := (new maxRecent).pushAll pushes
    (r.Bounded ∧ r.maxRecent = (new maxRecent).maxRecent ∧
        r.maxPending = (new maxRecent).maxPending) ∧
      (f.valid = true → (r.upsert f).1.inbound.lookup f.seq = some (r.upsert f).2) ∧
      ((r.push f).2.1 = .resultPartial → f.seq ∈ (r.push f).1.inbound) ∧
      ((r.push f).2.1 = .resultDelivered →
        ∃ data, (r.push f).2.2 = some data ∧ data.length ≤ maxMessageLen ∧
          crc32 data = f.crc) := by
  intro r
  have hbounded := bounded_pushAll maxRecent pushes
  refine ⟨hbounded, ?_, hbounded.1.push_result f⟩
  intro hvalid
  exact (hbounded.1.upserted hvalid).lookup

/-- Fragment `i` of two that make up the message `ab`. -/
def exampleFragment (i : UInt16) : Fragment :=
  let payload : Bytes := if i = 0 then [97] else [98]
  ⟨7, crc32 [97, 98], 2, i, 2, crc32 payload, payload⟩

/-- The first of two fragments leaves the message pending, and the second delivers it. -/
theorem push_bounded_pair :
    7 ∈ (((new 8).pushAll []).push (exampleFragment 0)).1.inbound ∧
      ∃ data, (((new 8).pushAll [exampleFragment 0]).push (exampleFragment 1)).2.2 = some data ∧
        data.length ≤ maxMessageLen ∧ crc32 data = crc32 [97, 98] := by
  obtain ⟨-, -, hunfinished, -⟩ := push_bounded 8 [] (exampleFragment 0)
  obtain ⟨-, -, -, hdelivered⟩ := push_bounded 8 [exampleFragment 0] (exampleFragment 1)
  exact ⟨hunfinished (by decide +kernel), hdelivered (by decide +kernel)⟩

end Reassembler

end OlcRtc
