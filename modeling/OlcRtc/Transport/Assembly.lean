import OlcRtc.Transport.Reassembler

/-!
# One message being assembled

What an entry of the reassembler holds of a message `d`: `Holds size d msg` says that its filled
slots are chunks of `d` and that it counts the open ones.  A fragment of `d` finds the entry
compatible, fills its slot (`Holds.storeChunk`), and a complete entry assembles to `d`
(`Holds.assemble`).
-/

namespace OlcRtc

/-- A message the wire format can carry. -/
def Sendable (size : ℕ) (d : Bytes) : Prop :=
  d.length ≤ maxMessageLen ∧ (fragmentPayload d size).length ≤ maxFragments

/-- Fragment `i` of message `d`, as it arrives: the header is intact, and a payload that was damaged
fails the fragment's checksum. -/
structure IsFragment (size : ℕ) (f : Fragment) (d : Bytes) (i : ℕ) (chunk : Bytes) : Prop where
  sendable : Sendable size d
  chunk_eq : (fragmentPayload d size)[i]? = some chunk
  crc : f.crc = crc32 d
  totalLen : f.totalLen = UInt32.ofNat d.length
  fragIdx : f.fragIdx = UInt16.ofNat i
  fragTotal : f.fragTotal = UInt16.ofNat (fragmentPayload d size).length
  fragCRC : f.fragCRC = crc32 chunk
  payload : f.payload = chunk ∨ crc32 f.payload ≠ crc32 chunk

namespace IsFragment

variable {size : ℕ} {f : Fragment} {d chunk : Bytes} {i : ℕ}

lemma lt (h : IsFragment size f d i chunk) : i < (fragmentPayload d size).length :=
  (List.getElem?_eq_some_iff.mp h.chunk_eq).1

lemma toNat_fragTotal (h : IsFragment size f d i chunk) :
    f.fragTotal.toNat = (fragmentPayload d size).length := by
  have hle := h.sendable.2
  rw [maxFragments] at hle
  rw [h.fragTotal, UInt16.toNat_ofNat']
  omega

lemma toNat_fragIdx (h : IsFragment size f d i chunk) : f.fragIdx.toNat = i := by
  have hle := h.sendable.2
  have hlt := h.lt
  rw [maxFragments] at hle
  rw [h.fragIdx, UInt16.toNat_ofNat']
  omega

lemma payload_eq (h : IsFragment size f d i chunk) (hvalid : f.valid = true) :
    f.payload = chunk := by
  rcases h.payload with heq | hne
  · exact heq
  · exact absurd ((Fragment.valid_spec hvalid).2.trans h.fragCRC) hne

end IsFragment

/-! ## The entry of a message -/

/-- The entry belongs to message `d`, and its filled slots hold the right chunks. -/
structure Holds (size : ℕ) (d : Bytes) (msg : InboundMessage) : Prop where
  totalLen : msg.totalLen = UInt32.ofNat d.length
  crc : msg.crc = crc32 d
  length_frags : msg.frags.length = (fragmentPayload d size).length
  slot : ∀ (i : ℕ) (chunk : Bytes), msg.frags[i]? = some (some chunk) →
    (fragmentPayload d size)[i]? = some chunk
  remain : msg.remain = msg.frags.count none

namespace Holds

variable {size : ℕ} {f : Fragment} {d chunk : Bytes} {i : ℕ}
  {msg : InboundMessage}

lemma compatible (h : Holds size d msg) (hf : IsFragment size f d i chunk) :
    Reassembler.compatible msg f = true := by
  simp [Reassembler.compatible, h.crc, h.totalLen, h.length_frags, hf.crc, hf.totalLen,
    hf.toNat_fragTotal]

lemma freshMessage (r : Reassembler) (hf : IsFragment size f d i chunk) :
    Holds size d (r.freshMessage f) where
  totalLen := hf.totalLen
  crc := hf.crc
  length_frags := by simp [Reassembler.freshMessage, hf.toNat_fragTotal]
  slot := by
    intro j c hj
    have := List.mem_of_getElem? hj
    simp [Reassembler.freshMessage] at this
  remain := by simp [Reassembler.freshMessage]

lemma storeChunk_cases (h : Holds size d msg) (hf : IsFragment size f d i chunk) :
    (∃ c, msg.frags[i]? = some (some c) ∧ msg.storeChunk f = msg) ∨
      (msg.frags[i]? = some none ∧ msg.storeChunk f =
        { msg with frags := msg.frags.set i (some f.payload), remain := msg.remain - 1 }) := by
  have hlt : i < msg.frags.length := h.length_frags ▸ hf.lt
  have hsome : msg.frags[i]? = some msg.frags[i] := List.getElem?_eq_getElem hlt
  have hget : msg.frags.getD f.fragIdx.toNat none = msg.frags[i] := by
    rw [hf.toNat_fragIdx, List.getD_eq_getElem?_getD, hsome]
    rfl
  unfold InboundMessage.storeChunk
  rw [hget, hsome, hf.toNat_fragIdx]
  cases msg.frags[i] with
  | none => exact Or.inr ⟨rfl, rfl⟩
  | some c => exact Or.inl ⟨c, rfl, rfl⟩

lemma storeChunk (h : Holds size d msg) (hf : IsFragment size f d i chunk)
    (hvalid : f.valid = true) :
    Holds size d (msg.storeChunk f) ∧
      (∃ c, (msg.storeChunk f).frags[i]? = some (some c)) ∧
      (∀ (j : ℕ) (c : Bytes), msg.frags[j]? = some (some c) →
        ∃ c', (msg.storeChunk f).frags[j]? = some (some c')) ∧
      (msg.storeChunk f).added = msg.added := by
  rcases h.storeChunk_cases hf with ⟨c, hslot, hsame⟩ | ⟨hslot, hset⟩
  · grind
  · have hlt : i < msg.frags.length := (List.getElem?_eq_some_iff.mp hslot).1
    have hnone : msg.frags[i] = none := (List.getElem?_eq_some_iff.mp hslot).2
    rw [hset, hf.payload_eq hvalid]
    refine ⟨⟨h.totalLen, h.crc, by simpa using h.length_frags, ?_, ?_⟩, ⟨chunk, by simp [hlt]⟩,
      ?_, rfl⟩
    · intro j c hj
      by_cases hij : i = j
      · subst hij
        simp only [List.getElem?_set_self hlt, Option.some.injEq] at hj
        rw [← hj]
        exact hf.chunk_eq
      · exact h.slot j c (by simpa [List.getElem?_set_ne hij] using hj)
    · show msg.remain - 1 = (msg.frags.set i (some chunk)).count none
      rw [h.remain, List.count_set hlt, hnone]
      simp
    · grind

/-- **A complete entry assembles to the message.** -/
lemma assemble (h : Holds size d msg) (hd : Sendable size d) (hdone : msg.remain = 0) :
    msg.assemble = d := by
  have hfull : none ∉ msg.frags := by
    rw [← List.count_eq_zero, ← h.remain]
    exact hdone
  have hslots : msg.frags.map (·.getD []) = fragmentPayload d size := by
    refine List.ext_getElem? fun i => ?_
    rw [List.getElem?_map]
    by_cases hlt : i < msg.frags.length
    · have hsome : msg.frags[i]? = some msg.frags[i] := List.getElem?_eq_getElem hlt
      cases hslot : msg.frags[i] with
      | none => exact absurd (hslot ▸ List.getElem_mem hlt) hfull
      | some c =>
        rw [hslot] at hsome
        rw [hsome, h.slot i c hsome]
        rfl
    · rw [List.getElem?_eq_none (not_lt.mp hlt),
        List.getElem?_eq_none (h.length_frags ▸ not_lt.mp hlt)]
      rfl
  have hlen : msg.totalLen.toNat = d.length := by
    have hle := hd.1
    rw [maxMessageLen] at hle
    rw [h.totalLen, UInt32.toNat_ofNat']
    omega
  rw [InboundMessage.assemble_eq, hslots, flatten_fragmentPayload, hlen, List.take_length]

end Holds

end OlcRtc
