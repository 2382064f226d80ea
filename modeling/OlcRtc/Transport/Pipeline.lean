import OlcRtc.Lib.Checks
import OlcRtc.Lib.Reads
import OlcRtc.Transport.Bounds
import OlcRtc.Transport.Channel

/-!
# From a message to its delivery

One message (`Outgoing`) is cut, encoded, decoded and reassembled while frames of any other kind
arrive in between: fragments of other messages, and bytes that are no frame at all.

* **`readFrame_eq`**: `DecodeFrame` reads within its bounds, whatever the bytes are.
* **`message_delivered_once`**: if every frame of the message arrives, in any order and any number
  of times, then those that come before the message is complete are stored, the one that completes
  it delivers exactly its bytes, and those after are duplicates.

The state of the reassembler with respect to the message goes from `Untouched` through `Collecting`
to `Done`.  While it is collecting, nothing may be evicted, which is what `HasRoom` says of every
frame that arrives: at most 256 messages are incomplete, the frame's own included.  Its own counts
even if the frame completes it, since its entry is made before the fragment is stored
(`complete_message_evicts`).  Once it is done, fewer than 256 other deliveries turn the generations
at most once, and it stays remembered.
-/

namespace OlcRtc

/-! ## Reading a frame

`DecodeFrame` once more, with every read of the source as a read that may fail. -/

/-- `validateFrameHeader`. -/
def readFrameHeader (data : Bytes) : Option (Except FrameError Unit) :=
  if data.length < 6 then some (.error .frameTooShort)
  else do
    let magic ← reslice data 0 4
    if beGet magic ≠ frameMagic then some (.error .unexpectedMagic)
    else do
      let version ← index data 4
      if version ≠ frameVersion then some (.error .unexpectedVersion) else some (.ok ())

/-- `decodeAckBody`. -/
def readAckBody (frame : Frame) (data : Bytes) : Option (Except FrameError Frame) :=
  if data.length < frameAckLen then some (.error .ackTooShort)
  else do
    let seq ← reslice data 11 15
    let crc ← reslice data 15 19
    let fragIdx ← reslice data 19 21
    return .ok { frame with
      seq := UInt32.ofNat (beGet seq)
      crc := UInt32.ofNat (beGet crc)
      fragIdx := UInt16.ofNat (beGet fragIdx) }

/-- `decodeDataBody`. -/
def readDataBody (frame : Frame) (data : Bytes) : Option (Except FrameError Frame) :=
  if data.length < frameDataHdrLen then some (.error .dataTooShort)
  else do
    let seq ← reslice data 11 15
    let crc ← reslice data 15 19
    let totalLen ← reslice data 19 23
    let fragIdx ← reslice data 23 25
    let fragTotal ← reslice data 25 27
    let fragCRC ← reslice data 27 31
    let payload ← reslice data frameDataHdrLen data.length
    return .ok { frame with
      seq := UInt32.ofNat (beGet seq)
      crc := UInt32.ofNat (beGet crc)
      totalLen := UInt32.ofNat (beGet totalLen)
      fragIdx := UInt16.ofNat (beGet fragIdx)
      fragTotal := UInt16.ofNat (beGet fragTotal)
      fragCRC := UInt32.ofNat (beGet fragCRC)
      payload := payload }

/-- `DecodeFrame`. -/
def readFrame (data : Bytes) : Option (Except FrameError Frame) := do
  match ← readFrameHeader data with
  | .error err => some (.error err)
  | .ok () =>
    let typ ← index data 5
    if data.length < frameHelloLen then some (.error (shortFrameError typ))
    else do
      let role ← index data 6
      let binding ← reslice data 7 11
      let frame : Frame := { type := typ, role := role, binding := UInt32.ofNat (beGet binding) }
      if typ = frameTypeHello then some (.ok frame)
      else if typ = frameTypeAck then readAckBody frame data
      else if typ = frameTypeData then readDataBody frame data
      else some (.error .unexpectedFrameType)

lemma readFrameHeader_eq (data : Bytes) :
    readFrameHeader data = some (validateFrameHeader data) := by
  grind [readFrameHeader, validateFrameHeader, reslice_of_le, index_of_lt, Option.bind_eq_bind]

lemma readAckBody_eq (frame : Frame) (data : Bytes) :
    readAckBody frame data = some (decodeAckBody frame data) := by
  rw [readAckBody, decodeAckBody]
  split_ifs with hshort
  · rfl
  · rw [frameAckLen] at hshort
    rw [reslice_of_le (by omega) (by omega), reslice_of_le (by omega) (by omega),
      reslice_of_le (by omega) (by omega)]
    rfl

lemma readDataBody_eq (frame : Frame) (data : Bytes) :
    readDataBody frame data = some (decodeDataBody frame data) := by
  rw [readDataBody, decodeDataBody]
  split_ifs with hshort
  · rfl
  · have hpayload : slice data frameDataHdrLen data.length = data.drop frameDataHdrLen := by
      rw [slice, List.take_of_length_le (by rw [List.length_drop])]
    rw [not_lt] at hshort
    rw [← hpayload, reslice_of_le hshort (le_refl _)]
    rw [frameDataHdrLen] at hshort
    rw [reslice_of_le (by omega) (by omega), reslice_of_le (by omega) (by omega),
      reslice_of_le (by omega) (by omega), reslice_of_le (by omega) (by omega),
      reslice_of_le (by omega) (by omega), reslice_of_le (by omega) (by omega)]
    rfl

/-- **`DecodeFrame` never reads out of bounds**, whatever the bytes are. -/
lemma readFrame_eq (data : Bytes) : readFrame data = some (decodeFrame data) := by
  rw [readFrame, decodeFrame, readFrameHeader_eq, Option.bind_eq_bind, Option.bind_some]
  cases hheader : validateFrameHeader data with
  | error err => rfl
  | ok =>
    have hlong : ¬data.length < 6 := by
      grind [validateFrameHeader]
    rw [ok_bind]
    dsimp only
    rw [index_of_lt (by omega), Option.bind_eq_bind, Option.bind_some]
    by_cases hhello : data.length < frameHelloLen
    · rw [if_pos hhello, if_pos hhello]
    · rw [if_neg hhello, if_neg hhello]
      rw [frameHelloLen] at hhello
      rw [index_of_lt (by omega), reslice_of_le (by omega) (by omega), Option.bind_eq_bind,
        Option.bind_some, Option.bind_some, readAckBody_eq, readDataBody_eq]
      split_ifs <;> rfl

/-! ## Frames and what comes of them -/

/-- The fragment that some bytes carry, if they are a data frame. -/
def dataFragment (bytes : Bytes) : Option Fragment :=
  match decodeFrame bytes with
  | .error _ => none
  | .ok frame => if frame.type = frameTypeData then some frame.fragment else none

namespace Reassembler

def receive (r : Reassembler) (bytes : Bytes) : Reassembler × PushResult × Option Bytes :=
  match dataFragment bytes with
  | none => (r, .resultIgnore, none)
  | some f => r.push f

def outcomes (r : Reassembler) : List Bytes → List (Bytes × PushResult × Option Bytes)
  | [] => []
  | bytes :: rest => (bytes, (r.receive bytes).2) :: (r.receive bytes).1.outcomes rest

def receiveAll (r : Reassembler) (frames : List Bytes) : Reassembler :=
  run (fun r bytes => (r.receive bytes).1) r frames

lemma outcomes_append (r : Reassembler) (frames rest : List Bytes) :
    r.outcomes (frames ++ rest) = r.outcomes frames ++ (r.receiveAll frames).outcomes rest := by
  induction frames generalizing r with
  | nil => rfl
  | cons bytes frames ih =>
    rw [List.cons_append, outcomes, ih]
    rfl

/-- The messages that are incomplete while a fragment is being stored: those that are pending, and
the fragment's own. -/
def incomplete (r : Reassembler) (f : Fragment) : List UInt32 :=
  f.seq :: r.inbound.keys.erase f.seq

/-- A frame whose fragment is stored finds at most 256 incomplete messages, its own included. -/
def HasRoom (r : Reassembler) (bytes : Bytes) : Prop :=
  ∀ f, dataFragment bytes = some f → f.valid = true → ¬r.alreadyDelivered f = true →
    (r.incomplete f).length ≤ 256

instance (r : Reassembler) (bytes : Bytes) : Decidable (r.HasRoom bytes) :=
  decidable_of_iff (∀ f ∈ dataFragment bytes, f.valid = true → ¬r.alreadyDelivered f = true →
    (r.incomplete f).length ≤ 256) Iff.rfl

/-! ## What a push leaves alone -/

section Push

variable {r : Reassembler} {f : Fragment}

lemma lookup_upsert_ne (hroom : (r.incomplete f).length ≤ r.maxPending) {seq : UInt32}
    (hne : seq ≠ f.seq) : (r.upsert f).1.inbound.lookup seq = r.inbound.lookup seq := by
  have hfresh : (r.insertFresh f).inbound.lookup seq = r.inbound.lookup seq := by
    rw [insertFresh, evictOldestIfFull, if_pos]
    · exact AList.lookup_insert_ne hne
    · right
      show (r.inbound.insert f.seq _).keys.length ≤ r.maxPending
      rw [AList.keys_insert]
      exact hroom
  rw [upsert]
  split
  · exact hfresh
  · split
    · rfl
    · exact hfresh

lemma lookup_push_upsert (hvalid : f.valid = true) (hnew : ¬r.alreadyDelivered f = true)
    {seq : UInt32} (hne : seq ≠ f.seq) :
    (r.push f).1.inbound.lookup seq = (r.upsert f).1.inbound.lookup seq := by
  rw [push_eq hvalid hnew]
  split_ifs with hremain
  · exact AList.lookup_insert_ne hne
  · simp only [Reassembler.deliver]
    split_ifs <;> exact AList.lookup_erase_ne hne

lemma lookup_push_ne (hroom : f.valid = true → ¬r.alreadyDelivered f = true →
    (r.incomplete f).length ≤ r.maxPending) {seq : UInt32} (hne : seq ≠ f.seq) :
    (r.push f).1.inbound.lookup seq = r.inbound.lookup seq := by
  by_cases hvalid : f.valid = true
  swap
  · simp [Reassembler.push, hvalid]
  by_cases hdup : r.alreadyDelivered f = true
  · simp [Reassembler.push, hvalid, hdup]
  rw [lookup_push_upsert hvalid hdup hne, lookup_upsert_ne (hroom hvalid hdup) hne]

lemma push_window (r : Reassembler) (f : Fragment) :
    ((r.push f).2.1 ≠ .resultDelivered ∧ (r.push f).1.delivered = r.delivered ∧
        (r.push f).1.previous = r.previous) ∨
      ((r.push f).2.1 = .resultDelivered ∧
        (r.push f).1.delivered =
          (if r.maxRecent ≤ r.delivered.keys.length then ∅ else r.delivered).insert f.seq f.crc ∧
        (r.push f).1.previous =
          if r.maxRecent ≤ r.delivered.keys.length then r.delivered else r.previous) := by
  by_cases hvalid : f.valid = true
  swap
  · exact .inl (by simp [Reassembler.push, hvalid])
  by_cases hdup : r.alreadyDelivered f = true
  · exact .inl (by simp [Reassembler.push, hvalid, hdup])
  obtain ⟨hrecent, -, hdelivered, hprevious⟩ := upsert_frame r f
  rw [push_eq hvalid hdup, ← hrecent, ← hdelivered, ← hprevious]
  by_cases hremain : 0 < ((r.upsert f).2.storeChunk f).remain
  · rw [if_pos hremain]
    exact .inl ⟨by simp, rfl, rfl⟩
  rw [if_neg hremain]
  simp only [Reassembler.deliver]
  by_cases hcrc : crc32 ((r.upsert f).2.storeChunk f).assemble = ((r.upsert f).2.storeChunk f).crc
  · rw [if_neg (not_not.2 hcrc), ((r.upsert f).2.storeChunk_frame f).2.1, crc_upsert]
    refine .inr ⟨rfl, ?_⟩
    split_ifs <;> exact ⟨rfl, rfl⟩
  · rw [if_pos hcrc]
    exact .inl ⟨by simp, rfl, rfl⟩

lemma push_window_ne {seq : UInt32} (hne : seq ≠ f.seq) (hdelivered : r.delivered.lookup seq = none)
    (hprevious : r.previous.lookup seq = none) :
    (r.push f).1.delivered.lookup seq = none ∧ (r.push f).1.previous.lookup seq = none := by
  rcases push_window r f with ⟨-, hdelivered', hprevious'⟩ | ⟨-, hdelivered', hprevious'⟩
  · grind
  · rw [hdelivered', hprevious', AList.lookup_insert_ne hne]
    split_ifs
    · exact ⟨AList.lookup_empty _, hdelivered⟩
    · exact ⟨hdelivered, hprevious⟩

lemma lookup_push_none {seq : UInt32} (hne : seq ≠ f.seq) (hnone : r.inbound.lookup seq = none) :
    (r.push f).1.inbound.lookup seq = none := by
  by_cases hvalid : f.valid = true
  swap
  · simpa [Reassembler.push, hvalid] using hnone
  by_cases hdup : r.alreadyDelivered f = true
  · simpa [Reassembler.push, hvalid, hdup] using hnone
  have hfresh : (r.insertFresh f).inbound.lookup seq = none := by
    by_contra hsome
    obtain ⟨msg, hl⟩ := Option.ne_none_iff_exists'.1 hsome
    have hold := (lookup_evictOldestIfFull _ f.seq).2 seq msg hl
    rw [AList.lookup_insert_ne hne, hnone] at hold
    cases hold
  have hupsert : (r.upsert f).1.inbound.lookup seq = none := by
    rw [upsert]
    split
    · exact hfresh
    · split_ifs
      · exact hnone
      · exact hfresh
  rw [lookup_push_upsert hvalid hdup hne, hupsert]

end Push

end Reassembler

/-! ## A message on its way -/

/-- A message that the wire format can carry, and how it is sent. -/
structure Outgoing where
  role : UInt8
  binding : UInt32
  seq : UInt32
  data : Bytes
  size : ℕ
  sendable : Sendable size data

namespace Outgoing

variable (m : Outgoing)

def chunks : List Bytes := fragmentPayload m.data m.size

def fragment (i : ℕ) (chunk : Bytes) : Fragment :=
  ⟨m.seq, crc32 m.data, UInt32.ofNat m.data.length, UInt16.ofNat i, UInt16.ofNat m.chunks.length,
    crc32 chunk, chunk⟩

def frame (i : ℕ) (chunk : Bytes) : Bytes :=
  encodeData m.role m.binding m.seq (crc32 m.data) m.data.length i m.chunks.length chunk

def frames : List Bytes := m.chunks.mapIdx m.frame

/-- Bytes that do not carry a fragment with the message's number. -/
def Other (bytes : Bytes) : Prop := ∀ f, dataFragment bytes = some f → f.seq ≠ m.seq

instance (bytes : Bytes) : Decidable (m.Other bytes) :=
  decidable_of_iff (∀ f ∈ dataFragment bytes, f.seq ≠ m.seq) Iff.rfl

lemma mem_frames {bytes : Bytes} :
    bytes ∈ m.frames ↔ ∃ i chunk, m.chunks[i]? = some chunk ∧ bytes = m.frame i chunk := by
  rw [frames, List.mem_mapIdx]
  constructor
  · grind
  · grind

lemma dataFragment_frame (i : ℕ) (chunk : Bytes) :
    dataFragment (m.frame i chunk) = some (m.fragment i chunk) := by
  rw [dataFragment, frame, encodeData, decodeFrame_dataHeader]
  rfl

lemma isFragment {i : ℕ} {chunk : Bytes} (h : m.chunks[i]? = some chunk) :
    IsFragment m.size (m.fragment i chunk) m.data i chunk where
  sendable := m.sendable
  chunk_eq := h
  crc := rfl
  totalLen := rfl
  fragIdx := rfl
  fragTotal := rfl
  fragCRC := rfl
  payload := .inl rfl

lemma index_of_frame_eq {i j : ℕ} {chunk chunk' : Bytes} (hi : m.chunks[i]? = some chunk)
    (hj : m.chunks[j]? = some chunk') (h : m.frame j chunk' = m.frame i chunk) : j = i := by
  have hfragment := m.dataFragment_frame j chunk'
  rw [h, m.dataFragment_frame, Option.some.injEq] at hfragment
  rw [← (m.isFragment hj).toNat_fragIdx, ← hfragment, (m.isFragment hi).toNat_fragIdx]

lemma valid_fragment {i : ℕ} {chunk : Bytes} (h : m.chunks[i]? = some chunk) :
    (m.fragment i chunk).valid = true := by
  have hfragment := m.isFragment h
  have htotal := hfragment.toNat_fragTotal
  have hidx := hfragment.toNat_fragIdx
  have hlt := hfragment.lt
  obtain ⟨hlen, hcount⟩ := m.sendable
  have hle := length_fragmentPayload_le m.data m.size
  have hchunk : chunk.length ≤ m.data.length :=
    length_le_of_mem_fragmentPayload (List.mem_of_getElem? h)
  have htotalLen : (m.fragment i chunk).totalLen.toNat = m.data.length := by
    rw [maxMessageLen] at hlen
    show (UInt32.ofNat m.data.length).toNat = _
    rw [UInt32.toNat_ofNat']
    omega
  rw [Fragment.valid, if_neg, if_neg, if_neg, if_neg]
  · exact beq_self_eq_true _
  · rw [htotalLen, not_lt]
    exact hchunk
  · rw [htotalLen, htotal, not_lt]
    exact hle
  · rw [htotalLen, not_lt]
    exact hlen
  · grind [UInt16.toNat_inj, UInt16.le_iff_toNat_le, UInt16.toNat_zero]

end Outgoing

/-! ## Collecting the fragments -/

namespace Reassembler

variable {m : Outgoing} {r : Reassembler} {f : Fragment} {i : ℕ} {chunk : Bytes}

/-- Some fragments of the message have arrived, not all. -/
structure Collecting (m : Outgoing) (arrived : List ℕ) (r : Reassembler) : Prop where
  maxRecent : r.maxRecent = 256
  maxPending : r.maxPending = 256
  delivered : r.delivered.lookup m.seq = none
  previous : r.previous.lookup m.seq = none
  entry : ∀ msg, r.inbound.lookup m.seq = some msg → Holds m.size m.data msg ∧ 0 < msg.remain
  stored : ∀ i ∈ arrived, r.Stored m.seq i

/-- The message has been delivered, and at most `k` others since it was last moved. -/
structure Done (m : Outgoing) (k : ℕ) (r : Reassembler) : Prop where
  maxRecent : r.maxRecent = 256
  maxPending : r.maxPending = 256
  remembered : r.delivered.lookup m.seq = some (crc32 m.data) ∨
    (r.delivered.lookup m.seq = none ∧ r.previous.lookup m.seq = some (crc32 m.data) ∧
      r.delivered.keys.length ≤ k)

lemma Collecting.exists_missing {arrived : List ℕ} (h : r.Collecting m arrived) :
    ∃ i < m.chunks.length, i ∉ arrived := by
  by_contra hall
  push Not at hall
  have hpos : 0 < m.chunks.length := List.length_pos_of_ne_nil (fragmentPayload_ne_nil _ _)
  obtain ⟨msg, -, hl, -⟩ := h.stored 0 (hall 0 hpos)
  obtain ⟨hholds, hremain⟩ := h.entry msg hl
  rw [hholds.remain, List.count_pos_iff, List.mem_iff_getElem?] at hremain
  obtain ⟨i, hi⟩ := hremain
  have hlt : i < m.chunks.length := by
    rw [Outgoing.chunks, ← hholds.length_frags]
    exact (List.getElem?_eq_some_iff.1 hi).1
  obtain ⟨msg', chunk, hl', hchunk⟩ := h.stored i (hall i hlt)
  rw [hl, Option.some.injEq] at hl'
  rw [← hl', hi] at hchunk
  cases hchunk

lemma Collecting.push_ne {arrived : List ℕ} (h : r.Collecting m arrived) (hne : f.seq ≠ m.seq)
    (hroom : f.valid = true → ¬r.alreadyDelivered f = true → (r.incomplete f).length ≤ 256) :
    (r.push f).1.Collecting m arrived := by
  have hlookup : (r.push f).1.inbound.lookup m.seq = r.inbound.lookup m.seq := by
    apply lookup_push_ne _ hne.symm
    rw [h.maxPending]
    exact hroom
  obtain ⟨hrecent, hpending⟩ := push_caps r f
  have hwindow := push_window_ne hne.symm h.delivered h.previous
  refine ⟨hrecent.trans h.maxRecent, hpending.trans h.maxPending, hwindow.1, hwindow.2, ?_, ?_⟩
  · rw [hlookup]
    exact h.entry
  · intro i hi
    obtain ⟨msg, chunk, hl, hchunk⟩ := h.stored i hi
    exact ⟨msg, chunk, hlookup.trans hl, hchunk⟩

lemma Collecting.upsert {arrived : List ℕ} (h : r.Collecting m arrived) (hseq : f.seq = m.seq)
    (hf : IsFragment m.size f m.data i chunk) :
    Holds m.size m.data (r.upsert f).2 ∧
      ∀ msg, r.inbound.lookup m.seq = some msg → (r.upsert f).2 = msg := by
  cases hl : r.inbound.lookup f.seq with
  | none =>
    grind [Reassembler.upsert, Holds.freshMessage]
  | some msg =>
    obtain ⟨hholds, -⟩ := h.entry msg (hseq ▸ hl)
    have hup : r.upsert f = (r, msg) := by
      simp only [Reassembler.upsert, hl, hholds.compatible hf, if_true]
    rw [hup, ← hseq, hl]
    exact ⟨hholds, fun _ h => Option.some.inj h⟩

/-- **A fragment of the message** is stored, or completes the message and delivers it. -/
lemma Collecting.push_eq {arrived : List ℕ} (h : r.Collecting m arrived) (hseq : f.seq = m.seq)
    (hvalid : f.valid = true) (hf : IsFragment m.size f m.data i chunk) :
    ((r.push f).2 = (.resultPartial, none) ∧ (r.push f).1.Collecting m (i :: arrived)) ∨
      ((r.push f).2 = (.resultDelivered, some m.data) ∧ (r.push f).1.Done m 0) := by
  have hnew : ¬r.alreadyDelivered f = true := by
    rw [alreadyDelivered, hseq, h.delivered, h.previous]
    simp
  obtain ⟨hholds, hexisting⟩ := h.upsert hseq hf
  obtain ⟨hholds', ⟨c, hfilled⟩, hkept, -⟩ := hholds.storeChunk hf hvalid
  obtain ⟨hrecent, hpending⟩ := push_caps r f
  obtain ⟨hrecent', hpending', hdelivered, hprevious⟩ := upsert_frame r f
  by_cases hremain : 0 < ((r.upsert f).2.storeChunk f).remain
  · left
    rw [Reassembler.push_eq hvalid hnew, if_pos hremain]
    refine ⟨rfl, hrecent'.trans h.maxRecent, hpending'.trans h.maxPending, ?_, ?_, ?_, ?_⟩
    · rw [← h.delivered]
      exact congrArg _ hdelivered
    · rw [← h.previous]
      exact congrArg _ hprevious
    · intro msg hl
      rw [hseq, AList.lookup_insert, Option.some.injEq] at hl
      exact hl ▸ ⟨hholds', hremain⟩
    · intro j hj
      refine ⟨(r.upsert f).2.storeChunk f, ?_⟩
      rw [hseq, AList.lookup_insert]
      rcases List.mem_cons.1 hj with rfl | hj
      · exact ⟨c, rfl, hfilled⟩
      · obtain ⟨msg, c', hl, hc'⟩ := h.stored j hj
        rw [← hexisting msg hl] at hc'
        obtain ⟨c'', hc''⟩ := hkept j c' hc'
        exact ⟨c'', rfl, hc''⟩
  · right
    have hdata : ((r.upsert f).2.storeChunk f).assemble = m.data :=
      hholds'.assemble m.sendable (by omega)
    have hresult : (r.push f).2 = (.resultDelivered, some m.data) := by
      rw [Reassembler.push_eq hvalid hnew, if_neg hremain]
      simp [Reassembler.deliver, hdata, hholds'.crc]
    refine ⟨hresult, hrecent.trans h.maxRecent, hpending.trans h.maxPending, .inl ?_⟩
    rcases push_window r f with ⟨hother, -⟩ | ⟨-, hdelivered, -⟩
    · exact absurd (congrArg Prod.fst hresult) hother
    · rw [hdelivered, hseq, AList.lookup_insert, hf.crc]

/-! ## After the delivery -/

lemma Done.push_eq {k : ℕ} (h : r.Done m k) (hseq : f.seq = m.seq) (hvalid : f.valid = true)
    (hf : IsFragment m.size f m.data i chunk) : r.push f = (r, .resultDuplicate, none) := by
  have hdup : r.alreadyDelivered f = true := by
    rw [alreadyDelivered, hseq, hf.crc]
    rcases h.remembered with hl | ⟨hnone, hl, -⟩
    · rw [hl]
      exact beq_self_eq_true _
    · rw [hnone, hl]
      exact beq_self_eq_true _
  simp [Reassembler.push, hvalid, hdup]

/-- **Fewer than 256 other deliveries do not make it forgotten.** -/
lemma Done.push_ne {k : ℕ} (h : r.Done m k) (hk : k < 256) (hne : f.seq ≠ m.seq) :
    (r.push f).1.Done m (if (r.push f).2.1 = .resultDelivered then k + 1 else k) := by
  obtain ⟨hrecent, hpending⟩ := push_caps r f
  refine ⟨hrecent.trans h.maxRecent, hpending.trans h.maxPending, ?_⟩
  rcases push_window r f with ⟨hresult, hdelivered, hprevious⟩ | ⟨hresult, hdelivered, hprevious⟩
  · rw [if_neg hresult, hdelivered, hprevious]
    exact h.remembered
  · rw [if_pos hresult, hdelivered, hprevious, AList.lookup_insert_ne hne.symm, h.maxRecent,
      length_keys_insert]
    rcases h.remembered with hl | ⟨hnone, hl, hlen⟩
    · by_cases hfull : 256 ≤ r.delivered.keys.length
      · -- the generation with the message becomes the previous one
        rw [if_pos hfull, if_pos hfull]
        refine .inr ⟨AList.lookup_empty _, hl, ?_⟩
        rw [if_neg (AList.notMem_empty _)]
        exact Nat.succ_le_succ (Nat.zero_le k)
      · rw [if_neg hfull]
        exact .inl hl
    · grind

end Reassembler

/-! ## A whole run -/

namespace Outgoing

variable (m : Outgoing)

def answers (outcomes : List (Bytes × PushResult × Option Bytes)) :
    List (PushResult × Option Bytes) :=
  (outcomes.filter fun o => o.1 ∈ m.frames).map Prod.snd

def otherDeliveries (outcomes : List (Bytes × PushResult × Option Bytes)) : ℕ :=
  outcomes.countP fun o => o.1 ∉ m.frames ∧ o.2.1 = .resultDelivered

variable {m}

/-- A frame is one of the message's own or does not have its number. -/
def Genuine (m : Outgoing) (bytes : Bytes) : Prop := bytes ∈ m.frames ∨ m.Other bytes

instance (m : Outgoing) (bytes : Bytes) : Decidable (m.Genuine bytes) :=
  inferInstanceAs (Decidable (_ ∨ _))

lemma answers_cons_mem {bytes : Bytes} (h : bytes ∈ m.frames) (answer : PushResult × Option Bytes)
    (rest : List (Bytes × PushResult × Option Bytes)) :
    m.answers ((bytes, answer) :: rest) = answer :: m.answers rest ∧
      m.otherDeliveries ((bytes, answer) :: rest) = m.otherDeliveries rest := by
  simp [answers, otherDeliveries, h]

lemma answers_cons_not_mem {bytes : Bytes} (h : bytes ∉ m.frames)
    (answer : PushResult × Option Bytes) (rest : List (Bytes × PushResult × Option Bytes)) :
    m.answers ((bytes, answer) :: rest) = m.answers rest ∧
      m.otherDeliveries ((bytes, answer) :: rest) =
        m.otherDeliveries rest + if answer.1 = .resultDelivered then 1 else 0 := by
  simp [answers, otherDeliveries, h, List.countP_cons]

lemma answers_append (outcomes rest : List (Bytes × PushResult × Option Bytes)) :
    m.answers (outcomes ++ rest) = m.answers outcomes ++ m.answers rest := by
  rw [answers, List.filter_append, List.map_append]
  rfl

lemma Other.not_mem {bytes : Bytes} (h : m.Other bytes) : bytes ∉ m.frames := by
  intro hmem
  obtain ⟨i, chunk, -, rfl⟩ := m.mem_frames.1 hmem
  exact h _ (m.dataFragment_frame i chunk) rfl

end Outgoing

namespace Reassembler

open Outgoing

variable {m : Outgoing}

lemma receive_frame (r : Reassembler) (i : ℕ) (chunk : Bytes) :
    r.receive (m.frame i chunk) = r.push (m.fragment i chunk) := by
  rw [receive, m.dataFragment_frame]

lemma Collecting.receive_other {r : Reassembler} {arrived : List ℕ} {bytes : Bytes}
    (h : r.Collecting m arrived) (hother : m.Other bytes) (hroom : r.HasRoom bytes) :
    (r.receive bytes).1.Collecting m arrived := by
  rw [receive]
  cases hdata : dataFragment bytes with
  | none => exact h
  | some f => exact h.push_ne (hother f hdata) (hroom f hdata)

lemma Done.receive_other {r : Reassembler} {k : ℕ} {bytes : Bytes} (h : r.Done m k) (hk : k < 256)
    (hother : m.Other bytes) :
    (r.receive bytes).1.Done m
      (if (r.receive bytes).2.1 = .resultDelivered then k + 1 else k) := by
  rw [receive]
  cases hdata : dataFragment bytes with
  | none => exact h
  | some f => exact h.push_ne hk (hother f hdata)

lemma Done.answers {frames : List Bytes} {r : Reassembler} {k : ℕ} (h : r.Done m k)
    (hgenuine : ∀ bytes ∈ frames, m.Genuine bytes)
    (hfew : k + m.otherDeliveries (r.outcomes frames) < 256) :
    ∃ n, m.answers (r.outcomes frames) = List.replicate n (.resultDuplicate, none) := by
  induction frames generalizing r k with
  | nil => exact ⟨0, rfl⟩
  | cons bytes frames ih =>
    have hrest : ∀ b ∈ frames, m.Genuine b := fun b hb => hgenuine b (List.mem_cons_of_mem _ hb)
    rw [outcomes] at hfew ⊢
    rcases hgenuine bytes List.mem_cons_self with hown | hother
    · obtain ⟨hanswers, hcount⟩ := answers_cons_mem hown (r.receive bytes).2
        ((r.receive bytes).1.outcomes frames)
      rw [hcount] at hfew
      rw [hanswers]
      obtain ⟨i, chunk, hchunk, rfl⟩ := m.mem_frames.1 hown
      have hpush := h.push_eq rfl (m.valid_fragment hchunk) (m.isFragment hchunk)
      rw [receive_frame, hpush] at hfew ⊢
      obtain ⟨n, hn⟩ := ih h hrest hfew
      exact ⟨n + 1, by rw [hn, List.replicate_succ]⟩
    · obtain ⟨hanswers, hcount⟩ := answers_cons_not_mem hother.not_mem (r.receive bytes).2
        ((r.receive bytes).1.outcomes frames)
      rw [hcount] at hfew
      rw [hanswers]
      refine ih (h.receive_other (by omega) hother) hrest ?_
      split_ifs at hfew ⊢ <;> omega

/-- **The answers to the frames of a message**: the fragment that completes it delivers it, those
before are stored, and those after are duplicates. -/
lemma Collecting.answers {frames : List Bytes} {r : Reassembler} {arrived : List ℕ}
    (h : r.Collecting m arrived) (hgenuine : ∀ bytes ∈ frames, m.Genuine bytes)
    (hall : ∀ i chunk, m.chunks[i]? = some chunk → i ∈ arrived ∨ m.frame i chunk ∈ frames)
    (hroom : Along (fun r bytes => (r.receive bytes).1) HasRoom r frames)
    (hfew : m.otherDeliveries (r.outcomes frames) < 256) :
    ∃ k n, m.answers (r.outcomes frames) =
      List.replicate k (.resultPartial, none) ++
        (.resultDelivered, some m.data) :: List.replicate n (.resultDuplicate, none) := by
  induction frames generalizing r arrived with
  | nil =>
    obtain ⟨i, hi, hmissing⟩ := h.exists_missing
    rcases hall i m.chunks[i] (List.getElem?_eq_getElem hi) with harrived | hmem
    · exact absurd harrived hmissing
    · cases hmem
  | cons bytes frames ih =>
    have hrest : ∀ b ∈ frames, m.Genuine b := fun b hb => hgenuine b (List.mem_cons_of_mem _ hb)
    rw [outcomes] at hfew ⊢
    rcases hgenuine bytes List.mem_cons_self with hown | hother
    · obtain ⟨hanswers, hcount⟩ := answers_cons_mem hown (r.receive bytes).2
        ((r.receive bytes).1.outcomes frames)
      rw [hcount] at hfew
      rw [hanswers]
      obtain ⟨i, chunk, hchunk, rfl⟩ := m.mem_frames.1 hown
      have hroom' : Along _ HasRoom (r.receive (m.frame i chunk)).1 frames := hroom.2
      rw [receive_frame] at hfew hroom' ⊢
      rcases h.push_eq rfl (m.valid_fragment hchunk) (m.isFragment hchunk) with
        ⟨hresult, hnext⟩ | ⟨hresult, hnext⟩
      · have hall' : ∀ j c, m.chunks[j]? = some c → j ∈ i :: arrived ∨ m.frame j c ∈ frames := by
          intro j c hc
          rcases hall j c hc with harrived | hmem
          · exact .inl (List.mem_cons_of_mem i harrived)
          · rcases List.mem_cons.1 hmem with hsame | hmem
            · exact .inl (m.index_of_frame_eq hchunk hc hsame ▸ List.mem_cons_self)
            · exact .inr hmem
        obtain ⟨k, n, hkn⟩ := ih hnext hrest hall' hroom' hfew
        exact ⟨k + 1, n, by rw [hresult, hkn, List.replicate_succ, List.cons_append]⟩
      · obtain ⟨n, hn⟩ := hnext.answers hrest (by omega)
        exact ⟨0, n, by rw [hresult, hn]; rfl⟩
    · obtain ⟨hanswers, hcount⟩ := answers_cons_not_mem hother.not_mem (r.receive bytes).2
        ((r.receive bytes).1.outcomes frames)
      rw [hcount] at hfew
      rw [hanswers]
      refine ih (h.receive_other hother hroom.1) hrest ?_ hroom.2 (by omega)
      intro j c hc
      refine (hall j c hc).imp_right fun hmem => ?_
      rcases List.mem_cons.1 hmem with hsame | hmem
      · exact absurd (m.mem_frames.2 ⟨j, c, hc, hsame.symm⟩) hother.not_mem
      · exact hmem

/-- Nothing of the message has arrived. -/
structure Untouched (m : Outgoing) (r : Reassembler) : Prop where
  maxRecent : r.maxRecent = 256
  maxPending : r.maxPending = 256
  delivered : r.delivered.lookup m.seq = none
  previous : r.previous.lookup m.seq = none
  inbound : r.inbound.lookup m.seq = none

lemma Untouched.receive_other {r : Reassembler} {bytes : Bytes} (h : r.Untouched m)
    (hother : m.Other bytes) : (r.receive bytes).1.Untouched m := by
  rw [receive]
  cases hdata : dataFragment bytes with
  | none => exact h
  | some f =>
    have hne : m.seq ≠ f.seq := (hother f hdata).symm
    obtain ⟨hrecent, hpending⟩ := push_caps r f
    obtain ⟨hdelivered, hprevious⟩ := push_window_ne hne h.delivered h.previous
    exact ⟨hrecent.trans h.maxRecent, hpending.trans h.maxPending, hdelivered, hprevious,
      lookup_push_none hne h.inbound⟩

lemma collecting_receiveAll {frames : List Bytes} (hother : ∀ bytes ∈ frames, m.Other bytes) :
    ((new 256).receiveAll frames).Collecting m [] := by
  have huntouched : ∀ r : Reassembler, r.Untouched m → (r.receiveAll frames).Untouched m := by
    induction frames with
    | nil => exact fun r h => h
    | cons bytes frames ih =>
      intro r h
      exact ih (fun b hb => hother b (List.mem_cons_of_mem _ hb)) _
        (h.receive_other (hother bytes List.mem_cons_self))
  have h := huntouched (new 256) ⟨rfl, rfl, rfl, rfl, rfl⟩
  refine ⟨h.maxRecent, h.maxPending, h.delivered, h.previous, ?_, by simp⟩
  intro msg hl
  rw [h.inbound] at hl
  cases hl

/-- Other frames have no answers among those of the message. -/
lemma answers_other {frames : List Bytes} (hother : ∀ bytes ∈ frames, m.Other bytes)
    (r : Reassembler) : m.answers (r.outcomes frames) = [] := by
  induction frames generalizing r with
  | nil => rfl
  | cons bytes frames ih =>
    rw [outcomes, (answers_cons_not_mem (hother bytes List.mem_cons_self).not_mem _ _).1]
    exact ih (fun b hb => hother b (List.mem_cons_of_mem _ hb)) _

/-- **A message arrives once and whole**, if from its first to its last frame every frame finds room
and fewer than 256 other messages are delivered.  What else arrives is arbitrary but for the number
of the message.  And decoding never reads out of bounds. -/
theorem message_delivered_once (m : Outgoing) (before middle after : List Bytes)
    (hbefore : ∀ bytes ∈ before, m.Other bytes) (hmiddle : ∀ bytes ∈ middle, m.Genuine bytes)
    (hafter : ∀ bytes ∈ after, m.Other bytes) (hall : ∀ bytes ∈ m.frames, bytes ∈ middle)
    (hroom : Along (fun r bytes => (r.receive bytes).1) HasRoom ((new 256).receiveAll before)
      middle)
    (hfew : m.otherDeliveries (((new 256).receiveAll before).outcomes middle) < 256) :
    (∃ k n, m.answers ((new 256).outcomes (before ++ middle ++ after)) =
      List.replicate k (.resultPartial, none) ++
        (.resultDelivered, some m.data) :: List.replicate n (.resultDuplicate, none)) ∧
      ∀ data, readFrame data = some (decodeFrame data) := by
  refine ⟨?_, readFrame_eq⟩
  have hcollecting : ((new 256).receiveAll before).Collecting m [] :=
    collecting_receiveAll hbefore
  obtain ⟨k, n, hanswers⟩ := hcollecting.answers hmiddle
    (fun i chunk hchunk => .inr (hall _ (m.mem_frames.2 ⟨i, chunk, hchunk, rfl⟩))) hroom hfew
  refine ⟨k, n, ?_⟩
  rw [outcomes_append, outcomes_append, answers_append, answers_append, answers_other hbefore,
    answers_other hafter, hanswers, List.nil_append, List.append_nil]

def pairMessage (seq : UInt32) : Outgoing where
  role := 1
  binding := 5
  seq := seq
  data := [1, 2]
  size := 1
  sendable := ⟨by decide, by decide⟩

def singleMessage : Outgoing where
  role := 1
  binding := 5
  seq := 0
  data := [9]
  size := 1
  sendable := ⟨by decide, by decide⟩

/-- The frames of a message out of order, one of them twice, with another message in between. -/
theorem message_delivered_once_pair :
    ∃ k n, (pairMessage 7).answers ((new 256).outcomes ([] ++
        [(pairMessage 7).frame 1 [2], singleMessage.frame 0 [9], (pairMessage 7).frame 0 [1],
          (pairMessage 7).frame 1 [2]] ++ [])) =
      List.replicate k (.resultPartial, none) ++
        (.resultDelivered, some [1, 2]) :: List.replicate n (.resultDuplicate, none) := by
  refine (message_delivered_once (pairMessage 7) [] [(pairMessage 7).frame 1 [2],
    singleMessage.frame 0 [9], (pairMessage 7).frame 0 [1], (pairMessage 7).frame 1 [2]] []
    (by simp) ?_ (by simp) ?_ ?_ ?_).1
  · decide +kernel
  · decide +kernel
  · decide +kernel
  · decide +kernel

/-! ### A complete message needs room too -/

/-- The first fragments of the messages `1` to `k` are pending, in this order. -/
structure Filled (k : ℕ) (r : Reassembler) : Prop where
  maxRecent : r.maxRecent = 256
  maxPending : r.maxPending = 256
  delivered : r.delivered = ∅
  previous : r.previous = ∅
  addCounter : r.addCounter = k
  length_keys : r.inbound.keys.length = k
  added : ∀ seq msg, r.inbound.lookup seq = some msg →
    msg.added = seq.toNat ∧ 1 ≤ seq.toNat ∧ seq.toNat ≤ k
  first : 1 ≤ k → (1 : UInt32) ∈ r.inbound

lemma not_alreadyDelivered {r : Reassembler} {f : Fragment}
    (hdelivered : r.delivered.lookup f.seq = none) (hprevious : r.previous.lookup f.seq = none) :
    ¬r.alreadyDelivered f = true := by
  rw [alreadyDelivered, hdelivered, hprevious]
  simp

lemma push_pair {r : Reassembler} {seq : UInt32} (i : ℕ) (chunk : Bytes)
    (hchunk : (pairMessage seq).chunks[i]? = some chunk)
    (hnew : ¬r.alreadyDelivered ((pairMessage seq).fragment i chunk) = true)
    (hnone : r.inbound.lookup seq = none) :
    r.push ((pairMessage seq).fragment i chunk) =
      ({ r.insertFresh ((pairMessage seq).fragment i chunk) with
          inbound := (r.insertFresh ((pairMessage seq).fragment i chunk)).inbound.insert seq
            ((r.freshMessage ((pairMessage seq).fragment i chunk)).storeChunk
              ((pairMessage seq).fragment i chunk)) }, .resultPartial, none) := by
  have hup : r.upsert ((pairMessage seq).fragment i chunk) =
      (r.insertFresh ((pairMessage seq).fragment i chunk),
        r.freshMessage ((pairMessage seq).fragment i chunk)) := by
    rw [upsert, show ((pairMessage seq).fragment i chunk).seq = seq from rfl, hnone]
  rw [push_eq ((pairMessage seq).valid_fragment hchunk) hnew, hup, if_pos]
  · rfl
  · rw [InboundMessage.storeChunk]
    split
    · exact show 0 < 2 by decide
    · exact show 0 < 2 - 1 by decide

lemma Filled.push {k : ℕ} {r : Reassembler} (h : r.Filled k) (hk : k < 256) :
    (r.push ((pairMessage (UInt32.ofNat (k + 1))).fragment 0 [1])).2 = (.resultPartial, none) ∧
      (r.push ((pairMessage (UInt32.ofNat (k + 1))).fragment 0 [1])).1.Filled (k + 1) := by
  set seq := UInt32.ofNat (k + 1) with hseq
  set f := (pairMessage seq).fragment 0 [1] with hf
  have hnat : seq.toNat = k + 1 := by
    rw [hseq, UInt32.toNat_ofNat']
    omega
  have hnone : r.inbound.lookup seq = none := by
    by_contra hsome
    obtain ⟨msg, hl⟩ := Option.ne_none_iff_exists'.1 hsome
    have := (h.added seq msg hl).2.2
    omega
  have hnew : ¬r.alreadyDelivered f = true :=
    not_alreadyDelivered (by rw [h.delivered]; rfl) (by rw [h.previous]; rfl)
  have hkeys : ∀ msg, (r.inbound.insert seq msg).keys.length = k + 1 := by
    intro msg
    rw [length_keys_insert, if_neg, h.length_keys]
    rw [← AList.lookup_isSome, hnone]
    exact Bool.false_ne_true
  have hfresh : r.insertFresh f = { r with
      addCounter := r.addCounter + 1
      inbound := r.inbound.insert seq (r.freshMessage f) } := by
    rw [insertFresh, evictOldestIfFull, if_pos]
    · rfl
    · right
      show (r.inbound.insert seq _).keys.length ≤ r.maxPending
      rw [hkeys, h.maxPending]
      exact hk
  rw [push_pair 0 [1] rfl hnew hnone, ← hf, hfresh]
  refine ⟨rfl, h.maxRecent, h.maxPending, h.delivered, h.previous, ?_, ?_, ?_, ?_⟩
  · exact congrArg (· + 1) h.addCounter
  · show ((r.inbound.insert seq _).insert seq _).keys.length = k + 1
    rw [AList.insert_insert, hkeys]
  · intro seq' msg hl
    rw [AList.insert_insert] at hl
    rcases lookup_insert_cases hl with ⟨rfl, rfl⟩ | ⟨-, hold⟩
    · rw [hnat]
      refine ⟨?_, by omega, le_refl _⟩
      show r.addCounter + 1 = k + 1
      rw [h.addCounter]
    · obtain ⟨hadded, hpos, hle⟩ := h.added seq' msg hold
      exact ⟨hadded, hpos, by omega⟩
  · intro _
    rw [AList.insert_insert, AList.mem_insert]
    by_cases hzero : k = 0
    · left
      rw [hseq, hzero]
      rfl
    · exact .inr (h.first (by omega))

/-- **A message of one fragment evicts the oldest one** if 256 messages are pending. -/
lemma Filled.push_single {r : Reassembler} (h : r.Filled 256) :
    (r.push (singleMessage.fragment 0 [9])).1.inbound.lookup 1 = none := by
  set f := singleMessage.fragment 0 [9] with hf
  have hnone : r.inbound.lookup f.seq = none := by
    by_contra hsome
    obtain ⟨msg, hl⟩ := Option.ne_none_iff_exists'.1 hsome
    exact absurd (h.added _ msg hl).2.1 (by decide)
  have hnew : ¬r.alreadyDelivered f = true :=
    not_alreadyDelivered (by rw [h.delivered]; rfl) (by rw [h.previous]; rfl)
  have hup : (r.upsert f).1 = r.insertFresh f := by
    rw [upsert, hnone]
  have hone : (1 : UInt32) ≠ f.seq := by decide
  rw [lookup_push_upsert (singleMessage.valid_fragment rfl) hnew hone, hup, insertFresh]
  set inserted : Reassembler := { r with
    addCounter := r.addCounter + 1
    inbound := r.inbound.insert f.seq (r.freshMessage f) } with hinserted
  have hlength : inserted.inbound.keys.length = 257 := by
    show (r.inbound.insert f.seq _).keys.length = 257
    rw [length_keys_insert, if_neg, h.length_keys]
    rw [← AList.lookup_isSome, hnone]
    exact Bool.false_ne_true
  have hroom : (inserted.evictOldestIfFull f.seq).inbound.keys.length ≤ inserted.maxPending := by
    apply length_evictOldestIfFull_le
    · rw [hinserted, h.maxPending]
      decide
    · rw [hlength, hinserted, h.maxPending]
  rcases evictOldestIfFull_cases inserted f.seq with hsame | ⟨old, msg, hl, hne, -, hmin, herase⟩
  · rw [hsame, hlength, hinserted, h.maxPending] at hroom
    omega
  · -- the evicted entry was added first, and that is the one of message `1`
    have hlookup : ∀ seq, seq ≠ f.seq → inserted.inbound.lookup seq = r.inbound.lookup seq :=
      fun seq hseq => AList.lookup_insert_ne hseq
    obtain ⟨first, hfirst⟩ := Option.isSome_iff_exists.1
      (AList.lookup_isSome.2 (h.first (by decide)))
    have hadded := (h.added 1 first hfirst).1
    have hle := hmin 1 first ((hlookup 1 hone).trans hfirst) hone
    obtain ⟨hold, hpos, -⟩ := h.added old msg ((hlookup old hne).symm.trans hl)
    have hnat : old.toNat = (1 : UInt32).toNat := by
      grind
    rw [herase, UInt32.toNat_inj.1 hnat]
    exact AList.lookup_erase _ _

/-- The first frames of the messages `1` to `k`. -/
def firstFrames (k : ℕ) : List Bytes :=
  (List.range k).map fun s => (pairMessage (UInt32.ofNat (s + 1))).frame 0 [1]

lemma filled_firstFrames {k : ℕ} (hk : k ≤ 256) :
    ((new 256).receiveAll (firstFrames k)).Filled k ∧
      ∀ o ∈ (new 256).outcomes (firstFrames k), o.2 = (.resultPartial, none) := by
  induction k with
  | zero =>
    refine ⟨⟨rfl, rfl, rfl, rfl, rfl, rfl, ?_, by simp⟩, by simp [firstFrames, outcomes]⟩
    intro seq msg hl
    cases hl
  | succ k ih =>
    obtain ⟨hfilled, hpartial⟩ := ih (by omega)
    obtain ⟨hresult, hnext⟩ := hfilled.push (by omega)
    have hframes : firstFrames (k + 1) =
        firstFrames k ++ [(pairMessage (UInt32.ofNat (k + 1))).frame 0 [1]] := by
      rw [firstFrames, List.range_succ, List.map_append]
      rfl
    rw [hframes, outcomes_append]
    constructor
    · rw [receiveAll, run_concat]
      show (receive _ _).1.Filled (k + 1)
      rw [receive_frame]
      exact hnext
    · intro o ho
      rcases List.mem_append.1 ho with ho | ho
      · exact hpartial o ho
      · rw [outcomes, outcomes, List.mem_singleton] at ho
        rw [ho, receive_frame]
        exact hresult

end Reassembler

/-- Some frames of the message have arrived, and not all. -/
def Outgoing.isIncomplete (m : Outgoing) (arrived : List Bytes) : Bool :=
  m.frames.any (· ∈ arrived) && !m.frames.all (· ∈ arrived)

namespace Reassembler

open Outgoing

/-- The frames that evict message `1`. -/
def evictingFrames : List Bytes :=
  firstFrames 256 ++ [singleMessage.frame 0 [9], (pairMessage 1).frame 1 [2]]

lemma isIncomplete_singleMessage (arrived : List Bytes) :
    singleMessage.isIncomplete arrived = false := by
  have hframes : singleMessage.frames = [singleMessage.frame 0 [9]] := rfl
  rw [isIncomplete, hframes]
  simp

lemma otherDeliveries_evictingFrames :
    (pairMessage 1).otherDeliveries ((new 256).outcomes evictingFrames) < 256 := by
  have hnone : (pairMessage 1).otherDeliveries ((new 256).outcomes (firstFrames 256)) = 0 := by
    rw [otherDeliveries, List.countP_eq_zero]
    intro o ho
    rw [(filled_firstFrames (le_refl 256)).2 o ho]
    simp
  have hrest : ∀ r : Reassembler, (pairMessage 1).otherDeliveries
      (r.outcomes [singleMessage.frame 0 [9], (pairMessage 1).frame 1 [2]]) ≤ 2 :=
    fun r => List.countP_le_length
  rw [evictingFrames, outcomes_append, otherDeliveries, List.countP_append]
  rw [otherDeliveries] at hnone
  rw [hnone, Nat.zero_add]
  exact lt_of_le_of_lt (hrest ((new 256).receiveAll (firstFrames 256))) (by decide)

lemma answers_firstFrames :
    (pairMessage 1).answers ((new 256).outcomes (firstFrames 256)) = [(.resultPartial, none)] := by
  have hframes : firstFrames 256 = (pairMessage 1).frame 0 [1] ::
      (List.range 255).map fun s => (pairMessage (UInt32.ofNat (s + 1 + 1))).frame 0 [1] := by
    rw [firstFrames, List.range_succ_eq_map, List.map_cons, List.map_map]
    rfl
  have hown : (pairMessage 1).frame 0 [1] ∈ (pairMessage 1).frames :=
    (mem_frames _).2 ⟨0, [1], rfl, rfl⟩
  have hpartial := (filled_firstFrames (le_refl 256)).2
  rw [hframes, outcomes] at hpartial ⊢
  rw [(answers_cons_mem hown _ _).1, answers_other, hpartial _ List.mem_cons_self]
  intro bytes hbytes f hf
  obtain ⟨s, hs, rfl⟩ := List.mem_map.1 hbytes
  rw [dataFragment_frame, Option.some.injEq] at hf
  rw [← hf]
  show UInt32.ofNat (s + 1 + 1) ≠ 1
  have hlt := List.mem_range.1 hs
  rw [Ne, ← UInt32.toNat_inj, UInt32.toNat_ofNat', UInt32.toNat_one]
  omega

lemma answers_evictingFrames :
    (pairMessage 1).answers ((new 256).outcomes evictingFrames) =
      [(.resultPartial, none), (.resultPartial, none)] := by
  have hfilled := (filled_firstFrames (le_refl 256)).1
  rw [evictingFrames, outcomes_append, answers_append, answers_firstFrames]
  set r := (new 256).receiveAll (firstFrames 256) with hr
  have hother : (pairMessage 1).Other (singleMessage.frame 0 [9]) := by
    intro f hf
    rw [dataFragment_frame, Option.some.injEq] at hf
    rw [← hf]
    decide
  have hown : (pairMessage 1).frame 1 [2] ∈ (pairMessage 1).frames :=
    (mem_frames _).2 ⟨1, [2], rfl, rfl⟩
  have hwindow := @push_window_ne r (singleMessage.fragment 0 [9]) 1 (by decide)
    (by rw [hfilled.delivered]; rfl) (by rw [hfilled.previous]; rfl)
  rw [outcomes, outcomes, outcomes, (answers_cons_not_mem hother.not_mem _ _).1,
    (answers_cons_mem hown _ _).1, receive_frame, receive_frame,
    push_pair 1 [2] rfl (not_alreadyDelivered hwindow.1 hwindow.2) hfilled.push_single]
  rfl

/-- **With 256 incomplete messages, a complete one evicts the oldest**, which is then never
delivered. -/
theorem complete_message_evicts :
    let messages :=
      singleMessage :: (List.range 256).map fun s => pairMessage (UInt32.ofNat (s + 1))
    (∀ arrived, messages.countP (·.isIncomplete arrived) ≤ 256) ∧
      (messages.map (·.seq)).Nodup ∧
      (∀ bytes ∈ evictingFrames, ∃ m ∈ messages, bytes ∈ m.frames) ∧
      (∀ bytes ∈ (pairMessage 1).frames, bytes ∈ evictingFrames) ∧
      (pairMessage 1).otherDeliveries ((new 256).outcomes evictingFrames) < 256 ∧
      (pairMessage 1).answers ((new 256).outcomes evictingFrames) =
        [(.resultPartial, none), (.resultPartial, none)] := by
  intro messages
  refine ⟨?_, ?_, ?_, ?_, otherDeliveries_evictingFrames, answers_evictingFrames⟩
  · intro arrived
    rw [List.countP_cons, isIncomplete_singleMessage]
    refine List.countP_le_length.trans ?_
    rw [List.length_map, List.length_range]
  · have hnat : ∀ s ∈ List.range 256, (UInt32.ofNat (s + 1)).toNat = s + 1 := by
      intro s hs
      have hlt := List.mem_range.1 hs
      rw [UInt32.toNat_ofNat']
      omega
    rw [List.map_cons, List.map_map, List.nodup_cons]
    constructor
    · intro hmem
      obtain ⟨s, hs, hzero⟩ := List.mem_map.1 hmem
      have hsame := (hnat s hs).symm.trans (congrArg UInt32.toNat hzero)
      exact absurd hsame (Nat.succ_ne_zero s)
    · refine List.Nodup.map_on ?_ List.nodup_range
      intro s hs s' hs' hsame
      have hsucc := (hnat s hs).symm.trans ((congrArg UInt32.toNat hsame).trans (hnat s' hs'))
      omega
  · intro bytes hbytes
    rcases List.mem_append.1 hbytes with hbytes | hbytes
    · obtain ⟨s, hs, rfl⟩ := List.mem_map.1 hbytes
      exact ⟨_, List.mem_cons_of_mem _ (List.mem_map_of_mem hs),
        (mem_frames _).2 ⟨0, [1], rfl, rfl⟩⟩
    · rw [List.mem_pair] at hbytes
      rcases hbytes with rfl | rfl
      · exact ⟨_, List.mem_cons_self, (mem_frames _).2 ⟨0, [9], rfl, rfl⟩⟩
      · refine ⟨pairMessage 1, List.mem_cons_of_mem _ ?_, (mem_frames _).2 ⟨1, [2], rfl, rfl⟩⟩
        exact List.mem_map.2 ⟨0, by decide, rfl⟩
  · intro bytes hbytes
    have hframes : (pairMessage 1).frames =
        [(pairMessage 1).frame 0 [1], (pairMessage 1).frame 1 [2]] := rfl
    rw [hframes, List.mem_pair] at hbytes
    rcases hbytes with rfl | rfl
    · exact List.mem_append_left _ (List.mem_map.2 ⟨0, by decide, rfl⟩)
    · exact List.mem_append_right _ (by simp)

end Reassembler

end OlcRtc
