import OlcRtc.Lib.Blocks
import OlcRtc.Lib.Steps
import OlcRtc.Vp8.Reorder

/-!
# From RTP packets to VP8 frames

`readVP8Track` pushes every RTP packet of a track into the reorder buffer and feeds what the buffer
delivers to `processRTPPacket`, which concatenates the payloads from a start-of-partition packet up
to a marker packet and gives the frame up at a gap.  `codecs.VP8Packet.Unmarshal` is a parameter:
it reads the start bit and the payload out of a packet, or fails.

A sender cuts frames into packets, sets the start bit exactly on the first packet of a frame and the
marker exactly on the last, and numbers its packets consecutively modulo `2 ^ 16`.  The network
loses, reorders and repeats them at will, as long as an arriving packet is within `2 ^ 15` of the
position the buffer has reached.  **`rtpReader_exact`** says that what is handed up is a subsequence
of the sent frames, each byte for byte.

The argument is in two parts.  The reorder buffer delivers packets of the stream at increasing
positions, and skips only when it then delivers (`ReorderBuffer.Inv.push_spec`).  A valid assembly
state holds the payloads of a proper initial part of one frame, up to the packet just delivered
(`Vp8FrameState.Inv`); `processRTPPacket` sees any skip because fewer than `2 ^ 16` packets were
skipped.
-/

namespace OlcRtc

def maxAssembledFrameSize : ℕ := 4 * defaultMaxPayloadSize

/-- `vp8FrameState`. -/
structure Vp8FrameState where
  frameBuf : Slice UInt8
  lastSeq : UInt16
  haveLastSeq : Bool
  frameValid : Bool

namespace Vp8FrameState

def zero : Vp8FrameState := ⟨Slice.nil, 0, false, false⟩

def drop (s : Vp8FrameState) : Vp8FrameState :=
  { s with frameValid := false, frameBuf := s.frameBuf.truncate }

/-- The contiguity check at the head of `processRTPPacket`. -/
def follow (s : Vp8FrameState) (seq : UInt16) : Vp8FrameState :=
  let s := if s.haveLastSeq ∧ seq ≠ s.lastSeq + 1 then s.drop else s
  { s with lastSeq := seq, haveLastSeq := true }

/-- A start-of-partition packet begins a new frame. -/
def restart (s : Vp8FrameState) : Vp8FrameState :=
  { s with frameBuf := s.frameBuf.truncate, frameValid := true }

/-- The rest of `processRTPPacket` once the packet is parsed and the start bit has been seen. -/
def extend (s : Vp8FrameState) (data : Bytes) (marker : Bool) : Vp8FrameState × Option Bytes :=
  if s.frameValid = false then (s, none)
  else if maxAssembledFrameSize < s.frameBuf.len + data.length then (s.drop, none)
  else
    let frame := s.frameBuf.append data
    if marker = false then ({ s with frameBuf := frame }, none)
    else
      ({ s with frameBuf := frame.truncate, frameValid := false },
        if epochHdrLen ≤ frame.len then some frame.content else none)

def processRTPPacket (unmarshal : Bytes → Option (Bool × Bytes)) (s : Vp8FrameState)
    (pkt : RtpPacket) : Vp8FrameState × Option Bytes :=
  let s := s.follow pkt.sequenceNumber
  match unmarshal pkt.payload.content with
  | none => (s.drop, none)
  | some (start, data) => (if start then s.restart else s).extend data pkt.marker

end Vp8FrameState

/-! ## The sender -/

structure SentPacket where
  marker : Bool
  payload : Bytes

/-- The marker bit and payload of packet `i` of the stream. -/
def sentAt (frames : List (List SentPacket)) (i : ℕ) : Option (Bool × Bytes) :=
  frames.flatten[i]?.map fun p => (p.marker, p.payload)

def frameBytes (unmarshal : Bytes → Option (Bool × Bytes)) : List SentPacket → Option Bytes
  | [] => some []
  | p :: packets =>
    match unmarshal p.payload, frameBytes unmarshal packets with
    | some (_, data), some rest => some (data ++ rest)
    | _, _ => none

/-- The start bit is set on the first packet of the frame only, the marker on the last only. -/
structure WellMarked (unmarshal : Bytes → Option (Bool × Bytes)) (frame : List SentPacket) :
    Prop where
  start : ∀ (j : ℕ) p s data, frame[j]? = some p → unmarshal p.payload = some (s, data) →
    (s = true ↔ j = 0)
  marker : ∀ (j : ℕ) p, frame[j]? = some p → (p.marker = true ↔ j + 1 = frame.length)

/-- Frame `k` of the stream, byte for byte and within the sizes that are handed up. -/
def HandsUp (unmarshal : Bytes → Option (Bool × Bytes)) (frames : List (List SentPacket))
    (bytes : Bytes) (k : ℕ) : Prop :=
  ∃ frame, frames[k]? = some frame ∧ frameBytes unmarshal frame = some bytes ∧
    36 ≤ bytes.length ∧ bytes.length ≤ 240 * 1024

/-! ## The reader -/

/-- A packet read from the track, its place in the sender's stream, and the order in which this
push would traverse the map. -/
structure Arrival where
  index : ℕ
  packet : RtpPacket
  order : List UInt16 → List UInt16

/-- `readVP8Track`.  `handed` is what went to `handleIncomingFrame`; `position` is how far in the
stream the buffer stands, counting every sequence number it has moved over. -/
structure TrackReader where
  reorder : ReorderBuffer
  state : Vp8FrameState
  handed : List Bytes
  position : ℕ

/-- The callback that `readVP8Track` gives to `push`. -/
def handUp (unmarshal : Bytes → Option (Bool × Bytes)) (acc : Vp8FrameState × List Bytes)
    (pkt : RtpPacket) : Vp8FrameState × List Bytes :=
  let (state, frame) := acc.1.processRTPPacket unmarshal pkt
  (state, acc.2 ++ frame.toList)

namespace TrackReader

def init : TrackReader := ⟨ReorderBuffer.new, Vp8FrameState.zero, [], 0⟩

def step (unmarshal : Bytes → Option (Bool × Bytes)) (r : TrackReader) (a : Arrival) :
    TrackReader :=
  let before := r.reorder.start a.packet
  let (after, delivered) := r.reorder.push a.order a.packet
  let (state, handed) := delivered.foldl (handUp unmarshal) (r.state, r.handed)
  { reorder := after
    state := state
    handed := handed
    position := (if r.reorder.started then r.position else a.index) +
      (after.nextSeq - before.nextSeq).toNat }

/-- What the network may deliver: a packet of the stream within `2 ^ 15` of the buffer's
position. -/
structure Admissible (frames : List (List SentPacket)) (first : UInt16) (r : TrackReader)
    (a : Arrival) : Prop where
  sent : a.packet.Carries (sentAt frames) first a.index
  order : ∀ seqs, (a.order seqs).Perm seqs
  near : r.reorder.started = true →
    r.position ≤ a.index + 2 ^ 15 ∧ a.index ≤ r.position + 2 ^ 15

end TrackReader

/-! ## Assembly -/

section Assembly

variable {unmarshal : Bytes → Option (Bool × Bytes)} {frames : List (List SentPacket)}
  {first : UInt16}

lemma frameBytes_concat {packets : List SentPacket} {p : SentPacket} {s : Bool}
    {data : Bytes} (hp : unmarshal p.payload = some (s, data)) :
    ∀ {bytes : Bytes}, frameBytes unmarshal packets = some bytes →
      frameBytes unmarshal (packets ++ [p]) = some (bytes ++ data) := by
  induction packets with
  | nil =>
    intro bytes h
    obtain rfl : [] = bytes := by simpa [frameBytes] using h
    simp [frameBytes, hp]
  | cons q packets ih =>
    intro bytes h
    rw [frameBytes] at h
    split at h
    · next hq hrest =>
        rw [List.cons_append, frameBytes, hq, ih hrest]
        simpa using congrArg (Option.map (· ++ data)) h
    · simp at h

/-- The assembly state between two packets, the next of which is at `pos` unless some are lost. -/
structure Vp8FrameState.Inv (unmarshal : Bytes → Option (Bool × Bytes))
    (frames : List (List SentPacket)) (first : UInt16) (s : Vp8FrameState) (pos : ℕ) : Prop where
  last : s.haveLastSeq = true → s.lastSeq + 1 = seqOf first pos
  fresh : s.haveLastSeq = false → s.frameValid = false
  valid : s.frameValid = true → ∃ i k j frame, pos = i + 1 ∧ At frames i k j ∧
    frames[k]? = some frame ∧ j + 1 < frame.length ∧
    frameBytes unmarshal (frame.take (j + 1)) = some s.frameBuf.content

namespace Vp8FrameState

variable {s : Vp8FrameState} {pos m : ℕ} {pkt : RtpPacket}

lemma Inv.follow (h : s.Inv unmarshal frames first pos) (hm : m < 2 ^ 16) :
    (s.follow (seqOf first (pos + m))).lastSeq = seqOf first (pos + m) ∧
    (s.follow (seqOf first (pos + m))).haveLastSeq = true ∧
    ((s.follow (seqOf first (pos + m))).frameValid = true → m = 0 ∧ s.frameValid = true ∧
      (s.follow (seqOf first (pos + m))).frameBuf.content = s.frameBuf.content) := by
  refine ⟨rfl, rfl, ?_⟩
  unfold Vp8FrameState.follow
  by_cases hgap : s.haveLastSeq = true ∧ seqOf first (pos + m) ≠ s.lastSeq + 1
  · simp [hgap, Vp8FrameState.drop]
  · rw [if_neg hgap]
    intro hvalid
    have hhave : s.haveLastSeq = true := by
      by_contra hfresh
      simp [h.fresh (by simpa using hfresh)] at hvalid
    have hseq : seqOf first (pos + m) = seqOf first pos := by
      rw [← h.last hhave]
      by_contra hne
      exact hgap ⟨hhave, hne⟩
    have hdist := seqOf_add_sub first pos hm
    rw [hseq] at hdist
    exact ⟨by simpa using hdist.symm, hvalid, rfl⟩

lemma inv_of_invalid (hlast : s.lastSeq = seqOf first pos) (hhave : s.haveLastSeq = true)
    (hvalid : s.frameValid = false) : s.Inv unmarshal frames first (pos + 1) where
  last _ := by rw [hlast, seqOf_succ]
  fresh h := by simp [hhave] at h
  valid h := by simp [hvalid] at h

lemma extend_spec {i k j : ℕ} {frame : List SentPacket} {p : SentPacket} {start : Bool}
    {data : Bytes} (hat : At frames i k j) (hframe : frames[k]? = some frame)
    (hp : frame[j]? = some p) (hdata : unmarshal p.payload = some (start, data))
    (hmarker : p.marker = true ↔ j + 1 = frame.length) (hlast : s.lastSeq = seqOf first i)
    (hhave : s.haveLastSeq = true)
    (hsoFar : s.frameValid = true →
      frameBytes unmarshal (frame.take j) = some s.frameBuf.content) :
    (s.extend data p.marker).1.Inv unmarshal frames first (i + 1) ∧
    ∀ bytes, (s.extend data p.marker).2 = some bytes →
      HandsUp unmarshal frames bytes k ∧ j + 1 = frame.length := by
  unfold Vp8FrameState.extend
  split_ifs with hinvalid hlarge hmark
  · exact ⟨inv_of_invalid hlast hhave hinvalid, by simp⟩
  · exact ⟨inv_of_invalid hlast hhave rfl, by simp⟩
  all_goals
    have htake : frame.take (j + 1) = frame.take j ++ [p] := by
      rw [List.take_add_one, hp, Option.toList_some]
    have hbytes := frameBytes_concat hdata (hsoFar (by simpa using hinvalid))
    rw [← htake, ← Slice.content_append] at hbytes
  · -- no marker: the frame stays in hand and is not over
    obtain ⟨hj, -⟩ := List.getElem?_eq_some_iff.mp hp
    have hmore : j + 1 ≠ frame.length := fun hend => by simp [hmarker.mpr hend] at hmark
    refine ⟨⟨fun _ => by rw [seqOf_succ, ← hlast], fun h => by simp [hhave] at h, fun _ => ?_⟩,
      by simp⟩
    exact ⟨i, k, j, frame, rfl, hat, hframe, by omega, hbytes⟩
  · -- the marker: the frame is whole
    have hend := hmarker.mp (by simpa using hmark)
    refine ⟨inv_of_invalid hlast hhave rfl, fun bytes hout => ?_⟩
    rw [hend, List.take_length] at hbytes
    simp only [Option.ite_none_right_eq_some] at hout
    obtain ⟨hsize, hout⟩ := hout
    obtain rfl : (s.frameBuf.append data).content = bytes := Option.some.inj hout
    refine ⟨⟨frame, hframe, hbytes, ?_, ?_⟩, hend⟩
    · rw [Slice.length_content]
      exact hsize
    · simp only [maxAssembledFrameSize, defaultMaxPayloadSize] at hlarge
      simp only [Slice.content_append, List.length_append, Slice.length_content]
      omega

/-- **What `processRTPPacket` does** with the packet at `pos + m`, when `m` were skipped: it hands
up nothing, or the frame that ends with this packet. -/
lemma Inv.process (h : s.Inv unmarshal frames first pos)
    (hmarked : ∀ frame ∈ frames, WellMarked unmarshal frame) (hm : m < 2 ^ 16)
    (hpkt : pkt.Carries (sentAt frames) first (pos + m)) :
    (s.processRTPPacket unmarshal pkt).1.Inv unmarshal frames first (pos + m + 1) ∧
    ∀ bytes, (s.processRTPPacket unmarshal pkt).2 = some bytes →
      ∃ k, HandsUp unmarshal frames bytes k ∧ blockStart frames (k + 1) = pos + m + 1 := by
  obtain ⟨p, hp, hbody⟩ := Option.map_eq_some_iff.mp hpkt.body
  obtain ⟨hpmarker, hppayload⟩ := Prod.mk.inj hbody
  obtain ⟨k, j, hat⟩ := exists_at frames (pos + m) (List.getElem?_eq_some_iff.mp hp).1
  obtain ⟨frame, hframe, -⟩ := hat.inside
  have hj : frame[j]? = some p := by rw [← hat.getElem? hframe, hp]
  have hframeMarked := hmarked frame (List.mem_of_getElem? hframe)
  obtain ⟨hlast, hhave, hkeep⟩ := h.follow hm
  unfold processRTPPacket
  rw [hpkt.number, ← hppayload, ← hpmarker]
  cases hdata : unmarshal p.payload with
  | none => exact ⟨inv_of_invalid hlast hhave rfl, by simp⟩
  | some parsed =>
    obtain ⟨start, data⟩ := parsed
    have hstart := hframeMarked.start j p start data hj hdata
    simp only
    have hspec := extend_spec (s := if start then (s.follow (seqOf first (pos + m))).restart
      else s.follow (seqOf first (pos + m))) hat hframe hj hdata
      (hframeMarked.marker j p hj) (by split_ifs <;> exact hlast)
      (by split_ifs <;> exact hhave) ?_
    · refine ⟨hspec.1, fun bytes hout => ?_⟩
      obtain ⟨hup, hend⟩ := hspec.2 bytes hout
      refine ⟨k, hup, ?_⟩
      rw [blockStart_succ hframe, ← hend, hat.index]
      omega
    · split_ifs with hs
      · rw [hstart.mp hs]
        exact fun _ => rfl
      · -- the frame in hand ends just before this packet, so this packet belongs to it
        intro hvalid
        obtain ⟨rfl, hvalid', hcontent⟩ := hkeep hvalid
        obtain ⟨i, k', j', frame', hpos, hat', hframe', hmore, hbytes⟩ := h.valid hvalid'
        have hnext := hat'.succ hframe' hmore
        rw [← hpos] at hnext
        obtain ⟨rfl, rfl⟩ := hnext.unique hat
        obtain rfl : frame' = frame := Option.some.inj (hframe'.symm.trans hframe)
        rw [hcontent]
        exact hbytes

end Vp8FrameState

/-! ## The run of the reader -/

/-- What has been assembled from the packets before `pos`: the frames handed up are frames of the
stream that end before `pos`, in order. -/
structure Assembled (unmarshal : Bytes → Option (Bool × Bytes)) (frames : List (List SentPacket))
    (first : UInt16) (acc : Vp8FrameState × List Bytes) (pos : ℕ) : Prop where
  state : acc.1.Inv unmarshal frames first pos
  handed : ∃ ks : List ℕ, ks.Pairwise (· < ·) ∧
    List.Forall₂ (HandsUp unmarshal frames) acc.2 ks ∧ ∀ k ∈ ks, blockStart frames (k + 1) ≤ pos

namespace Assembled

variable {acc : Vp8FrameState × List Bytes} {pos m : ℕ}

lemma zero (pos : ℕ) : Assembled unmarshal frames first (Vp8FrameState.zero, []) pos :=
  ⟨⟨by simp [Vp8FrameState.zero], fun _ => rfl, by simp [Vp8FrameState.zero]⟩,
    [], List.Pairwise.nil, List.Forall₂.nil, by simp⟩

lemma deliver (h : Assembled unmarshal frames first acc pos)
    (hmarked : ∀ frame ∈ frames, WellMarked unmarshal frame) (hm : m < 2 ^ 16) {pkt : RtpPacket}
    (hpkt : pkt.Carries (sentAt frames) first (pos + m)) :
    Assembled unmarshal frames first (handUp unmarshal acc pkt) (pos + m + 1) := by
  obtain ⟨hstate, hup⟩ := h.state.process hmarked hm hpkt
  obtain ⟨ks, hsorted, hframes, hends⟩ := h.handed
  refine ⟨hstate, ?_⟩
  unfold handUp
  cases hout : (acc.1.processRTPPacket unmarshal pkt).2 with
  | none =>
    grind
  | some bytes =>
    obtain ⟨k, hbytes, hend⟩ := hup bytes hout
    -- a frame handed up before ended before this packet, so it is an earlier one
    have hearlier : ∀ k' ∈ ks, k' < k := by
      intro k' hk'
      by_contra hle
      have hmono : blockStart frames (k + 1) ≤ blockStart frames (k' + 1) :=
        blockStart_mono (by omega)
      have := hends k' hk'
      omega
    refine ⟨ks ++ [k], ?_, ?_, fun k' hk' => ?_⟩
    · grind
    · simp only [hout, Option.toList_some]
      exact List.rel_append hframes (List.Forall₂.cons hbytes List.Forall₂.nil)
    · grind

lemma deliverAll (hmarked : ∀ frame ∈ frames, WellMarked unmarshal frame) :
    ∀ (out : List RtpPacket) {acc : Vp8FrameState × List Bytes} {pos m : ℕ},
      Assembled unmarshal frames first acc pos → m < 2 ^ 16 → (out = [] → m = 0) →
      (∀ (k : ℕ) (p : RtpPacket), out[k]? = some p →
        p.Carries (sentAt frames) first (pos + m + k)) →
      Assembled unmarshal frames first (out.foldl (handUp unmarshal) acc)
        (pos + m + out.length)
  | [], acc, pos, m, h, _, hnil, _ => by
    rw [hnil rfl]
    exact h
  | pkt :: out, acc, pos, m, h, hm, _, hout => by
    have hfirst := h.deliver hmarked hm (hout 0 pkt rfl)
    have hrest := deliverAll hmarked out (m := 0) hfirst (by decide) (fun _ => rfl)
      fun k p hk => by
        rw [show pos + m + 1 + 0 + k = pos + m + (k + 1) by omega]
        exact hout (k + 1) p (by simpa using hk)
    rw [List.foldl_cons, List.length_cons,
      show pos + m + (out.length + 1) = pos + m + 1 + 0 + out.length by omega]
    exact hrest

end Assembled

/-- The reader has seen nothing, or its buffer stands at `position` and everything before that has
been assembled. -/
def TrackReader.Inv (unmarshal : Bytes → Option (Bool × Bytes)) (frames : List (List SentPacket))
    (first : UInt16) (r : TrackReader) : Prop :=
  r = TrackReader.init ∨
    (r.reorder.Inv (sentAt frames) first (2 ^ 15) r.position ∧
      Assembled unmarshal frames first (r.state, r.handed) r.position)

lemma TrackReader.Inv.start {r : TrackReader} {a : Arrival}
    (h : r.Inv unmarshal frames first) (ha : r.Admissible frames first a) :
    let pos := if r.reorder.started then r.position else a.index
    (r.reorder.start a.packet).Inv (sentAt frames) first (2 ^ 15) pos ∧
      Assembled unmarshal frames first (r.state, r.handed) pos ∧
      pos ≤ a.index + 2 ^ 15 ∧ a.index ≤ pos + 2 ^ 15 := by
  rcases h with rfl | ⟨hbuf, hasm⟩
  · exact ⟨ReorderBuffer.inv_start rfl rfl ha.sent, Assembled.zero _, by simp [init,
      ReorderBuffer.new], by simp [init, ReorderBuffer.new]⟩
  · have hstart : r.reorder.start a.packet = r.reorder := by
      simp [ReorderBuffer.start, hbuf.started]
    rw [hstart, if_pos hbuf.started]
    exact ⟨hbuf, hasm, ha.near hbuf.started⟩

lemma TrackReader.Inv.step {r : TrackReader} {a : Arrival}
    (hmarked : ∀ frame ∈ frames, WellMarked unmarshal frame)
    (h : r.Inv unmarshal frames first) (ha : r.Admissible frames first a) :
    (r.step unmarshal a).Inv unmarshal frames first := by
  obtain ⟨hbuf, hasm, hlow, hhigh⟩ := h.start ha
  obtain ⟨m, hmove, hskip, hafter, hout⟩ := hbuf.push_spec ha.sent hlow hhigh ha.order
  rw [ReorderBuffer.push_start] at hmove hskip hafter hout
  have hall := hasm.deliverAll hmarked _ (by omega) hskip hout
  refine Or.inr ?_
  have hposition : (r.step unmarshal a).position =
      (if r.reorder.started then r.position else a.index) + m +
        (r.reorder.push a.order a.packet).2.length := by
    have hstep : (r.step unmarshal a).position =
        (if r.reorder.started then r.position else a.index) +
          ((r.reorder.push a.order a.packet).1.nextSeq -
            (r.reorder.start a.packet).nextSeq).toNat := rfl
    rw [hstep, hafter.next, hbuf.next, Nat.add_assoc, seqOf_add_sub first _ (by omega)]
  rw [hposition]
  exact ⟨hafter, hall⟩

/-- **The receive path never corrupts.**  Whatever is lost, reordered or repeated, the frames
handed up are frames of the sender, byte for byte, between 36 bytes and 240 KiB, in the order they
were sent and none of them twice. -/
theorem rtpReader_exact (unmarshal : Bytes → Option (Bool × Bytes))
    (frames : List (List SentPacket)) (first : UInt16)
    (hmarked : ∀ frame ∈ frames, WellMarked unmarshal frame) (arrivals : List Arrival)
    (harrivals : Along (TrackReader.step unmarshal) (TrackReader.Admissible frames first)
      TrackReader.init arrivals) :
    ∃ ks : List ℕ, ks.Pairwise (· < ·) ∧
      List.Forall₂ (HandsUp unmarshal frames)
        (run (TrackReader.step unmarshal) TrackReader.init arrivals).handed ks := by
  have hinv := run_invariant (TrackReader.step unmarshal)
    (I := TrackReader.Inv unmarshal frames first)
    (fun r a hr ha => hr.step hmarked ha) (Or.inl rfl) harrivals
  rcases hinv with hinit | ⟨-, hasm⟩
  · rw [hinit]
    exact ⟨[], List.Pairwise.nil, List.Forall₂.nil⟩
  · obtain ⟨ks, hsorted, hframes, -⟩ := hasm.handed
    exact ⟨ks, hsorted, hframes⟩

end Assembly

/-- Two frames whose numbers wrap; the second frame overtakes the end of the first, and a packet
comes twice. -/
theorem rtpReader_exact_wrap :
    let unmarshal : Bytes → Option (Bool × Bytes) := fun raw =>
      match raw with
      | [] => none
      | flag :: data => some (flag = 1, data)
    let frames : List (List SentPacket) :=
      [[⟨false, 1 :: List.replicate 20 7⟩, ⟨true, 0 :: List.replicate 20 8⟩],
        [⟨true, 1 :: List.replicate 40 9⟩]]
    let slice (bytes : Bytes) : Slice UInt8 := Slice.nil.append bytes
    let arrive (i : ℕ) (p : SentPacket) : Arrival :=
      ⟨i, ⟨seqOf 65535 i, p.marker, slice p.payload⟩, id⟩
    let arrivals : List Arrival :=
      [arrive 0 ⟨false, 1 :: List.replicate 20 7⟩, arrive 2 ⟨true, 1 :: List.replicate 40 9⟩,
        arrive 2 ⟨true, 1 :: List.replicate 40 9⟩, arrive 1 ⟨true, 0 :: List.replicate 20 8⟩]
    let handed := (run (TrackReader.step unmarshal) TrackReader.init arrivals).handed
    handed = [List.replicate 20 7 ++ List.replicate 20 8, List.replicate 40 9] ∧
      ∃ ks : List ℕ, ks.Pairwise (· < ·) ∧ List.Forall₂ (HandsUp unmarshal frames) handed ks := by
  intro unmarshal frames slice arrive arrivals handed
  have hmarked : ∀ frame ∈ frames, WellMarked unmarshal frame := by
    intro frame hframe
    simp only [frames, List.mem_cons, List.not_mem_nil, or_false] at hframe
    rcases hframe with rfl | rfl
    · refine ⟨fun j p s data hp hs => ?_, fun j p hp => ?_⟩ <;>
        rcases j with _ | _ | j <;> simp [unmarshal] at * <;> grind
    · refine ⟨fun j p s data hp hs => ?_, fun j p hp => ?_⟩ <;>
        rcases j with _ | j <;> simp [unmarshal] at * <;> grind
  have harrivals : Along (TrackReader.step unmarshal) (TrackReader.Admissible frames 65535)
      TrackReader.init arrivals :=
    ⟨⟨⟨rfl, rfl⟩, fun _ => List.Perm.refl _, by decide +kernel⟩,
      ⟨⟨rfl, rfl⟩, fun _ => List.Perm.refl _, by decide +kernel⟩,
      ⟨⟨rfl, rfl⟩, fun _ => List.Perm.refl _, by decide +kernel⟩,
      ⟨⟨rfl, rfl⟩, fun _ => List.Perm.refl _, by decide +kernel⟩, trivial⟩
  exact ⟨by decide +kernel, rtpReader_exact unmarshal frames 65535 hmarked arrivals harrivals⟩

end OlcRtc
