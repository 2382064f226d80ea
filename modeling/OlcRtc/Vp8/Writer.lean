import OlcRtc.Lib.Steps
import OlcRtc.Vp8.Wire

/-!
# The paced writer

`writer.go`: outbound frames, each a 36-byte header and one KCP packet, wait in a queue; on every
tick the writer takes what is there, up to `batchSize` packets and 60 KiB, and writes it to the
video track as one sample.  A frame that no longer fits is kept for the next tick.

`Lane` is what `drainData` and `peerWriterPump` have in common: the queue, the frame held back, the
sample under construction and the buffer it is built in, which is reused from tick to tick.  The
loop of `batchSampleFrom` receives from the queue once per turn while KCP goes on filling it, so a
turn of the loop is a step of its own (`Lane.select`).

What has been written is described by an abstract log of `Sample`s: either a single frame as it
is, or a batch of frames under the header of the first.  **`Lane.Inv`** says that the track is that
log in bytes and that log, sample under construction and frame held back make up, in order, what
was taken from the queue.
-/

namespace OlcRtc

/-! ## The lane -/

def headerOf (frame : Bytes) : Bytes := frame.take epochHdrLen

def packetOf (frame : Bytes) : Bytes := frame.drop epochHdrLen

/-- A call of `batchSampleFrom` in its loop: the sample so far and the loop counter. -/
structure Building where
  sample : Slice UInt8
  packets : ℕ

/-- One outbound queue with its writer.  `track` are the samples written, `taken` the frames
received from the queue, both oldest first. -/
structure Lane where
  queue : List Bytes
  pending : Option Bytes
  batchBuf : Slice UInt8
  building : Option Building
  track : List Bytes
  taken : List Bytes

def canBatch (batchSize : ℕ) (frame : Bytes) : Bool :=
  decide (epochHdrLen < frame.length) && decide (1 < batchSize)

/-- `prepareBatchBuffer`; `waiting` is the length of the queue. -/
def prepareBatchBuffer (batchSize : ℕ) (dst : Slice UInt8) (waiting : ℕ) (first : Bytes) :
    Slice UInt8 :=
  let packetSize := first.length - epochHdrLen
  let packetCount := min batchSize (waiting + 1)
  let want := min (epochHdrLen + kcpBatchMagic.length + packetCount * (2 + packetSize))
    defaultMaxPayloadSize
  if dst.cap < want then Slice.make want else dst.truncate

namespace Lane

def init : Lane := ⟨[], none, Slice.nil, none, [], []⟩

def enqueue (l : Lane) (frame : Bytes) : Lane := { l with queue := l.queue ++ [frame] }

/-- A sample that carries no packet. -/
def writeKeepalive (l : Lane) (hdr : Bytes) : Lane := { l with track := l.track ++ [hdr] }

/-- The frame a tick starts with: the one held back, or the next in the queue. -/
def next (l : Lane) : Option (Bytes × Lane) :=
  match l.pending, l.queue with
  | some frame, _ => some (frame, { l with pending := none })
  | none, frame :: queue => some (frame, { l with queue := queue, taken := l.taken ++ [frame] })
  | none, [] => none

/-- `batchSampleFrom` up to its loop, or the frame written as it is when it cannot be batched. -/
def begin (batchSize : ℕ) (l : Lane) (frame : Bytes) : Lane :=
  if canBatch batchSize frame then
    let sample := prepareBatchBuffer batchSize l.batchBuf.truncate l.queue.length frame
    let sample := (sample.append (headerOf frame)).append kcpBatchMagic
    { l with building := some ⟨appendBatchPacket sample (packetOf frame), 1⟩ }
  else { l with track := l.track ++ [frame] }

/-- `batchSampleFrom` returns, and its sample is written. -/
def finish (l : Lane) (sample : Slice UInt8) (pending : Option Bytes) : Lane :=
  { l with
    building := none
    pending := pending
    batchBuf := sample.truncate
    track := l.track ++ [sample.content] }

/-- One turn of the loop of `batchSampleFrom`. -/
def select (batchSize : ℕ) (l : Lane) : Lane :=
  match l.building with
  | none => l
  | some b =>
    if b.packets < batchSize then
      match l.queue with
      | [] => l.finish b.sample none
      | frame :: queue =>
        let l := { l with queue := queue, taken := l.taken ++ [frame] }
        if frame.length ≤ epochHdrLen then
          { l with building := some { b with packets := b.packets + 1 } }
        else if defaultMaxPayloadSize < b.sample.len + 2 + (packetOf frame).length then
          l.finish b.sample (some frame)
        else
          let sample := appendBatchPacket b.sample (packetOf frame)
          { l with building := some ⟨sample, b.packets + 1⟩ }
    else l.finish b.sample none

end Lane

/-! ## The two writers -/

/-- The parameters of the writer loops: ticks between keepalives are derived from the frame
interval. -/
structure WriterConfig where
  bindingToken : UInt32
  batchSize : ℕ
  keepaliveEvery : ℕ
  keyframeEvery : ℕ

/-- What happens around a writer: KCP queues a frame, the ticker fires while the local epoch has
some value, and the batch loop makes a turn. -/
inductive WriterEvent
  | enqueue (frame : Bytes)
  | tick (localEpoch : UInt32)
  | select

/-- The data half of `writerState`. -/
structure DataWriter where
  lane : Lane
  idleTicks : ℕ

namespace DataWriter

/-- At the start of `writerLoop`. -/
def init : DataWriter := ⟨Lane.init, 0⟩

/-- `drainData`: one batched data frame, or a keepalive when idle. -/
def drainData (cfg : WriterConfig) (localEpoch : UInt32) (w : DataWriter) : DataWriter :=
  match w.lane.next with
  | some (frame, lane) => ⟨lane.begin cfg.batchSize frame, 0⟩
  | none =>
    if cfg.keepaliveEvery ≤ w.idleTicks + 1 then
      ⟨w.lane.writeKeepalive (buildEpochHeader cfg.bindingToken localEpoch), 0⟩
    else ⟨w.lane, w.idleTicks + 1⟩

/-- One step of `writerLoop` and its queue.  While a batch is under construction the ticker has to
wait. -/
def step (cfg : WriterConfig) (w : DataWriter) : WriterEvent → DataWriter
  | .enqueue frame => { w with lane := w.lane.enqueue frame }
  | .tick localEpoch => if w.lane.building.isSome then w else w.drainData cfg localEpoch
  | .select => { w with lane := w.lane.select cfg.batchSize }

end DataWriter

/-- The locals of `peerWriterPump`. -/
structure PeerPump where
  lane : Lane
  ticksSinceKeyframe : ℕ

namespace PeerPump

/-- At the start of `peerWriterPump`. -/
def init : PeerPump := ⟨Lane.init, 0⟩

/-- The body of a tick: a keyframe when one is due, then one batched data frame. -/
def pump (cfg : WriterConfig) (localEpoch : UInt32) (w : PeerPump) : PeerPump :=
  let w : PeerPump := if cfg.keyframeEvery ≤ w.ticksSinceKeyframe + 1 then
      ⟨w.lane.writeKeepalive (buildEpochHeader cfg.bindingToken localEpoch), 0⟩
    else ⟨w.lane, w.ticksSinceKeyframe + 1⟩
  match w.lane.next with
  | some (frame, lane) => { w with lane := lane.begin cfg.batchSize frame }
  | none => w

/-- One step of `peerWriterPump` and its queue. -/
def step (cfg : WriterConfig) (w : PeerPump) : WriterEvent → PeerPump
  | .enqueue frame => { w with lane := w.lane.enqueue frame }
  | .tick localEpoch => if w.lane.building.isSome then w else w.pump cfg localEpoch
  | .select => { w with lane := w.lane.select cfg.batchSize }

end PeerPump

/-! ## Samples -/

/-- What a sample on the track stands for. -/
inductive Sample
  | bare (frame : Bytes)
  | batch (first : Bytes) (rest : List Bytes)

namespace Sample

def bytes : Sample → Bytes
  | bare frame => frame
  | batch first rest =>
    headerOf first ++ (kcpBatchMagic ++ ((first :: rest).map packetOf).flatMap batchPacket)

def frames : Sample → List Bytes
  | bare frame => if epochHdrLen < frame.length then [frame] else []
  | batch first rest => first :: rest

end Sample

/-- A queued frame as `kcpConn.WriteTo` builds it: a header, and a packet with its checksum that
is not empty, not longer than KCP's, and cannot be mistaken for a batch. -/
structure OutboundFrame (frame : Bytes) : Prop where
  header : epochHdrLen < frame.length
  size : (packetOf frame).length ≤ kcpMTU + wireCRCLen
  notBatch : (packetOf frame).take 4 ≠ kcpBatchMagic

/-- Every KCP packet starts with the conversation id, which is not the batch magic. -/
lemma outboundFrame_of_conv {hdr packet : Bytes} (hhdr : hdr.length = epochHdrLen)
    (hconv : packet.take 4 = kcpConvID) (hsize : packet.length ≤ kcpMTU + wireCRCLen) :
    OutboundFrame (hdr ++ packet) := by
  have hpacket : packetOf (hdr ++ packet) = packet := List.drop_left' hhdr
  refine ⟨?_, by rwa [hpacket], by rw [hpacket, hconv]; decide⟩
  have hne : packet ≠ [] := by
    rintro rfl
    simp [kcpConvID] at hconv
  have := List.length_pos_iff.mpr hne
  simp only [List.length_append, hhdr]
  omega

lemma OutboundFrame.batchable {frame : Bytes} (h : OutboundFrame frame) :
    Batchable (packetOf frame) := by
  have hsize := h.size
  have hlen := h.header
  refine ⟨?_, ?_⟩
  · rw [packetOf, ne_eq, List.drop_eq_nil_iff]
    omega
  · simp only [kcpMTU, wireCRCLen] at hsize
    omega

lemma OutboundFrame.length_le {frame : Bytes} (h : OutboundFrame frame) :
    frame.length ≤ epochHdrLen + (kcpMTU + wireCRCLen) := by
  have hsize := h.size
  rw [packetOf, List.length_drop] at hsize
  omega

/-- What the receiver makes of the payload of a sample (`deliverKCPPayload`): nothing of a
keepalive, otherwise the packets it splits into. -/
def recoverPackets (sample : Bytes) : List Bytes :=
  if packetOf sample = [] then [] else (splitKCPPayload (packetOf sample)).getD []

lemma length_headerOf {frame : Bytes} (h : epochHdrLen < frame.length) :
    (headerOf frame).length = epochHdrLen := by
  rw [headerOf, List.length_take]
  omega

/-- **A sample gives its packets back.** -/
lemma recoverPackets_bytes {s : Sample} (h : ∀ frame ∈ s.frames, OutboundFrame frame) :
    recoverPackets s.bytes = s.frames.map packetOf := by
  cases s with
  | bare frame =>
    simp only [Sample.bytes, Sample.frames] at h ⊢
    split_ifs at h ⊢ with hlen
    · have hframe := h frame (by simp)
      rw [recoverPackets, if_neg hframe.batchable.1, splitKCPPayload_single hframe.notBatch]
      rfl
    · rw [recoverPackets, if_pos]
      · rfl
      · exact List.drop_eq_nil_of_le (not_lt.mp hlen)
  | batch first rest =>
    simp only [Sample.bytes, Sample.frames] at h ⊢
    set payload := kcpBatchMagic ++ ((first :: rest).map packetOf).flatMap batchPacket
    have hpayload : packetOf (headerOf first ++ payload) = payload :=
      List.drop_left' (length_headerOf (h first (by simp)).header)
    have hall : ∀ p ∈ (first :: rest).map packetOf, Batchable p := by
      intro p hp
      obtain ⟨frame, hframe, rfl⟩ := List.mem_map.mp hp
      exact (h frame hframe).batchable
    rw [recoverPackets, hpayload, if_neg (by simp [payload, kcpBatchMagic, ascii]),
      splitKCPPayload_batch hall]
    rfl

/-! ## The invariant -/

namespace Lane

/-- The track is `log` in bytes; `current` are the frames of the sample under construction; and
both together with the frame held back are what was taken from the queue, in order. -/
structure Inv (batchSize : ℕ) (log : List Sample) (current : List Bytes) (l : Lane) : Prop where
  good : ∀ frame ∈ l.taken ++ l.queue, OutboundFrame frame
  track : l.track = log.map Sample.bytes
  bounded : ∀ s ∈ log, s.bytes.length ≤ defaultMaxPayloadSize ∧ s.frames.length ≤ batchSize
  parts : log.flatMap Sample.frames ++ current ++ l.pending.toList = l.taken
  idle : l.building = none → current = []
  building : ∀ b, l.building = some b → l.pending = none ∧ ∃ first rest,
    current = first :: rest ∧ b.sample.content = (Sample.batch first rest).bytes ∧
    b.sample.len ≤ defaultMaxPayloadSize ∧ current.length ≤ b.packets ∧ b.packets ≤ batchSize

variable {batchSize : ℕ} {log : List Sample} {current : List Bytes} {l : Lane}

lemma inv_init (batchSize : ℕ) : init.Inv batchSize [] [] where
  good := by simp [init]
  track := rfl
  bounded := by simp
  parts := rfl
  idle := fun _ => rfl
  building := by simp [init]

lemma Inv.enqueue (h : l.Inv batchSize log current) {frame : Bytes} (hframe : OutboundFrame frame) :
    (l.enqueue frame).Inv batchSize log current where
  good f hf := by
    grind [Lane.enqueue, List.append_assoc, List.mem_append.mp, List.mem_singleton.mp,
      OlcRtc.Lane.Inv.good]
  track := h.track
  bounded := h.bounded
  parts := h.parts
  idle := h.idle
  building := h.building

lemma Inv.write (h : l.Inv batchSize log current) {s : Sample} {current' : List Bytes}
    {pending : Option Bytes} {building : Option Building} {batchBuf : Slice UInt8}
    (hsize : s.bytes.length ≤ defaultMaxPayloadSize ∧ s.frames.length ≤ batchSize)
    (hparts : s.frames ++ current' ++ pending.toList = current ++ l.pending.toList)
    (hidle : building = none → current' = [])
    (hbuilding : ∀ b, building = some b → pending = none ∧ ∃ first rest,
      current' = first :: rest ∧ b.sample.content = (Sample.batch first rest).bytes ∧
      b.sample.len ≤ defaultMaxPayloadSize ∧ current'.length ≤ b.packets ∧
      b.packets ≤ batchSize) :
    Inv batchSize (log ++ [s]) current'
      { l with
        pending := pending
        building := building
        batchBuf := batchBuf
        track := l.track ++ [s.bytes] } where
  good := h.good
  track := by simp [h.track]
  bounded s' hs' := by
    rcases List.mem_append.mp hs' with hs' | hs'
    · exact h.bounded s' hs'
    · rwa [List.mem_singleton.mp hs']
  parts := by
    rw [List.append_assoc, ← h.parts, List.flatMap_append, List.append_assoc, List.append_assoc,
      ← hparts]
    simp
  idle := hidle
  building := hbuilding

lemma Inv.writeKeepalive (h : l.Inv batchSize log current) {hdr : Bytes}
    (hhdr : hdr.length = epochHdrLen) :
    (l.writeKeepalive hdr).Inv batchSize (log ++ [.bare hdr]) current := by
  have hframes : (Sample.bare hdr).frames = [] := by simp [Sample.frames, hhdr]
  refine h.write (s := .bare hdr) ⟨?_, by rw [hframes]; exact Nat.zero_le _⟩ ?_ h.idle h.building
  · simp only [Sample.bytes, hhdr]
    decide
  · rw [hframes, List.nil_append]

lemma content_prepareBatchBuffer (batchSize : ℕ) (dst : Slice UInt8) (waiting : ℕ)
    (first : Bytes) : (prepareBatchBuffer batchSize dst waiting first).content = [] := by
  simp only [prepareBatchBuffer]
  split_ifs <;> simp

lemma Inv.next (h : l.Inv batchSize log []) {frame : Bytes} {l' : Lane}
    (hnext : l.next = some (frame, l')) :
    OutboundFrame frame ∧ l'.pending = none ∧ l'.building = l.building ∧
      (∀ f ∈ l'.taken ++ l'.queue, OutboundFrame f) ∧ l'.track = log.map Sample.bytes ∧
      log.flatMap Sample.frames ++ [frame] = l'.taken := by
  have hparts := h.parts
  cases hpending : l.pending with
  | some f =>
    simp only [Lane.next, hpending, Option.some.injEq, Prod.mk.injEq] at hnext
    obtain ⟨rfl, rfl⟩ := hnext
    rw [hpending, List.append_nil, Option.toList_some] at hparts
    refine ⟨h.good f ?_, rfl, rfl, h.good, h.track, hparts⟩
    rw [← hparts]
    simp
  | none =>
    rw [hpending, List.append_nil, Option.toList_none, List.append_nil] at hparts
    cases hqueue : l.queue with
    | nil => simp [Lane.next, hpending, hqueue] at hnext
    | cons f queue =>
      simp only [Lane.next, hpending, hqueue, Option.some.injEq, Prod.mk.injEq] at hnext
      obtain ⟨rfl, rfl⟩ := hnext
      have hgood := h.good
      rw [hqueue] at hgood
      refine ⟨hgood f (by simp), rfl, rfl, ?_, h.track, by rw [hparts]⟩
      simpa using hgood

/-- **A tick starts.**  The frame opens a batch, or is written as it is. -/
lemma Inv.start (h : l.Inv batchSize log []) (hbatch : 1 ≤ batchSize)
    (hidle : l.building = none) {frame : Bytes} {l' : Lane} (hnext : l.next = some (frame, l')) :
    (l'.begin batchSize frame).Inv batchSize log [frame] ∨
      (l'.begin batchSize frame).Inv batchSize (log ++ [.bare frame]) [] := by
  obtain ⟨hframe, hpending, hbuilding, hgood, htrack, htaken⟩ := h.next hnext
  rw [hidle] at hbuilding
  unfold Lane.begin
  split_ifs with hcan
  · refine Or.inl ⟨hgood, htrack, h.bounded, by simpa [hpending] using htaken, by simp, ?_⟩
    intro b hb
    have hcontent : b.sample.content = (Sample.batch frame []).bytes := by
      rw [← Option.some.inj hb, content_appendBatchPacket hframe.batchable.2]
      simp [content_prepareBatchBuffer, Sample.bytes]
    refine ⟨hpending, frame, [], rfl, hcontent, ?_, ?_, ?_⟩
    · have hsize := hframe.size
      rw [← Slice.length_content, hcontent]
      simp only [Sample.bytes, List.length_append, length_headerOf hframe.header, List.map_cons,
        List.map_nil, List.flatMap_cons, List.flatMap_nil, List.length_nil, batchPacket,
        length_bePut, length_kcpBatchMagic, epochHdrLen, defaultMaxPayloadSize, kcpMTU,
        wireCRCLen] at hsize ⊢
      omega
    · rw [← Option.some.inj hb]
      simp
    · rw [← Option.some.inj hb]
      exact hbatch
  · have hframes : (Sample.bare frame).frames = [frame] := by
      simp [Sample.frames, hframe.header]
    refine Or.inr ⟨hgood, by simp [htrack, Sample.bytes], ?_, ?_, fun _ => rfl, ?_⟩
    · intro s hs
      rcases List.mem_append.mp hs with hs | hs
      · exact h.bounded s hs
      · rw [List.mem_singleton.mp hs, hframes]
        have hlen := hframe.length_le
        simp only [Sample.bytes, List.length_singleton, epochHdrLen, kcpMTU, wireCRCLen,
          defaultMaxPayloadSize] at hlen ⊢
        omega
    · grind
    · intro b hb
      rw [hbuilding] at hb
      simp at hb

/-- **A turn of the batch loop** adds the next frame to the sample, or writes the sample, with the
frame that no longer fits held back. -/
lemma Inv.select (h : l.Inv batchSize log current) :
    (∃ frame, l.queue = frame :: (l.select batchSize).queue ∧ current ≠ [] ∧
        (l.select batchSize).Inv batchSize log (current ++ [frame])) ∨
      (∃ first rest, current = first :: rest ∧
        (l.select batchSize).Inv batchSize (log ++ [.batch first rest]) []) ∨
      (l.building = none ∧ l.select batchSize = l) := by
  unfold Lane.select
  cases hb : l.building with
  | none => exact Or.inr (Or.inr ⟨rfl, rfl⟩)
  | some b =>
    obtain ⟨hpending, first, rest, hcurrent, hcontent, hlen, hcount, hpackets⟩ := h.building b hb
    have hsize : (Sample.batch first rest).bytes.length ≤ defaultMaxPayloadSize ∧
        (Sample.batch first rest).frames.length ≤ batchSize := by
      rw [← hcontent, Slice.length_content]
      exact ⟨hlen, by rw [hcurrent] at hcount; exact hcount.trans hpackets⟩
    have hparts := h.parts
    rw [hpending, Option.toList_none, List.append_nil] at hparts
    -- the sample is complete and nothing more was taken
    have hdone : (l.finish b.sample none).Inv batchSize (log ++ [.batch first rest]) [] := by
      have hwrite := @Inv.write batchSize log current l h (.batch first rest) [] none none
        b.sample.truncate hsize (by simp [Sample.frames, hcurrent, hpending]) (fun _ => rfl)
        (by simp)
      rw [← hcontent] at hwrite
      exact hwrite
    by_cases hmore : b.packets < batchSize
    swap
    · exact Or.inr (Or.inl ⟨first, rest, hcurrent, by simpa [hmore] using hdone⟩)
    cases hqueue : l.queue with
    | nil => exact Or.inr (Or.inl ⟨first, rest, hcurrent, by simpa [hmore] using hdone⟩)
    | cons frame queue =>
      have hframe : OutboundFrame frame := h.good frame (by simp [hqueue])
      have hgood : ∀ f ∈ (l.taken ++ [frame]) ++ queue, OutboundFrame f := by
        intro f hf
        exact h.good f (by simpa [hqueue] using hf)
      have hlong : ¬ frame.length ≤ epochHdrLen := not_le.mpr hframe.header
      by_cases hfull : defaultMaxPayloadSize < b.sample.len + 2 + (packetOf frame).length
      · refine Or.inr (Or.inl ⟨first, rest, hcurrent, ?_⟩)
        simp only [hmore, hlong, hfull, if_true, if_false]
        refine ⟨hgood, hdone.track, hdone.bounded, ?_, fun _ => rfl, by simp [finish]⟩
        have hdoneParts := hdone.parts
        simp only [finish, Option.toList_none, List.append_nil, Option.toList_some]
          at hdoneParts ⊢
        rw [hdoneParts]
      · refine Or.inl ⟨frame, ?_⟩
        simp only [hmore, hlong, hfull, if_true, if_false]
        refine ⟨trivial, by simp [hcurrent], hgood, h.track, h.bounded, ?_, by simp, ?_⟩
        · grind
        · intro b' hb'
          rw [Option.some.injEq] at hb'
          subst hb'
          have hcontent' : (appendBatchPacket b.sample (packetOf frame)).content
              = (Sample.batch first (rest ++ [frame])).bytes := by
            rw [content_appendBatchPacket hframe.batchable.2, hcontent]
            simp [Sample.bytes, List.flatMap_append, List.append_assoc]
          refine ⟨hpending, first, rest ++ [frame], by simp [hcurrent], hcontent', ?_, ?_,
            hmore⟩
          · rw [← Slice.length_content, content_appendBatchPacket hframe.batchable.2]
            simp only [List.length_append, Slice.length_content, batchPacket, length_bePut]
            omega
          · grind

end Lane

/-! ## Whole runs -/

def enqueued (events : List WriterEvent) : List Bytes :=
  events.filterMap fun
    | .enqueue frame => some frame
    | _ => none

namespace Lane

def Ok (batchSize : ℕ) (l : Lane) : Prop := ∃ log current, l.Inv batchSize log current

lemma Ok.enqueue {batchSize : ℕ} {l : Lane} (h : l.Ok batchSize) {frame : Bytes}
    (hframe : OutboundFrame frame) : (l.enqueue frame).Ok batchSize := by
  obtain ⟨log, current, hinv⟩ := h
  exact ⟨log, current, hinv.enqueue hframe⟩

lemma Ok.select {batchSize : ℕ} {l : Lane} (h : l.Ok batchSize) :
    (l.select batchSize).Ok batchSize := by
  obtain ⟨log, current, hinv⟩ := h
  rcases hinv.select with ⟨frame, -, -, hnew⟩ | ⟨first, rest, -, hnew⟩ | ⟨-, hsame⟩
  · exact ⟨_, _, hnew⟩
  · exact ⟨_, _, hnew⟩
  · rw [hsame]
    exact ⟨log, current, hinv⟩

lemma Ok.start {batchSize : ℕ} {l : Lane} (h : l.Ok batchSize) (hbatch : 1 ≤ batchSize)
    (hidle : l.building = none) {frame : Bytes} {l' : Lane} (hnext : l.next = some (frame, l')) :
    (l'.begin batchSize frame).Ok batchSize := by
  obtain ⟨log, current, hinv⟩ := h
  rw [hinv.idle hidle] at hinv
  rcases hinv.start hbatch hidle hnext with hnew | hnew
  · exact ⟨_, _, hnew⟩
  · exact ⟨_, _, hnew⟩

lemma Ok.writeKeepalive {batchSize : ℕ} {l : Lane} (h : l.Ok batchSize) (token src : UInt32) :
    (l.writeKeepalive (buildEpochHeader token src)).Ok batchSize := by
  obtain ⟨log, current, hinv⟩ := h
  exact ⟨_, _, hinv.writeKeepalive (length_buildEpochHeaderTo token src 0)⟩

/-- What the frames of the sample under construction would be recovered to. -/
def inProgress (l : Lane) : List Bytes :=
  match l.building with
  | some b => recoverPackets b.sample.content
  | none => []

/-- What the lane owes its reader: nothing lost, doubled or altered, and no sample too large. -/
structure Lossless (batchSize : ℕ) (l : Lane) : Prop where
  packets : l.track.flatMap recoverPackets ++ l.inProgress ++ l.pending.toList.map packetOf
    = l.taken.map packetOf
  size : ∀ sample ∈ l.track, sample.length ≤ defaultMaxPayloadSize
  count : ∀ sample ∈ l.track, (recoverPackets sample).length ≤ batchSize

/-- **The invariant makes the lane lossless.** -/
lemma Ok.lossless {batchSize : ℕ} {l : Lane} (h : l.Ok batchSize) : l.Lossless batchSize := by
  obtain ⟨log, current, hinv⟩ := h
  have hgood : ∀ frame ∈ log.flatMap Sample.frames ++ current, OutboundFrame frame := by
    intro frame hframe
    refine hinv.good frame (List.mem_append_left _ ?_)
    rw [← hinv.parts]
    exact List.mem_append_left _ hframe
  have hlog : ∀ s ∈ log, recoverPackets s.bytes = s.frames.map packetOf := by
    grind [recoverPackets_bytes, List.mem_append_left, List.mem_flatMap.mpr]
  have hcurrent : l.inProgress = current.map packetOf := by
    unfold inProgress
    cases hb : l.building with
    | none => simp [hinv.idle hb]
    | some b =>
      obtain ⟨-, first, rest, hcur, hcontent, -⟩ := hinv.building b hb
      simp only [hcontent, hcur]
      refine recoverPackets_bytes fun frame hframe => hgood frame (List.mem_append_right _ ?_)
      rw [hcur]
      exact hframe
  refine ⟨?_, fun sample hsample => ?_, fun sample hsample => ?_⟩
  · rw [← hinv.parts, hinv.track, hcurrent, List.flatMap_map, List.map_append, List.map_append,
      List.map_flatMap, List.flatMap_congr hlog]
  · rw [hinv.track] at hsample
    obtain ⟨s, hs, rfl⟩ := List.mem_map.mp hsample
    exact (hinv.bounded s hs).1
  · rw [hinv.track] at hsample
    obtain ⟨s, hs, rfl⟩ := List.mem_map.mp hsample
    rw [hlog s hs, List.length_map]
    exact (hinv.bounded s hs).2

/-- What has passed the queue and what waits in it. -/
def flow (l : Lane) : List Bytes := l.taken ++ l.queue

lemma flow_begin (batchSize : ℕ) (l : Lane) (frame : Bytes) :
    (l.begin batchSize frame).flow = l.flow := by
  unfold Lane.begin
  split_ifs <;> rfl

lemma flow_next {l l' : Lane} {frame : Bytes} (hnext : l.next = some (frame, l')) :
    l'.flow = l.flow := by
  unfold Lane.next at hnext
  split at hnext
  · simp only [Option.some.injEq, Prod.mk.injEq] at hnext
    rw [← hnext.2]
    rfl
  · next hqueue =>
      simp only [Option.some.injEq, Prod.mk.injEq] at hnext
      rw [← hnext.2]
      simp [flow, hqueue]
  · simp at hnext

lemma flow_select (batchSize : ℕ) (l : Lane) : (l.select batchSize).flow = l.flow := by
  unfold Lane.select
  split
  · rfl
  · split_ifs
    · split
      · rfl
      · next hqueue =>
          simp only
          split_ifs <;> simp [flow, finish, hqueue]
    · rfl

end Lane

/-- What a property of the lane needs in order to outlive a tick: to be kept by a keepalive and by
the start of a sample.  Both writers do nothing else on a tick. -/
structure Lane.KeptByTick (cfg : WriterConfig) (localEpoch : UInt32) (P : Lane → Prop) : Prop where
  keepalive : ∀ l, l.building = none → P l →
    P (l.writeKeepalive (buildEpochHeader cfg.bindingToken localEpoch))
  start : ∀ l l' frame, l.building = none → P l → l.next = some (frame, l') →
    P (l'.begin cfg.batchSize frame)

lemma DataWriter.tick_kept {cfg : WriterConfig} {localEpoch : UInt32} {P : Lane → Prop}
    (hkept : Lane.KeptByTick cfg localEpoch P) {w : DataWriter} (h : P w.lane) :
    P (w.step cfg (.tick localEpoch)).lane := by
  rw [step]
  by_cases hbusy : w.lane.building.isSome
  · rwa [if_pos hbusy]
  have hidle : w.lane.building = none := by simpa using hbusy
  rw [if_neg hbusy, drainData]
  cases hnext : w.lane.next with
  | some taken => exact hkept.start _ _ _ hidle h hnext
  | none =>
    simp only
    split_ifs
    · exact hkept.keepalive _ hidle h
    · exact h

lemma PeerPump.tick_kept {cfg : WriterConfig} {localEpoch : UInt32} {P : Lane → Prop}
    (hkept : Lane.KeptByTick cfg localEpoch P) {w : PeerPump} (h : P w.lane) :
    P (w.step cfg (.tick localEpoch)).lane := by
  rw [step]
  by_cases hbusy : w.lane.building.isSome
  · rwa [if_pos hbusy]
  have hidle : w.lane.building = none := by simpa using hbusy
  rw [if_neg hbusy]
  simp only [pump]
  split_ifs
  · have hkey := hkept.keepalive _ hidle h
    split
    · next hnext => exact hkept.start (w.lane.writeKeepalive _) _ _ hidle hkey hnext
    · exact hkey
  · split
    · next hnext => exact hkept.start _ _ _ hidle h hnext
    · exact h

lemma Lane.keptByTick_ok {cfg : WriterConfig} (hbatch : 1 ≤ cfg.batchSize) (localEpoch : UInt32) :
    KeptByTick cfg localEpoch (Ok cfg.batchSize) where
  keepalive _ _ h := h.writeKeepalive _ _
  start _ _ _ hidle h hnext := h.start hbatch hidle hnext

lemma Lane.keptByTick_flow (cfg : WriterConfig) (localEpoch : UInt32) (frames : List Bytes) :
    KeptByTick cfg localEpoch fun l => l.flow = frames where
  keepalive _ _ h := h
  start _ _ _ _ h hnext := by rw [flow_begin, flow_next hnext, h]

lemma DataWriter.step_ok {cfg : WriterConfig} (hbatch : 1 ≤ cfg.batchSize) {w : DataWriter}
    (h : w.lane.Ok cfg.batchSize) {e : WriterEvent}
    (hframe : ∀ frame, e = .enqueue frame → OutboundFrame frame) :
    (w.step cfg e).lane.Ok cfg.batchSize := by
  cases e with
  | enqueue frame => exact h.enqueue (hframe frame rfl)
  | select => exact h.select
  | tick localEpoch => exact tick_kept (Lane.keptByTick_ok hbatch localEpoch) h

lemma PeerPump.step_ok {cfg : WriterConfig} (hbatch : 1 ≤ cfg.batchSize) {w : PeerPump}
    (h : w.lane.Ok cfg.batchSize) {e : WriterEvent}
    (hframe : ∀ frame, e = .enqueue frame → OutboundFrame frame) :
    (w.step cfg e).lane.Ok cfg.batchSize := by
  cases e with
  | enqueue frame => exact h.enqueue (hframe frame rfl)
  | select => exact h.select
  | tick localEpoch => exact tick_kept (Lane.keptByTick_ok hbatch localEpoch) h

lemma DataWriter.step_flow (cfg : WriterConfig) (w : DataWriter) (e : WriterEvent) :
    (w.step cfg e).lane.flow = w.lane.flow ++ enqueued [e] := by
  cases e with
  | enqueue frame => simp [step, Lane.enqueue, Lane.flow, enqueued]
  | select => simp [step, Lane.flow_select, enqueued]
  | tick localEpoch =>
    rw [tick_kept (Lane.keptByTick_flow cfg localEpoch w.lane.flow) rfl]
    exact (List.append_nil _).symm

lemma PeerPump.step_flow (cfg : WriterConfig) (w : PeerPump) (e : WriterEvent) :
    (w.step cfg e).lane.flow = w.lane.flow ++ enqueued [e] := by
  cases e with
  | enqueue frame => simp [step, Lane.enqueue, Lane.flow, enqueued]
  | select => simp [step, Lane.flow_select, enqueued]
  | tick localEpoch =>
    rw [tick_kept (Lane.keptByTick_flow cfg localEpoch w.lane.flow) rfl]
    exact (List.append_nil _).symm

lemma run_lane {σ : Type*} {step : σ → WriterEvent → σ} (lane : σ → Lane) {batchSize : ℕ}
    (hok : ∀ w e, (lane w).Ok batchSize → (∀ frame, e = .enqueue frame → OutboundFrame frame) →
      (lane (step w e)).Ok batchSize)
    (hflow : ∀ w e, (lane (step w e)).flow = (lane w).flow ++ enqueued [e])
    (events : List WriterEvent) :
    ∀ w, (lane w).Ok batchSize →
      (∀ frame, WriterEvent.enqueue frame ∈ events → OutboundFrame frame) →
      (lane (run step w events)).Ok batchSize ∧
        (lane (run step w events)).flow = (lane w).flow ++ enqueued events := by
  induction events with
  | nil => exact fun w hw _ => ⟨hw, by simp [enqueued]⟩
  | cons e events ih =>
    grind [run_cons, List.append_assoc, enqueued, List.singleton_append]

/-- **Batching is lossless.**  For every batch size, every sequence of outbound frames and every
interleaving of enqueues with the steps of the writer, for `drainData` and for `peerWriterPump`:
what the receiver splits out of the samples, then the sample under construction, then the frame
held back are exactly the packets taken from the queue, which takes them in the order KCP queued
them; every sample is at most 60 KiB and holds at most `batchSize` packets.  And splitting does
not panic on any payload. -/
theorem batching_lossless (cfg : WriterConfig) (hbatch : 1 ≤ cfg.batchSize)
    (events : List WriterEvent)
    (hframes : ∀ frame, WriterEvent.enqueue frame ∈ events → OutboundFrame frame) :
    ((run (DataWriter.step cfg) DataWriter.init events).lane.Lossless cfg.batchSize ∧
      (run (DataWriter.step cfg) DataWriter.init events).lane.flow = enqueued events) ∧
    ((run (PeerPump.step cfg) PeerPump.init events).lane.Lossless cfg.batchSize ∧
      (run (PeerPump.step cfg) PeerPump.init events).lane.flow = enqueued events) ∧
    ∀ payload : Bytes, (splitKCPPayload payload).isSome := by
  have hinit : Lane.init.Ok cfg.batchSize := ⟨_, _, Lane.inv_init cfg.batchSize⟩
  obtain ⟨hdata, hdataFlow⟩ := run_lane DataWriter.lane
    (fun w e hw hf => DataWriter.step_ok hbatch hw hf) (DataWriter.step_flow cfg) events
    DataWriter.init hinit hframes
  obtain ⟨hpump, hpumpFlow⟩ := run_lane PeerPump.lane
    (fun w e hw hf => PeerPump.step_ok hbatch hw hf) (PeerPump.step_flow cfg) events
    PeerPump.init hinit hframes
  exact ⟨⟨hdata.lossless, hdataFlow⟩, ⟨hpump.lossless, hpumpFlow⟩, splitKCPPayload_isSome⟩

/-- Three frames, one queued while the batch is being built, and room for two. -/
theorem batching_lossless_three :
    let cfg : WriterConfig := ⟨7, 2, 3, 60⟩
    let frame (n : UInt8) : Bytes := buildEpochHeaderTo 7 1 2 ++ (kcpConvID ++ [n])
    let events : List WriterEvent :=
      [.enqueue (frame 1), .tick 1, .enqueue (frame 2), .select, .enqueue (frame 3), .select,
        .tick 1, .select]
    let lane := (run (DataWriter.step cfg) DataWriter.init events).lane
    lane.track.map recoverPackets = [[kcpConvID ++ [1], kcpConvID ++ [2]], [kcpConvID ++ [3]]] ∧
      lane.Lossless 2 := by
  intro cfg frame events lane
  have hframes : ∀ f, WriterEvent.enqueue f ∈ events → OutboundFrame f := by
    have hgood : ∀ n, OutboundFrame (frame n) := fun n =>
      outboundFrame_of_conv (length_buildEpochHeaderTo 7 1 2) (by simp [kcpConvID])
        (by simp [kcpConvID, kcpMTU, wireCRCLen])
    intro f hf
    simp only [events, List.mem_cons, WriterEvent.enqueue.injEq, reduceCtorEq, false_or,
      List.not_mem_nil, or_false] at hf
    rcases hf with rfl | rfl | rfl <;> exact hgood _
  exact ⟨by decide +kernel, (batching_lossless cfg (by decide) events hframes).1.1⟩

end OlcRtc
