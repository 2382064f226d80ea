import OlcRtc.Lib.Steps
import OlcRtc.Vp8.Wire

/-!
# The writer of the legacy VP8 transport

`legacyvp8channel` speaks the 32-byte header of older servers.  Its `writerLoop` takes a frame from
the queue as soon as there is one, and `batchSampleFrom` adds what else is waiting, up to
`batchSize` packets and a size limit.  The functions that build and split a batch are those of the
current transport.

* `Writer` is the queue and the loop.  As KCP fills the queue while a batch is put together, a turn
  of the loop of `batchSampleFrom` is a step of its own, `select`.
* `packetsIn` are the packets of the frames that have been taken from the queue, `packetsOut` those
  that a receiver gets out of the samples, the one under construction included.

The loop has taken a frame from the queue before it finds that the frame does not fit, and returns
without it.  **`batcher_lossless_iff`**: nothing is lost if and only if every frame fits.
-/

namespace OlcRtc.Legacy

/-! ## The wire format -/

def epochHdrLen : ℕ := 32

def epochCRC (token epoch : UInt32) : UInt32 :=
  crc32 (bePut 4 token.toNat ++ bePut 4 epoch.toNat)

def buildEpochHeader (token epoch : UInt32) : Bytes :=
  vp8Keepalive ++ (bePut 4 token.toNat ++ (bePut 4 epoch.toNat ++
    bePut 4 (epochCRC token epoch).toNat))

def headerOf (frame : Bytes) : Bytes := frame.take epochHdrLen

def packetOf (frame : Bytes) : Bytes := frame.drop epochHdrLen

def appendBatchPacket (dst packet : Bytes) : Bytes :=
  if 0xffff < packet.length then dst else dst ++ bePut 2 packet.length ++ packet

/-- What a receiver gets out of a sample (`deliverKCPPayload`). -/
def recoverPackets (sample : Bytes) : List Bytes :=
  if packetOf sample = [] then [] else (splitKCPPayload (packetOf sample)).getD []

/-! ## The loop -/

/-- The fields of the transport that the writer reads, and its two intervals in ticks. -/
structure WriterConfig where
  bindingToken : UInt32
  batchSize : ℕ
  perTickBytes : ℤ
  keepaliveEvery : ℕ
  forceKeepaliveEvery : ℕ

/-- The limit on the size of a sample that `batchSampleFrom` goes by. -/
def WriterConfig.maxBytes (cfg : WriterConfig) : ℕ :=
  if cfg.perTickBytes ≤ 0 ∨ (defaultMaxPayloadSize : ℤ) < cfg.perTickBytes then
    defaultMaxPayloadSize
  else cfg.perTickBytes.toNat

/-- `batchSampleFrom` in its loop. -/
structure Building where
  sample : Bytes
  packets : ℕ

/-- The queue and the writer.  `track` are the samples written and `dequeued` the frames received
from the queue. -/
structure Writer where
  outbound : List Bytes := []
  building : Option Building := none
  idleTicks : ℕ := 0
  ticksSinceKeepalive : ℕ := 0
  track : List Bytes := []
  dequeued : List Bytes := []

namespace Writer

def write (w : Writer) (sample : Bytes) : Writer := { w with track := w.track ++ [sample] }

/-- `batchSampleFrom` returns, and its sample is written. -/
def finish (w : Writer) (b : Building) : Writer := { w.write b.sample with building := none }

/-- `batchSampleFrom` up to its loop. -/
def begin (cfg : WriterConfig) (w : Writer) (first : Bytes) : Writer :=
  if first.length ≤ epochHdrLen ∨ cfg.batchSize ≤ 1 then w.write first
  else { w with
    building := some ⟨appendBatchPacket (headerOf first ++ kcpBatchMagic) (packetOf first), 1⟩ }

def receive (cfg : WriterConfig) (w : Writer) : Option Writer :=
  match w.outbound with
  | [] => none
  | frame :: outbound => some (begin cfg { w with
      outbound := outbound, dequeued := w.dequeued ++ [frame], idleTicks := 0 } frame)

/-- One turn of the loop of `batchSampleFrom`. -/
def select (cfg : WriterConfig) (w : Writer) (b : Building) : Writer :=
  if b.packets < cfg.batchSize then
    match w.outbound with
    | [] => w.finish b
    | frame :: outbound =>
      let w := { w with outbound := outbound, dequeued := w.dequeued ++ [frame] }
      if frame.length ≤ epochHdrLen then
        { w with building := some { b with packets := b.packets + 1 } }
      else if cfg.maxBytes < b.sample.length + 2 + (packetOf frame).length then w.finish b
      else { w with
        building := some ⟨appendBatchPacket b.sample (packetOf frame), b.packets + 1⟩ }
  else w.finish b

/-- The keepalive that is due however busy the writer is. -/
def forceKeepalive (cfg : WriterConfig) (w : Writer) (epoch : UInt32) : Writer :=
  if cfg.forceKeepaliveEvery ≤ w.ticksSinceKeepalive + 1 then
    { w.write (buildEpochHeader cfg.bindingToken epoch) with ticksSinceKeepalive := 0 }
  else { w with ticksSinceKeepalive := w.ticksSinceKeepalive + 1 }

def idle (cfg : WriterConfig) (w : Writer) (epoch : UInt32) : Writer :=
  if w.idleTicks + 1 < cfg.keepaliveEvery then { w with idleTicks := w.idleTicks + 1 }
  else { w.write (buildEpochHeader cfg.bindingToken epoch) with idleTicks := 0 }

end Writer

/-- KCP queues a frame, a restart drains the queue, the loop receives a frame or a tick, which may
find two values of the local epoch, and the loop of `batchSampleFrom` makes a turn. -/
inductive WriterEvent
  | enqueue (frame : Bytes)
  | drain
  | data
  | tick (forced idle : UInt32)
  | select

/-- One step of `writerLoop` and its queue.  While a batch is put together the loop has to wait. -/
def Writer.step (cfg : WriterConfig) (w : Writer) (e : WriterEvent) : Writer :=
  match e, w.building with
  | .enqueue frame, _ => { w with outbound := w.outbound ++ [frame] }
  | .drain, _ => { w with outbound := [] }
  | .data, none => (w.receive cfg).getD w
  | .tick forced idle, none =>
    let w := w.forceKeepalive cfg forced
    (w.receive cfg).getD (w.idle cfg idle)
  | .select, some b => w.select cfg b
  | _, _ => w

def Writer.packetsIn (w : Writer) : List Bytes := (w.dequeued.map packetOf).filter (· ≠ [])

/-- The packets of the samples, and of the one under construction. -/
def Writer.packetsOut (w : Writer) : List Bytes :=
  w.track.flatMap recoverPackets ++ w.building.elim [] (recoverPackets ·.sample)

/-- The frame that a turn of `batchSampleFrom` receives, if any, fits into the sample. -/
def Writer.fits (cfg : WriterConfig) (w : Writer) (e : WriterEvent) : Bool :=
  match e, w.building, w.outbound with
  | .select, some b, frame :: _ => cfg.batchSize ≤ b.packets || frame.length ≤ epochHdrLen ||
      b.sample.length + 2 + (packetOf frame).length ≤ cfg.maxBytes
  | _, _, _ => true

/-- A frame as `kcpConn.WriteTo` builds it: behind the header there is a packet of KCP with its
checksum, which cannot be mistaken for a batch, as it starts with the conversation id. -/
structure OutboundFrame (frame : Bytes) : Prop where
  size : (packetOf frame).length ≤ kcpMTU + wireCRCLen
  notBatch : (packetOf frame).take 4 ≠ kcpBatchMagic

/-! ## Samples -/

lemma packetOf_eq_nil {frame : Bytes} : packetOf frame = [] ↔ frame.length ≤ epochHdrLen :=
  List.drop_eq_nil_iff

lemma OutboundFrame.batchable {frame : Bytes} (h : OutboundFrame frame)
    (hlen : ¬frame.length ≤ epochHdrLen) : Batchable (packetOf frame) := by
  refine ⟨fun hnil => hlen (packetOf_eq_nil.1 hnil), h.size.trans ?_⟩
  decide

lemma OutboundFrame.recoverPackets {frame : Bytes} (h : OutboundFrame frame) :
    recoverPackets frame = [packetOf frame].filter (· ≠ []) := by
  rw [Legacy.recoverPackets]
  split_ifs with hnil
  · simp [hnil]
  · simp [hnil, splitKCPPayload_single h.notBatch]

lemma recoverPackets_buildEpochHeader (token epoch : UInt32) :
    recoverPackets (buildEpochHeader token epoch) = [] := by
  refine if_pos (packetOf_eq_nil.2 ?_)
  simp [buildEpochHeader, vp8Keepalive, epochHdrLen]

/-- The sample is a batch of the given packets. -/
def IsBatch (sample : Bytes) (packets : List Bytes) : Prop :=
  ∃ hdr : Bytes, hdr.length = epochHdrLen ∧ (∀ p ∈ packets, Batchable p) ∧
    sample = hdr ++ (kcpBatchMagic ++ packets.flatMap batchPacket)

lemma IsBatch.recoverPackets {sample : Bytes} {packets : List Bytes} (h : IsBatch sample packets) :
    recoverPackets sample = packets := by
  obtain ⟨hdr, hlen, hpackets, rfl⟩ := h
  rw [Legacy.recoverPackets, packetOf, List.drop_left' hlen, splitKCPPayload_batch hpackets]
  simp [kcpBatchMagic, ascii]

lemma IsBatch.append {sample packet : Bytes} {packets : List Bytes} (h : IsBatch sample packets)
    (hpacket : Batchable packet) :
    IsBatch (appendBatchPacket sample packet) (packets ++ [packet]) := by
  obtain ⟨hdr, hlen, hpackets, rfl⟩ := h
  refine ⟨hdr, hlen, fun p hp => ?_, ?_⟩
  · rcases List.mem_append.1 hp with hp | hp
    · exact hpackets p hp
    · exact List.mem_singleton.1 hp ▸ hpacket
  · simp [appendBatchPacket, hpacket.2.not_gt, batchPacket]

lemma isBatch_first {first : Bytes} (h : OutboundFrame first)
    (hlen : ¬first.length ≤ epochHdrLen) :
    IsBatch (appendBatchPacket (headerOf first ++ kcpBatchMagic) (packetOf first))
      [packetOf first] := by
  have hhdr : (headerOf first).length = epochHdrLen := by
    rw [headerOf, List.length_take]
    omega
  exact @IsBatch.append _ _ [] ⟨headerOf first, hhdr, by simp, by simp⟩ (h.batchable hlen)

/-! ## The accounts -/

namespace Writer

/-- What comes out is what went in, in order, but for `lost` packets. -/
structure Inv (w : Writer) (lost : ℕ) : Prop where
  queued : ∀ frame ∈ w.outbound, OutboundFrame frame
  batch : ∀ b, w.building = some b → ∃ packets, IsBatch b.sample packets
  sublist : w.packetsOut.Sublist w.packetsIn
  count : w.packetsOut.length + lost = w.packetsIn.length

variable {cfg : WriterConfig} {w w' : Writer} {lost : ℕ}

lemma Inv.move (h : w.Inv lost) (out received : List Bytes) {lost' : ℕ}
    (hqueued : ∀ frame ∈ w'.outbound, OutboundFrame frame)
    (hbatch : ∀ b, w'.building = some b → ∃ packets, IsBatch b.sample packets)
    (hout : w'.packetsOut = w.packetsOut ++ out) (hin : w'.packetsIn = w.packetsIn ++ received)
    (hsub : out.Sublist received) (hlost : out.length + lost' = received.length + lost) :
    w'.Inv lost' := by
  refine ⟨hqueued, hbatch, ?_, ?_⟩
  · rw [hout, hin]
    exact h.sublist.append hsub
  · have := h.count
    rw [hout, hin, List.length_append, List.length_append]
    omega

lemma Inv.same (h : w.Inv lost) (hqueued : ∀ frame ∈ w'.outbound, OutboundFrame frame)
    (hbuilding : w'.building = w.building) (hout : w'.packetsOut = w.packetsOut)
    (hin : w'.packetsIn = w.packetsIn) : w'.Inv lost := by
  refine h.move [] [] hqueued ?_ (by simpa using hout) (by simpa using hin) .slnil rfl
  rw [hbuilding]
  exact h.batch

lemma packetsOut_keepalive (w : Writer) (token epoch : UInt32) :
    (w.write (buildEpochHeader token epoch)).packetsOut = w.packetsOut := by
  simp [packetsOut, write, recoverPackets_buildEpochHeader]

lemma Inv.forceKeepalive (h : w.Inv lost) (epoch : UInt32) :
    (w.forceKeepalive cfg epoch).Inv lost := by
  rw [Writer.forceKeepalive]
  split_ifs
  · exact h.same h.queued rfl (w.packetsOut_keepalive _ _) rfl
  · exact h.same h.queued rfl rfl rfl

lemma Inv.idle (h : w.Inv lost) (epoch : UInt32) : (w.idle cfg epoch).Inv lost := by
  rw [Writer.idle]
  split_ifs
  · exact h.same h.queued rfl rfl rfl
  · exact h.same h.queued rfl (w.packetsOut_keepalive _ _) rfl

lemma Inv.receive (h : w.Inv lost) (hnone : w.building = none)
    (hreceive : w.receive cfg = some w') : w'.Inv lost := by
  rw [Writer.receive] at hreceive
  split at hreceive
  · cases hreceive
  · rename_i frame outbound hqueue
    obtain ⟨hframe, hrest⟩ := List.forall_mem_cons.1 (hqueue ▸ h.queued)
    cases hreceive
    rw [begin]
    refine h.move ([packetOf frame].filter (· ≠ [])) ([packetOf frame].filter (· ≠ [])) ?_ ?_ ?_ ?_
      (.refl _) rfl
    all_goals split_ifs with hbare
    · exact hrest
    · exact hrest
    · simp [write, hnone]
    · intro b hb
      cases hb
      exact ⟨_, isBatch_first hframe fun hlen => hbare (.inl hlen)⟩
    · simp [packetsOut, write, hnone, hframe.recoverPackets]
    · have hlen : ¬frame.length ≤ epochHdrLen := fun hlen => hbare (.inl hlen)
      simp [packetsOut, hnone, (isBatch_first hframe hlen).recoverPackets, packetOf_eq_nil, hlen]
    · simp [packetsIn, write]
    · simp [packetsIn]

lemma Inv.select (h : w.Inv lost) {b : Building} (hb : w.building = some b) :
    (w.select cfg b).Inv (lost + if w.fits cfg .select then 0 else 1) := by
  obtain ⟨packets, hbatch⟩ := h.batch b hb
  generalize hlost : (if w.fits cfg .select then 0 else 1) = k
  rw [Writer.select]
  split_ifs with hcount
  · split
    · rename_i hqueue
      refine h.move [] [] h.queued nofun ?_ (by simp [packetsIn, finish, write]) .slnil ?_
      · simp [packetsOut, finish, write, hb]
      · simp [← hlost, fits, hb, hqueue]
    · rename_i frame outbound hqueue
      obtain ⟨hframe, hrest⟩ := List.forall_mem_cons.1 (hqueue ▸ h.queued)
      have hpacket : packetOf frame = [] ↔ frame.length ≤ epochHdrLen := packetOf_eq_nil
      dsimp only
      split_ifs with hlen hsize
      · refine h.move [] [] hrest ?_ ?_ ?_ .slnil ?_
        · intro b' hb'
          cases hb'
          exact ⟨packets, hbatch⟩
        · simp [packetsOut, hb]
        · simp [packetsIn, hpacket.2 hlen]
        · simp [← hlost, fits, hb, hqueue, hlen]
      · refine h.move [] [packetOf frame] hrest nofun ?_ ?_ (List.nil_sublist _) ?_
        · simp [packetsOut, finish, write, hb]
        · simp [packetsIn, finish, write, hpacket, hlen]
        · simp [← hlost, fits, hb, hqueue, hlen, hcount.not_ge, hsize.not_ge, add_comm]
      · have hbatch' := hbatch.append (hframe.batchable hlen)
        refine h.move [packetOf frame] [packetOf frame] hrest ?_ ?_ ?_ (.refl _) ?_
        · intro b' hb'
          cases hb'
          exact ⟨_, hbatch'⟩
        · simp [packetsOut, hb, hbatch.recoverPackets, hbatch'.recoverPackets]
        · simp [packetsIn, hpacket, hlen]
        · simp [← hlost, fits, hb, hqueue, not_lt.1 hsize]
  · refine h.move [] [] h.queued nofun ?_ (by simp [packetsIn, finish, write]) .slnil ?_
    · simp [packetsOut, finish, write, hb]
    · cases hqueue : w.outbound <;> simp [← hlost, fits, hb, hqueue, not_lt.1 hcount]

/-- **One step.** -/
lemma Inv.step (h : w.Inv lost) {e : WriterEvent}
    (he : ∀ frame, e = .enqueue frame → OutboundFrame frame) :
    (w.step cfg e).Inv (lost + if w.fits cfg e then 0 else 1) := by
  cases e with
  | enqueue frame =>
    refine h.same (fun f hf => ?_) rfl rfl rfl
    rcases List.mem_append.1 hf with hf | hf
    · exact h.queued f hf
    · exact List.mem_singleton.1 hf ▸ he frame rfl
  | drain => exact h.same nofun rfl rfl rfl
  | data =>
    cases hb : w.building with
    | some b => simpa [Writer.step, hb, fits] using h
    | none =>
      cases hreceive : w.receive cfg with
      | none => simpa [Writer.step, hb, hreceive, fits] using h
      | some w' => simpa [Writer.step, hb, hreceive, fits] using h.receive hb hreceive
  | tick forced idle =>
    cases hb : w.building with
    | some b => simpa [Writer.step, hb, fits] using h
    | none =>
      have hforce := @Inv.forceKeepalive cfg w lost h forced
      have hb' : (w.forceKeepalive cfg forced).building = none := by
        rw [Writer.forceKeepalive]
        split_ifs <;> exact hb
      cases hreceive : (w.forceKeepalive cfg forced).receive cfg with
      | none => simpa [Writer.step, hb, hreceive, fits] using hforce.idle idle
      | some w' => simpa [Writer.step, hb, hreceive, fits] using hforce.receive hb' hreceive
  | select =>
    cases hb : w.building with
    | none => simpa [Writer.step, hb, fits] using h
    | some b => simpa [Writer.step, hb] using h.select hb

end Writer

lemma inv_run (cfg : WriterConfig) (events : List WriterEvent)
    (hframes : ∀ frame, .enqueue frame ∈ events → OutboundFrame frame) :
    ∃ lost, (run (Writer.step cfg) {} events).Inv lost ∧
      (lost = 0 ↔ Along (Writer.step cfg) (fun w e => w.fits cfg e) {} events) := by
  induction events using List.reverseRecOn with
  | nil => exact ⟨0, ⟨by simp, by simp, by simp [Writer.packetsOut], rfl⟩, by simp [Along]⟩
  | append_singleton events e ih =>
    obtain ⟨lost, hinv, hlost⟩ := ih fun frame hmem => hframes frame (by simp [hmem])
    rw [run_concat, along_concat, ← hlost]
    refine ⟨_, hinv.step fun frame he => hframes frame (by simp [he]), ?_⟩
    split_ifs with hfits
    · simp [hfits]
    · simp [hfits]

/-- **The batcher of the legacy writer** loses no packet if and only if every frame that it receives
while it puts a batch together fits into the sample. -/
theorem batcher_lossless_iff (cfg : WriterConfig) (events : List WriterEvent)
    (hframes : ∀ frame, .enqueue frame ∈ events → OutboundFrame frame) :
    (run (Writer.step cfg) {} events).packetsOut = (run (Writer.step cfg) {} events).packetsIn ↔
      Along (Writer.step cfg) (fun w e => w.fits cfg e) {} events := by
  obtain ⟨lost, hinv, hlost⟩ := inv_run cfg events hframes
  have hcount := hinv.count
  rw [← hlost]
  constructor
  · intro heq
    rw [heq] at hcount
    omega
  · intro hzero
    exact hinv.sublist.eq_of_length (by omega)

def exampleFrame (n : UInt8) : Bytes := buildEpochHeader 7 9 ++ (kcpConvID ++ [n])

def exampleEvents : List WriterEvent :=
  [.enqueue (exampleFrame 1), .enqueue (exampleFrame 2), .data, .select, .select]

lemma outboundFrame_of_mem_exampleEvents {frame : Bytes} (h : .enqueue frame ∈ exampleEvents) :
    OutboundFrame frame := by
  have hframe : frame = exampleFrame 1 ∨ frame = exampleFrame 2 := by
    simpa [exampleEvents] using h
  rcases hframe with rfl | rfl <;> exact ⟨by decide, by decide +kernel⟩

/-- Fifty bytes are enough for both packets. -/
theorem batcher_lossless_two :
    (run (Writer.step ⟨7, 2, 50, 6, 120⟩) {} exampleEvents).packetsOut =
      (run (Writer.step ⟨7, 2, 50, 6, 120⟩) {} exampleEvents).packetsIn :=
  (batcher_lossless_iff _ _ fun _ => outboundFrame_of_mem_exampleEvents).2 (by decide +kernel)

/-- Forty-nine are not, and the second packet is gone. -/
theorem oversized_packet_lost :
    (∀ frame, .enqueue frame ∈ exampleEvents → OutboundFrame frame) ∧
    (run (Writer.step ⟨7, 2, 49, 6, 120⟩) {} exampleEvents).packetsIn =
      [kcpConvID ++ [1], kcpConvID ++ [2]] ∧
    (run (Writer.step ⟨7, 2, 49, 6, 120⟩) {} exampleEvents).packetsOut = [kcpConvID ++ [1]] ∧
    (run (Writer.step ⟨7, 2, 49, 6, 120⟩) {} exampleEvents).building.isNone ∧
    (run (Writer.step ⟨7, 2, 49, 6, 120⟩) {} exampleEvents).outbound = [] :=
  ⟨fun _ => outboundFrame_of_mem_exampleEvents, by decide +kernel, by decide +kernel,
    by decide +kernel, by decide +kernel⟩

end OlcRtc.Legacy
