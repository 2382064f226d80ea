import OlcRtc.Lib.Lists
import OlcRtc.Vp8.KcpPlane

/-!
# Under whose header a packet arrives

A peer attributes every packet of a sample to the header of the sample, and a batch has one header:
that of the frame it was begun with.  The frames behind it come from the same queue, but not
necessarily from the same runtime, nor from a time before the header was re-pointed: a restart
leaves the frame held back and the waiting `WriteTo` calls alone, and `setHeader` leaves the queue
alone.  So a packet can arrive under a header it was not stamped with.

**`attribution_iff`** says exactly when: in a run of the plane every packet is attributed to the
header it was stamped with if and only if no turn of the batch loop ever added a frame to a batch
with another header.  `attribution_retiredEpoch` is a run in which a packet of a retired epoch
arrives under the new one.
-/

namespace OlcRtc

/-- What a peer makes of a sample: its packets, each with the header of the sample. -/
def attributed (sample : Bytes) : List (Option (UInt32 × UInt32 × UInt32) × Bytes) :=
  (recoverPackets sample).map fun packet => (parseEpochHeader sample, packet)

def stampOf (frame : Bytes) : Option (UInt32 × UInt32 × UInt32) × Bytes :=
  (parseEpochHeader frame, packetOf frame)

namespace Lane

/-- The samples handed to the track, and the one under construction. -/
def samples (l : Lane) : List Bytes :=
  l.track ++ l.building.toList.map fun b => b.sample.content

/-- Every packet in the samples is attributed to the header it was stamped with: samples and frame
held back, read by a peer, are the frames taken from the queue with their own headers. -/
def Attributed (l : Lane) : Prop :=
  l.samples.flatMap attributed ++ l.pending.toList.map stampOf = l.taken.map stampOf

/-- If this turn of the batch loop adds a frame to the batch, then the batch has its header: there
is a packet in the frame, and room for it. -/
def SameHeader (batchSize : ℕ) (l : Lane) : Prop :=
  ∀ b frame, l.building = some b → l.queue.head? = some frame → b.packets < batchSize →
    epochHdrLen < frame.length →
    b.sample.len + 2 + (packetOf frame).length ≤ defaultMaxPayloadSize →
    headerOf frame = headerOf b.sample.content

end Lane

/-! ## Samples of one header -/

def OneHeader (frames : List Bytes) : Prop := ∀ f ∈ frames, ∀ g ∈ frames, headerOf f = headerOf g

lemma oneHeader_cons_concat {first frame : Bytes} {rest : List Bytes} :
    OneHeader (first :: rest ++ [frame]) ↔
      OneHeader (first :: rest) ∧ headerOf frame = headerOf first := by
  refine ⟨fun h => ⟨fun f hf g hg => ?_, ?_⟩, fun h f hf g hg => ?_⟩
  · exact h f (List.mem_append_left _ hf) g (List.mem_append_left _ hg)
  · exact h frame (by simp) first (by simp)
  · have hfirst : ∀ f ∈ first :: rest ++ [frame], headerOf f = headerOf first := by
      intro f hf
      rcases List.mem_append.mp hf with hf | hf
      · exact h.1 f hf first List.mem_cons_self
      · rw [List.mem_singleton.mp hf, h.2]
    rw [hfirst f hf, hfirst g hg]

lemma attributed_bytes {s : Sample} (h : ∀ frame ∈ s.frames, OutboundFrame frame) :
    attributed s.bytes = s.frames.map fun frame => (parseEpochHeader s.bytes, packetOf frame) := by
  rw [attributed, recoverPackets_bytes h, List.map_map]
  rfl

/-- **A sample attributes its packets rightly if and only if its frames share one header.** -/
lemma attributed_bytes_iff {s : Sample} (h : ∀ frame ∈ s.frames, Stamped frame) :
    attributed s.bytes = s.frames.map stampOf ↔ OneHeader s.frames := by
  rw [attributed_bytes fun frame hframe => (h frame hframe).outbound, List.map_inj_left]
  simp only [stampOf, Prod.mk.injEq, and_true]
  cases s with
  | bare frame =>
    simp only [Sample.bytes, Sample.frames, OneHeader]
    split_ifs <;> simp
  | batch first rest =>
    have hfirst := h first List.mem_cons_self
    refine ⟨fun hread f hf g hg => ?_, fun hone f hf => ?_⟩
    · have hhead : ∀ f ∈ first :: rest, headerOf first = headerOf f := fun f hf =>
        (hfirst.parse_eq_iff (h f hf) _).mp (hread f hf)
      rw [← hhead f hf, ← hhead g hg]
    · exact (hfirst.parse_eq_iff (h f hf) _).mpr (hone first List.mem_cons_self f hf)

def batchOf : List Bytes → List Sample
  | [] => []
  | first :: rest => [.batch first rest]

lemma flatMap_frames_batchOf (current : List Bytes) :
    (batchOf current).flatMap Sample.frames = current := by
  cases current <;> simp [batchOf, Sample.frames]

namespace Lane

variable {batchSize : ℕ} {log : List Sample} {current : List Bytes} {l : Lane}

lemma Inv.samples_eq (h : l.Inv batchSize log current) :
    l.samples = (log ++ batchOf current).map Sample.bytes := by
  rw [samples, h.track, List.map_append]
  cases hb : l.building with
  | none => simp [h.idle hb, batchOf]
  | some b =>
    obtain ⟨-, first, rest, hcurrent, hcontent, -⟩ := h.building b hb
    simp [hcurrent, batchOf, hcontent]

/-- **The lane attributes its packets rightly if and only if every sample has one header.** -/
lemma Inv.attributed_iff (h : l.Inv batchSize log current)
    (hstamped : ∀ frame ∈ l.flow, Stamped frame) :
    l.Attributed ↔ ∀ s ∈ log ++ batchOf current, OneHeader s.frames := by
  have hparts : l.taken = (log ++ batchOf current).flatMap Sample.frames ++ l.pending.toList := by
    rw [List.flatMap_append, flatMap_frames_batchOf, h.parts]
  have hall : ∀ s ∈ log ++ batchOf current, ∀ frame ∈ s.frames, Stamped frame := by
    intro s hs frame hframe
    refine hstamped frame (List.mem_append_left _ ?_)
    rw [hparts]
    exact List.mem_append_left _ (List.mem_flatMap.mpr ⟨s, hs, hframe⟩)
  rw [Attributed, h.samples_eq, hparts]
  generalize log ++ batchOf current = all at hall ⊢
  rw [List.map_append, List.append_left_inj, List.flatMap_map, List.map_flatMap, flatMap_eq_iff]
  · exact forall₂_congr fun s hs => attributed_bytes_iff (hall s hs)
  · intro s hs
    rw [attributed_bytes fun frame hframe => (hall s hs frame hframe).outbound]
    simp

/-! ## The lane in a run -/

/-- The invariant, with a condition `P` that says whether every sample so far has one header. -/
def Tracks (batchSize : ℕ) (l : Lane) (P : Prop) : Prop :=
  (∀ frame ∈ l.flow, Stamped frame) ∧ ∃ log current, l.Inv batchSize log current ∧
    (P ↔ ∀ s ∈ log ++ batchOf current, OneHeader s.frames)

variable {P : Prop}

lemma Tracks.attributed_iff (h : l.Tracks batchSize P) : l.Attributed ↔ P := by
  obtain ⟨hstamped, log, current, hinv, hP⟩ := h
  rw [hP]
  exact hinv.attributed_iff hstamped

lemma tracks_init (batchSize : ℕ) : init.Tracks batchSize True :=
  ⟨by simp [flow, init], [], [], inv_init batchSize, by simp [batchOf]⟩

lemma Tracks.enqueue (h : l.Tracks batchSize P) {frame : Bytes} (hframe : Stamped frame) :
    (l.enqueue frame).Tracks batchSize P := by
  obtain ⟨hstamped, log, current, hinv, hP⟩ := h
  refine ⟨fun f hf => ?_, log, current, hinv.enqueue hframe.outbound, hP⟩
  have hflow : (l.enqueue frame).flow = l.flow ++ [frame] := by
    simp [flow, Lane.enqueue]
  rw [hflow] at hf
  rcases List.mem_append.mp hf with hf | hf
  · exact hstamped f hf
  · rwa [List.mem_singleton.mp hf]

lemma Tracks.dequeue (h : l.Tracks batchSize P) {frame : Bytes} {queue : List Bytes}
    (hqueue : l.queue = frame :: queue) : { l with queue := queue }.Tracks batchSize P := by
  obtain ⟨hstamped, log, current, hinv, hP⟩ := h
  have hsub : ∀ f ∈ l.taken ++ queue, f ∈ l.taken ++ l.queue := by
    grind
  refine ⟨fun f hf => hstamped f (hsub f hf), log, current, ?_, hP⟩
  exact ⟨fun f hf => hinv.good f (hsub f hf), hinv.track, hinv.bounded, hinv.parts, hinv.idle,
    hinv.building⟩

lemma Tracks.writeKeepalive (h : l.Tracks batchSize P) (token src : UInt32) :
    (l.writeKeepalive (buildEpochHeader token src)).Tracks batchSize P := by
  obtain ⟨hstamped, log, current, hinv, hP⟩ := h
  have hlen := length_buildEpochHeaderTo token src 0
  refine ⟨hstamped, _, current, hinv.writeKeepalive hlen, ?_⟩
  have hnone : OneHeader (Sample.bare (buildEpochHeader token src)).frames := by
    simp [Sample.frames, buildEpochHeader, OneHeader]
  rw [hP]
  simp only [List.forall_mem_append, List.forall_mem_singleton]
  tauto

lemma Tracks.start (h : l.Tracks batchSize P) (hbatch : 1 ≤ batchSize)
    (hidle : l.building = none) {frame : Bytes} {l' : Lane} (hnext : l.next = some (frame, l')) :
    (l'.begin batchSize frame).Tracks batchSize P := by
  obtain ⟨hstamped, log, current, hinv, hP⟩ := h
  obtain rfl : current = [] := hinv.idle hidle
  have hflow : (l'.begin batchSize frame).flow = l.flow := by
    rw [flow_begin, flow_next hnext]
  have hsingle : OneHeader [frame] := by simp [OneHeader]
  refine ⟨by rwa [hflow], ?_⟩
  rcases hinv.start hbatch hidle hnext with hnew | hnew
  · refine ⟨log, [frame], hnew, ?_⟩
    rw [hP]
    simp only [batchOf, List.append_nil, List.forall_mem_append, List.forall_mem_singleton,
      Sample.frames]
    tauto
  · refine ⟨log ++ [.bare frame], [], hnew, ?_⟩
    have hbare : OneHeader (Sample.bare frame).frames := by
      simp only [Sample.frames]
      split_ifs
      · exact hsingle
      · simp [OneHeader]
    rw [hP]
    simp only [batchOf, List.append_nil, List.forall_mem_append, List.forall_mem_singleton]
    tauto

lemma isSome_building_select {b : Building} {frame : Bytes} (hb : l.building = some b)
    (hqueue : l.queue.head? = some frame) (hlen : epochHdrLen < frame.length) :
    (l.select batchSize).building.isSome ↔ b.packets < batchSize ∧
      b.sample.len + 2 + (packetOf frame).length ≤ defaultMaxPayloadSize := by
  obtain ⟨queue, hqueue⟩ := List.head?_eq_some_iff.mp hqueue
  simp only [select, hb, hqueue, Nat.not_le.mpr hlen, if_false]
  split_ifs <;> simp [finish] <;> omega

/-- **A turn of the batch loop** keeps to one header exactly if it meets `SameHeader`. -/
lemma Tracks.select (h : l.Tracks batchSize P) :
    (l.select batchSize).Tracks batchSize (P ∧ l.SameHeader batchSize) := by
  obtain ⟨hstamped, log, current, hinv, hP⟩ := h
  refine ⟨by rwa [flow_select], ?_⟩
  rcases hinv.select with ⟨frame, hqueue, hne, hnew⟩ | ⟨first, rest, hcurrent, hnew⟩ | ⟨hb, hsame⟩
  · -- the frame joins the batch, so the condition is about this frame
    refine ⟨log, current ++ [frame], hnew, ?_⟩
    have hbuilding : l.building ≠ none := fun hb => hne (hinv.idle hb)
    obtain ⟨b, hb⟩ := Option.ne_none_iff_exists'.mp hbuilding
    have hsome : (l.select batchSize).building.isSome := by
      rw [Option.isSome_iff_ne_none]
      exact fun hnone => by simpa using hnew.idle hnone
    obtain ⟨-, first, rest, rfl, hcontent, -⟩ := hinv.building b hb
    have hfirst : OutboundFrame first :=
      hinv.good first (List.mem_append_left _ (by rw [← hinv.parts]; simp))
    have hheader : headerOf b.sample.content = headerOf first := by
      rw [hcontent, Sample.bytes, headerOf, List.take_left' (length_headerOf hfirst.header)]
    have hhead : l.queue.head? = some frame := by rw [hqueue]; rfl
    have hlen : epochHdrLen < frame.length :=
      (hinv.good frame (List.mem_append_right _ (by rw [hqueue]; simp))).header
    obtain ⟨hcount, hsize⟩ := (isSome_building_select hb hhead hlen).mp hsome
    have hcondition : l.SameHeader batchSize ↔ headerOf frame = headerOf first := by
      rw [SameHeader, ← hheader]
      refine ⟨fun h => h b frame hb hhead hcount hlen hsize,
        fun h b' frame' hb' hframe' _ _ _ => ?_⟩
      rw [hqueue, List.head?_cons, Option.some.injEq] at hframe'
      obtain rfl : b = b' := Option.some.inj (hb.symm.trans hb')
      rw [← hframe', h]
    have hone := @oneHeader_cons_concat first frame rest
    rw [hP, hcondition]
    simp only [batchOf, List.cons_append, List.forall_mem_append, List.forall_mem_singleton,
      Sample.frames] at hone ⊢
    rw [hone]
    tauto
  · -- the batch is written as it is
    have hnone : (l.select batchSize).building = none := by
      by_contra hsome
      obtain ⟨b, hb⟩ := Option.ne_none_iff_exists'.mp hsome
      obtain ⟨-, f, r, hcons, -⟩ := hnew.building b hb
      simp at hcons
    have hcondition : l.SameHeader batchSize := fun b frame hb hhead hcount hlen hsize => by
      simpa [hnone] using (isSome_building_select hb hhead hlen).mpr ⟨hcount, hsize⟩
    refine ⟨log ++ [.batch first rest], [], hnew, ?_⟩
    rw [hP, hcurrent]
    simp [batchOf, hcondition]
  · have hcondition : l.SameHeader batchSize := fun b frame hb' => by simp [hb] at hb'
    rw [hsame]
    exact ⟨log, current, hinv, by simp [hP, hcondition]⟩

end Lane

/-! ## The plane in a run -/

/-- Everything that is or will be queued is stamped, and `P` says whether every sample so far has
one header. -/
structure KcpPlane.Inv (cfg : WriterConfig) (P : Prop) (s : KcpPlane) : Prop where
  waiting : ∀ w ∈ s.waiting, Stamped w.frame
  lane : s.writer.lane.Tracks cfg.batchSize P

/-- The condition: no frame joins a batch with another header. -/
def KcpPlane.KeepsHeader (cfg : WriterConfig) (s : KcpPlane) (e : PlaneEvent) : Prop :=
  e = .select → s.writer.lane.SameHeader cfg.batchSize

namespace KcpPlane

variable {cfg : WriterConfig} {P : Prop} {s : KcpPlane}

lemma inv_init (cfg : WriterConfig) : KcpPlane.init.Inv cfg True :=
  ⟨by simp [init], Lane.tracks_init cfg.batchSize⟩

lemma Inv.of_eq (h : s.Inv cfg P) {s' : KcpPlane} (hwriter : s'.writer = s.writer)
    (hwaiting : s'.waiting = s.waiting) : s'.Inv cfg P :=
  ⟨by rw [hwaiting]; exact h.waiting, by rw [hwriter]; exact h.lane⟩

lemma Inv.restartStep (h : s.Inv cfg P) (ok : Bool) : (s.restartStep ok).Inv cfg P := by
  unfold KcpPlane.restartStep
  cases s.restarting with
  | none => exact h
  | some r =>
    cases hphase : r.phase with
    | draining =>
      simp only [hphase, drainOne]
      split
      · exact h.of_eq rfl rfl
      · next hqueue => exact ⟨h.waiting, h.lane.dequeue hqueue⟩
    | swapping =>
      simp only [hphase]
      exact h.of_eq rfl rfl
    | closing old =>
      simp only [hphase]
      cases old <;> exact h.of_eq rfl rfl
    | starting =>
      simp only [hphase]
      split_ifs <;> exact h.of_eq rfl rfl

lemma Inv.send (h : s.Inv cfg P) (queueSize call : ℕ) : (s.send queueSize call).Inv cfg P := by
  unfold KcpPlane.send
  split
  · exact h
  · next w hw =>
      split_ifs
      · exact ⟨fun w' hw' => h.waiting w' (List.mem_of_mem_eraseIdx hw'),
          h.lane.enqueue (h.waiting w (List.mem_of_getElem? hw))⟩
      · exact h

lemma Inv.tick (h : s.Inv cfg P) (hbatch : 1 ≤ cfg.batchSize) (localEpoch : UInt32) :
    (s.writer.step cfg (.tick localEpoch)).lane.Tracks cfg.batchSize P := by
  have hkept : Lane.KeptByTick cfg localEpoch fun l => l.Tracks cfg.batchSize P :=
    ⟨fun _ _ hl => hl.writeKeepalive cfg.bindingToken localEpoch,
      fun _ _ _ hidle hl hnext => hl.start hbatch hidle hnext⟩
  exact DataWriter.tick_kept hkept h.lane

/-- **One step of the plane.** -/
lemma Inv.step (h : s.Inv cfg P) (hbatch : 1 ≤ cfg.batchSize) (queueSize : ℕ) {e : PlaneEvent}
    (hpacket : ∀ conn packet, e = .writeTo conn packet → KcpPacket packet) :
    (s.step cfg queueSize e).Inv cfg (P ∧ s.KeepsHeader cfg e) := by
  by_cases hselect : e = .select
  · subst hselect
    have hkeeps : s.KeepsHeader cfg .select ↔ s.writer.lane.SameHeader cfg.batchSize := by
      simp [KeepsHeader]
    refine ⟨h.waiting, ?_⟩
    rw [hkeeps]
    exact h.lane.select
  · have hkeeps : (P ∧ s.KeepsHeader cfg e) ↔ P := by simp [KeepsHeader, hselect]
    rw [hkeeps]
    cases e with
    | select => exact absurd rfl hselect
    | start hdr ok =>
      simp only [KcpPlane.step, KcpPlane.start]
      split_ifs <;> exact h.of_eq rfl rfl
    | restart hdr =>
      simp only [KcpPlane.step]
      split_ifs <;> exact h.of_eq rfl rfl
    | restartStep ok => exact h.restartStep ok
    | close =>
      simp only [KcpPlane.step]
      split_ifs
      · exact h
      · cases hinst : s.installed <;> exact h.of_eq rfl rfl
    | setHeader conn hdr => exact h.of_eq rfl rfl
    | writeTo conn packet =>
      simp only [KcpPlane.step]
      split
      · exact h
      · next c _ =>
          refine ⟨fun w hw => ?_, h.lane⟩
          rcases List.mem_append.mp hw with hw | hw
          · exact h.waiting w hw
          · rw [List.mem_singleton.mp hw]
            exact c.stamped_stamp (hpacket conn packet rfl)
    | send call => exact h.send queueSize call
    | abandon call expired =>
      simp only [KcpPlane.step, KcpPlane.abandon]
      split
      · exact h
      · split_ifs
        · exact ⟨fun w hw => h.waiting w (List.mem_of_mem_eraseIdx hw), h.lane⟩
        · exact h
    | tick localEpoch => exact ⟨h.waiting, h.tick hbatch localEpoch⟩

/-- **A run of the plane.** -/
lemma inv_run (hbatch : 1 ≤ cfg.batchSize) (queueSize : ℕ) (events : List PlaneEvent)
    (hpackets : ∀ conn packet, PlaneEvent.writeTo conn packet ∈ events → KcpPacket packet) :
    (run (step cfg queueSize) init events).Inv cfg
      (Along (step cfg queueSize) (KeepsHeader cfg) init events) := by
  -- from the right: the last step adds its own condition to those of the steps before
  induction events using List.reverseRecOn with
  | nil => exact inv_init cfg
  | append_singleton events e ih =>
    have hbefore := ih fun conn packet hmem => hpackets conn packet (List.mem_append_left _ hmem)
    rw [run_concat, along_concat]
    exact hbefore.step hbatch queueSize fun conn packet he => hpackets conn packet (by simp [he])

/-- **When a packet arrives under its own header**, in every run of `WriteTo` calls by old and new
runtimes, header changes, restarts and writer steps. -/
theorem attribution_iff (cfg : WriterConfig) (hbatch : 1 ≤ cfg.batchSize) (queueSize : ℕ)
    (events : List PlaneEvent)
    (hpackets : ∀ conn packet, PlaneEvent.writeTo conn packet ∈ events → KcpPacket packet) :
    (run (step cfg queueSize) init events).writer.lane.Attributed ↔
      Along (step cfg queueSize) (KeepsHeader cfg) init events :=
  (inv_run hbatch queueSize events hpackets).lane.attributed_iff

/-- A restart while a `WriteTo` of the old runtime waits.  The call goes through after the new
runtime has queued its first packet, and the batch of the two carries the new epoch: the packet
stamped with epoch 1 is read under epoch 2. -/
theorem attribution_retiredEpoch :
    let cfg : WriterConfig := ⟨7, 8, 50, 60⟩
    let packet (n : UInt8) : Bytes := kcpConvID ++ List.replicate 20 n
    let events : List PlaneEvent :=
      [.start ⟨7, 1, 0⟩ true, .writeTo 0 (packet 1), .restart ⟨7, 2, 0⟩, .restartStep true,
        .restartStep true, .restartStep true, .restartStep true, .writeTo 1 (packet 2), .send 1,
        .send 0, .tick 2, .select, .select]
    let lane := (run (step cfg 1536) init events).writer.lane
    lane.taken.map stampOf =
      [(some (7, 2, 0), packet 2 ++ bePut 4 (crc32c (packet 2)).toNat),
        (some (7, 1, 0), packet 1 ++ bePut 4 (crc32c (packet 1)).toNat)] ∧
    lane.track.flatMap attributed =
      [(some (7, 2, 0), packet 2 ++ bePut 4 (crc32c (packet 2)).toNat),
        (some (7, 2, 0), packet 1 ++ bePut 4 (crc32c (packet 1)).toNat)] ∧
    ¬ lane.Attributed := by
  intro cfg packet events lane
  refine ⟨by decide +kernel, by decide +kernel, ?_⟩
  unfold Lane.Attributed
  decide +kernel

/-- A header re-pointed between two samples: each packet keeps its own. -/
theorem attribution_iff_repointed :
    let cfg : WriterConfig := ⟨7, 8, 50, 60⟩
    let packet (n : UInt8) : Bytes := kcpConvID ++ List.replicate 20 n
    let events : List PlaneEvent :=
      [.start ⟨7, 1, 0⟩ true, .writeTo 0 (packet 1), .send 0, .tick 1, .select,
        .setHeader 0 ⟨7, 1, 9⟩, .writeTo 0 (packet 2), .send 0, .tick 1, .select]
    (run (step cfg 1536) init events).writer.lane.Attributed ∧
      Along (step cfg 1536) (KeepsHeader cfg) init events := by
  intro cfg packet events
  have hpackets : ∀ conn p, PlaneEvent.writeTo conn p ∈ events → KcpPacket p := by
    intro conn p hmem
    simp only [events, List.mem_cons, reduceCtorEq, PlaneEvent.writeTo.injEq, false_or,
      List.not_mem_nil, or_false] at hmem
    rcases hmem with ⟨-, rfl⟩ | ⟨-, rfl⟩ <;> exact ⟨rfl, by decide⟩
  have hattributed : (run (step cfg 1536) init events).writer.lane.Attributed := by
    unfold Lane.Attributed
    decide +kernel
  exact ⟨hattributed, (attribution_iff cfg (by decide) 1536 events hpackets).mp hattributed⟩

end KcpPlane

end OlcRtc
