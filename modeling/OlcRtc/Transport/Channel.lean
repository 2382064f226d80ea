import OlcRtc.Lib.Steps
import OlcRtc.Transport.Sender
import OlcRtc.Transport.Window

/-!
# A sender and a reassembler over a bad channel

The whole acknowledged transport in one direction: a `Sender`, a reader goroutine that decodes
frames, runs `DeliverFragment` and queues acknowledgements, and a channel in between that loses,
repeats, reorders and delays frames of both directions and damages payloads of data frames.

The channel keeps every frame ever queued.  Receiving picks any of them, as often as it likes,
which is loss, repetition, reordering and delay in one; a damaged payload is one whose checksum
differs from the one in the intact header.  Every lock region of the source is one step.  A sender
publishes one track and the other side reads a track on one goroutine, so there is one reader; its
push, its call of `onData` and its acknowledgement are separate steps.

The argument runs along the life of an acknowledgement.  `Link.Acked s seq i` says why fragment
`i` of message `seq` may have been acknowledged: the message was handed over, or the fragment sits
in its slot, or the message is just being handed over because of another fragment, or it is too
old to matter.  Every step keeps this (`Link.Acked.mono`), so when the last fragment of a running
`Send` is acknowledged, the only case left is that the message was handed over
(`Link.Inv.handed_of_acked`).
-/

namespace OlcRtc

/-! ## The sending side -/

structure SendCall.Ok (size : ℕ) (sent : List Bytes) (call : SendCall) : Prop where
  message : IsMessage sent call.seq call.data
  crc : call.crc = crc32 call.data
  fragments : call.fragments = fragmentPayload call.data size

/-- The sender, given which fragments may have been acknowledged and which messages have been
handed over. -/
structure Sender.Inv (size : ℕ) (sent : List Bytes) (Acked : UInt32 → ℕ → Prop)
    (Handed : UInt32 → Bytes → Prop) (s : Sender) : Prop where
  seq_eq : s.seq.toNat = sent.length
  running : ∀ call phase, s.running = some (call, phase) →
    call.Ok size sent ∧ call.seq = s.seq ∧
      ∃ w, s.acks.lookup call.seq = some w ∧ w.Ok ∧ w.total = call.fragments.length ∧
        ∀ i, w.acked[i]? = some true → Acked call.seq i
  queued : ∀ call n pending, s.running = some (call, .queueing n pending) →
    ∀ i ∈ pending, i < call.fragments.length
  returned : ∀ x ∈ s.returned, x.err = none → Handed x.seq x.data

namespace Sender.Inv

variable {size : ℕ} {sent : List Bytes} {Acked : UInt32 → ℕ → Prop}
  {Handed : UInt32 → Bytes → Prop} {s : Sender} {call : SendCall}

lemma mono (h : s.Inv size sent Acked Handed) {Acked' : UInt32 → ℕ → Prop}
    {Handed' : UInt32 → Bytes → Prop} (hacked : ∀ seq i, Acked seq i → Acked' seq i)
    (hhanded : ∀ seq d, Handed seq d → Handed' seq d) : s.Inv size sent Acked' Handed' where
  seq_eq := h.seq_eq
  running call phase hrun := by
    obtain ⟨hok, hseq, w, hl, hw, htotal, hall⟩ := h.running call phase hrun
    exact ⟨hok, hseq, w, hl, hw, htotal, fun i hi => hacked _ _ (hall i hi)⟩
  queued := h.queued
  returned x hx herr := hhanded _ _ (h.returned x hx herr)

lemma finish (h : s.Inv size sent Acked Handed) {err : Option SendError}
    (hhanded : err = none → Handed call.seq call.data) :
    (s.finish call err).Inv size sent Acked Handed where
  seq_eq := h.seq_eq
  running call' phase hrun := by simp [Sender.finish] at hrun
  queued call' n pending hrun := by simp [Sender.finish] at hrun
  returned x hx herr := by
    rcases List.mem_append.mp hx with hx | hx
    · exact h.returned x hx herr
    · grind

lemma move (h : s.Inv size sent Acked Handed) {phase phase' : SendPhase}
    (hrun : s.running = some (call, phase))
    (hqueued : ∀ n pending, phase' = .queueing n pending →
      ∀ i ∈ pending, i < call.fragments.length) :
    Inv size sent Acked Handed { s with running := some (call, phase') } where
  seq_eq := h.seq_eq
  running call' phase'' hrun' := by
    simp only [Option.some.injEq, Prod.mk.injEq] at hrun'
    rw [← hrun'.1]
    exact h.running call phase hrun
  queued call' n pending hrun' := by
    grind
  returned := h.returned

lemma attempt (h : s.Inv size sent Acked Handed) {phase : SendPhase}
    (hrun : s.running = some (call, phase)) (attempts : ℕ) {pending : List ℕ}
    (hpending : ∀ i ∈ pending, i < call.fragments.length) :
    (s.attempt call attempts pending).Inv size sent Acked Handed := by
  cases attempts with
  | zero => exact h.finish (by simp)
  | succ n =>
    refine h.move hrun fun n' pending' heq => ?_
    simp only [SendPhase.queueing.injEq] at heq
    rw [← heq.2]
    exact hpending

lemma send (h : s.Inv size sent Acked Handed) (cfg : SenderConfig)
    (hsize : cfg.fragmentSize = size) {data : Bytes}
    (hroom : sent.length + 1 < 2 ^ 32) :
    (s.send cfg data).Inv size (sent ++ [data]) Acked Handed := by
  have hseq : (s.seq + 1).toNat = sent.length + 1 := by
    rw [UInt32.toNat_add, h.seq_eq, UInt32.toNat_one]
    omega
  set call : SendCall :=
    ⟨s.seq + 1, crc32 data, data, fragmentPayload data cfg.fragmentSize⟩ with hcall
  have hok : call.Ok size (sent ++ [data]) := by
    refine ⟨⟨by rw [hcall]; simp only; omega, ?_⟩, rfl, by rw [hcall, hsize]⟩
    simp only [hcall, hseq]
    simp
  have hstarted : Inv size (sent ++ [data]) Acked Handed
      { s with
        seq := s.seq + 1
        acks := s.acks.insert (s.seq + 1)
          (AckWaiter.new (crc32 data) (fragmentPayload data cfg.fragmentSize).length)
        running := some (call, .awaiting 0) } := by
    refine ⟨by simpa using hseq, fun call' phase hrun => ?_, fun call' n pending hrun => ?_,
      h.returned⟩
    · simp only [Option.some.injEq, Prod.mk.injEq] at hrun
      rw [← hrun.1]
      refine ⟨hok, rfl, _, AList.lookup_insert _, AckWaiter.ok_new _ _, rfl, fun i hi => ?_⟩
      have := List.mem_of_getElem? hi
      simp [AckWaiter.new] at this
    · simp at hrun
  have hgo := hstarted.attempt rfl cfg.maxAttempts
    (show ∀ i ∈ List.range call.fragments.length, i < call.fragments.length by simp)
  cases hn : cfg.maxAttempts with
  | zero => simpa [Sender.send, Sender.attempt, Sender.finish, hn, hcall] using hgo
  | succ n => simpa [Sender.send, Sender.attempt, hn, hcall] using hgo

section Answered

/- Once all fragments of a running call may have been acknowledged, its message was handed
over. -/
variable (h : s.Inv size sent Acked Handed)
  (hcomplete : ∀ call phase, s.running = some (call, phase) →
    (∀ i < call.fragments.length, Acked call.seq i) → Handed call.seq call.data)

include h hcomplete

lemma handed_of_all {phase : SendPhase} {w : AckWaiter}
    (hrun : s.running = some (call, phase)) (hl : s.acks.lookup call.seq = some w)
    (hall : w.Ok → ∀ i < w.total, w.acked[i]? = some true) : Handed call.seq call.data := by
  obtain ⟨-, -, w', hl', hok, htotal, hacked⟩ := h.running call phase hrun
  rw [hl, Option.some.injEq] at hl'
  subst hl'
  exact hcomplete call phase hrun fun i hi => hacked i (hall hok i (htotal ▸ hi))

lemma check : s.check.Inv size sent Acked Handed := by
  unfold Sender.check
  split
  · next call n hrun =>
      split
      · next w hl =>
          split_ifs with hdone
          · exact h.finish fun _ =>
              h.handed_of_all hcomplete hrun hl fun hok i hi => hok.acked_of_done hdone hi
          · exact h
      · exact h
  · exact h

lemma timeout : s.timeout.Inv size sent Acked Handed := by
  unfold Sender.timeout
  split
  · next call n hrun =>
      split
      · next w hl =>
          split_ifs with hdone
          · exact h.finish fun _ =>
              h.handed_of_all hcomplete hrun hl fun hok i hi => hok.acked_of_done hdone hi
          · exact h.move hrun (by simp)
      · exact h
  · exact h

lemma collect : s.collect.Inv size sent Acked Handed := by
  unfold Sender.collect
  split
  · next call n hrun =>
      split
      · next w hl =>
          split_ifs with hnone
          · exact h.finish fun _ =>
              h.handed_of_all hcomplete hrun hl fun hok i hi => hok.acked_of_pending hnone hi
          · refine h.attempt hrun n fun i hi => ?_
            obtain ⟨-, -, w', hl', hok, htotal, -⟩ := h.running call _ hrun
            rw [hl, Option.some.injEq] at hl'
            subst hl'
            rw [← htotal, ← hok.length_acked]
            exact AckWaiter.mem_pending hi
      · exact h
  · exact h

end Answered

lemma abort (h : s.Inv size sent Acked Handed) : s.abort.Inv size sent Acked Handed := by
  unfold Sender.abort
  split
  · exact h.finish (by simp)
  · exact h.finish (by simp)
  · exact h

lemma resolve (h : s.Inv size sent Acked Handed) {seq crc : UInt32} {fragIdx : UInt16}
    (hacked : Acked seq fragIdx.toNat) :
    (s.resolve seq crc fragIdx).Inv size sent Acked Handed := by
  refine ⟨h.seq_eq, fun call phase hrun => ?_, h.queued, h.returned⟩
  obtain ⟨hok, hseq, w, hl, hw, htotal, hall⟩ := h.running call phase hrun
  refine ⟨hok, hseq, ?_⟩
  by_cases hsame : call.seq = seq
  · subst hsame
    obtain ⟨hw', -, htotal', hmark⟩ := hw.mark crc fragIdx.toNat
    refine ⟨w.mark crc fragIdx.toNat, ?_, hw', htotal'.trans htotal, fun i hi => ?_⟩
    · simp [Sender.resolve, AckTracker.mark, hl]
    · grind
  · refine ⟨w, ?_, hw, htotal, hall⟩
    simp only [Sender.resolve, AckTracker.mark]
    split
    · exact hl
    · rw [AList.lookup_insert_ne hsame, hl]

lemma queueNext (h : s.Inv size sent Acked Handed) (cfg : SenderConfig) :
    (s.queueNext cfg).1.Inv size sent Acked Handed ∧
      ∀ frame, (s.queueNext cfg).2 = some frame →
        ∃ seq d i chunk, IsMessage sent seq d ∧ (fragmentPayload d size)[i]? = some chunk ∧
          frame = encodeData cfg.role cfg.binding seq (crc32 d) d.length i
            (fragmentPayload d size).length chunk := by
  unfold Sender.queueNext
  split
  · next call n idx pending hrun =>
      have hlt := h.queued call n (idx :: pending) hrun
      obtain ⟨hok, -, -⟩ := h.running call _ hrun
      refine ⟨h.move hrun fun n' pending' heq => ?_, fun frame hframe => ?_⟩
      · grind
      · have hidx : idx < call.fragments.length := hlt idx (by simp)
        have hget : call.fragments[idx]? = some (call.fragments.getD idx []) := by
          grind
        simp only [Option.some.injEq] at hframe
        rw [hok.fragments] at hget hframe
        exact ⟨call.seq, call.data, idx, _, hok.message, hget, by rw [← hframe, hok.crc]⟩
  · next call n hrun => exact ⟨h.move hrun (by simp), by simp⟩
  · exact ⟨h, by simp⟩

end Sender.Inv

/-! ## The link -/

/-- One side of a link, as it labels its frames and filters those of the other side. -/
structure Endpoint where
  role : UInt8
  remoteRole : UInt8
  binding : UInt32

/-- The sending side, the receiving side, and how the sender cuts and retries. -/
structure LinkConfig where
  near : Endpoint
  far : Endpoint
  fragmentSize : ℕ
  maxAttempts : ℕ

def LinkConfig.sender (cfg : LinkConfig) : SenderConfig :=
  ⟨cfg.near.role, cfg.near.binding, cfg.fragmentSize, cfg.maxAttempts⟩

/-- Where the reader goroutine stands in `DeliverFragment`. -/
inductive Reader
  | idle
  | handing (frame : Frame) (data : Bytes)
  | acking (frame : Frame)

/-- The state of the link.  `sent` are the payloads of all `Send` calls in order, `data` and `acks`
all frames ever queued in either direction, and `handed` the calls of `onData`, each with the
number of the message that caused it. -/
structure Link where
  sent : List Bytes
  sender : Sender
  closed : Bool
  data : List Bytes
  acks : List Bytes
  reassembler : Reassembler
  reader : Reader
  handed : List (UInt32 × Bytes)

inductive LinkEvent
  | send (data : Bytes)
  | queueNext
  | check
  | timeout
  | collect
  | close
  | abort
  | receive (bytes : Bytes)
  | handOver
  | acknowledge
  | resolve (bytes : Bytes)

def Frame.fragment (f : Frame) : Fragment :=
  ⟨f.seq, f.crc, f.totalLen, f.fragIdx, f.fragTotal, f.fragCRC, f.payload⟩

namespace Link

def init : Link := ⟨[], Sender.new, false, [], [], Reassembler.new 256, .idle, []⟩

/-- `DeliverFragment` up to its switch. -/
def deliverFragment (s : Link) (f : Frame) : Link :=
  match s.reassembler.push f.fragment with
  | (r, .resultDelivered, some data) => { s with reassembler := r, reader := .handing f data }
  | (r, .resultPartial, _) => { s with reassembler := r, reader := .acking f }
  | (r, .resultDuplicate, _) => { s with reassembler := r, reader := .acking f }
  | (r, _, _) => { s with reassembler := r }

def receive (cfg : LinkConfig) (s : Link) (bytes : Bytes) : Link :=
  match s.reader, decodeFrame bytes with
  | .idle, .ok f =>
    if f.acceptedBy cfg.far.remoteRole cfg.far.binding ∧ f.type = frameTypeData then
      s.deliverFragment f
    else s
  | _, _ => s

def resolve (cfg : LinkConfig) (s : Link) (bytes : Bytes) : Link :=
  match decodeFrame bytes with
  | .ok f =>
    if f.acceptedBy cfg.near.remoteRole cfg.near.binding ∧ f.type = frameTypeAck then
      { s with sender := s.sender.resolve f.seq f.crc f.fragIdx }
    else s
  | .error _ => s

/-- One step.  A step that is not enabled leaves the link alone. -/
def step (cfg : LinkConfig) (s : Link) : LinkEvent → Link
  | .send data =>
    if s.sender.running.isSome then s
    else { s with sent := s.sent ++ [data], sender := s.sender.send cfg.sender data }
  | .queueNext =>
    let out := s.sender.queueNext cfg.sender
    { s with sender := out.1, data := s.data ++ out.2.toList }
  | .check => { s with sender := s.sender.check }
  | .timeout => { s with sender := s.sender.timeout }
  | .collect => { s with sender := s.sender.collect }
  | .close => { s with closed := true }
  | .abort => if s.closed then { s with sender := s.sender.abort } else s
  | .receive bytes => s.receive cfg bytes
  | .handOver =>
    match s.reader with
    | .handing f data => { s with handed := s.handed ++ [(f.seq, data)], reader := .acking f }
    | _ => s
  | .acknowledge =>
    match s.reader with
    | .acking f =>
      { s with
        acks := s.acks ++ [encodeAck cfg.far.role cfg.far.binding f.seq f.crc f.fragIdx]
        reader := .idle }
    | _ => s
  | .resolve bytes => s.resolve cfg bytes

end Link

/-- What may come out of the channel for a data frame that went in: the frame, or the frame with
a payload that its checksum gives away. -/
def Arrives (original arrived : Bytes) : Prop :=
  arrived = original ∨
    (arrived.take frameDataHdrLen = original.take frameDataHdrLen ∧
      crc32 (arrived.drop frameDataHdrLen) ≠ crc32 (original.drop frameDataHdrLen))

/-- The conditions on a run: fewer than 2³² sends of messages the format can carry; data frames
come from the channel, each of one of the last 128 messages sent; acknowledgements come from the
channel undamaged. -/
def Link.Admissible (cfg : LinkConfig) (s : Link) : LinkEvent → Prop
  | .send data => s.sent.length + 1 < 2 ^ 32 ∧ Sendable cfg.fragmentSize data
  | .receive bytes => (∃ original ∈ s.data, Arrives original bytes) ∧
      ∀ f, decodeFrame bytes = .ok f → ¬ Expired s.sent f.seq
  | .resolve bytes => bytes ∈ s.acks
  | _ => True

/-! ## Why a fragment is acknowledged -/

namespace Link

def inHand : Reader → List UInt32
  | .handing f _ => [f.seq]
  | _ => []

/-- The deliveries so far, newest first, the one in hand included. -/
def log (s : Link) : List UInt32 := inHand s.reader ++ (s.handed.map Prod.fst).reverse

/-- Fragment `i` of message `seq` may have been acknowledged. -/
def Acked (s : Link) (seq : UInt32) (i : ℕ) : Prop :=
  seq ∈ s.handed.map Prod.fst ∨ s.reassembler.Stored seq i ∨
    (∃ f data, s.reader = .handing f data ∧ f.seq = seq ∧ f.fragIdx.toNat ≠ i) ∨
    Expired s.sent seq

def ReaderOk (size : ℕ) (s : Link) : Prop :=
  match s.reader with
  | .idle => True
  | .handing f data => IsMessage s.sent f.seq data ∧
      f.fragIdx.toNat < (fragmentPayload data size).length ∧
      ∀ j, ¬ s.reassembler.Stored f.seq j
  | .acking f => s.Acked f.seq f.fragIdx.toNat

structure Inv (cfg : LinkConfig) (s : Link) : Prop where
  sendable : ∀ d ∈ s.sent, Sendable cfg.fragmentSize d
  frames : ∀ frame ∈ s.data, ∃ seq d i chunk, IsMessage s.sent seq d ∧
    (fragmentPayload d cfg.fragmentSize)[i]? = some chunk ∧
    frame = encodeData cfg.near.role cfg.near.binding seq (crc32 d) d.length i
      (fragmentPayload d cfg.fragmentSize).length chunk
  reassembler : s.reassembler.Inv cfg.fragmentSize s.sent s.log
  handed : ∀ x ∈ s.handed, IsMessage s.sent x.1 x.2
  reader : s.ReaderOk cfg.fragmentSize
  acks : ∀ frame ∈ s.acks, ∃ seq crc idx,
    frame = encodeAck cfg.far.role cfg.far.binding seq crc idx ∧ s.Acked seq idx.toNat
  sender : s.sender.Inv cfg.fragmentSize s.sent s.Acked fun seq d => (seq, d) ∈ s.handed

lemma inv_init (cfg : LinkConfig) : init.Inv cfg where
  sendable := by simp [init]
  frames := by simp [init]
  reassembler := Reassembler.inv_new _
  handed := by simp [init]
  reader := trivial
  acks := by simp [init]
  sender :=
    ⟨rfl, by simp [init, Sender.new], by simp [init, Sender.new], by simp [init, Sender.new]⟩

/-- **All fragments acknowledged means handed over**, for the newest message.  It has not expired;
were it not handed over, its fragments would all sit in their slots, and then the entry would not
be pending; or it is in hand, and then the fragment that completed it is not acknowledged yet. -/
lemma Inv.handed_of_acked {cfg : LinkConfig} {s : Link} (h : s.Inv cfg) {seq : UInt32} {d : Bytes}
    (hd : IsMessage s.sent seq d) (hnewest : seq.toNat = s.sent.length)
    (hall : ∀ i < (fragmentPayload d cfg.fragmentSize).length, s.Acked seq i) :
    (seq, d) ∈ s.handed := by
  have hlive : ¬ Expired s.sent seq := by
    simp only [Expired, sendWindow]
    omega
  by_cases hmem : seq ∈ s.handed.map Prod.fst
  · obtain ⟨x, hx, rfl⟩ := List.mem_map.mp hmem
    rwa [hd.unique (h.handed x hx)]
  exfalso
  by_cases hhand : ∃ f data, s.reader = .handing f data ∧ f.seq = seq
  · obtain ⟨f, data, hreader, rfl⟩ := hhand
    have hok := h.reader
    simp only [ReaderOk, hreader] at hok
    obtain ⟨hmsg, hidx, hnone⟩ := hok
    rw [hmsg.unique hd] at hidx
    rcases hall f.fragIdx.toNat hidx with hc | hc | ⟨f', data', hreader', -, hne⟩ | hc
    · exact hmem hc
    · exact hnone _ hc
    · grind
    · exact hlive hc
  · have hstored : ∀ i < (fragmentPayload d cfg.fragmentSize).length,
        s.reassembler.Stored seq i := by
      intro i hi
      rcases hall i hi with hc | hc | ⟨f, data, hreader, hseq, -⟩ | hc
      · exact absurd hc hmem
      · exact hc
      · exact absurd ⟨f, data, hreader, hseq⟩ hhand
      · exact absurd hc hlive
    have hpos := List.length_pos_iff.mpr (fragmentPayload_ne_nil d cfg.fragmentSize)
    obtain ⟨msg, _, hl, -⟩ := hstored 0 hpos
    obtain ⟨d', hd', hholds, hremain⟩ := h.reassembler.entries.entry seq msg hl
    rw [hd'.unique hd] at hholds
    rw [hholds.remain, List.count_pos_iff] at hremain
    obtain ⟨i, hi, hnone⟩ := List.getElem_of_mem hremain
    obtain ⟨msg', c, hl', hc⟩ := hstored i (hholds.length_frags ▸ hi)
    rw [hl, Option.some.injEq] at hl'
    rw [← hl', List.getElem?_eq_getElem hi, hnone] at hc
    simp at hc

/-! ## One step -/

variable {cfg : LinkConfig} {s : Link}

lemma Inv.fragmentOf (h : s.Inv cfg) {original bytes : Bytes} (hmem : original ∈ s.data)
    (harrives : Arrives original bytes) :
    ∃ f d i chunk, decodeFrame bytes = .ok f ∧
      FragmentOf cfg.fragmentSize s.sent f.fragment d i chunk := by
  obtain ⟨seq, d, i, chunk, hd, hchunk, rfl⟩ := h.frames original hmem
  set header := dataHeader cfg.near.role cfg.near.binding seq (crc32 d) d.length i
    (fragmentPayload d cfg.fragmentSize).length (crc32 chunk) with hheader
  have hlen : header.length = frameDataHdrLen := length_dataHeader _ _ _ _ _ _ _ _
  have horiginal : encodeData cfg.near.role cfg.near.binding seq (crc32 d) d.length i
      (fragmentPayload d cfg.fragmentSize).length chunk = header ++ chunk := rfl
  obtain ⟨payload, hbytes, hpayload⟩ : ∃ payload, bytes = header ++ payload ∧
      (payload = chunk ∨ crc32 payload ≠ crc32 chunk) := by
    rw [horiginal] at harrives
    rcases harrives with rfl | ⟨htake, hcrc⟩
    · exact ⟨chunk, rfl, Or.inl rfl⟩
    · grind [List.take_left', List.drop_left', frameDataHdrLen, List.take_append_drop]
  refine ⟨_, d, i, chunk, by rw [hbytes, hheader, decodeFrame_dataHeader], ?_⟩
  exact ⟨hd, h.sendable d hd.mem, hchunk, rfl, rfl, rfl, rfl, rfl, hpayload⟩

lemma Inv.withSender (h : s.Inv cfg) {sender : Sender}
    (hsender : sender.Inv cfg.fragmentSize s.sent s.Acked fun seq d => (seq, d) ∈ s.handed) :
    Inv cfg { s with sender := sender } where
  sendable := h.sendable
  frames := h.frames
  reassembler := h.reassembler
  handed := h.handed
  reader := h.reader
  acks := h.acks
  sender := hsender

/-- The running call is the newest message, so its acknowledgements are conclusive. -/
lemma Inv.complete (h : s.Inv cfg) (call : SendCall) (phase : SendPhase)
    (hrun : s.sender.running = some (call, phase))
    (hall : ∀ i < call.fragments.length, s.Acked call.seq i) :
    (call.seq, call.data) ∈ s.handed := by
  obtain ⟨hok, hseq, -⟩ := h.sender.running call phase hrun
  refine h.handed_of_acked hok.message ?_ (hok.fragments ▸ hall)
  rw [hseq]
  exact h.sender.seq_eq

lemma Inv.send (h : s.Inv cfg) {data : Bytes} (hroom : s.sent.length + 1 < 2 ^ 32)
    (hdata : Sendable cfg.fragmentSize data) :
    Inv cfg { s with sent := s.sent ++ [data], sender := s.sender.send cfg.sender data } := by
  have hexpired : ∀ seq, Expired s.sent seq → Expired (s.sent ++ [data]) seq := by
    grind [Expired, List.length_append, List.length_singleton]
  have hacked : ∀ seq i, s.Acked seq i →
      Acked { s with sent := s.sent ++ [data], sender := s.sender.send cfg.sender data } seq i :=
    fun seq i => Or.imp_right (Or.imp_right (Or.imp_right (hexpired seq)))
  refine ⟨?_, ?_, h.reassembler.append data, ?_, ?_, ?_, ?_⟩
  · intro d hd
    rcases List.mem_append.mp hd with hd | hd
    · exact h.sendable d hd
    · rwa [List.mem_singleton.mp hd]
  · intro frame hframe
    obtain ⟨seq, d, i, chunk, hd, hrest⟩ := h.frames frame hframe
    exact ⟨seq, d, i, chunk, hd.append data, hrest⟩
  · exact fun x hx => (h.handed x hx).append data
  · have hreader := h.reader
    unfold ReaderOk at hreader ⊢
    split
    · trivial
    · next f payload hr =>
        rw [hr] at hreader
        exact ⟨hreader.1.append data, hreader.2⟩
    · grind
  · intro frame hframe
    obtain ⟨seq, crc, idx, heq, hack⟩ := h.acks frame hframe
    exact ⟨seq, crc, idx, heq, hacked _ _ hack⟩
  · exact (h.sender.send cfg.sender rfl hroom).mono hacked fun _ _ => id

lemma Inv.queueNext (h : s.Inv cfg) : (s.step cfg .queueNext).Inv cfg := by
  obtain ⟨hsender, hframe⟩ := h.sender.queueNext cfg.sender
  have hnext := h.withSender hsender
  refine ⟨hnext.sendable, fun frame hmem => ?_, hnext.reassembler, hnext.handed, hnext.reader,
    hnext.acks, hnext.sender⟩
  rcases List.mem_append.mp hmem with hmem | hmem
  · exact h.frames frame hmem
  · exact hframe frame (Option.mem_toList.mp hmem)

/-- **A data frame arrives.**  Slots stay filled, and if the frame completes its message, all
fragments acknowledged before are other fragments. -/
lemma Inv.deliverFragment (h : s.Inv cfg) (hidle : s.reader = .idle) {f : Frame} {d chunk : Bytes}
    {i : ℕ} (hf : FragmentOf cfg.fragmentSize s.sent f.fragment d i chunk)
    (hlive : ¬ Expired s.sent f.seq) : (s.deliverFragment f).Inv cfg := by
  have hlog : s.log = (s.handed.map Prod.fst).reverse := by simp [log, inHand, hidle]
  have hinv := h.reassembler
  rw [hlog] at hinv
  have hidx : f.fragIdx.toNat = i := hf.isFragment.toNat_fragIdx
  -- once the acknowledged fragments are known to stay so, the rest of the link is as before
  have hrest : ∀ (r : Reassembler) (reader : Reader),
      r.Inv cfg.fragmentSize s.sent (inHand reader ++ (s.handed.map Prod.fst).reverse) →
      (∀ seq j, s.Acked seq j → Acked { s with reassembler := r, reader := reader } seq j) →
      ReaderOk cfg.fragmentSize { s with reassembler := r, reader := reader } →
      Inv cfg { s with reassembler := r, reader := reader } := by
    intro r reader hr hacked hreader
    refine ⟨h.sendable, h.frames, hr, h.handed, hreader, fun frame hframe => ?_,
      h.sender.mono hacked fun _ _ => id⟩
    obtain ⟨seq, crc, idx, heq, hack⟩ := h.acks frame hframe
    exact ⟨seq, crc, idx, heq, hacked _ _ hack⟩
  have hnotHanding : ∀ f' data, s.reader ≠ .handing f' data := by simp [hidle]
  unfold Link.deliverFragment
  rcases hinv.push_spec hf hlive with hpush | ⟨hmem, hpush⟩ | ⟨r', hpush, hr', hself, hkeep⟩ |
    ⟨r', hpush, -, hr', hopen, hnone, hkeep⟩
  · rw [hpush]
    exact h
  · rw [hpush]
    refine hrest _ _ hinv (fun seq j hack => ?_) ?_
    · exact hack.imp_right (Or.imp_right (Or.imp_left fun ⟨f', data, hr, _⟩ =>
        absurd hr (hnotHanding f' data)))
    · exact Or.inl (List.mem_reverse.mp hmem)
  · rw [hpush]
    refine hrest _ _ hr' (fun seq j hack => ?_) ?_
    · rcases hack with hc | hc | ⟨f', data, hr, -⟩ | hc
      · exact Or.inl hc
      · exact Or.inr ((hkeep seq j hc).imp_right Or.inr)
      · exact absurd hr (hnotHanding f' data)
      · exact Or.inr (Or.inr (Or.inr hc))
    · exact Or.inr (Or.inl (hidx ▸ hself))
  · rw [hpush]
    refine hrest _ _ hr' (fun seq j hack => ?_) ?_
    · rcases hack with hc | hc | ⟨f', data, hr, -⟩ | hc
      · exact Or.inl hc
      · by_cases hseq : seq = f.seq
        · subst hseq
          refine Or.inr (Or.inr (Or.inl ⟨f, d, rfl, rfl, fun heq => hopen ?_⟩))
          rw [← hidx, heq]
          exact hc
        · exact Or.inr ((hkeep seq j hseq hc).imp_right Or.inr)
      · exact absurd hr (hnotHanding f' data)
      · exact Or.inr (Or.inr (Or.inr hc))
    · exact ⟨hf.message, hidx ▸ hf.isFragment.lt, hnone⟩

lemma Inv.receive (h : s.Inv cfg) {bytes : Bytes}
    (hadm : s.Admissible cfg (.receive bytes)) : (s.receive cfg bytes).Inv cfg := by
  obtain ⟨⟨original, hmem, harrives⟩, hwindow⟩ := hadm
  obtain ⟨f, d, i, chunk, hdecode, hf⟩ := h.fragmentOf hmem harrives
  unfold Link.receive
  rw [hdecode]
  cases hreader : s.reader with
  | idle =>
    simp only
    split_ifs
    · exact h.deliverFragment hreader hf (hwindow f hdecode)
    · exact h
  | handing f' data => exact h
  | acking f' => exact h

lemma Inv.handOver (h : s.Inv cfg) : (s.step cfg .handOver).Inv cfg := by
  unfold Link.step
  cases hreader : s.reader with
  | idle => exact h
  | acking f => exact h
  | handing f data =>
    have hok := h.reader
    simp only [ReaderOk, hreader] at hok
    have hacked : ∀ seq j, s.Acked seq j →
        Acked { s with handed := s.handed ++ [(f.seq, data)], reader := .acking f } seq j := by
      rintro seq j (hc | hc | ⟨f', data', hr, hseq, -⟩ | hc)
      · exact Or.inl (by simp at hc ⊢; exact Or.inl hc)
      · exact Or.inr (Or.inl hc)
      · rw [hreader, Reader.handing.injEq] at hr
        exact Or.inl (by simp [← hseq, hr.1])
      · exact Or.inr (Or.inr (Or.inr hc))
    refine ⟨h.sendable, h.frames, ?_, fun x hx => ?_, ?_, fun frame hframe => ?_, ?_⟩
    · have hlog : s.log = f.seq :: (s.handed.map Prod.fst).reverse := by
        simp [log, inHand, hreader]
      have hinv := h.reassembler
      rw [hlog] at hinv
      simpa [log, inHand] using hinv
    · rcases List.mem_append.mp hx with hx | hx
      · exact h.handed x hx
      · rw [List.mem_singleton.mp hx]
        exact hok.1
    · exact Or.inl (by simp)
    · obtain ⟨seq, crc, idx, heq, hack⟩ := h.acks frame hframe
      exact ⟨seq, crc, idx, heq, hacked _ _ hack⟩
    · exact h.sender.mono hacked fun seq d hd => List.mem_append_left _ hd

lemma Inv.acknowledge (h : s.Inv cfg) : (s.step cfg .acknowledge).Inv cfg := by
  unfold Link.step
  cases hreader : s.reader with
  | idle => exact h
  | handing f data => exact h
  | acking f =>
    have hok := h.reader
    simp only [ReaderOk, hreader] at hok
    have hacked : ∀ seq j, s.Acked seq j → Acked { s with
        acks := s.acks ++ [encodeAck cfg.far.role cfg.far.binding f.seq f.crc f.fragIdx]
        reader := .idle } seq j := fun seq j => Or.imp_right (Or.imp_right
      (Or.imp_left fun ⟨f', data, hr, _⟩ => by simp [hreader] at hr))
    refine ⟨h.sendable, h.frames, ?_, h.handed, trivial, fun frame hframe => ?_,
      h.sender.mono hacked fun _ _ => id⟩
    · have hinv := h.reassembler
      simpa [log, inHand, hreader] using hinv
    · rcases List.mem_append.mp hframe with hframe | hframe
      · obtain ⟨seq, crc, idx, heq, hack⟩ := h.acks frame hframe
        exact ⟨seq, crc, idx, heq, hacked _ _ hack⟩
      · exact ⟨f.seq, f.crc, f.fragIdx, List.mem_singleton.mp hframe, hacked _ _ hok⟩

lemma Inv.resolve (h : s.Inv cfg) {bytes : Bytes} (hmem : bytes ∈ s.acks) :
    (s.resolve cfg bytes).Inv cfg := by
  obtain ⟨seq, crc, idx, rfl, hack⟩ := h.acks bytes hmem
  unfold Link.resolve
  rw [decodeFrame_encodeAck]
  simp only
  split_ifs
  · exact h.withSender (h.sender.resolve hack)
  · exact h

/-- **One step keeps the invariant.** -/
theorem Inv.step (h : s.Inv cfg) {e : LinkEvent} (hadm : s.Admissible cfg e) :
    (s.step cfg e).Inv cfg := by
  cases e with
  | send data =>
    simp only [Link.step]
    split_ifs
    · exact h
    · exact h.send hadm.1 hadm.2
  | queueNext => exact h.queueNext
  | check => exact h.withSender (h.sender.check h.complete)
  | timeout => exact h.withSender (h.sender.timeout h.complete)
  | collect => exact h.withSender (h.sender.collect h.complete)
  | close => exact ⟨h.sendable, h.frames, h.reassembler, h.handed, h.reader, h.acks, h.sender⟩
  | abort =>
    simp only [Link.step]
    split_ifs
    · exact h.withSender h.sender.abort
    · exact h
  | receive bytes => exact h.receive hadm
  | handOver => exact h.handOver
  | acknowledge => exact h.acknowledge
  | resolve bytes => exact h.resolve hadm

/-- The invariant holds after every run that meets the conditions. -/
theorem inv_run {events : List LinkEvent}
    (hrun : Along (Link.step cfg) (Admissible cfg) init events) :
    (run (Link.step cfg) init events).Inv cfg :=
  run_invariant (Link.step cfg) (fun _ _ h hadm => h.step hadm) (inv_init cfg) hrun

end Link

/-- **The transport is honest.**  In every interleaving, over a channel that loses, repeats,
reorders, delays and damages: a `Send` that returned without error had its message handed over;
no message is handed over twice; and what is handed over is, byte for byte, the message that was
sent under that number. -/
theorem link_honest (cfg : LinkConfig) (events : List LinkEvent)
    (hrun : Along (Link.step cfg) (Link.Admissible cfg) Link.init events) :
    let s := run (Link.step cfg) Link.init events
    (∀ x ∈ s.sender.returned, x.err = none → (x.seq, x.data) ∈ s.handed) ∧
      (s.handed.map Prod.fst).Nodup ∧
      ∀ x ∈ s.handed, IsMessage s.sent x.1 x.2 := by
  intro s
  have hinv : s.Inv cfg := Link.inv_run hrun
  refine ⟨hinv.sender.returned, ?_, hinv.handed⟩
  exact List.nodup_reverse.mp (List.Nodup.of_append_right hinv.reassembler.remembers.nodup)

/-- Three bytes in two fragments.  The first fragment is damaged once and then arrives; the second
completes the message; both acknowledgements come back, and `Send` returns. -/
theorem link_honest_twoFragments :
    let cfg : LinkConfig := ⟨⟨1, 2, 7⟩, ⟨2, 1, 7⟩, 2, 1⟩
    let first := encodeData 1 7 1 (crc32 [1, 2, 3]) 3 0 2 [1, 2]
    let damaged := dataHeader 1 7 1 (crc32 [1, 2, 3]) 3 0 2 (crc32 [1, 2]) ++ [9, 9]
    let second := encodeData 1 7 1 (crc32 [1, 2, 3]) 3 1 2 [3]
    let events : List LinkEvent :=
      [.send [1, 2, 3], .queueNext, .queueNext, .queueNext, .receive damaged, .receive first,
        .acknowledge, .receive second, .handOver, .acknowledge,
        .resolve (encodeAck 2 7 1 (crc32 [1, 2, 3]) 0),
        .resolve (encodeAck 2 7 1 (crc32 [1, 2, 3]) 1), .check]
    let s := run (Link.step cfg) Link.init events
    s.sender.returned.map (fun x => (x.seq, x.data, x.err)) = [(1, [1, 2, 3], none)] ∧
      (1, [1, 2, 3]) ∈ s.handed := by
  intro cfg first damaged second events s
  have hwindow : ∀ (sent : List Bytes), sent.length ≤ 1 →
      ∀ (i : ℕ) (fragCRC : UInt32) (payload : Bytes) (f : Frame),
        decodeFrame (dataHeader 1 7 1 (crc32 [1, 2, 3]) 3 i 2 fragCRC ++ payload) = .ok f →
          ¬ Expired sent f.seq := by
    intro sent hsent i fragCRC payload f hf
    rw [decodeFrame_dataHeader, Except.ok.injEq] at hf
    rw [← hf, Expired, sendWindow, UInt32.toNat_one]
    omega
  have hack0 : encodeAck 2 7 1 (crc32 [1, 2, 3]) 0
      ∈ (run (Link.step cfg) Link.init (events.take 10)).acks := by decide +kernel
  have hack1 : encodeAck 2 7 1 (crc32 [1, 2, 3]) 1
      ∈ (run (Link.step cfg) Link.init (events.take 11)).acks := by decide +kernel
  have hrun : Along (Link.step cfg) (Link.Admissible cfg) Link.init events :=
    ⟨⟨by decide, by decide, by decide⟩, trivial, trivial, trivial,
      ⟨⟨first, by decide +kernel, Or.inr ⟨by decide +kernel, by decide +kernel⟩⟩,
        hwindow _ (by decide +kernel) _ _ _⟩,
      ⟨⟨first, by decide +kernel, Or.inl rfl⟩, hwindow _ (by decide +kernel) _ _ _⟩, trivial,
      ⟨⟨second, by decide +kernel, Or.inl rfl⟩, hwindow _ (by decide +kernel) _ _ _⟩, trivial,
      trivial,
      hack0, hack1, trivial, trivial⟩
  have hreturned : s.sender.returned.map (fun x => (x.seq, x.data, x.err))
      = [(1, [1, 2, 3], none)] := by decide +kernel
  refine ⟨hreturned, ?_⟩
  obtain ⟨x, hx, heq⟩ := List.mem_map.mp (hreturned ▸ List.mem_singleton_self _)
  simp only [Prod.mk.injEq] at heq
  have hmem := (link_honest cfg events hrun).1 x hx heq.2.2
  rwa [heq.1, heq.2.1] at hmem

end OlcRtc
