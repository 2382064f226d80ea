import OlcRtc.Vp8.Writer

/-!
# The data plane

`kcpPlane` owns the outbound queue of the data plane and the KCP runtime that fills it.  Every
runtime writes through a `kcpConn`, whose `WriteTo` puts the conn's current epoch header in front of
the packet and its checksum behind, and then waits for room in the queue.  A restart empties the
queue, retires the runtime and installs a new one with a new header; the queue, the frame the
writer holds back and the `WriteTo` calls that are still waiting outlive the runtime that made
them.

`KcpPlane` is the plane together with its paced writer.  `restart` runs under `lifecycleMu`, but
neither `WriteTo` nor the writer takes that lock, so the parts of `restart` are steps of their own.
-/

namespace OlcRtc

structure EpochHeader where
  token : UInt32
  src : UInt32
  dst : UInt32
deriving DecidableEq, Repr

def EpochHeader.bytes (hdr : EpochHeader) : Bytes := buildEpochHeaderTo hdr.token hdr.src hdr.dst

/-- The part of `kcpConn` that writing uses. -/
structure KcpConn where
  epochHdr : EpochHeader
  closed : Bool

/-- The frame `WriteTo` builds: the conn's header, the packet and its checksum. -/
def KcpConn.stamp (c : KcpConn) (packet : Bytes) : Bytes :=
  c.epochHdr.bytes ++ (packet ++ bePut wireCRCLen (crc32c packet).toNat)

/-- A packet as KCP writes it: the conversation id first, and no longer than the MTU. -/
structure KcpPacket (packet : Bytes) : Prop where
  conv : packet.take 4 = kcpConvID
  size : packet.length ≤ kcpMTU

/-- How far a `restart` has come. -/
inductive RestartPhase
  | draining
  | swapping
  | closing (old : Option ℕ)
  | starting

/-- A call of `restart` that holds `lifecycleMu`. -/
structure Restart where
  hdr : EpochHeader
  phase : RestartPhase

/-- A call of `WriteTo` that waits for room in the queue. -/
structure WaitingWrite where
  conn : ℕ
  frame : Bytes

/-- The plane and its writer.  `conns` are the conns of all runtimes so far, oldest first, and
`installed` is the index of the live one. -/
structure KcpPlane where
  writer : DataWriter
  conns : List KcpConn
  installed : Option ℕ
  waiting : List WaitingWrite
  restarting : Option Restart
  started : Bool
  closed : Bool

/-- What happens to a plane.  `ok` says whether `startKCP` succeeded and `expired` whether the
deadline of a waiting call has passed. -/
inductive PlaneEvent
  | start (hdr : EpochHeader) (ok : Bool)
  | restart (hdr : EpochHeader)
  | restartStep (ok : Bool)
  | close
  | setHeader (conn : ℕ) (hdr : EpochHeader)
  | writeTo (conn : ℕ) (packet : Bytes)
  | send (call : ℕ)
  | abandon (call : ℕ) (expired : Bool)
  | tick (localEpoch : UInt32)
  | select

namespace KcpPlane

/-- `newKCPPlane`. -/
def init : KcpPlane := ⟨DataWriter.init, [], none, [], none, false, false⟩

def install (s : KcpPlane) (hdr : EpochHeader) : KcpPlane :=
  { s with conns := s.conns ++ [⟨hdr, false⟩], installed := some s.conns.length }

/-- `kcpConn.Close`. -/
def closeConn (s : KcpPlane) (conn : Option ℕ) : KcpPlane :=
  match conn with
  | none => s
  | some i => { s with conns := s.conns.modify i fun c => { c with closed := true } }

/-- `start`: once, and not on a closed plane. -/
def start (s : KcpPlane) (hdr : EpochHeader) (ok : Bool) : KcpPlane :=
  if s.restarting.isSome ∨ s.started then s
  else if s.closed ∨ ¬ ok then { s with started := true }
  else { s with started := true }.install hdr

/-- `drain`: one receive, or on to the next part when the queue is empty. -/
def drainOne (s : KcpPlane) (r : Restart) : KcpPlane :=
  match s.writer.lane.queue with
  | [] => { s with restarting := some { r with phase := .swapping } }
  | _ :: queue => { s with writer.lane.queue := queue }

/-- The parts of `restart`, in the order they are carried out. -/
def restartStep (s : KcpPlane) (ok : Bool) : KcpPlane :=
  match s.restarting with
  | none => s
  | some r =>
    match r.phase with
    | .draining => s.drainOne r
    | .swapping =>
      { s with
        installed := none
        restarting := some { r with phase := .closing s.installed } }
    | .closing old =>
      { s.closeConn old with restarting := some { r with phase := .starting } }
    | .starting =>
      let s := { s with restarting := none }
      if ok then s.install r.hdr else s

def send (queueSize : ℕ) (s : KcpPlane) (call : ℕ) : KcpPlane :=
  match s.waiting[call]? with
  | none => s
  | some w =>
    if s.writer.lane.queue.length < queueSize then
      { s with
        writer.lane := s.writer.lane.enqueue w.frame
        waiting := s.waiting.eraseIdx call }
    else s

/-- A waiting call gives up because its conn was closed or its deadline has passed.  When the queue
has room as well, Go's `select` may take either way. -/
def abandon (s : KcpPlane) (call : ℕ) (expired : Bool) : KcpPlane :=
  match s.waiting[call]? with
  | none => s
  | some w =>
    if expired ∨ (s.conns[w.conn]?.map KcpConn.closed).getD false then
      { s with waiting := s.waiting.eraseIdx call }
    else s

def step (cfg : WriterConfig) (queueSize : ℕ) (s : KcpPlane) : PlaneEvent → KcpPlane
  | .start hdr ok => s.start hdr ok
  | .restart hdr =>
    if s.restarting.isSome ∨ s.closed then s else { s with restarting := some ⟨hdr, .draining⟩ }
  | .restartStep ok => s.restartStep ok
  | .close =>
    if s.restarting.isSome then s else { s.closeConn s.installed with closed := true }
  | .setHeader conn hdr =>
    { s with conns := s.conns.modify conn fun c => { c with epochHdr := hdr } }
  | .writeTo conn packet =>
    match s.conns[conn]? with
    | none => s
    | some c => { s with waiting := s.waiting ++ [⟨conn, c.stamp packet⟩] }
  | .send call => s.send queueSize call
  | .abandon call expired => s.abandon call expired
  | .tick localEpoch => { s with writer := s.writer.step cfg (.tick localEpoch) }
  | .select => { s with writer := s.writer.step cfg .select }

end KcpPlane

/-! ## Stamped frames -/

/-- A frame as `WriteTo` leaves it. -/
structure Stamped (frame : Bytes) : Prop where
  outbound : OutboundFrame frame
  header : ∃ hdr : EpochHeader, headerOf frame = hdr.bytes

@[simp] lemma EpochHeader.length_bytes (hdr : EpochHeader) : hdr.bytes.length = epochHdrLen :=
  length_buildEpochHeaderTo hdr.token hdr.src hdr.dst

lemma KcpConn.stamped_stamp (c : KcpConn) {packet : Bytes} (h : KcpPacket packet) :
    Stamped (c.stamp packet) := by
  refine ⟨outboundFrame_of_conv c.epochHdr.length_bytes ?_ ?_, c.epochHdr,
    List.take_left' c.epochHdr.length_bytes⟩
  · have hlen : 4 ≤ packet.length := by
      have := congrArg List.length h.conv
      simp only [List.length_take, kcpConvID, List.length_cons, List.length_nil] at this
      omega
    rw [List.take_append_of_le_length hlen, h.conv]
  · have := h.size
    simp only [List.length_append, length_bePut]
    omega

lemma parseEpochHeader_bytes (hdr : EpochHeader) (payload : Bytes) :
    parseEpochHeader (hdr.bytes ++ payload) = some (hdr.token, hdr.src, hdr.dst) :=
  parseEpochHeader_build hdr.token hdr.src hdr.dst payload

lemma frame_eq_append (frame : Bytes) : frame = headerOf frame ++ packetOf frame :=
  (List.take_append_drop epochHdrLen frame).symm

lemma Stamped.parse_eq_iff {f g : Bytes} (hf : Stamped f) (hg : Stamped g) (payload : Bytes) :
    parseEpochHeader (headerOf f ++ payload) = parseEpochHeader g ↔ headerOf f = headerOf g := by
  obtain ⟨hdr, hhdr⟩ := hf.header
  obtain ⟨hdr', hhdr'⟩ := hg.header
  rw [frame_eq_append g, hhdr, hhdr', parseEpochHeader_bytes, parseEpochHeader_bytes,
    headerOf, List.take_left' hdr'.length_bytes]
  refine ⟨fun h => ?_, fun h => ?_⟩
  · simp only [Option.some.injEq, Prod.mk.injEq] at h
    rw [EpochHeader.bytes, EpochHeader.bytes, h.1, h.2.1, h.2.2]
  · have hread := congrArg (fun b => parseEpochHeader (b ++ [])) h
    simp only [parseEpochHeader_bytes] at hread
    exact hread

end OlcRtc
