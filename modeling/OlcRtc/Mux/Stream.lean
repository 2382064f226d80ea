import OlcRtc.Lib.Steps
import OlcRtc.Mux.Conn

/-!
# The byte stream of a connection

Three goroutines meet at a `Conn`: the transport's callback pushes wire payloads, the reader of the
smux session calls `Read`, and somebody calls `Close` once.  They share the channel `in`, the flag
`closed` and the channel `closeCh`, and every access to one of them is a step of its own here, with
every way a `select` may go.

As long as `Close` has not been called, what was opened is what `Read` returned, what a call of
`Read` has in hand, what is left over, what is queued and what `Push` is about to queue, in this
order.  `Close` then empties the queue while `Push` may still be adding to it and `Read` may still
be taking from it, and this is where a hole can arise: a frame that is queued after older ones were
thrown away, or that is taken while `Close` takes the one before it, reaches the reader without
them.  **`stream_intact`** says that nothing else can go wrong: as long as `Read` takes no bytes out
of the queue after `Close` has thrown some away, it returns a prefix of what was opened.
-/

namespace OlcRtc

/-! ## The three goroutines -/

def inboundQueue : ℕ := 128

/-- Where `Push` stands: it has opened a payload and not yet looked at `closed`, or it is in its
`select`. -/
inductive PushPc
  | idle
  | opened (pt : Bytes)
  | sending (pt : Bytes)
deriving DecidableEq

/-- The plaintext `Push` has in hand. -/
def PushPc.inHand : PushPc → Bytes
  | .idle => []
  | .opened pt | .sending pt => pt

/-- Where `Read` stands: in the outer or in the inner `select` of `takeFrame`, or in its loop with
some bytes copied already.  `size` is the length of the caller's buffer. -/
inductive ReadPc
  | idle
  | taking (size : ℕ)
  | retaking (size : ℕ)
  | filling (size : ℕ) (got : Bytes)
deriving DecidableEq

/-- The bytes `Read` has copied and not yet returned. -/
def ReadPc.inHand : ReadPc → Bytes
  | .filling _ got => got
  | _ => []

/-- How far `Close` has come: `closed` is set, then `closeCh` is closed, then the queue is
drained. -/
inductive ClosePc
  | notCalled
  | stored
  | draining
  | done
deriving DecidableEq

/-- Whether `closeCh` is closed. -/
def ClosePc.closeCh : ClosePc → Bool
  | .notCalled | .stored => false
  | .draining | .done => true

/-- A connection with its goroutines.  `conn.inbound` is the channel `in`.  The last three fields
are logs: the plaintexts of the payloads that opened, the bytes `Read` has returned, and the frames
`Close` has thrown away. -/
structure ByteStream where
  conn : Conn
  keys : KeySet
  pushing : PushPc
  reading : ReadPc
  closing : ClosePc
  leftover : Bytes
  opened : List Bytes
  returned : Bytes
  dropped : List Bytes

/-- What may happen next.  A key set is shared, so records are opened `elsewhere` as well. -/
inductive StreamEvent
  | push (ciphertext : Bytes)
  | elsewhere (record aad : Bytes)
  | pushLoad
  | pushSend
  | pushAbort
  | read (size : ℕ)
  | take
  | takeClosed
  | retake
  | fill
  | close

namespace ByteStream

/-- `New` or `NewControl`. -/
def init (plane : Plane) (keys : KeySet) : ByteStream :=
  ⟨Conn.new plane, keys, .idle, .idle, .notCalled, [], [], [], []⟩

/-- `Push` up to its first look at `closed`. -/
def push (aead : AEAD) (s : ByteStream) (ciphertext : Bytes) : ByteStream :=
  match s.pushing with
  | .idle =>
    match s.keys.openInto aead [] ciphertext s.conn.aad with
    | (keys, .error _) => { s with keys, conn.decryptFails := s.conn.decryptFails + 1 }
    | (keys, .ok pt) => { s with keys, pushing := .opened pt, opened := s.opened ++ [pt] }
  | _ => s

/-- `closed.Load` in `Push`. -/
def pushLoad (s : ByteStream) : ByteStream :=
  match s.pushing with
  | .opened pt => { s with pushing := if s.conn.closed then .idle else .sending pt }
  | _ => s

/-- The `select` of `Push` finds room in the queue. -/
def pushSend (s : ByteStream) : ByteStream :=
  match s.pushing with
  | .sending pt =>
    if s.conn.inbound.length < inboundQueue then
      { s with pushing := .idle, conn.inbound := s.conn.inbound ++ [pt] }
    else s
  | _ => s

/-- The `select` of `Push` finds `closeCh` closed. -/
def pushAbort (s : ByteStream) : ByteStream :=
  match s.pushing with
  | .sending _ => if s.closing.closeCh then { s with pushing := .idle } else s
  | _ => s

/-- The first `copy` of `Read`, out of `data`. -/
def copyOut (s : ByteStream) (size : ℕ) (data : Bytes) : ByteStream :=
  { s with reading := .filling size (data.take size), leftover := data.drop size }

/-- `Read` up to the point where it blocks or enters its loop. -/
def read (s : ByteStream) (size : ℕ) : ByteStream :=
  match s.reading with
  | .idle =>
    if size = 0 then s
    else if s.leftover = [] then { s with reading := .taking size }
    else s.copyOut size s.leftover
  | _ => s

/-- The outer `select` of `takeFrame` receives a frame. -/
def take (s : ByteStream) : ByteStream :=
  match s.reading, s.conn.inbound with
  | .taking size, frame :: rest => { s with conn.inbound := rest }.copyOut size frame
  | _, _ => s

/-- The outer `select` of `takeFrame` finds `closeCh` closed. -/
def takeClosed (s : ByteStream) : ByteStream :=
  match s.reading with
  | .taking size => if s.closing.closeCh then { s with reading := .retaking size } else s
  | _ => s

/-- The inner `select` of `takeFrame`: a frame, or `errReadClosed`. -/
def retake (s : ByteStream) : ByteStream :=
  match s.reading, s.conn.inbound with
  | .retaking size, frame :: rest => { s with conn.inbound := rest }.copyOut size frame
  | .retaking _, [] => { s with reading := .idle }
  | _, _ => s

/-- `Read` returns what it has copied. -/
def finish (s : ByteStream) (got : Bytes) : ByteStream :=
  { s with reading := .idle, returned := s.returned ++ got }

/-- One turn of the loop of `Read`. -/
def fill (s : ByteStream) : ByteStream :=
  match s.reading with
  | .filling size got =>
    if got.length < size ∧ s.leftover = [] then
      match s.conn.inbound with
      | [] => s.finish got
      | frame :: rest =>
        { s with
          conn.inbound := rest
          reading := .filling size (got ++ frame.take (size - got.length))
          leftover := frame.drop (size - got.length) }
    else s.finish got
  | _ => s

/-- The next part of `Close`. -/
def close (s : ByteStream) : ByteStream :=
  match s.closing with
  | .notCalled => { s with closing := .stored, conn.closed := true }
  | .stored => { s with closing := .draining }
  | .draining =>
    match s.conn.inbound with
    | [] => { s with closing := .done }
    | frame :: rest => { s with conn.inbound := rest, dropped := s.dropped ++ [frame] }
  | .done => s

def step (aead : AEAD) (s : ByteStream) : StreamEvent → ByteStream
  | .push ciphertext => s.push aead ciphertext
  | .elsewhere record aad => { s with keys := (s.keys.openInto aead [] record aad).1 }
  | .pushLoad => s.pushLoad
  | .pushSend => s.pushSend
  | .pushAbort => s.pushAbort
  | .read size => s.read size
  | .take => s.take
  | .takeClosed => s.takeClosed
  | .retake => s.retake
  | .fill => s.fill
  | .close => s.close

lemma push_uninterrupted {aead : AEAD} {s : ByteStream} (hidle : s.pushing = .idle)
    (hroom : s.conn.inbound.length < inboundQueue) (ciphertext : Bytes) :
    let s' := run (step aead) s [.push ciphertext, .pushLoad, .pushSend]
    (s'.keys, s'.conn) = s.conn.push aead s.keys ciphertext := by
  intro s'
  have hs' : s' = ((s.push aead ciphertext).pushLoad).pushSend := rfl
  rw [hs', Conn.push, push, hidle]
  cases hopen : s.keys.openInto aead [] ciphertext s.conn.aad with
  | mk keys result =>
    cases result with
    | error err => simp [pushLoad, pushSend]
    | ok pt =>
      by_cases hclosed : s.conn.closed
      · simp [pushLoad, pushSend, hclosed]
      · simp [pushLoad, pushSend, hclosed, hroom]

/-! ## Where the bytes are -/

/-- Everything `Read` has taken out of the queue: returned, copied, or left over. -/
def delivered (s : ByteStream) : Bytes := s.returned ++ s.reading.inHand ++ s.leftover

/-- What an event takes out of the queue for `Read`. -/
def taken (s : ByteStream) : StreamEvent → Bytes
  | .take =>
    match s.reading, s.conn.inbound with
    | .taking _, frame :: _ => frame
    | _, _ => []
  | .retake =>
    match s.reading, s.conn.inbound with
    | .retaking _, frame :: _ => frame
    | _, _ => []
  | .fill =>
    match s.reading, s.conn.inbound with
    | .filling size got, frame :: _ =>
      if got.length < size ∧ s.leftover = [] then frame else []
    | _, _ => []
  | _ => []

/-- `Read` waits for a frame only when nothing is left over. -/
def Waits (s : ByteStream) : Prop :=
  ∀ size, s.reading = .taking size ∨ s.reading = .retaking size → s.leftover = []

variable {aead : AEAD} {s : ByteStream}

@[simp] lemma delivered_copyOut (s : ByteStream) (size : ℕ) (data : Bytes) :
    (s.copyOut size data).delivered = s.returned ++ data := by
  simp [copyOut, delivered, ReadPc.inHand]

/-- A step of `Read` moves `bytes` from the queue to the reader and touches nothing else. -/
structure Reads (s s' : ByteStream) (bytes : Bytes) : Prop where
  delivered : s'.delivered = s.delivered ++ bytes
  queue : bytes ++ s'.conn.inbound.flatten = s.conn.inbound.flatten
  waits : s'.Waits
  same : s' = { s with
    conn.inbound := s'.conn.inbound
    reading := s'.reading
    leftover := s'.leftover
    returned := s'.returned }

lemma Reads.nothing (h : s.Waits) : s.Reads s [] := ⟨by simp, by simp, h, rfl⟩

lemma waits_of_filling {size : ℕ} {got : Bytes} (h : s.reading = .filling size got) : s.Waits := by
  rintro size' (h' | h') <;> simp [h] at h'

lemma waits_of_idle (h : s.reading = .idle) : s.Waits := by
  rintro size' (h' | h') <;> simp [h] at h'

lemma reads_copyOut {frame : Bytes} {rest : List Bytes} (hq : s.conn.inbound = frame :: rest)
    (hhand : s.reading.inHand = []) (hleft : s.leftover = []) (size : ℕ) :
    s.Reads ({ s with conn.inbound := rest }.copyOut size frame) frame := by
  refine ⟨?_, by simp [copyOut, hq], waits_of_filling rfl, rfl⟩
  rw [delivered_copyOut]
  simp [delivered, hhand, hleft]

lemma reads_read (h : s.Waits) (size : ℕ) : s.Reads (s.read size) [] := by
  unfold ByteStream.read
  cases hr : s.reading with
  | idle =>
    simp only
    split_ifs with hsize hleft
    · exact Reads.nothing h
    · exact ⟨by simp [delivered, hr, ReadPc.inHand], by simp, fun _ _ => hleft, rfl⟩
    · refine ⟨?_, by simp [copyOut], waits_of_filling rfl, rfl⟩
      rw [delivered_copyOut]
      simp [delivered, hr, ReadPc.inHand]
  | _ => exact Reads.nothing h

lemma reads_take (h : s.Waits) : s.Reads s.take (s.taken .take) := by
  unfold ByteStream.take
  cases hr : s.reading with
  | taking size =>
    have hleft : s.leftover = [] := h size (Or.inl hr)
    cases hq : s.conn.inbound with
    | nil => simpa [taken, hr, hq] using Reads.nothing h
    | cons frame rest =>
      simp only [taken, hr, hq]
      rw [← hr]
      exact reads_copyOut hq (by rw [hr]; rfl) hleft size
  | _ => simpa [taken, hr] using Reads.nothing h

lemma reads_takeClosed (h : s.Waits) : s.Reads s.takeClosed [] := by
  unfold ByteStream.takeClosed
  cases hr : s.reading with
  | taking size =>
    have hleft : s.leftover = [] := h size (Or.inl hr)
    simp only
    split_ifs
    · exact ⟨by simp [delivered, hr, ReadPc.inHand], by simp, fun _ _ => hleft, rfl⟩
    · exact Reads.nothing h
  | _ => exact Reads.nothing h

lemma reads_retake (h : s.Waits) : s.Reads s.retake (s.taken .retake) := by
  unfold ByteStream.retake
  cases hr : s.reading with
  | retaking size =>
    have hleft : s.leftover = [] := h size (Or.inr hr)
    cases hq : s.conn.inbound with
    | nil =>
      simp only [taken, hr, hq]
      exact ⟨by simp [delivered, hr, ReadPc.inHand], by simp, waits_of_idle rfl, rfl⟩
    | cons frame rest =>
      simp only [taken, hr, hq]
      rw [← hr]
      exact reads_copyOut hq (by rw [hr]; rfl) hleft size
  | _ => simpa [taken, hr] using Reads.nothing h

lemma reads_finish {size : ℕ} {got : Bytes} (hr : s.reading = .filling size got) :
    s.Reads (s.finish got) [] :=
  ⟨by simp [finish, delivered, hr, ReadPc.inHand], by simp [finish], waits_of_idle rfl, rfl⟩

lemma reads_fill (h : s.Waits) : s.Reads s.fill (s.taken .fill) := by
  unfold ByteStream.fill
  cases hr : s.reading with
  | filling size got =>
    simp only [taken, hr]
    by_cases hmore : got.length < size ∧ s.leftover = []
    · rw [if_pos hmore]
      cases hq : s.conn.inbound with
      | nil => exact reads_finish hr
      | cons frame rest =>
        simp only [if_pos hmore]
        refine ⟨?_, by simp [hq], waits_of_filling rfl, rfl⟩
        simp [delivered, hr, ReadPc.inHand, hmore.2]
    · rw [if_neg hmore]
      have hnone : (match ReadPc.filling size got, s.conn.inbound with
        | .filling size got, frame :: _ =>
          if got.length < size ∧ s.leftover = [] then frame else []
        | _, _ => []) = ([] : Bytes) := by
        cases s.conn.inbound with
        | nil => rfl
        | cons frame rest => exact if_neg hmore
      rw [hnone]
      exact reads_finish hr
  | _ => simpa [taken, hr] using Reads.nothing h

/-! ## The invariant -/

/-- As long as `Close` has thrown no bytes away, what was opened is what `Read` has taken, what is
queued, and a rest.  The rest is what `Push` has in hand, unless `closed` made `Push` throw
something away, and then `Push` queues nothing any more. -/
def Accounted (s : ByteStream) : Prop :=
  ∃ rest, s.delivered ++ s.conn.inbound.flatten ++ rest = s.opened.flatten ∧
    (s.conn.closed = false ∨ (∃ pt, s.pushing = .sending pt) → rest = s.pushing.inHand)

structure Inv (s : ByteStream) : Prop where
  waits : s.Waits
  called : s.closing = .notCalled ↔ s.conn.closed = false
  kept : s.closing = .notCalled → s.dropped = []
  accounted : s.dropped.flatten = [] → s.Accounted

/-- `Read` takes no bytes out of the queue after `Close` has thrown some away. -/
def NoHole (s : ByteStream) (e : StreamEvent) : Prop := s.dropped.flatten = [] ∨ s.taken e = []

instance (s : ByteStream) (e : StreamEvent) : Decidable (s.NoHole e) :=
  inferInstanceAs (Decidable (_ ∨ _))

lemma inv_init (plane : Plane) (keys : KeySet) : (init plane keys).Inv where
  waits := waits_of_idle rfl
  called := by simp [init, Conn.new]
  kept _ := rfl
  accounted _ := ⟨[], rfl, fun _ => rfl⟩

lemma Inv.reads (h : s.Inv) {s' : ByteStream} {bytes : Bytes} (hread : s.Reads s' bytes) :
    s'.Inv := by
  have hopened : s'.opened = s.opened := by rw [hread.same]
  have hdropped : s'.dropped = s.dropped := by rw [hread.same]
  have hclosed : s'.conn.closed = s.conn.closed := by rw [hread.same]
  have hpushing : s'.pushing = s.pushing := by rw [hread.same]
  have hclosing : s'.closing = s.closing := by rw [hread.same]
  have hmoved : s'.delivered ++ s'.conn.inbound.flatten
      = s.delivered ++ s.conn.inbound.flatten := by
    rw [hread.delivered, List.append_assoc, hread.queue]
  refine ⟨hread.waits, ?_, ?_, ?_⟩
  · rw [hclosing, hclosed]
    exact h.called
  · rw [hclosing, hdropped]
    exact h.kept
  · rw [hdropped, Accounted, hmoved, hopened, hclosed, hpushing]
    exact h.accounted

lemma Inv.push (h : s.Inv) (ciphertext : Bytes) : (s.push aead ciphertext).Inv := by
  unfold ByteStream.push
  cases hp : s.pushing with
  | idle =>
    simp only
    cases s.keys.openInto aead [] ciphertext s.conn.aad with
    | mk keys result =>
      cases result with
      | error err =>
        refine ⟨h.waits, h.called, h.kept, fun hnone => ?_⟩
        obtain ⟨rest, heq, hrest⟩ := h.accounted hnone
        rw [hp] at hrest
        exact ⟨rest, heq, hrest⟩
      | ok pt =>
        refine ⟨h.waits, h.called, h.kept, fun hnone => ?_⟩
        obtain ⟨rest, heq, hrest⟩ := h.accounted hnone
        refine ⟨rest ++ pt, ?_, ?_⟩
        · show s.delivered ++ s.conn.inbound.flatten ++ (rest ++ pt)
            = (s.opened ++ [pt]).flatten
          rw [List.flatten_concat, ← heq, List.append_assoc _ rest]
        · rintro (hopen | ⟨pt', hsending⟩)
          · rw [hrest (Or.inl hopen), hp]
            rfl
          · simp at hsending
  | _ => exact h

lemma Inv.pushLoad (h : s.Inv) : s.pushLoad.Inv := by
  unfold ByteStream.pushLoad
  cases hp : s.pushing with
  | opened pt =>
    refine ⟨h.waits, h.called, h.kept, fun hnone => ?_⟩
    obtain ⟨rest, heq, hrest⟩ := h.accounted hnone
    refine ⟨rest, heq, ?_⟩
    cases hclosed : s.conn.closed with
    | true => simp
    | false =>
      intro _
      rw [hrest (Or.inl hclosed), hp]
      simp [PushPc.inHand]
  | _ => exact h

lemma Inv.pushSend (h : s.Inv) : s.pushSend.Inv := by
  unfold ByteStream.pushSend
  cases hp : s.pushing with
  | sending pt =>
    simp only
    split_ifs
    · refine ⟨h.waits, h.called, h.kept, fun hnone => ?_⟩
      obtain ⟨rest, heq, hrest⟩ := h.accounted hnone
      have hpt : rest = pt := by rw [hrest (Or.inr ⟨pt, hp⟩), hp]; rfl
      refine ⟨[], ?_, fun _ => rfl⟩
      show s.delivered ++ (s.conn.inbound ++ [pt]).flatten ++ [] = s.opened.flatten
      rw [List.append_nil, List.flatten_concat, ← heq, hpt, List.append_assoc]
    · exact h
  | _ => exact h

lemma Inv.pushAbort (h : s.Inv) : s.pushAbort.Inv := by
  unfold ByteStream.pushAbort
  cases hp : s.pushing with
  | sending pt =>
    simp only
    split_ifs with hch
    · -- `closeCh` is closed after `closed` is set, so nothing is owed any more
      have hclosed : s.conn.closed ≠ false := by
        intro hopen
        rw [h.called.mpr hopen] at hch
        simp [ClosePc.closeCh] at hch
      refine ⟨h.waits, h.called, h.kept, fun hnone => ?_⟩
      obtain ⟨rest, heq, -⟩ := h.accounted hnone
      refine ⟨rest, heq, ?_⟩
      rintro (hopen | ⟨pt', hsending⟩)
      · exact absurd hopen hclosed
      · simp at hsending
    · exact h
  | _ => exact h

lemma Inv.close (h : s.Inv) : s.close.Inv := by
  unfold ByteStream.close
  cases hc : s.closing with
  | notCalled =>
    refine ⟨h.waits, by simp, by simp, fun hnone => ?_⟩
    obtain ⟨rest, heq, hrest⟩ := h.accounted hnone
    exact ⟨rest, heq, fun _ => hrest (Or.inl (h.called.mp hc))⟩
  | stored =>
    have hclosed : s.conn.closed ≠ false := fun hopen => by simp [h.called.mpr hopen] at hc
    exact ⟨h.waits, by simp [hclosed], by simp, h.accounted⟩
  | draining =>
    have hclosed : s.conn.closed ≠ false := fun hopen => by simp [h.called.mpr hopen] at hc
    cases hq : s.conn.inbound with
    | nil => exact ⟨h.waits, by simp [hclosed], by simp, h.accounted⟩
    | cons frame rest =>
      refine ⟨h.waits, by simp [hclosed], by simp, fun hnone => ?_⟩
      -- only an empty frame leaves the account as it is
      rw [List.flatten_concat, List.append_eq_nil_iff] at hnone
      obtain ⟨rest', heq, hrest⟩ := h.accounted hnone.1
      refine ⟨rest', ?_, hrest⟩
      rw [hq, List.flatten_cons, hnone.2] at heq
      exact heq
  | done => exact h

/-- **One step.** -/
lemma Inv.step (h : s.Inv) (e : StreamEvent) : (s.step aead e).Inv := by
  cases e with
  | push ciphertext => exact h.push ciphertext
  | elsewhere record aad => exact ⟨h.waits, h.called, h.kept, h.accounted⟩
  | pushLoad => exact h.pushLoad
  | pushSend => exact h.pushSend
  | pushAbort => exact h.pushAbort
  | read size => exact h.reads (reads_read h.waits size)
  | take => exact h.reads (reads_take h.waits)
  | takeClosed => exact h.reads (reads_takeClosed h.waits)
  | retake => exact h.reads (reads_retake h.waits)
  | fill => exact h.reads (reads_fill h.waits)
  | close => exact h.close

/-! ## A prefix of what was opened -/

/-- The reader is handed nothing, and what was opened stays opened. -/
structure Quiet (s s' : ByteStream) : Prop where
  delivered : s'.delivered = s.delivered
  opened : s.opened <+: s'.opened

lemma Quiet.refl (s : ByteStream) : s.Quiet s := ⟨rfl, List.prefix_rfl⟩

lemma quiet_push (s : ByteStream) (ciphertext : Bytes) : s.Quiet (s.push aead ciphertext) := by
  unfold ByteStream.push
  split
  · split
    · exact ⟨rfl, List.prefix_rfl⟩
    · exact ⟨rfl, List.prefix_append _ _⟩
  · exact Quiet.refl s

lemma quiet_pushLoad (s : ByteStream) : s.Quiet s.pushLoad := by
  unfold ByteStream.pushLoad
  split
  · exact ⟨rfl, List.prefix_rfl⟩
  · exact Quiet.refl s

lemma quiet_pushSend (s : ByteStream) : s.Quiet s.pushSend := by
  unfold ByteStream.pushSend
  split
  · split_ifs
    · exact ⟨rfl, List.prefix_rfl⟩
    · exact Quiet.refl s
  · exact Quiet.refl s

lemma quiet_pushAbort (s : ByteStream) : s.Quiet s.pushAbort := by
  unfold ByteStream.pushAbort
  split
  · split_ifs
    · exact ⟨rfl, List.prefix_rfl⟩
    · exact Quiet.refl s
  · exact Quiet.refl s

lemma quiet_close (s : ByteStream) : s.Quiet s.close := by
  unfold ByteStream.close
  split
  · exact ⟨rfl, List.prefix_rfl⟩
  · exact ⟨rfl, List.prefix_rfl⟩
  · split
    · exact ⟨rfl, List.prefix_rfl⟩
    · exact ⟨rfl, List.prefix_rfl⟩
  · exact Quiet.refl s

lemma Accounted.soFar (h : s.Accounted) : s.delivered <+: s.opened.flatten := by
  obtain ⟨rest, heq, -⟩ := h
  rw [List.append_assoc] at heq
  exact ⟨_, heq⟩

lemma soFar_of_quiet {s' : ByteStream} (hq : s.Quiet s') (h : s.delivered <+: s.opened.flatten) :
    s'.delivered <+: s'.opened.flatten := by
  obtain ⟨more, hmore⟩ := hq.opened
  rw [hq.delivered, ← hmore, List.flatten_append]
  exact h.trans (List.prefix_append _ _)

lemma soFar_of_reads {s' : ByteStream} {bytes : Bytes} (hinv : s'.Inv) (hread : s.Reads s' bytes)
    (hok : s.dropped.flatten = [] ∨ bytes = []) (h : s.delivered <+: s.opened.flatten) :
    s'.delivered <+: s'.opened.flatten := by
  have hdropped : s'.dropped = s.dropped := by rw [hread.same]
  have hopened : s'.opened = s.opened := by rw [hread.same]
  rcases hok with hnone | hempty
  · exact (hinv.accounted (by rw [hdropped]; exact hnone)).soFar
  · rw [hread.delivered, hempty, List.append_nil, hopened]
    exact h

lemma soFar_step (hinv : s.Inv) {e : StreamEvent} (hok : s.NoHole e)
    (h : s.delivered <+: s.opened.flatten) :
    (s.step aead e).delivered <+: (s.step aead e).opened.flatten := by
  have hinv' : (s.step aead e).Inv := hinv.step e
  cases e with
  | push ciphertext => exact soFar_of_quiet (quiet_push s ciphertext) h
  | elsewhere record aad => exact h
  | pushLoad => exact soFar_of_quiet (quiet_pushLoad s) h
  | pushSend => exact soFar_of_quiet (quiet_pushSend s) h
  | pushAbort => exact soFar_of_quiet (quiet_pushAbort s) h
  | read size => exact soFar_of_reads hinv' (reads_read hinv.waits size) (Or.inr rfl) h
  | take => exact soFar_of_reads hinv' (reads_take hinv.waits) hok h
  | takeClosed => exact soFar_of_reads hinv' (reads_takeClosed hinv.waits) (Or.inr rfl) h
  | retake => exact soFar_of_reads hinv' (reads_retake hinv.waits) hok h
  | fill => exact soFar_of_reads hinv' (reads_fill hinv.waits) hok h
  | close => exact soFar_of_quiet (quiet_close s) h

lemma push_of_error {ciphertext : Bytes} {err : CryptoError}
    (herr : (s.keys.openInto aead [] ciphertext s.conn.aad).2 = .error err) :
    s.push aead ciphertext = if s.pushing = .idle then
      { s with
        keys := (s.keys.openInto aead [] ciphertext s.conn.aad).1
        conn.decryptFails := s.conn.decryptFails + 1 }
      else s := by
  unfold ByteStream.push
  cases hp : s.pushing with
  | idle =>
    grind
  | _ => simp

/-- **The stream has no hole**, in any run of one pushing and one reading goroutine and one `Close`.
A payload that does not open adds nothing. -/
theorem stream_intact (aead : AEAD) (plane : Plane) (keys : KeySet) (events : List StreamEvent) :
    let s := run (ByteStream.step aead) (init plane keys) events
    (s.closing = .notCalled →
      s.returned ++ s.reading.inHand ++ s.leftover ++ s.conn.inbound.flatten ++ s.pushing.inHand
        = s.opened.flatten) ∧
    (Along (ByteStream.step aead) NoHole (init plane keys) events →
      s.returned <+: s.opened.flatten) ∧
    ∀ ciphertext err, (s.keys.openInto aead [] ciphertext s.conn.aad).2 = .error err →
      let s' := s.step aead (.push ciphertext)
      s'.opened = s.opened ∧ s'.pushing = s.pushing ∧ s'.conn.inbound = s.conn.inbound := by
  intro s
  have hinv : s.Inv :=
    run_invariant_of_step _ (fun _ e hs => hs.step e) (inv_init plane keys) events
  refine ⟨fun hopen => ?_, fun hok => ?_, fun ciphertext err herr => ?_⟩
  · have hnone : s.dropped.flatten = [] := by rw [hinv.kept hopen]; rfl
    obtain ⟨rest, heq, hrest⟩ := hinv.accounted hnone
    rw [← hrest (Or.inl (hinv.called.mp hopen))]
    exact heq
  · have hsoFar : s.Inv ∧ s.delivered <+: s.opened.flatten :=
      run_invariant (I := fun s => s.Inv ∧ s.delivered <+: s.opened.flatten) _
        (fun _ e hs he => ⟨hs.1.step e, soFar_step hs.1 he hs.2⟩)
        ⟨inv_init plane keys, List.nil_prefix⟩ hok
    have hreturned : s.returned <+: s.delivered := by
      rw [delivered, List.append_assoc]
      exact List.prefix_append _ _
    exact hreturned.trans hsoFar.2
  · intro s'
    have hs' : s' = s.push aead ciphertext := rfl
    rw [hs', push_of_error herr]
    split_ifs
    · exact ⟨rfl, rfl, rfl⟩
    · exact ⟨rfl, rfl, rfl⟩

/-- Two frames arrive and the first is queued; `Push` has the second in hand when `Close` comes and
empties the queue.  The `select` of `Push` finds both `closeCh` closed and room in the queue, and
takes the room; a `Read` takes the frame.  What it returns is not how the stream begins. -/
theorem stream_hole_racingClose :
    let clientKey : Key := List.Vector.replicate 32 1
    let serverKey : Key := List.Vector.replicate 32 2
    let seed : NoncePrefix := List.Vector.replicate 16 9
    let sender : KeySet := ⟨clientKey, seed, 0, serverKey, ReplayCache.empty⟩
    let receiver : KeySet := ⟨serverKey, seed, 0, clientKey, ReplayCache.empty⟩
    let aead := AEAD.ofLedger [⟨clientKey, recordNonce seed 1, [1], dataRecordAAD⟩,
      ⟨clientKey, recordNonce seed 2, [2], dataRecordAAD⟩]
    let record (n : BitVec 64) (b : UInt8) := sender.sealAt aead n [] [b] dataRecordAAD
    let events : List StreamEvent :=
      [.push (record 1 1), .pushLoad, .pushSend, .push (record 2 2), .pushLoad,
        .close, .close, .close, .pushSend, .read 16, .take, .fill]
    let s := run (ByteStream.step aead) (init .data receiver) events
    s.opened = [[1], [2]] ∧ s.returned = [2] ∧ ¬ s.returned <+: s.opened.flatten := by
  decide +kernel

/-- The same frames, read into a buffer of one byte and then into a larger one while a corrupted
payload arrives and `Close` comes; the second frame is thrown away, and the reader has the
first. -/
theorem stream_intact_closed :
    let clientKey : Key := List.Vector.replicate 32 1
    let serverKey : Key := List.Vector.replicate 32 2
    let seed : NoncePrefix := List.Vector.replicate 16 9
    let sender : KeySet := ⟨clientKey, seed, 0, serverKey, ReplayCache.empty⟩
    let receiver : KeySet := ⟨serverKey, seed, 0, clientKey, ReplayCache.empty⟩
    let aead := AEAD.ofLedger [⟨clientKey, recordNonce seed 1, [1, 5], dataRecordAAD⟩,
      ⟨clientKey, recordNonce seed 2, [2], dataRecordAAD⟩]
    let record (n : BitVec 64) (pt : Bytes) := sender.sealAt aead n [] pt dataRecordAAD
    let events : List StreamEvent :=
      [.push (record 1 [1, 5]), .pushLoad, .pushSend, .push (record 3 [3]), .read 1, .take, .fill,
        .push (record 2 [2]), .pushLoad, .pushSend, .close, .close, .close, .read 16, .fill]
    let s := run (ByteStream.step aead) (init .data receiver) events
    s.opened = [[1, 5], [2]] ∧ s.returned = [1, 5] ∧ s.returned <+: s.opened.flatten := by
  refine ⟨by decide +kernel, by decide +kernel, ?_⟩
  exact (stream_intact _ _ _ _).2.1 (by decide +kernel)

end ByteStream

end OlcRtc
