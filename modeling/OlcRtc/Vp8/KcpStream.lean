import OlcRtc.Lib.Bytes
import OlcRtc.Lib.Lists
import OlcRtc.Lib.Slice
import OlcRtc.Lib.Steps

/-!
# Messages over a KCP byte stream

KCP runs in stream mode and keeps no message boundaries, so `kcpRuntime.send` puts a four-byte
length in front of every message and `readLoop` cuts the stream by these lengths.  Senders are
concurrent; `writeMu` serialises them and guards the one buffer in which each frame is put together
for a single `Write`.  KCP itself is the pipe between the two ends: what a `Write` took comes out
contiguously and in order, in pieces of any size.

`Session` is both ends and the pipe.  A call of `send` takes its steps one by one among those of
the other calls, and `read n` is a `Read` that finds `n` bytes, in the middle of an `io.ReadFull`.
`serialised` keeps the calls whose `Write` went through, in the order in which it did.

Two invariants carry the result.  On the sending side the call that holds `writeMu` is the only one
that touches the buffer, so what it writes is its own frame (`Framed`).  On the receiving side what
the reader has of the current frame, followed by the pipe, is the frames of the messages still to
come (`Pending`), however the pieces fall.  **`messages_carried`** puts the two together.
-/

namespace OlcRtc.Kcp

def kcpLenPrefix : ℕ := 4

def kcpMaxMessage : ℕ := 8 * 1024 * 1024

/-- What a call of `send` returns; `tooLarge` is `ErrKCPMessageTooLarge`. -/
inductive SendReturn
  | ok
  | tooLarge
  | writeFailed
deriving DecidableEq, Repr

/-- How far a call of `send` has come. -/
inductive CallPhase
  | locking
  | locked
  | framed
  | returned (result : SendReturn)
deriving DecidableEq, Repr

/-- A call of `send`. -/
structure SendCall where
  msg : Bytes
  phase : CallPhase
deriving DecidableEq, Repr

/-- Which `io.ReadFull` the reader is in. -/
inductive ReadPhase
  | header
  | payload (size : ℕ)
deriving DecidableEq, Repr

/-- `readLoop`: the part of the buffer that is filled, and whether the loop has returned. -/
structure FrameReader where
  phase : ReadPhase
  filled : Bytes
  returned : Bool
deriving DecidableEq, Repr

namespace FrameReader

def init : FrameReader := ⟨.header, [], false⟩

/-- The length of the buffer that `io.ReadFull` fills. -/
def want (r : FrameReader) : ℕ :=
  match r.phase with
  | .header => kcpLenPrefix
  | .payload size => size

/-- The loop goes on with a full buffer: the message for `onData`, if it was a payload. -/
def complete (phase : ReadPhase) (full : Bytes) : FrameReader × List Bytes :=
  match phase with
  | .header =>
    if beGet full = 0 then (init, [])
    else if kcpMaxMessage < beGet full then (⟨.header, full, true⟩, [])
    else (⟨.payload (beGet full), [], false⟩, [])
  | .payload _ => (init, [full])

/-- A `Read` that finds `n` bytes, or as many as fit into the rest of the buffer. -/
def chunk (r : FrameReader) (n : ℕ) (pipe : Bytes) : Bytes :=
  pipe.take (min n (r.want - r.filled.length))

def read (r : FrameReader) (n : ℕ) (pipe : Bytes) : FrameReader × List Bytes :=
  if r.filled.length + (r.chunk n pipe).length < r.want then
    ({ r with filled := r.filled ++ r.chunk n pipe }, [])
  else complete r.phase (r.filled ++ r.chunk n pipe)

end FrameReader

/-- The framing of `send`, in the reused buffer. -/
def frameInto (writeBuf : Slice UInt8) (msg : Bytes) : Slice UInt8 :=
  ((writeBuf.resize (kcpLenPrefix + msg.length)).copy (bePut kcpLenPrefix msg.length)).copyAt
    kcpLenPrefix msg

/-- Both ends of a KCP session and what is on its way.  `serialised` are the calls whose `Write`
succeeded, in that order, and `delivered` the messages given to `onData`. -/
structure Session where
  calls : List SendCall
  writeMu : Option ℕ
  writeBuf : Slice UInt8
  pipe : Bytes
  reader : FrameReader
  serialised : List (ℕ × Bytes)
  delivered : List Bytes

/-- What happens; `readError` is a `Read` that fails. -/
inductive Event
  | send (msg : Bytes)
  | lock (call : ℕ)
  | frame (call : ℕ)
  | write (call : ℕ) (ok : Bool)
  | read (n : ℕ)
  | readError
deriving DecidableEq

namespace Session

def init : Session := ⟨[], none, Slice.nil, [], FrameReader.init, [], []⟩

def setPhase (s : Session) (i : ℕ) (msg : Bytes) (phase : CallPhase) : List SendCall :=
  s.calls.set i ⟨msg, phase⟩

/-- The size check of `send`; a call that passes it waits for `writeMu`. -/
def send (s : Session) (msg : Bytes) : Session :=
  { s with calls := s.calls ++
      [⟨msg, if kcpMaxMessage < msg.length then .returned .tooLarge else .locking⟩] }

def lock (s : Session) (i : ℕ) : Session :=
  match s.calls[i]? with
  | some ⟨msg, .locking⟩ =>
    if s.writeMu = none then { s with writeMu := some i, calls := s.setPhase i msg .locked }
    else s
  | _ => s

def frame (s : Session) (i : ℕ) : Session :=
  match s.calls[i]? with
  | some ⟨msg, .locked⟩ =>
    { s with writeBuf := frameInto s.writeBuf msg, calls := s.setPhase i msg .framed }
  | _ => s

/-- The `Write`, and the end of the call. -/
def write (s : Session) (i : ℕ) (ok : Bool) : Session :=
  match s.calls[i]? with
  | some ⟨msg, .framed⟩ =>
    if ok then
      { s with
        writeMu := none
        calls := s.setPhase i msg (.returned .ok)
        pipe := s.pipe ++ s.writeBuf.content
        serialised := s.serialised ++ [(i, msg)] }
    else { s with writeMu := none, calls := s.setPhase i msg (.returned .writeFailed) }
  | _ => s

def read (s : Session) (n : ℕ) : Session :=
  if s.reader.returned then s
  else
    { s with
      pipe := s.pipe.drop (s.reader.chunk n s.pipe).length
      reader := (s.reader.read n s.pipe).1
      delivered := s.delivered ++ (s.reader.read n s.pipe).2 }

def step (s : Session) : Event → Session
  | .send msg => s.send msg
  | .lock i => s.lock i
  | .frame i => s.frame i
  | .write i ok => s.write i ok
  | .read n => s.read n
  | .readError => { s with reader := { s.reader with returned := true } }

/-- The messages to be delivered: the non-empty ones, in the order of their writes. -/
def messages (s : Session) : List Bytes := (s.serialised.map Prod.snd).filter (· ≠ [])

end Session

/-! ## The receiving side -/

def frameOf (msg : Bytes) : Bytes := bePut kcpLenPrefix msg.length ++ msg

lemma content_frameInto (writeBuf : Slice UInt8) (msg : Bytes) :
    (frameInto writeBuf msg).content = frameOf msg := by
  have h := Slice.content_copy_copyAt writeBuf (bePut kcpLenPrefix msg.length) msg
  rwa [length_bePut] at h

lemma take_append_drop_take (k : ℕ) (l : Bytes) : l.take k ++ l.drop (l.take k).length = l := by
  rw [List.length_take]
  rcases Nat.le_total k l.length with h | h
  · rw [Nat.min_eq_left h, List.take_append_drop]
  · rw [Nat.min_eq_right h, List.take_of_length_le h, List.drop_length, List.append_nil]

/-- The reader, and then the pipe, hold the messages `rest`, of which none has been delivered. -/
inductive Pending : FrameReader → Bytes → List Bytes → Prop
  | header {filled pipe : Bytes} {rest : List Bytes} (hfilled : filled.length < kcpLenPrefix)
      (hbytes : filled ++ pipe = (rest.map frameOf).flatten) :
      Pending ⟨.header, filled, false⟩ pipe rest
  | payload {filled pipe msg : Bytes} {rest : List Bytes} (hfilled : filled.length < msg.length)
      (hbytes : filled ++ pipe = msg ++ (rest.map frameOf).flatten) :
      Pending ⟨.payload msg.length, filled, false⟩ pipe (msg :: rest)

namespace Pending

variable {r : FrameReader} {pipe : Bytes} {rest : List Bytes}

lemma filled_lt (h : Pending r pipe rest) : r.filled.length < r.want := by
  cases h with
  | header hfilled _ => exact hfilled
  | payload hfilled _ => exact hfilled

lemma returned_eq (h : Pending r pipe rest) : r.returned = false := by
  cases h with
  | header _ _ => rfl
  | payload _ _ => rfl

lemma rest_eq_nil (h : Pending r [] rest) : rest = [] := by
  cases h with
  | header hfilled hbytes =>
    cases rest with
    | nil => rfl
    | cons msg rest =>
      have hlen := congrArg List.length hbytes
      rw [List.append_nil, List.map_cons, List.flatten_cons, frameOf, List.length_append,
        List.length_append, length_bePut] at hlen
      omega
  | payload hfilled hbytes =>
    grind

lemma write (h : Pending r pipe rest) (msg : Bytes) :
    Pending r (pipe ++ frameOf msg) (rest ++ [msg]) := by
  have hflat : ∀ msgs : List Bytes, ((msgs ++ [msg]).map frameOf).flatten =
      (msgs.map frameOf).flatten ++ frameOf msg := by
    intro msgs
    rw [List.map_append, List.flatten_append, List.map_singleton, List.flatten_singleton]
  cases h with
  | header hfilled hbytes =>
    refine .header hfilled ?_
    rw [hflat, ← hbytes, List.append_assoc]
  | payload hfilled hbytes =>
    rw [List.cons_append]
    refine .payload hfilled ?_
    rw [hflat, ← List.append_assoc, ← List.append_assoc, hbytes]

lemma full_eq {filled pipe part tail : Bytes} {n : ℕ} (hbytes : filled ++ pipe = part ++ tail)
    (hfull : ¬filled.length + (pipe.take (min n (part.length - filled.length))).length <
      part.length) (hfilled : filled.length < part.length) :
    filled ++ pipe.take (min n (part.length - filled.length)) = part ∧
      pipe.drop (pipe.take (min n (part.length - filled.length))).length = tail := by
  have hlen : (filled ++ pipe.take (min n (part.length - filled.length))).length =
      part.length := by
    rw [List.length_append]
    rw [List.length_take] at hfull ⊢
    omega
  refine List.append_inj ?_ hlen
  rw [List.append_assoc, take_append_drop_take, hbytes]

/-- **One `Read`.**  The messages that come to an end in it are delivered, unless they are empty,
and the others are still to come. -/
lemma read (h : Pending r pipe rest) (hshort : ∀ msg ∈ rest, msg.length ≤ kcpMaxMessage) (n : ℕ) :
    ∃ finished rest', rest = finished ++ rest' ∧ (r.read n pipe).2 = finished.filter (· ≠ []) ∧
      Pending (r.read n pipe).1 (pipe.drop (r.chunk n pipe).length) rest' := by
  by_cases hpart : r.filled.length + (r.chunk n pipe).length < r.want
  · -- the buffer is not full yet
    rw [FrameReader.read, if_pos hpart]
    refine ⟨[], rest, rfl, rfl, ?_⟩
    rw [← List.length_append] at hpart
    have hsame : ∀ filled : Bytes, filled ++ r.chunk n pipe ++
        pipe.drop (r.chunk n pipe).length = filled ++ pipe := by
      intro filled
      rw [List.append_assoc, FrameReader.chunk, take_append_drop_take]
    cases h with
    | header hfilled hbytes => exact .header hpart (by rw [hsame, hbytes])
    | payload hfilled hbytes => exact .payload hpart (by rw [hsame, hbytes])
  · rw [FrameReader.read, if_neg hpart]
    cases h with
    | @header filled pipe rest hfilled hbytes =>
      cases rest with
      | nil =>
        -- no message to come, so nothing to fill the buffer with
        have hnil : filled = [] ∧ pipe = [] := List.append_eq_nil_iff.1 hbytes
        obtain ⟨rfl, rfl⟩ := hnil
        refine absurd ?_ hpart
        simp [FrameReader.chunk, FrameReader.want, kcpLenPrefix]
      | cons msg rest =>
        rw [List.map_cons, List.flatten_cons, frameOf, List.append_assoc] at hbytes
        have hsize : (bePut kcpLenPrefix msg.length).length = kcpLenPrefix := length_bePut _ _
        have hlen : msg.length ≤ kcpMaxMessage := hshort msg (List.mem_cons_self ..)
        have hget : beGet (bePut kcpLenPrefix msg.length) = msg.length :=
          beGet_bePut (lt_of_le_of_lt hlen (by decide))
        obtain ⟨hhdr, htail⟩ := full_eq (n := n) hbytes (by rw [hsize]; exact hpart)
          (by rw [hsize]; exact hfilled)
        rw [hsize] at hhdr htail
        have hchunk : FrameReader.chunk ⟨.header, filled, false⟩ n pipe =
            pipe.take (min n (kcpLenPrefix - filled.length)) := rfl
        simp only [hchunk, hhdr, htail, FrameReader.complete, hget]
        by_cases hempty : msg.length = 0
        · rw [if_pos hempty]
          obtain rfl := List.eq_nil_of_length_eq_zero hempty
          exact ⟨[[]], rest, rfl, rfl, .header (by decide) rfl⟩
        · rw [if_neg hempty, if_neg (Nat.not_lt.2 hlen)]
          exact ⟨[], msg :: rest, rfl, rfl, .payload (Nat.pos_of_ne_zero hempty) rfl⟩
    | @payload filled pipe msg rest hfilled hbytes =>
      obtain ⟨hmsg, htail⟩ := full_eq (n := n) hbytes hpart hfilled
      have hchunk : FrameReader.chunk ⟨.payload msg.length, filled, false⟩ n pipe =
          pipe.take (min n (msg.length - filled.length)) := rfl
      simp only [hchunk, hmsg, htail, FrameReader.complete]
      have hne : msg ≠ [] := by
        grind
      refine ⟨[msg], rest, rfl, ?_, .header (by decide) rfl⟩
      rw [List.filter_singleton, decide_eq_true hne]
      rfl

end Pending

/-! ## The sending side -/

namespace Session

variable {s : Session}

/-- The holder of `writeMu` has the buffer to itself, and `serialised` is what the calls did. -/
structure Framed (s : Session) : Prop where
  short : ∀ (i : ℕ) (c : SendCall), s.calls[i]? = some c → c.phase ≠ .returned .tooLarge →
    c.msg.length ≤ kcpMaxMessage
  owner : ∀ (i : ℕ) (c : SendCall), s.calls[i]? = some c → c.phase = .locked ∨ c.phase = .framed →
    s.writeMu = some i
  buffer : ∀ (i : ℕ) (c : SendCall), s.calls[i]? = some c → c.phase = .framed →
    s.writeBuf.content = frameOf c.msg
  nodup : (s.serialised.map Prod.fst).Nodup
  mem_iff : ∀ i msg, (i, msg) ∈ s.serialised ↔ s.calls[i]? = some ⟨msg, .returned .ok⟩

lemma framed_init : init.Framed where
  short i c hc := by cases hc
  owner i c hc := by cases hc
  buffer i c hc := by cases hc
  nodup := List.nodup_nil
  mem_iff i msg := ⟨fun h => (nomatch h), fun h => (nomatch h)⟩

/-- Replacing the record of a call by one that has not returned `ok`, when it had not before, does
not change which calls have. -/
lemma mem_iff_set (h : s.Framed) {i : ℕ} {msg : Bytes} {phase phase' : CallPhase}
    (hc : s.calls[i]? = some ⟨msg, phase⟩) (hphase : phase ≠ .returned .ok)
    (hphase' : phase' ≠ .returned .ok) (j : ℕ) (m : Bytes) :
    (j, m) ∈ s.serialised ↔ (s.setPhase i msg phase')[j]? = some ⟨m, .returned .ok⟩ := by
  rw [h.mem_iff, setPhase]
  by_cases hij : i = j
  · grind
  · rw [List.getElem?_set_ne hij]

lemma short_set (h : s.Framed) {i : ℕ} {msg : Bytes} {phase phase' : CallPhase}
    (hc : s.calls[i]? = some ⟨msg, phase⟩) (hphase : phase ≠ .returned .tooLarge) (j : ℕ)
    (c : SendCall) (hj : (s.setPhase i msg phase')[j]? = some c)
    (hc' : c.phase ≠ .returned .tooLarge) : c.msg.length ≤ kcpMaxMessage := by
  rcases getElem?_set_cases hj with ⟨rfl, rfl⟩ | ⟨-, hj⟩
  · exact h.short j ⟨msg, phase⟩ hc hphase
  · exact h.short j c hj hc'

lemma Framed.send (h : s.Framed) (msg : Bytes) : (s.send msg).Framed where
  short i c hc hphase := by
    rcases getElem?_concat_cases hc with ⟨-, rfl⟩ | hc
    · grind
    · exact h.short i c hc hphase
  owner i c hc hphase := by
    rcases getElem?_concat_cases hc with ⟨-, rfl⟩ | hc
    · split_ifs at hphase <;> simp at hphase
    · exact h.owner i c hc hphase
  buffer i c hc hphase := by
    rcases getElem?_concat_cases hc with ⟨-, rfl⟩ | hc
    · split_ifs at hphase
    · exact h.buffer i c hc hphase
  nodup := h.nodup
  mem_iff i m := by
    show (i, m) ∈ s.serialised ↔ _
    rw [h.mem_iff]
    constructor
    · intro hc
      show (s.calls ++ _)[i]? = _
      rw [List.getElem?_append_left (List.getElem?_eq_some_iff.1 hc).1, hc]
    · intro hc
      rcases getElem?_concat_cases hc with ⟨-, heq⟩ | hc
      · split_ifs at heq <;> simp at heq
      · exact hc

lemma Framed.lock (h : s.Framed) (i : ℕ) : (s.lock i).Framed := by
  unfold Session.lock
  split
  · rename_i msg hc
    split_ifs with hfree
    · refine ⟨?_, ?_, ?_, h.nodup, mem_iff_set h hc (by simp) (by simp)⟩
      · exact short_set h hc (by simp)
      · intro j c hj hphase
        rcases getElem?_set_cases hj with ⟨rfl, rfl⟩ | ⟨-, hj⟩
        · rfl
        · -- nobody was past the lock while it was free
          have := h.owner j c hj hphase
          rw [hfree] at this
          cases this
      · intro j c hj hphase
        rcases getElem?_set_cases hj with ⟨rfl, rfl⟩ | ⟨-, hj⟩
        · cases hphase
        · exact h.buffer j c hj hphase
    · exact h
  · exact h

lemma Framed.frame (h : s.Framed) (i : ℕ) : (s.frame i).Framed := by
  unfold Session.frame
  split
  · rename_i msg hc
    have howner := h.owner i _ hc (Or.inl rfl)
    refine ⟨?_, ?_, ?_, h.nodup, mem_iff_set h hc (by simp) (by simp)⟩
    · exact short_set h hc (by simp)
    · intro j c hj hphase
      rcases getElem?_set_cases hj with ⟨rfl, rfl⟩ | ⟨-, hj⟩
      · exact howner
      · exact h.owner j c hj hphase
    · intro j c hj hphase
      rcases getElem?_set_cases hj with ⟨rfl, rfl⟩ | ⟨hne, hj⟩
      · exact content_frameInto s.writeBuf msg
      · -- the buffer belongs to the call that holds the lock
        have := h.owner j c hj (Or.inr hphase)
        rw [howner, Option.some.injEq] at this
        exact absurd this.symm hne
  · exact h

lemma not_past_of_set (h : s.Framed) {i : ℕ} {msg : Bytes} {result : SendReturn}
    (hc : s.calls[i]? = some ⟨msg, .framed⟩) {j : ℕ} {c : SendCall}
    (hj : (s.setPhase i msg (.returned result))[j]? = some c) :
    ¬(c.phase = .locked ∨ c.phase = .framed) := by
  intro hphase
  rcases getElem?_set_cases hj with ⟨rfl, rfl⟩ | ⟨hne, hj⟩
  · simp at hphase
  · have hi := h.owner i _ hc (Or.inr rfl)
    rw [h.owner j c hj hphase, Option.some.injEq] at hi
    exact hne hi

lemma Framed.write (h : s.Framed) (i : ℕ) (ok : Bool) : (s.write i ok).Framed := by
  unfold Session.write
  split
  · rename_i msg hc
    have hlt := (List.getElem?_eq_some_iff.1 hc).1
    have hnew : ∀ j m, (j, m) ∈ s.serialised → j ≠ i := by
      rintro j m hmem rfl
      rw [h.mem_iff, hc] at hmem
      cases hmem
    split_ifs
    · refine ⟨?_, ?_, ?_, ?_, ?_⟩
      · exact short_set h hc (by simp)
      · intro j c hj hphase
        exact absurd hphase (not_past_of_set h hc hj)
      · intro j c hj hphase
        exact absurd (Or.inr hphase) (not_past_of_set h hc hj)
      · rw [List.map_append, List.nodup_append]
        refine ⟨h.nodup, List.nodup_singleton _, ?_⟩
        intro j hj k hk
        obtain ⟨⟨j, m⟩, hmem, rfl⟩ := List.mem_map.1 hj
        rw [List.map_singleton, List.mem_singleton] at hk
        rw [hk]
        exact hnew j m hmem
      · intro j m
        rw [List.mem_append, List.mem_singleton, h.mem_iff, setPhase]
        by_cases hij : i = j
        · grind
        · grind
    · refine ⟨?_, ?_, ?_, h.nodup, mem_iff_set h hc (by simp) (by simp)⟩
      · exact short_set h hc (by simp)
      · intro j c hj hphase
        exact absurd hphase (not_past_of_set h hc hj)
      · intro j c hj hphase
        exact absurd (Or.inr hphase) (not_past_of_set h hc hj)
  · exact h

/-! ## The two together -/

/-- Of the messages written, some are delivered, as far as they are not empty, and the others are
in the reader and the pipe unless the reader has given up. -/
def Reading (s : Session) : Prop :=
  ∃ done rest, s.serialised.map Prod.snd = done ++ rest ∧ s.delivered = done.filter (· ≠ []) ∧
    (s.reader.returned = false → Pending s.reader s.pipe rest)

structure Inv (s : Session) : Prop where
  framed : s.Framed
  reading : s.Reading

lemma inv_init : init.Inv :=
  ⟨framed_init, [], [], rfl, rfl, fun _ => .header (by decide) rfl⟩

lemma Inv.short (h : s.Inv) {msg : Bytes} (hmsg : msg ∈ s.serialised.map Prod.snd) :
    msg.length ≤ kcpMaxMessage := by
  obtain ⟨⟨i, m⟩, hmem, rfl⟩ := List.mem_map.1 hmsg
  exact h.framed.short i _ ((h.framed.mem_iff i m).1 hmem) (by simp)

lemma Inv.write (h : s.Inv) (i : ℕ) (ok : Bool) : (s.write i ok).Inv := by
  refine ⟨h.framed.write i ok, ?_⟩
  obtain ⟨done, rest, hwritten, hdelivered, hpending⟩ := h.reading
  unfold Session.write
  split
  · rename_i msg hc
    split_ifs
    · refine ⟨done, rest ++ [msg], ?_, hdelivered, fun hopen => ?_⟩
      · grind
      · have hbuffer : s.writeBuf.content = frameOf msg := h.framed.buffer i _ hc rfl
        rw [hbuffer]
        exact (hpending hopen).write msg
    · exact ⟨done, rest, hwritten, hdelivered, hpending⟩
  · exact ⟨done, rest, hwritten, hdelivered, hpending⟩

lemma Inv.read (h : s.Inv) (n : ℕ) : (s.read n).Inv := by
  unfold Session.read
  split_ifs with hreturned
  · exact h
  · obtain ⟨done, rest, hwritten, hdelivered, hpending⟩ := h.reading
    have hshort : ∀ msg ∈ rest, msg.length ≤ kcpMaxMessage := by
      intro msg hmsg
      refine h.short ?_
      rw [hwritten]
      exact List.mem_append_right _ hmsg
    obtain ⟨finished, rest', rfl, hout, hrest⟩ :=
      (hpending (by simpa using hreturned)).read hshort n
    refine ⟨⟨h.framed.short, h.framed.owner, h.framed.buffer, h.framed.nodup, h.framed.mem_iff⟩,
      done ++ finished, rest', ?_, ?_, fun _ => hrest⟩
    · rw [List.append_assoc]
      exact hwritten
    · grind

lemma Inv.step (h : s.Inv) (e : Event) : (s.step e).Inv := by
  cases e with
  | send msg => exact ⟨h.framed.send msg, h.reading⟩
  | lock i =>
    refine ⟨h.framed.lock i, ?_⟩
    show (s.lock i).Reading
    unfold Session.lock
    split
    · split_ifs
      · exact h.reading
      · exact h.reading
    · exact h.reading
  | frame i =>
    refine ⟨h.framed.frame i, ?_⟩
    show (s.frame i).Reading
    unfold Session.frame
    split
    · exact h.reading
    · exact h.reading
  | write i ok => exact h.write i ok
  | read n => exact h.read n
  | readError =>
    obtain ⟨done, rest, hwritten, hdelivered, -⟩ := h.reading
    exact ⟨⟨h.framed.short, h.framed.owner, h.framed.buffer, h.framed.nodup, h.framed.mem_iff⟩,
      done, rest, hwritten, hdelivered, fun hopen => (nomatch hopen)⟩

lemma inv_run (events : List Event) : (run step init events).Inv :=
  run_invariant_of_step step (I := Inv) (fun _ e h => h.step e) inv_init events

/-! ## Delivery -/

lemma Inv.returned_step (h : s.Inv) (hopen : s.reader.returned = false) {e : Event}
    (he : e ≠ .readError) : (s.step e).reader.returned = false := by
  cases e with
  | send msg => exact hopen
  | lock i =>
    show (s.lock i).reader.returned = false
    unfold Session.lock
    split
    · split_ifs
      · exact hopen
      · exact hopen
    · exact hopen
  | frame i =>
    show (s.frame i).reader.returned = false
    unfold Session.frame
    split
    · exact hopen
    · exact hopen
  | write i ok =>
    show (s.write i ok).reader.returned = false
    unfold Session.write
    split
    · split_ifs
      · exact hopen
      · exact hopen
    · exact hopen
  | read n =>
    obtain ⟨done, rest, hwritten, -, hpending⟩ := h.reading
    have hshort : ∀ msg ∈ rest, msg.length ≤ kcpMaxMessage := by
      intro msg hmsg
      refine h.short ?_
      rw [hwritten]
      exact List.mem_append_right _ hmsg
    obtain ⟨_, _, -, -, hrest⟩ := (hpending hopen).read hshort n
    show (s.read n).reader.returned = false
    rw [Session.read, if_neg (by simp [hopen])]
    exact hrest.returned_eq
  | readError => exact absurd rfl he

lemma returned_run {events : List Event} (hevents : Event.readError ∉ events) :
    ∀ s : Session, s.Inv → s.reader.returned = false →
      (run step s events).reader.returned = false := by
  induction events with
  | nil =>
    intro s _ hopen
    exact hopen
  | cons e events ih =>
    intro s h hopen
    rw [List.mem_cons, not_or] at hevents
    exact ih hevents.2 _ (h.step e) (h.returned_step hopen (Ne.symm hevents.1))

lemma serialised_read (s : Session) (n : ℕ) : (s.read n).serialised = s.serialised := by
  unfold Session.read
  split_ifs <;> rfl

lemma Inv.length_pipe_read (h : s.Inv) (hopen : s.reader.returned = false) {n : ℕ} (hn : 0 < n) :
    (s.read n).pipe.length ≤ s.pipe.length - 1 := by
  obtain ⟨_, _, -, -, hpending⟩ := h.reading
  have hroom := (hpending hopen).filled_lt
  rw [Session.read, if_neg (by simp [hopen]), List.length_drop, FrameReader.chunk,
    List.length_take]
  omega

lemma Inv.delivered_eq (h : s.Inv) (hopen : s.reader.returned = false) (hpipe : s.pipe = []) :
    s.delivered = s.messages := by
  obtain ⟨done, rest, hwritten, hdelivered, hpending⟩ := h.reading
  have hrest : rest = [] := (hpipe ▸ hpending hopen).rest_eq_nil
  rw [hrest, List.append_nil] at hwritten
  rw [hdelivered, messages, hwritten]

lemma Inv.delivered_run {sizes : List ℕ} : ∀ {s : Session}, s.Inv → s.reader.returned = false →
    (∀ n ∈ sizes, 0 < n) → s.pipe.length ≤ sizes.length →
    (run Session.step s (sizes.map .read)).delivered = s.messages := by
  induction sizes with
  | nil =>
    intro s h hopen _ hlen
    exact h.delivered_eq hopen (List.eq_nil_of_length_eq_zero (Nat.le_zero.1 hlen))
  | cons n sizes ih =>
    intro s h hopen hpos hlen
    have hread := h.length_pipe_read hopen (hpos n (List.mem_cons_self ..))
    have hmessages : (s.read n).messages = s.messages := by
      rw [messages, messages, serialised_read]
    have hlen' : (s.read n).pipe.length ≤ sizes.length := by
      rw [List.length_cons] at hlen
      omega
    rw [List.map_cons, run_cons, ← hmessages]
    exact ih (h.read n) (h.returned_step (e := .read n) hopen (by simp))
      (fun m hm => hpos m (List.mem_cons_of_mem _ hm)) hlen'

/-- **Messages over the stream.**  However the steps of concurrent calls of `send` and the pieces of
the stream interleave: a call with a message above the limit returns at once and changes nothing
else; the writes that are serialised are those of the calls that returned `nil`, one for each; at
any time the messages delivered are an initial part of the non-empty messages written; and as long
as no `Read` has failed, reading on in pieces of any size delivers exactly these, in the order of
their writes. -/
theorem messages_carried (events : List Event) (s : Session) (hs : s = run step init events) :
    (∀ msg, kcpMaxMessage < msg.length →
      s.step (.send msg) = { s with calls := s.calls ++ [⟨msg, .returned .tooLarge⟩] }) ∧
    (s.serialised.map Prod.fst).Nodup ∧
    (∀ i msg, (i, msg) ∈ s.serialised ↔ s.calls[i]? = some ⟨msg, .returned .ok⟩) ∧
    s.delivered <+: s.messages ∧
    (Event.readError ∉ events → ∀ sizes : List ℕ, (∀ n ∈ sizes, 0 < n) →
      s.pipe.length ≤ sizes.length →
      (run step s (sizes.map .read)).delivered = s.messages) := by
  subst hs
  have h := inv_run events
  refine ⟨fun msg hlong => ?_, h.framed.nodup, h.framed.mem_iff, ?_, fun hevents sizes => ?_⟩
  · show Session.send _ msg = _
    rw [Session.send, if_pos hlong]
  · obtain ⟨done, rest, hwritten, hdelivered, -⟩ := h.reading
    rw [hdelivered, messages, hwritten, List.filter_append]
    exact List.prefix_append _ _
  · exact h.delivered_run (returned_run hevents init inv_init rfl)

/-- Two calls that overlap, the second with the lock first, and an empty message between them. -/
theorem messages_carried_overlap :
    (run step (run step init
      [.send [1, 2], .send [3], .send [], .lock 1, .lock 0, .frame 1, .write 1 true, .read 3,
        .lock 2, .frame 2, .write 2 true, .lock 0, .frame 0, .write 0 true])
      ((List.replicate 20 2).map .read)).delivered = [[3], [1, 2]] :=
  (messages_carried
    [.send [1, 2], .send [3], .send [], .lock 1, .lock 0, .frame 1, .write 1 true, .read 3,
      .lock 2, .frame 2, .write 2 true, .lock 0, .frame 0, .write 0 true] _ rfl).2.2.2.2
    (by decide) (List.replicate 20 2) (by decide) (by decide)

end Session

end OlcRtc.Kcp
