import OlcRtc.Transport.Frame
import OlcRtc.Transport.Reassembler

/-!
# The sending half

`AckTracker` of `internal/transport/common/ack.go` and `Sender` of `sender.go`.  `Send` runs under
a mutex, so there is at most one call at a time: it cuts the message, registers a waiter, queues
the fragments, waits, and queues what is still unacknowledged once more, until every fragment is
acknowledged or the attempts are used up.  Acknowledgements come in on another goroutine while it
does so; they only touch the waiter.

A call is a small machine here.  Its timer may fire at any moment, so the estimate
`PerAttemptAckTimeout` does not appear, and it may look at the waiter at any moment, so neither
does the notification channel.
-/

namespace OlcRtc

/-! ## Acknowledgement tracking -/

/-- `AckWaiter`. -/
structure AckWaiter where
  crc : UInt32
  total : ℕ
  acked : List Bool
  remaining : ℕ

namespace AckWaiter

/-- The waiter `Register` installs. -/
def new (crc : UInt32) (total : ℕ) : AckWaiter := ⟨crc, total, List.replicate total false, total⟩

/-- The part of `Mark` under the waiter's own lock. -/
def mark (w : AckWaiter) (crc : UInt32) (fragIdx : ℕ) : AckWaiter :=
  if w.crc ≠ crc ∨ w.total ≤ fragIdx ∨ w.acked.getD fragIdx true = true then w
  else { w with acked := w.acked.set fragIdx true, remaining := w.remaining - 1 }

def pending (w : AckWaiter) : List ℕ :=
  (List.range w.acked.length).filter fun i => !w.acked.getD i true

def done (w : AckWaiter) : Bool := w.remaining == 0

/-- The count matches the flags, and there is one flag per fragment. -/
structure Ok (w : AckWaiter) : Prop where
  length_acked : w.acked.length = w.total
  remaining : w.remaining = w.acked.count false

lemma ok_new (crc : UInt32) (total : ℕ) : (new crc total).Ok where
  length_acked := by simp [new]
  remaining := by simp [new]

lemma Ok.mark {w : AckWaiter} (h : w.Ok) (crc : UInt32) (fragIdx : ℕ) :
    (w.mark crc fragIdx).Ok ∧ (w.mark crc fragIdx).crc = w.crc ∧
      (w.mark crc fragIdx).total = w.total ∧
      ∀ i, (w.mark crc fragIdx).acked[i]? = some true →
        w.acked[i]? = some true ∨ (i = fragIdx ∧ w.crc = crc) := by
  unfold AckWaiter.mark
  split_ifs with hskip
  · exact ⟨h, rfl, rfl, fun i hi => Or.inl hi⟩
  · rw [not_or, not_or, not_not, not_le] at hskip
    obtain ⟨hcrc, hlt, hflag⟩ := hskip
    have hlt' : fragIdx < w.acked.length := h.length_acked ▸ hlt
    have hfalse : w.acked[fragIdx] = false := by
      grind
    refine ⟨⟨by simpa using h.length_acked, ?_⟩, rfl, rfl, fun i hi => ?_⟩
    · show w.remaining - 1 = (w.acked.set fragIdx true).count false
      rw [h.remaining, List.count_set hlt', hfalse]
      simp
    · grind

lemma Ok.acked_of_done {w : AckWaiter} (h : w.Ok) (hdone : w.done = true) {i : ℕ}
    (hi : i < w.total) : w.acked[i]? = some true := by
  have hzero : w.acked.count false = 0 := by
    rw [← h.remaining]
    exact eq_of_beq hdone
  have hlt : i < w.acked.length := h.length_acked ▸ hi
  rw [List.getElem?_eq_getElem hlt]
  cases hflag : w.acked[i] with
  | true => rfl
  | false => exact absurd (hflag ▸ List.getElem_mem hlt) (List.count_eq_zero.mp hzero)

lemma Ok.acked_of_pending {w : AckWaiter} (h : w.Ok) (hnone : w.pending = []) {i : ℕ}
    (hi : i < w.total) : w.acked[i]? = some true := by
  have hlt : i < w.acked.length := h.length_acked ▸ hi
  have hnot := List.filter_eq_nil_iff.mp hnone i (List.mem_range.mpr hlt)
  rw [List.getD_eq_getElem?_getD, List.getElem?_eq_getElem hlt] at hnot
  rw [List.getElem?_eq_getElem hlt]
  simpa using hnot

lemma mem_pending {w : AckWaiter} {i : ℕ} (hi : i ∈ w.pending) : i < w.acked.length :=
  List.mem_range.mp (List.mem_filter.mp hi).1

end AckWaiter

/-- `AckTracker`: the waiters of the calls in progress. -/
abbrev AckTracker := AList fun _ : UInt32 => AckWaiter

/-- `Mark`.  A waiter that `Unregister` drops between its two locks is nobody's any more, so the
two are one step. -/
def AckTracker.mark (t : AckTracker) (seq crc : UInt32) (fragIdx : ℕ) : AckTracker :=
  match t.lookup seq with
  | none => t
  | some w => t.insert seq (w.mark crc fragIdx)

/-! ## Sending -/

/-- The fields of `SenderConfig` that decide what is sent. -/
structure SenderConfig where
  role : UInt8
  binding : UInt32
  fragmentSize : ℕ
  maxAttempts : ℕ

/-- The errors of `Send`. -/
inductive SendError
  | ackTimeout
  | closed
  deriving DecidableEq, Repr

/-- The locals of a running `Send`. -/
structure SendCall where
  seq : UInt32
  crc : UInt32
  data : Bytes
  fragments : List Bytes

/-- Where a running `Send` stands; `attempts` are those left after the current one. -/
inductive SendPhase
  | queueing (attempts : ℕ) (pending : List ℕ)
  | awaiting (attempts : ℕ)
  | collecting (attempts : ℕ)

/-- A finished `Send`; no error is success. -/
structure SendReturn where
  seq : UInt32
  data : Bytes
  err : Option SendError

/-- `Sender`, its running call, and what its calls returned so far. -/
structure Sender where
  seq : UInt32
  acks : AckTracker
  running : Option (SendCall × SendPhase)
  returned : List SendReturn

namespace Sender

/-- `NewSender`. -/
def new : Sender := ⟨0, ∅, none, []⟩

/-- The deferred `Unregister`, and the return. -/
def finish (s : Sender) (call : SendCall) (err : Option SendError) : Sender :=
  { s with
    acks := s.acks.erase call.seq
    running := none
    returned := s.returned ++ [⟨call.seq, call.data, err⟩] }

def attempt (s : Sender) (call : SendCall) (attempts : ℕ) (pending : List ℕ) : Sender :=
  match attempts with
  | 0 => s.finish call (some .ackTimeout)
  | n + 1 => { s with running := some (call, .queueing n pending) }

/-- `Send` up to its loop. -/
def send (cfg : SenderConfig) (s : Sender) (data : Bytes) : Sender :=
  let seq := s.seq + 1
  let crc := crc32 data
  let fragments := fragmentPayload data cfg.fragmentSize
  attempt { s with seq := seq, acks := s.acks.insert seq (AckWaiter.new crc fragments.length) }
    ⟨seq, crc, data, fragments⟩ cfg.maxAttempts (List.range fragments.length)

/-- One turn of `queueFragments`: the frame it queues, if any is left. -/
def queueNext (cfg : SenderConfig) (s : Sender) : Sender × Option Bytes :=
  match s.running with
  | some (call, .queueing n (idx :: pending)) =>
    ({ s with running := some (call, .queueing n pending) },
      some (encodeData cfg.role cfg.binding call.seq call.crc call.data.length idx
        call.fragments.length (call.fragments.getD idx [])))
  | some (call, .queueing n []) => ({ s with running := some (call, .awaiting n) }, none)
  | _ => (s, none)

/-- `await` looks at the waiter. -/
def check (s : Sender) : Sender :=
  match s.running with
  | some (call, .awaiting _) =>
    match s.acks.lookup call.seq with
    | some w => if w.done then s.finish call none else s
    | none => s
  | _ => s

/-- The timer of `await` fires, and it looks once more. -/
def timeout (s : Sender) : Sender :=
  match s.running with
  | some (call, .awaiting n) =>
    match s.acks.lookup call.seq with
    | some w =>
      if w.done then s.finish call none
      else { s with running := some (call, .collecting n) }
    | none => s
  | _ => s

/-- `Send` asks what is still pending. -/
def collect (s : Sender) : Sender :=
  match s.running with
  | some (call, .collecting n) =>
    match s.acks.lookup call.seq with
    | some w => if w.pending = [] then s.finish call none else s.attempt call n w.pending
    | none => s
  | _ => s

/-- The transport is closed, and `Enqueue` or `await` reports it. -/
def abort (s : Sender) : Sender :=
  match s.running with
  | some (call, .queueing _ _) => s.finish call (some .closed)
  | some (call, .awaiting _) => s.finish call (some .closed)
  | _ => s

def resolve (s : Sender) (seq crc : UInt32) (fragIdx : UInt16) : Sender :=
  { s with acks := s.acks.mark seq crc fragIdx.toNat }

end Sender

end OlcRtc
