import OlcRtc.Crypto.Record

/-!
# Encrypted connections

`Conn` of `internal/muxconn/conn.go`, the byte stream an smux session runs on.  `Write` seals its
argument and hands the record to the transport as one message; `Push` is the transport's callback,
which opens a record and queues the plaintext for `Read`.

A `Conn` does not own its keys: the data and the control connection of one endpoint share a
`KeySet`, so both functions take the keys and return them.  `Push` blocks on a full queue until
`Read` has made room, which delays a frame and never drops it; the queue is therefore a list.
The rate limit of the decryption log is left out, the count it reports is not.
-/

namespace OlcRtc

/-- The two independent streams between a pair of endpoints. -/
inductive Plane
  | data
  | control
  deriving DecidableEq, Repr

def dataRecordAAD : Bytes := ascii "olcrtc/muxconn/v2/data"

def controlRecordAAD : Bytes := ascii "olcrtc/muxconn/v2/control"

/-- The associated data that `New` and `NewControl` install. -/
def Plane.aad : Plane → Bytes
  | .data => dataRecordAAD
  | .control => controlRecordAAD

/-- The errors of `Write`; `send` wraps whatever the transport returned. -/
inductive MuxError
  | closed
  | writeTimeout
  | encrypt (err : CryptoError)
  | send
  deriving DecidableEq, Repr

/-- `Conn`: `inbound` are the frames queued for `Read`, oldest first. -/
structure Conn where
  aad : Bytes
  closed : Bool
  inbound : List Bytes
  decryptFails : ℕ

namespace Conn

/-- `New` and `NewControl`. -/
def new (plane : Plane) : Conn := ⟨plane.aad, false, [], 0⟩

@[simp] lemma new_aad (plane : Plane) : (new plane).aad = plane.aad := rfl

/-- `waitSendReady`.  The list holds what each poll before the deadline found: whether the
connection was closed, and whether the transport could send. -/
def waitSendReady : List (Bool × Bool) → Except MuxError Unit
  | [] => .error .writeTimeout
  | (true, _) :: _ => .error .closed
  | (false, true) :: _ => .ok ()
  | (false, false) :: polls => waitSendReady polls

/-- What `Write` leaves behind: the keys, the record if one was sealed, and the result. -/
structure WriteResult where
  keys : KeySet
  enc : Option Bytes
  result : Except MuxError ℕ

/-- `Write`; `sent` says whether the transport took the record. -/
def write (aead : AEAD) (keys : KeySet) (c : Conn) (polls : List (Bool × Bool)) (sent : Bool)
    (p : Bytes) : WriteResult :=
  match waitSendReady polls with
  | .error err => ⟨keys, none, .error err⟩
  | .ok () =>
    match keys.sealInto aead [] p c.aad with
    | (keys, .error err) => ⟨keys, none, .error (.encrypt err)⟩
    | (keys, .ok enc) => ⟨keys, some enc, if sent then .ok p.length else .error .send⟩

def push (aead : AEAD) (keys : KeySet) (c : Conn) (ciphertext : Bytes) : KeySet × Conn :=
  match keys.openInto aead [] ciphertext c.aad with
  | (keys, .error _) => (keys, { c with decryptFails := c.decryptFails + 1 })
  | (keys, .ok pt) => (keys, if c.closed then c else { c with inbound := c.inbound ++ [pt] })

/-! ### What one call does -/

lemma write_cases (aead : AEAD) (keys : KeySet) (c : Conn) (polls : List (Bool × Bool))
    (sent : Bool) (p : Bytes) :
    (∃ err, c.write aead keys polls sent p = ⟨keys, none, .error err⟩) ∨
      (keys.counter ≠ BitVec.allOnes 64 ∧
        c.write aead keys polls sent p =
          ⟨{ keys with counter := keys.counter + 1 },
            some (keys.sealAt aead (keys.counter + 1) [] p c.aad),
            if sent then .ok p.length else .error .send⟩) := by
  unfold write
  cases hwait : waitSendReady polls with
  | error err => exact Or.inl ⟨err, rfl⟩
  | ok _ =>
    simp only [KeySet.sealInto_eq]
    by_cases hmax : keys.counter = BitVec.allOnes 64
    · rw [if_pos hmax]
      exact Or.inl ⟨_, rfl⟩
    · rw [if_neg hmax]
      exact Or.inr ⟨hmax, rfl⟩

lemma length_inbound_push_le (aead : AEAD) (keys : KeySet) (c : Conn) (ciphertext : Bytes) :
    (c.push aead keys ciphertext).2.inbound.length ≤ c.inbound.length + 1 := by
  unfold push
  split
  · exact Nat.le_succ _
  · split_ifs
    · exact Nat.le_succ _
    · simp

end Conn

end OlcRtc
