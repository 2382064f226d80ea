import Mathlib.Data.List.AList
import Mathlib.Data.Vector.Basic
import Mathlib.Logic.Function.Basic

/-!
# The replay cache of the record layer

`internal/crypto/chacha.go` keeps, for every sender prefix it has authenticated, the highest
counter it accepted and a 64-bit bitmap of the counters just below it.  The states live in a map
keyed by prefix and, at the same time, on a `container/list` in order of use: the map finds a
state, the list picks the one to evict once 256 prefixes are held.

Both structures hold *pointers* to the same state, so the model has a store: `states` is the
memory, `senders` the map from prefixes to addresses and `lru` the list of addresses, front
first.  That the two stay in step is then a theorem about the code (`ReplayCache.Linked`) and not
a consequence of how the model is written.
-/

namespace OlcRtc

/-- `noncePrefixSize`: an XChaCha20 nonce is 24 bytes and its last eight are the counter. -/
def noncePrefixSize : ℕ := 24 - 8

def replayWindowSize : ℕ := 64

def maxReplaySenders : ℕ := 256

/-- A sender prefix, `[noncePrefixSize]byte`. -/
abbrev NoncePrefix := List.Vector UInt8 noncePrefixSize

/-- The two ways `accept` refuses an authenticated record. -/
inductive ReplayError
  | replayDuplicate
  | replayTooOld
  deriving DecidableEq, Repr

/-- `replayState`.  The `element` field of the source points back at the list node that holds the
state; here the node *is* the address, so it needs no field. -/
structure ReplayState where
  senderPrefix : NoncePrefix
  highest : BitVec 64
  seen : BitVec 64

/-- `replayCache`, with the memory its pointers refer to.  `next` is the first unused address. -/
structure ReplayCache where
  states : ℕ → ReplayState
  next : ℕ
  senders : AList (fun _ : NoncePrefix => ℕ)
  lru : List ℕ

namespace ReplayCache

/-- The cache `newKeySetForRole` builds. -/
def empty : ReplayCache where
  states := fun _ => ⟨List.Vector.replicate _ 0, 0, 0⟩
  next := 0
  senders := ∅
  lru := []

/-- `len(r.senders)`. -/
def size (r : ReplayCache) : ℕ := r.senders.keys.length

/-- `r.lru.MoveToFront(state.element)`. -/
def moveToFront (r : ReplayCache) (ptr : ℕ) : ReplayCache :=
  { r with lru := ptr :: r.lru.erase ptr }

/-- Writing through a `*replayState`. -/
def store (r : ReplayCache) (ptr : ℕ) (state : ReplayState) : ReplayCache :=
  { r with states := Function.update r.states ptr state }

/-- The eviction at the head of `insert`: the back of the list leaves the list and the map.  On
an empty list the source would dereference `nil`; `Linked` rules that out, since then the map is
empty as well. -/
def evictOldest (r : ReplayCache) : ReplayCache :=
  match r.lru.getLast? with
  | none => r
  | some oldest =>
    { r with
      senders := r.senders.erase (r.states oldest).senderPrefix
      lru := r.lru.dropLast }

/-- The allocation at the tail of `insert`. -/
def pushFront (r : ReplayCache) (p : NoncePrefix) (counter : BitVec 64) : ReplayCache where
  states := Function.update r.states r.next ⟨p, counter, 1⟩
  next := r.next + 1
  senders := r.senders.insert p r.next
  lru := r.next :: r.lru

def insert (r : ReplayCache) (p : NoncePrefix) (counter : BitVec 64) : ReplayCache :=
  (if maxReplaySenders ≤ r.size then r.evictOldest else r).pushFront p counter

/-- The bitmap after the window moves up from `highest` to `counter`. -/
def advance (state : ReplayState) (counter : BitVec 64) : BitVec 64 :=
  let shift := counter - state.highest
  if replayWindowSize ≤ shift.toNat then 1 else state.seen <<< shift ||| 1

/-- `accept`.  The result pairs the cache afterwards with the error, `none` for success. -/
def accept (r : ReplayCache) (p : NoncePrefix) (counter : BitVec 64) :
    ReplayCache × Option ReplayError :=
  match r.senders.lookup p with
  | none => (r.insert p counter, none)
  | some ptr =>
    let state := r.states ptr
    if state.highest < counter then
      let state' := { state with seen := advance state counter, highest := counter }
      ((r.store ptr state').moveToFront ptr, none)
    else
      let age := state.highest - counter
      if replayWindowSize ≤ age.toNat then (r, some .replayTooOld)
      else
        let mask := 1#64 <<< age
        if state.seen &&& mask ≠ 0 then (r, some .replayDuplicate)
        else
          let state' := { state with seen := state.seen ||| mask }
          ((r.store ptr state').moveToFront ptr, none)

end ReplayCache

end OlcRtc
