import Mathlib.Data.List.AList
import OlcRtc.Lib.Steps
import OlcRtc.Server.Single

/-!
# The peer sessions of a server with peer routing

A server with peer routing has a `peerSession` for every peer that sends.  The handshake of a peer
runs in one of two ways.  If the transport has a control plane for every peer, `acceptPeerHandshake`
runs on it, stores the session ID and then reports the session as open; otherwise `servePeer` runs
the handshake on the data session through `acceptHandshake`, which reports the session as open
before the session ID is stored.  `closePeerSession` may run at any time, once for every peer: it
marks the peer as closed, takes the session ID it finds and reports that session as closed.

Every peer is a small machine of its own with five goroutines at most (`Peer.step`).  Around them
are the goroutines that take peers out of the map and close them: `removePeer`, `closeSession` and
`reinstallPeerRouting`.  A goroutine of a peer that ends in `removePeer` goes on as one of those.

Session IDs are reported by callbacks, which the machine records in a log, and listed in
`peerStats`.
-/

namespace OlcRtc

/-! ## One peer -/

inductive PeerPc
  /-- Not started. -/
  | idle
  /-- Before `goTracked` registers it. -/
  | pending
  /-- At its beginning; for `expirePeerHandshake`, after the timer has fired. -/
  | start
  /-- Waiting for `sessionReady`, the timer or `done`. -/
  | wait
  /-- In `AcceptStream` and `handshake.Server`. -/
  | accept (retry : ℕ)
  /-- Before `setHandshake`. -/
  | set (result : HandshakeResult)
  /-- Before `signalReady`. -/
  | ready (result : HandshakeResult)
  /-- Before `onOpen`. -/
  | opening (result : HandshakeResult)
  /-- Before `trackPeerOpen`. -/
  | track (result : HandshakeResult)
  /-- Before `setControl`. -/
  | startLoop
  /-- In `AcceptStream` for data, or in the control loop. -/
  | stream
  | finished
  deriving DecidableEq

/-- Where the function that `closeOnce` runs stands; the session ID is that of the snapshot. -/
inductive OncePc
  | idle
  /-- Before `signalReady`. -/
  | signal (sessionID : String)
  /-- Before `onClose`. -/
  | notify (sessionID : String)
  /-- Before `trackPeerClose`. -/
  | track (sessionID : String)
  | done
  deriving DecidableEq

/-- A call of `onOpen` or of `onClose`. -/
inductive Callback
  | opened (sessionID : String)
  | closed (sessionID : String)
  deriving DecidableEq

def Callback.sessionID : Callback → String
  | .opened sid => sid
  | .closed sid => sid

/-- `peerSession`, with its goroutines. -/
structure Peer where
  peerID : String
  /-- Whether the data session is attached. -/
  data : Bool
  /-- Whether the control session is attached. -/
  control : Bool
  /-- Whether `sessionReady` is closed. -/
  ready : Bool
  /-- Whether the control stream is stored. -/
  controlStrm : Bool
  sessionID : String
  deviceID : String
  closed : Bool
  /-- `acceptPeerHandshake`. -/
  handshake : PeerPc
  /-- `expirePeerHandshake`. -/
  expire : PeerPc
  /-- `servePeer`. -/
  serve : PeerPc
  /-- The control loop. -/
  loop : PeerPc
  /-- `closeOnce`. -/
  once : OncePc
  /-- The session ID the auth hook has returned for this peer. -/
  issued : Option String
  /-- The callbacks for this peer. -/
  history : List Callback
  /-- Whether `trackPeerOpen` has run for this peer, and `trackPeerClose` has not. -/
  listed : Bool
  deriving DecidableEq

def newPeerSession (peerID : String) : Peer :=
  ⟨peerID, false, false, false, false, "", "", false, .idle, .idle, .idle, .idle, .idle, none, [],
    false⟩

inductive PeerOutcome
  | proceed
  /-- `handshake.Server` succeeded. -/
  | success (result : HandshakeResult)
  /-- It met `ErrFrameTooLarge`. -/
  | stale
  /-- It failed otherwise. -/
  | handshakeFails
  /-- `AcceptStream` failed. -/
  | acceptFails
  /-- The timer fired. -/
  | timeout
  /-- `done` is closed. -/
  | stopped
  /-- The control loop found the peer dead. -/
  | dead
  deriving DecidableEq

/-- What a step of a peer does outside of it. -/
inductive PeerEffect
  | none
  /-- `onOpen`. -/
  | opened (sessionID : String)
  /-- `trackPeerOpen`. -/
  | tracked (sessionID deviceID : String)
  /-- `onClose`. -/
  | closed (sessionID : String)
  /-- `trackPeerClose`. -/
  | untracked (sessionID : String)
  /-- The goroutine goes on in `removePeer`. -/
  | remove
  /-- The goroutine goes on in `reinstallPeerRouting`, and then in `removePeer`. -/
  | reinstall
  deriving DecidableEq

inductive PeerGoroutine
  | handshake | expire | serve | loop | close
  deriving DecidableEq

/-- What the goroutines of a peer read of the server. -/
structure PeerEnv where
  /-- Whether the transport is a `PeerControlPlane`. -/
  controlPlane : Bool
  ctxDone : Bool
  stopping : Bool
  deriving DecidableEq

namespace Peer

variable (env : PeerEnv) (q : Peer)

/-- `setHandshake` for a peer that is not closed. -/
def setHandshake (result : HandshakeResult) : Peer :=
  { q with sessionID := result.sessionID, deviceID := result.deviceID }

/-- `setControl` for a peer that is not closed, and the control loop that is to be started. -/
def setControl : Peer := { q with controlStrm := true, loop := .pending }

/-- `acceptPeerHandshake` and `startPeerControlLoop`. -/
def handshakeStep : PeerOutcome → Peer × PeerEffect
  | .proceed =>
    match q.handshake with
    | .pending => ({ q with handshake := if env.stopping then .finished else .accept 0 }, .none)
    | .set result =>
      if q.closed then ({ q with handshake := .finished }, .none)
      else ({ q.setHandshake result with handshake := .ready result }, .none)
    | .ready result => ({ q with ready := true, handshake := .opening result }, .none)
    | .opening result => ({ q with handshake := .track result }, .opened result.sessionID)
    | .track result =>
      ({ q with handshake := .startLoop }, .tracked result.sessionID result.deviceID)
    | .startLoop =>
      if q.closed then ({ q with handshake := .finished }, .none)
      else ({ q.setControl with handshake := .finished }, .none)
    | _ => (q, .none)
  | .success result =>
    match q.handshake with
    | .accept _ =>
      ({ q with handshake := .set result, issued := some result.sessionID }, .none)
    | _ => (q, .none)
  | .stale =>
    match q.handshake with
    | .accept retry =>
      if retry < SingleServer.maxStaleRetries then
        ({ q with handshake := .accept (retry + 1) }, .none)
      else ({ q with handshake := .finished }, .remove)
    | _ => (q, .none)
  | .handshakeFails =>
    match q.handshake with
    | .accept _ => ({ q with handshake := .finished }, .remove)
    | _ => (q, .none)
  | .acceptFails =>
    match q.handshake with
    | .accept _ =>
      ({ q with handshake := .finished }, if env.ctxDone then .none else .remove)
    | _ => (q, .none)
  | _ => (q, .none)

/-- `expirePeerHandshake`. -/
def expireStep : PeerOutcome → Peer × PeerEffect
  | .proceed =>
    match q.expire with
    | .pending => ({ q with expire := if env.stopping then .finished else .wait }, .none)
    | .wait => if q.ready then ({ q with expire := .finished }, .none) else (q, .none)
    | .start => ({ q with expire := .finished }, if q.sessionID ≠ "" then .none else .remove)
    | _ => (q, .none)
  | .stopped =>
    match q.expire with
    | .wait => if env.stopping then ({ q with expire := .finished }, .none) else (q, .none)
    | _ => (q, .none)
  | .timeout =>
    match q.expire with
    | .wait => ({ q with expire := .start }, .none)
    | _ => (q, .none)
  | _ => (q, .none)

/-- `servePeer`, with `establishPeerSession`, `waitPeerHandshake`, `acceptHandshake` and
    `startPeerControlLoop`. -/
def serveStep : PeerOutcome → Peer × PeerEffect
  | .proceed =>
    match q.serve with
    | .pending => ({ q with serve := if env.stopping then .finished else .start }, .none)
    | .start =>
      ({ q with
        serve := if q.sessionID ≠ "" then .stream
          else if env.controlPlane then .wait else .accept 0 }, .none)
    | .wait =>
      if q.ready then
        ({ q with serve := if q.sessionID ≠ "" then .stream else .finished }, .none)
      else (q, .none)
    | .opening result => ({ q with serve := .track result }, .opened result.sessionID)
    | .track result =>
      ({ q with serve := .set result }, .tracked result.sessionID result.deviceID)
    | .set result =>
      if q.closed then ({ q with serve := .finished }, .none)
      else ({ q.setHandshake result with serve := .startLoop }, .none)
    | .startLoop =>
      if q.closed then ({ q with serve := .stream }, .none)
      else ({ q.setControl with serve := .stream }, .none)
    | _ => (q, .none)
  | .success result =>
    match q.serve with
    | .accept _ => ({ q with serve := .opening result, issued := some result.sessionID }, .none)
    | _ => (q, .none)
  | .stale =>
    match q.serve with
    | .accept retry =>
      if retry < SingleServer.maxStaleRetries then
        ({ q with serve := .accept (retry + 1) }, .none)
      else ({ q with serve := .finished }, .reinstall)
    | _ => (q, .none)
  | .handshakeFails =>
    match q.serve with
    | .accept _ => ({ q with serve := .finished }, .reinstall)
    | _ => (q, .none)
  | .acceptFails =>
    match q.serve with
    | .accept _ => ({ q with serve := .finished }, if env.ctxDone then .remove else .reinstall)
    | .stream => ({ q with serve := .finished }, if env.stopping then .none else .remove)
    | _ => (q, .none)
  | .timeout =>
    match q.serve with
    | .wait => ({ q with serve := .finished }, .remove)
    | _ => (q, .none)
  | .stopped =>
    match q.serve with
    | .wait => if env.stopping then ({ q with serve := .finished }, .remove) else (q, .none)
    | .stream => if env.stopping then ({ q with serve := .finished }, .none) else (q, .none)
    | _ => (q, .none)
  | .dead => (q, .none)

def loopStep : PeerOutcome → Peer × PeerEffect
  | .proceed =>
    match q.loop with
    | .pending => ({ q with loop := if env.stopping then .finished else .stream }, .none)
    | .stream => ({ q with loop := .finished }, .none)
    | _ => (q, .none)
  | .dead =>
    match q.loop with
    | .stream => ({ q with loop := .finished }, .remove)
    | _ => (q, .none)
  | _ => (q, .none)

/-- `closePeerSession`, after the snapshot. -/
def closeStep : PeerOutcome → Peer × PeerEffect
  | .proceed =>
    match q.once with
    | .signal sid => ({ q with ready := true, once := .notify sid }, .none)
    | .notify sid => ({ q with once := .track sid }, if sid ≠ "" then .closed sid else .none)
    | .track sid => ({ q with once := .done }, if sid ≠ "" then .untracked sid else .none)
    | _ => (q, .none)
  | _ => (q, .none)

def step (g : PeerGoroutine) (outcome : PeerOutcome) : Peer × PeerEffect :=
  match g with
  | .handshake => q.handshakeStep env outcome
  | .expire => q.expireStep env outcome
  | .serve => q.serveStep env outcome
  | .loop => q.loopStep env outcome
  | .close => q.closeStep outcome

/-- `closeSnapshot`, the first thing `closeOnce` runs. -/
def closeSnapshot : Peer := { q with closed := true, once := .signal q.sessionID }

/-- What the effects of a peer add up to. -/
def note : PeerEffect → Peer
  | .opened sid => { q with history := q.history ++ [.opened sid] }
  | .closed sid => { q with history := q.history ++ [.closed sid] }
  | .tracked _ _ => { q with listed := true }
  | .untracked _ => { q with listed := false }
  | _ => q

end Peer

/-! ## The server -/

/-- What a goroutine does after it has closed its peers. -/
inductive AfterClose
  | finish
  /-- `reinstallPeerRouting` unlocks, and `removePeer` follows if there is a peer. -/
  | unlock (remove : Option ℕ)
  deriving DecidableEq

inductive CloserPc
  /-- `removePeer`, before its lock region. -/
  | remove (p : ℕ)
  /-- `reinstallPeerRouting`, before `reinstallMu`. -/
  | reinstall (remove : Option ℕ)
  /-- Before `detachPeerRouting`. -/
  | detach (remove : Option ℕ)
  /-- `closeSession`, before its lock region. -/
  | closeSession
  /-- Before `closePeerSession` of one of the peers that are left. -/
  | closeAll (todo : List ℕ) (after : AfterClose)
  /-- In `closeOnce.Do` of a peer. -/
  | closing (p : ℕ) (todo : List ℕ) (after : AfterClose)
  | finished
  deriving DecidableEq

structure PeerServer where
  controlPlane : Bool
  ctxDone : Bool
  /-- `done` is closed. -/
  stopping : Bool
  /-- Whether `reinstallMu` is held. -/
  reinstallMu : Bool
  /-- All peer sessions that were ever made. -/
  peers : List Peer
  peerSessions : AList fun _ : String => ℕ
  /-- The devices of `peerStats`. -/
  peerStats : AList fun _ : String => String
  /-- The callbacks so far. -/
  log : List Callback
  closers : List CloserPc

def maxPeerSessions : ℕ := 128

namespace PeerServer

variable (s : PeerServer)

def start (controlPlane : Bool) : PeerServer :=
  ⟨controlPlane, false, false, false, [], ∅, ∅, [], []⟩

def env : PeerEnv := ⟨s.controlPlane, s.ctxDone, s.stopping⟩

def mayAdmitPeerLocked (existing : Option ℕ) : Bool :=
  !s.stopping && (existing.isSome || s.peerSessions.entries.length < maxPeerSessions)

def enroll (q : Peer) : PeerServer :=
  { s with
    peers := s.peers ++ [q]
    peerSessions := s.peerSessions.insert q.peerID s.peers.length }

/-- The data session of a peer: `attachData`, with the goroutine that is to be started. -/
def attachData (q : Peer) : Peer := { q with data := true, serve := .pending }

/-- The control session of a peer: `attachControl`, with the goroutines that are to be started. -/
def attachControl (q : Peer) : Peer :=
  { q with control := true, handshake := .pending, expire := .pending }

/-- The lock region of `getPeerSession`; `init` says whether `NewSession` succeeds. -/
def getPeerSession (peerID : String) (init : Bool) : PeerServer :=
  if peerID = "" then s
  else
    match s.peerSessions.lookup peerID with
    | some p =>
      match s.peers[p]? with
      | some q =>
        if q.data ∨ ¬ s.mayAdmitPeerLocked (some p) ∨ ¬ init ∨ q.closed then s
        else { s with peers := s.peers.set p (attachData q) }
      | none => s
    | none =>
      if ¬ s.mayAdmitPeerLocked none ∨ ¬ init then s
      else s.enroll (attachData (newPeerSession peerID))

/-- The lock region of `getOrCreatePeerControlSession`. -/
def getOrCreatePeerControlSession (peerID : String) (init : Bool) : PeerServer :=
  if peerID = "" ∨ ¬ s.controlPlane then s
  else
    match s.peerSessions.lookup peerID with
    | some p =>
      match s.peers[p]? with
      | some q =>
        if q.control ∨ ¬ init ∨ q.closed then s
        else { s with peers := s.peers.set p (attachControl q) }
      | none => s
    | none =>
      if ¬ s.mayAdmitPeerLocked none ∨ ¬ init then s
      else s.enroll (attachControl (newPeerSession peerID))

def apply (p : ℕ) (q : Peer) (effect : PeerEffect) : PeerServer :=
  let s := { s with peers := s.peers.set p (q.note effect) }
  match effect with
  | .none => s
  | .opened sid => { s with log := s.log ++ [.opened sid] }
  | .tracked sid device => { s with peerStats := s.peerStats.insert sid device }
  | .closed sid => { s with log := s.log ++ [.closed sid] }
  | .untracked sid => { s with peerStats := s.peerStats.erase sid }
  | .remove => { s with closers := s.closers ++ [.remove p] }
  | .reinstall => { s with closers := s.closers ++ [.reinstall (some p)] }

/-- Closer `i` goes on at `pc`. -/
def goto (i : ℕ) (pc : CloserPc) : PeerServer := { s with closers := s.closers.set i pc }

def detached : List ℕ := s.peerSessions.entries.map fun e => e.2

/-- One step of closer `i`; `pick` says which of the peers is next. -/
def closerStep (i : ℕ) (pick : ℕ) : CloserPc → PeerServer
  | .remove p =>
    match s.peers[p]? with
    | some q =>
      if s.peerSessions.lookup q.peerID = some p then
        goto { s with peerSessions := s.peerSessions.erase q.peerID } i (.closeAll [p] .finish)
      else s.goto i .finished
    | none => s
  | .reinstall remove =>
    if s.reinstallMu then s else goto { s with reinstallMu := true } i (.detach remove)
  | .detach remove =>
    goto { s with peerSessions := ∅ } i (.closeAll s.detached (.unlock remove))
  | .closeSession => goto { s with peerSessions := ∅ } i (.closeAll s.detached .finish)
  | .closeAll [] .finish => s.goto i .finished
  | .closeAll [] (.unlock none) => goto { s with reinstallMu := false } i .finished
  | .closeAll [] (.unlock (some p)) => goto { s with reinstallMu := false } i (.remove p)
  | .closeAll todo after =>
    match todo[pick]? with
    | some p =>
      match s.peers[p]? with
      | some q =>
        if q.once = .idle then
          goto { s with peers := s.peers.set p q.closeSnapshot } i
            (.closing p (todo.eraseIdx pick) after)
        else s.goto i (.closing p (todo.eraseIdx pick) after)
      | none => s
    | none => s
  | .closing p todo after =>
    match s.peers[p]? with
    | some q => if q.once = .done then s.goto i (.closeAll todo after) else s
    | none => s
  | .finished => s

inductive Event
  /-- A data frame of a peer arrives. -/
  | data (peerID : String) (init : Bool)
  /-- A control frame of a peer arrives. -/
  | control (peerID : String) (init : Bool)
  /-- A goroutine of peer `p` takes a step. -/
  | peer (p : ℕ) (g : PeerGoroutine) (outcome : PeerOutcome)
  /-- Closer `i` takes a step. -/
  | closer (i : ℕ) (pick : ℕ)
  /-- The provider calls `handleReconnect`. -/
  | reconnect
  /-- The context is cancelled, and `closeSession` starts. -/
  | cancel
  /-- `shutdown` closes `done` and starts `closeSession`. -/
  | shutdown

def step : Event → PeerServer
  | .data peerID init => s.getPeerSession peerID init
  | .control peerID init => s.getOrCreatePeerControlSession peerID init
  | .peer p g outcome =>
    match s.peers[p]? with
    | some q => s.apply p (q.step s.env g outcome).1 (q.step s.env g outcome).2
    | none => s
  | .closer i pick =>
    match s.closers[i]? with
    | some pc => s.closerStep i pick pc
    | none => s
  | .reconnect => if s.ctxDone then s else { s with closers := s.closers ++ [.reinstall none] }
  | .cancel => { s with ctxDone := true, closers := s.closers ++ [.closeSession] }
  | .shutdown => { s with stopping := true, closers := s.closers ++ [.closeSession] }

end PeerServer

end OlcRtc
