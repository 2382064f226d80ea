import OlcRtc.Lib.Steps
import OlcRtc.Mux.Conn

/-!
# The session of a single-peer server

A server without peer routing has one session pair at a time: a data session and, if the transport
has a control plane, an isolated control session.  `serveSingle` waits for the handshake and then
accepts data streams.  With an isolated control session a goroutine of its own runs the handshake;
without one, `serveSingle` runs it on the data session.  When a stream cannot be accepted, when a
handshake fails, when the control loop finds the peer dead and when the provider reconnects, the
pair is replaced by a new one.

The machine below takes every lock region of these goroutines as a step.  A handshake writes its
result in two steps: it completes on a session, and later it stores the session ID under `sessMu`.
A replacement that comes in between clears the session ID first and has it written back afterwards,
now for the new pair.

**`session_bound_iff`** says that the session ID belongs to the installed pair in every state of a
run exactly if every result is stored while the pair it was obtained on is still installed.
`session_bound_retired` is a run that breaks it: `serveSingle` goes on to accept data streams on a
pair that nobody has authenticated.
-/

namespace OlcRtc

/-! ## Sessions and pairs -/

/-- A `smux.Session`: pairs are numbered in the order they are built. -/
structure SmuxSession where
  pair : ℕ
  plane : Plane
  deriving DecidableEq

/-- `tunnelcore.SessionPair`, with `HasIsolatedControl`. -/
structure SessionPair where
  id : ℕ
  isolated : Bool
  deriving DecidableEq

def SessionPair.dataSession (p : SessionPair) : SmuxSession := ⟨p.id, .data⟩

def SessionPair.controlSession (p : SessionPair) : SmuxSession :=
  if p.isolated then ⟨p.id, .control⟩ else p.dataSession

/-- `handshakeResult`. -/
structure HandshakeResult where
  sessionID : String
  deviceID : String
  deriving DecidableEq

/-! ## The goroutines -/

inductive ServePc
  /-- The head of the loop of `serveSingle`. -/
  | top
  /-- `serveSingle` in `AcceptStream`. -/
  | accept (session : SmuxSession)
  /-- `acceptHandshake`, in its loop. -/
  | handshake (session : SmuxSession) (retry : ℕ)
  /-- `acceptSingletonHandshake`, before it stores the result. -/
  | publish (session : SmuxSession) (result : HandshakeResult)
  /-- Before `startControlLoop` stores the control stream. -/
  | startControl (session : SmuxSession)
  /-- The control loop. -/
  | control (session : SmuxSession)
  /-- `handleReconnect`, before it reads the current session. -/
  | reconnect
  /-- `reinstallSession`, before it has `reinstallMu`. -/
  | reinstall (dead : Option SmuxSession)
  /-- Before it closes the current pair. -/
  | closeOld (dead : Option SmuxSession)
  /-- In `NewSessionPair`. -/
  | build (dead : Option SmuxSession)
  /-- Before the lock region of `swapSession`. -/
  | swap (dead : Option SmuxSession) (replacement : SessionPair)
  /-- After it. -/
  | retire (old : Option SessionPair) (replacement : SessionPair)
  /-- Returned. -/
  | finished
  deriving DecidableEq

/-- A goroutine: `serveSingle` itself, or one that ends when its function returns. -/
structure ServeThread where
  serving : Bool
  pc : ServePc
  deriving DecidableEq

/-- Where a goroutine goes when the function it called returns. -/
def ServeThread.back (t : ServeThread) : ServePc := if t.serving then .top else .finished

structure SingleServer where
  pair : Option SessionPair
  session : Option SmuxSession
  /-- Whether `controlConn` is not nil. -/
  controlConn : Bool
  controlSess : Option SmuxSession
  /-- The session of `controlStrm` and of the loop that `controlStop` stops. -/
  controlStrm : Option SmuxSession
  sessionID : String
  deviceID : String
  /-- The goroutine that holds `reinstallMu`. -/
  reinstallMu : Option ℕ
  /-- The context of the server is done. -/
  ctxDone : Bool
  /-- `done` is closed. -/
  stopping : Bool
  /-- The pairs that have been closed. -/
  closed : List ℕ
  /-- How many pairs have been built. -/
  built : ℕ
  threads : List ServeThread
  /-- The pair whose handshake gave the session ID that was stored last. -/
  origin : Option ℕ
  deriving DecidableEq

namespace SingleServer

variable (s : SingleServer)

def goTracked (pc : ServePc) : SingleServer :=
  if s.stopping then s else { s with threads := s.threads ++ [⟨false, pc⟩] }

def installPairLocked (p : SessionPair) : SingleServer :=
  { s with
    pair := some p
    session := some p.dataSession
    controlConn := p.isolated
    controlSess := if p.isolated then some p.controlSession else none }

def staleReinstall (dead : Option SmuxSession) : Bool :=
  dead.isSome && dead != s.session && dead != s.controlSess

/-- The lock region of `swapSession`, when the reinstall is not stale. -/
def swapSession (replacement : SessionPair) : SingleServer :=
  { s.installPairLocked replacement with controlStrm := none, sessionID := "", deviceID := "" }

/-- The lock region of `closeSession`, and the pair it closes. -/
def closeSession : SingleServer :=
  { s with
    pair := none, session := none, controlConn := false, controlSess := none
    controlStrm := none, sessionID := "", deviceID := ""
    closed := s.closed ++ (s.pair.map SessionPair.id).toList }

/-- The lock region of `acceptSingletonHandshake`. -/
def publish (session : SmuxSession) (result : HandshakeResult) : SingleServer :=
  { s with deviceID := result.deviceID, sessionID := result.sessionID, origin := some session.pair }

/-- Goroutine `i` goes on at `pc`. -/
def goto (i : ℕ) (t : ServeThread) (pc : ServePc) : SingleServer :=
  { s with threads := s.threads.set i { t with pc := pc } }

/-- `reinstallSession` returns. -/
def leaveReinstall (i : ℕ) (t : ServeThread) : SingleServer :=
  goto { s with reinstallMu := none } i t t.back

def maxStaleRetries : ℕ := 3

inductive Outcome
  /-- There is only one way. -/
  | proceed
  /-- `handshake.Server` succeeded. -/
  | handshakeDone (result : HandshakeResult)
  /-- It met `ErrFrameTooLarge`. -/
  | stale
  /-- It failed otherwise. -/
  | handshakeFails
  /-- `AcceptStream` failed. -/
  | acceptFails
  /-- The control loop found the peer dead. -/
  | dead
  /-- `NewSessionPair` succeeded, with an isolated control session or without. -/
  | built (isolated : Bool)
  /-- It failed. -/
  | buildFails
  deriving DecidableEq

/-- One step of goroutine `i`. -/
def advance (i : ℕ) (t : ServeThread) : Outcome → SingleServer
  | .proceed =>
    match t.pc with
    | .top =>
      if s.ctxDone then s.goto i t .finished
      else
        match s.session with
        | none => s
        | some session =>
          if s.sessionID = "" ∧ s.controlConn then s
          else if s.sessionID = "" then s.goto i t (.handshake session 0)
          else s.goto i t (.accept session)
    | .publish session result => (s.publish session result).goto i t (.startControl session)
    | .startControl session =>
      goto { s with
          controlStrm := some session
          threads := s.threads ++ [⟨false, .control session⟩] } i t
        (if t.serving then .accept session else .finished)
    | .accept _ => s.goto i t .top
    | .control _ => s.goto i t .finished
    | .reconnect => s.goto i t (.reinstall s.session)
    | .reinstall dead =>
      if s.reinstallMu = none then goto { s with reinstallMu := some i } i t (.closeOld dead)
      else s
    | .closeOld dead =>
      goto { s with closed := s.closed ++ (s.pair.map SessionPair.id).toList } i t (.build dead)
    | .swap dead replacement =>
      if s.staleReinstall dead then
        leaveReinstall { s with closed := s.closed ++ [replacement.id] } i t
      else (s.swapSession replacement).goto i t (.retire s.pair replacement)
    | .retire old replacement =>
      let s := { s with closed := s.closed ++ (old.map SessionPair.id).toList }
      let s := if replacement.isolated then
          s.goTracked (.handshake replacement.controlSession 0) else s
      s.leaveReinstall i t
    | _ => s
  | .handshakeDone result =>
    match t.pc with
    | .handshake session _ =>
      if session.pair ∈ s.closed then s else s.goto i t (.publish session result)
    | _ => s
  | .stale =>
    match t.pc with
    | .handshake session retry =>
      if retry < maxStaleRetries then s.goto i t (.handshake session (retry + 1))
      else s.goto i t (.reinstall (some session))
    | _ => s
  | .handshakeFails =>
    match t.pc with
    | .handshake session _ => s.goto i t (.reinstall (some session))
    | _ => s
  | .acceptFails =>
    match t.pc with
    | .handshake session _ =>
      if s.ctxDone then s.goto i t t.back else s.goto i t (.reinstall (some session))
    | .accept session =>
      if s.ctxDone then s.goto i t .finished else s.goto i t (.reinstall (some session))
    | _ => s
  | .dead =>
    match t.pc with
    | .control session => s.goto i t (.reinstall (some session))
    | _ => s
  | .built isolated =>
    match t.pc with
    | .build dead => goto { s with built := s.built + 1 } i t (.swap dead ⟨s.built, isolated⟩)
    | _ => s
  | .buildFails =>
    match t.pc with
    | .build _ => s.leaveReinstall i t
    | _ => s

inductive Event
  /-- Goroutine `i` takes a step. -/
  | step (i : ℕ) (outcome : Outcome)
  /-- The provider calls `handleReconnect`. -/
  | reconnect
  /-- The context of the server is cancelled. -/
  | cancel
  /-- `shutdown` closes `done`. -/
  | stop
  /-- `closeSession` runs. -/
  | closeSession
  deriving DecidableEq

def step : Event → SingleServer
  | .step i outcome =>
    match s.threads[i]? with
    | some t => s.advance i t outcome
    | none => s
  | .reconnect =>
    if s.ctxDone then s else { s with threads := s.threads ++ [⟨false, .reconnect⟩] }
  | .cancel => { s with ctxDone := true }
  | .stop => { s with stopping := true }
  | .closeSession => s.closeSession

/-- The server after `installSession`: without a pair when `NewSessionPair` failed, and else with
    one that has an isolated control session or not. -/
def start (first : Option Bool) : SingleServer :=
  let s : SingleServer := ⟨none, none, false, none, none, "", "", none, false, false, [], 1,
    [⟨true, .top⟩], none⟩
  match first with
  | none => s
  | some isolated =>
    let p : SessionPair := ⟨0, isolated⟩
    let s := s.installPairLocked p
    if isolated then s.goTracked (.handshake p.controlSession 0) else s

/-! ## The session ID belongs to the installed pair -/

/-- A session ID that is set was obtained by a handshake on the installed pair. -/
def Bound : Prop :=
  s.sessionID ≠ "" → s.pair.isSome ∧ s.origin = s.pair.map SessionPair.id

instance : Decidable s.Bound := inferInstanceAs (Decidable (_ → _))

/-- A result is stored only while the pair it was obtained on is installed. -/
def PublishesInstalled : Event → Prop
  | .step i .proceed =>
    match s.threads[i]? with
    | some ⟨_, .publish session result⟩ =>
      result.sessionID ≠ "" → s.pair.map SessionPair.id = some session.pair
    | _ => True
  | _ => True

instance (e : Event) : Decidable (s.PublishesInstalled e) := by
  unfold PublishesInstalled
  split
  · split <;> infer_instance
  · infer_instance

variable {s}

/-- What a step leaves alone when it neither stores a result nor clears the session ID. -/
def SameBinding (s s' : SingleServer) : Prop :=
  s'.sessionID = s.sessionID ∧ s'.pair = s.pair ∧ s'.origin = s.origin

lemma SameBinding.bound_iff {s' : SingleServer} (h : s.SameBinding s') : s'.Bound ↔ s.Bound := by
  rw [Bound, Bound, h.1, h.2.1, h.2.2]

lemma SameBinding.ite {a b : SingleServer} (c : Prop) [Decidable c] (ha : s.SameBinding a)
    (hb : s.SameBinding b) : s.SameBinding (if c then a else b) := by
  split_ifs
  · exact ha
  · exact hb

lemma sameBinding_goTracked (pc : ServePc) : s.SameBinding (s.goTracked pc) :=
  .ite _ ⟨rfl, rfl, rfl⟩ ⟨rfl, rfl, rfl⟩

/-- Whether this step stores the result of a handshake. -/
def Outcome.stores : Outcome → ServePc → Bool
  | .proceed, .publish _ _ => true
  | _, _ => false

lemma Outcome.of_stores {outcome : Outcome} {pc : ServePc} (h : outcome.stores pc = true) :
    outcome = .proceed ∧ ∃ session result, pc = .publish session result := by
  cases outcome <;> cases pc <;> first
    | exact ⟨rfl, _, _, rfl⟩
    | exact absurd h Bool.false_ne_true

/-- **A step that stores no result** leaves the binding alone or clears the session ID. -/
lemma advance_cases (i : ℕ) {t : ServeThread} {outcome : Outcome}
    (hstores : outcome.stores t.pc = false) :
    s.SameBinding (s.advance i t outcome) ∨ (s.advance i t outcome).sessionID = "" := by
  have hsame : s.SameBinding s := ⟨rfl, rfl, rfl⟩
  obtain ⟨serving, pc⟩ := t
  cases outcome with
  | proceed =>
    cases pc with
    | publish session result => exact absurd hstores (by simp [Outcome.stores])
    | swap dead replacement =>
      by_cases hstale : s.staleReinstall dead
      · left
        simp only [advance, if_pos hstale]
        exact hsame
      · right
        simp only [advance, if_neg hstale]
        rfl
    | retire old replacement =>
      left
      simp only [advance]
      split_ifs
      · exact sameBinding_goTracked _
      · exact hsame
    | top =>
      left
      refine .ite _ hsame ?_
      cases s.session with
      | none => exact hsame
      | some session => exact .ite _ hsame (.ite _ hsame hsame)
    | reinstall dead => exact Or.inl (.ite _ hsame hsame)
    | _ => exact Or.inl hsame
  | handshakeDone result =>
    left
    cases pc with
    | handshake session retry => exact .ite _ hsame hsame
    | _ => exact hsame
  | stale =>
    left
    cases pc with
    | handshake session retry => exact .ite _ hsame hsame
    | _ => exact hsame
  | acceptFails =>
    left
    cases pc with
    | handshake session retry => exact .ite _ hsame hsame
    | accept session => exact .ite _ hsame hsame
    | _ => exact hsame
  | handshakeFails => left; cases pc <;> exact hsame
  | dead => left; cases pc <;> exact hsame
  | built isolated => left; cases pc <;> exact hsame
  | buildFails => left; cases pc <;> exact hsame

lemma bound_of_empty (h : s.sessionID = "") : s.Bound := fun hne => absurd h hne

lemma publishesInstalled_of_not_stores {i : ℕ} {t : ServeThread} {outcome : Outcome}
    (ht : s.threads[i]? = some t) (hstores : outcome.stores t.pc = false) :
    s.PublishesInstalled (.step i outcome) := by
  cases outcome with
  | proceed =>
    obtain ⟨serving, pc⟩ := t
    rw [PublishesInstalled, ht]
    cases pc with
    | publish session result => exact absurd hstores (by simp [Outcome.stores])
    | _ => trivial
  | _ => trivial

/-- **A step keeps the session ID bound exactly if it stores no result of another pair.** -/
lemma publishesInstalled_iff (e : Event) (h : s.Bound) :
    s.PublishesInstalled e ↔ (s.step e).Bound := by
  cases e with
  | step i outcome =>
    rw [step]
    cases ht : s.threads[i]? with
    | none =>
      refine iff_of_true ?_ h
      cases outcome <;> simp [PublishesInstalled, ht]
    | some t =>
      cases hstores : outcome.stores t.pc with
      | false =>
        refine iff_of_true (publishesInstalled_of_not_stores ht hstores) ?_
        rcases advance_cases i hstores with hsame | hempty
        · exact hsame.bound_iff.2 h
        · exact bound_of_empty hempty
      | true =>
        obtain ⟨serving, pc⟩ := t
        obtain ⟨rfl, session, result, rfl⟩ := Outcome.of_stores hstores
        rw [PublishesInstalled, ht]
        show _ ↔ (result.sessionID ≠ "" →
          s.pair.isSome ∧ some session.pair = s.pair.map SessionPair.id)
        refine forall_congr' fun _ => ?_
        cases s.pair <;> simp [eq_comm]
  | reconnect =>
    have hsame : s.SameBinding (s.step .reconnect) := .ite _ ⟨rfl, rfl, rfl⟩ ⟨rfl, rfl, rfl⟩
    exact iff_of_true trivial (hsame.bound_iff.2 h)
  | cancel => exact iff_of_true trivial h
  | stop => exact iff_of_true trivial h
  | closeSession => exact iff_of_true trivial (bound_of_empty rfl)

lemma bound_start (first : Option Bool) : (start first).Bound := by
  rcases first with _ | _ | _ <;> exact bound_of_empty rfl

/-- **When the session ID of a single-peer server belongs to the installed pair.** -/
theorem session_bound_iff (first : Option Bool) (events : List Event) :
    (∀ es, es <+: events → (run step (start first) es).Bound) ↔
      Along step PublishesInstalled (start first) events :=
  (along_iff_forall_initial step (fun _ e h => publishesInstalled_iff e h)
    (bound_start first)).symm

/-- A handshake completes, the provider reconnects, the pair is replaced, and then the result is
    stored. -/
def overtakenHandshake : List Event :=
  [.step 1 (.handshakeDone ⟨"session", "phone"⟩), .reconnect, .step 2 .proceed, .step 2 .proceed,
    .step 2 .proceed, .step 2 (.built true), .step 2 .proceed, .step 2 .proceed, .step 1 .proceed,
    .step 0 .proceed]

/-- The session ID of the retired pair is that of the new one, on which no handshake has taken
    place: its own goroutine still waits for one, and `serveSingle` accepts data streams already. -/
theorem session_bound_retired :
    let s := run step (start (some true)) overtakenHandshake
    ¬ s.Bound ∧ s.sessionID = "session" ∧ s.origin = some 0 ∧ s.pair = some ⟨1, true⟩ ∧
    s.threads[3]? = some ⟨false, .handshake ⟨1, .control⟩ 0⟩ ∧
    s.threads[0]? = some ⟨true, .accept ⟨1, .data⟩⟩ := by
  decide +kernel

/-- The same calls in an order that keeps to the condition: the result is stored before the pair is
    replaced, and the new pair gets a session ID of its own. -/
def timelyHandshakes : List Event :=
  [.step 1 (.handshakeDone ⟨"session", "phone"⟩), .step 1 .proceed, .step 1 .proceed, .reconnect,
    .step 3 .proceed, .step 3 .proceed, .step 3 .proceed, .step 3 (.built true), .step 3 .proceed,
    .step 3 .proceed, .step 4 (.handshakeDone ⟨"next", "phone"⟩), .step 4 .proceed]

/-- Every state of that run is bound. -/
theorem session_bound_iff_timely :
    (run step (start (some true)) timelyHandshakes).sessionID = "next" ∧
    ∀ es, es <+: timelyHandshakes → (run step (start (some true)) es).Bound :=
  ⟨by decide +kernel, (session_bound_iff (some true) timelyHandshakes).2 (by decide +kernel)⟩

end SingleServer

end OlcRtc
