import OlcRtc.Lib.Calls
import OlcRtc.Server.Single

/-!
# Waking the loop of a single-peer server

`serveSingle` has nothing to do while there is no session, and while an isolated control session
has not shaken hands.  It then waits on a channel of the server's `stateGate`, and whoever changes
the session, the control connection or the session ID closes that channel afterwards.

Two locks are involved.  The loop takes the channel under the lock of the gate and reads the state
under `sessMu`; the others change the state under `sessMu`, take the channel away under the lock of
the gate, and close it when they hold neither.  The loop takes the channel first.  A change that it
does not see in the state is therefore followed by a broadcast that finds this very channel, unless
somebody else has taken it away to close it.

**`no_lost_wakeup`** puts this together for all interleavings: a loop that waits on a channel which
nobody has closed and nobody is about to close still has a reason to wait.
-/

namespace OlcRtc

/-! ## The gate -/

/-- `stateGate`.  Channels are numbered in the order they are made. -/
structure StateGate where
  ch : Option ℕ := none
  made : ℕ := 0
  closed : List ℕ := []

namespace StateGate

def wait (g : StateGate) : ℕ × StateGate :=
  match g.ch with
  | some ch => (ch, g)
  | none => (g.made, { g with ch := some g.made, made := g.made + 1 })

end StateGate

/-! ## The goroutines -/

/-- What a goroutine does to the session under `sessMu`. -/
inductive SessionChange
  /-- `installSession`. -/
  | install (pair : SessionPair)
  /-- `swapSession`. -/
  | swap (dead : Option SmuxSession) (replacement : SessionPair)
  /-- `acceptSingletonHandshake`. -/
  | handshake (session : SmuxSession) (result : HandshakeResult)
  /-- `closeSession`. -/
  | close
  deriving DecidableEq

/-- The state after the lock region.  A stale `swapSession` changes nothing and does not
    broadcast. -/
def SessionChange.apply (s : SingleServer) : SessionChange → Option SingleServer
  | .install pair => some (s.installPairLocked pair)
  | .swap dead replacement =>
    if s.staleReinstall dead then none else some (s.swapSession replacement)
  | .handshake session result => some (s.publish session result)
  | .close => some s.closeSession

inductive Resume
  | loop
  | accept (session : SmuxSession)
  | finished
  deriving DecidableEq

/-- Where a goroutine stands: in the loop, or on the way to change the session. -/
inductive GatePc
  /-- The head of the loop of `serveSingle`. -/
  | loop
  /-- After `s.state.wait()`. -/
  | sampled (ch : ℕ)
  /-- In `waitState`. -/
  | waiting (ch : ℕ)
  /-- In `acceptSingletonHandshake`, before it has a result. -/
  | handshake (session : SmuxSession)
  /-- In `AcceptStream`. -/
  | accept (session : SmuxSession)
  /-- Before the lock region of a change. -/
  | change (c : SessionChange) (next : Resume)
  /-- After it. -/
  | changed (next : Resume)
  /-- In `broadcast`, after it took the channel away. -/
  | closing (ch : ℕ) (next : Resume)
  /-- Before the context of the server is cancelled. -/
  | cancel
  /-- Returned. -/
  | finished
  deriving DecidableEq

def Resume.pc : Resume → GatePc
  | .loop => .loop
  | .accept session => .accept session
  | .finished => .finished

/-- The goroutine has changed the session and its broadcast is not over. -/
def GatePc.broadcasting : GatePc → Bool
  | .changed _ | .closing _ _ => true
  | _ => false

structure GatedServer where
  server : SingleServer
  gate : StateGate

inductive GateOutcome
  /-- `acceptHandshake` succeeded. -/
  | handshakeDone (result : HandshakeResult)
  /-- `AcceptStream` gave a stream. -/
  | stream
  /-- It failed, or the handshake did, and `NewSessionPair` gave a replacement or failed too. -/
  | fails (replacement : Option SessionPair)

/-- The condition under which the loop waits. -/
def SingleServer.MustWait (s : SingleServer) : Prop :=
  s.session = none ∨ s.sessionID = "" ∧ s.controlConn = true

instance (s : SingleServer) : Decidable s.MustWait := inferInstanceAs (Decidable (_ ∨ _))

namespace GatedServer

/-- The loop, the goroutines that change the session, and the one that cancels the context. -/
def isEntry : GatePc → Bool
  | .loop | .change _ .finished | .cancel => true
  | _ => false

/-- `reinstallSession` in the loop. -/
def reinstall (session : SmuxSession) : Option SessionPair → GatePc
  | none => .loop
  | some replacement => .change (.swap (some session) replacement) .loop

def act (_ : ℕ) (c : GateOutcome) (w : GatedServer) : GatePc → Option (GatedServer × GatePc)
  | .loop =>
    if w.server.ctxDone then some (w, .finished)
    else some ({ w with gate := w.gate.wait.2 }, .sampled w.gate.wait.1)
  | .sampled ch =>
    if w.server.MustWait then some (w, .waiting ch)
    else
      match w.server.session with
      | some session =>
        some (w, if w.server.sessionID = "" then .handshake session else .accept session)
      | none => none
  | .waiting ch =>
    if w.server.ctxDone then some (w, .finished)
    else if ch ∈ w.gate.closed then some (w, .loop)
    else none
  | .handshake session =>
    match c with
    | .handshakeDone result => some (w, .change (.handshake session result) (.accept session))
    | .fails replacement => some (w, reinstall session replacement)
    | .stream => none
  | .accept session =>
    match c with
    | .stream => some (w, .loop)
    | .fails replacement =>
      some (w, if w.server.ctxDone then .finished else reinstall session replacement)
    | .handshakeDone _ => none
  | .change change next =>
    match change.apply w.server with
    | some server => some ({ w with server }, .changed next)
    | none => some (w, next.pc)
  | .changed next =>
    match w.gate.ch with
    | some ch => some ({ w with gate := { w.gate with ch := none } }, .closing ch next)
    | none => some (w, next.pc)
  | .closing ch next =>
    some ({ w with gate := { w.gate with closed := w.gate.closed ++ [ch] } }, next.pc)
  | .cancel => some ({ w with server := { w.server with ctxDone := true } }, .finished)
  | .finished => none

abbrev State := Calls.State GatedServer GatePc

/-! ## Nothing is missed -/

/-- Channel `ch` is closed, or somebody is about to close it. -/
def Ending (s : State) (ch : ℕ) : Prop :=
  ch ∈ s.world.gate.closed ∨ ∃ next, .closing ch next ∈ s.calls

/-- A loop that has its channel finds it in the gate until somebody takes it away, and one that
    waits has a reason to until somebody changes the session. -/
structure Awake (s : State) : Prop where
  sampled : ∀ ch, .sampled ch ∈ s.calls → Ending s ch ∨ s.world.gate.ch = some ch
  waiting : ∀ ch, .waiting ch ∈ s.calls → Ending s ch ∨
    s.world.gate.ch = some ch ∧ (s.world.server.MustWait ∨ ∃ next, .changed next ∈ s.calls)

lemma reinstall_cases (session : SmuxSession) (replacement : Option SessionPair) :
    reinstall session replacement = .loop ∨ ∃ c, reinstall session replacement = .change c .loop :=
  match replacement with
  | none => .inl rfl
  | some _ => .inr ⟨_, rfl⟩

lemma Resume.pc_cases (next : Resume) :
    next.pc = .loop ∨ (∃ session, next.pc = .accept session) ∨ next.pc = .finished :=
  match next with
  | .loop => .inl rfl
  | .accept _ => .inr (.inl ⟨_, rfl⟩)
  | .finished => .inr (.inr rfl)

lemma Awake.begin {s : State} (h : Awake s) {pc : GatePc} (hentry : isEntry pc = true) :
    Awake { s with calls := s.calls ++ [pc] } := by
  obtain ⟨hsampled, hwaiting⟩ := h
  constructor <;> grind -linarith [Ending, isEntry]

lemma Awake.advance {s : State} (h : Awake s) {i : ℕ} {c : GateOutcome} {pc pc' : GatePc}
    {w : GatedServer} (hpc : s.calls[i]? = some pc) (hact : act i c s.world pc = some (w, pc')) :
    Awake ⟨w, s.calls.set i pc'⟩ := by
  obtain ⟨hsampled, hwaiting⟩ := h
  have hmem : ∀ x ∈ s.calls.set i pc', x ∈ s.calls ∨ x = pc' := by
    intro x hx
    exact List.mem_or_eq_of_mem_set hx
  have hnew : pc' ∈ s.calls.set i pc' := List.mem_set (List.getElem?_eq_some_iff.1 hpc).1 _
  have hkeep : ∀ x ∈ s.calls, x ≠ pc → x ∈ s.calls.set i pc' := by
    intro x hx hne
    obtain ⟨j, hj⟩ := List.mem_iff_getElem?.1 hx
    refine List.mem_iff_getElem?.2 ⟨j, ?_⟩
    grind
  have hpc := List.mem_of_getElem? hpc
  generalize s.calls.set i pc' = calls at *
  cases pc <;> simp only [act] at hact <;> (repeat' split at hact) <;> cases hact <;> constructor <;>
    grind -linarith [Ending, StateGate.wait, SingleServer.MustWait, reinstall_cases,
      Resume.pc_cases]

abbrev step : State → Calls.Event GatePc GateOutcome → State := Calls.step isEntry act

/-- **No wakeup is lost**, whatever the goroutines do and in whatever order. -/
theorem no_lost_wakeup (server : SingleServer) (events : List (Calls.Event GatePc GateOutcome))
    (ch : ℕ) (hwaits : .waiting ch ∈ (run step ⟨⟨server, {}⟩, []⟩ events).calls)
    (hopen : ch ∉ (run step ⟨⟨server, {}⟩, []⟩ events).world.gate.closed)
    (hquiet : ∀ pc ∈ (run step ⟨⟨server, {}⟩, []⟩ events).calls, pc.broadcasting = false) :
    (run step ⟨⟨server, {}⟩, []⟩ events).world.server.MustWait := by
  have hawake : Awake (run step ⟨⟨server, {}⟩, []⟩ events) :=
    run_invariant_of_step _ (fun _ e h => Calls.step_preserves h e (fun _ => h.begin)
      fun _ _ _ _ _ => h.advance) ⟨nofun, nofun⟩ events
  rcases hawake.waiting ch hwaits with (hclosed | ⟨next, hclosing⟩) | ⟨-, hmust | ⟨next, hchanged⟩⟩
  · exact absurd hclosed hopen
  · exact absurd (hquiet _ hclosing) nofun
  · exact hmust
  · exact absurd (hquiet _ hchanged) nofun

/-- The loop finds no session and waits; a pair with an isolated control session is installed and
wakes it; it samples a new channel and waits for the handshake. -/
theorem no_lost_wakeup_installed :
    (run step ⟨⟨SingleServer.start none, {}⟩, []⟩
      [.begin .loop, .step 0 .stream, .step 0 .stream, .begin (.change (.install ⟨0, true⟩) .finished),
        .step 1 .stream, .step 1 .stream, .step 1 .stream, .step 0 .stream, .step 0 .stream,
        .step 0 .stream]).world.server.MustWait :=
  no_lost_wakeup _ _ 1 (by decide) (by decide) (by decide)

end GatedServer

end OlcRtc
