import OlcRtc.Lib.Steps

/-!
# Reconnecting an engine

An engine session holds one connection to its conference server and replaces it when it fails.
Failures are noticed on many goroutines: callbacks of the connection, keepalives, send workers, the
layers above.  Each of them reports through `Request`, which puts a token into a queue of size one,
or does nothing because there is one already, the session is closed, or a reconnect is running.
One goroutine, `Watch`, takes the token and calls the `reconnect` of the engine until it succeeds;
then it drains the queue, since what was requested meanwhile is taken to be about the old
connection.

The machine below has the `Watch` goroutine, with the LiveKit and the Goolom `reconnect`, and any
number of reports.  Reports read the flags of the session one at a time, so that a reconnect can
start or end between two reads.

A report must not get lost: as long as the session lives, either a request is queued, or `Watch` is
at work, or nothing was reported about the installed connection.  `reported` is a ghost field that
records the latter.

**`no_lost_reconnect`** proves this for runs in which no failure of a new connection is reported
before the reconnect that installed it is over, queue and all.  The flag `reconnecting` is cleared
and the queue is drained only after the connection is installed and the reconnect callback of the
layers above, which shakes hands again, has returned.  **`reconnect_lost`** shows that a report that
comes in this time is refused, or queued and drained, and that the session then waits for ever with
a dead connection.
-/

namespace OlcRtc

/-! ## The goroutines -/

inductive EngineKind
  | livekit | goolom
  deriving DecidableEq

/-- Where the `reconnect` of an engine stands. -/
inductive ReconnectPc
  /-- Before `terminated` is read (Goolom only). -/
  | entry
  /-- Before `reconnecting` is set. -/
  | mark
  /-- In the time given to the server to see the leave message (Goolom only). -/
  | leave
  /-- Before the old connection is taken down. -/
  | teardown
  /-- Before the credentials are refreshed. -/
  | refresh
  /-- Before `connectRoom`, or at the beginning of `Connect`. -/
  | connect
  /-- Before the new connection is installed. -/
  | install
  /-- Before the tracks are published, or the wait for the new connection is over. -/
  | settle
  /-- Before `NotifyReconnect`. -/
  | notify
  /-- Before the deferred `reconnecting.Store(false)`. -/
  | clear (failed : Bool)
  deriving DecidableEq

/-- Where `Watch` stands. -/
inductive WatchPc
  /-- In its `select`. -/
  | idle
  /-- Before `nextRequestCount`. -/
  | attempt
  | reconnect (pc : ReconnectPc)
  /-- In `Drain`. -/
  | drain
  /-- In `waitReconnect`. -/
  | backoff
  | finished
  deriving DecidableEq

/-- A new connection is installed, and the reconnect that installed it is not over. -/
def WatchPc.settling : WatchPc → Bool
  | .reconnect .settle | .reconnect .notify | .reconnect (.clear false) | .drain => true
  | _ => false

inductive ReportSource
  /-- `OnDisconnected` of the LiveKit room. -/
  | onDisconnected
  /-- `Reconnect`, called by the layers above. -/
  | reconnect
  /-- `onConnectionStateChange`, `onDataChannelClose` and `handleSignaling` of Goolom. -/
  | guarded
  /-- The publisher, the pings and the send workers of Goolom, which read no flag of their own. -/
  | direct
  deriving DecidableEq

def EngineKind.reports : EngineKind → ReportSource → Bool
  | .livekit, .onDisconnected | .livekit, .reconnect => true
  | .goolom, .reconnect | .goolom, .guarded | .goolom, .direct => true
  | _, _ => false

inductive ReportPc
  /-- Before it reads `closed` for itself. -/
  | guardClosed
  /-- Before it reads `reconnecting` for itself. -/
  | guardReconnecting
  /-- In `queueReconnect`, before `closed` is read. -/
  | loadClosed
  | loadReconnecting (closed : Bool)
  /-- In `Request`, before `ShouldReconnect`. -/
  | policy (closed reconnecting : Bool)
  /-- In `Request`, before the `select`. -/
  | send
  /-- Before `signalEnded`. -/
  | rejected
  | finished
  deriving DecidableEq

def ReportPc.ReadClosed : ReportPc → Prop
  | .loadReconnecting closed => closed = true
  | .policy closed _ => closed = true
  | _ => False

def ReportSource.start : ReportSource → ReportPc
  | .direct => .loadClosed
  | _ => .guardClosed

structure Report where
  source : ReportSource
  /-- The connection it is about. -/
  conn : ℕ
  pc : ReportPc
  deriving DecidableEq

/-! ## The session -/

/-- An engine session with its `Reconnector`. -/
structure EngineSession where
  kind : EngineKind
  closed : Bool
  reconnecting : Bool
  /-- `Close` was called; this is `terminated` of Goolom. -/
  terminated : Bool
  /-- `SignalEnded` was called. -/
  ended : Bool
  /-- Whether the queue holds a request. -/
  queue : Bool
  /-- What `ShouldReconnect` answers. -/
  policy : Bool
  ctxDone : Bool
  /-- Whether `closeCh` is closed. -/
  done : Bool
  count : ℕ
  lastRequest : Option ℕ
  /-- How many connections were made. -/
  made : ℕ
  installed : Option ℕ
  /-- Whether a failure of the installed connection was reported since it was installed. -/
  reported : Bool
  watch : WatchPc
  reports : List Report

/-- `reconnectFailureWindow`, in seconds. -/
def reconnectFailureWindow : ℕ := 5 * 60

def EngineKind.maxAttempts : EngineKind → ℕ
  | .livekit => 10
  | .goolom => 10

inductive WatchOutcome
  | succeeds
  | fails
  /-- The context is done, or `closeCh` is closed. -/
  | stopped
  deriving DecidableEq

namespace EngineSession

variable (s : EngineSession)

def start (kind : EngineKind) : EngineSession :=
  ⟨kind, false, false, false, false, false, true, false, false, 0, none, 1, some 0, false, .idle,
    []⟩

/-- `shutdown` of LiveKit, which runs once. -/
def shutdown : EngineSession := if s.done then s else { s with done := true, installed := none }

def signalEnded : EngineSession :=
  match s.kind with
  | .livekit => { shutdown { s with closed := true } with ended := true }
  | .goolom => { s with closed := true, ended := true }

def close : EngineSession :=
  match s.kind with
  | .livekit => shutdown { s with terminated := true, closed := true }
  | .goolom => { s with terminated := true, closed := true, done := true, installed := none }

def nextRequestCount (now : ℕ) : EngineSession :=
  let count :=
    match s.lastRequest with
    | some last => if now - last > reconnectFailureWindow then 0 else s.count
    | none => 0
  { s with count := count + 1, lastRequest := some now }

/-- `Watch` goes on at `pc`. -/
def goto (pc : WatchPc) : EngineSession := { s with watch := pc }

def installLast : EngineSession :=
  { s with installed := some (s.made - 1), reported := false }

/-- `reconnect` of LiveKit. -/
def livekitStep (ok : Bool) : ReconnectPc → EngineSession
  | .entry => s.goto (.reconnect .mark)
  | .mark => goto { s with reconnecting := true } (.reconnect .teardown)
  | .leave => s.goto (.reconnect .teardown)
  | .teardown => goto { s with installed := none } (.reconnect .refresh)
  | .refresh => s.goto (.reconnect (if ok then .connect else .clear true))
  | .connect =>
    if ok then goto { s with made := s.made + 1 } (.reconnect .install)
    else s.goto (.reconnect (.clear true))
  | .install => s.installLast.goto (.reconnect .settle)
  | .settle => s.goto (.reconnect (if ok then .notify else .clear true))
  | .notify => s.goto (.reconnect (.clear false))
  | .clear failed => goto { s with reconnecting := false } (if failed then .backoff else .drain)

/-- `reconnect` of Goolom, with its `Connect`. -/
def goolomStep (ok : Bool) : ReconnectPc → EngineSession
  | .entry => s.goto (if s.terminated then .backoff else .reconnect .mark)
  | .mark => goto { s with reconnecting := true } (.reconnect .leave)
  | .leave => s.goto (.reconnect (if ok then .teardown else .clear true))
  | .teardown => goto { s with installed := none } (.reconnect .refresh)
  | .refresh => s.goto (.reconnect (if ok then .connect else .clear true))
  | .connect =>
    if s.terminated then s.goto (.reconnect (.clear true))
    else goto { s with closed := false } (.reconnect .install)
  | .install =>
    if ok then (installLast { s with made := s.made + 1 }).goto (.reconnect .settle)
    else s.goto (.reconnect (.clear true))
  | .settle =>
    if ¬ ok then s.goto (.reconnect (.clear true))
    -- `abortIfTerminated`
    else if s.terminated then goto { s with installed := none } (.reconnect (.clear true))
    else s.goto (.reconnect .notify)
  | .notify => s.goto (.reconnect (.clear false))
  | .clear failed => goto { s with reconnecting := false } (if failed then .backoff else .drain)

/-- One step of `Watch`, with `handleRequestAttempt`, `Drain` and `waitReconnect`. -/
def watchStep (outcome : WatchOutcome) (now : ℕ) : EngineSession :=
  match s.watch with
  | .idle =>
    if outcome = .stopped then if s.ctxDone ∨ s.done then s.goto .finished else s
    else if s.queue then goto { s with queue := false } .attempt else s
  | .attempt =>
    if (s.nextRequestCount now).count > s.kind.maxAttempts then
      (s.nextRequestCount now).signalEnded.goto .finished
    else (s.nextRequestCount now).goto (.reconnect .entry)
  | .reconnect pc =>
    match s.kind with
    | .livekit => s.livekitStep (outcome = .succeeds) pc
    | .goolom => s.goolomStep (outcome = .succeeds) pc
  | .drain => if s.queue then { s with queue := false } else s.goto .idle
  | .backoff =>
    if outcome = .stopped then if s.ctxDone ∨ s.done then s.goto .finished else s
    else s.goto .attempt
  | .finished => s

/-- Report `i` goes on at `pc`. -/
def proceed (i : ℕ) (r : Report) (pc : ReportPc) : EngineSession :=
  { s with reports := s.reports.set i { r with pc := pc } }

/-- Report `i` is over. -/
def complete (i : ℕ) (r : Report) : EngineSession :=
  { s.proceed i r .finished with reported := s.reported || s.installed = some r.conn }

/-- One step of report `i`. -/
def reportStep (i : ℕ) (r : Report) : EngineSession :=
  match r.pc with
  | .guardClosed =>
    if s.closed then s.complete i r
    else s.proceed i r (if r.source = .onDisconnected then .guardReconnecting else .loadClosed)
  | .guardReconnecting => if s.reconnecting then s.complete i r else s.proceed i r .loadClosed
  | .loadClosed => s.proceed i r (.loadReconnecting s.closed)
  | .loadReconnecting closed => s.proceed i r (.policy closed s.reconnecting)
  | .policy closed reconnecting =>
    if closed ∨ reconnecting ∨ ¬ s.policy then
      -- only `OnDisconnected` looks at the answer of `Request`
      if r.source = .onDisconnected then s.proceed i r .rejected else s.complete i r
    else s.proceed i r .send
  | .send => complete { s with queue := true } i r
  | .rejected => s.signalEnded.complete i r
  | .finished => s

inductive Event
  /-- A failure of a connection is noticed. -/
  | fails (source : ReportSource) (conn : ℕ)
  /-- Report `i` takes a step. -/
  | report (i : ℕ)
  /-- `Watch` takes a step. -/
  | watch (outcome : WatchOutcome) (now : ℕ)
  /-- `ShouldReconnect` changes its mind. -/
  | policy (allowed : Bool)
  /-- Goolom: the server ends the conference. -/
  | conferenceEnded
  | cancel
  | close

def step : Event → EngineSession
  | .fails source conn =>
    if s.kind.reports source ∧ conn < s.made then
      { s with reports := s.reports ++ [⟨source, conn, source.start⟩] }
    else s
  | .report i =>
    match s.reports[i]? with
    | some r => s.reportStep i r
    | none => s
  | .watch outcome now => s.watchStep outcome now
  | .policy allowed => { s with policy := allowed }
  | .conferenceEnded => if s.kind = .goolom then s.signalEnded else s
  | .cancel => { s with ctxDone := true }
  | .close => s.close

/-! ## No report is lost -/

def Live : Prop := s.closed = false ∧ s.terminated = false ∧ s.ended = false

/-- `Watch` waits for a request. -/
def Waiting : Prop := s.watch = .idle ∧ s.queue = false

instance : Decidable s.Live := inferInstanceAs (Decidable (_ ∧ _ ∧ _))
instance : Decidable s.Waiting := inferInstanceAs (Decidable (_ ∧ _))

/-- What a report has to find in order not to be lost: no reconnect is running or settling, and
    reconnecting is allowed. -/
def HearsReport (r : Report) : Prop :=
  match r.pc with
  | .guardReconnecting => s.reconnecting = false
  | .policy closed reconnecting =>
    closed = true ∨ r.source = .onDisconnected ∨ reconnecting = false ∧ s.policy = true
  | .send => s.watch.settling = false
  | _ => True

instance (r : Report) : Decidable (s.HearsReport r) := by
  unfold HearsReport
  split <;> infer_instance

/-- Reports about the installed connection are heard. -/
def Hears : Event → Prop
  | .report i => ∀ r ∈ s.reports[i]?, s.installed = some r.conn → s.HearsReport r
  | _ => True

instance (e : Event) : Decidable (s.Hears e) := by
  unfold Hears
  split <;> infer_instance

/-- `Close` or `SignalEnded` was called; this stays so. -/
def Over : Prop := s.terminated = true ∨ s.ended = true

structure Inv : Prop where
  closed : s.closed = true → s.Over
  read : ∀ r ∈ s.reports, r.pc.ReadClosed → s.Over
  queued : ¬ s.Over → s.watch = .idle → s.reported = true → s.queue = true
  settling : ¬ s.Over → s.watch.settling = true → s.reported = false

variable {s}

lemma inv_start (kind : EngineKind) : (start kind).Inv :=
  ⟨nofun, nofun, fun _ _ => nofun, fun _ _ => rfl⟩

lemma inv_of_over (h : s.Over) : s.Inv :=
  ⟨fun _ => h, fun _ _ _ => h, fun hlive => absurd h hlive, fun hlive => absurd h hlive⟩

lemma over_signalEnded (s : EngineSession) : s.signalEnded.Over := by
  refine Or.inr ?_
  unfold signalEnded
  cases s.kind <;> rfl

lemma over_close (s : EngineSession) : s.close.Over := by
  refine Or.inl ?_
  unfold close
  cases s.kind with
  | goolom => rfl
  | livekit =>
    dsimp only
    unfold shutdown
    split_ifs <;> rfl

/-! ### Reports -/

lemma Inv.proceed (h : s.Inv) (i : ℕ) (r : Report) {pc : ReportPc}
    (hpc : pc.ReadClosed → s.Over) : (s.proceed i r pc).Inv := by
  refine ⟨h.closed, ?_, h.queued, h.settling⟩
  intro r₀ hr₀ hread
  rcases List.mem_or_eq_of_mem_set hr₀ with hr₀ | rfl
  · exact h.read r₀ hr₀ hread
  · exact hpc hread

lemma Inv.complete (h : s.Inv) (i : ℕ) (r : Report)
    (hheard : s.installed = some r.conn →
      s.Over ∨ ((s.watch = .idle → s.queue = true) ∧ s.watch.settling = false)) :
    (s.complete i r).Inv := by
  have hproceed : (s.proceed i r .finished).Inv := h.proceed i r nofun
  by_cases hover : s.Over
  · exact inv_of_over hover
  refine ⟨h.closed, hproceed.read, ?_, ?_⟩
  · intro _ hidle hreported
    rcases Bool.or_eq_true_iff.1 hreported with hbefore | hnow
    · exact h.queued hover hidle hbefore
    · exact ((hheard (of_decide_eq_true hnow)).resolve_left hover).1 hidle
  · intro _ hsettling
    show (s.reported || _) = false
    rw [h.settling hover hsettling, Bool.false_or, decide_eq_false_iff_not]
    intro hconn
    exact absurd (hsettling.symm.trans ((hheard hconn).resolve_left hover).2) (by simp)

/-- **A report keeps the invariant**, if it is heard. -/
lemma Inv.report (h : s.Inv) {i : ℕ} (hheard : s.Hears (.report i)) :
    (s.step (.report i)).Inv := by
  simp only [EngineSession.step]
  cases hr : s.reports[i]? with
  | none => exact h
  | some r =>
    have hread : r.pc.ReadClosed → s.Over := h.read r (List.mem_of_getElem? hr)
    have hneed : s.installed = some r.conn → s.HearsReport r := hheard r hr
    unfold HearsReport at hneed
    simp only [reportStep]
    cases hpc : r.pc with
    | guardClosed =>
      dsimp only
      split_ifs with hclosed hsource
      · exact h.complete i r fun _ => Or.inl (h.closed hclosed)
      · exact h.proceed i r nofun
      · exact h.proceed i r nofun
    | guardReconnecting =>
      rw [hpc] at hneed
      dsimp only
      split_ifs with hrec
      · refine h.complete i r fun hconn => ?_
        exact absurd (hrec.symm.trans (hneed hconn)) (by simp)
      · exact h.proceed i r nofun
    | loadClosed => exact h.proceed i r h.closed
    | loadReconnecting closed =>
      rw [hpc] at hread
      exact h.proceed i r hread
    | policy closed reconnecting =>
      rw [hpc] at hread hneed
      dsimp only
      split_ifs with hreject hsource
      · exact h.proceed i r nofun
      · refine h.complete i r fun hconn => Or.inl ?_
        rcases hneed hconn with hclosed | hsource' | ⟨hrec, hpolicy⟩
        · exact hread hclosed
        · exact absurd hsource' hsource
        · rw [hrec, hpolicy] at hreject
          exact hread (show closed = true by simpa using hreject)
      · exact h.proceed i r nofun
    | send =>
      rw [hpc] at hneed
      have hqueued : ({ s with queue := true } : EngineSession).Inv :=
        ⟨h.closed, h.read, fun _ _ _ => rfl, h.settling⟩
      exact hqueued.complete i r fun hconn => Or.inr ⟨fun _ => rfl, hneed hconn⟩
    | rejected => exact inv_of_over (over_signalEnded s)
    | finished => exact h

/-! ### The watch loop -/

lemma Inv.watched {s' : EngineSession} (h : s.Inv) (hover : s'.Over ↔ s.Over)
    (hclosed : s'.closed = true → s.closed = true) (hreports : s'.reports = s.reports)
    (hidle : ¬ s.Over → s'.watch = .idle → s'.reported = true → s'.queue = true)
    (hsettling : ¬ s.Over → s'.watch.settling = true → s'.reported = false) : s'.Inv := by
  refine ⟨fun hc => hover.2 (h.closed (hclosed hc)), ?_, ?_, ?_⟩
  · rw [hreports, hover]
    exact h.read
  · rw [hover]
    exact hidle
  · rw [hover]
    exact hsettling

lemma Inv.watched_busy {s' : EngineSession} (h : s.Inv) (hover : s'.Over ↔ s.Over)
    (hclosed : s'.closed = true → s.closed = true) (hreports : s'.reports = s.reports)
    (hidle : s'.watch ≠ .idle) (hsettling : s'.watch.settling = false) : s'.Inv :=
  h.watched hover hclosed hreports (fun _ hpc => absurd hpc hidle)
    fun _ hset => absurd (hset.symm.trans hsettling) (by simp)

lemma Inv.watched_settling {s' : EngineSession} (h : s.Inv) (hover : s'.Over ↔ s.Over)
    (hclosed : s'.closed = true → s.closed = true) (hreports : s'.reports = s.reports)
    (hreported : s'.reported = s.reported) (hs : s.watch.settling = true) : s'.Inv :=
  h.watched hover hclosed hreports
    (fun hlive _ hset => by rw [hreported, h.settling hlive hs] at hset; cases hset)
    fun hlive _ => by rw [hreported, h.settling hlive hs]

lemma Inv.livekitStep (h : s.Inv) {pc : ReconnectPc} (hpc : s.watch = .reconnect pc) (ok : Bool) :
    (s.livekitStep ok pc).Inv := by
  cases pc with
  | entry | mark | leave | teardown => exact h.watched_busy Iff.rfl id rfl nofun rfl
  | refresh | connect => cases ok <;> exact h.watched_busy Iff.rfl id rfl nofun rfl
  | install => exact h.watched Iff.rfl id rfl (fun _ => nofun) fun _ _ => rfl
  | settle | notify => exact h.watched_settling Iff.rfl id rfl rfl (by rw [hpc]; rfl)
  | clear failed =>
    cases failed with
    | true => exact h.watched_busy Iff.rfl id rfl nofun rfl
    | false => exact h.watched_settling Iff.rfl id rfl rfl (by rw [hpc]; rfl)

lemma Inv.goolomStep (h : s.Inv) {pc : ReconnectPc} (hpc : s.watch = .reconnect pc) (ok : Bool) :
    (s.goolomStep ok pc).Inv := by
  cases pc with
  | entry =>
    simp only [EngineSession.goolomStep]
    cases s.terminated <;> exact h.watched_busy Iff.rfl id rfl nofun rfl
  | mark | teardown => exact h.watched_busy Iff.rfl id rfl nofun rfl
  | leave | refresh => cases ok <;> exact h.watched_busy Iff.rfl id rfl nofun rfl
  | connect =>
    simp only [EngineSession.goolomStep]
    split_ifs
    · exact h.watched_busy Iff.rfl id rfl nofun rfl
    · exact h.watched_busy Iff.rfl nofun rfl nofun rfl
  | install =>
    cases ok with
    | false => exact h.watched_busy Iff.rfl id rfl nofun rfl
    | true => exact h.watched Iff.rfl id rfl (fun _ => nofun) fun _ _ => rfl
  | settle =>
    have hs : s.watch.settling = true := by rw [hpc]; rfl
    simp only [EngineSession.goolomStep]
    split_ifs <;> exact h.watched_settling Iff.rfl id rfl rfl hs
  | notify => exact h.watched_settling Iff.rfl id rfl rfl (by rw [hpc]; rfl)
  | clear failed =>
    cases failed with
    | true => exact h.watched_busy Iff.rfl id rfl nofun rfl
    | false => exact h.watched_settling Iff.rfl id rfl rfl (by rw [hpc]; rfl)

/-- **A step of `Watch` keeps the invariant.** -/
lemma Inv.watchStep (h : s.Inv) (outcome : WatchOutcome) (now : ℕ) :
    (s.watchStep outcome now).Inv := by
  unfold EngineSession.watchStep
  cases hpc : s.watch with
  | idle =>
    dsimp only
    split_ifs
    · exact h.watched_busy Iff.rfl id rfl nofun rfl
    · exact h
    · exact h.watched_busy Iff.rfl id rfl nofun rfl
    · exact h
  | attempt =>
    dsimp only
    split_ifs
    · exact inv_of_over (over_signalEnded (s.nextRequestCount now))
    · exact h.watched_busy Iff.rfl id rfl nofun rfl
  | reconnect pc =>
    dsimp only
    cases s.kind
    · exact h.livekitStep hpc _
    · exact h.goolomStep hpc _
  | drain =>
    have hs : s.watch.settling = true := by rw [hpc]; rfl
    dsimp only
    split_ifs <;> exact h.watched_settling Iff.rfl id rfl rfl hs
  | backoff =>
    dsimp only
    split_ifs
    · exact h.watched_busy Iff.rfl id rfl nofun rfl
    · exact h
    · exact h.watched_busy Iff.rfl id rfl nofun rfl
  | finished => exact h

/-! ### Runs -/

/-- **Every event keeps the invariant**, if reports are heard. -/
lemma Inv.step (h : s.Inv) {e : Event} (hheard : s.Hears e) : (s.step e).Inv := by
  cases e with
  | fails source conn =>
    simp only [EngineSession.step]
    split_ifs
    · refine ⟨h.closed, ?_, h.queued, h.settling⟩
      intro r hr hread
      rcases List.mem_append.1 hr with hr | hr
      · exact h.read r hr hread
      · rw [List.mem_singleton.1 hr] at hread
        cases source <;> cases hread
    · exact h
  | report i => exact h.report hheard
  | watch outcome now => exact h.watchStep outcome now
  | policy allowed => exact ⟨h.closed, h.read, h.queued, h.settling⟩
  | conferenceEnded =>
    simp only [EngineSession.step]
    split_ifs
    · exact inv_of_over (over_signalEnded s)
    · exact h
  | cancel => exact ⟨h.closed, h.read, h.queued, h.settling⟩
  | close => exact inv_of_over (over_close s)

/-- **No reconnect is lost** in the runs in which reports are heard. -/
theorem no_lost_reconnect (kind : EngineKind) (events : List Event)
    (hheard : Along step Hears (start kind) events)
    (hwaiting : (run step (start kind) events).Waiting)
    (hlive : (run step (start kind) events).Live) :
    (run step (start kind) events).reported = false := by
  have hinv : (run step (start kind) events).Inv :=
    run_invariant step (fun _ _ h hP => h.step hP) (inv_start kind) hheard
  have hover : ¬ (run step (start kind) events).Over := by
    rintro (hterminated | hended)
    · exact absurd (hlive.2.1.symm.trans hterminated) (by simp)
    · exact absurd (hlive.2.2.symm.trans hended) (by simp)
  by_contra hreported
  have hqueue := hinv.queued hover hwaiting.1 (by simpa using hreported)
  exact absurd (hwaiting.2.symm.trans hqueue) (by simp)

def replaced : List Event :=
  [[.fails .onDisconnected 0], List.replicate 6 (.report 0),
    List.replicate 12 (.watch .succeeds 0)].flatten

theorem no_lost_reconnect_replaced :
    (run step (start .livekit) replaced).installed = some 1 ∧
    (run step (start .livekit) replaced).reported = false :=
  ⟨by decide +kernel, no_lost_reconnect .livekit replaced (by decide +kernel) (by decide +kernel)
    (by decide +kernel)⟩

/-- LiveKit: the new room disconnects while the layers above are told of the reconnect. -/
def disconnectedInCallback : List Event :=
  [[.fails .onDisconnected 0], List.replicate 6 (.report 0),
    List.replicate 9 (.watch .succeeds 0), [.fails .onDisconnected 1, .report 1, .report 1],
    List.replicate 3 (.watch .succeeds 0)].flatten

/-- Goolom: the new data channel closes after `reconnect` has returned and before `Drain`. -/
def closedBeforeDrain : List Event :=
  [[.fails .direct 0], List.replicate 4 (.report 0), List.replicate 12 (.watch .succeeds 0),
    [.fails .guarded 1], List.replicate 5 (.report 1),
    List.replicate 2 (.watch .succeeds 0)].flatten

/-- A report that comes before the reconnect is over is lost. -/
theorem reconnect_lost :
    ((run step (start .livekit) disconnectedInCallback).Waiting ∧
      (run step (start .livekit) disconnectedInCallback).Live ∧
      (run step (start .livekit) disconnectedInCallback).installed = some 1 ∧
      (run step (start .livekit) disconnectedInCallback).reported = true) ∧
    (run step (start .goolom) closedBeforeDrain).Waiting ∧
    (run step (start .goolom) closedBeforeDrain).Live ∧
    (run step (start .goolom) closedBeforeDrain).installed = some 1 ∧
    (run step (start .goolom) closedBeforeDrain).reported = true := by
  refine ⟨⟨?_, ?_, ?_, ?_⟩, ?_, ?_, ?_, ?_⟩ <;> decide +kernel

end EngineSession

end OlcRtc
