import OlcRtc.Server.Peers

/-!
# What is reported for one peer

A peer reports its session through four calls: `onOpen` and `trackPeerOpen` when the handshake has
succeeded, `onClose` and `trackPeerClose` when the peer is closed.  This file relates the calls that
were made (`history` and `listed`) to the places where the goroutines of the peer stand.

The calls are made by two goroutines that do not wait for each other.  They meet only in two fields
of the peer, its session ID and `closed`: `setHandshake` refuses to store a session ID in a closed
peer, and `closeSnapshot` takes the session ID it finds.  That settles what a closed peer reports
only if storing the session ID and reporting it were one step, which they are not:

* `acceptPeerHandshake` stores first and reports afterwards (`ControlOk`).  A snapshot in between
  finds a session that was not yet reported as open.
* `servePeer` reports first, inside `acceptHandshake`, and stores afterwards (`DataOk`).  A snapshot
  in between finds no session, and `setHandshake` is then refused.

`Undisturbed`, together with the condition on the snapshot in `closeSnapshot_ok`, excludes exactly
these two and the empty session ID, which `closePeerSession` takes for no session.

**`step_ok`** says that every step of every goroutine keeps the invariant `Ok`,
**`closeSnapshot_ok`** that closing the peer keeps it, and **`aboutIssued_step`** that a peer
reports nothing but the session the hook has returned for it.  `Ok.history_initial` and
`Ok.history_of_finished` read off what was reported, at any time and in the end.
-/

namespace OlcRtc

/-- The places of a goroutine that takes no part in a handshake. -/
def PeerPc.Passive : PeerPc → Prop
  | .accept _ | .set _ | .ready _ | .opening _ | .track _ | .startLoop => False
  | _ => True

/-- A session ID is stored, and the calls that report it are not all made. -/
def PeerPc.reporting : PeerPc → Bool
  | .ready _ | .opening _ | .track _ => true
  | _ => false

def PeerEffect.session : PeerEffect → Option String
  | .opened sid | .tracked sid _ | .closed sid | .untracked sid => some sid
  | _ => Option.none

namespace Peer

variable {env : PeerEnv} {q : Peer}

/-- Nothing has been reported for this peer. -/
def Blank (q : Peer) : Prop := q.sessionID = "" ∧ q.history = [] ∧ q.listed = false

/-- The session of this peer has been reported as open, and as closed as far as `closeOnce` has
    come. -/
def Settled (q : Peer) : Prop :=
  q.sessionID ≠ "" ∧ q.issued = some q.sessionID ∧
  match q.once with
  | .track _ => q.history = [.opened q.sessionID, .closed q.sessionID] ∧ q.listed = true
  | .done => q.history = [.opened q.sessionID, .closed q.sessionID] ∧ q.listed = false
  | _ => q.history = [.opened q.sessionID] ∧ q.listed = true

def Issued (q : Peer) (result : HandshakeResult) : Prop :=
  q.issued = some result.sessionID ∧ result.sessionID ≠ ""

/-- How far the handshake on the control plane has come, and what has been reported. -/
def ControlOk (q : Peer) : Prop :=
  match q.handshake with
  | .set r => q.Issued r ∧ q.Blank
  | .ready r | .opening r =>
    q.Issued r ∧ q.sessionID = r.sessionID ∧ q.closed = false ∧ q.history = [] ∧ q.listed = false
  | .track r =>
    q.Issued r ∧ q.sessionID = r.sessionID ∧ q.closed = false ∧
      q.history = [.opened r.sessionID] ∧ q.listed = false
  | .startLoop | .finished => q.Blank ∨ q.Settled
  | _ => q.issued = none ∧ q.Blank

/-- How far the handshake on the data plane has come, and what has been reported. -/
def DataOk (q : Peer) : Prop :=
  match q.serve with
  | .opening r => q.Issued r ∧ q.Blank
  | .track r =>
    q.Issued r ∧ q.sessionID = "" ∧ q.history = [.opened r.sessionID] ∧ q.listed = false
  | .set r => q.Issued r ∧ q.sessionID = "" ∧ q.history = [.opened r.sessionID] ∧ q.listed = true
  | .startLoop | .stream | .finished => q.Blank ∨ q.Settled
  | _ => q.issued = none ∧ q.Blank

/-- `closeOnce` works with the session ID the peer had when it was closed, and has. -/
def OnceOk (q : Peer) : Prop :=
  match q.once with
  | .idle => q.closed = false
  | .signal c | .notify c | .track c => q.closed = true ∧ c = q.sessionID
  | .done => q.closed = true

def Ok (controlPlane : Bool) (q : Peer) : Prop :=
  q.OnceOk ∧
  if controlPlane then q.ControlOk ∧ q.serve.Passive else q.DataOk ∧ q.handshake = .idle

/-- What the steps of a peer have to find: the hook returns no empty session ID, and the session
    ID of a session that was reported as open is stored before the peer is closed. -/
def Undisturbed (q : Peer) : PeerGoroutine → PeerOutcome → Prop
  | .handshake, .success r => r.sessionID ≠ ""
  | .serve, .success r => r.sessionID ≠ ""
  | .serve, .proceed =>
    match q.serve with
    | .set _ => q.closed = false
    | _ => True
  | _, _ => True

lemma ok_new (controlPlane : Bool) (peerID : String) :
    (newPeerSession peerID).Ok controlPlane := by
  refine ⟨rfl, ?_⟩
  cases controlPlane
  · exact ⟨⟨rfl, rfl, rfl, rfl⟩, rfl⟩
  · exact ⟨⟨rfl, rfl, rfl, rfl⟩, trivial⟩

/-- What no step of a peer changes. -/
structure Frame (q q' : Peer) : Prop where
  peerID : q'.peerID = q.peerID
  closed : q'.closed = q.closed
  history : q'.history = q.history
  listed : q'.listed = q.listed
  data : q'.data = q.data
  control : q'.control = q.control
  /-- A goroutine that was not started takes no step. -/
  serve : q.serve = .idle → q'.serve = .idle
  handshake : q.handshake = .idle → q'.handshake = .idle

/-- What `closeOnce` relies on: once a peer is closed its session ID stays. -/
structure KeepsOnce (q q' : Peer) : Prop where
  once : q'.once = q.once
  closed : q'.closed = q.closed
  sessionID : q.closed = true → q'.sessionID = q.sessionID

lemma KeepsOnce.onceOk {q' : Peer} (hkeep : q.KeepsOnce q') (h : q.OnceOk) : q'.OnceOk := by
  grind [OnceOk, KeepsOnce]

lemma OnceOk.idle_of_not_closed (h : q.OnceOk) (hopen : q.closed = false) : q.once = .idle := by
  grind [OnceOk]

lemma frame_handshakeStep (env : PeerEnv) (q : Peer) (o : PeerOutcome) :
    q.Frame (q.handshakeStep env o).1 ∧ q.KeepsOnce (q.handshakeStep env o).1 ∧
      (q.handshakeStep env o).1.serve = q.serve := by
  unfold handshakeStep
  split <;> (try split) <;> (try split_ifs) <;>
    exact ⟨⟨rfl, rfl, rfl, rfl, rfl, rfl, id, by simp_all⟩, ⟨rfl, rfl, by simp_all⟩, rfl⟩

lemma frame_serveStep (env : PeerEnv) (q : Peer) (o : PeerOutcome) :
    q.Frame (q.serveStep env o).1 ∧ q.KeepsOnce (q.serveStep env o).1 ∧
      (q.serveStep env o).1.handshake = q.handshake := by
  unfold serveStep
  split <;> (try split) <;> (try split_ifs) <;>
    exact ⟨⟨rfl, rfl, rfl, rfl, rfl, rfl, by simp_all, id⟩, ⟨rfl, rfl, by simp_all⟩, rfl⟩

lemma frame_closeStep (q : Peer) (o : PeerOutcome) :
    q.Frame (q.closeStep o).1 ∧ (q.closeStep o).1.handshake = q.handshake ∧
      (q.closeStep o).1.serve = q.serve := by
  unfold closeStep
  split <;> (try split) <;> exact ⟨⟨rfl, rfl, rfl, rfl, rfl, rfl, id, id⟩, rfl, rfl⟩

lemma onceOk_note (e : PeerEffect) : (q.note e).OnceOk ↔ q.OnceOk := by cases e <;> rfl

lemma note_quiet {e : PeerEffect} (h : e.session = none) : q.note e = q := by
  cases e with
  | none | remove | reinstall => rfl
  | _ => cases h

lemma serve_note (e : PeerEffect) : (q.note e).serve = q.serve := by cases e <;> rfl

lemma handshake_note (e : PeerEffect) : (q.note e).handshake = q.handshake := by cases e <;> rfl

lemma handshakeStep_idle (h : q.handshake = .idle) (o : PeerOutcome) :
    q.handshakeStep env o = (q, .none) := by
  cases o <;> simp [handshakeStep, h]

lemma handshakeStep_controlOk (h : q.ControlOk) (honce : q.OnceOk) {o : PeerOutcome}
    (hu : q.Undisturbed .handshake o) :
    ((q.handshakeStep env o).1.note (q.handshakeStep env o).2).ControlOk := by
  unfold handshakeStep
  split <;> (try split) <;> (try split_ifs) <;>
    simp_all [ControlOk, note, Issued, Blank, Settled, OnceOk, setHandshake, setControl,
      Undisturbed]
  grind

lemma serveStep_dataOk (h : q.DataOk) (honce : q.OnceOk) (hcp : env.controlPlane = false)
    {o : PeerOutcome} (hu : q.Undisturbed .serve o) :
    ((q.serveStep env o).1.note (q.serveStep env o).2).DataOk := by
  unfold serveStep
  split <;> (try split) <;> (try split_ifs) <;>
    simp_all [DataOk, note, Issued, Blank, Settled, OnceOk, setHandshake, setControl, Undisturbed]
  grind

lemma serveStep_passive (h : q.serve.Passive) (hcp : env.controlPlane = true) (o : PeerOutcome) :
    ∃ pc : PeerPc, pc.Passive ∧ (q.serveStep env o).1 = { q with serve := pc } ∧
      (q.serveStep env o).2.session = none := by
  unfold serveStep
  split <;> (try split) <;> (try split_ifs) <;> first
    | exact ⟨_, h, rfl, rfl⟩
    | exact ⟨_, trivial, rfl, rfl⟩
    | simp_all [PeerPc.Passive, PeerEffect.session]

lemma expireStep_spec (env : PeerEnv) (q : Peer) (o : PeerOutcome) :
    ∃ pc : PeerPc, (q.expireStep env o).1 = { q with expire := pc } ∧
      (q.expireStep env o).2.session = none := by
  unfold expireStep
  split <;> (try split) <;> (try split_ifs) <;> exact ⟨_, rfl, rfl⟩

lemma loopStep_spec (env : PeerEnv) (q : Peer) (o : PeerOutcome) :
    ∃ pc : PeerPc, (q.loopStep env o).1 = { q with loop := pc } ∧
      (q.loopStep env o).2.session = none := by
  unfold loopStep
  split <;> (try split) <;> exact ⟨_, rfl, rfl⟩

lemma closeStep_onceOk (h : q.OnceOk) (o : PeerOutcome) :
    ((q.closeStep o).1.note (q.closeStep o).2).OnceOk := by
  unfold closeStep
  split <;> (try split) <;> (try split_ifs) <;> simp_all [OnceOk, note]

lemma closeStep_controlOk (h : q.ControlOk) (honce : q.OnceOk) (o : PeerOutcome) :
    ((q.closeStep o).1.note (q.closeStep o).2).ControlOk := by
  unfold closeStep
  split <;> (try split) <;> simp_all [OnceOk, ControlOk, Settled, note, Blank, Issued] <;> grind

lemma closeStep_dataOk (h : q.DataOk) (honce : q.OnceOk) (o : PeerOutcome) :
    ((q.closeStep o).1.note (q.closeStep o).2).DataOk := by
  unfold closeStep
  split <;> (try split) <;> simp_all [OnceOk, DataOk, Settled, note, Blank, Issued] <;> grind

/-- **Every step of a peer keeps its invariant.** -/
lemma step_ok (h : q.Ok env.controlPlane) {g : PeerGoroutine} {o : PeerOutcome}
    (hu : q.Undisturbed g o) :
    ((q.step env g o).1.note (q.step env g o).2).Ok env.controlPlane := by
  obtain ⟨honce, hlead⟩ := h
  cases g with
  | handshake =>
    obtain ⟨-, hkeep, hserve⟩ := frame_handshakeStep env q o
    refine ⟨(onceOk_note _).2 (hkeep.onceOk honce), ?_⟩
    cases hcp : env.controlPlane with
    | false =>
      rw [hcp] at hlead
      rw [step, handshakeStep_idle hlead.2]
      exact hlead
    | true =>
      rw [hcp] at hlead
      refine ⟨handshakeStep_controlOk hlead.1 honce hu, ?_⟩
      rw [serve_note, step, hserve]
      exact hlead.2
  | expire =>
    obtain ⟨pc, hpc, heff⟩ := expireStep_spec env q o
    rw [step, note_quiet heff, hpc]
    exact ⟨honce, hlead⟩
  | serve =>
    obtain ⟨-, hkeep, hhandshake⟩ := frame_serveStep env q o
    refine ⟨(onceOk_note _).2 (hkeep.onceOk honce), ?_⟩
    cases hcp : env.controlPlane with
    | false =>
      rw [hcp] at hlead
      refine ⟨serveStep_dataOk hlead.1 honce hcp hu, ?_⟩
      rw [handshake_note, step, hhandshake]
      exact hlead.2
    | true =>
      rw [hcp] at hlead
      obtain ⟨pc, hpass, hpc, heff⟩ := serveStep_passive hlead.2 hcp o
      rw [step, note_quiet heff, hpc]
      exact ⟨hlead.1, hpass⟩
  | loop =>
    obtain ⟨pc, hpc, heff⟩ := loopStep_spec env q o
    rw [step, note_quiet heff, hpc]
    exact ⟨honce, hlead⟩
  | close =>
    refine ⟨closeStep_onceOk honce o, ?_⟩
    cases hcp : env.controlPlane with
    | false =>
      rw [hcp] at hlead
      refine ⟨closeStep_dataOk hlead.1 honce o, ?_⟩
      rw [handshake_note, step, (q.frame_closeStep o).2.1]
      exact hlead.2
    | true =>
      rw [hcp] at hlead
      refine ⟨closeStep_controlOk hlead.1 honce o, ?_⟩
      rw [serve_note, step, (q.frame_closeStep o).2.2]
      exact hlead.2

lemma frame_step (env : PeerEnv) (q : Peer) (g : PeerGoroutine) (o : PeerOutcome) :
    q.Frame (q.step env g o).1 := by
  cases g with
  | handshake => exact (frame_handshakeStep env q o).1
  | serve => exact (frame_serveStep env q o).1
  | close => exact (q.frame_closeStep o).1
  | expire =>
    obtain ⟨pc, hpc, -⟩ := expireStep_spec env q o
    rw [step, hpc]
    exact ⟨rfl, rfl, rfl, rfl, rfl, rfl, id, id⟩
  | loop =>
    obtain ⟨pc, hpc, -⟩ := loopStep_spec env q o
    rw [step, hpc]
    exact ⟨rfl, rfl, rfl, rfl, rfl, rfl, id, id⟩

lemma Ok.issued_of_sessionID {controlPlane : Bool} (h : q.Ok controlPlane)
    (hne : q.sessionID ≠ "") : q.issued = some q.sessionID := by
  grind [Ok, DataOk, ControlOk, Blank, Settled, Issued]

/-- What a step does to the session of a peer: its effect is about the session the hook has
    returned, and only a handshake that succeeds gets a new one. -/
def AboutIssued (q : Peer) (o : PeerOutcome) (q' : Peer) (e : PeerEffect) : Prop :=
  (∀ sid, e.session = some sid → q.issued = some sid) ∧
  (q'.issued = q.issued ∨
    q.issued = none ∧ e = .none ∧ ∃ r, o = .success r ∧ q'.issued = some r.sessionID)

lemma aboutIssued_quiet {q' : Peer} {o : PeerOutcome} {e : PeerEffect}
    (hissued : q'.issued = q.issued) (he : e.session = none) : q.AboutIssued o q' e := by
  refine ⟨?_, Or.inl hissued⟩
  rw [he]
  rintro sid ⟨⟩

lemma aboutIssued_handshakeStep (h : q.ControlOk) (o : PeerOutcome) :
    q.AboutIssued o (q.handshakeStep env o).1 (q.handshakeStep env o).2 := by
  unfold handshakeStep
  split <;> (try split) <;> (try split_ifs) <;>
    simp_all [AboutIssued, ControlOk, Issued, PeerEffect.session, setHandshake, setControl]

lemma aboutIssued_serveStep (h : q.DataOk) (o : PeerOutcome) :
    q.AboutIssued o (q.serveStep env o).1 (q.serveStep env o).2 := by
  unfold serveStep
  split <;> (try split) <;> (try split_ifs) <;>
    simp_all [AboutIssued, DataOk, Issued, PeerEffect.session, setHandshake, setControl]

lemma aboutIssued_closeStep {controlPlane : Bool} (h : q.Ok controlPlane) (o : PeerOutcome) :
    q.AboutIssued o (q.closeStep o).1 (q.closeStep o).2 := by
  have hissued := h.issued_of_sessionID
  have honce := h.1
  unfold closeStep
  split <;> (try split) <;> (try split_ifs) <;> simp_all [AboutIssued, OnceOk, PeerEffect.session]

/-- **Every step of a peer is about the session the hook has returned for it.** -/
lemma aboutIssued_step (h : q.Ok env.controlPlane) (g : PeerGoroutine) (o : PeerOutcome) :
    q.AboutIssued o (q.step env g o).1 (q.step env g o).2 := by
  cases g with
  | handshake =>
    cases hcp : env.controlPlane with
    | false =>
      rw [hcp] at h
      rw [step, handshakeStep_idle h.2.2]
      exact aboutIssued_quiet rfl rfl
    | true =>
      rw [hcp] at h
      exact aboutIssued_handshakeStep h.2.1 o
  | serve =>
    cases hcp : env.controlPlane with
    | false =>
      rw [hcp] at h
      exact aboutIssued_serveStep h.2.1 o
    | true =>
      rw [hcp] at h
      obtain ⟨pc, -, hpc, heff⟩ := serveStep_passive h.2.2 hcp o
      rw [step, hpc]
      exact aboutIssued_quiet rfl heff
  | expire =>
    obtain ⟨pc, hpc, heff⟩ := expireStep_spec env q o
    rw [step, hpc]
    exact aboutIssued_quiet rfl heff
  | loop =>
    obtain ⟨pc, hpc, heff⟩ := loopStep_spec env q o
    rw [step, hpc]
    exact aboutIssued_quiet rfl heff
  | close => exact aboutIssued_closeStep h o

/-- Taking the snapshot keeps the invariant, unless a session that is stored has not yet been
    reported. -/
lemma closeSnapshot_ok {controlPlane : Bool} (h : q.Ok controlPlane) (honce : q.once = .idle)
    (hsnap : q.handshake.reporting = false) :
    q.closeSnapshot.Ok controlPlane := by
  grind [closeSnapshot, Ok, DataOk, ControlOk, OnceOk, Settled, Blank, Issued, PeerPc.reporting]

lemma Ok.blank_of_issued_none {controlPlane : Bool} (h : q.Ok controlPlane)
    (hnone : q.issued = none) : q.history = [] ∧ q.listed = false := by
  grind [Ok, DataOk, ControlOk, Settled, Blank, Issued]

def Finished (q : Peer) : Prop :=
  (∀ pc ∈ [q.handshake, q.expire, q.serve, q.loop], pc = .idle ∨ pc = .finished) ∧
  (q.once = .idle ∨ q.once = .done)

lemma Ok.history_initial {controlPlane : Bool} {sid : String} (h : q.Ok controlPlane)
    (hissued : q.issued = some sid) : q.history <+: [.opened sid, .closed sid] := by
  grind [Ok, DataOk, ControlOk, Settled, Blank, Issued]

lemma Ok.blank_or_settled_of_finished {controlPlane : Bool} (h : q.Ok controlPlane)
    (hfin : q.Finished) : q.Blank ∨ q.Settled := by
  obtain ⟨-, hlead⟩ := h
  obtain ⟨hpcs, -⟩ := hfin
  cases controlPlane with
  | false =>
    have hdata : q.DataOk := hlead.1
    unfold DataOk at hdata
    rcases hpcs q.serve (by simp) with hpc | hpc
    · rw [hpc] at hdata
      exact Or.inl hdata.2
    · rw [hpc] at hdata
      exact hdata
  | true =>
    have hctl : q.ControlOk := hlead.1
    unfold ControlOk at hctl
    rcases hpcs q.handshake (by simp) with hpc | hpc
    · rw [hpc] at hctl
      exact Or.inl hctl.2
    · rw [hpc] at hctl
      exact hctl

lemma Ok.history_of_finished {controlPlane : Bool} {sid : String} (h : q.Ok controlPlane)
    (hclosed : q.closed = true) (hfin : q.Finished) (hissued : q.issued = some sid) :
    q.listed = false ∧ (q.history = [] ∨ q.history = [.opened sid, .closed sid]) := by
  have hdone : q.once = .done := by
    refine hfin.2.resolve_left fun hidle => ?_
    have honce := h.1
    unfold OnceOk at honce
    rw [hidle] at honce
    exact absurd (hclosed.symm.trans honce) (by simp)
  rcases h.blank_or_settled_of_finished hfin with ⟨-, hnil, hlisted⟩ | ⟨-, hsid, hrest⟩
  · exact ⟨hlisted, Or.inl hnil⟩
  · grind

end Peer

end OlcRtc
