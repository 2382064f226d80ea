import OlcRtc.Lib.Lists
import OlcRtc.Server.PeerSession

/-!
# Sessions are opened and closed in pairs

Every session of a server with peer routing is reported as open once and as closed once, in this
order, and is listed in `peerStats` in between.  That is a property of the log of the server, over
all peers and all goroutines, whatever their order.

The log is put together from what the single peers report.  `Books` says how: every session ID
belongs to one peer, the callbacks about it are the history of that peer, and it is listed exactly
if the peer says so.  **`books_peer`** keeps the books in order when a peer takes a step, for which
session IDs have to be unique.  What one peer reports is known from `Peer.Ok`.

That a session is closed at all is another matter.  A peer is closed by those who take it out of
`peerSessions`, and `Held` says that none is lost: a peer that is not closed is in the map, or is on
the list of a goroutine that will close it.  After `shutdown` no peer is admitted any more, so that
the last `closeSession` finds them all (`Inv.closed_of_final`).

**`sessions_paired`** is the result, for runs in which no peer is closed between the steps that
store and report its session.  **`sessions_unpaired`** shows that without this condition both ways
to shake hands go wrong: on the control plane a session is closed before it is opened, and stays
listed for ever; on the data plane a session is opened and never closed.
-/

namespace OlcRtc

/-! ## The books

What was reported, for all sessions: for every peer the session the hook returned, its callbacks and
whether it is listed.
-/

abbrev BookEntry := Option String × List Callback × Bool

def about (log : List Callback) (sid : String) : List Callback :=
  log.filter fun c => c.sessionID = sid

/-- The log and the list of open sessions agree with the entries. -/
structure Books (entries : List BookEntry) (log : List Callback)
    (stats : AList fun _ : String => String) : Prop where
  unique : ∀ {p p' : ℕ} {e e' : BookEntry} {sid : String}, entries[p]? = some e →
    entries[p']? = some e' → e.1 = some sid → e'.1 = some sid → p = p'
  reported : ∀ e ∈ entries, ∀ sid, e.1 = some sid →
    about log sid = e.2.1 ∧ (sid ∈ stats ↔ e.2.2 = true)
  unknown : ∀ sid, (∀ e ∈ entries, e.1 ≠ some sid) → about log sid = [] ∧ sid ∉ stats

namespace Books

variable {entries : List BookEntry} {log : List Callback} {stats : AList fun _ : String => String}
  {p : ℕ} {sid : String}

lemma empty : Books [] [] ∅ :=
  ⟨by simp, by simp, fun sid _ => ⟨rfl, AList.notMem_empty sid⟩⟩

lemma about_concat (log : List Callback) (c : Callback) (sid : String) :
    about (log ++ [c]) sid = about log sid ++ if c.sessionID = sid then [c] else [] := by
  by_cases h : c.sessionID = sid <;> simp [about, h]

lemma add (h : Books entries log stats) : Books (entries ++ [(none, [], false)]) log stats := by
  refine ⟨?_, ?_, ?_⟩
  · intro p p' e e' sid hp hp' he he'
    rcases getElem?_concat_cases hp with ⟨-, rfl⟩ | hp
    · exact absurd he (by simp)
    · rcases getElem?_concat_cases hp' with ⟨-, rfl⟩ | hp'
      · exact absurd he' (by simp)
      · exact h.unique hp hp' he he'
  · intro e he sid hsid
    rcases List.mem_append.1 he with he | he
    · exact h.reported e he sid hsid
    · grind
  · intro sid hsid
    exact h.unknown sid fun e he => hsid e (List.mem_append_left _ he)

lemma set {e e' : BookEntry} {log' : List Callback} {stats' : AList fun _ : String => String}
    (h : Books entries log stats) (hp : entries[p]? = some e)
    (hkeep : ∀ sid, e.1 = some sid → e'.1 = some sid)
    (hnew : ∀ sid, e'.1 = some sid → e.1 = some sid ∨ ∀ e₀ ∈ entries, e₀.1 ≠ some sid)
    (hself : ∀ sid, e'.1 = some sid → about log' sid = e'.2.1 ∧ (sid ∈ stats' ↔ e'.2.2 = true))
    (hother : ∀ sid, e'.1 ≠ some sid →
      about log' sid = about log sid ∧ (sid ∈ stats' ↔ sid ∈ stats)) :
    Books (entries.set p e') log' stats' := by
  have hapart : ∀ {i : ℕ} {e₀ : BookEntry} {sid : String}, i ≠ p → entries[i]? = some e₀ →
      e₀.1 = some sid → e'.1 ≠ some sid := by
    intro i e₀ sid hip hi he₀ he'
    rcases hnew sid he' with he | hfresh
    · exact hip (h.unique hi hp he₀ he)
    · exact hfresh e₀ (List.mem_of_getElem? hi) he₀
  refine ⟨?_, ?_, ?_⟩
  · intro i j e₁ e₂ sid hi hj he₁ he₂
    rcases getElem?_set_cases hi with ⟨rfl, rfl⟩ | ⟨hip, hi'⟩
    · rcases getElem?_set_cases hj with ⟨rfl, -⟩ | ⟨hjp, hj'⟩
      · rfl
      · exact absurd he₁ (hapart hjp hj' he₂)
    · rcases getElem?_set_cases hj with ⟨rfl, rfl⟩ | ⟨-, hj'⟩
      · exact absurd he₂ (hapart hip hi' he₁)
      · exact h.unique hi' hj' he₁ he₂
  · intro e₀ he₀ sid hsid
    obtain ⟨i, hi⟩ := List.mem_iff_getElem?.1 he₀
    rcases getElem?_set_cases hi with ⟨rfl, rfl⟩ | ⟨hip, hi'⟩
    · exact hself sid hsid
    · obtain ⟨habout, hstats⟩ := hother sid (hapart hip hi' hsid)
      rw [habout, hstats]
      exact h.reported e₀ (List.mem_of_getElem? hi') sid hsid
  · intro sid hsid
    have he' := hsid _ (List.mem_set (List.getElem?_eq_some_iff.1 hp).1 _)
    rw [(hother sid he').1, (hother sid he').2]
    refine h.unknown sid fun e₀ he₀ heq => ?_
    obtain ⟨i, hi⟩ := List.mem_iff_getElem?.1 he₀
    by_cases hip : p = i
    · obtain rfl : e = e₀ := Option.some.inj (hp.symm.trans (hip ▸ hi))
      exact he' (hkeep sid heq)
    · refine hsid e₀ (List.mem_iff_getElem?.2 ⟨i, ?_⟩) heq
      rw [List.getElem?_set_ne hip, hi]

end Books

/-! ## The server -/

def CloserPc.todo : CloserPc → List ℕ
  | .closeAll todo _ | .closing _ todo _ => todo
  | _ => []

namespace PeerServer

variable {s s' : PeerServer} {p : ℕ} {q : Peer}

def entries (s : PeerServer) : List BookEntry :=
  s.peers.map fun q => (q.issued, q.history, q.listed)

def snapshotOf (s : PeerServer) : Event → Option Peer
  | .closer i pick =>
    match s.closers[i]? with
    | some (.closeAll todo _) =>
      (todo[pick]?.bind fun p => s.peers[p]?).filter fun q => q.once = .idle
    | _ => none
  | _ => none

/-- The hook returns every session ID only once. -/
def UniqueIDs (s : PeerServer) : Event → Prop
  | .peer _ _ (.success r) => ∀ q ∈ s.peers, q.issued ≠ some r.sessionID
  | _ => True

/-- No peer is closed between the steps that store and report its session. -/
def Undisturbed (s : PeerServer) (e : Event) : Prop :=
  (∀ q ∈ s.snapshotOf e, q.handshake.reporting = false) ∧
  match e with
  | .peer p g o => ∀ q ∈ s.peers[p]?, q.Undisturbed g o
  | _ => True

/-- Every peer that is not closed is in the map or will be closed, and once the server stops the
    map is emptied for good. -/
structure Held (s : PeerServer) : Prop where
  held : ∀ {p : ℕ} {q : Peer}, s.peers[p]? = some q → q.closed = false →
    s.peerSessions.lookup q.peerID = some p ∨ ∃ pc ∈ s.closers, p ∈ pc.todo
  drained : s.stopping = true → CloserPc.closeSession ∈ s.closers ∨ s.peerSessions = ∅

/-- A goroutine that is not attached was not started. -/
def Attached (q : Peer) : Prop :=
  (q.data = false → q.serve = .idle) ∧ (q.control = false → q.handshake = .idle)

structure Inv (s : PeerServer) : Prop where
  ok : ∀ q ∈ s.peers, q.Ok s.controlPlane
  attached : ∀ q ∈ s.peers, Attached q
  books : Books s.entries s.log s.peerStats
  kept : s.Held

lemma inv_start (controlPlane : Bool) : (start controlPlane).Inv :=
  ⟨by simp [start], by simp [start], Books.empty, ⟨by simp [start], by simp [start]⟩⟩

/-! ### Steps of peers -/

lemma entries_getElem? (hq : s.peers[p]? = some q) :
    s.entries[p]? = some (q.issued, q.history, q.listed) := by
  rw [entries, List.getElem?_map, hq]
  rfl

lemma entries_apply (s : PeerServer) (p : ℕ) (q : Peer) (e : PeerEffect) :
    (s.apply p q e).entries
      = s.entries.set p ((q.note e).issued, (q.note e).history, (q.note e).listed) := by
  cases e <;> exact List.map_set

lemma entries_set_self (hq : s.peers[p]? = some q) :
    s.entries.set p (q.issued, q.history, q.listed) = s.entries := by
  obtain ⟨hlt, hget⟩ := List.getElem?_eq_some_iff.1 (entries_getElem? hq)
  rw [← hget, List.set_getElem_self hlt]

/-- A step that is about no session is not entered in the books. -/
lemma books_quiet (h : Books s.entries s.log s.peerStats) (hq : s.peers[p]? = some q) {q' : Peer}
    (hframe : q.Frame q') (hsame : q'.issued = q.issued) {e : PeerEffect}
    (he : e.session = none) :
    Books (s.apply p q' e).entries (s.apply p q' e).log (s.apply p q' e).peerStats := by
  rw [entries_apply, Peer.note_quiet he, hsame, hframe.history, hframe.listed, entries_set_self hq]
  cases e with
  | none | remove | reinstall => exact h
  | _ => cases he

lemma books_report {sid : String} (h : Books s.entries s.log s.peerStats)
    (hq : s.peers[p]? = some q) (hissued : q.issued = some sid) {q' : Peer} (hframe : q.Frame q')
    (hsame : q'.issued = q.issued) {e : PeerEffect} (he : e.session = some sid) :
    Books (s.apply p q' e).entries (s.apply p q' e).log (s.apply p q' e).peerStats := by
  have hp := entries_getElem? hq
  obtain ⟨habout, hstats⟩ := h.reported _ (List.mem_of_getElem? hp) sid hissued
  rw [hissued] at hp hsame
  have hids : (q'.note e).issued = some sid := by cases e <;> exact hsame
  rw [entries_apply]
  refine h.set hp (fun _ heq => hids.trans heq) (fun _ heq => .inl (hids.symm.trans heq)) ?_ ?_
  all_goals
    intro sid' hsid'
    cases e with
    | opened | closed | tracked | untracked =>
      obtain rfl := Option.some.inj he
      simp_all [Peer.note, PeerServer.apply, Books.about_concat, Callback.sessionID,
        hframe.history, hframe.listed, @eq_comm _ sid']
    | none | remove | reinstall => cases he

/-- **The books stay in order** when a peer takes a step. -/
lemma books_peer (h : Books s.entries s.log s.peerStats) (hq : s.peers[p]? = some q)
    (hok : q.Ok s.controlPlane) {g : PeerGoroutine} {o : PeerOutcome}
    (hunique : s.UniqueIDs (.peer p g o)) :
    Books (s.step (.peer p g o)).entries (s.step (.peer p g o)).log
      (s.step (.peer p g o)).peerStats := by
  have hframe := Peer.frame_step s.env q g o
  have habout : q.AboutIssued o (q.step s.env g o).1 (q.step s.env g o).2 :=
    Peer.aboutIssued_step hok g o
  simp only [step, hq]
  generalize (q.step s.env g o).1 = q' at *
  generalize (q.step s.env g o).2 = e at *
  obtain ⟨hsession, hissued⟩ := habout
  rcases hissued with hsame | ⟨hnone, rfl, r, rfl, hnew⟩
  · cases he : e.session with
    | none => exact books_quiet h hq hframe hsame he
    | some sid => exact books_report h hq (hsession sid he) hframe hsame he
  · obtain ⟨hhistory, hlisted⟩ := hok.blank_of_issued_none hnone
    have hp := entries_getElem? hq
    rw [hnone, hhistory, hlisted] at hp
    rw [entries_apply, Peer.note_quiet rfl, hnew, hframe.history, hframe.listed, hhistory, hlisted]
    have hfresh : ∀ e ∈ s.entries, e.1 ≠ some r.sessionID := by
      intro e he
      obtain ⟨q₀, hq₀, rfl⟩ := List.mem_map.1 he
      exact hunique q₀ hq₀
    refine h.set hp (fun _ heq => by cases heq) ?_ ?_ fun _ _ => ⟨rfl, Iff.rfl⟩
    all_goals
      rintro sid ⟨rfl⟩
    · exact .inr hfresh
    · obtain ⟨hnil, hunlisted⟩ := h.unknown _ hfresh
      exact ⟨hnil, iff_of_false hunlisted (by simp)⟩

/-! ### Peers that come and go -/

lemma ok_attachData {controlPlane : Bool} (h : q.Ok controlPlane) (hserve : q.serve = .idle) :
    (attachData q).Ok controlPlane := by
  refine ⟨h.1, ?_⟩
  cases controlPlane with
  | true => exact ⟨h.2.1, trivial⟩
  | false =>
    refine ⟨?_, h.2.2⟩
    have hdata : q.DataOk := h.2.1
    unfold Peer.DataOk at hdata
    rw [hserve] at hdata
    exact hdata

lemma ok_attachControl (h : q.Ok true) (hhandshake : q.handshake = .idle) :
    (attachControl q).Ok true := by
  refine ⟨h.1, ?_, h.2.2⟩
  have hctl : q.ControlOk := h.2.1
  unfold Peer.ControlOk at hctl
  rw [hhandshake] at hctl
  exact hctl

lemma Held.replace (h : s.Held) {q' : Peer} (hq : s.peers[p]? = some q)
    (hid : q'.peerID = q.peerID) (hclosed : q'.closed = q.closed) :
    ({ s with peers := s.peers.set p q' } : PeerServer).Held := by
  refine ⟨?_, h.drained⟩
  intro i q₀ hi hopen
  rcases getElem?_set_cases hi with ⟨rfl, rfl⟩ | ⟨-, hi'⟩
  · rw [hid]
    exact h.held hq (hclosed ▸ hopen)
  · exact h.held hi' hopen

lemma Held.of_closers (h : s.Held) (hpeers : s'.peers = s.peers)
    (hmap : s'.peerSessions = s.peerSessions) (hclosers : ∀ pc ∈ s.closers, pc ∈ s'.closers)
    (hstop : s'.stopping = true → s.stopping = true ∨ .closeSession ∈ s'.closers) :
    s'.Held := by
  refine ⟨?_, ?_⟩
  · intro p q hp hopen
    rw [hpeers] at hp
    rw [hmap]
    refine (h.held hp hopen).imp id ?_
    rintro ⟨pc, hpc, htodo⟩
    exact ⟨pc, hclosers pc hpc, htodo⟩
  · grind [id, OlcRtc.PeerServer.Held.drained]

lemma Inv.set (h : s.Inv) {q' : Peer} (hpeers : s'.peers = s.peers.set p q')
    (hcp : s'.controlPlane = s.controlPlane) (hok : q'.Ok s.controlPlane) (hatt : Attached q')
    (hbooks : Books s'.entries s'.log s'.peerStats) (hheld : s'.Held) : s'.Inv := by
  refine ⟨?_, ?_, hbooks, hheld⟩
  · rw [hpeers, hcp]
    exact forall_mem_set h.ok hok
  · rw [hpeers]
    exact forall_mem_set h.attached hatt

lemma Inv.replace (h : s.Inv) (hq : s.peers[p]? = some q) {q' : Peer}
    (hid : q'.peerID = q.peerID) (hclosed : q'.closed = q.closed)
    (hok : q'.Ok s.controlPlane) (hatt : Attached q')
    (hentry : (q'.issued, q'.history, q'.listed) = (q.issued, q.history, q.listed)) :
    ({ s with peers := s.peers.set p q' } : PeerServer).Inv := by
  refine h.set rfl rfl hok hatt ?_ (h.kept.replace hq hid hclosed)
  have hentries : ({ s with peers := s.peers.set p q' } : PeerServer).entries = s.entries := by
    rw [entries, List.map_set, hentry]
    exact entries_set_self hq
  rw [hentries]
  exact h.books

lemma Inv.enroll (h : s.Inv) (hnew : s.peerSessions.lookup q.peerID = none)
    (hstop : s.stopping = false) (hok : q.Ok s.controlPlane) (hatt : Attached q)
    (hentry : (q.issued, q.history, q.listed) = (none, [], false)) :
    (s.enroll q).Inv := by
  refine ⟨?_, ?_, ?_, ?_, ?_⟩
  · exact forall_mem_concat h.ok hok
  · exact forall_mem_concat h.attached hatt
  · have hentries : (s.enroll q).entries = s.entries ++ [(none, [], false)] := by
      rw [entries, PeerServer.enroll, List.map_append, List.map_singleton, hentry]
      rfl
    rw [hentries]
    exact h.books.add
  · intro i q₀ hi hopen
    rcases getElem?_concat_cases hi with ⟨rfl, rfl⟩ | hi'
    · exact Or.inl (AList.lookup_insert _)
    · refine (h.kept.held hi' hopen).imp (fun hlookup => ?_) id
      -- the map had no peer of this name
      have hne : q₀.peerID ≠ q.peerID := by
        grind
      rw [PeerServer.enroll, AList.lookup_insert_ne hne]
      exact hlookup
  · intro hs
    exact absurd (hstop.symm.trans hs) (by simp)

lemma not_stopping_of_mayAdmit {existing : Option ℕ} (h : s.mayAdmitPeerLocked existing = true) :
    s.stopping = false := by
  rw [mayAdmitPeerLocked, Bool.and_eq_true] at h
  simpa using h.1

lemma Inv.getPeerSession (h : s.Inv) (peerID : String) (init : Bool) :
    (s.getPeerSession peerID init).Inv := by
  unfold PeerServer.getPeerSession
  repeat' split
  any_goals exact h
  · rename_i p _ _ q hq hrefuse
    have hmem := List.mem_of_getElem? hq
    have hdata : q.data = false := by simpa using mt Or.inl hrefuse
    refine h.replace hq rfl rfl ?_ ⟨nofun, (h.attached q hmem).2⟩ rfl
    exact ok_attachData (h.ok q hmem) ((h.attached q hmem).1 hdata)
  · rename_i hlookup hrefuse
    have hmay : s.mayAdmitPeerLocked none = true := by simpa using mt Or.inl hrefuse
    refine h.enroll hlookup (not_stopping_of_mayAdmit hmay) ?_ ⟨nofun, fun _ => rfl⟩ rfl
    exact ok_attachData (Peer.ok_new _ _) rfl

lemma Inv.getOrCreatePeerControlSession (h : s.Inv) (peerID : String) (init : Bool) :
    (s.getOrCreatePeerControlSession peerID init).Inv := by
  unfold PeerServer.getOrCreatePeerControlSession
  split
  · exact h
  · rename_i hempty
    have hcp : s.controlPlane = true := by simpa using mt Or.inr hempty
    repeat' split
    any_goals exact h
    · rename_i p _ _ q hq hrefuse
      have hmem := List.mem_of_getElem? hq
      have hok := h.ok q hmem
      have hcontrol : q.control = false := by simpa using mt Or.inl hrefuse
      refine h.replace hq rfl rfl ?_ ⟨(h.attached q hmem).1, nofun⟩ rfl
      rw [hcp] at hok ⊢
      exact ok_attachControl hok ((h.attached q hmem).2 hcontrol)
    · rename_i hlookup hrefuse
      have hmay : s.mayAdmitPeerLocked none = true := by simpa using mt Or.inl hrefuse
      refine h.enroll hlookup (not_stopping_of_mayAdmit hmay) ?_ ⟨fun _ => rfl, nofun⟩ rfl
      rw [hcp]
      exact ok_attachControl (Peer.ok_new _ _) rfl

lemma Held.apply (h : s.Held) (hq : s.peers[p]? = some q) {q' : Peer} (hframe : q.Frame q')
    (e : PeerEffect) : (s.apply p q' e).Held := by
  have hreplace : ({ s with peers := s.peers.set p (q'.note e) } : PeerServer).Held := by
    refine h.replace hq ?_ ?_
    · rw [← hframe.peerID]
      cases e <;> rfl
    · rw [← hframe.closed]
      cases e <;> rfl
  cases e with
  | remove | reinstall =>
    exact hreplace.of_closers rfl rfl (fun pc hpc => List.mem_append_left _ hpc) Or.inl
  | _ => exact hreplace.of_closers rfl rfl (fun _ hpc => hpc) Or.inl

lemma peers_apply (s : PeerServer) (p : ℕ) (q : Peer) (e : PeerEffect) :
    (s.apply p q e).peers = s.peers.set p (q.note e) := by
  cases e <;> rfl

lemma controlPlane_apply (s : PeerServer) (p : ℕ) (q : Peer) (e : PeerEffect) :
    (s.apply p q e).controlPlane = s.controlPlane := by
  cases e <;> rfl

lemma attached_note {q' : Peer} (h : Attached q) (hframe : q.Frame q') (e : PeerEffect) :
    Attached (q'.note e) := by
  have hq' : Attached q' := by
    refine ⟨fun hdata => hframe.serve (h.1 ?_), fun hcontrol => hframe.handshake (h.2 ?_)⟩
    · rw [← hframe.data]
      exact hdata
    · rw [← hframe.control]
      exact hcontrol
  cases e <;> exact hq'

lemma Inv.peer (h : s.Inv) {g : PeerGoroutine} {o : PeerOutcome}
    (hunique : s.UniqueIDs (.peer p g o)) (hcalm : s.Undisturbed (.peer p g o)) :
    (s.step (.peer p g o)).Inv := by
  cases hq : s.peers[p]? with
  | none =>
    simp only [PeerServer.step, hq]
    exact h
  | some q =>
    have hmem := List.mem_of_getElem? hq
    have hbooks := books_peer h.books hq (h.ok q hmem) hunique
    have hframe := Peer.frame_step s.env q g o
    have hok : ((q.step s.env g o).1.note (q.step s.env g o).2).Ok s.env.controlPlane :=
      Peer.step_ok (h.ok q hmem) (hcalm.2 q hq)
    have hstep : s.step (.peer p g o)
        = s.apply p (q.step s.env g o).1 (q.step s.env g o).2 := by
      simp only [PeerServer.step, hq]
    rw [hstep] at hbooks ⊢
    exact h.set (peers_apply ..) (controlPlane_apply ..) hok
      (attached_note (h.attached q hmem) hframe _) hbooks (h.kept.apply hq hframe _)

/-! ### Closers -/

lemma Held.goto (h : s.Held) {i : ℕ} {pc pc' : CloserPc} (hi : s.closers[i]? = some pc)
    (hclosers : s'.closers = s.closers.set i pc') (hstop : s'.stopping = s.stopping)
    (hheld : ∀ {p : ℕ} {q' : Peer}, s'.peers[p]? = some q' → q'.closed = false →
      s.peers[p]? = some q' ∧
      (s.peerSessions.lookup q'.peerID = some p →
        s'.peerSessions.lookup q'.peerID = some p ∨ p ∈ pc'.todo) ∧
      (p ∈ pc.todo → p ∈ pc'.todo))
    (hempty : s.peerSessions = ∅ ∨ pc = .closeSession → s'.peerSessions = ∅) :
    s'.Held := by
  have hnew : pc' ∈ s'.closers := by
    rw [hclosers]
    exact List.mem_set (List.getElem?_eq_some_iff.1 hi).1 _
  have hother : ∀ pc₀ ∈ s.closers, pc₀ = pc ∨ pc₀ ∈ s'.closers := by
    intro pc₀ hpc₀
    obtain ⟨j, hj⟩ := List.mem_iff_getElem?.1 hpc₀
    by_cases hij : i = j
    · grind
    · refine Or.inr (List.mem_iff_getElem?.2 ⟨j, ?_⟩)
      rw [hclosers, List.getElem?_set_ne hij, hj]
  refine ⟨?_, ?_⟩
  · intro p q' hp hopen
    obtain ⟨hq, hmap, htodo⟩ := hheld hp hopen
    rcases h.held hq hopen with hlookup | ⟨pc₀, hpc₀, hin⟩
    · exact (hmap hlookup).imp id fun hin => ⟨pc', hnew, hin⟩
    · grind
  · grind [OlcRtc.PeerServer.Held.drained]

lemma Held.goto_quiet (h : s.Held) {i : ℕ} {pc pc' : CloserPc} (hi : s.closers[i]? = some pc)
    (hclosers : s'.closers = s.closers.set i pc') (hstop : s'.stopping = s.stopping)
    (hpeers : s'.peers = s.peers) (hmap : s'.peerSessions = s.peerSessions)
    (htodo : ∀ p ∈ pc.todo, p ∈ pc'.todo) (hne : pc ≠ .closeSession) : s'.Held := by
  refine h.goto hi hclosers hstop (fun hp _ => ⟨hpeers ▸ hp, ?_, htodo _⟩) ?_
  · rw [hmap]
    exact Or.inl
  · rw [hmap]
    exact fun hcase => hcase.resolve_right hne

lemma mem_detached {peerID : String} (h : s.peerSessions.lookup peerID = some p) :
    p ∈ s.detached :=
  List.mem_map.2 ⟨⟨peerID, p⟩, AList.mem_lookup_iff.1 h, rfl⟩

lemma Held.goto_detach (h : s.Held) {i : ℕ} {pc : CloserPc} (after : AfterClose)
    (hi : s.closers[i]? = some pc) (htodo : pc.todo = []) :
    (({ s with peerSessions := ∅ } : PeerServer).goto i (.closeAll s.detached after)).Held := by
  refine h.goto hi rfl rfl (fun hp _ => ⟨hp, ?_, ?_⟩) fun _ => rfl
  · exact fun hlookup => Or.inr (mem_detached hlookup)
  · rw [htodo]
    exact nofun

lemma mem_eraseIdx_of_ne {todo : List ℕ} {pick p₁ : ℕ} (hpick : todo[pick]? = some p)
    (hne : p₁ ≠ p) (hmem : p₁ ∈ todo) : p₁ ∈ todo.eraseIdx pick := by
  grind [List.mem_iff_getElem?, List.mem_eraseIdx_iff_getElem?, Option.some.inj]

/-- **A step of a closer loses no peer.** -/
lemma Held.closerStep (h : s.Held) (honce : ∀ q ∈ s.peers, q.OnceOk) {i : ℕ} {pc : CloserPc}
    (hi : s.closers[i]? = some pc) (pick : ℕ) : (s.closerStep i pick pc).Held := by
  cases pc with
  | remove p =>
    simp only [PeerServer.closerStep]
    cases hq : s.peers[p]? with
    | none => exact h
    | some q =>
      dsimp only
      split_ifs with hcurrent
      · refine h.goto hi rfl rfl (fun {p₀ q₀} hp hopen => ⟨hp, fun hlookup => ?_, nofun⟩) ?_
        · by_cases hid : q₀.peerID = q.peerID
          · rw [hid, hcurrent] at hlookup
            exact Or.inr (List.mem_singleton.2 (Option.some.inj hlookup).symm)
          · exact Or.inl ((AList.lookup_erase_ne hid).trans hlookup)
        · rintro (hempty | hclose)
          · rw [hempty] at hcurrent
            cases hcurrent
          · cases hclose
      · exact h.goto_quiet hi rfl rfl rfl rfl nofun nofun
  | reinstall remove =>
    simp only [PeerServer.closerStep]
    split_ifs
    · exact h
    · exact h.goto_quiet hi rfl rfl rfl rfl nofun nofun
  | detach remove => exact h.goto_detach _ hi rfl
  | closeSession => exact h.goto_detach _ hi rfl
  | closeAll todo after =>
    cases todo with
    | nil =>
      rcases after with _ | (_ | p) <;> exact h.goto_quiet hi rfl rfl rfl rfl nofun nofun
    | cons p₀ rest =>
      simp only [PeerServer.closerStep]
      cases hpick : (p₀ :: rest)[pick]? with
      | none => exact h
      | some p =>
        dsimp only
        cases hq : s.peers[p]? with
        | none => exact h
        | some q =>
          dsimp only
          split_ifs with hidle
          all_goals
            refine h.goto hi rfl rfl ?_ (fun hcase => hcase.resolve_right nofun)
            intro p₁ q₁ hp₁ hopen
          · rcases getElem?_set_cases hp₁ with ⟨rfl, rfl⟩ | ⟨hne, hp₁'⟩
            · cases hopen
            · exact ⟨hp₁', Or.inl, mem_eraseIdx_of_ne hpick hne⟩
          · refine ⟨hp₁, Or.inl, mem_eraseIdx_of_ne hpick ?_⟩
            rintro rfl
            obtain rfl : q = q₁ := Option.some.inj (hq.symm.trans hp₁)
            exact hidle ((honce q (List.mem_of_getElem? hq)).idle_of_not_closed hopen)
  | closing p todo after =>
    simp only [PeerServer.closerStep]
    cases hq : s.peers[p]? with
    | none => exact h
    | some q =>
      dsimp only
      split_ifs
      · exact h.goto_quiet hi rfl rfl rfl rfl (fun _ hin => hin) nofun
      · exact h
  | finished => exact h

/-- A step of a closer changes nothing the books see, and leaves the peers as they are but for the
    snapshot of one. -/
lemma closerStep_peers (s : PeerServer) (i pick : ℕ) {pc : CloserPc}
    (hi : s.closers[i]? = some pc) :
    (s.closerStep i pick pc).controlPlane = s.controlPlane ∧
    (s.closerStep i pick pc).log = s.log ∧
    (s.closerStep i pick pc).peerStats = s.peerStats ∧
    ((s.closerStep i pick pc).peers = s.peers ∨
      ∃ p q, s.peers[p]? = some q ∧ q.once = .idle ∧ q ∈ s.snapshotOf (.closer i pick) ∧
        (s.closerStep i pick pc).peers = s.peers.set p q.closeSnapshot) := by
  cases pc with
  | closeAll todo after =>
    cases todo with
    | nil => rcases after with _ | (_ | p) <;> exact ⟨rfl, rfl, rfl, Or.inl rfl⟩
    | cons p₀ rest =>
      simp only [closerStep]
      cases hpick : (p₀ :: rest)[pick]? with
      | none => exact ⟨rfl, rfl, rfl, Or.inl rfl⟩
      | some p =>
        dsimp only
        cases hq : s.peers[p]? with
        | none => exact ⟨rfl, rfl, rfl, Or.inl rfl⟩
        | some q =>
          dsimp only
          split_ifs with hidle
          · refine ⟨rfl, rfl, rfl, Or.inr ⟨p, q, hq, hidle, ?_, rfl⟩⟩
            simp only [snapshotOf, hi, hpick, Option.bind_some, hq]
            simp [hidle]
          · exact ⟨rfl, rfl, rfl, Or.inl rfl⟩
  | detach | closeSession | finished => exact ⟨rfl, rfl, rfl, Or.inl rfl⟩
  | remove p | closing p todo after | reinstall remove =>
    rw [closerStep]
    repeat' split
    all_goals exact ⟨rfl, rfl, rfl, Or.inl rfl⟩

lemma Inv.closer (h : s.Inv) {i pick : ℕ} (hcalm : s.Undisturbed (.closer i pick)) :
    (s.step (.closer i pick)).Inv := by
  cases hi : s.closers[i]? with
  | none =>
    simp only [PeerServer.step, hi]
    exact h
  | some pc =>
    have hstep : s.step (.closer i pick) = s.closerStep i pick pc := by
      simp only [PeerServer.step, hi]
    have hheld := h.kept.closerStep (fun q hq => (h.ok q hq).1) hi pick
    obtain ⟨hcp, hlog, hstats, hpeers⟩ := closerStep_peers s i pick hi
    rw [hstep]
    rcases hpeers with hsame | ⟨p, q, hq, hidle, hsnap, hset⟩
    · refine ⟨?_, ?_, ?_, hheld⟩
      · rw [hsame, hcp]
        exact h.ok
      · rw [hsame]
        exact h.attached
      · rw [entries, hsame, hlog, hstats]
        exact h.books
    · have hmem := List.mem_of_getElem? hq
      have hentries : (s.closerStep i pick pc).entries = s.entries := by
        rw [entries, hset, List.map_set]
        show s.entries.set p (q.issued, q.history, q.listed) = s.entries
        exact entries_set_self hq
      have hok := Peer.closeSnapshot_ok (h.ok q hmem) hidle (hcalm.1 q hsnap)
      refine h.set hset hcp hok (h.attached q hmem) ?_ hheld
      rw [hentries, hlog, hstats]
      exact h.books

/-! ## Runs -/

/-- **Every event keeps the invariant**, if session IDs are unique and no peer is closed between
    the steps that store and report its session. -/
lemma Inv.step (h : s.Inv) {e : Event} (hunique : s.UniqueIDs e) (hcalm : s.Undisturbed e) :
    (s.step e).Inv := by
  cases e with
  | data peerID init => exact h.getPeerSession peerID init
  | control peerID init => exact h.getOrCreatePeerControlSession peerID init
  | peer p g o => exact h.peer hunique hcalm
  | closer i pick => exact h.closer hcalm
  | reconnect =>
    simp only [PeerServer.step]
    split_ifs
    · exact h
    · refine ⟨h.ok, h.attached, h.books, ?_⟩
      exact h.kept.of_closers rfl rfl (fun pc hpc => List.mem_append_left _ hpc) Or.inl
  | cancel =>
    refine ⟨h.ok, h.attached, h.books, ?_⟩
    exact h.kept.of_closers rfl rfl (fun pc hpc => List.mem_append_left _ hpc) Or.inl
  | shutdown =>
    refine ⟨h.ok, h.attached, h.books, ?_⟩
    exact h.kept.of_closers rfl rfl (fun pc hpc => List.mem_append_left _ hpc)
      fun _ => Or.inr (List.mem_append_right _ (List.mem_singleton.2 rfl))

def Final (s : PeerServer) : Prop :=
  s.stopping = true ∧ (∀ pc ∈ s.closers, pc = .finished) ∧ ∀ q ∈ s.peers, q.Finished

lemma Inv.closed_of_final (h : s.Inv) (hfinal : s.Final) (hq : q ∈ s.peers) : q.closed = true := by
  obtain ⟨hstop, hclosers, -⟩ := hfinal
  have hempty : s.peerSessions = ∅ :=
    (h.kept.drained hstop).resolve_left fun hclose => by cases hclosers _ hclose
  by_contra hopen
  obtain ⟨p, hp⟩ := List.mem_iff_getElem?.1 hq
  rcases h.kept.held hp (by simpa using hopen) with hlookup | ⟨pc, hpc, hin⟩
  · rw [hempty] at hlookup
    cases hlookup
  · rw [hclosers pc hpc] at hin
    cases hin

lemma Inv.paired (h : s.Inv) (sid : String) :
    about s.log sid <+: [.opened sid, .closed sid] ∧
    (s.Final → (about s.log sid = [] ∨ about s.log sid = [.opened sid, .closed sid]) ∧
      sid ∉ s.peerStats) := by
  by_cases hknown : ∃ q ∈ s.peers, q.issued = some sid
  · obtain ⟨q, hq, hissued⟩ := hknown
    obtain ⟨habout, hstats⟩ := h.books.reported _ (List.mem_map_of_mem hq) sid hissued
    rw [habout, hstats]
    refine ⟨(h.ok q hq).history_initial hissued, fun hfinal => ?_⟩
    obtain ⟨hlisted, hhistory⟩ := (h.ok q hq).history_of_finished (h.closed_of_final hfinal hq)
      (hfinal.2.2 q hq) hissued
    exact ⟨hhistory, by simp [hlisted]⟩
  · obtain ⟨habout, hstats⟩ := h.books.unknown sid fun e he heq => by
      obtain ⟨q, hq, rfl⟩ := List.mem_map.1 he
      exact hknown ⟨q, hq, heq⟩
    rw [habout]
    refine ⟨?_, fun _ => ⟨Or.inl rfl, hstats⟩⟩
    exact List.nil_prefix

/-- **Sessions are opened and closed in pairs.**  The hook is to return every session ID once.  Once
the server has shut down and all goroutines have ended, every session that was opened is closed, and
no session is listed. -/
theorem sessions_paired (controlPlane : Bool) (events : List Event)
    (hunique : Along step UniqueIDs (start controlPlane) events)
    (hcalm : Along step Undisturbed (start controlPlane) events) (sid : String) :
    about (run step (start controlPlane) events).log sid <+: [.opened sid, .closed sid] ∧
    ((run step (start controlPlane) events).Final →
      (.opened sid ∈ (run step (start controlPlane) events).log →
        about (run step (start controlPlane) events).log sid = [.opened sid, .closed sid]) ∧
      sid ∉ (run step (start controlPlane) events).peerStats) := by
  have hinv : (run step (start controlPlane) events).Inv :=
    run_invariant step (fun _ _ h hP => h.step hP.1 hP.2) (inv_start controlPlane)
      (along_and step hunique hcalm)
  obtain ⟨hinitial, hend⟩ := hinv.paired sid
  refine ⟨hinitial, fun hfinal => ⟨fun hopened => ?_, (hend hfinal).2⟩⟩
  refine (hend hfinal).1.resolve_left fun hnil => ?_
  have hmem : .opened sid ∈ about (run step (start controlPlane) events).log sid :=
    List.mem_filter.2 ⟨hopened, by simp [Callback.sessionID]⟩
  rw [hnil] at hmem
  cases hmem

instance (s : PeerServer) (e : Event) : Decidable (s.UniqueIDs e) := by
  unfold UniqueIDs
  split <;> infer_instance

instance (q : Peer) (g : PeerGoroutine) (o : PeerOutcome) : Decidable (q.Undisturbed g o) := by
  unfold Peer.Undisturbed
  split <;> (try split) <;> infer_instance

instance (s : PeerServer) (e : Event) : Decidable (s.Undisturbed e) := by
  unfold Undisturbed
  cases e <;> infer_instance

instance (q : Peer) : Decidable q.Finished := inferInstanceAs (Decidable (_ ∧ _))

instance (s : PeerServer) : Decidable s.Final := inferInstanceAs (Decidable (_ ∧ _ ∧ _))

/-- A peer that shakes hands on the control plane and is found dead, before the server is shut
    down. -/
def deadPeer : List Event :=
  [.control "p" true, .peer 0 .handshake .proceed, .peer 0 .expire .proceed,
    .peer 0 .handshake (.success ⟨"s", "d"⟩), .data "p" true, .peer 0 .serve .proceed,
    .peer 0 .serve .proceed, .peer 0 .handshake .proceed, .peer 0 .handshake .proceed,
    .peer 0 .serve .proceed, .peer 0 .handshake .proceed, .peer 0 .handshake .proceed,
    .peer 0 .handshake .proceed, .peer 0 .expire .proceed, .peer 0 .loop .proceed,
    .peer 0 .loop .dead, .closer 0 0, .closer 0 0, .peer 0 .serve .acceptFails,
    .peer 0 .close .proceed, .peer 0 .close .proceed, .peer 0 .close .proceed, .closer 0 0,
    .closer 0 0, .closer 1 0, .shutdown, .closer 2 0, .closer 2 0]

theorem sessions_paired_deadPeer :
    (run step (start true) deadPeer).Final ∧
    .opened "s" ∈ (run step (start true) deadPeer).log ∧
    about (run step (start true) deadPeer).log "s" = [.opened "s", .closed "s"] ∧
    "s" ∉ (run step (start true) deadPeer).peerStats := by
  have hfinal : (run step (start true) deadPeer).Final := by decide +kernel
  have hopened : .opened "s" ∈ (run step (start true) deadPeer).log := by decide +kernel
  obtain ⟨-, hend⟩ := sessions_paired true deadPeer (by decide +kernel) (by decide +kernel) "s"
  exact ⟨hfinal, hopened, (hend hfinal).1 hopened, (hend hfinal).2⟩

/-- The server is shut down between `setHandshake` and `onOpen` of `acceptPeerHandshake`. -/
def closedBeforeOpen : List Event :=
  [.control "p" true, .peer 0 .handshake .proceed, .peer 0 .handshake (.success ⟨"s", "d"⟩),
    .peer 0 .handshake .proceed, .shutdown, .closer 0 0, .closer 0 0, .peer 0 .close .proceed,
    .peer 0 .close .proceed, .peer 0 .close .proceed, .closer 0 0, .closer 0 0,
    .peer 0 .handshake .proceed, .peer 0 .handshake .proceed, .peer 0 .handshake .proceed,
    .peer 0 .handshake .proceed, .peer 0 .expire .proceed]

/-- The server is shut down between `handshake.Server` and `setHandshake` of `servePeer`. -/
def closedBeforeStored : List Event :=
  [.data "p" true, .peer 0 .serve .proceed, .peer 0 .serve .proceed,
    .peer 0 .serve (.success ⟨"s", "d"⟩), .shutdown, .closer 0 0, .closer 0 0,
    .peer 0 .close .proceed, .peer 0 .close .proceed, .peer 0 .close .proceed, .closer 0 0,
    .closer 0 0, .peer 0 .serve .proceed, .peer 0 .serve .proceed, .peer 0 .serve .proceed]

/-- Both ways to shake hands go wrong without the condition. -/
theorem sessions_unpaired :
    (Along step UniqueIDs (start true) closedBeforeOpen ∧
      (run step (start true) closedBeforeOpen).Final ∧
      (run step (start true) closedBeforeOpen).log = [.closed "s", .opened "s"] ∧
      "s" ∈ (run step (start true) closedBeforeOpen).peerStats) ∧
    (Along step UniqueIDs (start false) closedBeforeStored ∧
      (run step (start false) closedBeforeStored).Final ∧
      (run step (start false) closedBeforeStored).log = [.opened "s"] ∧
      "s" ∈ (run step (start false) closedBeforeStored).peerStats) := by
  refine ⟨⟨?_, ?_, ?_, ?_⟩, ?_, ?_, ?_, ?_⟩ <;> decide +kernel

end PeerServer

end OlcRtc
