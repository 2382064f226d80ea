import OlcRtc.Server.Stacks

/-!
# The lock regions of the peer table, taken as one step

`PeerServer` takes `getPeerSession` and `getOrCreatePeerControlSession` as one step each, and knows
of a stack only whether it is attached.  In `OlcRtc.Server.Stacks` they are calls that build a
stack, attach it or lose it, and can be interrupted.  The two models are of one program: a call that
is not interrupted ends, and what it has done to the map and to the peers is that one step.

`Agree` compares two states by what both models know, and `Runs` is a call that runs to its end.
**`getPeerSession_alone`** and **`getOrCreatePeerControlSession_alone`** are the results for one
call, and **`serial_refines`** is that for any number of them, one after the other.
-/

namespace OlcRtc.PeerStacks

variable {w w' w'' : World} {i k p : ℕ} {q : Peer} {plane : Plane}

/-- Call `i` comes to its end without being interrupted. -/
inductive Runs (i : ℕ) (c : Choice) : World → Pc → World → Prop
  | finished (w : World) : Runs i c w .finished w
  | step {w w' w'' : World} {pc pc' : Pc} :
      act i c w pc = some (w', pc') → Runs i c w' pc' w'' → Runs i c w pc w''

/-- What both models know of a peer. -/
def Peer.view (q : Peer) : String × Bool × Bool × String × Bool :=
  (q.peerID, q.data.isSome, q.control.isSome, q.sessionID, q.closed)

/-- The same, in `PeerServer`. -/
def peerView (q : OlcRtc.Peer) : String × Bool × Bool × String × Bool :=
  (q.peerID, q.data, q.control, q.sessionID, q.closed)

structure Agree (w : World) (s : PeerServer) : Prop where
  controlPlane : w.controlPlane = s.controlPlane
  stopping : w.stopping = s.stopping
  lookup : ∀ peerID, w.peerSessions.lookup peerID = s.peerSessions.lookup peerID
  size : w.peerSessions.keys.length = s.peerSessions.keys.length
  peers : w.peers.map Peer.view = s.peers.map peerView

variable {s : PeerServer} {r : OlcRtc.Peer}

namespace Agree

lemma mayAdmit (h : Agree w s) (existing : Option ℕ) :
    w.mayAdmitPeerLocked existing = s.mayAdmitPeerLocked existing := by
  rw [World.mayAdmitPeerLocked, PeerServer.mayAdmitPeerLocked, h.stopping, h.size, AList.keys,
    List.keys, List.length_map]

lemma length_peers (h : Agree w s) : w.peers.length = s.peers.length := by
  rw [← List.length_map Peer.view, h.peers, List.length_map]

lemma exists_peer (h : Agree w s) (hq : w.peers[p]? = some q) :
    ∃ r : OlcRtc.Peer, s.peers[p]? = some r ∧ peerView r = q.view := by
  have hview : (w.peers.map Peer.view)[p]? = some q.view := by rw [List.getElem?_map, hq]; rfl
  rw [h.peers, List.getElem?_map] at hview
  exact Option.map_eq_some_iff.1 hview

lemma congr (h : Agree w s) (hplane : w'.controlPlane = w.controlPlane)
    (hstop : w'.stopping = w.stopping) (hmap : w'.peerSessions = w.peerSessions)
    (hpeers : w'.peers = w.peers) : Agree w' s where
  controlPlane := hplane.trans h.controlPlane
  stopping := hstop.trans h.stopping
  lookup peerID := by rw [hmap, h.lookup]
  size := by rw [hmap, h.size]
  peers := by rw [hpeers, h.peers]

lemma put (h : Agree w s) (hview : q.view = peerView r) :
    Agree (w.put p q) { s with peers := s.peers.set p r } where
  controlPlane := h.controlPlane
  stopping := h.stopping
  lookup := h.lookup
  size := h.size
  peers := by
    show (w.peers.set p q).map _ = (s.peers.set p r).map _
    rw [List.map_set, List.map_set, h.peers, hview]

lemma enter_same (h : Agree w s) {peerID : String}
    (hlook : w.peerSessions.lookup peerID = some p) : Agree (w.enter peerID p) s where
  controlPlane := h.controlPlane
  stopping := h.stopping
  lookup peerID' := by
    show (w.peerSessions.insert peerID p).lookup peerID' = _
    by_cases hsame : peerID' = peerID
    · rw [← h.lookup, hsame, AList.lookup_insert, hlook]
    · rw [← h.lookup, AList.lookup_insert_ne hsame]
  size := by
    show (w.peerSessions.insert peerID p).keys.length = _
    rw [length_keys_insert, if_pos (AList.lookup_isSome.1 (by rw [hlook]; rfl)), h.size]
  peers := h.peers

lemma enroll (h : Agree w s) (hlook : w.peerSessions.lookup r.peerID = none)
    (hview : q.view = peerView r) :
    Agree ((w.make q).enter r.peerID w.peers.length) (s.enroll r) where
  controlPlane := h.controlPlane
  stopping := h.stopping
  lookup peerID := by
    show (w.peerSessions.insert _ _).lookup peerID = (s.peerSessions.insert _ _).lookup peerID
    rw [h.length_peers]
    by_cases hsame : peerID = r.peerID
    · rw [hsame, AList.lookup_insert, AList.lookup_insert]
    · rw [AList.lookup_insert_ne hsame, AList.lookup_insert_ne hsame, h.lookup]
  size := by
    show (w.peerSessions.insert _ _).keys.length = (s.peerSessions.insert _ _).keys.length
    rw [length_keys_insert, length_keys_insert, if_neg (AList.lookup_eq_none.1 hlook),
      if_neg (AList.lookup_eq_none.1 (h.lookup _ ▸ hlook)), h.size]
  peers := by
    show (w.peers ++ [q]).map _ = (s.peers ++ [r]).map _
    rw [List.map_append, List.map_append, h.peers, List.map_singleton, List.map_singleton, hview]

end Agree

/-- What an uninterrupted call does to a world that agrees with `s`: it ends, and the worlds agree
again. -/
def DoesAlone (i : ℕ) (c : Choice) (w : World) (pc : Pc) (s' : PeerServer) : Prop :=
  ∃ w', Runs i c w pc w' ∧ w'.sessMu = none ∧ Agree w' s'

variable {c : Choice} {pc : Pc}

@[simp] lemma doesAlone_finished :
    DoesAlone i c w .finished s ↔ w.sessMu = none ∧ Agree w s := by
  constructor
  · rintro ⟨w', hruns, hend⟩
    cases hruns with
    | finished => exact hend
    | step hact => cases hact
  · exact fun h => ⟨w, .finished w, h⟩

lemma doesAlone_step (hpc : pc ≠ .finished) :
    DoesAlone i c w pc s ↔ ∃ next, act i c w pc = some next ∧ DoesAlone i c next.1 next.2 s := by
  constructor
  · rintro ⟨w', hruns, hend⟩
    cases hruns with
    | finished => exact absurd rfl hpc
    | step hact hruns => exact ⟨_, hact, w', hruns, hend⟩
  · rintro ⟨next, hact, w', hruns, hend⟩
    exact ⟨w', .step hact hruns, hend⟩

lemma view_setSlot_data (hview : peerView r = q.view) (k : ℕ) :
    (q.setSlot k .data).view = peerView (PeerServer.attachData r) := by
  simp only [peerView, Peer.view, Prod.mk.injEq] at hview
  simp [Peer.view, peerView, Peer.setSlot, PeerServer.attachData, hview]

lemma view_setSlot_control (hview : peerView r = q.view) (k : ℕ) :
    (q.setSlot k .control).view = peerView (PeerServer.attachControl r) := by
  simp only [peerView, Peer.view, Prod.mk.injEq] at hview
  simp [Peer.view, peerView, Peer.setSlot, PeerServer.attachControl, hview]

lemma mayAdmit_sessMu (m : Option ℕ) (existing : Option ℕ) :
    World.mayAdmitPeerLocked { w with sessMu := m } existing = w.mayAdmitPeerLocked existing := rfl

-- Both calls are run symbolically: these unfold one step of the call and what it writes.
attribute [local simp] doesAlone_step act actAdmit actBuild attached World.lock World.unlock
  World.build World.make World.enter World.give World.put World.discard Peer.attach Peer.slot
  newPeerSession mayAdmit_sessMu

/-- **`getPeerSession`, when it is not interrupted, is the step of the coarser machine.** -/
theorem getPeerSession_alone (hok : w.Ok) (h : Agree w s) (hfree : w.sessMu = none)
    (peerID : String) (c : Choice) :
    DoesAlone i c w (.data peerID) (s.getPeerSession peerID c.ok) := by
  by_cases hempty : peerID = ""
  · simp [PeerServer.getPeerSession, hempty, hfree, h]
  cases hlook : w.peerSessions.lookup peerID with
  | none =>
    simp only [PeerServer.getPeerSession, if_neg hempty, ← h.lookup, ← h.mayAdmit, hlook]
    cases hmay : w.mayAdmitPeerLocked none <;> cases hinit : c.ok <;>
      simp [hempty, hlook, hfree, hmay, hinit]
    case true.true =>
      have henroll := h.enroll (r := PeerServer.attachData (OlcRtc.newPeerSession peerID)) hlook
        (view_setSlot_data (q := newPeerSession peerID .enrolled) rfl w.built.length)
      exact henroll.congr rfl rfl rfl rfl
    all_goals exact h.congr rfl rfl rfl rfl
  | some p =>
    obtain ⟨q, hq, -⟩ := hok.entry peerID p hlook
    obtain ⟨r, hr, hview⟩ := h.exists_peer hq
    have hfields := hview
    simp only [peerView, Peer.view, Prod.mk.injEq] at hfields
    simp only [PeerServer.getPeerSession, if_neg hempty, ← h.lookup, ← h.mayAdmit, hlook, hr]
    by_cases hdata : q.data = none
    · cases hmay : w.mayAdmitPeerLocked (some p) <;> cases hinit : c.ok <;>
        cases hclosed : q.closed <;>
        simp [hempty, hlook, hfree, hq, hfields, hdata, hclosed, hinit, hmay]
      case true.true.false =>
        exact (h.put (view_setSlot_data hview _)).congr rfl rfl rfl rfl
      all_goals exact h.congr rfl rfl rfl rfl
    · simp [hempty, hlook, hfree, hq, hfields, hdata, h, Option.isSome_iff_ne_none]

/-- **So is `getOrCreatePeerControlSession`.** -/
theorem getOrCreatePeerControlSession_alone (hok : w.Ok) (h : Agree w s) (hfree : w.sessMu = none)
    (peerID : String) (c : Choice) :
    DoesAlone i c w (.control peerID) (s.getOrCreatePeerControlSession peerID c.ok) := by
  by_cases hempty : peerID = "" ∨ w.controlPlane = false
  · simp [PeerServer.getOrCreatePeerControlSession, ← h.controlPlane, hempty, hfree, h]
  have hempty' : ¬ (peerID = "" ∨ ¬ s.controlPlane = true) := by
    rwa [← h.controlPlane, Bool.not_eq_true]
  simp only [PeerServer.getOrCreatePeerControlSession, if_neg hempty', ← h.lookup, ← h.mayAdmit]
  cases hlook : w.peerSessions.lookup peerID with
  | none =>
    cases hmay : w.mayAdmitPeerLocked none <;> cases hinit : c.ok <;>
      simp [hempty, hlook, hfree, hmay, hinit, h]
    case true.true =>
      have henroll := h.enroll (r := PeerServer.attachControl (OlcRtc.newPeerSession peerID)) hlook
        (view_setSlot_control (q := newPeerSession peerID .enrolled) rfl w.built.length)
      exact henroll.congr rfl rfl rfl rfl
    all_goals exact h.congr rfl rfl rfl rfl
  | some p =>
    obtain ⟨q, hq, -⟩ := hok.entry peerID p hlook
    obtain ⟨r, hr, hview⟩ := h.exists_peer hq
    obtain ⟨hlt, hget⟩ := List.getElem?_eq_some_iff.1 hq
    have hfields := hview
    simp only [peerView, Peer.view, Prod.mk.injEq] at hfields
    by_cases hcontrol : q.control = none
    · cases hinit : c.ok <;> cases hclosed : q.closed <;>
        simp [hr, hempty, hlook, hfree, hfields, hcontrol, hclosed, hinit, hlt, hget]
      case true.false =>
        obtain ⟨rfl, -⟩ := hok.place_eq hq hlook
        have hput := h.put (p := p) (view_setSlot_control (q := { q with place := .enrolled })
          hview w.built.length)
        exact (hput.enter_same hlook).congr rfl rfl rfl rfl
      all_goals exact h.congr rfl rfl rfl rfl
    · simp [hr, hempty, hlook, hfree, hlt, hget, hfields, hcontrol, h, Option.isSome_iff_ne_none]

/-! ## One call after the other -/

/-- A frame of a peer arrives, and `NewSession` succeeds for it or not. -/
structure Arrival where
  plane : Plane
  peerID : String
  ok : Bool

namespace Arrival

def entry (a : Arrival) : Pc :=
  match a.plane with
  | .data => .data a.peerID
  | .control => .control a.peerID

def event (a : Arrival) : PeerServer.Event :=
  match a.plane with
  | .data => .data a.peerID a.ok
  | .control => .control a.peerID a.ok

end Arrival

/-- The calls of some arrivals, each of which takes a number of steps before the next begins. -/
def serial (arrivals : List (Arrival × ℕ)) : List Event :=
  (arrivals.mapIdx fun i a => .begin a.1.entry :: List.replicate a.2 (.step i ⟨a.1.ok, []⟩)).flatten

lemma exists_steps_of_runs (h : Runs i c w pc w') (calls : List Pc) (hpc : calls[i]? = some pc) :
    ∃ n, run step ⟨w, calls⟩ (List.replicate n (.step i c)) = ⟨w', calls.set i .finished⟩ := by
  induction h generalizing calls with
  | finished w =>
    obtain ⟨hlt, hget⟩ := List.getElem?_eq_some_iff.1 hpc
    exact ⟨0, by simp [← hget]⟩
  | step hact _ ih =>
    rename_i pc pc' _
    obtain ⟨n, hn⟩ := ih (calls.set i pc') (by grind)
    refine ⟨n + 1, ?_⟩
    rw [List.replicate_succ, run_cons, step, Calls.step_of_call hpc, hact]
    rw [List.set_set] at hn
    exact hn

lemma Arrival.doesAlone (a : Arrival) (hok : w.Ok) (h : Agree w s) (hfree : w.sessMu = none) :
    DoesAlone i ⟨a.ok, []⟩ w a.entry (s.step a.event) := by
  obtain ⟨plane, peerID, ok⟩ := a
  cases plane with
  | data => exact getPeerSession_alone hok h hfree peerID ⟨ok, []⟩
  | control => exact getOrCreatePeerControlSession_alone hok h hfree peerID ⟨ok, []⟩

/-- **Frames that are handled one after the other take both machines through the same states.**
Whatever frames arrive, if each call runs to its end before the next begins, then all of them end,
the lock is free, and the map and the peers are those of the machine that takes each call as one
step. -/
theorem serial_refines (controlPlane : Bool) (arrivals : List Arrival) :
    ∃ calls : List (Arrival × ℕ), calls.map Prod.fst = arrivals ∧
      let s := run step ⟨World.init controlPlane, []⟩ (serial calls)
      s.calls = List.replicate arrivals.length .finished ∧ s.world.sessMu = none ∧
        Agree s.world (run PeerServer.step (.start controlPlane) (arrivals.map Arrival.event)) := by
  induction arrivals using List.reverseRecOn with
  | nil => exact ⟨[], rfl, rfl, rfl, rfl, rfl, fun _ => rfl, rfl, rfl⟩
  | append_singleton arrivals a ih =>
    obtain ⟨calls, rfl, hcalls, hfree, hagree⟩ := ih
    have hworld := (ok_run controlPlane (serial calls)).world
    set s := run step ⟨World.init controlPlane, []⟩ (serial calls)
    obtain ⟨w', hruns, hfree', hagree'⟩ :=
      a.doesAlone (i := calls.length) hworld hagree hfree
    have hentry : a.entry.isEntry = true := by
      obtain ⟨plane, peerID, ok⟩ := a
      cases plane <;> rfl
    obtain ⟨n, hn⟩ := exists_steps_of_runs hruns (s.calls ++ [a.entry]) (by simp [hcalls])
    have hrun : run step ⟨World.init controlPlane, []⟩ (serial (calls ++ [(a, n)])) =
        ⟨w', s.calls ++ [.finished]⟩ := by
      have hbegin : step s (.begin a.entry) = ⟨s.world, s.calls ++ [a.entry]⟩ := if_pos hentry
      rw [serial, List.mapIdx_concat, List.flatten_concat, run_append, run_cons]
      show run step (step s _) _ = _
      rw [hbegin, hn, hcalls]
      simp
    refine ⟨calls ++ [(a, n)], by simp, ?_⟩
    rw [hrun, List.map_append, run_append]
    refine ⟨?_, hfree', hagree'⟩
    simp [hcalls, List.replicate_succ']

end OlcRtc.PeerStacks
