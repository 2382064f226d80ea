import OlcRtc.Jitsi.Session
import OlcRtc.Lib.Lists

/-!
# Nothing stale is delivered or sent

Frames of an earlier life of a session, its own or its peer's, must not get through.  Three
invariants say so, for every interleaving:

* what is delivered was accepted (`Delivery.Accepted`): the frame does not come from the session
  itself, names no other epoch than its own, and for a targeted client names it and comes from the
  confirmed peer;
* every frame that is under way inside the session carries the epoch the session had when the frame
  was made (`Queued`), so that a frame which is sent was made in the epoch it is sent in, provided
  that epochs do not repeat;
* the table of epochs keeps to its bound.

**`epochs_never_stale`** puts them together.
-/

namespace OlcRtc.Jitsi

/-- What is known about a delivery. -/
structure Delivery.Accepted (onPeerData requireTargetedPeer : Bool) (d : Delivery) : Prop where
  nonempty : d.data ≠ []
  body : d.data = (readFrame d.payload).body
  foreign : (readFrame d.payload).senderEpoch ≠ d.localEpoch
  addressed : (readFrame d.payload).receiverEpoch = 0 ∨
    (readFrame d.payload).receiverEpoch = d.localEpoch
  targeted : requireTargetedPeer = true → onPeerData = false →
    (readFrame d.payload).receiverEpoch = d.localEpoch ∧
    (d.peerEpoch ≠ 0 → (readFrame d.payload).senderEpoch = d.peerEpoch)

/-- A frame carries the epoch in which it was made. -/
def Outbound.Born (history : List Epoch) (frame : Outbound) : Prop :=
  history[frame.born]? = some (readFrame frame.data).senderEpoch

/-- The same for a frame that is being made. -/
def SenderPc.Born (history : List Epoch) : SenderPc → Prop
  | .loaded _ _ localEpoch born => history[born]? = some localEpoch
  | .encoded frame => frame.Born history
  | _ => True

/-- A frame was sent in the epoch it carries. -/
structure Emission.Current (history : List Epoch) (m : Emission) : Prop where
  sender : (readFrame m.frame.data).senderEpoch = m.localEpoch
  born : m.frame.Born history
  sent : history[m.generation]? = some m.localEpoch

namespace Session

variable {s s' : Session}

/-! ## Receiving -/

lemma of_parseEpochFrame {payload : Bytes} {frame : EpochFrame}
    (h : s.parseEpochFrame payload = some frame) :
    frame = readFrame payload ∧ (readFrame payload).senderEpoch ≠ 0 ∧
    (readFrame payload).senderEpoch ≠ s.localEpoch ∧
    ((readFrame payload).receiverEpoch = 0 ∨ (readFrame payload).receiverEpoch = s.localEpoch) := by
  unfold parseEpochFrame at h
  split_ifs at h with hshort hsender hreceiver
  rw [not_or] at hsender
  rw [not_and_or, not_not, not_not] at hreceiver
  exact ⟨(Option.some.inj h).symm, hsender.1, hsender.2, hreceiver⟩

/-- What receiving leaves alone. -/
structure SameSending (s s' : Session) : Prop where
  onPeerData : s'.onPeerData = s.onPeerData
  requireTargetedPeer : s'.requireTargetedPeer = s.requireTargetedPeer
  localEpoch : s'.localEpoch = s.localEpoch
  past : s'.past = s.past
  sendQueue : s'.sendQueue = s.sendQueue
  peerSendQueue : s'.peerSendQueue = s.peerSendQueue
  senders : s'.senders = s.senders
  sendLoop : s'.sendLoop = s.sendLoop
  emitted : s'.emitted = s.emitted

lemma SameSending.refl (s : Session) : s.SameSending s :=
  ⟨rfl, rfl, rfl, rfl, rfl, rfl, rfl, rfl, rfl⟩

lemma SameSending.trans {s'' : Session} (h : s.SameSending s') (h' : s'.SameSending s'') :
    s.SameSending s'' :=
  ⟨h'.1.trans h.1, h'.2.trans h.2, h'.3.trans h.3, h'.4.trans h.4, h'.5.trans h.5,
    h'.6.trans h.6, h'.7.trans h.7, h'.8.trans h.8, h'.9.trans h.9⟩

lemma learnEpoch_spec (s : Session) (fromID : String) (e : Epoch) :
    s.SameSending (s.learnEpoch fromID e) ∧ (s.learnEpoch fromID e).delivered = s.delivered := by
  unfold learnEpoch
  repeat' split
  all_goals exact ⟨⟨rfl, rfl, rfl, rfl, rfl, rfl, rfl, rfl, rfl⟩, rfl⟩

lemma learnEpoch_bound (fromID : String) (e : Epoch)
    (h : s.peerEpochs.entries.length ≤ maxPeerEpochs) :
    (s.learnEpoch fromID e).peerEpochs.entries.length ≤ maxPeerEpochs := by
  unfold learnEpoch
  cases hlookup : s.peerEpochs.lookup fromID with
  | some prev =>
    have hmem : fromID ∈ s.peerEpochs := AList.lookup_isSome.1 (by rw [hlookup]; rfl)
    dsimp only
    split_ifs
    · rw [length_entries_insert, if_pos hmem]
      exact h
    · exact h
  | none =>
    dsimp only
    split_ifs with hroom
    · rw [length_entries_insert, if_neg (AList.lookup_eq_none.1 hlookup)]
      exact hroom
    · exact h

/-- What receiving a message does to the sending side, to the table and to what was delivered. -/
structure Receives (s s' : Session) : Prop where
  same : s.SameSending s'
  bound : s.peerEpochs.entries.length ≤ maxPeerEpochs →
    s'.peerEpochs.entries.length ≤ maxPeerEpochs
  delivered : s'.delivered = s.delivered ∨
    ∃ d : Delivery, d.Accepted s.onPeerData s.requireTargetedPeer ∧
      s'.delivered = s.delivered ++ [d]

lemma Receives.refl (s : Session) : s.Receives s :=
  ⟨SameSending.refl s, id, Or.inl rfl⟩

lemma Receives.deliver {fromID : String} {payload data : Bytes} (h : s.Receives s')
    (hsame : s'.delivered = s.delivered)
    (haccept : data ≠ [] → Delivery.Accepted s.onPeerData s.requireTargetedPeer
      ⟨fromID, data, payload, s.localEpoch, s.peerEpoch⟩) :
    s.Receives (s'.deliver s fromID payload data) := by
  unfold Session.deliver
  split_ifs with hdata
  · exact h
  · refine ⟨h.same.trans ⟨rfl, rfl, rfl, rfl, rfl, rfl, rfl, rfl, rfl⟩, h.bound, Or.inr ?_⟩
    exact ⟨_, haccept hdata, by rw [hsame]⟩

lemma receives_peer (hpeers : s.onPeerData = true) (fromID : String) {payload : Bytes}
    {frame : EpochFrame} (hparse : s.parseEpochFrame payload = some frame) :
    s.Receives ((s.learnEpoch fromID frame.senderEpoch).deliver s fromID payload frame.body) := by
  obtain ⟨rfl, -, hforeign, haddressed⟩ := of_parseEpochFrame hparse
  obtain ⟨hsame, hdelivered⟩ := learnEpoch_spec s fromID (readFrame payload).senderEpoch
  refine Receives.deliver ⟨hsame, learnEpoch_bound fromID _, Or.inl hdelivered⟩ hdelivered ?_
  intro hdata
  refine ⟨hdata, rfl, hforeign, haddressed, fun _ hno => ?_⟩
  exact absurd (hpeers.symm.trans hno) (by simp)

lemma receives_acceptEpochFrame (s : Session) (fromID : String) (payload : Bytes) :
    s.Receives (s.acceptEpochFrame payload).1 ∧
    (s.acceptEpochFrame payload).1.delivered = s.delivered ∧
    ∀ data, (s.acceptEpochFrame payload).2 = some data → data ≠ [] →
      Delivery.Accepted s.onPeerData s.requireTargetedPeer
        ⟨fromID, data, payload, s.localEpoch, s.peerEpoch⟩ := by
  unfold acceptEpochFrame
  cases hparse : s.parseEpochFrame payload with
  | none => exact ⟨Receives.refl s, rfl, nofun⟩
  | some frame =>
    obtain ⟨rfl, -, hforeign, haddressed⟩ := of_parseEpochFrame hparse
    dsimp only
    split_ifs with htargeted hreceiver hpeer
    · exact ⟨Receives.refl s, rfl, nofun⟩
    · exact ⟨Receives.refl s, rfl, nofun⟩
    · refine ⟨Receives.refl s, rfl, ?_⟩
      rintro data ⟨⟩ hdata
      refine ⟨hdata, rfl, hforeign, haddressed, fun _ _ => ⟨not_not.1 hreceiver, ?_⟩⟩
      intro hconfirmed
      by_contra hother
      exact hpeer ⟨hconfirmed, hother⟩
    · refine ⟨⟨⟨rfl, rfl, rfl, rfl, rfl, rfl, rfl, rfl, rfl⟩, id, Or.inl rfl⟩, rfl, ?_⟩
      rintro data ⟨⟩ hdata
      refine ⟨hdata, rfl, hforeign, haddressed, fun hrequire hno => ?_⟩
      exact absurd ⟨hrequire, by simp [hno]⟩ htargeted

/-- **Receiving a message** leaves the sending side alone, keeps the table within its bound, and
    delivers nothing or what was accepted. -/
lemma receives_receive (s : Session) (msg : BridgeMessage) :
    s.Receives (s.step (.receive msg)) := by
  simp only [step, deliverBridgeMessageGen]
  cases bridgePayload msg with
  | none => exact Receives.refl s
  | some payload =>
    dsimp only
    split_ifs with hpeers
    · unfold acceptPeerEpochFrame
      cases hparse : s.parseEpochFrame payload with
      | none => exact Receives.refl s
      | some frame => exact receives_peer hpeers.1 msg.fromID hparse
    · obtain ⟨hreceives, hsame, haccepted⟩ := receives_acceptEpochFrame s msg.fromID payload
      cases haccept : s.acceptEpochFrame payload with
      | mk s' result =>
        rw [haccept] at hreceives hsame haccepted
        cases result with
        | none => exact hreceives
        | some data =>
          dsimp only
          refine Receives.deliver ?_ ?_ (haccepted data rfl)
          · split_ifs
            · unfold latchPeerEndpoint
              split_ifs
              · exact hreceives
              · refine ⟨hreceives.same.trans ?_, hreceives.bound, hreceives.delivered⟩
                exact ⟨rfl, rfl, rfl, rfl, rfl, rfl, rfl, rfl, rfl⟩
            · exact hreceives
          · split_ifs
            · unfold latchPeerEndpoint
              split_ifs <;> exact hsame
            · exact hsame

/-! ## Sending -/

def history (s : Session) : List Epoch := s.past ++ [s.localEpoch]

lemma history_present (s : Session) : s.history[s.past.length]? = some s.localEpoch := by
  rw [history, List.getElem?_append_right (Nat.le_refl _), Nat.sub_self]
  rfl

/-- Every frame under way carries the epoch in which it was made. -/
structure Queued (history : List Epoch) (s : Session) : Prop where
  sendQueue : ∀ frame ∈ s.sendQueue, frame.Born history
  peerSendQueue : ∀ frame ∈ s.peerSendQueue, frame.Born history
  senders : ∀ pc ∈ s.senders, pc.Born history
  sendLoop : ∀ frame, s.sendLoop = .wait frame → frame.Born history
  emitted : ∀ m ∈ s.emitted, m.Current history

lemma getElem?_mono {history : List Epoch} {i : ℕ} {e : Epoch} (h : history[i]? = some e)
    (more : List Epoch) : (history ++ more)[i]? = some e := by
  rw [List.getElem?_append_left (List.getElem?_eq_some_iff.1 h).1, h]

lemma Queued.mono {history : List Epoch} (h : Queued history s) (more : List Epoch) :
    Queued (history ++ more) s := by
  refine ⟨fun o ho => ?_, fun o ho => ?_, fun pc hpc => ?_, fun o ho => ?_, fun m hm => ?_⟩
  · exact getElem?_mono (h.sendQueue o ho) more
  · exact getElem?_mono (h.peerSendQueue o ho) more
  · have hborn := h.senders pc hpc
    cases pc with
    | loaded peerID data e born => exact getElem?_mono hborn more
    | encoded frame => exact getElem?_mono hborn more
    | start peerID data => trivial
    | finished => trivial
  · exact getElem?_mono (h.sendLoop o ho) more
  · obtain ⟨hsender, hborn, hsent⟩ := h.emitted m hm
    exact ⟨hsender, getElem?_mono hborn more, getElem?_mono hsent more⟩

lemma Queued.of_same {history : List Epoch} (h : Queued history s) (hsame : s.SameSending s') :
    Queued history s' := by
  obtain ⟨hsend, hpeer, hsenders, hloop, hemitted⟩ := h
  rw [← hsame.sendQueue] at hsend
  rw [← hsame.peerSendQueue] at hpeer
  rw [← hsame.senders] at hsenders
  rw [← hsame.sendLoop] at hloop
  rw [← hsame.emitted] at hemitted
  exact ⟨hsend, hpeer, hsenders, hloop, hemitted⟩

lemma Queued.setSender {history : List Epoch} (h : Queued history s) (i : ℕ) {pc : SenderPc}
    (hpc : pc.Born history) : Queued history { s with senders := s.senders.set i pc } :=
  ⟨h.1, h.2, forall_mem_set h.senders hpc, h.4, h.5⟩

lemma Queued.addSender {history : List Epoch} (h : Queued history s) (peerID : String)
    (data : Bytes) :
    Queued history { s with senders := s.senders ++ [.start peerID data] } :=
  ⟨h.1, h.2, forall_mem_concat h.senders trivial, h.4, h.5⟩

lemma Queued.senderStep (h : Queued s.history s) {i : ℕ} {pc : SenderPc}
    (hi : s.senders[i]? = some pc) : Queued s.history (s.senderStep i pc) := by
  have hborn := h.senders pc (List.mem_of_getElem? hi)
  cases pc with
  | start peerID data =>
    simp only [Session.senderStep]
    split_ifs
    · exact h.setSender i trivial
    · exact h.setSender i s.history_present
  | loaded peerID data localEpoch born =>
    refine h.setSender i ?_
    show s.history[born]? = some (readFrame (bridgeFrame _ _ _)).senderEpoch
    rw [readFrame_bridgeFrame]
    exact hborn
  | encoded frame =>
    have hfinished : Queued s.history { s with senders := s.senders.set i .finished } :=
      h.setSender i trivial
    simp only [Session.senderStep]
    split_ifs
    · exact hfinished
    · exact ⟨forall_mem_concat h.sendQueue hborn, hfinished.2, hfinished.3, hfinished.4, hfinished.5⟩
    · exact hfinished
    · exact ⟨hfinished.1, forall_mem_concat h.peerSendQueue hborn, hfinished.3, hfinished.4,
        hfinished.5⟩
    · exact hfinished
  | finished => exact h

lemma Queued.takeFrame (h : Queued s.history s) (peer : Bool) :
    Queued s.history (s.takeFrame peer) := by
  have hwait : ∀ frame : Outbound, frame.Born s.history → ∀ o,
      (if s.outboundFrameCurrent frame.data then SendLoopPc.wait frame else .idle) = .wait o →
      o.Born s.history := by
    intro frame hframe o ho
    split_ifs at ho
    obtain rfl : frame = o := SendLoopPc.wait.inj ho
    exact hframe
  have htail : ∀ {queue rest : List Outbound} {frame : Outbound}, queue = frame :: rest →
      (∀ o ∈ queue, o.Born s.history) → frame.Born s.history ∧ ∀ o ∈ rest, o.Born s.history := by
    rintro _ rest frame rfl hall
    exact List.forall_mem_cons.1 hall
  unfold Session.takeFrame
  split
  · exact h
  · split
    · rename_i frame rest hqueue
      obtain ⟨hframe, hrest⟩ := htail hqueue h.sendQueue
      exact ⟨hrest, h.2, h.3, hwait frame hframe, h.5⟩
    · rename_i frame rest hqueue
      obtain ⟨hframe, hrest⟩ := htail hqueue h.peerSendQueue
      exact ⟨h.1, hrest, h.3, hwait frame hframe, h.5⟩
    · exact h

lemma Queued.emitFrame (h : Queued s.history s) (ready : Bool) :
    Queued s.history (s.emitFrame ready) := by
  unfold Session.emitFrame
  split
  · exact h
  next frame hwait =>
    split_ifs with hcurrent
    · have hsender := of_decide_eq_true hcurrent.2.2.2
      refine ⟨h.sendQueue, h.peerSendQueue, h.senders, nofun, forall_mem_concat h.emitted ?_⟩
      exact ⟨hsender.2, h.sendLoop frame hwait, s.history_present⟩
    · exact ⟨h.sendQueue, h.peerSendQueue, h.senders, nofun, h.emitted⟩

lemma Queued.rejoinStep (h : Queued s.history s) (v : UInt32) (outcome : JoinOutcome) :
    Queued (s.rejoinStep v outcome).history (s.rejoinStep v outcome) := by
  unfold Session.rejoinStep
  cases s.rejoin with
  | idle =>
    dsimp only
    split_ifs
    · exact h
    · exact ⟨h.1, h.2, h.3, h.4, h.5⟩
  | rotate full =>
    have hmore := h.mono [randomEpoch v]
    exact ⟨hmore.1, hmore.2, hmore.3, hmore.4, hmore.5⟩
  | forget full | resetEpochs full => exact ⟨h.1, h.2, h.3, h.4, h.5⟩
  | drain full =>
    dsimp only
    cases hqueue : s.sendQueue with
    | cons frame rest =>
      have hall := h.sendQueue
      rw [hqueue] at hall
      exact ⟨fun o ho => hall o (List.mem_cons_of_mem _ ho), h.2, h.3, h.4, h.5⟩
    | nil =>
      cases hpeers : s.peerSendQueue with
      | cons frame rest =>
        have hall := h.peerSendQueue
        rw [hpeers] at hall
        exact ⟨nofun, fun o ho => hall o (List.mem_cons_of_mem _ ho), h.3, h.4, h.5⟩
      | nil => exact ⟨nofun, nofun, h.3, h.4, h.5⟩
  | join full =>
    cases full with
    | true => cases outcome <;> exact ⟨h.1, h.2, h.3, h.4, h.5⟩
    | false => dsimp only; split_ifs <;> exact ⟨h.1, h.2, h.3, h.4, h.5⟩
  | bridge => dsimp only; split_ifs <;> exact ⟨h.1, h.2, h.3, h.4, h.5⟩
  | finish =>
    have hannounce := h.addSender "" []
    exact ⟨h.1, h.2, hannounce.3, h.4, h.5⟩

/-- What the sending side leaves alone. -/
structure SameReceiving (s s' : Session) : Prop where
  onPeerData : s'.onPeerData = s.onPeerData
  requireTargetedPeer : s'.requireTargetedPeer = s.requireTargetedPeer
  delivered : s'.delivered = s.delivered
  peerEpochs : s'.peerEpochs = s.peerEpochs
  past : s'.past = s.past
  localEpoch : s'.localEpoch = s.localEpoch

lemma SameReceiving.refl (s : Session) : s.SameReceiving s := ⟨rfl, rfl, rfl, rfl, rfl, rfl⟩

lemma SameReceiving.history (h : s.SameReceiving s') : s'.history = s.history := by
  rw [Session.history, Session.history, h.past, h.localEpoch]

lemma sameReceiving_senderStep (s : Session) (i : ℕ) (pc : SenderPc) :
    s.SameReceiving (s.senderStep i pc) := by
  cases pc with
  | start peerID data => simp only [senderStep]; split_ifs <;> exact ⟨rfl, rfl, rfl, rfl, rfl, rfl⟩
  | loaded peerID data localEpoch born => exact ⟨rfl, rfl, rfl, rfl, rfl, rfl⟩
  | encoded frame => simp only [senderStep]; split_ifs <;> exact ⟨rfl, rfl, rfl, rfl, rfl, rfl⟩
  | finished => exact SameReceiving.refl s

lemma sameReceiving_takeFrame (s : Session) (peer : Bool) : s.SameReceiving (s.takeFrame peer) := by
  unfold takeFrame
  split
  · exact SameReceiving.refl s
  · split <;> exact ⟨rfl, rfl, rfl, rfl, rfl, rfl⟩

lemma sameReceiving_emitFrame (s : Session) (ready : Bool) :
    s.SameReceiving (s.emitFrame ready) := by
  unfold emitFrame
  split
  · exact SameReceiving.refl s
  · split_ifs <;> exact ⟨rfl, rfl, rfl, rfl, rfl, rfl⟩

lemma sameReceiving_confirm (s : Session) (peerID : String) :
    s.SameReceiving (s.step (.confirm peerID)) := by
  simp only [step, confirmPeer]
  split
  · split_ifs <;> exact ⟨rfl, rfl, rfl, rfl, rfl, rfl⟩
  · exact SameReceiving.refl s

/-- What `reconnect` does to the receiving side: the table is reset in one step, and the epoch drawn
    in another. -/
lemma rejoinStep_receiving (s : Session) (v : UInt32) (outcome : JoinOutcome) :
    (s.rejoinStep v outcome).onPeerData = s.onPeerData ∧
    (s.rejoinStep v outcome).requireTargetedPeer = s.requireTargetedPeer ∧
    (s.rejoinStep v outcome).delivered = s.delivered ∧
    ((s.rejoinStep v outcome).peerEpochs = s.peerEpochs ∨
      (∃ full, s.rejoin = .resetEpochs full) ∧ (s.rejoinStep v outcome).peerEpochs = ∅) ∧
    ((s.rejoinStep v outcome).localEpoch = s.localEpoch ∨
      (∃ full, s.rejoin = .rotate full) ∧
        (s.rejoinStep v outcome).localEpoch = randomEpoch v) := by
  unfold rejoinStep
  repeat' split
  all_goals first
    | exact ⟨rfl, rfl, rfl, .inl rfl, .inl rfl⟩
    | exact ⟨rfl, rfl, rfl, .inr ⟨⟨_, ‹_›⟩, rfl⟩, .inl rfl⟩
    | exact ⟨rfl, rfl, rfl, .inl rfl, .inr ⟨⟨_, ‹_›⟩, rfl⟩⟩

/-- **Every event keeps the frames under way in order.** -/
lemma Queued.step (h : Queued s.history s) (e : Event) :
    Queued (s.step e).history (s.step e) := by
  cases e with
  | receive msg =>
    have hsame := (receives_receive s msg).same
    have hhistory : (s.step (.receive msg)).history = s.history := by
      rw [Session.history, Session.history, hsame.past, hsame.localEpoch]
    rw [hhistory]
    exact h.of_same hsame
  | send peerID data => exact h.addSender peerID data
  | sender i =>
    simp only [Session.step]
    cases hi : s.senders[i]? with
    | none => exact h
    | some pc =>
      show Queued (s.senderStep i pc).history (s.senderStep i pc)
      rw [(sameReceiving_senderStep s i pc).history]
      exact h.senderStep hi
  | take peer =>
    show Queued (s.takeFrame peer).history (s.takeFrame peer)
    rw [(sameReceiving_takeFrame s peer).history]
    exact h.takeFrame peer
  | emit ready =>
    show Queued (s.emitFrame ready).history (s.emitFrame ready)
    rw [(sameReceiving_emitFrame s ready).history]
    exact h.emitFrame ready
  | confirm peerID =>
    rw [(sameReceiving_confirm s peerID).history]
    simp only [Session.step, confirmPeer]
    split
    · split_ifs
      · exact h
      · exact ⟨h.1, h.2, h.3, h.4, h.5⟩
    · exact h
  | resetPeer => exact ⟨h.1, h.2, h.3, h.4, h.5⟩
  | rejoin v outcome => exact h.rejoinStep v outcome
  | bridge ready | close => exact ⟨h.1, h.2, h.3, h.4, h.5⟩

/-! ## Runs -/

/-- What was delivered was accepted, and the table keeps to its bound. -/
structure Received (peers targeted : Bool) (s : Session) : Prop where
  onPeerData : s.onPeerData = peers
  requireTargetedPeer : s.requireTargetedPeer = targeted
  delivered : ∀ d ∈ s.delivered, d.Accepted peers targeted
  bound : s.peerEpochs.entries.length ≤ maxPeerEpochs

lemma Received.of_same {peers targeted : Bool} (h : Received peers targeted s)
    (hsame : s.SameReceiving s') : Received peers targeted s' := by
  refine ⟨hsame.onPeerData.trans h.onPeerData,
    hsame.requireTargetedPeer.trans h.requireTargetedPeer,
    ?_, ?_⟩
  · rw [hsame.delivered]
    exact h.delivered
  · rw [hsame.peerEpochs]
    exact h.bound

/-- **Every event keeps what was received in order.** -/
lemma Received.step {peers targeted : Bool} (h : Received peers targeted s) (e : Event) :
    Received peers targeted (s.step e) := by
  cases e with
  | receive msg =>
    obtain ⟨hsame, hbound, hdelivered⟩ := receives_receive s msg
    refine ⟨hsame.onPeerData.trans h.onPeerData,
      hsame.requireTargetedPeer.trans h.requireTargetedPeer, ?_, hbound h.bound⟩
    rcases hdelivered with hnone | ⟨d, hd, hmore⟩
    · rw [hnone]
      exact h.delivered
    · rw [h.onPeerData, h.requireTargetedPeer] at hd
      rw [hmore]
      exact forall_mem_concat h.delivered hd
  | send peerID data => exact h.of_same ⟨rfl, rfl, rfl, rfl, rfl, rfl⟩
  | sender i =>
    simp only [Session.step]
    cases s.senders[i]? with
    | none => exact h
    | some pc => exact h.of_same (sameReceiving_senderStep s i pc)
  | take peer => exact h.of_same (sameReceiving_takeFrame s peer)
  | emit ready => exact h.of_same (sameReceiving_emitFrame s ready)
  | confirm peerID => exact h.of_same (sameReceiving_confirm s peerID)
  | resetPeer => exact ⟨h.1, h.2, h.3, Nat.zero_le _⟩
  | rejoin v outcome =>
    obtain ⟨hpeers, hrequire, hdelivered, htable, -⟩ := rejoinStep_receiving s v outcome
    refine ⟨hpeers.trans h.onPeerData, hrequire.trans h.requireTargetedPeer, ?_, ?_⟩
    · show ∀ d ∈ (s.rejoinStep v outcome).delivered, _
      rw [hdelivered]
      exact h.delivered
    · show (s.rejoinStep v outcome).peerEpochs.entries.length ≤ maxPeerEpochs
      rcases htable with hsame | ⟨-, hempty⟩
      · rw [hsame]
        exact h.bound
      · rw [hempty]
        exact Nat.zero_le _
  | bridge ready | close => exact ⟨h.1, h.2, h.3, h.4⟩

lemma received_start (peers targeted : Bool) (v : UInt32) :
    Received peers targeted (start peers targeted v) :=
  ⟨rfl, rfl, by simp [start], Nat.zero_le _⟩

lemma queued_start (peers targeted : Bool) (v : UInt32) :
    Queued (start peers targeted v).history (start peers targeted v) :=
  ⟨by simp [start], by simp [start], by simp [start], by simp [start], by simp [start]⟩

/-- **Nothing stale gets through.**  For every session and every interleaving:

    * what is delivered is the non-empty body of a frame that was not sent in the epoch the session
      has at that step, and that names this epoch or none; for a targeted client it names this
      epoch, and once a peer is confirmed it comes from that peer;
    * what is sent carries the epoch the session has at that step, and as long as no epoch is drawn
      twice it was made in this epoch, not before a reconnect;
    * the table of epochs never has more than `maxPeerEpochs` entries. -/
theorem epochs_never_stale (onPeerData requireTargetedPeer : Bool) (v : UInt32)
    (events : List Event) :
    (∀ d ∈ (run step (start onPeerData requireTargetedPeer v) events).delivered,
      d.data ≠ [] ∧ d.data = (readFrame d.payload).body ∧
      (readFrame d.payload).senderEpoch ≠ d.localEpoch ∧
      ((readFrame d.payload).receiverEpoch = 0 ∨
        (readFrame d.payload).receiverEpoch = d.localEpoch) ∧
      (requireTargetedPeer = true → onPeerData = false →
        (readFrame d.payload).receiverEpoch = d.localEpoch ∧
        (d.peerEpoch ≠ 0 → (readFrame d.payload).senderEpoch = d.peerEpoch))) ∧
    (∀ m ∈ (run step (start onPeerData requireTargetedPeer v) events).emitted,
      (readFrame m.frame.data).senderEpoch = m.localEpoch ∧
      ((run step (start onPeerData requireTargetedPeer v) events).history.Nodup →
        m.frame.born = m.generation)) ∧
    (run step (start onPeerData requireTargetedPeer v) events).peerEpochs.entries.length
      ≤ maxPeerEpochs := by
  have hreceived : Received onPeerData requireTargetedPeer
      (run step (start onPeerData requireTargetedPeer v) events) :=
    run_invariant_of_step step (fun _ e h => h.step e) (received_start _ _ v) events
  have hqueued : Queued (run step (start onPeerData requireTargetedPeer v) events).history
      (run step (start onPeerData requireTargetedPeer v) events) :=
    run_invariant_of_step (I := fun s => Queued s.history s) step (fun _ e h => h.step e)
      (queued_start _ _ v) events
  refine ⟨fun d hd => ?_, fun m hm => ?_, hreceived.bound⟩
  · obtain ⟨hnonempty, hbody, hforeign, haddressed, htargeted⟩ := hreceived.delivered d hd
    exact ⟨hnonempty, hbody, hforeign, haddressed, htargeted⟩
  · obtain ⟨hsender, hborn, hsent⟩ := hqueued.emitted m hm
    refine ⟨hsender, fun hnodup => ?_⟩
    -- both are the place of one epoch in the history
    have hborn' : (run step (start onPeerData requireTargetedPeer v) events).history[m.frame.born]?
        = some m.localEpoch := hsender ▸ hborn
    exact (List.getElem?_inj (List.getElem?_eq_some_iff.1 hborn').1 hnodup).1
      (hborn'.trans hsent.symm)

/-- A targeted client hears its server and confirms it.  It has taken a frame from its queue when it
    reconnects, and sends another one afterwards. -/
def rejoined : List Event :=
  [[.receive (endpointMessage "server" "client" (bridgeFrame 9 7 [1])), .confirm "00000009",
      .receive (endpointMessage "server" "client" (bridgeFrame 9 7 [2])), .send "" [3]],
    List.replicate 3 (.sender 0), [.take false], List.replicate 7 (.rejoin 8 .succeeds),
    [.emit true, .rejoin 8 .succeeds, .send "" [4]], List.replicate 3 (.sender 2),
    [.take false, .emit true]].flatten

theorem epochs_never_stale_rejoined :
    (run step (start false true 7) rejoined).delivered.length = 2 ∧
    (run step (start false true 7) rejoined).emitted.length = 1 ∧
    (∀ d ∈ (run step (start false true 7) rejoined).delivered,
      (readFrame d.payload).receiverEpoch = d.localEpoch ∧
      (d.peerEpoch ≠ 0 → (readFrame d.payload).senderEpoch = d.peerEpoch)) ∧
    ∀ m ∈ (run step (start false true 7) rejoined).emitted, m.frame.born = m.generation := by
  obtain ⟨hdelivered, hemitted, -⟩ := epochs_never_stale false true 7 rejoined
  refine ⟨by decide +kernel, by decide +kernel, fun d hd => ?_, fun m hm => ?_⟩
  · exact (hdelivered d hd).2.2.2.2 rfl rfl
  · exact (hemitted m hm).2 (by decide +kernel)

end Session

end OlcRtc.Jitsi
