import OlcRtc.Jitsi.Staleness

/-!
# Replies of a server

A server with peer routing addresses its replies with the epochs in its table, and the clients it
serves take nothing that is not addressed to them.  So a reply reaches its client if the table knows
the epoch of the client when the reply is made.

The table learns an epoch from every frame that is accepted, and no entry is ever removed but by a
reset.  A frame from a new endpoint is accepted and handed on, too, when the table is full; it is
then not learned, and neither are later frames of this endpoint.  **`replies_reach_iff`** says that
this is all that can go wrong: after a frame of an endpoint was handed on, and as long as neither
side rotates its epoch and the server does not reset its peers, replies reach the client exactly if
the table had room for it, or knew it already.  **`reply_lost`** is a client that comes after 256
others.
-/

namespace OlcRtc.Jitsi.Session

variable {s : Session} {x : String} {e : Epoch}

/-- The server hands a frame from endpoint `x` with sender epoch `e` to the layer above. -/
def Hands (s : Session) (msg : BridgeMessage) (x : String) (e : Epoch) : Prop :=
  ∃ d : Delivery, (s.step (.receive msg)).delivered = s.delivered ++ [d] ∧ d.fromID = x ∧
    (readFrame d.payload).senderEpoch = e

/-- Neither side rotates its epoch or resets its peers: the server does not come to these steps, and
    the frames of `x` that the server accepts carry the epoch `e`. -/
def Keeps (x : String) (e : Epoch) (s : Session) : Event → Prop
  | .receive msg =>
    msg.fromID = x → ∀ payload ∈ bridgePayload msg, ∀ frame ∈ s.parseEpochFrame payload,
      frame.senderEpoch = e
  | .resetPeer => False
  | .rejoin _ _ =>
    match s.rejoin with
    | .rotate _ | .resetEpochs _ => False
    | _ => True
  | _ => True

/-- Messages the server sends to `x` carry the receiver epoch `e`, are not stale, and are delivered
    as they are by a targeted client at `x` with this epoch that has confirmed nobody else. -/
def RepliesReach (s : Session) (x : String) (e : Epoch) : Prop :=
  ∀ (data frame : Bytes), s.encodeBridgeFrame data x = some frame →
    (readFrame frame).receiverEpoch = e ∧ s.outboundFrameCurrent frame = true ∧
    ∀ (client : Session) (name : String), client.requireTargetedPeer = true →
      client.onPeerData = false → client.localEpoch = e →
      (client.peerEpoch = 0 ∨ client.peerEpoch = s.localEpoch) →
      (client.step (.receive (endpointMessage name x frame))).delivered
        = client.delivered
          ++ if data = [] then [] else [⟨name, data, frame, e, client.peerEpoch⟩]

/-! ## What the table knows -/

/-- The table knows the epoch of `x`. -/
def Learned (s : Session) (x : String) (e : Epoch) : Prop := s.peerEpochs.lookup x = some e

/-- The table does not know `x`, and has no room. -/
def Missed (s : Session) (x : String) : Prop :=
  s.peerEpochs.lookup x = none ∧ maxPeerEpochs ≤ s.peerEpochs.entries.length

lemma Learned.learnEpoch (h : s.Learned x e) {fromID : String} {e' : Epoch}
    (hkeeps : fromID = x → e' = e) : (s.learnEpoch fromID e').Learned x e := by
  have hinsert : (s.peerEpochs.insert fromID e').lookup x = some e := by
    by_cases hx : fromID = x
    · subst hx
      rw [AList.lookup_insert, hkeeps rfl]
    · rw [AList.lookup_insert_ne (Ne.symm hx)]
      exact h
  unfold Session.learnEpoch
  repeat' split
  all_goals first | exact hinsert | exact h

lemma Missed.learnEpoch (h : s.Missed x) (fromID : String) (e' : Epoch) :
    (s.learnEpoch fromID e').Missed x := by
  unfold Session.learnEpoch
  cases hlookup : s.peerEpochs.lookup fromID with
  | some prev =>
    have hmem : fromID ∈ s.peerEpochs := AList.lookup_isSome.1 (by rw [hlookup]; rfl)
    have hne : x ≠ fromID := by
      rintro rfl
      rw [h.1] at hlookup
      cases hlookup
    dsimp only
    split_ifs
    · refine ⟨(AList.lookup_insert_ne hne).trans h.1, ?_⟩
      rw [length_entries_insert, if_pos hmem]
      exact h.2
    · exact h
  | none =>
    dsimp only
    rw [if_neg (Nat.not_lt.2 h.2)]
    exact h

/-- **What a frame of a new endpoint leaves in the table** depends on whether there was room. -/
lemma learnEpoch_cases (s : Session) (x : String) (e : Epoch) :
    (x ∈ s.peerEpochs ∨ s.peerEpochs.entries.length < maxPeerEpochs) ∧
      (s.learnEpoch x e).Learned x e ∨
    ¬ (x ∈ s.peerEpochs ∨ s.peerEpochs.entries.length < maxPeerEpochs) ∧
      (s.learnEpoch x e).Missed x := by
  unfold Session.learnEpoch
  cases hlookup : s.peerEpochs.lookup x with
  | some prev =>
    have hmem : x ∈ s.peerEpochs := AList.lookup_isSome.1 (by rw [hlookup]; rfl)
    refine Or.inl ⟨Or.inl hmem, ?_⟩
    dsimp only
    split_ifs with hprev
    · exact AList.lookup_insert _
    · rw [← not_not.1 hprev]
      exact hlookup
  | none =>
    have hnot : x ∉ s.peerEpochs := AList.lookup_eq_none.1 hlookup
    dsimp only
    split_ifs with hroom
    · exact Or.inl ⟨Or.inr hroom, AList.lookup_insert _⟩
    · exact Or.inr ⟨fun h => h.elim hnot hroom, hlookup, Nat.le_of_not_lt hroom⟩

/-! ## Steps -/

/-- What a step does as long as nothing is rotated or reset: the table learns at most, and frames of
    `x` do not change what it knows of `x`. -/
structure LearnsAtMost (x : String) (e : Epoch) (s s' : Session) : Prop where
  onPeerData : s'.onPeerData = s.onPeerData
  localEpoch : s'.localEpoch = s.localEpoch
  table : s'.peerEpochs = s.peerEpochs ∨
    ∃ fromID e', (fromID = x → e' = e) ∧ s'.peerEpochs = (s.learnEpoch fromID e').peerEpochs

lemma SameReceiving.learnsAtMost {s' : Session} (h : s.SameReceiving s') : LearnsAtMost x e s s' :=
  ⟨h.onPeerData, h.localEpoch, Or.inl h.peerEpochs⟩

lemma peerEpochs_deliver (s old : Session) (fromID : String) (payload data : Bytes) :
    (s.deliver old fromID payload data).peerEpochs = s.peerEpochs := by
  unfold deliver
  split_ifs <;> rfl

lemma peerEpochs_latchPeerEndpoint (s : Session) (fromID : String) :
    (s.latchPeerEndpoint fromID).peerEpochs = s.peerEpochs := by
  unfold latchPeerEndpoint
  split_ifs <;> rfl

lemma peerEpochs_acceptEpochFrame (s : Session) (payload : Bytes) :
    (s.acceptEpochFrame payload).1.peerEpochs = s.peerEpochs := by
  unfold acceptEpochFrame
  repeat' split
  all_goals rfl

lemma receive_table (s : Session) (msg : BridgeMessage) :
    (s.step (.receive msg)).peerEpochs = s.peerEpochs ∨
    ∃ payload ∈ bridgePayload msg, ∃ frame ∈ s.parseEpochFrame payload,
      (s.step (.receive msg)).peerEpochs
        = (s.learnEpoch msg.fromID frame.senderEpoch).peerEpochs := by
  simp only [step, deliverBridgeMessageGen]
  cases hpayload : bridgePayload msg with
  | none => exact Or.inl rfl
  | some payload =>
    dsimp only
    split_ifs with hrouted
    · unfold acceptPeerEpochFrame
      cases hparse : s.parseEpochFrame payload with
      | none => exact Or.inl rfl
      | some frame => exact Or.inr ⟨payload, rfl, frame, hparse, peerEpochs_deliver _ _ _ _ _⟩
    · refine Or.inl ?_
      have hsame := peerEpochs_acceptEpochFrame s payload
      cases haccept : s.acceptEpochFrame payload with
      | mk s' result =>
        rw [haccept] at hsame
        cases result with
        | none => exact hsame
        | some data =>
          dsimp only
          rw [peerEpochs_deliver]
          split_ifs
          · rw [peerEpochs_latchPeerEndpoint]
            exact hsame
          · exact hsame

lemma rejoin_learnsAtMost {v : UInt32} {outcome : JoinOutcome}
    (h : Keeps x e s (.rejoin v outcome)) :
    LearnsAtMost x e s (s.step (.rejoin v outcome)) := by
  obtain ⟨hpeers, -, -, htable, hepoch⟩ := rejoinStep_receiving s v outcome
  refine ⟨hpeers, hepoch.resolve_right ?_, .inl (htable.resolve_right ?_)⟩
  all_goals
    rintro ⟨⟨full, hpc⟩, -⟩
    simp [Keeps, hpc] at h

/-- **Every event learns at most**, as long as nothing is rotated or reset. -/
lemma learnsAtMost_step {ev : Event} (h : Keeps x e s ev) : LearnsAtMost x e s (s.step ev) := by
  cases ev with
  | receive msg =>
    have hsame := (receives_receive s msg).same
    refine ⟨hsame.onPeerData, hsame.localEpoch, ?_⟩
    rcases receive_table s msg with hnone | ⟨payload, hpayload, frame, hframe, hlearn⟩
    · exact Or.inl hnone
    · exact Or.inr ⟨msg.fromID, frame.senderEpoch,
        fun hx => h hx payload hpayload frame hframe, hlearn⟩
  | send peerID data => exact ⟨rfl, rfl, Or.inl rfl⟩
  | sender i =>
    simp only [step]
    cases s.senders[i]? with
    | none => exact (SameReceiving.refl s).learnsAtMost
    | some pc => exact (sameReceiving_senderStep s i pc).learnsAtMost
  | take peer => exact (sameReceiving_takeFrame s peer).learnsAtMost
  | emit ready => exact (sameReceiving_emitFrame s ready).learnsAtMost
  | confirm peerID => exact (sameReceiving_confirm s peerID).learnsAtMost
  | resetPeer => exact h.elim
  | rejoin v outcome => exact rejoin_learnsAtMost h
  | bridge ready | close => exact ⟨rfl, rfl, Or.inl rfl⟩

lemma LearnsAtMost.learned {s' : Session} (h : LearnsAtMost x e s s') (hs : s.Learned x e) :
    s'.Learned x e := by
  unfold Learned
  rcases h.table with hsame | ⟨fromID, e', hkeeps, hlearn⟩
  · rw [hsame]
    exact hs
  · rw [hlearn]
    exact hs.learnEpoch hkeeps

lemma LearnsAtMost.missed {s' : Session} (h : LearnsAtMost x e s s') (hs : s.Missed x) :
    s'.Missed x := by
  unfold Missed
  rcases h.table with hsame | ⟨fromID, e', -, hlearn⟩
  · rw [hsame]
    exact hs
  · rw [hlearn]
    exact hs.learnEpoch fromID e'

/-! ## The two ends -/

lemma delivered_deliver (s old : Session) (fromID : String) (payload data : Bytes) :
    (s.deliver old fromID payload data).delivered
      = s.delivered
        ++ if data = [] then [] else [⟨fromID, data, payload, old.localEpoch, old.peerEpoch⟩] := by
  unfold deliver
  split_ifs
  · rw [List.append_nil]
  · rfl

lemma delivered_latch (s : Session) (fromID : String) (c : Prop) [Decidable c] :
    (if c then s.latchPeerEndpoint fromID else s).delivered = s.delivered := by
  unfold latchPeerEndpoint
  split_ifs <;> rfl

lemma parseEpochFrame_bridgeFrame {sender receiver : Epoch} (data : Bytes) (hzero : sender ≠ 0)
    (hforeign : sender ≠ s.localEpoch) (haddressed : receiver = 0 ∨ receiver = s.localEpoch) :
    s.parseEpochFrame (bridgeFrame sender receiver data) = some ⟨sender, receiver, data⟩ := by
  have hlength : ¬ (bridgeFrame sender receiver data).length
      < bridgeMagic.length + epochHeaderLen := by
    rw [length_bridgeFrame]
    exact Nat.not_lt.2 (Nat.le_add_right 12 _)
  have hreceiver : ¬ (receiver ≠ 0 ∧ receiver ≠ s.localEpoch) := by
    rintro ⟨h₀, h₁⟩
    exact haddressed.elim h₀ h₁
  rw [parseEpochFrame, readFrame_bridgeFrame, if_neg hlength,
    if_neg (fun h => h.elim hzero hforeign), if_neg hreceiver]

lemma of_hands {msg : BridgeMessage} (hpeers : s.onPeerData = true) (hx : x ≠ "")
    (h : s.Hands msg x e) :
    e ≠ 0 ∧ e ≠ s.localEpoch ∧
    (s.step (.receive msg)).peerEpochs = (s.learnEpoch x e).peerEpochs := by
  obtain ⟨d, hd, rfl, rfl⟩ := h
  have hsome : ∀ ds : List Delivery, s.delivered ++ ds = s.delivered ++ [d] → ds = [d] :=
    fun ds heq => List.append_cancel_left heq
  simp only [step, deliverBridgeMessageGen] at hd ⊢
  cases hpayload : bridgePayload msg with
  | none =>
    grind
  | some payload =>
    rw [hpayload] at hd
    dsimp only at hd ⊢
    by_cases hrouted : s.onPeerData = true ∧ msg.fromID ≠ ""
    · rw [if_pos hrouted] at hd ⊢
      unfold acceptPeerEpochFrame at hd ⊢
      cases hparse : s.parseEpochFrame payload with
      | none =>
        grind
      | some frame =>
        obtain ⟨rfl, hzero, hforeign, -⟩ := of_parseEpochFrame hparse
        rw [hparse] at hd
        dsimp only at hd ⊢
        rw [delivered_deliver, (learnEpoch_spec s _ _).2] at hd
        have hds := hsome _ hd
        split_ifs at hds with hdata
        obtain rfl := List.singleton_inj.1 hds
        exact ⟨hzero, hforeign, peerEpochs_deliver _ _ _ _ _⟩
    · -- a broadcast comes from no endpoint
      rw [if_neg hrouted] at hd
      have hsame := (receives_acceptEpochFrame s msg.fromID payload).2.1
      cases haccept : s.acceptEpochFrame payload with
      | mk s' result =>
        rw [haccept] at hd hsame
        cases result with
        | none =>
          grind
        | some data =>
          dsimp only at hd
          rw [delivered_deliver, delivered_latch, hsame] at hd
          have hds := hsome _ hd
          split_ifs at hds
          obtain rfl := List.singleton_inj.1 hds
          exact absurd ⟨hpeers, hx⟩ hrouted

lemma acceptEpochFrame_targeted {payload : Bytes} {frame : EpochFrame}
    (hparse : s.parseEpochFrame payload = some frame) (htargeted : s.requireTargetedPeer = true)
    (hsingle : s.onPeerData = false) (hreceiver : frame.receiverEpoch = s.localEpoch)
    (hpeer : s.peerEpoch = 0 ∨ s.peerEpoch = frame.senderEpoch) :
    s.acceptEpochFrame payload = (s, some frame.body) := by
  have hclient : s.requireTargetedPeer = true ∧ ¬ s.onPeerData = true :=
    ⟨htargeted, by simp [hsingle]⟩
  have hconfirmed : ¬ (s.peerEpoch ≠ 0 ∧ frame.senderEpoch ≠ s.peerEpoch) := by
    rintro ⟨h₀, h₁⟩
    exact hpeer.elim h₀ fun h => h₁ h.symm
  simp only [acceptEpochFrame, hparse]
  rw [if_pos hclient, if_neg (not_not.2 hreceiver), if_neg hconfirmed]

lemma delivered_receive {msg : BridgeMessage} {payload data : Bytes}
    (hpayload : bridgePayload msg = some payload) (hsingle : s.onPeerData = false)
    (haccept : s.acceptEpochFrame payload = (s, some data)) :
    (s.step (.receive msg)).delivered
      = s.delivered
        ++ if data = [] then [] else
          [⟨msg.fromID, data, payload, s.localEpoch, s.peerEpoch⟩] := by
  have hrouted : ¬ (s.onPeerData = true ∧ msg.fromID ≠ "") := by
    grind
  simp only [step, deliverBridgeMessageGen, hpayload]
  rw [if_neg hrouted, haccept]
  dsimp only
  rw [delivered_deliver, delivered_latch]

lemma randomEpoch_ne_zero (v : UInt32) : randomEpoch v ≠ 0 := by
  unfold randomEpoch
  split_ifs with hv
  · decide
  · exact hv

lemma localEpoch_step (s : Session) (ev : Event) :
    (s.step ev).localEpoch = s.localEpoch ∨ ∃ v, (s.step ev).localEpoch = randomEpoch v := by
  cases ev with
  | receive msg => exact Or.inl (receives_receive s msg).same.localEpoch
  | send peerID data | resetPeer | bridge ready | close => exact Or.inl rfl
  | sender i =>
    simp only [step]
    cases s.senders[i]? with
    | none => exact Or.inl rfl
    | some pc => exact Or.inl (sameReceiving_senderStep s i pc).localEpoch
  | take peer => exact Or.inl (sameReceiving_takeFrame s peer).localEpoch
  | emit ready => exact Or.inl (sameReceiving_emitFrame s ready).localEpoch
  | confirm peerID => exact Or.inl (sameReceiving_confirm s peerID).localEpoch
  | rejoin v outcome =>
    exact (rejoinStep_receiving s v outcome).2.2.2.2.imp id fun h => ⟨v, h.2⟩

lemma localEpoch_ne_zero (peers targeted : Bool) (v : UInt32) (events : List Event) :
    (run step (start peers targeted v) events).localEpoch ≠ 0 := by
  refine run_invariant_of_step (I := fun s => s.localEpoch ≠ 0) step ?_ (randomEpoch_ne_zero v)
    events
  intro s ev h
  rcases localEpoch_step s ev with hsame | ⟨v, hnew⟩
  · rw [hsame]
    exact h
  · rw [hnew]
    exact randomEpoch_ne_zero v

/-! ## Replies -/

lemma peerEpochFor_of_lookup (hpeers : s.onPeerData = true) (hx : x ≠ "") :
    s.peerEpochFor x = (s.peerEpochs.lookup x).getD 0 := by
  rw [peerEpochFor, if_neg]
  rintro (h | h)
  · exact hx h
  · exact h hpeers

lemma Learned.repliesReach (h : s.Learned x e) (hpeers : s.onPeerData = true) (hx : x ≠ "")
    (hzero : s.localEpoch ≠ 0) (hforeign : e ≠ s.localEpoch) : s.RepliesReach x e := by
  intro data frame hencode
  have hepoch : s.peerEpochFor x = e := by
    rw [peerEpochFor_of_lookup hpeers hx, h]
    rfl
  unfold encodeBridgeFrame at hencode
  split_ifs at hencode
  obtain rfl := Option.some.inj hencode
  rw [hepoch]
  refine ⟨by rw [readFrame_bridgeFrame], ?_, ?_⟩
  · refine decide_eq_true ⟨?_, by rw [readFrame_bridgeFrame]⟩
    rw [length_bridgeFrame]
    exact Nat.le_add_right 12 _
  · rintro client name htargeted hsingle rfl hpeer
    have hparse := parseEpochFrame_bridgeFrame data hzero (Ne.symm hforeign) (Or.inr rfl)
    exact delivered_receive (bridgePayload_endpointMessage name x _ _ data) hsingle
      (acceptEpochFrame_targeted hparse htargeted hsingle rfl hpeer)

lemma Missed.not_repliesReach (h : s.Missed x) (hpeers : s.onPeerData = true) (hx : x ≠ "")
    (he : e ≠ 0) : ¬ s.RepliesReach x e := by
  intro hreach
  have hepoch : s.peerEpochFor x = 0 := by
    rw [peerEpochFor_of_lookup hpeers hx, h.1]
    rfl
  have hencode : s.encodeBridgeFrame [] x = some (bridgeFrame s.localEpoch 0 []) := by
    rw [encodeBridgeFrame, hepoch]
    rfl
  have hreceiver := (hreach [] _ hencode).1
  rw [readFrame_bridgeFrame] at hreceiver
  exact he hreceiver.symm

lemma run_learnsAtMost {events : List Event} (hkeeps : Along step (Keeps x e) s events) :
    (run step s events).onPeerData = s.onPeerData ∧
    (run step s events).localEpoch = s.localEpoch ∧
    (s.Learned x e → (run step s events).Learned x e) ∧
    (s.Missed x → (run step s events).Missed x) := by
  induction events generalizing s with
  | nil => exact ⟨rfl, rfl, id, id⟩
  | cons ev events ih =>
    have hstep := learnsAtMost_step hkeeps.1
    obtain ⟨hpeers, hlocal, hlearned, hmissed⟩ := ih hkeeps.2
    rw [run_cons]
    exact ⟨hpeers.trans hstep.onPeerData, hlocal.trans hstep.localEpoch,
      fun h => hlearned (hstep.learned h), fun h => hmissed (hstep.missed h)⟩

/-- **Replies reach their client exactly if the table had room** for the sender of the frame that
was handed on, or knew it. -/
theorem replies_reach_iff (requireTargetedPeer : Bool) (v : UInt32) (before after : List Event)
    (msg : BridgeMessage) (x : String) (e : Epoch) (hx : x ≠ "")
    (hhands : (run step (start true requireTargetedPeer v) before).Hands msg x e)
    (hkeeps : Along step (Keeps x e)
      ((run step (start true requireTargetedPeer v) before).step (.receive msg)) after) :
    (run step ((run step (start true requireTargetedPeer v) before).step (.receive msg))
        after).RepliesReach x e ↔
      x ∈ (run step (start true requireTargetedPeer v) before).peerEpochs ∨
      (run step (start true requireTargetedPeer v) before).peerEpochs.entries.length
        < maxPeerEpochs := by
  have hpeers : (run step (start true requireTargetedPeer v) before).onPeerData = true :=
    (run_invariant_of_step (I := Received true requireTargetedPeer) step
      (fun _ ev h => h.step ev) (received_start _ _ v) before).onPeerData
  have hzero := localEpoch_ne_zero true requireTargetedPeer v before
  generalize run step (start true requireTargetedPeer v) before = s at *
  obtain ⟨he, hforeign, htable⟩ := of_hands hpeers hx hhands
  have hsame := (receives_receive s msg).same
  obtain ⟨hpeers', hlocal, hlearned, hmissed⟩ := run_learnsAtMost hkeeps
  rw [hsame.onPeerData, hpeers] at hpeers'
  rw [hsame.localEpoch] at hlocal
  rcases learnEpoch_cases s x e with ⟨hroom, hlearn⟩ | ⟨hfull, hmiss⟩
  · have hreceived : (s.step (.receive msg)).Learned x e := by
      rw [Learned, htable]
      exact hlearn
    refine iff_of_true ((hlearned hreceived).repliesReach hpeers' hx ?_ ?_) hroom
    · rw [hlocal]
      exact hzero
    · rw [hlocal]
      exact hforeign
  · have hreceived : (s.step (.receive msg)).Missed x := by
      rw [Missed, htable]
      exact hmiss
    exact iff_of_false ((hmissed hreceived).not_repliesReach hpeers' hx he) hfull

def hello : BridgeMessage := endpointMessage "x" "server" (bridgeFrame 5 0 [1])

theorem replies_reach_iff_first :
    (start true true 1).Hands hello "x" 5 ∧
    (run step ((start true true 1).step (.receive hello))
      [.receive (endpointMessage "y" "server" (bridgeFrame 6 0 [1])), .take true]).RepliesReach
      "x" 5 := by
  have hhands : (start true true 1).Hands hello "x" 5 :=
    ⟨⟨"x", [1], bridgeFrame 5 0 [1], 1, 0⟩, by decide +kernel, rfl, by decide +kernel⟩
  refine ⟨hhands, (replies_reach_iff true 1 [] _ hello "x" 5 (by decide) hhands ?_).2 ?_⟩
  · exact ⟨fun h => absurd h (by decide), trivial, trivial⟩
  · exact Or.inr (by decide)

/-! ### A crowd -/

lemma receive_routed {msg : BridgeMessage} {payload : Bytes} {frame : EpochFrame}
    (hpeers : s.onPeerData = true) (hfrom : msg.fromID = x) (hx : x ≠ "")
    (hpayload : bridgePayload msg = some payload)
    (hparse : s.parseEpochFrame payload = some frame) :
    s.step (.receive msg)
      = (s.learnEpoch x frame.senderEpoch).deliver s x payload frame.body := by
  subst hfrom
  simp only [step, deliverBridgeMessageGen, hpayload]
  rw [if_pos ⟨hpeers, hx⟩]
  simp only [acceptPeerEpochFrame, hparse]

lemma receive_broadcast (hpeers : s.onPeerData = true) (hx : x ≠ "") (he : e ≠ 0)
    (hforeign : e ≠ s.localEpoch) (toID : String) (data : Bytes) :
    s.step (.receive (endpointMessage x toID (bridgeFrame e 0 data)))
      = (s.learnEpoch x e).deliver s x (bridgeFrame e 0 data) data :=
  receive_routed hpeers rfl hx (bridgePayload_endpointMessage x toID e 0 data)
    (parseEpochFrame_bridgeFrame data he hforeign (Or.inl rfl))

def announcement (e : Epoch) (name : String) : Event :=
  .receive (endpointMessage name "server" (bridgeFrame e 0 []))

/-- **Endpoints that announce themselves fill the table.** -/
lemma run_announcements {names : List String} (hpeers : s.onPeerData = true) (he : e ≠ 0)
    (hforeign : e ≠ s.localEpoch) (hnodup : names.Nodup) (hnames : "" ∉ names)
    (hnew : ∀ name ∈ names, name ∉ s.peerEpochs)
    (hroom : s.peerEpochs.entries.length + names.length ≤ maxPeerEpochs) :
    (run step s (names.map (announcement e))).SameSending s ∧
    (run step s (names.map (announcement e))).delivered = s.delivered ∧
    (run step s (names.map (announcement e))).peerEpochs.entries.length
      = s.peerEpochs.entries.length + names.length ∧
    ∀ x, x ∉ names → x ∉ s.peerEpochs →
      x ∉ (run step s (names.map (announcement e))).peerEpochs := by
  induction names generalizing s with
  | nil => exact ⟨SameSending.refl s, rfl, rfl, fun _ _ h => h⟩
  | cons name names ih =>
    have hname : name ≠ "" := by
      rintro rfl
      exact hnames List.mem_cons_self
    have hlookup : s.peerEpochs.lookup name = none :=
      AList.lookup_eq_none.2 (hnew name List.mem_cons_self)
    have hlt : s.peerEpochs.entries.length < maxPeerEpochs := by
      rw [List.length_cons] at hroom
      omega
    have hlearn : s.learnEpoch name e
        = { s with peerEpochs := s.peerEpochs.insert name e } := by
      simp only [learnEpoch, hlookup]
      exact if_pos hlt
    have hstep : s.step (announcement e name)
        = { s with peerEpochs := s.peerEpochs.insert name e } := by
      rw [announcement, receive_broadcast hpeers hname he hforeign, hlearn]
      exact if_pos rfl
    have hsize : (s.peerEpochs.insert name e).entries.length
        = s.peerEpochs.entries.length + 1 := by
      rw [length_entries_insert, if_neg (hnew name List.mem_cons_self)]
    obtain ⟨hsame, hdelivered, hlength, hstill⟩ :=
      ih (s := s.step (announcement e name)) (by rw [hstep]; exact hpeers)
        (by rw [hstep]; exact hforeign) hnodup.of_cons
        (fun h => hnames (List.mem_cons_of_mem _ h))
        (by
          rw [hstep]
          intro other hother hmem
          rcases (AList.mem_insert _).1 hmem with rfl | hmem
          · exact (List.nodup_cons.1 hnodup).1 hother
          · exact hnew other (List.mem_cons_of_mem _ hother) hmem)
        (by
          rw [hstep, hsize]
          rw [List.length_cons] at hroom
          omega)
    rw [List.map_cons, run_cons]
    rw [hstep] at hsame hdelivered hlength hstill ⊢
    refine ⟨hsame.trans ⟨rfl, rfl, rfl, rfl, rfl, rfl, rfl, rfl, rfl⟩, hdelivered, ?_, ?_⟩
    · rw [hlength, hsize, List.length_cons]
      omega
    · intro x hx hxs
      rw [List.mem_cons, not_or] at hx
      refine hstill x hx.2 fun hmem => ?_
      exact ((AList.mem_insert _).1 hmem).elim hx.1 hxs

def crowd : List String :=
  (List.range maxPeerEpochs).map fun i => String.ofList (List.replicate (i + 1) 'a')

lemma nodup_crowd : crowd.Nodup := by
  refine List.Nodup.map ?_ List.nodup_range
  intro i j hij
  have hlength := congrArg (fun name : String => name.toList.length) hij
  simpa using hlength

/-- A frame that a full table does not learn is handed on all the same, and the reply to it names no
    epoch. -/
lemma Missed.receive (h : s.Missed x) (hpeers : s.onPeerData = true) (hx : x ≠ "") (he : e ≠ 0)
    (hforeign : e ≠ s.localEpoch) (toID : String) (data : Bytes) (hdata : data ≠ []) :
    s.Hands (endpointMessage x toID (bridgeFrame e 0 data)) x e ∧
    (s.step (.receive (endpointMessage x toID (bridgeFrame e 0 data)))).peerEpochFor x = 0 := by
  have hlearn : s.learnEpoch x e = s := by
    simp only [Session.learnEpoch, h.1]
    exact if_neg (Nat.not_lt.2 h.2)
  have hstep := receive_broadcast hpeers hx he hforeign toID data
  rw [hlearn, deliver, if_neg hdata] at hstep
  refine ⟨⟨_, congrArg Session.delivered hstep, rfl, ?_⟩, ?_⟩
  · rw [readFrame_bridgeFrame]
  · have hpeers' : (s.step (.receive (endpointMessage x toID (bridgeFrame e 0 data)))).onPeerData
        = true := by
      rw [hstep]
      exact hpeers
    rw [peerEpochFor_of_lookup hpeers' hx, hstep]
    exact congrArg (Option.getD · 0) h.1

/-- A client that comes after 256 endpoints is heard, but the reply to it names no epoch, and the
    client drops it. -/
theorem reply_lost :
    (run step (start true true 1) (crowd.map (announcement 5))).Hands hello "x" 5 ∧
    ((run step (start true true 1) (crowd.map (announcement 5))).step
      (.receive hello)).encodeBridgeFrame [2] "x" = some (bridgeFrame 1 0 [2]) ∧
    ((start false true 5).step
      (.receive (endpointMessage "server" "x" (bridgeFrame 1 0 [2])))).delivered = [] := by
  have hroom : (start true true 1).peerEpochs.entries.length + crowd.length ≤ maxPeerEpochs := by
    rw [crowd, List.length_map, List.length_range]
    exact Nat.le_of_eq (Nat.zero_add _)
  obtain ⟨hsame, -, hlength, hstill⟩ :=
    run_announcements (s := start true true 1) (e := 5) rfl (by decide) (by decide) nodup_crowd
      (by simp [crowd]) (fun name _ => AList.notMem_empty name) hroom
  have hx : "x" ∉ crowd := by
    intro hmem
    obtain ⟨i, -, hi⟩ := List.mem_map.1 hmem
    have hchars := congrArg String.toList hi
    rw [String.toList_ofList] at hchars
    have hfirst := congrArg List.head? hchars
    exact absurd hfirst (by simp [List.replicate_succ])
  have hmissed : (run step (start true true 1) (crowd.map (announcement 5))).Missed "x" := by
    refine ⟨AList.lookup_eq_none.2 (hstill "x" hx (AList.notMem_empty _)), ?_⟩
    rw [hlength, crowd, List.length_map, List.length_range]
    exact Nat.le_add_left _ _
  have hreceive := hmissed.receive (e := 5) hsame.onPeerData.symm (by decide) (by decide)
    (by rw [← hsame.localEpoch]; decide) "server" [1] (by decide)
  have hlocal := (receives_receive _ hello).same.localEpoch.trans hsame.localEpoch.symm
  refine ⟨hreceive.1, ?_, by decide +kernel⟩
  rw [encodeBridgeFrame, hlocal, hello, hreceive.2]
  exact if_neg (by decide)

end OlcRtc.Jitsi.Session
