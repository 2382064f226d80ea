import Mathlib.Data.List.AList
import OlcRtc.Lib.Base64
import OlcRtc.Lib.Hex
import OlcRtc.Lib.Json
import OlcRtc.Lib.Steps

/-!
# The Jitsi session

The Jitsi engine sends byte frames over the bridge of a conference, where everybody hears everybody
and old frames can still be under way when a participant has left and joined again.  So every
session draws a random *epoch* whenever it joins, and every frame carries two of them: that of its
sender and the one the sender takes its receiver to have, or zero if it does not know.

* A frame is `bridgeMagic`, the two epochs and the data (`bridgeFrame`); `parseEpochFrame` reads it
  back and refuses what is not meant for this session, or comes from itself.
* A client with `requireTargetedPeer` takes only frames that name its epoch, and once it has
  confirmed a peer only frames of that peer (`acceptEpochFrame`).
* A server with peer routing learns the epochs of the endpoints it hears in a table of bounded size
  (`acceptPeerEpochFrame`), from which it addresses its replies (`peerEpochFor`).

The machine has the receive loop, whose check and delivery are one step; any number of goroutines in
`Send` and `SendTo`, which read the two epochs one after the other and queue the frame later; the
send loop, which checks a frame for staleness when it takes it and again, in one step with the
emission, when it has a bridge; and the goroutine that reconnects, which rotates the epoch, forgets
the peers and drains the queues one by one.  What was delivered and emitted is recorded together
with the epochs of the session at that step.
-/

namespace OlcRtc.Jitsi

/-! ## Frames -/

/-- An epoch; zero stands for none. -/
abbrev Epoch := UInt32

def bridgeMagic : Bytes := ascii "OLR1"

def epochHeaderLen : ℕ := 8

def bridgeMaxMessageSize : ℕ := 16 * 1024

/-- `randomEpoch`, for a random number. -/
def randomEpoch (v : UInt32) : Epoch := if v = 0 then 1 else v

def bridgeFrame (sender receiver : Epoch) (data : Bytes) : Bytes :=
  bridgeMagic ++ (bePut 4 sender.toNat ++ (bePut 4 receiver.toNat ++ data))

/-- `epochFrame`. -/
structure EpochFrame where
  senderEpoch : Epoch
  receiverEpoch : Epoch
  body : Bytes
  deriving DecidableEq

def readFrame (payload : Bytes) : EpochFrame :=
  ⟨UInt32.ofNat (beGet (slice payload 4 8)), UInt32.ofNat (beGet (slice payload 8 12)),
    payload.drop 12⟩

/-- **A frame is read back.** -/
lemma readFrame_bridgeFrame (sender receiver : Epoch) (data : Bytes) :
    readFrame (bridgeFrame sender receiver data) = ⟨sender, receiver, data⟩ := by
  have hsender : slice (bridgeFrame sender receiver data) 4 8 = bePut 4 sender.toNat :=
    slice_append (by decide) (length_bePut 4 _) _
  have hreceiver : slice (bridgeFrame sender receiver data) 8 12 = bePut 4 receiver.toNat := by
    rw [bridgeFrame, ← List.append_assoc]
    refine slice_append ?_ (length_bePut 4 _) _
    rw [List.length_append, length_bePut]
    rfl
  have hbody : (bridgeFrame sender receiver data).drop 12 = data := by
    rw [bridgeFrame, ← List.append_assoc, ← List.append_assoc]
    refine List.drop_left' ?_
    rw [List.length_append, List.length_append, length_bePut, length_bePut]
    rfl
  rw [readFrame, hsender, hreceiver, hbody, beGet_bePut sender.toNat_lt,
    beGet_bePut receiver.toNat_lt, UInt32.ofNat_toNat, UInt32.ofNat_toNat]

lemma length_bridgeFrame (sender receiver : Epoch) (data : Bytes) :
    (bridgeFrame sender receiver data).length = 12 + data.length := by
  simp only [bridgeFrame, List.length_append, length_bePut, bridgeMagic, ascii]
  simp
  omega

/-! ## Bridge messages -/

/-- `j.BridgeMessage`. -/
structure BridgeMessage where
  colibriClass : String
  /-- The endpoint it comes from, which the bridge fills in. -/
  fromID : String
  fields : List (String × Json)

def member (fields : List (String × Json)) (name : String) : Option Json :=
  (fields.reverse.find? fun m => m.1 = name).map Prod.snd

def rawFieldFrom (fields : List (String × Json)) : Option String :=
  let legacy :=
    match member fields "raw" with
    | some (.str raw) => some raw
    | _ => none
  match member fields "msgPayload" with
  | some (.obj payload) =>
    match member payload "raw" with
    | some (.str raw) => some raw
    | _ => legacy
  | _ => legacy

def decodeRaw (m : BridgeMessage) : Option Bytes :=
  if m.colibriClass ≠ "EndpointMessage" then none
  else (rawFieldFrom m.fields).bind fun raw => decodeBase64 raw.toList

def bridgePayload (m : BridgeMessage) : Option Bytes :=
  match decodeRaw m with
  | some payload => if payload.take 4 = bridgeMagic then some payload else none
  | none => none

/-- What arrives of a frame that `sendEndpointRaw` sends: the bridge passes the message on and adds
    the name of the endpoint it comes from. -/
def endpointMessage (fromID toID : String) (frame : Bytes) : BridgeMessage :=
  ⟨"EndpointMessage", fromID,
    [("colibriClass", .str "EndpointMessage"), ("to", .str toID),
      ("msgPayload", .obj [("raw", .str (String.ofList (encodeBase64 frame)))]),
      ("from", .str fromID)]⟩

/-- **A frame comes out of its message.** -/
lemma bridgePayload_endpointMessage (fromID toID : String) (sender receiver : Epoch)
    (data : Bytes) :
    bridgePayload (endpointMessage fromID toID (bridgeFrame sender receiver data))
      = some (bridgeFrame sender receiver data) := by
  have hraw : rawFieldFrom
      (endpointMessage fromID toID (bridgeFrame sender receiver data)).fields
      = some (String.ofList (encodeBase64 (bridgeFrame sender receiver data))) := by
    simp [rawFieldFrom, endpointMessage, member]
  have hdecode : decodeRaw (endpointMessage fromID toID (bridgeFrame sender receiver data))
      = some (bridgeFrame sender receiver data) := by
    rw [decodeRaw, hraw, Option.bind_some, String.toList_ofList, decodeBase64_encodeBase64]
    rfl
  have hmagic : (bridgeFrame sender receiver data).take 4 = bridgeMagic :=
    List.take_left' (by decide)
  rw [bridgePayload, hdecode]
  exact if_pos hmagic

/-! ## The session -/

def maxPeerEpochs : ℕ := 256

def defaultSendQueueSize : ℕ := 5000

structure Outbound where
  /-- The endpoint it is for; empty for a broadcast. -/
  toID : String
  data : Bytes
  /-- How many epochs the session had left behind when the sender epoch was read. -/
  born : ℕ
  deriving DecidableEq

/-- Where a goroutine in `Send` or `SendTo` stands. -/
inductive SenderPc
  | start (peerID : String) (data : Bytes)
  /-- The local epoch is read. -/
  | loaded (peerID : String) (data : Bytes) (localEpoch : Epoch) (born : ℕ)
  /-- Before `enqueueBridgeFrame`. -/
  | encoded (frame : Outbound)
  | finished
  deriving DecidableEq

/-- Where `sendLoop` stands. -/
inductive SendLoopPc
  | idle
  /-- In `waitJSession`, with a frame that was not stale when it was taken. -/
  | wait (frame : Outbound)
  deriving DecidableEq

/-- Where `reconnect` stands; `full` if it is in `reconnectFull`. -/
inductive RejoinPc
  | idle
  /-- Before `localEpoch` is stored. -/
  | rotate (full : Bool)
  /-- Before `peerEpoch` is cleared. -/
  | forget (full : Bool)
  /-- Before `resetPeerEpochs`. -/
  | resetEpochs (full : Bool)
  /-- In `drainSendQueue`. -/
  | drain (full : Bool)
  /-- In `JoinMUC`, and in `reconnectFull` all that follows it. -/
  | join (full : Bool)
  /-- The session is installed, and `reinitiateBridge` is under way. -/
  | bridge
  /-- Before `finishReconnect`. -/
  | finish
  deriving DecidableEq

inductive JoinOutcome
  | succeeds
  /-- `errNoPeer`: the session is installed and waits for a peer. -/
  | parks
  | fails
  deriving DecidableEq

/-- A call of `onData` or `onPeerData`. -/
structure Delivery where
  fromID : String
  data : Bytes
  /-- The frame it comes from. -/
  payload : Bytes
  /-- The epochs of the session when it was accepted. -/
  localEpoch : Epoch
  peerEpoch : Epoch
  deriving DecidableEq

structure Emission where
  frame : Outbound
  /-- The epoch of the session when it was sent. -/
  localEpoch : Epoch
  /-- How many epochs the session had left behind then. -/
  generation : ℕ
  deriving DecidableEq

structure Session where
  /-- Whether peers are routed (`onPeerData` is set). -/
  onPeerData : Bool
  requireTargetedPeer : Bool
  closed : Bool
  bridgeReady : Bool
  /-- Whether an XMPP session is installed. -/
  jSess : Bool
  localEpoch : Epoch
  /-- The epoch of the single peer. -/
  peerEpoch : Epoch
  peerEndpoint : Option String
  /-- The epochs of endpoints. -/
  peerEpochs : AList fun _ : String => Epoch
  sendQueue : List Outbound
  peerSendQueue : List Outbound
  senders : List SenderPc
  sendLoop : SendLoopPc
  rejoin : RejoinPc
  /-- The epochs left behind. -/
  past : List Epoch
  delivered : List Delivery
  emitted : List Emission

namespace Session

variable (s : Session)

def start (onPeerData requireTargetedPeer : Bool) (v : UInt32) : Session :=
  ⟨onPeerData, requireTargetedPeer, false, true, true, randomEpoch v, 0, none, ∅, [], [], [], .idle,
    .idle, [], [], []⟩

def peerEpochFor (peerID : String) : Epoch :=
  if peerID = "" ∨ ¬ s.onPeerData then s.peerEpoch else (s.peerEpochs.lookup peerID).getD 0

/-- `encodeBridgeFrame`; it fails with `ErrSendTooLarge`. -/
def encodeBridgeFrame (data : Bytes) (peerID : String) : Option Bytes :=
  if data.length + bridgeMagic.length + epochHeaderLen > bridgeMaxMessageSize then none
  else some (bridgeFrame s.localEpoch (s.peerEpochFor peerID) data)

def outboundFrameCurrent (frame : Bytes) : Bool :=
  bridgeMagic.length + epochHeaderLen ≤ frame.length ∧
    (readFrame frame).senderEpoch = s.localEpoch

/-! ### Receiving -/

def parseEpochFrame (payload : Bytes) : Option EpochFrame :=
  if payload.length < bridgeMagic.length + epochHeaderLen then none
  else if (readFrame payload).senderEpoch = 0 ∨ (readFrame payload).senderEpoch = s.localEpoch then
    none
  else if (readFrame payload).receiverEpoch ≠ 0 ∧ (readFrame payload).receiverEpoch ≠ s.localEpoch
  then none
  else some (readFrame payload)

/-- What `acceptPeerEpochFrame` does to the table. -/
def learnEpoch (fromID : String) (senderEpoch : Epoch) : Session :=
  match s.peerEpochs.lookup fromID with
  | some prev =>
    if prev ≠ senderEpoch then
      { s with peerEpochs := s.peerEpochs.insert fromID senderEpoch }
    else s
  | none =>
    if s.peerEpochs.entries.length < maxPeerEpochs then
      { s with peerEpochs := s.peerEpochs.insert fromID senderEpoch }
    else s

def acceptPeerEpochFrame (fromID : String) (payload : Bytes) : Session × Option Bytes :=
  match s.parseEpochFrame payload with
  | some frame => (s.learnEpoch fromID frame.senderEpoch, some frame.body)
  | none => (s, none)

def acceptEpochFrame (payload : Bytes) : Session × Option Bytes :=
  match s.parseEpochFrame payload with
  | some frame =>
    if s.requireTargetedPeer ∧ ¬ s.onPeerData then
      if frame.receiverEpoch ≠ s.localEpoch then (s, none)
      else if s.peerEpoch ≠ 0 ∧ frame.senderEpoch ≠ s.peerEpoch then (s, none)
      else (s, some frame.body)
    else ({ s with peerEpoch := frame.senderEpoch }, some frame.body)
  | none => (s, none)

def latchPeerEndpoint (fromID : String) : Session :=
  if fromID = "" then s else { s with peerEndpoint := some fromID }

/-- `onData` or `onPeerData` is called if there is data; `old` is the session that accepted the
    frame. -/
def deliver (old : Session) (fromID : String) (payload data : Bytes) : Session :=
  if data = [] then s
  else
    { s with
      delivered := s.delivered ++ [⟨fromID, data, payload, old.localEpoch, old.peerEpoch⟩] }

/-- `deliverBridgeMessageGen`, with `deliverPeerBridgePayload`. -/
def deliverBridgeMessageGen (msg : BridgeMessage) : Session :=
  match bridgePayload msg with
  | some payload =>
    if s.onPeerData ∧ msg.fromID ≠ "" then
      match s.acceptPeerEpochFrame msg.fromID payload with
      | (s', some data) => s'.deliver s msg.fromID payload data
      | (s', none) => s'
    else
      match s.acceptEpochFrame payload with
      | (s', some data) =>
        let s' :=
          if ¬ s.requireTargetedPeer ∨ s'.peerEpoch ≠ 0 then s'.latchPeerEndpoint msg.fromID
          else s'
        s'.deliver s msg.fromID payload data
      | (s', none) => s'
  | none => s

/-! ### Peers -/

/-- `ConfirmPeer`; it fails if the ID is no hexadecimal number of 32 bits, or zero. -/
def confirmPeer (peerID : String) : Option Session :=
  match hexGet peerID.toList with
  | some value =>
    if peerID = "" ∨ 2 ^ 32 ≤ value ∨ value = 0 then none
    else some { s with peerEpoch := UInt32.ofNat value }
  | none => none

def resetPeer : Session := { s with peerEndpoint := none, peerEpoch := 0, peerEpochs := ∅ }

/-! ### Sending -/

/-- One step of sender `i`. -/
def senderStep (i : ℕ) : SenderPc → Session
  | .start peerID data =>
    if s.closed ∨ ¬ s.bridgeReady ∨
        data.length + bridgeMagic.length + epochHeaderLen > bridgeMaxMessageSize then
      { s with senders := s.senders.set i .finished }
    else
      { s with senders := s.senders.set i (.loaded peerID data s.localEpoch s.past.length) }
  | .loaded peerID data localEpoch born =>
    { s with
      senders := s.senders.set i
        (.encoded ⟨peerID, bridgeFrame localEpoch (s.peerEpochFor peerID) data, born⟩) }
  | .encoded frame =>
    let s := { s with senders := s.senders.set i .finished }
    if s.closed ∨ ¬ s.bridgeReady then s
    else if frame.toID = "" then
      if s.sendQueue.length < defaultSendQueueSize then
        { s with sendQueue := s.sendQueue ++ [frame] }
      else s
    else if s.peerSendQueue.length < defaultSendQueueSize then
      { s with peerSendQueue := s.peerSendQueue ++ [frame] }
    else s
  | .finished => s

/-- `sendLoop` takes a frame, with the first check of `sendBridgeFrame`. -/
def takeFrame (peer : Bool) : Session :=
  match s.sendLoop with
  | .wait _ => s
  | .idle =>
    match peer, s.sendQueue, s.peerSendQueue with
    | false, frame :: rest, _ =>
      { s with
        sendQueue := rest
        sendLoop := if s.outboundFrameCurrent frame.data then .wait frame else .idle }
    | true, _, frame :: rest =>
      { s with
        peerSendQueue := rest
        sendLoop := if s.outboundFrameCurrent frame.data then .wait frame else .idle }
    | _, _, _ => s

/-- `waitJSession` ends, with the second check of `sendBridgeFrame` and `sendEndpointRaw`. -/
def emitFrame (ready : Bool) : Session :=
  match s.sendLoop with
  | .idle => s
  | .wait frame =>
    if ready ∧ s.jSess ∧ ¬ s.closed ∧ s.outboundFrameCurrent frame.data then
      { s with
        sendLoop := .idle
        emitted := s.emitted ++ [⟨frame, s.localEpoch, s.past.length⟩] }
    else { s with sendLoop := .idle }

/-! ### Reconnecting -/

/-- One step of `reconnect`, with `reconnectFull` and `finishReconnect`; `v` is what the random
    source returns. -/
def rejoinStep (v : UInt32) (outcome : JoinOutcome) : Session :=
  match s.rejoin with
  | .idle => if s.closed then s else { s with bridgeReady := false, rejoin := .rotate false }
  | .rotate full =>
    { s with
      past := s.past ++ [s.localEpoch]
      localEpoch := randomEpoch v
      rejoin := .forget full }
  | .forget full => { s with peerEpoch := 0, rejoin := .resetEpochs full }
  | .resetEpochs full => { s with peerEpochs := ∅, rejoin := .drain full }
  | .drain full =>
    match s.sendQueue, s.peerSendQueue with
    | _ :: rest, _ => { s with sendQueue := rest }
    | [], _ :: rest => { s with peerSendQueue := rest }
    | [], [] =>
      { s with
        jSess := if full then s.jSess else false
        rejoin := .join full }
  | .join true =>
    match outcome with
    | .succeeds => { s with jSess := !s.closed, rejoin := if s.closed then .idle else .finish }
    | .parks => { s with jSess := !s.closed, rejoin := .idle }
    | .fails => { s with rejoin := .idle }
  | .join false =>
    if outcome = .succeeds then
      { s with jSess := !s.closed, rejoin := if s.closed then .idle else .bridge }
    else { s with rejoin := .rotate true }
  | .bridge =>
    if outcome = .succeeds then { s with rejoin := .finish }
    else { s with jSess := false, rejoin := .rotate true }
  | .finish =>
    { s with
      peerEndpoint := none
      bridgeReady := true
      rejoin := .idle
      -- `Send(nil)` announces the new epoch
      senders := s.senders ++ [.start "" []] }

inductive Event
  /-- The receive loop takes a message. -/
  | receive (msg : BridgeMessage)
  /-- `SendTo` is called, or `Send` if the peer is empty. -/
  | send (peerID : String) (data : Bytes)
  /-- Sender `i` takes a step. -/
  | sender (i : ℕ)
  | take (peer : Bool)
  | emit (ready : Bool)
  | confirm (peerID : String)
  | resetPeer
  /-- `reconnect` takes a step, or starts. -/
  | rejoin (v : UInt32) (outcome : JoinOutcome)
  /-- `openBridge` has opened a bridge, or `requestReconnect` has asked for another. -/
  | bridge (ready : Bool)
  | close

def step : Event → Session
  | .receive msg => s.deliverBridgeMessageGen msg
  | .send peerID data => { s with senders := s.senders ++ [.start peerID data] }
  | .sender i =>
    match s.senders[i]? with
    | some pc => s.senderStep i pc
    | none => s
  | .take peer => s.takeFrame peer
  | .emit ready => s.emitFrame ready
  | .confirm peerID => (s.confirmPeer peerID).getD s
  | .resetPeer => s.resetPeer
  | .rejoin v outcome => s.rejoinStep v outcome
  | .bridge ready => { s with bridgeReady := ready }
  | .close => { s with closed := true, jSess := false, bridgeReady := false }

end Session

end OlcRtc.Jitsi
