import OlcRtc.Vp8.Peers
import Mathlib.Data.Nat.Bitwise

/-!
# The vp8channel transport

The state of `streamTransport` that decides where an inbound frame goes, and the functions that
decide it: `handleIncomingFrame` with its filters on token, loopback and destination, the routes to
the control plane, to the session of a peer (server mode) or to the data runtime of the confirmed
peer (client mode), and `ConfirmPeer`.

`handleIncomingFrame` returns the packets that entered a KCP runtime together with the runtime they
entered (`Route`).  A runtime is represented by the header it stamps.  What the outside world
contributes to a call, such as the time, is a `Surroundings`.

**`handleIncomingFrame_spec`** collects what the filters guarantee about every packet that gets
through.
-/

namespace OlcRtc

/-! ## State -/

/-- `streamTransport`.  `reconnects` counts the calls of `stream.Reconnect`. -/
structure StreamTransport where
  serverMode : Bool
  bindingToken : UInt32
  localEpoch : UInt32
  data : Option EpochHeader
  control : Option EpochHeader
  peerConfirmed : Bool
  peerEpoch : UInt32
  lastPeerFrameNano : ℕ
  linkUnhealthy : Bool
  peerRestartGrace : ℕ
  peerRestarting : Bool
  reconnects : ℕ
  peers : PeerTable

/-- What a call finds: the time, whether KCP sessions start, and the order in which a map is
traversed. -/
structure Surroundings where
  now : ℕ
  startsData : Bool
  startsControl : Bool
  order : List UInt32 → List UInt32

/-- The KCP runtime that a packet enters. -/
inductive Route
  | data
  | control
  | peerData (epoch : UInt32)
  | peerControl (epoch : UInt32)
deriving DecidableEq, Repr

/-- `randomEpoch`, from four random bytes: the high bit is cleared and zero is avoided. -/
def randomEpoch (draw : UInt32) : UInt32 :=
  let e := draw &&& ~~~controlEpochFlag
  if e = 0 then 1 else e

/-- The check of `kcpConn.deliver`: the packet without its checksum, unless that is wrong. -/
def KcpConn.deliver (payload : Bytes) : Option Bytes :=
  if payload.length < wireCRCLen then none
  else
    let body := payload.take (payload.length - wireCRCLen)
    let want := getUint32 payload (payload.length - wireCRCLen) payload.length
    if crc32c body = want then some body else none

/-- `deliverKCPPayload`: the packets that enter the runtime. -/
def deliverKCPPayload (route : Route) (payload : Bytes) : List (Route × Bytes) :=
  if payload = [] then []
  else (((splitKCPPayload payload).getD []).filterMap KcpConn.deliver).map fun p => (route, p)

namespace StreamTransport

/-- `newStreamTransport`; the grace period is six seconds. -/
def new (serverMode : Bool) (bindingToken draw : UInt32) : StreamTransport where
  serverMode := serverMode
  bindingToken := bindingToken
  localEpoch := randomEpoch draw
  data := none
  control := none
  peerConfirmed := false
  peerEpoch := 0
  lastPeerFrameNano := 0
  linkUnhealthy := false
  peerRestartGrace := 6 * 1000000000
  peerRestarting := false
  reconnects := 0
  peers := PeerTable.empty

def controlEpochValue (t : StreamTransport) : UInt32 := t.localEpoch ||| controlEpochFlag

def epochHeader (t : StreamTransport) : EpochHeader := ⟨t.bindingToken, t.localEpoch, 0⟩

def controlEpochHeader (t : StreamTransport) : EpochHeader :=
  ⟨t.bindingToken, t.controlEpochValue, 0⟩

/-- `Connect`: both planes are started. -/
def connect (t : StreamTransport) : StreamTransport :=
  { t with data := some t.epochHeader, control := some t.controlEpochHeader }

def localPeerID (t : StreamTransport) : String := formatPeerID t.localEpoch

/-! ## Peer sessions -/

/-- `peerSessionFor`: the session of an epoch, created if need be.  Its header addresses that
epoch. -/
def peerSessionFor (t : StreamTransport) (env : Surroundings) (epoch : UInt32) :
    StreamTransport × Option PeerSession :=
  match t.peers.get epoch env.now with
  | (peers, some sess) => ({ t with peers := peers }, some sess)
  | (_, none) =>
    if env.startsData then
      let hdr : EpochHeader := ⟨t.bindingToken, t.localEpoch, epoch⟩
      let sess : PeerSession := ⟨epoch, hdr, none, env.now⟩
      let (peers, added) := t.peers.add env.order sess env.now
      ({ t with peers := peers }, if added then some sess else none)
    else (t, none)

/-- `peerControlFor`: the control runtime of a peer, created if need be; the second component says
whether there is one. -/
def peerControlFor (t : StreamTransport) (env : Surroundings) (epoch : UInt32) :
    StreamTransport × Bool :=
  match t.peerSessionFor env epoch with
  | (t, none) => (t, false)
  | (t, some sess) =>
    if sess.control.isSome then (t, true)
    else if env.startsControl then
      let hdr : EpochHeader :=
        ⟨t.bindingToken, t.localEpoch ||| controlEpochFlag, epoch ||| controlEpochFlag⟩
      ({ t with peers := t.peers.setControl epoch sess hdr }, true)
    else (t, false)

/-! ## Inbound frames -/

def acceptsDst (t : StreamTransport) (dst : UInt32) : Bool :=
  dst == 0 || dst == t.localEpoch || dst == (t.localEpoch ||| controlEpochFlag)

/-- `maybePeerRestart`: a frame of another epoch while the confirmed peer is silent and the link is
known to be unhealthy. -/
def maybePeerRestart (t : StreamTransport) (env : Surroundings) : StreamTransport :=
  if t.linkUnhealthy = false then t
  else if t.peerRestartGrace = 0 then t
  else if t.lastPeerFrameNano = 0 ∨ env.now - t.lastPeerFrameNano < t.peerRestartGrace then t
  else if t.peerRestarting then t
  else { t with peerRestarting := true, reconnects := t.reconnects + 1 }

def handleSinglePeerData (t : StreamTransport) (env : Surroundings) (src : UInt32)
    (kcpPayload : Bytes) : StreamTransport × List (Route × Bytes) :=
  if t.peerConfirmed = false then (t, [])
  else if src ≠ t.peerEpoch then (t.maybePeerRestart env, [])
  else
    ({ t with lastPeerFrameNano := env.now },
      if t.data.isSome then deliverKCPPayload .data kcpPayload else [])

/-- `handlePeerFrame`: the session is looked up even for a keepalive. -/
def handlePeerFrame (t : StreamTransport) (env : Surroundings) (peerEpoch : UInt32)
    (kcpPayload : Bytes) : StreamTransport × List (Route × Bytes) :=
  match t.peerSessionFor env peerEpoch with
  | (t, none) => (t, [])
  | (t, some _) => (t, deliverKCPPayload (.peerData peerEpoch) kcpPayload)

def handleControlFrame (t : StreamTransport) (env : Surroundings) (src dst : UInt32)
    (kcpPayload : Bytes) : StreamTransport × List (Route × Bytes) :=
  if kcpPayload = [] then (t, [])
  else if t.serverMode then
    let epoch := src &&& ~~~controlEpochFlag
    match t.peerControlFor env epoch with
    | (t, false) => (t, [])
    | (t, true) => (t, deliverKCPPayload (.peerControl epoch) kcpPayload)
  else if dst ≠ t.controlEpochValue then (t, [])
  else (t, if t.control.isSome then deliverKCPPayload .control kcpPayload else [])

def handleIncomingFrame (t : StreamTransport) (env : Surroundings) (frame : Bytes) :
    StreamTransport × List (Route × Bytes) :=
  match parseEpochHeader frame with
  | none => (t, [])
  | some (frameToken, src, dst) =>
    if frameToken ≠ t.bindingToken then (t, [])
    else if src = t.localEpoch ∨ src = (t.localEpoch ||| controlEpochFlag) then (t, [])
    else if t.acceptsDst dst = false then (t, [])
    else if src &&& controlEpochFlag ≠ 0 then t.handleControlFrame env src dst (packetOf frame)
    else if t.serverMode then t.handlePeerFrame env src (packetOf frame)
    else t.handleSinglePeerData env src (packetOf frame)

/-! ## Confirming the peer -/

/-- Why `ConfirmPeer` refuses. -/
inductive ConfirmError
  | parsePeerID (peerID : String)
  | invalidPeerID (epoch : UInt32)

/-- The check at the head of `ConfirmPeer`. -/
def checkPeerID (peerID : String) : Except ConfirmError UInt32 :=
  match parsePeerID peerID with
  | none => .error (.parsePeerID peerID)
  | some epoch =>
    if epoch = 0 ∨ epoch &&& controlEpochFlag ≠ 0 then .error (.invalidPeerID epoch)
    else .ok epoch

def confirmHeader (t : StreamTransport) (epoch : UInt32) : StreamTransport :=
  { t with data := t.data.map fun _ => ⟨t.bindingToken, t.localEpoch, epoch⟩ }

/-- The peer's epoch is stored, and the watchdog starts anew. -/
def confirmEpoch (t : StreamTransport) (env : Surroundings) (epoch : UInt32) : StreamTransport :=
  { t with peerEpoch := epoch, lastPeerFrameNano := env.now, peerRestarting := false }

def confirmDone (t : StreamTransport) : StreamTransport := { t with peerConfirmed := true }

def confirmPeer (t : StreamTransport) (env : Surroundings) (peerID : String) :
    Except ConfirmError StreamTransport :=
  match checkPeerID peerID with
  | .error e => .error e
  | .ok epoch => .ok ((t.confirmHeader epoch).confirmEpoch env epoch).confirmDone

end StreamTransport

/-! ## Epochs

The control flag is the high bit: on numbers, setting it adds `2 ^ 31` and clearing it is a
remainder.
-/

lemma and_controlEpochFlag_ne_zero_iff (x : UInt32) :
    x &&& controlEpochFlag ≠ 0 ↔ 2 ^ 31 ≤ x.toNat := by
  have hlt : x.toNat < 2 ^ 32 := x.toNat_lt
  have hand : (x &&& controlEpochFlag).toNat = (x.toNat.testBit 31).toNat * 2 ^ 31 := by
    rw [UInt32.toNat_and]
    exact Nat.and_two_pow _ 31
  have hbit : x.toNat.testBit 31 = true ↔ 2 ^ 31 ≤ x.toNat := by
    grind
  rw [← hbit, ne_eq, ← UInt32.toNat_inj, hand]
  cases x.toNat.testBit 31 <;> simp

lemma toNat_and_not_controlEpochFlag (x : UInt32) :
    (x &&& ~~~controlEpochFlag).toNat = x.toNat % 2 ^ 31 := by
  rw [UInt32.toNat_and]
  exact Nat.and_two_pow_sub_one_eq_mod x.toNat 31

lemma toNat_or_controlEpochFlag {x : UInt32} (h : x.toNat < 2 ^ 31) :
    (x ||| controlEpochFlag).toNat = 2 ^ 31 + x.toNat := by
  rw [UInt32.toNat_or, Nat.or_comm]
  exact (Nat.two_pow_add_eq_or_of_lt h 1).symm

lemma or_and_not_controlEpochFlag {x : UInt32} (h : x &&& controlEpochFlag ≠ 0) :
    (x &&& ~~~controlEpochFlag) ||| controlEpochFlag = x := by
  have hlt : x.toNat < 2 ^ 32 := x.toNat_lt
  have hflag := (and_controlEpochFlag_ne_zero_iff x).mp h
  have hclear := toNat_and_not_controlEpochFlag x
  rw [← UInt32.toNat_inj, toNat_or_controlEpochFlag (by omega), hclear]
  omega

/-- A data epoch: not zero, and without the control flag. -/
structure DataEpoch (e : UInt32) : Prop where
  pos : 0 < e.toNat
  lt : e.toNat < 2 ^ 31

lemma dataEpoch_randomEpoch (draw : UInt32) : DataEpoch (randomEpoch draw) := by
  have hclear := toNat_and_not_controlEpochFlag draw
  simp only [randomEpoch]
  split_ifs with hzero
  · exact ⟨by decide, by decide⟩
  · refine ⟨Nat.pos_of_ne_zero fun h => hzero (UInt32.toNat_inj.mp h), ?_⟩
    rw [hclear]
    exact Nat.mod_lt _ (by decide)

namespace StreamTransport

/-! ## What an inbound frame changes

An inbound frame can only change the peer table and the state of the restart watchdog.
-/

/-- The part of the state that inbound frames leave alone. -/
structure SameIdentity (t t' : StreamTransport) : Prop where
  serverMode : t'.serverMode = t.serverMode
  bindingToken : t'.bindingToken = t.bindingToken
  localEpoch : t'.localEpoch = t.localEpoch
  data : t'.data = t.data
  control : t'.control = t.control
  peerConfirmed : t'.peerConfirmed = t.peerConfirmed
  peerEpoch : t'.peerEpoch = t.peerEpoch

lemma SameIdentity.refl (t : StreamTransport) : t.SameIdentity t :=
  ⟨rfl, rfl, rfl, rfl, rfl, rfl, rfl⟩

lemma sameIdentity_peers (t : StreamTransport) (peers : PeerTable) :
    t.SameIdentity { t with peers := peers } :=
  ⟨rfl, rfl, rfl, rfl, rfl, rfl, rfl⟩

/-- A property of sessions that those created with this token and epoch have. -/
structure Stable (Q : UInt32 → PeerSession → Prop) (token localEpoch : UInt32) : Prop where
  timeless : PeerTable.Timeless Q
  fresh : ∀ epoch now, Q epoch ⟨epoch, ⟨token, localEpoch, epoch⟩, none, now⟩
  control : ∀ epoch sess, Q epoch sess → Q epoch { sess with
    control := some ⟨token, localEpoch ||| controlEpochFlag, epoch ||| controlEpochFlag⟩ }

variable {Q : UInt32 → PeerSession → Prop} {t : StreamTransport}

lemma peerSessionFor_eq (t : StreamTransport) (env : Surroundings) (epoch : UInt32) :
    ∃ peers, (t.peerSessionFor env epoch).1 = { t with peers := peers } := by
  unfold peerSessionFor
  split
  · exact ⟨_, rfl⟩
  · split_ifs
    · exact ⟨_, rfl⟩
    · exact ⟨t.peers, rfl⟩

lemma peerSessionFor_all (hQ : Stable Q t.bindingToken t.localEpoch) (h : t.peers.All Q)
    (env : Surroundings) (epoch : UInt32) :
    (t.peerSessionFor env epoch).1.peers.All Q ∧
      ∀ sess, (t.peerSessionFor env epoch).2 = some sess → Q epoch sess := by
  obtain ⟨hget, hfound⟩ := h.get hQ.timeless epoch env.now
  unfold peerSessionFor
  split
  · grind
  · split_ifs
    · have hfresh := hQ.fresh epoch env.now
      refine ⟨h.add hQ.timeless env.order hfresh env.now, fun sess hsess => ?_⟩
      simp only at hsess
      split_ifs at hsess
      rwa [← Option.some.inj hsess]
    · exact ⟨h, by simp⟩

lemma peerControlFor_eq (t : StreamTransport) (env : Surroundings) (epoch : UInt32) :
    ∃ peers, (t.peerControlFor env epoch).1 = { t with peers := peers } := by
  obtain ⟨peers, hpeers⟩ := peerSessionFor_eq t env epoch
  unfold peerControlFor
  split
  · next t' heq => exact ⟨peers, by rw [← hpeers, heq]⟩
  · grind

lemma peerControlFor_all (hQ : Stable Q t.bindingToken t.localEpoch) (h : t.peers.All Q)
    (env : Surroundings) (epoch : UInt32) : (t.peerControlFor env epoch).1.peers.All Q := by
  obtain ⟨hall, hsess⟩ := peerSessionFor_all hQ h env epoch
  obtain ⟨peers, hpeers⟩ := peerSessionFor_eq t env epoch
  unfold peerControlFor
  split
  · next heq => rwa [heq] at hall
  · next t' sess heq =>
      rw [heq] at hall hsess hpeers
      obtain rfl : t' = { t with peers := peers } := hpeers
      split_ifs
      · exact hall
      · exact hall.insert (hQ.control epoch sess (hsess sess rfl))
      · exact hall

lemma maybePeerRestart_same (t : StreamTransport) (env : Surroundings) :
    t.SameIdentity (t.maybePeerRestart env) ∧ (t.maybePeerRestart env).peers = t.peers := by
  unfold maybePeerRestart
  split_ifs <;> exact ⟨⟨rfl, rfl, rfl, rfl, rfl, rfl, rfl⟩, rfl⟩

/-! ## Where an inbound frame goes -/

/-- What is true of source and destination of a packet that takes a route. -/
def Admits (t : StreamTransport) (src dst : UInt32) : Route → Prop
  | .data => t.serverMode = false ∧ t.peerConfirmed = true ∧ src = t.peerEpoch ∧
      src &&& controlEpochFlag = 0 ∧ t.acceptsDst dst = true
  | .control => t.serverMode = false ∧ src &&& controlEpochFlag ≠ 0 ∧ dst = t.controlEpochValue
  | .peerData epoch => t.serverMode = true ∧ src = epoch
  | .peerControl epoch => t.serverMode = true ∧ src = epoch ||| controlEpochFlag

/-- The result of a handler: the identity is kept, every session has the property `Q`, and packets
took only routes that their source and destination allow. -/
structure Handles (Q : UInt32 → PeerSession → Prop) (t : StreamTransport) (src dst : UInt32)
    (r : StreamTransport × List (Route × Bytes)) : Prop where
  same : t.SameIdentity r.1
  peers : r.1.peers.All Q
  routes : ∀ route packet, (route, packet) ∈ r.2 → t.Admits src dst route

lemma route_of_mem_deliver {route route' : Route} {payload packet : Bytes}
    (h : (route', packet) ∈ deliverKCPPayload route payload) : route' = route := by
  unfold deliverKCPPayload at h
  split_ifs at h
  · simp at h
  · grind

lemma handles_deliver {src dst : UInt32} {t' : StreamTransport} (hsame : t.SameIdentity t')
    (hpeers : t'.peers.All Q) {route : Route} (hroute : t.Admits src dst route) (payload : Bytes) :
    Handles Q t src dst (t', deliverKCPPayload route payload) :=
  ⟨hsame, hpeers, fun _ _ h => by rw [route_of_mem_deliver h]; exact hroute⟩

lemma handles_drop {src dst : UInt32} {t' : StreamTransport} (hsame : t.SameIdentity t')
    (hpeers : t'.peers.All Q) : Handles Q t src dst (t', []) :=
  ⟨hsame, hpeers, by simp⟩

variable {src dst : UInt32} {payload : Bytes}

lemma handleSinglePeerData_spec (h : t.peers.All Q) (env : Surroundings)
    (hmode : t.serverMode = false) (hsrc : src &&& controlEpochFlag = 0)
    (hdst : t.acceptsDst dst = true) :
    Handles Q t src dst (t.handleSinglePeerData env src payload) := by
  obtain ⟨hsame, hpeers⟩ := maybePeerRestart_same t env
  have hseen : t.SameIdentity { t with lastPeerFrameNano := env.now } :=
    ⟨rfl, rfl, rfl, rfl, rfl, rfl, rfl⟩
  unfold handleSinglePeerData
  split_ifs with hconfirmed hforeign hruntime
  · exact handles_drop (SameIdentity.refl t) h
  · exact handles_drop hsame (by rwa [hpeers])
  · have hadmits : t.Admits src dst .data :=
      ⟨hmode, by simpa using hconfirmed, not_not.mp hforeign, hsrc, hdst⟩
    exact handles_deliver hseen h hadmits payload
  · exact handles_drop hseen h

lemma handlePeerFrame_spec (hQ : Stable Q t.bindingToken t.localEpoch) (h : t.peers.All Q)
    (env : Surroundings) (hmode : t.serverMode = true) :
    Handles Q t src dst (t.handlePeerFrame env src payload) := by
  obtain ⟨peers, hpeers⟩ := peerSessionFor_eq t env src
  have hall := (peerSessionFor_all hQ h env src).1
  unfold handlePeerFrame
  rcases hsess : t.peerSessionFor env src with ⟨t', sess⟩
  rw [hsess] at hpeers hall
  obtain rfl : t' = { t with peers := peers } := hpeers
  cases sess with
  | none => exact handles_drop (sameIdentity_peers t peers) hall
  | some sess =>
    have hadmits : t.Admits src dst (.peerData src) := ⟨hmode, rfl⟩
    exact handles_deliver (sameIdentity_peers t peers) hall hadmits payload

lemma handleControlFrame_spec (hQ : Stable Q t.bindingToken t.localEpoch) (h : t.peers.All Q)
    (env : Surroundings) (hsrc : src &&& controlEpochFlag ≠ 0) :
    Handles Q t src dst (t.handleControlFrame env src dst payload) := by
  unfold handleControlFrame
  split_ifs with hempty hmode hdst hruntime
  · exact handles_drop (SameIdentity.refl t) h
  · obtain ⟨peers, hpeers⟩ := peerControlFor_eq t env (src &&& ~~~controlEpochFlag)
    have hall := peerControlFor_all hQ h env (src &&& ~~~controlEpochFlag)
    simp only
    rcases hcontrol : t.peerControlFor env (src &&& ~~~controlEpochFlag) with ⟨t', found⟩
    rw [hcontrol] at hpeers hall
    obtain rfl : t' = { t with peers := peers } := hpeers
    cases found with
    | false => exact handles_drop (sameIdentity_peers t peers) hall
    | true =>
      have hadmits : t.Admits src dst (.peerControl (src &&& ~~~controlEpochFlag)) :=
        ⟨hmode, (or_and_not_controlEpochFlag hsrc).symm⟩
      exact handles_deliver (sameIdentity_peers t peers) hall hadmits payload
  · exact handles_drop (SameIdentity.refl t) h
  · have hadmits : t.Admits src dst .control := ⟨by simpa using hmode, hsrc, not_not.mp hdst⟩
    exact handles_deliver (SameIdentity.refl t) h hadmits payload
  · exact handles_drop (SameIdentity.refl t) h

/-- **What an inbound frame does.**  The transport keeps its identity, the sessions it creates
carry its token and epoch, and a packet enters a runtime only from a frame of the same binding
token, by a route its source and destination allow. -/
lemma handleIncomingFrame_spec (hQ : Stable Q t.bindingToken t.localEpoch) (h : t.peers.All Q)
    (env : Surroundings) (frame : Bytes) :
    t.SameIdentity (t.handleIncomingFrame env frame).1 ∧
    (t.handleIncomingFrame env frame).1.peers.All Q ∧
    ∀ route packet, (route, packet) ∈ (t.handleIncomingFrame env frame).2 →
      ∃ src dst, parseEpochHeader frame = some (t.bindingToken, src, dst) ∧
        t.Admits src dst route := by
  unfold handleIncomingFrame
  cases hparse : parseEpochHeader frame with
  | none => exact ⟨SameIdentity.refl t, h, by simp⟩
  | some header =>
    obtain ⟨token, src, dst⟩ := header
    simp only
    by_cases htoken : token = t.bindingToken
    swap
    · simp only [ne_eq, htoken, not_false_eq_true, if_true]
      exact ⟨SameIdentity.refl t, h, by simp⟩
    subst htoken
    have hhandles : ∀ r, Handles Q t src dst r → t.SameIdentity r.1 ∧ r.1.peers.All Q ∧
        ∀ route packet, (route, packet) ∈ r.2 → ∃ src' dst',
          some (t.bindingToken, src, dst) = some (t.bindingToken, src', dst') ∧
            t.Admits src' dst' route :=
      fun r hr => ⟨hr.same, hr.peers, fun route packet hmem =>
        ⟨src, dst, rfl, hr.routes route packet hmem⟩⟩
    refine hhandles _ ?_
    simp only [ne_eq, not_true_eq_false, if_false]
    split_ifs with hself hdst hflag hmode
    · exact handles_drop (SameIdentity.refl t) h
    · exact handles_drop (SameIdentity.refl t) h
    · exact handlePeerFrame_spec hQ h env hmode
    · exact handleSinglePeerData_spec h env (by simpa using hmode) hflag (by simpa using hdst)
    · exact handleControlFrame_spec hQ h env hflag

lemma handleIncomingFrame_data {frame : Bytes} (env : Surroundings)
    (hparse : parseEpochHeader frame = some (t.bindingToken, src, dst))
    (hself : ¬ (src = t.localEpoch ∨ src = t.localEpoch ||| controlEpochFlag))
    (hdst : t.acceptsDst dst = true) (hsrc : src &&& controlEpochFlag = 0)
    (hmode : t.serverMode = false) (hconfirmed : t.peerConfirmed = true)
    (hpeer : src = t.peerEpoch) (hdata : t.data.isSome = true) :
    (t.handleIncomingFrame env frame).2 = deliverKCPPayload .data (packetOf frame) := by
  have hroute : t.handleIncomingFrame env frame =
      t.handleSinglePeerData env src (packetOf frame) := by
    rw [handleIncomingFrame, hparse]
    simp [hself, hdst, hsrc, hmode]
  rw [hroute, handleSinglePeerData]
  simp [hconfirmed, hpeer, hdata]

lemma handleIncomingFrame_client (hmode : t.serverMode = false) (env : Surroundings)
    (frame : Bytes) : (t.handleIncomingFrame env frame).1.peers = t.peers := by
  have hsingle : ∀ src payload, (t.handleSinglePeerData env src payload).1.peers = t.peers := by
    intro src payload
    unfold handleSinglePeerData
    split_ifs
    · rfl
    · exact (maybePeerRestart_same t env).2
    · rfl
    · rfl
  have hcontrol : ∀ src dst payload,
      (t.handleControlFrame env src dst payload).1.peers = t.peers := by
    intro src dst payload
    simp only [handleControlFrame, hmode, Bool.false_eq_true, if_false]
    split_ifs <;> rfl
  unfold handleIncomingFrame
  split
  · rfl
  · grind

end StreamTransport

end OlcRtc
