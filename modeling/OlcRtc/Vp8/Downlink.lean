import OlcRtc.Lib.Calls
import OlcRtc.Vp8.Restart

/-!
# The identity under which a server is heard

A client hears the server's data only under the epoch it has confirmed, and it confirms the peer id
that the server announces in its welcome, which is the server's epoch at that time.  A session of
the peer table stamps the epoch the server had when the session was created.  Rotating the epoch
leaves the table alone, so from then on the sessions in it speak under an identity that the server
no longer announces.

Every track has a goroutine that hands on its frames, and restarts and sweeps run beside them.
`act` has a step for every lock region and every read of the epoch: `peerSessionFor` reads the epoch
under `createMu`, starts a runtime with it, and only then adds the session to the table.

* `owner` tells the sessions apart that one peer has had.  A session that is no longer in the table
  is not followed.
* `reading` is not in the source: the call that holds `createMu` has read the epoch.

**`downlink_of_idle`**: if every rotation finds the table empty and no session about to be added,
then every session in the table stamps the announced epoch at all times, and is heard by a client
that confirms it; and a rotation that finds a session breaks this.  `downlink_stale` is a run in
which a client that does everything right discards all of its session's data.
-/

namespace OlcRtc

namespace StreamTransport

def server (token draw : UInt32) : StreamTransport := (new true token draw).connect

/-- A session that speaks under the epoch `localEpoch`. -/
def Speaks (localEpoch : UInt32) (_ : UInt32) (sess : PeerSession) : Prop :=
  sess.data.src = localEpoch ∧ ∀ hdr ∈ sess.control, hdr.src = localEpoch ||| controlEpochFlag

/-- Every session stamps the epoch that `LocalPeerID` reports, its control runtime with the control
flag. -/
def Downlink (t : StreamTransport) : Prop := t.peers.All (Speaks t.localEpoch)

structure ClientOf (t : StreamTransport) (epoch : UInt32) (client : StreamTransport) : Prop where
  serverMode : client.serverMode = false
  bindingToken : client.bindingToken = t.bindingToken
  localEpoch : client.localEpoch = epoch
  dataEpoch : DataEpoch epoch
  distinct : epoch ≠ t.localEpoch
  data : client.data.isSome = true

/-- The client of a session that has confirmed the announced identity hears the session: whatever
the session puts behind its header enters the client's data runtime. -/
def Heard (t : StreamTransport) : Prop :=
  ∀ (epoch : UInt32) (sess : PeerSession) (client : StreamTransport) (env : Surroundings),
    t.peers.sessions.lookup epoch = some sess → t.ClientOf epoch client →
    ∃ confirmed : StreamTransport, client.confirmPeer env t.localPeerID = .ok confirmed ∧
      ∀ env payload, (confirmed.handleIncomingFrame env (sess.data.bytes ++ payload)).2 =
        deliverKCPPayload .data payload

/-- A session is addressed to its peer. -/
def Addressed (token : UInt32) (epoch : UInt32) (sess : PeerSession) : Prop :=
  sess.data.token = token ∧ sess.data.dst = epoch

structure ServerOk (t : StreamTransport) : Prop where
  epoch : DataEpoch t.localEpoch
  peers : t.peers.All (Addressed t.bindingToken)

variable {t : StreamTransport}

lemma checkPeerID_localPeerID (h : DataEpoch t.localEpoch) :
    checkPeerID t.localPeerID = .ok t.localEpoch := by
  have hne : t.localEpoch ≠ 0 := by
    intro h0
    have := h.pos
    rw [h0] at this
    exact absurd this (by decide)
  have hclear : ¬ t.localEpoch &&& controlEpochFlag ≠ 0 := by
    rw [and_controlEpochFlag_ne_zero_iff]
    have := h.lt
    omega
  rw [checkPeerID, localPeerID, parsePeerID_formatPeerID]
  simp only [hne, hclear, or_self, if_false]

lemma ServerOk.heard (h : t.ServerOk) (hdown : t.Downlink) : t.Heard := by
  intro epoch sess client env hsess hclient
  obtain ⟨htoken, hdst⟩ := h.peers epoch sess hsess
  obtain ⟨hsrc, -⟩ := hdown epoch sess hsess
  have hflagged : (epoch ||| controlEpochFlag).toNat = 2 ^ 31 + epoch.toNat :=
    toNat_or_controlEpochFlag hclient.dataEpoch.lt
  have hlt := h.epoch.lt
  have hself : ¬ (t.localEpoch = epoch ∨ t.localEpoch = epoch ||| controlEpochFlag) := by
    rintro (heq | heq)
    · exact hclient.distinct heq.symm
    · rw [heq, hflagged] at hlt
      omega
  have hclear : t.localEpoch &&& controlEpochFlag = 0 := by
    by_contra hflag
    have := (and_controlEpochFlag_ne_zero_iff _).mp hflag
    omega
  refine ⟨((client.confirmHeader t.localEpoch).confirmEpoch env t.localEpoch).confirmDone,
    by rw [confirmPeer, checkPeerID_localPeerID h.epoch], fun env' payload => ?_⟩
  have hparse := parseEpochHeader_bytes sess.data payload
  have hpacket : packetOf (sess.data.bytes ++ payload) = payload :=
    List.drop_left' sess.data.length_bytes
  generalize sess.data.bytes ++ payload = frame at hparse hpacket ⊢
  rw [htoken, hsrc, hdst, ← hclient.bindingToken] at hparse
  rw [← hclient.localEpoch] at hself
  rw [← hpacket]
  refine handleIncomingFrame_data env' hparse hself ?_ hclear hclient.serverMode rfl rfl ?_
  · show (epoch == 0 || epoch == client.localEpoch || _) = true
    simp [hclient.localEpoch]
  · show (client.data.map _).isSome = true
    rw [Option.isSome_map, hclient.data]

end StreamTransport

namespace Downlink

open StreamTransport

/-- The transport with its locks: the session of each epoch, how many there have been, the call
that holds `createMu`, and the sessions whose `controlMu` is held. -/
structure World where
  transport : StreamTransport
  owner : UInt32 → ℕ := fun _ => 0
  created : ℕ := 0
  createMu : Option ℕ := none
  reading : Bool := false
  controlMu : List ℕ := []

def World.session (w : World) (epoch : UInt32) (id : ℕ) : Option PeerSession :=
  if w.owner epoch = id then w.transport.peers.sessions.lookup epoch else none

def World.withPeers (w : World) (peers : PeerTable) : World :=
  { w with transport := { w.transport with peers := peers } }

def World.unlock (w : World) : World := { w with createMu := none, reading := false }

/-- Where a call of `handleIncomingFrame`, of `restartPlanes` or of `sweep` stands.  A frame for the
control plane of a peer goes on after `peerSessionFor`. -/
inductive Pc
  | inbound (frame : Bytes)
  | loopback (src dst : UInt32) (kcpPayload : Bytes)
  | acceptsDst (src dst : UInt32) (kcpPayload : Bytes)
  | get (epoch : UInt32) (forControl : Bool)
  | create (epoch : UInt32) (forControl : Bool)
  | getAgain (epoch : UInt32) (forControl : Bool)
  | readEpoch (epoch : UInt32) (forControl : Bool)
  | add (hdr : EpochHeader) (epoch : UInt32) (forControl : Bool)
  | control (epoch : UInt32) (id : ℕ)
  | readControl (epoch : UInt32) (id : ℕ)
  | setControl (hdr : EpochHeader) (epoch : UInt32) (id : ℕ)
  | restart (draws : List UInt32)
  | forgetEpoch (draws : List UInt32)
  | rotate (draws : List UInt32)
  | restartData (hdr : EpochHeader)
  | controlHeader
  | restartControl (hdr : EpochHeader)
  | sweep
  | returned
deriving DecidableEq

def Pc.isEntry : Pc → Bool
  | inbound _ | restart _ | sweep => true
  | _ => false

/-- What a frame does once it has its session. -/
def Pc.withSession (epoch : UInt32) (id : ℕ) (forControl : Bool) : Pc :=
  if forControl then .control epoch id else .returned

def act (i : ℕ) (env : Surroundings) (w : World) : Pc → Option (World × Pc)
  | .inbound frame =>
    match parseEpochHeader frame with
    | none => some (w, .returned)
    | some (frameToken, src, dst) =>
      if frameToken ≠ w.transport.bindingToken ∨ src = w.transport.localEpoch then
        some (w, .returned)
      else some (w, .loopback src dst (packetOf frame))
  | .loopback src dst kcpPayload =>
    if src = w.transport.controlEpochValue then some (w, .returned)
    else some (w, .acceptsDst src dst kcpPayload)
  | .acceptsDst src dst kcpPayload =>
    if w.transport.acceptsDst dst = false then some (w, .returned)
    else if src &&& controlEpochFlag = 0 then some (w, .get src false)
    else if kcpPayload = [] then some (w, .returned)
    else some (w, .get (src &&& ~~~controlEpochFlag) true)
  | .get epoch forControl =>
    match w.transport.peers.get epoch env.now with
    | (peers, some _) => some (w.withPeers peers, .withSession epoch (w.owner epoch) forControl)
    | (_, none) => some (w, .create epoch forControl)
  | .create epoch forControl =>
    if w.createMu.isSome then none
    else some ({ w with createMu := some i }, .getAgain epoch forControl)
  | .getAgain epoch forControl =>
    match w.transport.peers.get epoch env.now with
    | (peers, some _) =>
      some ((w.withPeers peers).unlock, .withSession epoch (w.owner epoch) forControl)
    | (_, none) => some (w, .readEpoch epoch forControl)
  | .readEpoch epoch forControl =>
    some ({ w with reading := true },
      .add ⟨w.transport.bindingToken, w.transport.localEpoch, epoch⟩ epoch forControl)
  | .add hdr epoch forControl =>
    if env.startsData then
      match w.transport.peers.add env.order ⟨epoch, hdr, none, env.now⟩ env.now with
      | (peers, true) =>
        some ({ (w.withPeers peers).unlock with
          owner := Function.update w.owner epoch w.created, created := w.created + 1 },
          .withSession epoch w.created forControl)
      | (peers, false) => some ((w.withPeers peers).unlock, .returned)
    else some (w.unlock, .returned)
  | .control epoch id =>
    if id ∈ w.controlMu then none
    else if (w.session epoch id).any (·.control.isSome) then some (w, .returned)
    else some ({ w with controlMu := id :: w.controlMu }, .readControl epoch id)
  | .readControl epoch id =>
    some (w, .setControl ⟨w.transport.bindingToken, w.transport.controlEpochValue,
      epoch ||| controlEpochFlag⟩ epoch id)
  | .setControl hdr epoch id =>
    let w' := { w with controlMu := w.controlMu.erase id }
    match w.session epoch id with
    | some sess =>
      if env.startsControl then
        some (w'.withPeers (w.transport.peers.setControl epoch sess hdr), .returned)
      else some (w', .returned)
    | none => some (w', .returned)
  | .restart draws =>
    some ({ w with transport := w.transport.forgetConfirmed }, .forgetEpoch draws)
  | .forgetEpoch draws =>
    some ({ w with transport := w.transport.forgetEpoch }, .rotate draws)
  | .rotate draws =>
    (w.transport.rotateEpochHeader draws).map fun (t, hdr) =>
      ({ w with transport := t }, .restartData hdr)
  | .restartData hdr =>
    some ({ w with transport := w.transport.restartData hdr }, .controlHeader)
  | .controlHeader => some (w, .restartControl w.transport.controlEpochHeader)
  | .restartControl hdr =>
    some ({ w with transport := w.transport.restartControl hdr }, .returned)
  | .sweep => some (w.withPeers (w.transport.peers.sweep peerIdleTTL env.now), .returned)
  | .returned => none

abbrev State := Calls.State World Pc

abbrev Event := Calls.Event Pc Surroundings

def step : State → Event → State := Calls.step Pc.isEntry act

def init (token draw : UInt32) : State := ⟨⟨server token draw, fun _ => 0, 0, none, false, []⟩, []⟩

/-- The epoch is rotated only while no session is in the table or about to be added. -/
def idle (w : World) : Pc → Bool
  | .rotate _ => w.transport.peers.sessions.keys.isEmpty && !w.reading
  | _ => true

/-! ## The invariant -/

/-- The header of a control runtime that is read before the session is in the table. -/
def World.Points (w : World) (hdr : EpochHeader) (epoch : UInt32) (id : ℕ) : Prop :=
  (w.session epoch id).isSome → hdr.src = w.transport.controlEpochValue

/-- The server is a reachable one whose sessions stamp the announced epoch. -/
structure WorldOk (w : World) : Prop where
  server : w.transport.ServerOk
  downlink : w.transport.Downlink
  owner : ∀ epoch, (w.transport.peers.sessions.lookup epoch).isSome → w.owner epoch < w.created

/-- The call holds `createMu`. -/
def Pc.creates : Pc → Bool
  | .getAgain _ _ | .readEpoch _ _ | .add _ _ _ => true
  | _ => false

def Pc.Holds (w : World) : Pc → Prop
  | .add hdr epoch _ =>
    hdr = ⟨w.transport.bindingToken, w.transport.localEpoch, epoch⟩ ∧ w.reading = true
  | .control _ id | .readControl _ id => id < w.created
  | .setControl hdr epoch id => id < w.created ∧ w.Points hdr epoch id
  | _ => True

/-- What is known about call `i`. -/
def CallOk (w : World) (i : ℕ) (pc : Option Pc) : Prop :=
  (w.createMu = some i ↔ pc.any Pc.creates = true) ∧ ∀ pc' ∈ pc, pc'.Holds w

/-- What a step of call `i` guarantees to the others. -/
structure Keeps (i : ℕ) (w w' : World) : Prop where
  createMu : ∀ j ≠ i, (w'.createMu = some j ↔ w.createMu = some j)
  reading : ∀ j ≠ i, w.createMu = some j → w'.reading = w.reading
  bindingToken : w'.transport.bindingToken = w.transport.bindingToken
  localEpoch : w.reading = true → w'.transport.localEpoch = w.transport.localEpoch
  created : w.created ≤ w'.created
  points : ∀ hdr epoch id, id < w.created → w.Points hdr epoch id → w'.Points hdr epoch id

/-- What a step of call `i` comes to. -/
def StepOk (i : ℕ) (w w' : World) (pc : Pc) : Prop :=
  WorldOk w' ∧ Keeps i w w' ∧ CallOk w' i (some pc)

variable {w w' : World} {i : ℕ}

lemma Keeps.of_session (hcreateMu : w'.createMu = w.createMu) (hreading : w'.reading = w.reading)
    (htoken : w'.transport.bindingToken = w.transport.bindingToken)
    (hepoch : w'.transport.localEpoch = w.transport.localEpoch) (hcreated : w.created ≤ w'.created)
    (hsession : ∀ epoch id, id < w.created → (w'.session epoch id).isSome →
      (w.session epoch id).isSome) : Keeps i w w' where
  createMu j _ := by rw [hcreateMu]
  reading j _ _ := hreading
  bindingToken := htoken
  localEpoch _ := hepoch
  created := hcreated
  points hdr epoch id hid h hsome := by
    rw [controlEpochValue, hepoch]
    exact h (hsession epoch id hid hsome)

lemma isSome_of_session {epoch : UInt32} {id : ℕ} (h : (w.session epoch id).isSome) :
    w.owner epoch = id ∧ (w.transport.peers.sessions.lookup epoch).isSome := by
  rw [World.session] at h
  split_ifs at h with howner
  · exact ⟨howner, h⟩
  · cases h

lemma moved {pc pc' : Pc} (hcall : CallOk w i (some pc)) (hok : WorldOk w') (hkeeps : Keeps i w w')
    (hcreateMu : w'.createMu = w.createMu) (hcreates : pc'.creates = pc.creates)
    (hholds : pc'.Holds w') : StepOk i w w' pc' := by
  refine ⟨hok, hkeeps, ?_, by simpa using hholds⟩
  simpa [hcreateMu, hcreates] using hcall.1

/-- What the other calls see. -/
def World.seen (w : World) : Option ℕ × Bool × UInt32 × UInt32 × ℕ × (UInt32 → ℕ) × PeerTable :=
  (w.createMu, w.reading, w.transport.bindingToken, w.transport.localEpoch, w.created, w.owner,
    w.transport.peers)

lemma Keeps.same (h : w'.seen = w.seen) : Keeps i w w' := by
  simp only [World.seen, Prod.mk.injEq] at h
  obtain ⟨hcreateMu, hreading, htoken, hepoch, hcreated, howner, hpeers⟩ := h
  refine .of_session hcreateMu hreading htoken hepoch hcreated.ge fun epoch id _ hsome => ?_
  rwa [World.session, howner, hpeers] at hsome

/-- A session that the table may have. -/
def Good (w : World) (P : UInt32 → Prop) (epoch : UInt32) (sess : PeerSession) : Prop :=
  Addressed w.transport.bindingToken epoch sess ∧ Speaks w.transport.localEpoch epoch sess ∧
    P epoch

/-- The epochs with a session. -/
def World.Known (w : World) (epoch : UInt32) : Prop :=
  (w.transport.peers.sessions.lookup epoch).isSome

lemma timeless_good {P : UInt32 → Prop} : PeerTable.Timeless (Good w P) := fun _ _ _ => Iff.rfl

lemma WorldOk.good (h : WorldOk w) {P : UInt32 → Prop} (hP : ∀ epoch, w.Known epoch → P epoch) :
    w.transport.peers.All (Good w P) := fun epoch sess hsess =>
  ⟨h.server.peers epoch sess hsess, h.downlink epoch sess hsess,
    hP epoch (by rw [World.Known, hsess]; rfl)⟩

lemma known_of_good {P : UInt32 → Prop} {peers : PeerTable} (hgood : peers.All (Good w P))
    {epoch : UInt32} (h : (peers.sessions.lookup epoch).isSome) : P epoch := by
  obtain ⟨sess, hsess⟩ := Option.isSome_iff_exists.1 h
  exact (hgood epoch sess hsess).2.2

lemma WorldOk.withPeers (h : WorldOk w) {peers : PeerTable} (hgood : peers.All (Good w w.Known)) :
    WorldOk (w.withPeers peers) :=
  ⟨⟨h.server.epoch, fun epoch sess hsess => (hgood epoch sess hsess).1⟩,
    fun epoch sess hsess => (hgood epoch sess hsess).2.1,
    fun epoch hsome => h.owner epoch (known_of_good hgood hsome)⟩

lemma session_withPeers {peers : PeerTable} (hgood : peers.All (Good w w.Known)) {epoch : UInt32}
    {id : ℕ} (h : ((w.withPeers peers).session epoch id).isSome) :
    (w.session epoch id).isSome := by
  obtain ⟨howner, hsome⟩ := isSome_of_session h
  have howner : w.owner epoch = id := howner
  rw [World.session, if_pos howner]
  exact known_of_good hgood hsome

lemma Keeps.withPeers {peers : PeerTable} (hgood : peers.All (Good w w.Known)) :
    Keeps i w (w.withPeers peers) :=
  .of_session rfl rfl rfl rfl le_rfl fun _ _ _ => session_withPeers hgood

lemma unlocked (hcall : w.createMu = some i) {pc : Pc} (hok : WorldOk w') (hpc : pc.creates = false)
    (hcreateMu : w'.createMu = none)
    (htoken : w'.transport.bindingToken = w.transport.bindingToken)
    (hepoch : w'.transport.localEpoch = w.transport.localEpoch) (hcreated : w.created ≤ w'.created)
    (hsession : ∀ epoch id, id < w.created → (w'.session epoch id).isSome →
      (w.session epoch id).isSome) (hholds : pc.Holds w') :
    StepOk i w w' pc := by
  refine ⟨hok, ⟨fun j hj => ?_, fun j hj hmu => ?_, htoken, fun _ => hepoch, hcreated, ?_⟩, ?_, ?_⟩
  · simp [hcreateMu, hcall, Ne.symm hj]
  · exact absurd (Option.some.inj (hcall.symm.trans hmu)) (Ne.symm hj)
  · intro hdr epoch id hid h hsome
    rw [controlEpochValue, hepoch]
    exact h (hsession epoch id hid hsome)
  · simp [hcreateMu, hpc]
  · simpa using hholds

lemma holds_withSession {epoch : UInt32} {id : ℕ} {forControl : Bool} (hid : id < w.created) :
    (Pc.withSession epoch id forControl).Holds w := by
  cases forControl
  · trivial
  · exact hid

lemma creates_withSession (epoch : UInt32) (id : ℕ) (forControl : Bool) :
    (Pc.withSession epoch id forControl).creates = false := by
  cases forControl <;> rfl

lemma WorldOk.owner_lt (h : WorldOk w) {epoch : UInt32} {now : ℕ} {peers : PeerTable}
    {sess : PeerSession} (hget : w.transport.peers.get epoch now = (peers, some sess)) :
    w.owner epoch < w.created := by
  refine h.owner epoch ?_
  rw [PeerTable.get] at hget
  split at hget
  · cases hget
  · next hsess => simp [hsess]

lemma WorldOk.good_get (h : WorldOk w) {epoch : UInt32} {now : ℕ} {peers : PeerTable}
    {sess : Option PeerSession} (hget : w.transport.peers.get epoch now = (peers, sess)) :
    peers.All (Good w w.Known) := by
  have hall := ((h.good fun _ hk => hk).get timeless_good epoch now).1
  rwa [hget] at hall

lemma WorldOk.good_setControl (h : WorldOk w) {hdr : EpochHeader} {epoch : UInt32} {id : ℕ}
    {sess : PeerSession} (hhdr : hdr.src = w.transport.controlEpochValue)
    (hsess : w.session epoch id = some sess) :
    (w.transport.peers.setControl epoch sess hdr).All (Good w w.Known) := by
  have hall : w.transport.peers.All (Good w w.Known) := h.good fun _ hk => hk
  rw [World.session] at hsess
  split_ifs at hsess
  obtain ⟨haddressed, hspeaks, hknown⟩ := hall epoch sess hsess
  refine hall.insert ⟨haddressed, ⟨hspeaks.1, fun hdr' hhdr' => ?_⟩, hknown⟩
  rw [← Option.some.inj hhdr', hhdr, controlEpochValue]

lemma add_false {order : List UInt32 → List UInt32} {t peers : PeerTable} {sess : PeerSession}
    {now : ℕ} (h : t.add order sess now = (peers, false)) : peers = t := by
  unfold PeerTable.add at h
  split_ifs at h <;> cases h <;> rfl

lemma WorldOk.added (h : WorldOk w) (hmu : w.createMu = some i) {hdr : EpochHeader}
    {epoch : UInt32} {forControl : Bool} {order : List UInt32 → List UInt32} {now : ℕ}
    {peers : PeerTable} (hhdr : hdr = ⟨w.transport.bindingToken, w.transport.localEpoch, epoch⟩)
    (hadd : w.transport.peers.add order ⟨epoch, hdr, none, now⟩ now = (peers, true)) :
    let w' : World := { (w.withPeers peers).unlock with
      owner := Function.update w.owner epoch w.created, created := w.created + 1 }
    StepOk i w w' (.withSession epoch w.created forControl) := by
  let sess : PeerSession := ⟨epoch, hdr, none, now⟩
  have hsess : Good w (fun e => w.Known e ∨ e = epoch) sess.epoch sess :=
    ⟨by simp [Addressed, sess, hhdr], by simp [Speaks, sess, hhdr], .inr rfl⟩
  have hgood := PeerTable.All.add (h.good fun _ => Or.inl) timeless_good order hsess now
  rw [hadd] at hgood
  refine unlocked hmu ⟨⟨h.server.epoch, fun e sess hsess => (hgood e sess hsess).1⟩,
    fun e sess hsess => (hgood e sess hsess).2.1, fun e hsome => ?_⟩ (creates_withSession ..) rfl
    rfl rfl (Nat.le_succ _) (fun e id hid hsome => ?_) (holds_withSession (Nat.lt_succ_self _))
  · show Function.update w.owner epoch w.created e < w.created + 1
    by_cases he : e = epoch
    · simp [he]
    · rw [Function.update_of_ne he]
      exact Nat.lt_succ_of_lt (h.owner e ((known_of_good hgood hsome).resolve_right he))
  · obtain ⟨howner, hlookup⟩ := isSome_of_session hsome
    have howner : Function.update w.owner epoch w.created e = id := howner
    by_cases he : e = epoch
    · rw [he, Function.update_self] at howner
      omega
    · rw [Function.update_of_ne he] at howner
      rw [World.session, if_pos howner]
      exact (known_of_good hgood hlookup).resolve_right he

section Act

variable {env : Surroundings} {pc pc' : Pc}

lemma add_ok {hdr : EpochHeader} {epoch : UInt32} {forControl : Bool} (h : WorldOk w)
    (hcall : CallOk w i (some (.add hdr epoch forControl)))
    (hact : act i env w (.add hdr epoch forControl) = some (w', pc')) : StepOk i w w' pc' := by
  have hmu : w.createMu = some i := hcall.1.2 rfl
  have hsame : StepOk i w w.unlock .returned :=
    unlocked hmu ⟨h.server, h.downlink, h.owner⟩ rfl rfl rfl rfl le_rfl (fun _ _ _ hsome => hsome)
      trivial
  rw [act] at hact
  split_ifs at hact
  · split at hact
    · next peers hadd =>
        cases hact
        exact h.added hmu (hcall.2 _ rfl).1 hadd
    · next peers hadd =>
        cases hact
        obtain rfl : peers = w.transport.peers := by simpa using add_false hadd
        exact hsame
  · cases hact
    exact hsame

lemma setControl_ok {hdr : EpochHeader} {epoch : UInt32} {id : ℕ} (h : WorldOk w)
    (hcall : CallOk w i (some (.setControl hdr epoch id)))
    (hact : act i env w (.setControl hdr epoch id) = some (w', pc')) : StepOk i w w' pc' := by
  have hsame : StepOk i w { w with controlMu := w.controlMu.erase id } .returned :=
    moved hcall ⟨h.server, h.downlink, h.owner⟩ (.same rfl) rfl rfl trivial
  rw [act] at hact
  split at hact
  · next sess hsess =>
      split_ifs at hact <;> cases hact
      · have hholds := (hcall.2 _ rfl).2
        have hgood := h.good_setControl (hholds (by rw [hsess]; rfl)) hsess
        have hok := h.withPeers hgood
        exact moved hcall ⟨hok.server, hok.downlink, hok.owner⟩
          (.of_session rfl rfl rfl rfl le_rfl fun _ _ _ => session_withPeers hgood) rfl rfl trivial
      · exact hsame
  · cases hact
    exact hsame

/-- With the table empty and no session about to be added, nothing depends on the epoch. -/
lemma rotate_ok {draws : List UInt32} (hcall : CallOk w i (some (.rotate draws)))
    (hidle : idle w (.rotate draws) = true)
    (hact : act i env w (.rotate draws) = some (w', pc')) : StepOk i w w' pc' := by
  obtain ⟨⟨t, hdr⟩, hrotate, hpair⟩ := Option.map_eq_some_iff.1 hact
  cases hpair
  obtain ⟨rfl, -, -, hepoch⟩ := rotateEpochHeader_spec hrotate
  obtain ⟨hempty, hreading⟩ : w.transport.peers.sessions.keys = [] ∧ w.reading = false := by
    simpa [idle] using hidle
  have hnone : ∀ epoch, w.transport.peers.sessions.lookup epoch = none := fun epoch =>
    AList.lookup_eq_none.2 (by simp [AList.mem_keys, hempty])
  refine moved hcall ⟨⟨hepoch, fun epoch sess hsess => ?_⟩, fun epoch sess hsess => ?_,
    fun epoch hsome => ?_⟩ ⟨fun _ _ => Iff.rfl, fun _ _ _ => rfl, rfl, fun hread => ?_, le_rfl,
    fun hdr epoch id _ _ hsome => ?_⟩ rfl rfl trivial
  · cases (hnone epoch).symm.trans hsess
  · cases (hnone epoch).symm.trans hsess
  · simp [hnone] at hsome
  · cases hreading.symm.trans hread
  · simp [World.session, hnone] at hsome

/-- **One step of one call that keeps to the condition.** -/
lemma act_ok (h : WorldOk w) (hcall : CallOk w i (some pc)) (hidle : idle w pc = true)
    (hact : act i env w pc = some (w', pc')) : StepOk i w w' pc' := by
  have hholds : pc.Holds w := hcall.2 pc rfl
  have hmu : pc.creates = true → w.createMu = some i := hcall.1.2
  cases pc with
  | inbound frame =>
    rw [act] at hact
    split at hact
    · cases hact
      exact moved hcall h (.same rfl) rfl rfl trivial
    · split_ifs at hact <;> cases hact <;> exact moved hcall h (.same rfl) rfl rfl trivial
  | loopback src dst kcpPayload | acceptsDst src dst kcpPayload =>
    rw [act] at hact
    split_ifs at hact <;> cases hact <;> exact moved hcall h (.same rfl) rfl rfl trivial
  | get epoch forControl =>
    rw [act] at hact
    split at hact
    · next peers sess hget =>
        cases hact
        have hgood := h.good_get hget
        exact moved hcall (h.withPeers hgood) (.withPeers hgood) rfl (creates_withSession ..)
          (holds_withSession (h.owner_lt hget))
    · cases hact
      exact moved hcall h (.same rfl) rfl rfl trivial
  | create epoch forControl =>
    rw [act] at hact
    split_ifs at hact with hfree
    cases hact
    have hnone : w.createMu = none := by simpa using hfree
    refine ⟨⟨h.server, h.downlink, h.owner⟩, ⟨fun j hj => ?_, ?_, rfl, fun _ => rfl, le_rfl,
      fun _ _ _ _ hpoints => hpoints⟩, ?_⟩
    · simp [hnone, Ne.symm hj]
    · simp [hnone]
    · exact ⟨by simp [Pc.creates], by simp [Pc.Holds]⟩
  | getAgain epoch forControl =>
    rw [act] at hact
    split at hact
    · next peers sess hget =>
        cases hact
        have hgood := h.good_get hget
        have hok := h.withPeers hgood
        exact unlocked (hmu rfl) ⟨hok.server, hok.downlink, hok.owner⟩ (creates_withSession ..) rfl
          rfl rfl le_rfl (fun _ _ _ => session_withPeers hgood)
          (holds_withSession (h.owner_lt hget))
    · cases hact
      exact moved hcall h (.same rfl) rfl rfl trivial
  | readEpoch epoch forControl =>
    cases hact
    refine ⟨⟨h.server, h.downlink, h.owner⟩, ⟨fun _ _ => Iff.rfl, fun j hj hj' => ?_, rfl,
      fun _ => rfl, le_rfl, fun _ _ _ _ hpoints => hpoints⟩, ?_⟩
    · exact absurd (Option.some.inj ((hmu rfl).symm.trans hj')) (Ne.symm hj)
    · exact ⟨by simpa [Pc.creates] using hmu rfl, by simp [Pc.Holds]⟩
  | add hdr epoch forControl => exact add_ok h hcall hact
  | control epoch id =>
    rw [act] at hact
    split_ifs at hact <;> cases hact
    · exact moved hcall h (.same rfl) rfl rfl trivial
    · exact moved hcall ⟨h.server, h.downlink, h.owner⟩ (.same rfl) rfl rfl hholds
  | readControl epoch id =>
    cases hact
    exact moved hcall h (.same rfl) rfl rfl ⟨hholds, fun _ => rfl⟩
  | setControl hdr epoch id => exact setControl_ok h hcall hact
  | restart draws | forgetEpoch draws | restartData hdr | restartControl hdr =>
    cases hact
    exact moved hcall ⟨⟨h.server.epoch, h.server.peers⟩, h.downlink, h.owner⟩ (.same rfl) rfl rfl
      trivial
  | controlHeader =>
    cases hact
    exact moved hcall h (.same rfl) rfl rfl trivial
  | rotate draws => exact rotate_ok hcall hidle hact
  | sweep =>
    cases hact
    have hgood := (h.good fun _ hk => hk).sweep peerIdleTTL env.now
    exact moved hcall (h.withPeers hgood) (.withPeers hgood) rfl rfl trivial
  | returned => cases hact

end Act

def discipline : Calls.Discipline Pc.isEntry (Calls.guarded idle act) where
  WorldOk := WorldOk
  CallOk := CallOk
  Keeps := Keeps
  entry := by
    intro w i pc hentry hcall
    have hpc : pc.creates = false ∧ pc.Holds w := by
      cases pc <;> first | exact ⟨rfl, trivial⟩ | cases hentry
    exact ⟨by simpa [hpc.1] using hcall.1, by simpa using hpc.2⟩
  others := by
    intro w w' i j pc hkeeps hj hcall
    refine ⟨(hkeeps.createMu j hj).trans hcall.1, fun pc' hpc' => ?_⟩
    obtain rfl : pc = some pc' := hpc'
    have hholds := hcall.2 pc' rfl
    cases pc' with
    | add hdr epoch forControl =>
      obtain ⟨hhdr, hreading⟩ := hholds
      refine ⟨?_, (hkeeps.reading j hj (hcall.1.2 rfl)).trans hreading⟩
      rw [hkeeps.bindingToken, hkeeps.localEpoch hreading]
      exact hhdr
    | control epoch id | readControl epoch id => exact lt_of_lt_of_le hholds hkeeps.created
    | setControl hdr epoch id =>
      exact ⟨hholds.1.trans_le hkeeps.created, hkeeps.points hdr epoch id hholds.1 hholds.2⟩
    | _ => trivial
  act := by
    intro w w' i env pc pc' hw hcall hact
    obtain ⟨hidle, hact⟩ := Calls.guarded_eq_some hact
    exact act_ok hw hcall hidle hact

/-- If the event rotates the epoch, then the peer table is empty. -/
def RotatesEmpty (s : State) : Event → Prop
  | .begin _ => True
  | .step i _ => ∀ draws, s.calls[i]? = some (.rotate draws) →
      (s.world.transport.rotateEpochHeader draws).isSome →
        s.world.transport.peers.sessions.keys = []

/-- A session in the table cannot stamp both the old and the new epoch. -/
lemma rotatesEmpty_of_downlink {s : State} {e : Event} (h : s.world.transport.Downlink)
    (h' : (step s e).world.transport.Downlink) : RotatesEmpty s e := by
  cases e with
  | begin pc => trivial
  | step i env =>
    intro draws hpc hsome
    obtain ⟨⟨t, hdr⟩, hrotate⟩ := Option.isSome_iff_exists.1 hsome
    rw [step, Calls.step_of_call hpc, act, hrotate] at h'
    obtain ⟨rfl, -, hne, -⟩ := rotateEpochHeader_spec hrotate
    refine List.eq_nil_iff_forall_not_mem.2 fun epoch hepoch => ?_
    obtain ⟨sess, hsess⟩ := Option.isSome_iff_exists.1 (AList.lookup_isSome.2 hepoch)
    exact hne ((h' epoch sess hsess).1.symm.trans (h epoch sess hsess).1)

/-- **Under which identity a server is heard**, in every interleaving of inbound frames, restarts
and sweeps. -/
theorem downlink_of_idle (token draw : UInt32) (events : List Event) :
    (Along step (Calls.Admits idle) (init token draw) events →
      (run step (init token draw) events).world.transport.Downlink ∧
        (run step (init token draw) events).world.transport.Heard) ∧
    (Along step (fun s e => (step s e).world.transport.Downlink) (init token draw) events →
      Along step RotatesEmpty (init token draw) events) := by
  have hserver : (init token draw).world.transport.Downlink := PeerTable.all_empty
  refine ⟨fun hidle => ?_, fun hdown => ?_⟩
  · rw [step, Calls.run_guarded hidle]
    have hok := (discipline.ok_run (w := (init token draw).world)
      ⟨⟨dataEpoch_randomEpoch draw, PeerTable.all_empty⟩, hserver, ?_⟩ (fun i => ?_) events).world
    · exact ⟨hok.downlink, hok.server.heard hok.downlink⟩
    · simp [init, server, StreamTransport.new, connect, PeerTable.empty]
    · simp [discipline, CallOk, init]
  · generalize init token draw = s at hserver hdown
    induction events generalizing s with
    | nil => trivial
    | cons e events ih =>
      exact ⟨rotatesEmpty_of_downlink hserver hdown.1, ih (step s e) hdown.1 hdown.2⟩

def call (pc : Pc) (i steps : ℕ) : List Event :=
  .begin pc :: List.replicate steps (.step i ⟨1, true, true, id⟩)

def wire : Bytes :=
  let packet : Bytes := kcpConvID ++ List.replicate 20 5
  packet ++ bePut 4 (crc32c packet).toNat

def hello : Bytes := buildEpochHeader 7 (20 ||| controlEpochFlag) ++ wire

/-- A server that reconnects before it hears anybody. -/
theorem downlink_of_idle_reconnected :
    let events := call (.restart [2]) 0 6 ++ call (.inbound hello) 1 11
    let t := (run step (init 7 1) events).world.transport
    t.localPeerID = "00000002" ∧ t.peers.sessions.keys = [20] ∧ t.Downlink :=
  ⟨by decide +kernel, by decide +kernel, ((downlink_of_idle 7 1 _).1 (by decide +kernel)).1⟩

/-- A client with epoch 20 greets the server, which then reconnects.  The session stamps epoch 1,
the server announces epoch 2, and the client that confirms it discards the session's data. -/
theorem downlink_stale :
    let events := call (.inbound hello) 0 11 ++ call (.restart [2]) 1 6
    let t := (run step (init 7 1) events).world.transport
    let client := (StreamTransport.new false 7 20).connect
    let env : Surroundings := ⟨1, true, true, id⟩
    t.localPeerID = "00000002" ∧
    (t.peers.sessions.lookup 20).map (fun sess => (sess.data, sess.control)) =
      some (⟨7, 1, 20⟩, some ⟨7, 1 ||| controlEpochFlag, 20 ||| controlEpochFlag⟩) ∧
    ¬t.Downlink ∧
    (client.confirmPeer env t.localPeerID).toOption.map (fun confirmed =>
      (confirmed.handleIncomingFrame env ((⟨7, 1, 20⟩ : EpochHeader).bytes ++ wire)).2) =
        some [] := by
  intro events t client env
  have hsession : (t.peers.sessions.lookup 20).map (fun sess => (sess.data, sess.control)) =
      some (⟨7, 1, 20⟩, some ⟨7, 1 ||| controlEpochFlag, 20 ||| controlEpochFlag⟩) := by
    decide +kernel
  have hepoch : t.localEpoch = 2 := by decide +kernel
  refine ⟨by decide +kernel, hsession, fun hdown => ?_, by decide +kernel⟩
  obtain ⟨sess, hsess, hheaders⟩ := Option.map_eq_some_iff.mp hsession
  have hsrc := (hdown 20 sess hsess).1
  rw [(Prod.mk.inj hheaders).1, hepoch] at hsrc
  exact absurd hsrc (by decide)

/-- A rotation between the reading of the epoch and the adding of the session finds the table
empty, and leaves a session that stamps the old epoch all the same. -/
example :
    let events := call (.inbound hello) 0 7 ++ call (.restart [2]) 1 6 ++
      (call (.inbound hello) 0 4).tail
    let t := (run step (init 7 1) events).world.transport
    t.localEpoch = 2 ∧ (t.peers.sessions.lookup 20).map (·.data.src) = some 1 := by
  decide +kernel

end Downlink

end OlcRtc
