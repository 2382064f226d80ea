import OlcRtc.Lib.Steps
import OlcRtc.Vp8.Transport
import Mathlib.Data.Fin.VecNotation
import Mathlib.Logic.Function.Basic

/-!
# Many participants on one track

A room has one server and any number of clients, all with the same binding token, and everybody
hears everything: the SFU forwards every frame of every participant to all the others.  What keeps
their KCP sessions apart are the epochs in the headers and the filters of `handleIncomingFrame`.

Participant 0 is the server.  A participant emits frames under headers that its runtimes have
stamped at some time: a frame may wait in a queue, be held back by the writer or be batched behind
another one while the header changes, so any header the participant ever had may be on the track.
Any participant may receive any emitted frame, at any time and as often as the network likes.

A client confirms the identity that it is told in the handshake, and the handshake runs over its
control runtime.  So all that is assumed about `ConfirmPeer` is that the peer id it is called with
was announced by *somebody* whose packets have entered the client's control runtime.  Its three
effects are seen by other goroutines one after the other and are steps of their own.

**`room_isolated`** says that the sessions stay apart: no client's packet enters a runtime of
another client, and every runtime gets packets of its own peer only.
-/

namespace OlcRtc

/-! ## The room -/

structure Emission (n : ℕ) where
  sender : Fin (n + 1)
  hdr : EpochHeader
  payload : Bytes

/-- A packet that entered a KCP runtime of `receiver`; `confirmed` is the peer the receiver had
confirmed at that time. -/
structure Delivery (n : ℕ) where
  sender : Fin (n + 1)
  receiver : Fin (n + 1)
  hdr : EpochHeader
  route : Route
  packet : Bytes
  confirmed : Option UInt32

/-- The participants, the headers their runtimes have stamped, the frames emitted and the packets
delivered so far. -/
structure Room (n : ℕ) where
  parts : Fin (n + 1) → StreamTransport
  stamped : Fin (n + 1) → List EpochHeader
  ether : List (Emission n)
  log : List (Delivery n)

/-- The headers a transport may put on the track now: those of its runtimes and that of its
keepalives. -/
def StreamTransport.headers (t : StreamTransport) : List EpochHeader :=
  t.epochHeader :: (t.data.toList ++ t.control.toList ++
    t.peers.sessions.entries.flatMap fun e => e.2.data :: e.2.control.toList)

def StreamTransport.confirmedPeer (t : StreamTransport) : Option UInt32 :=
  if t.peerConfirmed then some t.peerEpoch else none

inductive RoomEvent (n : ℕ)
  | emit (i : Fin (n + 1)) (hdr : EpochHeader) (payload : Bytes)
  | receive (j : Fin (n + 1)) (k : ℕ) (env : Surroundings)
  | confirmHeader (i : Fin (n + 1)) (peerID : String)
  | confirmEpoch (i : Fin (n + 1)) (peerID : String) (env : Surroundings)
  | confirmDone (i : Fin (n + 1)) (peerID : String)
  | controlSendTo (peerID : String) (env : Surroundings)
  | sweep (now : ℕ)

namespace Room

variable {n : ℕ}

def init (token : UInt32) (draw : Fin (n + 1) → UInt32) : Room n where
  parts i := (StreamTransport.new (i = 0) token (draw i)).connect
  stamped i := ((StreamTransport.new (i = 0) token (draw i)).connect).headers
  ether := []
  log := []

/-- A participant changes, and its new headers count as stamped. -/
def update (s : Room n) (i : Fin (n + 1)) (t : StreamTransport) : Room n :=
  { s with
    parts := Function.update s.parts i t
    stamped := Function.update s.stamped i (s.stamped i ++ t.headers) }

/-- A part of `ConfirmPeer`, once the peer id has passed its check. -/
def confirm (s : Room n) (i : Fin (n + 1)) (peerID : String)
    (f : StreamTransport → UInt32 → StreamTransport) : Room n :=
  match StreamTransport.checkPeerID peerID with
  | .error _ => s
  | .ok epoch => s.update i (f (s.parts i) epoch)

def receive (s : Room n) (j : Fin (n + 1)) (e : Emission n) (env : Surroundings) : Room n :=
  let handled := (s.parts j).handleIncomingFrame env (e.hdr.bytes ++ e.payload)
  { s.update j handled.1 with
    log := s.log ++ handled.2.map fun out =>
      ⟨e.sender, j, e.hdr, out.1, out.2, (s.parts j).confirmedPeer⟩ }

def step (s : Room n) : RoomEvent n → Room n
  | .emit i hdr payload => { s with ether := s.ether ++ [⟨i, hdr, payload⟩] }
  | .receive j k env =>
    match s.ether[k]? with
    | none => s
    | some e => s.receive j e env
  | .confirmHeader i peerID => s.confirm i peerID StreamTransport.confirmHeader
  | .confirmEpoch i peerID env => s.confirm i peerID fun t => t.confirmEpoch env
  | .confirmDone i peerID => s.confirm i peerID fun t _ => t.confirmDone
  | .controlSendTo peerID env =>
    match parsePeerID peerID with
    | none => s
    | some epoch => s.update 0 ((s.parts 0).peerControlFor env epoch).1
  | .sweep now => s.update 0 { s.parts 0 with peers := (s.parts 0).peers.sweep peerIdleTTL now }

/-- Somebody whose packets have entered the control runtime of `i` calls itself `peerID`. -/
def Announced (s : Room n) (i : Fin (n + 1)) (peerID : String) : Prop :=
  ∃ d ∈ s.log, d.receiver = i ∧ d.route = .control ∧ (s.parts d.sender).localPeerID = peerID

/-- A client confirms a peer id it was told. -/
def Told (s : Room n) (i : Fin (n + 1)) (peerID : String) : Prop := i ≠ 0 ∧ s.Announced i peerID

def Ok (s : Room n) : RoomEvent n → Prop
  | .emit i hdr _ => hdr ∈ s.stamped i
  | .confirmHeader i peerID => s.Told i peerID
  | .confirmEpoch i peerID _ => s.Told i peerID
  | .confirmDone i peerID => s.Told i peerID
  | _ => True

instance (s : Room n) (i : Fin (n + 1)) (peerID : String) : Decidable (s.Told i peerID) :=
  inferInstanceAs (Decidable (i ≠ 0 ∧ ∃ d ∈ s.log, d.receiver = i ∧ d.route = .control ∧
    (s.parts d.sender).localPeerID = peerID))

instance (s : Room n) : ∀ e, Decidable (s.Ok e)
  | .emit i hdr _ => inferInstanceAs (Decidable (hdr ∈ s.stamped i))
  | .confirmHeader i peerID => inferInstanceAs (Decidable (s.Told i peerID))
  | .confirmEpoch i peerID _ => inferInstanceAs (Decidable (s.Told i peerID))
  | .confirmDone i peerID => inferInstanceAs (Decidable (s.Told i peerID))
  | .receive .. => inferInstanceAs (Decidable True)
  | .controlSendTo .. => inferInstanceAs (Decidable True)
  | .sweep .. => inferInstanceAs (Decidable True)

end Room

/-! ## Isolation -/

/-- What isolation says about one packet; `epoch` are the data epochs of the participants. -/
structure Isolated {n : ℕ} (epoch : Fin (n + 1) → UInt32) (d : Delivery n) : Prop where
  fromServer : d.receiver ≠ 0 → d.sender = 0
  route : match d.route with
    | .data => d.receiver ≠ 0 ∧ d.confirmed = some d.hdr.src ∧
        (d.hdr.dst = 0 ∨ d.hdr.dst = epoch d.receiver ∨
          d.hdr.dst = epoch d.receiver ||| controlEpochFlag)
    | .control => d.receiver ≠ 0 ∧ d.hdr.dst = epoch d.receiver ||| controlEpochFlag
    | .peerData e => d.receiver = 0 ∧ d.hdr.src = e
    | .peerControl e => d.receiver = 0 ∧ d.hdr.src = e ||| controlEpochFlag

section

variable {n : ℕ} {token : UInt32} {epoch : Fin (n + 1) → UInt32}

/-- The headers a participant can have: its own epoch as source, and for a client a destination
that is nobody in particular or the server. -/
structure Belongs (token : UInt32) (epoch : Fin (n + 1) → UInt32) (i : Fin (n + 1))
    (hdr : EpochHeader) : Prop where
  token : hdr.token = token
  src : hdr.src = epoch i ∨ hdr.src = epoch i ||| controlEpochFlag
  dst : i ≠ 0 → hdr.dst = 0 ∨ hdr.dst = epoch 0

def SessionBelongs (token : UInt32) (epoch : Fin (n + 1) → UInt32) (i : Fin (n + 1)) (_ : UInt32)
    (sess : PeerSession) : Prop :=
  Belongs token epoch i sess.data ∧ ∀ hdr ∈ sess.control, Belongs token epoch i hdr

structure PartOk (token : UInt32) (epoch : Fin (n + 1) → UInt32) (i : Fin (n + 1))
    (t : StreamTransport) : Prop where
  serverMode : t.serverMode = decide (i = 0)
  bindingToken : t.bindingToken = token
  localEpoch : t.localEpoch = epoch i
  peerEpoch : t.peerEpoch = 0 ∨ t.peerEpoch = epoch 0
  data : ∀ hdr ∈ t.data, Belongs token epoch i hdr
  control : ∀ hdr ∈ t.control, Belongs token epoch i hdr
  peers : t.peers.All (SessionBelongs token epoch i)
  client : i ≠ 0 → t.peers = PeerTable.empty

lemma PartOk.epochHeader {i : Fin (n + 1)} {t : StreamTransport} (h : PartOk token epoch i t) :
    Belongs token epoch i t.epochHeader :=
  ⟨h.bindingToken, Or.inl h.localEpoch, fun _ => Or.inl rfl⟩

lemma PartOk.headers {i : Fin (n + 1)} {t : StreamTransport} (h : PartOk token epoch i t) :
    ∀ hdr ∈ t.headers, Belongs token epoch i hdr := by
  intro hdr hmem
  simp only [StreamTransport.headers, List.mem_cons, List.mem_append, Option.mem_toList,
    List.mem_flatMap] at hmem
  rcases hmem with rfl | (hdata | hcontrol) | ⟨e, he, hsess⟩
  · exact h.epochHeader
  · exact h.data hdr hdata
  · exact h.control hdr hcontrol
  · have hbelongs := h.peers e.1 e.2 (AList.mem_lookup_iff.mpr he)
    rcases hsess with rfl | hsess
    · exact hbelongs.1
    · exact hbelongs.2 hdr hsess

lemma stable_true (token localEpoch : UInt32) :
    StreamTransport.Stable (fun _ _ => True) token localEpoch :=
  ⟨fun _ _ _ => Iff.rfl, fun _ _ => trivial, fun _ _ _ => trivial⟩

lemma stable_sessionBelongs (token : UInt32) (epoch : Fin (n + 1) → UInt32) :
    StreamTransport.Stable (SessionBelongs token epoch 0) token (epoch 0) where
  timeless _ _ _ := Iff.rfl
  fresh e now := ⟨⟨rfl, Or.inl rfl, fun h => absurd rfl h⟩, by simp⟩
  control e sess h := by
    refine ⟨h.1, fun hdr hhdr => ?_⟩
    obtain rfl := Option.some.inj hhdr
    exact ⟨rfl, Or.inr rfl, fun h => absurd rfl h⟩

lemma PartOk.receive {i : Fin (n + 1)} {t : StreamTransport} (h : PartOk token epoch i t)
    (env : Surroundings) (frame : Bytes) :
    PartOk token epoch i (t.handleIncomingFrame env frame).1 := by
  have hsame := (t.handleIncomingFrame_spec (stable_true _ _) (fun _ _ _ => trivial) env frame).1
  have hpeers : (t.handleIncomingFrame env frame).1.peers.All (SessionBelongs token epoch i) ∧
      (i ≠ 0 → (t.handleIncomingFrame env frame).1.peers = PeerTable.empty) := by
    by_cases hi : i = 0
    · subst hi
      obtain rfl := h.bindingToken
      have hstable := stable_sessionBelongs t.bindingToken epoch
      rw [← h.localEpoch] at hstable
      exact ⟨(t.handleIncomingFrame_spec hstable h.peers env frame).2.1,
        fun hne => absurd rfl hne⟩
    · have hmode : t.serverMode = false := by rw [h.serverMode]; simp [hi]
      rw [t.handleIncomingFrame_client hmode]
      exact ⟨h.peers, h.client⟩
  exact ⟨hsame.serverMode.trans h.serverMode, hsame.bindingToken.trans h.bindingToken,
    hsame.localEpoch.trans h.localEpoch, by rw [hsame.peerEpoch]; exact h.peerEpoch,
    by rw [hsame.data]; exact h.data, by rw [hsame.control]; exact h.control, hpeers.1, hpeers.2⟩

/-- **One packet.**  A packet that gets through the filters of a participant is isolated. -/
lemma isolated_of_admits (hepoch : ∀ i, DataEpoch (epoch i)) (hinj : Function.Injective epoch)
    {i j : Fin (n + 1)} {t : StreamTransport} {hdr : EpochHeader} {route : Route} {packet : Bytes}
    (ht : PartOk token epoch j t) (hhdr : Belongs token epoch i hdr)
    (hadmits : t.Admits hdr.src hdr.dst route) :
    Isolated epoch ⟨i, j, hdr, route, packet, t.confirmedPeer⟩ := by
  have hflag : ∀ i, (epoch i ||| controlEpochFlag).toNat = 2 ^ 31 + (epoch i).toNat :=
    fun i => toNat_or_controlEpochFlag (hepoch i).lt
  have hmode := ht.serverMode
  cases route with
  | data =>
    obtain ⟨hclient, hconfirmed, hsrc, hclear, hdst⟩ := hadmits
    have hj : j ≠ 0 := by rintro rfl; simp [hclient] at hmode
    refine ⟨fun _ => ?_, hj, by simp [StreamTransport.confirmedPeer, hconfirmed, hsrc], ?_⟩
    · -- the source is the epoch of the sender, and the only epoch confirmed is the server's
      have hne : hdr.src ≠ epoch i ||| controlEpochFlag := by
        intro hcontrol
        rw [hcontrol] at hclear
        refine (and_controlEpochFlag_ne_zero_iff _).mpr ?_ hclear
        rw [hflag i]
        omega
      have hsender : hdr.src = epoch i := hhdr.src.resolve_right hne
      rcases ht.peerEpoch with hzero | hserver
      · have hpos := (hepoch i).pos
        rw [← hsender, hsrc, hzero] at hpos
        exact absurd hpos (by decide)
      · exact hinj (by rw [← hsender, hsrc, hserver])
    · simp only [StreamTransport.acceptsDst, Bool.or_eq_true, beq_iff_eq, ht.localEpoch] at hdst
      tauto
  | control =>
    obtain ⟨hclient, -, hdst⟩ := hadmits
    have hj : j ≠ 0 := by rintro rfl; simp [hclient] at hmode
    have hcontrol : hdr.dst = epoch j ||| controlEpochFlag := by
      rw [hdst, StreamTransport.controlEpochValue, ht.localEpoch]
    refine ⟨fun _ => ?_, hj, hcontrol⟩
    -- a client's frames are addressed to nobody or to the server's data epoch
    by_contra hi
    have hlarge : 2 ^ 31 ≤ hdr.dst.toNat := by
      rw [hcontrol, hflag j]
      omega
    rcases hhdr.dst hi with hzero | hserver
    · grind
    · grind
  | peerData e =>
    obtain ⟨hserver, hsrc⟩ := hadmits
    have hj : j = 0 := by simpa [hserver] using hmode
    exact ⟨fun hne => absurd hj hne, hj, hsrc⟩
  | peerControl e =>
    obtain ⟨hserver, hsrc⟩ := hadmits
    have hj : j = 0 := by simpa [hserver] using hmode
    exact ⟨fun hne => absurd hj hne, hj, hsrc⟩

lemma PartOk.controlSendTo {t : StreamTransport} (h : PartOk token epoch 0 t) (env : Surroundings)
    (e : UInt32) : PartOk token epoch 0 (t.peerControlFor env e).1 := by
  obtain ⟨peers, hpeers⟩ := t.peerControlFor_eq env e
  obtain rfl := h.bindingToken
  have hstable := stable_sessionBelongs t.bindingToken epoch
  rw [← h.localEpoch] at hstable
  have hall := StreamTransport.peerControlFor_all hstable h.peers env e
  rw [hpeers] at hall ⊢
  exact { h with peers := hall, client := fun hne => absurd rfl hne }

/-! ## Whole runs -/

structure Room.Inv (token : UInt32) (epoch : Fin (n + 1) → UInt32) (s : Room n) : Prop where
  parts : ∀ i, PartOk token epoch i (s.parts i)
  stamped : ∀ i, ∀ hdr ∈ s.stamped i, Belongs token epoch i hdr
  ether : ∀ e ∈ s.ether, Belongs token epoch e.sender e.hdr
  log : ∀ d ∈ s.log, Isolated epoch d

namespace Room

lemma inv_init (token : UInt32) (draw : Fin (n + 1) → UInt32) :
    (init token draw).Inv token fun i => randomEpoch (draw i) := by
  have hparts : ∀ i, PartOk token (fun i => randomEpoch (draw i)) i
      ((StreamTransport.new (i = 0) token (draw i)).connect) := by
    intro i
    refine ⟨rfl, rfl, rfl, Or.inl rfl, fun hdr hhdr => ?_, fun hdr hhdr => ?_, ?_, fun _ => rfl⟩
    · obtain rfl := Option.some.inj hhdr
      exact ⟨rfl, Or.inl rfl, fun _ => Or.inl rfl⟩
    · obtain rfl := Option.some.inj hhdr
      exact ⟨rfl, Or.inr rfl, fun _ => Or.inl rfl⟩
    · exact PeerTable.all_empty
  exact ⟨hparts, fun i => (hparts i).headers, by simp [init], by simp [init]⟩

variable {s : Room n}

lemma Inv.update (h : s.Inv token epoch) {i : Fin (n + 1)} {t : StreamTransport}
    (ht : PartOk token epoch i t) : (s.update i t).Inv token epoch := by
  refine ⟨fun j => ?_, fun j => ?_, h.ether, h.log⟩
  · by_cases hj : j = i
    · subst hj
      simpa [Room.update] using ht
    · simpa [Room.update, hj] using h.parts j
  · by_cases hj : j = i
    · subst hj
      intro hdr hhdr
      simp only [Room.update, Function.update_self, List.mem_append] at hhdr
      rcases hhdr with hhdr | hhdr
      · exact h.stamped j hdr hhdr
      · exact ht.headers hdr hhdr
    · simpa [Room.update, hj] using h.stamped j

lemma Inv.told (h : s.Inv token epoch) {i : Fin (n + 1)} {peerID : String}
    (htold : s.Told i peerID) : peerID = formatPeerID (epoch 0) := by
  obtain ⟨hi, d, hd, hreceiver, -, hid⟩ := htold
  have hsender : d.sender = 0 := (h.log d hd).fromServer (by rw [hreceiver]; exact hi)
  rw [← hid, hsender, StreamTransport.localPeerID, (h.parts 0).localEpoch]

lemma Inv.confirm (h : s.Inv token epoch) {i : Fin (n + 1)} {peerID : String}
    (htold : s.Told i peerID) {f : StreamTransport → UInt32 → StreamTransport}
    (hf : PartOk token epoch i (f (s.parts i) (epoch 0))) :
    (s.confirm i peerID f).Inv token epoch := by
  unfold Room.confirm
  have hcheck : StreamTransport.checkPeerID peerID = .error (.invalidPeerID (epoch 0)) ∨
      StreamTransport.checkPeerID peerID = .ok (epoch 0) := by
    rw [h.told htold, StreamTransport.checkPeerID, parsePeerID_formatPeerID]
    simp only
    split_ifs
    · exact Or.inl rfl
    · exact Or.inr rfl
  rcases hcheck with hcheck | hcheck <;> rw [hcheck]
  · exact h
  · exact h.update hf

lemma Inv.receive (h : s.Inv token epoch) (hepoch : ∀ i, DataEpoch (epoch i))
    (hinj : Function.Injective epoch) {e : Emission n} (he : e ∈ s.ether) (j : Fin (n + 1))
    (env : Surroundings) : (s.receive j e env).Inv token epoch := by
  have hj := h.parts j
  have hupdate := h.update (hj.receive env (e.hdr.bytes ++ e.payload))
  refine ⟨hupdate.parts, hupdate.stamped, h.ether, fun d hd => ?_⟩
  rcases List.mem_append.mp hd with hd | hd
  · exact h.log d hd
  · obtain ⟨⟨route, packet⟩, hmem, rfl⟩ := List.mem_map.mp hd
    obtain ⟨-, -, hroutes⟩ := (s.parts j).handleIncomingFrame_spec (stable_true _ _)
      (fun _ _ _ => trivial) env (e.hdr.bytes ++ e.payload)
    obtain ⟨src, dst, hparse, hadmits⟩ := hroutes route packet hmem
    rw [parseEpochHeader_bytes] at hparse
    simp only [Option.some.injEq, Prod.mk.injEq] at hparse
    rw [← hparse.2.1, ← hparse.2.2] at hadmits
    exact isolated_of_admits hepoch hinj hj (h.ether e he) hadmits

/-- **One step of the room.** -/
lemma Inv.step (h : s.Inv token epoch) (hepoch : ∀ i, DataEpoch (epoch i))
    (hinj : Function.Injective epoch) {e : RoomEvent n} (hok : s.Ok e) :
    (s.step e).Inv token epoch := by
  cases e with
  | emit i hdr payload =>
    refine ⟨h.parts, h.stamped, fun em hem => ?_, h.log⟩
    rcases List.mem_append.mp hem with hem | hem
    · exact h.ether em hem
    · rw [List.mem_singleton.mp hem]
      exact h.stamped i hdr hok
  | receive j k env =>
    simp only [Room.step]
    split
    · exact h
    · next e he => exact h.receive hepoch hinj (List.mem_of_getElem? he) j env
  | confirmHeader i peerID =>
    have hi := h.parts i
    refine h.confirm (f := StreamTransport.confirmHeader) hok
      { hi with data := fun hdr hhdr => ?_ }
    obtain ⟨old, -, rfl⟩ := Option.map_eq_some_iff.mp hhdr
    exact ⟨hi.bindingToken, Or.inl hi.localEpoch, fun _ => Or.inr rfl⟩
  | confirmEpoch i peerID env =>
    exact h.confirm (f := fun t => t.confirmEpoch env) hok
      { h.parts i with peerEpoch := Or.inr rfl }
  | confirmDone i peerID =>
    have hi := h.parts i
    exact h.confirm (f := fun t _ => t.confirmDone) hok
      ⟨hi.serverMode, hi.bindingToken, hi.localEpoch, hi.peerEpoch, hi.data, hi.control, hi.peers,
        hi.client⟩
  | controlSendTo peerID env =>
    simp only [Room.step]
    split
    · exact h
    · next e _ => exact h.update ((h.parts 0).controlSendTo env e)
  | sweep now =>
    have h0 := h.parts 0
    exact h.update { h0 with
      peers := h0.peers.sweep peerIdleTTL now
      client := fun hne => absurd rfl hne }

/-- **Isolation on a broadcast track.**  One server, any number of clients with pairwise distinct
data epochs, and every interleaving of sends, receptions, handshakes and confirmations: a packet
that enters a runtime of a client comes from the server; a client's data runtime gets packets only
from the epoch it had confirmed and only with destination 0 or one of its own epochs; its control
runtime gets packets only when they are addressed to its control epoch; and the server's session of
an epoch gets data only from that epoch and control packets only from that epoch with the control
flag. -/
theorem room_isolated (token : UInt32) (draw : Fin (n + 1) → UInt32)
    (hdistinct : Function.Injective fun i => randomEpoch (draw i)) (events : List (RoomEvent n))
    (hok : Along Room.step Room.Ok (init token draw) events) :
    ∀ d ∈ (run Room.step (init token draw) events).log,
      Isolated (fun i => randomEpoch (draw i)) d := by
  have hepoch : ∀ i, DataEpoch (randomEpoch (draw i)) := fun i => dataEpoch_randomEpoch (draw i)
  exact (run_invariant Room.step (fun _ _ hs he => hs.step hepoch hdistinct he)
    (inv_init token draw) hok).log

/-- A server and two clients.  The first client greets, the server answers, the client confirms the
server's identity, and the server sends data to both; everybody hears every frame.  The server's
data for the first client enters the data runtime of that client alone. -/
theorem room_isolated_twoClients :
    let draw : Fin 3 → UInt32 := ![10, 20, 30]
    let flag := controlEpochFlag
    let packet (k : UInt8) : Bytes := kcpConvID ++ List.replicate 20 k
    let wire (k : UInt8) : Bytes := packet k ++ bePut 4 (crc32c (packet k)).toNat
    let env : Surroundings := ⟨1, true, true, id⟩
    let events : List (RoomEvent 2) :=
      [.emit 1 ⟨7, 20 ||| flag, 0⟩ (wire 1), .receive 0 0 env, .receive 2 0 env,
        .emit 0 ⟨7, 10 ||| flag, 20 ||| flag⟩ (wire 2), .receive 1 1 env, .receive 2 1 env,
        .confirmHeader 1 "0000000a", .confirmEpoch 1 "0000000a" env, .confirmDone 1 "0000000a",
        .emit 1 ⟨7, 20, 10⟩ (wire 3), .receive 0 2 env, .receive 2 2 env,
        .emit 0 ⟨7, 10, 20⟩ (wire 4), .receive 1 3 env, .receive 2 3 env]
    let log := (run Room.step (init 7 draw) events).log
    log.map (fun d => (d.sender, d.receiver, d.route, d.packet)) =
      [(1, 0, .peerControl 20, packet 1), (0, 1, .control, packet 2),
        (1, 0, .peerData 20, packet 3), (0, 1, .data, packet 4)] ∧
    ∀ d ∈ log, Isolated (fun i => randomEpoch (draw i)) d := by
  intro draw flag packet wire env events log
  have hok : Along Room.step Room.Ok (init 7 draw) events := by decide +kernel
  have hdistinct : ∀ i j, randomEpoch (draw i) = randomEpoch (draw j) → i = j := by decide +kernel
  exact ⟨by decide +kernel, room_isolated 7 draw (fun i j => hdistinct i j) events hok⟩

end Room

end

end OlcRtc
