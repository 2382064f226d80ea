import OlcRtc.LegacyVp8.Writer
import OlcRtc.Lib.Calls

/-!
# The peer of the legacy transport

A client of `legacyvp8channel` has one peer, the server, and shares the room with other clients,
whose frames carry the same binding token.  The comment on `onData` says how the peer is found: its
epoch is confirmed on the first successful KCP delivery, so that the transport latches on to the
server, which completes the handshake, rather than on to a client whose frames arrive first.

But `handleFirstPeer` confirms the epoch of the first frame, keepalive or not.  There is a goroutine
for every track, and none of them takes a lock: `act` has a step for every access to a field.  What
KCP makes of the packets is left open: a runtime may hand up a message of any epoch whose packets it
has been given, also when it has been closed.

* `heard`, `late` and `delivered` are not in the source: what has happened since the last reset,
  namely a frame with the token and an epoch other than the own one, a message of an earlier
  session, and the epochs of the messages of this one.
* `busy` is not in the source either: the call that has got past the checks of a frame, or is
  resetting the session.

**`latched_iff`**: while such calls do not overlap (`alone`), the peer is the one that has delivered
exactly if there has been no frame and no late message since the last reset, or a message.
`keepalive_confirms` is a client that latches on to another one.
-/

namespace OlcRtc.Legacy

/-- `parseEpochHeader`: token and epoch, or `none` for a frame that is too short or fails its
checksum. -/
def parseEpochHeader (frame : Bytes) : Option (UInt32 × UInt32) :=
  if frame.length < epochHdrLen then none
  else
    let token := getUint32 frame 20 24
    let epoch := getUint32 frame 24 28
    if getUint32 frame 28 32 = epochCRC token epoch then some (token, epoch) else none

/-- A KCP runtime: the session it was started in, and the epochs of the packets it has been
given. -/
structure Runtime where
  session : ℕ
  fed : List UInt32 := []

/-- The transport of a client, as far as its peer is concerned. -/
structure Latch where
  bindingToken : UInt32
  localEpoch : UInt32
  peerRestartGrace : ℤ
  peerEpoch : UInt32 := 0
  peerConfirmed : Bool := false
  lastPeerFrameNano : ℤ := 0
  peerRestarting : Bool := false
  connected : Bool := false
  kcp : Option ℕ := none
  runtimes : List Runtime := []
  session : ℕ := 0
  heard : Bool := false
  late : Bool := false
  delivered : List UInt32 := []
  busy : Option ℕ := none

namespace Latch

/-- `newStreamTransport`. -/
def new (bindingToken localEpoch : UInt32) (peerRestartGrace : ℤ) : Latch where
  bindingToken := bindingToken
  localEpoch := localEpoch
  peerRestartGrace := peerRestartGrace

/-- The epochs of the packets that a runtime has been given. -/
def fed (l : Latch) (rt : ℕ) : List UInt32 := l.runtimes[rt]?.elim [] Runtime.fed

def current (l : Latch) (rt : ℕ) : Bool := l.runtimes[rt]?.any fun r => r.session = l.session

/-- `p.kcp = rt`, if `startKCP` succeeds. -/
def install (l : Latch) (starts : Bool) : Latch :=
  if starts then
    { l with kcp := some l.runtimes.length, runtimes := l.runtimes ++ [⟨l.session, []⟩] }
  else l

/-- `deliverKCPPayload`. -/
def deliver (l : Latch) (rt : ℕ) (epoch : UInt32) : Latch :=
  { l with runtimes := l.runtimes.modify rt fun r => { r with fed := epoch :: r.fed } }

def leave (l : Latch) : Latch := { l with busy := none }

/-- A confirmed peer has delivered a message in this session. -/
def Latched (l : Latch) : Prop := l.peerConfirmed = true → l.peerEpoch ∈ l.delivered

/-- Where a call stands: `handleIncomingFrame` with `handleFirstPeer` and `maybePeerRestart`,
`onData` for a message of a runtime, `Connect`, or `ResetPeer` and `resetKCP`. -/
inductive Pc
  | frame (frame : Bytes)
  | check (peerEpoch : UInt32) (kcpPayload : Bytes)
  | storeEpoch (peerEpoch : UInt32) (kcpPayload : Bytes)
  | confirm (peerEpoch : UInt32) (kcpPayload : Bytes)
  | stampFirst (peerEpoch : UInt32) (kcpPayload : Bytes)
  | clearRestarting (peerEpoch : UInt32) (kcpPayload : Bytes)
  | compare (peerEpoch : UInt32) (kcpPayload : Bytes)
  | stamp (peerEpoch : UInt32) (kcpPayload : Bytes)
  | maybePeerRestart
  | swapRestarting
  | readRuntime (peerEpoch : UInt32) (kcpPayload : Bytes)
  | deliver (rt : ℕ) (peerEpoch : UInt32)
  | onData (rt : ℕ) (epoch : UInt32)
  | inner (rt : ℕ) (epoch : UInt32)
  | connect (starts : Bool)
  | reset (next : UInt32) (starts : Bool)
  | forgetEpoch (next : UInt32) (starts : Bool)
  | rotate (next : UInt32) (starts : Bool)
  | takeDown (starts : Bool)
  | install (starts : Bool)
  | returned
deriving DecidableEq

def Pc.isEntry : Pc → Bool
  | frame _ | onData _ _ | connect _ | reset _ _ => true
  | _ => false

def act (i : ℕ) (now : ℤ) (l : Latch) : Pc → Option (Latch × Pc)
  | .frame frame =>
    match parseEpochHeader frame with
    | none => some (l, .returned)
    | some (token, peerEpoch) =>
      if token ≠ l.bindingToken ∨ peerEpoch = l.localEpoch then some (l, .returned)
      else some ({ l with heard := true, busy := some i }, .check peerEpoch (packetOf frame))
  | .check peerEpoch kcpPayload =>
    if l.peerConfirmed then some (l, .compare peerEpoch kcpPayload)
    else some (l, .storeEpoch peerEpoch kcpPayload)
  | .storeEpoch peerEpoch kcpPayload =>
    some ({ l with peerEpoch := peerEpoch }, .confirm peerEpoch kcpPayload)
  | .confirm peerEpoch kcpPayload =>
    some ({ l with peerConfirmed := true }, .stampFirst peerEpoch kcpPayload)
  | .stampFirst peerEpoch kcpPayload =>
    some ({ l with lastPeerFrameNano := now }, .clearRestarting peerEpoch kcpPayload)
  | .clearRestarting peerEpoch kcpPayload =>
    some ({ l with peerRestarting := false }, .readRuntime peerEpoch kcpPayload)
  | .compare peerEpoch kcpPayload =>
    if l.peerEpoch = peerEpoch then some (l, .stamp peerEpoch kcpPayload)
    else some (l, .maybePeerRestart)
  | .stamp peerEpoch kcpPayload =>
    some ({ l with lastPeerFrameNano := now }, .readRuntime peerEpoch kcpPayload)
  | .maybePeerRestart =>
    if l.peerRestartGrace ≤ 0 ∨ l.lastPeerFrameNano = 0 ∨
      now - l.lastPeerFrameNano < l.peerRestartGrace then some (l.leave, .returned)
    else some (l, .swapRestarting)
  | .swapRestarting => some ({ l with peerRestarting := true }.leave, .returned)
  | .readRuntime peerEpoch kcpPayload =>
    if kcpPayload = [] then some (l.leave, .returned)
    else l.kcp.elim (some (l.leave, .returned)) fun rt => some (l, .deliver rt peerEpoch)
  | .deliver rt peerEpoch => some ((l.deliver rt peerEpoch).leave, .returned)
  | .onData rt epoch =>
    if epoch ∈ l.fed rt then
      some ({ l with peerConfirmed := true, late := l.late || !l.current rt }, .inner rt epoch)
    else none
  | .inner rt epoch =>
    some (if l.current rt then { l with delivered := epoch :: l.delivered } else l, .returned)
  | .connect starts =>
    some (if l.connected then l else { l.install starts with connected := true }, .returned)
  | .reset next starts =>
    some ({ l with
      peerConfirmed := false, session := l.session + 1, heard := false, late := false,
      delivered := [], busy := some i }, .forgetEpoch next starts)
  | .forgetEpoch next starts => some ({ l with peerEpoch := 0 }, .rotate next starts)
  | .rotate next starts => some ({ l with localEpoch := next }, .takeDown starts)
  | .takeDown starts => some ({ l with kcp := none }, .install starts)
  | .install starts => some ((l.install starts).leave, .returned)
  | .returned => none

abbrev State := Calls.State Latch Pc

abbrev Event := Calls.Event Pc ℤ

def step : State → Event → State := Calls.step Pc.isEntry act

/-- A frame is looked at, and a session reset, only while no other call is at it. -/
def alone (l : Latch) : Pc → Bool
  | .frame _ | .reset _ _ => l.busy.isNone
  | _ => true

/-! ## The invariant -/

/-- No runtime of this session has been given a packet, and none has delivered. -/
def Clean (l : Latch) : Prop :=
  (∀ r ∈ l.runtimes, r.session = l.session → r.fed = []) ∧ l.delivered = []

/-- Whatever confirms a peer has done so. -/
def Settled (l : Latch) : Prop := l.heard = true ∨ l.late = true → l.peerConfirmed = true

/-- The runtimes of a session are only ever given packets of the epoch that is confirmed. -/
structure Inv (l : Latch) : Prop where
  sessions : ∀ r ∈ l.runtimes, r.session ≤ l.session
  fed : ∀ r ∈ l.runtimes, r.session = l.session → ∀ epoch ∈ r.fed, epoch = l.peerEpoch
  delivered : ∀ epoch ∈ l.delivered, epoch = l.peerEpoch
  unconfirmed : l.peerConfirmed = false → l.Clean
  confirmed : l.peerConfirmed = true → l.heard = true ∨ l.late = true
  settled : l.busy = none → l.Settled

/-- The call has got past the checks, or resets the session. -/
def Pc.busy : Pc → Bool
  | .frame _ | .onData _ _ | .inner _ _ | .connect _ | .reset _ _ | .returned => false
  | _ => true

def Pc.Holds (l : Latch) : Pc → Prop
  | .check _ _ => l.heard = true
  | .storeEpoch _ _ => l.heard = true ∧ l.Clean
  | .confirm peerEpoch _ => l.heard = true ∧ l.peerEpoch = peerEpoch
  | .stampFirst peerEpoch _ | .clearRestarting peerEpoch _ | .stamp peerEpoch _
  | .readRuntime peerEpoch _ | .deliver _ peerEpoch =>
    l.peerConfirmed = true ∧ l.peerEpoch = peerEpoch
  | .compare _ _ | .maybePeerRestart | .swapRestarting => l.peerConfirmed = true
  | .forgetEpoch _ _ => l.Settled ∧ l.Clean
  | .rotate _ _ | .takeDown _ | .install _ => l.Settled
  | .inner rt epoch => epoch ∈ l.fed rt
  | _ => True

/-- What is known about call `i`. -/
def CallOk (l : Latch) (i : ℕ) (pc : Option Pc) : Prop :=
  (l.busy = some i ↔ pc.any Pc.busy = true) ∧ ∀ pc' ∈ pc, pc'.Holds l

/-- What a call at work can count on. -/
structure Rely (l l' : Latch) : Prop where
  peerEpoch : l'.peerEpoch = l.peerEpoch
  heard : l'.heard = l.heard
  confirmed : l.peerConfirmed = true → l'.peerConfirmed = true
  clean : l.Clean → l'.Clean
  settled : l.Settled → l'.Settled

/-- What a step of call `i` guarantees to the others. -/
def Keeps (i : ℕ) (l l' : Latch) : Prop :=
  (∀ rt, l.fed rt ⊆ l'.fed rt) ∧
    ∀ j ≠ i, (l'.busy = some j ↔ l.busy = some j) ∧ (l.busy = some j → Rely l l')

/-- What a step of call `i` comes to. -/
def StepOk (i : ℕ) (l l' : Latch) (pc : Pc) : Prop :=
  l'.Inv ∧ Keeps i l l' ∧ CallOk l' i (some pc)

variable {l l' : Latch} {i : ℕ}

lemma Rely.refl : Rely l l := ⟨rfl, rfl, id, id, id⟩

lemma Pc.Holds.mono {pc : Pc} (h : pc.Holds l) (hfed : ∀ rt, l.fed rt ⊆ l'.fed rt)
    (hrely : pc.busy = true → Rely l l') : pc.Holds l' := by
  cases pc with
  | check => exact (hrely rfl).heard.trans h
  | storeEpoch => exact ⟨(hrely rfl).heard.trans h.1, (hrely rfl).clean h.2⟩
  | confirm => exact ⟨(hrely rfl).heard.trans h.1, (hrely rfl).peerEpoch.trans h.2⟩
  | stampFirst | clearRestarting | stamp | readRuntime | deliver =>
    exact ⟨(hrely rfl).confirmed h.1, (hrely rfl).peerEpoch.trans h.2⟩
  | compare | maybePeerRestart | swapRestarting => exact (hrely rfl).confirmed h
  | forgetEpoch => exact ⟨(hrely rfl).settled h.1, (hrely rfl).clean h.2⟩
  | rotate | takeDown | install => exact (hrely rfl).settled h
  | inner rt => exact hfed rt h
  | _ => trivial

lemma moved {pc : Pc} (hinv : l'.Inv) (hi : l.busy = none ∨ l.busy = some i)
    (hbusy : l'.busy = if pc.busy then some i else none) (hfed : ∀ rt, l.fed rt ⊆ l'.fed rt)
    (hholds : pc.Holds l') : StepOk i l l' pc := by
  refine ⟨hinv, ⟨hfed, fun j hj => ?_⟩, by simp [hbusy], by simpa using hholds⟩
  rcases hi with hi | hi <;> simp [hbusy, hi, Ne.symm hj]

/-- A call at work comes to its end. -/
lemma ended (h : l'.Inv) (hi : l.busy = some i) (hfed : ∀ rt, l.fed rt ⊆ l'.fed rt)
    (hsettled : l'.Settled) : StepOk i l l'.leave .returned :=
  moved ⟨h.sessions, h.fed, h.delivered, h.unconfirmed, h.confirmed, fun _ => hsettled⟩ (.inr hi)
    rfl hfed trivial

lemma aside {pc : Pc} (hinv : l'.Inv) (hi : l.busy ≠ some i) (hbusy : l'.busy = l.busy)
    (hfed : ∀ rt, l.fed rt ⊆ l'.fed rt) (hrely : Rely l l') (hpc : pc.busy = false)
    (hholds : pc.Holds l') : StepOk i l l' pc :=
  ⟨hinv, ⟨hfed, fun _ _ => ⟨by rw [hbusy], fun _ => hrely⟩⟩, by simp [hbusy, hi, hpc],
    by simpa using hholds⟩

lemma fed_subset_install (starts : Bool) (rt : ℕ) : l.fed rt ⊆ (l.install starts).fed rt := by
  cases starts with
  | false => exact List.Subset.refl _
  | true => grind [fed, install]

lemma fed_subset_deliver (rt' : ℕ) (epoch : UInt32) (rt : ℕ) :
    l.fed rt ⊆ (l.deliver rt' epoch).fed rt := by
  grind [fed, deliver]

lemma clean_install (h : l.Clean) (starts : Bool) : (l.install starts).Clean := by
  cases starts with
  | false => exact h
  | true => exact ⟨by simpa [install, or_imp, forall_and] using h.1, h.2⟩

lemma Inv.install (h : l.Inv) (starts : Bool) : (l.install starts).Inv := by
  cases starts with
  | false => exact h
  | true =>
    refine ⟨?_, ?_, h.delivered, fun hnot => clean_install (h.unconfirmed hnot) true, h.confirmed,
      h.settled⟩
    · simpa [Latch.install, or_imp, forall_and] using h.sessions
    · simpa [Latch.install, or_imp, forall_and] using h.fed

lemma mem_deliver {rt : ℕ} {epoch : UInt32} {r : Runtime} (h : r ∈ (l.deliver rt epoch).runtimes) :
    ∃ r' ∈ l.runtimes, r.session = r'.session ∧ (r.fed = r'.fed ∨ r.fed = epoch :: r'.fed) := by
  obtain ⟨k, hk⟩ := List.mem_iff_getElem?.1 h
  rw [Latch.deliver, List.getElem?_modify, Option.map_eq_map, Option.map_eq_some_iff] at hk
  obtain ⟨r', hr', rfl⟩ := hk
  refine ⟨r', List.mem_of_getElem? hr', ?_⟩
  split_ifs
  · exact ⟨rfl, .inr rfl⟩
  · exact ⟨rfl, .inl rfl⟩

lemma Inv.deliver (h : l.Inv) (hconfirmed : l.peerConfirmed = true) (rt : ℕ) :
    (l.deliver rt l.peerEpoch).Inv := by
  refine ⟨?_, ?_, h.delivered, fun hnot => ?_, h.confirmed, h.settled⟩
  · intro r hr
    obtain ⟨r', hr', hsession, -⟩ := mem_deliver hr
    exact hsession ▸ h.sessions r' hr'
  · intro r hr hcurrent epoch hepoch
    obtain ⟨r', hr', hsession, hfed | hfed⟩ := mem_deliver hr
    · exact h.fed r' hr' (hsession ▸ hcurrent) epoch (hfed ▸ hepoch)
    · rcases List.mem_cons.1 (hfed ▸ hepoch) with rfl | hepoch
      · rfl
      · exact h.fed r' hr' (hsession ▸ hcurrent) epoch hepoch
  · cases hconfirmed.symm.trans hnot

lemma Inv.of_mem_fed (h : l.Inv) {rt : ℕ} {epoch : UInt32} (hfed : epoch ∈ l.fed rt)
    (hcurrent : l.current rt = true) :
    epoch = l.peerEpoch ∧ l.peerConfirmed = true ∧ ¬l.Clean := by
  cases hr : l.runtimes[rt]? with
  | none => simp [Latch.fed, hr] at hfed
  | some r =>
    have hmem := List.mem_of_getElem? hr
    have hsession : r.session = l.session := by simpa [current, hr] using hcurrent
    have hfed : epoch ∈ r.fed := by simpa [Latch.fed, hr] using hfed
    have hdirty : ¬l.Clean := fun hclean => by simp [hclean.1 r hmem hsession] at hfed
    refine ⟨h.fed r hmem hsession epoch hfed, ?_, hdirty⟩
    exact Bool.of_not_eq_false fun hnot => hdirty (h.unconfirmed hnot)

section Act

variable {now : ℤ} {pc pc' : Pc}

/-- A step of a call at work, on a frame or on a reset. -/
lemma busy_ok (h : l.Inv) (hi : l.busy = some i) (hpc : pc.busy = true) (hholds : pc.Holds l)
    (hact : act i now l pc = some (l', pc')) : StepOk i l l' pc' := by
  have hsame : ∀ rt, l.fed rt ⊆ l.fed rt := fun _ => List.Subset.refl _
  have hleave : l.peerConfirmed = true → StepOk i l l.leave .returned := fun hconfirmed =>
    ended h hi hsame fun _ => hconfirmed
  cases pc with
  | check peerEpoch kcpPayload =>
    rw [act] at hact
    split_ifs at hact with hconfirmed
    · cases hact
      exact moved h (.inr hi) hi hsame hconfirmed
    · cases hact
      exact moved h (.inr hi) hi hsame ⟨hholds, h.unconfirmed (Bool.eq_false_iff.2 hconfirmed)⟩
  | storeEpoch peerEpoch kcpPayload =>
    obtain ⟨hheard, hclean⟩ := hholds
    cases hact
    refine moved ⟨h.sessions, fun r hr hsession => ?_, ?_, h.unconfirmed, h.confirmed, h.settled⟩
      (.inr hi) hi hsame ⟨hheard, rfl⟩
    · simp [hclean.1 r hr hsession]
    · simp [hclean.2]
  | confirm peerEpoch kcpPayload =>
    obtain ⟨hheard, hepoch⟩ := hholds
    cases hact
    exact moved ⟨h.sessions, h.fed, h.delivered, nofun, fun _ => .inl hheard, fun _ _ => rfl⟩
      (.inr hi) hi hsame ⟨rfl, hepoch⟩
  | stampFirst peerEpoch kcpPayload | clearRestarting peerEpoch kcpPayload
  | stamp peerEpoch kcpPayload =>
    cases hact
    exact moved ⟨h.sessions, h.fed, h.delivered, h.unconfirmed, h.confirmed, h.settled⟩ (.inr hi)
      hi hsame hholds
  | compare peerEpoch kcpPayload =>
    rw [act] at hact
    split_ifs at hact with hepoch
    · cases hact
      exact moved h (.inr hi) hi hsame ⟨hholds, hepoch⟩
    · cases hact
      exact moved h (.inr hi) hi hsame hholds
  | maybePeerRestart =>
    rw [act] at hact
    split_ifs at hact
    · cases hact
      exact hleave hholds
    · cases hact
      exact moved h (.inr hi) hi hsame hholds
  | swapRestarting =>
    cases hact
    exact ended ⟨h.sessions, h.fed, h.delivered, h.unconfirmed, h.confirmed, h.settled⟩ hi hsame
      fun _ => hholds
  | readRuntime peerEpoch kcpPayload =>
    rw [act] at hact
    split_ifs at hact
    · cases hact
      exact hleave hholds.1
    · cases hkcp : l.kcp with
      | none =>
        rw [hkcp] at hact
        cases hact
        exact hleave hholds.1
      | some rt =>
        rw [hkcp] at hact
        cases hact
        exact moved h (.inr hi) hi hsame hholds
  | deliver rt peerEpoch =>
    obtain ⟨hconfirmed, rfl⟩ := hholds
    cases hact
    exact ended (h.deliver hconfirmed rt) hi (fed_subset_deliver rt _) fun _ => hconfirmed
  | forgetEpoch next starts =>
    obtain ⟨hsettled, hclean⟩ := hholds
    cases hact
    refine moved ⟨h.sessions, fun r hr hsession => ?_, ?_, h.unconfirmed, h.confirmed, h.settled⟩
      (.inr hi) hi hsame hsettled
    · simp [hclean.1 r hr hsession]
    · simp [hclean.2]
  | rotate next starts | takeDown starts =>
    cases hact
    exact moved ⟨h.sessions, h.fed, h.delivered, h.unconfirmed, h.confirmed, h.settled⟩ (.inr hi)
      hi hsame hholds
  | install starts =>
    cases hact
    exact ended (h.install starts) hi (fed_subset_install starts) (by cases starts <;> exact hholds)
  | _ => cases hpc

/-- **One step of one call that keeps to the condition.** -/
lemma act_ok (h : l.Inv) (hcall : CallOk l i (some pc)) (halone : alone l pc = true)
    (hact : act i now l pc = some (l', pc')) : StepOk i l l' pc' := by
  have hholds : pc.Holds l := hcall.2 pc rfl
  cases hpc : pc.busy with
  | true => exact busy_ok h (hcall.1.2 hpc) hpc hholds hact
  | false =>
    have hout : l.busy ≠ some i := fun hbusy => by simpa [hpc] using hcall.1.1 hbusy
    have hsame : ∀ rt, l.fed rt ⊆ l.fed rt := fun _ => List.Subset.refl _
    cases pc with
    | frame frame =>
      have hfree : l.busy = none := by simpa [alone] using halone
      rw [act] at hact
      split at hact
      · cases hact
        exact aside h hout rfl hsame .refl rfl trivial
      · split_ifs at hact
        · cases hact
          exact aside h hout rfl hsame .refl rfl trivial
        · cases hact
          exact moved ⟨h.sessions, h.fed, h.delivered, h.unconfirmed, fun _ => .inl rfl, nofun⟩
            (.inl hfree) rfl hsame rfl
    | onData rt epoch =>
      rw [act] at hact
      split_ifs at hact with hfed
      cases hact
      have hconfirmed : l.heard = true ∨ (l.late || !l.current rt) = true := by
        cases hcurrent : l.current rt with
        | false => simp
        | true => simpa using h.confirmed (h.of_mem_fed hfed hcurrent).2.1
      exact aside ⟨h.sessions, h.fed, h.delivered, nofun, fun _ => hconfirmed, fun _ _ => rfl⟩
        hout rfl hsame ⟨rfl, rfl, fun _ => rfl, id, fun _ _ => rfl⟩ rfl hfed
    | inner rt epoch =>
      cases hact
      cases hcurrent : l.current rt with
      | false => exact aside h hout rfl hsame .refl rfl trivial
      | true =>
        obtain ⟨hepoch, hconfirmed, hdirty⟩ := h.of_mem_fed hholds hcurrent
        refine aside ⟨h.sessions, h.fed, ?_, fun hnot => ?_, h.confirmed, h.settled⟩ hout rfl
          hsame ⟨rfl, rfl, id, fun hclean => absurd hclean hdirty, id⟩ rfl trivial
        · simpa [hepoch] using h.delivered
        · cases hconfirmed.symm.trans hnot
    | connect starts =>
      cases hact
      split_ifs
      · exact aside h hout rfl hsame .refl rfl trivial
      · have hinv := h.install starts
        have hrely : Rely l { l.install starts with connected := true } := by
          refine ⟨?_, ?_, ?_, fun hclean => clean_install hclean starts, ?_⟩ <;> cases starts <;>
            first | rfl | exact id
        exact aside ⟨hinv.sessions, hinv.fed, hinv.delivered, hinv.unconfirmed, hinv.confirmed,
          hinv.settled⟩ hout (by cases starts <;> rfl) (fed_subset_install starts) hrely rfl trivial
    | reset next starts =>
      have hfree : l.busy = none := by simpa [alone] using halone
      cases hact
      have hclean : ∀ r ∈ l.runtimes, r.session ≠ l.session + 1 := fun r hr =>
        Nat.ne_of_lt (Nat.lt_succ_of_le (h.sessions r hr))
      refine moved ⟨fun r hr => (h.sessions r hr).trans (Nat.le_succ _), ?_, nofun, ?_, nofun,
        nofun⟩ (.inl hfree) rfl hsame ⟨by simp [Settled], ?_⟩
      · exact fun r hr hsession => absurd hsession (hclean r hr)
      · exact fun _ => ⟨fun r hr hsession => absurd hsession (hclean r hr), rfl⟩
      · exact ⟨fun r hr hsession => absurd hsession (hclean r hr), rfl⟩
    | returned => cases hact
    | _ => cases hpc

end Act

def discipline : Calls.Discipline Pc.isEntry (Calls.guarded alone act) where
  WorldOk := Inv
  CallOk := CallOk
  Keeps := Keeps
  entry := by
    intro l i pc hentry hcall
    have hpc : pc.busy = false ∧ pc.Holds l := by
      cases pc <;> first | exact ⟨rfl, trivial⟩ | cases hentry
    exact ⟨by simpa [hpc.1] using hcall.1, by simpa using hpc.2⟩
  others := by
    rintro l l' i j pc ⟨hfed, hkeeps⟩ hj hcall
    obtain ⟨hbusy, hrely⟩ := hkeeps j hj
    refine ⟨hbusy.trans hcall.1, fun pc' hpc' => ?_⟩
    obtain rfl : pc = some pc' := hpc'
    exact (hcall.2 pc' rfl).mono hfed fun hpc => hrely (hcall.1.2 hpc)
  act := by
    intro l l' i c pc pc' hl hcall hact
    obtain ⟨halone, hact⟩ := Calls.guarded_eq_some hact
    exact act_ok hl hcall halone hact

def init (token epoch : UInt32) (grace : ℤ) : State := ⟨new token epoch grace, []⟩

/-- **The peer is latched on to as documented if and only if nothing has been heard in the session
or a message has been delivered**, for all runs in which frames and resets do not overlap: nothing
heard is no frame with the token and an epoch other than the own one, and no late message.  While a
frame is being looked at only one direction holds, as it is heard before the peer is confirmed. -/
theorem latched_iff (token epoch : UInt32) (grace : ℤ) (events : List Event)
    (halone : Along step (Calls.Admits alone) (init token epoch grace) events) :
    let l := (run step (init token epoch grace) events).world
    ((l.heard = false ∧ l.late = false) ∨ l.delivered ≠ [] → l.Latched) ∧
      (l.busy = none → l.Latched → (l.heard = false ∧ l.late = false) ∨ l.delivered ≠ []) := by
  intro l
  have hinv : l.Inv := by
    show Inv (run step (init token epoch grace) events).world
    rw [step, Calls.run_guarded halone]
    refine (discipline.ok_run ?_ (fun i => ?_) events).world
    · exact ⟨nofun, nofun, nofun, fun _ => ⟨nofun, rfl⟩, nofun, fun _ => by simp [Settled, new]⟩
    · exact ⟨by simp [new], nofun⟩
  constructor
  · rintro (⟨hheard, hlate⟩ | hne) hconfirmed
    · rcases hinv.confirmed hconfirmed with h | h
      · cases hheard.symm.trans h
      · cases hlate.symm.trans h
    · obtain ⟨epoch, hmem⟩ := List.exists_mem_of_ne_nil _ hne
      rwa [← hinv.delivered epoch hmem]
  · intro hidle hlatched
    by_cases hsome : l.heard = true ∨ l.late = true
    · exact .inr (List.ne_nil_of_mem (hlatched (hinv.settled hidle hsome)))
    · exact .inl (by simpa using hsome)

def exampleEvents : List Event :=
  [.begin (.connect true), .step 0 5, .begin (.frame (buildEpochHeader 7 3 ++ [0]))] ++
    List.replicate 8 (.step 1 5) ++ [.begin (.onData 0 3), .step 2 6, .step 2 6]

/-- Once the message is handed up, the peer is the one it came from. -/
theorem latched_iff_message :
    (run step (init 7 1 6000000000) exampleEvents).world.peerConfirmed = true ∧
      (run step (init 7 1 6000000000) exampleEvents).world.Latched :=
  ⟨by decide +kernel, (latched_iff 7 1 6000000000 exampleEvents (by decide +kernel)).1
    (.inr (by decide +kernel))⟩

/-- A client, with the grace of six seconds, sees the keepalive of another one. -/
def exampleLatch : Latch :=
  (run step (init 7 1 6000000000)
    (.begin (.frame (buildEpochHeader 7 3)) :: List.replicate 7 (.step 0 5))).world

/-- The keepalive of another client confirms it as the peer. -/
theorem keepalive_confirms :
    exampleLatch.peerConfirmed = true ∧ exampleLatch.peerEpoch = 3 ∧ ¬exampleLatch.Latched :=
  ⟨by decide +kernel, by decide +kernel, by rw [Latch.Latched]; decide +kernel⟩

end Latch

end OlcRtc.Legacy
