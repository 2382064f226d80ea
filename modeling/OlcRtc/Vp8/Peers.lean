import OlcRtc.Lib.Hex
import OlcRtc.Vp8.KcpPlane
import OlcRtc.Lib.Lists

/-!
# The peer table

In server mode the transport keeps one session per remote data epoch: the bulk KCP runtime with
which that peer is served, its control runtime once there is one, and when the peer was last heard.
`peerTable` bounds their number and drops sessions that have been idle for too long.

What a session sends carries the header its runtimes were started with; nothing re-points it later.
`PeerTable.All Q` says that every session in the table satisfies `Q`.  No operation of the table
changes a header, so `All Q` survives all of them as long as `Q` does not look at the time
(`Timeless`) and holds for the sessions that are added.
-/

namespace OlcRtc

/-! ## Peer ids -/

/-- `formatPeerID`: eight hexadecimal digits. -/
def formatPeerID (epoch : UInt32) : String := String.ofList (hexPut 8 epoch.toNat)

/-- `parsePeerID`: `strconv.ParseUint(peerID, 16, 32)`. -/
def parsePeerID (peerID : String) : Option UInt32 :=
  if peerID.toList = [] then none
  else
    match hexGet peerID.toList with
    | none => none
    | some n => if n < 2 ^ 32 then some (UInt32.ofNat n) else none

/-- **A peer id is read back.** -/
lemma parsePeerID_formatPeerID (epoch : UInt32) :
    parsePeerID (formatPeerID epoch) = some epoch := by
  have hlt : epoch.toNat < 2 ^ 32 := epoch.toNat_lt
  have hne : hexPut 8 epoch.toNat ≠ [] := by simp [hexPut]
  rw [parsePeerID, formatPeerID, String.toList_ofList, if_neg hne, hexGet_hexPut 8 (by omega)]
  simp only [hlt, if_true, UInt32.ofNat_toNat]

/-! ## The table -/

/-- `peerIdleTTL`, in nanoseconds. -/
def peerIdleTTL : ℕ := 3 * 60 * 1000000000

def maxPeers : ℕ := 64

/-- `peerSession`: the headers with which its data and control runtimes were started, and the time
of the last frame. -/
structure PeerSession where
  epoch : UInt32
  data : EpochHeader
  control : Option EpochHeader
  lastSeen : ℕ

def PeerSession.touch (sess : PeerSession) (now : ℕ) : PeerSession := { sess with lastSeen := now }

/-- `peerTable`. -/
structure PeerTable where
  sessions : AList fun _ : UInt32 => PeerSession
  closed : Bool

/-- The loop of `evictOldestLocked`. -/
def oldestSession (sessions : List PeerSession) : Option PeerSession :=
  sessions.foldl (fun oldest sess =>
    match oldest with
    | none => some sess
    | some old => if sess.lastSeen < old.lastSeen then some sess else some old) none

namespace PeerTable

def empty : PeerTable := ⟨∅, false⟩

/-- `get`: the session, its idle timer refreshed. -/
def get (t : PeerTable) (epoch : UInt32) (now : ℕ) : PeerTable × Option PeerSession :=
  match t.sessions.lookup epoch with
  | none => (t, none)
  | some sess =>
    ({ t with sessions := t.sessions.insert epoch (sess.touch now) }, some (sess.touch now))

/-- `evictOldestLocked`, with the order in which the map is traversed. -/
def evictOldestLocked (order : List UInt32 → List UInt32) (t : PeerTable) : PeerTable :=
  match oldestSession ((order t.sessions.keys).filterMap t.sessions.lookup) with
  | none => t
  | some old => { t with sessions := t.sessions.erase old.epoch }

/-- `add`; the second component says whether the session was installed. -/
def add (order : List UInt32 → List UInt32) (t : PeerTable) (sess : PeerSession) (now : ℕ) :
    PeerTable × Bool :=
  if t.closed then (t, false)
  else if (t.sessions.lookup sess.epoch).isSome then (t, false)
  else
    let t := if maxPeers ≤ t.sessions.keys.length then t.evictOldestLocked order else t
    ({ t with sessions := t.sessions.insert sess.epoch (sess.touch now) }, true)

def setControl (t : PeerTable) (epoch : UInt32) (sess : PeerSession) (hdr : EpochHeader) :
    PeerTable :=
  { t with sessions := t.sessions.insert epoch { sess with control := some hdr } }

/-- The loop of `sweep`. -/
def sweepLoop (cutoff : ℕ) (t : PeerTable) : List UInt32 → PeerTable
  | [] => t
  | epoch :: epochs =>
    match t.sessions.lookup epoch with
    | none => sweepLoop cutoff t epochs
    | some sess =>
      if sess.lastSeen < cutoff then
        sweepLoop cutoff { t with sessions := t.sessions.erase epoch } epochs
      else sweepLoop cutoff t epochs

def sweep (t : PeerTable) (ttl now : ℕ) : PeerTable := t.sweepLoop (now - ttl) t.sessions.keys

/-! ## What every session keeps -/

/-- Every session in the table satisfies `Q`. -/
def All (Q : UInt32 → PeerSession → Prop) (t : PeerTable) : Prop :=
  ∀ epoch sess, t.sessions.lookup epoch = some sess → Q epoch sess

/-- A property that does not depend on when the peer was last heard. -/
def Timeless (Q : UInt32 → PeerSession → Prop) : Prop :=
  ∀ epoch sess now, Q epoch (PeerSession.touch sess now) ↔ Q epoch sess

variable {Q : UInt32 → PeerSession → Prop} {t : PeerTable}

lemma all_empty : empty.All Q := by
  intro epoch sess h
  simp [empty] at h

lemma All.insert (h : t.All Q) {epoch : UInt32} {sess : PeerSession} (hsess : Q epoch sess) :
    { t with sessions := t.sessions.insert epoch sess }.All Q := by
  intro e s hs
  rcases lookup_insert_cases hs with ⟨rfl, rfl⟩ | ⟨-, hold⟩
  · exact hsess
  · exact h e s hold

lemma All.erase (h : t.All Q) (epoch : UInt32) :
    { t with sessions := t.sessions.erase epoch }.All Q := by
  intro e s hs
  exact h e s (of_lookup_erase hs).2

lemma All.get (h : t.All Q) (hQ : Timeless Q) (epoch : UInt32) (now : ℕ) :
    (t.get epoch now).1.All Q ∧ ∀ sess, (t.get epoch now).2 = some sess → Q epoch sess := by
  unfold PeerTable.get
  cases hlook : t.sessions.lookup epoch with
  | none => exact ⟨h, by simp⟩
  | some sess =>
    have hsess : Q epoch (sess.touch now) := (hQ epoch sess now).mpr (h epoch sess hlook)
    refine ⟨h.insert hsess, fun s hs => ?_⟩
    rwa [← Option.some.inj hs]

lemma All.evictOldestLocked (h : t.All Q) (order : List UInt32 → List UInt32) :
    (t.evictOldestLocked order).All Q := by
  unfold PeerTable.evictOldestLocked
  split
  · exact h
  · exact h.erase _

lemma All.add (h : t.All Q) (hQ : Timeless Q) (order : List UInt32 → List UInt32)
    {sess : PeerSession} (hsess : Q sess.epoch sess) (now : ℕ) :
    (t.add order sess now).1.All Q := by
  have htouch : Q sess.epoch (sess.touch now) := (hQ sess.epoch sess now).mpr hsess
  unfold PeerTable.add
  split_ifs
  · exact h
  · exact h
  · exact (h.evictOldestLocked order).insert htouch
  · exact h.insert htouch

lemma All.sweepLoop (cutoff : ℕ) : ∀ (epochs : List UInt32) {t : PeerTable}, t.All Q →
    (t.sweepLoop cutoff epochs).All Q
  | [], t, h => h
  | epoch :: epochs, t, h => by
    unfold PeerTable.sweepLoop
    split
    · exact All.sweepLoop cutoff epochs h
    · split_ifs
      · exact All.sweepLoop cutoff epochs (h.erase epoch)
      · exact All.sweepLoop cutoff epochs h

lemma All.sweep (h : t.All Q) (ttl now : ℕ) : (t.sweep ttl now).All Q :=
  All.sweepLoop _ _ h

end PeerTable

end OlcRtc
