import OlcRtc.Lib.Calls
import OlcRtc.Server.Peers

/-!
# Who owns the stacks of a peer

A frame of a peer that has no stack on its plane makes the server build one: a connection with a
smux session on it.  The stack is then attached to the `peerSession`, or closed if the attach is
lost.  Two locks are involved: `sessMu` guards the map, and `mu` the fields of one peer.  Those who
build hold `sessMu` all the way; `closePeerSession` holds neither when it begins, so that a peer can
be closed between the steps of a call that has found it.

* `Peer` is a session object and `Stack` a stack.  Neither is ever freed; the map and the slots of
  the peers hold indices.
* A call is a program counter, `Pc`, and `act` its next step.  A section under `mu` of a peer is one
  step, and `sessMu` is held over several.
* Handshakes and timeouts come down to `setHandshake`, `expire` and `remove`, which may begin at any
  time and for any peer.  `removePeer`, `reinstallPeerRouting`, `closeSession` and `shutdown` take
  peers out of the map and close them, one after the other, each inside its `closeOnce`.

`place`, `teardowns`, `holder` and `swapped` are not in the source.  They record where a peer
stands, how often the body of `closePeerSession` has begun, who is responsible for a stack, and how
many peers there were when `shutdown` swapped the map out.

What is reported about the sessions is the subject of `OlcRtc.Server.Pairing`, and left out here.

**`peer_table`** is the result: the map is bounded and holds live peers under their own IDs, no peer
owns two stacks of a plane, a stack nobody owns is closed, peers are torn down once, and nobody is
admitted after the swap.
-/

namespace OlcRtc.PeerStacks

/-- The planes of a peer. -/
inductive Plane
  | data
  | control
deriving DecidableEq, Repr

/-- The body of `closePeerSession`, by what it does next; the stacks are those of the snapshot. -/
inductive Body
  | snapshot
  | control (control data : Option ℕ)
  | data (data : Option ℕ)
  | done
deriving DecidableEq, Repr

/-- `closeOnce`. -/
inductive Once
  | idle
  | running (call : ℕ) (body : Body)
  | spent
deriving DecidableEq, Repr

/-- Where a peer stands: in the hands of the call that made it, in the map, or taken out of it. -/
inductive Place
  | fresh (call : ℕ)
  | enrolled
  | removed
deriving DecidableEq, Repr

/-- `peerSession`.  `data` stands for `conn` and `session`, `control` for `controlConn` and
`controlSess`; both are indices into the stacks. -/
structure Peer where
  peerID : String
  data : Option ℕ
  control : Option ℕ
  sessionID : String
  closed : Bool
  closeOnce : Once
  teardowns : ℕ
  place : Place
deriving DecidableEq, Repr

def newPeerSession (peerID : String) (place : Place) : Peer :=
  ⟨peerID, none, none, "", false, .idle, 0, place⟩

namespace Peer

def slot (q : Peer) : Plane → Option ℕ
  | .data => q.data
  | .control => q.control

def setSlot (q : Peer) (stack : ℕ) : Plane → Peer
  | .data => { q with data := some stack }
  | .control => { q with control := some stack }

/-- A stack is attached, unless the peer is closed or has one on this plane. -/
def attach (plane : Plane) (q : Peer) (stack : ℕ) : Option Peer :=
  if q.closed = true ∨ q.slot plane ≠ none then none else some (q.setSlot stack plane)

def attachData : Peer → ℕ → Option Peer := attach .data

def attachControl : Peer → ℕ → Option Peer := attach .control

def evict (q : Peer) : Peer := if q.place = .enrolled then { q with place := .removed } else q

end Peer

/-- Who is responsible for a stack: the call that has built it, the peer it is attached to, or
nobody any more. -/
inductive Holder
  | call (call : ℕ)
  | peer (peer : ℕ)
  | nobody
deriving DecidableEq, Repr

/-- A connection with its smux session. -/
structure Stack where
  plane : Plane
  holder : Holder
  isOpen : Bool
deriving DecidableEq, Repr

inductive Pc
  /-- `getPeerSession`, before its lock region. -/
  | data (peerID : String)
  /-- It has looked the peer up. -/
  | admitData (peerID : String) (peer : Option ℕ)
  /-- `getOrCreatePeerControlSession`, before its lock region. -/
  | control (peerID : String)
  /-- It has looked the peer up and may go on. -/
  | buildControl (peerID : String) (peer : Option ℕ)
  /-- Before `attachData` or `attachControl`. -/
  | attach (plane : Plane) (peer stack : ℕ)
  /-- Before the stack is closed and `sessMu` is released. -/
  | lost (stack : ℕ)
  /-- Before the stack is closed, after `sessMu` is released. -/
  | drop (stack : ℕ)
  /-- Before the peer is put into the map. -/
  | enrol (peer : ℕ)
  | setHandshake (peer : ℕ) (sessionID : String)
  /-- `expirePeerHandshake`, after the timer has fired. -/
  | expire (peer : ℕ)
  /-- `removePeer`. -/
  | remove (peer : ℕ)
  /-- `reinstallPeerRouting`. -/
  | reinstall
  /-- `detachPeerRouting`. -/
  | detach
  | shutdown
  | closeSession (shutdown : Bool)
  /-- `closePeerSession`, with the peers that follow. -/
  | close (peer : ℕ) (rest : List ℕ) (reinstall : Bool)
  | closeRest (peers : List ℕ) (reinstall : Bool)
  | finished
deriving DecidableEq, Repr

/-- The stack a call is responsible for. -/
def Pc.stack : Pc → Option ℕ
  | .attach _ _ stack => some stack
  | .lost stack => some stack
  | .drop stack => some stack
  | _ => none

structure World where
  controlPlane : Bool
  stopping : Bool
  swapped : Option ℕ
  sessMu : Option ℕ
  reinstallMu : Option ℕ
  peerSessions : AList fun _ : String => ℕ
  peers : List Peer
  built : List Stack

/-- What a step depends on besides the state: whether `NewSession` succeeds, and the order in which
the map is traversed. -/
structure Choice where
  ok : Bool
  order : List String

namespace World

def init (controlPlane : Bool) : World := ⟨controlPlane, false, none, none, none, ∅, [], []⟩

def mayAdmitPeerLocked (w : World) (existing : Option ℕ) : Bool :=
  !w.stopping && (existing.isSome || w.peerSessions.keys.length < maxPeerSessions)

def lock (w : World) (i : ℕ) : World := { w with sessMu := some i }

def unlock (w : World) : World := { w with sessMu := none }

def put (w : World) (p : ℕ) (q : Peer) : World := { w with peers := w.peers.set p q }

def make (w : World) (q : Peer) : World := { w with peers := w.peers ++ [q] }

/-- `s.peerSessions[peerID] = peer`. -/
def enter (w : World) (peerID : String) (p : ℕ) : World :=
  { w with peerSessions := w.peerSessions.insert peerID p }

def build (w : World) (i : ℕ) (plane : Plane) : World :=
  { w with built := w.built ++ [⟨plane, .call i, true⟩] }

def give (w : World) (k p : ℕ) : World :=
  { w with built := w.built.modify k fun st => { st with holder := .peer p } }

def discard (w : World) (k : ℕ) : World :=
  { w with built := w.built.modify k fun st => { st with holder := .nobody, isOpen := false } }

def closeStack (w : World) : Option ℕ → World
  | none => w
  | some k => { w with built := w.built.modify k fun st => { st with isOpen := false } }

/-- `s.peerSessions = make(map[string]*peerSession)`. -/
def detach (w : World) : World :=
  { w with peerSessions := ∅, peers := w.peers.map Peer.evict }

end World

/-- One step of the body of `closePeerSession`. -/
def closeBody (i p : ℕ) (q : Peer) (w : World) : Body → World
  | .snapshot =>
    w.put p { q with closed := true, closeOnce := .running i (.control q.control q.data) }
  | .control control data =>
    (w.closeStack control).put p { q with closeOnce := .running i (.data data) }
  | .data data => (w.closeStack data).put p { q with closeOnce := .running i .done }
  | .done => w.put p { q with closeOnce := .spent }

/-- `closePeerSession`. -/
def actClose (i p : ℕ) (rest : List ℕ) (reinstall : Bool) (w : World) : Option (World × Pc) :=
  match w.peers[p]? with
  | none => none
  | some q =>
    match q.closeOnce with
    | .idle =>
      some (w.put p { q with closeOnce := .running i .snapshot, teardowns := q.teardowns + 1 },
        .close p rest reinstall)
    | .running j body =>
      if j = i then some (closeBody i p q w body, .close p rest reinstall) else none
    | .spent => some (w, .closeRest rest reinstall)

/-- `getPeerSession` from `mayAdmitPeerLocked` to the attach. -/
def actAdmit (i : ℕ) (c : Choice) (peerID : String) (peer : Option ℕ) (w : World) : World × Pc :=
  if w.mayAdmitPeerLocked peer = false then (w.unlock, .finished)
  else if c.ok = false then ((w.build i .data).unlock, .drop w.built.length)
  else
    match peer with
    | some p => (w.build i .data, .attach .data p w.built.length)
    | none =>
      (((w.make (newPeerSession peerID .enrolled)).enter peerID w.peers.length).build i .data,
        .attach .data w.peers.length w.built.length)

/-- `getOrCreatePeerControlSession` from `NewSession` to the attach.  A new peer is made when it has
a session; nobody can see it before. -/
def actBuild (i : ℕ) (c : Choice) (peerID : String) (peer : Option ℕ) (w : World) : World × Pc :=
  if c.ok = false then (w.build i .control, .lost w.built.length)
  else
    match peer with
    | some p => (w.build i .control, .attach .control p w.built.length)
    | none =>
      ((w.make (newPeerSession peerID (.fresh i))).build i .control,
        .attach .control w.peers.length w.built.length)

def attached (p : ℕ) (w : World) : Plane → World × Pc
  | .data => (w.unlock, .finished)
  | .control => (w, .enrol p)

/-- The next step of call `i`, unless it has to wait. -/
def act (i : ℕ) (c : Choice) (w : World) : Pc → Option (World × Pc)
  | .data peerID =>
    if peerID = "" then some (w, .finished)
    else if w.sessMu ≠ none then none
    else
      match w.peerSessions.lookup peerID with
      | none => some (w.lock i, .admitData peerID none)
      | some p =>
        w.peers[p]?.map fun q =>
          if q.data ≠ none then (w, .finished) else (w.lock i, .admitData peerID (some p))
  | .admitData peerID peer => some (actAdmit i c peerID peer w)
  | .control peerID =>
    if peerID = "" ∨ w.controlPlane = false then some (w, .finished)
    else if w.sessMu ≠ none then none
    else
      match w.peerSessions.lookup peerID with
      | none =>
        if w.mayAdmitPeerLocked none = false then some (w, .finished)
        else some (w.lock i, .buildControl peerID none)
      | some p =>
        w.peers[p]?.map fun q =>
          if q.control ≠ none then (w, .finished) else (w.lock i, .buildControl peerID (some p))
  | .buildControl peerID peer => some (actBuild i c peerID peer w)
  | .attach plane p k =>
    w.peers[p]?.map fun q =>
      match q.attach plane k with
      | none => (w, .lost k)
      | some q' => attached p ((w.put p q').give k p) plane
  | .lost k => some ((w.discard k).unlock, .finished)
  | .drop k => some (w.discard k, .finished)
  | .enrol p =>
    w.peers[p]?.map fun q =>
      (((w.put p { q with place := .enrolled }).enter q.peerID p).unlock, .finished)
  | .setHandshake p sid =>
    w.peers[p]?.map fun q =>
      (if q.closed then w else w.put p { q with sessionID := sid }, .finished)
  | .expire p =>
    w.peers[p]?.map fun q => (w, if q.sessionID ≠ "" then .finished else .remove p)
  | .remove p =>
    if w.sessMu ≠ none then none
    else
      w.peers[p]?.map fun q =>
        if w.peerSessions.lookup q.peerID = some p then
          ({ w.put p { q with place := .removed } with
            peerSessions := w.peerSessions.erase q.peerID }, .close p [] false)
        else (w, .finished)
  | .reinstall =>
    if w.reinstallMu ≠ none then none else some ({ w with reinstallMu := some i }, .detach)
  | .detach =>
    if w.sessMu = none ∧ c.order.Perm w.peerSessions.keys then
      some (w.detach, .closeRest (c.order.filterMap w.peerSessions.lookup) true)
    else none
  | .shutdown => some ({ w with stopping := true }, .closeSession true)
  | .closeSession shutdown =>
    if w.sessMu = none ∧ c.order.Perm w.peerSessions.keys then
      some ({ w.detach with swapped := if shutdown then some w.peers.length else w.swapped },
        .closeRest (c.order.filterMap w.peerSessions.lookup) false)
    else none
  | .close p rest reinstall => actClose i p rest reinstall w
  | .closeRest [] reinstall =>
    some (if reinstall then { w with reinstallMu := none } else w, .finished)
  | .closeRest (p :: rest) reinstall => some (w, .close p rest reinstall)
  | .finished => none

def Pc.isEntry : Pc → Bool
  | .data _ => true
  | .control _ => true
  | .setHandshake _ _ => true
  | .expire _ => true
  | .remove _ => true
  | .reinstall => true
  | .shutdown => true
  | .closeSession false => true
  | _ => false

abbrev State := Calls.State World Pc

abbrev Event := Calls.Event Pc Choice

def step : State → Event → State := Calls.step Pc.isEntry act

/-! ## The invariant -/

/-- Only removed peers are closed, and their body has begun once. -/
structure Peer.Ok (q : Peer) : Prop where
  removed : q.closeOnce ≠ .idle → q.place = .removed
  closed : q.closed = true → q.closeOnce ≠ .idle
  teardowns : q.teardowns = if q.closeOnce = .idle then 0 else 1

/-- The map is bounded and holds enrolled peers, stacks are in the slots of their peers, stacks
without a holder are closed, and there are no new peers after the swap. -/
structure World.Ok (w : World) : Prop where
  bound : w.peerSessions.keys.length ≤ maxPeerSessions
  entry : ∀ peerID p, w.peerSessions.lookup peerID = some p →
    ∃ q : Peer, w.peers[p]? = some q ∧ q.peerID = peerID ∧ q.place = .enrolled
  peer : ∀ (p : ℕ) (q : Peer), w.peers[p]? = some q → q.Ok
  owned : ∀ (k p : ℕ) (st : Stack), w.built[k]? = some st → st.holder = .peer p →
    ∃ q : Peer, w.peers[p]? = some q ∧ q.slot st.plane = some k
  nobody : ∀ (k : ℕ) (st : Stack), w.built[k]? = some st → st.holder = .nobody →
    st.isOpen = false
  swapped : ∀ n, w.swapped = some n →
    w.stopping = true ∧ w.peerSessions = ∅ ∧ w.peers.length = n

/-- What a step of call `i` leaves of a peer. -/
structure Peer.Kept (i : ℕ) (q q' : Peer) : Prop where
  peerID : q'.peerID = q.peerID
  removed : q.place = .removed → q'.place = .removed
  fresh : ∀ j, j ≠ i → q.place = .fresh j → q'.place = .fresh j

/-- What a step of call `i` leaves to the other calls. -/
structure Keeps (i : ℕ) (w w' : World) : Prop where
  peers : ∀ (p : ℕ) (q : Peer), w.peers[p]? = some q →
    ∃ q' : Peer, w'.peers[p]? = some q' ∧ q.Kept i q'
  table : ∀ j, j ≠ i → w.sessMu = some j →
    w'.sessMu = some j ∧ w'.peerSessions = w.peerSessions ∧ w'.swapped = w.swapped
  stopping : w.stopping = true → w'.stopping = true
  held : ∀ (j k : ℕ) (st : Stack), j ≠ i → w.built[k]? = some st → st.holder = .call j →
    ∃ st' : Stack, w'.built[k]? = some st' ∧ st'.holder = .call j ∧ st'.plane = st.plane
  new : ∀ (j k : ℕ) (st' : Stack), j ≠ i → w'.built[k]? = some st' → st'.holder = .call j →
    ∃ st : Stack, w.built[k]? = some st ∧ st.holder = .call j

/-- Call `i` is responsible for stack `k`. -/
def Holds (w : World) (i k : ℕ) (plane : Plane) : Prop :=
  ∃ st : Stack, w.built[k]? = some st ∧ st.holder = .call i ∧ st.plane = plane

/-- Call `i` is responsible for no other stack. -/
def HoldsOnly (w : World) (i : ℕ) (stack : Option ℕ) : Prop :=
  ∀ (k : ℕ) (st : Stack), w.built[k]? = some st → st.holder = .call i → stack = some k

def Removed (w : World) (p : ℕ) : Prop := ∃ q : Peer, w.peers[p]? = some q ∧ q.place = .removed

/-- The peer is in the map, or call `i` has made it and may put it there. -/
def Enrollable (w : World) (i p : ℕ) : Prop :=
  ∃ q : Peer, w.peers[p]? = some q ∧
    (w.peerSessions.lookup q.peerID = some p ∨
      q.place = .fresh i ∧ w.peerSessions.lookup q.peerID = none ∧
        w.peerSessions.keys.length < maxPeerSessions ∧ w.swapped = none)

/-- What call `i` may rely on, besides its stack. -/
def Facts (w : World) (i : ℕ) : Pc → Prop
  | .admitData peerID peer => w.sessMu = some i ∧ w.peerSessions.lookup peerID = peer
  | .buildControl peerID peer =>
    w.sessMu = some i ∧ w.peerSessions.lookup peerID = peer ∧
      (peer = none → w.peerSessions.keys.length < maxPeerSessions ∧ w.swapped = none)
  | .attach .data _ k => w.sessMu = some i ∧ Holds w i k .data
  | .attach .control p k => w.sessMu = some i ∧ Enrollable w i p ∧ Holds w i k .control
  | .lost k => w.sessMu = some i ∧ ∃ plane, Holds w i k plane
  | .drop k => ∃ plane, Holds w i k plane
  | .enrol p => w.sessMu = some i ∧ Enrollable w i p
  | .closeSession shutdown => shutdown = true → w.stopping = true
  | .close p rest _ => Removed w p ∧ ∀ p' ∈ rest, Removed w p'
  | .closeRest ps _ => ∀ p ∈ ps, Removed w p
  | _ => True

/-- What call `i` may rely on. -/
def CallOk (w : World) (i : ℕ) : Option Pc → Prop
  | none => HoldsOnly w i none
  | some pc => HoldsOnly w i pc.stack ∧ Facts w i pc

variable {w w' w'' : World} {i j k p : ℕ} {q q' : Peer} {st : Stack} {plane : Plane} {pc pc' : Pc}
  {c : Choice}

/-! ### What the other calls may still rely on -/

lemma Peer.kept_refl (i : ℕ) (q : Peer) : q.Kept i q := ⟨rfl, id, fun _ _ => id⟩

lemma Peer.Kept.trans {q'' : Peer} (h : q.Kept i q') (h' : q'.Kept i q'') : q.Kept i q'' :=
  ⟨h'.peerID.trans h.peerID, h'.removed ∘ h.removed, fun j hj => h'.fresh j hj ∘ h.fresh j hj⟩

namespace Keeps

lemma refl (i : ℕ) (w : World) : Keeps i w w where
  peers _ q hq := ⟨q, hq, q.kept_refl i⟩
  table _ _ hmu := ⟨hmu, rfl, rfl⟩
  stopping := id
  held _ _ st _ hst hcall := ⟨st, hst, hcall, rfl⟩
  new _ _ st _ hst hcall := ⟨st, hst, hcall⟩

lemma trans (h : Keeps i w w') (h' : Keeps i w' w'') : Keeps i w w'' := by
  obtain ⟨hpeers, htable, hstop, hheld, hnew⟩ := h
  obtain ⟨hpeers', htable', hstop', hheld', hnew'⟩ := h'
  constructor <;> grind [Peer.Kept.trans]

lemma removed (h : Keeps i w w') (hr : Removed w p) : Removed w' p := by
  obtain ⟨q, hq, hplace⟩ := hr
  obtain ⟨q', hq', hkept⟩ := h.peers p q hq
  exact ⟨q', hq', hkept.removed hplace⟩

lemma holds (h : Keeps i w w') (hij : j ≠ i) (hk : Holds w j k plane) : Holds w' j k plane := by
  obtain ⟨st, hst, hcall, hplane⟩ := hk
  obtain ⟨st', hst', hcall', hplane'⟩ := h.held j k st hij hst hcall
  exact ⟨st', hst', hcall', hplane'.trans hplane⟩

lemma facts (h : Keeps i w w') (hij : j ≠ i) (hpc : Facts w j pc) : Facts w' j pc := by
  have htable := h.table j hij
  cases pc with
  | attach plane p k =>
    cases plane <;> grind [Facts, Keeps.holds, Enrollable, Peer.Kept, Keeps.peers]
  | lost k => exact ⟨(htable hpc.1).1, hpc.2.imp fun _ => h.holds hij⟩
  | drop k => exact hpc.imp fun _ => h.holds hij
  | _ => grind [Facts, Enrollable, Keeps.removed, Peer.Kept, Keeps.peers, Keeps.stopping]

/-- **The other calls may still rely on what they relied on.** -/
lemma callOk (h : Keeps i w w') (hij : j ≠ i) {call : Option Pc} (hcall : CallOk w j call) :
    CallOk w' j call := by
  have hfacts : ∀ pc, Facts w j pc → Facts w' j pc := fun _ => h.facts hij
  obtain ⟨hpeers, htable, hstop, hheld, hnew⟩ := h
  cases call <;> grind [CallOk, HoldsOnly]

end Keeps

/-! ### The small changes a step is made of -/

/-- The invariant survives, and so does what the other calls rely on. -/
structure Moves (i : ℕ) (w w' : World) : Prop where
  ok : w'.Ok
  keeps : Keeps i w w'

lemma Moves.trans (h : Moves i w w') (h' : Moves i w' w'') : Moves i w w'' :=
  ⟨h'.ok, h.keeps.trans h'.keeps⟩

namespace World.Ok

lemma stay (h : w.Ok) (i : ℕ) : Moves i w w := ⟨h, Keeps.refl i w⟩

lemma lock (h : w.Ok) (hfree : w.sessMu = none) : Moves i w (w.lock i) :=
  ⟨⟨h.bound, h.entry, h.peer, h.owned, h.nobody, h.swapped⟩,
    { Keeps.refl i w with table := by grind }⟩

lemma unlock (h : w.Ok) (hmu : w.sessMu = some i) : Moves i w w.unlock :=
  ⟨⟨h.bound, h.entry, h.peer, h.owned, h.nobody, h.swapped⟩,
    { Keeps.refl i w with table := by grind }⟩

lemma setReinstallMu (h : w.Ok) (mu : Option ℕ) : Moves i w { w with reinstallMu := mu } :=
  ⟨⟨h.bound, h.entry, h.peer, h.owned, h.nobody, h.swapped⟩,
    { Keeps.refl i w with table := (Keeps.refl i w).table }⟩

lemma stop (h : w.Ok) : Moves i w { w with stopping := true } :=
  ⟨⟨h.bound, h.entry, h.peer, h.owned, h.nobody, fun n hn => ⟨rfl, (h.swapped n hn).2⟩⟩,
    { Keeps.refl i w with stopping := fun _ => rfl }⟩

lemma place_eq (h : w.Ok) (hq : w.peers[p]? = some q) {peerID : String}
    (hlook : w.peerSessions.lookup peerID = some p) : q.peerID = peerID ∧ q.place = .enrolled := by
  grind [h.entry peerID p hlook]

lemma swapped_eq_none (h : w.Ok) {peerID : String}
    (hlook : w.peerSessions.lookup peerID = some p) : w.swapped = none := by
  cases hswap : w.swapped with
  | none => rfl
  | some n =>
    rw [(h.swapped n hswap).2.1] at hlook
    cases hlook

lemma put (h : w.Ok) (hq : w.peers[p]? = some q) (hkept : q.Kept i q') (hok : q'.Ok)
    (hplace : ∀ peerID, w.peerSessions.lookup peerID = some p → q'.place = .enrolled)
    (hslot : ∀ plane k, q.slot plane = some k → q'.slot plane = some k) :
    Moves i w (w.put p q') := by
  obtain ⟨hbound, hentry, hpeer, howned, hnobody, hswapped⟩ := h
  have hid := hkept.peerID
  have hrefl := Peer.kept_refl i
  refine ⟨⟨?_, ?_, ?_, ?_, ?_, ?_⟩, { Keeps.refl i w with peers := ?_ }⟩ <;> grind [World.put]

lemma update (h : w.Ok) (hq : w.peers[p]? = some q) (hid : q'.peerID = q.peerID)
    (hplace : q'.place = q.place) (hok : q'.Ok)
    (hslot : ∀ plane k, q.slot plane = some k → q'.slot plane = some k) :
    Moves i w (w.put p q') :=
  h.put hq ⟨hid, fun hr => hplace.trans hr, fun _ _ hf => hplace.trans hf⟩ hok
    (fun _ hlook => hplace.trans (h.place_eq hq hlook).2) hslot

lemma make (h : w.Ok) (hswap : w.swapped = none) (hok : q.Ok) : Moves i w (w.make q) := by
  obtain ⟨hbound, hentry, hpeer, howned, hnobody, hswapped⟩ := h
  have hold : ∀ {p' : ℕ} {q' : Peer}, w.peers[p']? = some q' →
      (w.peers ++ [q])[p']? = some q' := by grind
  have hrefl := Peer.kept_refl i
  refine ⟨⟨?_, ?_, ?_, ?_, ?_, ?_⟩, { Keeps.refl i w with peers := ?_ }⟩ <;> grind [World.make]

lemma enter (h : w.Ok) {peerID : String} (hmu : w.sessMu = none ∨ w.sessMu = some i)
    (hq : w.peers[p]? = some q) (hid : q.peerID = peerID) (hplace : q.place = .enrolled)
    (hroom : peerID ∈ w.peerSessions ∨ w.peerSessions.keys.length < maxPeerSessions)
    (hswap : w.swapped = none) : Moves i w (w.enter peerID p) := by
  obtain ⟨hbound, hentry, hpeer, howned, hnobody, hswapped⟩ := h
  have hlook : ∀ peerID', (w.peerSessions.insert peerID p).lookup peerID' =
      if peerID' = peerID then some p else w.peerSessions.lookup peerID' := by
    intro peerID'
    split_ifs with heq
    · rw [heq, AList.lookup_insert]
    · rw [AList.lookup_insert_ne heq]
  refine ⟨⟨?_, ?_, ?_, ?_, ?_, ?_⟩, { Keeps.refl i w with table := ?_ }⟩ <;>
    grind [World.enter, length_keys_insert]

lemma build (h : w.Ok) (plane : Plane) : Moves i w (w.build i plane) := by
  obtain ⟨hbound, hentry, hpeer, howned, hnobody, hswapped⟩ := h
  refine ⟨⟨?_, ?_, ?_, ?_, ?_, ?_⟩, { Keeps.refl i w with held := ?_, new := ?_ }⟩ <;>
    grind [World.build]

lemma hand (h : w.Ok) (hk : Holds w i k plane) {f : Stack → Stack}
    (hcall : ∀ st j, (f st).holder ≠ .call j)
    (howned : ∀ st p, w.built[k]? = some st → (f st).holder = .peer p →
      ∃ q : Peer, w.peers[p]? = some q ∧ q.slot (f st).plane = some k)
    (hnobody : ∀ st, (f st).holder = .nobody → (f st).isOpen = false) :
    Moves i w { w with built := w.built.modify k f } := by
  obtain ⟨hbound, hentry, hpeer, howned', hnobody', hswapped⟩ := h
  obtain ⟨st₀, hst₀, hcall₀, -⟩ := hk
  refine ⟨⟨?_, ?_, ?_, ?_, ?_, ?_⟩, { Keeps.refl i w with held := ?_, new := ?_ }⟩ <;>
    grind

lemma give (h : w.Ok) (hk : Holds w i k plane) (hq : w.peers[p]? = some q)
    (hslot : q.slot plane = some k) : Moves i w (w.give k p) := by
  refine h.hand hk (fun _ _ => nofun) (fun st p' hst hholder => ?_) (fun _ => nofun)
  grind [Holds]

lemma discard (h : w.Ok) (hk : Holds w i k plane) : Moves i w (w.discard k) :=
  h.hand hk (fun _ _ => nofun) (fun _ _ _ => nofun) (fun _ _ => rfl)

lemma closeStack (h : w.Ok) (stack : Option ℕ) : Moves i w (w.closeStack stack) := by
  cases stack with
  | none => exact h.stay i
  | some k =>
    obtain ⟨hbound, hentry, hpeer, howned, hnobody, hswapped⟩ := h
    refine ⟨⟨?_, ?_, ?_, ?_, ?_, ?_⟩, { Keeps.refl i w with held := ?_, new := ?_ }⟩ <;>
      grind [World.closeStack]

lemma shrink (h : w.Ok) (hfree : w.sessMu = none) {m : AList fun _ : String => ℕ}
    (hlen : m.keys.length ≤ w.peerSessions.keys.length)
    (hsub : ∀ peerID p, m.lookup peerID = some p → w.peerSessions.lookup peerID = some p) :
    Moves i w { w with peerSessions := m } := by
  refine ⟨⟨hlen.trans h.bound, fun peerID p hlook => h.entry peerID p (hsub peerID p hlook), h.peer,
    h.owned, h.nobody, fun n hn => ?_⟩, { Keeps.refl i w with table := by grind }⟩
  obtain ⟨hstop, hmap, hpeers⟩ := h.swapped n hn
  rw [hmap] at hlen
  refine ⟨hstop, AList.ext (List.eq_nil_of_length_eq_zero ?_), hpeers⟩
  rw [← List.length_map Sigma.fst]
  exact Nat.le_zero.1 hlen

lemma detach (h : w.Ok) (hfree : w.sessMu = none) : Moves i w w.detach := by
  obtain ⟨hbound, hentry, hpeer, howned, hnobody, hswapped⟩ := h
  have hslot : ∀ (q : Peer) plane, q.evict.slot plane = q.slot plane := by
    intro q plane
    cases plane <;> grind [Peer.evict, Peer.slot]
  refine ⟨⟨Nat.zero_le _, fun _ _ hlook => (nomatch hlook), ?_, ?_, ?_, ?_⟩,
    { Keeps.refl i w with peers := ?_, table := ?_ }⟩ <;>
    grind [World.detach, Peer.evict, Peer.Ok, Peer.Kept]

end World.Ok

lemma removed_detach (h : w.Ok) {order : List String} :
    ∀ p ∈ order.filterMap w.peerSessions.lookup, Removed w.detach p := by
  intro p hp
  obtain ⟨peerID, -, hlook⟩ := List.mem_filterMap.1 hp
  obtain ⟨q, hq, -, hplace⟩ := h.entry peerID p hlook
  refine ⟨q.evict, ?_, ?_⟩ <;> grind [World.detach, Peer.evict]

/-! ### The stack of a call -/

lemma holdsOnly_build (h : HoldsOnly w i none) :
    HoldsOnly (w.build i plane) i (some w.built.length) := by
  grind [HoldsOnly, World.build]

lemma holds_build (w : World) (i : ℕ) (plane : Plane) :
    Holds (w.build i plane) i w.built.length plane :=
  ⟨_, List.getElem?_concat_length, rfl, rfl⟩

lemma holdsOnly_hand (h : HoldsOnly w i (some k)) {f : Stack → Stack}
    (hcall : ∀ st j, (f st).holder ≠ .call j) :
    HoldsOnly { w with built := w.built.modify k f } i none := by
  intro k' st hst hholder
  grind [HoldsOnly]

lemma holdsOnly_closeStack {stack : Option ℕ} (h : HoldsOnly w i none) :
    HoldsOnly (w.closeStack stack) i none := by
  cases stack <;> grind [HoldsOnly, World.closeStack]

/-! ## The steps of a call -/

/-- The step keeps the invariant, what the others rely on, and what the call itself relies on. -/
structure StepOk (i : ℕ) (w w' : World) (pc' : Pc) : Prop where
  moves : Moves i w w'
  holdsOnly : HoldsOnly w' i pc'.stack
  facts : Facts w' i pc'

lemma StepOk.stay (h : w.Ok) (hholds : HoldsOnly w i pc'.stack) (hfacts : Facts w i pc') :
    StepOk i w w pc' := ⟨h.stay i, hholds, hfacts⟩

lemma Peer.ok_new (peerID : String) (place : Place) : (newPeerSession peerID place).Ok :=
  ⟨fun hne => absurd rfl hne, nofun, rfl⟩

lemma World.Ok.room_of_mayAdmit (hok : w.Ok) {existing : Option ℕ}
    (h : w.mayAdmitPeerLocked existing ≠ false) : w.swapped = none ∧
      (existing = none → w.peerSessions.keys.length < maxPeerSessions) := by
  have hswapped := hok.swapped
  rw [World.mayAdmitPeerLocked] at h
  cases hswap : w.swapped <;> grind

lemma data_ok (h : w.Ok) (hholds : HoldsOnly w i none) {peerID : String}
    (hact : act i c w (.data peerID) = some (w', pc')) : StepOk i w w' pc' := by
  simp only [act] at hact
  split_ifs at hact with hempty hmu
  · cases hact
    exact StepOk.stay h hholds trivial
  · have hlock : Moves i w (w.lock i) := h.lock (not_not.1 hmu)
    split at hact
    case h_1 hlook =>
      cases hact
      exact ⟨hlock, hholds, rfl, hlook⟩
    case h_2 p hlook =>
      obtain ⟨q, -, heq⟩ := Option.map_eq_some_iff.1 hact
      split_ifs at heq <;> cases heq
      · exact StepOk.stay h hholds trivial
      · exact ⟨hlock, hholds, rfl, hlook⟩

lemma admit_ok (h : w.Ok) (hholds : HoldsOnly w i none) {peerID : String} {peer : Option ℕ}
    (hmu : w.sessMu = some i) (hlook : w.peerSessions.lookup peerID = peer) :
    StepOk i w (actAdmit i c peerID peer w).1 (actAdmit i c peerID peer w).2 := by
  unfold actAdmit
  split_ifs with hmay hok
  · exact ⟨h.unlock hmu, hholds, trivial⟩
  · have hbuild : Moves i w (w.build i .data) := h.build .data
    exact ⟨hbuild.trans (hbuild.ok.unlock hmu), holdsOnly_build hholds, .data,
      holds_build w i .data⟩
  · cases peer with
    | some p => exact ⟨h.build .data, holdsOnly_build hholds, hmu, holds_build w i .data⟩
    | none =>
      obtain ⟨hswap, hroom⟩ := h.room_of_mayAdmit hmay
      let q := newPeerSession peerID .enrolled
      have hmake : Moves i w (w.make q) := h.make hswap (Peer.ok_new _ _)
      have henter : Moves i (w.make q) ((w.make q).enter peerID w.peers.length) :=
        hmake.ok.enter (.inr hmu) List.getElem?_concat_length rfl rfl (.inr (hroom rfl)) hswap
      exact ⟨(hmake.trans henter).trans (henter.ok.build .data), holdsOnly_build hholds, hmu,
        holds_build _ i .data⟩

lemma control_ok (h : w.Ok) (hholds : HoldsOnly w i none) {peerID : String}
    (hact : act i c w (.control peerID) = some (w', pc')) : StepOk i w w' pc' := by
  cases hlook : w.peerSessions.lookup peerID with
  | none =>
    simp only [act, hlook] at hact
    split_ifs at hact with hempty hmu hmay <;> cases hact
    · exact StepOk.stay h hholds trivial
    · exact StepOk.stay h hholds trivial
    · obtain ⟨hswap, hroom⟩ := h.room_of_mayAdmit hmay
      exact ⟨h.lock (not_not.1 hmu), hholds, rfl, hlook, fun _ => ⟨hroom rfl, hswap⟩⟩
  | some p =>
    simp only [act, hlook] at hact
    split_ifs at hact with hempty hmu
    · cases hact
      exact StepOk.stay h hholds trivial
    · obtain ⟨q, -, heq⟩ := Option.map_eq_some_iff.1 hact
      split_ifs at heq <;> cases heq
      · exact StepOk.stay h hholds trivial
      · exact ⟨h.lock (not_not.1 hmu), hholds, rfl, hlook, nofun⟩

lemma build_ok (h : w.Ok) (hholds : HoldsOnly w i none) {peerID : String} {peer : Option ℕ}
    (hpc : Facts w i (.buildControl peerID peer)) :
    StepOk i w (actBuild i c peerID peer w).1 (actBuild i c peerID peer w).2 := by
  obtain ⟨hmu, hlook, hnew⟩ := hpc
  unfold actBuild
  split_ifs with hok
  · exact ⟨h.build .control, holdsOnly_build hholds, hmu, .control, holds_build w i .control⟩
  · cases peer with
    | some p =>
      obtain ⟨q, hq, hid, -⟩ := h.entry peerID p hlook
      exact ⟨h.build .control, holdsOnly_build hholds, hmu, ⟨q, hq, .inl (hid ▸ hlook)⟩,
        holds_build w i .control⟩
    | none =>
      obtain ⟨hroom, hswap⟩ := hnew rfl
      have hmake : Moves i w (w.make (newPeerSession peerID (.fresh i))) :=
        h.make hswap (Peer.ok_new _ _)
      exact ⟨hmake.trans (hmake.ok.build .control), holdsOnly_build hholds, hmu,
        ⟨_, List.getElem?_concat_length, .inr ⟨rfl, hlook, hroom, hswap⟩⟩,
        holds_build _ i .control⟩

lemma attach_eq_some {stack : ℕ} (h : q.attach plane stack = some q') :
    q.closed = false ∧ q.slot plane = none ∧ q' = q.setSlot stack plane := by
  grind [Peer.attach, Option.some.inj]

lemma getElem?_put (hq : w.peers[p]? = some q) : (w.put p q').peers[p]? = some q' := by
  grind [World.put]

lemma World.Ok.attach (h : w.Ok) (hq : w.peers[p]? = some q) (hk : Holds w i k plane)
    (hatt : q.attach plane k = some q') : Moves i w ((w.put p q').give k p) := by
  obtain ⟨-, hempty, rfl⟩ := attach_eq_some hatt
  have hok := h.peer p q hq
  have hput : Moves i w (w.put p (q.setSlot k plane)) := by
    refine h.update hq ?_ ?_ ?_ ?_ <;> cases plane
    all_goals first | rfl | exact ⟨hok.removed, hok.closed, hok.teardowns⟩ | skip
    all_goals intro plane' k' hslot; cases plane' <;> grind [Peer.slot, Peer.setSlot]
  refine hput.trans (hput.ok.give hk (getElem?_put hq) ?_)
  cases plane <;> rfl

lemma attach_ok (h : w.Ok) (hholds : HoldsOnly w i (some k)) (hpc : Facts w i (.attach plane p k))
    (hact : act i c w (.attach plane p k) = some (w', pc')) : StepOk i w w' pc' := by
  have hmu : w.sessMu = some i := by cases plane <;> exact hpc.1
  have hk : Holds w i k plane := by
    cases plane with
    | data => exact hpc.2
    | control => exact hpc.2.2
  obtain ⟨q, hq, heq⟩ := Option.map_eq_some_iff.1 hact
  cases hatt : q.attach plane k with
  | none =>
    rw [hatt] at heq
    cases heq
    exact StepOk.stay h hholds ⟨hmu, plane, hk⟩
  | some q' =>
    rw [hatt] at heq
    have hmove := h.attach hq hk hatt
    have hgiven : HoldsOnly ((w.put p q').give k p) i none :=
      holdsOnly_hand (w := w.put p q') hholds fun _ _ => nofun
    cases plane with
    | data =>
      cases heq
      exact ⟨hmove.trans (hmove.ok.unlock hmu), hgiven, trivial⟩
    | control =>
      cases heq
      obtain ⟨-, -, rfl⟩ := attach_eq_some hatt
      obtain ⟨q₀, hq₀, hcases⟩ := hpc.2.1
      obtain rfl : q₀ = q := Option.some.inj (hq₀.symm.trans hq)
      exact ⟨hmove, hgiven, hmu, _, getElem?_put hq, hcases⟩

lemma enrol_ok (h : w.Ok) (hholds : HoldsOnly w i none) (hmu : w.sessMu = some i)
    (he : Enrollable w i p) (hact : act i c w (.enrol p) = some (w', pc')) :
    StepOk i w w' pc' := by
  obtain ⟨q, hq, heq⟩ := Option.map_eq_some_iff.1 hact
  cases heq
  obtain ⟨q₀, hq₀, hcases⟩ := he
  obtain rfl : q₀ = q := Option.some.inj (hq₀.symm.trans hq)
  have hok := h.peer p q₀ hq
  have hplace : q₀.place = .enrolled ∨ q₀.place = .fresh i :=
    hcases.imp (fun hlook => (h.place_eq hq hlook).2) And.left
  have hput : Moves i w (w.put p { q₀ with place := .enrolled }) := by
    refine h.put hq ⟨rfl, ?_, ?_⟩ ⟨?_, hok.closed, hok.teardowns⟩ (fun _ _ => rfl) ?_
    · grind
    · grind
    · grind [hok.removed]
    · intro plane k hslot
      cases plane <;> exact hslot
  have hroom : q₀.peerID ∈ w.peerSessions ∨ w.peerSessions.keys.length < maxPeerSessions :=
    hcases.imp (fun hlook => AList.lookup_isSome.1 (by rw [hlook]; rfl)) fun hf => hf.2.2.1
  have henter := hput.ok.enter (.inr hmu) (getElem?_put hq) rfl rfl hroom
    (hcases.elim h.swapped_eq_none fun hf => hf.2.2.2)
  exact ⟨(hput.trans henter).trans (henter.ok.unlock hmu), hholds, trivial⟩

lemma setHandshake_ok (h : w.Ok) (hholds : HoldsOnly w i none) {sid : String}
    (hact : act i c w (.setHandshake p sid) = some (w', pc')) : StepOk i w w' pc' := by
  obtain ⟨q, hq, heq⟩ := Option.map_eq_some_iff.1 hact
  have hok := h.peer p q hq
  split_ifs at heq <;> cases heq
  · exact StepOk.stay h hholds trivial
  · refine ⟨h.update hq rfl rfl ⟨hok.removed, hok.closed, hok.teardowns⟩ ?_, hholds, trivial⟩
    intro plane k hslot
    cases plane <;> exact hslot

lemma remove_ok (h : w.Ok) (hholds : HoldsOnly w i none)
    (hact : act i c w (.remove p) = some (w', pc')) : StepOk i w w' pc' := by
  simp only [act] at hact
  split_ifs at hact with hmu
  obtain ⟨q, hq, heq⟩ := Option.map_eq_some_iff.1 hact
  split_ifs at heq with hlook <;> cases heq
  · have hok := h.peer p q hq
    -- the entry goes first: while it is in the map, a peer is enrolled
    have hshrink : Moves i w { w with peerSessions := w.peerSessions.erase q.peerID } :=
      h.shrink (not_not.1 hmu) (length_keys_erase_le _ _) fun _ _ h' => (of_lookup_erase h').2
    have hput : Moves i { w with peerSessions := w.peerSessions.erase q.peerID }
        (World.put { w with peerSessions := w.peerSessions.erase q.peerID } p
          { q with place := .removed }) := by
      refine hshrink.ok.put hq ⟨rfl, fun _ => rfl, ?_⟩ ⟨fun _ => rfl, hok.closed, hok.teardowns⟩ ?_
        fun plane k hslot => by cases plane <;> exact hslot
      · grind [h.place_eq hq hlook]
      · grind [h.place_eq hq, → of_lookup_erase]
    exact ⟨hshrink.trans hput, hholds, ⟨_, getElem?_put (w := w) hq, rfl⟩, nofun⟩
  · exact StepOk.stay h hholds trivial

lemma closeSession_ok (h : w.Ok) (hholds : HoldsOnly w i none) {shutdown : Bool}
    (hstop : shutdown = true → w.stopping = true)
    (hact : act i c w (.closeSession shutdown) = some (w', pc')) : StepOk i w w' pc' := by
  simp only [act] at hact
  split_ifs at hact with hfree hshutdown <;> cases hact
  · have hdetach : Moves i w w.detach := h.detach hfree.1
    refine ⟨⟨{ hdetach.ok with swapped := ?_ }, { hdetach.keeps with table := ?_ }⟩, hholds,
      removed_detach h⟩
    · intro n hn
      exact ⟨hstop hshutdown, rfl, (List.length_map _).trans (Option.some.inj hn)⟩
    · grind
  · exact ⟨h.detach hfree.1, hholds, removed_detach h⟩

lemma closeBody_ok (h : w.Ok) (hholds : HoldsOnly w i none) (hq : w.peers[p]? = some q)
    {body : Body} (honce : q.closeOnce = .running j body) :
    Moves i w (closeBody i p q w body) ∧ HoldsOnly (closeBody i p q w body) i none := by
  obtain ⟨hremoved, -, hteardowns⟩ := h.peer p q hq
  rw [honce] at hremoved hteardowns
  -- the body goes on after it may have closed a stack
  have hnext : ∀ (stack : Option ℕ) (closed : Bool) (body : Body), Moves i w
      ((w.closeStack stack).put p { q with closed := closed, closeOnce := .running i body }) := by
    intro stack closed body
    have hclose : Moves i w (w.closeStack stack) := h.closeStack stack
    refine hclose.trans (hclose.ok.update (q := q) ?_ rfl rfl
      ⟨fun _ => hremoved nofun, fun _ => nofun, hteardowns⟩ fun plane k hk => ?_)
    · cases stack <;> exact hq
    · cases plane <;> exact hk
  cases body with
  | snapshot => exact ⟨hnext none true _, hholds⟩
  | control control data => exact ⟨hnext control q.closed _, holdsOnly_closeStack hholds⟩
  | data data => exact ⟨hnext data q.closed _, holdsOnly_closeStack hholds⟩
  | done =>
    refine ⟨h.update hq rfl rfl ⟨fun _ => hremoved nofun, fun _ => nofun, hteardowns⟩ ?_, hholds⟩
    exact fun plane k hk => by cases plane <;> exact hk

lemma close_ok (h : w.Ok) (hholds : HoldsOnly w i none) {rest : List ℕ} {reinstall : Bool}
    (hp : Removed w p) (hrest : ∀ p' ∈ rest, Removed w p')
    (hact : actClose i p rest reinstall w = some (w', pc')) : StepOk i w w' pc' := by
  obtain ⟨q, hq, hplace⟩ := hp
  have hok := h.peer p q hq
  -- whatever the step changes, removed peers stay removed
  have hfacts : ∀ {w' : World}, Moves i w w' → Facts w' i (.close p rest reinstall) :=
    fun hmove => ⟨hmove.keeps.removed ⟨q, hq, hplace⟩,
      fun p' hp' => hmove.keeps.removed (hrest p' hp')⟩
  simp only [actClose, hq] at hact
  cases honce : q.closeOnce with
  | idle =>
    rw [honce] at hact
    cases hact
    have hmove : Moves i w (w.put p
        { q with closeOnce := .running i .snapshot, teardowns := q.teardowns + 1 }) :=
      h.update hq rfl rfl ⟨fun _ => hplace, fun _ => nofun, by simp [hok.teardowns, honce]⟩
        (fun plane k hk => by cases plane <;> exact hk)
    exact ⟨hmove, hholds, hfacts hmove⟩
  | running j body =>
    simp only [honce] at hact
    split_ifs at hact
    cases hact
    obtain ⟨hmove, hholds'⟩ := closeBody_ok h hholds hq honce
    exact ⟨hmove, hholds', hfacts hmove⟩
  | spent =>
    rw [honce] at hact
    cases hact
    exact StepOk.stay h hholds hrest

/-- **Every step keeps the invariant.** -/
lemma act_ok (h : w.Ok) (hholds : HoldsOnly w i pc.stack) (hpc : Facts w i pc)
    (hact : act i c w pc = some (w', pc')) : StepOk i w w' pc' := by
  cases pc with
  | data peerID => exact data_ok h hholds hact
  | admitData peerID peer =>
    have heq : actAdmit i c peerID peer w = (w', pc') := Option.some.inj hact
    have hstep := admit_ok (c := c) h hholds hpc.1 hpc.2
    rwa [heq] at hstep
  | control peerID => exact control_ok h hholds hact
  | buildControl peerID peer =>
    have heq : actBuild i c peerID peer w = (w', pc') := Option.some.inj hact
    have hstep := build_ok (c := c) h hholds hpc
    rwa [heq] at hstep
  | attach plane p k => exact attach_ok h hholds hpc hact
  | lost k =>
    cases hact
    obtain ⟨hmu, plane, hk⟩ := hpc
    have hdiscard : Moves i w (w.discard k) := h.discard hk
    exact ⟨hdiscard.trans (hdiscard.ok.unlock hmu),
      holdsOnly_hand hholds fun _ _ => nofun, trivial⟩
  | drop k =>
    cases hact
    obtain ⟨plane, hk⟩ := hpc
    exact ⟨h.discard hk, holdsOnly_hand hholds fun _ _ => nofun, trivial⟩
  | enrol p => exact enrol_ok h hholds hpc.1 hpc.2 hact
  | setHandshake p sid => exact setHandshake_ok h hholds hact
  | expire p =>
    obtain ⟨q, hq, heq⟩ := Option.map_eq_some_iff.1 hact
    split_ifs at heq <;> cases heq <;> exact StepOk.stay h hholds trivial
  | remove p => exact remove_ok h hholds hact
  | reinstall =>
    simp only [act] at hact
    split_ifs at hact
    cases hact
    exact ⟨h.setReinstallMu (some i), hholds, trivial⟩
  | detach =>
    simp only [act] at hact
    split_ifs at hact with hfree
    cases hact
    exact ⟨h.detach hfree.1, hholds, removed_detach h⟩
  | shutdown =>
    cases hact
    exact ⟨h.stop, hholds, fun _ => rfl⟩
  | closeSession shutdown => exact closeSession_ok h hholds hpc hact
  | close p rest reinstall => exact close_ok h hholds hpc.1 hpc.2 hact
  | closeRest ps reinstall =>
    cases ps with
    | nil =>
      cases reinstall <;> cases hact
      · exact StepOk.stay h hholds trivial
      · exact ⟨h.setReinstallMu none, hholds, trivial⟩
    | cons p rest =>
      cases hact
      exact StepOk.stay h hholds
        ⟨hpc p List.mem_cons_self, fun p' hp' => hpc p' (List.mem_cons_of_mem _ hp')⟩
  | finished => cases hact

/-! ## Whole runs -/

def discipline : Calls.Discipline Pc.isEntry act where
  WorldOk := World.Ok
  CallOk := CallOk
  Keeps := Keeps
  entry {_ _ pc} hentry hholds := by
    cases pc with
    | closeSession shutdown =>
      cases shutdown with
      | false => exact ⟨hholds, nofun⟩
      | true => cases hentry
    | data | control | setHandshake | expire | remove | reinstall | shutdown =>
      exact ⟨hholds, trivial⟩
    | _ => cases hentry
  others hkeeps hne hcall := hkeeps.callOk hne hcall
  act hworld hpc hact :=
    have hstep := act_ok hworld hpc.1 hpc.2 hact
    ⟨hstep.moves.ok, hstep.moves.keeps, hstep.holdsOnly, hstep.facts⟩

lemma ok_init (controlPlane : Bool) : (World.init controlPlane).Ok where
  bound := Nat.zero_le _
  entry _ _ hlook := by cases hlook
  peer _ _ hq := by cases hq
  owned _ _ _ hst := by cases hst
  nobody _ _ hst := by cases hst
  swapped _ hn := by cases hn

lemma ok_run (controlPlane : Bool) (events : List Event) :
    discipline.Ok (run step ⟨World.init controlPlane, []⟩ events) :=
  discipline.ok_run (ok_init controlPlane) (fun _ _ _ hst => by cases hst) events

/-- **The peer table**, after any interleaving of calls. -/
theorem peer_table (controlPlane : Bool) (events : List Event) (s : State)
    (hs : s = run step ⟨World.init controlPlane, []⟩ events) :
    s.world.peerSessions.keys.length ≤ 128 ∧
    (∀ peerID p, s.world.peerSessions.lookup peerID = some p →
      ∃ q : Peer, s.world.peers[p]? = some q ∧ q.peerID = peerID ∧ q.closed = false ∧
        q.closeOnce = .idle) ∧
    (∀ (k k' p : ℕ) (st st' : Stack), s.world.built[k]? = some st →
      s.world.built[k']? = some st' → st.holder = .peer p → st'.holder = .peer p →
      st.plane = st'.plane → k = k') ∧
    (∀ (k : ℕ) (st : Stack), s.world.built[k]? = some st → st.isOpen = true →
      (∃ p, st.holder = .peer p) ∨ ∃ (i : ℕ) (pc : Pc), s.calls[i]? = some pc ∧
        pc.stack = some k) ∧
    (∀ q ∈ s.world.peers, q.teardowns ≤ 1) ∧
    (∀ n, s.world.swapped = some n → s.world.peerSessions = ∅ ∧ s.world.peers.length = n) := by
  obtain ⟨hworld, hcalls⟩ := hs ▸ ok_run controlPlane events
  have h : s.world.Ok := hworld
  refine ⟨h.bound, ?_, ?_, ?_, ?_, fun n hn => (h.swapped n hn).2⟩
  · intro peerID p hlook
    obtain ⟨q, hq, hid, hplace⟩ := h.entry peerID p hlook
    have hok := h.peer p q hq
    have hidle : q.closeOnce = .idle := by
      by_contra hne
      cases hplace.symm.trans (hok.removed hne)
    refine ⟨q, hq, hid, ?_, hidle⟩
    by_contra hclosed
    exact hok.closed (by simpa using hclosed) hidle
  · intro k k' p st st' hst hst' hholder hholder' hplane
    obtain ⟨q, hq, hslot⟩ := h.owned k p st hst hholder
    obtain ⟨q', hq', hslot'⟩ := h.owned k' p st' hst' hholder'
    rw [hq, Option.some.injEq] at hq'
    rw [← hq', ← hplane, hslot] at hslot'
    exact Option.some.inj hslot'
  · intro k st hst hopen
    cases hholder : st.holder with
    | peer p => exact Or.inl ⟨p, rfl⟩
    | nobody =>
      rw [h.nobody k st hst hholder] at hopen
      cases hopen
    | call i =>
      right
      have hcall : CallOk s.world i s.calls[i]? := hcalls i
      cases hpc : s.calls[i]? with
      | none =>
        rw [hpc] at hcall
        cases hcall k st hst hholder
      | some pc =>
        rw [hpc] at hcall
        exact ⟨i, pc, hpc, hcall.1 k st hst hholder⟩
  · intro q hq
    obtain ⟨p, hq⟩ := List.mem_iff_getElem?.1 hq
    rw [(h.peer p q hq).teardowns]
    split_ifs <;> omega

def steps (n call : ℕ) (order : List String) : List Event :=
  List.replicate n (.step call ⟨true, order⟩)

/-- A peer with a stack on both planes is there when `shutdown` swaps the map out; another frame
comes too late. -/
theorem peer_table_shutdown :
    let s := run step ⟨World.init true, []⟩
      (.begin (.control "p") :: steps 5 0 [] ++ .begin (.data "p") :: steps 4 1 [] ++
        .begin .shutdown :: steps 9 2 ["p"] ++ .begin (.data "q") :: steps 3 3 [])
    (s.world.built.map fun st => (st.holder, st.isOpen)) = [(.peer 0, false), (.peer 0, false)] ∧
      s.world.peerSessions = ∅ ∧ s.world.peers.length = 1 := by
  intro s
  have htable := peer_table true (.begin (.control "p") :: steps 5 0 [] ++
    .begin (.data "p") :: steps 4 1 [] ++ .begin .shutdown :: steps 9 2 ["p"] ++
    .begin (.data "q") :: steps 3 3 []) s rfl
  have hbuilt : (s.world.built.map fun st => (st.holder, st.isOpen)) =
      [(.peer 0, false), (.peer 0, false)] := by decide +kernel
  have hswapped : s.world.swapped = some 1 := by decide +kernel
  exact ⟨hbuilt, htable.2.2.2.2.2 1 hswapped⟩

end OlcRtc.PeerStacks
