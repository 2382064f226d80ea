import OlcRtc.Lib.Calls
import OlcRtc.Vp8.Peers

/-!
# Who closes the runtimes of a peer

A session of the peer table owns a data runtime from the start and a control runtime from the first
call of `peerControlFor` on.  `close` is to release both.  Three locks are involved: `mu` guards the
table, `createMu` the creation of sessions, and `controlMu` the control runtime of one session.  A
call that has looked a session up holds none of them, so the session can be closed under its hands.

* `Peer` is a session object.  Objects are never freed, and the table maps epochs to indices.
* A call is a program counter, `Pc`; `act` is its next step, and has no value if the call has to
  wait.  Sections under `controlMu` and short ones under `mu` are one step each.  `add` holds `mu`
  while it closes the session it evicts, so there `mu` is held over several steps.
* `close` runs inside `closeOnce`: the first call runs the body step by step, later ones wait.

`place` and `late` are not in the source; they record where an object stands and whether a control
runtime was created after `close` had already taken the control runtime away.

**`peers_owned`** says that the table is bounded and holds live sessions under their own epochs, and
that a closed session leaves exactly its late control runtimes open.  There are such:
`late_control_leaks`.
-/

namespace OlcRtc.PeerRuntimes

/-- The body of `close`, by what it does next. -/
inductive Body
  | data
  | takeControl
  | closeControl (control : Option ℕ)
  | done
deriving DecidableEq, Repr

/-- `closeOnce`. -/
inductive Once
  | idle
  | running (call : ℕ) (body : Body)
  | spent
deriving DecidableEq, Repr

namespace Once

def dataClosed : Once → Bool
  | .idle => false
  | .running _ .data => false
  | _ => true

def taken : Once → Bool
  | .idle => false
  | .running _ .data => false
  | .running _ .takeControl => false
  | _ => true

end Once

inductive Place
  | fresh (call : ℕ)
  | installed
  | removed
deriving DecidableEq, Repr

/-- `peerSession`.  `control` is an index into the control runtimes. -/
structure Peer where
  epoch : UInt32
  dataOpen : Bool
  control : Option ℕ
  closeOnce : Once
  lastSeen : ℕ
  place : Place
deriving DecidableEq, Repr

/-- A control runtime and the session it was created for. -/
structure ControlRuntime where
  session : ℕ
  isOpen : Bool
  late : Bool
deriving DecidableEq, Repr

/-- What a call is for: a data frame, or `peerControlFor`. -/
inductive Goal
  | data
  | control
deriving DecidableEq, Repr

/-- What follows a `close`: the rest of `add`, the end of a refused `peerSessionFor`, or the other
sessions of a sweep. -/
inductive Next
  | insert (session : ℕ) (goal : Goal)
  | refused
  | rest (sessions : List ℕ)
deriving DecidableEq, Repr

/-- Where a call stands.  `peek` is a look at a session by somebody who does not create one. -/
inductive Pc
  | peek (epoch : UInt32)
  | get (epoch : UInt32) (goal : Goal)
  | create (epoch : UInt32) (goal : Goal)
  | recheck (epoch : UInt32) (goal : Goal)
  | start (epoch : UInt32) (goal : Goal)
  | add (session : ℕ) (goal : Goal)
  | insert (session : ℕ) (goal : Goal)
  | close (session : ℕ) (next : Next)
  | control (session : ℕ)
  | sweep
  | closeAll
  | closeRest (sessions : List ℕ)
  | finished
deriving DecidableEq, Repr

/-- The session is found or made. -/
def Goal.after (session : ℕ) : Goal → Pc
  | .data => .finished
  | .control => .control session

/-- The table, all session objects and all control runtimes so far. -/
structure World where
  sessions : AList fun _ : UInt32 => ℕ
  closed : Bool
  mu : Option ℕ
  createMu : Option ℕ
  heap : List Peer
  controls : List ControlRuntime

/-- What a step depends on besides the state: the time, whether `startKCP` succeeds, and the order
in which a map is traversed. -/
structure Choice where
  now : ℕ
  ok : Bool
  order : List UInt32

namespace World

def init : World := ⟨∅, false, none, none, [], []⟩

def put (w : World) (k : ℕ) (p : Peer) : World := { w with heap := w.heap.set k p }

def touch (w : World) (k now : ℕ) : World :=
  { w with heap := w.heap.modify k fun p => { p with lastSeen := now } }

def setPlace (w : World) (k : ℕ) (place : Place) : World :=
  { w with heap := w.heap.modify k fun p => { p with place := place } }

/-- `delete(t.sessions, epoch)`. -/
def release (w : World) (epoch : UInt32) : World :=
  match w.sessions.lookup epoch with
  | none => w
  | some k => { w.setPlace k .removed with sessions := w.sessions.erase epoch }

def sessionAt (w : World) (epoch : UInt32) : Option (ℕ × Peer) :=
  (w.sessions.lookup epoch).bind fun k => w.heap[k]?.map fun p => (k, p)

/-- The comparison in the loop of `evictOldestLocked`. -/
def older (oldest : Option (ℕ × Peer)) (sess : ℕ × Peer) : Option (ℕ × Peer) :=
  match oldest with
  | none => some sess
  | some old => if sess.2.lastSeen < old.2.lastSeen then some sess else some old

def oldest (w : World) (order : List UInt32) : Option (ℕ × Peer) :=
  (order.filterMap w.sessionAt).foldl older none

def stale (w : World) (c : Choice) : List UInt32 :=
  c.order.filter fun epoch =>
    match w.sessionAt epoch with
    | none => false
    | some (_, p) => p.lastSeen < c.now - peerIdleTTL

end World

/-- A look into the table; the call waits while `mu` is held. -/
def lookUp (w : World) (epoch : UInt32) (now : ℕ) (found : World → ℕ → World × Pc)
    (missing : Pc) : Option (World × Pc) :=
  if w.mu ≠ none then none
  else
    match w.sessions.lookup epoch with
    | none => some (w, missing)
    | some k => some (found (w.touch k now) k)

/-- `add` up to the eviction. -/
def actAdd (i : ℕ) (c : Choice) (k : ℕ) (goal : Goal) (w : World) : Option (World × Pc) :=
  match w.heap[k]? with
  | none => none
  | some p =>
    if w.mu ≠ none then none
    else if w.closed = true ∨ (w.sessions.lookup p.epoch).isSome then
      some (w.put k { p with place := .removed }, .close k .refused)
    else if maxPeers ≤ w.sessions.keys.length then
      if c.order.Perm w.sessions.keys then
        match w.oldest c.order with
        | none => some ({ w with mu := some i }, .insert k goal)
        | some (old, q) =>
          some ({ w.release q.epoch with mu := some i }, .close old (.insert k goal))
      else none
    else some ({ w with mu := some i }, .insert k goal)

/-- The end of `add` and of `peerSessionFor`. -/
def actInsert (c : Choice) (k : ℕ) (goal : Goal) (w : World) : Option (World × Pc) :=
  match w.heap[k]? with
  | none => none
  | some p =>
    some ({ w.put k { p with lastSeen := c.now, place := .installed } with
      sessions := w.sessions.insert p.epoch k, mu := none, createMu := none }, goal.after k)

/-- What comes after `close` has returned. -/
def Next.resume (w : World) : Next → World × Pc
  | .insert k goal => (w, .insert k goal)
  | .refused => ({ w with createMu := none }, .finished)
  | .rest ks => (w, .closeRest ks)

/-- One step of the body of `close`. -/
def closeBody (i : ℕ) (k : ℕ) (p : Peer) (w : World) : Body → World
  | .data => w.put k { p with dataOpen := false, closeOnce := .running i .takeControl }
  | .takeControl =>
    w.put k { p with control := none, closeOnce := .running i (.closeControl p.control) }
  | .closeControl none => w.put k { p with closeOnce := .running i .done }
  | .closeControl (some r) =>
    { w.put k { p with closeOnce := .running i .done } with
      controls := w.controls.modify r fun rt => { rt with isOpen := false } }
  | .done => w.put k { p with closeOnce := .spent }

/-- `close`. -/
def actClose (i : ℕ) (k : ℕ) (next : Next) (w : World) : Option (World × Pc) :=
  match w.heap[k]? with
  | none => none
  | some p =>
    match p.closeOnce with
    | .idle => some (w.put k { p with closeOnce := .running i .data }, .close k next)
    | .running j body =>
      if j = i then some (closeBody i k p w body, .close k next) else none
    | .spent => some (next.resume w)

/-- `peerControlFor` once it has the session. -/
def actControl (c : Choice) (k : ℕ) (w : World) : Option (World × Pc) :=
  match w.heap[k]? with
  | none => none
  | some p =>
    if p.control = none ∧ c.ok = true then
      some ({ w.put k { p with control := some w.controls.length } with
        controls := w.controls ++ [⟨k, true, p.closeOnce.taken⟩] }, .finished)
    else some (w, .finished)

/-- The next step of call `i`, unless it has to wait. -/
def act (i : ℕ) (c : Choice) (w : World) : Pc → Option (World × Pc)
  | .peek epoch => lookUp w epoch c.now (fun w _ => (w, .finished)) .finished
  | .get epoch goal =>
    lookUp w epoch c.now (fun w k => (w, goal.after k)) (.create epoch goal)
  | .create epoch goal =>
    if w.createMu ≠ none then none
    else some ({ w with createMu := some i }, .recheck epoch goal)
  | .recheck epoch goal =>
    lookUp w epoch c.now (fun w k => ({ w with createMu := none }, goal.after k))
      (.start epoch goal)
  | .start epoch goal =>
    if c.ok then
      some ({ w with heap := w.heap ++ [⟨epoch, true, none, .idle, 0, .fresh i⟩] },
        .add w.heap.length goal)
    else some ({ w with createMu := none }, .finished)
  | .add k goal => actAdd i c k goal w
  | .insert k goal => actInsert c k goal w
  | .close k next => actClose i k next w
  | .control k => actControl c k w
  | .sweep =>
    if w.mu = none ∧ c.order.Perm w.sessions.keys then
      some ((w.stale c).foldl World.release w,
        .closeRest ((w.stale c).filterMap w.sessions.lookup))
    else none
  | .closeAll =>
    if w.mu = none ∧ c.order.Perm w.sessions.keys then
      some ({ c.order.foldl World.release w with sessions := ∅, closed := true },
        .closeRest (c.order.filterMap w.sessions.lookup))
    else none
  | .closeRest [] => some (w, .finished)
  | .closeRest (k :: ks) => some (w, .close k (.rest ks))
  | .finished => none

def Pc.isEntry : Pc → Bool
  | .peek _ => true
  | .get _ _ => true
  | .sweep => true
  | .closeAll => true
  | _ => false

abbrev State := Calls.State World Pc

abbrev Event := Calls.Event Pc Choice

def State.init : State := ⟨World.init, []⟩

def step : State → Event → State := Calls.step Pc.isEntry act

/-! ## The invariant -/

/-- The session will close control runtime `r`, if it is closed at all. -/
def Peer.Owns (p : Peer) (r : ℕ) : Prop :=
  (p.closeOnce.taken = false ∧ p.control = some r) ∨
    ∃ i, p.closeOnce = .running i (.closeControl (some r))

/-- Only removed sessions are closed, and the body of `close` has come as far as it says. -/
structure Peer.Ok (p : Peer) : Prop where
  removed : p.closeOnce ≠ .idle → p.place = .removed
  data : p.dataOpen = !p.closeOnce.dataClosed

/-- The table is bounded and holds installed sessions; late control runtimes stay open, and the
others belong to their session as long as they are open. -/
structure World.Ok (w : World) : Prop where
  bound : w.sessions.keys.length ≤ maxPeers
  entry : ∀ epoch k, w.sessions.lookup epoch = some k →
    ∃ p : Peer, w.heap[k]? = some p ∧ p.epoch = epoch ∧ p.place = .installed
  peer : ∀ (k : ℕ) (p : Peer), w.heap[k]? = some p → p.Ok
  late : ∀ (r : ℕ) (rt : ControlRuntime), w.controls[r]? = some rt → rt.late = true →
    rt.isOpen = true
  owned : ∀ (r : ℕ) (rt : ControlRuntime), w.controls[r]? = some rt → rt.late = false →
    rt.isOpen = true → ∃ p : Peer, w.heap[rt.session]? = some p ∧ p.Owns r
  early : ∀ (k : ℕ) (p : Peer) (r : ℕ), w.heap[k]? = some p → p.Owns r →
    ∃ rt : ControlRuntime, w.controls[r]? = some rt ∧ rt.late = false

/-- What a step of call `i` leaves of an object. -/
structure Peer.Kept (i : ℕ) (p p' : Peer) : Prop where
  epoch : p'.epoch = p.epoch
  removed : p.place = .removed → p'.place = .removed
  fresh : ∀ j, j ≠ i → p.place = .fresh j → p'.place = .fresh j

/-- What a step of call `i` leaves to the other calls. -/
structure Keeps (i : ℕ) (w w' : World) : Prop where
  peers : ∀ (k : ℕ) (p : Peer), w.heap[k]? = some p →
    ∃ p' : Peer, w'.heap[k]? = some p' ∧ p.Kept i p'
  table : ∀ j, j ≠ i → w.mu = some j → w'.mu = some j ∧ w'.sessions = w.sessions

/-- Call `i` has made session `k` and not installed it yet. -/
def Fresh (w : World) (i k : ℕ) : Prop := ∃ p : Peer, w.heap[k]? = some p ∧ p.place = .fresh i

def Removed (w : World) (k : ℕ) : Prop := ∃ p : Peer, w.heap[k]? = some p ∧ p.place = .removed

/-- Call `i` holds `mu`, and there is room for its session. -/
structure HoldsMu (w : World) (i k : ℕ) : Prop where
  fresh : Fresh w i k
  mu : w.mu = some i
  room : w.sessions.keys.length < maxPeers
  vacant : ∀ p : Peer, w.heap[k]? = some p → w.sessions.lookup p.epoch = none

def NextOk (w : World) (i : ℕ) : Next → Prop
  | .insert k _ => HoldsMu w i k
  | .refused => True
  | .rest ks => ∀ k ∈ ks, Removed w k

/-- What call `i` may rely on. -/
def PcOk (w : World) (i : ℕ) : Pc → Prop
  | .add k _ => Fresh w i k
  | .insert k _ => HoldsMu w i k
  | .close k next => Removed w k ∧ NextOk w i next
  | .closeRest ks => ∀ k ∈ ks, Removed w k
  | _ => True

variable {w w' w'' : World} {i j k : ℕ} {p p' : Peer} {pc pc' : Pc} {c : Choice}

lemma Peer.kept_refl (i : ℕ) (p : Peer) : p.Kept i p := ⟨rfl, id, fun _ _ => id⟩

lemma Peer.Kept.trans {p'' : Peer} (h : p.Kept i p') (h' : p'.Kept i p'') : p.Kept i p'' :=
  ⟨h'.epoch.trans h.epoch, h'.removed ∘ h.removed, fun j hj => h'.fresh j hj ∘ h.fresh j hj⟩

namespace Keeps

lemma refl (i : ℕ) (w : World) : Keeps i w w :=
  ⟨fun _ p hp => ⟨p, hp, p.kept_refl i⟩, fun _ _ hmu => ⟨hmu, rfl⟩⟩

lemma trans (h : Keeps i w w') (h' : Keeps i w' w'') : Keeps i w w'' := by
  obtain ⟨hpeers, htable⟩ := h
  obtain ⟨hpeers', htable'⟩ := h'
  constructor <;> grind [Peer.Kept.trans]

lemma of_free (hpeers : ∀ (k : ℕ) (p : Peer), w.heap[k]? = some p →
      ∃ p' : Peer, w'.heap[k]? = some p' ∧ p.Kept i p')
    (hmu : w.mu = none ∨ w.mu = some i) : Keeps i w w' :=
  ⟨hpeers, by grind⟩

lemma fresh (h : Keeps i w w') (hij : j ≠ i) (hf : Fresh w j k) : Fresh w' j k := by
  obtain ⟨p, hp, hplace⟩ := hf
  obtain ⟨p', hp', hkept⟩ := h.peers k p hp
  exact ⟨p', hp', hkept.fresh j hij hplace⟩

lemma removed (h : Keeps i w w') (hr : Removed w k) : Removed w' k := by
  obtain ⟨p, hp, hplace⟩ := hr
  obtain ⟨p', hp', hkept⟩ := h.peers k p hp
  exact ⟨p', hp', hkept.removed hplace⟩

lemma holdsMu (h : Keeps i w w') (hij : j ≠ i) (hm : HoldsMu w j k) : HoldsMu w' j k := by
  obtain ⟨hmu, hsessions⟩ := h.table j hij hm.mu
  obtain ⟨p, hp, -⟩ := hm.fresh
  obtain ⟨p', hp', hkept⟩ := h.peers k p hp
  exact ⟨h.fresh hij hm.fresh, hmu, by grind [hm.room], by grind [hm.vacant p hp, hkept.epoch]⟩

/-- **The other calls may still rely on what they relied on.** -/
lemma pcOk (h : Keeps i w w') (hij : j ≠ i) (hpc : PcOk w j pc) : PcOk w' j pc := by
  cases pc with
  | close k next => cases next <;> grind [PcOk, NextOk, Keeps.removed, Keeps.holdsMu]
  | _ => grind [PcOk, Keeps.fresh, Keeps.removed, Keeps.holdsMu]

end Keeps

/-! ### Writing a session object -/

lemma getElem?_put (hp : w.heap[k]? = some p) : (w.put k p').heap[k]? = some p' := by
  grind [World.put]

lemma modify_eq_put {f : Peer → Peer} (hp : w.heap[k]? = some p) :
    { w with heap := w.heap.modify k f } = w.put k (f p) := by
  grind [World.put, List.modify_eq_set_getElem?]

lemma keeps_put (hp : w.heap[k]? = some p) (hkept : p.Kept i p') : Keeps i w (w.put k p') := by
  have hrefl := Peer.kept_refl i
  constructor <;> grind [World.put]

namespace World.Ok

lemma congr (h : w.Ok) (hsessions : w'.sessions = w.sessions) (hheap : w'.heap = w.heap)
    (hcontrols : w'.controls = w.controls) : w'.Ok := by
  obtain ⟨hbound, hentry, hpeer, hlate, howned, hearly⟩ := h
  constructor <;> grind

lemma place_eq (h : w.Ok) (hp : w.heap[k]? = some p) {epoch : UInt32}
    (hk : w.sessions.lookup epoch = some k) : p.place = .installed := by
  grind [h.entry epoch k hk]

lemma put (h : w.Ok) (hp : w.heap[k]? = some p) (hepoch : p'.epoch = p.epoch)
    (hplace : ∀ epoch, w.sessions.lookup epoch = some k → p'.place = .installed) (hok : p'.Ok)
    (howns : ∀ r, p'.Owns r ↔ p.Owns r) : (w.put k p').Ok := by
  obtain ⟨hbound, hentry, hpeer, hlate, howned, hearly⟩ := h
  constructor <;> grind [World.put]

end World.Ok

/-! ### Entries of the table -/

lemma World.Ok.touched (h : w.Ok) {epoch : UInt32} (hk : w.sessions.lookup epoch = some k)
    (now : ℕ) : (w.touch k now).Ok ∧ Keeps i w (w.touch k now) := by
  obtain ⟨p, hp, -⟩ := h.entry epoch k hk
  rw [World.touch, modify_eq_put hp]
  have hok := h.peer k p hp
  exact ⟨h.put hp rfl (fun _ => h.place_eq hp) ⟨hok.removed, hok.data⟩ fun _ => Iff.rfl,
    keeps_put hp ⟨rfl, id, fun _ _ => id⟩⟩

lemma lookup_erase_eq (m : AList fun _ : UInt32 => ℕ) (e epoch : UInt32) :
    (m.erase epoch).lookup e = if e = epoch then none else m.lookup e := by
  split_ifs with he
  · rw [he, AList.lookup_erase]
  · rw [AList.lookup_erase_ne he]

lemma ok_release (h : w.Ok) (hmu : w.mu = none) (epoch : UInt32) :
    (w.release epoch).Ok ∧ Keeps i w (w.release epoch) ∧ (w.release epoch).mu = none ∧
      ∀ k, w.sessions.lookup epoch = some k → Removed (w.release epoch) k := by
  cases hlook : w.sessions.lookup epoch with
  | none =>
    have hsame : w.release epoch = w := by rw [World.release, hlook]
    rw [hsame]
    exact ⟨h, Keeps.refl i w, hmu, fun k hk => by cases hk⟩
  | some k =>
    obtain ⟨p, hp, hepoch, hplace⟩ := h.entry epoch k hlook
    have hrelease : w.release epoch = { w with
        sessions := w.sessions.erase epoch
        heap := w.heap.set k { p with place := .removed } } := by
      rw [World.release, hlook]
      show { w.setPlace k .removed with sessions := w.sessions.erase epoch } = _
      rw [World.setPlace, modify_eq_put hp]
      rfl
    have hlen := length_keys_erase_le w.sessions epoch
    have herase := lookup_erase_eq w.sessions
    have hrefl := Peer.kept_refl i
    have hkept : p.Kept i { p with place := .removed } := ⟨rfl, fun _ => rfl, by grind⟩
    have hok : { p with place := .removed : Peer }.Ok := ⟨fun _ => rfl, (h.peer k p hp).data⟩
    have howns : ∀ r, { p with place := .removed : Peer }.Owns r ↔ p.Owns r := fun _ => Iff.rfl
    obtain ⟨hbound, hentry, hpeer, hlate, howned, hearly⟩ := h
    rw [hrelease]
    refine ⟨⟨?_, ?_, ?_, ?_, ?_, ?_⟩, ⟨?_, ?_⟩, hmu, ?_⟩ <;> grind [Removed]

lemma lookup_release_ne {e epoch : UInt32} (hne : e ≠ epoch) :
    (w.release epoch).sessions.lookup e = w.sessions.lookup e := by
  unfold World.release
  cases w.sessions.lookup epoch with
  | none => rfl
  | some k => exact AList.lookup_erase_ne hne

lemma ok_releaseAll (epochs : List UInt32) : ∀ {w : World}, w.Ok → w.mu = none → epochs.Nodup →
    (epochs.foldl World.release w).Ok ∧ Keeps i w (epochs.foldl World.release w) ∧
      ∀ k ∈ epochs.filterMap w.sessions.lookup, Removed (epochs.foldl World.release w) k := by
  induction epochs with
  | nil =>
    intro w h _ _
    exact ⟨h, Keeps.refl i w, fun k hk => by cases hk⟩
  | cons epoch epochs ih =>
    intro w h hmu hnodup
    obtain ⟨hnew, hnodup⟩ := List.nodup_cons.1 hnodup
    obtain ⟨hok, hkeeps, hmu', hremoved⟩ := ok_release (i := i) h hmu epoch
    obtain ⟨hok', hkeeps', hremoved'⟩ := ih hok hmu' hnodup
    refine ⟨hok', hkeeps.trans hkeeps', fun k hk => ?_⟩
    obtain ⟨e, he, hlook⟩ := List.mem_filterMap.1 hk
    rcases List.mem_cons.1 he with rfl | hlater
    · exact hkeeps'.removed (hremoved k hlook)
    · refine hremoved' k (List.mem_filterMap.2 ⟨e, hlater, ?_⟩)
      rw [lookup_release_ne, hlook]
      rintro rfl
      exact hnew hlater

/-! ## What a step does -/

/-- What call `i` has to leave behind. -/
structure StepOk (i : ℕ) (w w' : World) (pc' : Pc) : Prop where
  world : w'.Ok
  keeps : Keeps i w w'
  pc : PcOk w' i pc'

lemma pcOk_after (goal : Goal) : PcOk w i (goal.after k) := by
  cases goal <;> trivial

lemma StepOk.of_keeps (h : w'.Ok) (hkeeps : ∀ j, Keeps j w w') (hpc : PcOk w i pc') :
    StepOk i w w' pc' :=
  ⟨h, hkeeps i, (hkeeps (i + 1)).pcOk (Nat.ne_of_lt (Nat.lt_succ_self i)) hpc⟩

lemma StepOk.of_createMu (h : w.Ok) (lock : Option ℕ) (hpc : PcOk w i pc') :
    StepOk i w { w with createMu := lock } pc' := by
  have hrefl := Peer.kept_refl
  exact StepOk.of_keeps (h.congr rfl rfl rfl) (fun j => ⟨by grind, by grind⟩) hpc

lemma lookUp_eq_some {epoch : UInt32} {now : ℕ} {found : World → ℕ → World × Pc} {missing : Pc}
    {result : World × Pc} (h : lookUp w epoch now found missing = some result) :
    result = (w, missing) ∨
      ∃ k, w.sessions.lookup epoch = some k ∧ result = found (w.touch k now) k := by
  unfold lookUp at h
  split_ifs at h
  cases hlook : w.sessions.lookup epoch with
  | none =>
    rw [hlook] at h
    exact Or.inl (Option.some.inj h).symm
  | some k =>
    grind

lemma stepOk_start (h : w.Ok) (epoch : UInt32) (goal : Goal) :
    StepOk i w { w with heap := w.heap ++ [⟨epoch, true, none, .idle, 0, .fresh i⟩] }
      (.add w.heap.length goal) := by
  have hok : Peer.Ok ⟨epoch, true, none, .idle, 0, .fresh i⟩ := ⟨fun hne => absurd rfl hne, rfl⟩
  have hrefl := Peer.kept_refl i
  obtain ⟨hbound, hentry, hpeer, hlate, howned, hearly⟩ := h
  refine ⟨⟨hbound, ?_, ?_, hlate, ?_, ?_⟩, ⟨?_, fun _ _ hmu => ⟨hmu, rfl⟩⟩,
    ⟨_, List.getElem?_concat_length, rfl⟩⟩ <;> grind [Peer.Owns]

/-! ### `add` -/

lemma foldl_older (sessions : List (ℕ × Peer)) : ∀ acc : Option (ℕ × Peer),
    (∀ x, sessions.foldl World.older acc = some x → acc = some x ∨ x ∈ sessions) ∧
    (sessions.foldl World.older acc = none → acc = none ∧ sessions = []) := by
  induction sessions with
  | nil => exact fun acc => ⟨fun x hx => Or.inl hx, fun hnone => ⟨hnone, rfl⟩⟩
  | cons sess sessions ih =>
    intro acc
    obtain ⟨hsome, hnone⟩ := ih (World.older acc sess)
    have hstep : World.older acc sess = acc ∧ acc ≠ none ∨ World.older acc sess = some sess := by
      unfold World.older
      cases acc with
      | none => exact Or.inr rfl
      | some old =>
        grind
    constructor
    · grind
    · grind

lemma oldest_eq_some {order : List UInt32} {old : ℕ} {q : Peer} (h : w.Ok)
    (hold : w.oldest order = some (old, q)) : w.sessions.lookup q.epoch = some old := by
  rcases (foldl_older _ none).1 _ hold with hnone | hmem
  · cases hnone
  · obtain ⟨epoch, -, hat⟩ := List.mem_filterMap.1 hmem
    obtain ⟨k, hk, hat⟩ := Option.bind_eq_some_iff.1 hat
    obtain ⟨p, hp, hpair⟩ := Option.map_eq_some_iff.1 hat
    obtain ⟨rfl, rfl⟩ := Prod.mk.inj hpair
    obtain ⟨p', hp', hepoch, -⟩ := h.entry epoch k hk
    rw [hp, Option.some.injEq] at hp'
    rw [hp', hepoch, hk]

lemma oldest_ne_none {order : List UInt32} (h : w.Ok) (horder : order.Perm w.sessions.keys)
    (hne : w.sessions.keys ≠ []) : w.oldest order ≠ none := by
  intro hnone
  obtain ⟨-, hnil⟩ := (foldl_older _ none).2 hnone
  obtain ⟨epoch, hepoch⟩ := List.exists_mem_of_ne_nil _ hne
  obtain ⟨k, hk⟩ := Option.isSome_iff_exists.1 (AList.lookup_isSome.2 (AList.mem_keys.2 hepoch))
  obtain ⟨p, hp, -⟩ := h.entry epoch k hk
  have hmem : (k, p) ∈ order.filterMap w.sessionAt := by
    refine List.mem_filterMap.2 ⟨epoch, horder.mem_iff.2 hepoch, ?_⟩
    rw [World.sessionAt, hk, Option.bind_some, hp]
    rfl
  rw [hnil] at hmem
  cases hmem

lemma length_keys_release {epoch : UInt32} (hk : w.sessions.lookup epoch = some k) :
    (w.release epoch).sessions.keys.length + 1 = w.sessions.keys.length := by
  have hmem : epoch ∈ w.sessions.keys := AList.lookup_isSome.1 (by rw [hk]; rfl)
  have hpos := List.length_pos_of_mem hmem
  rw [World.release, hk]
  show (w.sessions.erase epoch).keys.length + 1 = _
  rw [AList.keys_erase, List.length_erase_of_mem hmem]
  omega

lemma actAdd_ok (h : w.Ok) {goal : Goal} (hpc : Fresh w i k)
    (hact : actAdd i c k goal w = some (w', pc')) : StepOk i w w' pc' := by
  obtain ⟨p, hp, hplace⟩ := hpc
  simp only [actAdd, hp] at hact
  split_ifs at hact with hmu hrefused hfull horder
  · -- refused
    cases hact
    refine ⟨h.put hp rfl (by grind [h.place_eq hp]) ⟨fun _ => rfl, (h.peer k p hp).data⟩
      fun _ => Iff.rfl, keeps_put hp ⟨rfl, fun _ => rfl, by grind⟩, ?_, trivial⟩
    exact ⟨_, getElem?_put hp, rfl⟩
  all_goals
    have hmu := not_not.1 hmu
    have hvacant : w.sessions.lookup p.epoch = none := by
      obtain ⟨-, hvacant⟩ := not_or.1 hrefused
      rwa [Bool.not_eq_true, Option.isSome_eq_false_iff, Option.isNone_iff_eq_none] at hvacant
  · -- the oldest session goes
    have hne : w.sessions.keys ≠ [] := by
      intro hnil
      rw [hnil] at hfull
      exact absurd hfull (by decide)
    cases hold : w.oldest c.order with
    | none => exact absurd hold (oldest_ne_none h horder hne)
    | some sess =>
      obtain ⟨old, q⟩ := sess
      rw [hold] at hact
      cases hact
      have hlook := oldest_eq_some h hold
      obtain ⟨hok, hkeeps, -, hremoved⟩ := ok_release (i := i) h hmu q.epoch
      obtain ⟨-, hkeeps', -, -⟩ := ok_release (i := i + 1) h hmu q.epoch
      obtain ⟨p'', hp'', hkept⟩ := hkeeps.peers k p hp
      have hlen := length_keys_release hlook
      have hne : p.epoch ≠ q.epoch := by grind
      refine ⟨hok.congr rfl rfl rfl, Keeps.of_free hkeeps.peers (Or.inl hmu), hremoved old hlook,
        hkeeps'.fresh (Nat.ne_of_lt (Nat.lt_succ_self i)) ⟨p, hp, hplace⟩, rfl, ?_, ?_⟩
      · grind [h.bound]
      · grind [hkept.epoch, lookup_release_ne hne]
  · -- there is room
    cases hact
    exact ⟨h.congr rfl rfl rfl, Keeps.of_free (Keeps.refl i w).peers (Or.inl hmu),
      ⟨p, hp, hplace⟩, rfl, Nat.not_le.1 hfull, by grind⟩

lemma actInsert_ok (h : w.Ok) {goal : Goal} (hpc : HoldsMu w i k)
    (hact : actInsert c k goal w = some (w', pc')) : StepOk i w w' pc' := by
  obtain ⟨p, hp, hplace⟩ := hpc.fresh
  simp only [actInsert, hp] at hact
  cases hact
  have hok := h.peer k p hp
  have hidle : p.closeOnce = .idle := by grind [hok.removed]
  have hput : (w.put k { p with lastSeen := c.now, place := .installed }).Ok :=
    h.put hp rfl (fun _ _ => rfl) ⟨fun hne => absurd hidle hne, hok.data⟩ fun _ => Iff.rfl
  have hkeeps : Keeps i w (w.put k { p with lastSeen := c.now, place := .installed }) :=
    keeps_put hp ⟨rfl, by grind, by grind⟩
  refine ⟨⟨?_, ?_, hput.peer, hput.late, hput.owned, hput.early⟩,
    Keeps.of_free hkeeps.peers (Or.inr hpc.mu), pcOk_after goal⟩
  · have := hpc.room
    show (w.sessions.insert p.epoch k).keys.length ≤ maxPeers
    rw [length_keys_insert]
    split_ifs <;> omega
  · intro e j hj
    change (w.sessions.insert p.epoch k).lookup e = some j at hj
    rcases lookup_insert_cases hj with ⟨rfl, rfl⟩ | ⟨-, hold⟩
    · exact ⟨_, getElem?_put hp, rfl, rfl⟩
    · exact hput.entry e j hold

/-! ### `close` -/

lemma closeControl_ok (h : w.Ok) (hp : w.heap[k]? = some p) (hplace : p.place = .removed) {r : ℕ}
    (honce : p.closeOnce = .running i (.closeControl (some r))) :
    (closeBody i k p w (.closeControl (some r))).Ok := by
  have hdata : p.dataOpen = false := by
    rw [(h.peer k p hp).data, honce]
    rfl
  have hown : ∀ r', p.Owns r' ↔ r' = r := by
    intro r'
    simp [Peer.Owns, honce, Once.taken, eq_comm]
  obtain ⟨rt, hrt, hrtlate⟩ := h.early k p r hp ((hown r).2 rfl)
  have hnone : ∀ r', ¬{ p with closeOnce := .running i .done : Peer }.Owns r' := by
    simp [Peer.Owns, Once.taken]
  have hok : { p with closeOnce := .running i .done : Peer }.Ok := ⟨fun _ => hplace, hdata⟩
  obtain ⟨hbound, hentry, hpeer, hlate, howned, hearly⟩ := h
  constructor <;> grind [closeBody, World.put]

lemma closeBody_ok (h : w.Ok) (hp : w.heap[k]? = some p) (hplace : p.place = .removed)
    {body : Body} (honce : p.closeOnce = .running i body) :
    (closeBody i k p w body).Ok ∧ ∀ j, Keeps j w (closeBody i k p w body) := by
  have hdata := (h.peer k p hp).data
  rw [honce] at hdata
  have hinstalled : ∀ epoch, w.sessions.lookup epoch = some k → p.place = .installed :=
    fun _ => h.place_eq hp
  constructor
  · rcases body with _ | _ | (_ | r) | _
    case closeControl.some => exact closeControl_ok h hp hplace honce
    case data =>
      exact h.put hp rfl hinstalled ⟨fun _ => hplace, rfl⟩ (by simp [Peer.Owns, honce, Once.taken])
    all_goals
      exact h.put hp rfl hinstalled ⟨fun _ => hplace, hdata⟩
        (by simp [Peer.Owns, honce, Once.taken])
  · have hrefl := Peer.kept_refl
    rcases body with _ | _ | (_ | r) | _ <;> refine fun j => ⟨?_, ?_⟩ <;>
      grind [closeBody, World.put, Peer.Kept]

lemma actClose_ok (h : w.Ok) {next : Next} (hremoved : Removed w k) (hnext : NextOk w i next)
    (hact : actClose i k next w = some (w', pc')) : StepOk i w w' pc' := by
  obtain ⟨p, hp, hplace⟩ := hremoved
  have hpc : PcOk w i (.close k next) := ⟨⟨p, hp, hplace⟩, hnext⟩
  have hdata := (h.peer k p hp).data
  simp only [actClose, hp] at hact
  cases honce : p.closeOnce with
  | idle =>
    rw [honce] at hact hdata
    cases hact
    refine StepOk.of_keeps (h.put hp rfl (fun _ => h.place_eq hp) ⟨fun _ => hplace, hdata⟩ ?_)
      (fun j => keeps_put hp ⟨rfl, id, fun _ _ => id⟩) hpc
    simp [Peer.Owns, honce, Once.taken]
  | running j body =>
    simp only [honce] at hact
    split_ifs at hact with hji
    subst hji
    cases hact
    obtain ⟨hok', hkeeps⟩ := closeBody_ok h hp hplace honce
    exact StepOk.of_keeps hok' hkeeps hpc
  | spent =>
    rw [honce] at hact
    cases next with
    | refused =>
      cases hact
      exact StepOk.of_createMu h none trivial
    | _ =>
      cases hact
      exact StepOk.of_keeps h (fun j => Keeps.refl j w) hnext

/-! ### `peerControlFor` -/

lemma actControl_ok (h : w.Ok) (hact : actControl c k w = some (w', pc')) :
    StepOk i w w' pc' := by
  cases hp : w.heap[k]? with
  | none =>
    simp only [actControl, hp] at hact
    cases hact
  | some p =>
    simp only [actControl, hp] at hact
    split_ifs at hact with hnew
    · cases hact
      have hok : { p with control := some w.controls.length : Peer }.Ok :=
        ⟨(h.peer k p hp).removed, (h.peer k p hp).data⟩
      -- what the session owned before, it owned on its way out
      have howns : ∀ r, { p with control := some w.controls.length : Peer }.Owns r ↔
          p.Owns r ∨ (p.closeOnce.taken = false ∧ r = w.controls.length) := by
        grind [Peer.Owns]
      have hlast : (w.controls ++ [(⟨k, true, p.closeOnce.taken⟩ : ControlRuntime)])[
          w.controls.length]? = some ⟨k, true, p.closeOnce.taken⟩ := List.getElem?_concat_length
      have hkeeps : Keeps i w (w.put k { p with control := some w.controls.length }) :=
        keeps_put hp ⟨rfl, id, fun _ _ => id⟩
      obtain ⟨hbound, hentry, hpeer, hlate, howned, hearly⟩ := h
      refine ⟨⟨?_, ?_, ?_, ?_, ?_, ?_⟩, ⟨hkeeps.peers, hkeeps.table⟩, trivial⟩ <;>
        grind [World.put]
    · cases hact
      exact StepOk.of_keeps h (fun j => Keeps.refl j w) trivial

/-! ## Whole runs -/

lemma lookUp_ok {epoch : UInt32} {found : World → ℕ → World × Pc} {missing : Pc} (h : w.Ok)
    (hact : lookUp w epoch c.now found missing = some (w', pc')) (hmissing : PcOk w i missing)
    (hfound : ∀ w' k, ∃ lock, (found w' k).1 = { w' with createMu := lock } ∧
      ∀ w'', PcOk w'' i (found w' k).2) : StepOk i w w' pc' := by
  rcases lookUp_eq_some hact with heq | ⟨k, hk, heq⟩
  · cases heq
    exact StepOk.of_keeps h (fun j => Keeps.refl j w) hmissing
  · obtain ⟨hok, hkeeps⟩ := h.touched (i := i) hk c.now
    obtain ⟨lock, hworld, hpc⟩ := hfound (w.touch k c.now) k
    rw [← heq] at hworld hpc
    change w' = _ at hworld
    subst hworld
    exact ⟨hok.congr rfl rfl rfl, ⟨hkeeps.peers, hkeeps.table⟩, hpc _⟩

/-- **Every step keeps the invariant.** -/
lemma act_ok (h : w.Ok) (hpc : PcOk w i pc) (hact : act i c w pc = some (w', pc')) :
    StepOk i w w' pc' := by
  cases pc with
  | peek epoch =>
    rw [act] at hact
    exact lookUp_ok h hact trivial (fun w _ => ⟨w.createMu, rfl, fun _ => trivial⟩)
  | get epoch goal =>
    rw [act] at hact
    exact lookUp_ok h hact trivial (fun w _ => ⟨w.createMu, rfl, fun _ => pcOk_after goal⟩)
  | create epoch goal =>
    simp only [act] at hact
    split_ifs at hact
    cases hact
    exact StepOk.of_createMu h (some i) trivial
  | recheck epoch goal =>
    rw [act] at hact
    exact lookUp_ok h hact trivial (fun _ _ => ⟨none, rfl, fun _ => pcOk_after goal⟩)
  | start epoch goal =>
    simp only [act] at hact
    split_ifs at hact
    · cases hact
      exact stepOk_start h epoch goal
    · cases hact
      exact StepOk.of_createMu h none trivial
  | add k goal => exact actAdd_ok h hpc hact
  | insert k goal => exact actInsert_ok h hpc hact
  | close k next => exact actClose_ok h hpc.1 hpc.2 hact
  | control k => exact actControl_ok h hact
  | sweep =>
    simp only [act] at hact
    split_ifs at hact with hfree
    cases hact
    have hnodup : (w.stale c).Nodup :=
      (hfree.2.nodup_iff.2 w.sessions.keys_nodup).filter _
    obtain ⟨hok, hkeeps, hremoved⟩ := ok_releaseAll (i := i) (w.stale c) h hfree.1 hnodup
    exact ⟨hok, hkeeps, hremoved⟩
  | closeAll =>
    simp only [act] at hact
    split_ifs at hact with hfree
    cases hact
    have hnodup : c.order.Nodup := hfree.2.nodup_iff.2 w.sessions.keys_nodup
    obtain ⟨hok, hkeeps, hremoved⟩ := ok_releaseAll (i := i) c.order h hfree.1 hnodup
    exact ⟨⟨Nat.zero_le _, fun _ _ => nofun, hok.peer, hok.late, hok.owned, hok.early⟩,
      Keeps.of_free hkeeps.peers (Or.inl hfree.1), hremoved⟩
  | closeRest ks =>
    cases ks with
    | nil =>
      cases hact
      exact StepOk.of_keeps h (fun j => Keeps.refl j w) trivial
    | cons k ks =>
      cases hact
      exact StepOk.of_keeps h (fun j => Keeps.refl j w)
        ⟨hpc k List.mem_cons_self, fun k' hk' => hpc k' (List.mem_cons_of_mem _ hk')⟩
  | finished => cases hact

lemma World.ok_init : World.init.Ok where
  bound := Nat.zero_le _
  entry _ _ hk := by cases hk
  peer _ _ hp := by cases hp
  late _ _ hr := by cases hr
  owned _ _ hr := by cases hr
  early _ _ _ hp := by cases hp

/-- Calls that have not begun rely on nothing. -/
def CallOk (w : World) (i : ℕ) : Option Pc → Prop
  | none => True
  | some pc => PcOk w i pc

def discipline : Calls.Discipline Pc.isEntry act where
  WorldOk := World.Ok
  CallOk := CallOk
  Keeps := Keeps
  entry {_ _ pc} hentry _ := by
    cases pc with
    | peek epoch => trivial
    | get epoch goal => trivial
    | sweep => trivial
    | closeAll => trivial
    | _ => cases hentry
  others {_ _ _ _ pc} hkeeps hne hpc := by
    cases pc with
    | none => trivial
    | some pc => exact hkeeps.pcOk hne hpc
  act hworld hpc hact :=
    have hstep := act_ok hworld hpc hact
    ⟨hstep.world, hstep.keeps, hstep.pc⟩

lemma ok_run (events : List Event) : (run step State.init events).world.Ok :=
  (discipline.ok_run World.ok_init (fun _ => trivial) events).world

/-- **Who closes the runtimes**, after any interleaving of calls. -/
theorem peers_owned (events : List Event) (w : World)
    (hw : w = (run step State.init events).world) :
    w.sessions.keys.length ≤ 64 ∧
    (∀ epoch k, w.sessions.lookup epoch = some k → ∃ p : Peer, w.heap[k]? = some p ∧
      p.epoch = epoch ∧ p.closeOnce = .idle ∧ p.dataOpen = true) ∧
    (∀ epoch epoch' k k' p p', w.sessions.lookup epoch = some k →
      w.sessions.lookup epoch' = some k' → w.heap[k]? = some p → w.heap[k']? = some p' →
      p.epoch = p'.epoch → k = k') ∧
    ∀ (k : ℕ) (p : Peer), w.heap[k]? = some p → p.closeOnce = .spent →
      ((p.dataOpen = false ∧ ∀ rt ∈ w.controls, rt.session = k → rt.isOpen = false) ↔
        ∀ rt ∈ w.controls, rt.session = k → rt.late = false) := by
  subst hw
  have h := ok_run events
  generalize (run step State.init events).world = w at h
  have hmem : ∀ rt, rt ∈ w.controls ↔ ∃ r : ℕ, w.controls[r]? = some rt :=
    fun _ => List.mem_iff_getElem?
  have hremoved := fun k p hp => (h.peer k p hp).removed
  have hdata := fun k p hp => (h.peer k p hp).data
  obtain ⟨hbound, hentry, -, hlate, howned, -⟩ := h
  refine ⟨hbound, ?_, ?_, ?_⟩
  · intro epoch k hk
    obtain ⟨p, hp, hepoch, hplace⟩ := hentry epoch k hk
    have hidle : p.closeOnce = .idle := by grind
    exact ⟨p, hp, hepoch, hidle, by rw [hdata k p hp, hidle]; rfl⟩
  · grind
  · intro k p hp hspent
    have hopen : p.dataOpen = false := by
      rw [hdata k p hp, hspent]
      rfl
    have hnone : ∀ r, ¬p.Owns r := by simp [Peer.Owns, hspent, Once.taken]
    grind

def steps (n call now : ℕ) (order : List UInt32) : List Event :=
  List.replicate n (.step call ⟨now, true, order⟩)

/-- A session with a control runtime is swept and closed, and nothing of it is left. -/
theorem peers_owned_swept :
    let w := (run step State.init
      (.begin (.get 7 .control) :: steps 7 0 0 [] ++
        .begin .sweep :: steps 10 1 (2 * peerIdleTTL) [7])).world
    (w.heap.map fun p => (p.closeOnce, p.dataOpen)) = [(.spent, false)] ∧
      ∀ rt ∈ w.controls, rt.session = 0 → rt.isOpen = false := by
  intro w
  obtain ⟨-, -, -, hclosed⟩ := peers_owned (.begin (.get 7 .control) :: steps 7 0 0 [] ++
    .begin .sweep :: steps 10 1 (2 * peerIdleTTL) [7]) w rfl
  have hheap : w.heap = [⟨7, false, none, .spent, 0, .removed⟩] := by decide +kernel
  have hlate : ∀ rt ∈ w.controls, rt.session = 0 → rt.late = false := by decide +kernel
  have hpeer : w.heap[0]? = some ⟨7, false, none, .spent, 0, .removed⟩ := by
    rw [hheap]
    rfl
  exact ⟨by rw [hheap]; rfl, ((hclosed 0 _ hpeer rfl).2 hlate).2⟩

/-- `peerControlFor` has the session, a sweep closes it, and then the control runtime is created:
all calls are finished, `close` has returned, and the control runtime is open. -/
theorem late_control_leaks :
    let s := run step State.init
      (.begin (.get 7 .control) :: steps 6 0 0 [] ++
        .begin .sweep :: steps 10 1 (2 * peerIdleTTL) [7] ++ steps 1 0 (2 * peerIdleTTL) [])
    s.calls = [.finished, .finished] ∧
      s.world.heap = [⟨7, false, some 0, .spent, 0, .removed⟩] ∧
      s.world.controls = [⟨0, true, true⟩] := by
  decide +kernel

end OlcRtc.PeerRuntimes
