import OlcRtc.Lib.Calls

/-!
# Who owns the connections of the client

The client holds one pair of connections, for data and for control, with a smux session on each.
`bringUpLink` makes the first pair.  `handleReconnect`, which the provider and every control loop
call whenever they like, closes it and makes another, or leaves that to a goroutine with a timer if
a missing pong was the reason.  All of them hold `reconnectMu`; `shutdown` does not.

* `Pair` stands for `conn` and `controlConn` with their sessions, which end with them.  A pair is
  never freed; the fields of the client and the calls hold indices.  `owner` is not in the source:
  the call that is about to close the pair or to install it.
* A call is a program counter, `Pc`, and `act` its next step.  A section under `sessMu` is one step,
  and `reconnectMu` is held over several.
* Whether a link can be made, a session be built or a handshake be completed is chosen freely, as
  are the times at which calls begin, timers fire and the context ends.

**`pairs_owned`** is the result: a pair that is replaced is never left open, neither by a fallback
that finds a dead session in its place nor by a `shutdown` in the middle of an attempt.
-/

namespace OlcRtc.ClientLink

structure Pair where
  isOpen : Bool
  owner : Option ℕ
deriving DecidableEq, Repr

namespace Pair

/-- Call `i` takes the pair, if nobody else has. -/
def own (i : ℕ) (p : Pair) : Pair :=
  { p with owner := if p.owner = none then some i else p.owner }

/-- Call `i` is done with it. -/
def release (i : ℕ) (p : Pair) : Pair :=
  { p with owner := if p.owner = some i then none else p.owner }

/-- Call `i` closes it, and is done with it if it was its own. -/
def close (i : ℕ) (p : Pair) : Pair := { p.release i with isOpen := false }

end Pair

/-- Where a call stands.  `left` is the number of attempts at a handshake that are left. -/
inductive Pc
  /-- `bringUpLink`, before its lock. -/
  | bringUp
  /-- Before the link is made and connected. -/
  | connect
  /-- `handleReconnect`, before its lock. -/
  | reconnect (liveness : Bool)
  /-- Before the connections are closed under `sessMu.RLock`. -/
  | closeConns (liveness : Bool)
  /-- Before the fields are cleared under `sessMu`. -/
  | detach (liveness : Bool)
  /-- `closeClientPair`. -/
  | closePair (old : Option ℕ) (liveness : Bool)
  /-- The goroutine of `scheduleLivenessFallback`, while its timer runs. -/
  | fallback
  /-- Before its lock. -/
  | fallbackLock
  /-- Before `sessionEstablished` is asked again. -/
  | fallbackCheck
  /-- The head of the loop of `retryHandshake`. -/
  | retry (left : ℕ)
  /-- `tryReopenSession`, before the new connections are put in under `sessMu`. -/
  | makeConns (left : ℕ)
  /-- Before the connections that were there are closed. -/
  | closeOld (old : Option ℕ) (pair left : ℕ)
  /-- `NewSessionPairWithConns`. -/
  | build (pair left : ℕ)
  /-- `openControlStream`, `confirmPeer` and `waitForPeer`. -/
  | handshake (pair left : ℕ)
  /-- Before a pair that is of no use is closed. -/
  | drop (pair left : ℕ)
  /-- Before `installPairLocked`. -/
  | install (pair : ℕ)
  /-- Before `reconnectMu` is released. -/
  | unlock
  | shutdown
  /-- `shutdown`, after its section under `sessMu`. -/
  | closeShutdown (pair : Option ℕ)
  /-- The context is cancelled. -/
  | cancel
  | finished
deriving DecidableEq, Repr

def maxHandshakeAttempts (fallback : Bool) : ℕ := if fallback then 3 else 5

/-- The client.  `pair` stands for `pair`, `session` and `controlSess`, which are set together. -/
structure World where
  cancelled : Bool := false
  reconnectMu : Option ℕ := none
  pairs : List Pair := []
  conn : Option ℕ := none
  pair : Option ℕ := none

/-- What a step depends on besides the state: whether it succeeds, and whether the installed session
is alive and has an ID. -/
structure Choice where
  ok : Bool
  alive : Bool

def changed (pairs : List Pair) : Option ℕ → (Pair → Pair) → List Pair
  | none, _ => pairs
  | some k, f => pairs.modify k f

/-- The connections of the installed pair, or those that have no pair yet. -/
def World.current (w : World) : Option ℕ := if w.pair = none then w.conn else w.pair

def World.sessionEstablished (w : World) (c : Choice) : Bool := w.pair.isSome && c.alive

/-- The next step of call `i`, unless it has to wait. -/
def act (i : ℕ) (c : Choice) (w : World) : Pc → Option (World × Pc)
  -- nothing has been made yet when the client is started
  | .bringUp =>
    if w.reconnectMu = none ∧ w.pairs = [] then some ({ w with reconnectMu := some i }, .connect)
    else none
  | .connect => some (w, if c.ok then .makeConns 1 else .unlock)
  | .reconnect liveness =>
    if w.reconnectMu = none then some ({ w with reconnectMu := some i }, .closeConns liveness)
    else none
  | .closeConns liveness =>
    some ({ w with pairs := changed w.pairs w.current (.close i) }, .detach liveness)
  | .detach liveness => some ({ w with pair := none, conn := none }, .closePair w.pair liveness)
  -- after a missing pong the provider is asked to reconnect, and the fallback is started
  | .closePair old liveness =>
    some ({ w with pairs := changed w.pairs old (.close i) },
      if liveness then .unlock else .retry (maxHandshakeAttempts false))
  | .fallback => some (w, if c.ok && !w.sessionEstablished c then .fallbackLock else .finished)
  | .fallbackLock =>
    if w.reconnectMu = none then some ({ w with reconnectMu := some i }, .fallbackCheck) else none
  | .fallbackCheck =>
    some (w, if w.cancelled || w.sessionEstablished c then .unlock
      else .retry (maxHandshakeAttempts true))
  | .retry left => some (w, if w.cancelled then .unlock else .makeConns left)
  | .makeConns left =>
    some ({ w with
        pairs := changed w.pairs w.conn (.own i) ++ [⟨true, some i⟩], conn := some w.pairs.length },
      .closeOld w.conn w.pairs.length left)
  | .closeOld old k left =>
    some ({ w with pairs := changed w.pairs old (.close i) }, .build k left)
  | .build k left => some (w, if c.ok then .handshake k left else .drop k left)
  | .handshake k left => some (w, if c.ok then .install k else .drop k left)
  | .drop k left =>
    some ({ w with pairs := changed w.pairs (some k) (.close i) },
      if left ≤ 1 then .unlock else .retry (left - 1))
  | .install k =>
    some ({ w with pairs := changed w.pairs (some k) (.release i), pair := some k, conn := some k },
      .unlock)
  | .unlock => some ({ w with reconnectMu := none }, .finished)
  | .shutdown =>
    some ({ w with pairs := changed w.pairs w.current (.own i), pair := none, conn := none },
      .closeShutdown w.current)
  | .closeShutdown k => some ({ w with pairs := changed w.pairs k (.close i) }, .finished)
  | .cancel => some ({ w with cancelled := true }, .finished)
  | .finished => none

def Pc.isEntry : Pc → Bool
  | .bringUp | .reconnect _ | .fallback | .shutdown | .cancel => true
  | _ => false

abbrev State := Calls.State World Pc

abbrev Event := Calls.Event Pc Choice

def step : State → Event → State := Calls.step Pc.isEntry act

/-! ## The invariant -/

/-- The pairs that a call is about to install or to close. -/
def Pc.hand : Pc → List ℕ
  | .closeOld old k _ => k :: old.toList
  | .build k _ | .handshake k _ | .drop k _ | .install k => [k]
  | .closeShutdown k => k.toList
  | _ => []

/-- The call holds `reconnectMu`. -/
def Pc.locked : Pc → Bool
  | .bringUp | .reconnect _ | .fallback | .fallbackLock | .shutdown | .closeShutdown _ | .cancel
  | .finished => false
  | _ => true

/-- No open pair is without an owner. -/
def AllOwned (pairs : List Pair) : Prop :=
  ∀ (k : ℕ) p, pairs[k]? = some p → p.owner = none → p.isOpen = false

def Pc.tidy : Pc → Bool
  | .detach _ | .closeOld _ _ _ | .build _ _ | .handshake _ _ | .drop _ _ | .install _ => true
  | _ => false

/-- An open pair without an owner is installed. -/
def WorldOk (w : World) : Prop :=
  ∀ (k : ℕ) p, w.pairs[k]? = some p → p.owner = none → p.isOpen = true →
    w.conn = some k ∧ w.pair = some k

/-- What call `i` may rely on. -/
structure CallOk (w : World) (i : ℕ) (pc : Option Pc) : Prop where
  locked : w.reconnectMu = some i ↔ pc.any Pc.locked = true
  hand : ∀ (k : ℕ) p, w.pairs[k]? = some p → p.owner = some i → k ∈ pc.elim [] Pc.hand
  tidy : pc.any Pc.tidy = true → AllOwned w.pairs

/-- What a step of call `i` leaves to the other calls. -/
structure Keeps (i : ℕ) (w w' : World) : Prop where
  locked : ∀ j, j ≠ i → (w'.reconnectMu = some j ↔ w.reconnectMu = some j)
  hand : ∀ (j k : ℕ) p', j ≠ i → w'.pairs[k]? = some p' → p'.owner = some j →
    ∃ p, w.pairs[k]? = some p ∧ p.owner = some j
  tidy : w.reconnectMu = some i ∨ (AllOwned w.pairs → AllOwned w'.pairs)

variable {w w' : World} {i j : ℕ} {pc pc' : Pc} {c : Choice}

lemma Keeps.callOk (h : Keeps i w w') (hj : j ≠ i) {pc : Option Pc} (hpc : CallOk w j pc) :
    CallOk w' j pc where
  locked := (h.locked j hj).trans hpc.locked
  hand k p' hp' howner := by
    obtain ⟨p, hp, howner⟩ := h.hand j k p' hj hp' howner
    exact hpc.hand k p hp howner
  tidy htidy := by
    have hmu : w.reconnectMu = some j := by
      refine hpc.locked.2 ?_
      cases pc with
      | none => cases htidy
      | some pc => cases pc <;> first | rfl | cases htidy
    rcases h.tidy with hmu' | hkept
    · exact absurd (Option.some.inj (hmu.symm.trans hmu')) hj
    · exact hkept (hpc.tidy htidy)

lemma getElem?_changed (l : List Pair) (k : Option ℕ) (f : Pair → Pair) (j : ℕ) :
    (changed l k f)[j]? = if k = some j then l[j]?.map f else l[j]? := by
  cases k with
  | none => simp [changed]
  | some k => by_cases hk : k = j <;> simp [changed, hk]

lemma length_changed (l : List Pair) (k : Option ℕ) (f : Pair → Pair) :
    (changed l k f).length = l.length := by
  cases k <;> simp [changed]

attribute [local grind =] getElem?_changed length_changed
attribute [local grind] Pair.own Pair.release Pair.close AllOwned WorldOk Pc.hand World.current

lemma move_ok (hpc : CallOk w i (some pc)) (hmu : w'.reconnectMu = w.reconnectMu)
    (hlocked : pc'.locked = pc.locked) (hworld : WorldOk w')
    (hothers : ∀ (j k : ℕ) p', j ≠ i → w'.pairs[k]? = some p' → p'.owner = some j →
      ∃ p, w.pairs[k]? = some p ∧ p.owner = some j)
    (hkept : pc.locked = true ∨ (AllOwned w.pairs → AllOwned w'.pairs))
    (hhand : ∀ (k : ℕ) p, w'.pairs[k]? = some p → p.owner = some i → k ∈ pc'.hand)
    (htidy : pc'.tidy = true → AllOwned w'.pairs) :
    WorldOk w' ∧ Keeps i w w' ∧ CallOk w' i (some pc') := by
  refine ⟨hworld, ⟨fun _ _ => by rw [hmu], hothers, hkept.imp_left hpc.locked.2⟩, ?_, hhand, htidy⟩
  rw [hmu, hpc.locked, Option.any_some, Option.any_some, hlocked]

lemma close_ok (h : WorldOk w) (hpc : CallOk w i (some pc)) (k : Option ℕ)
    (hlocked : pc'.locked = pc.locked) (hhand : ∀ k' ∈ pc.hand, k = some k' ∨ k' ∈ pc'.hand)
    (htidy : pc'.tidy = true → pc.tidy = true ∨ k = w.current) :
    let w' := { w with pairs := changed w.pairs k (.close i) }
    WorldOk w' ∧ Keeps i w w' ∧ CallOk w' i (some pc') := by
  have hmine := hpc.hand
  refine move_ok hpc rfl hlocked ?_ ?_ (.inr ?_) ?_ fun ht => ?_
  · grind
  · grind
  · grind
  · grind
  · rcases htidy ht with ht | rfl
    · grind [hpc.tidy ht]
    · grind

lemma lock_ok (h : WorldOk w) (hpc : CallOk w i (some pc)) (hfree : w.reconnectMu = none)
    (hlocked : pc'.locked = true) (hhand : pc.hand = []) (htidy : pc'.tidy = false) :
    let w' := { w with reconnectMu := some i }
    WorldOk w' ∧ Keeps i w w' ∧ CallOk w' i (some pc') := by
  have hmine := hpc.hand
  refine ⟨h, ⟨?_, ?_, .inr id⟩, ?_, ?_, ?_⟩ <;> grind

lemma stay_ok (h : WorldOk w) (hpc : CallOk w i (some pc)) (hlocked : pc'.locked = pc.locked)
    (hhand : pc'.hand = pc.hand) (htidy : pc'.tidy = true → pc.tidy = true) :
    WorldOk w ∧ Keeps i w w ∧ CallOk w i (some pc') :=
  move_ok hpc rfl hlocked h (fun _ _ p _ hp howner => ⟨p, hp, howner⟩) (.inr id)
    (fun k p hp howner => hhand ▸ hpc.hand k p hp howner) fun ht => hpc.tidy (htidy ht)

/-- **One step of one call.** -/
lemma act_ok (h : WorldOk w) (hpc : CallOk w i (some pc)) (hact : act i c w pc = some (w', pc')) :
    WorldOk w' ∧ Keeps i w w' ∧ CallOk w' i (some pc') := by
  have hhand : ∀ (k : ℕ) p, w.pairs[k]? = some p → p.owner = some i → k ∈ pc.hand :=
    hpc.hand
  cases pc with
  | bringUp | reconnect | fallbackLock =>
    simp only [act] at hact
    split_ifs at hact with hfree
    cases hact
    exact lock_ok h hpc (by grind) rfl rfl rfl
  | connect | retry | fallback | fallbackCheck | build | handshake =>
    simp only [act] at hact
    split_ifs at hact <;> cases hact <;> exact stay_ok h hpc rfl rfl id
  | closeConns liveness =>
    cases hact
    exact close_ok h hpc _ rfl nofun fun _ => .inr rfl
  | detach liveness =>
    cases hact
    have howned := hpc.tidy rfl
    exact move_ok hpc rfl rfl (by grind) (by grind) (.inl rfl) hhand nofun
  | closePair old liveness =>
    cases hact
    cases liveness <;> exact close_ok h hpc old rfl nofun nofun
  | closeOld old k left =>
    cases hact
    exact close_ok h hpc old rfl (by grind) fun _ => .inl rfl
  | drop k left =>
    simp only [act] at hact
    split_ifs at hact <;> cases hact <;> exact close_ok h hpc (some k) rfl (by grind) nofun
  | makeConns left =>
    cases hact
    refine move_ok hpc rfl rfl ?_ ?_ (.inl rfl) ?_ ?_ <;> grind
  | install k =>
    cases hact
    have howned := hpc.tidy rfl
    refine move_ok hpc rfl rfl ?_ ?_ (.inl rfl) ?_ nofun <;> grind
  | unlock =>
    have hmu : w.reconnectMu = some i := hpc.locked.2 rfl
    cases hact
    refine ⟨h, ⟨?_, ?_, .inr id⟩, ?_, hhand, nofun⟩ <;> grind [Pc.locked]
  | shutdown =>
    cases hact
    refine move_ok hpc rfl rfl ?_ ?_ (.inr ?_) ?_ nofun <;> grind
  | closeShutdown k =>
    cases hact
    exact close_ok h hpc k rfl (by grind) nofun
  | cancel =>
    cases hact
    exact move_ok hpc rfl rfl h (by grind) (.inr id) hhand nofun
  | finished => cases hact

def discipline : Calls.Discipline Pc.isEntry act where
  WorldOk := WorldOk
  CallOk := CallOk
  Keeps := Keeps
  entry {_ _ pc} hentry hpc := by
    cases pc <;> first | exact ⟨hpc.locked, hpc.hand, nofun⟩ | cases hentry
  others hkeeps hj hpc := hkeeps.callOk hj hpc
  act := act_ok

/-- **The connections of the client are owned**, after any interleaving of the calls.  One call at
most holds `reconnectMu`. -/
theorem pairs_owned (events : List Event) :
    let s := run step ⟨{}, []⟩ events
    (∀ (k : ℕ) p, s.world.pairs[k]? = some p → p.isOpen = true →
      s.world.conn = some k ∧ s.world.pair = some k ∨
        ∃ (i : ℕ) (pc : Pc), s.calls[i]? = some pc ∧ k ∈ pc.hand) ∧
    (∀ (i j : ℕ) pc pc', s.calls[i]? = some pc → s.calls[j]? = some pc' →
      pc.locked = true → pc'.locked = true → i = j) ∧
    ((∀ pc ∈ s.calls, pc = .finished) → ∀ (k : ℕ) p, s.world.pairs[k]? = some p →
      p.isOpen = true → s.world.pair = some k) := by
  intro s
  have hok : discipline.Ok s :=
    discipline.ok_run (w := {}) nofun (fun _ => ⟨by simp, nofun, nofun⟩) events
  have hopen : ∀ (k : ℕ) p, s.world.pairs[k]? = some p → p.isOpen = true →
      s.world.conn = some k ∧ s.world.pair = some k ∨
        ∃ (i : ℕ) (pc : Pc), s.calls[i]? = some pc ∧ k ∈ pc.hand := by
    intro k p hp hopen
    cases howner : p.owner with
    | none => exact .inl (hok.world k p hp howner hopen)
    | some i =>
      have hmem := (hok.calls i).hand k p hp howner
      cases hpc : s.calls[i]? with
      | none => simp [hpc] at hmem
      | some pc => exact .inr ⟨i, pc, hpc, by simpa [hpc] using hmem⟩
  refine ⟨hopen, fun i j pc pc' hi hj h h' => ?_, fun hall k p hp hp' => ?_⟩
  · have hpc := (hok.calls i).locked
    have hpc' := (hok.calls j).locked
    rw [hi] at hpc
    rw [hj] at hpc'
    exact Option.some.inj ((hpc.2 h).symm.trans (hpc'.2 h'))
  · rcases hopen k p hp hp' with hinstalled | ⟨i, pc, hpc, hmem⟩
    · exact hinstalled.2
    · rw [hall pc (List.mem_of_getElem? hpc)] at hmem
      cases hmem

def exampleEvents : List Event :=
  .begin .bringUp :: List.replicate 8 (.step 0 ⟨true, true⟩) ++
    .begin (.reconnect false) :: List.replicate 11 (.step 1 ⟨true, true⟩)

/-- The first pair has been closed and the second is installed. -/
theorem pairs_owned_reconnect :
    (run step ⟨{}, []⟩ exampleEvents).world.pairs = [⟨false, none⟩, ⟨true, none⟩] ∧
      (run step ⟨{}, []⟩ exampleEvents).world.pair = some 1 :=
  ⟨by decide, (pairs_owned exampleEvents).2.2 (by decide) 1 ⟨true, none⟩ (by decide) rfl⟩

end OlcRtc.ClientLink
