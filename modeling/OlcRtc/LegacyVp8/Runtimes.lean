import OlcRtc.Lib.Calls

/-!
# The KCP runtimes of the legacy transport

`restartKCP` runs when the layer above resets the peer and when the provider reconnects, and `Close`
at any time.  A restart takes the runtime out of the transport under `kcpMu`, closes it, starts
another, and puts that one in, under `kcpMu` again; nothing keeps two restarts, or a restart and
`Close`, from overlapping.

* `World` has a flag for every runtime there has been, whether it is open, and the one installed.
* `busy` is not in the source: the calls that have yet to close a runtime or to install one.

**`runtimes_owned`**: when all calls have returned, no runtime is open but the one installed, and
none after `Close`, provided the calls do not overlap and none restarts after `Close` (`alone`).
`overlapping_restarts` is what happens otherwise.
-/

namespace OlcRtc.LegacyRuntimes

/-- The runtimes and the fields of the transport that concern them. -/
structure World where
  opened : List Bool := []
  kcp : Option ℕ := none
  closed : Bool := false
  busy : List ℕ := []

/-- Where a call of `restartKCP` or of `Close` stands.  What a restart does before it takes the lock
touches no runtime. -/
inductive Pc
  | swap
  | closeOld (old : ℕ)
  | start
  | install (rt : ℕ)
  | close
  | read
  | closeRuntime (rt : ℕ)
  | returned
deriving DecidableEq

def Pc.isEntry : Pc → Bool
  | swap | close => true
  | _ => false

/-- The call has something to close or to install. -/
def Pc.busy : Pc → Bool
  | closeOld _ | start | install _ | read | closeRuntime _ => true
  | _ => false

def World.leave (w : World) (i : ℕ) : World := { w with busy := w.busy.filter (· ≠ i) }

/-- The next step of a call.  The choice is whether `startKCP` succeeds. -/
def act (i : ℕ) (starts : Bool) (w : World) : Pc → Option (World × Pc)
  | .swap => some ({ w with kcp := none, busy := i :: w.busy }, w.kcp.elim .start .closeOld)
  | .closeOld old => some ({ w with opened := w.opened.set old false }, .start)
  | .start =>
    if starts then some ({ w with opened := w.opened ++ [true] }, .install w.opened.length)
    else some (w.leave i, .returned)
  | .install rt => some ({ w.leave i with kcp := some rt }, .returned)
  | .close =>
    if w.closed then some (w, .returned)
    else some ({ w with closed := true, busy := i :: w.busy }, .read)
  | .read => w.kcp.elim (some (w.leave i, .returned)) fun rt => some (w, .closeRuntime rt)
  | .closeRuntime rt => some ({ w.leave i with opened := w.opened.set rt false }, .returned)
  | .returned => none

abbrev State := Calls.State World Pc

abbrev Event := Calls.Event Pc Bool

def step : State → Event → State := Calls.step Pc.isEntry act

/-- After `Connect`, whose `startKCP` may have failed. -/
def init (connected : Bool) : State :=
  ⟨if connected then { opened := [true], kcp := some 0 } else {}, []⟩

/-- Once all calls have returned, only the installed runtime is open, and none if the transport has
been closed. -/
def Owned (s : State) : Prop :=
  (∀ pc ∈ s.calls, pc = .returned) → ∀ rt : ℕ, s.world.opened[rt]? = some true →
    s.world.kcp = some rt ∧ s.world.closed = false

/-- A call gets to work only while no other is at work, and a restart only before `Close`. -/
def alone (w : World) : Pc → Bool
  | .swap => w.busy.isEmpty && !w.closed
  | .close => w.closed || w.busy.isEmpty
  | _ => true

/-! ## The invariant -/

/-- No runtime is open but the given one. -/
def World.Only (w : World) (kept : Option ℕ) : Prop :=
  ∀ rt : ℕ, w.opened[rt]? = some true → kept = some rt

/-- What holds of the runtimes while the calls do not overlap. -/
structure WorldOk (w : World) : Prop where
  single : w.busy.length ≤ 1
  free : w.busy = [] → w.Only w.kcp ∧ (w.closed = true → w.Only none)

def Pc.Holds (w : World) : Pc → Prop
  | .closeOld old => w.kcp = none ∧ w.closed = false ∧ w.Only (some old)
  | .start => w.kcp = none ∧ w.closed = false ∧ w.Only none
  | .install rt => w.kcp = none ∧ w.closed = false ∧ w.Only (some rt)
  | .read => w.Only w.kcp
  | .closeRuntime rt => w.Only (some rt)
  | _ => True

/-- What is known about call `i`. -/
def CallOk (w : World) (i : ℕ) (pc : Option Pc) : Prop :=
  (i ∈ w.busy ↔ pc.any Pc.busy = true) ∧ ∀ pc' ∈ pc, pc'.Holds w

/-- What a step of call `i` guarantees to the others: it touches nothing while another is at
work. -/
def Keeps (i : ℕ) (w w' : World) : Prop :=
  ∀ j ≠ i, (j ∈ w'.busy ↔ j ∈ w.busy) ∧
    (j ∈ w.busy → w'.opened = w.opened ∧ w'.kcp = w.kcp ∧ w'.closed = w.closed)

variable {w w' : World} {i : ℕ}

lemma holds_of_not_busy {pc : Pc} (h : pc.busy = false) : pc.Holds w := by
  cases pc <;> simp_all [Pc.busy, Pc.Holds]

lemma holds_congr (hopened : w'.opened = w.opened) (hkcp : w'.kcp = w.kcp)
    (hclosed : w'.closed = w.closed) (pc : Pc) : pc.Holds w' ↔ pc.Holds w := by
  cases pc <;> simp only [Pc.Holds, World.Only, hopened, hkcp, hclosed]

lemma WorldOk.eq_singleton (h : WorldOk w) (hi : i ∈ w.busy) : w.busy = [i] := by
  obtain ⟨j, hj⟩ := List.length_eq_one_iff.1 (le_antisymm h.single (List.length_pos_of_mem hi))
  rw [hj, List.mem_singleton] at hi
  rw [hj, hi]

lemma keeps_of_busy (h : WorldOk w) (hi : i ∈ w.busy)
    (hbusy : w'.busy = w.busy ∨ w'.busy = w.busy.filter (· ≠ i)) : Keeps i w w' := by
  intro j hj
  have hsingle := h.eq_singleton hi
  grind

lemma move (h : WorldOk w) (hi : i ∈ w.busy) {pc : Pc} (hbusy : w'.busy = w.busy)
    (hpc : pc.busy = true) (hholds : pc.Holds w') :
    WorldOk w' ∧ Keeps i w w' ∧ CallOk w' i (some pc) := by
  refine ⟨⟨hbusy ▸ h.single, fun hnil => ?_⟩, keeps_of_busy h hi (.inl hbusy), ?_, ?_⟩
  · rw [hbusy, h.eq_singleton hi] at hnil
    cases hnil
  · simp [hbusy, hi, hpc]
  · simpa using hholds

lemma move_leave (h : WorldOk w) (hi : i ∈ w.busy) (hbusy : w'.busy = w.busy.filter (· ≠ i))
    (honly : w'.Only w'.kcp) (hclosed : w'.closed = true → w'.Only none) :
    WorldOk w' ∧ Keeps i w w' ∧ CallOk w' i (some .returned) := by
  have hnil : w'.busy = [] := by simp [hbusy, h.eq_singleton hi]
  refine ⟨⟨by simp [hnil], fun _ => ⟨honly, hclosed⟩⟩, keeps_of_busy h hi (.inr hbusy), ?_, ?_⟩
  · simp [hnil, Pc.busy]
  · simp [Pc.Holds]

lemma move_enter (hfree : w.busy = []) {pc : Pc} (hbusy : w'.busy = i :: w.busy)
    (hpc : pc.busy = true) (hholds : pc.Holds w') :
    WorldOk w' ∧ Keeps i w w' ∧ CallOk w' i (some pc) := by
  refine ⟨⟨by simp [hbusy, hfree], by simp [hbusy]⟩, fun j hj => ?_, ?_, ?_⟩
  · simp [hbusy, hfree, hj]
  · simp [hbusy, hpc]
  · simpa using hholds

/-- **One step of one call that keeps to the condition.** -/
lemma act_ok {starts : Bool} {pc pc' : Pc} (h : WorldOk w) (hcall : CallOk w i (some pc))
    (halone : alone w pc = true) (hact : act i starts w pc = some (w', pc')) :
    WorldOk w' ∧ Keeps i w w' ∧ CallOk w' i (some pc') := by
  have hholds : pc.Holds w := hcall.2 pc rfl
  have hin : pc.busy = true → i ∈ w.busy := hcall.1.2
  cases pc with
  | swap =>
    obtain ⟨hfree, hopen⟩ : w.busy = [] ∧ w.closed = false := by simpa [alone] using halone
    obtain ⟨honly, -⟩ := h.free hfree
    cases hact
    cases hkcp : w.kcp with
    | none => exact move_enter hfree rfl rfl ⟨rfl, hopen, hkcp ▸ honly⟩
    | some rt => exact move_enter hfree rfl rfl ⟨rfl, hopen, hkcp ▸ honly⟩
  | closeOld old =>
    obtain ⟨hkcp, hopen, honly⟩ := hholds
    cases hact
    refine move h (hin rfl) rfl rfl ⟨hkcp, hopen, fun rt hrt => ?_⟩
    grind [World.Only]
  | start =>
    obtain ⟨hkcp, hopen, honly⟩ := hholds
    rw [act] at hact
    split_ifs at hact
    · cases hact
      refine move h (hin rfl) rfl rfl ⟨hkcp, hopen, fun rt hrt => ?_⟩
      grind [World.Only]
    · cases hact
      refine move_leave h (hin rfl) rfl (hkcp ▸ honly) fun _ => honly
  | install rt =>
    obtain ⟨-, hopen, honly⟩ := hholds
    cases hact
    refine move_leave h (hin rfl) rfl honly fun hclosed => ?_
    cases hopen.symm.trans hclosed
  | close =>
    rw [act] at hact
    split_ifs at hact with hclosed
    · cases hact
      refine ⟨h, fun j _ => by simp, hcall.1, by simp [Pc.Holds]⟩
    · cases hact
      have hfree : w.busy = [] := by simpa [alone, hclosed] using halone
      exact move_enter hfree rfl rfl (h.free hfree).1
  | read =>
    rw [act] at hact
    cases hkcp : w.kcp with
    | none =>
      rw [hkcp] at hact
      cases hact
      have honly : w.Only none := hkcp ▸ hholds
      exact move_leave h (hin rfl) rfl hholds fun _ => honly
    | some rt =>
      rw [hkcp] at hact
      cases hact
      have honly : w.Only (some rt) := hkcp ▸ hholds
      exact move h (hin rfl) rfl rfl honly
  | closeRuntime rt =>
    cases hact
    have honly : World.Only { w.leave i with opened := w.opened.set rt false } none := by
      intro rt' hrt'
      have := hholds rt'
      grind [World.leave]
    exact move_leave h (hin rfl) rfl (fun rt' hrt' => nomatch honly rt' hrt') fun _ => honly
  | returned => cases hact

def discipline : Calls.Discipline Pc.isEntry (Calls.guarded alone act) where
  WorldOk := WorldOk
  CallOk := CallOk
  Keeps := Keeps
  entry := by
    intro w i pc hentry hcall
    have hpc : pc.busy = false := by cases pc <;> first | rfl | cases hentry
    exact ⟨by simpa [hpc] using hcall.1, by simpa using holds_of_not_busy hpc⟩
  others := by
    intro w w' i j pc hkeeps hj hcall
    obtain ⟨hbusy, hsame⟩ := hkeeps j hj
    refine ⟨hbusy.trans hcall.1, fun pc' hpc' => ?_⟩
    obtain rfl : pc = some pc' := hpc'
    have hholds := hcall.2 pc' rfl
    cases hpc : pc'.busy with
    | false => exact holds_of_not_busy hpc
    | true =>
      obtain ⟨hopened, hkcp, hclosed⟩ := hsame (hcall.1.2 hpc)
      exact (holds_congr hopened hkcp hclosed pc').2 hholds
  act := by
    intro w w' i c pc pc' hw hcall hact
    obtain ⟨halone, hact⟩ := Calls.guarded_eq_some hact
    exact act_ok hw hcall halone hact

lemma owned_of_ok {s : State} (hok : discipline.Ok s) : Owned s := by
  intro hreturned rt hrt
  have hfree : s.world.busy = [] := by
    refine List.eq_nil_iff_forall_not_mem.2 fun i hi => ?_
    have hbusy : s.calls[i]?.any Pc.busy = true := (hok.calls i).1.1 hi
    cases hpc : s.calls[i]? with
    | none => simp [hpc] at hbusy
    | some pc => simp [hpc, hreturned pc (List.mem_of_getElem? hpc), Pc.busy] at hbusy
  obtain ⟨honly, hclosed⟩ := hok.world.free hfree
  exact ⟨honly rt hrt, Bool.eq_false_iff.2 fun h => nomatch hclosed h rt hrt⟩

/-- **The KCP runtimes are owned**, after every run in which no two calls are at work at a time and
none restarts after `Close`. -/
theorem runtimes_owned (connected : Bool) (events : List Event)
    (halone : Along step (Calls.Admits alone) (init connected) events) :
    Owned (run step (init connected) events) := by
  rw [step, Calls.run_guarded halone]
  refine owned_of_ok (discipline.ok_run ?_ (fun i => ?_) events)
  · refine ⟨?_, fun _ => ⟨fun rt hrt => ?_, ?_⟩⟩ <;> cases connected <;> simp_all [init]
    grind
  · cases connected <;> simp [discipline, CallOk]

/-- A restart, and then `Close`. -/
def exampleEvents : List Event :=
  [.begin .swap, .step 0 true, .step 0 true, .step 0 true, .step 0 true,
    .begin .close, .step 1 true, .step 1 true, .step 1 true]

/-- Both runtimes have been closed. -/
theorem runtimes_owned_restart :
    (run step (init true) exampleEvents).world.opened = [false, false] ∧
    Owned (run step (init true) exampleEvents) :=
  ⟨by decide, runtimes_owned true exampleEvents (by decide)⟩

/-- Two restarts both install a runtime, and the first of them is never closed; a restart that is
under way when `Close` looks leaves its runtime open. -/
theorem overlapping_restarts :
    (∃ events, (∀ pc ∈ (run step (init true) events).calls, pc = .returned) ∧
      (run step (init true) events).world.opened = [false, true, true] ∧
      (run step (init true) events).world.kcp = some 2) ∧
    (∃ events, (∀ pc ∈ (run step (init true) events).calls, pc = .returned) ∧
      (run step (init true) events).world.closed = true ∧
      (run step (init true) events).world.opened = [false, true]) := by
  refine ⟨⟨[.begin .swap, .begin .swap, .step 0 true, .step 1 true, .step 0 true, .step 0 true,
    .step 0 true, .step 1 true, .step 1 true], ?_⟩, ⟨[.begin .swap, .begin .close, .step 0 true,
    .step 1 true, .step 1 true, .step 0 true, .step 0 true, .step 0 true], ?_⟩⟩
  · decide
  · decide

end OlcRtc.LegacyRuntimes
