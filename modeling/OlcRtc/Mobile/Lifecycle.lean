import OlcRtc.Lib.Calls
import OlcRtc.Mobile.Config

/-!
# The lifecycle of a mobile runtime

A `Runtime` runs one generation of the client after the other.  `Start` makes a generation and
spawns the goroutine that calls the runner; the runner reports readiness through a callback, as
often and as late as it likes; `Stop` cancels the generation and waits for it, and `WaitReady` waits
for the report.  All of them share the state under one lock, but the channels of a generation are
closed and waited for outside of it.

* `Generation` is `runGeneration` with where its goroutine stands (`Phase`).  Generations are never
  freed, and a pointer to one is its index.  Channels count how often they are closed.
* `Runtime` and its `start` are those of the configuration module.
* A call is a program counter, `Pc`, and `act` its next step: a region under the lock, a look at a
  channel, or a `select`.  The goroutine of a generation advances by calls of its own.

`reported` and `stops` are not in the source.  They record that `markReady` found its generation
current and starting, and how many calls of `Stop` have targeted it.

**`lifecycle`** is the whole of it (`Sound`), after any interleaving of any number of calls.
-/

namespace OlcRtc.Mobile.Lifecycle

/-- What the runner returns.  `canceled` is what `errors.Is(err, context.Canceled)` says. -/
structure RunError where
  text : Bytes
  canceled : Bool
deriving DecidableEq

/-- Where the goroutine of a generation stands in `run`. -/
inductive Phase
  | spawned
  | executing
  | returned (err : Option RunError)
  | leaving (err : Option RunError)
  | finished
  | ended
deriving DecidableEq

/-- `finish` has been through its region under the lock. -/
def Phase.over : Phase → Bool
  | .finished => true
  | .ended => true
  | _ => false

/-- `runGeneration`. -/
structure Generation where
  id : ℕ
  cfg : ClientConfig
  canceled : Bool := false
  readyOnce : Bool := false
  doneOnce : Bool := false
  readyCloses : ℕ := 0
  doneCloses : ℕ := 0
  stopRequested : Bool := false
  err : Option RunError := none
  phase : Phase := .spawned
  reported : Bool := false
  stops : ℕ := 0

structure World where
  runtime : Runtime
  generations : List Generation

/-- What `Stop` returns besides nil. -/
inductive StopError
  | stopTimeout
deriving DecidableEq

/-- What `WaitReady` returns besides nil. -/
inductive WaitError
  | notRunning
  | stoppedBeforeReady
  | readyTimeout
  | run (err : RunError)
deriving DecidableEq

/-- Where a call stands.  The last ones have returned: `stopped` with the generation that was
targeted and whether one was active then, `waited` with the generation that was observed. -/
inductive Pc
  | configure (defaults : RuntimeConfig)
  | start
  | goroutine (g : ℕ)
  | ready (g : ℕ)
  | stop
  | stopWait (g : ℕ)
  | waitReady
  | checkDone (g : ℕ)
  | checkReady (g : ℕ)
  | select (g : ℕ)
  | generationError (g : ℕ)
  | started (err : Option StartError)
  | stopped (target : Option ℕ) (active : Bool) (err : Option StopError)
  | waited (observed : Option ℕ) (err : Option WaitError)
  | returned

def Pc.generation : Pc → Option ℕ
  | .goroutine g => some g
  | .ready g => some g
  | .stopWait g => some g
  | .checkDone g => some g
  | .checkReady g => some g
  | .select g => some g
  | .generationError g => some g
  | _ => none

def Pc.isEntry : Pc → Bool
  | .configure _ => true
  | .start => true
  | .goroutine _ => true
  | .ready _ => true
  | .stop => true
  | .waitReady => true
  | _ => false

/-- Which case a `select` takes. -/
inductive Pick
  | ready
  | done
  | timer
deriving DecidableEq

/-- What a step depends on besides the state: what the runner returns, and the case of a
`select`. -/
structure Choice where
  runErr : Option RunError := none
  pick : Pick := .timer

namespace World

def currentId (w : World) : Option ℕ := w.runtime.current.map (·.id)

/-- `isCurrentGenerationLocked`. -/
def isCurrent (w : World) (gen : Generation) : Bool := w.currentId = some gen.id

def put (w : World) (g : ℕ) (gen : Generation) (state : RuntimeState) : World :=
  ⟨{ w.runtime with state := state }, w.generations.set g gen⟩

def start (w : World) : World × Pc :=
  match w.runtime.start with
  | .error err => (w, .started (some err))
  | .ok runtime =>
    (⟨runtime, w.generations ++
      [{ id := runtime.nextGeneration, cfg := w.runtime.defaults.clientConfig }]⟩, .started none)

/-- The region of `finish`. -/
def finish (w : World) (g : ℕ) (gen : Generation) (runErr : Option RunError) : World :=
  let runErr := if gen.stopRequested ∧ runErr.any (·.canceled) then none else runErr
  w.put g { gen with err := runErr, phase := .finished }
    (if w.isCurrent gen then .stopped else w.runtime.state)

/-- The next step of the goroutine of a generation: `run`, and the end of `finish`. -/
def advance (w : World) (g : ℕ) (gen : Generation) (c : Choice) : Option World :=
  match gen.phase with
  | .spawned => some (w.put g { gen with phase := .executing } w.runtime.state)
  | .executing => some (w.put g { gen with phase := .returned c.runErr } w.runtime.state)
  | .returned err =>
    some (w.put g { gen with canceled := true, phase := .leaving err } w.runtime.state)
  | .leaving err => some (w.finish g gen err)
  | .finished =>
    if gen.doneOnce then some (w.put g { gen with phase := .ended } w.runtime.state)
    else some (w.put g { gen with
      doneOnce := true, doneCloses := gen.doneCloses + 1, phase := .ended } w.runtime.state)
  | .ended => none

def markReady (w : World) (g : ℕ) (gen : Generation) : World :=
  if w.isCurrent gen ∧ w.runtime.state = .starting then
    if gen.readyOnce then w.put g { gen with reported := true } w.runtime.state
    else w.put g { gen with
      readyOnce := true, readyCloses := gen.readyCloses + 1, reported := true } .running
  else w

def current (w : World) : Option ℕ := w.generations.findIdx? w.isCurrent

/-- Some generation has not been through `finish`. -/
def anyActive (w : World) : Bool := w.generations.any fun gen => !gen.phase.over

/-- The region of `Stop`. -/
def stop (w : World) : Option (World × Pc) :=
  if w.runtime.state = .idle ∨ w.runtime.state = .stopped then
    some (w, .stopped none w.anyActive none)
  else
    match w.current with
    | none => some (w, .stopped none w.anyActive none)
    | some g =>
      w.generations[g]?.map fun gen =>
        if w.runtime.state = .stopping then
          (w.put g { gen with stops := gen.stops + 1 } w.runtime.state, .stopWait g)
        else
          (w.put g { gen with
            stops := gen.stops + 1, stopRequested := true, canceled := true } .stopping,
            .stopWait g)

end World

/-- `channelClosed(gen.ready)`. -/
def Generation.readyClosed (gen : Generation) : Bool := 0 < gen.readyCloses

/-- `channelClosed(gen.done)`. -/
def Generation.doneClosed (gen : Generation) : Bool := 0 < gen.doneCloses

/-- `generationError`. -/
def Generation.error (gen : Generation) : WaitError :=
  match gen.err with
  | some err => .run err
  | none => if gen.readyClosed then .notRunning else .stoppedBeforeReady

/-- The next step of a call, or nothing if it has returned or has to wait. -/
def act (_ : ℕ) (c : Choice) (w : World) : Pc → Option (World × Pc)
  | .configure defaults =>
    some (⟨{ w.runtime with defaults := defaults }, w.generations⟩, .returned)
  | .start => some (w.start)
  | .goroutine g => do
    let gen ← w.generations[g]?
    let w ← w.advance g gen c
    return (w, .returned)
  | .ready g => w.generations[g]?.map fun gen => (w.markReady g gen, .returned)
  | .stop => w.stop
  | .stopWait g => do
    let gen ← w.generations[g]?
    match c.pick with
    | .timer => some (w, .stopped (some g) true (some .stopTimeout))
    | _ => if gen.doneClosed then some (w, .stopped (some g) true none) else none
  | .waitReady =>
    match w.current with
    | none => some (w, .waited none (some .notRunning))
    | some g => some (w, .checkDone g)
  | .checkDone g => w.generations[g]?.map fun gen =>
    (w, if gen.doneClosed then .generationError g else .checkReady g)
  | .checkReady g => w.generations[g]?.map fun gen =>
    (w, if gen.readyClosed then .waited (some g) none else .select g)
  | .select g => do
    let gen ← w.generations[g]?
    match c.pick with
    | .timer => some (w, .waited (some g) (some .readyTimeout))
    | .ready => if gen.readyClosed then some (w, .waited (some g) none) else none
    | .done => if gen.doneClosed then some (w, .generationError g) else none
  | .generationError g => w.generations[g]?.map fun gen => (w, .waited (some g) (some gen.error))
  | .started _ => none
  | .stopped _ _ _ => none
  | .waited _ _ => none
  | .returned => none

abbrev State := Calls.State World Pc

abbrev Event := Calls.Event Pc Choice

def step : State → Event → State := Calls.step Pc.isEntry act

/-- `New`. -/
def init : State := ⟨⟨{}, []⟩, []⟩

/-! ## What holds -/

structure Sound (s : State) : Prop where
  /-- At most one runner executes at a time: one generation has not been through `finish`. -/
  one_runner : ∀ {g h : ℕ} {gen gen' : Generation}, s.world.generations[g]? = some gen →
    s.world.generations[h]? = some gen' → gen.phase.over = false → gen'.phase.over = false → g = h
  /-- Generation ids strictly increase. -/
  ids : (s.world.generations.map (·.id)).Pairwise (· < ·)
  /-- The channels of a generation are closed at most once. -/
  closes : ∀ gen ∈ s.world.generations, gen.readyCloses ≤ 1 ∧ gen.doneCloses ≤ 1
  /-- A step of a call that is about a generation other than the current one leaves the runtime as
  it is. -/
  old : ∀ {i g : ℕ} {pc : Pc} {gen : Generation}, s.calls[i]? = some pc → pc.generation = some g →
    s.world.generations[g]? = some gen → s.world.isCurrent gen = false →
    ∀ c, (step s (.step i c)).world.runtime = s.world.runtime
  /-- While the runtime is running, its current generation has reported ready, and no `Stop` has
  been called since. -/
  running : s.world.runtime.state = .running → ∃ gen ∈ s.world.generations,
    s.world.isCurrent gen = true ∧ gen.reported = true ∧ gen.stops = 0
  /-- `Stop` has returned nil only if its generation is finished, or if none was active. -/
  stop : ∀ {i : ℕ} {target : Option ℕ} {active : Bool},
    s.calls[i]? = some (.stopped target active none) →
    match target with
    | none => active = false
    | some g => ∃ gen, s.world.generations[g]? = some gen ∧ gen.phase.over = true
  /-- `WaitReady` has returned nil only if its generation reported ready while starting. -/
  wait : ∀ {i : ℕ} {observed : Option ℕ}, s.calls[i]? = some (.waited observed none) →
    ∃ g gen, observed = some g ∧ s.world.generations[g]? = some gen ∧ gen.reported = true

/-! ## The invariant -/

/-- The states of `isActiveLocked`. -/
def Active (state : RuntimeState) : Prop :=
  state = .starting ∨ state = .running ∨ state = .stopping

/-- What holds of generation `g`, given the state and the id of the current generation. -/
structure GenOk (state : RuntimeState) (currentId : Option ℕ) (g : ℕ) (gen : Generation) :
    Prop where
  id : gen.id = g + 1
  alive : gen.phase.over = false → currentId = some gen.id ∧ Active state
  ended : gen.phase.over = true → currentId = some gen.id → state = .stopped
  readyCloses : gen.readyCloses = if gen.readyOnce then 1 else 0
  doneCloses : gen.doneCloses = if gen.doneOnce then 1 else 0
  doneOver : gen.doneOnce = true → gen.phase = .ended
  readyReported : gen.readyOnce = true → gen.reported = true
  starting : currentId = some gen.id → state = .starting → gen.stops = 0
  running : currentId = some gen.id → state = .running → gen.reported = true ∧ gen.stops = 0

structure WorldOk (w : World) : Prop where
  next : w.runtime.nextGeneration = w.generations.length
  current : Active w.runtime.state → ∃ g < w.generations.length, w.currentId = some (g + 1)
  generations : ∀ {g : ℕ} {gen : Generation}, w.generations[g]? = some gen →
    GenOk w.runtime.state w.currentId g gen

/-- What no step takes back. -/
def Keeps (w w' : World) : Prop :=
  ∀ (g : ℕ) (gen : Generation), w.generations[g]? = some gen →
    ∃ gen', w'.generations[g]? = some gen' ∧ (gen.phase.over = true → gen'.phase.over = true) ∧
      (gen.reported = true → gen'.reported = true)

lemma keeps_refl (w : World) : Keeps w w := fun _ gen h => ⟨gen, h, id, id⟩

/-- What a returned `Stop` has found. -/
def StopOk (w : World) (target : Option ℕ) (active : Bool) : Prop :=
  match target with
  | none => active = false
  | some g => ∃ gen, w.generations[g]? = some gen ∧ gen.phase.over = true

/-- What a returned `WaitReady` has found. -/
def WaitOk (w : World) (observed : Option ℕ) : Prop :=
  ∃ g gen, observed = some g ∧ w.generations[g]? = some gen ∧ gen.reported = true

/-- What a call may rely on: what it found when it returned nil still holds. -/
structure CallOk (w : World) (pc : Option Pc) : Prop where
  stop : ∀ target active, pc = some (.stopped target active none) → StopOk w target active
  wait : ∀ observed, pc = some (.waited observed none) → WaitOk w observed

lemma CallOk.keeps {w w' : World} {pc : Option Pc} (h : CallOk w pc) (hkeeps : Keeps w w') :
    CallOk w' pc := by
  refine ⟨fun target active hpc => ?_, fun observed hpc => ?_⟩
  · have hstop := h.stop target active hpc
    cases target with
    | none => exact hstop
    | some g =>
      obtain ⟨gen, hgen, hover⟩ := hstop
      obtain ⟨gen', hgen', hover', -⟩ := hkeeps g gen hgen
      exact ⟨gen', hgen', hover' hover⟩
  · obtain ⟨g, gen, hobserved, hgen, hreported⟩ := h.wait observed hpc
    obtain ⟨gen', hgen', -, hreported'⟩ := hkeeps g gen hgen
    exact ⟨g, gen', hobserved, hgen', hreported' hreported⟩

lemma callOk_of_ne {w : World} {pc : Option Pc}
    (hstop : ∀ target active, pc ≠ some (.stopped target active none))
    (hwait : ∀ observed, pc ≠ some (.waited observed none)) : CallOk w pc :=
  ⟨fun target active h => absurd h (hstop target active),
    fun observed h => absurd h (hwait observed)⟩

/-! ## One region -/

section Regions

variable {w : World} {g : ℕ} {gen gen' : Generation} {state : RuntimeState}

lemma GenOk.of_not_current {currentId : Option ℕ} {state' : RuntimeState}
    (h : GenOk state currentId g gen) (hcurrent : currentId ≠ some gen.id) (currentId' : Option ℕ)
    (hcurrent' : currentId' ≠ some gen.id) : GenOk state' currentId' g gen := by
  have hover : gen.phase.over = true := by
    by_contra halive
    exact hcurrent (h.alive (Bool.not_eq_true _ ▸ halive)).1
  exact ⟨h.id, fun halive => absurd halive (by simp [hover]), fun _ hcur => absurd hcur hcurrent',
    h.readyCloses, h.doneCloses, h.doneOver, h.readyReported, fun hcur => absurd hcur hcurrent',
    fun hcur => absurd hcur hcurrent'⟩

lemma getElem?_put (hgen : w.generations[g]? = some gen) (h : ℕ) :
    (w.put g gen' state).generations[h]? =
      if h = g then some gen' else w.generations[h]? := by
  have hlt := (List.getElem?_eq_some_iff.1 hgen).1
  show (w.generations.set g gen')[h]? = _
  split_ifs with heq
  · rw [heq, List.getElem?_set_self hlt]
  · rw [List.getElem?_set_ne (Ne.symm heq)]

lemma WorldOk.put (hw : WorldOk w) (hgen : w.generations[g]? = some gen)
    (hnew : GenOk state w.currentId g gen')
    (hstate : state = w.runtime.state ∨ (Active w.runtime.state ∧ w.currentId = some gen.id))
    (hover : gen.phase.over = true → gen'.phase.over = true)
    (hreported : gen.reported = true → gen'.reported = true) :
    WorldOk (w.put g gen' state) ∧ Keeps w (w.put g gen' state) := by
  refine ⟨⟨?_, fun hactive => ?_, fun {h other} hother => ?_⟩, fun h other hother => ?_⟩
  · show w.runtime.nextGeneration = (w.generations.set g gen').length
    rw [List.length_set, hw.next]
  · show ∃ h < (w.generations.set g gen').length, w.currentId = some (h + 1)
    rw [List.length_set]
    rcases hstate with rfl | ⟨hactive', -⟩
    · exact hw.current hactive
    · exact hw.current hactive'
  · show GenOk state w.currentId h other
    rw [getElem?_put hgen] at hother
    split_ifs at hother with heq
    · subst heq
      exact Option.some.inj hother ▸ hnew
    · have hok := hw.generations hother
      rcases hstate with rfl | ⟨-, hcurrent⟩
      · exact hok
      · have hne : w.currentId ≠ some other.id := by
          rw [hcurrent, hok.id, (hw.generations hgen).id]
          intro hid
          have := Option.some.inj hid
          omega
        exact hok.of_not_current hne _ hne
  · grind [getElem?_put, id]

lemma GenOk.move {currentId : Option ℕ} (h : GenOk state currentId g gen) {phase : Phase}
    {canceled : Bool} (hover : phase.over = gen.phase.over) (hended : gen.phase ≠ .ended) :
    GenOk state currentId g { gen with canceled := canceled, phase := phase } where
  id := h.id
  alive := fun halive => h.alive (hover ▸ halive)
  ended := fun hover' => h.ended (hover ▸ hover')
  readyCloses := h.readyCloses
  doneCloses := h.doneCloses
  doneOver := fun hdone => absurd (h.doneOver hdone) hended
  readyReported := h.readyReported
  starting := h.starting
  running := h.running

lemma WorldOk.finish (hw : WorldOk w) (hgen : w.generations[g]? = some gen)
    {err runErr : Option RunError} (hphase : gen.phase = .leaving err) :
    WorldOk (w.finish g gen runErr) ∧ Keeps w (w.finish g gen runErr) := by
  have hok := hw.generations hgen
  obtain ⟨hcurrent, hactive⟩ := hok.alive (hphase ▸ rfl)
  have hstopped : (if w.isCurrent gen then RuntimeState.stopped else w.runtime.state) = .stopped :=
    if_pos (decide_eq_true hcurrent)
  rw [World.finish, hstopped]
  refine hw.put hgen ?_ (.inr ⟨hactive, hcurrent⟩) (fun _ => rfl) id
  exact {
    id := hok.id
    alive := nofun
    ended := fun _ _ => rfl
    readyCloses := hok.readyCloses
    doneCloses := hok.doneCloses
    doneOver := fun hdone => absurd (hok.doneOver hdone) (by simp [hphase])
    readyReported := hok.readyReported
    starting := nofun
    running := nofun }

lemma WorldOk.advance (hw : WorldOk w) (hgen : w.generations[g]? = some gen) {c : Choice}
    {w' : World} (h : w.advance g gen c = some w') : WorldOk w' ∧ Keeps w w' := by
  have hok := hw.generations hgen
  have hmove : ∀ {phase : Phase} {canceled : Bool}, phase.over = gen.phase.over →
      gen.phase ≠ .ended →
      WorldOk (w.put g { gen with canceled := canceled, phase := phase } w.runtime.state) ∧
        Keeps w (w.put g { gen with canceled := canceled, phase := phase } w.runtime.state) :=
    fun hover hended => hw.put hgen (hok.move hover hended) (.inl rfl) (fun h => hover.trans h) id
  rw [World.advance] at h
  cases hphase : gen.phase with
  | spawned =>
    grind [Option.some.injEq, Phase.over]
  | executing =>
    grind [Option.some.injEq, Phase.over]
  | returned err =>
    grind [Option.some.injEq, Phase.over]
  | leaving err =>
    simp only [hphase, Option.some.injEq] at h
    exact h ▸ hw.finish hgen hphase
  | finished =>
    have hdone : gen.doneOnce = false := by
      grind [OlcRtc.Mobile.Lifecycle.GenOk.doneOver]
    simp only [hphase, hdone, Bool.false_eq_true, if_false, Option.some.injEq] at h
    rw [← h]
    refine hw.put hgen ?_ (.inl rfl) (fun _ => rfl) id
    exact {
      id := hok.id
      alive := nofun
      ended := fun _ => hok.ended (hphase ▸ rfl)
      readyCloses := hok.readyCloses
      doneCloses := by
        show gen.doneCloses + 1 = 1
        rw [hok.doneCloses, hdone]
        rfl
      doneOver := fun _ => rfl
      readyReported := hok.readyReported
      starting := hok.starting
      running := hok.running }
  | ended =>
    simp only [hphase] at h
    cases h

lemma WorldOk.markReady (hw : WorldOk w) (hgen : w.generations[g]? = some gen) :
    WorldOk (w.markReady g gen) ∧ Keeps w (w.markReady g gen) := by
  have hok := hw.generations hgen
  rw [World.markReady]
  split_ifs with hcond hready
  · refine hw.put hgen ?_ (.inl rfl) id fun _ => rfl
    exact { hok with readyReported := fun _ => rfl, running := fun hcur hrun =>
      ⟨rfl, (hok.running hcur hrun).2⟩ }
  · obtain ⟨hcurrent, hstarting⟩ := hcond
    replace hcurrent : w.currentId = some gen.id := of_decide_eq_true hcurrent
    refine hw.put hgen ?_ (.inr ⟨.inl hstarting, hcurrent⟩) id fun _ => rfl
    exact {
      id := hok.id
      alive := fun _ => ⟨hcurrent, .inr (.inl rfl)⟩
      ended := fun hover _ => absurd (hok.ended hover hcurrent) (by simp [hstarting])
      readyCloses := by
        show gen.readyCloses + 1 = 1
        rw [hok.readyCloses, if_neg hready]
      doneCloses := hok.doneCloses
      doneOver := hok.doneOver
      readyReported := fun _ => rfl
      starting := nofun
      running := fun _ _ => ⟨rfl, hok.starting hcurrent hstarting⟩ }
  · exact ⟨hw, keeps_refl w⟩

lemma WorldOk.over_of_not_active (hw : WorldOk w) (hinactive : ¬ Active w.runtime.state)
    (hgen : w.generations[g]? = some gen) : gen.phase.over = true := by
  by_contra halive
  exact hinactive ((hw.generations hgen).alive (Bool.not_eq_true _ ▸ halive)).2

lemma start_eq_ok {r r' : Runtime} (h : r.start = .ok r') :
    ¬ Active r.state ∧ r'.state = .starting ∧ r'.nextGeneration = r.nextGeneration + 1 ∧
      r'.current.map (·.id) = some (r.nextGeneration + 1) := by
  rw [Runtime.start] at h
  split_ifs at h with hactive
  obtain ⟨-, -, hr⟩ := bind_eq_ok.1 h
  cases hr
  refine ⟨?_, rfl, rfl, rfl⟩
  simpa [Runtime.isActive, Active, or_assoc] using hactive

lemma WorldOk.start (hw : WorldOk w) :
    WorldOk (w.start).1 ∧ Keeps w (w.start).1 := by
  rw [World.start]
  cases hstart : w.runtime.start with
  | error err => exact ⟨hw, keeps_refl w⟩
  | ok r =>
    obtain ⟨hinactive, hstate, hnext, hcurrent⟩ := start_eq_ok hstart
    rw [hw.next] at hcurrent hnext
    refine ⟨⟨?_, fun _ => ⟨w.generations.length, ?_, hcurrent⟩, fun {g gen} hgen => ?_⟩,
      fun g gen hgen => ?_⟩
    · grind
    · grind
    · show GenOk r.state (r.current.map (·.id)) g gen
      rw [hcurrent, hstate]
      rcases getElem?_concat_cases hgen with ⟨rfl, rfl⟩ | hold
      · exact {
          id := hnext
          alive := fun _ => ⟨congrArg some hnext.symm, .inl rfl⟩
          ended := nofun
          readyCloses := rfl
          doneCloses := rfl
          doneOver := nofun
          readyReported := nofun
          starting := fun _ _ => rfl
          running := nofun }
      · have hok := hw.generations hold
        have hlt := (List.getElem?_eq_some_iff.1 hold).1
        have hover := hw.over_of_not_active hinactive hold
        have hne : some (w.generations.length + 1) ≠ some gen.id := by
          rw [hok.id]
          intro hid
          have := Option.some.inj hid
          omega
        exact ⟨hok.id, fun halive => absurd halive (by simp [hover]),
          fun _ hcur => absurd hcur hne, hok.readyCloses, hok.doneCloses, hok.doneOver,
          hok.readyReported, fun hcur => absurd hcur hne, fun hcur => absurd hcur hne⟩
    · grind

lemma current_eq_some (h : w.current = some g) :
    ∃ gen, w.generations[g]? = some gen ∧ w.currentId = some gen.id := by
  obtain ⟨hlt, hcurrent, -⟩ := List.findIdx?_eq_some_iff_getElem.1 h
  exact ⟨_, List.getElem?_eq_getElem hlt, of_decide_eq_true hcurrent⟩

lemma WorldOk.current_ne_none (hw : WorldOk w) (hactive : Active w.runtime.state) :
    w.current ≠ none := by
  intro hnone
  obtain ⟨g, hlt, hcurrent⟩ := hw.current hactive
  have hgen := List.getElem?_eq_getElem hlt
  have hfalse := List.findIdx?_eq_none_iff.1 hnone _ (List.getElem_mem hlt)
  exact absurd hcurrent (by simpa [World.isCurrent, (hw.generations hgen).id] using hfalse)

lemma active_of_ne {state : RuntimeState} (h : ¬ (state = .idle ∨ state = .stopped)) :
    Active state := by
  cases state with
  | idle => exact absurd (.inl rfl) h
  | starting => exact .inl rfl
  | running => exact .inr (.inl rfl)
  | stopping => exact .inr (.inr rfl)
  | stopped => exact absurd (.inr rfl) h

lemma WorldOk.stopOk_none (hw : WorldOk w)
    (hidle : w.runtime.state = .idle ∨ w.runtime.state = .stopped) :
    StopOk w none w.anyActive := by
  have hinactive : ¬ Active w.runtime.state := by
    rcases hidle with h | h <;> simp [Active, h]
  refine List.any_eq_false.2 fun gen hmem => ?_
  obtain ⟨g, hgen⟩ := List.mem_iff_getElem?.1 hmem
  simp [hw.over_of_not_active hinactive hgen]

lemma WorldOk.stop (hw : WorldOk w) {w' : World} {pc : Pc} (h : w.stop = some (w', pc)) :
    (WorldOk w' ∧ Keeps w w') ∧ CallOk w' (some pc) := by
  rw [World.stop] at h
  by_cases hidle : w.runtime.state = .idle ∨ w.runtime.state = .stopped
  · rw [if_pos hidle] at h
    cases h
    refine ⟨⟨hw, keeps_refl w⟩, fun target active hpc => ?_, nofun⟩
    cases hpc
    exact hw.stopOk_none hidle
  · rw [if_neg hidle] at h
    have hactive := active_of_ne hidle
    cases hcurrent : w.current with
    | none => exact absurd hcurrent (hw.current_ne_none hactive)
    | some g =>
      obtain ⟨gen, hgen, hid⟩ := current_eq_some hcurrent
      have hok := hw.generations hgen
      simp only [hcurrent, hgen, Option.map_some, Option.some.injEq] at h
      split_ifs at h with hstopping
      · cases h
        refine ⟨hw.put hgen ?_ (.inl rfl) id id, callOk_of_ne nofun nofun⟩
        exact { hok with
          starting := fun _ hstarting => absurd (hstarting.symm.trans hstopping) nofun
          running := fun _ hrunning => absurd (hrunning.symm.trans hstopping) nofun }
      · cases h
        refine ⟨hw.put hgen ?_ (.inr ⟨hactive, hid⟩) id id, callOk_of_ne nofun nofun⟩
        exact { hok with
          alive := fun _ => ⟨hid, .inr (.inr rfl)⟩
          ended := fun hover _ => absurd (.inr (hok.ended hover hid)) hidle
          starting := nofun
          running := nofun }

end Regions

/-! ## All interleavings -/

lemma GenOk.of_closed {state : RuntimeState} {currentId : Option ℕ} {g : ℕ} {gen : Generation}
    (h : GenOk state currentId g gen) :
    (gen.doneClosed = true → gen.phase.over = true) ∧
      (gen.readyClosed = true → gen.reported = true) := by
  rw [Generation.doneClosed, Generation.readyClosed, h.doneCloses, h.readyCloses]
  constructor
  · intro hclosed
    cases hdone : gen.doneOnce with
    | false => simp [hdone] at hclosed
    | true => rw [h.doneOver hdone]; rfl
  · grind [OlcRtc.Mobile.Lifecycle.GenOk.readyReported]

lemma WorldOk.callOk_stopped {w : World} (hw : WorldOk w) {g : ℕ} {gen : Generation}
    (hgen : w.generations[g]? = some gen) (hdone : gen.doneClosed = true) (active : Bool) :
    CallOk w (some (.stopped (some g) active none)) := by
  refine ⟨fun target active' hpc => ?_, nofun⟩
  cases hpc
  exact ⟨gen, hgen, (hw.generations hgen).of_closed.1 hdone⟩

lemma WorldOk.callOk_waited {w : World} (hw : WorldOk w) {g : ℕ} {gen : Generation}
    (hgen : w.generations[g]? = some gen) (hready : gen.readyClosed = true) :
    CallOk w (some (.waited (some g) none)) := by
  refine ⟨nofun, fun observed hpc => ?_⟩
  cases hpc
  exact ⟨g, gen, rfl, hgen, (hw.generations hgen).of_closed.2 hready⟩

lemma WorldOk.act {i : ℕ} {c : Choice} {w w' : World} {pc pc' : Pc}
    (hw : WorldOk w) (h : act i c w pc = some (w', pc')) :
    (WorldOk w' ∧ Keeps w w') ∧ CallOk w' (some pc') := by
  have hstay : WorldOk w ∧ Keeps w w := ⟨hw, keeps_refl w⟩
  cases pc with
  | configure defaults =>
    cases h
    exact ⟨⟨⟨hw.next, hw.current, hw.generations⟩, keeps_refl w⟩, callOk_of_ne nofun nofun⟩
  | start =>
    have heq : w.start = (w', pc') := Option.some.inj h
    have hstart := hw.start
    rw [heq] at hstart
    refine ⟨hstart, ?_⟩
    rw [World.start] at heq
    cases hr : w.runtime.start with
    | error err =>
      rw [hr] at heq
      cases heq
      exact callOk_of_ne nofun nofun
    | ok r =>
      rw [hr] at heq
      cases heq
      exact callOk_of_ne nofun nofun
  | goroutine g =>
    obtain ⟨gen, hgen, h⟩ := Option.bind_eq_some_iff.1 h
    obtain ⟨w'', hadvance, h⟩ := Option.bind_eq_some_iff.1 h
    cases h
    exact ⟨hw.advance hgen hadvance, callOk_of_ne nofun nofun⟩
  | ready g =>
    obtain ⟨gen, hgen, h⟩ := Option.map_eq_some_iff.1 h
    cases h
    exact ⟨hw.markReady hgen, callOk_of_ne nofun nofun⟩
  | stop => exact hw.stop h
  | stopWait g =>
    obtain ⟨gen, hgen, h⟩ := Option.bind_eq_some_iff.1 h
    cases hpick : c.pick with
    | timer =>
      grind [callOk_of_ne]
    | ready | done =>
      simp only [hpick] at h
      split_ifs at h with hdone
      cases h
      exact ⟨hstay, hw.callOk_stopped hgen hdone true⟩
  | waitReady =>
    grind [Lifecycle.act, callOk_of_ne]
  | checkDone g =>
    obtain ⟨gen, hgen, h⟩ := Option.map_eq_some_iff.1 h
    cases h
    refine ⟨hstay, ?_⟩
    split_ifs <;> exact callOk_of_ne nofun nofun
  | checkReady g =>
    obtain ⟨gen, hgen, h⟩ := Option.map_eq_some_iff.1 h
    cases h
    refine ⟨hstay, ?_⟩
    split_ifs with hready
    · exact hw.callOk_waited hgen hready
    · exact callOk_of_ne nofun nofun
  | select g =>
    obtain ⟨gen, hgen, h⟩ := Option.bind_eq_some_iff.1 h
    cases hpick : c.pick with
    | timer =>
      grind [callOk_of_ne]
    | ready =>
      grind [OlcRtc.Mobile.Lifecycle.WorldOk.callOk_waited]
    | done =>
      grind [callOk_of_ne]
  | generationError g =>
    obtain ⟨gen, hgen, h⟩ := Option.map_eq_some_iff.1 h
    cases h
    exact ⟨hstay, callOk_of_ne nofun nofun⟩
  | started err => cases h
  | stopped target active err => cases h
  | waited observed err => cases h
  | returned => cases h

def discipline : Calls.Discipline Pc.isEntry act where
  WorldOk := WorldOk
  CallOk := fun w _ pc => CallOk w pc
  Keeps := fun _ w w' => Keeps w w'
  entry := by
    intro w i pc hentry _
    refine callOk_of_ne (fun target active hpc => ?_) fun observed hpc => ?_
    · cases hpc
      cases hentry
    · cases hpc
      cases hentry
  others := fun hkeeps _ hcall => hcall.keeps hkeeps
  act := by
    intro w w' i c pc pc' hw _ hact
    obtain ⟨⟨hw', hkeeps⟩, hcall⟩ := hw.act hact
    exact ⟨hw', hkeeps, hcall⟩

lemma worldOk_init : WorldOk init.world := by
  refine ⟨rfl, fun hactive => ?_, nofun⟩
  rcases hactive with h | h | h <;> cases h

lemma runtime_act_of_not_current {i g : ℕ} {c : Choice} {w w' : World}
    {pc pc' : Pc} {gen : Generation} (hpc : pc.generation = some g)
    (hgen : w.generations[g]? = some gen) (hcurrent : w.isCurrent gen = false)
    (h : act i c w pc = some (w', pc')) : w'.runtime = w.runtime := by
  cases pc with
  | goroutine h' =>
    cases hpc
    obtain ⟨gen', hgen', h⟩ := Option.bind_eq_some_iff.1 h
    rw [hgen] at hgen'
    cases hgen'
    obtain ⟨w'', hadvance, h⟩ := Option.bind_eq_some_iff.1 h
    cases h
    rw [World.advance] at hadvance
    cases hphase : gen.phase with
    | leaving err =>
      simp only [hphase, World.finish, hcurrent, Option.some.injEq] at hadvance
      exact hadvance ▸ rfl
    | finished =>
      simp only [hphase] at hadvance
      split_ifs at hadvance <;> exact Option.some.inj hadvance ▸ rfl
    | spawned | executing | returned err =>
      simp only [hphase, Option.some.injEq] at hadvance
      exact hadvance ▸ rfl
    | ended =>
      simp only [hphase] at hadvance
      cases hadvance
  | ready h' =>
    cases hpc
    obtain ⟨gen', hgen', h⟩ := Option.map_eq_some_iff.1 h
    rw [hgen] at hgen'
    cases hgen'
    cases h
    rw [World.markReady, if_neg (by simp [hcurrent])]
  | stopWait h' =>
    obtain ⟨gen', -, h⟩ := Option.bind_eq_some_iff.1 h
    cases hpick : c.pick with
    | timer =>
      simp only [hpick] at h
      cases h
      rfl
    | ready | done =>
      grind
  | select h' =>
    obtain ⟨gen', -, h⟩ := Option.bind_eq_some_iff.1 h
    cases hpick : c.pick with
    | timer =>
      simp only [hpick] at h
      cases h
      rfl
    | ready | done =>
      grind
  | checkDone h' | checkReady h' | generationError h' =>
    obtain ⟨gen', -, h⟩ := Option.map_eq_some_iff.1 h
    cases h
    rfl
  | configure _ | start | stop | waitReady | started _ | stopped _ _ _ | waited _ _ | returned =>
    cases hpc

/-- **The lifecycle of a runtime**, after any interleaving of its calls. -/
theorem lifecycle (events : List Event) : Sound (run step init events) := by
  have hok := discipline.ok_run worldOk_init (fun _ => callOk_of_ne nofun nofun) events
  generalize hs : run step init events = s
  replace hok : discipline.Ok s := hs ▸ hok
  have hw : WorldOk s.world := hok.world
  exact {
    one_runner := by
      intro g h gen gen' hgen hgen' halive halive'
      have hid := ((hw.generations hgen).alive halive).1
      rw [((hw.generations hgen').alive halive').1, (hw.generations hgen).id,
        (hw.generations hgen').id] at hid
      have := Option.some.inj hid
      omega
    ids := by
      rw [List.pairwise_map, List.pairwise_iff_getElem]
      intro g h hg hh hlt
      rw [(hw.generations (List.getElem?_eq_getElem hg)).id,
        (hw.generations (List.getElem?_eq_getElem hh)).id]
      omega
    closes := by
      intro gen hmem
      obtain ⟨g, hgen⟩ := List.mem_iff_getElem?.1 hmem
      rw [(hw.generations hgen).readyCloses, (hw.generations hgen).doneCloses]
      constructor <;> split_ifs <;> decide
    old := by
      intro i g pc gen hcall hpc hgen hcurrent c
      rw [step, Calls.step_of_call hcall]
      cases hact : act i c s.world pc with
      | none => rfl
      | some result => exact runtime_act_of_not_current hpc hgen hcurrent hact
    running := by
      intro hrunning
      obtain ⟨g, hlt, hcurrent⟩ := hw.current (.inr (.inl hrunning))
      have hgen := List.getElem?_eq_getElem hlt
      have hok := hw.generations hgen
      rw [← hok.id] at hcurrent
      exact ⟨_, List.getElem_mem hlt, decide_eq_true hcurrent, hok.running hcurrent hrunning⟩
    stop := fun {i} _ _ hcall => (hok.calls i).stop _ _ hcall
    wait := fun {i} _ hcall => (hok.calls i).wait _ hcall }

/-- A start, the call of the runner, its report and a `WaitReady` that sees it. -/
example : (run step
    ⟨⟨{ defaults := (exampleArguments 10).runtimeConfig }, []⟩, []⟩
    [.begin .start, .step 0 {}, .begin (.goroutine 0), .step 1 {}, .begin (.ready 0), .step 2 {},
      .begin .waitReady, .step 3 {}, .step 3 {}, .step 3 {}]).world.runtime.state = .running := by
  decide +kernel

end OlcRtc.Mobile.Lifecycle
