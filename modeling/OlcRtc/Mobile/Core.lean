import OlcRtc.Lib.Calls
import OlcRtc.Mobile.Config

/-!
# The runtimes of the VPN and of the profile probe

`mobilecore` has one slot for a runtime, `olcrtcRuntime`.  The VPN starts its runtime with
`StartOlcrtc` and stops it with `StopAll`; the latency probe of a profile goes through
`StartProfileProbeOlcrtc`, which calls `StartOlcrtc`, and `StopProfileProbe`.  A flag says that the
runtime in the slot is the probe's.  (Of Xray, which both use too, there are two instances, each
with a variable of its own.)

* `Owned` is a runtime with the call it was made by.  Runtimes are never freed, and the slot holds
  an index.  A runtime that is running may finish at any time.
* A call is a program counter, `Pc`, and `act` its next step.  `StartProfileProbeOlcrtc` and
  `StopProfileProbe` hold `profileProbeMu` throughout, `StartOlcrtc` holds `olcrtcStartMu`; the
  regions under `mu`, `olcrtcMu` and the lock of a runtime are one step each.
* `stops` and `pending` are not in the source.  The first records which call has stopped which
  runtime.  The second holds while the flag is behind: a probe has been started and the flag is not
  set yet, or the flag has been taken away and its runtime is not stopped yet.

**`core_runtimes`** says that a runtime stays within the reach of its own stop, and that each stop
hits runtimes of its own kind only, provided the two are kept apart (`apart`).  Nothing in the
source does that: `probe_stop_hits_vpn`.
-/

namespace OlcRtc.MobileCore

open Mobile

/-- The call a runtime was made by, `StartOlcrtc` or `StartProfileProbeOlcrtc`, and the call that
stops it, `StopAll` or `StopProfileProbe`. -/
inductive Kind
  | vpn
  | probe
deriving DecidableEq

structure Owned where
  runtime : Runtime
  kind : Kind

inductive CoreError
  | start (err : StartError)
  | stopProfileProbe
  | stopXray
deriving DecidableEq

/-- The variables of `mobilecore`, and all runtimes so far.  Of the two Xray instances it matters
only whether they are there. -/
structure World where
  runtimes : List Owned := []
  olcrtcRuntime : Option ℕ := none
  profileProbeOlcrtc : Bool := false
  profileProbe : Bool := false
  xrayInstance : Bool := false
  vp8Transport : VP8Transport := .current
  profileProbeMu : Option ℕ := none
  olcrtcStartMu : Option ℕ := none
  stops : List (Kind × ℕ) := []
  pending : Bool := false

/-- Where a call stands.  `ready` and `finish` are the runner of a runtime, `startXray` and
`startProfileProbe` the starts of the Xray instances.  A `StopProfileProbe` carries along whether
there is an instance to close. -/
inductive Pc
  | startProbe (args : StartArguments)
  | start (kind : Kind) (args : StartArguments)
  | assign (kind : Kind) (args : StartArguments)
  | configure (kind : Kind) (args : StartArguments) (r : ℕ)
  | launch (kind : Kind) (r : ℕ)
  | setFlag
  | stopProbe
  | takeFlag
  | stop (kind : Kind) (probe : Bool)
  | stopRuntime (kind : Kind) (r : ℕ) (probe : Bool)
  | wait (kind : Kind) (r : ℕ) (probe : Bool)
  | closeProbe (probe : Bool)
  | stopXray
  | ready (r : ℕ)
  | finish (r : ℕ)
  | startXray
  | startProfileProbe
  | returned (err : Option CoreError)

namespace Pc

def isEntry : Pc → Bool
  | startProbe _ => true
  | start .vpn _ => true
  | stopProbe => true
  | stop .vpn false => true
  | ready _ => true
  | finish _ => true
  | startXray => true
  | startProfileProbe => true
  | _ => false

/-- What follows `StopOlcrtc`. -/
def afterStop (probe : Bool) : Kind → Pc
  | .vpn => stopXray
  | .probe => closeProbe probe

/-- The call holds `profileProbeMu`. -/
def holdsProbe : Pc → Bool
  | start .probe _ => true
  | assign .probe _ => true
  | configure .probe _ _ => true
  | launch .probe _ => true
  | setFlag => true
  | takeFlag => true
  | stop .probe _ => true
  | stopRuntime .probe _ _ => true
  | wait .probe _ _ => true
  | closeProbe _ => true
  | _ => false

/-- The call holds `olcrtcStartMu`. -/
def holdsStart : Pc → Bool
  | assign _ _ => true
  | configure _ _ _ => true
  | launch _ _ => true
  | _ => false

/-- The call has yet to set the flag, or has taken it and has yet to stop the runtime. -/
def carriesFlag : Pc → Bool
  | setFlag => true
  | stop .probe _ => true
  | stopRuntime .probe _ _ => true
  | _ => false

end Pc

/-- What a step depends on besides the state: whether a timer fires, whether an Xray instance can
be started, and whether closing one fails. -/
structure Choice where
  timer : Bool := true
  xrayStarts : Bool := true
  closeFails : Bool := false

namespace World

def setState (w : World) (r : ℕ) (o : Owned) (state : RuntimeState) : World :=
  { w with runtimes := w.runtimes.set r { o with runtime := { o.runtime with state := state } } }

def setRuntime (w : World) (r : ℕ) (o : Owned) (runtime : Runtime) : World :=
  { w with runtimes := w.runtimes.set r { o with runtime := runtime } }

def slot (w : World) : Option Owned := w.olcrtcRuntime.bind (w.runtimes[·]?)

end World

/-- A start ends.  That of a probe gives `profileProbeMu` back as well. -/
def endStart (w : World) (kind : Kind) (result : Except StartError Unit) : World × Pc :=
  match kind, result with
  | .vpn, .ok () => ({ w with olcrtcStartMu := none }, .returned none)
  | .vpn, .error err => ({ w with olcrtcStartMu := none }, .returned (some (.start err)))
  | .probe, .ok () => ({ w with olcrtcStartMu := none, pending := true }, .setFlag)
  | .probe, .error err =>
    ({ w with olcrtcStartMu := none, profileProbeMu := none }, .returned (some (.start err)))

/-- The region of `Stop` of a runtime. -/
def stopRuntime (w : World) (kind : Kind) (r : ℕ) (o : Owned) : World :=
  let w := { w with pending := if kind = .probe then false else w.pending }
  if o.runtime.state = .starting ∨ o.runtime.state = .running then
    { w.setState r o .stopping with stops := w.stops ++ [(kind, r)] }
  else w

/-- The next step of a call, or nothing if it has returned or has to wait. -/
def act (pf : Platform) (i : ℕ) (c : Choice) (w : World) : Pc → Option (World × Pc)
  | .startProbe args =>
    if w.profileProbeMu = none then
      some ({ w with profileProbeMu := some i }, .start .probe args)
    else none
  | .start kind args =>
    if w.olcrtcStartMu = none then some ({ w with olcrtcStartMu := some i }, .assign kind args)
    else none
  | .assign kind args =>
    if w.slot.any fun o => o.runtime.isActive then
      some (endStart w kind (.error .coreAlreadyRunning))
    else some ({ w with
      runtimes := w.runtimes ++ [⟨{}, kind⟩]
      olcrtcRuntime := some w.runtimes.length }, .configure kind args w.runtimes.length)
  | .configure kind args r =>
    match registerVP8Transport pf args.compatibilityMode with
    | .error err => some (endStart w kind (.error err))
    | .ok vp8Transport =>
      let w := { w with vp8Transport := vp8Transport }
      w.runtimes[r]?.map fun o =>
        match Mobile.configure o.runtime args with
        | .error (err, runtime) => endStart (w.setRuntime r o runtime) kind (.error err)
        | .ok runtime => (w.setRuntime r o runtime, .launch kind r)
  | .launch kind r => w.runtimes[r]?.map fun o =>
    match o.runtime.start with
    | .error err => endStart w kind (.error (.start err))
    | .ok runtime => endStart (w.setRuntime r o runtime) kind (.ok ())
  | .setFlag => some ({ w with
      profileProbeOlcrtc := true, pending := false, profileProbeMu := none }, .returned none)
  | .stopProbe =>
    if w.profileProbeMu = none then some ({ w with profileProbeMu := some i }, .takeFlag)
    else none
  | .takeFlag => some ({ w with
      profileProbe := false, profileProbeOlcrtc := false, pending := w.profileProbeOlcrtc },
      if w.profileProbeOlcrtc then .stop .probe w.profileProbe else .closeProbe w.profileProbe)
  | .stop kind probe =>
    match w.olcrtcRuntime with
    | some r => some (w, .stopRuntime kind r probe)
    | none => some ({ w with pending := if kind = .probe then false else w.pending },
        Pc.afterStop probe kind)
  | .stopRuntime kind r probe => w.runtimes[r]?.map fun o =>
    (stopRuntime w kind r o,
      if o.runtime.state = .idle ∨ o.runtime.state = .stopped then Pc.afterStop probe kind
      else .wait kind r probe)
  | .wait kind r probe => w.runtimes[r]?.bind fun o =>
    if c.timer ∨ o.runtime.state = .stopped then some (w, Pc.afterStop probe kind) else none
  | .closeProbe probe => some ({ w with profileProbeMu := none },
      .returned (if probe ∧ c.closeFails then some .stopProfileProbe else none))
  | .stopXray => some ({ w with xrayInstance := false },
      .returned (if w.xrayInstance ∧ c.closeFails then some .stopXray else none))
  | .ready r => w.runtimes[r]?.map fun o =>
    (if o.runtime.state = .starting then w.setState r o .running else w, .returned none)
  | .finish r => w.runtimes[r]?.map fun o =>
    (if o.runtime.isActive then w.setState r o .stopped else w, .returned none)
  | .startXray => some ({ w with xrayInstance := w.xrayInstance || c.xrayStarts }, .returned none)
  | .startProfileProbe =>
    some ({ w with profileProbe := w.profileProbe || c.xrayStarts }, .returned none)
  | .returned _ => none

abbrev State := Calls.State World Pc

abbrev Event := Calls.Event Pc Choice

def step (pf : Platform) : State → Event → State := Calls.step Pc.isEntry (act pf)

def init : State := ⟨{}, []⟩

/-! ## What ought to hold -/

def Owned.unstopped (o : Owned) : Bool := o.runtime.state = .starting || o.runtime.state = .running

/-- The stop call of a runtime would find it: it is in the slot, and if it is a probe's, then the
flag is set, or the call that is to set it, or that has taken it, is on its way. -/
structure Reachable (s : State) (r : ℕ) (kind : Kind) : Prop where
  slot : s.world.olcrtcRuntime = some r
  flag : kind = .probe → s.world.profileProbeOlcrtc = true ∨
    ∃ (i : ℕ) (pc : Pc), s.calls[i]? = some pc ∧ (pc = Pc.setFlag ∨
      ∃ probe, pc = Pc.stop .probe probe ∨ pc = Pc.stopRuntime .probe r probe)

/-- Every stop so far has hit a runtime of its own kind. -/
def OwnStops (s : State) : Prop :=
  ∀ stop ∈ s.world.stops, ∃ o, s.world.runtimes[stop.2]? = some o ∧ o.kind = stop.1

/-- The VPN and the probe are kept apart: `StartOlcrtc` gets the slot only when no probe is to be
stopped any more, and `StopAll` reads it only when no runtime of a probe is in it that has not
finished. -/
def apart (w : World) : Pc → Bool
  | .assign .vpn _ => !w.profileProbeOlcrtc && !w.pending
  | .stop .vpn _ => w.slot.all fun o => o.kind = .vpn || o.runtime.state = .stopped
  | _ => true

/-! ## Setters keep the state -/

/-- The runtime that comes out of a setter, accepted or not, is in the given state. -/
def InState (state : RuntimeState) : Except (StartError × Runtime) Runtime → Prop
  | .ok r => r.state = state
  | .error (_, r) => r.state = state

lemma InState.bind {state : RuntimeState} {x : Except (StartError × Runtime) Runtime}
    {f : Runtime → Except (StartError × Runtime) Runtime} (hx : InState state x)
    (hf : ∀ r, r.state = state → InState state (f r)) : InState state (x >>= f) := by
  cases x with
  | ok r => exact hf r hx
  | error e => exact hx

lemma inState_mapError {state : RuntimeState} {r : Runtime} {x : Except StartError Runtime}
    (hr : r.state = state) (hx : ∀ r', x = .ok r' → r'.state = r.state) :
    InState state (x.mapError (·, r)) := by
  cases x with
  | ok r' => exact (hx r' rfl).trans hr
  | error e => exact hr

lemma inState_configure (r : Runtime) (a : StartArguments) :
    InState r.state (Mobile.configure r a) := by
  refine (inState_mapError rfl fun r' h => ?_).bind fun r₁ h₁ => ?_
  · rw [← (ite_ok_eq_ok.1 h).2]
  refine (inState_mapError h₁ fun r' h => ?_).bind fun r₂ h₂ => ?_
  · rw [← (ite_ok_eq_ok.1 h).2]
  refine (inState_mapError h₂ fun r' h => ?_).bind fun r₃ h₃ => ?_
  · rw [← (ite_error_eq_ok.1 h).2]
  have hdevice : (r₃.setDeviceID a.clientID).state = r.state := h₃
  refine (inState_mapError hdevice fun r' h => ?_).bind fun r₄ h₄ => ?_
  · obtain ⟨-, -, h⟩ := bind_eq_ok.1 h
    cases h
    rfl
  refine (inState_mapError h₄ fun r' h => ?_).bind fun r₅ h₅ => ?_
  · obtain ⟨-, -, h⟩ := bind_eq_ok.1 h
    cases h
    rfl
  refine inState_mapError ?_ fun r' h => ?_
  · grind -linarith [Runtime.setProviderToken, orUnchanged_setLivenessOptions,
      orUnchanged_setVP8Options]
  · rw [← (ite_error_eq_ok.1 h).2]

/-! ## The invariant -/

def Pc.newRuntime : Pc → Option (Kind × ℕ)
  | .configure kind _ r => some (kind, r)
  | .launch kind r => some (kind, r)
  | _ => none

structure WorldOk (w : World) : Prop where
  active : ∀ {r : ℕ} {o : Owned}, w.runtimes[r]? = some o → o.runtime.isActive = true →
    w.olcrtcRuntime = some r
  probes : ∀ {r : ℕ} {o : Owned}, w.runtimes[r]? = some o → o.kind = .probe →
    o.unstopped = true → w.profileProbeOlcrtc = true ∨ w.pending = true
  held : w.pending = true → ∃ i, w.profileProbeMu = some i

/-- What call `i` relies on. -/
structure CallOk (w : World) (i : ℕ) (pc : Option Pc) : Prop where
  probe : w.profileProbeMu = some i ↔ pc.any Pc.holdsProbe = true
  start : w.olcrtcStartMu = some i ↔ pc.any Pc.holdsStart = true
  flag : pc.any Pc.carriesFlag = true ↔ w.pending = true ∧ w.profileProbeMu = some i
  fresh : ∀ kind r, pc.bind Pc.newRuntime = some (kind, r) → w.olcrtcRuntime = some r ∧
    ∃ o, w.runtimes[r]? = some o ∧ o.kind = kind ∧ o.runtime.state = .idle
  target : ∀ r probe, pc = some (.stopRuntime .probe r probe) → ∀ (r' : ℕ) (o : Owned),
    w.runtimes[r']? = some o → o.kind = .probe → o.unstopped = true → r' = r

/-- What a step of call `i` guarantees to the others. -/
structure Keeps (i : ℕ) (w w' : World) : Prop where
  probe : ∀ j ≠ i, (w'.profileProbeMu = some j ↔ w.profileProbeMu = some j)
  start : ∀ j ≠ i, (w'.olcrtcStartMu = some j ↔ w.olcrtcStartMu = some j)
  flag : ∀ j ≠ i, w.profileProbeMu = some j → w'.pending = w.pending ∧
    ∀ (r : ℕ) (o' : Owned), w'.runtimes[r]? = some o' → o'.kind = .probe → o'.unstopped = true →
      ∃ o, w.runtimes[r]? = some o ∧ o.kind = .probe ∧ o.unstopped = true
  slot : ∀ j ≠ i, w.olcrtcStartMu = some j → w'.olcrtcRuntime = w.olcrtcRuntime ∧
    ∀ (r : ℕ) (o : Owned), w.runtimes[r]? = some o → o.runtime.state = .idle →
      ∃ o', w'.runtimes[r]? = some o' ∧ o'.kind = o.kind ∧ o'.runtime.state = .idle

attribute [local grind] Pc.holdsProbe Pc.holdsStart Pc.carriesFlag Pc.newRuntime

section Invariant

variable {i : ℕ} {w w' : World}

lemma CallOk.others {j : ℕ} {pc : Option Pc} (h : CallOk w j pc) (hkeeps : Keeps i w w')
    (hj : j ≠ i) : CallOk w' j pc := by
  obtain ⟨hprobe, hstart, hflag, hfresh, htarget⟩ := h
  obtain ⟨hkprobe, hkstart, hkflag, hkslot⟩ := hkeeps
  have hheld : ∀ kind r, pc.bind Pc.newRuntime = some (kind, r) → pc.any Pc.holdsStart = true := by
    cases pc with
    | none => nofun
    | some pc => cases pc <;> simp [Pc.newRuntime, Pc.holdsStart]
  have hstop : ∀ r probe, pc = some (.stopRuntime .probe r probe) →
      pc.any Pc.holdsProbe = true := by
    rintro r probe rfl
    rfl
  constructor <;> grind -linarith

lemma Keeps.trans {w'' : World} (h : Keeps i w w') (h' : Keeps i w' w'') : Keeps i w w'' := by
  obtain ⟨hprobe, hstart, hflag, hslot⟩ := h
  obtain ⟨hprobe', hstart', hflag', hslot'⟩ := h'
  constructor <;> grind -linarith

/-! ## One step of a call -/

/-- What a step has to establish. -/
structure Moves (i : ℕ) (w w' : World) (pc' : Pc) : Prop where
  world : WorldOk w'
  keeps : Keeps i w w'
  call : CallOk w' i (some pc')

lemma callOk_some {pc : Pc} : CallOk w i (some pc) ↔
    (w.profileProbeMu = some i ↔ pc.holdsProbe = true) ∧
    (w.olcrtcStartMu = some i ↔ pc.holdsStart = true) ∧
    (pc.carriesFlag = true ↔ w.pending = true ∧ w.profileProbeMu = some i) ∧
    (∀ kind r, pc.newRuntime = some (kind, r) → w.olcrtcRuntime = some r ∧
      ∃ o, w.runtimes[r]? = some o ∧ o.kind = kind ∧ o.runtime.state = .idle) ∧
    ∀ r probe, pc = .stopRuntime .probe r probe → ∀ (r' : ℕ) (o : Owned),
      w.runtimes[r']? = some o → o.kind = .probe → o.unstopped = true → r' = r := by
  constructor
  · intro h
    exact ⟨h.probe, h.start, h.flag, h.fresh, fun r probe hpc => h.target r probe (by rw [hpc])⟩
  · rintro ⟨hprobe, hstart, hflag, hfresh, htarget⟩
    exact ⟨hprobe, hstart, hflag, hfresh, fun r probe hpc => htarget r probe (Option.some.inj hpc)⟩

variable {pf : Platform} {c : Choice}

section Runtimes

variable {kind : Kind} {args : StartArguments} {r : ℕ} {probe : Bool} {pc' : Pc}

lemma moves_fail {err : StartError} {pc : Pc} (hw : WorldOk w) (hcall : CallOk w i (some pc))
    (hstart : pc.holdsStart = true) (hprobe : pc.holdsProbe = (kind = .probe))
    (hflag : pc.carriesFlag = false) (h : endStart w kind (.error err) = (w', pc')) :
    Moves i w w' pc' := by
  obtain ⟨hactive, hprobes, hheld⟩ := hw
  obtain ⟨hcprobe, hcstart, hcflag, -, -⟩ := callOk_some.1 hcall
  cases kind <;> cases h <;>
    refine ⟨⟨?_, ?_, ?_⟩, ⟨?_, ?_, ?_, ?_⟩, callOk_some.2 ⟨?_, ?_, ?_, nofun, nofun⟩⟩ <;>
      grind -linarith

lemma moves_assign (hw : WorldOk w) (hcall : CallOk w i (some (.assign kind args)))
    (h : act pf i c w (.assign kind args) = some (w', pc')) : Moves i w w' pc' := by
  simp only [act] at h
  split_ifs at h with hslot
  · exact moves_fail hw hcall rfl (by cases kind <;> simp [Pc.holdsProbe]) rfl (Option.some.inj h)
  · -- no runtime is active, so the new one may have the slot
    obtain ⟨hactive, hprobes, hheld⟩ := hw
    rw [callOk_some] at hcall
    have hnone : ∀ {r : ℕ} {o : Owned}, w.runtimes[r]? = some o → o.runtime.isActive ≠ true :=
      fun ho hact => hslot (by simp [World.slot, hactive ho hact, ho, hact])
    have hnew : (w.runtimes ++ [(⟨{}, kind⟩ : Owned)])[w.runtimes.length]? = some ⟨{}, kind⟩ :=
      List.getElem?_concat_length
    cases h
    cases kind <;>
      refine ⟨⟨?_, ?_, ?_⟩, ⟨?_, ?_, ?_, ?_⟩, callOk_some.2 ⟨?_, ?_, ?_, ?_, ?_⟩⟩ <;>
        grind -linarith [Owned.unstopped, Runtime.isActive]

lemma moves_setRuntime {o : Owned} {runtime : Runtime} (vp8 : VP8Transport) (hw : WorldOk w)
    (hcall : CallOk w i (some (.configure kind args r))) (ho : w.runtimes[r]? = some o)
    (hstate : runtime.state = o.runtime.state) :
    Moves i w ({ w with vp8Transport := vp8 }.setRuntime r o runtime) (.launch kind r) := by
  obtain ⟨hactive, hprobes, hheld⟩ := hw
  rw [callOk_some] at hcall
  cases kind <;>
    refine ⟨⟨?_, ?_, ?_⟩, ⟨?_, ?_, ?_, ?_⟩, callOk_some.2 ⟨?_, ?_, ?_, ?_, nofun⟩⟩ <;>
      grind -linarith [World.setRuntime, Owned.unstopped, Runtime.isActive]

lemma moves_configure (hw : WorldOk w) (hcall : CallOk w i (some (.configure kind args r)))
    (h : act pf i c w (.configure kind args r) = some (w', pc')) : Moves i w w' pc' := by
  obtain ⟨-, o, ho, -, -⟩ := hcall.fresh kind r rfl
  have hstate := inState_configure o.runtime args
  have hprobe : (Pc.configure kind args r).holdsProbe = (kind = .probe) := by
    cases kind <;> simp [Pc.holdsProbe]
  simp only [act, ho] at h
  split at h
  · exact moves_fail hw hcall rfl hprobe rfl (Option.some.inj h)
  · rw [Option.map_some] at h
    split at h
    · -- the runtime has been written in part
      next vp8 _ _ err runtime hconf =>
      rw [hconf] at hstate
      have hset := moves_setRuntime vp8 hw hcall ho hstate
      have hfail := moves_fail hset.world hset.call rfl (by cases kind <;> simp [Pc.holdsProbe]) rfl
        (Option.some.inj h)
      exact ⟨hfail.world, hset.keeps.trans hfail.keeps, hfail.call⟩
    · next hconf =>
      rw [hconf] at hstate
      cases h
      exact moves_setRuntime _ hw hcall ho hstate

lemma moves_launch (hw : WorldOk w) (hcall : CallOk w i (some (.launch kind r)))
    (h : act pf i c w (.launch kind r) = some (w', pc')) : Moves i w w' pc' := by
  obtain ⟨hslot, o, ho, hkind, hidle⟩ := hcall.fresh kind r rfl
  simp only [act, ho, Option.map_some] at h
  split at h
  · exact moves_fail hw hcall rfl (by cases kind <;> simp [Pc.holdsProbe]) rfl (Option.some.inj h)
  · obtain ⟨hactive, hprobes, hheld⟩ := hw
    rw [callOk_some] at hcall
    cases kind <;> cases h <;>
      refine ⟨⟨?_, ?_, ?_⟩, ⟨?_, ?_, ?_, ?_⟩, callOk_some.2 ⟨?_, ?_, ?_, ?_, ?_⟩⟩ <;>
        grind -linarith [World.setRuntime, Owned.unstopped, Runtime.isActive]

lemma moves_stopRuntime (hw : WorldOk w) (hcall : CallOk w i (some (.stopRuntime kind r probe)))
    (h : act pf i c w (.stopRuntime kind r probe) = some (w', pc')) : Moves i w w' pc' := by
  obtain ⟨hactive, hprobes, hheld⟩ := hw
  rw [callOk_some] at hcall
  obtain ⟨o, ho, h⟩ := Option.map_eq_some_iff.1 h
  cases h
  cases kind <;>
    refine ⟨⟨?_, ?_, ?_⟩, ⟨?_, ?_, ?_, ?_⟩, callOk_some.2 ⟨?_, ?_, ?_, ?_, ?_⟩⟩ <;>
      grind -linarith [stopRuntime, World.setState, Pc.afterStop, Owned.unstopped, Runtime.isActive]

end Runtimes

/-- **One step of one call.** -/
lemma moves_act (hw : WorldOk w) {pc pc' : Pc} (hcall : CallOk w i (some pc))
    (h : act pf i c w pc = some (w', pc')) : Moves i w w' pc' := by
  cases pc with
  | assign kind args => exact moves_assign hw hcall h
  | configure kind args r => exact moves_configure hw hcall h
  | launch kind r => exact moves_launch hw hcall h
  | stopRuntime kind r probe => exact moves_stopRuntime hw hcall h
  | startProbe args | stopProbe =>
    obtain ⟨hactive, hprobes, hheld⟩ := hw
    rw [callOk_some] at hcall
    simp only [act] at h
    split_ifs at h
    cases h
    refine ⟨⟨?_, ?_, ?_⟩, ⟨?_, ?_, ?_, ?_⟩, callOk_some.2 ⟨?_, ?_, ?_, ?_, ?_⟩⟩ <;>
      grind -linarith
  | start kind args =>
    obtain ⟨hactive, hprobes, hheld⟩ := hw
    rw [callOk_some] at hcall
    simp only [act] at h
    split_ifs at h
    cases h
    cases kind <;>
      refine ⟨⟨?_, ?_, ?_⟩, ⟨?_, ?_, ?_, ?_⟩, callOk_some.2 ⟨?_, ?_, ?_, ?_, ?_⟩⟩ <;>
        grind -linarith
  | setFlag | takeFlag | closeProbe probe | stopXray | startXray | startProfileProbe =>
    obtain ⟨hactive, hprobes, hheld⟩ := hw
    rw [callOk_some] at hcall
    cases h
    refine ⟨⟨?_, ?_, ?_⟩, ⟨?_, ?_, ?_, ?_⟩, callOk_some.2 ⟨?_, ?_, ?_, ?_, ?_⟩⟩ <;>
      grind -linarith
  | stop kind probe =>
    obtain ⟨hactive, hprobes, hheld⟩ := hw
    rw [callOk_some] at hcall
    simp only [act] at h
    split at h <;> cases h <;> cases kind <;>
      refine ⟨⟨?_, ?_, ?_⟩, ⟨?_, ?_, ?_, ?_⟩, callOk_some.2 ⟨?_, ?_, ?_, ?_, ?_⟩⟩ <;>
        grind -linarith [Pc.afterStop, Owned.unstopped, Runtime.isActive]
  | wait kind r probe =>
    obtain ⟨hactive, hprobes, hheld⟩ := hw
    rw [callOk_some] at hcall
    obtain ⟨o, ho, h⟩ := Option.bind_eq_some_iff.1 h
    split_ifs at h
    cases h
    cases kind <;>
      refine ⟨⟨?_, ?_, ?_⟩, ⟨?_, ?_, ?_, ?_⟩, callOk_some.2 ⟨?_, ?_, ?_, ?_, ?_⟩⟩ <;>
        grind -linarith [Pc.afterStop]
  | ready r | finish r =>
    obtain ⟨hactive, hprobes, hheld⟩ := hw
    rw [callOk_some] at hcall
    obtain ⟨o, ho, h⟩ := Option.map_eq_some_iff.1 h
    cases h
    refine ⟨⟨?_, ?_, ?_⟩, ⟨?_, ?_, ?_, ?_⟩, callOk_some.2 ⟨?_, ?_, ?_, ?_, ?_⟩⟩ <;>
      grind -linarith [World.setState, Owned.unstopped, Runtime.isActive]
  | returned err => cases h

end Invariant

def discipline (pf : Platform) : Calls.Discipline Pc.isEntry (act pf) where
  WorldOk := WorldOk
  CallOk := CallOk
  Keeps := Keeps
  entry := by
    intro w i pc hentry hcall
    obtain ⟨hprobe, hstart, hflag, -, -⟩ := hcall
    rw [callOk_some]
    cases pc with
    | start kind args | stop kind probe => cases kind <;> grind -linarith [Pc.isEntry]
    | _ => grind -linarith [Pc.isEntry]
  others := fun hkeeps hj hcall => hcall.others hkeeps hj
  act := by
    intro w w' i c pc pc' hw hcall hact
    have hmoves := moves_act hw hcall hact
    exact ⟨hmoves.world, hmoves.keeps, hmoves.call⟩

lemma worldOk_init : WorldOk init.world := ⟨nofun, nofun, nofun⟩

lemma callOk_init (i : ℕ) : CallOk init.world i none :=
  ⟨iff_of_false nofun nofun, iff_of_false nofun nofun, iff_of_false nofun (fun h => nomatch h.1),
    nofun, nofun⟩

/-- **A runtime that has been started stays within the reach of its own stop.** -/
theorem reachable_of_unstopped (pf : Platform) (events : List Event) {r : ℕ} {o : Owned}
    (ho : (run (step pf) init events).world.runtimes[r]? = some o) (hun : o.unstopped = true) :
    Reachable (run (step pf) init events) r o.kind := by
  have hok := (discipline pf).ok_run worldOk_init callOk_init events
  generalize hs : run (step pf) init events = s at ho ⊢
  replace hok : (discipline pf).Ok s := hs ▸ hok
  have hw : WorldOk s.world := hok.world
  have hactive : o.runtime.isActive = true := by
    revert hun
    cases hstate : o.runtime.state <;> simp [Owned.unstopped, Runtime.isActive, hstate]
  refine ⟨hw.active ho hactive, fun hkind => ?_⟩
  rcases hw.probes ho hkind hun with hflag | hpending
  · exact .inl hflag
  -- whoever holds the lock is the one that has the flag to set or has taken it
  obtain ⟨i, hmu⟩ := hw.held hpending
  have hcall : CallOk s.world i s.calls[i]? := hok.calls i
  have hcarries := hcall.flag.2 ⟨hpending, hmu⟩
  cases hpc : s.calls[i]? with
  | none =>
    rw [hpc] at hcarries
    cases hcarries
  | some pc =>
    rw [hpc] at hcarries hcall
    refine .inr ⟨i, pc, hpc, ?_⟩
    cases pc with
    | setFlag => exact .inl rfl
    | stop kind probe =>
      cases kind with
      | vpn => cases hcarries
      | probe => exact .inr ⟨probe, .inl rfl⟩
    | stopRuntime kind r' probe =>
      cases kind with
      | vpn => cases hcarries
      | probe =>
        grind -linarith [OlcRtc.MobileCore.CallOk.target]
    | _ => cases hcarries

/-! ## While the two are kept apart -/

/-- What holds of the variables while the VPN and the probe are kept apart. -/
structure ApartOk (w : World) : Prop where
  stops : ∀ stop ∈ w.stops, ∃ o, w.runtimes[stop.2]? = some o ∧ o.kind = stop.1
  valid : ∀ r, w.olcrtcRuntime = some r → r < w.runtimes.length
  slot : w.profileProbeOlcrtc = true ∨ w.pending = true → ∀ (r : ℕ) (o : Owned),
    w.olcrtcRuntime = some r → w.runtimes[r]? = some o → o.kind = .probe

/-- A call that is about to stop a runtime has found one of its own kind, or one that has
finished. -/
def CallApart (w : World) (pc : Option Pc) : Prop :=
  ∀ kind r probe, pc = some (.stopRuntime kind r probe) →
    ∃ o, w.runtimes[r]? = some o ∧ (o.kind = kind ∨ o.runtime.state = .stopped)

/-- Runtimes stay what they are. -/
def KeepsKinds (w w' : World) : Prop :=
  ∀ (r : ℕ) (o : Owned), w.runtimes[r]? = some o → ∃ o', w'.runtimes[r]? = some o' ∧
    o'.kind = o.kind ∧ (o.runtime.state = .stopped → o'.runtime.state = .stopped)

section Apart

attribute [local grind] ApartOk KeepsKinds CallApart

variable {i : ℕ} {w w' : World}

/-- **One step of one call, while the two are kept apart.** -/
lemma ApartOk.act {pf : Platform} {c : Choice} {pc pc' : Pc} (h : ApartOk w)
    (hcall : CallOk w i (some pc)) (hcall' : CallApart w (some pc)) (hapart : apart w pc = true)
    (hact : act pf i c w pc = some (w', pc')) :
    (ApartOk w' ∧ KeepsKinds w w') ∧ CallApart w' (some pc') := by
  cases pc with
  | startProbe args | stopProbe | start kind args =>
    simp only [MobileCore.act] at hact
    split_ifs at hact
    cases hact
    grind -linarith
  | assign kind args =>
    simp only [MobileCore.act] at hact
    split_ifs at hact
    · cases kind <;> cases hact <;> grind -linarith
    · have hold : ∀ (r : ℕ) (o : Owned), w.runtimes[r]? = some o →
          (w.runtimes ++ [⟨{}, kind⟩])[r]? = some o := by grind -linarith
      cases hact
      cases kind <;> grind -linarith [apart]
  | configure kind args r =>
    obtain ⟨hslot, o, ho, hkind, hidle⟩ := hcall.fresh kind r rfl
    simp only [MobileCore.act, ho] at hact
    split at hact
    · cases kind <;> cases hact <;> grind -linarith
    · simp only [Option.map_some, World.setRuntime] at hact
      split at hact
      · cases kind <;> cases hact <;> grind -linarith
      · cases hact
        grind -linarith
  | launch kind r =>
    obtain ⟨hslot, o, ho, hkind, hidle⟩ := hcall.fresh kind r rfl
    simp only [MobileCore.act, ho, Option.map_some, World.setRuntime] at hact
    split at hact <;> cases kind <;> cases hact <;> grind -linarith
  | setFlag =>
    have hpending := (hcall.flag.1 rfl).1
    cases hact
    grind -linarith
  | takeFlag | closeProbe probe | stopXray | startXray | startProfileProbe =>
    cases hact
    grind -linarith
  | stop kind probe =>
    simp only [MobileCore.act] at hact
    cases kind with
    | vpn =>
      split at hact <;> cases hact <;>
        grind -linarith [apart, World.slot, Pc.afterStop]
    | probe =>
      -- the call has taken the flag, so the runtime in the slot is a probe's
      have hpending := (hcall.flag.1 rfl).1
      have hvalid : ∀ r, w.olcrtcRuntime = some r → ∃ o, w.runtimes[r]? = some o :=
        fun r hr => ⟨_, List.getElem?_eq_getElem (h.valid r hr)⟩
      split at hact <;> cases hact <;> grind -linarith [Pc.afterStop]
  | stopRuntime kind r probe =>
    obtain ⟨o, ho, hown⟩ := hcall' kind r probe rfl
    simp only [MobileCore.act, ho, Option.map_some] at hact
    cases hact
    cases kind <;>
      grind -linarith [MobileCore.stopRuntime, World.setState, Pc.afterStop]
  | wait kind r probe =>
    obtain ⟨o, ho, hact⟩ := Option.bind_eq_some_iff.1 hact
    split_ifs at hact
    cases hact
    cases kind <;> grind -linarith [Pc.afterStop]
  | ready r | finish r =>
    obtain ⟨o, ho, hact⟩ := Option.map_eq_some_iff.1 hact
    cases hact
    grind -linarith [World.setState]
  | returned err => cases hact

end Apart

def apartDiscipline (pf : Platform) :
    Calls.Discipline Pc.isEntry (Calls.guarded apart (act pf)) where
  WorldOk := fun w => WorldOk w ∧ ApartOk w
  CallOk := fun w i pc => CallOk w i pc ∧ CallApart w pc
  Keeps := fun i w w' => Keeps i w w' ∧ KeepsKinds w w'
  entry := by
    intro w i pc hentry hcall
    refine ⟨(discipline pf).entry hentry hcall.1, ?_⟩
    rintro kind r probe ⟨⟩
    cases hentry
  others := by
    intro w w' i j pc hkeeps hj hcall
    refine ⟨hcall.1.others hkeeps.1 hj, fun kind r probe hpc => ?_⟩
    obtain ⟨o, ho, hown⟩ := hcall.2 kind r probe hpc
    obtain ⟨o', ho', hkind, hstopped⟩ := hkeeps.2 r o ho
    exact ⟨o', ho', hown.imp hkind.trans hstopped⟩
  act := by
    intro w w' i c pc pc' hw hcall hact
    obtain ⟨hapart, hact⟩ := Calls.guarded_eq_some hact
    have hmoves := moves_act hw.1 hcall.1 hact
    obtain ⟨⟨hok, hkinds⟩, hcall'⟩ := hw.2.act hcall.1 hcall.2 hapart hact
    exact ⟨⟨hmoves.world, hok⟩, ⟨hmoves.keeps, hkinds⟩, ⟨hmoves.call, hcall'⟩⟩

/-- **The runtimes of the VPN and of the probe**, after any interleaving of the calls. -/
theorem core_runtimes (pf : Platform) (events : List Event) :
    (∀ r o, (run (step pf) init events).world.runtimes[r]? = some o → o.unstopped = true →
      Reachable (run (step pf) init events) r o.kind) ∧
    (Along (step pf) (Calls.Admits apart) init events →
      OwnStops (run (step pf) init events)) := by
  refine ⟨fun r o ho hun => reachable_of_unstopped pf events ho hun, fun hapart => ?_⟩
  have hok := (apartDiscipline pf).ok_run ⟨worldOk_init, ⟨nofun, nofun, nofun⟩⟩
    (fun i => ⟨callOk_init i, nofun⟩) events
  rw [step, Calls.run_guarded hapart]
  exact hok.world.2.stops

/-- Starts a probe and stops it; then starts the VPN, lets it become ready, and stops it. -/
def exampleEvents : List Event :=
  [.begin (.startProbe (exampleArguments 10)), .step 0 {}, .step 0 {}, .step 0 {}, .step 0 {},
    .step 0 {}, .step 0 {}, .begin .stopProbe, .step 1 {}, .step 1 {}, .step 1 {}, .step 1 {},
    .begin (.finish 0), .step 2 {}, .step 1 {}, .step 1 {},
    .begin (.start .vpn (exampleArguments 10)), .step 3 {}, .step 3 {}, .step 3 {}, .step 3 {},
    .begin (.ready 1), .step 4 {}, .begin (.stop .vpn false), .step 5 {}, .step 5 {}, .step 5 {},
    .step 5 {}]

/-- A probe and then the VPN. -/
theorem core_runtimes_vpn :
    (run (step examplePlatform) init exampleEvents).world.stops = [(.probe, 0), (.vpn, 1)] ∧
    OwnStops (run (step examplePlatform) init exampleEvents) :=
  ⟨by decide +kernel, (core_runtimes examplePlatform exampleEvents).2 (by decide +kernel)⟩

lemma not_ownStops_of_kinds {s : State} {stop : Kind × ℕ} {kinds : List Kind}
    (hstop : stop ∈ s.world.stops) (hkinds : s.world.runtimes.map (·.kind) = kinds)
    (hother : kinds[stop.2]? ≠ some stop.1) : ¬OwnStops s := by
  intro hown
  obtain ⟨o, ho, hkind⟩ := hown stop hstop
  rw [← hkinds, List.getElem?_map, ho, Option.map_some, hkind] at hother
  exact hother rfl

/-- A probe is started, its runtime finishes, and the VPN is started.  `StopProfileProbe`, which
finds the flag of the probe still set, stops the runtime of the VPN. -/
def probeThenVpn : List Event :=
  [.begin (.startProbe (exampleArguments 10)), .step 0 {}, .step 0 {}, .step 0 {}, .step 0 {},
    .step 0 {}, .step 0 {}, .begin (.finish 0), .step 1 {},
    .begin (.start .vpn (exampleArguments 10)), .step 2 {}, .step 2 {}, .step 2 {}, .step 2 {},
    .begin .stopProbe, .step 3 {}, .step 3 {}, .step 3 {}, .step 3 {}]

/-- A probe is running, and `StopAll` stops its runtime. -/
def stopAllWhileProbing : List Event :=
  [.begin (.startProbe (exampleArguments 10)), .step 0 {}, .step 0 {}, .step 0 {}, .step 0 {},
    .step 0 {}, .step 0 {}, .begin (.stop .vpn false), .step 1 {}, .step 1 {}]

/-- Neither stop keeps to the runtimes of its own. -/
theorem probe_stop_hits_vpn :
    ((run (step examplePlatform) init probeThenVpn).world.stops = [(.probe, 1)] ∧
      (run (step examplePlatform) init probeThenVpn).world.runtimes.map (·.kind) = [.probe, .vpn] ∧
      ¬OwnStops (run (step examplePlatform) init probeThenVpn)) ∧
    (run (step examplePlatform) init stopAllWhileProbing).world.stops = [(.vpn, 0)] ∧
    (run (step examplePlatform) init stopAllWhileProbing).world.runtimes.map (·.kind) = [.probe] ∧
    ¬OwnStops (run (step examplePlatform) init stopAllWhileProbing) := by
  have hstops : (run (step examplePlatform) init probeThenVpn).world.stops = [(.probe, 1)] := by
    decide +kernel
  have hkinds : (run (step examplePlatform) init probeThenVpn).world.runtimes.map (·.kind) =
      [.probe, .vpn] := by
    decide +kernel
  have hstops' : (run (step examplePlatform) init stopAllWhileProbing).world.stops =
      [(.vpn, 0)] := by
    decide +kernel
  have hkinds' : (run (step examplePlatform) init stopAllWhileProbing).world.runtimes.map
      (·.kind) = [.probe] := by
    decide +kernel
  refine ⟨⟨hstops, hkinds, fun hown => ?_⟩, hstops', hkinds', fun hown => ?_⟩
  · exact not_ownStops_of_kinds (hstops ▸ List.mem_singleton_self _) hkinds (by decide) hown
  · exact not_ownStops_of_kinds (hstops' ▸ List.mem_singleton_self _) hkinds' (by decide) hown

end OlcRtc.MobileCore
