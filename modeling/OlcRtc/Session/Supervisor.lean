import Mathlib.Data.List.Perm.Basic
import OlcRtc.Lib.Steps

/-!
# Ordered failover

`supervisor.Run` runs the profiles of a list in turn, again and again, until the context ends or a
limit on the cycles is reached; a tracker counts what happens.  The loops are a machine: `State` is
the place in them, and a `Happening` is what they wait for.  The result is
**`profiles_take_turns`**.
-/

namespace OlcRtc.Supervisor

/-- `ProfileStatus`. -/
structure ProfileStatus where
  name : String
  starts : ℕ := 0
  failures : ℕ := 0
  cleanEnds : ℕ := 0

/-- `Event`, which is a start unless it has a result. -/
structure Event where
  profile : String
  cycle : ℕ
  result : Option (Option String)

/-- `Status`; the active profile is given by its index. -/
structure Status where
  cycle : ℕ := 0
  active : Option ℕ := none
  profiles : List ProfileStatus
  history : List Event := []

/-- `Config`, as far as the order of the profiles goes. -/
structure Config where
  profiles : List String
  maxCycles : Int
  historyLimit : Int

/-- What `Run` does next. -/
inductive Phase
  | ready
  | running
  | waiting
  /-- It has returned, with the end of the last profile if the limit was reached. -/
  | returned (err : Option (String × Option String))
deriving DecidableEq

structure State where
  status : Status
  cycle : ℕ
  index : ℕ
  phase : Phase
  cancelled : Bool

inductive Happening
  /-- The loop goes on. -/
  | go
  /-- The profile ends. -/
  | ended (err : Option String)
  /-- The context is cancelled. -/
  | cancel

variable (cfg : Config)

/-- `DefaultHistoryLimit` stands for 0. -/
def Config.limit : Int := if cfg.historyLimit = 0 then 20 else cfg.historyLimit

def appendHistory (history : List Event) (e : Event) : List Event :=
  if cfg.limit < 0 then history
  else (history ++ [e]).drop (history.length + 1 - cfg.limit.toNat)

def Status.start (s : Status) (i cycle : ℕ) (p : ProfileStatus) : Status where
  cycle := cycle
  active := some i
  profiles := s.profiles.set i { p with starts := p.starts + 1 }
  history := appendHistory cfg s.history ⟨p.name, cycle, none⟩

def Status.end (s : Status) (i cycle : ℕ) (err : Option String) (p : ProfileStatus) : Status where
  cycle := s.cycle
  active := none
  profiles := s.profiles.set i { p with
    failures := p.failures + if err.isSome then 1 else 0
    cleanEnds := p.cleanEnds + if err.isSome then 0 else 1 }
  history := appendHistory cfg s.history ⟨p.name, cycle, some err⟩

def State.next (s : State) : State :=
  if s.index + 1 < cfg.profiles.length then { s with index := s.index + 1, phase := .ready }
  else if s.cancelled then { s with phase := .returned none }
  else { s with cycle := s.cycle + 1, index := 0, phase := .ready }

def State.last (s : State) : Bool :=
  0 < cfg.maxCycles && cfg.maxCycles ≤ s.cycle && s.index + 1 = cfg.profiles.length

/-- `Run`, `runCycle` and `runProfile`. -/
def step (s : State) : Happening → State
  | .cancel => { s with cancelled := true }
  | .go =>
    match s.phase, s.status.profiles[s.index]? with
    | .ready, some p =>
      if s.cancelled then s.next cfg
      else { s with status := s.status.start cfg s.index s.cycle p, phase := .running }
    | .waiting, _ => s.next cfg
    | _, _ => s
  | .ended err =>
    match s.phase, s.status.profiles[s.index]? with
    | .running, some p =>
      if s.cancelled then s.next cfg
      else { s with
        status := s.status.end cfg s.index s.cycle err p
        phase := if s.last cfg then .returned (some (p.name, err)) else .waiting }
    | _, _ => s

/-- `Run` with some profiles. -/
def init : State where
  status := { profiles := cfg.profiles.map fun name => { name := name } }
  cycle := 1
  index := 0
  phase := .ready
  cancelled := false

/-- The profiles before place `p` have had one more turn, and the loops stand there unless the
context has ended. -/
structure Inv (s : State) : Prop where
  length : s.status.profiles.length = cfg.profiles.length
  index : s.index < cfg.profiles.length
  turns : ∃ c p, p ≤ cfg.profiles.length ∧ c < s.cycle ∧
    (∀ (i : ℕ) q, s.status.profiles[i]? = some q → q.starts = if i < p then c + 1 else c) ∧
    (s.cancelled = false ∨ s.phase = .running →
      s.cycle = c + 1 ∧ p = if s.phase = .ready then s.index else s.index + 1)
  counts : ∀ (i : ℕ) q, s.status.profiles[i]? = some q →
    q.starts = q.failures + q.cleanEnds + if s.status.active = some i then 1 else 0
  active : s.cancelled = false ∨ s.phase = .running →
    s.status.active = if s.phase = .running then some s.index else none
  limit : 0 < cfg.maxCycles → s.cycle ≤ cfg.maxCycles ∧
    (s.phase = .waiting → s.cycle = cfg.maxCycles → s.index + 1 < cfg.profiles.length)
  stopped : ∀ err, s.phase = .returned (some err) →
    0 < cfg.maxCycles ∧ cfg.maxCycles ≤ s.cycle ∧
      ∀ (i : ℕ) q, s.status.profiles[i]? = some q → q.starts = s.cycle
  ended : s.phase = .returned none → s.cancelled = true
  history : s.status.history.length ≤ cfg.limit.toNat

variable {cfg} {s : State}

attribute [local grind cases] Inv
attribute [local grind] appendHistory State.last

lemma Inv.next (h : Inv cfg s)
    (hphase : s.phase = .waiting ∨ s.cancelled = true ∧ ∀ err, s.phase ≠ .returned err) :
    Inv cfg (s.next cfg) := by
  obtain ⟨c, p, hp, hc, hstarts, hplace⟩ := h.turns
  rw [State.next]
  split_ifs with hmore hcancelled
  · refine ⟨h.length, hmore, ⟨c, p, hp, hc, hstarts, ?_⟩, h.counts, ?_, ?_, nofun, nofun,
      h.history⟩ <;> grind
  · refine ⟨h.length, h.index, ⟨c, p, hp, hc, hstarts, ?_⟩, h.counts, ?_, ?_, nofun, ?_,
      h.history⟩ <;> grind
  · -- all profiles have had their turn
    refine ⟨h.length, ?_, ⟨c + 1, 0, Nat.zero_le _, ?_, ?_, ?_⟩, h.counts, ?_, ?_, nofun, nofun,
      h.history⟩ <;> grind

lemma Inv.start (h : Inv cfg s) (hphase : s.phase = .ready) (hcancelled : s.cancelled = false)
    {p : ProfileStatus} (hp : s.status.profiles[s.index]? = some p) :
    Inv cfg { s with status := s.status.start cfg s.index s.cycle p, phase := .running } := by
  obtain ⟨c, k, hk, hc, hstarts, hplace⟩ := h.turns
  refine ⟨?_, h.index, ⟨c, k + 1, ?_, hc, ?_, ?_⟩, ?_, ?_, ?_, nofun, nofun, ?_⟩ <;>
    grind [Status.start]

lemma Inv.end (h : Inv cfg s) (hphase : s.phase = .running) {p : ProfileStatus}
    (hp : s.status.profiles[s.index]? = some p) (err : Option String) : Inv cfg { s with
      status := s.status.end cfg s.index s.cycle err p
      phase := if s.last cfg then .returned (some (p.name, err)) else .waiting } := by
  obtain ⟨c, k, hk, hc, hstarts, hplace⟩ := h.turns
  refine ⟨?_, h.index, ⟨c, k, hk, hc, ?_, ?_⟩, ?_, ?_, ?_, ?_, ?_, ?_⟩ <;> grind [Status.end]

/-- **What one happening keeps.** -/
lemma Inv.step (h : Inv cfg s) (e : Happening) : Inv cfg (step cfg s e) := by
  cases e with
  | cancel =>
    obtain ⟨c, p, hp, hc, hstarts, hplace⟩ := h.turns
    refine ⟨h.length, h.index, ⟨c, p, hp, hc, hstarts, ?_⟩, h.counts, ?_, h.limit, h.stopped,
      fun _ => rfl, h.history⟩ <;> grind [Supervisor.step]
  | go =>
    simp only [Supervisor.step]
    split
    · next hphase hp =>
      split
      · next hcancelled => exact h.next (.inr ⟨hcancelled, by simp [hphase]⟩)
      · next hcancelled => exact h.start hphase (Bool.eq_false_iff.2 hcancelled) hp
    · next hphase => exact h.next (.inl hphase)
    · exact h
  | ended err =>
    simp only [Supervisor.step]
    split
    · next hphase hp =>
      split
      · next hcancelled => exact h.next (.inr ⟨hcancelled, by simp [hphase]⟩)
      · exact h.end hphase hp err
    · exact h

lemma inv_init (hne : cfg.profiles ≠ []) : Inv cfg (init cfg) := by
  refine ⟨by simp [init], List.length_pos_iff.2 hne, ⟨0, 0, ?_⟩, ?_, ?_, ?_, nofun, nofun, ?_⟩ <;>
    grind [init]

/-- **The profiles take turns.**  Whatever happens, the first profiles of the list have been started
once more than the others; every start has ended but that of the active profile; no profile has more
starts than `MaxCycles`; `Run` fails only when every profile has had that many, and ends without an
error only when the context has; and the history keeps its limit. -/
theorem profiles_take_turns (cfg : Config) (hne : cfg.profiles ≠ []) (happenings : List Happening) :
    let s := run (step cfg) (init cfg) happenings
    (∃ c p, ∀ (i : ℕ) q, s.status.profiles[i]? = some q →
      q.starts = (if i < p then c + 1 else c) ∧
      q.starts = q.failures + q.cleanEnds + (if s.status.active = some i then 1 else 0) ∧
      (0 < cfg.maxCycles → q.starts ≤ cfg.maxCycles) ∧
      ∀ err, s.phase = .returned (some err) → 0 < cfg.maxCycles ∧ q.starts = cfg.maxCycles) ∧
    (s.phase = .returned none → s.cancelled = true) ∧
    s.status.history.length ≤ cfg.limit.toNat := by
  intro s
  have h : Inv cfg s :=
    run_invariant_of_step (step cfg) (fun _ e h => h.step e) (inv_init hne) happenings
  obtain ⟨c, p, -, hc, hstarts, -⟩ := h.turns
  refine ⟨⟨c, p, fun i q hq => ⟨hstarts i q hq, h.counts i q hq, ?_, fun err herr => ?_⟩⟩, h.ended,
    h.history⟩
  · have := hstarts i q hq
    grind
  · have := h.stopped err herr
    grind

/-- Two profiles have one cycle. -/
theorem profiles_take_turns_limit :
    let s := run (step ⟨["a", "b"], 1, 0⟩) (init ⟨["a", "b"], 1, 0⟩)
      [.go, .ended (some "lost"), .go, .go, .ended none]
    ∀ (i : ℕ) q, s.status.profiles[i]? = some q → (q.starts : Int) = 1 := by
  intro s i q hq
  obtain ⟨⟨c, p, h⟩, -⟩ := profiles_take_turns ⟨["a", "b"], 1, 0⟩ (by simp)
    [.go, .ended (some "lost"), .go, .go, .ended none]
  exact ((h i q hq).2.2.2 ("b", none) rfl).2

end OlcRtc.Supervisor
