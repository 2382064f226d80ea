import OlcRtc.Lib.Lists
import OlcRtc.Lib.Steps

/-!
# Calls that run at the same time

A program with locks is a shared world and a list of calls, each of which stands at a program
counter.  `act` is the next step of a call: it changes the world and moves the call on, or has no
value if the call has to wait.  An interleaving is a list of events; a call begins, or a call takes
a step.

The rule for such programs is that of rely and guarantee.  `WorldOk` says what always holds of the
world, `CallOk` what a call may rely on besides, and `Keeps i` what a step of call `i` guarantees to
all others.  A `Discipline` is a choice of the three for which one step of one call is enough:
**`Discipline.ok_run`** then holds for all interleavings of any number of calls.

`guarded` restricts the steps to those that meet a condition, and `run_guarded` says that a run that
keeps to the condition is one of the restricted program: what has to be shown of such runs is a
discipline of that program.

A call that has not begun has a `CallOk` too, with no program counter, for what the world may say
about calls that are not there.
-/

namespace OlcRtc.Calls

structure State (W P : Type*) where
  world : W
  calls : List P

/-- A call begins, or takes a step; the choice is what the step depends on besides the state. -/
inductive Event (P C : Type*)
  | begin (pc : P)
  | step (call : ℕ) (choice : C)

variable {W P C : Type*} {isEntry : P → Bool} {act : ℕ → C → W → P → Option (W × P)}

/-- One event.  Calls begin at an entry only. -/
def step (isEntry : P → Bool) (act : ℕ → C → W → P → Option (W × P)) (s : State W P) :
    Event P C → State W P
  | .begin pc => if isEntry pc then { s with calls := s.calls ++ [pc] } else s
  | .step i c =>
    match s.calls[i]?.bind (act i c s.world) with
    | none => s
    | some (w, pc) => ⟨w, s.calls.set i pc⟩

lemma step_of_call {s : State W P} {i : ℕ} {pc : P} (hpc : s.calls[i]? = some pc) (c : C) :
    step isEntry act s (.step i c) =
      match act i c s.world pc with
      | none => s
      | some (w, pc') => ⟨w, s.calls.set i pc'⟩ := by
  show (match s.calls[i]?.bind (act i c s.world) with
    | none => s
    | some (w, pc') => ⟨w, s.calls.set i pc'⟩) = _
  rw [hpc]
  rfl

lemma step_preserves {I : State W P → Prop} {s : State W P} (h : I s) (e : Event P C)
    (hbegin : ∀ pc, isEntry pc = true → I { s with calls := s.calls ++ [pc] })
    (hadvance : ∀ i c pc w pc', s.calls[i]? = some pc → act i c s.world pc = some (w, pc') →
      I ⟨w, s.calls.set i pc'⟩) : I (step isEntry act s e) := by
  cases e with
  | begin pc =>
    show I (if isEntry pc then _ else s)
    split_ifs with hentry
    · exact hbegin pc hentry
    · exact h
  | step i c =>
    show I (match s.calls[i]?.bind (act i c s.world) with
      | none => s
      | some (w, pc) => ⟨w, s.calls.set i pc⟩)
    cases hact : s.calls[i]?.bind (act i c s.world) with
    | none => exact h
    | some result =>
      obtain ⟨pc, hpc, hact⟩ := Option.bind_eq_some_iff.1 hact
      exact hadvance i c pc _ _ hpc hact

/-- What holds of the world, what a call relies on and what it guarantees to the others. -/
structure Discipline (isEntry : P → Bool) (act : ℕ → C → W → P → Option (W × P)) where
  WorldOk : W → Prop
  CallOk : W → ℕ → Option P → Prop
  Keeps : ℕ → W → W → Prop
  entry : ∀ {w : W} {i : ℕ} {pc : P}, isEntry pc = true → CallOk w i none → CallOk w i (some pc)
  others : ∀ {w w' : W} {i j : ℕ} {pc : Option P}, Keeps i w w' → j ≠ i → CallOk w j pc →
    CallOk w' j pc
  act : ∀ {w w' : W} {i : ℕ} {c : C} {pc pc' : P}, WorldOk w → CallOk w i (some pc) →
    act i c w pc = some (w', pc') → WorldOk w' ∧ Keeps i w w' ∧ CallOk w' i (some pc')

namespace Discipline

variable (d : Discipline isEntry act)

structure Ok (s : State W P) : Prop where
  world : d.WorldOk s.world
  calls : ∀ i, d.CallOk s.world i s.calls[i]?

variable {d}

lemma Ok.begin {s : State W P} (h : d.Ok s) {pc : P} (hentry : isEntry pc = true) :
    d.Ok { s with calls := s.calls ++ [pc] } := by
  refine ⟨h.world, fun i => ?_⟩
  show d.CallOk s.world i (s.calls ++ [pc])[i]?
  have hcall := h.calls i
  rcases Nat.lt_trichotomy i s.calls.length with hlt | rfl | hgt
  · rwa [List.getElem?_append_left hlt]
  · rw [List.getElem?_eq_none le_rfl] at hcall
    rw [List.getElem?_concat_length]
    exact d.entry hentry hcall
  · grind

lemma Ok.advance {s : State W P} (h : d.Ok s) {i : ℕ} {c : C} {pc pc' : P} {w' : W}
    (hpc : s.calls[i]? = some pc) (hact : act i c s.world pc = some (w', pc')) :
    d.Ok ⟨w', s.calls.set i pc'⟩ := by
  obtain ⟨hworld, hkeeps, hcall⟩ := d.act h.world (hpc ▸ h.calls i) hact
  refine ⟨hworld, fun j => ?_⟩
  show d.CallOk w' j (s.calls.set i pc')[j]?
  by_cases hji : j = i
  · grind
  · rw [List.getElem?_set_ne (Ne.symm hji)]
    exact d.others hkeeps hji (h.calls j)

lemma Ok.step {s : State W P} (h : d.Ok s) (e : Event P C) : d.Ok (step isEntry act s e) :=
  step_preserves h e (fun _ hentry => h.begin hentry) fun _ _ _ _ _ hpc hact => h.advance hpc hact

/-- **What one step of one call preserves holds along every interleaving.** -/
theorem ok_run (d : Discipline isEntry act) {w : W} (hworld : d.WorldOk w)
    (hcalls : ∀ i, d.CallOk w i none) (events : List (Event P C)) :
    d.Ok (run (step isEntry act) ⟨w, []⟩ events) :=
  run_invariant_of_step _ (fun _ e h => h.step e) ⟨hworld, hcalls⟩ events

end Discipline

/-! ## Runs that keep to a condition -/

def guarded (guard : W → P → Bool) (act : ℕ → C → W → P → Option (W × P)) :
    ℕ → C → W → P → Option (W × P) :=
  fun i c w pc => if guard w pc then act i c w pc else none

def Admits (guard : W → P → Bool) (s : State W P) : Event P C → Prop
  | .begin _ => True
  | .step i _ => (s.calls[i]?.all fun pc => guard s.world pc) = true

instance (guard : W → P → Bool) (s : State W P) : ∀ e : Event P C, Decidable (Admits guard s e)
  | .begin _ => inferInstanceAs (Decidable True)
  | .step _ _ => inferInstanceAs (Decidable (_ = true))

lemma guarded_eq_some {guard : W → P → Bool} {i : ℕ} {c : C} {w : W} {pc : P} {r : W × P}
    (h : guarded guard act i c w pc = some r) : guard w pc = true ∧ act i c w pc = some r := by
  rw [guarded] at h
  split_ifs at h with hguard
  exact ⟨hguard, h⟩

lemma step_guarded {guard : W → P → Bool} {s : State W P} {e : Event P C}
    (h : Admits guard s e) : step isEntry act s e = step isEntry (guarded guard act) s e := by
  cases e with
  | begin pc => rfl
  | step i c =>
    show (match s.calls[i]?.bind (act i c s.world) with
      | none => s
      | some (w, pc) => ⟨w, s.calls.set i pc⟩) =
      match s.calls[i]?.bind (guarded guard act i c s.world) with
      | none => s
      | some (w, pc) => ⟨w, s.calls.set i pc⟩
    cases hpc : s.calls[i]? with
    | none => rfl
    | some pc =>
      have hguard : guard s.world pc = true := by simpa [Admits, hpc] using h
      rw [Option.bind_some, Option.bind_some, guarded, if_pos hguard]
      rfl

/-- **A run that keeps to the condition is a run of the restricted program.** -/
lemma run_guarded {guard : W → P → Bool} {s : State W P} {events : List (Event P C)}
    (h : Along (step isEntry act) (Admits guard) s events) :
    run (step isEntry act) s events = run (step isEntry (guarded guard act)) s events := by
  induction events generalizing s with
  | nil => rfl
  | cons e events ih => rw [run_cons, run_cons, ← step_guarded h.1, ih h.2]

end OlcRtc.Calls
