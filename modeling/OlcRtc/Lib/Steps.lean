import Mathlib.Data.List.Induction

/-!
# Machines that take one event at a time

A machine is a function `step : σ → ε → σ`; an interleaving of several threads is a list of
events, and an event that is not enabled leaves the state alone.  `run` is the state after a list
of events, and `Along P` says that every event met the condition `P` in the state it found.

**`run_invariant`** is the one induction every safety result needs: what a single step preserves
under the condition holds after every run that keeps to it.
-/

namespace OlcRtc

variable {σ ε : Type*} (step : σ → ε → σ)

def run (s : σ) (events : List ε) : σ := events.foldl step s

@[simp] lemma run_nil (s : σ) : run step s [] = s := rfl

@[simp] lemma run_cons (s : σ) (e : ε) (events : List ε) :
    run step s (e :: events) = run step (step s e) events := rfl

lemma run_append (s : σ) (es fs : List ε) : run step s (es ++ fs) = run step (run step s es) fs :=
  List.foldl_append

lemma run_concat (s : σ) (es : List ε) (e : ε) :
    run step s (es ++ [e]) = step (run step s es) e := by
  rw [run_append, run_cons, run_nil]

/-- Every event of the run meets `P` in the state it is taken in. -/
def Along (P : σ → ε → Prop) : σ → List ε → Prop
  | _, [] => True
  | s, e :: events => P s e ∧ Along P (step s e) events

instance decidableAlong (P : σ → ε → Prop) [∀ s e, Decidable (P s e)] :
    ∀ (s : σ) (events : List ε), Decidable (Along step P s events)
  | _, [] => inferInstanceAs (Decidable True)
  | s, e :: events =>
    have := decidableAlong P (step s e) events
    inferInstanceAs (Decidable (P s e ∧ Along step P (step s e) events))

lemma along_concat {P : σ → ε → Prop} (es : List ε) (e : ε) :
    ∀ s : σ, Along step P s (es ++ [e]) ↔ Along step P s es ∧ P (run step s es) e := by
  induction es with
  | nil => intro s; simp [Along]
  | cons f es ih =>
    intro s
    rw [List.cons_append, Along, ih, Along, run_cons, and_assoc]

lemma along_and {P Q : σ → ε → Prop} {s : σ} {events : List ε} (hP : Along step P s events)
    (hQ : Along step Q s events) : Along step (fun s e => P s e ∧ Q s e) s events := by
  induction events generalizing s with
  | nil => trivial
  | cons e events ih => exact ⟨⟨hP.1, hQ.1⟩, ih hP.2 hQ.2⟩

/-- **Invariant rule.**  A property that every admissible step preserves holds after every
admissible run. -/
theorem run_invariant {P : σ → ε → Prop} {I : σ → Prop}
    (hstep : ∀ s e, I s → P s e → I (step s e)) {s : σ} {events : List ε} (h : I s)
    (ha : Along step P s events) : I (run step s events) := by
  induction events generalizing s with
  | nil => exact h
  | cons e events ih => exact ih (hstep s e h ha.1) ha.2

/-- The same for a property that every step preserves. -/
theorem run_invariant_of_step {I : σ → Prop} (hstep : ∀ s e, I s → I (step s e)) {s : σ}
    (h : I s) (events : List ε) : I (run step s events) := by
  induction events generalizing s with
  | nil => exact h
  | cons e events ih => exact ih (hstep s e h)

/-- Two conditions that agree as long as an invariant holds, and keep it up, allow the same
runs. -/
theorem along_congr {P Q : σ → ε → Prop} {I : σ → Prop} (hiff : ∀ s e, I s → (P s e ↔ Q s e))
    (hstep : ∀ s e, I s → P s e → I (step s e)) {s : σ} {events : List ε} (h : I s) :
    Along step P s events ↔ Along step Q s events := by
  induction events generalizing s with
  | nil => exact Iff.rfl
  | cons e events ih =>
    rw [Along, Along, ← hiff s e h]
    exact and_congr_right fun hP => ih (hstep s e h hP)

/-- **A condition that tells, step by step, whether an invariant survives** holds along a run
exactly if the invariant holds in every state of the run. -/
theorem along_iff_forall_initial {P : σ → ε → Prop} {I : σ → Prop}
    (hiff : ∀ s e, I s → (P s e ↔ I (step s e))) {s : σ} {events : List ε} (h : I s) :
    Along step P s events ↔ ∀ es, es <+: events → I (run step s es) := by
  induction events generalizing s with
  | nil =>
    refine ⟨?_, fun _ => trivial⟩
    intro _ es hes
    rw [List.prefix_nil.1 hes]
    exact h
  | cons e events ih =>
    rw [Along]
    constructor
    · rintro ⟨hP, halong⟩ es hes
      cases es with
      | nil => exact h
      | cons f es =>
        obtain ⟨rfl, hrest⟩ := List.cons_prefix_cons.1 hes
        exact (ih ((hiff s f h).1 hP)).1 halong es hrest
    · intro hall
      have hnext : I (step s e) := hall [e] (by simp)
      refine ⟨(hiff s e h).2 hnext, (ih hnext).2 fun es hes => ?_⟩
      exact hall (e :: es) (List.cons_prefix_cons.2 ⟨rfl, hes⟩)

end OlcRtc
