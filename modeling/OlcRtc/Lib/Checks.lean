import Mathlib.Logic.Basic

/-!
# Checks one after the other

Validators and parsers are written in `Except`: a check that fails ends the computation with its
error.  The lemmas here take an accepted computation apart, check by check.  `Ends` says of a state
change written that way what holds of the state it leaves behind and what of the error it is refused
with; its rules carry such a statement through the steps of the computation.
-/

namespace OlcRtc

universe u v

variable {ε : Type u} {α β : Type v}

/-- A check with the error it fails with. -/
def ensure (ok : Bool) (err : ε) : Except ε PUnit.{v + 1} :=
  if ok then .ok ⟨⟩ else .error err

@[simp] lemma ensure_eq_ok {ok : Bool} {err : ε} {x : PUnit.{v + 1}} :
    ensure ok err = .ok x ↔ ok = true := by
  cases ok <;> simp [ensure]

lemma ite_ok_eq_ok {p : Prop} [Decidable p] {err : ε} {a b : α} :
    (if p then .ok a else .error err : Except ε α) = .ok b ↔ p ∧ a = b := by
  split <;> simp_all

lemma ite_error_eq_ok {p : Prop} [Decidable p] {err : ε} {a b : α} :
    (if p then .error err else .ok a : Except ε α) = .ok b ↔ ¬p ∧ a = b := by
  split <;> simp_all

lemma bind_eq_ok {x : Except ε α} {f : α → Except ε β} {b : β} :
    (x >>= f) = .ok b ↔ ∃ a, x = .ok a ∧ f a = .ok b := by
  cases x with
  | error err => simp [bind, Except.bind]
  | ok a => simp [bind, Except.bind]

lemma ok_bind (a : α) (f : α → Except ε β) : (Except.ok a >>= f) = f a := rfl

lemma mapError_eq_ok {δ : Type u} {x : Except ε α} {f : ε → δ} {a : α} :
    x.mapError f = .ok a ↔ x = .ok a := by
  cases x with
  | error err => constructor <;> rintro ⟨⟩
  | ok b =>
    show (.ok b : Except δ α) = .ok a ↔ _
    rw [Except.ok.injEq, Except.ok.injEq]

lemma mapM_eq_ok {γ : Type u} {f : γ → Except ε β} {g : γ → β} :
    ∀ {l : List γ}, (∀ x ∈ l, f x = .ok (g x)) → l.mapM f = .ok (l.map g)
  | [], _ => rfl
  | x :: l, h => by
    rw [List.mapM_cons, h x List.mem_cons_self, ok_bind,
      mapM_eq_ok fun y hy => h y (List.mem_cons_of_mem x hy)]
    rfl

/-! ## What a computation comes to -/

section Ends

variable {σ : Type v}

/-- What a command comes to: the state it leaves behind, or the error it is refused with. -/
def Ends (P : σ → Prop) (Q : ε → Prop) : Except ε σ → Prop
  | .ok s => P s
  | .error e => Q e

variable {P : σ → Prop} {Q : ε → Prop} {s : σ}

@[simp] lemma ends_ok : Ends P Q (.ok s) ↔ P s := Iff.rfl

@[simp] lemma ends_pure : Ends P Q (pure s) ↔ P s := Iff.rfl

@[simp] lemma ends_error {e : ε} : Ends P Q (.error e) ↔ Q e := Iff.rfl

@[simp] lemma ends_bind {r : Except ε α} {f : α → Except ε σ} :
    Ends P Q (r >>= f) ↔ Ends (fun a => Ends P Q (f a)) Q r := by
  cases r <;> rfl

@[simp] lemma ends_map {r : Except ε σ} {f : σ → σ} :
    Ends P Q (f <$> r) ↔ Ends (fun s => P (f s)) Q r := by
  cases r <;> rfl

@[simp] lemma ends_ite {p : Prop} [Decidable p] {r r' : Except ε σ} :
    Ends P Q (if p then r else r') ↔ (p → Ends P Q r) ∧ (¬p → Ends P Q r') := by
  by_cases h : p <;> simp [h]

lemma Ends.imp {P' : σ → Prop} {Q' : ε → Prop} {r : Except ε σ} (h : Ends P Q r)
    (hP : ∀ s, P s → P' s) (hQ : ∀ e, Q e → Q' e) : Ends P' Q' r := by
  cases r with
  | ok s => exact hP s h
  | error e => exact hQ e h

end Ends

end OlcRtc
