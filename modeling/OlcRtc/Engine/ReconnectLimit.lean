import OlcRtc.Engine.Reconnect

/-!
# The reconnect limit

When a reconnect fails, `Watch` tries again after a pause, and when it has failed too often it gives
the session up: `OnLimit` is the only way in which the layers above learn that the session is gone.
There are two ways of counting.

* LiveKit and Goolom count the attempts themselves (`handleRequestAttempt`).  The count starts again
  if the previous attempt began more than five minutes ago.
* Jitsi counts failures (`handleFailureAttempts`).  The count starts again if the first failure was
  more than five minutes ago.

So the limit depends on how long the attempts take, although a server that is dead stays so.
**`limit_reached_iff`** says exactly when it is reached after the configured number of attempts: if
every attempt together with the pause behind it takes at most five minutes; if all the attempts that
are counted, from the first failure on, take at most five minutes together.  Attempts of 299 seconds
already go on for ever (**`running_of_slow`**).

Times are in nanoseconds.
-/

namespace OlcRtc

def second : ℕ := 1000000000

/-- `reconnectFailureWindow`, as a duration. -/
def failureWindow : ℕ := reconnectFailureWindow * second

def reconnectBackoffStep : ℕ := 2 * second

def reconnectBackoffMax : ℕ := 30 * second

def reconnectBackoff (count : ℕ) : ℕ :=
  if reconnectBackoffMax < count * reconnectBackoffStep then reconnectBackoffMax
  else count * reconnectBackoffStep

/-- What the `reconnect` of the engine returned; `nonFailure` is an error that `IsNonFailure`
accepts. -/
inductive AttemptResult
  | ok
  | nonFailure
  | failed
deriving DecidableEq

/-- An attempt: how it ended and how long it took, whether the session was stopped in the pause
behind it, and by how much that pause was longer than asked for. -/
structure Attempt where
  result : AttemptResult
  duration : ℕ
  stopped : Bool
  overshoot : ℕ
deriving DecidableEq

def Attempt.Fails (a : Attempt) : Prop := a.result = .failed ∧ a.stopped = false

/-- From the beginning of an attempt to the end of the pause behind it. -/
def Attempt.time (a : Attempt) (count : ℕ) : ℕ :=
  a.duration + (reconnectBackoff count + a.overshoot)

/-- The part of `Reconnector` that counts. -/
structure Reconnector where
  maxAttempts : ℕ
  countFailures : Bool
  limitReason : String
  count : ℕ
  windowStart : Option ℕ
  lastRequest : Option ℕ
deriving DecidableEq

/-- How the handling of a request ended; `running` if there is no attempt left to look at. -/
inductive Ending
  | running
  | connected
  | stopped
  | limit (reason : String)
deriving DecidableEq

/-- The supervisor after the handling, how it ended and how many attempts were made. -/
structure Handled where
  reconnector : Reconnector
  ending : Ending
  made : ℕ
deriving DecidableEq

def Handled.after (h : Handled) : Handled := { h with made := h.made + 1 }

namespace Reconnector

/-- `NewReconnector`. -/
def new (maxAttempts : ℕ) (countFailures : Bool) (limitReason : String) : Reconnector :=
  ⟨maxAttempts, countFailures, limitReason, 0, none, none⟩

/-- The count that an attempt at `now` adds to. -/
def carried (r : Reconnector) (now : ℕ) : ℕ :=
  match r.lastRequest with
  | none => 0
  | some last => if failureWindow < now - last then 0 else r.count

def nextRequestCount (r : Reconnector) (now : ℕ) : Reconnector :=
  { r with count := r.carried now + 1, lastRequest := some now }

/-- `failureCount`: the supervisor, with the window moved on. -/
def failureCount (r : Reconnector) (now : ℕ) : Reconnector :=
  match r.windowStart with
  | none => r
  | some start =>
    if failureWindow < now - start then { r with count := 0, windowStart := none } else r

def recordFailure (r : Reconnector) (now : ℕ) : Reconnector :=
  { r with count := r.count + 1, windowStart := some (r.windowStart.getD now) }

def resetFailures (r : Reconnector) : Reconnector := { r with count := 0, windowStart := none }

/-- `handleRequestAttempt`, for the attempts that follow and the time at the head of its loop. -/
def handleRequestAttempt : List Attempt → Reconnector → ℕ → Handled
  | attempts, r, now =>
    if (r.nextRequestCount now).maxAttempts < (r.nextRequestCount now).count then
      ⟨r.nextRequestCount now, .limit r.limitReason, 0⟩
    else
      match attempts with
      | [] => ⟨r.nextRequestCount now, .running, 0⟩
      | a :: rest =>
        match a.result with
        | .ok => ⟨r.nextRequestCount now, .connected, 1⟩
        | .nonFailure | .failed =>
          if a.stopped then ⟨r.nextRequestCount now, .stopped, 1⟩
          else
            (handleRequestAttempt rest (r.nextRequestCount now)
              (now + a.time (r.nextRequestCount now).count)).after

def handleFailureAttempts : List Attempt → Reconnector → ℕ → Handled
  | attempts, r, now =>
    if (r.failureCount now).maxAttempts < (r.failureCount now).count then
      ⟨r.failureCount now, .limit r.limitReason, 0⟩
    else
      match attempts with
      | [] => ⟨r.failureCount now, .running, 0⟩
      | a :: rest =>
        match a.result with
        | .ok | .nonFailure => ⟨(r.failureCount now).resetFailures, .connected, 1⟩
        | .failed =>
          if a.stopped then
            ⟨(r.failureCount now).recordFailure (now + a.duration), .stopped, 1⟩
          else
            (handleFailureAttempts rest
              ((r.failureCount now).recordFailure (now + a.duration))
              (now + a.time (r.failureCount now).count)).after

def handleAttempt (r : Reconnector) (now : ℕ) (attempts : List Attempt) : Handled :=
  if r.countFailures then handleFailureAttempts attempts r now
  else handleRequestAttempt attempts r now

/-- Between two requests nothing is left of earlier failures. -/
def Idle (r : Reconnector) : Prop :=
  r.countFailures = true → r.count = 0 ∧ r.windowStart = none

/-! ## Counting attempts -/

variable {r : Reconnector} {now : ℕ} {a : Attempt} {rest attempts : List Attempt}

lemma carried_nextRequestCount (r : Reconnector) (now t : ℕ) :
    (r.nextRequestCount now).carried (now + t) =
      if failureWindow < t then 0 else r.carried now + 1 := by
  show (if failureWindow < now + t - now then 0 else r.carried now + 1) = _
  rw [Nat.add_sub_cancel_left]

lemma handleRequestAttempt_limit (attempts : List Attempt) (hmax : r.maxAttempts ≤ r.carried now) :
    handleRequestAttempt attempts r now = ⟨r.nextRequestCount now, .limit r.limitReason, 0⟩ := by
  have hcount : (r.nextRequestCount now).maxAttempts < (r.nextRequestCount now).count :=
    Nat.lt_succ_of_le hmax
  cases attempts <;> rw [handleRequestAttempt, if_pos hcount]

lemma handleRequestAttempt_nil (hmax : r.carried now < r.maxAttempts) :
    handleRequestAttempt [] r now = ⟨r.nextRequestCount now, .running, 0⟩ := by
  have hcount : ¬(r.nextRequestCount now).maxAttempts < (r.nextRequestCount now).count :=
    Nat.not_lt.2 hmax
  rw [handleRequestAttempt, if_neg hcount]

lemma handleRequestAttempt_cons (ha : a.Fails) (hmax : r.carried now < r.maxAttempts) :
    handleRequestAttempt (a :: rest) r now =
      (handleRequestAttempt rest (r.nextRequestCount now)
        (now + a.time (r.carried now + 1))).after := by
  have hcount : ¬(r.nextRequestCount now).maxAttempts < (r.nextRequestCount now).count :=
    Nat.not_lt.2 hmax
  rw [handleRequestAttempt, if_neg hcount]
  simp only [ha.1, ha.2, Bool.false_eq_true, if_false]
  rfl

lemma le_made_request (attempts : List Attempt) : ∀ (r : Reconnector) (now : ℕ),
    (∀ a ∈ attempts, a.Fails) →
    (handleRequestAttempt attempts r now).ending = .limit r.limitReason →
    r.maxAttempts ≤ (handleRequestAttempt attempts r now).made + r.carried now := by
  induction attempts with
  | nil =>
    intro r now _ hlimit
    by_contra hlow
    rw [handleRequestAttempt_nil (by omega)] at hlimit
    cases hlimit
  | cons a rest ih =>
    intro r now hfails hlimit
    rcases Nat.lt_or_ge (r.carried now) r.maxAttempts with hmax | hmax
    · rw [handleRequestAttempt_cons (hfails a List.mem_cons_self) hmax] at hlimit ⊢
      have hrest := ih (r.nextRequestCount now) _
        (fun b hb => hfails b (List.mem_cons_of_mem _ hb)) hlimit
      rw [carried_nextRequestCount] at hrest
      show r.maxAttempts ≤ Handled.made _ + 1 + r.carried now
      change r.maxAttempts ≤ _ at hrest
      split_ifs at hrest <;> omega
    · omega

/-- Each of the attempts up to the limit takes at most the window, with the pause behind it. -/
def Paced (r : Reconnector) (now : ℕ) (attempts : List Attempt) : Prop :=
  ∀ (k : ℕ) (a : Attempt), k < r.maxAttempts - r.carried now → attempts[k]? = some a →
    a.time (r.carried now + 1 + k) ≤ failureWindow

lemma paced_cons (htime : a.time (r.carried now + 1) ≤ failureWindow)
    (hmax : r.carried now < r.maxAttempts) :
    r.Paced now (a :: rest) ↔
      (r.nextRequestCount now).Paced (now + a.time (r.carried now + 1)) rest := by
  have hcarried := carried_nextRequestCount r now (a.time (r.carried now + 1))
  rw [if_neg (Nat.not_lt.2 htime)] at hcarried
  unfold Paced
  rw [hcarried]
  show _ ↔ ∀ (k : ℕ) (b : Attempt), k < r.maxAttempts - (r.carried now + 1) → _
  constructor
  · intro h k b hk hb
    have := h (k + 1) b (by omega) hb
    rwa [← Nat.add_assoc, Nat.add_right_comm] at this
  · intro h k b hk hb
    cases k with
    | zero =>
      grind
    | succ k =>
      grind

lemma request_limit_of_paced (attempts : List Attempt) : ∀ (r : Reconnector) (now : ℕ),
    (∀ a ∈ attempts, a.Fails) → r.maxAttempts - r.carried now ≤ attempts.length →
    r.Paced now attempts →
    (handleRequestAttempt attempts r now).ending = .limit r.limitReason ∧
      (handleRequestAttempt attempts r now).made = r.maxAttempts - r.carried now := by
  induction attempts with
  | nil =>
    intro r now _ hlen _
    have hzero : r.maxAttempts - r.carried now = 0 := Nat.le_zero.1 hlen
    rw [handleRequestAttempt_limit [] (by omega)]
    exact ⟨rfl, hzero.symm⟩
  | cons a rest ih =>
    intro r now hfails hlen hpaced
    rcases Nat.lt_or_ge (r.carried now) r.maxAttempts with hmax | hmax
    · have htime : a.time (r.carried now + 1) ≤ failureWindow := hpaced 0 a (by omega) rfl
      have hcarried := carried_nextRequestCount r now (a.time (r.carried now + 1))
      rw [if_neg (Nat.not_lt.2 htime)] at hcarried
      have hlen' : (r.nextRequestCount now).maxAttempts -
          (r.nextRequestCount now).carried (now + a.time (r.carried now + 1)) ≤ rest.length := by
        rw [hcarried]
        show r.maxAttempts - _ ≤ _
        rw [List.length_cons] at hlen
        omega
      obtain ⟨hlimit, hmade⟩ := ih _ _ (fun b hb => hfails b (List.mem_cons_of_mem _ hb)) hlen'
        ((paced_cons htime hmax).1 hpaced)
      rw [handleRequestAttempt_cons (hfails a List.mem_cons_self) hmax]
      refine ⟨hlimit, ?_⟩
      show Handled.made _ + 1 = _
      rw [hmade, hcarried]
      show r.maxAttempts - _ + 1 = _
      omega
    · rw [handleRequestAttempt_limit _ hmax]
      exact ⟨rfl, (Nat.sub_eq_zero_of_le hmax).symm⟩

lemma paced_of_request_limit (attempts : List Attempt) : ∀ (r : Reconnector) (now : ℕ),
    (∀ a ∈ attempts, a.Fails) →
    (handleRequestAttempt attempts r now).ending = .limit r.limitReason →
    (handleRequestAttempt attempts r now).made ≤ r.maxAttempts → r.Paced now attempts := by
  induction attempts with
  | nil =>
    intro r now _ _ _ k a _ hk
    cases hk
  | cons a rest ih =>
    intro r now hfails hlimit hmade
    rcases Nat.lt_or_ge (r.carried now) r.maxAttempts with hmax | hmax
    · have hrest : ∀ b ∈ rest, b.Fails := fun b hb => hfails b (List.mem_cons_of_mem _ hb)
      rw [handleRequestAttempt_cons (hfails a List.mem_cons_self) hmax] at hlimit hmade
      change Handled.made _ + 1 ≤ r.maxAttempts at hmade
      by_cases htime : a.time (r.carried now + 1) ≤ failureWindow
      · exact (paced_cons htime hmax).2 (ih _ _ hrest hlimit (Nat.le_of_succ_le hmade))
      · -- the count has started again, and the limit is as far away as it was
        have hlow := le_made_request rest _ _ hrest hlimit
        rw [carried_nextRequestCount, if_pos (Nat.not_le.1 htime)] at hlow
        change r.maxAttempts ≤ _ at hlow
        omega
    · intro k b hk
      omega

/-! ## Counting failures -/

lemma failureCount_of_late {start : ℕ} (hstart : r.windowStart = some start)
    (hlate : failureWindow < now - start) :
    r.failureCount now = { r with count := 0, windowStart := none } := by
  rw [failureCount, hstart]
  exact if_pos hlate

lemma failureCount_of_early {start : ℕ} (hstart : r.windowStart = some start)
    (hearly : now - start ≤ failureWindow) : r.failureCount now = r := by
  rw [failureCount, hstart]
  exact if_neg (Nat.not_lt.2 hearly)

lemma failureCount_of_none (hstart : r.windowStart = none) : r.failureCount now = r := by
  rw [failureCount, hstart]

@[simp] lemma maxAttempts_failureCount : (r.failureCount now).maxAttempts = r.maxAttempts := by
  unfold failureCount
  split
  · rfl
  · split_ifs <;> rfl

@[simp] lemma limitReason_failureCount : (r.failureCount now).limitReason = r.limitReason := by
  unfold failureCount
  split
  · rfl
  · split_ifs <;> rfl

lemma handleFailureAttempts_limit (attempts : List Attempt)
    (hmax : r.maxAttempts < (r.failureCount now).count) :
    handleFailureAttempts attempts r now = ⟨r.failureCount now, .limit r.limitReason, 0⟩ := by
  cases attempts <;> rw [handleFailureAttempts, if_pos (by rwa [maxAttempts_failureCount])]

lemma handleFailureAttempts_nil (hmax : (r.failureCount now).count ≤ r.maxAttempts) :
    handleFailureAttempts [] r now = ⟨r.failureCount now, .running, 0⟩ := by
  rw [handleFailureAttempts, if_neg (by rw [maxAttempts_failureCount]; exact Nat.not_lt.2 hmax)]

lemma handleFailureAttempts_cons (ha : a.Fails)
    (hmax : (r.failureCount now).count ≤ r.maxAttempts) :
    handleFailureAttempts (a :: rest) r now =
      (handleFailureAttempts rest ((r.failureCount now).recordFailure (now + a.duration))
        (now + a.time (r.failureCount now).count)).after := by
  rw [handleFailureAttempts, if_neg (by rw [maxAttempts_failureCount]; exact Nat.not_lt.2 hmax)]
  simp only [ha.1, ha.2, Bool.false_eq_true, if_false]

lemma le_made_failure (attempts : List Attempt) : ∀ (r : Reconnector) (now : ℕ),
    (∀ a ∈ attempts, a.Fails) →
    (handleFailureAttempts attempts r now).ending = .limit r.limitReason →
    r.maxAttempts < (handleFailureAttempts attempts r now).made + (r.failureCount now).count := by
  induction attempts with
  | nil =>
    intro r now _ hlimit
    by_contra hlow
    rw [handleFailureAttempts_nil (by omega)] at hlimit
    cases hlimit
  | cons a rest ih =>
    intro r now hfails hlimit
    rcases Nat.lt_or_ge r.maxAttempts (r.failureCount now).count with hmax | hmax
    · omega
    · rw [handleFailureAttempts_cons (hfails a List.mem_cons_self) hmax] at hlimit ⊢
      have hrest := ih ((r.failureCount now).recordFailure (now + a.duration)) _
        (fun b hb => hfails b (List.mem_cons_of_mem _ hb)) (hlimit.trans (by
          show _ = Ending.limit (r.failureCount now).limitReason
          rw [limitReason_failureCount]))
      change (r.failureCount now).maxAttempts < _ at hrest
      rw [maxAttempts_failureCount] at hrest
      have hcount : (((r.failureCount now).recordFailure (now + a.duration)).failureCount
          (now + a.time (r.failureCount now).count)).count ≤ (r.failureCount now).count + 1 := by
        unfold failureCount recordFailure
        dsimp only
        split_ifs
        · exact Nat.zero_le _
        · exact Nat.le_refl _
      show r.maxAttempts < Handled.made _ + 1 + _
      omega

/-- How long attempts take one after the other, with the pauses, from `count` failures on. -/
def loopTime : ℕ → List Attempt → ℕ
  | _, [] => 0
  | count, a :: rest => a.time count + loopTime (count + 1) rest

/-- Once there is a first failure, the limit is reached without a new start exactly if the window
is not over by then. -/
lemma failure_limit_iff (attempts : List Attempt) : ∀ (r : Reconnector) (now start : ℕ),
    (∀ a ∈ attempts, a.Fails) → r.windowStart = some start → start ≤ now → 0 < r.count →
    r.count ≤ r.maxAttempts + 1 → r.maxAttempts + 1 - r.count ≤ attempts.length →
    ((handleFailureAttempts attempts r now).ending = .limit r.limitReason ∧
      (handleFailureAttempts attempts r now).made + r.count ≤ r.maxAttempts + 1 ↔
      now + loopTime r.count (attempts.take (r.maxAttempts + 1 - r.count))
        ≤ start + failureWindow) := by
  have hlate : ∀ (attempts : List Attempt) (r : Reconnector) (now start : ℕ),
      (∀ a ∈ attempts, a.Fails) → r.windowStart = some start → 0 < r.count →
      failureWindow < now - start →
      ¬((handleFailureAttempts attempts r now).ending = .limit r.limitReason ∧
        (handleFailureAttempts attempts r now).made + r.count ≤ r.maxAttempts + 1) := by
    rintro attempts r now start hfails hstart hpos hlate ⟨hlimit, hmade⟩
    have hlow := le_made_failure attempts r now hfails hlimit
    rw [failureCount_of_late hstart hlate] at hlow
    change r.maxAttempts < _ + 0 at hlow
    omega
  induction attempts with
  | nil =>
    intro r now start hfails hstart hle hpos hcount hlen
    rw [List.take_nil]
    show _ ↔ now ≤ start + failureWindow
    by_cases hearly : now - start ≤ failureWindow
    · rw [handleFailureAttempts_limit [] (by
        rw [failureCount_of_early hstart hearly]
        exact Nat.sub_eq_zero_iff_le.1 (Nat.le_zero.1 hlen))]
      exact ⟨fun _ => by omega, fun _ => ⟨rfl, by rw [Nat.zero_add]; exact hcount⟩⟩
    · grind
  | cons a rest ih =>
    intro r now start hfails hstart hle hpos hcount hlen
    by_cases hearly : now - start ≤ failureWindow
    · have hsame := failureCount_of_early hstart hearly
      rcases Nat.lt_or_ge r.maxAttempts r.count with hmax | hmax
      · rw [handleFailureAttempts_limit _ (by rwa [hsame]), Nat.sub_eq_zero_of_le hmax,
          List.take_zero]
        show _ ↔ now ≤ start + failureWindow
        exact ⟨fun _ => by omega, fun _ => ⟨rfl, by rw [Nat.zero_add]; exact hcount⟩⟩
      · have hwindow : (r.recordFailure (now + a.duration)).windowStart = some start := by
          rw [recordFailure, hstart]
          rfl
        have hiff := ih (r.recordFailure (now + a.duration)) (now + a.time r.count) start
          (fun b hb => hfails b (List.mem_cons_of_mem _ hb)) hwindow (by omega)
          (Nat.succ_pos _) (Nat.succ_le_succ hmax) (by
            show r.maxAttempts + 1 - (r.count + 1) ≤ _
            rw [List.length_cons] at hlen
            omega)
        rw [handleFailureAttempts_cons (hfails a List.mem_cons_self) (by rwa [hsame]), hsame]
        have htake : r.maxAttempts + 1 - r.count = (r.maxAttempts + 1 - (r.count + 1)) + 1 := by
          omega
        have hmade : ∀ n, n + 1 + r.count ≤ r.maxAttempts + 1 ↔
            n + (r.count + 1) ≤ r.maxAttempts + 1 := by
          intro n
          omega
        rw [htake, List.take_succ_cons, loopTime, ← Nat.add_assoc]
        refine Iff.trans (and_congr_right fun _ => hmade _) hiff
    · grind

/-! ## The limit -/

def allowed (r : Reconnector) : ℕ := if r.countFailures then r.maxAttempts + 1 else r.maxAttempts

/-- The attempts up to the limit are fast enough for the way they are counted: one by one, or all
together from the end of the first on. -/
def FastEnough (r : Reconnector) (now : ℕ) (attempts : List Attempt) : Prop :=
  if r.countFailures then
    ∀ a rest, attempts = a :: rest →
      loopTime 0 (attempts.take (r.maxAttempts + 1)) ≤ a.duration + failureWindow
  else r.Paced now attempts

lemma countFailures_handleRequestAttempt (attempts : List Attempt) : ∀ (r : Reconnector) (now : ℕ),
    (handleRequestAttempt attempts r now).reconnector.countFailures = r.countFailures := by
  induction attempts with
  | nil =>
    intro r now
    rw [handleRequestAttempt]
    split_ifs <;> rfl
  | cons a rest ih =>
    intro r now
    rw [handleRequestAttempt]
    cases a.result <;> simp only <;> split_ifs <;> first | rfl | exact ih _ _

lemma idle_of_connected_failure (attempts : List Attempt) : ∀ (r : Reconnector) (now : ℕ),
    (handleFailureAttempts attempts r now).ending = .connected →
      (handleFailureAttempts attempts r now).reconnector.Idle := by
  induction attempts with
  | nil =>
    intro r now
    rw [handleFailureAttempts]
    split_ifs <;> (intro h; cases h)
  | cons a rest ih =>
    intro r now
    rw [handleFailureAttempts]
    cases a.result <;> simp only <;> split_ifs <;>
      first | exact ih _ _ | exact fun _ _ => ⟨rfl, rfl⟩ | (intro h; cases h)

/-- **A reconnect that succeeds leaves nothing of earlier failures.** -/
lemma idle_of_connected (h : (r.handleAttempt now attempts).ending = .connected) :
    (r.handleAttempt now attempts).reconnector.Idle := by
  rw [handleAttempt] at h ⊢
  split_ifs at h ⊢ with hmode
  · exact idle_of_connected_failure attempts r now h
  · intro hfailures
    rw [countFailures_handleRequestAttempt] at hfailures
    exact absurd hfailures hmode

/-- **The reconnect limit.**  If every attempt fails and the session is not closed, then the limit
is reached after the allowed number of attempts at most exactly if the attempts are fast
enough. -/
theorem limit_reached_iff (r : Reconnector) (now : ℕ) (attempts : List Attempt) (hidle : r.Idle)
    (hfails : ∀ a ∈ attempts, a.Fails) (hlength : r.maxAttempts < attempts.length) :
    (r.handleAttempt now attempts).ending = .limit r.limitReason ∧
      (r.handleAttempt now attempts).made ≤ r.allowed ↔ r.FastEnough now attempts := by
  cases hmode : r.countFailures with
  | false =>
    simp only [handleAttempt, allowed, FastEnough, hmode, Bool.false_eq_true, if_false]
    constructor
    · rintro ⟨hlimit, hmade⟩
      exact paced_of_request_limit attempts r now hfails hlimit hmade
    · intro hpaced
      obtain ⟨hlimit, hmade⟩ := request_limit_of_paced attempts r now hfails (by omega) hpaced
      exact ⟨hlimit, by omega⟩
  | true =>
    simp only [handleAttempt, allowed, FastEnough, hmode, if_true]
    obtain ⟨hcount, hstart⟩ := hidle hmode
    have hsame : r.failureCount now = r := failureCount_of_none hstart
    cases attempts with
    | nil => exact absurd hlength (Nat.not_lt_zero _)
    | cons a rest =>
      have hmax : (r.failureCount now).count ≤ r.maxAttempts := by
        rw [hsame, hcount]
        exact Nat.zero_le _
      rw [handleFailureAttempts_cons (hfails a List.mem_cons_self) hmax, hsame, hcount]
      have hone : (r.recordFailure (now + a.duration)).count = 1 := by
        rw [recordFailure, hcount]
      have hwindow : (r.recordFailure (now + a.duration)).windowStart =
          some (now + a.duration) := by
        rw [recordFailure, hstart]
        rfl
      have hiff := failure_limit_iff rest (r.recordFailure (now + a.duration))
        (now + a.time 0) (now + a.duration) (fun b hb => hfails b (List.mem_cons_of_mem _ hb))
        hwindow (by rw [Attempt.time]; omega) (by omega) (by omega) (by
          rw [hone]
          rw [List.length_cons] at hlength
          show r.maxAttempts + 1 - 1 ≤ _
          omega)
      rw [hone] at hiff
      refine Iff.trans hiff ?_
      show now + a.time 0 + loopTime 1 (rest.take r.maxAttempts) ≤ _ ↔ _
      constructor
      · intro h a' rest' heq
        obtain ⟨rfl, rfl⟩ := List.cons.inj heq
        rw [List.take_succ_cons, loopTime, Nat.zero_add]
        omega
      · intro h
        have := h a rest rfl
        rw [List.take_succ_cons, loopTime, Nat.zero_add] at this
        omega

def failingAfter (seconds : ℕ) : Attempt := ⟨.failed, seconds * second, false, 0⟩

/-- Jitsi: five reconnects allowed, and each attempt fails after 20 seconds. -/
theorem limit_reached_iff_fast :
    ((Reconnector.new 5 true "jitsi reconnect limit reached").handleAttempt 0
      (List.replicate 6 (failingAfter 20))).ending = .limit "jitsi reconnect limit reached" :=
  ((limit_reached_iff (Reconnector.new 5 true "jitsi reconnect limit reached") 0
    (List.replicate 6 (failingAfter 20)) (fun _ => ⟨rfl, rfl⟩)
    (fun a ha => by rw [List.eq_of_mem_replicate ha]; exact ⟨rfl, rfl⟩) (by decide)).2 (by
      show ∀ a rest, _ = a :: rest → _
      intro a rest heq
      cases heq
      decide)).1

lemma slow_request (m n : ℕ) : ∀ (r : Reconnector) (now : ℕ),
    r.maxAttempts = m + 1 → r.carried now = 0 →
    (handleRequestAttempt (List.replicate n (failingAfter 299)) r now).ending = .running := by
  induction n with
  | zero =>
    intro r now hmax hzero
    rw [List.replicate_zero, handleRequestAttempt_nil (by omega)]
  | succ n ih =>
    intro r now hmax hzero
    rw [List.replicate_succ, handleRequestAttempt_cons ⟨rfl, rfl⟩ (by omega), hzero]
    refine ih (r.nextRequestCount now) _ hmax ?_
    rw [carried_nextRequestCount]
    exact if_pos (by decide)

lemma slow_failure (m n : ℕ) : ∀ (r : Reconnector) (now : ℕ), r.maxAttempts = m + 1 →
    ((r.windowStart = none ∧ r.count = 0 ∨
        ∃ start, r.windowStart = some start ∧ failureWindow < now - start) →
      (handleFailureAttempts (List.replicate n (failingAfter 299)) r now).ending = .running) ∧
    (r.windowStart = some now → r.count = 1 →
      (handleFailureAttempts (List.replicate n (failingAfter 299)) r now).ending = .running) := by
  induction n with
  | zero =>
    intro r now hmax
    refine ⟨?_, fun hstart hone => ?_⟩
    · rintro (⟨hstart, hzero⟩ | ⟨start, hstart, hlate⟩)
      · rw [List.replicate_zero, handleFailureAttempts_nil]
        rw [failureCount_of_none hstart, hzero]
        omega
      · rw [List.replicate_zero, handleFailureAttempts_nil]
        rw [failureCount_of_late hstart hlate]
        exact Nat.zero_le _
    · rw [List.replicate_zero, handleFailureAttempts_nil]
      rw [failureCount_of_early hstart (by omega), hone]
      omega
  | succ n ih =>
    intro r now hmax
    refine ⟨fun hfresh => ?_, fun hstart hone => ?_⟩
    · have hreset : (r.failureCount now).count = 0 ∧ (r.failureCount now).windowStart = none := by
        rcases hfresh with ⟨hstart, hzero⟩ | ⟨start, hstart, hlate⟩
        · rw [failureCount_of_none hstart]
          exact ⟨hzero, hstart⟩
        · rw [failureCount_of_late hstart hlate]
          exact ⟨rfl, rfl⟩
      rw [List.replicate_succ, handleFailureAttempts_cons ⟨rfl, rfl⟩ (by omega), hreset.1]
      refine (ih ((r.failureCount now).recordFailure _) _ ?_).2 ?_ ?_
      · show (r.failureCount now).maxAttempts = m + 1
        rw [maxAttempts_failureCount, hmax]
      · rw [recordFailure, hreset.2]
        rfl
      · rw [recordFailure, hreset.1]
    · have hsame : r.failureCount now = r := failureCount_of_early hstart (by omega)
      have hle : (r.failureCount now).count ≤ r.maxAttempts := by
        rw [hsame]
        omega
      rw [List.replicate_succ, handleFailureAttempts_cons ⟨rfl, rfl⟩ hle, hsame, hone]
      refine (ih (r.recordFailure _) _ hmax).1 (Or.inr ⟨now, ?_, ?_⟩)
      · rw [recordFailure, hstart]
        rfl
      · rw [Nat.add_sub_cancel_left]
        decide

/-- **Attempts that fail after 299 seconds never reach the limit**, in either way of counting and
whatever the limit. -/
theorem running_of_slow (m n : ℕ) (countFailures : Bool) (reason : String) :
    ((Reconnector.new (m + 1) countFailures reason).handleAttempt 0
      (List.replicate n (failingAfter 299))).ending = .running := by
  cases countFailures with
  | false => exact slow_request m n _ 0 rfl rfl
  | true => exact (slow_failure m n _ 0 rfl).1 (Or.inl ⟨rfl, rfl⟩)

/-- With a limit of five, a thousand such attempts. -/
theorem slow_attempts_never_limit :
    ((Reconnector.new 5 false "limit").handleAttempt 0
      (List.replicate 1000 (failingAfter 299))).ending = .running ∧
    ((Reconnector.new 5 true "limit").handleAttempt 0
      (List.replicate 1000 (failingAfter 299))).ending = .running :=
  ⟨running_of_slow 4 1000 false "limit", running_of_slow 4 1000 true "limit"⟩

end Reconnector

end OlcRtc
