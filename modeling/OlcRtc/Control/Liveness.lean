import Mathlib.Algebra.BigOperators.Intervals
import Mathlib.Data.Set.Card
import OlcRtc.Lib.Lists
import OlcRtc.Lib.Steps

/-!
# The liveness verdict of the control stream

`Run` sends a ping at every tick and takes pongs as they come.  `sendProbe` first gives up the
probes that have waited for `Timeout`, counts them in `failures`, and reports the stream as
unhealthy when there are `Failures` of them; `handlePong` takes the probe of a pong out of `pending`
and starts the count again.  A pong whose probe is not pending does nothing.

The verdict is compared with the history: what was sent, what was answered and when the ticks were.
No map and no counter is needed to say what it should be.

* `Outstanding` — a probe that was sent and since then neither answered nor given up.
* `MatchedAt` — a pong whose probe was outstanding.
* `missedSince` — the probes given up since the last such pong.

**`verdict_exact`** says that the code agrees: at every tick of every run, whatever the clock shows
and whatever pongs come, `sendProbe` returns `ErrUnhealthy` exactly if `missedSince` has reached
`Failures`.  Sequence numbers wrap around, and a probe whose number is used again is not outstanding
any more.
-/

namespace OlcRtc.Control

/-! ## The code

Times and durations are in nanoseconds.
-/

/-- `Config`.  Of the callbacks only whether they are set. -/
structure Config where
  interval : ℤ
  timeout : ℤ
  failures : ℤ
  onPong : Bool
  onMissedPong : Bool
  onUnhealthy : Bool
deriving DecidableEq, Repr

def defaultInterval : ℤ := 10 * 1000000000

def defaultTimeout : ℤ := 15 * 1000000000

def defaultFailures : ℤ := 4

def Config.withDefaults (cfg : Config) : Config :=
  { cfg with
    interval := if cfg.interval ≤ 0 then defaultInterval else cfg.interval
    timeout := if cfg.timeout ≤ 0 then defaultTimeout else cfg.timeout
    failures := if cfg.failures ≤ 0 then defaultFailures else cfg.failures }

lemma Config.failures_pos (cfg : Config) : 0 < cfg.withDefaults.failures := by
  show 0 < if cfg.failures ≤ 0 then defaultFailures else cfg.failures
  split_ifs with hf
  · decide
  · omega

def protoVersion : ℤ := 1

/-- `MsgType`. -/
inductive MsgType
  | ping
  | pong
  | close
deriving DecidableEq, Repr

structure Message where
  version : ℤ
  type : MsgType
  seq : UInt64
  sentUnixNano : ℤ
deriving DecidableEq, Repr

structure Health where
  seq : UInt64
  rtt : ℤ
  lastSeen : ℤ
deriving DecidableEq, Repr

inductive Callback
  | pong (health : Health)
  | missedPong (missed : ℕ)
  | unhealthy (missed : ℕ)
deriving DecidableEq, Repr

/-- What `sendProbe` returns: `ErrUnhealthy`, or whatever `enqueue` says to the ping. -/
inductive Outcome
  | unhealthy (missed : ℕ)
  | enqueue (msg : Message)
deriving DecidableEq, Repr

def Outcome.error : Outcome → Option String
  | .unhealthy missed => some s!"control stream unhealthy: missed {missed} pong(s)"
  | .enqueue _ => none

/-- `state`. -/
structure Liveness where
  cfg : Config
  pending : AList fun _ : UInt64 => ℤ
  nextSeq : UInt64
  failures : ℕ

/-- What `sendProbe` does. -/
structure Probed where
  live : Liveness
  callbacks : List Callback
  outcome : Outcome

/-- The body of the loop over `pending`; the second component is `missedNow`. -/
def expireOne (timeout now : ℤ) (acc : (AList fun _ : UInt64 => ℤ) × ℕ) (seq : UInt64) :
    (AList fun _ : UInt64 => ℤ) × ℕ :=
  match acc.1.lookup seq with
  | none => acc
  | some sent => if now - sent < timeout then acc else (acc.1.erase seq, acc.2 + 1)

def expire (timeout now : ℤ) (pending : AList fun _ : UInt64 => ℤ) (order : List UInt64) :
    (AList fun _ : UInt64 => ℤ) × ℕ :=
  order.foldl (expireOne timeout now) (pending, 0)

namespace Liveness

/-- The state that `Run` begins with. -/
def new (cfg : Config) : Liveness := ⟨cfg.withDefaults, ∅, 0, 0⟩

def sendProbe (s : Liveness) (now : ℤ) (order : List UInt64) : Probed :=
  let (pending, missedNow) := expire s.cfg.timeout now s.pending order
  let missed := s.failures + missedNow
  let callbacks := if 0 < missedNow ∧ s.cfg.onMissedPong then [Callback.missedPong missed] else []
  if s.cfg.failures ≤ missed then
    { live := { s with pending := pending, failures := missed }
      callbacks := callbacks ++ if s.cfg.onUnhealthy then [.unhealthy missed] else []
      outcome := .unhealthy missed }
  else
    { live :=
        { s with
          pending := pending.insert (s.nextSeq + 1) now
          nextSeq := s.nextSeq + 1
          failures := missed }
      callbacks := callbacks
      outcome := .enqueue ⟨protoVersion, .ping, s.nextSeq + 1, now⟩ }

def handlePong (s : Liveness) (now : ℤ) (seq : UInt64) : Liveness × List Callback :=
  match s.pending.lookup seq with
  | none => (s, [])
  | some sent =>
    ({ s with pending := s.pending.erase seq, failures := 0 },
      if s.cfg.onPong then [.pong ⟨seq, now - sent, now⟩] else [])

lemma outcome_sendProbe (s : Liveness) (now : ℤ) (order : List UInt64) :
    (s.sendProbe now order).outcome =
      if s.cfg.failures ≤ ↑(s.failures + (expire s.cfg.timeout now s.pending order).2) then
        .unhealthy (s.failures + (expire s.cfg.timeout now s.pending order).2)
      else .enqueue ⟨protoVersion, .ping, s.nextSeq + 1, now⟩ :=
  apply_ite Probed.outcome _ _ _

lemma live_sendProbe (s : Liveness) (now : ℤ) (order : List UInt64) :
    (s.sendProbe now order).live =
      if s.cfg.failures ≤ ↑(s.failures + (expire s.cfg.timeout now s.pending order).2) then
        { s with
          pending := (expire s.cfg.timeout now s.pending order).1
          failures := s.failures + (expire s.cfg.timeout now s.pending order).2 }
      else
        { s with
          pending := (expire s.cfg.timeout now s.pending order).1.insert (s.nextSeq + 1) now
          nextSeq := s.nextSeq + 1
          failures := s.failures + (expire s.cfg.timeout now s.pending order).2 } :=
  apply_ite Probed.live _ _ _

lemma handlePong_of_none {s : Liveness} {seq : UInt64} (hlook : s.pending.lookup seq = none)
    (now : ℤ) : s.handlePong now seq = (s, []) := by
  rw [handlePong, hlook]

lemma handlePong_of_some {s : Liveness} {seq : UInt64} {sent : ℤ}
    (hlook : s.pending.lookup seq = some sent) (now : ℤ) :
    s.handlePong now seq = ({ s with pending := s.pending.erase seq, failures := 0 },
      if s.cfg.onPong then [.pong ⟨seq, now - sent, now⟩] else []) := by
  rw [handlePong, hlook]

end Liveness

/-! ## What the history says -/

/-- `sendProbe` begins, a ping is sent, a pong is handled. -/
inductive Happening
  | tick (now : ℤ)
  | sent (seq : UInt64) (now : ℤ)
  | pong (seq : UInt64)
deriving DecidableEq, Repr

section History

variable (timeout : ℤ) (h : List Happening)

/-- A probe that was sent at `t`, and since then neither answered nor given up; nor was its number
used again. -/
def Outstanding (seq : UInt64) (t : ℤ) : Prop :=
  ∃ before after, h = before ++ .sent seq t :: after ∧ (∀ t', .sent seq t' ∉ after) ∧
    .pong seq ∉ after ∧ ∀ now, .tick now ∈ after → now - t < timeout

def Expired (now : ℤ) : Set UInt64 :=
  { seq | ∃ t, Outstanding timeout h seq t ∧ timeout ≤ now - t }

/-- Number `i` of the history is a pong whose probe was outstanding. -/
def MatchedAt (i : ℕ) : Prop :=
  ∃ seq t, h[i]? = some (.pong seq) ∧ Outstanding timeout (h.take i) seq t

/-- How many probes number `i` of the history gave up. -/
noncomputable def expiredAt (i : ℕ) : ℕ :=
  match h[i]? with
  | some (.tick now) => (Expired timeout (h.take i) now).ncard
  | _ => 0

open Classical in
/-- **The probes that were given up since the last pong that matched an outstanding probe.** -/
noncomputable def missedSince : ℕ :=
  ∑ i ∈ (Finset.range h.length).filter fun i => ∀ j, MatchedAt timeout h j → j < i,
    expiredAt timeout h i

/-- The number of a pong that cannot be the first answer to a probe in time: nothing was sent under
it, it was answered before, or the probe was given up. -/
inductive Stray (seq : UInt64) : Prop
  | unknown : (∀ t, .sent seq t ∉ h) → Stray seq
  | duplicate {before after : List Happening} : h = before ++ .pong seq :: after →
      (∀ t, .sent seq t ∉ after) → Stray seq
  | late {before middle after : List Happening} {t now : ℤ} :
      h = before ++ .sent seq t :: (middle ++ .tick now :: after) → timeout ≤ now - t →
      (∀ t', .sent seq t' ∉ middle ++ .tick now :: after) → Stray seq

/-- Every probe is answered before the first tick that would give it up. -/
def Timely : Prop :=
  ∀ before middle after seq t now,
    h = before ++ .sent seq t :: (middle ++ .tick now :: after) → timeout ≤ now - t →
    .pong seq ∈ middle

end History

variable {timeout now t : ℤ} {h : List Happening} {seq seq' : UInt64}

lemma concat_eq_append_cons {x y : Happening} {before after : List Happening} :
    h ++ [x] = before ++ y :: after ↔
      (after = [] ∧ h = before ∧ x = y) ∨
        ∃ rest, after = rest ++ [x] ∧ h = before ++ y :: rest := by
  constructor
  · intro heq
    rcases List.eq_nil_or_concat after with rfl | ⟨rest, z, rfl⟩
    · grind [List.append_inj', List.singleton_inj]
    · grind [List.concat_eq_append, List.cons_append, List.append_assoc, List.append_inj',
        List.singleton_inj]
  · grind

lemma not_outstanding_nil : ¬Outstanding timeout [] seq t := by
  rintro ⟨before, after, heq, -⟩
  cases before <;> cases heq

lemma outstanding_tick :
    Outstanding timeout (h ++ [.tick now]) seq t ↔
      Outstanding timeout h seq t ∧ now - t < timeout := by
  constructor
  · rintro ⟨before, after, heq, hsent, hpong, htick⟩
    rcases concat_eq_append_cons.1 heq with ⟨-, -, hx⟩ | ⟨rest, rfl, rfl⟩
    · cases hx
    · simp only [List.mem_append, not_or, List.mem_singleton] at hsent hpong htick
      exact ⟨⟨before, rest, rfl, fun t' => (hsent t').1, hpong.1,
        fun now' hnow' => htick now' (Or.inl hnow')⟩, htick now (Or.inr rfl)⟩
  · rintro ⟨⟨before, rest, rfl, hsent, hpong, htick⟩, hnow⟩
    refine ⟨before, rest ++ [.tick now], by simp, ?_, ?_, ?_⟩
    · simpa using hsent
    · simpa using hpong
    · grind

lemma outstanding_sent {t' : ℤ} :
    Outstanding timeout (h ++ [.sent seq' t']) seq t ↔
      (seq = seq' ∧ t = t') ∨ (seq ≠ seq' ∧ Outstanding timeout h seq t) := by
  constructor
  · rintro ⟨before, after, heq, hsent, hpong, htick⟩
    rcases concat_eq_append_cons.1 heq with ⟨-, -, hx⟩ | ⟨rest, rfl, rfl⟩
    · cases hx
      exact Or.inl ⟨rfl, rfl⟩
    · simp only [List.mem_append, not_or, List.mem_singleton] at hsent hpong htick
      refine Or.inr ⟨?_, before, rest, rfl, fun t' => (hsent t').1, hpong.1,
        fun now' hnow' => htick now' (Or.inl hnow')⟩
      rintro rfl
      exact (hsent t').2 rfl
  · rintro (⟨rfl, rfl⟩ | ⟨hne, before, rest, rfl, hsent, hpong, htick⟩)
    · exact ⟨h, [], rfl, by simp, by simp, by simp⟩
    · refine ⟨before, rest ++ [.sent seq' t'], by simp, ?_, ?_, ?_⟩
      · intro t''
        simp [hsent t'', hne]
      · simpa using hpong
      · simpa using htick

lemma outstanding_pong :
    Outstanding timeout (h ++ [.pong seq']) seq t ↔ seq ≠ seq' ∧ Outstanding timeout h seq t := by
  constructor
  · rintro ⟨before, after, heq, hsent, hpong, htick⟩
    rcases concat_eq_append_cons.1 heq with ⟨-, -, hx⟩ | ⟨rest, rfl, rfl⟩
    · cases hx
    · simp only [List.mem_append, not_or, List.mem_singleton] at hsent hpong htick
      refine ⟨?_, before, rest, rfl, fun t' => (hsent t').1, hpong.1,
        fun now' hnow' => htick now' (Or.inl hnow')⟩
      rintro rfl
      exact hpong.2 rfl
  · rintro ⟨hne, before, rest, rfl, hsent, hpong, htick⟩
    refine ⟨before, rest ++ [.pong seq'], by simp, ?_, ?_, ?_⟩
    · simpa using hsent
    · simp [hpong, hne]
    · simpa using htick

lemma Stray.not_outstanding (hs : Stray timeout h seq) : ¬Outstanding timeout h seq t := by
  rintro ⟨before, after, heq, hsent, hpong, htick⟩
  cases hs with
  | unknown hnone => exact hnone t (by rw [heq]; simp)
  | @duplicate before' after' heq' hnone =>
    grind [List.append_eq_append_iff]
  | @late before' middle after' t' now heq' hwait hnone =>
    rcases List.append_eq_append_iff.1 (heq.symm.trans heq') with
      ⟨inner, -, hrest⟩ | ⟨inner, -, hrest⟩
    · grind
    · cases inner with
      | nil =>
        grind
      | cons x inner =>
        grind

/-! ### The count, as the history grows -/

lemma expiredAt_concat {x : Happening} {i : ℕ} (hi : i < h.length) :
    expiredAt timeout (h ++ [x]) i = expiredAt timeout h i := by
  rw [expiredAt, expiredAt, List.getElem?_append_left hi, List.take_append_of_le_length hi.le]

lemma matchedAt_concat {x : Happening} {i : ℕ} (hi : i < h.length) :
    MatchedAt timeout (h ++ [x]) i ↔ MatchedAt timeout h i := by
  rw [MatchedAt, MatchedAt, List.getElem?_append_left hi, List.take_append_of_le_length hi.le]

lemma matchedAt_last {x : Happening} :
    MatchedAt timeout (h ++ [x]) h.length ↔
      ∃ seq t, x = .pong seq ∧ Outstanding timeout h seq t := by
  rw [MatchedAt, List.getElem?_concat_length, List.take_left]
  simp only [Option.some.injEq]

lemma lt_length_of_matchedAt {i : ℕ} (hm : MatchedAt timeout h i) : i < h.length := by
  obtain ⟨seq, t, hi, -⟩ := hm
  exact (List.getElem?_eq_some_iff.1 hi).1

lemma missedSince_concat {x : Happening} (hx : ¬MatchedAt timeout (h ++ [x]) h.length) :
    missedSince timeout (h ++ [x]) =
      missedSince timeout h + expiredAt timeout (h ++ [x]) h.length := by
  classical
  have hsame : ∀ i ≤ h.length, (∀ j, MatchedAt timeout (h ++ [x]) j → j < i) ↔
      ∀ j, MatchedAt timeout h j → j < i := by
    intro i _
    refine forall_congr' fun j => ?_
    rcases Nat.lt_trichotomy j h.length with hj | rfl | hj
    · rw [matchedAt_concat hj]
    · exact ⟨fun _ hm => absurd (lt_length_of_matchedAt hm) (lt_irrefl _),
        fun _ hm => absurd hm hx⟩
    · refine ⟨fun _ hm => absurd (lt_length_of_matchedAt hm) (by omega), fun _ hm => ?_⟩
      have := lt_length_of_matchedAt hm
      rw [List.length_append, List.length_singleton] at this
      omega
  have hlast : ∀ j, MatchedAt timeout (h ++ [x]) j → j < h.length :=
    (hsame h.length le_rfl).2 fun j => lt_length_of_matchedAt
  rw [missedSince, missedSince, List.length_append, List.length_singleton, Finset.range_add_one,
    Finset.filter_insert, if_pos hlast, Finset.sum_insert (by simp), add_comm]
  congr 1
  refine Finset.sum_congr (Finset.filter_congr fun i hi => ?_) fun i hi => ?_
  · exact hsame i (Finset.mem_range.1 hi).le
  · exact expiredAt_concat (Finset.mem_range.1 (Finset.mem_filter.1 hi).1)

lemma missedSince_matched {x : Happening} (hx : MatchedAt timeout (h ++ [x]) h.length) :
    missedSince timeout (h ++ [x]) = 0 := by
  grind [missedSince, Finset.filter_eq_empty_iff, Finset.sum_empty, Finset.mem_range,
    List.length_append, List.length_singleton]

lemma missedSince_nil : missedSince timeout [] = 0 := by
  classical
  rw [missedSince, List.length_nil, Finset.range_zero, Finset.filter_empty, Finset.sum_empty]

lemma missedSince_tick :
    missedSince timeout (h ++ [.tick now]) =
      missedSince timeout h + (Expired timeout h now).ncard := by
  have hnot : ¬MatchedAt timeout (h ++ [.tick now]) h.length := by
    rw [matchedAt_last]
    rintro ⟨_, _, heq, -⟩
    cases heq
  rw [missedSince_concat hnot, expiredAt, List.getElem?_concat_length, List.take_left]

lemma missedSince_sent : missedSince timeout (h ++ [.sent seq t]) = missedSince timeout h := by
  grind [MatchedAt, matchedAt_last, missedSince_concat, expiredAt, List.getElem?_concat_length]

lemma missedSince_stray (hs : ∀ t, ¬Outstanding timeout h seq t) :
    missedSince timeout (h ++ [.pong seq]) = missedSince timeout h := by
  grind [MatchedAt, matchedAt_last, missedSince_concat, expiredAt, List.getElem?_concat_length]

lemma missedSince_pong (ho : Outstanding timeout h seq t) :
    missedSince timeout (h ++ [.pong seq]) = 0 :=
  missedSince_matched (matchedAt_last.2 ⟨seq, t, rfl, ho⟩)

/-! ### Probes that are answered in time -/

lemma Timely.of_append {h' : List Happening} (ht : Timely timeout (h ++ h')) :
    Timely timeout h := by
  intro before middle after seq t now heq hwait
  refine ht before middle (after ++ h') seq t now ?_ hwait
  rw [heq]
  simp

lemma Timely.expired (ht : Timely timeout (h ++ [.tick now])) : Expired timeout h now = ∅ := by
  rw [Set.eq_empty_iff_forall_notMem]
  rintro seq ⟨t, ⟨before, after, rfl, -, hpong, -⟩, hwait⟩
  exact hpong (ht before after [] seq t now (by simp) hwait)

/-! ## The loop over `pending` -/

def isExpired (timeout now : ℤ) (pending : AList fun _ : UInt64 => ℤ) (seq : UInt64) : Bool :=
  match pending.lookup seq with
  | none => false
  | some sent => timeout ≤ now - sent

lemma expireOne_eq (acc : (AList fun _ : UInt64 => ℤ) × ℕ) :
    expireOne timeout now acc seq =
      if isExpired timeout now acc.1 seq then (acc.1.erase seq, acc.2 + 1) else acc := by
  rw [expireOne, isExpired]
  cases acc.1.lookup seq with
  | none => rfl
  | some sent => by_cases hw : now - sent < timeout <;> simp [hw]

/-- **What the loop does**, whatever the order: it takes out the probes that have waited too long,
and counts them. -/
lemma expire_foldl (order : List UInt64) : ∀ (m : AList fun _ : UInt64 => ℤ) (n : ℕ),
    order.Nodup →
    (order.foldl (expireOne timeout now) (m, n)).2 = n + order.countP (isExpired timeout now m) ∧
    ∀ seq, (order.foldl (expireOne timeout now) (m, n)).1.lookup seq =
      if seq ∈ order ∧ isExpired timeout now m seq = true then none else m.lookup seq := by
  induction order with
  | nil => simp
  | cons seq₀ order ih =>
    intro m n hnodup
    obtain ⟨hnot, hnodup⟩ := List.nodup_cons.1 hnodup
    rw [List.foldl_cons, expireOne_eq]
    by_cases hexp : isExpired timeout now m seq₀ = true
    · rw [if_pos hexp]
      obtain ⟨hcount, hlook⟩ := ih (m.erase seq₀) (n + 1) hnodup
      -- the entry that is gone is not looked at again
      have hother : ∀ seq, seq ≠ seq₀ → (m.erase seq₀).lookup seq = m.lookup seq :=
        fun seq hne => AList.lookup_erase_ne hne
      have hsame : ∀ seq, seq ≠ seq₀ →
          isExpired timeout now (m.erase seq₀) seq = isExpired timeout now m seq :=
        fun seq hne => by rw [isExpired, isExpired, hother seq hne]
      constructor
      · have hrest : order.countP (isExpired timeout now (m.erase seq₀)) =
            order.countP (isExpired timeout now m) :=
          List.countP_congr fun seq hseq => by rw [hsame seq fun heq => hnot (heq ▸ hseq)]
        rw [hcount, List.countP_cons_of_pos hexp, hrest]
        omega
      · intro seq
        rw [hlook]
        by_cases hseq : seq = seq₀
        · subst hseq
          rw [if_neg (fun hand => hnot hand.1), AList.lookup_erase,
            if_pos ⟨List.mem_cons_self, hexp⟩]
        · grind
    · grind

/-! ## Whole runs -/

/-- The stream with its history and with what `sendProbe` has returned. -/
structure Session where
  live : Liveness
  history : List Happening
  outcomes : List Outcome

/-- `sendProbe` at a reading of the clock, with the order in which it finds the map; `handlePong`
with any number. -/
inductive Event
  | probe (now : ℤ) (order : List UInt64)
  | pong (now : ℤ) (seq : UInt64)

namespace Session

def start (cfg : Config) : Session := ⟨Liveness.new cfg, [], []⟩

def sentBy (now : ℤ) : Outcome → List Happening
  | .unhealthy _ => []
  | .enqueue msg => [.sent msg.seq now]

def step (s : Session) : Event → Session
  | .probe now order =>
    if order.Perm s.live.pending.keys then
      let probed := s.live.sendProbe now order
      ⟨probed.live, s.history ++ .tick now :: sentBy now probed.outcome,
        s.outcomes ++ [probed.outcome]⟩
    else s
  | .pong now seq =>
    { s with live := (s.live.handlePong now seq).1, history := s.history ++ [.pong seq] }

/-- The map holds the outstanding probes, and the counter what was missed. -/
structure Ok (cfg : Config) (s : Session) : Prop where
  config : s.live.cfg = cfg.withDefaults
  pending : ∀ seq t, s.live.pending.lookup seq = some t ↔
    Outstanding cfg.withDefaults.timeout s.history seq t
  failures : s.live.failures = missedSince cfg.withDefaults.timeout s.history

variable {cfg : Config} {s : Session} {order : List UInt64}

lemma ok_start (cfg : Config) : (start cfg).Ok cfg where
  config := rfl
  pending _ _ := ⟨nofun, fun ho => absurd ho not_outstanding_nil⟩
  failures := missedSince_nil.symm

lemma Ok.countP_expired (hok : s.Ok cfg) (horder : order.Perm s.live.pending.keys) (now : ℤ) :
    order.countP (isExpired s.live.cfg.timeout now s.live.pending) =
      (Expired cfg.withDefaults.timeout s.history now).ncard := by
  have hnodup : order.Nodup := horder.nodup_iff.2 s.live.pending.keys_nodup
  have hset : Expired cfg.withDefaults.timeout s.history now =
      ((order.filter (isExpired s.live.cfg.timeout now s.live.pending)).toFinset : Set UInt64) := by
    ext seq
    rw [Finset.mem_coe, List.mem_toFinset, List.mem_filter, isExpired, hok.config]
    constructor
    · rintro ⟨t, ho, hwait⟩
      have hlook := (hok.pending seq t).2 ho
      refine ⟨horder.mem_iff.2 (AList.mem_keys.1 (AList.lookup_isSome.1 (by rw [hlook]; rfl))), ?_⟩
      rw [hlook]
      simpa using hwait
    · rintro ⟨-, hwait⟩
      cases hlook : s.live.pending.lookup seq with
      | none =>
        rw [hlook] at hwait
        cases hwait
      | some t =>
        rw [hlook] at hwait
        exact ⟨t, (hok.pending seq t).1 hlook, by simpa using hwait⟩
  rw [hset, Set.ncard_coe_finset, List.toFinset_card_of_nodup (hnodup.filter _),
    List.countP_eq_length_filter]

lemma Ok.lookup_expire (hok : s.Ok cfg) (horder : order.Perm s.live.pending.keys) (now : ℤ)
    (seq : UInt64) (t : ℤ) :
    (expire s.live.cfg.timeout now s.live.pending order).1.lookup seq = some t ↔
      Outstanding cfg.withDefaults.timeout (s.history ++ [.tick now]) seq t := by
  have hnodup : order.Nodup := horder.nodup_iff.2 s.live.pending.keys_nodup
  rw [expire, (expire_foldl order s.live.pending 0 hnodup).2, outstanding_tick, ← hok.pending]
  constructor
  · intro hlook
    split_ifs at hlook with hexp
    refine ⟨hlook, ?_⟩
    by_contra hwait
    have hmem := horder.mem_iff.2 (AList.mem_keys.1 (AList.lookup_isSome.1 (by rw [hlook]; rfl)))
    refine hexp ⟨hmem, ?_⟩
    rw [isExpired, hlook, hok.config]
    simpa using hwait
  · grind [isExpired, OlcRtc.Control.Session.Ok.config]

lemma Ok.missed_expire (hok : s.Ok cfg) (horder : order.Perm s.live.pending.keys) (now : ℤ) :
    s.live.failures + (expire s.live.cfg.timeout now s.live.pending order).2 =
      missedSince cfg.withDefaults.timeout (s.history ++ [.tick now]) := by
  have hnodup : order.Nodup := horder.nodup_iff.2 s.live.pending.keys_nodup
  rw [expire, (expire_foldl order s.live.pending 0 hnodup).1, hok.countP_expired horder,
    missedSince_tick, hok.failures, Nat.zero_add]

/-- **The verdict of one tick.** -/
lemma Ok.outcome_sendProbe (hok : s.Ok cfg) (horder : order.Perm s.live.pending.keys) (now : ℤ) :
    (∃ missed, (s.live.sendProbe now order).outcome = .unhealthy missed) ↔
      cfg.withDefaults.failures ≤
        missedSince cfg.withDefaults.timeout (s.history ++ [.tick now]) := by
  rw [← hok.missed_expire horder, ← hok.config, Liveness.outcome_sendProbe]
  split_ifs with hbad
  · exact iff_of_true ⟨_, rfl⟩ hbad
  · exact iff_of_false (by rintro ⟨_, heq⟩; cases heq) hbad

lemma Ok.step_probe (hok : s.Ok cfg) (horder : order.Perm s.live.pending.keys) (now : ℤ) :
    Ok cfg ⟨(s.live.sendProbe now order).live,
      s.history ++ .tick now :: sentBy now (s.live.sendProbe now order).outcome,
      s.outcomes ++ [(s.live.sendProbe now order).outcome]⟩ := by
  have hpending := hok.lookup_expire horder now
  have hmissed := hok.missed_expire horder now
  rw [Liveness.outcome_sendProbe, Liveness.live_sendProbe]
  split_ifs with hbad
  · exact ⟨hok.config, hpending, hmissed⟩
  · have hhistory : s.history ++ .tick now :: sentBy now
        (.enqueue ⟨protoVersion, .ping, s.live.nextSeq + 1, now⟩) =
        (s.history ++ [.tick now]) ++ [.sent (s.live.nextSeq + 1) now] := by
      simp [sentBy]
    rw [hhistory]
    refine ⟨hok.config, fun seq t => ?_, hmissed.trans missedSince_sent.symm⟩
    rw [outstanding_sent, ← hpending]
    by_cases hseq : seq = s.live.nextSeq + 1
    · rw [hseq, AList.lookup_insert, Option.some.injEq]
      simp [eq_comm]
    · rw [AList.lookup_insert_ne hseq]
      simp [hseq]

lemma Ok.step_pong (hok : s.Ok cfg) (now : ℤ) (seq : UInt64) :
    Ok cfg { s with
      live := (s.live.handlePong now seq).1, history := s.history ++ [.pong seq] } := by
  cases hlook : s.live.pending.lookup seq with
  | none =>
    have hnone : ∀ t, ¬Outstanding cfg.withDefaults.timeout s.history seq t := by
      intro t ho
      cases hlook.symm.trans ((hok.pending seq t).2 ho)
    rw [Liveness.handlePong_of_none hlook]
    refine ⟨hok.config, fun seq' t => ?_, hok.failures.trans (missedSince_stray hnone).symm⟩
    rw [outstanding_pong, ← hok.pending]
    refine ⟨fun hlook' => ⟨?_, hlook'⟩, And.right⟩
    rintro rfl
    cases hlook.symm.trans hlook'
  | some sent =>
    have ho := (hok.pending seq sent).1 hlook
    rw [Liveness.handlePong_of_some hlook]
    refine ⟨hok.config, fun seq' t => ?_, (missedSince_pong ho).symm⟩
    rw [outstanding_pong, ← hok.pending]
    by_cases hseq : seq' = seq
    · rw [hseq, AList.lookup_erase]
      simp
    · rw [AList.lookup_erase_ne hseq]
      simp [hseq]

lemma Ok.step (hok : s.Ok cfg) (e : Event) : (s.step e).Ok cfg := by
  cases e with
  | probe now order =>
    show Ok cfg (if order.Perm s.live.pending.keys then _ else s)
    split_ifs with horder
    · exact hok.step_probe horder now
    · exact hok
  | pong now seq => exact hok.step_pong now seq

lemma ok_run (cfg : Config) (events : List Event) : (run step (start cfg) events).Ok cfg :=
  run_invariant_of_step step (I := Ok cfg) (fun _ e hok => hok.step e) (ok_start cfg) events

/-! ### Runs in which every probe is answered in time -/

/-- The counter stays at zero, and nothing is reported. -/
structure Healthy (s : Session) : Prop where
  failures : s.live.failures = 0
  outcomes : ∀ o ∈ s.outcomes, ∀ missed, o ≠ .unhealthy missed

lemma Healthy.step_probe (hok : s.Ok cfg) (hh : s.Healthy) (horder : order.Perm s.live.pending.keys)
    {now : ℤ} (ht : Timely cfg.withDefaults.timeout (s.history ++ [.tick now])) :
    (s.live.sendProbe now order).live.failures = 0 ∧
      ∀ missed, (s.live.sendProbe now order).outcome ≠ .unhealthy missed := by
  have hzero : s.live.failures + (expire s.live.cfg.timeout now s.live.pending order).2 = 0 := by
    rw [hok.missed_expire horder, missedSince_tick, ← hok.failures, hh.failures, ht.expired,
      Set.ncard_empty]
  have hgood : ¬s.live.cfg.failures ≤ ((0 : ℕ) : ℤ) := by
    rw [hok.config]
    exact not_le.2 cfg.failures_pos
  rw [Liveness.live_sendProbe, Liveness.outcome_sendProbe, hzero, if_neg hgood, if_neg hgood]
  exact ⟨rfl, fun _ => nofun⟩

lemma Healthy.step (hok : s.Ok cfg) (hh : s.Healthy) (e : Event)
    (ht : Timely cfg.withDefaults.timeout (s.step e).history) : (s.step e).Healthy := by
  cases e with
  | probe now order =>
    rw [Session.step] at ht ⊢
    split_ifs at ht ⊢ with horder
    · have ht' : Timely cfg.withDefaults.timeout (s.history ++ [.tick now]) := by
        have hsplit : Timely cfg.withDefaults.timeout ((s.history ++ [.tick now]) ++
            sentBy now (s.live.sendProbe now order).outcome) := by
          rw [List.append_assoc]
          exact ht
        exact hsplit.of_append
      obtain ⟨hfailures, houtcome⟩ := hh.step_probe hok horder ht'
      refine ⟨hfailures, fun o ho => ?_⟩
      rcases List.mem_append.1 ho with ho | ho
      · exact hh.outcomes o ho
      · rw [List.mem_singleton.1 ho]
        exact houtcome
    · exact hh
  | pong now seq =>
    refine ⟨?_, hh.outcomes⟩
    show (s.live.handlePong now seq).1.failures = 0
    cases hlook : s.live.pending.lookup seq with
    | none =>
      rw [Liveness.handlePong_of_none hlook]
      exact hh.failures
    | some sent => rw [Liveness.handlePong_of_some hlook]

lemma history_step (s : Session) (e : Event) : ∃ more, (s.step e).history = s.history ++ more := by
  cases e with
  | probe now order =>
    rw [Session.step]
    split_ifs
    · exact ⟨_, rfl⟩
    · exact ⟨[], (List.append_nil _).symm⟩
  | pong now seq => exact ⟨_, rfl⟩

lemma healthy_run (cfg : Config) (events : List Event)
    (ht : Timely cfg.withDefaults.timeout (run step (start cfg) events).history) :
    (run step (start cfg) events).Healthy := by
  induction events using List.reverseRecOn with
  | nil => exact ⟨rfl, nofun⟩
  | append_singleton events e ih =>
    rw [run_concat] at ht ⊢
    obtain ⟨more, hmore⟩ := history_step (run step (start cfg) events) e
    have ht' := ht
    rw [hmore] at ht'
    exact (ih ht'.of_append).step (ok_run cfg events) e ht

/-- **The verdict.**  After any run: a tick returns `ErrUnhealthy` exactly if the probes given up
since the last matching pong, this tick included, are at least `Failures`; a pong that is unknown,
duplicated or late changes neither the state nor the count; and if every probe was answered before
the first tick that would have given it up, `ErrUnhealthy` was never returned.  The clock may even
go backwards. -/
theorem verdict_exact (cfg : Config) (events : List Event) (s : Session)
    (hs : s = run step (start cfg) events) :
    (∀ now order, order.Perm s.live.pending.keys →
      ((∃ missed, (s.live.sendProbe now order).outcome = .unhealthy missed) ↔
        cfg.withDefaults.failures ≤
          missedSince cfg.withDefaults.timeout (s.history ++ [.tick now]))) ∧
    (∀ now seq, Stray cfg.withDefaults.timeout s.history seq →
      (s.live.handlePong now seq).1 = s.live ∧
        missedSince cfg.withDefaults.timeout (s.history ++ [.pong seq]) =
          missedSince cfg.withDefaults.timeout s.history) ∧
    (Timely cfg.withDefaults.timeout s.history →
      ∀ o ∈ s.outcomes, ∀ missed, o ≠ .unhealthy missed) := by
  subst hs
  have hok := ok_run cfg events
  refine ⟨fun now order horder => hok.outcome_sendProbe horder now, fun now seq hstray => ?_,
    fun ht => (healthy_run cfg events ht).outcomes⟩
  have hnone : ∀ t, ¬Outstanding _ _ seq t := fun t => hstray.not_outstanding
  refine ⟨?_, missedSince_stray hnone⟩
  cases hlook : (run step (start cfg) events).live.pending.lookup seq with
  | none => rw [Liveness.handlePong_of_none hlook]
  | some sent => exact absurd ((hok.pending seq sent).1 hlook) (hnone sent)

/-- Two probes are given up and a forged pong comes in between: the stream is unhealthy. -/
theorem verdict_exact_forged :
    let s := run step (start ⟨10, 15, 2, true, true, true⟩)
      [.probe 0 [], .probe 10 [1], .probe 20 [1, 2], .pong 25 7]
    (s.live.sendProbe 30 [2, 3]).outcome = .unhealthy 2 ∧
      2 ≤ missedSince 15 (s.history ++ [.tick 30]) := by
  intro s
  have hverdict := verdict_exact ⟨10, 15, 2, true, true, true⟩
    [.probe 0 [], .probe 10 [1], .probe 20 [1, 2], .pong 25 7] s rfl
  have horder : [2, 3].Perm s.live.pending.keys := by decide +kernel
  have houtcome : (s.live.sendProbe 30 [2, 3]).outcome = .unhealthy 2 := by decide +kernel
  have hmissed : (2 : ℤ) ≤ missedSince 15 (s.history ++ [.tick 30]) :=
    (hverdict.1 30 [2, 3] horder).1 ⟨2, houtcome⟩
  exact ⟨houtcome, by exact_mod_cast hmissed⟩

end Session

end OlcRtc.Control
