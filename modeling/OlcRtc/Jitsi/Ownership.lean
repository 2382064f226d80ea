import OlcRtc.Lib.Steps

/-!
# Who closes a joined session

A reconnect joins the conference with a new session and publishes it with `installSession`, which
also closes the session it replaces.  `Close` closes whatever is installed.  Neither takes a lock:
`installSession` reads `closed`, swaps the new session in, reads `closed` again and, if it is set,
swaps out what it finds and closes that; `Close` sets `closed`, reads the installed session, closes
it, and swaps in nothing.

`Handover` is the two of them.  A run is a list that says whose turn it is.

The account is simple (`owed`).  The new session is owed one close: by `installSession` until it is
swapped in, by whoever finds it installed from then on, and by whoever has found it until it is
closed.  Two steps can upset it.  If `Close` clears the new session away after it had read another
one, nobody is left to close it; if `installSession` takes it out while `Close` has it in hand, both
close it.  **`joined_closed_once_iff`** says that nothing else goes wrong, and
**`joined_leaked_and_closed_twice`** that both happen.
-/

namespace OlcRtc.Jitsi

inductive Side
  | install
  | close
deriving DecidableEq, Repr

/-- Where `installSession` stands; `setJSession` is a swap and then a signal. -/
inductive InstallPc
  | checkFirst
  | closeJoined
  | swapIn
  | signalIn (old : Option ℕ)
  | closeOld (old : Option ℕ)
  | checkAgain
  | swapOut
  | signalOut (current : Option ℕ)
  | closeCurrent (current : Option ℕ)
  | returned (installed : Bool)
deriving DecidableEq, Repr

def InstallPc.early : InstallPc → Bool
  | .checkFirst | .closeJoined | .swapIn => true
  | _ => false

def InstallPc.between : InstallPc → Bool
  | .signalIn _ | .closeOld _ | .checkAgain | .swapOut => true
  | _ => false

def InstallPc.replaced : InstallPc → Option ℕ
  | .signalIn old | .closeOld old => old
  | _ => none

/-- Where `Close` stands; what it has loaded is in a local variable. -/
inductive ClosePc
  | claim
  | load
  | closeLoaded (loaded : Option ℕ)
  | clear (loaded : Option ℕ)
  | signal
  | returned
deriving DecidableEq, Repr

/-- The session that `Close` has read and not cleared away yet. -/
def ClosePc.inHand : ClosePc → Option ℕ
  | .closeLoaded loaded => loaded
  | .clear loaded => loaded
  | _ => none

def ClosePc.atClear : ClosePc → Bool
  | .clear _ => true
  | _ => false

def ClosePc.cleared : ClosePc → Bool
  | .signal | .returned => true
  | _ => false

/-- `Close` has not read the installed session yet. -/
def ClosePc.unread : ClosePc → Bool
  | .claim | .load => true
  | _ => false

/-- The session that `Close` is about to close. -/
def ClosePc.pending : ClosePc → Option ℕ
  | .closeLoaded loaded => loaded
  | _ => none

/-- The engine session with both sides at work.  Sessions of the conference are numbered; `joined`
is the new one.  `ready` says whether the channel `jSessReady` is closed, and `closes` are the calls
of `Close` on sessions of the conference. -/
structure Handover where
  joined : ℕ
  closed : Bool
  jSess : Option ℕ
  ready : Bool
  closes : List (Side × ℕ)
  install : InstallPc
  closing : ClosePc
deriving DecidableEq, Repr

namespace Handover

def start (joined : ℕ) (previous : Option ℕ) : Handover :=
  ⟨joined, false, previous, previous.isSome, [], .checkFirst, .claim⟩

def closeSession (s : Handover) (side : Side) : Option ℕ → List (Side × ℕ)
  | none => s.closes
  | some sess => s.closes ++ [(side, sess)]

/-- The next step of `installSession`. -/
def stepInstall (s : Handover) : Handover :=
  match s.install with
  | .checkFirst => { s with install := if s.closed then .closeJoined else .swapIn }
  | .closeJoined =>
    { s with closes := s.closeSession .install (some s.joined), install := .returned false }
  | .swapIn => { s with jSess := some s.joined, install := .signalIn s.jSess }
  | .signalIn old => { s with ready := true, install := .closeOld old }
  | .closeOld old =>
    { s with
      closes := s.closeSession .install (if old = some s.joined then none else old)
      install := .checkAgain }
  | .checkAgain => { s with install := if s.closed then .swapOut else .returned true }
  | .swapOut => { s with jSess := none, install := .signalOut s.jSess }
  | .signalOut current => { s with ready := false, install := .closeCurrent current }
  | .closeCurrent current =>
    { s with closes := s.closeSession .install current, install := .returned false }
  | .returned _ => s

/-- The next step of `Close`. -/
def stepClose (s : Handover) : Handover :=
  match s.closing with
  | .claim => { s with closed := true, closing := .load }
  | .load => { s with closing := .closeLoaded s.jSess }
  | .closeLoaded loaded =>
    { s with closes := s.closeSession .close loaded, closing := .clear loaded }
  | .clear _ => { s with jSess := none, closing := .signal }
  | .signal => { s with ready := false, closing := .returned }
  | .returned => s

def step (s : Handover) : Side → Handover
  | .install => s.stepInstall
  | .close => s.stepClose

def Returned (s : Handover) : Prop :=
  (∃ installed, s.install = .returned installed) ∧ s.closing = .returned

def closersOf (s : Handover) (sess : ℕ) : List Side :=
  (s.closes.filter fun c => c.2 = sess).map Prod.fst

/-- `Close` does not clear away a new session that it has not read, and `installSession` does not
take out a new session that `Close` has in hand. -/
def Orderly (s : Handover) : Side → Prop
  | .install => s.install = .swapOut → s.jSess = some s.joined → s.closing.inHand ≠ some s.joined
  | .close => s.closing.atClear = true → s.jSess = some s.joined →
      s.closing.inHand = some s.joined

instance decidableOrderly (s : Handover) : ∀ side, Decidable (s.Orderly side)
  | .install => inferInstanceAs (Decidable (s.install = .swapOut → s.jSess = some s.joined →
      s.closing.inHand ≠ some s.joined))
  | .close => inferInstanceAs (Decidable (s.closing.atClear = true → s.jSess = some s.joined →
      s.closing.inHand = some s.joined))

/-! ## The account -/

/-- What `installSession` still has to close or to hand over. -/
def owedByInstall (s : Handover) : ℕ :=
  match s.install with
  | .checkFirst | .closeJoined | .swapIn => 1
  | .signalOut current | .closeCurrent current => if current = some s.joined then 1 else 0
  | _ => 0

/-- What `Close` has read and not closed yet. -/
def owedByClose (s : Handover) : ℕ :=
  match s.closing with
  | .closeLoaded loaded => if loaded = some s.joined then 1 else 0
  | _ => 0

/-- A new session that is installed and that `Close` does not have in hand. -/
def owedByNobody (s : Handover) : ℕ :=
  if s.jSess = some s.joined ∧ s.closing.inHand ≠ some s.joined then 1 else 0

/-- The closes of the new session, made and to come. -/
def owed (s : Handover) : ℕ :=
  (s.closersOf s.joined).length + s.owedByInstall + s.owedByClose + s.owedByNobody

variable {s : Handover}

lemma length_closers (s : Handover) (side : Side) (sess : Option ℕ) :
    ((s.closeSession side sess).filter fun c => c.2 = s.joined).length =
      (s.closes.filter fun c => c.2 = s.joined).length + if sess = some s.joined then 1 else 0 := by
  cases sess with
  | none => rfl
  | some sess => by_cases heq : sess = s.joined <;> simp [closeSession, heq]

/-- Where the new session cannot be yet. -/
structure Fresh (s : Handover) : Prop where
  notInstalled : s.jSess ≠ some s.joined
  notInHand : s.closing.inHand ≠ some s.joined

lemma joined_step (s : Handover) (side : Side) : (s.step side).joined = s.joined := by
  cases side with
  | install =>
    show s.stepInstall.joined = _
    unfold stepInstall
    split <;> rfl
  | close =>
    show s.stepClose.joined = _
    unfold stepClose
    split <;> rfl

-- What the account of a state is, in terms of where both sides are.
attribute [local simp] owed owedByInstall owedByClose owedByNobody closersOf length_closers

/-- **An orderly step of `installSession` keeps the account.** -/
lemma owed_stepInstall (hfresh : s.install.early = true → s.Fresh) (horderly : s.Orderly .install) :
    s.stepInstall.owed = s.owed := by
  cases hpc : s.install with
  | checkFirst | checkAgain => cases hclosed : s.closed <;> simp [stepInstall, hpc, hclosed]
  | closeJoined => simp [stepInstall, hpc]
  | closeCurrent current => simp [stepInstall, hpc]
  | signalIn old | signalOut old | returned installed => simp [stepInstall, hpc]
  | swapIn =>
    obtain ⟨hinstalled, hhand⟩ := hfresh (by rw [hpc]; rfl)
    simp [stepInstall, hpc, hinstalled, hhand]
    omega
  | closeOld old => by_cases hold : old = some s.joined <;> simp [stepInstall, hpc, hold]
  | swapOut =>
    have hhand := horderly hpc
    by_cases hinstalled : s.jSess = some s.joined
    · simp [stepInstall, hpc, hinstalled, hhand hinstalled]
      omega
    · simp [stepInstall, hpc, hinstalled]

attribute [local simp] ClosePc.inHand

/-- **An orderly step of `Close` keeps the account.** -/
lemma owed_stepClose (horderly : s.Orderly .close) : s.stepClose.owed = s.owed := by
  cases hpc : s.closing with
  | claim | signal | returned => simp [stepClose, hpc]
  | load => by_cases hinstalled : s.jSess = some s.joined <;> simp [stepClose, hpc, hinstalled]
  | closeLoaded loaded =>
    by_cases hloaded : loaded = some s.joined
    · simp [stepClose, hpc, hloaded]
      omega
    · simp [stepClose, hpc, hloaded]
  | clear loaded =>
    have hhand := horderly (by rw [hpc]; rfl)
    rw [hpc] at hhand
    by_cases hinstalled : s.jSess = some s.joined
    · have hloaded : loaded = some s.joined := hhand hinstalled
      simp [stepClose, hpc, hinstalled, hloaded]
    · simp [stepClose, hpc, hinstalled]

/-- A step that is not orderly loses a close or adds one, and the new session is gone. -/
lemma owed_of_not_orderly {side : Side} (h : ¬s.Orderly side) :
    s.jSess = some s.joined ∧ (s.step side).owed ≠ s.owed ∧ (s.step side).jSess = none ∧
      (s.install.early = false → (s.step side).install.early = false) := by
  cases side with
  | install =>
    obtain ⟨hpc, hinstalled, hhand⟩ : s.install = .swapOut ∧ s.jSess = some s.joined ∧
        s.closing.inHand = some s.joined := by
      simpa only [Orderly, Classical.not_imp, not_not, ne_eq] using h
    refine ⟨hinstalled, ?_⟩
    show s.stepInstall.owed ≠ s.owed ∧ s.stepInstall.jSess = none ∧
      (_ → s.stepInstall.install.early = false)
    rw [stepInstall, hpc]
    refine ⟨?_, rfl, fun _ => rfl⟩
    simp [-ClosePc.inHand, hpc, hinstalled, hhand]
  | close =>
    obtain ⟨hclear, hinstalled, hhand⟩ : s.closing.atClear = true ∧ s.jSess = some s.joined ∧
        s.closing.inHand ≠ some s.joined := by
      simpa only [Orderly, Classical.not_imp] using h
    cases hpc : s.closing with
    | clear loaded =>
      rw [hpc] at hhand
      have hloaded : loaded ≠ some s.joined := hhand
      refine ⟨hinstalled, ?_⟩
      show s.stepClose.owed ≠ s.owed ∧ s.stepClose.jSess = none ∧
        (_ → s.stepClose.install.early = false)
      rw [stepClose, hpc]
      refine ⟨?_, rfl, id⟩
      simp [hpc, hinstalled, hloaded]
    | _ =>
      rw [hpc] at hclear
      cases hclear

/-! ## What holds in every state -/

/-- The previous session is closed, or about to be closed by a side that has it, or installed and
not read by `Close` yet. -/
def Accounted (s : Handover) (previous : ℕ) : Prop :=
  previous ∈ s.closes.map Prod.snd ∨ s.closing.pending = some previous ∨
    s.install.replaced = some previous ∨ s.jSess = some previous ∧ s.closing.unread = true

structure Sound (previous : Option ℕ) (s : Handover) : Prop where
  fresh : s.install.early = true → s.Fresh
  between : s.install.between = true → s.jSess = none ∨ s.jSess = some s.joined
  cleared : s.closing.cleared = true → s.jSess = none ∨ s.install.between = true
  closed : s.closing ≠ .claim → s.closed = true
  previous : ∀ sess, previous = some sess → s.Accounted sess

lemma mem_closeSession {sess : ℕ} {side : Side} {x : Option ℕ} :
    sess ∈ (s.closeSession side x).map Prod.snd ↔ sess ∈ s.closes.map Prod.snd ∨ x = some sess := by
  cases x with
  | none => simp [closeSession]
  | some x => simp [closeSession, eq_comm]

lemma Accounted.stepInstall {previous : ℕ} (h : s.Accounted previous) (hne : previous ≠ s.joined)
    (hbetween : s.install.between = true → s.jSess = none ∨ s.jSess = some s.joined) :
    s.stepInstall.Accounted previous := by
  obtain ⟨joined, closed, jSess, ready, closes, install, closing⟩ := s
  rcases h with hmem | hpending | hreplaced | ⟨hinstalled, hunread⟩
  · left
    cases install with
    | closeJoined => exact (mem_closeSession (x := some joined)).2 (Or.inl hmem)
    | closeOld old => exact mem_closeSession.2 (Or.inl hmem)
    | closeCurrent current => exact mem_closeSession.2 (Or.inl hmem)
    | _ => exact hmem
  · right
    left
    cases install <;> exact hpending
  · cases install with
    | signalIn old => exact Or.inr (Or.inr (Or.inl hreplaced))
    | closeOld old =>
      obtain rfl : old = some previous := hreplaced
      have hother : some previous ≠ some joined := fun heq => hne (Option.some.inj heq)
      exact Or.inl (mem_closeSession.2 (Or.inr (if_neg hother)))
    | _ => cases hreplaced
  · cases install with
    | swapIn => exact Or.inr (Or.inr (Or.inl hinstalled))
    | swapOut =>
      -- behind the first swap it is not installed any more
      rcases hbetween rfl with hnone | hjoined
      · exact absurd (hinstalled.symm.trans hnone) nofun
      · exact absurd (Option.some.inj (hinstalled.symm.trans hjoined)) hne
    | _ => exact Or.inr (Or.inr (Or.inr ⟨hinstalled, hunread⟩))

lemma Accounted.stepClose {previous : ℕ} (h : s.Accounted previous) :
    s.stepClose.Accounted previous := by
  obtain ⟨joined, closed, jSess, ready, closes, install, closing⟩ := s
  rcases h with hmem | hpending | hreplaced | ⟨hinstalled, hunread⟩
  · left
    cases closing with
    | closeLoaded loaded => exact mem_closeSession.2 (Or.inl hmem)
    | _ => exact hmem
  · cases closing with
    | closeLoaded loaded => exact Or.inl (mem_closeSession.2 (Or.inr hpending))
    | _ => cases hpending
  · right
    right
    left
    cases closing <;> exact hreplaced
  · cases closing with
    | claim => exact Or.inr (Or.inr (Or.inr ⟨hinstalled, rfl⟩))
    | load => exact Or.inr (Or.inl hinstalled)
    | _ => cases hunread

variable {previous : Option ℕ}

lemma Sound.fresh_stepInstall (h : s.Sound previous)
    (hearly : s.stepInstall.install.early = true) : s.stepInstall.Fresh := by
  have hfresh := h.fresh
  obtain ⟨joined, closed, jSess, ready, closes, install, closing⟩ := s
  cases install with
  | checkFirst => exact ⟨(hfresh rfl).notInstalled, (hfresh rfl).notInHand⟩
  | checkAgain => cases closed <;> cases hearly
  | returned installed => cases hearly
  | _ => cases hearly

lemma Sound.between_stepInstall (h : s.Sound previous)
    (hbetween : s.stepInstall.install.between = true) :
    s.stepInstall.jSess = none ∨ s.stepInstall.jSess = some s.stepInstall.joined := by
  have hold := h.between
  obtain ⟨joined, closed, jSess, ready, closes, install, closing⟩ := s
  cases install with
  | checkFirst => cases closed <;> cases hbetween
  | swapIn => exact Or.inr rfl
  | signalIn old => exact hold rfl
  | closeOld old => exact hold rfl
  | checkAgain => exact hold rfl
  | _ => cases hbetween

lemma Sound.cleared_stepInstall (h : s.Sound previous)
    (hcleared : s.stepInstall.closing.cleared = true) :
    s.stepInstall.jSess = none ∨ s.stepInstall.install.between = true := by
  have hold := h.cleared
  have hclosed := h.closed
  obtain ⟨joined, closed, jSess, ready, closes, install, closing⟩ := s
  cases install with
  | swapIn => exact Or.inr rfl
  | signalIn old => exact Or.inr rfl
  | closeOld old => exact Or.inr rfl
  | swapOut => exact Or.inl rfl
  | checkAgain =>
    -- `Close` is past its claim, so the second check finds the session closed
    obtain rfl : closed = true := hclosed (by rintro rfl; cases hcleared)
    exact Or.inr rfl
  | _ => exact (hold hcleared).imp id nofun

lemma Sound.stepInstall (h : s.Sound previous)
    (hprevious : previous ≠ some s.joined) : s.stepInstall.Sound previous where
  fresh := h.fresh_stepInstall
  between := h.between_stepInstall
  cleared := h.cleared_stepInstall
  closed := by
    have hold := h.closed
    obtain ⟨joined, closed, jSess, ready, closes, install, closing⟩ := s
    cases install <;> exact hold
  previous sess hsess := (h.previous sess hsess).stepInstall
    (fun heq => hprevious (hsess.trans (congrArg some heq))) h.between

lemma Sound.stepClose (h : s.Sound previous) :
    s.stepClose.Sound previous := by
  have hacc : ∀ sess, previous = some sess → s.stepClose.Accounted sess := fun sess hsess =>
    (h.previous sess hsess).stepClose
  obtain ⟨joined, closed, jSess, ready, closes, install, closing⟩ := s
  obtain ⟨hfresh, hbetween, hcleared, hclosed, -⟩ := h
  refine ⟨fun hearly => ?_, fun hmiddle => ?_, fun hgone => ?_, fun hclaimed => ?_, hacc⟩
  · obtain ⟨hinstalled, hhand⟩ := hfresh (by cases closing <;> exact hearly)
    cases closing with
    | clear loaded => exact ⟨nofun, nofun⟩
    | load => exact ⟨hinstalled, hinstalled⟩
    | closeLoaded loaded => exact ⟨hinstalled, hhand⟩
    | _ => exact ⟨hinstalled, nofun⟩
  · cases closing with
    | clear loaded => exact Or.inl rfl
    | _ => exact hbetween hmiddle
  · cases closing with
    | clear loaded => exact Or.inl rfl
    | signal => exact hcleared rfl
    | returned => exact hcleared rfl
    | _ => cases hgone
  · cases closing with
    | claim => rfl
    | _ => exact hclosed nofun

lemma Sound.step (h : s.Sound previous)
    (hprevious : previous ≠ some s.joined) (side : Side) : (s.step side).Sound previous := by
  cases side with
  | install => exact h.stepInstall hprevious
  | close => exact h.stepClose

lemma sound_start {joined : ℕ} (hprevious : previous ≠ some joined) :
    (start joined previous).Sound previous where
  fresh _ := ⟨hprevious, nofun⟩
  between := nofun
  cleared := nofun
  closed := fun h => absurd rfl h
  previous _ hsess := Or.inr (Or.inr (Or.inr ⟨hsess, rfl⟩))

/-! ## Whole runs -/

lemma owed_step (h : s.Sound previous) {side : Side}
    (horderly : s.Orderly side) : (s.step side).owed = s.owed := by
  cases side with
  | install => exact owed_stepInstall h.fresh horderly
  | close => exact owed_stepClose horderly

/-- Once the new session has been swapped in and is gone, it does not come back, and every step is
orderly. -/
lemma owed_run_of_gone (turns : List Side) : ∀ {s : Handover},
    s.Sound previous → previous ≠ some s.joined → s.install.early = false →
    s.jSess ≠ some s.joined → (run step s turns).owed = s.owed := by
  induction turns with
  | nil =>
    intro s _ _ _ _
    rfl
  | cons side turns ih =>
    intro s h hprevious hlate hgone
    have horderly : s.Orderly side := by
      cases side with
      | install => exact fun _ hinstalled => absurd hinstalled hgone
      | close => exact fun _ hinstalled => absurd hinstalled hgone
    have hnext : (s.step side).install.early = false ∧
        (s.step side).jSess ≠ some s.joined := by
      obtain ⟨joined, closed, jSess, ready, closes, install, closing⟩ := s
      cases side with
      | install =>
        cases install with
        | swapIn => cases hlate
        | swapOut => exact ⟨rfl, nofun⟩
        | checkAgain => cases closed <;> exact ⟨rfl, hgone⟩
        | checkFirst => cases hlate
        | _ => exact ⟨rfl, hgone⟩
      | close =>
        cases closing with
        | clear loaded => exact ⟨hlate, nofun⟩
        | _ => exact ⟨hlate, hgone⟩
    have hjoined := joined_step s side
    rw [run_cons, ih (h.step hprevious side) (by rwa [hjoined]) hnext.1
      (by rw [hjoined]; exact hnext.2), owed_step h horderly]

/-- The account is kept along a run exactly if every step is orderly. -/
lemma along_orderly_iff (turns : List Side) : ∀ {s : Handover},
    s.Sound previous → previous ≠ some s.joined →
    (Along step Orderly s turns ↔ (run step s turns).owed = s.owed) := by
  induction turns with
  | nil =>
    intro s _ _
    exact ⟨fun _ => rfl, fun _ => trivial⟩
  | cons side turns ih =>
    intro s h hprevious
    have hjoined := joined_step s side
    have hnext := h.step hprevious side
    have hprevious' : previous ≠ some (s.step side).joined := by rwa [hjoined]
    rw [Along, run_cons]
    by_cases horderly : s.Orderly side
    · rw [ih hnext hprevious', owed_step h horderly]
      exact ⟨And.right, fun hrun => ⟨horderly, hrun⟩⟩
    · obtain ⟨hinstalled, hchanged, hnone, hstays⟩ := owed_of_not_orderly horderly
      refine iff_of_false (fun hand => horderly hand.1) ?_
      -- the new session was installed, so it had been swapped in
      have hlate : s.install.early = false := by
        by_contra hearly
        have htrue : s.install.early = true := by simpa using hearly
        exact (h.fresh htrue).notInstalled hinstalled
      rw [owed_run_of_gone turns hnext hprevious' (hstays hlate) (by simp [hnone])]
      exact hchanged

lemma run_sound {joined : ℕ} (hprevious : previous ≠ some joined)
    (turns : List Side) : (run step (start joined previous) turns).Sound previous ∧
      (run step (start joined previous) turns).joined = joined := by
  refine run_invariant_of_step step (I := fun s => s.Sound previous ∧ s.joined = joined) ?_
    ⟨sound_start hprevious, rfl⟩ turns
  rintro s side ⟨hsound, rfl⟩
  exact ⟨hsound.step hprevious side, joined_step s side⟩

/-- **Ownership of a joined session.**  In every interleaving nothing is installed in the end and
the previous session is closed; and the new one is closed exactly once if and only if every step was
orderly. -/
theorem joined_closed_once_iff (joined : ℕ) (previous : Option ℕ)
    (hprevious : previous ≠ some joined) (turns : List Side) (s : Handover)
    (hs : s = run step (start joined previous) turns) (hreturned : s.Returned) :
    s.jSess = none ∧
    (∀ sess, previous = some sess → s.closersOf sess ≠ []) ∧
    ((∃ side, s.closersOf joined = [side]) ↔ Along step Orderly (start joined previous) turns) := by
  obtain ⟨hsound, hjoined⟩ := run_sound hprevious turns
  have halong := along_orderly_iff turns (sound_start hprevious) hprevious
  rw [← hs] at hsound hjoined halong
  obtain ⟨⟨installed, hinstall⟩, hclose⟩ := hreturned
  have hnone : s.jSess = none := by
    rcases hsound.cleared (by rw [hclose]; rfl) with hnone | hbetween
    · exact hnone
    · rw [hinstall] at hbetween
      cases hbetween
  refine ⟨hnone, fun sess hsess => ?_, ?_⟩
  · rcases hsound.previous sess hsess with hmem | hpending | hreplaced | ⟨hinstalled, -⟩
    · obtain ⟨c, hc, hsess'⟩ := List.mem_map.1 hmem
      have hfound : c ∈ s.closes.filter fun c => c.2 = sess :=
        List.mem_filter.2 ⟨hc, decide_eq_true hsess'⟩
      exact List.ne_nil_of_mem (List.mem_map_of_mem hfound)
    · rw [hclose] at hpending
      cases hpending
    · rw [hinstall] at hreplaced
      cases hreplaced
    · rw [hnone] at hinstalled
      cases hinstalled
  · -- nothing is owed any more but the closes that were made
    have howed : s.owed = (s.closersOf joined).length := by
      rw [owed, owedByInstall, owedByClose, owedByNobody, hinstall, hclose, hnone, hjoined]
      simp
    have hstart : (start joined previous).owed = 1 := by
      rw [owed, owedByNobody, if_neg fun h => hprevious h.1]
      rfl
    rw [halong, howed, hstart, List.length_eq_one_iff]

/-- `Close` comes after `installSession`. -/
theorem joined_closed_once_iff_sequential :
    ∃ side, (run step (start 1 (some 0))
      (List.replicate 5 .install ++ List.replicate 5 .close)).closersOf 1 = [side] := by
  have horderly : Along step Orderly (start 1 (some 0))
      (List.replicate 5 .install ++ List.replicate 5 .close) := by decide +kernel
  have hreturned : (run step (start 1 (some 0))
      (List.replicate 5 .install ++ List.replicate 5 .close)).Returned :=
    ⟨⟨true, by decide +kernel⟩, by decide +kernel⟩
  exact (joined_closed_once_iff 1 (some 0) (by decide) _ _ rfl hreturned).2.2.2 horderly

/-- Nobody closes the new session, or both do. -/
theorem joined_leaked_and_closed_twice :
    (let s := run step (start 1 (some 0)) (List.replicate 1 .install ++ List.replicate 2 .close ++
        List.replicate 3 .install ++ List.replicate 3 .close ++ List.replicate 4 .install)
     s.install = .returned false ∧ s.closing = .returned ∧ s.closersOf 1 = []) ∧
    (let s := run step (start 1 (some 0)) (List.replicate 4 .install ++ List.replicate 2 .close ++
        List.replicate 4 .install ++ List.replicate 3 .close)
     s.install = .returned false ∧ s.closing = .returned ∧ s.closersOf 1 = [.install, .close]) := by
  decide +kernel

end Handover

end OlcRtc.Jitsi
