import OlcRtc.Lib.Steps
import OlcRtc.Vpn.Moves

/-!
# What holds between two commands

Between two commands the service is in one of five situations, each with what belongs to it: idle,
an attempt under way, waiting for a network or for a scheduled reconnect, connected, or stopped by
an error.  `Settled` is their common description, and the lemmas `settled_*` are the ways to get
there.  Every move leads from a settled state to a settled one (**`Move.settled`**), and so does
what a refused command leaves behind (**`Refusal.settled`**).
-/

namespace OlcRtc.Vpn.Core

open Client (ProfileConfig)

variable {env : Env} {target : Option ProfileReference} {c c' : Core}

/-! ## The invariant -/

/-- What holds of the attempts and their threads. -/
structure Sound (c : Core) : Prop where
  /-- A reconnect is scheduled for a request only. -/
  requested : c.reconnectFuture ≠ none → c.networkReconnectRequested = true
  /-- The current attempt was not cancelled, and its thread will hand over its completion. -/
  worker : ∀ a, c.connectionAttempt = some a →
    a.generation ∉ c.cancelled ∧ ∃ w ∈ c.workers, w.attempt = a
  /-- Generations are not used twice. -/
  cancelled_le : ∀ g ∈ c.cancelled, g ≤ c.nextConnectionGeneration
  attempt_le : ∀ a, c.connectionAttempt = some a → a.generation ≤ c.nextConnectionGeneration
  /-- Only cancelled attempts end with a `CancellationException`. -/
  results : ∀ w ∈ c.workers, w.result = some (.error .cancellation) →
    w.attempt.generation ∈ c.cancelled

/-- What holds between two commands. -/
structure Settled (c : Core) : Prop extends Sound c where
  boundary : c.publishedState ≠ .preparing ∧ c.publishedState ≠ .stopping
  connected : c.publishedState = .connected →
    c.nativeSession ≠ none ∧ c.connectionAttempt = none ∧ c.reconnectFuture = none
  idle : c.publishedState = .noProfile ∨ c.publishedState = .disconnected →
    c.connectionAttempt = none ∧ c.reconnectFuture = none
  profile : c.publishedState.reconnectable = true → c.activeProfile ≠ none
  waiting : c.publishedState = .connecting ∨ c.publishedState = .reconnecting →
    c.activeNetwork ≠ none → c.connectionAttempt ≠ none ∨ c.reconnectFuture ≠ none

/-! ### The five situations -/

lemma settled_idle (h : c.Sound)
    (hstate : c.publishedState = .noProfile ∨ c.publishedState = .disconnected)
    (hattempt : c.connectionAttempt = none) (hfuture : c.reconnectFuture = none) : c.Settled := by
  refine ⟨h, ?_, ?_, fun _ => ⟨hattempt, hfuture⟩, ?_, ?_⟩ <;>
    rcases hstate with hstate | hstate <;> simp [hstate, VpnState.reconnectable]

lemma settled_attempt (h : c.Sound)
    (hstate : c.publishedState = .connecting ∨ c.publishedState = .reconnecting)
    (hattempt : c.connectionAttempt ≠ none) (hprofile : c.activeProfile ≠ none) : c.Settled := by
  refine ⟨h, ?_, ?_, ?_, fun _ => hprofile, fun _ _ => Or.inl hattempt⟩ <;>
    rcases hstate with hstate | hstate <;> simp [hstate]

lemma settled_reconnecting (h : c.Sound) (hstate : c.publishedState = .reconnecting)
    (hprofile : c.activeProfile ≠ none)
    (hfuture : c.activeNetwork ≠ none → c.reconnectFuture ≠ none) : c.Settled := by
  refine ⟨h, ?_, ?_, ?_, fun _ => hprofile, fun _ hnetwork => Or.inr (hfuture hnetwork)⟩ <;>
    simp [hstate]

lemma settled_connected (h : c.Sound) (hstate : c.publishedState = .connected)
    (hsession : c.nativeSession ≠ none) (hattempt : c.connectionAttempt = none)
    (hfuture : c.reconnectFuture = none) (hprofile : c.activeProfile ≠ none) : c.Settled := by
  refine ⟨h, ?_, fun _ => ⟨hsession, hattempt, hfuture⟩, ?_, fun _ => hprofile, ?_⟩ <;>
    simp [hstate]

lemma settled_error (h : c.Sound) (hstate : c.publishedState = .error) : c.Settled := by
  refine ⟨h, ?_, ?_, ?_, ?_, ?_⟩ <;> simp [hstate, VpnState.reconnectable]

/-! ### Commands keep it -/

/-- Most fields do not matter, and a reconnect may be scheduled if it is requested. -/
lemma Sound.set {state : VpnState} {network : Option Network} {profile : Option ProfileReference}
    {info : Option ProfileInfo} {session future : Option ℕ} {requested : Bool} {closed : List ℕ}
    {sessions : List ConnectionSession} (h : c.Sound)
    (hrequested : future ≠ none → requested = true) : Sound { c with
      publishedState := state, activeNetwork := network, activeProfile := profile
      activeProfileInfo := info, nativeSession := session, reconnectFuture := future
      networkReconnectRequested := requested, closedSessions := closed
      connectionSessions := sessions } :=
  ⟨hrequested, h.worker, h.cancelled_le, h.attempt_le, h.results⟩

lemma Sound.cancel (h : c.Sound) : c.cancel.Sound := by
  refine ⟨h.requested, nofun, fun g hg => ?_, nofun, fun w hw hresult => ?_⟩
  · rcases List.mem_append.1 hg with hg | hg
    · obtain ⟨a, ha, rfl⟩ := Option.map_eq_some_iff.1 (Option.mem_toList.1 hg)
      exact h.attempt_le a ha
    · exact h.cancelled_le g hg
  · exact List.mem_append_right _ (h.results w hw hresult)

lemma Sound.launch (h : c.Sound) (reference : ProfileReference) (profile : ProfileConfig)
    (network : Network) : (c.launch reference profile network).Sound := by
  refine ⟨h.requested, ?_, ?_, ?_, ?_⟩
  · rintro a ⟨rfl⟩
    refine ⟨fun hmem => ?_, _, List.mem_append_right _ (List.mem_singleton.2 rfl), rfl⟩
    exact absurd (h.cancel.cancelled_le _ hmem) (Nat.not_succ_le_self _)
  · intro g hg
    exact (h.cancel.cancelled_le g hg).trans (Nat.le_succ _)
  · rintro a ⟨rfl⟩
    exact le_refl _
  · intro w hw hresult
    rcases List.mem_append.1 hw with hw | hw
    · exact h.cancel.results w hw hresult
    · rw [List.mem_singleton.1 hw] at hresult
      cases hresult

lemma Sound.collect (h : c.Sound) {i : ℕ} {w : Worker} (hi : c.workers[i]? = some w)
    (hw : c.connectionAttempt ≠ some w.attempt) : (c.collect i).Sound := by
  refine ⟨h.requested, ?_, h.cancelled_le, h.attempt_le, ?_⟩
  · intro a ha
    obtain ⟨hcancelled, w', hmem, rfl⟩ := h.worker a ha
    obtain ⟨j, hj⟩ := List.mem_iff_getElem?.1 hmem
    refine ⟨hcancelled, w', List.mem_eraseIdx_iff_getElem?.2 ⟨j, ?_, hj⟩, rfl⟩
    rintro rfl
    obtain rfl := Option.some.inj (hj.symm.trans hi)
    exact hw ha
  · exact fun w hw => h.results w (List.mem_of_mem_eraseIdx hw)

lemma Sound.finish (h : c.Sound) (i : ℕ) : Sound { c.collect i with connectionAttempt := none } :=
  ⟨h.requested, nofun, h.cancelled_le, nofun, fun w hw => h.results w (List.mem_of_mem_eraseIdx hw)⟩

lemma closeResult_eq (c : Core) (generation : ℕ) (result : Except Throwable StartedSession) :
    ∃ closed, c.closeResult generation result = { c with closedSessions := closed } := by
  cases result <;> exact ⟨_, rfl⟩

lemma Failed.settled (h : c.Sound)
    (hprofile : c.publishedState.reconnectable = true → c.activeProfile ≠ none)
    (hm : c.Failed target c') : c'.Settled := by
  cases hm with
  | fatal _ => exact settled_error (h.set nofun) rfl
  | retry future hstate hfuture =>
    refine settled_reconnecting (h.set fun _ => rfl) rfl ?_ hfuture
    cases target with
    | none => exact hprofile hstate
    | some target => exact Option.some_ne_none target

lemma Settled.state_of_active (h : c.Settled)
    (hactive : c.connectionAttempt ≠ none ∨ c.reconnectFuture ≠ none) :
    c.publishedState = .connecting ∨ c.publishedState = .reconnecting ∨
      c.publishedState = .error := by
  have hboundary := h.boundary
  have hconnected := h.connected
  have hidle := h.idle
  cases hs : c.publishedState <;> simp_all

lemma Accepts.attempt {attempt : ConnectionAttempt} (h : c.Accepts attempt) :
    c.connectionAttempt ≠ none := by
  intro hnone
  have hgeneration := h.2
  rw [hnone] at hgeneration
  cases hgeneration

lemma Settled.profile_of_waiting (h : c.Settled)
    (hstate : c.publishedState = .connecting ∨ c.publishedState = .reconnecting) :
    c.activeProfile ≠ none := by
  apply h.profile
  rcases hstate with hstate | hstate <;> rw [hstate] <;> rfl

lemma Settled.unschedule (h : c.Settled) {requested : Bool}
    (hwaiting : c.publishedState = .connecting ∨ c.publishedState = .reconnecting →
      c.activeNetwork ≠ none → c.connectionAttempt ≠ none) :
    Settled { c with reconnectFuture := none, networkReconnectRequested := requested } :=
  ⟨h.toSound.set nofun, h.boundary, fun hs => ⟨(h.connected hs).1, (h.connected hs).2.1, rfl⟩,
    fun hs => ⟨(h.idle hs).1, rfl⟩, h.profile, fun hs hn => .inl (hwaiting hs hn)⟩

lemma Settled.workers (h : c.Settled) {workers : List Worker} {closed : List ℕ}
    (hsound : Sound { c with workers := workers, closedSessions := closed }) :
    Settled { c with workers := workers, closedSessions := closed } :=
  ⟨hsound, h.boundary, h.connected, h.idle, h.profile, h.waiting⟩

lemma Sound.result (h : c.Sound) {i : ℕ} {attempt : ConnectionAttempt} {profile : ProfileConfig}
    (hworker : c.workers[i]? = some ⟨attempt, profile, none⟩)
    (outcome : Except Failure StartedSession) : Sound { c with
      workers := c.workers.set i ⟨attempt, profile,
        some (Service.workerResult (attempt.generation ∈ c.cancelled) outcome)⟩ } := by
  refine ⟨h.requested, fun a ha => ⟨(h.worker a ha).1, ?_⟩, h.cancelled_le, h.attempt_le, ?_⟩
  · obtain ⟨-, w, hw, rfl⟩ := h.worker a ha
    obtain ⟨j, hj⟩ := List.mem_iff_getElem?.1 hw
    by_cases hij : j = i
    · subst hij
      obtain rfl := Option.some.inj (hj.symm.trans hworker)
      exact ⟨_, List.mem_set (List.getElem?_eq_some_iff.1 hworker).1 _, rfl⟩
    · refine ⟨w, List.mem_iff_getElem?.2 ⟨j, ?_⟩, rfl⟩
      rw [List.getElem?_set_ne (Ne.symm hij), hj]
  · intro w hw hresult
    rcases List.mem_or_eq_of_mem_set hw with hw | rfl
    · exact h.results w hw hresult
    · by_contra hnot
      rw [decide_eq_false hnot] at hresult
      cases outcome <;> cases hresult

/-- **Every move keeps the service settled.** -/
theorem Move.settled (h : c.Settled) (hm : c.Move env target c') : c'.Settled := by
  have hs := h.toSound
  cases hm with
  | keep => exact h
  | fail _ => exact settled_error (hs.set hs.requested) rfl
  | quiet state hconnecting hreconnecting hstate =>
    subst hstate
    exact ⟨hs.cancel.set nofun, h.boundary, fun hc => ⟨(h.connected hc).1, rfl, rfl⟩,
      fun _ => ⟨rfl, rfl⟩, h.profile, fun hw => absurd hw (not_or.2 ⟨hconnecting, hreconnecting⟩)⟩
  | missing _ => exact settled_error (hs.cancel.set nofun) rfl
  | await reference profile _ hnetwork _ =>
    exact settled_reconnecting (hs.cancel.set fun _ => rfl) rfl (Option.some_ne_none _)
      fun hne => absurd hnetwork hne
  | start reference profile network _ _ _ =>
    have hselect : (c.quiet.select reference profile).Sound := hs.cancel.set nofun
    exact settled_attempt ((hselect.launch reference profile network).set nofun) (.inl rfl)
      (Option.some_ne_none _) (Option.some_ne_none _)
  | switchAwait reference profile _ hnetwork _ =>
    exact settled_reconnecting (hs.cancel.set fun _ => rfl) rfl (Option.some_ne_none _)
      fun hne => absurd hnetwork hne
  | switch reference profile network _ _ _ =>
    have hselect : (c.quiet.select reference profile).close.Sound := hs.cancel.set nofun
    exact settled_attempt ((hselect.launch reference profile network).set nofun) (.inr rfl)
      (Option.some_ne_none _) (Option.some_ne_none _)
  | stopFails _ _ => exact settled_error (hs.cancel.set nofun) rfl
  | stop next hnext =>
    have hsound : Sound { c.quiet.close with publishedState := next } := hs.cancel.set nofun
    rcases hnext with rfl | rfl | rfl
    · exact settled_idle hsound (.inl rfl) rfl rfl
    · exact settled_idle hsound (.inr rfl) rfl rfl
    · exact settled_error hsound rfl
  | reconnect network future hfuture hprofile _ =>
    exact settled_reconnecting (hs.cancel.set fun _ => rfl) rfl hprofile hfuture
  | network network hnot =>
    refine ⟨hs.set hs.requested, h.boundary, h.connected, h.idle, h.profile, fun hstate _ => ?_⟩
    rcases hnot with hnot | hnot
    · exact absurd hnot (h.profile_of_waiting hstate)
    · rcases hstate with hstate | hstate <;> rw [hstate] at hnot <;> cases hnot
  | result i attempt profile outcome hworker => exact h.workers (hs.result hworker outcome)
  | drop i attempt profile hworker hcancelled =>
    exact h.workers (hs.collect hworker fun ha => (hs.worker _ ha).1 hcancelled)
  | late i attempt profile result hworker hlate =>
    have hne : c.connectionAttempt ≠ some attempt := fun ha =>
      hlate ⟨(hs.worker _ ha).1, by rw [ha]; rfl⟩
    obtain ⟨closed, heq⟩ := closeResult_eq (c.collect i) attempt.generation result
    rw [heq]
    exact h.workers ((hs.collect hworker hne).set hs.requested)
  | moved i attempt profile result future hworker haccepts hstate hfuture =>
    obtain ⟨closed, heq⟩ := closeResult_eq (c.collect i) attempt.generation result
    rw [heq]
    exact settled_reconnecting ((hs.finish i).set fun _ => rfl) rfl (h.profile hstate) hfuture
  | connected i attempt profile started sessions hworker haccepts hstate _ =>
    exact settled_connected ((hs.finish i).set nofun) rfl (Option.some_ne_none _) rfl rfl
      (h.profile_of_waiting hstate)
  | failed i attempt profile f _ hworker haccepts hfailed =>
    exact hfailed.settled (hs.finish i) h.profile
  | fireIdle hprofile =>
    exact h.unschedule fun hstate _ => absurd hprofile (h.profile_of_waiting hstate)
  | fireOff hoff =>
    refine h.unschedule fun hstate hnetwork => ?_
    have hrequested := hs.requested
    have hwaiting := h.waiting hstate hnetwork
    grind
  | fire reference profile network hfuture hprofile _ hnetwork =>
    have hunscheduled : Sound { c with reconnectFuture := none } := hs.set nofun
    have hsound := hunscheduled.launch reference profile network
    have hsome : c.activeProfile ≠ none := by simp [hprofile]
    rcases h.state_of_active (.inr hfuture) with hstate | hstate | hstate
    · exact settled_attempt hsound (.inl hstate) (Option.some_ne_none _) hsome
    · exact settled_attempt hsound (.inr hstate) (Option.some_ne_none _) hsome
    · exact settled_error hsound hstate
  | fireFails _ hfuture hprofile hfailed => exact hfailed.settled (hs.set nofun) h.profile

/-- **So does what a refused command leaves behind.** -/
theorem Refusal.settled (h : c.Settled) (hm : c.Refusal c') : c'.Settled := by
  have hs := h.toSound
  cases hm with
  | keep => exact h
  | missing => exact settled_error (hs.cancel.set nofun) rfl
  | moved i attempt profile result _ _ =>
    obtain ⟨closed, heq⟩ := closeResult_eq (c.collect i) attempt.generation result
    rw [heq]
    exact settled_error ((hs.finish i).set fun _ => rfl) rfl
  | connected i attempt profile started _ _ =>
    exact settled_error ((hs.finish i).set hs.requested) rfl
  | failed i attempt profile f _ _ _ hrefused =>
    obtain ⟨future, requested, hfuture⟩ := hrefused
    exact settled_error ((hs.finish i).set (by grind)) rfl
  | fireFails _ _ hrefused =>
    obtain ⟨future, requested, hfuture⟩ := hrefused
    exact settled_error (hs.set (by grind)) rfl

end OlcRtc.Vpn.Core
