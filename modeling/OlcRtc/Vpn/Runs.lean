import OlcRtc.Vpn.Invariant

/-!
# Runs of the VPN service

**`handle_moves`** says of every event in a settled state which move it makes, and when it is
refused a transition; both leave the service settled, so that every run does (**`settled_run`**).

**`vpn_never_stuck`**: a service that wants to connect and has a network has an attempt under way or
a reconnect scheduled, and a connected service has its session and no attempt.

**`conforms_iff`**: the state machine refuses nothing exactly in the runs that keep away from the
four commands that `ERROR` has no transition for: a start without a profile, a start or a reconnect
of a profile that cannot be loaded, a scheduled reconnect of one, and the end of an attempt that was
under way when the service got there.
-/

namespace OlcRtc.Vpn.Service

open Client (ProfileConfig)

variable {env : Env} {s : Service}

def Accepts (s : Service) (attempt : ConnectionAttempt) : Prop :=
  attempt.generation ∉ s.cancelled ∧
    s.connectionAttempt.map ConnectionAttempt.generation = some attempt.generation

/-- The commands that are not refused.  In `ERROR` a profile has to be there, and no attempt may
come to its end. -/
def Safe (s : Service) (env : Env) : Event → Prop
  | .start request => s.publishedState = .error → ∃ reference profile,
      request.reference = .ok reference ∧ loadProfile env reference = .ok profile
  | .reconnect => s.publishedState = .error → ∀ reference, s.activeProfile = some reference →
      ∃ profile, loadProfile env reference = .ok profile
  | .completion i => s.publishedState = .error → ∀ worker result, s.workers[i]? = some worker →
      worker.result = some result → ¬ s.Accepts worker.attempt
  | .reconnectFires => s.publishedState = .error → s.reconnectFuture ≠ none →
      s.activeNetwork ≠ none → ∀ reference, s.activeProfile = some reference →
        ∃ profile, loadProfile env reference = .ok profile
  | _ => True

/-! ## Commands -/

/-- The profile that the failover walk goes on to, for an event that can end an attempt. -/
def failoverTarget (s : Service) (env : Env) : Event → Option ProfileReference
  | .completion _ | .reconnectFires => (s.nextFailoverTarget env).2
  | _ => none

lemma loadProfile_error_iff {reference : ProfileReference} :
    (∃ f, loadProfile env reference = .error f) ↔
      ¬∃ profile, loadProfile env reference = .ok profile := by
  cases loadProfile env reference <;> simp

lemma startReference_moves (target : Option ProfileReference) (s : Service)
    (reference : ProfileReference) : Moves env target s.core
      (s.publishedState = .error ∧ ∃ f, loadProfile env reference = .error f)
      (s.startReference env reference) :=
  startProfile_moves (s.persistVpnIntent true (some reference)) reference

lemma restoreDesiredVpn_moves (target : Option ProfileReference) (s : Service)
    (intent : VpnIntent) : Moves env target s.core False (s.restoreDesiredVpn env intent) := by
  rw [restoreDesiredVpn]
  split_ifs with hidle
  · exact ⟨not_false, .keep⟩
  · exact ⟨not_false, .keep⟩
  · exact ⟨not_false, .keep⟩
  · split
    · exact ⟨not_false, .keep⟩
    · refine (startReference_moves target s _).congr ?_
      have hne : s.publishedState ≠ .error := by
        intro hs
        simp [hs] at hidle
      simp [hne]

/-- **What an event does.** -/
theorem handle_moves (env : Env) (h : s.core.Settled) (e : Event) :
    Moves env (s.failoverTarget env e) s.core (¬s.Safe env e) (s.handle env e) := by
  have hkeep : Moves env (s.failoverTarget env e) s.core False (.ok s) := ⟨not_false, .keep⟩
  cases e with
  | start request =>
    simp only [handle, Safe]
    split
    · rename_i reference hreference
      refine (startReference_moves _ s reference).congr ?_
      simp [hreference, loadProfile_error_iff]
    · rename_i error hreference
      have hallowed : VpnState.error ∈ s.publishedState.allowedTransitions ↔
          s.publishedState ≠ .error := by
        cases s.publishedState <;> decide
      simp only [Moves, transitionToError, ends_transition, hallowed, hreference]
      refine ⟨fun hs => ⟨by simp [hs], .fail hs⟩, fun hs => ⟨by simpa using hs, .keep⟩⟩
  | stop =>
    simp only [handle, Safe, not_true]
    exact stopVpn_moves _
  | reconnect =>
    refine (reconnectVpn_moves s).congr ?_
    simp only [Safe, Classical.not_imp, exists_and_left, loadProfile_error_iff, not_forall]
  | toggle =>
    simp only [handle, Safe, toggleDesiredVpn, not_true]
    split_ifs
    · exact stopVpn_moves _
    · exact restoreDesiredVpn_moves _ s _
  | restore =>
    simp only [handle, Safe, not_true]
    exact restoreDesiredVpn_moves _ s _
  | networkAvailable network eligible =>
    simp only [handle, Safe, handleNetworkAvailable, not_true]
    split
    · exact hkeep
    · exact hkeep
    · exact requestNetworkReconnect_moves rfl (by simp)
  | networkLost network =>
    simp only [handle, Safe, handleNetworkLost, not_true]
    split
    · exact requestNetworkReconnect_moves rfl (by simp)
    · exact hkeep
  | attemptEnds i outcome =>
    simp only [handle, Safe, attemptEnds, not_true]
    split
    · rename_i attempt profile hworker
      exact ⟨not_false, .result i attempt profile outcome hworker⟩
    · exact hkeep
  | attemptDropped i =>
    simp only [handle, Safe, attemptDropped, not_true]
    split
    · rename_i attempt profile hworker
      split_ifs with hcancelled
      · exact ⟨not_false, .drop i attempt profile hworker hcancelled⟩
      · exact hkeep
    · exact hkeep
  | attemptStage i stage =>
    simp only [handle, Safe, attemptStage, not_true]
    split
    · split_ifs
      · exact ⟨not_false, .keep⟩
      · exact hkeep
    · exact hkeep
  | completion i =>
    simp only [handle, Safe]
    split
    · rename_i attempt profile result hworker
      refine (completeConnectionAttempt_moves hworker ?_ ?_).congr ?_
      · exact fun haccepts => h.state_of_active (.inl haccepts.attempt)
      · rintro haccepts rfl
        exact haccepts.1 (h.results _ (List.mem_of_getElem? hworker) rfl)
      · simp only [hworker, Option.some.injEq, Classical.not_imp, not_forall]
        grind [Accepts, Core.Accepts, core]
    · rename_i hnone
      refine hkeep.congr (iff_of_false not_false (not_not.2 ?_))
      rintro - ⟨attempt, profile, _⟩ result hworker rfl
      exact absurd hworker (hnone attempt profile result)
  | reconnectFires =>
    simp only [handle, Safe]
    split_ifs with hfuture
    · exact hkeep.congr (by simp [hfuture])
    · refine (automaticReconnect_moves ?_ hfuture ?_).congr ?_
      · exact h.state_of_active (.inr hfuture)
      · exact h.requested hfuture
      · simp [hfuture, loadProfile_error_iff]
  | sample isRunning moved =>
    simp only [handle, Safe, sampleTrafficAndNotify, not_true]
    split_ifs
    · exact hkeep
    · exact requestNetworkReconnect_moves rfl (by simp)
    all_goals
      rw [scheduleTunnelHealthProbe]
      split_ifs
      · exact ⟨not_false, .keep⟩
      · split <;> exact ⟨not_false, .keep⟩
  | healthResult i failed =>
    simp only [handle, Safe, healthResult, not_true]
    split
    · split_ifs
      · exact ⟨not_false, .keep⟩
      · exact requestNetworkReconnect_moves rfl (by simp)
      all_goals exact ⟨not_false, .keep⟩
    · exact hkeep

/-! ## Runs -/

lemma settled_step (h : s.core.Settled) (c : Env × Event) : (s.step c).core.Settled := by
  have hmoves := handle_moves c.1 h c.2
  rw [step]
  cases heq : s.handle c.1 c.2 with
  | ok s' =>
    rw [heq] at hmoves
    exact hmoves.2.settled h
  | error e =>
    rw [heq] at hmoves
    exact hmoves.2.settled h

lemma settled_create (activeNetwork : Option Network) (vpnIntent : VpnIntent) :
    (create activeNetwork vpnIntent).core.Settled := by
  apply Core.settled_idle
  · constructor <;> simp [create, core]
  · exact Or.inl rfl
  · rfl
  · rfl

/-- **Between any two commands of a run the service is settled.** -/
theorem settled_run (activeNetwork : Option Network) (vpnIntent : VpnIntent)
    (commands : List (Env × Event)) :
    (run step (create activeNetwork vpnIntent) commands).core.Settled :=
  run_invariant_of_step (I := fun s => s.core.Settled) step (fun _ c h => settled_step h c)
    (settled_create activeNetwork vpnIntent) commands

def exampleEnv (found : Bool) : Env where
  tables := asciiTables
  stored _ :=
    .ok (if found then some (.olcrtc (Client.exampleProfile .jitsi .datachannel)) else none)
  autoFailover := false
  failoverOrder := []
  userUnlocked := true
  networkType := "wifi".toList
  releaseTunFailure := none
  closeFailure := none
  now := 0

def exampleConnect : List (Env × Event) :=
  [(exampleEnv true, .start (.profile 7)),
    (exampleEnv true, .attemptEnds 0 (.ok ⟨1080, ⟨"1.1.1.1".toList, 53⟩⟩)),
    (exampleEnv true, .completion 0)]

/-- An attempt is under way: it was not cancelled, and its thread is at work or its completion
waits for the command thread. -/
def AttemptInFlight (s : Service) : Prop :=
  ∃ attempt, s.connectionAttempt = some attempt ∧ attempt.generation ∉ s.cancelled ∧
    ∃ worker ∈ s.workers, worker.attempt = attempt

/-- **The service is never stuck**, whatever commands it has carried out. -/
theorem vpn_never_stuck (activeNetwork : Option Network) (vpnIntent : VpnIntent)
    (commands : List (Env × Event)) :
    let s := run step (create activeNetwork vpnIntent) commands
    ((s.publishedState = .connecting ∨ s.publishedState = .reconnecting) →
      s.activeNetwork ≠ none → s.AttemptInFlight ∨ s.reconnectFuture ≠ none) ∧
    (s.publishedState = .connected → s.nativeSession ≠ none ∧ s.connectionAttempt = none) := by
  intro s
  have h : s.core.Settled := settled_run activeNetwork vpnIntent commands
  constructor
  · intro hstate hnetwork
    refine (h.waiting hstate hnetwork).imp_left fun hattempt => ?_
    obtain ⟨attempt, hsome⟩ := Option.ne_none_iff_exists'.1 hattempt
    exact ⟨attempt, hsome, h.worker attempt hsome⟩
  · intro hstate
    obtain ⟨hsession, hattempt, -⟩ := h.connected hstate
    exact ⟨hsession, hattempt⟩

theorem vpn_never_stuck_connects :
    (run step (create (some 1) {}) (exampleConnect.take 1)).AttemptInFlight ∧
      (run step (create (some 1) {}) exampleConnect).nativeSession ≠ none := by
  constructor
  · have h := (vpn_never_stuck (some 1) {} (exampleConnect.take 1)).1 (by decide +kernel)
      (by decide +kernel)
    exact h.resolve_right (by decide +kernel)
  · exact ((vpn_never_stuck (some 1) {} exampleConnect).2 (by decide +kernel)).1

/-- A command that asks for no transition that the state machine refuses. -/
def Conforms (s : Service) (c : Env × Event) : Prop := (s.handle c.1 c.2).isOk = true

instance (s : Service) (c : Env × Event) : Decidable (s.Conforms c) :=
  inferInstanceAs (Decidable (_ = true))

/-- **The state machine refuses nothing** exactly in the runs whose commands are all safe. -/
theorem conforms_iff (activeNetwork : Option Network) (vpnIntent : VpnIntent)
    (commands : List (Env × Event)) :
    Along step Conforms (create activeNetwork vpnIntent) commands ↔
      Along step (fun s c => s.Safe c.1 c.2) (create activeNetwork vpnIntent) commands := by
  refine along_congr (I := fun s => s.core.Settled) step ?_ (fun s c h _ => settled_step h c)
    (settled_create activeNetwork vpnIntent)
  intro s c h
  have hmoves := handle_moves c.1 h c.2
  rw [Conforms]
  cases heq : s.handle c.1 c.2 with
  | ok s' =>
    rw [heq] at hmoves
    exact iff_of_true rfl (not_not.1 hmoves.1)
  | error e =>
    rw [heq] at hmoves
    exact iff_of_false nofun hmoves.1

theorem conforms_iff_connects :
    Along step (fun s c => s.Safe c.1 c.2) (create (some 1) {}) exampleConnect :=
  (conforms_iff (some 1) {} exampleConnect).1 (by decide +kernel)

/-- A profile that is missing ends in `ERROR` the first time, and the second time asks for `ERROR`
again.  A start without a profile while another one connects ends in `ERROR` too, and the attempt
then asks for `CONNECTED` from there. -/
theorem error_refuses :
    ¬ Along step Conforms (create (some 1) {})
        [(exampleEnv false, .start (.profile 7)), (exampleEnv false, .start (.profile 7))] ∧
      ¬ Along step Conforms (create (some 1) {})
        [(exampleEnv true, .start (.profile 7)), (exampleEnv true, .start (.profile 0)),
          (exampleEnv true, .attemptEnds 0 (.ok ⟨1080, ⟨"1.1.1.1".toList, 53⟩⟩)),
          (exampleEnv true, .completion 0)] := by
  constructor <;> decide +kernel

end OlcRtc.Vpn.Service
