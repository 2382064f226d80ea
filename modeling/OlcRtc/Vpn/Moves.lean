import OlcRtc.Lib.Checks
import OlcRtc.Lib.Lists
import OlcRtc.Vpn.Service

/-!
# What a command of the VPN service can do

The service runs one command after the other, and a command goes through many functions.  This file
says once what it can do in the end.  `Core` is the part of the service that decides: the published
state, the network and the profile, the session, the attempt and its threads, and the reconnect that
is scheduled.  `Core.Move` lists the changes a command can make to it, and `Core.Refusal` those it
leaves behind when the state machine refuses one of its transitions.

`Moves` says of a computation that it makes one of these moves, or is refused in a given case only;
there is a lemma for each function of the service.  What holds along every run is then proved move
by move, and never looks at the functions again.
-/

namespace OlcRtc.Vpn

open Client (ProfileConfig)

/-- What the invariants of the service are about. -/
structure Core where
  publishedState : VpnState
  activeNetwork : Option Network
  activeProfile : Option ProfileReference
  activeProfileInfo : Option ProfileInfo
  nativeSession : Option ℕ
  connectionAttempt : Option ConnectionAttempt
  reconnectFuture : Option ℕ
  networkReconnectRequested : Bool
  nextConnectionGeneration : ℕ
  workers : List Worker
  cancelled : List ℕ
  closedSessions : List ℕ
  connectionSessions : List ConnectionSession

/-- The part of a service that decides. -/
def Service.core (s : Service) : Core :=
  ⟨s.publishedState, s.activeNetwork, s.activeProfile, s.activeProfileInfo, s.nativeSession,
    s.connectionAttempt, s.reconnectFuture, s.networkReconnectRequested,
    s.nextConnectionGeneration, s.workers, s.cancelled, s.closedSessions, s.connectionSessions⟩

namespace Core

variable (c : Core)

/-- `cancelConnectionAttempt`. -/
def cancel : Core :=
  { c with
    connectionAttempt := none
    cancelled := (c.connectionAttempt.map ConnectionAttempt.generation).toList ++ c.cancelled
    closedSessions :=
      (c.connectionAttempt.map ConnectionAttempt.generation).toList ++ c.closedSessions }

def quiet : Core :=
  { c.cancel with reconnectFuture := none, networkReconnectRequested := false }

/-- `closeNativeSession`. -/
def close : Core :=
  { c with
    nativeSession := none
    closedSessions := c.nativeSession.toList ++ c.closedSessions }

def launch (reference : ProfileReference) (profile : ProfileConfig) (network : Network) : Core :=
  { c.cancel with
    nextConnectionGeneration := c.nextConnectionGeneration + 1
    connectionAttempt := some ⟨c.nextConnectionGeneration + 1, reference, network⟩
    workers := c.workers ++
      [⟨⟨c.nextConnectionGeneration + 1, reference, network⟩, profile, none⟩] }

/-- The profile that is started. -/
def select (reference : ProfileReference) (profile : ProfileConfig) : Core :=
  { c with activeProfile := some reference, activeProfileInfo := some (ProfileInfo.from profile) }

def collect (i : ℕ) : Core := { c with workers := c.workers.eraseIdx i }

def closeResult (generation : ℕ) : Except Throwable StartedSession → Core
  | .ok _ => { c with closedSessions := generation :: c.closedSessions }
  | .error _ => c

def Accepts (attempt : ConnectionAttempt) : Prop :=
  attempt.generation ∉ c.cancelled ∧
    c.connectionAttempt.map ConnectionAttempt.generation = some attempt.generation

/-! ## What a command can do -/

variable (env : Env) (target : Option ProfileReference)

/-- What a failed attempt comes to, with the profile that the failover walk names. -/
inductive Failed (c : Core) : Core → Prop
  | fatal : c.publishedState ≠ .error → Failed c { c with
      reconnectFuture := none, networkReconnectRequested := false, publishedState := .error }
  | retry (future) : c.publishedState.reconnectable = true →
      (c.activeNetwork ≠ none → future ≠ none) → Failed c { c with
        networkReconnectRequested := true, activeProfile := target <|> c.activeProfile
        reconnectFuture := future, publishedState := .reconnecting }

inductive Move (c : Core) : Core → Prop
  | keep : Move c c
  /-- A start without a profile. -/
  | fail : c.publishedState ≠ .error → Move c { c with publishedState := .error }
  /-- A switch to a profile that cannot be loaded, or a stop with nothing to stop. -/
  | quiet (state) : state ≠ .connecting → state ≠ .reconnecting →
      c.publishedState = state → Move c { c.quiet with publishedState := state }
  /-- A start of a profile that cannot be loaded. -/
  | missing : c.publishedState = .noProfile ∨ c.publishedState = .disconnected →
      Move c { c.quiet with
        activeProfile := none, activeProfileInfo := none, publishedState := .error }
  /-- A start without a network. -/
  | await (reference profile) :
      Service.loadProfile env reference = .ok profile → c.activeNetwork = none →
      c.publishedState = .noProfile ∨ c.publishedState.canStart = true →
      Move c { c.quiet.select reference profile with
        networkReconnectRequested := true, publishedState := .reconnecting }
  /-- A start. -/
  | start (reference profile network) :
      Service.loadProfile env reference = .ok profile → c.activeNetwork = some network →
      c.publishedState = .noProfile ∨ c.publishedState.canStart = true →
      Move c { (c.quiet.select reference profile).launch reference profile network with
        publishedState := .connecting }
  /-- Another profile while the service is connected and has no network. -/
  | switchAwait (reference profile) :
      Service.loadProfile env reference = .ok profile → c.activeNetwork = none →
      c.publishedState = .connected →
      Move c { (c.quiet.select reference profile).close with
        networkReconnectRequested := true, publishedState := .reconnecting }
  /-- Another profile while the service is connected. -/
  | switch (reference profile network) :
      Service.loadProfile env reference = .ok profile → c.activeNetwork = some network →
      c.publishedState = .connected →
      Move c { (c.quiet.select reference profile).close.launch reference profile network with
        publishedState := .reconnecting }
  /-- A stop whose `releaseTun` throws. -/
  | stopFails : c.nativeSession ≠ none → env.releaseTunFailure ≠ none →
      Move c { c.quiet with publishedState := .error }
  /-- A stop. -/
  | stop (next) : next = .noProfile ∨ next = .disconnected ∨ next = .error →
      Move c { c.quiet.close with publishedState := next }
  /-- A reconnect is asked for, at once or when there is a network. -/
  | reconnect (network future) : (network ≠ none → future ≠ none) →
      c.activeProfile ≠ none → c.publishedState.reconnectable = true →
      Move c { c.cancel.close with
        activeNetwork := network, reconnectFuture := future, networkReconnectRequested := true
        publishedState := .reconnecting }
  /-- A network comes or goes that nobody waits for. -/
  | network (network) :
      c.activeProfile = none ∨ c.publishedState.reconnectable = false →
      Move c { c with activeNetwork := network }
  /-- The thread of an attempt ends it. -/
  | result (i attempt profile outcome) :
      c.workers[i]? = some ⟨attempt, profile, none⟩ → Move c { c with
        workers := c.workers.set i ⟨attempt, profile,
          some (Service.workerResult (attempt.generation ∈ c.cancelled) outcome)⟩ }
  /-- The thread skips an attempt that was cancelled. -/
  | drop (i attempt profile) :
      c.workers[i]? = some ⟨attempt, profile, none⟩ → attempt.generation ∈ c.cancelled →
      Move c (c.collect i)
  /-- A completion that comes too late. -/
  | late (i attempt profile result) :
      c.workers[i]? = some ⟨attempt, profile, some result⟩ → ¬c.Accepts attempt →
      Move c ((c.collect i).closeResult attempt.generation result)
  /-- A completion after the network has changed. -/
  | moved (i attempt profile result future) :
      c.workers[i]? = some ⟨attempt, profile, some result⟩ → c.Accepts attempt →
      c.publishedState.reconnectable = true → (c.activeNetwork ≠ none → future ≠ none) →
      Move c { (c.collect i).closeResult attempt.generation result with
        connectionAttempt := none, networkReconnectRequested := true, reconnectFuture := future
        publishedState := .reconnecting }
  /-- The completion of an attempt that succeeded. -/
  | connected (i attempt profile started sessions) :
      c.workers[i]? = some ⟨attempt, profile, some (.ok started)⟩ → c.Accepts attempt →
      c.publishedState = .connecting ∨ c.publishedState = .reconnecting →
      (sessions = c.connectionSessions ∨ ∃ info, c.activeProfileInfo = some info ∧
        sessions = c.connectionSessions ++
          [⟨attempt.reference.sessionId, info.name, info.protocol, env.networkType⟩]) →
      Move c { c.collect i with
        connectionAttempt := none, nativeSession := some attempt.generation
        reconnectFuture := none, networkReconnectRequested := false
        connectionSessions := sessions, publishedState := .connected }
  /-- The completion of one that failed. -/
  | failed (i attempt profile f c') :
      c.workers[i]? = some ⟨attempt, profile, some (.error (.failure f))⟩ → c.Accepts attempt →
      Failed target { c.collect i with connectionAttempt := none } c' →
      Move c c'
  /-- A scheduled reconnect without a profile. -/
  | fireIdle : c.activeProfile = none → Move c { c with
      reconnectFuture := none, networkReconnectRequested := false }
  /-- A scheduled reconnect that is not wanted any more or has no network. -/
  | fireOff : c.networkReconnectRequested = false ∨ c.activeNetwork = none →
      Move c { c with reconnectFuture := none }
  /-- A scheduled reconnect. -/
  | fire (reference profile network) :
      c.reconnectFuture ≠ none → c.activeProfile = some reference →
      Service.loadProfile env reference = .ok profile → c.activeNetwork = some network →
      Move c (launch { c with reconnectFuture := none } reference profile network)
  /-- A scheduled reconnect of a profile that cannot be loaded. -/
  | fireFails (c') : c.reconnectFuture ≠ none → c.activeProfile ≠ none →
      Failed target { c with reconnectFuture := none } c' → Move c c'

/-- What is left behind when such an end is refused its transition. -/
inductive FailedRefusal (c : Core) : Core → Prop
  | mk (future : Option ℕ) (requested : Bool) :
      future = none ∨ future = c.reconnectFuture ∧ requested = true →
      FailedRefusal c { c with
        reconnectFuture := future, networkReconnectRequested := requested
        publishedState := .error }

/-- What is left behind by a command that is refused a transition, which happens in `ERROR`. -/
inductive Refusal (c : Core) : Core → Prop
  | keep : Refusal c c
  | missing : Refusal c { c.quiet with
      activeProfile := none, activeProfileInfo := none, publishedState := .error }
  | moved (i attempt profile result) :
      c.workers[i]? = some ⟨attempt, profile, some result⟩ → c.Accepts attempt →
      Refusal c { (c.collect i).closeResult attempt.generation result with
        connectionAttempt := none, networkReconnectRequested := true, publishedState := .error }
  | connected (i attempt profile started) :
      c.workers[i]? = some ⟨attempt, profile, some (.ok started)⟩ → c.Accepts attempt →
      Refusal c { c.collect i with
        connectionAttempt := none, nativeSession := some attempt.generation
        publishedState := .error }
  | failed (i attempt profile f c') :
      c.workers[i]? = some ⟨attempt, profile, some (.error (.failure f))⟩ → c.Accepts attempt →
      FailedRefusal { c.collect i with connectionAttempt := none } c' →
      Refusal c c'
  | fireFails (c') : c.reconnectFuture ≠ none →
      FailedRefusal { c with reconnectFuture := none } c' → Refusal c c'

end Core

section

variable (env : Env) (target : Option ProfileReference)

/-- The command does one of these, and is refused a transition in one case only. -/
def Moves (c : Core) (refused : Prop) (r : Except Rejection Service) : Prop :=
  Ends (fun s => ¬refused ∧ c.Move env target s.core)
    (fun e => refused ∧ c.Refusal e.service.core) r

end

variable {env : Env} {target : Option ProfileReference}

lemma Moves.congr {c : Core} {p q : Prop} {r : Except Rejection Service}
    (h : Moves env target c p r) (hpq : p ↔ q) : Moves env target c q r :=
  propext hpq ▸ h

namespace Service

variable {s : Service} {P : Service → Prop} {Q : Rejection → Prop}
  {reference : ProfileReference} {profile : ProfileConfig}

@[simp] lemma ends_transition {next : VpnState} {error : Option UserError} :
    Ends P Q (s.transition env next error) ↔
      (next ∈ s.publishedState.allowedTransitions → P (s.publish env next error)) ∧
      (next ∉ s.publishedState.allowedTransitions → Q ⟨s, next⟩) := ends_ite

@[simp] lemma ends_transitionUnless {next : VpnState} :
    Ends P Q (s.transitionUnless env next) ↔
      (s.publishedState = next → P s) ∧
      (s.publishedState ≠ next → Ends P Q (s.transition env next none)) := ends_ite

lemma cancelConnectionAttempt_eq (s : Service) : s.cancelConnectionAttempt =
    { s with
      connectionAttempt := none
      cancelled := (s.connectionAttempt.map ConnectionAttempt.generation).toList ++ s.cancelled
      closedSessions :=
        (s.connectionAttempt.map ConnectionAttempt.generation).toList ++ s.closedSessions } := by
  rw [cancelConnectionAttempt]
  cases h : s.connectionAttempt with
  | none =>
    show s = _
    rw [Option.map_none, Option.toList_none, List.nil_append, List.nil_append, ← h]
  | some a => rfl

@[simp] lemma ends_launchConnectionAttempt {reconnecting : Bool} :
    Ends P Q (s.launchConnectionAttempt env reference profile reconnecting) ↔
      (s.activeNetwork = none → Ends P Q (transitionUnless env
        (publishStage { s with networkReconnectRequested := true } .waitNetwork) .reconnecting)) ∧
      ∀ network, s.activeNetwork = some network → Ends P Q (do
        let s := s.cancelConnectionAttempt
        let attempt : ConnectionAttempt := ⟨s.nextConnectionGeneration + 1, reference, network⟩
        let s := { s with
          nextConnectionGeneration := s.nextConnectionGeneration + 1
          connectionAttempt := some attempt }
        let s ← if reconnecting then .ok s else s.transition env .connecting none
        return { s with workers := s.workers ++ [{ attempt := attempt, profile := profile }] }) :=
  by
  rw [launchConnectionAttempt]
  cases s.activeNetwork with
  | none => exact ⟨fun h => ⟨fun _ => h, nofun⟩, fun h => h.1 rfl⟩
  | some network => exact ⟨fun h => ⟨nofun, fun _ heq => by cases heq; exact h⟩, fun h => h.2 _ rfl⟩

@[simp] lemma ends_restartProfile :
    Ends P Q (s.restartProfile env reference) ↔
      let s' := publishStage { s.cancelAutomaticReconnect.cancelConnectionAttempt with
        publishedError := none, failoverState := {} } .loadProfile
      (∀ f, loadProfile env reference = .error f → Ends P Q (s'.startProfileFailed env reference
        (decide (s.publishedState = .connected)) s.activeProfile f)) ∧
      ∀ profile, loadProfile env reference = .ok profile → Ends P Q (s'.startProfileLoaded env
        reference (decide (s.publishedState = .connected)) profile) := by
  rw [restartProfile]
  cases loadProfile env reference <;> simp

attribute [local simp] publish publishStage closeNativeSession cancelAutomaticReconnect
  cancelFailover cancelConnectionAttempt_eq persistVpnIntent finishConnectionSession
  transitionToError VpnState.allowedTransitions VpnState.canStart VpnState.reconnectable

lemma startProfile_moves (s : Service) (reference : ProfileReference) :
    Moves env target s.core (s.publishedState = .error ∧ ∃ f, loadProfile env reference = .error f)
      (s.startProfile env reference) := by
  cases hs : s.publishedState <;>
    simp [Moves, startProfile, startProfileLoaded, startProfileFailed, hs]
  all_goals repeat' first | apply And.intro | intro _
  all_goals first | exact .keep | (constructor <;> simp_all [core]) | simp_all

@[local simp] lemma scheduleAutomaticReconnect_eq (s : Service) (delay : ℕ) :
    s.scheduleAutomaticReconnect delay = { s with
      reconnectFuture := if s.networkReconnectRequested = false ∨ s.activeNetwork = none ∨
        s.reconnectFuture ≠ none then s.reconnectFuture else some delay } := by
  rw [scheduleAutomaticReconnect]
  split_ifs <;> rfl

lemma requestNetworkReconnect_moves {c : Core}
    (hc : s.core = { c with activeNetwork := s.activeNetwork }) {delay : Option ℕ}
    (hdelay : s.activeNetwork ≠ none → delay ≠ none) :
    Moves env target c False (s.requestNetworkReconnect env delay) := by
  obtain ⟨_, network, _, _, _, _, _, _, _, _, _, _, _⟩ := c
  simp only [core, Core.mk.injEq] at hc
  obtain ⟨rfl, -, rfl, rfl, rfl, rfl, rfl, rfl, rfl, rfl, rfl, rfl, rfl⟩ := hc
  cases delay <;> cases hs : s.publishedState <;> simp [Moves, requestNetworkReconnect, hs]
  all_goals repeat' first | apply And.intro | intro _
  all_goals first | exact hs ▸ .network _ (by simp_all) | (constructor <;> simp_all)

lemma reconnectVpn_moves (s : Service) :
    Moves env target s.core (s.publishedState = .error ∧ ∃ reference f,
      s.activeProfile = some reference ∧ loadProfile env reference = .error f)
      (s.reconnectVpn env) := by
  rw [reconnectVpn]
  split
  · rename_i hp
    exact ⟨by simp [hp], .keep⟩
  · rename_i reference hp
    have hstart : Moves env target s.core (s.publishedState = .error ∧ ∃ r f,
        s.activeProfile = some r ∧ loadProfile env r = .error f)
        (s.cancelFailover.startProfile env reference) := by
      refine (startProfile_moves s.cancelFailover reference).congr ?_
      simp [hp, cancelFailover]
    dsimp only
    split <;> rename_i hs <;> try change s.publishedState = _ at hs
    · clear hstart
      simp [Moves, hs]
      constructor <;> intro _ <;> apply Core.Move.reconnect <;> simp_all [core]
    · clear hstart
      simp [Moves]
      constructor <;> intro _ <;>
        exact ⟨by simp [hs], hs ▸ .reconnect _ _ (by simp_all) (by simp_all [core])
          (by simp_all [core])⟩
    · exact hstart
    · exact hstart
    · exact ⟨by simp_all, .keep⟩

lemma stopSession_moves {c : Core} (hs : s.publishedState = .stopping)
    (hc : s.core = { c.quiet with publishedState := .stopping }) :
    Moves env target c False (s.stopSession env) := by
  have hnative : c.nativeSession = s.nativeSession := (congrArg Core.nativeSession hc).symm
  have hstop : ∀ next, next = .noProfile ∨ next = .disconnected ∨ next = .error →
      c.Move env target { s.core.close with publishedState := next } := by
    intro next hnext
    rw [hc]
    exact .stop next hnext
  rw [stopSession]
  split
  · simp only [Moves, finishConnectionSession, ends_transition, hs]
    refine ⟨fun _ => ⟨not_false, ?_⟩, fun hnot => absurd (by decide) hnot⟩
    show c.Move env target { s.core with publishedState := .error }
    rw [hc]
    exact .stopFails (by simp_all [finishConnectionSession]) (by simp_all)
  · simp only [Moves, finishConnectionSession, ends_bind, ends_transition, hs]
    refine ⟨fun _ => ?_, fun hnot => absurd (by split_ifs <;> decide) hnot⟩
    split
    · simp only [ends_transition]
      refine ⟨fun _ => ⟨not_false, hstop .error (by simp)⟩, fun hnot => absurd ?_ hnot⟩
      simp only [publish, closeNativeSession]
      split_ifs <;> decide
    · exact ⟨not_false, hstop _ (by split_ifs <;> simp)⟩

lemma stopVpn_moves (s : Service) : Moves env target s.core False (s.stopVpn env) := by
  cases hs : s.publishedState
  case noProfile | disconnected | stopping =>
    simp [Moves, stopVpn, hs]
    constructor <;> simp [core, hs]
  all_goals
    simp only [stopVpn, cancelAutomaticReconnect, cancelFailover, cancelConnectionAttempt_eq, hs,
      Moves, ends_bind, ends_transition, publishStage]
    exact ⟨fun _ => stopSession_moves rfl rfl, fun hnot => absurd (by decide) hnot⟩

/-- The states in which an attempt ends or a reconnect is scheduled. -/
def Active (s : Service) : Prop :=
  s.publishedState = .connecting ∨ s.publishedState = .reconnecting ∨ s.publishedState = .error

lemma handleConnectionFailure_moves (env : Env) (hs : s.Active) (f : Failure) :
    Ends (fun s' => s.publishedState ≠ .error ∧
        s.core.Failed (s.nextFailoverTarget env).2 s'.core)
      (fun e => s.publishedState = .error ∧ s.core.FailedRefusal e.service.core)
      (s.handleConnectionFailure env (.failure f)) := by
  cases ht : s.nextFailoverTarget env with
  | mk state target =>
    rcases hs with hs | hs | hs <;> cases target <;>
      simp [handleConnectionFailure, failFatally, retryConnection, hs, ht, scheduleBackoff]
    all_goals repeat' first | intro _ | apply And.intro
    all_goals constructor <;> simp_all [core] <;> grind

/-! ### The failover walk -/

/-- The walk that `nextFailoverTarget` goes on with. -/
def failoverWalk (s : Service) (env : Env) (failed : ProfileReference) :
    ProfileFailover.FailoverState :=
  if s.failoverState.order ≠ env.failoverOrder then
    ProfileFailover.start env.failoverOrder failed.sessionId
  else s.failoverState

/-- The walk and the active profile after a failed attempt. -/
def afterFailure (env : Env) (s : Service) : Service :=
  let (failoverState, failoverTarget) := s.nextFailoverTarget env
  { s with failoverState := failoverState, activeProfile := failoverTarget <|> s.activeProfile }

lemma retryConnection_afterFailure (env : Env) (s : Service) :
    Ends (fun s' => s'.failoverState = (s.afterFailure env).failoverState ∧
      s'.activeProfile = (s.afterFailure env).activeProfile) (fun _ => True)
      (s.retryConnection env) := by
  cases ht : s.nextFailoverTarget env with
  | mk state target =>
    cases target <;>
      simp [retryConnection, afterFailure, ht, scheduleBackoff, publish, persistVpnIntent]

lemma afterFailure_of_next (hauto : env.autoFailover = true) (htwo : 2 ≤ env.failoverOrder.length)
    {failed : ProfileReference} (hactive : s.activeProfile = some failed)
    {updated : ProfileFailover.FailoverState} {next : ProfileReference}
    (hf : ProfileFailover.onFailure (s.failoverWalk env failed) failed.sessionId =
      (updated, some next.sessionId))
    (hparse : ProfileReference.parse env.tables next.sessionId = some next) :
    (s.afterFailure env).failoverState = updated ∧ ∃ p,
      (s.afterFailure env).activeProfile = some p ∧ p.sessionId = next.sessionId := by
  have htarget : s.nextFailoverTarget env =
      (updated, if next.sessionId = failed.sessionId then none else some next) := by
    rw [nextFailoverTarget, if_neg (by simp [hauto]), hactive]
    dsimp only
    rw [if_neg (by omega), ← failoverWalk, hf]
    split_ifs <;> simp_all
  rw [afterFailure, htarget]
  split_ifs with hsame
  · exact ⟨rfl, failed, hactive, hsame.symm⟩
  · exact ⟨rfl, next, rfl, rfl⟩

lemma order_failoverWalk (env : Env) (s : Service) (failed : ProfileReference) :
    (s.failoverWalk env failed).order = env.failoverOrder := by
  rw [failoverWalk]
  split_ifs with hne
  · rfl
  · exact not_not.mp hne

/-- **The service carries out the walk.**  With automatic failover, and as long as every attempt
fails, the active profiles are those of `failures`, one after the other. -/
theorem iterate_afterFailure (hauto : env.autoFailover = true)
    (htwo : 2 ≤ env.failoverOrder.length) (hnamed : ∀ r ∈ env.failoverOrder, ∃ p,
      ProfileReference.parse env.tables r = some p ∧ p.sessionId = r)
    {failed : ProfileReference} (hactive : s.activeProfile = some failed) {fuel : ℕ}
    {tried : List Text}
    (h : ProfileFailover.failures fuel (s.failoverWalk env failed) failed.sessionId = some tried) :
    (List.iterate (afterFailure env) s tried.length).map
      (fun s => s.activeProfile.map ProfileReference.sessionId) = tried.map some := by
  induction fuel generalizing s failed tried with
  | zero => cases h
  | succ fuel ih =>
    have horder := order_failoverWalk env s failed
    cases hf : ProfileFailover.onFailure (s.failoverWalk env failed) failed.sessionId with
    | mk updated next =>
      rw [ProfileFailover.failures, hf] at h
      cases next with
      | none =>
        obtain rfl := Option.some.inj h
        simp [hactive]
      | some next =>
        obtain ⟨rest, hrest, rfl⟩ := Option.map_eq_some_iff.mp h
        have hupdated : updated.order = env.failoverOrder := by
          rw [← horder, ← ProfileFailover.onFailure_order (s.failoverWalk env failed), hf]
        have hmem : next ∈ (s.failoverWalk env failed).order :=
          ProfileFailover.mem_of_onFailure (by rw [hf])
        obtain ⟨p, hparse, rfl⟩ := hnamed next (horder ▸ hmem)
        obtain ⟨hstate, failed', hactive', hfailed'⟩ :=
          afterFailure_of_next hauto htwo hactive hf hparse
        -- the list has not changed, so the walk goes on where it was left
        have hwalk : (s.afterFailure env).failoverWalk env failed' = updated := by
          rw [failoverWalk, hstate, if_neg (not_not.mpr hupdated)]
        have hih := ih hactive' (by rwa [hwalk, hfailed'])
        simp [hactive, hih]

lemma automaticReconnect_moves (hs : s.Active) (hfuture : s.reconnectFuture ≠ none)
    (hrequested : s.networkReconnectRequested = true) :
    Moves env (s.nextFailoverTarget env).2 s.core
      (s.publishedState = .error ∧ s.activeNetwork ≠ none ∧ ∃ reference f,
        s.activeProfile = some reference ∧ loadProfile env reference = .error f)
      (automaticReconnect env { s with reconnectFuture := none }) := by
  rw [automaticReconnect]
  split
  · rename_i hp
    exact ⟨by simp_all, .fireIdle hp⟩
  · rename_i reference hp
    split_ifs with hoff
    · exact ⟨by simp_all, .fireOff hoff⟩
    · have hnetwork : s.activeNetwork ≠ none := fun hnone => hoff (.inr hnone)
      dsimp only
      split
      · rename_i profile hload
        simp only [Moves, ends_launchConnectionAttempt, publishStage]
        refine ⟨fun hnone => absurd hnone hnetwork, fun network hnetwork => ⟨by simp_all, ?_⟩⟩
        rw [cancelConnectionAttempt_eq]
        exact .fire reference profile network hfuture hp hload hnetwork
      · rename_i f hload
        have hfailure := handleConnectionFailure_moves env
          (s := publishStage { s with reconnectFuture := none } .loadProfile) hs f
        refine hfailure.imp ?_ ?_
        · rintro s' ⟨hne, h⟩
          exact ⟨fun hr => hne hr.1, .fireFails _ hfuture (by simp_all [core]) h⟩
        · rintro e ⟨hs, h⟩
          exact ⟨⟨hs, hnetwork, reference, f, hp, hload⟩, .fireFails _ hfuture h⟩

lemma startConnectionSession_eq (env : Env) (s : Service) (reference : ProfileReference) :
    ∃ id sessions, s.startConnectionSession env reference =
        { s with activeSessionId := id, connectionSessions := sessions } ∧
      (sessions = s.connectionSessions ∨ ∃ info, s.activeProfileInfo = some info ∧
        sessions = s.connectionSessions ++
          [⟨reference.sessionId, info.name, info.protocol, env.networkType⟩]) := by
  rw [startConnectionSession]
  split
  · rename_i info _ hinfo
    exact ⟨_, _, rfl, .inr ⟨info, hinfo, rfl⟩⟩
  · exact ⟨_, _, rfl, .inl rfl⟩

lemma completeConnectionAttempt_moves {i : ℕ} {attempt : ConnectionAttempt}
    {result : Except Throwable StartedSession}
    (hworker : s.workers[i]? = some ⟨attempt, profile, some result⟩)
    (hs : s.core.Accepts attempt → s.Active)
    (hresult : s.core.Accepts attempt → result ≠ .error .cancellation) :
    Moves env (s.nextFailoverTarget env).2 s.core
      (s.publishedState = .error ∧ s.core.Accepts attempt)
      (completeConnectionAttempt env { s with workers := s.workers.eraseIdx i } attempt
        result) := by
  rw [completeConnectionAttempt]
  by_cases haccepts : s.core.Accepts attempt
  · have hnot : shouldAcceptConnectionResult (s.connectionAttempt.map ConnectionAttempt.generation)
        attempt.generation (attempt.generation ∈ s.cancelled) = true := by
      simpa [shouldAcceptConnectionResult, Core.Accepts, core] using haccepts
    replace hs := hs haccepts
    simp only [hnot, Bool.true_eq_false, if_false]
    split_ifs with hnetwork
    · cases result <;> rcases hs with hs | hs | hs <;> simp [Moves, hs, closeResult, haccepts]
      all_goals repeat' first | apply And.intro | intro _
      all_goals first
        | exact .moved i attempt profile _ hworker haccepts
        | (apply Core.Move.moved i attempt profile _ _ hworker haccepts <;> simp [core, hs]
           grind)
    · cases result with
      | error error =>
        cases error with
        | cancellation => exact absurd rfl (hresult haccepts)
        | failure f =>
          have hfailure := handleConnectionFailure_moves env (s := { s with
            workers := s.workers.eraseIdx i, connectionAttempt := none }) hs f
          refine hfailure.imp ?_ ?_
          · rintro s' ⟨hne, h⟩
            exact ⟨fun hr => hne hr.1, .failed i attempt profile f _ hworker haccepts h⟩
          · rintro e ⟨hs, h⟩
            exact ⟨⟨hs, haccepts⟩, .failed i attempt profile f _ hworker haccepts h⟩
      | ok started =>
        simp only [Moves, ends_bind, ends_transition, publishStage]
        refine ⟨fun hallowed => ?_, fun hnot => ?_⟩
        · obtain ⟨id, sessions, heq, hsessions⟩ := startConnectionSession_eq env
            { publish env { s with
                connectionAttempt := none, workers := s.workers.eraseIdx i
                nativeSession := some attempt.generation, activeSocksPort := some started.socksPort
                activeDnsEndpoint := some started.dns, activeSessionGeneration := attempt.generation
                publishedStage := .ready } .connected none with
              failoverState := ProfileFailover.onSuccess } attempt.reference
          have hstate : s.publishedState = .connecting ∨ s.publishedState = .reconnecting := by
            grind [VpnState.allowedTransitions, Active]
          rw [heq]
          exact ⟨by grind, .connected i attempt profile started sessions hworker haccepts hstate
            hsessions⟩
        · have hs : s.publishedState = .error := by grind [VpnState.allowedTransitions, Active]
          exact ⟨⟨hs, haccepts⟩, hs ▸ .connected i attempt profile started hworker haccepts⟩
  · have hnot : shouldAcceptConnectionResult (s.connectionAttempt.map ConnectionAttempt.generation)
        attempt.generation (attempt.generation ∈ s.cancelled) = false := by
      simpa [shouldAcceptConnectionResult, Core.Accepts, core] using haccepts
    have hlate : s.core.Move env (s.nextFailoverTarget env).2 _ :=
      .late i attempt profile result hworker haccepts
    simp only [hnot, if_true]
    exact ⟨fun hr => haccepts hr.2, by cases result <;> exact hlate⟩

end Service

end OlcRtc.Vpn
