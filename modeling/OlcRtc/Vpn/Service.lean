import Mathlib.Data.List.Infix
import OlcRtc.Client.Storage
import OlcRtc.Vpn.Failover

/-!
# The VPN service

`OlcrtcVpnService` runs its commands one at a time on one thread.  A command is something the user
or the system asks for, the end of an attempt to connect, a reconnect that was scheduled, or the
result of a health probe.  Attempts and probes run on threads of their own and hand their results
back as commands.

The state of the service is passed from statement to statement.  `VpnStateMachine.transition` throws
when the table does not allow what it is asked for: a `Rejection` carries the state in which that
happened, and the rest of the command is skipped.

What is read from outside during a command (stored profiles, settings, the clock) is the `Env` of
the command, so that it may change from one to the next.  Repositories and notifications are taken
not to throw, except where the code catches what they throw.  Traffic counters, notifications and
the wake lock are left out.
-/

namespace OlcRtc.Vpn

open Client (ProfileConfig DnsEndpoint)

/-! ## The state machine -/

/-- `VpnState`. -/
inductive VpnState
  | noProfile
  | disconnected
  | preparing
  | connecting
  | connected
  | reconnecting
  | stopping
  | error
deriving DecidableEq, Repr

namespace VpnState

def allowedTransitions : VpnState → List VpnState
  | .noProfile => [.disconnected, .error]
  | .disconnected => [.noProfile, .preparing, .error]
  | .preparing => [.connecting, .reconnecting, .stopping, .error]
  | .connecting => [.connected, .reconnecting, .stopping, .error]
  | .connected => [.reconnecting, .stopping, .error]
  | .reconnecting => [.connected, .stopping, .error]
  | .stopping => [.disconnected, .noProfile, .error]
  | .error => [.preparing, .stopping, .disconnected]

def canStart (s : VpnState) : Bool := s = .disconnected || s = .error

/-- `RECONNECTABLE_STATES`. -/
def reconnectable (s : VpnState) : Bool :=
  s = .preparing || s = .connecting || s = .connected || s = .reconnecting

end VpnState

/-- `ConnectionStage`. -/
inductive ConnectionStage
  | idle
  | loadProfile
  | waitNetwork
  | prepareAssets
  | createTun
  | startCarrier
  | startXray
  | startHev
  | verifyDatapath
  | ready
  | stopping
deriving DecidableEq, Repr

/-! ## Errors -/

structure Failure where
  isIllegalArgument : Bool := false
  message : Option Text := none

/-- What an attempt ends with: an attempt that is cancelled throws a `CancellationException`. -/
inductive Throwable
  | cancellation
  | failure (f : Failure)

inductive UserError
  | invalidProfile
  | authentication
  | timeout
  | network
  | generic
  | text (message : String)
deriving DecidableEq, Repr

def isFatalError (message : Text) : Bool :=
  "load Xray config:".toList.isPrefixOf message ||
    "create Xray instance:".toList.isPrefixOf message ||
    decide ("carrier auth failed".toList <:+: message) ||
    decide ("SOCKS5 authentication failed".toList <:+: message) ||
    decide ("message authentication failed".toList <:+: message)

/-- `isFatalConnectionError`, with the native core's opinion. -/
def isFatalReconnectError (f : Failure) : Bool :=
  f.isIllegalArgument || (f.message.any fun message => "profile ".toList.isPrefixOf message) ||
    isFatalError (f.message.getD [])

def userConnectionError (t : CharTables) (f : Failure) : UserError :=
  let message := t.lowercase (f.message.getD [])
  if "profile ".toList.isPrefixOf message || f.isIllegalArgument then .invalidProfile
  else if decide ("auth".toList <:+: message) || decide ("authentication".toList <:+: message) then
    .authentication
  else if decide ("timeout".toList <:+: message) || decide ("timed out".toList <:+: message) then
    .timeout
  else if decide ("no such host".toList <:+: message) || decide ("network".toList <:+: message) ||
      decide ("unreachable".toList <:+: message) then
    .network
  else .generic

/-! ## The service -/

/-- A network as the system names it. -/
abbrev Network := ℕ

/-- `ProfileInfo`. -/
structure ProfileInfo where
  name : Text
  protocol : Text
deriving DecidableEq

def ProfileInfo.from : ProfileConfig → ProfileInfo
  | .olcrtc p => ⟨p.name, "olcRTC · ".toList ++ p.provider.value⟩
  | .standard p => ⟨p.name, p.protocol.name⟩

structure ConnectionSession where
  profileId : Text
  profileName : Text
  protocol : Text
  networkType : Text

/-- `ConnectionAttempt`.  Its session is known by its generation. -/
structure ConnectionAttempt where
  generation : ℕ
  reference : ProfileReference
  network : Network
deriving DecidableEq

/-- `StartedSession`, of the attempt that started it. -/
structure StartedSession where
  socksPort : ℕ
  dns : DnsEndpoint

/-- An attempt on the thread that starts sessions.  It has a result once its completion has been
handed to the command thread. -/
structure Worker where
  attempt : ConnectionAttempt
  profile : ProfileConfig
  result : Option (Except Throwable StartedSession) := none

/-- A health probe on its way, with what it compares when its result comes. -/
structure HealthProbe where
  token : ℕ
  session : ℕ
  socksPort : ℕ
  generation : ℕ

/-- `OlcrtcVpnService`.  The state machine and `publishedState` change together, so there is one
field for both.  `cancelled` and `closedSessions` are the generations whose attempt was cancelled
and whose session was closed. -/
structure Service where
  publishedState : VpnState := .noProfile
  publishedStage : ConnectionStage := .idle
  publishedError : Option UserError := none
  activeProfile : Option ProfileReference := none
  activeProfileInfo : Option ProfileInfo := none
  failoverState : ProfileFailover.FailoverState := {}
  activeSessionId : Option ℕ := none
  connectionSessions : List ConnectionSession := []
  notificationTicker : Bool := false
  activeSocksPort : Option ℕ := none
  activeDnsEndpoint : Option DnsEndpoint := none
  nativeSession : Option ℕ := none
  connectionAttempt : Option ConnectionAttempt := none
  nextConnectionGeneration : ℕ := 0
  activeSessionGeneration : ℕ := 0
  reconnectFuture : Option ℕ := none
  networkReconnectRequested : Bool := false
  reconnectBackoff : ℕ := 0
  reconnectAttemptCount : ℕ := 0
  healthProbeInFlight : Bool := false
  healthProbeFailures : ℕ := 0
  healthProbeToken : ℕ := 0
  lastHealthProbeAt : ℤ := 0
  activeNetwork : Option Network := none
  vpnIntent : VpnIntent := {}
  workers : List Worker := []
  probes : List HealthProbe := []
  cancelled : List ℕ := []
  closedSessions : List ℕ := []

/-- What a command reads from outside. -/
structure Env where
  tables : CharTables
  /-- `ProfileRepository.get` and `getSubscriptionProfile`. -/
  stored : ProfileReference → Except Failure (Option ProfileConfig)
  /-- `getAutoFailover`. -/
  autoFailover : Bool
  /-- `orderedFailoverReferences`. -/
  failoverOrder : List Text
  /-- `isUserUnlocked`. -/
  userUnlocked : Bool
  /-- `currentNetworkType`. -/
  networkType : Text
  /-- What `releaseTun` throws. -/
  releaseTunFailure : Option Failure
  /-- What `close` throws at the end of a session. -/
  closeFailure : Option Failure
  /-- `System.currentTimeMillis`. -/
  now : ℤ

/-- A transition that the state machine refused, with the service as the command left it. -/
structure Rejection where
  service : Service
  next : VpnState

namespace Service

variable (env : Env) (s : Service)

/-! ### Statements that do not throw -/

def publishStage (stage : ConnectionStage) : Service := { s with publishedStage := stage }

def persistVpnIntent (desiredConnected : Bool) (reference : Option ProfileReference) : Service :=
  { s with vpnIntent := .of desiredConnected reference }

def cancelAutomaticReconnect : Service :=
  { s with
    networkReconnectRequested := false
    reconnectFuture := none
    reconnectBackoff := 0
    reconnectAttemptCount := 0 }

def cancelFailover : Service := { s with failoverState := ProfileFailover.onSuccess }

def cancelConnectionAttempt : Service :=
  match s.connectionAttempt with
  | none => s
  | some attempt =>
    { s with
      connectionAttempt := none
      cancelled := attempt.generation :: s.cancelled
      closedSessions := attempt.generation :: s.closedSessions }

/-- `closeNativeSession`.  What it throws it throws at its end. -/
def closeNativeSession : Service :=
  { s with
    activeSocksPort := none
    activeDnsEndpoint := none
    activeSessionGeneration := 0
    healthProbeFailures := 0
    healthProbeInFlight := false
    healthProbeToken := s.healthProbeToken + 1
    nativeSession := none
    closedSessions := s.nativeSession.toList ++ s.closedSessions }

/-- `scheduleAutomaticReconnect` with a delay in milliseconds. -/
def scheduleAutomaticReconnect (delayMillis : ℕ) : Service :=
  if s.networkReconnectRequested = false ∨ s.activeNetwork = none ∨ s.reconnectFuture ≠ none then s
  else { s with reconnectFuture := some delayMillis }

def delaysMillis : List ℕ := [1000, 2000, 5000, 10000, 30000, 60000]

/-- `scheduleAutomaticReconnect` with the next delay of the backoff. -/
def scheduleBackoff : Service :=
  let delayMillis := delaysMillis.getD (min s.reconnectBackoff 5) 0
  { s with reconnectBackoff := s.reconnectBackoff + 1 }.scheduleAutomaticReconnect delayMillis

def startConnectionSession (reference : ProfileReference) : Service :=
  match s.activeSessionId, s.activeProfileInfo with
  | none, some profile =>
    { s with
      activeSessionId := some s.connectionSessions.length
      connectionSessions := s.connectionSessions ++
        [⟨reference.sessionId, profile.name, profile.protocol, env.networkType⟩] }
  | _, _ => s

def finishConnectionSession : Service := { s with activeSessionId := none }

/-- `loadProfile`, with the error for a profile that is not there. -/
def loadProfile (reference : ProfileReference) : Except Failure ProfileConfig :=
  match env.stored reference with
  | .error f => .error f
  | .ok (some profile) => .ok profile
  | .ok none => .error
      { message := some ("profile ".toList ++ reference.displayId ++ " not found".toList) }

/-- `nextFailoverTarget`: the walk after it, and the profile to try next. -/
def nextFailoverTarget : ProfileFailover.FailoverState × Option ProfileReference :=
  if env.autoFailover = false then (ProfileFailover.onSuccess, none)
  else
    match s.activeProfile with
    | none => (s.failoverState, none)
    | some failed =>
      if env.failoverOrder.length < 2 then (s.failoverState, none)
      else
        let state :=
          if s.failoverState.order ≠ env.failoverOrder then
            ProfileFailover.start env.failoverOrder failed.sessionId
          else s.failoverState
        let (updated, next) := ProfileFailover.onFailure state failed.sessionId
        if next = none ∨ next = some failed.sessionId then (updated, none)
        else (updated, next.bind (ProfileReference.parse env.tables))

/-! ### Transitions -/

/-- The new state is published.  The notification ticker runs while the service is connected. -/
def publish (next : VpnState) (error : Option UserError) : Service :=
  { s with
    publishedState := next
    publishedError := error
    publishedStage := if next = .noProfile ∨ next = .disconnected then .idle else s.publishedStage
    notificationTicker := next = .connected
    lastHealthProbeAt :=
      if next = .connected ∧ s.notificationTicker = false then env.now else s.lastHealthProbeAt }

def transition (next : VpnState) (error : Option UserError) : Except Rejection Service :=
  if next ∈ s.publishedState.allowedTransitions then .ok (s.publish env next error)
  else .error ⟨s, next⟩

/-- `if (publishedState != next) transition(next)`. -/
def transitionUnless (next : VpnState) : Except Rejection Service :=
  if s.publishedState = next then .ok s else s.transition env next none

def transitionToError (error : UserError) : Except Rejection Service :=
  s.transition env .error (some error)

/-! ### Connecting -/

def launchConnectionAttempt (reference : ProfileReference) (profile : ProfileConfig)
    (reconnecting : Bool) : Except Rejection Service :=
  match s.activeNetwork with
  | none =>
    transitionUnless env
      (publishStage { s with networkReconnectRequested := true } .waitNetwork) .reconnecting
  | some network => do
    let s := s.cancelConnectionAttempt
    let attempt : ConnectionAttempt := ⟨s.nextConnectionGeneration + 1, reference, network⟩
    let s := { s with
      nextConnectionGeneration := s.nextConnectionGeneration + 1
      connectionAttempt := some attempt }
    let s ← if reconnecting then .ok s else s.transition env .connecting none
    return { s with workers := s.workers ++ [{ attempt := attempt, profile := profile }] }

/-- `startProfile` for a profile that could not be loaded. -/
def startProfileFailed (reference : ProfileReference) (switchingProfile : Bool)
    (previousReference : Option ProfileReference) (f : Failure) : Except Rejection Service :=
  if switchingProfile then
    .ok { s.persistVpnIntent true previousReference with
      publishedError := some (userConnectionError env.tables f) }
  else
    transitionToError env
      (persistVpnIntent { s with activeProfile := none, activeProfileInfo := none } false
        (some reference))
      (userConnectionError env.tables f)

/-- `startProfile` for a profile that was loaded. -/
def startProfileLoaded (reference : ProfileReference) (switchingProfile : Bool)
    (profile : ProfileConfig) : Except Rejection Service :=
  let s := { s with
    activeProfile := some reference, activeProfileInfo := some (ProfileInfo.from profile) }
  if switchingProfile then do
    let s ← s.finishConnectionSession.transition env .reconnecting none
    s.closeNativeSession.launchConnectionAttempt env reference profile true
  else do
    let s ← s.transition env .preparing none
    if s.activeNetwork = none then
      transition env (publishStage { s with networkReconnectRequested := true } .waitNetwork)
        .reconnecting none
    else s.launchConnectionAttempt env reference profile false

/-- `startProfile` from a state in which a profile may be started. -/
def restartProfile (reference : ProfileReference) : Except Rejection Service :=
  let switchingProfile := decide (s.publishedState = .connected)
  let previousReference := s.activeProfile
  let s := s.cancelAutomaticReconnect.cancelConnectionAttempt
  let s := publishStage { s with publishedError := none, failoverState := {} } .loadProfile
  match loadProfile env reference with
  | .error f => s.startProfileFailed env reference switchingProfile previousReference f
  | .ok profile => s.startProfileLoaded env reference switchingProfile profile

def startProfile (reference : ProfileReference) : Except Rejection Service := do
  let s ← if s.publishedState = .noProfile then s.transition env .disconnected none else .ok s
  if s.publishedState = .connected ∧ s.activeProfile = some reference then return s
  else if s.publishedState ≠ .connected ∧ s.publishedState.canStart = false then return s
  else s.restartProfile env reference

/-! ### Failures and reconnects -/

/-- `handleConnectionFailure` for an error that another attempt would meet again. -/
def failFatally (f : Failure) : Except Rejection Service :=
  let s := cancelAutomaticReconnect { s with failoverState := ProfileFailover.onSuccess }
  let s := s.finishConnectionSession.persistVpnIntent false
    (s.activeProfile <|> s.vpnIntent.get.persistedProfileReference)
  s.transition env .error (some (userConnectionError env.tables f))

/-- `handleConnectionFailure` for other errors: the next profile of the walk is tried, or the same
one after a while. -/
def retryConnection : Except Rejection Service := do
  let (failoverState, failoverTarget) := s.nextFailoverTarget env
  let s ← transitionUnless env
    { s with
      failoverState := failoverState
      networkReconnectRequested := true
      reconnectAttemptCount := s.reconnectAttemptCount + 1 } .reconnecting
  match failoverTarget with
  | some target =>
    let s := persistVpnIntent { s with activeProfile := some target } true (some target)
    return s.scheduleAutomaticReconnect 0
  | none => return s.scheduleBackoff

def handleConnectionFailure : Throwable → Except Rejection Service
  | .cancellation => .ok s
  | .failure f => if isFatalReconnectError f then s.failFatally env f else s.retryConnection env

def requestNetworkReconnect (delayMillis : Option ℕ) : Except Rejection Service :=
  if s.activeProfile = none ∨ s.publishedState.reconnectable = false then .ok s
  else do
    let s := { s with networkReconnectRequested := true, reconnectFuture := none }
    let s := s.cancelConnectionAttempt.closeNativeSession
    let s ← s.transitionUnless env .reconnecting
    let s := s.publishStage (if s.activeNetwork = none then .waitNetwork else .loadProfile)
    match delayMillis with
    | some delay => return s.scheduleAutomaticReconnect delay
    | none => return s

/-- `automaticReconnect`, when the scheduled reconnect fires.  There is a network when the attempt
is launched, so nothing in the `try` block asks for a transition. -/
def automaticReconnect : Except Rejection Service :=
  match s.activeProfile with
  | none => .ok s.cancelAutomaticReconnect
  | some reference =>
    if s.networkReconnectRequested = false ∨ s.activeNetwork = none then .ok s
    else
      let s := s.publishStage .loadProfile
      match loadProfile env reference with
      | .ok profile => s.launchConnectionAttempt env reference profile true
      | .error f => s.handleConnectionFailure env (.failure f)

def reconnectVpn : Except Rejection Service :=
  match s.activeProfile with
  | none => .ok s
  | some reference =>
    let s := s.cancelFailover
    match s.publishedState with
    | .connected => do
      let s ← s.cancelAutomaticReconnect.transition env .reconnecting none
      let s := { s with networkReconnectRequested := true }
      let s := s.cancelConnectionAttempt.closeNativeSession
      if s.activeNetwork = none then return s else return s.scheduleAutomaticReconnect 0
    | .reconnecting =>
      let s : Service := { s.cancelAutomaticReconnect with networkReconnectRequested := true }
      let s := s.cancelConnectionAttempt.closeNativeSession
      if s.activeNetwork = none then .ok s else .ok (s.scheduleAutomaticReconnect 0)
    | .disconnected | .error => s.startProfile env reference
    | _ => .ok s

/-! ### The end of an attempt -/

def shouldAcceptConnectionResult (currentGeneration : Option ℕ) (resultGeneration : ℕ)
    (cancelled : Bool) : Bool :=
  !cancelled && currentGeneration = some resultGeneration

def closeResult (attempt : ConnectionAttempt) : Except Throwable StartedSession → Service
  | .ok _ => { s with closedSessions := attempt.generation :: s.closedSessions }
  | .error _ => s

def completeConnectionAttempt (attempt : ConnectionAttempt)
    (result : Except Throwable StartedSession) : Except Rejection Service :=
  if shouldAcceptConnectionResult (s.connectionAttempt.map ConnectionAttempt.generation)
      attempt.generation (attempt.generation ∈ s.cancelled) = false then
    .ok (s.closeResult attempt result)
  else
    let s := { s with connectionAttempt := none }
    if s.activeNetwork ≠ some attempt.network then do
      let s := { s.closeResult attempt result with networkReconnectRequested := true }
      let s ← (s.publishStage .waitNetwork).transitionUnless env .reconnecting
      if s.activeNetwork = none then return s else return s.scheduleAutomaticReconnect 400
    else
      match result with
      | .ok started => do
        let s := { s with
          nativeSession := some attempt.generation
          activeSocksPort := some started.socksPort
          activeDnsEndpoint := some started.dns
          activeSessionGeneration := attempt.generation }
        let s ← (s.publishStage .ready).transition env .connected none
        let s := { s with failoverState := ProfileFailover.onSuccess }
        return (s.startConnectionSession env attempt.reference).cancelAutomaticReconnect
      | .error error => s.handleConnectionFailure env error

/-- What an attempt ends with.  Only an attempt that was cancelled throws a
`CancellationException`, and it does not return a session. -/
def workerResult (cancelled : Bool) (outcome : Except Failure StartedSession) :
    Except Throwable StartedSession :=
  if cancelled then .error .cancellation else outcome.mapError .failure

/-! ### Stopping, toggling and restoring -/

/-- The `try` block of `stopVpn`.  Both transitions are allowed from `STOPPING`, so that what is
caught is what the session throws. -/
def stopSession : Except Rejection Service := do
  let s := s.finishConnectionSession
  match s.nativeSession, env.releaseTunFailure with
  | some _, some f => s.transition env .error (some (userConnectionError env.tables f))
  | _, _ => do
    let s ← s.transition env (if s.activeProfile = none then .noProfile else .disconnected) none
    match s.nativeSession, env.closeFailure with
    | some _, some f =>
      s.closeNativeSession.transition env .error (some (userConnectionError env.tables f))
    | _, _ => return s.closeNativeSession

def stopVpn : Except Rejection Service :=
  let s := s.cancelAutomaticReconnect.cancelFailover.cancelConnectionAttempt
  match s.publishedState with
  | .preparing | .connecting | .connected | .reconnecting | .error => do
    let s ← (s.publishStage .stopping).transition env .stopping none
    s.stopSession env
  | _ => .ok s

def stop : Except Rejection Service :=
  (s.persistVpnIntent false
    (s.activeProfile <|> s.vpnIntent.get.persistedProfileReference)).stopVpn env

def startReference (reference : ProfileReference) : Except Rejection Service :=
  (s.persistVpnIntent true (some reference)).startProfile env reference

def restoreDesiredVpn (intent : VpnIntent) : Except Rejection Service :=
  if s.activeProfile ≠ none ∨
      (s.publishedState ≠ .noProfile ∧ s.publishedState ≠ .disconnected) then .ok s
  else if env.userUnlocked = false then .ok s
  else if intent.desiredConnected = false then .ok s
  else
    match intent.persistedProfileReference with
    | none => .ok (s.persistVpnIntent false none)
    | some reference => s.startReference env reference

def toggleDesiredVpn : Except Rejection Service :=
  let desired := s.vpnIntent.get
  if desired.desiredConnected then
    (s.persistVpnIntent false (s.activeProfile <|> desired.persistedProfileReference)).stopVpn env
  else s.restoreDesiredVpn env { desired with desiredConnected := true }

/-! ### Networks -/

/-- `UnderlyingNetworkChange`. -/
inductive UnderlyingNetworkChange
  | keep
  | replace
  | lost
deriving DecidableEq

def underlyingNetworkChange {α : Type} [DecidableEq α] (current : Option α) (candidate : α)
    (available eligible : Bool) : UnderlyingNetworkChange :=
  if available && eligible && decide (current ≠ some candidate) then .replace
  else if !available && decide (current = some candidate) then .lost
  else .keep

def handleNetworkAvailable (network : Network) (eligible : Bool) : Except Rejection Service :=
  match underlyingNetworkChange s.activeNetwork network true eligible with
  | .keep | .lost => .ok s
  | .replace =>
    requestNetworkReconnect env
      { s with activeNetwork := some network, reconnectBackoff := 0, reconnectAttemptCount := 0 }
      (some (if s.activeNetwork = none then 0 else 400))

def handleNetworkLost (network : Network) : Except Rejection Service :=
  match underlyingNetworkChange s.activeNetwork network false false with
  | .lost => requestNetworkReconnect env { s with activeNetwork := none } none
  | _ => .ok s

/-! ### Health -/

def scheduleTunnelHealthProbe (now : ℤ) : Service :=
  if s.healthProbeInFlight ∨ now - s.lastHealthProbeAt < 180000 then s
  else
    match s.nativeSession, s.activeSocksPort, s.activeDnsEndpoint with
    | some session, some socksPort, some _ =>
      { s with
        healthProbeToken := s.healthProbeToken + 1
        healthProbeInFlight := true
        lastHealthProbeAt := now
        probes := s.probes ++
          [⟨s.healthProbeToken + 1, session, socksPort, s.activeSessionGeneration⟩] }
    | _, _, _ => s

/-- `sampleTrafficAndNotify`: whether the session runs, and whether it moved bytes. -/
def sampleTrafficAndNotify (isRunning moved : Bool) : Except Rejection Service :=
  if s.publishedState ≠ .connected then .ok s
  else if s.nativeSession = none ∨ isRunning = false then s.requestNetworkReconnect env (some 0)
  else
    let s := if moved then { s with healthProbeFailures := 0, lastHealthProbeAt := env.now } else s
    .ok (s.scheduleTunnelHealthProbe env.now)

def healthResult (probe : HealthProbe) (failed : Bool) : Except Rejection Service :=
  if probe.token ≠ s.healthProbeToken then .ok s
  else
    let s := { s with healthProbeInFlight := false }
    if s.publishedState = .connected ∧ s.nativeSession = some probe.session ∧
        s.activeSocksPort = some probe.socksPort ∧ s.activeSessionGeneration = probe.generation then
      if failed then
        let s := { s with healthProbeFailures := s.healthProbeFailures + 1 }
        if 2 ≤ s.healthProbeFailures then s.requestNetworkReconnect env (some 0) else .ok s
      else .ok { s with healthProbeFailures := 0 }
    else .ok s

end Service

/-! ## Commands -/

inductive StartRequest
  /-- `start` of the binder. -/
  | profile (profileId : ℤ)
  /-- `startSubscriptionProfile` of the binder. -/
  | subscriptionProfile (profileId : Option Text)
  /-- The start action of an intent. -/
  | action (subscriptionProfileId : Option Text) (localProfileId : ℤ)

/-- The profile of a start command, or the error for a command without one. -/
def StartRequest.reference : StartRequest → Except UserError ProfileReference
  | .profile profileId =>
    if 0 < profileId then .ok (.local profileId)
    else .error (.text "profileId must be positive")
  | .subscriptionProfile profileId =>
    match profileId.filter (!Text.isBlank ·) with
    | some profileId => .ok (.subscription profileId)
    | none => .error (.text "profileId must not be blank")
  | .action subscriptionProfileId localProfileId =>
    match subscriptionProfileId.filter (!Text.isBlank ·) with
    | some profileId => .ok (.subscription profileId)
    | none =>
      if 0 < localProfileId then .ok (.local localProfileId)
      else .error (.text "profileId is missing")

/-- What happens to the service.  Attempts and probes are named by their place in the list. -/
inductive Event
  | start (request : StartRequest)
  | stop
  | reconnect
  | toggle
  /-- Another command, or the user unlocked the device. -/
  | restore
  | networkAvailable (network : Network) (eligible : Bool)
  | networkLost (network : Network)
  /-- The thread of an attempt ends it. -/
  | attemptEnds (i : ℕ) (outcome : Except Failure StartedSession)
  /-- An attempt that was cancelled before its thread began. -/
  | attemptDropped (i : ℕ)
  /-- An attempt says what it is doing. -/
  | attemptStage (i : ℕ) (stage : ConnectionStage)
  /-- The completion of an attempt that has ended. -/
  | completion (i : ℕ)
  /-- A scheduled reconnect fires. -/
  | reconnectFires
  /-- The notification ticker. -/
  | sample (isRunning moved : Bool)
  /-- The result of a health probe. -/
  | healthResult (i : ℕ) (failed : Bool)

namespace Service

variable (env : Env) (s : Service)

/-- The thread of an attempt ends it and hands the completion over. -/
def attemptEnds (i : ℕ) (outcome : Except Failure StartedSession) : Service :=
  match s.workers[i]? with
  | some ⟨attempt, profile, none⟩ =>
    let result := workerResult (attempt.generation ∈ s.cancelled) outcome
    { s with workers := s.workers.set i ⟨attempt, profile, some result⟩ }
  | _ => s

/-- The thread skips an attempt that was cancelled. -/
def attemptDropped (i : ℕ) : Service :=
  match s.workers[i]? with
  | some ⟨attempt, _, none⟩ =>
    if attempt.generation ∈ s.cancelled then { s with workers := s.workers.eraseIdx i } else s
  | _ => s

/-- An attempt publishes its stage if it is the current one. -/
def attemptStage (i : ℕ) (stage : ConnectionStage) : Service :=
  match s.workers[i]? with
  | some worker =>
    if s.connectionAttempt = some worker.attempt ∧ worker.attempt.generation ∉ s.cancelled then
      s.publishStage stage
    else s
  | none => s

/-- One command: what it does, or the transition that it was refused. -/
def handle : Event → Except Rejection Service
  | .start request =>
    match request.reference with
    | .ok reference => s.startReference env reference
    | .error error => s.transitionToError env error
  | .stop => s.stop env
  | .reconnect => s.reconnectVpn env
  | .toggle => s.toggleDesiredVpn env
  | .restore => s.restoreDesiredVpn env s.vpnIntent.get
  | .networkAvailable network eligible => s.handleNetworkAvailable env network eligible
  | .networkLost network => s.handleNetworkLost env network
  | .attemptEnds i outcome => .ok (s.attemptEnds i outcome)
  | .attemptDropped i => .ok (s.attemptDropped i)
  | .attemptStage i stage => .ok (s.attemptStage i stage)
  | .completion i =>
    match s.workers[i]? with
    | some ⟨attempt, _, some result⟩ =>
      completeConnectionAttempt env { s with workers := s.workers.eraseIdx i } attempt result
    | _ => .ok s
  | .reconnectFires =>
    if s.reconnectFuture = none then .ok s
    else automaticReconnect env { s with reconnectFuture := none }
  | .sample isRunning moved => s.sampleTrafficAndNotify env isRunning moved
  | .healthResult i failed =>
    match s.probes[i]? with
    | some probe => healthResult env { s with probes := s.probes.eraseIdx i } probe failed
    | none => .ok s

/-- The service after a command.  A refused transition ends the command where it stands. -/
def step (c : Env × Event) : Service :=
  match s.handle c.1 c.2 with
  | .ok s => s
  | .error rejection => rejection.service

/-- `onCreate`: there may be a network, and an intent from before. -/
def create (activeNetwork : Option Network) (vpnIntent : VpnIntent) : Service :=
  { activeNetwork := activeNetwork, vpnIntent := vpnIntent }

end Service

end OlcRtc.Vpn
