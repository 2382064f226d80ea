import OlcRtc.Crypto.Record
import OlcRtc.Lib.Hex
import OlcRtc.Lib.Checks

/-!
# Session configurations

`Config` and `Validate` of `internal/app/session`.  A Go `int` is an `Int64` here, so that a field
the checks leave alone really takes every value it can take.

What the checks ask of the world around them stands in `Host`: the providers and transports that
are registered, how a duration is read, and whether an address is a loopback address.  Nothing is
assumed about any of them.
-/

namespace OlcRtc

/-! ## The configuration -/

/-- `VideoConfig`. -/
structure VideoConfig where
  width : Int64
  height : Int64
  fps : Int64
  qrSize : Int64
  qrRecovery : String
  codec : String
  tileModule : Int64
  tileRS : Int64

/-- `VP8Config`. -/
structure VP8Config where
  fps : Int64
  batchSize : Int64

/-- `SEIConfig`. -/
structure SEIConfig where
  fps : Int64
  batchSize : Int64
  fragmentSize : Int64
  ackTimeoutMS : Int64

/-- The fields of `Config` that `Validate` reads.  `resolver` says whether one is set. -/
structure SessionConfig where
  mode : String
  transport : String
  provider : String
  roomID : String
  keyHex : String
  socksHost : String
  socksPort : Int64
  socksUser : String
  socksPass : String
  dnsServer : String
  resolver : Bool
  video : VideoConfig
  vp8 : VP8Config
  sei : SEIConfig
  livenessInterval : String
  livenessTimeout : String
  livenessFailures : Int64
  maxSessionDuration : String
  trafficMaxPayloadSize : Int64
  trafficMinDelay : String
  trafficMaxDelay : String

/-- `TrafficConfig`; durations are nanoseconds. -/
structure TrafficConfig where
  maxPayloadSize : Int64
  minDelay : Int64
  maxDelay : Int64
deriving DecidableEq

/-- What `Validate` asks of the program and the standard library. -/
structure Host where
  providers : List String
  transports : List String
  parseDuration : String → Except String Int64
  isLoopbackIP : String → Bool

/-! ## The errors -/

inductive DurationError
  | parse (err : String)
  | notPositive
  | negative
deriving DecidableEq, Repr

/-- The errors of `Validate`, with the values that are formatted into them. -/
inductive ConfigError
  | modeRequired
  | providerRequired
  | unsupportedProvider (name : String) (available : List String)
  | transportRequired
  | unsupportedTransport (name : String) (available : List String)
  | roomIDRequired
  | keyRequired
  | keyInvalid
  | dnsServerRequired
  | videoWidthRequired
  | videoHeightRequired
  | videoFPSRequired
  | videoCodecInvalid
  | tileCodecDimensions
  | videoDimensionsInvalid (width height : Int64)
  | videoQRRecoveryInvalid (level : String)
  | videoTileModuleInvalid (value : Int64)
  | videoTileRSInvalid (value : Int64)
  | fpsInvalid (fps : Int64)
  | vp8FPSRequired
  | vp8BatchSizeRequired
  | seiFPSRequired
  | seiBatchSizeRequired
  | seiFragmentSizeRequired
  | seiFragmentSizeInvalid (value : Int64)
  | seiAckTimeoutRequired
  | socksHostRequired
  | socksPortRequired
  | socksPortInvalid (port : Int64)
  | socksAuthRequired
  | livenessIntervalInvalid (err : DurationError)
  | livenessTimeoutInvalid (err : DurationError)
  | livenessFailuresInvalid
  | maxSessionDurationInvalid (err : Option String)
  | trafficMaxPayloadSizeInvalid
  | trafficMinDelayInvalid (err : DurationError)
  | trafficMaxDelayInvalid (err : Option DurationError)
deriving DecidableEq, Repr

/-! ## The checks -/

def maxFPS : Int64 := 240

def maxSEIFragmentSize : Int64 := 60000

def videoQRRecoveryLevels : List String := ["low", "medium", "high", "highest"]

/-- A check that refuses with `err`. -/
def require (ok : Bool) (err : ConfigError) : Except ConfigError Unit :=
  if ok then .ok () else .error err

def validateMode (cfg : SessionConfig) : Except ConfigError Unit :=
  require (cfg.mode = "srv" ∨ cfg.mode = "cnc" ∨ cfg.mode = "gen") .modeRequired

def validateProvider (host : Host) (cfg : SessionConfig) : Except ConfigError Unit := do
  require (cfg.provider ≠ "") .providerRequired
  require (cfg.provider ∈ host.providers) (.unsupportedProvider cfg.provider host.providers)

def validateTransportRegistration (host : Host) (cfg : SessionConfig) :
    Except ConfigError Unit := do
  require (cfg.transport ≠ "") .transportRequired
  require (cfg.transport ∈ host.transports) (.unsupportedTransport cfg.transport host.transports)

def validateKey (keyHex : String) : Except ConfigError Unit := do
  require (keyHex ≠ "") .keyRequired
  require ((decodeHex keyHex.toList).map List.length = some 32) .keyInvalid

def validateCommon (cfg : SessionConfig) : Except ConfigError Unit := do
  require (cfg.roomID ≠ "" ∨ cfg.provider = "none") .roomIDRequired
  validateKey cfg.keyHex
  require (cfg.dnsServer ≠ "" ∨ cfg.resolver) .dnsServerRequired

def validateFPS (fps : Int64) (missing : ConfigError) : Except ConfigError Unit := do
  require (fps ≠ 0) missing
  require (¬ (fps < 0 ∨ maxFPS < fps)) (.fpsInvalid fps)

def validateVideoCodec (cfg : SessionConfig) : Except ConfigError Unit := do
  require (cfg.video.codec = "" ∨ cfg.video.codec = "qrcode" ∨ cfg.video.codec = "tile")
    .videoCodecInvalid
  require (¬ (cfg.video.codec = "tile" ∧ (cfg.video.width ≠ 1080 ∨ cfg.video.height ≠ 1080)))
    .tileCodecDimensions

def validateVideoVisual (cfg : SessionConfig) : Except ConfigError Unit := do
  require (¬ (cfg.video.width < 16 ∨ 8192 < cfg.video.width ∨
    cfg.video.height < 16 ∨ 8192 < cfg.video.height))
    (.videoDimensionsInvalid cfg.video.width cfg.video.height)
  require (cfg.video.qrRecovery = "" ∨ cfg.video.qrRecovery ∈ videoQRRecoveryLevels)
    (.videoQRRecoveryInvalid cfg.video.qrRecovery)
  require (¬ (cfg.video.tileModule < 0 ∨ 270 < cfg.video.tileModule))
    (.videoTileModuleInvalid cfg.video.tileModule)
  require (¬ (cfg.video.tileRS < 0 ∨ 200 < cfg.video.tileRS)) (.videoTileRSInvalid cfg.video.tileRS)

def validateVideoChannel (cfg : SessionConfig) : Except ConfigError Unit := do
  require (cfg.video.width ≠ 0) .videoWidthRequired
  require (cfg.video.height ≠ 0) .videoHeightRequired
  validateFPS cfg.video.fps .videoFPSRequired
  validateVideoCodec cfg
  validateVideoVisual cfg

def validateVP8Channel (cfg : SessionConfig) : Except ConfigError Unit := do
  validateFPS cfg.vp8.fps .vp8FPSRequired
  require (cfg.vp8.batchSize ≠ 0) .vp8BatchSizeRequired

def validateSEIChannel (cfg : SessionConfig) : Except ConfigError Unit := do
  validateFPS cfg.sei.fps .seiFPSRequired
  require (cfg.sei.batchSize ≠ 0) .seiBatchSizeRequired
  require (cfg.sei.fragmentSize ≠ 0) .seiFragmentSizeRequired
  require (¬ (cfg.sei.fragmentSize < 0 ∨ maxSEIFragmentSize < cfg.sei.fragmentSize))
    (.seiFragmentSizeInvalid cfg.sei.fragmentSize)
  require (cfg.sei.ackTimeoutMS ≠ 0) .seiAckTimeoutRequired

def validateTransportConfig (cfg : SessionConfig) : Except ConfigError Unit :=
  if cfg.transport = "videochannel" then validateVideoChannel cfg
  else if cfg.transport = "vp8channel" then validateVP8Channel cfg
  else if cfg.transport = "seichannel" then validateSEIChannel cfg
  else .ok ()

def parseLivenessDuration (host : Host) (value : String) (default : Int64) :
    Except DurationError Int64 :=
  if value = "" then .ok default
  else
    match host.parseDuration value with
    | .error err => .error (.parse err)
    | .ok duration => if duration ≤ 0 then .error .notPositive else .ok duration

/-- `control.DefaultInterval`, in nanoseconds. -/
def defaultLivenessInterval : Int64 := 10000000000

/-- `control.DefaultTimeout`, in nanoseconds. -/
def defaultLivenessTimeout : Int64 := 15000000000

def validateLivenessConfig (host : Host) (cfg : SessionConfig) : Except ConfigError Unit := do
  let _ ← (parseLivenessDuration host cfg.livenessInterval defaultLivenessInterval).mapError
    .livenessIntervalInvalid
  let _ ← (parseLivenessDuration host cfg.livenessTimeout defaultLivenessTimeout).mapError
    .livenessTimeoutInvalid
  require (¬ cfg.livenessFailures < 0) .livenessFailuresInvalid

/-- `maxSessionDuration`, which is all `validateLifecycleConfig` looks at. -/
def maxSessionDuration (host : Host) (cfg : SessionConfig) : Except ConfigError Int64 :=
  if cfg.maxSessionDuration = "" then .ok 0
  else
    match host.parseDuration cfg.maxSessionDuration with
    | .error err => .error (.maxSessionDurationInvalid (some err))
    | .ok duration =>
      if duration ≤ 0 then .error (.maxSessionDurationInvalid none) else .ok duration

def parseOptionalNonNegativeDuration (host : Host) (value : String) : Except DurationError Int64 :=
  if value = "" then .ok 0
  else
    match host.parseDuration value with
    | .error err => .error (.parse err)
    | .ok duration => if duration < 0 then .error .negative else .ok duration

/-- `runtime.SmuxFrameOverhead`, the header of an smux frame. -/
def smuxFrameOverhead : ℕ := 8

/-- `runtime.SmuxWireOverhead`: what is added around the payload of an smux frame. -/
def smuxWireOverhead : Int64 := Int64.ofNat (wireOverhead + smuxFrameOverhead)

def minSmuxWirePayload : Int64 := smuxWireOverhead + 1

def trafficConfig (host : Host) (cfg : SessionConfig) : Except ConfigError TrafficConfig := do
  require (¬ (cfg.trafficMaxPayloadSize < 0 ∨
    (0 < cfg.trafficMaxPayloadSize ∧ cfg.trafficMaxPayloadSize < minSmuxWirePayload)))
    .trafficMaxPayloadSizeInvalid
  let minDelay ← (parseOptionalNonNegativeDuration host cfg.trafficMinDelay).mapError
    .trafficMinDelayInvalid
  let maxDelay ← (parseOptionalNonNegativeDuration host cfg.trafficMaxDelay).mapError
    fun err => .trafficMaxDelayInvalid (some err)
  require (¬ (0 < maxDelay ∧ maxDelay < minDelay)) (.trafficMaxDelayInvalid none)
  return ⟨cfg.trafficMaxPayloadSize, minDelay, maxDelay⟩

def validateModeConfig (host : Host) (cfg : SessionConfig) : Except ConfigError Unit :=
  if cfg.mode ≠ "cnc" then .ok ()
  else do
    require (cfg.socksHost ≠ "") .socksHostRequired
    require (cfg.socksPort ≠ 0) .socksPortRequired
    require (¬ (cfg.socksPort < 0 ∨ 65535 < cfg.socksPort)) (.socksPortInvalid cfg.socksPort)
    require (cfg.socksHost = "localhost" ∨ host.isLoopbackIP cfg.socksHost ∨
      (cfg.socksUser ≠ "" ∧ cfg.socksPass ≠ "")) .socksAuthRequired

def validate (host : Host) (cfg : SessionConfig) : Except ConfigError Unit := do
  validateMode cfg
  validateProvider host cfg
  validateTransportRegistration host cfg
  validateCommon cfg
  validateTransportConfig cfg
  validateLivenessConfig host cfg
  let _ ← maxSessionDuration host cfg
  let _ ← trafficConfig host cfg
  validateModeConfig host cfg

/-! ## What an accepted configuration has passed -/

@[simp] lemma require_eq_ok {ok : Bool} {err : ConfigError} {u : Unit} :
    require ok err = .ok u ↔ ok = true := by
  cases ok <;> simp [require]

lemma validateSEIChannel_spec {cfg : SessionConfig} (h : validateSEIChannel cfg = .ok ()) :
    0 < cfg.sei.fragmentSize.toInt ∧ cfg.sei.fragmentSize.toInt ≤ 60000 := by
  simp only [validateSEIChannel, bind_eq_ok, require_eq_ok, decide_eq_true_eq] at h
  obtain ⟨-, -, -, -, -, hzero, -, hrange, -⟩ := h
  have hne : cfg.sei.fragmentSize.toInt ≠ 0 := fun hint => hzero (Int64.toInt_inj.mp hint)
  rw [not_or, Int64.lt_iff_toInt_lt, Int64.lt_iff_toInt_lt] at hrange
  have hlow : ¬ cfg.sei.fragmentSize.toInt < 0 := hrange.1
  have hhigh : ¬ 60000 < cfg.sei.fragmentSize.toInt := hrange.2
  omega

lemma trafficConfig_spec {host : Host} {cfg : SessionConfig} {traffic : TrafficConfig}
    (h : trafficConfig host cfg = .ok traffic) :
    traffic.maxPayloadSize = cfg.trafficMaxPayloadSize ∧
      (traffic.maxPayloadSize.toInt = 0 ∨ 53 ≤ traffic.maxPayloadSize.toInt) := by
  simp only [trafficConfig, bind_eq_ok, require_eq_ok, decide_eq_true_eq] at h
  obtain ⟨-, hcap, minDelay, -, maxDelay, -, -, -, hreturn⟩ := h
  obtain rfl := Except.ok.inj hreturn
  refine ⟨rfl, ?_⟩
  rw [not_or, not_and_or, Int64.lt_iff_toInt_lt, Int64.lt_iff_toInt_lt,
    Int64.lt_iff_toInt_lt] at hcap
  have hlow : ¬ cfg.trafficMaxPayloadSize.toInt < 0 := hcap.1
  have hroom : ¬ 0 < cfg.trafficMaxPayloadSize.toInt ∨
      ¬ cfg.trafficMaxPayloadSize.toInt < 53 := hcap.2
  show cfg.trafficMaxPayloadSize.toInt = 0 ∨ 53 ≤ cfg.trafficMaxPayloadSize.toInt
  omega

lemma validate_spec {host : Host} {cfg : SessionConfig} (h : validate host cfg = .ok ()) :
    validateTransportConfig cfg = .ok () ∧ ∃ traffic, trafficConfig host cfg = .ok traffic := by
  simp only [validate, bind_eq_ok] at h
  obtain ⟨-, -, -, -, -, -, -, -, ⟨⟩, htransport, -, -, -, -, traffic, htraffic, -⟩ := h
  exact ⟨htransport, traffic, htraffic⟩

end OlcRtc
