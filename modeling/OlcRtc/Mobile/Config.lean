import OlcRtc.Lib.Checks
import OlcRtc.Lib.GoUrl
import OlcRtc.Lib.Json
import OlcRtc.Session.Validate

/-!
# The configuration of the mobile core

The app passes its settings to `mobilecore.StartOlcrtc`, which hands each one to a setter of a fresh
`Runtime` and starts it.  A setter checks its values and leaves the configuration alone if it
refuses them.  The errors of two setters are dropped.

**`configuration_carried_iff`** says when the configuration of the generation that is started is the
one that was passed.  The setter of the liveness options refuses the zeros that it is always given
for the timeout and the failures, so that the interval stays at its default of ten seconds; and VP8
options that are out of range are replaced by the defaults.
-/

namespace OlcRtc.Mobile

/-! ## Configurations -/

/-- `client.LivenessConfig`; durations are nanoseconds. -/
structure LivenessConfig where
  interval : Int64
  timeout : Int64
  failures : Int64
deriving DecidableEq

/-- `runtimeConfig`.  A resolver is known by the server it asks. -/
structure RuntimeConfig where
  provider : Bytes := []
  transport : Bytes := ascii "vp8channel"
  roomURL : Bytes := []
  channelID : Bytes := []
  keyHex : Bytes := []
  dnsServer : Bytes := ascii "8.8.8.8:53"
  resolver : Option Bytes := some (ascii "8.8.8.8:53")
  socksHost : Bytes := ascii "127.0.0.1"
  socksPort : Int64 := 1080
  socksUser : Bytes := []
  socksPass : Bytes := []
  providerToken : Bytes := []
  deviceID : Bytes := []
  deviceIDPath : Bytes := []
  engine : Bytes := []
  serviceURL : Bytes := []
  engineToken : Bytes := []
  liveness : LivenessConfig := ⟨10000000000, 15000000000, 4⟩
  traffic : TrafficConfig := ⟨0, 0, 0⟩
  vp8 : VP8Config := ⟨30, 64⟩
  sei : SEIConfig := ⟨30, 64, 900, 2000⟩
  video : VideoConfig := ⟨1920, 1080, 30, 0, "low", "qrcode", 4, 0⟩

/-- `client.TransportOptions`. -/
inductive TransportOptions
  | vp8 (options : VP8Config)
  | sei (options : SEIConfig)
  | video (options : VideoConfig)

/-- `client.Config`. -/
structure ClientConfig where
  transport : Bytes
  provider : Bytes
  roomURL : Bytes
  channelID : Bytes
  engine : Bytes
  url : Bytes
  token : Bytes
  providerToken : Bytes
  keyHex : Bytes
  localAddr : Bytes
  socksUser : Bytes
  socksPass : Bytes
  dnsServer : Bytes
  resolver : Option Bytes
  transportOptions : Option TransportOptions
  liveness : LivenessConfig
  traffic : TrafficConfig
  deviceID : Bytes
  deviceIDPath : Bytes

def itoa (n : Int64) : Bytes := (decimalInt n.toInt).map Char.toUInt8

namespace RuntimeConfig

def transportOptions (cfg : RuntimeConfig) : Option TransportOptions :=
  if cfg.transport = ascii "vp8channel" then some (.vp8 cfg.vp8)
  else if cfg.transport = ascii "seichannel" then some (.sei cfg.sei)
  else if cfg.transport = ascii "videochannel" then some (.video cfg.video)
  else none

def clientConfig (cfg : RuntimeConfig) : ClientConfig where
  transport := cfg.transport
  provider := cfg.provider
  roomURL := cfg.roomURL
  channelID := cfg.channelID
  engine := cfg.engine
  url := cfg.serviceURL
  token := cfg.engineToken
  providerToken := cfg.providerToken
  keyHex := cfg.keyHex
  localAddr := GoUrl.joinHostPort cfg.socksHost (itoa cfg.socksPort)
  socksUser := cfg.socksUser
  socksPass := cfg.socksPass
  dnsServer := cfg.dnsServer
  resolver := cfg.resolver
  transportOptions := cfg.transportOptions
  liveness := cfg.liveness
  traffic := cfg.traffic
  deviceID := cfg.deviceID
  deviceIDPath := cfg.deviceIDPath

end RuntimeConfig

/-! ## Checks -/

/-- What a start fails with.  `invalidConfig` stands for `ErrInvalidConfig` and the text that
follows it; a value that an error quotes and an error that it wraps are arguments. -/
inductive StartError
  | coreAlreadyRunning
  | unsupportedCompatibilityMode (mode : Bytes)
  | alreadyRunning
  | unsupportedProvider (provider : Bytes)
  | unsupportedTransport (transport : Bytes)
  | invalidConfig (reason : String)
  | invalidProvider (provider : Bytes)
  | invalidTransport (transport : Bytes)
  | dnsServer (err : StartError)
  | start (err : StartError)
deriving DecidableEq

/-- `strings.ToLower`, of which nothing is assumed. -/
structure Platform where
  toLower : Bytes → Bytes

def supportedProvider (provider : Bytes) : Bool :=
  provider ∈ [ascii "jitsi", ascii "telemost", ascii "wbstream", ascii "none"]

def supportedTransport (transport : Bytes) : Bool :=
  transport ∈
    [ascii "datachannel", ascii "vp8channel", ascii "seichannel", ascii "videochannel"]

def validateKey (keyHex : Bytes) : Except StartError Unit :=
  match decodeHex (keyHex.map fun c => Char.ofNat c.toNat) with
  | none => .error (.invalidConfig "decode key")
  | some key => ensure (key.length = 32) (.invalidConfig "key must be 32 bytes")

def validateHostPort (address : Bytes) : Except StartError Unit :=
  match GoUrl.splitHostPort address with
  | .error _ => .error (.invalidConfig "split host and port")
  | .ok (host, portText) =>
    ensure (host ≠ [] ∧ (GoUrl.atoi portText).any fun port => 1 ≤ port ∧ port ≤ 65535)
      (.invalidConfig "")

/-- `IsLoopback` of `net.IP`. -/
def isLoopback (ip : Bytes) : Bool :=
  match NetIP.to4 ip with
  | some ip4 => ip4.head? = some 127
  | none => ip = List.replicate 15 0 ++ [1]

def isLoopbackHost (host : Bytes) : Bool :=
  host = ascii "localhost" || (NetIP.parseIP host).any isLoopback

def checkedDurationMillis (value : Int64) : Option Int64 :=
  if value < 0 ∨ 9223372036854 < value then none else some (value * 1000000)

/-! ## The runtime -/

/-- `runtimeState`. -/
inductive RuntimeState
  | idle
  | starting
  | running
  | stopping
  | stopped
deriving DecidableEq

/-- `runGeneration`: its id and its configuration. -/
structure RunGeneration where
  id : ℕ
  cfg : ClientConfig

/-- `Runtime`.  `nextGeneration` is a `uint64`, too wide to wrap around. -/
structure Runtime where
  defaults : RuntimeConfig := {}
  state : RuntimeState := .idle
  nextGeneration : ℕ := 0
  current : Option RunGeneration := none

namespace Runtime

variable (r : Runtime)

/-- `isActiveLocked`. -/
def isActive : Bool := r.state = .starting || r.state = .running || r.state = .stopping

def setProvider (provider : Bytes) : Except StartError Runtime :=
  if supportedProvider provider then .ok { r with defaults.provider := provider }
  else .error (.unsupportedProvider provider)

def setTransport (transport : Bytes) : Except StartError Runtime :=
  if supportedTransport transport then .ok { r with defaults.transport := transport }
  else .error (.unsupportedTransport transport)

def setRoom (roomURL : Bytes) : Except StartError Runtime :=
  let roomURL := GoUrl.trimSpace roomURL
  if roomURL = [] then .error (.invalidConfig "room is required")
  else .ok { r with defaults.roomURL := roomURL }

def setDeviceID (deviceID : Bytes) : Runtime :=
  { r with defaults.deviceID := GoUrl.trimSpace deviceID }

def setKey (keyHex : Bytes) : Except StartError Runtime := do
  validateKey keyHex
  return { r with defaults.keyHex := keyHex }

def setDNS (dnsServer : Bytes) : Except StartError Runtime := do
  (validateHostPort dnsServer).mapError .dnsServer
  return { r with defaults.dnsServer := dnsServer, defaults.resolver := some dnsServer }

def setVP8Options (fps batchSize : Int64) : Except StartError Runtime :=
  if fps < 1 ∨ 120 < fps ∨ batchSize < 1 then .error (.invalidConfig "invalid VP8 options")
  else .ok { r with defaults.vp8 := ⟨fps, batchSize⟩ }

def setLivenessOptions (intervalMillis timeoutMillis failures : Int64) :
    Except StartError Runtime :=
  if intervalMillis ≤ 0 ∨ timeoutMillis ≤ 0 ∨ failures ≤ 0 then
    .error (.invalidConfig "liveness values must be positive")
  else
    match checkedDurationMillis intervalMillis, checkedDurationMillis timeoutMillis with
    | some interval, some timeout =>
      .ok { r with defaults.liveness := ⟨interval, timeout, failures⟩ }
    | _, _ => .error (.invalidConfig "liveness duration is too large")

def setProviderToken (token : Bytes) : Runtime :=
  { r with defaults.providerToken := GoUrl.trimSpace token }

def setSocksPort (port : Int64) : Except StartError Runtime :=
  if port < 1 ∨ 65535 < port then
    .error (.invalidConfig "SOCKS port must be between 1 and 65535")
  else .ok { r with defaults.socksPort := port }

def validateRuntimeConfig (cfg : RuntimeConfig) : Except StartError Unit := do
  ensure (supportedProvider cfg.provider) (.invalidProvider cfg.provider)
  ensure (supportedTransport cfg.transport) (.invalidTransport cfg.transport)
  ensure (cfg.provider = ascii "none" ∨ cfg.roomURL ≠ []) (.invalidConfig "room is required")
  validateKey cfg.keyHex
  ensure (cfg.dnsServer ≠ [] ∨ cfg.resolver ≠ none)
    (.invalidConfig "DNS server or resolver is required")
  ensure (cfg.socksHost ≠ [] ∧ 1 ≤ cfg.socksPort ∧ cfg.socksPort ≤ 65535)
    (.invalidConfig "invalid SOCKS listen address")
  ensure (isLoopbackHost cfg.socksHost ∨ (cfg.socksUser ≠ [] ∧ cfg.socksPass ≠ []))
    (.invalidConfig "SOCKS credentials are required outside loopback")

def start : Except StartError Runtime :=
  if r.isActive then .error .alreadyRunning
  else do
    validateRuntimeConfig r.defaults
    return { r with
      nextGeneration := r.nextGeneration + 1
      current := some ⟨r.nextGeneration + 1, r.defaults.clientConfig⟩
      state := .starting }

end Runtime

/-! ## Starting the core -/

/-- The arguments of `StartOlcrtc`. -/
structure StartArguments where
  provider : Bytes
  transport : Bytes
  compatibilityMode : Bytes
  roomID : Bytes
  clientID : Bytes
  authToken : Bytes
  keyHex : Bytes
  dnsServer : Bytes
  vp8FPS : Int64
  vp8BatchSize : Int64
  keepaliveSeconds : Int64
  socksPort : Int64

/-- Which implementation is registered as `vp8channel`. -/
inductive VP8Transport
  | current
  | legacy
deriving DecidableEq

/-- The state of `mobilecore` that a start reads and writes. -/
structure Core where
  olcrtcRuntime : Option Runtime := none
  vp8Transport : VP8Transport := .current

def registerVP8Transport (pf : Platform) (compatibilityMode : Bytes) :
    Except StartError VP8Transport :=
  let mode := pf.toLower (GoUrl.trimSpace compatibilityMode)
  if mode = [] ∨ mode = ascii "current" then .ok .current
  else if mode = ascii "legacy" then .ok .legacy
  else .error (.unsupportedCompatibilityMode compatibilityMode)

/-- The token without white space around it and without the name of its scheme. -/
def providerToken (authToken : Bytes) : Bytes :=
  GoUrl.trimSpace (GoUrl.trimPrefix (ascii "Bearer ") (GoUrl.trimSpace authToken))

/-- A setter that is refused leaves the runtime as it is. -/
def orUnchanged (r : Runtime) (result : Except StartError Runtime) : Runtime :=
  match result with
  | .ok r => r
  | .error _ => r

/-- The setters that `StartOlcrtc` calls, in its order.  An error comes with the runtime as it was
when it occurred. -/
def configure (r : Runtime) (a : StartArguments) : Except (StartError × Runtime) Runtime := do
  let r ← (r.setProvider a.provider).mapError (·, r)
  let r ← (r.setTransport a.transport).mapError (·, r)
  let r ← (r.setRoom a.roomID).mapError (·, r)
  let r := r.setDeviceID a.clientID
  let r ← (r.setKey a.keyHex).mapError (·, r)
  let r ← (r.setDNS a.dnsServer).mapError (·, r)
  let r := orUnchanged r (r.setVP8Options a.vp8FPS a.vp8BatchSize)
  let r := orUnchanged r (r.setLivenessOptions (a.keepaliveSeconds * 1000) 0 0)
  let token := providerToken a.authToken
  let r := if token ≠ [] then r.setProviderToken token else r
  (r.setSocksPort a.socksPort).mapError (·, r)

/-- `StartOlcrtc` up to the call of `Start`: the runtime that is started, and the state before. -/
def prepare (pf : Platform) (core : Core) (a : StartArguments) :
    Except (StartError × Core) (Runtime × Core) :=
  if core.olcrtcRuntime.any Runtime.isActive then .error (.coreAlreadyRunning, core)
  else
    let core := { core with olcrtcRuntime := some {} }
    match registerVP8Transport pf a.compatibilityMode with
    | .error err => .error (err, core)
    | .ok vp8Transport =>
      let core := { core with vp8Transport := vp8Transport }
      match configure {} a with
      | .error (err, r) => .error (err, { core with olcrtcRuntime := some r })
      | .ok r => .ok (r, { core with olcrtcRuntime := some r })

def startOlcrtc (pf : Platform) (core : Core) (a : StartArguments) :
    Except StartError Unit × Core :=
  match prepare pf core a with
  | .error (err, core) => (.error err, core)
  | .ok (r, core) =>
    match r.start with
    | .error err => (.error (.start err), core)
    | .ok r => (.ok (), { core with olcrtcRuntime := some r })

/-! ## What the setters leave behind -/

/-- VP8 options that `SetVP8Options` accepts. -/
def VP8Allowed (fps batchSize : Int64) : Prop := 1 ≤ fps ∧ fps ≤ 120 ∧ 1 ≤ batchSize

instance (fps batchSize : Int64) : Decidable (VP8Allowed fps batchSize) :=
  inferInstanceAs (Decidable (_ ∧ _))

def StartArguments.vp8 (a : StartArguments) : VP8Config :=
  if VP8Allowed a.vp8FPS a.vp8BatchSize then ⟨a.vp8FPS, a.vp8BatchSize⟩ else ⟨30, 64⟩

/-- The configuration that the setters leave behind. -/
def StartArguments.runtimeConfig (a : StartArguments) : RuntimeConfig where
  provider := a.provider
  transport := a.transport
  roomURL := GoUrl.trimSpace a.roomID
  deviceID := GoUrl.trimSpace a.clientID
  keyHex := a.keyHex
  dnsServer := a.dnsServer
  resolver := some a.dnsServer
  vp8 := a.vp8
  providerToken := providerToken a.authToken
  socksPort := a.socksPort

lemma orUnchanged_setVP8Options (r : Runtime) (fps batchSize : Int64) :
    orUnchanged r (r.setVP8Options fps batchSize) =
      { r with
        defaults.vp8 :=
          if VP8Allowed fps batchSize then ⟨fps, batchSize⟩ else r.defaults.vp8 } := by
  rw [Runtime.setVP8Options]
  by_cases hallowed : VP8Allowed fps batchSize
  · obtain ⟨hmin, hmax, hbatch⟩ := hallowed
    rw [if_neg, if_pos ⟨hmin, hmax, hbatch⟩]
    · rfl
    · grind
  · rw [if_pos, if_neg hallowed]
    · rfl
    · by_contra hnone
      rw [not_or, not_or] at hnone
      exact hallowed
        ⟨Int64.not_lt.1 hnone.1, Int64.not_lt.1 hnone.2.1, Int64.not_lt.1 hnone.2.2⟩

lemma orUnchanged_setLivenessOptions (r : Runtime) (intervalMillis failures : Int64) :
    orUnchanged r (r.setLivenessOptions intervalMillis 0 failures) = r := by
  rw [Runtime.setLivenessOptions, if_pos]
  · rfl
  · exact .inr (.inl (by decide))

lemma setProviderToken_providerToken {r : Runtime} (hr : r.defaults.providerToken = [])
    (authToken : Bytes) :
    (if providerToken authToken ≠ [] then r.setProviderToken (providerToken authToken) else r) =
      { r with defaults.providerToken := providerToken authToken } := by
  by_cases htoken : providerToken authToken = []
  · rw [if_neg (not_not.2 htoken), htoken, ← hr]
  · rw [if_pos htoken, Runtime.setProviderToken, providerToken, GoUrl.trimSpace_trimSpace]

/-- **What a fresh runtime is configured to.** -/
lemma configure_eq_ok {a : StartArguments} {r : Runtime} (h : configure {} a = .ok r) :
    r = { defaults := a.runtimeConfig } ∧ supportedProvider a.provider = true ∧
      supportedTransport a.transport = true ∧ GoUrl.trimSpace a.roomID ≠ [] ∧
      validateKey a.keyHex = .ok () ∧ 1 ≤ a.socksPort ∧ a.socksPort ≤ 65535 := by
  obtain ⟨r₁, h₁, h⟩ := bind_eq_ok.1 h
  obtain ⟨hprovider, rfl⟩ := ite_ok_eq_ok.1 (mapError_eq_ok.1 h₁)
  obtain ⟨r₂, h₂, h⟩ := bind_eq_ok.1 h
  obtain ⟨htransport, rfl⟩ := ite_ok_eq_ok.1 (mapError_eq_ok.1 h₂)
  obtain ⟨r₃, h₃, h⟩ := bind_eq_ok.1 h
  obtain ⟨hroom, rfl⟩ := ite_error_eq_ok.1 (mapError_eq_ok.1 h₃)
  obtain ⟨r₄, h₄, h⟩ := bind_eq_ok.1 h
  obtain ⟨⟨⟩, hkey, h₄⟩ := bind_eq_ok.1 (mapError_eq_ok.1 h₄)
  cases h₄
  obtain ⟨r₅, h₅, h⟩ := bind_eq_ok.1 h
  obtain ⟨⟨⟩, hdns, h₅⟩ := bind_eq_ok.1 (mapError_eq_ok.1 h₅)
  cases h₅
  obtain ⟨hport, rfl⟩ := ite_error_eq_ok.1 (mapError_eq_ok.1 h)
  rw [not_or] at hport
  refine ⟨?_, hprovider, htransport, hroom, hkey, Int64.not_lt.1 hport.1, Int64.not_lt.1 hport.2⟩
  rw [orUnchanged_setLivenessOptions, orUnchanged_setVP8Options, setProviderToken_providerToken]
  · rfl
  · rfl

lemma start_configured {a : StartArguments}
    (hprovider : supportedProvider a.provider = true)
    (htransport : supportedTransport a.transport = true) (hroom : GoUrl.trimSpace a.roomID ≠ [])
    (hkey : validateKey a.keyHex = .ok ()) (hmin : 1 ≤ a.socksPort) (hmax : a.socksPort ≤ 65535) :
    Runtime.start { defaults := a.runtimeConfig } = .ok
      { defaults := a.runtimeConfig
        nextGeneration := 1
        current := some ⟨1, a.runtimeConfig.clientConfig⟩
        state := .starting } := by
  have hvalid : Runtime.validateRuntimeConfig a.runtimeConfig = .ok () := by
    simp only [Runtime.validateRuntimeConfig, bind_eq_ok, ensure_eq_ok, decide_eq_true_eq]
    refine ⟨(), hprovider, (), htransport, (), .inr hroom, (), hkey, (), ?_, (), ?_, ?_⟩
    · exact .inr (Option.some_ne_none _)
    · exact ⟨show ascii "127.0.0.1" ≠ [] by decide, hmin, hmax⟩
    · exact .inl (by rfl)
  show (Runtime.validateRuntimeConfig a.runtimeConfig >>= _) = _
  rw [hvalid, ok_bind]
  rfl

/-! ## Whether the configuration is the one that was passed -/

def Core.generation (core : Core) : Option RunGeneration := core.olcrtcRuntime.bind (·.current)

/-- A configuration of a client carries the arguments of a start.  Only the transport `vp8channel`
has VP8 options. -/
structure Carries (a : StartArguments) (cfg : ClientConfig) : Prop where
  provider : cfg.provider = a.provider
  transport : cfg.transport = a.transport
  room : cfg.roomURL = GoUrl.trimSpace a.roomID
  key : cfg.keyHex = a.keyHex
  dnsServer : cfg.dnsServer = a.dnsServer ∧ cfg.resolver = some a.dnsServer
  vp8 : a.transport = ascii "vp8channel" →
    cfg.transportOptions = some (.vp8 ⟨a.vp8FPS, a.vp8BatchSize⟩)
  socksPort : cfg.localAddr = GoUrl.joinHostPort (ascii "127.0.0.1") (itoa a.socksPort)
  token : cfg.providerToken = GoUrl.trimSpace
    (GoUrl.trimPrefix (ascii "Bearer ") (GoUrl.trimSpace a.authToken))
  keepalive : 0 < a.keepaliveSeconds →
    cfg.liveness.interval.toInt = a.keepaliveSeconds.toInt * 1000000000

lemma vp8_eq_iff (a : StartArguments) :
    a.vp8 = ⟨a.vp8FPS, a.vp8BatchSize⟩ ↔ VP8Allowed a.vp8FPS a.vp8BatchSize := by
  rw [StartArguments.vp8]
  constructor
  · intro h
    by_contra hrefused
    rw [if_neg hrefused, VP8Config.mk.injEq] at h
    apply hrefused
    rw [← h.1, ← h.2]
    decide
  · intro hallowed
    rw [if_pos hallowed]

lemma carries_runtimeConfig_iff (a : StartArguments) :
    Carries a a.runtimeConfig.clientConfig ↔
      (a.transport = ascii "vp8channel" → VP8Allowed a.vp8FPS a.vp8BatchSize) ∧
      (0 < a.keepaliveSeconds → a.keepaliveSeconds = 10) := by
  have hvp8 (htransport : a.transport = ascii "vp8channel") :
      a.runtimeConfig.clientConfig.transportOptions = some (.vp8 a.vp8) := if_pos htransport
  have hinterval : a.runtimeConfig.clientConfig.liveness.interval.toInt = 10000000000 :=
    show (10000000000 : Int64).toInt = 10000000000 by decide
  constructor
  · intro hcarries
    constructor
    · intro htransport
      have hoptions := hcarries.vp8 htransport
      rw [hvp8 htransport, Option.some.injEq, TransportOptions.vp8.injEq] at hoptions
      exact (vp8_eq_iff a).1 hoptions
    · intro hpositive
      have hkeepalive := hcarries.keepalive hpositive
      rw [hinterval] at hkeepalive
      apply Int64.toInt_inj.1
      show a.keepaliveSeconds.toInt = 10
      omega
  · rintro ⟨hallowed, hten⟩
    refine ⟨rfl, rfl, rfl, rfl, ⟨rfl, rfl⟩, ?_, rfl, rfl, ?_⟩
    · intro htransport
      rw [hvp8 htransport, (vp8_eq_iff a).2 (hallowed htransport)]
    · intro hpositive
      rw [hinterval, hten hpositive]
      rfl

lemma prepare_eq_ok {pf : Platform} {core core' : Core} {a : StartArguments} {r : Runtime}
    (h : prepare pf core a = .ok (r, core')) : configure {} a = .ok r := by
  rw [prepare] at h
  split at h
  · cases h
  · grind

/-- **Whether a start carries its arguments.**  A start whose settings are all accepted up to the
call of `Start` does start a generation. -/
theorem configuration_carried_iff (pf : Platform) (core : Core) (a : StartArguments) (r : Runtime)
    (core' : Core) (h : prepare pf core a = .ok (r, core')) :
    ∃ gen, (startOlcrtc pf core a).1 = .ok () ∧
      (startOlcrtc pf core a).2.generation = some gen ∧
      (Carries a gen.cfg ↔
        (a.transport = ascii "vp8channel" → VP8Allowed a.vp8FPS a.vp8BatchSize) ∧
        (0 < a.keepaliveSeconds → a.keepaliveSeconds = 10)) := by
  obtain ⟨rfl, hprovider, htransport, hroom, hkey, hmin, hmax⟩ := configure_eq_ok (prepare_eq_ok h)
  have hstart := start_configured hprovider htransport hroom hkey hmin hmax
  refine ⟨⟨1, a.runtimeConfig.clientConfig⟩, ?_, ?_, carries_runtimeConfig_iff a⟩
  · rw [startOlcrtc, h]
    simp only [hstart]
  · rw [startOlcrtc, h]
    simp only [hstart]
    rfl

def exampleArguments (keepaliveSeconds : Int64) : StartArguments where
  provider := ascii "jitsi"
  transport := ascii "vp8channel"
  compatibilityMode := []
  roomID := ascii " room "
  clientID := ascii "phone"
  authToken := ascii "Bearer abc"
  keyHex := List.replicate 64 48
  dnsServer := ascii "1.1.1.1:53"
  vp8FPS := 30
  vp8BatchSize := 64
  keepaliveSeconds := keepaliveSeconds
  socksPort := 10808

def examplePlatform : Platform where
  toLower := GoUrl.toLower

def exampleCore (keepaliveSeconds : Int64) : Core where
  olcrtcRuntime := some { defaults := (exampleArguments keepaliveSeconds).runtimeConfig }

lemma prepare_example {keepaliveSeconds : Int64} (h : keepaliveSeconds ∈ [10, 15]) :
    prepare examplePlatform {} (exampleArguments keepaliveSeconds) =
      .ok ({ defaults := (exampleArguments keepaliveSeconds).runtimeConfig },
        exampleCore keepaliveSeconds) := by
  rw [List.mem_pair] at h
  rcases h with rfl | rfl
  · rfl
  · rfl

/-- A start with the keepalive of ten seconds carries its arguments. -/
theorem configuration_carried_iff_ten :
    ∃ gen, (startOlcrtc examplePlatform {} (exampleArguments 10)).1 = .ok () ∧
      (startOlcrtc examplePlatform {} (exampleArguments 10)).2.generation = some gen ∧
      Carries (exampleArguments 10) gen.cfg := by
  have hprepare := @prepare_example 10 (by decide)
  obtain ⟨gen, hok, hgen, hiff⟩ :=
    configuration_carried_iff examplePlatform {} (exampleArguments 10) _ _ hprepare
  exact ⟨gen, hok, hgen, hiff.2 ⟨fun _ => by decide, fun _ => rfl⟩⟩

/-- With the keepalive of fifteen seconds that the app has as its default, the runtime starts and
its interval is ten seconds. -/
theorem keepalive_dropped :
    ∃ gen, (startOlcrtc examplePlatform {} (exampleArguments 15)).1 = .ok () ∧
      (startOlcrtc examplePlatform {} (exampleArguments 15)).2.generation = some gen ∧
      gen.cfg.liveness.interval = 10000000000 ∧ ¬Carries (exampleArguments 15) gen.cfg := by
  refine ⟨⟨1, (exampleArguments 15).runtimeConfig.clientConfig⟩, ?_, ?_, rfl, ?_⟩
  · rw [startOlcrtc, prepare_example (by decide)]
    rfl
  · rw [startOlcrtc, prepare_example (by decide)]
    rfl
  · rw [carries_runtimeConfig_iff]
    exact fun h => absurd (h.2 (by decide)) (by decide)

end OlcRtc.Mobile
