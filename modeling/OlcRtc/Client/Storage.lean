import OlcRtc.Client.StandardProfile
import OlcRtc.Lib.JsonObject

/-!
# Stored profiles

`ProfileRepository` keeps each profile in a row of its table, with the identity of the profile
beside it and the secrets encrypted.  A standard profile keeps most of its fields in one encrypted
JSON object.  A profile of the client's own kind has one column for a secret, and two secrets: the
auth token goes to that column if the provider is WBSTREAM, the room password if it is not.

**`restored_iff`** says when a profile is read back from the row that was inserted for it: a
standard profile always, and one of the client's own kind exactly if the secret that has no column
is missing.  A profile with both secrets loses one, and if that is the room password the identity
beside the row is not the identity of the profile that is read from it.
-/

namespace OlcRtc.Client

variable (pf : Platform)

/-- A cipher that decrypts what it encrypted.  Every encryption draws a nonce. -/
structure SecretBox where
  Nonce : Type
  encrypt : Nonce → Text → Bytes
  decrypt : Bytes → Except String Text
  decrypt_encrypt : ∀ nonce value, decrypt (encrypt nonce value) = .ok value

/-! ## Rows -/

/-- A row of `olcrtc_profiles`, apart from its id. -/
structure OlcrtcProfileEntity where
  identityHash : Option Text
  name : Text
  provider : Text
  transport : Text
  compatibilityMode : Text
  roomId : Text
  roomPassword : Option Bytes
  clientId : Text
  keyHex : Bytes
  dnsServer : Text
  vp8Fps : ℤ
  vp8BatchSize : ℤ
  keepaliveIntervalSeconds : ℤ

/-- A row of `standard_profiles`, apart from its id. -/
structure StandardProfileEntity where
  identityHash : Option Text
  name : Text
  protocol : Text
  address : Text
  port : ℤ
  secret : Bytes

/-- A table whose ids count the rows that were ever inserted. -/
structure LocalTable (ρ : Type) where
  rows : List (ℕ × ρ)
  sequence : ℕ
  le_sequence : ∀ row ∈ rows, row.1 ≤ sequence

namespace LocalTable

variable {ρ : Type}

/-- `INSERT`, with the id of the new row. -/
def insert (t : LocalTable ρ) (row : ρ) : ℕ × LocalTable ρ :=
  (t.sequence + 1,
    { rows := t.rows ++ [(t.sequence + 1, row)]
      sequence := t.sequence + 1
      le_sequence := by
        intro r hr
        rcases List.mem_append.1 hr with hr | hr
        · exact Nat.le_succ_of_le (t.le_sequence r hr)
        · rw [List.mem_singleton.1 hr] })

/-- `SELECT * … WHERE id = :id`. -/
def get (t : LocalTable ρ) (id : ℕ) : Option ρ := (t.rows.find? (·.1 = id)).map Prod.snd

lemma get_insert (t : LocalTable ρ) (row : ρ) :
    (t.insert row).2.get (t.insert row).1 = some row := by
  have hold : t.rows.find? (·.1 = t.sequence + 1) = none := by
    rw [List.find?_eq_none]
    intro r hr heq
    have hle := t.le_sequence r hr
    have hid : r.1 = t.sequence + 1 := of_decide_eq_true heq
    omega
  rw [get, insert, List.find?_append, hold, Option.none_or,
    List.find?_cons_of_pos (by simp), Option.map_some]

end LocalTable

/-! ## The client's own profiles -/

section Rows

variable (secrets : SecretBox) (reader : JsonReader)

/-- `OlcrtcProfile.toEntity`, with the nonces of the two encryptions. -/
def OlcrtcProfile.toEntity (nonces : secrets.Nonce × secrets.Nonce) (p : OlcrtcProfile) :
    OlcrtcProfileEntity where
  identityHash := some (ProfileIdentity.hash pf p)
  name := p.name
  provider := p.provider.value
  transport := p.transport.value
  compatibilityMode := p.compatibilityMode.value
  roomId := p.roomId
  roomPassword :=
    (if p.provider = .wbstream then p.authToken else p.roomPassword).map (secrets.encrypt nonces.1)
  clientId := p.clientId
  keyHex := secrets.encrypt nonces.2 p.keyHex
  dnsServer := p.dnsServer.getD []
  vp8Fps := p.vp8Fps
  vp8BatchSize := p.vp8BatchSize
  keepaliveIntervalSeconds := p.keepaliveIntervalSeconds

def decryptOptional (secret : Option Bytes) : Except String (Option Text) :=
  match secret with
  | some bytes => some <$> secrets.decrypt bytes
  | none => .ok none

def OlcrtcProfileEntity.toProfile (e : OlcrtcProfileEntity) : Except String OlcrtcProfile := do
  let provider ← Provider.parse pf e.provider
  let decryptedSecret ← decryptOptional secrets e.roomPassword
  let transport ← Transport.parse pf e.transport
  let compatibilityMode ← CompatibilityMode.parse pf e.compatibilityMode
  let keyHex ← secrets.decrypt e.keyHex
  OlcrtcProfile.make pf
    { name := e.name, provider, transport, compatibilityMode, roomId := e.roomId
      roomPassword := if provider ≠ .wbstream then decryptedSecret else none
      clientId := e.clientId, keyHex
      dnsServer := if Text.isBlank e.dnsServer then none else some e.dnsServer
      vp8Fps := e.vp8Fps, vp8BatchSize := e.vp8BatchSize
      keepaliveIntervalSeconds := e.keepaliveIntervalSeconds
      authToken := if provider = .wbstream then decryptedSecret else none }

def OlcrtcProfile.stored (p : OlcrtcProfile) : OlcrtcProfile :=
  { p with
    roomPassword := if p.provider ≠ .wbstream then p.roomPassword else none
    authToken := if p.provider = .wbstream then p.authToken else none }

/-- **What is read from the row of a profile.** -/
lemma toProfile_toEntity (nonces : secrets.Nonce × secrets.Nonce) {p : OlcrtcProfile}
    (h : p.Valid pf) : (p.toEntity pf secrets nonces).toProfile pf secrets = .ok p.stored := by
  have hsecret : decryptOptional secrets (p.toEntity pf secrets nonces).roomPassword
      = .ok (if p.provider = .wbstream then p.authToken else p.roomPassword) := by
    show decryptOptional secrets (Option.map _ _) = _
    cases (if p.provider = .wbstream then p.authToken else p.roomPassword) with
    | none => rfl
    | some secret =>
      rw [Option.map_some, decryptOptional, secrets.decrypt_encrypt]
      rfl
  have hdns : (if Text.isBlank (p.dnsServer.getD []) then none else some (p.dnsServer.getD []))
      = p.dnsServer := by
    cases hserver : p.dnsServer with
    | none => rfl
    | some dns =>
      obtain ⟨e, he⟩ := ((OlcrtcProfile.valid_iff pf).1 h).2.2.2.2.2 dns hserver
      show (if Text.isBlank dns = true then none else some dns) = some dns
      rw [DnsEndpoint.not_isBlank_of_parse pf he]
      rfl
  rw [OlcrtcProfileEntity.toProfile]
  rw [show (p.toEntity pf secrets nonces).provider = p.provider.value from rfl,
    Provider.parse_value, ok_bind, hsecret, ok_bind,
    show (p.toEntity pf secrets nonces).transport = p.transport.value from rfl,
    Transport.parse_value, ok_bind,
    show (p.toEntity pf secrets nonces).compatibilityMode = p.compatibilityMode.value from rfl,
    CompatibilityMode.parse_value, ok_bind,
    show (p.toEntity pf secrets nonces).keyHex = secrets.encrypt nonces.2 p.keyHex from rfl,
    secrets.decrypt_encrypt, ok_bind,
    show (p.toEntity pf secrets nonces).dnsServer = p.dnsServer.getD [] from rfl, hdns]
  refine ((OlcrtcProfile.make_eq_ok pf).2 ⟨?_, rfl⟩).trans (congrArg Except.ok ?_)
  · exact (OlcrtcProfile.valid_iff pf).2 ((OlcrtcProfile.valid_iff pf).1 h)
  · by_cases hprovider : p.provider = .wbstream
    · simp [OlcrtcProfile.stored, OlcrtcProfile.toEntity, hprovider]
    · simp [OlcrtcProfile.stored, OlcrtcProfile.toEntity, hprovider]

/-- A profile has no secret without a column. -/
def OlcrtcProfile.KeepsSecrets (p : OlcrtcProfile) : Prop :=
  (p.provider = .wbstream → p.roomPassword = none) ∧ (p.provider ≠ .wbstream → p.authToken = none)

lemma OlcrtcProfile.stored_eq_iff (p : OlcrtcProfile) : p.stored = p ↔ p.KeepsSecrets := by
  cases p with
  | mk name provider transport compatibilityMode roomId roomPassword clientId keyHex dnsServer
      vp8Fps vp8BatchSize keepalive authToken =>
    by_cases hprovider : provider = .wbstream
    · simp [OlcrtcProfile.stored, OlcrtcProfile.KeepsSecrets, hprovider, eq_comm]
    · simp [OlcrtcProfile.stored, OlcrtcProfile.KeepsSecrets, hprovider, eq_comm]

/-! ## Standard profiles -/

namespace StandardProfile

def Protocol.valueOf (name : Text) : Except String Protocol :=
  parseValue Protocol.name [.vless, .vmess, .trojan, .shadowsocks] name
    ("No enum constant Protocol." ++ String.ofList name)

def Transport.valueOf (name : Text) : Except String Transport :=
  parseValue Transport.name [.tcp, .ws, .grpc, .xhttp] name
    ("No enum constant Transport." ++ String.ofList name)

def Security.valueOf (name : Text) : Except String Security :=
  parseValue Security.name [.none, .tls, .reality] name
    ("No enum constant Security." ++ String.ofList name)

lemma Protocol.valueOf_name (p : Protocol) : Protocol.valueOf p.name = .ok p := by
  cases p <;> rfl

lemma Transport.valueOf_name (t : Transport) : Transport.valueOf t.name = .ok t := by
  cases t <;> rfl

lemma Security.valueOf_name (s : Security) : Security.valueOf s.name = .ok s := by
  cases s <;> rfl

/-- The fields of the encrypted object, in the order of the calls of `put`. -/
def secretFields (p : StandardProfile) : List (String × Option JsonValue) :=
  [("uuid", p.uuid.map .str), ("password", p.password.map .str),
    ("alterId", some (.int p.alterId)), ("cipher", some (.str p.cipher)),
    ("transport", some (.str p.transport.name)), ("security", some (.str p.security.name)),
    ("flow", p.flow.map .str), ("serverName", p.serverName.map .str),
    ("alpn", some (.strs p.alpn)), ("fingerprint", p.fingerprint.map .str),
    ("allowInsecure", some (.bool p.allowInsecure)),
    ("realityPublicKey", p.realityPublicKey.map .str),
    ("realityShortId", p.realityShortId.map .str),
    ("realitySpiderX", p.realitySpiderX.map .str), ("webSocketHost", p.webSocketHost.map .str),
    ("webSocketPath", p.webSocketPath.map .str), ("grpcServiceName", p.grpcServiceName.map .str),
    ("xhttpMode", p.xhttpMode.map .str), ("xhttpHost", p.xhttpHost.map .str),
    ("xhttpPath", p.xhttpPath.map .str), ("xhttpExtraJson", p.xhttpExtraJson.map .str),
    ("dnsServer", p.dnsServer.map .str)]

def toEntity (nonce : secrets.Nonce) (p : StandardProfile) : StandardProfileEntity where
  identityHash := some (ProfileIdentity.standardHash pf p)
  name := p.name
  protocol := p.protocol.name
  address := p.address
  port := p.port
  secret := secrets.encrypt nonce (JsonObject.ofFields p.secretFields).toText

end StandardProfile

def stringOrNull (o : JsonObject) (name : String) : Except String (Option Text) :=
  if o.isNull name then .ok none else some <$> o.getString name

def toStandardProfile (o : JsonObject) (name protocol address : Text) (port : ℤ) :
    Except String StandardProfile := do
  let protocol ← StandardProfile.Protocol.valueOf protocol
  let uuid ← stringOrNull o "uuid"
  let password ← stringOrNull o "password"
  let alterId ← o.getInt "alterId"
  let cipher ← o.getString "cipher"
  let transport ← (o.getString "transport").bind StandardProfile.Transport.valueOf
  let security ← (o.getString "security").bind StandardProfile.Security.valueOf
  let flow ← stringOrNull o "flow"
  let serverName ← stringOrNull o "serverName"
  let alpn ← o.getStrings "alpn"
  let fingerprint ← stringOrNull o "fingerprint"
  let allowInsecure ← o.getBoolean "allowInsecure"
  let realityPublicKey ← stringOrNull o "realityPublicKey"
  let realityShortId ← stringOrNull o "realityShortId"
  let realitySpiderX ← stringOrNull o "realitySpiderX"
  let webSocketHost ← stringOrNull o "webSocketHost"
  let webSocketPath ← stringOrNull o "webSocketPath"
  let grpcServiceName ← stringOrNull o "grpcServiceName"
  let xhttpMode ← stringOrNull o "xhttpMode"
  let xhttpHost ← stringOrNull o "xhttpHost"
  let xhttpPath ← stringOrNull o "xhttpPath"
  let xhttpExtraJson ← stringOrNull o "xhttpExtraJson"
  let dnsServer ← stringOrNull o "dnsServer"
  StandardProfile.make pf
    { name, protocol, address, port, uuid, password, alterId, cipher, transport, security, flow
      serverName, alpn, fingerprint, allowInsecure, realityPublicKey, realityShortId, realitySpiderX
      webSocketHost, webSocketPath, grpcServiceName, xhttpMode, xhttpHost, xhttpPath, xhttpExtraJson
      dnsServer }

def StandardProfileEntity.toProfile (e : StandardProfileEntity) :
    Except String StandardProfile := do
  let text ← secrets.decrypt e.secret
  match reader.fromText text with
  | some o => toStandardProfile pf o e.name e.protocol e.address e.port
  | none => .error "JSONException"

lemma stringOrNull_eq {o : JsonObject} {name : String} {value : Option Text}
    (h : o.lookup name = value.map .str) : stringOrNull o name = .ok value := by
  cases value with
  | none => simp [stringOrNull, JsonObject.isNull, h]
  | some value =>
    simp [stringOrNull, JsonObject.isNull, JsonObject.getString, h, JsonValue.toText]

/-- **A standard profile is read back** from its row. -/
lemma toProfile_toEntity_standard (nonce : secrets.Nonce) {p : StandardProfile}
    (h : p.Valid pf) : (p.toEntity pf secrets nonce).toProfile pf secrets reader = .ok p := by
  have hnodup : (p.secretFields.map Prod.fst).Nodup := by
    show (["uuid", "password", "alterId", "cipher", "transport", "security", "flow", "serverName",
      "alpn", "fingerprint", "allowInsecure", "realityPublicKey", "realityShortId",
      "realitySpiderX", "webSocketHost", "webSocketPath", "grpcServiceName", "xhttpMode",
      "xhttpHost", "xhttpPath", "xhttpExtraJson", "dnsServer"] : List String).Nodup
    decide
  have hfield : ∀ (k : ℕ) (name : String) (value : Option JsonValue),
      p.secretFields[k]? = some (name, value) →
      (JsonObject.ofFields p.secretFields).lookup name = value := fun k name value hk =>
    JsonObject.lookup_ofFields hnodup (List.mem_of_getElem? hk)
  have hstring : ∀ (k : ℕ) (name : String) (value : Option Text),
      p.secretFields[k]? = some (name, value.map .str) →
      stringOrNull (JsonObject.ofFields p.secretFields) name = .ok value := fun k name value hk =>
    stringOrNull_eq (hfield k name _ hk)
  have halterId : (JsonObject.ofFields p.secretFields).getInt "alterId" = .ok p.alterId := by
    rw [JsonObject.getInt, hfield 2 "alterId" _ rfl]
  have hcipher : (JsonObject.ofFields p.secretFields).getString "cipher" = .ok p.cipher := by
    rw [JsonObject.getString, hfield 3 "cipher" _ rfl]
    rfl
  have htransport : ((JsonObject.ofFields p.secretFields).getString "transport").bind
      StandardProfile.Transport.valueOf = .ok p.transport := by
    rw [JsonObject.getString, hfield 4 "transport" _ rfl]
    exact StandardProfile.Transport.valueOf_name p.transport
  have hsecurity : ((JsonObject.ofFields p.secretFields).getString "security").bind
      StandardProfile.Security.valueOf = .ok p.security := by
    rw [JsonObject.getString, hfield 5 "security" _ rfl]
    exact StandardProfile.Security.valueOf_name p.security
  have halpn : (JsonObject.ofFields p.secretFields).getStrings "alpn" = .ok p.alpn := by
    rw [JsonObject.getStrings, hfield 8 "alpn" _ rfl]
  have hinsecure : (JsonObject.ofFields p.secretFields).getBoolean "allowInsecure"
      = .ok p.allowInsecure := by
    rw [JsonObject.getBoolean, hfield 10 "allowInsecure" _ rfl]
  rw [StandardProfileEntity.toProfile,
    show (p.toEntity pf secrets nonce).secret
      = secrets.encrypt nonce (JsonObject.ofFields p.secretFields).toText from rfl,
    secrets.decrypt_encrypt, ok_bind, reader.fromText_toText]
  dsimp only
  rw [toStandardProfile,
    show (p.toEntity pf secrets nonce).protocol = p.protocol.name from rfl,
    StandardProfile.Protocol.valueOf_name, ok_bind, hstring 0 "uuid" p.uuid rfl, ok_bind,
    hstring 1 "password" p.password rfl, ok_bind, halterId, ok_bind, hcipher, ok_bind, htransport,
    ok_bind, hsecurity, ok_bind, hstring 6 "flow" p.flow rfl, ok_bind,
    hstring 7 "serverName" p.serverName rfl, ok_bind, halpn, ok_bind,
    hstring 9 "fingerprint" p.fingerprint rfl, ok_bind, hinsecure, ok_bind,
    hstring 11 "realityPublicKey" p.realityPublicKey rfl, ok_bind,
    hstring 12 "realityShortId" p.realityShortId rfl, ok_bind,
    hstring 13 "realitySpiderX" p.realitySpiderX rfl, ok_bind,
    hstring 14 "webSocketHost" p.webSocketHost rfl, ok_bind,
    hstring 15 "webSocketPath" p.webSocketPath rfl, ok_bind,
    hstring 16 "grpcServiceName" p.grpcServiceName rfl, ok_bind,
    hstring 17 "xhttpMode" p.xhttpMode rfl, ok_bind,
    hstring 18 "xhttpHost" p.xhttpHost rfl, ok_bind,
    hstring 19 "xhttpPath" p.xhttpPath rfl, ok_bind,
    hstring 20 "xhttpExtraJson" p.xhttpExtraJson rfl, ok_bind,
    hstring 21 "dnsServer" p.dnsServer rfl, ok_bind]
  exact (StandardProfile.make_eq_ok pf).2 ⟨h, rfl⟩

end Rows

/-! ## The repository -/

inductive ProfileConfig
  | olcrtc (p : OlcrtcProfile)
  | standard (p : StandardProfile)
deriving DecidableEq

structure ProfileRows where
  olcrtcProfiles : LocalTable OlcrtcProfileEntity
  standardProfiles : LocalTable StandardProfileEntity

namespace ProfileConfig

def Valid : ProfileConfig → Prop
  | olcrtc p => p.Valid pf
  | standard p => p.Valid pf

/-- `ProfileIdentity.hash`. -/
def identity : ProfileConfig → Text
  | olcrtc p => ProfileIdentity.hash pf p
  | standard p => ProfileIdentity.standardHash pf p

def KeepsSecrets : ProfileConfig → Prop
  | olcrtc p => p.KeepsSecrets
  | standard _ => True

end ProfileConfig

section Repository

variable (secrets : SecretBox) (reader : JsonReader)

/-- The row that `insert` of the repository creates, as it is found under its id: the identity
    beside it, and the profile that is read from it. -/
def insertAndRead (nonces : secrets.Nonce × secrets.Nonce) (db : ProfileRows) :
    ProfileConfig → Option (Option Text × Except String ProfileConfig)
  | .olcrtc p =>
    let inserted := db.olcrtcProfiles.insert (p.toEntity pf secrets nonces)
    (inserted.2.get inserted.1).map fun e =>
      (e.identityHash, .olcrtc <$> e.toProfile pf secrets)
  | .standard p =>
    let inserted := db.standardProfiles.insert (p.toEntity pf secrets nonces.1)
    (inserted.2.get inserted.1).map fun e =>
      (e.identityHash, .standard <$> e.toProfile pf secrets reader)

/-- A profile is read back from the row that was inserted for it, and the identity beside the row is
    that of the profile that is read. -/
def Restored (nonces : secrets.Nonce × secrets.Nonce) (db : ProfileRows) (c : ProfileConfig) :
    Prop :=
  ∃ hash c', insertAndRead pf secrets reader nonces db c = some (some hash, .ok c') ∧ c' = c ∧
    hash = c'.identity pf

/-- **A stored profile is restored** exactly if it has no secret without a column. -/
theorem restored_iff (nonces : secrets.Nonce × secrets.Nonce) (db : ProfileRows)
    {c : ProfileConfig} (h : c.Valid pf) :
    Restored pf secrets reader nonces db c ↔ c.KeepsSecrets := by
  cases c with
  | olcrtc p =>
    have hread : insertAndRead pf secrets reader nonces db (.olcrtc p)
        = some (some (ProfileIdentity.hash pf p), .ok (.olcrtc p.stored)) := by
      rw [insertAndRead, LocalTable.get_insert, Option.map_some,
        toProfile_toEntity pf secrets nonces h]
      rfl
    rw [Restored, hread]
    constructor
    · rintro ⟨hash, c', heq, hsame, -⟩
      cases heq
      exact (OlcrtcProfile.stored_eq_iff p).1 (ProfileConfig.olcrtc.inj hsame)
    · intro hkeeps
      have hstored : p.stored = p := (OlcrtcProfile.stored_eq_iff p).2 hkeeps
      rw [hstored]
      exact ⟨_, _, rfl, rfl, rfl⟩
  | standard p =>
    have hread : insertAndRead pf secrets reader nonces db (.standard p)
        = some (some (ProfileIdentity.standardHash pf p), .ok (.standard p)) := by
      rw [insertAndRead, LocalTable.get_insert, Option.map_some,
        toProfile_toEntity_standard pf secrets reader nonces.1 h]
      rfl
    exact ⟨fun _ => trivial, fun _ => ⟨_, _, hread, rfl, rfl⟩⟩

end Repository

def plainBox : SecretBox where
  Nonce := Unit
  encrypt _ value := encodeUtf8 value
  decrypt bytes :=
    match decodeUtf8 bytes with
    | some value => .ok value
    | none => .error "AEADBadTagException"
  decrypt_encrypt _ value := by rw [decodeUtf8_encodeUtf8]

def noRows : ProfileRows :=
  ⟨⟨[], 0, fun _ h => absurd h List.not_mem_nil⟩, ⟨[], 0, fun _ h => absurd h List.not_mem_nil⟩⟩

theorem restored_iff_jitsi : Restored plainPlatform plainBox strictReader ((), ()) noRows
    (.olcrtc (exampleProfile .jitsi .datachannel)) := by
  have hvalid : (ProfileConfig.olcrtc (exampleProfile .jitsi .datachannel)).Valid plainPlatform :=
    show OlcrtcProfile.Valid plainPlatform (exampleProfile .jitsi .datachannel) by decide +kernel
  have hkeeps : (exampleProfile .jitsi .datachannel).KeepsSecrets := by
    constructor
    · intro hprovider
      cases hprovider
    · exact fun _ => rfl
  exact (restored_iff plainPlatform plainBox strictReader ((), ()) noRows hvalid).2 hkeeps

/-- The room password of a WBSTREAM profile is lost, and the identity beside the row is not that of
    the profile that is read. -/
theorem room_password_lost :
    (exampleProfile .wbstream .vp8channel).Valid plainPlatform ∧
      ∃ hash q, insertAndRead plainPlatform plainBox strictReader ((), ()) noRows
          (.olcrtc (exampleProfile .wbstream .vp8channel))
        = some (some hash, .ok (.olcrtc q)) ∧
        (exampleProfile .wbstream .vp8channel).roomPassword = some "secret".toList ∧
        q.roomPassword = none ∧ hash ≠ ProfileIdentity.hash plainPlatform q := by
  have hvalid : (exampleProfile .wbstream .vp8channel).Valid plainPlatform := by decide +kernel
  refine ⟨hvalid, ProfileIdentity.hash plainPlatform (exampleProfile .wbstream .vp8channel),
    (exampleProfile .wbstream .vp8channel).stored, ?_, rfl, rfl, ?_⟩
  · rw [insertAndRead, LocalTable.get_insert, Option.map_some,
      toProfile_toEntity plainPlatform plainBox ((), ()) hvalid]
    rfl
  · decide +kernel

end OlcRtc.Client
