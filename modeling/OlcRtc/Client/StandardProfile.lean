import OlcRtc.Client.Profile

/-!
# Standard profiles

Profiles for servers that speak one of the protocols in common use.  As with the client's own
profiles, the constructor checks the fields, and a profile that passes is *valid*.

A profile that uses XHTTP may carry further settings as the text of a JSON object.
`JsonObject.validate` checks that text by a scan of its own: the names of the object's members are
looked at, and of their values only where they end.
-/

namespace OlcRtc.Client

variable (pf : Platform)

/-! ## The settings of XHTTP -/

namespace JsonObject

def skipWhitespace (s : Text) : Text := s.dropWhile Text.isWhitespace

/-- The rest of a string after its opening quote, with a question mark for each escape, and what
    follows the closing quote. -/
def stringBody : Text → Except String (Text × Text)
  | [] => .error "Unterminated XHTTP extra JSON string"
  | '"' :: s => .ok ([], s)
  | ['\\'] => .error "Invalid XHTTP extra JSON escape"
  | '\\' :: 'u' :: a :: b :: c :: d :: s => do
    ensure ([a, b, c, d].all isHexChar) "Invalid XHTTP extra JSON escape"
    let (text, rest) ← stringBody s
    return ('?' :: text, rest)
  | '\\' :: escaped :: s => do
    ensure ("\"\\/bfnrt".toList.contains escaped) "Invalid XHTTP extra JSON escape"
    let (text, rest) ← stringBody s
    return ('?' :: text, rest)
  | c :: s => do
    ensure (0x20 ≤ c.toNat) "Invalid XHTTP extra JSON string"
    let (text, rest) ← stringBody s
    return (c :: text, rest)

def string (s : Text) : Except String (Text × Text) :=
  match skipWhitespace s with
  | '"' :: s => stringBody s
  | _ => .error "Invalid XHTTP extra JSON"

/-- The loop of `value` over an object or an array: brackets match, and strings are strings. -/
def closers : ℕ → Text → Text → Except String Text
  | _, [], s => .ok s
  | _, _ :: _, [] => .error "Unterminated XHTTP extra JSON value"
  | 0, _ :: _, _ :: _ => .error "Unterminated XHTTP extra JSON value"
  | fuel + 1, closer :: outer, c :: s =>
    if c = '"' then do
      let (_, rest) ← stringBody s
      closers fuel (closer :: outer) rest
    else if c = '{' then closers fuel ('}' :: closer :: outer) s
    else if c = '[' then closers fuel (']' :: closer :: outer) s
    else if c = '}' ∨ c = ']' then do
      ensure (c = closer) "Invalid XHTTP extra JSON value"
      closers fuel outer s
    else closers fuel (closer :: outer) s

/-- The literals of `value`. -/
def isLiteral (literal : Text) : Bool :=
  literal == "true".toList || literal == "false".toList || literal == "null".toList ||
    (Text.toLongOrNull pf.toCharTables literal).isSome

def value (s : Text) : Except String Text :=
  match skipWhitespace s with
  | [] => .error "Invalid XHTTP extra JSON value"
  | '"' :: s => Prod.snd <$> stringBody s
  | '{' :: s => closers s.length ['}'] s
  | '[' :: s => closers s.length [']'] s
  | s => do
    ensure (isLiteral pf (Text.trim (s.takeWhile fun c => c ≠ ',' ∧ c ≠ '}')))
      "Invalid XHTTP extra JSON value"
    return s.dropWhile fun c => c ≠ ',' ∧ c ≠ '}'

def members (allowedKeys : List Text) : ℕ → Text → Except String Text
  | 0, _ => .error "Unterminated XHTTP extra JSON"
  | fuel + 1, s => do
    let (key, s) ← string s
    ensure (key ∈ allowedKeys) ("Unsupported XHTTP extra field: " ++ String.ofList key)
    match skipWhitespace s with
    | ':' :: s => do
      let s ← value pf s
      match skipWhitespace s with
      | [] => .error "Unterminated XHTTP extra JSON"
      | '}' :: s => return s
      | ',' :: s => members allowedKeys fuel s
      | _ => .error "Invalid XHTTP extra JSON"
    | _ => .error "Invalid XHTTP extra JSON"

def validate (raw : Text) (allowedKeys : List Text) : Except String PUnit :=
  match skipWhitespace raw with
  | '{' :: s => do
    let rest ← match skipWhitespace s with
      | '}' :: s => .ok s
      | s => members pf allowedKeys (s.length + 1) s
    ensure (skipWhitespace rest = []) "Unexpected XHTTP extra JSON content"
  | _ => .error "XHTTP extra must be a JSON object"

end JsonObject

/-! ## Profiles -/

namespace StandardProfile

/-- `Protocol`. -/
inductive Protocol
  | vless
  | vmess
  | trojan
  | shadowsocks
deriving DecidableEq, Repr

/-- `Transport`. -/
inductive Transport
  | tcp
  | ws
  | grpc
  | xhttp
deriving DecidableEq, Repr

/-- `Security`. -/
inductive Security
  | none
  | tls
  | reality
deriving DecidableEq, Repr

def Protocol.name : Protocol → Text
  | vless => "VLESS".toList
  | vmess => "VMESS".toList
  | trojan => "TROJAN".toList
  | shadowsocks => "SHADOWSOCKS".toList

def Transport.name : Transport → Text
  | tcp => "TCP".toList
  | ws => "WS".toList
  | grpc => "GRPC".toList
  | xhttp => "XHTTP".toList

def Security.name : Security → Text
  | none => "NONE".toList
  | tls => "TLS".toList
  | reality => "REALITY".toList

end StandardProfile

structure StandardProfile where
  name : Text
  protocol : StandardProfile.Protocol
  address : Text
  port : ℤ
  uuid : Option Text := none
  password : Option Text := none
  alterId : Int32 := 0
  cipher : Text := "auto".toList
  transport : StandardProfile.Transport := .tcp
  security : StandardProfile.Security := .none
  flow : Option Text := none
  serverName : Option Text := none
  alpn : List Text := []
  fingerprint : Option Text := none
  allowInsecure : Bool := false
  realityPublicKey : Option Text := none
  realityShortId : Option Text := none
  realitySpiderX : Option Text := none
  webSocketHost : Option Text := none
  webSocketPath : Option Text := none
  grpcServiceName : Option Text := none
  xhttpMode : Option Text := none
  xhttpHost : Option Text := none
  xhttpPath : Option Text := none
  xhttpExtraJson : Option Text := none
  dnsServer : Option Text := none
deriving DecidableEq, Repr

namespace StandardProfile

def visionFlow : Text := "xtls-rprx-vision".toList

def maxXhttpExtraLength : ℕ := 16 * 1024

def vmessCiphers : List Text :=
  ["auto", "aes-128-gcm", "chacha20-poly1305", "none"].map String.toList

def shadowsocksCiphers : List Text :=
  ["aes-128-gcm", "aes-256-gcm", "chacha20-poly1305", "chacha20-ietf-poly1305",
    "xchacha20-poly1305", "2022-blake3-aes-128-gcm", "2022-blake3-aes-256-gcm",
    "2022-blake3-chacha20-poly1305"].map String.toList

def xhttpExtraFields : List Text :=
  ["headers", "xPaddingBytes", "xPaddingObfsMode", "xPaddingKey", "xPaddingHeader",
    "xPaddingPlacement", "xPaddingMethod", "uplinkHTTPMethod", "sessionPlacement", "sessionKey",
    "seqPlacement", "seqKey", "uplinkDataPlacement", "uplinkDataKey", "uplinkChunkSize",
    "noGRPCHeader", "noSSEHeader", "scMaxEachPostBytes", "scMinPostsIntervalMs",
    "scMaxBufferedPosts", "scStreamUpServerSecs", "xmux", "downloadSettings"].map String.toList

def isNullOrBlank (value : Option Text) : Bool := value.all Text.isBlank

def isNullOrEmpty (value : Option Text) : Bool := value.all (· == [])

def requireUuid (uuid : Option Text) : Except String PUnit := do
  ensure (!isNullOrBlank uuid) "UUID is required"
  ensure (uuid.any pf.uuidFromString) "UUID is invalid"

def checkProtocol (p : StandardProfile) : Except String PUnit :=
  match p.protocol with
  | .vless => requireUuid pf p.uuid
  | .vmess => do
    requireUuid pf p.uuid
    ensure (0 ≤ p.alterId) "alterId must not be negative"
    ensure (p.cipher ∈ vmessCiphers) ("unsupported VMess cipher: " ++ String.ofList p.cipher)
  | .trojan => ensure (!isNullOrEmpty p.password) "password is required"
  | .shadowsocks => do
    ensure (!isNullOrEmpty p.password) "password is required"
    ensure (p.cipher ∈ shadowsocksCiphers)
      ("unsupported Shadowsocks cipher: " ++ String.ofList p.cipher)

def checkCombination (p : StandardProfile) : Except String PUnit := do
  ensure (!(p.transport = .xhttp ∧ p.protocol ≠ .vless)) "XHTTP is supported only for VLESS"
  ensure (!(p.protocol = .trojan ∧ p.security = .none)) "Trojan requires TLS or REALITY"
  ensure (!(p.protocol = .vmess ∧ p.security = .reality)) "VMess does not support REALITY"
  ensure (!(p.protocol = .shadowsocks ∧ (p.transport ≠ .tcp ∨ p.security ≠ .none)))
    "Shadowsocks plugins and stream security are not supported"
  ensure (p.flow = none ∨ p.flow = some visionFlow)
    ("unsupported VLESS flow: " ++ String.ofList (p.flow.getD "null".toList))
  ensure (p.flow = none ∨ p.protocol = .vless) "flow is supported only for VLESS"
  ensure (p.flow = none ∨ p.transport = .tcp) "Vision requires TCP/raw transport"
  ensure (p.flow = none ∨ p.security = .reality) "Vision requires REALITY"

def checkSecurity (p : StandardProfile) : Except String PUnit := do
  ensure (p.security ≠ .reality ∨ !isNullOrBlank p.realityPublicKey)
    "REALITY public key is required"
  ensure (p.security ≠ .reality ∨ !isNullOrBlank p.realityShortId) "REALITY short ID is required"

def checkTransport (p : StandardProfile) : Except String PUnit := do
  ensure (p.transport ≠ .ws ∨ !isNullOrBlank p.webSocketPath) "WebSocket path is required"
  ensure (p.transport ≠ .grpc ∨ !isNullOrBlank p.grpcServiceName) "gRPC service name is required"
  if p.transport = .xhttp then
    ensure (!isNullOrBlank p.xhttpMode) "XHTTP mode is required"
    ensure (!isNullOrBlank p.xhttpPath) "XHTTP path is required"
    match p.xhttpExtraJson with
    | some extra => do
      ensure (Text.utf16Length extra ≤ maxXhttpExtraLength) "XHTTP extra is too large"
      JsonObject.validate pf extra xhttpExtraFields
    | none => return
  else ensure (p.xhttpExtraJson = none) "XHTTP extra requires XHTTP transport"

/-- `dnsServer?.let(DnsEndpoint::parse)`. -/
def checkDns (dnsServer : Option Text) : Except String PUnit :=
  match dnsServer with
  | some dns => do let _ ← DnsEndpoint.parse pf dns
  | none => return

def init (p : StandardProfile) : Except String PUnit := do
  ensure (!Text.isBlank p.name) "name is required"
  ensure (!Text.isBlank p.address) "address is required"
  ensure (1 ≤ p.port ∧ p.port ≤ 65535) "port must be in 1..65535"
  checkProtocol pf p
  checkDns pf p.dnsServer
  checkCombination p
  checkSecurity p
  checkTransport pf p

def make (p : StandardProfile) : Except String StandardProfile := do
  init pf p
  return p

def Valid (p : StandardProfile) : Prop := init pf p = .ok ⟨⟩

instance (p : StandardProfile) : Decidable (p.Valid pf) :=
  inferInstanceAs (Decidable (init pf p = .ok ⟨⟩))

lemma make_eq_ok {p q : StandardProfile} : make pf p = .ok q ↔ p.Valid pf ∧ p = q := by
  rw [make, bind_eq_ok]
  constructor
  · rintro ⟨⟨⟩, hvalid, heq⟩
    cases heq
    exact ⟨hvalid, rfl⟩
  · rintro ⟨hvalid, rfl⟩
    exact ⟨⟨⟩, hvalid, rfl⟩

end StandardProfile

/-! ## Identities -/

namespace ProfileIdentity

def lengthPrefixed (value : Text) : Text := decimal (Text.utf16Length value) ++ ':' :: value

/-- One character of `compactJson`, with whether it is in quotes and after a backslash. -/
def compactFrom : Bool → Bool → Text → Text
  | _, _, [] => []
  | quoted, true, c :: s => c :: compactFrom quoted false s
  | quoted, false, c :: s =>
    if quoted ∧ c = '\\' then c :: compactFrom quoted true s
    else if c = '"' then c :: compactFrom (!quoted) false s
    else if quoted ∨ !Text.isWhitespace c then c :: compactFrom quoted false s
    else compactFrom quoted false s

def compactJson (value : Text) : Text := compactFrom false false value

def standardValues (p : StandardProfile) : List (Option Text) :=
  [some p.protocol.name, some (pf.lowercase p.address), some (decimalInt p.port),
    p.uuid.map pf.lowercase, p.password, some (decimalInt p.alterId.toInt), some p.cipher,
    some p.transport.name, some p.security.name, p.flow, p.serverName.map pf.lowercase,
    some (['|'].intercalate (p.alpn.map lengthPrefixed)), p.fingerprint,
    some (if p.allowInsecure then "true".toList else "false".toList), p.realityPublicKey,
    p.realityShortId, p.realitySpiderX, p.webSocketHost.map pf.lowercase, p.webSocketPath,
    p.grpcServiceName, p.xhttpMode, p.xhttpHost.map pf.lowercase, p.xhttpPath,
    p.xhttpExtraJson.map compactJson, p.dnsServer.map (dnsText pf)]

/-- `ProfileIdentity.hash` of a standard profile. -/
def standardHash (p : StandardProfile) : Text := digest pf (standardValues pf p)

end ProfileIdentity

end OlcRtc.Client
