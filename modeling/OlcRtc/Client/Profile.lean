import OlcRtc.Lib.Checks
import OlcRtc.Lib.Uri

/-!
# Profiles of the client

A profile says how to connect.  `OlcrtcProfile` is the client's own kind; its constructor checks the
fields, and a profile that passes is *valid*.  `ProfileIdentity.hash` condenses what makes two
profiles the same connection.

Addresses of DNS servers are parsed by `DnsEndpoint`.  Numeric IPv6 addresses are left to the
platform, and so is SHA-256.
-/

namespace OlcRtc.Client

/-- The platform the client runs on. -/
structure Platform extends CharTables where
  /-- `InetAddress.getByName` for a numeric address: the text of the address if it is an IPv6
      address. -/
  getByName : Text → Option Text
  /-- `MessageDigest.getInstance("SHA-256")`. -/
  sha256 : Bytes → Bytes
  /-- Whether `UUID.fromString` accepts a text. -/
  uuidFromString : Text → Bool
  length_sha256 : ∀ bytes, (sha256 bytes).length = 32

def plainPlatform : Platform where
  toCharTables := asciiTables
  getByName _ := none
  sha256 bytes := bePut 32 (bytes.foldl (fun h b => h * 257 + b.toNat + 1) 0)
  uuidFromString _ := true
  length_sha256 _ := length_bePut 32 _

variable (pf : Platform)

/-! ## DNS servers -/

structure DnsEndpoint where
  address : Text
  port : ℤ
deriving DecidableEq, Repr

namespace DnsEndpoint

/-- `toString`. -/
def toText (e : DnsEndpoint) : Text :=
  if ':' ∈ e.address then '[' :: e.address ++ "]:".toList ++ decimalInt e.port
  else e.address ++ ':' :: decimalInt e.port

/-- `parseIpv4`: four numbers from 0 to 255 without leading zeros. -/
def parseIpv4 (value : Text) : Except String Text := do
  let parts := value.splitOn '.'
  ensure (parts.length = 4 ∧ parts.all fun part =>
      part != [] && part.all (fun c => (pf.digit 10 c).isSome) &&
        (part == "0".toList || part.head? != some '0') &&
        (Text.toIntOrNull pf.toCharTables part).any fun n => 0 ≤ n && n ≤ 255)
    "DNS address must be numeric IPv4 or IPv6"
  return ['.'].intercalate (parts.map fun part =>
    decimalInt ((Text.toIntOrNull pf.toCharTables part).getD 0))

def parseIpv6 (value : Text) : Except String Text := do
  ensure (value.all fun c => c == ':' || c == '.' || (pf.digit 10 c).isSome ||
      (97 ≤ c.toNat && c.toNat ≤ 102) || (65 ≤ c.toNat && c.toNat ≤ 70))
    "DNS address must be numeric IPv4 or IPv6"
  match pf.getByName value with
  | some address => return address
  | none => .error "DNS address must be numeric IPv4 or IPv6"

def splitPort (trimmed : Text) : Except String (Text × Text) :=
  match trimmed with
  | '[' :: rest =>
    match cut ']' rest with
    | (address, some (':' :: port)) =>
      if address = [] then .error "DNS must be an IP:port" else .ok (address, port)
    | _ => .error "DNS must be an IP:port"
  | _ =>
    if trimmed.count ':' = 1 then
      .ok (Text.substringBefore ':' trimmed, Text.substringAfter ':' trimmed trimmed)
    else .error "DNS must be an IP:port"

def parse (value : Text) : Except String DnsEndpoint := do
  let (address, portText) ← splitPort (Text.trim value)
  ensure ('%' ∉ address) "Scoped DNS addresses are not supported"
  match Text.toIntOrNull pf.toCharTables portText with
  | none => .error "DNS port must be an integer"
  | some port => do
    ensure (1 ≤ port ∧ port ≤ 65535) "DNS port must be in 1..65535"
    let parsed ← if ':' ∈ address then parseIpv6 pf address else parseIpv4 pf address
    return ⟨Text.substringBefore '%' parsed, port⟩

lemma not_isBlank_of_parse {value : Text} {e : DnsEndpoint} (h : parse pf value = .ok e) :
    Text.isBlank value = false := by
  by_contra hblank
  rw [Bool.not_eq_false] at hblank
  have htrim : Text.trim value = [] := by
    have hdrop : value.dropWhile Text.isWhitespace = [] :=
      List.dropWhile_eq_nil_iff.2 (List.all_eq_true.1 hblank)
    rw [Text.trim, hdrop]
    rfl
  rw [parse, htrim] at h
  cases h

end DnsEndpoint

/-! ## Profiles -/

inductive Provider
  | wbstream
  | telemost
  | jitsi
deriving DecidableEq, Repr

inductive Transport
  | vp8channel
  | datachannel
deriving DecidableEq, Repr

inductive CompatibilityMode
  | current
  | legacy
deriving DecidableEq, Repr

/-- The first of some values with a name. -/
def parseValue {α : Type} (value : α → Text) (entries : List α) (name : Text) (err : String) :
    Except String α :=
  match entries.find? fun e => value e = name with
  | some e => .ok e
  | none => .error err

namespace Provider

def value : Provider → Text
  | wbstream => "wbstream".toList
  | telemost => "telemost".toList
  | jitsi => "jitsi".toList

def name : Provider → String
  | wbstream => "WBSTREAM"
  | telemost => "TELEMOST"
  | jitsi => "JITSI"

def supports (p : Provider) (t : Transport) : Bool :=
  match p with
  | wbstream | telemost => t = .vp8channel
  | jitsi => t = .datachannel

def parse (text : Text) : Except String Provider :=
  parseValue value [wbstream, telemost, jitsi] (pf.lowercase text)
    ("Unsupported olcRTC provider: " ++ String.ofList text)

lemma parse_value (p : Provider) : parse pf p.value = .ok p := by
  rw [parse, Text.lowercase_eq_self _ (Text.forall_mem_of_all (by cases p <;> rfl))]
  cases p <;> rfl

end Provider

namespace Transport

def value : Transport → Text
  | vp8channel => "vp8channel".toList
  | datachannel => "datachannel".toList

def name : Transport → String
  | vp8channel => "VP8CHANNEL"
  | datachannel => "DATACHANNEL"

def parse (text : Text) : Except String Transport :=
  parseValue value [vp8channel, datachannel] (pf.lowercase text)
    ("Unsupported olcRTC transport: " ++ String.ofList text)

lemma parse_value (t : Transport) : parse pf t.value = .ok t := by
  rw [parse, Text.lowercase_eq_self _ (Text.forall_mem_of_all (by cases t <;> rfl))]
  cases t <;> rfl

end Transport

namespace CompatibilityMode

def value : CompatibilityMode → Text
  | current => "current".toList
  | legacy => "legacy".toList

def parse (text : Text) : Except String CompatibilityMode :=
  parseValue value [current, legacy] (pf.lowercase (Text.trim text))
    ("Unsupported olcRTC compatibility mode: " ++ String.ofList text)

lemma parse_value (m : CompatibilityMode) : parse pf m.value = .ok m := by
  have htrim : Text.trim m.value = m.value := by cases m <;> decide
  rw [parse, htrim, Text.lowercase_eq_self _ (Text.forall_mem_of_all (by cases m <;> rfl))]
  cases m <;> rfl

end CompatibilityMode

structure OlcrtcProfile where
  name : Text
  provider : Provider
  transport : Transport
  compatibilityMode : CompatibilityMode
  roomId : Text
  roomPassword : Option Text
  clientId : Text
  keyHex : Text
  dnsServer : Option Text
  vp8Fps : ℤ
  vp8BatchSize : ℤ
  keepaliveIntervalSeconds : ℤ
  authToken : Option Text
deriving DecidableEq, Repr

namespace OlcrtcProfile

def init (p : OlcrtcProfile) : Except String PUnit := do
  ensure (!Text.isBlank p.roomId) "roomId is required"
  ensure (!Text.isBlank p.clientId) "clientId is required"
  ensure (p.keyHex.length = 64 ∧ p.keyHex.all isHexChar)
    "keyHex must contain exactly 64 hexadecimal characters"
  ensure (1 ≤ p.vp8Fps ∧ p.vp8Fps ≤ 120) "vp8Fps must be in 1..120"
  ensure (1 ≤ p.vp8BatchSize ∧ p.vp8BatchSize ≤ 64) "vp8BatchSize must be in 1..64"
  ensure (0 ≤ p.keepaliveIntervalSeconds ∧ p.keepaliveIntervalSeconds ≤ 3600)
    "keepalive must be in 0..3600"
  ensure (p.provider.supports p.transport)
    (p.provider.name ++ " does not support " ++ p.transport.name)
  match p.dnsServer with
  | none => return
  | some dns => let _ ← DnsEndpoint.parse pf dns

def make (p : OlcrtcProfile) : Except String OlcrtcProfile := do
  init pf p
  return p

def Valid (p : OlcrtcProfile) : Prop := init pf p = .ok ⟨⟩

instance (p : OlcrtcProfile) : Decidable (p.Valid pf) :=
  inferInstanceAs (Decidable (init pf p = .ok ⟨⟩))

lemma valid_iff {p : OlcrtcProfile} : p.Valid pf ↔
    (Text.isBlank p.roomId = false ∧ Text.isBlank p.clientId = false ∧
      p.keyHex.length = 64 ∧ p.keyHex.all isHexChar = true) ∧
    (1 ≤ p.vp8Fps ∧ p.vp8Fps ≤ 120) ∧ (1 ≤ p.vp8BatchSize ∧ p.vp8BatchSize ≤ 64) ∧
    (0 ≤ p.keepaliveIntervalSeconds ∧ p.keepaliveIntervalSeconds ≤ 3600) ∧
    p.provider.supports p.transport = true ∧
    ∀ dns, p.dnsServer = some dns → ∃ e, DnsEndpoint.parse pf dns = .ok e := by
  have hdns : ∀ dns, (do let _ ← DnsEndpoint.parse pf dns : Except String PUnit) = .ok ⟨⟩ ↔
      ∃ e, DnsEndpoint.parse pf dns = .ok e := by
    intro dns
    cases DnsEndpoint.parse pf dns <;> simp [Functor.map, Except.map]
  rw [Valid, init]
  cases p.dnsServer with
  | none => simp [bind_eq_ok, and_assoc]
  | some dns => simp [bind_eq_ok, and_assoc, ← hdns dns]

lemma make_eq_ok {p q : OlcrtcProfile} : make pf p = .ok q ↔ p.Valid pf ∧ p = q := by
  rw [make, bind_eq_ok]
  constructor
  · rintro ⟨⟨⟩, hvalid, heq⟩
    cases heq
    exact ⟨hvalid, rfl⟩
  · rintro ⟨hvalid, rfl⟩
    exact ⟨⟨⟩, hvalid, rfl⟩

end OlcrtcProfile

def exampleProfile (provider : Provider) (transport : Transport) : OlcrtcProfile where
  name := "home".toList
  provider := provider
  transport := transport
  compatibilityMode := .current
  roomId := "room 1".toList
  roomPassword := some "secret".toList
  clientId := "c".toList
  keyHex := List.replicate 64 'a'
  dnsServer := some "1.1.1.1:53".toList
  vp8Fps := 120
  vp8BatchSize := 64
  keepaliveIntervalSeconds := 15
  authToken := none

/-! ## Identities -/

namespace ProfileIdentity

/-- What is digested of one value: its length and its bytes, or minus one. -/
def digestValue : Option Text → Bytes
  | none => [255, 255, 255, 255]
  | some value => bePut 4 (encodeUtf8 value).length ++ encodeUtf8 value

/-- `digest`, in hexadecimal. -/
def digest (values : List (Option Text)) : Text :=
  encodeHex (pf.sha256 (values.flatMap digestValue))

/-- The text of a DNS server in an identity.  The DNS server of a valid profile can be parsed. -/
def dnsText (dns : Text) : Text :=
  match DnsEndpoint.parse pf dns with
  | .ok e => e.toText
  | .error _ => []

def olcrtcValues (p : OlcrtcProfile) : List (Option Text) :=
  [some "OLCRTC".toList, some p.provider.value, some p.transport.value, some p.roomId,
    p.roomPassword, some p.clientId, some (pf.lowercase p.keyHex), p.dnsServer.map (dnsText pf),
    some (decimalInt p.vp8Fps), some (decimalInt p.vp8BatchSize),
    some (decimalInt p.keepaliveIntervalSeconds)]

def hash (p : OlcrtcProfile) : Text := digest pf (olcrtcValues pf p)

end ProfileIdentity

end OlcRtc.Client
