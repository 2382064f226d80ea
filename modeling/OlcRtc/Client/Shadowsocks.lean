import OlcRtc.Client.LinkQuery
import OlcRtc.Client.StandardProfile
import OlcRtc.Lib.Base64

/-!
# Links to Shadowsocks servers

A Shadowsocks link has the cipher and the password in Base64, `ss://credentials@host:port#name`, or,
in an older form, the host and port as well.  This is the part of `StandardUri` that reads and
writes such links.

`java.net.URI` gives an IPv6 address back in its brackets, and that is how it is stored in the
profile.  The writer, which puts brackets around every address with a colon, then writes two pairs,
and no reader accepts those.  **`shadowsocks_round_trips_iff`** says that this is all that is wrong:
an accepted link is read back from what is written for it exactly if its endpoint does not begin
with a bracket.
-/

namespace OlcRtc.Client.StandardUri

variable (pf : Platform)

/-- The scheme by which `parse` chooses. -/
def scheme (raw : Text) : Text := pf.lowercase (Text.substringBefore ':' raw)

def decodeBase64Text (value : Text) : Except String Text :=
  let normalized := (Text.trim value).map toStandardChar
  match (decodeGroups (padBase64 (Text.utf16Length normalized) normalized)).bind decodeUtf8 with
  | some text => .ok text
  | none => .error "Invalid Shadowsocks Base64"

def payload (raw : Text) : Text :=
  Text.dropIfPrefixed "//".toList (Text.substringAfter ':' [] raw)

def authorityOf (encoded : Text) : Text :=
  Text.substringBefore '?' (Text.substringBefore '#' encoded)

def queryOf (encoded : Text) : Option Text :=
  let query := Text.substringAfter '?' [] (Text.substringBefore '#' encoded)
  if query = [] then none else some query

/-- The credentials and the endpoint of an authority: the credentials are in Base64, or both are. -/
def credentialsAndEndpoint (authority : Text) : Except String (Text × Text) :=
  if '@' ∈ authority then do
    let credentials ← decodeBase64Text (Text.substringBeforeLast '@' authority)
    return (credentials, Text.substringAfterLast '@' authority)
  else do
    let legacy ← decodeBase64Text authority
    ensure ('@' ∈ legacy) "Invalid Shadowsocks payload"
    return (Text.substringBeforeLast '@' legacy, Text.substringAfterLast '@' legacy)

def splitCredentials (credentials : Text) : Except String (Text × Text) :=
  match cut ':' credentials with
  | (method, some password) =>
    if method = [] ∨ password = [] then .error "Invalid Shadowsocks credentials"
    else .ok (pf.lowercase method, password)
  | (_, none) => .error "Invalid Shadowsocks credentials"

def parseEndpoint (endpoint : Text) : Except String (Text × ℤ) := do
  let server ← newUri ("ss".toList ++ "://".toList ++ ("user".toList ++ '@' :: endpoint))
  match server.authority.bind Authority.host with
  | none => .error "address is required"
  | some address => do
    ensure (!Text.isBlank address) "address is required"
    match server.authority.bind Authority.port with
    | none => .error "port must be in 1..65535"
    | some port => do
      ensure (1 ≤ port ∧ port ≤ 65535) "port must be in 1..65535"
      return (address, (port : ℤ))

def parseName (encoded : Text) : Except String Text := do
  let name ← decode pf (Text.substringAfter '#' [] encoded)
  return if Text.isBlank name then "Shadowsocks".toList else name

def shadowsocksProfile (name address : Text) (port : ℤ) (method password : Text) :
    StandardProfile :=
  { name, protocol := .shadowsocks, address, port, password := some password, cipher := method }

def parseShadowsocks (raw : Text) : Except String StandardProfile := do
  let encoded := payload raw
  ensure (!Text.isBlank encoded) "Shadowsocks payload is required"
  let params ← parseQuery pf "parameter" (queryOf encoded)
  ensure (params.all fun p => p.1 = "plugin".toList) "Unsupported Shadowsocks parameters"
  ensure (StandardProfile.isNullOrBlank (lookupParameter params "plugin".toList))
    "Shadowsocks plugins are not supported"
  let (credentials, endpoint) ← credentialsAndEndpoint (authorityOf encoded)
  let (method, password) ← splitCredentials pf credentials
  let (address, port) ← parseEndpoint endpoint
  let name ← parseName pf encoded
  StandardProfile.make pf (shadowsocksProfile name address port method password)

def bracketed (address : Text) : Text :=
  if ':' ∈ address then '[' :: address ++ [']'] else address

def serializeShadowsocks (p : StandardProfile) : Except String Text :=
  match p.password with
  | none => .error "Required value was null."
  | some password =>
    let credentials := encodeBase64Url (encodeUtf8 (p.cipher ++ ':' :: password))
    .ok ["ss://".toList, credentials, ['@'], bracketed p.address, [':'], decimalInt p.port, ['#'],
      encodeComponent p.name].flatten

/-! ## What is accepted -/

/-- A link is read again from what is written for its profile. -/
def RoundTrips (p : StandardProfile) : Prop :=
  ∃ text, serializeShadowsocks p = .ok text ∧ scheme pf text = "ss".toList ∧
    parseShadowsocks pf text = .ok p

def endpointOf (raw : Text) : Except String Text :=
  Prod.snd <$> credentialsAndEndpoint (authorityOf (payload raw))

lemma parseEndpoint_eq_ok {endpoint address : Text} {port : ℤ}
    (h : parseEndpoint endpoint = .ok (address, port)) :
    ∃ n : ℕ, port = n ∧ n ≤ 65535 ∧
      parseHostPort (authorityText endpoint) = some (address, some n) := by
  simp only [parseEndpoint, bind_eq_ok] at h
  obtain ⟨server, hserver, h⟩ := h
  have hparsed : parseUri ("ss".toList ++ "://".toList ++ ("user".toList ++ '@' :: endpoint))
      = some server := by
    rw [newUri] at hserver
    split at hserver
    · next heq =>
        cases hserver
        exact heq
    · cases hserver
  cases hhost : server.authority.bind Authority.host with
  | none =>
    rw [hhost] at h
    cases h
  | some host =>
    have hread := server_of_parseUri (by decide) (Text.forall_mem_of_all rfl) (by decide) hparsed
      hhost
    rw [hhost] at h
    simp only [bind_eq_ok, ensure_eq_ok] at h
    obtain ⟨-, -, h⟩ := h
    cases hport : server.authority.bind Authority.port with
    | none =>
      rw [hport] at h
      cases h
    | some n =>
      rw [hport] at h hread
      simp only [bind_eq_ok, ensure_eq_ok, decide_eq_true_eq] at h
      obtain ⟨-, hrange, h⟩ := h
      cases h
      exact ⟨n, rfl, hrange.2, hread⟩

lemma parseShadowsocks_eq_ok {u : Text} {p : StandardProfile} (h : parseShadowsocks pf u = .ok p) :
    ∃ endpoint name address port method password, endpointOf u = .ok endpoint ∧
      parseEndpoint endpoint = .ok (address, port) ∧
      p = shadowsocksProfile name address port method password ∧ p.Valid pf := by
  simp only [parseShadowsocks, bind_eq_ok] at h
  obtain ⟨-, -, params, -, -, -, -, -, ⟨credentials, endpoint⟩, hcredentials, ⟨method, password⟩, -,
    ⟨address, port⟩, hserver, name, -, hmake⟩ := h
  obtain ⟨hvalid, hp⟩ := (StandardProfile.make_eq_ok pf).1 hmake
  refine ⟨endpoint, name, address, port, method, password, ?_, hserver, hp.symm, hp ▸ hvalid⟩
  rw [endpointOf, hcredentials]
  rfl

/-! ## What is written -/

lemma decodeBase64Text_encodeBase64Url (s : Text) :
    decodeBase64Text (encodeBase64Url (encodeUtf8 s)) = .ok s := by
  have hspace : ∀ n < 64, Text.isWhitespace (toUrlChar (base64Char n)) = false := by decide
  have hsmall : ∀ n < 64, (toStandardChar (toUrlChar (base64Char n))).toNat < 0x10000 := by decide
  have htrim : Text.trim (encodeBase64Url (encodeUtf8 s)) = encodeBase64Url (encodeUtf8 s) := by
    refine Text.trim_of_forall fun c hc => ?_
    obtain ⟨n, hn, rfl⟩ := encodeBase64Url_chars _ c hc
    exact hspace n hn
  have hlength : Text.utf16Length ((encodeBase64Url (encodeUtf8 s)).map toStandardChar)
      = (encodeBase64Url (encodeUtf8 s)).length := by
    rw [Text.utf16Length_of_forall, List.length_map]
    intro c hc
    obtain ⟨d, hd, rfl⟩ := List.mem_map.1 hc
    obtain ⟨n, hn, rfl⟩ := encodeBase64Url_chars _ d hd
    exact hsmall n hn
  rw [decodeBase64Text, htrim, hlength, padBase64_encodeBase64Url, decodeGroups_encodeBase64,
    Option.bind_some, decodeUtf8_encodeUtf8]

def written (method password endpoint name : Text) : Text :=
  "ss".toList ++ ':' :: ("//".toList ++ (encodeBase64Url (encodeUtf8 (method ++ ':' :: password))
    ++ '@' :: endpoint ++ '#' :: encodeComponent name))

lemma cipher_chars : ∀ method ∈ StandardProfile.shadowsocksCiphers,
    method ≠ [] ∧ ':' ∉ method ∧
      ∀ c ∈ method, c.toNat < 128 ∧ c.toLower = c := by
  have hall : ∀ method ∈ StandardProfile.shadowsocksCiphers, method ≠ [] ∧ ':' ∉ method ∧
      (method.all fun c => decide (c.toNat < 128 ∧ c.toLower = c)) = true := by
    decide
  intro method hmethod
  obtain ⟨hne, hcolon, hchars⟩ := hall method hmethod
  exact ⟨hne, hcolon, Text.forall_mem_of_all hchars⟩

/-- **What is read from what was written**: the endpoint decides. -/
lemma parseShadowsocks_written {method password endpoint name : Text}
    (hmethod : method ∈ StandardProfile.shadowsocksCiphers) (hpassword : password ≠ [])
    (hname : Text.isBlank name = false)
    (hendpoint : '@' ∉ endpoint ∧ '?' ∉ endpoint ∧ '#' ∉ endpoint) :
    scheme pf (written method password endpoint name) = "ss".toList ∧
      parseShadowsocks pf (written method password endpoint name)
        = (do
            let (address, port) ← parseEndpoint endpoint
            StandardProfile.make pf (shadowsocksProfile name address port method password)) := by
  obtain ⟨hne, hcolon, hlower⟩ := cipher_chars method hmethod
  have hurl : ∀ c, (∀ n < 64, c ≠ toUrlChar (base64Char n)) →
      c ∉ encodeBase64Url (encodeUtf8 (method ++ ':' :: password)) := by
    intro c hc hmem
    obtain ⟨n, hn, heq⟩ := encodeBase64Url_chars _ c hmem
    exact hc n hn heq
  set authority := encodeBase64Url (encodeUtf8 (method ++ ':' :: password)) ++ '@' :: endpoint
    with hauthority
  have hpayload : payload (written method password endpoint name)
      = authority ++ '#' :: encodeComponent name := by
    rw [payload, written, Text.substringAfter_append (by decide)]
    rfl
  have hhash : '#' ∉ authority ∧ '?' ∉ authority := by
    simp only [hauthority, List.mem_append, List.mem_cons, not_or]
    exact ⟨⟨hurl '#' (by decide), by decide, hendpoint.2.2⟩,
      ⟨hurl '?' (by decide), by decide, hendpoint.2.1⟩⟩
  have hblank : Text.isBlank (authority ++ '#' :: encodeComponent name) = false := by
    rw [Text.isBlank, List.all_append, List.all_cons, show Text.isWhitespace '#' = false from rfl,
      Bool.false_and, Bool.and_false]
  have hquery : queryOf (authority ++ '#' :: encodeComponent name) = none := by
    rw [queryOf, Text.substringBefore_append hhash.1, Text.substringAfter_of_not_mem hhash.2]
    rfl
  have hparts : authorityOf (authority ++ '#' :: encodeComponent name) = authority := by
    rw [authorityOf, Text.substringBefore_append hhash.1, Text.substringBefore_of_not_mem hhash.2]
  have hcredentials : credentialsAndEndpoint authority
      = .ok (method ++ ':' :: password, endpoint) := by
    rw [credentialsAndEndpoint, if_pos (by simp [hauthority]), hauthority,
      Text.substringBeforeLast_append hendpoint.1, Text.substringAfterLast_append hendpoint.1,
      decodeBase64Text_encodeBase64Url]
    rfl
  have hsplit : splitCredentials pf (method ++ ':' :: password) = .ok (method, password) := by
    rw [splitCredentials, cut_append hcolon]
    dsimp only
    rw [if_neg (by simp [hne, hpassword]), Text.lowercase_eq_self _ hlower]
  have hdecoded : parseName pf (authority ++ '#' :: encodeComponent name) = .ok name := by
    rw [parseName, Text.substringAfter_append hhash.1, decode_encodeComponent, ok_bind, hname]
    rfl
  constructor
  · rw [scheme, written, Text.substringBefore_append (by decide),
      Text.lowercase_eq_self _ (Text.forall_mem_of_all rfl)]
  · rw [parseShadowsocks, hpayload]
    dsimp only
    rw [hblank, show ensure (!false) _ = .ok PUnit.unit from rfl, ok_bind, hquery,
      show parseQuery pf _ none = .ok [] from rfl, ok_bind,
      show ensure (List.all [] _) _ = .ok PUnit.unit from rfl, ok_bind,
      show ensure (StandardProfile.isNullOrBlank (lookupParameter [] _)) _ = .ok PUnit.unit
        from rfl, ok_bind, hparts, hcredentials, ok_bind]
    dsimp only
    rw [hsplit, ok_bind]
    dsimp only
    rw [hdecoded]
    rfl

/-! ## Endpoints -/

lemma parseEndpoint_host {address : Text} {n : ℕ} (haddress : isHost address = true)
    (hlo : 1 ≤ n) (hhi : n ≤ 65535) :
    parseEndpoint (address ++ ':' :: decimal n) = .ok (address, (n : ℤ)) := by
  obtain ⟨hne, hchars⟩ := isHost_chars haddress
  have hplain : ∀ c : Char, c.isAlphanum = true ∨ c = '-' ∨ c = '.' →
      c ≠ '/' ∧ c ≠ '?' ∧ c ≠ '#' := by
    rintro c (h | rfl | rfl)
    · refine ⟨?_, ?_, ?_⟩ <;> (rintro rfl; cases h)
    · decide
    · decide
  set auth : Text := "user".toList ++ '@' :: (address ++ ':' :: decimal n) with hauth
  have hparsed : parseAuthority auth = some ⟨auth, some "user".toList, some address, some n⟩ := by
    rw [parseAuthority, parseServer, hauth, cut_append (by decide)]
    dsimp only
    rw [if_pos (by decide), parseHostPort_host haddress (by omega)]
    rfl
  have hauthChars : ∀ c ∈ auth, c ≠ '/' ∧ c ≠ '?' ∧ c ≠ '#' := by
    intro c hc
    simp only [hauth, List.mem_append, List.mem_cons] at hc
    rcases hc with hc | rfl | hc | rfl | hc
    · grind
    · decide
    · exact hplain c (hchars c hc)
    · decide
    · exact hplain c (Or.inl (by
        rw [Char.isAlphanum, List.all_eq_true.1 (decimal_chars n) c hc, Bool.or_true]))
  have huri : newUri ("ss".toList ++ "://".toList ++ auth) = .ok
      ⟨some "ss".toList, some ⟨auth, some "user".toList, some address, some n⟩, some [], none,
        none⟩ := by
    have hread : parseUri ("ss".toList ++ "://".toList ++ auth ++ [] ++ follow '?' none
        ++ follow '#' none) = _ :=
      parseUri_hierarchical (by decide) (by simp [hauth]) hauthChars hparsed (Or.inl rfl)
        ⟨List.not_mem_nil, List.not_mem_nil⟩ rfl (by simp) (by simp)
    simp only [follow, Option.elim_none, List.append_nil] at hread
    rw [newUri, hread]
  have hblank : Text.isBlank address = false := by
    obtain ⟨c, rest, rfl⟩ := List.exists_cons_of_ne_nil hne
    have hspace : Text.isWhitespace c = false := by
      rcases hchars c List.mem_cons_self with h | rfl | rfl
      · exact Text.isWhitespace_of_isAlphanum h
      · rfl
      · rfl
    rw [Text.isBlank, List.all_cons, hspace, Bool.false_and]
  rw [parseEndpoint, huri, ok_bind]
  simp [hblank, hlo, hhi, ensure, ok_bind, pure, Except.pure]

lemma parseEndpoint_brackets (s : Text) (server : Text × ℤ) :
    parseEndpoint ('[' :: '[' :: s) ≠ .ok server := by
  intro h
  obtain ⟨n, -, -, hread⟩ := parseEndpoint_eq_ok h
  have htext : authorityText ('[' :: '[' :: s) = '[' :: '[' :: authorityText s := rfl
  rw [htext, parseHostPort_brackets] at hread
  cases hread

lemma valid_shadowsocksProfile {name address : Text} {port : ℤ} {method password : Text}
    (h : (shadowsocksProfile name address port method password).Valid pf) :
    Text.isBlank name = false ∧ 1 ≤ port ∧ password ≠ [] ∧
      method ∈ StandardProfile.shadowsocksCiphers := by
  simp only [StandardProfile.Valid, StandardProfile.init, StandardProfile.checkProtocol,
    shadowsocksProfile, bind_eq_ok, ensure_eq_ok] at h
  obtain ⟨-, hname, -, -, -, hport, -, ⟨-, hpassword, hmethod⟩, -⟩ := h
  refine ⟨by simpa using hname, (of_decide_eq_true hport).1, ?_, of_decide_eq_true hmethod⟩
  rintro rfl
  cases hpassword

/-! ## The round trip -/

lemma at_not_mem_endpointOf {u endpoint : Text} (h : endpointOf u = .ok endpoint) :
    '@' ∉ endpoint := by
  rw [endpointOf, credentialsAndEndpoint] at h
  split_ifs at h
  · cases hdecoded : decodeBase64Text (Text.substringBeforeLast '@' (authorityOf (payload u))) with
    | error err =>
      rw [hdecoded] at h
      cases h
    | ok credentials =>
      rw [hdecoded] at h
      cases h
      exact Text.not_mem_substringAfterLast '@' _
  · cases hdecoded : decodeBase64Text (authorityOf (payload u)) with
    | error err =>
      rw [hdecoded] at h
      cases h
    | ok legacy =>
      rw [hdecoded, ok_bind, ensure] at h
      split_ifs at h
      · cases h
        exact Text.not_mem_substringAfterLast '@' _
      · cases h

lemma serializeShadowsocks_eq (name address : Text) (n : ℕ) (method password : Text) :
    serializeShadowsocks (shadowsocksProfile name address n method password)
      = .ok (written method password (bracketed address ++ ':' :: decimal n) name) := by
  have hport : decimalInt (n : ℤ) = decimal n := rfl
  have hscheme : "ss://".toList = "ss".toList ++ ':' :: "//".toList := rfl
  simp only [serializeShadowsocks, shadowsocksProfile, written, hport, hscheme,
    List.flatten_cons, List.flatten_nil, List.append_assoc, List.cons_append, List.nil_append,
    List.append_nil]

lemma not_mem_written {s address : Text} {port : Option ℕ} {n : ℕ} {d : Char}
    (hread : parseHostPort s = some (address, port)) (hd : d ∉ s)
    (hother : d ≠ '[' ∧ d ≠ ']' ∧ d ≠ ':') (hdigit : d.isDigit = false) :
    d ∉ bracketed address ++ ':' :: decimal n := by
  have haddress : d ∉ address := by
    intro hmem
    rcases parseHostPort_chars hread d hmem with h | h
    · exact hd h
    · exact hother.2.1 h
  have hnumeral : d ∉ decimal n := by
    intro hmem
    rw [List.all_eq_true.1 (decimal_chars n) d hmem] at hdigit
    cases hdigit
  rw [bracketed]
  split_ifs <;> simp [haddress, hnumeral, hother]

/-- **When a Shadowsocks link is read again** from what is written for its profile. -/
theorem shadowsocks_round_trips_iff {u : Text} {p : StandardProfile}
    (hparse : parseShadowsocks pf u = .ok p) :
    RoundTrips pf p ↔ ∀ endpoint, endpointOf u = .ok endpoint → endpoint.head? ≠ some '[' := by
  obtain ⟨endpoint, name, address, port, method, password, hendpoint, hserver, rfl, hvalid⟩ :=
    parseShadowsocks_eq_ok pf hparse
  obtain ⟨n, rfl, hhi, hread⟩ := parseEndpoint_eq_ok hserver
  obtain ⟨hname, hlo, hpassword, hmethod⟩ := valid_shadowsocksProfile pf hvalid
  have hcond : (∀ e, endpointOf u = .ok e → e.head? ≠ some '[') ↔
      (authorityText endpoint).head? ≠ some '[' := by
    rw [Ne, head_authorityText endpoint (by decide : '[' ≠ '/' ∧ '[' ≠ '?' ∧ '[' ≠ '#')]
    constructor
    · exact fun h => h endpoint hendpoint
    · grind
  have hat : '@' ∉ authorityText endpoint := fun hmem =>
    at_not_mem_endpointOf hendpoint ((List.takeWhile_sublist _).mem hmem)
  have hplain := authorityText_chars endpoint
  have hwritten := parseShadowsocks_written pf hmethod hpassword hname
    ⟨not_mem_written (n := n) hread hat (by decide) rfl,
      not_mem_written (n := n) hread (fun hmem => (hplain _ hmem).2.1 rfl) (by decide) rfl,
      not_mem_written (n := n) hread (fun hmem => (hplain _ hmem).2.2 rfl) (by decide) rfl⟩
  rw [hcond, RoundTrips, serializeShadowsocks_eq]
  rcases parseHostPort_eq_some hread with ⟨hbracket, hhost, hcolon⟩ | ⟨hbracket, hhost⟩
  · -- two pairs of brackets
    obtain ⟨rest, rfl⟩ := List.head?_eq_some_iff.1 hhost
    refine ⟨?_, fun h => absurd hbracket h⟩
    rintro ⟨text, htext, -, hagain⟩
    cases htext
    rw [hwritten.2, bind_eq_ok, bracketed, if_pos hcolon] at hagain
    obtain ⟨server, hserver', -⟩ := hagain
    exact absurd hserver' (parseEndpoint_brackets _ server)
  · have hcolon : ':' ∉ address := by
      intro hmem
      rcases (isHost_chars hhost).2 _ hmem with h | h | h <;> exact absurd h (by decide)
    refine ⟨fun _ => hbracket, fun _ => ⟨_, rfl, hwritten.1, ?_⟩⟩
    rw [hwritten.2, bracketed, if_neg hcolon, parseEndpoint_host hhost (by omega) hhi, ok_bind]
    exact (StandardProfile.make_eq_ok pf).2 ⟨hvalid, rfl⟩

def exampleLink (endpoint : String) : Text :=
  "ss://YWVzLTI1Ni1nY206cGFzcw@".toList ++ endpoint.toList ++ "#home".toList

theorem shadowsocks_round_trips_iff_name :
    ∃ p, scheme plainPlatform (exampleLink "example.org:8388") = "ss".toList ∧
      parseShadowsocks plainPlatform (exampleLink "example.org:8388") = .ok p ∧
      RoundTrips plainPlatform p := by
  have hparse : parseShadowsocks plainPlatform (exampleLink "example.org:8388") = .ok
      (shadowsocksProfile "home".toList "example.org".toList 8388 "aes-256-gcm".toList
        "pass".toList) := by decide +kernel
  have hendpoint : endpointOf (exampleLink "example.org:8388") = .ok "example.org:8388".toList := by
    decide +kernel
  refine ⟨_, by decide +kernel, hparse, (shadowsocks_round_trips_iff plainPlatform hparse).2 ?_⟩
  intro endpoint h
  rw [hendpoint] at h
  cases h
  decide

/-- A link to an IPv6 address is accepted, and what is written for its profile is not. -/
theorem ipv6_link_lost :
    ∃ p text err, scheme plainPlatform (exampleLink "[2001:db8::1]:8388") = "ss".toList ∧
      parseShadowsocks plainPlatform (exampleLink "[2001:db8::1]:8388") = .ok p ∧
      serializeShadowsocks p = .ok text ∧ text = exampleLink "[[2001:db8::1]]:8388" ∧
      parseShadowsocks plainPlatform text = .error err :=
  ⟨shadowsocksProfile "home".toList "[2001:db8::1]".toList 8388 "aes-256-gcm".toList
      "pass".toList, exampleLink "[[2001:db8::1]]:8388", "URISyntaxException", by decide +kernel,
    by decide +kernel, by decide +kernel, rfl, by decide +kernel⟩

end OlcRtc.Client.StandardUri
