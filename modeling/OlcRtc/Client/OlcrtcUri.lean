import OlcRtc.Client.LinkQuery

/-!
# Links to profiles

A profile is shared as a link, `olcrtc://provider@r/room?parameters#name`.  `serialize` writes it
and `parse` reads it; older links have the room in the place of the host, and longer names for the
parameters.

The link leaves out the VP8 parameters of a profile that uses a data channel, and for parameters
that are missing `parse` takes the defaults of older links.  Those are not the defaults of the
client, so a profile made by the client comes back changed, and with it its identity.  An empty room
password is left out, too, and its identity differs from that of none.  **`round_trips_iff`** says
that there is nothing else: a valid profile is read back with its identity exactly if its VP8
parameters are those of older links, or are written, and its room password is not empty.
-/

namespace OlcRtc.Client.OlcrtcUri

variable (pf : Platform)

def legacyVp8Fps : ℤ := 60

def legacyVp8Batch : ℤ := 8

def defaultKeepaliveSeconds : ℤ := 15

def allowedParameters : List Text :=
  ["key", "k", "transport", "t", "core", "vp8_fps", "f", "vp8_batch", "b", "client_id", "c", "dns",
    "d", "room_password", "rp", "keepalive", "ka", "auth_token", "auth.token", "a"].map
      String.toList

/-- `parameter`: at most one of the names of a parameter is given. -/
def parameter (params : List (Text × Text)) (names : List String) :
    Except String (Option Text) :=
  match names.filterMap fun name => lookupParameter params name.toList with
  | [] => .ok none
  | [value] => .ok (some value)
  | _ => .error ("Duplicate aliases for " ++ names.headD "")

def required (params : List (Text × Text)) (names : List String) : Except String Text := do
  match ← parameter params names with
  | some value =>
    if Text.isBlank value then .error (names.headD "" ++ " is required") else return value
  | none => .error (names.headD "" ++ " is required")

def integer (params : List (Text × Text)) (missing : ℤ) (names : List String) :
    Except String ℤ := do
  match ← parameter params names with
  | none => return missing
  | some value =>
    match Text.toIntOrNull pf.toCharTables value with
    | some n => return n
    | none => .error (names.headD "" ++ " must be an integer")

/-- `uri.rawAuthority?.split('@')?.takeIf { it.size == 2 }`. -/
def splitAuthority (uri : Uri) : Option (Text × Text) :=
  uri.authority.bind fun a =>
    match a.raw.splitOn '@' with
    | [first, last] => some (first, last)
    | _ => none

/-- The provider: the user information, or what stands before the only `@`. -/
def providerText (uri : Uri) : Except String (Option Text) :=
  match uri.authority.bind Authority.rawUserInfo with
  | some userInfo => .ok (urlDecodeFrom pf.toCharTables '+' [] userInfo)
  | none =>
    match splitAuthority uri with
    | some (first, _) => some <$> decode pf first
    | none => .ok none

/-- The host: as the identifier has it, or what stands after the only `@`. -/
def roomHost (uri : Uri) : Option Text :=
  match uri.authority.bind Authority.host with
  | some host => some host
  | none => (splitAuthority uri).bind fun parts =>
    if Text.isBlank parts.2 ∨ ':' ∈ parts.2 then none else some parts.2

/-- `provider` of `parse`. -/
def parseProvider (uri : Uri) : Except String Provider := do
  match ← providerText pf uri with
  | some text => Provider.parse pf text
  | none => .error "Provider is required"

/-- `host` of `parse`. -/
def parseHost (uri : Uri) : Except String Text :=
  match roomHost uri with
  | some host => if Text.isBlank host then .error "olcRTC URI host is required" else .ok host
  | none => .error "olcRTC URI host is required"

/-- `transport` of `parse`. -/
def parseTransport (params : List (Text × Text)) : Except String Transport := do
  match ← parameter params ["transport", "t"] with
  | some text => Transport.parse pf text
  | none => return .datachannel

/-- `compatibilityMode` of `parse`. -/
def parseCore (params : List (Text × Text)) : Except String CompatibilityMode := do
  match ← parameter params ["core"] with
  | some text => CompatibilityMode.parse pf text
  | none => return .current

/-- `roomId` of `parse`: the path, or the host. -/
def parseRoomId (uri : Uri) (host : Text) : Except String Text :=
  match uri.rawPath with
  | some path =>
    if Text.isBlank path ∨ path = ['/'] then decode pf host
    else decode pf (Text.dropIfPrefixed ['/'] path)
  | none => decode pf host

/-- `name` of `parse`. -/
def parseName (uri : Uri) : Except String Text :=
  match uri.rawFragment with
  | some fragment => decode pf fragment
  | none => .ok []

def parse (raw : Text) : Except String OlcrtcProfile := do
  let uri ← newUri raw
  ensure (uri.scheme.any fun s => s.map Char.toLower = "olcrtc".toList) "Unsupported URI scheme"
  let provider ← parseProvider pf uri
  let host ← parseHost uri
  let params ← parseQuery pf "olcRTC parameter" uri.rawQuery
  ensure (params.all fun p => p.1 ∈ allowedParameters)
    (unsupported "Unsupported olcRTC parameters: " allowedParameters params)
  let transport ← parseTransport pf params
  let compatibilityMode ← parseCore pf params
  let roomId ← parseRoomId pf uri host
  let keyHex ← required params ["key", "k"]
  let clientId ← required params ["client_id", "c"]
  let name ← parseName pf uri
  let roomPassword ← parameter params ["room_password", "rp"]
  let dnsServer ← parameter params ["dns", "d"]
  let vp8Fps ← integer pf params legacyVp8Fps ["vp8_fps", "f"]
  let vp8BatchSize ← integer pf params legacyVp8Batch ["vp8_batch", "b"]
  let keepalive ← integer pf params defaultKeepaliveSeconds ["keepalive", "ka"]
  let authToken ← parameter params ["auth_token", "auth.token", "a"]
  OlcrtcProfile.make pf
    { name, provider, transport, compatibilityMode, roomId, roomPassword, clientId, keyHex
      dnsServer := dnsServer.filter fun dns => !Text.isBlank dns
      vp8Fps, vp8BatchSize, keepaliveIntervalSeconds := keepalive, authToken }

def secretParameter (key : String) (value : Option Text) : List Text :=
  match value with
  | some value => if value = [] then [] else [key.toList ++ '=' :: encodeComponent value]
  | none => []

def vp8Parameters (p : OlcrtcProfile) : List Text :=
  if p.transport = .vp8channel then
    ["f=".toList ++ decimalInt p.vp8Fps, "b=".toList ++ decimalInt p.vp8BatchSize]
  else []

def queryItems (p : OlcrtcProfile) : List Text :=
  [["k=".toList ++ encodeComponent p.keyHex, "t=".toList ++ encodeComponent p.transport.value,
      "core=".toList ++ encodeComponent p.compatibilityMode.value],
    vp8Parameters p,
    ["c=".toList ++ encodeComponent p.clientId],
    secretParameter "a" p.authToken,
    secretParameter "rp" p.roomPassword,
    (p.dnsServer.map fun dns => "d=".toList ++ encodeComponent dns).toList,
    ["ka=".toList ++ decimalInt p.keepaliveIntervalSeconds]].flatten

def fragment (p : OlcrtcProfile) : Text :=
  if p.name = [] then [] else '#' :: encodeComponent p.name

def serialize (p : OlcrtcProfile) : Text :=
  ["olcrtc://".toList, p.provider.value, "@r/".toList, encodeComponent p.roomId, ['?'],
    ['&'].intercalate (queryItems p), fragment p].flatten

/-! ## The parts of a link -/

def secretPair (key : String) (value : Option Text) : List (Text × Text) :=
  match value with
  | some value => if value = [] then [] else [(key.toList, value)]
  | none => []

def vp8Pairs (p : OlcrtcProfile) : List (Text × Text) :=
  if p.transport = .vp8channel then
    [("f".toList, decimalInt p.vp8Fps), ("b".toList, decimalInt p.vp8BatchSize)]
  else []

def parameters (p : OlcrtcProfile) : List (Text × Text) :=
  [[("k".toList, p.keyHex), ("t".toList, p.transport.value),
      ("core".toList, p.compatibilityMode.value)],
    vp8Pairs p,
    [("c".toList, p.clientId)],
    secretPair "a" p.authToken,
    secretPair "rp" p.roomPassword,
    (p.dnsServer.map fun dns => ("d".toList, dns)).toList,
    [("ka".toList, decimalInt p.keepaliveIntervalSeconds)]].flatten

lemma encodeComponent_of_safe : ∀ {s : Text}, (∀ c ∈ s, isFormSafe c = true) →
    encodeComponent s = s
  | [], _ => rfl
  | c :: s, h => by
    rw [encodeComponent_cons, encodeChar, if_pos (h c List.mem_cons_self),
      encodeComponent_of_safe fun x hx => h x (List.mem_cons_of_mem c hx), List.singleton_append]

lemma encodeComponent_decimalInt (i : ℤ) : encodeComponent (decimalInt i) = decimalInt i := by
  have hdigits : ∀ n : ℕ, ∀ c ∈ decimal n, isFormSafe c = true := by
    intro n c hc
    have hdigit := List.all_eq_true.1 (decimal_chars n) c hc
    simp [isFormSafe, Char.isAlphanum, hdigit]
  refine encodeComponent_of_safe ?_
  cases i with
  | ofNat n => exact hdigits n
  | negSucc n =>
    intro c hc
    rcases List.mem_cons.1 hc with rfl | hc
    · decide
    · exact hdigits _ c hc

lemma secretParameter_eq (key : String) (hkey : encodeComponent key.toList = key.toList)
    (value : Option Text) :
    secretParameter key value = (secretPair key value).map formatParameter := by
  cases value with
  | none => rfl
  | some value =>
    rw [secretParameter, secretPair]
    split_ifs
    · rfl
    · rw [List.map_singleton, formatParameter, hkey]

lemma vp8Parameters_eq (p : OlcrtcProfile) :
    vp8Parameters p = (vp8Pairs p).map formatParameter := by
  rw [vp8Parameters, vp8Pairs]
  split_ifs
  · rw [List.map_cons, List.map_singleton, formatParameter, formatParameter,
      encodeComponent_decimalInt, encodeComponent_decimalInt]
    rfl
  · rfl

lemma queryItems_eq (p : OlcrtcProfile) :
    queryItems p = (parameters p).map formatParameter := by
  have hfirst : ["k=".toList ++ encodeComponent p.keyHex,
      "t=".toList ++ encodeComponent p.transport.value,
      "core=".toList ++ encodeComponent p.compatibilityMode.value]
      = [("k".toList, p.keyHex), ("t".toList, p.transport.value),
          ("core".toList, p.compatibilityMode.value)].map formatParameter := rfl
  have hclient : ["c=".toList ++ encodeComponent p.clientId]
      = [("c".toList, p.clientId)].map formatParameter := rfl
  have hdns : (p.dnsServer.map fun dns => "d=".toList ++ encodeComponent dns).toList
      = (p.dnsServer.map fun dns => ("d".toList, dns)).toList.map formatParameter := by
    cases p.dnsServer <;> rfl
  have hkeepalive : ["ka=".toList ++ decimalInt p.keepaliveIntervalSeconds]
      = [("ka".toList, decimalInt p.keepaliveIntervalSeconds)].map formatParameter := by
    rw [List.map_singleton, formatParameter, encodeComponent_decimalInt]
    rfl
  rw [parameters, List.map_flatten, queryItems, vp8Parameters_eq, secretParameter_eq "a" rfl,
    secretParameter_eq "rp" rfl, hfirst, hclient, hdns, hkeepalive]
  rfl

def fragmentOf (p : OlcrtcProfile) : Option Text :=
  if p.name = [] then none else some (encodeComponent p.name)

lemma fragment_eq (p : OlcrtcProfile) : fragment p = follow '#' (fragmentOf p) := by
  rw [fragment, fragmentOf]
  split_ifs <;> rfl

/-- **A link, part by part.** -/
lemma serialize_eq (p : OlcrtcProfile) :
    serialize p = "olcrtc".toList ++ "://".toList ++ (p.provider.value ++ "@r".toList) ++
      ('/' :: encodeComponent p.roomId) ++
      follow '?' (some (['&'].intercalate ((parameters p).map formatParameter))) ++
      follow '#' (fragmentOf p) := by
  have hscheme : "olcrtc://".toList = "olcrtc".toList ++ "://".toList := rfl
  have hroom : "@r/".toList = "@r".toList ++ ['/'] := rfl
  have hquery : ∀ query : Text, follow '?' (some query) = ['?'] ++ query := fun _ => rfl
  delta serialize
  rw [queryItems_eq, fragment_eq, hscheme, hroom, hquery]
  simp only [List.flatten_cons, List.flatten_nil, List.append_assoc, List.cons_append,
    List.nil_append, List.append_nil]

def writtenNames : List Text :=
  ["k", "t", "core", "f", "b", "c", "a", "rp", "d", "ka"].map String.toList

lemma names_sublist (p : OlcrtcProfile) :
    ((parameters p).map Prod.fst).Sublist writtenNames := by
  have hvp8 : ((vp8Pairs p).map Prod.fst).Sublist ["f".toList, "b".toList] := by
    rw [vp8Pairs]
    split_ifs
    · exact List.Sublist.refl _
    · exact List.nil_sublist _
  have hsecret : ∀ key value, ((secretPair key value).map Prod.fst).Sublist [key.toList] := by
    intro key value
    cases value with
    | none => exact List.nil_sublist _
    | some value =>
      rw [secretPair]
      split_ifs
      · exact List.nil_sublist _
      · exact List.Sublist.refl _
  have hdns : ((p.dnsServer.map fun dns => ("d".toList, dns)).toList.map Prod.fst).Sublist
      ["d".toList] := by
    cases p.dnsServer with
    | none => exact List.nil_sublist _
    | some dns => exact List.Sublist.refl _
  rw [parameters, List.map_flatten]
  exact (List.Sublist.refl ["k".toList, "t".toList, "core".toList]).append (hvp8.append
    ((List.Sublist.refl ["c".toList]).append ((hsecret "a" _).append ((hsecret "rp" _).append
      (hdns.append (List.Sublist.refl _))))))

lemma names_nodup (p : OlcrtcProfile) : ((parameters p).map Prod.fst).Nodup :=
  (names_sublist p).nodup (by decide)

def dropEmpty (secret : Option Text) : Option Text := secret.filter (· ≠ [])

lemma mem_secretPair {key : String} {value : Option Text} {name v : Text} :
    (name, v) ∈ secretPair key value ↔ name = key.toList ∧ dropEmpty value = some v := by
  cases value with
  | none => simp [secretPair, dropEmpty]
  | some value =>
    by_cases hempty : value = []
    · simp [secretPair, dropEmpty, hempty]
    · have hkept : dropEmpty (some value) = some value := by
        simp [dropEmpty, Option.filter, hempty]
      simp [secretPair, hkept, hempty, eq_comm]

lemma mem_parameters {p : OlcrtcProfile} {name v : Text} : (name, v) ∈ parameters p ↔
    (name = "k".toList ∧ v = p.keyHex ∨ name = "t".toList ∧ v = p.transport.value ∨
      name = "core".toList ∧ v = p.compatibilityMode.value) ∨
    (p.transport = .vp8channel ∧ (name = "f".toList ∧ v = decimalInt p.vp8Fps ∨
      name = "b".toList ∧ v = decimalInt p.vp8BatchSize)) ∨
    name = "c".toList ∧ v = p.clientId ∨
    name = "a".toList ∧ dropEmpty p.authToken = some v ∨
    name = "rp".toList ∧ dropEmpty p.roomPassword = some v ∨
    name = "d".toList ∧ p.dnsServer = some v ∨
    name = "ka".toList ∧ v = decimalInt p.keepaliveIntervalSeconds := by
  have hvp8 : (name, v) ∈ vp8Pairs p ↔ p.transport = .vp8channel ∧
      (name = "f".toList ∧ v = decimalInt p.vp8Fps ∨
        name = "b".toList ∧ v = decimalInt p.vp8BatchSize) := by
    rw [vp8Pairs]
    split_ifs with h <;> simp [h]
  have hdns : (name, v) ∈ (p.dnsServer.map fun dns => ("d".toList, dns)).toList ↔
      name = "d".toList ∧ p.dnsServer = some v := by
    cases p.dnsServer <;> simp [eq_comm]
  rw [parameters]
  simp only [List.flatten_cons, List.flatten_nil, List.append_nil, List.mem_append, List.mem_cons,
    List.not_mem_nil, or_false, Prod.mk.injEq, mem_secretPair, hvp8, hdns]

lemma parameter_concat {params : List (Text × Text)} {older : List String} {name : String}
    (h : ∀ n ∈ older, lookupParameter params n.toList = none) :
    parameter params (older ++ [name]) = .ok (lookupParameter params name.toList) := by
  have holder : older.filterMap (fun n => lookupParameter params n.toList) = [] :=
    List.filterMap_eq_nil_iff.2 h
  rw [parameter, List.filterMap_append, holder, List.nil_append]
  cases hvalue : lookupParameter params name.toList with
  | none => simp [hvalue]
  | some value => simp [hvalue]

lemma parameter_parameters (p : OlcrtcProfile) (older : List String) {name : String}
    {value : Option Text} (holder : ∀ n ∈ older, n.toList ∉ writtenNames)
    (hvalue : ∀ v, (name.toList, v) ∈ parameters p ↔ value = some v) :
    parameter (parameters p) (older ++ [name]) = .ok value := by
  rw [parameter_concat, lookupParameter_eq (names_nodup p) hvalue]
  intro n hn
  exact lookupParameter_eq_none fun hmem => holder n hn ((names_sublist p).mem hmem)

/-! ## What a link is read as -/

def dropEmptySecrets (p : OlcrtcProfile) : OlcrtcProfile :=
  { p with roomPassword := dropEmpty p.roomPassword, authToken := dropEmpty p.authToken }

def readBack (p : OlcrtcProfile) : OlcrtcProfile :=
  { dropEmptySecrets p with
    vp8Fps := if p.transport = .vp8channel then p.vp8Fps else legacyVp8Fps
    vp8BatchSize := if p.transport = .vp8channel then p.vp8BatchSize else legacyVp8Batch }

def linkUri (p : OlcrtcProfile) : Uri :=
  { scheme := some "olcrtc".toList
    authority := some
      ⟨p.provider.value ++ "@r".toList, some p.provider.value, some "r".toList, none⟩
    rawPath := some ('/' :: encodeComponent p.roomId)
    rawQuery := some (['&'].intercalate ((parameters p).map formatParameter))
    rawFragment := fragmentOf p }

lemma newUri_serialize (p : OlcrtcProfile) : newUri (serialize p) = .ok (linkUri p) := by
  have hauthority : parseAuthority (p.provider.value ++ "@r".toList)
      = some ⟨p.provider.value ++ "@r".toList, some p.provider.value, some "r".toList, none⟩ := by
    cases p.provider <;> decide
  have hchars : ∀ c ∈ p.provider.value ++ "@r".toList, c ≠ '/' ∧ c ≠ '?' ∧ c ≠ '#' :=
    Text.forall_mem_of_all (by cases p.provider <;> rfl)
  have hpath : ∀ c, c ≠ '%' → c ≠ '/' → isFormSafe c = false →
      c ∉ '/' :: encodeComponent p.roomId := by
    intro c hpercent hslash hsafe hmem
    rcases List.mem_cons.1 hmem with hmem | hmem
    · exact hslash hmem
    · exact not_mem_encodeComponent hpercent hsafe p.roomId hmem
  have hfragment : ∀ f ∈ fragmentOf p, allowed isUric f = true := by
    intro f hf
    rw [fragmentOf] at hf
    split_ifs at hf
    · cases hf
    · cases hf
      exact allowed_encodeComponent isUric_of_isFormSafe p.name
  have hparsed : parseUri (serialize p) = some (linkUri p) := by
    rw [serialize_eq]
    exact parseUri_hierarchical rfl (by simp) hchars hauthority (Or.inr ⟨_, rfl⟩)
      ⟨hpath '?' (by decide) (by decide) (by decide),
        hpath '#' (by decide) (by decide) (by decide)⟩
      (allowed_append (a := ['/']) rfl
        (allowed_encodeComponent isPathChar_of_isFormSafe p.roomId))
      (by rintro q ⟨⟩; exact join_allowed (parameters p)) hfragment
  rw [newUri, hparsed]

lemma parseProvider_linkUri (p : OlcrtcProfile) :
    parseProvider pf (linkUri p) = .ok p.provider := by
  have hsafe : encodeComponent p.provider.value = p.provider.value := by
    cases p.provider <;> rfl
  have htext : providerText pf (linkUri p) = .ok (some p.provider.value) := by
    have hdecoded := urlDecodeFrom_encodeComponent pf.toCharTables '+' p.provider.value []
    rw [hsafe] at hdecoded
    exact congrArg Except.ok hdecoded
  rw [parseProvider, htext, ok_bind]
  exact Provider.parse_value pf p.provider

lemma parseRoomId_linkUri {p : OlcrtcProfile} (h : Text.isBlank p.roomId = false) (host : Text) :
    parseRoomId pf (linkUri p) host = .ok p.roomId := by
  have hne : p.roomId ≠ [] := by
    intro hnil
    rw [hnil] at h
    cases h
  have hpath : ¬ (Text.isBlank ('/' :: encodeComponent p.roomId) = true ∨
      '/' :: encodeComponent p.roomId = ['/']) := by
    rintro (hblank | heq)
    · cases hblank
    · exact encodeComponent_ne_nil hne (List.cons.inj heq).2
  show (if _ then _ else _) = _
  rw [if_neg hpath]
  exact decode_encodeComponent pf p.roomId

lemma parseName_linkUri (p : OlcrtcProfile) : parseName pf (linkUri p) = .ok p.name := by
  rw [parseName, linkUri, fragmentOf]
  split_ifs with hempty
  · rw [hempty]
  · exact decode_encodeComponent pf p.name

lemma required_eq_ok {params : List (Text × Text)} {names : List String} {value : Text}
    (h : parameter params names = .ok (some value)) (hblank : Text.isBlank value = false) :
    required params names = .ok value := by
  rw [required, h, ok_bind]
  simp [hblank, pure, Except.pure]

lemma integer_eq_ok {params : List (Text × Text)} {names : List String} {missing n : ℤ}
    (h : parameter params names = .ok (some (decimalInt n))) (hlo : -2 ^ 31 ≤ n)
    (hhi : n < 2 ^ 31) : integer pf params missing names = .ok n := by
  rw [integer, h, ok_bind]
  simp [Text.toIntOrNull_decimalInt pf.toCharTables hlo hhi, pure, Except.pure]

lemma integer_missing {params : List (Text × Text)} {names : List String} {missing : ℤ}
    (h : parameter params names = .ok none) : integer pf params missing names = .ok missing := by
  rw [integer, h, ok_bind]
  rfl

lemma allowed_parameters (p : OlcrtcProfile) :
    ((parameters p).all fun q => q.1 ∈ allowedParameters) = true := by
  rw [List.all_eq_true]
  intro q hq
  have hwritten := (names_sublist p).mem (List.mem_map_of_mem hq)
  have hsubset : ∀ name ∈ writtenNames, name ∈ allowedParameters := by decide
  exact decide_eq_true (hsubset q.1 hwritten)

/-- What `parse` finds in a link. -/
structure Found (p : OlcrtcProfile) : Prop where
  key : parameter (parameters p) ["key", "k"] = .ok (some p.keyHex)
  transport : parameter (parameters p) ["transport", "t"] = .ok (some p.transport.value)
  core : parameter (parameters p) ["core"] = .ok (some p.compatibilityMode.value)
  fps : parameter (parameters p) ["vp8_fps", "f"]
    = .ok (if p.transport = .vp8channel then some (decimalInt p.vp8Fps) else none)
  batch : parameter (parameters p) ["vp8_batch", "b"]
    = .ok (if p.transport = .vp8channel then some (decimalInt p.vp8BatchSize) else none)
  clientId : parameter (parameters p) ["client_id", "c"] = .ok (some p.clientId)
  authToken : parameter (parameters p) ["auth_token", "auth.token", "a"]
    = .ok (dropEmpty p.authToken)
  roomPassword : parameter (parameters p) ["room_password", "rp"] = .ok (dropEmpty p.roomPassword)
  dns : parameter (parameters p) ["dns", "d"] = .ok p.dnsServer
  keepalive : parameter (parameters p) ["keepalive", "ka"]
    = .ok (some (decimalInt p.keepaliveIntervalSeconds))

lemma found (p : OlcrtcProfile) : Found p where
  key := parameter_parameters p ["key"] (by decide) fun v => by
    simp +decide [mem_parameters, eq_comm]
  transport := parameter_parameters p ["transport"] (by decide) fun v => by
    simp +decide [mem_parameters, eq_comm]
  core := parameter_parameters p [] (by decide) fun v => by
    simp +decide [mem_parameters, eq_comm]
  fps := parameter_parameters p ["vp8_fps"] (by decide) fun v => by
    simp +decide [mem_parameters, eq_comm]
  batch := parameter_parameters p ["vp8_batch"] (by decide) fun v => by
    simp +decide [mem_parameters, eq_comm]
  clientId := parameter_parameters p ["client_id"] (by decide) fun v => by
    simp +decide [mem_parameters, eq_comm]
  authToken := parameter_parameters p ["auth_token", "auth.token"] (by decide) fun v => by
    simp +decide [mem_parameters]
  roomPassword := parameter_parameters p ["room_password"] (by decide) fun v => by
    simp +decide [mem_parameters]
  dns := parameter_parameters p ["dns"] (by decide) fun v => by
    simp +decide [mem_parameters]
  keepalive := parameter_parameters p ["keepalive"] (by decide) fun v => by
    simp +decide [mem_parameters, eq_comm]

lemma valid_readBack {p : OlcrtcProfile} (h : p.Valid pf) : (readBack p).Valid pf := by
  rw [OlcrtcProfile.valid_iff] at h ⊢
  obtain ⟨hfields, hfps, hbatch, hrest⟩ := h
  by_cases hvp8 : p.transport = .vp8channel
  · simp only [readBack, if_pos hvp8]
    exact ⟨hfields, hfps, hbatch, hrest⟩
  · simp only [readBack, if_neg hvp8]
    exact ⟨hfields, by decide, by decide, hrest⟩

lemma integer_vp8 {p : OlcrtcProfile} {names : List String} {missing n : ℤ}
    (h : parameter (parameters p) names
      = .ok (if p.transport = .vp8channel then some (decimalInt n) else none))
    (hlo : 1 ≤ n) (hhi : n ≤ 120) :
    integer pf (parameters p) missing names
      = .ok (if p.transport = .vp8channel then n else missing) := by
  split_ifs at h ⊢
  · exact integer_eq_ok pf h (by omega) (by omega)
  · exact integer_missing pf h

lemma not_isBlank_of_isHexChar {s : Text} (hlength : 0 < s.length) (h : s.all isHexChar = true) :
    Text.isBlank s = false := by
  obtain ⟨c, s, rfl⟩ := List.exists_cons_of_length_pos hlength
  have hhex : isHexChar c = true := List.all_eq_true.1 h c List.mem_cons_self
  have hspace : Text.isWhitespace c = false := by
    simp only [Text.isWhitespace, Bool.or_eq_false_iff, Bool.and_eq_false_iff,
      decide_eq_false_iff_not, beq_eq_false_iff_ne]
    rw [isHexChar, hexVal] at hhex
    split_ifs at hhex
    · omega
    · omega
    · omega
    · cases hhex
  rw [Text.isBlank, List.all_cons, hspace, Bool.false_and]

/-- **What a link is read as.**  A valid profile is read back without its empty secrets, and with
    the VP8 parameters of older links if they were not written. -/
theorem parse_serialize {p : OlcrtcProfile} (h : p.Valid pf) :
    parse pf (serialize p) = .ok (readBack p) := by
  obtain ⟨⟨hroom, hclient, hlength, hhex⟩, hfps, hbatch, hkeepalive, -, hdns⟩ :=
    (OlcrtcProfile.valid_iff pf).1 h
  have hfound := found p
  have hquery : parseQuery pf "olcRTC parameter" (linkUri p).rawQuery = .ok (parameters p) :=
    parseQuery_join pf _ (List.cons_ne_nil _ _)
      (fun q hq => (by decide : ∀ name ∈ writtenNames, name ≠ []) q.1
        ((names_sublist p).mem (List.mem_map_of_mem hq))) (names_nodup p)
  have hcore : parseCore pf (parameters p) = .ok p.compatibilityMode := by
    rw [parseCore, hfound.core, ok_bind]
    exact CompatibilityMode.parse_value pf _
  have htransport : parseTransport pf (parameters p) = .ok p.transport := by
    rw [parseTransport, hfound.transport, ok_bind]
    exact Transport.parse_value pf _
  have hkey := not_isBlank_of_isHexChar (by rw [hlength]; decide) hhex
  have hdnsKept : (p.dnsServer.filter fun dns => !Text.isBlank dns) = p.dnsServer := by
    cases hserver : p.dnsServer with
    | none => rfl
    | some dns =>
      obtain ⟨e, he⟩ := hdns dns hserver
      rw [Option.filter_some, DnsEndpoint.not_isBlank_of_parse pf he]
      rfl
  rw [parse, newUri_serialize, ok_bind, show ensure _ _ = .ok PUnit.unit from rfl, ok_bind,
    parseProvider_linkUri, ok_bind, show parseHost (linkUri p) = .ok "r".toList from rfl, ok_bind,
    hquery, ok_bind, allowed_parameters, show ensure true _ = .ok PUnit.unit from rfl, ok_bind,
    htransport, ok_bind, hcore, ok_bind, parseRoomId_linkUri pf hroom, ok_bind,
    required_eq_ok hfound.key hkey, ok_bind, required_eq_ok hfound.clientId hclient, ok_bind,
    parseName_linkUri, ok_bind, hfound.roomPassword, ok_bind, hfound.dns, ok_bind,
    integer_vp8 pf hfound.fps hfps.1 hfps.2, ok_bind,
    integer_vp8 pf hfound.batch hbatch.1 (by omega), ok_bind,
    integer_eq_ok pf hfound.keepalive (by omega) (by omega), ok_bind, hfound.authToken, ok_bind,
    hdnsKept]
  exact (OlcrtcProfile.make_eq_ok pf).2 ⟨valid_readBack pf h, rfl⟩

/-! ## Identities -/

/-- A profile is read back from its link, up to empty secrets, and its identity is that of the
    profile. -/
def RoundTrips (p : OlcrtcProfile) : Prop :=
  parse pf (serialize p) = .ok (dropEmptySecrets p) ∧
    ProfileIdentity.hash pf (dropEmptySecrets p) = ProfileIdentity.hash pf p

lemma readBack_eq_iff (p : OlcrtcProfile) : readBack p = dropEmptySecrets p ↔
    (p.transport = .datachannel → p.vp8Fps = legacyVp8Fps ∧ p.vp8BatchSize = legacyVp8Batch) := by
  cases htransport : p.transport with
  | vp8channel => simp [readBack, htransport, dropEmptySecrets]
  | datachannel => simp [readBack, htransport, dropEmptySecrets, eq_comm]

def digestInput (p : OlcrtcProfile) : Bytes :=
  (ProfileIdentity.olcrtcValues pf p).flatMap ProfileIdentity.digestValue

lemma digestInput_eq_iff (p : OlcrtcProfile) :
    digestInput pf (dropEmptySecrets p) = digestInput pf p ↔ p.roomPassword ≠ some [] := by
  obtain ⟨before, after, hp, hdropped⟩ : ∃ before after,
      ProfileIdentity.olcrtcValues pf p = before ++ p.roomPassword :: after ∧
      ProfileIdentity.olcrtcValues pf (dropEmptySecrets p)
        = before ++ dropEmpty p.roomPassword :: after :=
    ⟨[some "OLCRTC".toList, some p.provider.value, some p.transport.value, some p.roomId], _,
      rfl, rfl⟩
  rw [digestInput, digestInput, hp, hdropped, List.flatMap_append, List.flatMap_append,
    List.flatMap_cons, List.flatMap_cons, List.append_cancel_left_eq, List.append_cancel_right_eq]
  cases p.roomPassword with
  | none => exact ⟨fun _ => Option.some_ne_none [] ∘ Eq.symm, fun _ => rfl⟩
  | some password =>
    by_cases hempty : password = []
    · rw [hempty]
      exact ⟨fun h => absurd h (by decide), fun h => absurd rfl h⟩
    · have hkept : dropEmpty (some password) = some password := by
        simp [dropEmpty, Option.filter, hempty]
      rw [hkept]
      exact ⟨fun _ h => hempty (Option.some.inj h), fun _ => rfl⟩

/-- **When sharing a profile keeps it and its identity.** -/
theorem round_trips_iff {p : OlcrtcProfile} (hvalid : p.Valid pf)
    (hcollision : pf.sha256 (digestInput pf (dropEmptySecrets p)) = pf.sha256 (digestInput pf p) →
      digestInput pf (dropEmptySecrets p) = digestInput pf p) :
    RoundTrips pf p ↔
      (p.transport = .datachannel → p.vp8Fps = 60 ∧ p.vp8BatchSize = 8) ∧
        p.roomPassword ≠ some [] := by
  have hhash : ProfileIdentity.hash pf (dropEmptySecrets p) = ProfileIdentity.hash pf p ↔
      p.roomPassword ≠ some [] := by
    rw [← digestInput_eq_iff pf p]
    constructor
    · intro heq
      exact hcollision (encodeHex_injective heq)
    · intro heq
      exact congrArg (fun input => encodeHex (pf.sha256 input)) heq
  rw [RoundTrips, parse_serialize pf hvalid, Except.ok.injEq, readBack_eq_iff, hhash]
  rfl

theorem round_trips_iff_vp8 : RoundTrips plainPlatform (exampleProfile .wbstream .vp8channel) :=
  (round_trips_iff plainPlatform (by decide +kernel) (fun _ => by decide +kernel)).2 (by decide)

/-- A profile with the client's defaults and a data channel is read as another profile, with another
    identity. -/
theorem defaults_lost :
    (exampleProfile .jitsi .datachannel).Valid plainPlatform ∧
      ∃ q, parse plainPlatform (serialize (exampleProfile .jitsi .datachannel)) = .ok q ∧
        q.vp8Fps = 60 ∧ q ≠ dropEmptySecrets (exampleProfile .jitsi .datachannel) ∧
        ProfileIdentity.hash plainPlatform q
          ≠ ProfileIdentity.hash plainPlatform (exampleProfile .jitsi .datachannel) := by
  have hvalid : (exampleProfile .jitsi .datachannel).Valid plainPlatform := by decide +kernel
  refine ⟨hvalid, _, parse_serialize plainPlatform hvalid, rfl, by decide +kernel, ?_⟩
  decide +kernel

end OlcRtc.Client.OlcrtcUri
