import OlcRtc.Lib.GoUrl
import OlcRtc.Lib.Lists

/-!
# Normalised ICE servers

`internal/engine/iceservers.go` rewrites the URLs of the servers a deployment advertises into the
form `scheme:host:port?transport=proto`, because a peer connection fails as a whole if one URL of
its configuration cannot be parsed.  URLs that cannot be saved are dropped, and so are servers
without URLs.

A normalised list ought to be one that `normaliseICEServers` leaves alone (`Normalised`): every URL
has an opaque part that splits into a host and a port, no query but a transport on `turn` and
`turns`, and relays stand on servers with credentials only.

**What holds.**  Servers and URLs keep their order (`keepsOrder_normaliseICEServers`).  The rest
holds exactly if no kept URL is made from an unusable host (`normalised_iff`):
`joinICEHostPort` takes the host of a URL without a port by cutting a bracket off either end, so a
bracket may be left inside it, and brackets around a host that begins with a slash are lost.  The
URL that comes out cannot be split, or has no opaque part, and the peer connection fails.
-/

namespace OlcRtc.IceServers

open NetIP (colon)
open GoUrl

/-! ## The source -/

def schemeSTUN : Bytes := ascii "stun"
def schemeSTUNS : Bytes := ascii "stuns"
def schemeTURN : Bytes := ascii "turn"
def schemeTURNS : Bytes := ascii "turns"
def transportUDP : Bytes := ascii "udp"
def transportTCP : Bytes := ascii "tcp"
def defaultPortSTUN : Bytes := ascii "3478"
def defaultPortTLS : Bytes := ascii "5349"

/-- `webrtc.ICEServer`.  A credential is a string or a value of another type `C`. -/
structure ICEServer (C : Type) where
  urls : List Bytes
  username : Bytes
  credential : Option (Bytes ⊕ C)
  credentialType : ℤ
  deriving DecidableEq

variable {C : Type}

def hasPionTURNCredentials (srv : ICEServer C) : Bool :=
  if srv.username = [] then false
  else
    match srv.credential with
    | some (.inl password) => password ≠ []
    | _ => false

def isTURNURL (u : Bytes) : Bool :=
  (schemeTURN ++ [colon]).isPrefixOf u || (schemeTURNS ++ [colon]).isPrefixOf u

def iceDefaultPort (scheme : Bytes) : Option Bytes :=
  if scheme = schemeSTUN ∨ scheme = schemeTURN then some defaultPortSTUN
  else if scheme = schemeSTUNS ∨ scheme = schemeTURNS then some defaultPortTLS
  else none

/-- `strings.TrimSuffix(strings.TrimPrefix(s, "["), "]")`. -/
def trimBrackets (s : Bytes) : Bytes :=
  let s := if s.head? = some openBracket then s.drop 1 else s
  if s.getLast? = some closeBracket then s.dropLast else s

/-- The host and the port that `joinICEHostPort` joins. -/
def iceHostPort (hostport defaultPort : Bytes) : Option (Bytes × Bytes) := do
  let (host, port) ← match splitHostPort hostport with
    | .ok (host, port) => some (host, port)
    | .error .missingPort => some (trimBrackets hostport, [])
    | .error _ => none
  if host = [] then none
  else
    let port := if port = [] then defaultPort else port
    match atoi port with
    | none => none
    | some n => if n < 1 ∨ 65535 < n then none else some (host, port)

def joinICEHostPort (hostport defaultPort : Bytes) : Option Bytes :=
  (iceHostPort hostport defaultPort).map fun (host, port) => joinHostPort host port

/-- `iceTransport`.  Of the letters of the two transports none is the lower case of a character
outside ASCII. -/
def iceTransport (scheme rawQuery : Bytes) : Option Bytes :=
  if scheme ≠ schemeTURN ∧ scheme ≠ schemeTURNS then none
  else
    match parseQuery rawQuery with
    | none => none
    | some values =>
      let transport := toLower (get values (ascii "transport"))
      if transport = transportUDP ∨ transport = transportTCP then some transport else none

def transportQuery : Option Bytes → Bytes
  | some transport => ascii "?transport=" ++ transport
  | none => []

def normaliseICEServerURL (raw : Bytes) : Option Bytes := do
  let parts ← parse (trimSpace raw)
  let scheme := toLower parts.scheme
  let defaultPort ← iceDefaultPort scheme
  let hostport ← joinICEHostPort parts.opaquePart defaultPort
  return scheme ++ colon :: (hostport ++ transportQuery (iceTransport scheme parts.rawQuery))

def keptURL (srv : ICEServer C) (raw : Bytes) : Option Bytes :=
  match normaliseICEServerURL raw with
  | none => none
  | some u => if !hasPionTURNCredentials srv && isTURNURL u then none else some u

def keptServer (srv : ICEServer C) : Option (ICEServer C) :=
  let urls := srv.urls.filterMap (keptURL srv)
  if urls = [] then none else some { srv with urls := urls }

def normaliseICEServers (input : List (ICEServer C)) : List (ICEServer C) :=
  input.filterMap keptServer

/-! ## What a normalised list is -/

structure UsableURL (srv : ICEServer C) (u : Bytes) : Prop where
  parts : ∃ url, parse u = some url ∧
    u = url.scheme ++ colon :: (url.opaquePart ++ queryText url.rawQuery) ∧
    (∃ host port n, splitHostPort url.opaquePart = .ok (host, port) ∧ host ≠ [] ∧
      atoi port = some n ∧ 1 ≤ n ∧ n ≤ 65535) ∧
    (url.rawQuery = [] ∨ ((url.scheme = schemeTURN ∨ url.scheme = schemeTURNS) ∧
      (url.rawQuery = ascii "transport=udp" ∨ url.rawQuery = ascii "transport=tcp"))) ∧
    (url.scheme = schemeTURN ∨ url.scheme = schemeTURNS → hasPionTURNCredentials srv)

/-- The servers of a list stand in the order of another one, with URLs in the order of theirs:
some of the servers and some of their URLs, each normalised on its own. -/
def KeepsOrder (input output : List (ICEServer C)) : Prop :=
  ∃ servers, servers.Sublist input ∧ List.Forall₂ (fun srv out =>
    out = { srv with urls := out.urls } ∧ ∃ raws, raws.Sublist srv.urls ∧
      List.Forall₂ (fun raw u => normaliseICEServerURL raw = some u) raws out.urls) servers output

/-- The list that is made from the servers of a deployment is normalised. -/
structure Normalised (input : List (ICEServer C)) : Prop where
  fixed : normaliseICEServers (normaliseICEServers input) = normaliseICEServers input
  order : KeepsOrder input (normaliseICEServers input)
  urls : ∀ srv ∈ normaliseICEServers input, ∀ u ∈ srv.urls, UsableURL srv u

/-- A host that stands in a URL as it is. -/
def UsableHost (host : Bytes) : Prop :=
  openBracket ∉ host ∧ closeBracket ∉ host ∧ (colon ∈ host ∨ host.head? ≠ some slash)

instance (host : Bytes) : Decidable (UsableHost host) := inferInstanceAs (Decidable (_ ∧ _))

def urlHostPort (raw : Bytes) : Option (Bytes × Bytes) := do
  let parts ← parse (trimSpace raw)
  let defaultPort ← iceDefaultPort (toLower parts.scheme)
  iceHostPort parts.opaquePart defaultPort

/-! ## One URL -/

lemma iceDefaultPort_eq_some {scheme defaultPort : Bytes}
    (h : iceDefaultPort scheme = some defaultPort) :
    (scheme = schemeSTUN ∨ scheme = schemeTURN ∨ scheme = schemeSTUNS ∨ scheme = schemeTURNS) ∧
      (defaultPort = defaultPortSTUN ∨ defaultPort = defaultPortTLS) := by
  rw [iceDefaultPort] at h
  split_ifs at h with h1 h2
  · exact ⟨h1.elim .inl fun h => .inr (.inl h), .inl (Option.some.inj h).symm⟩
  · exact ⟨.inr (.inr h2), .inr (Option.some.inj h).symm⟩

structure IceScheme (scheme : Bytes) : Prop where
  letters : ∀ c ∈ scheme, isLetter c
  ne_nil : scheme ≠ []
  lower : toLower scheme = scheme

lemma iceScheme_of_iceDefaultPort {scheme defaultPort : Bytes}
    (h : iceDefaultPort scheme = some defaultPort) : IceScheme scheme := by
  rcases (iceDefaultPort_eq_some h).1 with rfl | rfl | rfl | rfl <;>
    exact ⟨by decide +kernel, by decide, by decide⟩

/-- A query that is written: none, or a transport of a relay. -/
def IceQuery (scheme query : Bytes) : Prop :=
  query = [] ∨ ((scheme = schemeTURN ∨ scheme = schemeTURNS) ∧
    (query = ascii "transport=udp" ∨ query = ascii "transport=tcp"))

lemma IceQuery.visible {scheme query : Bytes} (h : IceQuery scheme query) :
    ∀ c ∈ query, Visible c ∧ c ≠ hash ∧ c ≠ question := by
  rcases h with rfl | ⟨-, rfl | rfl⟩ <;> decide +kernel

lemma transportQuery_iceTransport (scheme rawQuery : Bytes) :
    ∃ query, IceQuery scheme query ∧
      transportQuery (iceTransport scheme rawQuery) = queryText query := by
  rw [iceTransport]
  split_ifs with hscheme
  · exact ⟨[], .inl rfl, rfl⟩
  rw [not_and_or, not_not, not_not] at hscheme
  cases parseQuery rawQuery with
  | none => exact ⟨[], .inl rfl, rfl⟩
  | some values =>
    dsimp only
    generalize toLower (get values (ascii "transport")) = transport
    split_ifs with htransport
    · rcases htransport with rfl | rfl
      · exact ⟨_, .inr ⟨hscheme, .inl rfl⟩, rfl⟩
      · exact ⟨_, .inr ⟨hscheme, .inr rfl⟩, rfl⟩
    · exact ⟨[], .inl rfl, rfl⟩

lemma IceQuery.transportQuery_eq {scheme query : Bytes} (h : IceQuery scheme query) :
    transportQuery (iceTransport scheme query) = queryText query := by
  rcases h with rfl | ⟨rfl | rfl, rfl | rfl⟩
  · have hnone : iceTransport scheme [] = none := by
      rw [iceTransport]
      split_ifs
      · rfl
      · decide +kernel
    rw [hnone]
    rfl
  all_goals decide +kernel

structure IceAddress (host port : Bytes) : Prop where
  text : OpaqueText host
  ne_nil : host ≠ []
  number : ∃ n, atoi port = some n ∧ 1 ≤ n ∧ n ≤ 65535

lemma trimBrackets_subset (s : Bytes) : trimBrackets s ⊆ s := by
  have hopen : (if s.head? = some openBracket then s.drop 1 else s) ⊆ s := by
    grind
  unfold trimBrackets
  generalize (if s.head? = some openBracket then s.drop 1 else s) = t at hopen ⊢
  dsimp only
  split_ifs
  · exact List.Subset.trans (List.dropLast_subset t) hopen
  · exact hopen

lemma length_trimBrackets (s : Bytes) : s.length ≤ (trimBrackets s).length + 2 := by
  have hopen : s.length ≤ (if s.head? = some openBracket then s.drop 1 else s).length + 1 := by
    grind
  unfold trimBrackets
  generalize (if s.head? = some openBracket then s.drop 1 else s) = t at hopen ⊢
  dsimp only
  split_ifs
  · rw [List.length_dropLast]
    omega
  · omega

/-- Where host and port come from: both are split off, with the default for an empty port, or the
port is missing altogether. -/
lemma iceHostPort_eq_some {hostport defaultPort host port : Bytes}
    (h : iceHostPort hostport defaultPort = some (host, port)) :
    host ≠ [] ∧ (∃ n, atoi port = some n ∧ 1 ≤ n ∧ n ≤ 65535) ∧
      ((∃ port', splitHostPort hostport = .ok (host, port')) ∨
        (host = trimBrackets hostport ∧ port = defaultPort)) := by
  have hrest : ∀ {host' port' : Bytes},
      (if host' = [] then none else
        match atoi (if port' = [] then defaultPort else port') with
        | none => none
        | some n => if n < 1 ∨ 65535 < n then none
            else some (host', if port' = [] then defaultPort else port')) = some (host, port) →
      host' = host ∧ (if port' = [] then defaultPort else port') = port ∧ host ≠ [] ∧
        ∃ n, atoi port = some n ∧ 1 ≤ n ∧ n ≤ 65535 := by
    intro host' port' h
    generalize (if port' = [] then defaultPort else port') = p at h ⊢
    by_cases hne : host' = []
    · rw [if_pos hne] at h
      cases h
    rw [if_neg hne] at h
    cases hn : atoi p with
    | none =>
      rw [hn] at h
      cases h
    | some n =>
      grind
  rw [iceHostPort] at h
  cases hsplit : splitHostPort hostport with
  | ok r =>
    grind
  | error e =>
    rw [hsplit] at h
    cases e with
    | missingPort =>
      grind
    | tooManyColons | missingClose | unexpectedOpen | unexpectedClose => cases h

lemma iceAddress_of_iceHostPort {hostport defaultPort host port : Bytes}
    (htext : OpaqueText hostport) (h : iceHostPort hostport defaultPort = some (host, port)) :
    IceAddress host port := by
  obtain ⟨hne, hnumber, hsource⟩ := iceHostPort_eq_some h
  refine ⟨htext.mono ?_, hne, hnumber⟩
  rcases hsource with ⟨port', hsplit⟩ | ⟨rfl, -⟩
  · exact (host_of_splitHostPort hsplit).1
  · exact trimBrackets_subset hostport

section Address

variable {host port : Bytes}

lemma IceAddress.numeric (h : IceAddress host port) : Numeric port := by
  obtain ⟨n, hn, -⟩ := h.number
  exact numeric_of_atoi hn

lemma IceAddress.notMem_port (h : IceAddress host port) :
    colon ∉ port ∧ openBracket ∉ port ∧ closeBracket ∉ port :=
  ⟨h.numeric.notMem (by decide), h.numeric.notMem (by decide), h.numeric.notMem (by decide)⟩

lemma opaqueText_of_numeric {s : Bytes} (h : Numeric s) : OpaqueText s := by
  refine ⟨h.notMem (by decide), h.notMem (by decide), fun c hc => ?_⟩
  rcases h.sign c hc with hdigit | rfl | rfl
  · exact (visible_of_isDigit hdigit).not_control
  · decide
  · decide

lemma IceAddress.joined (h : IceAddress host port) : OpaqueText (joinHostPort host port) := by
  have hport := opaqueText_of_numeric h.numeric
  have hpunct : ∀ s : Bytes, s ⊆ [openBracket, closeBracket, colon] → OpaqueText s := fun s hs =>
    OpaqueText.mono ⟨by decide, by decide, by decide +kernel⟩ hs
  rw [joinHostPort]
  split_ifs
  · have htext := (hpunct [openBracket] (by simp)).append
      (h.text.append ((hpunct [closeBracket, colon] (by simp)).append hport))
    simpa using htext
  · have htext := h.text.append ((hpunct [colon] (by simp)).append hport)
    simpa using htext

lemma joinHostPort_ne_nil (host port : Bytes) : joinHostPort host port ≠ [] := by
  intro h
  have hlen := length_joinHostPort host port
  rw [h, List.length_nil] at hlen
  omega

lemma IceAddress.head_joined (h : IceAddress host port) :
    (joinHostPort host port).head? = some slash ↔ colon ∉ host ∧ host.head? = some slash := by
  rw [joinHostPort]
  split_ifs with hv6
  · exact iff_of_false (by simp [openBracket, slash]) fun hslash => hslash.1 hv6
  · rw [List.head?_append_of_ne_nil _ h.ne_nil]
    exact ⟨fun hslash => ⟨hv6, hslash⟩, fun hslash => hslash.2⟩

/-- **The host that is joined is found again exactly if it has no brackets.** -/
lemma IceAddress.joinICEHostPort_joined (h : IceAddress host port) {defaultPort : Bytes}
    (hdefault : defaultPort = defaultPortSTUN ∨ defaultPort = defaultPortTLS) :
    joinICEHostPort (joinHostPort host port) defaultPort = some (joinHostPort host port) ↔
      openBracket ∉ host ∧ closeBracket ∉ host := by
  obtain ⟨hcolon, hopen', hclose'⟩ := h.notMem_port
  constructor
  · intro hjoin
    rw [joinICEHostPort, Option.map_eq_some_iff] at hjoin
    obtain ⟨⟨host', port'⟩, hagain, hjoin⟩ := hjoin
    replace hjoin : joinHostPort host' port' = joinHostPort host port := hjoin
    obtain ⟨-, ⟨n, hn, -⟩, hsource⟩ := iceHostPort_eq_some hagain
    have hcolon' : colon ∉ port' := (numeric_of_atoi hn).notMem (by decide)
    rcases hsource with ⟨port'', hsplit⟩ | ⟨hhost, hport⟩
    · obtain ⟨-, hopen, hclose⟩ := host_of_splitHostPort hsplit
      have heq : host' = host := joinHostPort_inj hopen hcolon' hcolon hjoin
      exact heq ▸ ⟨hopen, hclose⟩
    · -- without a port the text would grow
      have hlen := length_joinHostPort host' port'
      have htrim := length_trimBrackets (joinHostPort host port)
      have hfour : port'.length = 4 := by rcases hdefault with rfl | rfl <;> exact hport ▸ rfl
      rw [hjoin, hhost] at hlen
      omega
  · rintro ⟨hopen, hclose⟩
    obtain ⟨n, hn, hlow, hhigh⟩ := h.number
    have hne : port ≠ [] := by
      rintro rfl
      cases hn
    have hagain : iceHostPort (joinHostPort host port) defaultPort = some (host, port) := by
      rw [iceHostPort, splitHostPort_joinHostPort hopen hclose hcolon hopen' hclose']
      show (if host = [] then none else _) = _
      rw [if_neg h.ne_nil]
      simp only [if_neg hne, hn]
      rw [if_neg (by omega)]
    rw [joinICEHostPort, hagain]
    rfl

end Address

/-- What a normalised URL is made of. -/
structure MadeFrom (raw u scheme host port query : Bytes) : Prop where
  known : ∃ defaultPort, iceDefaultPort scheme = some defaultPort
  found : urlHostPort raw = some (host, port)
  address : IceAddress host port
  transport : IceQuery scheme query
  text : u = scheme ++ colon :: (joinHostPort host port ++ queryText query)

lemma normaliseICEServerURL_eq_some {raw u : Bytes} (h : normaliseICEServerURL raw = some u) :
    ∃ scheme host port query, MadeFrom raw u scheme host port query := by
  rw [normaliseICEServerURL] at h
  obtain ⟨parts, hparts, h⟩ := Option.bind_eq_some_iff.1 h
  obtain ⟨defaultPort, hdefault, h⟩ := Option.bind_eq_some_iff.1 h
  obtain ⟨hostport, hhostport, h⟩ := Option.bind_eq_some_iff.1 h
  obtain ⟨⟨host, port⟩, haddress, rfl⟩ := Option.map_eq_some_iff.1 hhostport
  obtain ⟨query, hquery, htext⟩ :=
    transportQuery_iceTransport (toLower parts.scheme) parts.rawQuery
  refine ⟨toLower parts.scheme, host, port, query, ⟨defaultPort, hdefault⟩, ?_,
    iceAddress_of_iceHostPort (opaqueText_of_parse hparts) haddress, hquery, ?_⟩
  · rw [urlHostPort, hparts]
    show (iceDefaultPort (toLower parts.scheme)).bind _ = _
    rw [hdefault]
    exact haddress
  · rw [← htext]
    exact (Option.some.inj h).symm

section Made

variable {raw u scheme host port query : Bytes}

lemma MadeFrom.trimSpace_eq (h : MadeFrom raw u scheme host port query) : trimSpace u = u := by
  obtain ⟨defaultPort, hdefault⟩ := h.known
  have hscheme := iceScheme_of_iceDefaultPort hdefault
  rw [h.text]
  refine trimSpace_of_visible ?_ ?_
  · rw [List.head?_append_of_ne_nil _ hscheme.ne_nil]
    refine ⟨scheme.head hscheme.ne_nil, List.head?_eq_some_head hscheme.ne_nil, ?_⟩
    exact (visible_of_isLetter (hscheme.letters _ (List.head_mem hscheme.ne_nil))).1
  · rw [List.getLast?_append_of_ne_nil _ (by simp),
      List.getLast?_cons_of_ne_nil (by simp [joinHostPort_ne_nil])]
    by_cases hnil : query = []
    · -- the last byte is a digit of the port
      obtain ⟨c, hc, hdigit⟩ := h.address.numeric.last
      have hport : port ≠ [] := by
        rintro rfl
        cases hc
      refine ⟨c, ?_, visible_of_isDigit hdigit⟩
      rw [queryText, if_pos hnil, List.append_nil, joinHostPort]
      split_ifs
      · grind
      · rw [List.getLast?_append_of_ne_nil _ (by simp), List.getLast?_cons_of_ne_nil hport, hc]
    · refine ⟨query.getLast hnil, ?_, (h.transport.visible _ (List.getLast_mem hnil)).1⟩
      rw [queryText, if_neg hnil, List.getLast?_append_of_ne_nil _ (by simp),
        List.getLast?_cons_of_ne_nil hnil, List.getLast?_eq_some_getLast]

lemma MadeFrom.parse_eq (h : MadeFrom raw u scheme host port query) :
    parse u = if (joinHostPort host port).head? = some slash then none
      else some ⟨scheme, joinHostPort host port, query⟩ := by
  obtain ⟨defaultPort, hdefault⟩ := h.known
  have hscheme := iceScheme_of_iceDefaultPort hdefault
  rw [h.text, parse_text hscheme.letters hscheme.ne_nil h.address.joined h.transport.visible,
    hscheme.lower]
  simp only [joinHostPort_ne_nil, false_or]

/-- **A normalised URL is normalised to itself exactly if its host is usable.** -/
theorem MadeFrom.fixed_iff (h : MadeFrom raw u scheme host port query) :
    normaliseICEServerURL u = some u ↔ UsableHost host := by
  obtain ⟨defaultPort, hdefault⟩ := h.known
  have hslash := h.address.head_joined
  have hbrackets := h.address.joinICEHostPort_joined (iceDefaultPort_eq_some hdefault).2
  have hnormalise : normaliseICEServerURL u =
      if (joinHostPort host port).head? = some slash then none
      else (joinICEHostPort (joinHostPort host port) defaultPort).map fun hostport =>
        scheme ++ colon :: (hostport ++ queryText query) := by
    rw [normaliseICEServerURL, h.trimSpace_eq, h.parse_eq]
    split_ifs
    · rfl
    · show ((iceDefaultPort (toLower scheme)).bind _) = _
      rw [(iceScheme_of_iceDefaultPort hdefault).lower, hdefault, h.transport.transportQuery_eq]
      exact Option.map_eq_bind.symm
  rw [hnormalise, UsableHost, ← and_assoc, ← hbrackets]
  split_ifs with hhead
  · grind
  · have hplain : colon ∈ host ∨ host.head? ≠ some slash := by
      by_contra hcon
      push Not at hcon
      exact hhead (hslash.2 hcon)
    rw [and_iff_left hplain, Option.map_eq_some_iff]
    constructor
    · rintro ⟨hostport, hjoin, htext⟩
      rw [h.text] at htext
      have heq := List.append_cancel_left htext
      rw [List.cons.injEq] at heq
      rw [hjoin, List.append_cancel_right heq.2]
    · intro hjoin
      exact ⟨_, hjoin, h.text.symm⟩

lemma MadeFrom.isTURNURL_iff (h : MadeFrom raw u scheme host port query) :
    isTURNURL u = true ↔ scheme = schemeTURN ∨ scheme = schemeTURNS := by
  obtain ⟨defaultPort, hdefault⟩ := h.known
  rw [h.text]
  generalize joinHostPort host port ++ queryText query = rest
  rcases (iceDefaultPort_eq_some hdefault).1 with rfl | rfl | rfl | rfl
  · exact iff_of_false (fun hturn => by cases hturn) (by decide)
  · exact iff_of_true rfl (by decide)
  · exact iff_of_false (fun hturn => by cases hturn) (by decide)
  · exact iff_of_true rfl (by decide)

end Made

/-! ## Lists of servers -/

lemma keptURL_eq_some {srv : ICEServer C} {raw u : Bytes} :
    keptURL srv raw = some u ↔
      normaliseICEServerURL raw = some u ∧ (isTURNURL u = true → hasPionTURNCredentials srv) := by
  rw [keptURL]
  cases normaliseICEServerURL raw with
  | none => simp
  | some v =>
    grind

lemma keptServer_eq_some {srv out : ICEServer C} :
    keptServer srv = some out ↔
      out = { srv with urls := out.urls } ∧ out.urls = srv.urls.filterMap (keptURL srv) ∧
        out.urls ≠ [] := by
  obtain ⟨urls, username, credential, credentialType⟩ := out
  rw [keptServer]
  dsimp only
  split_ifs with hnil
  · grind
  · grind

lemma keptURL_congr {srv out : ICEServer C} (h : out = { srv with urls := out.urls }) :
    keptURL out = keptURL srv := by
  rw [h]
  rfl

lemma mem_normaliseICEServers {input : List (ICEServer C)} {out : ICEServer C} :
    out ∈ normaliseICEServers input ↔ ∃ srv ∈ input, keptServer srv = some out :=
  List.mem_filterMap

lemma exists_sublist_filterMap {α β : Type} (g : α → Option β) : ∀ l : List α,
    ∃ l' : List α, l'.Sublist l ∧ List.Forall₂ (fun a b => g a = some b) l' (l.filterMap g)
  | [] => ⟨[], .slnil, .nil⟩
  | a :: l => by
    obtain ⟨l', hsub, hall⟩ := exists_sublist_filterMap g l
    cases ha : g a with
    | none =>
      grind
    | some b =>
      rw [List.filterMap_cons_some ha]
      exact ⟨a :: l', hsub.cons_cons a, .cons ha hall⟩

/-- **Servers and URLs keep their order.** -/
theorem keepsOrder_normaliseICEServers (input : List (ICEServer C)) :
    KeepsOrder input (normaliseICEServers input) := by
  obtain ⟨servers, hsub, hall⟩ := exists_sublist_filterMap keptServer input
  refine ⟨servers, hsub, hall.imp fun srv out hkept => ?_⟩
  obtain ⟨hsame, hurls, -⟩ := keptServer_eq_some.1 hkept
  obtain ⟨raws, hraws, hnormal⟩ := exists_sublist_filterMap (keptURL srv) srv.urls
  refine ⟨hsame, raws, hraws, hurls ▸ hnormal.imp fun raw u hu => ?_⟩
  exact (keptURL_eq_some.1 hu).1

lemma exists_keptURL {input : List (ICEServer C)} {out : ICEServer C} {u : Bytes}
    (hout : out ∈ normaliseICEServers input) (hu : u ∈ out.urls) :
    ∃ srv ∈ input, out = { srv with urls := out.urls } ∧ ∃ raw ∈ srv.urls,
      keptURL srv raw = some u := by
  obtain ⟨srv, hsrv, hkept⟩ := mem_normaliseICEServers.1 hout
  obtain ⟨hsame, hurls, -⟩ := keptServer_eq_some.1 hkept
  rw [hurls] at hu
  exact ⟨srv, hsrv, hsame, List.mem_filterMap.1 hu⟩

lemma fixed_iff (input : List (ICEServer C)) :
    normaliseICEServers (normaliseICEServers input) = normaliseICEServers input ↔
      ∀ out ∈ normaliseICEServers input, ∀ u ∈ out.urls, normaliseICEServerURL u = some u := by
  rw [normaliseICEServers, filterMap_eq_self_iff]
  refine forall₂_congr fun out hout => ?_
  obtain ⟨srv, hsrv, hkept⟩ := mem_normaliseICEServers.1 hout
  obtain ⟨-, -, hne⟩ := keptServer_eq_some.1 hkept
  have hurls : keptServer out = some out ↔ out.urls.filterMap (keptURL out) = out.urls := by
    rw [keptServer_eq_some]
    exact ⟨fun h => h.2.1.symm, fun h => ⟨rfl, h.symm, hne⟩⟩
  rw [hurls, filterMap_eq_self_iff]
  refine forall₂_congr fun u hu => ?_
  obtain ⟨srv', -, hsame, raw, -, hkept'⟩ := exists_keptURL hout hu
  rw [← keptURL_congr hsame, keptURL_eq_some] at hkept'
  rw [keptURL_eq_some, and_iff_left hkept'.2]

lemma usableURL {srv out : ICEServer C} {raw u : Bytes}
    (hsame : out = { srv with urls := out.urls }) (hkept : keptURL srv raw = some u)
    {scheme host port query : Bytes} (hmade : MadeFrom raw u scheme host port query)
    (husable : UsableHost host) : UsableURL out u := by
  obtain ⟨hopen, hclose, hslash⟩ := husable
  obtain ⟨hcolon, hopen', hclose'⟩ := hmade.address.notMem_port
  obtain ⟨n, hn, hlow, hhigh⟩ := hmade.address.number
  have hhead : ¬ (joinHostPort host port).head? = some slash := by
    rw [hmade.address.head_joined]
    rintro ⟨hnocolon, hhead⟩
    exact hslash.elim hnocolon fun hne => hne hhead
  have hparse := hmade.parse_eq
  rw [if_neg hhead] at hparse
  refine ⟨⟨_, hparse, hmade.text, ⟨host, port, n, ?_, hmade.address.ne_nil, hn, hlow, hhigh⟩,
    hmade.transport, fun hturn => ?_⟩⟩
  · exact splitHostPort_joinHostPort hopen hclose hcolon hopen' hclose'
  · rw [← keptURL_congr hsame, keptURL_eq_some] at hkept
    exact hkept.2 (hmade.isTURNURL_iff.2 hturn)

/-- **The list that is made of the servers of a deployment** keeps their order, and is normalised
exactly if every URL that is kept was made from a usable host. -/
theorem normalised_iff (input : List (ICEServer C)) :
    KeepsOrder input (normaliseICEServers input) ∧
    (Normalised input ↔ ∀ srv ∈ input, ∀ raw ∈ srv.urls, (keptURL srv raw).isSome →
      ∀ host port, urlHostPort raw = some (host, port) → UsableHost host) := by
  have horder := keepsOrder_normaliseICEServers input
  refine ⟨horder, ⟨fun hnormal srv hsrv raw hraw hkept host port hfound => ?_, fun h => ?_⟩⟩
  · obtain ⟨u, hu⟩ := Option.isSome_iff_exists.1 hkept
    obtain ⟨scheme, host', port', query, hmade⟩ :=
      normaliseICEServerURL_eq_some (keptURL_eq_some.1 hu).1
    have heq := hmade.found
    rw [hfound, Option.some.injEq, Prod.mk.injEq] at heq
    rw [heq.1]
    -- the URL stands in the list that is made, which is a fixed point
    have hmem : u ∈ srv.urls.filterMap (keptURL srv) := List.mem_filterMap.2 ⟨raw, hraw, hu⟩
    have hout : keptServer srv = some { srv with urls := srv.urls.filterMap (keptURL srv) } :=
      keptServer_eq_some.2 ⟨rfl, rfl, List.ne_nil_of_mem hmem⟩
    exact hmade.fixed_iff.1 ((fixed_iff input).1 hnormal.fixed _
      (mem_normaliseICEServers.2 ⟨srv, hsrv, hout⟩) u hmem)
  · have husable : ∀ out ∈ normaliseICEServers input, ∀ u ∈ out.urls,
        normaliseICEServerURL u = some u ∧ UsableURL out u := by
      intro out hout u hu
      obtain ⟨srv, hsrv, hsame, raw, hraw, hkept⟩ := exists_keptURL hout hu
      obtain ⟨scheme, host, port, query, hmade⟩ :=
        normaliseICEServerURL_eq_some (keptURL_eq_some.1 hkept).1
      have hhost := h srv hsrv raw hraw (hkept ▸ rfl) host port hmade.found
      exact ⟨hmade.fixed_iff.2 hhost, usableURL hsame hkept hmade hhost⟩
    exact ⟨(fixed_iff input).2 fun out hout u hu => (husable out hout u hu).1, horder,
      fun out hout u hu => (husable out hout u hu).2⟩

/-- A relay with credentials and without a port. -/
theorem normalised_iff_relay :
    Normalised (C := Unit) [⟨[ascii " TURN:[2001:db8::1]?transport=UDP "], ascii "user",
      some (.inl (ascii "secret")), 0⟩] := by
  refine (normalised_iff _).2.2 ?_
  intro srv hsrv raw hraw _ host port hfound
  rw [List.mem_singleton.1 hsrv] at hraw
  rw [List.mem_singleton.1 hraw] at hfound
  have hhost : urlHostPort (ascii " TURN:[2001:db8::1]?transport=UDP ") =
      some (ascii "2001:db8::1", ascii "3478") := by decide +kernel
  rw [hhost, Option.some.injEq, Prod.mk.injEq] at hfound
  rw [← hfound.1]
  decide +kernel

/-- A closing bracket inside a host: the URL that comes out cannot be split, and is dropped when it
is normalised once more. -/
theorem bracket_inside_host :
    normaliseICEServers (C := Unit) [⟨[ascii "stun:a]b"], [], none, 0⟩] =
      [⟨[ascii "stun:a]b:3478"], [], none, 0⟩] ∧
    normaliseICEServers (C := Unit) [⟨[ascii "stun:a]b:3478"], [], none, 0⟩] = [] ∧
    parse (ascii "stun:a]b:3478") = some ⟨schemeSTUN, ascii "a]b:3478", []⟩ ∧
    splitHostPort (ascii "a]b:3478") = .error .unexpectedClose := by
  decide +kernel

end OlcRtc.IceServers
