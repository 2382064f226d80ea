import OlcRtc.Lib.NetIP

/-!
# Opaque URLs and addresses with a port, as Go reads them

Go strings are byte strings, and nothing here asks them to be UTF-8.

* `trimSpace`, `atoi` — `strings.TrimSpace` and `strconv.Atoi`.
* `splitHostPort`, `joinHostPort` — the functions of `net`.  `splitHostPort_joinHostPort` says that
  they fit together for a host without brackets, and `joinHostPort_inj` that the joined text gives
  away both parts.
* `parse` — `url.Parse` as far as a URL `scheme:opaque?query#fragment` goes: the value is `none`
  for a text that `url.Parse` refuses and for a URL that has no opaque part.
* `parseQuery`, `get` — `url.ParseQuery` and `Values.Get`.
-/

namespace OlcRtc.GoUrl

open NetIP (colon percent hexDigitVal)

def hash : UInt8 := 35
def ampersand : UInt8 := 38
def plus : UInt8 := 43
def minus : UInt8 := 45
def slash : UInt8 := 47
def semicolon : UInt8 := 59
def equals : UInt8 := 61
def question : UInt8 := 63
def openBracket : UInt8 := 91
def closeBracket : UInt8 := 93

/-- `strings.Cut`: what stands before the first separator, and what after it. -/
def cut (sep : UInt8) (s : Bytes) : Bytes × Bytes :=
  (s.takeWhile (· ≠ sep), (s.dropWhile (· ≠ sep)).drop 1)

def isDigit (c : UInt8) : Bool := 48 ≤ c && c ≤ 57

def isLetter (c : UInt8) : Bool := (97 ≤ c && c ≤ 122) || (65 ≤ c && c ≤ 90)

/-- `strings.ToLower` on ASCII. -/
def toLower (s : Bytes) : Bytes := s.map fun c => if 65 ≤ c ∧ c ≤ 90 then c + 32 else c

/-! ## White space -/

/-- The encodings of the characters of `unicode.IsSpace`. -/
def spaces : List Bytes :=
  [[9], [10], [11], [12], [13], [32], [0xC2, 0x85], [0xC2, 0xA0], [0xE1, 0x9A, 0x80],
    [0xE2, 0x80, 0x80], [0xE2, 0x80, 0x81], [0xE2, 0x80, 0x82], [0xE2, 0x80, 0x83],
    [0xE2, 0x80, 0x84], [0xE2, 0x80, 0x85], [0xE2, 0x80, 0x86], [0xE2, 0x80, 0x87],
    [0xE2, 0x80, 0x88], [0xE2, 0x80, 0x89], [0xE2, 0x80, 0x8A], [0xE2, 0x80, 0xA8],
    [0xE2, 0x80, 0xA9], [0xE2, 0x80, 0xAF], [0xE2, 0x81, 0x9F], [0xE3, 0x80, 0x80]]

/-- Drops the given encodings from the start of a string, at most `n` of them. -/
def trimStart (encodings : List Bytes) : ℕ → Bytes → Bytes
  | 0, s => s
  | n + 1, s =>
    match encodings.find? fun e => e.isPrefixOf s with
    | some e => trimStart encodings n (s.drop e.length)
    | none => s

def trimSpace (s : Bytes) : Bytes :=
  let start := trimStart spaces s.length s
  (trimStart (spaces.map List.reverse) start.length start.reverse).reverse

def trimPrefix (start s : Bytes) : Bytes :=
  if start.isPrefixOf s then s.drop start.length else s

/-! ## Numbers -/

def atoi (s : Bytes) : Option ℤ :=
  let digits := if s.head? = some plus ∨ s.head? = some minus then s.drop 1 else s
  if digits = [] ∨ ¬ digits.all isDigit then none
  else
    let n : ℤ := digits.foldl (fun n c => n * 10 + (c.toNat - 48 : ℕ)) 0
    let value := if s.head? = some minus then -n else n
    if -2 ^ 63 ≤ value ∧ value < 2 ^ 63 then some value else none

/-! ## Hosts and ports -/

/-- What `net.SplitHostPort` complains about. -/
inductive AddrError where
  | missingPort
  | tooManyColons
  | missingClose
  | unexpectedOpen
  | unexpectedClose
  deriving DecidableEq

def cutLastColon (s : Bytes) : Bytes × Bytes :=
  let (port, host) := cut colon s.reverse
  (host.reverse, port.reverse)

/-- The host of a text that begins with a bracket: all up to the first closing one, which is to
stand before the last colon.  Also what stands behind the bracket. -/
def bracketedHost (hostport : Bytes) : Except AddrError (Bytes × Bytes) :=
  if closeBracket ∉ hostport then .error .missingClose
  else
    let (host, after) := cut closeBracket (hostport.drop 1)
    match after with
    | [] => .error .missingPort
    | c :: rest =>
      if c = colon ∧ colon ∉ rest then .ok (host, after)
      else if c = colon then .error .tooManyColons
      else .error .missingPort

def splitHostPort (hostport : Bytes) : Except AddrError (Bytes × Bytes) :=
  let (before, port) := cutLastColon hostport
  if colon ∉ hostport then .error .missingPort
  else if hostport.head? = some openBracket then
    match bracketedHost hostport with
    | .error e => .error e
    | .ok (host, after) =>
      if openBracket ∈ hostport.drop 1 then .error .unexpectedOpen
      else if closeBracket ∈ after then .error .unexpectedClose
      else .ok (host, port)
  else if colon ∈ before then .error .tooManyColons
  else if openBracket ∈ hostport then .error .unexpectedOpen
  else if closeBracket ∈ hostport then .error .unexpectedClose
  else .ok (before, port)

def joinHostPort (host port : Bytes) : Bytes :=
  if colon ∈ host then openBracket :: host ++ closeBracket :: colon :: port
  else host ++ colon :: port

/-! ## URLs -/

structure URL where
  scheme : Bytes
  opaquePart : Bytes
  rawQuery : Bytes
  deriving DecidableEq

/-- The loop of `getScheme` at byte `i`: the scheme and the rest, or `none` if the scheme is
missing before its colon. -/
def getSchemeFrom (rawURL : Bytes) : ℕ → Bytes → Option (Bytes × Bytes)
  | _, [] => some ([], rawURL)
  | i, c :: rest =>
    if isLetter c then getSchemeFrom rawURL (i + 1) rest
    else if isDigit c ∨ c = plus ∨ c = minus ∨ c = NetIP.dot then
      if i = 0 then some ([], rawURL) else getSchemeFrom rawURL (i + 1) rest
    else if c = colon then
      if i = 0 then none else some (rawURL.take i, rest)
    else some ([], rawURL)

def getScheme (rawURL : Bytes) : Option (Bytes × Bytes) := getSchemeFrom rawURL 0 rawURL

/-- `unescape`, with what a plus sign stands for. -/
def unescape (plusSign : UInt8) : Bytes → Option Bytes
  | [] => some []
  | c :: rest =>
    if c = percent then
      match rest with
      | a :: b :: rest => do
        let high ← hexDigitVal a
        let low ← hexDigitVal b
        let rest ← unescape plusSign rest
        return UInt8.ofNat (high * 16 + low) :: rest
      | _ => none
    else (unescape plusSign rest).map fun rest => (if c = plus then plusSign else c) :: rest

/-- Splits a query off.  A single question mark at the end is no query. -/
def cutQuery (rest : Bytes) : Bytes × Bytes :=
  if rest.getLast? = some question ∧ rest.count question = 1 then (rest.dropLast, [])
  else cut question rest

/-- `url.Parse`, for a URL with an opaque part. -/
def parse (rawURL : Bytes) : Option URL :=
  let (u, fragment) := cut hash rawURL
  if u.any fun c => c < 32 || c = 127 then none
  else
    match getScheme u with
    | none => none
    | some (scheme, rest) =>
      let (rest, rawQuery) := cutQuery rest
      if rest = [] ∨ rest.head? = some slash ∨ scheme = [] then none
      else if (unescape plus fragment).isNone then none
      else some ⟨toLower scheme, rest, rawQuery⟩

def queryParts (query : Bytes) : List Bytes :=
  (query.splitOnP (· = ampersand)).filter (· ≠ [])

/-- `url.ParseQuery`: the keys and their values in the order of the query. -/
def parseQuery (query : Bytes) : Option (List (Bytes × Bytes)) :=
  if 10000 < query.count ampersand + 1 then none
  else (queryParts query).mapM fun part =>
    if semicolon ∈ part then none
    else do
      let key ← unescape 32 (cut equals part).1
      let value ← unescape 32 (cut equals part).2
      return (key, value)

/-- `Values.Get`: the first value of a key, or nothing. -/
def get (values : List (Bytes × Bytes)) (key : Bytes) : Bytes :=
  ((values.find? fun entry => entry.1 = key).map (·.2)).getD []

/-! ## Cutting -/

section Cut

variable {sep : UInt8} {a b s : Bytes}

lemma ne_of_notMem (h : sep ∉ a) : ∀ c ∈ a, decide (c ≠ sep) = true := by
  intro c hc
  exact decide_eq_true (ne_of_mem_of_not_mem hc h)

lemma cut_append (h : sep ∉ a) : cut sep (a ++ sep :: b) = (a, b) := by
  rw [cut, List.takeWhile_append_of_pos (ne_of_notMem h),
    List.dropWhile_append_of_pos (ne_of_notMem h), List.takeWhile_cons_of_neg (by simp),
    List.dropWhile_cons_of_neg (by simp), List.append_nil]
  rfl

lemma cut_of_notMem (h : sep ∉ s) : cut sep s = (s, []) := by
  rw [cut, List.takeWhile_eq_self_iff.2 (ne_of_notMem h),
    List.dropWhile_eq_nil_iff.2 (ne_of_notMem h)]
  rfl

lemma notMem_cut_fst (sep : UInt8) (s : Bytes) : sep ∉ (cut sep s).1 := by
  intro hmem
  simpa using List.mem_takeWhile_imp hmem

lemma mem_of_mem_cut_fst {c : UInt8} (h : c ∈ (cut sep s).1) : c ∈ s :=
  List.takeWhile_subset _ h

lemma cutLastColon_append (h : colon ∉ b) : cutLastColon (a ++ colon :: b) = (a, b) := by
  have hreverse : (a ++ colon :: b).reverse = b.reverse ++ colon :: a.reverse := by simp
  rw [cutLastColon, hreverse, cut_append (by simpa using h)]
  simp only [List.reverse_reverse]

end Cut

lemma append_colon_inj {a b p q : Bytes} (hp : colon ∉ p) (hq : colon ∉ q)
    (h : a ++ colon :: p = b ++ colon :: q) : a = b ∧ p = q := by
  have hcut := congrArg cutLastColon h
  rw [cutLastColon_append hp, cutLastColon_append hq] at hcut
  exact Prod.mk.inj hcut

/-! ## Joined hosts and ports are split again -/

@[simp] lemma openBracket_ne_closeBracket : openBracket ≠ closeBracket := by decide

@[simp] lemma openBracket_ne_colon : openBracket ≠ colon := by decide

@[simp] lemma closeBracket_ne_colon : closeBracket ≠ colon := by decide

section HostPort

variable {host port hostport : Bytes}

/-- **A host without brackets and a port are found again in their join.** -/
theorem splitHostPort_joinHostPort (hopen : openBracket ∉ host) (hclose : closeBracket ∉ host)
    (hcolon : colon ∉ port) (hopen' : openBracket ∉ port) (hclose' : closeBracket ∉ port) :
    splitHostPort (joinHostPort host port) = .ok (host, port) := by
  rw [joinHostPort]
  split_ifs with hv6
  · have hcut : cutLastColon (openBracket :: host ++ closeBracket :: colon :: port) =
        (openBracket :: host ++ [closeBracket], port) := by
      have hsplit : openBracket :: host ++ closeBracket :: colon :: port =
          (openBracket :: host ++ [closeBracket]) ++ colon :: port := by simp
      rw [hsplit, cutLastColon_append hcolon]
    have hhost : bracketedHost (openBracket :: host ++ closeBracket :: colon :: port) =
        .ok (host, colon :: port) := by
      rw [bracketedHost, if_neg (by simp)]
      simp only [List.cons_append, List.drop_succ_cons, List.drop_zero, cut_append hclose]
      rw [if_pos ⟨trivial, hcolon⟩]
    simp only [splitHostPort, hcut, hhost]
    rw [if_neg (by simp), if_pos (by simp), if_neg (by simp [hopen, hopen']),
      if_neg (by simp [hclose'])]
  · have hhead : (host ++ colon :: port).head? ≠ some openBracket := by
      intro hhead
      cases host with
      | nil => exact absurd (Option.some.inj hhead).symm openBracket_ne_colon
      | cons c rest => exact hopen (Option.some.inj hhead ▸ List.mem_cons_self)
    simp only [splitHostPort, cutLastColon_append hcolon]
    rw [if_neg (by simp), if_neg hhead, if_neg hv6, if_neg (by simp [hopen, hopen']),
      if_neg (by simp [hclose, hclose'])]

lemma bracketedHost_eq_ok {after : Bytes} (h : bracketedHost hostport = .ok (host, after)) :
    host = (cut closeBracket (hostport.drop 1)).1 := by
  rw [bracketedHost] at h
  split_ifs at h
  generalize cut closeBracket (hostport.drop 1) = parts at h ⊢
  obtain ⟨inner, after'⟩ := parts
  cases after' with
  | nil => cases h
  | cons c rest =>
    grind

lemma splitHostPort_eq_ok (h : splitHostPort hostport = .ok (host, port)) :
    (host = (cut closeBracket (hostport.drop 1)).1 ∧ openBracket ∉ hostport.drop 1) ∨
    (host = (cutLastColon hostport).1 ∧ openBracket ∉ hostport ∧ closeBracket ∉ hostport) := by
  simp only [splitHostPort] at h
  by_cases hcolon : colon ∉ hostport
  · rw [if_pos hcolon] at h
    cases h
  rw [if_neg hcolon] at h
  by_cases hopen : hostport.head? = some openBracket
  · rw [if_pos hopen] at h
    cases hhost : bracketedHost hostport with
    | error e =>
      rw [hhost] at h
      cases h
    | ok r =>
      obtain ⟨inner, after⟩ := r
      simp only [hhost] at h
      split_ifs at h with hopen'
      cases h
      exact .inl ⟨bracketedHost_eq_ok hhost, hopen'⟩
  · grind

lemma cutLastColon_fst_subset (s : Bytes) : (cutLastColon s).1 ⊆ s := by
  intro c hc
  have hdrop := List.mem_of_mem_drop (List.mem_reverse.1 hc)
  exact List.mem_reverse.1 (List.dropWhile_subset _ hdrop)

lemma host_of_splitHostPort (h : splitHostPort hostport = .ok (host, port)) :
    host ⊆ hostport ∧ openBracket ∉ host ∧ closeBracket ∉ host := by
  rcases splitHostPort_eq_ok h with ⟨rfl, hopen⟩ | ⟨rfl, hopen, hclose⟩
  · refine ⟨fun c hc => List.mem_of_mem_drop (mem_of_mem_cut_fst hc), ?_, notMem_cut_fst _ _⟩
    exact fun hmem => hopen (mem_of_mem_cut_fst hmem)
  · have hsub := cutLastColon_fst_subset hostport
    exact ⟨hsub, fun hmem => hopen (hsub hmem), fun hmem => hclose (hsub hmem)⟩

lemma joinHostPort_inj {host' port' : Bytes} (hopen : openBracket ∉ host)
    (hport : colon ∉ port) (hport' : colon ∉ port')
    (h : joinHostPort host port = joinHostPort host' port') : host = host' := by
  rw [joinHostPort, joinHostPort] at h
  have hbracketed : ∀ host port : Bytes, openBracket :: host ++ closeBracket :: colon :: port =
      (openBracket :: host ++ [closeBracket]) ++ colon :: port := by simp
  split_ifs at h with hv6 hv6' hv6'
  · rw [hbracketed, hbracketed] at h
    simpa using (append_colon_inj hport hport' h).1
  · rw [hbracketed] at h
    -- the other host would have a colon of its own
    have heq := (append_colon_inj hport hport' h).1
    exact absurd (heq ▸ by simp [hv6]) hv6'
  · rw [hbracketed host'] at h
    have heq := (append_colon_inj hport hport' h).1
    exact absurd (heq ▸ by simp) hopen
  · exact (append_colon_inj hport hport' h).1

lemma length_joinHostPort (host port : Bytes) :
    host.length + port.length + 1 ≤ (joinHostPort host port).length := by
  rw [joinHostPort]
  split_ifs
  · grind
  · grind

end HostPort

/-! ## Numbers and white space -/

/-- A byte of ASCII that is neither white space nor a control character. -/
def Visible (c : UInt8) : Prop := 33 ≤ c ∧ c ≤ 126

instance (c : UInt8) : Decidable (Visible c) := inferInstanceAs (Decidable (_ ∧ _))

/-- A text that `atoi` accepts has digits only, behind at most one sign. -/
structure Numeric (s : Bytes) : Prop where
  sign : ∀ c ∈ s, isDigit c ∨ c = plus ∨ c = minus
  last : ∃ c, s.getLast? = some c ∧ isDigit c

lemma numeric_of_atoi {s : Bytes} {n : ℤ} (h : atoi s = some n) : Numeric s := by
  simp only [atoi] at h
  generalize hdigits : (if s.head? = some plus ∨ s.head? = some minus then s.drop 1 else s) = digits
    at h
  by_cases hbad : digits = [] ∨ ¬ digits.all isDigit
  · rw [if_pos hbad] at h
    cases h
  push Not at hbad
  obtain ⟨hne, hall⟩ := hbad
  have hdigit := List.all_eq_true.1 hall
  have hlast : ∃ c, digits.getLast? = some c ∧ isDigit c :=
    ⟨digits.getLast hne, List.getLast?_eq_some_getLast hne, hdigit _ (List.getLast_mem hne)⟩
  split_ifs at hdigits with hsign
  · cases s with
    | nil => simp at hsign
    | cons c rest =>
      simp only [List.drop_succ_cons, List.drop_zero] at hdigits
      simp only [List.head?_cons, Option.some.injEq] at hsign
      subst hdigits
      refine ⟨?_, ?_⟩
      · grind
      · rwa [List.getLast?_cons_of_ne_nil hne]
  · subst hdigits
    exact ⟨fun c hc => .inl (hdigit c hc), hlast⟩

lemma Numeric.notMem {s : Bytes} (h : Numeric s) {c : UInt8}
    (hc : isDigit c = false ∧ c ≠ plus ∧ c ≠ minus) : c ∉ s := by
  intro hmem
  rcases h.sign c hmem with hdigit | hplus | hminus
  · rw [hc.1] at hdigit
    cases hdigit
  · exact hc.2.1 hplus
  · exact hc.2.2 hminus

lemma visible_of_isDigit {c : UInt8} (h : isDigit c) : Visible c := by
  simp only [isDigit, Bool.and_eq_true, decide_eq_true_eq] at h
  exact ⟨UInt8.le_trans (by decide : (33 : UInt8) ≤ 48) h.1,
    UInt8.le_trans h.2 (by decide : (57 : UInt8) ≤ 126)⟩

lemma trimStart_eq_self {encodings : List Bytes} {s : Bytes} (n : ℕ)
    (h : ∀ e ∈ encodings, ¬ e <+: s) : trimStart encodings n s = s := by
  cases n with
  | zero => rfl
  | succ n =>
    have hfind : (encodings.find? fun e => e.isPrefixOf s) = none :=
      List.find?_eq_none.2 fun e he hprefix => h e he (List.isPrefixOf_iff_prefix.1 hprefix)
    rw [trimStart, hfind]

/-- With as many encodings as there are bytes, nothing is left to drop, and only the start was. -/
lemma trimStart_spec {encodings : List Bytes} (hne : [] ∉ encodings) :
    ∀ (n : ℕ) (s : Bytes), s.length ≤ n → trimStart encodings n s <:+ s ∧
      ∀ e ∈ encodings, ¬ e <+: trimStart encodings n s := by
  intro n
  induction n with
  | zero =>
    intro s hs
    obtain rfl := List.length_eq_zero_iff.1 (Nat.le_zero.1 hs)
    refine ⟨List.suffix_rfl, fun e he hprefix => hne ?_⟩
    rwa [← List.prefix_nil.1 hprefix]
  | succ n ih =>
    intro s hs
    rw [trimStart]
    split
    · next e he =>
      have hpos : 0 < e.length := List.length_pos_iff.2 fun hnil =>
        hne (hnil ▸ List.mem_of_find?_eq_some he)
      obtain ⟨hsuffix, hnone⟩ := ih (s.drop e.length) (by simp; omega)
      exact ⟨hsuffix.trans (List.drop_suffix _ _), hnone⟩
    · next hnone =>
      refine ⟨List.suffix_rfl, fun e he hprefix => ?_⟩
      exact List.find?_eq_none.1 hnone e he (List.isPrefixOf_iff_prefix.2 hprefix)

lemma trimSpace_trimSpace (s : Bytes) : trimSpace (trimSpace s) = trimSpace s := by
  obtain ⟨-, hstart⟩ := trimStart_spec (show [] ∉ spaces by decide) s.length s le_rfl
  generalize ht : trimStart spaces s.length s = t at hstart
  obtain ⟨hsuffix, hend⟩ := trimStart_spec (show [] ∉ spaces.map List.reverse by decide)
    t.length t.reverse (by simp)
  have htrim : trimSpace s = (trimStart (spaces.map List.reverse) t.length t.reverse).reverse := by
    rw [trimSpace, ht]
  generalize trimStart (spaces.map List.reverse) t.length t.reverse = u at hsuffix hend htrim
  have hprefix : u.reverse <+: t := by rwa [← List.reverse_suffix, List.reverse_reverse]
  rw [htrim, trimSpace, trimStart_eq_self _ fun e he h => hstart e he (h.trans hprefix),
    List.reverse_reverse, trimStart_eq_self _ hend]

lemma trimStart_of_visible {encodings : List Bytes}
    (hencodings : ∀ e ∈ encodings, e.head?.any fun c => ¬ Visible c) (n : ℕ) {c : UInt8}
    (hc : Visible c) (rest : Bytes) : trimStart encodings n (c :: rest) = c :: rest := by
  refine trimStart_eq_self n fun e he hstarts => ?_
  have hblank := hencodings e he
  obtain ⟨tail, htail⟩ := hstarts
  cases e with
  | nil => cases hblank
  | cons d e => grind

lemma trimSpace_of_visible {s : Bytes} (hhead : ∃ c, s.head? = some c ∧ Visible c)
    (hlast : ∃ c, s.getLast? = some c ∧ Visible c) : trimSpace s = s := by
  obtain ⟨c, hc, hvisible⟩ := hhead
  obtain ⟨d, hd, hvisible'⟩ := hlast
  obtain ⟨rest, hrest⟩ := List.head?_eq_some_iff.1 hc
  have hstart : trimStart spaces s.length s = s := by
    rw [hrest]
    exact trimStart_of_visible (by decide) _ hvisible rest
  obtain ⟨before, hbefore⟩ := List.getLast?_eq_some_iff.1 hd
  have hreverse : s.reverse = d :: before.reverse := by rw [hbefore]; simp
  simp only [trimSpace, hstart, hreverse]
  rw [trimStart_of_visible (by decide) _ hvisible', ← hreverse, List.reverse_reverse]

/-! ## Opaque URLs -/

/-- What can stand in the opaque part of a URL, but for a slash at its start. -/
structure OpaqueText (s : Bytes) : Prop where
  hash : hash ∉ s
  question : question ∉ s
  control : ∀ c ∈ s, ¬ (c < 32 ∨ c = 127)

lemma OpaqueText.mono {s t : Bytes} (h : OpaqueText t) (hsub : s ⊆ t) : OpaqueText s :=
  ⟨fun hmem => h.hash (hsub hmem), fun hmem => h.question (hsub hmem),
    fun c hc => h.control c (hsub hc)⟩

lemma OpaqueText.append {s t : Bytes} (hs : OpaqueText s) (ht : OpaqueText t) :
    OpaqueText (s ++ t) := by
  refine ⟨?_, ?_, ?_⟩
  · rw [List.mem_append]
    exact fun hmem => hmem.elim hs.hash ht.hash
  · rw [List.mem_append]
    exact fun hmem => hmem.elim hs.question ht.question
  · intro c hc
    exact (List.mem_append.1 hc).elim (hs.control c) (ht.control c)

lemma getSchemeFrom_letters (rawURL rest : Bytes) : ∀ (scheme : Bytes) (i : ℕ),
    (∀ c ∈ scheme, isLetter c) → 0 < i + scheme.length →
    getSchemeFrom rawURL i (scheme ++ colon :: rest) =
      some (rawURL.take (i + scheme.length), rest)
  | [], i, _, hpos => by
    rw [List.nil_append, getSchemeFrom, if_neg (by decide), if_neg (by decide), if_pos rfl,
      if_neg (by simpa using Nat.pos_iff_ne_zero.1 hpos)]
    rfl
  | c :: scheme, i, hletters, _ => by
    rw [List.cons_append, getSchemeFrom, if_pos (hletters c List.mem_cons_self),
      getSchemeFrom_letters rawURL rest scheme (i + 1)
        (fun d hd => hletters d (List.mem_cons_of_mem c hd)) (by omega)]
    rw [List.length_cons, Nat.add_right_comm, Nat.add_assoc]

lemma cutQuery_of_notMem {s : Bytes} (h : question ∉ s) : cutQuery s = (s, []) := by
  rw [cutQuery, if_neg, cut_of_notMem h]
  rintro ⟨hlast, -⟩
  exact h (List.mem_of_getLast? hlast)

lemma cutQuery_append {s query : Bytes} (h : question ∉ s) (hne : query ≠ [])
    (hquery : question ∉ query) : cutQuery (s ++ question :: query) = (s, query) := by
  rw [cutQuery, if_neg, cut_append h]
  rintro ⟨hlast, -⟩
  rw [List.getLast?_append_of_ne_nil _ (by simp), List.getLast?_cons_of_ne_nil hne] at hlast
  exact hquery (List.mem_of_getLast? hlast)

def queryText (query : Bytes) : Bytes := if query = [] then [] else question :: query

lemma mem_queryText {query : Bytes} {c : UInt8} (h : c ∈ queryText query) :
    c = question ∨ c ∈ query := by
  rw [queryText] at h
  split_ifs at h
  · cases h
  · exact List.mem_cons.1 h

lemma cutQuery_queryText {s query : Bytes} (h : question ∉ s) (hquery : question ∉ query) :
    cutQuery (s ++ queryText query) = (s, query) := by
  rw [queryText]
  split_ifs with hnil
  · rw [hnil, List.append_nil, cutQuery_of_notMem h]
  · exact cutQuery_append h hnil hquery

lemma Visible.not_control {c : UInt8} (h : Visible c) : ¬ (c < 32 ∨ c = 127) := by
  simp only [Visible, UInt8.le_iff_toNat_le, UInt8.lt_iff_toNat_lt, ← UInt8.toNat_inj] at h ⊢
  simp only [UInt8.reduceToNat] at h ⊢
  omega

lemma visible_of_isLetter {c : UInt8} (h : isLetter c = true) : Visible c ∧ c ≠ hash := by
  simp only [isLetter, Bool.or_eq_true, Bool.and_eq_true, decide_eq_true_eq, Visible, ne_eq, hash,
    UInt8.le_iff_toNat_le, ← UInt8.toNat_inj] at h ⊢
  simp only [UInt8.reduceToNat] at h ⊢
  omega

/-- **A URL that is put together from its parts has these parts**, unless it is not opaque. -/
theorem parse_text {scheme body query : Bytes} (hscheme : ∀ c ∈ scheme, isLetter c)
    (hne : scheme ≠ []) (hbody : OpaqueText body)
    (hquery : ∀ c ∈ query, Visible c ∧ c ≠ hash ∧ c ≠ question) :
    parse (scheme ++ colon :: (body ++ queryText query)) =
      if body = [] ∨ body.head? = some slash then none
      else some ⟨toLower scheme, body, query⟩ := by
  have hplain : ∀ c ∈ scheme ++ colon :: (body ++ queryText query),
      c ≠ hash ∧ ¬ (c < 32 ∨ c = 127) := by
    intro c hc
    simp only [List.mem_append, List.mem_cons] at hc
    rcases hc with hc | rfl | hc | hc
    · obtain ⟨hc, hhash⟩ := visible_of_isLetter (hscheme c hc)
      exact ⟨hhash, hc.not_control⟩
    · decide
    · exact ⟨ne_of_mem_of_not_mem hc hbody.hash, hbody.control c hc⟩
    · rcases mem_queryText hc with rfl | hc
      · decide
      · exact ⟨(hquery c hc).2.1, (hquery c hc).1.not_control⟩
  have hcut : cut hash (scheme ++ colon :: (body ++ queryText query)) = (_, []) :=
    cut_of_notMem fun hmem => (hplain _ hmem).1 rfl
  have hcontrol : ((scheme ++ colon :: (body ++ queryText query)).any
      fun c => c < 32 || c = 127) = false := by
    refine List.any_eq_false.2 fun c hc => ?_
    simpa using (hplain c hc).2
  have hget : getScheme (scheme ++ colon :: (body ++ queryText query)) =
      some (scheme, body ++ queryText query) := by
    rw [getScheme, getSchemeFrom_letters _ _ scheme 0 hscheme
      (by simpa using List.length_pos_of_ne_nil hne), Nat.zero_add, List.take_left]
  have hsplit : cutQuery (body ++ queryText query) = (body, query) :=
    cutQuery_queryText hbody.question fun hmem => (hquery _ hmem).2.2 rfl
  simp only [parse, hcut, hcontrol, hget, hsplit, unescape, Option.isNone_some, hne, or_false]
  rfl

lemma subset_of_getSchemeFrom {rawURL : Bytes} {scheme rest : Bytes} : ∀ {s : Bytes} {i : ℕ},
    getSchemeFrom rawURL i s = some (scheme, rest) → scheme ≠ [] → rest ⊆ s
  | [], i, h, hne => by
    rw [getSchemeFrom] at h
    cases h
    exact absurd rfl hne
  | c :: s, i, h, hne => by
    rw [getSchemeFrom] at h
    split_ifs at h
    · exact List.subset_cons_of_subset c (subset_of_getSchemeFrom h hne)
    · cases h
      exact absurd rfl hne
    · exact List.subset_cons_of_subset c (subset_of_getSchemeFrom h hne)
    · cases h
      exact List.subset_cons_self _ _
    · cases h
      exact absurd rfl hne

lemma cutQuery_fst (s : Bytes) : question ∉ (cutQuery s).1 ∧ (cutQuery s).1 ⊆ s := by
  rw [cutQuery]
  split_ifs with hforce
  · obtain ⟨before, rfl⟩ := List.getLast?_eq_some_iff.1 hforce.1
    have hcount := hforce.2
    rw [List.count_append, List.count_singleton_self, Nat.add_eq_right, List.count_eq_zero]
      at hcount
    rw [List.dropLast_concat]
    exact ⟨hcount, List.subset_append_left _ _⟩
  · exact ⟨notMem_cut_fst _ _, fun c hc => mem_of_mem_cut_fst hc⟩

lemma opaqueText_of_parse {rawURL : Bytes} {url : URL} (h : parse rawURL = some url) :
    OpaqueText url.opaquePart := by
  simp only [parse] at h
  by_cases hcontrol : (cut hash rawURL).1.any fun c => c < 32 || c = 127
  · rw [if_pos hcontrol] at h
    cases h
  rw [if_neg hcontrol] at h
  cases hget : getScheme (cut hash rawURL).1 with
  | none =>
    rw [hget] at h
    cases h
  | some parts =>
    obtain ⟨scheme, rest⟩ := parts
    simp only [hget] at h
    split_ifs at h with hshape
    push Not at hshape
    cases h
    have hsub : (cutQuery rest).1 ⊆ (cut hash rawURL).1 := fun c hc =>
      subset_of_getSchemeFrom hget hshape.2.2 ((cutQuery_fst rest).2 hc)
    refine ⟨fun hmem => notMem_cut_fst _ _ (hsub hmem), (cutQuery_fst rest).1, ?_⟩
    intro c hc
    have hany := List.any_eq_false.1 (Bool.not_eq_true _ ▸ hcontrol) c (hsub hc)
    simpa using hany

end OlcRtc.GoUrl
