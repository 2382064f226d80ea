import OlcRtc.Lib.FormUrl

/-!
# Uniform resource identifiers

The grammar of `java.net.URI`, with literal IPv6 addresses, and with visible characters beyond
ASCII wherever an escape may stand.

An authority is taken for a server if it can be: user information, a host and a port.  The host is
an IPv4 address, a host name, or an IPv6 address in brackets, and the brackets belong to it.
Everything else that is made of the characters of registry names is an authority without a host.

**`parseUri_hierarchical`** reads back an identifier that was put together from its parts, and
`parseHostPort_host` a server from host and port.
-/

namespace OlcRtc

/-! ## Characters -/

/-- The characters that need no escape in any part. -/
def isUnreserved (c : Char) : Bool :=
  c.isAlphanum || "-_.!~*()".toList.contains c || c.toNat == 39

def isUric (c : Char) : Bool := isUnreserved c || ";/?:@&=+$,[]".toList.contains c

def isPathChar (c : Char) : Bool := isUnreserved c || ":@&=+$,;/".toList.contains c

def isUserInfoChar (c : Char) : Bool := isUnreserved c || ";:&=+$,".toList.contains c

def isRegNameChar (c : Char) : Bool := isUnreserved c || "$,;:@&=+".toList.contains c

def isHexChar (c : Char) : Bool := (hexVal c).isSome

def isOtherChar (c : Char) : Bool := 0xA0 < c.toNat && !Text.isWhitespace c

/-- Whether a text is made of some characters, escapes, and visible characters beyond ASCII. -/
def allowed (ok : Char → Bool) : Text → Bool
  | [] => true
  | '%' :: a :: b :: s => isHexChar a && isHexChar b && allowed ok s
  | c :: s => (c != '%' && (ok c || isOtherChar c)) && allowed ok s

/-! ## Parts -/

/-- The scheme: a letter, then letters, digits, `+`, `-` and `.`. -/
def isScheme : Text → Bool
  | [] => false
  | c :: s => c.isAlpha && s.all fun c => c.isAlphanum || c == '+' || c == '-' || c == '.'

/-! ### Hosts -/

def isByteNumeral (s : Text) : Bool :=
  s != [] && s.all Char.isDigit && Nat.ofDigitChars 10 s 0 ≤ 255

def isIPv4 (s : Text) : Bool :=
  (s.splitOn '.').length == 4 && (s.splitOn '.').all isByteNumeral

def isLabel (s : Text) : Bool :=
  s.all (fun c => c.isAlphanum || c == '-') && s.head?.any Char.isAlphanum && s.getLast? != some '-'

/-- The labels of a host name; the last one may be followed by a dot. -/
def hostLabels (s : Text) : List Text :=
  if (s.splitOn '.').getLast? = some [] then (s.splitOn '.').dropLast else s.splitOn '.'

/-- A host name.  If it has several labels, the last one begins with a letter. -/
def isHostname (s : Text) : Bool :=
  hostLabels s != [] && (hostLabels s).all isLabel &&
    ((hostLabels s).length == 1 ||
      (hostLabels s).getLast?.any fun label => label.head?.any Char.isAlpha)

def isHost (s : Text) : Bool := isIPv4 s || isHostname s

def isHexGroup (s : Text) : Bool := s != [] && s.length ≤ 4 && s.all isHexChar

/-- The number of bytes of groups, the last of which may be an IPv4 address. -/
def groupBytes : List Text → Option ℕ
  | [] => some 0
  | [g] => if isHexGroup g then some 2 else if isIPv4 g then some 4 else none
  | g :: gs => if isHexGroup g then (groupBytes gs).map (· + 2) else none

/-- What stands before and after the first `::`. -/
def cutDouble : Text → Option (Text × Text)
  | [] => none
  | ':' :: ':' :: s => some ([], s)
  | c :: s => (cutDouble s).map fun parts => (c :: parts.1, parts.2)

/-- The groups of one side of `::`. -/
def sideGroups (s : Text) : List Text := if s = [] then [] else s.splitOn ':'

/-- An IPv6 address: 16 bytes, or fewer with zeros for a `::`. -/
def isIPv6 (s : Text) : Bool :=
  match cutDouble s with
  | none => groupBytes (s.splitOn ':') == some 16
  | some (left, right) =>
    (sideGroups left).all isHexGroup &&
      (groupBytes (sideGroups right)).any fun n => 2 * (sideGroups left).length + n < 16

/-- What may stand in brackets: an IPv6 address, with or without the name of an interface. -/
def isIPv6Literal (s : Text) : Bool :=
  match cut '%' s with
  | (address, none) => isIPv6 address
  | (address, some scope) =>
    isIPv6 address && scope != [] && scope.all fun c => c.isAlphanum || c == '_' || c == '.'

/-! ### Authorities -/

/-- An authority.  User information, host and port are only known for a server. -/
structure Authority where
  raw : Text
  rawUserInfo : Option Text
  host : Option Text
  port : Option ℕ
deriving DecidableEq, Repr

/-- The port that follows a host: none, nothing after a colon, or a number that fits. -/
def parsePort : Text → Option (Option ℕ)
  | [] => some none
  | ':' :: ds =>
    if ds = [] then some none
    else if ds.all Char.isDigit && Nat.ofDigitChars 10 ds 0 < 2 ^ 31 then
      some (some (Nat.ofDigitChars 10 ds 0))
    else none
  | _ => none

def parseHostPort (s : Text) : Option (Text × Option ℕ) :=
  match s with
  | '[' :: r =>
    match cut ']' r with
    | (_, none) => none
    | (address, some rest) =>
      if isIPv6Literal address then
        (parsePort rest).map fun port => ('[' :: address ++ [']'], port)
      else none
  | _ =>
    if isHost (s.takeWhile (· ≠ ':')) then
      (parsePort (s.dropWhile (· ≠ ':'))).map fun port => (s.takeWhile (· ≠ ':'), port)
    else none

def parseServer (s : Text) : Option Authority :=
  match cut '@' s with
  | (_, none) => (parseHostPort s).map fun hp => ⟨s, none, some hp.1, hp.2⟩
  | (userInfo, some rest) =>
    if allowed isUserInfoChar userInfo then
      (parseHostPort rest).map fun hp => ⟨s, some userInfo, some hp.1, hp.2⟩
    else none

def parseAuthority (s : Text) : Option Authority :=
  match parseServer s with
  | some server => some server
  | none => if allowed isRegNameChar s then some ⟨s, none, none, none⟩ else none

/-! ### Identifiers -/

/-- The parts of an identifier as they stand.  One that is opaque has no path. -/
structure Uri where
  scheme : Option Text
  authority : Option Authority
  rawPath : Option Text
  rawQuery : Option Text
  rawFragment : Option Text
deriving DecidableEq, Repr

/-- The path, query and fragment are made of their characters. -/
def finishUri (scheme : Option Text) (authority : Option Authority) (path : Text)
    (query fragment : Option Text) : Option Uri :=
  if allowed isPathChar path && query.all (allowed isUric) && fragment.all (allowed isUric) then
    some ⟨scheme, authority, some path, query, fragment⟩
  else none

def parseHierarchical (scheme : Option Text) (s : Text) (query fragment : Option Text) :
    Option Uri :=
  match s with
  | '/' :: '/' :: r =>
    if r.takeWhile (· ≠ '/') = [] then
      if r = [] ∧ query = none ∧ fragment = none then none
      else finishUri scheme none r query fragment
    else
      (parseAuthority (r.takeWhile (· ≠ '/'))).bind fun authority =>
        finishUri scheme (some authority) (r.dropWhile (· ≠ '/')) query fragment
  | _ => finishUri scheme none s query fragment

/-- `URI(String)`. -/
def parseUri (input : Text) : Option Uri :=
  let (body, fragment) := cut '#' input
  let (hier, query) := cut '?' body
  let name := hier.takeWhile fun c => c ≠ '/' ∧ c ≠ ':'
  match hier.dropWhile fun c => c ≠ '/' ∧ c ≠ ':' with
  | ':' :: '/' :: s => if isScheme name then parseHierarchical (some name) ('/' :: s) query fragment
      else none
  | ':' :: s =>
    if isScheme name && s ++ query.elim [] ('?' :: ·) != [] &&
        allowed isUric (s ++ query.elim [] ('?' :: ·)) && fragment.all (allowed isUric) then
      some ⟨some name, none, none, none, fragment⟩
    else none
  | _ => parseHierarchical none hier query fragment

/-! ## Allowed texts -/

section Allowed

variable {ok : Char → Bool}

lemma allowed_append : ∀ {a b : Text}, allowed ok a = true → allowed ok b = true →
    allowed ok (a ++ b) = true := by
  intro a b ha hb
  induction a using allowed.induct with
  | case1 => exact hb
  | case2 x y s ih =>
    rw [allowed, Bool.and_eq_true] at ha
    rw [List.cons_append, List.cons_append, List.cons_append, allowed, Bool.and_eq_true]
    exact ⟨ha.1, ih ha.2⟩
  | case3 c s hc ih =>
    rw [allowed, Bool.and_eq_true] at ha
    · have hpercent : c ≠ '%' := by
        have := (Bool.and_eq_true _ _ ▸ ha.1).1
        exact bne_iff_ne.1 this
      rw [List.cons_append, allowed, Bool.and_eq_true]
      · exact ⟨ha.1, ih ha.2⟩
      · exact fun _ _ _ h => absurd h hpercent
    · exact hc

lemma allowed_of_forall : ∀ {s : Text}, (∀ c ∈ s, c ≠ '%' ∧ ok c = true) → allowed ok s = true
  | [], _ => rfl
  | c :: s, h => by
    obtain ⟨hpercent, hok⟩ := h c List.mem_cons_self
    rw [allowed, allowed_of_forall fun x hx => h x (List.mem_cons_of_mem c hx), hok]
    · simp [hpercent]
    · exact fun _ _ _ heq => absurd heq hpercent

lemma isUnreserved_of_isFormSafe (c : Char) (h : isFormSafe c = true) : isUnreserved c = true := by
  simp only [isFormSafe, Bool.or_eq_true, beq_iff_eq] at h
  rcases h with (((h | rfl) | rfl) | rfl) | rfl
  · rw [isUnreserved, h, Bool.true_or, Bool.true_or]
  all_goals rfl

lemma isUric_of_isFormSafe (c : Char) (h : isFormSafe c = true) : isUric c = true := by
  rw [isUric, isUnreserved_of_isFormSafe c h, Bool.true_or]

lemma isPathChar_of_isFormSafe (c : Char) (h : isFormSafe c = true) : isPathChar c = true := by
  rw [isPathChar, isUnreserved_of_isFormSafe c h, Bool.true_or]

/-- **Encodings are allowed** wherever the characters are that stand for themselves. -/
lemma allowed_encodeComponent (hok : ∀ c, isFormSafe c = true → ok c = true) :
    ∀ s : Text, allowed ok (encodeComponent s) = true
  | [] => rfl
  | c :: s => by
    rw [encodeComponent_cons]
    refine allowed_append ?_ (allowed_encodeComponent hok s)
    rw [encodeChar]
    split_ifs with hsafe
    · refine allowed_of_forall fun x hx => ?_
      rw [List.mem_singleton.1 hx]
      refine ⟨?_, hok c hsafe⟩
      rintro rfl
      exact absurd hsafe (by decide)
    · induction String.utf8EncodeChar c with
      | nil => rfl
      | cons b bs ih =>
        have hb := b.toNat_lt
        have hhi := (hexDigitUpper_safe (b.toNat / 16) (by omega)).2.2.2.2
        have hlo := (hexDigitUpper_safe (b.toNat % 16) (by omega)).2.2.2.2
        rw [List.flatMap_cons]
        refine allowed_append ?_ ih
        simp [percentByte, allowed, isHexChar, hhi, hlo]

end Allowed

/-! ## Identifiers that were put together -/

lemma isScheme_chars {s : Text} (h : isScheme s = true) :
    ∀ c ∈ s, c ≠ '/' ∧ c ≠ ':' ∧ c ≠ '?' ∧ c ≠ '#' := by
  have hno : ∀ c : Char, (c.isAlphanum || c == '+' || c == '-' || c == '.') = true →
      c ≠ '/' ∧ c ≠ ':' ∧ c ≠ '?' ∧ c ≠ '#' := by
    intro c hc
    refine ⟨?_, ?_, ?_, ?_⟩ <;> (rintro rfl; exact absurd hc (by decide))
  cases s with
  | nil => exact fun c hc => absurd hc List.not_mem_nil
  | cons x s =>
    rw [isScheme, Bool.and_eq_true] at h
    intro c hc
    rcases List.mem_cons.1 hc with rfl | hc
    · exact hno c (by simp [Char.isAlphanum, h.1])
    · exact hno c (List.all_eq_true.1 h.2 c hc)

lemma parseUri_scheme {scheme : Text} (hscheme : isScheme scheme = true) (r : Text) :
    parseUri (scheme ++ "://".toList ++ r)
      = parseHierarchical (some scheme) ('/' :: '/' :: (cut '?' (cut '#' r).1).1)
          (cut '?' (cut '#' r).1).2 (cut '#' r).2 := by
  have hchars := isScheme_chars hscheme
  have hfront : ∀ d, d = '?' ∨ d = '#' → d ∉ scheme ++ "://".toList := by
    grind
  have hname : ∀ c ∈ scheme, decide (c ≠ '/' ∧ c ≠ ':') = true := fun c hc =>
    decide_eq_true ⟨(hchars c hc).1, (hchars c hc).2.1⟩
  have hsplit : ∀ s : Text, scheme ++ "://".toList ++ s = scheme ++ ':' :: '/' :: '/' :: s := by
    simp
  rw [parseUri, cut_append_left (hfront '#' (Or.inr rfl))]
  dsimp only
  rw [cut_append_left (hfront '?' (Or.inl rfl)), hsplit]
  rw [List.takeWhile_append_of_pos hname, List.dropWhile_append_of_pos hname,
    List.takeWhile_cons_of_neg (by simp), List.dropWhile_cons_of_neg (by simp), List.append_nil]
  show (if isScheme scheme = true then parseHierarchical _ _ _ _ else none) = _
  rw [if_pos hscheme]

/-- **An identifier is read back from its parts.** -/
theorem parseUri_hierarchical {scheme auth path : Text} {query fragment : Option Text}
    {authority : Authority} (hscheme : isScheme scheme = true) (hauth : auth ≠ [])
    (hauthChars : ∀ c ∈ auth, c ≠ '/' ∧ c ≠ '?' ∧ c ≠ '#')
    (hauthority : parseAuthority auth = some authority)
    (hpath : path = [] ∨ ∃ s, path = '/' :: s) (hpathChars : '?' ∉ path ∧ '#' ∉ path)
    (hpathAllowed : allowed isPathChar path = true)
    (hquery : ∀ q ∈ query, '#' ∉ q ∧ allowed isUric q = true)
    (hfragment : ∀ f ∈ fragment, allowed isUric f = true) :
    parseUri (scheme ++ "://".toList ++ auth ++ path ++ follow '?' query ++ follow '#' fragment)
      = some ⟨some scheme, some authority, some path, query, fragment⟩ := by
  have hhier : '?' ∉ auth ++ path ∧ '#' ∉ auth ++ path := by
    grind
  have hbody : '#' ∉ auth ++ path ++ follow '?' query := by
    rw [List.mem_append, not_or]
    refine ⟨hhier.2, ?_⟩
    cases query with
    | none => exact List.not_mem_nil
    | some q =>
      rw [follow, Option.elim_some, List.mem_cons, not_or]
      exact ⟨by decide, (hquery q rfl).1⟩
  have hslash : ∀ c ∈ auth, decide (c ≠ '/') = true := fun c hc =>
    decide_eq_true (hauthChars c hc).1
  have htake : (auth ++ path).takeWhile (· ≠ '/') = auth := by
    rw [List.takeWhile_append_of_pos hslash]
    rcases hpath with rfl | ⟨s, rfl⟩
    · exact List.append_nil auth
    · rw [List.takeWhile_cons_of_neg (by simp), List.append_nil]
  have hdrop : (auth ++ path).dropWhile (· ≠ '/') = path := by
    rw [List.dropWhile_append_of_pos hslash]
    rcases hpath with rfl | ⟨s, rfl⟩
    · rfl
    · rw [List.dropWhile_cons_of_neg (by simp)]
  have hfinish : (allowed isPathChar path && query.all (allowed isUric) &&
      fragment.all (allowed isUric)) = true := by
    rw [hpathAllowed, Bool.true_and, Bool.and_eq_true, Option.all_eq_true, Option.all_eq_true]
    exact ⟨fun q hq => (hquery q hq).2, hfragment⟩
  have hsplit : scheme ++ "://".toList ++ auth ++ path ++ follow '?' query ++ follow '#' fragment
      = scheme ++ "://".toList ++ (auth ++ path ++ follow '?' query ++ follow '#' fragment) := by
    simp only [List.append_assoc]
  rw [hsplit, parseUri_scheme hscheme, cut_follow hbody]
  dsimp only
  rw [cut_follow hhier.1, parseHierarchical, htake, hdrop, if_neg hauth, hauthority,
    Option.bind_some, finishUri, if_pos hfinish]

def authorityText (r : Text) : Text := r.takeWhile fun c => c ≠ '/' ∧ c ≠ '?' ∧ c ≠ '#'

lemma authorityText_chars (r : Text) : ∀ c ∈ authorityText r, c ≠ '/' ∧ c ≠ '?' ∧ c ≠ '#' := by
  intro c hc
  have hkept := List.mem_takeWhile_imp hc
  simpa using hkept

lemma head_authorityText (r : Text) {c : Char} (h : c ≠ '/' ∧ c ≠ '?' ∧ c ≠ '#') :
    (authorityText r).head? = some c ↔ r.head? = some c := by
  cases r with
  | nil => exact Iff.rfl
  | cons x r =>
    rw [authorityText, List.takeWhile_cons]
    split_ifs with hx
    · exact Iff.rfl
    · grind

/-- **The authority of an identifier** is that of its text. -/
lemma authority_of_parseUri {scheme r : Text} {uri : Uri} (hscheme : isScheme scheme = true)
    (hne : authorityText r ≠ []) (h : parseUri (scheme ++ "://".toList ++ r) = some uri) :
    ∃ authority, parseAuthority (authorityText r) = some authority ∧
      uri.authority = some authority := by
  have htext : (cut '?' (cut '#' r).1).1.takeWhile (· ≠ '/') = authorityText r := by
    rw [cut, cut, List.takeWhile_takeWhile, List.takeWhile_takeWhile, authorityText]
    congr 1
    funext c
    simp [Bool.and_assoc]
  rw [parseUri_scheme hscheme, parseHierarchical, htext, if_neg hne] at h
  obtain ⟨authority, hauthority, hfinish⟩ := Option.bind_eq_some_iff.1 h
  refine ⟨authority, hauthority, ?_⟩
  rw [finishUri] at hfinish
  split_ifs at hfinish
  cases hfinish
  rfl

/-! ## Servers that were put together -/

lemma mem_of_mem_splitOn {d c : Char} {s : Text} (h : c ∈ s) :
    c = d ∨ ∃ part ∈ s.splitOn d, c ∈ part := by
  have hparts : ∀ parts : List Text, c ∈ [d].intercalate parts →
      c = d ∨ ∃ part ∈ parts, c ∈ part := by
    intro parts
    induction parts with
    | nil => intro hc; cases hc
    | cons part parts ih =>
      intro hc
      cases parts with
      | nil =>
        refine Or.inr ⟨part, List.mem_cons_self, ?_⟩
        simpa [List.intercalate] using hc
      | cons next parts =>
        have hc' : c ∈ part ∨ c = d ∨ c ∈ [d].intercalate (next :: parts) := by
          simpa [List.intercalate, List.intersperse] using hc
        rcases hc' with hc | hc | hc
        · exact Or.inr ⟨part, List.mem_cons_self, hc⟩
        · exact Or.inl hc
        · exact (ih hc).imp id fun ⟨p, hp, hcp⟩ => ⟨p, List.mem_cons_of_mem part hp, hcp⟩
  exact hparts _ ((List.intercalate_splitOn d).symm ▸ h)

lemma isHost_chars {s : Text} (h : isHost s = true) :
    s ≠ [] ∧ ∀ c ∈ s, c.isAlphanum = true ∨ c = '-' ∨ c = '.' := by
  rw [isHost, Bool.or_eq_true] at h
  refine ⟨?_, fun c hc => ?_⟩
  · rintro rfl
    rcases h with h | h <;> exact absurd h (by decide)
  · rcases mem_of_mem_splitOn (d := '.') hc with rfl | ⟨part, hpart, hcpart⟩
    · exact Or.inr (Or.inr rfl)
    · rcases h with h | h
      · rw [isIPv4, Bool.and_eq_true] at h
        have hbyte := List.all_eq_true.1 h.2 part hpart
        rw [isByteNumeral, Bool.and_eq_true, Bool.and_eq_true] at hbyte
        have hdigit := List.all_eq_true.1 hbyte.1.2 c hcpart
        exact Or.inl (by simp [Char.isAlphanum, hdigit])
      · rw [isHostname, Bool.and_eq_true, Bool.and_eq_true] at h
        have hlabel : isLabel part = true := by
          refine List.all_eq_true.1 h.1.2 part ?_
          unfold hostLabels
          split_ifs with hlast
          · -- the last part is empty, so it has no characters
            rw [← List.dropLast_append_getLast? [] hlast, List.mem_append,
              List.mem_singleton] at hpart
            rcases hpart with hpart | rfl
            · exact hpart
            · cases hcpart
          · exact hpart
        rw [isLabel, Bool.and_eq_true, Bool.and_eq_true] at hlabel
        have hchar := List.all_eq_true.1 hlabel.1.1 c hcpart
        rw [Bool.or_eq_true, beq_iff_eq] at hchar
        exact hchar.imp id Or.inl

lemma decimal_chars (n : ℕ) : (decimal n).all Char.isDigit = true :=
  List.all_eq_true.2 fun _ hc => Nat.isDigit_of_mem_toDigits (by decide) (by decide) hc

/-- **A host and a port are read back.** -/
lemma parseHostPort_host {h : Text} (hhost : isHost h = true) {n : ℕ} (hn : n < 2 ^ 31) :
    parseHostPort (h ++ ':' :: decimal n) = some (h, some n) := by
  obtain ⟨hne, hchars⟩ := isHost_chars hhost
  have hcolon : ':' ∉ h := by
    grind
  obtain ⟨c, rest, rfl⟩ := List.exists_cons_of_ne_nil hne
  have hbracket : c ≠ '[' := by
    rintro rfl
    rcases hchars _ List.mem_cons_self with hc | hc | hc <;> exact absurd hc (by decide)
  have hval : Nat.ofDigitChars 10 (decimal n) 0 = n :=
    Nat.ofDigitChars_toDigits (by decide) (by decide)
  have hport : parsePort (':' :: decimal n) = some (some n) := by
    rw [parsePort, if_neg (by exact Nat.toDigits_ne_nil), if_pos, hval]
    rw [decimal_chars, hval, Bool.true_and]
    exact decide_eq_true hn
  rw [parseHostPort]
  · rw [Text.takeWhile_append_of_not_mem hcolon, Text.dropWhile_append_of_not_mem hcolon,
      if_pos hhost, hport]
    rfl
  · intro r hr
    exact absurd (List.cons.inj hr).1 hbracket

/-! ## Servers that are read -/

lemma splitOn_cons_of_ne {c d : Char} (h : c ≠ d) (s : Text) :
    ∃ part parts, (c :: s).splitOn d = (c :: part) :: parts := by
  obtain ⟨part, parts, hsplit⟩ := List.exists_cons_of_ne_nil (List.splitOn_ne_nil d s)
  refine ⟨part, parts, ?_⟩
  rw [List.splitOn_cons_eq_if_modifyHead, hsplit, if_neg (by simpa using h)]
  rfl

lemma isHexGroup_bracket (g : Text) : isHexGroup ('[' :: g) = false := by
  rw [isHexGroup, List.all_cons, show isHexChar '[' = false from rfl, Bool.false_and,
    Bool.and_false]

lemma isIPv4_bracket (g : Text) : isIPv4 ('[' :: g) = false := by
  obtain ⟨part, parts, hsplit⟩ := splitOn_cons_of_ne (by decide : '[' ≠ '.') g
  rw [isIPv4, hsplit, List.all_cons, isByteNumeral, List.all_cons,
    show Char.isDigit '[' = false from rfl]
  simp

lemma isIPv6_bracket (s : Text) : isIPv6 ('[' :: s) = false := by
  have hdouble : cutDouble ('[' :: s) = (cutDouble s).map fun parts => ('[' :: parts.1, parts.2) :=
    rfl
  rw [isIPv6, hdouble]
  cases cutDouble s with
  | none =>
    obtain ⟨g, gs, hsplit⟩ := splitOn_cons_of_ne (by decide : '[' ≠ ':') s
    show (groupBytes (('[' :: s).splitOn ':') == some 16) = false
    rw [hsplit]
    cases gs with
    | nil =>
      rw [groupBytes, isHexGroup_bracket, isIPv4_bracket]
      rfl
    | cons next gs =>
      rw [groupBytes, isHexGroup_bracket]
      · rfl
      · exact List.cons_ne_nil _ _
  | some parts =>
    obtain ⟨g, gs, hsplit⟩ := splitOn_cons_of_ne (by decide : '[' ≠ ':') parts.1
    show ((sideGroups ('[' :: parts.1)).all isHexGroup && _) = false
    rw [sideGroups, if_neg (List.cons_ne_nil _ _), hsplit, List.all_cons, isHexGroup_bracket,
      Bool.false_and, Bool.false_and]

lemma isIPv6Literal_bracket (s : Text) : isIPv6Literal ('[' :: s) = false := by
  have hcut : cut '%' ('[' :: s) = ('[' :: (cut '%' s).1, (cut '%' s).2) :=
    cut_append_left (a := ['[']) (by decide)
  rw [isIPv6Literal, hcut]
  cases (cut '%' s).2 with
  | none => exact isIPv6_bracket _
  | some scope =>
    show (isIPv6 ('[' :: (cut '%' s).1) && _ && _) = false
    rw [isIPv6_bracket, Bool.false_and, Bool.false_and]

lemma colon_mem_of_isIPv6 {s : Text} (h : isIPv6 s = true) : ':' ∈ s := by
  by_contra hcolon
  have hdouble : ∀ s : Text, ':' ∉ s → cutDouble s = none := by
    intro s
    induction s with
    | nil => exact fun _ => rfl
    | cons c s ih =>
      intro hs
      rw [List.mem_cons, not_or] at hs
      rw [cutDouble, ih hs.2]
      · rfl
      · rintro _ rfl _
        exact hs.1 rfl
  rw [isIPv6, hdouble s hcolon] at h
  dsimp only at h
  rw [List.splitOn_eq_singleton hcolon, groupBytes] at h
  split_ifs at h <;> cases h

lemma colon_mem_of_isIPv6Literal {s : Text} (h : isIPv6Literal s = true) : ':' ∈ s := by
  have haddress : isIPv6 (cut '%' s).1 = true := by
    rw [isIPv6Literal] at h
    split at h
    · next heq => rw [heq]; exact h
    · grind
  exact (List.takeWhile_sublist _).mem (colon_mem_of_isIPv6 haddress)

lemma parseHostPort_eq_some {s host : Text} {port : Option ℕ}
    (h : parseHostPort s = some (host, port)) :
    (s.head? = some '[' ∧ host.head? = some '[' ∧ ':' ∈ host) ∨
      (s.head? ≠ some '[' ∧ isHost host = true) := by
  by_cases hbracket : ∃ r, s = '[' :: r
  · obtain ⟨r, rfl⟩ := hbracket
    rw [parseHostPort] at h
    split at h
    · cases h
    · split_ifs at h with hliteral
      obtain ⟨_, -, hhost⟩ := Option.map_eq_some_iff.1 h
      cases hhost
      exact Or.inl ⟨rfl, rfl, List.mem_cons_of_mem _
        (List.mem_append_left _ (colon_mem_of_isIPv6Literal hliteral))⟩
  · rw [parseHostPort] at h
    · split_ifs at h with hhost
      obtain ⟨_, -, heq⟩ := Option.map_eq_some_iff.1 h
      cases heq
      exact Or.inr ⟨fun hhead => hbracket (List.head?_eq_some_iff.1 hhead), hhost⟩
    · exact fun r hr => hbracket ⟨r, hr⟩

lemma parseHostPort_chars {s host : Text} {port : Option ℕ}
    (h : parseHostPort s = some (host, port)) : ∀ c ∈ host, c ∈ s ∨ c = ']' := by
  intro c hc
  by_cases hbracket : ∃ r, s = '[' :: r
  · obtain ⟨r, rfl⟩ := hbracket
    rw [parseHostPort] at h
    split at h
    · cases h
    · next address rest hcut =>
        split_ifs at h
        obtain ⟨_, -, hhost⟩ := Option.map_eq_some_iff.1 h
        cases hhost
        have haddress : address = r.takeWhile (· ≠ ']') := (congrArg Prod.fst hcut).symm
        rcases List.mem_cons.1 hc with rfl | hc
        · exact Or.inl List.mem_cons_self
        · rcases List.mem_append.1 hc with hc | hc
          · rw [haddress] at hc
            exact Or.inl (List.mem_cons_of_mem _ ((List.takeWhile_sublist _).mem hc))
          · exact Or.inr (List.mem_singleton.1 hc)
  · rw [parseHostPort] at h
    · split_ifs at h
      obtain ⟨_, -, heq⟩ := Option.map_eq_some_iff.1 h
      cases heq
      exact Or.inl ((List.takeWhile_sublist _).mem hc)
    · exact fun r hr => hbracket ⟨r, hr⟩

lemma parseHostPort_brackets (s : Text) : parseHostPort ('[' :: '[' :: s) = none := by
  have hcut : cut ']' ('[' :: s) = ('[' :: (cut ']' s).1, (cut ']' s).2) :=
    cut_append_left (a := ['[']) (by decide)
  rw [parseHostPort, hcut]
  cases (cut ']' s).2 with
  | none => rfl
  | some rest =>
    show (if isIPv6Literal _ = true then _ else none) = none
    rw [isIPv6Literal_bracket]
    rfl

lemma server_of_parseUri {scheme user rest host : Text} {uri : Uri}
    (hscheme : isScheme scheme = true)
    (huser : ∀ c ∈ user, c ≠ '@' ∧ c ≠ '/' ∧ c ≠ '?' ∧ c ≠ '#')
    (hallowed : allowed isUserInfoChar user = true)
    (h : parseUri (scheme ++ "://".toList ++ (user ++ '@' :: rest)) = some uri)
    (hhost : uri.authority.bind Authority.host = some host) :
    parseHostPort (authorityText rest) = some (host, uri.authority.bind Authority.port) := by
  have htext : authorityText (user ++ '@' :: rest) = user ++ '@' :: authorityText rest := by
    rw [authorityText, List.takeWhile_append_of_pos fun c hc => decide_eq_true (huser c hc).2,
      List.takeWhile_cons_of_pos (by decide)]
    rfl
  obtain ⟨authority, hparsed, hauthority⟩ :=
    authority_of_parseUri hscheme (by rw [htext]; simp) h
  rw [hauthority, Option.bind_some] at hhost ⊢
  rw [htext, parseAuthority, parseServer, cut_append fun hmem => (huser _ hmem).1 rfl] at hparsed
  dsimp only at hparsed
  rw [if_pos hallowed] at hparsed
  cases hserver : parseHostPort (authorityText rest) with
  | none =>
    grind
  | some hp =>
    grind

end OlcRtc
