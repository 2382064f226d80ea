import Mathlib.Data.Bool.AllAny
import OlcRtc.Client.Profile
import OlcRtc.Lib.Base64

/-!
# What a subscription holds

A subscription is a text with one link a line, or the Base64 encoding of such a text.
`SubscriptionPayload.parse` tells the two apart by trying: what does not hold a single supported
link is decoded and read again.

So an encoding must never be taken for a text of links itself.  It is one line without a colon, and
a link needs its scheme.  What is left are encodings that *are* a scheme, such as `trojan`; their
last character would have bits that no encoder sets.  **`base64_transparent`** follows: a content
is read from each of its four encodings as it is read by itself.

The links themselves are read by `OlcrtcUri` and `StandardUri`, which may be any functions here.
-/

namespace OlcRtc.Client

/-- `ImportedProfile`. -/
inductive ImportedProfile (O S : Type)
  | olcrtc (value : O)
  | standard (value : S)
deriving DecidableEq

/-- `OlcrtcUri.parse` and `StandardUri.parse`.  An exception may come without a message. -/
structure LinkParsers (O S : Type) where
  olcrtc : Text → Except (Option String) O
  standard : Text → Except (Option String) S

/-- `SubscriptionProfiles`. -/
structure SubscriptionProfiles (P : Type) where
  profiles : List P
  rejectedProfiles : List String
deriving DecidableEq

/-- `String.lineSequence`: a line ends with a line feed, a carriage return, or both. -/
def lineSequence : Text → List Text
  | [] => [[]]
  | '\r' :: '\n' :: s => [] :: lineSequence s
  | c :: s =>
    if c = '\n' ∨ c = '\r' then [] :: lineSequence s
    else
      match lineSequence s with
      | [] => [[c]]
      | line :: lines => (c :: line) :: lines

/-- The schemes that `StandardUri` reads. -/
def standardSchemes : List Text :=
  ["vless".toList, "vmess".toList, "trojan".toList, "ss".toList]

section Parse

variable {O S : Type} (pf : Platform) (links : LinkParsers O S)

def ProfileUri.parse (raw : Text) : Except (Option String) (ImportedProfile O S) :=
  let scheme := pf.lowercase (Text.substringBefore ':' raw)
  if scheme = "olcrtc".toList then .olcrtc <$> links.olcrtc raw
  else if scheme ∈ standardSchemes then .standard <$> links.standard raw
  else .error (some "Unsupported profile scheme")

namespace SubscriptionPayload

def maxDecodedBytes : ℕ := 4 * 1024 * 1024

def maxProfileCount : ℕ := 10000

def maxProfileLength : ℕ := 16 * 1024

/-- One line: the profiles and the rejected lines so far get one more, unless the line is empty or
a comment. -/
def parseLine (found : List (ImportedProfile O S) × List String) (line : Text × ℕ) :
    Except String (List (ImportedProfile O S) × List String) :=
  let value := Text.trim line.1
  if value = [] ∨ value.head? = some '#' then .ok found
  else do
    ensure (Text.utf16Length value ≤ maxProfileLength)
      ("Profile line " ++ toString (line.2 + 1) ++ " is too long")
    ensure (found.1.length + found.2.length < maxProfileCount) "Subscription has too many profiles"
    match ProfileUri.parse pf links value with
    | .ok profile => .ok (found.1 ++ [profile], found.2)
    | .error message =>
      .ok (found.1, found.2 ++
        ["line " ++ toString (line.2 + 1) ++ ": " ++ message.getD "unsupported profile"])

def parseLines [DecidableEq O] [DecidableEq S] (raw : Text) :
    Except String (SubscriptionProfiles (ImportedProfile O S)) := do
  let (profiles, rejected) ← (lineSequence raw).zipIdx.foldlM (parseLine pf links) ([], [])
  ensure (profiles ≠ [] ∨ rejected = []) "Subscription has no supported profiles"
  return ⟨profiles.eraseDups, rejected⟩

def decodeUtf8 (value : Bytes) (message : String) : Except String Text :=
  match OlcRtc.decodeUtf8 value with
  | some text => .ok text
  | none => .error message

def decodeBase64 (value : Text) (maxBytes : ℕ) (message : String) : Except String Bytes := do
  ensure (value ≠ []) message
  ensure (Text.utf16Length value ≤ (maxBytes + 2) / 3 * 4) "Decoded subscription is too large"
  let normalized := value.map toStandardChar
  match decodeGroups (padBase64 (Text.utf16Length normalized) normalized) with
  | none => .error message
  | some bytes => do
    ensure (bytes.length ≤ maxBytes) "Decoded subscription is too large"
    return bytes

/-- `parse`: a payload that is not a text of links is decoded; if it cannot be, the error is that
of the text. -/
def parse [DecidableEq O] [DecidableEq S] (payload : Bytes) :
    Except String (SubscriptionProfiles (ImportedProfile O S)) := do
  ensure (payload.length ≤ maxDecodedBytes) "Subscription payload is too large"
  let plain ← decodeUtf8 payload "Subscription payload is not valid UTF-8"
  match parseLines pf links plain with
  | .ok result => .ok result
  | .error plainError =>
    match decodeBase64 (Text.trim plain) maxDecodedBytes "Invalid subscription Base64" with
    | .error _ => .error plainError
    | .ok decoded => do
      let text ← decodeUtf8 decoded "Decoded subscription is not valid UTF-8"
      parseLines pf links text

end SubscriptionPayload

end Parse

namespace SubscriptionPayload

/-! ## Encodings -/

/-- The encodings of a content: in either alphabet, padded or not. -/
def encodings (content : Bytes) : List Text :=
  [encodeBase64 content, (encodeBase64 content).map toUrlChar,
    (encodeBase64 content).filter (· ≠ '='), encodeBase64Url content]

lemma length_encodeBase64 : ∀ bs : Bytes, (encodeBase64 bs).length = (bs.length + 2) / 3 * 4
  | [] => rfl
  | [_] => by simp [encodeBase64]
  | [_, _] => by simp [encodeBase64]
  | a :: b :: c :: rest => by
    simp only [encodeBase64, List.length_cons, length_encodeBase64 rest]
    omega

/-- Without padding, the last character of a group of two stands for bits of which four are not
set. -/
lemma unpadded_length : ∀ bs : Bytes, ∀ u, u = (encodeBase64 bs).filter (· ≠ '=') →
    u.length % 4 = 0 ∨ u.length % 4 = 3 ∨
      u.length % 4 = 2 ∧ ∃ bits < 4, u.getLast? = some (base64Char (bits * 16))
  | [], _, rfl => .inl rfl
  | [a], _, rfl => by
    have ha := a.toNat_lt
    have h₁ := (base64Char_ne (a.toNat / 4) (by omega)).1
    have h₂ := (base64Char_ne (a.toNat % 4 * 16) (by omega)).1
    refine .inr (.inr ⟨by simp [encodeBase64, h₁, h₂], a.toNat % 4, Nat.mod_lt _ (by decide), ?_⟩)
    simp [encodeBase64, h₁, h₂]
  | [a, b], _, rfl => by
    have ha := a.toNat_lt
    have hb := b.toNat_lt
    have h₁ := (base64Char_ne (a.toNat / 4) (by omega)).1
    have h₂ := (base64Char_ne (a.toNat % 4 * 16 + b.toNat / 16) (by omega)).1
    have h₃ := (base64Char_ne (b.toNat % 16 * 4) (by omega)).1
    exact .inr (.inl (by simp [encodeBase64, h₁, h₂, h₃]))
  | a :: b :: c :: rest, _, rfl => by
    have ha := a.toNat_lt
    have hb := b.toNat_lt
    have hc := c.toNat_lt
    have h₁ := (base64Char_ne (a.toNat / 4) (by omega)).1
    have h₂ := (base64Char_ne (a.toNat % 4 * 16 + b.toNat / 16) (by omega)).1
    have h₃ := (base64Char_ne (b.toNat % 16 * 4 + c.toNat / 64) (by omega)).1
    have h₄ := (base64Char_ne (c.toNat % 64) (by omega)).1
    have ih := unpadded_length rest _ rfl
    simp only [encodeBase64, ne_eq, h₁, h₂, h₃, h₄, not_false_eq_true, decide_true,
      List.filter_cons_of_pos, List.length_cons, Nat.add_assoc, Nat.add_mod_right]
    refine ih.imp_right (Or.imp_right ?_)
    rintro ⟨hlength, bits, hbits, hlast⟩
    refine ⟨hlength, bits, hbits, ?_⟩
    simp only [List.getLast?_cons, hlast, Option.getD_some]

def base64Alphabet : Text := '=' :: '-' :: '_' :: (List.range 64).map base64Char

/-- What the four encodings have in common. -/
structure Encodes (content : Bytes) (e : Text) : Prop where
  chars : ∀ c ∈ e, c ∈ base64Alphabet
  pad : padBase64 e.length (e.map toStandardChar) = encodeBase64 content
  length : e.length % 4 = 0 ∨ e.length % 4 = 3 ∨
    e.length % 4 = 2 ∧ ∃ bits < 4, e.getLast? = some (base64Char (bits * 16))

lemma mem_base64Alphabet {content : Bytes} {c : Char} (h : c ∈ encodeBase64 content) :
    c ∈ base64Alphabet ∧ toStandardChar c = c := by
  have hall : ∀ n < 64, base64Char n ∈ base64Alphabet ∧
    toStandardChar (base64Char n) = base64Char n := by decide
  rcases encodeBase64_chars content c h with rfl | ⟨n, hn, rfl⟩
  · decide
  · exact hall n hn

lemma encodes_padded (content : Bytes) : Encodes content (encodeBase64 content) := by
  have hfull : (encodeBase64 content).length % 4 = 0 := by
    rw [length_encodeBase64]
    exact Nat.mul_mod_left _ 4
  refine ⟨fun c hc => (mem_base64Alphabet hc).1, ?_, .inl hfull⟩
  rw [List.map_congr_left fun c hc => (mem_base64Alphabet hc).2, List.map_id', padBase64, hfull]
  exact List.append_nil _

lemma encodes_unpadded (content : Bytes) :
    Encodes content ((encodeBase64 content).filter (· ≠ '=')) := by
  refine ⟨fun c hc => (mem_base64Alphabet (List.mem_filter.1 hc).1).1, ?_,
    unpadded_length content _ rfl⟩
  rw [List.map_congr_left fun c hc => (mem_base64Alphabet (List.mem_filter.1 hc).1).2,
    List.map_id', padBase64_filter]

lemma Encodes.map_toUrlChar {content : Bytes} {e : Text} (h : Encodes content e) :
    Encodes content (e.map toUrlChar) := by
  have hurl : ∀ c ∈ base64Alphabet, toUrlChar c ∈ base64Alphabet ∧
    toStandardChar (toUrlChar c) = toStandardChar c :=
    List.all_iff_forall_prop.1 (by decide +kernel)
  have hlast : ∀ bits < 4, toUrlChar (base64Char (bits * 16)) = base64Char (bits * 16) := by decide
  refine ⟨fun c hc => ?_, ?_, ?_⟩
  · obtain ⟨d, hd, rfl⟩ := List.mem_map.1 hc
    exact (hurl d (h.chars d hd)).1
  · rw [← h.pad, List.length_map, List.map_map]
    exact congrArg _ (List.map_congr_left fun c hc => (hurl c (h.chars c hc)).2)
  · rw [List.length_map]
    refine h.length.imp_right (Or.imp_right fun ⟨hlength, bits, hbits, heq⟩ => ?_)
    exact ⟨hlength, bits, hbits, by rw [List.getLast?_map, heq, Option.map_some, hlast bits hbits]⟩

lemma encodes_of_mem {content : Bytes} {e : Text} (he : e ∈ encodings content) :
    Encodes content e := by
  simp only [encodings, List.mem_cons, List.not_mem_nil, or_false] at he
  rcases he with rfl | rfl | rfl | rfl
  · exact encodes_padded content
  · exact (encodes_padded content).map_toUrlChar
  · exact encodes_unpadded content
  · exact (encodes_unpadded content).map_toUrlChar

namespace Encodes

variable {content : Bytes} {e : Text}

lemma length_le (h : Encodes content e) : e.length ≤ (content.length + 2) / 3 * 4 := by
  rw [← length_encodeBase64, ← h.pad, padBase64, List.length_append, List.length_map]
  exact Nat.le_add_right _ _

lemma eq_nil_iff (h : Encodes content e) : e = [] ↔ content = [] := by
  constructor
  · rintro rfl
    have hpad := congrArg List.length h.pad
    rw [length_encodeBase64] at hpad
    have hzero : content.length = 0 := by
      simp only [padBase64, List.length_append, List.length_replicate, List.map_nil,
        List.length_nil] at hpad
      omega
    exact List.length_eq_zero_iff.1 hzero
  · rintro rfl
    have hlength := h.length_le
    exact List.length_eq_zero_iff.1 (by simpa using hlength)

lemma ascii (h : Encodes content e) : ∀ c ∈ e, c.toNat < 128 := by
  have hall : ∀ c ∈ base64Alphabet, c.toNat < 128 :=
    List.all_iff_forall_prop.1 (by decide +kernel)
  exact fun c hc => hall c (h.chars c hc)

lemma utf16Length_eq (h : Encodes content e) : Text.utf16Length e = e.length :=
  Text.utf16Length_of_forall fun c hc => (h.ascii c hc).trans (by decide)

/-- Encodings are not schemes: `trojan` and the others would have bits set that are not. -/
lemma not_scheme (h : Encodes content e) (pf : Platform) :
    pf.lowercase e ≠ "olcrtc".toList ∧ pf.lowercase e ∉ standardSchemes := by
  have hlast : ∀ bits < 4, (base64Char (bits * 16)).toLower ∉ ['c', 'n', 's'] := by decide
  have hne : ∀ s ∈ "olcrtc".toList :: standardSchemes, e.map Char.toLower ≠ s := by
    rintro s hs rfl
    have hlength := h.length
    have hall : ∀ s ∈ "olcrtc".toList :: standardSchemes, s.length % 4 = 1 ∨
      s.length % 4 = 2 ∧ s.getLast?.any (· ∈ ['c', 'n', 's']) := by decide +kernel
    have hs := hall _ hs
    rw [List.length_map] at hs
    rcases hs with hone | ⟨htwo, hs⟩
    · omega
    · obtain ⟨-, bits, hbits, heq⟩ : e.length % 4 = 2 ∧ _ := by
        rcases hlength with h | h | h
        · omega
        · omega
        · exact h
      rw [List.getLast?_map, heq, Option.map_some, Option.any_some, decide_eq_true_eq] at hs
      exact hlast bits hbits hs
  rw [pf.lowercase_of_ascii e h.ascii]
  exact ⟨hne _ List.mem_cons_self, fun hmem => hne _ (List.mem_cons_of_mem _ hmem) rfl⟩

end Encodes

/-! ## Reading -/

section Reading

variable {O S : Type} [DecidableEq O] [DecidableEq S] (pf : Platform) (links : LinkParsers O S)
  {content : Bytes} {e : Text}

lemma lineSequence_eq {s : Text} (h : ∀ c ∈ s, c ≠ '\n' ∧ c ≠ '\r') : lineSequence s = [s] := by
  induction s with
  | nil => rfl
  | cons c s ih =>
    obtain ⟨hn, hr⟩ := h c List.mem_cons_self
    rw [lineSequence, if_neg (by simp [hn, hr]), ih fun d hd => h d (List.mem_cons_of_mem c hd)]
    rintro - rfl
    exact absurd rfl hr

/-- An encoding is not taken for a text of links. -/
lemma parseLines_encoding (h : Encodes content e) (hne : e ≠ []) :
    ∃ err, parseLines pf links e = .error err := by
  have hall : ∀ c ∈ base64Alphabet, (c ≠ '\n' ∧ c ≠ '\r') ∧ Text.isWhitespace c = false ∧
    c ≠ '#' ∧ c ≠ ':' := List.all_iff_forall_prop.1 (by decide +kernel)
  have hlines : lineSequence e = [e] := lineSequence_eq fun c hc => (hall c (h.chars c hc)).1
  have htrim : Text.trim e = e := Text.trim_of_forall fun c hc => (hall c (h.chars c hc)).2.1
  have hcomment : ¬(e = [] ∨ e.head? = some '#') := by
    rintro (hnil | hhead)
    · exact hne hnil
    · exact (hall '#' (h.chars '#' (List.mem_of_mem_head? hhead))).2.2.1 rfl
  have hcolon : ':' ∉ e := fun hmem => (hall ':' (h.chars ':' hmem)).2.2.2 rfl
  have hlink : ProfileUri.parse pf links e = .error (some "Unsupported profile scheme") := by
    obtain ⟨holcrtc, hstandard⟩ := h.not_scheme pf
    rw [ProfileUri.parse, Text.substringBefore_of_not_mem hcolon]
    simp only [holcrtc, hstandard, if_false]
  by_cases hlong : Text.utf16Length e ≤ maxProfileLength
  · refine ⟨"Subscription has no supported profiles", ?_⟩
    simp [parseLines, hlines, parseLine, htrim, hcomment, hlink, hlong, ensure, maxProfileCount,
      bind, Except.bind, pure, Except.pure]
  · refine ⟨"Profile line " ++ toString (0 + 1) ++ " is too long", ?_⟩
    simp [parseLines, hlines, parseLine, htrim, hcomment, hlong, ensure, bind, Except.bind]

lemma length_encodeUtf8_of_ascii {s : Text} (h : ∀ c ∈ s, c.toNat < 128) :
    (encodeUtf8 s).length = s.length := by
  induction s with
  | nil => rfl
  | cons c s ih =>
    have hsize : c.utf8Size = 1 :=
      Char.utf8Size_eq_one_iff.2 (Nat.le_of_lt_succ (h c List.mem_cons_self))
    rw [encodeUtf8_cons, List.length_append, String.length_utf8EncodeChar, hsize,
      ih fun d hd => h d (List.mem_cons_of_mem c hd), List.length_cons, Nat.add_comm]

lemma decodeBase64_encoding (h : Encodes content e) (hne : e ≠ [])
    (hsize : content.length ≤ maxDecodedBytes) (message : String) :
    decodeBase64 e maxDecodedBytes message = .ok content := by
  have hlength : Text.utf16Length (e.map toStandardChar) = e.length := by
    have hall : ∀ c ∈ base64Alphabet, (toStandardChar c).toNat < 0x10000 :=
      List.all_iff_forall_prop.1 (by decide +kernel)
    rw [Text.utf16Length_of_forall, List.length_map]
    intro c hc
    obtain ⟨d, hd, rfl⟩ := List.mem_map.1 hc
    exact hall d (h.chars d hd)
  have hbound : e.length ≤ (maxDecodedBytes + 2) / 3 * 4 :=
    h.length_le.trans (Nat.mul_le_mul_right 4 (Nat.div_le_div_right (Nat.add_le_add_right hsize 2)))
  simp [decodeBase64, ensure, hne, h.utf16Length_eq, hbound, hlength, h.pad,
    decodeGroups_encodeBase64, hsize, bind, Except.bind, pure, Except.pure]

/-- **Base64 is transparent** for contents of at most 3 MiB. -/
theorem base64_transparent {text : Text} {result : SubscriptionProfiles (ImportedProfile O S)}
    (hsize : content.length ≤ 3 * 1024 * 1024)
    (htext : OlcRtc.decodeUtf8 content = some text)
    (hplain : parseLines pf links text = .ok result) (he : e ∈ encodings content) :
    parse pf links (encodeUtf8 e) = parse pf links content ∧
      parse pf links content = .ok result := by
  have h := encodes_of_mem he
  have hmax : content.length ≤ maxDecodedBytes := hsize.trans (by decide)
  have hlength : (encodeUtf8 e).length ≤ maxDecodedBytes := by
    rw [length_encodeUtf8_of_ascii h.ascii]
    refine h.length_le.trans ?_
    show _ ≤ 4 * 1024 * 1024
    omega
  have hcontent : parse pf links content = .ok result := by
    simp [parse, ensure, hmax, decodeUtf8, htext, hplain, bind, Except.bind]
  refine ⟨?_, hcontent⟩
  by_cases hne : e = []
  · -- the encoding of nothing is nothing
    rw [hne, h.eq_nil_iff.1 hne]
    rfl
  · obtain ⟨err, herr⟩ := parseLines_encoding pf links h hne
    have hall : ∀ c ∈ base64Alphabet, Text.isWhitespace c = false :=
      List.all_iff_forall_prop.1 (by decide +kernel)
    have htrim : Text.trim e = e := Text.trim_of_forall fun c hc => hall c (h.chars c hc)
    rw [hcontent]
    simp [parse, ensure, hlength, decodeUtf8, decodeUtf8_encodeUtf8, herr, htrim,
      decodeBase64_encoding h hne hmax, htext, hplain, bind, Except.bind]

end Reading

/-- A comment, a link and a line that is rejected, from the encoding in the URL alphabet. -/
theorem base64_transparent_three :
    let content := encodeUtf8 "# mine\ntrojan:a\nhttp:b".toList
    let links : LinkParsers Text Text := ⟨.ok, .ok⟩
    parse plainPlatform links (encodeUtf8 (encodeBase64Url content))
        = parse plainPlatform links content ∧
      parse plainPlatform links content
        = .ok ⟨[.standard "trojan:a".toList], ["line 3: Unsupported profile scheme"]⟩ :=
  base64_transparent plainPlatform ⟨.ok, .ok⟩ (by decide) (decodeUtf8_encodeUtf8 _)
    (by decide +kernel) (by simp [encodings])

end SubscriptionPayload

end OlcRtc.Client
