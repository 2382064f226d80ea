import Mathlib.Data.Finset.Card
import Mathlib.Data.Finset.Range
import OlcRtc.Client.Profile
import OlcRtc.Lib.Lists
import OlcRtc.Lib.Steps

/-!
# Imports in several parts

A payload that does not fit one QR code is shown as several.  Each part names the bundle, its
position and the SHA-256 of the whole payload, and `MultipartSession.add` collects the parts of one
bundle until the payload is there.

* `MultipartPart.parse`, `MultipartSession.add`, `clear`: the code.  An exception leaves behind what
  was stored before it was thrown, so `add` returns the state with the error too.
* `SplitPayload` and `IsPart`: a payload in chunks, and the texts that carry its parts.  The state
  that some parts leave behind is computed from their positions alone (`SplitPayload.session`), and
  **`SplitPayload.add_session`** says that one more part takes it to the state of the longer list.
* `Recording`: a session together with the parts it took, for which **`recording_hashes`** holds in
  every run: all of them announce the hash of the session.
-/

namespace OlcRtc.Client

/-! ## Parts -/

/-- `MultipartSession.MultipartPart`. -/
structure MultipartPart where
  bundleId : Text
  index : ℕ
  total : ℕ
  hash : Text
  chunk : Text
deriving DecidableEq, Repr

/-- Whether a text matches `[0-9a-f]{n}`. -/
def isLowerHex (n : ℕ) (s : Text) : Bool :=
  s.length == n && s.all fun c => c.isDigit || (97 ≤ c.toNat && c.toNat ≤ 102)

/-- Whether a character is in `0x20..0x7e`. -/
def isPrintable (c : Char) : Bool := 0x20 ≤ c.toNat && c.toNat ≤ 0x7e

namespace MultipartPart

variable (pf : Platform)

def parsePosition (field : Text) : Except String (ℕ × ℕ) :=
  match splitLimit '/' 2 field with
  | [indexText, totalText] =>
    match Text.toIntOrNull pf.toCharTables indexText with
    | none => .error "Invalid multipart index"
    | some index =>
      match Text.toIntOrNull pf.toCharTables totalText with
      | none => .error "Invalid multipart total"
      | some total =>
        if 2 ≤ total ∧ total ≤ 128 ∧ 1 ≤ index ∧ index ≤ total then
          .ok (index.toNat, total.toNat)
        else .error "Invalid multipart position"
  | _ => .error "Invalid multipart position"

def ofFields : List Text → Except String MultipartPart
  | [scheme, version, bundle, position, digest, chunk] => do
    -- what is not ASCII was refused before, so the case is that of ASCII letters
    ensure (scheme.map Char.toLower == "olcrtc+part".toList) "Invalid multipart format"
    ensure (version == "1".toList) "Unsupported multipart version"
    let bundleId := pf.lowercase bundle
    ensure (isLowerHex 16 bundleId) "Invalid multipart bundle ID"
    let (index, total) ← parsePosition pf position
    let hash := pf.lowercase digest
    ensure (isLowerHex 64 hash && bundleId.isPrefixOf hash) "Invalid multipart hash"
    ensure (chunk != []) "Multipart chunk is empty"
    return ⟨bundleId, index, total, hash, chunk⟩
  | _ => .error "Invalid multipart format"

def parse (raw : Text) : Except String MultipartPart := do
  ensure (Text.utf16Length raw ≤ 1200 && raw.all isPrintable)
    "Multipart part must be at most 1200 ASCII characters"
  ofFields pf (splitLimit ':' 6 raw)

end MultipartPart

/-! ## Sessions -/

/-- `MultipartProgress`. -/
structure MultipartProgress where
  received : ℕ
  total : ℕ
  payload : Option Text
deriving DecidableEq, Repr

/-- `MultipartSession`. -/
structure MultipartSession where
  bundleId : Option Text := none
  total : ℕ := 0
  hash : Text := []
  startedAt : Int64 := 0
  chunks : AList (fun _ : ℕ => Text) := ∅

def ttlMillis : Int64 := 10 * 60 * 1000

/-- `sha256`: the digest of a text in hexadecimal digits. -/
def sha256 (pf : Platform) (value : Text) : Text := encodeHex (pf.sha256 (encodeUtf8 value))

namespace MultipartSession

variable (pf : Platform)

def clear (_ : MultipartSession) : MultipartSession := {}

def expired (s : MultipartSession) (now : Int64) : Bool :=
  s.bundleId.isSome && ttlMillis ≤ now - s.startedAt

/-- The session of a part: the first one opens it, the others have to belong to it. -/
def enter (s : MultipartSession) (part : MultipartPart) (now : Int64) :
    Except String MultipartSession :=
  match s.bundleId with
  | none => .ok { s with
      bundleId := some part.bundleId, total := part.total, hash := part.hash, startedAt := now }
  | some bundleId =>
    if part.bundleId = bundleId ∧ part.total = s.total ∧ part.hash = s.hash then .ok s
    else .error "Multipart part belongs to another session"

def putIfAbsent (chunks : AList (fun _ : ℕ => Text)) (index : ℕ) (chunk : Text) :
    AList (fun _ : ℕ => Text) :=
  if (chunks.lookup index).isSome then chunks else chunks.insert index chunk

def getValue (chunks : AList (fun _ : ℕ => Text)) (index : ℕ) : Except String Text :=
  match chunks.lookup index with
  | some chunk => .ok chunk
  | none => .error (String.ofList ("Key ".toList ++ decimal index ++
      " is missing in the map.".toList))

def progress (s : MultipartSession) : Except String MultipartProgress :=
  if s.chunks.entries.length < s.total then .ok ⟨s.chunks.entries.length, s.total, none⟩
  else do
    let chunks ← ((List.range s.total).map (· + 1)).mapM (getValue s.chunks)
    let payload := chunks.flatten
    let actualHash := sha256 pf payload
    ensure (actualHash == s.hash && (s.bundleId.getD []).isPrefixOf actualHash)
      "Multipart checksum mismatch"
    return ⟨s.total, s.total, some payload⟩

/-- The chunk of a part is stored if there is none at its index. -/
def store (s : MultipartSession) (part : MultipartPart) :
    Except String MultipartProgress × MultipartSession :=
  let previous := s.chunks.lookup part.index
  let s' := { s with chunks := putIfAbsent s.chunks part.index part.chunk }
  if previous = none ∨ previous = some part.chunk then (progress pf s', s')
  else (.error "Conflicting multipart duplicate", s')

/-- `add`: what is returned or thrown, and the session after it. -/
def add (s : MultipartSession) (raw : Text) (now : Int64) :
    Except String MultipartProgress × MultipartSession :=
  match MultipartPart.parse pf raw with
  | .error err => (.error err, s)
  | .ok part =>
    if s.expired now then (.error "Multipart session expired", s.clear)
    else
      match s.enter part now with
      | .error err => (.error err, s)
      | .ok s => s.store pf part

end MultipartSession

/-! ## A payload in parts -/

/-- A printable payload in 2 to 128 chunks. -/
structure SplitPayload where
  chunks : List Text
  two_le_length : 2 ≤ chunks.length
  length_le : chunks.length ≤ 128
  chunk_ne_nil : ∀ chunk ∈ chunks, chunk ≠ []
  printable : ∀ chunk ∈ chunks, ∀ c ∈ chunk, isPrintable c = true

namespace SplitPayload

variable (pf : Platform) (b : SplitPayload)

def payload : Text := b.chunks.flatten

def hash : Text := sha256 pf b.payload

/-- A text is the part at a position, counted from 0.  Letters of the header have either case, and
a chunk may have colons. -/
def IsPart (i : ℕ) (raw : Text) : Prop :=
  ∃ scheme bundle digest chunk : Text,
    raw = scheme ++ ':' :: ("1".toList ++ ':' :: (bundle ++ ':' ::
        ((decimal (i + 1) ++ '/' :: decimal b.chunks.length) ++ ':' :: (digest ++ ':' :: chunk)))) ∧
      raw.length ≤ 1200 ∧
      scheme.map Char.toLower = "olcrtc+part".toList ∧
      bundle.map Char.toLower = (b.hash pf).take 16 ∧
      digest.map Char.toLower = b.hash pf ∧
      b.chunks[i]? = some chunk

def part (i : ℕ) : MultipartPart :=
  ⟨(b.hash pf).take 16, i + 1, b.chunks.length, b.hash pf, b.chunks.getD i []⟩

end SplitPayload

section Characters

lemma isPrintable_of_toLower {c : Char} (h : isPrintable c.toLower = true) :
    isPrintable c = true := by
  grind [isPrintable, Text.toLower_toNat]

lemma forall_isPrintable_of_map {s : Text}
    (h : ∀ c ∈ s.map Char.toLower, isPrintable c = true) : ∀ c ∈ s, isPrintable c = true := by
  intro c hc
  exact isPrintable_of_toLower (h _ (List.mem_map_of_mem hc))

lemma toNat_lt_of_isPrintable {c : Char} (h : isPrintable c = true) : c.toNat < 128 := by
  simp only [isPrintable, Bool.and_eq_true, decide_eq_true_eq] at h
  omega

lemma hexDigit_chars : ∀ n < 16, isPrintable (hexDigit n) = true ∧ hexDigit n ≠ ':' ∧
    ((hexDigit n).isDigit || (97 ≤ (hexDigit n).toNat && (hexDigit n).toNat ≤ 102)) = true := by
  decide

lemma decimal_printable {c : Char} {n : ℕ} (h : c ∈ decimal n) :
    isPrintable c = true ∧ c ≠ ':' ∧ c ≠ '/' := by
  have hc : c.isDigit = true := Nat.isDigit_of_mem_toDigits (by decide) (by decide) h
  have hrange : 48 ≤ c.toNat ∧ c.toNat ≤ 57 := by
    rw [Char.isDigit, Bool.and_eq_true, decide_eq_true_eq, decide_eq_true_eq] at hc
    exact hc
  refine ⟨?_, ?_, ?_⟩
  · simp only [isPrintable, Bool.and_eq_true, decide_eq_true_eq]
    omega
  · rintro rfl
    revert hc
    decide
  · rintro rfl
    revert hc
    decide

end Characters

namespace SplitPayload

variable {pf : Platform} {b : SplitPayload} {i : ℕ} {raw : Text}

lemma hash_chars {c : Char} (h : c ∈ b.hash pf) : isPrintable c = true ∧ c ≠ ':' ∧
    (c.isDigit || (97 ≤ c.toNat && c.toNat ≤ 102)) = true := by
  obtain ⟨n, hn, rfl⟩ := exists_hexDigit_of_mem h
  exact hexDigit_chars n hn

lemma length_hash : (b.hash pf).length = 64 := by
  rw [hash, sha256, length_encodeHex, pf.length_sha256]

lemma parsePosition_decimal (hi : i < b.chunks.length) :
    MultipartPart.parsePosition pf (decimal (i + 1) ++ '/' :: decimal b.chunks.length)
      = .ok (i + 1, b.chunks.length) := by
  have hlength := b.length_le
  have htwo := b.two_le_length
  have hslash : ∀ n, '/' ∉ decimal n := fun n h => (decimal_printable h).2.2 rfl
  rw [MultipartPart.parsePosition, splitLimit_append (hslash _), splitLimit]
  dsimp only
  rw [Text.toIntOrNull_decimal _ (by omega), Text.toIntOrNull_decimal _ (by omega)]
  dsimp only
  rw [if_pos (by omega)]
  rfl

lemma ofFields_part {scheme bundle digest chunk : Text}
    (hscheme : scheme.map Char.toLower = "olcrtc+part".toList)
    (hbundle : pf.lowercase bundle = (b.hash pf).take 16)
    (hdigest : pf.lowercase digest = b.hash pf) (hchunk : b.chunks[i]? = some chunk) :
    MultipartPart.ofFields pf [scheme, "1".toList, bundle,
      decimal (i + 1) ++ '/' :: decimal b.chunks.length, digest, chunk] = .ok (b.part pf i) := by
  obtain ⟨hi, hget⟩ := List.getElem?_eq_some_iff.1 hchunk
  have hhex : isLowerHex 16 ((b.hash pf).take 16) = true := by
    rw [isLowerHex, List.length_take, length_hash]
    exact List.all_eq_true.2 fun c hc => (hash_chars (List.mem_of_mem_take hc)).2.2
  have hhash : isLowerHex 64 (b.hash pf) = true := by
    rw [isLowerHex, length_hash]
    exact List.all_eq_true.2 fun c hc => (hash_chars hc).2.2
  have hstart : ((b.hash pf).take 16).isPrefixOf (b.hash pf) = true :=
    List.isPrefixOf_iff_prefix.2 (List.take_prefix _ _)
  have hne : (chunk != []) = true := by
    rw [bne_iff_ne]
    exact b.chunk_ne_nil chunk (List.mem_of_getElem? hchunk)
  have hpart : b.part pf i
      = ⟨(b.hash pf).take 16, i + 1, b.chunks.length, b.hash pf, chunk⟩ := by
    rw [part, List.getD_eq_getElem?_getD, hchunk, Option.getD_some]
  rw [MultipartPart.ofFields, hscheme, hbundle, hdigest, hpart]
  dsimp only
  rw [hhex, hhash, hstart, hne, parsePosition_decimal hi]
  rfl

/-- **A part is read back.** -/
theorem parse_part (h : b.IsPart pf i raw) : MultipartPart.parse pf raw = .ok (b.part pf i) := by
  obtain ⟨scheme, bundle, digest, chunk, rfl, hlength, hscheme, hbundle, hdigest, hchunk⟩ := h
  have hcolon : ∀ n, ':' ∉ decimal n := fun n h => (decimal_printable h).2.1 rfl
  have hscheme' : ∀ c ∈ scheme, isPrintable c = true :=
    forall_isPrintable_of_map (by rw [hscheme]; exact Text.forall_mem_of_all rfl)
  have hbundle' : ∀ c ∈ bundle, isPrintable c = true := by
    refine forall_isPrintable_of_map fun c hc => ?_
    rw [hbundle] at hc
    exact (hash_chars (List.mem_of_mem_take hc)).1
  have hdigest' : ∀ c ∈ digest, isPrintable c = true := by
    refine forall_isPrintable_of_map fun c hc => ?_
    rw [hdigest] at hc
    exact (hash_chars hc).1
  have hchunk' := b.printable chunk (List.mem_of_getElem? hchunk)
  have hbundleLow : pf.lowercase bundle = (b.hash pf).take 16 := by
    rw [pf.lowercase_of_ascii bundle fun c hc => toNat_lt_of_isPrintable (hbundle' c hc), hbundle]
  have hdigestLow : pf.lowercase digest = b.hash pf := by
    rw [pf.lowercase_of_ascii digest fun c hc => toNat_lt_of_isPrintable (hdigest' c hc), hdigest]
  have hposition : ':' ∉ decimal (i + 1) ++ '/' :: decimal b.chunks.length := by
    simp [hcolon]
  have hbundleColon : ':' ∉ bundle := Text.not_mem_of_map_toLower rfl fun hmem =>
    (hash_chars (List.mem_of_mem_take (hbundle ▸ hmem))).2.1 rfl
  have hdigestColon : ':' ∉ digest := Text.not_mem_of_map_toLower rfl fun hmem =>
    (hash_chars (hdigest ▸ hmem)).2.1 rfl
  have hprintable : (scheme ++ ':' :: ("1".toList ++ ':' :: (bundle ++ ':' ::
      ((decimal (i + 1) ++ '/' :: decimal b.chunks.length) ++ ':' ::
        (digest ++ ':' :: chunk))))).all isPrintable = true := by
    have hdecimal : ∀ n, (decimal n).all isPrintable = true :=
      fun n => List.all_eq_true.2 fun c hc => (decimal_printable hc).1
    have hone : "1".toList.all isPrintable = true := rfl
    have hcolon' : isPrintable ':' = true := rfl
    have hslash : isPrintable '/' = true := rfl
    simp only [List.all_append, List.all_cons, hdecimal, hone, hcolon', hslash, Bool.and_true,
      List.all_eq_true.2 hscheme', List.all_eq_true.2 hbundle',
      List.all_eq_true.2 hdigest', List.all_eq_true.2 hchunk']
  have hutf16 := Text.utf16Length_of_forall fun c hc =>
    (toNat_lt_of_isPrintable (List.all_eq_true.1 hprintable c hc)).trans (by decide)
  rw [MultipartPart.parse, hutf16, hprintable, decide_eq_true hlength,
    splitLimit_append (Text.not_mem_of_map_toLower rfl (by rw [hscheme]; decide)),
    splitLimit_append (by decide), splitLimit_append hbundleColon, splitLimit_append hposition,
    splitLimit_append hdigestColon, splitLimit]
  exact ofFields_part hscheme hbundleLow hdigestLow hchunk

end SplitPayload

/-! ## Collecting the parts -/

namespace MultipartSession

lemma lookup_putIfAbsent (m : AList (fun _ : ℕ => Text)) (k j : ℕ) (v : Text) :
    (putIfAbsent m k v).lookup j = if j = k then some ((m.lookup k).getD v) else m.lookup j := by
  cases hk : m.lookup k with
  | none =>
    rw [putIfAbsent, hk, if_neg (by simp)]
    by_cases hj : j = k
    · rw [hj, if_pos rfl, AList.lookup_insert, Option.getD_none]
    · rw [if_neg hj, AList.lookup_insert_ne hj]
  | some w =>
    rw [putIfAbsent, hk, if_pos Option.isSome_some]
    by_cases hj : j = k
    · rw [hj, if_pos rfl, hk, Option.getD_some]
    · rw [if_neg hj]

lemma length_putIfAbsent (m : AList (fun _ : ℕ => Text)) (k : ℕ) (v : Text) :
    (putIfAbsent m k v).entries.length
      = if (m.lookup k).isSome then m.entries.length else m.entries.length + 1 := by
  by_cases hk : (m.lookup k).isSome
  · rw [putIfAbsent, if_pos hk, if_pos hk]
  · have hmem : k ∉ m := fun h => hk (AList.lookup_isSome.2 h)
    rw [putIfAbsent, if_neg hk, if_neg hk, length_entries_insert, if_neg hmem]

end MultipartSession

/-- One part of a bundle as it comes in. -/
structure Arrival where
  index : ℕ
  raw : Text
  now : Int64

def MultipartSession.receive (pf : Platform) (s : MultipartSession) (a : Arrival) :
    MultipartSession :=
  (s.add pf a.raw a.now).2

namespace SplitPayload

variable (pf : Platform) (b : SplitPayload)

/-- The chunks at some positions, in the order in which the positions came first. -/
def stored (seen : List ℕ) : AList (fun _ : ℕ => Text) :=
  seen.foldl (fun m i => MultipartSession.putIfAbsent m (i + 1) (b.chunks.getD i [])) ∅

def sessionAt (startedAt : Int64) (seen : List ℕ) : MultipartSession where
  bundleId := some ((b.hash pf).take 16)
  total := b.chunks.length
  hash := b.hash pf
  startedAt := startedAt
  chunks := b.stored seen

/-- The session after some arrivals, computed from when the first came and from the positions. -/
def session : List Arrival → MultipartSession
  | [] => {}
  | first :: rest => b.sessionAt pf first.now ((first :: rest).map Arrival.index)

def distinct (seen : List ℕ) : ℕ := seen.toFinset.card

def progressAt (seen : List ℕ) : MultipartProgress :=
  ⟨distinct seen, b.chunks.length,
    if distinct seen = b.chunks.length then some b.payload else none⟩

variable {pf b} {seen : List ℕ} {startedAt : Int64}

lemma stored_concat (i : ℕ) : b.stored (seen ++ [i])
    = MultipartSession.putIfAbsent (b.stored seen) (i + 1) (b.chunks.getD i []) :=
  List.foldl_concat ..

lemma lookup_stored (i : ℕ) : (b.stored seen).lookup (i + 1)
    = if i ∈ seen then some (b.chunks.getD i []) else none := by
  induction seen using List.reverseRecOn with
  | nil => rfl
  | append_singleton seen j ih =>
    rw [stored_concat, MultipartSession.lookup_putIfAbsent]
    by_cases hij : i = j
    · grind
    · rw [if_neg (by omega), ih]
      simp [hij]

lemma length_stored : (b.stored seen).entries.length = distinct seen := by
  induction seen using List.reverseRecOn with
  | nil => rfl
  | append_singleton seen j ih =>
    have hfinset : (seen ++ [j]).toFinset = insert j seen.toFinset := by
      ext k
      simp
    rw [stored_concat, MultipartSession.length_putIfAbsent, lookup_stored, ih, distinct,
      distinct, hfinset]
    by_cases hj : j ∈ seen
    · rw [if_pos hj, if_pos Option.isSome_some, Finset.insert_eq_of_mem (List.mem_toFinset.2 hj)]
    · grind [Finset.card_insert_of_notMem, List.mem_toFinset]

lemma toFinset_subset_range {n : ℕ} (hseen : ∀ i ∈ seen, i < n) :
    seen.toFinset ⊆ Finset.range n := by
  intro j hj
  exact Finset.mem_range.2 (hseen j (List.mem_toFinset.1 hj))

lemma mem_of_distinct {n : ℕ} (hseen : ∀ i ∈ seen, i < n) (hall : ¬ distinct seen < n) :
    ∀ i < n, i ∈ seen := by
  intro i hi
  have heq : seen.toFinset = Finset.range n := by
    apply Finset.eq_of_subset_of_card_le (toFinset_subset_range hseen)
    rw [Finset.card_range]
    exact Nat.not_lt.1 hall
  exact List.mem_toFinset.1 (heq ▸ Finset.mem_range.2 hi)

lemma distinct_le {n : ℕ} (hseen : ∀ i ∈ seen, i < n) : distinct seen ≤ n := by
  have hcard := Finset.card_le_card (toFinset_subset_range hseen)
  rwa [Finset.card_range] at hcard

lemma mapM_getValue (hall : ∀ i < b.chunks.length, i ∈ seen) :
    ((List.range b.chunks.length).map (· + 1)).mapM (MultipartSession.getValue (b.stored seen))
      = .ok b.chunks := by
  have hvalue : ∀ k ∈ (List.range b.chunks.length).map (· + 1),
      MultipartSession.getValue (b.stored seen) k = .ok (b.chunks.getD (k - 1) []) := by
    intro k hk
    obtain ⟨i, hi, rfl⟩ := List.mem_map.1 hk
    rw [MultipartSession.getValue, lookup_stored, if_pos (hall i (List.mem_range.1 hi))]
    rfl
  rw [mapM_eq_ok hvalue, List.map_map]
  refine congrArg Except.ok (List.ext_getElem (by simp) ?_)
  intro i hi hi'
  simp [List.getElem?_eq_getElem hi']

lemma progress_sessionAt (hseen : ∀ i ∈ seen, i < b.chunks.length) :
    (b.sessionAt pf startedAt seen).progress pf = .ok (b.progressAt seen) := by
  have hle := distinct_le hseen
  rw [MultipartSession.progress]
  simp only [sessionAt, length_stored]
  split_ifs with hlt
  · rw [progressAt, if_neg (by omega)]
  · have hdistinct : distinct seen = b.chunks.length := by omega
    have hstart : ((b.hash pf).take 16).isPrefixOf (b.hash pf) = true :=
      List.isPrefixOf_iff_prefix.2 (List.take_prefix _ _)
    have hhash : sha256 pf b.chunks.flatten = b.hash pf := rfl
    rw [mapM_getValue (mem_of_distinct hseen hlt), ok_bind, hhash, Option.getD_some, hstart,
      beq_self_eq_true, progressAt, hdistinct, if_pos rfl]
    rfl

lemma store_sessionAt (startedAt : Int64) (seen : List ℕ) {i : ℕ}
    (hseen : ∀ j ∈ seen ++ [i], j < b.chunks.length) :
    (b.sessionAt pf startedAt seen).store pf (b.part pf i)
      = (.ok (b.progressAt (seen ++ [i])), b.sessionAt pf startedAt (seen ++ [i])) := by
  have hstored : { b.sessionAt pf startedAt seen with
      chunks := MultipartSession.putIfAbsent (b.stored seen) (i + 1) (b.chunks.getD i []) }
        = b.sessionAt pf startedAt (seen ++ [i]) := by
    rw [← stored_concat]
    rfl
  have hprevious : (b.stored seen).lookup (i + 1) = none
      ∨ (b.stored seen).lookup (i + 1) = some (b.chunks.getD i []) := by
    rw [lookup_stored]
    split_ifs
    · exact Or.inr rfl
    · exact Or.inl rfl
  rw [← progress_sessionAt hseen, ← hstored]
  exact if_pos hprevious

/-- The arrivals are parts of the bundle, and come before the session expires. -/
structure InTime (pf : Platform) (b : SplitPayload) (arrivals : List Arrival) : Prop where
  isPart : ∀ a ∈ arrivals, b.IsPart pf a.index a.raw
  inTime : ∀ first ∈ arrivals.head?, ∀ a ∈ arrivals, a.now - first.now < ttlMillis

variable {arrivals : List Arrival} {a : Arrival}

lemma IsPart.index_lt {i : ℕ} {raw : Text} (h : b.IsPart pf i raw) : i < b.chunks.length := by
  obtain ⟨-, -, -, chunk, -, -, -, -, -, hchunk⟩ := h
  exact (List.getElem?_eq_some_iff.1 hchunk).1

/-- **One more part** takes the session of the arrivals before it to that of the arrivals with it,
and what is returned is the progress. -/
theorem add_session (h : b.InTime pf (arrivals ++ [a])) :
    (b.session pf arrivals).add pf a.raw a.now
      = (.ok (b.progressAt ((arrivals ++ [a]).map Arrival.index)),
          b.session pf (arrivals ++ [a])) := by
  have hlt : ∀ j ∈ (arrivals ++ [a]).map Arrival.index, j < b.chunks.length := by
    intro j hj
    obtain ⟨c, hc, rfl⟩ := List.mem_map.1 hj
    exact (h.isPart c hc).index_lt
  rw [MultipartSession.add, parse_part (h.isPart a (by simp))]
  dsimp only
  cases arrivals with
  | nil =>
    -- the first part opens the session
    exact store_sessionAt a.now [] hlt
  | cons first rest =>
    have htime : ¬ ttlMillis ≤ a.now - first.now :=
      Int64.not_le.2 (h.inTime first rfl a (by simp))
    have hexpired : (b.session pf (first :: rest)).expired a.now = false := by
      show (true && decide (ttlMillis ≤ a.now - first.now)) = false
      rw [decide_eq_false htime]
      rfl
    have henter : (b.session pf (first :: rest)).enter (b.part pf a.index) a.now
        = .ok (b.session pf (first :: rest)) :=
      if_pos ⟨rfl, rfl, rfl⟩
    have hnext : b.session pf (first :: rest ++ [a])
        = b.sessionAt pf first.now ((first :: rest).map Arrival.index ++ [a.index]) :=
      congrArg (b.sessionAt pf first.now) (List.map_append : (first :: rest ++ [a]).map _ = _)
    rw [List.map_append] at hlt
    rw [hexpired, if_neg Bool.false_ne_true, henter, hnext, List.map_append]
    exact store_sessionAt first.now _ hlt

lemma InTime.of_concat (h : b.InTime pf (arrivals ++ [a])) : b.InTime pf arrivals := by
  constructor
  · intro c hc
    exact h.isPart c (List.mem_append_left _ hc)
  · intro first hfirst c hc
    exact h.inTime first (List.mem_head?_append_of_mem_head? hfirst) c (List.mem_append_left _ hc)

/-- The session after some arrivals. -/
theorem run_session (h : b.InTime pf arrivals) :
    run (MultipartSession.receive pf) {} arrivals = b.session pf arrivals := by
  induction arrivals using List.reverseRecOn with
  | nil => rfl
  | append_singleton arrivals a ih =>
    rw [run_concat, ih h.of_concat, MultipartSession.receive, add_session h]

end SplitPayload

/-! ## Arbitrary texts -/

inductive MultipartCommand
  | add (raw : Text) (now : Int64)
  | clear

/-- A session and the parts that it took since it was opened. -/
structure Recording where
  session : MultipartSession := {}
  parts : List MultipartPart := []

namespace Recording

variable (pf : Platform)

/-- The parts that the session took, with the one of a text if it is taken. -/
def taken (r : Recording) (raw : Text) (now : Int64) : List MultipartPart :=
  match MultipartPart.parse pf raw with
  | .error _ => r.parts
  | .ok part =>
    if r.session.expired now then []
    else
      match r.session.enter part now with
      | .error _ => r.parts
      | .ok _ => r.parts ++ [part]

def step (r : Recording) : MultipartCommand → Recording
  | .add raw now => ⟨(r.session.add pf raw now).2, r.taken pf raw now⟩
  | .clear => ⟨r.session.clear, []⟩

/-- The parts announce what the session has. -/
structure Agrees (r : Recording) : Prop where
  closed : r.session.bundleId = none → r.parts = []
  hash : ∀ part ∈ r.parts, part.hash = r.session.hash

variable {pf} {r : Recording} {raw : Text} {now : Int64}

lemma add_cases (pf : Platform) (r : Recording) (raw : Text) (now : Int64) :
    (∃ err, r.session.add pf raw now = (.error err, r.session) ∧ r.taken pf raw now = r.parts) ∨
    (∃ err, r.session.add pf raw now = (.error err, {}) ∧ r.taken pf raw now = []) ∨
    ∃ part s, MultipartPart.parse pf raw = .ok part ∧ r.session.enter part now = .ok s ∧
      r.session.add pf raw now = s.store pf part ∧ r.taken pf raw now = r.parts ++ [part] := by
  rw [MultipartSession.add, taken]
  cases hparse : MultipartPart.parse pf raw with
  | error err => exact Or.inl ⟨err, rfl, rfl⟩
  | ok part =>
    dsimp only
    by_cases hexpired : r.session.expired now = true
    · rw [if_pos hexpired, if_pos hexpired]
      exact Or.inr (Or.inl ⟨_, rfl, rfl⟩)
    · rw [if_neg hexpired, if_neg hexpired]
      cases henter : r.session.enter part now with
      | error err => exact Or.inl ⟨err, rfl, rfl⟩
      | ok s => exact Or.inr (Or.inr ⟨part, s, rfl, henter, rfl, rfl⟩)

lemma Agrees.enter {part : MultipartPart} {s : MultipartSession} (h : r.Agrees)
    (henter : r.session.enter part now = .ok s) :
    s.bundleId ≠ none ∧ ∀ p ∈ r.parts ++ [part], p.hash = s.hash := by
  rw [MultipartSession.enter] at henter
  cases hopen : r.session.bundleId with
  | none =>
    rw [hopen] at henter
    cases henter
    rw [h.closed hopen]
    refine ⟨Option.some_ne_none _, ?_⟩
    intro p hp
    rw [List.nil_append, List.mem_singleton] at hp
    rw [hp]
  | some bundleId =>
    rw [hopen] at henter
    dsimp only at henter
    split_ifs at henter with hsame
    cases henter
    refine ⟨by rw [hopen]; exact Option.some_ne_none _, ?_⟩
    intro p hp
    rcases List.mem_append.1 hp with hp | hp
    · exact h.hash p hp
    · rw [List.mem_singleton.1 hp]
      exact hsame.2.2

lemma store_frame (pf : Platform) (s : MultipartSession) (part : MultipartPart) :
    (s.store pf part).2.bundleId = s.bundleId ∧ (s.store pf part).2.hash = s.hash := by
  rw [MultipartSession.store]
  split_ifs <;> exact ⟨rfl, rfl⟩

lemma Agrees.step (h : r.Agrees) (command : MultipartCommand) : (r.step pf command).Agrees := by
  cases command with
  | clear => exact ⟨fun _ => rfl, by simp [Recording.step]⟩
  | add raw now =>
    show Agrees ⟨(r.session.add pf raw now).2, r.taken pf raw now⟩
    rcases add_cases pf r raw now with
      ⟨err, hadd, htaken⟩ | ⟨err, hadd, htaken⟩ | ⟨part, s, -, henter, hadd, htaken⟩
    · rw [hadd, htaken]
      exact h
    · rw [hadd, htaken]
      exact ⟨fun _ => rfl, by simp⟩
    · obtain ⟨hbundle, hhash⟩ := store_frame pf s part
      obtain ⟨hne, hparts⟩ := h.enter henter
      rw [hadd, htaken]
      constructor
      · grind
      · intro p hp
        exact (hparts p hp).trans hhash.symm

/-- **In every run the parts that a session took announce its hash.** -/
theorem recording_hashes (pf : Platform) (commands : List MultipartCommand) :
    (run (Recording.step pf) {} commands).Agrees :=
  run_invariant_of_step (I := Agrees) _ (fun _ command h => h.step command)
    ⟨fun _ => rfl, by simp⟩ commands

lemma sha256_of_progress {s : MultipartSession} {progress : MultipartProgress} {payload : Text}
    (h : s.progress pf = .ok progress) (hpayload : progress.payload = some payload) :
    sha256 pf payload = s.hash := by
  rw [MultipartSession.progress] at h
  split_ifs at h
  · cases h
    cases hpayload
  · obtain ⟨chunks, -, h⟩ := bind_eq_ok.1 h
    obtain ⟨_, hcheck, h⟩ := bind_eq_ok.1 h
    rw [ensure_eq_ok, Bool.and_eq_true, beq_iff_eq] at hcheck
    cases h
    cases hpayload
    exact hcheck.1

lemma sha256_of_store {s : MultipartSession} {part : MultipartPart}
    {progress : MultipartProgress} {payload : Text} (h : (s.store pf part).1 = .ok progress)
    (hpayload : progress.payload = some payload) : sha256 pf payload = s.hash := by
  rw [MultipartSession.store] at h
  split_ifs at h
  exact sha256_of_progress (s := { s with
    chunks := MultipartSession.putIfAbsent s.chunks part.index part.chunk }) h hpayload

lemma Agrees.sha256 (h : r.Agrees) {progress : MultipartProgress} {payload : Text}
    (hadd : (r.session.add pf raw now).1 = .ok progress)
    (hpayload : progress.payload = some payload) :
    ∃ part, MultipartPart.parse pf raw = .ok part ∧ part ∈ r.taken pf raw now ∧
      ∀ p ∈ r.taken pf raw now, p.hash = Client.sha256 pf payload := by
  rcases add_cases pf r raw now with
    ⟨err, herr, -⟩ | ⟨err, herr, -⟩ | ⟨part, s, hparse, henter, hstore, htaken⟩
  · rw [herr] at hadd
    cases hadd
  · rw [herr] at hadd
    cases hadd
  · rw [hstore] at hadd
    refine ⟨part, hparse, by rw [htaken]; simp, ?_⟩
    rw [htaken, sha256_of_store hadd hpayload]
    exact (h.enter henter).2

end Recording

/-! ## The import as a whole -/

/-- **Imports in parts are right.**  The parts of a payload, in any order and with any duplicates
before the session expires, are counted, and the payload is returned as soon as all are there and
not before.  Whatever texts are added, a payload that is returned has the SHA-256 that the parts of
its session announced. -/
theorem multipart_import_correct (pf : Platform) :
    (∀ (b : SplitPayload) (before : List Arrival) (a : Arrival), b.InTime pf (before ++ [a]) →
      ((run (MultipartSession.receive pf) {} before).add pf a.raw a.now).1
        = .ok (b.progressAt ((before ++ [a]).map Arrival.index))) ∧
    ∀ (commands : List MultipartCommand) (raw : Text) (now : Int64)
      (progress : MultipartProgress) (payload : Text),
      ((run (Recording.step pf) {} commands).session.add pf raw now).1 = .ok progress →
      progress.payload = some payload →
      ∃ part, MultipartPart.parse pf raw = .ok part ∧
        part ∈ (run (Recording.step pf) {} commands).taken pf raw now ∧
        ∀ p ∈ (run (Recording.step pf) {} commands).taken pf raw now,
          p.hash = sha256 pf payload := by
  refine ⟨?_, ?_⟩
  · intro b before a h
    rw [SplitPayload.run_session h.of_concat, SplitPayload.add_session h]
  · intro commands raw now progress payload hadd hpayload
    exact (Recording.recording_hashes pf commands).sha256 hadd hpayload

def exampleSplit : SplitPayload where
  chunks := ["olcrtc".toList, "://room".toList]
  two_le_length := by decide
  length_le := by decide
  chunk_ne_nil := by decide
  printable := by
    intro chunk hchunk
    rw [List.mem_cons, List.mem_singleton] at hchunk
    rcases hchunk with rfl | rfl
    · exact Text.forall_mem_of_all rfl
    · exact Text.forall_mem_of_all rfl

def examplePart (position : Text) (chunk : Text) : Text :=
  "OLCRTC+PART:1:".toList ++ (exampleSplit.hash plainPlatform).take 16 ++ ':' :: position ++
    ':' :: exampleSplit.hash plainPlatform ++ ':' :: chunk

lemma exampleSplit_inTime : exampleSplit.InTime plainPlatform
    ([⟨1, examplePart "2/2".toList "://room".toList, 5⟩]
      ++ [⟨0, examplePart "1/2".toList "olcrtc".toList, 7⟩]) := by
  constructor
  · intro a ha
    rw [List.mem_append, List.mem_singleton, List.mem_singleton] at ha
    rcases ha with rfl | rfl
    · refine ⟨"OLCRTC+PART".toList, (exampleSplit.hash plainPlatform).take 16,
        exampleSplit.hash plainPlatform, "://room".toList, ?_, ?_, ?_, ?_, ?_, ?_⟩ <;>
        decide +kernel
    · refine ⟨"OLCRTC+PART".toList, (exampleSplit.hash plainPlatform).take 16,
        exampleSplit.hash plainPlatform, "olcrtc".toList, ?_, ?_, ?_, ?_, ?_, ?_⟩ <;>
        decide +kernel
  · decide +kernel

theorem multipart_import_correct_pair :
    ((run (MultipartSession.receive plainPlatform) {}
      [⟨1, examplePart "2/2".toList "://room".toList, 5⟩]).add plainPlatform
        (examplePart "1/2".toList "olcrtc".toList) 7).1
      = .ok ⟨2, 2, some "olcrtc://room".toList⟩ ∧
    ∃ part, MultipartPart.parse plainPlatform (examplePart "1/2".toList "olcrtc".toList)
      = .ok part ∧ part.hash = sha256 plainPlatform "olcrtc://room".toList := by
  refine ⟨(multipart_import_correct plainPlatform).1 exampleSplit _ _ exampleSplit_inTime, ?_⟩
  obtain ⟨part, hparse, hmem, hall⟩ := (multipart_import_correct plainPlatform).2
    [.add (examplePart "2/2".toList "://room".toList) 5]
    (examplePart "1/2".toList "olcrtc".toList) 7 ⟨2, 2, some "olcrtc://room".toList⟩
    "olcrtc://room".toList rfl rfl
  exact ⟨part, hparse, hall part hmem⟩

end OlcRtc.Client
