import OlcRtc.Client.Multipart

/-!
# Imports that fail

`BundleImportDispatcher.accept` takes a scanned text.  A text that is not a part of anything is a
bundle of its own.  A part goes to the multipart session, and the payload that it completes is
parsed; the session is cleared when that has succeeded.

An import that fails should leave the session as it was, except that an expired session is
cleared, and a set of parts that turned out to be no bundle should not be in the way of the next
one (`NoTrace`).  The last part of such a set is stored before the set is looked at, and nothing
takes it out again: **`no_trace_iff`** says that runs leave no trace exactly if no set is damaged
once it is complete, which its chunks tell: their checksum, and whether they are a bundle.

What bundles look like inside does not matter here, so `parseBundle` is any function.
-/

namespace OlcRtc.Client

/-- `BundleImportResult`. -/
inductive BundleImportResult (B : Type)
  | pending (received total : ℕ)
  | complete (bundle : B)
deriving DecidableEq

inductive ImportCommand
  | accept (raw : Text) (now : Int64)
  | clear

/-- `raw.startsWith("olcrtc+part:", ignoreCase = true)`.  No character outside ASCII has one of
these letters as its other case. -/
def isMultipart (raw : Text) : Bool := (raw.take 12).map Char.toLower == "olcrtc+part:".toList

namespace BundleImportDispatcher

variable {B : Type} (pf : Platform) (parseBundle : Text → Except String B)

/-- `accept`: what is returned or thrown, and the session after it. -/
def accept (s : MultipartSession) (raw : Text) (now : Int64) :
    Except String (BundleImportResult B) × MultipartSession :=
  if isMultipart raw then
    match s.add pf raw now with
    | (.error err, s') => (.error err, s')
    | (.ok ⟨received, total, none⟩, s') => (.ok (.pending received total), s')
    | (.ok ⟨_, _, some payload⟩, s') =>
      match parseBundle payload with
      | .error err => (.error err, s')
      | .ok bundle => (.ok (.complete bundle), s'.clear)
  else ((parseBundle raw).map .complete, s)

def step (s : MultipartSession) : ImportCommand → MultipartSession
  | .accept raw now => (accept pf parseBundle s raw now).2
  | .clear => s.clear

def results (s : MultipartSession) : List Arrival → List (Except String (BundleImportResult B))
  | [] => []
  | a :: rest =>
    (accept pf parseBundle s a.raw a.now).1 ::
      results (accept pf parseBundle s a.raw a.now).2 rest

/-! ## What should hold -/

def expires (s : MultipartSession) (raw : Text) (now : Int64) : Bool :=
  isMultipart raw && (MultipartPart.parse pf raw).isOk && s.expired now

/-- The session with the chunk of a part, if the part is taken. -/
def withPart (s : MultipartSession) (raw : Text) (now : Int64) : Option MultipartSession :=
  if isMultipart raw && !s.expired now then
    match MultipartPart.parse pf raw with
    | .error _ => none
    | .ok part =>
      match s.enter part now with
      | .error _ => none
      | .ok s =>
        if s.chunks.lookup part.index = none ∨ s.chunks.lookup part.index = some part.chunk then
          some { s with chunks := MultipartSession.putIfAbsent s.chunks part.index part.chunk }
        else none
  else none

/-- A payload has the checksum that its parts announce, and it is a bundle. -/
def intact (s : MultipartSession) (payload : Text) : Bool :=
  sha256 pf payload == s.hash && (s.bundleId.getD []).isPrefixOf (sha256 pf payload) &&
    (parseBundle payload).isOk

/-- All chunks are there, and put together in their order they are no intact payload. -/
def damaged (s : MultipartSession) : Bool :=
  s.total ≤ s.chunks.entries.length &&
    !(((List.range s.total).map (· + 1)).mapM (MultipartSession.getValue s.chunks)).toOption.any
      fun chunks => intact pf parseBundle s chunks.flatten

/-- With this part the set is complete and damaged. -/
def fails (s : MultipartSession) (raw : Text) (now : Int64) : Bool :=
  (withPart pf s raw now).any (damaged pf parseBundle)

/-- The parts of any bundle, in any order and before the session expires, give that bundle. -/
def Recovers (s : MultipartSession) : Prop :=
  ∀ (b : SplitPayload) (bundle : B) (arrivals : List Arrival),
    parseBundle b.payload = .ok bundle → b.InTime pf arrivals →
    (arrivals.map Arrival.index).Perm (List.range b.chunks.length) →
    (results pf parseBundle s arrivals).getLast? = some (.ok (.complete bundle))

/-- A command that fails leaves no trace: the session is as before unless it has expired, and a
set that was refused is not in the way of others. -/
def NoTrace (s : MultipartSession) : ImportCommand → Prop
  | .accept raw now =>
    ((accept pf parseBundle s raw now).1.isOk = false → expires pf s raw now = false →
      (accept pf parseBundle s raw now).2 = s) ∧
    (fails pf parseBundle s raw now = true →
      Recovers pf parseBundle (accept pf parseBundle s raw now).2)
  | .clear => True

/-- No set is damaged once it is complete. -/
def NotRefused (s : MultipartSession) : ImportCommand → Prop
  | .accept raw now => fails pf parseBundle s raw now = false
  | .clear => True

/-! ## What a text does -/

/-- A session that was opened still lacks parts. -/
structure Lacking (s : MultipartSession) : Prop where
  closed : s.bundleId = none → s.chunks = ∅
  missing : s.bundleId ≠ none → s.chunks.entries.length < s.total

variable {pf parseBundle} {s opened : MultipartSession} {part : MultipartPart} {raw : Text}
  {now : Int64}

lemma enter_of_conflict (h : Lacking s) (henter : s.enter part now = .ok opened)
    (hsome : opened.chunks.lookup part.index ≠ none) : opened = s := by
  rw [MultipartSession.enter] at henter
  cases hopen : s.bundleId with
  | none =>
    rw [hopen] at henter
    cases henter
    exact absurd (by rw [h.closed hopen]; rfl) hsome
  | some bundleId =>
    rw [hopen] at henter
    dsimp only at henter
    split_ifs at henter
    exact (Except.ok.inj henter).symm

lemma two_le_total (h : MultipartPart.parse pf raw = .ok part) : 2 ≤ part.total := by
  obtain ⟨_, -, h⟩ := bind_eq_ok.1 h
  rw [MultipartPart.ofFields.eq_def] at h
  split at h
  · obtain ⟨_, -, h⟩ := bind_eq_ok.1 h
    obtain ⟨_, -, h⟩ := bind_eq_ok.1 h
    obtain ⟨_, -, h⟩ := bind_eq_ok.1 h
    obtain ⟨⟨index, total⟩, hposition, h⟩ := bind_eq_ok.1 h
    obtain ⟨_, -, h⟩ := bind_eq_ok.1 h
    obtain ⟨_, -, h⟩ := bind_eq_ok.1 h
    cases h
    show 2 ≤ total
    grind [MultipartPart.parsePosition]
  · cases h

lemma enter_lacking (h : Lacking s) (hparse : MultipartPart.parse pf raw = .ok part)
    (henter : s.enter part now = .ok opened) : opened.bundleId ≠ none ∧
      opened.chunks = s.chunks ∧ opened.chunks.entries.length < opened.total := by
  have htwo := two_le_total hparse
  rw [MultipartSession.enter] at henter
  cases hopen : s.bundleId with
  | none =>
    rw [hopen] at henter
    cases henter
    refine ⟨Option.some_ne_none _, rfl, ?_⟩
    rw [h.closed hopen]
    exact Nat.lt_of_lt_of_le Nat.zero_lt_two htwo
  | some bundleId =>
    rw [hopen] at henter
    dsimp only at henter
    split_ifs at henter
    cases henter
    have hne : s.bundleId ≠ none := by simp [hopen]
    exact ⟨hne, rfl, h.missing hne⟩

lemma lacking_empty : Lacking {} := ⟨fun _ => rfl, fun h => absurd rfl h⟩

lemma accept_stored (parseBundle : Text → Except String B) (hpart : isMultipart raw = true)
    {stored : MultipartSession}
    (hadd : s.add pf raw now = (stored.progress pf, stored)) :
    (stored.chunks.entries.length < stored.total ∧ damaged pf parseBundle stored = false ∧
      (accept pf parseBundle s raw now).1.isOk = true ∧
      (accept pf parseBundle s raw now).2 = stored) ∨
    (damaged pf parseBundle stored = false ∧ (accept pf parseBundle s raw now).1.isOk = true ∧
      (accept pf parseBundle s raw now).2 = {}) ∨
    (stored.total ≤ stored.chunks.entries.length ∧ damaged pf parseBundle stored = true ∧
      (accept pf parseBundle s raw now).1.isOk = false ∧
      (accept pf parseBundle s raw now).2 = stored) := by
  rw [accept, if_pos hpart, hadd, MultipartSession.progress, damaged]
  by_cases hlt : stored.chunks.entries.length < stored.total
  · exact .inl ⟨hlt, by simp [not_le.2 hlt], by simp [hlt, Except.isOk, Except.toBool]⟩
  rw [if_neg hlt]
  right
  cases ((List.range stored.total).map (· + 1)).mapM (MultipartSession.getValue stored.chunks) with
  | error err => exact .inr ⟨not_lt.1 hlt, by simp [not_lt.1 hlt, Except.toOption], rfl, rfl⟩
  | ok chunks =>
    simp only [ok_bind, Except.toOption, Option.any_some, intact, not_lt.1 hlt, decide_true,
      Bool.true_and]
    cases hsum : sha256 pf chunks.flatten == stored.hash &&
        (stored.bundleId.getD []).isPrefixOf (sha256 pf chunks.flatten) with
    | false => exact .inr ⟨trivial, rfl, rfl, rfl⟩
    | true =>
      simp only [ensure, reduceIte, ok_bind, pure, Except.pure]
      cases parseBundle chunks.flatten with
      | error err => exact .inr ⟨trivial, rfl, rfl, rfl⟩
      | ok bundle => exact .inl ⟨rfl, rfl, rfl⟩

lemma accept_cases (pf : Platform) (parseBundle : Text → Except String B) (raw : Text)
    (now : Int64) (h : Lacking s) :
    (withPart pf s raw now = none ∧ (accept pf parseBundle s raw now).2 = s) ∨
    (withPart pf s raw now = none ∧ expires pf s raw now = true ∧
      (accept pf parseBundle s raw now).2 = {}) ∨
    ∃ stored, withPart pf s raw now = some stored ∧ isMultipart raw = true ∧
      s.expired now = false ∧ stored.bundleId ≠ none ∧
      s.chunks.entries.length < stored.total ∧ s.add pf raw now = (stored.progress pf, stored) := by
  by_cases hpart : isMultipart raw = true
  swap
  · exact .inl ⟨by simp [withPart, hpart], by simp [accept, hpart]⟩
  cases hparse : MultipartPart.parse pf raw with
  | error err =>
    exact .inl ⟨by simp [withPart, hparse], by simp [accept, hpart, MultipartSession.add, hparse]⟩
  | ok part =>
    by_cases hexpired : s.expired now = true
    · refine .inr (.inl ⟨by simp [withPart, hexpired], ?_, ?_⟩)
      · simp [expires, hpart, hparse, hexpired, Except.isOk, Except.toBool]
      · simp [accept, hpart, MultipartSession.add, hparse, hexpired, MultipartSession.clear]
    cases henter : s.enter part now with
    | error err =>
      refine .inl ⟨by simp [withPart, hparse, henter], ?_⟩
      simp [accept, hpart, MultipartSession.add, hparse, hexpired, henter]
    | ok opened =>
      have hadd : s.add pf raw now = opened.store pf part := by
        simp [MultipartSession.add, hparse, hexpired, henter]
      by_cases hprevious : opened.chunks.lookup part.index = none ∨
          opened.chunks.lookup part.index = some part.chunk
      · obtain ⟨hne, hchunks, hlt⟩ := enter_lacking h hparse henter
        refine .inr (.inr ⟨{ opened with
          chunks := MultipartSession.putIfAbsent opened.chunks part.index part.chunk }, ?_, hpart,
          Bool.eq_false_iff.2 hexpired, hne, hchunks ▸ hlt, hadd.trans (if_pos hprevious)⟩)
        simp [withPart, hpart, hexpired, hparse, henter, hprevious]
      · -- the chunk at the place of the part is another one
        rw [not_or] at hprevious
        obtain rfl := enter_of_conflict h henter hprevious.1
        refine .inl ⟨by simp [withPart, hparse, henter, hprevious], ?_⟩
        have hsome : (opened.chunks.lookup part.index).isSome = true :=
          Option.isSome_iff_ne_none.2 hprevious.1
        simp [accept, hpart, hadd, MultipartSession.store, hprevious,
          MultipartSession.putIfAbsent, hsome]

lemma Lacking.step (h : Lacking s) {c : ImportCommand} (hc : NotRefused pf parseBundle s c) :
    Lacking (step pf parseBundle s c) := by
  cases c with
  | clear => exact lacking_empty
  | accept raw now =>
    show Lacking (accept pf parseBundle s raw now).2
    rcases accept_cases pf parseBundle raw now h with ⟨-, hs⟩ | ⟨-, -, hs⟩ |
      ⟨stored, hwith, hpart, -, hne, -, hadd⟩
    · rwa [hs]
    · rw [hs]
      exact lacking_empty
    · rcases accept_stored parseBundle hpart hadd with
        ⟨hlt, -, -, hs⟩ | ⟨-, -, hs⟩ | ⟨-, hdamaged, -⟩
      · rw [hs]
        exact ⟨fun hnone => absurd hnone hne, fun _ => hlt⟩
      · rw [hs]
        exact lacking_empty
      · exact absurd hc (by simp [NotRefused, fails, hwith, hdamaged])

lemma noTrace_iff_notRefused (h : Lacking s) (c : ImportCommand) :
    NoTrace pf parseBundle s c ↔ NotRefused pf parseBundle s c := by
  cases c with
  | clear => exact Iff.rfl
  | accept raw now =>
    show (_ ∧ _) ↔ _
    rcases accept_cases pf parseBundle raw now h with ⟨hwith, hs⟩ | ⟨hwith, hexpires, -⟩ |
      ⟨stored, hwith, hpart, hexpired, -, hlt, hadd⟩
    · simp [NotRefused, fails, hwith, hs]
    · simp [NotRefused, fails, hwith, hexpires]
    · rcases accept_stored parseBundle hpart hadd with
        ⟨-, hintact, hok, -⟩ | ⟨hintact, hok, -⟩ | ⟨hfull, hdamaged, herror, hs⟩
      · simp [NotRefused, fails, hwith, hintact, hok]
      · simp [NotRefused, fails, hwith, hintact, hok]
      · -- the last part of a damaged set stays in the session
        have hne : stored ≠ s := by
          rintro rfl
          omega
        simp [NotRefused, fails, hwith, hdamaged, herror, hs, hne, expires, hexpired]

/-- **When imports that fail leave no trace.** -/
theorem no_trace_iff (pf : Platform) (parseBundle : Text → Except String B)
    (commands : List ImportCommand) :
    Along (step pf parseBundle) (NoTrace pf parseBundle) {} commands ↔
      Along (step pf parseBundle) (NotRefused pf parseBundle) {} commands :=
  along_congr _ (I := Lacking) (fun _ c h => noTrace_iff_notRefused h c)
    (fun _ c h hc => h.step ((noTrace_iff_notRefused h c).1 hc))
    lacking_empty

def partOf (payload : Text) (position chunk : Text) : Text :=
  "olcrtc+part:1:".toList ++ (sha256 plainPlatform payload).take 16 ++ ':' :: position ++
    ':' :: sha256 plainPlatform payload ++ ':' :: chunk

/-- **A damaged part is in the way until the session expires.**  The second of two parts has a
wrong character.  The checksum is refused, but the part stays; the right one is then refused as a
duplicate, and a part of another bundle because it is of another session. -/
theorem damaged_part_stays :
    ¬ Along (step (B := Text) plainPlatform .ok) (NoTrace plainPlatform .ok) {}
      [.accept (partOf "ab".toList "1/2".toList "a".toList) 5,
        .accept (partOf "ab".toList "2/2".toList "c".toList) 6] ∧
    results (B := Text) plainPlatform .ok {}
      [⟨0, partOf "ab".toList "1/2".toList "a".toList, 5⟩,
        ⟨1, partOf "ab".toList "2/2".toList "c".toList, 6⟩,
        ⟨1, partOf "ab".toList "2/2".toList "b".toList, 7⟩,
        ⟨0, partOf "xyz".toList "1/2".toList "x".toList, 8⟩]
      = [.ok (.pending 1 2), .error "Multipart checksum mismatch",
          .error "Conflicting multipart duplicate",
          .error "Multipart part belongs to another session"] := by
  refine ⟨fun h => ?_, by decide +kernel⟩
  have hfirst : Lacking (step (B := Text) plainPlatform .ok {}
      (.accept (partOf "ab".toList "1/2".toList "a".toList) 5)) :=
    lacking_empty.step (show fails _ _ _ _ _ = false by decide +kernel)
  have hlast : fails _ _ _ _ _ = false := (noTrace_iff_notRefused hfirst _).1 h.2.1
  exact absurd hlast (by decide +kernel)

end BundleImportDispatcher

end OlcRtc.Client
