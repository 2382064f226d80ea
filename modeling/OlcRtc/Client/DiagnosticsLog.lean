import Mathlib.Algebra.GroupWithZero.Nat
import Mathlib.Data.List.DropRight
import Mathlib.Data.List.Sort

/-!
# The text of the diagnostics log

`DiagnosticsLogStore` writes one log file a day, and `readRedacted` puts the files into one text for
a report: in the order of their names, each below a line with its name, with all that is secret
taken out, and only the last characters if there are too many.

The loop stops with the first file that fills the text.  The files are read from the oldest to the
newest, so what is cut off then is not only the beginning of the text but also every file that comes
after.  **`readRedacted_eq`** says by the sizes of the files when the result is nevertheless the end
of all logs: the file with which the loop stops has enough characters and no file after it has any.
While all files fit it never is, for the lines with the names are not in the logs.
`readRedacted_drops_newest` is a log of two days of which the second is left out.
-/

namespace OlcRtc.Client

/-- A Kotlin string as its UTF-16 code units: what is counted and what names are ordered by. -/
abbrev Units := List UInt16

/-- The code units of a text without surrogates. -/
def units (s : String) : Units := s.toList.map fun c => UInt16.ofNat c.toNat

structure LogFile where
  name : Units
  isFile : Bool
  text : Units
  deriving DecidableEq

namespace DiagnosticsLogStore

/-- `logFiles`; a directory that cannot be listed has none. -/
def logFiles (directory : Option (List LogFile)) : List LogFile :=
  ((directory.getD []).filter fun f => f.isFile ∧ units ".log" <:+ f.name).insertionSort
    fun f g => f.name ≤ g.name

variable (redact : Units → Units)

/-- What the loop appends to the text for one file. -/
def appendFile (builder : Units) (file : LogFile) : Units :=
  builder ++ (if builder = [] then [] else units "\n") ++ units "# " ++ file.name ++ units "\n" ++
    redact file.text

/-- The loop of `readRedacted`. -/
def readFrom (maxBytes : ℕ) (builder : Units) : List LogFile → Units
  | [] => builder
  | file :: rest =>
    let builder := appendFile redact builder file
    if builder.length ≥ maxBytes then builder.rtake maxBytes else readFrom maxBytes builder rest

def readRedacted (directory : Option (List LogFile)) (maxBytes : ℕ) : Units :=
  readFrom redact maxBytes [] (logFiles directory)

def contents (files : List LogFile) : Units := files.flatMap fun file => redact file.text

/-- The characters that files take up: with the text of each comes a line with its name, which is
four longer. -/
def size (files : List LogFile) : ℕ :=
  (files.map fun file => file.name.length + (redact file.text).length + 4).sum

/-- The loop stops with a file that has enough characters, and no file after it has any. -/
def EndsFull (maxBytes : ℕ) (files : List LogFile) : Prop :=
  ∃ older file newer, files = older ++ file :: newer ∧ size redact older ≤ maxBytes ∧
    maxBytes ≤ (redact file.text).length ∧ ∀ f ∈ newer, redact f.text = []

variable {redact} {maxBytes : ℕ} {builder : Units} {files older newer : List LogFile}
  {file : LogFile}

/-! ## The loop -/

/-- The characters of a text, and one for the line break before the next file. -/
def used (builder : Units) : ℕ := if builder = [] then 0 else builder.length + 1

lemma used_appendFile (redact : Units → Units) (builder : Units) (file : LogFile) :
    used (appendFile redact builder file) = used builder + size redact [file] := by
  have hsign : (units "# ").length = 2 := rfl
  have hbreak : (units "\n").length = 1 := rfl
  have hne : appendFile redact builder file ≠ [] := by
    intro hnil
    have hlength := congrArg List.length hnil
    simp [appendFile, hsign] at hlength
  rw [used, if_neg hne, used, appendFile]
  split_ifs with hnil <;> simp [hnil, size, hsign, hbreak] <;> omega

lemma used_foldl_appendFile (redact : Units → Units) (files : List LogFile) (builder : Units) :
    used (files.foldl (appendFile redact) builder) = used builder + size redact files := by
  induction files generalizing builder with
  | nil => simp [size]
  | cons file rest ih =>
    rw [List.foldl_cons, ih, used_appendFile, Nat.add_assoc]
    simp [size]

lemma length_lt_iff (hpos : 0 < maxBytes) :
    builder.length < maxBytes ↔ used builder ≤ maxBytes := by
  rw [used]
  split_ifs with hnil
  · simpa [hnil] using hpos
  · exact Iff.rfl

lemma readFrom_append (hpos : 0 < maxBytes) (rest : List LogFile)
    (h : used builder + size redact older ≤ maxBytes) :
    readFrom redact maxBytes builder (older ++ rest) =
      readFrom redact maxBytes (older.foldl (appendFile redact) builder) rest := by
  induction older generalizing builder with
  | nil => rfl
  | cons file older ih =>
    have hsize : size redact (file :: older) = size redact [file] + size redact older := by
      simp [size]
    have hnext : used (appendFile redact builder file) + size redact older ≤ maxBytes := by
      rw [used_appendFile]
      omega
    have hlt := (length_lt_iff hpos).2 (Nat.le_of_add_right_le hnext)
    rw [List.cons_append, readFrom, if_neg (not_le.2 hlt), ih hnext, List.foldl_cons]

/-! ## What is kept -/

lemma rtake_append {α : Type*} (a : List α) {b : List α} {n : ℕ} (h : n ≤ b.length) :
    (a ++ b).rtake n = b.rtake n := by
  rw [List.rtake, List.rtake, List.length_append, List.drop_append,
    List.drop_eq_nil_of_le (by omega), List.nil_append]
  congr 1
  omega

lemma length_contents (redact : Units → Units) (files : List LogFile) :
    (contents redact files).length + 4 * files.length ≤ size redact files := by
  induction files with
  | nil => simp [contents]
  | cons file rest ih =>
    simp only [contents, size, List.flatMap_cons, List.length_append, List.map_cons, List.sum_cons,
      List.length_cons] at ih ⊢
    omega

lemma contents_append (newer : List LogFile) :
    contents redact (older ++ file :: newer) =
      contents redact older ++ redact file.text ++ contents redact newer := by
  simp [contents]

/-- **When the report is the end of all logs.** -/
theorem readRedacted_eq (redact : Units → Units) (directory : Option (List LogFile)) (maxBytes : ℕ)
    (hpos : 0 < maxBytes) :
    (logFiles directory = [] ∨ EndsFull redact maxBytes (logFiles directory) →
      readRedacted redact directory maxBytes =
        (contents redact (logFiles directory)).rtake maxBytes) ∧
    (logFiles directory ≠ [] → size redact (logFiles directory) ≤ maxBytes →
      readRedacted redact directory maxBytes ≠
        (contents redact (logFiles directory)).rtake maxBytes) := by
  rw [readRedacted]
  generalize logFiles directory = files
  constructor
  · rintro (rfl | ⟨older, file, newer, rfl, holder, hfile, hnewer⟩)
    · rw [readFrom, contents, List.flatMap_nil, List.rtake_nil]
    · have hnone : contents redact newer = [] := List.flatMap_eq_nil_iff.2 hnewer
      have hfull (text : Units) : maxBytes ≤ (appendFile redact text file).length := by
        rw [appendFile, List.length_append]
        omega
      rw [readFrom_append hpos _ (by simpa [used] using holder), readFrom, if_pos (hfull _),
        appendFile, rtake_append _ hfile, contents_append, hnone, List.append_nil,
        rtake_append _ hfile]
  · intro hne hsize heq
    have hused : used [] + size redact files ≤ maxBytes := by simpa [used] using hsize
    have hall := readFrom_append hpos [] hused
    rw [List.append_nil, readFrom] at hall
    rw [hall] at heq
    have hfold := used_foldl_appendFile redact files []
    have hlength := congrArg List.length heq
    have hcontents := length_contents redact files
    have hfiles := List.length_pos_iff.2 hne
    rw [List.rtake, List.length_drop] at hlength
    rw [used, used, if_pos rfl] at hfold
    split_ifs at hfold <;> omega

/-- Three files of which the second fills the text and the last is empty. -/
theorem readRedacted_eq_second :
    let files : List LogFile := [⟨units "b.log", true, units "the second day"⟩,
      ⟨units "c.log", true, []⟩, ⟨units "a.log", true, units "first"⟩]
    readRedacted id (some files) 14 = (contents id (logFiles (some files))).rtake 14 :=
  (readRedacted_eq id _ 14 (by decide)).1 (.inr ⟨[⟨units "a.log", true, units "first"⟩],
    ⟨units "b.log", true, units "the second day"⟩, [⟨units "c.log", true, []⟩],
    by decide +kernel, by decide +kernel, by decide +kernel, by simp⟩)

/-- Two days of which the report is to have five characters: it has those of the first day. -/
theorem readRedacted_drops_newest :
    let files : List LogFile := [⟨units "a.log", true, units "first"⟩,
      ⟨units "b.log", true, units "second day"⟩]
    readRedacted id (some files) 5 = units "first" ∧
      (contents id (logFiles (some files))).rtake 5 = units "d day" := by
  decide +kernel

end DiagnosticsLogStore

end OlcRtc.Client
