import Mathlib.Algebra.Group.Int.Defs
import OlcRtc.Lib.Json

/-!
# Records in JSON

How Go's `encoding/json` writes a record and reads one back.

`marshal` is the compact text with the escapes of `json.Marshal`.  `unmarshal` follows
`json.Unmarshal` into a struct: the members of the object are taken in the order of the text, each
goes to the field of its name (or, failing that, of its name up to case), members without a field
are ignored, `null` leaves a field alone, and a value of the wrong kind is an error.  A `string`
field takes a string, an `int` field a numeral without fraction and exponent that fits, and a
`map[string]any` field an object, whose numbers become `float64`.

A Go map is represented by the list of its members in the order of the text; of two members of one
name the later one counts.

`unmarshal_marshal` is what callers use: the members of a marshalled object reach the fields.
-/

namespace OlcRtc

/-! ## Writing -/

/-- The escape `json.Marshal` writes for a character: besides what JSON demands, the characters
    that HTML and JavaScript would take for more than text. -/
def goEscape (c : Char) : List Char :=
  if c = '"' then ['\\', '"']
  else if c = '\\' then ['\\', '\\']
  else if c = Char.ofNat 8 then ['\\', 'b']
  else if c = Char.ofNat 12 then ['\\', 'f']
  else if c = '\n' then ['\\', 'n']
  else if c = '\r' then ['\\', 'r']
  else if c = '\t' then ['\\', 't']
  else if c.toNat < 32 ∨ c = '<' ∨ c = '>' ∨ c = '&' ∨ c.toNat = 0x2028 ∨ c.toNat = 0x2029 then
    '\\' :: 'u' :: hexPut 4 c.toNat
  else [c]

lemma escapes_goEscape : Json.Escapes goEscape := by
  intro c rest
  unfold goEscape
  split_ifs with hq hb hbs hff hn hr ht hu
  · subst hq
    exact Json.readChar_short rfl
  · subst hb
    exact Json.readChar_short rfl
  · subst hbs
    exact Json.readChar_short rfl
  · subst hff
    exact Json.readChar_short rfl
  · subst hn
    exact Json.readChar_short rfl
  · subst hr
    exact Json.readChar_short rfl
  · subst ht
    exact Json.readChar_short rfl
  · refine Json.readChar_unicode ?_
    rcases hu with hu | rfl | rfl | rfl | hu | hu
    · omega
    · decide
    · decide
    · decide
    · omega
    · omega
  · rw [not_or] at hu
    exact Json.readChar_raw hq hb (Nat.le_of_not_lt hu.1)

/-- `json.Marshal`, from the value on. -/
def marshal (v : Json) : List Char := v.print goEscape

/-! ## Reading -/

/-- Why a text is not a record. -/
inductive JsonError
  | malformed
  | mismatch (field : String)
  deriving DecidableEq

/-- How deep `encoding/json` lets arrays and objects nest. -/
def maxNestingDepth : ℕ := 10000

/-- A field of a record: its name, and what a value does to it. -/
structure JsonField (α : Type) where
  name : String
  set : Json → α → Option α

/-- A character up to case.  Apart from the Latin letters themselves only the long s and the
    Kelvin sign are Latin letters up to case. -/
def foldChar (c : Char) : Char :=
  if c.toNat = 0x017F then 'S' else if c.toNat = 0x212A then 'K' else c.toUpper

def foldName (name : String) : List Char := name.toList.map foldChar

def fieldOf {α : Type} (fields : List (JsonField α)) (name : String) : Option (JsonField α) :=
  (fields.find? fun f => f.name == name) <|>
    fields.find? fun f => foldName f.name == foldName name

def setMembers {α : Type} (fields : List (JsonField α)) :
    List (String × Json) → α → Except JsonError α
  | [], a => .ok a
  | (name, v) :: ms, a =>
    match fieldOf fields name with
    | none => setMembers fields ms a
    | some f =>
      match f.set v a with
      | some a => setMembers fields ms a
      | none => .error (.mismatch f.name)

/-- `json.Unmarshal` into a record whose fields are all zero. -/
def unmarshal {α : Type} (fields : List (JsonField α)) (zero : α) (text : List Char) :
    Except JsonError α :=
  match Json.parse maxNestingDepth text with
  | none => .error .malformed
  | some .null => .ok zero
  | some (.obj ms) => setMembers fields ms zero
  | some _ => .error (.mismatch "")

/-- A `string` field. -/
def setString {α : Type} (put : String → α → α) : Json → α → Option α
  | .str s, a => some (put s a)
  | .null, a => some a
  | _, _ => none

/-- An `int` field. -/
def setInt {α : Type} (put : ℤ → α → α) : Json → α → Option α
  | .num n, a =>
    match intVal n.text with
    | some i => if -2 ^ 63 ≤ i ∧ i < 2 ^ 63 then some (put i a) else none
    | none => none
  | .null, a => some a
  | _, _ => none

section Any

variable (float64 : Numeral → Option Numeral)

mutual

/-- A value as an `any`.  `float64` is `convertNumber`: the number a numeral is rounded to, as the
numeral it is written with, or `none` if it is out of range. -/
def Json.toAny : Json → Option Json
  | .num n => (float64 n).map .num
  | .arr vs => (toAnyItems vs).map .arr
  | .obj ms => (toAnyMembers ms).map .obj
  | v => some v

def Json.toAnyItems : List Json → Option (List Json)
  | [] => some []
  | v :: vs => do return (← toAny v) :: (← toAnyItems vs)

def Json.toAnyMembers : List (String × Json) → Option (List (String × Json))
  | [] => some []
  | (name, v) :: ms => do return (name, ← toAny v) :: (← toAnyMembers ms)

end

/-- A `map[string]any` field: an object is put on top of what the map has, `null` empties it. -/
def setMap {α : Type} (change : (List (String × Json) → List (String × Json)) → α → α) :
    Json → α → Option α
  | .obj ms, a => (Json.toAnyMembers float64 ms).map fun ms => change (· ++ ms) a
  | .null, a => some (change (fun _ => []) a)
  | _, _ => none

end Any

/-! ## What is written is read -/

lemma setInt_ofInt {α : Type} (put : ℤ → α → α) (a : α) {i : ℤ} (hlo : -2 ^ 63 ≤ i)
    (hhi : i < 2 ^ 63) : setInt put (.ofInt i) a = some (put i a) := by
  simp only [Json.ofInt, setInt, intVal_decimalInt]
  rw [if_pos ⟨hlo, hhi⟩]

/-- **The members of a marshalled object reach the fields**, unless it is nested too deep. -/
theorem unmarshal_marshal {α : Type} (fields : List (JsonField α)) (zero : α)
    (ms : List (String × Json)) :
    unmarshal fields zero (marshal (.obj ms))
      = if (Json.obj ms).depth ≤ maxNestingDepth then setMembers fields ms zero
        else .error .malformed := by
  rw [unmarshal, marshal, Json.parse_print escapes_goEscape]
  split_ifs <;> rfl

end OlcRtc
