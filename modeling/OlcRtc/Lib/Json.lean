import Mathlib.Data.Int.Notation
import Mathlib.Data.List.Basic
import Mathlib.Tactic.Common
import OlcRtc.Lib.Hex

/-!
# JSON texts

JSON values, a parser of the grammar of JSON texts, and the compact printer.

Numbers stay the numerals of the text: what a numeral means is the reader's business.  Objects stay
lists of members in the order of the text, so a reader decides what a repeated name means.  The
parser takes a bound on the nesting depth, as parsers in use do; the printer takes the function
that escapes a character, since writers of JSON agree on what must be escaped and on nothing else.

The main result is `parse_print`: **a printed value is read back**, whatever the escapes, as long as
each of them denotes its character (`Escapes`).  A printed value that is nested too deep is refused,
and never read as another value.
-/

namespace OlcRtc

/-! ## Numerals -/

inductive NumeralState
  | start | minus | zero | int | dot | frac | exp | expSign | expDigits
  deriving DecidableEq

/-- One character of a numeral: `-? (0 | [1-9][0-9]*) (. [0-9]+)? ([eE] [+-]? [0-9]+)?`. -/
def NumeralState.next : NumeralState → Char → Option NumeralState
  | .start, c =>
    if c = '-' then some .minus else if c = '0' then some .zero
    else if c.isDigit then some .int else none
  | .minus, c => if c = '0' then some .zero else if c.isDigit then some .int else none
  | .zero, c => if c = '.' then some .dot else if c = 'e' ∨ c = 'E' then some .exp else none
  | .int, c =>
    if c.isDigit then some .int else if c = '.' then some .dot
    else if c = 'e' ∨ c = 'E' then some .exp else none
  | .dot, c => if c.isDigit then some .frac else none
  | .frac, c =>
    if c.isDigit then some .frac else if c = 'e' ∨ c = 'E' then some .exp else none
  | .exp, c =>
    if c = '+' ∨ c = '-' then some .expSign else if c.isDigit then some .expDigits else none
  | .expSign, c => if c.isDigit then some .expDigits else none
  | .expDigits, c => if c.isDigit then some .expDigits else none

def NumeralState.scan : NumeralState → List Char → Option NumeralState
  | q, [] => some q
  | q, c :: s => (q.next c).bind fun q => q.scan s

def NumeralState.Accepts : NumeralState → Bool
  | .zero | .int | .frac | .expDigits => true
  | _ => false

def isNumeral (s : List Char) : Bool := (NumeralState.start.scan s).any NumeralState.Accepts

structure Numeral where
  text : List Char
  ok : isNumeral text = true
  deriving DecidableEq

def numeralChar (c : Char) : Bool :=
  c.isDigit || c == '-' || c == '+' || c == '.' || c == 'e' || c == 'E'

lemma NumeralState.numeralChar_of_next {q q' : NumeralState} {c : Char}
    (h : q.next c = some q') : numeralChar c = true := by
  by_contra hc
  simp only [numeralChar, Bool.or_eq_true, beq_iff_eq, not_or, Bool.not_eq_true] at hc
  obtain ⟨⟨⟨⟨⟨hd, hm⟩, hp⟩, hdot⟩, he⟩, hE⟩ := hc
  have h0 : c ≠ '0' := by
    rintro rfl
    exact absurd hd (by decide)
  cases q <;> simp [next, hd, hm, hp, hdot, he, hE, h0] at h

lemma NumeralState.numeralChar_of_scan {s : List Char} :
    ∀ {q q' : NumeralState}, q.scan s = some q' → ∀ c ∈ s, numeralChar c = true := by
  induction s with
  | nil => simp
  | cons a s ih =>
    intro q q' h c hc
    obtain ⟨p, hp, hs⟩ := Option.bind_eq_some_iff.1 h
    rcases List.mem_cons.1 hc with rfl | hc
    · exact numeralChar_of_next hp
    · exact ih hs c hc

lemma Numeral.numeralChar_of_mem (n : Numeral) : ∀ c ∈ n.text, numeralChar c = true := by
  obtain ⟨q, hq, -⟩ := (Option.any_eq_true _ _).1 n.ok
  exact NumeralState.numeralChar_of_scan hq

lemma Numeral.text_ne_nil (n : Numeral) : n.text ≠ [] := by
  intro h
  have := n.ok
  rw [h] at this
  exact absurd this (by decide)

/-! ### Decimal integers -/

lemma NumeralState.scan_int : ∀ {s : List Char}, (∀ c ∈ s, c.isDigit = true) →
    NumeralState.int.scan s = some .int
  | [], _ => rfl
  | c :: s, h => by
    have hc : c.isDigit = true := h c (by simp)
    have ih := scan_int fun x hx => h x (List.mem_cons_of_mem c hx)
    simp [scan, next, hc, ih]

lemma digitChar_cases : ∀ n < 10, n.digitChar = '0' ∨
    n.digitChar ≠ '0' ∧ n.digitChar ≠ '-' ∧ n.digitChar.isDigit = true := by decide

lemma toDigits_head (n : ℕ) : Nat.toDigits 10 n = ['0'] ∨
    ∃ c s, Nat.toDigits 10 n = c :: s ∧ c ≠ '0' ∧ c ≠ '-' ∧ c.isDigit = true ∧
      ∀ x ∈ s, x.isDigit = true := by
  induction n using Nat.strongRecOn with
  | ind n ih =>
    by_cases hn : n < 10
    · rw [Nat.toDigits_of_lt_base hn]
      rcases digitChar_cases n hn with h | ⟨h0, hm, hd⟩
      · exact Or.inl (by rw [h])
      · exact Or.inr ⟨_, [], rfl, h0, hm, hd, by simp⟩
    · have hdiv : n / 10 < n := by omega
      rw [Nat.toDigits_of_base_le (by decide) (by omega)]
      right
      rcases ih (n / 10) hdiv with h0 | ⟨c, s, hcs, hc0, hcm, hcd, hs⟩
      · -- the leading digits are not `0`, for `10 ≤ n`
        have hval := Nat.ofDigitChars_toDigits (b := 10) (n := n / 10) (by decide) (by decide)
        rw [h0] at hval
        have : (0 : ℕ) = n / 10 := hval
        omega
      · refine ⟨c, s ++ [(n % 10).digitChar], by rw [hcs]; rfl, hc0, hcm, hcd, ?_⟩
        intro x hx
        refine Nat.isDigit_of_mem_toDigits (b := 10) (n := n) (by decide) (by decide) ?_
        rw [Nat.toDigits_of_base_le (by decide) (by omega), hcs]
        exact List.mem_cons_of_mem c hx

def decimal (n : ℕ) : List Char := Nat.toDigits 10 n

def decimalInt : ℤ → List Char
  | .ofNat n => decimal n
  | .negSucc n => '-' :: decimal (n + 1)

lemma isNumeral_decimalInt (i : ℤ) : isNumeral (decimalInt i) = true := by
  cases i with
  | ofNat n =>
    rcases toDigits_head n with h | ⟨c, s, h, hc0, hcm, hcd, hs⟩
    · simp only [decimalInt, decimal, h]
      decide
    · simp [decimalInt, decimal, h, isNumeral, NumeralState.scan, NumeralState.next, hc0, hcm,
        hcd, NumeralState.scan_int hs, NumeralState.Accepts]
  | negSucc n =>
    rcases toDigits_head (n + 1) with h | ⟨c, s, h, hc0, hcm, hcd, hs⟩
    · simp only [decimalInt, decimal, h]
      decide
    · simp [decimalInt, decimal, h, isNumeral, NumeralState.scan, NumeralState.next, hc0, hcd,
        NumeralState.scan_int hs, NumeralState.Accepts]

def digitsVal (s : List Char) : Option ℕ :=
  if s ≠ [] ∧ s.all Char.isDigit then some (Nat.ofDigitChars 10 s 0) else none

/-- The integer of a numeral that has neither fraction nor exponent. -/
def intVal : List Char → Option ℤ
  | '-' :: s => (digitsVal s).map fun n => -(n : ℤ)
  | s => (digitsVal s).map fun n => (n : ℤ)

lemma digitsVal_decimal (n : ℕ) : digitsVal (decimal n) = some n := by
  have hall : (decimal n).all Char.isDigit = true :=
    List.all_eq_true.2 fun c hc => Nat.isDigit_of_mem_toDigits (by decide) (by decide) hc
  rw [digitsVal, if_pos ⟨Nat.toDigits_ne_nil, hall⟩, decimal,
    Nat.ofDigitChars_toDigits (by decide) (by decide)]

/-- **An integer is read back** from its decimal numeral. -/
lemma intVal_decimalInt (i : ℤ) : intVal (decimalInt i) = some i := by
  cases i with
  | ofNat n =>
    have hval := digitsVal_decimal n
    show intVal (decimal n) = some (n : ℤ)
    rcases toDigits_head n with h | ⟨c, s, h, -, hcm, -, -⟩
    · simp only [decimal, h] at hval ⊢
      simp [intVal, hval]
    · simp only [decimal, h] at hval ⊢
      rw [intVal.eq_2 _ (by rintro s' heq; exact hcm (List.cons.inj heq).1), hval]
      rfl
  | negSucc n =>
    rw [decimalInt, intVal, digitsVal_decimal]
    rfl

/-! ## Values -/

inductive Json
  | null
  | bool (b : Bool)
  | num (n : Numeral)
  | str (s : String)
  | arr (items : List Json)
  | obj (members : List (String × Json))

namespace Json

def ofInt (i : ℤ) : Json := .num ⟨decimalInt i, isNumeral_decimalInt i⟩

mutual

/-- How many values, items and members a value is made of. -/
def size : Json → ℕ
  | .arr [] => 1
  | .arr (v :: vs) => 1 + size v + sizeItems vs
  | .obj [] => 1
  | .obj ((_, v) :: ms) => 1 + size v + sizeMembers ms
  | _ => 1

def sizeItems : List Json → ℕ
  | [] => 1
  | v :: vs => 1 + size v + sizeItems vs

def sizeMembers : List (String × Json) → ℕ
  | [] => 1
  | (_, v) :: ms => 1 + size v + sizeMembers ms

end

mutual

def depth : Json → ℕ
  | .arr vs => 1 + depthItems vs
  | .obj ms => 1 + depthMembers ms
  | _ => 0

def depthItems : List Json → ℕ
  | [] => 0
  | v :: vs => max (depth v) (depthItems vs)

def depthMembers : List (String × Json) → ℕ
  | [] => 0
  | (_, v) :: ms => max (depth v) (depthMembers ms)

end

/-! ## Reading strings -/

def shortEscape (c : Char) : Option Char :=
  match c with
  | '"' => some '"'
  | '\\' => some '\\'
  | '/' => some '/'
  | 'b' => some (Char.ofNat 8)
  | 'f' => some (Char.ofNat 12)
  | 'n' => some '\n'
  | 'r' => some '\r'
  | 't' => some '\t'
  | _ => none

def readHex4 : List Char → Option (ℕ × List Char)
  | a :: b :: c :: d :: s => (hexGet [a, b, c, d]).map fun n => (n, s)
  | _ => none

def replacementChar : Char := Char.ofNat 0xFFFD

/-- The digits of a `\u` escape, with the second escape of a surrogate pair. -/
def readUnicode (s : List Char) : Option (Char × List Char) :=
  (readHex4 s).bind fun (n, s) =>
    if 0xD800 ≤ n ∧ n < 0xDC00 then
      match s with
      | '\\' :: 'u' :: t =>
        match readHex4 t with
        | some (m, t) =>
          if 0xDC00 ≤ m ∧ m < 0xE000 then
            some (Char.ofNat (0x10000 + (n - 0xD800) * 0x400 + (m - 0xDC00)), t)
          else some (replacementChar, s)
        | none => some (replacementChar, s)
      | _ => some (replacementChar, s)
    else if 0xDC00 ≤ n ∧ n < 0xE000 then some (replacementChar, s)
    else some (Char.ofNat n, s)

/-- One character of a string, escaped or not. -/
def readChar : List Char → Option (Char × List Char)
  | [] => none
  | '\\' :: 'u' :: s => readUnicode s
  | '\\' :: c :: s => (shortEscape c).map fun c => (c, s)
  | ['\\'] => none
  | c :: s => if c = '"' ∨ c.toNat < 32 then none else some (c, s)

/-- The rest of a string, after its opening quote. -/
def readString : ℕ → List Char → Option (List Char × List Char)
  | _, '"' :: s => some ([], s)
  | 0, _ => none
  | fuel + 1, s => (readChar s).bind fun (c, s) =>
    (readString fuel s).bind fun (cs, s) => some (c :: cs, s)

/-! ## Reading values -/

def isSpace (c : Char) : Bool := c == ' ' || c == '\t' || c == '\n' || c == '\r'

def skipSpace (s : List Char) : List Char := s.dropWhile isSpace

def readNumeral (s : List Char) : Option (Json × List Char) :=
  if h : isNumeral (s.takeWhile numeralChar) = true then
    some (.num ⟨s.takeWhile numeralChar, h⟩, s.dropWhile numeralChar)
  else none

/-- The name of a member and its colon, from the opening quote on. -/
def readName (s : List Char) : Option (String × List Char) :=
  match skipSpace s with
  | '"' :: s => (readString s.length s).bind fun (name, s) =>
    match skipSpace s with
    | ':' :: s => some (String.ofList name, s)
    | _ => none
  | _ => none

mutual

def readValue : ℕ → List Char → Option (Json × List Char)
  | 0, _ => none
  | fuel + 1, s =>
    match skipSpace s with
    | '"' :: s => (readString s.length s).map fun (cs, s) => (.str (String.ofList cs), s)
    | '[' :: s =>
      match skipSpace s with
      | ']' :: s => some (.arr [], s)
      | s => (readValue fuel s).bind fun (v, s) =>
        (readItems fuel s).map fun (vs, s) => (.arr (v :: vs), s)
    | '{' :: s =>
      match skipSpace s with
      | '}' :: s => some (.obj [], s)
      | s => (readName s).bind fun (name, s) =>
        (readValue fuel s).bind fun (v, s) =>
          (readMembers fuel s).map fun (ms, s) => (.obj ((name, v) :: ms), s)
    | 'n' :: 'u' :: 'l' :: 'l' :: s => some (.null, s)
    | 't' :: 'r' :: 'u' :: 'e' :: s => some (.bool true, s)
    | 'f' :: 'a' :: 'l' :: 's' :: 'e' :: s => some (.bool false, s)
    | s => readNumeral s

def readItems : ℕ → List Char → Option (List Json × List Char)
  | 0, _ => none
  | fuel + 1, s =>
    match skipSpace s with
    | ']' :: s => some ([], s)
    | ',' :: s => (readValue fuel s).bind fun (v, s) =>
      (readItems fuel s).map fun (vs, s) => (v :: vs, s)
    | _ => none

def readMembers : ℕ → List Char → Option (List (String × Json) × List Char)
  | 0, _ => none
  | fuel + 1, s =>
    match skipSpace s with
    | '}' :: s => some ([], s)
    | ',' :: s => (readName s).bind fun (name, s) =>
      (readValue fuel s).bind fun (v, s) =>
        (readMembers fuel s).map fun (ms, s) => ((name, v) :: ms, s)
    | _ => none

end

/-- A whole text: one value and white space around it, with at most `limit` arrays and objects
    nested in each other. -/
def parse (limit : ℕ) (s : List Char) : Option Json :=
  (readValue (s.length + 1) s).bind fun (v, s) =>
    if skipSpace s = [] ∧ v.depth ≤ limit then some v else none

/-! ## Printing -/

variable (esc : Char → List Char)

def quote (s : String) : List Char := '"' :: (s.toList.flatMap esc ++ ['"'])

mutual

def print : Json → List Char
  | .null => ['n', 'u', 'l', 'l']
  | .bool true => ['t', 'r', 'u', 'e']
  | .bool false => ['f', 'a', 'l', 's', 'e']
  | .num n => n.text
  | .str s => quote esc s
  | .arr [] => ['[', ']']
  | .arr (v :: vs) => '[' :: (print v ++ printItems vs)
  | .obj [] => ['{', '}']
  | .obj ((name, v) :: ms) => '{' :: (quote esc name ++ ':' :: (print v ++ printMembers ms))

def printItems : List Json → List Char
  | [] => [']']
  | v :: vs => ',' :: (print v ++ printItems vs)

def printMembers : List (String × Json) → List Char
  | [] => ['}']
  | (name, v) :: ms => ',' :: (quote esc name ++ ':' :: (print v ++ printMembers ms))

end

/-- Every escape denotes its character. -/
def Escapes : Prop := ∀ c rest, readChar (esc c ++ rest) = some (c, rest)

lemma readChar_raw {c : Char} {rest : List Char} (hq : c ≠ '"') (hb : c ≠ '\\')
    (hc : 32 ≤ c.toNat) : readChar (c :: rest) = some (c, rest) := by
  rw [readChar.eq_5 _ _ (by rintro s rfl; exact absurd rfl hb)
    (by rintro d s rfl; exact absurd rfl hb) (by rintro rfl; exact absurd rfl hb)]
  rw [if_neg]
  rintro (h | h)
  · exact hq h
  · omega

lemma readChar_short {e c : Char} {rest : List Char} (h : shortEscape e = some c) :
    readChar ('\\' :: e :: rest) = some (c, rest) := by
  have he : e ≠ 'u' := by
    rintro rfl
    simp [shortEscape] at h
  rw [readChar.eq_3 _ _ (by rintro rfl; exact absurd rfl he), h]
  rfl

lemma readChar_unicode {c : Char} {rest : List Char} (hc : c.toNat < 0x10000) :
    readChar ('\\' :: 'u' :: hexPut 4 c.toNat ++ rest) = some (c, rest) := by
  have hhex : readHex4 (hexPut 4 c.toNat ++ rest) = some (c.toNat, rest) := by
    have hget := hexGet_hexPut 4 (n := c.toNat) (by omega)
    simp only [hexPut, List.nil_append, List.cons_append] at hget ⊢
    rw [readHex4, hget]
    rfl
  have hvalid : c.toNat < 0xD800 ∨ 0xE000 ≤ c.toNat := by
    rcases c.valid with h | h
    · exact Or.inl h
    · exact Or.inr (Nat.succ_le_of_lt h.1)
  rw [List.cons_append, List.cons_append, readChar, readUnicode, hhex]
  simp only [Option.bind_some]
  rw [if_neg (by omega), if_neg (by omega), Char.ofNat_toNat]

/-! ## A printed value is read back -/

lemma skipSpace_cons {c : Char} (s : List Char) (h : isSpace c = false) :
    skipSpace (c :: s) = c :: s := by
  rw [skipSpace, List.dropWhile_cons, h]
  rfl

variable {esc}

lemma Escapes.exists_cons (hesc : Escapes esc) (c : Char) :
    ∃ a s, esc c = a :: s ∧ a ≠ '"' := by
  have h := hesc c []
  rw [List.append_nil] at h
  cases hc : esc c with
  | nil =>
    rw [hc] at h
    exact absurd h (by simp [readChar])
  | cons a s =>
    refine ⟨a, s, rfl, ?_⟩
    rintro rfl
    rw [hc] at h
    simp [readChar] at h

lemma Escapes.length_le (hesc : Escapes esc) : ∀ cs : List Char,
    cs.length ≤ (cs.flatMap esc).length
  | [] => Nat.le_refl 0
  | c :: cs => by
    obtain ⟨a, s, hc, -⟩ := hesc.exists_cons c
    have ih := hesc.length_le cs
    simp only [List.flatMap_cons, List.length_append, List.length_cons, hc]
    omega

lemma readString_flatMap (hesc : Escapes esc) (rest : List Char) :
    ∀ {cs : List Char} {fuel : ℕ}, cs.length ≤ fuel →
      readString fuel (cs.flatMap esc ++ '"' :: rest) = some (cs, rest) := by
  intro cs
  induction cs with
  | nil =>
    intro fuel _
    cases fuel <;> rfl
  | cons c cs ih =>
    intro fuel hfuel
    cases fuel with
    | zero => simp at hfuel
    | succ fuel =>
      obtain ⟨a, s, hc, ha⟩ := hesc.exists_cons c
      have hread := hesc c (cs.flatMap esc ++ '"' :: rest)
      have hrest := ih (Nat.le_of_succ_le_succ hfuel)
      rw [List.flatMap_cons, List.append_assoc]
      rw [hc, List.cons_append] at hread ⊢
      rw [readString.eq_3 _ _ (by rintro t heq; exact ha (List.cons.inj heq).1), hread]
      simp only [Option.bind_some, hrest]

lemma readString_quote (hesc : Escapes esc) (s : String) (rest : List Char) :
    readString (s.toList.flatMap esc ++ '"' :: rest).length (s.toList.flatMap esc ++ '"' :: rest)
      = some (s.toList, rest) := by
  refine readString_flatMap hesc rest ?_
  have := hesc.length_le s.toList
  rw [List.length_append]
  omega

lemma readName_quote (hesc : Escapes esc) (name : String) (rest : List Char) :
    readName (quote esc name ++ ':' :: rest) = some (name, rest) := by
  have hquote : quote esc name ++ ':' :: rest
      = '"' :: (name.toList.flatMap esc ++ '"' :: ':' :: rest) := by simp [quote]
  rw [readName, hquote, skipSpace_cons _ (by decide)]
  simp only [readString_quote hesc, Option.bind_some, skipSpace_cons rest (c := ':') (by decide),
    String.ofList_toList]

/-- What may follow a value: nothing that would continue a numeral. -/
def EndsNumeral (rest : List Char) : Prop := rest.takeWhile numeralChar = []

lemma endsNumeral_cons {c : Char} {s : List Char} (h : numeralChar c = false) :
    EndsNumeral (c :: s) := by
  rw [EndsNumeral, List.takeWhile_cons, h]
  rfl

lemma readNumeral_text (n : Numeral) {rest : List Char} (hrest : EndsNumeral rest) :
    readNumeral (n.text ++ rest) = some (.num n, rest) := by
  have htake : (n.text ++ rest).takeWhile numeralChar = n.text := by
    rw [List.takeWhile_append_of_pos n.numeralChar_of_mem, hrest, List.append_nil]
  have hdrop : (n.text ++ rest).dropWhile numeralChar = rest := by
    have h := List.takeWhile_append_dropWhile (p := numeralChar) (l := n.text ++ rest)
    rw [htake] at h
    exact List.append_cancel_left h
  simp only [readNumeral, htake, hdrop, n.ok, dite_true]

lemma print_head (esc : Char → List Char) (v : Json) :
    ∃ c s, print esc v = c :: s ∧ isSpace c = false ∧ c ≠ ']' := by
  cases v with
  | null => exact ⟨_, _, rfl, by decide, by decide⟩
  | bool b => cases b <;> exact ⟨_, _, rfl, by decide, by decide⟩
  | num n =>
    cases htext : n.text with
    | nil => exact absurd htext n.text_ne_nil
    | cons c s =>
      have hc : numeralChar c = true := n.numeralChar_of_mem c (by rw [htext]; simp)
      refine ⟨c, s, by rw [print, htext], ?_, ?_⟩
      · by_contra hspace
        simp only [isSpace, Bool.not_eq_false, Bool.or_eq_true, beq_iff_eq] at hspace
        rcases hspace with ((rfl | rfl) | rfl) | rfl <;> exact absurd hc (by decide)
      · rintro rfl
        exact absurd hc (by decide)
  | str s => exact ⟨_, _, rfl, by decide, by decide⟩
  | arr vs => cases vs <;> exact ⟨_, _, rfl, by decide, by decide⟩
  | obj ms => cases ms <;> exact ⟨_, _, rfl, by decide, by decide⟩

lemma printItems_head (vs : List Json) (rest : List Char) :
    EndsNumeral (printItems esc vs ++ rest) := by
  cases vs <;> exact endsNumeral_cons (by decide)

lemma printMembers_head (ms : List (String × Json)) (rest : List Char) :
    EndsNumeral (printMembers esc ms ++ rest) := by
  rcases ms with _ | ⟨⟨name, v⟩, ms⟩ <;> exact endsNumeral_cons (by decide)

lemma readValue_numeral {fuel : ℕ} (n : Numeral) {rest : List Char}
    (hrest : EndsNumeral rest) :
    readValue (fuel + 1) (n.text ++ rest) = some (.num n, rest) := by
  obtain ⟨c, s, htext, hspace, -⟩ := print_head (fun c => [c]) (.num n)
  have hc : numeralChar c = true := n.numeralChar_of_mem c (by rw [← print, htext]; simp)
  rw [print] at htext
  have hread := readNumeral_text n hrest
  rw [htext, List.cons_append] at hread ⊢
  rw [readValue, skipSpace_cons _ hspace]
  split <;> rename_i heq <;> first
    | exact hread
    | (obtain ⟨rfl, -⟩ := List.cons.inj heq
       exact absurd hc (by decide))

lemma readValue_array {fuel : ℕ} {c : Char} {s : List Char} (hspace : isSpace c = false)
    (hne : c ≠ ']') : readValue (fuel + 1) ('[' :: c :: s)
      = (readValue fuel (c :: s)).bind fun (v, s) =>
          (readItems fuel s).map fun (vs, s) => (.arr (v :: vs), s) := by
  rw [readValue, skipSpace_cons _ (by decide)]
  simp only [skipSpace_cons s hspace]
  split
  · rename_i heq
    exact absurd (List.cons.inj heq).1 hne
  · rfl

lemma readValue_object {fuel : ℕ} (s : List Char) :
    readValue (fuel + 1) ('{' :: '"' :: s)
      = (readName ('"' :: s)).bind fun (name, s) =>
          (readValue fuel s).bind fun (v, s) =>
            (readMembers fuel s).map fun (ms, s) => (.obj ((name, v) :: ms), s) := by
  rw [readValue, skipSpace_cons _ (by decide)]
  simp only [skipSpace_cons s (c := '"') (by decide)]
  rfl

lemma readItems_cons {fuel : ℕ} (s : List Char) :
    readItems (fuel + 1) (',' :: s)
      = (readValue fuel s).bind fun (v, s) =>
          (readItems fuel s).map fun (vs, s) => (v :: vs, s) := by
  rw [readItems, skipSpace_cons _ (by decide)]
  rfl

lemma readMembers_cons {fuel : ℕ} (s : List Char) :
    readMembers (fuel + 1) (',' :: s)
      = (readName s).bind fun (name, s) =>
          (readValue fuel s).bind fun (v, s) =>
            (readMembers fuel s).map fun (ms, s) => ((name, v) :: ms, s) := by
  rw [readMembers, skipSpace_cons _ (by decide)]
  rfl

mutual

/-- **A printed value is read back**, with what follows it left over. -/
theorem readValue_print (hesc : Escapes esc) : ∀ (v : Json) (fuel : ℕ) (rest : List Char),
    size v ≤ fuel → EndsNumeral rest →
    readValue fuel (print esc v ++ rest) = some (v, rest)
  | v, 0, _, hfuel, _ => by cases v using size.fun_cases <;> simp [size] at hfuel
  | .null, fuel + 1, rest, _, _ => by simp [print, readValue, skipSpace_cons, isSpace]
  | .bool true, fuel + 1, rest, _, _ => by
    simp [print, readValue, skipSpace_cons, isSpace]
  | .bool false, fuel + 1, rest, _, _ => by
    simp [print, readValue, skipSpace_cons, isSpace]
  | .num n, fuel + 1, rest, _, hrest => by
    rw [print]
    exact readValue_numeral n hrest
  | .str s, fuel + 1, rest, _, _ => by
    have hquote : quote esc s ++ rest = '"' :: (s.toList.flatMap esc ++ '"' :: rest) := by
      simp [quote]
    rw [print, hquote, readValue, skipSpace_cons _ (by decide)]
    simp only [readString_quote hesc, Option.map_some, String.ofList_toList]
  | .arr [], fuel + 1, rest, _, _ => by
    simp [print, readValue, skipSpace_cons, isSpace]
  | .arr (v :: vs), fuel + 1, rest, hfuel, _ => by
    rw [size] at hfuel
    have hv := readValue_print hesc v fuel (printItems esc vs ++ rest) (by omega)
      (printItems_head vs rest)
    have hvs := readItems_print hesc vs fuel rest (by omega)
    obtain ⟨c, s, hhead, hspace, hne⟩ := print_head esc v
    rw [print, List.cons_append, List.append_assoc]
    rw [hhead, List.cons_append] at hv ⊢
    rw [readValue_array hspace hne, hv]
    simp only [Option.bind_some, hvs, Option.map_some]
  | .obj [], fuel + 1, rest, _, _ => by
    simp [print, readValue, skipSpace_cons, isSpace]
  | .obj ((name, v) :: ms), fuel + 1, rest, hfuel, _ => by
    rw [size] at hfuel
    have hname := readName_quote hesc name (print esc v ++ (printMembers esc ms ++ rest))
    have hv := readValue_print hesc v fuel (printMembers esc ms ++ rest) (by omega)
      (printMembers_head ms rest)
    have hms := readMembers_print hesc ms fuel rest (by omega)
    rw [print, List.cons_append, List.append_assoc, List.cons_append, List.append_assoc]
    rw [quote, List.cons_append] at hname ⊢
    rw [readValue_object, hname]
    simp only [Option.bind_some, hv, hms, Option.map_some]

theorem readItems_print (hesc : Escapes esc) : ∀ (vs : List Json) (fuel : ℕ)
    (rest : List Char), sizeItems vs ≤ fuel →
    readItems fuel (printItems esc vs ++ rest) = some (vs, rest)
  | vs, 0, _, hfuel => by cases vs <;> simp [sizeItems] at hfuel
  | [], fuel + 1, rest, _ => by simp [printItems, readItems, skipSpace_cons, isSpace]
  | v :: vs, fuel + 1, rest, hfuel => by
    rw [sizeItems] at hfuel
    have hv := readValue_print hesc v fuel (printItems esc vs ++ rest) (by omega)
      (printItems_head vs rest)
    have hvs := readItems_print hesc vs fuel rest (by omega)
    rw [printItems, List.cons_append, List.append_assoc, readItems_cons, hv]
    simp only [Option.bind_some, hvs, Option.map_some]

theorem readMembers_print (hesc : Escapes esc) : ∀ (ms : List (String × Json)) (fuel : ℕ)
    (rest : List Char), sizeMembers ms ≤ fuel →
    readMembers fuel (printMembers esc ms ++ rest) = some (ms, rest)
  | [], 0, _, hfuel => by simp [sizeMembers] at hfuel
  | (_, _) :: _, 0, _, hfuel => by simp [sizeMembers] at hfuel
  | [], fuel + 1, rest, _ => by simp [printMembers, readMembers, skipSpace_cons, isSpace]
  | (name, v) :: ms, fuel + 1, rest, hfuel => by
    rw [sizeMembers] at hfuel
    have hname := readName_quote hesc name (print esc v ++ (printMembers esc ms ++ rest))
    have hv := readValue_print hesc v fuel (printMembers esc ms ++ rest) (by omega)
      (printMembers_head ms rest)
    have hms := readMembers_print hesc ms fuel rest (by omega)
    rw [printMembers, List.cons_append, List.append_assoc, List.cons_append, List.append_assoc,
      readMembers_cons, hname]
    simp only [Option.bind_some, hv, hms, Option.map_some]

end

mutual

lemma size_le_length : ∀ v : Json, size v ≤ (print esc v).length
  | .null => by simp [size, print]
  | .bool true => by simp [size, print]
  | .bool false => by simp [size, print]
  | .num n => by
    have := List.length_pos_of_ne_nil n.text_ne_nil
    exact this
  | .str s => by simp [size, print, quote]
  | .arr [] => by simp [size, print]
  | .arr (v :: vs) => by
    have hv := size_le_length v
    have hvs := sizeItems_le_length vs
    rw [size, print, List.length_cons, List.length_append]
    omega
  | .obj [] => by simp [size, print]
  | .obj ((name, v) :: ms) => by
    have hv := size_le_length v
    have hms := sizeMembers_le_length ms
    rw [size, print, List.length_cons, List.length_append, List.length_cons, List.length_append]
    omega

lemma sizeItems_le_length : ∀ vs : List Json,
    sizeItems vs ≤ (printItems esc vs).length
  | [] => by simp [sizeItems, printItems]
  | v :: vs => by
    have hv := size_le_length v
    have hvs := sizeItems_le_length vs
    rw [sizeItems, printItems, List.length_cons, List.length_append]
    omega

lemma sizeMembers_le_length : ∀ ms : List (String × Json),
    sizeMembers ms ≤ (printMembers esc ms).length
  | [] => by simp [sizeMembers, printMembers]
  | (name, v) :: ms => by
    have hv := size_le_length v
    have hms := sizeMembers_le_length ms
    rw [sizeMembers, printMembers, List.length_cons, List.length_append, List.length_cons,
      List.length_append]
    omega

end

/-- **A printed value is read back**, unless it is nested too deep: it is never read as another. -/
theorem parse_print (hesc : Escapes esc) (limit : ℕ) (v : Json) :
    parse limit (print esc v) = if depth v ≤ limit then some v else none := by
  have hsize : size v ≤ (print esc v).length + 1 := Nat.le_succ_of_le (size_le_length v)
  have hread := readValue_print hesc v _ [] hsize rfl
  rw [List.append_nil] at hread
  have hspace : skipSpace [] = [] := rfl
  simp only [parse, hread, Option.bind_some, hspace, true_and]

end Json

end OlcRtc
