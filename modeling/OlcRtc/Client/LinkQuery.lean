import Mathlib.Data.Char
import Mathlib.Data.List.Lex
import Mathlib.Data.List.Sort
import OlcRtc.Client.Profile

/-!
# Queries of links

Links carry parameters in their query: `name=value`, separated by ampersands, percent encoded.  Both
kinds of links read them in the same way.  **`parseQuery_join`** says that parameters with distinct
names are read back.
-/

namespace OlcRtc.Client

variable (pf : Platform)

def decode (value : Text) : Except String Text :=
  match urlDecode pf.toCharTables value with
  | some text => .ok text
  | none => .error "URLDecoder: illegal escape"

/-- `URI(raw)`. -/
def newUri (raw : Text) : Except String Uri :=
  match parseUri raw with
  | some uri => .ok uri
  | none => .error "URISyntaxException"

/-- One parameter of a query, after those before it. -/
def parseItem (what : String) (result : List (Text × Text)) (item : Text) :
    Except String (List (Text × Text)) := do
  let (name, value) := cut '=' item
  let key ← decode pf name
  ensure (key ≠ []) ("Empty " ++ what)
  match value with
  | none => .error ("Missing value for " ++ what ++ ": " ++ String.ofList key)
  | some value =>
    ensure (key ∉ result.map Prod.fst) ("Duplicate " ++ what ++ ": " ++ String.ofList key)
    let decoded ← decode pf value
    return result ++ [(key, decoded)]

/-- `parseQuery`, in the order of the query. -/
def parseQuery (what : String) (rawQuery : Option Text) : Except String (List (Text × Text)) :=
  match rawQuery with
  | none => .ok []
  | some [] => .ok []
  | some query => (query.splitOn '&').foldlM (parseItem pf what) []

def lookupParameter (params : List (Text × Text)) (name : Text) : Option Text :=
  (params.find? fun p => p.1 = name).map Prod.snd

/-- The error for parameters that are not allowed, with their names in order. -/
def unsupported (message : String) (allowedNames : List Text) (params : List (Text × Text)) :
    String :=
  message ++ ", ".intercalate
    ((((params.map Prod.fst).filter (· ∉ allowedNames)).insertionSort (· ≤ ·)).map String.ofList)

def formatParameter (p : Text × Text) : Text := encodeComponent p.1 ++ '=' :: encodeComponent p.2

/-! ## Parameters are read back -/

lemma decode_encodeComponent (s : Text) : decode pf (encodeComponent s) = .ok s := by
  rw [decode, urlDecode_encodeComponent]

lemma parseItem_formatParameter (what : String) {result : List (Text × Text)} {p : Text × Text}
    (hname : p.1 ≠ []) (hnew : p.1 ∉ result.map Prod.fst) :
    parseItem pf what result (formatParameter p) = .ok (result ++ [p]) := by
  have hcut : cut '=' (formatParameter p) = (encodeComponent p.1, some (encodeComponent p.2)) :=
    cut_append (not_mem_encodeComponent (by decide) (by decide) p.1)
  rw [parseItem, hcut]
  dsimp only
  rw [decode_encodeComponent, decode_encodeComponent, ok_bind, decide_eq_true hname,
    decide_eq_true hnew]
  rfl

lemma foldlM_parseItem (what : String) {ps : List (Text × Text)} :
    ∀ {result : List (Text × Text)}, (∀ p ∈ ps, p.1 ≠ []) →
      ((result ++ ps).map Prod.fst).Nodup →
      (ps.map formatParameter).foldlM (parseItem pf what) result = .ok (result ++ ps) := by
  induction ps with
  | nil =>
    intro result _ _
    rw [List.append_nil]
    rfl
  | cons p ps ih =>
    intro result hnames hnodup
    have hnew : p.1 ∉ result.map Prod.fst := by
      grind
    have hrest : result ++ p :: ps = result ++ [p] ++ ps := by simp
    rw [hrest] at hnodup ⊢
    rw [List.map_cons, List.foldlM_cons,
      parseItem_formatParameter pf what (hnames p List.mem_cons_self) hnew]
    exact ih (fun q hq => hnames q (List.mem_cons_of_mem p hq)) hnodup

lemma not_mem_formatParameter {c : Char} (hpercent : c ≠ '%') (hequals : c ≠ '=')
    (hsafe : isFormSafe c = false) (p : Text × Text) : c ∉ formatParameter p := by
  intro hmem
  rcases List.mem_append.1 hmem with hmem | hmem
  · exact not_mem_encodeComponent hpercent hsafe p.1 hmem
  · rcases List.mem_cons.1 hmem with hmem | hmem
    · exact hequals hmem
    · exact not_mem_encodeComponent hpercent hsafe p.2 hmem

/-- **Parameters are read back** from the query they were written to. -/
theorem parseQuery_join (what : String) {ps : List (Text × Text)} (hne : ps ≠ [])
    (hnames : ∀ p ∈ ps, p.1 ≠ []) (hnodup : (ps.map Prod.fst).Nodup) :
    parseQuery pf what (some (['&'].intercalate (ps.map formatParameter))) = .ok ps := by
  have hparts : ∀ part ∈ ps.map formatParameter, '&' ∉ part := by
    intro part hpart
    obtain ⟨p, -, rfl⟩ := List.mem_map.1 hpart
    exact not_mem_formatParameter (by decide) (by decide) (by decide) p
  have hsplit := List.splitOn_intercalate '&' hparts (by simpa using hne)
  have hquery : ['&'].intercalate (ps.map formatParameter) ≠ [] := by
    intro hnil
    rw [hnil, List.splitOn_nil] at hsplit
    obtain ⟨p, ps, rfl⟩ := List.exists_cons_of_ne_nil hne
    have hempty := (List.cons.inj hsplit).1
    rw [formatParameter] at hempty
    simp at hempty
  rw [parseQuery, hsplit]
  · exact foldlM_parseItem pf what hnames hnodup
  · exact hquery

lemma allowed_formatParameter (p : Text × Text) : allowed isUric (formatParameter p) = true :=
  allowed_append (allowed_encodeComponent isUric_of_isFormSafe p.1)
    (allowed_append (a := ['=']) rfl (allowed_encodeComponent isUric_of_isFormSafe p.2))

lemma join_allowed : ∀ ps : List (Text × Text),
    '#' ∉ ['&'].intercalate (ps.map formatParameter) ∧
      allowed isUric (['&'].intercalate (ps.map formatParameter)) = true
  | [] => ⟨List.not_mem_nil, rfl⟩
  | [p] => by
    rw [List.map_singleton, List.intercalate_singleton]
    exact ⟨not_mem_formatParameter (by decide) (by decide) (by decide) p,
      allowed_formatParameter p⟩
  | p :: q :: ps => by
    obtain ⟨hmem, hallowed⟩ := join_allowed (q :: ps)
    rw [List.map_cons] at hmem hallowed
    rw [List.map_cons, List.map_cons, List.intercalate_cons_cons, List.mem_append,
      List.mem_append, not_or, not_or]
    exact ⟨⟨⟨not_mem_formatParameter (by decide) (by decide) (by decide) p, by decide⟩, hmem⟩,
      allowed_append (allowed_append (allowed_formatParameter p) rfl) hallowed⟩

/-! ## Lookups -/

lemma lookupParameter_eq_none {ps : List (Text × Text)} {name : Text}
    (h : name ∉ ps.map Prod.fst) : lookupParameter ps name = none := by
  rw [lookupParameter, Option.map_eq_none_iff, List.find?_eq_none]
  intro p hp heq
  exact h (List.mem_map.2 ⟨p, hp, of_decide_eq_true heq⟩)

lemma lookupParameter_eq {ps : List (Text × Text)} (hnodup : (ps.map Prod.fst).Nodup) {name : Text}
    {value : Option Text} (h : ∀ v, (name, v) ∈ ps ↔ value = some v) :
    lookupParameter ps name = value := by
  cases value with
  | none =>
    refine lookupParameter_eq_none fun hmem => ?_
    obtain ⟨p, hp, rfl⟩ := List.mem_map.1 hmem
    cases (h p.2).1 hp
  | some v =>
    obtain ⟨before, after, hps⟩ := List.append_of_mem ((h v).2 rfl)
    have hbefore : lookupParameter before name = none := by
      rw [hps, List.map_append, List.map_cons, List.nodup_append] at hnodup
      exact lookupParameter_eq_none fun hmem =>
        hnodup.2.2 name hmem name List.mem_cons_self rfl
    rw [lookupParameter, Option.map_eq_none_iff] at hbefore
    rw [lookupParameter, hps, List.find?_append, hbefore, Option.none_or,
      List.find?_cons_of_pos (by simp), Option.map_some]

end OlcRtc.Client
