import Mathlib.Data.List.AList
import OlcRtc.Lib.Checks
import OlcRtc.Lib.Text

/-!
# JSON objects as a class library has them

Objects of named values with the methods of `org.json.JSONObject`: `put` with a missing value
removes a name, and the getters convert what can be converted.  The values are those that a flat
record needs: numbers of 32 bits, strings, and arrays of strings.

`toText` is the compact text of an object.  What other texts a reader accepts is left open:
`JsonReader` is any reader that reads the text of an object as that object, and `strictReader` is
one.

**`lookup_ofFields`**: an object that was filled field by field has each field.
-/

namespace OlcRtc

inductive JsonValue
  | null
  | bool (b : Bool)
  | int (i : Int32)
  | str (s : Text)
  | strs (items : List Text)
deriving DecidableEq

/-- An object: no name occurs twice. -/
abbrev JsonObject := AList fun _ : String => JsonValue

/-! ## Writing -/

/-- The escapes of `JSONStringer`. -/
def orgEscape (c : Char) : List Char :=
  if c = '"' ∨ c = '\\' ∨ c = '/' then ['\\', c]
  else if c = Char.ofNat 8 then ['\\', 'b']
  else if c = Char.ofNat 12 then ['\\', 'f']
  else if c = '\n' then ['\\', 'n']
  else if c = '\r' then ['\\', 'r']
  else if c = '\t' then ['\\', 't']
  else if c.toNat < 32 then '\\' :: 'u' :: hexPut 4 c.toNat
  else [c]

lemma escapes_orgEscape : Json.Escapes orgEscape := by
  intro c rest
  unfold orgEscape
  split_ifs with hq hbs hff hn hr ht hu
  · rcases hq with rfl | rfl | rfl <;> exact Json.readChar_short rfl
  · subst hbs
    exact Json.readChar_short rfl
  · subst hff
    exact Json.readChar_short rfl
  · subst hn
    exact Json.readChar_short rfl
  · subst hr
    exact Json.readChar_short rfl
  · subst ht
    exact Json.readChar_short rfl
  · exact Json.readChar_unicode (by omega)
  · rw [not_or, not_or] at hq
    exact Json.readChar_raw hq.1 hq.2.1 (Nat.le_of_not_lt hu)

namespace JsonValue

def toJson : JsonValue → Json
  | .null => .null
  | .bool b => .bool b
  | .int i => .ofInt i.toInt
  | .str s => .str (String.ofList s)
  | .strs items => .arr (items.map fun s => .str (String.ofList s))

/-- `String.valueOf`. -/
def toText : JsonValue → Text
  | .str s => s
  | v => v.toJson.print orgEscape

end JsonValue

namespace JsonObject

def put (o : JsonObject) (name : String) (value : Option JsonValue) : JsonObject :=
  match value with
  | some v => o.insert name v
  | none => o.erase name

/-- An object filled by one `put` for each field. -/
def ofFields (fields : List (String × Option JsonValue)) : JsonObject :=
  fields.foldl (fun o f => put o f.1 f.2) ∅

/-- `JSONObject.toString`. -/
def toText (o : JsonObject) : Text :=
  (Json.obj (o.entries.reverse.map fun e => (e.1, e.2.toJson))).print orgEscape

/-! ## Reading -/

def isNull (o : JsonObject) (name : String) : Bool :=
  match o.lookup name with
  | none | some .null => true
  | _ => false

def getString (o : JsonObject) (name : String) : Except String Text :=
  match o.lookup name with
  | some v => .ok v.toText
  | none => .error ("No value for " ++ name)

/-- `JSONObject.getInt`, from a number. -/
def getInt (o : JsonObject) (name : String) : Except String Int32 :=
  match o.lookup name with
  | some (.int i) => .ok i
  | some _ => .error ("Value at " ++ name ++ " cannot be converted to int")
  | none => .error ("No value for " ++ name)

/-- `JSONObject.getBoolean`, from a boolean. -/
def getBoolean (o : JsonObject) (name : String) : Except String Bool :=
  match o.lookup name with
  | some (.bool b) => .ok b
  | some _ => .error ("Value at " ++ name ++ " cannot be converted to boolean")
  | none => .error ("No value for " ++ name)

/-- `JSONObject.getJSONArray`, and `JSONArray.getString` of every index. -/
def getStrings (o : JsonObject) (name : String) : Except String (List Text) :=
  match o.lookup name with
  | some (.strs items) => .ok items
  | some _ => .error ("Value at " ++ name ++ " cannot be converted to JSONArray")
  | none => .error ("No value for " ++ name)

lemma lookup_put (o : JsonObject) (name other : String) (value : Option JsonValue) :
    (put o name value).lookup other = if other = name then value else o.lookup other := by
  cases value with
  | none =>
    split_ifs with h
    · rw [h]
      exact AList.lookup_erase name o
    · exact AList.lookup_erase_ne h
  | some v =>
    split_ifs with h
    · rw [h]
      exact AList.lookup_insert o
    · exact AList.lookup_insert_ne h

/-- **Every field is found.** -/
theorem lookup_ofFields {fields : List (String × Option JsonValue)}
    (hnodup : (fields.map Prod.fst).Nodup) {name : String} {value : Option JsonValue}
    (hmem : (name, value) ∈ fields) : (ofFields fields).lookup name = value := by
  -- the fields that follow have other names
  have hrest : ∀ (fields : List (String × Option JsonValue)) (o : JsonObject),
      name ∉ fields.map Prod.fst →
      (fields.foldl (fun o f => put o f.1 f.2) o).lookup name = o.lookup name := by
    intro fields
    induction fields with
    | nil => exact fun o _ => rfl
    | cons f fields ih =>
      intro o hname
      rw [List.map_cons, List.mem_cons, not_or] at hname
      rw [List.foldl_cons, ih _ hname.2, lookup_put, if_neg hname.1]
  obtain ⟨before, after, rfl⟩ := List.append_of_mem hmem
  have hafter : name ∉ after.map Prod.fst := by
    grind
  rw [ofFields, List.foldl_append, List.foldl_cons, hrest after _ hafter, lookup_put, if_pos rfl]

end JsonObject

structure JsonReader where
  fromText : Text → Option JsonObject
  fromText_toText : ∀ o : JsonObject, fromText o.toText = some o

/-! ## A reader -/

def Json.text? : Json → Option Text
  | .str s => some s.toList
  | _ => none

namespace JsonValue

def ofJson : Json → Option JsonValue
  | .null => some .null
  | .bool b => some (.bool b)
  | .num n => (intVal n.text).map fun i => .int (Int32.ofInt i)
  | .str s => some (.str s.toList)
  | .arr items => (items.mapM Json.text?).map .strs
  | .obj _ => none

lemma mapM_text? : ∀ items : List Text,
    (items.map fun s => Json.str (String.ofList s)).mapM Json.text? = some items
  | [] => rfl
  | s :: items => by
    rw [List.map_cons, List.mapM_cons, mapM_text? items]
    simp [Json.text?]

lemma ofJson_toJson (v : JsonValue) : ofJson v.toJson = some v := by
  cases v with
  | null => rfl
  | bool b => rfl
  | int i =>
    show (intVal (decimalInt i.toInt)).map _ = _
    rw [intVal_decimalInt, Option.map_some, Int32.ofInt_toInt]
  | str s => simp [toJson, ofJson]
  | strs items => exact congrArg (Option.map JsonValue.strs) (mapM_text? items)

lemma depthItems_strs : ∀ items : List Text,
    Json.depthItems (items.map fun s => Json.str (String.ofList s)) = 0
  | [] => rfl
  | s :: items => by
    rw [List.map_cons, Json.depthItems, depthItems_strs items]
    rfl

lemma depth_toJson (v : JsonValue) : v.toJson.depth ≤ 1 := by
  cases v with
  | strs items => exact (congrArg (1 + ·) (depthItems_strs items)).le
  | _ => exact Nat.zero_le 1

end JsonValue

namespace JsonObject

def entryOf (m : String × Json) : Option (Sigma fun _ : String => JsonValue) :=
  (JsonValue.ofJson m.2).map fun v => ⟨m.1, v⟩

def ofMembers (ms : List (String × Json)) : Option JsonObject :=
  (ms.mapM entryOf).bind fun entries =>
    if h : entries.reverse.keys.Nodup then some ⟨entries.reverse, h⟩ else none

lemma mapM_entryOf : ∀ entries : List (Sigma fun _ : String => JsonValue),
    (entries.map fun e => (e.1, e.2.toJson)).mapM entryOf = some entries
  | [] => rfl
  | e :: entries => by
    rw [List.map_cons, List.mapM_cons, mapM_entryOf entries, entryOf, JsonValue.ofJson_toJson]
    rfl

lemma depthMembers_toJson : ∀ entries : List (Sigma fun _ : String => JsonValue),
    Json.depthMembers (entries.map fun e => (e.1, e.2.toJson)) ≤ 1
  | [] => Nat.zero_le 1
  | e :: entries => by
    rw [List.map_cons, Json.depthMembers]
    exact max_le e.2.depth_toJson (depthMembers_toJson entries)

end JsonObject

/-- A reader that accepts the grammar of JSON, with values of flat records. -/
def strictReader : JsonReader where
  fromText text := (Json.parse 2 text).bind fun v =>
    match v with
    | .obj ms => JsonObject.ofMembers ms
    | _ => none
  fromText_toText o := by
    have hdepth : (Json.obj (o.entries.reverse.map fun e => (e.1, e.2.toJson))).depth ≤ 2 := by
      rw [Json.depth]
      have hmembers := JsonObject.depthMembers_toJson o.entries.reverse
      omega
    rw [JsonObject.toText, Json.parse_print escapes_orgEscape, if_pos hdepth, Option.bind_some]
    dsimp only
    rw [JsonObject.ofMembers, JsonObject.mapM_entryOf, Option.bind_some, List.reverse_reverse]
    exact dif_pos o.nodupKeys

end OlcRtc
