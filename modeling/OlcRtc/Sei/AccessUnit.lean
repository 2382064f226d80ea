import Mathlib.Data.List.GetD
import OlcRtc.Lib.Hex
import OlcRtc.Lib.Reads
import OlcRtc.Lib.StartCodes

/-!
# Payloads in H.264 access units

`internal/transport/seichannel/h264.go`.  A payload travels as a user data message in a SEI unit
between a fixed parameter set and a fixed picture; the reader looks through all units of an access
unit for such messages.

The functions that read are written with `index` and `reslice`, and with fuel where the source has
a loop: they have no value if they read out of bounds or do not come to an end.  That they always
have one is `extractVideoPayloads_some`.

The round trip goes layer by layer.  A number is read back wherever it stands
(`consumeSEIValue_seiValue`), hence the message (`consumeSEIMessage_seiMessage`), hence the body of
the unit once it is unescaped (`extractTransportSEI_body`); and since every unit is clean, the units
are found one by one (`extractVideoPayloadsLoop_annexB`).  **`payload_carried`** puts them together.
-/

namespace OlcRtc.Sei

/-! ## Writing -/

def videoSEIUUID : Bytes :=
  [0x5d, 0xc0, 0x3b, 0xa8, 0x45, 0x0f, 0x4b, 0x55, 0x9a, 0x77, 0x1f, 0x91, 0x6c, 0x5b, 0x07, 0x39]

/-- `mustDecodeHex`, which panics on anything that is not hexadecimal. -/
def mustDecodeHex (value : String) : Option Bytes := decodeHex value.toList

def baseSPS : Bytes :=
  (mustDecodeHex "6742c00addec0440000003004000000300a3c489e0").getD []

def basePPS : Bytes := (mustDecodeHex "68ce0fc8").getD []

def baseIDR : Bytes := (mustDecodeHex "6588843a2628000902e0").getD []

/-- The bytes written so far, and the zeros at their end. -/
structure Escaper where
  dst : Bytes
  zeroCount : ℕ

namespace Escaper

def appendEscapedByte (e : Escaper) (value : UInt8) : Escaper :=
  let e := if 2 ≤ e.zeroCount ∧ value ≤ 3 then ⟨e.dst ++ [3], 0⟩ else e
  ⟨e.dst ++ [value], if value = 0 then e.zeroCount + 1 else 0⟩

def appendEscapedBytes (e : Escaper) (src : Bytes) : Escaper := src.foldl appendEscapedByte e

def appendEscapedSEIValue (e : Escaper) (value : ℕ) : Escaper :=
  if 0xff ≤ value then (e.appendEscapedByte 0xff).appendEscapedSEIValue (value - 0xff)
  else e.appendEscapedByte (UInt8.ofNat value)
termination_by value

end Escaper

def appendEscapedSEIRBSP (dst payload : Bytes) : Bytes :=
  let e : Escaper := ⟨dst, 0⟩
  let e := e.appendEscapedSEIValue 5
  let e := e.appendEscapedSEIValue (videoSEIUUID.length + payload.length)
  let e := e.appendEscapedBytes videoSEIUUID
  let e := e.appendEscapedBytes payload
  (e.appendEscapedByte 0x80).dst

def appendStartCode (dst nalu : Bytes) : Bytes := dst ++ [0x00, 0x00, 0x00, 0x01] ++ nalu

def buildVideoAccessUnit (payload : Bytes) : Bytes :=
  let out := appendStartCode [] baseSPS
  let out := appendStartCode out basePPS
  let out := if 0 < payload.length then
      appendEscapedSEIRBSP (out ++ [0x00, 0x00, 0x00, 0x01, 0x06]) payload
    else out
  appendStartCode out baseIDR

/-! ## Reading -/

/-- The loop of `findStartCode`. -/
def findStartCodeLoop (data : Bytes) : ℕ → ℕ → Option (Option (ℕ × ℕ))
  | 0, _ => none
  | fuel + 1, i =>
    if i + 2 < data.length then do
      let b₀ ← index data i
      let b₁ ← index data (i + 1)
      if b₀ ≠ 0 ∨ b₁ ≠ 0 then findStartCodeLoop data fuel (i + 1)
      else do
        let b₂ ← index data (i + 2)
        if b₂ = 1 then some (some (i, 3))
        else if i + 3 < data.length ∧ b₂ = 0 then do
          let b₃ ← index data (i + 3)
          if b₃ = 1 then some (some (i, 4)) else findStartCodeLoop data fuel (i + 1)
        else findStartCodeLoop data fuel (i + 1)
    else some none

/-- `findStartCode`; the position `-1` is `none`. -/
def findStartCode (data : Bytes) (start : ℕ) : Option (Option (ℕ × ℕ)) :=
  findStartCodeLoop data (data.length + 1) start

/-- `nextAnnexBNAL`: a unit and where it ends. -/
def nextAnnexBNAL (data : Bytes) (pos : ℕ) : Option (Option (Bytes × ℕ)) := do
  match ← findStartCode data pos with
  | none => some none
  | some (start, prefixLen) =>
    let nalStart := start + prefixLen
    let found ← findStartCode data nalStart
    let next := (found.map Prod.fst).getD data.length
    let nal ← reslice data nalStart next
    some (some (nal, next))

/-- The test of `unescapeRBSP` for a byte to leave out. -/
def isEmulationByte (rbsp : Bytes) (i : ℕ) (b : UInt8) : Option Bool :=
  if 2 ≤ i ∧ b = 0x03 then do
    let b₁ ← index rbsp (i - 1)
    let b₂ ← index rbsp (i - 2)
    some (b₁ = 0x00 && b₂ = 0x00)
  else some false

/-- The loop of `unescapeRBSP`. -/
def unescapeRBSPLoop (rbsp : Bytes) : List UInt8 → ℕ → Option Bytes
  | [], _ => some []
  | b :: rest, i => do
    let skipped ← isEmulationByte rbsp i b
    let out ← unescapeRBSPLoop rbsp rest (i + 1)
    some (if skipped then out else b :: out)

def unescapeRBSP (rbsp : Bytes) : Option Bytes := unescapeRBSPLoop rbsp rbsp 0

/-- The errors of `extractTransportSEI`. -/
inductive SEIError
  | payloadTruncated
  | valueTruncated
deriving DecidableEq

/-- The loop of `consumeSEIValue`: the value and where it ends. -/
def consumeSEIValueLoop (data : Bytes) : ℕ → ℕ → ℕ → Option (Except SEIError (ℕ × ℕ))
  | 0, _, _ => none
  | fuel + 1, pos, value =>
    if data.length ≤ pos then some (.error .valueTruncated)
    else do
      let b ← index data pos
      if b ≠ 0xff then some (.ok (value + b.toNat, pos + 1))
      else consumeSEIValueLoop data fuel (pos + 1) (value + b.toNat)

def consumeSEIValue (data : Bytes) (pos : ℕ) : Option (Except SEIError (ℕ × ℕ)) :=
  consumeSEIValueLoop data (data.length + 1) pos 0

/-- One message of a SEI unit: its type, its payload and where it ends. -/
def consumeSEIMessage (data : Bytes) (pos : ℕ) : Option (Except SEIError (ℕ × Bytes × ℕ)) := do
  match ← consumeSEIValue data pos with
  | .error err => some (.error err)
  | .ok (payloadType, pos) =>
    match ← consumeSEIValue data pos with
    | .error err => some (.error err)
    | .ok (payloadSize, pos) =>
      if data.length < pos + payloadSize then some (.error .payloadTruncated)
      else do
        let payload ← reslice data pos (pos + payloadSize)
        some (.ok (payloadType, payload, pos + payloadSize))

def transportFrame (payloadType : ℕ) (payload : Bytes) : Option (Option Bytes) :=
  if payloadType ≠ 5 ∨ payload.length < videoSEIUUID.length then some none
  else do
    let uuid ← reslice payload 0 videoSEIUUID.length
    if uuid ≠ videoSEIUUID then some none
    else do
      let frame ← reslice payload videoSEIUUID.length payload.length
      some (some frame)

/-- The loop of `extractTransportSEI`. -/
def extractTransportSEILoop (data : Bytes) :
    ℕ → ℕ → List Bytes → Option (Except SEIError (List Bytes))
  | 0, _, _ => none
  | fuel + 1, pos, out =>
    if pos < data.length then do
      let b ← index data pos
      if b = 0x80 ∧ pos = data.length - 1 then some (.ok out)
      else
        match ← consumeSEIMessage data pos with
        | .error err => some (.error err)
        | .ok (payloadType, payload, next) =>
          let frame ← transportFrame payloadType payload
          extractTransportSEILoop data fuel next (out ++ frame.toList)
    else some (.ok out)

def extractTransportSEI (rbsp : Bytes) : Option (Except SEIError (List Bytes)) := do
  let data ← unescapeRBSP rbsp
  extractTransportSEILoop data (data.length + 1) 0 []

def unitPayloads (nal : Bytes) : Option (List Bytes) :=
  if nal.length < 2 then some []
  else do
    let header ← index nal 0
    if header &&& 0x1f ≠ 6 then some []
    else do
      let rbsp ← reslice nal 1 nal.length
      let found ← extractTransportSEI rbsp
      some (found.toOption.getD [])

/-- The loop of `extractVideoPayloads`. -/
def extractVideoPayloadsLoop (accessUnit : Bytes) : ℕ → ℕ → List Bytes → Option (List Bytes)
  | 0, _, _ => none
  | fuel + 1, pos, payloads => do
    match ← nextAnnexBNAL accessUnit pos with
    | none => some payloads
    | some (nal, next) =>
      let found ← unitPayloads nal
      extractVideoPayloadsLoop accessUnit fuel next (payloads ++ found)

def extractVideoPayloads (accessUnit : Bytes) : Option (List Bytes) :=
  extractVideoPayloadsLoop accessUnit (accessUnit.length + 1) 0 []

/-! ## Reading stays within bounds -/

section Bounds

lemma startCode_of_length_lt {data : Bytes} (h : data.length < 3) : startCode data = none := by
  cases hfound : startCode data with
  | none => rfl
  | some found =>
    obtain ⟨hle, hlen⟩ := startCode_le hfound
    omega

lemma drop_eq_three {data : Bytes} {i : ℕ} (h : i + 2 < data.length) :
    data.drop i = data.getD i 0 :: data.getD (i + 1) 0 :: data.getD (i + 2) 0 ::
      data.drop (i + 3) := by
  rw [List.getD_eq_getElem _ _ (by omega : i < data.length),
    List.getD_eq_getElem _ _ (by omega : i + 1 < data.length), List.getD_eq_getElem _ _ h,
    ← List.drop_eq_getElem_cons h, ← List.drop_eq_getElem_cons, ← List.drop_eq_getElem_cons]

lemma one_prefix_drop {data : Bytes} {i : ℕ} :
    [1] <+: data.drop i ↔ i < data.length ∧ data.getD i 0 = 1 := by
  grind [List.drop_eq_getElem_cons, List.cons_prefix_cons, List.getD_eq_getElem,
    List.drop_eq_nil_of_le]

lemma findStartCodeLoop_eq (data : Bytes) :
    ∀ fuel i : ℕ, 0 < fuel → data.length ≤ i + fuel →
      findStartCodeLoop data fuel i =
        some ((startCode (data.drop i)).map fun found => (i + found.1, found.2))
  | 0, i, hpos, _ => absurd hpos (Nat.lt_irrefl 0)
  | fuel + 1, i, _, hfuel => by
    rw [findStartCodeLoop]
    by_cases hroom : i + 2 < data.length
    · have hnext : findStartCodeLoop data fuel (i + 1) =
          some (((startCode (data.drop (i + 1))).map fun found => (found.1 + 1, found.2)).map
            fun found => (i + found.1, found.2)) := by
        rw [findStartCodeLoop_eq data fuel (i + 1) (by omega) (by omega), Option.map_map]
        congr 2
        funext found
        simp only [Function.comp, Nat.add_assoc, Nat.add_comm 1]
      have hshort : [0, 0, 1] <+: data.drop i ↔
          data.getD i 0 = 0 ∧ data.getD (i + 1) 0 = 0 ∧ data.getD (i + 2) 0 = 1 := by
        rw [drop_eq_three hroom]
        simp [List.cons_prefix_cons, eq_comm]
      have hlong : [0, 0, 0, 1] <+: data.drop i ↔
          data.getD i 0 = 0 ∧ data.getD (i + 1) 0 = 0 ∧ data.getD (i + 2) 0 = 0 ∧
            i + 3 < data.length ∧ data.getD (i + 3) 0 = 1 := by
        rw [drop_eq_three hroom, ← one_prefix_drop]
        simp [List.cons_prefix_cons, eq_comm]
      have hcode : startCode (data.drop i) =
          if [0, 0, 1] <+: data.drop i then some (0, 3)
          else if [0, 0, 0, 1] <+: data.drop i then some (0, 4)
          else (startCode (data.drop (i + 1))).map fun found => (found.1 + 1, found.2) := by
        rw [List.drop_eq_getElem_cons (by omega : i < data.length), startCode]
      rw [if_pos hroom, index_of_lt (by omega), index_of_lt (by omega), index_of_lt hroom,
        hcode, hnext]
      simp only [read_bind, hshort, hlong]
      generalize data.getD i 0 = b₀, data.getD (i + 1) 0 = b₁, data.getD (i + 2) 0 = b₂
      by_cases hzeros : b₀ = 0 ∧ b₁ = 0
      · grind [index_of_lt]
      · grind
    · rw [if_neg hroom, startCode_of_length_lt (by rw [List.length_drop]; omega)]
      rfl

lemma findStartCode_eq (data : Bytes) (start : ℕ) :
    findStartCode data start =
      some ((startCode (data.drop start)).map fun found => (start + found.1, found.2)) :=
  findStartCodeLoop_eq data (data.length + 1) start (Nat.succ_pos _) (by omega)

lemma two_le_zeros {n : ℕ} {x y : UInt8} : 2 ≤ zeros (zeros n x) y ↔ y = 0 ∧ x = 0 := by
  rw [zeros, zeros]
  split_ifs <;> simp_all

lemma isEmulationByte_eq (before rest : Bytes) (b : UInt8) :
    isEmulationByte (before ++ rest) before.length b =
      some (decide (2 ≤ before.foldl zeros 0 ∧ b = 3)) := by
  rcases before.eq_nil_or_concat with rfl | ⟨before, y, rfl⟩
  · rfl
  rcases before.eq_nil_or_concat with rfl | ⟨before, x, rfl⟩
  · grind [zeros, isEmulationByte]
  · grind [index, List.concat_eq_append, isEmulationByte, Nat.add_sub_cancel, List.foldl_append,
      two_le_zeros]

lemma unescapeRBSPLoop_eq (before rest : Bytes) :
    unescapeRBSPLoop (before ++ rest) rest before.length =
      some (unescape (before.foldl zeros 0) rest) := by
  induction rest generalizing before with
  | nil => rfl
  | cons b rest ih =>
    have hnext := ih (before ++ [b])
    rw [List.append_assoc, List.singleton_append, List.length_append, List.length_singleton,
      List.foldl_append] at hnext
    rw [unescapeRBSPLoop, isEmulationByte_eq, hnext, unescape]
    by_cases hskip : 2 ≤ before.foldl zeros 0 ∧ b = 3
    · simp [hskip, zeros]
    · simp [hskip]

lemma unescapeRBSP_eq (rbsp : Bytes) : unescapeRBSP rbsp = some (unescape 0 rbsp) :=
  unescapeRBSPLoop_eq [] rbsp

lemma consumeSEIValueLoop_some (data : Bytes) :
    ∀ fuel pos value : ℕ, 0 < fuel → data.length < pos + fuel →
      ∃ result, consumeSEIValueLoop data fuel pos value = some result ∧
        ∀ v next, result = .ok (v, next) → pos < next ∧ next ≤ data.length
  | 0, _, _, hpos, _ => absurd hpos (Nat.lt_irrefl 0)
  | fuel + 1, pos, value, _, hfuel => by
    rw [consumeSEIValueLoop]
    by_cases hend : data.length ≤ pos
    · rw [if_pos hend]
      exact ⟨_, rfl, fun _ _ h => by cases h⟩
    · rw [if_neg hend, index_of_lt (by omega), read_bind]
      split_ifs with hmore
      · grind
      · obtain ⟨result, hresult, hnext⟩ := consumeSEIValueLoop_some data fuel (pos + 1)
          (value + (data.getD pos 0).toNat) (by omega) (by omega)
        exact ⟨result, hresult, fun v next h => by have := hnext v next h; omega⟩

lemma consumeSEIValue_some (data : Bytes) (pos : ℕ) :
    ∃ result, consumeSEIValue data pos = some result ∧
      ∀ v next, result = .ok (v, next) → pos < next ∧ next ≤ data.length :=
  consumeSEIValueLoop_some data (data.length + 1) pos 0 (Nat.succ_pos _) (by omega)

lemma consumeSEIMessage_some (data : Bytes) (pos : ℕ) :
    ∃ result, consumeSEIMessage data pos = some result ∧
      ∀ payloadType payload next, result = .ok (payloadType, payload, next) →
        pos < next ∧ next ≤ data.length := by
  obtain ⟨result, hresult, hnext⟩ := consumeSEIValue_some data pos
  rw [consumeSEIMessage, hresult, read_bind]
  cases result with
  | error err => exact ⟨_, rfl, fun _ _ _ h => by cases h⟩
  | ok value =>
    obtain ⟨payloadType, pos₁⟩ := value
    obtain ⟨hpos₁, -⟩ := hnext payloadType pos₁ rfl
    obtain ⟨result₂, hresult₂, hnext₂⟩ := consumeSEIValue_some data pos₁
    dsimp only
    rw [hresult₂, read_bind]
    cases result₂ with
    | error err => exact ⟨_, rfl, fun _ _ _ h => by cases h⟩
    | ok value₂ =>
      obtain ⟨payloadSize, pos₂⟩ := value₂
      obtain ⟨hpos₂, -⟩ := hnext₂ payloadSize pos₂ rfl
      dsimp only
      by_cases htruncated : data.length < pos₂ + payloadSize
      · rw [if_pos htruncated]
        exact ⟨_, rfl, fun _ _ _ h => by cases h⟩
      · rw [if_neg htruncated, reslice_of_le (by omega) (by omega), read_bind]
        refine ⟨_, rfl, fun _ _ next h => ?_⟩
        cases h
        omega

lemma transportFrame_some (payloadType : ℕ) (payload : Bytes) :
    ∃ frame, transportFrame payloadType payload = some frame := by
  rw [transportFrame]
  split_ifs with hother
  · exact ⟨_, rfl⟩
  · rw [not_or, not_lt] at hother
    rw [reslice_of_le (Nat.zero_le _) hother.2, reslice_of_le hother.2 (le_refl _), read_bind]
    split_ifs <;> exact ⟨_, rfl⟩

lemma extractTransportSEILoop_some (data : Bytes) :
    ∀ fuel pos out, 0 < fuel → data.length < pos + fuel →
      ∃ result, extractTransportSEILoop data fuel pos out = some result
  | 0, _, _, hpos, _ => absurd hpos (Nat.lt_irrefl 0)
  | fuel + 1, pos, out, _, hfuel => by
    rw [extractTransportSEILoop]
    by_cases hmore : pos < data.length
    · rw [if_pos hmore, index_of_lt hmore, read_bind]
      split_ifs with hstop
      · exact ⟨_, rfl⟩
      · obtain ⟨result, hresult, hnext⟩ := consumeSEIMessage_some data pos
        rw [hresult, read_bind]
        cases result with
        | error err => exact ⟨_, rfl⟩
        | ok message =>
          obtain ⟨payloadType, payload, next⟩ := message
          obtain ⟨hlt, hle⟩ := hnext payloadType payload next rfl
          obtain ⟨frame, hframe⟩ := transportFrame_some payloadType payload
          dsimp only
          rw [hframe, read_bind]
          exact extractTransportSEILoop_some data fuel next _ (by omega) (by omega)
    · rw [if_neg hmore]
      exact ⟨_, rfl⟩

lemma extractTransportSEI_some (rbsp : Bytes) :
    ∃ result, extractTransportSEI rbsp = some result := by
  rw [extractTransportSEI, unescapeRBSP_eq, read_bind]
  exact extractTransportSEILoop_some _ _ 0 [] (Nat.succ_pos _) (by omega)

lemma unitPayloads_some (nal : Bytes) : ∃ found, unitPayloads nal = some found := by
  rw [unitPayloads]
  split_ifs with hshort
  · exact ⟨_, rfl⟩
  · rw [index_of_lt (by omega), reslice_of_le (by omega) (le_refl _), read_bind]
    split_ifs
    · exact ⟨_, rfl⟩
    · obtain ⟨result, hresult⟩ := extractTransportSEI_some (slice nal 1 nal.length)
      rw [read_bind, hresult]
      exact ⟨_, rfl⟩

lemma nextAnnexBNAL_some (data : Bytes) (pos : ℕ) :
    ∃ result, nextAnnexBNAL data pos = some result ∧
      ∀ nal next, result = some (nal, next) → pos < next ∧ next ≤ data.length := by
  rw [nextAnnexBNAL, findStartCode_eq, read_bind]
  cases hfirst : startCode (data.drop pos) with
  | none => exact ⟨_, rfl, fun _ _ h => by cases h⟩
  | some found =>
    obtain ⟨start, prefixLen⟩ := found
    obtain ⟨hle, hlen⟩ := startCode_le hfirst
    rw [List.length_drop] at hle
    set second := startCode (data.drop (pos + start + prefixLen)) with hset
    have hnext : pos + start + prefixLen ≤ ((second.map fun found =>
          (pos + start + prefixLen + found.1, found.2)).map Prod.fst).getD data.length ∧
        ((second.map fun found =>
          (pos + start + prefixLen + found.1, found.2)).map Prod.fst).getD data.length ≤
          data.length := by
      cases hsecond : second with
      | none => exact ⟨by simp only [Option.map_none, Option.getD_none]; omega, le_refl _⟩
      | some found =>
        obtain ⟨hle', -⟩ := @startCode_le _ found.1 found.2 hsecond
        rw [List.length_drop] at hle'
        simp only [Option.map_some, Option.getD_some]
        omega
    simp only [Option.map_some, findStartCode_eq, read_bind]
    rw [← hset, reslice_of_le hnext.1 hnext.2]
    refine ⟨_, rfl, fun nal next h => ?_⟩
    cases h
    omega

lemma extractVideoPayloadsLoop_some (accessUnit : Bytes) :
    ∀ fuel pos payloads, 0 < fuel → accessUnit.length < pos + fuel →
      ∃ found, extractVideoPayloadsLoop accessUnit fuel pos payloads = some found
  | 0, _, _, hpos, _ => absurd hpos (Nat.lt_irrefl 0)
  | fuel + 1, pos, payloads, _, hfuel => by
    obtain ⟨result, hresult, hnext⟩ := nextAnnexBNAL_some accessUnit pos
    rw [extractVideoPayloadsLoop, hresult, read_bind]
    cases result with
    | none => exact ⟨_, rfl⟩
    | some unit =>
      obtain ⟨nal, next⟩ := unit
      obtain ⟨hlt, hle⟩ := hnext nal next rfl
      obtain ⟨found, hfound⟩ := unitPayloads_some nal
      dsimp only
      rw [hfound, read_bind]
      exact extractVideoPayloadsLoop_some accessUnit fuel next _ (by omega) (by omega)

/-- **Whatever the bytes are, `extractVideoPayloads` ends and reads within bounds.** -/
lemma extractVideoPayloads_some (accessUnit : Bytes) :
    ∃ payloads, extractVideoPayloads accessUnit = some payloads :=
  extractVideoPayloadsLoop_some accessUnit _ 0 [] (Nat.succ_pos _) (by omega)

end Bounds

/-! ## What is written -/

/-- A number as SEI messages have it: as many `ff` as go, and the rest. -/
def seiValue (value : ℕ) : Bytes :=
  if 0xff ≤ value then 0xff :: seiValue (value - 0xff) else [UInt8.ofNat value]
termination_by value

def seiMessage (payload : Bytes) : Bytes :=
  seiValue 5 ++ seiValue (videoSEIUUID.length + payload.length) ++ videoSEIUUID ++ payload ++ [0x80]

namespace Escaper

lemma appendEscapedBytes_dst (src : Bytes) : ∀ e : Escaper,
    (e.appendEscapedBytes src).dst = e.dst ++ escape e.zeroCount src := by
  induction src with
  | nil =>
    intro e
    exact (List.append_nil _).symm
  | cons value src ih =>
    intro e
    show ((e.appendEscapedByte value).appendEscapedBytes src).dst = _
    rw [ih, appendEscapedByte, escape]
    by_cases hrisk : 2 ≤ e.zeroCount ∧ value ≤ 3
    · simp only [if_pos hrisk, List.append_assoc]
      rfl
    · simp only [if_neg hrisk, List.append_assoc]
      rfl

lemma appendEscapedSEIValue_eq (value : ℕ) : ∀ e : Escaper,
    e.appendEscapedSEIValue value = e.appendEscapedBytes (seiValue value) := by
  induction value using Nat.strong_induction_on with
  | _ value ih =>
    intro e
    rw [appendEscapedSEIValue, seiValue]
    split_ifs with hmore
    · rw [ih _ (by omega)]
      rfl
    · rfl

end Escaper

/-- **The body of a SEI unit is the escaped message.** -/
lemma appendEscapedSEIRBSP_eq (dst payload : Bytes) :
    appendEscapedSEIRBSP dst payload = dst ++ escape 0 (seiMessage payload) := by
  have hfold : ∀ (e : Escaper) (src src' : Bytes),
      (e.appendEscapedBytes src).appendEscapedBytes src' = e.appendEscapedBytes (src ++ src') :=
    fun e src src' => (List.foldl_append).symm
  have hlast : ∀ (e : Escaper) (value : UInt8),
      e.appendEscapedByte value = e.appendEscapedBytes [value] := fun e value => rfl
  simp only [appendEscapedSEIRBSP, Escaper.appendEscapedSEIValue_eq, hfold, hlast]
  exact Escaper.appendEscapedBytes_dst (seiMessage payload) ⟨dst, 0⟩

lemma clean_body (payload : Bytes) : Clean 0 (escape 0 (seiMessage payload)) :=
  clean_escape _ (by decide) 0

/-! ## What is read back -/

/-- **A value is read back**, wherever it stands. -/
lemma consumeSEIValueLoop_seiValue (value : ℕ) : ∀ (before after : Bytes) (fuel acc : ℕ),
    (seiValue value).length ≤ fuel →
      consumeSEIValueLoop (before ++ (seiValue value ++ after)) fuel before.length acc =
        some (.ok (acc + value, before.length + (seiValue value).length)) := by
  induction value using Nat.strong_induction_on with
  | _ value ih =>
    intro before after fuel acc hfuel
    rw [seiValue] at hfuel ⊢
    obtain ⟨fuel, rfl⟩ : ∃ k, fuel = k + 1 := by
      refine Nat.exists_eq_succ_of_ne_zero ?_
      rintro rfl
      split_ifs at hfuel <;> simp at hfuel
    by_cases hmore : 0xff ≤ value
    · rw [if_pos hmore, List.length_cons] at hfuel
      rw [if_pos hmore, List.cons_append, consumeSEIValueLoop, if_neg (by simp), index_append,
        read_bind, if_neg (by decide)]
      have hrest := ih (value - 0xff) (by omega) (before ++ [0xff]) after fuel
        (acc + (0xff : UInt8).toNat) (by omega)
      rw [List.append_assoc, List.singleton_append, List.length_append,
        List.length_singleton] at hrest
      have hff : (0xff : UInt8).toNat = 255 := rfl
      have hsum : acc + 255 + (value - 255) = acc + value := by omega
      rw [hrest, List.length_cons, hff, hsum, Nat.add_right_comm, Nat.add_assoc]
    · have hnat : (UInt8.ofNat value).toNat = value := by
        rw [UInt8.toNat_ofNat']
        omega
      have hne : UInt8.ofNat value ≠ 0xff := by
        intro heq
        rw [heq] at hnat
        exact hmore (le_of_eq hnat)
      rw [if_neg hmore, List.singleton_append, consumeSEIValueLoop, if_neg (by simp),
        index_append, read_bind, if_pos hne, hnat]
      rfl

lemma consumeSEIValue_seiValue (value : ℕ) (before after : Bytes) :
    consumeSEIValue (before ++ (seiValue value ++ after)) before.length =
      some (.ok (value, before.length + (seiValue value).length)) := by
  have hloop := consumeSEIValueLoop_seiValue value before after
    ((before ++ (seiValue value ++ after)).length + 1) 0
    (by simp only [List.length_append]; omega)
  rw [Nat.zero_add] at hloop
  exact hloop

lemma consumeSEIMessage_seiMessage (payload : Bytes) :
    consumeSEIMessage (seiMessage payload) 0 =
      some (.ok (5, videoSEIUUID ++ payload, (seiMessage payload).length - 1)) := by
  set typ := seiValue 5 with htyp
  set size := seiValue (videoSEIUUID.length + payload.length) with hsize
  set body := videoSEIUUID ++ payload with hbody
  have hmessage : seiMessage payload = [] ++ (typ ++ (size ++ (body ++ [0x80]))) := by
    simp [seiMessage, typ, size, body]
  have hmessage' : seiMessage payload = typ ++ (size ++ (body ++ [0x80])) := hmessage
  have hmessage'' : seiMessage payload = (typ ++ size) ++ (body ++ [0x80]) :=
    hmessage'.trans (List.append_assoc _ _ _).symm
  have hfirst : consumeSEIValue (seiMessage payload) 0 = some (.ok (5, typ.length)) := by
    grind [consumeSEIValue_seiValue]
  have hsecond : consumeSEIValue (seiMessage payload) typ.length =
      some (.ok (body.length, (typ ++ size).length)) := by
    have hread := consumeSEIValue_seiValue (videoSEIUUID.length + payload.length) typ
      (body ++ [0x80])
    rw [← hsize, ← hmessage'] at hread
    simpa [body] using hread
  have hthird : reslice (seiMessage payload) (typ ++ size).length
      ((typ ++ size).length + body.length) = some body := by
    rw [hmessage'']
    exact reslice_append (typ ++ size) body [0x80]
  have hlength : (seiMessage payload).length = (typ ++ size).length + body.length + 1 := by
    rw [hmessage'']
    simp [Nat.add_assoc]
  rw [consumeSEIMessage, hfirst, read_bind]
  dsimp only
  rw [hsecond, read_bind]
  dsimp only
  rw [if_neg (by omega), hthird, read_bind, hlength, Nat.add_sub_cancel]

lemma transportFrame_uuid (payload : Bytes) :
    transportFrame 5 (videoSEIUUID ++ payload) = some (some payload) := by
  have huuid : reslice (videoSEIUUID ++ payload) 0 videoSEIUUID.length = some videoSEIUUID := by
    simpa using reslice_append [] videoSEIUUID payload
  have hframe : reslice (videoSEIUUID ++ payload) videoSEIUUID.length
      (videoSEIUUID ++ payload).length = some payload := by
    simpa using reslice_append videoSEIUUID payload []
  rw [transportFrame, if_neg (by simp), huuid, hframe, read_bind, if_neg (by simp), read_bind]

/-- **The body of a SEI unit gives the payload back.** -/
lemma extractTransportSEI_body (payload : Bytes) :
    extractTransportSEI (escape 0 (seiMessage payload)) = some (.ok [payload]) := by
  have hlength : 2 ≤ (seiMessage payload).length := by
    simp [seiMessage, videoSEIUUID]
    omega
  have hfirst : index (seiMessage payload) 0 = some 5 := by
    rw [seiMessage, seiValue]
    rfl
  have hlast : index (seiMessage payload) ((seiMessage payload).length - 1) = some 0x80 := by
    rw [seiMessage, List.length_append, List.length_singleton, Nat.add_sub_cancel]
    exact index_append _ [] 0x80
  obtain ⟨fuel, hfuel⟩ : ∃ fuel, (seiMessage payload).length = fuel + 1 :=
    ⟨(seiMessage payload).length - 1, by omega⟩
  rw [extractTransportSEI, unescapeRBSP_eq, unescape_escape, read_bind]
  rw [hfuel, extractTransportSEILoop, if_pos (by omega), hfirst, read_bind, if_neg (fun h => absurd h.1 (by decide)), consumeSEIMessage_seiMessage,
    read_bind]
  dsimp only
  rw [transportFrame_uuid, read_bind, extractTransportSEILoop,
    if_pos (by omega), hlast, read_bind, if_pos ⟨rfl, rfl⟩]
  rfl

/-! ## Access units -/

/-- Units one after the other, each behind a start code. -/
def annexB (units : List Bytes) : Bytes := (units.map fun nal => [0, 0, 0, 1] ++ nal).flatten

lemma annexB_cons (nal : Bytes) (units : List Bytes) :
    annexB (nal :: units) = [0, 0, 0, 1] ++ (nal ++ annexB units) := by
  rw [annexB, List.map_cons, List.flatten_cons, List.append_assoc]
  rfl

/-- Behind a clean unit of a stream comes the next one, or the end. -/
lemma startCode_annexB {nal : Bytes} (hclean : Clean 0 nal) (units : List Bytes) :
    startCode (nal ++ annexB units) =
      if units = [] then none else some (nal.length, 4) := by
  rw [hclean.startCode_append]
  cases units with
  | nil => rfl
  | cons unit units =>
    rw [annexB_cons]
    rfl

lemma nextAnnexBNAL_annexB (before nal : Bytes) (units : List Bytes) (hclean : Clean 0 nal) :
    nextAnnexBNAL (before ++ annexB (nal :: units)) before.length =
      some (some (nal, before.length + 4 + nal.length)) := by
  have hfirst : startCode ((before ++ annexB (nal :: units)).drop before.length) =
      some (0, 4) := by
    rw [List.drop_left, annexB_cons]
    rfl
  have hsecond : startCode ((before ++ annexB (nal :: units)).drop (before.length + 4)) =
      if units = [] then none else some (nal.length, 4) := by
    rw [← List.drop_drop, List.drop_left, annexB_cons, ← startCode_annexB hclean]
    rfl
  have hnal : reslice (before ++ annexB (nal :: units)) (before.length + 4)
      (before.length + 4 + nal.length) = some nal := by
    have hread := reslice_append (before ++ [0, 0, 0, 1]) nal (annexB units)
    rw [List.length_append, List.append_assoc, ← annexB_cons] at hread
    exact hread
  rw [nextAnnexBNAL, findStartCode_eq, hfirst, read_bind]
  simp only [Option.map_some, findStartCode_eq, read_bind, Nat.add_zero, hsecond]
  by_cases hlast : units = []
  · have hend : (before ++ annexB (nal :: units)).length = before.length + 4 + nal.length := by
      rw [hlast, annexB_cons]
      simp [annexB]
      omega
    simp only [if_pos hlast, Option.map_none, Option.getD_none, hend, hnal, read_bind]
  · simp only [if_neg hlast, Option.map_some, Option.getD_some, hnal, read_bind]

/-- **Clean units are read one by one.** -/
lemma extractVideoPayloadsLoop_annexB {found : Bytes → List Bytes} :
    ∀ (units : List Bytes) (before : Bytes) (fuel : ℕ) (payloads : List Bytes),
      (∀ nal ∈ units, Clean 0 nal ∧ unitPayloads nal = some (found nal)) → units.length < fuel →
        extractVideoPayloadsLoop (before ++ annexB units) fuel before.length payloads =
          some (payloads ++ units.flatMap found)
  | _, _, 0, _, _, hfuel => absurd hfuel (Nat.not_lt_zero _)
  | [], before, fuel + 1, payloads, _, _ => by
    have hend : nextAnnexBNAL (before ++ annexB []) before.length = some none := by
      rw [nextAnnexBNAL, findStartCode_eq, List.drop_left]
      rfl
    rw [extractVideoPayloadsLoop, hend]
    simp
  | nal :: units, before, fuel + 1, payloads, hunits, hfuel => by
    obtain ⟨hclean, hfound⟩ := hunits nal List.mem_cons_self
    have hrest := extractVideoPayloadsLoop_annexB units (before ++ ([0, 0, 0, 1] ++ nal)) fuel
      (payloads ++ found nal) (fun u hu => hunits u (List.mem_cons_of_mem nal hu))
      (by simpa using hfuel)
    rw [List.append_assoc, List.append_assoc, ← annexB_cons, List.length_append,
      List.length_append] at hrest
    rw [extractVideoPayloadsLoop, nextAnnexBNAL_annexB before nal units hclean, read_bind]
    dsimp only
    rw [hfound, read_bind, Nat.add_assoc]
    rw [List.append_assoc] at hrest
    exact hrest

def accessUnits (payload : Bytes) : List Bytes :=
  [baseSPS, basePPS] ++
    (if payload = [] then [] else [0x06 :: escape 0 (seiMessage payload)]) ++ [baseIDR]

lemma buildVideoAccessUnit_eq (payload : Bytes) :
    buildVideoAccessUnit payload = annexB (accessUnits payload) := by
  by_cases hempty : payload = []
  · simp [buildVideoAccessUnit, accessUnits, hempty, annexB, appendStartCode]
  · have hpos : 0 < payload.length := List.length_pos_of_ne_nil hempty
    simp [buildVideoAccessUnit, accessUnits, hempty, hpos, annexB, appendStartCode,
      appendEscapedSEIRBSP_eq]

lemma length_le_annexB (units : List Bytes) : units.length ≤ (annexB units).length := by
  induction units with
  | nil => exact le_refl _
  | cons nal units ih =>
    grind [annexB_cons, List.length_cons, List.length_append]

lemma base_units :
    ∀ nal ∈ [baseSPS, basePPS, baseIDR], Clean 0 nal ∧ unitPayloads nal = some [] := by
  decide

lemma unitPayloads_sei (payload : Bytes) :
    unitPayloads (0x06 :: escape 0 (seiMessage payload)) = some [payload] := by
  have hlength : 0 < (escape 0 (seiMessage payload)).length := by
    apply List.length_pos_of_ne_nil
    rw [seiMessage, seiValue]
    exact List.cons_ne_nil _ _
  have hrest : reslice (0x06 :: escape 0 (seiMessage payload)) 1
      (0x06 :: escape 0 (seiMessage payload)).length = some (escape 0 (seiMessage payload)) := by
    have hread := reslice_append [0x06] (escape 0 (seiMessage payload)) []
    rw [List.append_nil, List.length_singleton, Nat.add_comm] at hread
    exact hread
  rw [unitPayloads, if_neg (by simp only [List.length_cons]; omega), index,
    List.getElem?_cons_zero, read_bind, if_neg (by decide), hrest,
    read_bind, extractTransportSEI_body]
  rfl

/-- **The payload is carried.** -/
lemma extractVideoPayloads_build (payload : Bytes) :
    extractVideoPayloads (buildVideoAccessUnit payload) =
      some (if payload = [] then [] else [payload]) := by
  have hsps := base_units baseSPS (by decide)
  have hpps := base_units basePPS (by decide)
  have hidr := base_units baseIDR (by decide)
  have hunits : ∀ nal ∈ accessUnits payload,
      Clean 0 nal ∧ unitPayloads nal = some ((unitPayloads nal).getD []) := by
    intro nal hnal
    constructor
    · by_cases hempty : payload = []
      · grind [accessUnits, List.append_nil, List.cons_append, List.nil_append, List.mem_cons,
          List.not_mem_nil]
      · simp only [accessUnits, if_neg hempty, List.cons_append, List.nil_append, List.mem_cons,
          List.not_mem_nil, or_false] at hnal
        rcases hnal with rfl | rfl | rfl | rfl
        · exact hsps.1
        · exact hpps.1
        · exact ⟨fun h => absurd h (by decide), clean_body payload⟩
        · exact hidr.1
    · obtain ⟨found, hfound⟩ := unitPayloads_some nal
      rw [hfound, Option.getD_some]
  have hread := extractVideoPayloadsLoop_annexB (accessUnits payload) []
    ((annexB (accessUnits payload)).length + 1) [] hunits
    (Nat.lt_succ_of_le (length_le_annexB _))
  rw [extractVideoPayloads, buildVideoAccessUnit_eq]
  refine hread.trans ?_
  by_cases hempty : payload = []
  · simp [accessUnits, hempty, hsps.2, hpps.2, hidr.2]
  · simp [accessUnits, hempty, hsps.2, hpps.2, hidr.2, unitPayloads_sei]

/-- **Payloads travel in SEI units.**  What is built from a payload that is not empty gives back
exactly that payload, and what is built from an empty one gives nothing.  The escaped body of the
unit has no start code in it, of three bytes or of four.  And for all bytes the reader ends without
having read out of bounds. -/
theorem payload_carried :
    (∀ payload, payload ≠ [] →
        extractVideoPayloads (buildVideoAccessUnit payload) = some [payload]) ∧
      extractVideoPayloads (buildVideoAccessUnit []) = some [] ∧
      (∀ payload, ¬[0, 0, 1] <:+: appendEscapedSEIRBSP [] payload ∧
        ¬[0, 0, 0, 1] <:+: appendEscapedSEIRBSP [] payload) ∧
      ∀ accessUnit, ∃ payloads, extractVideoPayloads accessUnit = some payloads := by
  refine ⟨?_, extractVideoPayloads_build [], ?_, extractVideoPayloads_some⟩
  · intro payload hne
    rw [extractVideoPayloads_build, if_neg hne]
  · intro payload
    have hbody : Clean 0 (appendEscapedSEIRBSP [] payload) := by
      rw [appendEscapedSEIRBSP_eq]
      exact clean_body payload
    have hshort : ¬[0, 0, 1] <:+: appendEscapedSEIRBSP [] payload := hbody.not_infix (by decide)
    exact ⟨hshort, fun hlong => hshort ((List.suffix_append [0] [0, 0, 1]).isInfix.trans hlong)⟩

/-- A payload full of zeros. -/
theorem payload_carried_zeros :
    extractVideoPayloads (buildVideoAccessUnit [0, 0, 0, 1, 0, 0, 3]) =
      some [[0, 0, 0, 1, 0, 0, 3]] :=
  payload_carried.1 [0, 0, 0, 1, 0, 0, 3] (by decide)

end OlcRtc.Sei
