import Mathlib.Data.List.AList
import Mathlib.Data.List.Induction
import OlcRtc.Lib.Bytes

/-!
# Fragments and their reassembly

`FragmentPayload` and `Reassembler` of `internal/transport/common/common.go`.  A message is cut
into fragments that travel on their own; the reassembler keeps one `InboundMessage` per sequence
number until all of its slots are filled, and two generations of delivered sequence numbers so
that a late duplicate is acknowledged and not delivered again.

Both maps are bounded: a new message beyond `maxPending` evicts the one that was inserted first,
and a full generation of delivered numbers replaces the previous one.  What that does to a stream
of genuine fragments is the subject of `Window`; here stand the functions and what each of them
computes.
-/

namespace OlcRtc

/-! ## Cutting a message -/

/-- The loop of `FragmentPayload`; `fuel` bounds the number of chunks. -/
def fragmentLoop (data : Bytes) (maxSize : ℕ) : ℕ → ℕ → List Bytes
  | 0, _ => []
  | fuel + 1, start =>
    if start < data.length then
      slice data start (min (start + maxSize) data.length)
        :: fragmentLoop data maxSize fuel (start + maxSize)
    else []

/-- `FragmentPayload`.  A non-positive `maxSize` is zero here. -/
def fragmentPayload (data : Bytes) (maxSize : ℕ) : List Bytes :=
  if data.length = 0 then [[]]
  else if maxSize = 0 then [data]
  else fragmentLoop data maxSize data.length 0

lemma flatten_fragmentLoop {data : Bytes} {maxSize : ℕ} (hsize : 0 < maxSize) :
    ∀ fuel start : ℕ, data.length ≤ start + fuel →
      (fragmentLoop data maxSize fuel start).flatten = data.drop start
  | 0, start, hfuel => by
    rw [fragmentLoop, List.flatten_nil, List.drop_eq_nil_of_le (by omega)]
  | fuel + 1, start, hfuel => by
    rw [fragmentLoop]
    split_ifs with hlt
    · rw [List.flatten_cons, flatten_fragmentLoop hsize fuel _ (by omega), slice]
      by_cases hend : start + maxSize ≤ data.length
      · rw [min_eq_left hend, Nat.add_sub_cancel_left, ← List.drop_drop, List.take_append_drop]
      · have hnil : data.drop (start + maxSize) = [] := List.drop_eq_nil_of_le (by omega)
        rw [min_eq_right (by omega), hnil, List.append_nil,
          List.take_of_length_le (by rw [List.length_drop])]
    · rw [List.flatten_nil, List.drop_eq_nil_of_le (by omega)]

/-- **The fragments make up the message**, in order. -/
theorem flatten_fragmentPayload (data : Bytes) (maxSize : ℕ) :
    (fragmentPayload data maxSize).flatten = data := by
  unfold fragmentPayload
  split_ifs with hempty hzero
  · simp [List.length_eq_zero_iff.mp hempty]
  · simp
  · rw [flatten_fragmentLoop (by omega) _ _ (by omega), List.drop_zero]

lemma fragmentPayload_ne_nil (data : Bytes) (maxSize : ℕ) : fragmentPayload data maxSize ≠ [] := by
  unfold fragmentPayload
  split_ifs with hempty hzero
  · simp
  · simp
  · obtain ⟨fuel, hfuel⟩ := Nat.exists_eq_succ_of_ne_zero hempty
    rw [hfuel, fragmentLoop, if_pos (by omega)]
    simp

lemma length_fragmentLoop {data : Bytes} {maxSize : ℕ} (hsize : 0 < maxSize) :
    ∀ fuel start : ℕ, data.length ≤ start + fuel →
      (fragmentLoop data maxSize fuel start).length
        = (data.length - start + maxSize - 1) / maxSize
  | 0, start, hfuel => by
    rw [fragmentLoop, List.length_nil, Nat.div_eq_of_lt (by omega)]
  | fuel + 1, start, hfuel => by
    rw [fragmentLoop]
    split_ifs with hlt
    · rw [List.length_cons, length_fragmentLoop hsize fuel _ (by omega)]
      by_cases hmore : maxSize ≤ data.length - start
      · rw [← Nat.add_div_right _ hsize]
        congr 1
        omega
      · rw [Nat.div_eq_of_lt (by omega)]
        have hone : data.length - start + maxSize - 1 = data.length - start - 1 + maxSize := by
          omega
        rw [hone, Nat.add_div_right _ hsize, Nat.div_eq_of_lt (by omega)]
    · rw [List.length_nil, Nat.div_eq_of_lt (by omega)]

/-- **How many fragments there are.** -/
theorem length_fragmentPayload {data : Bytes} {maxSize : ℕ} (hdata : data.length ≠ 0)
    (hsize : 0 < maxSize) :
    (fragmentPayload data maxSize).length = (data.length + maxSize - 1) / maxSize := by
  rw [fragmentPayload, if_neg hdata, if_neg (by omega), length_fragmentLoop hsize _ _ (by omega),
    Nat.sub_zero]

lemma length_fragmentPayload_le (data : Bytes) (maxSize : ℕ) :
    (fragmentPayload data maxSize).length ≤ max data.length 1 := by
  by_cases hdata : data.length = 0
  · rw [fragmentPayload, if_pos hdata, List.length_singleton]
    exact le_max_right _ _
  by_cases hsize : maxSize = 0
  · rw [fragmentPayload, if_neg hdata, if_pos hsize, List.length_singleton]
    exact le_max_right _ _
  · rw [length_fragmentPayload hdata (Nat.pos_of_ne_zero hsize)]
    refine le_max_of_le_left ?_
    rw [Nat.div_le_iff_le_mul_add_pred (Nat.pos_of_ne_zero hsize)]
    have hle : data.length ≤ maxSize * data.length :=
      Nat.le_mul_of_pos_left _ (Nat.pos_of_ne_zero hsize)
    omega

lemma length_le_of_mem_fragmentPayload {data fragment : Bytes} {maxSize : ℕ}
    (h : fragment ∈ fragmentPayload data maxSize) : fragment.length ≤ data.length := by
  have hsub := (List.sublist_flatten_of_mem h).length_le
  rwa [flatten_fragmentPayload] at hsub

/-! ## Fragments on arrival -/

def maxMessageLen : ℕ := 256 * 1024

def maxFragments : ℕ := 4096

/-- `Fragment`. -/
structure Fragment where
  seq : UInt32
  crc : UInt32
  totalLen : UInt32
  fragIdx : UInt16
  fragTotal : UInt16
  fragCRC : UInt32
  payload : Bytes

def Fragment.valid (f : Fragment) : Bool :=
  if f.fragTotal = 0 ∨ maxFragments < f.fragTotal.toNat ∨ f.fragTotal ≤ f.fragIdx then false
  else if maxMessageLen < f.totalLen.toNat then false
  else if max f.totalLen.toNat 1 < f.fragTotal.toNat then false
  else if f.totalLen.toNat < f.payload.length then false
  else crc32 f.payload == f.fragCRC

lemma Fragment.valid_spec {f : Fragment} (h : f.valid = true) :
    f.fragIdx.toNat < f.fragTotal.toNat ∧ crc32 f.payload = f.fragCRC := by
  unfold Fragment.valid at h
  split_ifs at h with h1 h2 h3 h4
  rw [not_or, not_or] at h1
  exact ⟨UInt16.lt_iff_toNat_lt.mp (UInt16.not_le.mp h1.2.2), eq_of_beq h⟩

/-- `InboundMessage`.  A slot is `none` until its fragment arrives. -/
structure InboundMessage where
  totalLen : UInt32
  crc : UInt32
  frags : List (Option Bytes)
  remain : ℕ
  added : ℕ

/-- The loop of `assemble`. -/
def assembleLoop (size : ℕ) : Bytes → List (Option Bytes) → Bytes
  | out, [] => out
  | out, frag :: frags =>
    if size < out.length + (frag.getD []).length then
      out ++ (frag.getD []).take (size - out.length)
    else assembleLoop size (out ++ frag.getD []) frags

def InboundMessage.assemble (msg : InboundMessage) : Bytes :=
  let size := (msg.frags.map fun frag => (frag.getD []).length).sum
  assembleLoop (min size msg.totalLen.toNat) [] msg.frags

lemma assembleLoop_eq (size : ℕ) : ∀ (frags : List (Option Bytes)) (out : Bytes),
    out.length ≤ size →
      assembleLoop size out frags = (out ++ (frags.map (·.getD [])).flatten).take size
  | [], out, hout => by simp [assembleLoop, List.take_of_length_le hout]
  | frag :: frags, out, hout => by
    rw [assembleLoop, List.map_cons, List.flatten_cons]
    split_ifs with hlt
    · rw [List.take_append, List.take_of_length_le hout,
        List.take_append_of_le_length (by omega)]
    · rw [assembleLoop_eq size frags _ (by simp; omega), List.append_assoc]

/-- **Assembling concatenates the slots** and cuts at the announced length. -/
lemma InboundMessage.assemble_eq (msg : InboundMessage) :
    msg.assemble = (msg.frags.map (·.getD [])).flatten.take msg.totalLen.toNat := by
  have hsum : (msg.frags.map fun frag => (frag.getD []).length).sum
      = (msg.frags.map (·.getD [])).flatten.length := by
    rw [List.length_flatten, List.map_map]
    rfl
  rw [InboundMessage.assemble, assembleLoop_eq _ _ _ (Nat.zero_le _), List.nil_append, hsum,
    ← List.take_take, List.take_of_length_le (List.length_take_le' _ _)]

def InboundMessage.storeChunk (msg : InboundMessage) (f : Fragment) : InboundMessage :=
  match msg.frags.getD f.fragIdx.toNat none with
  | some _ => msg
  | none =>
    { msg with
      frags := msg.frags.set f.fragIdx.toNat (some f.payload)
      remain := msg.remain - 1 }

/-! ## The reassembler -/

/-- `Result`. -/
inductive PushResult
  | resultIgnore
  | resultPartial
  | resultDuplicate
  | resultDelivered
  deriving DecidableEq, Repr

/-- `Reassembler`.  `addCounter` is a `uint64`, too wide to wrap around in a run. -/
structure Reassembler where
  inbound : AList fun _ : UInt32 => InboundMessage
  delivered : AList fun _ : UInt32 => UInt32
  previous : AList fun _ : UInt32 => UInt32
  maxRecent : ℕ
  maxPending : ℕ
  addCounter : ℕ

namespace Reassembler

/-- `NewReassembler`; a non-positive cap is zero here. -/
def new (maxRecent : ℕ) : Reassembler :=
  let maxRecent := if maxRecent = 0 then 256 else maxRecent
  ⟨∅, ∅, ∅, maxRecent, maxRecent, 0⟩

def reset (r : Reassembler) : Reassembler :=
  { r with inbound := ∅, delivered := ∅, previous := ∅, addCounter := 0 }

def alreadyDelivered (r : Reassembler) (f : Fragment) : Bool :=
  match r.delivered.lookup f.seq with
  | some crc => crc == f.crc
  | none => r.previous.lookup f.seq == some f.crc

/-- The loop of `evictOldestIfFull` over the pending messages. -/
def oldest (keep : UInt32) (entries : List (Sigma fun _ : UInt32 => InboundMessage)) :
    Option (UInt32 × ℕ) :=
  entries.foldl (fun best e =>
    if e.1 = keep then best
    else
      match best with
      | none => some (e.1, e.2.added)
      | some (_, added) => if e.2.added < added then some (e.1, e.2.added) else best) none

def evictOldestIfFull (r : Reassembler) (keep : UInt32) : Reassembler :=
  if r.maxPending = 0 ∨ r.inbound.keys.length ≤ r.maxPending then r
  else
    match oldest keep r.inbound.entries with
    | none => r
    | some (seq, _) => { r with inbound := r.inbound.erase seq }

/-- The entry `upsert` creates. -/
def freshMessage (r : Reassembler) (f : Fragment) : InboundMessage where
  totalLen := f.totalLen
  crc := f.crc
  frags := List.replicate f.fragTotal.toNat none
  remain := f.fragTotal.toNat
  added := r.addCounter + 1

/-- The entry is for the message the fragment belongs to. -/
def compatible (msg : InboundMessage) (f : Fragment) : Bool :=
  msg.crc == f.crc && msg.totalLen == f.totalLen && msg.frags.length == f.fragTotal.toNat

/-- The second half of `upsert`: a fresh entry, and room made for it. -/
def insertFresh (r : Reassembler) (f : Fragment) : Reassembler :=
  evictOldestIfFull
    { r with addCounter := r.addCounter + 1, inbound := r.inbound.insert f.seq (r.freshMessage f) }
    f.seq

def upsert (r : Reassembler) (f : Fragment) : Reassembler × InboundMessage :=
  match r.inbound.lookup f.seq with
  | none => (r.insertFresh f, r.freshMessage f)
  | some msg => if compatible msg f then (r, msg) else (r.insertFresh f, r.freshMessage f)

def deliver (r : Reassembler) (seq : UInt32) (msg : InboundMessage) :
    Reassembler × PushResult × Option Bytes :=
  let r := { r with inbound := r.inbound.erase seq }
  let data := msg.assemble
  if crc32 data ≠ msg.crc then (r, .resultIgnore, none)
  else
    let r := if r.maxRecent ≤ r.delivered.keys.length then
        { r with previous := r.delivered, delivered := ∅ } else r
    ({ r with delivered := r.delivered.insert seq msg.crc }, .resultDelivered, some data)

/-- `Push`.  The entry `upsert` returns is the one in the map, so the stored chunk is written
back. -/
def push (r : Reassembler) (f : Fragment) : Reassembler × PushResult × Option Bytes :=
  if ¬ f.valid then (r, .resultIgnore, none)
  else if r.alreadyDelivered f then (r, .resultDuplicate, none)
  else
    let (r, msg) := r.upsert f
    let msg := msg.storeChunk f
    if 0 < msg.remain then
      ({ r with inbound := r.inbound.insert f.seq msg }, .resultPartial, none)
    else r.deliver f.seq msg

/-! ### Eviction -/

lemma oldest_spec (keep : UInt32) (entries : List (Sigma fun _ : UInt32 => InboundMessage)) :
    match oldest keep entries with
    | none => ∀ e ∈ entries, e.1 = keep
    | some (seq, added) => (∃ msg, ⟨seq, msg⟩ ∈ entries ∧ msg.added = added) ∧ seq ≠ keep ∧
        ∀ e ∈ entries, e.1 ≠ keep → added ≤ e.2.added := by
  induction entries using List.reverseRecOn with
  | nil => simp [oldest]
  | append_singleton entries e ih =>
    have hstep : oldest keep (entries ++ [e]) =
        if e.1 = keep then oldest keep entries
        else match oldest keep entries with
          | none => some (e.1, e.2.added)
          | some (_, added) =>
            if e.2.added < added then some (e.1, e.2.added) else oldest keep entries := by
      rw [oldest, List.foldl_append]
      rfl
    rw [hstep]
    cases hbest : oldest keep entries with
    | none =>
      rw [hbest] at ih
      by_cases hkeep : e.1 = keep
      · simp only [hkeep, if_true]
        intro e' he'
        rcases List.mem_append.mp he' with he' | he'
        · exact ih e' he'
        · rw [List.mem_singleton.mp he', hkeep]
      · simp only [hkeep, if_false]
        refine ⟨⟨e.2, by simp, rfl⟩, hkeep, fun e' he' hne => ?_⟩
        rcases List.mem_append.mp he' with he' | he'
        · exact absurd (ih e' he') hne
        · rw [List.mem_singleton.mp he']
    | some best =>
      obtain ⟨seq, added⟩ := best
      rw [hbest] at ih
      obtain ⟨⟨msg, hmem, hadded⟩, hne, hmin⟩ := ih
      by_cases hkeep : e.1 = keep
      · simp only [hkeep, if_true]
        refine ⟨⟨msg, by simp [hmem], hadded⟩, hne, fun e' he' hne' => ?_⟩
        rcases List.mem_append.mp he' with he' | he'
        · exact hmin e' he' hne'
        · rw [List.mem_singleton.mp he'] at hne'
          exact absurd hkeep hne'
      · simp only [hkeep, if_false]
        by_cases hlt : e.2.added < added
        · simp only [hlt, if_true]
          refine ⟨⟨e.2, by simp, rfl⟩, hkeep, fun e' he' hne' => ?_⟩
          rcases List.mem_append.mp he' with he' | he'
          · exact hlt.le.trans (hmin e' he' hne')
          · rw [List.mem_singleton.mp he']
        · simp only [hlt, if_false]
          refine ⟨⟨msg, by simp [hmem], hadded⟩, hne, fun e' he' hne' => ?_⟩
          rcases List.mem_append.mp he' with he' | he'
          · exact hmin e' he' hne'
          · rw [List.mem_singleton.mp he']
            exact not_lt.mp hlt

/-- **What eviction does**: nothing while there is room; otherwise it drops one entry, other than
`keep`, that was inserted before all the others. -/
lemma evictOldestIfFull_cases (r : Reassembler) (keep : UInt32) :
    r.evictOldestIfFull keep = r ∨
      ∃ seq msg, r.inbound.lookup seq = some msg ∧ seq ≠ keep ∧
        r.maxPending < r.inbound.keys.length ∧
        (∀ seq' msg', r.inbound.lookup seq' = some msg' → seq' ≠ keep →
          msg.added ≤ msg'.added) ∧
        r.evictOldestIfFull keep = { r with inbound := r.inbound.erase seq } := by
  unfold evictOldestIfFull
  split_ifs with hroom
  · exact Or.inl rfl
  · have hspec := oldest_spec keep r.inbound.entries
    cases hbest : oldest keep r.inbound.entries with
    | none => exact Or.inl rfl
    | some best =>
      rw [hbest] at hspec
      obtain ⟨⟨msg, hmem, hadded⟩, hne, hmin⟩ := hspec
      refine Or.inr ⟨best.1, msg, AList.mem_lookup_iff.mpr hmem, hne, by omega, ?_, rfl⟩
      intro seq' msg' hlookup hne'
      rw [hadded]
      exact hmin ⟨seq', msg'⟩ (AList.mem_lookup_iff.mp hlookup) hne'

lemma upsert_frame (r : Reassembler) (f : Fragment) :
    (r.upsert f).1.maxRecent = r.maxRecent ∧ (r.upsert f).1.maxPending = r.maxPending ∧
      (r.upsert f).1.delivered = r.delivered ∧ (r.upsert f).1.previous = r.previous := by
  have hevict : ∀ (r : Reassembler) (keep : UInt32),
      (r.evictOldestIfFull keep).maxRecent = r.maxRecent ∧
        (r.evictOldestIfFull keep).maxPending = r.maxPending ∧
        (r.evictOldestIfFull keep).delivered = r.delivered ∧
        (r.evictOldestIfFull keep).previous = r.previous := by
    intro r keep
    rcases evictOldestIfFull_cases r keep with hsame | ⟨seq, msg, _, _, _, _, herase⟩
    · rw [hsame]
      exact ⟨rfl, rfl, rfl, rfl⟩
    · rw [herase]
      exact ⟨rfl, rfl, rfl, rfl⟩
  unfold upsert
  split
  · exact hevict _ _
  · split_ifs
    · exact ⟨rfl, rfl, rfl, rfl⟩
    · exact hevict _ _

lemma push_eq {r : Reassembler} {f : Fragment} (hvalid : f.valid = true)
    (hnew : ¬ r.alreadyDelivered f = true) :
    r.push f =
      if 0 < ((r.upsert f).2.storeChunk f).remain then
        ({ (r.upsert f).1 with
            inbound := (r.upsert f).1.inbound.insert f.seq ((r.upsert f).2.storeChunk f) },
          .resultPartial, none)
      else (r.upsert f).1.deliver f.seq ((r.upsert f).2.storeChunk f) := by
  simp [push, hvalid, hnew]

end Reassembler

end OlcRtc
