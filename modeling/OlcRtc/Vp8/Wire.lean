import OlcRtc.Lib.Slice
import OlcRtc.Transport.Frame

/-!
# The VP8 wire format

`wire.go` and the pure half of `epoch.go`.  A sample is a 36-byte header, which starts with a
valid VP8 keyframe and carries the binding token, the source and destination epochs and a
checksum over them, followed by a payload: nothing (a keepalive), one KCP packet, or a batch

```
"OLKB" | size (2 bytes) | packet | size | packet | …
```

`splitKCPPayload` takes a payload apart again.  Its slice expressions are checked, with `none` for
the panic Go would raise; `splitKCPPayload_isSome` says that there is none, on any input.
-/

namespace OlcRtc

/-! ## Constants -/

def epochHdrLen : ℕ := 36

def defaultMaxPayloadSize : ℕ := 60 * 1024

def kcpMTU : ℕ := 1400

/-- `wireCRCLen`: the checksum behind every KCP packet. -/
def wireCRCLen : ℕ := 4

def controlEpochFlag : UInt32 := 0x80000000

def vp8Keepalive : Bytes :=
  [0x30, 0x01, 0x00, 0x9d, 0x01, 0x2a, 0x10, 0x00, 0x10, 0x00, 0x00, 0x47, 0x08, 0x85, 0x85, 0x88,
    0x99, 0x84, 0x88, 0xfc]

def kcpBatchMagic : Bytes := ascii "OLKB"

/-- The conversation id `0xC0FFEE01` as KCP writes it, least significant byte first. -/
def kcpConvID : Bytes := [0x01, 0xee, 0xff, 0xc0]

lemma length_kcpBatchMagic : kcpBatchMagic.length = 4 := by decide

/-! ## The epoch header -/

def epochCRC (token src dst : UInt32) : UInt32 :=
  crc32 (bePut 4 token.toNat ++ (bePut 4 src.toNat ++ bePut 4 dst.toNat))

def buildEpochHeaderTo (token src dst : UInt32) : Bytes :=
  vp8Keepalive ++ (bePut 4 token.toNat ++ (bePut 4 src.toNat ++ (bePut 4 dst.toNat ++
    bePut 4 (epochCRC token src dst).toNat)))

/-- `buildEpochHeader`: a broadcast. -/
def buildEpochHeader (token src : UInt32) : Bytes := buildEpochHeaderTo token src 0

/-- `parseEpochHeader`: token, source and destination, or `none` for a frame that is too short or
fails its checksum. -/
def parseEpochHeader (frame : Bytes) : Option (UInt32 × UInt32 × UInt32) :=
  if frame.length < epochHdrLen then none
  else
    let token := getUint32 frame 20 24
    let src := getUint32 frame 24 28
    let dst := getUint32 frame 28 32
    if getUint32 frame 32 36 = epochCRC token src dst then some (token, src, dst) else none

@[simp] lemma length_buildEpochHeaderTo (token src dst : UInt32) :
    (buildEpochHeaderTo token src dst).length = epochHdrLen := by
  simp [buildEpochHeaderTo, vp8Keepalive, epochHdrLen]

/-- **A header is read back**, whatever follows it. -/
theorem parseEpochHeader_build (token src dst : UInt32) (payload : Bytes) :
    parseEpochHeader (buildEpochHeaderTo token src dst ++ payload) = some (token, src, dst) := by
  set t := bePut 4 token.toNat with ht
  set s := bePut 4 src.toNat with hs
  set d := bePut 4 dst.toNat with hd
  set c := bePut 4 (epochCRC token src dst).toNat with hc
  have hframe : buildEpochHeaderTo token src dst ++ payload
      = vp8Keepalive ++ (t ++ (s ++ (d ++ (c ++ payload)))) := by
    simp only [buildEpochHeaderTo, List.append_assoc, ht, hs, hd, hc]
  have hlen : ¬ (buildEpochHeaderTo token src dst ++ payload).length < epochHdrLen := by
    simp
  have htoken := @getUint32_append vp8Keepalive 20 24 (by decide) rfl token.toNat
    (s ++ (d ++ (c ++ payload)))
  have hsrc := @getUint32_append (vp8Keepalive ++ t) 24 28 (by simp [ht, vp8Keepalive]) rfl
    src.toNat (d ++ (c ++ payload))
  have hdst := @getUint32_append (vp8Keepalive ++ t ++ s) 28 32 (by simp [ht, hs, vp8Keepalive])
    rfl dst.toNat (c ++ payload)
  have hcrc := @getUint32_append (vp8Keepalive ++ t ++ s ++ d) 32 36
    (by simp [ht, hs, hd, vp8Keepalive]) rfl (epochCRC token src dst).toNat payload
  simp only [List.append_assoc, ← ht, ← hs, ← hd, ← hc, UInt32.ofNat_toNat]
    at htoken hsrc hdst hcrc
  rw [parseEpochHeader, if_neg hlen, hframe]
  simp only [htoken, hsrc, hdst, hcrc, if_true]

/-! ## Batches -/

/-- A slice expression `b[lo:hi]`; `none` is the run-time panic. -/
def goSlice (b : Bytes) (lo hi : ℕ) : Option Bytes :=
  if lo ≤ hi ∧ hi ≤ b.length then some (slice b lo hi) else none

/-- The loop of `splitKCPPayload`; running out of `fuel` would be `none` as well. -/
def splitLoop : ℕ → Bytes → Option (List Bytes)
  | 0, _ => none
  | fuel + 1, rest => do
    if rest.length = 0 then some []
    else if rest.length < 2 then some []
    else
      let size := beGet (← goSlice rest 0 2)
      let rest ← goSlice rest 2 rest.length
      if size = 0 ∨ rest.length < size then some []
      else
        let packet ← goSlice rest 0 size
        let rest ← goSlice rest size rest.length
        return packet :: (← splitLoop fuel rest)

/-- `splitKCPPayload`: the packets it delivers, in order. -/
def splitKCPPayload (payload : Bytes) : Option (List Bytes) := do
  if payload.length < kcpBatchMagic.length then some [payload]
  else if (← goSlice payload 0 kcpBatchMagic.length) ≠ kcpBatchMagic then some [payload]
  else
    let rest ← goSlice payload kcpBatchMagic.length payload.length
    splitLoop (rest.length + 1) rest

def batchPacket (packet : Bytes) : Bytes := bePut 2 packet.length ++ packet

def appendBatchPacket (dst : Slice UInt8) (packet : Bytes) : Slice UInt8 :=
  if 0xffff < packet.length then dst
  else (dst.append (bePut 2 packet.length)).append packet

/-- A packet that fits its size field. -/
def Batchable (packet : Bytes) : Prop := packet ≠ [] ∧ packet.length ≤ 0xffff

lemma content_appendBatchPacket {dst : Slice UInt8} {packet : Bytes}
    (h : packet.length ≤ 0xffff) :
    (appendBatchPacket dst packet).content = dst.content ++ batchPacket packet := by
  rw [appendBatchPacket, if_neg (by omega), Slice.content_append, Slice.content_append,
    List.append_assoc, batchPacket]

lemma goSlice_of_le {b : Bytes} {lo hi : ℕ} (h : lo ≤ hi) (h' : hi ≤ b.length) :
    goSlice b lo hi = some (slice b lo hi) := if_pos ⟨h, h'⟩

lemma slice_zero (b : Bytes) (n : ℕ) : slice b 0 n = b.take n := rfl

lemma slice_length (b : Bytes) (n : ℕ) : slice b n b.length = b.drop n := by
  rw [slice, List.take_of_length_le (by rw [List.length_drop])]

lemma splitLoop_succ (fuel : ℕ) (rest : Bytes) :
    splitLoop (fuel + 1) rest =
      if rest.length < 2 then some []
      else if beGet (rest.take 2) = 0 ∨ (rest.drop 2).length < beGet (rest.take 2) then some []
      else (splitLoop fuel ((rest.drop 2).drop (beGet (rest.take 2)))).map
        ((rest.drop 2).take (beGet (rest.take 2)) :: ·) := by
  rw [splitLoop]
  by_cases hshort : rest.length < 2
  · rw [if_pos hshort]
    split_ifs <;> rfl
  · have hlen : 2 ≤ rest.length := not_lt.mp hshort
    rw [if_neg (by omega), if_neg hshort, if_neg hshort, goSlice_of_le (by omega) hlen,
      goSlice_of_le hlen (le_refl _), slice_zero, slice_length]
    simp only [Option.bind_eq_bind, Option.bind_some]
    split_ifs with hstop
    · rfl
    · rw [not_or, not_lt] at hstop
      rw [goSlice_of_le (Nat.zero_le _) hstop.2, goSlice_of_le hstop.2 (le_refl _), slice_zero,
        slice_length]
      simp only [Option.bind_some]
      cases splitLoop fuel ((rest.drop 2).drop (beGet (rest.take 2))) <;> rfl

/-- Each turn consumes at least three bytes, so the fuel is never used up. -/
lemma splitLoop_isSome : ∀ (fuel : ℕ) (rest : Bytes), rest.length < fuel →
    (splitLoop fuel rest).isSome
  | 0, _, h => by omega
  | fuel + 1, rest, h => by
    rw [splitLoop_succ]
    split_ifs with hshort hstop
    · rfl
    · rfl
    · rw [not_or] at hstop
      rw [Option.isSome_map]
      refine splitLoop_isSome fuel _ ?_
      simp only [List.length_drop]
      omega

/-- **Splitting never panics**, on arbitrary bytes, and terminates. -/
theorem splitKCPPayload_isSome (payload : Bytes) : (splitKCPPayload payload).isSome := by
  unfold splitKCPPayload
  split_ifs with hshort
  · rfl
  · rw [goSlice_of_le (Nat.zero_le _) (not_lt.mp hshort),
      goSlice_of_le (not_lt.mp hshort) (le_refl _)]
    simp only [Option.bind_eq_bind, Option.bind_some]
    split_ifs
    · rfl
    · exact splitLoop_isSome _ _ (Nat.lt_succ_self _)

/-- **The loop undoes batching.** -/
lemma splitLoop_batch : ∀ (packets : List Bytes) (fuel : ℕ), (∀ p ∈ packets, Batchable p) →
    packets.length < fuel → splitLoop fuel (packets.flatMap batchPacket) = some packets
  | [], fuel + 1, _, _ => by
    rw [splitLoop_succ]
    rfl
  | packet :: packets, fuel + 1, hall, hfuel => by
    obtain ⟨hne, hle⟩ := hall packet (by simp)
    have hpos : 0 < packet.length := List.length_pos_iff.mpr hne
    have hsize : beGet (bePut 2 packet.length) = packet.length := beGet_bePut (by omega)
    set rest := packets.flatMap batchPacket with hrest
    have hdata : (packet :: packets).flatMap batchPacket
        = bePut 2 packet.length ++ (packet ++ rest) := by
      rw [List.flatMap_cons, batchPacket, List.append_assoc]
    have htake : (bePut 2 packet.length ++ (packet ++ rest)).take 2 = bePut 2 packet.length :=
      List.take_left' (length_bePut _ _)
    have hdrop : (bePut 2 packet.length ++ (packet ++ rest)).drop 2 = packet ++ rest :=
      List.drop_left' (length_bePut _ _)
    have hlong : ¬ (bePut 2 packet.length ++ (packet ++ rest)).length < 2 := by
      simp only [List.length_append, length_bePut]
      omega
    rw [hdata, splitLoop_succ, htake, hdrop, hsize, if_neg hlong,
      if_neg (by simp only [List.length_append]; omega), List.take_left, List.drop_left,
      splitLoop_batch packets fuel (fun p hp => hall p (by simp [hp]))
        (by simpa using hfuel)]
    rfl

lemma length_le_batch : ∀ packets : List Bytes,
    packets.length ≤ (packets.flatMap batchPacket).length
  | [] => Nat.zero_le _
  | packet :: packets => by
    have ih := length_le_batch packets
    simp only [List.flatMap_cons, List.length_append, List.length_cons, batchPacket, length_bePut]
    omega

lemma splitKCPPayload_single {packet : Bytes} (h : packet.take 4 ≠ kcpBatchMagic) :
    splitKCPPayload packet = some [packet] := by
  unfold splitKCPPayload
  split_ifs with hshort
  · rfl
  · rw [goSlice_of_le (Nat.zero_le _) (not_lt.mp hshort), slice_zero, length_kcpBatchMagic]
    simp [h]

/-- **A batch splits into its packets.** -/
theorem splitKCPPayload_batch {packets : List Bytes} (h : ∀ p ∈ packets, Batchable p) :
    splitKCPPayload (kcpBatchMagic ++ packets.flatMap batchPacket) = some packets := by
  set rest := packets.flatMap batchPacket with hrest
  have hlen : kcpBatchMagic.length ≤ (kcpBatchMagic ++ rest).length := by simp
  unfold splitKCPPayload
  rw [if_neg (by omega), goSlice_of_le (Nat.zero_le _) hlen, goSlice_of_le hlen (le_refl _),
    slice_zero, slice_length, List.take_left, List.drop_left]
  simp only [Option.bind_eq_bind, Option.bind_some, ne_eq, not_true_eq_false, if_false]
  exact splitLoop_batch packets _ h (Nat.lt_succ_of_le (length_le_batch packets))

end OlcRtc
