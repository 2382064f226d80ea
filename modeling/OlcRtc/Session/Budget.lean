import OlcRtc.Session.Validate
import OlcRtc.Transport.Channel

/-!
# The payload budget

Four layers have to agree on sizes.  The configuration fixes how large a fragment is; the transport
announces a payload limit that is a multiple of it (`Features`), which the traffic shaper may
narrow; smux is told to keep its frames so small that they fit under the limit once sealed
(`clampMaxFrameSize`); and the receiver accepts at most 4096 fragments of a message.

They do not always agree.  `clampMaxFrameSize` leaves the frame size alone when the limit is too
small for any frame, which happens for an SEI fragment size of at most 6.  The limit of
`videochannel` does not shrink with its fragment size, so that a QR size of at most 3 makes too many
fragments.  And nothing bounds the QR size from above: just below `2 ^ 63` the capacity that
`FragmentPayload` reserves overflows.  **`payload_budget_iff`** says that these are all the cases.
-/

namespace OlcRtc

/-! ## Transports -/

/-- `Features`. -/
structure Features where
  maxPayloadSize : Int64
deriving DecidableEq

/-- `Shaper`. -/
structure Shaper where
  maxPayloadSize : Int64
  minDelay : Int64
  maxDelay : Int64

/-- `NewShaper`; `none` is the nil shaper. -/
def newShaper (cfg : TrafficConfig) (features : Features) : Option Shaper :=
  let maxPayloadSize :=
    if 0 < cfg.maxPayloadSize ∧ 0 < features.maxPayloadSize ∧
        features.maxPayloadSize < cfg.maxPayloadSize then features.maxPayloadSize
    else cfg.maxPayloadSize
  if maxPayloadSize ≤ 0 ∧ cfg.minDelay ≤ 0 ∧ cfg.maxDelay ≤ 0 then none
  else some ⟨maxPayloadSize, cfg.minDelay, cfg.maxDelay⟩

/-- `Shaper.Features`. -/
def shapeFeatures : Option Shaper → Features → Features
  | none, f => f
  | some s, f =>
    if s.maxPayloadSize ≤ 0 then f
    else if f.maxPayloadSize = 0 ∨ s.maxPayloadSize < f.maxPayloadSize then ⟨s.maxPayloadSize⟩
    else f

def normalizeFPS (fps default : Int64) : Int64 :=
  if fps ≤ 0 then default else if maxFPS < fps then maxFPS else fps

/-- `withDefaults` of `seichannel`; its `Options` are the fields of `SEIConfig`. -/
def SEIConfig.withDefaults (o : SEIConfig) : SEIConfig where
  fps := normalizeFPS o.fps 30
  batchSize := if o.batchSize ≤ 0 then 64 else o.batchSize
  fragmentSize := if o.fragmentSize ≤ 0 then 900 else o.fragmentSize
  ackTimeoutMS := if o.ackTimeoutMS ≤ 0 then 3000 else o.ackTimeoutMS

/-- `withDefaults` of `videochannel`; its `Options` are the fields of `VideoConfig`.  The tile codec
has frames of 1080 by 1080. -/
def VideoConfig.withDefaults (o : VideoConfig) : VideoConfig where
  width := if o.width ≤ 0 then (if o.codec = "tile" then 1080 else 1920) else o.width
  height := if o.height ≤ 0 then 1080 else o.height
  fps := normalizeFPS o.fps 30
  qrSize := if o.qrSize ≤ 0 then 256 else o.qrSize
  qrRecovery := o.qrRecovery
  codec := o.codec
  tileModule := if o.tileModule ≤ 0 then 4 else o.tileModule
  tileRS := if o.tileRS < 0 then 20 else o.tileRS

/-- What `seichannel` and `videochannel` have in common: the fragment size of the sender, the
features of the codec, and the shaper. -/
structure Carrier where
  fragmentSize : Int64
  codec : Features
  shaper : Option Shaper

/-- `Features` of a transport. -/
def Carrier.features (c : Carrier) : Features := shapeFeatures c.shaper c.codec

/-- `newStreamTransport` of `seichannel`. -/
def newSEIChannel (opts : SEIConfig) (traffic : TrafficConfig) : Carrier :=
  let codec : Features := ⟨opts.fragmentSize * 8⟩
  ⟨opts.fragmentSize, codec, newShaper traffic codec⟩

/-- `newStreamTransport` of `videochannel`. -/
def newVideoChannel (opts : VideoConfig) (traffic : TrafficConfig) : Carrier :=
  let codec : Features := ⟨if 16384 < opts.qrSize * 64 then opts.qrSize * 64 else 16384⟩
  ⟨opts.qrSize, codec, newShaper traffic codec⟩

def openCarrier (host : Host) (cfg : SessionConfig) : Except ConfigError (Option Carrier) := do
  let traffic ← trafficConfig host cfg
  if cfg.transport = "videochannel" then
    return some (newVideoChannel cfg.video.withDefaults traffic)
  else if cfg.transport = "seichannel" then
    return some (newSEIChannel cfg.sei.withDefaults traffic)
  else return none

/-! ## smux and the sender -/

/-- The fields of smux's `Config` that `SmuxConfig` sets. -/
structure SmuxConfig where
  version : ℕ
  keepAliveDisabled : Bool
  maxFrameSize : Int64
  maxReceiveBuffer : ℕ
  maxStreamBuffer : ℕ
  keepAliveInterval : ℕ
  keepAliveTimeout : ℕ

def clampMaxFrameSize (maxFrameSize maxWirePayload : Int64) : Int64 :=
  if minSmuxWirePayload ≤ maxWirePayload ∧ maxWirePayload - smuxWireOverhead < maxFrameSize then
    maxWirePayload - smuxWireOverhead
  else maxFrameSize

/-- `SmuxConfig`; times are in seconds. -/
def smuxConfig (maxWirePayload : Int64) : SmuxConfig where
  version := 2
  keepAliveDisabled := false
  maxFrameSize := clampMaxFrameSize 32768 maxWirePayload
  maxReceiveBuffer := 32 * 1024 * 1024
  maxStreamBuffer := 4 * 1024 * 1024
  keepAliveInterval := 10
  keepAliveTimeout := 30

/-- `SmuxConfigFor`: neither transport has a control plane of its own. -/
def smuxConfigFor (c : Carrier) : SmuxConfig := smuxConfig c.features.maxPayloadSize

/-- The capacity that `FragmentPayload` reserves. -/
def fragmentCap (len maxSize : Int64) : Int64 := (len + maxSize - 1) / maxSize

/-- `FragmentPayload` with the `int` it is called with; `none` when `make` panics. -/
def cutPayload (data : Bytes) (maxSize : Int64) : Option (List Bytes) :=
  if data.length ≠ 0 ∧ 0 < maxSize ∧ fragmentCap (Int64.ofNat data.length) maxSize < 0 then none
  else some (fragmentPayload data maxSize.toNatClampNeg)

/-- The receiver takes every fragment of `data` that `queueFragments` sends. -/
def Accepted (data : Bytes) (fragments : List Bytes) : Prop :=
  ∀ (role : UInt8) (binding seq : UInt32), ∀ idx < fragments.length,
    ∃ frame, decodeFrame (encodeData role binding seq (crc32 data) data.length idx
      fragments.length (fragments.getD idx [])) = .ok frame ∧ frame.fragment.valid = true

/-- Every frame smux may write, once sealed, respects the limit of the transport and reaches the
receiver in fragments it takes. -/
def WithinBudget (aead : AEAD) (c : Carrier) : Prop :=
  ∀ (header payload aad enc : Bytes) (keys keys' : KeySet), header.length = smuxFrameOverhead →
    (payload.length : ℤ) ≤ (smuxConfigFor c).maxFrameSize.toInt →
    keys.sealInto aead [] (header ++ payload) aad = (keys', .ok enc) →
    (enc.length : ℤ) ≤ c.features.maxPayloadSize.toInt ∧
      ∃ fragments, cutPayload enc c.fragmentSize = some fragments ∧ Accepted enc fragments

/-! ## What fits, in numbers -/

lemma accepted_iff {data : Bytes} {maxSize : ℕ} (hpos : 0 < data.length)
    (hlen : data.length < 65536) (hsize : 0 < maxSize) :
    Accepted data (fragmentPayload data maxSize) ↔
      (data.length + maxSize - 1) / maxSize ≤ maxFragments := by
  set fragments := fragmentPayload data maxSize with hfragments
  have hcount : fragments.length = (data.length + maxSize - 1) / maxSize :=
    length_fragmentPayload (by omega) hsize
  have hfew : fragments.length ≤ data.length := by
    obtain ⟨k, rfl⟩ : ∃ k, maxSize = k + 1 := ⟨maxSize - 1, by omega⟩
    have hk : k ≤ k * data.length := Nat.le_mul_of_pos_right k hpos
    rw [hcount]
    apply Nat.div_le_of_le_mul
    rw [Nat.add_mul, Nat.one_mul]
    omega
  have hsome : 0 < fragments.length := List.length_pos_iff.mpr (fragmentPayload_ne_nil data maxSize)
  have htotal : (UInt16.ofNat fragments.length).toNat = fragments.length :=
    UInt16.toNat_ofNat_of_lt' (by show fragments.length < 65536; omega)
  have hlength : (UInt32.ofNat data.length).toNat = data.length :=
    UInt32.toNat_ofNat_of_lt' (by show data.length < 4294967296; omega)
  rw [← hcount]
  constructor
  · intro haccepted
    obtain ⟨frame, hdecode, hvalid⟩ := haccepted 0 0 0 0 hsome
    rw [encodeData, decodeFrame_dataHeader, Except.ok.injEq] at hdecode
    subst hdecode
    by_contra hmany
    simp only [Fragment.valid, Frame.fragment, htotal] at hvalid
    rw [if_pos (by omega)] at hvalid
    exact Bool.false_ne_true hvalid
  · intro hmany role binding seq idx hidx
    have hindex : (UInt16.ofNat idx).toNat = idx :=
      UInt16.toNat_ofNat_of_lt' (by show idx < 65536; omega)
    have hpayload : (fragments.getD idx []).length ≤ data.length := by
      rw [List.getD_eq_getElem?_getD, List.getElem?_eq_getElem hidx, Option.getD_some]
      exact length_le_of_mem_fragmentPayload (List.getElem_mem hidx)
    refine ⟨_, by rw [encodeData, decodeFrame_dataHeader], ?_⟩
    have hnonzero : UInt16.ofNat fragments.length ≠ 0 := by
      intro hzero
      rw [hzero] at htotal
      simp at htotal
      omega
    simp only [Fragment.valid, Frame.fragment, htotal, hlength, UInt16.le_iff_toNat_le, hindex,
      hnonzero, false_or]
    rw [if_neg (by omega), if_neg (by simp only [maxMessageLen]; omega), if_neg (by omega),
      if_neg (by omega)]
    simp

/-- `FragmentPayload` panics in a narrow range below `2 ^ 63`: the sum in the capacity wraps around,
and its quotient is `-1`. -/
lemma fragmentCap_neg_iff {len : ℕ} {maxSize : Int64} (hpos : 0 < len) (hlen : len < 65536)
    (hsize : 0 < maxSize.toInt) :
    fragmentCap (Int64.ofNat len) maxSize < 0 ↔
      2 ^ 63 < len + maxSize.toInt ∧ len + 2 * maxSize.toInt ≤ 2 ^ 64 + 1 := by
  have hmax := maxSize.toInt_lt
  have hcast : (Int64.ofNat len).toInt = len := Int64.toInt_ofNat_of_lt (by omega)
  have hne : maxSize ≠ -1 := by
    rintro rfl
    exact absurd hsize (by decide)
  have hsum : (Int64.ofNat len + maxSize - 1).toInt = (len + maxSize.toInt - 1).bmod (2 ^ 64) := by
    rw [Int64.toInt_sub, Int64.toInt_add, hcast, Int64.toInt_one, Int.bmod_sub_bmod]
  rw [Int64.lt_iff_toInt_lt, fragmentCap, Int64.toInt_div_of_ne_right _ _ hne, hsum,
    Int64.toInt_zero]
  generalize maxSize.toInt = m at *
  by_cases hfits : len + m ≤ 2 ^ 63
  · rw [Int.bmod_eq_of_le (by omega) (by omega)]
    have hnonneg : 0 ≤ (len + m - 1).tdiv m := Int.tdiv_nonneg (by omega) (by omega)
    omega
  · have hwrap : (len + m - 1).bmod (2 ^ 64) = -(2 ^ 64 + 1 - len - m) := by
      rw [← Int.sub_bmod_right, Int.bmod_eq_of_le (by omega) (by omega)]
      omega
    have hquotient : 0 < (2 ^ 64 + 1 - len - m) / m ↔ m ≤ 2 ^ 64 + 1 - len - m := by
      rw [← Int.add_one_le_iff, Int.zero_add, Int.le_ediv_iff_mul_le hsize, Int.one_mul]
    rw [hwrap, Int.neg_tdiv, Int.tdiv_eq_ediv_of_nonneg (by omega)]
    omega

lemma length_sealInto {aead : AEAD}
    (hlen : ∀ key nonce plaintext aad,
      (aead.sealRecord key nonce plaintext aad).length = plaintext.length + aeadOverhead)
    {keys keys' : KeySet} {plaintext aad enc : Bytes}
    (h : keys.sealInto aead [] plaintext aad = (keys', .ok enc)) :
    enc.length = plaintext.length + wireOverhead := by
  rw [KeySet.sealInto_eq] at h
  split_ifs at h with hmax
  · simp at h
  · simp only [Prod.mk.injEq, Except.ok.injEq] at h
    rw [← h.2, KeySet.sealAt, List.nil_append, List.length_append, length_recordHeader, hlen,
      wireOverhead]
    omega

/-- A sealed frame of `len` bytes respects the limits of `c`. -/
structure Fits (c : Carrier) (len : ℤ) : Prop where
  limit : len ≤ c.features.maxPayloadSize.toInt
  noPanic : ¬ (2 ^ 63 < len + c.fragmentSize.toInt ∧ len + 2 * c.fragmentSize.toInt ≤ 2 ^ 64 + 1)
  few : len ≤ 4096 * c.fragmentSize.toInt

lemma toInt_clampMaxFrameSize_le (maxFrameSize maxWirePayload : Int64) :
    (clampMaxFrameSize maxFrameSize maxWirePayload).toInt ≤ maxFrameSize.toInt := by
  unfold clampMaxFrameSize
  split_ifs with h
  · exact (Int64.lt_iff_toInt_lt.mp h.2).le
  · exact le_refl _

lemma fits_iff {c : Carrier} (hsize : 0 < c.fragmentSize.toInt) {enc : Bytes}
    (hpos : 0 < enc.length) (hmax : enc.length < 65536) :
    ((enc.length : ℤ) ≤ c.features.maxPayloadSize.toInt ∧
      ∃ fragments, cutPayload enc c.fragmentSize = some fragments ∧ Accepted enc fragments) ↔
    Fits c enc.length := by
  have hcast : (c.fragmentSize.toNatClampNeg : ℤ) = c.fragmentSize.toInt :=
    Int.toNat_of_nonneg hsize.le
  have hpositive : 0 < c.fragmentSize := Int64.lt_iff_toInt_lt.mpr hsize
  have hfew : (enc.length + c.fragmentSize.toNatClampNeg - 1) / c.fragmentSize.toNatClampNeg
      ≤ maxFragments ↔ (enc.length : ℤ) ≤ 4096 * c.fragmentSize.toInt := by
    rw [← Nat.lt_succ_iff, Nat.div_lt_iff_lt_mul (by omega), maxFragments]
    omega
  have haccepted := @accepted_iff enc c.fragmentSize.toNatClampNeg hpos hmax (by omega)
  have hcap := fragmentCap_neg_iff hpos hmax hsize
  constructor
  · rintro ⟨hlimit, fragments, hcut, htaken⟩
    unfold cutPayload at hcut
    split_ifs at hcut with hpanic
    obtain rfl := Option.some.inj hcut
    refine ⟨hlimit, fun hwrap => hpanic ⟨by omega, hpositive, hcap.mpr hwrap⟩, ?_⟩
    exact hfew.mp (haccepted.mp htaken)
  · rintro ⟨hlimit, hwrap, hfewer⟩
    refine ⟨hlimit, _, ?_, haccepted.mpr (hfew.mpr hfewer)⟩
    exact if_neg fun hpanic => hwrap (hcap.mp hpanic.2.2)

/-- **The budget in numbers**: sealing adds 44 bytes to a frame and smux 8. -/
lemma withinBudget_iff {aead : AEAD}
    (hlen : ∀ key nonce plaintext aad,
      (aead.sealRecord key nonce plaintext aad).length = plaintext.length + aeadOverhead)
    {c : Carrier} (hsize : 0 < c.fragmentSize.toInt) :
    WithinBudget aead c ↔
      ∀ n : ℕ, (n : ℤ) ≤ (smuxConfigFor c).maxFrameSize.toInt → Fits c (n + 52 : ℕ) := by
  have hmax : (smuxConfigFor c).maxFrameSize.toInt ≤ 32768 := toInt_clampMaxFrameSize_le _ _
  have hoverhead : wireOverhead = 44 := rfl
  constructor
  · intro hbudget n hn
    set header : Bytes := List.replicate smuxFrameOverhead 0
    set payload : Bytes := List.replicate n 0
    set keys : KeySet := ⟨List.Vector.replicate 32 0, List.Vector.replicate 16 0, 0,
      List.Vector.replicate 32 0, ReplayCache.empty⟩
    set enc := keys.sealAt aead 1 [] (header ++ payload) []
    have hseal : keys.sealInto aead [] (header ++ payload) []
        = ({ keys with counter := 1 }, .ok enc) := by
      rw [KeySet.sealInto_eq, if_neg (by decide)]
      rfl
    have henc : enc.length = n + 52 := by
      rw [length_sealInto hlen hseal, hoverhead]
      simp [header, payload, smuxFrameOverhead]
    have hpayload : (payload.length : ℤ) ≤ (smuxConfigFor c).maxFrameSize.toInt := by
      simpa [payload] using hn
    rw [← henc]
    exact (fits_iff hsize (by omega) (by omega)).mp
      (hbudget header payload [] enc keys _ (by simp [header]) hpayload hseal)
  · intro hfits header payload aad enc keys keys' hheader hpayload hseal
    have henc : enc.length = payload.length + 52 := by
      rw [length_sealInto hlen hseal, hoverhead, List.length_append, hheader, smuxFrameOverhead]
      omega
    refine (fits_iff hsize (by omega) (by omega)).mpr ?_
    rw [henc]
    exact hfits payload.length hpayload

lemma withinBudget_of_fits {aead : AEAD}
    (hlen : ∀ key nonce plaintext aad,
      (aead.sealRecord key nonce plaintext aad).length = plaintext.length + aeadOverhead)
    {size : Int64} {codec : Features} {shaper : Option Shaper} (hsize : 0 < size.toInt) {P : Prop}
    (hfits : (∀ n : ℕ, (n : ℤ) ≤ (smuxConfigFor ⟨size, codec, shaper⟩).maxFrameSize.toInt →
      Fits ⟨size, codec, shaper⟩ (n + 52 : ℕ)) ↔ P) :
    WithinBudget aead ⟨size, codec, shaper⟩ ↔ P :=
  (withinBudget_iff (c := ⟨size, codec, shaper⟩) hlen hsize).trans hfits

/-! ## Accepted configurations -/

/-- The condition, for a configuration that selects one of the two transports.  For
`videochannel`, `limit` is the payload limit that goes with a small QR size. -/
def BudgetOk (cfg : SessionConfig) : Prop :=
  let cap := cfg.trafficMaxPayloadSize.toInt
  let limit := if 0 < cap ∧ cap < 16384 then cap else 16384
  let qrSize := cfg.video.qrSize.toInt
  if cfg.transport = "seichannel" then 7 ≤ cfg.sei.fragmentSize.toInt
  else qrSize ≤ 0 ∨
    (limit ≤ 4096 * qrSize ∧ ¬ (2 ^ 63 < limit + qrSize ∧ qrSize ≤ 2 ^ 63 - 26))

lemma toInt_features {fragmentSize : Int64} {codec : Features} {traffic : TrafficConfig}
    (hcodec : 0 < codec.maxPayloadSize.toInt) (hcap : 0 ≤ traffic.maxPayloadSize.toInt) :
    (Carrier.features ⟨fragmentSize, codec, newShaper traffic codec⟩).maxPayloadSize.toInt =
      if 0 < traffic.maxPayloadSize.toInt ∧
        traffic.maxPayloadSize.toInt < codec.maxPayloadSize.toInt then traffic.maxPayloadSize.toInt
      else codec.maxPayloadSize.toInt := by
  have hnonzero : ¬ codec.maxPayloadSize = 0 := by
    intro hzero
    rw [hzero, Int64.toInt_zero] at hcodec
    omega
  simp only [Carrier.features, newShaper, Int64.lt_iff_toInt_lt, Int64.le_iff_toInt_le,
    Int64.toInt_zero]
  by_cases hcapped : 0 < traffic.maxPayloadSize.toInt
  · have hpos : ¬ traffic.maxPayloadSize.toInt ≤ 0 := by omega
    have hcodec' : ¬ codec.maxPayloadSize.toInt ≤ 0 := by omega
    by_cases hwide : codec.maxPayloadSize.toInt < traffic.maxPayloadSize.toInt
    · have hnarrow : ¬ traffic.maxPayloadSize.toInt < codec.maxPayloadSize.toInt := by omega
      simp only [hcapped, hcodec, hwide, hnarrow, hcodec', and_self, and_false, false_and, if_true,
        if_false, shapeFeatures, Int64.lt_iff_toInt_lt, Int64.le_iff_toInt_le, Int64.toInt_zero,
        hnonzero, false_or, lt_irrefl]
    · simp only [hcapped, hcodec, hwide, hpos, and_false, false_and, true_and, if_false,
        shapeFeatures, Int64.lt_iff_toInt_lt, Int64.le_iff_toInt_le, Int64.toInt_zero, hnonzero,
        false_or]
      split_ifs <;> rfl
  · simp only [hcapped, false_and, if_false]
    split_ifs
    · rfl
    · rw [shapeFeatures, if_pos]
      rw [Int64.le_iff_toInt_le, Int64.toInt_zero]
      show traffic.maxPayloadSize.toInt ≤ 0
      omega

lemma toInt_maxFrameSize {c : Carrier} (hlimit : 0 < c.features.maxPayloadSize.toInt) :
    (smuxConfigFor c).maxFrameSize.toInt =
      if 53 ≤ c.features.maxPayloadSize.toInt ∧ c.features.maxPayloadSize.toInt < 32820
      then c.features.maxPayloadSize.toInt - 52 else 32768 := by
  have hmin : minSmuxWirePayload.toInt = 53 := by decide
  have hover : smuxWireOverhead.toInt = 52 := by decide
  have hmax := c.features.maxPayloadSize.toInt_lt
  have hsub : (c.features.maxPayloadSize - smuxWireOverhead).toInt
      = c.features.maxPayloadSize.toInt - 52 := by
    rw [Int64.toInt_sub, hover, Int.bmod_eq_of_le (by omega) (by omega)]
  have hdefault : (32768 : Int64).toInt = 32768 := by decide
  simp only [smuxConfigFor, smuxConfig, clampMaxFrameSize, Int64.lt_iff_toInt_lt,
    Int64.le_iff_toInt_le, hmin, hsub, hdefault]
  split_ifs with h1 h2 h2
  · exact hsub
  · omega
  · omega
  · exact hdefault

lemma sei_fits_iff {size : Int64} {traffic : TrafficConfig} (hpos : 0 < size.toInt)
    (hmax : size.toInt ≤ 60000)
    (hcap : traffic.maxPayloadSize.toInt = 0 ∨ 53 ≤ traffic.maxPayloadSize.toInt) :
    let c : Carrier := ⟨size, ⟨size * 8⟩, newShaper traffic ⟨size * 8⟩⟩
    (∀ n : ℕ, (n : ℤ) ≤ (smuxConfigFor c).maxFrameSize.toInt → Fits c (n + 52 : ℕ)) ↔
      7 ≤ size.toInt := by
  intro c
  have hcodec : (size * 8).toInt = size.toInt * 8 := by
    have height : (8 : Int64).toInt = 8 := by decide
    rw [Int64.toInt_mul, height, Int.bmod_eq_of_le (by omega) (by omega)]
  have hlimit : c.features.maxPayloadSize.toInt = _ :=
    toInt_features (by rw [hcodec]; omega) (by omega)
  rw [hcodec] at hlimit
  have hpositive : 0 < c.features.maxPayloadSize.toInt := by
    rw [hlimit]
    split_ifs <;> omega
  have hframe := toInt_maxFrameSize hpositive
  constructor
  · intro hfits
    by_contra hsmall
    -- the limit is too small for a frame, so smux is left with its default size
    have hnone : (smuxConfigFor c).maxFrameSize.toInt = 32768 := by
      grind
    have hbig := (hfits 32768 (by rw [hnone]; norm_num)).limit
    rw [hlimit] at hbig
    split_ifs at hbig <;> push_cast at hbig <;> omega
  · intro hlarge n hn
    have hlimits : 53 ≤ c.features.maxPayloadSize.toInt ∧
        c.features.maxPayloadSize.toInt ≤ size.toInt * 8 := by
      rw [hlimit]
      split_ifs <;> omega
    have hclamped : (n : ℤ) + 52 ≤ c.features.maxPayloadSize.toInt := by
      rw [hframe] at hn
      split_ifs at hn <;> omega
    have hfragment : c.fragmentSize.toInt = size.toInt := rfl
    refine ⟨by push_cast; exact hclamped, ?_, ?_⟩
    · rw [hfragment]
      push_cast
      omega
    · rw [hfragment]
      push_cast
      omega

/-- The payload limit of the video codec.  It is 16 KiB for a small QR size, and again for one so
large that the product wraps around to a negative number. -/
lemma video_codec_cases {size : Int64} (hpos : 0 < size.toInt) :
    let limit := (if (16384 : Int64) < size * 64 then size * 64 else 16384).toInt
    16384 ≤ limit ∧ (size.toInt ≤ 256 ∨ 2 ^ 63 - 40000 ≤ size.toInt → limit = 16384) := by
  intro limit
  have hmax := size.toInt_lt
  have hproduct : (size * 64).toInt = (size.toInt * 64).bmod (2 ^ 64) := by
    have hfactor : (64 : Int64).toInt = 64 := by decide
    rw [Int64.toInt_mul, hfactor]
  have hsmall : (16384 : Int64).toInt = 16384 := by decide
  by_cases hlarge : (16384 : Int64) < size * 64
  · have hlimit : limit = (size.toInt * 64).bmod (2 ^ 64) := by
      rw [← hproduct]
      exact congrArg Int64.toInt (if_pos hlarge)
    rw [Int64.lt_iff_toInt_lt, hsmall, hproduct] at hlarge
    refine ⟨by omega, fun hcase => ?_⟩
    rw [Int.bmod_def] at hlarge
    split_ifs at hlarge <;> omega
  · have hlimit : limit = 16384 := by
      rw [← hsmall]
      exact congrArg Int64.toInt (if_neg hlarge)
    exact ⟨hlimit.ge, fun _ => hlimit⟩

/-- `videochannel`: the limit does not follow the QR size. -/
lemma video_fits_iff {size : Int64} {traffic : TrafficConfig} (hpos : 0 < size.toInt)
    (hcap : traffic.maxPayloadSize.toInt = 0 ∨ 53 ≤ traffic.maxPayloadSize.toInt) :
    let codec : Features := ⟨if 16384 < size * 64 then size * 64 else 16384⟩
    let c : Carrier := ⟨size, codec, newShaper traffic codec⟩
    let limit := if 0 < traffic.maxPayloadSize.toInt ∧ traffic.maxPayloadSize.toInt < 16384
      then traffic.maxPayloadSize.toInt else 16384
    (∀ n : ℕ, (n : ℤ) ≤ (smuxConfigFor c).maxFrameSize.toInt → Fits c (n + 52 : ℕ)) ↔
      limit ≤ 4096 * size.toInt ∧ ¬ (2 ^ 63 < limit + size.toInt ∧ size.toInt ≤ 2 ^ 63 - 26) := by
  intro codec c limit
  have hmax := size.toInt_lt
  obtain ⟨hcodec, hcodec'⟩ := video_codec_cases hpos
  have hlimit : c.features.maxPayloadSize.toInt = _ :=
    @toInt_features size codec traffic (lt_of_lt_of_le (by norm_num) hcodec) (by omega)
  have hraw : 16384 ≤ codec.maxPayloadSize.toInt := hcodec
  have hraw' : size.toInt ≤ 256 ∨ 2 ^ 63 - 40000 ≤ size.toInt →
      codec.maxPayloadSize.toInt = 16384 := hcodec'
  have hlow : 53 ≤ c.features.maxPayloadSize.toInt := by
    rw [hlimit]
    split_ifs <;> omega
  have hcapped : limit ≤ 16384 ∧ 53 ≤ limit := by
    simp only [limit]
    split_ifs <;> omega
  have hsame : size.toInt ≤ 256 ∨ 2 ^ 63 - 40000 ≤ size.toInt →
      c.features.maxPayloadSize.toInt = limit := by
    intro hcase
    rw [hlimit, hraw' hcase]
  have hframe := @toInt_maxFrameSize c (by omega)
  have hfragment : c.fragmentSize.toInt = size.toInt := rfl
  clear_value limit
  generalize hannounce : c.features.maxPayloadSize.toInt = announced at *
  constructor
  · intro hfits
    refine ⟨?_, ?_⟩
    · by_contra hmany
      have hannounced := hsame (by omega)
      have hlast : (limit.toNat - 52 : ℕ) ≤ (smuxConfigFor c).maxFrameSize.toInt := by
        rw [hframe, if_pos (by omega)]
        omega
      have hfew := (hfits _ hlast).few
      rw [hfragment] at hfew
      omega
    · rintro ⟨hwrap, hbelow⟩
      have hannounced := hsame (by omega)
      set len : ℕ := max 52 (2 ^ 63 - size.toInt + 1).toNat with hlen
      have hframeOk : ((len - 52 : ℕ) : ℤ) ≤ (smuxConfigFor c).maxFrameSize.toInt := by
        rw [hframe, if_pos (by omega)]
        omega
      have hpanic := (hfits _ hframeOk).noPanic
      rw [hfragment] at hpanic
      omega
  · rintro ⟨hfew, hwrap⟩ n hn
    have hlen : (n : ℤ) + 52 ≤ announced ∧ n + 52 ≤ 32820 := by
      rw [hframe] at hn
      split_ifs at hn <;> omega
    refine ⟨?_, ?_, ?_⟩
    · rw [hannounce]
      exact_mod_cast hlen.1
    · grind
    · grind

lemma openCarrier_sei {host : Host} {cfg : SessionConfig} {traffic : TrafficConfig}
    (htraffic : trafficConfig host cfg = .ok traffic) (htransport : cfg.transport = "seichannel") :
    openCarrier host cfg = .ok (some (newSEIChannel cfg.sei.withDefaults traffic)) := by
  simp [openCarrier, htraffic, htransport, bind, Except.bind, pure, Except.pure]

lemma openCarrier_video {host : Host} {cfg : SessionConfig} {traffic : TrafficConfig}
    (htraffic : trafficConfig host cfg = .ok traffic)
    (htransport : cfg.transport = "videochannel") :
    openCarrier host cfg = .ok (some (newVideoChannel cfg.video.withDefaults traffic)) := by
  simp [openCarrier, htraffic, htransport, bind, Except.bind, pure, Except.pure]

/-- **The payload budget.**  For every accepted configuration that selects `seichannel` or
`videochannel`, the session opens a transport, and every frame smux may write over it fits, once
sealed, under the limit of the transport and is cut into fragments the receiver takes, exactly if
`BudgetOk`. -/
theorem payload_budget_iff (aead : AEAD)
    (hlen : ∀ key nonce plaintext aad,
      (aead.sealRecord key nonce plaintext aad).length = plaintext.length + aeadOverhead)
    (host : Host) (cfg : SessionConfig) (hvalid : validate host cfg = .ok ())
    (htransport : cfg.transport = "seichannel" ∨ cfg.transport = "videochannel") :
    ∃ c, openCarrier host cfg = .ok (some c) ∧ (WithinBudget aead c ↔ BudgetOk cfg) := by
  obtain ⟨hconfig, traffic, htraffic⟩ := validate_spec hvalid
  obtain ⟨hcapEq, hcap⟩ := trafficConfig_spec htraffic
  rcases htransport with hsei | hvideo
  · refine ⟨_, openCarrier_sei htraffic hsei, ?_⟩
    rw [validateTransportConfig, hsei] at hconfig
    obtain ⟨hpos, hmax⟩ := validateSEIChannel_spec hconfig
    have hsize : cfg.sei.withDefaults.fragmentSize = cfg.sei.fragmentSize := by
      refine if_neg ?_
      rw [Int64.le_iff_toInt_le, Int64.toInt_zero]
      omega
    have hok : BudgetOk cfg ↔ 7 ≤ cfg.sei.fragmentSize.toInt := iff_of_eq (if_pos hsei)
    rw [newSEIChannel, hsize]
    exact (withinBudget_of_fits hlen hpos (sei_fits_iff hpos hmax hcap)).trans hok.symm
  · refine ⟨_, openCarrier_video htraffic hvideo, ?_⟩
    have hne : cfg.transport ≠ "seichannel" := by rw [hvideo]; decide
    have hok : BudgetOk cfg ↔ _ := iff_of_eq (if_neg hne)
    rw [← hcapEq] at hok
    by_cases hdefault : cfg.video.qrSize.toInt ≤ 0
    · have hsize : cfg.video.withDefaults.qrSize = 256 := by
        refine if_pos ?_
        rw [Int64.le_iff_toInt_le, Int64.toInt_zero]
        exact hdefault
      have hpos : 0 < (256 : Int64).toInt := by decide
      rw [newVideoChannel, hsize]
      refine iff_of_true ((withinBudget_of_fits hlen hpos (video_fits_iff hpos hcap)).mpr ?_)
        (hok.mpr (Or.inl hdefault))
      have h256 : (256 : Int64).toInt = 256 := by decide
      rw [h256]
      split_ifs <;> omega
    · have hsize : cfg.video.withDefaults.qrSize = cfg.video.qrSize := by
        refine if_neg ?_
        rw [Int64.le_iff_toInt_le, Int64.toInt_zero]
        exact hdefault
      have hpos : 0 < cfg.video.qrSize.toInt := by omega
      rw [newVideoChannel, hsize]
      rw [or_iff_right hdefault] at hok
      exact (withinBudget_of_fits hlen hpos (video_fits_iff hpos hcap)).trans hok.symm

/-- A server over `seichannel` with a fragment size of 6 and no traffic cap. -/
theorem payload_budget_seiSix :
    let host : Host := ⟨["jitsi"], ["seichannel"], fun _ => .error "time: invalid duration",
      fun _ => false⟩
    let cfg : SessionConfig := ⟨"srv", "seichannel", "jitsi", "room",
      "000102030405060708090a0b0c0d0e0f101112131415161718191a1b1c1d1e1f", "", 0, "", "", "1.1.1.1",
      false, ⟨0, 0, 0, 0, "", "", 0, 0⟩, ⟨0, 0⟩, ⟨30, 64, 6, 2000⟩, "", "", 0, "", 0, "", ""⟩
    validate host cfg = .ok () ∧
      ∃ c, openCarrier host cfg = .ok (some c) ∧ ¬ WithinBudget (AEAD.ofLedger []) c := by
  intro host cfg
  have htraffic : trafficConfig host cfg = .ok ⟨0, 0, 0⟩ := rfl
  refine ⟨by decide +kernel, _, openCarrier_sei htraffic rfl, ?_⟩
  have hpos : 0 < (6 : Int64).toInt := by decide
  show ¬ WithinBudget (AEAD.ofLedger []) ⟨6, ⟨6 * 8⟩, newShaper ⟨0, 0, 0⟩ ⟨6 * 8⟩⟩
  rw [withinBudget_of_fits (AEAD.ideal_ofLedger []).length_sealRecord hpos
    (sei_fits_iff hpos (by decide) (by decide))]
  decide

/-- The same server with fragments of 900 bytes and a traffic cap of 1200. -/
theorem payload_budget_iff_capped :
    let host : Host := ⟨["jitsi"], ["seichannel"], fun _ => .error "time: invalid duration",
      fun _ => false⟩
    let cfg : SessionConfig := ⟨"srv", "seichannel", "jitsi", "room",
      "000102030405060708090a0b0c0d0e0f101112131415161718191a1b1c1d1e1f", "", 0, "", "", "1.1.1.1",
      false, ⟨0, 0, 0, 0, "", "", 0, 0⟩, ⟨0, 0⟩, ⟨30, 64, 900, 2000⟩, "", "", 0, "", 1200, "", ""⟩
    ∃ c, openCarrier host cfg = .ok (some c) ∧ WithinBudget (AEAD.ofLedger []) c := by
  intro host cfg
  have hvalid : validate host cfg = .ok () := by decide +kernel
  have hok : BudgetOk cfg := by
    rw [BudgetOk, if_pos rfl]
    decide
  obtain ⟨c, hopen, hiff⟩ := payload_budget_iff (AEAD.ofLedger [])
    (AEAD.ideal_ofLedger []).length_sealRecord host cfg hvalid (Or.inl rfl)
  exact ⟨c, hopen, hiff.mpr hok⟩

end OlcRtc
