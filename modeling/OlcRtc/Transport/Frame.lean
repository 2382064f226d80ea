import OlcRtc.Lib.Bytes

/-!
# Wire frames of the acknowledged video transports

The codec of `internal/transport/common/frame.go`, shared by `seichannel` and `videochannel`:

```
[0:4]   magic         [4] version    [5] type    [6] role    [7:11] binding
[11:15] seq           [15:19] crc32 of the whole message
ack:    [19:21] fragIdx
data:   [19:23] totalLen, [23:25] fragIdx, [25:27] fragTotal, [27:31] crc32 of the fragment, payload
```

Decoding what was encoded returns every field, and for a data frame it does so whatever became of
the payload (`decodeFrame_dataHeader`): the header stands on its own.
-/

namespace OlcRtc

/-! ## Constants -/

def frameMagic : ℕ := 0x4f4c5643

def frameVersion : UInt8 := 5

def frameTypeData : UInt8 := 1

def frameTypeAck : UInt8 := 2

def frameTypeHello : UInt8 := 3

def roleAny : UInt8 := 0

def frameHelloLen : ℕ := 11

def frameAckLen : ℕ := 21

def frameDataHdrLen : ℕ := 31

/-- The errors of `DecodeFrame`. -/
inductive FrameError
  | frameTooShort
  | unexpectedMagic
  | unexpectedVersion
  | ackTooShort
  | dataTooShort
  | helloTooShort
  | unexpectedFrameType
  deriving DecidableEq, Repr

/-- `Frame`: one decoded transport frame.  Fields a frame type does not carry are zero. -/
structure Frame where
  type : UInt8
  role : UInt8
  binding : UInt32
  seq : UInt32 := 0
  crc : UInt32 := 0
  totalLen : UInt32 := 0
  fragIdx : UInt16 := 0
  fragTotal : UInt16 := 0
  fragCRC : UInt32 := 0
  payload : Bytes := []
  deriving DecidableEq

def Frame.acceptedBy (f : Frame) (remoteRole : UInt8) (binding : UInt32) : Bool :=
  (f.role == roleAny || f.role == remoteRole) && (f.binding == 0 || f.binding == binding)

/-! ## Encoding -/

/-- `putFrameHeader`: the part shared by every frame type. -/
def putFrameHeader (typ role : UInt8) (binding : UInt32) : Bytes :=
  bePut 4 frameMagic ++ ([frameVersion, typ, role] ++ bePut 4 binding.toNat)

/-- The fixed part of a data frame.  The lengths are Go `int`s that the codec truncates to the
width of their fields. -/
def dataHeader (role : UInt8) (binding seq crc : UInt32) (totalLen fragIdx fragTotal : ℕ)
    (fragCRC : UInt32) : Bytes :=
  putFrameHeader frameTypeData role binding ++ (bePut 4 seq.toNat ++ (bePut 4 crc.toNat ++
    (bePut 4 totalLen ++ (bePut 2 fragIdx ++ (bePut 2 fragTotal ++ bePut 4 fragCRC.toNat)))))

def encodeData (role : UInt8) (binding seq crc : UInt32) (totalLen fragIdx fragTotal : ℕ)
    (payload : Bytes) : Bytes :=
  dataHeader role binding seq crc totalLen fragIdx fragTotal (crc32 payload) ++ payload

def encodeAck (role : UInt8) (binding seq crc : UInt32) (fragIdx : UInt16) : Bytes :=
  putFrameHeader frameTypeAck role binding ++
    (bePut 4 seq.toNat ++ (bePut 4 crc.toNat ++ bePut 2 fragIdx.toNat))

def encodeHello (role : UInt8) (binding : UInt32) : Bytes :=
  putFrameHeader frameTypeHello role binding

/-! ## Decoding -/

/-- `binary.BigEndian.Uint32(data[lo:hi])`. -/
def getUint32 (data : Bytes) (lo hi : ℕ) : UInt32 := UInt32.ofNat (beGet (slice data lo hi))

/-- `binary.BigEndian.Uint16(data[lo:hi])`. -/
def getUint16 (data : Bytes) (lo hi : ℕ) : UInt16 := UInt16.ofNat (beGet (slice data lo hi))

def validateFrameHeader (data : Bytes) : Except FrameError Unit :=
  if data.length < 6 then .error .frameTooShort
  else if beGet (slice data 0 4) ≠ frameMagic then .error .unexpectedMagic
  else if data.getD 4 0 ≠ frameVersion then .error .unexpectedVersion
  else .ok ()

def shortFrameError (typ : UInt8) : FrameError :=
  if typ = frameTypeAck then .ackTooShort
  else if typ = frameTypeData then .dataTooShort
  else if typ = frameTypeHello then .helloTooShort
  else .unexpectedFrameType

def decodeAckBody (frame : Frame) (data : Bytes) : Except FrameError Frame :=
  if data.length < frameAckLen then .error .ackTooShort
  else .ok { frame with
    seq := getUint32 data 11 15
    crc := getUint32 data 15 19
    fragIdx := getUint16 data 19 21 }

def decodeDataBody (frame : Frame) (data : Bytes) : Except FrameError Frame :=
  if data.length < frameDataHdrLen then .error .dataTooShort
  else .ok { frame with
    seq := getUint32 data 11 15
    crc := getUint32 data 15 19
    totalLen := getUint32 data 19 23
    fragIdx := getUint16 data 23 25
    fragTotal := getUint16 data 25 27
    fragCRC := getUint32 data 27 31
    payload := data.drop frameDataHdrLen }

def decodeFrame (data : Bytes) : Except FrameError Frame := do
  validateFrameHeader data
  let typ := data.getD 5 0
  if data.length < frameHelloLen then .error (shortFrameError typ)
  else
    let frame : Frame := { type := typ, role := data.getD 6 0, binding := getUint32 data 7 11 }
    if typ = frameTypeHello then .ok frame
    else if typ = frameTypeAck then decodeAckBody frame data
    else if typ = frameTypeData then decodeDataBody frame data
    else .error .unexpectedFrameType

/-! ## Round trips -/

section RoundTrip

lemma getUint32_append {before : Bytes} {lo hi : ℕ} (hlo : before.length = lo)
    (hhi : 4 = hi - lo) (n : ℕ) (after : Bytes) :
    getUint32 (before ++ (bePut 4 n ++ after)) lo hi = UInt32.ofNat n := by
  rw [getUint32, slice_append hlo (by rw [length_bePut, hhi]), beGet_bePut_mod]
  exact UInt32.toNat_inj.mp (by simp)

lemma getUint16_append {before : Bytes} {lo hi : ℕ} (hlo : before.length = lo)
    (hhi : 2 = hi - lo) (n : ℕ) (after : Bytes) :
    getUint16 (before ++ (bePut 2 n ++ after)) lo hi = UInt16.ofNat n := by
  rw [getUint16, slice_append hlo (by rw [length_bePut, hhi]), beGet_bePut_mod]
  exact UInt16.toNat_inj.mp (by simp)

@[simp] lemma length_putFrameHeader (typ role : UInt8) (binding : UInt32) :
    (putFrameHeader typ role binding).length = frameHelloLen := by
  simp [putFrameHeader, frameHelloLen]

variable (typ role : UInt8) (binding : UInt32) (rest : Bytes)

lemma validateFrameHeader_append :
    validateFrameHeader (putFrameHeader typ role binding ++ rest) = .ok () := by
  have hlen : ¬ (putFrameHeader typ role binding ++ rest).length < 6 := by
    simp [frameHelloLen]; omega
  have hmagic : beGet (slice (putFrameHeader typ role binding ++ rest) 0 4) = frameMagic := by
    have h := @slice_append [] (bePut 4 frameMagic) 0 4 rfl (by simp)
      (([frameVersion, typ, role] ++ bePut 4 binding.toNat) ++ rest)
    rw [putFrameHeader, List.append_assoc]
    exact (congrArg beGet h).trans (beGet_bePut (by decide))
  rw [validateFrameHeader, if_neg hlen, if_neg (not_not.mpr hmagic)]
  simp [putFrameHeader, bePut]

lemma decodeFrame_header :
    decodeFrame (putFrameHeader typ role binding ++ rest) =
      if typ = frameTypeHello then .ok { type := typ, role, binding }
      else if typ = frameTypeAck then
        decodeAckBody { type := typ, role, binding } (putFrameHeader typ role binding ++ rest)
      else if typ = frameTypeData then
        decodeDataBody { type := typ, role, binding } (putFrameHeader typ role binding ++ rest)
      else .error .unexpectedFrameType := by
  have htype : (putFrameHeader typ role binding ++ rest).getD 5 0 = typ := by
    simp [putFrameHeader, bePut]
  have hrole : (putFrameHeader typ role binding ++ rest).getD 6 0 = role := by
    simp [putFrameHeader, bePut]
  have hbinding : getUint32 (putFrameHeader typ role binding ++ rest) 7 11 = binding := by
    have hfield := @getUint32_append (bePut 4 frameMagic ++ [frameVersion, typ, role]) 7 11
      (by simp) rfl binding.toNat rest
    simpa only [putFrameHeader, List.append_assoc, UInt32.ofNat_toNat] using hfield
  have hlen : ¬ (putFrameHeader typ role binding ++ rest).length < frameHelloLen := by
    simp
  rw [decodeFrame, validateFrameHeader_append]
  simp only [bind, Except.bind, htype, hrole, hbinding, if_neg hlen]

end RoundTrip

lemma length_dataHeader (role : UInt8) (binding seq crc : UInt32)
    (totalLen fragIdx fragTotal : ℕ) (fragCRC : UInt32) :
    (dataHeader role binding seq crc totalLen fragIdx fragTotal fragCRC).length
      = frameDataHdrLen := by
  simp [dataHeader, frameHelloLen, frameDataHdrLen]

/-- **A data header decodes to its fields**, whatever payload follows it. -/
theorem decodeFrame_dataHeader (role : UInt8) (binding seq crc : UInt32)
    (totalLen fragIdx fragTotal : ℕ) (fragCRC : UInt32) (payload : Bytes) :
    decodeFrame (dataHeader role binding seq crc totalLen fragIdx fragTotal fragCRC ++ payload) =
      .ok { type := frameTypeData, role, binding, seq, crc
            totalLen := UInt32.ofNat totalLen
            fragIdx := UInt16.ofNat fragIdx
            fragTotal := UInt16.ofNat fragTotal
            fragCRC, payload } := by
  set h := putFrameHeader frameTypeData role binding with hh
  set s := bePut 4 seq.toNat with hs
  set c := bePut 4 crc.toNat with hc
  set t := bePut 4 totalLen with ht
  set i := bePut 2 fragIdx with hi
  set n := bePut 2 fragTotal with hn
  set f := bePut 4 fragCRC.toNat with hf
  have hdata : dataHeader role binding seq crc totalLen fragIdx fragTotal fragCRC ++ payload
      = h ++ (s ++ (c ++ (t ++ (i ++ (n ++ (f ++ payload)))))) := by
    simp only [dataHeader, List.append_assoc, hh, hs, hc, ht, hi, hn, hf]
  have hlen : ¬ (h ++ (s ++ (c ++ (t ++ (i ++ (n ++ (f ++ payload))))))).length
      < frameDataHdrLen := by
    simp [hh, hs, hc, ht, hi, hn, hf, frameHelloLen, frameDataHdrLen]
    omega
  -- each field is found behind the fields before it
  have hseq := @getUint32_append h 11 15 (by simp [hh, frameHelloLen]) rfl seq.toNat
    (c ++ (t ++ (i ++ (n ++ (f ++ payload)))))
  have hcrc := @getUint32_append (h ++ s) 15 19 (by simp [hh, hs, frameHelloLen]) rfl crc.toNat
    (t ++ (i ++ (n ++ (f ++ payload))))
  have htotalLen := @getUint32_append (h ++ s ++ c) 19 23
    (by simp [hh, hs, hc, frameHelloLen]) rfl totalLen (i ++ (n ++ (f ++ payload)))
  have hfragIdx := @getUint16_append (h ++ s ++ c ++ t) 23 25
    (by simp [hh, hs, hc, ht, frameHelloLen]) rfl fragIdx (n ++ (f ++ payload))
  have hfragTotal := @getUint16_append (h ++ s ++ c ++ t ++ i) 25 27
    (by simp [hh, hs, hc, ht, hi, frameHelloLen]) rfl fragTotal (f ++ payload)
  have hfragCRC := @getUint32_append (h ++ s ++ c ++ t ++ i ++ n) 27 31
    (by simp [hh, hs, hc, ht, hi, hn, frameHelloLen]) rfl fragCRC.toNat payload
  have hpayload := @List.drop_left' _ (h ++ s ++ c ++ t ++ i ++ n ++ f) payload frameDataHdrLen
    (by simp [hh, hs, hc, ht, hi, hn, hf, frameHelloLen, frameDataHdrLen])
  simp only [List.append_assoc, ← hs, ← hc, ← ht, ← hi, ← hn, ← hf, UInt32.ofNat_toNat]
    at hseq hcrc htotalLen hfragIdx hfragTotal hfragCRC hpayload
  rw [hdata, decodeFrame_header, if_neg (by decide), if_neg (by decide), if_pos rfl,
    decodeDataBody, if_neg hlen, hseq, hcrc, htotalLen, hfragIdx, hfragTotal, hfragCRC, hpayload]

/-- **An acknowledgement decodes to its fields.** -/
theorem decodeFrame_encodeAck (role : UInt8) (binding seq crc : UInt32) (fragIdx : UInt16) :
    decodeFrame (encodeAck role binding seq crc fragIdx) =
      .ok { type := frameTypeAck, role, binding, seq, crc, fragIdx } := by
  set h := putFrameHeader frameTypeAck role binding with hh
  set s := bePut 4 seq.toNat with hs
  set c := bePut 4 crc.toNat with hc
  set i := bePut 2 fragIdx.toNat with hi
  have hlen : ¬ (h ++ (s ++ (c ++ i))).length < frameAckLen := by
    simp [hh, hs, hc, hi, frameHelloLen, frameAckLen]
  have hseq := @getUint32_append h 11 15 (by simp [hh, frameHelloLen]) rfl seq.toNat (c ++ i)
  have hcrc := @getUint32_append (h ++ s) 15 19 (by simp [hh, hs, frameHelloLen]) rfl crc.toNat i
  have hfragIdx := @getUint16_append (h ++ s ++ c) 19 21
    (by simp [hh, hs, hc, frameHelloLen]) rfl fragIdx.toNat []
  simp only [List.append_assoc, List.append_nil, ← hs, ← hc, ← hi, UInt32.ofNat_toNat,
    UInt16.ofNat_toNat] at hseq hcrc hfragIdx
  rw [encodeAck, decodeFrame_header, if_neg (by decide), if_pos rfl, decodeAckBody, if_neg hlen,
    hseq, hcrc, hfragIdx]

end OlcRtc
