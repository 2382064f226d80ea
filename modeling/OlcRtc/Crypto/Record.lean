import OlcRtc.Lib.Bytes
import OlcRtc.Crypto.Replay

/-!
# The OLC2 record layer

`KeySet` of `internal/crypto/chacha.go`: a send key with a random prefix and a counter, a receive
key, and the replay cache of what was received.  A record is

```
magic "OLC2" | counter (8 bytes, big-endian) | sender prefix (16 bytes) | ciphertext and tag
```

and its nonce is the prefix followed by the counter.

XChaCha20-Poly1305 and HKDF come from third-party packages, so the cipher is a parameter:
`AEAD` is its interface, and `AEAD.Ideal` says what "ideal" means for the records sealed so far —
opening undoes sealing, and nothing opens that was not sealed.
-/

namespace OlcRtc

/-! ## Constants and errors -/

/-- `chacha20poly1305.KeySize` bytes. -/
abbrev Key := List.Vector UInt8 32

/-- `chacha20poly1305.Overhead`. -/
def aeadOverhead : ℕ := 16

/-- `recordMagic`, the bytes of `"OLC2"`. -/
def recordMagic : Bytes := [0x4f, 0x4c, 0x43, 0x32]

def recordHeaderSize : ℕ := recordMagic.length + 8 + noncePrefixSize

/-- `WireOverhead`: magic, counter, sender prefix and authentication tag. -/
def wireOverhead : ℕ := recordHeaderSize + aeadOverhead

/-- The errors of the package, with the numbers their messages carry. -/
inductive CryptoError
  | invalidKeySize (got : ℕ)
  | invalidRole (got : UInt8)
  | recordTooShort (got : ℕ)
  | badRecordMagic
  | invalidCounter
  | authentication
  | replay (err : ReplayError)
  | counterExhausted
  deriving DecidableEq, Repr

/-- `Role`: the two named values, and whatever else fits the `uint8`. -/
inductive Role
  | client
  | server
  | other (raw : UInt8)
  deriving DecidableEq, Repr

def Role.opposite : Role → Role
  | .client => .server
  | .server => .client
  | .other raw => .other raw

/-! ## The cipher -/

/-- The `cipher.AEAD` that `chacha20poly1305.NewX` returns for a key. -/
structure AEAD where
  sealRecord : Key → Bytes → Bytes → Bytes → Bytes
  openRecord : Key → Bytes → Bytes → Bytes → Option Bytes

structure SealQuery where
  key : Key
  nonce : Bytes
  plaintext : Bytes
  aad : Bytes
  deriving DecidableEq

/-- An ideal AEAD, relative to what was sealed: sealing costs the overhead, opening a sealed
ciphertext under its own key, nonce and associated data returns the plaintext, and whatever opens
was sealed so. -/
structure AEAD.Ideal (aead : AEAD) (sealed : List SealQuery) : Prop where
  length_sealRecord : ∀ key nonce plaintext aad,
    (aead.sealRecord key nonce plaintext aad).length = plaintext.length + aeadOverhead
  correct : ∀ q ∈ sealed,
    aead.openRecord q.key q.nonce (aead.sealRecord q.key q.nonce q.plaintext q.aad) q.aad
      = some q.plaintext
  authentic : ∀ key nonce ciphertext aad plaintext,
    aead.openRecord key nonce ciphertext aad = some plaintext →
      ⟨key, nonce, plaintext, aad⟩ ∈ sealed

/-- A cipher that keeps a ledger of what may be opened, and pads instead of authenticating. -/
def AEAD.ofLedger (ledger : List SealQuery) : AEAD where
  sealRecord _ _ plaintext _ := plaintext ++ List.replicate aeadOverhead 0
  openRecord key nonce ciphertext aad :=
    let plaintext := ciphertext.take (ciphertext.length - aeadOverhead)
    if ⟨key, nonce, plaintext, aad⟩ ∈ ledger then some plaintext else none

lemma AEAD.ideal_ofLedger (ledger : List SealQuery) : (AEAD.ofLedger ledger).Ideal ledger where
  length_sealRecord key nonce plaintext aad := by simp [AEAD.ofLedger]
  correct q hq := by simp [AEAD.ofLedger, hq]
  authentic key nonce ciphertext aad plaintext h := by
    simp only [AEAD.ofLedger, Option.ite_none_right_eq_some, Option.some.injEq] at h
    exact h.2 ▸ h.1

/-! ## Key sets -/

/-- `KeySet`; the two AEAD instances are their keys. -/
structure KeySet where
  sendKey : Key
  sendPrefix : NoncePrefix
  counter : BitVec 64
  receiveKey : Key
  replay : ReplayCache

/-- The switch of `newKeySetForRole`: the send and the receive key of a role. -/
def roleKeys (clientKey serverKey : Key) : Role → Except CryptoError (Key × Key)
  | .client => .ok (clientKey, serverKey)
  | .server => .ok (serverKey, clientKey)
  | .other raw => .error (.invalidRole raw)

/-- `newKeySetForRole`; `seed` is what `rand.Read` fills the prefix with. -/
def newKeySetForRole (clientKey serverKey : Key) (role : Role) (seed : NoncePrefix) :
    Except CryptoError KeySet := do
  let (sendKey, receiveKey) ← roleKeys clientKey serverKey role
  return ⟨sendKey, seed, 0, receiveKey, ReplayCache.empty⟩

def clientToServerLabel : String := "olcrtc/v2/client-to-server"

def serverToClientLabel : String := "olcrtc/v2/server-to-client"

/-- `NewKeySet`, with `deriveKey` (HKDF-SHA256) as a parameter. -/
def newKeySet (deriveKey : Bytes → String → Key) (psk : Bytes) (role : Role)
    (seed : NoncePrefix) : Except CryptoError KeySet :=
  if psk.length ≠ 32 then .error (.invalidKeySize psk.length)
  else newKeySetForRole (deriveKey psk clientToServerLabel) (deriveKey psk serverToClientLabel)
    role seed

/-! ## Sealing -/

/-- The record header `SealInto` writes. -/
def recordHeader (p : NoncePrefix) (counter : BitVec 64) : Bytes :=
  recordMagic ++ bePut 8 counter.toNat ++ p.toList

def recordNonce (p : NoncePrefix) (counter : BitVec 64) : Bytes :=
  p.toList ++ bePut 8 counter.toNat

/-- The body of `SealInto` once it has its counter; the record is appended to `dst`. -/
def KeySet.sealAt (aead : AEAD) (k : KeySet) (counter : BitVec 64) (dst plaintext aad : Bytes) :
    Bytes :=
  dst ++ recordHeader k.sendPrefix counter
    ++ aead.sealRecord k.sendKey (recordNonce k.sendPrefix counter) plaintext aad

/-- `nextCounter` when no other call interferes: one turn of its loop. -/
def KeySet.nextCounter (k : KeySet) : KeySet × Except CryptoError (BitVec 64) :=
  if k.counter = BitVec.allOnes 64 then (k, .error .counterExhausted)
  else ({ k with counter := k.counter + 1 }, .ok (k.counter + 1))

/-- `SealInto` when no other call interferes. -/
def KeySet.sealInto (aead : AEAD) (k : KeySet) (dst plaintext aad : Bytes) :
    KeySet × Except CryptoError Bytes :=
  match k.nextCounter with
  | (k', .error err) => (k', .error err)
  | (k', .ok counter) => (k', .ok (k'.sealAt aead counter dst plaintext aad))

lemma KeySet.sealInto_eq (aead : AEAD) (k : KeySet) (dst plaintext aad : Bytes) :
    k.sealInto aead dst plaintext aad =
      if k.counter = BitVec.allOnes 64 then (k, .error .counterExhausted)
      else ({ k with counter := k.counter + 1 },
        .ok (k.sealAt aead (k.counter + 1) dst plaintext aad)) := by
  unfold KeySet.sealInto KeySet.nextCounter
  split_ifs <;> rfl

/-! ## Opening -/

def recordCounter (record : Bytes) : BitVec 64 :=
  BitVec.ofNat 64 (beGet ((record.drop recordMagic.length).take 8))

/-- The sender prefix of a record, zero padded as `copy` into a fresh array leaves it. -/
def recordPrefix (record : Bytes) : NoncePrefix :=
  ⟨((record.drop (recordMagic.length + 8)).take noncePrefixSize).takeD noncePrefixSize 0,
    List.takeD_length _ _ _⟩

/-- `OpenInto`: the record's plaintext is appended to `dst`, and only an authenticated record
reaches the replay cache. -/
def KeySet.openInto (aead : AEAD) (k : KeySet) (dst record aad : Bytes) :
    KeySet × Except CryptoError Bytes :=
  if record.length < wireOverhead then (k, .error (.recordTooShort record.length))
  else if record.take recordMagic.length ≠ recordMagic then (k, .error .badRecordMagic)
  else
    let counter := recordCounter record
    if counter = 0 then (k, .error .invalidCounter)
    else
      let p := recordPrefix record
      match aead.openRecord k.receiveKey (recordNonce p counter) (record.drop recordHeaderSize)
        aad with
      | none => (k, .error .authentication)
      | some plaintext =>
        match k.replay.accept p counter with
        | (_, some err) => (k, .error (.replay err))
        | (replay, none) => ({ k with replay := replay }, .ok (dst ++ plaintext))

/-! ## What a sealed record looks like to the receiver -/

section Layout

variable (p : NoncePrefix) (counter : BitVec 64) (body : Bytes)

lemma length_recordHeader : (recordHeader p counter).length = recordHeaderSize := by
  simp [recordHeader, recordHeaderSize, List.Vector.toList_length, Nat.add_assoc]

lemma take_record_magic :
    (recordHeader p counter ++ body).take recordMagic.length = recordMagic := by
  simp [recordHeader, List.append_assoc]

lemma drop_record_header :
    (recordHeader p counter ++ body).drop recordHeaderSize = body := by
  rw [← length_recordHeader p counter, List.drop_left]

lemma recordCounter_record : recordCounter (recordHeader p counter ++ body) = counter := by
  have hlt : counter.toNat < 256 ^ 8 := lt_of_lt_of_eq counter.isLt (by norm_num)
  rw [recordCounter, recordHeader, List.append_assoc, List.append_assoc, List.drop_left,
    List.take_append_of_le_length (by simp), List.take_of_length_le (by simp), beGet_bePut hlt]
  simp

lemma recordPrefix_record : recordPrefix (recordHeader p counter ++ body) = p := by
  refine Subtype.ext ?_
  have hlen : p.toList.length = noncePrefixSize := List.Vector.toList_length p
  have hdrop : (recordHeader p counter ++ body).drop (recordMagic.length + 8)
      = p.toList ++ body := by
    rw [recordHeader, List.append_assoc, ← List.drop_drop, List.append_assoc, List.drop_left]
    exact List.drop_left' (length_bePut 8 _)
  simp only [recordPrefix, hdrop]
  rw [List.take_left' hlen, List.takeD_eq_take _ (by omega), List.take_of_length_le (by omega)]
  rfl

lemma recordNonce_inj {p : NoncePrefix} {c d : BitVec 64}
    (h : recordNonce p c = recordNonce p d) : c = d := by
  have h' := List.append_cancel_left h
  exact BitVec.eq_of_toNat_eq (bePut_inj (lt_of_lt_of_eq c.isLt (by norm_num))
    (lt_of_lt_of_eq d.isLt (by norm_num)) h')

end Layout

end OlcRtc
