import OlcRtc.Crypto.ReplayRefinement
import OlcRtc.Crypto.ConcurrentSeal

/-!
# The record layer end to end

One sender seals on any number of goroutines; the records travel; the other end opens them in
whatever order they arrive, duplicates included.

The receiving half rests on what the replay cache does with a *single* sender: it accepts a
counter exactly when it is new and no accepted counter is 64 or more ahead of it
(`ReplayCache.accept_iff_fresh`).  The sending half rests on the permutation of
`ConcurrentSeal`.  In between stands the cipher: under `AEAD.Ideal` a record opens only with the
key, nonce and associated data it was sealed with, and since nonces never repeat there is only
one such triple per record.
-/

namespace OlcRtc

/-! ## The cache as one sender sees it -/

/-- `counter` is new, and none of the `accepted` counters has left it behind the window. -/
def Fresh (accepted : List ℕ) (counter : ℕ) : Prop :=
  ∀ c ∈ accepted, c ≠ counter ∧ c < counter + replayWindowSize

namespace ReplayCache

/-- The cache has accepted exactly these counters of sender `p`. -/
def HasAccepted (p : NoncePrefix) (accepted : List ℕ) (r : ReplayCache) : Prop :=
  ∃ s, r.Refines s ∧ (p ∈ s.retained ↔ accepted ≠ []) ∧
    (p ∈ s.retained → ∀ c, c ∈ s.accepted p ↔ c ∈ accepted)

lemma hasAccepted_empty (p : NoncePrefix) : empty.HasAccepted p [] :=
  ⟨ReplaySpec.empty, refines_empty, by simp [ReplaySpec.empty], by simp [ReplaySpec.empty]⟩

lemma admits_iff_fresh {r : ReplayCache} {s : ReplaySpec} (h : r.Refines s) {p : NoncePrefix}
    {accepted : List ℕ} (hret : p ∈ s.retained ↔ accepted ≠ [])
    (hmem : p ∈ s.retained → ∀ c, c ∈ s.accepted p ↔ c ∈ accepted) (counter : ℕ) :
    s.Admits p counter ↔ Fresh accepted counter := by
  by_cases hp : p ∈ s.retained
  · -- the maximum is itself an accepted counter
    obtain ⟨ptr, hptr, hpref⟩ : ∃ ptr ∈ r.lru, (r.states ptr).senderPrefix = p := by
      rw [← h.order] at hp
      simpa [lruPrefixes] using hp
    have hw := h.window ptr hptr
    rw [hpref] at hw
    have htop : s.highest p ∈ accepted := by
      rw [← hmem hp, ReplaySpec.highest, hw.sup_eq]
      exact hw.highest_mem
    have hle : ∀ c ∈ accepted, c ≤ s.highest p := fun c hc =>
      Finset.le_sup (f := id) ((hmem hp c).mpr hc)
    simp only [ReplaySpec.Admits, hp, not_true_eq_false, false_or, hmem hp, Fresh]
    constructor
    · grind
    · grind
  · have hnil : accepted = [] := by
      by_contra hne
      exact hp (hret.mpr hne)
    simp [ReplaySpec.Admits, hp, hnil, Fresh]

/-- **One sender's window.**  The cache accepts a counter exactly when it is fresh, and then has
accepted one more. -/
theorem accept_iff_fresh {r : ReplayCache} {p : NoncePrefix} {accepted : List ℕ}
    (h : r.HasAccepted p accepted) (counter : BitVec 64) :
    ((r.accept p counter).2 = none ↔ Fresh accepted counter.toNat) ∧
      (Fresh accepted counter.toNat →
        (r.accept p counter).1.HasAccepted p (counter.toNat :: accepted)) := by
  obtain ⟨s, hrel, hret, hmem⟩ := h
  have hadm := admits_iff_fresh hrel hret hmem counter.toNat
  refine ⟨(accept_eq_none_iff hrel p counter).trans hadm, fun hfresh => ?_⟩
  refine ⟨_, (accept_refines hrel p counter).1, ?_, ?_⟩
  · simp only [ReplaySpec.accept, hadm.mpr hfresh, if_true, ReplaySpec.remember, touch]
    split_ifs <;> simp
  · intro _ c
    simp only [ReplaySpec.accept, hadm.mpr hfresh, if_true, ReplaySpec.remember,
      Function.update_self, List.mem_cons]
    split_ifs with hp
    · rw [Finset.mem_insert, hmem hp]
    · grind

end ReplayCache

/-! ## Sealed records -/

structure SealedRecord where
  counter : BitVec 64
  plaintext : Bytes
  aad : Bytes
  deriving DecidableEq

namespace SealedRecord

def wire (aead : AEAD) (sender : KeySet) (r : SealedRecord) : Bytes :=
  sender.sealAt aead r.counter [] r.plaintext r.aad

/-- The nonce `prefix || counter`. -/
def nonce (sender : KeySet) (r : SealedRecord) : Bytes := recordNonce sender.sendPrefix r.counter

def query (sender : KeySet) (r : SealedRecord) : SealQuery :=
  ⟨sender.sendKey, r.nonce sender, r.plaintext, r.aad⟩

end SealedRecord

def SealCall.record (call : SealCall) : Option SealedRecord :=
  match call.pc with
  | .sealed counter => some ⟨counter, call.plaintext, call.aad⟩
  | _ => none

def SealState.records (s : SealState) : List SealedRecord := s.calls.filterMap SealCall.record

namespace SealState

lemma records_counters (s : SealState) :
    s.records.map (fun r => r.counter.toNat) = s.handedOut := by
  rw [records, handedOut, List.map_filterMap]
  refine List.filterMap_congr fun call _ => ?_
  unfold SealCall.record handedOutBy
  cases call.pc <;> rfl

variable {s : SealState}

lemma Inv.counters_nodup (h : s.Inv) : (s.records.map fun r => r.counter.toNat).Nodup := by
  rw [records_counters, h.handedOut.nodup_iff]
  exact List.nodup_range'

lemma Inv.record_inj (h : s.Inv) {a b : SealedRecord} (ha : a ∈ s.records) (hb : b ∈ s.records)
    (hab : a.counter.toNat = b.counter.toNat) : a = b :=
  List.inj_on_of_nodup_map h.counters_nodup ha hb hab

lemma Inv.counter_pos (h : s.Inv) {r : SealedRecord} (hr : r ∈ s.records) :
    0 < r.counter.toNat := by
  have hmem : r.counter.toNat ∈ s.handedOut := by
    rw [← records_counters]
    exact List.mem_map_of_mem hr
  have := List.mem_range'_1.mp (h.handedOut.subset hmem)
  omega

/-- At the maximum no call gets a counter any more: a swap fails and a load gives up. -/
lemma Inv.step_of_exhausted (h : s.Inv) (hmax : s.counter = BitVec.allOnes 64) (i : ℕ) :
    (s.step i).counter = BitVec.allOnes 64 ∧ (s.step i).records = s.records := by
  unfold SealState.step
  split
  · exact ⟨hmax, rfl⟩
  · next call hcall =>
      cases hpc : call.pc with
      | load =>
        simp only [hmax, if_true]
        exact ⟨hmax, filterMap_set_of_eq hcall (by simp [SealCall.record, hpc])⟩
      | swap current =>
        have hne : s.counter ≠ current := by
          rw [hmax]
          exact (h.swap_lt call (List.mem_of_getElem? hcall) current hpc).symm
        simp only [hne, if_false]
        exact ⟨hmax, filterMap_set_of_eq hcall (by simp [SealCall.record, hpc])⟩
      | sealed counter => exact ⟨hmax, rfl⟩
      | failed err => exact ⟨hmax, rfl⟩

lemma Inv.records_of_exhausted (h : s.Inv) (hmax : s.counter = BitVec.allOnes 64)
    (schedule : List ℕ) : (run SealState.step s schedule).records = s.records := by
  have hall : ∀ t : SealState, (t.Inv ∧ t.counter = BitVec.allOnes 64 ∧ t.records = s.records) →
      ∀ i, ((t.step i).Inv ∧ (t.step i).counter = BitVec.allOnes 64 ∧
        (t.step i).records = s.records) := by
    rintro t ⟨ht, htmax, hrec⟩ i
    obtain ⟨h1, h2⟩ := ht.step_of_exhausted htmax i
    exact ⟨ht.step i, h1, h2.trans hrec⟩
  exact (run_invariant_of_step SealState.step (fun t i ht => hall t ht i) ⟨h, hmax, rfl⟩
    schedule).2.2

lemma Inv.fails_of_exhausted (h : s.Inv) (hmax : s.counter = BitVec.allOnes 64) {i : ℕ}
    {call : SealCall} (hcall : s.calls[i]? = some call)
    (hpc : call.pc = .load ∨ ∃ current, call.pc = .swap current) :
    (run SealState.step s [i, i]).calls[i]? =
      some { call with pc := .failed .counterExhausted } := by
  rw [run_cons, run_cons, run_nil]
  rcases hpc with hpc | ⟨current, hpc⟩
  · have hfail := getElem?_goto hcall (.failed .counterExhausted)
    rw [step_load hcall hpc, if_pos hmax, step_failed hfail rfl, hfail]
  · have hne : s.counter ≠ current := by
      rw [hmax]
      exact (h.swap_lt call (List.mem_of_getElem? hcall) current hpc).symm
    have hload := getElem?_goto hcall .load
    have hmax' : (s.goto i call .load).counter = BitVec.allOnes 64 := hmax
    rw [step_swap hcall hpc, if_neg hne, step_load hload rfl, if_pos hmax', getElem?_goto hload]

end SealState

/-! ## Opening one record -/

section OpenOne

variable {aead : AEAD} {sender : KeySet} {sealed : List SealedRecord}

/-- The checks before the cipher never stop a sealed record, so its fate is decided by the cipher
and then by the replay cache, under the prefix and the counter it was sealed with. -/
lemma openInto_wire (hlen : ∀ key nonce plaintext aad,
      (aead.sealRecord key nonce plaintext aad).length = plaintext.length + aeadOverhead)
    {r : SealedRecord} (hpos : 0 < r.counter.toNat) (k : KeySet) (dst aad : Bytes) :
    k.openInto aead dst (r.wire aead sender) aad =
      match aead.openRecord k.receiveKey (r.nonce sender)
          (aead.sealRecord sender.sendKey (r.nonce sender) r.plaintext r.aad) aad with
      | none => (k, .error .authentication)
      | some plaintext =>
        match k.replay.accept sender.sendPrefix r.counter with
        | (_, some err) => (k, .error (.replay err))
        | (replay, none) => ({ k with replay := replay }, .ok (dst ++ plaintext)) := by
  set body := aead.sealRecord sender.sendKey (r.nonce sender) r.plaintext r.aad with hbody
  have hwire : r.wire aead sender = recordHeader sender.sendPrefix r.counter ++ body := rfl
  have hlong : ¬ (r.wire aead sender).length < wireOverhead := by
    rw [hwire, List.length_append, length_recordHeader, hbody, hlen, wireOverhead]
    omega
  have hcounter : r.counter ≠ 0 := by
    rintro h0
    rw [h0] at hpos
    simp at hpos
  rw [KeySet.openInto, if_neg hlong, hwire, take_record_magic, if_neg (by simp)]
  simp only [recordCounter_record, recordPrefix_record, drop_record_header, if_neg hcounter]
  rfl

lemma openRecord_eq_some (hideal : aead.Ideal (sealed.map (·.query sender)))
    {key : Key} {nonce ciphertext aad plaintext : Bytes}
    (h : aead.openRecord key nonce ciphertext aad = some plaintext) :
    key = sender.sendKey ∧
      ∃ r ∈ sealed, r.nonce sender = nonce ∧ r.aad = aad ∧ r.plaintext = plaintext := by
  obtain ⟨r, hr, heq⟩ := List.mem_map.mp (hideal.authentic _ _ _ _ _ h)
  simp only [SealedRecord.query, SealQuery.mk.injEq] at heq
  exact ⟨heq.1.symm, r, hr, heq.2.1, heq.2.2.2, heq.2.2.1⟩

/-- **Wrong key or wrong associated data.**  Authentication fails and nothing changes. -/
lemma openInto_wire_of_mismatch (hideal : aead.Ideal (sealed.map (·.query sender)))
    (hinj : ∀ a ∈ sealed, ∀ b ∈ sealed, a.counter.toNat = b.counter.toNat → a = b)
    {r : SealedRecord} (hr : r ∈ sealed) (hpos : 0 < r.counter.toNat) (k : KeySet)
    (dst aad : Bytes) (hbad : k.receiveKey ≠ sender.sendKey ∨ aad ≠ r.aad) :
    k.openInto aead dst (r.wire aead sender) aad = (k, .error .authentication) := by
  rw [openInto_wire hideal.length_sealRecord hpos]
  cases hopen : aead.openRecord k.receiveKey (r.nonce sender)
      (aead.sealRecord sender.sendKey (r.nonce sender) r.plaintext r.aad) aad with
  | none => rfl
  | some plaintext =>
    exfalso
    obtain ⟨hkey, r', hr', hnonce, haad, _⟩ := openRecord_eq_some hideal hopen
    -- the nonce pins the record down, so the associated data is its own
    have hsame : r' = r := hinj r' hr' r hr (congrArg BitVec.toNat (recordNonce_inj hnonce))
    rcases hbad with hbad | hbad
    · exact hbad hkey
    · exact hbad (by rw [← haad, hsame])

/-- **Right key and right associated data.**  The record opens exactly when its counter is
fresh, and a refused record changes nothing. -/
lemma openInto_wire_of_match (hideal : aead.Ideal (sealed.map (·.query sender)))
    {r : SealedRecord} (hr : r ∈ sealed) (hpos : 0 < r.counter.toNat) {k : KeySet}
    (hkey : k.receiveKey = sender.sendKey) {accepted : List ℕ}
    (hacc : k.replay.HasAccepted sender.sendPrefix accepted) (dst : Bytes) :
    (Fresh accepted r.counter.toNat ∧ ∃ replay,
        k.openInto aead dst (r.wire aead sender) r.aad
          = ({ k with replay := replay }, .ok (dst ++ r.plaintext)) ∧
        replay.HasAccepted sender.sendPrefix (r.counter.toNat :: accepted)) ∨
      (¬ Fresh accepted r.counter.toNat ∧ ∃ err,
        k.openInto aead dst (r.wire aead sender) r.aad = (k, .error (.replay err))) := by
  have hopen := hideal.correct _ (List.mem_map_of_mem hr)
  simp only [SealedRecord.query] at hopen
  obtain ⟨hiff, hnext⟩ := ReplayCache.accept_iff_fresh hacc r.counter
  rw [openInto_wire hideal.length_sealRecord hpos, hkey, hopen]
  by_cases hfresh : Fresh accepted r.counter.toNat
  · grind
  · have hsome : (k.replay.accept sender.sendPrefix r.counter).2 ≠ none := mt hiff.mp hfresh
    refine Or.inr ⟨hfresh, ?_⟩
    rcases hres : k.replay.accept sender.sendPrefix r.counter with ⟨replay, err⟩
    rw [hres] at hsome
    cases err with
    | none => exact absurd rfl hsome
    | some err => exact ⟨err, rfl⟩

end OpenOne

/-! ## Opening a whole delivery -/

/-- Opens the arrivals one after the other, each with its own associated data, and keeps the
results. -/
def KeySet.openEach (aead : AEAD) (sender : KeySet) :
    KeySet → List SealedRecord → List (SealedRecord × Except CryptoError Bytes)
  | _, [] => []
  | k, r :: arrivals =>
    let out := k.openInto aead [] (r.wire aead sender) r.aad
    (r, out.2) :: openEach aead sender out.1 arrivals

def opened (results : List (SealedRecord × Except CryptoError Bytes)) :
    List (SealedRecord × Bytes) :=
  results.filterMap fun entry =>
    match entry.2 with
    | .ok plaintext => some (entry.1, plaintext)
    | .error _ => none

/-- Every record that arrives does so for the first time before any record sealed 64 or more
counters later. -/
def Timely (arrivals : List SealedRecord) : Prop :=
  ∀ before r rest, arrivals = before ++ r :: rest → r ∉ before →
    ∀ r' ∈ before, r'.counter.toNat < r.counter.toNat + replayWindowSize

lemma timely_of_lt {arrivals : List SealedRecord}
    (h : ∀ r ∈ arrivals, r.counter.toNat < replayWindowSize) : Timely arrivals := by
  rintro before r rest rfl _ r' hr'
  have := h r' (by simp [hr'])
  omega

section Delivery

variable {aead : AEAD} {sender : KeySet} {sealed : List SealedRecord}

/-- A first arrival in time is fresh; a repeated one is not. -/
lemma fresh_iff_notMem
    (hinj : ∀ a ∈ sealed, ∀ b ∈ sealed, a.counter.toNat = b.counter.toNat → a = b)
    {before : List SealedRecord} {r : SealedRecord} (hbefore : ∀ r' ∈ before, r' ∈ sealed)
    (hr : r ∈ sealed) {accepted : List ℕ}
    (hacc : ∀ c, c ∈ accepted ↔ ∃ r' ∈ before, r'.counter.toNat = c)
    (htimely : r ∉ before → ∀ r' ∈ before, r'.counter.toNat < r.counter.toNat + replayWindowSize) :
    Fresh accepted r.counter.toNat ↔ r ∉ before := by
  constructor
  · intro hfresh hmem
    exact (hfresh _ ((hacc _).mpr ⟨r, hmem, rfl⟩)).1 rfl
  · intro hnew c hc
    obtain ⟨r', hr', rfl⟩ := (hacc c).mp hc
    refine ⟨fun heq => hnew ?_, htimely hnew r' hr'⟩
    rw [← hinj r' (hbefore r' hr') r hr heq]
    exact hr'

/-- **Exactly once.**  The induction is on the arrivals still to come; `before` are those already
processed, and the cache has accepted exactly their counters. -/
theorem opened_openEach (hideal : aead.Ideal (sealed.map (·.query sender)))
    (hinj : ∀ a ∈ sealed, ∀ b ∈ sealed, a.counter.toNat = b.counter.toNat → a = b)
    (hpos : ∀ r ∈ sealed, 0 < r.counter.toNat) (arrivals : List SealedRecord) :
    ∀ (before : List SealedRecord) (k : KeySet) (accepted : List ℕ),
      (∀ r ∈ before ++ arrivals, r ∈ sealed) → Timely (before ++ arrivals) →
      k.receiveKey = sender.sendKey → k.replay.HasAccepted sender.sendPrefix accepted →
      (∀ c, c ∈ accepted ↔ ∃ r' ∈ before, r'.counter.toNat = c) →
      ((opened (KeySet.openEach aead sender k arrivals)).map Prod.fst).Nodup ∧
        (∀ r, r ∈ (opened (KeySet.openEach aead sender k arrivals)).map Prod.fst ↔
          r ∈ arrivals ∧ r ∉ before) ∧
        ∀ out ∈ opened (KeySet.openEach aead sender k arrivals), out.2 = out.1.plaintext := by
  induction arrivals with
  | nil =>
    intro before k accepted _ _ _ _ _
    simp [KeySet.openEach, opened]
  | cons r arrivals ih =>
    intro before k accepted hall htimely hkey hhas hacc
    have hr : r ∈ sealed := hall r (by simp)
    have hsplit : before ++ r :: arrivals = (before ++ [r]) ++ arrivals := by simp
    have hfresh := fresh_iff_notMem hinj (fun r' hr' => hall r' (by simp [hr'])) hr hacc
      (htimely before r arrivals rfl)
    rcases openInto_wire_of_match hideal hr (hpos r hr) hkey hhas [] with
      ⟨hf, replay, hopen, hnext⟩ | ⟨hf, err, hopen⟩
    · -- a first arrival
      have hnew : r ∉ before := hfresh.mp hf
      have hacc' : ∀ c, c ∈ r.counter.toNat :: accepted ↔
          ∃ r' ∈ before ++ [r], r'.counter.toNat = c := by
        intro c
        rw [List.mem_cons, hacc]
        constructor
        · grind
        · grind
      obtain ⟨ih1, ih2, ih3⟩ := ih (before ++ [r]) { k with replay := replay }
        (r.counter.toNat :: accepted) (hsplit ▸ hall) (hsplit ▸ htimely) hkey hnext hacc'
      have hcons : opened (KeySet.openEach aead sender k (r :: arrivals))
          = (r, r.plaintext)
            :: opened (KeySet.openEach aead sender { k with replay := replay } arrivals) := by
        simp [KeySet.openEach, hopen, opened]
      rw [hcons, List.map_cons]
      refine ⟨List.nodup_cons.mpr ⟨fun hc => ?_, ih1⟩, fun r' => ?_, fun out hout => ?_⟩
      · exact ((ih2 r).mp hc).2 (by simp)
      · grind
      · grind
    · -- a duplicate: refused, and the cache stays as it is
      have hold : r ∈ before := by
        by_contra hnew
        exact hf (hfresh.mpr hnew)
      have hacc' : ∀ c, c ∈ accepted ↔ ∃ r' ∈ before ++ [r], r'.counter.toNat = c := by
        grind
      obtain ⟨ih1, ih2, ih3⟩ := ih (before ++ [r]) k accepted (hsplit ▸ hall)
        (hsplit ▸ htimely) hkey hhas hacc'
      have hcons : opened (KeySet.openEach aead sender k (r :: arrivals))
          = opened (KeySet.openEach aead sender k arrivals) := by
        simp [KeySet.openEach, hopen, opened]
      rw [hcons]
      refine ⟨ih1, fun r' => ?_, ih3⟩
      rw [ih2, List.mem_cons, List.mem_append, List.mem_singleton, not_or]
      by_cases hrr : r' = r
      · subst hrr
        simp [hold]
      · simp [hrr]

end Delivery

/-! ## The two ends -/

lemma newKeySetForRole_eq {clientKey serverKey : Key} {role : Role} {seed : NoncePrefix}
    {k : KeySet} (h : newKeySetForRole clientKey serverKey role seed = .ok k) :
    roleKeys clientKey serverKey role = .ok (k.sendKey, k.receiveKey) ∧
      k.sendPrefix = seed ∧ k.counter = 0 ∧ k.replay = ReplayCache.empty := by
  cases role <;> simp [newKeySetForRole, roleKeys, bind, Except.bind, pure, Except.pure] at h ⊢
  all_goals subst h; simp

lemma roleKeys_opposite {clientKey serverKey : Key} {role : Role} {keys keys' : Key × Key}
    (h : roleKeys clientKey serverKey role = .ok keys)
    (h' : roleKeys clientKey serverKey role.opposite = .ok keys') : keys'.2 = keys.1 := by
  cases role <;> simp [roleKeys, Role.opposite] at h h' <;> rw [← h, ← h']

lemma roleKeys_ne {clientKey serverKey : Key} (hkeys : clientKey ≠ serverKey) {role : Role}
    {keys : Key × Key} (h : roleKeys clientKey serverKey role = .ok keys) : keys.2 ≠ keys.1 := by
  cases role with
  | client =>
    simp only [roleKeys, Except.ok.injEq] at h
    rw [← h]
    exact hkeys.symm
  | server =>
    simp only [roleKeys, Except.ok.injEq] at h
    rw [← h]
    exact hkeys
  | other raw => simp [roleKeys] at h

/-- **The record layer end to end.**  For every list of plaintexts and associated data sealed by
one role under any interleaving, with an ideal cipher and distinct directional keys:

* nonces are pairwise distinct, the counters are `1, 2, …` up to the shared counter, and at the
  64-bit maximum no call gets a counter any more and each fails with `ErrCounterExhausted`;
* for every timely delivery, duplicates included, the opposite role opens every arriving record
  exactly once and to its own plaintext;
* opening under the sealing role or under other associated data fails with `ErrAuthentication`
  and leaves the whole key set, replay state included, as it was. -/
theorem recordLayer_end_to_end {aead : AEAD} {clientKey serverKey : Key}
    (hkeys : clientKey ≠ serverKey) {role : Role} {seed : NoncePrefix} {sender : KeySet}
    (hsender : newKeySetForRole clientKey serverKey role seed = .ok sender)
    (jobs : List (Bytes × Bytes)) (schedule : List ℕ)
    (hideal : aead.Ideal
      ((run SealState.step (SealState.init jobs) schedule).records.map (·.query sender))) :
    let s := run SealState.step (SealState.init jobs) schedule
    ((s.records.map (·.nonce sender)).Nodup ∧
      (s.records.map fun r => r.counter.toNat).Perm (List.range' 1 s.counter.toNat) ∧
      (s.counter = BitVec.allOnes 64 →
        (∀ later, (run SealState.step s later).records = s.records) ∧
        ∀ i call, s.calls[i]? = some call →
          (call.pc = .load ∨ ∃ current, call.pc = .swap current) →
          (run SealState.step s [i, i]).calls[i]?
            = some { call with pc := .failed .counterExhausted })) ∧
    (∀ seed' receiver,
      newKeySetForRole clientKey serverKey role.opposite seed' = .ok receiver →
      ∀ arrivals, (∀ r ∈ arrivals, r ∈ s.records) → Timely arrivals →
        ((opened (KeySet.openEach aead sender receiver arrivals)).map Prod.fst).Nodup ∧
        (∀ r, r ∈ (opened (KeySet.openEach aead sender receiver arrivals)).map Prod.fst ↔
          r ∈ arrivals) ∧
        ∀ out ∈ opened (KeySet.openEach aead sender receiver arrivals), out.2 = out.1.plaintext) ∧
    (∀ r ∈ s.records, ∀ (k : KeySet) (dst aad : Bytes),
      (roleKeys clientKey serverKey role = .ok (k.sendKey, k.receiveKey) ∨ aad ≠ r.aad) →
      k.openInto aead dst (r.wire aead sender) aad = (k, .error .authentication)) := by
  intro s
  have hinv : s.Inv := SealState.inv_run jobs schedule
  have hinj : ∀ a ∈ s.records, ∀ b ∈ s.records, a.counter.toNat = b.counter.toNat → a = b :=
    fun a ha b hb => hinv.record_inj ha hb
  have hpos : ∀ r ∈ s.records, 0 < r.counter.toNat := fun r hr => hinv.counter_pos hr
  obtain ⟨hroles, -⟩ := newKeySetForRole_eq hsender
  refine ⟨⟨?_, ?_, ?_⟩, ?_, ?_⟩
  · refine List.Nodup.map_on (fun a ha b hb hab => ?_) (List.Nodup.of_map _ hinv.counters_nodup)
    exact hinj a ha b hb (congrArg BitVec.toNat (recordNonce_inj hab))
  · rw [SealState.records_counters]
    exact hinv.handedOut
  · intro hmax
    exact ⟨hinv.records_of_exhausted hmax,
      fun i call hcall hpc => hinv.fails_of_exhausted hmax hcall hpc⟩
  · intro seed' receiver hreceiver arrivals hall htimely
    obtain ⟨hroles', -, -, hempty⟩ := newKeySetForRole_eq hreceiver
    have hkey : receiver.receiveKey = sender.sendKey := roleKeys_opposite hroles hroles'
    have hhas : receiver.replay.HasAccepted sender.sendPrefix [] := by
      rw [hempty]
      exact ReplayCache.hasAccepted_empty _
    have hmain := opened_openEach hideal hinj hpos arrivals [] receiver [] hall htimely hkey hhas
      (by simp)
    simpa using hmain
  · intro r hr k dst aad hbad
    refine openInto_wire_of_mismatch hideal hinj hr (hpos r hr) k dst aad ?_
    refine hbad.imp (fun hrole => ?_) id
    have hsame : k.receiveKey = sender.receiveKey := by
      grind
    rw [hsame]
    exact roleKeys_ne hkeys hroles

/-- Two calls race for the counter, and their records arrive in reverse order and then once
more. -/
theorem recordLayer_end_to_end_race :
    let clientKey : Key := List.Vector.replicate 32 1
    let serverKey : Key := List.Vector.replicate 32 2
    let seed : NoncePrefix := List.Vector.replicate 16 9
    let sender : KeySet := ⟨clientKey, seed, 0, serverKey, ReplayCache.empty⟩
    let receiver : KeySet := ⟨serverKey, seed, 0, clientKey, ReplayCache.empty⟩
    let s := run SealState.step (SealState.init [([5], [0]), ([6], [1])]) [0, 1, 0, 1, 1, 1]
    let arrivals : List SealedRecord := [⟨2, [6], [1]⟩, ⟨1, [5], [0]⟩, ⟨2, [6], [1]⟩]
    let aead := AEAD.ofLedger (s.records.map (·.query sender))
    s.records = [⟨1, [5], [0]⟩, ⟨2, [6], [1]⟩] ∧
      ((opened (KeySet.openEach aead sender receiver arrivals)).map Prod.fst).Nodup ∧
      ∀ r, r ∈ (opened (KeySet.openEach aead sender receiver arrivals)).map Prod.fst ↔
        r ∈ arrivals := by
  intro clientKey serverKey seed sender receiver s arrivals aead
  have hrecords : s.records = [⟨1, [5], [0]⟩, ⟨2, [6], [1]⟩] := rfl
  have hmain := @recordLayer_end_to_end aead clientKey serverKey (by decide) .client seed sender
    rfl [([5], [0]), ([6], [1])] [0, 1, 0, 1, 1, 1] (AEAD.ideal_ofLedger _)
  obtain ⟨hnodup, hmem, -⟩ := hmain.2.1 seed receiver rfl arrivals
    (by rw [hrecords]; decide) (timely_of_lt (by decide))
  exact ⟨hrecords, hnodup, hmem⟩

end OlcRtc
