import Mathlib.Order.Lattice.Nat
import OlcRtc.Lib.Lists
import OlcRtc.Lib.Near
import OlcRtc.Transport.Assembly

/-!
# A reassembler fed by one sender

What `Reassembler` does with the fragments of a single sender that numbers its messages `1, 2, …`,
as long as every fragment that arrives belongs to one of the last 128 messages sent.

The two caps are 256, and that is enough because of one counting argument.  Whatever was inserted
or delivered after message `m` is numbered above `m - 128`, since it arrived when `m` had already
been sent; and as long as `m` itself may still arrive, nothing above `m + 127` has been sent.  So
at most 254 other messages can have got in between, fewer than it takes to evict the entry of `m`
or to forget that `m` was delivered.  Hence

* a message still in the window is never evicted (`Inv.evict_out`) and never forgotten once
  delivered (`Inv.alreadyDelivered_iff`);
* **`push_spec`** says what a push then does: ignore, acknowledge a duplicate, store, or deliver
  the very message that was sent, for the first time.
-/

namespace OlcRtc

/-! ## The sender's messages -/

/-- How far behind the newest message a fragment may be. -/
def sendWindow : ℕ := 128

/-- Message `seq` of the sender; the first one is number one. -/
def IsMessage (sent : List Bytes) (seq : UInt32) (d : Bytes) : Prop :=
  0 < seq.toNat ∧ sent[seq.toNat - 1]? = some d

/-- Message `seq` is too old to arrive any more. -/
def Expired (sent : List Bytes) (seq : UInt32) : Prop := seq.toNat + sendWindow ≤ sent.length

section Messages

variable {sent : List Bytes} {seq : UInt32} {d d' : Bytes}

lemma IsMessage.unique (h : IsMessage sent seq d) (h' : IsMessage sent seq d') : d = d' :=
  Option.some.inj (h.2.symm.trans h'.2)

lemma IsMessage.toNat_le (h : IsMessage sent seq d) : seq.toNat ≤ sent.length := by
  have hlt := (List.getElem?_eq_some_iff.mp h.2).1
  have hpos := h.1
  omega

lemma IsMessage.append (h : IsMessage sent seq d) (data : Bytes) :
    IsMessage (sent ++ [data]) seq d := by
  have hlt := (List.getElem?_eq_some_iff.mp h.2).1
  exact ⟨h.1, by rw [List.getElem?_append_left hlt, h.2]⟩

lemma IsMessage.mem (h : IsMessage sent seq d) : d ∈ sent := List.mem_of_getElem? h.2

end Messages

/-- Fragment `i` of message `f.seq`, as it arrives: the header is intact, and a payload that was
damaged fails the fragment's checksum. -/
structure FragmentOf (size : ℕ) (sent : List Bytes) (f : Fragment) (d : Bytes) (i : ℕ)
    (chunk : Bytes) : Prop where
  message : IsMessage sent f.seq d
  sendable : Sendable size d
  chunk_eq : (fragmentPayload d size)[i]? = some chunk
  crc : f.crc = crc32 d
  totalLen : f.totalLen = UInt32.ofNat d.length
  fragIdx : f.fragIdx = UInt16.ofNat i
  fragTotal : f.fragTotal = UInt16.ofNat (fragmentPayload d size).length
  fragCRC : f.fragCRC = crc32 chunk
  payload : f.payload = chunk ∨ crc32 f.payload ≠ crc32 chunk

namespace FragmentOf

variable {size : ℕ} {sent : List Bytes} {f : Fragment} {d chunk : Bytes} {i : ℕ}

lemma isFragment (h : FragmentOf size sent f d i chunk) : IsFragment size f d i chunk where
  sendable := h.sendable
  chunk_eq := h.chunk_eq
  crc := h.crc
  totalLen := h.totalLen
  fragIdx := h.fragIdx
  fragTotal := h.fragTotal
  fragCRC := h.fragCRC
  payload := h.payload

end FragmentOf

/-! ## The pending messages -/

lemma toNat_injective : Function.Injective UInt32.toNat := fun _ _ h => UInt32.toNat_inj.mp h

namespace Reassembler

/-- Slot `i` of message `seq` is filled. -/
def Stored (r : Reassembler) (seq : UInt32) (i : ℕ) : Prop :=
  ∃ msg chunk, r.inbound.lookup seq = some msg ∧ msg.frags[i]? = some (some chunk)

/-- Every pending entry belongs to a message of the sender and lacks some fragment; and an entry
is not `sendWindow` or more above one inserted after it. -/
structure Entries (size : ℕ) (sent : List Bytes) (r : Reassembler) : Prop where
  entry : ∀ seq msg, r.inbound.lookup seq = some msg →
    ∃ d, IsMessage sent seq d ∧ Holds size d msg ∧ 0 < msg.remain
  added_le : ∀ seq msg, r.inbound.lookup seq = some msg → msg.added ≤ r.addCounter
  added_order : ∀ seq msg seq' msg', r.inbound.lookup seq = some msg →
    r.inbound.lookup seq' = some msg' → seq ≠ seq' → msg.added ≤ msg'.added →
    seq.toNat < seq'.toNat + sendWindow

namespace Entries

variable {size : ℕ} {sent : List Bytes} {f : Fragment} {d chunk : Bytes} {i : ℕ}
  {r : Reassembler}

lemma of_lookup (h : r.Entries size sent) {r' : Reassembler}
    (hsub : ∀ seq msg, r'.inbound.lookup seq = some msg → r.inbound.lookup seq = some msg)
    (hcounter : r.addCounter ≤ r'.addCounter) : r'.Entries size sent where
  entry seq msg hl := h.entry seq msg (hsub seq msg hl)
  added_le seq msg hl := (h.added_le seq msg (hsub seq msg hl)).trans hcounter
  added_order seq msg seq' msg' hl hl' :=
    h.added_order seq msg seq' msg' (hsub seq msg hl) (hsub seq' msg' hl')

lemma erase (h : r.Entries size sent) (seq : UInt32) :
    Entries size sent { r with inbound := r.inbound.erase seq } := by
  refine h.of_lookup (fun seq' msg hl => ?_) (le_refl _)
  exact (of_lookup_erase hl).2

lemma append (h : r.Entries size sent) (data : Bytes) : r.Entries size (sent ++ [data]) where
  entry seq msg hl := by
    obtain ⟨d, hd, hrest⟩ := h.entry seq msg hl
    exact ⟨d, hd.append data, hrest⟩
  added_le := h.added_le
  added_order := h.added_order

/-- A fresh entry is above everything inserted before it, by less than the window, because those
messages had been sent already. -/
lemma insert (h : r.Entries size sent) (hf : FragmentOf size sent f d i chunk)
    (hlive : ¬ Expired sent f.seq) :
    Entries size sent { r with
      addCounter := r.addCounter + 1
      inbound := r.inbound.insert f.seq (r.freshMessage f) } := by
  refine ⟨fun seq msg hl => ?_, fun seq msg hl => ?_, fun seq msg seq' msg' hl hl' hne hle => ?_⟩
  · rcases lookup_insert_cases hl with ⟨rfl, rfl⟩ | ⟨_, hold⟩
    · refine ⟨d, hf.message, Holds.freshMessage r hf.isFragment, ?_⟩
      have hlt := hf.isFragment.lt
      simp only [Reassembler.freshMessage, hf.isFragment.toNat_fragTotal]
      omega
    · exact h.entry seq msg hold
  · rcases lookup_insert_cases hl with ⟨rfl, rfl⟩ | ⟨_, hold⟩
    · exact le_refl _
    · exact (h.added_le seq msg hold).trans (Nat.le_succ _)
  · rcases lookup_insert_cases hl with ⟨rfl, rfl⟩ | ⟨_, hold⟩
    · rcases lookup_insert_cases hl' with ⟨rfl, _⟩ | ⟨_, hold'⟩
      · exact absurd rfl hne
      · have hbefore := h.added_le seq' msg' hold'
        simp only [Reassembler.freshMessage] at hle
        omega
    · rcases lookup_insert_cases hl' with ⟨rfl, rfl⟩ | ⟨_, hold'⟩
      · obtain ⟨d', hd', _⟩ := h.entry seq msg hold
        have hsent := hd'.toNat_le
        simp only [Expired, not_le] at hlive
        omega
      · exact h.added_order seq msg seq' msg' hold hold' hne hle

lemma set (h : r.Entries size sent) {seq : UInt32} {msg msg' : InboundMessage}
    (hl : r.inbound.lookup seq = some msg) (hd : IsMessage sent seq d) (hm : Holds size d msg')
    (hremain : 0 < msg'.remain) (hadded : msg'.added = msg.added) :
    Entries size sent { r with inbound := r.inbound.insert seq msg' } := by
  have hlookup : ∀ seq' m, (r.inbound.insert seq msg').lookup seq' = some m →
      ∃ m₀, r.inbound.lookup seq' = some m₀ ∧ m.added = m₀.added := by
    intro seq' m hl'
    rcases lookup_insert_cases hl' with ⟨rfl, rfl⟩ | ⟨-, hold⟩
    · exact ⟨msg, hl, hadded⟩
    · exact ⟨m, hold, rfl⟩
  refine ⟨fun seq' m hl' => ?_, fun seq' m hl' => ?_, fun seq₁ m₁ seq₂ m₂ hl₁ hl₂ hne hle => ?_⟩
  · rcases lookup_insert_cases hl' with ⟨rfl, rfl⟩ | ⟨-, hold⟩
    · exact ⟨d, hd, hm, hremain⟩
    · exact h.entry seq' m hold
  · obtain ⟨m₀, hm₀, hadd⟩ := hlookup seq' m hl'
    rw [hadd]
    exact h.added_le seq' m₀ hm₀
  · obtain ⟨m₁', hm₁, hadd₁⟩ := hlookup seq₁ m₁ hl₁
    obtain ⟨m₂', hm₂, hadd₂⟩ := hlookup seq₂ m₂ hl₂
    exact h.added_order seq₁ m₁' seq₂ m₂' hm₁ hm₂ hne (hadd₁ ▸ hadd₂ ▸ hle)

/-- **Only expired messages are evicted.**  Whatever was inserted after the evicted message is
near it, and there are more such entries than numbers near it. -/
lemma evict_out (h : r.Entries size sent) (hcap : r.maxPending = 256) {keep seq : UInt32}
    {kept msg : InboundMessage} (hkept : r.inbound.lookup keep = some kept)
    (hl : r.inbound.lookup seq = some msg) (hfull : r.maxPending < r.inbound.keys.length)
    (hkeep : msg.added ≤ kept.added)
    (hmin : ∀ seq' msg', r.inbound.lookup seq' = some msg' → seq' ≠ keep →
      msg.added ≤ msg'.added) : Expired sent seq := by
  by_contra hlive
  simp only [Expired, not_le] at hlive
  have hmem : seq ∈ r.inbound.keys := AList.mem_keys.mp (AList.lookup_isSome.mp (by simp [hl]))
  have hnear : (r.inbound.keys.erase seq).length ≤ 2 * (sendWindow - 1) := by
    refine length_le_of_near toNat_injective (r.inbound.keys_nodup.erase seq) seq.toNat
      fun y hy => ?_
    obtain ⟨hne, hy⟩ := (List.Nodup.mem_erase_iff r.inbound.keys_nodup).mp hy
    obtain ⟨my, hmy⟩ := Option.isSome_iff_exists.mp
      (AList.lookup_isSome.mpr (AList.mem_keys.mpr hy))
    have hafter : msg.added ≤ my.added := by
      grind
    obtain ⟨d, hd, _⟩ := h.entry y my hmy
    refine ⟨fun heq => hne (toNat_injective heq), ?_, lt_of_le_of_lt hd.toNat_le hlive⟩
    exact h.added_order seq msg y my hl hmy hne.symm hafter
  rw [List.length_erase_of_mem hmem] at hnear
  simp only [sendWindow] at hnear
  omega

lemma insertFresh (h : r.Entries size sent) (hcap : r.maxPending = 256)
    (hf : FragmentOf size sent f d i chunk) (hlive : ¬ Expired sent f.seq) :
    (r.insertFresh f).Entries size sent ∧
      (r.insertFresh f).inbound.lookup f.seq = some (r.freshMessage f) ∧
      ∀ seq, seq ≠ f.seq →
        (r.insertFresh f).inbound.lookup seq = r.inbound.lookup seq ∨ Expired sent seq := by
  have hins := h.insert hf hlive
  have hself := AList.lookup_insert (a := f.seq) (b := r.freshMessage f) r.inbound
  rcases evictOldestIfFull_cases { r with
      addCounter := r.addCounter + 1
      inbound := r.inbound.insert f.seq (r.freshMessage f) } f.seq with
    hsame | ⟨seq, msg, hl, hne, hfull, hmin, herase⟩
  · rw [Reassembler.insertFresh, hsame]
    exact ⟨hins, hself, fun seq hseq => Or.inl (AList.lookup_insert_ne hseq)⟩
  · have hout : Expired sent seq := by
      refine hins.evict_out hcap hself hl hfull ?_ hmin
      exact hins.added_le seq msg hl
    rw [Reassembler.insertFresh, herase]
    refine ⟨hins.erase seq, ?_, fun seq' hseq' => ?_⟩
    · rw [AList.lookup_erase_ne hne.symm]
      exact hself
    · by_cases heq : seq' = seq
      · exact Or.inr (heq ▸ hout)
      · exact Or.inl (by rw [AList.lookup_erase_ne heq, AList.lookup_insert_ne hseq'])

end Entries

/-! ## The delivered messages -/

/-- The two generations hold the most recent deliveries of `log`, newest first, and nothing
else. -/
structure Remembers (sent : List Bytes) (log : List UInt32)
    (delivered previous : AList fun _ : UInt32 => UInt32) : Prop where
  message : ∀ seq ∈ log, ∃ d, IsMessage sent seq d
  nodup : log.Nodup
  order : log.Pairwise fun later earlier => earlier.toNat < later.toNat + sendWindow
  size_le : delivered.keys.length ≤ 256
  live : ∀ seq ∈ log.take delivered.keys.length, delivered.lookup seq ≠ none
  old : ∀ seq ∈ (log.drop delivered.keys.length).take 256, previous.lookup seq ≠ none
  live_only : ∀ seq crc, delivered.lookup seq = some crc →
    seq ∈ log ∧ ∃ d, IsMessage sent seq d ∧ crc = crc32 d
  old_only : ∀ seq crc, previous.lookup seq = some crc →
    seq ∈ log ∧ ∃ d, IsMessage sent seq d ∧ crc = crc32 d

namespace Remembers

variable {size : ℕ} {sent : List Bytes} {f : Fragment} {d chunk : Bytes} {i : ℕ}
  {log : List UInt32} {delivered previous : AList fun _ : UInt32 => UInt32}

lemma empty : Remembers [] [] ∅ ∅ where
  message := by simp
  nodup := List.nodup_nil
  order := List.Pairwise.nil
  size_le := Nat.zero_le _
  live := by simp
  old := by simp
  live_only := by simp
  old_only := by simp

lemma append (h : Remembers sent log delivered previous) (data : Bytes) :
    Remembers (sent ++ [data]) log delivered previous where
  message seq hseq := (h.message seq hseq).imp fun _ hd => hd.append data
  nodup := h.nodup
  order := h.order
  size_le := h.size_le
  live := h.live
  old := h.old
  live_only seq crc hl := by
    obtain ⟨hmem, d, hd, hcrc⟩ := h.live_only seq crc hl
    exact ⟨hmem, d, hd.append data, hcrc⟩
  old_only seq crc hl := by
    obtain ⟨hmem, d, hd, hcrc⟩ := h.old_only seq crc hl
    exact ⟨hmem, d, hd.append data, hcrc⟩

/-- **A message that may still arrive is remembered.** -/
lemma lookup_of_mem (h : Remembers sent log delivered previous) {seq : UInt32} (hseq : seq ∈ log)
    (hlive : ¬ Expired sent seq) :
    delivered.lookup seq ≠ none ∨ previous.lookup seq ≠ none := by
  have hrecent : seq ∈ log.take (2 * (sendWindow - 1) + 1) := by
    refine mem_take_of_near toNat_injective h.nodup h.order hseq (fun y hy => ?_)
      (not_le.mp hlive)
    obtain ⟨d, hd⟩ := h.message y hy
    exact hd.toNat_le
  have hrecent' : seq ∈ log.take (delivered.keys.length + 256) :=
    List.take_subset_take_left log (by simp only [sendWindow]; omega) hrecent
  rw [List.take_add, List.mem_append] at hrecent'
  exact hrecent'.imp (h.live seq) (h.old seq)

lemma alreadyDelivered_iff {r : Reassembler} (h : Remembers sent log r.delivered r.previous)
    (hf : FragmentOf size sent f d i chunk) (hlive : ¬ Expired sent f.seq) :
    r.alreadyDelivered f = true ↔ f.seq ∈ log := by
  have hcrc : ∀ crc d', IsMessage sent f.seq d' ∧ crc = crc32 d' → crc = f.crc := by
    rintro crc d' ⟨hd', rfl⟩
    rw [hf.crc, hd'.unique hf.message]
  unfold Reassembler.alreadyDelivered
  cases hl : r.delivered.lookup f.seq with
  | some crc =>
    obtain ⟨hmem, d', hd'⟩ := h.live_only f.seq crc hl
    simp [hcrc crc d' hd', hmem]
  | none =>
    cases hp : r.previous.lookup f.seq with
    | some crc =>
      obtain ⟨hmem, d', hd'⟩ := h.old_only f.seq crc hp
      simp [hcrc crc d' hd', hmem]
    | none =>
      have hnot : f.seq ∉ log := fun hmem => by
        rcases h.lookup_of_mem hmem hlive with hne | hne
        · exact hne hl
        · exact hne hp
      simp [hnot]

/-- **Recording a delivery**, with the generations rotated when the live one is full. -/
lemma record (h : Remembers sent log delivered previous) {seq : UInt32} (hnew : seq ∉ log)
    (hd : IsMessage sent seq d) (hlive : ¬ Expired sent seq) :
    Remembers sent (seq :: log)
      ((if 256 ≤ delivered.keys.length then ∅ else delivered).insert seq (crc32 d))
      (if 256 ≤ delivered.keys.length then delivered else previous) := by
  set kept : AList fun _ : UInt32 => UInt32 :=
    if 256 ≤ delivered.keys.length then ∅ else delivered with hkept
  have hkept_sub : ∀ seq' crc, kept.lookup seq' = some crc → delivered.lookup seq' = some crc := by
    intro seq' crc hl
    rw [hkept] at hl
    split_ifs at hl with hfull
    · simp at hl
    · exact hl
  have hnotin : seq ∉ kept := by
    intro hmem
    obtain ⟨crc, hl⟩ := Option.isSome_iff_exists.mp (AList.lookup_isSome.mpr hmem)
    exact hnew (h.live_only seq crc (hkept_sub seq crc hl)).1
  have hkeys : (kept.insert seq (crc32 d)).keys.length = kept.keys.length + 1 := by
    rw [AList.keys_insert, List.length_cons, List.erase_of_not_mem (mt AList.mem_keys.mpr hnotin)]
  have hlookup : ∀ seq', seq' ≠ seq →
      (kept.insert seq (crc32 d)).lookup seq' = kept.lookup seq' := fun seq' hne =>
    AList.lookup_insert_ne hne
  refine ⟨?_, List.nodup_cons.mpr ⟨hnew, h.nodup⟩, ?_, ?_, ?_, ?_, ?_, ?_⟩
  · intro seq' hseq'
    rcases List.mem_cons.mp hseq' with rfl | hseq'
    · exact ⟨d, hd⟩
    · exact h.message seq' hseq'
  · refine List.pairwise_cons.mpr ⟨fun earlier hearlier => ?_, h.order⟩
    obtain ⟨d', hd'⟩ := h.message earlier hearlier
    exact lt_of_le_of_lt hd'.toNat_le (not_le.mp hlive)
  · have hle := h.size_le
    rw [hkeys, hkept]
    split_ifs with hfull
    · simp
    · omega
  · intro seq' hseq'
    rw [hkeys, List.take_succ_cons] at hseq'
    by_cases hne : seq' = seq
    · rw [hne, AList.lookup_insert]
      simp
    · rw [hlookup seq' hne]
      have hmem := (List.mem_cons.mp hseq').resolve_left hne
      rw [hkept] at hmem ⊢
      split_ifs at hmem ⊢ with hfull
      · simp at hmem
      · exact h.live seq' hmem
  · intro seq' hseq'
    rw [hkeys, List.drop_succ_cons, hkept] at hseq'
    split_ifs at hseq' ⊢ with hfull
    · -- the full generation holds exactly the last 256 deliveries
      have hsize : delivered.keys.length = 256 := le_antisymm h.size_le hfull
      refine h.live seq' ?_
      simpa [hsize] using hseq'
    · exact h.old seq' hseq'
  · intro seq' crc hl
    by_cases hne : seq' = seq
    · subst hne
      rw [AList.lookup_insert, Option.some.injEq] at hl
      exact ⟨by simp, d, hd, hl.symm⟩
    · rw [hlookup seq' hne] at hl
      obtain ⟨hmem, hrest⟩ := h.live_only seq' crc (hkept_sub seq' crc hl)
      exact ⟨by simp [hmem], hrest⟩
  · intro seq' crc hl
    split_ifs at hl with hfull
    · obtain ⟨hmem, hrest⟩ := h.live_only seq' crc hl
      exact ⟨by simp [hmem], hrest⟩
    · obtain ⟨hmem, hrest⟩ := h.old_only seq' crc hl
      exact ⟨by simp [hmem], hrest⟩

end Remembers

/-! ## One push -/

/-- The state of a reassembler that has been fed by one sender. -/
structure Inv (size : ℕ) (sent : List Bytes) (log : List UInt32) (r : Reassembler) : Prop where
  maxRecent : r.maxRecent = 256
  maxPending : r.maxPending = 256
  entries : r.Entries size sent
  remembers : Remembers sent log r.delivered r.previous

lemma inv_new (size : ℕ) : (new 256).Inv size [] [] where
  maxRecent := rfl
  maxPending := rfl
  entries := ⟨by simp [new], by simp [new], by simp [new]⟩
  remembers := Remembers.empty

section PushSpec

variable {size : ℕ} {sent : List Bytes} {f : Fragment} {d chunk : Bytes} {i : ℕ}
  {log : List UInt32} {r : Reassembler}

lemma Inv.append (h : r.Inv size sent log) (data : Bytes) : r.Inv size (sent ++ [data]) log :=
  ⟨h.maxRecent, h.maxPending, h.entries.append data, h.remembers.append data⟩

/-- **`upsert`** finds or makes the entry of the message, and drops at most an expired one. -/
lemma Inv.upsert_spec (h : r.Inv size sent log) (hf : FragmentOf size sent f d i chunk)
    (hlive : ¬ Expired sent f.seq) :
    (r.upsert f).1.Entries size sent ∧
      (r.upsert f).1.inbound.lookup f.seq = some (r.upsert f).2 ∧
      Holds size d (r.upsert f).2 ∧
      (∀ msg, r.inbound.lookup f.seq = some msg → (r.upsert f).2 = msg) ∧
      ∀ seq, seq ≠ f.seq →
        (r.upsert f).1.inbound.lookup seq = r.inbound.lookup seq ∨ Expired sent seq := by
  cases hl : r.inbound.lookup f.seq with
  | none =>
    have hup : r.upsert f = (r.insertFresh f, r.freshMessage f) := by
      simp only [Reassembler.upsert, hl]
    obtain ⟨hentries, hself, hothers⟩ := h.entries.insertFresh h.maxPending hf hlive
    rw [hup]
    exact ⟨hentries, hself, Holds.freshMessage r hf.isFragment, by simp, hothers⟩
  | some msg =>
    obtain ⟨d', hd', hholds, _⟩ := h.entries.entry f.seq msg hl
    rw [hd'.unique hf.message] at hholds
    have hup : r.upsert f = (r, msg) := by
      simp only [Reassembler.upsert, hl, hholds.compatible hf.isFragment, if_true]
    rw [hup]
    exact ⟨h.entries, hl, hholds, by simp, fun _ _ => Or.inl rfl⟩

/-- **What a push does** with a fragment of one of the last 128 messages: it ignores a damaged
one; it reports a duplicate exactly of what was delivered; otherwise it stores the fragment; and
when that completes the message, it delivers it, exactly as it was sent and for the first time.
Slots once filled stay filled until their message is delivered or expires. -/
theorem Inv.push_spec (h : r.Inv size sent log) (hf : FragmentOf size sent f d i chunk)
    (hlive : ¬ Expired sent f.seq) :
    r.push f = (r, .resultIgnore, none) ∨
      (f.seq ∈ log ∧ r.push f = (r, .resultDuplicate, none)) ∨
      (∃ r', r.push f = (r', .resultPartial, none) ∧ r'.Inv size sent log ∧ r'.Stored f.seq i ∧
        ∀ seq j, r.Stored seq j → r'.Stored seq j ∨ Expired sent seq) ∨
      (∃ r', r.push f = (r', .resultDelivered, some d) ∧ f.seq ∉ log ∧
        r'.Inv size sent (f.seq :: log) ∧ ¬ r.Stored f.seq i ∧ (∀ j, ¬ r'.Stored f.seq j) ∧
        ∀ seq j, seq ≠ f.seq → r.Stored seq j → r'.Stored seq j ∨ Expired sent seq) := by
  by_cases hvalid : f.valid = true
  swap
  · exact Or.inl (by simp [push, hvalid])
  refine Or.inr ?_
  by_cases hdup : r.alreadyDelivered f = true
  · refine Or.inl ⟨(h.remembers.alreadyDelivered_iff hf hlive).mp hdup, ?_⟩
    simp [push, hvalid, hdup]
  refine Or.inr ?_
  have hnew : f.seq ∉ log := mt (h.remembers.alreadyDelivered_iff hf hlive).mpr hdup
  obtain ⟨hentries, hself, hholds, hexisting, hothers⟩ := h.upsert_spec hf hlive
  obtain ⟨hrecent, hpending, hdelivered, hprevious⟩ := upsert_frame r f
  have hpush := push_eq hvalid hdup
  set up := r.upsert f with hup
  obtain ⟨hholds', hfilled, hkept, hadded⟩ := hholds.storeChunk hf.isFragment hvalid
  by_cases hremain : 0 < (up.2.storeChunk f).remain
  · -- some fragment is still missing
    refine Or.inl ⟨_, by rw [hpush, if_pos hremain], ⟨?_, ?_, ?_, ?_⟩, ?_, ?_⟩
    · exact hrecent.trans h.maxRecent
    · exact hpending.trans h.maxPending
    · exact hentries.set hself hf.message hholds' hremain hadded
    · show Remembers sent log up.1.delivered up.1.previous
      rw [hdelivered, hprevious]
      exact h.remembers
    · obtain ⟨c, hc⟩ := hfilled
      exact ⟨_, c, AList.lookup_insert _, hc⟩
    · rintro seq j ⟨msg, c, hl, hc⟩
      by_cases hseq : seq = f.seq
      · subst hseq
        rw [← hexisting msg hl] at hc
        obtain ⟨c', hc'⟩ := hkept j c hc
        exact Or.inl ⟨_, c', AList.lookup_insert _, hc'⟩
      · refine (hothers seq hseq).imp (fun hsame => ?_) id
        exact ⟨msg, c, by rw [AList.lookup_insert_ne hseq, hsame, hl], hc⟩
  · -- the message is complete
    have hdata : (up.2.storeChunk f).assemble = d :=
      hholds'.assemble hf.sendable (by omega)
    have hdeliver : up.1.deliver f.seq (up.2.storeChunk f) =
        ({ up.1 with
            inbound := up.1.inbound.erase f.seq
            delivered := (if 256 ≤ r.delivered.keys.length then ∅ else r.delivered).insert f.seq
              (crc32 d)
            previous := if 256 ≤ r.delivered.keys.length then r.delivered else r.previous },
          .resultDelivered, some d) := by
      simp only [deliver, hdata, hholds'.crc, ne_eq, not_true_eq_false, if_false, hrecent,
        h.maxRecent, hdelivered]
      split_ifs <;> simp [hprevious]
    refine Or.inr ⟨_, by rw [hpush, if_neg hremain, hdeliver], hnew, ⟨?_, ?_, ?_, ?_⟩, ?_, ?_, ?_⟩
    · exact hrecent.trans h.maxRecent
    · exact hpending.trans h.maxPending
    · exact (hentries.erase f.seq).of_lookup (fun _ _ hl => hl) (le_refl _)
    · exact h.remembers.record hnew hf.message hlive
    · -- a filled slot would have left the entry incomplete
      rintro ⟨msg, c, hl, hc⟩
      obtain ⟨_, _, _, hpos⟩ := h.entries.entry f.seq msg hl
      rw [hexisting msg hl] at hremain hholds
      rcases hholds.storeChunk_cases hf.isFragment with ⟨c', _, hsame⟩ | ⟨hnone, _⟩
      · rw [hsame] at hremain
        exact hremain hpos
      · rw [hnone] at hc
        simp at hc
    · rintro j ⟨msg, c, hl, _⟩
      exact (of_lookup_erase hl).1 rfl
    · rintro seq j hseq ⟨msg, c, hl, hc⟩
      refine (hothers seq hseq).imp (fun hsame => ?_) id
      exact ⟨msg, c, by rw [AList.lookup_erase_ne hseq, hsame, hl], hc⟩

end PushSpec

end Reassembler

end OlcRtc
