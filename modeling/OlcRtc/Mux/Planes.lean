import OlcRtc.Mux.Conn
import OlcRtc.Crypto.RecordLayer

/-!
# Two planes over one key set

An endpoint of a transport with an isolated control plane has two connections and one `KeySet`:
every write on either of them takes the next value of the shared counter, and both receiving
connections feed one replay cache.  Each plane delivers its own records in order, but nothing
orders the planes against each other.

The cache remembers 64 counters below the highest one.  So a plane that lags behind the other by
64 records or more is taken for a replay, and its records are dropped without a word to the
session above: **the streams arrive whole exactly when no record is delivered after one sealed 64
or more counters later** (`planes_lossless_iff`).
-/

namespace OlcRtc

/-! ## The sending endpoint -/

/-- A record on its way: its plane, the bytes the transport carries, and what they were sealed
from. -/
structure SentRecord where
  plane : Plane
  record : Bytes
  origin : SealedRecord

/-- One `Write`: where, what, and how the transport behaved. -/
structure WriteCall where
  plane : Plane
  payload : Bytes
  polls : List (Bool × Bool)
  sent : Bool

/-- The sending endpoint: its keys, everything the cipher was asked to seal, and everything the
transport took, in order. -/
structure SendingEnd where
  keys : KeySet
  log : List SealedRecord
  sent : List SentRecord

namespace SendingEnd

def init (keys : KeySet) : SendingEnd := ⟨keys, [], []⟩

/-- One `Write` on the connection of its plane. -/
def write (aead : AEAD) (e : SendingEnd) (call : WriteCall) : SendingEnd :=
  let out := (Conn.new call.plane).write aead e.keys call.polls call.sent call.payload
  let origin : SealedRecord := ⟨out.keys.counter, call.payload, call.plane.aad⟩
  match out.enc, out.result with
  | none, _ => { e with keys := out.keys }
  | some _, .error _ => { e with keys := out.keys, log := e.log ++ [origin] }
  | some enc, .ok _ =>
    { keys := out.keys
      log := e.log ++ [origin]
      sent := e.sent ++ [⟨call.plane, enc, origin⟩] }

/-- The counters sealed under are `1, 2, …`, and what the transport took are, in order, some of
the sealed records, each under the associated data of its plane. -/
structure Inv (aead : AEAD) (sender : KeySet) (e : SendingEnd) : Prop where
  keys_eq : e.keys = { sender with counter := e.keys.counter }
  log_counters : e.log.map (fun r => r.counter.toNat) = List.range' 1 e.keys.counter.toNat
  sublist : (e.sent.map SentRecord.origin).Sublist e.log
  genuine : ∀ s ∈ e.sent, s.record = s.origin.wire aead sender ∧ s.origin.aad = s.plane.aad

variable {aead : AEAD} {sender : KeySet}

lemma inv_init (hcounter : sender.counter = 0) : (init sender).Inv aead sender where
  keys_eq := rfl
  log_counters := by simp [init, hcounter]
  sublist := List.Sublist.refl _
  genuine := by simp [init]

/-- **One write keeps the invariant**, whether it fails before sealing, after it, or not at
all. -/
lemma Inv.write {e : SendingEnd} (h : e.Inv aead sender) (call : WriteCall) :
    (e.write aead call).Inv aead sender := by
  rcases Conn.write_cases aead e.keys (Conn.new call.plane) call.polls call.sent call.payload with
    ⟨err, hwrite⟩ | ⟨hmax, hwrite⟩
  · have hstep : e.write aead call = e := by simp [SendingEnd.write, hwrite]
    rw [hstep]
    exact h
  · set origin : SealedRecord := ⟨e.keys.counter + 1, call.payload, call.plane.aad⟩ with horigin
    have hkeys : ({ e.keys with counter := e.keys.counter + 1 } : KeySet)
        = { sender with counter := e.keys.counter + 1 } := by
      rw [h.keys_eq]
    have hlog : (e.log ++ [origin]).map (fun r => r.counter.toNat)
        = List.range' 1 (e.keys.counter + 1).toNat := by
      have hsucc := SealState.toNat_succ hmax
      rw [List.map_append, h.log_counters, hsucc, List.range'_1_concat]
      show _ ++ [(e.keys.counter + 1).toNat] = _
      rw [hsucc, Nat.add_comm 1]
    have hwire : e.keys.sealAt aead (e.keys.counter + 1) [] call.payload call.plane.aad
        = origin.wire aead sender := by
      rw [h.keys_eq]
      rfl
    cases hsent : call.sent with
    | false =>
      have hstep : e.write aead call =
          ⟨{ e.keys with counter := e.keys.counter + 1 }, e.log ++ [origin], e.sent⟩ := by
        rw [hsent] at hwrite
        simp [SendingEnd.write, hsent, hwrite, horigin]
      rw [hstep]
      exact ⟨hkeys, hlog, h.sublist.trans (List.sublist_append_left _ _), h.genuine⟩
    | true =>
      have hstep : e.write aead call =
          ⟨{ e.keys with counter := e.keys.counter + 1 }, e.log ++ [origin],
            e.sent ++ [⟨call.plane, origin.wire aead sender, origin⟩]⟩ := by
        rw [hsent, Conn.new_aad, hwire] at hwrite
        simp [SendingEnd.write, hsent, hwrite, horigin]
      rw [hstep]
      refine ⟨hkeys, hlog, ?_, ?_⟩
      · rw [List.map_append]
        exact h.sublist.append (List.Sublist.refl _)
      · intro s hs
        rcases List.mem_append.mp hs with hs | hs
        · exact h.genuine s hs
        · grind

lemma inv_run (hcounter : sender.counter = 0) (calls : List WriteCall) :
    (run (write aead) (init sender) calls).Inv aead sender :=
  run_invariant_of_step _ (fun _ call h => h.write call) (inv_init hcounter) calls

lemma Inv.sent_nodup {e : SendingEnd} (h : e.Inv aead sender) :
    (e.sent.map fun s => s.origin.counter.toNat).Nodup := by
  have hsub := h.sublist.map fun r : SealedRecord => r.counter.toNat
  rw [h.log_counters, List.map_map] at hsub
  exact hsub.nodup List.nodup_range'

lemma Inv.counter_pos {e : SendingEnd} (h : e.Inv aead sender) {r : SealedRecord}
    (hr : r ∈ e.log) : 0 < r.counter.toNat := by
  have hmem : r.counter.toNat ∈ e.log.map fun r => r.counter.toNat := List.mem_map_of_mem hr
  rw [h.log_counters] at hmem
  have := List.mem_range'_1.mp hmem
  omega

end SendingEnd

/-! ## The receiving endpoint -/

/-- The receiving endpoint: the shared keys and the connection of each plane. -/
structure ReceivingEnd where
  keys : KeySet
  conns : Plane → Conn

namespace ReceivingEnd

def init (keys : KeySet) : ReceivingEnd := ⟨keys, Conn.new⟩

/-- A plane delivers a record: `Push` of its own connection. -/
def push (aead : AEAD) (e : ReceivingEnd) (s : SentRecord) : ReceivingEnd :=
  let out := (e.conns s.plane).push aead e.keys s.record
  ⟨out.1, Function.update e.conns s.plane out.2⟩

end ReceivingEnd

/-- What the writes on plane `p` hand to the stream, given the records of both planes. -/
def payloads (p : Plane) (records : List SentRecord) : List Bytes :=
  (records.filter (·.plane = p)).map (·.origin.plaintext)

/-- No record comes after one whose counter is 64 or more ahead of its own. -/
def WithinWindow (arrivals : List SentRecord) : Prop :=
  arrivals.Pairwise fun earlier later =>
    earlier.origin.counter.toNat < later.origin.counter.toNat + replayWindowSize

instance (arrivals : List SentRecord) : Decidable (WithinWindow arrivals) :=
  inferInstanceAs (Decidable (arrivals.Pairwise _))

namespace ReceivingEnd

variable {aead : AEAD} {sender : KeySet} {sealed : List SealedRecord}

lemma length_inbound_run_le (arrivals : List SentRecord) (p : Plane) :
    ∀ e : ReceivingEnd, ((run (push aead) e arrivals).conns p).inbound.length
      ≤ (e.conns p).inbound.length + (payloads p arrivals).length := by
  induction arrivals with
  | nil => intro e; simp
  | cons s arrivals ih =>
    intro e
    refine (ih (e.push aead s)).trans ?_
    by_cases hp : s.plane = p
    · have hone := Conn.length_inbound_push_le aead e.keys (e.conns s.plane) s.record
      subst hp
      simp only [push, Function.update_self, payloads, List.filter_cons, decide_true, if_true,
        List.map_cons, List.length_cons] at hone ⊢
      omega
    · simp [push, Function.update_of_ne (Ne.symm hp), payloads, hp]

/-- The receiver is open, knows the sender, and has accepted exactly these counters from it. -/
structure Ready (sender : KeySet) (accepted : List ℕ) (e : ReceivingEnd) : Prop where
  key : e.keys.receiveKey = sender.sendKey
  accepted : e.keys.replay.HasAccepted sender.sendPrefix accepted
  conn : ∀ p, (e.conns p).closed = false ∧ (e.conns p).aad = p.aad

/-- **One delivery.**  A genuine record with a counter not seen before is queued if no accepted
counter is 64 or more ahead of it; otherwise its stream stays as it was. -/
lemma push_genuine (hideal : aead.Ideal (sealed.map (·.query sender))) {e : ReceivingEnd}
    {accepted : List ℕ} (h : e.Ready sender accepted) {s : SentRecord}
    (hs : s.origin ∈ sealed) (hpos : 0 < s.origin.counter.toNat)
    (hrecord : s.record = s.origin.wire aead sender) (haad : s.origin.aad = s.plane.aad)
    (hnew : s.origin.counter.toNat ∉ accepted) :
    ((∀ c ∈ accepted, c < s.origin.counter.toNat + replayWindowSize) ∧
        (e.push aead s).Ready sender (s.origin.counter.toNat :: accepted) ∧
        ∀ p, ((e.push aead s).conns p).inbound = (e.conns p).inbound ++ payloads p [s]) ∨
      (¬ (∀ c ∈ accepted, c < s.origin.counter.toNat + replayWindowSize) ∧
        ((e.push aead s).conns s.plane).inbound = (e.conns s.plane).inbound) := by
  obtain ⟨hclosed, hconn⟩ := h.conn s.plane
  have hfresh : Fresh accepted s.origin.counter.toNat ↔
      ∀ c ∈ accepted, c < s.origin.counter.toNat + replayWindowSize :=
    forall₂_congr fun c hc => and_iff_right fun heq => hnew (heq ▸ hc)
  have hopen : e.keys.openInto aead [] s.record (e.conns s.plane).aad
      = e.keys.openInto aead [] (s.origin.wire aead sender) s.origin.aad := by
    rw [hrecord, hconn, haad]
  rcases openInto_wire_of_match hideal hs hpos h.key h.accepted [] with
    ⟨hf, replay, hok, hnext⟩ | ⟨hf, err, herr⟩
  · refine Or.inl ⟨hfresh.mp hf, ?_⟩
    have hpush : (e.conns s.plane).push aead e.keys s.record
        = ({ e.keys with replay := replay },
          { e.conns s.plane with
            inbound := (e.conns s.plane).inbound ++ [s.origin.plaintext] }) := by
      simp [Conn.push, hopen, hok, hclosed]
    refine ⟨⟨?_, ?_, fun p => ?_⟩, fun p => ?_⟩
    · simpa [push, hpush] using h.key
    · simpa [push, hpush] using hnext
    · by_cases hp : p = s.plane
      · subst hp
        simp [push, hpush, hclosed, hconn]
      · simpa [push, hp] using h.conn p
    · by_cases hp : p = s.plane
      · subst hp
        simp [push, hpush, payloads]
      · simp [push, payloads, hp, Ne.symm hp]
  · refine Or.inr ⟨mt hfresh.mpr hf, ?_⟩
    simp [push, Conn.push, hopen, herr]

/-- **A whole delivery.**  Both streams arrive complete exactly when every record comes in time,
with respect to what was accepted before and to the records delivered ahead of it. -/
theorem inbound_run_iff (hideal : aead.Ideal (sealed.map (·.query sender)))
    (hpos : ∀ r ∈ sealed, 0 < r.counter.toNat) (arrivals : List SentRecord) :
    ∀ (e : ReceivingEnd) (accepted : List ℕ), e.Ready sender accepted →
      (∀ s ∈ arrivals, s.origin ∈ sealed ∧ s.record = s.origin.wire aead sender ∧
        s.origin.aad = s.plane.aad) →
      (arrivals.map fun s => s.origin.counter.toNat).Nodup →
      (∀ s ∈ arrivals, s.origin.counter.toNat ∉ accepted) →
      ((∀ p, ((run (push aead) e arrivals).conns p).inbound
          = (e.conns p).inbound ++ payloads p arrivals) ↔
        (∀ s ∈ arrivals, ∀ c ∈ accepted, c < s.origin.counter.toNat + replayWindowSize) ∧
          WithinWindow arrivals) := by
  induction arrivals with
  | nil => intro e accepted _ _ _ _; simp [payloads, WithinWindow]
  | cons s arrivals ih =>
    intro e accepted hready hall hnodup hnew
    obtain ⟨hs, hrecord, haad⟩ := hall s (by simp)
    obtain ⟨hfirst, hnodup⟩ := List.nodup_cons.mp hnodup
    have hsplit : ∀ p, payloads p (s :: arrivals) = payloads p [s] ++ payloads p arrivals := by
      intro p
      simp only [payloads, ← List.map_append, ← List.filter_append, List.singleton_append]
    have hlater : ∀ s' ∈ arrivals,
        s'.origin.counter.toNat ∉ s.origin.counter.toNat :: accepted := by
      intro s' hs' hmem
      rcases List.mem_cons.mp hmem with heq | hmem
      · exact hfirst (List.mem_map.mpr ⟨s', hs', heq⟩)
      · exact hnew s' (by simp [hs']) hmem
    rcases push_genuine hideal hready hs (hpos _ hs) hrecord haad (hnew s (by simp)) with
      ⟨hin, hready', hinbound⟩ | ⟨hout, hinbound⟩
    · have hih := ih (e.push aead s) _ hready' (fun s' hs' => hall s' (by simp [hs'])) hnodup
        hlater
      simp only [hinbound, List.append_assoc, ← hsplit] at hih
      rw [run_cons, hih, WithinWindow, WithinWindow, List.pairwise_cons]
      simp only [List.forall_mem_cons, forall_and]
      tauto
    · -- a refused record is missing from its stream for good
      refine iff_of_false (fun hfull => ?_) fun hwin => hout (hwin.1 s (by simp))
      have hle := @length_inbound_run_le aead arrivals s.plane (e.push aead s)
      rw [hinbound] at hle
      have hlen := congrArg List.length (hfull s.plane)
      rw [run_cons, List.length_append] at hlen
      simp only [payloads, List.filter_cons, decide_true, if_true, List.map_cons,
        List.length_cons] at hlen hle
      omega

end ReceivingEnd

/-! ## Both ends -/

/-- An order-preserving merge of the two planes is a rearrangement of what was sent. -/
lemma perm_of_merge {arrivals sent : List SentRecord}
    (h : ∀ p : Plane, arrivals.filter (·.plane = p) = sent.filter (·.plane = p)) :
    arrivals.Perm sent := by
  have hsplit : ∀ l : List SentRecord,
      (l.filter (·.plane = .data) ++ l.filter (·.plane = .control)).Perm l := by
    intro l
    have hnot : l.filter (·.plane = .control) = l.filter fun s => !decide (s.plane = .data) := by
      refine List.filter_congr fun s _ => ?_
      cases s.plane <;> rfl
    rw [hnot]
    exact List.filter_append_perm _ l
  refine (hsplit arrivals).symm.trans ?_
  rw [h, h]
  exact hsplit sent

/-- What a merge delivers, for a sending end in any state and a receiver that has the matching
key and has received nothing yet. -/
lemma inbound_merge_iff {aead : AEAD} {sender receiver : KeySet} {e : SendingEnd}
    (hinv : e.Inv aead sender) (hkey : receiver.receiveKey = sender.sendKey)
    (hempty : receiver.replay = ReplayCache.empty)
    (hideal : aead.Ideal (e.log.map (·.query sender))) {arrivals : List SentRecord}
    (hmerge : ∀ p : Plane, arrivals.filter (·.plane = p) = e.sent.filter (·.plane = p)) :
    (∀ p, ((run (ReceivingEnd.push aead) (ReceivingEnd.init receiver) arrivals).conns p).inbound
        = payloads p e.sent) ↔ WithinWindow arrivals := by
  have hperm := perm_of_merge hmerge
  have hready : (ReceivingEnd.init receiver).Ready sender [] := by
    refine ⟨hkey, ?_, fun p => ⟨rfl, rfl⟩⟩
    show receiver.replay.HasAccepted sender.sendPrefix []
    rw [hempty]
    exact ReplayCache.hasAccepted_empty _
  have hmain := ReceivingEnd.inbound_run_iff hideal (fun r hr => hinv.counter_pos hr) arrivals
    (ReceivingEnd.init receiver) [] hready
    (fun s hs => ⟨hinv.sublist.subset (List.mem_map_of_mem (hperm.mem_iff.mp hs)),
      hinv.genuine s (hperm.mem_iff.mp hs)⟩)
    ((hperm.map _).nodup_iff.mpr hinv.sent_nodup) (by simp)
  have hpayloads : ∀ p, payloads p arrivals = payloads p e.sent := by
    intro p
    rw [payloads, hmerge, payloads]
  simpa [hpayloads, ReceivingEnd.init, Conn.new] using hmain

/-- **When two planes may share a key set.**  Each plane delivers its own records once and in order,
and the two are merged in any way. -/
theorem planes_lossless_iff {aead : AEAD} {clientKey serverKey : Key} {role : Role}
    {seed seed' : NoncePrefix} {sender receiver : KeySet}
    (hsender : newKeySetForRole clientKey serverKey role seed = .ok sender)
    (hreceiver : newKeySetForRole clientKey serverKey role.opposite seed' = .ok receiver)
    (calls : List WriteCall)
    (hideal : aead.Ideal ((run (SendingEnd.write aead) (SendingEnd.init sender) calls).log.map
      (·.query sender)))
    (arrivals : List SentRecord)
    (hmerge : ∀ p : Plane, arrivals.filter (·.plane = p)
      = (run (SendingEnd.write aead) (SendingEnd.init sender) calls).sent.filter (·.plane = p)) :
    (∀ p, ((run (ReceivingEnd.push aead) (ReceivingEnd.init receiver) arrivals).conns p).inbound
        = payloads p (run (SendingEnd.write aead) (SendingEnd.init sender) calls).sent) ↔
      WithinWindow arrivals := by
  obtain ⟨hroles, -, hcounter, -⟩ := newKeySetForRole_eq hsender
  obtain ⟨hroles', -, -, hempty⟩ := newKeySetForRole_eq hreceiver
  exact inbound_merge_iff (SendingEnd.inv_run hcounter calls) (roleKeys_opposite hroles hroles')
    hempty hideal hmerge

/-- A control record that arrives after one data record sealed behind it is accepted. -/
theorem planes_lossless_iff_swapped :
    let clientKey : Key := List.Vector.replicate 32 1
    let serverKey : Key := List.Vector.replicate 32 2
    let seed : NoncePrefix := List.Vector.replicate 16 9
    let sender : KeySet := ⟨clientKey, seed, 0, serverKey, ReplayCache.empty⟩
    let receiver : KeySet := ⟨serverKey, seed, 0, clientKey, ReplayCache.empty⟩
    let calls : List WriteCall :=
      [⟨.control, [7], [(false, true)], true⟩, ⟨.data, [5], [(false, false), (false, true)], true⟩]
    let log : List SealedRecord := [⟨1, [7], controlRecordAAD⟩, ⟨2, [5], dataRecordAAD⟩]
    let aead := AEAD.ofLedger (log.map (·.query sender))
    let e := run (SendingEnd.write aead) (SendingEnd.init sender) calls
    ∀ p, ((run (ReceivingEnd.push aead) (ReceivingEnd.init receiver)
      e.sent.reverse).conns p).inbound = payloads p e.sent := by
  intro clientKey serverKey seed sender receiver calls log aead e
  have hlog : e.log = log := rfl
  refine (@planes_lossless_iff aead clientKey serverKey .client seed seed sender receiver rfl rfl
    calls (hlog ▸ AEAD.ideal_ofLedger _) e.sent.reverse ?_).mpr ?_
  · intro p
    cases p <;> rfl
  · decide

/-- One control record is written, then 64 data records, and the control plane is the slower one:
the control record is taken for a replay, and the control stream loses it. -/
theorem planes_lossy_controlLags :
    let clientKey : Key := List.Vector.replicate 32 1
    let serverKey : Key := List.Vector.replicate 32 2
    let seed : NoncePrefix := List.Vector.replicate 16 9
    let sender : KeySet := ⟨clientKey, seed, 0, serverKey, ReplayCache.empty⟩
    let receiver : KeySet := ⟨serverKey, seed, 0, clientKey, ReplayCache.empty⟩
    let calls : List WriteCall := ⟨.control, [7], [(false, true)], true⟩
      :: List.replicate 64 ⟨.data, [5], [(false, true)], true⟩
    let log : List SealedRecord := ⟨1, [7], controlRecordAAD⟩
      :: (List.range' 2 64).map fun n => ⟨BitVec.ofNat 64 n, [5], dataRecordAAD⟩
    let aead := AEAD.ofLedger (log.map (·.query sender))
    let e := run (SendingEnd.write aead) (SendingEnd.init sender) calls
    let arrivals := e.sent.filter (·.plane = .data) ++ e.sent.filter (·.plane = .control)
    newKeySetForRole clientKey serverKey .client seed = .ok sender ∧
      newKeySetForRole clientKey serverKey .server seed = .ok receiver ∧
      aead.Ideal (e.log.map (·.query sender)) ∧
      (∀ p : Plane, arrivals.filter (·.plane = p) = e.sent.filter (·.plane = p)) ∧
      ¬ ∀ p, ((run (ReceivingEnd.push aead) (ReceivingEnd.init receiver) arrivals).conns p).inbound
        = payloads p e.sent := by
  intro clientKey serverKey seed sender receiver calls log aead e arrivals
  have hlog : e.log = log := by decide +kernel
  have hideal : aead.Ideal (e.log.map (·.query sender)) := hlog ▸ AEAD.ideal_ofLedger _
  have hmerge : ∀ p : Plane, arrivals.filter (·.plane = p) = e.sent.filter (·.plane = p) := by
    intro p
    cases p <;> simp +contextual [arrivals, List.filter_append, List.filter_filter]
  refine ⟨rfl, rfl, hideal, hmerge, fun hfull => ?_⟩
  have hwin := (inbound_merge_iff (SendingEnd.inv_run rfl calls) rfl rfl hideal hmerge).mp hfull
  have horder : arrivals.map (fun s => s.origin.counter.toNat) = List.range' 2 64 ++ [1] := by
    decide +kernel
  have hpair : (arrivals.map fun s => s.origin.counter.toNat).Pairwise
      fun a b => a < b + replayWindowSize := List.pairwise_map.mpr hwin
  rw [horder] at hpair
  exact absurd hpair (by decide)

end OlcRtc
