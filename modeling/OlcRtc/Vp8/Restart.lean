import OlcRtc.Lib.Steps
import OlcRtc.Vp8.Transport

/-!
# Restarting both planes

`restartPlanes` runs when the provider reconnects and when the layer above resets the peer, and the
two can run at the same time.  It forgets the peer, rotates the local epoch, restarts the data plane
with the header of the new epoch, reads the epoch again and restarts the control plane with it.
Each of these is a lock region of its own: the epoch is rotated under `epochMu` and each plane is
swapped under its own `lifecycleMu`, with a header that was computed before the lock was taken.

So a plane ends up with the header of the call that restarted it last, which need not be the call
that rotated last.  Every epoch gets a version, its place in the history of the local epoch, and
`dataVersion` and `controlVersion` record which one the installed runtimes were started with.
**`restartPlanes_consistent_iff`** says that the installed headers agree with the local epoch if
their versions are the latest, and only then as long as no epoch is drawn twice; and that the
versions are, between two calls, if the calls take turns.
`restartPlanes_overtaken` is a run of two calls after which the data runtime stamps an epoch that
the transport no longer answers to.
-/

namespace OlcRtc

namespace StreamTransport

/-- `rotateEpochHeader`: random epochs are drawn until one is new.  `none` is the loop still
drawing. -/
def rotateEpochHeader (t : StreamTransport) (draws : List UInt32) :
    Option (StreamTransport × EpochHeader) :=
  match (draws.map randomEpoch).find? (· ≠ t.localEpoch) with
  | none => none
  | some next => some ({ t with localEpoch := next }, ⟨t.bindingToken, next, 0⟩)

def forgetConfirmed (t : StreamTransport) : StreamTransport := { t with peerConfirmed := false }

def forgetEpoch (t : StreamTransport) : StreamTransport := { t with peerEpoch := 0 }

/-- `p.data.restart`. -/
def restartData (t : StreamTransport) (hdr : EpochHeader) : StreamTransport :=
  { t with data := some hdr }

/-- `p.control.restart`. -/
def restartControl (t : StreamTransport) (hdr : EpochHeader) : StreamTransport :=
  { t with control := some hdr }

lemma rotateEpochHeader_spec {t t' : StreamTransport} {draws : List UInt32} {hdr : EpochHeader}
    (h : t.rotateEpochHeader draws = some (t', hdr)) :
    t' = { t with localEpoch := hdr.src } ∧ hdr = ⟨t.bindingToken, hdr.src, 0⟩ ∧
      hdr.src ≠ t.localEpoch ∧ DataEpoch hdr.src := by
  unfold rotateEpochHeader at h
  split at h
  · simp at h
  · next next hnext =>
      simp only [Option.some.injEq, Prod.mk.injEq] at h
      obtain ⟨rfl, rfl⟩ := h
      have hne := List.find?_some hnext
      obtain ⟨draw, -, hdraw⟩ := List.mem_map.mp (List.mem_of_find?_eq_some hnext)
      refine ⟨rfl, rfl, by simpa using hne, ?_⟩
      rw [← hdraw]
      exact dataEpoch_randomEpoch draw

end StreamTransport

/-! ## Concurrent calls -/

/-- Where a call of `restartPlanes` is: what it does next, with the header it has computed and the
version of the epoch in it. -/
inductive RestartPc
  | forgetConfirmed
  | forgetEpoch
  | rotate
  | restartData (hdr : EpochHeader) (version : ℕ)
  | readControl
  | restartControl (hdr : EpochHeader) (version : ℕ)
  | done
  deriving DecidableEq

/-- The transport, the calls of `restartPlanes` so far, the history of the local epoch, oldest
first, and the versions of the installed headers. -/
structure Recovery where
  transport : StreamTransport
  calls : List RestartPc
  epochs : List UInt32
  dataVersion : ℕ
  controlVersion : ℕ

/-- A call begins, or a call takes its next step, with the random epochs it draws if it needs
any. -/
inductive RecoveryEvent
  | call
  | advance (k : ℕ) (draws : List UInt32)

def RestartPc.returned : RestartPc → Bool
  | .done => true
  | _ => false

/-- The call has rotated the epoch and has yet to restart the planes. -/
def RestartPc.rotated : RestartPc → Bool
  | .restartData _ _ | .readControl | .restartControl _ _ => true
  | _ => false

namespace Recovery

/-- After `Connect`. -/
def init (serverMode : Bool) (token draw : UInt32) : Recovery where
  transport := (StreamTransport.new serverMode token draw).connect
  calls := []
  epochs := [randomEpoch draw]
  dataVersion := 0
  controlVersion := 0

def version (s : Recovery) : ℕ := s.epochs.length - 1

def goto (s : Recovery) (k : ℕ) (pc : RestartPc) : Recovery := { s with calls := s.calls.set k pc }

/-- The next step of call `k`. -/
def advance (s : Recovery) (k : ℕ) (draws : List UInt32) : RestartPc → Recovery
  | .forgetConfirmed =>
    { s with transport := s.transport.forgetConfirmed }.goto k .forgetEpoch
  | .forgetEpoch => { s with transport := s.transport.forgetEpoch }.goto k .rotate
  | .rotate =>
    match s.transport.rotateEpochHeader draws with
    | none => s
    | some (t, hdr) =>
      { s with transport := t, epochs := s.epochs ++ [hdr.src] }.goto k
        (.restartData hdr s.epochs.length)
  | .restartData hdr version =>
    { s with transport := s.transport.restartData hdr, dataVersion := version }.goto k
      .readControl
  | .readControl => s.goto k (.restartControl s.transport.controlEpochHeader s.version)
  | .restartControl hdr version =>
    { s with transport := s.transport.restartControl hdr, controlVersion := version }.goto k
      .done
  | .done => s

def step (s : Recovery) : RecoveryEvent → Recovery
  | .call => { s with calls := s.calls ++ [.forgetConfirmed] }
  | .advance k draws =>
    match s.calls[k]? with
    | none => s
    | some pc => s.advance k draws pc

/-- The runtimes stamp the current epoch, and the transport accepts what is addressed to it. -/
def Consistent (s : Recovery) : Prop :=
  (∃ hdr, s.transport.data = some hdr ∧ hdr.src = s.transport.localEpoch ∧
    s.transport.acceptsDst hdr.src = true) ∧
  ∃ hdr, s.transport.control = some hdr ∧
    hdr.src = s.transport.localEpoch ||| controlEpochFlag ∧
    s.transport.acceptsDst hdr.src = true

/-- The data header is of the latest epoch, and the control header was read from it. -/
def Current (s : Recovery) : Prop := s.dataVersion = s.version ∧ s.controlVersion = s.version

/-- No call rotates the epoch while another one has yet to restart the planes. -/
def InTurn (s : Recovery) : RecoveryEvent → Prop
  | .call => True
  | .advance k _ => s.calls[k]? = some .rotate → ∀ pc ∈ s.calls, pc.rotated = false

instance (s : Recovery) : DecidablePred s.InTurn
  | .call => inferInstanceAs (Decidable True)
  | .advance k _ => inferInstanceAs (Decidable (s.calls[k]? = some .rotate → ∀ pc ∈ s.calls, _))

end Recovery

/-! ## The versions tell the epochs -/

/-- The header has epoch `version` of the history as its source, with the control flag or
without. -/
def DataHeader (epochs : List UInt32) (hdr : EpochHeader) (version : ℕ) : Prop :=
  epochs[version]? = some hdr.src

def ControlHeader (epochs : List UInt32) (hdr : EpochHeader) (version : ℕ) : Prop :=
  ∃ e, epochs[version]? = some e ∧ hdr.src = e ||| controlEpochFlag

lemma getElem?_append_of_some {epochs : List UInt32} {version : ℕ} {e : UInt32}
    (h : epochs[version]? = some e) (next : UInt32) : (epochs ++ [next])[version]? = some e := by
  rw [List.getElem?_append_left (List.getElem?_eq_some_iff.mp h).1, h]

/-- What a waiting call has computed. -/
def RestartPc.Ok (epochs : List UInt32) : RestartPc → Prop
  | .restartData hdr version => DataHeader epochs hdr version
  | .restartControl hdr version => ControlHeader epochs hdr version
  | _ => True

lemma RestartPc.Ok.append {epochs : List UInt32} {pc : RestartPc} (h : pc.Ok epochs)
    (next : UInt32) : pc.Ok (epochs ++ [next]) := by
  cases pc with
  | restartData hdr version => exact getElem?_append_of_some h next
  | restartControl hdr version =>
    obtain ⟨e, he, hsrc⟩ := h
    exact ⟨e, getElem?_append_of_some he next, hsrc⟩
  | _ => trivial

namespace Recovery

structure Inv (s : Recovery) : Prop where
  current : s.epochs[s.version]? = some s.transport.localEpoch
  epochs : ∀ e ∈ s.epochs, DataEpoch e
  data : ∃ hdr, s.transport.data = some hdr ∧ DataHeader s.epochs hdr s.dataVersion
  control : ∃ hdr, s.transport.control = some hdr ∧ ControlHeader s.epochs hdr s.controlVersion
  calls : ∀ pc ∈ s.calls, pc.Ok s.epochs

lemma inv_init (serverMode : Bool) (token draw : UInt32) : (init serverMode token draw).Inv where
  current := rfl
  epochs e he := by
    rw [List.mem_singleton.mp he]
    exact dataEpoch_randomEpoch draw
  data := ⟨_, rfl, rfl⟩
  control := ⟨_, rfl, _, rfl, rfl⟩
  calls := by simp [init]

variable {s : Recovery} {k : ℕ}

lemma Inv.goto (h : s.Inv) (pc : RestartPc) (hpc : pc.Ok s.epochs) : (s.goto k pc).Inv where
  current := h.current
  epochs := h.epochs
  data := h.data
  control := h.control
  calls pc' hpc' := by
    rcases List.mem_or_eq_of_mem_set hpc' with hmem | rfl
    · exact h.calls pc' hmem
    · exact hpc

lemma Inv.rotate (h : s.Inv) {next : UInt32} (hnext : DataEpoch next) :
    Inv { s with
      transport := { s.transport with localEpoch := next }
      epochs := s.epochs ++ [next] } where
  current := by simp [version]
  epochs e he := by
    rcases List.mem_append.mp he with he | he
    · exact h.epochs e he
    · rwa [List.mem_singleton.mp he]
  data := by
    obtain ⟨hdr, hdata, hversion⟩ := h.data
    exact ⟨hdr, hdata, getElem?_append_of_some hversion next⟩
  control := by
    obtain ⟨hdr, hcontrol, e, he, hsrc⟩ := h.control
    exact ⟨hdr, hcontrol, e, getElem?_append_of_some he next, hsrc⟩
  calls pc hpc := (h.calls pc hpc).append next

lemma Inv.advance (h : s.Inv) (draws : List UInt32) {pc : RestartPc} (hpc : pc.Ok s.epochs) :
    (s.advance k draws pc).Inv := by
  cases pc with
  | forgetConfirmed =>
    have hnew : Inv { s with transport := s.transport.forgetConfirmed } :=
      ⟨h.current, h.epochs, h.data, h.control, h.calls⟩
    exact hnew.goto .forgetEpoch trivial
  | forgetEpoch =>
    have hnew : Inv { s with transport := s.transport.forgetEpoch } :=
      ⟨h.current, h.epochs, h.data, h.control, h.calls⟩
    exact hnew.goto .rotate trivial
  | rotate =>
    simp only [Recovery.advance]
    split
    · exact h
    · next t hdr hrotate =>
        obtain ⟨rfl, -, -, hepoch⟩ := StreamTransport.rotateEpochHeader_spec hrotate
        exact (h.rotate hepoch).goto _ (by simp [RestartPc.Ok, DataHeader])
  | restartData hdr version =>
    have hnew : Inv { s with
        transport := s.transport.restartData hdr
        dataVersion := version } :=
      ⟨h.current, h.epochs, ⟨hdr, rfl, hpc⟩, h.control, h.calls⟩
    exact hnew.goto .readControl trivial
  | readControl => exact h.goto _ ⟨s.transport.localEpoch, h.current, rfl⟩
  | restartControl hdr version =>
    have hnew : Inv { s with
        transport := s.transport.restartControl hdr
        controlVersion := version } :=
      ⟨h.current, h.epochs, h.data, ⟨hdr, rfl, hpc⟩, h.calls⟩
    exact hnew.goto .done trivial
  | done => exact h

lemma Inv.step (h : s.Inv) (e : RecoveryEvent) : (s.step e).Inv := by
  cases e with
  | call =>
    refine ⟨h.current, h.epochs, h.data, h.control, fun pc hpc => ?_⟩
    rcases List.mem_append.mp hpc with hpc | hpc
    · exact h.calls pc hpc
    · rw [List.mem_singleton.mp hpc]
      trivial
  | advance k draws =>
    simp only [Recovery.step]
    split
    · exact h
    · next pc hpc => exact h.advance draws (h.calls pc (List.mem_of_getElem? hpc))

lemma eq_version_of_nodup {epochs : List UInt32} (hnodup : epochs.Nodup) {i j : ℕ} {e : UInt32}
    (hi : epochs[i]? = some e) (hj : epochs[j]? = some e) : i = j := by
  obtain ⟨hilt, hie⟩ := List.getElem?_eq_some_iff.mp hi
  obtain ⟨hjlt, hje⟩ := List.getElem?_eq_some_iff.mp hj
  exact (List.Nodup.getElem_inj_iff hnodup).mp (hie.trans hje.symm)

lemma or_controlEpochFlag_inj {a b : UInt32} (ha : DataEpoch a) (hb : DataEpoch b)
    (h : a ||| controlEpochFlag = b ||| controlEpochFlag) : a = b := by
  have hnat := congrArg UInt32.toNat h
  rw [toNat_or_controlEpochFlag ha.lt, toNat_or_controlEpochFlag hb.lt] at hnat
  exact UInt32.toNat_inj.mp (by omega)

lemma Inv.consistent_of_current (h : s.Inv) (hcurrent : s.Current) : s.Consistent := by
  obtain ⟨hd, hdata, hdataVersion⟩ := h.data
  obtain ⟨hc, hcontrol, e, he, hsrc⟩ := h.control
  rw [DataHeader, hcurrent.1, h.current, Option.some.injEq] at hdataVersion
  rw [hcurrent.2, h.current, Option.some.injEq] at he
  subst he
  exact ⟨⟨hd, hdata, hdataVersion.symm, by simp [StreamTransport.acceptsDst, ← hdataVersion]⟩,
    ⟨hc, hcontrol, hsrc, by simp [StreamTransport.acceptsDst, hsrc]⟩⟩

lemma Inv.current_of_consistent (h : s.Inv) (hnodup : s.epochs.Nodup)
    (hconsistent : s.Consistent) : s.Current := by
  obtain ⟨⟨hd, hdata, hdsrc, -⟩, hc, hcontrol, hcsrc, -⟩ := hconsistent
  obtain ⟨hd', hdata', hdataVersion⟩ := h.data
  obtain ⟨hc', hcontrol', e, he, hsrc⟩ := h.control
  obtain rfl : hd = hd' := Option.some.inj (hdata.symm.trans hdata')
  obtain rfl : hc = hc' := Option.some.inj (hcontrol.symm.trans hcontrol')
  have hcurrent := h.current
  rw [DataHeader, hdsrc] at hdataVersion
  have hepoch : e = s.transport.localEpoch :=
    or_controlEpochFlag_inj (h.epochs e (List.mem_of_getElem? he))
      (h.epochs _ (List.mem_of_getElem? hcurrent)) (hsrc.symm.trans hcsrc)
  rw [hepoch] at he
  exact ⟨eq_version_of_nodup hnodup hdataVersion hcurrent, eq_version_of_nodup hnodup he hcurrent⟩

/-! ## Calls that take turns -/

/-- The planes are of the latest epoch, or will be when the call has restarted them. -/
def Fresh (s : Recovery) : Option RestartPc → Prop
  | some (.restartData _ version) => version = s.version
  | some .readControl => s.dataVersion = s.version
  | some (.restartControl _ version) => s.dataVersion = s.version ∧ version = s.version
  | _ => s.Current

/-- No call but `k` is between its rotation and its last restart. -/
structure TurnOf (s : Recovery) (k : ℕ) : Prop where
  fresh : s.Fresh s.calls[k]?
  others : ∀ j pc, s.calls[j]? = some pc → pc.rotated = true → j = k

lemma fresh_of_not_rotated {pc : RestartPc} (hpc : pc.rotated = false) :
    s.Fresh (some pc) ↔ s.Current := by
  cases pc <;> first | rfl | cases hpc

lemma getElem?_goto {pc : RestartPc} (hpc : s.calls[k]? = some pc) (pc' : RestartPc) (j : ℕ) :
    (s.goto k pc').calls[j]? = if j = k then some pc' else s.calls[j]? := by
  grind [Recovery.goto]

lemma TurnOf.goto (h : s.TurnOf k) {pc : RestartPc} (hpc : s.calls[k]? = some pc) {s' : Recovery}
    (hcalls : s'.calls = s.calls) {pc' : RestartPc} (hfresh : s'.Fresh (some pc')) :
    (s'.goto k pc').TurnOf k := by
  rw [← hcalls] at hpc
  constructor
  · rw [getElem?_goto hpc, if_pos rfl]
    exact hfresh
  · intro j p hj hp
    rw [getElem?_goto hpc] at hj
    split at hj
    · assumption
    · exact h.others j p (hcalls ▸ hj) hp

lemma TurnOf.aside {i : ℕ} (h : s.TurnOf i) {pc pc' : RestartPc} (hpc : s.calls[k]? = some pc)
    (hnot : pc.rotated = false) (hnot' : pc'.rotated = false) : (s.goto k pc').TurnOf i := by
  constructor
  · rw [getElem?_goto hpc]
    split
    · next hik =>
      have hcurrent := h.fresh
      rw [hik, hpc, fresh_of_not_rotated hnot] at hcurrent
      exact (fresh_of_not_rotated hnot').mpr hcurrent
    · exact h.fresh
  · intro j p hj hp
    rw [getElem?_goto hpc] at hj
    split at hj
    · rw [← Option.some.inj hj, hnot'] at hp
      cases hp
    · exact h.others j p hj hp

lemma TurnOf.current {i : ℕ} (h : s.TurnOf i) (hnone : ∀ pc ∈ s.calls, pc.rotated = false) :
    s.Current := by
  have hfresh := h.fresh
  cases hpc : s.calls[i]? with
  | none => rwa [hpc] at hfresh
  | some pc => rwa [hpc, fresh_of_not_rotated (hnone pc (List.mem_of_getElem? hpc))] at hfresh

lemma TurnOf.of_rotated {i : ℕ} (h : s.TurnOf i) {pc : RestartPc} (hpc : s.calls[k]? = some pc)
    (hrotated : pc.rotated = true) : s.TurnOf k ∧ s.Fresh (some pc) := by
  obtain rfl := h.others k pc hpc hrotated
  exact ⟨h, hpc ▸ h.fresh⟩

lemma TurnOf.advance {i : ℕ} (h : s.TurnOf i) {pc : RestartPc} (hpc : s.calls[k]? = some pc)
    (draws : List UInt32) (hturn : s.InTurn (.advance k draws)) :
    ∃ j, (s.advance k draws pc).TurnOf j := by
  cases pc with
  | forgetConfirmed =>
    have hnew : TurnOf { s with transport := s.transport.forgetConfirmed } i := ⟨h.fresh, h.others⟩
    exact ⟨i, hnew.aside hpc rfl rfl⟩
  | forgetEpoch =>
    have hnew : TurnOf { s with transport := s.transport.forgetEpoch } i := ⟨h.fresh, h.others⟩
    exact ⟨i, hnew.aside hpc rfl rfl⟩
  | rotate =>
    simp only [Recovery.advance]
    split
    · exact ⟨i, h⟩
    · -- nobody else is on the way, so the turn goes over to this call
      have hnone := hturn hpc
      have hnew : s.TurnOf k := by
        refine ⟨by rw [hpc]; exact h.current hnone, fun j p hj hp => ?_⟩
        rw [hnone p (List.mem_of_getElem? hj)] at hp
        cases hp
      exact ⟨k, hnew.goto hpc (by rfl) (by simp [Fresh, version])⟩
  | restartData hdr version =>
    obtain ⟨hmine, hfresh⟩ := h.of_rotated hpc rfl
    exact ⟨k, hmine.goto hpc (by rfl) hfresh⟩
  | readControl =>
    obtain ⟨hmine, hfresh⟩ := h.of_rotated hpc rfl
    exact ⟨k, hmine.goto hpc (by rfl) ⟨hfresh, rfl⟩⟩
  | restartControl hdr version =>
    obtain ⟨hmine, hfresh⟩ := h.of_rotated hpc rfl
    exact ⟨k, hmine.goto hpc (by rfl) hfresh⟩
  | done => exact ⟨i, h⟩

lemma TurnOf.call {i : ℕ} (h : s.TurnOf i) : (s.step .call).TurnOf i := by
  have hcalls (j : ℕ) : (s.step .call).calls[j]? =
      if j = s.calls.length then some .forgetConfirmed else s.calls[j]? := by
    grind [Recovery.step]
  constructor
  · rw [hcalls]
    split
    · next hi =>
      have hcurrent := h.fresh
      rwa [hi, List.getElem?_eq_none le_rfl] at hcurrent
    · exact h.fresh
  · intro j p hj hp
    rw [hcalls] at hj
    split at hj
    · rw [← Option.some.inj hj] at hp
      cases hp
    · exact h.others j p hj hp

lemma TurnOf.step {i : ℕ} (h : s.TurnOf i) {e : RecoveryEvent} (hturn : s.InTurn e) :
    ∃ j, (s.step e).TurnOf j := by
  cases e with
  | call => exact ⟨i, h.call⟩
  | advance k draws =>
    simp only [Recovery.step]
    split
    · exact ⟨i, h⟩
    · next pc hpc => exact h.advance hpc draws hturn

/-- **When the headers agree with the epoch**, after any interleaving of any number of
`restartPlanes` calls. -/
theorem restartPlanes_consistent_iff (serverMode : Bool) (token draw : UInt32)
    (events : List RecoveryEvent) :
    let s := run step (init serverMode token draw) events
    (s.Current → s.Consistent) ∧ (s.epochs.Nodup → (s.Consistent ↔ s.Current)) ∧
      (Along step InTurn (init serverMode token draw) events →
        (∀ pc ∈ s.calls, pc.rotated = false) → s.Current ∧ s.Consistent) := by
  intro s
  have hinv : s.Inv := run_invariant_of_step step (fun _ e h => h.step e)
    (inv_init serverMode token draw) events
  refine ⟨hinv.consistent_of_current, fun hnodup =>
    ⟨hinv.current_of_consistent hnodup, hinv.consistent_of_current⟩, fun hturn hnone => ?_⟩
  obtain ⟨i, hi⟩ : ∃ i, s.TurnOf i :=
    run_invariant (I := fun s => ∃ i, s.TurnOf i) step
      (fun _ _ h hturn => h.elim fun _ hi => hi.step hturn)
      ⟨0, ⟨rfl, rfl⟩, fun _ _ hj => by cases hj⟩ hturn
  have hcurrent := hi.current hnone
  exact ⟨hcurrent, hinv.consistent_of_current hcurrent⟩

/-- Two calls of which the first is overtaken between its rotation and its restart of the data
plane.  Both have returned, and the data runtime stamps epoch 2 while the local epoch is 3: what is
addressed to the stamped source is not accepted. -/
theorem restartPlanes_overtaken :
    let events : List RecoveryEvent :=
      [.call, .call, .advance 0 [], .advance 0 [], .advance 1 [], .advance 1 [],
        .advance 0 [2], .advance 1 [3], .advance 1 [], .advance 0 [], .advance 0 [], .advance 0 [],
        .advance 1 [], .advance 1 []]
    let s := run step (init false 7 1) events
    s.calls.all RestartPc.returned ∧ s.transport.localEpoch = 3 ∧
      s.transport.data = some ⟨7, 2, 0⟩ ∧ s.transport.acceptsDst 2 = false ∧ ¬ s.Consistent := by
  intro events s
  have hdata : s.transport.data = some ⟨7, 2, 0⟩ := by decide +kernel
  have hepoch : s.transport.localEpoch = 3 := by decide +kernel
  refine ⟨by decide +kernel, hepoch, hdata, by decide +kernel, ?_⟩
  rintro ⟨⟨hdr, hhdr, hsrc, -⟩, -⟩
  rw [hdata, Option.some.injEq] at hhdr
  rw [← hhdr, hepoch] at hsrc
  exact absurd hsrc (by decide)

/-- Two calls one after the other. -/
theorem restartPlanes_consistent_iff_sequential :
    let events : List RecoveryEvent :=
      [.call, .advance 0 [], .advance 0 [], .advance 0 [2], .advance 0 [], .advance 0 [],
        .advance 0 [], .call, .advance 1 [], .advance 1 [], .advance 1 [2, 3], .advance 1 [],
        .advance 1 [], .advance 1 []]
    let s := run step (init false 7 1) events
    s.transport.localEpoch = 3 ∧ Along step InTurn (init false 7 1) events ∧ s.Current ∧
      s.Consistent := by
  intro events s
  have hturn : Along step InTurn (init false 7 1) events := by decide +kernel
  exact ⟨by decide +kernel, hturn,
    (restartPlanes_consistent_iff false 7 1 events).2.2 hturn (by decide +kernel)⟩

end Recovery

end OlcRtc
