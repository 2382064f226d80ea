import OlcRtc.Lib.Text

/-!
# Profiles the service can connect

A `ProfileReference` names a stored profile.  The user's wish to be connected survives the service
as a `VpnIntent`.  `ProfileFailover` walks an ordered list of references: a profile gets a number of
attempts, then the next one is tried, until the list has been passed once.

The walk begins at the profile that is active and ends at the end of the list.  **`full_pass_iff`**:
every profile gets its two attempts if and only if the walk begins at the head.
-/

namespace OlcRtc.Vpn

/-! ## References -/

/-- `ProfileReference`. -/
inductive ProfileReference
  | local (value : ℤ)
  | subscription (value : Text)
deriving DecidableEq, Repr

namespace ProfileReference

def displayId : ProfileReference → Text
  | .local value => decimalInt value
  | .subscription value => value

def sessionId : ProfileReference → Text
  | .local value => "local:".toList ++ decimalInt value
  | .subscription value => "subscription:".toList ++ value

/-- `parseProfileReference`. -/
def parse (t : CharTables) (sessionId : Text) : Option ProfileReference :=
  if "local:".toList.isPrefixOf sessionId then
    (Text.toLongOrNull t (Text.dropIfPrefixed "local:".toList sessionId)).map .local
  else if "subscription:".toList.isPrefixOf sessionId then
    some (.subscription (Text.dropIfPrefixed "subscription:".toList sessionId))
  else none

end ProfileReference

/-! ## What the user wants -/

/-- `RoutingSettings.VpnIntent`. -/
structure VpnIntent where
  desiredConnected : Bool := false
  localProfileId : Option ℤ := none
  subscriptionProfileId : Option Text := none
deriving DecidableEq, Repr

namespace VpnIntent

/-- `getVpnIntent`: the intent as it is read from what is stored. -/
def get (stored : VpnIntent) : VpnIntent :=
  let localProfileId := stored.localProfileId.filter (0 < ·)
  { desiredConnected := stored.desiredConnected
    localProfileId := localProfileId
    subscriptionProfileId :=
      if localProfileId = none then stored.subscriptionProfileId.filter (!Text.isBlank ·)
      else none }

def persistedProfileReference (intent : VpnIntent) : Option ProfileReference :=
  match intent.localProfileId with
  | some value => some (.local value)
  | none => intent.subscriptionProfileId.map .subscription

/-- The intent that `persistVpnIntent` stores. -/
def of (desiredConnected : Bool) : Option ProfileReference → VpnIntent
  | some (.local value) => { desiredConnected := desiredConnected, localProfileId := some value }
  | some (.subscription value) =>
    { desiredConnected := desiredConnected, subscriptionProfileId := some value }
  | none => { desiredConnected := desiredConnected }

end VpnIntent

/-! ## The walk over the profiles -/

namespace ProfileFailover

def maxAttemptsPerProfile : ℕ := 2

def maxCycles : ℕ := 1

/-- `FailoverState`. -/
structure FailoverState where
  order : List Text := []
  index : ℕ := 0
  attemptsOnCurrent : ℕ := 0
  cycles : ℕ := 0
deriving DecidableEq, Repr

def FailoverState.current (state : FailoverState) : Option Text := state.order[state.index]?

/-- `start`: the position of the reference, or the first one. -/
def start (order : List Text) (startReference : Text) : FailoverState :=
  { order := order, index := if startReference ∈ order then order.idxOf startReference else 0 }

/-- `onFailure`: the walk after a failure, and the reference to try next. -/
def onFailure (state : FailoverState) (failedReference : Text) : FailoverState × Option Text :=
  if state.order = [] then (state, none)
  else
    let updated :=
      if state.current ≠ some failedReference then start state.order failedReference else state
    let updated := { updated with attemptsOnCurrent := updated.attemptsOnCurrent + 1 }
    if updated.attemptsOnCurrent < maxAttemptsPerProfile then (updated, updated.current)
    else if updated.order.length ≤ updated.index + 1 then
      if maxCycles ≤ updated.cycles + 1 then ({ updated with attemptsOnCurrent := 0 }, none)
      else ({ order := updated.order, index := 0, cycles := updated.cycles + 1 },
        updated.order.head?)
    else
      ({ updated with index := updated.index + 1, attemptsOnCurrent := 0 },
        updated.order[updated.index + 1]?)

/-- `onSuccess`: the walk ends. -/
def onSuccess : FailoverState := {}

/-- The references that fail one after the other, when every attempt does, until `onFailure` reports
that the walk is exhausted.  `none` is a walk that is not, after that many failures. -/
def failures : ℕ → FailoverState → Text → Option (List Text)
  | 0, _, _ => none
  | fuel + 1, state, reference =>
    match onFailure state reference with
    | (_, none) => some [reference]
    | (updated, some next) => (failures fuel updated next).map (reference :: ·)

lemma onFailure_order (state : FailoverState) (reference : Text) :
    (onFailure state reference).1.order = state.order := by
  grind [onFailure, start]

lemma mem_of_onFailure {state : FailoverState} {reference next : Text}
    (h : (onFailure state reference).2 = some next) : next ∈ state.order := by
  have hget (i : ℕ) : state.order[i]? = some next → next ∈ state.order := List.mem_of_getElem?
  have hhead : state.order.head? = some next → next ∈ state.order := List.mem_of_head?
  grind [onFailure, FailoverState.current, start]

section Walk

variable {order : List Text} {index : ℕ} {reference : Text}

lemma onFailure_first (h : order[index]? = some reference) :
    onFailure ⟨order, index, 0, 0⟩ reference = (⟨order, index, 1, 0⟩, some reference) := by
  have hne : order ≠ [] := by
    rintro rfl
    cases h
  simp [onFailure, hne, FailoverState.current, h, maxAttemptsPerProfile]

lemma onFailure_second (h : order[index]? = some reference) :
    onFailure ⟨order, index, 1, 0⟩ reference =
      if order.length ≤ index + 1 then (⟨order, index, 0, 0⟩, none)
      else (⟨order, index + 1, 0, 0⟩, order[index + 1]?) := by
  have hne : order ≠ [] := by
    rintro rfl
    cases h
  simp [onFailure, hne, FailoverState.current, h, maxAttemptsPerProfile, maxCycles]

/-- **The rest of the list is walked, two attempts for each profile.** -/
lemma failures_drop (h : order[index]? = some reference) (fuel : ℕ)
    (hfuel : 2 * (order.length - index) ≤ fuel) : failures fuel ⟨order, index, 0, 0⟩ reference =
      some ((order.drop index).flatMap fun r => [r, r]) := by
  induction hk : order.length - index generalizing index reference fuel with
  | zero => grind
  | succ k ih =>
    obtain ⟨hlt, rfl⟩ := List.getElem?_eq_some_iff.1 h
    obtain ⟨fuel, rfl⟩ : ∃ n, fuel = n + 2 := ⟨fuel - 2, by omega⟩
    rw [failures, onFailure_first h]
    dsimp only
    rw [failures, onFailure_second h, List.drop_eq_getElem_cons hlt, List.flatMap_cons]
    by_cases hlast : order.length ≤ index + 1
    · simp [hlast, List.drop_of_length_le hlast]
    · have hnext : order[index + 1]? = some order[index + 1] := List.getElem?_eq_getElem (by omega)
      rw [if_neg hlast, hnext]
      dsimp only
      rw [ih hnext fuel (by omega) (by omega)]
      rfl

end Walk

/-- **Failover makes a full pass if and only if it starts at the head of the list.**  Whatever the
start, the walk is exhausted after two failures each of the profiles from there on. -/
theorem full_pass_iff (order : List Text) (startReference : Text) (hmem : startReference ∈ order)
    (hnodup : order.Nodup) : ∃ tried,
    failures (2 * order.length) (start order startReference) startReference = some tried ∧
    tried = (order.drop (order.idxOf startReference)).flatMap (fun r => [r, r]) ∧
    ((∀ r ∈ order, r ∈ tried) ↔ order.head? = some startReference) := by
  have hlt := List.idxOf_lt_length_iff.2 hmem
  have hget : order[order.idxOf startReference]? = some startReference := by
    rw [List.getElem?_eq_getElem hlt, List.getElem_idxOf]
  refine ⟨_, ?_, rfl, ?_⟩
  · rw [start, if_pos hmem]
    exact failures_drop hget _ (by omega)
  · cases order with
    | nil => cases hmem
    | cons head rest =>
      obtain ⟨hhead, -⟩ := List.nodup_cons.1 hnodup
      have htried : ∀ r, r ∈ ((head :: rest).drop ((head :: rest).idxOf startReference)).flatMap
          (fun r => [r, r]) ↔ r ∈ (head :: rest).drop ((head :: rest).idxOf startReference) := by
        simp
      simp only [htried, List.head?_cons, Option.some.injEq]
      constructor
      · intro hall
        by_contra hne
        -- the head is not in the part that is walked
        rw [List.idxOf_cons_ne _ hne, List.drop_succ_cons] at hall
        exact hhead (List.mem_of_mem_drop (hall head List.mem_cons_self))
      · rintro rfl r hr
        simpa using hr

/-- A list of two, from its head. -/
theorem full_pass_two : ∃ tried,
    failures 4 (start ["local:1".toList, "local:2".toList] "local:1".toList) "local:1".toList =
      some tried ∧ "local:2".toList ∈ tried := by
  obtain ⟨tried, hfailures, -, hall⟩ := full_pass_iff ["local:1".toList, "local:2".toList]
    "local:1".toList (by decide) (by decide)
  exact ⟨tried, hfailures, hall.2 rfl _ (by decide)⟩

/-- From the second of two profiles, the first is not tried. -/
theorem head_never_tried :
    failures 4 (start ["local:1".toList, "local:2".toList] "local:2".toList) "local:2".toList =
      some ["local:2".toList, "local:2".toList] := by
  decide

end ProfileFailover

end OlcRtc.Vpn
