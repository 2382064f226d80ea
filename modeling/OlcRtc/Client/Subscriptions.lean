import Mathlib.Data.List.Find
import Mathlib.Data.List.Induction
import Mathlib.Data.List.Sort
import OlcRtc.Lib.Bytes
import OlcRtc.Lib.Checks
import OlcRtc.Lib.Table

/-!
# Profiles of a subscription

The client keeps the profiles of a subscription in a table with two constraints: the row ids are
distinct, and so are the pairs of group and identity hash.  A statement keeps to both or is refused.

A refresh brings a new list of profiles.  `replaceSubscriptionProfiles` looks for the row of each
of them: first by its identity, and if no row has it, for a locally modified row of the same type at
the same position.  Then rows are inserted, updated one by one, and deleted.

The second search is meant for a profile that got a new identity upstream, but it also finds a row
whose own identity comes later in the list.  **`reconciled_iff`** says that this is all that can go
wrong: a refresh keeps to the unique index, leaves every identity of the list in exactly one row,
and keeps what was modified locally, exactly if no row is displaced in this way.
**`refresh_violates_index`** is a profile put in front of a modified one.
-/

namespace OlcRtc.Client

/-- A row of the table `subscription_profiles`. -/
structure SubscriptionProfileEntity where
  id : String
  groupId : ℤ
  type : String
  name : String
  compatibilityMode : String
  encryptedConfigJson : Bytes
  encryptedUpstreamConfigJson : Option Bytes
  identityHash : String
  isLocallyModified : Bool
  favorite : Bool
  sortOrder : ℤ
  lastLatencyMs : Option ℤ
  lastCheckedAt : Option ℤ
  createdAt : ℤ
  updatedAt : ℤ
  isDeleted : Bool := false
deriving DecidableEq, Repr

namespace SubscriptionProfileEntity

/-- The columns of the unique index. -/
def key (r : SubscriptionProfileEntity) : ℤ × String := (r.groupId, r.identityHash)

end SubscriptionProfileEntity

open SubscriptionProfileEntity

/-- A row of the table `subscriptions`. -/
structure SubscriptionEntity where
  id : ℤ
  groupId : ℤ
  name : String
  kind : String
  encryptedUrl : Bytes
  serverVersion : Option String
  encryptedMirrorType : Option Bytes
  encryptedMirrorUrl : Option Bytes
  encryptedMirrorKey : Option Bytes
  lastSuccessAt : Option ℤ
  lastAttemptAt : Option ℤ
  lastErrorCode : Option String
  updateIntervalHours : ℤ
  etag : Option String
  lastModified : Option String
  enabled : Bool
deriving DecidableEq, Repr

/-! ## The tables -/

/-- The table `subscription_profiles`. -/
abbrev ProfileTable := Table SubscriptionProfileEntity.id key

/-- The table `subscriptions`, with one subscription for a group. -/
abbrev SubscriptionTable := Table SubscriptionEntity.id SubscriptionEntity.groupId

structure Database where
  profiles : ProfileTable
  subscriptions : SubscriptionTable

/-- `getProfiles`.  Rows with the same position come in the order the table has them, which is not
    specified. -/
def getProfiles (t : ProfileTable) (groupId : ℤ) : List SubscriptionProfileEntity :=
  (t.rows.filter (·.groupId = groupId)).insertionSort fun r r' => r.sortOrder ≤ r'.sortOrder

/-! ## A refresh -/

section Refresh

variable (existing : List SubscriptionProfileEntity) (groupId : ℤ)

/-- The row that an incoming profile is written to: the one with its identity, unless it is taken
    already, or the first locally modified one of its type and position that is not taken. -/
def currentRow (matchedIds : List String) (incoming : SubscriptionProfileEntity) :
    Option SubscriptionProfileEntity :=
  match (existing.reverse.find? (·.identityHash = incoming.identityHash)).filter
      (·.id ∉ matchedIds) with
  | some current => some current
  | none =>
    existing.find? fun candidate =>
      candidate.id ∉ matchedIds ∧ candidate.isLocallyModified ∧
        candidate.type = incoming.type ∧ candidate.sortOrder = incoming.sortOrder

def mergeRow (incoming : SubscriptionProfileEntity) :
    Option SubscriptionProfileEntity → SubscriptionProfileEntity
  | none => { incoming with groupId := groupId }
  | some current =>
    { incoming with
      id := current.id
      groupId := groupId
      name := if current.isLocallyModified then current.name else incoming.name
      encryptedConfigJson :=
        if current.isLocallyModified then current.encryptedConfigJson
        else incoming.encryptedConfigJson
      compatibilityMode := current.compatibilityMode
      isLocallyModified := current.isLocallyModified
      isDeleted := false
      favorite := current.favorite
      lastLatencyMs := current.lastLatencyMs
      lastCheckedAt := current.lastCheckedAt
      createdAt := current.createdAt }

def matchedNext (matchedIds : List String) (incoming : SubscriptionProfileEntity) : List String :=
  ((currentRow existing matchedIds incoming).map SubscriptionProfileEntity.id).toList ++ matchedIds

/-- The rows to be written, profile by profile, with the rows that are taken so far. -/
def reconcile (matchedIds : List String) :
    List SubscriptionProfileEntity → List SubscriptionProfileEntity
  | [] => []
  | incoming :: rest =>
    mergeRow groupId incoming (currentRow existing matchedIds incoming)
      :: reconcile (matchedNext existing matchedIds incoming) rest

def inserts (profiles : List SubscriptionProfileEntity) : List SubscriptionProfileEntity :=
  (reconcile existing groupId [] profiles).filter
    (·.id ∉ existing.map SubscriptionProfileEntity.id)

def changed (profiles : List SubscriptionProfileEntity) : List SubscriptionProfileEntity :=
  (reconcile existing groupId [] profiles).filter
    (·.id ∈ existing.map SubscriptionProfileEntity.id)

def deleted (profiles : List SubscriptionProfileEntity) : List String :=
  (existing.filter fun r =>
    !r.isLocallyModified && !r.isDeleted && r.identityHash ∉ profiles.map identityHash).map
      SubscriptionProfileEntity.id

end Refresh

def replaceSubscriptionProfiles (db : Database) (subscription : SubscriptionEntity)
    (profiles : List SubscriptionProfileEntity) : Except Violation Database := do
  let existing := getProfiles db.profiles subscription.groupId
  let inserted ← db.profiles.insertAll (inserts existing subscription.groupId profiles)
  let updated ← inserted.updateAll (changed existing subscription.groupId profiles)
  let subscriptions ← db.subscriptions.update subscription
  return ⟨updated.delete (deleted existing profiles), subscriptions⟩

/-! ## What a refresh is to do -/

/-- The refresh goes through, every identity of the list is then held by exactly one row of the
    group, and a locally modified row whose identity is in the list keeps its id, its name and its
    configuration under this identity. -/
def Reconciled (db : Database) (subscription : SubscriptionEntity)
    (profiles : List SubscriptionProfileEntity) : Prop :=
  ∃ db', replaceSubscriptionProfiles db subscription profiles = .ok db' ∧
    (∀ h ∈ profiles.map identityHash,
      ∃ r, db'.profiles.rows.filter (·.key = (subscription.groupId, h)) = [r]) ∧
    ∀ r ∈ db.profiles.rows, r.groupId = subscription.groupId → r.isLocallyModified = true →
      r.identityHash ∈ profiles.map identityHash →
      ∃ r' ∈ db'.profiles.rows, r'.id = r.id ∧ r'.key = r.key ∧ r'.name = r.name ∧
        r'.encryptedConfigJson = r.encryptedConfigJson ∧
        r'.compatibilityMode = r.compatibilityMode ∧ r'.isLocallyModified = true

section Displacement

variable (existing profiles : List SubscriptionProfileEntity)

/-- The first locally modified row of the type and position of an incoming profile, without the rows
    whose identity came earlier in the list. -/
def candidateRow (earlier : List SubscriptionProfileEntity)
    (incoming : SubscriptionProfileEntity) : Option SubscriptionProfileEntity :=
  existing.find? fun candidate =>
    candidate.identityHash ∉ earlier.map identityHash ∧ candidate.isLocallyModified ∧
      candidate.type = incoming.type ∧ candidate.sortOrder = incoming.sortOrder

/-- An incoming profile displaces no row: if its identity is new, the row at its position is none of
    those whose identity comes later. -/
def DisplacesNone (earlier : List SubscriptionProfileEntity)
    (incoming : SubscriptionProfileEntity) : Prop :=
  incoming.identityHash ∉ existing.map identityHash →
    ∀ r ∈ candidateRow existing earlier incoming, r.identityHash ∉ profiles.map identityHash

/-- No incoming profile displaces a row. -/
def Undisplaced : Prop :=
  ∀ earlier incoming later, profiles = earlier ++ incoming :: later →
    DisplacesNone existing profiles earlier incoming

end Displacement

/-! ## Rows that are taken -/

section Matching

variable {existing : List SubscriptionProfileEntity} {groupId : ℤ} {matchedIds : List String}
  {incoming r : SubscriptionProfileEntity}

lemma of_currentRow (h : currentRow existing matchedIds incoming = some r) :
    r ∈ existing ∧ r.id ∉ matchedIds := by
  grind [currentRow, Option.filter_eq_some_iff, Option.some.inj, List.mem_reverse,
    List.mem_of_find?_eq_some]

@[simp] lemma key_mergeRow (current : Option SubscriptionProfileEntity) :
    (mergeRow groupId incoming current).key = (groupId, incoming.identityHash) := by
  cases current <;> rfl

def matchedAfter (existing : List SubscriptionProfileEntity) (matchedIds : List String)
    (profiles : List SubscriptionProfileEntity) : List String :=
  profiles.foldl (matchedNext existing) matchedIds

lemma mem_reconcile {profiles : List SubscriptionProfileEntity} {u : SubscriptionProfileEntity} :
    u ∈ reconcile existing groupId matchedIds profiles ↔
      ∃ earlier incoming later, profiles = earlier ++ incoming :: later ∧
        u = mergeRow groupId incoming
          (currentRow existing (matchedAfter existing matchedIds earlier) incoming) := by
  induction profiles generalizing matchedIds with
  | nil => simp [reconcile]
  | cons p profiles ih =>
    rw [reconcile, List.mem_cons, ih]
    constructor
    · rintro (rfl | ⟨earlier, incoming, later, rfl, rfl⟩)
      · exact ⟨[], p, profiles, rfl, rfl⟩
      · exact ⟨p :: earlier, incoming, later, rfl, rfl⟩
    · rintro ⟨earlier, incoming, later, heq, rfl⟩
      cases earlier with
      | nil =>
        obtain ⟨rfl, rfl⟩ := List.cons.inj heq
        exact Or.inl rfl
      | cons q earlier =>
        obtain ⟨rfl, rfl⟩ := List.cons.inj heq
        exact Or.inr ⟨earlier, incoming, later, rfl, rfl⟩

lemma keys_reconcile (profiles : List SubscriptionProfileEntity) :
    (reconcile existing groupId matchedIds profiles).map key
      = profiles.map fun p => (groupId, p.identityHash) := by
  induction profiles generalizing matchedIds with
  | nil => rfl
  | cons p profiles ih => rw [reconcile, List.map_cons, List.map_cons, key_mergeRow, ih]

/-- The id that is written to is that of a row not taken before, or that of an incoming profile. -/
lemma id_of_mem_reconcile {profiles : List SubscriptionProfileEntity}
    {u : SubscriptionProfileEntity} (h : u ∈ reconcile existing groupId matchedIds profiles) :
    u.id ∈ existing.map SubscriptionProfileEntity.id ∧ u.id ∉ matchedIds ∨
      u.id ∈ profiles.map SubscriptionProfileEntity.id := by
  induction profiles generalizing matchedIds with
  | nil => cases h
  | cons p profiles ih =>
    rcases List.mem_cons.1 h with rfl | h
    · cases hcurrent : currentRow existing matchedIds p with
      | none => exact Or.inr List.mem_cons_self
      | some r =>
        obtain ⟨hr, hfree⟩ := of_currentRow hcurrent
        exact Or.inl ⟨List.mem_map.2 ⟨r, hr, rfl⟩, hfree⟩
    · rcases ih h with ⟨hid, hfree⟩ | hid
      · exact Or.inl ⟨hid, fun hmem => hfree (List.mem_append_right _ hmem)⟩
      · exact Or.inr (List.mem_cons_of_mem _ hid)

lemma nodup_ids_reconcile {profiles : List SubscriptionProfileEntity}
    (hfresh : ∀ p ∈ profiles, p.id ∉ existing.map SubscriptionProfileEntity.id)
    (hids : (profiles.map SubscriptionProfileEntity.id).Nodup) :
    ((reconcile existing groupId matchedIds profiles).map SubscriptionProfileEntity.id).Nodup := by
  induction profiles generalizing matchedIds with
  | nil => exact List.nodup_nil
  | cons p profiles ih =>
    rw [List.map_cons, List.nodup_cons] at hids
    rw [reconcile, List.map_cons, List.nodup_cons]
    refine ⟨fun hmem => ?_, ih (fun q hq => hfresh q (List.mem_cons_of_mem p hq)) hids.2⟩
    obtain ⟨u, hu, hid⟩ := List.mem_map.1 hmem
    have hcases := id_of_mem_reconcile hu
    rw [hid] at hcases
    cases hcurrent : currentRow existing matchedIds p with
    | none =>
      rw [hcurrent] at hcases
      rcases hcases with ⟨hold, -⟩ | hlater
      · exact hfresh p List.mem_cons_self hold
      · exact hids.1 hlater
    | some r =>
      rw [matchedNext, hcurrent] at hcases
      rcases hcases with ⟨-, hfree⟩ | hlater
      · exact hfree List.mem_cons_self
      · obtain ⟨q, hq, hqid⟩ := List.mem_map.1 hlater
        refine hfresh q (List.mem_cons_of_mem p hq) ?_
        rw [hqid]
        exact List.mem_map.2 ⟨r, (of_currentRow hcurrent).1, rfl⟩

end Matching

/-! ## As long as no row is displaced -/

structure Distinct (existing : List SubscriptionProfileEntity) : Prop where
  id : ∀ r ∈ existing, ∀ r' ∈ existing, r.id = r'.id → r = r'
  identity : ∀ r ∈ existing, ∀ r' ∈ existing, r.identityHash = r'.identityHash → r = r'

structure Incoming (profiles : List SubscriptionProfileEntity) : Prop where
  identities : (profiles.map identityHash).Nodup
  positions : (profiles.map sortOrder).Nodup

/-- The rows that are taken are those whose identity came, and rows at earlier positions whose
    identity does not come at all. -/
structure Tame (existing profiles earlier : List SubscriptionProfileEntity)
    (matchedIds : List String) : Prop where
  own : ∀ r ∈ existing, r.identityHash ∈ earlier.map identityHash → r.id ∈ matchedIds
  only : ∀ r ∈ existing, r.id ∈ matchedIds → r.identityHash ∈ earlier.map identityHash ∨
    r.identityHash ∉ profiles.map identityHash ∧ r.isLocallyModified = true ∧
      r.sortOrder ∈ earlier.map sortOrder

section Tame

variable {existing profiles earlier later : List SubscriptionProfileEntity}
  {matchedIds : List String} {incoming r : SubscriptionProfileEntity}

lemma Incoming.not_mem_earlier (h : Incoming profiles)
    (hsplit : profiles = earlier ++ incoming :: later) :
    incoming.identityHash ∉ earlier.map identityHash ∧
      incoming.sortOrder ∉ earlier.map sortOrder := by
  have hidentities := h.identities
  have hpositions := h.positions
  rw [hsplit, List.map_append, List.map_cons, List.nodup_append] at hidentities hpositions
  exact ⟨fun hmem => hidentities.2.2 _ hmem _ List.mem_cons_self rfl,
    fun hmem => hpositions.2.2 _ hmem _ List.mem_cons_self rfl⟩

lemma Tame.currentRow_own (h : Tame existing profiles earlier matchedIds)
    (hexisting : Distinct existing) (hincoming : Incoming profiles)
    (hsplit : profiles = earlier ++ incoming :: later) (hr : r ∈ existing)
    (hown : r.identityHash = incoming.identityHash) :
    currentRow existing matchedIds incoming = some r := by
  have hfree : r.id ∉ matchedIds := by
    intro hmem
    rcases h.only r hr hmem with hearlier | ⟨hgone, -⟩
    · exact (hincoming.not_mem_earlier hsplit).1 (hown ▸ hearlier)
    · grind
  have hfind : existing.reverse.find? (·.identityHash = incoming.identityHash) = some r := by
    cases hfind : existing.reverse.find? (·.identityHash = incoming.identityHash) with
    | none =>
      grind
    | some r' =>
      have hr' := List.mem_reverse.1 (List.mem_of_find?_eq_some hfind)
      have hhash : r'.identityHash = incoming.identityHash := by
        simpa using List.find?_some hfind
      rw [hexisting.identity r' hr' r hr (hhash.trans hown.symm)]
  have hown' : (some r).filter (·.id ∉ matchedIds) = some r :=
    Option.filter_eq_some_iff.2 ⟨rfl, decide_eq_true hfree⟩
  rw [currentRow, hfind, hown']

lemma Tame.currentRow_new (h : Tame existing profiles earlier matchedIds)
    (hincoming : Incoming profiles) (hsplit : profiles = earlier ++ incoming :: later)
    (hnew : incoming.identityHash ∉ existing.map identityHash) :
    currentRow existing matchedIds incoming = candidateRow existing earlier incoming := by
  have hfind : existing.reverse.find? (·.identityHash = incoming.identityHash) = none := by
    grind
  rw [currentRow, hfind, candidateRow]
  refine List.find?_congr fun r hr => ?_
  rw [decide_eq_decide]
  refine ⟨?_, ?_⟩
  · grind [OlcRtc.Client.Tame.own]
  · rintro ⟨hlater, hmodified, htype, hposition⟩
    refine ⟨fun hmem => ?_, hmodified, htype, hposition⟩
    rcases h.only r hr hmem with hearlier | ⟨-, -, hbefore⟩
    · exact hlater hearlier
    · exact (hincoming.not_mem_earlier hsplit).2 (hposition ▸ hbefore)

lemma of_candidateRow (h : candidateRow existing earlier incoming = some r) :
    r.isLocallyModified = true ∧ r.sortOrder = incoming.sortOrder := by
  have hfound := List.find?_some h
  obtain ⟨-, hmodified, -, hposition⟩ := of_decide_eq_true hfound
  exact ⟨hmodified, hposition⟩

lemma Tame.of_currentRow (h : Tame existing profiles earlier matchedIds)
    (hexisting : Distinct existing) (hincoming : Incoming profiles)
    (hsplit : profiles = earlier ++ incoming :: later)
    (hnone : DisplacesNone existing profiles earlier incoming)
    (hcurrent : currentRow existing matchedIds incoming = some r) :
    r.identityHash = incoming.identityHash ∨
      r.identityHash ∉ profiles.map identityHash ∧ r.isLocallyModified = true ∧
        r.sortOrder = incoming.sortOrder := by
  by_cases hknown : incoming.identityHash ∈ existing.map identityHash
  · obtain ⟨r', hr', hown⟩ := List.mem_map.1 hknown
    rw [h.currentRow_own hexisting hincoming hsplit hr' hown] at hcurrent
    exact Or.inl (Option.some.inj hcurrent ▸ hown)
  · rw [h.currentRow_new hincoming hsplit hknown] at hcurrent
    exact Or.inr ⟨hnone hknown r hcurrent, of_candidateRow hcurrent⟩

lemma Tame.next (h : Tame existing profiles earlier matchedIds) (hexisting : Distinct existing)
    (hincoming : Incoming profiles) (hsplit : profiles = earlier ++ incoming :: later)
    (hnone : DisplacesNone existing profiles earlier incoming) :
    Tame existing profiles (earlier ++ [incoming]) (matchedNext existing matchedIds incoming) := by
  refine ⟨fun r hr hmem => ?_, fun r hr hmem => ?_⟩
  · rw [List.map_append, List.mem_append, List.map_singleton, List.mem_singleton] at hmem
    rcases hmem with hearlier | hown
    · exact List.mem_append_right _ (h.own r hr hearlier)
    · rw [matchedNext, h.currentRow_own hexisting hincoming hsplit hr hown]
      exact List.mem_cons_self
  · rw [List.map_append, List.map_append, List.mem_append, List.mem_append, List.map_singleton,
      List.map_singleton, List.mem_singleton, List.mem_singleton]
    rcases List.mem_append.1 hmem with hnow | hbefore
    · rw [Option.mem_toList, Option.map_eq_some_iff] at hnow
      obtain ⟨r', hcurrent, hid⟩ := hnow
      obtain rfl := hexisting.id r' (OlcRtc.Client.of_currentRow hcurrent).1 r hr hid
      rcases h.of_currentRow hexisting hincoming hsplit hnone hcurrent with
        hown | ⟨hgone, hmodified, hposition⟩
      · exact Or.inl (Or.inr hown)
      · exact Or.inr ⟨hgone, hmodified, Or.inr hposition⟩
    · grind [OlcRtc.Client.Tame.only]

/-- **As long as no profile has displaced a row**, the rows that are taken are as they should be. -/
lemma tame_matchedAfter (hexisting : Distinct existing) (hincoming : Incoming profiles)
    (hnone : ∀ before p after, earlier = before ++ p :: after →
      DisplacesNone existing profiles before p)
    (hsplit : profiles = earlier ++ later) :
    Tame existing profiles earlier (matchedAfter existing [] earlier) := by
  induction earlier using List.reverseRecOn generalizing later with
  | nil => exact ⟨fun _ _ hmem => absurd hmem List.not_mem_nil,
      fun _ _ hmem => absurd hmem List.not_mem_nil⟩
  | append_singleton before p ih =>
    have hsplit' : profiles = before ++ p :: later := by
      rw [hsplit, List.append_assoc, List.singleton_append]
    have hbefore := ih
      (fun before' q after heq => hnone before' q (after ++ [p]) (by rw [heq]; simp)) hsplit'
    have hnext := hbefore.next hexisting hincoming hsplit' (hnone before p [] rfl)
    rw [matchedAfter, List.foldl_append]
    exact hnext

end Tame

/-! ## The statements -/

section Statements

variable {db db' : Database} {subscription : SubscriptionEntity}
  {profiles : List SubscriptionProfileEntity} {r : SubscriptionProfileEntity}

lemma mem_getProfiles {t : ProfileTable} {groupId : ℤ} :
    r ∈ getProfiles t groupId ↔ r ∈ t.rows ∧ r.groupId = groupId := by
  rw [getProfiles, List.mem_insertionSort, List.mem_filter, decide_eq_true_eq]

lemma distinct_getProfiles (t : ProfileTable) (groupId : ℤ) : Distinct (getProfiles t groupId) := by
  constructor
  · grind [Table.eq_of_id, mem_getProfiles]
  · intro r hr r' hr' hhash
    obtain ⟨hr, hgroup⟩ := mem_getProfiles.1 hr
    obtain ⟨hr', hgroup'⟩ := mem_getProfiles.1 hr'
    exact Table.eq_of_key hr hr' (Prod.ext (hgroup.trans hgroup'.symm) hhash)

lemma of_replaceSubscriptionProfiles
    (h : replaceSubscriptionProfiles db subscription profiles = .ok db') :
    ∃ inserted updated : ProfileTable,
      db.profiles.insertAll (inserts (getProfiles db.profiles subscription.groupId)
        subscription.groupId profiles) = .ok inserted ∧
      inserted.updateAll (changed (getProfiles db.profiles subscription.groupId)
        subscription.groupId profiles) = .ok updated ∧
      db'.profiles
        = updated.delete (deleted (getProfiles db.profiles subscription.groupId) profiles) := by
  simp only [replaceSubscriptionProfiles, bind_eq_ok] at h
  obtain ⟨inserted, hinsert, updated, hupdate, subscriptions, -, hdb⟩ := h
  exact ⟨inserted, updated, hinsert, hupdate, (congrArg Database.profiles (Except.ok.inj hdb)).symm⟩

lemma nodup_ids_changed {existing : List SubscriptionProfileEntity} {groupId : ℤ}
    (hfresh : ∀ p ∈ profiles, p.id ∉ existing.map SubscriptionProfileEntity.id)
    (hids : (profiles.map SubscriptionProfileEntity.id).Nodup) :
    ((changed existing groupId profiles).map SubscriptionProfileEntity.id).Nodup :=
  (nodup_ids_reconcile hfresh hids).sublist (List.filter_sublist.map _)

lemma fresh_getProfiles
    (hfresh : ∀ p ∈ profiles, p.id ∉ db.profiles.rows.map SubscriptionProfileEntity.id) :
    ∀ p ∈ profiles, p.id ∉ (getProfiles db.profiles subscription.groupId).map
      SubscriptionProfileEntity.id := by
  intro p hp hmem
  obtain ⟨r, hr, hrid⟩ := List.mem_map.1 hmem
  exact hfresh p hp (List.mem_map.2 ⟨r, (mem_getProfiles.1 hr).1, hrid⟩)

/-- **What is written to a row stays there.**  If a profile is written to row `r`, the row has the
    identity of the profile after a refresh that goes through. -/
lemma key_of_changed (hfresh : ∀ p ∈ profiles, p.id ∉ db.profiles.rows.map
      SubscriptionProfileEntity.id)
    (hids : (profiles.map SubscriptionProfileEntity.id).Nodup)
    (h : replaceSubscriptionProfiles db subscription profiles = .ok db')
    {u r' : SubscriptionProfileEntity}
    (hu : u ∈ changed (getProfiles db.profiles subscription.groupId) subscription.groupId profiles)
    (hr' : r' ∈ db'.profiles.rows) (hid : r'.id = u.id) : r' = u := by
  obtain ⟨inserted, updated, -, hupdate, hdb⟩ := of_replaceSubscriptionProfiles h
  have hnodup : ((changed (getProfiles db.profiles subscription.groupId) subscription.groupId
      profiles).map SubscriptionProfileEntity.id).Nodup :=
    nodup_ids_changed (fresh_getProfiles hfresh) hids
  rw [hdb] at hr'
  have hr' := (List.mem_filter.1 hr').1
  rw [Table.rows_of_updateAll hupdate, Table.mem_overwriteAll hnodup] at hr'
  rcases hr' with ⟨hmem, -⟩ | ⟨-, hnot⟩
  · exact List.inj_on_of_nodup_map hnodup hmem hu hid
  · exact absurd (List.mem_map.2 ⟨u, hu, hid.symm⟩) hnot

end Statements

section Main

variable {db : Database} {subscription : SubscriptionEntity}
  {profiles : List SubscriptionProfileEntity}

lemma Reconciled.undisplaced (h : Reconciled db subscription profiles)
    (hincoming : Incoming profiles)
    (hfresh : ∀ p ∈ profiles, p.id ∉ db.profiles.rows.map SubscriptionProfileEntity.id)
    (hids : (profiles.map SubscriptionProfileEntity.id).Nodup) :
    Undisplaced (getProfiles db.profiles subscription.groupId) profiles := by
  obtain ⟨db', hreplace, -, hkept⟩ := h
  have hexisting := distinct_getProfiles db.profiles subscription.groupId
  generalize hE : getProfiles db.profiles subscription.groupId = existing at hexisting ⊢
  intro earlier
  -- by induction on what came before: so far no row was displaced
  induction hn : earlier.length using Nat.strong_induction_on generalizing earlier with
  | _ n ih =>
    intro incoming later hsplit hnew r hr hcomes
    have htame : Tame existing profiles earlier (matchedAfter existing [] earlier) := by
      grind [tame_matchedAfter, List.append_assoc, List.cons_append]
    have hcurrent := (htame.currentRow_new hincoming hsplit hnew).trans hr
    have hrE := (of_currentRow hcurrent).1
    have hmodified := (of_candidateRow hr).1
    obtain ⟨hrow, hgroup⟩ := mem_getProfiles.1 (hE ▸ hrE)
    obtain ⟨r', hr', hid, hkey, -⟩ := hkept r hrow hgroup hmodified hcomes
    have hu : mergeRow subscription.groupId incoming (some r)
        ∈ changed existing subscription.groupId profiles := by
      refine List.mem_filter.2 ⟨?_, decide_eq_true (List.mem_map.2 ⟨r, hrE, rfl⟩)⟩
      exact mem_reconcile.2 ⟨earlier, incoming, later, hsplit, by rw [hcurrent]⟩
    have heq : r' = mergeRow subscription.groupId incoming (some r) :=
      key_of_changed hfresh hids hreplace (by rw [hE]; exact hu) hr' hid
    rw [heq, key_mergeRow] at hkey
    refine hnew (List.mem_map.2 ⟨r, hrE, ?_⟩)
    exact (congrArg Prod.snd hkey).symm

lemma Undisplaced.of_split {existing : List SubscriptionProfileEntity}
    (h : Undisplaced existing profiles) (hexisting : Distinct existing)
    (hincoming : Incoming profiles) {u : SubscriptionProfileEntity} {groupId : ℤ}
    (hu : u ∈ reconcile existing groupId [] profiles) :
    ∃ incoming ∈ profiles, u.key = (groupId, incoming.identityHash) ∧
      (∀ r ∈ existing, r.identityHash = incoming.identityHash →
        u = mergeRow groupId incoming (some r)) ∧
      (incoming.identityHash ∉ existing.map identityHash →
        u.id = incoming.id ∨ ∃ r ∈ existing, u.id = r.id ∧
          r.identityHash ∉ profiles.map identityHash ∧ r.isLocallyModified = true) := by
  obtain ⟨earlier, incoming, later, hsplit, rfl⟩ := mem_reconcile.1 hu
  have htame : Tame existing profiles earlier (matchedAfter existing [] earlier) := by
    refine tame_matchedAfter hexisting hincoming (fun before p after heq => ?_) hsplit
    refine h before p (after ++ incoming :: later) ?_
    rw [hsplit, heq, List.append_assoc, List.cons_append]
  refine ⟨incoming, ?_, key_mergeRow _, fun r hr hown => ?_, fun hnew => ?_⟩
  · grind
  · rw [htame.currentRow_own hexisting hincoming hsplit hr hown]
  · cases hcurrent : currentRow existing (matchedAfter existing [] earlier) incoming with
    | none => exact Or.inl rfl
    | some r =>
      have hr := (of_currentRow hcurrent).1
      refine Or.inr ⟨r, hr, rfl, ?_⟩
      rcases htame.of_currentRow hexisting hincoming hsplit
        (h earlier incoming later hsplit) hcurrent with hown | ⟨hgone, hmodified, -⟩
      · exact absurd (List.mem_map.2 ⟨r, hr, hown⟩) hnew
      · exact ⟨hgone, hmodified⟩

lemma nodup_keys_reconcile {existing : List SubscriptionProfileEntity} {groupId : ℤ}
    {matchedIds : List String} (hincoming : Incoming profiles) :
    ((reconcile existing groupId matchedIds profiles).map key).Nodup := by
  rw [keys_reconcile, ← Function.comp_def (Prod.mk groupId) identityHash, ← List.map_map]
  exact hincoming.identities.map (Prod.mk_right_injective groupId)

lemma Undisplaced.id_of_key
    (h : Undisplaced (getProfiles db.profiles subscription.groupId) profiles)
    (hincoming : Incoming profiles) {u r : SubscriptionProfileEntity}
    (hu : u ∈ reconcile (getProfiles db.profiles subscription.groupId) subscription.groupId []
      profiles) (hr : r ∈ db.profiles.rows) (hkey : r.key = u.key) :
    r ∈ getProfiles db.profiles subscription.groupId ∧ r.id = u.id := by
  obtain ⟨incoming, -, hukey, hown, -⟩ := h.of_split (distinct_getProfiles _ _) hincoming hu
  rw [hukey] at hkey
  have hrE := mem_getProfiles.2 ⟨hr, congrArg Prod.fst hkey⟩
  refine ⟨hrE, ?_⟩
  rw [hown r hrE (congrArg Prod.snd hkey)]
  rfl

lemma Undisplaced.insertAll_ok
    (h : Undisplaced (getProfiles db.profiles subscription.groupId) profiles)
    (hincoming : Incoming profiles)
    (hfresh : ∀ p ∈ profiles, p.id ∉ db.profiles.rows.map SubscriptionProfileEntity.id)
    (hids : (profiles.map SubscriptionProfileEntity.id).Nodup) :
    ∃ inserted, db.profiles.insertAll (inserts (getProfiles db.profiles subscription.groupId)
      subscription.groupId profiles) = .ok inserted := by
  refine Table.insertAll_eq_ok ?_ ?_
  · rw [List.map_append, List.nodup_append]
    refine ⟨db.profiles.ids, (nodup_ids_reconcile (fresh_getProfiles hfresh) hids).sublist
      (List.filter_sublist.map _), ?_⟩
    rintro a ha b hb rfl
    obtain ⟨u, hu, rfl⟩ := List.mem_map.1 hb
    obtain ⟨hu, hnew⟩ := List.mem_filter.1 hu
    rcases id_of_mem_reconcile hu with ⟨hold, -⟩ | hid
    · exact of_decide_eq_true hnew hold
    · grind
  · rw [List.map_append, List.nodup_append]
    refine ⟨db.profiles.keys, (nodup_keys_reconcile hincoming).sublist
      (List.filter_sublist.map _), ?_⟩
    rintro a ha b hb rfl
    obtain ⟨u, hu, hkey⟩ := List.mem_map.1 hb
    obtain ⟨r, hr, rfl⟩ := List.mem_map.1 ha
    obtain ⟨hu, hnew⟩ := List.mem_filter.1 hu
    obtain ⟨hrE, hid⟩ := h.id_of_key hincoming hu hr hkey.symm
    exact of_decide_eq_true hnew (List.mem_map.2 ⟨r, hrE, hid⟩)

lemma Undisplaced.updateAll_ok
    (h : Undisplaced (getProfiles db.profiles subscription.groupId) profiles)
    (hincoming : Incoming profiles) {inserted : ProfileTable}
    (hinsert : db.profiles.insertAll (inserts (getProfiles db.profiles subscription.groupId)
      subscription.groupId profiles) = .ok inserted) :
    ∃ updated, inserted.updateAll (changed (getProfiles db.profiles subscription.groupId)
      subscription.groupId profiles) = .ok updated := by
  refine Table.updateAll_eq_ok fun u hu r hr hkey => ?_
  have hu := (List.mem_filter.1 hu).1
  have hwritten : r ∈ reconcile (getProfiles db.profiles subscription.groupId)
      subscription.groupId [] profiles → r.id = u.id := by
    intro hr
    rw [List.inj_on_of_nodup_map (nodup_keys_reconcile hincoming) hr hu hkey]
  rw [Table.rows_of_insertAll hinsert, List.mem_append] at hr
  rcases hr with (hr | hr) | hr
  · exact (h.id_of_key hincoming hu hr hkey).2
  · exact hwritten (List.mem_filter.1 hr).1
  · exact hwritten (List.mem_filter.1 hr).1

/-- **The statements go through if no row is displaced.** -/
lemma Undisplaced.goes_through
    (h : Undisplaced (getProfiles db.profiles subscription.groupId) profiles)
    (hincoming : Incoming profiles)
    (hfresh : ∀ p ∈ profiles, p.id ∉ db.profiles.rows.map SubscriptionProfileEntity.id)
    (hids : (profiles.map SubscriptionProfileEntity.id).Nodup)
    (hsubscription : ∃ stored ∈ db.subscriptions.rows,
      stored.id = subscription.id ∧ stored.groupId = subscription.groupId) :
    ∃ db', replaceSubscriptionProfiles db subscription profiles = .ok db' := by
  obtain ⟨inserted, hinsert⟩ := h.insertAll_ok hincoming hfresh hids
  obtain ⟨updated, hupdate⟩ := h.updateAll_ok hincoming hinsert
  obtain ⟨subscriptions, hupdateSubscription⟩ :
      ∃ subscriptions, db.subscriptions.update subscription = .ok subscriptions := by
    obtain ⟨stored, hstored, hid, hgroup⟩ := hsubscription
    refine ⟨_, dif_pos fun r hr hkey => ?_⟩
    rw [Table.eq_of_key hr hstored (hkey.trans hgroup.symm)]
    exact hid
  simp only [replaceSubscriptionProfiles, bind_eq_ok]
  exact ⟨_, inserted, hinsert, updated, hupdate, subscriptions, hupdateSubscription, rfl⟩

lemma Undisplaced.mem_of_reconcile
    (h : Undisplaced (getProfiles db.profiles subscription.groupId) profiles)
    (hincoming : Incoming profiles)
    (hfresh : ∀ p ∈ profiles, p.id ∉ db.profiles.rows.map SubscriptionProfileEntity.id)
    (hids : (profiles.map SubscriptionProfileEntity.id).Nodup) {db' : Database}
    (hreplace : replaceSubscriptionProfiles db subscription profiles = .ok db')
    {u : SubscriptionProfileEntity}
    (hu : u ∈ reconcile (getProfiles db.profiles subscription.groupId) subscription.groupId []
      profiles) : u ∈ db'.profiles.rows := by
  obtain ⟨inserted, updated, hinsert, hupdate, hdb⟩ := of_replaceSubscriptionProfiles hreplace
  rw [hdb]
  refine List.mem_filter.2 ⟨?_, decide_eq_true fun hdeleted => ?_⟩
  · rw [Table.rows_of_updateAll hupdate,
      Table.mem_overwriteAll (nodup_ids_changed (fresh_getProfiles hfresh) hids),
      Table.rows_of_insertAll hinsert]
    by_cases hold : u.id ∈ (getProfiles db.profiles subscription.groupId).map
        SubscriptionProfileEntity.id
    · refine Or.inl ⟨List.mem_filter.2 ⟨hu, decide_eq_true hold⟩, ?_⟩
      obtain ⟨r, hr, hrid⟩ := List.mem_map.1 hold
      rw [List.map_append]
      exact List.mem_append_left _ (List.mem_map.2 ⟨r, (mem_getProfiles.1 hr).1, hrid⟩)
    · refine Or.inr ⟨List.mem_append_right _ (List.mem_filter.2 ⟨hu, decide_eq_true hold⟩), ?_⟩
      intro hmem
      obtain ⟨v, hv, hvid⟩ := List.mem_map.1 hmem
      exact hold (hvid ▸ of_decide_eq_true (List.mem_filter.1 hv).2)
  · -- a row that is deleted was not modified locally, and its identity is gone
    obtain ⟨r, hr, hrid⟩ := List.mem_map.1 hdeleted
    obtain ⟨hrE, hgone⟩ := List.mem_filter.1 hr
    simp only [Bool.and_eq_true, Bool.not_eq_true', decide_eq_true_eq] at hgone
    have hexisting := distinct_getProfiles db.profiles subscription.groupId
    obtain ⟨incoming, hmem, -, hown, hnew⟩ := h.of_split hexisting hincoming hu
    by_cases hknown : incoming.identityHash
        ∈ (getProfiles db.profiles subscription.groupId).map identityHash
    · obtain ⟨r', hr', hhash⟩ := List.mem_map.1 hknown
      have hid : u.id = r'.id := by
        rw [hown r' hr' hhash]
        rfl
      obtain rfl := hexisting.id r' hr' r hrE (hid.symm.trans hrid.symm)
      exact hgone.2 (hhash ▸ List.mem_map_of_mem hmem)
    · rcases hnew hknown with hid | ⟨r', hr', hid, -, hmodified⟩
      · exact fresh_getProfiles hfresh incoming hmem (List.mem_map.2 ⟨r, hrE, hrid.trans hid⟩)
      · obtain rfl := hexisting.id r' hr' r hrE (hid.symm.trans hrid.symm)
        exact absurd (hmodified.symm.trans hgone.1.1) (by decide)

/-- **A refresh does what it should exactly if no row is displaced.**  What comes in has distinct
identities and new ids, in the order of the positions. -/
theorem reconciled_iff (db : Database) (subscription : SubscriptionEntity)
    (profiles : List SubscriptionProfileEntity)
    (hsubscription : ∃ stored ∈ db.subscriptions.rows,
      stored.id = subscription.id ∧ stored.groupId = subscription.groupId)
    (hidentities : (profiles.map identityHash).Nodup)
    (hpositions : ∀ (i : ℕ) (p : SubscriptionProfileEntity), profiles[i]? = some p →
      p.sortOrder = i)
    (hfresh : ∀ p ∈ profiles, p.id ∉ db.profiles.rows.map SubscriptionProfileEntity.id)
    (hids : (profiles.map SubscriptionProfileEntity.id).Nodup) :
    Reconciled db subscription profiles ↔
      Undisplaced (getProfiles db.profiles subscription.groupId) profiles := by
  have hincoming : Incoming profiles := by
    have hmap : profiles.map sortOrder = (List.range profiles.length).map fun i : ℕ => (i : ℤ) := by
      grind [List.ext_getElem, List.length_map, List.getElem_map, List.getElem_range,
        List.getElem?_eq_getElem]
    refine ⟨hidentities, ?_⟩
    rw [hmap]
    exact List.nodup_range.map Nat.cast_injective
  refine ⟨fun h => h.undisplaced hincoming hfresh hids, fun h => ?_⟩
  obtain ⟨db', hreplace⟩ := h.goes_through hincoming hfresh hids hsubscription
  have hwritten : ∀ u ∈ reconcile (getProfiles db.profiles subscription.groupId)
      subscription.groupId [] profiles, u ∈ db'.profiles.rows :=
    fun u hu => h.mem_of_reconcile hincoming hfresh hids hreplace hu
  have hcomes : ∀ hash ∈ profiles.map identityHash,
      ∃ u ∈ reconcile (getProfiles db.profiles subscription.groupId) subscription.groupId []
        profiles, u.key = (subscription.groupId, hash) := by
    intro hash hmem
    obtain ⟨p, hp, rfl⟩ := List.mem_map.1 hmem
    refine List.mem_map.1 ?_
    rw [keys_reconcile]
    exact List.mem_map.2 ⟨p, hp, rfl⟩
  refine ⟨db', hreplace, fun hash hmem => ?_, fun r hr hgroup hmodified hmem => ?_⟩
  · obtain ⟨u, hu, hkey⟩ := hcomes hash hmem
    refine ⟨u, ?_⟩
    rw [← hkey]
    exact Table.filter_key_eq_singleton (hwritten u hu)
  · obtain ⟨u, hu, hkey⟩ := hcomes r.identityHash hmem
    have hrE := mem_getProfiles.2 ⟨hr, hgroup⟩
    obtain ⟨incoming, -, hukey, hown, -⟩ := h.of_split (distinct_getProfiles _ _) hincoming hu
    have hhash : r.identityHash = incoming.identityHash := congrArg Prod.snd (hkey.symm.trans hukey)
    have hu' := hown r hrE hhash
    refine ⟨u, hwritten u hu, ?_, hkey.trans (by rw [← hgroup]; rfl), ?_, ?_, ?_, ?_⟩
    all_goals rw [hu']
    · rfl
    · exact if_pos hmodified
    · exact if_pos hmodified
    · rfl
    · exact hmodified

end Main

/-! ### Two refreshes -/

def profileRow (id name identityHash : String) (sortOrder : ℤ) (isLocallyModified : Bool) :
    SubscriptionProfileEntity :=
  ⟨id, 1, "VLESS", name, "current", [], none, identityHash, isLocallyModified, false, sortOrder,
    none, none, 0, 0, false⟩

def groupSubscription : SubscriptionEntity :=
  ⟨1, 1, "group", "GENERIC", [], none, none, none, none, none, none, none, 24, none, none, true⟩

def modifiedGroup : Database where
  profiles := ⟨[profileRow "a" "mine" "A" 0 true], List.nodup_singleton _, List.nodup_singleton _⟩
  subscriptions := ⟨[groupSubscription], List.nodup_singleton _, List.nodup_singleton _⟩

def appended : List SubscriptionProfileEntity :=
  [profileRow "u" "a" "A" 0 false, profileRow "v" "b" "B" 1 false]

def prepended : List SubscriptionProfileEntity :=
  [profileRow "u" "b" "B" 0 false, profileRow "v" "a" "A" 1 false]

lemma undisplaced_appended : Undisplaced (getProfiles modifiedGroup.profiles 1) appended := by
  intro earlier incoming later hsplit hnew
  rcases earlier with _ | ⟨p, _ | ⟨q, earlier⟩⟩
  · obtain ⟨rfl, -⟩ := List.cons.inj hsplit
    exact absurd (List.mem_singleton.2 rfl) hnew
  · obtain ⟨rfl, hrest⟩ := List.cons.inj hsplit
    obtain ⟨rfl, -⟩ := List.cons.inj hrest
    intro r hr
    cases hr
  · have hlength := congrArg List.length hsplit
    simp [appended] at hlength

theorem reconciled_iff_appended :
    Reconciled modifiedGroup groupSubscription appended := by
  refine (reconciled_iff modifiedGroup groupSubscription appended ?_ ?_ ?_ ?_ ?_).2
    undisplaced_appended
  · exact ⟨groupSubscription, List.mem_singleton.2 rfl, rfl, rfl⟩
  · decide
  · intro i p hp
    rcases i with _ | _ | i
    · obtain rfl := Option.some.inj hp
      rfl
    · obtain rfl := Option.some.inj hp
      rfl
    · cases hp
  · decide
  · decide

/-- **A profile in front of a modified one** takes its row. -/
theorem refresh_violates_index :
    (prepended.map identityHash).Nodup ∧ prepended.map sortOrder = [0, 1] ∧
    replaceSubscriptionProfiles modifiedGroup groupSubscription prepended
      = .error .uniqueIndex := by
  refine ⟨by decide, rfl, ?_⟩
  rfl

end OlcRtc.Client
