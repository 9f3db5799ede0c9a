import Mathlib.Tactic.Tauto
import Osvauld.Data.KeyedMaximum

namespace Osvauld.Core

open Data

/-- One row for each device and resource. The source's `u64` value is a `Nat`;
the casts of the persistence layer are where its width matters. -/
structure ResourceVectorClock where
  id : String
  resourceId : String
  deviceId : String
  clockValue : Nat
  createdAt : Int
  updatedAt : Int
deriving DecidableEq, Repr

structure MergeResult where
  updateLocal : List ResourceVectorClock := []
  addLocal : List ResourceVectorClock := []
  updateRemote : List ResourceVectorClock := []
  addRemote : List ResourceVectorClock := []
  localNeedsUpdate : Bool := false
  remoteNeedsUpdate : Bool := false
deriving DecidableEq, Repr

namespace ResourceVectorClock

/-! Entries take their id from the caller's supply of fresh ids. -/

def new (id : String) (now : Int) (resourceId deviceId : String)
    (clockValue : Nat) : ResourceVectorClock :=
  { id, resourceId, deviceId, clockValue, createdAt := now, updatedAt := now }

def initializeClock (id : String) (now : Int) (resourceId deviceId : String) :
    ResourceVectorClock :=
  new id now resourceId deviceId 1

def createEntries (freshId : Nat → String) (now : Int) (resourceId : String)
    (deviceIds : List String) (clockValue : String → Nat) :
    List ResourceVectorClock :=
  deviceIds.zipIdx.map fun (deviceId, index) =>
    new (freshId index) now resourceId deviceId (clockValue deviceId)

def createInitialEntries (freshId : Nat → String) (now : Int)
    (resourceId : String) (deviceIds : List String) (sourceDeviceId : String) :
    List ResourceVectorClock :=
  createEntries freshId now resourceId deviceIds fun deviceId =>
    if deviceId = sourceDeviceId then 1 else 0

def createEntriesForSharing (freshId : Nat → String) (now : Int)
    (resourceId : String) (deviceIds : List String) :
    List ResourceVectorClock :=
  createEntries freshId now resourceId deviceIds fun _ => 0

def mergeRemoteEntry (localEntries : List ResourceVectorClock)
    (result : MergeResult) (remote : ResourceVectorClock) : MergeResult :=
  match localEntries.find? fun entry => entry.deviceId = remote.deviceId with
  | some held =>
      if remote.clockValue > held.clockValue then
        { result with
          updateLocal := result.updateLocal ++ [remote]
          localNeedsUpdate := true }
      else if held.clockValue > remote.clockValue then
        { result with
          updateRemote := result.updateRemote ++ [held]
          remoteNeedsUpdate := true }
      else result
  | none =>
      { result with
        addLocal := result.addLocal ++ [remote]
        localNeedsUpdate := true }

def mergeLocalEntry (remoteEntries : List ResourceVectorClock)
    (result : MergeResult) (held : ResourceVectorClock) : MergeResult :=
  if remoteEntries.any fun entry => entry.deviceId = held.deviceId then result
  else
    { result with
      addRemote := result.addRemote ++ [held]
      remoteNeedsUpdate := true }

def merge (localEntries remoteEntries : List ResourceVectorClock) :
    MergeResult :=
  localEntries.foldl (mergeLocalEntry remoteEntries)
    (remoteEntries.foldl (mergeRemoteEntry localEntries) {})

def setClock (entry change : ResourceVectorClock) : ResourceVectorClock :=
  { entry with clockValue := change.clockValue, updatedAt := change.updatedAt }

/-- The changes `update_vector_clocks` makes to the entries of one resource:
overwrite by device, then insert. -/
def applyChanges (entries updates additions : List ResourceVectorClock) :
    List ResourceVectorClock :=
  KeyedMaximum.assignAll deviceId setClock entries updates ++ additions

abbrev clockOf? (entries : List ResourceVectorClock) (device : String) :
    Option Nat :=
  KeyedMaximum.valueAt? deviceId clockValue entries device

structure DistinctDevices (entries : List ResourceVectorClock) : Prop where
  nodup : (entries.map deviceId).Nodup

theorem setClock_overwrites :
    KeyedMaximum.Overwrites deviceId clockValue setClock where
  key_eq := fun _ _ => rfl
  value_eq := fun _ _ => rfl

def heldFor? (entries : List ResourceVectorClock)
    (entry : ResourceVectorClock) : Option ResourceVectorClock :=
  entries.find? fun other => other.deviceId = entry.deviceId

def raisedBy? (other : List ResourceVectorClock)
    (entry : ResourceVectorClock) : Option ResourceVectorClock :=
  match heldFor? other entry with
  | some held => if held.clockValue < entry.clockValue then some entry else none
  | none => none

def raiserOf? (other : List ResourceVectorClock)
    (entry : ResourceVectorClock) : Option ResourceVectorClock :=
  match heldFor? other entry with
  | some held => if entry.clockValue < held.clockValue then some held else none
  | none => none

def missingIn (other : List ResourceVectorClock)
    (entry : ResourceVectorClock) : Bool :=
  (heldFor? other entry).isNone

variable {entries other : List ResourceVectorClock} {entry : ResourceVectorClock}
  (localEntries remoteEntries : List ResourceVectorClock)

theorem foldl_mergeRemoteEntry (result : MergeResult) :
    remoteEntries.foldl (mergeRemoteEntry localEntries) result =
      { updateLocal :=
          result.updateLocal ++ remoteEntries.filterMap (raisedBy? localEntries)
        addLocal :=
          result.addLocal ++ remoteEntries.filter (missingIn localEntries)
        updateRemote :=
          result.updateRemote ++
            remoteEntries.filterMap (raiserOf? localEntries)
        addRemote := result.addRemote
        localNeedsUpdate :=
          result.localNeedsUpdate ||
            (!(remoteEntries.filterMap (raisedBy? localEntries)).isEmpty ||
              !(remoteEntries.filter (missingIn localEntries)).isEmpty)
        remoteNeedsUpdate :=
          result.remoteNeedsUpdate ||
            !(remoteEntries.filterMap (raiserOf? localEntries)).isEmpty } := by
  induction remoteEntries generalizing result with
  | nil => simp
  | cons remote remoteEntries ih =>
      rw [List.foldl_cons, ih]
      cases hheld : heldFor? localEntries remote with
      | none =>
          have hstep : mergeRemoteEntry localEntries result remote =
              { result with
                addLocal := result.addLocal ++ [remote]
                localNeedsUpdate := true } := by
            rw [heldFor?] at hheld
            simp [mergeRemoteEntry, hheld]
          simp [hstep, raisedBy?, raiserOf?, missingIn, hheld]
      | some held =>
          have hmatch := hheld
          rw [heldFor?] at hmatch
          rcases Nat.lt_trichotomy held.clockValue remote.clockValue with
            hlt | heq | hgt
          · have hnot : ¬ remote.clockValue < held.clockValue := by omega
            simp [mergeRemoteEntry, hmatch, raisedBy?, raiserOf?, missingIn,
              hheld, hlt, hnot]
          · simp [mergeRemoteEntry, hmatch, raisedBy?, raiserOf?, missingIn,
              hheld, heq]
          · have hnot : ¬ held.clockValue < remote.clockValue := by omega
            simp [mergeRemoteEntry, hmatch, raisedBy?, raiserOf?, missingIn,
              hheld, hgt, hnot]

theorem any_device_eq (entries : List ResourceVectorClock)
    (entry : ResourceVectorClock) :
    (entries.any fun other => other.deviceId = entry.deviceId) =
      !missingIn entries entry := by
  rw [missingIn, heldFor?, Bool.eq_iff_iff]
  simp [List.any_eq_true]

theorem foldl_mergeLocalEntry (result : MergeResult) :
    localEntries.foldl (mergeLocalEntry remoteEntries) result =
      { result with
        addRemote :=
          result.addRemote ++ localEntries.filter (missingIn remoteEntries)
        remoteNeedsUpdate :=
          result.remoteNeedsUpdate ||
            !(localEntries.filter (missingIn remoteEntries)).isEmpty } := by
  induction localEntries generalizing result with
  | nil => simp
  | cons held localEntries ih =>
      rw [List.foldl_cons, ih, mergeLocalEntry, any_device_eq]
      cases hmissing : missingIn remoteEntries held with
      | true => simp [hmissing]
      | false => simp [hmissing]

theorem merge_eq :
    merge localEntries remoteEntries =
      { updateLocal := remoteEntries.filterMap (raisedBy? localEntries)
        addLocal := remoteEntries.filter (missingIn localEntries)
        updateRemote := remoteEntries.filterMap (raiserOf? localEntries)
        addRemote := localEntries.filter (missingIn remoteEntries)
        localNeedsUpdate :=
          !(remoteEntries.filterMap (raisedBy? localEntries)).isEmpty ||
            !(remoteEntries.filter (missingIn localEntries)).isEmpty
        remoteNeedsUpdate :=
          !(remoteEntries.filterMap (raiserOf? localEntries)).isEmpty ||
            !(localEntries.filter (missingIn remoteEntries)).isEmpty } := by
  rw [merge, foldl_mergeRemoteEntry, foldl_mergeLocalEntry]
  simp

theorem heldFor?_eq_none_iff :
    heldFor? entries entry = none ↔ clockOf? entries entry.deviceId = none := by
  simp [heldFor?, clockOf?, KeyedMaximum.valueAt?]

theorem clockOf?_of_heldFor? {held : ResourceVectorClock}
    (hheld : heldFor? entries entry = some held) :
    clockOf? entries entry.deviceId = some held.clockValue := by
  rw [heldFor?] at hheld
  rw [clockOf?, KeyedMaximum.valueAt?, hheld, Option.map_some]

theorem deviceId_of_heldFor? {held : ResourceVectorClock}
    (hheld : heldFor? entries entry = some held) :
    held ∈ entries ∧ held.deviceId = entry.deviceId := by
  rw [heldFor?] at hheld
  exact ⟨List.mem_of_find?_eq_some hheld, by simpa using List.find?_some hheld⟩

theorem raisedBy?_eq_some_iff {change : ResourceVectorClock} :
    raisedBy? other entry = some change ↔
      change = entry ∧ ∃ held, heldFor? other entry = some held ∧
        held.clockValue < entry.clockValue := by
  rw [raisedBy?]
  cases hheld : heldFor? other entry with
  | none => simp
  | some held => simp [eq_comm, and_comm]

theorem raiserOf?_eq_some_iff {change : ResourceVectorClock} :
    raiserOf? other entry = some change ↔
      heldFor? other entry = some change ∧
        entry.clockValue < change.clockValue := by
  rw [raiserOf?]
  cases hheld : heldFor? other entry with
  | none => simp
  | some held =>
      simp only [Option.ite_none_right_eq_some, Option.some.injEq]
      constructor
      · rintro ⟨hlt, rfl⟩
        exact ⟨rfl, hlt⟩
      · rintro ⟨rfl, hlt⟩
        exact ⟨hlt, rfl⟩

theorem additions_raise (table : List ResourceVectorClock) (hother : DistinctDevices other) :
    ((other.filter (missingIn table)).map deviceId).Nodup ∧
      ∀ device value,
        clockOf? (other.filter (missingIn table)) device = some value ↔
          clockOf? other device = some value ∧
            clockOf? table device = none := by
  have hnodup : ((other.filter (missingIn table)).map deviceId).Nodup :=
    hother.nodup.sublist (List.filter_sublist.map _)
  refine ⟨hnodup, fun device value => ?_⟩
  rw [clockOf?, clockOf?, KeyedMaximum.valueAt?_eq_some_iff _ _ hnodup,
    KeyedMaximum.valueAt?_eq_some_iff _ _ hother.nodup]
  constructor
  · rintro ⟨entry, hentry, rfl, rfl⟩
    obtain ⟨hmem, hmissing⟩ := List.mem_filter.mp hentry
    exact ⟨⟨entry, hmem, rfl, rfl⟩,
      heldFor?_eq_none_iff.mp (Option.isNone_iff_eq_none.mp hmissing)⟩
  · rintro ⟨⟨entry, hmem, rfl, rfl⟩, hnone⟩
    have hmissing : missingIn table entry = true :=
      Option.isNone_iff_eq_none.mpr (heldFor?_eq_none_iff.mpr hnone)
    exact ⟨entry, List.mem_filter.mpr ⟨hmem, hmissing⟩, rfl, rfl⟩

theorem merge_raises_local (localEntries) {remoteEntries}
    (hremote : DistinctDevices remoteEntries) :
    KeyedMaximum.Raises deviceId clockValue localEntries remoteEntries
      (merge localEntries remoteEntries).updateLocal
      (merge localEntries remoteEntries).addLocal := by
  rw [merge_eq]
  obtain ⟨haddNodup, haddIff⟩ := additions_raise localEntries hremote
  have hnodup :
      ((remoteEntries.filterMap (raisedBy? localEntries)).map deviceId).Nodup := by
    refine hremote.nodup.sublist
      (KeyedMaximum.map_key_filterMap_sublist deviceId ?_ remoteEntries)
    intro entry change hchange
    rw [(raisedBy?_eq_some_iff.mp hchange).1]
  refine ⟨hnodup, haddNodup, fun device value => ?_, haddIff⟩
  rw [KeyedMaximum.valueAt?_eq_some_iff _ _ hnodup,
    KeyedMaximum.valueAt?_eq_some_iff _ _ hremote.nodup]
  constructor
  · rintro ⟨change, hchange, rfl, rfl⟩
    obtain ⟨entry, hmem, hraised⟩ := List.mem_filterMap.mp hchange
    obtain ⟨rfl, held, hheld, hlt⟩ := raisedBy?_eq_some_iff.mp hraised
    exact ⟨⟨change, hmem, rfl, rfl⟩, held.clockValue,
      clockOf?_of_heldFor? hheld, hlt⟩
  · rintro ⟨⟨entry, hmem, rfl, rfl⟩, value, hvalue, hlt⟩
    cases hheld : heldFor? localEntries entry with
    | none =>
        have hnone := heldFor?_eq_none_iff.mp hheld
        rw [clockOf?, hvalue] at hnone
        cases hnone
    | some held =>
        have hclock := clockOf?_of_heldFor? hheld
        rw [clockOf?, hvalue, Option.some.injEq] at hclock
        have hraised : raisedBy? localEntries entry = some entry :=
          raisedBy?_eq_some_iff.mpr ⟨rfl, held, hheld, hclock ▸ hlt⟩
        exact ⟨entry, List.mem_filterMap.mpr ⟨entry, hmem, hraised⟩, rfl, rfl⟩

theorem merge_raises_remote {localEntries remoteEntries}
    (hlocal : DistinctDevices localEntries)
    (hremote : DistinctDevices remoteEntries) :
    KeyedMaximum.Raises deviceId clockValue remoteEntries localEntries
      (merge localEntries remoteEntries).updateRemote
      (merge localEntries remoteEntries).addRemote := by
  rw [merge_eq]
  obtain ⟨haddNodup, haddIff⟩ := additions_raise remoteEntries hlocal
  have hnodup :
      ((remoteEntries.filterMap (raiserOf? localEntries)).map deviceId).Nodup := by
    refine hremote.nodup.sublist
      (KeyedMaximum.map_key_filterMap_sublist deviceId ?_ remoteEntries)
    intro entry change hchange
    exact (deviceId_of_heldFor? (raiserOf?_eq_some_iff.mp hchange).1).2
  refine ⟨hnodup, haddNodup, fun device value => ?_, haddIff⟩
  rw [KeyedMaximum.valueAt?_eq_some_iff _ _ hnodup,
    KeyedMaximum.valueAt?_eq_some_iff _ _ hlocal.nodup]
  constructor
  · rintro ⟨change, hchange, rfl, rfl⟩
    obtain ⟨entry, hmem, hraiser⟩ := List.mem_filterMap.mp hchange
    obtain ⟨hheld, hlt⟩ := raiserOf?_eq_some_iff.mp hraiser
    obtain ⟨hchangeMem, hdevice⟩ := deviceId_of_heldFor? hheld
    refine ⟨⟨change, hchangeMem, rfl, rfl⟩, entry.clockValue, ?_, hlt⟩
    rw [hdevice]
    exact KeyedMaximum.valueAt?_of_mem _ _ hremote.nodup hmem
  · rintro ⟨⟨held, hheldMem, rfl, rfl⟩, value, hvalue, hlt⟩
    obtain ⟨entry, hmem, hdevice, rfl⟩ := KeyedMaximum.mem_of_valueAt? _ _ hvalue
    have hheld : heldFor? localEntries entry = some held := by
      rw [heldFor?, hdevice]
      exact KeyedMaximum.find?_of_mem _ hlocal.nodup hheldMem
    have hraiser : raiserOf? localEntries entry = some held :=
      raiserOf?_eq_some_iff.mpr ⟨hheld, hlt⟩
    exact ⟨held, List.mem_filterMap.mpr ⟨entry, hmem, hraiser⟩, rfl, rfl⟩

theorem merge_localNeedsUpdate_iff :
    (merge localEntries remoteEntries).localNeedsUpdate = true ↔
      ¬((merge localEntries remoteEntries).updateLocal = [] ∧
        (merge localEntries remoteEntries).addLocal = []) := by
  rw [merge_eq]
  simp only [Bool.or_eq_true, Bool.not_eq_true', List.isEmpty_eq_false_iff]
  tauto

theorem merge_remoteNeedsUpdate_iff :
    (merge localEntries remoteEntries).remoteNeedsUpdate = true ↔
      ¬((merge localEntries remoteEntries).updateRemote = [] ∧
        (merge localEntries remoteEntries).addRemote = []) := by
  rw [merge_eq]
  simp only [Bool.or_eq_true, Bool.not_eq_true', List.isEmpty_eq_false_iff]
  tauto

end ResourceVectorClock

end Osvauld.Core
