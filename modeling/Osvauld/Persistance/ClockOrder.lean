import Osvauld.Persistance.ResourceRepository

namespace Osvauld.Persistance

open Osvauld.Core Data

/-! The clocks that are stored for each resource and device, and what keeps them
from going backwards. -/

def clockKey (row : ResourceVectorClockModel) : String × String :=
  (row.resourceId, row.deviceId)

def storedClock? (ctx : RepositoryContext) (resourceId deviceId : String) :
    Option Int :=
  KeyedMaximum.valueAt? clockKey ResourceVectorClockModel.clockValue
    ctx.vectorClocks (resourceId, deviceId)

abbrev ClocksDominate (ctx' ctx : RepositoryContext) : Prop :=
  KeyedMaximum.Dominates clockKey ResourceVectorClockModel.clockValue
    ctx'.vectorClocks ctx.vectorClocks

def DistinctClockIds (ctx : RepositoryContext) : Prop :=
  (ctx.vectorClocks.map ResourceVectorClockModel.id).Nodup

structure ClocksRise (ctx ctx' : RepositoryContext) : Prop where
  ids : DistinctClockIds ctx → DistinctClockIds ctx'
  clocks : DistinctClockIds ctx → ClocksDominate ctx' ctx

instance : IsPreorder RepositoryContext ClocksRise where
  refl _ := ⟨id, fun _ => .refl _⟩
  trans _ _ _ hfirst hsecond :=
    ⟨fun hids => hsecond.ids (hfirst.ids hids),
      fun hids => (hsecond.clocks (hfirst.ids hids)).trans (hfirst.clocks hids)⟩

variable {ctx : RepositoryContext} (change : ResourceVectorClock)

@[simp] theorem clockKey_ofDomain :
    clockKey (.ofDomain change) = (change.resourceId, change.deviceId) := rfl

@[simp] theorem clockValue_ofDomain :
    (ResourceVectorClockModel.ofDomain change).clockValue =
      asI32 change.clockValue := by
  simp only [ResourceVectorClockModel.ofDomain]

@[simp] theorem updatedAt_ofDomain :
    (ResourceVectorClockModel.ofDomain change).updatedAt = change.updatedAt := rfl

def NotBehind (ctx : RepositoryContext) (change : ResourceVectorClock) : Prop :=
  ∀ held, storedClock? ctx change.resourceId change.deviceId = some held →
    held ≤ asI32 change.clockValue

theorem NotBehind.of_stored {change : ResourceVectorClock} {held : Int}
    (hheld : storedClock? ctx change.resourceId change.deviceId = some held)
    (hle : held ≤ asI32 change.clockValue) : NotBehind ctx change := by
  intro other hother
  rw [hheld] at hother
  cases hother
  exact hle

theorem NotBehind.row {change : ResourceVectorClock} (hahead : NotBehind ctx change) (held : Int)
    (hheld : KeyedMaximum.valueAt? clockKey ResourceVectorClockModel.clockValue
      ctx.vectorClocks (clockKey (.ofDomain change)) = some held) :
    held ≤ (ResourceVectorClockModel.ofDomain change).clockValue := by
  rw [clockKey_ofDomain] at hheld
  rw [clockValue_ofDomain]
  exact hahead held hheld

namespace ClocksRise

variable {ctx ctx' : RepositoryContext}

theorem of_eq (hclocks : ctx'.vectorClocks = ctx.vectorClocks) : ClocksRise ctx ctx' := by
  constructor
  · intro hids
    rw [DistinctClockIds, hclocks]
    exact hids
  · intro _
    rw [ClocksDominate, hclocks]
    exact .refl _

theorem insert_clock {row : ResourceVectorClockModel}
    (hfree : ∀ other ∈ ctx.vectorClocks, other.id ≠ row.id) :
    ClocksRise ctx
      { ctx with vectorClocks := ctx.vectorClocks ++ [row] } := by
  refine ⟨fun hids => ?_, fun _ => (KeyedMaximum.Dominates.refl _).append [row]⟩
  have hnew : row.id ∉ ctx.vectorClocks.map ResourceVectorClockModel.id := by
    simpa using hfree
  simpa [DistinctClockIds, List.nodup_append] using ⟨hids, by simpa using hnew⟩

theorem insertAll_clocks {onConflict : OnConflict} {rows : List ResourceVectorClockModel}
    (hinsert : Table.vectorClocks.insertAll onConflict rows ctx = .ok ctx') : ClocksRise ctx ctx' :=
  Table.insertAll_induction (ClocksRise ctx)
    (fun _ _ _ hfree hstate => trans_of ClocksRise hstate (insert_clock hfree))
    (refl_of ClocksRise ctx) hinsert

theorem isFor_eq (resourceId deviceId : String) :
    VectorClockRepo.isFor resourceId deviceId =
      fun row => decide (clockKey row = (resourceId, deviceId)) := by
  funext row
  simp [VectorClockRepo.isFor, clockKey, Bool.decide_and]

theorem map_ids {change : ResourceVectorClockModel → ResourceVectorClockModel}
    (hid : ∀ row, (change row).id = row.id) (rows : List ResourceVectorClockModel) :
    (rows.map change).map ResourceVectorClockModel.id =
      rows.map ResourceVectorClockModel.id := by
  rw [List.map_map]
  exact List.map_congr_left fun row _ => hid row

theorem le_bmod_succ {value : Int} (hbound : value < 2 ^ 31 - 1) :
    value ≤ (value + 1).bmod (2 ^ 32) := by
  simp only [Int.bmod]
  split <;> omega

theorem incrementVectorClock {freshId : String} {now : Int} {resourceId deviceId : String}
    (hbound : ∀ held, storedClock? ctx resourceId deviceId = some held → held < 2 ^ 31 - 1)
    (hincrement : VectorClockRepo.incrementVectorClock freshId now resourceId
      deviceId ctx = .ok ctx') : ClocksRise ctx ctx' := by
  unfold VectorClockRepo.incrementVectorClock at hincrement
  split at hincrement
  · next model hfound =>
      cases hincrement
      have hheld : model.clockValue < 2 ^ 31 - 1 := by
        apply hbound
        rw [isFor_eq] at hfound
        rw [storedClock?, KeyedMaximum.valueAt?, hfound, Option.map_some]
      constructor
      · intro hids
        rw [DistinctClockIds, map_ids]
        · exact hids
        · intro row
          split <;> rfl
      · intro hids
        refine KeyedMaximum.dominates_map ?_ ?_
        · intro entry _
          split <;> rfl
        · intro entry hentry
          split
          · next hid =>
              obtain rfl : entry = model := List.inj_on_of_nodup_map hids hentry
                (List.mem_of_find?_eq_some hfound) hid
              exact le_bmod_succ hheld
          · exact le_rfl
  · rw [reportAs_eq_ok, ← Table.insertAll_singleton] at hincrement
    exact insertAll_clocks hincrement

def setRow (row change : ResourceVectorClockModel) : ResourceVectorClockModel :=
  { row with clockValue := change.clockValue, updatedAt := change.updatedAt }

theorem setRow_overwrites :
    KeyedMaximum.Overwrites clockKey ResourceVectorClockModel.clockValue setRow where
  key_eq := fun _ _ => rfl
  value_eq := fun _ _ => rfl

theorem setClock_eq (change : ResourceVectorClock)
    (rows : List ResourceVectorClockModel) :
    VectorClockRepo.setClock change rows =
      KeyedMaximum.assign clockKey setRow rows (.ofDomain change) := by
  simp [VectorClockRepo.setClock, KeyedMaximum.assign, isFor_eq, setRow]

theorem foldl_setClock_eq (changes : List ResourceVectorClock)
    (rows : List ResourceVectorClockModel) :
    changes.foldl (fun rows change => VectorClockRepo.setClock change rows) rows =
      KeyedMaximum.assignAll clockKey setRow rows
        (changes.map ResourceVectorClockModel.ofDomain) := by
  rw [KeyedMaximum.assignAll, List.foldl_map]
  simp only [setClock_eq]

theorem map_ids_assignAll (changes rows : List ResourceVectorClockModel) :
    (KeyedMaximum.assignAll clockKey setRow rows changes).map
        ResourceVectorClockModel.id =
      rows.map ResourceVectorClockModel.id := by
  induction changes generalizing rows with
  | nil => rfl
  | cons change changes ih =>
      refine (ih _).trans (map_ids (fun row => ?_) rows)
      split <;> rfl

theorem updateVectorClocks {updates additions : List ResourceVectorClock}
    (hupdates : ∀ change ∈ updates, NotBehind ctx change)
    (hupdate : VectorClockRepo.updateVectorClocks updates additions ctx = .ok ctx') :
    ClocksRise ctx ctx' := by
  unfold VectorClockRepo.updateVectorClocks at hupdate
  rw [foldl_setClock_eq, reportAs_eq_ok] at hupdate
  refine trans_of ClocksRise ⟨?_, fun _ => ?_⟩ (insertAll_clocks hupdate)
  · intro hids
    rw [DistinctClockIds, map_ids_assignAll]
    exact hids
  · refine (KeyedMaximum.Dominates.refl _).assignAll setRow_overwrites ?_
    intro row hrow
    obtain ⟨change, hchange, rfl⟩ := List.mem_map.mp hrow
    exact (hupdates change hchange).row

def setValue (row change : ResourceVectorClockModel) : ResourceVectorClockModel :=
  { row with clockValue := change.clockValue }

theorem setValue_overwrites :
    KeyedMaximum.Overwrites clockKey ResourceVectorClockModel.clockValue setValue where
  key_eq := fun _ _ => rfl
  value_eq := fun _ _ => rfl

theorem clash_eq (row other : ResourceVectorClockModel) :
    Table.vectorClocks.clash other row = decide (clockKey other = clockKey row) := by
  simp [Table.vectorClocks, clockKey, Bool.decide_and]

theorem upsertClock {start : RepositoryContext} {change : ResourceVectorClock}
    (hstart : ClocksRise start ctx) (hahead : NotBehind start change)
    (hupsert : ResourceRepo.upsertClock (.ofDomain change) ctx = .ok ctx') :
    ClocksRise start ctx' := by
  unfold ResourceRepo.upsertClock at hupsert
  split at hupsert
  · cases hupsert
    refine ⟨fun hids => ?_, fun hids => ?_⟩
    · rw [DistinctClockIds, map_ids]
      · exact hstart.ids hids
      · intro row
        split <;> rfl
    · have hassigned : ClocksDominate
          { ctx with
            vectorClocks := KeyedMaximum.assign clockKey setValue ctx.vectorClocks
              (.ofDomain change) } start :=
        (hstart.clocks hids).assign setValue_overwrites hahead.row
      simp only [KeyedMaximum.assign, setValue] at hassigned
      simp only [clash_eq, decide_eq_true_eq]
      exact hassigned
  · rw [← Table.insertAll_singleton] at hupsert
    exact trans_of ClocksRise hstart (insertAll_clocks hupsert)

theorem upsertClocks {changes : List ResourceVectorClock}
    (hchanges : ∀ change ∈ changes, NotBehind ctx change)
    (hupsert : ResourceRepo.upsertClocks changes ctx = .ok ctx') : ClocksRise ctx ctx' := by
  refine foldlM_invariant (ClocksRise ctx) (fun row hrow state next hstate hnext => ?_)
    (refl_of ClocksRise ctx) hupsert
  obtain ⟨change, hchange, rfl⟩ := List.mem_map.mp hrow
  exact upsertClock hstate (hchanges change hchange) hnext

theorem upsertClocks_after {changes : List ResourceVectorClock} {start : RepositoryContext}
    (hclocks : ctx.vectorClocks = start.vectorClocks)
    (hchanges : ∀ change ∈ changes, NotBehind start change)
    (hupsert : ResourceRepo.upsertClocks changes ctx = .ok ctx') : ClocksRise start ctx' := by
  refine trans_of ClocksRise (of_eq hclocks) (upsertClocks (fun change hchange => ?_) hupsert)
  intro held hheld
  rw [storedClock?, hclocks] at hheld
  exact hchanges change hchange held hheld

end ClocksRise

theorem insertAll_vectorClocks {Row : Type} {table : Table Row} {onConflict : OnConflict}
    {rows : List Row} {ctx' : RepositoryContext}
    (hclocks : ∀ rows ctx, (table.setRows rows ctx).vectorClocks = ctx.vectorClocks)
    (hinsert : table.insertAll onConflict rows ctx = .ok ctx') :
    ctx'.vectorClocks = ctx.vectorClocks :=
  Table.insertAll_induction (fun state => state.vectorClocks = ctx.vectorClocks)
    (fun _ _ _ _ hstate => (hclocks _ _).trans hstate) rfl hinsert

namespace ClocksRise

section

variable {keys : List ResourceKey} {records : List ShareRecord} {clocks : List ResourceVectorClock}
  {ctx ctx' : RepositoryContext} (hahead : ∀ change ∈ clocks, NotBehind ctx change)

include hahead

theorem saveBulkSharingData
    (hsave : ResourceRepo.saveBulkSharingData keys records clocks ctx = .ok ctx') :
    ClocksRise ctx ctx' := by
  simp only [ResourceRepo.saveBulkSharingData, reportAs_eq_ok, bind_eq_ok] at hsave
  obtain ⟨first, hkeys, second, hshares, hclocks⟩ := hsave
  have hfirst := insertAll_vectorClocks (fun _ _ => rfl) hkeys
  have hsecond := insertAll_vectorClocks (fun _ _ => rfl) hshares
  exact upsertClocks_after (hsecond.trans hfirst) hahead hclocks

theorem saveResourceAndFolderSharingData {folderRecords : List FolderShareRecord}
    (hsave : ResourceRepo.saveResourceAndFolderSharingData keys records clocks
      folderRecords ctx = .ok ctx') : ClocksRise ctx ctx' := by
  simp only [ResourceRepo.saveResourceAndFolderSharingData, reportAs_eq_ok,
    bind_eq_ok] at hsave
  obtain ⟨first, hkeys, second, hshares, third, hclocks, hfolder⟩ := hsave
  have hfirst := insertAll_vectorClocks (fun _ _ => rfl) hkeys
  have hsecond := insertAll_vectorClocks (fun _ _ => rfl) hshares
  have hthird := insertAll_vectorClocks (fun _ _ => rfl) hfolder
  exact trans_of ClocksRise
    (upsertClocks_after (hsecond.trans hfirst) hahead hclocks) (of_eq hthird)

end

end ClocksRise

end Osvauld.Persistance
