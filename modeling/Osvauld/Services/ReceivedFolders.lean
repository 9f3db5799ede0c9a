import Osvauld.Persistance.KeyedTables
import Osvauld.Services.SyncService

namespace Osvauld.Services

open Osvauld.Core Data Data.KeyedInserts Persistance

/-! The folders that received resources are in. -/

def LiveFolder (ctx : RepositoryContext) (folderId : String) : Prop :=
  ∃ folder ∈ ctx.folders, folder.id = folderId ∧ folder.deleted = false

def InLiveFolder (ctx : RepositoryContext) (resourceId : String) : Prop :=
  ∃ stored, ResourceRepo.resource? ctx resourceId = some stored ∧
    LiveFolder ctx stored.folderId

/-- The first of the folder the resource was in and the one it was created in that
is stored here, deleted or not. -/
def knownFolder? (ctx : RepositoryContext) (resource : Resource) : Option String :=
  [resource.folderId, resource.createdFolderId].find? fun folderId => folderExists ctx folderId

def AvoidsDeleted (ctx : RepositoryContext) (resource : Resource) : Prop :=
  match ResourceRepo.resource? ctx resource.id with
  | some stored => LiveFolder ctx stored.folderId
  | none => ∀ folderId, knownFolder? ctx resource = some folderId → LiveFolder ctx folderId

theorem folderExists_eq_isSome (ctx : RepositoryContext) (folderId : String) :
    folderExists ctx folderId =
      (ctx.folders.find? fun folder => folder.id = folderId).isSome := by
  rw [Bool.eq_iff_iff, List.find?_isSome, folderExists, List.any_eq_true]

variable {ctx ctx' : RepositoryContext}

theorem findById_of_known {folderId : String} (hknown : folderExists ctx folderId = true) :
    ∃ folder, FolderRepo.findById folderId ctx = .ok folder := by
  rw [folderExists_eq_isSome] at hknown
  obtain ⟨folder, hfolder⟩ := Option.isSome_iff_exists.mp hknown
  exact ⟨folder, by rw [FolderRepo.findById, hfolder]; rfl⟩

theorem findById_of_unknown {folderId : String} (hunknown : folderExists ctx folderId = false) :
    FolderRepo.findById folderId ctx = .error .notFound := by
  rw [folderExists_eq_isSome, Option.isSome_eq_false_iff, Option.isNone_iff_eq_none]
    at hunknown
  rw [FolderRepo.findById, hunknown]
  rfl

theorem getDefaultFolder_live {folder : Folder}
    (hdefault : FolderRepo.getDefaultFolder ctx = .ok folder) : LiveFolder ctx folder.id := by
  unfold FolderRepo.getDefaultFolder firstOrNotFound at hdefault
  dsimp only at hdefault
  split at hdefault
  · next found hfound =>
      cases hdefault
      have hmem := List.mem_mergeSort.mp (List.mem_of_mem_head? hfound)
      rw [List.mem_filter, Bool.and_eq_true, Bool.not_eq_true'] at hmem
      exact ⟨folder, hmem.1, rfl, hmem.2.1⟩
  · cases hdefault

theorem placeReceived_run {payload placed : ResourceSyncData}
    (hplaced : (placeReceived .user payload).run ctx = (.ok placed, ctx')) :
    ctx' = ctx ∧ ∃ folderId,
      placed = { payload with resource := { payload.resource with folderId } } ∧
        match knownFolder? ctx payload.resource with
        | some known => folderId = known
        | none => LiveFolder ctx folderId := by
  unfold placeReceived at hplaced
  simp only [Program.run_bind, Program.run_attempt, query, Program.run_read,
    Program.andThen_ok] at hplaced
  cases hfolder : folderExists ctx payload.resource.folderId with
  | true =>
      obtain ⟨folder, hfound⟩ := findById_of_known hfolder
      rw [hfound] at hplaced
      cases hplaced
      exact ⟨rfl, _, rfl, by simp [knownFolder?, hfolder]⟩
  | false =>
      rw [findById_of_unknown hfolder] at hplaced
      simp only [Except.mapError, Program.run_bind, Program.run_attempt, Program.run_read,
        Program.andThen_ok] at hplaced
      cases hcreated : folderExists ctx payload.resource.createdFolderId with
      | true =>
          obtain ⟨folder, hfound⟩ := findById_of_known hcreated
          rw [hfound] at hplaced
          cases hplaced
          exact ⟨rfl, _, rfl, by simp [knownFolder?, hfolder, hcreated]⟩
      | false =>
          rw [findById_of_unknown hcreated] at hplaced
          simp only [Except.mapError, Except.isOk, Except.toBool, Bool.false_eq_true,
            if_false, Program.run_bind, Program.run_mapError, Program.run_read] at hplaced
          cases hdefault : FolderRepo.getDefaultFolder ctx with
          | error error =>
              rw [hdefault] at hplaced
              cases hplaced
          | ok folder =>
              rw [hdefault] at hplaced
              cases hplaced
              refine ⟨rfl, folder.id, rfl, ?_⟩
              have hnone : knownFolder? ctx payload.resource = none := by
                simp [knownFolder?, hfolder, hcreated]
              rw [hnone]
              exact getDefaultFolder_live hdefault

theorem saveResourceSyncData_places {payload : ResourceSyncData}
    (hsave : ResourceRepo.saveResourceSyncData payload ctx = .ok ctx') :
    ctx'.resources = extend Resource.id [payload.resource] ctx.resources ∧
      ctx'.folders = ctx.folders := by
  simp only [ResourceRepo.saveResourceSyncData, reportAs_eq_ok, bind_eq_ok] at hsave
  obtain ⟨first, hresource, second, hkeys, third, hshares, hclocks⟩ := hsave
  have hfirst := (resources_keyed.insert_eq_ok_iff.mp hresource).2
  let Placed (state : RepositoryContext) : Prop :=
    state.resources = extend Resource.id [payload.resource] ctx.resources ∧
      state.folders = ctx.folders
  have hstart : Placed first := by
    rw [hfirst]
    exact ⟨rfl, rfl⟩
  have hsecond : Placed second :=
    Table.insertAll_induction Placed (fun _ _ _ _ hstate => hstate) hstart hkeys
  have hthird : Placed third :=
    Table.insertAll_induction Placed (fun _ _ _ _ hstate => hstate) hsecond hshares
  exact Table.insertAll_induction Placed (fun _ _ _ _ hstate => hstate) hthird hclocks

theorem resource?_extend {resource : Resource}
    (hresources : ctx'.resources = extend Resource.id [resource] ctx.resources) :
    ResourceRepo.resource? ctx' resource.id =
      some ((ResourceRepo.resource? ctx resource.id).getD resource) := by
  unfold ResourceRepo.resource?
  rw [hresources]
  cases hstored : ctx.resources.find? fun other => decide (other.id = resource.id) with
  | some stored =>
      have hheld : resource.id ∈ ctx.resources.map Resource.id :=
        List.mem_map.mpr ⟨stored, List.mem_of_find?_eq_some hstored,
          by simpa using List.find?_some hstored⟩
      rw [extend_singleton_of_held hheld, hstored]
      rfl
  | none =>
      have hfree : resource.id ∉ ctx.resources.map Resource.id := by
        rw [List.find?_eq_none] at hstored
        intro hheld
        obtain ⟨other, hother, hid⟩ := List.mem_map.mp hheld
        exact hstored other hother (by simpa using hid)
      rw [extend_singleton_of_free hfree, List.find?_append, hstored]
      simp

/-- Once a resource has been received, it is in a folder that is there to be seen,
unless the folder it came from, or the one it was created in, or the one it is in
already, has been deleted here. -/
theorem addResourceSync_inLiveFolder_iff {payload : ResourceSyncData}
    {ctx ctx' : RepositoryContext}
    (hadded : (addResourceSync payload .user).run ctx = (.ok .unit, ctx')) :
    InLiveFolder ctx' payload.resource.id ↔ AvoidsDeleted ctx payload.resource := by
  unfold addResourceSync at hadded
  obtain ⟨placed, between, hplaced, hsaved⟩ := Program.run_bind_eq_ok.mp hadded
  obtain ⟨rfl, folderId, rfl, hfolder⟩ := placeReceived_run hplaced
  have hsave : ResourceRepo.saveResourceSyncData
      { payload with resource := { payload.resource with folderId } } between = .ok ctx' := by
    rw [update, Program.run_write] at hsaved
    cases hresult : ResourceRepo.saveResourceSyncData
        { payload with resource := { payload.resource with folderId } } between with
    | error error =>
        rw [hresult] at hsaved
        cases hsaved
    | ok written =>
        rw [hresult] at hsaved
        cases hsaved
        rfl
  obtain ⟨hresources, hfolders⟩ := saveResourceSyncData_places hsave
  have hstored := resource?_extend hresources
  have hlive (id : String) : LiveFolder ctx' id ↔ LiveFolder between id := by
    rw [LiveFolder, LiveFolder, hfolders]
  rw [InLiveFolder, hstored]
  simp only [Option.some.injEq, exists_eq_left', hlive]
  unfold AvoidsDeleted
  cases hknown : ResourceRepo.resource? between payload.resource.id with
  | some stored => exact Iff.rfl
  | none =>
      rw [Option.getD_none]
      cases hplace : knownFolder? between payload.resource with
      | some known =>
          rw [hplace] at hfolder
          simp [hfolder]
      | none =>
          rw [hplace] at hfolder
          simpa using hfolder

def receivedNote (folderId : String) : ResourceSyncData :=
  { resource := .new "a" 0 .notes (.other "") folderId "" "P"
    resourceKeys := [], shareRecords := [], vectorClocks := [] }

def trimmedStore : RepositoryContext :=
  { users := [.sample "P"]
    folders := [.sample "home", { Folder.sample "old" with deleted := true }] }

/-- The note is stored, in the deleted folder. -/
theorem not_inLiveFolder_receivedNote :
    ∃ ctx', (addResourceSync (receivedNote "old") .user).run trimmedStore =
        (.ok .unit, ctx') ∧ ¬ InLiveFolder ctx' "a" := by
  refine ⟨_, rfl, ?_⟩
  rintro ⟨stored, hstored, folder, hfolder, hid, hlive⟩
  cases hstored
  cases hfolder with
  | head _ => exact absurd hid (by decide)
  | tail _ hfolder =>
      cases List.mem_singleton.mp hfolder
      cases hlive

theorem addResourceSync_inLiveFolder_iff_receivedNote :
    ∃ ctx', (addResourceSync (receivedNote "home") .user).run trimmedStore =
        (.ok .unit, ctx') ∧
      (InLiveFolder ctx' "a" ↔ AvoidsDeleted trimmedStore (receivedNote "home").resource) :=
  ⟨_, rfl, @addResourceSync_inLiveFolder_iff (receivedNote "home") _ _ rfl⟩

end Osvauld.Services
