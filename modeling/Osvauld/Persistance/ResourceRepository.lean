import Osvauld.Persistance.RepositoryContext

namespace Osvauld.Persistance

open Osvauld.Core

/-! Resources, their keys and their share records. -/

namespace ShareRepo

def saveMany (shareRecords : List ShareRecord) (ctx : RepositoryContext) :
    Except RepositoryError RepositoryContext :=
  reportAs
    ("Failed to bulk save " ++ toString shareRecords.length ++ " share records")
    (Table.shareRecords.insertAll .doNothing shareRecords ctx)

def findByResource (resourceId : String) (ctx : RepositoryContext) :
    Except RepositoryError (List ShareRecord) :=
  .ok (ctx.shareRecords.filter fun record => record.resourceId = resourceId)

def getUserShareRecords (userId : String) (ctx : RepositoryContext) :
    Except RepositoryError (List ShareRecord) :=
  let resourceIds := (ctx.shareRecords.filter fun record =>
    record.recipientUserId = userId).map fun record => record.resourceId
  .ok (ctx.shareRecords.filter fun record => record.resourceId ∈ resourceIds)

def findByResourceAndOperationAndUser (resourceId : String)
    (operationType : ShareOperation) (userId : String)
    (ctx : RepositoryContext) : Except RepositoryError ShareRecord :=
  firstOrNotFound (ctx.shareRecords.find? fun record =>
    record.resourceId = resourceId && record.recipientUserId = userId &&
      record.operationType = operationType)

def getUcanByCid (cid : String) (ctx : RepositoryContext) :
    Except RepositoryError String :=
  (firstOrNotFound (ctx.shareRecords.find? fun record =>
    record.ucanCid = cid)).map fun record => record.ucanToken

end ShareRepo

namespace ResourceKeyRepo

def addResourceKeys (keys : List ResourceKey) (ctx : RepositoryContext) :
    Except RepositoryError RepositoryContext :=
  reportAs
    ("Failed to bulk add " ++ toString keys.length ++ " resource keys")
    (Table.resourceKeys.insertAll .doNothing keys ctx)

def findByResourceId (resourceId : String) (ctx : RepositoryContext) :
    Except RepositoryError (List ResourceKey) :=
  .ok (ctx.resourceKeys.filter fun key => key.resourceId = resourceId)

def keyFor? (ctx : RepositoryContext) (resourceId userId : String) :
    Option ResourceKey :=
  ctx.resourceKeys.find? fun key =>
    key.resourceId = resourceId && key.userId = userId

def findByResourceAndUser (resourceId userId : String)
    (ctx : RepositoryContext) : Except RepositoryError ResourceKey :=
  firstOrNotFound (keyFor? ctx resourceId userId)

end ResourceKeyRepo

namespace ResourceRepo

def resource? (ctx : RepositoryContext) (id : String) : Option Resource :=
  ctx.resources.find? fun resource => resource.id = id

def setData (data : AesText) (now : Int) (resource : Resource) : Resource :=
  { resource with data, updatedAt := now }

/-- No row need match: an update of nothing succeeds. -/
def updateResource (now : Int) (data : AesText) (resourceId : String)
    (ctx : RepositoryContext) : Except RepositoryError RepositoryContext :=
  .ok { ctx with
    resources := ctx.resources.map fun resource =>
      if resource.id = resourceId then setData data now resource else resource }

def softDeleteResource (now : Int) (id : String) (ctx : RepositoryContext) :
    Except RepositoryError RepositoryContext :=
  .ok { ctx with
    resources := ctx.resources.map fun resource =>
      if resource.id = id then
        { resource with deleted := true, deletedAt := some now, updatedAt := now }
      else resource }

def findById (id userId : String) (ctx : RepositoryContext) :
    Except RepositoryError ResourceWithKey :=
  match resource? ctx id, ResourceKeyRepo.keyFor? ctx id userId with
  | some resource, some key => .ok { resource, encryptedKey := key.encryptedKey }
  | _, _ => .error .notFound

/-- The resources joined with the user's keys for them, the last accessed first. Which of
two resources accessed at one time is first is left open by the source. -/
def queryResourcesWithKeys (userId : String) (folderId : Option String)
    (favoritesOnly includeDeleted : Bool) (ctx : RepositoryContext) :
    Except RepositoryError (List ResourceWithKey) :=
  let joined := ctx.resources.flatMap fun resource =>
    (ctx.resourceKeys.filter fun key =>
      key.resourceId = resource.id && key.userId = userId).map fun key =>
        { resource, encryptedKey := key.encryptedKey }
  let results := joined.filter fun row : ResourceWithKey =>
    (includeDeleted || !row.resource.deleted) &&
      (!favoritesOnly || row.resource.favourite) &&
        folderId.all fun folder => row.resource.folderId = folder
  .ok (results.mergeSort fun row other =>
    other.resource.lastAccessed ≤ row.resource.lastAccessed)

def findByFolder (folderId userId : String) (ctx : RepositoryContext) :
    Except RepositoryError (List ResourceWithKey) :=
  queryResourcesWithKeys userId (some folderId) false false ctx

def getAllResources (userId : String) (ctx : RepositoryContext) :
    Except RepositoryError (List ResourceWithKey) :=
  queryResourcesWithKeys userId none false false ctx

def getAllResourceIds (ctx : RepositoryContext) : Except RepositoryError (List String) :=
  let live := ctx.resources.filter fun resource : Resource => !resource.deleted
  .ok ((live.mergeSort fun resource other =>
    other.lastAccessed ≤ resource.lastAccessed).map Resource.id)

def saveResourceWithDependencies (resource : Resource)
    (resourceKey : ResourceKey) (shareRecord : ShareRecord)
    (vectorClocks : List ResourceVectorClock) (ctx : RepositoryContext) :
    Except RepositoryError RepositoryContext :=
  reportAs
    ("Failed to save resource '" ++ resource.id ++ "' with dependencies (" ++
      toString vectorClocks.length ++ " vector clocks)") do
    let ctx ← Table.resources.insert .abort resource ctx
    let ctx ← Table.resourceKeys.insert .abort resourceKey ctx
    let ctx ← Table.shareRecords.insert .abort shareRecord ctx
    Table.vectorClocks.insertAll .abort
      (vectorClocks.map ResourceVectorClockModel.ofDomain) ctx

def shareResourceTransaction (resourceKey : ResourceKey)
    (shareRecord : ShareRecord)
    (recipientVectorClocks : List ResourceVectorClock)
    (ctx : RepositoryContext) : Except RepositoryError RepositoryContext :=
  reportAs
    ("Failed to share resource '" ++ resourceKey.resourceId ++ "' to user '" ++
      resourceKey.userId ++ "' (" ++ toString recipientVectorClocks.length ++
      " vector clocks)") do
    let ctx ← Table.resourceKeys.insert .abort resourceKey ctx
    let ctx ← Table.shareRecords.insert .abort shareRecord ctx
    Table.vectorClocks.insertAll .abort
      (recipientVectorClocks.map ResourceVectorClockModel.ofDomain) ctx

def clocksOf (ctx : RepositoryContext) (resourceId : String) :
    List ResourceVectorClock :=
  (ctx.vectorClocks.filter fun clock => clock.resourceId = resourceId).map
    ResourceVectorClockModel.toDomain

def manifestEntry (ctx : RepositoryContext) (resourceId : String) :
    ResourceManifestData :=
  { resourceId
    shareRecordIds := (ctx.shareRecords.filter fun record =>
      record.resourceId = resourceId).map fun record => record.id
    vectorClocks := clocksOf ctx resourceId }

/-- For the given resources, or for all that are not deleted. -/
def getResourceManifestData (resourceIds : Option (List String))
    (ctx : RepositoryContext) :
    Except RepositoryError (List ResourceManifestData) :=
  let targetResourceIds := match resourceIds with
    | some ids => ids
    | none =>
        (ctx.resources.filter fun resource : Resource => !resource.deleted).map
          fun resource : Resource => resource.id
  .ok (targetResourceIds.map (manifestEntry ctx))

def getResourceSyncData (resourceId : String) (ctx : RepositoryContext) :
    Except RepositoryError ResourceSyncData :=
  match resource? ctx resourceId with
  | none => .error .notFound
  | some resource => .ok
      { resource
        resourceKeys := ctx.resourceKeys.filter fun key =>
          key.resourceId = resourceId
        shareRecords := ctx.shareRecords.filter fun record =>
          record.resourceId = resourceId
        vectorClocks := clocksOf ctx resourceId }

def saveResourceSyncData (syncData : ResourceSyncData)
    (ctx : RepositoryContext) : Except RepositoryError RepositoryContext :=
  reportAs
    ("Failed to save sync data for resource '" ++ syncData.resource.id ++
      "' (keys: " ++ toString syncData.resourceKeys.length ++ ", shares: " ++
      toString syncData.shareRecords.length ++ ", clocks: " ++
      toString syncData.vectorClocks.length ++ ")") do
    let ctx ← Table.resources.insert .doNothing syncData.resource ctx
    let ctx ← Table.resourceKeys.insertAll .doNothing syncData.resourceKeys ctx
    let ctx ← Table.shareRecords.insertAll .doNothing syncData.shareRecords ctx
    Table.vectorClocks.insertAll .doNothing
      (syncData.vectorClocks.map ResourceVectorClockModel.ofDomain) ctx

def findOwnerByResourceId (resourceId : String) (ctx : RepositoryContext) :
    Except RepositoryError User :=
  match resource? ctx resourceId with
  | none => .error .notFound
  | some resource =>
      firstOrNotFound (ctx.users.find? fun user => user.id = resource.createdBy)

def upsertClock (clock : ResourceVectorClockModel) (ctx : RepositoryContext) :
    Except Violation RepositoryContext :=
  if ctx.vectorClocks.any fun other => Table.vectorClocks.clash other clock then
    .ok { ctx with
      vectorClocks := ctx.vectorClocks.map fun other =>
        if Table.vectorClocks.clash other clock then
          { other with clockValue := clock.clockValue }
        else other }
  else Table.vectorClocks.insert .abort clock ctx

def upsertClocks (vectorClocks : List ResourceVectorClock)
    (ctx : RepositoryContext) : Except Violation RepositoryContext :=
  (vectorClocks.map ResourceVectorClockModel.ofDomain).foldlM
    (fun ctx clock => upsertClock clock ctx) ctx

def saveBulkSharingData (resourceKeys : List ResourceKey)
    (shareRecords : List ShareRecord) (vectorClocks : List ResourceVectorClock)
    (ctx : RepositoryContext) : Except RepositoryError RepositoryContext :=
  reportAs
    ("Failed to save bulk sharing data - " ++ toString resourceKeys.length ++
      " resource keys, " ++ toString shareRecords.length ++
      " share records, " ++ toString vectorClocks.length ++
      " vector clocks") do
    let ctx ← Table.resourceKeys.insertAll .doNothing resourceKeys ctx
    let ctx ← Table.shareRecords.insertAll .doNothing shareRecords ctx
    upsertClocks vectorClocks ctx

def saveResourceAndFolderSharingData (resourceKeys : List ResourceKey)
    (resourceShareRecords : List ShareRecord)
    (vectorClocks : List ResourceVectorClock)
    (folderShareRecords : List FolderShareRecord) (ctx : RepositoryContext) :
    Except RepositoryError RepositoryContext :=
  reportAs
    ("Failed to save sharing data in transaction - " ++
      toString resourceKeys.length ++ " resource keys, " ++
      toString resourceShareRecords.length ++ " share records, " ++
      toString vectorClocks.length ++ " vector clocks, " ++
      toString folderShareRecords.length ++ " folder share records") do
    let ctx ← Table.resourceKeys.insertAll .doNothing resourceKeys ctx
    let ctx ← Table.shareRecords.insertAll .doNothing resourceShareRecords ctx
    let ctx ← upsertClocks vectorClocks ctx
    Table.folderShareRecords.insertAll .doNothing folderShareRecords ctx

/-- The given resources that are in a folder and not deleted. -/
def getResourceIdsInFolder (resourceIds : List String) (folderId : String)
    (ctx : RepositoryContext) : List String :=
  (ctx.resources.filter fun resource : Resource =>
    resource.id ∈ resourceIds && !resource.deleted &&
      resource.folderId = folderId).map fun resource : Resource => resource.id

def getResourceIdsByFolderId (folderId : String) (ctx : RepositoryContext) :
    Except RepositoryError (List String) :=
  .ok ((ctx.resources.filter fun resource : Resource =>
    resource.folderId = folderId && !resource.deleted).map
      fun resource : Resource => resource.id)

end ResourceRepo

namespace VectorClockRepo

def isFor (resourceId deviceId : String) (clock : ResourceVectorClockModel) :
    Bool :=
  clock.resourceId = resourceId && clock.deviceId = deviceId

/-- Saves a clock unless there is one for its resource and device. -/
def saveVectorClock (clock : ResourceVectorClock) (ctx : RepositoryContext) :
    Except RepositoryError RepositoryContext :=
  if ctx.vectorClocks.any (isFor clock.resourceId clock.deviceId) then .ok ctx
  else
    reportAs
      ("Failed to save vector clock for resource '" ++ clock.resourceId ++
        "' device '" ++ clock.deviceId ++ "'")
      (Table.vectorClocks.insert .abort (.ofDomain clock) ctx)

/-- One transaction: add one to the row, or start it at one. The sum wraps as
that of an `i32` does. -/
def incrementVectorClock (freshId : String) (now : Int)
    (resourceId deviceId : String) (ctx : RepositoryContext) :
    Except RepositoryError RepositoryContext :=
  match ctx.vectorClocks.find? (isFor resourceId deviceId) with
  | some model => .ok
      { ctx with
        vectorClocks := ctx.vectorClocks.map fun clock =>
          if clock.id = model.id then
            { clock with
              clockValue := (model.clockValue + 1).bmod (2 ^ 32)
              updatedAt := now }
          else clock }
  | none =>
      reportAs
        ("Failed to increment vector clock for resource '" ++ resourceId ++
          "' device '" ++ deviceId ++ "'")
        (Table.vectorClocks.insert .abort (.ofDomain
          (ResourceVectorClock.initializeClock freshId now resourceId deviceId))
          ctx)

def getVectorClocksForResource (resourceId : String)
    (ctx : RepositoryContext) : Except RepositoryError (List ResourceVectorClock) :=
  .ok (ResourceRepo.clocksOf ctx resourceId)

def setClock (change : ResourceVectorClock) (rows : List ResourceVectorClockModel) :
    List ResourceVectorClockModel :=
  rows.map fun row =>
    if isFor change.resourceId change.deviceId row then
      { row with
        clockValue := asI32 change.clockValue
        updatedAt := change.updatedAt }
    else row

def updateVectorClocks (updates additions : List ResourceVectorClock)
    (ctx : RepositoryContext) : Except RepositoryError RepositoryContext :=
  reportAs
    ("Failed to update " ++ toString updates.length ++ " and add " ++
      toString additions.length ++ " vector clocks")
    (Table.vectorClocks.insertAll .abort
      (additions.map ResourceVectorClockModel.ofDomain)
      { ctx with
        vectorClocks := updates.foldl (fun rows change => setClock change rows)
          ctx.vectorClocks })

end VectorClockRepo

end Osvauld.Persistance
