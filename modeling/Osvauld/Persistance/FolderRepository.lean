import Osvauld.Persistance.RepositoryContext

namespace Osvauld.Persistance

open Osvauld.Core

/-! Folders and their share records. -/

namespace FolderRepo

def saveFolderWithShareRecord (folder : Folder) (folderShareRecord : FolderShareRecord)
    (ctx : RepositoryContext) : Except RepositoryError RepositoryContext :=
  reportAs
    ("Failed to save folder '" ++ folder.name ++ "' with share record in transaction")
    (Table.folders.insert .abort folder ctx >>=
      Table.folderShareRecords.insert .abort folderShareRecord)

def findAll (ctx : RepositoryContext) : Except RepositoryError (List Folder) :=
  .ok (ctx.folders.filter fun folder => !folder.deleted)

def findById (id : String) (ctx : RepositoryContext) :
    Except RepositoryError Folder :=
  firstOrNotFound (ctx.folders.find? fun folder => folder.id = id)

def softDelete (now : Int) (folderId : String) (ctx : RepositoryContext) :
    Except RepositoryError RepositoryContext :=
  .ok { ctx with
    resources := ctx.resources.map fun resource =>
      if resource.folderId = folderId then
        { resource with deleted := true, deletedAt := some now, updatedAt := now }
      else resource
    folders := ctx.folders.map fun folder =>
      if folder.id = folderId then
        { folder with deleted := true, deletedAt := some now, updatedAt := now }
      else folder }

def getDefaultFolder (ctx : RepositoryContext) : Except RepositoryError Folder :=
  let defaults := ctx.folders.filter fun folder =>
    !folder.deleted && folder.defaultFolder
  firstOrNotFound (defaults.mergeSort fun first second =>
    first.createdAt ≤ second.createdAt).head?

def getFoldersByIds (folderIds : List String) (ctx : RepositoryContext) :
    Except RepositoryError (List Folder) :=
  .ok (ctx.folders.filter fun folder => folder.id ∈ folderIds && !folder.deleted)

def addFoldersBulk (folders : List Folder) (ctx : RepositoryContext) :
    Except RepositoryError RepositoryContext :=
  reportAs ("Failed to bulk add " ++ toString folders.length ++ " folders")
    (Table.folders.insertAll .doNothing folders ctx)

def recipientsOf (ctx : RepositoryContext) (folderId : String) : List String :=
  ((ctx.folderShareRecords.filter fun record => record.folderId = folderId).map
    fun record => record.recipientUserId).dedup

def getFolderManifestForUser (peerUserId : String) (ctx : RepositoryContext) :
    Except RepositoryError (List FolderManifestData) :=
  let folderIds := ((ctx.folderShareRecords.filter fun record =>
    record.recipientUserId = peerUserId).map fun record => record.folderId).dedup
  .ok (folderIds.map fun folderId =>
    { folderId, recipientUserIds := recipientsOf ctx folderId })

def upsertFolder (folder : Folder) (ctx : RepositoryContext) :
    Except Violation RepositoryContext :=
  if folderExists ctx folder.id then
    .ok { ctx with
      folders := ctx.folders.map fun known =>
        if known.id = folder.id then
          { known with
            name := folder.name
            description := folder.description
            updatedAt := folder.updatedAt }
        else known }
  else Table.folders.insert .abort folder ctx

def saveFolderWithShareRecords (folder : Folder)
    (shareRecords : List FolderShareRecord) (ctx : RepositoryContext) :
    Except RepositoryError RepositoryContext :=
  reportAs
    ("Failed to save " ++ folder.name ++
      " folder with share records in transaction")
    (upsertFolder folder ctx >>=
      Table.folderShareRecords.insertAll .doNothing shareRecords)

def getShareRecordsForFolderAndRecipients (folderId : String)
    (recipientIds : List String) (ctx : RepositoryContext) :
    Except RepositoryError (List FolderShareRecord) :=
  .ok (ctx.folderShareRecords.filter fun record =>
    record.folderId = folderId && record.recipientUserId ∈ recipientIds)

end FolderRepo

namespace FolderShareRepo

def getRecordsByFolderId (folderId : String) (ctx : RepositoryContext) :
    Except RepositoryError (List FolderShareRecord) :=
  .ok (ctx.folderShareRecords.filter fun record =>
    record.folderId = folderId && record.operationType = .share)

def getSharedUsers (folderId : String) (ctx : RepositoryContext) :
    Except RepositoryError (List User) :=
  .ok ((ctx.folderShareRecords.filter fun record =>
    record.folderId = folderId && record.operationType = .share).filterMap
      fun record => ctx.users.find? fun user => user.id = record.recipientUserId)

def getUcanByCid (cid : String) (ctx : RepositoryContext) :
    Except RepositoryError String :=
  (firstOrNotFound (ctx.folderShareRecords.find? fun record =>
    record.ucanCid = cid)).map fun record => record.ucanToken

def shareFolderTransaction (folderShareRecord : FolderShareRecord)
    (resourceKeys : List ResourceKey) (resourceShareRecords : List ShareRecord)
    (resourceVectorClocks : List ResourceVectorClock)
    (ctx : RepositoryContext) : Except RepositoryError RepositoryContext :=
  reportAs
    ("Failed to share folder transaction (resource_keys: " ++
      toString resourceKeys.length ++ ", share_records: " ++
      toString resourceShareRecords.length ++ ", vector_clocks: " ++
      toString resourceVectorClocks.length ++ ")") do
    let ctx ← Table.folderShareRecords.insert .abort folderShareRecord ctx
    let ctx ← Table.resourceKeys.insertAll .abort resourceKeys ctx
    let ctx ← Table.shareRecords.insertAll .abort resourceShareRecords ctx
    Table.vectorClocks.insertAll .abort
      (resourceVectorClocks.map ResourceVectorClockModel.ofDomain) ctx

end FolderShareRepo

end Osvauld.Persistance
