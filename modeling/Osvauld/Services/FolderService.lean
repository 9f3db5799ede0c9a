import Osvauld.Services.ResourceService

namespace Osvauld.Services

open Osvauld.Core CryptoUtils Data Persistance

variable (env : ServiceEnv)

/-! Creating and deleting folders. -/

def isWhiteSpace (c : Char) : Bool :=
  (9 ≤ c.toNat && c.toNat ≤ 13) || (0x2000 ≤ c.toNat && c.toNat ≤ 0x200A) ||
    [0x20, 0x85, 0xA0, 0x1680, 0x2028, 0x2029, 0x202F, 0x205F, 0x3000].contains c.toNat

def createFolder (name : String) (description : Option String) (user : User) :
    Service Folder :=
  if name.toList.all isWhiteSpace then
    Program.fail (.folderValidation "Folder name cannot be empty")
  else do
  let folderId ← drawId env
  let folder := Folder.new folderId env.now name description false
  let encryptedUcanKey ← query StoreRepo.getUcanKey
  let signingKey ← liftCrypto (decryptUcanKey env.libraries env.cert encryptedUcanKey)
  let (folderRootUcanKey, ucanCid) ← liftCrypto (liftUcan (generateFolderOwnerUcan
    env.libraries.ucan env.now signingKey folder.id env.domain))
  let recordId ← drawId env
  let folderShareRecord := FolderShareRecord.prepareFolderShareRecord recordId env.now
    folder.id user.id user.id .admin folderRootUcanKey ucanCid
  update (FolderRepo.saveFolderWithShareRecord folder folderShareRecord)
  return folder

def folderNotFound (folderId : String) : ServiceError :=
  .folderValidation ("Folder not found: " ++ folderId)

def softDeleteFolder (folderId : String) : Service PUnit := do
  let _ ← (query (FolderRepo.findById folderId)).mapError
    fun _ => folderNotFound folderId
  update (FolderRepo.softDelete env.now folderId)

def foldersWithShareRecords : List Folder → Service (List FolderWithShareRecords)
  | [] => pure []
  | folder :: rest => do
      let shareRecords ← query (FolderShareRepo.getRecordsByFolderId folder.id)
      let others ← foldersWithShareRecords rest
      return { folder, shareRecords } :: others

def createUnknownFoldersPayload (folderIds : List String) :
    Service UnknownFoldersPayload := do
  let folders ← query (FolderRepo.getFoldersByIds folderIds)
  let folderData ← foldersWithShareRecords folders
  return { folderData }

def processUnknownFoldersPayload (payload : UnknownFoldersPayload) :
    Service PUnit :=
  Program.forEach payload.folderData fun folderPair =>
    update (FolderRepo.saveFolderWithShareRecords
      { folderPair.folder with defaultFolder := false } folderPair.shareRecords)

def getMissingRemoteFolderShareRecords :
    List FolderRecipientDiff → Service (List FolderRecipientUpdate)
  | [] => pure []
  | diff :: rest => do
      let newShareRecords ← query
        (FolderRepo.getShareRecordsForFolderAndRecipients diff.folderId
          diff.recipientsOnlyLocalKnows)
      let others ← getMissingRemoteFolderShareRecords rest
      return { folderId := diff.folderId, newShareRecords } :: others

def prepareResources (recipientUserId : String) (currentUser : User) :
    List String → Service (List ResourceSharingData)
  | [] => pure []
  | resourceId :: rest => do
      let prepared ← prepareShareResource env recipientUserId resourceId
        (autoSharePermissions env resourceId) currentUser
      let others ← prepareResources recipientUserId currentUser rest
      match prepared with
      | some sharingData => return sharingData :: others
      | none => return others

def addMissingRecipients (payload : List FolderRecipientUpdate)
    (missingRemoteResources : List String) (recipientUserId : String)
    (currentUser : User) : Service PUnit := do
  let resourceIds ← query fun ctx => .ok (payload.flatMap fun recipientMap =>
    ResourceRepo.getResourceIdsInFolder missingRemoteResources
      recipientMap.folderId ctx)
  let sharingData ← prepareResources env recipientUserId currentUser resourceIds
  update (ResourceRepo.saveResourceAndFolderSharingData
    (sharingData.map fun data => data.resourceKey)
    (sharingData.map fun data => data.shareRecord)
    (sharingData.flatMap fun data => data.vectorClocks)
    (payload.flatMap fun element => element.newShareRecords))

def resolveFolderProof (ctx : RepositoryContext) (cid : String) :
    Except UcanError String :=
  match FolderShareRepo.getUcanByCid cid ctx with
  | .ok token => .ok token
  | .error error => .error (.proofChainInvalid error.text)

def requireRecord (record : Option FolderShareRecord) :
    Service FolderShareRecord :=
  match record with
  | some record => pure record
  | none => Program.fail .insufficientPermissions

def shareFolder (folderId recipientUserId : String)
    (folderPermissions : List (String × String)) (currentUser : User) :
    Service PUnit := do
  let _ ← (query (FolderRepo.findById folderId)).mapError
    fun _ => folderNotFound folderId
  let existingFolderShares ← query (FolderShareRepo.getRecordsByFolderId folderId)
  if existingFolderShares.any fun share =>
      share.recipientUserId = recipientUserId then return
  let ownShare ← requireRecord (existingFolderShares.find? fun share =>
    share.recipientUserId = currentUser.id)
  let encryptedUcanKey ← query StoreRepo.getUcanKey
  let ownerShare ← requireRecord (existingFolderShares.find? fun share =>
    share.sharedByUserId = share.recipientUserId)
  let folderOwner ← query (UserRepo.getUserById ownerShare.recipientUserId)
  let recipientUser ← query (UserRepo.getUserById recipientUserId)
  let (ucanToken, ucanCid) ← Program.read fun ctx =>
    match issueDelegatedFolderUcan env.libraries env.cert env.now
        (resolveFolderProof ctx) env.fuel encryptedUcanKey ownShare.ucanToken
        folderOwner.ucanPubKey folderId recipientUser.ucanPubKey
        folderPermissions with
    | none => .error .diverged
    | some result => result.mapError .crypto
  let recordId ← drawId env
  let folderShareRecord := FolderShareRecord.prepareFolderShareRecord recordId
    env.now folderId currentUser.id recipientUserId .admin ucanToken ucanCid
  let resourceIds ← query (ResourceRepo.getResourceIdsByFolderId folderId)
  let sharingData ← prepareResources env recipientUserId currentUser resourceIds
  update (FolderShareRepo.shareFolderTransaction folderShareRecord
    (sharingData.map fun data => data.resourceKey)
    (sharingData.map fun data => data.shareRecord)
    (sharingData.flatMap fun data => data.vectorClocks))

end Osvauld.Services
