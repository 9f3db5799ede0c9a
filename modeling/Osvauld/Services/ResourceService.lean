import Osvauld.Persistance.UserRepository
import Osvauld.Persistance.FolderRepository
import Osvauld.Persistance.ResourceRepository
import Osvauld.Services.Service

namespace Osvauld.Services

open Osvauld.Core CryptoUtils Data Persistance

variable (env : ServiceEnv)

structure ResourceSharingData where
  resourceKey : ResourceKey
  shareRecord : ShareRecord
  vectorClocks : List ResourceVectorClock

/-! Reading and decrypting. -/

def unparsedData : Value :=
  .object [("error", .string "Failed to parse resource data")]

def decryptSingleResource (resourceWithKey : ResourceWithKey) :
    CryptoResult DecryptedResource := do
  let decryptedData ← decryptResource env.cert resourceWithKey.resource.data
    resourceWithKey.encryptedKey
  let parsedData := match decryptedData.parse with
    | .ok value => value
    | .error _ => unparsedData
  let lastModified := ((parsedData.get "last_modified").bind Value.asI64).getD
    resourceWithKey.resource.lastAccessed
  return {
    id := resourceWithKey.resource.id
    resourceType := resourceWithKey.resource.resourceType
    data := parsedData
    lastAccessed := lastModified
    favourite := resourceWithKey.resource.favourite
    folderId := resourceWithKey.resource.folderId }

def getResource (resourceId userId : String) :
    Service (DecryptedResource × PgpText) := do
  let resourceWithKey ← query (ResourceRepo.findById resourceId userId)
  let decrypted ← liftCrypto (decryptSingleResource env resourceWithKey)
  return (decrypted, resourceWithKey.encryptedKey)

def getResourceByIdDirect (resourceId userId : String) :
    Service DecryptedResource := do
  let resourceWithKey ← query (ResourceRepo.findById resourceId userId)
  liftCrypto (decryptSingleResource env resourceWithKey)

def createResource (resourcePayload : JsonText) (resourceType : ResourceType)
    (folderId : String) (user : User) (currentDeviceId : String) :
    Service DecryptedResource := do
  let newKey ← drawId env
  let (encryptedData, encryptedKey) ← liftCrypto (encryptDataForUser
    env.libraries newKey resourcePayload user.publicKey)
  let resourceId ← drawId env
  let signature ← liftCrypto (signAndHashMessage env.libraries env.cert resourceId)
  let resource := Resource.new resourceId env.now resourceType encryptedData
    folderId signature user.id
  let keyId ← drawId env
  let resourceKey := ResourceKey.new keyId env.now resourceId user.id
    encryptedKey true
  let encryptedUcanPvtKey ← query StoreRepo.getUcanKey
  let (ucanToken, ucanCid) ← liftCrypto (resourceOwnerUcan env.libraries env.cert
    env.now encryptedUcanPvtKey resourceId env.domain)
  let recordId ← drawId env
  let shareRecord := ShareRecord.prepareShareRecord recordId env.now resourceId
    user.id user.id .admin ucanToken ucanCid
  let userDevices ← query (DeviceRepo.getDevicesByUserId user.id)
  let deviceIds := userDevices.map fun device => device.id
  let clockIds ← drawIds env deviceIds.length
  let vectorClocks := ResourceVectorClock.createInitialEntries clockIds env.now
    resourceId deviceIds currentDeviceId
  update (ResourceRepo.saveResourceWithDependencies resource resourceKey
    shareRecord vectorClocks)
  getResourceByIdDirect env resourceId user.id

def updateResource (resourceId : String) (data : JsonText)
    (userId currentDeviceId : String) : Service DecryptedResource := do
  let oldResource ← query (ResourceRepo.findById resourceId userId)
  let encryptedData ← liftCrypto (CryptoUtils.updateResource env.cert data
    oldResource.encryptedKey)
  update (ResourceRepo.updateResource env.now encryptedData resourceId)
  let clockId ← drawId env
  update (VectorClockRepo.incrementVectorClock clockId env.now resourceId
    currentDeviceId)
  getResourceByIdDirect env resourceId userId

def deleteResource (resourceId : String) : Service PUnit :=
  update (ResourceRepo.softDeleteResource env.now resourceId)

def liftParse {α : Type} (result : Except String α) : Service α :=
  Program.ofExcept (result.mapError .parseError)

def getResourceStateVector (resourceId userId : String) : Service JsonText := do
  let (resource, _) ← getResource env resourceId userId
  liftParse (resource.getStateVectors env.libraries.yrs)

def generateUpdatesForPeer (resourceId userId : String)
    (peerStateVectors : JsonText) : Service JsonText := do
  let (resource, _) ← getResource env resourceId userId
  let (_, updates) ← liftParse (resource.syncUpdates env.libraries.yrs
    peerStateVectors)
  return updates

def applyUpdatesAndGetPeerUpdates (resourceId userId : String)
    (updates : JsonText) : Service JsonText := do
  let (resource, encryptedKey) ← getResource env resourceId userId
  let (merged, remoteUpdates) ← liftParse (resource.syncUpdates
    env.libraries.yrs updates)
  let encryptedData ← liftCrypto (CryptoUtils.updateResource env.cert
    (.encoded merged.data) encryptedKey)
  update (ResourceRepo.updateResource env.now encryptedData resourceId)
  return remoteUpdates

def applyUpdates (resourceId : String) (updates : JsonText) (userId : String) :
    Service PUnit := do
  let _ ← applyUpdatesAndGetPeerUpdates env resourceId userId updates

def getResourceUcanKey (resourceId userId : String) : Service String := do
  let delegatorShareRecord ← query (ShareRepo.findByResourceAndOperationAndUser
    resourceId .share userId)
  return delegatorShareRecord.ucanToken

def getShareRecordsForResource (resourceId : String) :
    Service (List ShareRecord) :=
  query (ShareRepo.findByResource resourceId)

def getVectorClocksForResource (resourceId : String) :
    Service (List ResourceVectorClock) :=
  query (VectorClockRepo.getVectorClocksForResource resourceId)

def getResourceKeysForResource (resourceId : String) :
    Service (List ResourceKey) :=
  query (ResourceKeyRepo.findByResourceId resourceId)

def withoutId {Row : Type} (id : Row → String) (rows others : List Row) :
    List Row :=
  rows.filter fun row => !others.any fun other => id other = id row

def findMissingResourceKeys (localKeys remoteKeys : List ResourceKey) :
    List ResourceKey × List ResourceKey :=
  (withoutId ResourceKey.id remoteKeys localKeys,
    withoutId ResourceKey.id localKeys remoteKeys)

def mergeVectorClocks (resourceId : String)
    (vectorClocks : List ResourceVectorClock) :
    Service (List ResourceVectorClock × List ResourceVectorClock) := do
  let localVectorClocks ← query
    (VectorClockRepo.getVectorClocksForResource resourceId)
  let result := ResourceVectorClock.merge localVectorClocks vectorClocks
  if result.localNeedsUpdate then
    update (VectorClockRepo.updateVectorClocks result.updateLocal result.addLocal)
  return (result.addRemote, result.updateRemote)

def mergeShareRecords (resourceId : String)
    (remoteShareRecords : List ShareRecord) : Service (List ShareRecord) := do
  let localShareRecords ← query (ShareRepo.findByResource resourceId)
  update (ShareRepo.saveMany
    (withoutId ShareRecord.id remoteShareRecords localShareRecords))
  return withoutId ShareRecord.id localShareRecords remoteShareRecords

def updateVectorClocks (addClock updateClock : List ResourceVectorClock) :
    Service PUnit :=
  update (VectorClockRepo.updateVectorClocks updateClock addClock)

def addShareRecords (shareRecords : List ShareRecord) : Service PUnit :=
  update (ShareRepo.saveMany shareRecords)

def resolveProof (ctx : RepositoryContext) (cid : String) :
    Except UcanError String :=
  match ShareRepo.getUcanByCid cid ctx with
  | .ok token => .ok token
  | .error error => .error (.proofChainInvalid error.text)

def validateAuthorityForUpdate (resourceId token peerUserId : String) :
    Service Bool := do
  let peerUser ← query (UserRepo.getUserById peerUserId)
  let resourceOwner ← query (ResourceRepo.findOwnerByResourceId resourceId)
  Program.read fun ctx =>
    match CryptoUtils.validateAuthorityForUpdate env.libraries.ucan env.now
        (resolveProof ctx) env.fuel token peerUser.ucanPubKey
        resourceOwner.ucanPubKey resourceId env.domain with
    | none => .error .diverged
    | some result => (liftUcan result).mapError .crypto

def prepareShareResource (recipientUserId resourceId : String)
    (permissions : List (String × String)) (currentUser : User) :
    Service (Option ResourceSharingData) := do
  let shared ← (query (ResourceKeyRepo.findByResourceAndUser resourceId
    recipientUserId)).attempt
  if shared.isOk then return none
  let resourceKey ← query (ResourceKeyRepo.findByResourceAndUser resourceId
    currentUser.id)
  let delegatorShareRecord ← query (ShareRepo.findByResourceAndOperationAndUser
    resourceId .share currentUser.id)
  let recipientUser ← query (UserRepo.getUserById recipientUserId)
  let newEncryptionKey ← liftCrypto (encryptKeyWithNewPubKey env.libraries
    env.cert resourceKey.encryptedKey recipientUser.publicKey)
  let keyId ← drawId env
  let newResourceKey := ResourceKey.new keyId env.now resourceId
    recipientUserId newEncryptionKey false
  let encryptedUcanPvtKey ← query StoreRepo.getUcanKey
  let resourceOwner ← query (ResourceRepo.findOwnerByResourceId resourceId)
  let (ucanToken, ucanCid) ← Program.read fun ctx =>
    match issueDelegatedResourceUcan env.libraries env.cert env.now
        (resolveProof ctx) env.fuel encryptedUcanPvtKey
        delegatorShareRecord.ucanToken resourceOwner.ucanPubKey resourceId
        recipientUser.ucanPubKey permissions with
    | none => .error .diverged
    | some result => result.mapError .crypto
  let recordId ← drawId env
  let shareRecord := ShareRecord.prepareShareRecord recordId env.now resourceId
    currentUser.id recipientUserId .write ucanToken ucanCid
  let recipientDevices ← query (DeviceRepo.getDevicesByUserId recipientUserId)
  let deviceIds := recipientDevices.map fun device => device.id
  let clockIds ← drawIds env deviceIds.length
  return some {
    resourceKey := newResourceKey
    shareRecord
    vectorClocks := ResourceVectorClock.createEntriesForSharing clockIds env.now
      resourceId deviceIds }

def shareResource (recipientUserId resourceId : String)
    (permissions : List (String × String)) (currentUser : User) :
    Service PUnit := do
  match ← prepareShareResource env recipientUserId resourceId permissions
      currentUser with
  | none => return
  | some sharingData =>
      update (ResourceRepo.shareResourceTransaction sharingData.resourceKey
        sharingData.shareRecord sharingData.vectorClocks)

def autoSharePermissions (resourceId : String) : List (String × String) :=
  ["crud/read", "crud/update", "ucan/share"].map fun ability =>
    (resourceUri env.domain resourceId, ability)

def prepareForRecipients (resourceId : String) (currentUser : User) :
    List User → Service (List ResourceSharingData)
  | [] => pure []
  | recipient :: rest => do
      let prepared ← (prepareShareResource env recipient.id resourceId
        (autoSharePermissions env resourceId) currentUser).attempt
      let others ← prepareForRecipients resourceId currentUser rest
      match prepared with
      | .ok (some sharingData) => return sharingData :: others
      | _ => return others

def autoShareResourceWithFolderUsers (resourceId folderId : String)
    (currentUser : User) : Service PUnit := do
  let sharedUsers ← query (FolderShareRepo.getSharedUsers folderId)
  let recipientUsers := sharedUsers.filter fun user => user.id ≠ currentUser.id
  let sharingData ← prepareForRecipients env resourceId currentUser recipientUsers
  if sharingData.isEmpty then return
  update (ResourceRepo.saveBulkSharingData
    (sharingData.map fun data => data.resourceKey)
    (sharingData.map fun data => data.shareRecord)
    (sharingData.flatMap fun data => data.vectorClocks))

end Osvauld.Services
