import Osvauld.Persistance.FolderRepository
import Osvauld.Persistance.UserRepository
import Osvauld.Persistance.ResourceRepository
import Osvauld.Services.ManifestComparison
import Osvauld.Services.Service

namespace Osvauld.Services

open Osvauld.Core CryptoUtils Data Persistance

variable (env : ServiceEnv)

/-! Devices of one user: everything is told. -/

def getDeviceManifest (currentUserId : String) :
    Service DeviceManifestRequestPayload := do
  let resources ← query (ResourceRepo.getResourceManifestData none)
  let otherUsers ← query UserRepo.getOtherUsersWithDeviceIds
  let knownDeviceIds ← query (DeviceRepo.getDeviceIdsByUserId currentUserId)
  let folders ← query FolderRepo.findAll
  return {
    resources, otherUsers, knownDeviceIds
    folderIds := folders.map fun folder => folder.id }

def processDeviceManifestRequest
    (remoteManifestPayload : DeviceManifestRequestPayload)
    (currentUserId : String) : Service DeviceManifestComparisonResult := do
  let localManifestPayload ← getDeviceManifest currentUserId
  return compareDeviceManifests localManifestPayload remoteManifestPayload

def deviceIdsOf (users : List UserWithDeviceIds) : List String :=
  users.flatMap fun user => user.deviceIds

def createDeviceNetworkSyncPayload (manifestDiff : DeviceManifestDifferences) :
    Service DeviceNetworkSyncPayload := do
  let unknownUsersWithDevices ← query
    (UserRepo.getUsersWithDevicesByUserIds manifestDiff.unknownUsers)
  let unknownDevicesFromCommonUsers ← query (DeviceRepo.getDevicesByIds
    (deviceIdsOf manifestDiff.unknownDevicesFromCommonUsers))
  let unknownDevicesFromCurrentUser ← query
    (DeviceRepo.getDevicesByIds manifestDiff.unknownDevicesFromCurrentUser)
  let unknownFolders ← query
    (FolderRepo.getFoldersByIds manifestDiff.unknownFolders)
  return {
    unknownUsersWithDevices, unknownDevicesFromCommonUsers
    unknownDevicesFromCurrentUser, unknownFolders }

def asStranger (received : UserWithDevices) : UserWithDevices :=
  { received with user := { received.user with owner := false } }

def processDeviceNetworkSync (payload : DeviceNetworkSyncPayload) :
    Service PUnit := do
  update (UserRepo.addUsersWithDevicesBulk
    (payload.unknownUsersWithDevices.map asStranger))
  update (FolderRepo.addFoldersBulk payload.unknownFolders)
  update (DeviceRepo.saveMany payload.unknownDevicesFromCommonUsers)
  update (DeviceRepo.saveMany payload.unknownDevicesFromCurrentUser)

def getResourceForRemoteAddition (resourceId : String) (device : Device) :
    Service ResourceSyncData := do
  let clockId ← drawIds env 1
  update (VectorClockRepo.saveVectorClock
    (ResourceVectorClock.new (clockId 0) env.now resourceId device.id 0))
  query (ResourceRepo.getResourceSyncData resourceId)

/-- From another user a resource lands in its folder, the folder it was created
in or the default folder, whichever there is first. -/
def placeReceived (connectionType : ConnectionType)
    (payload : ResourceSyncData) : Service ResourceSyncData := do
  let moveTo (folderId : String) : ResourceSyncData :=
    { payload with resource := { payload.resource with folderId } }
  match connectionType with
  | .device => return payload
  | .user =>
      match ← (query (FolderRepo.findById payload.resource.folderId)).attempt with
      | .error (.repository .notFound) =>
          let created : Except ServiceError Folder ←
            (query (FolderRepo.findById payload.resource.createdFolderId)).attempt
          if created.isOk then return moveTo payload.resource.createdFolderId
          let defaultFolder ← (query FolderRepo.getDefaultFolder).mapError
            fun _ => .defaultFolderNotFound
          return moveTo defaultFolder.id
      | _ => return payload

def addResourceSync (payload : ResourceSyncData)
    (connectionType : ConnectionType) : Service PUnit := do
  let placed ← placeReceived connectionType payload
  update (ResourceRepo.saveResourceSyncData placed)

def getUserManifest (peerUserId currentUserId : String) :
    Service UserManifestRequestPayload := do
  let shareRecords ← query (ShareRepo.getUserShareRecords peerUserId)
  let folders ← query (FolderRepo.getFolderManifestForUser peerUserId)
  let userIds := (shareRecords.map fun record => record.recipientUserId) ++
    [currentUserId, peerUserId] ++
      folders.flatMap fun folder => folder.recipientUserIds
  let resourceIds := (shareRecords.map fun record => record.resourceId).dedup
  let users ← query (UserRepo.getUsersWithDeviceIdsByUserIds userIds)
  let resources ← query (ResourceRepo.getResourceManifestData (some resourceIds))
  return { users, resources, folders }

def processUserManifestRequest (remotePayload : UserManifestRequestPayload)
    (peerUserId currentUserId : String) :
    Service UserManifestComparisonResult := do
  let localPayload ← getUserManifest peerUserId currentUserId
  return compareUserManifests localPayload remotePayload

def withDelegatedToken (encryptedUcanPvtKey : PgpText) (peerUser : User)
    (userWithDevices : UserWithDevices) : CryptoResult UserWithDevices := do
  let delegatedToken ← issueDelegatedUserConnectToken env.libraries env.cert
    env.now encryptedUcanPvtKey env.domain userWithDevices.user.id
    peerUser.ucanPubKey userWithDevices.user.ucanToken
  return { userWithDevices with
    user := { userWithDevices.user with ucanToken := delegatedToken } }

def createUserNetworkSyncPayload (manifestDiff : UserManifestDifferences)
    (peerUser : User) : Service UserNetworkSyncPayload := do
  let unknownUsersWithDevices ← query
    (UserRepo.getUsersWithDevicesByUserIds manifestDiff.unknownUsers)
  let encryptedUcanPvtKey ← query StoreRepo.getUcanKey
  let users ← liftCrypto (unknownUsersWithDevices.mapM
    (withDelegatedToken env encryptedUcanPvtKey peerUser))
  let devices ← query (DeviceRepo.getDevicesByIds
    (deviceIdsOf manifestDiff.unknownDevicesFromCommonUsers))
  return { users, devices }

def asNewStranger (received : UserWithDevices) : UserWithDevices :=
  { received with
    user := { received.user with owner := false, firstSync := false } }

def processUserNetworkSyncPayload (payload : UserNetworkSyncPayload) :
    Service PUnit := do
  update (UserRepo.addUsersWithDevicesBulk (payload.users.map asNewStranger))
  update (DeviceRepo.saveMany payload.devices)

end Osvauld.Services
