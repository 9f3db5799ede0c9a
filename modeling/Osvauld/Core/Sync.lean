import Osvauld.Core.Records

namespace Osvauld.Core

/-! What two ends of a connection tell each other about what they hold. -/

structure DeviceManifestRequestPayload where
  knownDeviceIds : List String
  otherUsers : List UserWithDeviceIds
  folderIds : List String
  resources : List ResourceManifestData

structure UserManifestRequestPayload where
  users : List UserWithDeviceIds
  resources : List ResourceManifestData
  folders : List FolderManifestData

structure FolderRecipientDiff where
  folderId : String
  recipientsOnlyLocalKnows : List String
  recipientsOnlyRemoteKnows : List String
deriving DecidableEq, Repr

structure FolderComparisonResult where
  foldersOnlyLocalHas : List String
  foldersOnlyRemoteHas : List String
  foldersWithRecipientDifferences : List FolderRecipientDiff
deriving DecidableEq, Repr

structure UserManifestDifferences where
  unknownUsers : List String
  unknownDevicesFromCommonUsers : List UserWithDeviceIds
  unknownResources : List String
  unknownFolders : List String
deriving DecidableEq, Repr

structure UserManifestComparisonResult where
  localMissing : UserManifestDifferences
  remoteMissing : UserManifestDifferences
  resourcesRequiringSync : List String
  foldersRequiringRecipientSync : List FolderRecipientDiff
deriving DecidableEq, Repr

def FolderRecipientDiff.inverse (diff : FolderRecipientDiff) :
    FolderRecipientDiff :=
  { folderId := diff.folderId
    recipientsOnlyLocalKnows := diff.recipientsOnlyRemoteKnows
    recipientsOnlyRemoteKnows := diff.recipientsOnlyLocalKnows }

def UserManifestComparisonResult.inverse
    (result : UserManifestComparisonResult) : UserManifestComparisonResult :=
  { localMissing := result.remoteMissing
    remoteMissing := result.localMissing
    resourcesRequiringSync := result.resourcesRequiringSync
    foldersRequiringRecipientSync :=
      result.foldersRequiringRecipientSync.map FolderRecipientDiff.inverse }

inductive UserManifestPayload where
  | request (payload : UserManifestRequestPayload)
  | response (result : UserManifestComparisonResult)
  | ack

structure UserNetworkSyncPayload where
  users : List UserWithDevices
  devices : List Device

structure UserComparisonResult where
  usersOnlyLocalHas : List String
  usersOnlyRemoteHas : List String
  commonUsers : List String
  devicesFromCommonUsersOnlyLocalHas : List UserWithDeviceIds
  devicesFromCommonUsersOnlyRemoteHas : List UserWithDeviceIds

structure ResourceComparisonResult where
  resourcesOnlyLocalHas : List String
  resourcesOnlyRemoteHas : List String
  commonResources : List String
  resourcesRequiringSync : List String

structure DeviceManifestDifferences where
  unknownUsers : List String
  unknownDevicesFromCommonUsers : List UserWithDeviceIds
  unknownDevicesFromCurrentUser : List String
  unknownResources : List String
  unknownFolders : List String
deriving DecidableEq, Repr

structure DeviceManifestComparisonResult where
  localMissing : DeviceManifestDifferences
  remoteMissing : DeviceManifestDifferences
  resourcesRequiringSync : List String
deriving DecidableEq, Repr

def DeviceManifestComparisonResult.inverse
    (result : DeviceManifestComparisonResult) :
    DeviceManifestComparisonResult :=
  { localMissing := result.remoteMissing
    remoteMissing := result.localMissing
    resourcesRequiringSync := result.resourcesRequiringSync }

structure DeviceNetworkSyncPayload where
  unknownUsersWithDevices : List UserWithDevices
  unknownDevicesFromCommonUsers : List Device
  unknownDevicesFromCurrentUser : List Device
  unknownFolders : List Folder

inductive ConnectionType where
  | device
  | user
deriving DecidableEq, Repr

inductive ConnectionAction where
  | deviceSync
  | addDevice
  | liveEdit
  | userSync
deriving DecidableEq, Repr

inductive ResourceUpdateMsg where
  | stateVectorRequest (resourceId : String) (stateVectors : JsonText)
      (ucanToken : String)
  | updatesResponse (resourceId : String) (updates : JsonText)
      (ucanToken : String)
  | finalUpdateMerge (resourceId : String) (updates : JsonText)
      (vectorClocks : List ResourceVectorClock)
      (shareRecords : List ShareRecord) (resourceKeys : List ResourceKey)
  | vectorClockResponse (resourceId : String)
      (updateClock addClock : List ResourceVectorClock)
      (shareRecords : List ShareRecord) (resourceKeys : List ResourceKey)

structure FirstConnectRequest where
  devices : List Device
  issuedUcan : String
  signedUcanPub : SignedText
  oneTimeUcan : String
  peerDevice : Device
  peerUser : User
  connectionType : ConnectionType

structure FirstConnectResponse where
  devices : List Device
  issuedUcan : String
  signedUcanPub : SignedText
  ucanToken : String
  peerUser : User
  peerDevice : Device

structure UcanAndUserExchange where
  signedUcanPub : SignedText
  ucanToken : String
  peerUser : User
  peerDevice : Device
  connectionType : ConnectionType

inductive HandshakeMessage where
  | handshakeFirstConnectRequest (payload : FirstConnectRequest)
  | handshakeFirstConnectResponse (payload : FirstConnectResponse)
  | handshakeExchange (payload : UcanAndUserExchange)

inductive LiveEditMessage where
  | documentCheck (resourceId : String)
  | notSameDocument
  | stateVectorExchange (resourceId : String) (stateVectors : JsonText)
  | updateExchange (resourceId : String) (updates : JsonText)
  | updateExchangeResponse (resourceId : String) (updates : JsonText)
  | documentChange (resourceId : String)
  | documentUpdate (resourceId : String) (clientId : Nat) (updates : Bytes)
      (docType : String)
  | awarenessUpdate (resourceId : String) (clientId : Nat)
      (awarenessData : Bytes)

structure FolderWithShareRecords where
  folder : Folder
  shareRecords : List FolderShareRecord
deriving DecidableEq, Repr

structure UnknownFoldersPayload where
  folderData : List FolderWithShareRecords
deriving DecidableEq, Repr

structure FolderRecipientUpdate where
  folderId : String
  newShareRecords : List FolderShareRecord
deriving DecidableEq, Repr

inductive FolderSyncMessage where
  | unknownFoldersPayload (payload : UnknownFoldersPayload)
  | folderRecipientSyncPayload (payload : List FolderRecipientUpdate)

inductive Message where
  | ping
  | pong
  | error
  | mergeUpdate (payload : ResourceUpdateMsg)
  | liveEdit (payload : LiveEditMessage)
  | deviceManifestRequest (payload : DeviceManifestRequestPayload)
  | deviceManifestResponse (payload : DeviceManifestComparisonResult)
  | deviceNetworkSync (payload : DeviceNetworkSyncPayload)
  | deviceManifestAck
  | deviceNetworkSyncAck
  | resourceAdditionRequest (payload : ResourceSyncData)
  | resourceAdditionComplete
  | userManifestPayload (payload : UserManifestPayload)
  | userNetworkSync (payload : UserNetworkSyncPayload)
  | userNetworkSyncAck
  | folderSync (payload : FolderSyncMessage)
  | retryRequest
  | handshake (payload : HandshakeMessage)

def ResourceUpdateMsg.resourceId : ResourceUpdateMsg → String
  | .stateVectorRequest resourceId _ _ => resourceId
  | .updatesResponse resourceId _ _ => resourceId
  | .finalUpdateMerge resourceId _ _ _ _ => resourceId
  | .vectorClockResponse resourceId _ _ _ _ => resourceId

end Osvauld.Core
