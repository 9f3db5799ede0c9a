import Osvauld.Network.P2P.PeerConnection
import Osvauld.Services.FolderService
import Osvauld.Services.SyncService

namespace Osvauld.Network

open Osvauld.Core Data Persistance Services

variable (env : NetworkEnv)

/-! Transferring resources that the other end lacks. -/

def sendResource (resourceId : String) : Handler PUnit := do
  let peerDevice ← getPeerDevice
  let resourcePayload ← callService
    (getResourceForRemoteAddition env.toServiceEnv resourceId peerDevice)
  sendMessage (.resourceAdditionRequest resourcePayload)

def remoteMissingResources : Handler (List String) := do
  match ← getConnectionType with
  | .device => do
      let manifest ← getDeviceManifestResult
      return manifest.remoteMissing.unknownResources
  | .user => do
      let manifest ← getUserManifestResult
      return manifest.remoteMissing.unknownResources

def sendResources : Handler PUnit := do
  let remoteMissing ← remoteMissingResources
  if remoteMissing.isEmpty then sendMessage .resourceAdditionComplete
  Program.forEach remoteMissing (sendResource env)

def removeLocalMissingResource (connectionType : ConnectionType)
    (resourceId : String) : Handler Bool :=
  match connectionType with
  | .device => removeDeviceLocalMissingResource resourceId
  | .user => removeUserLocalMissingResource resourceId

def processResourceAdditionRequest (payload : ResourceSyncData) :
    Handler PUnit := do
  let connectionType ← getConnectionType
  callService (addResourceSync payload connectionType)
  let peerUser ← getPeerUser
  emit (.resourceAdded payload.resource.id peerUser.username)
  let isEmpty ← removeLocalMissingResource connectionType payload.resource.id
  if isEmpty then sendMessage .resourceAdditionComplete

def requestStateVector (resourceId : String) : Handler PUnit := do
  let user ← getLocalUser env
  let stateVectors ← callService
    (getResourceStateVector env.toServiceEnv resourceId user.id)
  let ucanToken ← callService (getResourceUcanKey resourceId user.id)
  sendMessage
    (.mergeUpdate (.stateVectorRequest resourceId stateVectors ucanToken))

def resourcesRequiringSync : Handler (List String) := do
  match ← getConnectionType with
  | .device => do
      let manifest ← getDeviceManifestResult
      return manifest.resourcesRequiringSync
  | .user => do
      let manifest ← getUserManifestResult
      return manifest.resourcesRequiringSync

def processResourceAdditionComplete : Handler PUnit := do
  if ← readConnection PeerConnection.isInitiator then
    let resourcesRequiringSync ← resourcesRequiringSync
    Program.forEach resourcesRequiringSync (requestStateVector env)

def requireUpdateAuthority (resourceId ucanToken : String) :
    Handler PUnit := do
  let peerUser ← getPeerUser
  let isTokenValid ← callService (validateAuthorityForUpdate env.toServiceEnv
    resourceId ucanToken peerUser.id)
  if !isTokenValid then
    Program.fail (.invalidUpdateAuthority resourceId)

def processStateVectorRequest (user : User) (resourceId : String)
    (stateVectors : JsonText) (ucanToken : String) : Handler PUnit := do
  requireUpdateAuthority env resourceId ucanToken
  let updates ← callService (generateUpdatesForPeer env.toServiceEnv resourceId
    user.id stateVectors)
  let ucanToken ← callService (getResourceUcanKey resourceId user.id)
  sendMessage (.mergeUpdate (.updatesResponse resourceId updates ucanToken))

def processUpdatesResponse (user : User) (resourceId : String)
    (updates : JsonText) (ucanToken : String) : Handler PUnit := do
  requireUpdateAuthority env resourceId ucanToken
  let remoteUpdates ← callService (applyUpdatesAndGetPeerUpdates
    env.toServiceEnv resourceId user.id updates)
  let shareRecords ← callService (getShareRecordsForResource resourceId)
  let vectorClocks ← callService (getVectorClocksForResource resourceId)
  let resourceKeys ← callService (getResourceKeysForResource resourceId)
  sendMessage (.mergeUpdate (.finalUpdateMerge resourceId remoteUpdates
    vectorClocks shareRecords resourceKeys))
  let peerDevice ← getPeerDevice
  let clientId ← getClientId env peerDevice
  emit (.updatesEvent resourceId updates clientId)

def processFinalUpdateMerge (user : User) (resourceId : String)
    (updates : JsonText) (vectorClocks : List ResourceVectorClock)
    (shareRecords : List ShareRecord) (resourceKeys : List ResourceKey) :
    Handler PUnit := do
  callService (applyUpdates env.toServiceEnv resourceId updates user.id)
  let peerDevice ← getPeerDevice
  let clientId ← getClientId env peerDevice
  emit (.updatesEvent resourceId updates clientId)
  let localResourceKeys ← callService (getResourceKeysForResource resourceId)
  let (localMissing, remoteMissing) :=
    findMissingResourceKeys localResourceKeys resourceKeys
  updateRepo (ResourceKeyRepo.addResourceKeys localMissing)
  let (addClock, updateClock) ← callService
    (mergeVectorClocks resourceId vectorClocks)
  let remoteShareRecords ← callService
    (mergeShareRecords resourceId shareRecords)
  sendMessage (.mergeUpdate (.vectorClockResponse resourceId updateClock addClock
    remoteShareRecords remoteMissing))

def processVectorClockResponse
    (updateClock addClock : List ResourceVectorClock)
    (shareRecords : List ShareRecord) (resourceKeys : List ResourceKey) :
    Handler PUnit := do
  callService (updateVectorClocks addClock updateClock)
  callService (addShareRecords shareRecords)
  updateRepo (ResourceKeyRepo.addResourceKeys resourceKeys)

def processResourceUpdateMessage (payload : ResourceUpdateMsg) :
    Handler PUnit := do
  let user ← getLocalUser env
  match payload with
  | .stateVectorRequest resourceId stateVectors ucanToken =>
      processStateVectorRequest env user resourceId stateVectors ucanToken
  | .updatesResponse resourceId updates ucanToken =>
      processUpdatesResponse env user resourceId updates ucanToken
  | .finalUpdateMerge resourceId updates vectorClocks shareRecords
        resourceKeys =>
      processFinalUpdateMerge env user resourceId updates vectorClocks
        shareRecords resourceKeys
  | .vectorClockResponse _ updateClock addClock shareRecords resourceKeys =>
      processVectorClockResponse updateClock addClock shareRecords resourceKeys

def handleLiveEditFlow (message : LiveEditMessage) : Handler PUnit := do
  let user ← getLocalUser env
  let connectionId ← readConnection PeerConnection.nodeId
  match message with
  | .documentCheck resourceId => emit (.documentCheck resourceId connectionId)
  | .stateVectorExchange resourceId stateVectors =>
      emit (.updateRequest resourceId connectionId stateVectors user.id)
  | .updateExchange resourceId updates =>
      let peerDevice ← getPeerDevice
      let clientId ← getClientId env peerDevice
      emit (.processUpdate resourceId connectionId updates clientId)
  | .updateExchangeResponse resourceId updates =>
      let peerDevice ← getPeerDevice
      let clientId ← getClientId env peerDevice
      emit (.processUpdateResponse resourceId connectionId updates clientId)
  | .notSameDocument => emit (.documentMismatch connectionId)
  | .documentChange resourceId =>
      emit (.documentChanged resourceId connectionId)
  | .documentUpdate resourceId clientId updates docType =>
      emit (.editingEvent resourceId clientId updates docType)
  | .awarenessUpdate resourceId clientId awarenessData =>
      emit (.awarenessEvent resourceId clientId awarenessData)

def sendUnknownFolders : Handler PUnit := do
  let manifest ← getUserManifestResult
  let payload ← callService
    (createUnknownFoldersPayload manifest.remoteMissing.unknownFolders)
  sendMessage (.folderSync (.unknownFoldersPayload payload))

def startFolderSync : Handler PUnit := do
  let manifest ← getUserManifestResult
  if manifest.remoteMissing.unknownFolders.isEmpty then
    sendMessage (.folderSync (.unknownFoldersPayload { folderData := [] }))
  else
    let unknownFoldersPayload ← callService
      (createUnknownFoldersPayload manifest.remoteMissing.unknownFolders)
    sendMessage (.folderSync (.unknownFoldersPayload unknownFoldersPayload))

def sendFolderRecipientSync : Handler PUnit := do
  let manifestData ← getUserManifestResult
  let missingRemoteFsr ← callService (getMissingRemoteFolderShareRecords
    manifestData.foldersRequiringRecipientSync)
  sendMessage (.folderSync (.folderRecipientSyncPayload missingRemoteFsr))

def receiveUnknownFolders (payload : UnknownFoldersPayload) :
    Handler PUnit := do
  callService (processUnknownFoldersPayload payload)
  emit (.foldersAdded (payload.folderData.map fun data => data.folder))
  if ← readConnection PeerConnection.isInitiator then sendFolderRecipientSync
  else sendUnknownFolders

def processFolderRecipientSync (payload : List FolderRecipientUpdate) :
    Handler PUnit := do
  let manifestData ← getUserManifestResult
  let currentUser ← getLocalUser env
  let peerUser ← getPeerUser
  callService (addMissingRecipients env.toServiceEnv payload
    manifestData.remoteMissing.unknownResources peerUser.id currentUser)
  if !(← readConnection PeerConnection.isInitiator) then
    sendFolderRecipientSync
  sendResources env

def processFolderSyncMessage (message : FolderSyncMessage) : Handler PUnit :=
  match message with
  | .unknownFoldersPayload payload => receiveUnknownFolders payload
  | .folderRecipientSyncPayload payload => processFolderRecipientSync env payload

end Osvauld.Network
