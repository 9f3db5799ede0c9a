import Osvauld.Services.Service

namespace Osvauld.Network

open Osvauld.Core CryptoUtils Data Persistance Services

/-! One end of a peer connection, and the steps its handlers are made of. -/

inductive HandshakeError where
  | invalidCredentials (userId : String)
  | missingPeerInfo
deriving DecidableEq, Repr

inductive SyncError where
  | manifestNotFound (entityType : String)
  | manifestGenerationFailed (reason : ServiceError)
  | manifestComparisonFailed (reason : ServiceError)
  | userSyncFailed (reason : ServiceError)
deriving DecidableEq, Repr

inductive P2PError where
  | handshake (error : HandshakeError)
  | sync (error : SyncError)
  | invalidUpdateAuthority (resourceId : String)
  | service (error : ServiceError)
  | crypto (error : CryptoError)
  | repository (error : RepositoryError)
  | invalidState (message : String)
  | custom (message : String)
deriving DecidableEq, Repr

inductive P2PEvent where
  | disconnected
  | editingEvent (resourceId : String) (clientId : Nat) (updates : Bytes)
      (docType : String)
  | awarenessEvent (resourceId : String) (clientId : Nat)
      (awarenessData : Bytes)
  | error (message : String) (reason : Option P2PError) (source : String)
  | updatesEvent (resourceId : String) (updates : JsonText) (clientId : Nat)
  | liveEditConnected (connectionId : String)
  | documentCheck (resourceId connectionId : String)
  | updateRequest (resourceId connectionId : String) (stateVectors : JsonText)
      (currentUserId : String)
  | processUpdate (resourceId connectionId : String) (updates : JsonText)
      (clientId : Nat)
  | processUpdateResponse (resourceId connectionId : String)
      (updates : JsonText) (clientId : Nat)
  | documentChanged (resourceId connectionId : String)
  | documentMismatch (connectionId : String)
  | resourceAdded (resourceId username : String)
  | foldersAdded (folders : List Folder)

structure PeerConnection where
  nodeId : String
  /-- The transport's key of the other end, written as device ids are. -/
  remoteDeviceId : String
  action : Option ConnectionAction
  isInitiator : Bool
  connectionType : Option ConnectionType
  user : User
  device : Device
  handshakeComplete : Bool
  deviceManifestResult : Option DeviceManifestComparisonResult
  userManifestResult : Option UserManifestComparisonResult
  sent : List Message
  events : List P2PEvent

def PeerConnection.new (nodeId remoteDeviceId : String) (isInitiator : Bool)
    (action : Option ConnectionAction) (connectionType : Option ConnectionType)
    (localUser : User) (localDevice : Device) : PeerConnection :=
  { nodeId, remoteDeviceId, action, isInitiator, connectionType
    user := localUser, device := localDevice, handshakeComplete := false
    deviceManifestResult := none, userManifestResult := none
    sent := [], events := [] }

structure NetworkEnv extends ServiceEnv where
  currentUser : Option User
  currentDevice : Option Device

def NetworkEnv.tabled (tokens : List (String × Ucan)) (user : User)
    (device : Device) : NetworkEnv :=
  { libraries := .tabled tokens, cert := some user.publicKey, now := 0
    domain := "livnote", fuel := 8
    currentUser := some user, currentDevice := some device }

structure Session where
  repo : RepositoryContext
  connection : PeerConnection

abbrev Handler (α : Type) := Program Session P2PError α

def onRepo {α : Type} (service : Service α) : Program Session ServiceError α :=
  service.zoom Session.repo fun repo session => { session with repo }

def callService {α : Type} (service : Service α) : Handler α :=
  (onRepo service).mapError .service

def callServiceAs {α : Type} (report : ServiceError → SyncError)
    (service : Service α) : Handler α :=
  (onRepo service).mapError fun error => .sync (report error)

def queryRepo {α : Type}
    (read : RepositoryContext → Except RepositoryError α) : Handler α :=
  Program.read fun session => (read session.repo).mapError .repository

def updateRepo
    (write : RepositoryContext → Except RepositoryError RepositoryContext) :
    Handler PUnit :=
  Program.write fun session =>
    match write session.repo with
    | .ok repo => .ok { session with repo }
    | .error error => .error (.repository error)

def callCrypto {α : Type} (result : CryptoResult α) : Handler α :=
  Program.ofExcept (result.mapError .crypto)

theorem run_onRepo {α : Type} (service : Service α) (session : Session) :
    (onRepo service).run session =
      ((service.run session.repo).1,
        { session with repo := (service.run session.repo).2 }) := by
  rw [onRepo, Program.run_zoom]
  · exact fun _ _ => rfl
  · exact fun _ _ _ => rfl
  · exact fun _ => rfl

@[simp] theorem run_callService {α : Type} (service : Service α)
    (session : Session) :
    (callService service).run session =
      ((service.run session.repo).1.mapError .service,
        { session with repo := (service.run session.repo).2 }) := by
  rw [callService, Program.run_mapError, run_onRepo]

def readConnection {α : Type} (field : PeerConnection → α) : Handler α :=
  Program.read fun session => .ok (field session.connection)

@[simp] theorem run_readConnection {α : Type} (field : PeerConnection → α)
    (session : Session) :
    (readConnection field).run session =
      (.ok (field session.connection), session) := rfl

def changeConnection (change : PeerConnection → PeerConnection) :
    Handler PUnit :=
  Program.write fun session =>
    .ok { session with connection := change session.connection }

@[simp] theorem run_changeConnection (change : PeerConnection → PeerConnection)
    (session : Session) :
    (changeConnection change).run session =
      (.ok .unit, { session with connection := change session.connection }) :=
  rfl

def sendMessage (message : Message) : Handler PUnit :=
  changeConnection fun connection =>
    { connection with sent := connection.sent ++ [message] }

def emit (event : P2PEvent) : Handler PUnit :=
  changeConnection fun connection =>
    { connection with events := connection.events ++ [event] }

def setPeerUserAndDevice (newUser : User) (newDevice : Device) :
    Handler PUnit :=
  changeConnection fun connection =>
    { connection with user := newUser, device := newDevice }

def setConnectionType (connectionType : ConnectionType) : Handler PUnit :=
  changeConnection fun connection =>
    { connection with connectionType := some connectionType }

def setHandshakeComplete : Handler PUnit :=
  changeConnection fun connection =>
    { connection with handshakeComplete := true }

def setDeviceManifestComparisonResult
    (result : DeviceManifestComparisonResult) : Handler PUnit :=
  changeConnection fun connection =>
    { connection with deviceManifestResult := some result }

def setUserManifestComparisonResult
    (result : UserManifestComparisonResult) : Handler PUnit :=
  changeConnection fun connection =>
    { connection with userManifestResult := some result }

def getPeerUser : Handler User :=
  readConnection fun connection => connection.user

def getPeerDevice : Handler Device :=
  readConnection fun connection => connection.device

def PeerConnection.kind (connection : PeerConnection) : ConnectionType :=
  connection.connectionType.getD .user

def getConnectionType : Handler ConnectionType :=
  readConnection PeerConnection.kind

def requireManifest {α : Type} (entityType : String)
    (manifest : PeerConnection → Option α) : Handler α :=
  Program.read fun session =>
    match manifest session.connection with
    | some result => .ok result
    | none => .error (.sync (.manifestNotFound entityType))

theorem run_requireManifest_none {α : Type} {entityType : String}
    {manifest : PeerConnection → Option α} {session : Session}
    (hnone : manifest session.connection = none) :
    (requireManifest entityType manifest).run session =
      (.error (.sync (.manifestNotFound entityType)), session) := by
  simp [requireManifest, hnone]

def getDeviceManifestResult : Handler DeviceManifestComparisonResult :=
  requireManifest "device" fun connection => connection.deviceManifestResult

def getUserManifestResult : Handler UserManifestComparisonResult :=
  requireManifest "user" fun connection => connection.userManifestResult

def removeDeviceLocalMissingResource (resourceId : String) : Handler Bool := do
  changeConnection fun connection =>
    { connection with
      deviceManifestResult := connection.deviceManifestResult.map fun manifest =>
        { manifest with localMissing := { manifest.localMissing with
            unknownResources := manifest.localMissing.unknownResources.filter
              fun id => id ≠ resourceId } } }
  readConnection fun connection =>
    connection.deviceManifestResult.all fun manifest =>
      manifest.localMissing.unknownResources.isEmpty

def removeUserLocalMissingResource (resourceId : String) : Handler Bool := do
  changeConnection fun connection =>
    { connection with
      userManifestResult := connection.userManifestResult.map fun manifest =>
        { manifest with localMissing := { manifest.localMissing with
            unknownResources := manifest.localMissing.unknownResources.filter
              fun id => id ≠ resourceId } } }
  readConnection fun connection =>
    connection.userManifestResult.all fun manifest =>
      manifest.localMissing.unknownResources.isEmpty

variable (env : NetworkEnv)

def getLocalUser : Handler User :=
  match env.currentUser with
  | some user => pure user
  | none => Program.fail (.invalidState "No user is currently logged in")

def getLocalDevice : Handler Device :=
  match env.currentDevice with
  | some device => pure device
  | none => Program.fail (.handshake .missingPeerInfo)

/-- The first four bytes of the device's id as a big-endian number. -/
def getClientId (device : Device) : Handler Nat :=
  match env.libraries.ucan.encodings.base64Decode device.id with
  | .error message =>
      Program.fail (.custom ("failed to get client_id " ++ message))
  | .ok (a :: b :: c :: d :: _) =>
      pure (((a.toNat * 256 + b.toNat) * 256 + c.toNat) * 256 + d.toNat)
  | .ok _ =>
      Program.fail (.custom ("failed to get client_id " ++
        "Device ID too short - need at least 4 bytes"))

end Osvauld.Network
