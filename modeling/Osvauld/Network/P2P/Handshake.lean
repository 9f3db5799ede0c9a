import Osvauld.Network.P2P.PeerConnection
import Osvauld.Services.SyncService
import Osvauld.Services.UserService

namespace Osvauld.Network

open Osvauld.Core CryptoUtils Data Persistance Services

/-! Two devices of one user tell each other everything they hold. -/

def handleManifestRequest (payload : DeviceManifestRequestPayload) :
    Handler PUnit := do
  let peerUser ← getPeerUser
  let result ← callService (processDeviceManifestRequest payload peerUser.id)
  sendMessage (.deviceManifestResponse result)
  setDeviceManifestComparisonResult result

def sendDeviceNetworkSync : Handler PUnit := do
  let manifest ← getDeviceManifestResult
  let deviceNetworkPayload ← callService
    (createDeviceNetworkSyncPayload manifest.remoteMissing)
  sendMessage (.deviceNetworkSync deviceNetworkPayload)

def handleManifestResponse (payload : DeviceManifestComparisonResult) :
    Handler PUnit := do
  setDeviceManifestComparisonResult payload.inverse
  sendMessage .deviceManifestAck
  sendDeviceNetworkSync

def handleManifestAck : Handler PUnit := sendDeviceNetworkSync

def handleDeviceNetworkSync (payload : DeviceNetworkSyncPayload) :
    Handler PUnit := do
  callService (processDeviceNetworkSync payload)
  sendMessage .deviceNetworkSyncAck

variable (env : NetworkEnv)

def startUserNetworkSync : Handler PUnit := do
  if ← readConnection PeerConnection.isInitiator then
    let peerUser ← getPeerUser
    let currentUser ← getLocalUser env
    let userManifest ← callServiceAs .manifestGenerationFailed
      (getUserManifest peerUser.id currentUser.id)
    sendMessage (.userManifestPayload (.request userManifest))

def processManifestRequest (requestPayload : UserManifestRequestPayload) :
    Handler PUnit := do
  let peerUser ← getPeerUser
  let currentUser ← getLocalUser env
  let manifestResult ← callServiceAs .manifestComparisonFailed
    (processUserManifestRequest requestPayload peerUser.id currentUser.id)
  setUserManifestComparisonResult manifestResult
  sendMessage (.userManifestPayload (.response manifestResult))

def processManifestResponse (manifest : UserManifestComparisonResult) :
    Handler PUnit := do
  setUserManifestComparisonResult manifest.inverse
  sendMessage (.userManifestPayload .ack)

def sendUserNetworkSync : Handler PUnit := do
  let manifest ← getUserManifestResult
  let peerUser ← getPeerUser
  let payload ← callServiceAs .userSyncFailed
    (createUserNetworkSyncPayload env.toServiceEnv manifest.remoteMissing
      peerUser)
  sendMessage (.userNetworkSync payload)

def processUserManifestPayload (payload : UserManifestPayload) :
    Handler PUnit :=
  match payload with
  | .request requestPayload => processManifestRequest env requestPayload
  | .response manifest => processManifestResponse manifest
  | .ack => sendUserNetworkSync env

def processUserNetworkSync (payload : UserNetworkSyncPayload) :
    Handler PUnit := do
  if ← readConnection PeerConnection.isInitiator then
    sendUserNetworkSync env
  callServiceAs .userSyncFailed (processUserNetworkSyncPayload payload)
  sendMessage .userNetworkSyncAck

variable (env : NetworkEnv)

def userOfRemoteDevice : Handler User := do
  let deviceIdB64 ← readConnection PeerConnection.remoteDeviceId
  queryRepo (UserRepo.getUserByDeviceId deviceIdB64)

def initiateHandshake (connectionType : ConnectionType) (currentUser : User)
    (currentDevice : Device) : Handler PUnit := do
  let peerUser ← userOfRemoteDevice
  let signedUcanPub ← callService (signUcanPubKey env.toServiceEnv)
  if !peerUser.firstSync then
    let userDevices ← callService (getMyUserDevices currentUser.id)
    let newUcanToken ← callService
      (issueConnectUcanToken env.toServiceEnv peerUser.ucanPubKey)
    sendMessage (.handshake (.handshakeFirstConnectRequest
      { devices := userDevices
        issuedUcan := newUcanToken
        signedUcanPub
        oneTimeUcan := peerUser.ucanToken
        peerDevice := currentDevice
        peerUser := currentUser
        connectionType }))
  else
    sendMessage (.handshake (.handshakeExchange
      { ucanToken := peerUser.ucanToken
        peerUser := currentUser
        peerDevice := currentDevice
        connectionType
        signedUcanPub }))
    setConnectionType .user

def requireConnectToken (currentUser peerUser : User)
    (token peerUcanPub : String) : Handler PUnit := do
  let tokenValidation ← callCrypto (liftUcan (validateConnectToken
    env.libraries.ucan env.now token peerUcanPub currentUser.ucanPubKey
    currentUser.id env.domain))
  if !tokenValidation then
    Program.fail (.handshake (.invalidCredentials peerUser.id))

def processExchangeMessage (payload : UcanAndUserExchange) :
    Handler PUnit := do
  let peerUcanPub ← callCrypto (verifyClearTextMessage env.now
    payload.peerUser.publicKey payload.signedUcanPub)
  let currentUser ← getLocalUser env
  let currentDevice ← getLocalDevice env
  requireConnectToken env currentUser payload.peerUser payload.ucanToken
    peerUcanPub
  setPeerUserAndDevice payload.peerUser payload.peerDevice
  if ← readConnection PeerConnection.isInitiator then
    setHandshakeComplete
    startUserNetworkSync env
  else
    let signedUcanPub ← callService (signUcanPubKey env.toServiceEnv)
    let peerUser ← userOfRemoteDevice
    setHandshakeComplete
    sendMessage (.handshake (.handshakeExchange
      { signedUcanPub
        peerUser := currentUser
        peerDevice := currentDevice
        ucanToken := peerUser.ucanToken
        connectionType := payload.connectionType }))
    setConnectionType .user

def firstConnected (peerUser : User) (issuedUcan peerUcanPub : String) : User :=
  { peerUser with
    firstSync := true, owner := false
    ucanToken := issuedUcan, ucanPubKey := peerUcanPub }

def processFirstUserConnectionRequest (payload : FirstConnectRequest) :
    Handler PUnit := do
  let currentUser ← getLocalUser env
  let currentDevice ← getLocalDevice env
  let peerUcanPub ← callCrypto (verifyClearTextMessage env.now
    payload.peerUser.publicKey payload.signedUcanPub)
  requireConnectToken env currentUser payload.peerUser payload.oneTimeUcan
    peerUcanPub
  let signedUcanPub ← callService (signUcanPubKey env.toServiceEnv)
  let peerIssuedUcanToken ← callService
    (issueConnectUcanToken env.toServiceEnv peerUcanPub)
  setConnectionType .user
  setPeerUserAndDevice payload.peerUser payload.peerDevice
  updateRepo (UserRepo.addUsersWithDevicesBulk
    [{ user := firstConnected payload.peerUser payload.issuedUcan peerUcanPub
       devices := payload.devices }])
  let myDevices ← callService (getMyUserDevices currentUser.id)
  setHandshakeComplete
  sendMessage (.handshake (.handshakeFirstConnectResponse
    { peerUser := currentUser
      peerDevice := currentDevice
      devices := myDevices
      ucanToken := payload.issuedUcan
      issuedUcan := peerIssuedUcanToken
      signedUcanPub }))

def processFirstUserConnectionHandshakeResponse
    (payload : FirstConnectResponse) : Handler PUnit := do
  let peerUcanPub ← callCrypto (verifyClearTextMessage env.now
    payload.peerUser.publicKey payload.signedUcanPub)
  let currentUser ← getLocalUser env
  requireConnectToken env currentUser payload.peerUser payload.ucanToken
    peerUcanPub
  setPeerUserAndDevice payload.peerUser payload.peerDevice
  setHandshakeComplete
  updateRepo (UserRepo.addUsersWithDevicesBulk
    [{ user := firstConnected payload.peerUser payload.issuedUcan peerUcanPub
       devices := payload.devices }])
  startUserNetworkSync env

def handleHandshakeMessage (payload : HandshakeMessage) : Handler PUnit :=
  match payload with
  | .handshakeFirstConnectRequest payload =>
      processFirstUserConnectionRequest env payload
  | .handshakeFirstConnectResponse payload =>
      processFirstUserConnectionHandshakeResponse env payload
  | .handshakeExchange payload => processExchangeMessage env payload

structure Credentials where
  peerUser : User
  peerDevice : Device
  signedUcanPub : SignedText
  connectToken : String

def credentialsOf : HandshakeMessage → Credentials
  | .handshakeFirstConnectRequest payload =>
      { peerUser := payload.peerUser, peerDevice := payload.peerDevice
        signedUcanPub := payload.signedUcanPub
        connectToken := payload.oneTimeUcan }
  | .handshakeFirstConnectResponse payload =>
      { peerUser := payload.peerUser, peerDevice := payload.peerDevice
        signedUcanPub := payload.signedUcanPub
        connectToken := payload.ucanToken }
  | .handshakeExchange payload =>
      { peerUser := payload.peerUser, peerDevice := payload.peerDevice
        signedUcanPub := payload.signedUcanPub
        connectToken := payload.ucanToken }

def IsHandshake : Message → Prop
  | .handshake _ => True
  | _ => False

/-- The checks of every handshake message: the public key it comes with signed
the token key, and the token lets the holder of that key connect. -/
structure Vouched (credentials : Credentials) (ucanPubKey : String) : Prop where
  signature : verifyClearTextMessage env.now credentials.peerUser.publicKey
    credentials.signedUcanPub = .ok ucanPubKey
  token : ∃ currentUser, env.currentUser = some currentUser ∧
    validateConnectToken env.libraries.ucan env.now credentials.connectToken
      ucanPubKey currentUser.ucanPubKey currentUser.id env.domain = .ok true

inductive AddsUsers : Message → List UserWithDevices → Prop
  | firstConnectRequest {payload : FirstConnectRequest} {ucanPubKey : String} :
      Vouched env (credentialsOf (.handshakeFirstConnectRequest payload))
        ucanPubKey →
      AddsUsers (.handshake (.handshakeFirstConnectRequest payload))
        [{ user := firstConnected payload.peerUser payload.issuedUcan ucanPubKey
           devices := payload.devices }]
  | firstConnectResponse {payload : FirstConnectResponse} {ucanPubKey : String} :
      Vouched env (credentialsOf (.handshakeFirstConnectResponse payload))
        ucanPubKey →
      AddsUsers (.handshake (.handshakeFirstConnectResponse payload))
        [{ user := firstConnected payload.peerUser payload.issuedUcan ucanPubKey
           devices := payload.devices }]
  | userNetworkSync {payload : UserNetworkSyncPayload} :
      AddsUsers (.userNetworkSync payload)
        (payload.users.map Services.asNewStranger)
  | deviceNetworkSync {payload : DeviceNetworkSyncPayload} :
      AddsUsers (.deviceNetworkSync payload)
        (payload.unknownUsersWithDevices.map Services.asStranger)

def Accepted (payload : HandshakeMessage) (session : Session) : Prop :=
  ((handleHandshakeMessage env payload).run session).1 = .ok .unit ∨
    session.connection.handshakeComplete = false ∧
      ((handleHandshakeMessage env payload).run
        session).2.connection.handshakeComplete = true

end Osvauld.Network
