import Osvauld.Network.P2P.Guarantees
import Osvauld.Network.P2P.ProcessMessage

namespace Osvauld.Network

open Osvauld.Core Data Persistance Services

/-! Which parts of a connection the handlers may change. -/

structure AllowsTalk (connected : PeerConnection → PeerConnection → Prop) :
    Prop where
  refl : ∀ connection, connected connection connection
  sent : ∀ connection message, ¬IsHandshake message →
    connected connection { connection with sent := connection.sent ++ [message] }
  events : ∀ connection events, connected connection { connection with events }

section Handlers

variable {connected : PeerConnection → PeerConnection → Prop}
variable (htalk : AllowsTalk connected)

include htalk

theorem sendMessage_allowed {message : Message} (hother : ¬IsHandshake message) :
    Program.Guarantees (OnConnection connected) (sendMessage message) :=
  .connection_change fun connection => htalk.sent connection message hother

theorem emit_allowed (event : P2PEvent) :
    Program.Guarantees (OnConnection connected) (emit event) :=
  .connection_change fun connection => htalk.events connection _

theorem startUserNetworkSync_allowed (env : NetworkEnv) :
    Program.Guarantees (OnConnection connected) (startUserNetworkSync env) := by
  refine .bind (.connection_read htalk.refl _) fun isInitiator => .ite ?_ (.pure _)
  refine .bind (.connection_read htalk.refl _) fun peerUser => ?_
  refine .bind (.getLocalUser env) fun currentUser => ?_
  refine .bind (.connection_callServiceAs htalk.refl _ _) fun userManifest => ?_
  exact sendMessage_allowed htalk id

theorem sendDeviceNetworkSync_allowed :
    Program.Guarantees (OnConnection connected) sendDeviceNetworkSync := by
  refine .bind (.connection_read htalk.refl _) fun manifest => ?_
  refine .bind (.connection_callService htalk.refl _) fun payload => ?_
  exact sendMessage_allowed htalk id

section

variable (env : NetworkEnv)

theorem sendUserNetworkSync_allowed :
    Program.Guarantees (OnConnection connected) (sendUserNetworkSync env) := by
  refine .bind (.connection_read htalk.refl _) fun manifest => ?_
  refine .bind (.connection_read htalk.refl _) fun peerUser => ?_
  refine .bind (.connection_callServiceAs htalk.refl _ _) fun payload => ?_
  exact sendMessage_allowed htalk id

theorem processUserNetworkSync_allowed (payload : UserNetworkSyncPayload) :
    Program.Guarantees (OnConnection connected)
      (processUserNetworkSync env payload) := by
  have hrest : Program.Guarantees (OnConnection connected) (do
      callServiceAs .userSyncFailed (processUserNetworkSyncPayload payload)
      sendMessage .userNetworkSyncAck) :=
    .bind (.connection_callServiceAs htalk.refl _ _) fun _ =>
      sendMessage_allowed htalk id
  refine .bind (.connection_read htalk.refl _) fun isInitiator => .ite ?_ hrest
  exact .bind (sendUserNetworkSync_allowed htalk env) fun _ => hrest

theorem sendResources_allowed :
    Program.Guarantees (OnConnection connected) (sendResources env) := by
  have hmissing : Program.Guarantees (OnConnection connected)
      remoteMissingResources := by
    refine .bind (.connection_read htalk.refl _) fun kind => ?_
    cases kind with
    | device => exact .bind (.connection_read htalk.refl _) fun _ => .pure _
    | user => exact .bind (.connection_read htalk.refl _) fun _ => .pure _
  have hresource (resourceId : String) : Program.Guarantees
      (OnConnection connected) (sendResource env resourceId) := by
    refine .bind (.connection_read htalk.refl _) fun peerDevice => ?_
    refine .bind (.connection_callService htalk.refl _) fun payload => ?_
    exact sendMessage_allowed htalk id
  refine .bind hmissing fun remoteMissing => .ite ?_ ?_
  · exact .bind (sendMessage_allowed htalk id) fun _ =>
      .forEach fun resourceId _ => hresource resourceId
  · exact .forEach fun resourceId _ => hresource resourceId

theorem processResourceAdditionComplete_allowed :
    Program.Guarantees (OnConnection connected)
      (processResourceAdditionComplete env) := by
  have hrequiring : Program.Guarantees (OnConnection connected)
      resourcesRequiringSync := by
    refine .bind (.connection_read htalk.refl _) fun kind => ?_
    cases kind with
    | device => exact .bind (.connection_read htalk.refl _) fun _ => .pure _
    | user => exact .bind (.connection_read htalk.refl _) fun _ => .pure _
  refine .bind (.connection_read htalk.refl _) fun isInitiator => .ite ?_ (.pure _)
  refine .bind hrequiring fun resourceIds => .forEach fun resourceId _ => ?_
  refine .bind (.getLocalUser env) fun user => ?_
  refine .bind (.connection_callService htalk.refl _) fun stateVectors => ?_
  refine .bind (.connection_callService htalk.refl _) fun ucanToken => ?_
  exact sendMessage_allowed htalk id

theorem requireUpdateAuthority_allowed (resourceId token : String) :
    Program.Guarantees (OnConnection connected)
      (requireUpdateAuthority env resourceId token) := by
  refine .bind (.connection_read htalk.refl _) fun peerUser => ?_
  refine .bind (.connection_callService htalk.refl _) fun valid => ?_
  exact .ite (.fail _) (.pure _)

theorem processResourceUpdateMessage_allowed (payload : ResourceUpdateMsg) :
    Program.Guarantees (OnConnection connected)
      (processResourceUpdateMessage env payload) := by
  refine .bind (.getLocalUser env) fun user => ?_
  cases payload with
  | stateVectorRequest resourceId stateVectors token =>
      refine .bind (requireUpdateAuthority_allowed htalk _ _ _) fun _ => ?_
      refine .bind (.connection_callService htalk.refl _) fun updates => ?_
      refine .bind (.connection_callService htalk.refl _) fun ucanToken => ?_
      exact sendMessage_allowed htalk id
  | updatesResponse resourceId updates token =>
      refine .bind (requireUpdateAuthority_allowed htalk _ _ _) fun _ => ?_
      refine .bind (.connection_callService htalk.refl _) fun remoteUpdates => ?_
      refine .bind (.connection_callService htalk.refl _) fun shareRecords => ?_
      refine .bind (.connection_callService htalk.refl _) fun vectorClocks => ?_
      refine .bind (.connection_callService htalk.refl _) fun resourceKeys => ?_
      refine .bind (sendMessage_allowed htalk id) fun _ => ?_
      refine .bind (.connection_read htalk.refl _) fun peerDevice => ?_
      refine .bind (.getClientId _ _) fun clientId => ?_
      exact emit_allowed htalk _
  | finalUpdateMerge resourceId updates vectorClocks shareRecords keys =>
      refine .bind (.connection_callService htalk.refl _) fun _ => ?_
      refine .bind (.connection_read htalk.refl _) fun peerDevice => ?_
      refine .bind (.getClientId _ _) fun clientId => ?_
      refine .bind (emit_allowed htalk _) fun _ => ?_
      refine .bind (.connection_callService htalk.refl _) fun localKeys => ?_
      refine .bind (.connection_updateRepo htalk.refl _) fun _ => ?_
      refine .bind (.connection_callService htalk.refl _) fun changes => ?_
      refine .bind (.connection_callService htalk.refl _) fun records => ?_
      exact sendMessage_allowed htalk id
  | vectorClockResponse resourceId updateClock addClock shareRecords keys =>
      refine .bind (.connection_callService htalk.refl _) fun _ => ?_
      refine .bind (.connection_callService htalk.refl _) fun _ => ?_
      exact .connection_updateRepo htalk.refl _

theorem handleLiveEditFlow_allowed (message : LiveEditMessage) :
    Program.Guarantees (OnConnection connected)
      (handleLiveEditFlow env message) := by
  refine .bind (.getLocalUser env) fun user => ?_
  refine .bind (.connection_read htalk.refl _) fun connectionId => ?_
  cases message with
  | updateExchange | updateExchangeResponse =>
      refine .bind (.connection_read htalk.refl _) fun peerDevice => ?_
      exact .bind (.getClientId _ _) fun clientId => emit_allowed htalk _
  | documentCheck | notSameDocument | stateVectorExchange | documentChange
  | documentUpdate | awarenessUpdate => exact emit_allowed htalk _

end

theorem sendUnknownFolders_allowed :
    Program.Guarantees (OnConnection connected) sendUnknownFolders := by
  refine .bind (.connection_read htalk.refl _) fun manifest => ?_
  refine .bind (.connection_callService htalk.refl _) fun payload => ?_
  exact sendMessage_allowed htalk id

theorem sendFolderRecipientSync_allowed :
    Program.Guarantees (OnConnection connected) sendFolderRecipientSync := by
  refine .bind (.connection_read htalk.refl _) fun manifest => ?_
  refine .bind (.connection_callService htalk.refl _) fun payload => ?_
  exact sendMessage_allowed htalk id

theorem startFolderSync_allowed :
    Program.Guarantees (OnConnection connected) startFolderSync := by
  refine .bind (.connection_read htalk.refl _) fun manifest => .ite ?_ ?_
  · exact sendMessage_allowed htalk id
  · exact .bind (.connection_callService htalk.refl _) fun payload =>
      sendMessage_allowed htalk id

theorem processFolderSyncMessage_allowed (env : NetworkEnv)
    (message : FolderSyncMessage) :
    Program.Guarantees (OnConnection connected)
      (processFolderSyncMessage env message) := by
  cases message with
  | unknownFoldersPayload payload =>
      refine .bind (.connection_callService htalk.refl _) fun _ => ?_
      refine .bind (emit_allowed htalk _) fun _ => ?_
      refine .bind (.connection_read htalk.refl _) fun isInitiator => ?_
      exact .ite (sendFolderRecipientSync_allowed htalk)
        (sendUnknownFolders_allowed htalk)
  | folderRecipientSyncPayload payload =>
      refine .bind (.connection_read htalk.refl _) fun manifest => ?_
      refine .bind (.getLocalUser env) fun currentUser => ?_
      refine .bind (.connection_read htalk.refl _) fun peerUser => ?_
      refine .bind (.connection_callService htalk.refl _) fun _ => ?_
      refine .bind (.connection_read htalk.refl _) fun isInitiator => .ite ?_ ?_
      · exact .bind (sendFolderRecipientSync_allowed htalk) fun _ =>
          sendResources_allowed htalk env
      · exact sendResources_allowed htalk env

end Handlers

/-- A relation that also opening a connection keeps, and introducing this end as
one of the given users. -/
structure AllowsInitiation (introduced : User → Prop)
    (connected : PeerConnection → PeerConnection → Prop) : Prop
    extends AllowsTalk connected where
  introduce : ∀ connection payload, introduced (credentialsOf payload).peerUser →
    connected connection
      { connection with sent := connection.sent ++ [.handshake payload] }
  connectionType : ∀ connection connectionType,
    connected connection { connection with connectionType }

section Initiation

variable {introduced : User → Prop}
variable {connected : PeerConnection → PeerConnection → Prop}
variable (hinitiation : AllowsInitiation introduced connected)

include hinitiation

theorem sendHandshake_allowed {payload : HandshakeMessage}
    (hintroduced : introduced (credentialsOf payload).peerUser) :
    Program.Guarantees (OnConnection connected)
      (sendMessage (.handshake payload)) :=
  .connection_change fun connection =>
    hinitiation.introduce connection payload hintroduced

theorem setConnectionType_allowed (connectionType : ConnectionType) :
    Program.Guarantees (OnConnection connected)
      (setConnectionType connectionType) :=
  .connection_change fun connection => hinitiation.connectionType connection _

theorem userOfRemoteDevice_allowed :
    Program.Guarantees (OnConnection connected) userOfRemoteDevice :=
  .bind (.connection_read hinitiation.refl _) fun _ =>
    .connection_read hinitiation.refl _

theorem initiateHandshake_allowed (env : NetworkEnv)
    (connectionType : ConnectionType) {currentUser : User}
    (currentDevice : Device) (hintroduced : introduced currentUser) :
    Program.Guarantees (OnConnection connected)
      (initiateHandshake env connectionType currentUser currentDevice) := by
  have htalk := hinitiation.toAllowsTalk
  refine .bind (userOfRemoteDevice_allowed hinitiation) fun peerUser => ?_
  refine .bind (.connection_callService htalk.refl _) fun signed => .ite ?_ ?_
  · refine .bind (.connection_callService htalk.refl _) fun userDevices => ?_
    refine .bind (.connection_callService htalk.refl _) fun token => ?_
    exact sendHandshake_allowed hinitiation hintroduced
  · refine .bind (sendHandshake_allowed hinitiation hintroduced) fun _ => ?_
    exact setConnectionType_allowed hinitiation _

end Initiation

structure AllowsHandshake (introduced : User → Prop)
    (connected : PeerConnection → PeerConnection → Prop) : Prop
    extends AllowsInitiation introduced connected where
  peer : ∀ connection user device,
    connected connection { connection with user, device }
  complete : ∀ connection,
    connected connection { connection with handshakeComplete := true }

section Handshake

variable {introduced : User → Prop}
variable {connected : PeerConnection → PeerConnection → Prop}
variable (hshake : AllowsHandshake introduced connected)

include hshake

theorem setPeerUserAndDevice_allowed (user : User) (device : Device) :
    Program.Guarantees (OnConnection connected)
      (setPeerUserAndDevice user device) :=
  .connection_change fun connection => hshake.peer connection _ _

theorem setHandshakeComplete_allowed :
    Program.Guarantees (OnConnection connected) setHandshakeComplete :=
  .connection_change hshake.complete

omit hshake in
theorem requireConnectToken_allowed (env : NetworkEnv)
    (currentUser peerUser : User) (token peerUcanPub : String) :
    Program.Guarantees (OnConnection connected)
      (requireConnectToken env currentUser peerUser token peerUcanPub) :=
  .bind (.callCrypto _) fun _ => .ite (.fail _) (.pure _)

variable (env : NetworkEnv)
variable (hlocal : ∀ user, env.currentUser = some user → introduced user)

include hlocal

theorem processExchangeMessage_allowed (payload : UcanAndUserExchange) :
    Program.Guarantees (OnConnection connected)
      (processExchangeMessage env payload) := by
  refine .bind (.callCrypto _) fun peerUcanPub => ?_
  refine .getLocalUser_bind env fun currentUser huser => ?_
  refine .bind (.getLocalDevice env) fun currentDevice => ?_
  refine .bind (requireConnectToken_allowed _ _ _ _ _) fun _ => ?_
  refine .bind (setPeerUserAndDevice_allowed hshake _ _) fun _ => ?_
  refine .bind (.connection_read hshake.refl _) fun isInitiator => .ite ?_ ?_
  · refine .bind (setHandshakeComplete_allowed hshake) fun _ => ?_
    exact startUserNetworkSync_allowed hshake.toAllowsTalk env
  · refine .bind (.connection_callService hshake.refl _) fun signed => ?_
    refine .bind (userOfRemoteDevice_allowed hshake.toAllowsInitiation) fun peerUser => ?_
    refine .bind (setHandshakeComplete_allowed hshake) fun _ => ?_
    refine .bind (sendHandshake_allowed hshake.toAllowsInitiation
      (hlocal currentUser huser)) fun _ => ?_
    exact setConnectionType_allowed hshake.toAllowsInitiation _

theorem processFirstUserConnectionRequest_allowed
    (payload : FirstConnectRequest) :
    Program.Guarantees (OnConnection connected)
      (processFirstUserConnectionRequest env payload) := by
  refine .getLocalUser_bind env fun currentUser huser => ?_
  refine .bind (.getLocalDevice env) fun currentDevice => ?_
  refine .bind (.callCrypto _) fun peerUcanPub => ?_
  refine .bind (requireConnectToken_allowed _ _ _ _ _) fun _ => ?_
  refine .bind (.connection_callService hshake.refl _) fun signed => ?_
  refine .bind (.connection_callService hshake.refl _) fun issuedToken => ?_
  refine .bind (setConnectionType_allowed hshake.toAllowsInitiation _) fun _ => ?_
  refine .bind (setPeerUserAndDevice_allowed hshake _ _) fun _ => ?_
  refine .bind (.connection_updateRepo hshake.refl _) fun _ => ?_
  refine .bind (.connection_callService hshake.refl _) fun myDevices => ?_
  refine .bind (setHandshakeComplete_allowed hshake) fun _ => ?_
  exact sendHandshake_allowed hshake.toAllowsInitiation (hlocal currentUser huser)

omit hlocal in
theorem processFirstUserConnectionHandshakeResponse_allowed
    (payload : FirstConnectResponse) :
    Program.Guarantees (OnConnection connected)
      (processFirstUserConnectionHandshakeResponse env payload) := by
  refine .bind (.callCrypto _) fun peerUcanPub => ?_
  refine .getLocalUser_bind env fun currentUser huser => ?_
  refine .bind (requireConnectToken_allowed _ _ _ _ _) fun _ => ?_
  refine .bind (setPeerUserAndDevice_allowed hshake _ _) fun _ => ?_
  refine .bind (setHandshakeComplete_allowed hshake) fun _ => ?_
  refine .bind (.connection_updateRepo hshake.refl _) fun _ => ?_
  exact startUserNetworkSync_allowed hshake.toAllowsTalk env

theorem handleHandshakeMessage_allowed (payload : HandshakeMessage) :
    Program.Guarantees (OnConnection connected)
      (handleHandshakeMessage env payload) := by
  cases payload with
  | handshakeFirstConnectRequest payload =>
      exact processFirstUserConnectionRequest_allowed hshake env hlocal payload
  | handshakeFirstConnectResponse payload =>
      exact processFirstUserConnectionHandshakeResponse_allowed hshake env payload
  | handshakeExchange payload =>
      exact processExchangeMessage_allowed hshake env hlocal payload

end Handshake

structure AllowsManifests
    (connected : PeerConnection → PeerConnection → Prop) : Prop
    extends AllowsTalk connected where
  deviceManifest : ∀ connection deviceManifestResult,
    connected connection { connection with deviceManifestResult }
  userManifest : ∀ connection userManifestResult,
    connected connection { connection with userManifestResult }

section Manifests

variable {connected : PeerConnection → PeerConnection → Prop}
variable (hmanifests : AllowsManifests connected)

include hmanifests

theorem setDeviceManifestComparisonResult_allowed
    (result : DeviceManifestComparisonResult) :
    Program.Guarantees (OnConnection connected)
      (setDeviceManifestComparisonResult result) :=
  .connection_change fun connection => hmanifests.deviceManifest connection _

theorem setUserManifestComparisonResult_allowed
    (result : UserManifestComparisonResult) :
    Program.Guarantees (OnConnection connected)
      (setUserManifestComparisonResult result) :=
  .connection_change fun connection => hmanifests.userManifest connection _

theorem processResourceAdditionRequest_allowed (payload : ResourceSyncData) :
    Program.Guarantees (OnConnection connected)
      (processResourceAdditionRequest payload) := by
  have hremove (kind : ConnectionType) : Program.Guarantees
      (OnConnection connected)
      (removeLocalMissingResource kind payload.resource.id) := by
    cases kind with
    | device =>
        exact .bind (.connection_change fun connection =>
          hmanifests.deviceManifest connection _)
          fun _ => .connection_read hmanifests.refl _
    | user =>
        exact .bind (.connection_change fun connection =>
          hmanifests.userManifest connection _)
          fun _ => .connection_read hmanifests.refl _
  refine .bind (.connection_read hmanifests.refl _) fun kind => ?_
  refine .bind (.connection_callService hmanifests.refl _) fun _ => ?_
  refine .bind (.connection_read hmanifests.refl _) fun peerUser => ?_
  refine .bind (emit_allowed hmanifests.toAllowsTalk _) fun _ => ?_
  refine .bind (hremove kind) fun isEmpty => .ite ?_ (.pure _)
  exact sendMessage_allowed hmanifests.toAllowsTalk id

theorem processUserManifestPayload_allowed (env : NetworkEnv)
    (payload : UserManifestPayload) :
    Program.Guarantees (OnConnection connected)
      (processUserManifestPayload env payload) := by
  cases payload with
  | request requestPayload =>
      refine .bind (.connection_read hmanifests.refl _) fun peerUser => ?_
      refine .bind (.getLocalUser env) fun currentUser => ?_
      refine .bind (.connection_callServiceAs hmanifests.refl _ _) fun result => ?_
      refine .bind (setUserManifestComparisonResult_allowed hmanifests _) fun _ => ?_
      exact sendMessage_allowed hmanifests.toAllowsTalk id
  | response manifest =>
      refine .bind (setUserManifestComparisonResult_allowed hmanifests _) fun _ => ?_
      exact sendMessage_allowed hmanifests.toAllowsTalk id
  | ack => exact sendUserNetworkSync_allowed hmanifests.toAllowsTalk env

theorem processMessage_allowed_of_handshake (env : NetworkEnv) (message : Message)
    (hhandshake : ∀ payload, message = .handshake payload →
      Program.Guarantees (OnConnection connected)
        (handleHandshakeMessage env payload)) :
    Program.Guarantees (OnConnection connected) (processMessage env message) := by
  have htalk := hmanifests.toAllowsTalk
  cases message with
  | ping => exact .pure _
  | pong => exact .pure _
  | error => exact emit_allowed htalk _
  | mergeUpdate payload => exact processResourceUpdateMessage_allowed htalk env payload
  | liveEdit payload => exact handleLiveEditFlow_allowed htalk env payload
  | deviceManifestRequest payload =>
      refine .bind (.connection_read hmanifests.refl _) fun peerUser => ?_
      refine .bind (.connection_callService hmanifests.refl _) fun result => ?_
      refine .bind (sendMessage_allowed htalk id) fun _ => ?_
      exact setDeviceManifestComparisonResult_allowed hmanifests _
  | deviceManifestResponse payload =>
      refine .bind (setDeviceManifestComparisonResult_allowed hmanifests _) fun _ => ?_
      refine .bind (sendMessage_allowed htalk id) fun _ => ?_
      exact sendDeviceNetworkSync_allowed htalk
  | deviceNetworkSync payload =>
      refine .bind (.connection_callService hmanifests.refl _) fun _ => ?_
      exact sendMessage_allowed htalk id
  | deviceManifestAck => exact sendDeviceNetworkSync_allowed htalk
  | deviceNetworkSyncAck => exact sendResources_allowed htalk env
  | resourceAdditionRequest payload =>
      exact processResourceAdditionRequest_allowed hmanifests payload
  | resourceAdditionComplete =>
      exact processResourceAdditionComplete_allowed htalk env
  | userManifestPayload payload =>
      exact processUserManifestPayload_allowed hmanifests env payload
  | userNetworkSync payload => exact processUserNetworkSync_allowed htalk env payload
  | userNetworkSyncAck => exact startFolderSync_allowed htalk
  | folderSync payload => exact processFolderSyncMessage_allowed htalk env payload
  | retryRequest => exact startUserNetworkSync_allowed htalk env
  | handshake payload => exact hhandshake payload rfl

end Manifests

structure AllowsEverything (introduced : User → Prop)
    (connected : PeerConnection → PeerConnection → Prop) : Prop
    extends AllowsHandshake introduced connected, AllowsManifests connected

theorem processMessage_allowed {introduced : User → Prop}
    {connected : PeerConnection → PeerConnection → Prop}
    (hall : AllowsEverything introduced connected) (env : NetworkEnv)
    (hlocal : ∀ user, env.currentUser = some user → introduced user)
    (message : Message) :
    Program.Guarantees (OnConnection connected) (processMessage env message) :=
  processMessage_allowed_of_handshake hall.toAllowsManifests env message
    fun payload _ => handleHandshakeMessage_allowed hall.toAllowsHandshake env
      hlocal payload

end Osvauld.Network
