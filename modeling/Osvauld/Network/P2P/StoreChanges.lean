import Osvauld.Network.P2P.ProcessMessage
import Osvauld.Services.Provenance

namespace Osvauld.Network

open Osvauld.Core Data Persistance Services

/-! How the handlers move the store, whatever the others do to it in between. -/

def carriedByUpdate : ResourceUpdateMsg → List ShareRecord
  | .finalUpdateMerge _ _ _ shareRecords _ => shareRecords
  | .vectorClockResponse _ _ _ shareRecords _ => shareRecords
  | _ => []

def carriedShareRecords : Message → List ShareRecord
  | .resourceAdditionRequest payload => payload.shareRecords
  | .mergeUpdate payload => carriedByUpdate payload
  | _ => []

def MovesStore (reach : RepositoryContext → RepositoryContext → Prop)
    (session session' : Session) : Prop :=
  reach session.repo session'.repo

section MovesStore

variable {share : RepositoryContext → ShareRecord → Prop}
variable {reach : RepositoryContext → RepositoryContext → Prop}
variable [IsPreorder RepositoryContext reach] {since : Session}

instance : IsPreorder Session (MovesStore reach) where
  refl session := refl_of reach session.repo
  trans _ _ _ := trans_of reach

namespace MovesStore

variable {α : Type} {good : α → RepositoryContext → Prop} {service : Service α}

omit [IsPreorder RepositoryContext reach] in
theorem onRepo
    (hservice : ∀ since, Program.Respects reach good since service) :
    Program.Respects (MovesStore reach) (fun value session => good value session.repo)
      since (onRepo service) := by
  refine Program.Follows.zoom ?_ ?_ ?_ (hservice _)
  · exact fun _ _ => rfl
  · exact fun _ _ hmoves => hmoves
  · exact fun _ _ hmoves => hmoves

omit [IsPreorder RepositoryContext reach] in
theorem callService
    (hservice : ∀ since, Program.Respects reach good since service) :
    Program.Respects (MovesStore reach) (fun _ _ => True) since
      (callService service) :=
  .mapError _ ((onRepo hservice).mono fun _ _ _ => trivial)

omit [IsPreorder RepositoryContext reach] in
theorem callServiceAs (report : ServiceError → SyncError)
    (hservice : ∀ since, Program.Respects reach good since service) :
    Program.Respects (MovesStore reach) (fun _ _ => True) since
      (callServiceAs report service) :=
  .mapError _ ((onRepo hservice).mono fun _ _ _ => trivial)

theorem read (query : Session → Except P2PError α) :
    Program.Respects (MovesStore reach) (fun _ _ => True) since
      (Program.read query) :=
  .read fun _ _ _ _ => trivial

theorem change (change : PeerConnection → PeerConnection) :
    Program.Respects (MovesStore reach) (fun _ _ => True) since
      (changeConnection change) := by
  refine .write fun session session' _ hchange => ?_
  cases hchange
  exact refl_of reach session.repo

theorem sendMessage (message : Message) :
    Program.Respects (MovesStore reach) (fun _ _ => True) since
      (sendMessage message) := change _

theorem emit (event : P2PEvent) :
    Program.Respects (MovesStore reach) (fun _ _ => True) since (emit event) :=
  change _

theorem writeRepo
    {write : RepositoryContext → Except RepositoryError RepositoryContext}
    (hwrite : ∀ ctx ctx', write ctx = .ok ctx' → reach ctx ctx') :
    Program.Respects (MovesStore reach) (fun _ _ => True) since
      (Network.updateRepo write) := by
  refine .write fun session session' _ hupdate => ?_
  split at hupdate
  · next repo hrepo =>
      cases hupdate
      exact hwrite _ _ hrepo
  · cases hupdate

theorem updateRepo (hreach : AdmitsSupplements share reach)
    {write : RepositoryContext → Except RepositoryError RepositoryContext}
    (hwrite : ∀ ctx ctx', write ctx = .ok ctx' → Supplements (share ctx) ctx ctx') :
    Program.Respects (MovesStore reach) (fun _ _ => True) since
      (Network.updateRepo write) :=
  writeRepo fun ctx ctx' hupdate => hreach _ _ (hwrite ctx ctx' hupdate)

omit [IsPreorder RepositoryContext reach] in
theorem callCrypto (result : CryptoUtils.CryptoResult α) :
    Program.Respects (MovesStore reach) (fun value _ => result = .ok value) since
      (callCrypto result) :=
  .ofExcept fun _ hvalue => mapError_eq_ok.mp hvalue

omit [IsPreorder RepositoryContext reach] in
theorem getLocalUser (env : NetworkEnv) :
    Program.Respects (MovesStore reach)
      (fun user _ => env.currentUser = some user) since (getLocalUser env) := by
  unfold Network.getLocalUser
  cases env.currentUser with
  | none => exact .fail _
  | some user => exact .pure rfl

omit [IsPreorder RepositoryContext reach] in
theorem getLocalDevice (env : NetworkEnv) :
    Program.Respects (MovesStore reach) (fun _ _ => True) since
      (getLocalDevice env) := by
  unfold Network.getLocalDevice
  cases env.currentDevice with
  | none => exact .fail _
  | some device => exact .pure trivial

omit [IsPreorder RepositoryContext reach] in
theorem getClientId (env : NetworkEnv) (device : Device) :
    Program.Respects (MovesStore reach) (fun _ _ => True) since
      (getClientId env device) := by
  unfold Network.getClientId
  split
  · exact .fail _
  · exact .pure trivial
  · exact .fail _

end MovesStore

section Readers

variable (env : NetworkEnv)

theorem startUserNetworkSync_moves :
    Program.Respects (MovesStore reach) (fun _ _ => True) since
      (startUserNetworkSync env) := by
  refine .bind (MovesStore.read _) fun isInitiator _ _ _ => .ite ?_ (.pure trivial)
  refine .bind (MovesStore.read _) fun peerUser _ _ _ => ?_
  refine .bind (MovesStore.getLocalUser env) fun currentUser _ _ _ => ?_
  refine .bind (MovesStore.callServiceAs _ fun _ => getUserManifest_any _ _)
    fun _ _ _ _ => ?_
  exact MovesStore.sendMessage _

theorem sendDeviceNetworkSync_moves :
    Program.Respects (MovesStore reach) (fun _ _ => True) since
      sendDeviceNetworkSync := by
  refine .bind (MovesStore.read _) fun manifest _ _ _ => ?_
  refine .bind (MovesStore.callService fun _ =>
    createDeviceNetworkSyncPayload_any _) fun payload _ _ _ => ?_
  exact MovesStore.sendMessage _

theorem sendUserNetworkSync_moves :
    Program.Respects (MovesStore reach) (fun _ _ => True) since
      (sendUserNetworkSync env) := by
  refine .bind (MovesStore.read _) fun manifest _ _ _ => ?_
  refine .bind (MovesStore.read _) fun peerUser _ _ _ => ?_
  refine .bind (MovesStore.callServiceAs _ fun _ =>
    createUserNetworkSyncPayload_respects _ _ _) fun payload _ _ _ => ?_
  exact MovesStore.sendMessage _

theorem processUserManifestPayload_moves (payload : UserManifestPayload) :
    Program.Respects (MovesStore reach) (fun _ _ => True) since
      (processUserManifestPayload env payload) := by
  cases payload with
  | request request =>
      refine .bind (MovesStore.read _) fun peerUser _ _ _ => ?_
      refine .bind (MovesStore.getLocalUser env) fun currentUser _ _ _ => ?_
      have hmanifest (since : RepositoryContext) : Program.Respects reach
          (fun _ _ => True) since (processUserManifestRequest request peerUser.id
            currentUser.id) :=
        .bind (getUserManifest_any _ _) fun _ _ _ _ => .pure trivial
      refine .bind (MovesStore.callServiceAs _ hmanifest) fun result _ _ _ => ?_
      exact .bind (MovesStore.change _) fun _ _ _ _ => MovesStore.sendMessage _
  | response manifest =>
      exact .bind (MovesStore.change _) fun _ _ _ _ => MovesStore.sendMessage _
  | ack => exact sendUserNetworkSync_moves env

theorem handleManifestRequest_moves (payload : DeviceManifestRequestPayload) :
    Program.Respects (MovesStore reach) (fun _ _ => True) since
      (handleManifestRequest payload) := by
  refine .bind (MovesStore.read _) fun peerUser _ _ _ => ?_
  have hmanifest (since : RepositoryContext) : Program.Respects reach
      (fun _ _ => True) since
        (processDeviceManifestRequest payload peerUser.id) :=
    .bind (getDeviceManifest_any _) fun _ _ _ _ => .pure trivial
  refine .bind (MovesStore.callService hmanifest) fun result _ _ _ => ?_
  exact .bind (MovesStore.sendMessage _) fun _ _ _ _ => MovesStore.change _

theorem handleManifestResponse_moves
    (payload : DeviceManifestComparisonResult) :
    Program.Respects (MovesStore reach) (fun _ _ => True) since
      (handleManifestResponse payload) := by
  refine .bind (MovesStore.change _) fun _ _ _ _ => ?_
  refine .bind (MovesStore.sendMessage _) fun _ _ _ _ => ?_
  exact sendDeviceNetworkSync_moves

theorem requestStateVector_moves (resourceId : String) :
    Program.Respects (MovesStore reach) (fun _ _ => True) since
      (requestStateVector env resourceId) := by
  refine .bind (MovesStore.getLocalUser env) fun user _ _ _ => ?_
  refine .bind (MovesStore.callService fun _ => getResourceStateVector_any _ _ _)
    fun stateVectors _ _ _ => ?_
  refine .bind (MovesStore.callService fun _ => getResourceUcanKey_any _ _)
    fun ucanToken _ _ _ => ?_
  exact MovesStore.sendMessage _

theorem processResourceAdditionComplete_moves :
    Program.Respects (MovesStore reach) (fun _ _ => True) since
      (processResourceAdditionComplete env) := by
  have hrequiring (since : Session) : Program.Respects (MovesStore reach)
      (fun _ _ => True) since resourcesRequiringSync := by
    refine .bind (MovesStore.read _) fun kind _ _ _ => ?_
    cases kind with
    | device => exact .bind (MovesStore.read _) fun _ _ _ _ => .pure trivial
    | user => exact .bind (MovesStore.read _) fun _ _ _ _ => .pure trivial
  refine .bind (MovesStore.read _) fun isInitiator _ _ _ => .ite ?_ (.pure trivial)
  exact .bind (hrequiring _) fun resourceIds _ _ _ =>
    .forEach fun resourceId _ _ _ => requestStateVector_moves env resourceId

theorem requireUpdateAuthority_moves (resourceId token : String) :
    Program.Respects (MovesStore reach) (fun _ _ => True) since
      (requireUpdateAuthority env resourceId token) := by
  refine .bind (MovesStore.read _) fun peerUser _ _ _ => ?_
  refine .bind (MovesStore.callService fun _ =>
    validateAuthorityForUpdate_any _ _ _ _) fun valid _ _ _ => ?_
  exact .ite (.fail _) (.pure trivial)

theorem handleLiveEditFlow_moves (message : LiveEditMessage) :
    Program.Respects (MovesStore reach) (fun _ _ => True) since
      (handleLiveEditFlow env message) := by
  refine .bind (MovesStore.getLocalUser env) fun user _ _ _ => ?_
  refine .bind (MovesStore.read _) fun connectionId _ _ _ => ?_
  cases message with
  | updateExchange | updateExchangeResponse =>
      refine .bind (MovesStore.read _) fun peerDevice _ _ _ => ?_
      exact .bind (MovesStore.getClientId _ _) fun clientId _ _ _ =>
        MovesStore.emit _
  | documentCheck | notSameDocument | stateVectorExchange | documentChange
  | documentUpdate | awarenessUpdate => exact MovesStore.emit _

theorem sendUnknownFolders_moves :
    Program.Respects (MovesStore reach) (fun _ _ => True) since
      sendUnknownFolders := by
  refine .bind (MovesStore.read _) fun manifest _ _ _ => ?_
  refine .bind (MovesStore.callService fun _ =>
    createUnknownFoldersPayload_respects _) fun payload _ _ _ => ?_
  exact MovesStore.sendMessage _

theorem startFolderSync_moves :
    Program.Respects (MovesStore reach) (fun _ _ => True) since
      startFolderSync := by
  refine .bind (MovesStore.read _) fun manifest _ _ _ => .ite ?_ ?_
  · exact MovesStore.sendMessage _
  · refine .bind (MovesStore.callService fun _ =>
      createUnknownFoldersPayload_respects _) fun payload _ _ _ => ?_
    exact MovesStore.sendMessage _

theorem sendFolderRecipientSync_moves :
    Program.Respects (MovesStore reach) (fun _ _ => True) since
      sendFolderRecipientSync := by
  refine .bind (MovesStore.read _) fun manifest _ _ _ => ?_
  refine .bind (MovesStore.callService fun _ =>
    getMissingRemoteFolderShareRecords_respects
      fun diff hdiff => List.mem_map_of_mem hdiff) fun updates _ _ _ => ?_
  exact MovesStore.sendMessage _

theorem userOfRemoteDevice_moves :
    Program.Respects (MovesStore reach) (fun _ _ => True) since
      userOfRemoteDevice :=
  .bind (MovesStore.read _) fun _ _ _ _ => MovesStore.read _

theorem requireConnectToken_moves (currentUser peerUser : User)
    (token peerUcanPub : String) :
    Program.Respects (MovesStore reach)
      (fun _ _ => CryptoUtils.validateConnectToken env.libraries.ucan env.now token
        peerUcanPub currentUser.ucanPubKey currentUser.id env.domain = .ok true)
      since (requireConnectToken env currentUser peerUser token peerUcanPub) := by
  refine .bind (MovesStore.callCrypto _) fun valid _ _ htoken => ?_
  cases valid with
  | false => exact .fail _
  | true => exact .pure (mapError_eq_ok.mp htoken)

theorem initiateHandshake_moves (connectionType : ConnectionType)
    (currentUser : User) (currentDevice : Device) :
    Program.Respects (MovesStore reach) (fun _ _ => True) since
      (initiateHandshake env connectionType currentUser currentDevice) := by
  refine .bind userOfRemoteDevice_moves fun peerUser _ _ _ => ?_
  refine .bind (MovesStore.callService fun _ => signUcanPubKey_any _)
    fun signed _ _ _ => .ite ?_ ?_
  · refine .bind (MovesStore.callService fun _ => query_any _)
      fun userDevices _ _ _ => ?_
    refine .bind (MovesStore.callService fun _ => issueConnectUcanToken_any _ _)
      fun issued _ _ _ => ?_
    exact MovesStore.sendMessage _
  · exact .bind (MovesStore.sendMessage _) fun _ _ _ _ => MovesStore.change _

theorem processExchangeMessage_moves (payload : UcanAndUserExchange) :
    Program.Respects (MovesStore reach) (fun _ _ => True) since
      (processExchangeMessage env payload) := by
  refine .bind (MovesStore.callCrypto _) fun peerUcanPub _ _ _ => ?_
  refine .bind (MovesStore.getLocalUser env) fun currentUser _ _ _ => ?_
  refine .bind (MovesStore.getLocalDevice env) fun currentDevice _ _ _ => ?_
  refine .bind (requireConnectToken_moves env _ _ _ _) fun _ _ _ _ => ?_
  refine .bind (MovesStore.change _) fun _ _ _ _ => ?_
  refine .bind (MovesStore.read _) fun isInitiator _ _ _ => .ite ?_ ?_
  · refine .bind (MovesStore.change _) fun _ _ _ _ => ?_
    exact startUserNetworkSync_moves env
  · refine .bind (MovesStore.callService fun _ => signUcanPubKey_any _)
      fun signed _ _ _ => ?_
    refine .bind userOfRemoteDevice_moves fun peerUser _ _ _ => ?_
    refine .bind (MovesStore.change _) fun _ _ _ _ => ?_
    refine .bind (MovesStore.sendMessage _) fun _ _ _ _ => ?_
    exact MovesStore.change _

end Readers

section AddUsers

variable (env : NetworkEnv)

def MovesWithUsers (reach : RepositoryContext → RepositoryContext → Prop)
    (env : NetworkEnv) (message : Message) : Prop :=
  ∀ users ctx ctx', AddsUsers env message users →
    UserRepo.addUsersWithDevicesBulk users ctx = .ok ctx' → reach ctx ctx'

omit [IsPreorder RepositoryContext reach] in
theorem movesWithUsers_of_admits (hreach : Admits share reach)
    (message : Message) : MovesWithUsers reach env message :=
  fun _ _ _ _ hadd => hreach _ _ (Extends.addUsersWithDevicesBulk hadd)

theorem processUserNetworkSync_moves {payload : UserNetworkSyncPayload}
    (husers : MovesWithUsers reach env (.userNetworkSync payload))
    (hdevices : MovesWithDevices reach) :
    Program.Respects (MovesStore reach) (fun _ _ => True) since
      (processUserNetworkSync env payload) := by
  have hrest (since : Session) : Program.Respects (MovesStore reach)
      (fun _ _ => True) since (do
        callServiceAs .userSyncFailed (processUserNetworkSyncPayload payload)
        sendMessage .userNetworkSyncAck) :=
    .bind (MovesStore.callServiceAs _ fun _ =>
      processUserNetworkSyncPayload_moves _
        (fun ctx ctx' => husers _ ctx ctx' .userNetworkSync) hdevices)
      fun _ _ _ _ => MovesStore.sendMessage _
  refine .bind (MovesStore.read _) fun isInitiator _ _ _ => .ite ?_ (hrest _)
  exact .bind (sendUserNetworkSync_moves env) fun _ _ _ _ => hrest _

theorem handleDeviceNetworkSync_moves {payload : DeviceNetworkSyncPayload}
    (husers : MovesWithUsers reach env (.deviceNetworkSync payload))
    (hfolders : ∀ folders ctx ctx',
      FolderRepo.addFoldersBulk folders ctx = .ok ctx' → reach ctx ctx')
    (hdevices : MovesWithDevices reach) :
    Program.Respects (MovesStore reach) (fun _ _ => True) since
      (handleDeviceNetworkSync payload) := by
  refine .bind (MovesStore.callService fun _ => processDeviceNetworkSync_moves _
    (fun ctx ctx' => husers _ ctx ctx' .deviceNetworkSync) hfolders hdevices)
    fun _ _ _ _ => ?_
  exact MovesStore.sendMessage _

theorem processFirstUserConnectionRequest_moves {payload : FirstConnectRequest}
    (husers : MovesWithUsers reach env
      (.handshake (.handshakeFirstConnectRequest payload))) :
    Program.Respects (MovesStore reach) (fun _ _ => True) since
      (processFirstUserConnectionRequest env payload) := by
  refine .bind (MovesStore.getLocalUser env) fun currentUser _ _ huser => ?_
  refine .bind (MovesStore.getLocalDevice env) fun currentDevice _ _ _ => ?_
  refine .bind (MovesStore.callCrypto _) fun peerUcanPub _ _ hsignature => ?_
  refine .bind (requireConnectToken_moves env _ _ _ _) fun _ _ _ htoken => ?_
  have hvouched : Vouched env
      (credentialsOf (.handshakeFirstConnectRequest payload)) peerUcanPub :=
    ⟨hsignature, currentUser, huser, htoken⟩
  refine .bind (MovesStore.callService fun _ => signUcanPubKey_any _)
    fun signed _ _ _ => ?_
  refine .bind (MovesStore.callService fun _ => issueConnectUcanToken_any _ _)
    fun issued _ _ _ => ?_
  refine .bind (MovesStore.change _) fun _ _ _ _ => ?_
  refine .bind (MovesStore.change _) fun _ _ _ _ => ?_
  refine .bind (MovesStore.writeRepo fun ctx ctx' =>
    husers _ ctx ctx' (.firstConnectRequest hvouched)) fun _ _ _ _ => ?_
  refine .bind (MovesStore.callService fun _ => query_any _)
    fun myDevices _ _ _ => ?_
  exact .bind (MovesStore.change _) fun _ _ _ _ => MovesStore.sendMessage _

theorem processFirstUserConnectionHandshakeResponse_moves
    {payload : FirstConnectResponse}
    (husers : MovesWithUsers reach env
      (.handshake (.handshakeFirstConnectResponse payload))) :
    Program.Respects (MovesStore reach) (fun _ _ => True) since
      (processFirstUserConnectionHandshakeResponse env payload) := by
  refine .bind (MovesStore.callCrypto _) fun peerUcanPub _ _ hsignature => ?_
  refine .bind (MovesStore.getLocalUser env) fun currentUser _ _ huser => ?_
  refine .bind (requireConnectToken_moves env _ _ _ _) fun _ _ _ htoken => ?_
  have hvouched : Vouched env
      (credentialsOf (.handshakeFirstConnectResponse payload)) peerUcanPub :=
    ⟨hsignature, currentUser, huser, htoken⟩
  refine .bind (MovesStore.change _) fun _ _ _ _ => ?_
  refine .bind (MovesStore.change _) fun _ _ _ _ => ?_
  refine .bind (MovesStore.writeRepo fun ctx ctx' =>
    husers _ ctx ctx' (.firstConnectResponse hvouched)) fun _ _ _ _ => ?_
  exact startUserNetworkSync_moves env

theorem handleHandshakeMessage_moves {payload : HandshakeMessage}
    (husers : MovesWithUsers reach env (.handshake payload)) :
    Program.Respects (MovesStore reach) (fun _ _ => True) since
      (handleHandshakeMessage env payload) := by
  cases payload with
  | handshakeFirstConnectRequest payload =>
      exact processFirstUserConnectionRequest_moves env husers
  | handshakeFirstConnectResponse payload =>
      exact processFirstUserConnectionHandshakeResponse_moves env husers
  | handshakeExchange payload => exact processExchangeMessage_moves env payload

end AddUsers

section Writers

variable (env : NetworkEnv) (hreach : AdmitsSupplements share reach)

include hreach

theorem sendResources_moves :
    Program.Respects (MovesStore reach) (fun _ _ => True) since
      (sendResources env) := by
  have hmissing : Program.Respects (MovesStore reach) (fun _ _ => True) since
      remoteMissingResources := by
    refine .bind (MovesStore.read _) fun kind _ _ _ => ?_
    cases kind with
    | device => exact .bind (MovesStore.read _) fun _ _ _ _ => .pure trivial
    | user => exact .bind (MovesStore.read _) fun _ _ _ _ => .pure trivial
  have hresource (resourceId : String) (since : Session) : Program.Respects
      (MovesStore reach) (fun _ _ => True) since (sendResource env resourceId) := by
    refine .bind (MovesStore.read _) fun peerDevice _ _ _ => ?_
    refine .bind (MovesStore.callService fun _ =>
      getResourceForRemoteAddition_respects _ hreach _ _) fun payload _ _ _ => ?_
    exact MovesStore.sendMessage _
  refine .bind hmissing fun remoteMissing _ _ _ => .ite ?_ ?_
  · exact .bind (MovesStore.sendMessage _) fun _ _ _ _ =>
      .forEach fun resourceId _ _ _ => hresource resourceId _
  · exact .forEach fun resourceId _ _ _ => hresource resourceId _

theorem processResourceAdditionRequest_moves {payload : ResourceSyncData}
    (hrecords : ∀ ctx, ∀ record ∈ payload.shareRecords, share ctx record) :
    Program.Respects (MovesStore reach) (fun _ _ => True) since
      (processResourceAdditionRequest payload) := by
  have hremove (kind : ConnectionType) (resourceId : String) (since : Session) :
      Program.Respects (MovesStore reach) (fun _ _ => True) since
        (removeLocalMissingResource kind resourceId) := by
    cases kind with
    | device => exact .bind (MovesStore.change _) fun _ _ _ _ => MovesStore.read _
    | user => exact .bind (MovesStore.change _) fun _ _ _ _ => MovesStore.read _
  refine .bind (MovesStore.read _) fun kind _ _ _ => ?_
  refine .bind (MovesStore.callService fun _ =>
    addResourceSync_respects hreach kind hrecords) fun _ _ _ _ => ?_
  refine .bind (MovesStore.read _) fun peerUser _ _ _ => ?_
  refine .bind (MovesStore.emit _) fun _ _ _ _ => ?_
  refine .bind (hremove _ _ _) fun isEmpty _ _ _ => ?_
  exact .ite (MovesStore.sendMessage _) (.pure trivial)

theorem processResourceUpdateMessage_moves {payload : ResourceUpdateMsg}
    (hrecords : ∀ ctx, ∀ record ∈ carriedByUpdate payload, share ctx record) :
    Program.Respects (MovesStore reach) (fun _ _ => True) since
      (processResourceUpdateMessage env payload) := by
  refine .bind (MovesStore.getLocalUser env) fun user _ _ _ => ?_
  cases payload with
  | stateVectorRequest resourceId stateVectors token =>
      refine .bind (requireUpdateAuthority_moves env _ _) fun _ _ _ _ => ?_
      refine .bind (MovesStore.callService fun _ =>
        generateUpdatesForPeer_any _ _ _ _) fun updates _ _ _ => ?_
      refine .bind (MovesStore.callService fun _ => getResourceUcanKey_any _ _)
        fun ucanToken _ _ _ => ?_
      exact MovesStore.sendMessage _
  | updatesResponse resourceId updates token =>
      refine .bind (requireUpdateAuthority_moves env _ _) fun _ _ _ _ => ?_
      refine .bind (MovesStore.callService fun _ =>
        applyUpdatesAndGetPeerUpdates_respects _ hreach _ _ _)
        fun remoteUpdates _ _ _ => ?_
      refine .bind (MovesStore.callService fun _ => query_any _)
        fun records _ _ _ => ?_
      refine .bind (MovesStore.callService fun _ => query_any _)
        fun clocks _ _ _ => ?_
      refine .bind (MovesStore.callService fun _ => query_any _)
        fun keys _ _ _ => ?_
      refine .bind (MovesStore.sendMessage _) fun _ _ _ _ => ?_
      refine .bind (MovesStore.read _) fun peerDevice _ _ _ => ?_
      exact .bind (MovesStore.getClientId _ _) fun clientId _ _ _ =>
        MovesStore.emit _
  | finalUpdateMerge resourceId updates clocks records keys =>
      refine .bind (MovesStore.callService fun _ =>
        applyUpdates_respects _ hreach _ _ _) fun _ _ _ _ => ?_
      refine .bind (MovesStore.read _) fun peerDevice _ _ _ => ?_
      refine .bind (MovesStore.getClientId _ _) fun clientId _ _ _ => ?_
      refine .bind (MovesStore.emit _) fun _ _ _ _ => ?_
      refine .bind (MovesStore.callService fun _ => query_any _)
        fun localKeys _ _ _ => ?_
      refine .bind (MovesStore.updateRepo hreach fun _ _ => Supplements.addResourceKeys)
        fun _ _ _ _ => ?_
      refine .bind (MovesStore.callService fun _ =>
        mergeVectorClocks_respects hreach _ _) fun changes _ _ _ => ?_
      refine .bind (MovesStore.callService fun _ =>
        mergeShareRecords_respects hreach _ hrecords) fun ownRecords _ _ _ => ?_
      exact MovesStore.sendMessage _
  | vectorClockResponse resourceId updateClock addClock records keys =>
      refine .bind (MovesStore.callService fun _ =>
        updateVectorClocks_respects hreach _ _) fun _ _ _ _ => ?_
      refine .bind (MovesStore.callService fun _ =>
        addShareRecords_respects hreach hrecords) fun _ _ _ _ => ?_
      exact MovesStore.updateRepo hreach fun _ _ => Supplements.addResourceKeys

theorem receiveUnknownFolders_moves (payload : UnknownFoldersPayload) :
    Program.Respects (MovesStore reach) (fun _ _ => True) since
      (receiveUnknownFolders payload) := by
  refine .bind (MovesStore.callService fun _ =>
    processUnknownFoldersPayload_respects hreach _) fun _ _ _ _ => ?_
  refine .bind (MovesStore.emit _) fun _ _ _ _ => ?_
  refine .bind (MovesStore.read _) fun isInitiator _ _ _ => ?_
  exact .ite sendFolderRecipientSync_moves sendUnknownFolders_moves

theorem processFolderRecipientSync_moves
    (hgrows : ∀ ctx ctx', reach ctx ctx' → Grows ctx ctx')
    (payload : List FolderRecipientUpdate)
    (hshare : ∀ recipientUserId resourceId currentUser record ctx,
      MadeByDelegation env.toServiceEnv recipientUserId resourceId
        (autoSharePermissions env.toServiceEnv resourceId) currentUser record ctx →
          share ctx record) :
    Program.Respects (MovesStore reach) (fun _ _ => True) since
      (processFolderRecipientSync env payload) := by
  refine .bind (MovesStore.read _) fun manifest _ _ _ => ?_
  refine .bind (MovesStore.getLocalUser env) fun currentUser _ _ _ => ?_
  refine .bind (MovesStore.read _) fun peerUser _ _ _ => ?_
  refine .bind (MovesStore.callService fun _ => addMissingRecipients_respects _
    hreach hgrows _ _ _ _ fun _ _ _ => hshare _ _ _ _ _) fun _ _ _ _ => ?_
  refine .bind (MovesStore.read _) fun isInitiator _ _ _ => .ite ?_ ?_
  · exact .bind sendFolderRecipientSync_moves fun _ _ _ _ =>
      sendResources_moves env hreach
  · exact sendResources_moves env hreach

end Writers

/-- There is room for what the message may add: the share records it carries,
and those made for the peer in answer to the recipients of folders. -/
structure RoomFor (share : RepositoryContext → ShareRecord → Prop)
    (reach : RepositoryContext → RepositoryContext → Prop) (env : NetworkEnv)
    (message : Message) : Prop where
  admits : Admits share reach
  grows : ∀ ctx ctx', reach ctx ctx' → Grows ctx ctx'
  carried : ∀ ctx, ∀ record ∈ carriedShareRecords message, share ctx record
  delegated : ∀ payload, message = .folderSync (.folderRecipientSyncPayload payload) →
    ∀ recipientUserId resourceId currentUser record ctx,
      MadeByDelegation env.toServiceEnv recipientUserId resourceId
        (autoSharePermissions env.toServiceEnv resourceId) currentUser record ctx →
          share ctx record

structure Accommodates (share : RepositoryContext → ShareRecord → Prop)
    (reach : RepositoryContext → RepositoryContext → Prop) (env : NetworkEnv)
    (message : Message) : Prop where
  supplements : AdmitsSupplements share reach
  users : MovesWithUsers reach env message
  grows : ∀ ctx ctx', reach ctx ctx' → Grows ctx ctx'
  carried : ∀ ctx, ∀ record ∈ carriedShareRecords message, share ctx record
  delegated : ∀ payload, message = .folderSync (.folderRecipientSyncPayload payload) →
    ∀ recipientUserId resourceId currentUser record ctx,
      MadeByDelegation env.toServiceEnv recipientUserId resourceId
        (autoSharePermissions env.toServiceEnv resourceId) currentUser record ctx →
          share ctx record

omit [IsPreorder RepositoryContext reach] in
theorem RoomFor.accommodates {env : NetworkEnv} {message : Message}
    (hroom : RoomFor share reach env message) :
    Accommodates share reach env message :=
  { supplements := hroom.admits.supplements
    users := movesWithUsers_of_admits env hroom.admits message
    grows := hroom.grows
    carried := hroom.carried
    delegated := hroom.delegated }

section Dispatcher

variable {env : NetworkEnv} {message : Message}
variable (hroom : Accommodates share reach env message)

include hroom

theorem processMessage_moves :
    Program.Respects (MovesStore reach) (fun _ _ => True) since
      (processMessage env message) := by
  have hreach := hroom.supplements
  cases message with
  | ping => exact .pure trivial
  | pong => exact .pure trivial
  | error => exact MovesStore.emit _
  | mergeUpdate payload =>
      exact processResourceUpdateMessage_moves env hreach hroom.carried
  | liveEdit message => exact handleLiveEditFlow_moves env message
  | deviceManifestRequest payload => exact handleManifestRequest_moves payload
  | deviceManifestResponse payload => exact handleManifestResponse_moves payload
  | deviceNetworkSync payload =>
      exact handleDeviceNetworkSync_moves env hroom.users
        (fun _ _ _ hadd => hreach _ _ (Supplements.addFoldersBulk hadd))
        fun _ _ _ hsave => hreach _ _ (Supplements.saveDevices hsave)
  | deviceManifestAck => exact sendDeviceNetworkSync_moves
  | deviceNetworkSyncAck => exact sendResources_moves env hreach
  | resourceAdditionRequest payload =>
      exact processResourceAdditionRequest_moves hreach hroom.carried
  | resourceAdditionComplete => exact processResourceAdditionComplete_moves env
  | userManifestPayload payload =>
      exact processUserManifestPayload_moves env payload
  | userNetworkSync payload =>
      exact processUserNetworkSync_moves env hroom.users
        fun _ _ _ hsave => hreach _ _ (Supplements.saveDevices hsave)
  | userNetworkSyncAck => exact startFolderSync_moves
  | folderSync message =>
      cases message with
      | unknownFoldersPayload payload =>
          exact receiveUnknownFolders_moves hreach payload
      | folderRecipientSyncPayload payload =>
          exact processFolderRecipientSync_moves env hreach hroom.grows payload
            (hroom.delegated payload rfl)
  | retryRequest => exact startUserNetworkSync_moves env
  | handshake payload =>
      exact handleHandshakeMessage_moves env hroom.users

theorem handleMessage_moves :
    Program.Respects (MovesStore reach) (fun _ _ => True) since
      (handleMessage env message) := by
  refine .bind (Program.Follows.attempt
    (processMessage_moves hroom)) fun result _ _ _ => ?_
  cases result with
  | ok value => exact .pure trivial
  | error error => exact MovesStore.emit _

end Dispatcher

end MovesStore

end Osvauld.Network
