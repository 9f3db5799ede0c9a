import Osvauld.Network.P2P.ProcessMessage
import Osvauld.Services.Entitlement
import Osvauld.Services.Provenance

namespace Osvauld.Network

open Osvauld.Core Data Persistance Services

/-! What a peer is shown, whatever it sends. -/

def ConcernsShared (ctx : RepositoryContext) (userId : String) : Message → Prop
  | .resourceAdditionRequest data =>
      SharedResource ctx userId data.resource.id ∧
        AboutResource data.resource.id data
  | .folderSync (.unknownFoldersPayload payload) =>
      ∀ pair ∈ payload.folderData, SharedFolder ctx userId pair.folder.id ∧
        ∀ record ∈ pair.shareRecords, record.folderId = pair.folder.id
  | .folderSync (.folderRecipientSyncPayload updates) =>
      ∀ told ∈ updates, ∀ record ∈ told.newShareRecords,
        SharedFolder ctx userId record.folderId
  | .userNetworkSync payload =>
      (∀ user ∈ payload.users, Acquainted ctx userId user.user.id ∧
        ∀ device ∈ user.devices, device.userId = user.user.id) ∧
          ∀ device ∈ payload.devices, Acquainted ctx userId device.userId
  | .deviceNetworkSync payload =>
      (∀ user ∈ payload.unknownUsersWithDevices,
        Acquainted ctx userId user.user.id ∧
          ∀ device ∈ user.devices, device.userId = user.user.id) ∧
        (∀ device ∈ payload.unknownDevicesFromCommonUsers ++
            payload.unknownDevicesFromCurrentUser,
          Acquainted ctx userId device.userId) ∧
        ∀ folder ∈ payload.unknownFolders, SharedFolder ctx userId folder.id
  | .mergeUpdate (.stateVectorRequest resourceId _ _)
  | .mergeUpdate (.updatesResponse resourceId _ _) =>
      SharedResource ctx userId resourceId
  | .mergeUpdate (.finalUpdateMerge resourceId _ _ records keys)
  | .mergeUpdate (.vectorClockResponse resourceId _ _ records keys) =>
      SharedResource ctx userId resourceId ∧
        (∀ record ∈ records, record.resourceId = resourceId) ∧
          ∀ key ∈ keys, key.resourceId = resourceId
  | _ => True

/-- What holds of the session at every step while a message is dealt with. `ctx`
is the store the message found, `reach` how the store may move from there. -/
structure Confined (base : List Message) (ctx : RepositoryContext)
    (reach : RepositoryContext → RepositoryContext → Prop) (userId : String)
    (session : Session) : Prop where
  reached : reach ctx session.repo
  user_eq : session.connection.user.id = userId
  noDeviceManifest : session.connection.deviceManifestResult = none
  manifest : ∀ manifest, session.connection.userManifestResult = some manifest →
    EntitledManifest ctx userId manifest
  sent : ∃ new, session.connection.sent = base ++ new ∧
    ∀ message ∈ new, ConcernsShared ctx userId message

section Confined

variable {base : List Message} {ctx : RepositoryContext} {userId : String}
variable {reach : RepositoryContext → RepositoryContext → Prop}

namespace Confined

theorem read {α : Type} (query : Session → Except P2PError α) :
    Program.Keeps (Confined base ctx reach userId) (fun _ => True)
      (Program.read query) :=
  .read fun _ _ _ _ => trivial

theorem getPeerUser :
    Program.Keeps (Confined base ctx reach userId) (fun user => user.id = userId)
      getPeerUser := by
  refine .read fun session user hsession hread => ?_
  cases hread
  exact hsession.user_eq

theorem getLocalUser (env : NetworkEnv) :
    Program.Keeps (Confined base ctx reach userId)
      (fun user => env.currentUser = some user) (getLocalUser env) := by
  unfold Network.getLocalUser
  cases huser : env.currentUser with
  | none => exact .fail _
  | some user => exact .pure rfl

theorem getLocalDevice (env : NetworkEnv) :
    Program.Keeps (Confined base ctx reach userId) (fun _ => True)
      (getLocalDevice env) := by
  unfold Network.getLocalDevice
  cases env.currentDevice with
  | none => exact .fail _
  | some device => exact .pure trivial

theorem getClientId (env : NetworkEnv) (device : Device) :
    Program.Keeps (Confined base ctx reach userId) (fun _ => True)
      (getClientId env device) := by
  unfold Network.getClientId
  split
  · exact .fail _
  · exact .pure trivial
  · exact .fail _

theorem getDeviceManifestResult :
    Program.Keeps (Confined base ctx reach userId) (fun _ => False)
      getDeviceManifestResult := by
  refine .read fun session manifest hsession hread => ?_
  simp [hsession.noDeviceManifest] at hread

theorem getUserManifestResult :
    Program.Keeps (Confined base ctx reach userId) (EntitledManifest ctx userId)
      getUserManifestResult := by
  refine .read fun session manifest hsession hread => ?_
  split at hread
  · next result hresult =>
      cases hread
      exact hsession.manifest _ hresult
  · cases hread

theorem change {change : PeerConnection → PeerConnection}
    (hchange : ∀ session, Confined base ctx reach userId session →
      Confined base ctx reach userId
        { session with connection := change session.connection }) :
    Program.Keeps (Confined base ctx reach userId) (fun _ => True)
      (changeConnection change) := by
  refine .write fun session session' hsession hupdate => ?_
  cases hupdate
  exact hchange session hsession

theorem sendMessage {message : Message}
    (hmessage : ConcernsShared ctx userId message) :
    Program.Keeps (Confined base ctx reach userId) (fun _ => True)
      (sendMessage message) := by
  refine change fun session hsession => ?_
  obtain ⟨new, hnew, hall⟩ := hsession.sent
  exact { hsession with
    sent := ⟨new ++ [message], by simp [hnew],
      List.forall_mem_append.mpr ⟨hall, by simpa using hmessage⟩⟩ }

theorem emit (event : P2PEvent) :
    Program.Keeps (Confined base ctx reach userId) (fun _ => True) (emit event) :=
  change fun _ hsession => { hsession with }

theorem setConnectionType (connectionType : ConnectionType) :
    Program.Keeps (Confined base ctx reach userId) (fun _ => True)
      (setConnectionType connectionType) :=
  change fun _ hsession => { hsession with }

theorem setHandshakeComplete :
    Program.Keeps (Confined base ctx reach userId) (fun _ => True)
      setHandshakeComplete :=
  change fun _ hsession => { hsession with }

theorem setPeerUserAndDevice {user : User} (huser : user.id = userId)
    (device : Device) :
    Program.Keeps (Confined base ctx reach userId) (fun _ => True)
      (setPeerUserAndDevice user device) :=
  change fun _ hsession => { hsession with user_eq := huser }

theorem setUserManifestComparisonResult {manifest : UserManifestComparisonResult}
    (hmanifest : EntitledManifest ctx userId manifest) :
    Program.Keeps (Confined base ctx reach userId) (fun _ => True)
      (setUserManifestComparisonResult manifest) := by
  refine change fun _ hsession => { hsession with manifest := ?_ }
  intro result hresult
  cases hresult
  exact hmanifest

theorem removeLocalMissingResource (kind : ConnectionType)
    (resourceId : String) :
    Program.Keeps (Confined base ctx reach userId) (fun _ => True)
      (removeLocalMissingResource kind resourceId) := by
  cases kind with
  | device =>
      refine .bind (change fun session hsession => { hsession with
        noDeviceManifest := ?_ }) fun _ _ => read _
      simp [hsession.noDeviceManifest]
  | user =>
      refine .bind (change fun session hsession => { hsession with
        manifest := ?_ }) fun _ _ => read _
      intro result hresult
      obtain ⟨manifest, hmanifest, rfl⟩ := Option.map_eq_some_iff.mp hresult
      have hentitled := hsession.manifest manifest hmanifest
      exact ⟨hentitled.users, hentitled.devices, hentitled.resources,
        hentitled.folders, hentitled.syncs, hentitled.recipients⟩

variable [IsPreorder RepositoryContext reach]

theorem onRepo {α : Type} {good : α → RepositoryContext → Prop}
    {service : Service α}
    (hservice : ∀ since, Program.Respects reach good since service) :
    Program.Keeps (Confined base ctx reach userId)
      (fun value => ∃ repo, reach ctx repo ∧ good value repo) (onRepo service) := by
  unfold Network.onRepo
  refine Program.Keeps.zoom ?_ ?_ ?_ (Program.Follows.keeps hservice
    fun _ _ => trans_of reach) ?_ ?_
  · exact fun _ _ => rfl
  · exact fun _ _ _ => rfl
  · exact fun _ => rfl
  · exact fun _ hsession => hsession.reached
  · exact fun _ _ hsession hrepo => { hsession with reached := hrepo }

theorem callService {α : Type} {good : α → Prop} {service : Service α}
    (hservice : ∀ since, Program.Respects reach (fun value _ => good value) since
      service) :
    Program.Keeps (Confined base ctx reach userId) good (callService service) :=
  .mapError _ ((onRepo hservice).mono fun _ ⟨_, _, hvalue⟩ => hvalue)

theorem callServiceAs {α : Type} {good : α → RepositoryContext → Prop}
    {service : Service α} (report : ServiceError → SyncError)
    (hservice : ∀ since, Program.Respects reach good since service) :
    Program.Keeps (Confined base ctx reach userId)
      (fun value => ∃ repo, reach ctx repo ∧ good value repo)
      (callServiceAs report service) :=
  .mapError _ (onRepo hservice)

theorem updateRepo
    {write : RepositoryContext → Except RepositoryError RepositoryContext}
    (hwrite : ∀ ctx ctx', write ctx = .ok ctx' → Grows ctx ctx') :
    Program.Keeps (Confined base ctx Grows userId) (fun _ => True)
      (updateRepo write) := by
  refine .write fun session session' hsession hupdate => ?_
  split at hupdate
  · next repo hrepo =>
      cases hupdate
      exact { hsession with reached := hsession.reached.trans (hwrite _ _ hrepo) }
  · cases hupdate

end Confined

section Handlers

variable (env : NetworkEnv)

theorem remoteMissingResources_confined :
    Program.Keeps (Confined base ctx reach userId)
      (fun resourceIds => ∀ resourceId ∈ resourceIds,
        SharedResource ctx userId resourceId) remoteMissingResources := by
  refine .bind (Confined.read _) fun kind _ => ?_
  cases kind with
  | device => exact .bind Confined.getDeviceManifestResult fun _ hnone => hnone.elim
  | user =>
      exact .bind Confined.getUserManifestResult fun manifest hmanifest =>
        .pure hmanifest.resources

theorem resourcesRequiringSync_confined :
    Program.Keeps (Confined base ctx reach userId)
      (fun resourceIds => ∀ resourceId ∈ resourceIds,
        SharedResource ctx userId resourceId) resourcesRequiringSync := by
  refine .bind (Confined.read _) fun kind _ => ?_
  cases kind with
  | device => exact .bind Confined.getDeviceManifestResult fun _ hnone => hnone.elim
  | user =>
      exact .bind Confined.getUserManifestResult fun manifest hmanifest =>
        .pure hmanifest.syncs

theorem handleLiveEditFlow_confined (message : LiveEditMessage) :
    Program.Keeps (Confined base ctx reach userId) (fun _ => True)
      (handleLiveEditFlow env message) := by
  refine .bind (Confined.getLocalUser env) fun user _ => ?_
  refine .bind (Confined.read _) fun connectionId _ => ?_
  cases message with
  | updateExchange | updateExchangeResponse =>
      refine .bind (Confined.read _) fun peerDevice _ => ?_
      exact .bind (Confined.getClientId _ _) fun clientId _ => Confined.emit _
  | documentCheck | notSameDocument | stateVectorExchange | documentChange
  | documentUpdate | awarenessUpdate => exact Confined.emit _

theorem userOfRemoteDevice_confined :
    Program.Keeps (Confined base ctx reach userId) (fun _ => True)
      userOfRemoteDevice :=
  .bind (Confined.read _) fun _ _ => Confined.read _

theorem requireConnectToken_confined (currentUser peerUser : User)
    (token peerUcanPub : String) :
    Program.Keeps (Confined base ctx reach userId) (fun _ => True)
      (requireConnectToken env currentUser peerUser token peerUcanPub) :=
  .bind (.ofExcept fun _ _ => trivial) fun _ _ => .ite (.fail _) (.pure trivial)

theorem callCrypto_confined {α : Type} (result : CryptoUtils.CryptoResult α) :
    Program.Keeps (Confined base ctx reach userId) (fun _ => True)
      (callCrypto result) :=
  .ofExcept fun _ _ => trivial

variable [IsPreorder RepositoryContext reach]

theorem startUserNetworkSync_confined :
    Program.Keeps (Confined base ctx reach userId) (fun _ => True)
      (startUserNetworkSync env) := by
  refine .bind (Confined.read _) fun isInitiator _ => .ite ?_ (.pure trivial)
  refine .bind Confined.getPeerUser fun peerUser _ => ?_
  refine .bind (Confined.getLocalUser env) fun currentUser _ => ?_
  refine .bind (Confined.callServiceAs _ fun _ => (getUserManifest_any _ _)) fun _ _ => ?_
  exact Confined.sendMessage trivial

theorem processManifestRequest_confined {request : UserManifestRequestPayload}
    (hlists : ∀ user, env.currentUser = some user →
      ListsEnds ctx userId user.id request) :
    Program.Keeps (Confined base ctx Eq userId)
      (fun _ => True) (processManifestRequest env request) := by
  refine .bind Confined.getPeerUser fun peerUser hpeer => ?_
  refine .bind (Confined.getLocalUser env) fun currentUser huser => ?_
  refine .bind (Confined.callServiceAs _ fun _ => (processUserManifestRequest_eq request peerUser.id currentUser.id))
    fun result ⟨_, hsame, hresult⟩ => ?_
  have hentitled : EntitledManifest ctx userId result := by
    rw [hresult, ← hsame, hpeer]
    exact compareUserManifests_entitled (hlists currentUser huser)
  refine .bind (Confined.setUserManifestComparisonResult hentitled) fun _ _ => ?_
  exact Confined.sendMessage trivial

theorem acquainted_of_told {manifest : UserManifestComparisonResult}
    (hnodup : (ctx.devices.map fun device => device.id).Nodup)
    (hmanifest : EntitledManifest ctx userId manifest) {ctx' : RepositoryContext}
    (hgrows : Grows ctx ctx') {device : Device} (hdevice : device ∈ ctx'.devices)
    (hid : device.id ∈
      deviceIdsOf manifest.remoteMissing.unknownDevicesFromCommonUsers) :
    Acquainted ctx userId device.userId := by
  obtain ⟨known, hknown, hsame, hacquainted⟩ := hmanifest.devices device.id hid
  have heq : known = device := List.inj_on_of_nodup_map (hgrows.deviceIds hnodup)
    (hgrows.devices_subset hknown) hdevice hsame
  exact heq ▸ hacquainted

theorem sendUserNetworkSync_confined
    (hnodup : (ctx.devices.map fun device => device.id).Nodup) :
    Program.Keeps (Confined base ctx Grows userId) (fun _ => True)
      (sendUserNetworkSync env) := by
  refine .bind Confined.getUserManifestResult fun manifest hmanifest => ?_
  refine .bind Confined.getPeerUser fun peerUser _ => ?_
  refine .bind (Confined.callServiceAs _ fun _ => (createUserNetworkSyncPayload_respects _ _ _))
    fun payload ⟨repo, hgrows, hpayload⟩ => Confined.sendMessage ⟨?_, ?_⟩
  · intro user huser
    obtain ⟨hunknown, hdevices⟩ := hpayload.users user huser
    exact ⟨hmanifest.users _ hunknown, hdevices⟩
  · intro device hdevice
    obtain ⟨hmem, hid⟩ := hpayload.devices device hdevice
    exact acquainted_of_told hnodup hmanifest hgrows hmem hid

theorem processUserNetworkSync_confined
    (hnodup : (ctx.devices.map fun device => device.id).Nodup)
    (payload : UserNetworkSyncPayload) :
    Program.Keeps (Confined base ctx Grows userId) (fun _ => True)
      (processUserNetworkSync env payload) := by
  have hrest : Program.Keeps (Confined base ctx Grows userId)
      (fun _ => True) (do
        Network.callServiceAs .userSyncFailed (processUserNetworkSyncPayload payload)
        Network.sendMessage .userNetworkSyncAck) :=
    .bind (Confined.callServiceAs _ fun _ => (processUserNetworkSyncPayload_respects
      Grows.admits _))
      fun _ _ => Confined.sendMessage trivial
  refine .bind (Confined.read _) fun isInitiator _ => .ite ?_ hrest
  exact .bind (sendUserNetworkSync_confined env hnodup) fun _ _ => hrest

theorem sendResources_confined :
    Program.Keeps (Confined base ctx Grows userId) (fun _ => True)
      (sendResources env) := by
  refine .bind remoteMissingResources_confined fun resourceIds hshared => ?_
  have hsend : Program.Keeps (Confined base ctx Grows userId)
      (fun _ => True) (Program.forEach resourceIds (sendResource env)) := by
    refine .forEach fun resourceId hresource => ?_
    refine .bind (Confined.read _) fun peerDevice _ => ?_
    refine .bind (Confined.callService fun _ =>
      (getResourceForRemoteAddition_respects _ Grows.admits.supplements resourceId peerDevice))
      fun data hdata => Confined.sendMessage ?_
    have hid := hdata.resource_eq
    exact ⟨hid ▸ hshared resourceId hresource, hid ▸ hdata⟩
  exact .ite (.bind (Confined.sendMessage trivial) fun _ _ => hsend) hsend

theorem processResourceAdditionRequest_confined (payload : ResourceSyncData) :
    Program.Keeps (Confined base ctx Grows userId) (fun _ => True)
      (processResourceAdditionRequest payload) := by
  refine .bind (Confined.read _) fun kind _ => ?_
  refine .bind (Confined.callService fun _ =>
      (addResourceSync_respects Grows.admits.supplements kind
    fun _ _ _ => trivial)) fun _ _ => ?_
  refine .bind Confined.getPeerUser fun peerUser _ => ?_
  refine .bind (Confined.emit _) fun _ _ => ?_
  refine .bind (Confined.removeLocalMissingResource _ _) fun isEmpty _ => ?_
  exact .ite (Confined.sendMessage trivial) (.pure trivial)

theorem processResourceAdditionComplete_confined :
    Program.Keeps (Confined base ctx reach userId) (fun _ => True)
      (processResourceAdditionComplete env) := by
  refine .bind (Confined.read _) fun isInitiator _ => .ite ?_ (.pure trivial)
  refine .bind resourcesRequiringSync_confined fun resourceIds hshared => ?_
  refine .forEach fun resourceId hresource => ?_
  refine .bind (Confined.getLocalUser env) fun user _ => ?_
  refine .bind (Confined.callService fun _ => (getResourceStateVector_any _ _ _))
    fun stateVectors _ => ?_
  refine .bind (Confined.callService fun _ => (getResourceUcanKey_any _ _)) fun token _ => ?_
  exact Confined.sendMessage (hshared resourceId hresource)

theorem requireUpdateAuthority_confined (resourceId token : String) :
    Program.Keeps (Confined base ctx reach userId) (fun _ => True)
      (requireUpdateAuthority env resourceId token) := by
  refine .bind Confined.getPeerUser fun peerUser _ => ?_
  refine .bind (Confined.callService fun _ => (validateAuthorityForUpdate_any _ _ _ _))
    fun valid _ => ?_
  exact .ite (.fail _) (.pure trivial)

theorem processResourceUpdateMessage_confined {payload : ResourceUpdateMsg}
    (hshared : match payload with
      | .vectorClockResponse .. => True
      | _ => SharedResource ctx userId payload.resourceId) :
    Program.Keeps (Confined base ctx Grows userId) (fun _ => True)
      (processResourceUpdateMessage env payload) := by
  refine .bind (Confined.getLocalUser env) fun user _ => ?_
  cases payload with
  | stateVectorRequest resourceId stateVectors token =>
      refine .bind (requireUpdateAuthority_confined env _ _) fun _ _ => ?_
      refine .bind (Confined.callService fun _ => (generateUpdatesForPeer_any _ _ _ _))
        fun updates _ => ?_
      refine .bind (Confined.callService fun _ => (getResourceUcanKey_any _ _))
        fun ucanToken _ => ?_
      exact Confined.sendMessage hshared
  | updatesResponse resourceId updates token =>
      refine .bind (requireUpdateAuthority_confined env _ _) fun _ _ => ?_
      refine .bind (Confined.callService fun _ =>
      (applyUpdatesAndGetPeerUpdates_respects _ Grows.admits.supplements _ _ _)) fun remoteUpdates _ => ?_
      refine .bind (Confined.callService fun _ =>
      (getShareRecordsForResource_respects _))
        fun records hrecords => ?_
      refine .bind (Confined.callService fun _ => (query_any _)) fun clocks _ => ?_
      refine .bind (Confined.callService fun _ =>
      (getResourceKeysForResource_respects _))
        fun keys hkeys => ?_
      refine .bind (Confined.sendMessage ⟨hshared, hrecords, hkeys⟩) fun _ _ => ?_
      refine .bind (Confined.read _) fun peerDevice _ => ?_
      refine .bind (Confined.getClientId _ _) fun clientId _ => ?_
      exact Confined.emit _
  | finalUpdateMerge resourceId updates clocks records keys =>
      refine .bind (Confined.callService fun _ =>
      (applyUpdates_respects _ Grows.admits.supplements _ _ _))
        fun _ _ => ?_
      refine .bind (Confined.read _) fun peerDevice _ => ?_
      refine .bind (Confined.getClientId _ _) fun clientId _ => ?_
      refine .bind (Confined.emit _) fun _ _ => ?_
      refine .bind (Confined.callService fun _ =>
      (getResourceKeysForResource_respects _))
        fun localKeys hkeys => ?_
      refine .bind (Confined.updateRepo fun _ _ hadd => (Supplements.addResourceKeys hadd).toExtends)
        fun _ _ => ?_
      refine .bind (Confined.callService fun _ =>
      (mergeVectorClocks_respects Grows.admits.supplements _ _))
        fun changes _ => ?_
      refine .bind (Confined.callService fun _ =>
      (mergeShareRecords_respects Grows.admits.supplements _
        fun _ _ _ => trivial)) fun ownRecords hrecords => ?_
      exact Confined.sendMessage ⟨hshared, hrecords,
        fun key hkey => hkeys key (mem_withoutId hkey)⟩
  | vectorClockResponse resourceId updateClock addClock records keys =>
      refine .bind (Confined.callService fun _ =>
      (updateVectorClocks_respects Grows.admits.supplements _ _))
        fun _ _ => ?_
      refine .bind (Confined.callService fun _ =>
      (addShareRecords_respects Grows.admits.supplements
        fun _ _ _ => trivial)) fun _ _ => ?_
      exact Confined.updateRepo fun _ _ hadd => (Supplements.addResourceKeys hadd).toExtends

theorem concernsShared_folders {manifest : UserManifestComparisonResult}
    (hmanifest : EntitledManifest ctx userId manifest)
    {payload : UnknownFoldersPayload}
    (hpayload : FoldersAmong manifest.remoteMissing.unknownFolders
      payload.folderData) :
    ConcernsShared ctx userId (.folderSync (.unknownFoldersPayload payload)) :=
  fun pair hpair => ⟨hmanifest.folders _ (hpayload pair hpair).1,
    (hpayload pair hpair).2⟩

theorem sendUnknownFolders_confined :
    Program.Keeps (Confined base ctx reach userId) (fun _ => True)
      sendUnknownFolders := by
  refine .bind Confined.getUserManifestResult fun manifest hmanifest => ?_
  refine .bind (Confined.callService fun _ =>
      (createUnknownFoldersPayload_respects _))
    fun payload hpayload => ?_
  exact Confined.sendMessage (concernsShared_folders hmanifest hpayload)

theorem startFolderSync_confined :
    Program.Keeps (Confined base ctx reach userId) (fun _ => True)
      startFolderSync := by
  refine .bind Confined.getUserManifestResult fun manifest hmanifest => .ite ?_ ?_
  · exact Confined.sendMessage fun pair hpair => by cases hpair
  · refine .bind (Confined.callService fun _ =>
      (createUnknownFoldersPayload_respects _))
      fun payload hpayload => ?_
    exact Confined.sendMessage (concernsShared_folders hmanifest hpayload)

theorem sendFolderRecipientSync_confined :
    Program.Keeps (Confined base ctx reach userId) (fun _ => True)
      sendFolderRecipientSync := by
  refine .bind Confined.getUserManifestResult fun manifest hmanifest => ?_
  refine .bind (Confined.callService
    fun _ => (@getMissingRemoteFolderShareRecords_respects _ _ _
      (manifest.foldersRequiringRecipientSync.map fun diff => diff.folderId) _
      fun diff hdiff => List.mem_map_of_mem hdiff)) fun updates hupdates => ?_
  refine Confined.sendMessage fun told htold record hrecord => ?_
  obtain ⟨diff, hdiff, hid⟩ := List.mem_map.mp (hupdates told htold record hrecord)
  exact hid ▸ hmanifest.recipients diff hdiff

theorem processFolderSyncMessage_confined (message : FolderSyncMessage) :
    Program.Keeps (Confined base ctx Grows userId) (fun _ => True)
      (processFolderSyncMessage env message) := by
  cases message with
  | unknownFoldersPayload payload =>
      refine .bind (Confined.callService fun _ =>
      (processUnknownFoldersPayload_respects Grows.admits.supplements _)) fun _ _ => ?_
      refine .bind (Confined.emit _) fun _ _ => ?_
      refine .bind (Confined.read _) fun isInitiator _ => ?_
      exact .ite sendFolderRecipientSync_confined sendUnknownFolders_confined
  | folderRecipientSyncPayload payload =>
      refine .bind Confined.getUserManifestResult fun manifest _ => ?_
      refine .bind (Confined.getLocalUser env) fun currentUser _ => ?_
      refine .bind Confined.getPeerUser fun peerUser _ => ?_
      refine .bind (Confined.callService fun _ =>
      (addMissingRecipients_respects _ Grows.admits.supplements
        (fun _ _ hgrows => hgrows) _ _ _ _ fun _ _ _ _ => trivial)) fun _ _ => ?_
      refine .bind (Confined.read _) fun isInitiator _ => .ite ?_ ?_
      · exact .bind sendFolderRecipientSync_confined fun _ _ =>
          sendResources_confined env
      · exact sendResources_confined env

/-- The user a handshake message names as the peer. -/
def namedPeer : HandshakeMessage → User
  | .handshakeFirstConnectRequest payload => payload.peerUser
  | .handshakeFirstConnectResponse payload => payload.peerUser
  | .handshakeExchange payload => payload.peerUser

theorem processExchangeMessage_confined {payload : UcanAndUserExchange}
    (hpeer : payload.peerUser.id = userId) :
    Program.Keeps (Confined base ctx reach userId) (fun _ => True)
      (processExchangeMessage env payload) := by
  refine .bind (callCrypto_confined _) fun peerUcanPub _ => ?_
  refine .bind (Confined.getLocalUser env) fun currentUser _ => ?_
  refine .bind (Confined.getLocalDevice env) fun currentDevice _ => ?_
  refine .bind (requireConnectToken_confined env _ _ _ _) fun _ _ => ?_
  refine .bind (Confined.setPeerUserAndDevice hpeer _) fun _ _ => ?_
  refine .bind (Confined.read _) fun isInitiator _ => .ite ?_ ?_
  · refine .bind Confined.setHandshakeComplete fun _ _ => ?_
    exact startUserNetworkSync_confined env
  · refine .bind (Confined.callService fun _ => (signUcanPubKey_any _)) fun signed _ => ?_
    refine .bind userOfRemoteDevice_confined fun peerUser _ => ?_
    refine .bind Confined.setHandshakeComplete fun _ _ => ?_
    refine .bind (Confined.sendMessage trivial) fun _ _ => ?_
    exact Confined.setConnectionType _

theorem handleHandshakeMessage_confined {payload : HandshakeMessage}
    (hpeer : (namedPeer payload).id = userId) :
    Program.Keeps (Confined base ctx Grows userId) (fun _ => True)
      (handleHandshakeMessage env payload) := by
  cases payload with
  | handshakeExchange payload => exact processExchangeMessage_confined env hpeer
  | handshakeFirstConnectRequest payload =>
      refine .bind (Confined.getLocalUser env) fun currentUser _ => ?_
      refine .bind (Confined.getLocalDevice env) fun currentDevice _ => ?_
      refine .bind (callCrypto_confined _) fun peerUcanPub _ => ?_
      refine .bind (requireConnectToken_confined env _ _ _ _) fun _ _ => ?_
      refine .bind (Confined.callService fun _ => (signUcanPubKey_any _)) fun signed _ => ?_
      refine .bind (Confined.callService fun _ => (issueConnectUcanToken_any _ _))
        fun issued _ => ?_
      refine .bind (Confined.setConnectionType _) fun _ _ => ?_
      refine .bind (Confined.setPeerUserAndDevice hpeer _) fun _ _ => ?_
      refine .bind (Confined.updateRepo fun _ _ =>
        Extends.addUsersWithDevicesBulk) fun _ _ => ?_
      refine .bind (Confined.callService fun _ => (query_any _)) fun myDevices _ => ?_
      refine .bind Confined.setHandshakeComplete fun _ _ => ?_
      exact Confined.sendMessage trivial
  | handshakeFirstConnectResponse payload =>
      refine .bind (callCrypto_confined _) fun peerUcanPub _ => ?_
      refine .bind (Confined.getLocalUser env) fun currentUser _ => ?_
      refine .bind (requireConnectToken_confined env _ _ _ _) fun _ _ => ?_
      refine .bind (Confined.setPeerUserAndDevice hpeer _) fun _ _ => ?_
      refine .bind Confined.setHandshakeComplete fun _ _ => ?_
      refine .bind (Confined.updateRepo fun _ _ =>
        Extends.addUsersWithDevicesBulk) fun _ _ => ?_
      exact startUserNetworkSync_confined env

theorem initiateHandshake_confined (connectionType : ConnectionType)
    (currentUser : User) (currentDevice : Device) :
    Program.Keeps (Confined base ctx reach userId) (fun _ => True)
      (initiateHandshake env connectionType currentUser currentDevice) := by
  refine .bind userOfRemoteDevice_confined fun peerUser _ => ?_
  refine .bind (Confined.callService fun _ => (signUcanPubKey_any _)) fun signed _ => ?_
  refine .ite ?_ ?_
  · refine .bind (Confined.callService fun _ => (query_any _)) fun userDevices _ => ?_
    refine .bind (Confined.callService fun _ => (issueConnectUcanToken_any _ _))
      fun issued _ => ?_
    exact Confined.sendMessage trivial
  · refine .bind (Confined.sendMessage trivial) fun _ _ => ?_
    exact Confined.setConnectionType _

/-- No comparison of the peer's own and none of the devices of one user; a
request lists both ends; a merge is about a shared resource; a handshake is by
the same user again. -/
def Confinable (ctx : RepositoryContext) (userId : String) : Message → Prop
  | .deviceManifestRequest _ | .deviceManifestResponse _ => False
  | .userManifestPayload (.response _) => False
  | .userManifestPayload (.request request) =>
      ∀ user, env.currentUser = some user → ListsEnds ctx userId user.id request
  | .mergeUpdate payload => match payload with
      | .vectorClockResponse .. => True
      | _ => SharedResource ctx userId payload.resourceId
  | .handshake payload => (namedPeer payload).id = userId
  | _ => True

theorem processMessage_confined {message : Message}
    (hnodup : (ctx.devices.map fun device => device.id).Nodup)
    (hrequest : ∀ request, message ≠ .userManifestPayload (.request request))
    (hmessage : Confinable env ctx userId message) :
    Program.Keeps (Confined base ctx Grows userId) (fun _ => True)
      (processMessage env message) := by
  cases message with
  | ping => exact .pure trivial
  | pong => exact .pure trivial
  | error => exact Confined.emit _
  | mergeUpdate payload =>
      exact processResourceUpdateMessage_confined env hmessage
  | liveEdit message => exact handleLiveEditFlow_confined env message
  | deviceManifestRequest => exact hmessage.elim
  | deviceManifestResponse => exact hmessage.elim
  | deviceNetworkSync payload =>
      exact .bind (Confined.callService fun _ =>
      (processDeviceNetworkSync_respects Grows.admits _))
        fun _ _ => Confined.sendMessage trivial
  | deviceManifestAck =>
      exact .bind Confined.getDeviceManifestResult fun _ hnone => hnone.elim
  | deviceNetworkSyncAck => exact sendResources_confined env
  | resourceAdditionRequest payload =>
      exact processResourceAdditionRequest_confined payload
  | resourceAdditionComplete => exact processResourceAdditionComplete_confined env
  | userManifestPayload payload =>
      cases payload with
      | request request => exact absurd rfl (hrequest request)
      | response => exact hmessage.elim
      | ack => exact sendUserNetworkSync_confined env hnodup
  | userNetworkSync payload =>
      exact processUserNetworkSync_confined env hnodup payload
  | userNetworkSyncAck => exact startFolderSync_confined
  | folderSync message => exact processFolderSyncMessage_confined env message
  | retryRequest => exact startUserNetworkSync_confined env
  | handshake payload => exact handleHandshakeMessage_confined env hmessage

end Handlers

theorem Confined.weaken {session : Session}
    (hsession : Confined base ctx Eq userId session) :
    Confined base ctx Grows userId session :=
  { hsession with reached := hsession.reached ▸ .refl ctx }

theorem receive_confined {env : NetworkEnv} {message : Message}
    {session : Session}
    (hnodup : (session.repo.devices.map fun device => device.id).Nodup)
    (hmessage : Confinable env session.repo userId message)
    (hsession : Confined base session.repo Eq userId session) :
    Confined base session.repo Grows userId (receive env message session) := by
  have hrun : Confined base session.repo Grows userId
      ((processMessage env message).run session).2 := by
    by_cases hrequest : ∃ request, message = .userManifestPayload (.request request)
    · obtain ⟨request, rfl⟩ := hrequest
      exact ((processManifestRequest_confined env hmessage).run hsession).1.weaken
    · exact ((processMessage_confined env hnodup
        (fun request heq => hrequest ⟨request, heq⟩) hmessage).run hsession.weaken).1
  obtain ⟨events, heq⟩ := receive_eq env message session
  rw [heq]
  exact { hrun with }

end Confined

/-- Between messages: whom the connection is with, and that its comparison names
only what the peer is told of anyway. -/
structure Entitled (userId : String) (session : Session) : Prop where
  user_eq : session.connection.user.id = userId
  deviceIds : (session.repo.devices.map fun device => device.id).Nodup
  noDeviceManifest : session.connection.deviceManifestResult = none
  manifest : ∀ manifest, session.connection.userManifestResult = some manifest →
    EntitledManifest session.repo userId manifest

variable {userId : String} {session : Session}

theorem Entitled.confined (hentitled : Entitled userId session) :
    Confined session.connection.sent session.repo Eq userId session :=
  { reached := rfl
    user_eq := hentitled.user_eq
    noDeviceManifest := hentitled.noDeviceManifest
    manifest := hentitled.manifest
    sent := ⟨[], by simp⟩ }

theorem Confined.entitled {base : List Message} {ctx : RepositoryContext}
    (hconfined : Confined base ctx Grows userId session)
    (hnodup : (ctx.devices.map fun device => device.id).Nodup) : Entitled userId session :=
  { user_eq := hconfined.user_eq
    deviceIds := hconfined.reached.deviceIds hnodup
    noDeviceManifest := hconfined.noDeviceManifest
    manifest := fun manifest hmanifest =>
      (hconfined.manifest manifest hmanifest).mono hconfined.reached }

def Tame (userId : String) (session : Session) : ConnectionEvent → Prop
  | .deliver env message => Confinable env session.repo userId message
  | .elsewhere repo => Grows session.repo repo
  | _ => True

theorem step_entitled {event : ConnectionEvent} (hentitled : Entitled userId session)
    (htame : Tame userId session event) : Entitled userId (event.step session) := by
  have hconfined := hentitled.confined
  cases event with
  | deliver env message =>
      exact (receive_confined hentitled.deviceIds htame hconfined).entitled
        hentitled.deviceIds
  | initiate env connectionType currentUser currentDevice =>
      exact ((initiateHandshake_confined env connectionType currentUser
        currentDevice).run hconfined).1.weaken.entitled hentitled.deviceIds
  | resync env =>
      exact ((startUserNetworkSync_confined env).run hconfined).1.weaken.entitled
        hentitled.deviceIds
  | elsewhere repo =>
      exact { user_eq := hentitled.user_eq
              deviceIds := htame.deviceIds hentitled.deviceIds
              noDeviceManifest := hentitled.noDeviceManifest
              manifest := fun manifest hmanifest =>
                (hentitled.manifest manifest hmanifest).mono htame }

def requestOfP : Message :=
  .userManifestPayload (.request
    { users := [{ userId := "R", deviceIds := ["dev-R"] },
        { userId := "P", deviceIds := ["dev-P"] }]
      resources := [], folders := [] })

theorem requestOfP_lists :
    Confinable ownerEnv ownerSession.repo "P" requestOfP := by
  intro user huser userId hend
  cases huser
  refine .inr fun device hdevice howner => ?_
  simp only [List.mem_cons, List.not_mem_nil, or_false] at hend
  simp only [ownerSession, ownerStore, List.mem_cons, List.not_mem_nil, or_false]
    at hdevice
  rcases hend with rfl | rfl <;> rcases hdevice with rfl | rfl
  · exact ⟨_, rfl, List.mem_singleton_self _⟩
  · exact absurd howner (by decide)
  · exact absurd howner (by decide)
  · exact ⟨_, rfl, List.mem_singleton_self _⟩

/-- A comparison in which `P` says that it lacks the note. -/
def responseOfP : Message :=
  .userManifestPayload (.response
    { localMissing :=
        { unknownUsers := [], unknownDevicesFromCommonUsers := []
          unknownResources := ["a"], unknownFolders := [] }
      remoteMissing :=
        { unknownUsers := [], unknownDevicesFromCommonUsers := []
          unknownResources := [], unknownFolders := [] }
      resourcesRequiringSync := [], foldersRequiringRecipientSync := [] })

end Osvauld.Network
