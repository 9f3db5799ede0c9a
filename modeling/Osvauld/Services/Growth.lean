import Osvauld.Persistance.Extends
import Osvauld.Services.FolderService
import Osvauld.Services.SyncService
import Osvauld.Services.UserService

namespace Osvauld.Services

open Osvauld.Core CryptoUtils Data Persistance

/-! What the services add to the share records, and what their results are
about, whatever the others do to the store in between. -/

variable {share : RepositoryContext → ShareRecord → Prop}
variable {reach : RepositoryContext → RepositoryContext → Prop}
variable [IsPreorder RepositoryContext reach] {since : RepositoryContext}

section Steps

variable {α : Type} {good : α → RepositoryContext → Prop}

theorem query_respects
    {read : RepositoryContext → Except RepositoryError α}
    (hread : ∀ ctx value, read ctx = .ok value → good value ctx) :
    Program.Respects reach good since (query read) :=
  .read fun ctx value _ hvalue => hread ctx value (mapError_eq_ok.mp hvalue)

theorem query_any (read : RepositoryContext → Except RepositoryError α) :
    Program.Respects reach (fun _ _ => True) since (query read) :=
  query_respects fun _ _ _ => trivial

omit [IsPreorder RepositoryContext reach] in
theorem liftCrypto_any (result : CryptoResult α) :
    Program.Respects reach (fun _ _ => True) since (liftCrypto result) :=
  .ofExcept fun _ _ => trivial

omit [IsPreorder RepositoryContext reach] in
theorem liftParse_any (result : Except String α) :
    Program.Respects reach (fun _ _ => True) since (liftParse result) :=
  .ofExcept fun _ _ => trivial

theorem update_moves
    {write : RepositoryContext → Except RepositoryError RepositoryContext}
    (hwrite : ∀ ctx ctx', reach since ctx → write ctx = .ok ctx' →
      reach ctx ctx') :
    Program.Respects reach (fun _ _ => True) since (update write) :=
  .write fun ctx ctx' hctx hupdate =>
    hwrite ctx ctx' hctx (mapError_eq_ok.mp hupdate)

theorem update_respects (hreach : AdmitsSupplements share reach)
    {write : RepositoryContext → Except RepositoryError RepositoryContext}
    (hwrite : ∀ ctx ctx', reach since ctx → write ctx = .ok ctx' →
      Supplements (share ctx) ctx ctx') :
    Program.Respects reach (fun _ _ => True) since (update write) :=
  update_moves fun ctx ctx' hctx hupdate =>
    hreach ctx ctx' (hwrite ctx ctx' hctx hupdate)

omit [IsPreorder RepositoryContext reach] in
theorem drawIds_respects (hreach : AdmitsSupplements share reach) (env : ServiceEnv)
    (count : Nat) :
    Program.Respects reach (fun _ _ => True) since (drawIds env count) :=
  .atomically (fun _ _ => hreach _ _ (.of_eq rfl rfl rfl rfl)) fun _ _ _ _ => trivial

theorem drawId_respects (hreach : AdmitsSupplements share reach) (env : ServiceEnv) :
    Program.Respects reach (fun _ _ => True) since (drawId env) :=
  .bind (drawIds_respects hreach env 1) fun _ _ _ _ => .pure trivial

end Steps

section Resources

variable (env : ServiceEnv)

section

variable (resourceId userId : String)

theorem getResource_any :
    Program.Respects reach (fun _ _ => True) since
      (getResource env resourceId userId) := by
  refine .bind (query_any _) fun resourceWithKey _ _ _ => ?_
  exact .bind (liftCrypto_any _) fun decrypted _ _ _ => .pure trivial

theorem getResourceByIdDirect_any :
    Program.Respects reach (fun _ _ => True) since
      (getResourceByIdDirect env resourceId userId) :=
  .bind (query_any _) fun _ _ _ _ => liftCrypto_any _

theorem getResourceStateVector_any :
    Program.Respects reach (fun _ _ => True) since
      (getResourceStateVector env resourceId userId) :=
  .bind (getResource_any env resourceId userId) fun _ _ _ _ => liftParse_any _

theorem generateUpdatesForPeer_any (peerStateVectors : JsonText) :
    Program.Respects reach (fun _ _ => True) since
      (generateUpdatesForPeer env resourceId userId peerStateVectors) := by
  refine .bind (getResource_any env resourceId userId) fun _ _ _ _ => ?_
  exact .bind (liftParse_any _) fun _ _ _ _ => .pure trivial

end

section

variable (hreach : AdmitsSupplements share reach) (resourceId : String)

include hreach

theorem applyUpdatesAndGetPeerUpdates_respects (userId : String) (updates : JsonText) :
    Program.Respects reach (fun _ _ => True) since
      (applyUpdatesAndGetPeerUpdates env resourceId userId updates) := by
  refine .bind (getResource_any env resourceId userId) fun _ _ _ _ => ?_
  refine .bind (liftParse_any _) fun _ _ _ _ => ?_
  refine .bind (liftCrypto_any _) fun _ _ _ _ => ?_
  refine .bind (update_respects hreach fun _ _ _ => Supplements.updateResource)
    fun _ _ _ _ => ?_
  exact .pure trivial

theorem applyUpdates_respects (updates : JsonText) (userId : String) :
    Program.Respects reach (fun _ _ => True) since
      (applyUpdates env resourceId updates userId) :=
  .bind (applyUpdatesAndGetPeerUpdates_respects env hreach resourceId userId updates)
    fun _ _ _ _ => .pure trivial

theorem updateResource_respects (data : JsonText) (userId currentDeviceId : String) :
    Program.Respects reach (fun _ _ => True) since
      (updateResource env resourceId data userId currentDeviceId) := by
  refine .bind (query_any _) fun oldResource _ _ _ => ?_
  refine .bind (liftCrypto_any _) fun encryptedData _ _ _ => ?_
  refine .bind (update_respects hreach fun _ _ _ => Supplements.updateResource)
    fun _ _ _ _ => ?_
  refine .bind (drawId_respects hreach env) fun clockId _ _ _ => ?_
  refine .bind (update_respects hreach fun _ _ _ => Supplements.incrementVectorClock)
    fun _ _ _ _ => ?_
  exact getResourceByIdDirect_any env resourceId userId

end

theorem getResourceUcanKey_any (resourceId userId : String) :
    Program.Respects reach (fun _ _ => True) since
      (getResourceUcanKey resourceId userId) :=
  .bind (query_any _) fun _ _ _ _ => .pure trivial

theorem validateAuthorityForUpdate_any (resourceId token peerUserId : String) :
    Program.Respects reach (fun _ _ => True) since
      (validateAuthorityForUpdate env resourceId token peerUserId) := by
  refine .bind (query_any _) fun peerUser _ _ _ => ?_
  refine .bind (query_any _) fun resourceOwner _ _ _ => ?_
  exact .read fun _ _ _ _ => trivial

theorem getShareRecordsForResource_respects (resourceId : String) :
    Program.Respects reach
      (fun records _ => ∀ record ∈ records, record.resourceId = resourceId) since
      (getShareRecordsForResource resourceId) := by
  refine query_respects fun ctx records hread => ?_
  cases hread
  simp

theorem getResourceKeysForResource_respects (resourceId : String) :
    Program.Respects reach
      (fun keys _ => ∀ key ∈ keys, key.resourceId = resourceId) since
      (getResourceKeysForResource resourceId) := by
  refine query_respects fun ctx keys hread => ?_
  cases hread
  simp

theorem mem_withoutId {Row : Type} {id : Row → String} {rows others : List Row}
    {row : Row} (hrow : row ∈ withoutId id rows others) : row ∈ rows :=
  List.mem_of_mem_filter hrow

section

variable (hreach : AdmitsSupplements share reach)

include hreach

theorem mergeVectorClocks_respects (resourceId : String) (vectorClocks : List ResourceVectorClock) :
    Program.Respects reach (fun _ _ => True) since
      (mergeVectorClocks resourceId vectorClocks) := by
  refine .bind (query_any _) fun localVectorClocks _ _ _ =>
    .ite ?_ (.pure trivial)
  refine .bind (update_respects hreach fun _ _ _ => Supplements.updateVectorClocks)
    fun _ _ _ _ => ?_
  exact .pure trivial

theorem mergeShareRecords_respects (resourceId : String) {remoteShareRecords : List ShareRecord}
    (hremote : ∀ ctx, ∀ record ∈ remoteShareRecords, share ctx record) :
    Program.Respects reach
      (fun records _ => ∀ record ∈ records, record.resourceId = resourceId) since
      (mergeShareRecords resourceId remoteShareRecords) := by
  refine .bind (getShareRecordsForResource_respects resourceId)
    fun records _ _ hrecords => ?_
  refine .bind (update_respects hreach fun ctx _ _ => Supplements.saveShareRecords
    fun record hrecord => hremote ctx record (mem_withoutId hrecord))
    fun _ _ _ _ => ?_
  exact .pure fun record hrecord => hrecords record (mem_withoutId hrecord)

theorem updateVectorClocks_respects (addClock updateClock : List ResourceVectorClock) :
    Program.Respects reach (fun _ _ => True) since
      (updateVectorClocks addClock updateClock) :=
  update_respects hreach fun _ _ _ => Supplements.updateVectorClocks

theorem addShareRecords_respects {shareRecords : List ShareRecord}
    (hrecords : ∀ ctx, ∀ record ∈ shareRecords, share ctx record) :
    Program.Respects reach (fun _ _ => True) since
      (addShareRecords shareRecords) :=
  update_respects hreach fun ctx _ _ => Supplements.saveShareRecords (hrecords ctx)

end

structure AboutResource (resourceId : String) (data : ResourceSyncData) :
    Prop where
  resource_eq : data.resource.id = resourceId
  keys : ∀ key ∈ data.resourceKeys, key.resourceId = resourceId
  shares : ∀ record ∈ data.shareRecords, record.resourceId = resourceId

theorem getResourceForRemoteAddition_respects (hreach : AdmitsSupplements share reach)
    (resourceId : String) (device : Device) :
    Program.Respects reach (fun data _ => AboutResource resourceId data) since
      (getResourceForRemoteAddition env resourceId device) := by
  refine .bind (drawIds_respects hreach env 1) fun clockId _ _ _ => ?_
  refine .bind (update_respects hreach fun _ _ _ => Supplements.saveVectorClock)
    fun _ _ _ _ => ?_
  refine query_respects fun ctx data hread => ?_
  unfold ResourceRepo.getResourceSyncData at hread
  split at hread
  · cases hread
  · next resource hfound =>
      cases hread
      exact ⟨by simpa using List.find?_some hfound, by simp, by simp⟩

theorem placeReceived_respects (connectionType : ConnectionType)
    (payload : ResourceSyncData) :
    Program.Respects reach
      (fun placed _ => placed.shareRecords = payload.shareRecords) since
      (placeReceived connectionType payload) := by
  unfold placeReceived
  cases connectionType with
  | device => exact .pure rfl
  | user =>
      refine .bind (Program.Follows.attempt (query_any _))
        fun folder _ _ _ => ?_
      split
      · refine .bind (Program.Follows.attempt (query_any _))
          fun created _ _ _ => .ite (.pure rfl) ?_
        exact .bind (.mapError _ (query_any _)) fun defaultFolder _ _ _ => .pure rfl
      · exact .pure rfl

theorem addResourceSync_respects (hreach : AdmitsSupplements share reach)
    {payload : ResourceSyncData} (connectionType : ConnectionType)
    (hrecords : ∀ ctx, ∀ record ∈ payload.shareRecords, share ctx record) :
    Program.Respects reach (fun _ _ => True) since
      (addResourceSync payload connectionType) := by
  refine .bind (placeReceived_respects connectionType payload)
    fun placed _ _ hplaced => ?_
  exact update_respects hreach fun ctx _ _ =>
    Supplements.saveResourceSyncData (hplaced ▸ hrecords ctx)

end Resources

section Users

variable (env : ServiceEnv)

theorem signUcanPubKey_any :
    Program.Respects reach (fun _ _ => True) since (signUcanPubKey env) :=
  .bind (.bind (query_any _) fun _ _ _ _ => liftCrypto_any _)
    fun _ _ _ _ => liftCrypto_any _

theorem issueConnectUcanToken_any (peerUcanPubKey : String) :
    Program.Respects reach (fun _ _ => True) since
      (issueConnectUcanToken env peerUcanPubKey) :=
  .bind (query_any _) fun _ _ _ _ => liftCrypto_any _

theorem getUserManifest_any (peerUserId currentUserId : String) :
    Program.Respects reach (fun _ _ => True) since
      (getUserManifest peerUserId currentUserId) := by
  refine .bind (query_any _) fun shareRecords _ _ _ => ?_
  refine .bind (query_any _) fun folders _ _ _ => ?_
  refine .bind (query_any _) fun users _ _ _ => ?_
  exact .bind (query_any _) fun resources _ _ _ => .pure trivial

theorem getDeviceManifest_any (currentUserId : String) :
    Program.Respects reach (fun _ _ => True) since
      (getDeviceManifest currentUserId) := by
  refine .bind (query_any _) fun resources _ _ _ => ?_
  refine .bind (query_any _) fun otherUsers _ _ _ => ?_
  refine .bind (query_any _) fun knownDeviceIds _ _ _ => ?_
  exact .bind (query_any _) fun folders _ _ _ => .pure trivial

theorem createDeviceNetworkSyncPayload_any
    (manifestDiff : DeviceManifestDifferences) :
    Program.Respects reach (fun _ _ => True) since
      (createDeviceNetworkSyncPayload manifestDiff) := by
  refine .bind (query_any _) fun unknownUsers _ _ _ => ?_
  refine .bind (query_any _) fun commonDevices _ _ _ => ?_
  refine .bind (query_any _) fun ownDevices _ _ _ => ?_
  exact .bind (query_any _) fun folders _ _ _ => .pure trivial

def MovesWithDevices (reach : RepositoryContext → RepositoryContext → Prop) :
    Prop :=
  ∀ devices ctx ctx', DeviceRepo.saveMany devices ctx = .ok ctx' → reach ctx ctx'

theorem processUserNetworkSyncPayload_moves (payload : UserNetworkSyncPayload)
    (hadd : ∀ ctx ctx', UserRepo.addUsersWithDevicesBulk
      (payload.users.map asNewStranger) ctx = .ok ctx' → reach ctx ctx')
    (hdevices : MovesWithDevices reach) :
    Program.Respects reach (fun _ _ => True) since
      (processUserNetworkSyncPayload payload) := by
  refine .bind (update_moves fun ctx ctx' _ => hadd ctx ctx') fun _ _ _ _ => ?_
  exact update_moves fun ctx ctx' _ => hdevices _ ctx ctx'

theorem processUserNetworkSyncPayload_respects (hreach : Admits share reach)
    (payload : UserNetworkSyncPayload) :
    Program.Respects reach (fun _ _ => True) since
      (processUserNetworkSyncPayload payload) :=
  processUserNetworkSyncPayload_moves payload
    (fun _ _ hadd => hreach _ _ (Extends.addUsersWithDevicesBulk hadd))
    fun _ _ _ hsave => hreach.supplements _ _ (Supplements.saveDevices hsave)

theorem processDeviceNetworkSync_moves (payload : DeviceNetworkSyncPayload)
    (hadd : ∀ ctx ctx', UserRepo.addUsersWithDevicesBulk
      (payload.unknownUsersWithDevices.map asStranger) ctx = .ok ctx' →
        reach ctx ctx')
    (hfolders : ∀ folders ctx ctx',
      FolderRepo.addFoldersBulk folders ctx = .ok ctx' → reach ctx ctx')
    (hdevices : MovesWithDevices reach) :
    Program.Respects reach (fun _ _ => True) since
      (processDeviceNetworkSync payload) := by
  refine .bind (update_moves fun ctx ctx' _ => hadd ctx ctx') fun _ _ _ _ => ?_
  refine .bind (update_moves fun ctx ctx' _ => hfolders _ ctx ctx')
    fun _ _ _ _ => ?_
  refine .bind (update_moves fun ctx ctx' _ => hdevices _ ctx ctx')
    fun _ _ _ _ => ?_
  exact update_moves fun ctx ctx' _ => hdevices _ ctx ctx'

theorem processDeviceNetworkSync_respects (hreach : Admits share reach)
    (payload : DeviceNetworkSyncPayload) :
    Program.Respects reach (fun _ _ => True) since
      (processDeviceNetworkSync payload) :=
  processDeviceNetworkSync_moves payload
    (fun _ _ hadd => hreach _ _ (Extends.addUsersWithDevicesBulk hadd))
    (fun _ _ _ hsave => hreach.supplements _ _ (Supplements.addFoldersBulk hsave))
    fun _ _ _ hsave => hreach.supplements _ _ (Supplements.saveDevices hsave)

structure TellsOf (manifestDiff : UserManifestDifferences)
    (payload : UserNetworkSyncPayload) (ctx : RepositoryContext) : Prop where
  users : ∀ user ∈ payload.users, user.user.id ∈ manifestDiff.unknownUsers ∧
    ∀ device ∈ user.devices, device.userId = user.user.id
  devices : ∀ device ∈ payload.devices, device ∈ ctx.devices ∧
    device.id ∈ deviceIdsOf manifestDiff.unknownDevicesFromCommonUsers

theorem withDelegatedToken_eq_ok {encryptedKey : PgpText} {peerUser : User}
    {user told : UserWithDevices}
    (htold : withDelegatedToken env encryptedKey peerUser user = .ok told) :
    told.user.id = user.user.id ∧ told.devices = user.devices := by
  unfold withDelegatedToken at htold
  rw [bind_eq_ok] at htold
  obtain ⟨token, _, hresult⟩ := htold
  cases hresult
  exact ⟨rfl, rfl⟩

theorem createUserNetworkSyncPayload_respects
    (manifestDiff : UserManifestDifferences) (peerUser : User) :
    Program.Respects reach (TellsOf manifestDiff) since
      (createUserNetworkSyncPayload env manifestDiff peerUser) := by
  have husers : Program.Respects reach
      (fun (users : List UserWithDevices) _ => ∀ user ∈ users,
        user.user.id ∈ manifestDiff.unknownUsers ∧
          ∀ device ∈ user.devices, device.userId = user.user.id) since
      (query (UserRepo.getUsersWithDevicesByUserIds
        manifestDiff.unknownUsers)) := by
    refine query_respects fun ctx users hread user huser => ?_
    cases hread
    obtain ⟨row, hrow, rfl⟩ := List.mem_map.mp huser
    exact ⟨by simpa using (List.mem_filter.mp hrow).2,
      fun device hdevice => by simpa [UserRepo.devicesOf] using
        (List.mem_filter.mp hdevice).2⟩
  refine .bind husers fun unknownUsers _ _ hunknown => ?_
  refine .bind (query_any _) fun encryptedKey state _ _ => ?_
  have htokens : Program.Respects reach
      (fun (users : List UserWithDevices) _ => ∀ user ∈ users,
        user.user.id ∈ manifestDiff.unknownUsers ∧
          ∀ device ∈ user.devices, device.userId = user.user.id) state
      (liftCrypto (unknownUsers.mapM
        (withDelegatedToken env encryptedKey peerUser))) := by
    refine .ofExcept fun users hmap user huser => ?_
    obtain ⟨source, hsource, htold⟩ :=
      mem_of_mapM_eq_ok (mapError_eq_ok.mp hmap) huser
    obtain ⟨hid, hdevices⟩ := withDelegatedToken_eq_ok env htold
    rw [hid, hdevices]
    exact hunknown source hsource
  refine .bind htokens fun users state _ htold => ?_
  have hdevices : Program.Respects reach
      (fun (devices : List Device) (ctx : RepositoryContext) =>
        ∀ device ∈ devices, device ∈ ctx.devices ∧
          device.id ∈ deviceIdsOf manifestDiff.unknownDevicesFromCommonUsers) state
      (query (DeviceRepo.getDevicesByIds
        (deviceIdsOf manifestDiff.unknownDevicesFromCommonUsers))) := by
    refine query_respects fun ctx devices hread => ?_
    cases hread
    exact fun device hdevice => by simpa using List.mem_filter.mp hdevice
  exact .bind hdevices fun devices _ _ hstored => .pure ⟨htold, hstored⟩

end Users

section Folders

variable (env : ServiceEnv)

theorem processUnknownFoldersPayload_respects (hreach : AdmitsSupplements share reach)
    (payload : UnknownFoldersPayload) :
    Program.Respects reach (fun _ _ => True) since
      (processUnknownFoldersPayload payload) :=
  .forEach fun _ _ _ _ => update_respects hreach fun _ _ _ =>
    Supplements.saveFolderWithShareRecords

def FoldersAmong (folderIds : List String) (data : List FolderWithShareRecords) :
    Prop :=
  ∀ pair ∈ data, pair.folder.id ∈ folderIds ∧
    ∀ record ∈ pair.shareRecords, record.folderId = pair.folder.id

theorem foldersWithShareRecords_respects {folderIds : List String}
    {folders : List Folder}
    (hfolders : ∀ folder ∈ folders, folder.id ∈ folderIds) :
    Program.Respects reach (fun data _ => FoldersAmong folderIds data) since
      (foldersWithShareRecords folders) := by
  induction folders generalizing since with
  | nil => exact .pure fun pair hpair => by cases hpair
  | cons folder rest ih =>
      have hrecords : Program.Respects reach
          (fun records _ => ∀ record ∈ records, record.folderId = folder.id) since
          (query (FolderShareRepo.getRecordsByFolderId folder.id)) := by
        refine query_respects fun ctx records hread => ?_
        cases hread
        simp +contextual
      refine .bind hrecords fun records _ _ hown => ?_
      refine .bind (ih fun other hother => hfolders other
        (List.mem_cons_of_mem _ hother)) fun others _ _ hothers => .pure ?_
      intro pair hpair
      rcases List.mem_cons.mp hpair with rfl | hmem
      · exact ⟨hfolders folder List.mem_cons_self, hown⟩
      · exact hothers pair hmem

theorem createUnknownFoldersPayload_respects (folderIds : List String) :
    Program.Respects reach
      (fun payload _ => FoldersAmong folderIds payload.folderData) since
      (createUnknownFoldersPayload folderIds) := by
  have hfolders : Program.Respects reach
      (fun (folders : List Folder) _ => ∀ folder ∈ folders, folder.id ∈ folderIds)
      since (query (FolderRepo.getFoldersByIds folderIds)) := by
    refine query_respects fun ctx folders hread => ?_
    cases hread
    simp +contextual
  refine .bind hfolders fun folders _ _ hamong => ?_
  exact .bind (foldersWithShareRecords_respects hamong)
    fun data _ _ hdata => .pure hdata

theorem getMissingRemoteFolderShareRecords_respects {folderIds : List String}
    {diffs : List FolderRecipientDiff}
    (hdiffs : ∀ diff ∈ diffs, diff.folderId ∈ folderIds) :
    Program.Respects reach
      (fun updates _ => ∀ told ∈ updates, ∀ record ∈ told.newShareRecords,
        record.folderId ∈ folderIds) since
      (getMissingRemoteFolderShareRecords diffs) := by
  induction diffs generalizing since with
  | nil => exact .pure fun told htold => by cases htold
  | cons diff rest ih =>
      have hrecords : Program.Respects reach
          (fun records _ => ∀ record ∈ records, record.folderId = diff.folderId)
          since
          (query (FolderRepo.getShareRecordsForFolderAndRecipients diff.folderId
            diff.recipientsOnlyLocalKnows)) := by
        refine query_respects fun ctx records hread => ?_
        cases hread
        simp +contextual
      refine .bind hrecords fun records _ _ hown => ?_
      refine .bind (ih fun other hother => hdiffs other
        (List.mem_cons_of_mem _ hother)) fun others _ _ hothers => .pure ?_
      intro told htold
      rcases List.mem_cons.mp htold with rfl | hmem
      · intro record hrecord
        rw [hown record hrecord]
        exact hdiffs diff List.mem_cons_self
      · exact hothers told hmem

end Folders

end Osvauld.Services
