import Osvauld.Services.AutoSharing

namespace Osvauld.Services

open Osvauld.Core CryptoUtils Data Data.KeyedInserts Persistance

/-! Every recipient of a folder holds every resource in it. -/

def Holds (ctx : RepositoryContext) (pair : String × String) : Prop :=
  pair ∈ ctx.resourceKeys.map keyPair ∧ pair ∈ ctx.shareRecords.map recordPair

def HoldsAll (ctx : RepositoryContext) (folderId userId : String) : Prop :=
  ∀ resource ∈ ctx.resources, resource.folderId = folderId → resource.deleted = false →
    Holds ctx (resource.id, userId)

def FoldersShared (ctx : RepositoryContext) : Prop :=
  ∀ folderId, ∀ recipient ∈ recordedRecipients folderId ctx, HoldsAll ctx folderId recipient

structure SharedInFull (ctx : RepositoryContext) : Prop where
  folders : FoldersShared ctx
  keys : ∀ pair ∈ ctx.resourceKeys.map keyPair, pair ∈ ctx.shareRecords.map recordPair

theorem Holds.mono {ctx ctx' : RepositoryContext} {pair : String × String}
    (hkeys : ctx.resourceKeys ⊆ ctx'.resourceKeys)
    (hrecords : ctx.shareRecords ⊆ ctx'.shareRecords) (hholds : Holds ctx pair) :
    Holds ctx' pair :=
  ⟨List.map_subset _ hkeys hholds.1, List.map_subset _ hrecords hholds.2⟩

theorem mem_recordedRecipients {folderId recipient : String} {ctx : RepositoryContext} :
    recipient ∈ recordedRecipients folderId ctx ↔
      ∃ record ∈ ctx.folderShareRecords, record.operationType = .share ∧
        record.folderId = folderId ∧ record.recipientUserId = recipient := by
  simp only [recordedRecipients, List.mem_map, List.mem_filter, Bool.and_eq_true,
    decide_eq_true_eq]
  constructor
  · rintro ⟨record, ⟨hmem, hfolder, hshare⟩, hrecipient⟩
    exact ⟨record, hmem, hshare, hfolder, hrecipient⟩
  · rintro ⟨record, hmem, hshare, hfolder, hrecipient⟩
    exact ⟨record, ⟨hmem, hfolder, hshare⟩, hrecipient⟩

theorem SharedInFull.of_drew {since ctx : RepositoryContext} (hsince : SharedInFull since)
    (hdrew : OnlyDrew since ctx) : SharedInFull ctx := by
  obtain ⟨_, rfl⟩ := hdrew
  exact ⟨hsince.folders, hsince.keys⟩

structure StoresShares (data : List ResourceSharingData) (records : List FolderShareRecord)
    (ctx ctx' : RepositoryContext) : Prop where
  resources : ctx'.resources = ctx.resources
  keys : ctx'.resourceKeys = ctx.resourceKeys ++ data.map fun item => item.resourceKey
  shareRecords : ctx'.shareRecords = ctx.shareRecords ++ data.map fun item => item.shareRecord
  folders : ctx'.folderShareRecords = ctx.folderShareRecords ++ records

section Stored

variable {env : ServiceEnv} {ctx ctx' : RepositoryContext} {currentUser : User}
variable {first last : Nat} {targets : List (String × String)}
variable {data : List ResourceSharingData} {records : List FolderShareRecord}

theorem StoresShares.holds (hstores : StoresShares data records ctx ctx')
    {pair : String × String} (hholds : Holds ctx pair) : Holds ctx' pair := by
  refine hholds.mono ?_ ?_
  · rw [hstores.keys]
    exact List.subset_append_left _ _
  · rw [hstores.shareRecords]
    exact List.subset_append_left _ _

theorem StoresShares.holds_new (hstores : StoresShares data records ctx ctx')
    (hprepared : Prepared env ctx currentUser first targets data last)
    {pair : String × String} (hpair : pair ∈ data.map fun item => keyPair item.resourceKey) :
    Holds ctx' pair := by
  constructor
  · rw [hstores.keys, List.map_append, List.mem_append, List.map_map]
    exact .inr hpair
  · rw [hstores.shareRecords, List.map_append, List.mem_append, List.map_map]
    rw [← hprepared.recordPairs] at hpair
    exact .inr hpair

theorem StoresShares.holds_target {recipientUserId : String} {resourceIds : List String}
    (hctx : SharedInFull ctx) (hstores : StoresShares data records ctx ctx')
    (hall : AllShareable env ctx currentUser recipientUserId resourceIds)
    (hprepared : Prepared env ctx currentUser first
      (resourceIds.map fun resourceId => (resourceId, recipientUserId)) data last) :
    ∀ resourceId ∈ resourceIds, Holds ctx' (resourceId, recipientUserId) := by
  intro resourceId hresource
  by_cases hfree : ResourceKeyRepo.keyFor? ctx resourceId recipientUserId = none
  · refine hstores.holds_new hprepared (hprepared.mem_keyPairs.mpr ⟨?_, hfree, ?_⟩)
    · exact List.mem_map.mpr ⟨resourceId, hresource, rfl⟩
    · exact hall resourceId hresource hfree
  · have hheld := not_not.mp (mt keyFor?_eq_none.mpr hfree)
    exact hstores.holds ⟨hheld, hctx.keys _ hheld⟩

theorem StoresShares.sharedInFull (hctx : SharedInFull ctx)
    (hstores : StoresShares data records ctx ctx')
    (hprepared : Prepared env ctx currentUser first targets data last)
    (hrecords : ∀ record ∈ records, record.operationType = .share →
      HoldsAll ctx' record.folderId record.recipientUserId) : SharedInFull ctx' := by
  constructor
  · intro folderId recipient hrecipient
    obtain ⟨record, hmem, hshare, rfl, rfl⟩ := mem_recordedRecipients.mp hrecipient
    rw [hstores.folders, List.mem_append] at hmem
    rcases hmem with hmem | hmem
    · intro resource hresource hfolder hlive
      rw [hstores.resources] at hresource
      refine hstores.holds (hctx.folders _ _ ?_ resource hresource hfolder hlive)
      exact mem_recordedRecipients.mpr ⟨record, hmem, hshare, rfl, rfl⟩
    · exact hrecords record hmem hshare
  · intro pair hpair
    rw [hstores.keys, List.map_append, List.mem_append, List.map_map] at hpair
    rcases hpair with hpair | hpair
    · rw [hstores.shareRecords, List.map_append, List.mem_append]
      exact .inl (hctx.keys pair hpair)
    · exact (hstores.holds_new hprepared hpair).2

end Stored

section ShareFolder

variable {env : ServiceEnv} {since : RepositoryContext} {currentUser : User}

theorem prepareResources_keeps_prepared {recipientUserId : String}
    {resourceIds : List String} (hinjective : Function.Injective env.libraries.uuid) :
    Program.Keeps (OnlyDrew since)
      (fun data => AllShareable env since currentUser recipientUserId resourceIds ∧
        ∃ first last, Prepared env since currentUser first
          (resourceIds.map fun resourceId => (resourceId, recipientUserId)) data last)
      (prepareResources env recipientUserId currentUser resourceIds) := by
  rintro _ ⟨drawnIds, rfl⟩
  rcases @prepareResources_run env since currentUser recipientUserId resourceIds hinjective
    drawnIds with ⟨hall, data, last, hrun, hprepared⟩ | ⟨_, error, last, hrun⟩
  · rw [hrun]
    refine ⟨⟨last, rfl⟩, fun value hvalue => ?_⟩
    cases hvalue
    exact ⟨hall, drawnIds, last, hprepared⟩
  · rw [hrun]
    exact ⟨⟨last, rfl⟩, fun value hvalue => nomatch hvalue⟩

theorem shareFolderTransaction_stores {record : FolderShareRecord}
    {data : List ResourceSharingData} {ctx ctx' : RepositoryContext}
    (hdrew : OnlyDrew since ctx)
    (hshare : FolderShareRepo.shareFolderTransaction record
      (data.map fun item => item.resourceKey) (data.map fun item => item.shareRecord)
      (data.flatMap fun item => item.vectorClocks) ctx = .ok ctx') :
    StoresShares data [record] since ctx' := by
  obtain ⟨_, rfl⟩ := hdrew
  simp only [FolderShareRepo.shareFolderTransaction, reportAs_eq_ok, bind_eq_ok,
    folderShareRecords_keyed.insert_abort_eq_ok_iff,
    resourceKeys_keyed.insertAll_abort_eq_ok_iff,
    shareRecords_keyed.insertAll_abort_eq_ok_iff,
    vectorClocks_keyed.insertAll_abort_eq_ok_iff] at hshare
  obtain ⟨_, ⟨_, rfl⟩, _, ⟨_, rfl⟩, _, ⟨_, rfl⟩, _, rfl⟩ := hshare
  exact ⟨rfl, rfl, rfl, rfl⟩

theorem shareFolder_sharedInFull (folderId recipientUserId : String)
    (folderPermissions : List (String × String))
    (hinjective : Function.Injective env.libraries.uuid) (hsince : SharedInFull since) :
    Program.Ends (OnlyDrew since) SharedInFull
      (shareFolder env folderId recipientUserId folderPermissions currentUser) := by
  have hstill : ∀ ctx, OnlyDrew since ctx → SharedInFull ctx := fun _ => hsince.of_drew
  refine .bind (.mapError _ (query_keeps_any _)) hstill fun folder _ => ?_
  refine .bind (query_keeps_any _) hstill fun existing _ => .ite (.pure hstill _) ?_
  refine .bind (requireRecord_keeps _) hstill fun ownShare _ => ?_
  refine .bind (query_keeps_any _) hstill fun encryptedKey _ => ?_
  refine .bind (requireRecord_keeps _) hstill fun ownerShare _ => ?_
  refine .bind (query_keeps_any _) hstill fun folderOwner _ => ?_
  refine .bind (query_keeps_any _) hstill fun recipientUser _ => ?_
  refine .bind (.read fun _ _ _ _ => trivial) hstill fun (ucanToken, ucanCid) _ => ?_
  refine .bind (drawId_drew env) hstill fun recordId _ => ?_
  have hlive : Program.Keeps (OnlyDrew since)
      (fun resourceIds => ∀ resource ∈ since.resources, resource.folderId = folderId →
        resource.deleted = false → resource.id ∈ resourceIds)
      (query (ResourceRepo.getResourceIdsByFolderId folderId)) := by
    refine query_keeps fun ctx resourceIds hdrew hread resource hmem hfolder hlive => ?_
    obtain ⟨_, rfl⟩ := hdrew
    cases hread
    exact List.mem_map.mpr ⟨resource, List.mem_filter.mpr ⟨hmem, by simp [hfolder, hlive]⟩,
      rfl⟩
  refine .bind hlive hstill fun resourceIds hresources => ?_
  refine .bind (prepareResources_keeps_prepared hinjective) hstill
    fun data ⟨hall, first, last, hprepared⟩ => ?_
  refine update_ends hstill fun ctx ctx' hdrew hshare => ?_
  have hstores := shareFolderTransaction_stores hdrew hshare
  refine hstores.sharedInFull hsince hprepared fun record hrecord _ => ?_
  cases List.mem_singleton.mp hrecord
  intro resource hmem hfolder hlive
  rw [hstores.resources] at hmem
  exact hstores.holds_target hsince hall hprepared _ (hresources resource hmem hfolder hlive)

end ShareFolder

section Merge

variable {env : ServiceEnv} {ctx ctx' : RepositoryContext} {currentUser : User}

theorem upsertClocks_frame {clocks : List ResourceVectorClock}
    (hupsert : ResourceRepo.upsertClocks clocks ctx = .ok ctx') :
    ∃ rows, ctx' = { ctx with vectorClocks := rows } := by
  refine foldlM_invariant
    (fun state : RepositoryContext => ∃ rows, state = { ctx with vectorClocks := rows })
    (fun clock _ state next hstate hnext => ?_) ⟨ctx.vectorClocks, rfl⟩ hupsert
  obtain ⟨rows, rfl⟩ := hstate
  unfold ResourceRepo.upsertClock at hnext
  split at hnext
  · cases hnext
    exact ⟨_, rfl⟩
  · obtain ⟨_, rfl⟩ := Table.insert_abort_eq_ok hnext
    exact ⟨_, rfl⟩

theorem storeShares_eq_ok {first last drawnIds : Nat} {targets : List (String × String)}
    {data : List ResourceSharingData}
    (hfresh : FreshIds env.libraries.uuid { ctx with drawnIds := first })
    (hprepared : Prepared env ctx currentUser first targets data last)
    (hstore : storeShares data { ctx with drawnIds } = .ok ctx') :
    (data.map fun item => keyPair item.resourceKey).Nodup ∧ ∃ clocks, ctx' = { ctx with
      resourceKeys := ctx.resourceKeys ++ data.map fun item => item.resourceKey
      shareRecords := ctx.shareRecords ++ data.map fun item => item.shareRecord
      vectorClocks := clocks
      drawnIds } := by
  have hkeys : newRows ResourceKey.id ctx.resourceKeys
      (data.map fun item => item.resourceKey) = data.map fun item => item.resourceKey :=
    newRows_drawn (hprepared.keyIds hfresh.injective) hfresh.keys
  have hrecords : newRows ShareRecord.id ctx.shareRecords
      (data.map fun item => item.shareRecord) = data.map fun item => item.shareRecord :=
    newRows_drawn (hprepared.recordIds hfresh.injective) hfresh.records
  simp only [storeShares, bind_eq_ok, resourceKeys_keyed.insertAll_eq_ok_iff_newRows,
    shareRecords_keyed.insertAll_eq_ok_iff_newRows] at hstore
  obtain ⟨afterKeys, ⟨hadmits, rfl⟩, afterRecords, ⟨_, rfl⟩, hclocks⟩ := hstore
  obtain ⟨rows, rfl⟩ := upsertClocks_frame hclocks
  have hdistinct : ((newRows ResourceKey.id ctx.resourceKeys
      (data.map fun item => item.resourceKey)).map keyPair).Nodup := hadmits.distinct
  rw [hkeys, List.map_map] at hdistinct
  refine ⟨hdistinct, rows, ?_⟩
  rw [← congrArg (ctx.resourceKeys ++ ·) hkeys, ← congrArg (ctx.shareRecords ++ ·) hrecords]
  rfl

theorem saveSharingData_eq_ok {first last drawnIds : Nat} {targets : List (String × String)}
    {data : List ResourceSharingData} {received : List FolderShareRecord}
    (hfresh : FreshIds env.libraries.uuid { ctx with drawnIds := first })
    (hprepared : Prepared env ctx currentUser first targets data last)
    (hsave : ResourceRepo.saveResourceAndFolderSharingData
      (data.map fun item => item.resourceKey) (data.map fun item => item.shareRecord)
      (data.flatMap fun item => item.vectorClocks) received { ctx with drawnIds } = .ok ctx') :
    Table.folderShareRecords.Admits FolderShareRecord.id ctx received ∧
      (data.map fun item => keyPair item.resourceKey).Nodup ∧
        StoresShares data (newRows FolderShareRecord.id ctx.folderShareRecords received) ctx
          ctx' := by
  rw [ResourceRepo.saveResourceAndFolderSharingData, reportAs_eq_ok] at hsave
  simp only [bind_eq_ok, folderShareRecords_keyed.insertAll_eq_ok_iff_newRows] at hsave
  obtain ⟨afterKeys, hkeys, afterRecords, hrecords, stored, hclocks, hadmits, rfl⟩ := hsave
  have hstore : storeShares data { ctx with drawnIds } = .ok stored := by
    simp only [storeShares, bind_eq_ok]
    exact ⟨afterKeys, hkeys, afterRecords, hrecords, hclocks⟩
  obtain ⟨hdistinct, clocks, rfl⟩ := storeShares_eq_ok hfresh hprepared hstore
  -- The statements before change neither the folders nor the users.
  exact ⟨hadmits, hdistinct, rfl, rfl, rfl, rfl⟩

def missingResources (payload : List FolderRecipientUpdate)
    (missingRemoteResources : List String) (ctx : RepositoryContext) : List String :=
  payload.flatMap fun recipientMap =>
    ResourceRepo.getResourceIdsInFolder missingRemoteResources recipientMap.folderId ctx

def receivedRecords (payload : List FolderRecipientUpdate) : List FolderShareRecord :=
  payload.flatMap fun element => element.newShareRecords

/-- When the call goes through, every recipient that is new holds the live resources of
the folder already, or is the peer and gets those that it lacks. -/
def MergesHolders (env : ServiceEnv) (payload : List FolderRecipientUpdate)
    (missingRemoteResources : List String) (recipientUserId : String) (currentUser : User)
    (ctx : RepositoryContext) : Prop :=
  AllShareable env ctx currentUser recipientUserId
      (missingResources payload missingRemoteResources ctx) →
    ((missingResources payload missingRemoteResources ctx).filter fun resourceId =>
      (ResourceKeyRepo.keyFor? ctx resourceId recipientUserId).isNone).Nodup →
    Table.folderShareRecords.Admits FolderShareRecord.id ctx (receivedRecords payload) →
      ∀ record ∈ newRows FolderShareRecord.id ctx.folderShareRecords
          (receivedRecords payload), record.operationType = .share →
        ∀ resource ∈ ctx.resources, resource.folderId = record.folderId →
          resource.deleted = false →
            Holds ctx (resource.id, record.recipientUserId) ∨
              record.recipientUserId = recipientUserId ∧
                resource.id ∈ missingResources payload missingRemoteResources ctx

theorem addMissingRecipients_sharedInFull {payload : List FolderRecipientUpdate}
    {missingRemoteResources : List String} {recipientUserId : String}
    (hfresh : FreshIds env.libraries.uuid ctx) (hctx : SharedInFull ctx)
    (hmerges : MergesHolders env payload missingRemoteResources recipientUserId currentUser
      ctx) :
    SharedInFull ((addMissingRecipients env payload missingRemoteResources recipientUserId
      currentUser).run ctx).2 := by
  have hcall : addMissingRecipients env payload missingRemoteResources recipientUserId
      currentUser =
    query (fun ctx => .ok (missingResources payload missingRemoteResources ctx)) >>=
      fun resourceIds => prepareResources env recipientUserId currentUser resourceIds >>=
        fun data => update (ResourceRepo.saveResourceAndFolderSharingData
          (data.map fun item => item.resourceKey) (data.map fun item => item.shareRecord)
          (data.flatMap fun item => item.vectorClocks) (receivedRecords payload)) := rfl
  rw [hcall, query_andThen]
  dsimp only
  rw [Program.run_bind]
  rcases @prepareResources_run env ctx currentUser recipientUserId
    (missingResources payload missingRemoteResources ctx) hfresh.injective ctx.drawnIds with
    ⟨hall, data, last, hrun, hprepared⟩ | ⟨_, error, last, hrun⟩
  · rw [hrun, Program.andThen_ok, update, Program.run_write]
    cases hsave : ResourceRepo.saveResourceAndFolderSharingData
        (data.map fun item => item.resourceKey) (data.map fun item => item.shareRecord)
        (data.flatMap fun item => item.vectorClocks) (receivedRecords payload)
        { ctx with drawnIds := last } with
    | error error => exact hctx.of_drew ⟨last, rfl⟩
    | ok ctx' =>
        dsimp only [Except.mapError]
        obtain ⟨hadmits, hdistinct, hstores⟩ :=
          saveSharingData_eq_ok hfresh hprepared hsave
        refine hstores.sharedInFull hctx hprepared fun record hrecord hshare => ?_
        rw [hprepared.keyPairs_of_missing fun target htarget hfree => ?_, List.filter_map]
          at hdistinct
        · intro resource hresource hfolder hlive
          rw [hstores.resources] at hresource
          rcases hmerges hall (hdistinct.of_map _) hadmits record hrecord hshare resource
            hresource hfolder hlive with hholds | ⟨hpeer, hnamed⟩
          · exact hstores.holds hholds
          · rw [hpeer]
            exact hstores.holds_target hctx hall hprepared _ hnamed
        · obtain ⟨resourceId, hnamed, rfl⟩ := List.mem_map.mp htarget
          exact ⟨hfree, hall resourceId hnamed hfree⟩
  · rw [hrun]
    exact hctx.of_drew ⟨last, rfl⟩

/-- Nothing has been added to the tables but share records of folders, for users that
held the resources before. -/
structure OnlyRecords (ctx ctx' : RepositoryContext) : Prop where
  resources : ctx'.resources = ctx.resources
  keys : ctx'.resourceKeys = ctx.resourceKeys
  shareRecords : ctx'.shareRecords = ctx.shareRecords
  still : ctx.folderShareRecords ⊆ ctx'.folderShareRecords
  new : ∀ record ∈ ctx'.folderShareRecords, record ∈ ctx.folderShareRecords ∨
    (record.operationType = .share → HoldsAll ctx record.folderId record.recipientUserId)

theorem OnlyRecords.sharedInFull (hctx : SharedInFull ctx) (honly : OnlyRecords ctx ctx') :
    SharedInFull ctx' := by
  have hholds {pair : String × String} (hbefore : Holds ctx pair) : Holds ctx' pair := by
    rw [Holds, honly.keys, honly.shareRecords]
    exact hbefore
  constructor
  · intro folderId recipient hrecipient resource hmem hfolder hlive
    rw [honly.resources] at hmem
    obtain ⟨record, hrecord, hshare, rfl, rfl⟩ := mem_recordedRecipients.mp hrecipient
    rcases honly.new record hrecord with hold | hnew
    · refine hholds (hctx.folders _ _ ?_ resource hmem hfolder hlive)
      exact mem_recordedRecipients.mpr ⟨record, hold, hshare, rfl, rfl⟩
    · exact hholds (hnew hshare resource hmem hfolder hlive)
  · rw [honly.keys, honly.shareRecords]
    exact hctx.keys

theorem saveFolderWithShareRecords_only {folder : Folder} {records : List FolderShareRecord}
    {state state' : RepositoryContext} (hstate : OnlyRecords ctx state)
    (hheld : ∀ record ∈ records,
      record.id ∉ ctx.folderShareRecords.map FolderShareRecord.id →
        record.operationType = .share →
          HoldsAll ctx record.folderId record.recipientUserId)
    (hsave : FolderRepo.saveFolderWithShareRecords folder records state = .ok state') :
    OnlyRecords ctx state' := by
  rw [FolderRepo.saveFolderWithShareRecords, reportAs_eq_ok, bind_eq_ok] at hsave
  obtain ⟨saved, hfolder, hrecords⟩ := hsave
  have hsaved : OnlyRecords ctx saved := by
    unfold FolderRepo.upsertFolder at hfolder
    split at hfolder
    · cases hfolder
      exact ⟨hstate.resources, hstate.keys, hstate.shareRecords, hstate.still, hstate.new⟩
    · obtain ⟨_, rfl⟩ := Table.insert_abort_eq_ok hfolder
      exact ⟨hstate.resources, hstate.keys, hstate.shareRecords, hstate.still, hstate.new⟩
  refine Table.insertAll_induction (OnlyRecords ctx) (fun record hrecord before hfree hbefore =>
    ⟨hbefore.resources, hbefore.keys, hbefore.shareRecords, fun other hother =>
      List.mem_append_left _ (hbefore.still hother), fun other hother => ?_⟩) hsaved hrecords
  rcases List.mem_append.mp hother with hother | hother
  · exact hbefore.new other hother
  · cases List.mem_singleton.mp hother
    refine .inr (hheld record hrecord fun hmem => ?_)
    obtain ⟨known, hknown, hid⟩ := List.mem_map.mp hmem
    exact hfree known (hbefore.still hknown) hid

def ReceivesHolders (payload : UnknownFoldersPayload) (ctx : RepositoryContext) : Prop :=
  ∀ folderPair ∈ payload.folderData, ∀ record ∈ folderPair.shareRecords,
    record.id ∉ ctx.folderShareRecords.map FolderShareRecord.id →
      record.operationType = .share →
        HoldsAll ctx record.folderId record.recipientUserId

theorem processUnknownFoldersPayload_sharedInFull {payload : UnknownFoldersPayload}
    (hctx : SharedInFull ctx) (hreceives : ReceivesHolders payload ctx) :
    SharedInFull ((processUnknownFoldersPayload payload).run ctx).2 := by
  have hkeeps : Program.Keeps (OnlyRecords ctx) (fun _ => True)
      (processUnknownFoldersPayload payload) :=
    .forEach fun folderPair hpair => update_keeps fun state state' hstate hsave =>
      saveFolderWithShareRecords_only hstate (hreceives folderPair hpair) hsave
  have hstart : OnlyRecords ctx ctx :=
    ⟨rfl, rfl, rfl, fun _ hmem => hmem, fun _ hmem => .inl hmem⟩
  exact (hkeeps ctx hstart).1.sharedInFull hctx

end Merge

section Creation

variable {since ctx ctx' : RepositoryContext} {folderId resourceId : String} {user : User}

theorem Created.holds (hcreated : Created folderId user resourceId since ctx)
    {pair : String × String} (hholds : Holds since pair) : Holds ctx pair := by
  obtain ⟨key, hkeys, -⟩ := hcreated.keys
  obtain ⟨record, hrecords, -⟩ := hcreated.records
  refine hholds.mono ?_ ?_
  · rw [hkeys]
    exact List.subset_append_left _ _
  · rw [hrecords]
    exact List.subset_append_left _ _

theorem Created.creator_holds (hcreated : Created folderId user resourceId since ctx) :
    Holds ctx (resourceId, user.id) := by
  obtain ⟨key, hkeys, hkey⟩ := hcreated.keys
  obtain ⟨record, hrecords, hrecord⟩ := hcreated.records
  constructor
  · rw [hkeys]
    simp [hkey]
  · rw [hrecords]
    simp [hrecord]

theorem Created.recordedRecipients_eq (hcreated : Created folderId user resourceId since ctx)
    (folder : String) : recordedRecipients folder ctx = recordedRecipients folder since := by
  rw [recordedRecipients, hcreated.folderShareRecords, recordedRecipients]

theorem Created.sharedInFull {env : ServiceEnv} {first last : Nat}
    {targets : List (String × String)} {data : List ResourceSharingData}
    (hsince : SharedInFull since) (hcreated : Created folderId user resourceId since ctx)
    (hstores : StoresShares data [] ctx ctx')
    (hprepared : Prepared env ctx user first targets data last)
    (hothers : ∀ recipient ∈ otherRecipients folderId user ctx,
      (resourceId, recipient) ∈ data.map fun item => keyPair item.resourceKey) :
    SharedInFull ctx' := by
  constructor
  · intro folder recipient hrecipient resource hmem hfolder hlive
    have hrecipient : recipient ∈ recordedRecipients folder ctx := by
      rw [recordedRecipients, hstores.folders, List.append_nil] at hrecipient
      exact hrecipient
    obtain ⟨new, hresources, rfl, hnewFolder, -⟩ := hcreated.resources
    rw [hstores.resources, hresources, List.mem_append, List.mem_singleton] at hmem
    rcases hmem with hmem | rfl
    · rw [hcreated.recordedRecipients_eq] at hrecipient
      exact hstores.holds (hcreated.holds
        (hsince.folders folder recipient hrecipient resource hmem hfolder hlive))
    · obtain rfl := hnewFolder.symm.trans hfolder
      by_cases hcreator : recipient = user.id
      · rw [hcreator]
        exact hstores.holds hcreated.creator_holds
      · refine hstores.holds_new hprepared (hothers recipient ?_)
        exact List.mem_filter.mpr ⟨hrecipient, by simpa using hcreator⟩
  · intro pair hpair
    rw [hstores.keys, List.map_append, List.mem_append, List.map_map] at hpair
    rcases hpair with hpair | hpair
    · obtain ⟨key, hkeys, hkey⟩ := hcreated.keys
      rw [hkeys, List.map_append, List.mem_append, List.map_singleton, List.mem_singleton]
        at hpair
      rcases hpair with hpair | rfl
      · exact (hstores.holds (hcreated.holds ⟨hpair, hsince.keys pair hpair⟩)).2
      · rw [hkey]
        exact (hstores.holds hcreated.creator_holds).2
    · exact (hstores.holds_new hprepared hpair).2

end Creation

/-- A creation that stores the resource goes on to share it with every other recipient
of the folder, who are all different; or there are none. -/
def CreatesShared (env : ServiceEnv) (payload : JsonText) (resourceType : ResourceType)
    (folderId : String) (user : User) (currentDeviceId : String) (ctx : RepositoryContext) :
    Prop :=
  ∀ outcome created,
    (createResource env payload resourceType folderId user currentDeviceId).run ctx =
        (outcome, created) → created.resources ≠ ctx.resources →
      otherRecipients folderId user created = [] ∨
        ∃ resource, outcome = .ok resource ∧ CanAutoShare env resource.id folderId user created

theorem createAndShare_sharedInFull {env : ServiceEnv} {payload : JsonText}
    {resourceType : ResourceType} {folderId : String} {user : User}
    {currentDeviceId : String} {ctx : RepositoryContext} (hforeign : ForeignKeys ctx)
    (hfresh : ∀ resource created,
      (createResource env payload resourceType folderId user currentDeviceId).run ctx =
        (.ok resource, created) → FreshIds env.libraries.uuid created)
    (hctx : SharedInFull ctx)
    (hcreates : CreatesShared env payload resourceType folderId user currentDeviceId ctx) :
    SharedInFull ((createAndShare env payload resourceType folderId user
      currentDeviceId).run ctx).2 := by
  rw [createAndShare, Program.run_bind]
  have hleads := createResource_leads env payload resourceType folderId user
    currentDeviceId ctx ctx (.refl ctx)
  cases hrun : (createResource env payload resourceType folderId user currentDeviceId).run
      ctx with
  | mk outcome created =>
  rw [hrun] at hleads
  dsimp only at hleads
  rcases hleads with ⟨⟨error, rfl⟩, hdrew⟩ | ⟨resourceId, hcreated, hid⟩
  · exact hctx.of_drew hdrew
  have hchanged : created.resources ≠ ctx.resources := by
    obtain ⟨resource, hresources, -⟩ := hcreated.resources
    simp [hresources]
  have hshared := hcreates outcome created hrun hchanged
  cases outcome with
  | error error =>
      have hnone : otherRecipients folderId user created = [] := by
        rcases hshared with hnone | ⟨_, hok, _⟩
        · exact hnone
        · cases hok
      have hstores : StoresShares [] [] created created := ⟨rfl, by simp, by simp, by simp⟩
      exact hcreated.sharedInFull hctx hstores (@Prepared.nil env created user 0)
        (by simp [hnone])
  | ok resource =>
      obtain rfl := hid resource rfl
      have hcan : CanAutoShare env resource.id folderId user created := by
        rcases hshared with hnone | ⟨_, hok, hcan⟩
        · rw [CanAutoShare, hnone]
          simp
        · cases hok
          exact hcan
      have hnew := hcreated.newIn hforeign
      obtain ⟨data, last, hprepared, houtcome⟩ := autoShare_outcome (hfresh resource created hrun)
        hnew
      have hpairs := hprepared.keyPairs_of_all fun target htarget => by
        obtain ⟨recipient, hrecipient, rfl⟩ := List.mem_map.mp htarget
        exact ⟨hnew.keys recipient hrecipient, hcan.2 recipient hrecipient⟩
      rw [Program.andThen_ok]
      rcases houtcome with ⟨_, clocks, hstored⟩ | ⟨hrepeated, _⟩
      · rw [hstored]
        have hstores : StoresShares data [] created { created with
            resourceKeys := created.resourceKeys ++ data.map fun item => item.resourceKey
            shareRecords := created.shareRecords ++ data.map fun item => item.shareRecord
            vectorClocks := clocks
            drawnIds := last } := ⟨rfl, rfl, rfl, (List.append_nil _).symm⟩
        refine hcreated.sharedInFull hctx hstores hprepared fun recipient hrecipient => ?_
        rw [hpairs]
        exact List.mem_map.mpr ⟨recipient, hrecipient, rfl⟩
      · refine absurd ?_ hrepeated
        rw [hpairs]
        exact hcan.1.map fun recipient other heq => congrArg Prod.snd heq

namespace SharingEvent

def DrawsFresh (ctx : RepositoryContext) : SharingEvent → Prop
  | .createAndShare env payload resourceType folderId user currentDeviceId =>
      ∀ resource created,
        (createResource env payload resourceType folderId user currentDeviceId).run ctx =
          (.ok resource, created) → FreshIds env.libraries.uuid created
  | .shareFolder env .. | .addMissingRecipients env .. => FreshIds env.libraries.uuid ctx
  | _ => True

def KeepsShared (ctx : RepositoryContext) : SharingEvent → Prop
  | .createAndShare env payload resourceType folderId user currentDeviceId =>
      CreatesShared env payload resourceType folderId user currentDeviceId ctx
  | .addMissingRecipients env payload missingRemoteResources recipientUserId currentUser =>
      MergesHolders env payload missingRemoteResources recipientUserId currentUser ctx
  | .processUnknownFoldersPayload payload => ReceivesHolders payload ctx
  | .shareFolder .. | .elsewhere _ => True

end SharingEvent

theorem step_sharedInFull (event : SharingEvent) {ctx : RepositoryContext}
    (hforeign : ForeignKeys ctx) (hfresh : event.DrawsFresh ctx)
    (hkeeps : event.KeepsShared ctx) (hctx : SharedInFull ctx) :
    SharedInFull (event.step ctx) := by
  cases event with
  | createAndShare env payload resourceType folderId user currentDeviceId =>
      exact createAndShare_sharedInFull hforeign hfresh hctx hkeeps
  | shareFolder env folderId recipientUserId folderPermissions currentUser =>
      have hshares := @shareFolder_sharedInFull env ctx currentUser folderId recipientUserId
        folderPermissions hfresh.injective hctx
      exact hshares ctx (.refl ctx)
  | addMissingRecipients env payload missingRemoteResources recipientUserId currentUser =>
      exact addMissingRecipients_sharedInFull hfresh hctx hkeeps
  | processUnknownFoldersPayload payload =>
      exact processUnknownFoldersPayload_sharedInFull hctx hkeeps
  | elsewhere other => exact ⟨hctx.folders, hctx.keys⟩

/-- In a run whose events meet their conditions every recipient of a folder holds every
live resource in it, after each event. -/
theorem foldersShared_throughout {start : RepositoryContext} {events : List SharingEvent}
    (hstart : SharedInFull start)
    (hforeign : ∀ earlier, earlier <+: events → ForeignKeys (afterSharing start earlier))
    (hfresh : ∀ earlier event, earlier ++ [event] <+: events →
      event.DrawsFresh (afterSharing start earlier))
    (hkeeps : ∀ earlier event, earlier ++ [event] <+: events →
      event.KeepsShared (afterSharing start earlier)) :
    ∀ earlier, earlier <+: events → FoldersShared (afterSharing start earlier) := by
  have hthroughout : ∀ earlier, earlier <+: events →
      SharedInFull (afterSharing start earlier) := by
    refine @run_invariant _ _ (fun event ctx => event.step ctx) start events
      (fun _ ctx => SharedInFull ctx) hstart fun earlier event hearlier hbefore => ?_
    exact step_sharedInFull event (hforeign earlier ((List.prefix_append _ _).trans hearlier))
      (hfresh earlier event hearlier) (hkeeps earlier event hearlier) hbefore
  exact fun earlier hearlier => (hthroughout earlier hearlier).folders

namespace LateRecipient

open SharedTwice (creation)

def store : RepositoryContext :=
  { TwoHolders.store "R" with users := [.sample "R", .sample "S", .sample "T"] }

def mergedRecord : SharingEvent :=
  .addMissingRecipients (TwoHolders.envOf "R")
    [{ folderId := "folder"
       newShareRecords := [FolderShareRecord.prepareFolderShareRecord "1" 0 "folder" "R" "T"
        .admin "token" "cid"] }] [] "S" (.sample "R")

def early : List SharingEvent := [mergedRecord, creation]

def late : List SharingEvent := [creation, mergedRecord]

def merged : RepositoryContext := afterSharing store [mergedRecord]

def created : Except ServiceError DecryptedResource × RepositoryContext :=
  (createResource (TwoHolders.envOf "R") TwoHolders.first .notes "folder" (.sample "R")
    "dev-R").run merged

theorem foreignKeys {earlier : List SharingEvent} (hearlier : earlier <+: early) :
    ForeignKeys (afterSharing store earlier) := by
  simp only [early, List.prefix_cons_iff, List.prefix_nil] at hearlier
  rcases hearlier with rfl | ⟨_, rfl, rfl | ⟨_, rfl, rfl⟩⟩
  all_goals exact ⟨by decide +kernel, by decide +kernel⟩

theorem canShare : CanShare (TwoHolders.envOf "R") created.2 (.sample "R")
    (autoSharePermissions (TwoHolders.envOf "R") "i") "i" "T" := by
  have hfresh : FreshIds TwoHolders.libraries.uuid created.2 :=
    freshIds_tabled (by decide +kernel) (by decide +kernel) (by decide +kernel)
  rcases @prepareShareResource_outcome (TwoHolders.envOf "R") created.2 (.sample "R")
    (autoSharePermissions (TwoHolders.envOf "R") "i") "i" "T" hfresh.injective
      (by decide +kernel) with ⟨hcan, _⟩ | ⟨_, error, last, hrun, _⟩
  · exact hcan
  · have hruns : ((prepareShareResource (TwoHolders.envOf "R") "T" "i"
        (autoSharePermissions (TwoHolders.envOf "R") "i") (.sample "R")).run
          created.2).1.isOk = true := by
      decide +kernel
    rw [hrun] at hruns
    cases hruns

end LateRecipient

open LateRecipient in
theorem foldersShared_throughout_early : FoldersShared (afterSharing store early) := by
  have hstart : SharedInFull store := by
    constructor
    · intro folderId recipient _ resource hresource
      cases hresource
    · intro pair hpair
      cases hpair
  refine foldersShared_throughout hstart (fun earlier => foreignKeys)
    (fun earlier event hearlier => ?_) (fun earlier event hearlier => ?_) early List.prefix_rfl
  · refine @EachEvent.of_prefix _ (fun earlier event =>
      event.DrawsFresh (afterSharing store earlier)) [] early earlier event
        ⟨?_, fun resource ctx hrun => ?_, trivial⟩ hearlier
    · exact freshIds_tabled (by decide +kernel) (by decide +kernel) (by decide +kernel)
    · have hctx : created.2 = ctx := congrArg Prod.snd hrun
      exact hctx ▸ freshIds_tabled (by decide +kernel) (by decide +kernel) (by decide +kernel)
  · refine @EachEvent.of_prefix _ (fun earlier event =>
      event.KeepsShared (afterSharing store earlier)) [] early earlier event
        ⟨?_, fun outcome ctx hrun _ => .inr ?_, trivial⟩ hearlier
    · intro _ _ _ record _ _ resource hresource
      cases hresource
    · have hrun : created = (outcome, ctx) := hrun
      have hid : created.1.toOption.map (fun resource => resource.id) = some "i" := by
        decide +kernel
      have hothers : otherRecipients "folder" (.sample "R") created.2 = ["T"] := by
        decide +kernel
      have hcan := canShare
      rw [hrun] at hid hothers hcan
      cases outcome with
      | error error => cases hid
      | ok resource =>
          have hid : resource.id = "i" := Option.some.inj hid
          refine ⟨resource, rfl, ?_, fun recipient hrecipient => ?_⟩
          · rw [hothers]
            exact List.nodup_singleton _
          · rw [hothers, List.mem_singleton] at hrecipient
            rw [hrecipient, hid]
            exact hcan

open LateRecipient in
/-- `T` is recorded once the note is written, and gets no key for it. -/
theorem not_foldersShared_late :
    ¬ ∀ earlier, earlier <+: late → FoldersShared (afterSharing store earlier) := by
  intro hshared
  have hfolder := hshared late List.prefix_rfl "folder" "T" (by decide +kernel)
  have hnote : ∃ resource ∈ (afterSharing store late).resources,
      resource.id = "i" ∧ resource.folderId = "folder" ∧ resource.deleted = false := by
    decide +kernel
  obtain ⟨resource, hresource, hid, hin, hlive⟩ := hnote
  have hkey := (hfolder resource hresource hin hlive).1
  rw [hid] at hkey
  revert hkey
  decide +kernel

end Osvauld.Services
