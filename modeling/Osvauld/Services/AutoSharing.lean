import Osvauld.Services.KeyHolders
import Osvauld.Services.PreparedShares

namespace Osvauld.Services

open Osvauld.Core CryptoUtils Data Data.KeyedInserts Persistance

/-! Sharing a new resource with the users of its folder. -/

def OnlyDrew (since ctx : RepositoryContext) : Prop :=
  ∃ drawnIds, ctx = { since with drawnIds }

structure Created (folderId : String) (user : User) (resourceId : String)
    (since ctx : RepositoryContext) : Prop where
  wasFree : resourceExists since resourceId = false
  resources : ∃ resource : Resource, ctx.resources = since.resources ++ [resource] ∧
    resource.id = resourceId ∧ resource.folderId = folderId ∧ resource.deleted = false
  keys : ∃ key, ctx.resourceKeys = since.resourceKeys ++ [key] ∧
    keyPair key = (resourceId, user.id)
  records : ∃ record, ctx.shareRecords = since.shareRecords ++ [record] ∧
    recordPair record = (resourceId, user.id)
  users : ctx.users = since.users
  folderShareRecords : ctx.folderShareRecords = since.folderShareRecords
  creator : userExists ctx user.id = true

theorem OnlyDrew.refl (since : RepositoryContext) : OnlyDrew since since :=
  ⟨since.drawnIds, rfl⟩

variable {since : RepositoryContext}

theorem OnlyDrew.draw {ctx : RepositoryContext} (hdrew : OnlyDrew since ctx) (drawnIds : Nat) :
    OnlyDrew since { ctx with drawnIds } := by
  obtain ⟨_, rfl⟩ := hdrew
  exact ⟨drawnIds, rfl⟩

theorem drawId_drew (env : ServiceEnv) :
    Program.Keeps (OnlyDrew since) (fun _ => True) (drawId env) :=
  drawId_keeps (fun _ drawnIds hdrew => hdrew.draw drawnIds) env

theorem saveResourceWithDependencies_created {ctx ctx' : RepositoryContext} {resource : Resource}
    {key : ResourceKey} {record : ShareRecord} {clocks : List ResourceVectorClock}
    {folderId : String} {user : User} (hdrew : OnlyDrew since ctx)
    (hfolder : resource.folderId = folderId) (hlive : resource.deleted = false)
    (hkey : keyPair key = (resource.id, user.id))
    (hrecord : recordPair record = (resource.id, user.id))
    (hsave : ResourceRepo.saveResourceWithDependencies resource key record clocks ctx = .ok ctx') :
    Created folderId user resource.id since ctx' := by
  obtain ⟨drawnIds, rfl⟩ := hdrew
  rw [ResourceRepo.saveResourceWithDependencies, reportAs_eq_ok] at hsave
  simp only [bind_eq_ok, resources_keyed.insert_abort_eq_ok_iff,
    resourceKeys_keyed.insert_abort_eq_ok_iff,
    shareRecords_keyed.insert_abort_eq_ok_iff,
    vectorClocks_keyed.insertAll_abort_eq_ok_iff] at hsave
  obtain ⟨_, ⟨⟨hfree, _, _⟩, rfl⟩, _, ⟨⟨_, _, hreferenced⟩, rfl⟩, _, ⟨_, rfl⟩, _, rfl⟩ :=
    hsave
  have huser : userExists _ key.userId = true := (Bool.and_eq_true_iff.mp hreferenced).2
  have hcreator : key.userId = user.id := congrArg Prod.snd hkey
  rw [hcreator] at huser
  exact
    { wasFree := by
        rw [resourceExists, List.any_eq_false]
        intro other hother heq
        exact hfree (List.mem_map.mpr ⟨other, hother, of_decide_eq_true heq⟩)
      resources := ⟨resource, rfl, rfl, hfolder, hlive⟩
      keys := ⟨key, rfl, hkey⟩
      records := ⟨record, rfl, hrecord⟩
      users := rfl
      folderShareRecords := rfl
      creator := huser }

theorem getResourceByIdDirect_id (env : ServiceEnv) (invariant : RepositoryContext → Prop)
    (resourceId userId : String) :
    Program.Keeps invariant (fun decrypted => decrypted.id = resourceId)
      (getResourceByIdDirect env resourceId userId) := by
  have hfound : Program.Keeps invariant (fun row => row.resource.id = resourceId)
      (query (ResourceRepo.findById resourceId userId)) := by
    refine query_keeps fun ctx row _ hrow => ?_
    unfold ResourceRepo.findById at hrow
    split at hrow
    · next resource key hresource _ =>
        cases hrow
        simpa using List.find?_some hresource
    · cases hrow
  refine .bind hfound fun row hrow => liftCrypto_keeps fun decrypted hdecrypted => ?_
  obtain ⟨_, _, hresult⟩ := bind_eq_ok.mp hdecrypted
  cases hresult
  exact hrow

def CreatedOrNot (folderId : String) (user : User) (since : RepositoryContext)
    (outcome : Except ServiceError DecryptedResource) (ctx : RepositoryContext) : Prop :=
  ((∃ error, outcome = .error error) ∧ OnlyDrew since ctx) ∨
    ∃ resourceId, Created folderId user resourceId since ctx ∧
      ∀ resource, outcome = .ok resource → resource.id = resourceId

theorem createResource_leads (env : ServiceEnv) (payload : JsonText)
    (resourceType : ResourceType) (folderId : String) (user : User)
    (currentDeviceId : String) (since : RepositoryContext) :
    Program.Leads (OnlyDrew since) (CreatedOrNot folderId user since)
      (createResource env payload resourceType folderId user currentDeviceId) := by
  have hfailed (error : ServiceError) (ctx : RepositoryContext) (hdrew : OnlyDrew since ctx) :
      CreatedOrNot folderId user since (.error error) ctx :=
    .inl ⟨⟨error, rfl⟩, hdrew⟩
  have hdraws (count : Nat) : Program.Keeps (OnlyDrew since) (fun _ => True)
      (drawIds env count) :=
    drawIds_keeps (fun _ drawnIds hdrew => hdrew.draw drawnIds) env count
  refine .bind (drawId_drew env) hfailed fun newKey _ => ?_
  refine .bind (liftCrypto_keeps_any _) hfailed fun (encryptedData, encryptedKey) _ => ?_
  refine .bind (drawId_drew env) hfailed fun resourceId _ => ?_
  refine .bind (liftCrypto_keeps_any _) hfailed fun signature _ => ?_
  refine .bind (drawId_drew env) hfailed fun keyId _ => ?_
  refine .bind (query_keeps_any _) hfailed fun encryptedUcanKey _ => ?_
  refine .bind (liftCrypto_keeps_any _) hfailed fun (ucanToken, ucanCid) _ => ?_
  refine .bind (drawId_drew env) hfailed fun recordId _ => ?_
  refine .bind (query_keeps_any _) hfailed fun userDevices _ => ?_
  refine .bind (hdraws _) hfailed fun clockIds _ => ?_
  refine .write_bind hfailed fun ctx ctx' hdrew hsave => ?_
  have hcreated : Created folderId user resourceId since ctx' :=
    saveResourceWithDependencies_created hdrew rfl rfl rfl rfl
      (mapError_eq_ok.mp hsave)
  obtain ⟨hstill, hid⟩ := getResourceByIdDirect_id env
    (Created folderId user resourceId since) resourceId user.id ctx' hcreated
  exact .inr ⟨resourceId, hstill, hid⟩

def recordedRecipients (folderId : String) (ctx : RepositoryContext) : List String :=
  (ctx.folderShareRecords.filter fun record =>
    record.folderId = folderId && record.operationType = .share).map
      FolderShareRecord.recipientUserId

def otherRecipients (folderId : String) (user : User) (ctx : RepositoryContext) :
    List String :=
  (recordedRecipients folderId ctx).filter fun recipient => recipient ≠ user.id

structure SharedWithEach (resourceId : String) (users : List String)
    (ctx ctx' : RepositoryContext) : Prop where
  keys : ∃ new, ctx'.resourceKeys = ctx.resourceKeys ++ new ∧
    (new.map keyPair).Perm (users.map fun user => (resourceId, user))
  records : ∃ new, ctx'.shareRecords = ctx.shareRecords ++ new ∧
    (new.map recordPair).Perm (users.map fun user => (resourceId, user))

def AutoShares (env : ServiceEnv) (resourceId folderId : String) (user : User)
    (ctx : RepositoryContext) : Prop :=
  ∃ ctx', (autoShareResourceWithFolderUsers env resourceId folderId user).run ctx =
      (.ok .unit, ctx') ∧
    SharedWithEach resourceId (otherRecipients folderId user ctx).dedup ctx ctx'

def CanAutoShare (env : ServiceEnv) (resourceId folderId : String) (user : User)
    (ctx : RepositoryContext) : Prop :=
  (otherRecipients folderId user ctx).Nodup ∧
    ∀ recipient ∈ otherRecipients folderId user ctx,
      CanShare env ctx user (autoSharePermissions env resourceId) resourceId recipient

structure NewIn (resourceId folderId : String) (user : User) (ctx : RepositoryContext) :
    Prop where
  resource : resourceExists ctx resourceId = true
  creator : userExists ctx user.id = true
  recipients : ∀ record ∈ ctx.folderShareRecords,
    userExists ctx record.recipientUserId = true
  keys : ∀ recipient ∈ otherRecipients folderId user ctx,
    ResourceKeyRepo.keyFor? ctx resourceId recipient = none

section AutoSharing

variable {env : ServiceEnv} {resourceId folderId : String} {user : User}
variable {ctx : RepositoryContext}

theorem sharedUsers_ids (hrecipients : ∀ record ∈ ctx.folderShareRecords,
    userExists ctx record.recipientUserId = true) :
    ∃ users, FolderShareRepo.getSharedUsers folderId ctx = .ok users ∧
      (users.filter fun other => other.id ≠ user.id).map User.id =
        otherRecipients folderId user ctx := by
  refine ⟨_, rfl, ?_⟩
  rw [otherRecipients, recordedRecipients]
  have hrecords : ∀ record ∈ ctx.folderShareRecords.filter fun record =>
      record.folderId = folderId && record.operationType = .share,
      userExists ctx record.recipientUserId = true :=
    fun record hrecord => hrecipients record (List.mem_of_mem_filter hrecord)
  revert hrecords
  generalize ctx.folderShareRecords.filter (fun record =>
    record.folderId = folderId && record.operationType = .share) = records
  intro hrecords
  induction records with
  | nil => rfl
  | cons record rest ih =>
      obtain ⟨hrecord, hrest⟩ := List.forall_mem_cons.mp hrecords
      obtain ⟨row, hrow⟩ : ∃ row, ctx.users.find? (fun other =>
          other.id = record.recipientUserId) = some row := by
        rw [← Option.isSome_iff_exists, List.find?_isSome]
        exact List.any_eq_true.mp hrecord
      have hid : row.id = record.recipientUserId := by simpa using List.find?_some hrow
      simp only [List.filterMap_cons, hrow, List.map_cons, List.filter_cons, hid]
      split
      · rw [List.map_cons, hid, ih hrest]
      · exact ih hrest

theorem autoShare_outcome (hfresh : FreshIds env.libraries.uuid ctx)
    (hnew : NewIn resourceId folderId user ctx) :
    ∃ data last, Prepared env ctx user ctx.drawnIds
        ((otherRecipients folderId user ctx).map fun recipient => (resourceId, recipient))
        data last ∧
      (((data.map fun item => keyPair item.resourceKey).Nodup ∧ ∃ clocks,
          (autoShareResourceWithFolderUsers env resourceId folderId user).run ctx =
            (.ok .unit, { ctx with
              resourceKeys := ctx.resourceKeys ++ data.map fun item => item.resourceKey
              shareRecords := ctx.shareRecords ++ data.map fun item => item.shareRecord
              vectorClocks := clocks
              drawnIds := last })) ∨
        (¬ (data.map fun item => keyPair item.resourceKey).Nodup ∧ ∃ error,
          (autoShareResourceWithFolderUsers env resourceId folderId user).run ctx =
            (.error error, { ctx with drawnIds := last }))) := by
  obtain ⟨users, hread, hids⟩ := @sharedUsers_ids folderId user ctx hnew.recipients
  have hfree : ∀ other ∈ users.filter fun other => other.id ≠ user.id,
      ResourceKeyRepo.keyFor? ctx resourceId other.id = none :=
    fun other hother => hnew.keys _ (hids ▸ List.mem_map_of_mem hother)
  obtain ⟨data, last, hrun, hprepared⟩ := @prepareForRecipients_run env ctx user resourceId
    (users.filter fun other => other.id ≠ user.id) hfresh.injective hfree ctx.drawnIds
  have htargets : (users.filter fun other => other.id ≠ user.id).map
      (fun other => (resourceId, other.id)) =
        (otherRecipients folderId user ctx).map fun recipient => (resourceId, recipient) := by
    rw [← hids, List.map_map]
    rfl
  rw [htargets] at hprepared
  refine ⟨data, last, hprepared, ?_⟩
  unfold autoShareResourceWithFolderUsers
  rw [query_andThen, hread]
  dsimp only
  have hrun : (prepareForRecipients env resourceId user
      (users.filter fun other => other.id ≠ user.id)).run ctx =
        (.ok data, { ctx with drawnIds := last }) := hrun
  rw [Program.run_bind, hrun, Program.andThen_ok]
  cases data with
  | nil =>
      refine .inl ⟨List.nodup_nil, ctx.vectorClocks, ?_⟩
      simp only [List.map_nil, List.append_nil]
      rfl
  | cons item rest =>
      rw [List.isEmpty_cons, if_neg Bool.false_ne_true, update, Program.run_write]
      have hresources : ∀ target ∈ (otherRecipients folderId user ctx).map fun recipient =>
          (resourceId, recipient), resourceExists ctx target.1 = true := by
        intro target htarget
        obtain ⟨_, _, rfl⟩ := List.mem_map.mp htarget
        exact hnew.resource
      have hsave : ResourceRepo.saveBulkSharingData
          ((item :: rest).map fun data => data.resourceKey)
          ((item :: rest).map fun data => data.shareRecord)
          ((item :: rest).flatMap fun data => data.vectorClocks)
            { ctx with drawnIds := last } =
        reportAs _ (storeShares (item :: rest) { ctx with drawnIds := last }) := rfl
      rw [hsave]
      rcases storeShares_outcome hfresh hresources (fun _ => hnew.creator) hprepared last with
        ⟨hdistinct, clocks, hstored⟩ | ⟨hrepeated, violation, hfailed⟩
      · rw [hstored]
        exact .inl ⟨hdistinct, clocks, rfl⟩
      · rw [hfailed]
        exact .inr ⟨hrepeated, _, rfl⟩

theorem autoShares_iff (hfresh : FreshIds env.libraries.uuid ctx)
    (hnew : NewIn resourceId folderId user ctx) :
    AutoShares env resourceId folderId user ctx ↔
      CanAutoShare env resourceId folderId user ctx := by
  obtain ⟨data, last, hprepared, houtcome⟩ := autoShare_outcome hfresh hnew
  -- Rows for every recipient, as soon as all can be shared with.
  have hevery (hcan : ∀ recipient ∈ otherRecipients folderId user ctx,
      CanShare env ctx user (autoSharePermissions env resourceId) resourceId recipient) :
      (data.map fun item => keyPair item.resourceKey) =
        (otherRecipients folderId user ctx).map fun recipient => (resourceId, recipient) := by
    refine hprepared.keyPairs_of_all fun target htarget => ?_
    obtain ⟨recipient, hrecipient, rfl⟩ := List.mem_map.mp htarget
    exact ⟨hnew.keys recipient hrecipient, hcan recipient hrecipient⟩
  constructor
  · rintro ⟨ctx', hrun, hshared⟩
    rcases houtcome with ⟨hdistinct, clocks, hstored⟩ | ⟨_, error, hfailed⟩
    · cases hrun.symm.trans hstored
      obtain ⟨new, hnewKeys, hperm⟩ := hshared.keys
      obtain rfl := List.append_cancel_left hnewKeys
      rw [List.map_map] at hperm
      have hcan : ∀ recipient ∈ otherRecipients folderId user ctx,
          CanShare env ctx user (autoSharePermissions env resourceId) resourceId
            recipient := by
        intro recipient hrecipient
        have htarget := hperm.mem_iff.mpr
          (List.mem_map.mpr ⟨recipient, List.mem_dedup.mpr hrecipient, rfl⟩)
        have htarget : (resourceId, recipient) ∈ data.map fun item =>
            keyPair item.resourceKey := htarget
        exact (hprepared.mem_keyPairs.mp htarget).2.2
      rw [hevery hcan] at hdistinct
      exact ⟨hdistinct.of_map _, hcan⟩
    · cases hrun.symm.trans hfailed
  · rintro ⟨hdistinct, hcan⟩
    rcases houtcome with ⟨_, clocks, hstored⟩ | ⟨hrepeated, _⟩
    · refine ⟨_, hstored, ⟨_, rfl, ?_⟩, ⟨_, rfl, ?_⟩⟩
      · rw [hdistinct.dedup, List.map_map, ← hevery hcan]
        rfl
      · rw [hdistinct.dedup, List.map_map, ← hevery hcan, ← hprepared.recordPairs]
        rfl
    · refine absurd ?_ hrepeated
      rw [hevery hcan]
      exact hdistinct.map fun recipient other heq => congrArg Prod.snd heq

end AutoSharing

structure ForeignKeys (ctx : RepositoryContext) : Prop where
  keys : ∀ key ∈ ctx.resourceKeys, resourceExists ctx key.resourceId = true
  recipients : ∀ record ∈ ctx.folderShareRecords,
    userExists ctx record.recipientUserId = true

theorem Created.newIn {folderId resourceId : String} {user : User} {ctx : RepositoryContext}
    (hforeign : ForeignKeys since) (hcreated : Created folderId user resourceId since ctx) :
    NewIn resourceId folderId user ctx := by
  obtain ⟨resource, hresources, hid, -, -⟩ := hcreated.resources
  obtain ⟨key, hkeys, hpair⟩ := hcreated.keys
  refine ⟨?_, hcreated.creator, fun record hrecord => ?_, fun recipient hrecipient => ?_⟩
  · exact List.any_eq_true.mpr ⟨resource, by simp [hresources], by simpa using hid⟩
  · rw [hcreated.folderShareRecords] at hrecord
    rw [userExists, hcreated.users]
    exact hforeign.recipients record hrecord
  · rw [keyFor?_eq_none, hkeys, List.map_append, List.mem_append, List.map_singleton,
      List.mem_singleton, hpair]
    rintro (hheld | hcreator)
    · obtain ⟨held, hmem, hheldPair⟩ := List.mem_map.mp hheld
      have hexists := hforeign.keys held hmem
      have hresource : held.resourceId = resourceId := congrArg Prod.fst hheldPair
      rw [hresource, hcreated.wasFree] at hexists
      cases hexists
    · have hother := (List.mem_filter.mp hrecipient).2
      rw [decide_eq_true_eq] at hother
      exact hother (congrArg Prod.snd hcreator)

def createAndShare (env : ServiceEnv) (payload : JsonText) (resourceType : ResourceType)
    (folderId : String) (user : User) (currentDeviceId : String) : Service PUnit := do
  let resource ← createResource env payload resourceType folderId user currentDeviceId
  autoShareResourceWithFolderUsers env resource.id folderId user

/-- Resources are created and folders shared, recipients are merged from peers, or the
rest of the program writes the other tables. -/
inductive SharingEvent where
  | createAndShare (env : ServiceEnv) (payload : JsonText) (resourceType : ResourceType)
      (folderId : String) (user : User) (currentDeviceId : String)
  | shareFolder (env : ServiceEnv) (folderId recipientUserId : String)
      (folderPermissions : List (String × String)) (currentUser : User)
  | addMissingRecipients (env : ServiceEnv) (payload : List FolderRecipientUpdate)
      (missingRemoteResources : List String) (recipientUserId : String) (currentUser : User)
  | processUnknownFoldersPayload (payload : UnknownFoldersPayload)
  | elsewhere (ctx : RepositoryContext)

namespace SharingEvent

def step : SharingEvent → RepositoryContext → RepositoryContext
  | .createAndShare env payload resourceType folderId user currentDeviceId, ctx =>
      ((Services.createAndShare env payload resourceType folderId user
        currentDeviceId).run ctx).2
  | .shareFolder env folderId recipientUserId folderPermissions currentUser, ctx =>
      ((Services.shareFolder env folderId recipientUserId folderPermissions
        currentUser).run ctx).2
  | .addMissingRecipients env payload missingRemoteResources recipientUserId currentUser,
      ctx =>
      ((Services.addMissingRecipients env payload missingRemoteResources recipientUserId
        currentUser).run ctx).2
  | .processUnknownFoldersPayload payload, ctx =>
      ((Services.processUnknownFoldersPayload payload).run ctx).2
  | .elsewhere other, ctx =>
      { other with
        resources := ctx.resources
        resourceKeys := ctx.resourceKeys
        shareRecords := ctx.shareRecords
        folderShareRecords := ctx.folderShareRecords }

def OnCreation
    (holds : ServiceEnv → String → String → User → RepositoryContext → Prop)
    (ctx : RepositoryContext) : SharingEvent → Prop
  | .createAndShare env payload resourceType folderId user currentDeviceId =>
      ∀ resource created,
        (createResource env payload resourceType folderId user currentDeviceId).run ctx =
            (.ok resource, created) →
          holds env resource.id folderId user created
  | _ => True

end SharingEvent

abbrev afterSharing (start : RepositoryContext) (events : List SharingEvent) :
    RepositoryContext :=
  run (fun event ctx => event.step ctx) start events

/-- Auto-sharing does what it is to do for every resource of a run exactly when no
recipient of its folder is recorded twice and each can be given a key. -/
theorem autoShares_throughout_iff {start : RepositoryContext} {events : List SharingEvent}
    (hforeign : ∀ earlier, earlier <+: events → ForeignKeys (afterSharing start earlier))
    (hfresh : ∀ earlier event, earlier ++ [event] <+: events →
      event.OnCreation (fun env _ _ _ ctx => FreshIds env.libraries.uuid ctx)
        (afterSharing start earlier)) :
    (∀ earlier event, earlier ++ [event] <+: events →
        event.OnCreation AutoShares (afterSharing start earlier)) ↔
      ∀ earlier event, earlier ++ [event] <+: events →
        event.OnCreation CanAutoShare (afterSharing start earlier) := by
  refine forall_congr' fun earlier => forall_congr' fun event => forall_congr' fun hearlier => ?_
  have hforeign := hforeign earlier ((List.prefix_append _ _).trans hearlier)
  have hfresh := hfresh earlier event hearlier
  cases event with
  | createAndShare env payload resourceType folderId user currentDeviceId =>
      refine forall_congr' fun resource => forall_congr' fun created =>
        forall_congr' fun hrun => ?_
      have hleads := createResource_leads env payload resourceType folderId user
        currentDeviceId (afterSharing start earlier) _ (.refl _)
      rw [hrun] at hleads
      rcases hleads with ⟨⟨_, herror⟩, _⟩ | ⟨resourceId, hcreated, hid⟩
      · cases herror
      · rw [hid resource rfl]
        exact autoShares_iff (hfresh resource created hrun) (hcreated.newIn hforeign)
  | shareFolder | addMissingRecipients | processUnknownFoldersPayload | elsewhere =>
      exact Iff.rfl

theorem freshIds_tabled {ctx : RepositoryContext}
    (hkeys : ∀ key ∈ ctx.resourceKeys, key.id.length < ctx.drawnIds)
    (hrecords : ∀ record ∈ ctx.shareRecords, record.id.length < ctx.drawnIds)
    (hclocks : ∀ clock ∈ ctx.vectorClocks, clock.id.length < ctx.drawnIds) :
    FreshIds TwoHolders.libraries.uuid ctx := by
  have hlength (position : Nat) : (TwoHolders.libraries.uuid position).length = position := by
    simp [TwoHolders.libraries, Libraries.tabled]
  have hfree {ids : List String} (hids : ∀ id ∈ ids, id.length < ctx.drawnIds)
      (position : Nat) (hposition : ctx.drawnIds ≤ position) :
      TwoHolders.libraries.uuid position ∉ ids := fun hheld => by
    have hshort := hids _ hheld
    rw [hlength] at hshort
    omega
  refine ⟨fun first second hsame => ?_, hfree ?_, hfree ?_, hfree ?_⟩
  · rw [← hlength first, hsame, hlength]
  · simpa using hkeys
  · simpa using hrecords
  · simpa using hclocks

namespace SharedTwice

open TwoHolders

def mergedRecord (id : String) : SharingEvent :=
  .addMissingRecipients (envOf "R")
    [{ folderId := "folder"
       newShareRecords := [FolderShareRecord.prepareFolderShareRecord id 0 "folder" "R" "S"
        .admin "token" "cid"] }] [] "S" (.sample "R")

def creation : SharingEvent :=
  .createAndShare (envOf "R") first .notes "folder" (.sample "R") "dev-R"

def sharing : List SharingEvent := [mergedRecord "1", mergedRecord "2", creation]

def merged : RepositoryContext := afterSharing (store "R") [mergedRecord "1", mergedRecord "2"]

def created : Except ServiceError DecryptedResource × RepositoryContext :=
  (createResource (envOf "R") first .notes "folder" (.sample "R") "dev-R").run merged

theorem foreignKeys {earlier : List SharingEvent} (hearlier : earlier <+: sharing) :
    ForeignKeys (afterSharing (store "R") earlier) := by
  simp only [sharing, List.prefix_cons_iff, List.prefix_nil] at hearlier
  rcases hearlier with rfl | ⟨_, rfl, rfl | ⟨_, rfl, rfl | ⟨_, rfl, rfl⟩⟩⟩
  all_goals exact ⟨by decide +kernel, by decide +kernel⟩

theorem fresh_created : FreshIds libraries.uuid created.2 :=
  freshIds_tabled (by decide +kernel) (by decide +kernel) (by decide +kernel)

end SharedTwice

open SharedTwice in
theorem autoShares_throughout_iff_sharedTwice :
    (∀ earlier event, earlier ++ [event] <+: sharing →
        event.OnCreation AutoShares (afterSharing (TwoHolders.store "R") earlier)) ↔
      ∀ earlier event, earlier ++ [event] <+: sharing →
        event.OnCreation CanAutoShare (afterSharing (TwoHolders.store "R") earlier) := by
  refine autoShares_throughout_iff (fun earlier => foreignKeys) fun earlier event hearlier => ?_
  refine @EachEvent.of_prefix _ (fun earlier event =>
    event.OnCreation (fun env _ _ _ ctx => FreshIds env.libraries.uuid ctx)
      (afterSharing (TwoHolders.store "R") earlier)) [] sharing earlier event
        ⟨trivial, trivial, fun resource ctx hrun => ?_, trivial⟩ hearlier
  have hctx : created.2 = ctx := congrArg Prod.snd hrun
  exact hctx ▸ fresh_created

open SharedTwice in
/-- The second record of `S` keeps everyone from getting a key. -/
theorem not_autoShares_sharedTwice :
    ¬ ∀ earlier event, earlier ++ [event] <+: sharing →
      event.OnCreation AutoShares (afterSharing (TwoHolders.store "R") earlier) := by
  intro hshares
  have hcreated : created.1.isOk = true := by decide +kernel
  obtain ⟨resource, hresource⟩ : ∃ resource, created.1 = .ok resource := by
    cases hresult : created.1 with
    | ok resource => exact ⟨resource, rfl⟩
    | error error => simp [hresult, Except.isOk, Except.toBool] at hcreated
  obtain ⟨ctx', hrun, _⟩ := hshares [mergedRecord "1", mergedRecord "2"] creation
    List.prefix_rfl resource created.2 (by rw [← hresource]; rfl)
  have hid : created.1.toOption.map (fun resource => resource.id) = some "i" := by
    decide +kernel
  rw [hresource] at hid
  have hid : resource.id = "i" := Option.some.inj hid
  rw [hid] at hrun
  have hfails : ((autoShareResourceWithFolderUsers (TwoHolders.envOf "R") "i" "folder"
      (.sample "R")).run created.2).1.isOk = false := by
    decide +kernel
  rw [hrun] at hfails
  cases hfails

end Osvauld.Services
