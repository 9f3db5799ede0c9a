import Osvauld.Persistance.Holdings
import Osvauld.Services.AuthCalls
import Osvauld.Services.ConcurrentEdits
import Osvauld.Services.FolderService
import Osvauld.Services.SyncService

namespace Osvauld.Services

open Osvauld.Core CryptoUtils Data Persistance

/-! What the services do to resources and to the keys they are sealed with. -/

theorem decryptAesKey_eq_ok {cert : Option String} {encryptedKey : PgpText} {key : String} :
    decryptAesKey cert encryptedKey = .ok key ↔
      ∃ publicKey, cert = some publicKey ∧ encryptedKey = .sealed publicKey key := by
  cases cert with
  | none => simp [decryptAesKey, getCert, bind, Except.bind]
  | some publicKey =>
      cases encryptedKey with
      | other text => simp [decryptAesKey, getCert, bind, Except.bind, decryptTextPgp]
      | sealed recipient plain =>
          by_cases hrecipient : recipient = publicKey <;>
            simp [decryptAesKey, getCert, bind, Except.bind, decryptTextPgp, hrecipient]

def Rewraps (ctx : RepositoryContext) (key : ResourceKey) : Prop :=
  ∃ held ∈ ctx.resourceKeys, ∃ recipient ∈ ctx.users, ∃ publicKey secret,
    held.resourceId = key.resourceId ∧ held.encryptedKey = .sealed publicKey secret ∧
      recipient.id = key.userId ∧ key.encryptedKey = .sealed recipient.publicKey secret

section Steps

variable {since : RepositoryContext} (env : ServiceEnv)

theorem drawId_addsNone :
    Program.Keeps (AddsNone since) (fun _ => True) (drawId env) :=
  drawId_keeps (fun _ drawnIds hnone => hnone.draw drawnIds) env

theorem drawIds_addsNone (count : Nat) :
    Program.Keeps (AddsNone since) (fun _ => True) (drawIds env count) :=
  drawIds_keeps (fun _ drawnIds hnone => hnone.draw drawnIds) env count

variable {invariant : RepositoryContext → Prop}

theorem getResourceByIdDirect_keeps (resourceId userId : String) :
    Program.Keeps invariant (fun _ => True)
      (getResourceByIdDirect env resourceId userId) :=
  .bind (query_keeps_any _) fun _ _ => liftCrypto_keeps_any _

theorem encryptKeyWithNewPubKey_eq_ok {encryptedKey newKey : PgpText} {publicKey : String}
    (hencrypt : encryptKeyWithNewPubKey env.libraries env.cert encryptedKey publicKey =
      .ok newKey) :
    ∃ heldBy secret, encryptedKey = .sealed heldBy secret ∧
      newKey = .sealed publicKey secret := by
  obtain ⟨secret, hsecret, hnew⟩ := bind_eq_ok.mp hencrypt
  obtain ⟨heldBy, _, hheld⟩ := decryptAesKey_eq_ok.mp hsecret
  exact ⟨heldBy, secret, hheld, encryptTextPgp_eq_ok hnew⟩

theorem prepareShareResource_keeps (recipientUserId resourceId : String)
    (permissions : List (String × String)) (currentUser : User) :
    Program.Keeps (AddsNone since)
      (fun prepared => ∀ data, prepared = some data → Rewraps since data.resourceKey)
      (prepareShareResource env recipientUserId resourceId permissions currentUser) := by
  have hheld : Program.Keeps (AddsNone since)
      (fun held => held ∈ since.resourceKeys ∧ held.resourceId = resourceId)
      (query (ResourceKeyRepo.findByResourceAndUser resourceId currentUser.id)) := by
    refine query_keeps fun ctx held hctx hfind => ?_
    obtain ⟨hmem, hfor⟩ := find_eq_ok hfind
    simp only [Bool.and_eq_true, decide_eq_true_eq] at hfor
    exact ⟨hctx.mem_resourceKeys hmem, hfor.1⟩
  have hrecipient : Program.Keeps (AddsNone since)
      (fun recipient => recipient ∈ since.users ∧ recipient.id = recipientUserId)
      (query (UserRepo.getUserById recipientUserId)) := by
    refine query_keeps fun ctx recipient hctx hfind => ?_
    obtain ⟨hmem, hid⟩ := find_eq_ok hfind
    exact ⟨hctx.users ▸ hmem, by simpa using hid⟩
  refine .bind (Program.Keeps.attempt (query_keeps_any _)) fun shared _ => ?_
  refine .ite (.pure fun data hdata => by cases hdata) ?_
  refine .bind hheld fun held ⟨hkey, hresource⟩ => ?_
  refine .bind (query_keeps_any _) fun delegator _ => ?_
  refine .bind hrecipient fun recipient ⟨huser, hid⟩ => ?_
  refine .bind (liftCrypto_keeps fun newKey hencrypt =>
    encryptKeyWithNewPubKey_eq_ok env hencrypt) fun newKey hnewKey => ?_
  refine .bind (drawId_addsNone env) fun keyId _ => ?_
  refine .bind (query_keeps_any _) fun encryptedUcanKey _ => ?_
  refine .bind (query_keeps_any _) fun owner _ => ?_
  refine .bind (.read fun _ _ _ _ => trivial) fun issued _ => ?_
  refine .bind (drawId_addsNone env) fun recordId _ => ?_
  refine .bind (query_keeps_any _) fun devices _ => ?_
  refine .bind (drawIds_addsNone env _) fun clockIds _ => .pure fun data hdata => ?_
  cases hdata
  obtain ⟨heldBy, secret, hsealed, rfl⟩ := hnewKey
  exact ⟨held, hkey, recipient, huser, heldBy, secret, hresource, hsealed, hid, rfl⟩

abbrev Shares (ctx ctx' : RepositoryContext) : Prop :=
  Adds (fun _ => False) (Rewraps ctx) ctx ctx'

theorem shareResource_ends (recipientUserId resourceId : String)
    (permissions : List (String × String)) (currentUser : User) :
    Program.Ends (AddsNone since) (Shares since)
      (shareResource env recipientUserId resourceId permissions currentUser) := by
  refine .bind (prepareShareResource_keeps env _ _ _ _) (fun _ => Adds.of_none)
    fun prepared hprepared => ?_
  cases prepared with
  | none => exact .pure (fun _ => Adds.of_none) _
  | some data =>
      exact update_ends (fun _ => Adds.of_none) fun ctx ctx' hnone hshare =>
        (Adds.of_none hnone).trans (.shareResourceTransaction (hprepared data rfl) hshare)

def AllRewrap (ctx : RepositoryContext) (sharingData : List ResourceSharingData) : Prop :=
  ∀ key ∈ sharingData.map fun data => data.resourceKey, Rewraps ctx key

theorem AllRewrap.cons {ctx : RepositoryContext} {data : ResourceSharingData}
    {others : List ResourceSharingData} (hdata : Rewraps ctx data.resourceKey)
    (hothers : AllRewrap ctx others) : AllRewrap ctx (data :: others) := by
  unfold AllRewrap at hothers ⊢
  rw [List.map_cons, List.forall_mem_cons]
  exact ⟨hdata, hothers⟩

theorem prepareResources_keeps (recipientUserId : String) (currentUser : User)
    (resourceIds : List String) :
    Program.Keeps (AddsNone since) (AllRewrap since)
      (prepareResources env recipientUserId currentUser resourceIds) := by
  induction resourceIds with
  | nil => exact .pure fun key hkey => by cases hkey
  | cons resourceId rest ih =>
      refine .bind (prepareShareResource_keeps env _ _ _ _) fun prepared hprepared => ?_
      refine .bind ih fun others hothers => ?_
      cases prepared with
      | none => exact .pure hothers
      | some data => exact .pure (.cons (hprepared data rfl) hothers)

theorem prepareForRecipients_keeps (resourceId : String) (currentUser : User)
    (recipients : List User) :
    Program.Keeps (AddsNone since) (AllRewrap since)
      (prepareForRecipients env resourceId currentUser recipients) := by
  induction recipients with
  | nil => exact .pure fun key hkey => by cases hkey
  | cons recipient rest ih =>
      refine .bind (Program.Keeps.attempt (prepareShareResource_keeps env _ _ _ _))
        fun prepared hprepared => ?_
      refine .bind ih fun others hothers => ?_
      split
      · next data => exact .pure (.cons (hprepared _ rfl data rfl) hothers)
      · exact .pure hothers

theorem autoShareResourceWithFolderUsers_ends (resourceId folderId : String)
    (currentUser : User) :
    Program.Ends (AddsNone since) (Shares since)
      (autoShareResourceWithFolderUsers env resourceId folderId currentUser) := by
  refine .bind (query_keeps_any _) (fun _ => Adds.of_none) fun sharedUsers _ => ?_
  refine .bind (prepareForRecipients_keeps env _ _ _) (fun _ => Adds.of_none)
    fun sharingData hdata => .ite (.pure (fun _ => Adds.of_none) _) ?_
  exact update_ends (fun _ => Adds.of_none) fun ctx ctx' hnone hsave =>
    (Adds.of_none hnone).trans (.saveBulkSharingData hdata hsave)

theorem requireRecord_keeps (record : Option FolderShareRecord) :
    Program.Keeps invariant (fun _ => True) (requireRecord record) := by
  cases record with
  | none => exact .fail _
  | some record => exact .pure trivial

theorem shareFolder_ends (folderId recipientUserId : String)
    (folderPermissions : List (String × String)) (currentUser : User) :
    Program.Ends (AddsNone since) (Shares since)
      (shareFolder env folderId recipientUserId folderPermissions currentUser) := by
  have hstill : ∀ ctx, AddsNone since ctx → Shares since ctx := fun _ => Adds.of_none
  refine .bind (.mapError _ (query_keeps_any _)) hstill fun folder _ => ?_
  refine .bind (query_keeps_any _) hstill fun existing _ => .ite (.pure hstill _) ?_
  refine .bind (requireRecord_keeps _) hstill fun ownShare _ => ?_
  refine .bind (query_keeps_any _) hstill fun encryptedKey _ => ?_
  refine .bind (requireRecord_keeps _) hstill fun ownerShare _ => ?_
  refine .bind (query_keeps_any _) hstill fun folderOwner _ => ?_
  refine .bind (query_keeps_any _) hstill fun recipientUser _ => ?_
  refine .bind (.read fun _ _ _ _ => trivial) hstill fun issued _ => ?_
  refine .bind (drawId_addsNone env) hstill fun recordId _ => ?_
  refine .bind (query_keeps_any _) hstill fun resourceIds _ => ?_
  refine .bind (prepareResources_keeps env _ _ _) hstill fun sharingData hdata => ?_
  exact update_ends hstill fun ctx ctx' hnone hshare =>
    (Adds.of_none hnone).trans (.shareFolderTransaction hdata hshare)

theorem addMissingRecipients_ends (payload : List FolderRecipientUpdate)
    (missingRemoteResources : List String) (recipientUserId : String)
    (currentUser : User) :
    Program.Ends (AddsNone since) (Shares since)
      (addMissingRecipients env payload missingRemoteResources recipientUserId
        currentUser) := by
  refine .bind (query_keeps_any _) (fun _ => Adds.of_none) fun resourceIds _ => ?_
  refine .bind (prepareResources_keeps env _ _ _) (fun _ => Adds.of_none)
    fun sharingData hdata => ?_
  exact update_ends (fun _ => Adds.of_none) fun ctx ctx' hnone hsave =>
    (Adds.of_none hnone).trans (.saveResourceAndFolderSharingData hdata hsave)

structure Creates (payload : JsonText) (user : User) (row : Resource) (newKey : String)
    (ctx ctx' : RepositoryContext) : Prop where
  resources : ctx'.resources = ctx.resources ++ [row]
  data : row.data = .sealed newKey payload
  adds : Adds (fun other => other = row)
    (fun key => key.resourceId = row.id ∧
      key.encryptedKey = .sealed user.publicKey newKey ∧ key.userId = user.id) ctx ctx'

theorem saveResourceWithDependencies_resources {row : Resource} {key : ResourceKey}
    {shareRecord : ShareRecord} {clocks : List ResourceVectorClock}
    {ctx ctx' : RepositoryContext}
    (hsave : ResourceRepo.saveResourceWithDependencies row key shareRecord clocks ctx =
      .ok ctx') : ctx'.resources = ctx.resources ++ [row] := by
  simp only [ResourceRepo.saveResourceWithDependencies, reportAs_eq_ok, bind_eq_ok] at hsave
  obtain ⟨_, hresource, afterKey, hkey, afterShare, hshare, hclocks⟩ := hsave
  obtain ⟨_, rfl⟩ := Table.insert_abort_eq_ok hresource
  obtain ⟨_, rfl⟩ := Table.insert_abort_eq_ok hkey
  obtain ⟨_, rfl⟩ := Table.insert_abort_eq_ok hshare
  exact AddsNone.resources_eq (.insertAll_vectorClocks hclocks)

theorem encryptDataForUser_eq_ok {libraries : Libraries} {newKey publicKey : String}
    {payload : JsonText} {encrypted : AesText × PgpText}
    (hencrypt : encryptDataForUser libraries newKey payload publicKey = .ok encrypted) :
    encrypted = (.sealed newKey payload, .sealed publicKey newKey) := by
  obtain ⟨encryptedKey, hkey, hpair⟩ := bind_eq_ok.mp hencrypt
  cases hpair
  rw [encryptTextPgp_eq_ok hkey]

theorem createResource_ends (payload : JsonText) (resourceType : ResourceType)
    (folderId : String) (user : User) (currentDeviceId : String) :
    Program.Ends (AddsNone since)
      (fun ctx => AddsNone since ctx ∨
        ∃ row newKey, Creates payload user row newKey since ctx)
      (createResource env payload resourceType folderId user currentDeviceId) := by
  refine .bind (drawId_addsNone env) (fun _ => .inl) fun newKey _ => ?_
  refine .bind (liftCrypto_keeps fun _ => encryptDataForUser_eq_ok) (fun _ => .inl)
    fun encrypted hencrypted => ?_
  cases hencrypted
  refine .bind (drawId_addsNone env) (fun _ => .inl) fun resourceId _ => ?_
  refine .bind (liftCrypto_keeps_any _) (fun _ => .inl) fun signature _ => ?_
  refine .bind (drawId_addsNone env) (fun _ => .inl) fun keyId _ => ?_
  refine .bind (query_keeps_any _) (fun _ => .inl) fun encryptedUcanKey _ => ?_
  refine .bind (liftCrypto_keeps_any _) (fun _ => .inl) fun issued _ => ?_
  refine .bind (drawId_addsNone env) (fun _ => .inl) fun recordId _ => ?_
  refine .bind (query_keeps_any _) (fun _ => .inl) fun userDevices _ => ?_
  refine .bind (drawIds_addsNone env _) (fun _ => .inl) fun clockIds _ => ?_
  refine .andKeeps (update_ends (fun _ => .inl) fun ctx ctx' hnone hsave => .inr ?_)
    fun _ => getResourceByIdDirect_keeps env _ _
  exact ⟨_, newKey, by rw [saveResourceWithDependencies_resources hsave,
    hnone.resources_eq], rfl, (Adds.of_none hnone).trans
      (.saveResourceWithDependencies rfl ⟨rfl, rfl, rfl⟩ hsave)⟩

def Copied (ctx : RepositoryContext) (payload : ResourceSyncData) : Prop :=
  payload.resource ∈ ctx.resources ∧ ∀ key ∈ payload.resourceKeys,
    key ∈ ctx.resourceKeys ∧ key.resourceId = payload.resource.id

theorem getResourceSyncData_copied {resourceId : String} {ctx : RepositoryContext}
    {payload : ResourceSyncData}
    (hread : ResourceRepo.getResourceSyncData resourceId ctx = .ok payload) :
    Copied ctx payload := by
  unfold ResourceRepo.getResourceSyncData at hread
  split at hread
  · cases hread
  · next resource hresource =>
      cases hread
      obtain rfl : resource.id = resourceId := by simpa using List.find?_some hresource
      exact ⟨List.mem_of_find?_eq_some hresource, fun key hkey => by simpa using hkey⟩

theorem getResourceForRemoteAddition_keeps (resourceId : String) (device : Device) :
    Program.Keeps (AddsNone since) (Copied since)
      (getResourceForRemoteAddition env resourceId device) := by
  refine .bind (drawIds_addsNone env _) fun clockId _ => ?_
  refine .bind (update_keeps fun ctx ctx' hnone hsave =>
    hnone.trans (.saveVectorClock hsave)) fun _ _ => ?_
  refine query_keeps fun ctx payload hnone hread => ?_
  obtain ⟨hresource, hkeys⟩ := getResourceSyncData_copied hread
  exact ⟨hnone.resources_eq ▸ hresource,
    fun key hkey => (hkeys key hkey).imp_left hnone.mem_resourceKeys⟩

theorem placeReceived_keeps (connectionType : ConnectionType) (payload : ResourceSyncData) :
    Program.Keeps invariant
      (fun placed => placed.resource.id = payload.resource.id ∧
        placed.resource.data = payload.resource.data ∧
          placed.resourceKeys = payload.resourceKeys)
      (placeReceived connectionType payload) := by
  cases connectionType with
  | device => exact .pure ⟨rfl, rfl, rfl⟩
  | user =>
      refine .bind (Program.Keeps.attempt (query_keeps_any _)) fun found _ => ?_
      split
      · refine .bind (Program.Keeps.attempt (query_keeps_any _)) fun created _ => ?_
        refine .ite (.pure ⟨rfl, rfl, rfl⟩) ?_
        exact .bind (.mapError _ (query_keeps_any _)) fun _ _ => .pure ⟨rfl, rfl, rfl⟩
      · exact .pure ⟨rfl, rfl, rfl⟩

abbrev Receives (payload : ResourceSyncData) : RepositoryContext → RepositoryContext → Prop :=
  Adds (fun row => row.id = payload.resource.id ∧ row.data = payload.resource.data)
    fun key => key ∈ payload.resourceKeys

theorem addResourceSync_ends (payload : ResourceSyncData) (connectionType : ConnectionType) :
    Program.Ends (AddsNone since) (Receives payload since)
      (addResourceSync payload connectionType) := by
  refine .bind (placeReceived_keeps _ _) (fun _ => Adds.of_none)
    fun placed ⟨hid, hdata, hkeys⟩ => ?_
  exact update_ends (fun _ => Adds.of_none) fun ctx ctx' hnone hsave =>
    (Adds.of_none hnone).trans
      (.saveResourceSyncData ⟨hid, hdata⟩ (fun key hkey => hkeys ▸ hkey) hsave)

end Steps

structure Rewrites (resourceId : String) (data : AesText)
    (ctx ctx' : RepositoryContext) : Prop where
  users : ctx'.users = ctx.users
  resources : ∀ row ∈ ctx'.resources, ∃ old ∈ ctx.resources, old.id = row.id ∧
    row.data = if row.id = resourceId then data else old.data
  resourceKeys : ∀ key ∈ ctx'.resourceKeys, key ∈ ctx.resourceKeys

theorem Rewrites.of_update {now : Int} {resourceId : String} {data : AesText}
    {ctx ctx' : RepositoryContext}
    (hupdate : ResourceRepo.updateResource now data resourceId ctx = .ok ctx') :
    Rewrites resourceId data ctx ctx' := by
  cases hupdate
  refine ⟨rfl, fun row hrow => ?_, fun key hkey => hkey⟩
  obtain ⟨old, hold, rfl⟩ := List.mem_map.mp hrow
  refine ⟨old, hold, ?_⟩
  by_cases hid : old.id = resourceId <;> simp [hid, ResourceRepo.setData]

theorem Rewrites.followed {resourceId : String} {data : AesText}
    {ctx written ctx' : RepositoryContext} (hrewrites : Rewrites resourceId data ctx written)
    (hnone : AddsNone written ctx') : Rewrites resourceId data ctx ctx' :=
  ⟨hnone.users.trans hrewrites.users,
    fun row hrow => hrewrites.resources row (hnone.resources_eq ▸ hrow),
    fun key hkey => hrewrites.resourceKeys key (hnone.mem_resourceKeys hkey)⟩

def mergedText (env : ServiceEnv) (row : ResourceWithKey) (updates : JsonText) :
    Option JsonText := do
  let resource ← (decryptSingleResource env row).toOption
  let (merged, _) ← (resource.syncUpdates env.libraries.yrs updates).toOption
  some (.encoded merged.data)

def Edit.textFor (env : ServiceEnv) (row : ResourceWithKey) : Edit → Option JsonText
  | .updateResource data _ => some data
  | .applyUpdates updates => mergedText env row updates
  | .applyUpdatesAndGetPeerUpdates updates => mergedText env row updates

def EditCall.writes (call : EditCall) (ctx : RepositoryContext) : Option JsonText := do
  let row ← (ResourceRepo.findById call.resourceId call.userId ctx).toOption
  let _ ← (decryptAesKey call.env.cert row.encryptedKey).toOption
  call.edit.textFor call.env row

/-- What an edit makes of the store: what it writes is sealed with the key that
the row of the user holds. -/
inductive Edits (call : EditCall) (ctx ctx' : RepositoryContext) : Prop
  | written (plain : JsonText) (row : ResourceWithKey) (key : String) :
      call.writes ctx = some plain →
      ResourceRepo.findById call.resourceId call.userId ctx = .ok row →
      decryptAesKey call.env.cert row.encryptedKey = .ok key →
      Rewrites call.resourceId (.sealed key plain) ctx ctx' → Edits call ctx ctx'
  | nothing : call.writes ctx = none → AddsNone ctx ctx' → Edits call ctx ctx'

section Edits

variable (env : ServiceEnv) (resourceId userId : String)

theorem afterUpdate_keeps {since : RepositoryContext} (currentDeviceId : String) :
    Program.Keeps (AddsNone since) (fun _ => True) (do
      let clockId ← drawId env
      update (VectorClockRepo.incrementVectorClock clockId env.now resourceId
        currentDeviceId)
      getResourceByIdDirect env resourceId userId : Service DecryptedResource) :=
  .bind (drawId_addsNone env) fun _ _ =>
    .bind (update_keeps fun _ _ hnone hincrement =>
      hnone.trans (.incrementVectorClock hincrement)) fun _ _ =>
        getResourceByIdDirect_keeps env _ _

variable {ctx : RepositoryContext} {row : ResourceWithKey} {key : String}
variable (hfind : ResourceRepo.findById resourceId userId ctx = .ok row)
variable (hkey : decryptAesKey env.cert row.encryptedKey = .ok key)

include hfind hkey

theorem updateResource_rewrites (data : JsonText) (currentDeviceId : String) :
    Rewrites resourceId (.sealed key data) ctx
      ((updateResource env resourceId data userId currentDeviceId).run ctx).2 := by
  have hencrypt : CryptoUtils.updateResource env.cert data row.encryptedKey =
      .ok (.sealed key data) := by
    simp [CryptoUtils.updateResource, hkey, bind, Except.bind, pure, Except.pure]
  unfold updateResource
  simp only [Program.run_bind, query, Program.run_read, hfind, Except.mapError,
    Program.andThen_ok, liftCrypto, Program.run_ofExcept, hencrypt]
  have hwritten : Rewrites resourceId (.sealed key data) ctx _ :=
    @Rewrites.of_update env.now _ _ _ _ rfl
  refine hwritten.followed ?_
  exact (afterUpdate_keeps env resourceId userId currentDeviceId _ (.refl _)).1

theorem applyUpdatesAndGetPeerUpdates_rewrites {updates plain : JsonText}
    (hmerged : mergedText env row updates = some plain) :
    Rewrites resourceId (.sealed key plain) ctx
      ((applyUpdatesAndGetPeerUpdates env resourceId userId updates).run ctx).2 := by
  unfold mergedText at hmerged
  cases hdecrypt : decryptSingleResource env row with
  | error error => simp [hdecrypt, Except.toOption] at hmerged
  | ok resource =>
      cases hsync : resource.syncUpdates env.libraries.yrs updates with
      | error message => simp [hdecrypt, hsync, Except.toOption] at hmerged
      | ok result =>
          obtain rfl : .encoded result.1.data = plain := by
            simpa [hdecrypt, hsync, Except.toOption] using hmerged
          have hencrypt : CryptoUtils.updateResource env.cert (.encoded result.1.data)
              row.encryptedKey = .ok (.sealed key (.encoded result.1.data)) := by
            simp [CryptoUtils.updateResource, hkey, bind, Except.bind, pure, Except.pure]
          unfold applyUpdatesAndGetPeerUpdates getResource
          simp only [Program.run_bind, query, Program.run_read, hfind, Except.mapError,
            Program.andThen_ok, liftCrypto, Program.run_ofExcept, hdecrypt,
            Program.run_pure, liftParse, hsync, hencrypt]
          exact .of_update rfl

omit hkey in
theorem applyUpdatesAndGetPeerUpdates_idle {updates : JsonText}
    (hmerged : mergedText env row updates = none) :
    ((applyUpdatesAndGetPeerUpdates env resourceId userId updates).run ctx).2 = ctx := by
  unfold mergedText at hmerged
  unfold applyUpdatesAndGetPeerUpdates getResource
  cases hdecrypt : decryptSingleResource env row with
  | error error => simp [query, hfind, liftCrypto, hdecrypt, Except.mapError]
  | ok resource =>
      cases hsync : resource.syncUpdates env.libraries.yrs updates with
      | error message =>
          simp [query, hfind, liftCrypto, hdecrypt, liftParse, hsync, Except.mapError]
      | ok result => simp [hdecrypt, hsync, Except.toOption] at hmerged

end Edits

namespace EditCall

theorem run_applyUpdates (env : ServiceEnv) (resourceId userId : String)
    (updates : JsonText) (ctx : RepositoryContext) :
    ((applyUpdates env resourceId updates userId).run ctx).2 =
      ((applyUpdatesAndGetPeerUpdates env resourceId userId updates).run ctx).2 := by
  unfold applyUpdates
  rw [Program.run_bind]
  rcases (applyUpdatesAndGetPeerUpdates env resourceId userId updates).run ctx with
    ⟨outcome | outcome, after⟩ <;> rfl

theorem run_body (call : EditCall) (ctx : RepositoryContext) :
    (call.body.run ctx).2 = match call.edit with
      | .updateResource data currentDeviceId =>
          ((updateResource call.env call.resourceId data call.userId
            currentDeviceId).run ctx).2
      | .applyUpdates updates | .applyUpdatesAndGetPeerUpdates updates =>
          ((applyUpdatesAndGetPeerUpdates call.env call.resourceId call.userId
            updates).run ctx).2 := by
  obtain ⟨env, resourceId, userId, edit⟩ := call
  cases edit with
  | updateResource data currentDeviceId =>
      simp only [body, Program.run_bind]
      rcases (updateResource env resourceId data userId currentDeviceId).run ctx with
        ⟨outcome | outcome, after⟩ <;> rfl
  | applyUpdates updates => exact run_applyUpdates env resourceId userId updates ctx
  | applyUpdatesAndGetPeerUpdates updates =>
      simp only [body, Program.run_bind]
      rcases (applyUpdatesAndGetPeerUpdates env resourceId userId updates).run ctx with
        ⟨outcome | outcome, after⟩ <;> rfl

theorem body_edits (call : EditCall) (ctx : RepositoryContext) :
    Edits call ctx (call.body.run ctx).2 := by
  rw [run_body]
  obtain ⟨env, resourceId, userId, edit⟩ := call
  cases hfind : ResourceRepo.findById resourceId userId ctx with
  | error error =>
      refine .nothing (by simp [writes, hfind, Except.toOption]) ?_
      cases edit <;>
        simpa [updateResource, applyUpdatesAndGetPeerUpdates, getResource, query, hfind,
          Except.mapError] using .refl ctx
  | ok row =>
      cases hkey : decryptAesKey env.cert row.encryptedKey with
      | error error =>
          have hdecrypt : decryptSingleResource env row = .error error := by
            simp [decryptSingleResource, decryptResource, hkey, bind, Except.bind]
          have hencrypt : ∀ data, CryptoUtils.updateResource env.cert data
              row.encryptedKey = .error error := by
            simp [CryptoUtils.updateResource, hkey, bind, Except.bind]
          refine .nothing (by simp [writes, hfind, hkey, Except.toOption]) ?_
          cases edit <;>
            simpa [updateResource, applyUpdatesAndGetPeerUpdates, getResource, query,
              liftCrypto, hfind, hdecrypt, hencrypt, Except.mapError] using .refl ctx
      | ok key =>
          cases htext : edit.textFor env row with
          | none =>
              refine .nothing (by simp [writes, hfind, hkey, htext, Except.toOption]) ?_
              cases edit with
              | updateResource data currentDeviceId => cases htext
              | applyUpdates updates | applyUpdatesAndGetPeerUpdates updates =>
                  simp only [applyUpdatesAndGetPeerUpdates_idle env resourceId userId hfind
                    htext]
                  exact .refl ctx
          | some plain =>
              refine .written plain row key
                (by simp [writes, hfind, hkey, htext, Except.toOption]) hfind hkey ?_
              cases edit with
              | updateResource data currentDeviceId =>
                  cases htext
                  exact updateResource_rewrites env resourceId userId hfind hkey plain
                    currentDeviceId
              | applyUpdates updates | applyUpdatesAndGetPeerUpdates updates =>
                  exact applyUpdatesAndGetPeerUpdates_rewrites env resourceId userId hfind
                    hkey htext

end EditCall

end Osvauld.Services
