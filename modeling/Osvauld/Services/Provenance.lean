import Osvauld.Services.Growth
import Osvauld.Services.UpdateAuthority

namespace Osvauld.Services

open Osvauld.Core CryptoUtils Data Persistance

/-! How the share records that are made here come about. -/

def SeenBy {α : Type} (read : RepositoryContext → Except RepositoryError α)
    (value : α) (ctx : RepositoryContext) : Prop :=
  ∃ past, Grows past ctx ∧ read past = .ok value

theorem SeenBy.mono {α : Type}
    {read : RepositoryContext → Except RepositoryError α} {value : α}
    {ctx ctx' : RepositoryContext} (hseen : SeenBy read value ctx)
    (hgrows : Grows ctx ctx') : SeenBy read value ctx' := by
  obtain ⟨past, hpast, hread⟩ := hseen
  exact ⟨past, hpast.trans hgrows, hread⟩

structure MadeByOwner (env : ServiceEnv) (user : User) (record : ShareRecord)
    (ctx : RepositoryContext) : Prop where
  sharer_eq : record.sharedByUserId = user.id
  recipient_eq : record.recipientUserId = user.id
  issued : ∃ encryptedKey, SeenBy StoreRepo.getUcanKey encryptedKey ctx ∧
    resourceOwnerUcan env.libraries env.cert env.now encryptedKey record.resourceId
      env.domain = .ok (record.ucanToken, record.ucanCid)

structure MadeByDelegation (env : ServiceEnv)
    (recipientUserId resourceId : String) (permissions : List (String × String))
    (currentUser : User) (record : ShareRecord) (ctx : RepositoryContext) :
    Prop where
  resource_eq : record.resourceId = resourceId
  sharer_eq : record.sharedByUserId = currentUser.id
  recipient_eq : record.recipientUserId = recipientUserId
  issued : ∃ delegator recipient owner encryptedKey past,
    SeenBy (ShareRepo.findByResourceAndOperationAndUser resourceId .share
        currentUser.id) delegator ctx ∧
      SeenBy (UserRepo.getUserById recipientUserId) recipient ctx ∧
      SeenBy (ResourceRepo.findOwnerByResourceId resourceId) owner ctx ∧
      SeenBy StoreRepo.getUcanKey encryptedKey ctx ∧ Grows past ctx ∧
      issueDelegatedResourceUcan env.libraries env.cert env.now
        (resolveProof past) env.fuel encryptedKey delegator.ucanToken
        owner.ucanPubKey resourceId recipient.ucanPubKey permissions =
          some (.ok (record.ucanToken, record.ucanCid))

theorem MadeByOwner.mono {env : ServiceEnv} {user : User} {record : ShareRecord}
    {ctx ctx' : RepositoryContext} (hmade : MadeByOwner env user record ctx)
    (hgrows : Grows ctx ctx') : MadeByOwner env user record ctx' := by
  obtain ⟨encryptedKey, hkey, hissued⟩ := hmade.issued
  exact { hmade with issued := ⟨encryptedKey, hkey.mono hgrows, hissued⟩ }

theorem MadeByDelegation.mono {env : ServiceEnv}
    {recipientUserId resourceId : String} {permissions : List (String × String)}
    {currentUser : User} {record : ShareRecord} {ctx ctx' : RepositoryContext}
    (hmade : MadeByDelegation env recipientUserId resourceId permissions currentUser
      record ctx) (hgrows : Grows ctx ctx') :
    MadeByDelegation env recipientUserId resourceId permissions currentUser record
      ctx' := by
  obtain ⟨delegator, recipient, owner, encryptedKey, past, hdelegator, hrecipient,
    howner, hkey, hpast, hissued⟩ := hmade.issued
  exact { hmade with
    issued := ⟨delegator, recipient, owner, encryptedKey, past,
      hdelegator.mono hgrows, hrecipient.mono hgrows, howner.mono hgrows,
      hkey.mono hgrows, hpast.trans hgrows, hissued⟩ }

section Sharing

variable (env : ServiceEnv)
variable {share : RepositoryContext → ShareRecord → Prop}
variable {reach : RepositoryContext → RepositoryContext → Prop}
variable [IsPreorder RepositoryContext reach] {since : RepositoryContext}

theorem query_seen {α : Type}
    (read : RepositoryContext → Except RepositoryError α) :
    Program.Respects reach (SeenBy read) since (query read) :=
  query_respects fun ctx _ hread => ⟨ctx, .refl ctx, hread⟩

omit [IsPreorder RepositoryContext reach] in
theorem liftCrypto_gives {α : Type} (result : CryptoResult α) :
    Program.Respects reach (fun value _ => result = .ok value) since
      (liftCrypto result) :=
  .ofExcept fun _ hvalue => mapError_eq_ok.mp hvalue

theorem issue_respects {issue : RepositoryContext →
      Option (CryptoResult (String × String))} :
    Program.Respects reach
      (fun issued ctx => issue ctx = some (.ok issued)) since
      (Program.read fun ctx =>
        match issue ctx with
        | none => .error ServiceError.diverged
        | some result => result.mapError .crypto) := by
  refine .read fun ctx issued _ hread => ?_
  split at hread
  · cases hread
  · next result hresult => rw [hresult, mapError_eq_ok.mp hread]

variable (hreach : AdmitsSupplements share reach)
variable (hgrows : ∀ ctx ctx', reach ctx ctx' → Grows ctx ctx')

include hreach hgrows

theorem prepareShareResource_respects (recipientUserId resourceId : String)
    (permissions : List (String × String)) (currentUser : User) :
    Program.Respects reach
      (fun prepared ctx => ∀ data, prepared = some data →
        MadeByDelegation env recipientUserId resourceId permissions currentUser
          data.shareRecord ctx) since
      (prepareShareResource env recipientUserId resourceId permissions
        currentUser) := by
  refine .bind (Program.Follows.attempt (query_any _)) fun shared _ _ _ => ?_
  refine .ite (.pure fun data hdata => by cases hdata) ?_
  refine .bind (query_any _) fun resourceKey _ _ _ => ?_
  refine .bind (query_seen _) fun delegator s1 _ hdelegator => ?_
  refine .bind (query_seen _) fun recipient s2 h2 hrecipient => ?_
  refine .bind (liftCrypto_any _) fun newEncryptionKey s3 h3 _ => ?_
  refine .bind (drawId_respects hreach env) fun keyId s4 h4 _ => ?_
  refine .bind (query_seen _) fun encryptedKey s5 h5 hkey => ?_
  refine .bind (query_seen _) fun owner s6 h6 howner => ?_
  refine .bind (issue_respects) fun issued s7 h7 hissued => ?_
  refine .bind (drawId_respects hreach env) fun recordId s8 h8 _ => ?_
  refine .bind (query_any _) fun recipientDevices s9 h9 _ => ?_
  refine .bind (drawIds_respects hreach env _) fun clockIds s10 h10 _ => .pure ?_
  intro data hdata
  cases hdata
  have h710 := ((hgrows _ _ h8).trans (hgrows _ _ h9)).trans (hgrows _ _ h10)
  have h610 := (hgrows _ _ h7).trans h710
  have h510 := (hgrows _ _ h6).trans h610
  have h210 := (((hgrows _ _ h3).trans (hgrows _ _ h4)).trans (hgrows _ _ h5)).trans
    h510
  exact ⟨rfl, rfl, rfl, delegator, recipient, owner, encryptedKey, s7,
    hdelegator.mono ((hgrows _ _ h2).trans h210), hrecipient.mono h210,
    howner.mono h610, hkey.mono h510, h710, hissued⟩

def MadeForRecipient (recipientUserId : String) (currentUser : User)
    (sharingData : List ResourceSharingData) (ctx : RepositoryContext) : Prop :=
  ∀ data ∈ sharingData, ∃ resourceId, MadeByDelegation env recipientUserId
    resourceId (autoSharePermissions env resourceId) currentUser data.shareRecord ctx

theorem prepareResources_respects (recipientUserId : String) (currentUser : User)
    (resourceIds : List String) :
    Program.Respects reach (MadeForRecipient env recipientUserId currentUser) since
      (prepareResources env recipientUserId currentUser resourceIds) := by
  induction resourceIds generalizing since with
  | nil => exact .pure fun data hdata => by cases hdata
  | cons resourceId rest ih =>
      refine .bind (prepareShareResource_respects env hreach hgrows _ _ _ _)
        fun prepared _ _ hprepared => ?_
      refine .bind ih fun others ctx hlater hothers => ?_
      cases prepared with
      | none => exact .pure hothers
      | some sharingData =>
          refine .pure fun data hdata => ?_
          rcases List.mem_cons.mp hdata with rfl | hmem
          · exact ⟨resourceId, (hprepared data rfl).mono (hgrows _ _ hlater)⟩
          · exact hothers data hmem

theorem addMissingRecipients_respects (payload : List FolderRecipientUpdate)
    (missingRemoteResources : List String) (recipientUserId : String)
    (currentUser : User)
    (hshare : ∀ resourceId record ctx, MadeByDelegation env recipientUserId
      resourceId (autoSharePermissions env resourceId) currentUser record ctx →
        share ctx record) :
    Program.Respects reach (fun _ _ => True) since
      (addMissingRecipients env payload missingRemoteResources recipientUserId
        currentUser) := by
  refine .bind (query_any _) fun resourceIds _ _ _ => ?_
  refine .bind (prepareResources_respects env hreach hgrows _ _ _)
    fun sharingData ctx _ hdata => ?_
  refine update_respects hreach fun ctx' _ hlater =>
    Supplements.saveResourceAndFolderSharingData fun record hrecord => ?_
  obtain ⟨data, hmem, rfl⟩ := List.mem_map.mp hrecord
  obtain ⟨resourceId, hmade⟩ := hdata data hmem
  exact hshare resourceId data.shareRecord ctx' (hmade.mono (hgrows _ _ hlater))

theorem createResource_respects (resourcePayload : JsonText)
    (resourceType : ResourceType) (folderId : String) (user : User)
    (currentDeviceId : String)
    (hshare : ∀ record ctx, MadeByOwner env user record ctx → share ctx record) :
    Program.Respects reach (fun _ _ => True) since
      (createResource env resourcePayload resourceType folderId user
        currentDeviceId) := by
  refine .bind (drawId_respects hreach env) fun newKey _ _ _ => ?_
  refine .bind (liftCrypto_any _) fun encrypted _ _ _ => ?_
  refine .bind (drawId_respects hreach env) fun resourceId _ _ _ => ?_
  refine .bind (liftCrypto_any _) fun signature _ _ _ => ?_
  refine .bind (drawId_respects hreach env) fun keyId _ _ _ => ?_
  refine .bind (query_seen _) fun encryptedKey s1 _ hkey => ?_
  refine .bind (liftCrypto_gives _) fun issued s2 h2 hissued => ?_
  refine .bind (drawId_respects hreach env) fun recordId s3 h3 _ => ?_
  refine .bind (query_any _) fun userDevices s4 h4 _ => ?_
  refine .bind (drawIds_respects hreach env _) fun clockIds s5 h5 _ => ?_
  refine .bind (update_respects hreach fun s6 ctx h6 =>
    Supplements.saveResourceWithDependencies (hshare _ _ ?_)) fun _ _ _ _ =>
      getResourceByIdDirect_any env _ _
  have h26 := (((hgrows _ _ h3).trans (hgrows _ _ h4)).trans (hgrows _ _ h5)).trans
    (hgrows _ _ h6)
  exact ⟨rfl, rfl, encryptedKey, hkey.mono ((hgrows _ _ h2).trans h26), hissued⟩

theorem shareResource_respects (recipientUserId resourceId : String)
    (permissions : List (String × String)) (currentUser : User)
    (hshare : ∀ record ctx, MadeByDelegation env recipientUserId resourceId
      permissions currentUser record ctx → share ctx record) :
    Program.Respects reach (fun _ _ => True) since
      (shareResource env recipientUserId resourceId permissions currentUser) := by
  refine .bind (prepareShareResource_respects env hreach hgrows _ _ _ _)
    fun prepared ctx _ hprepared => ?_
  cases prepared with
  | none => exact .pure trivial
  | some data =>
      exact update_respects hreach fun ctx' _ hlater =>
        Supplements.shareResourceTransaction (hshare _ ctx'
          ((hprepared data rfl).mono (hgrows _ _ hlater)))

theorem prepareForRecipients_respects (resourceId : String) (currentUser : User)
    (recipients : List User) :
    Program.Respects reach
      (fun sharingData ctx => ∀ data ∈ sharingData, ∃ recipientUserId,
        MadeByDelegation env recipientUserId resourceId
          (autoSharePermissions env resourceId) currentUser data.shareRecord ctx)
      since (prepareForRecipients env resourceId currentUser recipients) := by
  induction recipients generalizing since with
  | nil => exact .pure fun data hdata => by cases hdata
  | cons recipient rest ih =>
      refine .bind (Program.Follows.attempt
        (prepareShareResource_respects env hreach hgrows _ _ _ _))
        fun prepared _ _ hprepared => ?_
      refine .bind ih fun others ctx hlater hothers => ?_
      split
      · next sharingData =>
          refine .pure fun data hdata => ?_
          rcases List.mem_cons.mp hdata with rfl | hmem
          · exact ⟨recipient.id,
              (hprepared _ rfl data rfl).mono (hgrows _ _ hlater)⟩
          · exact hothers data hmem
      · exact .pure hothers

theorem autoShareResourceWithFolderUsers_respects (resourceId folderId : String)
    (currentUser : User)
    (hshare : ∀ recipientUserId record ctx, MadeByDelegation env recipientUserId
      resourceId (autoSharePermissions env resourceId) currentUser record ctx →
        share ctx record) :
    Program.Respects reach (fun _ _ => True) since
      (autoShareResourceWithFolderUsers env resourceId folderId currentUser) := by
  refine .bind (query_any _) fun sharedUsers _ _ _ => ?_
  refine .bind (prepareForRecipients_respects env hreach hgrows _ _ _)
    fun sharingData ctx _ hdata => .ite (.pure trivial) ?_
  refine update_respects hreach fun ctx' _ hlater =>
    Supplements.saveBulkSharingData fun record hrecord => ?_
  obtain ⟨data, hmem, rfl⟩ := List.mem_map.mp hrecord
  obtain ⟨recipientUserId, hmade⟩ := hdata data hmem
  exact hshare recipientUserId data.shareRecord ctx'
    (hmade.mono (hgrows _ _ hlater))

omit [IsPreorder RepositoryContext reach] hreach hgrows in
theorem requireRecord_any (record : Option FolderShareRecord) :
    Program.Respects reach (fun _ _ => True) since (requireRecord record) := by
  cases record with
  | none => exact .fail _
  | some record => exact .pure trivial

theorem shareFolder_respects (folderId recipientUserId : String)
    (folderPermissions : List (String × String)) (currentUser : User)
    (hshare : ∀ resourceId record ctx, MadeByDelegation env recipientUserId
      resourceId (autoSharePermissions env resourceId) currentUser record ctx →
        share ctx record) :
    Program.Respects reach (fun _ _ => True) since
      (shareFolder env folderId recipientUserId folderPermissions currentUser) := by
  refine .bind (.mapError _ (query_any _)) fun folder _ _ _ => ?_
  refine .bind (query_any _) fun existing _ _ _ => .ite (.pure trivial) ?_
  refine .bind (requireRecord_any _) fun ownShare _ _ _ => ?_
  refine .bind (query_any _) fun encryptedKey _ _ _ => ?_
  refine .bind (requireRecord_any _) fun ownerShare _ _ _ => ?_
  refine .bind (query_any _) fun folderOwner _ _ _ => ?_
  refine .bind (query_any _) fun recipientUser _ _ _ => ?_
  refine .bind issue_respects fun issued _ _ _ => ?_
  refine .bind (drawId_respects hreach env) fun recordId _ _ _ => ?_
  refine .bind (query_any _) fun resourceIds _ _ _ => ?_
  refine .bind (prepareResources_respects env hreach hgrows _ _ _)
    fun sharingData ctx _ hdata => ?_
  refine update_respects hreach fun ctx' _ hlater =>
    Supplements.shareFolderTransaction fun record hrecord => ?_
  obtain ⟨data, hmem, rfl⟩ := List.mem_map.mp hrecord
  obtain ⟨resourceId, hmade⟩ := hdata data hmem
  exact hshare resourceId data.shareRecord ctx' (hmade.mono (hgrows _ _ hlater))

end Sharing

end Osvauld.Services
