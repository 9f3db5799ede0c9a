import Osvauld.Data.Lists
import Osvauld.Services.PreparedShares
import Osvauld.Services.ShareChains

namespace Osvauld.Services

open Osvauld.Core CryptoUtils Data Persistance

/-! Of the share records that a user has for a resource the first one is used, whatever its
token is worth. -/

section Usable

variable (env : ServiceEnv) (ctx : RepositoryContext) (resourceId : String)

def isShareFor (userId : String) (record : ShareRecord) : Bool :=
  record.resourceId = resourceId && record.recipientUserId = userId &&
    record.operationType = .share

def AcceptedAt (validator : RepositoryContext) (userId token : String) : Prop :=
  ((validateAuthorityForUpdate env resourceId token userId).run validator).1 = .ok true

def GrantsSharing (owner : User) (token : String) : Prop :=
  ∃ ucan domain, validateStructure env.libraries.ucan env.now token = .ok ucan ∧
    extractDomainFromUcan ucan "resource" = .ok domain ∧
    validateUcanPermission env.libraries.ucan env.now (resolveProof ctx) owner.ucanPubKey
      (domain ++ ":" ++ "resource" ++ ":" ++ resourceId) "ucan/share" env.fuel ucan =
        some (.ok ())

/-- With the record's token the resource can be shared: the token grants it, and there is
all else that is needed. -/
def SharableBy (currentUser : User) (recipientUserId : String)
    (permissions : List (String × String)) (record : ShareRecord) : Prop :=
  ∃ resourceKey recipient newKey ucanKey owner signingKey token,
    ResourceKeyRepo.findByResourceAndUser resourceId currentUser.id ctx = .ok resourceKey ∧
    UserRepo.getUserById recipientUserId ctx = .ok recipient ∧
    encryptKeyWithNewPubKey env.libraries env.cert resourceKey.encryptedKey
      recipient.publicKey = .ok newKey ∧
    StoreRepo.getUcanKey ctx = .ok ucanKey ∧
    ResourceRepo.findOwnerByResourceId resourceId ctx = .ok owner ∧
    GrantsSharing env ctx resourceId owner record.ucanToken ∧
    decryptUcanKey env.libraries env.cert ucanKey = .ok signingKey ∧
    generateDelegatedUcan env.libraries.ucan env.now signingKey recipient.ucanPubKey
      permissions record.ucanToken = .ok token

structure UsesUsable (validator : RepositoryContext) (currentUser : User) : Prop where
  update : (∃ record ∈ ctx.shareRecords, isShareFor resourceId currentUser.id record = true ∧
      AcceptedAt env resourceId validator currentUser.id record.ucanToken) →
    ∃ token, (getResourceUcanKey resourceId currentUser.id).run ctx = (.ok token, ctx) ∧
      AcceptedAt env resourceId validator currentUser.id token
  share : ∀ recipientUserId permissions,
    ResourceKeyRepo.keyFor? ctx resourceId recipientUserId = none →
    (∃ record ∈ ctx.shareRecords, isShareFor resourceId currentUser.id record = true ∧
      SharableBy env ctx resourceId currentUser recipientUserId permissions record) →
    ∃ sharingData after, (prepareShareResource env recipientUserId resourceId permissions
      currentUser).run ctx = (.ok (some sharingData), after)

structure NothingBefore (validator : RepositoryContext) (currentUser : User) : Prop where
  update : UsableFirst (isShareFor resourceId currentUser.id)
    (fun record => AcceptedAt env resourceId validator currentUser.id record.ucanToken)
    ctx.shareRecords
  share : ∀ recipientUserId permissions,
    ResourceKeyRepo.keyFor? ctx resourceId recipientUserId = none →
    UsableFirst (isShareFor resourceId currentUser.id)
      (SharableBy env ctx resourceId currentUser recipientUserId permissions) ctx.shareRecords

end Usable

section First

variable {env : ServiceEnv} {ctx : RepositoryContext} {resourceId : String}

variable {userId : String} {permissions : List (String × String)}

theorem findShare_eq_ok_iff {record : ShareRecord} :
    ShareRepo.findByResourceAndOperationAndUser resourceId .share userId ctx = .ok record ↔
      ctx.shareRecords.find? (isShareFor resourceId userId) = some record := by
  have hquery : ShareRepo.findByResourceAndOperationAndUser resourceId .share userId ctx =
      firstOrNotFound (ctx.shareRecords.find? (isShareFor resourceId userId)) := rfl
  rw [hquery]
  cases ctx.shareRecords.find? (isShareFor resourceId userId) with
  | none => simp [firstOrNotFound]
  | some found => simp [firstOrNotFound]

theorem getResourceUcanKey_run_iff {token : String} :
    (getResourceUcanKey resourceId userId).run ctx = (.ok token, ctx) ↔
      ∃ record, ctx.shareRecords.find? (isShareFor resourceId userId) = some record ∧
        record.ucanToken = token := by
  rw [getResourceUcanKey, query_andThen]
  constructor
  · intro hrun
    split at hrun
    · next record hfound =>
        cases hrun
        exact ⟨record, findShare_eq_ok_iff.mp hfound, rfl⟩
    · cases hrun
  · rintro ⟨record, hfound, rfl⟩
    rw [findShare_eq_ok_iff.mpr hfound]
    rfl

theorem acceptedAt_iff {validator : RepositoryContext} {token : String} :
    AcceptedAt env resourceId validator userId token ↔
      ((validateAuthorityForUpdate env resourceId token userId).run validator).1.toOption =
        some true := by
  rw [AcceptedAt]
  cases ((validateAuthorityForUpdate env resourceId token userId).run validator).1 with
  | error error => simp [Except.toOption]
  | ok accepted => simp [Except.toOption]

theorem issueDelegatedResourceUcan_eq_ok_iff {ucanKey : PgpText} {proof recipientKey : String}
    {owner : User} {token : String × String} :
    issueDelegatedResourceUcan env.libraries env.cert env.now (resolveProof ctx) env.fuel
        ucanKey proof owner.ucanPubKey resourceId recipientKey permissions =
          some (.ok token) ↔
      GrantsSharing env ctx resourceId owner proof ∧
        ∃ signingKey, decryptUcanKey env.libraries env.cert ucanKey = .ok signingKey ∧
          generateDelegatedUcan env.libraries.ucan env.now signingKey recipientKey permissions
            proof = .ok token := by
  constructor
  · intro hissued
    obtain ⟨ucan, domain, signingKey, hucan, hdomain, hpermitted, hkey, hmade⟩ :=
      issueDelegatedUcan_eq_ok hissued
    exact ⟨⟨ucan, domain, hucan, hdomain, hpermitted⟩, signingKey, hkey, hmade⟩
  · rintro ⟨⟨ucan, domain, hucan, hdomain, hpermitted⟩, signingKey, hkey, hmade⟩
    simp only [issueDelegatedResourceUcan, issueDelegatedUcan, hucan, hdomain, hpermitted,
      hkey]
    change some (liftUcan (generateDelegatedUcan _ _ _ _ _ _)) = _
    rw [hmade]
    rfl

theorem canShare_iff {currentUser : User} {recipientUserId : String} :
    CanShare env ctx currentUser permissions resourceId recipientUserId ↔
      ∃ record,
        ctx.shareRecords.find? (isShareFor resourceId currentUser.id) = some record ∧
          SharableBy env ctx resourceId currentUser recipientUserId permissions record := by
  constructor
  · rintro ⟨resourceKey, delegator, recipient, newKey, ucanKey, owner, token, hkey, hdelegator,
      hrecipient, hnewKey, hucanKey, howner, hissued⟩
    obtain ⟨hgrants, signingKey, hsigning, hmade⟩ :=
      issueDelegatedResourceUcan_eq_ok_iff.mp hissued
    exact ⟨delegator, findShare_eq_ok_iff.mp hdelegator, resourceKey, recipient, newKey, ucanKey,
      owner, signingKey, token, hkey, hrecipient, hnewKey, hucanKey, howner, hgrants, hsigning,
      hmade⟩
  · rintro ⟨delegator, hdelegator, resourceKey, recipient, newKey, ucanKey, owner, signingKey,
      token, hkey, hrecipient, hnewKey, hucanKey, howner, hgrants, hsigning, hmade⟩
    exact ⟨resourceKey, delegator, recipient, newKey, ucanKey, owner, token, hkey,
      findShare_eq_ok_iff.mpr hdelegator, hrecipient, hnewKey, hucanKey, howner,
      issueDelegatedResourceUcan_eq_ok_iff.mpr ⟨hgrants, signingKey, hsigning, hmade⟩⟩

theorem prepareShareResource_ok_iff {currentUser : User} {recipientUserId : String}
    (hfree : ResourceKeyRepo.keyFor? ctx resourceId recipientUserId = none) :
    (∃ sharingData after, (prepareShareResource env recipientUserId resourceId permissions
      currentUser).run ctx = (.ok (some sharingData), after)) ↔
    CanShare env ctx currentUser permissions resourceId recipientUserId := by
  constructor
  · rintro ⟨sharingData, after, hrun⟩
    obtain ⟨delegator, recipient, owner, ucanKey, hdelegator, hrecipient, hucanKey, howner,
      hissued⟩ := prepareShareResource_run hrun
    obtain ⟨resourceKey, newKey, hkey, hnewKey⟩ : ∃ resourceKey newKey,
        ResourceKeyRepo.findByResourceAndUser resourceId currentUser.id ctx = .ok resourceKey ∧
        encryptKeyWithNewPubKey env.libraries env.cert resourceKey.encryptedKey
          recipient.publicKey = .ok newKey := by
      simp only [prepareShareResource, Program.run_bind_eq_ok] at hrun
      obtain ⟨shared, _, hshared, hrun⟩ := hrun
      cases hshared
      split at hrun
      · cases hrun
      simp only [Program.run_bind_eq_ok] at hrun
      obtain ⟨resourceKey, _, hkey, _, _, hfound, other, _, hother, newKey, _, hnewKey, -⟩ := hrun
      obtain ⟨hkey, rfl⟩ := query_run hkey
      obtain ⟨-, rfl⟩ := query_run hfound
      obtain ⟨hother, rfl⟩ := query_run hother
      obtain ⟨hnewKey, -⟩ := liftCrypto_run hnewKey
      obtain rfl := Except.ok.inj (hother.symm.trans hrecipient)
      exact ⟨resourceKey, newKey, hkey, hnewKey⟩
    exact ⟨resourceKey, delegator, recipient, newKey, ucanKey, owner, _, hkey, hdelegator,
      hrecipient, hnewKey, hucanKey, howner, hissued⟩
  · rintro ⟨resourceKey, delegator, recipient, newKey, ucanKey, owner, ⟨ucanToken, ucanCid⟩,
      hkey, hdelegator, hrecipient, hnewKey, hucanKey, howner, hissued⟩
    have hshared : ((query (ResourceKeyRepo.findByResourceAndUser resourceId
        recipientUserId)).attempt : Service _).run ctx =
          (.ok (.error (.repository .notFound)), ctx) := by
      rw [Program.run_attempt, query, Program.run_read,
        ResourceKeyRepo.findByResourceAndUser, hfree]
      rfl
    unfold prepareShareResource
    rw [Program.run_bind, hshared, Program.andThen_ok]
    simp only [Except.isOk, Except.toBool, Bool.false_eq_true, if_false]
    rw [query_andThen, hkey]
    dsimp only
    rw [query_andThen, hdelegator]
    dsimp only
    rw [query_andThen, hrecipient]
    dsimp only
    rw [liftCrypto_andThen, hnewKey]
    dsimp only
    -- The ids that are drawn leave the tables as they are.
    have hdrawn : StoreRepo.getUcanKey { ctx with drawnIds := ctx.drawnIds + 1 } =
          StoreRepo.getUcanKey ctx ∧
        ResourceRepo.findOwnerByResourceId resourceId
            { ctx with drawnIds := ctx.drawnIds + 1 } =
          ResourceRepo.findOwnerByResourceId resourceId ctx ∧
        resolveProof { ctx with drawnIds := ctx.drawnIds + 1 } = resolveProof ctx :=
      ⟨rfl, rfl, rfl⟩
    rw [drawId_andThen, query_andThen, hdrawn.1, hucanKey]
    dsimp only
    rw [query_andThen, hdrawn.2.1, howner]
    dsimp only
    rw [Program.run_bind, Program.run_read, hdrawn.2.2, hissued]
    dsimp only [Except.mapError]
    rw [Program.andThen_ok, drawId_andThen, query_andThen]
    dsimp only [DeviceRepo.getDevicesByUserId]
    rw [Program.run_bind]
    exact ⟨_, _, rfl⟩

/-- Whatever records the user has, one that can be used is used exactly when no other one
comes before it. -/
theorem usesUsable_iff (env : ServiceEnv) (ctx validator : RepositoryContext)
    (resourceId : String) (currentUser : User) :
    UsesUsable env ctx resourceId validator currentUser ↔
      NothingBefore env ctx resourceId validator currentUser := by
  have hupdate := @find_usable_iff _ (isShareFor resourceId currentUser.id)
    (fun record => AcceptedAt env resourceId validator currentUser.id record.ucanToken)
    ctx.shareRecords
  have hshare := fun recipientUserId permissions =>
    @find_usable_iff _ (isShareFor resourceId currentUser.id)
      (SharableBy env ctx resourceId currentUser recipientUserId permissions) ctx.shareRecords
  constructor
  · intro huses
    constructor
    · apply hupdate.mp
      intro hsome
      obtain ⟨token, hrun, haccepted⟩ := huses.update hsome
      obtain ⟨record, hfound, rfl⟩ := getResourceUcanKey_run_iff.mp hrun
      exact ⟨record, hfound, haccepted⟩
    · intro recipientUserId permissions hfree
      apply (hshare recipientUserId permissions).mp
      intro hsome
      exact canShare_iff.mp ((prepareShareResource_ok_iff hfree).mp
        (huses.share recipientUserId permissions hfree hsome))
  · intro hfirst
    constructor
    · intro hsome
      obtain ⟨record, hfound, haccepted⟩ := hupdate.mpr hfirst.update hsome
      exact ⟨record.ucanToken, getResourceUcanKey_run_iff.mpr ⟨record, hfound, rfl⟩, haccepted⟩
    · intro recipientUserId permissions hfree hsome
      apply (prepareShareResource_ok_iff hfree).mpr
      exact canShare_iff.mpr ((hshare recipientUserId permissions).mpr
        (hfirst.share recipientUserId permissions hfree) hsome)

end First

namespace TwoSharers

open ThreeHolders

def tokens : List Ucan :=
  [{ issuer := did (keyText 'O'), audience := did (keyText 'O')
     capabilities := grants ["crud/read", "crud/update", "crud/delete", "ucan/share"]
     signedData := "o" },
    { issuer := did (keyText 'O'), audience := did (keyText 'Q')
      capabilities := grants ["crud/read"], proofs := some ["o"], signedData := "q" },
    { issuer := did (keyText 'Q'), audience := did (keyText 'P')
      capabilities := grants ["crud/read", "crud/update", "ucan/share"]
      proofs := some ["q"], signedData := "r" },
    { issuer := did (keyText 'O'), audience := did (keyText 'P')
      capabilities := grants ["crud/read", "crud/update", "ucan/share"]
      proofs := some ["o"], signedData := "p" },
    { issuer := did (keyText 'P'), audience := did (keyText 'S')
      capabilities := grants ["crud/read", "crud/update", "ucan/share"]
      proofs := some ["p"], signedData := "s" }]

def env : ServiceEnv :=
  { ThreeHolders.env "P" with
    libraries := { ThreeHolders.libraries with
      ucan := { ThreeHolders.libraries.ucan with crate := listedCrate tokens } } }

def received : RepositoryContext :=
  { tables 'P' [ownerRecord, record "2" "O" "Q" "q", record "3" "Q" "P" "r",
      record "4" "O" "P" "p"] with
    users := [user 'O', user 'P', user 'Q', user 'S'] }

theorem sharable : SharableBy env received "a" (user 'P') "S" (passedOn "livnote" "a")
    (record "4" "O" "P" "p") := by
  refine ⟨_, user 'S', _, _, user 'O', textBytes (keyText 'P'), ("s", "s"), rfl, ?_, rfl, rfl,
    ?_, ⟨_, "livnote", rfl, ?_, ?_⟩, ?_, ?_⟩
  all_goals decide +kernel

end TwoSharers

open ThreeHolders TwoSharers in
/-- The token of `O` is accepted and could be passed on, but the one of `Q` is used. -/
theorem first_share_used :
    (record "4" "O" "P" "p" ∈ received.shareRecords ∧
      isShareFor "a" "P" (record "4" "O" "P" "p") = true) ∧
    (AcceptedAt env "a" received "P" "p" ∧
      ((getResourceUcanKey "a" "P").run received).1.toOption = some "r" ∧
      ¬ AcceptedAt env "a" received "P" "r") ∧
    SharableBy env received "a" (user 'P') "S" (passedOn "livnote" "a")
        (record "4" "O" "P" "p") ∧
      ((prepareShareResource env "S" "a" (passedOn "livnote" "a") (user 'P')).run
        received).1.isOk = false := by
  refine ⟨?_, ⟨?_, ?_, ?_⟩, sharable, ?_⟩
  · decide +kernel
  · rw [acceptedAt_iff]
    decide +kernel
  · decide +kernel
  · rw [acceptedAt_iff]
    decide +kernel
  · decide +kernel

end Osvauld.Services
