import Osvauld.CryptoUtils.Introductions
import Osvauld.Services.ShareToken

namespace Osvauld.Services

open Osvauld.Core CryptoUtils Data Persistance

/-! Shares that are passed on, from the owner of a resource to the last recipient. -/

structure SoundCrate (crate : UcanCrate) : Prop extends FaithfulCrate crate where
  validate : ∀ request ucan now, crate.sign request = .ok ucan → request.issuedAt ≤ now →
    now < request.issuedAt + request.lifetimeSeconds → crate.validate ucan now = .ok ()
  cid_inj : ∀ token other ucan ucan' cid, crate.tryFrom token = .ok ucan →
    crate.tryFrom other = .ok ucan' → crate.toCid ucan = .ok cid →
      crate.toCid ucan' = .ok cid → ucan = ucan'

structure PreparedShare (resourceId : String) where
  env : ServiceEnv
  ctx : RepositoryContext
  recipientUserId : String
  permissions : List (String × String)
  currentUser : User
  sharingData : ResourceSharingData
  after : RepositoryContext
  prepared : (prepareShareResource env recipientUserId resourceId permissions
    currentUser).run ctx = (.ok (some sharingData), after)

section Chains

variable (libraries : Libraries) (now : Int) (domain resourceId : String)

def passedOn : List (String × String) :=
  ["crud/read", "crud/update", "ucan/share"].map fun ability =>
    (resourceUri domain resourceId, ability)

def Unexpired (issuedAt : Int) : Prop :=
  issuedAt ≤ now ∧ now < issuedAt + thirtyYears

/-- The share is made of the delegator's record, with the sharer's key and for the
recipient's one. -/
structure PassesOn (delegator : ShareRecord) (sharerKey : Bytes)
    (share : PreparedShare resourceId) (recipientKey : Bytes) : Prop where
  libraries_eq : share.env.libraries = libraries
  unexpired : Unexpired now share.env.now
  delegator_eq : ShareRepo.findByResourceAndOperationAndUser resourceId .share
    share.currentUser.id share.ctx = .ok delegator
  signs : ∃ encryptedKey, StoreRepo.getUcanKey share.ctx = .ok encryptedKey ∧
    decryptUcanKey libraries share.env.cert encryptedKey = .ok sharerKey
  recipient : ∃ user, UserRepo.getUserById share.recipientUserId share.ctx = .ok user ∧
    user.ucanPubKey = ucanPubKeyOf libraries recipientKey
  permits : passedOn domain resourceId ⊆ share.permissions

inductive ShareChain (ownerKey : Bytes) : List ShareRecord → ShareRecord → Bytes → Prop
  | owner {record : ShareRecord} {issuedAt : Int} :
      Unexpired now issuedAt →
      generateResourceOwnerUcan libraries.ucan issuedAt ownerKey resourceId domain =
        .ok (record.ucanToken, record.ucanCid) →
      ShareChain ownerKey [] record ownerKey
  | share {ancestors : List ShareRecord} {delegator : ShareRecord}
      {sharerKey recipientKey : Bytes} {share : PreparedShare resourceId} :
      ShareChain ownerKey ancestors delegator sharerKey →
      PassesOn libraries now domain resourceId delegator sharerKey share recipientKey →
      ShareChain ownerKey (delegator :: ancestors) share.sharingData.shareRecord recipientKey

/-- The last recipient's token is accepted from the last recipient, however deep
chains are followed from this one's length on. -/
def AcceptedFor (ctx : RepositoryContext) (ownerKey : Bytes) (ancestors : List ShareRecord)
    (record : ShareRecord) (recipientKey : Bytes) : Prop :=
  ∀ fuel, ancestors.length < fuel →
    CryptoUtils.validateAuthorityForUpdate libraries.ucan now (resolveProof ctx) fuel
      record.ucanToken (ucanPubKeyOf libraries recipientKey)
        (ucanPubKeyOf libraries ownerKey) resourceId domain = some (.ok true)

def ProperlyFiled (ctx : RepositoryContext) (ancestors : List ShareRecord) : Prop :=
  ∀ ancestor ∈ ancestors, ∀ record,
    ctx.shareRecords.find? (fun record => record.ucanCid = ancestor.ucanCid) = some record →
      getUcanCid libraries.ucan record.ucanToken = .ok ancestor.ucanCid

end Chains

section Runs

variable {α : Type} {ctx after : RepositoryContext}

theorem query_run {read : RepositoryContext → Except RepositoryError α} {value : α}
    (hrun : (query read).run ctx = (.ok value, after)) : read ctx = .ok value ∧ after = ctx := by
  rw [query, Program.run_read, Prod.mk.injEq, mapError_eq_ok] at hrun
  exact ⟨hrun.1, hrun.2.symm⟩

theorem liftCrypto_run {result : CryptoResult α} {value : α}
    (hrun : (liftCrypto result).run ctx = (.ok value, after)) :
    result = .ok value ∧ after = ctx := by
  rw [liftCrypto, Program.run_ofExcept, Prod.mk.injEq, mapError_eq_ok] at hrun
  exact ⟨hrun.1, hrun.2.symm⟩

theorem drawId_run {env : ServiceEnv} {id : String}
    (hrun : (drawId env).run ctx = (.ok id, after)) :
    after = { ctx with drawnIds := ctx.drawnIds + 1 } := by
  cases hrun
  rfl

end Runs

theorem prepareShareResource_run {env : ServiceEnv} {ctx after : RepositoryContext}
    {recipientUserId resourceId : String} {permissions : List (String × String)}
    {currentUser : User} {sharingData : ResourceSharingData}
    (hrun : (prepareShareResource env recipientUserId resourceId permissions currentUser).run
      ctx = (.ok (some sharingData), after)) :
    ∃ delegator recipient owner encryptedKey,
      ShareRepo.findByResourceAndOperationAndUser resourceId .share currentUser.id ctx =
        .ok delegator ∧
      UserRepo.getUserById recipientUserId ctx = .ok recipient ∧
      StoreRepo.getUcanKey ctx = .ok encryptedKey ∧
      ResourceRepo.findOwnerByResourceId resourceId ctx = .ok owner ∧
      issueDelegatedResourceUcan env.libraries env.cert env.now (resolveProof ctx) env.fuel
        encryptedKey delegator.ucanToken owner.ucanPubKey resourceId recipient.ucanPubKey
        permissions =
          some (.ok (sharingData.shareRecord.ucanToken, sharingData.shareRecord.ucanCid)) := by
  simp only [prepareShareResource, Program.run_bind_eq_ok] at hrun
  obtain ⟨shared, _, hshared, hrun⟩ := hrun
  cases hshared
  split at hrun
  · cases hrun
  simp only [Program.run_bind_eq_ok] at hrun
  obtain ⟨resourceKey, _, hresourceKey, delegator, _, hdelegator, recipient, _, hrecipient,
    newKey, _, hnewKey, keyId, _, hkeyId, encryptedKey, _, hkey, owner, _, howner, issued, _,
    hissued, recordId, _, hrecordId, devices, _, hdevices, clockIds, _, hclockIds, hrun⟩ := hrun
  obtain ⟨-, rfl⟩ := query_run hresourceKey
  obtain ⟨hdelegatorRead, rfl⟩ := query_run hdelegator
  obtain ⟨hrecipientRead, rfl⟩ := query_run hrecipient
  obtain ⟨-, rfl⟩ := liftCrypto_run hnewKey
  obtain rfl := drawId_run hkeyId
  obtain ⟨hkeyRead, rfl⟩ := query_run hkey
  obtain ⟨hownerRead, rfl⟩ := query_run howner
  rw [Program.run_read, Prod.mk.injEq] at hissued
  refine ⟨delegator, recipient, owner, encryptedKey, hdelegatorRead, hrecipientRead, hkeyRead,
    hownerRead, ?_⟩
  -- The ids that are drawn leave the tables as they are.
  obtain ⟨hissued, -⟩ := hissued
  cases hrun
  split at hissued
  · cases hissued
  · next result hresult =>
      rw [mapError_eq_ok] at hissued
      exact hresult.trans (congrArg some hissued)

section Accepted

variable {libraries : Libraries} {now : Int} {domain resourceId : String}

theorem did_cases (hencodings : LawfulEncodings libraries.ucan.encodings)
    (hkeys : ∀ key, libraries.ucan.verifyingKey key ≠ []) (key rootKey : Bytes) :
    verifyDidKeyMatch libraries.ucan
        (didOfKey libraries.ucan (libraries.ucan.verifyingKey key))
        (ucanPubKeyOf libraries rootKey) = .ok () ∨
      verifyDidKeyMatch libraries.ucan
        (didOfKey libraries.ucan (libraries.ucan.verifyingKey key))
        (ucanPubKeyOf libraries rootKey) = .error .publicKeyMismatch := by
  simp only [verifyDidKeyMatch, keyFromDid_didOfKey hencodings (hkeys key), ucanPubKeyOf,
    hencodings.base64]
  split
  · exact .inr rfl
  · exact .inl rfl

theorem checkCapability_of_mem {ucan : Ucan} {resource ability : String}
    (hmem : { resource, ability : Capability } ∈ ucan.capabilities) :
    checkCapability ucan resource ability = .ok () := by
  unfold checkCapability
  rw [if_pos (List.any_eq_true.mpr ⟨_, hmem, grants_self _ _⟩)]

structure LinkToken (libraries : Libraries) (now : Int) (domain resourceId : String)
    (record : ShareRecord) (recipientKey : Bytes) (ucan : Ucan) : Prop where
  parsed : parseToken libraries.ucan record.ucanToken = .ok ucan
  valid : libraries.ucan.crate.validate ucan now = .ok ()
  cid_eq : cidOf libraries.ucan ucan = .ok record.ucanCid
  audience : ucan.audience = didOfKey libraries.ucan (libraries.ucan.verifyingKey recipientKey)
  updates : checkCapability ucan (resourceUri domain resourceId) "crud/update" = .ok ()

variable (hcrate : SoundCrate libraries.ucan.crate)

include hcrate

theorem linkToken_owner {record : ShareRecord} {issuedAt : Int} {ownerKey : Bytes}
    (hunexpired : Unexpired now issuedAt)
    (hmade : generateResourceOwnerUcan libraries.ucan issuedAt ownerKey resourceId domain =
      .ok (record.ucanToken, record.ucanCid)) :
    ∃ ucan, LinkToken libraries now domain resourceId record ownerKey ucan ∧
      ucan.issuer = didOfKey libraries.ucan (libraries.ucan.verifyingKey ownerKey) := by
  simp only [generateResourceOwnerUcan, generateOwnerUcan, bind_eq_ok] at hmade
  obtain ⟨ucan, hsigned, cid, hcid, token, hencoded, hresult⟩ := hmade
  cases hresult
  have hsign := buildAndSign_eq_ok hsigned
  obtain ⟨hissuer, haudience, hcapabilities⟩ := hcrate.sign _ _ hsign
  refine ⟨ucan, ⟨?_, ?_, hcid, haudience, checkCapability_of_mem ?_⟩, hissuer⟩
  · exact parseToken_eq_ok.mpr (hcrate.tryFrom _ _ _ hsign (encodeToken_eq_ok hencoded))
  · exact hcrate.validate _ _ _ hsign hunexpired.1 hunexpired.2
  · rw [hcapabilities]
    exact List.mem_map.mpr ⟨"crud/update", by simp, rfl⟩

theorem linkToken_share {delegator : ShareRecord} {sharerKey recipientKey : Bytes}
    {share : PreparedShare resourceId} {authority : Ucan}
    (hencodings : LawfulEncodings libraries.ucan.encodings)
    (hpasses : PassesOn libraries now domain resourceId delegator sharerKey share recipientKey)
    (hdelegator : LinkToken libraries now domain resourceId delegator sharerKey authority) :
    ∃ ucan, LinkToken libraries now domain resourceId share.sharingData.shareRecord
        recipientKey ucan ∧
      ucan.issuer = didOfKey libraries.ucan (libraries.ucan.verifyingKey sharerKey) ∧
      ucan.proofs = some [delegator.ucanCid] := by
  obtain ⟨found, recipient, owner, encryptedKey, hfound, hrecipient, hkey, -, hissued⟩ :=
    prepareShareResource_run share.prepared
  obtain ⟨-, -, signingKey, -, -, -, hsigningKey, hgenerated⟩ := issueDelegatedUcan_eq_ok hissued
  obtain ⟨user, huser, hpubKey⟩ := hpasses.recipient
  obtain ⟨stored, hstored, hsharerKey⟩ := hpasses.signs
  obtain rfl := Except.ok.inj (hfound.symm.trans hpasses.delegator_eq)
  obtain rfl := Except.ok.inj (hrecipient.symm.trans huser)
  obtain rfl := Except.ok.inj (hkey.symm.trans hstored)
  rw [hpasses.libraries_eq] at hsigningKey hgenerated
  obtain rfl := Except.ok.inj (hsigningKey.symm.trans hsharerKey)
  obtain ⟨ucan, parsed, recipientDid, hparsed, hdid, hsign, hencode, hcid⟩ :=
    generateDelegatedUcan_signs hgenerated
  obtain rfl := Except.ok.inj (hparsed.symm.trans hdelegator.parsed)
  obtain ⟨hissuer, haudience, hcapabilities⟩ := hcrate.sign _ _ hsign
  refine ⟨ucan, ⟨?_, ?_, hcid, ?_, checkCapability_of_mem ?_⟩, hissuer, ?_⟩
  · exact parseToken_eq_ok.mpr (hcrate.tryFrom _ _ _ hsign hencode)
  · exact hcrate.validate _ _ _ hsign hpasses.unexpired.1 hpasses.unexpired.2
  · rw [hpubKey, pubKeyB64ToDid, ucanPubKeyOf, hencodings.base64] at hdid
    rw [haudience]
    exact (Except.ok.inj hdid).symm
  · rw [hcapabilities]
    have hpermits : (resourceUri domain resourceId, "crud/update") ∈ share.permissions :=
      hpasses.permits (by simp [passedOn])
    exact List.mem_map.mpr ⟨_, hpermits, rfl⟩
  · exact hcrate.proofs _ _ _ _ hsign rfl (cidOf_eq_ok hdelegator.cid_eq)

theorem resolveParent_of_properlyFiled {ctx : RepositoryContext} {ancestors : List ShareRecord}
    {delegator : ShareRecord} {sharerKey : Bytes} {ucan authority : Ucan}
    (hfiled : ProperlyFiled libraries ctx ancestors) (hmem : delegator ∈ ancestors)
    (hstored : delegator ∈ ctx.shareRecords)
    (hdelegator : LinkToken libraries now domain resourceId delegator sharerKey authority)
    (hissuer : ucan.issuer = didOfKey libraries.ucan (libraries.ucan.verifyingKey sharerKey)) :
    resolveParent libraries.ucan now (resolveProof ctx) ucan delegator.ucanCid =
      some authority := by
  have hsome : (ctx.shareRecords.find? fun record =>
      record.ucanCid = delegator.ucanCid).isSome := by
    rw [List.find?_isSome]
    exact ⟨delegator, hstored, by simp⟩
  obtain ⟨record, hrecord⟩ := Option.isSome_iff_exists.mp hsome
  have hcid := hfiled delegator hmem record hrecord
  rw [getUcanCid, bind_eq_ok] at hcid
  obtain ⟨other, hother, hcid⟩ := hcid
  obtain rfl : authority = other :=
    hcrate.cid_inj _ _ _ _ _ (parseToken_eq_ok.mp hdelegator.parsed)
      (parseToken_eq_ok.mp hother) (cidOf_eq_ok hdelegator.cid_eq) (cidOf_eq_ok hcid)
  have hproof : resolveProof ctx delegator.ucanCid = .ok record.ucanToken := by
    simp [resolveProof, ShareRepo.getUcanByCid, hrecord, firstOrNotFound, Except.map]
  have hvalid : validateStructure libraries.ucan now record.ucanToken = .ok authority :=
    validateStructure_eq_ok_iff.mpr ⟨hother, hdelegator.valid⟩
  simp [resolveParent, hproof, hvalid, hdelegator.audience, hissuer]

variable (hencodings : LawfulEncodings libraries.ucan.encodings)
variable (hkeys : ∀ key, libraries.ucan.verifyingKey key ≠ [])

include hencodings hkeys

theorem ShareChain.permitted {ctx : RepositoryContext} {ownerKey recipientKey : Bytes}
    {ancestors : List ShareRecord} {record : ShareRecord} {fuel : Nat}
    (hchain : ShareChain libraries now domain resourceId ownerKey ancestors record recipientKey)
    (hstored : ancestors ⊆ ctx.shareRecords) (hfiled : ProperlyFiled libraries ctx ancestors)
    (hfuel : ancestors.length < fuel) :
    ∃ ucan, LinkToken libraries now domain resourceId record recipientKey ucan ∧
      validateUcanPermission libraries.ucan now (resolveProof ctx)
        (ucanPubKeyOf libraries ownerKey) (resourceUri domain resourceId) "crud/update" fuel
          ucan = some (.ok ()) := by
  induction hchain generalizing fuel with
  | owner hunexpired hmade =>
      obtain ⟨ucan, hlink, hissuer⟩ := linkToken_owner hcrate hunexpired hmade
      refine ⟨ucan, hlink, ?_⟩
      obtain ⟨fuel, rfl⟩ := Nat.exists_eq_add_one.mpr hfuel
      have hroot : verifyDidKeyMatch libraries.ucan ucan.issuer
          (ucanPubKeyOf libraries ownerKey) = .ok () := by
        rw [hissuer]
        exact verifyDidKeyMatch_didOfKey hencodings (hkeys ownerKey)
      simp [validateUcanPermission, hroot]
  | @share ancestors delegator sharerKey _ _ hchain hpasses ih =>
      obtain ⟨fuel, rfl⟩ := Nat.exists_eq_add_one.mpr (Nat.zero_lt_of_lt hfuel)
      obtain ⟨authority, hdelegator, hpermitted⟩ :=
        ih (List.subset_of_cons_subset hstored)
          (fun ancestor hmem => hfiled ancestor (List.mem_cons_of_mem _ hmem))
          (Nat.lt_of_succ_lt_succ hfuel)
      obtain ⟨ucan, hlink, hissuer, hproofs⟩ :=
        linkToken_share hcrate hencodings hpasses hdelegator
      have hparent := resolveParent_of_properlyFiled hcrate hfiled List.mem_cons_self
        (hstored List.mem_cons_self) hdelegator hissuer
      refine ⟨ucan, hlink, ?_⟩
      rcases did_cases hencodings hkeys sharerKey ownerKey with hroot | hother
      · simp [validateUcanPermission, hissuer, hroot]
      · simp [validateUcanPermission, hissuer, hother, hproofs, tryProofs, hparent,
          hdelegator.updates, hpermitted]

end Accepted

def answers (request : UcanRequest) (ucan : Ucan) : Bool :=
  ucan.issuer = request.issuer && ucan.audience = request.audience &&
    ucan.capabilities = request.capabilities &&
      ucan.proofs = request.witnessedBy.map fun parent => [parent.signedData]

def listedCrate (tokens : List Ucan) : UcanCrate :=
  { tryFrom := fun text =>
      match tokens.find? fun ucan => ucan.signedData = text with
      | some ucan => .ok ucan
      | none => .error "not a token"
    validate := fun _ _ => .ok ()
    toCid := fun ucan => .ok ucan.signedData
    build := fun _ => .ok ()
    sign := fun request =>
      match tokens.find? (answers request) with
      | some ucan => .ok ucan
      | none => .error "not a token"
    encode := fun ucan => .ok ucan.signedData }

theorem listedCrate_tryFrom {tokens : List Ucan} {text : String} {ucan : Ucan}
    (hread : (listedCrate tokens).tryFrom text = .ok ucan) :
    ucan ∈ tokens ∧ ucan.signedData = text := by
  simp only [listedCrate] at hread
  split at hread
  · next found hfound =>
      cases hread
      exact ⟨List.mem_of_find?_eq_some hfound, by simpa using List.find?_some hfound⟩
  · cases hread

theorem listedCrate_sign {tokens : List Ucan} {request : UcanRequest} {ucan : Ucan}
    (hsign : (listedCrate tokens).sign request = .ok ucan) :
    ucan ∈ tokens ∧ answers request ucan = true := by
  simp only [listedCrate] at hsign
  split at hsign
  · next found hfound =>
      cases hsign
      exact ⟨List.mem_of_find?_eq_some hfound, List.find?_some hfound⟩
  · cases hsign

theorem soundCrate_listed {tokens : List Ucan}
    (hdistinct : (tokens.map fun ucan => ucan.signedData).Nodup) :
    SoundCrate (listedCrate tokens) where
  sign request ucan hsign := by
    have hanswers := (listedCrate_sign hsign).2
    simp only [answers, Bool.and_eq_true, decide_eq_true_eq] at hanswers
    exact ⟨hanswers.1.1.1, hanswers.1.1.2, hanswers.1.2⟩
  proofs request ucan parent cid hsign hwitness hcid := by
    have hanswers := (listedCrate_sign hsign).2
    simp only [answers, Bool.and_eq_true, decide_eq_true_eq] at hanswers
    rw [hanswers.2, hwitness, ← Except.ok.inj hcid]
    rfl
  tryFrom request ucan token hsign hencode := by
    have hmem := (listedCrate_sign hsign).1
    cases hencode
    simp only [listedCrate]
    split
    · next found hfound =>
        have hsame : found.signedData = ucan.signedData := by
          simpa using List.find?_some hfound
        rw [List.inj_on_of_nodup_map hdistinct (List.mem_of_find?_eq_some hfound) hmem hsame]
    · next hnone =>
        have hdiffers := List.find?_eq_none.mp hnone ucan hmem
        simp at hdiffers
  validate _ _ _ _ _ _ := rfl
  cid_inj token other ucan ucan' cid hread hread' hcid hcid' := by
    obtain ⟨hmem, -⟩ := listedCrate_tryFrom hread
    obtain ⟨hmem', -⟩ := listedCrate_tryFrom hread'
    exact List.inj_on_of_nodup_map hdistinct hmem hmem'
      (Except.ok.inj (hcid.trans hcid'.symm))

namespace ThreeHolders

def keyText (name : Char) : String := String.ofList (List.replicate 32 name)

def did (key : String) : String := didOfKey (tabledLibraries []) (textBytes key)

def grants (abilities : List String) : List Capability :=
  abilities.map fun ability => { resource := resourceUri "livnote" "a", ability }

def tokens : List Ucan :=
  [{ issuer := did (keyText 'O'), audience := did (keyText 'O')
     capabilities := grants ["crud/read", "crud/update", "crud/delete", "ucan/share"]
     signedData := "o" },
    { issuer := did (keyText 'O'), audience := did (keyText 'P')
      capabilities := grants ["crud/read", "crud/update", "ucan/share"]
      proofs := some ["o"], signedData := "p" },
    { issuer := did (keyText 'P'), audience := did (keyText 'Q')
      capabilities := grants ["crud/read", "crud/update", "ucan/share"]
      proofs := some ["p"], signedData := "q" }]

def libraries : Libraries :=
  let tabled := Libraries.tabled []
  { tabled with
    ucan := { tabled.ucan with crate := listedCrate tokens, verifyingKey := fun key =>
      if key = [] then [0] else key } }

def env (cert : String) : ServiceEnv :=
  { libraries, cert := some cert, now := 0, domain := "livnote", fuel := 4 }

def user (name : Char) : User :=
  { User.sample name.toString with ucanPubKey := keyText name }

def record (id sharer recipient token : String) : ShareRecord :=
  ShareRecord.prepareShareRecord id 0 "a" sharer recipient .write token token

def ownerRecord : ShareRecord := record "1" "O" "O" "o"

def tables (holder : Char) (shareRecords : List ShareRecord) : RepositoryContext :=
  { users := [user 'O', user 'P', user 'Q']
    folders := [Folder.sample "f"]
    resources := [Resource.new "a" 0 .notes (.other "") "f" "" "O"]
    resourceKeys := [ResourceKey.new "k" 0 "a" holder.toString
      (.sealed holder.toString "key") true]
    shareRecords
    ucanKey := some (.sealed holder.toString (keyText holder)) }

def shareOf (holder recipient : Char) (shareRecords : List ShareRecord) :
    Except ServiceError (Option ResourceSharingData) × RepositoryContext :=
  (prepareShareResource (env holder.toString) recipient.toString "a" (passedOn "livnote" "a")
    (user holder)).run (tables holder shareRecords)

def sharedData (result : Except ServiceError (Option ResourceSharingData) × RepositoryContext) :
    Option ResourceSharingData :=
  match result.1 with
  | .ok (some sharingData) => some sharingData
  | _ => none

theorem eq_of_sharedData
    {result : Except ServiceError (Option ResourceSharingData) × RepositoryContext}
    (hsome : (sharedData result).isSome) :
    result = (.ok (some ((sharedData result).get hsome)), result.2) := by
  rcases result with ⟨_ | _ | sharingData, after⟩
  · cases hsome
  · cases hsome
  · rfl

def preparedShare (holder recipient : Char) (shareRecords : List ShareRecord)
    (hsome : (sharedData (shareOf holder recipient shareRecords)).isSome) :
    PreparedShare "a" :=
  { env := env holder.toString
    ctx := tables holder shareRecords
    recipientUserId := recipient.toString
    permissions := passedOn "livnote" "a"
    currentUser := user holder
    sharingData := (sharedData (shareOf holder recipient shareRecords)).get hsome
    after := (shareOf holder recipient shareRecords).2
    prepared := eq_of_sharedData hsome }

def toP : PreparedShare "a" := preparedShare 'O' 'P' [ownerRecord] (by decide +kernel)

def toQ : PreparedShare "a" :=
  preparedShare 'P' 'Q' [ownerRecord, toP.sharingData.shareRecord] (by decide +kernel)

theorem toP_shareRecord : toP.sharingData.shareRecord = record "i" "O" "P" "p" := by
  decide +kernel

theorem toQ_shareRecord : toQ.sharingData.shareRecord = record "i" "P" "Q" "q" := by
  decide +kernel

theorem sound : SoundCrate libraries.ucan.crate := soundCrate_listed (by decide +kernel)

theorem keys_nonempty (key : Bytes) : libraries.ucan.verifyingKey key ≠ [] := by
  simp only [libraries]
  split
  · simp
  · assumption

theorem unexpired : Unexpired 0 0 := ⟨le_refl 0, by decide⟩

theorem firstLink : ShareChain libraries 0 "livnote" "a" (textBytes (keyText 'O'))
    [ownerRecord] toP.sharingData.shareRecord (textBytes (keyText 'P')) := by
  refine .share (.owner unexpired (by decide +kernel)) ?_
  exact
    { libraries_eq := rfl
      unexpired
      delegator_eq := by decide +kernel
      signs := ⟨.sealed "O" (keyText 'O'), by decide +kernel, by decide +kernel⟩
      recipient := ⟨user 'P', by decide +kernel, by decide +kernel⟩
      permits := fun _ hmem => hmem }

theorem chain : ShareChain libraries 0 "livnote" "a" (textBytes (keyText 'O'))
    [toP.sharingData.shareRecord, ownerRecord] toQ.sharingData.shareRecord
      (textBytes (keyText 'Q')) := by
  refine .share firstLink ?_
  exact
    { libraries_eq := rfl
      unexpired
      delegator_eq := by
        change ShareRepo.findByResourceAndOperationAndUser "a" .share (user 'P').id
          (tables 'P' [ownerRecord, toP.sharingData.shareRecord]) = _
        rw [toP_shareRecord]
        decide +kernel
      signs := ⟨.sealed "P" (keyText 'P'), by decide +kernel, by decide +kernel⟩
      recipient := ⟨user 'Q', by decide +kernel, by decide +kernel⟩
      permits := fun _ hmem => hmem }

def stored : RepositoryContext :=
  tables 'R' [ownerRecord, toP.sharingData.shareRecord]

def misfiled : RepositoryContext :=
  tables 'R' [{ ownerRecord with id := "0", ucanCid := "p" }, ownerRecord,
    toP.sharingData.shareRecord]

end ThreeHolders

end Osvauld.Services
