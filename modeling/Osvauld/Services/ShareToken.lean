import Osvauld.Services.Provenance

namespace Osvauld.Services

open Osvauld.Core CryptoUtils Data Persistance

/-! What the tokens of the share records made here say. -/

structure FaithfulCrate (crate : UcanCrate) : Prop where
  sign : ∀ request ucan, crate.sign request = .ok ucan →
    ucan.issuer = request.issuer ∧ ucan.audience = request.audience ∧
      ucan.capabilities = request.capabilities
  proofs : ∀ request ucan parent cid, crate.sign request = .ok ucan →
    request.witnessedBy = some parent → crate.toCid parent = .ok cid →
      ucan.proofs = some [cid]
  tryFrom : ∀ request ucan token, crate.sign request = .ok ucan →
    crate.encode ucan = .ok token → crate.tryFrom token = .ok ucan

structure CarriesToken (libraries : UcanLibraries) (record : ShareRecord)
    (ucan : Ucan) : Prop where
  parsed : parseToken libraries record.ucanToken = .ok ucan
  cid_eq : cidOf libraries ucan = .ok record.ucanCid

section Made

variable {libraries : UcanLibraries}

variable {ucan : Ucan} {token recipientUcanPubKey proofUcan : String} {now : Int}
  {signingKey : Bytes} {permissions : List (String × String)} {record : ShareRecord}

theorem buildAndSign_eq_ok {request : UcanRequest}
    (hsigned : buildAndSign libraries request = .ok ucan) :
    libraries.crate.sign request = .ok ucan := by
  unfold buildAndSign at hsigned
  split at hsigned
  · cases hsigned
  · split at hsigned
    · cases hsigned
    · next hsign =>
        cases hsigned
        exact hsign

theorem encodeToken_eq_ok (hencoded : encodeToken libraries ucan = .ok token) :
    libraries.crate.encode ucan = .ok token := by
  unfold encodeToken at hencoded
  split at hencoded
  · cases hencoded
  · next hencode =>
      cases hencoded
      exact hencode

theorem cidOf_eq_ok {cid : String} (hcid : cidOf libraries ucan = .ok cid) :
    libraries.crate.toCid ucan = .ok cid := by
  unfold cidOf at hcid
  split at hcid
  · cases hcid
  · next hcrate =>
      cases hcid
      exact hcrate

theorem parseToken_eq_ok :
    parseToken libraries token = .ok ucan ↔
      libraries.crate.tryFrom token = .ok ucan := by
  unfold parseToken
  split <;> simp_all

def delegatedRequest (libraries : UcanLibraries) (now : Int) (signingKey : Bytes)
    (recipientDid : String) (permissions : List (String × String)) (authority : Ucan) :
    UcanRequest :=
  { signingKey
    issuer := didOfKey libraries (libraries.verifyingKey signingKey)
    audience := recipientDid, issuedAt := now, lifetimeSeconds := thirtyYears
    capabilities := permissions.map fun (resource, ability) => { resource, ability }
    witnessedBy := some authority }

theorem generateDelegatedUcan_signs {cid : String}
    (hmade : generateDelegatedUcan libraries now signingKey recipientUcanPubKey
      permissions proofUcan = .ok (token, cid)) :
    ∃ ucan authority recipientDid, parseToken libraries proofUcan = .ok authority ∧
      pubKeyB64ToDid libraries recipientUcanPubKey = .ok recipientDid ∧
      libraries.crate.sign (delegatedRequest libraries now signingKey recipientDid permissions
        authority) = .ok ucan ∧
      libraries.crate.encode ucan = .ok token ∧ cidOf libraries ucan = .ok cid := by
  simp only [generateDelegatedUcan, bind_eq_ok] at hmade
  obtain ⟨authority, hparsed, recipientDid, hrecipient, ucan, hsigned, token, hencoded,
    cid, hcid, hresult⟩ := hmade
  cases hresult
  exact ⟨ucan, authority, recipientDid, hparsed, hrecipient, buildAndSign_eq_ok hsigned,
    encodeToken_eq_ok hencoded, hcid⟩

variable (hcrate : FaithfulCrate libraries.crate)

include hcrate

theorem carriesToken_of_signed {request : UcanRequest}
    (hsigned : buildAndSign libraries request = .ok ucan)
    (hcid : cidOf libraries ucan = .ok record.ucanCid)
    (hencoded : encodeToken libraries ucan = .ok record.ucanToken) :
    CarriesToken libraries record ucan :=
  { parsed := parseToken_eq_ok.mpr (hcrate.tryFrom request ucan _
      (buildAndSign_eq_ok hsigned) (encodeToken_eq_ok hencoded))
    cid_eq := hcid }

theorem generateOwnerUcan_token {uri : String} {abilities : List String}
    (hmade : generateOwnerUcan libraries now signingKey uri abilities =
      .ok (record.ucanToken, record.ucanCid)) :
    ∃ ucan, CarriesToken libraries record ucan ∧
      ucan.issuer = didOfKey libraries (libraries.verifyingKey signingKey) ∧
      ucan.audience = ucan.issuer ∧
      ucan.capabilities = abilities.map fun ability => { resource := uri, ability } := by
  simp only [generateOwnerUcan, bind_eq_ok] at hmade
  obtain ⟨ucan, hsigned, cid, hcid, token, hencoded, hresult⟩ := hmade
  cases hresult
  obtain ⟨hissuer, haudience, hcapabilities⟩ :=
    hcrate.sign _ _ (buildAndSign_eq_ok hsigned)
  exact ⟨ucan, carriesToken_of_signed hcrate hsigned hcid hencoded, hissuer,
    haudience.trans hissuer.symm, hcapabilities⟩

theorem generateDelegatedUcan_eq_ok {cid : String}
    (hmade : generateDelegatedUcan libraries now signingKey recipientUcanPubKey
      permissions proofUcan = .ok (token, cid)) :
    ∃ ucan authority, parseToken libraries token = .ok ucan ∧
      cidOf libraries ucan = .ok cid ∧
      parseToken libraries proofUcan = .ok authority ∧
      ucan.issuer = didOfKey libraries (libraries.verifyingKey signingKey) ∧
      pubKeyB64ToDid libraries recipientUcanPubKey = .ok ucan.audience ∧
      ucan.capabilities = permissions.map (fun (resource, ability) =>
        { resource, ability }) ∧
      ∀ cid, cidOf libraries authority = .ok cid → ucan.proofs = some [cid] := by
  obtain ⟨ucan, authority, recipientDid, hparsed, hrecipient, hsign, hencode, hcid⟩ :=
    generateDelegatedUcan_signs hmade
  obtain ⟨hissuer, haudience, hcapabilities⟩ := hcrate.sign _ _ hsign
  have hread := hcrate.tryFrom _ ucan _ hsign hencode
  exact ⟨ucan, authority, parseToken_eq_ok.mpr hread, hcid, hparsed, hissuer,
    by rw [haudience]; exact hrecipient, hcapabilities,
    fun cid hcid => hcrate.proofs _ _ _ _ hsign rfl (cidOf_eq_ok hcid)⟩

theorem generateDelegatedUcan_token
    (hmade : generateDelegatedUcan libraries now signingKey recipientUcanPubKey
      permissions proofUcan = .ok (record.ucanToken, record.ucanCid)) :
    ∃ ucan authority, CarriesToken libraries record ucan ∧
      parseToken libraries proofUcan = .ok authority ∧
      ucan.issuer = didOfKey libraries (libraries.verifyingKey signingKey) ∧
      pubKeyB64ToDid libraries recipientUcanPubKey = .ok ucan.audience ∧
      ucan.capabilities = permissions.map (fun (resource, ability) =>
        { resource, ability }) ∧
      ∀ cid, cidOf libraries authority = .ok cid → ucan.proofs = some [cid] := by
  obtain ⟨ucan, authority, hparsed, hcid, hrest⟩ := generateDelegatedUcan_eq_ok hcrate hmade
  exact ⟨ucan, authority, ⟨hparsed, hcid⟩, hrest⟩

end Made

def SignsWith (env : ServiceEnv) (ctx : RepositoryContext) (signingKey : Bytes) :
    Prop :=
  ∃ encryptedKey, SeenBy StoreRepo.getUcanKey encryptedKey ctx ∧
    decryptUcanKey env.libraries env.cert encryptedKey = .ok signingKey

def signerDid (env : ServiceEnv) (signingKey : Bytes) : String :=
  didOfKey env.libraries.ucan (env.libraries.ucan.verifyingKey signingKey)

/-- A user's record of its own resource: a token issued to itself, for
everything about the resource. -/
structure OwnerShare (env : ServiceEnv) (user : User) (record : ShareRecord)
    (ctx : RepositoryContext) : Prop where
  sharer_eq : record.sharedByUserId = user.id
  recipient_eq : record.recipientUserId = user.id
  token : ∃ signingKey ucan, SignsWith env ctx signingKey ∧
    CarriesToken env.libraries.ucan record ucan ∧
    ucan.issuer = signerDid env signingKey ∧ ucan.audience = ucan.issuer ∧
    ucan.capabilities = ["crud/read", "crud/update", "crud/delete", "ucan/share"].map
      fun ability =>
        { resource := resourceUri env.domain record.resourceId, ability }

/-- The token for a recipient rests on that of a stored record of the sharer, and
this one on a chain of stored tokens up to the key of the resource's owner. -/
structure DelegatedToken (env : ServiceEnv) (permissions : List (String × String))
    (record delegator : ShareRecord) (ucan authority : Ucan)
    (ctx : RepositoryContext) : Prop where
  carries : CarriesToken env.libraries.ucan record ucan
  issuer : ∃ signingKey, SignsWith env ctx signingKey ∧
    ucan.issuer = signerDid env signingKey
  audience : ∃ recipient,
    SeenBy (UserRepo.getUserById record.recipientUserId) recipient ctx ∧
      pubKeyB64ToDid env.libraries.ucan recipient.ucanPubKey = .ok ucan.audience
  capabilities : ucan.capabilities = permissions.map fun (resource, ability) =>
    { resource, ability }
  stored : delegator ∈ ctx.shareRecords
  resource_eq : delegator.resourceId = record.resourceId
  recipient_eq : delegator.recipientUserId = record.sharedByUserId
  parsed : parseToken env.libraries.ucan delegator.ucanToken = .ok authority
  proofs : ∀ cid, cidOf env.libraries.ucan authority = .ok cid →
    ucan.proofs = some [cid]
  rooted : ∃ owner domain chain,
    SeenBy (ResourceRepo.findOwnerByResourceId record.resourceId) owner ctx ∧
      DelegationChain
        (fun child parent =>
          Delegates env.libraries.ucan env.now (resolveProof ctx) child parent ∧
            Grants (resourceUri domain record.resourceId) "ucan/share" parent)
        (IssuedBy env.libraries.ucan owner.ucanPubKey) authority chain

structure DelegatedShare (env : ServiceEnv) (recipientUserId resourceId : String)
    (permissions : List (String × String)) (currentUser : User)
    (record : ShareRecord) (ctx : RepositoryContext) : Prop where
  resource_eq : record.resourceId = resourceId
  sharer_eq : record.sharedByUserId = currentUser.id
  recipient_eq : record.recipientUserId = recipientUserId
  token : ∃ delegator ucan authority,
    DelegatedToken env permissions record delegator ucan authority ctx

section Explained

variable {env : ServiceEnv} {record : ShareRecord} {ctx : RepositoryContext}

theorem resolveProof_grows {ctx' : RepositoryContext} (hgrows : Grows ctx ctx')
    {cid token : String} (hproof : resolveProof ctx cid = .ok token) :
    resolveProof ctx' cid = .ok token := by
  obtain ⟨added, heq, _⟩ := hgrows.shareRecords
  unfold resolveProof ShareRepo.getUcanByCid at hproof ⊢
  rw [heq, List.find?_append]
  cases hfound : ctx.shareRecords.find? fun record => record.ucanCid = cid with
  | none =>
      rw [hfound] at hproof
      cases hproof
  | some found =>
      rw [hfound] at hproof
      exact hproof

theorem Delegates.grows {libraries : UcanLibraries} {now : Int}
    {ctx' : RepositoryContext} {child parent : Ucan}
    (hdelegates : Delegates libraries now (resolveProof ctx) child parent)
    (hgrows : Grows ctx ctx') :
    Delegates libraries now (resolveProof ctx') child parent := by
  obtain ⟨cid, hcid, token, htoken, hvalid⟩ := hdelegates.resolved
  exact { hdelegates with
    resolved := ⟨cid, hcid, token, resolveProof_grows hgrows htoken, hvalid⟩ }

theorem delegator_stored {resourceId userId : String} {delegator : ShareRecord}
    (hseen : SeenBy (ShareRepo.findByResourceAndOperationAndUser resourceId .share
      userId) delegator ctx) :
    delegator ∈ ctx.shareRecords ∧ delegator.resourceId = resourceId ∧
      delegator.recipientUserId = userId := by
  obtain ⟨past, hpast, hread⟩ := hseen
  unfold ShareRepo.findByResourceAndOperationAndUser firstOrNotFound at hread
  split at hread
  · next found hfound =>
      cases hread
      have hmatches := List.find?_some hfound
      simp only [Bool.and_eq_true, decide_eq_true_eq] at hmatches
      exact ⟨hpast.shareRecords_subset (List.mem_of_find?_eq_some hfound),
        hmatches.1⟩
  · cases hread

theorem resourceUri_eq (domain resourceId : String) :
    domain ++ ":" ++ "resource" ++ ":" ++ resourceId =
      resourceUri domain resourceId := by
  have hpattern : ":resource:" = ":" ++ "resource" ++ ":" := by decide
  simp only [resourceUri, hpattern, String.append_assoc]

theorem issueDelegatedUcan_eq_ok {libraries : Libraries} {cert : Option String}
    {kind ability : String} {now : Int}
    {proofResolver : String → Except UcanError String} {fuel : Nat}
    {encryptedKey : PgpText} {proofUcan root id recipientUcanPubKey : String}
    {permissions : List (String × String)} {issued : String × String}
    (hissued : issueDelegatedUcan libraries cert kind ability now proofResolver fuel
      encryptedKey proofUcan root id recipientUcanPubKey permissions =
        some (.ok issued)) :
    ∃ authority domain signingKey,
      validateStructure libraries.ucan now proofUcan = .ok authority ∧
      extractDomainFromUcan authority kind = .ok domain ∧
      validateUcanPermission libraries.ucan now proofResolver root
        (domain ++ ":" ++ kind ++ ":" ++ id) ability fuel authority = some (.ok ()) ∧
      decryptUcanKey libraries cert encryptedKey = .ok signingKey ∧
      generateDelegatedUcan libraries.ucan now signingKey recipientUcanPubKey
        permissions proofUcan = .ok issued := by
  unfold issueDelegatedUcan at hissued
  split at hissued
  · cases hissued
  · next authority hauthority =>
      split at hissued
      · cases hissued
      · next domain hdomain =>
          split at hissued
          · cases hissued
          · cases hissued
          · next hpermission =>
              rw [Option.some.injEq, bind_eq_ok] at hissued
              obtain ⟨signingKey, hkey, hmade⟩ := hissued
              exact ⟨authority, domain, signingKey, hauthority, hdomain, hpermission, hkey,
                mapError_eq_ok.mp hmade⟩

variable (hcrate : FaithfulCrate env.libraries.ucan.crate)

include hcrate

theorem MadeByOwner.ownerShare {user : User}
    (hmade : MadeByOwner env user record ctx) : OwnerShare env user record ctx := by
  obtain ⟨encryptedKey, hseen, hissued⟩ := hmade.issued
  rw [resourceOwnerUcan, bind_eq_ok] at hissued
  obtain ⟨signingKey, hkey, hgenerated⟩ := hissued
  obtain ⟨ucan, hcarries, hissuer, haudience, hcapabilities⟩ :=
    generateOwnerUcan_token hcrate (mapError_eq_ok.mp hgenerated)
  exact
    { sharer_eq := hmade.sharer_eq
      recipient_eq := hmade.recipient_eq
      token := ⟨signingKey, ucan, ⟨encryptedKey, hseen, hkey⟩, hcarries, hissuer,
        haudience, hcapabilities⟩ }

theorem MadeByDelegation.delegatedShare {recipientUserId resourceId : String}
    {permissions : List (String × String)} {currentUser : User}
    (hmade : MadeByDelegation env recipientUserId resourceId permissions currentUser
      record ctx) :
    DelegatedShare env recipientUserId resourceId permissions currentUser record
      ctx := by
  obtain ⟨rfl, hsharer, rfl, delegator, recipient, owner, encryptedKey, past, hdelegator,
    hrecipient, howner, hseen, hpast, hissued⟩ := hmade
  obtain ⟨authority, domain, signingKey, hvalid, -, hpermission, hkey, hgenerated⟩ :=
    issueDelegatedUcan_eq_ok hissued
  obtain ⟨ucan, parsed, hcarries, hparsed, hissuer, haudience, hcapabilities, hproofs⟩ :=
    generateDelegatedUcan_token hcrate hgenerated
  obtain ⟨hstored, hresource, hholder⟩ := delegator_stored hdelegator
  obtain ⟨chain, hchain⟩ := validateUcanPermission_chain hpermission
  have hsame : parsed = authority := by
    rw [validateStructure, bind_eq_ok] at hvalid
    obtain ⟨read, hread, hvalid⟩ := hvalid
    split at hvalid
    · cases hvalid
    · cases hvalid
      rw [hparsed] at hread
      exact Except.ok.inj hread
  subst hsame
  refine ⟨rfl, hsharer, rfl, delegator, ucan, parsed, ?_⟩
  exact
    { carries := hcarries
      issuer := ⟨signingKey, ⟨encryptedKey, hseen, hkey⟩, hissuer⟩
      audience := ⟨recipient, hrecipient, haudience⟩
      capabilities := hcapabilities
      stored := hstored
      resource_eq := hresource
      recipient_eq := hholder.trans hsharer.symm
      parsed := hparsed
      proofs := hproofs
      rooted := ⟨owner, domain, chain, howner, hchain.mono
        (fun _ _ hlink => ⟨hlink.1.grows hpast, resourceUri_eq _ _ ▸ hlink.2⟩)
        fun _ hroot => hroot⟩ }

end Explained

end Osvauld.Services
