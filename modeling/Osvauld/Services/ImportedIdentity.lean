import Osvauld.Services.CertificateLifeCycle

namespace Osvauld.Services

open Osvauld.Core CryptoUtils Data Persistance

/-! An account on the device that made it and on one that imports it. -/

variable {Cert : Type}

def derivedUcanKey (libraries : Libraries) (certs : CertLibrary Cert) (cert : Cert) :
    CryptoResult String :=
  (liftUcan (certs.deriveUcanKeysFromPgp cert)).map fun signingKey =>
    libraries.ucan.encodings.base64Encode (libraries.ucan.verifyingKey signingKey)

/-- Both rows are one identity: the same to whoever looks them up, and in every check
of a token that takes a key from them. -/
structure SameIdentity (libraries : Libraries) (first second : User) : Prop where
  id : second.id = first.id
  publicKey : second.publicKey = first.publicKey
  ucanPubKey : second.ucanPubKey = first.ucanPubKey
  verifies : ∀ now token presenterUcanPub domain,
    validateConnectToken libraries.ucan now token presenterUcanPub second.ucanPubKey
        second.id domain =
      validateConnectToken libraries.ucan now token presenterUcanPub first.ucanPubKey
        first.id domain
  presents : ∀ now token verifierUcanPub verifierUserId domain,
    validateConnectToken libraries.ucan now token second.ucanPubKey verifierUcanPub
        verifierUserId domain =
      validateConnectToken libraries.ucan now token first.ucanPubKey verifierUcanPub
        verifierUserId domain
  authorises : ∀ now proofResolver fuel token peerUcanPub resourceId domain,
    validateAuthorityForUpdate libraries.ucan now proofResolver fuel token peerUcanPub
        second.ucanPubKey resourceId domain =
      validateAuthorityForUpdate libraries.ucan now proofResolver fuel token peerUcanPub
        first.ucanPubKey resourceId domain
  updates : ∀ now proofResolver fuel token rootUcanPub resourceId domain,
    validateAuthorityForUpdate libraries.ucan now proofResolver fuel token
        second.ucanPubKey rootUcanPub resourceId domain =
      validateAuthorityForUpdate libraries.ucan now proofResolver fuel token
        first.ucanPubKey rootUcanPub resourceId domain

theorem SameIdentity.of_eq {libraries : Libraries} {first second : User}
    (hid : second.id = first.id) (hpublic : second.publicKey = first.publicKey)
    (hucan : second.ucanPubKey = first.ucanPubKey) :
    SameIdentity libraries first second := by
  refine ⟨hid, hpublic, hucan, ?_, ?_, ?_, ?_⟩
  · intro now token presenterUcanPub domain
    rw [hid, hucan]
  · intro now token verifierUcanPub verifierUserId domain
    rw [hucan]
  · intro now proofResolver fuel token peerUcanPub resourceId domain
    rw [hucan]
  · intro now proofResolver fuel token rootUcanPub resourceId domain
    rw [hucan]

section Import

variable {env : AuthEnv Cert} {draw : Draw} {cert : Cert}
variable {username passphrase domain text userId peerDeviceId : String}

def drawnDeviceId (libraries : Libraries) (draw : Draw) : String :=
  libraries.ucan.encodings.base64Encode (libraries.ucan.verifyingKey draw.deviceKey)

theorem encryptTextPgp_of_keyId {libraries : Libraries} {publicKey : String}
    (hid : getKeyId libraries publicKey = .ok userId) (plain : String) :
    encryptTextPgp libraries publicKey plain = .ok (.sealed publicKey plain) := by
  unfold getKeyId at hid
  unfold encryptTextPgp
  split at hid
  · cases hid
  · rfl

theorem prepareImport_of_derives {signingKey : Bytes}
    (hparse : env.certs.fromStr text = .ok cert)
    (hid : getKeyId env.libraries (env.certs.getPublicKeyArmored cert) = .ok userId)
    (hderive : env.certs.deriveUcanKeysFromPgp cert = .ok signingKey) :
    ∃ account, prepareImport env draw text passphrase username = .ok account ∧
      account.user.id = userId ∧
        account.user.publicKey = env.certs.getPublicKeyArmored cert ∧
          account.user.ucanPubKey = "owner_cid" ∧
            account.device =
              Device.new env.now (drawnDeviceId env.libraries draw)
                (drawnDeviceId env.libraries draw) account.user.id := by
  have himport : importCertificate env.certs draw.salt text passphrase =
      .ok { privateKey := .certificate cert passphrase draw.salt
            publicKey := env.certs.getPublicKeyArmored cert
            salt := encodeSalt draw.salt } := by
    rw [importCertificate, hparse]
    rfl
  have hucan : ∃ ucanCertificate, generateUcanKey env (some cert) = .ok ucanCertificate := by
    simp [generateUcanKey, generateAndEncryptUcanKey, hderive, liftUcan,
      encryptTextPgp_of_keyId hid, ofCrypto, Except.mapError, bind, Except.bind, pure,
      Except.pure]
  obtain ⟨ucanCertificate, hucan⟩ := hucan
  simp [prepareImport, himport, hid, hucan, createDevice, generateAndEncryptEd25519Key,
    encryptTextPgp_of_keyId hid, ofCrypto, Except.mapError, bind, Except.bind, pure,
    Except.pure, User.new, Device.new, drawnDeviceId]

theorem prepareSignup_publicKey {account : NewAccount Cert} {folder : Folder}
    {record : FolderShareRecord}
    (hprepare : prepareSignup env draw username passphrase domain =
      .ok (account, folder, record)) :
    account.user.publicKey = account.primaryCertificate.publicKey := by
  simp only [prepareSignup, bind_eq_ok] at hprepare
  obtain ⟨primary, _, cert, _, userId, _, ucanCertificate, _, signingKey, _, token, _,
    pair, _, hresult⟩ := hprepare
  cases hresult
  rfl

theorem commitSignupTransaction_new {user : User} {primary ucanCertificate : Certificate Cert}
    {deviceId : String} {deviceCertificate : Certificate Cert} {now : Int} :
    (UserRepo.commitSignupTransaction now user primary
        (Device.new now deviceId deviceId user.id) deviceCertificate
        (some (Device.new now peerDeviceId peerDeviceId user.id)) ucanCertificate
        {}).isOk = true ↔ deviceId ≠ peerDeviceId := by
  by_cases hpeer : deviceId = peerDeviceId <;>
    simp [UserRepo.commitSignupTransaction, DeviceStore.onTables, DeviceStore.insertItem,
      Table.insert, Table.users, Table.devices, userExists, Device.new, hpeer, Except.map,
      Except.mapError, bind, Except.bind, Except.isOk, Except.toBool]

theorem handleSignup_stores {store : DeviceStore Cert}
    (hsignup : (handleSignup env draw username passphrase domain).run {} =
      (.ok .unit, store)) :
    ∃ stored cert, store.ctx.users = [stored] ∧
      Certifies env.libraries env.certs cert stored ∧
        stored.publicKey = env.certs.getPublicKeyArmored cert ∧
          (exportAccount env passphrase).run store = (.ok (env.certs.armored cert), store) := by
  rcases @handleSignup_cases _ env draw {} username passphrase domain with
    ⟨error, hrun⟩ | ⟨account, folder, record, committed, hprepare, hcommitted, hrun⟩
  · cases hsignup.symm.trans hrun
  obtain ⟨cert, hseals, hcertifies, howner, hfolder, hshared, hrecipient⟩ :=
    prepareSignup_eq_ok hprepare
  have hpublic := prepareSignup_publicKey hprepare
  have hopens := opens_of_committed hcommitted hseals hcertifies.1
  have husers : committed.ctx.users = [account.user] := by simp [hcommitted.tables]
  have hexists : userExists committed.ctx account.user.id = true := by
    simp [userExists, husers]
  have hsaved := @saveFolderWithShareRecord_of_empty committed.ctx folder record
    (by simp [hcommitted.tables]) (by simp [hcommitted.tables]) hfolder
    (hshared ▸ hexists) (hrecipient ▸ hexists)
  have hstore : store = { committed with
      ctx := { committed.ctx with
        folders := [folder], folderShareRecords := [record] } } := by
    rw [hrun, updateTables, updateStore, Program.run_write, hsaved] at hsignup
    exact (congrArg Prod.snd hsignup).symm
  rw [Seals] at hseals
  have hopens' : Opens env.libraries env.certs store cert passphrase := by
    rw [hstore]
    exact ⟨hopens.sealed, hopens.user, hopens.device⟩
  refine ⟨account.user, cert, ?_, hcertifies, ?_, hopens'.exportAccount_run⟩
  · rw [hstore]
    exact husers
  · rw [hpublic, hseals]

theorem importUser_stores {signingKey : Bytes} (hparse : env.certs.fromStr text = .ok cert)
    (hid : getKeyId env.libraries (env.certs.getPublicKeyArmored cert) = .ok userId)
    (hderive : env.certs.deriveUcanKeysFromPgp cert = .ok signingKey) :
    (((importUser env draw text passphrase username peerDeviceId).run {}).2.ctx.users =
        [] ∧ drawnDeviceId env.libraries draw = peerDeviceId) ∨
      ∃ imported, ((importUser env draw text passphrase username
          peerDeviceId).run {}).2.ctx.users = [imported] ∧
        drawnDeviceId env.libraries draw ≠ peerDeviceId ∧ imported.id = userId ∧
          imported.publicKey = env.certs.getPublicKeyArmored cert ∧
            imported.ucanPubKey = "owner_cid" := by
  obtain ⟨account, hprepare, haccountId, hpublic, hucan, hdevice⟩ :=
    @prepareImport_of_derives _ env draw cert username passphrase text userId signingKey
      hparse hid hderive
  rw [importUser, Program.run_bind, Program.run_ofExcept, hprepare, Program.andThen_ok,
    Program.run_bind, updateStore, Program.run_write, hdevice]
  cases hcommit : UserRepo.commitSignupTransaction env.now account.user
      account.primaryCertificate (Device.new env.now (drawnDeviceId env.libraries draw)
        (drawnDeviceId env.libraries draw) account.user.id) account.deviceCertificate
      (some (Device.new env.now peerDeviceId peerDeviceId account.user.id))
      account.ucanCertificate ({} : DeviceStore Cert) with
  | error error =>
      have hrefused := commitSignupTransaction_new.not.mp (fun hok => by
        rw [hcommit] at hok
        cases hok)
      exact .inl ⟨rfl, not_not.mp hrefused⟩
  | ok committed =>
      have haccepted := commitSignupTransaction_new.mp (by rw [hcommit]; rfl)
      have hcommitted := UserRepo.commitSignupTransaction_eq_ok hcommit
      refine .inr ⟨account.user, ?_, haccepted, haccountId, hpublic, hucan⟩
      change committed.ctx.users = _
      rw [hcommitted.tables]
      rfl

def Reproduces (env : AuthEnv Cert) (cert : Cert) (stored : User)
    (store : DeviceStore Cert) : Prop :=
  ∃ imported, store.ctx.users = [imported] ∧
    derivedUcanKey env.libraries env.certs cert = .ok imported.ucanPubKey ∧
      SameIdentity env.libraries stored imported

/-- The import files the derived key as a CID, and the text meant for the CID as the
key: the account is whole where the two are one. -/
theorem reproduces_iff {first : DeviceStore Cert} {now : Int} {newDraw : Draw}
    {newPassphrase newUsername : String}
    (hroundTrip : ∀ cert, env.certs.fromStr (env.certs.armored cert) = .ok cert)
    (hsignup : (handleSignup env draw username passphrase domain).run {} =
      (.ok .unit, first)) :
    ∃ stored cert, first.ctx.users = [stored] ∧
      (exportAccount env passphrase).run first = (.ok (env.certs.armored cert), first) ∧
        Certifies env.libraries env.certs cert stored ∧
          (Reproduces env cert stored
              ((importUser { env with now } newDraw (env.certs.armored cert) newPassphrase
                newUsername peerDeviceId).run {}).2 ↔
            drawnDeviceId env.libraries newDraw ≠ peerDeviceId ∧
              derivedUcanKey env.libraries env.certs cert = .ok "owner_cid") := by
  obtain ⟨stored, cert, husers, hcertifies, hpublic, hexport⟩ := handleSignup_stores hsignup
  refine ⟨stored, cert, husers, hexport, hcertifies, ?_⟩
  obtain ⟨hid, signingKey, hderive, hucan⟩ := hcertifies
  have hderived : derivedUcanKey env.libraries env.certs cert = .ok stored.ucanPubKey := by
    rw [derivedUcanKey, hderive, hucan]
    rfl
  have hstores := @importUser_stores _ { env with now } newDraw cert newUsername
    newPassphrase (env.certs.armored cert) stored.id peerDeviceId signingKey
    (hroundTrip cert) hid hderive
  rcases hstores with ⟨hnone, hpeer⟩ | ⟨imported, hone, hpeer, hsameId, hsameKey, hcid⟩
  · refine iff_of_false ?_ fun hcondition => hcondition.1 hpeer
    rintro ⟨imported, hone, _⟩
    cases hnone.symm.trans hone
  · constructor
    · rintro ⟨imported', hone', hderived', hsame⟩
      cases hone.symm.trans hone'
      exact ⟨hpeer, hcid ▸ hderived'⟩
    · rintro ⟨_, hliteral⟩
      have hkey : imported.ucanPubKey = stored.ucanPubKey := by
        rw [hcid]
        exact Except.ok.inj (hliteral.symm.trans hderived)
      exact ⟨imported, hone, hkey ▸ hderived,
        .of_eq hsameId (hsameKey.trans hpublic.symm) hkey⟩

end Import

namespace TextCertificate

def env : AuthEnv String := { libraries, certs, now := 0 }

def signedUp : DeviceStore String :=
  ((handleSignup env draw "alice" "first" "domain").run {}).2

def importing : DeviceStore String :=
  ((importUser { env with now := 1 } draw "alice" "second" "alice" "phone").run {}).2

end TextCertificate

open TextCertificate in
theorem reproduces_iff_signedUp :
    ∃ stored cert, signedUp.ctx.users = [stored] ∧
      (exportAccount env "first").run signedUp = (.ok (certs.armored cert), signedUp) ∧
        Certifies libraries certs cert stored ∧
          (Reproduces env cert stored
              ((importUser { env with now := 1 } draw (certs.armored cert) "second"
                "alice" "phone").run {}).2 ↔
            drawnDeviceId libraries draw ≠ "phone" ∧
              derivedUcanKey libraries certs cert = .ok "owner_cid") := by
  have hsignup : (handleSignup env draw "alice" "first" "domain").run {} =
      (.ok .unit, signedUp) := rfl
  exact reproduces_iff (fun _ => rfl) hsignup

open TextCertificate in
theorem not_reproduces_signedUp :
    ∃ stored, signedUp.ctx.users = [stored] ∧
      ((exportAccount env "first").run signedUp).1 = .ok "alice" ∧
        ¬ Reproduces env "alice" stored importing := by
  refine ⟨_, rfl, rfl, ?_⟩
  rintro ⟨imported, hone, hderived, _⟩
  have hkey : importing.ctx.users.map (fun user => user.ucanPubKey) = ["owner_cid"] := by
    decide +kernel
  rw [hone] at hkey
  rw [List.map_singleton, List.singleton_inj] at hkey
  rw [hkey] at hderived
  exact absurd hderived (by decide +kernel)

end Osvauld.Services
