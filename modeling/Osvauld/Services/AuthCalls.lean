import Osvauld.Services.AuthService

namespace Osvauld.Services

open Osvauld.Core CryptoUtils Data Persistance

/-! What the calls of the account service do to a device. -/

variable {Cert : Type}

def Certifies (libraries : Libraries) (certs : CertLibrary Cert) (cert : Cert) (user : User) : Prop :=
  getKeyId libraries (certs.getPublicKeyArmored cert) = .ok user.id ∧
    ∃ signingKey, certs.deriveUcanKeysFromPgp cert = .ok signingKey ∧
      user.ucanPubKey =
        libraries.ucan.encodings.base64Encode (libraries.ucan.verifyingKey signingKey)

section Parts

variable {libraries : Libraries} {env : AuthEnv Cert} {draw : Draw}
variable {username passphrase domain certificate : String}

theorem ofCrypto_eq_ok {α : Type} {result : CryptoResult α} {value : α} :
    ofCrypto result = .ok value ↔ result = .ok value :=
  mapError_eq_ok

theorem encryptTextPgp_eq_ok {publicKey plain : String} {text : PgpText}
    (hencrypt : encryptTextPgp libraries publicKey plain = .ok text) :
    text = .sealed publicKey plain := by
  unfold encryptTextPgp at hencrypt
  split at hencrypt
  · cases hencrypt
  · exact (Except.ok.inj hencrypt).symm

theorem generateUcanKey_eq_ok {cert : Cert} {ucanCertificate : Certificate Cert}
    (hucan : generateUcanKey env (some cert) = .ok ucanCertificate) :
    ∃ signingKey, env.certs.deriveUcanKeysFromPgp cert = .ok signingKey ∧
      ucanCertificate =
        { privateKey := .pgp (.sealed (env.certs.getPublicKeyArmored cert)
            (env.libraries.ucan.encodings.base64Encode signingKey))
          publicKey := env.libraries.ucan.encodings.base64Encode
            (env.libraries.ucan.verifyingKey signingKey)
          salt := "" } := by
  simp only [generateUcanKey, bind_eq_ok, ofCrypto_eq_ok, generateAndEncryptUcanKey,
    liftUcan, mapError_eq_ok] at hucan
  obtain ⟨_, ⟨signingKey, hderive, text, hencrypt, hpair⟩, hcertificate⟩ := hucan
  cases hpair
  cases hcertificate
  rw [encryptTextPgp_eq_ok hencrypt]
  exact ⟨signingKey, hderive, rfl⟩

def Seals (env : AuthEnv Cert) (draw : Draw) (cert : Cert) (passphrase : String)
    (primary : Certificate Cert) : Prop :=
  primary =
    { privateKey := .certificate cert passphrase draw.salt
      publicKey := env.certs.getPublicKeyArmored cert
      salt := encodeSalt draw.salt }

theorem prepareSignup_eq_ok {account : NewAccount Cert} {folder : Folder}
    {record : FolderShareRecord}
    (hprepare : prepareSignup env draw username passphrase domain =
      .ok (account, folder, record)) :
    ∃ cert, Seals env draw cert passphrase account.primaryCertificate ∧
      Certifies env.libraries env.certs cert account.user ∧
        account.user.owner = true ∧ record.folderId = folder.id ∧
          record.sharedByUserId = account.user.id ∧
            record.recipientUserId = account.user.id := by
  simp only [prepareSignup, bind_eq_ok, ofCrypto_eq_ok, createCertificate, generateKeys,
    mapError_eq_ok] at hprepare
  obtain ⟨primary, ⟨cert, hgenerate, hprimary⟩, opened, hopened, userId, hid,
    ucanCertificate, hucan, signingKey, hsigning, token, htoken, pair, hdevice, hresult⟩ :=
      hprepare
  cases hprimary
  rw [decryptCertificate_sealed, if_pos rfl] at hopened
  cases hopened
  obtain ⟨derived, hderived, rfl⟩ := generateUcanKey_eq_ok hucan
  cases hresult
  exact ⟨cert, rfl, ⟨hid, derived, hderived, rfl⟩, rfl, rfl, rfl, rfl⟩

theorem prepareImport_eq_ok {account : NewAccount Cert}
    (hprepare : prepareImport env draw certificate passphrase username = .ok account) :
    ∃ cert, env.certs.fromStr certificate = .ok cert ∧
      Seals env draw cert passphrase account.primaryCertificate ∧
        getKeyId env.libraries (env.certs.getPublicKeyArmored cert) =
            .ok account.user.id ∧
          ∃ signingKey, env.certs.deriveUcanKeysFromPgp cert = .ok signingKey := by
  simp only [prepareImport, bind_eq_ok, ofCrypto_eq_ok, importCertificate,
    mapError_eq_ok] at hprepare
  obtain ⟨primary, ⟨cert, hparse, hprimary⟩, userId, hid, opened, hopened,
    ucanCertificate, hucan, pair, hdevice, hresult⟩ := hprepare
  cases hprimary
  rw [decryptCertificate_sealed, if_pos rfl] at hopened
  cases hopened
  obtain ⟨derived, hderived, rfl⟩ := generateUcanKey_eq_ok hucan
  cases hresult
  exact ⟨cert, hparse, rfl, hid, derived, hderived⟩

end Parts

section Runs

variable {libraries : Libraries} {certs : CertLibrary Cert} {env : AuthEnv Cert}
variable {draw : Draw} {store : DeviceStore Cert}
variable {username passphrase domain certificate peerDeviceId : String}

theorem queryStore_run {α : Type} {read : DeviceStore Cert → Except RepositoryError α}
    {value : α} (hread : read store = .ok value) :
    (queryStore read).run store = (.ok value, store) := by
  rw [queryStore, Program.run_read, hread]
  rfl

theorem handleSignup_cases :
    (∃ error, (handleSignup env draw username passphrase domain).run store =
      (.error error, store)) ∨
    ∃ account folder record committed,
      prepareSignup env draw username passphrase domain = .ok (account, folder, record) ∧
        UserRepo.Committed account.user account.primaryCertificate account.device none
            account.ucanCertificate store committed ∧
          (handleSignup env draw username passphrase domain).run store =
            (updateTables (FolderRepo.saveFolderWithShareRecord folder record)).run
              committed := by
  have hsigned : StoreRepo.isSignedUp store =
      .ok (store.items.any fun item => item.key = "primary_key") := rfl
  unfold handleSignup
  rw [Program.run_bind, queryStore_run hsigned, Program.andThen_ok]
  split
  · exact .inl ⟨_, rfl⟩
  rw [Program.run_bind, Program.run_ofExcept]
  cases hprepare : prepareSignup env draw username passphrase domain with
  | error error => exact .inl ⟨error, rfl⟩
  | ok prepared =>
      obtain ⟨account, folder, record⟩ := prepared
      rw [Program.andThen_ok, Program.run_bind, updateStore, Program.run_write]
      cases hcommit : UserRepo.commitSignupTransaction env.now account.user
          account.primaryCertificate account.device account.deviceCertificate none
          account.ucanCertificate store with
      | error error => exact .inl ⟨_, rfl⟩
      | ok committed =>
          exact .inr ⟨account, folder, record, committed, rfl,
            UserRepo.commitSignupTransaction_eq_ok hcommit, rfl⟩

theorem importUser_cases :
    (∃ error, (importUser env draw certificate passphrase username peerDeviceId).run
      store = (.error error, store)) ∨
    ∃ account peerDevice committed,
      prepareImport env draw certificate passphrase username = .ok account ∧
        UserRepo.Committed account.user account.primaryCertificate account.device
            (some peerDevice) account.ucanCertificate store committed ∧
          (importUser env draw certificate passphrase username peerDeviceId).run store =
            (.ok (account.user, account.primaryCertificate), committed) := by
  unfold importUser
  rw [Program.run_bind, Program.run_ofExcept]
  cases hprepare : prepareImport env draw certificate passphrase username with
  | error error => exact .inl ⟨error, rfl⟩
  | ok account =>
      rw [Program.andThen_ok, Program.run_bind, updateStore, Program.run_write]
      cases hcommit : UserRepo.commitSignupTransaction env.now account.user
          account.primaryCertificate account.device account.deviceCertificate
          (some (Device.new env.now peerDeviceId peerDeviceId account.user.id))
          account.ucanCertificate store with
      | error error => exact .inl ⟨_, rfl⟩
      | ok committed =>
          exact .inr ⟨account, _, committed, rfl,
            UserRepo.commitSignupTransaction_eq_ok hcommit, rfl⟩

variable (libraries certs) in
/-- A device with an account: its certificate is sealed with the passphrase, and the
rows that come with it are there. -/
structure Opens (store : DeviceStore Cert) (cert : Cert) (passphrase : String) :
    Prop where
  sealed : ∃ salt, store.item? "primary_key" = some (.certificate cert passphrase salt) ∧
    store.item? "primary_key_salt" = some (.plain (encodeSalt salt))
  user : ∃ userId user, getKeyId libraries (certs.getPublicKeyArmored cert) = .ok userId ∧
    UserRepo.getUserById userId store.ctx = .ok user
  device : ∃ deviceId device, store.item? "device_id" = some (.plain deviceId) ∧
    DeviceRepo.findById deviceId store.ctx = .ok device

structure Unused (store : DeviceStore Cert) : Prop where
  items : store.items = []
  folders : store.ctx.folders = []
  folderShareRecords : store.ctx.folderShareRecords = []

theorem opens_of_committed {user : User} {primary : Certificate Cert} {device : Device}
    {peerDevice : Option Device} {ucanCertificate : Certificate Cert}
    {committed : DeviceStore Cert} {cert : Cert}
    (hcommitted : UserRepo.Committed user primary device peerDevice ucanCertificate store
      committed)
    (hseals : Seals env draw cert passphrase primary)
    (hid : getKeyId env.libraries (env.certs.getPublicKeyArmored cert) = .ok user.id) :
    Opens env.libraries env.certs committed cert passphrase := by
  rw [Seals] at hseals
  subst hseals
  refine ⟨⟨draw.salt, hcommitted.privateKey, hcommitted.salt⟩,
    ⟨user.id, user, hid, ?_⟩, ⟨device.id, device, hcommitted.deviceId, ?_⟩⟩
  · have hnone : store.ctx.users.find? (fun other => other.id = user.id) = none := by
      simpa using hcommitted.newUser
    simp [UserRepo.getUserById, hcommitted.tables, List.find?_append, hnone,
      firstOrNotFound]
  · have hnone : store.ctx.devices.find? (fun other => other.id = device.id) = none := by
      simpa using hcommitted.newDevice
    simp [DeviceRepo.findById, hcommitted.tables, List.find?_append, hnone,
      firstOrNotFound]

theorem Opens.getCertificate {cert : Cert}
    (hopens : Opens libraries certs store cert passphrase) :
    ∃ salt, (primaryCertificate : AuthService Cert _).run store =
      (.ok { privateKey := .certificate cert passphrase salt, publicKey := ""
             salt := encodeSalt salt }, store) := by
  obtain ⟨salt, hkey, hsalt⟩ := hopens.sealed
  refine ⟨salt, ?_⟩
  rw [primaryCertificate, Program.run_mapError, queryStore, Program.run_read,
    StoreRepo.getCertificate, hkey, hsalt]
  rfl

theorem Unused.getCertificate (hunused : Unused store) :
    (primaryCertificate : AuthService Cert _).run store =
      (.error .certificateNotFound, store) := by
  have hkey : store.item? "primary_key" = none := by
    simp [DeviceStore.item?, hunused.items]
  rw [primaryCertificate, Program.run_mapError, queryStore, Program.run_read,
    StoreRepo.getCertificate, hkey]
  rfl

section Closed

variable (env) (given newPassword : String) (hunused : Unused store)

include hunused

theorem Unused.loadCertificate_run :
    (loadCertificate env given).run store = (.error .certificateNotFound, store) := by
  rw [loadCertificate, Program.run_bind, hunused.getCertificate]
  rfl

theorem Unused.exportAccount_run :
    (exportAccount env given).run store = (.error .certificateNotFound, store) := by
  rw [exportAccount, Program.run_bind, hunused.getCertificate]
  rfl

theorem Unused.changePassphrase_run :
    (changePassphrase env given newPassword).run store =
      (.error .certificateNotFound, store) := by
  rw [changePassphrase, Program.run_bind, hunused.getCertificate]
  rfl

end Closed

section Opened

variable {env : AuthEnv Cert} {cert : Cert} {oldPassword newPassword given : String}
variable (hopens : Opens env.libraries env.certs store cert passphrase)

include hopens

theorem Opens.getCurrentDevice_run :
    ∃ device, (getCurrentDevice : AuthService Cert _).run store = (.ok device, store) := by
  obtain ⟨deviceId, device, hdeviceId, hdevice⟩ := hopens.device
  refine ⟨device, ?_⟩
  have hkey : StoreRepo.getDeviceKey store = .ok deviceId := by
    rw [StoreRepo.getDeviceKey, hdeviceId]
  rw [getCurrentDevice, Program.run_bind, Program.run_mapError, queryStore_run hkey]
  change (Program.mapError _ (queryStore fun store =>
    DeviceRepo.findById deviceId store.ctx)).run store = _
  rw [Program.run_mapError, queryStore_run hdevice]
  rfl

theorem Opens.load : Opens env.libraries env.certs { store with loaded := some cert } cert
    passphrase :=
  ⟨hopens.sealed, hopens.user, hopens.device⟩

theorem Opens.loadCertificate_run :
    ∃ user device, (loadCertificate env passphrase).run store =
      (.ok (user, device), { store with loaded := some cert }) := by
  obtain ⟨salt, hcertificate⟩ := hopens.getCertificate
  obtain ⟨userId, user, hid, huser⟩ := hopens.user
  obtain ⟨device, hcurrent⟩ := hopens.load.getCurrentDevice_run
  refine ⟨user, device, ?_⟩
  have hopened : (decryptCertificate (.certificate cert passphrase salt) (encodeSalt salt)
      passphrase).mapError (fun _ => AuthServiceError.invalidPassphrase) = .ok cert := by
    rw [decryptCertificate_sealed, if_pos rfl]
    rfl
  have hload : (Program.write fun store : DeviceStore Cert =>
      (.ok { store with loaded := some cert } : Except AuthServiceError _)).run store =
        (.ok .unit, { store with loaded := some cert }) := rfl
  have hfound : UserRepo.getUserById userId
      { store with loaded := some cert }.ctx = .ok user := huser
  rw [loadCertificate, Program.run_bind, hcertificate, Program.andThen_ok,
    Program.run_bind, Program.run_ofExcept, hopened, Program.andThen_ok, Program.run_bind,
    hload, Program.andThen_ok, Program.run_bind, Program.run_ofExcept,
    ofCrypto_eq_ok.mpr hid, Program.andThen_ok, Program.run_bind, Program.run_mapError,
    queryStore_run hfound]
  change Program.andThen (.ok user, _) _ = _
  rw [Program.andThen_ok, Program.run_bind, hcurrent]
  rfl

theorem Opens.exportAccount_run :
    (exportAccount env passphrase).run store = (.ok (env.certs.armored cert), store) := by
  obtain ⟨salt, hcertificate⟩ := hopens.getCertificate
  rw [exportAccount, Program.run_bind, hcertificate, Program.andThen_ok,
    Program.run_ofExcept, exportCertificate, decryptCertificate_sealed, if_pos rfl]
  rfl

theorem Opens.changePassphrase_run :
    ∃ reply changed, (changePassphrase env passphrase newPassword).run store =
        (.ok reply, changed) ∧
      Opens env.libraries env.certs changed cert newPassword := by
  obtain ⟨salt, hcertificate⟩ := hopens.getCertificate
  have hchanged : changeCertificatePassword (.certificate cert passphrase salt)
      (encodeSalt salt) passphrase newPassword = .ok (.certificate cert newPassword salt) := by
    rw [changeCertificatePassword, decryptCertificate_sealed, if_pos rfl,
      getSaltArr_encodeSalt]
    rfl
  rw [changePassphrase, Program.run_bind, hcertificate, Program.andThen_ok,
    Program.run_bind, Program.run_ofExcept, ofCrypto_eq_ok.mpr hchanged,
    Program.andThen_ok]
  refine ⟨_, (store.upsertItem env.now "primary_key"
    (.certificate cert newPassword salt)).upsertItem env.now "primary_key_salt"
      (.plain (encodeSalt salt)), rfl, ⟨salt, ?_, ?_⟩, ?_, ?_⟩
  · simp [DeviceStore.item?_upsertItem]
  · simp [DeviceStore.item?_upsertItem]
  · simpa using hopens.user
  · simpa [DeviceStore.item?_upsertItem] using hopens.device

theorem Opens.refuses_load (hgiven : given ≠ passphrase) :
    (loadCertificate env given).run store = (.error .invalidPassphrase, store) := by
  obtain ⟨salt, hcertificate⟩ := hopens.getCertificate
  rw [loadCertificate, Program.run_bind, hcertificate, Program.andThen_ok,
    Program.run_bind, Program.run_ofExcept, decryptCertificate_sealed,
    if_neg hgiven.symm]
  rfl

theorem Opens.refuses_export (hgiven : given ≠ passphrase) :
    ∃ error, (exportAccount env given).run store = (.error error, store) := by
  obtain ⟨salt, hcertificate⟩ := hopens.getCertificate
  rw [exportAccount, Program.run_bind, hcertificate, Program.andThen_ok,
    Program.run_ofExcept, exportCertificate, decryptCertificate_sealed,
    if_neg hgiven.symm]
  exact ⟨_, rfl⟩

theorem Opens.refuses_change (hgiven : given ≠ passphrase) :
    ∃ error, (changePassphrase env given newPassword).run store =
      (.error error, store) := by
  obtain ⟨salt, hcertificate⟩ := hopens.getCertificate
  rw [changePassphrase, Program.run_bind, hcertificate, Program.andThen_ok,
    Program.run_bind, Program.run_ofExcept, changeCertificatePassword,
    decryptCertificate_sealed, if_neg hgiven.symm]
  exact ⟨_, rfl⟩

end Opened

theorem saveFolderWithShareRecord_of_empty {ctx : RepositoryContext} {folder : Folder}
    {record : FolderShareRecord} (hfolders : ctx.folders = [])
    (hrecords : ctx.folderShareRecords = []) (hfolder : record.folderId = folder.id)
    (hshared : userExists ctx record.sharedByUserId = true)
    (hrecipient : userExists ctx record.recipientUserId = true) :
    FolderRepo.saveFolderWithShareRecord folder record ctx =
      .ok { ctx with folders := [folder], folderShareRecords := [record] } := by
  unfold userExists at hshared hrecipient
  simp [FolderRepo.saveFolderWithShareRecord, Table.insert, Table.folders,
    Table.folderShareRecords, folderExists, userExists, hfolders, hrecords, hfolder,
    hshared, hrecipient, reportAs, bind, Except.bind, Except.mapError]

theorem Opens.not_free {cert : Cert} (hopens : Opens libraries certs store cert passphrase) :
    store.item? "primary_key" ≠ none := by
  obtain ⟨salt, hkey, _⟩ := hopens.sealed
  rw [hkey]
  exact Option.some_ne_none _

theorem Opens.refuses_signup {cert : Cert}
    (hopens : Opens libraries certs store cert passphrase) (given : String) :
    ∃ error, (handleSignup env draw username given domain).run store =
      (.error error, store) := by
  rcases @handleSignup_cases _ env draw store username given domain with
    hrefused | hcreated
  · exact hrefused
  · obtain ⟨_, _, _, _, _, hcommitted, _⟩ := hcreated
    exact absurd hcommitted.wasFree hopens.not_free

theorem Opens.refuses_import {cert : Cert}
    (hopens : Opens libraries certs store cert passphrase) (given : String) :
    ∃ error, (importUser env draw certificate given username peerDeviceId).run store =
      (.error error, store) := by
  rcases @importUser_cases _ env draw store username given certificate peerDeviceId with
    hrefused | hcreated
  · exact hrefused
  · obtain ⟨_, _, _, _, hcommitted, _⟩ := hcreated
    exact absurd hcommitted.wasFree hopens.not_free

theorem Unused.handleSignup_cases (hunused : Unused store) :
    (∃ error, (handleSignup env draw username passphrase domain).run store =
      (.error error, store)) ∨
    ∃ cert store', (handleSignup env draw username passphrase domain).run store =
        (.ok .unit, store') ∧
      Opens env.libraries env.certs store' cert passphrase ∧
        ∃ user ∈ store'.ctx.users, user.owner = true ∧
          Certifies env.libraries env.certs cert user := by
  rcases @Services.handleSignup_cases _ env draw store username passphrase domain with
    hrefused | ⟨account, folder, record, committed, hprepare, hcommitted, hrun⟩
  · exact .inl hrefused
  obtain ⟨cert, hseals, hcertifies, howner, hfolder, hshared, hrecipient⟩ :=
    prepareSignup_eq_ok hprepare
  have hopens := opens_of_committed hcommitted hseals hcertifies.1
  have huser : account.user ∈ committed.ctx.users := by simp [hcommitted.tables]
  have hexists : userExists committed.ctx account.user.id = true :=
    List.any_eq_true.mpr ⟨account.user, huser, by simp⟩
  have hsaved := @saveFolderWithShareRecord_of_empty committed.ctx folder record
    (by simp [hcommitted.tables, hunused.folders])
    (by simp [hcommitted.tables, hunused.folderShareRecords]) hfolder
    (hshared ▸ hexists) (hrecipient ▸ hexists)
  refine .inr ⟨cert, { committed with ctx := { committed.ctx with
    folders := [folder], folderShareRecords := [record] } }, ?_,
      ⟨hopens.sealed, hopens.user, hopens.device⟩, account.user, huser, howner, hcertifies⟩
  rw [hrun, updateTables, updateStore, Program.run_write, hsaved]
  rfl

theorem importUser_effect :
    (∃ error, (importUser env draw certificate passphrase username peerDeviceId).run
      store = (.error error, store)) ∨
    ∃ cert reply store', (importUser env draw certificate passphrase username
        peerDeviceId).run store = (.ok reply, store') ∧
      Opens env.libraries env.certs store' cert passphrase ∧
        env.certs.fromStr certificate = .ok cert ∧
          (∃ userId, getKeyId env.libraries (env.certs.getPublicKeyArmored cert) =
            .ok userId) ∧
          ∃ signingKey, env.certs.deriveUcanKeysFromPgp cert = .ok signingKey := by
  rcases @Services.importUser_cases _ env draw store username passphrase certificate
      peerDeviceId with hrefused | ⟨account, peer, committed, hprepare, hcommitted, hrun⟩
  · exact .inl hrefused
  obtain ⟨cert, hparse, hseals, hid, hderive⟩ := prepareImport_eq_ok hprepare
  exact .inr ⟨cert, _, committed, hrun, opens_of_committed hcommitted hseals hid, hparse,
    ⟨_, hid⟩, hderive⟩

end Runs

end Osvauld.Services
