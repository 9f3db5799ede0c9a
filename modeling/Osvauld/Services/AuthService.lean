import Osvauld.CryptoUtils.KeyManagement
import Osvauld.Persistance.FolderRepository
import Osvauld.Persistance.StoreRepository

namespace Osvauld.Services

open Osvauld.Core CryptoUtils Data Persistance

/-! Accounts: signing up, importing a user, and the passphrase of a certificate. -/

inductive AuthServiceError where
  | alreadySignedUp
  | invalidPassphrase
  | certificateNotFound
  | userNotFound (userId : String)
  | deviceNotFound (deviceId : String)
  | crypto (error : CryptoError)
  | repository (error : RepositoryError)
deriving DecidableEq, Repr

structure AuthEnv (Cert : Type) where
  libraries : Libraries
  certs : CertLibrary Cert
  now : Int

structure Draw where
  seed : Nat
  salt : Salt
  deviceKey : Bytes
  folderId : String
  folderShareRecordId : String

abbrev AuthService (Cert α : Type) := Program (DeviceStore Cert) AuthServiceError α

variable {Cert : Type}

def queryStore {α : Type} (read : DeviceStore Cert → Except RepositoryError α) :
    AuthService Cert α :=
  Program.read fun store => (read store).mapError .repository

def updateStore
    (write : DeviceStore Cert → Except RepositoryError (DeviceStore Cert)) :
    AuthService Cert PUnit :=
  Program.write fun store => (write store).mapError .repository

def updateTables
    (write : RepositoryContext → Except RepositoryError RepositoryContext) :
    AuthService Cert PUnit :=
  updateStore fun store => (write store.ctx).map fun ctx => { store with ctx }

def ofCrypto {α : Type} (result : CryptoResult α) : Except AuthServiceError α :=
  result.mapError .crypto

variable (env : AuthEnv Cert)

def createCertificate (draw : Draw) (username passphrase : String) :
    Except AuthServiceError (Certificate Cert) :=
  ofCrypto (generateKeys env.certs draw.seed draw.salt passphrase username)

def createDevice (draw : Draw) (userPublicKey userId : String) :
    Except AuthServiceError (Device × Certificate Cert) := do
  let (encryptedKey, publicKey) ← ofCrypto
    (generateAndEncryptEd25519Key env.libraries draw.deviceKey userPublicKey)
  return (Device.new env.now publicKey publicKey userId,
    { privateKey := .pgp encryptedKey, publicKey, salt := "" })

def generateUcanKey (crypto : Option Cert) :
    Except AuthServiceError (Certificate Cert) := do
  let (encryptedUcanPrivateKey, ucanPublicKey) ← ofCrypto
    (generateAndEncryptUcanKey env.certs env.libraries crypto)
  return { privateKey := .pgp encryptedUcanPrivateKey, publicKey := ucanPublicKey
           salt := "" }

def ucanPrivateKey (certificate : Certificate Cert) : PgpText :=
  certificate.privateKey.pgp?.getD (.other "")

structure NewAccount (Cert : Type) where
  user : User
  primaryCertificate : Certificate Cert
  device : Device
  deviceCertificate : Certificate Cert
  ucanCertificate : Certificate Cert

def prepareSignup (draw : Draw) (username passphrase domain : String) :
    Except AuthServiceError (NewAccount Cert × Folder × FolderShareRecord) := do
  let primaryCertificate ← createCertificate env draw username passphrase
  let cert ← (decryptCertificate primaryCertificate.privateKey primaryCertificate.salt
    passphrase).mapError fun _ => .invalidPassphrase
  let userId ← ofCrypto (getKeyId env.libraries primaryCertificate.publicKey)
  let ucanCertificate ← generateUcanKey env (some cert)
  let defaultFolder := Folder.new draw.folderId env.now "default" none true
  let signingKey ← ofCrypto (decryptUcanKey env.libraries
    (some (env.certs.getPublicKeyArmored cert)) (ucanPrivateKey ucanCertificate))
  let (folderUcan, ucanCid) ← ofCrypto (liftUcan (generateFolderOwnerUcan
    env.libraries.ucan env.now signingKey defaultFolder.id domain))
  let folderShareRecord := FolderShareRecord.prepareFolderShareRecord
    draw.folderShareRecordId env.now defaultFolder.id userId userId .admin folderUcan
    ucanCid
  let user := User.new env.now username userId primaryCertificate.publicKey "signature"
    true true "owner_token" "owner_cid" ucanCertificate.publicKey
  let (device, deviceCertificate) ← createDevice env draw user.publicKey user.id
  return ({ user, primaryCertificate, device, deviceCertificate, ucanCertificate },
    defaultFolder, folderShareRecord)

def handleSignup (draw : Draw) (username passphrase domain : String) :
    AuthService Cert PUnit := do
  let isAlreadySignedUp ← queryStore StoreRepo.isSignedUp
  if isAlreadySignedUp then Program.fail .alreadySignedUp
  else
    let (account, defaultFolder, folderShareRecord) ←
      Program.ofExcept (prepareSignup env draw username passphrase domain)
    updateStore (UserRepo.commitSignupTransaction env.now account.user
      account.primaryCertificate account.device account.deviceCertificate none
      account.ucanCertificate)
    updateTables (FolderRepo.saveFolderWithShareRecord defaultFolder folderShareRecord)

def primaryCertificate : AuthService Cert (Certificate Cert) :=
  (queryStore (StoreRepo.getCertificate "primary_key" "primary_key_salt")).mapError
    fun _ => .certificateNotFound

def getCurrentDevice : AuthService Cert Device := do
  let deviceId ← Program.mapError (fun error => match error with
    | .repository error => .deviceNotFound ("Failed to get device key: " ++ error.text)
    | other => other) (queryStore StoreRepo.getDeviceKey)
  (queryStore fun store => DeviceRepo.findById deviceId store.ctx).mapError
    fun _ => .deviceNotFound deviceId

def loadCertificate (passphrase : String) : AuthService Cert (User × Device) := do
  let certificate ← primaryCertificate
  let cert ← Program.ofExcept ((decryptCertificate certificate.privateKey
    certificate.salt passphrase).mapError fun _ => .invalidPassphrase)
  Program.write fun store => .ok { store with loaded := some cert }
  let userId ← Program.ofExcept (ofCrypto
    (getKeyId env.libraries (env.certs.getPublicKeyArmored cert)))
  let user ← (queryStore fun store => UserRepo.getUserById userId store.ctx).mapError
    fun _ => .userNotFound userId
  let device ← getCurrentDevice
  return (user, device)

def exportAccount (passphrase : String) : AuthService Cert String := do
  let certificate ← primaryCertificate
  Program.ofExcept (ofCrypto
    (exportCertificate env.certs passphrase certificate.privateKey certificate.salt))

def changePassphrase (oldPassword newPassword : String) :
    AuthService Cert (Certificate Cert) := do
  let certificate ← primaryCertificate
  let newPrivateKey ← Program.ofExcept (ofCrypto (changeCertificatePassword
    certificate.privateKey certificate.salt oldPassword newPassword))
  let newCertificate := { certificate with privateKey := newPrivateKey }
  updateStore (StoreRepo.storeCertificate env.now newCertificate "primary_key"
    "primary_key_salt")
  return newCertificate

/-- Importing a user, as far as nothing is stored. The last two arguments of the new
user are the other way round than when signing up. -/
def prepareImport (draw : Draw) (certificate passphrase username : String) :
    Except AuthServiceError (NewAccount Cert) := do
  let primaryCertificate ← ofCrypto
    (importCertificate env.certs draw.salt certificate passphrase)
  let userId ← ofCrypto (getKeyId env.libraries primaryCertificate.publicKey)
  let cert ← (decryptCertificate primaryCertificate.privateKey primaryCertificate.salt
    passphrase).mapError fun _ => .invalidPassphrase
  let ucanCertificate ← generateUcanKey env (some cert)
  let user := User.new env.now username userId primaryCertificate.publicKey "signature"
    true true "owner_token" ucanCertificate.publicKey "owner_cid"
  let (device, deviceCertificate) ← createDevice env draw user.publicKey user.id
  return { user, primaryCertificate, device, deviceCertificate, ucanCertificate }

def importUser (draw : Draw) (certificate passphrase username peerDeviceId : String) :
    AuthService Cert (User × Certificate Cert) := do
  let account ← Program.ofExcept (prepareImport env draw certificate passphrase username)
  let peerDevice := Device.new env.now peerDeviceId peerDeviceId account.user.id
  updateStore (UserRepo.commitSignupTransaction env.now account.user
    account.primaryCertificate account.device account.deviceCertificate (some peerDevice)
    account.ucanCertificate)
  return (account.user, account.primaryCertificate)

end Osvauld.Services
