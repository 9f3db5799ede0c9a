import Osvauld.Persistance.UserRepository
import Osvauld.Services.Service

namespace Osvauld.Services

open Osvauld.Core CryptoUtils Data Persistance

variable (env : ServiceEnv)

def getMyUserDevices (userId : String) : Service (List Device) :=
  query (DeviceRepo.getDevicesByUserId userId)

def getUcanPubKey : Service String := do
  let encryptedUcanPvtKey ← query StoreRepo.getUcanKey
  liftCrypto (getPublicUcanKey env.libraries env.cert encryptedUcanPvtKey)

def issueConnectUcanToken (peerUcanPubKey : String) : Service String := do
  let encryptedPvtKey ← query StoreRepo.getUcanKey
  liftCrypto (issueConnectAndShareUserToken env.libraries env.cert env.now
    encryptedPvtKey env.domain peerUcanPubKey)

def signUcanPubKey : Service SignedText := do
  let ucanPubKey ← getUcanPubKey env
  liftCrypto (signClearTextMessage env.cert env.now ucanPubKey)

def addKnownUser (username userPublicKey devicePublicKey oneTimeToken
    ucanPubKey : String) : Service (User × Device) := do
  let userId ← liftCrypto (getKeyId env.libraries userPublicKey)
  let signature ← liftCrypto (signAndHashMessage env.libraries env.cert
    userPublicKey)
  let ucanCid ← liftCrypto (liftUcan (getUcanCid env.libraries.ucan oneTimeToken))
  let user : User :=
    { id := userId, username, publicKey := userPublicKey, createdAt := env.now
      signature, ucanToken := oneTimeToken, ucanPubKey, ucanCid
      firstSync := false, updatedAt := env.now, owner := false
      deleted := false, deletedAt := none }
  let device : Device :=
    { id := devicePublicKey, deviceKey := devicePublicKey, userId
      createdAt := env.now, updatedAt := env.now, lastSyncedAt := none }
  update (UserRepo.addUsersWithDevicesBulk [{ user, devices := [device] }])
  return (user, device)

end Osvauld.Services
