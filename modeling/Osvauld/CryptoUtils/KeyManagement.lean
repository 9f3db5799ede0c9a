import Osvauld.CryptoUtils.CryptoUtils
import Osvauld.Data.Base64

namespace Osvauld.CryptoUtils

open Osvauld.Core Data

/-! Making, sealing and opening certificates. -/

/-- The functions of the OpenPGP library on whole certificates; a certificate is
generated from a seed. -/
structure CertLibrary (Cert : Type) where
  generateCertificate : (seed : Nat) → (username : String) → Except String Cert
  getPublicKeyArmored : Cert → String
  armored : Cert → String
  fromStr : String → Except String Cert
  deriveUcanKeysFromPgp : Cert → Except UcanError Bytes

def getSaltArr (saltB64 : String) : Except String Salt :=
  match Base64.decode saltB64 with
  | .error message => .error message
  | .ok bytes =>
      if hlength : bytes.length = 16 then .ok ⟨bytes, hlength⟩
      else .error "Invalid salt length"

def encodeSalt (salt : Salt) : String := Base64.encode salt

@[simp] theorem getSaltArr_encodeSalt (salt : Salt) :
    getSaltArr (encodeSalt salt) = .ok salt := by
  rw [getSaltArr, encodeSalt, Base64.decode_encode]
  exact dif_pos salt.property

variable {Cert : Type}

/-- The salt is unwrapped where it is read: a text that is none makes the call
panic, which is an error here. -/
def decryptCertificate (encryptedCert : StoredText Cert) (saltB64 password : String) :
    CryptoResult Cert :=
  match encryptedCert, getSaltArr saltB64 with
  | .certificate cert sealedWith sealedSalt, .ok salt =>
      if sealedWith = password ∧ sealedSalt = salt then .ok cert
      else .error (.aesError "Decryption failed")
  | _, _ => .error (.aesError "Decryption failed")

@[simp] theorem decryptCertificate_sealed (cert : Cert) (sealedWith password : String)
    (salt : Salt) :
    decryptCertificate (.certificate cert sealedWith salt) (encodeSalt salt) password =
      if sealedWith = password then .ok cert
      else .error (.aesError "Decryption failed") := by
  simp [decryptCertificate]

section KeyManagement

variable (certs : CertLibrary Cert)

def generateKeys (seed : Nat) (salt : Salt) (password username : String) :
    CryptoResult (Certificate Cert) := do
  let cert ← (certs.generateCertificate seed username).mapError .other
  return { privateKey := .certificate cert password salt
           publicKey := certs.getPublicKeyArmored cert
           salt := encodeSalt salt }

def importCertificate (salt : Salt) (certString passphrase : String) :
    CryptoResult (Certificate Cert) := do
  let cert ← (certs.fromStr certString).mapError .other
  return { privateKey := .certificate cert passphrase salt
           publicKey := certs.getPublicKeyArmored cert
           salt := encodeSalt salt }

def changeCertificatePassword (encryptedCert : StoredText Cert)
    (saltB64 oldPassword newPassword : String) : CryptoResult (StoredText Cert) := do
  let cert ← decryptCertificate encryptedCert saltB64 oldPassword
  let salt ← (getSaltArr saltB64).mapError .other
  return .certificate cert newPassword salt

def exportCertificate (passphrase : String) (encPvtKey : StoredText Cert)
    (salt : String) : CryptoResult String := do
  let cert ← decryptCertificate encPvtKey salt passphrase
  return certs.armored cert

variable (libraries : Libraries)

def generateAndEncryptEd25519Key (deviceKey : Bytes) (userPublicKey : String) :
    CryptoResult (PgpText × String) := do
  let encodings := libraries.ucan.encodings
  let encryptedPrivateKey ← encryptTextPgp libraries userPublicKey
    (encodings.base64Encode deviceKey)
  return (encryptedPrivateKey,
    encodings.base64Encode (libraries.ucan.verifyingKey deviceKey))

def generateAndEncryptUcanKey (cert : Option Cert) : CryptoResult (PgpText × String) :=
  match cert with
  | none => .error .noCertificate
  | some cert => do
      let signingKey ← liftUcan (certs.deriveUcanKeysFromPgp cert)
      let encodings := libraries.ucan.encodings
      let encryptedPrivateKey ← (encryptTextPgp libraries
        (certs.getPublicKeyArmored cert) (encodings.base64Encode signingKey)).mapError
          fun _ => .other "Failed to encrypt UCAN private key: "
      return (encryptedPrivateKey,
        encodings.base64Encode (libraries.ucan.verifyingKey signingKey))

end KeyManagement

end Osvauld.CryptoUtils
