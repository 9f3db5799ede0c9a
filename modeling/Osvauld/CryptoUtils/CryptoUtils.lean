import Osvauld.Core.Document
import Osvauld.CryptoUtils.UcanUtils

namespace Osvauld.CryptoUtils

open Osvauld.Core

/-! The operations that need the loaded certificate. A certificate is known by
its armored public key. -/

structure PgpLibrary where
  /-- The id of a public key; fails on a text that is none. -/
  keyId : String → Except String String
  detachedSignature : String → String → String

structure Libraries where
  ucan : UcanLibraries
  pgp : PgpLibrary
  yrs : Yrs
  uuid : Nat → String

inductive CryptoError where
  | noCertificate
  | pgpError (message : String)
  | aesError (message : String)
  | base64Error (message : String)
  | ucanError (error : UcanError)
  | other (message : String)
deriving DecidableEq, Repr

abbrev CryptoResult := Except CryptoError

def liftUcan {α : Type} (result : Except UcanError α) : CryptoResult α :=
  result.mapError .ucanError

def signatureLifetime : Int := 10 * 60

section Certificate

variable (libraries : Libraries) (cert : Option String)

def getCert : CryptoResult String :=
  match cert with
  | some publicKey => .ok publicKey
  | none => .error .noCertificate

def decryptTextPgp (publicKey : String) (text : PgpText) : CryptoResult String :=
  match text with
  | .sealed recipient plain =>
      if recipient = publicKey then .ok plain
      else .error (.pgpError "Decryption failed")
  | .other _ => .error (.pgpError "Decryption failed")

def decryptAesKey (encryptedKey : PgpText) : CryptoResult String := do
  let publicKey ← getCert cert
  decryptTextPgp publicKey encryptedKey

def decryptResource (data : AesText) (encryptedKey : PgpText) :
    CryptoResult JsonText := do
  let key ← decryptAesKey cert encryptedKey
  match data with
  | .sealed sealedWith plain =>
      if sealedWith = key then .ok plain
      else .error (.aesError "Decryption failed")
  | .other _ => .error (.aesError "Decryption failed")

def updateResource (data : JsonText) (encryptedKey : PgpText) :
    CryptoResult AesText := do
  let key ← decryptAesKey cert encryptedKey
  return .sealed key data

def encryptTextPgp (publicKey plain : String) : CryptoResult PgpText :=
  match libraries.pgp.keyId publicKey with
  | .error message => .error (.pgpError message)
  | .ok _ => .ok (.sealed publicKey plain)

def encryptKeyWithNewPubKey (encryptedKey : PgpText) (publicKey : String) :
    CryptoResult PgpText := do
  let key ← decryptAesKey cert encryptedKey
  encryptTextPgp libraries publicKey key

def encryptDataForUser (newKey : String) (data : JsonText) (publicKey : String) :
    CryptoResult (AesText × PgpText) := do
  let encryptedKey ← encryptTextPgp libraries publicKey newKey
  return (.sealed newKey data, encryptedKey)

def getKeyId (publicKey : String) : CryptoResult String :=
  match libraries.pgp.keyId publicKey with
  | .error message => .error (.other message)
  | .ok id => .ok id

def signAndHashMessage (message : String) : CryptoResult String := do
  let publicKey ← getCert cert
  return libraries.pgp.detachedSignature publicKey message

def signClearTextMessage (now : Int) (message : String) :
    CryptoResult SignedText := do
  let publicKey ← getCert cert
  return .signed publicKey message (now + signatureLifetime)

def decryptUcanKey (encryptedPrivateKey : PgpText) : CryptoResult Bytes := do
  let publicKey ← getCert cert
  let plain ← decryptTextPgp publicKey encryptedPrivateKey
  match libraries.ucan.encodings.base64Decode plain with
  | .error message => .error (.base64Error message)
  | .ok key =>
      if key.length = 32 then .ok key
      else .error (.other "Invalid UCAN private key length, expected 32 bytes")

def getPublicUcanKey (encryptedPrivateKey : PgpText) : CryptoResult String := do
  let signingKey ← decryptUcanKey libraries cert encryptedPrivateKey
  return libraries.ucan.encodings.base64Encode
    (libraries.ucan.verifyingKey signingKey)

def generateOneTimeUserConnectToken (now : Int) (encryptedPrivateKey : PgpText)
    (domain : String) : CryptoResult (String × String) := do
  let publicKey ← getCert cert
  let userId ← getKeyId libraries publicKey
  let signingKey ← decryptUcanKey libraries cert encryptedPrivateKey
  let token ← liftUcan (generateOneTimeConnectionToken libraries.ucan now
    signingKey (domain ++ ":user-connect:" ++ userId))
  return (token, libraries.ucan.encodings.base64Encode
    (libraries.ucan.verifyingKey signingKey))

def issueConnectAndShareUserToken (now : Int) (encryptedPrivateKey : PgpText)
    (domain audienceUcanPubKey : String) : CryptoResult String := do
  let signingKey ← decryptUcanKey libraries cert encryptedPrivateKey
  let publicKey ← getCert cert
  let userId ← getKeyId libraries publicKey
  liftUcan (generateDelegationAndConnectionToken libraries.ucan now signingKey
    userId audienceUcanPubKey domain thirtyYears)

def issueDelegatedUserConnectToken (now : Int) (encryptedPrivateKey : PgpText)
    (domain targetUserId audienceUcanPubKey parentToken : String) :
    CryptoResult String := do
  let signingKey ← decryptUcanKey libraries cert encryptedPrivateKey
  liftUcan (generateDelegatedUserConnectionToken libraries.ucan now signingKey
    targetUserId audienceUcanPubKey domain parentToken)

def resourceOwnerUcan (now : Int) (encryptedPrivateKey : PgpText)
    (resourceId capabilityPrefix : String) : CryptoResult (String × String) := do
  let signingKey ← decryptUcanKey libraries cert encryptedPrivateKey
  liftUcan (generateResourceOwnerUcan libraries.ucan now signingKey resourceId
    capabilityPrefix)

/-- A token for the recipient once the delegator's own token has been validated
for the ability on `domain:kind:id`. `none` is a validation that has not
returned. -/
def issueDelegatedUcan (kind requiredAbility : String) (now : Int)
    (proofResolver : String → Except UcanError String) (fuel : Nat)
    (encryptedDelegatorPrivateKey : PgpText)
    (proofUcan verifierUcanPub id recipientUcanPubKey : String)
    (permissionsToGrant : List (String × String)) :
    Option (CryptoResult (String × String)) :=
  match validateStructure libraries.ucan now proofUcan with
  | .error error => some (.error (.ucanError error))
  | .ok ucanToProve =>
      match extractDomainFromUcan ucanToProve kind with
      | .error error => some (.error (.ucanError error))
      | .ok domain =>
          match validateUcanPermission libraries.ucan now proofResolver
              verifierUcanPub (domain ++ ":" ++ kind ++ ":" ++ id)
              requiredAbility fuel ucanToProve with
          | none => none
          | some (.error error) => some (.error (.ucanError error))
          | some (.ok ()) => some do
              let signingKey ← decryptUcanKey libraries cert
                encryptedDelegatorPrivateKey
              liftUcan (generateDelegatedUcan libraries.ucan now signingKey
                recipientUcanPubKey permissionsToGrant proofUcan)

def issueDelegatedResourceUcan :=
  issueDelegatedUcan libraries cert "resource" "ucan/share"

def issueDelegatedFolderUcan :=
  issueDelegatedUcan libraries cert "folder" "share_folder"

end Certificate

/-- The message, when the signature is the given key's and has not expired. -/
def verifyClearTextMessage (now : Int) (publicKey : String)
    (signedMessage : SignedText) : CryptoResult String :=
  match signedMessage with
  | .signed signer message expiresAt =>
      if signer = publicKey ∧ now < expiresAt then .ok message
      else .error (.pgpError "PGP signature verification failed.")
  | .other _ => .error (.pgpError "PGP signature verification failed.")

def Libraries.tabled (tokens : List (String × Ucan)) : Libraries :=
  { ucan := tabledLibraries tokens
    pgp :=
      { keyId := fun publicKey => .ok publicKey
        detachedSignature := fun publicKey message => publicKey ++ message }
    yrs := .bits
    uuid := fun count => String.ofList (List.replicate count 'i') }

end Osvauld.CryptoUtils
