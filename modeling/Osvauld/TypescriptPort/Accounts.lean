import Osvauld.Core.Records
import Osvauld.Data.Base64
import Osvauld.TypescriptPort.Folders

namespace Osvauld.TypescriptPort

open Osvauld.Core Data

/-! Accounts with a mnemonic, and `AuthenticationManager`. What is drawn at random is
handed to a call. -/

structure KeyPair where
  publicKey : Bytes
  privateKey : Bytes
deriving DecidableEq

structure DerivedKeyPair where
  publicKey : Bytes
  privateKey : Bytes
  chainCode : Bytes
  path : String

structure EncryptedData where
  ciphertext : Bytes
  iv : Bytes

/-- The cryptographic libraries, as far as accounts use them. An AES key is imported
from the bytes of a derived key. -/
structure AccountCrypto where
  deriveKey : (password : String) → (salt : Bytes) → Bytes
  encrypt : (data key iv : Bytes) → Bytes
  decrypt : (ciphertext key iv : Bytes) → Except String Bytes
  ed25519PublicKey : (privateKey : Bytes) → Bytes
  generateMnemonic : (entropy : Bytes) → String
  validateMnemonic : String → Bool
  mnemonicToSeed : String → Bytes
  deriveKeyPair : (seed : Bytes) → (path : String) → Except String DerivedKeyPair
  decodeText : Bytes → String

def encodeText (text : String) : Bytes := text.toUTF8.data.toList

structure UserMetadata where
  encryptedMnemonic : String
  mnemonicIV : String
  passwordSalt : String
  privateKeyIV : String

structure User where
  id : String
  username : String
  email : Option String
  publicKey : Bytes
  encryptedPrivateKey : Option Bytes
  createdAt : Date
  updatedAt : Date
  metadata : UserMetadata

/-- An update writes every key of a user. -/
instance : Entity User where
  tableName := "users"
  id := User.id
  assign stored data := { data with id := stored.id }
  id_assign _ _ := rfl

structure AccountInfo where
  userId : String
  username : String
  mnemonic : String
  signingKey : KeyPair
  encryptedMnemonic : EncryptedData
  salt : Bytes

structure AuthSession where
  privateKey : Bytes
  publicKey : Bytes
deriving DecidableEq

def hexDigit (value : Nat) : Char :=
  if value < 10 then Char.ofNat (48 + value) else Char.ofNat (87 + value)

def toHex (bytes : Bytes) : String :=
  .ofList (bytes.flatMap fun byte =>
    [hexDigit (byte.toNat / 16), hexDigit (byte.toNat % 16)])

structure AccountDraws where
  entropy : Bytes
  privateKey : Bytes
  salt : Bytes
  mnemonicIv : Bytes
  privateKeyIv : Bytes

section Mnemonic

variable (crypto : AccountCrypto)

def encrypt (data key iv : Bytes) : EncryptedData :=
  { ciphertext := crypto.encrypt data key iv, iv }

def decrypt (encrypted : EncryptedData) (key : Bytes) : Except PortError Bytes :=
  match crypto.decrypt encrypted.ciphertext key encrypted.iv with
  | .ok data => .ok data
  | .error message => .error (.error ("Decryption failed: " ++ message))

def fromBase64 (text : String) : Except PortError Bytes :=
  match Base64.decode text with
  | .ok bytes => .ok bytes
  | .error message => .error (.error message)

def createAccount (draws : AccountDraws) (username password : String) : AccountInfo :=
  let mnemonic := crypto.generateMnemonic draws.entropy
  let signingKey : KeyPair :=
    { publicKey := crypto.ed25519PublicKey draws.privateKey, privateKey := draws.privateKey }
  let passwordKey := crypto.deriveKey password draws.salt
  { userId := .ofList ((toHex signingKey.publicKey).toList.take 16)
    username
    mnemonic
    signingKey
    encryptedMnemonic := encrypt crypto (encodeText mnemonic) passwordKey draws.mnemonicIv
    salt := draws.salt }

def openMnemonic (password : String) (metadata : UserMetadata) : Except PortError Bytes := do
  let salt ← fromBase64 metadata.passwordSalt
  let ciphertext ← fromBase64 metadata.encryptedMnemonic
  let iv ← fromBase64 metadata.mnemonicIV
  decrypt crypto { ciphertext, iv } (crypto.deriveKey password salt)

/-- `login` of the mnemonic accounts. Its private key is the stored one, still
encrypted; what fails once the salt is read is reported as one error. -/
def mnemonicLogin (username password : String) (storedUser : User) :
    Except PortError KeyPair :=
  if storedUser.username ≠ username then .error (.error "Invalid credentials")
  else
    match fromBase64 storedUser.metadata.passwordSalt with
    | .error error => .error error
    | .ok _ =>
        match openMnemonic crypto password storedUser.metadata with
        | .error _ => .error (.error "Invalid credentials")
        | .ok _ =>
            .ok ⟨storedUser.publicKey,
              storedUser.encryptedPrivateKey.getD (List.replicate 32 0)⟩

def getDerivationPath (account index : Nat) : String :=
  "m/44'/0'/" ++ toString account ++ "'/0/" ++ toString index

def recoverFromMnemonic (mnemonic path : String) : Except PortError DerivedKeyPair :=
  if crypto.validateMnemonic mnemonic then
    match crypto.deriveKeyPair (crypto.mnemonicToSeed mnemonic) path with
    | .ok derived => .ok derived
    | .error message => .error (.error message)
  else
    .error (.error "Invalid mnemonic phrase")

def recoverAccount (mnemonic : String) (path : Option String) :
    Except PortError DerivedKeyPair :=
  recoverFromMnemonic crypto mnemonic (path.getD (getDerivationPath 0 0))

def changePassword (newSalt newIv : Bytes) (oldPassword newPassword : String)
    (storedUser : User) : Except PortError (EncryptedData × Bytes) := do
  let mnemonicBytes ← openMnemonic crypto oldPassword storedUser.metadata
  let mnemonic := crypto.decodeText mnemonicBytes
  let newKey := crypto.deriveKey newPassword newSalt
  return (encrypt crypto (encodeText mnemonic) newKey newIv, newSalt)

end Mnemonic

def storeChangedPassword (changed : EncryptedData × Bytes) (user : User) : User :=
  { user with
    metadata :=
      { user.metadata with
        encryptedMnemonic := Base64.encode changed.1.ciphertext
        mnemonicIV := Base64.encode changed.1.iv
        passwordSalt := Base64.encode changed.2 } }

namespace AuthenticationManager

abbrev UserProgram (Result : Type) := Program (Table User) PortError Result

variable (crypto : AccountCrypto)

def newUser (account : AccountInfo) (encryptedPrivateKey : EncryptedData) (now : Date)
    (email : Option String) : User :=
  { id := account.userId
    username := account.username
    email
    publicKey := account.signingKey.publicKey
    encryptedPrivateKey := some encryptedPrivateKey.ciphertext
    createdAt := now
    updatedAt := now
    metadata :=
      { encryptedMnemonic := Base64.encode account.encryptedMnemonic.ciphertext
        mnemonicIV := Base64.encode account.encryptedMnemonic.iv
        passwordSalt := Base64.encode account.salt
        privateKeyIV := Base64.encode encryptedPrivateKey.iv } }

def register (draws : AccountDraws) (now : Date) (username password : String)
    (email : Option String) : UserProgram (User × AuthSession) := do
  let existingUsers ← BaseRepository.list
  if existingUsers.any fun user => user.username = username then
    .fail (.error "Username already exists")
  else
    let account := createAccount crypto draws username password
    let passwordKey := crypto.deriveKey password account.salt
    let encryptedPrivateKey :=
      encrypt crypto account.signingKey.privateKey passwordKey draws.privateKeyIv
    let user ← BaseRepository.create (newUser account encryptedPrivateKey now email)
    return (user, ⟨account.signingKey.privateKey, account.signingKey.publicKey⟩)

def openPrivateKey (password : String) (user : User) : Except PortError Bytes := do
  let salt ← fromBase64 user.metadata.passwordSalt
  let iv ← fromBase64 user.metadata.privateKeyIV
  let ciphertext := user.encryptedPrivateKey.getD (List.replicate 32 0)
  decrypt crypto { ciphertext, iv } (crypto.deriveKey password salt)

def login (username password : String) : UserProgram (User × AuthSession) := do
  let users ← BaseRepository.list
  match users.find? fun user => user.username = username with
  | none => .fail (.error "Invalid username or password")
  | some user =>
      let _ ← Program.ofExcept (mnemonicLogin crypto username password user)
      let privateKey ← Program.ofExcept (openPrivateKey crypto password user)
      return (user, ⟨privateKey, user.publicKey⟩)

def getUser (userId : String) : UserProgram User := BaseRepository.get userId

def updateUser (now : Date) (userId : String) (updates : User → User) : UserProgram User := do
  let user ← BaseRepository.get userId
  BaseRepository.update userId
    { updates user with id := user.id, createdAt := user.createdAt, updatedAt := now }

end AuthenticationManager

end Osvauld.TypescriptPort
