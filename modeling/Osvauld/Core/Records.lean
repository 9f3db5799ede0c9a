import Osvauld.Core.Json
import Osvauld.Core.VectorClock

namespace Osvauld.Core

/-! Texts made by the encryption libraries are symbolic: a sealed text opens
only with the key it was sealed with, and `other` is any text that is no
ciphertext. -/

inductive AesText where
  | sealed (key : String) (plain : JsonText)
  | other (text : String)

inductive PgpText where
  | sealed (recipientPublicKey : String) (plain : String)
  | other (text : String)
deriving DecidableEq, Repr

inductive SignedText where
  | signed (signerPublicKey : String) (message : String) (expiresAt : Int)
  | other (text : String)
deriving DecidableEq, Repr

structure User where
  id : String
  username : String
  publicKey : String
  createdAt : Int
  signature : String
  ucanToken : String
  ucanPubKey : String
  ucanCid : String
  firstSync : Bool
  updatedAt : Int
  owner : Bool
  deleted : Bool
  deletedAt : Option Int
deriving DecidableEq, Repr

structure Device where
  id : String
  deviceKey : String
  userId : String
  createdAt : Int
  updatedAt : Int
  lastSyncedAt : Option Int
deriving DecidableEq, Repr

structure UserWithDeviceIds where
  userId : String
  deviceIds : List String
deriving DecidableEq, Repr

structure UserWithDevices where
  user : User
  devices : List Device
deriving DecidableEq, Repr

structure Folder where
  id : String
  name : String
  defaultFolder : Bool
  parentFolderId : Option String
  description : Option String
  createdAt : Int
  updatedAt : Int
  deleted : Bool
  deletedAt : Option Int
deriving DecidableEq, Repr

structure FolderManifestData where
  folderId : String
  recipientUserIds : List String
deriving DecidableEq, Repr

inductive ResourceType where
  | notes
  | chat
  | default
deriving DecidableEq, Repr

structure Resource where
  id : String
  resourceType : ResourceType
  data : AesText
  folderId : String
  createdFolderId : String
  signature : String
  createdAt : Int
  updatedAt : Int
  favourite : Bool
  createdBy : String
  lastAccessed : Int
  deleted : Bool
  deletedAt : Option Int

structure ResourceKey where
  id : String
  resourceId : String
  userId : String
  encryptedKey : PgpText
  isOwner : Bool
  createdAt : Int
  updatedAt : Int
deriving DecidableEq, Repr

inductive ShareOperation where
  | share
  | revoke
deriving DecidableEq, Repr

inductive PermissionLevel where
  | read
  | write
  | admin
deriving DecidableEq, Repr

structure ShareRecord where
  id : String
  resourceId : String
  sharedByUserId : String
  recipientUserId : String
  permissionLevel : PermissionLevel
  ucanToken : String
  ucanCid : String
  operationType : ShareOperation
  createdAt : Int
  updatedAt : Int
deriving DecidableEq, Repr

structure FolderShareRecord where
  id : String
  folderId : String
  sharedByUserId : String
  recipientUserId : String
  permissionLevel : PermissionLevel
  ucanToken : String
  ucanCid : String
  operationType : ShareOperation
  createdAt : Int
  updatedAt : Int
deriving DecidableEq, Repr

structure ResourceWithKey where
  resource : Resource
  encryptedKey : PgpText

structure ResourceManifestData where
  resourceId : String
  shareRecordIds : List String
  vectorClocks : List ResourceVectorClock
deriving DecidableEq, Repr

structure ResourceSyncData where
  resource : Resource
  resourceKeys : List ResourceKey
  shareRecords : List ShareRecord
  vectorClocks : List ResourceVectorClock

def ResourceKey.new (id : String) (now : Int) (resourceId userId : String)
    (encryptedKey : PgpText) (isOwner : Bool) : ResourceKey :=
  { id, resourceId, userId, encryptedKey, isOwner
    createdAt := now, updatedAt := now }

def ShareRecord.prepareShareRecord (id : String) (now : Int)
    (resourceId sharedByUserId recipientUserId : String)
    (permissionLevel : PermissionLevel) (ucanToken ucanCid : String) :
    ShareRecord :=
  { id, resourceId, sharedByUserId, recipientUserId, permissionLevel
    ucanToken, ucanCid
    operationType := .share, createdAt := now, updatedAt := now }

def FolderShareRecord.prepareFolderShareRecord (id : String) (now : Int)
    (folderId sharedByUserId recipientUserId : String)
    (permissionLevel : PermissionLevel) (ucanToken ucanCid : String) :
    FolderShareRecord :=
  { id, folderId, sharedByUserId, recipientUserId, permissionLevel
    ucanToken, ucanCid
    operationType := .share, createdAt := now, updatedAt := now }

def Resource.new (id : String) (now : Int) (resourceType : ResourceType)
    (data : AesText) (folderId signature createdBy : String) : Resource :=
  { id, resourceType, data, folderId, createdFolderId := folderId, signature
    createdAt := now, updatedAt := now, favourite := false, createdBy
    lastAccessed := now, deleted := false, deletedAt := none }

def User.new (now : Int) (username id publicKey signature : String)
    (owner firstSync : Bool) (ucanToken ucanCid ucanPubKey : String) : User :=
  { id, username, publicKey, signature, owner, firstSync, ucanToken, ucanPubKey
    ucanCid, createdAt := now, updatedAt := now, deleted := false, deletedAt := none }

def Device.new (now : Int) (id devicePublicKey userId : String) : Device :=
  { id, deviceKey := devicePublicKey, userId, createdAt := now, updatedAt := now
    lastSyncedAt := none }

def Folder.new (id : String) (now : Int) (name : String) (description : Option String)
    (defaultFolder : Bool) : Folder :=
  { id, name, description, createdAt := now, updatedAt := now, defaultFolder
    parentFolderId := none, deleted := false, deletedAt := none }

def User.sample (id : String) : User :=
  { id, username := id, publicKey := id, createdAt := 0, signature := ""
    ucanToken := "", ucanPubKey := id, ucanCid := "", firstSync := true
    updatedAt := 0, owner := false, deleted := false, deletedAt := none }

def Device.sample (id userId : String) : Device :=
  { id, deviceKey := id, userId, createdAt := 0, updatedAt := 0
    lastSyncedAt := none }

def Folder.sample (id : String) : Folder :=
  { id, name := id, defaultFolder := true, parentFolderId := none
    description := none, createdAt := 0, updatedAt := 0, deleted := false
    deletedAt := none }

/-! Certificates at rest are symbolic as well: sealed with a passphrase and a salt,
a certificate opens with these two only. -/

abbrev Salt := { bytes : Bytes // bytes.length = 16 }

inductive StoredText (Cert : Type) where
  | certificate (cert : Cert) (password : String) (salt : Salt)
  | pgp (text : PgpText)
  | plain (text : String)

def StoredText.pgp? {Cert : Type} : StoredText Cert → Option PgpText
  | .pgp text => some text
  | _ => none

/-- `Certificate`, and `GeneratedKeys` with the same fields. -/
structure Certificate (Cert : Type) where
  privateKey : StoredText Cert
  publicKey : String
  salt : String

end Osvauld.Core
