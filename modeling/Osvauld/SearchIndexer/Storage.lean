import Mathlib.Data.List.TakeDrop
import Osvauld.Data.Outcome
import Osvauld.SearchIndexer.Operations

namespace Osvauld.SearchIndexer

open Osvauld.Core CryptoUtils Data

/-! The encrypted snapshot: its key is a stored item, its data a file. -/

def SerializedDocument.toJson (document : SerializedDocument) : Value :=
  .object
    [("resource_id", .string document.resourceId), ("title", .string document.title),
      ("content", .string document.content), ("folder_id", .string document.folderId),
      ("comments", .array (document.comments.map .string))]

def IndexSnapshot.toJson (snapshot : IndexSnapshot) : Value :=
  .object
    [("documents", .array (snapshot.documents.map SerializedDocument.toJson)),
      ("version", .number snapshot.version.toNat),
      ("encrypted_key", .string snapshot.encryptedKey)]

def parseString : Value → Except String String
  | .string text => .ok text
  | _ => .error "invalid type, expected a string"

def parseArray {α : Type} (parseItem : Value → Except String α) :
    Value → Except String (List α)
  | .array items => items.mapM parseItem
  | _ => .error "invalid type, expected a sequence"

def parseU32 : Value → Except String UInt32
  | .number value =>
      if 0 ≤ value ∧ value < 2 ^ 32 then .ok (.ofNat value.toNat)
      else .error "invalid value, expected u32"
  | _ => .error "invalid type, expected u32"

def parseField {α : Type} (parseItem : Value → Except String α) (value : Value)
    (key : String) : Except String α :=
  match value.get key with
  | some item => parseItem item
  | none => .error ("missing field " ++ key)

def SerializedDocument.fromJson (value : Value) : Except String SerializedDocument := do
  let resourceId ← parseField parseString value "resource_id"
  let title ← parseField parseString value "title"
  let content ← parseField parseString value "content"
  let folderId ← parseField parseString value "folder_id"
  let comments ← parseField (parseArray parseString) value "comments"
  return { resourceId, title, content, folderId, comments }

def IndexSnapshot.fromJson (value : Value) : Except String IndexSnapshot := do
  let documents ← parseField (parseArray SerializedDocument.fromJson) value "documents"
  let version ← parseField parseU32 value "version"
  let encryptedKey ← parseField parseString value "encrypted_key"
  return { documents, version, encryptedKey }

theorem parseArray_map {α : Type} {parseItem : Value → Except String α} {toValue : α → Value}
    (hitem : ∀ item, parseItem (toValue item) = .ok item) (items : List α) :
    parseArray parseItem (.array (items.map toValue)) = .ok items := by
  rw [parseArray]
  induction items with
  | nil => rfl
  | cons item items ih =>
      rw [List.map_cons, List.mapM_cons, hitem, ih]
      rfl

theorem SerializedDocument.fromJson_toJson (document : SerializedDocument) :
    SerializedDocument.fromJson document.toJson = .ok document := by
  have hcomments : parseArray parseString (.array (document.comments.map .string)) =
      .ok document.comments :=
    have hstring : ∀ text, parseString (.string text) = .ok text := fun _ => rfl
    parseArray_map hstring _
  simp [SerializedDocument.fromJson, SerializedDocument.toJson, parseField, Value.get,
    parseString, hcomments, bind, Except.bind, pure, Except.pure]

theorem parseU32_toNat (version : UInt32) :
    parseU32 (.number version.toNat) = .ok version := by
  have hlt : (version.toNat : Int) < 4294967296 := by
    have := version.toNat_lt
    omega
  rw [parseU32, if_pos ⟨Int.natCast_nonneg _, hlt⟩, Int.toNat_natCast, UInt32.ofNat_toNat]

theorem parseField_eq {α : Type} {parseItem : Value → Except String α} {value item : Value}
    {key : String} (hitem : value.get key = some item) :
    parseField parseItem value key = parseItem item := by
  rw [parseField, hitem]

theorem IndexSnapshot.fromJson_toJson (snapshot : IndexSnapshot) :
    IndexSnapshot.fromJson snapshot.toJson = .ok snapshot := by
  have hdocuments : snapshot.toJson.get "documents" =
      some (.array (snapshot.documents.map SerializedDocument.toJson)) := by
    simp [IndexSnapshot.toJson, Value.get]
  have hversion : snapshot.toJson.get "version" = some (.number snapshot.version.toNat) := by
    simp [IndexSnapshot.toJson, Value.get]
  have hkey : snapshot.toJson.get "encrypted_key" = some (.string snapshot.encryptedKey) := by
    simp [IndexSnapshot.toJson, Value.get]
  rw [IndexSnapshot.fromJson, parseField_eq hdocuments, parseField_eq hversion,
    parseField_eq hkey, parseArray_map SerializedDocument.fromJson_toJson, parseU32_toNat]
  rfl

structure IndexStorage where
  indexKey : Option PgpText := none
  file : Option Bytes := none
deriving DecidableEq

structure StorageEnv where
  libraries : Libraries
  cert : Option String
  userPubKey : String
  textBytes : AesText → Bytes
  readToString : Bytes → Except String AesText

/-- One save: a new key is drawn for it, and `sizes` tells how much of the data each
write to the file takes. -/
structure SaveCall where
  snapshot : IndexSnapshot
  newKey : String
  sizes : List Nat
deriving DecidableEq, Repr

abbrev StorageCall (α : Type) := Program IndexStorage IndexError α

def writeAt (offset : Nat) (piece file : Bytes) : Bytes :=
  file.takeD offset 0 ++ piece ++ file.drop (offset + piece.length)

def piecesOf : List Nat → Bytes → List Bytes
  | [], data => [data]
  | size :: sizes, data => data.take size :: piecesOf sizes (data.drop size)

def onStorage (write : IndexStorage → IndexStorage) : StorageCall PUnit :=
  Program.write fun storage => .ok (write storage)

def addIndexKey (encryptedKey : PgpText) : StorageCall PUnit :=
  onStorage fun storage => { storage with indexKey := some encryptedKey }

def truncateFile : StorageCall PUnit :=
  onStorage fun storage => { storage with file := some [] }

def writePieces (offset : Nat) : List Bytes → StorageCall PUnit
  | [] => pure .unit
  | piece :: pieces => do
      onStorage fun storage =>
        { storage with file := storage.file.map (writeAt offset piece) }
      writePieces (offset + piece.length) pieces

def writeFile (sizes : List Nat) (data : Bytes) : StorageCall PUnit := do
  truncateFile
  writePieces 0 (piecesOf sizes data)

section Storage

variable (env : StorageEnv)

def encryptSnapshot (call : SaveCall) : CryptoResult (AesText × PgpText) :=
  encryptDataForUser env.libraries call.newKey (.encoded call.snapshot.toJson)
    env.userPubKey

def saveEncrypted (call : SaveCall) : StorageCall PUnit := do
  let (encryptedData, encryptedKey) ← Program.ofExcept
    ((encryptSnapshot env call).mapError .encryptionError)
  addIndexKey encryptedKey
  writeFile call.sizes (env.textBytes encryptedData)

def loadEncrypted : StorageCall (Option IndexSnapshot) := do
  let stored ← Program.read fun storage => .ok storage.file.isSome
  if stored then
    let encryptedData ← Program.read fun storage =>
      match storage.file with
      | none => .error (.ioError "No such file or directory (os error 2)")
      | some bytes => (env.readToString bytes).mapError .ioError
    let encryptedKey ← Program.read fun storage =>
      match storage.indexKey with
      | none =>
          .error (.decryptionError "Failed to get index key: Not found" none)
      | some encryptedKey => .ok encryptedKey
    let decryptedData ← Program.ofExcept
      ((decryptResource env.cert encryptedData encryptedKey).mapError
        fun cause => .decryptionError "" (some cause))
    let snapshot ← Program.ofExcept
      ((decryptedData.parse >>= IndexSnapshot.fromJson).mapError .serializationError)
    return some snapshot
  else return none

def ReadsBack (call : SaveCall) : Prop :=
  ∀ encryptedData encryptedKey,
    encryptSnapshot env call = .ok (encryptedData, encryptedKey) →
      env.readToString (env.textBytes encryptedData) = .ok encryptedData

end Storage

theorem flatten_piecesOf (sizes : List Nat) (data : Bytes) :
    (piecesOf sizes data).flatten = data := by
  induction sizes generalizing data with
  | nil => simp [piecesOf]
  | cons size sizes ih => rw [piecesOf, List.flatten_cons, ih, List.take_append_drop]

theorem piecesOf_ne_nil (sizes : List Nat) (data : Bytes) : piecesOf sizes data ≠ [] := by
  cases sizes <;> simp [piecesOf]

theorem writeAt_length (piece written : Bytes) :
    writeAt written.length piece written = written ++ piece := by
  simp [writeAt, List.takeD_eq_take]

def Stores (env : StorageEnv) (call : SaveCall) (storage : IndexStorage) : Prop :=
  ∃ encryptedData encryptedKey,
    encryptSnapshot env call = .ok (encryptedData, encryptedKey) ∧
      storage = { indexKey := some encryptedKey
                  file := some (env.textBytes encryptedData) }

theorem loadEncrypted_of_stores {env : StorageEnv} (hcert : env.cert = some env.userPubKey)
    {call : SaveCall} {storage : IndexStorage} (hread : ReadsBack env call)
    (hstores : Stores env call storage) :
    (loadEncrypted env).run storage = (.ok (some call.snapshot), storage) := by
  obtain ⟨encryptedData, encryptedKey, hencrypt, rfl⟩ := hstores
  have htext := hread _ _ hencrypt
  have hopens : decryptResource env.cert encryptedData encryptedKey =
      .ok (.encoded call.snapshot.toJson) := by
    rw [encryptSnapshot, encryptDataForUser, bind_eq_ok] at hencrypt
    obtain ⟨sealedKey, hsealed, hresult⟩ := hencrypt
    cases hresult
    unfold encryptTextPgp at hsealed
    split at hsealed
    · cases hsealed
    · cases hsealed
      simp [decryptResource, decryptAesKey, getCert, decryptTextPgp, hcert, bind,
        Except.bind]
  have hparse : JsonText.parse (.encoded call.snapshot.toJson) >>= IndexSnapshot.fromJson =
      .ok call.snapshot := IndexSnapshot.fromJson_toJson call.snapshot
  simp [loadEncrypted, htext, hopens, hparse, Except.mapError]

theorem loadEncrypted_nothing (env : StorageEnv) (storage : IndexStorage)
    (hfile : storage.file = none) :
    (loadEncrypted env).run storage = (.ok none, storage) := by
  simp [loadEncrypted, hfile]

end Osvauld.SearchIndexer
