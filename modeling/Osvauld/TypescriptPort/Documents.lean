import Osvauld.TypescriptPort.Accounts

namespace Osvauld.TypescriptPort

open Osvauld.Core Data

/-! Encrypted documents, and `DocumentManager`. -/

abbrev OptionalKey (α : Type) := Option (Option α)

/-- The key after an update. A key without a value takes the stored value away. -/
def OptionalKey.assign {α : Type} (stored data : OptionalKey α) : OptionalKey α :=
  match data with
  | none => stored
  | some none => if stored.join.isSome then none else stored
  | some (some value) => some (some value)

@[simp] theorem OptionalKey.assign_self {α : Type} (stored : OptionalKey α) :
    stored.assign stored = stored := by
  cases stored with
  | none => rfl
  | some value =>
      cases value with
      | none => rfl
      | some value => rfl

/-- `metadata` is never set, and `lastAccessedAt` always is. -/
structure Document where
  id : String
  title : String
  encryptedContent : String
  contentIV : String
  encryptedKey : String
  keyIV : String
  signature : String
  ownerId : String
  folderId : OptionalKey String
  tags : List String
  isFavorite : Bool
  createdAt : Date
  updatedAt : Date
  lastAccessedAt : Date
deriving DecidableEq

instance : Entity Document where
  tableName := "documents"
  id := Document.id
  assign stored data :=
    { data with id := stored.id, folderId := stored.folderId.assign data.folderId }
  id_assign _ _ := rfl

structure OsvauldCrypto extends AccountCrypto where
  sign : (message privateKey : Bytes) → Bytes
  verify : (signature message publicKey : Bytes) → Bool

/-- Libraries that hide nothing. -/
def plainCrypto : OsvauldCrypto where
  deriveKey password salt := encodeText password ++ salt
  encrypt data _ _ := data
  decrypt ciphertext _ _ := .ok ciphertext
  ed25519PublicKey privateKey := privateKey
  generateMnemonic entropy := Base64.encode entropy
  validateMnemonic _ := true
  mnemonicToSeed := encodeText
  deriveKeyPair seed path := .ok ⟨seed, seed, [], path⟩
  decodeText bytes := (String.fromUTF8? ⟨bytes.toArray⟩).getD ""
  sign message _ := message
  verify signature message _ := signature = message

theorem decodeText_encodeText (text : String) :
    plainCrypto.decodeText (encodeText text) = text := by
  have hbytes : (⟨(encodeText text).toArray⟩ : ByteArray) = text.toByteArray := by
    simp [encodeText]
  simp only [plainCrypto, hbytes]
  rw [String.fromUTF8?, dif_pos text.isValidUTF8]
  rfl

theorem encodeText_ne_nil {text : String} (htext : text ≠ "") : encodeText text ≠ [] := by
  intro hempty
  have hdecode := decodeText_encodeText text
  rw [hempty] at hdecode
  exact htext (hdecode.symm.trans (decodeText_encodeText ""))

/-- Nothing reads its `metadata`. -/
structure EncryptedDocument where
  content : EncryptedData
  encryptedKey : EncryptedData
  signature : Bytes

structure DocumentDraws where
  docId : Uuid
  documentKey : Bytes
  contentIv : Bytes
  keyEncryptionKey : Bytes
  keyIv : Bytes

structure DocumentStorage where
  documents : Table Document
  documentKeys : String → Option Bytes

section Encryption

variable (crypto : OsvauldCrypto)

def encryptDocument (draws : DocumentDraws) (content docId : String)
    (ownerKeyPair : KeyPair) : Program DocumentStorage PortError EncryptedDocument := do
  let encryptedContent :=
    encrypt crypto.toAccountCrypto (encodeText content) draws.documentKey draws.contentIv
  let encryptedKey :=
    encrypt crypto.toAccountCrypto draws.documentKey draws.keyEncryptionKey draws.keyIv
  let signature := crypto.sign encryptedContent.ciphertext ownerKeyPair.privateKey
  Program.write fun storage =>
    .ok
      { storage with
        documentKeys := Function.update storage.documentKeys docId (some draws.documentKey) }
  return { content := encryptedContent, encryptedKey, signature }

def decryptDocument (encrypted : EncryptedDocument) (documentKey ownerPublicKey : Bytes) :
    Except PortError String :=
  if crypto.verify encrypted.signature encrypted.content.ciphertext ownerPublicKey then do
    let contentBytes ← decrypt crypto.toAccountCrypto encrypted.content documentKey
    return crypto.decodeText contentBytes
  else
    .error (.error "Invalid document signature")

def reEncryptDocument (contentIv : Bytes) (content : String) (encrypted : EncryptedDocument)
    (documentKey : Bytes) (ownerKeyPair : KeyPair) : EncryptedDocument :=
  let encryptedContent :=
    encrypt crypto.toAccountCrypto (encodeText content) documentKey contentIv
  { encrypted with
    content := encryptedContent
    signature := crypto.sign encryptedContent.ciphertext ownerKeyPair.privateKey }

end Encryption

def Document.encrypted (document : Document) : Except PortError EncryptedDocument := do
  let ciphertext ← fromBase64 document.encryptedContent
  let iv ← fromBase64 document.contentIV
  let keyCiphertext ← fromBase64 document.encryptedKey
  let keyIv ← fromBase64 document.keyIV
  let signature ← fromBase64 document.signature
  return { content := { ciphertext, iv }, encryptedKey := ⟨keyCiphertext, keyIv⟩, signature }

def Document.withContent (encrypted : EncryptedDocument) (now : Date) (document : Document) :
    Document :=
  { document with
    encryptedContent := Base64.encode encrypted.content.ciphertext
    contentIV := Base64.encode encrypted.content.iv
    signature := Base64.encode encrypted.signature
    updatedAt := now }

namespace DocumentManager

abbrev DocumentProgram (Result : Type) := Program (Table Document) PortError Result

variable (crypto : OsvauldCrypto)

def onDocuments {Result : Type} (program : DocumentProgram Result) :
    Program DocumentStorage PortError Result :=
  program.zoom DocumentStorage.documents fun documents storage => { storage with documents }

def createDocument (draws : DocumentDraws) (now : Date) (title content ownerId : String)
    (ownerKeyPair : KeyPair) (folderId : Option String) :
    Program DocumentStorage PortError Document := do
  let encrypted ← encryptDocument crypto draws content draws.docId.val ownerKeyPair
  let document : Document :=
    { id := draws.docId.val
      title
      ownerId
      folderId := some folderId
      encryptedContent := Base64.encode encrypted.content.ciphertext
      contentIV := Base64.encode encrypted.content.iv
      encryptedKey := Base64.encode encrypted.encryptedKey.ciphertext
      keyIV := Base64.encode encrypted.encryptedKey.iv
      signature := Base64.encode encrypted.signature
      createdAt := now
      updatedAt := now
      tags := []
      isFavorite := false
      lastAccessedAt := now }
  onDocuments (BaseRepository.create document)

def getOwned (docId userId : String) : DocumentProgram Document := do
  let document ← BaseRepository.get docId
  if document.ownerId ≠ userId then .fail (.error "Access denied") else pure document

def updateLastAccessed (now : Date) (docId : String) : DocumentProgram Unit := do
  let document ← BaseRepository.get docId
  let _ ← BaseRepository.update docId { document with lastAccessedAt := now }

def getDocument (now : Date) (docId userId : String) (userKeyPair : KeyPair)
    (documentKey : Bytes) : DocumentProgram (Document × String) := do
  let document ← getOwned docId userId
  let encrypted ← Program.ofExcept document.encrypted
  let content ← Program.ofExcept
    (decryptDocument crypto encrypted documentKey userKeyPair.publicKey)
  updateLastAccessed now docId
  return (document, content)

def updateDocument (contentIv : Bytes) (now : Date) (docId content userId : String)
    (userKeyPair : KeyPair) (documentKey : Bytes) : DocumentProgram Document := do
  let document ← getOwned docId userId
  let encrypted ← Program.ofExcept document.encrypted
  let reEncrypted := reEncryptDocument crypto contentIv content encrypted documentKey userKeyPair
  let updated := document.withContent reEncrypted now
  let _ ← BaseRepository.update updated.id updated
  return updated

def deleteDocument (docId userId : String) : DocumentProgram Unit := do
  let _ ← getOwned docId userId
  BaseRepository.delete docId

def listDocuments (userId : String) : DocumentProgram (List Document) := do
  let allDocs ← BaseRepository.list
  return allDocs.filter fun document => document.ownerId = userId

def changeOwned (docId userId : String) (change : Document → Document) :
    DocumentProgram Document := do
  let document ← getOwned docId userId
  let updated := change document
  let _ ← BaseRepository.update docId updated
  return updated

def moveToFolder (now : Date) (docId : String) (folderId : Option String) (userId : String) :
    DocumentProgram Unit := do
  let _ ← changeOwned docId userId fun document =>
    { document with folderId := some folderId, updatedAt := now }

def toggleFavorite (now : Date) (docId userId : String) : DocumentProgram Document :=
  changeOwned docId userId fun document =>
    { document with isFavorite := !document.isFavorite, updatedAt := now }

def addTags (now : Date) (docId : String) (tags : List String) (userId : String) :
    DocumentProgram Document :=
  changeOwned docId userId fun document =>
    { document with tags := (document.tags ++ tags).eraseDups, updatedAt := now }

def removeTags (now : Date) (docId : String) (tags : List String) (userId : String) :
    DocumentProgram Document :=
  changeOwned docId userId fun document =>
    { document with tags := document.tags.filter fun tag => tag ∉ tags, updatedAt := now }

open Program

variable {documents : Table Document} {docId userId : String}

theorem getOwned_run {document : Document} (hget : documents.get docId = some document) :
    (getOwned docId document.ownerId).run documents = (.ok document, documents) := by
  rw [getOwned, run_bind, BaseRepository.get_run hget, andThen_ok]
  simp

theorem getOwned_cases (docId userId : String) (documents : Table Document) :
    (∃ document, documents.get docId = some document ∧ document.ownerId = userId ∧
      (getOwned docId userId).run documents = (.ok document, documents)) ∨
    ∃ error, (getOwned docId userId).run documents = (.error error, documents) := by
  cases hget : documents.get docId with
  | none =>
      refine .inr ⟨.notFound (Entity.tableName Document) docId, ?_⟩
      rw [getOwned, run_bind, BaseRepository.get_run_none hget, andThen_error]
  | some document =>
      by_cases howner : document.ownerId = userId
      · exact .inl ⟨document, rfl, howner, howner ▸ getOwned_run hget⟩
      · refine .inr ⟨.error "Access denied", ?_⟩
        rw [getOwned, run_bind, BaseRepository.get_run hget, andThen_ok]
        simp [howner]

theorem changeOwned_run {document : Document} (hget : documents.get docId = some document)
    (change : Document → Document) :
    (changeOwned docId document.ownerId change).run documents =
      (.ok (change document), documents.update docId (change document)) := by
  rw [changeOwned, run_bind, getOwned_run hget, andThen_ok, run_bind,
    BaseRepository.update_run hget, andThen_ok, run_pure]

theorem changeOwned_cases (docId userId : String) (change : Document → Document)
    (documents : Table Document) :
    (∃ document, documents.get docId = some document ∧ document.ownerId = userId ∧
      (changeOwned docId userId change).run documents =
        (.ok (change document), documents.update docId (change document))) ∨
    ∃ error, (changeOwned docId userId change).run documents = (.error error, documents) := by
  obtain ⟨document, hget, rfl, -⟩ | ⟨error, hrun⟩ := getOwned_cases docId userId documents
  · exact .inl ⟨document, hget, rfl, changeOwned_run hget change⟩
  · exact .inr ⟨error, by rw [changeOwned, run_bind, hrun, andThen_error]⟩

theorem run_onDocumentTable {Result : Type} (program : DocumentProgram Result)
    (storage : DocumentStorage) :
    (onDocuments program).run storage =
      ((program.run storage.documents).1,
        { storage with documents := (program.run storage.documents).2 }) := by
  unfold onDocuments
  apply run_zoom
  · exact fun _ _ => rfl
  · exact fun _ _ _ => rfl
  · exact fun _ => rfl

theorem create_cases (document : Document) (storage : DocumentStorage) :
    (∃ documents, storage.documents.add document = .ok documents ∧
      (onDocuments (BaseRepository.create document)).run storage =
        (.ok document, { storage with documents })) ∨
    ∃ error, (onDocuments (BaseRepository.create document)).run storage =
      (.error error, storage) := by
  rw [run_onDocumentTable, BaseRepository.create, run_bind, run_write]
  cases hadd : storage.documents.add document with
  | ok documents => exact .inl ⟨documents, rfl, rfl⟩
  | error error => exact .inr ⟨error, rfl⟩

theorem createDocument_cases (draws : DocumentDraws) (now : Date)
    (title content ownerId : String) (ownerKeyPair : KeyPair) (folderId : Option String)
    (storage : DocumentStorage) :
    ∃ (document : Document) (documentKeys : String → Option Bytes),
      ((∃ documents, storage.documents.add document = .ok documents ∧
        (createDocument crypto draws now title content ownerId ownerKeyPair folderId).run storage =
          (.ok document, ⟨documents, documentKeys⟩)) ∨
      ∃ error, (createDocument crypto draws now title content ownerId ownerKeyPair
        folderId).run storage = (.error error, ⟨storage.documents, documentKeys⟩)) ∧
      document.ownerId = ownerId := by
  have hencrypt : ∃ encrypted documentKeys,
      (encryptDocument crypto draws content draws.docId.val ownerKeyPair).run storage =
        (.ok encrypted, ⟨storage.documents, documentKeys⟩) := ⟨_, _, rfl⟩
  obtain ⟨encrypted, documentKeys, hencrypt⟩ := hencrypt
  rw [createDocument, run_bind, hencrypt, andThen_ok]
  dsimp only
  refine ⟨_, documentKeys, create_cases _ ⟨storage.documents, documentKeys⟩, ?_⟩
  rfl

theorem getDocument_cases (now : Date) (docId userId : String) (userKeyPair : KeyPair)
    (documentKey : Bytes) (documents : Table Document) :
    (∃ document content, documents.get docId = some document ∧
      (getDocument crypto now docId userId userKeyPair documentKey).run documents =
        (.ok (document, content),
          documents.update docId { document with lastAccessedAt := now })) ∨
    ∃ error, (getDocument crypto now docId userId userKeyPair documentKey).run documents =
      (.error error, documents) := by
  unfold getDocument
  obtain ⟨document, hget, -, hrun⟩ | ⟨error, hrun⟩ := getOwned_cases docId userId documents
  · rw [run_bind, hrun, andThen_ok, run_bind, run_ofExcept]
    cases document.encrypted with
    | error error => exact .inr ⟨error, rfl⟩
    | ok encrypted =>
        rw [andThen_ok, run_bind, run_ofExcept]
        cases decryptDocument crypto encrypted documentKey userKeyPair.publicKey with
        | error error => exact .inr ⟨error, rfl⟩
        | ok content =>
            refine .inl ⟨document, content, hget, ?_⟩
            rw [andThen_ok, run_bind, updateLastAccessed, run_bind, BaseRepository.get_run hget,
              andThen_ok, run_bind, BaseRepository.update_run hget]
            rfl
  · exact .inr ⟨error, by rw [run_bind, hrun, andThen_error]⟩

theorem updateDocument_cases (contentIv : Bytes) (now : Date) (docId content userId : String)
    (userKeyPair : KeyPair) (documentKey : Bytes) (documents : Table Document) :
    (∃ document encrypted, documents.get docId = some document ∧ document.ownerId = userId ∧
      (updateDocument crypto contentIv now docId content userId userKeyPair documentKey).run
          documents =
        (.ok (document.withContent encrypted now),
          documents.update docId (document.withContent encrypted now))) ∨
    ∃ error, (updateDocument crypto contentIv now docId content userId userKeyPair
      documentKey).run documents = (.error error, documents) := by
  unfold updateDocument
  obtain ⟨document, hget, howner, hrun⟩ | ⟨error, hrun⟩ := getOwned_cases docId userId documents
  · rw [run_bind, hrun, andThen_ok, run_bind, run_ofExcept]
    cases document.encrypted with
    | error error => exact .inr ⟨error, rfl⟩
    | ok encrypted =>
        obtain rfl : document.id = docId := (Table.mem_of_get hget).2
        let reEncrypted :=
          reEncryptDocument crypto contentIv content encrypted documentKey userKeyPair
        have hupdate := BaseRepository.update_run hget (document.withContent reEncrypted now)
        refine .inl ⟨document, reEncrypted, hget, howner, ?_⟩
        rw [andThen_ok]
        refine (run_bind _ _ _).trans ?_
        rw [show (document.withContent reEncrypted now).id = document.id from rfl, hupdate]
        rfl
  · exact .inr ⟨error, by rw [run_bind, hrun, andThen_error]⟩

theorem deleteDocument_cases (docId userId : String) (documents : Table Document) :
    (∃ document, documents.get docId = some document ∧ document.ownerId = userId ∧
      (deleteDocument docId userId).run documents = (.ok (), documents.delete docId)) ∨
    ∃ error, (deleteDocument docId userId).run documents = (.error error, documents) := by
  unfold deleteDocument
  obtain ⟨document, hget, howner, hrun⟩ | ⟨error, hrun⟩ := getOwned_cases docId userId documents
  · exact .inl ⟨document, hget, howner, by rw [run_bind, hrun, andThen_ok]; rfl⟩
  · exact .inr ⟨error, by rw [run_bind, hrun, andThen_error]⟩

end DocumentManager

def Owned (documents : Table Document) (id userId : String) : Prop :=
  ∃ document ∈ documents.rows, document.id = id ∧ document.ownerId = userId

variable {documents : Table Document} {id userId : String}

theorem owned_update {docId : String} {stored data : Document}
    (hget : documents.get docId = some stored) (howner : data.ownerId = stored.ownerId) :
    Owned (documents.update docId data) id userId ↔ Owned documents id userId := by
  unfold Owned
  constructor
  · rintro ⟨document, hdocument, hid, huser⟩
    obtain ⟨other, hother, hsame, rfl⟩ | ⟨hmem, -⟩ := Table.mem_update.mp hdocument
    · cases hget.symm.trans (Table.get_eq_some_iff.mpr ⟨hother, hsame⟩)
      exact ⟨stored, hother, hid, howner.symm.trans huser⟩
    · exact ⟨document, hmem, hid, huser⟩
  · rintro ⟨document, hdocument, hid, huser⟩
    by_cases hsame : document.id = docId
    · cases hget.symm.trans (Table.get_eq_some_iff.mpr ⟨hdocument, hsame⟩)
      exact ⟨Entity.assign stored data,
        Table.mem_update.mpr (.inl ⟨stored, hdocument, hsame, rfl⟩), hid, howner.trans huser⟩
    · exact ⟨document, Table.mem_update.mpr (.inr ⟨hdocument, hsame⟩), hid, huser⟩

theorem owned_add {document : Document} {after : Table Document}
    (hadd : documents.add document = .ok after) :
    Owned after id userId ↔
      (id = document.id ∧ document.ownerId = userId) ∨ Owned documents id userId := by
  unfold Owned
  constructor
  · rintro ⟨other, hother, rfl, huser⟩
    rcases (Table.mem_add hadd).mp hother with rfl | hold
    · exact .inl ⟨rfl, huser⟩
    · exact .inr ⟨other, hold, rfl, huser⟩
  · rintro (⟨rfl, huser⟩ | ⟨other, hother, hid, huser⟩)
    · exact ⟨document, (Table.mem_add hadd).mpr (.inl rfl), rfl, huser⟩
    · exact ⟨other, (Table.mem_add hadd).mpr (.inr hother), hid, huser⟩

theorem owned_delete {docId : String} :
    Owned (documents.delete docId) id userId ↔ Owned documents id userId ∧ id ≠ docId := by
  unfold Owned
  constructor
  · rintro ⟨document, hdocument, rfl, huser⟩
    obtain ⟨hmem, hne⟩ := Table.mem_delete.mp hdocument
    exact ⟨⟨document, hmem, rfl, huser⟩, hne⟩
  · rintro ⟨⟨document, hdocument, rfl, huser⟩, hne⟩
    exact ⟨document, Table.mem_delete.mpr ⟨hdocument, hne⟩, rfl, huser⟩

def untaggedDocument : Document :=
  { id := "d1", title := "notes", encryptedContent := "", contentIV := "", encryptedKey := ""
    keyIV := "", signature := "", ownerId := "u1", folderId := some none, tags := []
    isFavorite := false, createdAt := 1, updatedAt := 1, lastAccessedAt := 1 }

def noteDraws : DocumentDraws := ⟨⟨"d1", by decide⟩, [1], [2], [3], [4]⟩

def untaggedDocuments : Table Document := ⟨[untaggedDocument], by decide⟩

end Osvauld.TypescriptPort
