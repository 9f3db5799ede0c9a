import Osvauld.TypescriptPort.Search

namespace Osvauld.TypescriptPort

open Osvauld.Core Data

/-! The main service: one instance over a database, with the session of one user at a
time. -/

structure OsvauldService where
  users : Table User
  folders : Table Folder
  storage : DocumentStorage
  searchIndexer : SearchIndexer
  currentUser : Option User
  currentSession : Option AuthSession

structure Authenticated where
  user : User
  session : AuthSession

namespace OsvauldService

abbrev ServiceProgram (Result : Type) := Program OsvauldService PortError Result

def start (users : Table User) (folders : Table Folder) (documents : Table Document) :
    OsvauldService :=
  { users, folders, storage := { documents, documentKeys := fun _ => none }
    searchIndexer := .empty, currentUser := none, currentSession := none }

def onUsers {Result : Type} (program : Program (Table User) PortError Result) :
    ServiceProgram Result :=
  program.zoom OsvauldService.users fun users service => { service with users }

def onFolders {Result : Type} (program : Program (Table Folder) PortError Result) :
    ServiceProgram Result :=
  program.zoom OsvauldService.folders fun folders service => { service with folders }

def onStorage {Result : Type} (program : Program DocumentStorage PortError Result) :
    ServiceProgram Result :=
  program.zoom OsvauldService.storage fun storage service => { service with storage }

def onDocuments {Result : Type} (program : Program (Table Document) PortError Result) :
    ServiceProgram Result :=
  onStorage (DocumentManager.onDocuments program)

def onIndex {Result : Type} (program : Program SearchIndexer PortError Result) :
    ServiceProgram Result :=
  program.zoom OsvauldService.searchIndexer fun searchIndexer service =>
    { service with searchIndexer }

def authenticated (service : OsvauldService) : Option Authenticated :=
  match service.currentUser, service.currentSession with
  | some user, some session => some { user, session }
  | _, _ => none

def requireAuth : ServiceProgram Authenticated :=
  .read fun service =>
    match service.authenticated with
    | some auth => .ok auth
    | none => .error (.error "Authentication required")

def keyPair (session : AuthSession) : KeyPair :=
  { privateKey := session.privateKey, publicKey := session.publicKey }

def openSession (entered : User × AuthSession) : ServiceProgram User := do
  Program.write fun service =>
    .ok { service with currentUser := some entered.1, currentSession := some entered.2 }
  return entered.1

variable (crypto : OsvauldCrypto)

def register (draws : AccountDraws) (now : Date) (username password : String)
    (email : Option String) : ServiceProgram User := do
  let entered ← onUsers
    (AuthenticationManager.register crypto.toAccountCrypto draws now username password email)
  openSession entered

def login (username password : String) : ServiceProgram User := do
  let entered ← onUsers (AuthenticationManager.login crypto.toAccountCrypto username password)
  openSession entered

def logout : ServiceProgram Unit :=
  .write fun service => .ok { service with currentUser := none, currentSession := none }

def createDocument (draws : DocumentDraws) (now : Date) (title content : String)
    (folderId : Option String) (tags : List String) : ServiceProgram Document := do
  let auth ← requireAuth
  let created ← onStorage
    (DocumentManager.createDocument crypto draws now title content auth.user.id
      (keyPair auth.session) folderId)
  let document ←
    (if tags.length > 0 then onDocuments (DocumentManager.addTags now created.id tags auth.user.id)
    else pure created)
  onIndex (SearchIndexer.addDocument (toIndexedDocument document content))
  return document

/-- The key of a document, as long as it is in memory. -/
def getSandboxDocumentKey (documentId : String) : ServiceProgram Bytes :=
  .read fun service =>
    match service.storage.documentKeys documentId with
    | some documentKey => .ok documentKey
    | none => .error (.error "Document key not found (sandbox limitation)")

def getDocument (now : Date) (documentId : String) : ServiceProgram (Document × String) := do
  let auth ← requireAuth
  let documentKey ← getSandboxDocumentKey documentId
  onDocuments
    (DocumentManager.getDocument crypto now documentId auth.user.id (keyPair auth.session)
      documentKey)

def updateDocument (contentIv : Bytes) (now : Date) (documentId content : String) :
    ServiceProgram Document := do
  let auth ← requireAuth
  let documentKey ← getSandboxDocumentKey documentId
  let document ← onDocuments
    (DocumentManager.updateDocument crypto contentIv now documentId content auth.user.id
      (keyPair auth.session) documentKey)
  onIndex (SearchIndexer.updateDocument (toIndexedDocument document content))
  return document

def deleteDocument (documentId : String) : ServiceProgram Unit := do
  let auth ← requireAuth
  onDocuments (DocumentManager.deleteDocument documentId auth.user.id)
  onIndex (SearchIndexer.removeDocument documentId)

def listDocuments : ServiceProgram (List Document) := do
  let auth ← requireAuth
  onDocuments (DocumentManager.listDocuments auth.user.id)

def toggleFavorite (now : Date) (documentId : String) : ServiceProgram Document := do
  let auth ← requireAuth
  onDocuments (DocumentManager.toggleFavorite now documentId auth.user.id)

def addTags (now : Date) (documentId : String) (tags : List String) :
    ServiceProgram Document := do
  let auth ← requireAuth
  onDocuments (DocumentManager.addTags now documentId tags auth.user.id)

/-- The user's identifier goes where `FolderManager.createFolder` takes the name. -/
def createFolder (id : Uuid) (now : Date) (name : String) (parentId : Option String) :
    ServiceProgram Folder := do
  let auth ← requireAuth
  onFolders (FolderManager.createFolder id now auth.user.id name parentId)

def getFolderTree (rounds : Nat) : ServiceProgram (List FolderNode) := do
  let auth ← requireAuth
  onFolders (FolderManager.getFolderTree rounds auth.user.id)

def moveFolder (rounds : Nat) (now : Date) (folderId : String) (newParentId : Option String) :
    ServiceProgram Folder := do
  let auth ← requireAuth
  onFolders (FolderManager.moveFolder rounds now folderId newParentId auth.user.id)

def deleteFolder (rounds : Nat) (folderId : String) : ServiceProgram Unit := do
  let auth ← requireAuth
  onFolders (FolderManager.deleteFolder rounds folderId auth.user.id false)

/-- A search asks for no session. -/
def search (miniSearch : MiniSearch) (query : String) (fuzzy : Bool)
    (service : OsvauldService) : List SearchResult :=
  if fuzzy then service.searchIndexer.fuzzySearch miniSearch query
  else service.searchIndexer.search miniSearch query none

open Program

section Run

theorem run_discard {σ : Type} {Result : Type} (program : Program σ PortError Result) (state : σ) :
    ((program >>= fun _ => pure () : Program σ PortError Unit).run state).2 =
      (program.run state).2 := by
  rw [run_bind]
  rcases program.run state with ⟨error | result, after⟩
  · rfl
  · rfl

variable {Result : Type} {service : OsvauldService}

@[simp] theorem run_onUsers (program : Program (Table User) PortError Result) :
    (onUsers program).run service =
      ((program.run service.users).1, { service with users := (program.run service.users).2 }) := by
  unfold onUsers
  apply run_zoom
  · exact fun _ _ => rfl
  · exact fun _ _ _ => rfl
  · exact fun _ => rfl

@[simp] theorem run_onFolders (program : Program (Table Folder) PortError Result) :
    (onFolders program).run service =
      ((program.run service.folders).1,
        { service with folders := (program.run service.folders).2 }) := by
  unfold onFolders
  apply run_zoom
  · exact fun _ _ => rfl
  · exact fun _ _ _ => rfl
  · exact fun _ => rfl

@[simp] theorem run_onStorage (program : Program DocumentStorage PortError Result) :
    (onStorage program).run service =
      ((program.run service.storage).1,
        { service with storage := (program.run service.storage).2 }) := by
  unfold onStorage
  apply run_zoom
  · exact fun _ _ => rfl
  · exact fun _ _ _ => rfl
  · exact fun _ => rfl

@[simp] theorem run_onIndex (program : Program SearchIndexer PortError Result) :
    (onIndex program).run service =
      ((program.run service.searchIndexer).1,
        { service with searchIndexer := (program.run service.searchIndexer).2 }) := by
  unfold onIndex
  apply run_zoom
  · exact fun _ _ => rfl
  · exact fun _ _ _ => rfl
  · exact fun _ => rfl

@[simp] theorem run_onDocuments (program : Program (Table Document) PortError Result) :
    (onDocuments program).run service =
      ((program.run service.storage.documents).1,
        { service with
          storage :=
            { service.storage with documents := (program.run service.storage.documents).2 } }) := by
  have hstorage : (DocumentManager.onDocuments program).run service.storage =
      ((program.run service.storage.documents).1,
        { service.storage with documents := (program.run service.storage.documents).2 }) := by
    unfold DocumentManager.onDocuments
    apply run_zoom
    · exact fun _ _ => rfl
    · exact fun _ _ _ => rfl
    · exact fun _ => rfl
  rw [onDocuments, run_onStorage, hstorage]

theorem run_requireAuth {auth : Authenticated} (hauth : service.authenticated = some auth) :
    requireAuth.run service = (.ok auth, service) := by
  simp [requireAuth, hauth]

theorem run_requireAuth_none (hauth : service.authenticated = none) :
    requireAuth.run service = (.error (.error "Authentication required"), service) := by
  simp [requireAuth, hauth]

theorem getSandboxDocumentKey_cases (documentId : String) (service : OsvauldService) :
    (∃ documentKey, (getSandboxDocumentKey documentId).run service = (.ok documentKey, service)) ∨
    ∃ error, (getSandboxDocumentKey documentId).run service = (.error error, service) := by
  cases hkey : service.storage.documentKeys documentId with
  | none =>
      exact .inr ⟨.error "Document key not found (sandbox limitation)", by
        simp [getSandboxDocumentKey, hkey]⟩
  | some documentKey => exact .inl ⟨documentKey, by simp [getSandboxDocumentKey, hkey]⟩

end Run

end OsvauldService

def ann : User :=
  { id := "u1", username := "ann", email := none, publicKey := [1]
    encryptedPrivateKey := some [1], createdAt := 1, updatedAt := 1
    metadata := ⟨"", "", "", ""⟩ }

def annAlone : Table User := ⟨[ann], by decide⟩

def annLoggedIn : OsvauldService :=
  { OsvauldService.start annAlone .empty .empty with
    currentUser := some ann, currentSession := some ⟨[1], [1]⟩ }

end Osvauld.TypescriptPort
