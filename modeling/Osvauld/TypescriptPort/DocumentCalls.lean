import Osvauld.TypescriptPort.OsvauldService

namespace Osvauld.TypescriptPort

open Osvauld.Core Data

/-! The calls of the main service that open and close sessions and work on documents:
what each of them does to the stored documents and to the indexer. -/

inductive ServiceCall
  | register (draws : AccountDraws) (now : Date) (username password : String)
      (email : Option String)
  | login (username password : String)
  | logout
  | restart
  | createDocument (draws : DocumentDraws) (now : Date) (title content : String)
      (folderId : Option String) (tags : List String)
  | getDocument (now : Date) (documentId : String)
  | updateDocument (contentIv : Bytes) (now : Date) (documentId content : String)
  | deleteDocument (documentId : String)
  | listDocuments
  | toggleFavorite (now : Date) (documentId : String)
  | addTags (now : Date) (documentId : String) (tags : List String)

open OsvauldService in
def ServiceCall.body (crypto : OsvauldCrypto) : ServiceCall → ServiceProgram Unit
  | .register draws now username password email => do
      let _ ← OsvauldService.register crypto draws now username password email
  | .login username password => do
      let _ ← OsvauldService.login crypto username password
  | .logout => OsvauldService.logout
  | .restart =>
      .write fun service =>
        .ok (OsvauldService.start service.users service.folders service.storage.documents)
  | .createDocument draws now title content folderId tags => do
      let _ ← OsvauldService.createDocument crypto draws now title content folderId tags
  | .getDocument now documentId => do
      let _ ← OsvauldService.getDocument crypto now documentId
  | .updateDocument contentIv now documentId content => do
      let _ ← OsvauldService.updateDocument crypto contentIv now documentId content
  | .deleteDocument documentId => OsvauldService.deleteDocument documentId
  | .listDocuments => do
      let _ ← OsvauldService.listDocuments
  | .toggleFavorite now documentId => do
      let _ ← OsvauldService.toggleFavorite now documentId
  | .addTags now documentId tags => do
      let _ ← OsvauldService.addTags now documentId tags

def ServiceCall.entered (crypto : OsvauldCrypto) (users : Table User) :
    ServiceCall → Option User
  | .register draws now username password email =>
      ((AuthenticationManager.register crypto.toAccountCrypto draws now username password
        email).run users).1.toOption.map Prod.fst
  | .login username password =>
      ((AuthenticationManager.login crypto.toAccountCrypto username password).run
        users).1.toOption.map Prod.fst
  | _ => none

namespace OsvauldService

open Program

variable {crypto : OsvauldCrypto} {service : OsvauldService} {auth : Authenticated}
  {Result : Type}

theorem enter_cases (program : Program (Table User) PortError (User × AuthSession))
    (service : OsvauldService) :
    (∃ entered users, program.run service.users = (.ok entered, users) ∧
      (onUsers program >>= openSession).run service =
        (.ok entered.1,
          { service with
            users, currentUser := some entered.1, currentSession := some entered.2 })) ∨
    ∃ error users, program.run service.users = (.error error, users) ∧
      (onUsers program >>= openSession).run service = (.error error, { service with users }) := by
  rcases hrun : program.run service.users with ⟨error | entered, users⟩
  · refine .inr ⟨error, users, rfl, ?_⟩
    rw [run_bind, run_onUsers, hrun, andThen_error]
  · refine .inl ⟨entered, users, rfl, ?_⟩
    rw [run_bind, run_onUsers, hrun, andThen_ok]
    rfl

theorem run_authenticated (hauth : service.authenticated = some auth)
    (rest : Authenticated → ServiceProgram Result) :
    (requireAuth >>= rest).run service = (rest auth).run service := by
  rw [run_bind, run_requireAuth hauth, andThen_ok]

theorem run_unauthenticated (hauth : service.authenticated = none)
    (rest : Authenticated → ServiceProgram Result) :
    (requireAuth >>= rest).run service = (.error (.error "Authentication required"), service) := by
  rw [run_bind, run_requireAuth_none hauth, andThen_error]

structure SameOwners (before after : OsvauldService) : Prop where
  authenticated : after.authenticated = before.authenticated
  owned : ∀ id userId, Owned after.storage.documents id userId ↔
    Owned before.storage.documents id userId

/-- A program that leaves the indexer alone, and every document with its owner. If it is
rejected, the documents are as they were. -/
structure Quiet (program : ServiceProgram Result) (service : OsvauldService) : Prop where
  sameOwners : SameOwners service (program.run service).2
  searchIndexer : (program.run service).2.searchIndexer = service.searchIndexer
  rejected : ∀ error, (program.run service).1 = .error error →
    (program.run service).2.storage.documents = service.storage.documents

theorem quiet_of_error {program : ServiceProgram Result} {error : PortError}
    (hrun : program.run service = (.error error, service)) : Quiet program service := by
  constructor
  · rw [hrun]
    exact ⟨rfl, fun _ _ => Iff.rfl⟩
  · rw [hrun]
  · rw [hrun]
    exact fun _ _ => rfl

theorem quiet_requireAuth {rest : Authenticated → ServiceProgram Result}
    (hrest : ∀ auth, service.authenticated = some auth → Quiet (rest auth) service) :
    Quiet (requireAuth >>= rest) service := by
  cases hauth : service.authenticated with
  | none => exact quiet_of_error (run_unauthenticated hauth rest)
  | some auth =>
      obtain ⟨howners, hindexer, hrejected⟩ := hrest auth hauth
      rw [← run_authenticated hauth rest] at howners hindexer hrejected
      exact ⟨howners, hindexer, hrejected⟩

section

variable {documentId : String} {document data : Document}
  (hget : service.storage.documents.get documentId = some document)
  (howner : data.ownerId = document.ownerId)

include hget howner

theorem sameOwners_update :
    SameOwners service
      { service with
        storage :=
          { service.storage with
            documents := service.storage.documents.update documentId data } } :=
  ⟨rfl, fun _ _ => owned_update hget howner⟩

theorem quiet_of_update {program : ServiceProgram Result} {result : Result}
    (hrun : program.run service =
      (.ok result,
        { service with
          storage :=
            { service.storage with
              documents := service.storage.documents.update documentId data } })) :
    Quiet program service := by
  constructor
  · rw [hrun]
    exact sameOwners_update hget howner
  · rw [hrun]
  · rw [hrun]
    intro error herror
    cases herror

end

theorem quiet_changeOwned (documentId userId : String) {change : Document → Document}
    (hchange : ∀ document, (change document).ownerId = document.ownerId) :
    Quiet (onDocuments (DocumentManager.changeOwned documentId userId change)) service := by
  obtain ⟨document, hget, -, hrun⟩ | ⟨error, hrun⟩ :=
    DocumentManager.changeOwned_cases documentId userId change service.storage.documents
  · exact quiet_of_update hget (hchange document) (by rw [run_onDocuments, hrun])
  · exact quiet_of_error (by rw [run_onDocuments, hrun])

theorem quiet_toggleFavorite (now : Date) (documentId : String) :
    Quiet (toggleFavorite now documentId) service :=
  quiet_requireAuth fun _ _ => quiet_changeOwned _ _ fun _ => rfl

theorem quiet_addTags (now : Date) (documentId : String) (tags : List String) :
    Quiet (addTags now documentId tags) service :=
  quiet_requireAuth fun _ _ => quiet_changeOwned _ _ fun _ => rfl

theorem quiet_listDocuments : Quiet listDocuments service := by
  refine quiet_requireAuth fun auth _ => ?_
  have hrun : (onDocuments (DocumentManager.listDocuments auth.user.id)).run service =
      (.ok (service.storage.documents.rows.filter fun document =>
        document.ownerId = auth.user.id), service) := by
    rw [run_onDocuments]
    rfl
  constructor
  · rw [hrun]
    exact ⟨rfl, fun _ _ => Iff.rfl⟩
  · rw [hrun]
  · rw [hrun]
    exact fun _ _ => rfl

theorem quiet_getDocument (now : Date) (documentId : String) :
    Quiet (getDocument crypto now documentId) service := by
  refine quiet_requireAuth fun auth _ => ?_
  obtain ⟨documentKey, hread⟩ | ⟨error, hread⟩ := getSandboxDocumentKey_cases documentId service
  · obtain ⟨document, content, hget, hrun⟩ | ⟨error, hrun⟩ :=
      DocumentManager.getDocument_cases crypto now documentId auth.user.id (keyPair auth.session)
        documentKey service.storage.documents
    · have howner : { document with lastAccessedAt := now }.ownerId = document.ownerId := rfl
      exact quiet_of_update hget howner (by rw [run_bind, hread, andThen_ok, run_onDocuments, hrun])
    · exact quiet_of_error (by rw [run_bind, hread, andThen_ok, run_onDocuments, hrun])
  · exact quiet_of_error (by rw [run_bind, hread, andThen_error])

theorem tagCreated_run {created : Document} (hget : service.storage.documents.get created.id =
      some created) (howner : created.ownerId = auth.user.id) (now : Date) (tags : List String) :
    ∃ tagged documents,
      (if tags.length > 0 then
          onDocuments (DocumentManager.addTags now created.id tags auth.user.id)
        else pure created).run service =
          (.ok tagged, { service with storage := { service.storage with documents } }) ∧
      tagged.id = created.id ∧ tagged.ownerId = created.ownerId ∧
      ∀ id userId, Owned documents id userId ↔ Owned service.storage.documents id userId := by
  split
  · rw [run_onDocuments, DocumentManager.addTags, ← howner, DocumentManager.changeOwned_run hget]
    refine ⟨_, _, rfl, rfl, rfl, fun id userId => owned_update hget ?_⟩
    rfl
  · exact ⟨created, service.storage.documents, rfl, rfl, rfl, fun _ _ => Iff.rfl⟩

theorem createDocument_cases (crypto : OsvauldCrypto) (hauth : service.authenticated = some auth) (draws : DocumentDraws)
    (now : Date) (title content : String) (folderId : Option String) (tags : List String) :
    (∃ error documentKeys,
      (createDocument crypto draws now title content folderId tags).run service =
        (.error error,
          { service with storage := { service.storage with documentKeys } })) ∨
    ∃ tagged after, after.authenticated = service.authenticated ∧
      after.searchIndexer = service.searchIndexer ∧
      (∀ userId, ¬ Owned service.storage.documents tagged.id userId) ∧
      (∀ id userId, Owned after.storage.documents id userId ↔
        (id = tagged.id ∧ auth.user.id = userId) ∨ Owned service.storage.documents id userId) ∧
      tagged.ownerId = auth.user.id ∧
      (createDocument crypto draws now title content folderId tags).run service =
        (onIndex (SearchIndexer.addDocument (toIndexedDocument tagged content)) >>= fun _ =>
          pure tagged).run after := by
  obtain ⟨created, documentKeys, ⟨documents, hadd, hrun⟩ | ⟨error, hrun⟩, howner⟩ :=
    DocumentManager.createDocument_cases crypto draws now title content auth.user.id
      (keyPair auth.session) folderId service.storage
  · have hget : documents.get created.id = some created :=
      Table.get_of_mem ((Table.mem_add hadd).mpr (.inl rfl))
    obtain ⟨tagged, tables, htags, hid, htagged, howned⟩ := @tagCreated_run
      { service with storage := ⟨documents, documentKeys⟩ } auth created hget howner now tags
    refine .inr ⟨tagged, { service with storage := ⟨tables, documentKeys⟩ }, rfl, rfl,
      ?free, ?owned, htagged.trans howner, ?run⟩
    case free =>
      rintro userId ⟨document, hdocument, hsame, -⟩
      exact (Table.add_eq_ok_iff.mp hadd).1 document hdocument (hsame.trans hid)
    case owned =>
      intro id userId
      rw [howned, owned_add hadd, hid, howner]
    case run =>
      rw [createDocument, run_authenticated hauth, run_bind, run_onStorage, hrun, andThen_ok,
        run_bind, htags, andThen_ok]
  · refine .inl ⟨error, documentKeys, ?_⟩
    rw [createDocument, run_authenticated hauth, run_bind, run_onStorage, hrun, andThen_error]

theorem updateDocument_cases (crypto : OsvauldCrypto) (hauth : service.authenticated = some auth) (contentIv : Bytes)
    (now : Date) (documentId content : String) :
    (∃ error, (updateDocument crypto contentIv now documentId content).run service =
      (.error error, service)) ∨
    ∃ data after, SameOwners service after ∧ after.searchIndexer = service.searchIndexer ∧
      Owned service.storage.documents data.id auth.user.id ∧ data.ownerId = auth.user.id ∧
      (updateDocument crypto contentIv now documentId content).run service =
        (onIndex (SearchIndexer.updateDocument (toIndexedDocument data content)) >>= fun _ =>
          pure data).run after := by
  rw [updateDocument, run_authenticated hauth]
  obtain ⟨documentKey, hread⟩ | ⟨error, hread⟩ := getSandboxDocumentKey_cases documentId service
  · rw [run_bind, hread, andThen_ok, run_bind, run_onDocuments]
    obtain ⟨document, encrypted, hget, howner, hrun⟩ | ⟨error, hrun⟩ :=
      DocumentManager.updateDocument_cases crypto contentIv now documentId content auth.user.id
        (keyPair auth.session) documentKey service.storage.documents
    · obtain ⟨hmem, -⟩ := Table.mem_of_get hget
      have hsame : (document.withContent encrypted now).ownerId = document.ownerId := rfl
      refine .inr ⟨document.withContent encrypted now, _, sameOwners_update hget hsame, rfl,
        ⟨document, hmem, rfl, howner⟩, howner, ?_⟩
      rw [hrun, andThen_ok]
    · exact .inl ⟨error, by rw [hrun, andThen_error]⟩
  · exact .inl ⟨error, by rw [run_bind, hread, andThen_error]⟩

theorem deleteDocument_cases (hauth : service.authenticated = some auth) (documentId : String) :
    (∃ error, (deleteDocument documentId).run service = (.error error, service)) ∨
    (Owned service.storage.documents documentId auth.user.id ∧
      (deleteDocument documentId).run service =
        (onIndex (SearchIndexer.removeDocument documentId)).run
          { service with
            storage :=
              { service.storage with
                documents := service.storage.documents.delete documentId } }) := by
  rw [deleteDocument, run_authenticated hauth, run_bind, run_onDocuments]
  obtain ⟨document, hget, howner, hrun⟩ | ⟨error, hrun⟩ :=
    DocumentManager.deleteDocument_cases documentId auth.user.id service.storage.documents
  · obtain ⟨hmem, hid⟩ := Table.get_eq_some_iff.mp hget
    exact .inr ⟨⟨document, hmem, hid, howner⟩, by rw [hrun, andThen_ok]⟩
  · exact .inl ⟨error, by rw [hrun, andThen_error]⟩

end OsvauldService

end Osvauld.TypescriptPort
