import Osvauld.Data.Run
import Osvauld.TypescriptPort.DocumentCalls

namespace Osvauld.TypescriptPort

open Osvauld.Core Data

/-! The search index beside the stored documents, over whole histories of an instance. -/

inductive IndexUse
  | call (request : ServiceCall)
  | addDocument (doc : IndexedDocument)
  | addDocuments (docs : List IndexedDocument)
  | updateDocument (doc : IndexedDocument)
  | removeDocument (docId : String)
  | clear

open OsvauldService in
def IndexUse.body (crypto : OsvauldCrypto) : IndexUse → ServiceProgram Unit
  | .call request => request.body crypto
  | .addDocument doc => onIndex (SearchIndexer.addDocument doc)
  | .addDocuments docs => onIndex (SearchIndexer.addDocuments docs)
  | .updateDocument doc => onIndex (SearchIndexer.updateDocument doc)
  | .removeDocument docId => onIndex (SearchIndexer.removeDocument docId)
  | .clear => onIndex SearchIndexer.clear

namespace OsvauldService

open Program

def step (crypto : OsvauldCrypto) (use : IndexUse) (service : OsvauldService) : OsvauldService :=
  ((use.body crypto).run service).2

def IndexHolds (service : OsvauldService) (userId : String) : Prop :=
  ∀ id, id ∈ service.searchIndexer.index.ids ↔ Owned service.storage.documents id userId

/-- The map, the index and the stored documents of the user who is logged in have the
same identifiers. -/
structure InAgreement (service : OsvauldService) : Prop where
  documents : ∀ id, id ∈ service.searchIndexer.documents.ids ↔ id ∈ service.searchIndexer.index.ids
  stored : ∀ auth, service.authenticated = some auth → service.IndexHolds auth.user.id

def RejectKeeps {Result : Type} (program : ServiceProgram Result) (service : OsvauldService) :
    Prop :=
  ∀ error, (program.run service).1 = .error error →
    (program.run service).2.storage.documents = service.storage.documents ∧
    (program.run service).2.searchIndexer = service.searchIndexer

/-- Before the operation. A session is opened while the index holds the documents of its
user, and the indexer is only told what it knows already, or, while nobody is logged in,
what it does not know yet; a single document may be replaced, or be asked to go though
it is not there. -/
def KeepsIndex (crypto : OsvauldCrypto) (service : OsvauldService) : IndexUse → Prop
  | .call request => ∀ user, request.entered crypto service.users = some user →
      service.IndexHolds user.id
  | .addDocument doc =>
      doc ∈ service.searchIndexer.documents.docs ∨
        (service.authenticated = none ∧ doc.id ∉ service.searchIndexer.index.ids)
  | .addDocuments docs =>
      docs = [] ∨
        ((∃ doc ∈ docs.head?, doc.id ∈ service.searchIndexer.index.ids) ∧
          docs.foldl (fun documents doc => documents.set doc) service.searchIndexer.documents =
            service.searchIndexer.documents) ∨
        (service.authenticated = none ∧ (docs.map IndexedDocument.id).Nodup ∧
          ∀ doc ∈ docs, doc.id ∉ service.searchIndexer.index.ids)
  | .updateDocument doc => doc.id ∈ service.searchIndexer.index.ids
  | .removeDocument docId =>
      docId ∉ service.searchIndexer.index.ids ∨ service.authenticated = none
  | .clear => service.searchIndexer.index.docs = [] ∨ service.authenticated = none

def Agrees {Result : Type} (program : ServiceProgram Result) (service : OsvauldService) : Prop :=
  InAgreement (program.run service).2 ∧ RejectKeeps program service

section Agrees

variable {crypto : OsvauldCrypto} {service after : OsvauldService} {auth : Authenticated}
  {Result : Type} {program : ServiceProgram Result} {result : Result} {error : PortError}

theorem InAgreement.of_same (hagree : service.InAgreement) (hsame : SameOwners service after)
    (hindexer : after.searchIndexer = service.searchIndexer) : after.InAgreement where
  documents := hindexer ▸ hagree.documents
  stored := by
    intro auth hafter id
    rw [hindexer, hsame.owned]
    exact hagree.stored auth (hsame.authenticated ▸ hafter) id

theorem agrees_ok_iff (hrun : program.run service = (.ok result, after)) :
    Agrees program service ↔ after.InAgreement := by
  unfold Agrees RejectKeeps
  rw [hrun]
  exact and_iff_left fun error herror => by cases herror

theorem agrees_error_iff (hrun : program.run service = (.error error, after)) :
    Agrees program service ↔ after.InAgreement ∧
      after.storage.documents = service.storage.documents ∧
        after.searchIndexer = service.searchIndexer := by
  unfold Agrees RejectKeeps
  rw [hrun]
  exact and_congr_right fun _ => ⟨fun hkeeps => hkeeps error rfl, fun hkeeps _ _ => hkeeps⟩

theorem agrees_discard :
    Agrees (program >>= fun _ => pure ()) service ↔ Agrees program service := by
  rcases hrun : program.run service with ⟨error | result, after⟩
  · have hbind : (program >>= fun _ => pure ()).run service = (.error error, after) := by
      rw [run_bind, hrun, andThen_error]
    rw [agrees_error_iff hrun, agrees_error_iff hbind]
  · have hbind : (program >>= fun _ => pure ()).run service = (.ok (), after) := by
      rw [run_bind, hrun, andThen_ok, run_pure]
    rw [agrees_ok_iff hrun, agrees_ok_iff hbind]

section

variable (hagree : service.InAgreement)

include hagree

theorem agrees_of_error (hrun : program.run service = (.error error, service)) :
    Agrees program service :=
  (agrees_error_iff hrun).mpr ⟨hagree, rfl, rfl⟩

theorem agrees_of_quiet (hquiet : Quiet program service) : Agrees program service :=
  ⟨hagree.of_same hquiet.sameOwners hquiet.searchIndexer, fun error herror =>
    ⟨hquiet.rejected error herror, hquiet.searchIndexer⟩⟩

theorem agrees_enter_iff (attempt : Program (Table User) PortError (User × AuthSession)) :
    Agrees (onUsers attempt >>= openSession) service ↔
      ∀ user, (attempt.run service.users).1.toOption.map Prod.fst = some user →
        service.IndexHolds user.id := by
  obtain ⟨entered, users, hattempt, hrun⟩ | ⟨error, users, hattempt, hrun⟩ :=
    enter_cases attempt service
  · rw [agrees_ok_iff hrun, hattempt]
    constructor
    · intro hafter user huser
      obtain rfl : entered.1 = user := Option.some.inj huser
      exact hafter.stored ⟨entered.1, entered.2⟩ rfl
    · intro hholds
      refine ⟨hagree.documents, fun auth hauth => ?_⟩
      obtain rfl : (⟨entered.1, entered.2⟩ : Authenticated) = auth := Option.some.inj hauth
      exact hholds entered.1 rfl
  · rw [agrees_error_iff hrun, hattempt]
    refine iff_of_true ⟨hagree.of_same ⟨rfl, fun _ _ => Iff.rfl⟩ rfl, rfl, rfl⟩ ?_
    intro user huser
    cases huser

theorem agrees_createDocument (draws : DocumentDraws) (now : Date) (title content : String)
    (folderId : Option String) (tags : List String) :
    Agrees (createDocument crypto draws now title content folderId tags) service := by
  cases hauth : service.authenticated with
  | none => exact agrees_of_error hagree (run_unauthenticated hauth _)
  | some auth =>
      obtain ⟨error, documentKeys, hrun⟩ |
          ⟨tagged, after, hsession, hindexer, hfree, howned, -, hrun⟩ :=
        createDocument_cases crypto hauth draws now title content folderId tags
      · exact (agrees_error_iff hrun).mpr
          ⟨hagree.of_same ⟨rfl, fun _ _ => Iff.rfl⟩ rfl, rfl, rfl⟩
      · have hnew : (toIndexedDocument tagged content).id ∉ after.searchIndexer.index.ids := by
          rw [hindexer]
          exact fun hmem => hfree auth.user.id ((hagree.stored auth hauth _).mp hmem)
        rw [run_bind, run_onIndex, SearchIndexer.addDocument_run_new hnew, andThen_ok,
          run_pure] at hrun
        refine (agrees_ok_iff hrun).mpr ⟨fun id => ?_, fun other hother id => ?_⟩
        · rw [IndexedDocuments.mem_ids_set, IndexedDocuments.mem_ids_push, hindexer,
            hagree.documents]
        · obtain rfl : auth = other := Option.some.inj (hauth.symm.trans (hsession.symm.trans hother))
          have hids := hagree.stored auth hauth id
          rw [← hindexer] at hids
          rw [IndexedDocuments.mem_ids_push, hids, howned, and_iff_left rfl]
          rfl

theorem agrees_updateDocument (contentIv : Bytes) (now : Date) (documentId content : String) :
    Agrees (updateDocument crypto contentIv now documentId content) service := by
  cases hauth : service.authenticated with
  | none => exact agrees_of_error hagree (run_unauthenticated hauth _)
  | some auth =>
      obtain ⟨error, hrun⟩ | ⟨data, after, hsame, hindexer, howned, -, hrun⟩ :=
        updateDocument_cases crypto hauth contentIv now documentId content
      · exact agrees_of_error hagree hrun
      · have hold : (toIndexedDocument data content).id ∈ after.searchIndexer.index.ids := by
          rw [hindexer]
          exact (hagree.stored auth hauth _).mpr howned
        obtain ⟨hnew, hindex⟩ := SearchIndexer.updateDocument_run_old hold
        rw [run_bind, run_onIndex, hindex, andThen_ok, run_pure] at hrun
        have hafter := hagree.of_same hsame hindexer
        refine (agrees_ok_iff hrun).mpr ⟨fun id => ?_, fun other hother id => ?_⟩
        · rw [IndexedDocuments.mem_ids_set, IndexedDocuments.mem_ids_delete_push hold,
            hafter.documents]
          refine ⟨?_, .inr⟩
          rintro (rfl | hmem)
          · exact hold
          · exact hmem
        · rw [IndexedDocuments.mem_ids_delete_push hold]
          exact hafter.stored other hother id

theorem agrees_deleteDocument (documentId : String) :
    Agrees (deleteDocument documentId) service := by
  cases hauth : service.authenticated with
  | none => exact agrees_of_error hagree (run_unauthenticated hauth _)
  | some auth =>
      obtain ⟨error, hrun⟩ | ⟨howned, hrun⟩ := deleteDocument_cases hauth documentId
      · exact agrees_of_error hagree hrun
      · have hold : documentId ∈ service.searchIndexer.index.ids :=
          (hagree.stored auth hauth _).mpr howned
        rw [run_onIndex, SearchIndexer.removeDocument_run_old hold] at hrun
        refine (agrees_ok_iff hrun).mpr ⟨fun id => ?_, fun other hother id => ?_⟩
        · rw [IndexedDocuments.mem_ids_delete, IndexedDocuments.mem_ids_delete, hagree.documents]
        · rw [IndexedDocuments.mem_ids_delete, owned_delete]
          exact and_congr_left fun _ => hagree.stored other hother id

end

theorem inAgreement_start (users : Table User) (folders : Table Folder)
    (documents : Table Document) : (start users folders documents).InAgreement where
  documents _ := Iff.rfl
  stored _ hauth := by cases hauth

theorem agrees_call_iff (hagree : service.InAgreement) (request : ServiceCall) :
    Agrees (request.body crypto) service ↔
      ∀ user, request.entered crypto service.users = some user → service.IndexHolds user.id := by
  cases request with
  | register draws now username password email =>
      exact agrees_discard.trans (agrees_enter_iff hagree _)
  | login username password => exact agrees_discard.trans (agrees_enter_iff hagree _)
  | logout =>
      have hrun : logout.run service =
          (.ok (), { service with currentUser := none, currentSession := none }) := rfl
      refine iff_of_true ((agrees_ok_iff hrun).mpr ⟨hagree.documents, ?_⟩) (by rintro _ ⟨⟩)
      rintro auth ⟨⟩
  | restart =>
      exact iff_of_true ((agrees_ok_iff rfl).mpr (inAgreement_start _ _ _)) (by rintro _ ⟨⟩)
  | createDocument draws now title content folderId tags =>
      exact iff_of_true (agrees_discard.mpr (agrees_createDocument hagree ..)) (by rintro _ ⟨⟩)
  | getDocument now documentId =>
      exact iff_of_true (agrees_discard.mpr (agrees_of_quiet hagree (quiet_getDocument ..)))
        (by rintro _ ⟨⟩)
  | updateDocument contentIv now documentId content =>
      exact iff_of_true (agrees_discard.mpr (agrees_updateDocument hagree ..)) (by rintro _ ⟨⟩)
  | deleteDocument documentId =>
      exact iff_of_true (agrees_deleteDocument hagree documentId) (by rintro _ ⟨⟩)
  | listDocuments =>
      exact iff_of_true (agrees_discard.mpr (agrees_of_quiet hagree quiet_listDocuments))
        (by rintro _ ⟨⟩)
  | toggleFavorite now documentId =>
      exact iff_of_true (agrees_discard.mpr (agrees_of_quiet hagree (quiet_toggleFavorite ..)))
        (by rintro _ ⟨⟩)
  | addTags now documentId tags =>
      exact iff_of_true (agrees_discard.mpr (agrees_of_quiet hagree (quiet_addTags ..)))
        (by rintro _ ⟨⟩)

variable {indexProgram : SearchIndexer.IndexProgram} {indexer : SearchIndexer}

theorem agrees_onIndex_ok_iff (hrun : indexProgram.run service.searchIndexer = (.ok (), indexer)) :
    Agrees (onIndex indexProgram) service ↔
      (∀ id, id ∈ indexer.documents.ids ↔ id ∈ indexer.index.ids) ∧
        ∀ auth, service.authenticated = some auth →
          ∀ id, id ∈ indexer.index.ids ↔ Owned service.storage.documents id auth.user.id := by
  rw [agrees_ok_iff (by rw [run_onIndex, hrun])]
  exact ⟨fun hafter => ⟨hafter.documents, hafter.stored⟩, fun hafter => ⟨hafter.1, hafter.2⟩⟩

section

variable (hagree : service.InAgreement)

include hagree

theorem agrees_onIndex_error_iff
    (hrun : indexProgram.run service.searchIndexer = (.error error, indexer)) :
    Agrees (onIndex indexProgram) service ↔ indexer = service.searchIndexer := by
  rw [agrees_error_iff (by rw [run_onIndex, hrun])]
  refine ⟨fun hafter => hafter.2.2, ?_⟩
  rintro rfl
  exact ⟨hagree, rfl, rfl⟩

theorem agrees_onIndex_iff_none (hrun : indexProgram.run service.searchIndexer = (.ok (), indexer))
    (hsame : ∀ id, id ∈ indexer.documents.ids ↔ id ∈ indexer.index.ids)
    (hother : ∃ id, ¬ (id ∈ indexer.index.ids ↔ id ∈ service.searchIndexer.index.ids)) :
    Agrees (onIndex indexProgram) service ↔ service.authenticated = none := by
  rw [agrees_onIndex_ok_iff hrun, and_iff_right hsame]
  constructor
  · intro hstored
    by_contra hauth
    obtain ⟨auth, hauth⟩ := Option.ne_none_iff_exists'.mp hauth
    obtain ⟨id, hid⟩ := hother
    exact hid ((hstored auth hauth id).trans (hagree.stored auth hauth id).symm)
  · intro hauth auth hsome
    rw [hauth] at hsome
    cases hsome

theorem agrees_addDocument_iff (doc : IndexedDocument) :
    Agrees (onIndex (SearchIndexer.addDocument doc)) service ↔
      doc ∈ service.searchIndexer.documents.docs ∨
        (service.authenticated = none ∧ doc.id ∉ service.searchIndexer.index.ids) := by
  by_cases hold : doc.id ∈ service.searchIndexer.index.ids
  · obtain ⟨error, hrun⟩ := SearchIndexer.addDocument_run_old hold
    rw [agrees_onIndex_error_iff hagree hrun, or_iff_left fun hnew => hnew.2 hold,
      ← IndexedDocuments.set_eq_self_iff]
    exact SearchIndexer.with_documents_eq_self_iff
  · have hnot : doc ∉ service.searchIndexer.documents.docs := fun hmem =>
      hold ((hagree.documents doc.id).mp (List.mem_map_of_mem hmem))
    rw [agrees_onIndex_iff_none hagree (SearchIndexer.addDocument_run_new hold), or_iff_right hnot,
      and_iff_left hold]
    · intro id
      rw [IndexedDocuments.mem_ids_set, IndexedDocuments.mem_ids_push, hagree.documents]
    · exact ⟨doc.id, by simp [hold]⟩

theorem agrees_addDocuments_iff (docs : List IndexedDocument) :
    Agrees (onIndex (SearchIndexer.addDocuments docs)) service ↔
      docs = [] ∨
        ((∃ doc ∈ docs.head?, doc.id ∈ service.searchIndexer.index.ids) ∧
          docs.foldl (fun documents doc => documents.set doc) service.searchIndexer.documents =
            service.searchIndexer.documents) ∨
        (service.authenticated = none ∧ (docs.map IndexedDocument.id).Nodup ∧
          ∀ doc ∈ docs, doc.id ∉ service.searchIndexer.index.ids) := by
  cases docs with
  | nil =>
      exact iff_of_true ((agrees_onIndex_ok_iff rfl).mpr ⟨hagree.documents, hagree.stored⟩)
        (.inl rfl)
  | cons doc rest =>
      by_cases hold : doc.id ∈ service.searchIndexer.index.ids
      · obtain ⟨error, hrun⟩ := SearchIndexer.addDocuments_run_old rest hold
        rw [agrees_onIndex_error_iff hagree hrun, SearchIndexer.with_documents_eq_self_iff]
        simp [hold]
      · obtain ⟨outcome, after, hrun, hgrows, hok, hids⟩ :=
          SearchIndexer.addDocuments_run_new rest hold
        rw [or_iff_right (List.cons_ne_nil doc rest), or_iff_right (by simp [hold])]
        rcases outcome with error | ⟨⟩
        · rw [agrees_onIndex_error_iff hagree hrun]
          refine iff_of_false (fun heq => ?_) fun hnew => ?_
          · exact hold (congrArg SearchIndexer.index heq ▸ hgrows)
          · cases hok.mpr hnew.2
        · rw [and_iff_left (hok.mp rfl)]
          refine agrees_onIndex_iff_none hagree hrun (fun id => ?_) ⟨doc.id, ?_⟩
          · rw [SearchIndexer.mem_ids_setAll, hids rfl, hagree.documents]
          · simp [hgrows, hold]

theorem agrees_updateIndex_iff (doc : IndexedDocument) :
    Agrees (onIndex (SearchIndexer.updateDocument doc)) service ↔
      doc.id ∈ service.searchIndexer.index.ids := by
  by_cases hold : doc.id ∈ service.searchIndexer.index.ids
  · obtain ⟨hnew, hrun⟩ := SearchIndexer.updateDocument_run_old hold
    refine iff_of_true ((agrees_onIndex_ok_iff hrun).mpr ⟨fun id => ?_, fun auth hauth id => ?_⟩)
      hold
    · rw [IndexedDocuments.mem_ids_set, IndexedDocuments.mem_ids_delete_push hold, hagree.documents]
      refine ⟨?_, .inr⟩
      rintro (rfl | hmem)
      · exact hold
      · exact hmem
    · rw [IndexedDocuments.mem_ids_delete_push hold]
      exact hagree.stored auth hauth id
  · obtain ⟨error, hrun⟩ := SearchIndexer.updateDocument_run_new hold
    rw [agrees_onIndex_error_iff hagree hrun, SearchIndexer.with_documents_eq_self_iff,
      IndexedDocuments.set_eq_self_iff]
    refine iff_of_false (fun hmem => ?_) hold
    exact hold ((hagree.documents doc.id).mp (List.mem_map_of_mem hmem))

theorem agrees_removeDocument_iff (docId : String) :
    Agrees (onIndex (SearchIndexer.removeDocument docId)) service ↔
      docId ∉ service.searchIndexer.index.ids ∨ service.authenticated = none := by
  by_cases hold : docId ∈ service.searchIndexer.index.ids
  · rw [agrees_onIndex_iff_none hagree (SearchIndexer.removeDocument_run_old hold),
      or_iff_right (not_not.mpr hold)]
    · intro id
      rw [IndexedDocuments.mem_ids_delete, IndexedDocuments.mem_ids_delete, hagree.documents]
    · exact ⟨docId, by simp [hold]⟩
  · obtain ⟨error, hrun⟩ := SearchIndexer.removeDocument_run_new hold
    rw [agrees_onIndex_error_iff hagree hrun, SearchIndexer.with_documents_eq_self_iff]
    refine iff_of_true (IndexedDocuments.delete_of_not_mem ?_) (.inl hold)
    exact fun hmem => hold ((hagree.documents docId).mp hmem)

theorem agrees_clear_iff :
    Agrees (onIndex SearchIndexer.clear) service ↔
      service.searchIndexer.index.docs = [] ∨ service.authenticated = none := by
  obtain ⟨index, hrun, hids⟩ := SearchIndexer.clear_run hagree.documents
  have hsame : ∀ id, id ∈ IndexedDocuments.empty.ids ↔ id ∈ index.ids := fun id =>
    iff_of_false IndexedDocuments.mem_ids_empty (hids id)
  by_cases hempty : service.searchIndexer.index.docs = []
  · refine iff_of_true ((agrees_onIndex_ok_iff hrun).mpr ⟨hsame, fun auth hauth id => ?_⟩)
      (.inl hempty)
    rw [← hagree.stored auth hauth id]
    exact iff_of_false (hids id) (by simp [IndexedDocuments.ids, hempty])
  · obtain ⟨doc, hdoc⟩ := List.exists_mem_of_ne_nil _ hempty
    rw [agrees_onIndex_iff_none hagree hrun hsame, or_iff_right hempty]
    exact ⟨doc.id, fun hid => hids doc.id (hid.mpr (List.mem_map_of_mem hdoc))⟩

theorem agrees_iff (use : IndexUse) :
    Agrees (use.body crypto) service ↔ KeepsIndex crypto service use := by
  cases use with
  | call request => exact agrees_call_iff hagree request
  | addDocument doc => exact agrees_addDocument_iff hagree doc
  | addDocuments docs => exact agrees_addDocuments_iff hagree docs
  | updateDocument doc => exact agrees_updateIndex_iff hagree doc
  | removeDocument docId => exact agrees_removeDocument_iff hagree docId
  | clear => exact agrees_clear_iff hagree

end

end Agrees

/-- From a new instance on, store and index stay together, and a rejection changes
neither, exactly as long as each operation is one that keeps them so. -/
theorem index_consistent_iff (crypto : OsvauldCrypto) (users : Table User)
    (folders : Table Folder) (documents : Table Document) (uses : List IndexUse) :
    ((∀ earlier, earlier <+: uses →
        (run (step crypto) (start users folders documents) earlier).InAgreement) ∧
      ∀ earlier use, earlier ++ [use] <+: uses →
        RejectKeeps (use.body crypto)
          (run (step crypto) (start users folders documents) earlier)) ↔
    ∀ earlier use, earlier ++ [use] <+: uses →
      KeepsIndex crypto (run (step crypto) (start users folders documents) earlier) use := by
  have hstep : ∀ use state, InAgreement state →
      (InAgreement (step crypto use state) ∧ RejectKeeps (use.body crypto) state ↔
        KeepsIndex crypto state use) := fun use _ hagree => agrees_iff hagree use
  exact run_good_iff hstep (inAgreement_start users folders documents)

def loginAndDelete : List IndexUse :=
  [.call (.login "ann" "secret"), .call (.deleteDocument "d1")]

/-- The index is empty while the document is stored. It is deleted, and then the call is
rejected because the index does not know it. -/
theorem not_index_consistent :
    ¬ ∀ crypto users folders documents, ∀ uses : List IndexUse,
      (∀ earlier, earlier <+: uses →
        (run (step crypto) (start users folders documents) earlier).InAgreement) ∧
      ∀ earlier use, earlier ++ [use] <+: uses →
        RejectKeeps (use.body crypto)
          (run (step crypto) (start users folders documents) earlier) := by
  intro hall
  obtain ⟨-, hkeeps⟩ := hall plainCrypto annAlone .empty untaggedDocuments loginAndDelete
  have hlogin := hkeeps [.call (.login "ann" "secret")] (.call (.deleteDocument "d1"))
    List.prefix_rfl
  obtain ⟨hdocuments, -⟩ := hlogin _ rfl
  exact absurd (congrArg Table.rows hdocuments) (by decide +kernel)

end OsvauldService

end Osvauld.TypescriptPort
