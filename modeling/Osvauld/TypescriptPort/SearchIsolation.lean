import Osvauld.Data.Run
import Osvauld.TypescriptPort.DocumentCalls

namespace Osvauld.TypescriptPort

open Osvauld.Core Data

/-! Whose documents a search finds. The index outlives the sessions. -/

def LawfulMiniSearch (miniSearch : MiniSearch)
    (matched : IndexedDocument → String → SearchOptions → Prop) : Prop :=
  ∀ docs query options id, (∃ result ∈ miniSearch docs query options, result.id = id) ↔
    ∃ doc ∈ docs, doc.id = id ∧ matched doc query options

def searchOptions (fuzzy : Bool) : SearchOptions :=
  { fuzzy := if fuzzy then 2 else 1 / 5, prefixed := true, titleBoost := 2 }

theorem owner_unique {documents : Table Document} {id userId other : String}
    (howned : Owned documents id userId) (hother : Owned documents id other) : userId = other := by
  obtain ⟨document, hdocument, hid, rfl⟩ := howned
  obtain ⟨found, hfound, hsame, rfl⟩ := hother
  rw [Table.eq_of_id hdocument hfound (hid.trans hsame.symm)]

namespace OsvauldService

open Program

variable {crypto : OsvauldCrypto} {service : OsvauldService}

def callStep (crypto : OsvauldCrypto) (request : ServiceCall) (service : OsvauldService) :
    OsvauldService :=
  ((request.body crypto).run service).2

def ShowsOwn (miniSearch : MiniSearch) (query : String) (fuzzy : Bool)
    (service : OsvauldService) : Prop :=
  ∀ result ∈ service.search miniSearch query fuzzy, ∃ auth,
    service.authenticated = some auth ∧ Owned service.storage.documents result.id auth.user.id

/-- Nothing is asked for, or what matches in the index has been put there by the user who
is logged in. -/
def AsksForOwn (matched : IndexedDocument → String → SearchOptions → Prop) (query : String)
    (fuzzy : Bool) (service : OsvauldService) : Prop :=
  SearchIndexer.blank query ∨
    ∀ doc ∈ service.searchIndexer.index.docs, matched doc query (searchOptions fuzzy) →
      ∃ auth, service.authenticated = some auth ∧ doc.ownerId = auth.user.id

theorem search_eq (miniSearch : MiniSearch) (query : String) (fuzzy : Bool)
    (service : OsvauldService) :
    service.search miniSearch query fuzzy =
      if SearchIndexer.blank query then []
      else miniSearch service.searchIndexer.index.docs query (searchOptions fuzzy) := by
  cases fuzzy with
  | false => rfl
  | true => rfl

def IndexStored (service : OsvauldService) : Prop :=
  ∀ doc ∈ service.searchIndexer.index.docs, Owned service.storage.documents doc.id doc.ownerId

section

variable (hstored : service.IndexStored)

include hstored

theorem IndexStored.of_same {after : OsvauldService} (hsame : SameOwners service after)
    (hindexer : after.searchIndexer = service.searchIndexer) : after.IndexStored := by
  intro doc hdoc
  rw [hindexer] at hdoc
  exact (hsame.owned _ _).mpr (hstored doc hdoc)

theorem IndexStored.of_session {after : OsvauldService}
    (hstorage : after.storage.documents = service.storage.documents)
    (hindexer : after.searchIndexer = service.searchIndexer) : after.IndexStored := by
  intro doc hdoc
  rw [hindexer] at hdoc
  rw [hstorage]
  exact hstored doc hdoc

theorem IndexStored.enter (attempt : Program (Table User) PortError (User × AuthSession)) :
    IndexStored ((onUsers attempt >>= openSession).run service).2 := by
  obtain ⟨entered, users, -, hrun⟩ | ⟨error, users, -, hrun⟩ := enter_cases attempt service
  · rw [hrun]
    exact hstored.of_session rfl rfl
  · rw [hrun]
    exact hstored.of_session rfl rfl

theorem IndexStored.quiet {Result : Type} {program : ServiceProgram Result}
    (hquiet : Quiet program service) : IndexStored (program.run service).2 :=
  hstored.of_same hquiet.sameOwners hquiet.searchIndexer

theorem IndexStored.createDocument (draws : DocumentDraws) (now : Date) (title content : String)
    (folderId : Option String) (tags : List String) :
    IndexStored
      ((OsvauldService.createDocument crypto draws now title content folderId tags).run
        service).2 := by
  cases hauth : service.authenticated with
  | none =>
      rw [OsvauldService.createDocument, run_unauthenticated hauth]
      exact hstored
  | some auth =>
      obtain ⟨error, documentKeys, hrun⟩ |
          ⟨tagged, after, -, hindexer, hfree, howned, howner, hrun⟩ :=
        createDocument_cases crypto hauth draws now title content folderId tags
      · rw [hrun]
        exact hstored.of_session rfl rfl
      · have hnew : (toIndexedDocument tagged content).id ∉ after.searchIndexer.index.ids := by
          rw [hindexer]
          intro hmem
          obtain ⟨doc, hdoc, hid⟩ := List.mem_map.mp hmem
          have howned := hstored doc hdoc
          rw [hid] at howned
          exact hfree doc.ownerId howned
        rw [hrun, run_bind, run_onIndex, SearchIndexer.addDocument_run_new hnew, andThen_ok,
          run_pure]
        intro doc hdoc
        refine (howned _ _).mpr ?_
        rcases List.mem_append.mp hdoc with hold | hadded
        · exact .inr (hstored doc (hindexer ▸ hold))
        · obtain rfl := List.mem_singleton.mp hadded
          exact .inl ⟨rfl, howner.symm⟩

theorem IndexStored.updateDocument (contentIv : Bytes) (now : Date) (documentId content : String) :
    IndexStored
      ((OsvauldService.updateDocument crypto contentIv now documentId content).run service).2 := by
  cases hauth : service.authenticated with
  | none =>
      rw [OsvauldService.updateDocument, run_unauthenticated hauth]
      exact hstored
  | some auth =>
      obtain ⟨error, hrun⟩ | ⟨data, after, hsame, hindexer, howned, howner, hrun⟩ :=
        updateDocument_cases crypto hauth contentIv now documentId content
      · rw [hrun]
        exact hstored
      · have hafter := hstored.of_same hsame hindexer
        rw [hrun, run_bind, run_onIndex]
        by_cases hold : (toIndexedDocument data content).id ∈ after.searchIndexer.index.ids
        · obtain ⟨hnew, hindex⟩ := SearchIndexer.updateDocument_run_old hold
          rw [hindex, andThen_ok, run_pure]
          intro doc hdoc
          rcases List.mem_append.mp hdoc with hkept | hadded
          · exact hafter doc (List.mem_filter.mp hkept).1
          · obtain rfl := List.mem_singleton.mp hadded
            rw [← howner] at howned
            exact (hsame.owned _ _).mpr howned
        · obtain ⟨error, hindex⟩ := SearchIndexer.updateDocument_run_new hold
          rw [hindex, andThen_error]
          exact hafter

theorem IndexStored.deleteDocument (documentId : String) :
    IndexStored ((OsvauldService.deleteDocument documentId).run service).2 := by
  cases hauth : service.authenticated with
  | none =>
      rw [OsvauldService.deleteDocument, run_unauthenticated hauth]
      exact hstored
  | some auth =>
      obtain ⟨error, hrun⟩ | ⟨-, hrun⟩ := deleteDocument_cases hauth documentId
      · rw [hrun]
        exact hstored
      · rw [hrun, run_onIndex]
        by_cases hold : documentId ∈ service.searchIndexer.index.ids
        · rw [SearchIndexer.removeDocument_run_old hold]
          intro doc hdoc
          obtain ⟨hkept, hne⟩ := List.mem_filter.mp hdoc
          exact owned_delete.mpr ⟨hstored doc hkept, of_decide_eq_true hne⟩
        · obtain ⟨error, hindex⟩ := SearchIndexer.removeDocument_run_new hold
          rw [hindex]
          intro doc hdoc
          exact owned_delete.mpr ⟨hstored doc hdoc, fun heq =>
            hold (heq ▸ List.mem_map_of_mem hdoc)⟩

end

theorem IndexStored.call (hstored : service.IndexStored) (request : ServiceCall) :
    IndexStored (callStep crypto request service) := by
  unfold callStep
  cases request with
  | register draws now username password email =>
      rw [ServiceCall.body, run_discard]
      exact hstored.enter _
  | login username password =>
      rw [ServiceCall.body, run_discard]
      exact hstored.enter _
  | logout => exact hstored.of_session rfl rfl
  | restart =>
      intro doc hdoc
      cases hdoc
  | createDocument draws now title content folderId tags =>
      rw [ServiceCall.body, run_discard]
      exact hstored.createDocument draws now title content folderId tags
  | getDocument now documentId =>
      rw [ServiceCall.body, run_discard]
      exact hstored.quiet (quiet_getDocument now documentId)
  | updateDocument contentIv now documentId content =>
      rw [ServiceCall.body, run_discard]
      exact hstored.updateDocument contentIv now documentId content
  | deleteDocument documentId => exact hstored.deleteDocument documentId
  | listDocuments =>
      rw [ServiceCall.body, run_discard]
      exact hstored.quiet quiet_listDocuments
  | toggleFavorite now documentId =>
      rw [ServiceCall.body, run_discard]
      exact hstored.quiet (quiet_toggleFavorite now documentId)
  | addTags now documentId tags =>
      rw [ServiceCall.body, run_discard]
      exact hstored.quiet (quiet_addTags now documentId tags)

theorem indexStored_run (crypto : OsvauldCrypto) (users : Table User) (folders : Table Folder)
    (documents : Table Document) (calls : List ServiceCall) :
    (run (callStep crypto) (start users folders documents) calls).IndexStored := by
  induction calls using List.reverseRecOn with
  | nil =>
      intro doc hdoc
      cases hdoc
  | append_singleton earlier request ih =>
      rw [run_concat]
      exact ih.call request

theorem IndexStored.showsOwn_iff (hstored : service.IndexStored) {miniSearch : MiniSearch}
    {matched : IndexedDocument → String → SearchOptions → Prop}
    (hlaw : LawfulMiniSearch miniSearch matched) (query : String) (fuzzy : Bool) :
    service.ShowsOwn miniSearch query fuzzy ↔ service.AsksForOwn matched query fuzzy := by
  unfold ShowsOwn AsksForOwn
  rw [search_eq]
  by_cases hblank : SearchIndexer.blank query
  · simp [hblank]
  · rw [if_neg hblank, or_iff_right hblank]
    constructor
    · intro hshown doc hdoc hmatched
      obtain ⟨result, hresult, hid⟩ := (hlaw _ _ _ _).mpr ⟨doc, hdoc, rfl, hmatched⟩
      obtain ⟨auth, hauth, howned⟩ := hshown result hresult
      rw [hid] at howned
      exact ⟨auth, hauth, owner_unique (hstored doc hdoc) howned⟩
    · intro hown result hresult
      obtain ⟨doc, hdoc, hid, hmatched⟩ := (hlaw _ _ _ _).mp ⟨result, hresult, rfl⟩
      obtain ⟨auth, hauth, howner⟩ := hown doc hdoc hmatched
      refine ⟨auth, hauth, ?_⟩
      rw [← hid, ← howner]
      exact hstored doc hdoc

def titleSearch : MiniSearch := fun docs query _ =>
  (docs.filter fun doc => doc.title = query).map fun doc => ⟨doc.id, doc.title⟩

theorem titleSearch_lawful :
    LawfulMiniSearch titleSearch fun doc query _ => doc.title = query := by
  intro docs query options id
  simp only [titleSearch, List.mem_map, List.mem_filter, decide_eq_true_eq]
  constructor
  · rintro ⟨result, ⟨doc, ⟨hdoc, htitle⟩, rfl⟩, hid⟩
    exact ⟨doc, hdoc, hid, htitle⟩
  · rintro ⟨doc, hdoc, hid, htitle⟩
    exact ⟨_, ⟨doc, ⟨hdoc, htitle⟩, rfl⟩, hid⟩

def bob : User := { ann with id := "u2", username := "bob" }

def annAndBob : Table User := ⟨[ann, bob], by decide⟩

def sharedInstance : List ServiceCall :=
  [.login "ann" "secret", .createDocument noteDraws 1 "notes" "text" none [], .logout,
    .login "bob" "secret"]

theorem sharedInstance_index :
    (run (callStep plainCrypto) (start annAndBob .empty .empty) sharedInstance).searchIndexer.index.docs =
      [⟨"d1", "notes", "text", [], "u1", some none⟩] := by
  decide +kernel

theorem sharedInstance_user :
    (run (callStep plainCrypto) (start annAndBob .empty .empty) sharedInstance).authenticated.map
      (fun auth => auth.user.id) = some "u2" := by
  decide +kernel

theorem not_asksForOwn_sharedInstance :
    ¬ (run (callStep plainCrypto) (start annAndBob .empty .empty) sharedInstance).AsksForOwn
      (fun doc query _ => doc.title = query) "notes" false := by
  rintro (hblank | hown)
  · exact absurd hblank (by decide +kernel)
  · rw [sharedInstance_index] at hown
    obtain ⟨auth, hauth, howner⟩ := hown _ (List.mem_singleton.mpr rfl) rfl
    have huser := sharedInstance_user
    rw [hauth, Option.map_some, Option.some.injEq, ← howner] at huser
    exact absurd huser (by decide)

end OsvauldService

end Osvauld.TypescriptPort
