import Osvauld.Livnote.ResourceHandler
import Osvauld.Services.ReadRows

namespace Osvauld.Livnote

open Osvauld.Core Data Network Persistance SearchIndexer Services

/-! Whether the search index shows the notes that are stored. -/

section Documents

variable {Index : Type} (app : SearchApp Index) (view : IndexView Index)

namespace SearchApp

/-- The document of a row in the index, if the user can read it and it is a note that can
be indexed. -/
def documentOf? (row : ResourceWithKey) : Option TantivyDocument :=
  match decryptSingleResource app.env row with
  | .ok resource => app.extractor.documentFor? resource.id resource.data resource.folderId
  | .error _ => none

def liveDocumentOf? (row : ResourceWithKey) : Option TantivyDocument :=
  if row.resource.deleted then none else app.documentOf? row

/-- The document of a resource in the index, if it is one that has not been deleted. -/
def liveDocument? (ctx : RepositoryContext) (resourceId : String) : Option TantivyDocument :=
  (rowOf? ctx resourceId app.user.id).bind app.liveDocumentOf?

def writesOf (tasks : List IndexTask) : List TantivyDocument :=
  tasks.filterMap fun task =>
    app.extractor.documentFor? task.resourceId task.resourceData task.folderId

end SearchApp

namespace IndexedStore

variable (store : IndexedStore Index)

def shown : Set TantivyDocument :=
  {document | ∃ index, store.index = some index ∧ document ∈ view.visible index}

structure Reflects : Prop where
  ids : ∀ resourceId, (∃ document ∈ store.shown view, document.resourceId = resourceId) ↔
    (app.liveDocument? store.ctx resourceId).isSome = true
  contents : ∀ document ∈ store.shown view,
    app.liveDocument? store.ctx document.resourceId = some document

def Ready : Prop :=
  ∃ index, store.index = some index ∧ SearchIndexManager.Synced view index

def Idle : Prop := store.added = [] ∧ store.tasks = []

def toShow : Set TantivyDocument :=
  upcoming TantivyDocument.resourceId (store.shown view) (app.writesOf store.tasks)

def Right (resourceId : String) : Prop :=
  ∀ document : TantivyDocument, document.resourceId = resourceId →
    (document ∈ store.toShow app view ↔
      app.liveDocument? store.ctx resourceId = some document)

structure Settles : Prop where
  ready : store.Ready view
  right : ∀ resourceId, resourceId ∉ store.added → store.Right app view resourceId

end IndexedStore

def SearchApp.updatedDocument? (row : ResourceWithKey) (data : JsonText) :
    Option TantivyDocument :=
  app.extractor.documentFor? row.resource.id (contentOf data) row.resource.folderId

/-- An update comes before an announcement, or is refused, or spawns the task it needs, or
spawns none that writes and makes no difference to the index. -/
inductive UpdateFollowed (now : Int) (resourceId : String) (data : JsonText)
    (emitted : Except String Unit) (store : IndexedStore Index) : Prop
  | announced : resourceId ∈ store.added → UpdateFollowed now resourceId data emitted store
  | refused : replacement? (app.envAt now) resourceId data app.user.id store.ctx = none →
      UpdateFollowed now resourceId data emitted store
  | indexed {row : ResourceWithKey} : rowOf? store.ctx resourceId app.user.id = some row →
      row.resource.deleted = false →
      RowReady (app.envAt now) resourceId app.device.id store.ctx → emitted = .ok () →
      (app.updatedDocument? row data).isSome = true →
      UpdateFollowed now resourceId data emitted store
  | same {row : ResourceWithKey} : rowOf? store.ctx resourceId app.user.id = some row →
      ¬ RowReady (app.envAt now) resourceId app.device.id store.ctx ∨ emitted ≠ .ok () ∨
        app.updatedDocument? row data = none →
      row.resource.deleted = true ∨ app.updatedDocument? row data = app.documentOf? row →
      UpdateFollowed now resourceId data emitted store

/-- A resource that has been received is announced once more later, or is put into the
index, or the index is right about it as it is. -/
inductive AnnouncementFollowed (resourceId : String) (rest : List String)
    (emitted : Except String Unit) (store : IndexedStore Index) : Prop
  | announced : resourceId ∈ rest → AnnouncementFollowed resourceId rest emitted store
  | indexed {row : ResourceWithKey} : rowOf? store.ctx resourceId app.user.id = some row →
      row.resource.deleted = false → emitted = .ok () →
      (app.documentOf? row).isSome = true →
      AnnouncementFollowed resourceId rest emitted store
  | right : emitted ≠ .ok () ∨ (rowOf? store.ctx resourceId app.user.id).bind
        app.documentOf? = none →
      store.Right app view resourceId → AnnouncementFollowed resourceId rest emitted store

def TaskFollowed (position : Nat) (store : IndexedStore Index) : Prop :=
  ∀ task document, store.tasks[position]? = some task →
    app.extractor.documentFor? task.resourceId task.resourceData task.folderId =
        some document →
      task.resourceId ∈ store.added ∨
        WriteInTurn TantivyDocument.resourceId (app.writesOf (store.tasks.take position))
          document (app.writesOf (store.tasks.drop (position + 1)))

def Followed (event : ResourceEvent) (store : IndexedStore Index) : Prop :=
  match event with
  | .handleAddResource now resourcePayload resourceType folderId _ =>
      (∀ resourceId folderId,
          app.extractor.documentFor? resourceId (contentOf resourcePayload) folderId = none) ∨
        ∃ error, ((createResource (app.envAt now) resourcePayload resourceType folderId
          app.user app.device.id).run store.ctx).1 = .error error
  | .handleUpdateResource now resourceId data emitted =>
      UpdateFollowed app now resourceId data emitted store
  | .softDeleteResource _ resourceId =>
      resourceId ∈ store.added ∨ app.liveDocument? store.ctx resourceId = none
  | .resourceArrives connection payload =>
      ConcernsOnly payload app.user.id store.ctx ∨
        ∃ error, ((addResourceSync payload connection.kind).run store.ctx).1 = .error error
  | .listen emitted =>
      ∀ resourceId rest, store.added = resourceId :: rest →
        AnnouncementFollowed app view resourceId rest emitted store
  | .runTask position => TaskFollowed app position store

end Documents

section Settling

variable {Index : Type} {app : SearchApp Index} {view : IndexView Index}
variable {store store' : IndexedStore Index} {resourceId : String}

variable {document : TantivyDocument} {ctx : RepositoryContext}

theorem documentOf?_resourceId {row : ResourceWithKey}
    (hdocument : app.documentOf? row = some document) : document.resourceId = row.resource.id := by
  unfold SearchApp.documentOf? at hdocument
  split at hdocument
  · next shown hdecrypt =>
      rw [ContentExtractor.documentFor?_resourceId hdocument]
      exact (decryptSingleResource_reads hdecrypt).1
  · cases hdocument

theorem liveDocument?_resourceId (hdocument : app.liveDocument? ctx resourceId = some document) :
    document.resourceId = resourceId := by
  obtain ⟨row, hrow, hlive⟩ := Option.bind_eq_some_iff.mp hdocument
  unfold SearchApp.liveDocumentOf? at hlive
  split at hlive
  · cases hlive
  · rw [documentOf?_resourceId hlive, rowOf?_id hrow]

theorem liveDocument?_congr {ctx' : RepositoryContext}
    (hrow : rowOf? ctx' resourceId app.user.id = rowOf? ctx resourceId app.user.id) :
    app.liveDocument? ctx' resourceId = app.liveDocument? ctx resourceId := by
  rw [SearchApp.liveDocument?, hrow]
  rfl

namespace IndexedStore

theorem toShow_idle (hidle : store.Idle) : store.toShow app view = store.shown view := by
  rw [toShow, hidle.2]
  rfl

theorem Reflects.right (hreflects : store.Reflects app view) (hidle : store.Idle)
    (resourceId : String) : store.Right app view resourceId := by
  rintro document rfl
  rw [toShow_idle hidle]
  constructor
  · exact hreflects.contents document
  · intro hlive
    obtain ⟨other, hother, hid⟩ := (hreflects.ids document.resourceId).mpr (by rw [hlive]; rfl)
    have hstored := hreflects.contents other hother
    rw [hid, hlive] at hstored
    cases hstored
    exact hother

theorem Settles.reflects (hsettles : store.Settles app view) (hidle : store.Idle) :
    store.Reflects app view := by
  have hright (document : TantivyDocument) : document ∈ store.shown view ↔
      app.liveDocument? store.ctx document.resourceId = some document := by
    have hshow : store.toShow app view = store.shown view := toShow_idle hidle
    rw [← hshow]
    exact hsettles.right document.resourceId (by simp [hidle.1]) document rfl
  refine ⟨fun resourceId => ⟨?_, fun hsome => ?_⟩, fun document hdocument =>
    (hright document).mp hdocument⟩
  · rintro ⟨document, hdocument, rfl⟩
    rw [(hright document).mp hdocument]
    rfl
  · obtain ⟨document, hlive⟩ := Option.isSome_iff_exists.mp hsome
    obtain rfl := liveDocument?_resourceId hlive
    exact ⟨document, (hright document).mpr hlive, rfl⟩

structure Spawns (app : SearchApp Index) (written : Option TantivyDocument)
    (store store' : IndexedStore Index) : Prop where
  index : store'.index = store.index
  writes : app.writesOf store'.tasks = app.writesOf store.tasks ++ written.toList

theorem Spawns.of_tasks (hindex : store'.index = store.index)
    (htasks : store'.tasks = store.tasks) : Spawns app none store store' :=
  ⟨hindex, by rw [htasks, Option.toList_none, List.append_nil]⟩

variable {written : Option TantivyDocument}

theorem Spawns.shown (hspawns : Spawns app written store store') :
    store'.shown view = store.shown view := by
  rw [IndexedStore.shown, hspawns.index]
  rfl

theorem Spawns.ready (hspawns : Spawns app written store store')
    (hready : store.Ready view) : store'.Ready view := by
  rw [Ready, hspawns.index]
  exact hready

theorem Spawns.right_written {document : TantivyDocument}
    (hspawns : Spawns app (some document) store store')
    (hid : document.resourceId = resourceId)
    (hlive : app.liveDocument? store'.ctx resourceId = some document) :
    store'.Right app view resourceId := by
  rintro other hother
  rw [toShow, hspawns.shown, hspawns.writes, Option.toList_some, upcoming_concat, mem_putEntry,
    hlive, hother, hid]
  simp [eq_comm]

theorem Spawns.right_passed (hspawns : Spawns app written store store')
    (hnot : ∀ document, written = some document → document.resourceId ≠ resourceId)
    (hlive : app.liveDocument? store'.ctx resourceId = app.liveDocument? store.ctx resourceId)
    (hright : store.Right app view resourceId) : store'.Right app view resourceId := by
  rintro other hother
  rw [hlive, ← hright other hother, toShow, toShow, hspawns.shown, hspawns.writes]
  cases hwritten : written with
  | none => rw [Option.toList_none, List.append_nil]
  | some document =>
      have hne : document.resourceId ≠ resourceId := hnot document hwritten
      have hother' : other.resourceId ≠ document.resourceId := fun heq =>
        hne (heq.symm.trans hother)
      have hdistinct : other ≠ document := fun heq => hother' (congrArg _ heq)
      rw [Option.toList_some, upcoming_concat, mem_putEntry]
      simp [hother', hdistinct]

theorem Settles.of_same (hsettles : store.Settles app view)
    (hspawns : Spawns app none store store')
    (hadded : ∀ resourceId, resourceId ∉ store'.added → resourceId ∉ store.added ∧
      app.liveDocument? store'.ctx resourceId = app.liveDocument? store.ctx resourceId) :
    store'.Settles app view := by
  refine ⟨hspawns.ready hsettles.ready, fun resourceId hnot => ?_⟩
  obtain ⟨hbefore, hlive⟩ := hadded resourceId hnot
  exact hspawns.right_passed (fun _ hnone => by cases hnone) hlive
    (hsettles.right resourceId hbefore)

end IndexedStore

theorem run_ofService {α : Type} (service : Service α) (store : IndexedStore Index) :
    (ofService service : Command Index α).run store =
      ((service.run store.ctx).1.mapError .service,
        { store with ctx := (service.run store.ctx).2 }) := by
  rw [ofService, Program.run_mapError, Program.run_zoom]
  · exact fun _ _ => rfl
  · exact fun _ _ _ => rfl
  · exact fun _ => rfl

def taskFor (outcome : Except ServiceError DecryptedResource) (emitted : Except String Unit) :
    Option IndexTask :=
  match outcome, emitted with
  | .ok resource, .ok _ => some
      { resourceId := resource.id, resourceData := resource.data
        folderId := resource.folderId }
  | _, _ => none

theorem thenIndex_run (service : Service DecryptedResource) (emitted : Except String Unit)
    (store : IndexedStore Index) :
    ((do
      let resource ← ofService service
      emitToFrontend emitted
      spawnIndexing resource : Command Index PUnit).run store).2 =
      { store with
        ctx := (service.run store.ctx).2
        tasks := store.tasks ++ (taskFor (service.run store.ctx).1 emitted).toList } := by
  rw [Program.run_bind, run_ofService]
  cases (service.run store.ctx).1 with
  | error error => simp [taskFor, Except.mapError]
  | ok resource =>
      cases emitted with
      | error message => simp [taskFor, Except.mapError, emitToFrontend]
      | ok told => rfl

def SearchApp.writtenBy (app : SearchApp Index) (outcome : Except ServiceError DecryptedResource)
    (emitted : Except String Unit) : Option TantivyDocument :=
  (taskFor outcome emitted).bind fun task =>
    app.extractor.documentFor? task.resourceId task.resourceData task.folderId

theorem IndexedStore.spawns_thenIndex (app : SearchApp Index)
    (service : Service DecryptedResource) (emitted : Except String Unit)
    (store : IndexedStore Index) :
    IndexedStore.Spawns app (app.writtenBy (service.run store.ctx).1 emitted) store
      { store with
        ctx := (service.run store.ctx).2
        tasks := store.tasks ++ (taskFor (service.run store.ctx).1 emitted).toList } := by
  refine ⟨rfl, ?_⟩
  rw [SearchApp.writesOf, List.filterMap_append, SearchApp.writtenBy]
  cases taskFor (service.run store.ctx).1 emitted with
  | none => rfl
  | some task => cases hdocument :
      app.extractor.documentFor? task.resourceId task.resourceData task.folderId <;>
    simp [SearchApp.writesOf, hdocument]

theorem handleAddResource_run (now : Int) (resourcePayload : JsonText)
    (resourceType : ResourceType) (folderId : String) (emitted : Except String Unit)
    (store : IndexedStore Index) :
    (store.runCommand (handleAddResource app now resourcePayload resourceType folderId
        emitted)) =
      { store with
        ctx := ((createResource (app.envAt now) resourcePayload resourceType folderId app.user
          app.device.id).run store.ctx).2 } := by
  rw [IndexedStore.runCommand, handleAddResource, Program.run_bind, run_ofService]
  cases ((createResource (app.envAt now) resourcePayload resourceType folderId app.user
      app.device.id).run store.ctx).1 with
  | error error => rfl
  | ok resource => cases emitted <;> rfl

theorem liveDocument?_created {now : Int} {resourcePayload : JsonText} {resourceType : ResourceType}
    {folderId : String}
    (hunindexed : (∀ resourceId folderId,
        app.extractor.documentFor? resourceId (contentOf resourcePayload) folderId = none) ∨
      ∃ error, ((createResource (app.envAt now) resourcePayload resourceType folderId
        app.user app.device.id).run ctx).1 = .error error) (resourceId : String) :
    app.liveDocument? ((createResource (app.envAt now) resourcePayload resourceType folderId
        app.user app.device.id).run ctx).2 resourceId =
      app.liveDocument? ctx resourceId := by
  rcases createResource_createsRow (app.envAt now) resourcePayload resourceType folderId
    app.user app.device.id ctx ctx (.refl ctx) with hsame | ⟨newId, hcreates, hfailed⟩
  · exact liveDocument?_congr (hsame resourceId)
  by_cases hnew : resourceId = newId
  · subst hnew
    have hbefore : app.liveDocument? ctx resourceId = none := by
      rw [SearchApp.liveDocument?, hcreates.fresh, Option.bind_none]
    rw [hbefore]
    unfold SearchApp.liveDocument?
    rw [Option.bind_eq_none_iff]
    intro row hrow
    unfold SearchApp.liveDocumentOf? SearchApp.documentOf?
    split
    · rfl
    split
    · next shown hdecrypt =>
        rcases hunindexed with hnone | hfails
        · obtain ⟨_, _, _, plain, hsealed, hshown⟩ := decryptSingleResource_reads hdecrypt
          obtain ⟨_, hpayload⟩ := hcreates.data row hrow
          rw [hpayload] at hsealed
          cases hsealed
          rw [hshown]
          exact hnone _ _
        · have hunread := hfailed hfails
          rw [reading?, hrow, Option.bind_some] at hunread
          have hdecrypt' : decryptSingleResource (app.envAt now) row = .ok shown := hdecrypt
          rw [hdecrypt'] at hunread
          cases hunread
    · rfl
  · exact liveDocument?_congr (hcreates.others resourceId hnew)

theorem settles_softDelete {now : Int} {deletedId : String}
    (hsettles : store.Settles app view)
    (hdeleted : deletedId ∈ store.added ∨ app.liveDocument? store.ctx deletedId = none) :
    (store.runCommand (softDeleteResource app now deletedId)).Settles app view := by
  rw [IndexedStore.runCommand, softDeleteResource, run_ofService]
  have hchanges := deleteResource_changesRow (app.envAt now) deletedId app.user.id store.ctx
  refine hsettles.of_same (.of_tasks rfl rfl) fun resourceId hnot => ⟨hnot, ?_⟩
  dsimp only at hnot ⊢
  unfold SearchApp.liveDocument?
  rw [hchanges resourceId]
  cases hrow : rowOf? store.ctx resourceId app.user.id with
  | none => rfl
  | some row =>
      rw [Option.map_some, Option.bind_some, Option.bind_some]
      by_cases hsame : resourceId = deletedId
      · rw [if_pos hsame]
        subst hsame
        have hnone := hdeleted.resolve_left hnot
        rw [SearchApp.liveDocument?, hrow, Option.bind_some] at hnone
        rw [hnone]
        rfl
      · rw [if_neg hsame]

theorem writtenBy_eq_some {outcome : Except ServiceError DecryptedResource}
    {emitted : Except String Unit} :
    app.writtenBy outcome emitted = some document ↔
      emitted = .ok () ∧ ∃ resource, outcome = .ok resource ∧
        app.extractor.documentFor? resource.id resource.data resource.folderId =
          some document := by
  unfold SearchApp.writtenBy taskFor
  cases outcome with
  | error error => simp
  | ok resource => cases emitted <;> simp

theorem documentOf?_eq {row : ResourceWithKey} {shown : DecryptedResource}
    (hdecrypt : decryptSingleResource app.env row = .ok shown) :
    app.documentOf? row =
      app.extractor.documentFor? shown.id shown.data shown.folderId := by
  rw [SearchApp.documentOf?, hdecrypt]

theorem documentOf?_replacement {row : ResourceWithKey} {data : JsonText} {cipher : AesText}
    {now : Int}
    (hencrypt : CryptoUtils.updateResource app.env.cert data row.encryptedKey = .ok cipher) :
    app.documentOf? { row with resource := ResourceRepo.setData cipher now row.resource } =
      app.updatedDocument? row data := by
  obtain ⟨shown, hdecrypt, hdata⟩ := @decryptSingleResource_replacement app.env
    _ _ _ hencrypt now
  obtain ⟨hid, hfolder, _⟩ := decryptSingleResource_reads hdecrypt
  rw [documentOf?_eq hdecrypt, hid, hfolder, hdata]
  rfl

section Update

variable {now : Int} {data : JsonText} {emitted : Except String Unit}

theorem settles_refused
    (hnone : replacement? (app.envAt now) resourceId data app.user.id store.ctx = none)
    (hsettles : store.Settles app view) :
    (store.runCommand (handleUpdateResource app now resourceId data emitted)).Settles
      app view := by
  obtain ⟨error, hrun⟩ := updateResource_nothing app.device.id hnone
  have hspawns := IndexedStore.spawns_thenIndex app
    (updateResource (app.envAt now) resourceId data app.user.id app.device.id) emitted store
  rw [IndexedStore.runCommand, handleUpdateResource, thenIndex_run]
  rw [hrun] at hspawns ⊢
  exact hsettles.of_same hspawns fun _ hnot => ⟨hnot, rfl⟩

theorem update_parts {row : ResourceWithKey} {cipher : AesText}
    (hrow : rowOf? store.ctx resourceId app.user.id = some row)
    (hcipher : replacement? (app.envAt now) resourceId data app.user.id store.ctx =
      some cipher) (emitted : Except String Unit) :
    let outcome := (updateResource (app.envAt now) resourceId data app.user.id
      app.device.id).run store.ctx
    (∀ other, other ≠ resourceId →
        app.liveDocument? outcome.2 other = app.liveDocument? store.ctx other) ∧
      app.liveDocument? outcome.2 resourceId =
        (if row.resource.deleted then none else app.updatedDocument? row data) ∧
      ∀ document, app.writtenBy outcome.1 emitted = some document ↔
        emitted = .ok () ∧ RowReady (app.envAt now) resourceId app.device.id store.ctx ∧
          app.updatedDocument? row data = some document := by
  obtain ⟨hchanges, htold⟩ := updateResource_changesRow app.device.id hcipher
  obtain ⟨found, hfind, hencrypt⟩ := replacement?_eq_some hcipher
  obtain rfl : found = row := by
    rw [rowOf?, hfind] at hrow
    exact Option.some.inj hrow
  have hupdated : app.documentOf?
      { found with resource := ResourceRepo.setData cipher now found.resource } =
        app.updatedDocument? found data := documentOf?_replacement hencrypt
  have hafter := hchanges resourceId
  rw [hrow, Option.map_some, if_pos rfl] at hafter
  refine ⟨fun other hother => ?_, ?_, fun document => ?_⟩
  · refine liveDocument?_congr ?_
    rw [hchanges other]
    simp [hother]
  · rw [SearchApp.liveDocument?, hafter, Option.bind_some, SearchApp.liveDocumentOf?]
    exact congrArg _ hupdated
  · rw [writtenBy_eq_some, ← updateResource_ok_iff hcipher]
    refine and_congr_right fun _ => ?_
    rw [← exists_and_right]
    refine exists_congr fun shown => and_congr_right fun hok => ?_
    have hread := htold shown hok
    rw [reading?, hafter, Option.bind_some] at hread
    have hread' : (decryptSingleResource app.env
        { found with resource := ResourceRepo.setData cipher now found.resource }).toOption =
          some shown := hread
    have hdecrypt : decryptSingleResource app.env
        { found with resource := ResourceRepo.setData cipher now found.resource } =
          .ok shown := by
      cases hresult : decryptSingleResource app.env
          { found with resource := ResourceRepo.setData cipher now found.resource } with
      | error error =>
          rw [hresult] at hread'
          cases hread'
      | ok read =>
          rw [hresult] at hread'
          cases hread'
          rfl
    rw [← hupdated, documentOf?_eq hdecrypt]

theorem settles_update (hsettles : store.Settles app view)
    (hfollowed : UpdateFollowed app now resourceId data emitted store) :
    (store.runCommand (handleUpdateResource app now resourceId data emitted)).Settles
      app view := by
  cases hcipher : replacement? (app.envAt now) resourceId data app.user.id store.ctx with
  | none => exact settles_refused hcipher hsettles
  | some cipher =>
  obtain ⟨row, hfind, -⟩ := replacement?_eq_some hcipher
  have hrow : rowOf? store.ctx resourceId app.user.id = some row := by
    rw [rowOf?, hfind]
    rfl
  obtain ⟨hothers, hlive, hwritten⟩ := update_parts hrow hcipher emitted
  have hspawns := IndexedStore.spawns_thenIndex app
    (updateResource (app.envAt now) resourceId data app.user.id app.device.id) emitted store
  rw [IndexedStore.runCommand, handleUpdateResource, thenIndex_run]
  refine ⟨hspawns.ready hsettles.ready, fun other hnot => ?_⟩
  by_cases hother : other = resourceId
  · subst hother
    cases hfollowed with
    | announced hannounced => exact absurd hannounced hnot
    | refused hnone =>
        rw [hcipher] at hnone
        cases hnone
    | indexed hrow' hkept hready htold hsome =>
        cases hrow.symm.trans hrow'
        obtain ⟨document, hdocument⟩ := Option.isSome_iff_exists.mp hsome
        rw [(hwritten document).mpr ⟨htold, hready, hdocument⟩] at hspawns
        refine hspawns.right_written ?_ ?_
        · rw [ContentExtractor.documentFor?_resourceId hdocument, rowOf?_id hrow]
        · rw [hlive, hkept, hdocument]
          rfl
    | same hrow' hunwritten hsame =>
        cases hrow.symm.trans hrow'
        have hnone : app.writtenBy ((updateResource (app.envAt now) other data app.user.id
            app.device.id).run store.ctx).1 emitted = none := by
          rw [Option.eq_none_iff_forall_ne_some]
          intro document hsome
          obtain ⟨htold, hready, hdocument⟩ := (hwritten document).mp hsome
          rcases hunwritten with hnotReady | hnotTold | hnotIndexed
          · exact hnotReady hready
          · exact hnotTold htold
          · rw [hnotIndexed] at hdocument
            cases hdocument
        rw [hnone] at hspawns
        refine hspawns.right_passed (fun _ hsome => by cases hsome) ?_
          (hsettles.right other hnot)
        rw [hlive, SearchApp.liveDocument?, hrow, Option.bind_some, SearchApp.liveDocumentOf?]
        rcases hsame with hdeleted | hequal
        · rw [hdeleted]
          rfl
        · rw [hequal]
  · refine hspawns.right_passed (fun document hsome => ?_) (hothers other hother)
      (hsettles.right other hnot)
    obtain ⟨_, _, hdocument⟩ := (hwritten document).mp hsome
    rw [ContentExtractor.documentFor?_resourceId hdocument, rowOf?_id hrow]
    exact fun heq => hother heq.symm

end Update

theorem removeLocalMissingResource_run (connectionType : ConnectionType)
    (resourceId : String) (session : Session) :
    ∃ isEmpty after, (removeLocalMissingResource connectionType resourceId).run session =
        (.ok isEmpty, after) ∧ after.repo = session.repo ∧
      after.connection.events = session.connection.events := by
  cases connectionType <;> exact ⟨_, _, rfl, rfl, rfl⟩

theorem announce_run (connectionType : ConnectionType) (resourceId : String)
    (session : Session) :
    let after := ((do
      let peerUser ← getPeerUser
      emit (.resourceAdded resourceId peerUser.username)
      let isEmpty ← removeLocalMissingResource connectionType resourceId
      if isEmpty then sendMessage .resourceAdditionComplete : Handler PUnit).run session).2
    after.repo = session.repo ∧
      resourceId ∈ after.connection.events.filterMap addedResource? := by
  have hpeer : getPeerUser.run session = (.ok session.connection.user, session) := rfl
  have hemit (event : P2PEvent) : (emit event).run session = (.ok .unit, { session with
      connection := { session.connection with
        events := session.connection.events ++ [event] } }) := rfl
  dsimp only
  rw [Program.run_bind, hpeer, Program.andThen_ok, Program.run_bind, hemit, Program.andThen_ok,
    Program.run_bind]
  obtain ⟨isEmpty, after, hremove, hrepo, hevents⟩ := removeLocalMissingResource_run
    connectionType resourceId { session with
      connection := { session.connection with
        events := session.connection.events ++
          [.resourceAdded resourceId session.connection.user.username] } }
  have hannounced : resourceId ∈ after.connection.events.filterMap addedResource? := by
    rw [hevents]
    simp [addedResource?]
  rw [hremove, Program.andThen_ok]
  cases isEmpty with
  | false => exact ⟨hrepo, hannounced⟩
  | true => exact ⟨hrepo, hannounced⟩

theorem received_parts (connection : PeerConnection) (payload : ResourceSyncData)
    (store : IndexedStore Index) :
    let outcome := (addResourceSync payload connection.kind).run store.ctx
    (store.received connection payload).repo = outcome.2 ∧
      (outcome.1 = .ok .unit →
        payload.resource.id ∈ (store.received connection payload).connection.events.filterMap
          addedResource?) := by
  let session : Session := { repo := store.ctx, connection := { connection with events := [] } }
  have hkind : getConnectionType.run session = (.ok connection.kind, session) := rfl
  dsimp only
  rw [IndexedStore.received, processResourceAdditionRequest, Program.run_bind, hkind,
    Program.andThen_ok, Program.run_bind, run_callService]
  change (Program.andThen (Except.mapError _ ((addResourceSync payload connection.kind).run
    store.ctx).1, { session with
      repo := ((addResourceSync payload connection.kind).run store.ctx).2 }) _).2.repo = _ ∧ _
  cases ((addResourceSync payload connection.kind).run store.ctx).1 with
  | error error => exact ⟨rfl, fun hok => by cases hok⟩
  | ok done =>
      have hafter := announce_run connection.kind payload.resource.id { session with
        repo := ((addResourceSync payload connection.kind).run store.ctx).2 }
      exact ⟨hafter.1, fun _ => hafter.2⟩

theorem settles_arrives {connection : PeerConnection} {payload : ResourceSyncData}
    (hsettles : store.Settles app view)
    (hfollowed : ConcernsOnly payload app.user.id store.ctx ∨
      ∃ error, ((addResourceSync payload connection.kind).run store.ctx).1 = .error error) :
    (IndexedStore.step app (.resourceArrives connection payload) store).Settles app view := by
  obtain ⟨hrepo, hannounced⟩ := received_parts connection payload store
  refine hsettles.of_same (.of_tasks rfl rfl) fun resourceId hnot => ?_
  rw [IndexedStore.step, List.mem_append, not_or] at hnot
  refine ⟨hnot.1, ?_⟩
  change app.liveDocument? (store.received connection payload).repo resourceId = _
  rw [hrepo]
  rcases addResourceSync_others payload connection.kind store.ctx with
    ⟨_, hsame⟩ | ⟨hok, hothers⟩
  · rw [hsame]
  · have hconcerns : ConcernsOnly payload app.user.id store.ctx := by
      rcases hfollowed with hconcerns | ⟨error, hfails⟩
      · exact hconcerns
      · rw [hok] at hfails
        cases hfails
    refine liveDocument?_congr (hothers app.user.id hconcerns resourceId fun heq => hnot.2 ?_)
    rw [heq]
    exact hannounced hok

theorem writtenBy_reading {emitted : Except String Unit} :
    app.writtenBy ((getResourceByIdDirect app.env resourceId app.user.id).run ctx).1 emitted =
        some document ↔
      emitted = .ok () ∧
        (rowOf? ctx resourceId app.user.id).bind app.documentOf? = some document := by
  have hreads := (getResourceByIdDirect_reads app.env resourceId app.user.id ctx).2
  rw [writtenBy_eq_some]
  refine and_congr_right fun _ => ?_
  rw [reading?] at hreads
  cases hrow : rowOf? ctx resourceId app.user.id with
  | none =>
      rw [hrow, Option.bind_none] at hreads
      cases hrun : ((getResourceByIdDirect app.env resourceId app.user.id).run ctx).1 with
      | error error => simp
      | ok shown =>
          rw [hrun] at hreads
          cases hreads
  | some row =>
      rw [hrow, Option.bind_some] at hreads
      rw [Option.bind_some, SearchApp.documentOf?]
      cases hrun : ((getResourceByIdDirect app.env resourceId app.user.id).run ctx).1 <;>
        cases hdecrypt : decryptSingleResource app.env row <;>
          simp_all [Except.toOption]

theorem settles_listen {emitted : Except String Unit} (hsettles : store.Settles app view)
    (hfollowed : ∀ resourceId rest, store.added = resourceId :: rest →
      AnnouncementFollowed app view resourceId rest emitted store) :
    (IndexedStore.step app (.listen emitted) store).Settles app view := by
  unfold IndexedStore.step
  cases hadded : store.added with
  | nil => exact hsettles
  | cons resourceId rest =>
  let opened : IndexedStore Index := { store with added := rest }
  let reads := (getResourceByIdDirect app.env resourceId app.user.id).run store.ctx
  have hrun : opened.runCommand (handleResourceAdded app resourceId emitted) =
      { opened with
        ctx := reads.2
        tasks := opened.tasks ++ (taskFor reads.1 emitted).toList } := by
    rw [IndexedStore.runCommand, handleResourceAdded, Program.run_bind, Program.run_attempt,
      Program.andThen_ok, Program.run_pure, emitResourcePreview, thenIndex_run]
  have hspawns : IndexedStore.Spawns app (app.writtenBy reads.1 emitted) opened
      { opened with
        ctx := reads.2
        tasks := opened.tasks ++ (taskFor reads.1 emitted).toList } :=
    IndexedStore.spawns_thenIndex app _ emitted opened
  have hstays : reads.2 = store.ctx := (getResourceByIdDirect_reads _ _ _ _).1
  dsimp only
  rw [hrun, hstays]
  rw [hstays] at hspawns
  refine ⟨hspawns.ready hsettles.ready, fun other hnot => ?_⟩
  by_cases hother : other = resourceId
  · subst hother
    cases hfollowed other rest hadded with
    | announced hannounced => exact absurd hannounced hnot
    | indexed hrow hkept htold hsome =>
        obtain ⟨document, hdocument⟩ := Option.isSome_iff_exists.mp hsome
        have hwritten := writtenBy_reading.mpr
          ⟨htold, (congrArg (Option.bind · app.documentOf?) hrow).trans hdocument⟩
        rw [hwritten] at hspawns
        refine hspawns.right_written ?_ ?_
        · rw [documentOf?_resourceId hdocument, rowOf?_id hrow]
        · rw [SearchApp.liveDocument?, hrow, Option.bind_some, SearchApp.liveDocumentOf?, hkept]
          exact hdocument
    | right hunwritten hright =>
        refine hspawns.right_passed (fun document hsome => ?_) rfl hright
        obtain ⟨htold, hdocument⟩ := writtenBy_reading.mp hsome
        rcases hunwritten with hnotTold | hnone
        · exact absurd htold hnotTold
        · rw [hnone] at hdocument
          cases hdocument
  · refine hspawns.right_passed (fun document hsome => ?_) rfl (hsettles.right other ?_)
    · obtain ⟨_, hdocument⟩ := writtenBy_reading.mp hsome
      obtain ⟨row, hrow, hdocument⟩ := Option.bind_eq_some_iff.mp hdocument
      rw [documentOf?_resourceId hdocument, rowOf?_id hrow]
      exact fun heq => hother heq.symm
    · rw [hadded, List.mem_cons, not_or]
      exact ⟨hother, hnot⟩

theorem settles_runTask (hlawful : app.tantivy.Lawful view) (hworks : app.tantivy.Works)
    {position : Nat} (hsettles : store.Settles app view)
    (hfollowed : TaskFollowed app position store) :
    (IndexedStore.step app (.runTask position) store).Settles app view := by
  unfold IndexedStore.step
  dsimp only
  cases htask : store.tasks[position]? with
  | none => exact hsettles
  | some task =>
  obtain ⟨hlt, rfl⟩ := List.getElem?_eq_some_iff.mp htask
  set before := store.tasks.take position with hbefore
  set after := store.tasks.drop (position + 1) with hafter
  have hsplit : store.tasks = before ++ store.tasks[position] :: after := by
    rw [hbefore, hafter, ← List.drop_eq_getElem_cons hlt, List.take_append_drop]
  have herased : store.tasks.eraseIdx position = before ++ after :=
    List.eraseIdx_eq_take_drop_succ _ _
  have hwrites : app.writesOf store.tasks = app.writesOf before ++
      (app.extractor.documentFor? store.tasks[position].resourceId
        store.tasks[position].resourceData store.tasks[position].folderId).toList ++
      app.writesOf after := by
    conv_lhs => rw [hsplit]
    rw [SearchApp.writesOf, List.filterMap_append, List.filterMap_cons, List.append_assoc]
    cases app.extractor.documentFor? store.tasks[position].resourceId
      store.tasks[position].resourceData store.tasks[position].folderId <;> rfl
  obtain ⟨index, hindex, hsynced⟩ := hsettles.ready
  dsimp only
  cases hdocument : app.extractor.documentFor? store.tasks[position].resourceId
      store.tasks[position].resourceData store.tasks[position].folderId with
  | none =>
      refine hsettles.of_same ⟨?_, ?_⟩ fun _ hnot => ⟨hnot, rfl⟩
      · exact SearchIndexManager.updateResource_passed hdocument store.index
      · rw [herased, hwrites, hdocument]
        simp [SearchApp.writesOf]
  | some document =>
      rw [hdocument, Option.toList_some] at hwrites
      obtain ⟨indexed, hindexed, hsynced', hshown⟩ := SearchIndexManager.updateResource_shown
        hlawful hworks hdocument hsynced
      have hid := ContentExtractor.documentFor?_resourceId hdocument
      have hbefore' : store.shown view = SearchIndexManager.shown view index := by
        rw [IndexedStore.shown, hindex]
        simp [SearchIndexManager.shown]
      have hrun : IndexedStore.runIndexing app store.tasks[position] store.index =
          some indexed := by
        rw [IndexedStore.runIndexing, hindex, hindexed]
      rw [hrun]
      refine ⟨⟨indexed, rfl, hsynced'⟩, fun resourceId hnot other hother => ?_⟩
      have hafter' : IndexedStore.shown view { store with
          index := some indexed, tasks := store.tasks.eraseIdx position } =
            putEntry TantivyDocument.resourceId document (store.shown view) := by
        rw [hbefore', ← hshown, IndexedStore.shown]
        simp [SearchIndexManager.shown]
      have hdone : other ∈ IndexedStore.toShow app view { store with
          index := some indexed, tasks := store.tasks.eraseIdx position } ↔
            other ∈ store.toShow app view := by
        rw [IndexedStore.toShow, IndexedStore.toShow, hafter', hwrites]
        dsimp only
        rw [herased, SearchApp.writesOf, List.filterMap_append, List.append_assoc]
        by_cases hsame : other.resourceId = document.resourceId
        · have hturn := hfollowed _ document htask hdocument
          refine mem_upcoming_done (hturn.resolve_left fun hin => ?_) hsame
          exact hnot (by rwa [← hother, hsame, hid])
        · exact mem_upcoming_done_of_ne hsame
      rw [hdone]
      exact hsettles.right resourceId hnot other hother

theorem settles_step (hlawful : app.tantivy.Lawful view) (hworks : app.tantivy.Works)
    {event : ResourceEvent} (hsettles : store.Settles app view)
    (hfollowed : Followed app view event store) :
    (IndexedStore.step app event store).Settles app view := by
  cases event with
  | handleAddResource now resourcePayload resourceType folderId emitted =>
      rw [IndexedStore.step, handleAddResource_run]
      exact hsettles.of_same (.of_tasks rfl rfl) fun resourceId hnot =>
        ⟨hnot, liveDocument?_created hfollowed resourceId⟩
  | handleUpdateResource now resourceId data emitted => exact settles_update hsettles hfollowed
  | softDeleteResource now resourceId => exact settles_softDelete hsettles hfollowed
  | resourceArrives connection payload => exact settles_arrives hsettles hfollowed
  | listen emitted => exact settles_listen hsettles hfollowed
  | runTask position => exact settles_runTask hlawful hworks hsettles hfollowed

/-- In a run whose events are all followed the index shows what is stored, whenever no
event is on its way and all tasks have run. -/
theorem searchIndex_reflects (hlawful : app.tantivy.Lawful view) (hworks : app.tantivy.Works)
    {start : IndexedStore Index} (hready : start.Ready view) (hidle : start.Idle)
    (hstart : start.Reflects app view) {events : List ResourceEvent}
    (hfollowed : ∀ earlier event, earlier ++ [event] <+: events →
      Followed app view event (run (IndexedStore.step app) start earlier)) :
    ∀ earlier, earlier <+: events → (run (IndexedStore.step app) start earlier).Idle →
      (run (IndexedStore.step app) start earlier).Reflects app view := by
  have hsettles := @run_invariant _ _ (IndexedStore.step app) start events
    (fun _ store => store.Settles app view)
    ⟨hready, fun resourceId _ => hstart.right hidle resourceId⟩
    fun earlier event hearlier hbefore =>
      settles_step hlawful hworks hbefore (hfollowed earlier event hearlier)
  exact fun earlier hearlier hdone => (hsettles earlier hearlier).reflects hdone

theorem not_reflects_unshown {index : Index} (hindex : store.index = some index)
    (hlive : (app.liveDocument? store.ctx resourceId).isSome = true)
    (hnot : ∀ document ∈ view.visible index, document.resourceId ≠ resourceId) :
    ¬ store.Reflects app view := by
  intro hreflects
  obtain ⟨document, ⟨other, hother, hvisible⟩, hid⟩ := (hreflects.ids resourceId).mpr hlive
  cases hindex.symm.trans hother
  exact hnot document hvisible hid

theorem not_reflects_stale {index : Index} (hindex : store.index = some index)
    (hvisible : document ∈ view.visible index)
    (hlive : app.liveDocument? store.ctx document.resourceId ≠ some document) :
    ¬ store.Reflects app view :=
  fun hreflects => hlive (hreflects.contents document ⟨index, hindex, hvisible⟩)

end Settling

namespace TextNotes

def libraries : ContentLibraries :=
  { Update := Bytes
    Doc := Bytes
    decodeV2 := fun bytes => if bytes.isEmpty then .error "unexpected end" else .ok bytes
    applyUpdate := .ok
    prosemirror := fun doc => String.ofList (doc.map fun byte => Char.ofNat byte.toNat)
    replyContents := fun _ => []
    readXml := fun xml => [.ok (.start "paragraph"), .ok (.text xml), .ok (.finish "paragraph")] }

def app : SearchApp TextIndex :=
  { env := TwoHolders.envOf "R", user := .sample "R", device := .sample "dev-R" "R"
    tantivy := textTantivy
    extractor := { libraries, yjsFieldName := "main_doc" } }

def note (letter : UInt8) : JsonText :=
  .encoded (.object [("main_doc", .ofBytes [letter])])

def start : IndexedStore TextIndex :=
  { ctx := { TwoHolders.store "R" with
      resources := [.new "a" 0 .notes (.sealed "k" (.encoded .null)) "folder" "" "R"]
      resourceKeys := [.new "key-R" 0 "a" "R" (.sealed "R" "k") true] }
    index := some textTantivy.createInRam }

def after (events : List ResourceEvent) : IndexedStore TextIndex :=
  run (IndexedStore.step app) start events

def created : List ResourceEvent :=
  [.handleAddResource 0 (note 97) .notes "folder" (.ok ())]

def written : List ResourceEvent :=
  [.handleUpdateResource 0 "a" (note 97) (.ok ()), .runTask 0]

def deleted : List ResourceEvent := written ++ [.softDeleteResource 1 "a"]

def crossed : List ResourceEvent :=
  [.handleUpdateResource 0 "a" (note 97) (.ok ()),
    .handleUpdateResource 1 "a" (note 98) (.ok ()), .runTask 1, .runTask 0]

theorem start_idle : start.Idle := ⟨rfl, rfl⟩

theorem start_ready : start.Ready textView := ⟨_, rfl, rfl⟩

theorem start_reflects : start.Reflects app textView := by
  have hlive (resourceId : String) : app.liveDocument? start.ctx resourceId = none := by
    by_cases hid : "a" = resourceId
    · subst hid
      decide +kernel
    · have hnone : ResourceRepo.resource? start.ctx resourceId = none := by
        simp [ResourceRepo.resource?, start, Resource.new, hid]
      rw [SearchApp.liveDocument?, rowOf?_eq, hnone]
      rfl
  refine ⟨fun resourceId => ?_, ?_⟩
  · rw [hlive]
    refine iff_of_false ?_ (by simp)
    rintro ⟨document, ⟨_, ⟨⟩, hvisible⟩, _⟩
    cases hvisible
  · rintro document ⟨_, ⟨⟩, hvisible⟩
    cases hvisible

def shownNote (letter : String) : TantivyDocument :=
  { resourceId := "a", title := letter, content := letter, folderId := "folder", comments := "" }

end TextNotes

open TextNotes in
/-- A new note is missing in the index, a deleted one stays in it, and the older of two
updates is shown when its task runs last. -/
theorem searchIndex_fails :
    start.Idle ∧ start.Reflects app textView ∧
      ∀ events ∈ [created, deleted, crossed],
        (after events).Idle ∧ ¬ (after events).Reflects app textView := by
  refine ⟨start_idle, start_reflects, ?_⟩
  have hidle : ∀ events ∈ [created, deleted, crossed],
      (after events).added = [] ∧ (after events).tasks.isEmpty = true := by
    decide +kernel
  intro events hevents
  refine ⟨⟨(hidle events hevents).1, List.isEmpty_iff.mp (hidle events hevents).2⟩, ?_⟩
  have hcreated : (after created).index = some textTantivy.createInRam ∧
      (app.liveDocument? (after created).ctx "i").isSome = true := by decide +kernel
  have hstale : ∀ stale ∈ [deleted, crossed],
      (after stale).index = some ⟨[shownNote "a"], [shownNote "a"], [shownNote "a"]⟩ ∧
        app.liveDocument? (after stale).ctx "a" ≠ some (shownNote "a") := by decide +kernel
  rcases List.mem_cons.mp hevents with rfl | hevents
  · refine not_reflects_unshown hcreated.1 hcreated.2 fun document hdocument => ?_
    cases hdocument
  · obtain ⟨hindex, hlive⟩ := hstale events hevents
    exact not_reflects_stale hindex (List.mem_singleton.mpr rfl) hlive

open TextNotes in
theorem searchIndex_reflects_written :
    (after written).Reflects app textView ∧ shownNote "a" ∈ (after written).shown textView := by
  have hfirst : Followed app textView (.handleUpdateResource 0 "a" (note 97) (.ok ())) start :=
    .indexed rfl rfl (.inr ⟨by decide +kernel, by simp [start, TwoHolders.store]⟩) rfl
      (by decide +kernel)
  have hsecond (store : IndexedStore TextIndex) : Followed app textView (.runTask 0) store := by
    intro task document _ _
    right
    right
    intro earlier hearlier
    simp [SearchApp.writesOf, lastWrite?] at hearlier
  have hindex : (after written).index =
      some ⟨[shownNote "a"], [shownNote "a"], [shownNote "a"]⟩ ∧
        (after written).added = [] ∧ (after written).tasks.isEmpty = true := by decide +kernel
  have heach : EachEvent (fun earlier event => Followed app textView event (after earlier)) []
      written := ⟨hfirst, hsecond _, trivial⟩
  exact ⟨searchIndex_reflects textTantivy_lawful textTantivy_works start_ready start_idle
    start_reflects (fun _ _ hearlier => heach.of_prefix hearlier) written List.prefix_rfl
      ⟨hindex.2.1, List.isEmpty_iff.mp hindex.2.2⟩, _, hindex.1, List.mem_singleton.mpr rfl⟩

end Osvauld.Livnote
