import Osvauld.Network.P2P.ResourceSync
import Osvauld.SearchIndexer.ResourceIndexing

namespace Osvauld.Livnote

open Osvauld.Core Data Network Persistance SearchIndexer Services

/-! The commands on resources and the listener for received ones, with the tasks they
spawn to bring the search index up to date. The previews for the frontend are left out. -/

structure SearchApp (Index : Type) where
  env : ServiceEnv
  user : User
  device : Device
  tantivy : Tantivy Index
  extractor : ContentExtractor

structure IndexTask where
  resourceId : String
  resourceData : Value
  folderId : String

structure IndexedStore (Index : Type) where
  ctx : RepositoryContext
  index : Option Index
  added : List String := []
  tasks : List IndexTask := []

inductive CommandError where
  | service (error : ServiceError)
  | emit (message : String)

abbrev Command (Index α : Type) := Program (IndexedStore Index) CommandError α

section Commands

variable {Index : Type} (app : SearchApp Index)

def SearchApp.envAt (now : Int) : ServiceEnv := { app.env with now }

def ofService {α : Type} (service : Service α) : Command Index α :=
  (service.zoom IndexedStore.ctx fun ctx store => { store with ctx }).mapError .service

def emitToFrontend (emitted : Except String Unit) : Command Index PUnit :=
  Program.ofExcept (emitted.mapError .emit)

def spawnIndexing (resource : DecryptedResource) : Command Index PUnit :=
  Program.write fun store => .ok { store with
    tasks := store.tasks ++
      [{ resourceId := resource.id, resourceData := resource.data
         folderId := resource.folderId }] }

/-- The new resource is not indexed. -/
def handleAddResource (now : Int) (resourcePayload : JsonText) (resourceType : ResourceType)
    (folderId : String) (emitted : Except String Unit) : Command Index DecryptedResource := do
  let resourceAdded ← ofService (createResource (app.envAt now) resourcePayload resourceType
    folderId app.user app.device.id)
  emitToFrontend emitted
  return resourceAdded

def softDeleteResource (now : Int) (resourceId : String) : Command Index PUnit :=
  ofService (deleteResource (app.envAt now) resourceId)

def handleUpdateResource (now : Int) (resourceId : String) (data : JsonText)
    (emitted : Except String Unit) : Command Index PUnit := do
  let decryptedResource ← ofService (updateResource (app.envAt now) resourceId data
    app.user.id app.device.id)
  emitToFrontend emitted
  spawnIndexing decryptedResource

def emitResourcePreview (resourceId : String) (emitted : Except String Unit) :
    Command Index PUnit := do
  let decryptedResource ← ofService (getResourceByIdDirect app.env resourceId app.user.id)
  emitToFrontend emitted
  spawnIndexing decryptedResource

def handleResourceAdded (resourceId : String) (emitted : Except String Unit) :
    Command Index PUnit := do
  let _ ← ((emitResourcePreview app resourceId emitted).attempt :
    Command Index (Except CommandError PUnit))
  return .unit

end Commands

inductive ResourceEvent where
  | handleAddResource (now : Int) (resourcePayload : JsonText) (resourceType : ResourceType)
      (folderId : String) (emitted : Except String Unit)
  | handleUpdateResource (now : Int) (resourceId : String) (data : JsonText)
      (emitted : Except String Unit)
  | softDeleteResource (now : Int) (resourceId : String)
  | resourceArrives (connection : PeerConnection) (payload : ResourceSyncData)
  | listen (emitted : Except String Unit)
  | runTask (position : Nat)

def addedResource? (event : P2PEvent) : Option String :=
  match event with
  | .resourceAdded resourceId _ => some resourceId
  | _ => none

namespace IndexedStore

variable {Index : Type} (app : SearchApp Index)

def runCommand {α : Type} (command : Command Index α) (store : IndexedStore Index) :
    IndexedStore Index :=
  (command.run store).2

def received (connection : PeerConnection) (payload : ResourceSyncData)
    (store : IndexedStore Index) : Session :=
  ((processResourceAdditionRequest payload).run
    { repo := store.ctx, connection := { connection with events := [] } }).2

def runIndexing (task : IndexTask) (index : Option Index) : Option Index :=
  ((SearchIndexManager.updateResource app.tantivy app.extractor task.resourceId
    task.resourceData task.folderId).run index).2

def step (event : ResourceEvent) (store : IndexedStore Index) : IndexedStore Index :=
  match event with
  | .handleAddResource now resourcePayload resourceType folderId emitted =>
      runCommand (Livnote.handleAddResource app now resourcePayload resourceType folderId
        emitted) store
  | .handleUpdateResource now resourceId data emitted =>
      runCommand (Livnote.handleUpdateResource app now resourceId data emitted) store
  | .softDeleteResource now resourceId =>
      runCommand (Livnote.softDeleteResource app now resourceId) store
  | .resourceArrives connection payload =>
      let session := store.received connection payload
      { store with
        ctx := session.repo
        added := store.added ++ session.connection.events.filterMap addedResource? }
  | .listen emitted =>
      match store.added with
      | [] => store
      | resourceId :: rest =>
          runCommand (handleResourceAdded app resourceId emitted) { store with added := rest }
  | .runTask position =>
      match store.tasks[position]? with
      | none => store
      | some task =>
          { store with
            index := runIndexing app task store.index
            tasks := store.tasks.eraseIdx position }

end IndexedStore

end Osvauld.Livnote
