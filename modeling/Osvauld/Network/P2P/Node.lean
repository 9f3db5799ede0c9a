import Mathlib.Logic.Function.Basic
import Osvauld.Data.Interleaving
import Osvauld.Network.P2P.StoreChanges

namespace Osvauld.Network

open Osvauld.Core Data Persistance Services

/-! The whole program: one store, any number of connections, and calls of the
user and of the peers that run side by side. -/

structure Node where
  repo : RepositoryContext
  connections : Nat → PeerConnection

inductive NodeError where
  | service (error : ServiceError)
  | p2p (error : P2PError)
deriving DecidableEq, Repr

def Node.session (index : Nat) (node : Node) : Session :=
  { repo := node.repo, connection := node.connections index }

def Node.withSession (index : Nat) (session : Session) (node : Node) : Node :=
  { repo := session.repo
    connections := Function.update node.connections index session.connection }

def onStore {α : Type} (service : Service α) : Program Node NodeError PUnit := do
  let _ ← (service.zoom Node.repo fun repo node => { node with repo }).mapError
    NodeError.service

def onConnection (index : Nat) (handler : Handler PUnit) :
    Program Node NodeError PUnit :=
  (handler.zoom (Node.session index) (Node.withSession index)).mapError .p2p

inductive NodeCall where
  | createResource (env : ServiceEnv) (resourcePayload : JsonText)
      (resourceType : ResourceType) (folderId : String) (user : User)
      (currentDeviceId : String)
  | updateResource (env : ServiceEnv) (resourceId : String) (data : JsonText)
      (userId currentDeviceId : String)
  | shareResource (env : ServiceEnv) (recipientUserId resourceId : String)
      (permissions : List (String × String)) (currentUser : User)
  | autoShareResourceWithFolderUsers (env : ServiceEnv)
      (resourceId folderId : String) (currentUser : User)
  | shareFolder (env : ServiceEnv) (folderId recipientUserId : String)
      (folderPermissions : List (String × String)) (currentUser : User)
  | initiateHandshake (connection : Nat) (env : NetworkEnv)
      (connectionType : ConnectionType) (currentUser : User)
      (currentDevice : Device)
  | startUserNetworkSync (connection : Nat) (env : NetworkEnv)
  | handleMessage (connection : Nat) (env : NetworkEnv) (message : Message)

namespace NodeCall

def env : NodeCall → ServiceEnv
  | createResource env .. => env
  | updateResource env .. => env
  | shareResource env .. => env
  | autoShareResourceWithFolderUsers env .. => env
  | shareFolder env .. => env
  | initiateHandshake _ env .. => env.toServiceEnv
  | startUserNetworkSync _ env => env.toServiceEnv
  | handleMessage _ env _ => env.toServiceEnv

def body : NodeCall → Program Node NodeError PUnit
  | createResource env resourcePayload resourceType folderId user
        currentDeviceId =>
      onStore (Services.createResource env resourcePayload resourceType folderId
        user currentDeviceId)
  | updateResource env resourceId data userId currentDeviceId =>
      onStore (Services.updateResource env resourceId data userId currentDeviceId)
  | shareResource env recipientUserId resourceId permissions currentUser =>
      onStore (Services.shareResource env recipientUserId resourceId permissions
        currentUser)
  | autoShareResourceWithFolderUsers env resourceId folderId currentUser =>
      onStore (Services.autoShareResourceWithFolderUsers env resourceId folderId
        currentUser)
  | shareFolder env folderId recipientUserId folderPermissions currentUser =>
      onStore (Services.shareFolder env folderId recipientUserId folderPermissions
        currentUser)
  | initiateHandshake connection env connectionType currentUser currentDevice =>
      onConnection connection (Network.initiateHandshake env connectionType
        currentUser currentDevice)
  | startUserNetworkSync connection env =>
      onConnection connection (Network.startUserNetworkSync env)
  | handleMessage connection env message =>
      onConnection connection (Network.handleMessage env message)

end NodeCall

abbrev NodeEvent := PoolEvent NodeCall

def afterSchedule (start : Node) (events : List NodeEvent) :
    Pool NodeCall Node NodeError PUnit :=
  run (Pool.step NodeCall.body) { state := start } events

def MovesNode (reach : RepositoryContext → RepositoryContext → Prop)
    (node node' : Node) : Prop :=
  reach node.repo node'.repo

section MovesNode

variable {reach : RepositoryContext → RepositoryContext → Prop}
variable [IsPreorder RepositoryContext reach]

instance : IsPreorder Node (MovesNode reach) where
  refl node := refl_of reach node.repo
  trans _ _ _ := trans_of reach

theorem onStore_moves {α : Type} {good : α → RepositoryContext → Prop}
    {service : Service α} {since : Node}
    (hservice : ∀ since, Program.Respects reach good since service) :
    Program.Respects (MovesNode reach) (fun _ _ => True) since
      (onStore service) := by
  refine .bind (.mapError _ (Program.Follows.zoom ?_ ?_ ?_ (hservice _)))
    fun _ _ _ _ => .pure trivial
  · exact fun _ _ => rfl
  · exact fun _ _ hmoves => hmoves
  · exact fun _ _ hmoves => hmoves

omit [IsPreorder RepositoryContext reach] in
theorem onConnection_moves {good : PUnit → Session → Prop} {index : Nat}
    {handler : Handler PUnit} {since : Node}
    (hhandler : ∀ since, Program.Respects (MovesStore reach) good since handler) :
    Program.Respects (MovesNode reach) (fun _ _ => True) since
      (onConnection index handler) := by
  refine .mapError _ ((Program.Follows.zoom ?_ ?_ ?_ (hhandler _)).mono
    fun _ _ _ => trivial)
  · intro session node
    simp [Node.session, Node.withSession]
  · exact fun _ _ hmoves => hmoves
  · exact fun _ _ hmoves => hmoves

end MovesNode

end Osvauld.Network
