import Osvauld.TypescriptPort.Storage

namespace Osvauld.TypescriptPort

open Data

/-! `FolderManager`. A loop over the parents of a folder, or over its children, is
given the rounds it may take: nothing in the code bounds it. -/

abbrev Date := Nat

structure Folder where
  id : String
  name : String
  parentId : Option String
  ownerId : String
  createdAt : Date
  updatedAt : Date
deriving DecidableEq

/-- Every key of a folder is written, since `metadata` is never set. -/
instance : Entity Folder where
  tableName := "folders"
  id := Folder.id
  assign stored data := { data with id := stored.id }
  id_assign _ _ := rfl

def truthy (value : Option String) : Option String :=
  value.filter fun text => text ≠ ""

abbrev Uuid := { id : String // id ≠ "" }

inductive FolderNode
  | mk (folder : Folder) (children : List FolderNode)

namespace FolderManager

abbrev FolderProgram (Result : Type) := Program (Table Folder) PortError Result

/-- What `getFolder` checks, for a folder that has been read. -/
def requireOwner (folder : Folder) (userId message : String) : FolderProgram Unit :=
  if folder.ownerId ≠ userId then .fail (.error message) else pure ()

def createFolder (id : Uuid) (now : Date) (name ownerId : String)
    (parentId : Option String) : FolderProgram Folder := do
  match truthy parentId with
  | none => pure ()
  | some parentId =>
      let parent ← BaseRepository.get parentId
      requireOwner parent ownerId "Cannot create folder in another user's folder"
  let folder : Folder :=
    { id := id.val, name, ownerId, parentId, createdAt := now, updatedAt := now }
  BaseRepository.create folder

def getFolder (folderId userId : String) : FolderProgram Folder := do
  let folder ← BaseRepository.get folderId
  requireOwner folder userId "Access denied"
  return folder

def renameFolder (now : Date) (folderId name userId : String) : FolderProgram Folder := do
  let folder ← BaseRepository.get folderId
  requireOwner folder userId "Access denied"
  let updated := { folder with name, updatedAt := now }
  let _ ← BaseRepository.update folderId updated
  return updated

def listFolders (userId : String) : FolderProgram (List Folder) := do
  let allFolders ← BaseRepository.list
  return allFolders.filter fun folder => folder.ownerId = userId

def getRootFolders (userId : String) : FolderProgram (List Folder) := do
  let allFolders ← listFolders userId
  return allFolders.filter fun folder => truthy folder.parentId = none

def getChildFolders (parentId userId : String) : FolderProgram (List Folder) := do
  let allFolders ← listFolders userId
  return allFolders.filter fun folder => folder.parentId = some parentId

def deleteFolder (rounds : Nat) (folderId userId : String) (recursive : Bool) :
    FolderProgram Unit :=
  match rounds with
  | 0 => .fail .unfinished
  | rounds + 1 => do
      let folder ← BaseRepository.get folderId
      requireOwner folder userId "Access denied"
      let children ← getChildFolders folderId userId
      if recursive then
        Program.forEach children fun child => deleteFolder rounds child.id userId true
      else if children.length > 0 then
        .fail (.error "Cannot delete folder with children (use recursive option)")
      else
        pure ()
      BaseRepository.delete folderId

def pathLoop (userId : String) (rounds : Nat) (currentId : Option String)
    (path : List Folder) : FolderProgram (List Folder) :=
  match truthy currentId, rounds with
  | none, _ => pure path
  | some _, 0 => .fail .unfinished
  | some currentId, rounds + 1 => do
      let folder ← getFolder currentId userId
      pathLoop userId rounds folder.parentId (folder :: path)

def getFolderPath (rounds : Nat) (folderId userId : String) :
    FolderProgram (List Folder) :=
  pathLoop userId rounds (some folderId) []

def ancestorLoop (folderId userId : String) (rounds : Nat) (currentId : Option String) :
    FolderProgram Bool :=
  match truthy currentId, rounds with
  | none, _ => pure false
  | some _, 0 => .fail .unfinished
  | some currentId, rounds + 1 =>
      if currentId = folderId then pure true
      else do
        let folder ← getFolder currentId userId
        ancestorLoop folderId userId rounds folder.parentId

def isAncestor (rounds : Nat) (folderId potentialDescendantId userId : String) :
    FolderProgram Bool :=
  ancestorLoop folderId userId rounds (some potentialDescendantId)

def checkNewParent (rounds : Nat) (folderId : String) (newParentId : Option String)
    (userId : String) : FolderProgram Unit :=
  match truthy newParentId with
  | none => pure ()
  | some newParentId => do
      let newParent ← BaseRepository.get newParentId
      requireOwner newParent userId "Cannot move to another user's folder"
      let circular ← isAncestor rounds folderId newParentId userId
      if circular then .fail (.error "Cannot move folder to its own descendant")
      else pure ()

def moveFolder (rounds : Nat) (now : Date) (folderId : String)
    (newParentId : Option String) (userId : String) : FolderProgram Folder := do
  let folder ← BaseRepository.get folderId
  requireOwner folder userId "Access denied"
  checkNewParent rounds folderId newParentId userId
  let updated := { folder with parentId := newParentId, updatedAt := now }
  let _ ← BaseRepository.update folderId updated
  return updated

def buildFolderNode (allFolders : List Folder) (rounds : Nat) (folder : Folder) :
    Except PortError FolderNode :=
  match rounds with
  | 0 => .error .unfinished
  | rounds + 1 => do
      let children := allFolders.filter fun other => other.parentId = some folder.id
      let nodes ← children.mapM (buildFolderNode allFolders rounds)
      return .mk folder nodes

def getFolderTree (rounds : Nat) (userId : String) : FolderProgram (List FolderNode) := do
  let allFolders ← listFolders userId
  let rootFolders := allFolders.filter fun folder => truthy folder.parentId = none
  .ofExcept (rootFolders.mapM (buildFolderNode allFolders rounds))

end FolderManager

end Osvauld.TypescriptPort
