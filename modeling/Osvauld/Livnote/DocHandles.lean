import Mathlib.Logic.Function.Basic
import Osvauld.Livnote.CurrentNoteState

namespace Osvauld.Livnote

open Osvauld.Core Data

/-! The open note once more, with its documents behind handles and with every
lock that is taken. A clone of a `Doc` is a handle of the same document, so that
what is applied through one handle is seen through all of them. -/

def peerUpdatesFor (peerUpdates : JsonText) (selection : DocSelection) : Bytes :=
  match peerUpdates.parseObject with
  | .ok peerData => entryUpdates peerData selection.stateKey
  | .error _ => []

structure CurrentNote (yrs : Yrs) where
  /-- The document of each handle; from `created` on there are none yet. -/
  docs : Nat → yrs.Doc
  created : Nat
  noteId : Option String
  held : DocSelection → Nat
  activeConnections : List String := []
  /-- Not in the source, and read by no task: the note, and which of its
  documents, that a document was created for. -/
  owner : Nat → Option String × DocSelection

abbrev HandleTask (yrs : Yrs) (α : Type) := Program (CurrentNote yrs) String α

variable {yrs : Yrs}

namespace CurrentNote

def doc (note : CurrentNote yrs) (selection : DocSelection) : yrs.Doc :=
  note.docs (note.held selection)

def setDoc (handle : Nat) (doc : yrs.Doc) (note : CurrentNote yrs) : CurrentNote yrs :=
  { note with docs := Function.update note.docs handle doc }

def create (noteId : Option String) (selection : DocSelection) (doc : yrs.Doc)
    (note : CurrentNote yrs) : CurrentNote yrs :=
  { note.setDoc note.created doc with
    created := note.created + 1
    owner := Function.update note.owner note.created (noteId, selection) }

def hold (selection : DocSelection) (handle : Nat) (note : CurrentNote yrs) :
    CurrentNote yrs :=
  { note with held := Function.update note.held selection handle }

def default : CurrentNote yrs :=
  { docs := fun _ => yrs.new, created := 3, noteId := none
    held := fun
      | .main => 0
      | .image => 1
      | .comment => 2
    owner := fun
      | 0 => (none, .main)
      | 1 => (none, .image)
      | _ => (none, .comment) }

variable (selection : DocSelection)

@[simp] theorem docs_hold (handle : Nat) (note : CurrentNote yrs) :
    (note.hold selection handle).docs = note.docs := rfl

@[simp] theorem noteId_hold (handle : Nat) (note : CurrentNote yrs) :
    (note.hold selection handle).noteId = note.noteId := rfl

@[simp] theorem created_hold (handle : Nat) (note : CurrentNote yrs) :
    (note.hold selection handle).created = note.created := rfl

@[simp] theorem owner_hold (handle : Nat) (note : CurrentNote yrs) :
    (note.hold selection handle).owner = note.owner := rfl

@[simp] theorem owner_setDoc (handle : Nat) (doc : yrs.Doc) (note : CurrentNote yrs) :
    (note.setDoc handle doc).owner = note.owner := rfl

@[simp] theorem held_setDoc (handle : Nat) (doc : yrs.Doc) (note : CurrentNote yrs) :
    (note.setDoc handle doc).held = note.held := rfl

@[simp] theorem noteId_setDoc (handle : Nat) (doc : yrs.Doc) (note : CurrentNote yrs) :
    (note.setDoc handle doc).noteId = note.noteId := rfl

@[simp] theorem created_setDoc (handle : Nat) (doc : yrs.Doc) (note : CurrentNote yrs) :
    (note.setDoc handle doc).created = note.created := rfl

theorem docs_setDoc (handle other : Nat) (doc : yrs.Doc) (note : CurrentNote yrs) :
    (note.setDoc handle doc).docs other = if other = handle then doc else note.docs other :=
  Function.update_apply _ _ _ _

theorem held_hold (other : DocSelection) (handle : Nat) (note : CurrentNote yrs) :
    (note.hold selection handle).held other =
      if other = selection then handle else note.held other :=
  Function.update_apply _ _ _ _

theorem hold_held (note : CurrentNote yrs) : note.hold selection (note.held selection) = note := by
  unfold hold
  rw [Function.update_eq_self]

end CurrentNote

namespace HandleTask

def loadState : Option Bytes → yrs.Doc
  | none => yrs.new
  | some state =>
      match yrs.applyUpdateV2 yrs.new state with
      | .ok doc => doc
      | .error _ => yrs.new

def newDoc (noteId : Option String) (selection : DocSelection) (state : Option Bytes) :
    HandleTask yrs Nat :=
  Program.atomically fun note =>
    (.ok note.created, note.create noteId selection (loadState state))

def cloneDoc (selection : DocSelection) : HandleTask yrs Nat :=
  Program.read fun note => .ok (note.held selection)

def storeDoc (selection : DocSelection) (handle : Nat) : HandleTask yrs PUnit :=
  Program.write fun note => .ok (note.hold selection handle)

def applyUpdateV2 (handle : Nat) (update : Bytes) : HandleTask yrs PUnit :=
  Program.write fun note =>
    (yrs.applyUpdateV2 (note.docs handle) update).map fun doc => note.setDoc handle doc

def getStateVectorV2 (handle : Nat) : HandleTask yrs Bytes :=
  Program.read fun note => .ok (yrs.stateVector (note.docs handle))

def getDiffUpdateV2 (handle : Nat) (stateVector : Bytes) : HandleTask yrs Bytes :=
  Program.read fun note => yrs.getDiffUpdateV2 (note.docs handle) stateVector

def setCurrentNote (noteId : Option String) (states : DocSelection → Option Bytes) :
    HandleTask yrs PUnit := do
  let newMainDoc ← newDoc noteId .main (states .main)
  let newImageDoc ← newDoc noteId .image (states .image)
  let newCommentDoc ← newDoc noteId .comment (states .comment)
  Program.write fun note => .ok
    { (((note.hold .main newMainDoc).hold .image newImageDoc).hold .comment
      newCommentDoc) with noteId }

/-- A failed update is only reported, and its document is not put back. -/
def applyUpdate (newUpdates : Bytes) (docType : String) : HandleTask yrs PUnit :=
  if newUpdates.isEmpty then return .unit
  else do
    let tempDoc ← cloneDoc (.ofDocType docType)
    let applied ← (applyUpdateV2 tempDoc newUpdates).attempt
    match applied with
    | .ok _ => storeDoc (.ofDocType docType) tempDoc
    | .error _ => return .unit

def getDocStateVector (selection : DocSelection) (doc : Nat) :
    HandleTask yrs (List (String × Value)) := do
  let stateVector ← getStateVectorV2 doc
  if stateVector.isEmpty then return []
  else
    return [(selection.stateKey, DecryptedResource.documentEntry [] stateVector)]

def cloneDocs : HandleTask yrs (DocSelection → Nat) :=
  Program.read fun note => .ok note.held

def getStateVectors : HandleTask yrs JsonText := do
  let docs ← cloneDocs
  let mainDoc ← getDocStateVector .main (docs .main)
  let imageDoc ← getDocStateVector .image (docs .image)
  let commentDoc ← getDocStateVector .comment (docs .comment)
  return .encoded (.object (mainDoc ++ imageDoc ++ commentDoc))

def parsePeer (what : String) (json : JsonText) :
    HandleTask yrs (List (String × Value)) :=
  (Program.ofExcept json.parseObject).mapError
    fun error => "Failed to parse " ++ what ++ ": " ++ error

def describeFor (selection : DocSelection) (doc : Nat) (peerStateVector : Bytes) :
    HandleTask yrs (List (String × Value)) := do
  let updatesForPeer ← (getDiffUpdateV2 doc peerStateVector).mapError fun error =>
    "Failed to generate " ++ selection.stateKey ++ " diff: " ++ error
  let ourStateVector ← getStateVectorV2 doc
  return [(selection.stateKey,
    DecryptedResource.documentEntry updatesForPeer ourStateVector)]

def processDocStateVectors (peerData : List (String × Value)) (selection : DocSelection)
    (doc : Nat) : HandleTask yrs (List (String × Value)) :=
  match Value.get (.object peerData) selection.stateKey with
  | none => return []
  | some data =>
      let peerStateVector := DecryptedResource.entryBytes data "state_vector"
      if peerStateVector.isEmpty then return []
      else describeFor selection doc peerStateVector

def generateUpdatesForPeer (peerStateVectors : JsonText) : HandleTask yrs JsonText := do
  let peerData ← parsePeer "peer state vectors" peerStateVectors
  let docs ← cloneDocs
  let mainDoc ← processDocStateVectors peerData .main (docs .main)
  let imageDoc ← processDocStateVectors peerData .image (docs .image)
  return .encoded (.object (mainDoc ++ imageDoc))

def applyPeerDoc (selection : DocSelection) (doc : Nat) (peerUpdates : Bytes) :
    HandleTask yrs PUnit :=
  if peerUpdates.isEmpty then return .unit
  else (applyUpdateV2 doc peerUpdates).mapError fun error =>
    "Failed to apply " ++ selection.stateKey ++ " updates: " ++ error

/-- The answer for the peer; the document is put back only with one. -/
def processDocUpdatesAndDiff (peerData : List (String × Value))
    (selection : DocSelection) : HandleTask yrs (List (String × Value)) := do
  let doc ← cloneDoc selection
  match Value.get (.object peerData) selection.stateKey with
  | none => return []
  | some data => do
      applyPeerDoc selection doc (DecryptedResource.entryBytes data "updates")
      let peerStateVector := DecryptedResource.entryBytes data "state_vector"
      if peerStateVector.isEmpty then return []
      else do
        let answer ← describeFor selection doc peerStateVector
        storeDoc selection doc
        return answer

def applyUpdatesAndGenerateDiff (peerUpdates : JsonText) : HandleTask yrs JsonText := do
  let peerData ← parsePeer "peer updates" peerUpdates
  let mainDoc ← processDocUpdatesAndDiff peerData .main
  let imageDoc ← processDocUpdatesAndDiff peerData .image
  return .encoded (.object (mainDoc ++ imageDoc))

def applyPeerEntry (peerData : List (String × Value)) (selection : DocSelection) :
    HandleTask yrs PUnit :=
  let peerUpdates := entryUpdates peerData selection.stateKey
  if peerUpdates.isEmpty then return .unit
  else do
    let doc ← cloneDoc selection
    applyPeerDoc selection doc peerUpdates
    storeDoc selection doc

def applyPeerUpdates (peerUpdates : JsonText) : HandleTask yrs PUnit := do
  let peerData ← parsePeer "peer updates" peerUpdates
  applyPeerEntry peerData .main
  applyPeerEntry peerData .image

end HandleTask

end Osvauld.Livnote
