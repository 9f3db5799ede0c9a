import Osvauld.Core.DocumentContent
import Osvauld.Data.Program

namespace Osvauld.Livnote

open Osvauld.Core Data

/-! The documents of the open note, and the live edits of them. Each task
takes one step for each time it locks the buffers or a document. A clone of a
document is another handle of it, so an update that is applied to a clone is
applied to the document itself, and as long as the note stays open putting the
clone back changes nothing. -/

inductive DocSelection where
  | main
  | image
  | comment
deriving DecidableEq, Repr

namespace DocSelection

def ofDocType (docType : String) : DocSelection :=
  if docType = "images" ∨ docType = "image_state" then .image
  else if docType = "comments" ∨ docType = "comment_state" then .comment
  else .main

def stateKey : DocSelection → String
  | .main => "main_doc"
  | .image => "image_state"
  | .comment => "comment_state"

end DocSelection

variable (yrs : Yrs)

structure Buffers where
  noteId : Option String
  mainDoc : yrs.Doc
  imageDoc : yrs.Doc
  commentDoc : yrs.Doc
  activeConnections : List String := []
  inactiveConnections : List String := []
  /-- Not in the source, and read by no task: the documents, as they were, that
  a peer was told the differences to. -/
  compared : List (DocSelection × yrs.Doc) := []

namespace Buffers

variable {yrs}

def doc (buffers : Buffers yrs) : DocSelection → yrs.Doc
  | .main => buffers.mainDoc
  | .image => buffers.imageDoc
  | .comment => buffers.commentDoc

def setDoc (selection : DocSelection) (doc : yrs.Doc) (buffers : Buffers yrs) :
    Buffers yrs :=
  match selection with
  | .main => { buffers with mainDoc := doc }
  | .image => { buffers with imageDoc := doc }
  | .comment => { buffers with commentDoc := doc }

theorem doc_setDoc (selection other : DocSelection) (doc : yrs.Doc)
    (buffers : Buffers yrs) :
    (buffers.setDoc selection doc).doc other =
      if other = selection then doc else buffers.doc other := by
  cases selection <;> cases other <;> rfl

@[simp] theorem setDoc_doc (selection : DocSelection) (buffers : Buffers yrs) :
    buffers.setDoc selection (buffers.doc selection) = buffers := by
  cases selection <;> rfl

@[simp] theorem noteId_setDoc (selection : DocSelection) (doc : yrs.Doc)
    (buffers : Buffers yrs) : (buffers.setDoc selection doc).noteId = buffers.noteId := by
  cases selection <;> rfl

@[simp] theorem activeConnections_setDoc (selection : DocSelection) (doc : yrs.Doc)
    (buffers : Buffers yrs) : (buffers.setDoc selection doc).activeConnections =
      buffers.activeConnections := by
  cases selection <;> rfl

@[simp] theorem compared_setDoc (selection : DocSelection) (doc : yrs.Doc)
    (buffers : Buffers yrs) :
    (buffers.setDoc selection doc).compared = buffers.compared := by
  cases selection <;> rfl

def compare (selection : DocSelection) (buffers : Buffers yrs) : Buffers yrs :=
  { buffers with
    compared := buffers.compared ++ [(selection, buffers.doc selection)] }

@[simp] theorem doc_compare (selection other : DocSelection) (buffers : Buffers yrs) :
    (buffers.compare selection).doc other = buffers.doc other := by
  cases other <;> rfl

def addActive (connectionId : String) (buffers : Buffers yrs) : Buffers yrs :=
  if connectionId ∈ buffers.activeConnections then buffers
  else { buffers with
    activeConnections := buffers.activeConnections ++ [connectionId] }

theorem mem_addActive {connectionId other : String} {buffers : Buffers yrs} :
    other ∈ (buffers.addActive connectionId).activeConnections ↔
      other ∈ buffers.activeConnections ∨ other = connectionId := by
  unfold addActive
  split <;> simp_all

@[simp] theorem doc_addActive (connectionId : String) (selection : DocSelection)
    (buffers : Buffers yrs) :
    (buffers.addActive connectionId).doc selection = buffers.doc selection := by
  unfold addActive
  split
  · rfl
  · cases selection <;> rfl

@[simp] theorem noteId_addActive (connectionId : String) (buffers : Buffers yrs) :
    (buffers.addActive connectionId).noteId = buffers.noteId := by
  unfold addActive
  split <;> rfl

@[simp] theorem compared_addActive (connectionId : String) (buffers : Buffers yrs) :
    (buffers.addActive connectionId).compared = buffers.compared := by
  unfold addActive
  split <;> rfl

def addInactive (connectionId : String) (buffers : Buffers yrs) : Buffers yrs :=
  if connectionId ∈ buffers.inactiveConnections then buffers
  else { buffers with
    inactiveConnections := buffers.inactiveConnections ++ [connectionId] }

def removeActive (connectionId : String) (buffers : Buffers yrs) : Buffers yrs :=
  { buffers with activeConnections := buffers.activeConnections.erase connectionId }

end Buffers

abbrev NoteTask (α : Type) := Program (Buffers yrs) String α

variable {yrs}

namespace NoteTask

def getStateVector (selection : DocSelection) : NoteTask yrs Bytes :=
  Program.read fun buffers => .ok (yrs.stateVector (buffers.doc selection))

def applyTo (selection : DocSelection) (update : Bytes) : NoteTask yrs PUnit :=
  Program.write fun buffers =>
    (yrs.applyUpdateV2 (buffers.doc selection) update).map fun doc =>
      buffers.setDoc selection doc

def getDiff (selection : DocSelection) (stateVector : Bytes) : NoteTask yrs Bytes :=
  Program.atomically fun buffers =>
    (yrs.getDiffUpdateV2 (buffers.doc selection) stateVector,
      buffers.compare selection)

def change (update : Buffers yrs → Buffers yrs) : NoteTask yrs PUnit :=
  Program.write fun buffers => .ok (update buffers)

def applyUpdate (newUpdates : Bytes) (docType : String) : NoteTask yrs PUnit :=
  if newUpdates.isEmpty then pure .unit
  else do
    let _ ← (applyTo (DocSelection.ofDocType docType) newUpdates).attempt
    return .unit

def getDocStateVector (selection : DocSelection) :
    NoteTask yrs (List (String × Value)) := do
  let stateVector ← getStateVector selection
  if stateVector.isEmpty then return []
  else
    return [(selection.stateKey, DecryptedResource.documentEntry [] stateVector)]

def getStateVectors : NoteTask yrs JsonText := do
  let mainDoc ← getDocStateVector .main
  let imageDoc ← getDocStateVector .image
  let commentDoc ← getDocStateVector .comment
  return .encoded (.object (mainDoc ++ imageDoc ++ commentDoc))

def parsePeer (what : String) (json : JsonText) :
    NoteTask yrs (List (String × Value)) :=
  (Program.ofExcept json.parseObject).mapError
    fun error => "Failed to parse " ++ what ++ ": " ++ error

def describeFor (selection : DocSelection) (peerStateVector : Bytes) :
    NoteTask yrs (List (String × Value)) := do
  let updatesForPeer ← (getDiff selection peerStateVector).mapError fun error =>
    "Failed to generate " ++ selection.stateKey ++ " diff: " ++ error
  let ourStateVector ← getStateVector selection
  return [(selection.stateKey,
    DecryptedResource.documentEntry updatesForPeer ourStateVector)]

def processDocStateVectors (peerData : List (String × Value))
    (selection : DocSelection) : NoteTask yrs (List (String × Value)) :=
  match Value.get (.object peerData) selection.stateKey with
  | none => return []
  | some data =>
      let peerStateVector := DecryptedResource.entryBytes data "state_vector"
      if peerStateVector.isEmpty then return []
      else describeFor selection peerStateVector

def generateUpdatesForPeer (peerStateVectors : JsonText) : NoteTask yrs JsonText := do
  let peerData ← parsePeer "peer state vectors" peerStateVectors
  let mainDoc ← processDocStateVectors peerData .main
  let imageDoc ← processDocStateVectors peerData .image
  return .encoded (.object (mainDoc ++ imageDoc))

def applyPeerDoc (selection : DocSelection) (data : Value) : NoteTask yrs PUnit :=
  let peerUpdates := DecryptedResource.entryBytes data "updates"
  if peerUpdates.isEmpty then return .unit
  else (applyTo selection peerUpdates).mapError fun error =>
    "Failed to apply " ++ selection.stateKey ++ " updates: " ++ error

def processDocUpdatesAndDiff (peerData : List (String × Value))
    (selection : DocSelection) : NoteTask yrs (List (String × Value)) :=
  match Value.get (.object peerData) selection.stateKey with
  | none => return []
  | some data => do
      applyPeerDoc selection data
      let peerStateVector := DecryptedResource.entryBytes data "state_vector"
      if peerStateVector.isEmpty then return []
      else describeFor selection peerStateVector

def applyUpdatesAndGenerateDiff (peerUpdates : JsonText) : NoteTask yrs JsonText := do
  let peerData ← parsePeer "peer updates" peerUpdates
  let mainDoc ← processDocUpdatesAndDiff peerData .main
  let imageDoc ← processDocUpdatesAndDiff peerData .image
  return .encoded (.object (mainDoc ++ imageDoc))

def applyPeerEntry (peerData : List (String × Value)) (selection : DocSelection) :
    NoteTask yrs PUnit :=
  match Value.get (.object peerData) selection.stateKey with
  | none => return .unit
  | some data => applyPeerDoc selection data

def applyPeerUpdates (peerUpdates : JsonText) : NoteTask yrs PUnit := do
  let peerData ← parsePeer "peer updates" peerUpdates
  applyPeerEntry peerData .main
  applyPeerEntry peerData .image

end NoteTask

section Texts

variable {yrs : Yrs}

def DocSelection.exchanged : List DocSelection := [.main, .image]

def DocSelection.exchangedAs {β : Type*} (main image : β) (selection : DocSelection) : β :=
  if selection = .main then main else image

/-- The text has an entry for each exchanged document: the updates for it and
the state vector of the peer's. -/
def Describes (json : JsonText) (updates : DocSelection → Bytes)
    (peer : DocSelection → yrs.Doc) : Prop :=
  ∃ fields, json.parseObject = .ok fields ∧
    ∀ selection ∈ DocSelection.exchanged,
      Value.get (.object fields) selection.stateKey =
        some (DecryptedResource.documentEntry (updates selection)
          (yrs.stateVector (peer selection)))

def entryOf (updates : DocSelection → Bytes) (peer : DocSelection → yrs.Doc)
    (selection : DocSelection) : String × Value :=
  (selection.stateKey, DecryptedResource.documentEntry (updates selection)
    (yrs.stateVector (peer selection)))

theorem describes_entries (updates : DocSelection → Bytes)
    (peer : DocSelection → yrs.Doc) (more : List (String × Value)) :
    Describes (.encoded (.object
      ([entryOf updates peer .main] ++ [entryOf updates peer .image] ++ more)))
      updates peer := by
  refine ⟨_, rfl, fun selection hselection => ?_⟩
  rcases List.mem_pair.mp hselection with rfl | rfl
  · simp [entryOf, Value.get]
  · simp [entryOf, Value.get, DocSelection.stateKey]

theorem describes_of_entries (good : DocSelection → Bytes → yrs.Doc → Prop)
    {mainDoc imageDoc : List (String × Value)}
    (hmain : ∃ updates ours, mainDoc = [(DocSelection.main.stateKey,
      DecryptedResource.documentEntry updates (yrs.stateVector ours))] ∧
        good .main updates ours)
    (himage : ∃ updates ours, imageDoc = [(DocSelection.image.stateKey,
      DecryptedResource.documentEntry updates (yrs.stateVector ours))] ∧
        good .image updates ours) (more : List (String × Value)) :
    ∃ updates ours, Describes (.encoded (.object (mainDoc ++ imageDoc ++ more)))
        updates ours ∧
      ∀ selection ∈ DocSelection.exchanged,
        good selection (updates selection) (ours selection) := by
  obtain ⟨mainUpdates, mainOurs, rfl, hmainGood⟩ := hmain
  obtain ⟨imageUpdates, imageOurs, rfl, himageGood⟩ := himage
  let updates := DocSelection.exchangedAs mainUpdates imageUpdates
  let ours := DocSelection.exchangedAs mainOurs imageOurs
  refine ⟨updates, ours, describes_entries updates ours more,
    fun selection hselection => ?_⟩
  rcases List.mem_pair.mp hselection with rfl | rfl
  · exact hmainGood
  · exact himageGood

end Texts

section Content

variable {yrs : Yrs} {L : Type*} [SemilatticeSup L] [OrderBot L]
variable (lawful : ExactYrs yrs L)

def content (buffers : Buffers yrs) (selection : DocSelection) : L :=
  lawful.state (buffers.doc selection)

@[simp] theorem content_addActive (connectionId : String) (buffers : Buffers yrs) :
    content lawful (buffers.addActive connectionId) = content lawful buffers := by
  funext selection
  simp [content]

end Content

def openNote (main comment : UInt8) : Buffers Yrs.bits :=
  { noteId := some "note", mainDoc := main, imageDoc := (0 : UInt8)
    commentDoc := comment }

end Osvauld.Livnote
