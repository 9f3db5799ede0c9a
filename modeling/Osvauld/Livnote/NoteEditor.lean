import Mathlib.Logic.Function.Basic
import Osvauld.Livnote.CurrentNoteState

namespace Osvauld.Livnote

open Osvauld.Core

/-! The front end: the open note, the documents of its editor, and the functions
that wait, cut where they do. The timers of the event loop are all due at once,
so that they run in the order they were set. -/

abbrev NoteContent := DocSelection → Bytes

structure Note where
  id : String
  data : NoteContent

structure NoteSwitch where
  noteId : String
  finished : Bool := false
deriving DecidableEq, Repr

inductive NoteTimer where
  | loadNote
  /-- The images and the comments of a note whose main document was loaded. -/
  | deferImageLoading (note : Note)

/-- An image whose dimensions are waited for. The note is no part of the call: it
is the one whose documents the editor had then. -/
structure PendingImage where
  noteId : Option String
  update : Bytes
  finished : Bool := false
deriving DecidableEq, Repr

structure NoteSave where
  noteId : String
  content : NoteContent
  /-- Not in the source: the resources whose synced updates the documents had. -/
  received : List String

/-- A payload of the backend. The source is no part of it: it is the resource
that the updates are for. -/
structure DocumentUpdates where
  resourceId : String
  updates : JsonText
  source : String

structure NoteEditor (yjs : Yrs) where
  currentNoteId : Option String := none
  currentNoteData : Option Note := none
  docs : DocSelection → yjs.Doc := fun _ => yjs.new
  /-- What `loadNote` waits for the main document to change with. -/
  onMainReady : Option Note := none
  editorReady : Bool := false
  switches : List NoteSwitch := []
  effectPending : Bool := false
  timers : List NoteTimer := []
  storing : List PendingImage := []
  saves : List NoteSave := []
  noteChanges : List (Option String) := []
  /-- Not in the source, and read by no function: the note that the documents
  were made for, and the resources whose synced updates they took. -/
  docsNote : Option String := none
  received : List String := []

def truthy (noteId : Option String) : Option String := noteId.filter (· ≠ "")

variable {yjs : Yrs}

namespace NoteEditor

def setCurrentNoteId (noteId : Option String) (editor : NoteEditor yjs) :
    NoteEditor yjs :=
  { editor with
    currentNoteId := noteId
    effectPending := editor.effectPending || decide (noteId ≠ editor.currentNoteId) }

def handleMainDocReady (editor : NoteEditor yjs) : NoteEditor yjs :=
  match editor.onMainReady with
  | none => editor
  | some note =>
      { editor with
        onMainReady := none, editorReady := true
        timers := editor.timers ++ [.deferImageLoading note] }

def setDoc (selection : DocSelection) (doc : yjs.Doc) (editor : NoteEditor yjs) :
    NoteEditor yjs :=
  { editor with docs := Function.update editor.docs selection doc }

def applyUpdate (update : Bytes) (selection : DocSelection) (editor : NoteEditor yjs) :
    Except String (NoteEditor yjs) :=
  (yjs.applyUpdate (editor.docs selection) update).map fun doc =>
    match selection with
    | .main => (editor.setDoc .main doc).handleMainDocReady
    | other => editor.setDoc other doc

/-- An error ends the function that it is in. -/
def orUnchanged (editor : NoteEditor yjs) (result : Except String (NoteEditor yjs)) :
    NoteEditor yjs :=
  match result with
  | .ok changed => changed
  | .error _ => editor

def initializeDocs (note : Note) (editor : NoteEditor yjs) : NoteEditor yjs :=
  { editor with
    docs := fun _ => yjs.new, onMainReady := some note
    docsNote := some note.id, received := [] }

def loadNote (editor : NoteEditor yjs) : NoteEditor yjs :=
  match editor.currentNoteData with
  | none => editor
  | some note =>
      let editor := editor.initializeDocs note
      editor.orUnchanged (editor.applyUpdate (note.data .main) .main)

def deferCommentLoading (note : Note) (editor : NoteEditor yjs) : NoteEditor yjs :=
  if (note.data .comment).isEmpty then editor
  else editor.orUnchanged (editor.applyUpdate (note.data .comment) .comment)

/-- The comments are not reached when the images cannot be applied. -/
def deferImageLoading (note : Note) (editor : NoteEditor yjs) : NoteEditor yjs :=
  if (note.data .image).isEmpty then editor.deferCommentLoading note
  else
    match editor.applyUpdate (note.data .image) .image with
    | .ok loaded => loaded.deferCommentLoading note
    | .error _ => editor

def runTimer (editor : NoteEditor yjs) : NoteEditor yjs :=
  match editor.timers with
  | [] => editor
  | .loadNote :: timers => { editor with timers }.loadNote
  | .deferImageLoading note :: timers => { editor with timers }.deferImageLoading note

def runEffect (editor : NoteEditor yjs) : NoteEditor yjs :=
  if editor.effectPending then
    { editor with
      effectPending := false
      timers := match truthy editor.currentNoteId with
        | some _ => editor.timers ++ [.loadNote]
        | none => editor.timers }
  else editor

def createNoteContent (editor : NoteEditor yjs) : NoteContent :=
  fun selection => yjs.stateAsUpdate (editor.docs selection)

/-- The content is encoded at once; without a state of the editor it fails. -/
def saveNote (noteId : String) (editor : NoteEditor yjs) : NoteEditor yjs :=
  if editor.editorReady then
    { editor with
      saves := editor.saves ++
        [{ noteId, content := editor.createNoteContent, received := editor.received }] }
  else editor

def saveCurrentNote (editor : NoteEditor yjs) : NoteEditor yjs :=
  match truthy editor.currentNoteId with
  | some noteId => editor.saveNote noteId
  | none => editor

def clearCurrentNote (editor : NoteEditor yjs) : NoteEditor yjs :=
  { editor.setCurrentNoteId none with currentNoteData := none }

def switchNote (noteId : Option String) (editor : NoteEditor yjs) : NoteEditor yjs :=
  let editor := if editor.currentNoteId = noteId then editor else editor.saveCurrentNote
  let editor := { editor with noteChanges := editor.noteChanges ++ [noteId] }
  match truthy noteId with
  | some noteId => { editor with switches := editor.switches ++ [⟨noteId, false⟩] }
  | none => editor.clearCurrentNote

def finishSwitch (index : Nat) (editor : NoteEditor yjs) : NoteEditor yjs :=
  { editor with
    switches := editor.switches.modify index fun call => { call with finished := true } }

def switchAnswered (index : Nat) (answer : Option NoteContent) (editor : NoteEditor yjs) :
    NoteEditor yjs :=
  match editor.switches[index]? with
  | some ⟨noteId, false⟩ =>
      match answer with
      | none => editor.finishSwitch index
      | some data =>
          { (editor.finishSwitch index).setCurrentNoteId (some noteId) with
            currentNoteData := some { id := noteId, data } }
  | _ => editor

def edit (selection : DocSelection) (update : Bytes) (editor : NoteEditor yjs) :
    NoteEditor yjs :=
  editor.orUnchanged (editor.applyUpdate update selection)

def storeImage (update : Bytes) (editor : NoteEditor yjs) : NoteEditor yjs :=
  match editor.docsNote with
  | none => editor
  | some noteId =>
      { editor with storing := editor.storing ++ [{ noteId := some noteId, update }] }

def imageMeasured (index : Nat) (editor : NoteEditor yjs) : NoteEditor yjs :=
  match editor.storing[index]? with
  | some ⟨_, update, false⟩ =>
      { editor.edit .image update with
        storing := editor.storing.modify index fun image => { image with finished := true } }
  | _ => editor

/-- The sender's id is not where it is looked for, so that no update is left out as
the program's own. -/
def applyDocumentUpdates (updates : JsonText) (editor : NoteEditor yjs) :
    NoteEditor yjs :=
  match updates.parseObject with
  | .error _ => editor
  | .ok fields =>
      match Value.get (.object fields) "image_state", Value.get (.object fields) "main_doc" with
      | some imageState, some mainDoc =>
          match editor.applyUpdate (DecryptedResource.entryBytes imageState "updates")
              .image with
          | .error _ => editor
          | .ok editor => editor.orUnchanged
              (editor.applyUpdate (DecryptedResource.entryBytes mainDoc "updates") .main)
      | _, _ => editor

def handleDocumentUpdates (payload : DocumentUpdates) (editor : NoteEditor yjs) :
    NoteEditor yjs :=
  if editor.currentNoteId = some payload.resourceId then
    { editor.applyDocumentUpdates payload.updates with
      received := editor.received ++ [payload.source] }
  else editor

end NoteEditor

inductive EditorEvent where
  | switchNote (noteId : Option String)
  | switchAnswered (index : Nat) (answer : Option NoteContent)
  | runEffect
  | runTimer
  | edit (selection : DocSelection) (update : Bytes)
  | storeImage (update : Bytes)
  | imageMeasured (index : Nat)
  | saveNote

def NoteEditor.step (event : EditorEvent) (editor : NoteEditor yjs) : NoteEditor yjs :=
  match event with
  | .switchNote noteId => editor.switchNote noteId
  | .switchAnswered index answer => editor.switchAnswered index answer
  | .runEffect => editor.runEffect
  | .runTimer => editor.runTimer
  | .edit selection update => editor.edit selection update
  | .storeImage update => editor.storeImage update
  | .imageMeasured index => editor.imageMeasured index
  | .saveNote => editor.saveCurrentNote

end Osvauld.Livnote
