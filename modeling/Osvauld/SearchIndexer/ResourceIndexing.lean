import Osvauld.Data.PendingWrites
import Osvauld.SearchIndexer.SnapshotRoundTrip

namespace Osvauld.SearchIndexer

open Osvauld.Core Data

/-! What of a note goes into the index, and how it gets there. -/

inductive ContentEvent where
  | start (name : String)
  | text (content : String)
  | finish (name : String)
  | ignored

structure ContentLibraries where
  Update : Type
  Doc : Type
  decodeV2 : Bytes → Except String Update
  applyUpdate : Update → Except String Doc
  prosemirror : Doc → String
  replyContents : Doc → List String
  readXml : String → List (Except String ContentEvent)

structure ContentExtractor where
  libraries : ContentLibraries
  yjsFieldName : String

structure TextState where
  content : List String := []
  title : String := ""
  isFirstParagraph : Bool := true
  currentText : String := ""
  inTextNode : Bool := false

def isParagraph (name : String) : Bool := name ∈ ["paragraph", "heading"]

def TextState.read (state : TextState) (event : ContentEvent) : TextState :=
  match event with
  | .start name =>
      if isParagraph name then { state with inTextNode := true, currentText := "" }
      else if name = "text" then { state with inTextNode := true }
      else state
  | .text content =>
      if state.inTextNode then { state with currentText := state.currentText ++ content }
      else state
  | .finish name =>
      if isParagraph name then
        let closed := { state with inTextNode := false, currentText := "" }
        if state.currentText.isEmpty then closed
        else
          let named :=
            if state.isFirstParagraph && state.title.isEmpty then
              { closed with title := state.currentText, isFirstParagraph := false }
            else closed
          { named with content := state.content ++ [state.currentText] }
      else if name = "text" then { state with inTextNode := false }
      else state
  | .ignored => state

def untitled : String := "Untitled Note"

namespace ContentExtractor

variable (extractor : ContentExtractor)

def extractTextFromProsemirrorXml (xml : String) : Except IndexError (String × String) := do
  let events ← (extractor.libraries.readXml xml).mapM fun event =>
    event.mapError fun message => .parsingError ("Error parsing XML: " ++ message)
  let state := events.foldl TextState.read {}
  return (" ".intercalate state.content, if state.title.isEmpty then untitled else state.title)

def readDoc (bytes : Bytes) (applyFailure : String) :
    Except IndexError extractor.libraries.Doc := do
  let update ← (extractor.libraries.decodeV2 bytes).mapError .parsingError
  (extractor.libraries.applyUpdate update).mapError fun message =>
    .parsingError (applyFailure ++ message)

def extractCommentsFromCommentState (noteContent : Value) : Except IndexError (List String) :=
  match (noteContent.get "comment_state").bind Value.asArray with
  | none => .ok []
  | some [] => .ok []
  | some items => do
      let commentBytes := (Value.array items).asBytes.getD []
      let commentDoc ← extractor.readDoc commentBytes "Failed to apply comment update: "
      let texts ← (extractor.libraries.replyContents commentDoc).mapM fun xml =>
        (extractor.extractTextFromProsemirrorXml xml).map Prod.fst
      return texts.filter fun text => !text.isEmpty

def jsonTitle (noteContent : Value) : String :=
  match noteContent.get "title" with
  | some (.string title) => title
  | _ => untitled

def extractContentFromNote (noteContent : Value) :
    Except IndexError (String × String × List String) :=
  match (noteContent.get extractor.yjsFieldName).bind Value.asBytes with
  | none => .error (.parsingError
      (extractor.yjsFieldName ++ " field not found or not an array"))
  | some yjsBytes => do
      let ydoc ← extractor.readDoc yjsBytes "Failed to apply update: "
      let (content, extractedTitle) ← extractor.extractTextFromProsemirrorXml
        (extractor.libraries.prosemirror ydoc)
      let comments ← extractor.extractCommentsFromCommentState noteContent
      let finalTitle := if jsonTitle noteContent = untitled then extractedTitle
        else jsonTitle noteContent
      return (content, finalTitle, comments)

def documentFor? (resourceId : String) (noteContent : Value) (folderId : String) :
    Option TantivyDocument :=
  match extractor.extractContentFromNote noteContent with
  | .ok (content, title, comments) =>
      some (newDocument resourceId title content folderId comments)
  | .error _ => none

theorem documentFor?_resourceId {extractor : ContentExtractor} {resourceId folderId : String}
    {noteContent : Value} {document : TantivyDocument}
    (hdocument : extractor.documentFor? resourceId noteContent folderId = some document) :
    document.resourceId = resourceId := by
  unfold documentFor? at hdocument
  split at hdocument
  · cases hdocument
    rfl
  · cases hdocument

end ContentExtractor

namespace SearchIndexManager

variable {Index : Type} (tantivy : Tantivy Index) (extractor : ContentExtractor)

def withWriter (call : IndexCall Index PUnit) : Program (Option Index) IndexError PUnit :=
  Program.atomically fun index =>
    match index with
    | none => (.error .notInitialized, none)
    | some index => ((call.run index).1, some (call.run index).2)

def indexResource (resourceId : String) (noteContent : Value) (folderId : String) :
    Program (Option Index) IndexError PUnit := do
  let (content, title, comments) ←
    Program.ofExcept (extractor.extractContentFromNote noteContent)
  withWriter (do
    indexDocument tantivy resourceId title content folderId comments
    publish tantivy)

def updateResource (resourceId : String) (noteContent : Value) (folderId : String) :
    Program (Option Index) IndexError PUnit :=
  indexResource tantivy extractor resourceId noteContent folderId

variable {tantivy} {extractor} {view : IndexView Index}

def Synced (view : IndexView Index) (index : Index) : Prop :=
  view.written index = view.visible index

def shown (view : IndexView Index) (index : Index) : Set TantivyDocument :=
  {document | document ∈ view.visible index}

theorem updateResource_passed {resourceId folderId : String} {noteContent : Value}
    (hnone : extractor.documentFor? resourceId noteContent folderId = none)
    (index : Option Index) :
    ((updateResource tantivy extractor resourceId noteContent folderId).run index).2 =
      index := by
  unfold ContentExtractor.documentFor? at hnone
  rw [updateResource, indexResource, Program.run_bind, Program.run_ofExcept]
  cases hextract : extractor.extractContentFromNote noteContent with
  | ok extracted =>
      rw [hextract] at hnone
      cases hnone
  | error error => rfl

theorem updateResource_shown (hlawful : tantivy.Lawful view) (hworks : tantivy.Works)
    {resourceId folderId : String} {noteContent : Value} {document : TantivyDocument}
    (hdocument : extractor.documentFor? resourceId noteContent folderId = some document)
    {index : Index} (hsynced : Synced view index) :
    ∃ after, ((updateResource tantivy extractor resourceId noteContent folderId).run
        (some index)).2 = some after ∧ Synced view after ∧
      shown view after =
        putEntry TantivyDocument.resourceId document (shown view index) := by
  unfold ContentExtractor.documentFor? at hdocument
  rw [updateResource, indexResource, Program.run_bind, Program.run_ofExcept]
  cases hextract : extractor.extractContentFromNote noteContent with
  | error error =>
      rw [hextract] at hdocument
      cases hdocument
  | ok extracted =>
      obtain ⟨content, title, comments⟩ := extracted
      rw [hextract] at hdocument
      cases hdocument
      obtain ⟨added, hadded⟩ := hworks.addDocument
        (newDocument resourceId title content folderId comments)
        (tantivy.deleteTerm resourceId index)
      obtain ⟨committed, hcommitted⟩ := hworks.commit added
      obtain ⟨after, hafter⟩ := hworks.reload committed
      have hrun : (indexDocument tantivy resourceId title content folderId comments).run index =
          (.ok .unit, added) := by
        rw [indexDocument_run, hadded]
      have hpublish : (publish tantivy).run added = (.ok .unit, after) := by
        rw [publish, Program.run_bind, onIndex, Program.run_write, hcommitted]
        simp only [Except.mapError, Program.andThen_ok, onIndex, Program.run_write, hafter]
      obtain ⟨hdeleted, -, -⟩ := hlawful.deleteTerm resourceId index
      obtain ⟨hwritten, -, -⟩ := hlawful.addDocument _ _ _ hadded
      obtain ⟨hkept, hcommits, -⟩ := hlawful.commit _ _ hcommitted
      obtain ⟨hkept', -, hvisible⟩ := hlawful.reload _ _ hafter
      refine ⟨after, ?_, ?_, ?_⟩
      · rw [Program.andThen_ok]
        dsimp only
        rw [withWriter, Program.run_atomically]
        dsimp only
        rw [Program.run_bind, hrun, Program.andThen_ok, hpublish]
      · rw [Synced, hkept', hkept, hvisible, hcommits]
      · ext other
        rw [mem_putEntry, shown, shown, Set.mem_ofPred_eq, Set.mem_ofPred_eq, hvisible,
          hcommits, hwritten, hdeleted, Multiset.mem_cons, Multiset.mem_filter, hsynced]
        rfl

end SearchIndexManager

end Osvauld.SearchIndexer
