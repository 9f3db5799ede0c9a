import Mathlib.Data.Multiset.Filter
import Osvauld.CryptoUtils.CryptoUtils
import Osvauld.Data.Program

namespace Osvauld.SearchIndexer

open CryptoUtils Data

/-! The search index of a device, over the library that keeps it. -/

inductive IndexError where
  | notInitialized
  | creationError (message : String)
  | encryptionError (cause : CryptoError)
  | decryptionError (message : String) (cause : Option CryptoError)
  | parsingError (message : String)
  | searchError (message : String)
  | ioError (message : String)
  | serializationError (message : String)
  | tantivyError (message : String)
deriving DecidableEq, Repr

structure TantivyDocument where
  resourceId : String
  title : String
  content : String
  folderId : String
  comments : String
deriving DecidableEq, Repr

structure SerializedDocument where
  resourceId : String
  title : String
  content : String
  folderId : String
  comments : List String
deriving DecidableEq, Repr

structure IndexSnapshot where
  documents : List SerializedDocument
  version : UInt32
  encryptedKey : String
deriving DecidableEq, Repr

structure Tantivy (Index : Type) where
  createInRam : Index
  deleteTerm : String → Index → Index
  addDocument : TantivyDocument → Index → Except String Index
  commit : Index → Except String Index
  reload : Index → Except String Index
  /-- The documents that the collector of the best ones has for the query of all. -/
  topDocs : (limit : Nat) → Index → Except String (List TantivyDocument)

abbrev IndexCall (Index α : Type) := Program Index IndexError α

section Operations

variable {Index : Type} (tantivy : Tantivy Index)

def onIndex (write : Index → Except String Index) : IndexCall Index PUnit :=
  Program.write fun index => (write index).mapError .tantivyError

def createNewIndex : IndexCall Index PUnit :=
  onIndex fun _ => .ok tantivy.createInRam

def deleteTerm (resourceId : String) : IndexCall Index PUnit :=
  onIndex fun index => .ok (tantivy.deleteTerm resourceId index)

/-- A document of the resource that is there already goes first. -/
def indexDocument (resourceId title content folderId : String) (comments : List String) :
    IndexCall Index PUnit := do
  deleteTerm tantivy resourceId
  onIndex (tantivy.addDocument
    { resourceId, title, content, folderId, comments := "\n".intercalate comments })

def publish : IndexCall Index PUnit := do
  onIndex tantivy.commit
  onIndex tantivy.reload

def deleteResource (resourceId : String) : IndexCall Index PUnit := do
  deleteTerm tantivy resourceId
  publish tantivy

/-- `split('\n')`, but no comments in an empty text. -/
def splitComments (commentsText : String) : List String :=
  if commentsText.isEmpty then []
  else (commentsText.toList.splitOn '\n').map String.ofList

def TantivyDocument.serialized (document : TantivyDocument) : SerializedDocument :=
  { resourceId := document.resourceId, title := document.title
    content := document.content, folderId := document.folderId
    comments := splitComments document.comments }

def snapshotLimit : Nat := 10000

def extractAllDocuments : IndexCall Index (List SerializedDocument) :=
  Program.read fun index =>
    match tantivy.topDocs snapshotLimit index with
    | .error message =>
        .error (.searchError ("Failed to search documents: " ++ message))
    | .ok documents => .ok (documents.map TantivyDocument.serialized)

def takeSnapshot : IndexCall Index IndexSnapshot := do
  let documents ← extractAllDocuments tantivy
  return { documents, version := 1, encryptedKey := "" }

def restoreFromSnapshot (snapshot : IndexSnapshot) : IndexCall Index PUnit := do
  createNewIndex tantivy
  Program.forEach snapshot.documents fun document =>
    indexDocument tantivy document.resourceId document.title document.content
      document.folderId document.comments
  publish tantivy

end Operations

structure IndexView (Index : Type) where
  written : Index → Multiset TantivyDocument
  committed : Index → Multiset TantivyDocument
  visible : Index → Multiset TantivyDocument

structure Tantivy.Lawful {Index : Type} (tantivy : Tantivy Index) (view : IndexView Index) :
    Prop where
  createInRam : view.written tantivy.createInRam = 0 ∧
    view.committed tantivy.createInRam = 0 ∧ view.visible tantivy.createInRam = 0
  deleteTerm : ∀ resourceId index,
    view.written (tantivy.deleteTerm resourceId index) =
        (view.written index).filter (fun document => document.resourceId ≠ resourceId) ∧
      view.committed (tantivy.deleteTerm resourceId index) = view.committed index ∧
        view.visible (tantivy.deleteTerm resourceId index) = view.visible index
  addDocument : ∀ document index after, tantivy.addDocument document index = .ok after →
    view.written after = document ::ₘ view.written index ∧
      view.committed after = view.committed index ∧
        view.visible after = view.visible index
  commit : ∀ index after, tantivy.commit index = .ok after →
    view.written after = view.written index ∧
      view.committed after = view.written index ∧ view.visible after = view.visible index
  reload : ∀ index after, tantivy.reload index = .ok after →
    view.written after = view.written index ∧
      view.committed after = view.committed index ∧
        view.visible after = view.committed index
  /-- As many as there are, up to the limit. -/
  topDocs : ∀ limit index documents, tantivy.topDocs limit index = .ok documents →
    (documents : Multiset TantivyDocument) ≤ view.visible index ∧
      documents.length = min limit (view.visible index).card

theorem intercalate_splitComments (commentsText : String) :
    "\n".intercalate (splitComments commentsText) = commentsText := by
  unfold splitComments
  split
  · next hempty =>
      rw [String.isEmpty_iff] at hempty
      rw [hempty]
      rfl
  · rw [← String.toList_inj, String.toList_intercalate, List.map_map]
    simp [Function.comp_def]

end Osvauld.SearchIndexer
