import Mathlib.Data.Multiset.Dedup
import Osvauld.Data.Interference
import Osvauld.Data.Run
import Osvauld.SearchIndexer.Operations

namespace Osvauld.SearchIndexer

open Data

/-! What an index holds after it has been restored from its snapshot. -/

inductive IndexEdit where
  | indexDocument (resourceId title content folderId : String) (comments : List String)
  | deleteResource (resourceId : String)
  | restore (snapshot : IndexSnapshot)
deriving DecidableEq, Repr

section Contents

variable {Index : Type} (tantivy : Tantivy Index)

def IndexEdit.call : IndexEdit → IndexCall Index PUnit
  | .indexDocument resourceId title content folderId comments => do
      SearchIndexer.indexDocument tantivy resourceId title content folderId comments
      publish tantivy
  | .deleteResource resourceId => SearchIndexer.deleteResource tantivy resourceId
  | .restore snapshot => restoreFromSnapshot tantivy snapshot

def edited (edits : List IndexEdit) : Index :=
  run (fun edit index => ((edit.call tantivy).run index).2) tantivy.createInRam edits

def newDocument (resourceId title content folderId : String) (comments : List String) :
    TantivyDocument :=
  { resourceId, title, content, folderId, comments := "\n".intercalate comments }

theorem indexDocument_run (resourceId title content folderId : String)
    (comments : List String) (index : Index) :
    (indexDocument tantivy resourceId title content folderId comments).run index =
      match tantivy.addDocument (newDocument resourceId title content folderId comments)
          (tantivy.deleteTerm resourceId index) with
      | .ok after => (.ok .unit, after)
      | .error message =>
          (.error (.tantivyError message), tantivy.deleteTerm resourceId index) := by
  have hdelete : (deleteTerm tantivy resourceId).run index =
      (.ok .unit, tantivy.deleteTerm resourceId index) := rfl
  rw [indexDocument, Program.run_bind, hdelete, Program.andThen_ok, onIndex,
    Program.run_write, newDocument]
  cases tantivy.addDocument
      { resourceId, title, content, folderId, comments := "\n".intercalate comments }
      (tantivy.deleteTerm resourceId index) <;>
    simp [Except.mapError]

variable {tantivy} {view : IndexView Index}

def OnePerResource (documents : Multiset TantivyDocument) : Prop :=
  (documents.map fun document => document.resourceId).Nodup

theorem OnePerResource.nodup {documents : Multiset TantivyDocument}
    (hdocuments : OnePerResource documents) : documents.Nodup :=
  Multiset.Nodup.of_map _ hdocuments

structure Keyed (view : IndexView Index) (index : Index) : Prop where
  written : OnePerResource (view.written index)
  committed : OnePerResource (view.committed index)
  visible : OnePerResource (view.visible index)

def Vacant (view : IndexView Index) (resourceId : String) (index : Index) : Prop :=
  ∀ document ∈ view.written index, document.resourceId ≠ resourceId

theorem onIndex_keeps {invariant : Index → Prop} {write : Index → Except String Index}
    (hwrite : ∀ index after, invariant index → write index = .ok after → invariant after) :
    Program.Keeps invariant (fun _ => True) (onIndex write) :=
  .write fun index after hindex hafter =>
    hwrite index after hindex (mapError_eq_ok.mp hafter)

variable {index after : Index} {reply : PUnit}

theorem onIndex_eq_ok {write : Index → Except String Index}
    (hrun : (onIndex write).run index = (.ok reply, after)) : write index = .ok after := by
  rw [onIndex, Program.run_write] at hrun
  cases hwrite : write index with
  | error message =>
      rw [hwrite] at hrun
      cases hrun
  | ok index' =>
      rw [hwrite] at hrun
      cases hrun
      rfl

variable (hlawful : tantivy.Lawful view)

include hlawful

theorem keyed_createInRam : Keyed view tantivy.createInRam := by
  obtain ⟨hwritten, hcommitted, hvisible⟩ := hlawful.createInRam
  refine ⟨?_, ?_, ?_⟩
  · simp [OnePerResource, hwritten]
  · simp [OnePerResource, hcommitted]
  · simp [OnePerResource, hvisible]

theorem createNewIndex_keeps :
    Program.Keeps (Keyed view) (fun _ => True) (createNewIndex tantivy) :=
  onIndex_keeps fun _ _ _ hafter => Except.ok.inj hafter ▸ keyed_createInRam hlawful

theorem deleteTerm_keyed {resourceId : String} {index : Index} (hkeyed : Keyed view index) :
    Keyed view (tantivy.deleteTerm resourceId index) ∧
      Vacant view resourceId (tantivy.deleteTerm resourceId index) := by
  obtain ⟨hwritten, hcommitted, hvisible⟩ := hlawful.deleteTerm resourceId index
  refine ⟨⟨?_, hcommitted ▸ hkeyed.committed, hvisible ▸ hkeyed.visible⟩, ?_⟩
  · rw [hwritten]
    exact Multiset.nodup_of_le (Multiset.map_le_map (Multiset.filter_le _ _)) hkeyed.written
  · intro document hdocument
    rw [hwritten, Multiset.mem_filter] at hdocument
    exact hdocument.2

theorem deleteTerm_keeps (resourceId : String) :
    Program.Keeps (Keyed view) (fun _ => True) (deleteTerm tantivy resourceId) :=
  onIndex_keeps fun _ _ hkeyed hafter =>
    Except.ok.inj hafter ▸ (deleteTerm_keyed hlawful hkeyed).1

theorem addDocument_keyed {document : TantivyDocument} (hkeyed : Keyed view index)
    (hvacant : Vacant view document.resourceId index)
    (hadd : tantivy.addDocument document index = .ok after) : Keyed view after := by
  obtain ⟨hwritten, hcommitted, hvisible⟩ := hlawful.addDocument document index after hadd
  refine ⟨?_, hcommitted ▸ hkeyed.committed, hvisible ▸ hkeyed.visible⟩
  rw [OnePerResource, hwritten, Multiset.map_cons, Multiset.nodup_cons]
  refine ⟨fun hmem => ?_, hkeyed.written⟩
  obtain ⟨other, hother, hsame⟩ := Multiset.mem_map.mp hmem
  exact hvacant other hother hsame

theorem indexDocument_keeps (resourceId title content folderId : String)
    (comments : List String) :
    Program.Keeps (Keyed view) (fun _ => True)
      (indexDocument tantivy resourceId title content folderId comments) := by
  intro index hkeyed
  obtain ⟨hdeleted, hvacant⟩ := @deleteTerm_keyed _ _ _ hlawful resourceId index hkeyed
  refine ⟨?_, fun _ _ => trivial⟩
  rw [indexDocument_run]
  split
  · next hadd => exact addDocument_keyed hlawful hdeleted hvacant hadd
  · exact hdeleted

theorem publish_keeps : Program.Keeps (Keyed view) (fun _ => True) (publish tantivy) := by
  refine .bind (onIndex_keeps fun index after hkeyed hcommit => ?_) fun _ _ =>
    onIndex_keeps fun index after hkeyed hreload => ?_
  · obtain ⟨hwritten, hcommitted, hvisible⟩ := hlawful.commit index after hcommit
    exact ⟨hwritten ▸ hkeyed.written, hcommitted ▸ hkeyed.written,
      hvisible ▸ hkeyed.visible⟩
  · obtain ⟨hwritten, hcommitted, hvisible⟩ := hlawful.reload index after hreload
    exact ⟨hwritten ▸ hkeyed.written, hcommitted ▸ hkeyed.committed,
      hvisible ▸ hkeyed.committed⟩

theorem call_keeps (edit : IndexEdit) :
    Program.Keeps (Keyed view) (fun _ => True) (edit.call tantivy) := by
  cases edit with
  | indexDocument resourceId title content folderId comments =>
      exact .bind (indexDocument_keeps hlawful _ _ _ _ _) fun _ _ => publish_keeps hlawful
  | deleteResource resourceId =>
      exact .bind (deleteTerm_keeps hlawful resourceId) fun _ _ => publish_keeps hlawful
  | restore snapshot =>
      exact .bind (createNewIndex_keeps hlawful) fun _ _ =>
        .bind (.forEach fun _ _ => indexDocument_keeps hlawful _ _ _ _ _) fun _ _ =>
          publish_keeps hlawful

theorem keyed_edited (edits : List IndexEdit) : Keyed view (edited tantivy edits) := by
  induction edits using List.reverseRecOn with
  | nil => exact keyed_createInRam hlawful
  | append_singleton edits edit ih =>
      rw [edited, run_concat]
      exact ((call_keeps hlawful edit).run ih).1

theorem indexDocument_written {document : TantivyDocument}
    (hvacant : Vacant view document.resourceId index)
    (hrun : (indexDocument tantivy document.resourceId document.title document.content
      document.folderId (splitComments document.comments)).run index = (.ok reply, after)) :
    view.written after = document ::ₘ view.written index := by
  rw [indexDocument_run, newDocument, intercalate_splitComments] at hrun
  obtain ⟨hdeleted, _⟩ := hlawful.deleteTerm document.resourceId index
  split at hrun
  · next after' hadd =>
      cases hrun
      obtain ⟨hwritten, _⟩ := hlawful.addDocument _ _ _ hadd
      rw [hwritten, hdeleted, Multiset.filter_eq_self.mpr hvacant]
  · cases hrun

theorem forEach_written {documents : List TantivyDocument} (honce : OnePerResource documents)
    (hvacant : ∀ document ∈ documents, Vacant view document.resourceId index)
    (hrun : (Program.forEach (documents.map TantivyDocument.serialized) fun document =>
      indexDocument tantivy document.resourceId document.title document.content
        document.folderId document.comments).run index = (.ok reply, after)) :
    view.written after = documents + view.written index := by
  induction documents generalizing index with
  | nil =>
      cases hrun
      simp
  | cons document documents ih =>
      rw [List.map_cons, Program.forEach, Program.run_bind_eq_ok] at hrun
      obtain ⟨_, middle, hfirst, hrest⟩ := hrun
      have hadded : view.written middle = document ::ₘ view.written index :=
        indexDocument_written hlawful (hvacant document List.mem_cons_self) hfirst
      rw [OnePerResource, ← Multiset.cons_coe, Multiset.map_cons, Multiset.nodup_cons]
        at honce
      have hafter := ih honce.2 (fun other hother stored hstored hsame => ?_) hrest
      · rw [hafter, hadded, ← Multiset.cons_coe, Multiset.cons_add, Multiset.add_cons]
      · rw [hadded, Multiset.mem_cons] at hstored
        rcases hstored with rfl | hstored
        · exact honce.1 (Multiset.mem_map.mpr ⟨other, hother, hsame.symm⟩)
        · exact hvacant other (List.mem_cons_of_mem _ hother) stored hstored hsame

theorem publish_visible (hrun : (publish tantivy).run index = (.ok reply, after)) :
    view.visible after = view.written index := by
  rw [publish, Program.run_bind_eq_ok] at hrun
  obtain ⟨_, middle, hcommit, hreload⟩ := hrun
  obtain ⟨_, hcommitted, _⟩ := hlawful.commit _ _ (onIndex_eq_ok hcommit)
  obtain ⟨_, _, hvisible⟩ := hlawful.reload _ _ (onIndex_eq_ok hreload)
  rw [hvisible, hcommitted]

theorem restoreFromSnapshot_visible {documents : List TantivyDocument} {version : UInt32}
    {encryptedKey : String} (honce : OnePerResource documents)
    (hrun : (restoreFromSnapshot tantivy
      { documents := documents.map TantivyDocument.serialized, version
        encryptedKey }).run index = (.ok reply, after)) : view.visible after = documents := by
  have hnew : (createNewIndex tantivy).run index = (.ok .unit, tantivy.createInRam) := rfl
  rw [restoreFromSnapshot, Program.run_bind, hnew, Program.andThen_ok,
    Program.run_bind_eq_ok] at hrun
  obtain ⟨_, middle, hdocuments, hpublish⟩ := hrun
  obtain ⟨hempty, _⟩ := hlawful.createInRam
  have hwritten := forEach_written hlawful honce (fun _ _ stored hstored => by
    rw [hempty] at hstored
    cases hstored) hdocuments
  rw [publish_visible hlawful hpublish, hwritten, hempty, Multiset.add_zero]

theorem takeSnapshot_documents {snapshot : IndexSnapshot}
    (hrun : (takeSnapshot tantivy).run index = (.ok snapshot, after)) :
    ∃ documents : List TantivyDocument,
      snapshot.documents = documents.map TantivyDocument.serialized ∧
        (documents : Multiset TantivyDocument) ≤ view.visible index ∧
          documents.length = min snapshotLimit (view.visible index).card := by
  rw [takeSnapshot, Program.run_bind_eq_ok] at hrun
  obtain ⟨serialized, middle, hextract, hsnapshot⟩ := hrun
  cases hsnapshot
  rw [extractAllDocuments, Program.run_read] at hextract
  cases htop : tantivy.topDocs snapshotLimit index with
  | error message =>
      rw [htop] at hextract
      cases hextract
  | ok documents =>
      rw [htop] at hextract
      cases hextract
      obtain ⟨hstored, hlength⟩ := hlawful.topDocs _ _ _ htop
      exact ⟨documents, rfl, hstored, hlength⟩

theorem restored_contents {edits : List IndexEdit} {other : Index} {snapshot : IndexSnapshot}
    (htake : ((takeSnapshot tantivy).run (edited tantivy edits)).1 = .ok snapshot)
    (hrestore : (restoreFromSnapshot tantivy snapshot).run other = (.ok .unit, after)) :
    view.visible after ≤ view.visible (edited tantivy edits) ∧
      (view.visible after).card =
        min snapshotLimit (view.visible (edited tantivy edits)).card := by
  obtain ⟨documents, hserialized, hstored, hlength⟩ :=
    takeSnapshot_documents hlawful (Prod.ext htake rfl)
  have honce : OnePerResource documents :=
    Multiset.nodup_of_le (Multiset.map_le_map hstored) (keyed_edited hlawful edits).visible
  obtain ⟨snapshotDocuments, version, encryptedKey⟩ := snapshot
  cases hserialized
  rw [restoreFromSnapshot_visible hlawful honce hrestore, Multiset.coe_card]
  exact ⟨hstored, hlength⟩

omit hlawful in
theorem same_documents_iff {documents stored : Multiset TantivyDocument}
    (honce : OnePerResource stored) (hstored : documents ≤ stored) :
    (∀ document, document ∈ documents ↔ document ∈ stored) ↔
      documents.card = stored.card := by
  rw [← Multiset.Nodup.ext (Multiset.nodup_of_le hstored honce.nodup) honce.nodup]
  constructor
  · rintro rfl
    rfl
  · intro hcard
    exact Multiset.eq_of_le_of_card_le hstored (Nat.le_of_eq hcard.symm)

/-- The index that is restored from a snapshot holds what the index it was taken of
held, unless that was more than a snapshot takes. -/
theorem restored_iff {edits : List IndexEdit} {other after : Index}
    {snapshot : IndexSnapshot}
    (htake : ((takeSnapshot tantivy).run (edited tantivy edits)).1 = .ok snapshot)
    (hrestore : (restoreFromSnapshot tantivy snapshot).run other = (.ok .unit, after)) :
    (∀ document, document ∈ view.visible after ↔
        document ∈ view.visible (edited tantivy edits)) ↔
      (view.visible (edited tantivy edits)).card ≤ snapshotLimit := by
  obtain ⟨hstored, hcard⟩ := restored_contents hlawful htake hrestore
  rw [same_documents_iff (keyed_edited hlawful edits).visible hstored, hcard]
  exact min_eq_right_iff

end Contents

section Works

variable {Index : Type} {tantivy : Tantivy Index}

structure Tantivy.Works (tantivy : Tantivy Index) : Prop where
  addDocument : ∀ document index, ∃ after, tantivy.addDocument document index = .ok after
  commit : ∀ index, ∃ after, tantivy.commit index = .ok after
  reload : ∀ index, ∃ after, tantivy.reload index = .ok after

theorem onIndex_succeeds {write : Index → Except String Index}
    (hwrite : ∀ index, ∃ after, write index = .ok after) :
    Program.Succeeds (onIndex write) := by
  refine .atomically fun index => ?_
  obtain ⟨after, hafter⟩ := hwrite index
  exact ⟨.unit, by simp [hafter, Except.mapError]⟩

theorem restoreFromSnapshot_succeeds (hworks : tantivy.Works) (snapshot : IndexSnapshot) :
    Program.Succeeds (restoreFromSnapshot tantivy snapshot) := by
  refine .bind (onIndex_succeeds fun _ => ⟨_, rfl⟩) fun _ => .bind ?_ fun _ =>
    .bind (onIndex_succeeds hworks.commit) fun _ => onIndex_succeeds hworks.reload
  induction snapshot.documents with
  | nil => exact .ok
  | cons document documents ih =>
      exact .bind (.bind (onIndex_succeeds fun _ => ⟨_, rfl⟩) fun _ =>
        onIndex_succeeds (hworks.addDocument _)) fun _ => ih

end Works

structure TextIndex where
  written : List TantivyDocument
  committed : List TantivyDocument
  visible : List TantivyDocument
deriving DecidableEq, Repr

def textTantivy : Tantivy TextIndex :=
  { createInRam := { written := [], committed := [], visible := [] }
    deleteTerm := fun resourceId index =>
      { index with
        written := index.written.filter fun document => document.resourceId ≠ resourceId }
    addDocument := fun document index =>
      .ok { index with written := index.written ++ [document] }
    commit := fun index => .ok { index with committed := index.written }
    reload := fun index => .ok { index with visible := index.committed }
    topDocs := fun limit index => .ok (index.visible.take limit) }

def textView : IndexView TextIndex :=
  { written := fun index => index.written
    committed := fun index => index.committed
    visible := fun index => index.visible }

theorem textTantivy_lawful : textTantivy.Lawful textView where
  createInRam := ⟨rfl, rfl, rfl⟩
  deleteTerm := fun _ _ => ⟨rfl, rfl, rfl⟩
  addDocument := by
    rintro document index _ ⟨⟩
    exact ⟨Multiset.coe_eq_coe.mpr (List.perm_append_singleton _ _), rfl, rfl⟩
  commit := by
    rintro index _ ⟨⟩
    exact ⟨rfl, rfl, rfl⟩
  reload := by
    rintro index _ ⟨⟩
    exact ⟨rfl, rfl, rfl⟩
  topDocs := by
    rintro limit index _ ⟨⟩
    exact ⟨Multiset.coe_le.mpr (List.take_sublist _ _).subperm, List.length_take⟩

theorem textTantivy_works : textTantivy.Works where
  addDocument := fun _ _ => ⟨_, rfl⟩
  commit := fun _ => ⟨_, rfl⟩
  reload := fun _ => ⟨_, rfl⟩

def noteEdits : List IndexEdit :=
  [.indexDocument "a" "Groceries" "milk bread" "home" ["oat\nmilk", ""],
    .indexDocument "b" "" "" "home" [], .deleteResource "c",
    .indexDocument "a" "Groceries" "bread" "home" ["\n"]]

def noteSnapshot : IndexSnapshot :=
  { documents :=
      [{ resourceId := "b", title := "", content := "", folderId := "home"
         comments := [] },
        { resourceId := "a", title := "Groceries", content := "bread"
          folderId := "home", comments := ["", ""] }]
    version := 1, encryptedKey := "" }

def noteIndex : TextIndex :=
  ((restoreFromSnapshot textTantivy noteSnapshot).run textTantivy.createInRam).2

theorem restored_noteEdits :
    (∀ document, document ∈ textView.visible noteIndex ↔
        document ∈ textView.visible (edited textTantivy noteEdits)) ↔
      (textView.visible (edited textTantivy noteEdits)).card ≤ snapshotLimit := by
  have htake : ((takeSnapshot textTantivy).run (edited textTantivy noteEdits)).1 =
      .ok noteSnapshot := by decide +kernel
  have hrestore : (restoreFromSnapshot textTantivy noteSnapshot).run
      textTantivy.createInRam = (.ok .unit, noteIndex) := rfl
  exact restored_iff textTantivy_lawful htake hrestore

def countedId (number : Nat) : String := String.ofList (List.replicate number 'a')

def countedEdits (count : Nat) : List IndexEdit :=
  (List.range count).map fun number => .indexDocument (countedId number) "" "" "" []

def countedDocuments (count : Nat) : List TantivyDocument :=
  (List.range count).map fun number => newDocument (countedId number) "" "" "" []

theorem countedId_injective {number other : Nat}
    (hsame : countedId number = countedId other) : number = other := by
  have hlength := congrArg (fun id => id.toList.length) hsame
  simpa [countedId] using hlength

theorem edited_countedEdits (count : Nat) :
    edited textTantivy (countedEdits count) =
      { written := countedDocuments count, committed := countedDocuments count
        visible := countedDocuments count } := by
  induction count with
  | zero => rfl
  | succ count ih =>
      have hkept : (countedDocuments count).filter
          (fun document => document.resourceId ≠ countedId count) =
            countedDocuments count := by
        refine List.filter_eq_self.mpr fun document hdocument => ?_
        obtain ⟨number, hnumber, rfl⟩ := List.mem_map.mp hdocument
        refine decide_eq_true fun hsame => ?_
        exact Nat.ne_of_lt (List.mem_range.mp hnumber) (countedId_injective hsame)
      have hdocuments : countedDocuments (count + 1) =
          countedDocuments count ++ [newDocument (countedId count) "" "" "" []] := by
        simp [countedDocuments, List.range_succ]
      have hedits : countedEdits (count + 1) =
          countedEdits count ++ [.indexDocument (countedId count) "" "" "" []] := by
        simp [countedEdits, List.range_succ]
      have hrun : ∀ documents, (((IndexEdit.indexDocument (countedId count) "" "" ""
          []).call textTantivy).run { written := documents, committed := documents
                                      visible := documents }).2 =
          let written := documents.filter
            (fun document => document.resourceId ≠ countedId count) ++
              [newDocument (countedId count) "" "" "" []]
          { written, committed := written, visible := written } := fun _ => rfl
      rw [hedits, edited, run_concat, ← edited, ih, hrun, hkept, hdocuments]

/-- One document more than a snapshot takes is not there afterwards. -/
theorem not_restored_countedEdits :
    ∃ snapshot after, ((takeSnapshot textTantivy).run
        (edited textTantivy (countedEdits 10001))).1 = .ok snapshot ∧
      (restoreFromSnapshot textTantivy snapshot).run textTantivy.createInRam =
          (.ok .unit, after) ∧
        ¬ ∀ document, document ∈ textView.visible after ↔
          document ∈ textView.visible (edited textTantivy (countedEdits 10001)) := by
  obtain ⟨snapshot, htake⟩ : ∃ snapshot, ((takeSnapshot textTantivy).run
      (edited textTantivy (countedEdits 10001))).1 = .ok snapshot := ⟨_, rfl⟩
  obtain ⟨_, hrestore⟩ := (restoreFromSnapshot_succeeds textTantivy_works snapshot).run
    textTantivy.createInRam
  have hrun : (restoreFromSnapshot textTantivy snapshot).run textTantivy.createInRam =
      (.ok .unit, ((restoreFromSnapshot textTantivy snapshot).run
        textTantivy.createInRam).2) := Prod.ext hrestore rfl
  refine ⟨snapshot, _, htake, hrun, ?_⟩
  have hstored : (textView.visible (edited textTantivy (countedEdits 10001))).card = 10001 := by
    rw [edited_countedEdits]
    simp [textView, countedDocuments]
  obtain ⟨hwithin, hcard⟩ := restored_contents textTantivy_lawful htake hrun
  rw [same_documents_iff (keyed_edited textTantivy_lawful _).visible hwithin, hcard, hstored]
  decide

end Osvauld.SearchIndexer
