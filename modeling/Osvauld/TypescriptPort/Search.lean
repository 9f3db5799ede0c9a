import Mathlib.Data.Rat.Defs
import Osvauld.TypescriptPort.Documents

namespace Osvauld.TypescriptPort

open Data

/-! `SearchIndexer`: a map of the indexed documents beside a MiniSearch index. -/

structure IndexedDocument where
  id : String
  title : String
  content : String
  tags : List String
  ownerId : String
  folderId : OptionalKey String
deriving DecidableEq

def toIndexedDocument (document : Document) (content : String) : IndexedDocument :=
  { id := document.id, title := document.title, content, tags := document.tags
    ownerId := document.ownerId, folderId := document.folderId }

structure IndexedDocuments where
  docs : List IndexedDocument
  nodup : (docs.map IndexedDocument.id).Nodup
deriving DecidableEq

namespace IndexedDocuments

def empty : IndexedDocuments := ⟨[], List.nodup_nil⟩

def ids (documents : IndexedDocuments) : List String :=
  documents.docs.map IndexedDocument.id

def push (doc : IndexedDocument) (documents : IndexedDocuments) (hnew : doc.id ∉ documents.ids) :
    IndexedDocuments where
  docs := documents.docs ++ [doc]
  nodup := by
    rw [List.map_append, List.map_singleton, List.nodup_append]
    refine ⟨documents.nodup, List.nodup_singleton _, fun id hid other hother heq => ?_⟩
    exact hnew (List.mem_singleton.mp hother ▸ heq ▸ hid)

theorem map_id_replace (doc : IndexedDocument) (docs : List IndexedDocument) :
    (docs.map fun other => if other.id = doc.id then doc else other).map IndexedDocument.id =
      docs.map IndexedDocument.id := by
  rw [List.map_map]
  refine List.map_congr_left fun other _ => ?_
  by_cases hid : other.id = doc.id
  · simp [hid]
  · simp [hid]

def replace (doc : IndexedDocument) (documents : IndexedDocuments) : IndexedDocuments where
  docs := documents.docs.map fun other => if other.id = doc.id then doc else other
  nodup := (map_id_replace doc documents.docs).symm ▸ documents.nodup

/-- `Map.set`. -/
def set (doc : IndexedDocument) (documents : IndexedDocuments) : IndexedDocuments :=
  if hnew : doc.id ∉ documents.ids then documents.push doc hnew else documents.replace doc

/-- `Map.delete`. -/
def delete (id : String) (documents : IndexedDocuments) : IndexedDocuments where
  docs := documents.docs.filter fun doc => doc.id ≠ id
  nodup := documents.nodup.sublist (List.filter_sublist.map _)

/-- `MiniSearch.add`. -/
def add (doc : IndexedDocument) (documents : IndexedDocuments) :
    Except PortError IndexedDocuments :=
  if hnew : doc.id ∉ documents.ids then .ok (documents.push doc hnew)
  else .error (.error ("MiniSearch: duplicate ID " ++ doc.id))

/-- `MiniSearch.discard`. -/
def discard (id : String) (documents : IndexedDocuments) : Except PortError IndexedDocuments :=
  if id ∈ documents.ids then .ok (documents.delete id)
  else .error (.error ("MiniSearch: cannot discard document with ID " ++ id ++
    ": it is not in the index"))

variable {documents : IndexedDocuments} {doc : IndexedDocument} {id : String}

theorem ext_docs {other : IndexedDocuments} :
    other = documents ↔ other.docs = documents.docs := by
  cases other
  cases documents
  simp

@[simp] theorem mem_ids_empty : id ∉ empty.ids := by simp [empty, ids]

@[simp] theorem mem_ids_push {hnew : doc.id ∉ documents.ids} :
    id ∈ (documents.push doc hnew).ids ↔ id = doc.id ∨ id ∈ documents.ids := by
  rw [push, ids, List.map_append, List.mem_append, List.map_singleton, List.mem_singleton, or_comm]
  rfl

@[simp] theorem ids_replace : (documents.replace doc).ids = documents.ids :=
  map_id_replace doc documents.docs

@[simp] theorem mem_ids_set :
    id ∈ (documents.set doc).ids ↔ id = doc.id ∨ id ∈ documents.ids := by
  unfold set
  split
  · exact mem_ids_push
  · next hold =>
      rw [ids_replace]
      refine ⟨.inr, ?_⟩
      rintro (rfl | hmem)
      · exact not_not.mp hold
      · exact hmem

@[simp] theorem mem_ids_delete {removed : String} :
    id ∈ (documents.delete removed).ids ↔ id ∈ documents.ids ∧ id ≠ removed := by
  simp only [ids, delete, List.mem_map, List.mem_filter, decide_eq_true_eq]
  constructor
  · rintro ⟨doc, ⟨hdoc, hne⟩, rfl⟩
    exact ⟨⟨doc, hdoc, rfl⟩, hne⟩
  · rintro ⟨⟨doc, hdoc, rfl⟩, hne⟩
    exact ⟨doc, ⟨hdoc, hne⟩, rfl⟩

theorem mem_ids_delete_push (hold : doc.id ∈ documents.ids)
    {hnew : doc.id ∉ (documents.delete doc.id).ids} :
    id ∈ ((documents.delete doc.id).push doc hnew).ids ↔ id ∈ documents.ids := by
  rw [mem_ids_push, mem_ids_delete]
  by_cases hid : id = doc.id
  · simp [hid, hold]
  · simp [hid]

theorem add_of_not_mem (hnew : doc.id ∉ documents.ids) :
    documents.add doc = .ok (documents.push doc hnew) := dif_pos hnew

theorem add_of_mem (hold : doc.id ∈ documents.ids) :
    documents.add doc = .error (.error ("MiniSearch: duplicate ID " ++ doc.id)) :=
  dif_neg (not_not.mpr hold)

theorem discard_of_mem (hid : id ∈ documents.ids) :
    documents.discard id = .ok (documents.delete id) := if_pos hid

theorem discard_of_not_mem (hid : id ∉ documents.ids) :
    documents.discard id = .error (.error ("MiniSearch: cannot discard document with ID " ++ id ++
      ": it is not in the index")) := if_neg hid

theorem set_eq_self_iff : documents.set doc = documents ↔ doc ∈ documents.docs := by
  rw [ext_docs]
  unfold set
  split
  · next hnew =>
      refine ⟨fun heq => ?_, fun hmem => absurd (List.mem_map_of_mem hmem) hnew⟩
      simp [push] at heq
  · next hold =>
      obtain ⟨found, hfound, hid⟩ := List.mem_map.mp (not_not.mp hold)
      constructor
      · intro heq
        rw [← heq]
        exact List.mem_map.mpr ⟨found, hfound, if_pos hid⟩
      · intro hmem
        refine (List.map_congr_left fun other hother => ?_).trans (List.map_id _)
        by_cases hsame : other.id = doc.id
        · rw [if_pos hsame]
          exact (List.inj_on_of_nodup_map documents.nodup hother hmem hsame).symm
        · exact if_neg hsame

theorem delete_of_not_mem (hid : id ∉ documents.ids) : documents.delete id = documents := by
  rw [ext_docs]
  refine List.filter_eq_self.mpr fun doc hdoc => decide_eq_true fun heq => ?_
  exact hid (heq ▸ List.mem_map_of_mem hdoc)

end IndexedDocuments

structure SearchIndexer where
  documents : IndexedDocuments
  index : IndexedDocuments
deriving DecidableEq

structure SearchOptions where
  fuzzy : ℚ
  prefixed : Bool
  titleBoost : ℚ

structure SearchResult where
  id : String
  title : String
deriving DecidableEq

abbrev MiniSearch := List IndexedDocument → String → SearchOptions → List SearchResult

namespace SearchIndexer

abbrev IndexProgram := Program SearchIndexer PortError Unit

def empty : SearchIndexer := ⟨.empty, .empty⟩

def writeDocuments (change : IndexedDocuments → IndexedDocuments) : IndexProgram :=
  .write fun indexer => .ok { indexer with documents := change indexer.documents }

def writeIndex (change : IndexedDocuments → Except PortError IndexedDocuments) : IndexProgram :=
  .write fun indexer =>
    match change indexer.index with
    | .ok index => .ok { indexer with index }
    | .error error => .error error

def addDocument (doc : IndexedDocument) : IndexProgram := do
  writeDocuments (IndexedDocuments.set doc)
  writeIndex (IndexedDocuments.add doc)

def addDocuments (docs : List IndexedDocument) : IndexProgram := do
  writeDocuments fun documents => docs.foldl (fun documents doc => documents.set doc) documents
  Program.forEach docs fun doc => writeIndex (IndexedDocuments.add doc)

def removeDocument (docId : String) : IndexProgram := do
  writeDocuments (IndexedDocuments.delete docId)
  writeIndex (IndexedDocuments.discard docId)

def updateDocument (doc : IndexedDocument) : IndexProgram := do
  writeDocuments (IndexedDocuments.set doc)
  writeIndex (IndexedDocuments.discard doc.id)
  writeIndex (IndexedDocuments.add doc)

def clear : IndexProgram := do
  let allDocs ← Program.read fun indexer : SearchIndexer => .ok indexer.documents.docs
  Program.forEach allDocs fun doc => writeIndex (IndexedDocuments.discard doc.id)
  writeDocuments fun _ => .empty

def trimmed (char : Char) : Bool :=
  (9 ≤ char.toNat && char.toNat ≤ 13) || (0x2000 ≤ char.toNat && char.toNat ≤ 0x200a) ||
    [0x20, 0xa0, 0x1680, 0x2028, 0x2029, 0x202f, 0x205f, 0x3000, 0xfeff].contains char.toNat

def blank (query : String) : Bool := query.toList.all trimmed

def search (miniSearch : MiniSearch) (query : String) (fuzzy : Option ℚ)
    (indexer : SearchIndexer) : List SearchResult :=
  if blank query then []
  else
    miniSearch indexer.index.docs query
      { fuzzy := fuzzy.getD (1 / 5), prefixed := true, titleBoost := 2 }

def fuzzySearch (miniSearch : MiniSearch) (query : String) (indexer : SearchIndexer) :
    List SearchResult :=
  search miniSearch query (some 2) indexer

open Program

variable {indexer : SearchIndexer} {doc : IndexedDocument} {docId : String}

variable {documents : IndexedDocuments}

theorem with_documents_eq_self_iff :
    { indexer with documents } = indexer ↔ documents = indexer.documents := by
  cases indexer
  simp

theorem run_writeDocuments (change : IndexedDocuments → IndexedDocuments)
    (indexer : SearchIndexer) :
    (writeDocuments change).run indexer =
      (.ok (), { indexer with documents := change indexer.documents }) := rfl

section

variable {change : IndexedDocuments → Except PortError IndexedDocuments} {index : IndexedDocuments}

theorem run_writeIndex_ok {after : IndexedDocuments} (hchange : change index = .ok after) :
    (writeIndex change).run ⟨documents, index⟩ = (.ok (), ⟨documents, after⟩) := by
  simp [writeIndex, run_write, hchange]

theorem run_writeIndex_error {error : PortError} (hchange : change index = .error error) :
    (writeIndex change).run ⟨documents, index⟩ = (.error error, ⟨documents, index⟩) := by
  simp [writeIndex, run_write, hchange]

end

theorem addDocument_run_new (hnew : doc.id ∉ indexer.index.ids) :
    (addDocument doc).run indexer =
      (.ok (), { documents := indexer.documents.set doc, index := indexer.index.push doc hnew }) := by
  rw [addDocument, run_bind, run_writeDocuments, andThen_ok,
    run_writeIndex_ok (IndexedDocuments.add_of_not_mem hnew)]

theorem addDocument_run_old (hold : doc.id ∈ indexer.index.ids) :
    ∃ error, (addDocument doc).run indexer =
      (.error error, { indexer with documents := indexer.documents.set doc }) := by
  refine ⟨.error ("MiniSearch: duplicate ID " ++ doc.id), ?_⟩
  rw [addDocument, run_bind, run_writeDocuments, andThen_ok,
    run_writeIndex_error (IndexedDocuments.add_of_mem hold)]

theorem updateDocument_run_old (hold : doc.id ∈ indexer.index.ids) :
    ∃ hnew : doc.id ∉ (indexer.index.delete doc.id).ids, (updateDocument doc).run indexer =
      (.ok (),
        { documents := indexer.documents.set doc
          index := (indexer.index.delete doc.id).push doc hnew }) := by
  have hnew : doc.id ∉ (indexer.index.delete doc.id).ids := by simp
  refine ⟨hnew, ?_⟩
  rw [updateDocument, run_bind, run_writeDocuments, andThen_ok, run_bind,
    run_writeIndex_ok (IndexedDocuments.discard_of_mem hold), andThen_ok,
    run_writeIndex_ok (IndexedDocuments.add_of_not_mem hnew)]

theorem updateDocument_run_new (hnew : doc.id ∉ indexer.index.ids) :
    ∃ error, (updateDocument doc).run indexer =
      (.error error, { indexer with documents := indexer.documents.set doc }) := by
  refine ⟨.error ("MiniSearch: cannot discard document with ID " ++ doc.id ++
    ": it is not in the index"), ?_⟩
  rw [updateDocument, run_bind, run_writeDocuments, andThen_ok, run_bind,
    run_writeIndex_error (IndexedDocuments.discard_of_not_mem hnew), andThen_error]

theorem removeDocument_run_old (hold : docId ∈ indexer.index.ids) :
    (removeDocument docId).run indexer =
      (.ok (), ⟨indexer.documents.delete docId, indexer.index.delete docId⟩) := by
  rw [removeDocument, run_bind, run_writeDocuments, andThen_ok,
    run_writeIndex_ok (IndexedDocuments.discard_of_mem hold)]

theorem removeDocument_run_new (hnew : docId ∉ indexer.index.ids) :
    ∃ error, (removeDocument docId).run indexer =
      (.error error, { indexer with documents := indexer.documents.delete docId }) := by
  refine ⟨.error ("MiniSearch: cannot discard document with ID " ++ docId ++
    ": it is not in the index"), ?_⟩
  rw [removeDocument, run_bind, run_writeDocuments, andThen_ok,
    run_writeIndex_error (IndexedDocuments.discard_of_not_mem hnew)]

theorem addAll_run (docs : List IndexedDocument) (documents index : IndexedDocuments) :
    ∃ outcome after, (Program.forEach docs fun doc =>
        writeIndex (IndexedDocuments.add doc)).run ⟨documents, index⟩ =
          (outcome, ⟨documents, after⟩) ∧
      (∀ id ∈ index.ids, id ∈ after.ids) ∧
      (outcome = .ok () ↔ (docs.map IndexedDocument.id).Nodup ∧
        ∀ doc ∈ docs, doc.id ∉ index.ids) ∧
      (outcome = .ok () → ∀ id, id ∈ after.ids ↔
        id ∈ docs.map IndexedDocument.id ∨ id ∈ index.ids) := by
  induction docs generalizing index with
  | nil => exact ⟨.ok (), index, rfl, fun _ hid => hid, by simp, by simp⟩
  | cons doc rest ih =>
      rw [Program.forEach]
      by_cases hold : doc.id ∈ index.ids
      · refine ⟨.error (.error ("MiniSearch: duplicate ID " ++ doc.id)), index, ?_,
          fun _ hid => hid, ?_, fun hok => by cases hok⟩
        · rw [run_bind, run_writeIndex_error (IndexedDocuments.add_of_mem hold), andThen_error]
        · simp [hold]
      · obtain ⟨outcome, after, hrun, hgrows, hok, hids⟩ := ih (index.push doc hold)
        refine ⟨outcome, after, ?_, fun id hid => hgrows id (by simp [hid]), ?_,
          fun houtcome id => ?_⟩
        · rw [run_bind, run_writeIndex_ok (IndexedDocuments.add_of_not_mem hold), andThen_ok, hrun]
        · rw [hok, List.map_cons, List.nodup_cons, List.forall_mem_cons]
          simp only [IndexedDocuments.mem_ids_push, not_or, forall_and, hold, List.mem_map,
            not_exists, not_and]
          grind
        · rw [hids houtcome, IndexedDocuments.mem_ids_push, List.map_cons, List.mem_cons]
          exact or_left_comm.trans or_assoc.symm

theorem addDocuments_run_old (rest : List IndexedDocument) (hold : doc.id ∈ indexer.index.ids) :
    ∃ error, (addDocuments (doc :: rest)).run indexer =
      (.error error,
        { indexer with
          documents :=
            (doc :: rest).foldl (fun documents doc => documents.set doc) indexer.documents }) := by
  refine ⟨.error ("MiniSearch: duplicate ID " ++ doc.id), ?_⟩
  rw [addDocuments, run_bind, run_writeDocuments, andThen_ok, Program.forEach, run_bind,
    run_writeIndex_error (IndexedDocuments.add_of_mem hold), andThen_error]

theorem addDocuments_run_new (rest : List IndexedDocument) (hnew : doc.id ∉ indexer.index.ids) :
    ∃ outcome after, (addDocuments (doc :: rest)).run indexer =
        (outcome,
          { documents :=
              (doc :: rest).foldl (fun documents doc => documents.set doc) indexer.documents
            index := after }) ∧
      doc.id ∈ after.ids ∧
      (outcome = .ok () ↔ ((doc :: rest).map IndexedDocument.id).Nodup ∧
        ∀ other ∈ doc :: rest, other.id ∉ indexer.index.ids) ∧
      (outcome = .ok () → ∀ id, id ∈ after.ids ↔
        id ∈ (doc :: rest).map IndexedDocument.id ∨ id ∈ indexer.index.ids) := by
  obtain ⟨outcome, after, hrun, hgrows, -⟩ := addAll_run rest
    ((doc :: rest).foldl (fun documents doc => documents.set doc) indexer.documents)
    (indexer.index.push doc hnew)
  have hall : (Program.forEach (doc :: rest) fun doc =>
      writeIndex (IndexedDocuments.add doc)).run
        ⟨(doc :: rest).foldl (fun documents doc => documents.set doc) indexer.documents,
          indexer.index⟩ =
      (outcome,
        ⟨(doc :: rest).foldl (fun documents doc => documents.set doc) indexer.documents, after⟩) := by
    rw [Program.forEach, run_bind, run_writeIndex_ok (IndexedDocuments.add_of_not_mem hnew),
      andThen_ok, hrun]
  obtain ⟨other, afterAll, hsame, -, hok, hids⟩ := addAll_run (doc :: rest)
    ((doc :: rest).foldl (fun documents doc => documents.set doc) indexer.documents) indexer.index
  obtain ⟨rfl, hafter⟩ := Prod.mk.inj (hall.symm.trans hsame)
  obtain rfl : after = afterAll := congrArg SearchIndexer.index hafter
  refine ⟨outcome, after, ?_, hgrows doc.id (by simp), hok, hids⟩
  rw [addDocuments, run_bind, run_writeDocuments, andThen_ok, hall]

theorem discardAll_run {docs : List IndexedDocument} (documents : IndexedDocuments)
    {index : IndexedDocuments} (hnodup : (docs.map IndexedDocument.id).Nodup)
    (hmem : ∀ doc ∈ docs, doc.id ∈ index.ids) :
    ∃ after, (Program.forEach docs fun doc =>
        writeIndex (IndexedDocuments.discard doc.id)).run ⟨documents, index⟩ =
          (.ok (), ⟨documents, after⟩) ∧
      ∀ id, id ∈ after.ids ↔ id ∈ index.ids ∧ id ∉ docs.map IndexedDocument.id := by
  induction docs generalizing index with
  | nil => exact ⟨index, rfl, by simp⟩
  | cons doc rest ih =>
      rw [List.map_cons, List.nodup_cons] at hnodup
      obtain ⟨hdoc, hrest⟩ := List.forall_mem_cons.mp hmem
      obtain ⟨after, hrun, hids⟩ := @ih (index.delete doc.id) hnodup.2 fun other hother => by
        refine IndexedDocuments.mem_ids_delete.mpr ⟨hrest other hother, fun heq => ?_⟩
        exact hnodup.1 (heq ▸ List.mem_map_of_mem hother)
      refine ⟨after, ?_, fun id => ?_⟩
      · rw [Program.forEach, run_bind, run_writeIndex_ok (IndexedDocuments.discard_of_mem hdoc),
          andThen_ok, hrun]
      · rw [hids, IndexedDocuments.mem_ids_delete, List.map_cons, List.mem_cons, not_or, and_assoc]

theorem clear_run (hsame : ∀ id, id ∈ indexer.documents.ids ↔ id ∈ indexer.index.ids) :
    ∃ after, clear.run indexer = (.ok (), ⟨.empty, after⟩) ∧ ∀ id, id ∉ after.ids := by
  obtain ⟨after, hrun, hids⟩ := discardAll_run indexer.documents indexer.documents.nodup
    fun doc hdoc => (hsame doc.id).mp (List.mem_map_of_mem hdoc)
  refine ⟨after, ?_, fun id hid => ?_⟩
  · rw [clear, run_bind, run_read, andThen_ok, run_bind, hrun, andThen_ok, run_writeDocuments]
  · obtain ⟨hmem, hnot⟩ := (hids id).mp hid
    exact hnot ((hsame id).mpr hmem)

theorem mem_ids_setAll {docs : List IndexedDocument} {id : String} :
    id ∈ (docs.foldl (fun documents doc => documents.set doc) documents).ids ↔
      id ∈ docs.map IndexedDocument.id ∨ id ∈ documents.ids := by
  induction docs generalizing documents with
  | nil => simp
  | cons doc rest ih =>
      rw [List.foldl_cons, ih, IndexedDocuments.mem_ids_set, List.map_cons, List.mem_cons]
      exact or_left_comm.trans or_assoc.symm

end SearchIndexer

end Osvauld.TypescriptPort
