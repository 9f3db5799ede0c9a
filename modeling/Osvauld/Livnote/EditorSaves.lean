import Osvauld.Livnote.SyncedUpdates
import Osvauld.Services.SavedResource

namespace Osvauld.Livnote

open Osvauld.Core Data Persistance Services

/-! The open note in the store, where updates of peers are merged, and in the
editor, from which it is saved. A merge reads the stored note in one step and writes
it in another. -/

structure NoteMerge where
  updates : JsonText
  read : DecryptedResource
  merged : DecryptedResource

structure EditedNote (yjs : Yrs) where
  stored : DecryptedResource
  editor : NoteEditor yjs
  merges : List NoteMerge := []
  payloads : List Nat := []
  mergesWritten : List Nat := []
  savesWritten : List Nat := []
  /-- Not in the source: the merges whose updates the editor was given, and those it
  had been given when each save was made. -/
  told : List Nat := []
  toldBefore : Nat → List Nat := fun _ => []

inductive NoteSyncEvent where
  | merge (updates : JsonText)
  | mergeWritten (index : Nat)
  | updatesEvent (index : Nat)
  | documentUpdates (index : Nat)
  | edit (selection : DocSelection) (update : Bytes)
  | saveNote
  | saveStored (index : Nat)

def noteValue (content : NoteContent) : Value :=
  .object [("main_doc", .ofBytes (content .main)), ("image_state", .ofBytes (content .image)),
    ("comment_state", .ofBytes (content .comment))]

@[simp] theorem documentBytes_noteValue (content : NoteContent) (selection : DocSelection) :
    (noteValue content).documentBytes selection.stateKey = some (content selection) := by
  cases selection <;> simp [noteValue, Value.documentBytes, Value.get, DocSelection.stateKey]

namespace EditedNote

variable {yjs : Yrs} (yrs : Yrs)

def opened (stored : DecryptedResource) (editor : NoteEditor yjs) : EditedNote yjs :=
  { stored, editor := { editor with saves := [] } }

def step (event : NoteSyncEvent) (note : EditedNote yjs) : EditedNote yjs :=
  match event with
  | .merge updates =>
      match note.stored.syncUpdates yrs updates with
      | .ok (merged, _) =>
          { note with merges := note.merges ++ [{ updates, read := note.stored, merged }] }
      | .error _ => note
  | .mergeWritten index =>
      match note.merges[index]? with
      | some merge =>
          if index ∈ note.mergesWritten then note
          else
            { note with
              stored := { note.stored with data := merge.merged.data }
              mergesWritten := note.mergesWritten ++ [index] }
      | none => note
  | .updatesEvent index =>
      if index ∈ note.mergesWritten then { note with payloads := note.payloads ++ [index] }
      else note
  | .documentUpdates index =>
      match (note.payloads[index]?).bind fun merge => note.merges[merge]?.map (merge, ·) with
      | some (position, merge) =>
          { note with
            editor := note.editor.handleDocumentUpdates
              { resourceId := note.stored.id, updates := merge.updates
                source := note.stored.id }
            payloads := note.payloads.eraseIdx index
            told :=
              if note.editor.currentNoteId = some note.stored.id then note.told ++ [position]
              else note.told }
      | none => note
  | .edit selection update => { note with editor := note.editor.edit selection update }
  | .saveNote =>
      { note with
        editor := note.editor.saveCurrentNote
        toldBefore := Function.update note.toldBefore note.editor.saves.length note.told }
  | .saveStored index =>
      match note.editor.saves[index]? with
      | some save =>
          if save.noteId = note.stored.id ∧ index ∉ note.savesWritten then
            { note with
              stored := { note.stored with data := noteValue save.content }
              savesWritten := note.savesWritten ++ [index] }
          else note
      | none => note

end EditedNote

def afterSaving {yjs : Yrs} (yrs : Yrs) (start : EditedNote yjs) (events : List NoteSyncEvent) :
    EditedNote yjs :=
  run (EditedNote.step yrs) start events

section Content

variable {yrs yjs : Yrs} {L : Type*} [SemilatticeSup L] [OrderBot L]
variable (lawful : LawfulYrs yrs L)

def storedContent (resource : DecryptedResource) (selection : DocSelection) : WithBot L :=
  lawful.documentContent resource.data selection.stateKey

def NoteMerge.brings (merge : NoteMerge) (selection : DocSelection) : WithBot L :=
  match merge.updates.parseObject with
  | .ok input =>
      if selection.stateKey ∈ merge.read.resourceType.documentStateKeys ∧
          (merge.read.data.documentBytes selection.stateKey).isSome then
        lawful.brought input selection.stateKey
      else ⊥
  | .error _ => ⊥

def BringsNothing (updates : JsonText) : Prop :=
  ∀ input, updates.parseObject = .ok input → ∀ selection : DocSelection,
    lawful.brought input selection.stateKey ≤ (⊥ : L)

/-- The editor applies all of the updates: there are entries for the images and
the main document, the former of which is an update, and nothing for the comments. -/
def TakenWhole (updates : JsonText) : Prop :=
  ∃ input imageState mainDoc, updates.parseObject = .ok input ∧
    Value.get (.object input) "image_state" = some imageState ∧
    Value.get (.object input) "main_doc" = some mainDoc ∧
    DecryptedResource.entryBytes imageState "updates" ≠ [] ∧
    (∃ brought : L, lawful.meaning (DecryptedResource.entryBytes imageState "updates") = brought) ∧
    lawful.brought input "comment_state" ≤ (⊥ : L)

/-- A merge writes over a note that has no more than what it read, and a save over
one whose merges were all given to the editor, and taken by it, before the save. -/
structure SavedInOrder (event : NoteSyncEvent) (note : EditedNote yjs) : Prop where
  merged : ∀ index merge, event = .mergeWritten index → note.merges[index]? = some merge →
    ∀ selection, storedContent lawful note.stored selection ≤
      storedContent lawful merge.read selection
  saved : ∀ index, event = .saveStored index → ∀ position ∈ note.mergesWritten,
    ∀ merge, note.merges[position]? = some merge →
      BringsNothing lawful merge.updates ∨
        position ∈ note.toldBefore index ∧ TakenWhole lawful merge.updates

variable {lawful}

theorem brought_le_of_entry {input : List (String × Value)} {stateKey : String} {entry : Value}
    (hentry : Value.get (.object input) stateKey = some entry) {part : L}
    (hpart : ∀ brought : L, DecryptedResource.entryBytes entry "updates" ≠ [] →
      lawful.meaning (DecryptedResource.entryBytes entry "updates") = brought → brought ≤ part) :
    lawful.brought input stateKey ≤ part := by
  have hupdates : entryUpdates input stateKey =
      DecryptedResource.entryBytes entry "updates" := by
    simp [entryUpdates, hentry]
  unfold LawfulYrs.brought
  rw [hupdates]
  split
  · exact bot_le
  · next hnonempty =>
      cases hmeaning : lawful.meaning (DecryptedResource.entryBytes entry "updates") with
      | bot => exact bot_le
      | coe brought =>
          exact WithBot.coe_le_coe.mpr (hpart brought (by simpa using hnonempty) hmeaning)

theorem brought_le_applyDocumentUpdates (editing : ExactYrs yjs L)
    (hmeaning : editing.meaning = lawful.meaning) {updates : JsonText}
    (hwhole : TakenWhole lawful updates) {input : List (String × Value)}
    (hinput : updates.parseObject = .ok input) (editor : NoteEditor yjs)
    (selection : DocSelection) :
    lawful.brought input selection.stateKey ≤
      (editing.state ((editor.applyDocumentUpdates updates).docs selection) : L) := by
  obtain ⟨_, imageState, mainDoc, hparsed, himage, hmain, hbytes, ⟨brought, hbrought⟩, hcomment⟩ :=
    hwhole
  cases hinput.symm.trans hparsed
  obtain ⟨imaged, happly, hhas⟩ := editor.meaning_le_applyUpdate editing hbytes
    (hmeaning ▸ hbrought) .image
  have hrun : editor.applyDocumentUpdates updates = imaged.orUnchanged
      (imaged.applyUpdate (DecryptedResource.entryBytes mainDoc "updates") .main) := by
    simp only [NoteEditor.applyDocumentUpdates, hinput, himage, hmain, happly]
  rw [hrun]
  cases selection with
  | main =>
      refine brought_le_of_entry hmain fun content hcontent hcontentMeaning => ?_
      obtain ⟨changed, hchanged, hdoc⟩ := imaged.meaning_le_applyUpdate editing hcontent
        (hmeaning ▸ hcontentMeaning) .main
      rw [hchanged]
      exact hdoc
  | image =>
      refine brought_le_of_entry himage fun content _ hcontentMeaning => ?_
      obtain rfl : brought = content :=
        WithBot.coe_injective (hbrought.symm.trans hcontentMeaning)
      exact hhas.trans (imaged.docs_le_applyUpdate editing.toLawfulYrs _ .main .image)
  | comment => exact hcomment.trans (WithBot.coe_le_coe.mpr bot_le)

theorem brings_le {merge : NoteMerge} {selection : DocSelection} {part : WithBot L}
    (hpart : ∀ input, merge.updates.parseObject = .ok input →
      lawful.brought input selection.stateKey ≤ part) : merge.brings lawful selection ≤ part := by
  unfold NoteMerge.brings
  split
  · next input hinput =>
      split
      · exact hpart input hinput
      · exact bot_le
  · exact bot_le

theorem storedContent_syncUpdates {resource merged : DecryptedResource}
    {updates answers : JsonText}
    (hsync : resource.syncUpdates yrs updates = .ok (merged, answers)) (selection : DocSelection) :
    storedContent lawful merged selection = storedContent lawful resource selection ⊔
      NoteMerge.brings lawful { updates, read := resource, merged } selection := by
  obtain ⟨input, hinput, htakes⟩ := DecryptedResource.syncUpdates_ok lawful hsync
  simp only [storedContent, NoteMerge.brings, hinput, htakes.content]

theorem storedContent_noteValue (stored : DecryptedResource) (content : NoteContent)
    (selection : DocSelection) :
    storedContent lawful { stored with data := noteValue content } selection =
      lawful.meaning (content selection) :=
  lawful.documentContent_of_bytes (documentBytes_noteValue content selection)

variable (lawful) in
def HasMerges (good : JsonText → Prop) (merges : List NoteMerge) (positions : List Nat)
    (parts : DocSelection → WithBot L) : Prop :=
  ∀ position ∈ positions, ∃ merge, merges[position]? = some merge ∧
    (good merge.updates → ∀ selection, merge.brings lawful selection ≤ parts selection)

variable {good : JsonText → Prop} {merges : List NoteMerge} {positions : List Nat}
variable {parts more : DocSelection → WithBot L}

theorem HasMerges.mono (hhas : HasMerges lawful good merges positions parts)
    (hmore : ∀ selection, parts selection ≤ more selection) :
    HasMerges lawful good merges positions more := by
  intro position hposition
  obtain ⟨merge, hmerge, hparts⟩ := hhas position hposition
  exact ⟨merge, hmerge, fun hgood selection => (hparts hgood selection).trans (hmore selection)⟩

theorem HasMerges.append (hhas : HasMerges lawful good merges positions parts)
    (added : List NoteMerge) : HasMerges lawful good (merges ++ added) positions parts := by
  intro position hposition
  obtain ⟨merge, hmerge, hparts⟩ := hhas position hposition
  refine ⟨merge, ?_, hparts⟩
  rw [List.getElem?_append_left (List.getElem?_eq_some_iff.mp hmerge).1, hmerge]

theorem HasMerges.concat (hhas : HasMerges lawful good merges positions parts) {position : Nat}
    {merge : NoteMerge} (hmerge : merges[position]? = some merge)
    (hparts : good merge.updates → ∀ selection, merge.brings lawful selection ≤ parts selection) :
    HasMerges lawful good merges (positions ++ [position]) parts := by
  intro other hother
  rcases List.mem_append.mp hother with hold | hnew
  · exact hhas other hold
  · obtain rfl := List.mem_singleton.mp hnew
    exact ⟨merge, hmerge, hparts⟩

variable (lawful) in
structure KeepsMerges (editing : ExactYrs yjs L) (note : EditedNote yjs) : Prop where
  merges : ∀ merge ∈ note.merges, ∀ selection,
    storedContent lawful merge.merged selection =
      storedContent lawful merge.read selection ⊔ merge.brings lawful selection
  written : HasMerges lawful (fun _ => True) note.merges note.mergesWritten
    (storedContent lawful note.stored)
  told : HasMerges lawful (TakenWhole lawful) note.merges note.told
    fun selection => (editing.state (note.editor.docs selection) : L)
  saves : ∀ index save, note.editor.saves[index]? = some save →
    (∀ selection, (⊥ : L) ≤ lawful.meaning (save.content selection)) ∧
      HasMerges lawful (TakenWhole lawful) note.merges (note.toldBefore index)
        fun selection => lawful.meaning (save.content selection)

namespace KeepsMerges

variable {editing : ExactYrs yjs L} {note : EditedNote yjs}

theorem merge (hkeeps : KeepsMerges lawful editing note) (updates : JsonText) :
    KeepsMerges lawful editing (note.step yrs (.merge updates)) := by
  unfold EditedNote.step
  dsimp only
  split
  · next merged answers hsync =>
      refine ⟨fun merge hmerge => ?_, hkeeps.written.append _, hkeeps.told.append _,
        fun index save hsave => ⟨(hkeeps.saves index save hsave).1,
          (hkeeps.saves index save hsave).2.append _⟩⟩
      rcases List.mem_append.mp hmerge with hold | hnew
      · exact hkeeps.merges merge hold
      · obtain rfl := List.mem_singleton.mp hnew
        exact storedContent_syncUpdates hsync
  · exact hkeeps

theorem mergeWritten (hkeeps : KeepsMerges lawful editing note) {index : Nat}
    (horder : SavedInOrder lawful (.mergeWritten index) note) :
    KeepsMerges lawful editing (note.step yrs (.mergeWritten index)) := by
  unfold EditedNote.step
  dsimp only
  split
  · next merge hmerge =>
      split
      · exact hkeeps
      · have hmerged := hkeeps.merges merge (List.mem_of_getElem? hmerge)
        refine ⟨hkeeps.merges, ?_, hkeeps.told, hkeeps.saves⟩
        refine (hkeeps.written.mono fun selection => ?_).concat hmerge fun _ selection => ?_
        · refine (horder.merged index merge rfl hmerge selection).trans ?_
          exact le_sup_left.trans (hmerged selection).ge
        · exact le_sup_right.trans (hmerged selection).ge
  · exact hkeeps

theorem documentUpdates (hmeaning : editing.meaning = lawful.meaning)
    (hkeeps : KeepsMerges lawful editing note) (index : Nat) :
    KeepsMerges lawful editing (note.step yrs (.documentUpdates index)) := by
  unfold EditedNote.step
  dsimp only
  split
  · next position merge hpayload =>
      obtain ⟨_, _, hfound⟩ := Option.bind_eq_some_iff.mp hpayload
      obtain ⟨_, hmerge, heq⟩ := Option.map_eq_some_iff.mp hfound
      cases heq
      unfold NoteEditor.handleDocumentUpdates
      dsimp only
      split
      · have hsame := note.editor.sameNotes_applyDocumentUpdates merge.updates
        refine ⟨hkeeps.merges, hkeeps.written, ?_, ?_⟩
        · refine (hkeeps.told.mono fun selection => ?_).concat hmerge fun hwhole selection => ?_
          · exact WithBot.coe_le_coe.mpr (note.editor.docs_le_applyDocumentUpdates
              editing.toLawfulYrs merge.updates selection)
          · exact brings_le fun input hinput =>
              brought_le_applyDocumentUpdates editing hmeaning hwhole hinput note.editor selection
        · dsimp only
          rw [hsame.saves]
          exact hkeeps.saves
      · exact ⟨hkeeps.merges, hkeeps.written, hkeeps.told, hkeeps.saves⟩
  · exact hkeeps

theorem saveNote (hmeaning : editing.meaning = lawful.meaning)
    (hkeeps : KeepsMerges lawful editing note) :
    KeepsMerges lawful editing (note.step yrs .saveNote) := by
  unfold EditedNote.step
  dsimp only
  have hold : ∀ index save, note.editor.saves[index]? = some save →
      (∀ selection, (⊥ : L) ≤ lawful.meaning (save.content selection)) ∧
        HasMerges lawful (TakenWhole lawful) note.merges
          (Function.update note.toldBefore note.editor.saves.length note.told index)
          fun selection => lawful.meaning (save.content selection) := by
    intro index save hsave
    have hindex := (List.getElem?_eq_some_iff.mp hsave).1
    rw [Function.update_of_ne hindex.ne]
    exact hkeeps.saves index save hsave
  obtain hsame | ⟨noteId, _, _, hsaved⟩ := note.editor.saveCurrentNote_cases
  · rw [hsame]
    exact ⟨hkeeps.merges, hkeeps.written, hkeeps.told, hold⟩
  · rw [hsaved]
    refine ⟨hkeeps.merges, hkeeps.written, hkeeps.told, fun index save hsave => ?_⟩
    dsimp only at hsave
    rcases lt_or_ge index note.editor.saves.length with hindex | hindex
    · rw [List.getElem?_append_left hindex] at hsave
      exact hold index save hsave
    · -- The new save is encoded from the documents as they are.
      have hlast : index = note.editor.saves.length := by
        have := (List.getElem?_eq_some_iff.mp hsave).1
        simp only [List.length_append, List.length_singleton] at this
        omega
      rw [hlast, List.getElem?_append_right le_rfl] at hsave
      obtain rfl := List.mem_singleton.mp (List.mem_of_getElem? hsave)
      have hcontent : ∀ selection, lawful.meaning (note.editor.createNoteContent selection) =
          (editing.state (note.editor.docs selection) : L) := by
        intro selection
        rw [← hmeaning]
        exact editing.meaning_stateAsUpdate _
      dsimp only
      rw [hlast, Function.update_self]
      refine ⟨fun selection => ?_, hkeeps.told.mono fun selection => (hcontent selection).ge⟩
      rw [hcontent]
      exact WithBot.coe_le_coe.mpr bot_le

theorem saveStored (hkeeps : KeepsMerges lawful editing note) {index : Nat}
    (horder : SavedInOrder lawful (.saveStored index) note) :
    KeepsMerges lawful editing (note.step yrs (.saveStored index)) := by
  unfold EditedNote.step
  dsimp only
  split
  · next save hsave =>
      split
      · obtain ⟨hsome, htold⟩ := hkeeps.saves index save hsave
        refine ⟨hkeeps.merges, fun position hposition => ?_, hkeeps.told, hkeeps.saves⟩
        obtain ⟨merge, hmerge, _⟩ := hkeeps.written position hposition
        refine ⟨merge, hmerge, fun _ selection => ?_⟩
        rw [storedContent_noteValue]
        rcases horder.saved index rfl position hposition merge hmerge with
          hnothing | ⟨hbefore, hwhole⟩
        · exact (brings_le fun input hinput => hnothing input hinput selection).trans
            (hsome selection)
        · obtain ⟨other, hother, hparts⟩ := htold position hbefore
          cases hmerge.symm.trans hother
          exact hparts hwhole selection
      · exact hkeeps
  · exact hkeeps

theorem step (hmeaning : editing.meaning = lawful.meaning)
    (hkeeps : KeepsMerges lawful editing note) {event : NoteSyncEvent}
    (horder : SavedInOrder lawful event note) :
    KeepsMerges lawful editing (note.step yrs event) := by
  cases event with
  | merge updates => exact hkeeps.merge updates
  | mergeWritten index => exact hkeeps.mergeWritten horder
  | updatesEvent index =>
      unfold EditedNote.step
      dsimp only
      split
      · exact ⟨hkeeps.merges, hkeeps.written, hkeeps.told, hkeeps.saves⟩
      · exact hkeeps
  | documentUpdates index => exact hkeeps.documentUpdates hmeaning index
  | edit selection update =>
      refine ⟨hkeeps.merges, hkeeps.written, hkeeps.told.mono fun other => ?_, ?_⟩
      · exact WithBot.coe_le_coe.mpr (note.editor.docs_le_applyUpdate editing.toLawfulYrs
          update selection other)
      · simp only [EditedNote.step, NoteEditor.edit,
          (note.editor.sameNotes_applyUpdate update selection).saves]
        exact hkeeps.saves
  | saveNote => exact hkeeps.saveNote hmeaning
  | saveStored index => exact hkeeps.saveStored horder

end KeepsMerges

/-- When each merge writes over what it read, and each save is stored after merges that
the editor has taken before it, what the merges brought stays stored. -/
theorem merged_updates_survive_saves (editing : ExactYrs yjs L)
    (hmeaning : editing.meaning = lawful.meaning) (stored : DecryptedResource)
    (editor : NoteEditor yjs) {events : List NoteSyncEvent}
    (horder : ∀ earlier event, earlier ++ [event] <+: events →
      SavedInOrder lawful event (afterSaving yrs (.opened stored editor) earlier)) :
    ∀ position ∈ (afterSaving yrs (.opened stored editor) events).mergesWritten, ∃ merge,
      (afterSaving yrs (.opened stored editor) events).merges[position]? = some merge ∧
        ∀ selection, merge.brings lawful selection ≤
          storedContent lawful (afterSaving yrs (.opened stored editor) events).stored
            selection := by
  have hopened : KeepsMerges lawful editing (.opened stored editor) := by
    refine ⟨?_, ?_, ?_, ?_⟩ <;> simp [EditedNote.opened, HasMerges]
  have hkeeps : ∀ earlier, earlier <+: events →
      KeepsMerges lawful editing (afterSaving yrs (.opened stored editor) earlier) :=
    @run_invariant _ _ (EditedNote.step yrs) (.opened stored editor) events
      (fun _ note => KeepsMerges lawful editing note) hopened
      fun earlier event hearlier hkeeps => hkeeps.step hmeaning (horder earlier event hearlier)
  intro position hposition
  obtain ⟨merge, hmerge, hbrings⟩ := (hkeeps events List.prefix_rfl).written position hposition
  exact ⟨merge, hmerge, hbrings trivial⟩

end Content

def bitsNote : DecryptedResource :=
  { id := "note", resourceType := .notes, data := noteValue fun _ => [1], lastAccessed := 0
    favourite := false, folderId := "folder" }

def bitsEditor : NoteEditor Yrs.bits :=
  { currentNoteId := some "note", docs := fun _ => (1 : UInt8), editorReady := true }

def mergedAndSaved (updates : JsonText) : List NoteSyncEvent :=
  [.merge updates, .mergeWritten 0, .updatesEvent 0, .documentUpdates 0, .saveNote,
    .saveStored 0]

def commentUpdates : JsonText :=
  .encoded (.object
    [(DocSelection.image.stateKey, DecryptedResource.documentEntry [0] []),
      (DocSelection.main.stateKey, DecryptedResource.documentEntry [0] []),
      (DocSelection.comment.stateKey, DecryptedResource.documentEntry [4] [])])

theorem takenWhole_mergedUpdates : TakenWhole Yrs.lawfulBits (mergedUpdates 2 4) :=
  ⟨_, DecryptedResource.documentEntry [2] [], DecryptedResource.documentEntry [4] [], rfl,
    by simp [Value.get, DocSelection.stateKey], by simp [Value.get, DocSelection.stateKey],
    by simp, ⟨_, by rw [DecryptedResource.entryBytes_updates]; rfl⟩,
    by simp [LawfulYrs.brought, entryUpdates, Value.get, DocSelection.stateKey]⟩

theorem mergedAndSaved_inOrder :
    EachEvent (fun earlier event => SavedInOrder Yrs.lawfulBits event
      (afterSaving Yrs.bits (.opened bitsNote bitsEditor) earlier)) []
      (mergedAndSaved (mergedUpdates 2 4)) := by
  refine ⟨⟨by simp, by simp⟩, ⟨?_, by simp⟩, ⟨by simp, by simp⟩, ⟨by simp, by simp⟩,
    ⟨by simp, by simp⟩, ⟨by simp, ?_⟩, trivial⟩
  · rintro _ merge ⟨⟩ hmerge selection
    obtain rfl := Option.some.inj hmerge
    exact le_rfl
  · rintro _ ⟨⟩ position hposition merge hmerge
    obtain rfl : position = 0 := List.mem_singleton.mp hposition
    obtain rfl := Option.some.inj hmerge
    exact .inr ⟨by decide +kernel, takenWhole_mergedUpdates⟩

theorem merged_updates_survive_saves_merged :
    (afterSaving Yrs.bits (.opened bitsNote bitsEditor)
        (mergedAndSaved (mergedUpdates 2 4))).stored.data.documentBytes "main_doc" = some [5] ∧
      ∀ position ∈ (afterSaving Yrs.bits (.opened bitsNote bitsEditor)
          (mergedAndSaved (mergedUpdates 2 4))).mergesWritten, ∃ merge,
        (afterSaving Yrs.bits (.opened bitsNote bitsEditor)
          (mergedAndSaved (mergedUpdates 2 4))).merges[position]? = some merge ∧
          ∀ selection, merge.brings Yrs.lawfulBits selection ≤
            storedContent Yrs.lawfulBits (afterSaving Yrs.bits (.opened bitsNote bitsEditor)
              (mergedAndSaved (mergedUpdates 2 4))).stored selection :=
  ⟨by decide +kernel, merged_updates_survive_saves Yrs.exactBits rfl bitsNote bitsEditor
    fun _ _ hearlier => mergedAndSaved_inOrder.of_prefix hearlier⟩

theorem brings_commentUpdates (merged : DecryptedResource) :
    NoteMerge.brings Yrs.lawfulBits { updates := commentUpdates, read := bitsNote, merged }
      .comment = (updateBits 4 : Fin 8 → Bool) := by
  have hstored := documentBytes_noteValue (fun _ => [1]) .comment
  simp only [NoteMerge.brings, commentUpdates, JsonText.parseObject, bitsNote, hstored]
  simp [LawfulYrs.brought, entryUpdates, Value.get, ResourceType.documentStateKeys,
    DocSelection.stateKey]
  rfl

theorem not_brings_commentUpdates_le {resource : DecryptedResource}
    (hbytes : resource.data.documentBytes DocSelection.comment.stateKey = some [1])
    (merged : DecryptedResource) :
    ¬NoteMerge.brings Yrs.lawfulBits { updates := commentUpdates, read := bitsNote, merged }
      .comment ≤ storedContent Yrs.lawfulBits resource .comment := by
  intro hle
  rw [brings_commentUpdates, storedContent, Yrs.lawfulBits.documentContent_of_bytes hbytes] at hle
  exact absurd (WithBot.coe_le_coe.mp hle 2) (by decide)

/-- The update for the comments is merged, and the editor is told of it, but the next
save is without it. -/
theorem merged_comment_update_lost :
    let note := afterSaving Yrs.bits (.opened bitsNote bitsEditor) (mergedAndSaved commentUpdates)
    note.mergesWritten = [0] ∧ note.told = [0] ∧ note.savesWritten = [0] ∧
      ∃ merge, note.merges[0]? = some merge ∧
        merge.merged.data.documentBytes "comment_state" = some [5] ∧
        ¬merge.brings Yrs.lawfulBits .comment ≤
          storedContent Yrs.lawfulBits note.stored .comment :=
  ⟨by decide +kernel, by decide +kernel, by decide +kernel, _, rfl, by decide +kernel,
    not_brings_commentUpdates_le (by decide +kernel) _⟩

end Osvauld.Livnote
