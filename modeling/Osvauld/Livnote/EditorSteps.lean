import Osvauld.Livnote.NoteEditor

namespace Osvauld.Livnote

open Osvauld.Core

/-! What the functions of the front end leave as it was. -/

variable {yjs : Yrs}

def Settled (editor : NoteEditor yjs) : Prop :=
  editor.effectPending = false ∧ .loadNote ∉ editor.timers

def NoteEditor.switchIds (editor : NoteEditor yjs) : List String :=
  editor.switches.map NoteSwitch.noteId

def EditorEvent.SavesNote (event : EditorEvent) (editor : NoteEditor yjs) : Prop :=
  editor.currentNoteId.isSome ∧ editor.editorReady = true ∧
    (event = .saveNote ∨ ∃ noteId, event = .switchNote noteId ∧ editor.currentNoteId ≠ noteId)

/-- Changes of documents: the notes stay as they are, and the only new timer is
the one of a note whose main document was waited for. -/
structure SameNotes (before after : NoteEditor yjs) : Prop where
  currentNoteId : after.currentNoteId = before.currentNoteId
  currentNoteData : after.currentNoteData = before.currentNoteData
  switches : after.switches = before.switches
  effectPending : after.effectPending = before.effectPending
  saves : after.saves = before.saves
  noteChanges : after.noteChanges = before.noteChanges
  docsNote : after.docsNote = before.docsNote
  received : after.received = before.received
  storing : after.storing = before.storing
  waiting : after.onMainReady = before.onMainReady ∧ after.timers = before.timers ∧
      after.editorReady = before.editorReady ∨
    after.onMainReady = none ∧ after.editorReady = true ∧
      ∃ note, before.onMainReady = some note ∧
        after.timers = before.timers ++ [.deferImageLoading note]

namespace SameNotes

theorem refl (editor : NoteEditor yjs) : SameNotes editor editor :=
  ⟨rfl, rfl, rfl, rfl, rfl, rfl, rfl, rfl, rfl, .inl ⟨rfl, rfl, rfl⟩⟩

theorem trans {first second third : NoteEditor yjs} (hfirst : SameNotes first second)
    (hsecond : SameNotes second third) : SameNotes first third where
  currentNoteId := hsecond.currentNoteId.trans hfirst.currentNoteId
  currentNoteData := hsecond.currentNoteData.trans hfirst.currentNoteData
  switches := hsecond.switches.trans hfirst.switches
  effectPending := hsecond.effectPending.trans hfirst.effectPending
  saves := hsecond.saves.trans hfirst.saves
  noteChanges := hsecond.noteChanges.trans hfirst.noteChanges
  docsNote := hsecond.docsNote.trans hfirst.docsNote
  received := hsecond.received.trans hfirst.received
  storing := hsecond.storing.trans hfirst.storing
  waiting := by
    rcases hfirst.waiting with ⟨hready, htimers, heditor⟩ | ⟨hnone, heditor, note, hready, htimers⟩
    · rcases hsecond.waiting with ⟨hready', htimers', heditor'⟩ |
        ⟨hnone', heditor', note, hready', htimers'⟩
      · exact .inl ⟨hready'.trans hready, htimers'.trans htimers, heditor'.trans heditor⟩
      · exact .inr ⟨hnone', heditor', note, hready ▸ hready', htimers ▸ htimers'⟩
    · rcases hsecond.waiting with ⟨hready', htimers', heditor'⟩ |
        ⟨hnone', heditor', note', hready', _⟩
      · exact .inr ⟨hready'.trans hnone, heditor'.trans heditor, note, hready,
          htimers'.trans htimers⟩
      · cases hnone.symm.trans hready'

theorem loadNote_mem {before after : NoteEditor yjs} (hsame : SameNotes before after) :
    .loadNote ∈ after.timers ↔ .loadNote ∈ before.timers := by
  rcases hsame.waiting with ⟨_, htimers, _⟩ | ⟨_, _, note, _, htimers⟩
  · rw [htimers]
  · simp [htimers]

theorem settled_iff {before after : NoteEditor yjs} (hsame : SameNotes before after) :
    Settled after ↔ Settled before := by
  unfold Settled
  rw [hsame.effectPending, hsame.loadNote_mem]

end SameNotes

namespace NoteEditor

variable {editor changed : NoteEditor yjs} {update : Bytes} {selection : DocSelection}

theorem applyUpdate_ok (happly : editor.applyUpdate update selection = .ok changed) :
    SameNotes editor changed ∧
      ∃ doc, yjs.applyUpdate (editor.docs selection) update = .ok doc ∧
        changed.docs = Function.update editor.docs selection doc := by
  unfold applyUpdate at happly
  cases hdoc : yjs.applyUpdate (editor.docs selection) update with
  | error error => simp [hdoc, Except.map] at happly
  | ok doc =>
      rw [hdoc, Except.map, Except.ok.injEq] at happly
      subst happly
      have hset : SameNotes editor (editor.setDoc selection doc) := by
        refine ⟨rfl, rfl, rfl, rfl, rfl, rfl, rfl, rfl, rfl, .inl ⟨rfl, rfl, rfl⟩⟩
      cases selection with
      | image => exact ⟨hset, doc, rfl, rfl⟩
      | comment => exact ⟨hset, doc, rfl, rfl⟩
      | main =>
          dsimp only [handleMainDocReady, setDoc]
          cases hready : editor.onMainReady with
          | none => exact ⟨⟨rfl, rfl, rfl, rfl, rfl, rfl, rfl, rfl, rfl,
              .inl ⟨hready.symm, rfl, rfl⟩⟩, doc, rfl, rfl⟩
          | some note => exact ⟨⟨rfl, rfl, rfl, rfl, rfl, rfl, rfl, rfl, rfl,
              .inr ⟨rfl, rfl, note, hready, rfl⟩⟩, doc, rfl, rfl⟩

theorem docs_le_applyUpdate {L : Type*} [SemilatticeSup L] [OrderBot L]
    (lawful : LawfulYrs yjs L) (editor : NoteEditor yjs) (update : Bytes)
    (selection other : DocSelection) :
    lawful.state (editor.docs other) ≤
      lawful.state ((editor.orUnchanged (editor.applyUpdate update selection)).docs other) := by
  unfold orUnchanged
  cases happly : editor.applyUpdate update selection with
  | error error => exact le_rfl
  | ok changed =>
      obtain ⟨_, doc, hdoc, hdocs⟩ := applyUpdate_ok happly
      obtain ⟨brought, _, hstate⟩ := lawful.state_applyUpdate _ _ _ hdoc
      simp only [hdocs, Function.update_apply]
      split
      · next hother =>
          rw [hother, hstate]
          exact le_sup_left
      · exact le_rfl

theorem meaning_le_applyUpdate {L : Type*} [SemilatticeSup L] [OrderBot L]
    (lawful : ExactYrs yjs L) (editor : NoteEditor yjs) {update : Bytes} {brought : L}
    (hupdate : update ≠ []) (hmeaning : lawful.meaning update = brought)
    (selection : DocSelection) :
    ∃ changed, editor.applyUpdate update selection = .ok changed ∧
      brought ≤ lawful.state (changed.docs selection) := by
  obtain ⟨doc, hdoc⟩ := lawful.applies (editor.docs selection) update brought hupdate hmeaning
  obtain ⟨content, hcontent, hstate⟩ := lawful.state_applyUpdate _ _ _ hdoc
  obtain rfl : brought = content := WithBot.coe_injective (hmeaning.symm.trans hcontent)
  obtain ⟨changed, happly⟩ : ∃ changed, editor.applyUpdate update selection = .ok changed := by
    simp [applyUpdate, hdoc, Except.map]
  refine ⟨changed, happly, ?_⟩
  obtain ⟨_, other, hother, hchanged⟩ := applyUpdate_ok happly
  cases hdoc.symm.trans hother
  rw [hchanged, Function.update_self, hstate]
  exact le_sup_right

theorem sameNotes_applyUpdate (editor : NoteEditor yjs) (update : Bytes)
    (selection : DocSelection) :
    SameNotes editor (editor.orUnchanged (editor.applyUpdate update selection)) := by
  unfold orUnchanged
  cases happly : editor.applyUpdate update selection with
  | ok changed => exact (applyUpdate_ok happly).1
  | error error => exact .refl editor

theorem sameNotes_deferCommentLoading (note : Note) (editor : NoteEditor yjs) :
    SameNotes editor (editor.deferCommentLoading note) := by
  unfold deferCommentLoading
  split
  · exact .refl editor
  · exact sameNotes_applyUpdate editor _ _

theorem sameNotes_deferImageLoading (note : Note) (editor : NoteEditor yjs) :
    SameNotes editor (editor.deferImageLoading note) := by
  unfold deferImageLoading
  split
  · exact sameNotes_deferCommentLoading note editor
  · cases happly : editor.applyUpdate (note.data .image) .image with
    | ok loaded =>
        exact (applyUpdate_ok happly).1.trans (sameNotes_deferCommentLoading note loaded)
    | error error => exact .refl editor

theorem sameNotes_applyDocumentUpdates (updates : JsonText) (editor : NoteEditor yjs) :
    SameNotes editor (editor.applyDocumentUpdates updates) := by
  unfold applyDocumentUpdates
  split
  · exact .refl editor
  · split
    · split
      · exact .refl editor
      · next changed happly =>
          exact (applyUpdate_ok happly).1.trans (sameNotes_applyUpdate changed _ _)
    · exact .refl editor

theorem docs_le_applyDocumentUpdates {L : Type*} [SemilatticeSup L] [OrderBot L]
    (lawful : LawfulYrs yjs L) (updates : JsonText) (editor : NoteEditor yjs)
    (selection : DocSelection) :
    lawful.state (editor.docs selection) ≤
      lawful.state ((editor.applyDocumentUpdates updates).docs selection) := by
  unfold applyDocumentUpdates
  split
  · exact le_rfl
  · split
    · next imageState _ _ _ =>
        have himage := editor.docs_le_applyUpdate lawful
          (DecryptedResource.entryBytes imageState "updates") .image selection
        split
        · exact le_rfl
        · next changed happly =>
            rw [happly] at himage
            exact himage.trans (changed.docs_le_applyUpdate lawful _ .main selection)
    · exact le_rfl

theorem loadNote_cases (editor : NoteEditor yjs) :
    editor.currentNoteData = none ∧ editor.loadNote = editor ∨
      ∃ note, editor.currentNoteData = some note ∧
        SameNotes (editor.initializeDocs note) editor.loadNote := by
  unfold loadNote
  cases hdata : editor.currentNoteData with
  | none => exact .inl ⟨rfl, rfl⟩
  | some note => exact .inr ⟨note, rfl, sameNotes_applyUpdate _ _ _⟩

theorem saveCurrentNote_cases (editor : NoteEditor yjs) :
    editor.saveCurrentNote = editor ∨
      ∃ noteId, editor.currentNoteId = some noteId ∧ editor.editorReady = true ∧
        editor.saveCurrentNote = { editor with
          saves := editor.saves ++
            [{ noteId, content := editor.createNoteContent, received := editor.received }] } := by
  unfold saveCurrentNote
  cases hcurrent : truthy editor.currentNoteId with
  | none => exact .inl rfl
  | some noteId =>
      dsimp only [saveNote]
      split
      · next hready => exact .inr ⟨noteId, (Option.filter_eq_some_iff.mp hcurrent).1, hready, rfl⟩
      · exact .inl rfl

theorem imageMeasured_cases (index : Nat) (editor : NoteEditor yjs) :
    editor.imageMeasured index = editor ∨
      ∃ noteId update, editor.storing[index]? = some ⟨noteId, update, false⟩ ∧
        editor.imageMeasured index = { editor.edit .image update with
          storing := editor.storing.modify index fun image =>
            { image with finished := true } } := by
  unfold imageMeasured
  split
  · next noteId update himage => exact .inr ⟨noteId, update, himage, rfl⟩
  · exact .inl rfl

theorem switchIds_finishSwitch (index : Nat) (editor : NoteEditor yjs) :
    (editor.finishSwitch index).switchIds = editor.switchIds := by
  refine List.ext_getElem? fun position => ?_
  rw [switchIds, switchIds, finishSwitch, List.getElem?_map, List.getElem?_map,
    List.getElem?_modify, Option.map_eq_map, Option.map_map]
  refine congrArg (fun read => Option.map read editor.switches[position]?) (funext fun call => ?_)
  dsimp only [Function.comp]
  split <;> rfl

theorem switchAnswered_cases (index : Nat) (answer : Option NoteContent)
    (editor : NoteEditor yjs) :
    (∃ switches, editor.switchAnswered index answer = { editor with switches } ∧
        switches.map NoteSwitch.noteId = editor.switchIds) ∨
      ∃ noteId data, editor.switches[index]? = some ⟨noteId, false⟩ ∧ answer = some data ∧
        editor.switchAnswered index answer =
          { (editor.finishSwitch index).setCurrentNoteId (some noteId) with
            currentNoteData := some { id := noteId, data } } := by
  unfold switchAnswered
  split
  · next noteId hcall =>
      cases answer with
      | none => exact .inl ⟨_, rfl, editor.switchIds_finishSwitch index⟩
      | some data => exact .inr ⟨noteId, data, hcall, rfl, rfl⟩
  · exact .inl ⟨_, rfl, rfl⟩

section

variable (editor : NoteEditor yjs)

theorem saves_runTimer : editor.runTimer.saves = editor.saves := by
  unfold runTimer
  split
  · rfl
  · next timers _ =>
      obtain ⟨_, hsame⟩ | ⟨note, _, hsame⟩ := ({ editor with timers } : NoteEditor yjs).loadNote_cases
      · rw [hsame]
      · exact hsame.saves
  · exact (sameNotes_deferImageLoading _ _).saves

theorem switches_runTimer : editor.runTimer.switches = editor.switches := by
  unfold runTimer
  split
  · rfl
  · next timers _ =>
      obtain ⟨_, hsame⟩ | ⟨note, _, hsame⟩ := ({ editor with timers } : NoteEditor yjs).loadNote_cases
      · rw [hsame]
      · exact hsame.switches
  · exact (sameNotes_deferImageLoading _ _).switches

theorem switches_saveCurrentNote : editor.saveCurrentNote.switches = editor.switches := by
  obtain hsame | ⟨_, _, _, hsaved⟩ := editor.saveCurrentNote_cases
  · rw [hsame]
  · rw [hsaved]

theorem switchIds_step (event : EditorEvent) :
    editor.switchIds <+: (editor.step event).switchIds := by
  cases event with
  | switchNote noteId =>
      have hsaved : (if editor.currentNoteId = noteId then editor
          else editor.saveCurrentNote).switches = editor.switches := by
        split
        · rfl
        · exact editor.switches_saveCurrentNote
      simp only [step, switchNote]
      cases truthy noteId with
      | some id => simp [switchIds, hsaved]
      | none => simp [switchIds, clearCurrentNote, setCurrentNoteId, hsaved]
  | switchAnswered index answer =>
      obtain ⟨switches, hleft, hids⟩ | ⟨noteId, data, _, _, hanswered⟩ :=
        editor.switchAnswered_cases index answer
      · rw [step, hleft, ← hids]
        exact List.prefix_rfl
      · rw [step, hanswered, ← editor.switchIds_finishSwitch index]
        exact List.prefix_rfl
  | runEffect =>
      simp only [step, runEffect]
      split <;> exact List.prefix_rfl
  | runTimer =>
      rw [step, switchIds, switchIds, editor.switches_runTimer]
  | edit selection update =>
      rw [switchIds, switchIds, step, edit, (editor.sameNotes_applyUpdate update selection).switches]
  | storeImage update =>
      simp only [step, storeImage]
      split <;> exact List.prefix_rfl
  | imageMeasured index =>
      obtain hsame | ⟨noteId, update, _, hmeasured⟩ := editor.imageMeasured_cases index
      · rw [step, hsame]
      · have hedited := (editor.sameNotes_applyUpdate update .image).switches
        simp only [step, hmeasured, switchIds, edit, hedited, List.prefix_rfl]
  | saveNote => rw [step, switchIds, switchIds, editor.switches_saveCurrentNote]

theorem saves_step (event : EditorEvent) :
    (editor.step event).saves = editor.saves ∨
      ∃ noteId, editor.currentNoteId = some noteId ∧ event.SavesNote editor ∧
        (editor.step event).saves = editor.saves ++
          [{ noteId, content := editor.createNoteContent, received := editor.received }] := by
  cases event with
  | switchNote noteId =>
      have hsaves : (editor.switchNote noteId).saves =
          (if editor.currentNoteId = noteId then editor else editor.saveCurrentNote).saves := by
        unfold switchNote
        split <;> cases truthy noteId <;> rfl
      rw [step, hsaves]
      split
      · exact .inl rfl
      · next hother =>
          obtain hsame | ⟨id, hcurrent, hready, hsaved⟩ := editor.saveCurrentNote_cases
          · exact .inl (by rw [hsame])
          · exact .inr ⟨id, hcurrent, ⟨by simp [hcurrent], hready, .inr ⟨noteId, rfl, hother⟩⟩,
              by rw [hsaved]⟩
  | switchAnswered index answer =>
      obtain ⟨switches, hleft, _⟩ | ⟨noteId, data, _, _, hanswered⟩ :=
        editor.switchAnswered_cases index answer
      · exact .inl (by rw [step, hleft])
      · exact .inl (by rw [step, hanswered]; rfl)
  | runEffect =>
      simp only [step, runEffect]
      split <;> exact .inl rfl
  | runTimer => exact .inl editor.saves_runTimer
  | edit selection update => exact .inl (editor.sameNotes_applyUpdate update selection).saves
  | storeImage update =>
      simp only [step, storeImage]
      split <;> exact .inl rfl
  | imageMeasured index =>
      obtain hsame | ⟨noteId, update, _, hmeasured⟩ := editor.imageMeasured_cases index
      · exact .inl (by rw [step, hsame])
      · rw [step, hmeasured]
        exact .inl (editor.sameNotes_applyUpdate update .image).saves
  | saveNote =>
      obtain hsame | ⟨id, hcurrent, hready, hsaved⟩ := editor.saveCurrentNote_cases
      · exact .inl (by rw [step, hsame])
      · exact .inr ⟨id, hcurrent, ⟨by simp [hcurrent], hready, .inl rfl⟩, by rw [step, hsaved]⟩

end

end NoteEditor

/-- Something about the documents' note and their updates of syncs holds of the
current note, once its documents are not to be loaded again. -/
structure LoadedFor (holds : String → Option String → List String → Prop)
    (editor : NoteEditor yjs) : Prop where
  current : ∀ noteId, editor.currentNoteId = some noteId →
    noteId ≠ "" ∧ ∃ note, editor.currentNoteData = some note ∧ note.id = noteId
  switches : "" ∉ editor.switchIds
  loaded : Settled editor → ∀ noteId, editor.currentNoteId = some noteId →
    holds noteId editor.docsNote editor.received

namespace LoadedFor

variable {holds : String → Option String → List String → Prop}
variable {editor changed : NoteEditor yjs}

theorem initial : LoadedFor holds ({} : NoteEditor yjs) :=
  ⟨by simp, by simp [NoteEditor.switchIds], by simp⟩

theorem of_same (hloaded : LoadedFor holds editor) (hsame : SameNotes editor changed) :
    LoadedFor holds changed where
  current noteId hcurrent := by
    rw [hsame.currentNoteData]
    exact hloaded.current noteId (hsame.currentNoteId ▸ hcurrent)
  switches := by
    rw [NoteEditor.switchIds, hsame.switches]
    exact hloaded.switches
  loaded hsettled noteId hcurrent := by
    rw [hsame.docsNote, hsame.received]
    exact hloaded.loaded (hsame.settled_iff.mp hsettled) noteId (hsame.currentNoteId ▸ hcurrent)

theorem saveCurrentNote (hloaded : LoadedFor holds editor) :
    LoadedFor holds editor.saveCurrentNote := by
  obtain hsame | ⟨_, _, _, hsaved⟩ := editor.saveCurrentNote_cases
  · rwa [hsame]
  · rw [hsaved]
    exact ⟨hloaded.current, hloaded.switches, hloaded.loaded⟩

theorem runTimer (hfresh : ∀ noteId, holds noteId (some noteId) [])
    (hloaded : LoadedFor holds editor) : LoadedFor holds editor.runTimer := by
  unfold NoteEditor.runTimer
  split
  · exact hloaded
  · next timers htimers =>
      -- Before the load nothing is known of the documents, nor need be.
      obtain ⟨hnone, hsame⟩ | ⟨note, hdata, hsame⟩ :=
        ({ editor with timers } : NoteEditor yjs).loadNote_cases
      · rw [hsame]
        refine ⟨hloaded.current, hloaded.switches, fun _ noteId hcurrent => ?_⟩
        obtain ⟨_, note, hdata, _⟩ := hloaded.current noteId hcurrent
        cases hdata.symm.trans hnone
      · have hinitialized : LoadedFor holds
            (({ editor with timers } : NoteEditor yjs).initializeDocs note) := by
          refine ⟨hloaded.current, hloaded.switches, fun _ noteId hcurrent => ?_⟩
          obtain ⟨_, current, hcurrentData, rfl⟩ := hloaded.current noteId hcurrent
          obtain rfl : current = note := Option.some.inj (hcurrentData.symm.trans hdata)
          exact hfresh current.id
        exact hinitialized.of_same hsame
  · next note timers htimers =>
      have hlater : LoadedFor holds { editor with timers } := by
        refine ⟨hloaded.current, hloaded.switches, fun hsettled => hloaded.loaded ⟨hsettled.1, ?_⟩⟩
        rw [htimers]
        simpa using hsettled.2
      exact hlater.of_same (NoteEditor.sameNotes_deferImageLoading note _)

theorem runEffect (hloaded : LoadedFor holds editor) : LoadedFor holds editor.runEffect := by
  unfold NoteEditor.runEffect
  split
  · refine ⟨hloaded.current, hloaded.switches, fun hsettled noteId hcurrent => ?_⟩
    have htruthy : truthy editor.currentNoteId = some noteId :=
      Option.filter_eq_some_iff.mpr ⟨hcurrent, by simpa using (hloaded.current noteId hcurrent).1⟩
    have hload := hsettled.2
    dsimp only at hload
    rw [htruthy] at hload
    simp at hload
  · exact hloaded

theorem setCurrentNoteId {noteId : Option String} {data : Option Note}
    (hloaded : LoadedFor holds editor)
    (hnote : ∀ id, noteId = some id → id ≠ "" ∧ ∃ note, data = some note ∧ note.id = id) :
    LoadedFor holds { editor.setCurrentNoteId noteId with currentNoteData := data } := by
  refine ⟨hnote, hloaded.switches, ?_⟩
  rintro ⟨hpending, hload⟩ id hcurrent
  obtain ⟨hpending, hsame⟩ := Bool.or_eq_false_iff.mp hpending
  have hsame : noteId = editor.currentNoteId := by simpa using hsame
  exact hloaded.loaded ⟨hpending, hload⟩ id (hsame ▸ hcurrent)

theorem switchAnswered (hloaded : LoadedFor holds editor) (index : Nat)
    (answer : Option NoteContent) : LoadedFor holds (editor.switchAnswered index answer) := by
  have hswitches : ∀ switches, switches.map NoteSwitch.noteId = editor.switchIds →
      LoadedFor holds { editor with switches } := by
    refine fun switches hids => ⟨hloaded.current, ?_, hloaded.loaded⟩
    rw [NoteEditor.switchIds, hids]
    exact hloaded.switches
  obtain ⟨switches, hleft, hids⟩ | ⟨noteId, data, hcall, _, hanswered⟩ :=
    editor.switchAnswered_cases index answer
  · rw [hleft]
    exact hswitches switches hids
  · rw [hanswered]
    have hfinished : LoadedFor holds (editor.finishSwitch index) :=
      hswitches _ (editor.switchIds_finishSwitch index)
    refine hfinished.setCurrentNoteId fun id hid => ?_
    cases hid
    refine ⟨fun hempty => hloaded.switches ?_, _, rfl, rfl⟩
    exact List.mem_map.mpr ⟨_, List.mem_of_getElem? hcall, hempty⟩

theorem switchNote (hloaded : LoadedFor holds editor) (noteId : Option String) :
    LoadedFor holds (editor.switchNote noteId) := by
  have hsaved : LoadedFor holds (if editor.currentNoteId = noteId then editor
      else editor.saveCurrentNote) := by
    split
    · exact hloaded
    · exact hloaded.saveCurrentNote
  unfold NoteEditor.switchNote
  generalize (if editor.currentNoteId = noteId then editor else editor.saveCurrentNote) =
    saved at hsaved
  dsimp only
  cases htruthy : truthy noteId with
  | some id =>
      refine ⟨hsaved.current, ?_, hsaved.loaded⟩
      have hid : id ≠ "" := by simpa using (Option.filter_eq_some_iff.mp htruthy).2
      simpa [NoteEditor.switchIds, hid.symm] using hsaved.switches
  | none =>
      have hchanged : LoadedFor holds
          { saved with noteChanges := saved.noteChanges ++ [noteId] } :=
        ⟨hsaved.current, hsaved.switches, hsaved.loaded⟩
      exact hchanged.setCurrentNoteId fun id hid => by cases hid

theorem step (hfresh : ∀ noteId, holds noteId (some noteId) [])
    (hloaded : LoadedFor holds editor) (event : EditorEvent) :
    LoadedFor holds (editor.step event) := by
  cases event with
  | switchNote noteId => exact hloaded.switchNote noteId
  | switchAnswered index answer => exact hloaded.switchAnswered index answer
  | runEffect => exact hloaded.runEffect
  | runTimer => exact hloaded.runTimer hfresh
  | edit selection update => exact hloaded.of_same (editor.sameNotes_applyUpdate update selection)
  | storeImage update =>
      simp only [NoteEditor.step, NoteEditor.storeImage]
      split
      · exact hloaded
      · exact ⟨hloaded.current, hloaded.switches, hloaded.loaded⟩
  | imageMeasured index =>
      obtain hsame | ⟨noteId, update, _, hmeasured⟩ := editor.imageMeasured_cases index
      · simpa only [NoteEditor.step, hsame] using hloaded
      · have hedited := hloaded.of_same (editor.sameNotes_applyUpdate update .image)
        simp only [NoteEditor.step, hmeasured]
        exact ⟨hedited.current, hedited.switches, hedited.loaded⟩
  | saveNote => exact hloaded.saveCurrentNote

end LoadedFor

end Osvauld.Livnote
