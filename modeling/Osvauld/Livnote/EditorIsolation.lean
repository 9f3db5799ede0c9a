import Osvauld.Livnote.StoredEditor

namespace Osvauld.Livnote

open Osvauld.Core Data

/-! What is saved for a note is all that is stored for it, and only what is the
note's own. -/

variable {yjs : Yrs} {L : Type*} [SemilatticeSup L] [OrderBot L]
variable {lawful : EditorYjs yjs L} {own more : String → DocSelection → L}
variable {editor changed : NoteEditor yjs}

variable (lawful) in
def Fits (own : DocSelection → L) (content : NoteContent) : Prop :=
  Loadable lawful content ∧
    ∀ selection, lawful.meaning (content selection) ≤ (own selection : L)

variable (lawful) in
structure Apart (own : String → DocSelection → L) (editor : NoteEditor yjs) : Prop where
  ready : editor.onMainReady = none
  docs : ∀ noteId, editor.docsNote = some noteId → ∀ selection,
    lawful.state (editor.docs selection) ≤ own noteId selection
  data : ∀ note, editor.currentNoteData = some note → Fits lawful (own note.id) note.data
  deferred : ∀ note, .deferImageLoading note ∈ editor.timers →
    editor.docsNote = some note.id ∧ Fits lawful (own note.id) note.data
  saves : ∀ save ∈ editor.saves, Fits lawful (own save.noteId) save.content
  storing : ∀ image ∈ editor.storing, ∀ noteId, image.noteId = some noteId →
    lawful.meaning image.update ≤ (own noteId .image : L)

variable (lawful) in
def Covered (editor : NoteEditor yjs) (selection : DocSelection) (part : WithBot L) : Prop :=
  part ≤ (lawful.state (editor.docs selection) : L) ∨
    selection ≠ .main ∧ ∃ note, .deferImageLoading note ∈ editor.timers ∧
      part ≤ lawful.meaning (note.data selection)

variable (lawful) in
structure Retains (before after : NoteEditor yjs) : Prop where
  docsNote : after.docsNote = before.docsNote
  docs : ∀ selection, lawful.state (before.docs selection) ≤ lawful.state (after.docs selection)
  covered : ∀ selection part, Covered lawful before selection part →
    Covered lawful after selection part

theorem Fits.mono {own more : DocSelection → L} {content : NoteContent}
    (hfits : Fits lawful own content) (hmore : own ≤ more) : Fits lawful more content :=
  ⟨hfits.1, fun selection => (hfits.2 selection).trans (WithBot.coe_le_coe.mpr (hmore selection))⟩

theorem Apart.mono (hapart : Apart lawful own editor) (hmore : own ≤ more) :
    Apart lawful more editor where
  ready := hapart.ready
  docs noteId hnote selection := (hapart.docs noteId hnote selection).trans (hmore _ _)
  data note hdata := (hapart.data note hdata).mono (hmore _)
  deferred note hnote := ⟨(hapart.deferred note hnote).1, (hapart.deferred note hnote).2.mono (hmore _)⟩
  saves save hsave := (hapart.saves save hsave).mono (hmore _)
  storing image himage noteId hnote :=
    (hapart.storing image himage noteId hnote).trans (WithBot.coe_le_coe.mpr (hmore _ _))

theorem Retains.refl (editor : NoteEditor yjs) : Retains lawful editor editor :=
  ⟨rfl, fun _ => le_rfl, fun _ _ hcovered => hcovered⟩

theorem Retains.trans {first second third : NoteEditor yjs}
    (hfirst : Retains lawful first second) (hsecond : Retains lawful second third) :
    Retains lawful first third :=
  ⟨hsecond.docsNote.trans hfirst.docsNote,
    fun selection => (hfirst.docs selection).trans (hsecond.docs selection),
    fun selection part hcovered =>
      hsecond.covered selection part (hfirst.covered selection part hcovered)⟩

theorem Retains.of_grown (hnote : changed.docsNote = editor.docsNote)
    (hdocs : ∀ selection, lawful.state (editor.docs selection) ≤
      lawful.state (changed.docs selection))
    (htimers : ∀ note, .deferImageLoading note ∈ editor.timers →
      .deferImageLoading note ∈ changed.timers) : Retains lawful editor changed := by
  refine ⟨hnote, hdocs, fun selection part hcovered => ?_⟩
  rcases hcovered with hhas | ⟨hother, note, hdeferred, hpart⟩
  · exact .inl (hhas.trans (WithBot.coe_le_coe.mpr (hdocs selection)))
  · exact .inr ⟨hother, note, htimers note hdeferred, hpart⟩

theorem SameNotes.timers_eq (hsame : SameNotes editor changed)
    (hready : editor.onMainReady = none) :
    changed.onMainReady = none ∧ changed.timers = editor.timers := by
  rcases hsame.waiting with ⟨hwaiting, htimers, _⟩ | ⟨_, _, note, hwaiting, _⟩
  · exact ⟨hwaiting.trans hready, htimers⟩
  · cases hready.symm.trans hwaiting

def NoteEditor.loadArray (note : Note) (selection : DocSelection) (editor : NoteEditor yjs) :
    NoteEditor yjs :=
  if (note.data selection).isEmpty then editor
  else editor.orUnchanged (editor.applyUpdate (note.data selection) selection)

theorem Apart.of_same (hapart : Apart lawful own editor) (hsame : SameNotes editor changed)
    (hdocs : ∀ noteId, editor.docsNote = some noteId → ∀ selection,
      lawful.state (changed.docs selection) ≤ own noteId selection) :
    Apart lawful own changed := by
  obtain ⟨hready, htimers⟩ := hsame.timers_eq hapart.ready
  refine ⟨hready, ?_, ?_, ?_, ?_, ?_⟩
  · rwa [hsame.docsNote]
  · rw [hsame.currentNoteData]
    exact hapart.data
  · rw [htimers, hsame.docsNote]
    exact hapart.deferred
  · rw [hsame.saves]
    exact hapart.saves
  · rw [hsame.storing]
    exact hapart.storing

theorem meaning_createNoteContent (editor : NoteEditor yjs) (selection : DocSelection) :
    lawful.meaning (editor.createNoteContent selection) =
      (lawful.state (editor.docs selection) : L) :=
  lawful.meaning_stateAsUpdate _

namespace Apart

theorem applyUpdate (hapart : Apart lawful own editor) (update : Bytes)
    (selection : DocSelection)
    (hown : ∀ noteId, editor.docsNote = some noteId →
      lawful.meaning update ≤ (own noteId selection : L)) :
    Apart lawful own (editor.orUnchanged (editor.applyUpdate update selection)) ∧
      Retains lawful editor (editor.orUnchanged (editor.applyUpdate update selection)) := by
  unfold NoteEditor.orUnchanged
  cases happly : editor.applyUpdate update selection with
  | error error => exact ⟨hapart, .refl editor⟩
  | ok changed =>
      have hgrown := editor.docs_le_applyUpdate lawful.toLawfulYrs update selection
      rw [happly] at hgrown
      obtain ⟨hsame, doc, hdoc, hdocs⟩ := NoteEditor.applyUpdate_ok happly
      obtain ⟨brought, hmeaning, hstate⟩ := lawful.state_applyUpdate _ _ _ hdoc
      refine ⟨hapart.of_same hsame fun noteId hnote other => ?_,
        .of_grown hsame.docsNote hgrown ?_⟩
      · rw [hdocs, Function.update_apply]
        split
        · next hother =>
            subst hother
            rw [hstate]
            refine sup_le (hapart.docs noteId hnote other) ?_
            simpa [hmeaning] using hown noteId hnote
        · exact hapart.docs noteId hnote other
      · rw [(hsame.timers_eq hapart.ready).2]
        exact fun _ hnote => hnote

variable {note : Note}

theorem loadArray (hapart : Apart lawful own editor) (hnote : editor.docsNote = some note.id)
    (hfits : Fits lawful (own note.id) note.data) (selection : DocSelection) :
    Apart lawful own (editor.loadArray note selection) ∧
      Retains lawful editor (editor.loadArray note selection) ∧
      lawful.meaning (note.data selection) ≤
        (lawful.state ((editor.loadArray note selection).docs selection) : L) := by
  obtain ⟨held, hheld⟩ := hfits.1.2 selection
  unfold NoteEditor.loadArray
  split
  · next hempty =>
      refine ⟨hapart, .refl editor, ?_⟩
      rw [List.isEmpty_iff.mp hempty, lawful.meaning_nil]
      exact WithBot.coe_le_coe.mpr bot_le
  · next hnonempty =>
      have happlied := hapart.applyUpdate (note.data selection) selection
        fun noteId hopen => by
          obtain rfl : note.id = noteId := Option.some.inj (hnote.symm.trans hopen)
          exact hfits.2 selection
      refine ⟨happlied.1, happlied.2, ?_⟩
      obtain ⟨changed, happly, hhas⟩ := editor.meaning_le_applyUpdate lawful.toExactYrs
        (by simpa using hnonempty) hheld selection
      rw [happly, hheld]
      exact WithBot.coe_le_coe.mpr hhas

theorem deferImageLoading_eq (hloadable : Loadable lawful note.data) :
    editor.deferImageLoading note =
      (editor.loadArray note .image).loadArray note .comment := by
  obtain ⟨held, hheld⟩ := hloadable.2 .image
  unfold NoteEditor.deferImageLoading NoteEditor.loadArray
  split
  · rfl
  · next hnonempty =>
      obtain ⟨changed, happly, _⟩ := editor.meaning_le_applyUpdate lawful.toExactYrs
        (by simpa using hnonempty) hheld .image
      simp only [happly, NoteEditor.orUnchanged]
      rfl

section

variable (hapart : Apart lawful own editor)

include hapart

theorem deferImageLoading (hnote : editor.docsNote = some note.id)
    (hfits : Fits lawful (own note.id) note.data) :
    Apart lawful own (editor.deferImageLoading note) ∧
      Retains lawful editor (editor.deferImageLoading note) ∧
      ∀ selection ≠ .main, lawful.meaning (note.data selection) ≤
        (lawful.state ((editor.deferImageLoading note).docs selection) : L) := by
  rw [deferImageLoading_eq hfits.1]
  obtain ⟨himages, hretains, himage⟩ := hapart.loadArray hnote hfits .image
  obtain ⟨hcomments, hretains', hcomment⟩ :=
    himages.loadArray (hretains.docsNote.trans hnote) hfits .comment
  refine ⟨hcomments, hretains.trans hretains', fun selection hselection => ?_⟩
  cases selection with
  | main => exact absurd rfl hselection
  | image => exact himage.trans (WithBot.coe_le_coe.mpr (hretains'.docs .image))
  | comment => exact hcomment

theorem popped {timer : NoteTimer} {timers : List NoteTimer}
    (htimers : editor.timers = timer :: timers) : Apart lawful own { editor with timers } where
  ready := hapart.ready
  docs := hapart.docs
  data := hapart.data
  deferred note hnote := hapart.deferred note (htimers ▸ List.mem_cons_of_mem _ hnote)
  saves := hapart.saves
  storing := hapart.storing

theorem runTimer_deferred {timers : List NoteTimer}
    (htimers : editor.timers = .deferImageLoading note :: timers) :
    Apart lawful own editor.runTimer ∧ Retains lawful editor editor.runTimer := by
  obtain ⟨hnote, hfits⟩ := hapart.deferred note (by simp [htimers])
  obtain ⟨hdone, hretains, hloaded⟩ := (hapart.popped htimers).deferImageLoading hnote hfits
  have hrun : editor.runTimer = ({ editor with timers } : NoteEditor yjs).deferImageLoading note := by
    rw [NoteEditor.runTimer, htimers]
  rw [hrun]
  refine ⟨hdone, hretains.docsNote, hretains.docs, fun selection part hcovered => ?_⟩
  rcases hcovered with hhas | ⟨hother, other, hdeferred, hpart⟩
  · exact hretains.covered selection part (.inl hhas)
  · rw [htimers] at hdeferred
    rcases List.mem_cons.mp hdeferred with heq | hrest
    · cases heq
      exact .inl (hpart.trans (hloaded selection hother))
    · exact hretains.covered selection part (.inr ⟨hother, other, hrest, hpart⟩)

theorem loadNote (hdata : editor.currentNoteData = some note)
    (hothers : ∀ other, .deferImageLoading other ∈ editor.timers → other.id = note.id) :
    Apart lawful own editor.loadNote ∧ editor.loadNote.docsNote = some note.id ∧
      ∀ selection, Covered lawful editor.loadNote selection
        (lawful.meaning (note.data selection)) := by
  have hfits := hapart.data note hdata
  obtain ⟨held, hheld⟩ := hfits.1.2 .main
  obtain ⟨doc, hdoc⟩ := lawful.applies yjs.new (note.data .main) held hfits.1.1 hheld
  obtain ⟨brought, hmeaning, hstate⟩ := lawful.state_applyUpdate _ _ _ hdoc
  have hmain : lawful.meaning (note.data .main) = (lawful.state doc : L) := by
    rw [hmeaning, hstate, lawful.state_new, sup_of_le_right bot_le]
  have hloaded : editor.loadNote =
      { (editor.initializeDocs note).setDoc .main doc with
        onMainReady := none, editorReady := true
        timers := editor.timers ++ [.deferImageLoading note] } := by
    simp only [NoteEditor.loadNote, hdata, NoteEditor.applyUpdate, NoteEditor.initializeDocs, hdoc,
      Except.map, NoteEditor.orUnchanged, NoteEditor.setDoc, NoteEditor.handleMainDocReady]
  rw [hloaded]
  refine ⟨⟨rfl, ?_, hapart.data, ?_, hapart.saves, hapart.storing⟩, rfl, fun selection => ?_⟩
  · rintro noteId hnote selection
    obtain rfl : note.id = noteId := Option.some.inj hnote
    cases selection with
    | main => simpa [NoteEditor.setDoc, hmain] using hfits.2 .main
    | image => simp [NoteEditor.setDoc, NoteEditor.initializeDocs, lawful.state_new]
    | comment => simp [NoteEditor.setDoc, NoteEditor.initializeDocs, lawful.state_new]
  · intro other hother
    rcases List.mem_append.mp hother with hold | hnew
    · have hsame := hothers other hold
      exact ⟨congrArg some hsame.symm, (hapart.deferred other hold).2⟩
    · cases List.mem_singleton.mp hnew
      exact ⟨rfl, hfits⟩
  · cases selection with
    | main => exact .inl (by simp [NoteEditor.setDoc, hmain])
    | image => exact .inr ⟨by simp, note, by simp, le_rfl⟩
    | comment => exact .inr ⟨by simp, note, by simp, le_rfl⟩

theorem fits_createNoteContent {noteId : String} (hnote : editor.docsNote = some noteId) :
    Fits lawful (own noteId) editor.createNoteContent := by
  refine ⟨⟨lawful.stateAsUpdate_ne_nil _, fun selection => ⟨_, lawful.meaning_stateAsUpdate _⟩⟩, ?_⟩
  intro selection
  rw [meaning_createNoteContent]
  exact WithBot.coe_le_coe.mpr (hapart.docs noteId hnote selection)

theorem saveCurrentNote
    (hnote : editor.currentNoteId.isSome → editor.editorReady = true →
      editor.docsNote = editor.currentNoteId) : Apart lawful own editor.saveCurrentNote := by
  obtain hsame | ⟨noteId, hcurrent, hready, hsaved⟩ := editor.saveCurrentNote_cases
  · rwa [hsame]
  · rw [hsaved]
    refine ⟨hapart.ready, hapart.docs, hapart.data, hapart.deferred, fun save hsave => ?_,
      hapart.storing⟩
    rcases List.mem_append.mp hsave with hold | hnew
    · exact hapart.saves save hold
    · obtain rfl := List.mem_singleton.mp hnew
      exact hapart.fits_createNoteContent ((hnote (by simp [hcurrent]) hready).trans hcurrent)

theorem switchNote (noteId : Option String)
    (hnote : editor.currentNoteId ≠ noteId → editor.currentNoteId.isSome →
      editor.editorReady = true → editor.docsNote = editor.currentNoteId) :
    Apart lawful own (editor.switchNote noteId) := by
  have hsaved : Apart lawful own (if editor.currentNoteId = noteId then editor
      else editor.saveCurrentNote) := by
    split
    · exact hapart
    · next hother => exact hapart.saveCurrentNote (hnote hother)
  unfold NoteEditor.switchNote
  generalize (if editor.currentNoteId = noteId then editor else editor.saveCurrentNote) =
    saved at hsaved
  dsimp only
  cases truthy noteId with
  | some id => exact ⟨hsaved.ready, hsaved.docs, hsaved.data, hsaved.deferred, hsaved.saves,
      hsaved.storing⟩
  | none =>
      refine ⟨hsaved.ready, hsaved.docs, ?_, hsaved.deferred, hsaved.saves, hsaved.storing⟩
      exact fun _ hdata => by cases hdata

theorem switchAnswered (index : Nat) (answer : Option NoteContent)
    (hanswer : ∀ noteId content, editor.switchIds[index]? = some noteId →
      answer = some content → Fits lawful (own noteId) content) :
    Apart lawful own (editor.switchAnswered index answer) := by
  obtain ⟨switches, hleft, _⟩ | ⟨noteId, data, hcall, rfl, hanswered⟩ :=
    editor.switchAnswered_cases index answer
  · rw [hleft]
    exact ⟨hapart.ready, hapart.docs, hapart.data, hapart.deferred, hapart.saves, hapart.storing⟩
  · rw [hanswered]
    refine ⟨hapart.ready, hapart.docs, fun note hnote => ?_, hapart.deferred, hapart.saves,
      hapart.storing⟩
    cases hnote
    exact hanswer noteId data (by simp [NoteEditor.switchIds, hcall]) rfl

theorem runEffect : Apart lawful own editor.runEffect := by
  unfold NoteEditor.runEffect
  split
  · refine ⟨hapart.ready, hapart.docs, hapart.data, fun note hnote => hapart.deferred note ?_,
      hapart.saves, hapart.storing⟩
    dsimp only at hnote
    split at hnote
    · simpa using hnote
    · exact hnote
  · exact hapart

theorem storeImage (update : Bytes)
    (hown : ∀ noteId, editor.docsNote = some noteId →
      lawful.meaning update ≤ (own noteId .image : L)) :
    Apart lawful own (editor.storeImage update) := by
  unfold NoteEditor.storeImage
  split
  · exact hapart
  · next noteId hnote =>
      refine ⟨hapart.ready, hapart.docs, hapart.data, hapart.deferred, hapart.saves, ?_⟩
      intro image himage other hother
      rcases List.mem_append.mp himage with hold | hnew
      · exact hapart.storing image hold other hother
      · obtain rfl := List.mem_singleton.mp hnew
        obtain rfl : noteId = other := Option.some.inj hother
        exact hown noteId hnote

theorem imageMeasured (index : Nat)
    (hnote : ∀ noteId update, editor.storing[index]? = some ⟨noteId, update, false⟩ →
      noteId = editor.docsNote) :
    Apart lawful own (editor.imageMeasured index) ∧
      Retains lawful editor (editor.imageMeasured index) := by
  obtain hsame | ⟨noteId, update, himage, hmeasured⟩ := editor.imageMeasured_cases index
  · rw [hsame]
    exact ⟨hapart, .refl editor⟩
  · obtain rfl := hnote noteId update himage
    obtain ⟨hedited, hretains⟩ := hapart.applyUpdate update .image
      fun noteId hopen => hapart.storing _ (List.mem_of_getElem? himage) noteId hopen
    have hsame := editor.sameNotes_applyUpdate update .image
    rw [hmeasured]
    refine ⟨⟨hedited.ready, hedited.docs, hedited.data, hedited.deferred, hedited.saves, ?_⟩,
      hretains.docsNote, hretains.docs, hretains.covered⟩
    intro image hmem other hother
    obtain ⟨position, hposition⟩ := List.mem_iff_getElem?.mp hmem
    rw [List.getElem?_modify] at hposition
    obtain ⟨before, hbefore, rfl⟩ := Option.map_eq_some_iff.mp hposition
    have hstored := hapart.storing before (List.mem_of_getElem? hbefore)
    by_cases hindex : index = position
    · simp only [if_pos hindex] at hother ⊢
      exact hstored other hother
    · simp only [if_neg hindex] at hother ⊢
      exact hstored other hother

end

end Apart

variable (lawful) in
theorem le_giveOwn (event : EditorEvent) (docsNote : Option String)
    (own : String → DocSelection → L) : own ≤ giveOwn lawful event docsNote own := by
  unfold giveOwn
  split
  · intro noteId selection
    dsimp only
    split
    · exact le_sup_left
    · exact le_rfl
  · exact le_rfl

variable {event : EditorEvent} {noteId : String}

theorem meaning_le_giveOwn {selection : DocSelection} {update : Bytes}
    (hgives : event.gives lawful = some (selection, (lawful.meaning update).unbotD ⊥))
    {docsNote : Option String} (hnote : docsNote = some noteId) :
    lawful.meaning update ≤ (giveOwn lawful event docsNote own noteId selection : L) := by
  subst hnote
  refine (WithBot.le_coe_unbotD _ ⊥).trans (WithBot.coe_le_coe.mpr ?_)
  simp [giveOwn, hgives]

variable (lawful) in
structure Isolated (stored : StoredEditor yjs L) : Prop where
  current : LoadedFor (fun noteId docsNote _ => docsNote = some noteId) stored.editor
  apart : Apart lawful stored.own stored.editor
  store : ∀ noteId content, stored.store noteId = some content →
    Fits lawful (stored.own noteId) content
  credentials : ∀ credential ∈ stored.credentials, ∃ noteId,
    stored.editor.switchIds[credential.1]? = some noteId ∧
      Fits lawful (stored.own noteId) credential.2
  covers : ∀ noteId, stored.editor.docsNote = some noteId → ∀ content,
    stored.Held noteId content → ∀ selection,
      Covered lawful stored.editor selection (lawful.meaning (content selection))
  contains : ∀ index save, stored.editor.saves[index]? = some save → index ∉ stored.written →
    ∀ content, stored.HeldBefore index save.noteId content → ∀ selection,
      lawful.meaning (content selection) ≤ lawful.meaning (save.content selection)

variable {stored : StoredEditor yjs L}

omit [SemilatticeSup L] [OrderBot L] in
theorem held_of_heldBefore {index : Nat} {content : NoteContent}
    (hheld : stored.HeldBefore index noteId content) : stored.Held noteId content := by
  rcases hheld with hstore | ⟨earlier, _, save, hsave, hleft⟩
  · exact .inl hstore
  · exact .inr ⟨earlier, (List.getElem?_eq_some_iff.mp hsave).1, save, hsave, hleft⟩

omit [SemilatticeSup L] [OrderBot L] in
theorem heldBefore_of_saves {added : List NoteSave} {index : Nat}
    (hsaves : changed.saves = stored.editor.saves ++ added) {content : NoteContent}
    (hheld : StoredEditor.HeldBefore
      { stored with editor := changed, own := more } index noteId content) :
    stored.HeldBefore index noteId content ∨ stored.editor.saves.length < index ∧
      ∃ save ∈ added, save.noteId = noteId ∧ save.content = content := by
  rcases hheld with hstore | ⟨earlier, hlt, save, hsave, hleft⟩
  · exact .inl (.inl hstore)
  · dsimp only at hsave
    rw [hsaves] at hsave
    rcases lt_or_ge earlier stored.editor.saves.length with hold | hnew
    · rw [List.getElem?_append_left hold] at hsave
      exact .inl (.inr ⟨earlier, hlt, save, hsave, hleft⟩)
    · rw [List.getElem?_append_right hnew] at hsave
      exact .inr ⟨hnew.trans_lt hlt, save, List.mem_of_getElem? hsave, hleft.2⟩

theorem Isolated.editorStep (hiso : Isolated lawful stored) (hmore : stored.own ≤ more)
    (hapart : Apart lawful more (stored.editor.step event))
    (hcovers : ∀ noteId, (stored.editor.step event).docsNote = some noteId → ∀ content,
      stored.Held noteId content → ∀ selection,
        Covered lawful (stored.editor.step event) selection (lawful.meaning (content selection)))
    (hsaved : event.SavesNote stored.editor →
      stored.editor.docsNote = stored.editor.currentNoteId ∧
        Retains lawful stored.editor (stored.editor.step event) ∧
        ∀ note, .deferImageLoading note ∈ stored.editor.timers → ∀ selection ≠ .main,
          lawful.meaning (note.data selection) ≤
            (lawful.state (stored.editor.docs selection) : L)) :
    Isolated lawful { stored with editor := stored.editor.step event, own := more } := by
  have hstore : ∀ noteId content, stored.store noteId = some content →
      Fits lawful (more noteId) content :=
    fun noteId content hstore => (hiso.store noteId content hstore).mono (hmore noteId)
  have hcredentials : ∀ credential ∈ stored.credentials, ∃ noteId,
      (stored.editor.step event).switchIds[credential.1]? = some noteId ∧
        Fits lawful (more noteId) credential.2 := by
    intro credential hcredential
    obtain ⟨noteId, hid, hfits⟩ := hiso.credentials credential hcredential
    obtain ⟨hindex, rfl⟩ := List.getElem?_eq_some_iff.mp hid
    exact ⟨_, List.prefix_iff_getElem?.mp (stored.editor.switchIds_step event) _ hindex,
      hfits.mono (hmore _)⟩
  refine ⟨hiso.current.step (fun _ => rfl) event, hapart, hstore, hcredentials, ?_, ?_⟩
  · intro noteId hnote content hheld selection
    rcases stored.editor.saves_step event with hsame | ⟨current, hcurrent, hsaves, hnew⟩
    · rcases heldBefore_of_saves (hsame.trans (List.append_nil _).symm) hheld with hold | hadded
      · exact hcovers noteId hnote content (held_of_heldBefore hold) selection
      · simp at hadded
    · rcases heldBefore_of_saves hnew hheld with hold | ⟨_, save, hsave, _, rfl⟩
      · exact hcovers noteId hnote content (held_of_heldBefore hold) selection
      · obtain rfl := List.mem_singleton.mp hsave
        dsimp only
        rw [meaning_createNoteContent]
        exact .inl (WithBot.coe_le_coe.mpr ((hsaved hsaves).2.1.docs selection))
  · intro index save hsave hleft content hheld selection
    dsimp only at hsave
    rcases stored.editor.saves_step event with hsame | ⟨noteId, hcurrent, hsaves, hnew⟩
    · rw [hsame] at hsave
      rcases heldBefore_of_saves (hsame.trans (List.append_nil _).symm) hheld with hold | hadded
      · exact hiso.contains index save hsave hleft content hold selection
      · simp at hadded
    · rw [hnew] at hsave
      rcases heldBefore_of_saves hnew hheld with hold | ⟨hlast, _⟩
      · rcases lt_or_ge index stored.editor.saves.length with hindex | hindex
        · rw [List.getElem?_append_left hindex] at hsave
          exact hiso.contains index save hsave hleft content hold selection
        · -- The new save has what the documents have, with nothing left to load.
          rw [List.getElem?_append_right hindex] at hsave
          obtain rfl := List.mem_singleton.mp (List.mem_of_getElem? hsave)
          obtain ⟨hdocs, _, hnothing⟩ := hsaved hsaves
          dsimp only
          rw [meaning_createNoteContent]
          rcases hiso.covers noteId (hdocs.trans hcurrent) content (held_of_heldBefore hold)
            selection with hhas | ⟨hother, note, hdeferred, hpart⟩
          · exact hhas
          · exact hpart.trans (hnothing note hdeferred selection hother)
      · have hindex := (List.getElem?_eq_some_iff.mp hsave).1
        simp only [List.length_append, List.length_singleton] at hindex
        omega

theorem Isolated.retained (hiso : Isolated lawful stored) (hmore : stored.own ≤ more)
    (hapart : Apart lawful more (stored.editor.step event))
    (hretains : Retains lawful stored.editor (stored.editor.step event))
    (hsaved : event.SavesNote stored.editor →
      stored.editor.docsNote = stored.editor.currentNoteId ∧
        ∀ note, .deferImageLoading note ∈ stored.editor.timers → ∀ selection ≠ .main,
          lawful.meaning (note.data selection) ≤
            (lawful.state (stored.editor.docs selection) : L)) :
    Isolated lawful { stored with editor := stored.editor.step event, own := more } :=
  hiso.editorStep hmore hapart
    (fun noteId hnote content hheld selection => hretains.covered selection _
      (hiso.covers noteId (hretains.docsNote ▸ hnote) content hheld selection))
    fun hsaves => ⟨(hsaved hsaves).1, hretains, (hsaved hsaves).2⟩

namespace Retains

section

variable (editor : NoteEditor yjs)

theorem saveCurrentNote : Retains lawful editor editor.saveCurrentNote := by
  obtain hsame | ⟨_, _, _, hsaved⟩ := editor.saveCurrentNote_cases
  · rw [hsame]
    exact .refl editor
  · rw [hsaved]
    exact .of_grown rfl (fun _ => le_rfl) fun _ hnote => hnote

theorem switchNote (noteId : Option String) : Retains lawful editor (editor.switchNote noteId) := by
  have hsaved : Retains lawful editor (if editor.currentNoteId = noteId then editor
      else editor.saveCurrentNote) := by
    split
    · exact .refl editor
    · exact .saveCurrentNote editor
  unfold NoteEditor.switchNote
  generalize (if editor.currentNoteId = noteId then editor else editor.saveCurrentNote) =
    saved at hsaved
  dsimp only
  cases truthy noteId with
  | some id => exact hsaved.trans (.of_grown rfl (fun _ => le_rfl) fun _ hnote => hnote)
  | none => exact hsaved.trans (.of_grown rfl (fun _ => le_rfl) fun _ hnote => hnote)

theorem switchAnswered (index : Nat) (answer : Option NoteContent) :
    Retains lawful editor (editor.switchAnswered index answer) := by
  obtain ⟨switches, hleft, _⟩ | ⟨noteId, data, _, _, hanswered⟩ :=
    editor.switchAnswered_cases index answer
  · rw [hleft]
    exact .of_grown rfl (fun _ => le_rfl) fun _ hnote => hnote
  · rw [hanswered]
    exact .of_grown rfl (fun _ => le_rfl) fun _ hnote => hnote

theorem runEffect : Retains lawful editor editor.runEffect := by
  unfold NoteEditor.runEffect
  split
  · refine .of_grown rfl (fun _ => le_rfl) fun note hnote => ?_
    dsimp only
    split
    · exact List.mem_append_left _ hnote
    · exact hnote
  · exact .refl editor

theorem storeImage (update : Bytes) : Retains lawful editor (editor.storeImage update) := by
  unfold NoteEditor.storeImage
  split
  · exact .refl editor
  · exact .of_grown rfl (fun _ => le_rfl) fun _ hnote => hnote

end

end Retains

namespace Isolated

section

variable (hiso : Isolated lawful stored)

include hiso

theorem runTimer (hturn : InTurn lawful (.editor .runTimer) stored) (hmore : stored.own ≤ more) :
    Isolated lawful { stored with editor := stored.editor.step .runTimer, own := more } := by
  have hapart := hiso.apart.mono hmore
  have hnoSave : ¬EditorEvent.runTimer.SavesNote stored.editor := by
    simp [EditorEvent.SavesNote]
  cases htimers : stored.editor.timers with
  | nil =>
      have hsame : stored.editor.step .runTimer = stored.editor := by
        rw [NoteEditor.step, NoteEditor.runTimer, htimers]
      refine hiso.retained hmore ?_ ?_ fun hsaves => absurd hsaves hnoSave
      · rwa [hsame]
      · rw [hsame]
        exact .refl _
  | cons timer timers =>
      cases timer with
      | deferImageLoading note =>
          obtain ⟨hrun, hretains⟩ := hapart.runTimer_deferred htimers
          exact hiso.retained hmore hrun hretains fun hsaves => absurd hsaves hnoSave
      | loadNote =>
          have hpopped := hapart.popped htimers
          have hrun : stored.editor.step .runTimer =
              ({ stored.editor with timers } : NoteEditor yjs).loadNote := by
            rw [NoteEditor.step, NoteEditor.runTimer, htimers]
          cases hdata : stored.editor.currentNoteData with
          | none =>
              have hnone : ({ stored.editor with timers } : NoteEditor yjs).loadNote =
                  { stored.editor with timers } := by
                rw [NoteEditor.loadNote]
                simp only [hdata]
              rw [hnone] at hrun
              refine hiso.retained hmore (hrun ▸ hpopped) ?_ fun hsaves => absurd hsaves hnoSave
              rw [hrun]
              refine .of_grown rfl (fun _ => le_rfl) fun note hnote => ?_
              simpa [htimers] using hnote
          | some note =>
              obtain ⟨hothers, hheld⟩ := hturn.loaded timers note rfl htimers hdata
              obtain ⟨hloaded, hnote, hcovered⟩ := hpopped.loadNote hdata hothers
              rw [← hrun] at hloaded hnote hcovered
              refine hiso.editorStep hmore hloaded ?_ fun hsaves => absurd hsaves hnoSave
              intro noteId hdocs content hcontent selection
              obtain rfl : note.id = noteId := Option.some.inj (hnote.symm.trans hdocs)
              rcases hcovered selection with hhas | ⟨hother, other, hdeferred, hpart⟩
              · exact .inl ((hheld content hcontent selection).trans hhas)
              · exact .inr ⟨hother, other, hdeferred,
                  (hheld content hcontent selection).trans hpart⟩

theorem editorEvent {event : EditorEvent} (hturn : InTurn lawful (.editor event) stored) :
    Isolated lawful (stored.step lawful (.editor event)) := by
  have hmore := le_giveOwn lawful event stored.editor.docsNote stored.own
  have hapart := hiso.apart.mono hmore
  have hsaved : event.SavesNote stored.editor →
      stored.editor.docsNote = stored.editor.currentNoteId ∧
        ∀ note, .deferImageLoading note ∈ stored.editor.timers → ∀ selection ≠ .main,
          lawful.meaning (note.data selection) ≤
            (lawful.state (stored.editor.docs selection) : L) := by
    intro hsaves
    obtain ⟨hdocs, hnothing⟩ := hturn.saved event rfl hsaves
    refine ⟨?_, hnothing⟩
    rcases hdocs with hsettled | hsame
    · obtain ⟨noteId, hcurrent⟩ := Option.isSome_iff_exists.mp hsaves.1
      exact (hiso.current.loaded hsettled noteId hcurrent).trans hcurrent.symm
    · exact hsame
  cases event with
  | switchNote noteId =>
      refine hiso.retained hmore (hapart.switchNote noteId fun hother hopen hready => ?_)
        (.switchNote _ noteId) hsaved
      exact (hsaved ⟨hopen, hready, .inr ⟨noteId, rfl, hother⟩⟩).1
  | switchAnswered index answer =>
      cases answer with
      | some content => exact hiso
      | none =>
          have hanswered : Apart lawful _
              (stored.editor.step (.switchAnswered index none)) :=
            hapart.switchAnswered index none (by simp)
          exact hiso.retained hmore hanswered (.switchAnswered _ index none) hsaved
  | runEffect => exact hiso.retained hmore hapart.runEffect (.runEffect _) hsaved
  | runTimer => exact hiso.runTimer hturn hmore
  | edit selection update =>
      obtain ⟨hedited, hretains⟩ := hapart.applyUpdate update selection
        fun noteId hnote => meaning_le_giveOwn rfl hnote
      exact hiso.retained hmore hedited hretains hsaved
  | storeImage update =>
      exact hiso.retained hmore (hapart.storeImage update fun noteId hnote =>
        meaning_le_giveOwn rfl hnote) (.storeImage _ update) hsaved
  | imageMeasured index =>
      obtain ⟨hmeasured, hretains⟩ := hapart.imageMeasured index fun noteId update himage =>
        hturn.measured index noteId update rfl himage
      exact hiso.retained hmore hmeasured hretains hsaved
  | saveNote =>
      refine hiso.retained hmore (hapart.saveCurrentNote fun hopen hready => ?_)
        (.saveCurrentNote _) hsaved
      exact (hsaved ⟨hopen, hready, .inl rfl⟩).1

theorem getCredential (index : Nat) :
    Isolated lawful (stored.step lawful (.getCredential index)) := by
  simp only [StoredEditor.step]
  split
  · next content hread =>
      refine ⟨hiso.current, hiso.apart, hiso.store, ?_, hiso.covers, hiso.contains⟩
      intro credential hcredential
      rcases List.mem_append.mp hcredential with hold | hnew
      · exact hiso.credentials credential hold
      · obtain rfl := List.mem_singleton.mp hnew
        obtain ⟨call, hcall, hstore⟩ := Option.bind_eq_some_iff.mp hread
        exact ⟨call.noteId, by simp [NoteEditor.switchIds, hcall],
          hiso.store call.noteId content hstore⟩
  · exact hiso

theorem credentialArrived (position : Nat) :
    Isolated lawful (stored.step lawful (.credentialArrived position)) := by
  simp only [StoredEditor.step]
  split
  · next index content hcredential =>
      obtain ⟨noteId, hid, hfits⟩ := hiso.credentials _ (List.mem_of_getElem? hcredential)
      have happlied : Apart lawful stored.own
          (stored.editor.step (.switchAnswered index (some content))) := by
        refine hiso.apart.switchAnswered index (some content) fun other _ hother heq => ?_
        cases heq
        cases hid.symm.trans hother
        exact hfits
      exact hiso.retained le_rfl happlied (.switchAnswered _ index (some content))
        (by simp [EditorEvent.SavesNote])
  · exact hiso

theorem saveStored {index : Nat} (hturn : InTurn lawful (.saveStored index) stored) :
    Isolated lawful (stored.step lawful (.saveStored index)) := by
  simp only [StoredEditor.step]
  split
  · next save hsave =>
      split
      · exact hiso
      · next hleft =>
          have hindex := (List.getElem?_eq_some_iff.mp hsave).1
          have hheld : ∀ limit noteId content, StoredEditor.HeldBefore { stored with
              store := Function.update stored.store save.noteId (some save.content)
              written := stored.written ++ [index] } limit noteId content →
              stored.HeldBefore limit noteId content ∨
                noteId = save.noteId ∧ content = save.content := by
            rintro limit noteId content (hstore | ⟨earlier, hlt, other, hother, hwritten, hrest⟩)
            · dsimp only at hstore
              rw [Function.update_apply] at hstore
              split at hstore
              · next hnote => exact .inr ⟨hnote, (Option.some.inj hstore).symm⟩
              · exact .inl (.inl hstore)
            · exact .inl (.inr ⟨earlier, hlt, other, hother,
                fun hmem => hwritten (List.mem_append_left _ hmem), hrest⟩)
          refine ⟨hiso.current, hiso.apart, ?_, hiso.credentials, ?_, ?_⟩
          · intro noteId content hstore
            dsimp only at hstore
            rw [Function.update_apply] at hstore
            split at hstore
            · next hnote =>
                cases hstore
                rw [hnote]
                exact hiso.apart.saves save (List.mem_of_getElem? hsave)
            · exact hiso.store noteId content hstore
          · intro noteId hnote content hcontent
            rcases hheld _ _ _ hcontent with hold | ⟨rfl, rfl⟩
            · exact hiso.covers noteId hnote content hold
            · exact hiso.covers _ hnote _ (.inr ⟨index, hindex, save, hsave, hleft, rfl, rfl⟩)
          · intro later other hother hwritten content hcontent
            simp only [List.mem_append, List.mem_singleton, not_or] at hwritten
            rcases hheld _ _ _ hcontent with hold | ⟨hnote, rfl⟩
            · exact hiso.contains later other hother hwritten.1 content hold
            · -- The saves of the note before this one are stored already.
              have hlt : index < later := by
                refine lt_of_le_of_ne (not_lt.mp fun hearlier => hwritten.1 ?_)
                  (Ne.symm hwritten.2)
                exact hturn.stored index save rfl hsave later hearlier other hother hnote
              exact hiso.contains later other hother hwritten.1 _
                (.inr ⟨index, hlt, save, hsave, hleft, hnote.symm, rfl⟩)
  · exact hiso

end

theorem step (hiso : Isolated lawful stored) {event : StoredEvent}
    (hturn : InTurn lawful event stored) : Isolated lawful (stored.step lawful event) := by
  cases event with
  | editor event => exact hiso.editorEvent hturn
  | getCredential index => exact hiso.getCredential index
  | credentialArrived position => exact hiso.credentialArrived position
  | saveStored index => exact hiso.saveStored hturn

theorem opening {store : String → Option NoteContent}
    (hloadable : ∀ noteId content, store noteId = some content → Loadable lawful content) :
    Isolated lawful (.opening lawful store : StoredEditor yjs L) where
  current := .initial
  apart := ⟨rfl, by simp [StoredEditor.opening], by simp [StoredEditor.opening],
    by simp [StoredEditor.opening], by simp [StoredEditor.opening],
    by simp [StoredEditor.opening]⟩
  store := by
    intro noteId content hstore
    have hstore : store noteId = some content := hstore
    refine ⟨hloadable noteId content hstore, fun selection => ?_⟩
    simp only [StoredEditor.opening, hstore]
    exact WithBot.le_coe_unbotD _ _
  credentials := by simp [StoredEditor.opening]
  covers := by simp [StoredEditor.opening]
  contains := by simp [StoredEditor.opening]

end Isolated

/-- Whatever the order of the calls, the loads, the images and the saves, when each
is in turn, every save that is not stored yet has all that is stored for its
note, and what is saved for a note is its own. -/
theorem saves_contain_note {store : String → Option NoteContent}
    (hloadable : ∀ noteId content, store noteId = some content → Loadable lawful content)
    {events : List StoredEvent}
    (hturn : ∀ earlier event, earlier ++ [event] <+: events →
      InTurn lawful event (afterEditing lawful store earlier : StoredEditor yjs L)) :
    let stored : StoredEditor yjs L := afterEditing lawful store events
    (∀ index save, stored.editor.saves[index]? = some save → index ∉ stored.written →
        ∀ content, stored.store save.noteId = some content → ∀ selection,
          lawful.meaning (content selection) ≤ lawful.meaning (save.content selection)) ∧
      ∀ save ∈ stored.editor.saves, ∀ selection,
        lawful.meaning (save.content selection) ≤ (stored.own save.noteId selection : L) := by
  have hisolated : ∀ earlier, earlier <+: events →
      Isolated lawful (afterEditing lawful store earlier : StoredEditor yjs L) :=
    @run_invariant _ _ (StoredEditor.step lawful) (.opening lawful store) events
      (fun _ stored => Isolated lawful stored) (.opening hloadable)
      fun earlier event hearlier hiso => hiso.step (hturn earlier event hearlier)
  have hiso := hisolated events List.prefix_rfl
  exact ⟨fun index save hsave hleft content hcontent =>
    hiso.contains index save hsave hleft content (.inl hcontent),
    fun save hsave => (hiso.apart.saves save hsave).2⟩

def twoNotes (noteId : String) : Option NoteContent :=
  if noteId = "a" then some fun
    | .main => [1]
    | .image => [2]
    | .comment => []
  else if noteId = "b" then some fun _ => [8]
  else none

def openingEvents (noteId : String) (call : Nat) : List StoredEvent :=
  [.editor (.switchNote (some noteId)), .getCredential call, .credentialArrived call,
    .editor .runEffect, .editor .runTimer]

def editedAndSaved : List StoredEvent :=
  openingEvents "a" 0 ++ [.editor .runTimer, .editor (.edit .main [4]), .editor .saveNote]

theorem loadable_twoNotes : ∀ noteId content, twoNotes noteId = some content →
    Loadable Yrs.editorBits content := by
  intro noteId content hstore
  unfold twoNotes at hstore
  split_ifs at hstore with ha hb
  · cases hstore
    refine ⟨List.cons_ne_nil _ _, fun selection => ?_⟩
    cases selection <;> exact ⟨_, rfl⟩
  · cases hstore
    exact ⟨List.cons_ne_nil _ _, fun _ => ⟨_, rfl⟩⟩

theorem inTurn_of_other {stored : StoredEditor Yrs.bits (Fin 8 → Bool)} {event : StoredEvent}
    (hsave : ∀ editorEvent, event = .editor editorEvent →
      ¬editorEvent.SavesNote stored.editor)
    (hload : event ≠ .editor .runTimer ∨ .loadNote ∉ stored.editor.timers)
    (hother : ∀ index, event ≠ .editor (.imageMeasured index) ∧ event ≠ .saveStored index) :
    InTurn Yrs.editorBits event stored := by
  refine ⟨fun editorEvent heq hsaves => absurd hsaves (hsave editorEvent heq), ?_,
    fun index _ _ heq => absurd heq (hother index).1,
    fun index _ heq => absurd heq (hother index).2⟩
  intro timers note heq htimers
  rcases hload with hload | hload
  · exact absurd heq hload
  · simp [htimers] at hload

theorem editedAndSaved_inTurn :
    EachEvent (fun earlier event => InTurn Yrs.editorBits event
      (afterEditing Yrs.editorBits twoNotes earlier : StoredEditor Yrs.bits _)) []
      editedAndSaved := by
  refine ⟨inTurn_of_other ?_ (by simp) (by simp),
    inTurn_of_other (by simp) (by simp) (by simp), inTurn_of_other (by simp) (by simp) (by simp),
    inTurn_of_other (by simp [EditorEvent.SavesNote]) (by simp) (by simp),
    ⟨by simp [EditorEvent.SavesNote], ?_, by simp, by simp⟩,
    inTurn_of_other (by simp [EditorEvent.SavesNote]) (.inr ?_) (by simp),
    inTurn_of_other (by simp [EditorEvent.SavesNote]) (by simp) (by simp),
    ⟨fun _ _ _ => ⟨.inl ⟨by decide +kernel, ?_⟩, fun note hnote => ?_⟩, by simp, by simp, by simp⟩,
    trivial⟩
  · rintro _ ⟨⟩ hsaves
    exact absurd hsaves.1 (by decide +kernel)
  · intro timers note _ htimers hdata
    cases htimers
    refine ⟨by simp, fun content hheld selection => ?_⟩
    cases hdata
    rcases hheld with hstore | ⟨_, hlt, _⟩
    · cases hstore
      exact le_rfl
    · exact absurd hlt (Nat.not_lt_zero _)
  · exact fun hload => by cases List.mem_singleton.mp hload
  · exact fun hload => absurd hload List.not_mem_nil
  · exact absurd hnote List.not_mem_nil

theorem saves_contain_note_edited :
    (afterEditing Yrs.editorBits twoNotes editedAndSaved : StoredEditor Yrs.bits _).editor.saves.map
        (fun save => (save.noteId, save.content .main, save.content .image)) =
        [("a", [5], [2])] ∧
      ∀ save ∈ (afterEditing Yrs.editorBits twoNotes editedAndSaved :
          StoredEditor Yrs.bits _).editor.saves, ∀ selection,
        Yrs.editorBits.meaning (save.content selection) ≤
          ((afterEditing Yrs.editorBits twoNotes editedAndSaved :
            StoredEditor Yrs.bits _).own save.noteId selection : Fin 8 → Bool) :=
  ⟨by decide +kernel, (saves_contain_note loadable_twoNotes fun _ _ hearlier =>
    editedAndSaved_inTurn.of_prefix hearlier).2⟩

/-- A note is saved before its images are loaded, and another one before its
documents are there. -/
theorem note_saved_too_early :
    (∃ save ∈ (afterEditing Yrs.editorBits twoNotes
        (openingEvents "a" 0 ++ [.editor .saveNote])).editor.saves,
      ∃ content, twoNotes save.noteId = some content ∧
        ¬Yrs.editorBits.meaning (content .image) ≤
          Yrs.editorBits.meaning (save.content .image)) ∧
    ∃ save ∈ (afterEditing Yrs.editorBits twoNotes
        (openingEvents "a" 0 ++ [.editor .runTimer] ++ (openingEvents "b" 1).take 3 ++
          [.editor .saveNote])).editor.saves,
      ∃ content, twoNotes save.noteId = some content ∧
        ¬Yrs.editorBits.meaning (save.content .main) ≤
          Yrs.editorBits.meaning (content .main) := by
  constructor
  · refine ⟨_, List.mem_of_getElem? (i := 0) rfl, _, rfl, fun hle => ?_⟩
    exact absurd (WithBot.coe_le_coe.mp hle 1) (by decide)
  · refine ⟨_, List.mem_of_getElem? (i := 1) rfl, _, rfl, fun hle => ?_⟩
    exact absurd (WithBot.coe_le_coe.mp hle 0) (by decide)

end Osvauld.Livnote
