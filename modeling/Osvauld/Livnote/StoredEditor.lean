import Osvauld.Data.Run
import Osvauld.Livnote.EditorSteps

namespace Osvauld.Livnote

open Osvauld.Core Data

/-! The editor with the store that its notes are read from and saved to. -/

structure EditorYjs (yjs : Yrs) (L : Type*) [SemilatticeSup L] [OrderBot L]
    extends ExactYrs yjs L where
  stateAsUpdate_ne_nil : ∀ doc, yjs.stateAsUpdate doc ≠ []

theorem bits_stateAsUpdate_ne_nil (doc : Yrs.bits.Doc) : Yrs.bits.stateAsUpdate doc ≠ [] :=
  List.cons_ne_nil _ _

def Yrs.editorBits : EditorYjs Yrs.bits (Fin 8 → Bool) where
  toExactYrs := Yrs.exactBits
  stateAsUpdate_ne_nil := bits_stateAsUpdate_ne_nil

structure StoredEditor (yjs : Yrs) (L : Type*) where
  editor : NoteEditor yjs := {}
  store : String → Option NoteContent
  credentials : List (Nat × NoteContent) := []
  written : List Nat := []
  /-- Not in the source: what was stored for each note to begin with, and what was
  put into its documents since, or is stored as an image of it. -/
  own : String → DocSelection → L

inductive StoredEvent where
  | editor (event : EditorEvent)
  | getCredential (index : Nat)
  | credentialArrived (position : Nat)
  | saveStored (index : Nat)

variable {yjs : Yrs} {L : Type*} [SemilatticeSup L] [OrderBot L]
variable (lawful : EditorYjs yjs L)

def EditorEvent.gives (event : EditorEvent) : Option (DocSelection × L) :=
  match event with
  | .edit selection update => some (selection, (lawful.meaning update).unbotD ⊥)
  | .storeImage update => some (.image, (lawful.meaning update).unbotD ⊥)
  | _ => none

def giveOwn (event : EditorEvent) (docsNote : Option String)
    (own : String → DocSelection → L) : String → DocSelection → L :=
  match event.gives lawful, docsNote with
  | some (selection, given), some noteId => fun other otherSelection =>
      if other = noteId ∧ otherSelection = selection then own other otherSelection ⊔ given
      else own other otherSelection
  | _, _ => own

namespace StoredEditor

def opening (store : String → Option NoteContent) : StoredEditor yjs L :=
  { store
    own := fun noteId selection =>
      match store noteId with
      | some content => (lawful.meaning (content selection)).unbotD ⊥
      | none => ⊥ }

def step (event : StoredEvent) (stored : StoredEditor yjs L) : StoredEditor yjs L :=
  match event with
  -- The only answers are the ones that were read.
  | .editor (.switchAnswered _ (some _)) => stored
  | .editor event =>
      { stored with
        editor := stored.editor.step event
        own := giveOwn lawful event stored.editor.docsNote stored.own }
  | .getCredential index =>
      match (stored.editor.switches[index]?).bind fun call => stored.store call.noteId with
      | some content => { stored with credentials := stored.credentials ++ [(index, content)] }
      | none => stored
  | .credentialArrived position =>
      match stored.credentials[position]? with
      | some (index, content) =>
          { stored with editor := stored.editor.step (.switchAnswered index (some content)) }
      | none => stored
  | .saveStored index =>
      match stored.editor.saves[index]? with
      | some save =>
          if index ∈ stored.written then stored
          else
            { stored with
              store := Function.update stored.store save.noteId (some save.content)
              written := stored.written ++ [index] }
      | none => stored

end StoredEditor

def afterEditing (store : String → Option NoteContent) (events : List StoredEvent) :
    StoredEditor yjs L :=
  run (StoredEditor.step lawful) (.opening lawful store) events

def StoredEditor.HeldBefore (stored : StoredEditor yjs L) (index : Nat) (noteId : String)
    (content : NoteContent) : Prop :=
  stored.store noteId = some content ∨
    ∃ earlier < index, ∃ save, stored.editor.saves[earlier]? = some save ∧
      earlier ∉ stored.written ∧ save.noteId = noteId ∧ save.content = content

def StoredEditor.Held (stored : StoredEditor yjs L) (noteId : String)
    (content : NoteContent) : Prop :=
  stored.HeldBefore stored.editor.saves.length noteId content

/-- A note is saved while its own documents are there, with nothing left to load
into them; it is loaded from data that has all that it holds, and not between the load
of another note and the deferred loads of that; an image is added to the
documents it was stored for; and the saves of a note are stored in their order. -/
structure InTurn (event : StoredEvent) (stored : StoredEditor yjs L) : Prop where
  saved : ∀ editorEvent, event = .editor editorEvent → editorEvent.SavesNote stored.editor →
    (Settled stored.editor ∨ stored.editor.docsNote = stored.editor.currentNoteId) ∧
      ∀ note, .deferImageLoading note ∈ stored.editor.timers → ∀ selection ≠ .main,
        lawful.meaning (note.data selection) ≤
          (lawful.state (stored.editor.docs selection) : L)
  loaded : ∀ timers note, event = .editor .runTimer →
    stored.editor.timers = .loadNote :: timers → stored.editor.currentNoteData = some note →
      (∀ other, .deferImageLoading other ∈ timers → other.id = note.id) ∧
        ∀ content, stored.Held note.id content → ∀ selection,
          lawful.meaning (content selection) ≤ lawful.meaning (note.data selection)
  measured : ∀ index noteId update, event = .editor (.imageMeasured index) →
    stored.editor.storing[index]? = some ⟨noteId, update, false⟩ →
      noteId = stored.editor.docsNote
  stored : ∀ index save, event = .saveStored index → stored.editor.saves[index]? = some save →
    ∀ earlier < index, ∀ other, stored.editor.saves[earlier]? = some other →
      other.noteId = save.noteId → earlier ∈ stored.written

def Loadable (content : NoteContent) : Prop :=
  content .main ≠ [] ∧ ∀ selection, ∃ held : L, lawful.meaning (content selection) = held

end Osvauld.Livnote
